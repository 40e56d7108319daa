import Testbed.Error
import Testbed.Json.Raw
import Testbed.Json.Record
import Testbed.Text.Basic

namespace Testbed

/-!
The settings shared by all instances of a testbed. They start from defaults, are overridden one by one
from named variables, and are checked as a whole.
-/

/-- The settings shared by all instances of a testbed. -/
structure Settings where
  /-- The namespace of every resource. -/
  space : String := "tidepool"
  /-- Where changed images are pushed. -/
  imageRegistry : String := "ttl.sh"
  /-- The tag of pushed images, which is also how long they live. -/
  imageTtl : String := "24h"
  /-- How long a start waits for readiness. -/
  readinessTimeoutSecs : UInt64 := 60
  /-- How often readiness is looked at. -/
  readinessPollIntervalMs : UInt64 := 1000
  /-- How often a tunnel is tried. -/
  portForwardAttempts : UInt32 := 5
  /-- The pause between two tries of a tunnel. -/
  portForwardRetryDelaySecs : UInt64 := 5
  /-- The collector's image, to which its version is added. -/
  otelCollectorImage : String := "otel/opentelemetry-collector-contrib"
  /-- The image of the sidecar that shapes traffic. -/
  faultInjectionImage : String := "ghcr.io/celestiaorg/bittwister:0.0.12"
  /-- The image of the container that hands volumes to their owners. -/
  initImage : String := "docker.io/busybox:1.36"
  deriving DecidableEq

namespace Settings

/-- The first rule that settings break, if any. -/
def fault? (settings : Settings) : Option Reason :=
  if settings.space.isEmpty then some .emptyNamespace
  else if settings.imageRegistry.isEmpty then some .emptyRegistry
  else if settings.readinessPollIntervalMs = 0 then some .noPollInterval
  else if settings.portForwardAttempts = 0 then some .noAttempts
  else none

/-- Refuses settings with which every start or every tunnel would fail. -/
def validate (settings : Settings) : Except Error Unit :=
  match settings.fault? with
  | some reason => .error (.validation Error.unknown reason)
  | none => .ok ()

/-- The value of a text setting: what the variable holds, or the value so far. -/
def textFrom (lookup : String → Option String) (key : String) (current : String) : String :=
  (lookup key).getD current

/-- The value of a numeric setting below a bound. Blanks around the numeral do not matter. -/
def numberFrom (lookup : String → Option String) (key : String) (bound current : Nat) :
    Except Error Nat :=
  match lookup key with
  | none => .ok current
  | some value =>
    match Text.natural? bound (Text.trimBy Text.isBlank value.toList) with
    | some number => .ok number
    | none => .error (.validation Error.unknown (.badNumber key value))

/-- The settings that variables describe. -/
def ofLookup (lookup : String → Option String) : Except Error Settings := do
  let initial : Settings := {}
  let timeout ← numberFrom lookup "TIDEPOOL_READINESS_TIMEOUT_SECS" UInt64.size
    initial.readinessTimeoutSecs.toNat
  let interval ← numberFrom lookup "TIDEPOOL_READINESS_POLL_INTERVAL_MS" UInt64.size
    initial.readinessPollIntervalMs.toNat
  let attempts ← numberFrom lookup "TIDEPOOL_PORT_FORWARD_ATTEMPTS" UInt32.size
    initial.portForwardAttempts.toNat
  let delay ← numberFrom lookup "TIDEPOOL_PORT_FORWARD_RETRY_DELAY_SECS" UInt64.size
    initial.portForwardRetryDelaySecs.toNat
  let settings : Settings :=
    { space := textFrom lookup "TIDEPOOL_NAMESPACE" initial.space
      imageRegistry := textFrom lookup "TIDEPOOL_IMAGE_REGISTRY" initial.imageRegistry
      imageTtl := textFrom lookup "TIDEPOOL_IMAGE_TTL" initial.imageTtl
      readinessTimeoutSecs := UInt64.ofNat timeout
      readinessPollIntervalMs := UInt64.ofNat interval
      portForwardAttempts := UInt32.ofNat attempts
      portForwardRetryDelaySecs := UInt64.ofNat delay
      otelCollectorImage := textFrom lookup "TIDEPOOL_OTEL_COLLECTOR_IMAGE" initial.otelCollectorImage
      faultInjectionImage := textFrom lookup "TIDEPOOL_FAULT_INJECTION_IMAGE" initial.faultInjectionImage
      initImage := textFrom lookup "TIDEPOOL_INIT_IMAGE" initial.initImage }
  settings.validate
  return settings

def readinessTimeout (settings : Settings) : Duration :=
  .ofSeconds settings.readinessTimeoutSecs.toNat

def readinessPollInterval (settings : Settings) : Duration :=
  .ofMilliseconds settings.readinessPollIntervalMs.toNat

def portForwardRetryDelay (settings : Settings) : Duration :=
  .ofSeconds settings.portForwardRetryDelaySecs.toNat

/-- The names of the fields in a document, in their order. -/
def fieldNames : List String :=
  ["namespace", "imageRegistry", "imageTtl", "readinessTimeoutSecs", "readinessPollIntervalMs",
    "portForwardAttempts", "portForwardRetryDelaySecs", "otelCollectorImage", "faultInjectionImage",
    "initImage"]

/-- Settings as a document. -/
def toJson (settings : Settings) : Json :=
  .record
    [("namespace", some (.string settings.space)),
      ("imageRegistry", some (.string settings.imageRegistry)),
      ("imageTtl", some (.string settings.imageTtl)),
      ("readinessTimeoutSecs", some (.natural settings.readinessTimeoutSecs.toNat)),
      ("readinessPollIntervalMs", some (.natural settings.readinessPollIntervalMs.toNat)),
      ("portForwardAttempts", some (.natural settings.portForwardAttempts.toNat)),
      ("portForwardRetryDelaySecs", some (.natural settings.portForwardRetryDelaySecs.toNat)),
      ("otelCollectorImage", some (.string settings.otelCollectorImage)),
      ("faultInjectionImage", some (.string settings.faultInjectionImage)),
      ("initImage", some (.string settings.initImage))]

/-- The settings that the values of fields make; what is left out has its default. -/
def ofFields (fields : List (Option Json)) : Option Settings := do
  let [space, registry, ttl, timeout, interval, attempts, delay, collector, fault, init] := fields
    | none
  let initial : Settings := {}
  return {
    space := ← Json.defaulted initial.space Json.toString? space
    imageRegistry := ← Json.defaulted initial.imageRegistry Json.toString? registry
    imageTtl := ← Json.defaulted initial.imageTtl Json.toString? ttl
    readinessTimeoutSecs := ← Json.defaulted initial.readinessTimeoutSecs Json.toUInt64? timeout
    readinessPollIntervalMs := ← Json.defaulted initial.readinessPollIntervalMs Json.toUInt64? interval
    portForwardAttempts := ← Json.defaulted initial.portForwardAttempts Json.toUInt32? attempts
    portForwardRetryDelaySecs := ← Json.defaulted initial.portForwardRetryDelaySecs Json.toUInt64? delay
    otelCollectorImage := ← Json.defaulted initial.otelCollectorImage Json.toString? collector
    faultInjectionImage := ← Json.defaulted initial.faultInjectionImage Json.toString? fault
    initImage := ← Json.defaulted initial.initImage Json.toString? init }

/-- The settings a document describes. -/
def ofJson (document : Json) : Option Settings :=
  (document.fields? fieldNames).bind ofFields

/-- The settings a text describes. A field may not be given twice; all other members are skipped. -/
def ofText (text : String) : Option Settings :=
  ((RawJson.parse text).bind fun document => document.plainFields? fieldNames).bind ofFields

end Settings
end Testbed
