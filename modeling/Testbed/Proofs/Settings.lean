import Mathlib.Logic.Function.Basic
import Testbed.Proofs.Json.Writing
import Testbed.Proofs.Serial.Basic
import Testbed.Proofs.Text.Numeral
import Testbed.Settings

namespace Testbed
namespace Settings

/-!
# Where settings come from

Settings are read from variables and from documents.  Each variable sets one field, and a field that no variable
sets has its default.  `Origin.all` lists which variable sets which field, and `ofLookup_eq_ok_iff` says that the
reader keeps to this list: everything else about it follows from there.
-/

/-- A variable that settings are read from, with the field that it sets. -/
inductive Origin where
  | text (key : String) (field : Settings → String)
  /-- The numbers in the field are below the bound. -/
  | numeral (key : String) (bound : Nat) (field : Settings → Nat)

namespace Origin

/-- Every variable. -/
def all : List Origin :=
  [.text "TIDEPOOL_NAMESPACE" Settings.space,
    .text "TIDEPOOL_IMAGE_REGISTRY" Settings.imageRegistry,
    .text "TIDEPOOL_IMAGE_TTL" Settings.imageTtl,
    .numeral "TIDEPOOL_READINESS_TIMEOUT_SECS" UInt64.size fun settings => settings.readinessTimeoutSecs.toNat,
    .numeral "TIDEPOOL_READINESS_POLL_INTERVAL_MS" UInt64.size fun settings =>
      settings.readinessPollIntervalMs.toNat,
    .numeral "TIDEPOOL_PORT_FORWARD_ATTEMPTS" UInt32.size fun settings => settings.portForwardAttempts.toNat,
    .numeral "TIDEPOOL_PORT_FORWARD_RETRY_DELAY_SECS" UInt64.size fun settings =>
      settings.portForwardRetryDelaySecs.toNat,
    .text "TIDEPOOL_OTEL_COLLECTOR_IMAGE" Settings.otelCollectorImage,
    .text "TIDEPOOL_FAULT_INJECTION_IMAGE" Settings.faultInjectionImage,
    .text "TIDEPOOL_INIT_IMAGE" Settings.initImage]

def key : Origin → String
  | text key _ => key
  | numeral key _ _ => key

/-- Whether two settings have the same in the field of a variable. -/
def Agrees : Origin → Settings → Settings → Prop
  | text _ field, first, second => field first = field second
  | numeral _ _ field, first, second => field first = field second

/-- Whether a variable can hold this to say what its field is. -/
def Renders : Origin → Settings → String → Prop
  | text _ field, settings, value => value = field settings
  | numeral _ _ field, settings, value => Text.IsPadded (toString (field settings)).toList value.toList

/-- Whether a number comes from what a variable holds, and from the default if the variable is absent. -/
def Yields (bound default : Nat) : Option String → Nat → Prop
  | none, number => number = default
  | some value, number =>
    (∃ core, Text.IsPadded core value.toList ∧ Text.IsNumeral core number) ∧ number < bound

/-- Whether settings have in the field of a variable what the variable holds, and the default if it is absent. -/
def Sets : Origin → Option String → Settings → Prop
  | text _ field, given, settings => field settings = given.getD (field {})
  | numeral _ bound field, given, settings => Yields bound (field {}) given (field settings)

/-- Whether what a variable holds, if anything, can be read. -/
def Accepts : Origin → Option String → Prop
  | text _ _, _ => True
  | numeral _ bound _, given => ∀ value ∈ given, ∃ core number,
      Text.IsPadded core value.toList ∧ Text.IsNumeral core number ∧ number < bound

end Origin

variable {lookup : String → Option String} {settings first second : Settings} {given : Option String}
  {bound default number : Nat} {key value : String}

/-! ## Single variables -/

theorem numberFrom_eq_ok_iff :
    numberFrom lookup key bound default = .ok number ↔ Origin.Yields bound default (lookup key) number := by
  rw [numberFrom]
  cases lookup key with
  | none =>
      rw [Origin.Yields, Except.ok.injEq]
      exact eq_comm
  | some value =>
      rw [Origin.Yields, ← Text.natural?_trimBy_eq_some_iff]
      dsimp only
      cases Text.natural? bound (Text.trimBy Text.isBlank value.toList) with
      | none => simp only [reduceCtorEq]
      | some found => simp only [Except.ok.injEq, Option.some.injEq]

namespace Origin

theorem Yields.lt (yields : Yields bound default given number) (fits : default < bound) : number < bound := by
  cases given with
  | none => exact lt_of_eq_of_lt yields fits
  | some value => exact yields.2

/-- A number that is yielded below a bound of machine words is the number of a word. -/
theorem Yields.word64 (yields : Yields UInt64.size default given number) (fits : default < UInt64.size) :
    Yields UInt64.size default given (UInt64.ofNat number).toNat := by
  rwa [UInt64.toNat_ofNat_of_lt' (yields.lt fits)]

theorem Yields.word32 (yields : Yields UInt32.size default given number) (fits : default < UInt32.size) :
    Yields UInt32.size default given (UInt32.ofNat number).toNat := by
  rwa [UInt32.toNat_ofNat_of_lt' (yields.lt fits)]

/-- A variable yields one number at most. -/
theorem Yields.unique {other : Nat} (yields : Yields bound default given number)
    (again : Yields bound default given other) : other = number := by
  cases given with
  | none => exact again.trans yields.symm
  | some value =>
      have found := Text.natural?_trimBy_eq_some_iff.mpr yields
      exact Option.some.inj ((Text.natural?_trimBy_eq_some_iff.mpr again).symm.trans found)

theorem Sets.agrees {origin : Origin} (sets : origin.Sets given first)
    (again : origin.Sets given second) : origin.Agrees first second := by
  cases origin with
  | text key field => exact sets.trans again.symm
  | numeral key bound field => exact again.unique sets

theorem Sets.accepts {origin : Origin} (sets : origin.Sets given settings) :
    origin.Accepts given := by
  cases origin with
  | text key field => trivial
  | numeral key bound field =>
      rintro value rfl
      rcases sets with ⟨⟨core, padded, numeral⟩, below⟩
      exact ⟨core, _, padded, numeral, below⟩

theorem lt_of_mem {field : Settings → Nat} (listed : .numeral key bound field ∈ all) (settings : Settings) :
    field settings < bound := by
  simp only [all, List.mem_cons, reduceCtorEq, numeral.injEq, List.not_mem_nil, false_or, or_false] at listed
  rcases listed with ⟨_, rfl, rfl⟩ | ⟨_, rfl, rfl⟩ | ⟨_, rfl, rfl⟩ | ⟨_, rfl, rfl⟩
  · exact UInt64.toNat_lt_size _
  · exact UInt64.toNat_lt_size _
  · exact UInt32.toNat_lt_size _
  · exact UInt64.toNat_lt_size _

theorem Accepts.exists_yields {field : Settings → Nat} (accepts : (numeral key bound field).Accepts given)
    (default : Nat) : ∃ number, Yields bound default given number := by
  cases given with
  | none => exact ⟨default, rfl⟩
  | some value =>
      rcases accepts value rfl with ⟨core, number, padded, numeral, below⟩
      exact ⟨number, ⟨core, padded, numeral⟩, below⟩

/-- What a variable can hold to say what a field is, it sets the field to. -/
theorem Renders.sets {origin : Origin} (listed : origin ∈ all) (renders : origin.Renders settings value) :
    origin.Sets (some value) settings := by
  cases origin with
  | text key field => exact Eq.symm renders
  | numeral key bound field =>
      exact ⟨⟨_, renders, Text.IsNumeral.ofNat (field settings)⟩, lt_of_mem listed settings⟩

/-- The fields of the variables are all there is. -/
theorem eq_of_agrees (agree : ∀ origin ∈ all, origin.Agrees first second) : first = second := by
  simp only [all, List.forall_mem_cons, Agrees, UInt64.toNat_inj, UInt32.toNat_inj] at agree
  rcases agree with ⟨space, registry, ttl, timeout, interval, attempts, delay, collector, fault, init, _⟩
  cases first
  cases second
  simp only [Settings.mk.injEq]
  exact ⟨space, registry, ttl, timeout, interval, attempts, delay, collector, fault, init⟩

end Origin

/-! ## All variables -/

theorem bind_eq_ok_iff {ε α β : Type} {first : Except ε α} {next : α → Except ε β} {result : β} :
    first >>= next = .ok result ↔ ∃ value, first = .ok value ∧ next value = .ok result := by
  cases first with
  | error error => simp only [bind, Except.bind, reduceCtorEq, false_and, exists_false]
  | ok value => simp only [bind, Except.bind, Except.ok.injEq, exists_eq_left']

/-- The settings that variables describe, of which those for numbers have been read. -/
def overlaid (lookup : String → Option String) (timeout interval attempts delay : Nat) : Settings :=
  { space := textFrom lookup "TIDEPOOL_NAMESPACE" ({} : Settings).space
    imageRegistry := textFrom lookup "TIDEPOOL_IMAGE_REGISTRY" ({} : Settings).imageRegistry
    imageTtl := textFrom lookup "TIDEPOOL_IMAGE_TTL" ({} : Settings).imageTtl
    readinessTimeoutSecs := UInt64.ofNat timeout
    readinessPollIntervalMs := UInt64.ofNat interval
    portForwardAttempts := UInt32.ofNat attempts
    portForwardRetryDelaySecs := UInt64.ofNat delay
    otelCollectorImage := textFrom lookup "TIDEPOOL_OTEL_COLLECTOR_IMAGE" ({} : Settings).otelCollectorImage
    faultInjectionImage :=
      textFrom lookup "TIDEPOOL_FAULT_INJECTION_IMAGE" ({} : Settings).faultInjectionImage
    initImage := textFrom lookup "TIDEPOOL_INIT_IMAGE" ({} : Settings).initImage }

theorem sets_overlaid {timeout interval attempts delay : Nat}
    (timed : Origin.Yields UInt64.size ({} : Settings).readinessTimeoutSecs.toNat
      (lookup "TIDEPOOL_READINESS_TIMEOUT_SECS") timeout)
    (paced : Origin.Yields UInt64.size ({} : Settings).readinessPollIntervalMs.toNat
      (lookup "TIDEPOOL_READINESS_POLL_INTERVAL_MS") interval)
    (tried : Origin.Yields UInt32.size ({} : Settings).portForwardAttempts.toNat
      (lookup "TIDEPOOL_PORT_FORWARD_ATTEMPTS") attempts)
    (paused : Origin.Yields UInt64.size ({} : Settings).portForwardRetryDelaySecs.toNat
      (lookup "TIDEPOOL_PORT_FORWARD_RETRY_DELAY_SECS") delay) :
    ∀ origin ∈ Origin.all,
      origin.Sets (lookup origin.key) (overlaid lookup timeout interval attempts delay) := by
  simp only [Origin.all, List.forall_mem_cons, Origin.Sets, Origin.key]
  exact ⟨rfl, rfl, rfl, timed.word64 (by decide), paced.word64 (by decide), tried.word32 (by decide),
    paused.word64 (by decide), rfl, rfl, rfl, List.forall_mem_nil _⟩

/-- Settings are read if they have in each field what comes from its variable, and pass the check as a whole. -/
theorem ofLookup_eq_ok_iff :
    ofLookup lookup = .ok settings ↔
      (∀ origin ∈ Origin.all, origin.Sets (lookup origin.key) settings) ∧ settings.validate = .ok () := by
  simp only [ofLookup, bind_eq_ok_iff, numberFrom_eq_ok_iff]
  constructor
  · rintro ⟨timeout, timed, interval, paced, attempts, tried, delay, paused, ⟨⟩, valid, same⟩
    obtain rfl : overlaid lookup timeout interval attempts delay = settings := Except.ok.inj same
    exact ⟨sets_overlaid timed paced tried paused, valid⟩
  · rintro ⟨sets, valid⟩
    have whole := sets
    simp only [Origin.all, List.forall_mem_cons, Origin.Sets, Origin.key] at sets
    rcases sets with ⟨_, _, _, timed, paced, tried, paused, _⟩
    have same := Origin.eq_of_agrees fun origin listed =>
      (sets_overlaid timed paced tried paused origin listed).agrees (whole origin listed)
    refine ⟨_, timed, _, paced, _, tried, _, paused, (), ?_⟩
    change (overlaid lookup _ _ _ _).validate = _ ∧ Except.ok (overlaid lookup _ _ _ _) = _
    rw [same]
    exact ⟨valid, rfl⟩

/-- Nothing matters of variables but those that set fields. -/
theorem ofLookup_congr {other : String → Option String}
    (same : ∀ origin ∈ Origin.all, lookup origin.key = other origin.key) : ofLookup lookup = ofLookup other := by
  simp only [Origin.all, List.forall_mem_cons, Origin.key] at same
  rcases same with ⟨space, registry, ttl, timeout, interval, attempts, delay, collector, fault, init, _⟩
  simp only [ofLookup, textFrom, numberFrom, space, registry, ttl, timeout, interval, attempts, delay, collector,
    fault, init]

/-- Where every variable can be read, there are settings that have in each field what comes from its variable. -/
theorem exists_sets (accept : ∀ origin ∈ Origin.all, origin.Accepts (lookup origin.key)) :
    ∃ settings : Settings, ∀ origin ∈ Origin.all, origin.Sets (lookup origin.key) settings := by
  simp only [Origin.all, List.forall_mem_cons] at accept
  rcases accept with ⟨_, _, _, timeout, interval, attempts, delay, _⟩
  rcases timeout.exists_yields ({} : Settings).readinessTimeoutSecs.toNat with ⟨timeout, timed⟩
  rcases interval.exists_yields ({} : Settings).readinessPollIntervalMs.toNat with ⟨interval, paced⟩
  rcases attempts.exists_yields ({} : Settings).portForwardAttempts.toNat with ⟨attempts, tried⟩
  rcases delay.exists_yields ({} : Settings).portForwardRetryDelaySecs.toNat with ⟨delay, paused⟩
  refine ⟨overlaid lookup timeout interval attempts delay, ?_⟩
  exact sets_overlaid timed paced tried paused

/-! ## Documents -/

/-- Settings are read back from their document, in whatever order its members are. -/
theorem inverts_toJson {present : Json → Json} (arranges : Json.Rearranges present) :
    Json.Inverts present toJson ofJson := by
  refine Json.inverts_record arranges (fun _ => rfl) (by decide) fun value => ?_
  simp only [List.map_cons, List.map_nil, ofFields, (Json.inverts_string arranges).defaulted,
    (Json.inverts_word arranges).defaulted, (Json.inverts_count arranges).defaulted, Option.bind_eq_bind,
    Option.bind_some]
  rfl

theorem isExact_toJson (settings : Settings) : settings.toJson.IsExact := by
  have natural (number : Nat) (fits : number < Nat.pow 2 64) : (Json.natural number).IsExact := by
    rw [Json.natural, Json.IsExact]
    omega
  have words (word : UInt64) := natural word.toNat word.toNat_lt
  have counts (count : UInt32) := natural count.toNat (Nat.lt_trans count.toNat_lt (by decide))
  simp only [toJson, Json.record, List.filterMap_cons, List.filterMap_nil, Option.map_some, Json.IsExact,
    Json.HaveExactValues, words, counts, and_self]

/-- Settings are read back from the text of their document. -/
theorem ofText_compact (settings : Settings) : ofText settings.toJson.compact = some settings := by
  have fields : (RawJson.ofJson settings.toJson).plainFields? fieldNames = settings.toJson.fields? fieldNames := by
    rfl
  rw [ofText, RawJson.parse_compact settings.isExact_toJson, Option.bind_some, fields]
  exact (inverts_toJson Json.rearranges_id).reads settings

/-! ## Agreement of all sources -/

/-- Settings that pass the check are read back from variables that hold them, with any blanks around numbers, and
from their document.  What is read from variables depends on nothing but those for the fields.  Each variable
that is present sets its own field, and all others have their defaults; so whatever is put into a
variable, no other field changes.  And settings are read exactly if every number that is given is a numeral within
the range of its field, and the settings that come of it pass the check. -/
theorem sources_agree :
    (∀ settings : Settings, settings.validate = .ok () →
      (∀ lookup : String → Option String,
        (∀ origin ∈ Origin.all, ∃ value, lookup origin.key = some value ∧ origin.Renders settings value) →
        ofLookup lookup = .ok settings) ∧
      ofText settings.toJson.compact = some settings ∧ ofJson settings.toJson = some settings ∧
      ofJson settings.toJson.sorted = some settings) ∧
    (∀ first second : String → Option String,
      (∀ origin ∈ Origin.all, first origin.key = second origin.key) → ofLookup first = ofLookup second) ∧
    (Origin.all.map Origin.key).Nodup ∧
    (∀ first second : Settings, (∀ origin ∈ Origin.all, origin.Agrees first second) → first = second) ∧
    (∀ lookup settings, ofLookup lookup = .ok settings →
      ∀ origin ∈ Origin.all, origin.Sets (lookup origin.key) settings) ∧
    (∀ lookup key value before after, ofLookup lookup = .ok before →
      ofLookup (Function.update lookup key value) = .ok after →
      ∀ origin ∈ Origin.all, origin.key ≠ key → origin.Agrees before after) ∧
    ∀ lookup, (∃ settings, ofLookup lookup = .ok settings) ↔
      (∀ origin ∈ Origin.all, origin.Accepts (lookup origin.key)) ∧
      ∀ settings : Settings, (∀ origin ∈ Origin.all, origin.Sets (lookup origin.key) settings) →
        settings.validate = .ok () := by
  refine ⟨?_, fun _ _ => ofLookup_congr, by decide, fun _ _ => Origin.eq_of_agrees,
    fun _ _ read => (ofLookup_eq_ok_iff.mp read).1, ?_, ?_⟩
  · intro settings valid
    refine ⟨fun lookup rendered => ofLookup_eq_ok_iff.mpr ⟨fun origin listed => ?_, valid⟩,
      ofText_compact settings, (inverts_toJson Json.rearranges_id).reads settings,
      (inverts_toJson Json.rearranges_sorted).reads settings⟩
    rcases rendered origin listed with ⟨value, given, renders⟩
    rw [given]
    exact renders.sets listed
  · intro lookup key value before after read again origin listed apart
    have sets := (ofLookup_eq_ok_iff.mp again).1 origin listed
    rw [Function.update_of_ne apart] at sets
    exact ((ofLookup_eq_ok_iff.mp read).1 origin listed).agrees sets
  · intro lookup
    constructor
    · rintro ⟨settings, read⟩
      rcases ofLookup_eq_ok_iff.mp read with ⟨sets, valid⟩
      refine ⟨fun origin listed => (sets origin listed).accepts, fun others also => ?_⟩
      obtain rfl := Origin.eq_of_agrees fun origin listed => (sets origin listed).agrees (also origin listed)
      exact valid
    · rintro ⟨accept, valid⟩
      rcases exists_sets accept with ⟨settings, sets⟩
      exact ⟨settings, ofLookup_eq_ok_iff.mpr ⟨sets, valid settings sets⟩⟩

/-- Variables that hold settings for slow clusters, with blanks around some of the numbers. -/
def slowVariables (key : String) : Option String :=
  List.lookup key
    [("TIDEPOOL_NAMESPACE", "chaos"), ("TIDEPOOL_IMAGE_REGISTRY", "ttl.sh"), ("TIDEPOOL_IMAGE_TTL", "1h"),
      ("TIDEPOOL_READINESS_TIMEOUT_SECS", " 120\n"), ("TIDEPOOL_READINESS_POLL_INTERVAL_MS", "1000"),
      ("TIDEPOOL_PORT_FORWARD_ATTEMPTS", "\t30"), ("TIDEPOOL_PORT_FORWARD_RETRY_DELAY_SECS", "5 "),
      ("TIDEPOOL_OTEL_COLLECTOR_IMAGE", "otel/opentelemetry-collector-contrib"),
      ("TIDEPOOL_FAULT_INJECTION_IMAGE", "ghcr.io/celestiaorg/bittwister:0.0.12"),
      ("TIDEPOOL_INIT_IMAGE", "docker.io/busybox:1.36")]

/-- Settings for slow clusters are read from variables as they are, and from a document. -/
theorem sources_agree_for_slow_clusters :
    let settings : Settings :=
      { space := "chaos", imageTtl := "1h", readinessTimeoutSecs := 120, portForwardAttempts := 30 }
    settings.validate = .ok () ∧ ofLookup slowVariables = .ok settings ∧
      ofText settings.toJson.compact = some settings := by
  intro settings
  have valid : settings.validate = .ok () := rfl
  have padded {core text : List Char} (before after : List Char) (parts : text = before ++ core ++ after)
      (leading : before.all Text.isBlank = true) (trailing : after.all Text.isBlank = true) :
      Text.IsPadded core text :=
    ⟨before, after, parts, List.all_eq_true.mp leading, List.all_eq_true.mp trailing⟩
  have rendered : ∀ origin ∈ Origin.all,
      ∃ value, slowVariables origin.key = some value ∧ origin.Renders settings value := by
    simp only [Origin.all, List.forall_mem_cons, Origin.Renders, Origin.key]
    exact ⟨⟨_, rfl, rfl⟩, ⟨_, rfl, rfl⟩, ⟨_, rfl, rfl⟩, ⟨_, rfl, padded [' '] ['\n'] (by decide) rfl rfl⟩,
      ⟨_, rfl, padded [] [] (by decide) rfl rfl⟩, ⟨_, rfl, padded ['\t'] [] (by decide) rfl rfl⟩,
      ⟨_, rfl, padded [] [' '] (by decide) rfl rfl⟩, ⟨_, rfl, rfl⟩, ⟨_, rfl, rfl⟩, ⟨_, rfl, rfl⟩,
      List.forall_mem_nil _⟩
  rcases sources_agree.1 settings valid with ⟨read, document, _⟩
  exact ⟨valid, read _ rendered, document⟩

end Settings
end Testbed
