import Testbed.Resource.Workload

namespace Testbed

/-!
Network policies: which pods may talk to the pods that a selector picks.
-/

/-- Pods at the other end of a connection. -/
structure Peer where
  podSelector : LabelSelector
  deriving DecidableEq

namespace Peer

/-- The names of the fields in a document, in their order. -/
def fieldNames : List String :=
  ["podSelector"]

def toJson (value : Peer) : Json :=
  .record
    [("podSelector", some value.podSelector.toJson)]

def ofJson (document : Json) : Option Peer := do
  let [podSelector] ← document.fields? fieldNames | none
  return {
    podSelector := ← Json.required LabelSelector.ofJson podSelector }

end Peer

/-- Where connections may come from. -/
structure IngressRule where
  peers : List Peer
  deriving DecidableEq

namespace IngressRule

/-- The names of the fields in a document, in their order. -/
def fieldNames : List String :=
  ["from"]

def toJson (value : IngressRule) : Json :=
  .record
    [("from", some (.ofList Peer.toJson value.peers))]

def ofJson (document : Json) : Option IngressRule := do
  let [peers] ← document.fields? fieldNames | none
  return {
    peers := ← Json.required (Json.toListOf? Peer.ofJson) peers }

end IngressRule

/-- Where connections may go to. -/
structure EgressRule where
  peers : List Peer
  deriving DecidableEq

namespace EgressRule

/-- The names of the fields in a document, in their order. -/
def fieldNames : List String :=
  ["to"]

def toJson (value : EgressRule) : Json :=
  .record
    [("to", some (.ofList Peer.toJson value.peers))]

def ofJson (document : Json) : Option EgressRule := do
  let [peers] ← document.fields? fieldNames | none
  return {
    peers := ← Json.required (Json.toListOf? Peer.ofJson) peers }

end EgressRule

/-- Whom a policy is about and what it allows. -/
structure NetworkPolicy.Spec where
  podSelector : LabelSelector
  policyTypes : List String
  ingress : List IngressRule := []
  egress : List EgressRule := []
  deriving DecidableEq

namespace NetworkPolicy.Spec

/-- The names of the fields in a document, in their order. -/
def fieldNames : List String :=
  ["podSelector", "policyTypes", "ingress", "egress"]

def toJson (value : NetworkPolicy.Spec) : Json :=
  .record
    [("podSelector", some value.podSelector.toJson),
      ("policyTypes", some (.strings value.policyTypes)),
      ("ingress", some (.ofList IngressRule.toJson value.ingress)),
      ("egress", some (.ofList EgressRule.toJson value.egress))]

def ofJson (document : Json) : Option NetworkPolicy.Spec := do
  let [podSelector, policyTypes, ingress, egress] ← document.fields? fieldNames | none
  return {
    podSelector := ← Json.required LabelSelector.ofJson podSelector
    policyTypes := ← Json.required Json.toStrings? policyTypes
    ingress := ← Json.defaulted [] (Json.toListOf? IngressRule.ofJson) ingress
    egress := ← Json.defaulted [] (Json.toListOf? EgressRule.ofJson) egress }

end NetworkPolicy.Spec

/-- A policy on the connections of pods. -/
structure NetworkPolicy extends ResourceHeader where
  spec : NetworkPolicy.Spec
  deriving DecidableEq

namespace NetworkPolicy

/-- The names of the fields in a document, in their order. -/
def fieldNames : List String :=
  ["apiVersion", "kind", "metadata", "spec"]

def toJson (value : NetworkPolicy) : Json :=
  .record
    [("apiVersion", some (.string value.apiVersion)),
      ("kind", some (.string value.kind)),
      ("metadata", some value.metadata.toJson),
      ("spec", some value.spec.toJson)]

def ofJson (document : Json) : Option NetworkPolicy := do
  let [apiVersion, kind, metadata, spec] ← document.fields? fieldNames | none
  return {
    apiVersion := ← Json.required Json.toString? apiVersion
    kind := ← Json.required Json.toString? kind
    metadata := ← Json.required Metadata.ofJson metadata
    spec := ← Json.required NetworkPolicy.Spec.ofJson spec }

end NetworkPolicy

end Testbed
