import Testbed.Json.Record

namespace Testbed

/-!
Metadata of resources: name, namespace, labels and annotations. Whatever this library makes carries the
label of its manager.
-/

/-- The metadata of a resource. -/
structure Metadata where
  name : String
  space : String
  labels : StringMap := .empty
  annotations : StringMap := .empty
  deriving DecidableEq

namespace Metadata

/-- The names of the fields in a document, in their order. -/
def fieldNames : List String :=
  ["name", "namespace", "labels", "annotations"]

def toJson (value : Metadata) : Json :=
  .record
    [("name", some (.string value.name)),
      ("namespace", some (.string value.space)),
      ("labels", Json.unlessEmpty value.labels.isEmpty (.ofStringMap value.labels)),
      ("annotations", Json.unlessEmpty value.annotations.isEmpty (.ofStringMap value.annotations))]

def ofJson (document : Json) : Option Metadata := do
  let [name, space, labels, annotations] ← document.fields? fieldNames | none
  return {
    name := ← Json.required Json.toString? name
    space := ← Json.required Json.toString? space
    labels := ← Json.defaulted .empty Json.toStringMap? labels
    annotations := ← Json.defaulted .empty Json.toStringMap? annotations }

end Metadata

/-- What every resource begins with. -/
structure ResourceHeader where
  apiVersion : String
  kind : String
  metadata : Metadata
  deriving DecidableEq

end Testbed
