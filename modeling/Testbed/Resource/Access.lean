import Testbed.Resource.Metadata

namespace Testbed

/-!
Access to the cluster's API: accounts, the rules that a role grants, and the bindings between them.
-/

/-- An account that pods act under. -/
structure ServiceAccount extends ResourceHeader
  deriving DecidableEq

namespace ServiceAccount

/-- The names of the fields in a document, in their order. -/
def fieldNames : List String :=
  ["apiVersion", "kind", "metadata"]

def toJson (value : ServiceAccount) : Json :=
  .record
    [("apiVersion", some (.string value.apiVersion)),
      ("kind", some (.string value.kind)),
      ("metadata", some value.metadata.toJson)]

def ofJson (document : Json) : Option ServiceAccount := do
  let [apiVersion, kind, metadata] ← document.fields? fieldNames | none
  return {
    apiVersion := ← Json.required Json.toString? apiVersion
    kind := ← Json.required Json.toString? kind
    metadata := ← Json.required Metadata.ofJson metadata }

end ServiceAccount

/-- A rule that grants verbs on resources. -/
structure PolicyRule where
  apiGroups : List String := []
  resources : List String := []
  verbs : List String
  resourceNames : List String := []
  deriving DecidableEq

namespace PolicyRule

/-- The names of the fields in a document, in their order. -/
def fieldNames : List String :=
  ["apiGroups", "resources", "verbs", "resourceNames"]

def toJson (value : PolicyRule) : Json :=
  .record
    [("apiGroups", some (.strings value.apiGroups)),
      ("resources", some (.strings value.resources)),
      ("verbs", some (.strings value.verbs)),
      ("resourceNames", Json.unlessEmpty value.resourceNames.isEmpty (.strings value.resourceNames))]

def ofJson (document : Json) : Option PolicyRule := do
  let [apiGroups, resources, verbs, resourceNames] ← document.fields? fieldNames | none
  return {
    apiGroups := ← Json.defaulted [] Json.toStrings? apiGroups
    resources := ← Json.defaulted [] Json.toStrings? resources
    verbs := ← Json.required Json.toStrings? verbs
    resourceNames := ← Json.defaulted [] Json.toStrings? resourceNames }

end PolicyRule

/-- Rules under a name. -/
structure Role extends ResourceHeader where
  rules : List PolicyRule
  deriving DecidableEq

namespace Role

/-- The names of the fields in a document, in their order. -/
def fieldNames : List String :=
  ["apiVersion", "kind", "metadata", "rules"]

def toJson (value : Role) : Json :=
  .record
    [("apiVersion", some (.string value.apiVersion)),
      ("kind", some (.string value.kind)),
      ("metadata", some value.metadata.toJson),
      ("rules", some (.ofList PolicyRule.toJson value.rules))]

def ofJson (document : Json) : Option Role := do
  let [apiVersion, kind, metadata, rules] ← document.fields? fieldNames | none
  return {
    apiVersion := ← Json.required Json.toString? apiVersion
    kind := ← Json.required Json.toString? kind
    metadata := ← Json.required Metadata.ofJson metadata
    rules := ← Json.required (Json.toListOf? PolicyRule.ofJson) rules }

end Role

/-- The role that a binding grants. -/
structure RoleReference where
  apiGroup : String
  kind : String
  name : String
  deriving DecidableEq

namespace RoleReference

/-- The names of the fields in a document, in their order. -/
def fieldNames : List String :=
  ["apiGroup", "kind", "name"]

def toJson (value : RoleReference) : Json :=
  .record
    [("apiGroup", some (.string value.apiGroup)),
      ("kind", some (.string value.kind)),
      ("name", some (.string value.name))]

def ofJson (document : Json) : Option RoleReference := do
  let [apiGroup, kind, name] ← document.fields? fieldNames | none
  return {
    apiGroup := ← Json.required Json.toString? apiGroup
    kind := ← Json.required Json.toString? kind
    name := ← Json.required Json.toString? name }

end RoleReference

/-- Who a binding grants a role to. -/
structure Subject where
  kind : String
  name : String
  space : String
  deriving DecidableEq

namespace Subject

/-- The names of the fields in a document, in their order. -/
def fieldNames : List String :=
  ["kind", "name", "namespace"]

def toJson (value : Subject) : Json :=
  .record
    [("kind", some (.string value.kind)),
      ("name", some (.string value.name)),
      ("namespace", some (.string value.space))]

def ofJson (document : Json) : Option Subject := do
  let [kind, name, space] ← document.fields? fieldNames | none
  return {
    kind := ← Json.required Json.toString? kind
    name := ← Json.required Json.toString? name
    space := ← Json.required Json.toString? space }

end Subject

/-- A role granted to subjects. -/
structure RoleBinding extends ResourceHeader where
  roleRef : RoleReference
  subjects : List Subject
  deriving DecidableEq

namespace RoleBinding

/-- The names of the fields in a document, in their order. -/
def fieldNames : List String :=
  ["apiVersion", "kind", "metadata", "roleRef", "subjects"]

def toJson (value : RoleBinding) : Json :=
  .record
    [("apiVersion", some (.string value.apiVersion)),
      ("kind", some (.string value.kind)),
      ("metadata", some value.metadata.toJson),
      ("roleRef", some value.roleRef.toJson),
      ("subjects", some (.ofList Subject.toJson value.subjects))]

def ofJson (document : Json) : Option RoleBinding := do
  let [apiVersion, kind, metadata, roleRef, subjects] ← document.fields? fieldNames | none
  return {
    apiVersion := ← Json.required Json.toString? apiVersion
    kind := ← Json.required Json.toString? kind
    metadata := ← Json.required Metadata.ofJson metadata
    roleRef := ← Json.required RoleReference.ofJson roleRef
    subjects := ← Json.required (Json.toListOf? Subject.ofJson) subjects }

end RoleBinding

end Testbed
