import Testbed.Json.Shape

namespace Testbed
namespace Schema

/-!
Shapes that the objects stored by the cluster's API share: metadata, selectors, conditions, and the fields that
many records are made of.
-/

open Shape (optional required)

/-- A member of a record as shapes list it. -/
abbrev Field := String × Option Json × Shape

/-- Members that are texts. -/
def texts (names : List String) : List Field :=
  names.map fun name => optional name .string

/-- Members that are flags. -/
def flags (names : List String) : List Field :=
  names.map fun name => optional name .flag

/-- Members that are integers of 32 bits. -/
def integers (names : List String) : List Field :=
  names.map fun name => optional name (.integer 32)

/-- Members that are integers of 64 bits. -/
def longIntegers (names : List String) : List Field :=
  names.map fun name => optional name (.integer 64)

/-- Members that are instants. -/
def instants (names : List String) : List Field :=
  names.map fun name => optional name .instant

def strings : Shape :=
  .list .string

/-- Members that are lists of texts. -/
def textLists (names : List String) : List Field :=
  names.map fun name => optional name strings

def stringMap : Shape :=
  .map .string

/-- Who an object belongs to. -/
def ownerReference : Shape :=
  .record "OwnerReference"
    [required "apiVersion" (.string "") .string, optional "blockOwnerDeletion" .flag,
      optional "controller" .flag, required "kind" (.string "") .string,
      required "name" (.string "") .string, required "uid" (.string "") .string]

/-- Who manages which fields of an object. -/
def managedFields : Shape :=
  .record "ManagedFieldsEntry"
    [optional "apiVersion" .string, optional "fieldsType" .string, optional "fieldsV1" .anything,
      optional "manager" .string, optional "operation" .string, optional "subresource" .string,
      optional "time" .instant]

/-- The metadata of an object. -/
def objectMetadata : Shape :=
  .record "ObjectMeta"
    [optional "annotations" stringMap, optional "creationTimestamp" .instant,
      optional "deletionGracePeriodSeconds" (.integer 64), optional "deletionTimestamp" .instant,
      optional "finalizers" strings, optional "generateName" .string,
      optional "generation" (.integer 64), optional "labels" stringMap,
      optional "managedFields" (.list managedFields), optional "name" .string,
      optional "namespace" .string, optional "ownerReferences" (.list ownerReference),
      optional "resourceVersion" .string, optional "selfLink" .string, optional "uid" .string]

/-- The metadata of a list. -/
def listMetadata : Shape :=
  .record "ListMeta"
    [optional "continue" .string, optional "remainingItemCount" (.integer 64),
      optional "resourceVersion" .string, optional "selfLink" .string]

/-- An object of a kind with some parts. -/
def object (apiVersion kind : String) (parts : List (String × Option Json × Shape)) : Shape :=
  .record kind
    ([optional "apiVersion" (.exactly apiVersion), optional "kind" (.exactly kind),
      optional "metadata" objectMetadata] ++ parts)

/-- Which labels an object has to have. -/
def labelSelector : Shape :=
  .record "LabelSelector"
    [optional "matchExpressions" (.list (.record "LabelSelectorRequirement"
        (texts ["key", "operator"] ++ textLists ["values"]))),
      optional "matchLabels" stringMap]

/-- A condition that an object reports, with further members. -/
def condition (name : String) (more : List Field) : Shape :=
  .record name
    (texts ["message", "reason", "status", "type"] ++ instants ["lastTransitionTime"] ++ more)

/-- The name of an object of the same namespace. -/
def localReference : Shape :=
  .record "LocalObjectReference" (texts ["name"])

end Schema
end Testbed
