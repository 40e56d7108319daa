import Testbed.Api.Schema.Basic

namespace Testbed
namespace Schema

/-!
The shapes of declarations of types. A version of a type has a schema, which is itself nested; a schema that is
nested deeper than documents may be does not occur.
-/

open Shape (optional)

/-- A schema whose parts have a shape. -/
def schemaOf (part : Shape) : Shape :=
  let parts : Shape := .map part
  .record "JSONSchemaProps"
    (texts ["$ref", "$schema", "description", "format", "id", "pattern", "title", "type",
        "x-kubernetes-list-type", "x-kubernetes-map-type"] ++
      flags ["exclusiveMaximum", "exclusiveMinimum", "nullable", "uniqueItems",
        "x-kubernetes-embedded-resource", "x-kubernetes-int-or-string",
        "x-kubernetes-preserve-unknown-fields"] ++
      longIntegers ["maxItems", "maxLength", "maxProperties", "minItems", "minLength",
        "minProperties"] ++
      textLists ["required", "x-kubernetes-list-map-keys"] ++
      [optional "additionalItems" (.either "JSONSchemaPropsOrBool" [.flag, part]),
        optional "additionalProperties" (.either "JSONSchemaPropsOrBool" [.flag, part]),
        optional "allOf" (.list part), optional "anyOf" (.list part),
        optional "default" .anything, optional "definitions" parts,
        optional "dependencies"
          (.map (.either "JSONSchemaPropsOrStringArray" [strings, part])),
        optional "enum" (.list .anything), optional "example" .anything,
        optional "externalDocs" (.record "ExternalDocumentation" (texts ["description", "url"])),
        optional "items" (.either "JSONSchemaPropsOrArray" [.list part, part]),
        optional "maximum" .number, optional "minimum" .number, optional "multipleOf" .number,
        optional "not" part, optional "oneOf" (.list part), optional "patternProperties" parts,
        optional "properties" parts,
        optional "x-kubernetes-validations" (.list (.record "ValidationRule"
          (texts ["fieldPath", "message", "messageExpression", "reason", "rule"] ++
            flags ["optionalOldSelf"])))])

/-- A schema that is nested no deeper than a bound. -/
def schemaUpTo : Nat → Shape
  | 0 => .record "JSONSchemaProps" []
  | depth + 1 => schemaOf (schemaUpTo depth)

/-- A schema. -/
def propertySchema : Shape :=
  schemaUpTo 127

def definitionVersion : Shape :=
  .record "CustomResourceDefinitionVersion"
    (texts ["deprecationWarning", "name"] ++ flags ["deprecated", "served", "storage"] ++
      [optional "additionalPrinterColumns" (.list (.record "CustomResourceColumnDefinition"
          (texts ["description", "format", "jsonPath", "name", "type"] ++ integers ["priority"]))),
        optional "schema" (.record "CustomResourceValidation"
          [optional "openAPIV3Schema" propertySchema]),
        optional "selectableFields" (.list (.record "SelectableField" (texts ["jsonPath"]))),
        optional "subresources" (.record "CustomResourceSubresources"
          [optional "scale" (.record "CustomResourceSubresourceScale"
              (texts ["labelSelectorPath", "specReplicasPath", "statusReplicasPath"])),
            optional "status" .anything])])

def definitionNames : Shape :=
  .record "CustomResourceDefinitionNames"
    (textLists ["categories", "shortNames"] ++ texts ["kind", "listKind", "plural", "singular"])

/-- How objects are converted between versions. -/
def conversion : Shape :=
  .record "CustomResourceConversion"
    (texts ["strategy"] ++
      [optional "webhook" (.record "WebhookConversion"
        (textLists ["conversionReviewVersions"] ++
          [optional "clientConfig" (.record "WebhookClientConfig"
            (texts ["url"] ++
              [optional "caBundle" .bytes,
                optional "service" (.record "ServiceReference"
                  (texts ["name", "namespace", "path"] ++ integers ["port"]))]))]))])

/-- The declaration of a type as it is stored. -/
def definition : Shape :=
  object "apiextensions.k8s.io/v1" "CustomResourceDefinition"
    [optional "spec" (.record "CustomResourceDefinitionSpec"
        (texts ["group", "scope"] ++ flags ["preserveUnknownFields"] ++
          [optional "conversion" conversion, optional "names" definitionNames,
            optional "versions" (.list definitionVersion)])),
      optional "status" (.record "CustomResourceDefinitionStatus"
        (textLists ["storedVersions"] ++
          [optional "acceptedNames" definitionNames,
            optional "conditions"
              (.list (condition "CustomResourceDefinitionCondition" []))]))]

end Schema
end Testbed
