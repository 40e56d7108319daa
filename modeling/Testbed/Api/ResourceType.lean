import Testbed.Resource.Basic
import Testbed.Text.Lowercase

namespace Testbed

/-!
How the cluster's API addresses a type of resource: by group, version and plural. Plurals of the kinds
that are built in follow English endings; types that are declared in the cluster bring their own.
-/

/-- A type of resource as the API addresses it. -/
structure ResourceType where
  group : String
  version : String
  kind : String
  apiVersion : String
  plural : String
  deriving DecidableEq

/-- A type of resource that is declared in the cluster. -/
structure CustomType where
  group : String
  version : String
  kind : String
  plural : String
  deriving DecidableEq

namespace ResourceType

/-- Group and version of an API version. Without a slash the group is the empty one of the core. -/
def splitApiVersion (apiVersion : String) : String × String :=
  let characters := apiVersion.toList
  match characters.dropWhile (· != '/') with
  | _ :: version => (String.ofList (characters.takeWhile (· != '/')), String.ofList version)
  | [] => ("", apiVersion)

/-- Endings after which a plural takes `es`. -/
def sibilants : List (List Char) :=
  [['s'], ['x'], ['c', 'h'], ['s', 'h']]

/-- The plural of a word in lower case. A `y` after a consonant, or alone, becomes `ies`; `i` counts
as a consonant here. -/
def pluralChars (word : List Char) : List Char :=
  if sibilants.any fun ending => ending.isSuffixOf word then word ++ ['e', 's']
  else
    match word.reverse with
    | 'y' :: stem =>
      match stem with
      | before :: _ =>
        if before = 'a' ∨ before = 'e' ∨ before = 'o' ∨ before = 'u' then word ++ ['s']
        else stem.reverse ++ ['i', 'e', 's']
      | [] => ['i', 'e', 's']
    | _ => word ++ ['s']

/-- The plural under which a kind is served. -/
def pluralize (kind : String) : String :=
  String.ofList (pluralChars (Text.lowercaseAll kind.toList))

/-- The type of a kind under an API version. -/
def ofKind (apiVersion kind : String) : ResourceType :=
  let parts := splitApiVersion apiVersion
  ⟨parts.1, parts.2, kind, apiVersion, pluralize kind⟩

end ResourceType

namespace CustomType

/-- Group and version in one. -/
def apiVersion (type : CustomType) : String :=
  type.group ++ "/" ++ type.version

/-- The name of the definition that declares the type. -/
def definitionName (type : CustomType) : String :=
  type.plural ++ "." ++ type.group

/-- The type as the API addresses it. -/
def resourceType (type : CustomType) : ResourceType :=
  { ResourceType.ofKind type.apiVersion type.kind with plural := type.plural }

end CustomType
end Testbed
