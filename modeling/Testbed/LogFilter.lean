import Testbed.LogFilter.Directive

namespace Testbed
namespace LogFilter

/-!
Filters for log output: directives between commas.
-/

/-- The filter in force unless another is asked for. -/
def standard : String :=
  "info,tidepool=debug,kube=info,tower=warn,hyper=warn"

/-- Whether the value of a variable asks for log lines as documents. -/
def wantsDocuments (value : Option String) : Bool :=
  value == some "true" || value == some "1"

/-- The parts of a text between commas. -/
def splitCommas : List Char → List (List Char)
  | [] => [[]]
  | ',' :: rest => [] :: splitCommas rest
  | character :: rest =>
    match splitCommas rest with
    | first :: more => (character :: first) :: more
    | [] => [[character]]

/-- Whether a filter is well formed. Empty directives do not matter. -/
def isValid (filter : String) : Bool :=
  (splitCommas filter.toList).all fun directive => directive.isEmpty || isDirective directive

/-- Whether logging gets a usable filter: an override that is well formed wins, any other override is
ignored. -/
def isUsable (filter : String) (override : Option String) : Bool :=
  override.any isValid || isValid filter

end LogFilter
end Testbed
