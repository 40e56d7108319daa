import Testbed.Api.ResourceType
import Testbed.Api.Status
import Testbed.Json.Printer
import Testbed.Resource.Basic
import Testbed.Web.Target

namespace Testbed
namespace Api

/-!
Requests to the cluster's API and its answers. Objects are found by path: group and version first, then the
namespace, the plural and the name, which are inserted as they are; what the API sees is what the text so
made stands for.
-/

/-- What is to be done at a path. -/
inductive Method where
  | get
  | patch
  | delete
  deriving DecidableEq

/-- The word for a method. -/
def Method.text : Method → String
  | get => "GET"
  | patch => "PATCH"
  | delete => "DELETE"

/-- What a request carries. -/
structure Content where
  mediaType : String
  document : Json

/-- A request. -/
structure HttpRequest where
  method : Method
  target : Web.Target
  content : Option Content := none

/-- A piece of a stream. -/
structure Frame where
  channel : Nat
  bytes : List UInt8

/-- An answer. -/
inductive HttpAnswer where
  /-- A status with a body. -/
  | plain (status : Nat) (body : String)
  /-- The consent to a stream in some protocol, and what comes on it. -/
  | stream (protocol : String) (frames : List Frame)

/-- Where the objects of a type are found. -/
def collectionPath (type : ResourceType) (space : Option String) : String :=
  (if type.group.isEmpty then "/api/" else "/apis/") ++ type.apiVersion ++ "/" ++
    ((space.map fun name => "namespaces/" ++ name ++ "/").getD "") ++ type.plural

/-- Where an object is found. -/
def objectPath (type : ResourceType) (space : Option String) (name : String) : String :=
  collectionPath type space ++ "/" ++ name

/-- A request about what a text stands for. It has to name an object. -/
def request (method : Method) (name target : String) (content : Option Content) :
    Except Error HttpRequest :=
  match Web.Target.read? target with
  | some target => if name.isEmpty then .error .unusableAnswer else .ok ⟨method, target, content⟩
  | none => .error .unusableAnswer

/-- The document in an answer that is no refusal. -/
def document (answer : HttpAnswer) : Except Error RawJson :=
  match answer with
  | .stream _ _ => .error .unusableAnswer
  | .plain status body =>
    if ApiStatus.isRefusal status then .error (.api (.ofAnswer status body))
    else
      match RawJson.parse body with
      | some found => .ok found
      | none => .error .unusableAnswer

/-- The object in an answer, if there is one. -/
def found? (answer : HttpAnswer) (accept : RawJson → Option α) : Except Error (Option α) :=
  match document answer with
  | .error (.api refusal) => if refusal.saysNotFound then .ok none else .error (.api refusal)
  | .error error => .error error
  | .ok stored =>
    match accept stored with
    | some value => .ok (some value)
    | none => .error .unusableAnswer

end Api
end Testbed
