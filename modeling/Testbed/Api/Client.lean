import Testbed.Api.Command
import Testbed.Api.Schema.Definition
import Testbed.Api.Schema.Pod
import Testbed.Api.Schema.Service
import Testbed.Request

namespace Testbed
namespace Api

/-!
The client of the cluster's API: how each request to the cluster is put to the API, and what its answer
means. A request is put to the API at most once. Something that is not there is no failure for a
deletion or a question.
-/

/-- A client that works in one namespace. -/
structure Client where
  space : String

/-- What a client does with a request to the cluster. -/
inductive Sending where
  /-- It is put to the API. -/
  | sends (request : HttpRequest)
  /-- It is refused without being put to the API. -/
  | refuses (error : Error)
  /-- It ends the program, and the run that it belongs to with it. -/
  | aborts

/-- What is done with a request that could be prepared, or could not. -/
def Sending.ofExcept : Except Error HttpRequest → Sending
  | .ok request => .sends request
  | .error error => .refuses error

/-- Who applies what this library applies. -/
def fieldManager : String := "tidepool"

/-- The parameters of an application that takes over fields of others. -/
def applyParameters : List (String × String) :=
  [("fieldManager", fieldManager), ("force", "true")]

/-- The type of a built-in kind. -/
def builtIn (kind : ResourceKind) : ResourceType :=
  ResourceType.ofKind kind.apiVersion kind.text

/-- The type of the declarations of types. -/
def definitions : ResourceType :=
  ⟨"apiextensions.k8s.io", "v1", "CustomResourceDefinition", "apiextensions.k8s.io/v1",
    "customresourcedefinitions"⟩

/-- The type of pods. -/
def pods : ResourceType :=
  ⟨"", "v1", "Pod", "v1", "pods"⟩

/-- The type of services, for those who read them as such. -/
def services : ResourceType :=
  ⟨"", "v1", "Service", "v1", "services"⟩

/-- The type of replica sets, for those who read them as such. -/
def replicaSets : ResourceType :=
  ⟨"apps", "v1", "ReplicaSet", "apps/v1", "replicasets"⟩

/-- The body of an application: a document whose metadata is read as that of an object. -/
def applyBody (subject : String) (document : Json) : Except Error Json :=
  match (document.member? "metadata").map Schema.objectMetadata.read with
  | none => .ok document
  | some (.ok metadata) =>
    .ok (.object (document.members.map fun entry =>
      if entry.1 == "metadata" then (entry.1, metadata) else entry))
  | some (.error message) => .error (.serialization subject message)

namespace Client

/-- Where an object of the client's namespace is found. -/
def path (client : Client) (type : ResourceType) (name : String) : String :=
  objectPath type (some client.space) name

/-- Puts a document to the API under a name. -/
def patch (client : Client) (type : ResourceType) (name : String) (document : Json) :
    Except Error HttpRequest := do
  let body ← applyBody type.kind document
  Api.request .patch name (Web.Target.question (client.path type name) applyParameters)
    (some ⟨"application/apply-patch+yaml", body⟩)

/-- Asks the API for an object. -/
def get (path name : String) : Except Error HttpRequest :=
  Api.request .get name path none

/-- The parameters of a deletion. -/
def deletion (grace : Option UInt32) : Json :=
  .record
    [("gracePeriodSeconds", grace.map fun seconds => .natural seconds.toNat),
      ("propagationPolicy", some (.string "Background"))]

/-- Asks the API for a stream with a pod. -/
def stream (client : Client) (pod verb : String) (parameters : List (String × String)) :
    Except Error HttpRequest :=
  Api.request .get pod (Web.Target.question (client.path pods pod ++ "/" ++ verb) parameters) none

/-- The parameters of a command. -/
def commandParameters (container : String) (command : List String) : List (String × String) :=
  command.map (("command", ·)) ++ [("container", container), ("stderr", "true"), ("stdout", "true")]

/-- The metadata of a custom resource: that of the document, but with this name and namespace. -/
def customMetadata (client : Client) (name : String) (given : List (String × Json)) : Json :=
  .object (Json.insertMember "namespace" (.string client.space)
    (Json.insertMember "name" (.string name) (Json.sortMembers given)))

/-- A custom resource as it is put to the API, except for its metadata. -/
def customObject (type : CustomType) (members : List (String × Json)) (metadata : Json) : Json :=
  .object (Json.insertMember "metadata" metadata
    (Json.insertMember "kind" (.string type.kind)
      (Json.insertMember "apiVersion" (.string type.apiVersion) (Json.sortMembers members))))

/-- Puts a custom resource to the API. Metadata that are neither absent, nor null, nor an object end the
program. -/
def sendCustom (client : Client) (name : String) (type : CustomType) (object : Json) : Sending :=
  let send (members metadata : List (String × Json)) : Sending :=
    let document := customObject type members (client.customMetadata name metadata)
    .ofExcept (client.patch type.resourceType name document)
  match object with
  | .object members =>
    match (Json.sortMembers members).lookup "metadata" with
    | none | some .null => send members []
    | some (.object metadata) => send members metadata
    | some _ => .aborts
  | _ => .refuses (.validation name .notAnObject)

/-- What the client does with a request to the cluster. -/
def send (client : Client) : ClusterRequest → Sending
  | .apply resource =>
    .ofExcept (client.patch (builtIn resource.resourceKind) resource.name resource.toJson)
  | .delete kind name grace =>
    .ofExcept (Api.request .delete name (Web.Target.question (client.path (builtIn kind) name) [])
      (some ⟨"application/json", deletion grace⟩))
  | .present kind name => .ofExcept (get (client.path (builtIn kind) name) name)
  | .serviceAddress name => .ofExcept (get (client.path services name) name)
  | .ready name => .ofExcept (get (client.path replicaSets name) name)
  | .firstPod name =>
    .ofExcept (Api.request .get "pods"
      (Web.Target.question (collectionPath pods (some client.space))
        [("labelSelector", Label.app ++ "=" ++ name)])
      none)
  | .run pod container command =>
    .ofExcept (client.stream pod "exec" (commandParameters container command))
  | .tunnel pod _ remotePort =>
    .ofExcept (client.stream pod "portforward" [("ports", toString remotePort)])
  | .declared type =>
    .ofExcept (get (objectPath definitions none type.definitionName) type.definitionName)
  | .createCustom name type object => client.sendCustom name type object

end Client

/-! ## Answers -/

/-- Whether a document is some object: its metadata, if there are any, have to be readable. -/
def isObject (document : RawJson) : Bool :=
  match document.openFields? ["metadata"] with
  | some [metadata] => metadata.all Schema.objectMetadata.fitsPart
  | _ => false

/-- Reads a word on whether a deletion went well, alone or with an empty remark. -/
def readSummary : RawJson → Option Unit
  | .string (some "Success") | .string (some "Failure") => some ()
  | .object [(some "Success", .null)] | .object [(some "Failure", .null)] => some ()
  | _ => none

/-- Reads a text. -/
def readText : RawJson → Option String :=
  RawJson.through Json.toString?

/-- Reads an array through the reader of its items. -/
def readList (read : RawJson → Option Unit) : RawJson → Option Unit
  | .array items => if items.all fun item => (read item).isSome then some () else none
  | _ => none

/-- Reads one of the causes in a report. -/
def readCause (document : RawJson) : Option Unit := do
  for field in ← document.fields? ["reason", "message", "field"] do
    let _ ← Json.defaulted "" readText field

/-- Reads the details in a report. -/
def readDetails (document : RawJson) : Option Unit := do
  let [name, group, kind, uid, causes, delay] ←
    document.fields? ["name", "group", "kind", "uid", "causes", "retryAfterSeconds"] | none
  for field in [name, group, kind, uid] do
    let _ ← Json.defaulted "" readText field
  Json.defaulted () (readList readCause) causes
  let _ ← Json.defaulted 0 (RawJson.through Json.toUInt32?) delay

/-- Reads a report on a deletion. -/
def readReport (document : RawJson) : Option Unit := do
  let [status, code, message, reason, details] ←
    document.fields? ["status", "code", "message", "reason", "details"] | none
  let _ ← RawJson.optional readSummary status
  let _ ← Json.defaulted 0 (RawJson.through Json.toUInt16?) code
  let _ ← Json.defaulted "" readText message
  let _ ← Json.defaulted "" readText reason
  let _ ← RawJson.optional readDetails details

/-- Accepts a document that is some object. -/
def acceptObject (document : RawJson) : Option Unit :=
  if isObject document then some () else none

/-- The answer to an application. -/
def applied (answer : HttpAnswer) : Except Error Unit := do
  let stored ← document answer
  if isObject stored then .ok () else .error .unusableAnswer

/-- Whether a document is the answer to a deletion: a report, or else the object that is going. -/
def isFarewell (document : RawJson) : Bool :=
  match document.value? RawJson.maxDepth with
  | none => false
  | some value =>
    if textIn value "kind" == "Status" then (readReport document).isSome else isObject document

/-- The answer to a deletion. -/
def deleted (answer : HttpAnswer) : Except Error Unit :=
  match document answer with
  | .error error => if error.isNotFound then .ok () else .error error
  | .ok report => if isFarewell report then .ok () else .error .unusableAnswer

/-- A member of a member. -/
def inner? (document : Json) (outer name : String) : Option Json :=
  (document.member? outer).bind fun part => part.member? name

/-- The address of a service, if it has one of its own. -/
def addressOf (service : Json) : Option String :=
  ((inner? service "spec" "clusterIP").bind Json.toString?).filter fun address =>
    !address.isEmpty && address != "None"

/-- Whether a replica set has a ready replica. -/
def isReady (replicaSet : Json) : Bool :=
  match inner? replicaSet "status" "readyReplicas" with
  | some (.integer count) => 1 ≤ count
  | _ => false

/-- Whether a declaration serves a version. -/
def serves (version : String) (definition : Json) : Bool :=
  ((inner? definition "spec" "versions").map Json.items).any fun versions =>
    versions.any fun declared =>
      textIn declared "name" == version && (declared.member? "served" matches some (.bool true))

/-- Reads the pods of a list, in its order; a null is an empty one. -/
def readPods : RawJson → Option (List Json)
  | .null => some []
  | .array pods => pods.mapM fun pod => (Schema.pod.readWithin (some 125) pod).toOption
  | _ => none

/-- The pods in a list with metadata. -/
def podsOf (listing : RawJson) : Option (List Json) := do
  let [metadata, pods] ← listing.openFields? ["metadata", "items"] | none
  if metadata.all Schema.listMetadata.fitsPart then readPods (← pods) else none

/-- The name of the first pod that is not about to go. -/
def firstPodName (pods : List Json) : Option String := do
  let pod ← pods.find? fun pod => (inner? pod "metadata" "deletionTimestamp").isNone
  (inner? pod "metadata" "name").bind Json.toString?

/-- The answer to a search for a pod. -/
def firstPod (name : String) (answer : HttpAnswer) : Except Error String := do
  let listing ← document answer
  match podsOf listing with
  | none => .error .unusableAnswer
  | some pods =>
    match firstPodName pods with
    | some pod => .ok pod
    | none => .error (.internal "first_pod" ("no pods found for replica set " ++ name))

/-- What came on a stream, if there is one. -/
def streamed (answer : HttpAnswer) : Except Error (List Frame) :=
  match answer with
  | .stream protocol frames =>
    if protocol == commandProtocol then .ok frames else .error .unusableAnswer
  | .plain _ _ => .error .unusableAnswer

/-- What an answer of the API means for a request to the cluster. -/
def interpret : (request : ClusterRequest) → HttpAnswer → Except Error request.Value
  | .apply _, answer | .createCustom _ _ _, answer => applied answer
  | .delete _ _ _, answer => deleted answer
  | .present _ _, answer => (found? answer acceptObject).map Option.isSome
  | .serviceAddress _, answer =>
    (found? answer Schema.service.see).map fun found => found.bind addressOf
  | .ready _, answer =>
    (found? answer Schema.replicaSet.see).map fun found => found.any isReady
  | .declared type, answer =>
    (found? answer Schema.definition.see).map fun found => found.any (serves type.version)
  | .firstPod name, answer => firstPod name answer
  | .run pod container command, answer =>
    (streamed answer).bind (commandResult pod container command)
  | .tunnel _ _ _, answer => (streamed answer).map fun _ => ()

/-! ## Runs -/

/-- A request that has been dealt with: what was put to the API, if anything, and what came of it. -/
structure Exchange where
  request : ClusterRequest
  sent : Option HttpRequest
  reply : Except Error request.Value

namespace Client

/-- Deals with a request; the answer is for what is put to the API. Nothing comes of a request that ends the
program. -/
def exchange (client : Client) (answer : HttpAnswer) (request : ClusterRequest) : Option Exchange :=
  match client.send request with
  | .sends sent => some ⟨request, some sent, interpret request answer⟩
  | .refuses error => some ⟨request, none, .error error⟩
  | .aborts => none

/-- Deals with requests one after another, when some have been put to the API already: whatever is put to it
gets the next answer. With the program the whole run ends, and nothing comes of what was dealt with before. -/
def converse (client : Client) (answers : Nat → HttpAnswer) : Nat → List ClusterRequest → Option (List Exchange)
  | _, [] => some []
  | asked, request :: rest => do
    let first ← client.exchange (answers asked) request
    let later ← client.converse answers (if first.sent.isSome then asked + 1 else asked) rest
    return first :: later

end Client

/-- The refusal of a local address that somebody else listens on. -/
def addressInUse (address : String) : Error :=
  .internal "port_forward"
    ("failed to bind " ++ address ++ ": Address already in use (os error 98)")

end Api
end Testbed
