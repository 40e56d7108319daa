import Testbed.Proofs.Api.Address
import Testbed.Proofs.Cluster

namespace Testbed

/-!
# The cluster's API as a map

The client is meant for an API that keeps one document for each path: what is put there stays until it is
deleted, and what is not there is refused as such.  Against any API of this kind the client makes a map of kinds
and names to resources: applications and deletions change it as they should, the questions are answered from
it, and no request fails.  Services and replica sets are read through types of their own, but from the places
where their documents are put.

The namespace is inserted into paths as it is.  If it has characters that may not stand there, requests fail
before they are made.
-/

namespace Api

/-- What a type with a reader of its own makes of a document, if there is one. -/
def readAs (see : RawJson → Option Json) (read : Option Json → α) : Option Json → Except Error α
  | none => .ok (read none)
  | some stored =>
    match see (.ofJson stored) with
    | some seen => .ok (read (some seen))
    | none => .error .unusableAnswer

/-! ## An API that keeps documents by path -/

namespace HttpAnswer

/-- Whether an answer is no refusal and carries a document. -/
def Carries (answer : HttpAnswer) (stored : Json) : Prop :=
  ∃ status body, answer = .plain status body ∧ ApiStatus.isRefusal status = false ∧
    RawJson.parse body = some (.ofJson stored)

/-- Whether an answer is a refusal with code 404 and the reason that nothing is there. -/
def SaysAbsent (answer : HttpAnswer) : Prop :=
  ∃ status body refusal, answer = .plain status body ∧ ApiStatus.isRefusal status = true ∧
    ApiStatus.ofText body = some refusal ∧ refusal.code = 404 ∧ refusal.reason = "NotFound"

/-- The report that something of a plural, with a name and an identifier, has been deleted. -/
def report (plural name identifier : String) : Json :=
  .object [("kind", .string "Status"), ("apiVersion", .string "v1"), ("metadata", .object []),
    ("status", .string "Success"),
    ("details", .object [("name", .string name), ("kind", .string plural), ("uid", .string identifier)])]

/-- Whether an answer reports that something has been deleted. -/
def Confirms (answer : HttpAnswer) : Prop :=
  ∃ plural name identifier, answer.Carries (report plural name identifier)

/-- Whether an answer says what there is, if anything. -/
def Answers (answer : HttpAnswer) : Option Json → Prop
  | some stored => answer.Carries stored
  | none => answer.SaysAbsent

variable {answer : HttpAnswer} {stored : Json} {resource : Resource}

theorem Carries.document_eq (carries : answer.Carries stored) : document answer = .ok (.ofJson stored) := by
  rcases carries with ⟨status, body, rfl, accepted, parsed⟩
  rw [document, accepted, if_neg Bool.false_ne_true, parsed]

theorem SaysAbsent.document_eq (absent : answer.SaysAbsent) :
    ∃ refusal, document answer = .error (.api refusal) ∧ refusal.code = 404 ∧ refusal.saysNotFound = true := by
  rcases absent with ⟨status, body, refusal, rfl, refused, stated, code, reason⟩
  refine ⟨refusal, ?_, code, ?_⟩
  · rw [document, refused, if_pos rfl, ApiStatus.ofAnswer, stated]
  · rw [ApiStatus.saysNotFound, reason]
    rfl

theorem Carries.applied_eq (carries : answer.Carries resource.body) : applied answer = .ok () := by
  rw [applied, carries.document_eq]
  dsimp only [bind, Except.bind]
  rw [resource.isObject_body, if_pos rfl]

theorem Carries.found?_eq (carries : answer.Carries stored) (accept : RawJson → Option α) :
    found? answer accept =
      match accept (.ofJson stored) with
      | some value => .ok (some value)
      | none => .error .unusableAnswer := by
  cases accepted : accept (.ofJson stored) <;> simp only [found?, carries.document_eq, accepted]

theorem SaysAbsent.found?_eq (absent : answer.SaysAbsent) (accept : RawJson → Option α) :
    found? answer accept = .ok none := by
  rcases absent.document_eq with ⟨refusal, refused, _, missing⟩
  rw [found?, refused]
  dsimp only
  rw [missing, if_pos rfl]

/-- Every report of a deletion is accepted as one. -/
theorem isFarewell_report (plural name identifier : String) :
    isFarewell (.ofJson (report plural name identifier)) = true := by
  have nested : (report plural name identifier).NestsWithin 127 := by simp [report]
  rcases Option.isSome_iff_exists.mp nested with ⟨value, read⟩
  rw [isFarewell, RawJson.maxDepth, read]
  dsimp only
  split
  · rfl
  · rfl

theorem Carries.deleted_eq (carries : answer.Carries resource.body) : deleted answer = .ok () := by
  rw [deleted, carries.document_eq]
  dsimp only
  rw [resource.isFarewell_body, if_pos rfl]

theorem Confirms.deleted_eq (confirms : answer.Confirms) : deleted answer = .ok () := by
  rcases confirms with ⟨plural, name, identifier, carries⟩
  rw [deleted, carries.document_eq]
  dsimp only
  rw [isFarewell_report, if_pos rfl]

theorem SaysAbsent.deleted_eq (absent : answer.SaysAbsent) : deleted answer = .ok () := by
  rcases absent.document_eq with ⟨refusal, refused, code, _⟩
  have missing : (Error.api refusal).isNotFound = true := by rw [Error.isNotFound, code]; rfl
  rw [deleted, refused]
  dsimp only
  rw [missing, if_pos rfl]

/-- A question about a resource is answered by whether there is one. -/
theorem Answers.interpret_present {held : Option Resource} (answers : answer.Answers (held.map Resource.body))
    (kind : ResourceKind) (name : String) : interpret (.present kind name) answer = .ok held.isSome := by
  change (found? answer acceptObject).map Option.isSome = _
  cases held with
  | none => rw [SaysAbsent.found?_eq answers]; rfl
  | some resource =>
      have accepted : acceptObject (.ofJson resource.body) = some () := by
        rw [acceptObject, resource.isObject_body, if_pos rfl]
      rw [Carries.found?_eq answers, accepted]
      rfl

/-- A question about what a resource says is answered by what its reader makes of it. -/
theorem Answers.map_found?_eq {held : Option Json} (answers : answer.Answers held)
    (see : RawJson → Option Json) (read : Option Json → α) :
    (found? answer see).map read = readAs see read held := by
  cases held with
  | none => rw [SaysAbsent.found?_eq answers]; rfl
  | some stored =>
      rw [Carries.found?_eq answers, readAs]
      cases see (.ofJson stored) <;> rfl

theorem Answers.interpret_serviceAddress {held : Option Json} (answers : answer.Answers held) (name : String) :
    interpret (.serviceAddress name) answer =
      readAs Schema.service.see (fun seen => seen.bind addressOf) held :=
  answers.map_found?_eq Schema.service.see fun seen => seen.bind addressOf

theorem Answers.interpret_ready {held : Option Json} (answers : answer.Answers held) (name : String) :
    interpret (.ready name) answer = readAs Schema.replicaSet.see (fun seen => seen.any isReady) held :=
  answers.map_found?_eq Schema.replicaSet.see fun seen => seen.any isReady

end HttpAnswer

/-- What an API holds: a document for some paths. -/
def Store : Type :=
  String → Option Json

namespace Store

/-- An API that holds nothing. -/
def empty : Store :=
  fun _ => none

/-- Puts a document, or nothing, in place of what is at a path. -/
def set (store : Store) (path : String) (held : Option Json) : Store :=
  fun other => if other = path then held else store other

theorem set_self {store : Store} {path : String} {held : Option Json} : store.set path held path = held :=
  if_pos rfl

theorem set_of_ne {store : Store} {path other : String} {held : Option Json} (apart : other ≠ path) :
    store.set path held other = store other :=
  if_neg apart

/-- How an API that keeps documents by path may answer a request, and what it then holds.  What is put to a path
is kept there, and comes back; what is deleted is gone, and comes back once more or is reported; what is not
there is refused as such.  There are no other failures. -/
def Serves (store : Store) (request : HttpRequest) (answer : HttpAnswer) (after : Store) : Prop :=
  match request.method with
  | .patch => ∃ content, request.content = some content ∧ answer.Carries content.document ∧
      after = store.set request.target.path (some content.document)
  | .get => after = store ∧ answer.Answers (store request.target.path)
  | .delete => after = store.set request.target.path none ∧
      (answer.Answers (store request.target.path) ∨
        (store request.target.path).isSome = true ∧ answer.Confirms)

end Store

/-! ## What the client makes of it -/

/-- What a client does with requests, one after another, against an API that keeps documents by path: what the
API holds before, the requests with what comes of them, and what it holds in the end. -/
inductive Client.Session (client : Client) : Store → List Event → Store → Prop where
  | done {store : Store} : Session client store [] store
  /-- A request is put to the API, and its answer is interpreted. -/
  | sends {store middle final : Store} {request : ClusterRequest} {sent : HttpRequest} {answer : HttpAnswer}
      {events : List Event} (sending : client.send request = .sends sent)
      (served : store.Serves sent answer middle) (onward : Session client middle events final) :
      Session client store (.asked (.cluster request) (interpret request answer) :: events) final
  /-- A request fails before it is put to the API. -/
  | refuses {store final : Store} {request : ClusterRequest} {error : Error} {events : List Event}
      (sending : client.send request = .refuses error) (onward : Session client store events final) :
      Session client store (.asked (.cluster request) (.error error) :: events) final

/-- Whether an API holds just the documents of the resources in a cluster, where the client puts them. -/
def Client.Mirrors (client : Client) (cluster : Cluster) (store : Store) : Prop :=
  ∀ kind name, Naming.isLabel name = true →
    store (client.path (builtIn kind) name) = (cluster kind name).map Resource.body

end Api

/-- Whether what comes of a request is what a cluster that holds such resources should reply. -/
inductive Cluster.Replies (cluster : Cluster) : Event → Prop where
  | apply (resource : Resource) : Replies cluster (.applied resource)
  | delete (kind : ResourceKind) (name : String) (grace : Option UInt32) :
      Replies cluster (.deleted kind name grace)
  | present (kind : ResourceKind) (name : String) :
      Replies cluster (.asked (.cluster (.present kind name)) (.ok (cluster kind name).isSome))
  | serviceAddress (name : String) :
      Replies cluster (.asked (.cluster (.serviceAddress name))
        (Api.readAs Schema.service.see (fun seen => seen.bind Api.addressOf)
          ((cluster .service name).map Resource.body)))
  | ready (name : String) :
      Replies cluster (.asked (.cluster (.ready name))
        (Api.readAs Schema.replicaSet.see (fun seen => seen.any Api.isReady)
          ((cluster .replicaSet name).map Resource.body)))

/-- Whether an event is a request about one resource, under a name that is a label. -/
def Event.IsNamed : Event → Prop
  | .asked (.cluster (.apply resource)) _ => Naming.isLabel resource.name = true
  | .asked (.cluster (.delete _ name _)) _ | .asked (.cluster (.present _ name)) _
  | .asked (.cluster (.serviceAddress name)) _ | .asked (.cluster (.ready name)) _ =>
    Naming.isLabel name = true
  | _ => False

namespace Api
namespace Client

variable {client : Client} {cluster : Cluster} {store after : Store} {sent : HttpRequest} {answer : HttpAnswer}
  {kind : ResourceKind} {name : String}

theorem Mirrors.set (mirrors : client.Mirrors cluster store) (label : Naming.isLabel name = true)
    (held : Option Resource) :
    client.Mirrors (cluster.set kind name held)
      (store.set (client.path (builtIn kind) name) (held.map Resource.body)) := by
  intro otherKind otherName otherLabel
  by_cases same : otherKind = kind ∧ otherName = name
  · rcases same with ⟨rfl, rfl⟩
    rw [Store.set_self, Cluster.set_self]
  · have apart : client.path (builtIn otherKind) otherName ≠ client.path (builtIn kind) name :=
      fun equal => same (path_inj otherLabel label equal)
    rw [Store.set_of_ne apart, Cluster.set_of_ne same]
    exact mirrors otherKind otherName otherLabel

/-! ### Single requests -/

theorem replies_of_apply (addressable : client.IsAddressable) (mirrors : client.Mirrors cluster store)
    {resource : Resource} (label : Naming.isLabel resource.name = true)
    (sending : client.send (.apply resource) = .sends sent) (served : store.Serves sent answer after) :
    interpret (.apply resource) answer = .ok () ∧
      client.Mirrors (cluster.set resource.resourceKind resource.name (some resource)) after := by
  rcases exists_send_apply addressable resource label with ⟨parameters, sends⟩
  cases sends.symm.trans sending
  rcases served with ⟨content, carried, carries, rfl⟩
  cases carried
  exact ⟨carries.applied_eq, mirrors.set label (some resource)⟩

theorem replies_of_delete (addressable : client.IsAddressable) (mirrors : client.Mirrors cluster store)
    {grace : Option UInt32} (label : Naming.isLabel name = true)
    (sending : client.send (.delete kind name grace) = .sends sent) (served : store.Serves sent answer after) :
    interpret (.delete kind name grace) answer = .ok () ∧ client.Mirrors (cluster.set kind name none) after := by
  rcases exists_send_delete addressable kind grace label with ⟨parameters, sends⟩
  cases sends.symm.trans sending
  rcases served with ⟨rfl, answered⟩
  refine ⟨?_, mirrors.set label none⟩
  rcases answered with answers | ⟨_, confirms⟩
  · rw [mirrors kind name label] at answers
    cases held : cluster kind name with
    | none =>
        rw [held] at answers
        exact answers.deleted_eq
    | some resource =>
        rw [held] at answers
        exact answers.deleted_eq
  · exact confirms.deleted_eq

/-- A question is answered from what the cluster holds, and changes nothing. -/
theorem answers_of_get (mirrors : client.Mirrors cluster store) (label : Naming.isLabel name = true)
    (served : store.Serves ⟨.get, ⟨client.path (builtIn kind) name, []⟩, none⟩ answer after) :
    after = store ∧ answer.Answers ((cluster kind name).map Resource.body) := by
  rcases served with ⟨rfl, answered⟩
  rw [mirrors kind name label] at answered
  exact ⟨rfl, answered⟩

/-- What comes of a request that is put to the API is what the cluster should reply, and afterwards the API
holds what the cluster then does. -/
theorem replies_of_sends (addressable : client.IsAddressable) (mirrors : client.Mirrors cluster store)
    {request : ClusterRequest}
    (named : (Event.asked (.cluster request) (interpret request answer)).IsNamed)
    (sending : client.send request = .sends sent) (served : store.Serves sent answer after) :
    cluster.Replies (.asked (.cluster request) (interpret request answer)) ∧
      client.Mirrors (cluster.step (.asked (.cluster request) (interpret request answer))) after := by
  cases request with
  | apply resource =>
      rcases replies_of_apply addressable mirrors named sending served with ⟨reply, mirrored⟩
      rw [reply]
      exact ⟨.apply resource, mirrored⟩
  | delete kind name grace =>
      rcases replies_of_delete addressable mirrors named sending served with ⟨reply, mirrored⟩
      rw [reply]
      exact ⟨.delete kind name grace, mirrored⟩
  | present kind name =>
      have label : Naming.isLabel name = true := named
      cases (send_present addressable kind label).symm.trans sending
      rcases answers_of_get mirrors label served with ⟨rfl, answers⟩
      rw [answers.interpret_present kind name]
      exact ⟨.present kind name, mirrors⟩
  | serviceAddress name =>
      have label : Naming.isLabel name = true := named
      cases (send_serviceAddress addressable label).symm.trans sending
      rcases answers_of_get mirrors label served with ⟨rfl, answers⟩
      rw [answers.interpret_serviceAddress name]
      exact ⟨.serviceAddress name, mirrors⟩
  | ready name =>
      have label : Naming.isLabel name = true := named
      cases (send_ready addressable label).symm.trans sending
      rcases answers_of_get mirrors label served with ⟨rfl, answers⟩
      rw [answers.interpret_ready name]
      exact ⟨.ready name, mirrors⟩
  | firstPod _ => exact named.elim
  | run _ _ _ => exact named.elim
  | tunnel _ _ _ => exact named.elim
  | declared _ => exact named.elim
  | createCustom _ _ _ => exact named.elim

/-- No such request fails before it is put to the API. -/
theorem exists_sends (addressable : client.IsAddressable) {request : ClusterRequest}
    {reply : Except Error request.Value} (named : (Event.asked (.cluster request) reply).IsNamed) :
    ∃ sent, client.send request = .sends sent := by
  cases request with
  | apply resource =>
      rcases exists_send_apply addressable resource named with ⟨_, sends⟩
      exact ⟨_, sends⟩
  | delete kind name grace =>
      rcases exists_send_delete addressable kind grace named with ⟨_, sends⟩
      exact ⟨_, sends⟩
  | present kind name => exact ⟨_, send_present addressable kind named⟩
  | serviceAddress name => exact ⟨_, send_serviceAddress addressable named⟩
  | ready name => exact ⟨_, send_ready addressable named⟩
  | firstPod _ => exact named.elim
  | run _ _ _ => exact named.elim
  | tunnel _ _ _ => exact named.elim
  | declared _ => exact named.elim
  | createCustom _ _ _ => exact named.elim

/-! ### Whole sessions -/

/-- In the course of a session the API holds what the cluster does after the events so far, and the replies are
those of this cluster. -/
theorem Session.mirrors {events : List Event} {final : Store} (session : client.Session store events final)
    (addressable : client.IsAddressable) (mirrors : client.Mirrors cluster store)
    (named : ∀ event ∈ events, event.IsNamed) :
    client.Mirrors (cluster.after events) final ∧
      ∀ earlier event later, events = earlier ++ event :: later → (cluster.after earlier).Replies event := by
  induction session generalizing cluster with
  | done => exact ⟨mirrors, fun earlier event later none => absurd none.symm (by simp)⟩
  | sends sending served onward inductionHypothesis =>
      rcases List.forall_mem_cons.mp named with ⟨first, others⟩
      rcases replies_of_sends addressable mirrors first sending served with ⟨replies, mirrored⟩
      rcases inductionHypothesis mirrored others with ⟨final, rest⟩
      refine ⟨final, fun earlier event later split => ?_⟩
      cases earlier with
      | nil =>
          cases split
          exact replies
      | cons head earlier =>
          cases split
          exact rest earlier event later rfl
  | refuses sending onward inductionHypothesis =>
      rcases List.forall_mem_cons.mp named with ⟨first, _⟩
      rcases exists_sends addressable first with ⟨sent, sends⟩
      cases sends.symm.trans sending

/-- A session goes on with a request whose reply is known. -/
theorem Session.cons {store middle final : Store} {request : ClusterRequest} {sent : HttpRequest}
    {reply : Except Error request.Value} {events : List Event} (sending : client.send request = .sends sent)
    (served : store.Serves sent answer middle) (replied : interpret request answer = reply)
    (onward : client.Session middle events final) :
    client.Session store (.asked (.cluster request) reply :: events) final :=
  replied ▸ .sends sending served onward

/-! ### A session -/

end Client
end Api
end Testbed
