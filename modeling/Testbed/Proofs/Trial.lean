import Testbed.Proofs.Call

namespace Testbed

/-!
# Trials

A trial makes calls one after another against collaborators that answer by rule: what they reply
depends on the request alone, every wait is granted and every tunnel opens at once.  A trial is
computed, and its history is one that the calls can have.  So there are histories of all calls, and a
statement about all histories can be seen at work on one of them.
-/

/-- Collaborators that answer by rule. -/
abbrev Replies : Type :=
  (request : Request) → request.Reply

/-- What happens in a program when its requests are answered by rule, and its value. -/
def Program.follow (replies : Replies) : Program α → List Event × α
  | done value => ([], value)
  | ask request next =>
    let rest := (next (replies request)).follow replies
    (.asked request (replies request) :: rest.1, rest.2)
  | await condition _ _ next =>
    let rest := (next .met ⟨0⟩).follow replies
    (.awaited condition .met :: rest.1, rest.2)
  | connect pod localPort remotePort _ next =>
    let rest := (next (.succeeded ()) ⟨0⟩).follow replies
    (.connected pod localPort remotePort (.succeeded ()) :: rest.1, rest.2)

theorem Program.course_follow (replies : Replies) (program : Program α) :
    program.Course (program.follow replies).1 (program.follow replies).2 := by
  induction program with
  | done value => exact .done value
  | ask request next inductionHypothesis => exact .ask _ (inductionHypothesis _)
  | await condition interval timeout next inductionHypothesis =>
      exact .await _ _ (inductionHypothesis _ _)
  | connect pod localPort remotePort policy next inductionHypothesis =>
      exact .connect _ _ (inductionHypothesis _ _)

/-- The history and the registry after one more call. -/
def Call.tried (setup : Setup) (replies : Replies) (past : List Record × Registry) (call : Call) :
    List Record × Registry :=
  let ended := (call.perform setup past.2).follow replies
  (past.1 ++ [⟨call, ended.1, ended.2.1⟩], ended.2.2)

/-- The history and the registry of some calls that are answered by rule. -/
def trial (setup : Setup) (replies : Replies) (calls : List Call) : List Record × Registry :=
  calls.foldl (Call.tried setup replies) ([], {})

/-- What is tried takes some course, which is added to the history. -/
theorem exists_course_tried (setup : Setup) (replies : Replies) (past : List Record × Registry)
    (call : Call) :
    ∃ events result,
      Action.Course setup call.perform past.2 events result (call.tried setup replies past).2 ∧
      (call.tried setup replies past).1 = past.1 ++ [⟨call, events, result⟩] :=
  ⟨_, _, Program.course_follow replies _, rfl⟩

/-- What is tried and fails takes a course that ends in an error. -/
theorem course_of_failed_trial {setup : Setup} {replies : Replies} {past : List Record × Registry}
    {call : Call} (failed : ((call.perform setup past.2).follow replies).2.1.isOk = false) :
    ∃ error, Action.Course setup call.perform past.2 ((call.perform setup past.2).follow replies).1
      (.error error) (call.tried setup replies past).2 := by
  have course : Action.Course setup call.perform past.2 ((call.perform setup past.2).follow replies).1
      ((call.perform setup past.2).follow replies).2.1 (call.tried setup replies past).2 :=
    Program.course_follow replies _
  cases ended : ((call.perform setup past.2).follow replies).2.1 with
  | error error =>
      rw [ended] at course
      exact ⟨error, course⟩
  | ok value =>
      rw [ended] at failed
      cases failed

theorem toOption_eq_some_iff {ε α : Type} {result : Except ε α} {value : α} :
    result.toOption = some value ↔ result = .ok value := by
  cases result with
  | error error => exact ⟨nofun, nofun⟩
  | ok given => exact ⟨fun same => congrArg _ (Option.some.inj same), fun same => congrArg _ (Except.ok.inj same)⟩

/-- What is tried and succeeds takes a course that ends in a value. -/
theorem course_of_granted_trial {setup : Setup} {replies : Replies} {past : List Record × Registry}
    {call : Call} {value : call.Value}
    (granted : ((call.perform setup past.2).follow replies).2.1.toOption = some value) :
    Action.Course setup call.perform past.2 ((call.perform setup past.2).follow replies).1
      (.ok value) (call.tried setup replies past).2 := by
  have course : Action.Course setup call.perform past.2 ((call.perform setup past.2).follow replies).1
      ((call.perform setup past.2).follow replies).2.1 (call.tried setup replies past).2 :=
    Program.course_follow replies _
  rwa [toOption_eq_some_iff.mp granted] at course

theorem reaches_tried {setup : Setup} {past : List Record × Registry} (replies : Replies) (call : Call)
    (reached : Reaches setup past.1 past.2) :
    Reaches setup (call.tried setup replies past).1 (call.tried setup replies past).2 :=
  reached.call (Program.course_follow replies _)

/-- What is tried can happen. -/
theorem reaches_trial (setup : Setup) (replies : Replies) (calls : List Call) :
    Reaches setup (trial setup replies calls).1 (trial setup replies calls).2 := by
  have onward (calls : List Call) (past : List Record × Registry)
      (reached : Reaches setup past.1 past.2) :
      Reaches setup (calls.foldl (Call.tried setup replies) past).1
        (calls.foldl (Call.tried setup replies) past).2 := by
    induction calls generalizing past with
    | nil => exact reached
    | cons call rest inductionHypothesis =>
        exact inductionHypothesis _ (reaches_tried replies call reached)
  exact onward calls ([], {}) .empty

/-- Collaborators that grant everything.  They give instances their own names in the cluster, find
images unchanged and services at one address. -/
def Replies.agreeable : Replies
  | .cluster request =>
    match request with
    | .apply _ | .delete _ _ _ | .tunnel _ _ _ | .createCustom _ _ _ => .ok ()
    | .present _ _ | .ready _ | .declared _ => .ok true
    | .serviceAddress _ => .ok (some "10.0.0.1")
    | .firstPod name => .ok name
    | .run _ _ _ => .ok ""
  | .image request =>
    match request with
    | .open _ | .openSource _ _ => .ok ⟨0⟩
    | .contentHash _ | .run _ _ => .ok ""
    | .push _ _ | .addFile _ _ _ _ | .setUser _ _ => .ok ()
    | .fetchFile _ _ => .ok []
  | .isChanged _ => false
  | .baseImage _ => "busybox"
  | .shape _ _ _ _ | .unshape _ _ _ => .ok ()
  | .expose _ _ _ => .ok ()
  | .exposedAddress host => .ok host
  | .clusterName name => .ok name
  | .uniqueTag => "tag"
  | .localPort => .ok 8080
  | .recordedImage _ => none
  | .recordImage _ image => image
  | .sourceFile _ => .ok []
  | .sourceFolder _ => .ok []

/-- Collaborators that grant everything but the application of a compute unit with one image. -/
def Replies.refusing (image : String) : Replies
  | .cluster (.apply (.replicaSet unit)) =>
    if unit.spec.template.spec.containers.any fun container => container.image == image then
      .error .unusableAnswer
    else .ok ()
  | request => agreeable request

/-- Collaborators that grant everything but to open one image. -/
def Replies.withholding (image : String) : Replies
  | .image (.open reference) =>
    if reference = image then .error (.words "registry unavailable") else .ok ⟨0⟩
  | request => agreeable request

/-- Collaborators that grant everything and give instances names in the cluster that end alike. -/
def Replies.renaming (suffix : String) : Replies
  | .clusterName name => .ok (name ++ suffix)
  | request => agreeable request

/-- A pod with one sidecar that listens is described and started. -/
def Call.podStart : List Call :=
  [.create "main", .setImage ⟨0⟩ "busybox", .create "side", .setImage ⟨1⟩ "busybox",
    .edit ⟨1⟩ (.addTcpPort 80), .commit ⟨1⟩, .addSidecar ⟨0⟩ ⟨1⟩, .commit ⟨0⟩, .startWithoutWait ⟨0⟩]

/-- An instance whose traffic can be shaped is described. -/
def Call.shapedPod : List Call :=
  [.create "main", .setImage ⟨0⟩ "busybox", .commit ⟨0⟩, .edit ⟨0⟩ (.setFaultInjection true)]

def Setup.plain : Setup :=
  { settings := {}, canShape := false, hasProxy := false }

/-- Settings under which there is a shaping service to talk to. -/
def Setup.shaping : Setup :=
  { settings := {}, canShape := true, hasProxy := false }

/-- An instance whose traffic can be shaped is started, and the cluster refuses its compute unit. -/
def refusedStart : List Record × Registry :=
  (Call.startWithoutWait ⟨0⟩).tried .shaping (.refusing "busybox")
    (trial .shaping (.refusing "busybox") Call.shapedPod)

/-- After the refusal, the start is tried again. -/
def retriedStart : List Record × Registry :=
  (Call.startWithoutWait ⟨0⟩).tried .shaping .agreeable refusedStart

/-- After the refusal, the instance is given another port to shape its traffic through. -/
def refusedPort : List Record × Registry :=
  (Call.edit ⟨0⟩ (.setFaultPort 9100)).tried .shaping .agreeable refusedStart

/-- With the other port the instance is started. -/
def changedStart : List Record × Registry :=
  (Call.startWithoutWait ⟨0⟩).tried .shaping .agreeable refusedPort

/-- After the refusal, the instance is cloned. -/
def refusedClone : List Record × Registry :=
  (Call.clone ⟨0⟩).tried .shaping (.renaming "-b") refusedStart

/-- The clone is started. -/
def clonedStart : List Record × Registry :=
  (Call.startWithoutWait ⟨2⟩).tried .shaping (.renaming "-c") refusedClone

/-- An instance whose traffic can be shaped is started, and the image of its sidecar cannot be opened. -/
def unbuiltStart : List Record × Registry :=
  (Call.startWithoutWait ⟨0⟩).tried .shaping (.withholding Setup.shaping.settings.faultInjectionImage)
    (trial .shaping .agreeable Call.shapedPod)

/-- What has been left behind is given an image, and committed. -/
def salvagedCommit : List Record × Registry :=
  (Call.commit ⟨1⟩).tried .shaping .agreeable
    ((Call.setImage ⟨1⟩ "busybox").tried .shaping .agreeable unbuiltStart)

/-- Then it is attached by hand. -/
def salvagedSidecar : List Record × Registry :=
  (Call.addSidecar ⟨0⟩ ⟨1⟩).tried .shaping .agreeable salvagedCommit

/-- The start is tried again, and everything is granted. -/
def salvagedStart : List Record × Registry :=
  (Call.startWithoutWait ⟨0⟩).tried .shaping (.renaming "-b") salvagedSidecar

end Testbed
