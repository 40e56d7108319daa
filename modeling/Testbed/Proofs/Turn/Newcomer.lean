import Testbed.Proofs.Turn.Describe

namespace Testbed

theorem Registry.add_update {before grown : Registry} {made : Instance} {change : Instance → Instance}
    (joined : before.add made = .ok grown) (named : (change made).clusterName = made.clusterName) :
    before.add (change made) = .ok (grown.update before.nextId change) := by
  rcases add_eq_ok_iff.mp joined with ⟨free, rfl⟩
  refine add_eq_ok_iff.mpr ⟨named ▸ free, eq_of_get?_eq fun other => ?_⟩
  rw [get?_update, get?_append, get?_append]
  split
  · rfl
  · rfl

namespace Action

/-!
# The instance that has joined last

An injection works on the instance that has joined last, and on nothing else, until it attaches it.  So
what the registry is like in between is said by what is made of that instance: `Forms` is the rule for
the actions that do so.
-/

variable {setup : Setup} {before : Registry} {made : Instance}

/-- Every course of an action makes something of the instance that has joined last, which keeps its
bonds, and does nothing else.  When it succeeds, what happened and what was made have a property. -/
def Forms (setup : Setup) (before : Registry) (made : Instance) (action : Action α)
    (finished : List Event → Instance → Prop) : Prop :=
  ∀ grown events result after, before.add made = .ok grown →
    Course setup action grown events result after →
    (∀ event ∈ events, event.IsPlain) ∧ ∃ formed, before.add formed = .ok after ∧
      formed.bonds = made.bonds ∧ ∀ value, result = .ok value → finished events formed

variable {between finished : List Event → Instance → Prop}

theorem found_last {grown : Registry} (joined : before.add made = .ok grown) :
    grown.get? before.nextId = some made :=
  (Registry.get?_add joined).trans (if_pos rfl)

theorem plain_of_nil {event : Event} (member : event ∈ []) : event.IsPlain :=
  nomatch member

theorem Forms.bind {action : Action α} {next : α → Action β}
    (first : Forms setup before made action between)
    (rest : ∀ {formed earlier value}, between earlier formed →
      Forms setup before formed (next value) fun later => finished (earlier ++ later)) :
    Forms setup before made (action >>= next) finished := by
  intro grown events result after joined course
  rcases course_bind.mp course with
    ⟨error, rfl, stopped⟩ | ⟨value, middle, earlier, later, rfl, started, ended⟩
  · rcases first _ _ _ _ joined stopped with ⟨plain, formed, stayed, same, _⟩
    exact ⟨plain, formed, stayed, same, fun _ impossible => nomatch impossible⟩
  · rcases first _ _ _ _ joined started with ⟨plain, formed, joined, same, holds⟩
    rcases rest (holds value rfl) _ _ _ _ joined ended with ⟨onward, last, stays, kept, reaches⟩
    exact ⟨List.forall_mem_append.mpr ⟨plain, onward⟩, last, stays, kept.trans same, reaches⟩

/-- An action that is done at once and changes nothing leaves the rest. -/
theorem Forms.done_bind {action : Action α} {next : α → Action β} {value : Except Error α}
    (ended : ∀ {grown}, before.add made = .ok grown → action setup grown = .done (value, grown))
    (rest : ∀ {found}, value = .ok found → Forms setup before made (next found) finished) :
    Forms setup before made (action >>= next) finished := by
  intro grown events result after joined course
  cases value with
  | error error =>
      rcases (course_of_done (bind_of_failed (ended joined))).mp course with ⟨rfl, rfl, rfl⟩
      exact ⟨fun _ => plain_of_nil, made, joined, rfl, fun _ impossible => nomatch impossible⟩
  | ok found =>
      rw [Course, bind_of_done (ended joined)] at course
      exact rest rfl _ _ _ _ joined course

theorem Forms.update {change : Instance → Instance} (keeps : (change made).bonds = made.bonds)
    (holds : finished [] (change made)) :
    Forms setup before made (Action.update before.nextId change) finished := by
  intro grown events result after joined course
  rcases course_update.mp course with ⟨rfl, rfl, rfl⟩
  have named := congrArg (fun bonds => bonds.links.clusterName) keeps
  exact ⟨fun _ => plain_of_nil, change made, Registry.add_update joined named, keeps, fun _ _ => holds⟩

theorem Forms.ask {request : Request} {next : request.Reply → Action β}
    (plain : ∀ reply, (Event.asked request reply).IsPlain)
    (rest : ∀ reply, Forms setup before made (next reply) fun later =>
      finished (.asked request reply :: later)) :
    Forms setup before made (Action.ask request >>= next) finished := by
  intro grown events result after joined course
  rcases course_ask_bind.mp course with ⟨reply, later, rfl, ended⟩
  rcases rest reply _ _ _ _ joined ended with ⟨onward, formed, stays, kept, reaches⟩
  exact ⟨List.forall_mem_cons.mpr ⟨plain reply, onward⟩, formed, stays, kept, reaches⟩

theorem Forms.fail {error : Error} : Forms setup before made (Action.fail error : Action α) finished := by
  intro grown events result after joined course
  rcases (course_of_done rfl).mp course with ⟨rfl, rfl, rfl⟩
  exact ⟨fun _ => plain_of_nil, made, joined, rfl, fun _ impossible => nomatch impossible⟩

theorem Forms.pure {value : α} (holds : finished [] made) :
    Forms setup before made (Pure.pure value) finished := by
  intro grown events result after joined course
  rcases course_pure.mp course with ⟨rfl, rfl, rfl⟩
  exact ⟨fun _ => plain_of_nil, made, joined, rfl, fun _ _ => holds⟩

theorem Forms.ofExcept_bind {found : Except Error α} {next : α → Action β}
    (rest : ∀ {value}, found = .ok value → Forms setup before made (next value) finished) :
    Forms setup before made (Action.ofExcept found >>= next) finished :=
  .done_bind (fun _ => ofExcept_eq found) rest

theorem Forms.guarded_bind {operation : Operation} {next : Instance → Action β}
    (rest : Forms setup before made (next made) finished) :
    Forms setup before made (guarded before.nextId operation >>= next) finished := by
  intro grown events result after joined course
  rcases course_guarded_bind.mp course with
    ⟨error, _, rfl, rfl, rfl⟩ | ⟨workload, ⟨found, _⟩, ended⟩
  · exact ⟨fun _ => plain_of_nil, made, joined, rfl, fun _ impossible => nomatch impossible⟩
  · rcases Option.some.inj ((found_last joined).symm.trans found) with rfl
    exact rest _ _ _ _ joined ended

theorem Forms.find_bind {next : Instance → Action β}
    (rest : Forms setup before made (next made) finished) :
    Forms setup before made (find before.nextId >>= next) finished := by
  refine .done_bind (fun joined => (find_eq _).trans ?_) fun same => Except.ok.inj same ▸ rest
  rw [Registry.find_eq_ok_iff.mpr (found_last joined)]

theorem Forms.image_bind {name : String} {operation : Operation} {request : ImageRequest}
    {next : request.Value → Action β}
    (rest : ∀ value, Forms setup before made (next value) fun later =>
      finished (.asked (.image request) (.ok value) :: later)) :
    Forms setup before made (image name operation request >>= next) finished := by
  rw [image, bind_assoc]
  refine .ask (fun _ => Event.isPlain_of_image) fun reply => ?_
  cases reply with
  | error failure => exact .fail
  | ok value => exact rest value

/-! ## What is made of it -/

theorem forms_setImage {reference : String} (created : made.state = .created) :
    Forms setup before made (setImage before.nextId reference) fun events formed =>
      ∃ context, events = [.asked (.image (.open reference)) (.ok context)] ∧
        formed = { made with context := some context, state := .preparing } := by
  refine .guarded_bind ?_
  rw [if_neg (by rw [created]; exact nofun)]
  exact .image_bind fun context => .update rfl ⟨context, rfl, rfl⟩

theorem forms_pushedImage {name : String} {context : ContextId} :
    Forms setup before made (pushedImage name context) fun _ formed => formed = made := by
  refine .image_bind fun hash => ?_
  refine .ask (fun _ => ⟨rfl, nofun⟩) fun recorded => ?_
  cases recorded with
  | some recorded => exact .pure rfl
  | none =>
      refine .done_bind (fun _ => rfl) fun {settings} _ => ?_
      refine .ask (fun _ => ⟨rfl, nofun⟩) fun tag => ?_
      refine .image_bind fun pushed => ?_
      exact .ask (fun _ => ⟨rfl, nofun⟩) fun _ => .pure rfl

/-- A context that is found unchanged is known by the image that it started from. -/
theorem forms_commit {context : ContextId} (prepared : made.context = some context) :
    Forms setup before made (commit before.nextId) fun events formed =>
      ∃ changed image rest, events = .asked (.isChanged context) changed :: rest ∧
        (changed = false → rest = [.asked (.baseImage context) image]) ∧
        formed = { made with image := some image, state := .committed } := by
  refine .guarded_bind ?_
  split
  · exact .fail
  rename_i current known
  rcases Option.some.inj (known.symm.trans prepared) with rfl
  refine .ask (fun _ => ⟨rfl, nofun⟩) fun changed => ?_
  cases changed with
  | true =>
      refine .bind forms_pushedImage fun {formed earlier reference} same => ?_
      subst same
      exact .update rfl ⟨true, reference, _, rfl, nofun, rfl⟩
  | false =>
      refine .ask (fun _ => ⟨rfl, nofun⟩) fun reference => ?_
      exact .update rfl ⟨false, reference, _, rfl, fun _ => rfl, rfl⟩

theorem forms_addFileBytes {contents : List UInt8} {destination owner : String}
    (committed : made.state = .committed) :
    Forms setup before made (addFileBytes before.nextId contents destination owner)
      fun events formed => events = [] ∧ ∃ group, made.checkFile destination owner = .ok group ∧
        formed = made.withDeployedFile contents destination group := by
  refine .guarded_bind (.find_bind (.ofExcept_bind fun {group} checked => ?_))
  rw [if_neg (by rw [committed]; exact nofun)]
  exact .update rfl ⟨rfl, group, checked, rfl⟩

theorem forms_edit {change : Edit} :
    Forms setup before made (edit before.nextId change) fun events formed =>
      events = [] ∧ formed = change.change made := by
  refine .find_bind (.ofExcept_bind fun edited => ?_)
  rcases Instance.edit_eq_ok_iff.mp edited with ⟨_, _, rfl⟩
  exact .update (Edit.bonds_change change made) ⟨rfl, rfl⟩

theorem forms_editAll (edits : List Edit) :
    Forms setup before made (editAll before.nextId edits) fun events formed =>
      events = [] ∧ formed = edits.foldl Edit.change made := by
  induction edits generalizing made with
  | nil => exact .pure ⟨rfl, rfl⟩
  | cons first rest inductionHypothesis =>
      refine .bind forms_edit fun same => ?_
      rcases same with ⟨rfl, rfl⟩
      exact inductionHypothesis

end Action
end Testbed
