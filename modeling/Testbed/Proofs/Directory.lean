import Testbed.Proofs.Residue
import Testbed.Proofs.Selection

namespace Testbed

/-!
# Addresses of services

The address of an instance is looked up once and then noted.  It stays right because of what a cluster does with
services: one that has been applied has an address, and keeps it.  A directory is what a cluster knows of addresses
at one time, and a course of directories goes with what happens.  Nothing else is asked of the cluster; any call can
fail, and anybody can apply services.

An address is noted together with the answer that gives it, by a move of its own, and only where there was none.
All else leaves the addresses alone, whether instances are started, stopped, copied, attached or given other images.
-/

/-- The addresses of the services that there are. -/
structure Directory where
  find? : String → Option String
  /-- No address is empty. -/
  given : ∀ name, find? name ≠ some ""

/-- How the addresses of services can change while something happens. -/
structure Directory.Step (before : Directory) (event : Event) (after : Directory) : Prop where
  /-- A service that is there stays, and keeps its address. -/
  keeps : ∀ name address, before.find? name = some address → after.find? name = some address
  /-- A service that has been applied has an address. -/
  serves : ∀ service, event = .applied (.service service) → after.find? service.metadata.name ≠ none
  /-- What is answered is so. -/
  answers : ∀ name answer, event = .located name answer → answer = after.find? name

/-- The directories before and after some events. -/
inductive Directory.Course : Directory → List Event → Directory → Prop where
  | none {directory : Directory} : Course directory [] directory
  | next {before middle after : Directory} {event : Event} {events : List Event} (step : before.Step event middle)
      (rest : Course middle events after) : Course before (event :: events) after

namespace Directory.Course

variable {before after : Directory} {earlier later events : List Event} {name address : String}

theorem keeps (course : before.Course events after) (known : before.find? name = some address) :
    after.find? name = some address := by
  induction course with
  | none => exact known
  | next step _ inductionHypothesis => exact inductionHypothesis (step.keeps name address known)

theorem split (course : before.Course (earlier ++ later) after) :
    ∃ middle, before.Course earlier middle ∧ Directory.Course middle later after := by
  induction earlier generalizing before with
  | nil => exact ⟨before, .none, course⟩
  | cons first rest inductionHypothesis =>
      cases course with
      | next step onward =>
          rcases inductionHypothesis onward with ⟨middle, opening, closing⟩
          exact ⟨middle, .next step opening, closing⟩

theorem append {middle : Directory} (first : before.Course earlier middle) (second : middle.Course later after) :
    before.Course (earlier ++ later) after := by
  induction first with
  | none => exact second
  | next step _ inductionHypothesis => exact .next step (inductionHypothesis second)

theorem answered {answer : Option String} (course : before.Course [.located name answer] after) :
    answer = after.find? name := by
  cases course with
  | next step rest =>
      cases rest
      exact step.answers name answer rfl

end Directory.Course

/-! ## What is noted -/

namespace Registry

variable {before middle after registry : Registry} {opening closing directory : Directory} {events : List Event}

/-- Whether every address that is noted is that of the service that has the name of the instance. -/
def Addressed (registry : Registry) (directory : Directory) : Prop :=
  ∀ id workload address, registry.get? id = some workload → workload.serviceAddress = some address →
    directory.find? workload.clusterName = some address

/-- Whether every address that is noted before is still noted after. -/
def Retains (before after : Registry) : Prop :=
  ∀ id workload address, before.get? id = some workload → workload.serviceAddress = some address →
    ∃ left, after.get? id = some left ∧ left.serviceAddress = some address

theorem Retains.trans (first : before.Retains middle) (second : middle.Retains after) : before.Retains after := by
  intro id workload address found noted
  rcases first id workload address found noted with ⟨between, there, same⟩
  exact second id between address there same

end Registry

namespace Move

variable {setup : Setup} {touched : List InstanceId} {before after : Registry} {events : List Event}
  {id : InstanceId} {left : Instance} {opening closing : Directory}

open Registry

/-- The address that is noted of an instance was noted before, or has just been answered; nobody joins with one. -/
theorem serviceAddress_source (move : Move setup touched before events after) (there : after.get? id = some left) :
    before.get? id = none ∧ left.serviceAddress = none ∨
      ∃ workload, before.get? id = some workload ∧ left.clusterName = workload.clusterName ∧
        (left.serviceAddress = workload.serviceAddress ∨
          workload.serviceAddress = none ∧ ∃ address, left.serviceAddress = some address ∧
            events = [.located left.clusterName (some address)]) := by
  have joins {registry grown : Registry} {added found : Instance} (joined : registry.add added = .ok grown)
      (unresolved : added.serviceAddress = none) (known : grown.get? id = some found) :
      registry.get? id = none ∧ found.serviceAddress = none ∨ registry.get? id = some found := by
    rw [get?_add joined] at known
    split at known
    · rename_i last
      obtain rfl := Option.some.inj known
      exact Or.inl ⟨last ▸ get?_nextId, unresolved⟩
    · exact Or.inr known
  have reworks {rework : InstanceId → Instance → Instance} (reworked : before.Reworked after rework)
      (keeps : ∀ workload, (rework id workload).clusterName = workload.clusterName ∧
        (rework id workload).serviceAddress = workload.serviceAddress) :
      ∃ workload, before.get? id = some workload ∧ left.clusterName = workload.clusterName ∧
        left.serviceAddress = workload.serviceAddress := by
    rcases reworked.source there with ⟨workload, known, rfl⟩
    exact ⟨workload, known, keeps workload⟩
  have same {source : Prop} (kept : ∃ workload, before.get? id = some workload ∧
      left.clusterName = workload.clusterName ∧ left.serviceAddress = workload.serviceAddress) :
      source ∨ ∃ workload, before.get? id = some workload ∧ left.clusterName = workload.clusterName ∧
        (left.serviceAddress = workload.serviceAddress ∨
          workload.serviceAddress = none ∧ ∃ address, left.serviceAddress = some address ∧
            events = [.located left.clusterName (some address)]) := by
    rcases kept with ⟨workload, known, named, noted⟩
    exact Or.inr ⟨workload, known, named, Or.inl noted⟩
  cases move with
  | talk | support | serve | isolate | rejoin => exact same ⟨left, there, rfl, rfl⟩
  | create joined | copy _ _ joined =>
      exact (joins joined rfl there).imp_right fun known => ⟨left, known, rfl, Or.inl rfl⟩
  | copySidecar _ _ _ _ _ joined =>
      rcases reworked_attach.source there with ⟨grown, known, rfl⟩
      exact (joins joined rfl known).imp_right fun known => ⟨grown, known, rfl, Or.inl rfl⟩
  | attach => exact same (reworks reworked_attach fun _ => ⟨rfl, rfl⟩)
  | amend amends =>
      rcases reworked_update.source there with ⟨workload, known, rfl⟩
      refine Or.inr ⟨workload, known, ?_⟩
      split
      · rename_i here
        have amendment := amends workload (here ▸ known)
        exact ⟨congrArg Links.clusterName amendment.keeps.2, Or.inl amendment.serviceAddress_eq⟩
      · exact ⟨rfl, Or.inl rfl⟩
  | resolve found unresolved given =>
      rcases reworked_update.source there with ⟨workload, known, rfl⟩
      refine Or.inr ⟨workload, known, ?_⟩
      split
      · rename_i here
        obtain rfl := Option.some.inj (found.symm.trans (here ▸ known))
        exact ⟨rfl, Or.inr ⟨unresolved, _, rfl, rfl⟩⟩
      · exact ⟨rfl, Or.inl rfl⟩
  | prepare | commit =>
      refine same (reworks reworked_update fun workload => ?_)
      split
      · exact ⟨rfl, rfl⟩
      · exact ⟨rfl, rfl⟩
  | launch | relaunch =>
      refine same (reworks reworked_setPodState fun workload => ?_)
      split
      · exact ⟨rfl, rfl⟩
      · exact ⟨rfl, rfl⟩
  | halt =>
      refine same (reworks (reworked_setPodState.trans reworked_update) fun workload => ?_)
      split
      · split
        · exact ⟨rfl, rfl⟩
        · exact ⟨rfl, rfl⟩
      · split
        · exact ⟨rfl, rfl⟩
        · exact ⟨rfl, rfl⟩

theorem addressed (move : Move setup touched before events after) (course : opening.Course events closing)
    (addressed : before.Addressed opening) : after.Addressed closing := by
  intro id left address there noted
  rcases move.serviceAddress_source there with
    ⟨_, none⟩ | ⟨workload, found, named, same | ⟨_, given, resolved, rfl⟩⟩
  · cases none.symm.trans noted
  · rw [named]
    exact course.keeps (addressed id workload address found (same ▸ noted))
  · obtain rfl := Option.some.inj (resolved.symm.trans noted)
    exact course.answered.symm

theorem retains (move : Move setup touched before events after) : before.Retains after := by
  intro id workload address found noted
  rcases move.kept found with ⟨left, there, _⟩
  refine ⟨left, there, ?_⟩
  rcases move.serviceAddress_source there with ⟨absent, _⟩ | ⟨source, known, _, same | ⟨unresolved, _⟩⟩
  · cases absent.symm.trans found
  · obtain rfl := Option.some.inj (known.symm.trans found)
    exact same.trans noted
  · obtain rfl := Option.some.inj (known.symm.trans found)
    cases unresolved.symm.trans noted

end Move

namespace Moves

variable {setup : Setup} {floor count : Nat} {before after : Registry} {events : List Event}
  {opening closing : Directory}

theorem addressed (moves : Moves setup floor count before events after) (course : opening.Course events closing)
    (addressed : before.Addressed opening) : after.Addressed closing := by
  induction moves generalizing opening with
  | none =>
      cases course
      exact addressed
  | free move _ _ inductionHypothesis | counted move _ inductionHypothesis =>
      rcases course.split with ⟨middle, first, second⟩
      exact inductionHypothesis second (move.addressed first addressed)

theorem retains (moves : Moves setup floor count before events after) : before.Retains after := by
  induction moves with
  | none => exact fun id workload address found noted => ⟨workload, found, noted⟩
  | free move _ _ inductionHypothesis | counted move _ inductionHypothesis =>
      exact move.retains.trans inductionHypothesis

end Moves

namespace Conduct

variable {setup : Setup} {before after : Registry} {call : Call} {events : List Event} {succeeded : Bool}
  {opening closing : Directory}

theorem addressed (conduct : Conduct setup before call events succeeded after)
    (course : opening.Course events closing) (addressed : before.Addressed opening) : after.Addressed closing := by
  cases conduct with
  | moves moves => exact moves.addressed course addressed
  | strands => exact fun id workload address found noted => course.keeps (addressed id workload address found noted)
  | replaces =>
      intro id left address there noted
      rcases Registry.reworked_update.source there with ⟨workload, found, rfl⟩
      split at noted
      · rename_i here
        rw [if_pos here]
        exact course.keeps (addressed id workload address found noted)
      · rename_i elsewhere
        rw [if_neg elsewhere]
        exact course.keeps (addressed id workload address found noted)

theorem retains (conduct : Conduct setup before call events succeeded after) : before.Retains after := by
  intro id workload address found noted
  cases conduct with
  | moves moves => exact moves.retains id workload address found noted
  | strands => exact ⟨workload, found, noted⟩
  | replaces =>
      refine ⟨_, Registry.reworked_update.found found, ?_⟩
      split
      · exact noted
      · exact noted

end Conduct

/-! ## What is given -/

namespace Action

variable {setup : Setup} {before after : Registry} {id : InstanceId} {workload : Instance} {events : List Event}
  {address : String} {opening closing : Directory}

/-- An address that is given is noted. -/
theorem noted_of_address (linked : before.WellLinked)
    (course : Course setup (Action.address id) before events (.ok address) after) :
    ∃ left, after.get? id = some left ∧ left.serviceAddress = some address := by
  rcases course_address course with
    ⟨_, _, _, impossible, _⟩ |
      ⟨workload, ⟨found, _⟩, ⟨_, noted, _, same, rfl⟩ | ⟨_, _, ⟨⟨_, impossible⟩, _⟩ | ⟨_, same, rfl⟩⟩⟩
  · cases impossible
  · cases same
    exact ⟨workload, found, noted⟩
  · cases impossible
  · cases same
    rw [linked.handle found, Registry.noteAddress, Registry.get?_update_self, found]
    exact ⟨_, rfl, rfl⟩

/-- An address that is noted is given without a word. -/
theorem address_of_noted {value : String} (found : before.get? id = some workload)
    (noted : workload.serviceAddress = some address)
    (course : Course setup (Action.address id) before events (.ok value) after) :
    events = [] ∧ value = address := by
  rcases course_address course with
    ⟨_, _, _, impossible, _⟩ | ⟨other, ⟨same, _⟩, ⟨known, resolved, rfl, given, _⟩ | ⟨unresolved, _⟩⟩
  · cases impossible
  · obtain rfl := Option.some.inj (found.symm.trans same)
    cases given
    exact ⟨rfl, Option.some.inj (resolved.symm.trans noted)⟩
  · obtain rfl := Option.some.inj (found.symm.trans same)
    cases unresolved.symm.trans noted

/-- An answer of a directory gives the address of a service that there is. -/
theorem addressIn_find? {answer : Option String} (same : answer = closing.find? workload.clusterName)
    (there : answer ≠ none) :
    ∃ address, workload.addressIn answer = .ok address ∧ closing.find? workload.clusterName = some address := by
  rcases Option.ne_none_iff_exists'.mp there with ⟨address, rfl⟩
  refine ⟨address, Instance.addressIn_eq_ok_iff.mpr ⟨rfl, ?_⟩, same.symm⟩
  rintro rfl
  exact closing.given _ same.symm

/-- If nothing that is said to the cluster fails, an instance that listens has an address, and at most one service
has been applied for that. -/
theorem exists_address {result : Except Error String} (linked : before.WellLinked)
    (addressed : before.Addressed opening) (found : before.get? id = some workload)
    (permitted : workload.state ∈ Operation.address.allowedStates)
    (listens : workload.tcpPorts ≠ [] ∨ workload.udpPorts ≠ [])
    (course : Course setup (Action.address id) before events result after)
    (goes : opening.Course events closing)
    (granted : ∀ request error, .asked (.cluster request) (.error error) ∉ events) :
    ∃ address, result = .ok address ∧ closing.find? workload.clusterName = some address ∧
      (appliedIn events = [] ∨ ∃ service, appliedIn events = [.service service]) := by
  rcases course_address course with
    ⟨_, refused, _⟩ | ⟨other, ⟨same, _⟩, ⟨address, noted, rfl, rfl, _⟩ | ⟨_, lookup, _⟩⟩
  · rw [Registry.guarded_eq_ok_iff.mpr ⟨found, permitted⟩] at refused
    cases refused
  · obtain rfl := Option.some.inj (found.symm.trans same)
    exact ⟨address, rfl, goes.keeps (addressed id workload address found noted), Or.inl rfl⟩
  obtain rfl := Option.some.inj (found.symm.trans same)
  cases lookup with
  | unanswered error => exact absurd List.mem_cons_self (granted _ error)
  | undeployed _ _ error => exact absurd (List.mem_cons_of_mem _ List.mem_cons_self) (granted _ error)
  | lost _ _ error =>
      exact absurd (List.mem_cons_of_mem _ (List.mem_cons_of_mem _ List.mem_cons_self)) (granted _ error)
  | answered there =>
      rcases addressIn_find? goes.answered there with ⟨address, given, known⟩
      exact ⟨address, given, known, Or.inl rfl⟩
  | unowned unowned =>
      rcases linked.exists_leader found with ⟨leader, led, _⟩
      cases unowned.symm.trans ((Registry.hostOf_eq_some_iff found).mp (Registry.hostOf_of_leader led))
  | @portless owner _ portless =>
      have offers : (workload.service owner setup.settings.space).isSome = true :=
        Instance.isSome_service.mpr listens
      rw [portless] at offers
      cases offers
  | @deployed owner service _ offered answer =>
      have whole : opening.Course ([.located workload.clusterName none, .applied (.service service)] ++
        [.located workload.clusterName answer]) closing := goes
      rcases whole.split with ⟨middle, deploying, looking⟩
      have same := looking.answered
      have there : middle.find? workload.clusterName ≠ none := by
        cases deploying with
        | next _ rest =>
            cases rest with
            | next applying rest =>
                cases rest
                exact (Instance.parts_of_service offered).1 ▸ applying.serves service rfl
      rcases Option.ne_none_iff_exists'.mp there with ⟨address, known⟩
      have kept := looking.keeps known
      have found : answer ≠ none := by
        rw [same, kept]
        exact Option.some_ne_none address
      rcases addressIn_find? same found with ⟨address, given, known⟩
      exact ⟨address, given, known, Or.inr ⟨service, rfl⟩⟩

end Action

/-! ## At all times -/

variable {setup : Setup} {history : List Record} {registry : Registry} {opening closing : Directory}

theorem addressed_of_reaches (reached : Reaches setup history registry)
    (goes : opening.Course (eventsOf history) closing) : registry.Addressed closing := by
  induction reached generalizing closing with
  | empty => exact fun id workload address impossible => nomatch impossible
  | call earlier course inductionHypothesis =>
      rw [eventsOf_concat] at goes
      rcases goes.split with ⟨middle, before, during⟩
      exact (Call.conduct earlier.invariant.1 course).addressed during (inductionHypothesis before)

/-- An address that has been given is still noted, and it is what has been given since. -/
theorem given_of_reaches (reached : Reaches setup history registry) {earlier later : List Record} {id : InstanceId}
    {events : List Event} {address : String}
    (given : history = earlier ++ ⟨.address id, events, .ok address⟩ :: later) :
    (∃ left, registry.get? id = some left ∧ left.serviceAddress = some address) ∧
      ∀ again value, (⟨.address id, again, .ok value⟩ : Record) ∈ later → again = [] ∧ value = address := by
  induction reached generalizing later with
  | empty => exact absurd given (by simp)
  | @call history before happened after call result reached course inductionHypothesis =>
      have linked := reached.invariant.1
      rcases later.eq_nil_or_concat' with rfl | ⟨rest, last, rfl⟩
      · have same := (List.append_inj' given rfl).2
        cases List.singleton_inj.mp same
        exact ⟨Action.noted_of_address linked course, fun _ _ impossible => nomatch impossible⟩
      · rw [← List.cons_append, ← List.append_assoc] at given
        rcases List.append_inj' given rfl with ⟨shorter, same⟩
        cases List.singleton_inj.mp same
        rcases inductionHypothesis shorter with ⟨⟨left, found, noted⟩, since⟩
        refine ⟨(Call.conduct linked course).retains id left address found noted, ?_⟩
        intro again value listed
        rcases List.mem_append.mp listed with before | last
        · exact since again value before
        · cases List.mem_singleton.mp last
          exact Action.address_of_noted found noted course

/-- Addresses stay right, whatever is done with a testbed and whatever fails.  An address that is noted of an
instance is that of the service that has its name in the cluster.  Once an address has been given, the same is given
ever after, without a word to the cluster.  And an instance that is committed or more and has a port is given its
address if nothing that is said to the cluster fails, and at most one service is applied for it. -/
theorem addresses_of_reaches (reached : Reaches setup history registry)
    (goes : opening.Course (eventsOf history) closing) :
    registry.Addressed closing ∧
    (∀ earlier later id events address, history = earlier ++ ⟨.address id, events, .ok address⟩ :: later →
      ∀ again value, (⟨.address id, again, .ok value⟩ : Record) ∈ later → again = [] ∧ value = address) ∧
    ∀ id workload events result after left, registry.get? id = some workload →
      workload.state ∈ [.committed, .started, .stopped] → (workload.tcpPorts ≠ [] ∨ workload.udpPorts ≠ []) →
      Action.Course setup (Call.address id).perform registry events result after → closing.Course events left →
      (∀ request error, .asked (.cluster request) (.error error) ∉ events) →
      ∃ address, result = .ok address ∧ left.find? workload.clusterName = some address ∧
        (appliedIn events = [] ∨ ∃ service, appliedIn events = [.service service]) := by
  have addressed := addressed_of_reaches reached goes
  refine ⟨addressed, fun earlier later id events address given => (given_of_reaches reached given).2, ?_⟩
  intro id workload events result after left found settled listens course onward granted
  have permitted : workload.state ∈ Operation.address.allowedStates := settled
  exact Action.exists_address reached.invariant.1 addressed found permitted listens course onward granted

/-! ## A deployment -/

/-- A service is deployed for an address if there is none yet. -/
theorem Action.course_of_deployed {before : Registry} {id : InstanceId} {workload : Instance}
    {owner address : String} {service : Service} (found : before.get? id = some workload)
    (permitted : workload.state ∈ Operation.address.allowedStates) (unresolved : workload.serviceAddress = none)
    (owned : before.podOwner workload = .ok owner)
    (offered : workload.service owner setup.settings.space = some service) (given : address ≠ "") :
    Action.Course setup (Action.address id) before
      [.located workload.clusterName none, .applied (.service service),
        .located workload.clusterName (some address)]
      (.ok address) (before.noteAddress workload.id address) := by
  have deploying : Action.Course setup (Action.deployService workload) before
      [.applied (.service service), .located workload.clusterName (some address)] (.ok (some address)) before := by
    refine Action.course_settings_bind.mpr (Action.course_bind.mpr (Or.inr ⟨owner, before, [], _, rfl, ?_, ?_⟩))
    · exact (Action.course_of_done (Action.podOwner_eq workload)).mpr ⟨rfl, owned.symm, rfl⟩
    · simp only [offered]
      refine Action.course_cluster_bind.mpr (Or.inr ⟨(), _, rfl, ?_⟩)
      exact Action.course_cluster.mpr ⟨.ok (some address), rfl, rfl, rfl⟩
  have noting : Action.Course setup (Action.noteAnswer workload (some address)) before [] (.ok address)
      (before.noteAddress workload.id address) := by
    have filled : workload.addressIn (some address) = .ok address :=
      Instance.addressIn_eq_ok_iff.mpr ⟨rfl, given⟩
    refine Action.course_ofExcept_bind.mpr (Or.inr ⟨address, filled, Action.course_update_bind.mpr ?_⟩)
    exact Action.course_pure.mpr ⟨rfl, rfl, rfl⟩
  refine Action.course_guarded_bind.mpr (Or.inr ⟨workload, ⟨found, permitted⟩, ?_⟩)
  rw [unresolved, Action.lookUpAddress_eq]
  refine Action.course_cluster_bind.mpr (Or.inr ⟨none, _, rfl, ?_⟩)
  exact Action.course_bind.mpr (Or.inr ⟨some address, before, _, [], rfl, deploying, noting⟩)

namespace Directory

variable {before after directory : Directory} {service : Service} {name : String} {answer : Option String}

/-- Nothing need change when an answer is given. -/
theorem step_located (same : answer = directory.find? name) : directory.Step (.located name answer) directory where
  keeps _ _ known := known
  serves _ impossible := by cases impossible
  answers _ _ given := by
    cases given
    exact same

theorem step_applied
    (keeps : ∀ name address, before.find? name = some address → after.find? name = some address)
    (there : after.find? service.metadata.name ≠ none) : before.Step (.applied (.service service)) after where
  keeps := keeps
  serves _ same := by
    cases same
    exact there
  answers _ _ impossible := by cases impossible

/-- The directory with one service at most. -/
def single (name : String) (address : Option String) (given : address ≠ some "") : Directory where
  find? other := if other = name then address else none
  given other := by
    split
    · exact given
    · intro impossible
      cases impossible

end Directory

/-- Whether an event is not about services. -/
def Event.isElsewhere : Event → Bool
  | asked (.cluster (.apply (.service _))) _ | asked (.cluster (.serviceAddress _)) _ => false
  | _ => true

/-- Nothing need change while nothing is said about services. -/
theorem Directory.Course.of_silent {directory : Directory} {events : List Event}
    (silent : ∀ event ∈ events, event.isElsewhere = true) : directory.Course events directory := by
  induction events with
  | nil => exact .none
  | cons first rest inductionHypothesis =>
      rcases List.forall_mem_cons.mp silent with ⟨head, tail⟩
      refine .next ⟨fun _ _ known => known, ?_, ?_⟩ (inductionHypothesis tail)
      · rintro service rfl
        cases head
      · rintro name answer rfl
        cases head

/-- An instance with a port is committed. -/
def Call.listening : List Call :=
  [.create "main", .setImage ⟨0⟩ "busybox", .commit ⟨0⟩, .edit ⟨0⟩ (.addTcpPort 80)]

/-- The service of the instance is deployed when its address is asked for, and the address is noted. -/
theorem addresses_of_listening :
    let described := trial .plain .agreeable Call.listening
    let opening := Directory.single "main" none (by decide)
    let closing := Directory.single "main" (some "10.0.0.7") (by decide)
    ∃ events after left service, Reaches .plain (described.1 ++ [⟨.address ⟨0⟩, events, .ok "10.0.0.7"⟩]) after ∧
      opening.Course (eventsOf described.1) opening ∧ opening.Course events closing ∧
      appliedIn events = [.service service] ∧ after.get? ⟨0⟩ = some left ∧ left.serviceAddress = some "10.0.0.7" ∧
      closing.find? left.clusterName = some "10.0.0.7" := by
  intro described opening closing
  have reached : Reaches .plain described.1 described.2 := reaches_trial _ _ _
  have shape : (described.2.get? ⟨0⟩).map (fun workload => ((workload.id, workload.state, workload.parent),
      workload.clusterName, workload.tcpPorts, workload.serviceAddress)) =
        some ((⟨0⟩, .committed, none), "main", [80], none) := by decide +kernel
  rcases Option.map_eq_some_iff.mp shape with ⟨workload, found, same⟩
  simp only [Prod.mk.injEq] at same
  rcases same with ⟨⟨handle, committed, leads⟩, named, ports, unresolved⟩
  have listens : workload.tcpPorts ≠ [] ∨ workload.udpPorts ≠ [] := by
    rw [ports]
    exact Or.inl (List.cons_ne_nil _ _)
  have owned : described.2.podOwner workload = .ok "main" := by
    rw [Registry.podOwner, leads, named]
  have offers : (workload.service "main" Setup.plain.settings.space).isSome = true :=
    Instance.isSome_service.mpr listens
  rcases Option.isSome_iff_exists.mp offers with ⟨service, offered⟩
  have permitted : workload.state ∈ Operation.address.allowedStates := by
    rw [committed]
    decide
  have course := Action.course_of_deployed found permitted unresolved owned offered (by decide : "10.0.0.7" ≠ "")
  rw [named, handle] at course
  have silent : opening.Course (eventsOf described.1) opening :=
    .of_silent (List.all_eq_true.mp (by decide +kernel))
  have metadata : service.metadata.name = "main" := (Instance.parts_of_service offered).1.trans named
  have deploying : opening.Course
      [.located "main" none, .applied (.service service), .located "main" (some "10.0.0.7")] closing := by
    have looked : closing.Course [.located "main" (some "10.0.0.7")] closing :=
      .next (Directory.step_located rfl) .none
    refine .next (Directory.step_located rfl) (.next (Directory.step_applied ?_ ?_) looked)
    · intro name address known
      have none : opening.find? name = none := ite_self none
      cases none.symm.trans known
    · rw [metadata]
      decide
  let given : Record := ⟨.address ⟨0⟩,
    [.located "main" none, .applied (.service service), .located "main" (some "10.0.0.7")], .ok "10.0.0.7"⟩
  have onward : Reaches .plain (described.1 ++ [given]) _ := .call reached course
  have whole : opening.Course (eventsOf (described.1 ++ [given])) closing := by
    rw [eventsOf_concat]
    exact silent.append deploying
  have there : (described.2.noteAddress ⟨0⟩ "10.0.0.7").get? ⟨0⟩ =
      some { workload with serviceAddress := some "10.0.0.7" } := by
    rw [Registry.noteAddress, Registry.get?_update_self, found]
    rfl
  refine ⟨_, _, _, service, onward, silent, deploying, rfl, there, rfl, ?_⟩
  exact (addresses_of_reaches onward whole).1 ⟨0⟩ _ _ there rfl

end Testbed
