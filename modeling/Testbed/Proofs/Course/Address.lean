import Testbed.Action.Reach
import Testbed.Proofs.Cluster
import Testbed.Proofs.Course.Action

namespace Testbed

/-!
# Courses of looking up an address

Whoever has an address noted gives it without a word.  Otherwise it is looked up; if there is no service yet, one is
deployed, and the address is looked up again.  There are seven ways in which this can go, and two of them can give
an address, each at its last event.  Only then is anything noted.
-/

/-- The address of a service has been answered. -/
abbrev Event.located (name : String) (address : Option String) : Event :=
  .asked (.cluster (.serviceAddress name)) (.ok address)

/-- What an answer gives as the address of an instance. -/
def Instance.addressIn (workload : Instance) : Option String → Except Error String
  | some address =>
    if address.isEmpty then .error (workload.violate (.withoutAddress workload.clusterName)) else .ok address
  | none => .error (workload.violate (.withoutAddress workload.clusterName))

theorem Instance.addressIn_eq_ok_iff {workload : Instance} {answer : Option String} {address : String} :
    workload.addressIn answer = .ok address ↔ answer = some address ∧ address ≠ "" := by
  cases answer with
  | none => simp only [addressIn, reduceCtorEq, false_and]
  | some found =>
      rw [addressIn, Option.some.injEq]
      by_cases empty : found.isEmpty = true
      · rw [if_pos empty]
        rw [String.isEmpty_iff] at empty
        constructor
        · intro impossible
          cases impossible
        · rintro ⟨rfl, given⟩
          exact absurd empty given
      · rw [if_neg empty, Except.ok.injEq]
        rw [String.isEmpty_iff] at empty
        constructor
        · rintro rfl
          exact ⟨rfl, empty⟩
        · exact fun known => known.1

/-- The ways in which the address of an instance can be looked up: what happens, and the address or the error. -/
inductive Lookup (setup : Setup) (registry : Registry) (workload : Instance) :
    List Event → Except Error String → Prop where
  | unanswered (error : Error) :
      Lookup setup registry workload [.asked (.cluster (.serviceAddress workload.clusterName)) (.error error)]
        (.error (error.relayed workload.name Operation.address.text))
  | answered {answer : Option String} (there : answer ≠ none) :
      Lookup setup registry workload [.located workload.clusterName answer] (workload.addressIn answer)
  | unowned {error : Error} (unowned : registry.podOwner workload = .error error) :
      Lookup setup registry workload [.located workload.clusterName none] (.error error)
  | portless {owner : String} (owned : registry.podOwner workload = .ok owner)
      (portless : workload.service owner setup.settings.space = none) :
      Lookup setup registry workload [.located workload.clusterName none] (.error (workload.refuse .noPorts))
  | undeployed {owner : String} {service : Service} (owned : registry.podOwner workload = .ok owner)
      (offered : workload.service owner setup.settings.space = some service) (error : Error) :
      Lookup setup registry workload
        [.located workload.clusterName none, .asked (.cluster (.apply (.service service))) (.error error)]
        (.error (error.relayed workload.name Operation.address.text))
  | lost {owner : String} {service : Service} (owned : registry.podOwner workload = .ok owner)
      (offered : workload.service owner setup.settings.space = some service) (error : Error) :
      Lookup setup registry workload
        [.located workload.clusterName none, .applied (.service service),
          .asked (.cluster (.serviceAddress workload.clusterName)) (.error error)]
        (.error (error.relayed workload.name Operation.address.text))
  | deployed {owner : String} {service : Service} (owned : registry.podOwner workload = .ok owner)
      (offered : workload.service owner setup.settings.space = some service) (answer : Option String) :
      Lookup setup registry workload
        [.located workload.clusterName none, .applied (.service service), .located workload.clusterName answer]
        (workload.addressIn answer)

namespace Lookup

variable {setup : Setup} {registry : Registry} {workload : Instance} {events : List Event}
  {result : Except Error String}

/-- Only the cluster is asked, and nothing is deleted. -/
theorem asksCluster (lookup : Lookup setup registry workload events result) :
    ∀ event ∈ events, ∃ request reply, event = .asked (.cluster request) reply ∧
      ∀ kind name grace, request ≠ .delete kind name grace := by
  cases lookup with
  | unanswered | answered | unowned | portless => exact List.forall_mem_singleton.mpr ⟨_, _, rfl, nofun⟩
  | undeployed =>
      exact List.forall_mem_cons.mpr ⟨⟨_, _, rfl, nofun⟩, List.forall_mem_singleton.mpr ⟨_, _, rfl, nofun⟩⟩
  | lost | deployed =>
      refine List.forall_mem_cons.mpr ⟨⟨_, _, rfl, nofun⟩, List.forall_mem_cons.mpr ⟨⟨_, _, rfl, nofun⟩, ?_⟩⟩
      exact List.forall_mem_singleton.mpr ⟨_, _, rfl, nofun⟩

/-- The service that is applied is that of the instance. -/
theorem offered {service : Service} {reply : (Request.cluster (.apply (.service service))).Reply}
    (lookup : Lookup setup registry workload events result)
    (asked : .asked (.cluster (.apply (.service service))) reply ∈ events) :
    ∃ owner, registry.podOwner workload = .ok owner ∧
      workload.service owner setup.settings.space = some service := by
  cases lookup with
  | unanswered | answered | unowned | portless => cases List.mem_singleton.mp asked
  | undeployed owned offered =>
      cases List.mem_singleton.mp ((List.mem_cons.mp asked).resolve_left nofun)
      exact ⟨_, owned, offered⟩
  | lost owned offered | deployed owned offered =>
      rcases List.mem_cons.mp ((List.mem_cons.mp asked).resolve_left nofun) with same | last
      · cases same
        exact ⟨_, owned, offered⟩
      · cases List.mem_singleton.mp last

/-- What is said before the last word is talk, or deploys the service, and an address is the last word. -/
theorem parts (lookup : Lookup setup registry workload events result) :
    ∃ earlier last, events = earlier ++ [last] ∧ last.IsQuiet ∧
      (∀ event ∈ earlier, event.IsQuiet ∨ ∃ owner service, registry.podOwner workload = .ok owner ∧
        workload.service owner setup.settings.space = some service ∧ event = .applied (.service service)) ∧
      ∀ address, result = .ok address →
        last = .located workload.clusterName (some address) ∧ address ≠ "" := by
  cases lookup with
  | unanswered error => exact ⟨[], _, rfl, trivial, List.forall_mem_nil _, nofun⟩
  | unowned | portless => exact ⟨[], _, rfl, trivial, List.forall_mem_nil _, nofun⟩
  | answered there =>
      refine ⟨[], _, rfl, trivial, List.forall_mem_nil _, fun address given => ?_⟩
      rcases Instance.addressIn_eq_ok_iff.mp given with ⟨rfl, filled⟩
      exact ⟨rfl, filled⟩
  | undeployed owned offered error =>
      exact ⟨[_], _, rfl, ⟨error, rfl⟩, List.forall_mem_singleton.mpr (Or.inl trivial), nofun⟩
  | lost owned offered error =>
      refine ⟨[_, _], _, rfl, trivial, List.forall_mem_cons.mpr ⟨Or.inl trivial, ?_⟩, nofun⟩
      exact List.forall_mem_singleton.mpr (Or.inr ⟨_, _, owned, offered, rfl⟩)
  | deployed owned offered answer =>
      refine ⟨[_, _], _, rfl, trivial, List.forall_mem_cons.mpr ⟨Or.inl trivial, ?_⟩, fun address given => ?_⟩
      · exact List.forall_mem_singleton.mpr (Or.inr ⟨_, _, owned, offered, rfl⟩)
      · rcases Instance.addressIn_eq_ok_iff.mp given with ⟨rfl, filled⟩
        exact ⟨rfl, filled⟩

end Lookup

/-- A registry in which the address of an instance is noted. -/
def Registry.noteAddress (registry : Registry) (id : InstanceId) (address : String) : Registry :=
  registry.update id fun current => { current with serviceAddress := some address }

namespace Action

variable {setup : Setup} {before after : Registry} {events : List Event} {workload : Instance}

/-- Notes the address in an answer. -/
def noteAnswer (workload : Instance) (answer : Option String) : Action String := do
  let address ← workload.addressIn answer
  update workload.id fun current => { current with serviceAddress := some address }
  return address

/-- An address is looked up, perhaps twice, and the last answer is noted. -/
theorem lookUpAddress_eq (workload : Instance) :
    lookUpAddress workload =
      cluster workload.name .address (.serviceAddress workload.clusterName) >>= fun known =>
        (if known.isNone then deployService workload else pure known) >>= noteAnswer workload := by
  rw [lookUpAddress]
  congr 1
  funext known
  extract_lets note
  have same : note = noteAnswer workload := by
    funext answer
    cases answer with
    | none => rfl
    | some address =>
        by_cases empty : address.isEmpty = true
        · simp only [note, noteAnswer, Instance.addressIn, if_pos empty]
          rfl
        · simp only [note, noteAnswer, Instance.addressIn, if_neg empty]
          rfl
  rw [same]
  split
  · rfl
  · rfl

theorem course_noteAnswer {answer : Option String} {result : Except Error String}
    (course : Course setup (noteAnswer workload answer) before events result after) :
    events = [] ∧ result = workload.addressIn answer ∧
      ((∃ error, result = .error error) ∧ after = before ∨
        ∃ address, result = .ok address ∧ after = before.noteAddress workload.id address) := by
  rcases course_ofExcept_bind.mp course with ⟨error, failed, rfl, rfl, rfl⟩ | ⟨address, known, noted⟩
  · exact ⟨rfl, failed.symm, Or.inl ⟨⟨error, rfl⟩, rfl⟩⟩
  · have updated := course_update_bind.mp noted
    rcases course_pure.mp updated with ⟨rfl, rfl, rfl⟩
    exact ⟨rfl, known.symm, Or.inr ⟨address, rfl, rfl⟩⟩

/-- A service is deployed and its address is looked up, or something fails; nothing is noted yet. -/
theorem course_deployService {result : Except Error (Option String)}
    (course : Course setup (deployService workload) before events result after) :
    after = before ∧
      ((∃ error, result = .error error ∧
          Lookup setup before workload (.located workload.clusterName none :: events) (.error error)) ∨
        ∃ answer, result = .ok answer ∧
          Lookup setup before workload (.located workload.clusterName none :: events)
            (workload.addressIn answer)) := by
  rcases course_bind.mp (course_settings_bind.mp course) with
    ⟨error, rfl, unowned⟩ | ⟨owner, middle, earlier, later, rfl, owned, offering⟩
  · rcases (course_of_done (podOwner_eq workload)).mp unowned with ⟨rfl, failed, rfl⟩
    exact ⟨rfl, Or.inl ⟨error, rfl, .unowned failed.symm⟩⟩
  rcases (course_of_done (podOwner_eq workload)).mp owned with ⟨rfl, known, rfl⟩
  cases offered : workload.service owner setup.settings.space with
  | none =>
      simp only [offered] at offering
      rcases (course_of_done rfl).mp offering with ⟨rfl, rfl, rfl⟩
      exact ⟨rfl, Or.inl ⟨_, rfl, .portless known.symm offered⟩⟩
  | some service =>
      simp only [offered] at offering
      rcases course_cluster_bind.mp offering with ⟨error, rfl, rfl, rfl⟩ | ⟨_, last, rfl, looking⟩
      · exact ⟨rfl, Or.inl ⟨_, rfl, .undeployed known.symm offered error⟩⟩
      · rcases course_cluster.mp looking with ⟨reply, rfl, rfl, rfl⟩
        refine ⟨rfl, ?_⟩
        cases reply with
        | error error => exact Or.inl ⟨_, rfl, .lost known.symm offered error⟩
        | ok answer => exact Or.inr ⟨answer, rfl, .deployed known.symm offered answer⟩

/-- An address is looked up, and noted if there is one. -/
theorem course_lookUpAddress {result : Except Error String}
    (course : Course setup (lookUpAddress workload) before events result after) :
    Lookup setup before workload events result ∧
      ((∃ error, result = .error error) ∧ after = before ∨
        ∃ address, result = .ok address ∧ after = before.noteAddress workload.id address) := by
  rw [lookUpAddress_eq] at course
  rcases course_cluster_bind.mp course with ⟨error, rfl, rfl, rfl⟩ | ⟨known, later, rfl, rest⟩
  · exact ⟨.unanswered error, Or.inl ⟨⟨_, rfl⟩, rfl⟩⟩
  cases known with
  | some address =>
      rcases course_noteAnswer (course_pure_bind.mp rest) with ⟨rfl, rfl, noted⟩
      exact ⟨.answered nofun, noted⟩
  | none =>
      rw [Option.isNone_none, if_pos rfl] at rest
      rcases course_bind.mp rest with
        ⟨error, rfl, stopped⟩ | ⟨answer, middle, talk, last, rfl, deployed, noting⟩
      · rcases course_deployService stopped with ⟨rfl, ⟨_, same, lookup⟩ | ⟨_, impossible, _⟩⟩
        · cases same
          exact ⟨lookup, Or.inl ⟨⟨error, rfl⟩, rfl⟩⟩
        · cases impossible
      · rcases course_deployService deployed with ⟨rfl, ⟨_, impossible, _⟩ | ⟨_, same, lookup⟩⟩
        · cases impossible
        · cases same
          rcases course_noteAnswer noting with ⟨rfl, rfl, noted⟩
          rw [List.append_nil]
          exact ⟨lookup, noted⟩

/-- An address is refused, or it is noted already, or it is looked up. -/
theorem course_address {id : InstanceId} {result : Except Error String}
    (course : Course setup (address id) before events result after) :
    (∃ error, before.guarded id .address = .error error ∧
        events = [] ∧ result = .error error ∧ after = before) ∨
      ∃ workload, (before.get? id = some workload ∧ workload.state ∈ Operation.address.allowedStates) ∧
        ((∃ address, workload.serviceAddress = some address ∧
            events = [] ∧ result = .ok address ∧ after = before) ∨
          workload.serviceAddress = none ∧ Lookup setup before workload events result ∧
            ((∃ error, result = .error error) ∧ after = before ∨
              ∃ address, result = .ok address ∧ after = before.noteAddress workload.id address)) := by
  refine (course_guarded_bind.mp course).imp_right ?_
  rintro ⟨workload, permitted, rest⟩
  refine ⟨workload, permitted, ?_⟩
  cases known : workload.serviceAddress with
  | some address =>
      rw [known] at rest
      rcases course_pure.mp rest with ⟨rfl, rfl, rfl⟩
      exact Or.inl ⟨address, rfl, rfl, rfl, rfl⟩
  | none =>
      rw [known] at rest
      exact Or.inr ⟨rfl, course_lookUpAddress rest⟩

end Action
end Testbed
