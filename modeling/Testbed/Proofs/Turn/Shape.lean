import Testbed.Action.Shape
import Testbed.Proofs.Course.Action

namespace Testbed

/-!
# How traffic is shaped

A call that shapes traffic stops what is in force and what is about to be, and then starts the latter.
`Shapes` says how far it can get, what is said to the shaping service on the way, and which shaping is
noted in the end.  A stop counts as made if the service grants it or has nothing to stop; any other
failure ends the call, and leaves the note as it was.
-/

/-- Notes of an instance that some shaping, or none, is in force. -/
def Registry.setMode (registry : Registry) (id : InstanceId) (mode : Option ShapingKind) : Registry :=
  registry.update id fun current => { current with fault := { current.fault with activeMode := mode } }

theorem Registry.setMode_setMode {registry : Registry} {id : InstanceId}
    {first second : Option ShapingKind} :
    (registry.setMode id first).setMode id second = registry.setMode id second := by
  refine eq_of_get?_eq fun other => ?_
  rw [setMode, setMode, setMode, get?_update, get?_update, get?_update]
  split
  · rw [Option.map_map]
    rfl
  · rfl

theorem Registry.setMode_eq_self {registry : Registry} {id : InstanceId} {workload : Instance}
    (found : registry.get? id = some workload) :
    registry.setMode id workload.fault.activeMode = registry := by
  refine eq_of_get?_eq fun other => ?_
  rw [setMode, get?_update]
  split
  · rename_i here
    rw [here, found]
    rfl
  · rfl

/-- Shaping of some kinds is stopped, one after another: each is stopped, or was not there. -/
inductive Stops (target : String) (port : UInt16) : List ShapingKind → List Event → Prop where
  | none : Stops target port [] []
  | next {reply : Except ShapingFailure Unit}
      (calm : ∀ failure, reply = .error failure → failure.isIdle = true)
      (rest : Stops target port kinds events) :
      Stops target port (kind :: kinds) (.asked (.unshape target port kind) reply :: events)

/-- What comes of stopping some kinds of shaping in order: all are stopped, or the first that cannot be
ends it. -/
def StopsOrFails (target : String) (port : UInt16) (kinds : List ShapingKind) (events : List Event)
    (result : Except Error Unit) : Prop :=
  result = .ok () ∧ Stops target port kinds events ∨
    (∃ error, result = .error error) ∧ ∃ stopped talk kind failure,
      Stops target port stopped talk ∧ failure.isIdle = false ∧
        events = talk ++ [.asked (.unshape target port kind) (.error failure)] ∧
        stopped ++ [kind] <+: kinds

theorem StopsOrFails.next {target : String} {port : UInt16} {kind : ShapingKind}
    {kinds : List ShapingKind} {reply : Except ShapingFailure Unit} {events : List Event}
    {result : Except Error Unit} (calm : ∀ failure, reply = .error failure → failure.isIdle = true)
    (rest : StopsOrFails target port kinds events result) :
    StopsOrFails target port (kind :: kinds) (.asked (.unshape target port kind) reply :: events)
      result := by
  rcases rest with ⟨ok, stops⟩ | ⟨failed, stopped, talk, last, failure, stops, grave, rfl, leads⟩
  · exact Or.inl ⟨ok, .next calm stops⟩
  · exact Or.inr ⟨failed, kind :: stopped, _, last, failure, .next calm stops, grave, rfl,
      List.cons_prefix_cons.mpr ⟨rfl, leads⟩⟩

/-- How far a change of shaping gets: what happens, whether it succeeds, and which shaping is noted
afterwards. -/
inductive Shapes (target : String) (port : UInt16) (active : Option ShapingKind)
    (shaping : Option Shaping) : List Event → Bool → Option ShapingKind → Prop where
  | aborted {failure : ShapingFailure} (stops : Stops target port kinds talk) (grave : failure.isIdle = false)
      (leads : kinds ++ [kind] <+: Action.kindsToStop active shaping) :
      Shapes target port active shaping
        (talk ++ [.asked (.unshape target port kind) (.error failure)]) false active
  | cleared (ends : shaping = none) (stops : Stops target port (Action.kindsToStop active none) talk) :
      Shapes target port active shaping talk true none
  | unstarted {failure : ShapingFailure} (asks : shaping = some asked)
      (stops : Stops target port (Action.kindsToStop active shaping) talk) :
      Shapes target port active shaping
        (talk ++ [.asked (.shape target port interface asked) (.error failure)]) false none
  | started (asks : shaping = some asked)
      (stops : Stops target port (Action.kindsToStop active shaping) talk) :
      Shapes target port active shaping
        (talk ++ [.asked (.shape target port interface asked) (.ok ())]) true (some asked.kind)

namespace Action

variable {setup : Setup} {before after : Registry} {events : List Event} {id : InstanceId}

/-- Kinds of shaping are stopped in order, up to the first that cannot be. -/
theorem course_stopShaping {name target : String} {operation : Operation} {port : UInt16}
    {kinds : List ShapingKind} {result : Except Error Unit}
    (course : Course setup (stopShaping name operation target port kinds) before events result after) :
    after = before ∧ StopsOrFails target port kinds events result := by
  induction kinds generalizing events with
  | nil =>
      rcases course_pure.mp course with ⟨rfl, rfl, rfl⟩
      exact ⟨rfl, Or.inl ⟨rfl, .none⟩⟩
  | cons kind rest inductionHypothesis =>
      rcases course_ask_bind.mp course with ⟨reply, later, rfl, ended⟩
      cases reply with
      | ok granted => exact (inductionHypothesis ended).imp_right (.next nofun)
      | error failure =>
          dsimp only at ended
          cases idle : failure.isIdle with
          | true =>
              rw [if_pos idle] at ended
              exact (inductionHypothesis ended).imp_right
                (.next fun other same => Except.error.inj same ▸ idle)
          | false =>
              rw [if_neg (by rw [idle]; exact nofun)] at ended
              rcases (course_of_done rfl).mp ended with ⟨rfl, rfl, rfl⟩
              exact ⟨rfl, Or.inr ⟨⟨_, rfl⟩, [], [], kind, failure, .none, idle, rfl,
                List.prefix_append [kind] rest⟩⟩

/-- A change of shaping is refused before anything is said, or gets as far as `Shapes` has it. -/
theorem course_shape {operation : Operation} {shaping : Option Shaping} {result : Except Error Unit}
    (course : Course setup (shape id operation shaping) before events result after) :
    (∃ error, result = .error error) ∧ events = [] ∧ after = before ∨
      ∃ workload target mode, before.get? id = some workload ∧
        workload.fault.sidecar = some target ∧
        Shapes target workload.fault.port workload.fault.activeMode shaping events result.isOk mode ∧
        after = before.setMode id mode := by
  have refusal {error : Error} (refused : Course setup (fail error) before events result after) :
      (∃ error, result = .error error) ∧ events = [] ∧ after = before := by
    rcases (course_of_done rfl).mp refused with ⟨rfl, rfl, rfl⟩
    exact ⟨⟨error, rfl⟩, rfl, rfl⟩
  rcases course_guarded_bind.mp course with ⟨error, _, rfl, rfl, rfl⟩ | ⟨workload, ⟨found, _⟩, rest⟩
  · exact Or.inl ⟨⟨error, rfl⟩, rfl, rfl⟩
  dsimp only at rest
  split at rest
  · exact Or.inl (refusal rest)
  split at rest
  · exact Or.inl (refusal rest)
  rename_i target hosted
  change Course setup (if (!setup.canShape) = true then _ else _) before events result after at rest
  split at rest
  · exact Or.inl (refusal rest)
  refine Or.inr ⟨workload, target, ?_⟩
  rcases course_bind.mp rest with
    ⟨error, rfl, stopped⟩ | ⟨_, middle, talk, later, rfl, stopped, noted⟩
  · rcases course_stopShaping stopped with
      ⟨rfl, ⟨impossible, _⟩ | ⟨_, kinds, talk, kind, failure, stops, grave, rfl, leads⟩⟩
    · cases impossible
    · exact ⟨_, found, hosted, .aborted stops grave leads, (Registry.setMode_eq_self found).symm⟩
  rcases course_stopShaping stopped with ⟨rfl, ⟨_, stops⟩ | ⟨⟨_, impossible⟩, _⟩⟩
  · have starting := course_update_bind.mp noted
    cases shaping with
    | none =>
        rcases course_pure.mp starting with ⟨rfl, rfl, rfl⟩
        rw [List.append_nil]
        exact ⟨none, found, hosted, .cleared rfl stops, rfl⟩
    | some asked =>
        rcases course_ask_bind.mp starting with ⟨reply, last, rfl, ended⟩
        cases reply with
        | error failure =>
            rcases (course_of_done rfl).mp ended with ⟨rfl, rfl, rfl⟩
            exact ⟨none, found, hosted, .unstarted rfl stops, rfl⟩
        | ok granted =>
            rcases course_update.mp ended with ⟨rfl, rfl, rfl⟩
            exact ⟨some asked.kind, found, hosted, .started rfl stops, Registry.setMode_setMode⟩
  · cases impossible

/-- A loss of packets is refused before anything is said, or it is a change of shaping. -/
theorem course_setPacketLoss {percent : UInt8} {result : Except Error Unit}
    (course : Course setup (setPacketLoss id percent) before events result after) :
    (∃ error, result = .error error) ∧ events = [] ∧ after = before ∨
      Course setup (shape id .setPacketLoss (some (.packetLoss percent))) before events result after := by
  rw [setPacketLoss] at course
  split at course
  · refine Or.inl ?_
    rcases course_bind.mp course with
      ⟨error, rfl, missing⟩ | ⟨workload, middle, earlier, later, rfl, found, refused⟩
    · rcases (course_of_done (find_eq id)).mp missing with ⟨rfl, _, rfl⟩
      exact ⟨⟨error, rfl⟩, rfl, rfl⟩
    · rcases (course_of_done (find_eq id)).mp found with ⟨rfl, _, rfl⟩
      rcases (course_of_done rfl).mp refused with ⟨rfl, rfl, rfl⟩
      exact ⟨⟨_, rfl⟩, rfl, rfl⟩
  · exact Or.inr course

end Action
end Testbed
