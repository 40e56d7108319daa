import Testbed.Proofs.Turn.Newcomer

namespace Testbed
namespace Action

/-!
# How attendants are injected, step by step

An injection creates an instance, makes something of it and attaches it to the parent, which notes it.
If one of these actions fails, the instance stays behind alone, or has not even joined.  `Injects` says
how an injection comes out, and `Continues` how it is completed from any point after somebody has joined.
-/

open Passes

/-- What comes of the injection of an attendant into an instance: nobody joins, or whoever has joined
stays behind alone, or the attendant is enlisted. -/
inductive Injects (setup : Setup) (role : Attendant) (id : InstanceId) (current : Instance)
    (before : Registry) : List Event → Bool → Registry → Prop where
  | refused (plain : ∀ event ∈ events, event.IsPlain) :
      Injects setup role id current before events false before
  | orphaned (plain : ∀ event ∈ events, event.IsPlain) (fresh : made.IsFresh)
      (joined : before.add made = .ok grown) :
      Injects setup role id current before events false grown
  | enlisted {clusterName image : String} (plain : ∀ event ∈ events, event.IsPlain)
      (built : Event.Genuine events → image = role.imageFor setup.settings current.wishes)
      (joined : before.add (role.made current before.nextId clusterName image context) = .ok grown) :
      Injects setup role id current before events true (grown.enlist role id before.nextId clusterName)

variable {setup : Setup} {call : Call} {before : Registry} {id : InstanceId} {made current : Instance}
  {role : Attendant}

section Continues

variable {earlier : List Event} {between : List Event → Instance → Prop}

/-- Every course of an action, in a registry that an instance has joined after some events, completes
an injection. -/
def Continues (setup : Setup) (role : Attendant) (id : InstanceId) (current : Instance)
    (before : Registry) (earlier : List Event) (made : Instance) (action : Action Unit) : Prop :=
  ∀ grown events result after, before.add made = .ok grown →
    Course setup action grown events result after →
    Injects setup role id current before (earlier ++ events) result.isOk after

theorem Continues.bind {action : Action α} {next : α → Action Unit}
    (plain : ∀ event ∈ earlier, event.IsPlain) (fresh : made.IsFresh)
    (first : Forms setup before made action between)
    (rest : ∀ {formed events value}, between events formed → formed.IsFresh →
      (∀ event ∈ earlier ++ events, event.IsPlain) →
      Continues setup role id current before (earlier ++ events) formed (next value)) :
    Continues setup role id current before earlier made (action >>= next) := by
  intro grown events result after joined course
  rcases course_bind.mp course with
    ⟨error, rfl, stopped⟩ | ⟨value, middle, talk, later, rfl, started, ended⟩
  · rcases first _ _ _ _ joined stopped with ⟨onward, formed, stays, same, _⟩
    exact .orphaned (List.forall_mem_append.mpr ⟨plain, onward⟩) (fresh.of_bonds_eq same) stays
  · rcases first _ _ _ _ joined started with ⟨onward, formed, stays, same, holds⟩
    rw [← List.append_assoc]
    exact rest (holds value rfl) (fresh.of_bonds_eq same) (List.forall_mem_append.mpr ⟨plain, onward⟩)
      _ _ _ _ stays ended

theorem Continues.find_bind {next : Instance → Action Unit}
    (rest : Continues setup role id current before earlier made (next made)) :
    Continues setup role id current before earlier made (find before.nextId >>= next) := by
  intro grown events result after joined course
  have ended : find before.nextId setup grown = .done (.ok made, grown) := by
    rw [find_eq, Registry.find_eq_ok_iff.mpr (found_last joined)]
  rw [Course, bind_of_done ended] at course
  exact rest _ _ _ _ joined course

/-- A registration asks for a cluster name.  It is refused, because none is given or the one that is given
is taken, or an instance joins as the last one. -/
theorem course_register_bind {name : String} (make : InstanceId → String → Instance)
    {next : InstanceId → Action β} {events : List Event} {result : Except Error β} {after : Registry}
    (course : Course setup
      ((do
        let clusterName ← ofExcept (← ask (.clusterName name))
        let registry ← registry
        setRegistry (← registry.add (make registry.nextId clusterName))
        return registry.nextId) >>= next) before events result after) :
    (∃ error reply, result = .error error ∧ events = [.asked (.clusterName name) reply] ∧
      after = before ∧ ∀ clusterName, reply = .ok clusterName →
        before.hasClusterName (make before.nextId clusterName).clusterName = true) ∨
    ∃ clusterName grown later, events = .asked (.clusterName name) (.ok clusterName) :: later ∧
      before.add (make before.nextId clusterName) = .ok grown ∧
      Course setup (next before.nextId) grown later result after := by
  rw [bind_assoc] at course
  rcases course_ask_bind.mp course with ⟨reply, later, rfl, named⟩
  rw [bind_assoc] at named
  rcases course_ofExcept_bind.mp named with ⟨error, rfl, rfl, rfl, rfl⟩ | ⟨clusterName, rfl, added⟩
  · exact Or.inl ⟨error, _, rfl, rfl, rfl, fun _ given => nomatch given⟩
  rw [bind_assoc] at added
  have adding := course_registry_bind.mp added
  rw [bind_assoc] at adding
  rcases course_ofExcept_bind.mp adding with ⟨error, refused, rfl, rfl, rfl⟩ | ⟨grown, joined, stored⟩
  · refine Or.inl ⟨error, _, rfl, rfl, rfl, fun _ given => ?_⟩
    obtain rfl := Except.ok.inj given
    apply Bool.of_not_eq_false
    intro free
    rw [Registry.add_eq_ok_iff.mpr ⟨free, rfl⟩] at refused
    cases refused
  rw [bind_assoc] at stored
  exact Or.inr ⟨clusterName, grown, later, rfl, joined, course_setRegistry_bind.mp stored⟩

/-- A copy is refused a name, or joins as the last instance. -/
theorem passes_addCopy_bind {source : Instance} {name : String} {leader : Option InstanceId}
    {next : InstanceId → Action β} {reached : β → Registry → Prop}
    (rest : ∀ {clusterName grown}, before.add
        { source.duplicate before.nextId name clusterName with parent := leader } = .ok grown →
      ∀ events result after, Course setup (next before.nextId) grown events result after →
        Steps setup call before events after ∧ ∀ value, result = .ok value → reached value after) :
    Passes setup call (addCopy source name leader >>= next) before reached := by
  intro events result after course
  rcases course_register_bind (fun id clusterName =>
      { source.duplicate id name clusterName with parent := leader }) course with
    ⟨error, reply, rfl, rfl, rfl, _⟩ | ⟨clusterName, grown, later, rfl, joined, onward⟩
  · have stopped : Steps setup call after [.asked (.clusterName name) reply] after :=
      .talk fun _ member => List.mem_singleton.mp member ▸ ⟨rfl, nofun⟩
    exact ⟨stopped, fun _ impossible => nomatch impossible⟩
  · have named : Steps setup call before [.asked (.clusterName name) (.ok clusterName)] before :=
      .talk fun _ member => List.mem_singleton.mp member ▸ ⟨rfl, nofun⟩
    exact (rest joined _ _ _ onward).imp_left named.trans

/-- An injection that creates a committed instance first goes on with it as the last one.  Its image is
the one that was asked for if the builder is genuine. -/
theorem injects_createCommitted_bind {name reference : String} {next : InstanceId → Action Unit}
    {events : List Event} {result : Except Error Unit} {after : Registry}
    (rest : ∀ {clusterName image context earlier}, (∀ event ∈ earlier, event.IsPlain) →
      (Event.Genuine earlier → image = reference) →
      Continues setup role id current before earlier
        { id := before.nextId, name, clusterName, state := .committed, image := some image,
          context := some context } (next before.nextId))
    (course : Course setup (createCommitted name reference >>= next) before events result after) :
    Injects setup role id current before events result.isOk after := by
  rw [createCommitted, bind_assoc] at course
  rcases course_register_bind (fun id clusterName => { id, name, clusterName }) course with
    ⟨error, reply, rfl, rfl, rfl, _⟩ | ⟨clusterName, grown, later, rfl, joined, onward⟩
  · exact .refused fun _ member => List.mem_singleton.mp member ▸ ⟨rfl, nofun⟩
  have plain : ∀ event ∈ [Event.asked (.clusterName name) (.ok clusterName)], event.IsPlain :=
    fun _ member => List.mem_singleton.mp member ▸ ⟨rfl, nofun⟩
  have making : Continues setup role id current before [.asked (.clusterName name) (.ok clusterName)]
      { id := before.nextId, name, clusterName }
      ((do
        setImage before.nextId reference
        commit before.nextId
        return before.nextId) >>= next) := by
    rw [bind_assoc]
    refine .bind plain isFresh_blank (forms_setImage rfl) fun opened fresh plain => ?_
    rcases opened with ⟨context, rfl, rfl⟩
    rw [bind_assoc]
    refine .bind plain fresh (forms_commit rfl) fun committed fresh plain => ?_
    rcases committed with ⟨changed, image, talk, rfl, known, rfl⟩
    refine rest plain fun genuine => ?_
    rcases genuine [_] talk reference context changed rfl with ⟨rfl, same⟩
    exact same image [] (known rfl)
  exact making _ _ _ _ joined onward

/-- An attachment is refused, or is made at once. -/
theorem course_addSidecar {registry after : Registry} {sidecar : InstanceId} {events : List Event}
    {result : Except Error Unit}
    (course : Course setup (addSidecar id sidecar) registry events result after) :
    events = [] ∧ ((∃ error, result = .error error) ∧ after = registry ∨
      result = .ok () ∧ after = registry.attach id sidecar ∧
        ∃ parent, registry.get? id = some parent) := by
  rcases course_guarded_bind.mp course with ⟨error, _, rfl, rfl, rfl⟩ | ⟨parent, ⟨found, _⟩, rest⟩
  · exact ⟨rfl, Or.inl ⟨⟨error, rfl⟩, rfl⟩⟩
  have refusal {error : Error} (refused : Course setup (fail error) registry events result after) :
      events = [] ∧ (∃ error, result = .error error) ∧ after = registry := by
    rcases (course_of_done rfl).mp refused with ⟨rfl, rfl, rfl⟩
    exact ⟨rfl, ⟨error, rfl⟩, rfl⟩
  have attaching := course_registry_bind.mp rest
  cases joining : registry.get? sidecar with
  | none =>
      rw [joining] at attaching
      exact (refusal attaching).imp_right Or.inl
  | some candidate =>
      rw [joining] at attaching
      dsimp only at attaching
      split at attaching
      · exact (refusal attaching).imp_right Or.inl
      split at attaching
      · exact (refusal attaching).imp_right Or.inl
      rcases course_update.mp (course_update_bind.mp attaching) with ⟨rfl, rfl, rfl⟩
      exact ⟨rfl, Or.inr ⟨rfl, rfl, parent, found⟩⟩

/-- What is to be an attendant is attached to its parent and noted. -/
theorem continues_enlist {clusterName image : String} {context : ContextId}
    (plain : ∀ event ∈ earlier, event.IsPlain)
    (built : Event.Genuine earlier → image = role.imageFor setup.settings current.wishes) :
    Continues setup role id current before earlier
      (role.made current before.nextId clusterName image context)
      (addSidecar id before.nextId >>= fun _ =>
        update id fun current => role.note before.nextId clusterName current) := by
  intro grown events result after joined course
  have fresh : (role.made current before.nextId clusterName image context).IsFresh :=
    isFresh_blank.of_bonds_eq (Attendant.bonds_fit _)
  rcases course_bind.mp course with
    ⟨error, rfl, stopped⟩ | ⟨_, middle, talk, later, rfl, attached, noted⟩
  · rcases course_addSidecar stopped with ⟨rfl, ⟨_, rfl⟩ | ⟨impossible, _⟩⟩
    · rw [List.append_nil]
      exact .orphaned plain fresh joined
    · cases impossible
  · rcases course_addSidecar attached with ⟨rfl, ⟨⟨_, impossible⟩, _⟩ | ⟨_, rfl, _⟩⟩
    · cases impossible
    rcases course_update.mp noted with ⟨rfl, rfl, rfl⟩
    rw [List.append_nil, List.append_nil]
    exact .enlisted plain built joined

end Continues

variable {parent : Instance}

/-- What an injection in one of the roles does. -/
def inject : Attendant → Instance → Action Unit
  | .collector => injectCollector
  | .shaper => injectShapingSidecar

/-- An injection comes out as `Injects` has it, also if the parent has since got another attendant. -/
theorem injects_of_course {events : List Event} {result : Except Error Unit} {after : Registry}
    (name : current.name = parent.name) (wishes : current.wishes = parent.wishes)
    (course : Course setup (inject role parent) before events result after) :
    Injects setup role parent.id current before events result.isOk after := by
  have ending {clusterName image : String} {context : ContextId} {earlier : List Event}
      (plain : ∀ event ∈ earlier, event.IsPlain)
      (genuine : Event.Genuine earlier → image = role.imageFor setup.settings parent.wishes) :
      Continues setup role parent.id current before earlier
        (role.made parent before.nextId clusterName image context)
        (addSidecar parent.id before.nextId >>= fun _ =>
          update parent.id fun current => role.note before.nextId clusterName current) := by
    have made : role.made parent before.nextId clusterName image context =
        role.made current before.nextId clusterName image context := by
      rw [Attendant.made, Attendant.made, name, wishes]
    rw [made]
    exact continues_enlist plain (wishes ▸ genuine)
  cases role with
  | collector =>
      refine injects_createCommitted_bind (fun plain genuine => ?_) (course_settings_bind.mp course)
      refine .bind plain (isFresh_blank.of_bonds_eq rfl) (forms_addFileBytes rfl) fun filed fresh plain => ?_
      rcases filed with ⟨rfl, group, checked, rfl⟩
      obtain rfl : 0 = group := Except.ok.inj checked
      refine .bind plain fresh (forms_editAll _) fun edited fresh plain => ?_
      rcases edited with ⟨rfl, rfl⟩
      exact ending plain fun whole => genuine whole.of_append.1.of_append.1
  | shaper =>
      refine injects_createCommitted_bind (fun plain genuine => ?_) (course_settings_bind.mp course)
      refine .bind plain (isFresh_blank.of_bonds_eq rfl) (forms_editAll _) fun edited fresh plain => ?_
      rcases edited with ⟨rfl, rfl⟩
      exact .find_bind (ending plain fun whole => genuine whole.of_append.1)

/-- Whether a parent has been looked after in a role: its attendant is noted if it is wanted, and
neither the other notes nor what attendants are made from are touched. -/
def IsEquipped (role : Attendant) (current : Instance) (id : InstanceId) (after : Registry) : Prop :=
  ∃ left, after.get? id = some left ∧ left.name = current.name ∧ left.wishes = current.wishes ∧
    (role.isWanted current.wishes = true → role.isNoted left = true) ∧
    ∀ other value, other ≠ role → other.isNoted current = value → other.isNoted left = value

/-- An injection is a series of steps. -/
theorem Injects.steps {events : List Event} {succeeded : Bool} {after : Registry}
    (injects : Injects setup role id current before events succeeded after)
    (starts : call.startOf? = some id) (found : before.get? id = some current)
    (wanted : role.isWanted current.wishes = true) (unnoted : role.isNoted current = false) :
    Steps setup call before events after := by
  cases injects with
  | refused plain => exact .talk plain
  | orphaned plain fresh joined =>
      have steps : Steps setup call before (events ++ []) after :=
        (Steps.talk plain).trans (.single (.join fresh joined))
      rw [List.append_nil] at steps
      exact steps
  | enlisted plain built joined =>
      exact .single (.enlist role id starts found wanted unnoted plain built joined)

/-- An injection that succeeds equips the parent. -/
theorem Injects.isEquipped {events : List Event} {after : Registry}
    (injects : Injects setup role id current before events true after)
    (found : before.get? id = some current) : IsEquipped role current id after := by
  cases injects with
  | enlisted plain built joined =>
      refine ⟨_, Registry.get?_enlist_self (Registry.found_add joined found)
        (Registry.ne_nextId found), ?_⟩
      rw [Attendant.note_keeps.1, Attendant.note_keeps.2.1]
      refine ⟨rfl, rfl, fun _ => Attendant.isNoted_note_self, fun other value apart noted => ?_⟩
      rw [Attendant.isNoted_note apart]
      exact Attendant.isNoted_congr noted rfl rfl

/-- An injection that is made only if its attendant is wanted and not noted is not made and not needed,
or comes out as any other. -/
theorem idle_or_injects {wants : Bool} {events : List Event} {result : Except Error Unit}
    {after : Registry} (name : current.name = parent.name) (wishes : current.wishes = parent.wishes)
    (needed : wants = (role.isWanted current.wishes && !role.isNoted current))
    (course : Course setup (if wants = true then inject role parent else pure ()) before events result
      after) :
    (role.isWanted current.wishes = true → role.isNoted current = true) ∧ events = [] ∧ after = before ∨
    (role.isWanted current.wishes = true ∧ role.isNoted current = false) ∧
      Injects setup role parent.id current before events result.isOk after := by
  subst needed
  split at course
  · rename_i wanted
    rw [Bool.and_eq_true, Bool.not_eq_true'] at wanted
    exact Or.inr ⟨wanted, injects_of_course name wishes course⟩
  · rename_i idle
    rcases course_pure.mp course with ⟨rfl, _, rfl⟩
    refine Or.inl ⟨fun wanted => ?_, rfl, rfl⟩
    rw [wanted, Bool.true_and, Bool.not_eq_true', Bool.not_eq_false] at idle
    exact idle

/-- An injection that is made only if its attendant is wanted and not noted equips the parent anyway. -/
theorem passes_injectIf (role : Attendant) {wants : Bool} (starts : call.startOf? = some parent.id)
    (found : before.get? parent.id = some current) (name : current.name = parent.name)
    (wishes : current.wishes = parent.wishes)
    (needed : wants = (role.isWanted current.wishes && !role.isNoted current)) :
    Passes setup call (if wants = true then inject role parent else pure ()) before fun _ after =>
      IsEquipped role current parent.id after := by
  intro events result after course
  rcases idle_or_injects name wishes needed course with
    ⟨noted, rfl, rfl⟩ | ⟨⟨wanted, unnoted⟩, injects⟩
  · exact ⟨.none, fun _ _ => ⟨current, found, rfl, rfl, noted, fun _ _ _ known => known⟩⟩
  · refine ⟨injects.steps starts found wanted unnoted, ?_⟩
    rintro value rfl
    exact injects.isEquipped found

/-- The injections of a start come one after the other. -/
theorem injectSidecars_eq :
    injectSidecars parent =
      ((if wantsCollector parent = true then inject .collector parent else pure ()) >>= fun _ =>
        if wantsShapingSidecar parent = true then inject .shaper parent else pure ()) := by
  rw [injectSidecars]
  dsimp only
  split
  · rfl
  · rfl

theorem wantsCollector_eq :
    wantsCollector parent =
      (Attendant.collector.isWanted parent.wishes && !Attendant.collector.isNoted parent) := by
  rw [wantsCollector, Attendant.isNoted, Option.not_isSome]
  rfl

theorem wantsShapingSidecar_eq :
    wantsShapingSidecar parent =
      (Attendant.shaper.isWanted parent.wishes && !Attendant.shaper.isNoted parent) := by
  rw [wantsShapingSidecar, Attendant.isNoted, Option.not_isSome]
  rfl

/-- After the injections of a start, every attendant that is wanted is noted. -/
theorem passes_injectSidecars (starts : call.startOf? = some parent.id)
    (found : before.get? parent.id = some parent) :
    Passes setup call (injectSidecars parent) before fun _ after =>
      ∃ left, after.get? parent.id = some left ∧
        ∀ role : Attendant, role.isWanted parent.wishes = true → role.isNoted left = true := by
  rw [injectSidecars_eq]
  refine (passes_injectIf .collector starts found rfl rfl wantsCollector_eq).bind fun _ equipped => ?_
  rcases equipped with ⟨current, there, name, wishes, collected, others⟩
  have needed : wantsShapingSidecar parent =
      (Attendant.shaper.isWanted current.wishes && !Attendant.shaper.isNoted current) := by
    rw [wantsShapingSidecar_eq, wishes, others .shaper _ nofun rfl]
  refine (passes_injectIf .shaper starts there name wishes needed).mono fun _ after equipped => ?_
  rcases equipped with ⟨left, leads, _, _, shaped, kept⟩
  refine ⟨left, leads, fun role wanted => ?_⟩
  cases role with
  | collector => exact kept .collector true nofun (collected wanted)
  | shaper => exact shaped (wishes ▸ wanted)

end Action
end Testbed
