import Mathlib.Data.List.Forall2
import Mathlib.Data.List.Nodup
import Testbed.Proofs.Description

namespace Testbed

/-!
# Files given together

The files of a folder are checked against what an instance has got before any of them is recorded, and each is
checked again when its turn comes, when those before it are there already.  The second check agrees with the
first, because the files go to different places and have one owner.  So for an instance that deploys its files,
none is refused once all have been checked; while an image is prepared, the builder of images can still fail.
-/

/-- The group in the name of an owner. -/
def Owner.group (owner : String) : Int64 :=
  ((parse owner).map Prod.snd).getD 0

namespace Instance

variable {workload : Instance} {destination owner : String} {group : Int64} {contents : List UInt8}

/-! ## Checks -/

theorem parse_of_checkFile (checked : workload.checkFile destination owner = .ok group) :
    ∃ user, Owner.parse owner = some (user, group) := by
  unfold checkFile at checked
  split at checked
  · cases checked
  split at checked
  · cases checked
  cases parsed : Owner.parse owner with
  | none =>
      rw [parseOwner, parsed] at checked
      cases checked
  | some pair =>
      rcases pair with ⟨user, found⟩
      simp only [parseOwner, parsed, bind, Except.bind] at checked
      split at checked
      · split at checked
        · cases checked
        · exact ⟨user, by rw [Except.ok.inj checked]⟩
      · exact ⟨user, by rw [Except.ok.inj checked]⟩

/-- What a file is checked for. -/
structure Accepts (workload : Instance) (destination owner : String) : Prop where
  absolute : destination.toList.head? = some '/'
  free : destination ∉ workload.files.map InstanceFile.destination
  owned : (Owner.parse owner).isSome = true
  united : workload.state = .preparing ∨ ∀ existing, workload.fsGroup = some existing → existing = Owner.group owner

theorem checkFile_eq_ok_iff :
    workload.checkFile destination owner = .ok group ↔
      workload.Accepts destination owner ∧ group = Owner.group owner := by
  constructor
  · intro checked
    rcases fits_of_checkFile checked with ⟨absolute, free, _, united⟩
    rcases parse_of_checkFile checked with ⟨user, parsed⟩
    have known : group = Owner.group owner := by
      rw [Owner.group, parsed]
      rfl
    exact ⟨⟨absolute, free, by rw [parsed]; rfl, known ▸ united⟩, known⟩
  · rintro ⟨accepts, rfl⟩
    have fresh : ¬ (workload.files.any fun file => file.destination == destination) = true := by
      simpa using accepts.free
    rcases Option.isSome_iff_exists.mp accepts.owned with ⟨⟨user, group⟩, parsed⟩
    have known : Owner.group owner = group := by
      rw [Owner.group, parsed]
      rfl
    rw [checkFile, if_neg (not_not.mpr accepts.absolute), if_neg fresh, parseOwner, parsed, known]
    dsimp only [bind, Except.bind]
    cases shared : workload.fsGroup with
    | none => rfl
    | some existing =>
        refine if_neg fun apart => ?_
        rcases accepts.united with preparing | united
        · exact apart.1 preparing
        · exact apart.2 ((united existing shared).trans known)

/-! ## Records -/

/-- An instance with one more file, in its image while that is prepared and beside it later. -/
def withFile (workload : Instance) (owner : String) (file : String × List UInt8) : Instance :=
  if workload.state = .preparing then workload.withBakedFile file.2 file.1 (Owner.group owner)
  else workload.withDeployedFile file.2 file.1 (Owner.group owner)

/-- A file as it is recorded. -/
def recorded (workload : Instance) (owner : String) (file : String × List UInt8) : InstanceFile :=
  ⟨file.1, Owner.group owner, file.2, decide (workload.state = .preparing)⟩

theorem withFile_eq (workload : Instance) (owner : String) (file : String × List UInt8) :
    ∃ fsGroup, (fsGroup = workload.fsGroup ∨ fsGroup = some (Owner.group owner)) ∧
      workload.withFile owner file =
        { workload with files := workload.files ++ [workload.recorded owner file], fsGroup } := by
  rw [withFile, recorded]
  by_cases preparing : workload.state = .preparing
  · rw [if_pos preparing, decide_eq_true preparing]
    exact ⟨_, Or.inl rfl, rfl⟩
  · rw [if_neg preparing, decide_eq_false preparing]
    exact ⟨_, Or.inr rfl, rfl⟩

/-- A file that is accepted is still accepted when another one of the owner has been recorded. -/
theorem Accepts.withFile {file : String × List UInt8} (accepts : workload.Accepts destination owner)
    (apart : destination ≠ file.1) : (workload.withFile owner file).Accepts destination owner := by
  rcases workload.withFile_eq owner file with ⟨fsGroup, shared, same⟩
  rw [same]
  refine ⟨accepts.absolute, ?_, accepts.owned, accepts.united.imp_right fun united existing given => ?_⟩
  · rw [List.map_append, List.mem_append, not_or]
    exact ⟨accepts.free, fun last => apart (List.mem_singleton.mp last)⟩
  · rcases shared with old | new
    · exact united existing (old.symm.trans given)
    · exact Option.some.inj (given.symm.trans new)

/-- An instance with more files, recorded one after another. -/
def withFiles (workload : Instance) (owner : String) (files : List (String × List UInt8)) : Instance :=
  files.foldl (fun left file => left.withFile owner file) workload

/-- Files that are recorded stand behind those that are there, and nothing else of the instance changes but
the group of what is deployed. -/
theorem withFiles_eq (workload : Instance) (owner : String) (files : List (String × List UInt8)) :
    ∃ fsGroup, workload.withFiles owner files =
      { workload with files := workload.files ++ files.map (workload.recorded owner), fsGroup } := by
  induction files generalizing workload with
  | nil => exact ⟨workload.fsGroup, by rw [List.map_nil, List.append_nil]; rfl⟩
  | cons first rest inductionHypothesis =>
      rcases workload.withFile_eq owner first with ⟨between, _, once⟩
      rcases inductionHypothesis (workload.withFile owner first) with ⟨fsGroup, onward⟩
      refine ⟨fsGroup, ?_⟩
      rw [withFiles, List.foldl_cons]
      refine onward.trans ?_
      rw [once, List.map_cons, List.append_assoc]
      rfl

end Instance

/-! ## Actions -/

/-- Whether a registry is another one but for one instance. -/
structure Registry.Becomes (before : Registry) (id : InstanceId) (left : Instance) (after : Registry) : Prop where
  left : after.get? id = some left
  others : ∀ other, other ≠ id → after.get? other = before.get? other

theorem Registry.Becomes.trans {before middle after : Registry} {id : InstanceId} {between left : Instance}
    (first : before.Becomes id between middle) (second : middle.Becomes id left after) :
    before.Becomes id left after where
  left := second.left
  others other apart := (second.others other apart).trans (first.others other apart)

namespace Action

variable {setup : Setup} {before after : Registry} {id : InstanceId} {workload : Instance} {events : List Event}
  {owner : String}

theorem find_bind_eq {next : Instance → Action β} (found : before.get? id = some workload) :
    (find id >>= next) setup before = next workload setup before :=
  bind_of_done ((find_eq id).trans (by rw [Registry.find_eq_ok_iff.mpr found]))

theorem ofExcept_bind_eq {found : Except Error α} {value : α} {next : α → Action β} (known : found = .ok value) :
    (ofExcept found >>= next) setup before = next value setup before :=
  bind_of_done ((ofExcept_eq found).trans (by rw [known]))

theorem becomes_update (change : Instance → Instance) (found : before.get? id = some workload) :
    before.Becomes id (change workload) (before.update id change) where
  left := by rw [Registry.get?_update_self, found, Option.map_some]
  others _ apart := Registry.get?_update_of_ne apart

/-- A file that is recorded is accepted, and stands behind those that are there. -/
theorem becomes_insertFile {contents : List UInt8} {destination : String}
    (found : before.get? id = some workload)
    (course : Course setup (insertFile id contents destination owner) before events (.ok ()) after) :
    before.Becomes id (workload.withFile owner (destination, contents)) after := by
  rw [Course, insertFile, find_bind_eq found] at course
  rcases course_ofExcept_bind.mp course with ⟨_, _, _, impossible, _⟩ | ⟨group, checked, recording⟩
  · cases impossible
  obtain ⟨_, rfl⟩ := Instance.checkFile_eq_ok_iff.mp checked
  rw [Instance.withFile]
  split at recording
  · rename_i preparing
    rw [if_pos preparing]
    split at recording
    · rcases (course_of_done rfl).mp recording with ⟨_, impossible, _⟩
      cases impossible
    · rcases course_image_bind.mp recording with ⟨_, _, impossible, _⟩ | ⟨_, _, rfl, updating⟩
      · cases impossible
      · rcases course_update.mp updating with ⟨_, _, rfl⟩
        exact becomes_update (fun current => current.withBakedFile contents destination _) found
  · rename_i deployed
    rw [if_neg deployed]
    rcases course_update.mp recording with ⟨_, _, rfl⟩
    exact becomes_update (fun current => current.withDeployedFile contents destination _) found

theorem becomes_insertFiles {files : List (String × List UInt8)} (found : before.get? id = some workload)
    (course : Course setup (insertFiles id owner files) before events (.ok ()) after) :
    before.Becomes id (workload.withFiles owner files) after := by
  induction files generalizing before workload events with
  | nil =>
      rcases course_pure.mp course with ⟨_, _, rfl⟩
      exact ⟨found, fun _ _ => rfl⟩
  | cons first rest inductionHypothesis =>
      rcases first with ⟨destination, contents⟩
      rcases course_bind.mp course with ⟨_, impossible, _⟩ | ⟨_, middle, _, _, _, recorded, onward⟩
      · cases impossible
      · have becomes := becomes_insertFile found recorded
        exact becomes.trans (inductionHypothesis becomes.left onward)

/-- A file that an instance deploys is recorded if it is accepted. -/
theorem insertFile_eq {contents : List UInt8} {destination : String} (found : before.get? id = some workload)
    (deployed : workload.state ≠ .preparing) (accepts : workload.Accepts destination owner) :
    ∃ after, insertFile id contents destination owner setup before = .done (.ok (), after) ∧
      before.Becomes id (workload.withFile owner (destination, contents)) after := by
  have checked := Instance.checkFile_eq_ok_iff.mpr ⟨accepts, rfl⟩
  rw [insertFile, find_bind_eq found]
  refine ⟨_, (ofExcept_bind_eq checked).trans (by rw [if_neg deployed]; rfl), ?_⟩
  rw [Instance.withFile, if_neg deployed]
  exact becomes_update (fun current => current.withDeployedFile contents destination _) found

/-- Files that an instance deploys are recorded if each is accepted by itself and no two go to the same place. -/
theorem insertFiles_eq {files : List (String × List UInt8)} (found : before.get? id = some workload)
    (deployed : workload.state ≠ .preparing) (distinct : (files.map Prod.fst).Nodup)
    (accepts : ∀ file ∈ files, workload.Accepts file.1 owner) :
    ∃ after, insertFiles id owner files setup before = .done (.ok (), after) := by
  induction files generalizing before workload with
  | nil => exact ⟨before, rfl⟩
  | cons first rest inductionHypothesis =>
      rcases first with ⟨destination, contents⟩
      rcases List.forall_mem_cons.mp accepts with ⟨head, tail⟩
      rcases List.nodup_cons.mp distinct with ⟨fresh, others⟩
      rcases insertFile_eq found deployed head with ⟨middle, once, becomes⟩
      have stays : (workload.withFile owner (destination, contents)).state ≠ .preparing := by
        rcases workload.withFile_eq owner (destination, contents) with ⟨_, _, same⟩
        rw [same]
        exact deployed
      -- The second check agrees with the first, as the file before goes to another place.
      have still : ∀ file ∈ rest, (workload.withFile owner (destination, contents)).Accepts file.1 owner :=
        fun file listed => (tail file listed).withFile fun same =>
          fresh (List.mem_map.mpr ⟨file, listed, same⟩)
      rcases inductionHypothesis becomes.left stays others still with ⟨after, onward⟩
      exact ⟨after, (bind_of_done once).trans onward⟩

end Action
end Testbed
