import Mathlib.Data.List.Nodup
import Mathlib.Data.String.Basic
import Testbed.Source

namespace Testbed

/-!
# Trees of files

What is found at a place is a tree.  A regular file is held by it under the names on the way, and links and other
things hold nothing.  The files of a folder are taken in the order of these names, one by one from the top, and
if no folder has a name twice, every file is taken once.
-/

namespace SourceEntry

/-- Whether a regular file is found below an entry, under some names, with its contents or why it cannot be
read. -/
inductive Holds : SourceEntry → List String → Except String (List UInt8) → Prop where
  | file {contents : List UInt8} : Holds (.file contents) [] (.ok contents)
  | unreadable {cause : String} : Holds (.unreadable cause) [] (.error cause)
  | within {entries : List (String × SourceEntry)} {name : String} {entry : SourceEntry} {path : List String}
      {contents : Except String (List UInt8)} (listed : (name, entry) ∈ entries) (inner : Holds entry path contents) :
      Holds (.folder entries) (name :: path) contents

/-- Whether a folder that cannot be listed is found below an entry. -/
inductive HoldsClosed : SourceEntry → List String → String → Prop where
  | closed {cause : String} : HoldsClosed (.closed cause) [] cause
  | within {entries : List (String × SourceEntry)} {name : String} {entry : SourceEntry} {path : List String}
      {cause : String} (listed : (name, entry) ∈ entries) (inner : HoldsClosed entry path cause) :
      HoldsClosed (.folder entries) (name :: path) cause

/-- Whether folders are as folders are: no name is there twice, and none has a slash in it. -/
inductive IsTree : SourceEntry → Prop where
  | file {contents : List UInt8} : IsTree (.file contents)
  | unreadable {cause : String} : IsTree (.unreadable cause)
  | folder {entries : List (String × SourceEntry)} (distinct : (entries.map Prod.fst).Nodup)
      (named : ∀ name ∈ entries.map Prod.fst, '/' ∉ name.toList)
      (inner : ∀ entry ∈ entries.map Prod.snd, IsTree entry) : IsTree (.folder entries)
  | closed {cause : String} : IsTree (.closed cause)
  | link {target : String} : IsTree (.link target)
  | other : IsTree .other

variable {entry : SourceEntry} {entries : List (String × SourceEntry)} {path : List String}
  {contents : Except String (List UInt8)}

/-! ## Files -/

theorem holds_folder_iff :
    (folder entries).Holds path contents ↔
      ∃ name inner entry, (name, entry) ∈ entries ∧ path = name :: inner ∧ entry.Holds inner contents := by
  constructor
  · rintro (_ | _ | ⟨listed, inner⟩)
    exact ⟨_, _, _, listed, rfl, inner⟩
  · rintro ⟨name, inner, entry, listed, rfl, holds⟩
    exact .within listed holds

mutual

/-- The files at a place are those that it holds. -/
theorem mem_files_iff (entry : SourceEntry) (path : List String) (contents : Except String (List UInt8)) :
    ⟨path, contents⟩ ∈ entry.files ↔ entry.Holds path contents := by
  cases entry with
  | file found =>
      rw [files, List.mem_singleton, SourceFile.mk.injEq]
      constructor
      · rintro ⟨rfl, rfl⟩
        exact .file
      · rintro ⟨⟩
        exact ⟨rfl, rfl⟩
  | unreadable cause =>
      rw [files, List.mem_singleton, SourceFile.mk.injEq]
      constructor
      · rintro ⟨rfl, rfl⟩
        exact .unreadable
      · rintro ⟨⟩
        exact ⟨rfl, rfl⟩
  | folder entries =>
      rw [files, mem_filesIn_iff entries path contents, holds_folder_iff]
  | closed cause | link target | other =>
      rw [files]
      constructor
      · intro listed
        cases listed
      · intro holds
        cases holds

/-- The files in a folder are those that one of its entries holds. -/
theorem mem_filesIn_iff (entries : List (String × SourceEntry)) (path : List String)
    (contents : Except String (List UInt8)) :
    ⟨path, contents⟩ ∈ filesIn entries ↔
      ∃ name inner entry, (name, entry) ∈ entries ∧ path = name :: inner ∧ entry.Holds inner contents := by
  match entries with
  | [] =>
      rw [filesIn]
      simp only [List.not_mem_nil, false_and, exists_false]
  | (first, head) :: rest =>
      rw [filesIn, List.mem_append, List.mem_map, mem_filesIn_iff rest path contents]
      constructor
      · rintro (⟨⟨inner, found⟩, listed, same⟩ | ⟨name, inner, entry, listed, rest⟩)
        · rw [SourceFile.within, SourceFile.mk.injEq] at same
          rcases same with ⟨rfl, rfl⟩
          exact ⟨first, inner, head, List.mem_cons_self, rfl, (mem_files_iff head inner found).mp listed⟩
        · exact ⟨name, inner, entry, List.mem_cons_of_mem _ listed, rest⟩
      · rintro ⟨name, inner, entry, listed, rfl, holds⟩
        rcases List.mem_cons.mp listed with same | later
        · rw [Prod.mk.injEq] at same
          rcases same with ⟨rfl, rfl⟩
          exact Or.inl ⟨⟨inner, contents⟩, (mem_files_iff entry inner contents).mpr holds, rfl⟩
        · exact Or.inr ⟨name, inner, entry, later, rfl, holds⟩

end

theorem holdsClosed_folder_iff {cause : String} :
    (folder entries).HoldsClosed path cause ↔
      ∃ name inner entry, (name, entry) ∈ entries ∧ path = name :: inner ∧ entry.HoldsClosed inner cause := by
  constructor
  · rintro (_ | ⟨listed, inner⟩)
    exact ⟨_, _, _, listed, rfl, inner⟩
  · rintro ⟨name, inner, entry, listed, rfl, holds⟩
    exact .within listed holds

mutual

/-- The folders that cannot be listed are those that are found. -/
theorem mem_closedFolders_iff (entry : SourceEntry) (path : List String) (cause : String) :
    ⟨path, cause⟩ ∈ entry.closedFolders ↔ entry.HoldsClosed path cause := by
  cases entry with
  | closed found =>
      rw [closedFolders, List.mem_singleton, ClosedFolder.mk.injEq]
      constructor
      · rintro ⟨rfl, rfl⟩
        exact .closed
      · rintro ⟨⟩
        exact ⟨rfl, rfl⟩
  | folder entries =>
      rw [closedFolders, mem_closedFoldersIn_iff entries path cause, holdsClosed_folder_iff]
  | file found | unreadable found | link target | other =>
      rw [closedFolders]
      constructor
      · intro listed
        cases listed
      · intro holds
        cases holds

/-- The folders in a folder that cannot be listed are those that are found in one of its entries. -/
theorem mem_closedFoldersIn_iff (entries : List (String × SourceEntry)) (path : List String) (cause : String) :
    ⟨path, cause⟩ ∈ closedFoldersIn entries ↔
      ∃ name inner entry, (name, entry) ∈ entries ∧ path = name :: inner ∧ entry.HoldsClosed inner cause := by
  match entries with
  | [] =>
      rw [closedFoldersIn]
      simp only [List.not_mem_nil, false_and, exists_false]
  | (first, head) :: rest =>
      rw [closedFoldersIn, List.mem_append, List.mem_map, mem_closedFoldersIn_iff rest path cause]
      constructor
      · rintro (⟨⟨inner, found⟩, listed, same⟩ | ⟨name, inner, entry, listed, rest⟩)
        · rw [ClosedFolder.mk.injEq] at same
          rcases same with ⟨rfl, rfl⟩
          exact ⟨first, inner, head, List.mem_cons_self, rfl, (mem_closedFolders_iff head inner found).mp listed⟩
        · exact ⟨name, inner, entry, List.mem_cons_of_mem _ listed, rest⟩
      · rintro ⟨name, inner, entry, listed, rfl, holds⟩
        rcases List.mem_cons.mp listed with same | later
        · rw [Prod.mk.injEq] at same
          rcases same with ⟨rfl, rfl⟩
          exact Or.inl ⟨⟨inner, cause⟩, (mem_closedFolders_iff entry inner cause).mpr holds, rfl⟩
        · exact Or.inr ⟨name, inner, entry, later, rfl, holds⟩

end

/-! ## Paths -/

/-- The names on the way to a file of a tree have no slashes in them. -/
theorem Holds.names (holds : entry.Holds path contents) (tree : entry.IsTree) :
    ∀ name ∈ path, '/' ∉ name.toList := by
  induction holds with
  | file | unreadable => exact List.forall_mem_nil _
  | within listed _ inductionHypothesis =>
      cases tree with
      | folder _ named inner =>
          refine List.forall_mem_cons.mpr ⟨named _ (List.mem_map.mpr ⟨_, listed, rfl⟩), ?_⟩
          exact inductionHypothesis (inner _ (List.mem_map.mpr ⟨_, listed, rfl⟩))

mutual

/-- No two files of a tree are found on the same way. -/
theorem nodup_files (entry : SourceEntry) (tree : entry.IsTree) : (entry.files.map SourceFile.path).Nodup := by
  cases entry with
  | file found | unreadable found =>
      rw [files]
      exact List.nodup_singleton _
  | folder entries =>
      rw [files]
      cases tree with
      | folder distinct _ inner => exact nodup_filesIn entries distinct inner
  | closed cause | link target | other =>
      rw [files]
      exact List.nodup_nil

/-- No two files of a folder are found on the same way. -/
theorem nodup_filesIn (entries : List (String × SourceEntry)) (distinct : (entries.map Prod.fst).Nodup)
    (inner : ∀ entry ∈ entries.map Prod.snd, entry.IsTree) : ((filesIn entries).map SourceFile.path).Nodup := by
  match entries with
  | [] =>
      rw [filesIn]
      exact List.nodup_nil
  | (first, head) :: rest =>
      rcases List.nodup_cons.mp distinct with ⟨fresh, others⟩
      rcases List.forall_mem_cons.mp inner with ⟨tree, trees⟩
      have within : (head.files.map (SourceFile.within first)).map SourceFile.path =
          (head.files.map SourceFile.path).map (first :: ·) := by
        rw [List.map_map, List.map_map]
        rfl
      rw [filesIn, List.map_append, within]
      refine List.nodup_append.mpr ⟨?_, nodup_filesIn rest others trees, ?_⟩
      · exact (nodup_files head tree).map List.cons_injective
      · -- Files of other entries are found under other names.
        rintro path here other there rfl
        rcases List.mem_map.mp here with ⟨inner, _, rfl⟩
        rcases List.mem_map.mp there with ⟨⟨path, contents⟩, listed, same⟩
        rcases (mem_filesIn_iff rest path contents).mp listed with ⟨name, inner, entry, among, rfl, _⟩
        obtain rfl := (List.cons.inj same).1
        exact fresh (List.mem_map.mpr ⟨_, among, rfl⟩)

end

/-! ## Order -/

/-- Whether a list has the files that a folder holds, each once, in the order of the names on the way to them. -/
structure Lists (entry : SourceEntry) (listing : List SourceFile) : Prop where
  ordered : listing.Pairwise fun first second => first.path < second.path
  complete : ∀ path contents, ⟨path, contents⟩ ∈ listing ↔ entry.Holds path contents

/-- There is one such list only. -/
theorem Lists.unique {first second : List SourceFile} (left : entry.Lists first) (right : entry.Lists second) :
    first = second := by
  have distinct {listing : List SourceFile} (lists : entry.Lists listing) : listing.Nodup :=
    lists.ordered.imp fun {one other} early => fun same : one = other => lt_irrefl _ (same ▸ early)
  refine List.Perm.eq_of_pairwise (fun _ _ _ _ early late => absurd late (lt_asymm early)) left.ordered right.ordered
    ((List.perm_ext_iff_of_nodup (distinct left) (distinct right)).mpr ?_)
  rintro ⟨path, contents⟩
  rw [left.complete, right.complete]

theorem isBefore_trans (first second third : SourceFile) (early : first.isBefore second = true)
    (late : second.isBefore third = true) : first.isBefore third = true := by
  simp only [SourceFile.isBefore, Bool.not_eq_true', decide_eq_false_iff_not, not_lt] at early late ⊢
  exact le_trans early late

theorem isBefore_total (first second : SourceFile) :
    (first.isBefore second || second.isBefore first) = true := by
  simp only [SourceFile.isBefore, Bool.or_eq_true, Bool.not_eq_true', decide_eq_false_iff_not, not_lt]
  exact le_total first.path second.path

/-- The files of a tree are taken once each, in the order of the names on the way to them. -/
theorem lists_sortedFiles (tree : (folder entries).IsTree) : (folder entries).Lists (sortedFiles entries) := by
  have arranged : (sortedFiles entries).Perm (filesIn entries) := List.mergeSort_perm _ _
  constructor
  · have sorted := List.pairwise_mergeSort isBefore_trans isBefore_total (filesIn entries)
    have distinct : (sortedFiles entries).Pairwise fun first second => first.path ≠ second.path := by
      refine List.pairwise_map.mp ((arranged.map SourceFile.path).nodup_iff.mpr ?_)
      cases tree with
      | folder distinct _ inner => exact nodup_filesIn entries distinct inner
    refine sorted.imp₂ (fun first second before apart => ?_) distinct
    simp only [SourceFile.isBefore, Bool.not_eq_true', decide_eq_false_iff_not, not_lt] at before
    exact lt_of_le_of_ne before apart
  · intro path contents
    rw [arranged.mem_iff, mem_filesIn_iff, holds_folder_iff]

end SourceEntry
end Testbed
