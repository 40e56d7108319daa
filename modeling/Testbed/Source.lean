namespace Testbed

/-!
Files that are copied into an instance. What is found at a place is a tree, as it is at the moment of
reading; only regular files count, and they are taken in the order of the names on their paths.
-/

/-- What is found at a place among files. -/
inductive SourceEntry where
  | file (contents : List UInt8)
  /-- A file that cannot be read. -/
  | unreadable (cause : String)
  | folder (entries : List (String × SourceEntry))
  /-- A folder that cannot be listed. -/
  | closed (cause : String)
  /-- A symbolic link. It is never followed inside a folder. -/
  | link (target : String)
  /-- Anything else. -/
  | other

/-- A regular file of a folder: the names on the way to it, and its contents or why it cannot be read. -/
structure SourceFile where
  path : List String
  contents : Except String (List UInt8)

namespace SourceFile

/-- The same file, seen from the folder that contains the folder of this name. -/
def within (name : String) (file : SourceFile) : SourceFile :=
  { file with path := name :: file.path }

/-- The order of files: name by name, from the top. -/
def isBefore (first second : SourceFile) : Bool :=
  !decide (second.path < first.path)

end SourceFile

/-- A folder on the way that cannot be listed. -/
structure ClosedFolder where
  path : List String
  cause : String

namespace SourceEntry

mutual

/-- The regular files at a place. -/
def files : SourceEntry → List SourceFile
  | file contents => [⟨[], .ok contents⟩]
  | unreadable cause => [⟨[], .error cause⟩]
  | folder entries => filesIn entries
  | closed _ | link _ | other => []

/-- The regular files in a folder. -/
def filesIn : List (String × SourceEntry) → List SourceFile
  | [] => []
  | (name, entry) :: rest => entry.files.map (SourceFile.within name) ++ filesIn rest

end

mutual

/-- The folders at a place that cannot be listed. -/
def closedFolders : SourceEntry → List ClosedFolder
  | closed cause => [⟨[], cause⟩]
  | folder entries => closedFoldersIn entries
  | file _ | unreadable _ | link _ | other => []

/-- The folders in a folder that cannot be listed. -/
def closedFoldersIn : List (String × SourceEntry) → List ClosedFolder
  | [] => []
  | (name, entry) :: rest =>
    (entry.closedFolders.map fun inner => { inner with path := name :: inner.path }) ++
      closedFoldersIn rest

end

/-- The regular files of a folder in the order in which they are taken. -/
def sortedFiles (entries : List (String × SourceEntry)) : List SourceFile :=
  (filesIn entries).mergeSort SourceFile.isBefore

end SourceEntry
end Testbed
