import Testbed.Source

namespace Testbed
namespace Rehearsal

/-!
The files at hand in a rehearsal: a tree below a root, found by path. Symbolic links on the way are
followed, a bounded number of them, unless they lead out of the tree.
-/

/-- What is said of a path that leads nowhere. -/
def missingPath : String := "No such file or directory (os error 2)"

/-- What is said of a path that goes on below something that is no folder. -/
def noFolder : String := "Not a directory (os error 20)"

/-- What is said of reading a folder as a file. -/
def isFolder : String := "Is a directory (os error 21)"

/-- What is said of a path with too many symbolic links. -/
def tooManyLinks : String := "Too many levels of symbolic links (os error 40)"

/-- What is said of a name, or of a whole path, that is too long. -/
def tooLong : String := "File name too long (os error 36)"

/-- What is said of a path with a character of no code. -/
def zeroInPath : String := "file name contained an unexpected NUL byte"

/-- How many symbolic links a path may meet. -/
def maxLinks : Nat := 40

/-- How many bytes a name may have. -/
def maxName : Nat := 255

/-- How many bytes a path may have. -/
def maxPath : Nat := 4095

/-- The names on a path. -/
def namesOf (path : String) : List String :=
  path.splitOn "/"

/-- A folder's entries with one of them changed, or added. -/
def putEntry (name : String) (change : Option SourceEntry → SourceEntry) :
    List (String × SourceEntry) → List (String × SourceEntry)
  | [] => [(name, change none)]
  | (other, entry) :: rest =>
    if other = name then (name, change (some entry)) :: rest
    else (other, entry) :: putEntry name change rest

/-- The entries of a folder, and none of anything else. -/
def entriesOf : Option SourceEntry → List (String × SourceEntry)
  | some (.folder entries) => entries
  | _ => []

/-- Puts an entry at the end of a path, making the folders on the way. -/
def place (added : SourceEntry) : List String → Option SourceEntry → SourceEntry
  | [], _ => added
  | name :: rest, here =>
    if name.isEmpty then place added rest here
    else .folder (putEntry name (place added rest) (entriesOf here))

/-- What is found below an entry, along names that are no links. -/
def descend (entry : SourceEntry) : List String → Option SourceEntry
  | [] => some entry
  | name :: rest =>
    match entry with
    | .folder entries => (entries.lookup name).bind fun next => descend next rest
    | _ => none

/-- What is found along a path that starts at a place in the tree. -/
def resolve (root : SourceEntry) (links : Nat) (here : List String) :
    List String → Except String SourceEntry
  | [] =>
    match descend root here with
    | some entry => .ok entry
    | none => .error missingPath
  | name :: rest =>
    match descend root here with
    | some (.folder entries) =>
      if name = "" ∨ name = "." then resolve root links here rest
      else if name = ".." then resolve root links here.dropLast rest
      else if maxName < name.utf8ByteSize then .error tooLong
      else
        match entries.lookup name with
        | none => .error missingPath
        | some (.link target) =>
          match links with
          | 0 => .error tooManyLinks
          | links + 1 =>
            if target.toList.head? = some '/' then .error missingPath
            else resolve root links here (namesOf target ++ rest)
        | some _ => resolve root links (here ++ [name]) rest
    | some _ => .error noFolder
    | none => .error missingPath
termination_by names => (links, names.length)

/-- What is found at a path. -/
def locate (root : SourceEntry) (path : String) : Except String SourceEntry :=
  if path.contains (Char.ofNat 0) then .error zeroInPath
  else if maxPath < path.utf8ByteSize then .error tooLong
  else resolve root maxLinks [] (namesOf path)

/-- The contents of the file at a path. -/
def contentsAt (root : SourceEntry) (path : String) : Except String (List UInt8) := do
  match ← locate root path with
  | .file contents => .ok contents
  | .unreadable cause => .error cause
  | .folder _ | .closed _ => .error isFolder
  | .link _ | .other => .error missingPath

/-- The entries of the folder at a path. -/
def entriesAt (root : SourceEntry) (path : String) : Except String (List (String × SourceEntry)) := do
  match ← locate root path with
  | .folder entries => .ok entries
  | .closed cause => .error cause
  | .file _ | .unreadable _ | .link _ | .other => .error noFolder

end Rehearsal
end Testbed
