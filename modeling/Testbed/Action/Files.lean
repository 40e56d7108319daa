import Testbed.Action.Basic
import Testbed.Instance.Files
import Testbed.Text.Basic

namespace Testbed
namespace Action

/-!
Giving files to instances. A folder is read and checked as a whole before any of its files is recorded.
-/

/-- Records a file: in the image while the instance is prepared, and beside it later. -/
def insertFile (id : InstanceId) (contents : List UInt8) (destination owner : String) :
    Action Unit := do
  let workload ← find id
  let group ← workload.checkFile destination owner
  if workload.state = .preparing then
    match workload.context with
    | none => fail (workload.violate .preparingWithoutContext)
    | some context =>
      image workload.name .addFile (.addFile context contents destination owner)
      update id fun current => current.withBakedFile contents destination group
  else update id fun current => current.withDeployedFile contents destination group

/-- Records several files. -/
def insertFiles (id : InstanceId) (owner : String) : List (String × List UInt8) → Action Unit
  | [] => return ()
  | (destination, contents) :: rest => do
    insertFile id contents destination owner
    insertFiles id owner rest

/-- Gives an instance a file with these contents. -/
def addFileBytes (id : InstanceId) (contents : List UInt8) (destination owner : String) :
    Action Unit := do
  let _ ← guarded id .addFile
  insertFile id contents destination owner

/-- The failure to read something at hand for an instance. -/
def unread (workload : Instance) (path cause : String) : Error :=
  .collaborator workload.name ("read " ++ path) cause

/-- Gives an instance a file at hand. -/
def addFile (id : InstanceId) (path destination owner : String) : Action Unit := do
  let workload ← guarded id .addFile
  match ← ask (.sourceFile path) with
  | .error cause => fail (unread workload path cause)
  | .ok contents => insertFile id contents destination owner

/-- A path below a folder. -/
def below (folder : String) (names : List String) : String :=
  folder ++ (if folder.toList.getLast? = some '/' then "" else "/") ++ "/".intercalate names

/-- Where a file of a folder goes. Slashes at the end of the folder's destination do not matter. -/
def fileDestination (destination : String) (names : List String) : String :=
  String.ofList (Text.dropTrailing (· == '/') destination.toList) ++ "/" ++ "/".intercalate names

/-- Reads and checks the files of a folder, and pairs them with their destinations. -/
def checkFolder (workload : Instance) (path destination owner : String) :
    List SourceFile → Except Error (List (String × List UInt8))
  | [] => .ok []
  | file :: rest => do
    match file.contents with
    | .error cause => .error (unread workload (below path file.path) cause)
    | .ok contents =>
      let target := fileDestination destination file.path
      let _ ← workload.checkFile target owner
      return (target, contents) :: (← checkFolder workload path destination owner rest)

/-- Gives an instance the regular files of a folder at hand. -/
def addFolder (id : InstanceId) (path destination owner : String) : Action Unit := do
  let workload ← guarded id .addFolder
  match ← ask (.sourceFolder path) with
  | .error cause => fail (unread workload path cause)
  | .ok entries =>
    match SourceEntry.closedFoldersIn entries with
    | folder :: _ => fail (unread workload (below path folder.path) folder.cause)
    | [] =>
      let files ← checkFolder workload path destination owner (SourceEntry.sortedFiles entries)
      insertFiles id owner files

/-- Sets the user of an image under preparation. -/
def setUser (id : InstanceId) (user : String) : Action Unit := do
  let workload ← guarded id .setUser
  match workload.context with
  | none => fail (workload.violate .preparingWithoutContext)
  | some context => image workload.name .setUser (.setUser context user)

end Action
end Testbed
