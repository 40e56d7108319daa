import Testbed.ContentHash
import Testbed.Settings

namespace Testbed

/-!
Where images come from and what they are called: built from a git source under a name that the source
determines, pushed under a fresh tag, or used as they are.
-/

/-- A git source of an image. -/
structure GitSource where
  repository : String
  branch : String
  /-- A commit to build instead of the head of the branch. -/
  commit : Option String := none
  /-- A token for a private repository. -/
  token : Option String := none
  deriving DecidableEq

/-- The name of the image built from a source; the same repository and revision give the same name. -/
def GitSource.imageName (source : GitSource) (registry : String) : String :=
  let hash := ContentHash.ofTexts [source.repository, source.commit.getD source.branch]
  registry ++ "/" ++ String.ofList (hash.toList.take 16) ++ ":latest"

/-- The name under which a changed image is pushed, given a unique tag. -/
def Settings.pushedImage (settings : Settings) (unique : String) : String :=
  settings.imageRegistry ++ "/" ++ unique ++ ":" ++ settings.imageTtl

/-! Prebuilt images are used as they are: everything that would change one or look into
it is refused. -/
namespace Prebuilt

/-- The refusal to do something to a prebuilt image. -/
def refusal (action image : String) : String :=
  action ++ " is not supported for prebuilt image " ++ image

def pushRefusal (image : String) : String :=
  refusal "pushing" image

def addFileRefusal (image path : String) : String :=
  refusal ("baking " ++ path) image

def setUserRefusal (image : String) : String :=
  refusal "setting the user" image

def executeRefusal (image : String) : String :=
  refusal "executing commands" image

def readFileRefusal (image path : String) : String :=
  refusal ("reading " ++ path) image

/-- The refusal to build from a source. -/
def buildRefusal (source : GitSource) : String :=
  "cannot build " ++ source.repository ++ " without an image builder"

/-- The hash of a prebuilt image. -/
def contentHash (image : String) : String :=
  ContentHash.ofTexts [image]

end Prebuilt
end Testbed
