import Testbed.BuildCache
import Testbed.Naming
import Testbed.Program
import Testbed.Rehearsal.Files
import Testbed.Rehearsal.Log

namespace Testbed

/-!
Rehearsals: running a testbed against stand-ins. A stand-in logs what it is asked, and then follows its
script: it says what the script lays down, after the delay that the script lays down, or never. When its
script is at an end it does the usual thing, which for the cluster is to remember what has been applied.
-/

namespace Rehearsal

/-- What a script lets a stand-in say. -/
inductive Line where
  /-- The usual thing. -/
  | usual
  /-- A value; what a success does is done too. -/
  | value (document : Json)
  /-- A failure; nothing is done. -/
  | failure (cause : Failure)
  /-- A failure of the shaping service. -/
  | shapingFailure (cause : ShapingFailure)

/-- One turn of a stand-in. -/
structure Cue where
  /-- After how many milliseconds the stand-in answers, if ever. -/
  delay : Option Nat := some 0
  line : Line := .usual

/-- An image under preparation. -/
structure StandInImage where
  base : String
  /-- What has been changed, in order. -/
  changes : List (List UInt8) := []
  files : List (String × List UInt8) := []

end Rehearsal

/-- The stand-ins of a rehearsal, and what they remember. -/
structure Rehearsal where
  /-- Whether images are built; otherwise they are used as they are, by no stand-in. -/
  buildsImages : Bool
  /-- The names that are given first. -/
  names : List (Except Error String) := []
  script : List (String × List Rehearsal.Cue) := []
  /-- What has been asked, the latest first. -/
  log : List Rehearsal.Entry := []
  cancellation : Option Nat := none
  applied : List (ResourceKind × String) := []
  /-- The addresses of services. A service keeps its address. -/
  addresses : List (String × String) := []
  images : List Rehearsal.StandInImage := []
  cache : BuildCache := {}
  namesGiven : Nat := 0
  tagsGiven : Nat := 0
  files : SourceEntry := .folder []

namespace Rehearsal

/-- Adds turns to the script of a stand-in. -/
def extendScript (rehearsal : Rehearsal) (name : String) (cues : List Cue) : Rehearsal :=
  let before := (rehearsal.script.lookup name).getD []
  { rehearsal with
    script := (name, before ++ cues) :: rehearsal.script.filter fun entry => entry.1 != name }

/-- Calls waits off at an instant, unless that happens earlier anyway. -/
def cancelAt (rehearsal : Rehearsal) (instant : Nat) : Rehearsal :=
  { rehearsal with cancellation := earlier rehearsal.cancellation (some instant) }

/-- Logs a request, and takes the turn that the script has for it. -/
def takeCue (rehearsal : Rehearsal) (entry : Entry) : Cue × Rehearsal :=
  let logged := { rehearsal with log := entry :: rehearsal.log }
  match rehearsal.script.lookup entry.name with
  | some (cue :: rest) =>
    (cue, { logged with
      script := (entry.name, rest) :: rehearsal.script.filter fun other => other.1 != entry.name })
  | _ => ({}, logged)

/-- The failure of a stand-in for the cluster. -/
def errorOf : Failure → Error
  | .error cause => cause
  | .words text => .internal "stand-in" text

/-- A scripted text. -/
def scriptedText (document : Json) : String :=
  document.toString?.getD ""

/-- A scripted answer to a question. -/
def scriptedFlag (document : Json) : Bool :=
  document.toBool?.getD false

/-! ## The cluster -/

/-- The address that the next service gets. -/
def nextAddress (rehearsal : Rehearsal) : String :=
  "10.96.0." ++ toString (rehearsal.addresses.length + 1)

/-- Whether a resource has been applied and not been removed since. -/
def isApplied (rehearsal : Rehearsal) (kind : ResourceKind) (name : String) : Bool :=
  rehearsal.applied.contains (kind, name)

/-- Forgets a resource. -/
def forget (rehearsal : Rehearsal) (kind : ResourceKind) (name : String) : Rehearsal :=
  { rehearsal with applied := rehearsal.applied.filter (· != (kind, name)) }

/-- Remembers a resource. -/
def remember (rehearsal : Rehearsal) (kind : ResourceKind) (name : String) : Rehearsal :=
  let known := rehearsal.forget kind name
  let addresses :=
    if kind = .service ∧ (rehearsal.addresses.lookup name).isNone then
      rehearsal.addresses ++ [(name, rehearsal.nextAddress)]
    else rehearsal.addresses
  { known with applied := (kind, name) :: known.applied, addresses }

/-- What a request to the cluster changes when it succeeds. -/
def clusterEffect (rehearsal : Rehearsal) : ClusterRequest → Rehearsal
  | .apply resource => rehearsal.remember resource.resourceKind resource.name
  | .delete kind name _ => rehearsal.forget kind name
  | _ => rehearsal

/-- What the cluster usually says. -/
def usualValue (rehearsal : Rehearsal) : (request : ClusterRequest) → request.Value
  | .apply _ | .delete _ _ _ | .tunnel _ _ _ | .createCustom _ _ _ => ()
  | .present kind name => rehearsal.isApplied kind name
  | .ready name => rehearsal.isApplied .replicaSet name
  | .declared _ => true
  | .serviceAddress name =>
    if rehearsal.isApplied .service name then rehearsal.addresses.lookup name else none
  | .firstPod name => name ++ "-pod"
  | .run _ container command => container ++ "|" ++ " ".intercalate command

/-- What a script lets the cluster say. -/
def scriptedValue (document : Json) : (request : ClusterRequest) → request.Value
  | .apply _ | .delete _ _ _ | .tunnel _ _ _ | .createCustom _ _ _ => ()
  | .present _ _ | .ready _ | .declared _ => scriptedFlag document
  | .serviceAddress _ => document.toString?
  | .firstPod _ | .run _ _ _ => scriptedText document

/-- The answer of the cluster. -/
def answerCluster (rehearsal : Rehearsal) (request : ClusterRequest) (line : Line) :
    Except Error request.Value × Rehearsal :=
  match line with
  | .usual => (.ok (rehearsal.usualValue request), rehearsal.clusterEffect request)
  | .value document => (.ok (scriptedValue document request), rehearsal.clusterEffect request)
  | .failure cause => (.error (errorOf cause), rehearsal)
  | .shapingFailure cause => (.error (errorOf (.words cause.text)), rehearsal)

/-! ## Images -/

/-- An image under preparation. -/
def image (rehearsal : Rehearsal) (context : ContextId) : StandInImage :=
  (rehearsal.images[context.index]?).getD ⟨"", [], []⟩

/-- Begins to prepare an image. -/
def openImage (rehearsal : Rehearsal) (base : String) : ContextId × Rehearsal :=
  (⟨rehearsal.images.length⟩, { rehearsal with images := rehearsal.images ++ [⟨base, [], []⟩] })

/-- Changes an image under preparation. -/
def changeImage (rehearsal : Rehearsal) (context : ContextId)
    (change : StandInImage → StandInImage) : Rehearsal :=
  { rehearsal with images := rehearsal.images.modify context.index change }

/-- The chunks by which an image is hashed. -/
def StandInImage.chunks (image : StandInImage) : List (List UInt8) :=
  Text.Utf8.encode image.base :: image.changes

/-- What the builder and its images usually do. -/
def usualImage (rehearsal : Rehearsal) :
    (request : ImageRequest) → Except Failure request.Value × Rehearsal
  | .open image =>
    let (context, after) := rehearsal.openImage image
    (.ok context, after)
  | .openSource _ imageName =>
    let (context, after) := rehearsal.openImage imageName
    (.ok context, after)
  | .contentHash context => (.ok (ContentHash.ofChunks (rehearsal.image context).chunks), rehearsal)
  | .push _ _ => (.ok (), rehearsal)
  | .addFile context contents destination owner =>
    (.ok (), rehearsal.changeImage context fun image =>
      { image with
        changes := image.changes ++
          [Text.Utf8.encode destination, Text.Utf8.encode owner, contents]
        files := image.files ++ [(destination, contents)] })
  | .setUser context user =>
    (.ok (), rehearsal.changeImage context fun image =>
      { image with changes := image.changes ++ [Text.Utf8.encode user] })
  | .run context command =>
    (.ok ((rehearsal.image context).base ++ "|" ++ " ".intercalate command), rehearsal)
  | .fetchFile context path =>
    match (rehearsal.image context).files.lookup path with
    | some contents => (.ok contents, rehearsal)
    | none => (.error (.words ("no such file " ++ path)), rehearsal)

/-- What a script lets an image say, given what it would say otherwise. -/
def scriptedImage (document : Json) :
    (request : ImageRequest) → Except Failure request.Value → Except Failure request.Value
  | .contentHash _, _ | .run _ _, _ => .ok (scriptedText document)
  | .fetchFile _ _, _ => .ok (Text.Utf8.encode (scriptedText document))
  | _, usual => usual

/-- The answer of the builder or of an image. -/
def answerImage (rehearsal : Rehearsal) (request : ImageRequest) (line : Line) :
    Except Failure request.Value × Rehearsal :=
  match line with
  | .usual => rehearsal.usualImage request
  | .value document =>
    let (usual, after) := rehearsal.usualImage request
    (scriptedImage document request usual, after)
  | .failure cause => (.error cause, rehearsal)
  | .shapingFailure cause => (.error (.words cause.text), rehearsal)

/-- What happens when images are used as they are. -/
def answerPrebuilt (rehearsal : Rehearsal) :
    (request : ImageRequest) → Except Failure request.Value × Rehearsal
  | .open image =>
    let (context, after) := rehearsal.openImage image
    (.ok context, after)
  | .openSource source _ => (.error (.words (Prebuilt.buildRefusal source)), rehearsal)
  | .contentHash context => (.ok (Prebuilt.contentHash (rehearsal.image context).base), rehearsal)
  | .push context _ =>
    (.error (.words (Prebuilt.pushRefusal (rehearsal.image context).base)), rehearsal)
  | .addFile context _ destination _ =>
    (.error (.words (Prebuilt.addFileRefusal (rehearsal.image context).base destination)), rehearsal)
  | .setUser context _ =>
    (.error (.words (Prebuilt.setUserRefusal (rehearsal.image context).base)), rehearsal)
  | .run context _ =>
    (.error (.words (Prebuilt.executeRefusal (rehearsal.image context).base)), rehearsal)
  | .fetchFile context path =>
    (.error (.words (Prebuilt.readFileRefusal (rehearsal.image context).base path)), rehearsal)

/-- Whether an image has been changed. -/
def answerChanged (rehearsal : Rehearsal) (context : ContextId) (line : Line) : Bool :=
  match line with
  | .value document => scriptedFlag document
  | _ => !(rehearsal.image context).changes.isEmpty

/-! ## The others -/

/-- The answer of the shaping service. -/
def answerShaping : Line → Except ShapingFailure Unit
  | .usual | .value _ => .ok ()
  | .shapingFailure cause => .error cause
  | .failure cause => .error (.request cause.text)

/-- The answer of the proxy, given what it usually says. -/
def answerProxy (usual : α) (scripted : Json → α) : Line → Except Failure α
  | .usual => .ok usual
  | .value document => .ok (scripted document)
  | .failure cause => .error cause
  | .shapingFailure cause => .error (.words cause.text)

/-- Gives a cluster name: the next of those laid down, and then numbered ones. -/
def giveName (rehearsal : Rehearsal) (name : String) : Except Error String × Rehearsal :=
  let counted := { rehearsal with namesGiven := rehearsal.namesGiven + 1 }
  match rehearsal.names with
  | given :: rest => (given, { counted with names := rest })
  | [] =>
    (.ok (Naming.sanitize name ++ "-" ++
      Text.paddedHex Naming.suffixLength rehearsal.namesGiven), counted)

/-- Gives a tag that no image has. -/
def giveTag (rehearsal : Rehearsal) : String × Rehearsal :=
  let count := rehearsal.tagsGiven + 1
  ("<uuid-" ++ toString count ++ ">", { rehearsal with tagsGiven := count })

/-- An answer without delay. -/
def atOnce (value : α) (rehearsal : Rehearsal) : Delayed α × Rehearsal :=
  (⟨some 0, value⟩, rehearsal)

/-- An answer after a delay. -/
def inTime (delay : Option Nat) (answer : α × Rehearsal) : Delayed α × Rehearsal :=
  (⟨delay, answer.1⟩, answer.2)

/-- The answer to a request. -/
def answer (request : Request) (_ : Nat) (rehearsal : Rehearsal) :
    Delayed request.Reply × Rehearsal :=
  match request with
  | .cluster request =>
    let (cue, logged) := rehearsal.takeCue (clusterEntry request)
    inTime cue.delay (logged.answerCluster request cue.line)
  | .image request =>
    if rehearsal.buildsImages then
      let (cue, logged) := rehearsal.takeCue (imageEntry request)
      let delay := if request matches .contentHash _ then some 0 else cue.delay
      inTime delay (logged.answerImage request cue.line)
    else inTime (some 0) (rehearsal.answerPrebuilt request)
  | .isChanged context =>
    if rehearsal.buildsImages then
      let (cue, logged) := rehearsal.takeCue ⟨"changed", []⟩
      atOnce (logged.answerChanged context cue.line) logged
    else atOnce false rehearsal
  | .baseImage context => atOnce (rehearsal.image context).base rehearsal
  | .shape target port interface shaping =>
    let (cue, logged) := rehearsal.takeCue (shapingEntry target port interface shaping)
    inTime cue.delay (answerShaping cue.line, logged)
  | .unshape target port kind =>
    let (cue, logged) := rehearsal.takeCue (unshapingEntry target port kind)
    inTime cue.delay (answerShaping cue.line, logged)
  | .expose service host port =>
    let (cue, logged) := rehearsal.takeCue (exposureEntry service host port)
    inTime cue.delay (answerProxy () (fun _ => ()) cue.line, logged)
  | .exposedAddress host =>
    let (cue, logged) := rehearsal.takeCue ⟨"url", [.string host]⟩
    inTime cue.delay (answerProxy ("https://" ++ host ++ ".example") scriptedText cue.line, logged)
  | .clusterName name => inTime (some 0) (rehearsal.giveName name)
  | .uniqueTag => inTime (some 0) rehearsal.giveTag
  | .localPort => atOnce (.ok 1) rehearsal
  | .recordedImage hash => atOnce (rehearsal.cache.get? hash) rehearsal
  | .recordImage hash image =>
    let (recorded, cache) := rehearsal.cache.record hash image
    atOnce recorded { rehearsal with cache }
  | .sourceFile path => atOnce (contentsAt rehearsal.files path) rehearsal
  | .sourceFolder path => atOnce (entriesAt rehearsal.files path) rehearsal

/-- The stand-ins as collaborators. -/
def collaborators : Collaborators Rehearsal where
  answer := answer
  cancellation := Rehearsal.cancellation

/-- How many looks a wait may take before a rehearsal is given up. -/
def patience : Nat := 1000000

end Rehearsal
end Testbed
