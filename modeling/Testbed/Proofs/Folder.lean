import Mathlib.Data.List.TakeWhile
import Testbed.Proofs.Folder.Batch
import Testbed.Proofs.Folder.Tree
import Testbed.Proofs.Text.Numeral
import Testbed.Proofs.Trial

namespace Testbed

/-!
# Folders

A folder is given to an instance as a whole.  It is listed, and all of its files are read and checked, before any
is recorded.  So if anything is wrong with one of them, nothing has happened; and if nothing is wrong, an instance
that deploys its files gets all of them, because files that have different ways have different destinations.
-/

/-- A text without the slashes at its end. -/
structure IsStem (stem text : String) : Prop where
  slashes : ∃ rest, text = stem ++ rest ∧ ∀ character ∈ rest.toList, character = '/'
  bare : stem.toList.getLast? ≠ some '/'

namespace Action

variable {setup : Setup} {before after : Registry} {id : InstanceId} {workload : Instance} {events : List Event}
  {path destination owner : String} {files : List SourceFile} {pairs : List (String × List UInt8)}
  {result : Except Error Unit}

/-! ## Destinations -/

theorem exists_stem (destination : String) :
    ∃ stem, IsStem stem destination ∧
      ∀ names, fileDestination destination names = stem ++ "/" ++ "/".intercalate names := by
  rcases Text.exists_dropTrailing_append (· == '/') destination.toList with ⟨rest, split, slashes⟩
  refine ⟨String.ofList (Text.dropTrailing (· == '/') destination.toList),
    ⟨⟨String.ofList rest, ?_, fun character listed => ?_⟩, fun slash => ?_⟩, fun _ => rfl⟩
  · rw [← String.ofList_append, ← split, String.ofList_toList]
  · rw [String.toList_ofList] at listed
    exact eq_of_beq (slashes character listed)
  · rw [String.toList_ofList] at slash
    exact absurd (Text.last_dropTrailing slash) (by decide)

/-- Files that are found on different ways go to different places. -/
theorem fileDestination_inj {first second : List String} (firstNames : ∀ name ∈ first, '/' ∉ name.toList)
    (secondNames : ∀ name ∈ second, '/' ∉ name.toList) (firstWay : first ≠ []) (secondWay : second ≠ [])
    (same : fileDestination destination first = fileDestination destination second) : first = second := by
  have joined := congrArg String.toList ((String.append_right_inj _).mp same)
  rw [String.toList_intercalate, String.toList_intercalate] at joined
  -- Where no name has a slash, the names are what is between the slashes.
  have split {names : List String} (free : ∀ name ∈ names, '/' ∉ name.toList) (way : names ≠ []) :
      ("/".toList.intercalate (names.map String.toList)).splitOn '/' = names.map String.toList := by
    refine List.splitOn_intercalate '/' ?_ (by simpa using way)
    intro name listed
    rcases List.mem_map.mp listed with ⟨original, among, rfl⟩
    exact free original among
  have parted := congrArg (List.splitOn '/') joined
  rw [split firstNames firstWay, split secondNames secondWay] at parted
  exact List.map_injective_iff.mpr (fun _ _ => String.toList_inj.mp) parted

/-! ## Reading and checking -/

/-- A file that has been read, as it is found in a folder. -/
def sourceOf (file : List String × List UInt8) : SourceFile :=
  ⟨file.1, .ok file.2⟩

/-- A file that has been read, with its destination. -/
def targetOf (destination : String) (file : List String × List UInt8) : String × List UInt8 :=
  (fileDestination destination file.1, file.2)

theorem checkFolder_eq_ok_iff :
    checkFolder workload path destination owner files = .ok pairs ↔
      ∃ listing : List (List String × List UInt8), files = listing.map sourceOf ∧
        pairs = listing.map (targetOf destination) ∧
        ∀ file ∈ listing, workload.Accepts (fileDestination destination file.1) owner := by
  induction files generalizing pairs with
  | nil =>
      rw [checkFolder]
      constructor
      · rintro ⟨⟩
        exact ⟨[], rfl, rfl, List.forall_mem_nil _⟩
      · rintro ⟨listing, none, rfl, _⟩
        rw [List.map_eq_nil_iff.mp none.symm]
        rfl
  | cons first rest inductionHypothesis =>
      rcases first with ⟨names, cause | contents⟩
      · rw [checkFolder]
        constructor
        · intro impossible
          cases impossible
        · rintro ⟨_ | ⟨head, tail⟩, same, _⟩
          · cases same
          · cases (List.cons.inj same).1
      · rw [checkFolder]
        constructor
        · intro checked
          cases accepted : workload.checkFile (fileDestination destination names) owner with
          | error error =>
              simp only [accepted, bind, Except.bind, reduceCtorEq] at checked
          | ok group =>
              cases onward : checkFolder workload path destination owner rest with
              | error error =>
                  simp only [accepted, onward, bind, Except.bind, reduceCtorEq] at checked
              | ok others =>
                  simp only [accepted, onward, bind, Except.bind, pure, Except.pure, Except.ok.injEq] at checked
                  rcases inductionHypothesis.mp onward with ⟨listing, rfl, rfl, accepts⟩
                  refine ⟨(names, contents) :: listing, rfl, checked.symm, ?_⟩
                  exact List.forall_mem_cons.mpr ⟨(Instance.checkFile_eq_ok_iff.mp accepted).1, accepts⟩
        · rintro ⟨_ | ⟨head, tail⟩, same, rfl, accepts⟩
          · cases same
          · rcases List.cons.inj same with ⟨headed, rfl⟩
            cases headed
            rcases List.forall_mem_cons.mp accepts with ⟨accepted, others⟩
            have onward := inductionHypothesis.mpr ⟨tail, rfl, rfl, others⟩
            simp only [Instance.checkFile_eq_ok_iff.mpr ⟨accepted, rfl⟩, onward, bind, Except.bind]
            rfl

/-- Files are not taken if one cannot be read or is refused. -/
theorem obstructed_of_checkFolder {error : Error}
    (failed : checkFolder workload path destination owner files = .error error) :
    (∃ names cause, ⟨names, .error cause⟩ ∈ files) ∨
      ∃ names contents refusal, ⟨names, .ok contents⟩ ∈ files ∧
        workload.checkFile (fileDestination destination names) owner = .error refusal := by
  induction files with
  | nil => cases failed
  | cons first rest inductionHypothesis =>
      rcases first with ⟨names, cause | contents⟩
      · exact Or.inl ⟨names, cause, List.mem_cons_self⟩
      · rw [checkFolder] at failed
        cases checked : workload.checkFile (fileDestination destination names) owner with
        | error refusal => exact Or.inr ⟨names, contents, refusal, List.mem_cons_self, checked⟩
        | ok group =>
            cases onward : checkFolder workload path destination owner rest with
            | error later =>
                obtain rfl : later = error := by
                  simpa only [checked, onward, bind, Except.bind, Except.error.injEq] using failed
                rcases inductionHypothesis onward with
                  ⟨names, cause, listed⟩ | ⟨names, held, refusal, listed, known⟩
                · exact Or.inl ⟨names, cause, List.mem_cons_of_mem _ listed⟩
                · exact Or.inr ⟨names, held, refusal, List.mem_cons_of_mem _ listed, known⟩
            | ok others =>
                simp only [checked, onward, bind, Except.bind, pure, Except.pure, reduceCtorEq] at failed

/-- What is to be recorded, once a folder has been listed. -/
def gather (workload : Instance) (path destination owner : String) :
    Except String (List (String × SourceEntry)) → Except Error (List (String × List UInt8))
  | .error cause => .error (unread workload path cause)
  | .ok entries =>
    match SourceEntry.closedFoldersIn entries with
    | folder :: _ => .error (unread workload (below path folder.path) folder.cause)
    | [] => checkFolder workload path destination owner (SourceEntry.sortedFiles entries)

/-- Why a folder is not taken: something of it cannot be read, or a file of it is refused. -/
inductive Obstructs (workload : Instance) (destination owner : String) :
    Except String (List (String × SourceEntry)) → Prop where
  | unlisted {cause : String} : Obstructs workload destination owner (.error cause)
  | closed {entries : List (String × SourceEntry)} {names : List String} {cause : String}
      (held : (SourceEntry.folder entries).HoldsClosed names cause) :
      Obstructs workload destination owner (.ok entries)
  | unreadable {entries : List (String × SourceEntry)} {names : List String} {cause : String}
      (held : (SourceEntry.folder entries).Holds names (.error cause)) :
      Obstructs workload destination owner (.ok entries)
  | refused {entries : List (String × SourceEntry)} {names : List String} {contents : List UInt8} {error : Error}
      (held : (SourceEntry.folder entries).Holds names (.ok contents))
      (refusal : workload.checkFile (fileDestination destination names) owner = .error error) :
      Obstructs workload destination owner (.ok entries)

theorem mem_sortedFiles_iff {entries : List (String × SourceEntry)} {names : List String}
    {contents : Except String (List UInt8)} :
    ⟨names, contents⟩ ∈ SourceEntry.sortedFiles entries ↔ (SourceEntry.folder entries).Holds names contents := by
  rw [SourceEntry.sortedFiles, List.mem_mergeSort, SourceEntry.mem_filesIn_iff, SourceEntry.holds_folder_iff]

theorem Obstructs.gather {listed : Except String (List (String × SourceEntry))}
    (obstructs : Obstructs workload destination owner listed) :
    ∃ error, gather workload path destination owner listed = .error error := by
  cases gathered : Action.gather workload path destination owner listed with
  | error error => exact ⟨error, rfl⟩
  | ok pairs =>
      cases listed with
      | error cause => cases gathered
      | ok entries =>
          rw [Action.gather] at gathered
          split at gathered
          · cases gathered
          rename_i none
          rcases checkFolder_eq_ok_iff.mp gathered with ⟨listing, known, rfl, accepts⟩
          cases obstructs with
          | closed held =>
              have listed := (SourceEntry.mem_closedFoldersIn_iff entries _ _).mpr
                (SourceEntry.holdsClosed_folder_iff.mp held)
              rw [none] at listed
              cases listed
          | unreadable held =>
              have listed := mem_sortedFiles_iff.mpr held
              rw [known] at listed
              rcases List.mem_map.mp listed with ⟨_, _, same⟩
              cases same
          | refused held refusal =>
              have listed := mem_sortedFiles_iff.mpr held
              rw [known] at listed
              rcases List.mem_map.mp listed with ⟨file, among, same⟩
              cases same
              cases refusal.symm.trans (Instance.checkFile_eq_ok_iff.mpr ⟨accepts _ among, rfl⟩)

theorem obstructs_of_gather {listed : Except String (List (String × SourceEntry))} {error : Error}
    (failed : gather workload path destination owner listed = .error error) :
    Obstructs workload destination owner listed := by
  cases listed with
  | error cause => exact .unlisted
  | ok entries =>
      rw [gather] at failed
      split at failed
      · rename_i folder rest known
        have listed : folder ∈ SourceEntry.closedFoldersIn entries := by
          rw [known]
          exact List.mem_cons_self
        rcases folder with ⟨names, cause⟩
        exact .closed (SourceEntry.holdsClosed_folder_iff.mpr
          ((SourceEntry.mem_closedFoldersIn_iff entries names cause).mp listed))
      · rcases obstructed_of_checkFolder failed with
          ⟨names, cause, listed⟩ | ⟨names, held, refusal, listed, known⟩
        · exact .unreadable (mem_sortedFiles_iff.mp listed)
        · exact .refused (mem_sortedFiles_iff.mp listed) known

/-- What is gathered is what a folder holds, each file once, and each is accepted. -/
theorem lists_of_gather {entries : List (String × SourceEntry)} (tree : (SourceEntry.folder entries).IsTree)
    (gathered : gather workload path destination owner (.ok entries) = .ok pairs) :
    ∃ listing : List (List String × List UInt8), (SourceEntry.folder entries).Lists (listing.map sourceOf) ∧
      pairs = listing.map (targetOf destination) ∧
      ∀ file ∈ listing, workload.Accepts (fileDestination destination file.1) owner := by
  rw [gather] at gathered
  split at gathered
  · cases gathered
  · rcases checkFolder_eq_ok_iff.mp gathered with ⟨listing, known, rfl, accepts⟩
    exact ⟨listing, known ▸ SourceEntry.lists_sortedFiles tree, rfl, accepts⟩

/-- No two files of a tree go to the same place. -/
theorem nodup_targets {entries : List (String × SourceEntry)} {listing : List (List String × List UInt8)}
    (tree : (SourceEntry.folder entries).IsTree) (lists : (SourceEntry.folder entries).Lists (listing.map sourceOf)) :
    ((listing.map (targetOf destination)).map Prod.fst).Nodup := by
  have way {file : List String × List UInt8} (listed : file ∈ listing) :
      (∀ name ∈ file.1, '/' ∉ name.toList) ∧ file.1 ≠ [] := by
    have holds := (lists.complete file.1 (.ok file.2)).mp (List.mem_map.mpr ⟨file, listed, rfl⟩)
    refine ⟨holds.names tree, ?_⟩
    rcases SourceEntry.holds_folder_iff.mp holds with ⟨name, inner, _, _, same, _⟩
    rw [same]
    exact List.cons_ne_nil name inner
  rw [List.map_map, List.nodup_iff_pairwise_ne, List.pairwise_map]
  refine (List.pairwise_map.mp lists.ordered).imp_of_mem fun {first second} left right early same => ?_
  have equal := fileDestination_inj (way left).1 (way right).1 (way left).2 (way right).2 same
  exact (ne_of_lt early) equal

/-! ## The action -/

/-- A folder is listed and gathered before anything is recorded. -/
theorem addFolder_eq (id : InstanceId) (path destination owner : String) :
    addFolder id path destination owner = guarded id .addFolder >>= fun workload =>
      ask (.sourceFolder path) >>= fun listed =>
        ofExcept (gather workload path destination owner listed) >>= insertFiles id owner := by
  rw [addFolder]
  congr 1
  funext workload
  congr 1
  funext listed
  cases listed with
  | error cause => rfl
  | ok entries =>
      dsimp only [gather]
      cases SourceEntry.closedFoldersIn entries with
      | nil => rfl
      | cons folder rest => rfl

/-- An instance asks for the folder first, and records only what has been gathered. -/
theorem course_addFolder (found : before.get? id = some workload)
    (course : Course setup (addFolder id path destination owner) before events result after) :
    (∃ error, workload.state ∉ Operation.addFolder.allowedStates ∧
        events = [] ∧ result = .error error ∧ after = before) ∨
      ∃ listed later, events = .asked (.sourceFolder path) listed :: later ∧
        ((∃ error, gather workload path destination owner listed = .error error ∧
            later = [] ∧ result = .error error ∧ after = before) ∨
          ∃ pairs, gather workload path destination owner listed = .ok pairs ∧
            Course setup (insertFiles id owner pairs) before later result after) := by
  rw [addFolder_eq] at course
  rcases course_guarded_bind.mp course with ⟨error, refused, ended⟩ | ⟨other, ⟨same, _⟩, asking⟩
  · refine Or.inl ⟨error, fun permitted => ?_, ended⟩
    rw [Registry.guarded_eq_ok_iff.mpr ⟨found, permitted⟩] at refused
    cases refused
  · obtain rfl := Option.some.inj (found.symm.trans same)
    rcases course_ask_bind.mp asking with ⟨listed, later, rfl, rest⟩
    exact Or.inr ⟨listed, later, rfl, course_ofExcept_bind.mp rest⟩

end Action

variable {setup : Setup} {before after : Registry} {id : InstanceId} {workload : Instance} {events : List Event}
  {path destination owner : String} {result : Except Error Unit}

/-- Whether an instance has got a folder: each file that the folder holds once, in the order of the names on the way
to them, behind the files that it had. -/
structure Registry.Receives (before : Registry) (id : InstanceId) (workload : Instance) (destination owner : String)
    (entries : List (String × SourceEntry)) (listing : List (List String × List UInt8)) (after : Registry) :
    Prop where
  listed : (SourceEntry.folder entries).Lists (listing.map fun file => ⟨file.1, .ok file.2⟩)
  received : ∃ stem fsGroup, IsStem stem destination ∧
    before.Becomes id
      { workload with
        files := workload.files ++ listing.map fun file =>
          ⟨stem ++ "/" ++ "/".intercalate file.1, Owner.group owner, file.2, decide (workload.state = .preparing)⟩
        fsGroup } after

theorem Registry.Becomes.receives {entries : List (String × SourceEntry)}
    {listing : List (List String × List UInt8)}
    (becomes : before.Becomes id
      (workload.withFiles owner (listing.map (Action.targetOf destination))) after)
    (listed : (SourceEntry.folder entries).Lists (listing.map Action.sourceOf)) :
    before.Receives id workload destination owner entries listing after := by
  refine ⟨listed, ?_⟩
  rcases Action.exists_stem destination with ⟨stem, bare, target⟩
  rcases workload.withFiles_eq owner (listing.map (Action.targetOf destination)) with ⟨fsGroup, same⟩
  refine ⟨stem, fsGroup, bare, ?_⟩
  have recorded (file : List String × List UInt8) :
      workload.recorded owner (Action.targetOf destination file) =
        ⟨stem ++ "/" ++ "/".intercalate file.1, Owner.group owner, file.2,
          decide (workload.state = .preparing)⟩ := by
    rw [Action.targetOf, target]
    rfl
  simpa only [same, List.map_map, Function.comp_def, recorded] using becomes

/-- What can come of giving a folder to an instance. -/
structure TakesFolder (id : InstanceId) (workload : Instance) (path destination owner : String) (before : Registry)
    (events : List Event) (result : Except Error Unit) (after : Registry) : Prop where
  complete : result = .ok () → ∃ entries later listing,
    events = .asked (.sourceFolder path) (.ok entries) :: later ∧
      before.Receives id workload destination owner entries listing after
  /-- If something is in the way, there is an error, and nothing has happened but the reading. -/
  nothing : ∀ listed later, events = .asked (.sourceFolder path) listed :: later →
    Action.Obstructs workload destination owner listed →
      (∃ error, result = .error error) ∧ later = [] ∧ after = before
  /-- Once it is committed, an error has something in its way. -/
  committed : workload.state = .committed → ∃ listed, events = [.asked (.sourceFolder path) listed] ∧
    (∀ error, result = .error error → after = before ∧ Action.Obstructs workload destination owner listed)

/-- A folder is taken as a whole or not at all. -/
theorem takesFolder_of_addFolder (found : before.get? id = some workload)
    (trees : ∀ entries, .asked (.sourceFolder path) (.ok entries) ∈ events → (SourceEntry.folder entries).IsTree)
    (course : Action.Course setup (Action.addFolder id path destination owner) before events result after) :
    TakesFolder id workload path destination owner before events result after := by
  rcases Action.course_addFolder found course with
    ⟨error, refused, rfl, rfl, rfl⟩ |
      ⟨listed, later, rfl, ⟨error, failed, rfl, rfl, rfl⟩ | ⟨pairs, gathered, recording⟩⟩
  · refine ⟨nofun, ?_, ?_⟩
    · intro _ _ impossible
      cases impossible
    · intro committed
      rw [committed] at refused
      exact absurd (by decide) refused
  · have obstructs := Action.obstructs_of_gather failed
    refine ⟨nofun, ?_, fun _ => ⟨listed, rfl, fun _ _ => ⟨rfl, obstructs⟩⟩⟩
    rintro other later same _
    exact ⟨⟨error, rfl⟩, (List.cons.inj same).2.symm, rfl⟩
  · cases listed with
    | error cause => cases gathered
    | ok entries =>
        have tree := trees entries List.mem_cons_self
        rcases Action.lists_of_gather tree gathered with ⟨listing, lists, rfl, accepts⟩
        constructor
        · rintro rfl
          exact ⟨entries, later, listing, rfl, (Action.becomes_insertFiles found recording).receives lists⟩
        · intro listed _ same obstructs
          cases (List.cons.inj same).1
          rcases obstructs.gather with ⟨error, failed⟩
          cases gathered.symm.trans failed
        · intro committed
          have accepted : ∀ file ∈ listing.map (Action.targetOf destination), workload.Accepts file.1 owner := by
            intro file listed
            rcases List.mem_map.mp listed with ⟨found, among, rfl⟩
            exact accepts found among
          rcases Action.insertFiles_eq found (by rw [committed]; decide) (Action.nodup_targets tree lists)
            accepted with ⟨left, done⟩
          rcases (Action.course_of_done done).mp recording with ⟨rfl, rfl, rfl⟩
          exact ⟨.ok entries, rfl, nofun⟩

/-- Every request of a program that is answered by rule has the reply of the rule. -/
theorem Program.reply_of_follow {replies : Replies} {program : Program α} {request : Request}
    {reply : request.Reply} (happened : .asked request reply ∈ (program.follow replies).1) :
    reply = replies request := by
  induction program with
  | done value => cases happened
  | ask asked next inductionHypothesis =>
      rcases List.mem_cons.mp happened with same | later
      · cases same
        rfl
      · exact inductionHypothesis _ later
  | await condition interval timeout next inductionHypothesis =>
      rcases List.mem_cons.mp happened with impossible | later
      · cases impossible
      · exact inductionHypothesis _ _ later
  | connect pod localPort remotePort policy next inductionHypothesis =>
      rcases List.mem_cons.mp happened with impossible | later
      · cases impossible
      · exact inductionHypothesis _ _ later

/-- A folder with a folder and a link in it. -/
def SourceEntry.nested : List (String × SourceEntry) :=
  [("main.conf", .file [109]), ("conf.d", .folder [("web.conf", .file [119]), ("app.conf", .file [97])]),
    ("latest", .link "main.conf")]

theorem SourceEntry.isTree_nested : (folder nested).IsTree := by
  refine .folder (by decide) (by decide) (List.forall_mem_cons.mpr ⟨.file, List.forall_mem_cons.mpr ⟨?_, ?_⟩⟩)
  · refine .folder (by decide) (by decide) ?_
    exact List.forall_mem_cons.mpr ⟨.file, List.forall_mem_cons.mpr ⟨.file, List.forall_mem_nil _⟩⟩
  · exact List.forall_mem_cons.mpr ⟨.link, List.forall_mem_nil _⟩

theorem SourceEntry.sortedFiles_nested :
    sortedFiles nested =
      [⟨["conf.d", "app.conf"], .ok [97]⟩, ⟨["conf.d", "web.conf"], .ok [119]⟩, ⟨["main.conf"], .ok [109]⟩] := by
  refine (lists_sortedFiles isTree_nested).unique ⟨List.pairwise_map.mp (?_ : List.Pairwise (· < ·) _), ?_⟩
  · decide +kernel
  · intro path contents
    rw [← mem_files_iff]
    change _ ∈ (folder nested).files.reverse ↔ _
    exact List.mem_reverse

/-- An instance is committed and has a file. -/
def Call.supplied : List Call :=
  [.create "main", .setImage ⟨0⟩ "busybox", .commit ⟨0⟩, .addFileBytes ⟨0⟩ [120] "/etc/app/web.conf" "0:1000"]

/-- The instance is given the folder beside its file. -/
theorem takesFolder_of_nested :
    let before := (trial .plain .agreeable Call.supplied).2
    ∃ workload events after, before.get? ⟨0⟩ = some workload ∧ workload.state = .committed ∧
      Action.Course .plain (Action.addFolder ⟨0⟩ "conf" "/etc/app/" "0:1000") before events (.ok ()) after ∧
      TakesFolder ⟨0⟩ workload "conf" "/etc/app/" "0:1000" before events (.ok ()) after ∧
      (after.get? ⟨0⟩).map (fun workload => workload.files.map fun file => (file.destination, file.contents)) =
        some [("/etc/app/web.conf", [120]), ("/etc/app/conf.d/app.conf", [97]), ("/etc/app/conf.d/web.conf", [119]),
          ("/etc/app/main.conf", [109])] := by
  intro before
  let pairs : List (String × List UInt8) :=
    [("/etc/app/conf.d/app.conf", [97]), ("/etc/app/conf.d/web.conf", [119]), ("/etc/app/main.conf", [109])]
  have known : (before.get? ⟨0⟩).map (fun workload => (workload.state,
      (Action.checkFolder workload "conf" "/etc/app/" "0:1000"
        (SourceEntry.sortedFiles SourceEntry.nested)).toOption)) = some (.committed, some pairs) := by
    rw [SourceEntry.sortedFiles_nested]
    decide +kernel
  rcases Option.map_eq_some_iff.mp known with ⟨workload, found, same⟩
  rcases Prod.mk.inj same with ⟨committed, checked⟩
  have gathered : Action.gather workload "conf" "/etc/app/" "0:1000" (.ok SourceEntry.nested) = .ok pairs := by
    cases ended : Action.checkFolder workload "conf" "/etc/app/" "0:1000"
      (SourceEntry.sortedFiles SourceEntry.nested) with
    | error error =>
        rw [ended] at checked
        cases checked
    | ok other =>
        rw [ended] at checked
        cases checked
        exact ended
  have left : ((Action.insertFiles ⟨0⟩ "0:1000" pairs .plain before).follow .agreeable).2.1.toOption = some () ∧
      ((((Action.insertFiles ⟨0⟩ "0:1000" pairs .plain before).follow .agreeable).2.2.get? ⟨0⟩).map fun workload =>
        workload.files.map fun file => (file.destination, file.contents)) =
          some (("/etc/app/web.conf", [120]) :: pairs) := by
    decide +kernel
  have taken := Program.course_follow .agreeable (Action.insertFiles ⟨0⟩ "0:1000" pairs .plain before)
  have replied {entries : List (String × SourceEntry)} (happened : .asked (.sourceFolder "conf") (.ok entries) ∈
      ((Action.insertFiles ⟨0⟩ "0:1000" pairs .plain before).follow .agreeable).1) :=
    Program.reply_of_follow happened
  generalize (Action.insertFiles ⟨0⟩ "0:1000" pairs .plain before).follow .agreeable = ended at left taken replied
  rcases ended with ⟨later, _ | _, after⟩
  · cases left.1
  have course : Action.Course .plain (Action.addFolder ⟨0⟩ "conf" "/etc/app/" "0:1000") before
      (.asked (.sourceFolder "conf") (.ok SourceEntry.nested) :: later) (.ok ()) after := by
    rw [Action.addFolder_eq, Action.course_guarded_bind]
    refine Or.inr ⟨workload, ⟨found, by rw [committed]; decide⟩, Action.course_ask_bind.mpr ⟨_, later, rfl, ?_⟩⟩
    exact Action.course_ofExcept_bind.mpr (Or.inr ⟨pairs, gathered, taken⟩)
  refine ⟨workload, _, after, found, committed, course, takesFolder_of_addFolder found ?_ course, left.2⟩
  intro entries happened
  rcases List.mem_cons.mp happened with same | happened
  · cases same
    exact SourceEntry.isTree_nested
  · cases replied happened
    exact .folder List.nodup_nil (List.forall_mem_nil _) (List.forall_mem_nil _)

end Testbed
