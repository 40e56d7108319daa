import Testbed.Action.Reach
import Testbed.Proofs.Course.Action
import Testbed.Proofs.Isolation.Host
import Testbed.Proofs.Racing
import Testbed.Proofs.Trial

namespace Testbed

/-!
# Tunnels to instances

A port of a started instance is forwarded in three steps: a local port is looked for, a pod of the owner is asked
for, and a tunnel is tried until it is there.  The tries follow the retry policy of the settings, which allows so
many attempts with a fixed pause in between, and they can be called off.  All attempts are at one tunnel, from
the same local port to the same port of the same pod.
-/

/-- Requests with the instants at which they have been made. -/
abbrev RequestLog : Type :=
  List (Request × Nat)

/-- Whether a request is one for a tunnel. -/
def Request.isTunnel : Request → Bool
  | cluster (.tunnel _ _ _) => true
  | _ => false

/-- All that collaborators do while ports are forwarded. -/
structure TunnelScript where
  /-- What comes of requests other than those for a tunnel. -/
  replies : (request : Request) → Delayed request.Reply
  /-- What comes of the requests for a tunnel, in their order. -/
  tunnels : Nat → Delayed (Except Error Unit)
  /-- The instant at which tries are called off, if ever. -/
  cancellation : Option Nat

namespace TunnelScript

/-- What comes of a request after so many for a tunnel. -/
def reply (script : TunnelScript) (tunnels : Nat) (request : Request) : Delayed request.Reply :=
  match request with
  | .cluster (.tunnel _ _ _) => script.tunnels tunnels
  | other => script.replies other

/-- Collaborators that follow a script and keep a log of what they are asked. -/
def collaborators (script : TunnelScript) : Collaborators RequestLog where
  answer request now log :=
    (script.reply (log.countP fun asked => asked.1.isTunnel) request, log ++ [(request, now)])
  cancellation _ := script.cancellation

/-- The tries at a tunnel from an instant on. -/
def racing (script : TunnelScript) (settings : Settings) (start : Nat) : Racing Error Unit where
  attempts := settings.portForwardAttempts.toNat
  pause := settings.portForwardRetryDelay
  start := start
  cancellation := script.cancellation
  replies := script.tunnels

end TunnelScript

/-- So many attempts at a tunnel, each when it begins. -/
def Racing.calls (racing : Racing ε α) (pod : String) (localPort remotePort : UInt16) (count : Nat) :
    RequestLog :=
  (racing.table.beginnings count).map fun instant => (.cluster (.tunnel pod localPort remotePort), instant)

/-- What has been asked before a tunnel is tried: for a local port, and then for a pod of the owner. -/
def askedBefore (owner : String) (start probing : Nat) : RequestLog :=
  [(.localPort, start), (.cluster (.firstPod owner), start + probing)]

/-- The attempts at a tunnel come out as the script says. -/
theorem TunnelScript.answer_tunnel {script : TunnelScript} {settings : Settings} {owner pod : String}
    {localPort port : UInt16} {start probing begun : Nat} (turn : Nat) :
    let racing := script.racing settings begun
    let states (turn : Nat) : RequestLog :=
      askedBefore owner start probing ++ racing.calls pod localPort port turn
    script.collaborators.answer (.cluster (.tunnel pod localPort port)) (racing.table.begins turn)
        (states turn) = (racing.replies turn, states (turn + 1)) := by
  intro racing states
  have tunnels : ((states turn).countP fun asked => asked.1.isTunnel) = turn := by
    have others : ((askedBefore owner start probing).countP fun asked => asked.1.isTunnel) = 0 := rfl
    have all : ((racing.calls pod localPort port turn).countP fun asked => asked.1.isTunnel) =
        (racing.calls pod localPort port turn).length := by
      rw [List.countP_eq_length]
      intro asked listed
      rcases List.mem_map.mp listed with ⟨instant, _, rfl⟩
      rfl
    rw [List.countP_append, others, all, Nat.zero_add, Racing.calls, List.length_map,
      Timetable.length_beginnings]
  have onward : states (turn + 1) =
      states turn ++ [(.cluster (.tunnel pod localPort port), racing.table.begins turn)] := by
    simp only [states, Racing.calls, Timetable.beginnings_succ, List.map_append, List.append_assoc]
    rfl
  rw [collaborators, onward]
  dsimp only
  rw [tunnels]
  rfl

namespace Action

variable {setup : Setup} {registry : Registry} {id : InstanceId} {workload : Instance} {port : UInt16}
  {owner : String}

/-- What a call for a tunnel comes to with the end of the tries. -/
def tunnelResult (settings : Settings) (name : String) (localPort : UInt16)
    (outcome : RetryOutcome Error Unit) (elapsed : Duration) : Except Error UInt16 :=
  match outcome with
  | .succeeded _ => .ok localPort
  | .exhausted error =>
    .error (.collaborator name Operation.portForward.text (tunnelRefusal settings error))
  | .cancelled => .error (.timeout name Operation.portForward.text elapsed)

/-- A started instance lets ports be forwarded. -/
theorem guarded_of_started (found : registry.get? id = some workload) (started : workload.state = .started) :
    guarded id .portForward setup registry = .done (.ok workload, registry) := by
  have permitted : workload.state ∈ Operation.portForward.allowedStates := List.mem_singleton.mpr started
  rw [guarded_eq, Registry.guarded_eq_ok_iff.mpr ⟨found, permitted⟩]

/-- A port that is not registered is refused without a request. -/
theorem forwardPort_of_unregistered (found : registry.get? id = some workload)
    (started : workload.state = .started) (unlisted : port ∉ workload.tcpPorts) :
    forwardPort id port setup registry =
      .done (.error (workload.refuse (.portNotRegistered port)), registry) := by
  have refused : workload.tcpPorts.contains port = false := by simpa using unlisted
  rw [forwardPort, bind_of_done (guarded_of_started found started), refused]
  rfl

/-- The program of a call for a tunnel to a registered port. -/
theorem forwardPort_of_registered (found : registry.get? id = some workload)
    (started : workload.state = .started) (listed : port ∈ workload.tcpPorts)
    (owned : registry.podOwner workload = .ok owner) :
    forwardPort id port setup registry =
      .ask .localPort fun probed =>
        match probed with
        | .error cause =>
          .done (.error (.collaborator workload.name Operation.portForward.text cause), registry)
        | .ok localPort =>
          .ask (.cluster (.firstPod owner)) fun answered =>
            match answered with
            | .error error =>
              .done (.error (.relayed workload.name Operation.portForward.text error), registry)
            | .ok pod =>
              .connect pod localPort port (tunnelPolicy setup.settings) fun outcome elapsed =>
                .done (tunnelResult setup.settings workload.name localPort outcome elapsed, registry) := by
  have known : workload.tcpPorts.contains port = true := by simpa using listed
  have owns : podOwner workload setup registry = .done (.ok owner, registry) := by
    rw [podOwner_eq, owned]
  rw [forwardPort, bind_of_done (guarded_of_started found started), known, if_pos rfl]
  refine congrArg (Program.ask .localPort) (funext fun probed => ?_)
  cases probed with
  | error cause => rfl
  | ok localPort =>
      refine (bind_of_done owns).trans ?_
      refine congrArg (Program.ask (.cluster (.firstPod owner))) (funext fun answered => ?_)
      cases answered with
      | error error => rfl
      | ok pod =>
          refine congrArg (Program.connect pod localPort port (tunnelPolicy setup.settings))
            (funext fun outcome => funext fun elapsed => ?_)
          cases outcome with
          | succeeded value => rfl
          | exhausted error => rfl
          | cancelled => rfl

section

variable {script : TunnelScript} {looks start probing finding : Nat} {localPort : UInt16} {pod : String}
  {error : Error}

/-- Without a pod there are no tries. -/
theorem run_forwardPort_of_failed (found : registry.get? id = some workload)
    (started : workload.state = .started) (listed : port ∈ workload.tcpPorts)
    (owned : registry.podOwner workload = .ok owner)
    (probed : script.replies .localPort = ⟨some probing, .ok localPort⟩)
    (failed : script.replies (.cluster (.firstPod owner)) = ⟨some finding, .error error⟩) :
    (forwardPort id port setup registry).run script.collaborators looks start [] =
      some ⟨(.error (.relayed workload.name Operation.portForward.text error), registry),
        start + probing + finding, askedBefore owner start probing⟩ := by
  rw [forwardPort_of_registered found started listed owned]
  simp only [Program.run, TunnelScript.collaborators, TunnelScript.reply, probed, failed, Option.bind_some]
  rfl

/-- With a pod the tries decide what the call comes to. -/
theorem run_forwardPort_of_found (found : registry.get? id = some workload)
    (started : workload.state = .started) (listed : port ∈ workload.tcpPorts)
    (owned : registry.podOwner workload = .ok owner)
    (probed : script.replies .localPort = ⟨some probing, .ok localPort⟩)
    (answered : script.replies (.cluster (.firstPod owner)) = ⟨some finding, .ok pod⟩) :
    let racing := script.racing setup.settings (start + probing + finding)
    (forwardPort id port setup registry).run script.collaborators looks start [] =
      (racing.rest (script.collaborators.answer (.cluster (.tunnel pod localPort port)))
          (fun turn => askedBefore owner start probing ++ racing.calls pod localPort port turn) 0 looks).map
        fun (outcome, finish, log) =>
          ⟨(tunnelResult setup.settings workload.name localPort outcome
            (.ofMilliseconds (finish - racing.start)), registry), finish, log⟩ := by
  intro racing
  rw [forwardPort_of_registered found started listed owned]
  simp only [Program.run, TunnelScript.collaborators, TunnelScript.reply, probed, answered, Option.bind_some]
  change (racing.rest (script.collaborators.answer (.cluster (.tunnel pod localPort port)))
      (fun turn => askedBefore owner start probing ++ racing.calls pod localPort port turn) 0 looks).bind _ = _
  exact Option.map_eq_bind.symm

end

end Action

/-- Whether a call for a tunnel comes to what the tries at it decide. -/
structure Forwards (settings : Settings) (name : String) (registry : Registry) (racing : Racing Error Unit)
    (before : RequestLog) (pod : String) (localPort port : UInt16)
    (run : Option (Ending RequestLog (Except Error UInt16 × Registry))) : Prop where
  /-- Each attempt but the first begins when the pause behind the one before is over. -/
  paced : ∀ turn, racing.table.begins (turn + 1) =
    racing.table.ends turn + settings.portForwardRetryDelaySecs.toNat * 1000
  /-- After what comes before the tries, nothing is asked for but the tunnel, once for each attempt that is
  made. -/
  asked : ∀ ending, run = some ending → ending.value.2 = registry ∧
    ∃ count ≤ settings.portForwardAttempts.toNat, (∀ turn, turn < count ↔ racing.IsMade turn) ∧
      ending.state = before ++ racing.calls pod localPort port count
  /-- The call yields the local port if an attempt succeeds, and only then. -/
  opened : ∀ turn, racing.Succeeds turn () →
    run = some ⟨(.ok localPort, registry), racing.table.ends turn,
      before ++ racing.calls pod localPort port (turn + 1)⟩
  yields : ∀ ending found, run = some ending → ending.value.1 = .ok found →
    found = localPort ∧ ∃ turn, racing.Succeeds turn ()
  /-- If all the attempts fail that are allowed, the call tells how many they were, and how the last has
  failed. -/
  exhausted : ∀ turn error, racing.Exhausts turn error →
    run = some ⟨(.error (.collaborator name Operation.portForward.text
        ("tunnel not established after " ++ toString settings.portForwardAttempts ++ " attempts: " ++
          error.text)), registry),
      racing.table.ends turn,
      before ++ racing.calls pod localPort port settings.portForwardAttempts.toNat⟩
  /-- If the tries are called off before, the call times out at once, and tells how long it has tried. -/
  calledOff : ∀ last, racing.cancellation = some last → (∀ turn, ¬ racing.Succeeds turn ()) →
    (∀ turn error, ¬ racing.Exhausts turn error) →
    ∃ count, (∀ turn, turn < count ↔ racing.IsMade turn) ∧
      run = some ⟨(.error (.timeout name Operation.portForward.text
          (.ofMilliseconds (last - racing.start))), registry), last,
        before ++ racing.calls pod localPort port count⟩
  /-- Otherwise some attempt never comes to an end. -/
  never : racing.cancellation = none → (∀ turn, ¬ racing.Succeeds turn ()) →
    (∀ turn error, ¬ racing.Exhausts turn error) → run = none

/-- A pause of whole seconds is over after a thousand times as many milliseconds. -/
theorem Duration.milliseconds_ofSeconds (seconds : Nat) : (ofSeconds seconds).milliseconds = seconds * 1000 := by
  rw [milliseconds, ofSeconds]
  dsimp only
  omega

/-- The tries at a tunnel decide what the call for it comes to. -/
theorem Action.forwards_of_found {setup : Setup} {registry : Registry} {id : InstanceId} {workload : Instance}
    {port localPort : UInt16} {owner pod : String} {script : TunnelScript} {looks start probing finding : Nat}
    (found : registry.get? id = some workload) (started : workload.state = .started)
    (listed : port ∈ workload.tcpPorts) (owned : registry.podOwner workload = .ok owner)
    (bounded : setup.settings.portForwardAttempts ≠ 0)
    (patient : setup.settings.portForwardAttempts.toNat ≤ looks)
    (probed : script.replies .localPort = ⟨some probing, .ok localPort⟩)
    (answered : script.replies (.cluster (.firstPod owner)) = ⟨some finding, .ok pod⟩)
    {racing : Racing Error Unit} (same : racing = script.racing setup.settings (start + probing + finding))
    (begun : racing.IsInTime racing.start) (clear : racing.IsClear) :
    Forwards setup.settings workload.name registry racing (askedBefore owner start probing) pod localPort port
      ((forwardPort id port setup registry).run script.collaborators looks start []) := by
  subst same
  have allowed : setup.settings.portForwardAttempts.toNat ≠ 0 := fun none =>
    bounded (UInt32.toNat_inj.mp none)
  have ran := @run_forwardPort_of_found setup registry id workload port owner script looks start probing
    finding localPort pod found started listed owned probed answered
  have follows := @TunnelScript.answer_tunnel script setup.settings owner pod localPort port start probing
    (start + probing + finding)
  have counted {outcome : RetryOutcome Error Unit} {finish : Nat} {log : RequestLog} :=
    @Racing.exists_count_of_tries _ _ _ looks _ _ _ follows outcome finish log allowed begun clear patient
  rw [ran]
  constructor
  · intro turn
    rw [Timetable.begins_succ]
    exact congrArg _ (Duration.milliseconds_ofSeconds _)
  · intro ending ended
    rcases Option.map_eq_some_iff.mp ended with ⟨⟨outcome, finish, log⟩, tried, rfl⟩
    rcases (counted tried).1 with ⟨count, within, made, rfl⟩
    exact ⟨rfl, count, within, made, rfl⟩
  · intro turn succeeds
    rw [Racing.tries_of_succeeds follows succeeds patient]
    rfl
  · intro ending other ended yielded
    rcases Option.map_eq_some_iff.mp ended with ⟨⟨outcome, finish, log⟩, tried, rfl⟩
    cases outcome with
    | succeeded value =>
        cases yielded
        exact ⟨rfl, (counted tried).2 value rfl⟩
    | exhausted error => cases yielded
    | cancelled => cases yielded
  · intro turn error exhausts
    rw [Racing.tries_of_exhausts follows exhausts patient]
    rfl
  · intro last limited unsuccessful more
    rcases Racing.tries_of_calledOff follows allowed begun clear limited (fun turn _ => unsuccessful turn)
      more patient with ⟨count, made, same⟩
    rw [same]
    exact ⟨count, made, rfl⟩
  · intro unlimited unsuccessful more
    rw [Racing.tries_of_never follows allowed unlimited (fun turn _ => unsuccessful turn) more patient]
    rfl

/-- A started instance is asked to forward a port, with at least one attempt allowed.

If the port is not registered, the call is refused without a request, whoever is there to be asked.

If it is, and a local port is found, then a pod of the owner of the instance's pod is asked for, once.  If that
fails, so does the call.  Otherwise the tries at the tunnel begin at once, and decide what the call comes to,
provided that they are not called off before they begin or at the very instant of something else. -/
theorem forwards_of_reaches {setup : Setup} {history : List Record} {registry : Registry} {id : InstanceId}
    {workload : Instance} {port : UInt16} (reached : Reaches setup history registry)
    (found : registry.get? id = some workload) (started : workload.state = .started)
    (bounded : setup.settings.portForwardAttempts ≠ 0) :
    (port ∉ workload.tcpPorts → ∀ (σ : Type) (others : Collaborators σ) (looks start : Nat) (state : σ),
      (Action.forwardPort id port setup registry).run others looks start state =
        some ⟨(.error (workload.refuse (.portNotRegistered port)), registry), start, state⟩) ∧
    (port ∈ workload.tcpPorts → ∃ leader, registry.get? (registry.leaderOf id) = some leader ∧
      ∀ (script : TunnelScript) (looks start probing finding : Nat) (localPort : UInt16)
        (located : Except Error String),
        setup.settings.portForwardAttempts.toNat ≤ looks →
        script.replies .localPort = ⟨some probing, .ok localPort⟩ →
        script.replies (.cluster (.firstPod leader.clusterName)) = ⟨some finding, located⟩ →
        let run := (Action.forwardPort id port setup registry).run script.collaborators looks start []
        let before := askedBefore leader.clusterName start probing
        match located with
        | .error error =>
          run = some ⟨(.error (.relayed workload.name Operation.portForward.text error), registry),
            start + probing + finding, before⟩
        | .ok pod =>
          let racing := script.racing setup.settings (start + probing + finding)
          racing.IsInTime racing.start → racing.IsClear →
            Forwards setup.settings workload.name registry racing before pod localPort port run) := by
  constructor
  · intro unlisted σ others looks start state
    rw [Action.forwardPort_of_unregistered found started unlisted]
    rfl
  · intro listed
    rcases reached.invariant.1.exists_leader found with ⟨leader, there, _⟩
    have owned := (Registry.hostOf_eq_some_iff found).mp (Registry.hostOf_of_leader there)
    refine ⟨leader, there, fun script looks start probing finding localPort located patient probed answered => ?_⟩
    cases located with
    | error error => exact Action.run_forwardPort_of_failed found started listed owned probed answered
    | ok pod =>
        exact fun begun clear =>
          Action.forwards_of_found found started listed owned bounded patient probed answered rfl begun clear

/-- Collaborators that grant everything, each time after five milliseconds, but a tunnel only the second time.
Tries are called off after a minute. -/
def TunnelScript.secondTry : TunnelScript where
  replies request := ⟨some 5, Replies.agreeable request⟩
  tunnels
    | 0 => ⟨some 20, .error .unusableAnswer⟩
    | _ => ⟨some 30, .ok ()⟩
  cancellation := some 60000

/-- These tries begin before they are called off. -/
theorem secondTry_isInTime : (TunnelScript.secondTry.racing Setup.plain.settings 10).IsInTime 10 := by
  rintro last ⟨⟩
  decide

theorem secondTry_fails : (TunnelScript.secondTry.racing Setup.plain.settings 10).Fails 1 := by
  intro turn within
  obtain rfl := Nat.lt_one_iff.mp within
  exact ⟨rfl, .unusableAnswer, rfl⟩

theorem secondTry_succeeds : (TunnelScript.secondTry.racing Setup.plain.settings 10).Succeeds 1 () where
  allowed := by decide
  failed := secondTry_fails
  answers := rfl
  succeeds := rfl
  inTime := by
    rintro last ⟨⟩
    decide

theorem secondTry_isClear : (TunnelScript.secondTry.racing Setup.plain.settings 10).IsClear := by
  rintro last ⟨⟩ turn _ failed
  match turn with
  | 0 | 1 => exact ⟨by decide, fun _ => by decide⟩
  | turn + 2 =>
      rcases (failed 1 (by omega)).2 with ⟨error, impossible⟩
      cases impossible

/-- A port of a sidecar is forwarded.  The owner's pod is asked for, and the tunnel opens with the second attempt,
after a pause of five seconds. -/
theorem forwards_of_podStart :
    let ended := trial .plain .agreeable Call.podStart
    Reaches .plain ended.1 ended.2 ∧ Setup.plain.settings.portForwardAttempts ≠ 0 ∧
      (Action.forwardPort ⟨1⟩ 80 .plain ended.2).run TunnelScript.secondTry.collaborators 5 0 [] =
        some ⟨(.ok 8080, ended.2), 5060,
          [(.localPort, 0), (.cluster (.firstPod "main"), 5), (.cluster (.tunnel "main" 8080 80), 10),
            (.cluster (.tunnel "main" 8080 80), 5030)]⟩ := by
  intro ended
  have reached : Reaches .plain ended.1 ended.2 := reaches_trial .plain .agreeable Call.podStart
  have side : (ended.2.get? ⟨1⟩).map (fun member => (member.state, member.tcpPorts)) =
      some (.started, [80]) := by decide +kernel
  have host : (ended.2.get? (ended.2.leaderOf ⟨1⟩)).map Instance.clusterName = some "main" := by decide +kernel
  have bounded : Setup.plain.settings.portForwardAttempts ≠ 0 := by decide
  rcases Option.map_eq_some_iff.mp side with ⟨member, found, same⟩
  obtain ⟨started, ports⟩ : member.state = .started ∧ member.tcpPorts = [80] := by
    simpa only [Prod.mk.injEq] using same
  have listed : 80 ∈ member.tcpPorts := by
    rw [ports]
    exact List.mem_singleton_self _
  rcases (forwards_of_reaches reached found started bounded).2 listed with ⟨leader, there, decided⟩
  rw [there, Option.map_some, Option.some.injEq] at host
  have answered : TunnelScript.secondTry.replies (.cluster (.firstPod leader.clusterName)) =
      ⟨some 5, .ok "main"⟩ := by
    rw [host]
    rfl
  have forwards := decided .secondTry 5 0 5 5 8080 (.ok "main") (by decide) rfl answered
  dsimp only at forwards
  rw [host] at forwards
  exact ⟨reached, bounded, (forwards secondTry_isInTime secondTry_isClear).opened 1 secondTry_succeeds⟩

end Testbed
