/-
# The player controller

One turn of the browser's event loop at a time: a click, an event of the stream, a frame, a
timer, or a promise that settles.  Within a turn everything runs to its end, and it may nest:
an action that throws, a recovery that succeeds and a coordinator that is exhausted make
`handleEvent` call itself while the outer call still has its last steps to do.

The timers of the controller are flags, as each is replaced or cleared by its own handle; the
coordinator brings its own.  The asynchronous flows are lists of continuations, one for every
`await`.  What the browser tells in a turn, and which actions throw in it, is given with the
turn.
-/

import CameraStack.Player.Policy

namespace CameraStack.Player

open CameraStack.Lib

/-! ## State -/

/-- What the controller reads of the configuration; `joystick` says that there is one. -/
structure PlayerConfig extends Config where
  autonomousEnabled : Bool := true
  sessionTimeoutMs : ℕ := 60000
  watchdogTickMs : ℕ := 2000
  joystick : Bool := false

/-- What the controller learns in a turn.  The actions of the turn take their turns in
`throws`: each throws if it is listed with the state its transition leads to. -/
structure Surroundings where
  tabVisible : Bool := true
  elementVisible : Bool := true
  nowMs : ℕ := 0
  lastFrameAgeMs : ℕ := 0
  packetsAdvancing : Option Bool := none
  sessionAlive : Bool := true
  throws : List (List (PlayerState × ActionType)) := []

/-- A tab in view, and nothing throws. -/
def undisturbed : Surroundings := {}

/-- Where `_runConnectFlow` waits. -/
inductive ConnectStep
  | init | textRoom | listStreams | selected | watch | ensured | ensurePlaying
  deriving DecidableEq, Repr

/-- Where `_executeRecoveryAttempt` waits. -/
inductive RecoveryStep
  | iceRestart | ladder | listStreams | selected | watch | ensurePlaying | reestablished
  deriving DecidableEq, Repr

structure ConnectFlow where
  token : ℕ
  step : ConnectStep
  deriving DecidableEq

structure RecoveryFlow where
  token : ℕ
  step : RecoveryStep
  deriving DecidableEq

/-- How what a flow waits for comes back. -/
inductive FlowOutcome
  | done
  | picked (streamId : ℕ)
  | blocked
  | failed
  deriving DecidableEq

/-- The controller.  `throws` is what is left of the turn's list, `handled` the events that went
through `handleEvent`, the latest last, and `recreates` the calls of `streaming.recreate`. -/
structure Controller where
  state : PlayerState := .idle
  desiredPlaying : Bool := false
  streamId : Option ℕ := none
  iceState : String := "new"
  webrtcUp : Bool := false
  firstFrameLatch : Bool := false
  sessionToken : ℕ := 0
  degraded : Bool := false
  connectInFlight : Bool := false
  recoveryNotified : Bool := false
  tabHiddenAt : Option ℕ := none
  errorRetryTimer : Bool := false
  errorRetryCount : ℕ := 0
  watchdog : Bool := false
  iceGrace : Bool := false
  trackMutes : List String := []
  reconnect : Coordinator := {}
  connects : List ConnectFlow := []
  recoveries : List RecoveryFlow := []
  throws : List (List (PlayerState × ActionType)) := []
  handled : List Handled := []
  recreates : ℕ := 0
  deriving DecidableEq

/-- `_isPlayerHidden`. -/
def Surroundings.hidden (env : Surroundings) : Bool := !env.tabVisible || !env.elementVisible

namespace Controller

variable (cfg : PlayerConfig) (env : Surroundings)

/-- `_isConnected`. -/
def connected (p : Controller) : Bool := isConnected p.webrtcUp p.firstFrameLatch

/-- What the coordinator is answered. -/
def context (p : Controller) : Context where
  token := p.sessionToken
  shouldContinue :=
    !env.hidden && cfg.autonomousEnabled && p.desiredPlaying && decide (p.state ≠ .error)
  isRecovered := p.connected

/-- `_dropIfStale`. -/
def dropIfStale (p : Controller) (token : ℕ) : Bool :=
  !(token = p.sessionToken && p.desiredPlaying)

/-- `_buildSnapshot`. -/
def snapshot (p : Controller) : Snapshot where
  state := p.state
  generation := p.sessionToken
  reconnectAttempts :=
    if p.state = .reconnecting then max 1 p.reconnect.attempt else p.reconnect.attempt
  webrtcUp := p.webrtcUp
  firstFrameReceived := p.firstFrameLatch
  iceState := some (if p.iceState = "" then "new" else p.iceState)

/-! ## Events and actions -/

/-- `_scheduleErrorAutoRetry`. -/
def scheduleErrorAutoRetry (p : Controller) : Controller :=
  if cfg.autonomousEnabled = false then p
  else if p.errorRetryTimer then p
  else { p with errorRetryCount := p.errorRetryCount + 1, errorRetryTimer := true }

/-- `_applySnapshot`. -/
def applySnapshot (next : Snapshot) (p : Controller) : Controller :=
  let prev := p.state
  let p := { p with
    state := next.state, sessionToken := next.generation, webrtcUp := next.webrtcUp
    firstFrameLatch := next.firstFrameReceived, iceState := next.iceState.getD p.iceState }
  let p := if next.state = .error then
      scheduleErrorAutoRetry cfg { p with desiredPlaying := false } else p
  let p := if next.state = .reconnecting then { p with recoveryNotified := false } else p
  let p := if next.state = .playing ∧ prev ≠ .playing then { p with errorRetryCount := 0 } else p
  let p := if prev = .reconnecting ∧ next.state = .playing then
      { p with reconnect := p.reconnect.reset.1 } else p
  if prev = .error ∧ next.state ≠ .error then { p with errorRetryTimer := false } else p

/-- What the logs say of an event. -/
def record (event : PlayerEvent) (next : PlayerState) (p : Controller) : Controller :=
  { p with
    handled := p.handled ++
      [{ event := event, found := p.state, next := next, refused := refused event p.snapshot }] }

/-- `_startWatchdog`. -/
def startWatchdog (p : Controller) : Controller := { p with watchdog := true }

/-- `_stopAll`. -/
def stopAll (p : Controller) : Controller :=
  { p with
    watchdog := false, reconnect := p.reconnect.reset.1, iceGrace := false, trackMutes := []
    errorRetryTimer := false, degraded := false, connectInFlight := false }

/-- `_runConnectFlow` up to its first `await`. -/
def runConnectFlow (p : Controller) : Controller :=
  if p.connectInFlight then p
  else
    { p with
      connectInFlight := true
      connects := p.connects ++ [{ token := p.sessionToken, step := .init }] }

/-- The callback of an exhausted coordinator, for a call that makes no other. -/
def exhaust (fail : Controller → Controller) (signals : List Signal) (p : Controller) :
    Controller :=
  signals.foldl (fun p o =>
    match o with
    | .onExhausted _ => fail p
    | _ => p) p

/-- What an action does when it does not throw. -/
def perform (fail : Controller → Controller) (p : Controller) : PlayerAction → Controller
  | .startJanus => p.runConnectFlow
  | .startReconnectTimer reason severity =>
      let result := p.reconnect.request cfg.toConfig (p.context cfg env) (reasonOr reason "unknown")
        (severity.getD 1)
      exhaust fail result.2 { p with reconnect := result.1 }
  | .cancelAllTimers => p.stopAll
  | .armIceGrace => { p with iceGrace := true }
  | .cancelIceGrace => { p with iceGrace := false }
  | .armTrackMuteTimer trackId =>
      if trackId = "" ∨ trackId ∈ p.trackMutes then p
      else { p with trackMutes := p.trackMutes ++ [trackId] }
  | .disarmTrackMuteTimer trackId =>
      { p with trackMutes := p.trackMutes.filter fun id => id ≠ trackId }
  | .markDegraded => { p with degraded := true }
  | .startReconnectSettle =>
      if p.state = .reconnecting ∧ p.reconnect.inFlight = true then
        { p with reconnect := p.reconnect.startSettleWindow (p.context cfg env) }
      else p
  | .stopJanus | .stopStreaming | .bindStream | .log _ | .render => p

/-- `_executeActions`: a critical action that throws fails the player and ends the list. -/
def executeActions (fail : Controller → Controller) (next : PlayerState) :
    List PlayerAction → Controller → Controller
  | [], p => p
  | a :: rest, p =>
      let throwing := p.throws.headD []
      let p := { p with throws := p.throws.tail }
      if (next, a.type) ∈ throwing then
        if a.type.critical then fail p else executeActions fail next rest p
      else executeActions fail next rest (p.perform cfg env fail a)

/-- `handleEvent`, nested at most as deep as told. -/
def handleEventNested : ℕ → PlayerEvent → Option ℕ → Controller → Controller
  | 0, _, _, p => p
  | depth + 1, event, generation, p =>
      if generation.any fun g => g ≠ p.sessionToken then p
      else
        let result := gatedTransition event p.snapshot
        let fail := fun p : Controller =>
          handleEventNested depth (.forceError none) (some p.sessionToken)
            { p with desiredPlaying := false }
        let p := executeActions cfg env fail result.next.state result.actions
          ((p.record event result.next.state).applySnapshot cfg result.next)
        if result.next.state = .playing ∨ result.next.state = .connecting then p.startWatchdog
        else p

/-- `handleEvent`: every nested call but one is paid for by an action that throws. -/
def handleEvent (event : PlayerEvent) (generation : Option ℕ) (p : Controller) : Controller :=
  handleEventNested cfg env (p.throws.length + 2) event generation p

/-- `_fail`. -/
def fail (p : Controller) : Controller :=
  handleEvent cfg env (.forceError none) (some p.sessionToken) { p with desiredPlaying := false }

/-- An event of the current generation. -/
def dispatch (event : PlayerEvent) (p : Controller) : Controller :=
  handleEvent cfg env event (some p.sessionToken) p

section ApplySnapshot

variable (cfg : PlayerConfig) (p : Controller) (next : Snapshot)

@[simp] theorem applySnapshot_state : (p.applySnapshot cfg next).state = next.state := by
  simp only [applySnapshot, scheduleErrorAutoRetry, apply_ite state, ite_self]

@[simp] theorem applySnapshot_token :
    (p.applySnapshot cfg next).sessionToken = next.generation := by
  simp only [applySnapshot, scheduleErrorAutoRetry, apply_ite sessionToken, ite_self]

@[simp] theorem applySnapshot_webrtcUp : (p.applySnapshot cfg next).webrtcUp = next.webrtcUp := by
  simp only [applySnapshot, scheduleErrorAutoRetry, apply_ite webrtcUp, ite_self]

@[simp] theorem applySnapshot_firstFrameLatch :
    (p.applySnapshot cfg next).firstFrameLatch = next.firstFrameReceived := by
  simp only [applySnapshot, scheduleErrorAutoRetry, apply_ite firstFrameLatch, ite_self]

@[simp] theorem applySnapshot_handled : (p.applySnapshot cfg next).handled = p.handled := by
  simp only [applySnapshot, scheduleErrorAutoRetry, apply_ite handled, ite_self]

@[simp] theorem applySnapshot_throws : (p.applySnapshot cfg next).throws = p.throws := by
  simp only [applySnapshot, scheduleErrorAutoRetry, apply_ite throws, ite_self]

/-- Only ERROR changes what is desired. -/
theorem applySnapshot_desired : (p.applySnapshot cfg next).desiredPlaying =
    if next.state = .error then false else p.desiredPlaying := by
  simp only [applySnapshot, scheduleErrorAutoRetry, apply_ite desiredPlaying, ite_self]

/-- Only a recovery resets the coordinator. -/
theorem applySnapshot_reconnect : (p.applySnapshot cfg next).reconnect =
    if p.state = .reconnecting ∧ next.state = .playing then p.reconnect.reset.1
    else p.reconnect := by
  simp only [applySnapshot, scheduleErrorAutoRetry, apply_ite reconnect, ite_self]

end ApplySnapshot

/-- An event of the current generation is not dropped. -/
theorem handleEventNested_current {cfg : PlayerConfig} {env : Surroundings} {depth : ℕ}
    {p : Controller} (event : PlayerEvent) :
    handleEventNested cfg env (depth + 1) event (some p.sessionToken) p =
      (let result := gatedTransition event p.snapshot
      let fail := fun p : Controller =>
        handleEventNested cfg env depth (.forceError none) (some p.sessionToken)
          { p with desiredPlaying := false }
      let p := executeActions cfg env fail result.next.state result.actions
        ((p.record event result.next.state).applySnapshot cfg result.next)
      if result.next.state = .playing ∨ result.next.state = .connecting then p.startWatchdog
      else p) := by
  rw [handleEventNested, if_neg (by simp)]

/-! ## The coordinator's callbacks -/

/-- `_executeRecoveryAttempt` up to its first `await`. -/
def executeRecoveryAttempt (ctx : AttemptContext) (p : Controller) : Controller :=
  if p.dropIfStale ctx.token then p
  else
    let p := handleEvent cfg env .recoveryAttemptStarted (some ctx.token) p
    let p := { p with iceGrace := false, trackMutes := [] }
    let action :=
      if ctx.action ≠ .recreateSession ∧ env.sessionAlive = false then .recreateSession
      else ctx.action
    match action with
    | .softRestart | .reattachPlugin =>
        { p with recoveries := p.recoveries ++ [{ token := ctx.token, step := .ladder }] }
    | .iceRestart =>
        { p with recoveries := p.recoveries ++ [{ token := ctx.token, step := .iceRestart }] }
    | .recreateSession =>
        { p with
          reconnect := { p.reconnect with expectedSessionResets := 2 }
          recreates := p.recreates + 1
          recoveries := p.recoveries ++ [{ token := ctx.token, step := .ladder }] }

/-- A callback of the coordinator. -/
def signal (p : Controller) : Signal → Controller
  | .onSuccess .. => dispatch cfg env .reconnectSuccess { p with degraded := false }
  | .onExhausted _ => p.fail cfg env
  | .executeAttempt ctx => p.executeRecoveryAttempt cfg env ctx
  | .zeroed => p

/-- What the coordinator does and calls. -/
def callReconnect (p : Controller) (result : Coordinator × List Signal) : Controller :=
  result.2.foldl (signal cfg env) { p with reconnect := result.1 }

/-- An event of the coordinator. -/
def reconnectEvent (event : CoordinatorEvent) (p : Controller) : Controller :=
  p.callReconnect cfg env (p.reconnect.handle cfg.toConfig (p.context cfg env) event)

/-- `_tryNotifyRecovered`. -/
def tryNotifyRecovered (p : Controller) : Controller :=
  if p.state ≠ .reconnecting ∨ p.reconnect.inFlight = false then p
  else if p.connected = false then p
  else p.reconnectEvent cfg env .notifyRecovered

/-- `requestRecovery`. -/
def requestRecovery (reason : String) (severity : ℕ) (p : Controller) : Controller :=
  if cfg.autonomousEnabled = false then p
  else if p.desiredPlaying = false then p
  else if p.state = .error then p
  else
    p.dispatch cfg env (.reconnectScheduled (some (reasonOrUnknown reason))
      (some (max soft (min hard severity))))

/-- `_handleStreamFailure`: an attempt in flight ends, or a recovery is asked for. -/
def handleStreamFailure (reason : String) (severity : ℕ) (p : Controller) : Controller :=
  if p.state = .reconnecting ∧ p.reconnect.inFlight = true then
    p.reconnectEvent cfg env (.notifyAttemptFailed (some reason) severity)
  else p.requestRecovery cfg env reason severity

/-- `_applyPolicyDecision`. -/
def applyPolicyDecision (p : Controller) : Decision → Controller
  | .noOp => p
  | .markDegraded => p.dispatch cfg env .policyMarkDegraded
  | .requestRecovery reason severity => p.handleStreamFailure cfg env reason severity

/-- The policy is asked about a domain event, and its decision applied. -/
def applyPolicy (event : DomainEvent) (p : Controller) : Controller :=
  p.applyPolicyDecision cfg env (decidePolicy event
    { state := p.state, firstFrameReceived := p.firstFrameLatch
      desiredPlaying := p.desiredPlaying, lastFrameAgeMs := env.lastFrameAgeMs
      packetsAdvancing := env.packetsAdvancing })

/-! ## Intents and the browser -/

/-- `togglePlay`. -/
def togglePlay (p : Controller) : Controller :=
  if p.desiredPlaying then dispatch cfg env .stopRequest { p with desiredPlaying := false }
  else dispatch cfg env .playRequest { p with desiredPlaying := true }

/-- `retry`. -/
def retry (p : Controller) : Controller := dispatch cfg env .reset { p with desiredPlaying := true }

/-- The end of `init` with autoplay. -/
def autoplay (p : Controller) : Controller :=
  dispatch cfg env .playRequest { p with desiredPlaying := true }

/-- `cfg.sessionTimeoutMs || 30000`. -/
def sessionTimeout : ℕ := if cfg.sessionTimeoutMs = 0 then 30000 else cfg.sessionTimeoutMs

/-- `_onVisibilityChange`. -/
def onVisibilityChange (p : Controller) : Controller :=
  if env.tabVisible = false then { p with tabHiddenAt := some env.nowMs }
  else
    let hiddenDurationMs := match p.tabHiddenAt with
      | some hiddenAt => env.nowMs - hiddenAt
      | none => 0
    let p := { p with tabHiddenAt := none }
    match p.state with
    | .error => p.retry cfg env
    | .reconnecting =>
        let p := if hiddenDurationMs > sessionTimeout cfg ∧ p.reconnect.pending.isSome = true then
            { p with reconnect := p.reconnect.escalate hard } else p
        let p := p.reconnectEvent cfg env .resumeIfPending
        if p.reconnect.pending.isNone = true ∧ p.reconnect.inFlight = false then p.retry cfg env
        else p
    | .playing | .connecting =>
        if hiddenDurationMs > sessionTimeout cfg then
          p.requestRecovery cfg env "tab_resume_stale" hard
        else p
    | .idle => p

/-- The video element has come into view or gone. -/
def onElementVisibilityChange (visible : Bool) (p : Controller) : Controller :=
  if visible && p.state = .reconnecting then p.reconnectEvent cfg env .resumeIfPending else p

/-- `_onNetworkOnline`. -/
def onNetworkOnline (p : Controller) : Controller :=
  let p := { p with errorRetryCount := 0 }
  match p.state with
  | .error => { p with errorRetryTimer := true }
  | .reconnecting =>
      (p.reconnectEvent cfg env .reset).reconnectEvent cfg env (.request "network_restored" hard)
  | .playing =>
      if env.lastFrameAgeMs < max 1000
          ((if cfg.watchdogTickMs = 0 then 2000 else cfg.watchdogTickMs) * 2) then p
      else p.requestRecovery cfg env "network_restored" hard
  | .idle | .connecting => p

/-- The retry timer of ERROR fires. -/
def onErrorRetry (p : Controller) : Controller :=
  if p.errorRetryTimer = false then p
  else
    let p := { p with errorRetryTimer := false }
    if p.state ≠ .error then p else p.retry cfg env

/-! ## The stream -/

/-- An event of the streaming adapter, as far as the controller reads it. -/
inductive StreamEvent
  | iceState (state : String)
  | webrtcState (up : Bool) (reason : String)
  | hangup (reason : String)
  | track (on : Bool)
  | trackMuted (trackId : Option String)
  | trackUnmuted (trackId : Option String)
  | trackEnded
  | sessionReset
  | error (code : Option ℕ) (message : String)
  | streamingOfferReceived
  | other
  deriving DecidableEq

/-- CONNECTING, PLAYING and RECONNECTING report. -/
def canReport (p : Controller) : Bool := !p.state.stopped

/-- A report of the generation in which the stream event came. -/
def report (event : PlayerEvent) (p : Controller) : Controller :=
  if p.canReport then p.dispatch cfg env event else p

/-- `_onStreamEvent`. -/
def onStreamEvent (token : Option ℕ) (event : StreamEvent) (p : Controller) : Controller :=
  if token.any fun t => t ≠ p.sessionToken then p
  else if p.desiredPlaying = false ∧ p.state ≠ .connecting ∧ p.state ≠ .reconnecting then p
  else
    match event with
    | .iceState state =>
        if state = "failed" then p.report cfg env (.iceFailed (some "ice_failed") (some hard))
        else p.report cfg env (.iceReport (some state))
    | .webrtcState up reason =>
        let p := if up = true ∨ p.state ≠ .playing then p.report cfg env (.webrtcReport up) else p
        if up then p.tryNotifyRecovered cfg env else p.applyPolicy cfg env (.webrtcDown reason)
    | .hangup reason => p.applyPolicy cfg env (.hangup reason)
    | .track on => if on then p.report cfg env .trackReady else p
    | .trackMuted trackId => p.report cfg env (.trackMuted trackId)
    | .trackUnmuted trackId => p.report cfg env (.trackUnmuted trackId)
    | .trackEnded => p.applyPolicy cfg env .trackEnded
    | .sessionReset =>
        if p.state = .reconnecting ∧ p.reconnect.inFlight = true ∧
            p.reconnect.expectedSessionResets > 0 then
          p.reconnectEvent cfg env .consumeExpectedSessionReset
        else (p.report cfg env (.webrtcReport false)).applyPolicy cfg env .sessionReset
    | .error code message =>
        if code = some 460 ∨ "Already watching".toList <:+: message.toList then
          p.handleStreamFailure cfg env "already_watching" hard
        else p.applyPolicy cfg env .janusError
    | .streamingOfferReceived => p.report cfg env .streamingOfferReceived
    | .other => p

/-- `_canTransitionOnFrame`. -/
def canTransitionOnFrame (p : Controller) : Bool :=
  p.state = .connecting || (p.state = .reconnecting && p.webrtcUp)

/-- `_onFrameReceived`. -/
def onFrameReceived (p : Controller) : Controller :=
  let p := if p.firstFrameLatch = false ∧ p.webrtcUp = true ∧ p.canTransitionOnFrame = true then
      p.dispatch cfg env .firstFrameReceived else p
  if p.desiredPlaying = false ∨ p.connected = false then p
  else if p.canTransitionOnFrame = false then p
  else if p.recoveryNotified then p
  else
    (tryNotifyRecovered cfg env { p with recoveryNotified := true }).dispatch cfg env .streamRecovered

/-- `_onWatchdogTimeout`, called by the interval. -/
def onWatchdogTimeout (p : Controller) : Controller :=
  if p.watchdog = false ∨ p.desiredPlaying = false ∨ env.hidden = true then p
  else if (p.state = .connecting ∨ p.state = .playing) ∧ p.iceState ≠ "new" ∧
      p.iceState ≠ "checking" then p.applyPolicy cfg env .mediaSilenceTimeout
  else p

/-- `_onFpsDrop`, called by the interval. -/
def onFpsDrop (p : Controller) : Controller :=
  if p.watchdog = false ∨ p.desiredPlaying = false ∨ env.hidden = true then p
  else if p.state ≠ .playing ∧ p.state ≠ .connecting then p
  else p.applyPolicy cfg env .fpsDrop

/-- `_onVideoStalled`. -/
def onVideoStalled (p : Controller) : Controller :=
  if p.desiredPlaying = false ∨ env.hidden = true ∨ p.state ≠ .playing then p
  else if env.lastFrameAgeMs < 2000 then p
  else p.applyPolicy cfg env .videoStalled

/-- The ICE grace timer fires. -/
def onIceGrace (p : Controller) : Controller :=
  if p.iceGrace = false then p
  else
    let p := { p with iceGrace := false }
    if p.iceState = "disconnected" then p.applyPolicy cfg env .iceDisconnectedGraceTimeout else p

/-- The timer of a muted track fires. -/
def onTrackMute (trackId : String) (p : Controller) : Controller :=
  if trackId ∉ p.trackMutes then p
  else
    applyPolicy cfg env .trackMuteTimeout
      { p with trackMutes := p.trackMutes.filter fun id => id ≠ trackId }

/-! ## The flows -/

/-- `finally` of `_runConnectFlow`. -/
def endConnect (i : ℕ) (p : Controller) : Controller :=
  { p with connectInFlight := false, connects := p.connects.eraseIdx i }

/-- The flow waits again. -/
def awaitConnect (i token : ℕ) (step : ConnectStep) (p : Controller) : Controller :=
  { p with connects := p.connects.set i { token := token, step := step } }

/-- `_ensureStreamSelected`, in `_ensureSessionAndWatch`. -/
def connectSelect (i token : ℕ) (p : Controller) : Controller :=
  p.awaitConnect i token (if p.streamId.isSome then .selected else .listStreams)

/-- `_runConnectFlow` goes on: what it waits for has come back. -/
def connectContinues (i : ℕ) (outcome : FlowOutcome) (p : Controller) : Controller :=
  match p.connects[i]? with
  | none => p
  | some flow =>
      let stale := p.dropIfStale flow.token
      match flow.step, outcome with
      | .ensured, _ =>
          if stale then p.endConnect i else p.awaitConnect i flow.token .ensurePlaying
      | .ensurePlaying, .blocked =>
          if stale then p.endConnect i else (p.fail cfg env).endConnect i
      | _, .failed => if stale then p.endConnect i else (p.fail cfg env).endConnect i
      | .ensurePlaying, _ =>
          if stale then p.endConnect i else p.startWatchdog.endConnect i
      | .listStreams, .picked streamId =>
          { p with streamId := some streamId }.awaitConnect i flow.token .selected
      | .init, _ =>
          if stale then p.awaitConnect i flow.token .ensured
          else if cfg.joystick then p.awaitConnect i flow.token .textRoom
          else p.connectSelect i flow.token
      | .textRoom, _ =>
          if stale then p.awaitConnect i flow.token .ensured else p.connectSelect i flow.token
      | .selected, _ =>
          p.awaitConnect i flow.token (if stale then .ensured else .watch)
      | .watch, _ => p.awaitConnect i flow.token .ensured
      | .listStreams, _ => p

/-- The attempt's promise settles. -/
def endRecovery (i : ℕ) (p : Controller) : Controller :=
  { p with recoveries := p.recoveries.eraseIdx i }

/-- The attempt waits again. -/
def awaitRecovery (i token : ℕ) (step : RecoveryStep) (p : Controller) : Controller :=
  { p with recoveries := p.recoveries.set i { token := token, step := step } }

/-- `_executeRecoveryAttempt` goes on. -/
def recoveryContinues (i : ℕ) (outcome : FlowOutcome) (p : Controller) : Controller :=
  match p.recoveries[i]? with
  | none => p
  | some flow =>
      let stale := p.dropIfStale flow.token
      match flow.step, outcome with
      | .iceRestart, .failed =>
          { p with
            reconnect := { p.reconnect with expectedSessionResets := 2 }
            recreates := p.recreates + 1 }.awaitRecovery i flow.token .ladder
      | .reestablished, _ =>
          if stale then p.endRecovery i else p.startWatchdog.endRecovery i
      | _, .failed => p.endRecovery i
      | .listStreams, .picked streamId =>
          { p with streamId := some streamId }.awaitRecovery i flow.token .selected
      | .iceRestart, _ | .ladder, _ =>
          if stale then p.endRecovery i
          else
            p.awaitRecovery i flow.token (if p.streamId.isSome then .selected else .listStreams)
      | .selected, _ =>
          p.awaitRecovery i flow.token (if stale then .reestablished else .watch)
      | .watch, _ =>
          p.awaitRecovery i flow.token (if stale then .reestablished else .ensurePlaying)
      | .ensurePlaying, _ => p.awaitRecovery i flow.token .reestablished
      | .listStreams, _ => p

end Controller

/-! ## Turns -/

/-- What a turn begins with. -/
inductive PlayerInput
  | autoplay
  | togglePlay
  | retry
  | streamEvent (token : Option ℕ) (event : Controller.StreamEvent)
  | frame
  | videoStalled
  | watchdogTimeout
  | fpsDrop
  | iceGrace
  | trackMute (trackId : String)
  | visibilityChange
  | elementVisibilityChange (visible : Bool)
  | networkOnline
  | errorRetry
  | connect (i : ℕ) (outcome : FlowOutcome)
  | recovery (i : ℕ) (outcome : FlowOutcome)
  | reconnectTimer (id : ℕ)
  | healthCheck (chain : ℕ) (ok : Bool)
  | raceSettled (chain : ℕ) (result : Settlement)
  deriving DecidableEq

/-- A turn runs to its end. -/
def Controller.turn (cfg : PlayerConfig) (env : Surroundings) (p : Controller) :
    PlayerInput → Controller
  | .autoplay => p.autoplay cfg env
  | .togglePlay => p.togglePlay cfg env
  | .retry => p.retry cfg env
  | .streamEvent token event => p.onStreamEvent cfg env token event
  | .frame => p.onFrameReceived cfg env
  | .videoStalled => p.onVideoStalled cfg env
  | .watchdogTimeout => p.onWatchdogTimeout cfg env
  | .fpsDrop => p.onFpsDrop cfg env
  | .iceGrace => p.onIceGrace cfg env
  | .trackMute trackId => p.onTrackMute cfg env trackId
  | .visibilityChange => p.onVisibilityChange cfg env
  | .elementVisibilityChange visible => p.onElementVisibilityChange cfg env visible
  | .networkOnline => p.onNetworkOnline cfg env
  | .errorRetry => p.onErrorRetry cfg env
  | .connect i outcome => p.connectContinues cfg env i outcome
  | .recovery i outcome => p.recoveryContinues i outcome
  | .reconnectTimer id => p.reconnectEvent cfg env (.timer id)
  | .healthCheck chain ok => p.reconnectEvent cfg env (.healthCheck chain ok)
  | .raceSettled chain result => p.reconnectEvent cfg env (.raceSettled chain result)

/-- The controller, turn after turn. -/
def playerMachine (cfg : PlayerConfig) : Machine Controller (Surroundings × PlayerInput) Unit where
  step p turn := (Controller.turn cfg turn.1 { p with throws := turn.1.throws } turn.2, [])

end CameraStack.Player
