/-
# The reconnect coordinator of the player

The coordinator owns the reconnects of a player: a request waits for its backoff timer, a
health check may come next, then an attempt is executed and has to settle in time.  It keeps
its place in a counter, a flag and three timer handles; whatever is still on its way, a timer,
a health check or a promise, comes back later and continues where its closure left off.

Each continuation is an event here, and so is each call of the controller.  What the
coordinator asks the controller for while it runs travels with the event.  The three callbacks
it makes on success, on exhaustion and for an attempt are its last acts before it returns or
waits, so what the controller calls from within them are further events.  Timers fire at any
time, and delays are left out.
-/

import CameraStack.Lib.Machine

namespace CameraStack.Player

open CameraStack.Lib

/-! ## Recovery actions -/

/-- `RecoveryAction`. -/
inductive RecoveryAction
  | softRestart | reattachPlugin | recreateSession | iceRestart
  deriving DecidableEq, Repr

/-- `RecoverySeverity.SOFT`. -/
def soft : ℕ := 1

@[inherit_doc soft]
def medium : ℕ := 2

@[inherit_doc soft]
def hard : ℕ := 3

/-- What the coordinator reads of the configuration. -/
structure Config where
  maxReconnectAttempts : ℕ := 12
  healthCheckBeforeReconnect : Bool := true
  maxIceRestartAttempts : ℕ := 2
  maxWatchRetries : ℕ := 1
  maxReattachRetries : ℕ := 1

/-- `decideRecoveryAction`. -/
def decideRecoveryAction (attempt severity : ℕ) (cfg : Config) : RecoveryAction :=
  let attempt := max 1 attempt
  let severity := max soft (min hard severity)
  if severity ≥ hard then
    if attempt ≤ cfg.maxIceRestartAttempts then .iceRestart else .recreateSession
  else if attempt ≤ cfg.maxWatchRetries then .softRestart
  else if attempt ≤ cfg.maxWatchRetries + cfg.maxReattachRetries then .reattachPlugin
  else .recreateSession

/-! ## State -/

/-- What the controller answers: `getToken`, `shouldContinue` and `isRecovered`. -/
structure Context where
  token : ℕ
  shouldContinue : Bool
  isRecovered : Bool := false

/-- The answers of a controller that is to play, in a tab that is in view. -/
def inView : Context := { token := 1, shouldContinue := true }

/-- The recovery that was asked for. -/
structure Pending where
  reason : String
  severity : ℕ
  deriving DecidableEq

/-- The three timers of the coordinator. -/
inductive TimerKind
  | backoff | settleStart | settle
  deriving DecidableEq, Repr

/-- An armed timer with the token its closure holds, and the chain it belongs to: the
backoff timer a chain begins with gives it its number. -/
structure Timer where
  id : ℕ
  chain : ℕ
  token : ℕ
  kind : TimerKind
  deriving DecidableEq

/-- A continuation that waits for a promise. -/
structure Awaiting where
  chain : ℕ
  token : ℕ
  deriving DecidableEq

/-- The coordinator, with the armed timers, the health checks and the attempts that have not
come back.  `running` is not in the code: the attempts that have begun and not ended. -/
structure Coordinator where
  attempt : ℕ := 0
  pending : Option Pending := none
  scheduleTimer : Option ℕ := none
  settleStartTimer : Option ℕ := none
  settleTimer : Option ℕ := none
  inFlight : Bool := false
  expectedSessionResets : ℕ := 0
  timers : List Timer := []
  checks : List Awaiting := []
  races : List Awaiting := []
  running : List ℕ := []
  nextId : ℕ := 0
  deriving DecidableEq

/-- What `executeAttempt` is called with. -/
structure AttemptContext where
  attempt : ℕ
  action : RecoveryAction
  reason : String
  severity : ℕ
  token : ℕ
  deriving DecidableEq

/-- What a step does to the outside; `zeroed` notes that the counter was set to zero. -/
inductive Signal
  | executeAttempt (ctx : AttemptContext)
  | onSuccess (attempt token : ℕ)
  | onExhausted (pending : Pending)
  | zeroed
  deriving DecidableEq

/-- How a raced `executeAttempt` ends. -/
inductive Settlement
  | resolved | rejected | timedOut
  deriving DecidableEq, Repr

/-- A call of the controller, a timer that fires, or a promise that settles. -/
inductive CoordinatorEvent
  | request (reason : String) (severity : ℕ)
  | notifyAttemptFailed (reason : Option String) (severity : ℕ)
  | notifyRecovered
  | startSettleWindow
  | escalateSeverity (severity : ℕ)
  | resumeIfPending
  | expectSessionResetFromRecreate
  | consumeExpectedSessionReset
  | reset
  | timer (id : ℕ)
  | healthCheck (chain : ℕ) (ok : Bool)
  | raceSettled (chain : ℕ) (result : Settlement)
  deriving DecidableEq

/-! ## The operations -/

/-- `Number(severity) || 1`. -/
def severityOr1 (severity : ℕ) : ℕ := if severity = 0 then 1 else severity

/-- `String(reason || 'unknown')`. -/
def reasonOrUnknown (reason : String) : String := if reason = "" then "unknown" else reason

namespace Coordinator

variable (cfg : Config) (ctx : Context)

/-- `clearTimeout`. -/
def disarm (s : Coordinator) (id : ℕ) : Coordinator :=
  { s with timers := s.timers.filter fun t => t.id ≠ id }

def clearScheduleTimer (s : Coordinator) : Coordinator :=
  match s.scheduleTimer with
  | none => s
  | some id => { s.disarm id with scheduleTimer := none }

def clearSettleStartTimer (s : Coordinator) : Coordinator :=
  match s.settleStartTimer with
  | none => s
  | some id => { s.disarm id with settleStartTimer := none }

def clearSettleTimer (s : Coordinator) : Coordinator :=
  match s.settleTimer with
  | none => s
  | some id => { s.disarm id with settleTimer := none }

/-- `_clearTimers`. -/
def clearTimers (s : Coordinator) : Coordinator :=
  s.clearScheduleTimer.clearSettleStartTimer.clearSettleTimer

/-- `setTimeout` of a new chain, of the start of its settle window, or of the window. -/
def arm (s : Coordinator) (kind : TimerKind) (chain token : ℕ) : Coordinator :=
  { s with
    timers := s.timers ++ [{ id := s.nextId, chain := chain, token := token, kind := kind }]
    scheduleTimer := if kind = .backoff then some s.nextId else s.scheduleTimer
    settleStartTimer := if kind = .settleStart then some s.nextId else s.settleStartTimer
    settleTimer := if kind = .settle then some s.nextId else s.settleTimer
    nextId := s.nextId + 1 }

/-- Clearing a timer changes the timers and its handle. -/
theorem clearScheduleTimer_eq (s : Coordinator) : s.clearScheduleTimer =
    { s with timers := s.clearScheduleTimer.timers, scheduleTimer := none } := by
  cases s with
  | mk attempt pending scheduleTimer => cases scheduleTimer <;> rfl

theorem clearSettleStartTimer_eq (s : Coordinator) : s.clearSettleStartTimer =
    { s with timers := s.clearSettleStartTimer.timers, settleStartTimer := none } := by
  cases s with
  | mk attempt pending scheduleTimer settleStartTimer => cases settleStartTimer <;> rfl

theorem clearSettleTimer_eq (s : Coordinator) : s.clearSettleTimer =
    { s with timers := s.clearSettleTimer.timers, settleTimer := none } := by
  cases s with
  | mk attempt pending scheduleTimer settleStartTimer settleTimer => cases settleTimer <;> rfl

theorem clearTimers_eq (s : Coordinator) : s.clearTimers =
    { s with
      timers := s.clearTimers.timers, scheduleTimer := none, settleStartTimer := none
      settleTimer := none } := by
  unfold clearTimers
  rw [clearSettleTimer_eq, clearSettleStartTimer_eq, clearScheduleTimer_eq]

/-- The pending recovery at least as severe as told. -/
def escalate (s : Coordinator) (severity : ℕ) : Coordinator :=
  { s with pending := s.pending.map fun p => { p with severity := max p.severity severity } }

/-- The pending recovery with one more reason. -/
def record (s : Coordinator) (reason : String) (severity : ℕ) : Coordinator :=
  let reason := reasonOrUnknown reason
  let severity := severityOr1 severity
  { s with
    pending := match s.pending with
      | none => some { reason := reason, severity := severity }
      | some p => some { reason := reason, severity := max p.severity severity } }

/-- `_scheduleNext`. -/
def scheduleNext (s : Coordinator) : Coordinator × List Signal :=
  match s.pending with
  | none => (s, [])
  | some pending =>
      if ctx.shouldContinue = false then (s, [])
      else if s.attempt ≥ cfg.maxReconnectAttempts then (s, [.onExhausted pending])
      else (s.arm .backoff s.nextId ctx.token, [])

/-- A request calls for nothing but an end. -/
theorem scheduleNext_signals (cfg : Config) (ctx : Context) (s : Coordinator) :
    (s.scheduleNext cfg ctx).2 = [] ∨
      ∃ pending, (s.scheduleNext cfg ctx).2 = [.onExhausted pending] := by
  unfold scheduleNext
  cases s.pending with
  | none => exact .inl rfl
  | some pending =>
      simp only
      split_ifs
      · exact .inl rfl
      · exact .inr ⟨pending, rfl⟩
      · exact .inl rfl

/-- Nothing is scheduled with nothing pending, or where the controller says no. -/
theorem scheduleNext_blocked {cfg : Config} {ctx : Context} {s : Coordinator}
    (h : s.pending = none ∨ ctx.shouldContinue = false) :
    s.scheduleNext cfg ctx = (s, []) := by
  unfold scheduleNext
  rcases h with hnone | hstop
  · rw [hnone]
  · cases s.pending with
    | none => rfl
    | some pending => exact if_pos hstop

/-- `request`. -/
def request (reason : String) (severity : ℕ) (s : Coordinator) : Coordinator × List Signal :=
  let s := s.record reason severity
  if ctx.shouldContinue = false then (s, [])
  else if s.inFlight || s.scheduleTimer.isSome then (s, [])
  else s.scheduleNext cfg ctx

@[inherit_doc scheduleNext_signals]
theorem request_signals (s : Coordinator) (cfg : Config) (ctx : Context) (reason : String)
    (severity : ℕ) : (s.request cfg ctx reason severity).2 = [] ∨
      ∃ pending, (s.request cfg ctx reason severity).2 = [.onExhausted pending] := by
  rw [request]
  split_ifs
  · exact .inl rfl
  · exact .inl rfl
  · exact scheduleNext_signals cfg ctx _

/-- `resumeIfPending`. -/
def resumeIfPending (s : Coordinator) : Coordinator × List Signal :=
  if s.inFlight || s.scheduleTimer.isSome then (s, [])
  else if s.pending.isSome && ctx.shouldContinue then s.scheduleNext cfg ctx
  else (s, [])

/-- `notifyRecovered`. -/
def notifyRecovered (s : Coordinator) : Coordinator × List Signal :=
  if s.inFlight = false || s.settleTimer.isNone then (s, [])
  else
    ({ s.clearSettleTimer.clearTimers with
        attempt := 0, pending := none, inFlight := false, running := [] },
      [.zeroed, .onSuccess s.attempt ctx.token])

/-- `notifyAttemptFailed`. -/
def notifyAttemptFailed (reason : Option String) (severity : ℕ) (s : Coordinator) :
    Coordinator × List Signal :=
  if s.inFlight = false then (s, [])
  else
    let s := match reason with
      | none => s
      | some r => s.record r severity
    scheduleNext cfg ctx { s.clearTimers with inFlight := false, running := [] }

@[inherit_doc scheduleNext_signals]
theorem notifyAttemptFailed_signals (s : Coordinator) (cfg : Config) (ctx : Context)
    (reason : Option String) (severity : ℕ) :
    (s.notifyAttemptFailed cfg ctx reason severity).2 = [] ∨
      ∃ pending, (s.notifyAttemptFailed cfg ctx reason severity).2 = [.onExhausted pending] := by
  unfold notifyAttemptFailed
  split_ifs
  · exact .inl rfl
  · exact scheduleNext_signals cfg ctx _

/-- `startSettleWindow`, for the attempt that has begun last. -/
def startSettleWindow (s : Coordinator) : Coordinator :=
  if s.inFlight = false || s.settleTimer.isSome then s
  else s.clearSettleStartTimer.arm .settle (s.running.headD 0) ctx.token

/-- `reset`. -/
def reset (s : Coordinator) : Coordinator × List Signal :=
  ({ s.clearTimers with attempt := 0, pending := none, inFlight := false, running := [] },
    [.zeroed])

/-- The second half of `_runScheduled`: the attempt begins. -/
def runAttempt (a : Awaiting) (s : Coordinator) : Coordinator × List Signal :=
  let attempt := s.attempt + 1
  let pending := s.pending.getD { reason := "unknown", severity := 1 }
  ({ s with
      inFlight := true, attempt := attempt
      races := a :: s.races, running := a.chain :: s.running },
    [.executeAttempt
      { attempt := attempt
        action := decideRecoveryAction attempt pending.severity cfg
        reason := pending.reason, severity := pending.severity, token := a.token }])

/-- The first half of `_runScheduled`, up to the health check. -/
def runScheduled (a : Awaiting) (s : Coordinator) : Coordinator × List Signal :=
  let s := s.clearScheduleTimer
  if ctx.shouldContinue = false then (s, [])
  else if a.token ≠ ctx.token then (s, [])
  else if s.inFlight then (s, [])
  else if ctx.isRecovered then
    ({ s.clearTimers with attempt := 0, pending := none },
      [.zeroed, .onSuccess s.attempt a.token])
  else if cfg.healthCheckBeforeReconnect then ({ s with checks := a :: s.checks }, [])
  else s.runAttempt cfg a

/-- The health check has come back. -/
def healthChecked (a : Awaiting) (ok : Bool) (s : Coordinator) : Coordinator × List Signal :=
  if ok then s.runAttempt cfg a else s.scheduleNext cfg ctx

/-- The attempt of a chain ends. -/
def endAttempt (chain : ℕ) (s : Coordinator) : Coordinator :=
  { s with inFlight := false, running := s.running.erase chain }

/-- The raced `executeAttempt` has settled. -/
def attemptSettled (a : Awaiting) (result : Settlement) (s : Coordinator) :
    Coordinator × List Signal :=
  let s := s.clearSettleStartTimer
  match result with
  | .resolved =>
      if s.settleTimer.isSome then (s, []) else (s.arm .settleStart a.chain a.token, [])
  | .rejected => (s.endAttempt a.chain).scheduleNext cfg ctx
  | .timedOut => ((s.escalate hard).endAttempt a.chain).scheduleNext cfg ctx

/-- The offer has not come in time. -/
def settleStartTimeout (a : Awaiting) (s : Coordinator) : Coordinator × List Signal :=
  let s := { s with settleStartTimer := none }
  if s.settleTimer.isSome then (s, [])
  else if a.token ≠ ctx.token then (s, [])
  else if ctx.shouldContinue = false then (s.endAttempt a.chain, [])
  else ((s.escalate hard).endAttempt a.chain).scheduleNext cfg ctx

/-- `_onSettle`, with the handle cleared before. -/
def onSettle (a : Awaiting) (s : Coordinator) : Coordinator × List Signal :=
  let s := { s with settleTimer := none }
  if ctx.shouldContinue = false then (s.endAttempt a.chain, [])
  else if a.token ≠ ctx.token then (s.endAttempt a.chain, [])
  else ((s.escalate hard).endAttempt a.chain).scheduleNext cfg ctx

/-- A timer fires. -/
def fire (t : Timer) (s : Coordinator) : Coordinator × List Signal :=
  let a : Awaiting := { chain := t.chain, token := t.token }
  let s := s.disarm t.id
  match t.kind with
  | .backoff => s.runScheduled cfg ctx a
  | .settleStart => s.settleStartTimeout cfg ctx a
  | .settle => s.onSettle cfg ctx a

/-- One event; a timer that is not armed and a promise that is not awaited do nothing. -/
def handle (s : Coordinator) : CoordinatorEvent → Coordinator × List Signal
  | .request reason severity => s.request cfg ctx reason severity
  | .notifyAttemptFailed reason severity => s.notifyAttemptFailed cfg ctx reason severity
  | .notifyRecovered => s.notifyRecovered ctx
  | .startSettleWindow => (s.startSettleWindow ctx, [])
  | .escalateSeverity severity => (s.escalate (severityOr1 severity), [])
  | .resumeIfPending => s.resumeIfPending cfg ctx
  | .expectSessionResetFromRecreate => ({ s with expectedSessionResets := 2 }, [])
  | .consumeExpectedSessionReset =>
      ({ s with expectedSessionResets := s.expectedSessionResets - 1 }, [])
  | .reset => s.reset
  | .timer id =>
      match s.timers.find? fun t => t.id = id with
      | none => (s, [])
      | some t => s.fire cfg ctx t
  | .healthCheck chain ok =>
      match s.checks.find? fun a => a.chain = chain with
      | none => (s, [])
      | some a => healthChecked cfg ctx a ok { s with checks := s.checks.erase a }
  | .raceSettled chain result =>
      match s.races.find? fun a => a.chain = chain with
      | none => (s, [])
      | some a => attemptSettled cfg ctx a result { s with races := s.races.erase a }

end Coordinator

/-- The coordinator, event after event. -/
def coordinatorMachine (cfg : Config) :
    Machine Coordinator (Context × CoordinatorEvent) Signal where
  step s e := s.handle cfg e.1 e.2

end CameraStack.Player
