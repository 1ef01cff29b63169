/-
# What the controller expects of a recreate

The coordinator keeps a count of the session resets that are expected.  Nothing but the recreate of
a recovery attempt raises it, to two, and nothing but a reset that comes while an attempt is in
flight lowers it: not the end of the attempt, not a reset of the coordinator, and no event that the
state machine handles.
-/

import CameraStack.Player.Controller

namespace CameraStack.Player

open CameraStack.Lib

/-! ## The coordinator -/

/-- The signal does not call for an attempt. -/
def Signal.calm : Signal → Bool
  | .executeAttempt _ => false
  | _ => true

/-- The events behind which an attempt may begin. -/
def CoordinatorEvent.attempts : CoordinatorEvent → Bool
  | .timer _ | .healthCheck .. => true
  | _ => false

/-- The events that are about expected resets. -/
def CoordinatorEvent.expects : CoordinatorEvent → Bool
  | .expectSessionResetFromRecreate | .consumeExpectedSessionReset => true
  | _ => false

namespace Coordinator

variable {cfg : Config} {ctx : Context} {s : Coordinator}

@[simp] theorem clearScheduleTimer_expected :
    s.clearScheduleTimer.expectedSessionResets = s.expectedSessionResets := by
  rw [clearScheduleTimer_eq]

@[simp] theorem clearSettleStartTimer_expected :
    s.clearSettleStartTimer.expectedSessionResets = s.expectedSessionResets := by
  rw [clearSettleStartTimer_eq]

@[simp] theorem clearSettleTimer_expected :
    s.clearSettleTimer.expectedSessionResets = s.expectedSessionResets := by
  rw [clearSettleTimer_eq]

@[simp] theorem clearTimers_expected :
    s.clearTimers.expectedSessionResets = s.expectedSessionResets := by
  rw [clearTimers_eq]

@[simp] theorem scheduleNext_expected :
    (s.scheduleNext cfg ctx).1.expectedSessionResets = s.expectedSessionResets := by
  unfold scheduleNext
  cases s.pending with
  | none => rfl
  | some pending =>
      simp only
      split_ifs
      · rfl
      · rfl
      · rfl

@[simp] theorem request_expected (reason : String) (severity : ℕ) :
    (s.request cfg ctx reason severity).1.expectedSessionResets = s.expectedSessionResets := by
  rw [request]
  split_ifs
  · rfl
  · rfl
  · exact scheduleNext_expected

@[simp] theorem reset_expected : s.reset.1.expectedSessionResets = s.expectedSessionResets :=
  clearTimers_expected

@[simp] theorem startSettleWindow_expected :
    (s.startSettleWindow ctx).expectedSessionResets = s.expectedSessionResets := by
  rw [startSettleWindow]
  split_ifs
  · rfl
  · exact clearSettleStartTimer_expected

theorem runScheduled_expected (a : Awaiting) :
    (s.runScheduled cfg ctx a).1.expectedSessionResets = s.expectedSessionResets := by
  rw [runScheduled]
  split_ifs
  · exact clearScheduleTimer_expected
  · exact clearScheduleTimer_expected
  · exact clearScheduleTimer_expected
  · exact clearTimers_expected.trans clearScheduleTimer_expected
  · exact clearScheduleTimer_expected
  · exact clearScheduleTimer_expected

theorem settleStartTimeout_expected (a : Awaiting) :
    (s.settleStartTimeout cfg ctx a).1.expectedSessionResets = s.expectedSessionResets := by
  rw [settleStartTimeout]
  split_ifs
  · rfl
  · rfl
  · rfl
  · exact scheduleNext_expected

theorem onSettle_expected (a : Awaiting) :
    (s.onSettle cfg ctx a).1.expectedSessionResets = s.expectedSessionResets := by
  rw [onSettle]
  split_ifs
  · rfl
  · rfl
  · exact scheduleNext_expected

theorem attemptSettled_expected (a : Awaiting) (result : Settlement) :
    (s.attemptSettled cfg ctx a result).1.expectedSessionResets = s.expectedSessionResets := by
  unfold attemptSettled
  cases result with
  | resolved =>
      simp only
      split_ifs
      · exact clearSettleStartTimer_expected
      · exact clearSettleStartTimer_expected
  | rejected => exact scheduleNext_expected.trans clearSettleStartTimer_expected
  | timedOut => exact scheduleNext_expected.trans clearSettleStartTimer_expected

theorem notifyAttemptFailed_expected (reason : Option String) (severity : ℕ) :
    (s.notifyAttemptFailed cfg ctx reason severity).1.expectedSessionResets =
      s.expectedSessionResets := by
  unfold notifyAttemptFailed
  split_ifs
  · rfl
  · cases reason with
    | none => exact scheduleNext_expected.trans clearTimers_expected
    | some r => exact scheduleNext_expected.trans clearTimers_expected

/-- Other events leave the count as it is. -/
theorem handle_expected {e : CoordinatorEvent} (h : e.expects = false) :
    (s.handle cfg ctx e).1.expectedSessionResets = s.expectedSessionResets := by
  cases e with
  | request reason severity => exact request_expected reason severity
  | notifyAttemptFailed reason severity => exact notifyAttemptFailed_expected reason severity
  | notifyRecovered =>
      rw [handle, notifyRecovered]
      split_ifs
      · rfl
      · exact clearTimers_expected.trans clearSettleTimer_expected
  | startSettleWindow => exact startSettleWindow_expected
  | escalateSeverity => rfl
  | resumeIfPending =>
      rw [handle, resumeIfPending]
      split_ifs
      · rfl
      · exact scheduleNext_expected
      · rfl
  | reset => exact reset_expected
  | timer id =>
      rw [handle]
      cases s.timers.find? fun t => t.id = id with
      | none => rfl
      | some t =>
          simp only [fire]
          cases t.kind with
          | backoff => exact runScheduled_expected _
          | settleStart => exact settleStartTimeout_expected _
          | settle => exact onSettle_expected _
  | healthCheck chain ok =>
      rw [handle]
      cases s.checks.find? fun a => a.chain = chain with
      | none => rfl
      | some a =>
          simp only [healthChecked]
          split_ifs
          · rfl
          · exact scheduleNext_expected
  | raceSettled chain result =>
      rw [handle]
      cases s.races.find? fun a => a.chain = chain with
      | none => rfl
      | some a => exact attemptSettled_expected a result
  | expectSessionResetFromRecreate | consumeExpectedSessionReset => cases h

theorem scheduleNext_calm : ∀ o ∈ (s.scheduleNext cfg ctx).2, o.calm = true := by
  rcases scheduleNext_signals cfg ctx s with hnone | ⟨pending, hend⟩
  · simp [hnone]
  · simp [hend, Signal.calm]

/-- An event calls for an attempt or for nothing of the kind. -/
theorem handle_signals (cfg : Config) (ctx : Context) (s : Coordinator) (e : CoordinatorEvent) :
    (∀ o ∈ (s.handle cfg ctx e).2, o.calm = true) ∨
      e.attempts = true ∧ ∃ attempt, (s.handle cfg ctx e).2 = [.executeAttempt attempt] := by
  cases e with
  | request reason severity =>
      refine .inl ?_
      rw [handle]
      rcases s.request_signals cfg ctx reason severity with hnone | ⟨pending, hend⟩
      · simp [hnone]
      · simp [hend, Signal.calm]
  | notifyAttemptFailed reason severity =>
      refine .inl ?_
      rw [handle]
      rcases s.notifyAttemptFailed_signals cfg ctx reason severity with hnone | ⟨pending, hend⟩
      · simp [hnone]
      · simp [hend, Signal.calm]
  | notifyRecovered =>
      rw [handle, notifyRecovered]
      split_ifs
      · exact .inl (by simp)
      · exact .inl (by simp [Signal.calm])
  | startSettleWindow | escalateSeverity | expectSessionResetFromRecreate
  | consumeExpectedSessionReset => exact .inl (by simp [handle])
  | reset => exact .inl (by simp [handle, reset, Signal.calm])
  | resumeIfPending =>
      rw [handle, resumeIfPending]
      split_ifs
      · exact .inl (by simp)
      · exact .inl scheduleNext_calm
      · exact .inl (by simp)
  | timer id =>
      rw [handle]
      cases s.timers.find? fun t => t.id = id with
      | none => exact .inl (by simp)
      | some t =>
          simp only [fire]
          cases t.kind with
          | backoff =>
              simp only [runScheduled]
              split_ifs
              · exact .inl (by simp)
              · exact .inl (by simp)
              · exact .inl (by simp)
              · exact .inl (by simp [Signal.calm])
              · exact .inl (by simp)
              · exact .inr ⟨rfl, _, rfl⟩
          | settleStart =>
              simp only [settleStartTimeout]
              split_ifs
              · exact .inl (by simp)
              · exact .inl (by simp)
              · exact .inl (by simp)
              · exact .inl scheduleNext_calm
          | settle =>
              simp only [onSettle]
              split_ifs
              · exact .inl (by simp)
              · exact .inl (by simp)
              · exact .inl scheduleNext_calm
  | healthCheck chain ok =>
      rw [handle]
      cases s.checks.find? fun a => a.chain = chain with
      | none => exact .inl (by simp)
      | some a =>
          simp only [healthChecked]
          split_ifs
          · exact .inr ⟨rfl, _, rfl⟩
          · exact .inl scheduleNext_calm
  | raceSettled chain result =>
      rw [handle]
      cases s.races.find? fun a => a.chain = chain with
      | none => exact .inl (by simp)
      | some a =>
          simp only [attemptSettled]
          cases result with
          | resolved =>
              simp only
              split_ifs
              · exact .inl (by simp)
              · exact .inl (by simp)
          | rejected | timedOut => exact .inl scheduleNext_calm

end Coordinator

namespace Controller

variable (cfg : PlayerConfig) (env : Surroundings) {p : Controller}

/-- How many resets are expected, and how often `streaming.recreate` was called. -/
def tally (p : Controller) : ℕ × ℕ := (p.reconnect.expectedSessionResets, p.recreates)

/-- A recovery attempt calls `streaming.recreate` in between, and expects its resets. -/
def Recreated (p q : Controller) : Prop := q.tally = (2, p.recreates + 1)

theorem tally_of_reconnect {s : Coordinator}
    (h : s.expectedSessionResets = p.reconnect.expectedSessionResets) :
    tally { p with reconnect := s } = p.tally :=
  congrArg (·, p.recreates) h

/-! ## Events and actions -/

section Actions

variable {fail : Controller → Controller}

theorem tally_perform (hfail : ∀ q, (fail q).tally = q.tally) (a : PlayerAction) :
    (p.perform cfg env fail a).tally = p.tally := by
  cases a with
  | startJanus =>
      rw [perform, runConnectFlow]
      split_ifs
      · rfl
      · rfl
  | startReconnectTimer reason severity =>
      rw [perform]
      have hrequest : tally { p with
          reconnect := (p.reconnect.request cfg.toConfig (p.context cfg env)
            (reasonOr reason "unknown") (severity.getD 1)).1 } = p.tally :=
        tally_of_reconnect (Coordinator.request_expected _ _)
      rcases p.reconnect.request_signals cfg.toConfig (p.context cfg env)
          (reasonOr reason "unknown") (severity.getD 1) with hnone | ⟨pending, hend⟩
      · rw [hnone]
        exact hrequest
      · rw [hend]
        exact (hfail _).trans hrequest
  | cancelAllTimers => exact tally_of_reconnect Coordinator.reset_expected
  | armTrackMuteTimer trackId =>
      rw [perform]
      split_ifs
      · rfl
      · rfl
  | startReconnectSettle =>
      rw [perform]
      split_ifs
      · exact tally_of_reconnect Coordinator.startSettleWindow_expected
      · rfl
  | stopJanus | stopStreaming | log | render | armIceGrace | cancelIceGrace
  | disarmTrackMuteTimer | markDegraded | bindStream => rfl

theorem tally_executeActions (hfail : ∀ q, (fail q).tally = q.tally) (next : PlayerState)
    (actions : List PlayerAction) :
    (executeActions cfg env fail next actions p).tally = p.tally := by
  induction actions generalizing p with
  | nil => rfl
  | cons a rest ih =>
      have htail : tally { p with throws := p.throws.tail } = p.tally := rfl
      rw [executeActions]
      split_ifs
      · exact (hfail _).trans htail
      · exact ih.trans htail
      · exact (ih.trans (tally_perform cfg env hfail a)).trans htail

end Actions

theorem tally_applySnapshot (next : Snapshot) : (p.applySnapshot cfg next).tally = p.tally := by
  have hrecreates : (p.applySnapshot cfg next).recreates = p.recreates := by
    simp only [applySnapshot, scheduleErrorAutoRetry, apply_ite recreates, ite_self]
  rw [tally, hrecreates, applySnapshot_reconnect]
  split_ifs
  · exact tally_of_reconnect Coordinator.reset_expected
  · rfl

theorem tally_handleEventNested (depth : ℕ) (event : PlayerEvent) (generation : Option ℕ) :
    (handleEventNested cfg env depth event generation p).tally = p.tally := by
  induction depth generalizing event generation p with
  | zero => rfl
  | succ depth ih =>
      rw [handleEventNested]
      split_ifs
      · rfl
      · have hfail : ∀ q : Controller, (handleEventNested cfg env depth (.forceError none)
            (some q.sessionToken) { q with desiredPlaying := false }).tally = q.tally :=
          fun q => ih _ _
        have hnoted : ((p.record event (gatedTransition event p.snapshot).next.state).applySnapshot
            cfg (gatedTransition event p.snapshot).next).tally = p.tally :=
          tally_applySnapshot cfg _
        have hacted := (tally_executeActions cfg env hfail
          (gatedTransition event p.snapshot).next.state
          (gatedTransition event p.snapshot).actions).trans hnoted
        simp only
        split_ifs
        · exact hacted
        · exact hacted

theorem tally_dispatch (event : PlayerEvent) : (p.dispatch cfg env event).tally = p.tally :=
  tally_handleEventNested cfg env _ _ _

theorem tally_fail : (p.fail cfg env).tally = p.tally := tally_handleEventNested cfg env _ _ _

/-! ## The coordinator's callbacks -/

theorem tally_signal {o : Signal} (h : o.calm = true) : (p.signal cfg env o).tally = p.tally := by
  cases o with
  | onSuccess => exact tally_dispatch cfg env _
  | onExhausted => exact tally_fail cfg env
  | executeAttempt => cases h
  | zeroed => rfl

theorem tally_signals {signals : List Signal} (h : ∀ o ∈ signals, o.calm = true) :
    (signals.foldl (signal cfg env) p).tally = p.tally := by
  induction signals generalizing p with
  | nil => rfl
  | cons o rest ih =>
      exact (ih fun o' ho' => h o' (List.mem_cons_of_mem o ho')).trans
        (tally_signal cfg env (h o List.mem_cons_self))

/-- Only an attempt that recreates the session adds to what is expected. -/
theorem tally_executeRecoveryAttempt (ctx : AttemptContext) :
    (p.executeRecoveryAttempt cfg env ctx).tally = p.tally ∨
      Recreated p (p.executeRecoveryAttempt cfg env ctx) := by
  rw [executeRecoveryAttempt]
  have hstarted : (p.handleEvent cfg env .recoveryAttemptStarted (some ctx.token)).tally =
      p.tally := tally_handleEventNested cfg env _ _ _
  have hasked : (p.handleEvent cfg env .recoveryAttemptStarted (some ctx.token)).recreates =
      p.recreates := congrArg Prod.snd hstarted
  simp only
  split_ifs
  · exact .inl rfl
  all_goals split
  all_goals first
    | exact .inl hstarted
    | exact .inr (congrArg (fun n => (2, n + 1)) hasked)

theorem tally_reconnectEvent {e : CoordinatorEvent} (h : e.expects = false) :
    (p.reconnectEvent cfg env e).tally = p.tally ∨
      e.attempts = true ∧ Recreated p (p.reconnectEvent cfg env e) := by
  rw [reconnectEvent, callReconnect]
  have hhandled : tally { p with
      reconnect := (p.reconnect.handle cfg.toConfig (p.context cfg env) e).1 } = p.tally :=
    tally_of_reconnect (Coordinator.handle_expected h)
  rcases p.reconnect.handle_signals cfg.toConfig (p.context cfg env) e with hcalm |
    ⟨hattempts, attempt, hsignals⟩
  · exact .inl ((tally_signals cfg env hcalm).trans hhandled)
  · rw [hsignals]
    rcases tally_executeRecoveryAttempt cfg env (p := { p with
        reconnect := (p.reconnect.handle cfg.toConfig (p.context cfg env) e).1 }) attempt with
      hsame | hrecreated
    · exact .inl (hsame.trans hhandled)
    · exact .inr ⟨hattempts, hrecreated⟩

/-- An event behind which no attempt begins leaves the tally as it is. -/
theorem tally_reconnectEvent_calm {e : CoordinatorEvent} (hexpects : e.expects = false)
    (hattempts : e.attempts = false) : (p.reconnectEvent cfg env e).tally = p.tally := by
  rcases tally_reconnectEvent cfg env (p := p) hexpects with hsame | ⟨hbegins, -⟩
  · exact hsame
  · rw [hattempts] at hbegins
    cases hbegins

theorem tally_tryNotifyRecovered : (p.tryNotifyRecovered cfg env).tally = p.tally := by
  rw [tryNotifyRecovered]
  split_ifs
  · rfl
  · rfl
  · exact tally_reconnectEvent_calm cfg env rfl rfl

theorem tally_requestRecovery (reason : String) (severity : ℕ) :
    (p.requestRecovery cfg env reason severity).tally = p.tally := by
  rw [requestRecovery]
  split_ifs
  · rfl
  · rfl
  · rfl
  · exact tally_dispatch cfg env _

theorem tally_handleStreamFailure (reason : String) (severity : ℕ) :
    (p.handleStreamFailure cfg env reason severity).tally = p.tally := by
  rw [handleStreamFailure]
  split_ifs
  · exact tally_reconnectEvent_calm cfg env rfl rfl
  · exact tally_requestRecovery cfg env reason severity

theorem tally_applyPolicy (event : DomainEvent) :
    (p.applyPolicy cfg env event).tally = p.tally := by
  rw [applyPolicy]
  generalize decidePolicy event _ = decision
  cases decision with
  | noOp => rfl
  | markDegraded => exact tally_dispatch cfg env _
  | requestRecovery reason severity => exact tally_handleStreamFailure cfg env reason severity

/-! ## Turns -/

theorem tally_retry : (p.retry cfg env).tally = p.tally := tally_dispatch cfg env _

theorem tally_togglePlay : (p.togglePlay cfg env).tally = p.tally := by
  rw [togglePlay]
  split_ifs
  · exact tally_dispatch cfg env _
  · exact tally_dispatch cfg env _

theorem tally_onVisibilityChange : (p.onVisibilityChange cfg env).tally = p.tally := by
  rw [onVisibilityChange]
  split_ifs
  · rfl
  · have hresumed : ∀ q : Controller, q.tally = p.tally →
        (if (q.reconnectEvent cfg env .resumeIfPending).reconnect.pending.isNone = true ∧
            (q.reconnectEvent cfg env .resumeIfPending).reconnect.inFlight = false then
          Controller.retry cfg env (q.reconnectEvent cfg env .resumeIfPending)
        else q.reconnectEvent cfg env .resumeIfPending).tally = p.tally := by
      intro q hq
      have hevent : (q.reconnectEvent cfg env .resumeIfPending).tally = q.tally :=
        tally_reconnectEvent_calm cfg env rfl rfl
      split_ifs
      · exact ((tally_retry cfg env).trans hevent).trans hq
      · exact hevent.trans hq
    simp only
    split
    case h_1 => exact tally_retry cfg env
    case h_2 =>
      refine hresumed _ ?_
      split_ifs
      · rfl
      · rfl
    case h_5 => rfl
    all_goals
      split_ifs
      · exact tally_requestRecovery cfg env _ _
      · rfl

theorem tally_onElementVisibilityChange (visible : Bool) :
    (p.onElementVisibilityChange cfg env visible).tally = p.tally := by
  rw [onElementVisibilityChange]
  split_ifs
  · exact tally_reconnectEvent_calm cfg env rfl rfl
  · rfl

theorem tally_onNetworkOnline : (p.onNetworkOnline cfg env).tally = p.tally := by
  rw [onNetworkOnline]
  simp only
  split
  case h_1 => rfl
  case h_2 =>
    exact (tally_reconnectEvent_calm cfg env rfl rfl).trans
      (tally_reconnectEvent_calm cfg env rfl rfl)
  case h_3 =>
    split_ifs
    all_goals first | rfl | exact tally_requestRecovery cfg env _ _
  all_goals rfl

theorem tally_onErrorRetry : (p.onErrorRetry cfg env).tally = p.tally := by
  rw [onErrorRetry]
  simp only
  split_ifs
  · rfl
  · rfl
  · exact tally_retry cfg env

theorem tally_report (event : PlayerEvent) : (p.report cfg env event).tally = p.tally := by
  rw [report]
  split_ifs
  · exact tally_dispatch cfg env event
  · rfl

theorem tally_onFrameReceived : (p.onFrameReceived cfg env).tally = p.tally := by
  have hfirst : (if p.firstFrameLatch = false ∧ p.webrtcUp = true ∧
      p.canTransitionOnFrame = true then p.dispatch cfg env .firstFrameReceived else p).tally =
        p.tally := by
    split_ifs
    · exact tally_dispatch cfg env _
    · rfl
  rw [onFrameReceived]
  generalize (if p.firstFrameLatch = false ∧ p.webrtcUp = true ∧
    p.canTransitionOnFrame = true then p.dispatch cfg env .firstFrameReceived else p) = q at hfirst
  split_ifs
  · exact hfirst
  · exact hfirst
  · exact hfirst
  · exact ((tally_dispatch cfg env _).trans (tally_tryNotifyRecovered cfg env)).trans hfirst

theorem tally_connectContinues (i : ℕ) (outcome : FlowOutcome) :
    (p.connectContinues cfg env i outcome).tally = p.tally := by
  have hfailed : ((p.fail cfg env).endConnect i).tally = p.tally := tally_fail cfg env
  rw [connectContinues]
  cases p.connects[i]? with
  | none => rfl
  | some f =>
      simp only
      split
      all_goals try split_ifs
      all_goals first
        | exact hfailed
        | rfl

/-- An ICE restart that fails falls back to a recreate. -/
theorem tally_recoveryContinues (i : ℕ) (outcome : FlowOutcome) :
    (p.recoveryContinues i outcome).tally = p.tally ∨
      Recreated p (p.recoveryContinues i outcome) := by
  rw [recoveryContinues]
  cases p.recoveries[i]? with
  | none => exact .inl rfl
  | some f =>
      simp only
      split
      all_goals try split_ifs
      all_goals first
        | exact .inl rfl
        | exact .inr rfl

/-- What the stream tells, a reset apart, leaves the tally as it is. -/
theorem tally_onStreamEvent (token : Option ℕ) {event : StreamEvent} (h : event ≠ .sessionReset) :
    (p.onStreamEvent cfg env token event).tally = p.tally := by
  unfold onStreamEvent
  split
  · rfl
  split
  · rfl
  · cases event with
    | iceState state =>
        simp only
        split_ifs
        · exact tally_report cfg env _
        · exact tally_report cfg env _
    | webrtcState up reason =>
        have hreported : (if up = true ∨ p.state ≠ .playing then
            p.report cfg env (.webrtcReport up) else p).tally = p.tally := by
          split_ifs
          · exact tally_report cfg env _
          · rfl
        cases up with
        | true => exact (tally_tryNotifyRecovered cfg env).trans hreported
        | false => exact (tally_applyPolicy cfg env _).trans hreported
    | hangup | trackEnded => exact tally_applyPolicy cfg env _
    | track on =>
        cases on with
        | true => exact tally_report cfg env _
        | false => rfl
    | trackMuted trackId | trackUnmuted trackId => exact tally_report cfg env _
    | sessionReset => exact absurd rfl h
    | error code message =>
        simp only
        split_ifs
        · exact tally_handleStreamFailure cfg env _ _
        · exact tally_applyPolicy cfg env _
    | streamingOfferReceived => exact tally_report cfg env _
    | other => rfl

/-- A turn that is not of the stream leaves the tally as it is, or an attempt in it recreates the
session. -/
theorem tally_turn {input : PlayerInput} (h : ∀ token event, input ≠ .streamEvent token event) :
    ((playerMachine cfg).next p (env, input)).tally = p.tally ∨
      Recreated p ((playerMachine cfg).next p (env, input)) := by
  have hevent : ∀ e : CoordinatorEvent, e.expects = false →
      (reconnectEvent cfg env e { p with throws := env.throws }).tally = p.tally ∨
        Recreated p (reconnectEvent cfg env e { p with throws := env.throws }) := fun e he =>
    (tally_reconnectEvent cfg env he).imp id And.right
  cases input with
  | autoplay => exact .inl (tally_dispatch cfg env _)
  | togglePlay => exact .inl (tally_togglePlay cfg env)
  | retry => exact .inl (tally_retry cfg env)
  | streamEvent token event => exact absurd rfl (h token event)
  | frame => exact .inl (tally_onFrameReceived cfg env)
  | videoStalled =>
      change (onVideoStalled cfg env { p with throws := env.throws }).tally = p.tally ∨ _
      rw [onVideoStalled]
      split_ifs
      · exact .inl rfl
      · exact .inl rfl
      · exact .inl (tally_applyPolicy cfg env _)
  | watchdogTimeout =>
      change (onWatchdogTimeout cfg env { p with throws := env.throws }).tally = p.tally ∨ _
      rw [onWatchdogTimeout]
      split_ifs
      · exact .inl rfl
      · exact .inl (tally_applyPolicy cfg env _)
      · exact .inl rfl
  | fpsDrop =>
      change (onFpsDrop cfg env { p with throws := env.throws }).tally = p.tally ∨ _
      rw [onFpsDrop]
      split_ifs
      · exact .inl rfl
      · exact .inl rfl
      · exact .inl (tally_applyPolicy cfg env _)
  | iceGrace =>
      change (onIceGrace cfg env { p with throws := env.throws }).tally = p.tally ∨ _
      rw [onIceGrace]
      simp only
      split_ifs
      · exact .inl rfl
      · exact .inl (tally_applyPolicy cfg env _)
      · exact .inl rfl
  | trackMute trackId =>
      change (onTrackMute cfg env trackId { p with throws := env.throws }).tally = p.tally ∨ _
      rw [onTrackMute]
      split_ifs
      · exact .inl (tally_applyPolicy cfg env _)
      · exact .inl rfl
  | visibilityChange => exact .inl (tally_onVisibilityChange cfg env)
  | elementVisibilityChange visible => exact .inl (tally_onElementVisibilityChange cfg env visible)
  | networkOnline => exact .inl (tally_onNetworkOnline cfg env)
  | errorRetry => exact .inl (tally_onErrorRetry cfg env)
  | connect i outcome => exact .inl (tally_connectContinues cfg env i outcome)
  | recovery i outcome => exact tally_recoveryContinues i outcome
  | reconnectTimer id => exact hevent _ rfl
  | healthCheck chain ok => exact hevent _ rfl
  | raceSettled chain result => exact hevent _ rfl

end Controller

end CameraStack.Player
