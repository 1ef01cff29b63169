/-
# A session reset while an attempt is in flight

A reset of the session that reaches a reconnecting controller with an attempt in flight is
discarded as long as one is expected, and there is one less to expect.  Where none is, the
controller takes it for the end of the session and of the attempt.
-/

import CameraStack.Player.Expectations
import CameraStack.Player.Transport

namespace CameraStack.Player

open CameraStack.Lib

/-! ## Nothing in flight -/

namespace Coordinator

variable {cfg : Config} {ctx : Context} {s : Coordinator}

/-- To schedule does not put anything in flight. -/
theorem scheduleNext_inFlight : (s.scheduleNext cfg ctx).1.inFlight = s.inFlight := by
  unfold scheduleNext
  cases s.pending with
  | none => rfl
  | some pending =>
      simp only
      split_ifs
      · rfl
      · rfl
      · rfl

theorem request_inFlight (reason : String) (severity : ℕ) :
    (s.request cfg ctx reason severity).1.inFlight = s.inFlight := by
  rw [request]
  split_ifs
  · rfl
  · rfl
  · exact scheduleNext_inFlight

theorem notifyAttemptFailed_inFlight (reason : Option String) (severity : ℕ) :
    (s.notifyAttemptFailed cfg ctx reason severity).1.inFlight = false := by
  unfold notifyAttemptFailed
  split_ifs with hidle
  · exact hidle
  · exact scheduleNext_inFlight

end Coordinator

namespace Controller

variable (cfg : PlayerConfig) (env : Surroundings) {p : Controller}

/-- No attempt is in flight. -/
def Landed (p : Controller) : Prop := p.reconnect.inFlight = false

section Actions

variable {fail : Controller → Controller}

theorem Landed.perform (hfail : ∀ {q : Controller}, q.Landed → (fail q).Landed) (h : p.Landed)
    (a : PlayerAction) : (p.perform cfg env fail a).Landed := by
  cases a with
  | startJanus =>
      rw [Controller.perform, runConnectFlow]
      split_ifs
      · exact h
      · exact h
  | startReconnectTimer reason severity =>
      rw [Controller.perform]
      have hrequest : Landed { p with
          reconnect := (p.reconnect.request cfg.toConfig (p.context cfg env)
            (reasonOr reason "unknown") (severity.getD 1)).1 } :=
        (Coordinator.request_inFlight _ _).trans h
      rcases p.reconnect.request_signals cfg.toConfig (p.context cfg env)
          (reasonOr reason "unknown") (severity.getD 1) with hnone | ⟨pending, hend⟩
      · rw [hnone]
        exact hrequest
      · rw [hend]
        exact hfail hrequest
  | cancelAllTimers => rfl
  | armTrackMuteTimer trackId =>
      rw [Controller.perform]
      split_ifs
      · exact h
      · exact h
  | startReconnectSettle =>
      rw [Controller.perform]
      split_ifs with hflying
      · have hidle : p.reconnect.inFlight = false := h
        rw [hidle] at hflying
        cases hflying.2
      · exact h
  | stopJanus | stopStreaming | log | render | armIceGrace | cancelIceGrace
  | disarmTrackMuteTimer | markDegraded | bindStream => exact h

theorem Landed.executeActions (hfail : ∀ {q : Controller}, q.Landed → (fail q).Landed)
    (next : PlayerState) (actions : List PlayerAction) (h : p.Landed) :
    (executeActions cfg env fail next actions p).Landed := by
  induction actions generalizing p with
  | nil => exact h
  | cons a rest ih =>
      have htail : Landed { p with throws := p.throws.tail } := h
      rw [Controller.executeActions]
      split_ifs
      · exact hfail htail
      · exact ih htail
      · exact ih (htail.perform cfg env hfail a)

end Actions

theorem Landed.applySnapshot (h : p.Landed) (next : Snapshot) :
    (p.applySnapshot cfg next).Landed := by
  rw [Landed, applySnapshot_reconnect]
  split_ifs
  · rfl
  · exact h

/-- However deep it nests, an event puts nothing in flight. -/
theorem Landed.handleEventNested (depth : ℕ) (event : PlayerEvent) (generation : Option ℕ)
    (h : p.Landed) : (handleEventNested cfg env depth event generation p).Landed := by
  induction depth generalizing event generation p with
  | zero => exact h
  | succ depth ih =>
      rw [Controller.handleEventNested]
      split_ifs
      · exact h
      · have hnoted : (p.record event (gatedTransition event p.snapshot).next.state).Landed := h
        have hfail : ∀ {q : Controller}, q.Landed → (Controller.handleEventNested cfg env depth
            (.forceError none) (some q.sessionToken)
              { q with desiredPlaying := false }).Landed := by
          intro q hq
          have hundesired : Landed { q with desiredPlaying := false } := hq
          exact ih _ _ hundesired
        have hacted := (hnoted.applySnapshot cfg
          (gatedTransition event p.snapshot).next).executeActions cfg env hfail
          (gatedTransition event p.snapshot).next.state (gatedTransition event p.snapshot).actions
        simp only
        split_ifs
        · exact hacted
        · exact hacted

theorem Landed.fail (h : p.Landed) : (p.fail cfg env).Landed := by
  have hundesired : Landed { p with desiredPlaying := false } := h
  exact hundesired.handleEventNested cfg env _ _ _

/-- To report an attempt as failed ends it, though the coordinator may be exhausted. -/
theorem reconnectEvent_failed (reason : Option String) (severity : ℕ) :
    (p.reconnectEvent cfg env (.notifyAttemptFailed reason severity)).Landed := by
  have hended : Landed { p with
      reconnect := (p.reconnect.notifyAttemptFailed cfg.toConfig (p.context cfg env) reason
        severity).1 } := Coordinator.notifyAttemptFailed_inFlight reason severity
  rw [reconnectEvent, Coordinator.handle, callReconnect]
  rcases p.reconnect.notifyAttemptFailed_signals cfg.toConfig (p.context cfg env) reason
    severity with hnone | ⟨pending, hend⟩
  · rw [hnone]
    exact hended
  · rw [hend]
    exact hended.fail cfg env

/-! ## A reset that is not expected -/

theorem executeActions_render (fail : Controller → Controller) (next : PlayerState) :
    executeActions cfg env fail next [.render] p = { p with throws := p.throws.tail } := by
  rw [executeActions]
  split_ifs with hthrown hcritical
  · cases hcritical
  · rfl
  · rfl

/-- The report that the connection is down leaves a reconnecting player and its coordinator as
they are. -/
theorem report_reconnecting (hreconnecting : p.state = .reconnecting) :
    (p.report cfg env (.webrtcReport false)).state = .reconnecting ∧
      (p.report cfg env (.webrtcReport false)).reconnect = p.reconnect := by
  have hsnapshot : p.snapshot.state = .reconnecting := hreconnecting
  have hresult : gatedTransition (.webrtcReport false) p.snapshot =
      { next := { p.snapshot with webrtcUp := false }, actions := [.render] } := by
    have hattempts : ¬ p.snapshot.reconnectAttempts < 1 := by
      rw [snapshot, if_pos hreconnecting]
      exact not_lt.mpr (le_max_left 1 _)
    have htransition : transition (.webrtcReport false) p.snapshot =
        { next := { p.snapshot with webrtcUp := false }, actions := [.render] } := by
      unfold transition
      rw [hsnapshot]
      rfl
    rw [gatedTransition, htransition]
    simp only [invariantGate, hsnapshot, if_neg hattempts]
  have hreports : p.canReport = true := by
    rw [canReport, hreconnecting]
    rfl
  rw [report, if_pos hreports, dispatch, handleEvent, handleEventNested_current, hresult]
  simp only [hsnapshot, executeActions_render]
  rw [if_neg (by simp)]
  refine ⟨applySnapshot_state _ _ _, ?_⟩
  change (applySnapshot _ _ _).reconnect = p.reconnect
  rw [applySnapshot_reconnect, if_neg (fun hplaying => (by cases hplaying.2))]
  rfl

/-- The turn is a reset of the session that the controller reads. -/
def resets (p : Controller) : PlayerInput → Bool
  | .streamEvent token .sessionReset => token.all fun t => t = p.sessionToken
  | _ => false

/-- A reset of the session, with the token of the moment. -/
def sessionReset (p : Controller) : PlayerInput := .streamEvent (some p.sessionToken) .sessionReset

/-- A reset of the session comes while an attempt is in flight. -/
def Struck (p : Controller) (input : PlayerInput) : Prop :=
  p.resets input = true ∧ p.state = .reconnecting ∧ p.reconnect.inFlight = true

/-- `consumeExpectedSessionReset` discards the reset. -/
def Discards (p : Controller) (input : PlayerInput) : Prop :=
  p.Struck input ∧ p.reconnect.expectedSessionResets > 0

instance (p : Controller) (input : PlayerInput) : Decidable (p.Struck input) :=
  inferInstanceAs (Decidable (_ ∧ _ ∧ _))

instance (p : Controller) (input : PlayerInput) : Decidable (p.Discards input) :=
  inferInstanceAs (Decidable (_ ∧ _))

/-- A reset while an attempt is in flight is discarded, or ends the attempt. -/
theorem landed_iff_not_discards {input : PlayerInput} (hstruck : p.Struck input) :
    ((playerMachine cfg).next p (env, input)).Landed ↔ ¬ p.Discards input := by
  obtain ⟨hresets, hreconnecting, hflying⟩ := id hstruck
  obtain ⟨token, rfl, hcurrent⟩ : ∃ token, input = .streamEvent token .sessionReset ∧
      (token.all fun t => t = p.sessionToken) = true := by
    unfold resets at hresets
    split at hresets
    · exact ⟨_, rfl, hresets⟩
    · cases hresets
  change (onStreamEvent cfg env token .sessionReset { p with throws := env.throws }).Landed ↔ _
  generalize hbegun : ({ p with throws := env.throws } : Controller) = q
  have hstate : q.state = .reconnecting := by rw [← hbegun, ← hreconnecting]
  have hreconnect : q.reconnect = p.reconnect := by rw [← hbegun]
  have htoken : ¬ (token.any fun t => t ≠ q.sessionToken) = true := by
    rw [← hbegun]
    cases token with
    | none => exact Bool.false_ne_true
    | some t => simpa using hcurrent
  unfold onStreamEvent
  rw [if_neg htoken, if_neg (fun hdropped => hdropped.2.2 hstate)]
  simp only [hreconnect]
  by_cases hexpected : p.reconnect.expectedSessionResets > 0
  · rw [if_pos ⟨hstate, hflying, hexpected⟩]
    refine iff_of_false (fun hlanded => ?_) fun hnone => hnone ⟨hstruck, hexpected⟩
    have hstill : (q.reconnectEvent cfg env
        .consumeExpectedSessionReset).reconnect.inFlight = true := by
      change q.reconnect.inFlight = true
      rw [hreconnect, hflying]
    rw [Landed, hstill] at hlanded
    cases hlanded
  · rw [if_neg fun hall => hexpected hall.2.2]
    refine iff_of_true ?_ fun hdiscards => hexpected hdiscards.2
    obtain ⟨hstill, hsame⟩ := report_reconnecting cfg env hstate
    generalize q.report cfg env (.webrtcReport false) = r at hstill hsame
    have hdecided : ∀ snapshot : PolicySnapshot, snapshot.state = .reconnecting →
        decidePolicy .sessionReset snapshot = .requestRecovery "session_reset" hard := by
      intro snapshot hreconnecting
      rw [decidePolicy]
      exact if_neg fun hstopped => hstopped.2.2 hreconnecting
    rw [applyPolicy, hdecided _ hstill, applyPolicyDecision, handleStreamFailure,
      if_pos ⟨hstill, by rw [hsame, hreconnect, hflying]⟩]
    exact reconnectEvent_failed cfg env _ _

/-- Only a reset that comes while an attempt is in flight is counted off. -/
theorem tally_sessionReset (p : Controller) :
    ((playerMachine cfg).next p (env, p.sessionReset)).tally =
      (if p.Struck p.sessionReset then p.reconnect.expectedSessionResets - 1
      else p.reconnect.expectedSessionResets, p.recreates) := by
  have hstruck : p.Struck p.sessionReset ↔
      p.state = .reconnecting ∧ p.reconnect.inFlight = true := by
    rw [Struck, and_iff_right]
    simp [resets, sessionReset]
  have hfallback : ((report cfg env (.webrtcReport false)
      { p with throws := env.throws }).applyPolicy cfg env .sessionReset).tally = p.tally :=
    (tally_applyPolicy cfg env _).trans (tally_report cfg env _)
  change (onStreamEvent cfg env (some p.sessionToken) .sessionReset
    { p with throws := env.throws }).tally = _
  unfold onStreamEvent
  rw [if_neg (by simp)]
  simp only
  by_cases hflying : p.state = .reconnecting ∧ p.reconnect.inFlight = true
  · rw [if_pos (hstruck.mpr hflying), if_neg fun hdropped => hdropped.2.2 hflying.1]
    by_cases hexpected : p.reconnect.expectedSessionResets > 0
    · rw [if_pos ⟨hflying.1, hflying.2, hexpected⟩]
      rfl
    · have hzero := Nat.eq_zero_of_not_pos hexpected
      rw [if_neg fun hall => hexpected hall.2.2, hfallback, tally, hzero]
  · rw [if_neg (hflying ∘ hstruck.mp)]
    split
    · rfl
    · rw [if_neg fun hall => hflying ⟨hall.1, hall.2.1⟩, hfallback]
      rfl

end Controller

end CameraStack.Player
