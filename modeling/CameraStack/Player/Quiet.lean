/-
# A stopped player is quiet

In IDLE and ERROR no timer is armed and no reconnect is in flight.  A transition to one of them
cancels everything, and a continuation that comes later finds that the player is not to play.
Three things get past this: an action that throws while the player goes on playing, so that the
outer `handleEvent` starts the watchdog of a player its nested call has stopped; a health check
that passes or an attempt that resolves after the stop, which look at nothing; and a backoff
timer armed over another, which no reset finds any more.
-/

import CameraStack.Player.Controller
import CameraStack.Player.Traced

namespace CameraStack.Player

open CameraStack.Lib

/-! ## Quiet players -/

/-- No timer of the controller is armed, and its coordinator is at rest. -/
def Controller.AtRest (p : Controller) : Prop :=
  p.watchdog = false ∧ p.iceGrace = false ∧ p.trackMutes = [] ∧ p.reconnect.AtRest

instance (p : Controller) : Decidable p.AtRest := inferInstanceAs (Decidable (_ ∧ _ ∧ _ ∧ _))

/-- No critical action throws on the way to CONNECTING or PLAYING. -/
def ThrowsElsewhere (throws : List (List (PlayerState × ActionType))) : Prop :=
  ∀ listed ∈ throws, ∀ x ∈ listed, x.2.critical = true → x.1 ≠ .connecting ∧ x.1 ≠ .playing

instance (throws : List (List (PlayerState × ActionType))) : Decidable (ThrowsElsewhere throws) :=
  inferInstanceAs (Decidable (∀ listed ∈ throws, ∀ x ∈ listed, _))

/-- What holds of the player whenever no `handleEvent` is in progress. -/
structure Controller.Held (p : Controller) : Prop where
  traced : p.reconnect.Traced
  elsewhere : ThrowsElsewhere p.throws
  undesired : p.state.stopped = true → p.desiredPlaying = false
  quiet : p.state.stopped = true → p.AtRest

/-- What holds of it during a `handleEvent` that may nest as deep as told: each nested call
costs a turn of `throws`. -/
structure Controller.Nested (depth : ℕ) (p : Controller) : Prop where
  traced : p.reconnect.Traced
  elsewhere : ThrowsElsewhere p.throws
  deep : p.throws.length < depth

/-- A nested call has failed the player. -/
structure Controller.Failed (p : Controller) : Prop where
  held : p.Held
  state : p.state = .error

namespace Controller

variable {cfg : PlayerConfig} {env : Surroundings} {p q : Controller} {depth : ℕ}

/-- An active player has nothing to be quiet about. -/
theorem held_active (htraced : p.reconnect.Traced) (helsewhere : ThrowsElsewhere p.throws)
    (hactive : p.state.stopped = false) : p.Held where
  traced := htraced
  elsewhere := helsewhere
  undesired h := by rw [hactive] at h; cases h
  quiet h := by rw [hactive] at h; cases h

/-! ## Actions -/

/-- An action takes its turn. -/
theorem Nested.tail (h : p.Nested depth) : Nested depth { p with throws := p.throws.tail } where
  traced := h.traced
  elsewhere listed hlisted := h.elsewhere listed (List.mem_of_mem_tail hlisted)
  deep := by
    have hle : p.throws.tail.length ≤ p.throws.length := by simp
    exact lt_of_le_of_lt hle h.deep

/-- An action that throws has paid for the nested call. -/
theorem Nested.thrown (h : p.Nested (depth + 1)) {x : PlayerState × ActionType}
    (hthrown : x ∈ p.throws.headD []) : Nested depth { p with throws := p.throws.tail } where
  traced := h.traced
  elsewhere := h.tail.elsewhere
  deep := by
    have hdeep := h.deep
    cases hthrows : p.throws with
    | nil => rw [hthrows] at hthrown; cases hthrown
    | cons listed rest =>
        rw [hthrows, List.length_cons] at hdeep
        exact Nat.lt_of_succ_lt_succ hdeep

/-- A critical action that throws was not on the way to CONNECTING or PLAYING. -/
theorem Nested.thrown_next (h : p.Nested depth) {next : PlayerState} {type : ActionType}
    (hthrown : (next, type) ∈ p.throws.headD []) (hcritical : type.critical = true) :
    next ≠ .connecting ∧ next ≠ .playing := by
  cases hthrows : p.throws with
  | nil => rw [hthrows] at hthrown; cases hthrown
  | cons listed rest =>
      rw [hthrows] at hthrown
      exact h.elsewhere listed (by rw [hthrows]; exact List.mem_cons_self) _ hthrown hcritical

/-- What an action other than a reconnect keeps. -/
structure Kept (p q : Controller) : Prop where
  state : q.state = p.state
  desired : q.desiredPlaying = p.desiredPlaying
  throws : q.throws = p.throws
  traced : q.reconnect.Traced

theorem perform_kept (fail : Controller → Controller) (h : p.reconnect.Traced) {a : PlayerAction}
    (ha : ∀ reason severity, a ≠ .startReconnectTimer reason severity) :
    Kept p (p.perform cfg env fail a) := by
  cases a with
  | startJanus =>
      rw [perform, runConnectFlow]
      split_ifs
      · exact ⟨rfl, rfl, rfl, h⟩
      · exact ⟨rfl, rfl, rfl, h⟩
  | startReconnectTimer reason severity => exact absurd rfl (ha reason severity)
  | cancelAllTimers => exact ⟨rfl, rfl, rfl, Coordinator.traced_of_timers h.clearTimers⟩
  | armTrackMuteTimer trackId =>
      rw [perform]
      split_ifs
      · exact ⟨rfl, rfl, rfl, h⟩
      · exact ⟨rfl, rfl, rfl, h⟩
  | startReconnectSettle =>
      rw [perform]
      split_ifs
      · exact ⟨rfl, rfl, rfl, h.startSettleWindow⟩
      · exact ⟨rfl, rfl, rfl, h⟩
  | stopJanus | stopStreaming | log | render | armIceGrace | cancelIceGrace
  | disarmTrackMuteTimer | markDegraded | bindStream => exact ⟨rfl, rfl, rfl, h⟩

theorem Kept.nested (hkept : Kept p q) (h : p.Nested depth) : q.Nested depth where
  traced := hkept.traced
  elsewhere := by rw [hkept.throws]; exact h.elsewhere
  deep := by rw [hkept.throws]; exact h.deep

/-- A calming action disturbs no rest, and to cancel all timers brings it. -/
theorem perform_atRest (fail : Controller → Controller) (h : p.reconnect.Traced) {a : PlayerAction}
    (ha : a.type.calming = true) (hrest : p.AtRest ∨ a = .cancelAllTimers) :
    (p.perform cfg env fail a).AtRest := by
  cases a with
  | cancelAllTimers => exact ⟨rfl, rfl, rfl, h.atRest_reset⟩
  | stopStreaming | log | render => exact hrest.resolve_right (by simp)
  | startJanus | stopJanus | startReconnectTimer | armIceGrace | cancelIceGrace
  | armTrackMuteTimer | disarmTrackMuteTimer | markDegraded | bindStream
  | startReconnectSettle => cases ha

/-! ## Lists of actions -/

section Execute

variable (cfg env)
variable {fail : Controller → Controller} (next : PlayerState) {actions : List PlayerAction}

/-- A list of calming actions that runs to its end. -/
structure Calmed (depth : ℕ) (actions : List PlayerAction) (p q : Controller) : Prop where
  nested : q.Nested depth
  state : q.state = p.state
  desired : q.desiredPlaying = p.desiredPlaying
  rest : p.AtRest ∨ .cancelAllTimers ∈ actions → q.AtRest

theorem Calmed.cons {p₁ : Controller} {a : PlayerAction} (h : Calmed depth actions p₁ q)
    (hstate : p₁.state = p.state) (hdesired : p₁.desiredPlaying = p.desiredPlaying)
    (hrest : p.AtRest ∨ a = .cancelAllTimers → p₁.AtRest) : Calmed depth (a :: actions) p q where
  nested := h.nested
  state := h.state.trans hstate
  desired := h.desired.trans hdesired
  rest hcalmed := by
    rcases hcalmed with hold | hmem
    · exact h.rest (.inl (hrest (.inl hold)))
    · rcases List.mem_cons.mp hmem with heq | hlater
      · exact h.rest (.inl (hrest (.inr heq.symm)))
      · exact h.rest (.inr hlater)

/-- Calming actions calm the player, or one of them fails it. -/
theorem executeActions_calming (hfail : ∀ p : Controller, p.Nested depth → (fail p).Failed)
    (hcalming : ∀ a ∈ actions, a.type.calming = true) (h : p.Nested (depth + 1)) :
    (executeActions cfg env fail next actions p).Failed ∨
      Calmed (depth + 1) actions p (executeActions cfg env fail next actions p) := by
  induction actions generalizing p with
  | nil => exact .inr ⟨h, rfl, rfl, fun hrest => hrest.resolve_right List.not_mem_nil⟩
  | cons a rest ih =>
      have hrest : ∀ a' ∈ rest, a'.type.calming = true := fun a' ha' =>
        hcalming a' (List.mem_cons_of_mem a ha')
      rw [executeActions]
      split_ifs with hthrown hcritical
      · exact .inl (hfail _ (h.thrown hthrown))
      · refine (ih hrest h.tail).imp_right fun hcalmed => hcalmed.cons rfl rfl fun hold => ?_
        refine hold.resolve_right fun heq => hcritical ?_
        rw [heq]
        rfl
      · have hkept : Kept { p with throws := p.throws.tail } (perform cfg env fail
            { p with throws := p.throws.tail } a) := by
          refine perform_kept fail h.tail.traced fun reason severity heq => ?_
          have hcalm := hcalming a List.mem_cons_self
          rw [heq] at hcalm
          cases hcalm
        refine (ih hrest (hkept.nested h.tail)).imp_right fun hcalmed => ?_
        exact hcalmed.cons hkept.state hkept.desired
          (perform_atRest fail h.tail.traced (hcalming a List.mem_cons_self))

/-- Other actions leave the state as it is, or one of them fails a player that was not on the
way to CONNECTING or PLAYING. -/
theorem executeActions_active (hfail : ∀ p : Controller, p.Nested depth → (fail p).Failed)
    (hactions : ∀ reason severity, .startReconnectTimer reason severity ∉ actions)
    (h : p.Nested (depth + 1)) :
    (executeActions cfg env fail next actions p).Failed ∧ next ≠ .connecting ∧ next ≠ .playing ∨
      (executeActions cfg env fail next actions p).Nested (depth + 1) ∧
        (executeActions cfg env fail next actions p).state = p.state := by
  induction actions generalizing p with
  | nil => exact .inr ⟨h, rfl⟩
  | cons a rest ih =>
      have hrest : ∀ reason severity, .startReconnectTimer reason severity ∉ rest :=
        fun reason severity hmem => hactions reason severity (List.mem_cons_of_mem a hmem)
      rw [executeActions]
      split_ifs with hthrown hcritical
      · exact .inl ⟨hfail _ (h.thrown hthrown), h.thrown_next hthrown hcritical⟩
      · exact ih hrest h.tail
      · have hkept : Kept { p with throws := p.throws.tail } (perform cfg env fail
            { p with throws := p.throws.tail } a) := by
          refine perform_kept fail h.tail.traced fun reason severity heq => ?_
          exact hactions reason severity (by rw [heq]; exact List.mem_cons_self)
        refine (ih hrest (hkept.nested h.tail)).imp_right fun hlater => ?_
        exact ⟨hlater.1, hlater.2.trans hkept.state⟩

/-- The request of a reconnect leaves the state as it is, or fails the player. -/
theorem executeActions_reconnect (hfail : ∀ p : Controller, p.Nested depth → (fail p).Failed)
    (reason : Option String) (severity : Option ℕ) (h : p.Nested depth) :
    (executeActions cfg env fail next [.startReconnectTimer reason severity] p).Failed ∨
      (executeActions cfg env fail next [.startReconnectTimer reason severity] p).Nested depth ∧
        (executeActions cfg env fail next [.startReconnectTimer reason severity] p).state =
          p.state := by
  rw [executeActions]
  split_ifs with hthrown hcritical
  · exact .inl (hfail _ h.tail)
  · exact absurd rfl hcritical
  · rw [executeActions, perform]
    have hrequest : ∀ reason severity ctx, Nested depth
        { p with
          throws := p.throws.tail
          reconnect := (p.reconnect.request cfg.toConfig ctx reason severity).1 } :=
      fun reason severity _ => ⟨h.traced.request reason severity, h.tail.elsewhere, h.tail.deep⟩
    rcases p.reconnect.request_signals cfg.toConfig
        (context cfg env { p with throws := p.throws.tail }) (reasonOr reason "unknown")
        (severity.getD 1) with hnone | ⟨pending, hend⟩
    · rw [hnone]
      exact .inr ⟨hrequest _ _ _, rfl⟩
    · rw [hend]
      exact .inl (hfail _ (hrequest _ _ _))

end Execute

/-! ## Events -/

theorem Nested.record (h : p.Nested depth) (event : PlayerEvent) (next : PlayerState) :
    (p.record event next).Nested depth :=
  ⟨h.traced, h.elsewhere, h.deep⟩

theorem Nested.applySnapshot (h : p.Nested depth) (cfg : PlayerConfig) (next : Snapshot) :
    (p.applySnapshot cfg next).Nested depth where
  traced := by
    rw [applySnapshot_reconnect]
    split_ifs
    · exact Coordinator.traced_of_timers h.traced.clearTimers
    · exact h.traced
  elsewhere := by rw [applySnapshot_throws]; exact h.elsewhere
  deep := by rw [applySnapshot_throws]; exact h.deep

section Nested

variable (cfg env)
variable {fail : Controller → Controller} {event : PlayerEvent} {result : TransitionResult}

/-- A player that is led to IDLE or ERROR is calmed or failed. -/
theorem executeActions_stopped (hfail : ∀ p : Controller, p.Nested depth → (fail p).Failed)
    (hshaped : result.Shaped event) (hstopped : result.next.state.stopped = true)
    (h : p.Nested (depth + 1)) (hstop : event = .stopRequest → p.desiredPlaying = false) :
    (executeActions cfg env fail result.next.state result.actions
        (p.applySnapshot cfg result.next)).Held ∧
      (result.next.state = .error → (executeActions cfg env fail result.next.state result.actions
        (p.applySnapshot cfg result.next)).state = .error) := by
  rcases executeActions_calming cfg env result.next.state hfail (hshaped.calms hstopped)
    (h.applySnapshot cfg result.next) with hfailed | hcalmed
  · exact ⟨hfailed.held, fun _ => hfailed.state⟩
  · have hstate := hcalmed.state.trans (applySnapshot_state cfg p result.next)
    refine ⟨⟨hcalmed.nested.traced, hcalmed.nested.elsewhere, fun _ => ?_, fun _ => ?_⟩, hstate.trans⟩
    · rw [hcalmed.desired, applySnapshot_desired]
      split_ifs with herror
      · rfl
      · have hidle : result.next.state = .idle := by
          cases hnext : result.next.state with
          | idle => rfl
          | error => exact absurd hnext herror
          | connecting | playing | reconnecting => rw [hnext] at hstopped; cases hstopped
        exact hstop (hshaped.idle hidle)
    · exact hcalmed.rest (.inr (hshaped.cancels hstopped))

/-- A player that is led on stays active, or is failed where no watchdog is started. -/
theorem executeActions_on (hfail : ∀ p : Controller, p.Nested depth → (fail p).Failed)
    (hshaped : result.Shaped event) (h : p.Nested depth) :
    (executeActions cfg env fail result.next.state result.actions
        (p.applySnapshot cfg result.next)).Failed ∧
        result.next.state ≠ .connecting ∧ result.next.state ≠ .playing ∨
      (executeActions cfg env fail result.next.state result.actions
        (p.applySnapshot cfg result.next)).Nested (depth + 1) ∧
        (executeActions cfg env fail result.next.state result.actions
          (p.applySnapshot cfg result.next)).state = result.next.state := by
  have hnested : ∀ {q : Controller}, q.Nested depth → q.Nested (depth + 1) := fun hq =>
    ⟨hq.traced, hq.elsewhere, Nat.lt_succ_of_lt hq.deep⟩
  have happly := h.applySnapshot cfg result.next
  have hstate := applySnapshot_state cfg p result.next
  by_cases hreconnects : ∃ reason severity, .startReconnectTimer reason severity ∈ result.actions
  · obtain ⟨reason, severity, hmem⟩ := hreconnects
    obtain ⟨hnext, hactions⟩ := hshaped.reconnects reason severity hmem
    rw [hactions]
    rcases executeActions_reconnect cfg env result.next.state hfail reason severity happly with
      hfailed | ⟨hlater, hsame⟩
    · exact .inl ⟨hfailed, by rw [hnext]; decide, by rw [hnext]; decide⟩
    · exact .inr ⟨hnested hlater, hsame.trans hstate⟩
  · have hnone : ∀ reason severity, .startReconnectTimer reason severity ∉ result.actions :=
      fun reason severity hmem => hreconnects ⟨reason, severity, hmem⟩
    exact (executeActions_active cfg env _ hfail hnone (hnested happly)).imp_right
      fun hlater => ⟨hlater.1, hlater.2.trans hstate⟩

end Nested

/-- `FORCE_ERROR` fails the player, however deep it nests. -/
theorem forceError_failed (depth : ℕ) (p : Controller) (h : p.Nested depth) :
    (handleEventNested cfg env depth (.forceError none) (some p.sessionToken) p).Failed := by
  induction depth generalizing p with
  | zero => exact absurd h.deep (Nat.not_lt_zero _)
  | succ depth ih =>
      have herror : (gatedTransition (.forceError none) p.snapshot).next.state = .error := rfl
      rw [handleEventNested_current]
      simp only
      rw [if_neg (by rw [herror]; decide)]
      have hfail : ∀ p : Controller, p.Nested depth →
          (handleEventNested cfg env depth (.forceError none) (some p.sessionToken)
            { p with desiredPlaying := false }).Failed := fun p hp =>
        ih { p with desiredPlaying := false } ⟨hp.traced, hp.elsewhere, hp.deep⟩
      obtain ⟨hheld, hstate⟩ := executeActions_stopped cfg env hfail shaped_gatedTransition
        (by rw [herror]; rfl) (h.record _ _) (fun hevent => by cases hevent)
      exact ⟨hheld, hstate herror⟩

/-- Whatever event of the current generation a player handles, it is held afterwards. -/
theorem handleEvent_held (htraced : p.reconnect.Traced) (helsewhere : ThrowsElsewhere p.throws)
    {event : PlayerEvent} (hstop : event = .stopRequest → p.desiredPlaying = false) :
    (p.handleEvent cfg env event (some p.sessionToken)).Held := by
  have hshaped : (gatedTransition event p.snapshot).Shaped event := shaped_gatedTransition
  have hnested : p.Nested (p.throws.length + 1) := ⟨htraced, helsewhere, Nat.lt_succ_self _⟩
  have hfail : ∀ q : Controller, q.Nested (p.throws.length + 1) →
      (handleEventNested cfg env (p.throws.length + 1) (.forceError none) (some q.sessionToken)
        { q with desiredPlaying := false }).Failed := fun q hq =>
    forceError_failed _ { q with desiredPlaying := false } ⟨hq.traced, hq.elsewhere, hq.deep⟩
  rw [handleEvent, handleEventNested_current]
  simp only
  cases hstopped : (gatedTransition event p.snapshot).next.state.stopped with
  | true =>
      rw [if_neg (by
        rintro (hnext | hnext)
        all_goals rw [hnext] at hstopped; cases hstopped)]
      exact (executeActions_stopped cfg env hfail hshaped hstopped
        (Nested.record ⟨htraced, helsewhere, Nat.lt_succ_of_lt hnested.deep⟩ _ _) hstop).1
  | false =>
      rcases executeActions_on cfg env hfail hshaped (hnested.record _ _) with
        ⟨hfailed, hconnecting, hplaying⟩ | ⟨hlater, hstate⟩
      · rw [if_neg (not_or.mpr ⟨hplaying, hconnecting⟩)]
        exact hfailed.held
      · have hactive := (congrArg PlayerState.stopped hstate).trans hstopped
        split_ifs
        · exact held_active hlater.traced hlater.elsewhere hactive
        · exact held_active hlater.traced hlater.elsewhere hactive

/-! ## Callbacks -/

/-- What has no part in the invariant may change, and timers may go. -/
theorem Held.of_eq (h : p.Held) (hstate : q.state = p.state)
    (hdesired : q.desiredPlaying = p.desiredPlaying) (hthrows : q.throws = p.throws)
    (htraced : q.reconnect.Traced) (hquiet : p.AtRest → q.AtRest) : q.Held where
  traced := htraced
  elsewhere := by rw [hthrows]; exact h.elsewhere
  undesired hstopped := by
    rw [hstate] at hstopped
    rw [hdesired]
    exact h.undesired hstopped
  quiet hstopped := by
    rw [hstate] at hstopped
    exact hquiet (h.quiet hstopped)

theorem Held.dispatch (h : p.Held) {event : PlayerEvent} (hevent : event ≠ .stopRequest) :
    (p.dispatch cfg env event).Held :=
  handleEvent_held h.traced h.elsewhere fun heq => absurd heq hevent

theorem Held.fail (h : p.Held) : (p.fail cfg env).Held :=
  handleEvent_held (p := { p with desiredPlaying := false }) h.traced h.elsewhere
    fun heq => by cases heq

/-- A player that is not stale is to play, so it is not stopped. -/
theorem Held.active_of_fresh (h : p.Held) {token : ℕ} (hfresh : p.dropIfStale token = false) :
    p.state.stopped = false ∧ token = p.sessionToken := by
  rw [dropIfStale, Bool.not_eq_false', Bool.and_eq_true, decide_eq_true_eq] at hfresh
  refine ⟨?_, hfresh.1⟩
  cases hstopped : p.state.stopped with
  | false => rfl
  | true =>
      have hundesired := h.undesired hstopped
      rw [hfresh.2] at hundesired
      cases hundesired

theorem Held.executeRecoveryAttempt (h : p.Held) (ctx : AttemptContext) :
    (p.executeRecoveryAttempt cfg env ctx).Held := by
  rw [Controller.executeRecoveryAttempt]
  cases hstale : p.dropIfStale ctx.token with
  | true => exact h
  | false =>
      have hstarted : (p.handleEvent cfg env .recoveryAttemptStarted (some ctx.token)).Held := by
        rw [(h.active_of_fresh hstale).2]
        exact h.dispatch (by decide)
      simp only [Bool.false_eq_true, if_false]
      generalize p.handleEvent cfg env .recoveryAttemptStarted (some ctx.token) = p at hstarted
      have hclear : ∀ {q : Controller}, q.state = p.state →
          q.desiredPlaying = p.desiredPlaying → q.throws = p.throws → q.watchdog = p.watchdog →
          q.iceGrace = false → q.trackMutes = [] → q.reconnect.timers = p.reconnect.timers →
          q.reconnect.inFlight = p.reconnect.inFlight → q.reconnect.Traced → q.Held := by
        intro q hstate hdesired hthrows hwatchdog hgrace hmutes htimers hflight htraced
        refine hstarted.of_eq hstate hdesired hthrows htraced fun hrest => ?_
        exact ⟨hwatchdog.trans hrest.1, hgrace, hmutes, htimers.trans hrest.2.2.2.1,
          hflight.trans hrest.2.2.2.2⟩
      split
      iterate 3 exact hclear rfl rfl rfl rfl rfl rfl rfl rfl hstarted.traced
      exact hclear rfl rfl rfl rfl rfl rfl rfl rfl
        (hstarted.traced.of_subset (fun _ ht => ht) rfl rfl rfl)

theorem Held.signal (h : p.Held) (o : Signal) : (p.signal cfg env o).Held := by
  cases o with
  | onSuccess =>
      exact handleEvent_held (p := { p with degraded := false }) h.traced h.elsewhere
        fun heq => by cases heq
  | onExhausted => exact h.fail
  | executeAttempt ctx => exact h.executeRecoveryAttempt ctx
  | zeroed => exact h

theorem Held.callReconnect {result : Coordinator × List Signal}
    (h : Held { p with reconnect := result.1 }) : (p.callReconnect cfg env result).Held := by
  rw [Controller.callReconnect]
  generalize ({ p with reconnect := result.1 } : Controller) = p at h
  induction result.2 generalizing p with
  | nil => exact h
  | cons o rest ih => exact ih _ (h.signal o)

/-- A paced event of the coordinator, unless it resumes an attempt of a stopped player. -/
theorem Held.reconnectEvent (h : p.Held) {event : CoordinatorEvent}
    (hpaced : Paced cfg.toConfig p.reconnect (p.context cfg env, event))
    (hresumes : p.state.stopped = true → ¬ p.reconnect.Resumes event) :
    (p.reconnectEvent cfg env event).Held := by
  refine Held.callReconnect ⟨h.traced.handle hpaced, h.elsewhere, h.undesired, fun hstopped => ?_⟩
  obtain ⟨hwatchdog, hgrace, hmutes, hrest⟩ := h.quiet hstopped
  have hstop : (p.context cfg env).shouldContinue = false := by
    simp [context, h.undesired hstopped]
  exact ⟨hwatchdog, hgrace, hmutes, hrest.handle hstop (hresumes hstopped)⟩

/-- A call of the controller is always paced, and resumes nothing. -/
theorem Held.tryNotifyRecovered (h : p.Held) : (p.tryNotifyRecovered cfg env).Held := by
  rw [Controller.tryNotifyRecovered]
  split_ifs
  · exact h
  · exact h
  · exact h.reconnectEvent trivial fun _ => id

theorem Held.requestRecovery (h : p.Held) (reason : String) (severity : ℕ) :
    (p.requestRecovery cfg env reason severity).Held := by
  rw [Controller.requestRecovery]
  split_ifs
  · exact h
  · exact h
  · exact h
  · exact h.dispatch (by simp)

theorem Held.handleStreamFailure (h : p.Held) (reason : String) (severity : ℕ) :
    (p.handleStreamFailure cfg env reason severity).Held := by
  rw [Controller.handleStreamFailure]
  split_ifs
  · exact h.reconnectEvent trivial fun _ => id
  · exact h.requestRecovery reason severity

theorem Held.applyPolicy (h : p.Held) (event : DomainEvent) :
    (p.applyPolicy cfg env event).Held := by
  unfold Controller.applyPolicy Controller.applyPolicyDecision
  split
  · exact h
  · exact h.dispatch (by decide)
  · exact h.handleStreamFailure _ _

/-! ## Intents and the browser -/

theorem Held.togglePlay (h : p.Held) : (p.togglePlay cfg env).Held := by
  rw [Controller.togglePlay]
  split_ifs
  · exact handleEvent_held (p := { p with desiredPlaying := false }) h.traced h.elsewhere fun _ => rfl
  · exact handleEvent_held (p := { p with desiredPlaying := true }) h.traced h.elsewhere
      fun heq => by cases heq

theorem Held.retry (h : p.Held) : (p.retry cfg env).Held :=
  handleEvent_held (p := { p with desiredPlaying := true }) h.traced h.elsewhere
    fun heq => by cases heq

theorem Held.autoplay (h : p.Held) : (p.autoplay cfg env).Held :=
  handleEvent_held (p := { p with desiredPlaying := true }) h.traced h.elsewhere
    fun heq => by cases heq

theorem Held.onVisibilityChange (h : p.Held) : (p.onVisibilityChange cfg env).Held := by
  rw [Controller.onVisibilityChange]
  split_ifs
  · exact h.of_eq rfl rfl rfl h.traced id
  · have hback : Held { p with tabHiddenAt := none } := h.of_eq rfl rfl rfl h.traced id
    have hescalated : Held { p with
        tabHiddenAt := none
        reconnect := p.reconnect.escalate hard } :=
      h.of_eq rfl rfl rfl (h.traced.of_subset (fun _ ht => ht) rfl rfl rfl) id
    have hresumed : ∀ {q : Controller}, q.Held →
        Held (if (q.reconnectEvent cfg env .resumeIfPending).reconnect.pending.isNone = true ∧
            (q.reconnectEvent cfg env .resumeIfPending).reconnect.inFlight = false then
          Controller.retry cfg env (q.reconnectEvent cfg env .resumeIfPending)
          else q.reconnectEvent cfg env .resumeIfPending) := by
      intro q hq
      have hevent : (q.reconnectEvent cfg env .resumeIfPending).Held :=
        hq.reconnectEvent trivial fun _ => id
      split_ifs
      · exact hevent.retry
      · exact hevent
    simp only
    split
    case h_1 => exact hback.retry
    case h_2 =>
      refine hresumed ?_
      split_ifs
      · exact hescalated
      · exact hback
    case h_5 => exact hback
    all_goals
      split_ifs
      · exact hback.requestRecovery _ _
      · exact hback

theorem Held.onElementVisibilityChange (h : p.Held) (visible : Bool) :
    (p.onElementVisibilityChange cfg env visible).Held := by
  rw [Controller.onElementVisibilityChange]
  split_ifs
  · exact h.reconnectEvent trivial fun _ => id
  · exact h

theorem Held.onNetworkOnline (h : p.Held) : (p.onNetworkOnline cfg env).Held := by
  have hcleared : Held { p with errorRetryCount := 0 } := h.of_eq rfl rfl rfl h.traced id
  rw [Controller.onNetworkOnline]
  simp only
  split
  case h_1 => exact h.of_eq rfl rfl rfl h.traced id
  case h_2 =>
    have hreset : (Controller.reconnectEvent cfg env .reset { p with errorRetryCount := 0 }).Held :=
      hcleared.reconnectEvent trivial fun _ => id
    exact hreset.reconnectEvent trivial fun _ => id
  case h_3 =>
    split_ifs
    all_goals first | exact hcleared | exact hcleared.requestRecovery _ _
  all_goals exact hcleared

theorem Held.onErrorRetry (h : p.Held) : (p.onErrorRetry cfg env).Held := by
  have hfired : Held { p with errorRetryTimer := false } := h.of_eq rfl rfl rfl h.traced id
  rw [Controller.onErrorRetry]
  simp only
  split_ifs
  · exact h
  · exact hfired
  · exact hfired.retry

/-! ## The stream -/

theorem Held.report (h : p.Held) {event : PlayerEvent} (hevent : event ≠ .stopRequest) :
    (p.report cfg env event).Held := by
  rw [Controller.report]
  split_ifs
  · exact h.dispatch hevent
  · exact h

theorem Held.onStreamEvent (h : p.Held) (token : Option ℕ) (event : StreamEvent) :
    (p.onStreamEvent cfg env token event).Held := by
  unfold Controller.onStreamEvent
  split
  · exact h
  split
  · exact h
  · cases event with
    | iceState state =>
        simp only
        split_ifs
        · exact h.report (by simp)
        · exact h.report (by simp)
    | webrtcState up reason =>
        have hreported : Held (if up = true ∨ p.state ≠ .playing then
            p.report cfg env (.webrtcReport up) else p) := by
          split_ifs
          · exact h.report (by simp)
          · exact h
        cases up with
        | true => exact hreported.tryNotifyRecovered
        | false => exact hreported.applyPolicy _
    | hangup reason => exact h.applyPolicy _
    | track on =>
        cases on with
        | true => exact h.report (by decide)
        | false => exact h
    | trackMuted trackId | trackUnmuted trackId => exact h.report (by simp)
    | trackEnded => exact h.applyPolicy _
    | sessionReset =>
        simp only
        split_ifs
        · exact h.reconnectEvent trivial fun _ => id
        · exact (h.report (by decide)).applyPolicy _
    | error code message =>
        simp only
        split_ifs
        · exact h.handleStreamFailure _ _
        · exact h.applyPolicy _
    | streamingOfferReceived => exact h.report (by decide)
    | other => exact h

theorem Held.onFrameReceived (h : p.Held) : (p.onFrameReceived cfg env).Held := by
  have hfirst : Held (if p.firstFrameLatch = false ∧ p.webrtcUp = true ∧
      p.canTransitionOnFrame = true then p.dispatch cfg env .firstFrameReceived else p) := by
    split_ifs
    · exact h.dispatch (by decide)
    · exact h
  rw [Controller.onFrameReceived]
  generalize (if p.firstFrameLatch = false ∧ p.webrtcUp = true ∧
    p.canTransitionOnFrame = true then p.dispatch cfg env .firstFrameReceived else p) = p at hfirst
  split_ifs
  · exact hfirst
  · exact hfirst
  · exact hfirst
  · have hnotified : Held { p with recoveryNotified := true } :=
      hfirst.of_eq rfl rfl rfl hfirst.traced id
    exact hnotified.tryNotifyRecovered.dispatch (by decide)

theorem Held.onWatchdogTimeout (h : p.Held) : (p.onWatchdogTimeout cfg env).Held := by
  rw [Controller.onWatchdogTimeout]
  split_ifs
  · exact h
  · exact h.applyPolicy _
  · exact h

theorem Held.onFpsDrop (h : p.Held) : (p.onFpsDrop cfg env).Held := by
  rw [Controller.onFpsDrop]
  split_ifs
  · exact h
  · exact h
  · exact h.applyPolicy _

theorem Held.onVideoStalled (h : p.Held) : (p.onVideoStalled cfg env).Held := by
  rw [Controller.onVideoStalled]
  split_ifs
  · exact h
  · exact h
  · exact h.applyPolicy _

theorem Held.onIceGrace (h : p.Held) : (p.onIceGrace cfg env).Held := by
  have hfired : Held { p with iceGrace := false } :=
    h.of_eq rfl rfl rfl h.traced fun hrest => ⟨hrest.1, rfl, hrest.2.2⟩
  rw [Controller.onIceGrace]
  simp only
  split_ifs
  · exact h
  · exact hfired.applyPolicy _
  · exact hfired

theorem Held.onTrackMute (h : p.Held) (trackId : String) :
    (p.onTrackMute cfg env trackId).Held := by
  have hfired : Held { p with trackMutes := p.trackMutes.filter fun id => id ≠ trackId } := by
    refine h.of_eq rfl rfl rfl h.traced fun hrest => ⟨hrest.1, hrest.2.1, ?_, hrest.2.2.2⟩
    simp [hrest.2.2.1]
  rw [Controller.onTrackMute]
  split_ifs
  · exact hfired.applyPolicy _
  · exact h

/-! ## The flows -/

/-- A flow starts the watchdog where it is not stale. -/
theorem Held.startWatchdog (h : p.Held) {token : ℕ} (hfresh : p.dropIfStale token = false) :
    p.startWatchdog.Held :=
  held_active h.traced h.elsewhere (h.active_of_fresh hfresh).1

theorem Held.endConnect (h : p.Held) (i : ℕ) : (p.endConnect i).Held :=
  h.of_eq rfl rfl rfl h.traced id

theorem Held.awaitConnect (h : p.Held) (i token : ℕ) (step : ConnectStep) :
    (p.awaitConnect i token step).Held :=
  h.of_eq rfl rfl rfl h.traced id

theorem Held.connectContinues (h : p.Held) (i : ℕ) (outcome : FlowOutcome) :
    (p.connectContinues cfg env i outcome).Held := by
  rw [Controller.connectContinues]
  cases p.connects[i]? with
  | none => exact h
  | some flow =>
      have hended : ∀ {fresh : Controller}, fresh.Held → Held
          (if p.dropIfStale flow.token = true then p.endConnect i else fresh) := by
        intro fresh hfresh
        split_ifs
        · exact h.endConnect i
        · exact hfresh
      simp only
      split
      · exact hended (h.awaitConnect _ _ _)
      · exact hended (h.fail.endConnect i)
      · exact hended (h.fail.endConnect i)
      · split_ifs with hstale
        · exact h.endConnect i
        · exact (h.startWatchdog (Bool.eq_false_iff.mpr hstale)).endConnect i
      · exact h.of_eq rfl rfl rfl h.traced id
      · split_ifs
        · exact h.awaitConnect _ _ _
        · exact h.awaitConnect _ _ _
        · exact h.awaitConnect _ _ _
      · split_ifs
        · exact h.awaitConnect _ _ _
        · exact h.awaitConnect _ _ _
      · exact h.awaitConnect _ _ _
      · exact h.awaitConnect _ _ _
      · exact h

theorem Held.endRecovery (h : p.Held) (i : ℕ) : (p.endRecovery i).Held :=
  h.of_eq rfl rfl rfl h.traced id

theorem Held.awaitRecovery (h : p.Held) (i token : ℕ) (step : RecoveryStep) :
    (p.awaitRecovery i token step).Held :=
  h.of_eq rfl rfl rfl h.traced id

theorem Held.recoveryContinues (h : p.Held) (i : ℕ) (outcome : FlowOutcome) :
    (p.recoveryContinues i outcome).Held := by
  rw [Controller.recoveryContinues]
  cases p.recoveries[i]? with
  | none => exact h
  | some flow =>
      simp only
      split
      · exact h.of_eq rfl rfl rfl (h.traced.of_subset (fun _ ht => ht) rfl rfl rfl) id
      · split_ifs with hstale
        · exact h.endRecovery i
        · exact (h.startWatchdog (Bool.eq_false_iff.mpr hstale)).endRecovery i
      · exact h.endRecovery i
      · exact h.of_eq rfl rfl rfl h.traced id
      · split_ifs
        · exact h.endRecovery i
        · exact h.awaitRecovery _ _ _
        · exact h.awaitRecovery _ _ _
      · split_ifs
        · exact h.endRecovery i
        · exact h.awaitRecovery _ _ _
        · exact h.awaitRecovery _ _ _
      iterate 3 exact h.awaitRecovery _ _ _
      exact h

/-! ## Turns -/

/-- A turn in which no critical action throws on the way to CONNECTING or PLAYING, no attempt of
a stopped player is resumed, and no backoff timer is armed over another. -/
def Steady (cfg : PlayerConfig) (p : Controller) : Surroundings × PlayerInput → Prop
  | (env, .reconnectTimer id) =>
      ThrowsElsewhere env.throws ∧ Paced cfg.toConfig p.reconnect (p.context cfg env, .timer id)
  | (env, .healthCheck chain ok) =>
      ThrowsElsewhere env.throws ∧
        Paced cfg.toConfig p.reconnect (p.context cfg env, .healthCheck chain ok) ∧
        (p.state.stopped = true → ¬ p.reconnect.Resumes (.healthCheck chain ok))
  | (env, .raceSettled chain result) =>
      ThrowsElsewhere env.throws ∧
        Paced cfg.toConfig p.reconnect (p.context cfg env, .raceSettled chain result) ∧
        (p.state.stopped = true → ¬ p.reconnect.Resumes (.raceSettled chain result))
  | (env, _) => ThrowsElsewhere env.throws

instance (cfg : PlayerConfig) (p : Controller) : DecidablePred (Steady cfg p)
  | (_, .reconnectTimer _) => inferInstanceAs (Decidable (_ ∧ _))
  | (_, .healthCheck ..) | (_, .raceSettled ..) => inferInstanceAs (Decidable (_ ∧ _ ∧ _))
  | (_, .autoplay) | (_, .togglePlay) | (_, .retry) | (_, .streamEvent ..) | (_, .frame)
  | (_, .videoStalled) | (_, .watchdogTimeout) | (_, .fpsDrop) | (_, .iceGrace)
  | (_, .trackMute _) | (_, .visibilityChange) | (_, .elementVisibilityChange _)
  | (_, .networkOnline) | (_, .errorRetry) | (_, .connect ..) | (_, .recovery ..) =>
      inferInstanceAs (Decidable (ThrowsElsewhere _))

theorem Steady.elsewhere {env : Surroundings} {input : PlayerInput} (h : Steady cfg p (env, input)) :
    ThrowsElsewhere env.throws := by
  cases input with
  | reconnectTimer | healthCheck | raceSettled => exact h.1
  | autoplay | togglePlay | retry | streamEvent | frame | videoStalled | watchdogTimeout | fpsDrop
  | iceGrace | trackMute | visibilityChange | elementVisibilityChange | networkOnline | errorRetry
  | connect | recovery => exact h

/-- A steady turn keeps the player held. -/
theorem Held.turn (h : p.Held) {env : Surroundings} {input : PlayerInput}
    (hsteady : Steady cfg p (env, input)) :
    (Controller.turn cfg env { p with throws := env.throws } input).Held := by
  have hbegun : Held { p with throws := env.throws } :=
    ⟨h.traced, hsteady.elsewhere, h.undesired, h.quiet⟩
  cases input with
  | autoplay => exact hbegun.autoplay
  | togglePlay => exact hbegun.togglePlay
  | retry => exact hbegun.retry
  | streamEvent token event => exact hbegun.onStreamEvent token event
  | frame => exact hbegun.onFrameReceived
  | videoStalled => exact hbegun.onVideoStalled
  | watchdogTimeout => exact hbegun.onWatchdogTimeout
  | fpsDrop => exact hbegun.onFpsDrop
  | iceGrace => exact hbegun.onIceGrace
  | trackMute trackId => exact hbegun.onTrackMute trackId
  | visibilityChange => exact hbegun.onVisibilityChange
  | elementVisibilityChange visible => exact hbegun.onElementVisibilityChange visible
  | networkOnline => exact hbegun.onNetworkOnline
  | errorRetry => exact hbegun.onErrorRetry
  | connect i outcome => exact hbegun.connectContinues i outcome
  | recovery i outcome => exact hbegun.recoveryContinues i outcome
  | reconnectTimer id => exact hbegun.reconnectEvent hsteady.2 fun _ => not_false
  | healthCheck chain ok => exact hbegun.reconnectEvent hsteady.2.1 hsteady.2.2
  | raceSettled chain result => exact hbegun.reconnectEvent hsteady.2.1 hsteady.2.2

theorem held_initial : Held {} where
  traced := Coordinator.traced_of_timers rfl
  elsewhere _ hlisted := absurd hlisted List.not_mem_nil
  undesired _ := rfl
  quiet _ := ⟨rfl, rfl, rfl, rfl, rfl⟩

/-- In every run of steady turns the player is held. -/
theorem held_run {turns : List (Surroundings × PlayerInput)}
    (h : (playerMachine cfg).Along (Steady cfg) {} turns) :
    ((playerMachine cfg).run {} turns).Held :=
  Machine.run_invariant _ (fun _ _ hheld hsteady => hheld.turn hsteady) h held_initial

end Controller

open Controller

/-- In every run of steady turns a stopped player is quiet. -/
theorem stopped_quiet (cfg : PlayerConfig) (turns : List (Surroundings × PlayerInput))
    (h : (playerMachine cfg).Along (Steady cfg) {} turns)
    (hstopped : ((playerMachine cfg).run {} turns).state.stopped = true) :
    ((playerMachine cfg).run {} turns).AtRest :=
  (held_run h).quiet hstopped

/-- ICE fails while the player connects, and a health check is sent. -/
def checkSent : List (Surroundings × PlayerInput) :=
  [(undisturbed, .togglePlay), (undisturbed, .streamEvent none (.iceState "failed")),
    (undisturbed, .reconnectTimer 0)]

/-- The player is stopped, to stop the stream throws, and the check fails. -/
theorem stopped_quiet_failedCheck :
    ((playerMachine {}).run {} (checkSent ++
      [({ undisturbed with throws := [[], [(.idle, .stopStreaming)]] }, .togglePlay),
        (undisturbed, .healthCheck 0 false)])).AtRest :=
  stopped_quiet {} _ (by decide) (by decide)

/-- The player is stopped, and the check passes: an attempt is in flight. -/
theorem stopped_in_flight :
    ¬ ∀ (cfg : PlayerConfig) (turns : List (Surroundings × PlayerInput)),
      ((playerMachine cfg).run {} turns).state.stopped = true →
      ((playerMachine cfg).run {} turns).AtRest := by
  intro hclaim
  have hquiet := hclaim {}
    (checkSent ++ [(undisturbed, .togglePlay), (undisturbed, .healthCheck 0 true)]) (by decide)
  exact absurd hquiet (by decide)

end CameraStack.Player
