/-
# What a turn of the player changes

A turn changes the state, the generation and the connection by the events it handles and by
nothing else: it is a sequence of moves, each of which handles an event or leaves all of this as
it is.  What one move preserves, every run preserves.
-/

import Mathlib.Logic.Relation
import CameraStack.Player.Controller

namespace CameraStack.Player

open CameraStack.Lib

namespace Controller

variable {cfg : PlayerConfig} {env : Surroundings} {p q r : Controller}

/-! ## What a turn changes -/

/-- A playing player is connected. -/
def Gated (p : Controller) : Prop :=
  p.state = .playing → p.webrtcUp = true ∧ p.firstFrameLatch = true

/-- The same state, generation, connection and history. -/
structure SameCore (p q : Controller) : Prop where
  state : q.state = p.state
  token : q.sessionToken = p.sessionToken
  webrtcUp : q.webrtcUp = p.webrtcUp
  firstFrameLatch : q.firstFrameLatch = p.firstFrameLatch
  handled : q.handled = p.handled

theorem SameCore.refl (p : Controller) : SameCore p p := ⟨rfl, rfl, rfl, rfl, rfl⟩

theorem SameCore.trans (hpq : SameCore p q) (hqr : SameCore q r) : SameCore p r where
  state := hqr.state.trans hpq.state
  token := hqr.token.trans hpq.token
  webrtcUp := hqr.webrtcUp.trans hpq.webrtcUp
  firstFrameLatch := hqr.firstFrameLatch.trans hpq.firstFrameLatch
  handled := hqr.handled.trans hpq.handled

theorem SameCore.gated (h : SameCore p q) (hgated : p.Gated) : q.Gated := by
  intro hplaying
  rw [h.webrtcUp, h.firstFrameLatch]
  exact hgated (h.state.symm.trans hplaying)

/-! ## Moves -/

/-- What the state machine makes of an event. -/
def transitioned (cfg : PlayerConfig) (event : PlayerEvent) (p : Controller) : Controller :=
  (p.record event (gatedTransition event p.snapshot).next.state).applySnapshot cfg
    (gatedTransition event p.snapshot).next

/-- What is noted of an event. -/
def entry (p : Controller) (event : PlayerEvent) : Handled :=
  ⟨event, p.state, (gatedTransition event p.snapshot).next.state, refused event p.snapshot⟩

theorem sameCore_runConnectFlow (p : Controller) : SameCore p p.runConnectFlow := by
  rw [runConnectFlow]
  split_ifs
  · exact SameCore.refl p
  · exact ⟨rfl, rfl, rfl, rfl, rfl⟩

/-- One move: an event that is handled, a connect flow that begins, one that goes on if that may
happen, or anything that leaves the core and the connect flows as they are. -/
inductive Move (cfg : PlayerConfig) (flow : Prop) (p : Controller) : Controller → Prop
  | same {q : Controller} (h : SameCore p q) (hconnects : q.connects = p.connects) :
      Move cfg flow p q
  | begins : Move cfg flow p p.runConnectFlow
  | goesOn {q : Controller} (h : SameCore p q) (hflow : flow) : Move cfg flow p q
  | event (event : PlayerEvent) : Move cfg flow p (p.transitioned cfg event)

variable {flow : Prop}

/-- A move handles an event or leaves the core as it is. -/
theorem Move.core (h : Move cfg flow p q) :
    SameCore p q ∨ ∃ event, q = p.transitioned cfg event := by
  cases h with
  | same hsame => exact .inl hsame
  | begins => exact .inl (sameCore_runConnectFlow p)
  | goesOn hsame => exact .inl hsame
  | event event => exact .inr ⟨event, rfl⟩

/-- Any number of moves. -/
abbrev Moves (cfg : PlayerConfig) (flow : Prop) : Controller → Controller → Prop :=
  Relation.ReflTransGen (Move cfg flow)

theorem Moves.same (h : Moves cfg flow p q) (hsame : SameCore q r)
    (hconnects : r.connects = q.connects) : Moves cfg flow p r :=
  h.tail (.same hsame hconnects)

/-- The invariant rule: what every move preserves, any number of moves preserves. -/
theorem Moves.preserve {I : Controller → Prop} (h : Moves cfg flow p q)
    (hmove : ∀ {p q : Controller}, Move cfg flow p q → I p → I q) (hinitial : I p) : I q := by
  induction h with
  | refl => exact hinitial
  | tail _ hlast ih => exact hmove hlast ih

section Actions

variable (cfg env)
variable {fail : Controller → Controller}

/-- An action leaves the core as it is, and the connect flows unless it begins one, or is critical
and fails a player that was left so. -/
theorem perform_core (a : PlayerAction) :
    SameCore p (p.perform cfg env fail a) ∧
        ((p.perform cfg env fail a).connects = p.connects ∨
          p.perform cfg env fail a = p.runConnectFlow) ∨
      a.type.critical = true ∧ ∃ q, SameCore p q ∧ q.connects = p.connects ∧
        p.perform cfg env fail a = fail q := by
  cases a with
  | startJanus => exact .inl ⟨sameCore_runConnectFlow p, .inr rfl⟩
  | startReconnectTimer reason severity =>
      rw [perform]
      have hrequest : ∀ s : Coordinator, SameCore p { p with reconnect := s } :=
        fun _ => ⟨rfl, rfl, rfl, rfl, rfl⟩
      rcases p.reconnect.request_signals cfg.toConfig (p.context cfg env)
          (reasonOr reason "unknown") (severity.getD 1) with hnone | ⟨pending, hend⟩
      · rw [hnone]
        exact .inl ⟨hrequest _, .inl rfl⟩
      · rw [hend]
        exact .inr ⟨rfl, { p with
          reconnect := (p.reconnect.request cfg.toConfig (p.context cfg env)
            (reasonOr reason "unknown") (severity.getD 1)).1 }, hrequest _, rfl, rfl⟩
  | armTrackMuteTimer trackId =>
      rw [perform]
      split_ifs
      · exact .inl ⟨SameCore.refl p, .inl rfl⟩
      · exact .inl ⟨⟨rfl, rfl, rfl, rfl, rfl⟩, .inl rfl⟩
  | startReconnectSettle =>
      rw [perform]
      split_ifs
      · exact .inl ⟨⟨rfl, rfl, rfl, rfl, rfl⟩, .inl rfl⟩
      · exact .inl ⟨SameCore.refl p, .inl rfl⟩
  | stopJanus | stopStreaming | log | render | cancelAllTimers | armIceGrace | cancelIceGrace
  | disarmTrackMuteTimer | markDegraded | bindStream =>
      exact .inl ⟨⟨rfl, rfl, rfl, rfl, rfl⟩, .inl rfl⟩

/-- What depends on the core, and what a failure brings about, holds after the actions. -/
theorem executeActions_induction {I : Controller → Prop}
    (hframe : ∀ {p q : Controller}, SameCore p q →
      q.connects = p.connects ∨ q = p.runConnectFlow → I p → I q)
    (hfail : ∀ {p : Controller}, I p → I (fail p)) (next : PlayerState)
    (actions : List PlayerAction) (h : I p) : I (executeActions cfg env fail next actions p) := by
  induction actions generalizing p with
  | nil => exact h
  | cons a rest ih =>
      have hsame : SameCore p { p with throws := p.throws.tail } := ⟨rfl, rfl, rfl, rfl, rfl⟩
      have htail : I { p with throws := p.throws.tail } := hframe hsame (.inl rfl) h
      rw [executeActions]
      split_ifs
      · exact hfail htail
      · exact ih htail
      · refine ih ?_
        rcases perform_core cfg env a with ⟨hperformed, hconnects⟩ | ⟨-, q, hfailing, hsame, hfailed⟩
        · exact hframe hperformed hconnects htail
        · rw [hfailed]
          exact hfail (hframe hfailing (.inl hsame) htail)

/-- Actions that are not critical leave the core as it is. -/
theorem executeActions_core (fail : Controller → Controller) (next : PlayerState)
    {actions : List PlayerAction} (h : ∀ a ∈ actions, a.type.critical = false) :
    SameCore p (executeActions cfg env fail next actions p) := by
  induction actions generalizing p with
  | nil => exact SameCore.refl p
  | cons a rest ih =>
      have hsame : SameCore p { p with throws := p.throws.tail } := ⟨rfl, rfl, rfl, rfl, rfl⟩
      have hrest : ∀ a' ∈ rest, a'.type.critical = false := fun a' ha' =>
        h a' (List.mem_cons_of_mem a ha')
      have hcalm := h a List.mem_cons_self
      rw [executeActions]
      split_ifs with hthrown hcritical
      · rw [hcalm] at hcritical
        cases hcritical
      · exact hsame.trans (ih hrest)
      · rcases perform_core cfg env a with ⟨hperformed, -⟩ | ⟨hcritical, -⟩
        · exact (hsame.trans hperformed).trans (ih hrest)
        · rw [hcalm] at hcritical
          cases hcritical

/-- Actions move where failing does. -/
theorem moves_executeActions (hfail : ∀ q : Controller, Moves cfg flow q (fail q)) (next : PlayerState)
    (actions : List PlayerAction) (p : Controller) :
    Moves cfg flow p (executeActions cfg env fail next actions p) :=
  executeActions_induction cfg env (fun hsame hconnects hmoves => hmoves.tail (by
      rcases hconnects with hkept | rfl
      · exact .same hsame hkept
      · exact .begins))
    (fun hmoves => hmoves.trans (hfail _)) next actions .refl

/-- However deep it nests, to handle an event is to move. -/
theorem moves_handleEventNested (depth : ℕ) (event : PlayerEvent) (generation : Option ℕ)
    (p : Controller) : Moves cfg flow p (handleEventNested cfg env depth event generation p) := by
  induction depth generalizing event generation p with
  | zero => exact .refl
  | succ depth ih =>
      rw [handleEventNested]
      split_ifs with hstale
      · exact .refl
      · have hfail : ∀ q : Controller, Moves cfg flow q (handleEventNested cfg env depth
            (.forceError none) (some q.sessionToken) { q with desiredPlaying := false }) := by
          intro q
          have hundesired : Moves cfg flow q { q with desiredPlaying := false } :=
            Moves.same .refl ⟨rfl, rfl, rfl, rfl, rfl⟩ rfl
          exact hundesired.trans (ih _ _ _)
        have hnoted : Moves cfg flow p (p.transitioned cfg event) := .single (.event event)
        have hacted : Moves cfg flow p _ := hnoted.trans
          (moves_executeActions cfg env hfail (gatedTransition event p.snapshot).next.state
            (gatedTransition event p.snapshot).actions (p.transitioned cfg event))
        simp only
        split_ifs
        · exact hacted.same ⟨rfl, rfl, rfl, rfl, rfl⟩ rfl
        · exact hacted

/-- An event of the current generation is noted at once. -/
theorem moves_dispatch (event : PlayerEvent) (p : Controller) :
    Moves cfg flow (p.transitioned cfg event) (p.dispatch cfg env event) := by
  rw [dispatch, handleEvent, handleEventNested_current]
  have hfail : ∀ q : Controller, Moves cfg flow q (handleEventNested cfg env (p.throws.length + 1)
      (.forceError none) (some q.sessionToken) { q with desiredPlaying := false }) := by
    intro q
    have hundesired : Moves cfg flow q { q with desiredPlaying := false } :=
      Moves.same .refl ⟨rfl, rfl, rfl, rfl, rfl⟩ rfl
    exact hundesired.trans (moves_handleEventNested cfg env _ _ _ _)
  have hacted := moves_executeActions cfg env hfail (gatedTransition event p.snapshot).next.state
    (gatedTransition event p.snapshot).actions (p.transitioned cfg event)
  simp only
  split_ifs
  · exact hacted.same ⟨rfl, rfl, rfl, rfl, rfl⟩ rfl
  · exact hacted

end Actions

/-! ## Handlers move -/

theorem Moves.handleEvent (h : Moves cfg flow p q) (event : PlayerEvent) (generation : Option ℕ) :
    Moves cfg flow p (q.handleEvent cfg env event generation) :=
  h.trans (moves_handleEventNested cfg env _ event generation q)

theorem Moves.dispatch (h : Moves cfg flow p q) (event : PlayerEvent) :
    Moves cfg flow p (q.dispatch cfg env event) :=
  h.handleEvent event _

theorem Moves.fail (h : Moves cfg flow p q) : Moves cfg flow p (q.fail cfg env) := by
  have hundesired : Moves cfg flow p { q with desiredPlaying := false } :=
    h.same ⟨rfl, rfl, rfl, rfl, rfl⟩ rfl
  exact hundesired.handleEvent _ _

theorem Moves.executeRecoveryAttempt (h : Moves cfg flow p q) (ctx : AttemptContext) :
    Moves cfg flow p (q.executeRecoveryAttempt cfg env ctx) := by
  rw [Controller.executeRecoveryAttempt]
  have hstarted : Moves cfg flow p (q.handleEvent cfg env .recoveryAttemptStarted (some ctx.token)) :=
    h.handleEvent _ _
  simp only
  split_ifs
  · exact h
  · split
    all_goals exact hstarted.same ⟨rfl, rfl, rfl, rfl, rfl⟩ rfl
  · split
    all_goals exact hstarted.same ⟨rfl, rfl, rfl, rfl, rfl⟩ rfl

theorem Moves.signal (h : Moves cfg flow p q) (o : Signal) : Moves cfg flow p (q.signal cfg env o) := by
  cases o with
  | onSuccess =>
      have hsettled : Moves cfg flow p { q with degraded := false } :=
        h.same ⟨rfl, rfl, rfl, rfl, rfl⟩ rfl
      exact hsettled.dispatch .reconnectSuccess
  | onExhausted => exact h.fail
  | executeAttempt ctx => exact h.executeRecoveryAttempt ctx
  | zeroed => exact h

theorem Moves.callReconnect (h : Moves cfg flow p q) (result : Coordinator × List Signal) :
    Moves cfg flow p (q.callReconnect cfg env result) := by
  rw [Controller.callReconnect]
  have hchanged : Moves cfg flow p { q with reconnect := result.1 } :=
    h.same ⟨rfl, rfl, rfl, rfl, rfl⟩ rfl
  generalize ({ q with reconnect := result.1 } : Controller) = q at hchanged
  induction result.2 generalizing q with
  | nil => exact hchanged
  | cons o rest ih => exact ih _ (hchanged.signal o)

theorem Moves.reconnectEvent (h : Moves cfg flow p q) (event : CoordinatorEvent) :
    Moves cfg flow p (q.reconnectEvent cfg env event) :=
  h.callReconnect _

theorem Moves.tryNotifyRecovered (h : Moves cfg flow p q) :
    Moves cfg flow p (q.tryNotifyRecovered cfg env) := by
  rw [Controller.tryNotifyRecovered]
  split_ifs
  · exact h
  · exact h
  · exact h.reconnectEvent _

theorem Moves.requestRecovery (h : Moves cfg flow p q) (reason : String) (severity : ℕ) :
    Moves cfg flow p (q.requestRecovery cfg env reason severity) := by
  rw [Controller.requestRecovery]
  split_ifs
  · exact h
  · exact h
  · exact h
  · exact h.dispatch _

theorem Moves.handleStreamFailure (h : Moves cfg flow p q) (reason : String) (severity : ℕ) :
    Moves cfg flow p (q.handleStreamFailure cfg env reason severity) := by
  rw [Controller.handleStreamFailure]
  split_ifs
  · exact h.reconnectEvent _
  · exact h.requestRecovery reason severity

theorem Moves.applyPolicy (h : Moves cfg flow p q) (event : DomainEvent) :
    Moves cfg flow p (q.applyPolicy cfg env event) := by
  rw [Controller.applyPolicy]
  generalize decidePolicy event _ = decision
  cases decision with
  | noOp => exact h
  | markDegraded => exact h.dispatch _
  | requestRecovery reason severity => exact h.handleStreamFailure reason severity

theorem Moves.togglePlay (h : Moves cfg flow p q) : Moves cfg flow p (q.togglePlay cfg env) := by
  have hdesired : ∀ desired, Moves cfg flow p { q with desiredPlaying := desired } := fun _ =>
    h.same ⟨rfl, rfl, rfl, rfl, rfl⟩ rfl
  rw [Controller.togglePlay]
  split_ifs
  · exact (hdesired false).dispatch _
  · exact (hdesired true).dispatch _

theorem Moves.retry (h : Moves cfg flow p q) : Moves cfg flow p (q.retry cfg env) := by
  have hdesired : Moves cfg flow p { q with desiredPlaying := true } :=
    h.same ⟨rfl, rfl, rfl, rfl, rfl⟩ rfl
  exact hdesired.dispatch .reset

theorem Moves.autoplay (h : Moves cfg flow p q) : Moves cfg flow p (q.autoplay cfg env) := by
  have hdesired : Moves cfg flow p { q with desiredPlaying := true } :=
    h.same ⟨rfl, rfl, rfl, rfl, rfl⟩ rfl
  exact hdesired.dispatch .playRequest

theorem Moves.onVisibilityChange (h : Moves cfg flow p q) :
    Moves cfg flow p (q.onVisibilityChange cfg env) := by
  rw [Controller.onVisibilityChange]
  split_ifs
  · exact h.same ⟨rfl, rfl, rfl, rfl, rfl⟩ rfl
  · have hback : Moves cfg flow p { q with tabHiddenAt := none } := h.same ⟨rfl, rfl, rfl, rfl, rfl⟩ rfl
    have hescalated : Moves cfg flow p { q with
        tabHiddenAt := none
        reconnect := q.reconnect.escalate hard } := h.same ⟨rfl, rfl, rfl, rfl, rfl⟩ rfl
    have hresumed : ∀ {r : Controller}, Moves cfg flow p r → Moves cfg flow p
        (if (r.reconnectEvent cfg env .resumeIfPending).reconnect.pending.isNone = true ∧
            (r.reconnectEvent cfg env .resumeIfPending).reconnect.inFlight = false then
          Controller.retry cfg env (r.reconnectEvent cfg env .resumeIfPending)
        else r.reconnectEvent cfg env .resumeIfPending) := by
      intro r hr
      split_ifs
      · exact (hr.reconnectEvent _).retry
      · exact hr.reconnectEvent _
    simp only
    split
    case h_1 => exact hback.retry
    case h_2 =>
      refine hresumed ?_
      split_ifs
      · exact hescalated
      · exact hback
    case h_5 => exact hback
    all_goals
      split_ifs
      · exact hback.requestRecovery _ _
      · exact hback

theorem Moves.onElementVisibilityChange (h : Moves cfg flow p q) (visible : Bool) :
    Moves cfg flow p (q.onElementVisibilityChange cfg env visible) := by
  rw [Controller.onElementVisibilityChange]
  split_ifs
  · exact h.reconnectEvent _
  · exact h

theorem Moves.onNetworkOnline (h : Moves cfg flow p q) : Moves cfg flow p (q.onNetworkOnline cfg env) := by
  have hcleared : Moves cfg flow p { q with errorRetryCount := 0 } := h.same ⟨rfl, rfl, rfl, rfl, rfl⟩ rfl
  rw [Controller.onNetworkOnline]
  simp only
  split
  case h_1 => exact h.same ⟨rfl, rfl, rfl, rfl, rfl⟩ rfl
  case h_2 => exact (hcleared.reconnectEvent _).reconnectEvent _
  case h_3 =>
    split_ifs
    all_goals first | exact hcleared | exact hcleared.requestRecovery _ _
  all_goals exact hcleared

theorem Moves.onErrorRetry (h : Moves cfg flow p q) : Moves cfg flow p (q.onErrorRetry cfg env) := by
  have hfired : Moves cfg flow p { q with errorRetryTimer := false } :=
    h.same ⟨rfl, rfl, rfl, rfl, rfl⟩ rfl
  rw [Controller.onErrorRetry]
  simp only
  split_ifs
  · exact h
  · exact hfired
  · exact hfired.retry

theorem Moves.report (h : Moves cfg flow p q) (event : PlayerEvent) :
    Moves cfg flow p (q.report cfg env event) := by
  rw [Controller.report]
  split_ifs
  · exact h.dispatch event
  · exact h

theorem Moves.onStreamEvent (h : Moves cfg flow p q) (token : Option ℕ) (event : StreamEvent) :
    Moves cfg flow p (q.onStreamEvent cfg env token event) := by
  unfold Controller.onStreamEvent
  split
  · exact h
  split
  · exact h
  · cases event with
    | iceState state =>
        simp only
        split_ifs
        · exact h.report _
        · exact h.report _
    | webrtcState up reason =>
        have hreported : Moves cfg flow p (if up = true ∨ q.state ≠ .playing then
            q.report cfg env (.webrtcReport up) else q) := by
          split_ifs
          · exact h.report _
          · exact h
        cases up with
        | true => exact hreported.tryNotifyRecovered
        | false => exact hreported.applyPolicy _
    | hangup | trackEnded => exact h.applyPolicy _
    | track on =>
        cases on with
        | true => exact h.report _
        | false => exact h
    | trackMuted trackId | trackUnmuted trackId => exact h.report _
    | sessionReset =>
        simp only
        split_ifs
        · exact h.reconnectEvent _
        · exact (h.report _).applyPolicy _
    | error code message =>
        simp only
        split_ifs
        · exact h.handleStreamFailure _ _
        · exact h.applyPolicy _
    | streamingOfferReceived => exact h.report _
    | other => exact h

theorem Moves.onFrameReceived (h : Moves cfg flow p q) : Moves cfg flow p (q.onFrameReceived cfg env) := by
  have hfirst : Moves cfg flow p (if q.firstFrameLatch = false ∧ q.webrtcUp = true ∧
      q.canTransitionOnFrame = true then q.dispatch cfg env .firstFrameReceived else q) := by
    split_ifs
    · exact h.dispatch _
    · exact h
  rw [Controller.onFrameReceived]
  generalize (if q.firstFrameLatch = false ∧ q.webrtcUp = true ∧
    q.canTransitionOnFrame = true then q.dispatch cfg env .firstFrameReceived else q) = q at hfirst
  split_ifs
  · exact hfirst
  · exact hfirst
  · exact hfirst
  · have hnotified : Moves cfg flow p { q with recoveryNotified := true } :=
      hfirst.same ⟨rfl, rfl, rfl, rfl, rfl⟩ rfl
    exact hnotified.tryNotifyRecovered.dispatch _

theorem Moves.onWatchdogTimeout (h : Moves cfg flow p q) :
    Moves cfg flow p (q.onWatchdogTimeout cfg env) := by
  rw [Controller.onWatchdogTimeout]
  split_ifs
  · exact h
  · exact h.applyPolicy _
  · exact h

theorem Moves.onFpsDrop (h : Moves cfg flow p q) : Moves cfg flow p (q.onFpsDrop cfg env) := by
  rw [Controller.onFpsDrop]
  split_ifs
  · exact h
  · exact h
  · exact h.applyPolicy _

theorem Moves.onVideoStalled (h : Moves cfg flow p q) : Moves cfg flow p (q.onVideoStalled cfg env) := by
  rw [Controller.onVideoStalled]
  split_ifs
  · exact h
  · exact h
  · exact h.applyPolicy _

theorem Moves.onIceGrace (h : Moves cfg flow p q) : Moves cfg flow p (q.onIceGrace cfg env) := by
  have hfired : Moves cfg flow p { q with iceGrace := false } := h.same ⟨rfl, rfl, rfl, rfl, rfl⟩ rfl
  rw [Controller.onIceGrace]
  simp only
  split_ifs
  · exact h
  · exact hfired.applyPolicy _
  · exact hfired

theorem Moves.onTrackMute (h : Moves cfg flow p q) (trackId : String) :
    Moves cfg flow p (q.onTrackMute cfg env trackId) := by
  have hfired : Moves cfg flow p { q with trackMutes := q.trackMutes.filter fun id => id ≠ trackId } :=
    h.same ⟨rfl, rfl, rfl, rfl, rfl⟩ rfl
  rw [Controller.onTrackMute]
  split_ifs
  · exact hfired.applyPolicy _
  · exact h

/-- A flow fails the player or leaves the core as it is. -/
theorem Moves.connectContinues (h : Moves cfg flow p q) (hflow : flow) (i : ℕ)
    (outcome : FlowOutcome) :
    Moves cfg flow p (q.connectContinues cfg env i outcome) := by
  rw [Controller.connectContinues]
  cases q.connects[i]? with
  | none => exact h
  | some f =>
      have hgoesOn : ∀ {r : Controller}, SameCore q r → Moves cfg flow p r := fun hsame =>
        h.tail (.goesOn hsame hflow)
      have hended : Moves cfg flow p (q.endConnect i) := hgoesOn ⟨rfl, rfl, rfl, rfl, rfl⟩
      have hawaits : ∀ step, Moves cfg flow p (q.awaitConnect i f.token step) := fun _ =>
        hgoesOn ⟨rfl, rfl, rfl, rfl, rfl⟩
      have hfailed : Moves cfg flow p ((q.fail cfg env).endConnect i) :=
        h.fail.tail (.goesOn ⟨rfl, rfl, rfl, rfl, rfl⟩ hflow)
      simp only
      split
      all_goals try split_ifs
      all_goals first
        | exact h
        | exact hended
        | exact hfailed
        | exact hawaits _
        | exact hgoesOn ⟨rfl, rfl, rfl, rfl, rfl⟩

theorem sameCore_recoveryContinues (i : ℕ) (outcome : FlowOutcome) :
    SameCore q (q.recoveryContinues i outcome) ∧
      (q.recoveryContinues i outcome).connects = q.connects := by
  rw [Controller.recoveryContinues]
  cases q.recoveries[i]? with
  | none => exact ⟨SameCore.refl q, rfl⟩
  | some flow =>
      simp only
      split
      all_goals try split_ifs
      all_goals exact ⟨⟨rfl, rfl, rfl, rfl, rfl⟩, rfl⟩

/-- Every turn moves, and a connect flow goes on only in a turn of its own. -/
theorem moves_turn (p : Controller) (turn : Surroundings × PlayerInput)
    (hflow : ∀ i outcome, turn.2 = .connect i outcome → flow) :
    Moves cfg flow p ((playerMachine cfg).next p turn) := by
  obtain ⟨env, input⟩ := turn
  have hbegun : Moves cfg flow p { p with throws := env.throws } :=
    Moves.same .refl ⟨rfl, rfl, rfl, rfl, rfl⟩ rfl
  cases input with
  | autoplay => exact hbegun.autoplay
  | togglePlay => exact hbegun.togglePlay
  | retry => exact hbegun.retry
  | streamEvent token event => exact hbegun.onStreamEvent token event
  | frame => exact hbegun.onFrameReceived
  | videoStalled => exact hbegun.onVideoStalled
  | watchdogTimeout => exact hbegun.onWatchdogTimeout
  | fpsDrop => exact hbegun.onFpsDrop
  | iceGrace => exact hbegun.onIceGrace
  | trackMute trackId => exact hbegun.onTrackMute trackId
  | visibilityChange => exact hbegun.onVisibilityChange
  | elementVisibilityChange visible => exact hbegun.onElementVisibilityChange visible
  | networkOnline => exact hbegun.onNetworkOnline
  | errorRetry => exact hbegun.onErrorRetry
  | connect i outcome => exact hbegun.connectContinues (hflow i outcome rfl) i outcome
  | recovery i outcome =>
      obtain ⟨hsame, hconnects⟩ := @sameCore_recoveryContinues { p with throws := env.throws } i outcome
      exact hbegun.same hsame hconnects
  | reconnectTimer | healthCheck | raceSettled => exact hbegun.reconnectEvent _

/-! ## What moves preserve -/

section Preserved

theorem transitioned_state (event : PlayerEvent) :
    (p.transitioned cfg event).state = (gatedTransition event p.snapshot).next.state :=
  applySnapshot_state _ _ _

theorem transitioned_handled (event : PlayerEvent) :
    (p.transitioned cfg event).handled = p.handled ++ [p.entry event] :=
  applySnapshot_handled _ _ _

theorem invariantGate_playing {next : Snapshot} (hgate : invariantGate next = none)
    (hplaying : next.state = .playing) :
    next.webrtcUp = true ∧ next.firstFrameReceived = true := by
  rw [invariantGate, hplaying] at hgate
  simp only at hgate
  split_ifs at hgate with hdown hfirst
  exact ⟨Bool.eq_true_of_not_eq_false hdown, Bool.eq_true_of_not_eq_false hfirst⟩

/-- The gate lets a player play that is connected. -/
theorem gated_transitioned (event : PlayerEvent) : (p.transitioned cfg event).Gated := by
  intro hplaying
  rw [transitioned_state] at hplaying
  have hgate : (gatedTransition event p.snapshot).next.webrtcUp = true ∧
      (gatedTransition event p.snapshot).next.firstFrameReceived = true := by
    rw [gatedTransition] at hplaying ⊢
    cases hchecked : invariantGate (transition event p.snapshot).next with
    | none =>
        rw [hchecked] at hplaying
        exact invariantGate_playing hchecked hplaying
    | some message =>
        rw [hchecked] at hplaying
        cases hplaying
  rw [transitioned, applySnapshot_webrtcUp, applySnapshot_firstFrameLatch]
  exact hgate

theorem Move.gated (h : Move cfg flow p q) (hgated : p.Gated) : q.Gated := by
  rcases h.core with hsame | ⟨event, rfl⟩
  · exact hsame.gated hgated
  · exact gated_transitioned event

/-- The state is what the last event has led to. -/
def Logged (p : Controller) : Prop :=
  p.state = (p.handled.getLast?.map Handled.next).getD .idle

theorem Move.logged (h : Move cfg flow p q) (hlogged : p.Logged) : q.Logged := by
  rcases h.core with hsame | ⟨event, rfl⟩
  · rw [Logged, hsame.state, hsame.handled]
    exact hlogged
  · rw [Logged, transitioned_handled, transitioned_state, List.getLast?_concat]
    rfl

/-- The history is only added to. -/
theorem Move.history (h : Move cfg flow p q) : p.handled <+: q.handled := by
  rcases h.core with hsame | ⟨event, rfl⟩
  · exact ⟨[], by rw [hsame.handled, List.append_nil]⟩
  · exact ⟨_, (transitioned_handled event).symm⟩

theorem Moves.history (h : Moves cfg flow p q) : p.handled <+: q.handled := by
  induction h with
  | refl => exact List.prefix_refl _
  | tail _ hlast ih => exact ih.trans hlast.history

end Preserved

end Controller

end CameraStack.Player
