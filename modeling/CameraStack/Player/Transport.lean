/-
# Trouble of the transport

What happens to the stream while the player is active is translated, state by state, into events
of the state machine.  The translation asks for a recovery where it can, so that trouble of the
transport leads to RECONNECTING and not to ERROR.  Two translations miss: a failed ICE
connection is reported in RECONNECTING, where the state machine does not know it, and a session
reset is reported as a connection that is down while the player plays, which the gate refuses.
-/

import CameraStack.Player.Moves

namespace CameraStack.Player

open CameraStack.Lib

/-! ## What an active player can be told -/

/-- A snapshot of an active state that the gate lets through. -/
structure Snapshot.Sound (snap : Snapshot) : Prop where
  active : snap.state.stopped = false
  playing : snap.state = .playing → snap.webrtcUp = true ∧ snap.firstFrameReceived = true
  reconnecting : snap.state = .reconnecting → 1 ≤ snap.reconnectAttempts

/-- What leaves an active player active. -/
def Snapshot.Tellable (snap : Snapshot) : PlayerEvent → Prop
  | .webrtcReport up => up = true ∨ snap.state ≠ .playing
  | .iceFailed .. => snap.state ≠ .reconnecting
  | .trackMuted trackId | .trackUnmuted trackId => trackId.isSome = true
  | .streamRecovered => snap.state = .connecting → snap.firstFrameReceived = true
  | .reconnectSuccess => snap.state ≠ .connecting
  | .iceReport _ | .trackReady | .policyMarkDegraded | .firstFrameReceived
  | .reconnectScheduled .. | .streamingOfferReceived => True
  | _ => False

/-- The gate lets every sound snapshot through. -/
theorem Snapshot.Sound.gate {snap : Snapshot} (h : snap.Sound) : invariantGate snap = none := by
  have hactive := h.active
  rw [invariantGate]
  cases hstate : snap.state with
  | connecting => rfl
  | playing => simp [h.playing hstate]
  | reconnecting => simp [Nat.one_le_iff_ne_zero.mp (h.reconnecting hstate)]
  | idle | error =>
      rw [hstate] at hactive
      cases hactive

/-- What the three active states have in common. -/
theorem Snapshot.Sound.common {snap : Snapshot} {event : PlayerEvent} (h : snap.Sound)
    (htold : snap.Tellable event) {result : TransitionResult}
    (hcommon : handleActiveCommon event snap = some result) :
    result.next.Sound ∧ result.actions.head? ≠ some (.log "Invalid transition") := by
  obtain ⟨hactive, hplaying, hreconnecting⟩ := h
  unfold handleActiveCommon at hcommon
  split at hcommon
  case h_1 up =>
    cases hcommon
    refine ⟨⟨hactive, fun hstate => ⟨htold.resolve_right (not_not.mpr hstate), (hplaying hstate).2⟩,
      hreconnecting⟩, by simp⟩
  case h_2 reported =>
    cases hcommon
    refine ⟨⟨hactive, hplaying, hreconnecting⟩, ?_⟩
    simp only
    split_ifs
    all_goals simp
  case h_7 =>
    cases hcommon
    exact ⟨⟨hactive, fun hstate => ⟨(hplaying hstate).1, rfl⟩, hreconnecting⟩, by simp⟩
  case h_8 => cases hcommon
  all_goals
    cases hcommon
    exact ⟨⟨hactive, hplaying, hreconnecting⟩, by simp⟩

/-- The active states agree on what they have in common. -/
theorem transition_common {snap : Snapshot} {event : PlayerEvent} {result : TransitionResult}
    (hactive : snap.state.stopped = false) (hcommon : handleActiveCommon event snap = some result) :
    transition event snap = result := by
  have hresult : activeCommon event snap = result := by rw [activeCommon, hcommon, Option.getD_some]
  unfold handleActiveCommon at hcommon
  cases hstate : snap.state with
  | idle | error =>
      rw [hstate] at hactive
      cases hactive
  | connecting | playing | reconnecting =>
      split at hcommon
      case h_8 => cases hcommon
      all_goals
        unfold transition
        rw [hstate]
        exact hresult

theorem sound_toReconnecting (snap : Snapshot) (webrtcUp : Bool) (reason : Option String)
    (severity : Option ℕ) : (toReconnecting snap webrtcUp reason severity).next.Sound where
  active := rfl
  playing hstate := by cases hstate
  reconnecting _ := Nat.succ_pos _

theorem sound_toPlaying {snap : Snapshot} {firstFrameReceived : Bool} (h : firstFrameReceived = true)
    (actions : List PlayerAction) : (toPlaying snap firstFrameReceived actions).next.Sound where
  active := rfl
  playing _ := ⟨rfl, h⟩
  reconnecting hstate := by cases hstate

theorem Snapshot.Sound.transition {snap : Snapshot} {event : PlayerEvent} (h : snap.Sound)
    (htold : snap.Tellable event) : (Player.transition event snap).next.Sound ∧
      (Player.transition event snap).actions.head? ≠ some (.log "Invalid transition") := by
  have hcommon : ∀ result, handleActiveCommon event snap = some result →
      (Player.transition event snap).next.Sound ∧
        (Player.transition event snap).actions.head? ≠ some (.log "Invalid transition") := by
    intro result hresult
    rw [transition_common h.active hresult]
    exact h.common htold hresult
  have hactive := h.active
  cases event with
  | webrtcReport | iceReport | trackReady | policyMarkDegraded | firstFrameReceived =>
      exact hcommon _ rfl
  | trackMuted trackId | trackUnmuted trackId =>
      cases trackId with
      | none => cases htold
      | some trackId => exact hcommon _ rfl
  | iceFailed reason severity =>
      cases hstate : snap.state with
      | idle | error => rw [hstate] at hactive; cases hactive
      | reconnecting => exact absurd hstate htold
      | connecting | playing =>
          unfold Player.transition
          rw [hstate]
          exact ⟨sound_toReconnecting _ _ _ _, by simp [toReconnecting]⟩
  | reconnectScheduled reason severity =>
      cases hstate : snap.state with
      | idle | error => rw [hstate] at hactive; cases hactive
      | connecting | playing =>
          unfold Player.transition
          rw [hstate]
          exact ⟨sound_toReconnecting _ _ _ _, by simp [toReconnecting]⟩
      | reconnecting =>
          unfold Player.transition
          rw [hstate]
          exact ⟨⟨rfl, fun hplaying => (by cases hplaying), fun _ => le_max_left 1 _⟩, by simp⟩
  | streamRecovered =>
      cases hstate : snap.state with
      | idle | error => rw [hstate] at hactive; cases hactive
      | connecting =>
          unfold Player.transition
          rw [hstate]
          exact ⟨sound_toPlaying (htold hstate) _, by simp [toPlaying]⟩
      | playing =>
          unfold Player.transition
          rw [hstate]
          exact ⟨h, by simp⟩
      | reconnecting =>
          unfold Player.transition
          rw [hstate]
          exact ⟨sound_toPlaying rfl _, by simp [toPlaying]⟩
  | reconnectSuccess =>
      cases hstate : snap.state with
      | idle | error => rw [hstate] at hactive; cases hactive
      | connecting => exact absurd hstate htold
      | playing =>
          unfold Player.transition
          rw [hstate]
          exact ⟨h, by simp⟩
      | reconnecting =>
          unfold Player.transition
          rw [hstate]
          exact ⟨sound_toPlaying rfl _, by simp [toPlaying]⟩
  | streamingOfferReceived =>
      cases hstate : snap.state with
      | idle | error => rw [hstate] at hactive; cases hactive
      | connecting | playing | reconnecting =>
          unfold Player.transition
          rw [hstate]
          exact ⟨h, by simp⟩
  | playRequest | stopRequest | webrtcUp | webrtcDown | reconnectExhausted | reset | connectFailed
  | forceError | recoveryAttemptStarted => exact htold.elim
/-! ## Sound histories -/

/-- `FORCE_ERROR`. -/
def PlayerEvent.forces : PlayerEvent → Bool
  | .forceError _ => true
  | _ => false

/-- The event was not refused, and if it led to ERROR it was `FORCE_ERROR`. -/
def Handled.sound (h : Handled) : Bool :=
  !h.refused && (decide (h.next ≠ .error) || h.event.forces)

/-- What was handled in between, and all of it is sound. -/
def Controller.Soundly (p q : Controller) : Prop :=
  ∃ new, q.handled = p.handled ++ new ∧ ∀ h ∈ new, h.sound = true

namespace Controller

variable {cfg : PlayerConfig} {env : Surroundings} {p q r : Controller}

theorem Soundly.of_eq (h : q.handled = p.handled) : Soundly p q :=
  ⟨[], by rw [h, List.append_nil], fun _ hmem => absurd hmem List.not_mem_nil⟩

theorem Soundly.trans (hpq : Soundly p q) (hqr : Soundly q r) : Soundly p r := by
  obtain ⟨new, hnew, hsound⟩ := hpq
  obtain ⟨later, hlater, hsound'⟩ := hqr
  refine ⟨new ++ later, by rw [hlater, hnew, List.append_assoc], fun h hmem => ?_⟩
  rcases List.mem_append.mp hmem with hmem | hmem
  · exact hsound h hmem
  · exact hsound' h hmem

/-! ## Sound handling -/

section Sound

theorem entry_forceError (p : Controller) : (p.entry (.forceError none)).sound = true := by
  have hforced : transition (.forceError none) p.snapshot =
      failClosed p.snapshot "Force error" true := rfl
  have hknown : refused (.forceError none) p.snapshot = false := by
    simp [refused, hforced, failClosed, invariantGate]
  rw [Handled.sound, entry, hknown]
  rfl

/-- What an active player can be told is not refused, and leaves it active. -/
theorem entry_tellable {event : PlayerEvent} (h : p.snapshot.Sound)
    (htold : p.snapshot.Tellable event) : (p.entry event).sound = true ∧
      gatedTransition event p.snapshot = transition event p.snapshot := by
  obtain ⟨hsound, hhead⟩ := h.transition htold
  have hgate := hsound.gate
  have hpassed : gatedTransition event p.snapshot = transition event p.snapshot := by
    rw [gatedTransition, hgate]
  have hactive : (transition event p.snapshot).next.state ≠ .error := fun herror => by
    have hstopped := hsound.active
    rw [herror] at hstopped
    cases hstopped
  refine ⟨?_, hpassed⟩
  simp [Handled.sound, entry, refused, hpassed, hgate, hhead, hactive]

/-- An event whose note is sound is handled soundly, whatever throws. -/
theorem handleEventNested_soundly (depth : ℕ) (event : PlayerEvent) (generation : Option ℕ)
    (p : Controller) (h : (p.entry event).sound = true) :
    Soundly p (handleEventNested cfg env depth event generation p) := by
  induction depth generalizing event generation p with
  | zero => exact .of_eq rfl
  | succ depth ih =>
      rw [handleEventNested]
      split_ifs with hstale
      · exact .of_eq rfl
      · have hnoted : Soundly p (p.transitioned cfg event) :=
          ⟨[p.entry event], transitioned_handled event, fun noted hmem => by
            rw [List.mem_singleton.mp hmem]
            exact h⟩
        have hacted : Soundly p (executeActions cfg env
            (fun q => handleEventNested cfg env depth (.forceError none) (some q.sessionToken)
              { q with desiredPlaying := false })
            (gatedTransition event p.snapshot).next.state (gatedTransition event p.snapshot).actions
            (p.transitioned cfg event)) := by
          refine executeActions_induction cfg env (fun hsame _ hsound => ?_) ?_ _ _ hnoted
          · exact hsound.trans (.of_eq hsame.handled)
          · intro q hsound
            refine hsound.trans (Soundly.trans (.of_eq rfl) (ih _ _ { q with desiredPlaying := false } ?_))
            exact entry_forceError _
        simp only
        split_ifs
        · exact hacted.trans (.of_eq rfl)
        · exact hacted

theorem fail_soundly (p : Controller) : Soundly p (p.fail cfg env) :=
  handleEventNested_soundly _ _ _ { p with desiredPlaying := false } (entry_forceError _)

/-- The snapshot of an active player that plays only when it is connected. -/
theorem sound_snapshot (hactive : p.state.stopped = false) (hgated : p.Gated) :
    p.snapshot.Sound where
  active := hactive
  playing := hgated
  reconnecting hstate := by
    have hreconnecting : p.state = .reconnecting := hstate
    rw [snapshot, if_pos hreconnecting]
    exact le_max_left 1 _

theorem dispatch_soundly (hactive : p.state.stopped = false) (hgated : p.Gated)
    {event : PlayerEvent} (htold : p.snapshot.Tellable event) :
    Soundly p (p.dispatch cfg env event) :=
  handleEventNested_soundly _ _ _ p (entry_tellable (sound_snapshot hactive hgated) htold).1

/-- Where no action is critical, an event leads to what the state machine makes of it. -/
theorem dispatch_core {event : PlayerEvent}
    (h : ∀ a ∈ (gatedTransition event p.snapshot).actions, a.type.critical = false) :
    SameCore (p.transitioned cfg event) (p.dispatch cfg env event) := by
  rw [dispatch, handleEvent, handleEventNested_current]
  have hacted : SameCore (p.transitioned cfg event) (executeActions cfg env
      (fun q => handleEventNested cfg env (p.throws.length + 1) (.forceError none)
        (some q.sessionToken) { q with desiredPlaying := false })
      (gatedTransition event p.snapshot).next.state (gatedTransition event p.snapshot).actions
      (p.transitioned cfg event)) := executeActions_core cfg env _ _ h
  simp only
  split_ifs
  · exact hacted.trans ⟨rfl, rfl, rfl, rfl, rfl⟩
  · exact hacted

/-- An event that the active states have in common, and that asks for nothing critical. -/
theorem dispatch_common (hactive : p.state.stopped = false) (hgated : p.Gated)
    {event : PlayerEvent} (htold : p.snapshot.Tellable event) {result : TransitionResult}
    (hcommon : handleActiveCommon event p.snapshot = some result)
    (hcalm : ∀ a ∈ result.actions, a.type.critical = false) :
    (p.dispatch cfg env event).state = result.next.state ∧
      (p.dispatch cfg env event).webrtcUp = result.next.webrtcUp ∧
      (p.dispatch cfg env event).firstFrameLatch = result.next.firstFrameReceived := by
  have hresult : gatedTransition event p.snapshot = result :=
    (entry_tellable (sound_snapshot hactive hgated) htold).2.trans
      (transition_common hactive hcommon)
  have hcore : SameCore (p.transitioned cfg event) (p.dispatch cfg env event) :=
    dispatch_core (by rw [hresult]; exact hcalm)
  rw [hcore.state, hcore.webrtcUp, hcore.firstFrameLatch, transitioned, applySnapshot_state,
    applySnapshot_webrtcUp, applySnapshot_firstFrameLatch, hresult]
  exact ⟨rfl, rfl, rfl⟩

/-- Signals that call for nothing but an end. -/
theorem callReconnect_soundly {result : Coordinator × List Signal}
    (h : result.2 = [] ∨ ∃ pending, result.2 = [.onExhausted pending]) :
    Soundly p (p.callReconnect cfg env result) := by
  have hchanged : Soundly p { p with reconnect := result.1 } := .of_eq rfl
  rw [callReconnect]
  rcases h with hnone | ⟨pending, hend⟩
  · rw [hnone]
    exact hchanged
  · rw [hend]
    exact hchanged.trans (fail_soundly _)

theorem requestRecovery_soundly (hactive : p.state.stopped = false) (hgated : p.Gated)
    (reason : String) (severity : ℕ) :
    Soundly p (p.requestRecovery cfg env reason severity) := by
  rw [requestRecovery]
  split_ifs
  · exact .of_eq rfl
  · exact .of_eq rfl
  · exact .of_eq rfl
  · exact dispatch_soundly hactive hgated trivial

theorem handleStreamFailure_soundly (hactive : p.state.stopped = false) (hgated : p.Gated)
    (reason : String) (severity : ℕ) :
    Soundly p (p.handleStreamFailure cfg env reason severity) := by
  rw [handleStreamFailure]
  split_ifs
  · exact callReconnect_soundly (p.reconnect.notifyAttemptFailed_signals _ _ _ _)
  · exact requestRecovery_soundly hactive hgated reason severity

theorem applyPolicy_soundly (hactive : p.state.stopped = false) (hgated : p.Gated)
    (event : DomainEvent) : Soundly p (p.applyPolicy cfg env event) := by
  rw [applyPolicy]
  generalize decidePolicy event _ = decision
  cases decision with
  | noOp => exact .of_eq rfl
  | markDegraded => exact dispatch_soundly hactive hgated trivial
  | requestRecovery reason severity => exact handleStreamFailure_soundly hactive hgated reason severity

/-- A recovery that is noticed while an attempt is in flight leads to PLAYING. -/
theorem reconnectSuccess_playing (hreconnecting : p.state = .reconnecting) :
    (p.dispatch cfg env .reconnectSuccess).state = .playing := by
  have hresult : transition .reconnectSuccess p.snapshot = toPlaying p.snapshot true [.render] := by
    have hstate : p.snapshot.state = .reconnecting := hreconnecting
    unfold transition
    rw [hstate]
  have hpassed : gatedTransition .reconnectSuccess p.snapshot =
      toPlaying p.snapshot true [.render] := by
    rw [gatedTransition, hresult, (sound_toPlaying rfl _).gate]
  have hcore : SameCore (p.transitioned cfg .reconnectSuccess)
      (p.dispatch cfg env .reconnectSuccess) := by
    refine dispatch_core fun a ha => ?_
    rw [hpassed] at ha
    rw [List.mem_singleton.mp ha]
    rfl
  rw [hcore.state, transitioned_state, hpassed]
  rfl

theorem tryNotifyRecovered_soundly (cfg : PlayerConfig) (env : Surroundings) (hgated : p.Gated) :
    Soundly p (p.tryNotifyRecovered cfg env) ∧
      (SameCore p (p.tryNotifyRecovered cfg env) ∨
        (p.tryNotifyRecovered cfg env).state = .playing) := by
  rw [tryNotifyRecovered]
  split_ifs with hidle hdown
  · exact ⟨.of_eq rfl, .inl (SameCore.refl p)⟩
  · exact ⟨.of_eq rfl, .inl (SameCore.refl p)⟩
  · have hreconnecting : p.state = .reconnecting := not_not.mp (not_or.mp hidle).1
    rw [reconnectEvent, Coordinator.handle, Coordinator.notifyRecovered]
    split_ifs
    · exact ⟨.of_eq rfl, .inl ⟨rfl, rfl, rfl, rfl, rfl⟩⟩
    · refine ⟨Soundly.trans (.of_eq rfl) (dispatch_soundly ?_ ?_ ?_), .inr ?_⟩
      · exact congrArg PlayerState.stopped hreconnecting
      · exact hgated
      · intro hconnecting
        exact absurd (hreconnecting.symm.trans hconnecting) (by decide)
      · exact reconnectSuccess_playing hreconnecting

end Sound

/-! ## Trouble of the transport -/

/-- An event as the adapter sends it: a track that mutes has an id. -/
def StreamEvent.WellFormed : StreamEvent → Prop
  | .trackMuted trackId | .trackUnmuted trackId => trackId.isSome = true
  | _ => True

instance : DecidablePred StreamEvent.WellFormed
  | .trackMuted _ | .trackUnmuted _ => inferInstanceAs (Decidable (_ = true))
  | .iceState _ | .webrtcState .. | .hangup _ | .track _ | .trackEnded | .sessionReset | .error ..
  | .streamingOfferReceived | .other => isTrue trivial

/-- An event of the stream or a frame. -/
def ofStream : PlayerInput → Prop
  | .streamEvent _ event => event.WellFormed
  | .frame => True
  | _ => False

instance : DecidablePred ofStream
  | .streamEvent _ event => inferInstanceAs (Decidable event.WellFormed)
  | .frame => isTrue trivial
  | .autoplay | .togglePlay | .retry | .videoStalled | .watchdogTimeout | .fpsDrop | .iceGrace
  | .trackMute _ | .visibilityChange | .elementVisibilityChange _ | .networkOnline | .errorRetry
  | .connect .. | .recovery .. | .reconnectTimer _ | .healthCheck .. | .raceSettled .. =>
      isFalse id

/-- An event of the stream or a frame reaches an active player that is in view, autonomous and to
play. -/
def Delivered (cfg : PlayerConfig) (p : Controller) (turn : Surroundings × PlayerInput) : Prop :=
  cfg.autonomousEnabled = true ∧ turn.1.hidden = false ∧ p.desiredPlaying = true ∧
    p.state.stopped = false ∧ ofStream turn.2

instance (cfg : PlayerConfig) (p : Controller) (turn : Surroundings × PlayerInput) :
    Decidable (Delivered cfg p turn) :=
  inferInstanceAs (Decidable (_ ∧ _ ∧ _ ∧ _ ∧ _))

/-- ICE has failed while a recovery is under way, or the session is reset under a player that
plays. -/
def Fatal (p : Controller) : PlayerInput → Prop
  | .streamEvent token event => (token.all fun t => t = p.sessionToken) = true ∧
      (event = .iceState "failed" ∧ p.state = .reconnecting ∨
        event = .sessionReset ∧ p.state = .playing)
  | _ => False

/-- Everything handled in between is sound, and only `FORCE_ERROR` has led to ERROR. -/
structure Recovers (p q : Controller) : Prop where
  sound : ∀ h ∈ q.handled.drop p.handled.length, h.sound = true
  forced : q.state = .error → ∃ h ∈ q.handled.drop p.handled.length,
    h.next = .error ∧ h.event.forces = true

theorem Soundly.recovers (h : Soundly p q) (hactive : p.state.stopped = false) (hp : p.Logged)
    (hq : q.Logged) : Recovers p q := by
  obtain ⟨new, hnew, hsound⟩ := h
  have hdrop : q.handled.drop p.handled.length = new := by rw [hnew, List.drop_left]
  refine ⟨fun noted hmem => hsound noted (hdrop ▸ hmem), fun herror => ?_⟩
  rw [hdrop]
  rcases List.eq_nil_or_concat new with hnil | ⟨earlier, last, hlast⟩
  · rw [Logged, hnew, hnil, List.append_nil, ← hp] at hq
    rw [hq.symm.trans herror] at hactive
    cases hactive
  · have hmem : last ∈ new := by rw [hlast]; simp
    rw [Logged, hnew, hlast, List.concat_eq_append, ← List.append_assoc, List.getLast?_concat] at hq
    have hnext : last.next = .error := hq.symm.trans herror
    have hforces := hsound last hmem
    simp only [Handled.sound, hnext, Bool.and_eq_true] at hforces
    exact ⟨last, hmem, hnext, by simpa using hforces.2⟩

/-- An event that is refused stays in the history. -/
theorem not_recovers_of_refused {event : PlayerEvent} (h : refused event p.snapshot = true)
    (hmoves : Moves cfg True (p.transitioned cfg event) q) : ¬ Recovers p q := by
  intro hrecovers
  obtain ⟨later, hlater⟩ := hmoves.history
  rw [transitioned_handled] at hlater
  have hmem : p.entry event ∈ q.handled.drop p.handled.length := by
    rw [← hlater, List.append_assoc, List.drop_left]
    exact List.mem_cons_self
  have hsound := hrecovers.sound _ hmem
  rw [Handled.sound, entry, h] at hsound
  cases hsound

section Turn

variable (cfg env)
variable (hactive : p.state.stopped = false) (hgated : p.Gated)

include hactive

theorem report_active (event : PlayerEvent) : p.report cfg env event = p.dispatch cfg env event := by
  rw [report, if_pos (by rw [canReport, hactive]; rfl)]

/-- A fatal event is refused. -/
theorem onStreamEvent_fatal (hdesired : p.desiredPlaying = true) {token : Option ℕ}
    {event : StreamEvent} (hfatal : Fatal p (.streamEvent token event)) :
    ¬ Recovers p (p.onStreamEvent cfg env token event) := by
  obtain ⟨hcurrent, hkind⟩ := hfatal
  have hfresh : ¬ (token.any fun t => t ≠ p.sessionToken) = true := by
    cases token with
    | none => simp
    | some t => simpa using hcurrent
  unfold onStreamEvent
  rw [if_neg hfresh, if_neg (by simp [hdesired])]
  rcases hkind with ⟨rfl, hreconnecting⟩ | ⟨rfl, hplaying⟩
  · have hstate : p.snapshot.state = .reconnecting := hreconnecting
    have hunknown : transition (.iceFailed (some "ice_failed") (some hard)) p.snapshot =
        failClosed p.snapshot "Invalid transition" := by
      unfold transition
      rw [hstate]
      rfl
    have hrefused : refused (.iceFailed (some "ice_failed") (some hard)) p.snapshot = true := by
      simp [refused, hunknown, failClosed]
    simp only [if_true]
    rw [report_active cfg env hactive]
    exact not_recovers_of_refused hrefused (moves_dispatch cfg env _ p)
  · have hreported : transition (.webrtcReport false) p.snapshot =
        { next := { p.snapshot with webrtcUp := false }, actions := [.render] } :=
      transition_common hactive rfl
    have hrefused : refused (.webrtcReport false) p.snapshot = true := by
      have hgate : invariantGate { p.snapshot with webrtcUp := false } =
          some "PLAYING state requires webrtcUp=true" := by
        rw [invariantGate, show p.snapshot.state = .playing from hplaying]
        rfl
      simp [refused, hreported, hgate]
    simp only
    rw [if_neg (by simp [hplaying]), report_active cfg env hactive]
    exact not_recovers_of_refused hrefused
      ((moves_dispatch cfg env _ p).trans (Moves.applyPolicy .refl _))

include hgated

theorem report_soundly {event : PlayerEvent} (htold : p.snapshot.Tellable event) :
    Soundly p (p.report cfg env event) := by
  rw [report_active cfg env hactive]
  exact dispatch_soundly hactive hgated htold

/-- A report of the connection keeps the state. -/
theorem report_webrtc {up : Bool} (htold : p.snapshot.Tellable (.webrtcReport up)) :
    Soundly p (p.report cfg env (.webrtcReport up)) ∧
      (p.report cfg env (.webrtcReport up)).state = p.state ∧
      (p.report cfg env (.webrtcReport up)).Gated := by
  have hmoved : Moves cfg True p (p.report cfg env (.webrtcReport up)) := Moves.report .refl _
  refine ⟨report_soundly cfg env hactive hgated htold, ?_, hmoved.preserve Move.gated hgated⟩
  rw [report_active cfg env hactive]
  exact (dispatch_common hactive hgated htold rfl (by simp [PlayerAction.type, ActionType.critical])).1

/-- Unless it is fatal, an event of the stream is handled soundly. -/
theorem onStreamEvent_soundly (hdesired : p.desiredPlaying = true) {token : Option ℕ}
    {event : StreamEvent} (hwell : event.WellFormed) (hfatal : ¬ Fatal p (.streamEvent token event)) :
    Soundly p (p.onStreamEvent cfg env token event) := by
  unfold onStreamEvent
  by_cases hstale : (token.any fun t => t ≠ p.sessionToken) = true
  · rw [if_pos hstale]
    exact .of_eq rfl
  · rw [if_neg hstale, if_neg (by simp [hdesired])]
    have hcurrent : (token.all fun t => t = p.sessionToken) = true := by
      cases token with
      | none => rfl
      | some t => simpa using hstale
    cases event with
    | iceState state =>
        simp only
        split_ifs with hfailed
        · refine report_soundly cfg env hactive hgated fun hreconnecting => hfatal ⟨hcurrent, .inl ⟨?_, ?_⟩⟩
          · rw [hfailed]
          · exact hreconnecting
        · exact report_soundly cfg env hactive hgated trivial
    | webrtcState up reason =>
        have hreported : ∀ q, (if up = true ∨ p.state ≠ .playing then
            p.report cfg env (.webrtcReport up) else p) = q →
            Soundly p q ∧ q.state = p.state ∧ q.Gated := by
          intro q hq
          rw [← hq]
          split_ifs with htold
          · exact report_webrtc cfg env hactive hgated htold
          · exact ⟨.of_eq rfl, rfl, hgated⟩
        simp only
        generalize hq : (if up = true ∨ p.state ≠ .playing then
            p.report cfg env (.webrtcReport up) else p) = q
        obtain ⟨hsound, hstate, hq⟩ := hreported q hq
        split_ifs
        · exact hsound.trans (tryNotifyRecovered_soundly cfg env hq).1
        · exact hsound.trans (applyPolicy_soundly (by rw [hstate]; exact hactive) hq _)
    | hangup | trackEnded => exact applyPolicy_soundly hactive hgated _
    | track on =>
        cases on with
        | true => exact report_soundly cfg env hactive hgated trivial
        | false => exact .of_eq rfl
    | trackMuted trackId | trackUnmuted trackId => exact report_soundly cfg env hactive hgated hwell
    | sessionReset =>
        simp only
        split_ifs
        · exact callReconnect_soundly (.inl rfl)
        · have hreset : p.snapshot.Tellable (.webrtcReport false) :=
            .inr fun hplaying => hfatal ⟨hcurrent, .inr ⟨rfl, hplaying⟩⟩
          obtain ⟨hsound, hstate, hq⟩ := report_webrtc cfg env hactive hgated hreset
          exact hsound.trans (applyPolicy_soundly (by rw [hstate]; exact hactive) hq _)
    | error code message =>
        simp only
        split_ifs
        · exact handleStreamFailure_soundly hactive hgated _ _
        · exact applyPolicy_soundly hactive hgated _
    | streamingOfferReceived => exact report_soundly cfg env hactive hgated trivial
    | other => exact .of_eq rfl

/-- A frame is handled soundly. -/
theorem onFrameReceived_soundly : Soundly p (p.onFrameReceived cfg env) := by
  have hfirst : ∀ q, (if p.firstFrameLatch = false ∧ p.webrtcUp = true ∧
      p.canTransitionOnFrame = true then p.dispatch cfg env .firstFrameReceived else p) = q →
      Soundly p q ∧ q.state.stopped = false ∧ q.Gated := by
    intro q hq
    rw [← hq]
    split_ifs
    · have hmoved : Moves cfg True p (p.dispatch cfg env .firstFrameReceived) := Moves.dispatch .refl _
      have htold : p.snapshot.Tellable .firstFrameReceived := trivial
      refine ⟨dispatch_soundly hactive hgated htold, ?_, hmoved.preserve Move.gated hgated⟩
      rw [(dispatch_common hactive hgated htold rfl
        (by simp [PlayerAction.type, ActionType.critical])).1]
      exact hactive
    · exact ⟨.of_eq rfl, hactive, hgated⟩
  rw [onFrameReceived]
  generalize hq : (if p.firstFrameLatch = false ∧ p.webrtcUp = true ∧
    p.canTransitionOnFrame = true then p.dispatch cfg env .firstFrameReceived else p) = q
  obtain ⟨hsound, hqactive, hqgated⟩ := hfirst q hq
  split_ifs with hdown
  · exact hsound
  · exact hsound
  · exact hsound
  · have hconnected : q.connected = true := by
      rw [not_or] at hdown
      simpa using hdown.2
    have hnotified : Gated { q with recoveryNotified := true } := hqgated
    have hmoved : Moves cfg True { q with recoveryNotified := true }
        (tryNotifyRecovered cfg env { q with recoveryNotified := true }) :=
      Moves.tryNotifyRecovered .refl
    obtain ⟨hrecovered, hlater⟩ := tryNotifyRecovered_soundly cfg env hnotified
    refine hsound.trans ((Soundly.of_eq rfl).trans (hrecovered.trans ?_))
    refine dispatch_soundly ?_ (hmoved.preserve Move.gated hnotified) ?_
    · rcases hlater with hsame | hplaying
      · rw [hsame.state]
        exact hqactive
      · rw [hplaying]
        rfl
    · intro hconnecting
      rcases hlater with hsame | hplaying
      · rw [connected, isConnected, Bool.and_eq_true] at hconnected
        exact hsame.firstFrameLatch.trans hconnected.2
      · exact absurd (hplaying.symm.trans hconnecting) (by decide)

end Turn

/-- What every run preserves and the events of the stream rest on. -/
theorem gated_logged_next (h : p.Gated ∧ p.Logged) (turn : Surroundings × PlayerInput) :
    ((playerMachine cfg).next p turn).Gated ∧ ((playerMachine cfg).next p turn).Logged :=
  have hmoves := moves_turn p turn fun _ _ _ => trivial
  ⟨hmoves.preserve Move.gated h.1, hmoves.preserve Move.logged h.2⟩

/-- A delivered event recovers unless it is fatal in the state in which it arrives. -/
theorem recovers_iff (h : p.Gated ∧ p.Logged) {turn : Surroundings × PlayerInput}
    (hdelivered : Delivered cfg p turn) :
    Recovers p ((playerMachine cfg).next p turn) ↔ ¬ Fatal p turn.2 := by
  have hlogged : ((playerMachine cfg).next p turn).Logged := (gated_logged_next h turn).2
  obtain ⟨env, input⟩ := turn
  obtain ⟨-, -, hdesired, hactive, hstream⟩ := hdelivered
  cases input with
  | streamEvent token event =>
      constructor
      · intro hrecovers hfatal
        exact onStreamEvent_fatal cfg env (p := { p with throws := env.throws }) hactive hdesired
          hfatal ⟨hrecovers.sound, hrecovers.forced⟩
      · intro hfatal
        have hsound := onStreamEvent_soundly cfg env (p := { p with throws := env.throws }) hactive
          h.1 hdesired hstream hfatal
        exact Soundly.recovers hsound hactive h.2 hlogged
  | frame =>
      refine ⟨fun _ => id, fun _ => ?_⟩
      have hsound := onFrameReceived_soundly cfg env (p := { p with throws := env.throws }) hactive h.1
      exact Soundly.recovers hsound hactive h.2 hlogged
  | autoplay | togglePlay | retry | videoStalled | watchdogTimeout | fpsDrop | iceGrace | trackMute
  | visibilityChange | elementVisibilityChange | networkOnline | errorRetry | connect | recovery
  | reconnectTimer | healthCheck | raceSettled => exact hstream.elim

end Controller

open Controller

/-- In every run, the events of the stream and the frames that reach an active player are
handled soundly, and lead to ERROR by `FORCE_ERROR` only, if and only if none of them is fatal. -/
theorem transport_recovers (cfg : PlayerConfig) (turns : List (Surroundings × PlayerInput)) :
    (playerMachine cfg).Along (fun p turn =>
        Delivered cfg p turn → Recovers p ((playerMachine cfg).next p turn)) {} turns ↔
      (playerMachine cfg).Along (fun p turn => Delivered cfg p turn → ¬ Fatal p turn.2) {} turns := by
  have hiff : (playerMachine cfg).Along (fun p turn => Delivered cfg p turn →
      (Recovers p ((playerMachine cfg).next p turn) ↔ ¬ Fatal p turn.2)) {} turns := by
    have hinitial : Gated {} ∧ Logged {} := ⟨fun hplaying => (by cases hplaying), rfl⟩
    refine Machine.along_of_invariant _ (G := fun _ _ => True)
      (I := fun p : Controller => p.Gated ∧ p.Logged) ?_ ?_ ?_ hinitial
    · exact fun p turn h _ => gated_logged_next h turn
    · exact fun p turn h _ hdelivered => recovers_iff h hdelivered
    · exact Machine.along_of_forall _ (fun _ _ _ => trivial) _
  constructor
  · intro hrecovers
    exact (hrecovers.and _ hiff).imp _ fun p turn h hdelivered =>
      (h.2 hdelivered).mp (h.1 hdelivered)
  · intro hfatal
    exact (hfatal.and _ hiff).imp _ fun p turn h hdelivered =>
      (h.2 hdelivered).mpr (h.1 hdelivered)

/-- A player that plays loses its session. -/
def sessionLost : List (Surroundings × PlayerInput) :=
  [(undisturbed, .togglePlay), (undisturbed, .streamEvent none (.webrtcState true "")),
    (undisturbed, .frame), (undisturbed, .streamEvent none .sessionReset)]

/-- The gate refuses the report that the connection is down. -/
theorem sessionReset_fatal :
    ¬ ∀ (cfg : PlayerConfig) (turns : List (Surroundings × PlayerInput)),
      (playerMachine cfg).Along (fun p turn =>
        Delivered cfg p turn → Recovers p ((playerMachine cfg).next p turn)) {} turns := by
  intro hclaim
  have hrecovers := (hclaim {} sessionLost).2.2.2.1 (by decide)
  exact absurd hrecovers.sound (by decide)

end CameraStack.Player
