/-
# The state machine of the player

A pure function takes an event and a snapshot to the next snapshot and a list of actions.
What it does not know it refuses: the player goes to ERROR.  The gate refuses what it does
know, when the next snapshot contradicts its state.

At the end stands what every result looks like.  A result that leads to IDLE or ERROR cancels
all timers and then does nothing that arms one; the only way to IDLE is a stop.
-/

import Mathlib.Tactic.SplitIfs
import CameraStack.Player.Coordinator

namespace CameraStack.Player

/-! ## States, events and actions -/

/-- `PlayerState`. -/
inductive PlayerState
  | idle | connecting | playing | reconnecting | error
  deriving DecidableEq, Repr

/-- The player is stopped. -/
def PlayerState.stopped : PlayerState → Bool
  | .idle | .error => true
  | _ => false

/-- `EventType`, with what the state machine reads of an event. -/
inductive PlayerEvent
  | playRequest
  | stopRequest
  | webrtcUp
  | webrtcDown (reason : Option String) (severity : Option ℕ)
  | webrtcReport (up : Bool)
  | iceReport (iceState : Option String)
  | iceFailed (reason : Option String) (severity : Option ℕ)
  | streamRecovered
  | reconnectScheduled (reason : Option String) (severity : Option ℕ)
  | reconnectSuccess
  | reconnectExhausted (reason : Option String)
  | reset
  | connectFailed (reason : Option String)
  | forceError (reason : Option String)
  | trackMuted (trackId : Option String)
  | trackUnmuted (trackId : Option String)
  | trackReady
  | streamingOfferReceived
  | policyMarkDegraded
  | firstFrameReceived
  | recoveryAttemptStarted
  deriving DecidableEq

/-- `ActionType` without what an action carries. -/
inductive ActionType
  | startJanus | stopJanus | stopStreaming | startReconnectTimer | cancelAllTimers | log | render
  | armIceGrace | cancelIceGrace | armTrackMuteTimer | disarmTrackMuteTimer | markDegraded
  | bindStream | startReconnectSettle
  deriving DecidableEq, Repr

/-- An action. -/
inductive PlayerAction
  | startJanus
  | stopJanus
  | stopStreaming
  | startReconnectTimer (reason : Option String) (severity : Option ℕ)
  | cancelAllTimers
  | log (message : String)
  | render
  | armIceGrace
  | cancelIceGrace
  | armTrackMuteTimer (trackId : String)
  | disarmTrackMuteTimer (trackId : String)
  | markDegraded
  | bindStream
  | startReconnectSettle
  deriving DecidableEq

def PlayerAction.type : PlayerAction → ActionType
  | .startJanus => .startJanus
  | .stopJanus => .stopJanus
  | .stopStreaming => .stopStreaming
  | .startReconnectTimer .. => .startReconnectTimer
  | .cancelAllTimers => .cancelAllTimers
  | .log _ => .log
  | .render => .render
  | .armIceGrace => .armIceGrace
  | .cancelIceGrace => .cancelIceGrace
  | .armTrackMuteTimer _ => .armTrackMuteTimer
  | .disarmTrackMuteTimer _ => .disarmTrackMuteTimer
  | .markDegraded => .markDegraded
  | .bindStream => .bindStream
  | .startReconnectSettle => .startReconnectSettle

/-- `_criticalActionTypes`. -/
def ActionType.critical : ActionType → Bool
  | .startJanus | .stopJanus | .stopStreaming | .startReconnectTimer | .cancelAllTimers
  | .bindStream | .startReconnectSettle => true
  | _ => false

/-- The fields of the controller the state machine works on; an ICE state that is not given
is left as it is. -/
structure Snapshot where
  state : PlayerState
  generation : ℕ
  reconnectAttempts : ℕ
  webrtcUp : Bool
  firstFrameReceived : Bool
  iceState : Option String

/-- `{ next, actions }`. -/
structure TransitionResult where
  next : Snapshot
  actions : List PlayerAction

/-! ## Transitions -/

/-- `iceState || 'new'`. -/
def iceStateOrNew (iceState : Option String) : String :=
  match iceState with
  | some text => if text = "" then "new" else text
  | none => "new"

/-- `failClosed`. -/
def failClosed (snap : Snapshot) (message : String) (bumpGeneration : Bool := false) :
    TransitionResult where
  next :=
    { state := .error
      generation := if bumpGeneration then snap.generation + 1 else snap.generation
      reconnectAttempts := snap.reconnectAttempts
      webrtcUp := false, firstFrameReceived := false, iceState := some "new" }
  actions :=
    [.log (if message = "" then "Invalid transition" else message), .cancelAllTimers,
      .stopStreaming, .render]

/-- `toIdle`, with the actions it is always given. -/
def toIdle (snap : Snapshot) : TransitionResult where
  next :=
    { state := .idle, generation := snap.generation, reconnectAttempts := 0
      webrtcUp := false, firstFrameReceived := false, iceState := some "new" }
  actions := [.cancelAllTimers, .stopStreaming, .render]

/-- `event.reason || text`. -/
def reasonOr (reason : Option String) (text : String) : String :=
  match reason with
  | some r => if r = "" then text else r
  | none => text

/-- `handleActiveCommon`. -/
def handleActiveCommon (event : PlayerEvent) (snap : Snapshot) : Option TransitionResult :=
  match event with
  | .webrtcReport up => some { next := { snap with webrtcUp := up }, actions := [.render] }
  | .iceReport reported =>
      let iceState := match reported with
        | some text => text
        | none => iceStateOrNew snap.iceState
      some
        { next := { snap with iceState := some iceState }
          actions :=
            if iceState = "disconnected" then [.armIceGrace, .render]
            else if iceState = "connected" ∨ iceState = "completed" then [.cancelIceGrace, .render]
            else [.render] }
  | .trackMuted (some trackId) =>
      some { next := snap, actions := [.armTrackMuteTimer trackId, .render] }
  | .trackUnmuted (some trackId) =>
      some { next := snap, actions := [.disarmTrackMuteTimer trackId, .render] }
  | .trackReady => some { next := snap, actions := [.bindStream, .render] }
  | .policyMarkDegraded => some { next := snap, actions := [.markDegraded, .render] }
  | .firstFrameReceived =>
      some { next := { snap with firstFrameReceived := true }, actions := [.render] }
  | _ => none

/-- To RECONNECTING, where the first attempt is requested. -/
def toReconnecting (snap : Snapshot) (webrtcUp : Bool) (reason : Option String)
    (severity : Option ℕ) : TransitionResult where
  next :=
    { state := .reconnecting, generation := snap.generation
      reconnectAttempts := snap.reconnectAttempts + 1
      webrtcUp := webrtcUp, firstFrameReceived := snap.firstFrameReceived
      iceState := some (iceStateOrNew snap.iceState) }
  actions := [.startReconnectTimer reason severity]

/-- To CONNECTING, in a new generation. -/
def toConnecting (snap : Snapshot) (reconnectAttempts : ℕ) (actions : List PlayerAction) :
    TransitionResult where
  next :=
    { state := .connecting, generation := snap.generation + 1
      reconnectAttempts := reconnectAttempts
      webrtcUp := false, firstFrameReceived := false, iceState := some "new" }
  actions := actions

/-- To PLAYING. -/
def toPlaying (snap : Snapshot) (firstFrameReceived : Bool) (actions : List PlayerAction) :
    TransitionResult where
  next :=
    { state := .playing, generation := snap.generation, reconnectAttempts := 0
      webrtcUp := true, firstFrameReceived := firstFrameReceived
      iceState := some (iceStateOrNew snap.iceState) }
  actions := actions

/-- What CONNECTING, PLAYING and RECONNECTING have in common, and refuse alike. -/
def activeCommon (event : PlayerEvent) (snap : Snapshot) : TransitionResult :=
  (handleActiveCommon event snap).getD (failClosed snap "Invalid transition")

/-- `transition`. -/
def transition (event : PlayerEvent) (snap : Snapshot) : TransitionResult :=
  match event with
  | .forceError reason => failClosed snap (reasonOr reason "Force error") true
  | _ =>
    match snap.state with
    | .idle =>
        match event with
        | .playRequest => toConnecting snap snap.reconnectAttempts [.startJanus, .render]
        | _ => failClosed snap "Invalid transition"
    | .connecting =>
        match event with
        | .stopRequest => toIdle snap
        | .streamRecovered => toPlaying snap snap.firstFrameReceived [.cancelAllTimers, .render]
        | .reconnectScheduled reason severity | .iceFailed reason severity =>
            toReconnecting snap snap.webrtcUp reason severity
        | .connectFailed reason => failClosed snap (reasonOr reason "Connect failed")
        | .streamingOfferReceived => { next := snap, actions := [] }
        | _ => activeCommon event snap
    | .playing =>
        match event with
        | .stopRequest => toIdle snap
        | .playRequest | .reconnectSuccess | .streamRecovered | .streamingOfferReceived =>
            { next := snap, actions := [.render] }
        | .webrtcDown reason severity | .reconnectScheduled reason severity
        | .iceFailed reason severity => toReconnecting snap false reason severity
        | _ => activeCommon event snap
    | .reconnecting =>
        match event with
        | .stopRequest => toIdle snap
        | .reconnectScheduled .. =>
            { next := { snap with reconnectAttempts := max 1 snap.reconnectAttempts }, actions := [] }
        | .streamRecovered | .reconnectSuccess => toPlaying snap true [.render]
        | .reconnectExhausted reason => failClosed snap (reasonOr reason "Reconnect exhausted")
        | .streamingOfferReceived => { next := snap, actions := [.startReconnectSettle] }
        | .recoveryAttemptStarted =>
            { next := { snap with webrtcUp := false, firstFrameReceived := false }, actions := [] }
        | _ => activeCommon event snap
    | .error =>
        match event with
        | .reset | .playRequest =>
            toConnecting snap 0 [.cancelAllTimers, .startJanus, .render]
        | _ => failClosed snap "Invalid transition"

/-! ## The gate -/

/-- `InvariantGate.check`: what the violation would say. -/
def invariantGate (next : Snapshot) : Option String :=
  match next.state with
  | .playing =>
      if next.webrtcUp = false then some "PLAYING state requires webrtcUp=true"
      else if next.firstFrameReceived = false then
        some "PLAYING state requires firstFrameReceived=true"
      else none
  | .reconnecting =>
      if next.reconnectAttempts < 1 then some "RECONNECTING state requires reconnectAttempts>=1"
      else none
  | .idle | .error =>
      let name := if next.state = .idle then "IDLE" else "ERROR"
      if next.webrtcUp then some (name ++ " state requires webrtcUp=false")
      else if next.firstFrameReceived then
        some (name ++ " state requires firstFrameReceived=false")
      else none
  | .connecting => none

/-- The transition, or what takes its place where the gate refuses it. -/
def gatedTransition (event : PlayerEvent) (snap : Snapshot) : TransitionResult :=
  let result := transition event snap
  match invariantGate result.next with
  | none => result
  | some message =>
      { next :=
          { state := .error, generation := snap.generation
            reconnectAttempts := snap.reconnectAttempts
            webrtcUp := false, firstFrameReceived := false, iceState := none }
        actions := [.log message, .cancelAllTimers, .stopStreaming] }

/-- The state machine does not know the event, or the gate refuses what comes of it. -/
def refused (event : PlayerEvent) (snap : Snapshot) : Bool :=
  decide ((transition event snap).actions.head? = some (.log "Invalid transition")) ||
    (invariantGate (transition event snap).next).isSome

/-- An event that was handled: the state it found, the state it led to, and whether it was
refused. -/
structure Handled where
  event : PlayerEvent
  found : PlayerState
  next : PlayerState
  refused : Bool
  deriving DecidableEq

/-! ## What a result looks like -/

/-- An action that arms nothing. -/
def ActionType.calming : ActionType → Bool
  | .stopStreaming | .cancelAllTimers | .log | .render => true
  | _ => false

/-- A result that leads to IDLE or ERROR calms the player, and leads to IDLE after a stop
only; a result that asks for a reconnect leads to RECONNECTING and asks for nothing else, and
a result that goes on playing stops no stream. -/
structure TransitionResult.Shaped (event : PlayerEvent) (result : TransitionResult) : Prop where
  cancels : result.next.state.stopped = true → .cancelAllTimers ∈ result.actions
  calms : result.next.state.stopped = true → ∀ a ∈ result.actions, a.type.calming = true
  idle : result.next.state = .idle → event = .stopRequest
  reconnects : ∀ reason severity, .startReconnectTimer reason severity ∈ result.actions →
    result.next.state = .reconnecting ∧ result.actions = [.startReconnectTimer reason severity]
  plays : result.next.state = .playing →
    .stopStreaming ∉ result.actions ∧ .stopJanus ∉ result.actions

section Shaped

variable {event : PlayerEvent} {snap : Snapshot}

theorem shaped_failClosed (message : String) (bumpGeneration : Bool) :
    (failClosed snap message bumpGeneration).Shaped event where
  cancels _ := by simp [failClosed]
  calms _ := by simp [failClosed, PlayerAction.type, ActionType.calming]
  idle h := by cases h
  reconnects reason severity h := by simp [failClosed] at h
  plays h := by cases h

theorem shaped_toIdle : (toIdle snap).Shaped .stopRequest where
  cancels _ := by simp [toIdle]
  calms _ := by simp [toIdle, PlayerAction.type, ActionType.calming]
  idle _ := rfl
  reconnects reason severity h := by simp [toIdle] at h
  plays h := by cases h

/-- A result that stays among the active states. -/
theorem shaped_active {result : TransitionResult} (hactive : result.next.state.stopped = false)
    (hreconnects : ∀ reason severity, .startReconnectTimer reason severity ∉ result.actions)
    (hplays : .stopStreaming ∉ result.actions ∧ .stopJanus ∉ result.actions) :
    result.Shaped event where
  cancels h := by rw [hactive] at h; cases h
  calms h := by rw [hactive] at h; cases h
  idle h := by rw [h] at hactive; cases hactive
  reconnects reason severity h := absurd h (hreconnects reason severity)
  plays _ := hplays

theorem shaped_toReconnecting (webrtcUp : Bool) (reason : Option String) (severity : Option ℕ) :
    (toReconnecting snap webrtcUp reason severity).Shaped event where
  cancels h := by cases h
  calms h := by cases h
  idle h := by cases h
  reconnects _ _ h := ⟨rfl, by rw [List.mem_singleton.mp h]; rfl⟩
  plays h := by cases h

/-- The common handling keeps the state. -/
theorem shaped_activeCommon (hactive : snap.state.stopped = false) :
    (activeCommon event snap).Shaped event := by
  unfold activeCommon
  cases hcommon : handleActiveCommon event snap with
  | none => exact shaped_failClosed _ _
  | some result =>
      unfold handleActiveCommon at hcommon
      split at hcommon
      case h_2 =>
        cases hcommon
        simp only [Option.getD_some]
        split_ifs
        all_goals exact shaped_active hactive (by simp) (by simp)
      case h_8 => cases hcommon
      all_goals
        cases hcommon
        exact shaped_active hactive (by simp) (by simp)

/-- Every transition is shaped so. -/
theorem shaped_transition : (transition event snap).Shaped event := by
  unfold transition
  split
  · exact shaped_failClosed _ _
  · split
    case h_1 hstate =>
      split
      · exact shaped_active rfl (by simp [toConnecting]) (by simp [toConnecting])
      · exact shaped_failClosed _ _
    case h_2 hstate =>
      split
      · exact shaped_toIdle
      · exact shaped_active rfl (by simp [toPlaying]) (by simp [toPlaying])
      · exact shaped_toReconnecting _ _ _
      · exact shaped_toReconnecting _ _ _
      · exact shaped_failClosed _ _
      · exact shaped_active (by rw [hstate]; rfl) (by simp) (by simp)
      · exact shaped_activeCommon (by rw [hstate]; rfl)
    case h_3 hstate =>
      split
      · exact shaped_toIdle
      iterate 4 exact shaped_active (by rw [hstate]; rfl) (by simp) (by simp)
      iterate 3 exact shaped_toReconnecting _ _ _
      · exact shaped_activeCommon (by rw [hstate]; rfl)
    case h_4 hstate =>
      split
      · exact shaped_toIdle
      · exact shaped_active (by rw [hstate]; rfl) (by simp) (by simp)
      iterate 2 exact shaped_active rfl (by simp [toPlaying]) (by simp [toPlaying])
      · exact shaped_failClosed _ _
      · exact shaped_active (by rw [hstate]; rfl) (by simp) (by simp)
      · exact shaped_active (by rw [hstate]; rfl) (by simp) (by simp)
      · exact shaped_activeCommon (by rw [hstate]; rfl)
    case h_5 hstate =>
      split
      iterate 2 exact shaped_active rfl (by simp [toConnecting]) (by simp [toConnecting])
      · exact shaped_failClosed _ _

/-- And what the gate lets through or puts in its place. -/
theorem shaped_gatedTransition : (gatedTransition event snap).Shaped event := by
  unfold gatedTransition
  simp only
  split
  · exact shaped_transition
  · exact
      { cancels := fun _ => by simp
        calms := fun _ => by simp [PlayerAction.type, ActionType.calming]
        idle := fun h => by cases h
        reconnects := fun reason severity h => by simp at h
        plays := fun h => by cases h }

end Shaped

end CameraStack.Player
