/-
# The connection policy

Domain events and a snapshot of the player go in, a decision comes out: do nothing, mark the
connection degraded, or ask for a recovery.
-/

import Mathlib.Data.List.Infix
import CameraStack.Player.StateMachine

namespace CameraStack.Player

/-- `DomainEventType`, as far as the policy is asked; hangups and downs carry their reason. -/
inductive DomainEvent
  | iceFailed
  | iceDisconnectedGraceTimeout
  | mediaSilenceTimeout
  | trackMuteTimeout
  | trackEnded
  | hangup (reason : String)
  | webrtcDown (reason : String)
  | sessionReset
  | janusError
  | fpsDrop
  | videoStalled
  deriving DecidableEq

/-- A decision. -/
inductive Decision
  | noOp
  | markDegraded
  | requestRecovery (reason : String) (severity : ℕ)
  deriving DecidableEq

/-- `_buildPolicySnapshot`, as far as the policy reads it; `packetsAdvancing` may be unknown. -/
structure PolicySnapshot where
  state : PlayerState
  firstFrameReceived : Bool
  desiredPlaying : Bool
  lastFrameAgeMs : ℕ
  packetsAdvancing : Option Bool

/-- `isConnected`. -/
def isConnected (webrtcUp firstFrameReceived : Bool) : Bool := webrtcUp && firstFrameReceived

/-- The reason names ICE. -/
def namesIce (reason : String) : Bool := decide ("ice".toList <:+: reason.toLower.toList)

/-- A recovery for a connection that ICE or something else has taken down. -/
def decideDown (reason otherReason : String) (mediaFlowing : Bool) : Decision :=
  if namesIce reason && mediaFlowing then .markDegraded
  else if namesIce reason then .requestRecovery "ice_failed" hard
  else .requestRecovery otherReason medium

/-- A recovery unless packets still arrive. -/
def decideQuality (packetsAdvancing : Option Bool) (reason : String) : Decision :=
  if packetsAdvancing = some true then .markDegraded else .requestRecovery reason medium

/-- `ConnectionPolicy.decide`. -/
def decidePolicy (event : DomainEvent) (snapshot : PolicySnapshot) : Decision :=
  let mediaFlowing := snapshot.firstFrameReceived
  if snapshot.desiredPlaying = false ∧ snapshot.state ≠ .connecting ∧
      snapshot.state ≠ .reconnecting then .noOp
  else
    match event with
    | .iceFailed => .requestRecovery "ice_failed" hard
    | .iceDisconnectedGraceTimeout =>
        let staleFrame := snapshot.lastFrameAgeMs > 2000
        if mediaFlowing ∧ ¬ staleFrame then .markDegraded
        else .requestRecovery "ice_disconnected_grace" medium
    | .mediaSilenceTimeout =>
        if snapshot.packetsAdvancing = some true ∧ ¬ snapshot.lastFrameAgeMs ≥ 45000 then
          .markDegraded
        else .requestRecovery "no_frames" medium
    | .trackMuteTimeout => .requestRecovery "track_muted" medium
    | .trackEnded => .requestRecovery "no_frames" medium
    | .hangup reason => decideDown reason "hangup" mediaFlowing
    | .webrtcDown reason => decideDown reason "webrtc_down" mediaFlowing
    | .sessionReset => .requestRecovery "session_reset" hard
    | .janusError => .requestRecovery "janus_error" medium
    | .fpsDrop => decideQuality snapshot.packetsAdvancing "fps_drop"
    | .videoStalled => decideQuality snapshot.packetsAdvancing "video_stalled"

end CameraStack.Player
