/-
# Operating modes

The modes form a chain from `nominal` down to `safe`.  A transition goes to any
other mode, a degradation drops one level, and a promotion goes up only.  Each of
the three is one critical section of the program; the listeners it notifies
afterwards are not part of the state.
-/

import Mathlib.Algebra.Order.Ring.Rat

namespace CameraStack.Fdir

/-- Operating modes ordered by degradation level. -/
inductive SystemMode
  | nominal | degraded | localOnly | safe
  deriving DecidableEq, Repr

namespace SystemMode

/-- The degradation level of a mode. -/
def level : SystemMode → ℕ
  | .nominal => 0
  | .degraded => 1
  | .localOnly => 2
  | .safe => 3

/-- The mode one level down, `safe` being the last. -/
def lower : SystemMode → SystemMode
  | .nominal => .degraded
  | .degraded => .localOnly
  | .localOnly => .safe
  | .safe => .safe

end SystemMode

/-- The current mode and the clock reading at which it was entered. -/
structure ModeState where
  current : SystemMode
  enteredAtMono : ℚ

namespace ModeState

/-- `transition`: a no-op when the mode is already current. -/
def transition (target : SystemMode) (now : ℚ) (m : ModeState) : ModeState :=
  if m.current = target then m else { current := target, enteredAtMono := now }

/-- `degrade`: drop one level. -/
def degrade (now : ℚ) (m : ModeState) : ModeState := m.transition m.current.lower now

/-- `promote`: only to a strictly better mode. -/
def promote (target : SystemMode) (now : ℚ) (m : ModeState) : ModeState :=
  if m.current.level ≤ target.level then m else { current := target, enteredAtMono := now }

/-- `mode_uptime_sec`. -/
def uptimeSec (now : ℚ) (m : ModeState) : ℚ := now - m.enteredAtMono

end ModeState

end CameraStack.Fdir
