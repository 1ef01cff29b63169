/-
# The recovery ladder: levels and the escalation decision

The ladder is pure data plus one pure decision.  A level carries its policy
(name, action, attempt budget, cooldown) together with the runtime counters that
the ladder mutates; `decideEscalation` looks at a snapshot of both and the clock
and says what an escalation request amounts to.

Clock readings are rationals.  The program reads `time.monotonic()`, a float;
the arithmetic below is exact.
-/

import Mathlib.Algebra.Order.Ring.Rat
import Mathlib.Data.Rat.Floor

namespace CameraStack.Fdir

/-- The recovery actions of the event vocabulary.  Only the first five are
dispatched by the executor. -/
inductive RecoveryAction
  | retryHandle | restartPipeline | restartJanus | usbReset | rebootNode
  | degradeProfile | switchMode | none
  deriving DecidableEq, Repr

/-- The configured half of a ladder level. -/
structure LevelPolicy where
  name : String
  action : RecoveryAction
  maxAttempts : ℤ
  cooldownSec : ℚ
  deriving DecidableEq

/-- A ladder level: policy plus the runtime state the ladder mutates. -/
structure LadderLevel extends LevelPolicy where
  attempts : ℤ := 0
  lastAttempt : ℚ := 0
  deriving DecidableEq

/-- A level as the constructor builds it, with its counters at zero. -/
def LevelPolicy.build (policy : LevelPolicy) : LadderLevel :=
  { policy with attempts := 0, lastAttempt := 0 }

@[simp] theorem LevelPolicy.build_toLevelPolicy (policy : LevelPolicy) :
    policy.build.toLevelPolicy = policy := rfl

/-- The default ladder: USB reset exists only on depth nodes. -/
def defaultLadder (cameraType : String) : List LevelPolicy :=
  [{ name := "retry_handle", action := .retryHandle, maxAttempts := 1, cooldownSec := 10 },
    { name := "restart_pipeline", action := .restartPipeline, maxAttempts := 5,
      cooldownSec := 45 },
    { name := "restart_janus", action := .restartJanus, maxAttempts := 3, cooldownSec := 90 }]
  ++ (if cameraType = "depth_camera" then
      [{ name := "usb_reset", action := .usbReset, maxAttempts := 2, cooldownSec := 90 }]
    else [])
  ++ [{ name := "reboot_node", action := .rebootNode, maxAttempts := 1, cooldownSec := 300 }]

/-- What an escalation request amounts to, with the level index it concerns. -/
inductive EscalationDecision
  | exhausted (levelIdx : ℕ)
  | skipDedup (levelIdx : ℕ)
  | cooldown (levelIdx : ℕ) (remainingSec : ℚ)
  | escalate (levelIdx : ℕ)
  | execute (levelIdx : ℕ)
  deriving DecidableEq

/-- Python's `round(x, 1)`: nearest tenth, ties to the even tenth. -/
def roundTenth (x : ℚ) : ℚ :=
  let tenths := x * 10
  let low := ⌊tenths⌋
  let frac := tenths - low
  let picked :=
    if frac < 1 / 2 then low
    else if 1 / 2 < frac then low + 1
    else if low % 2 = 0 then low else low + 1
  (picked : ℚ) / 10

/-- The pure decision: exhaustion first, then the dedup window, then the level's
cooldown, then its budget. -/
def decideEscalation (currentLevel : ℕ) (levels : List LadderLevel)
    (lastEscalationTs now dedupWindowSec : ℚ) : EscalationDecision :=
  match levels[currentLevel]? with
  | none => .exhausted currentLevel
  | some level =>
      if now - lastEscalationTs < dedupWindowSec then .skipDedup currentLevel
      else if now - level.lastAttempt < level.cooldownSec then
        .cooldown currentLevel (roundTenth (level.cooldownSec - (now - level.lastAttempt)))
      else if level.attempts ≥ level.maxAttempts then .escalate (currentLevel + 1)
      else .execute currentLevel

/-- An `execute` decision names the current level, whose cooldown has passed and
whose budget is not used up. -/
theorem decideEscalation_eq_execute {currentLevel idx : ℕ} {levels : List LadderLevel}
    {lastEscalationTs now dedupWindowSec : ℚ}
    (h : decideEscalation currentLevel levels lastEscalationTs now dedupWindowSec =
      .execute idx) :
    idx = currentLevel ∧ ∃ level, levels[currentLevel]? = some level ∧
      level.lastAttempt + level.cooldownSec ≤ now ∧ level.attempts < level.maxAttempts := by
  unfold decideEscalation at h
  cases hlevel : levels[currentLevel]? with
  | none => simp [hlevel] at h
  | some level =>
      simp only [hlevel] at h
      split_ifs at h with hdedup hcool hbudget
      simp only [EscalationDecision.execute.injEq] at h
      refine ⟨h.symm, level, rfl, ?_, lt_of_not_ge hbudget⟩
      linarith [not_lt.mp hcool]

/-- An `escalate` decision names the next level, and the current one has used up
its budget. -/
theorem decideEscalation_eq_escalate {currentLevel idx : ℕ} {levels : List LadderLevel}
    {lastEscalationTs now dedupWindowSec : ℚ}
    (h : decideEscalation currentLevel levels lastEscalationTs now dedupWindowSec =
      .escalate idx) :
    idx = currentLevel + 1 ∧ ∃ level, levels[currentLevel]? = some level ∧
      level.maxAttempts ≤ level.attempts := by
  unfold decideEscalation at h
  cases hlevel : levels[currentLevel]? with
  | none => simp [hlevel] at h
  | some level =>
      simp only [hlevel] at h
      split_ifs at h with hdedup hcool hbudget
      simp only [EscalationDecision.escalate.injEq] at h
      exact ⟨h.symm, level, rfl, hbudget⟩

end CameraStack.Fdir
