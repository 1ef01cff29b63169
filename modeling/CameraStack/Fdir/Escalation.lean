/-
# One escalation request

`_escalate_locked` runs under the ladder's lock, so for everybody else it is one
step.  `escalateLocked` is that step: the loop over `decideEscalation`, with a
clock reading of its own for every iteration, the saves that may fail silently
and the action at the end.

The loop climbs one level per iteration and stops above the last one; the fuel
counts the levels that are left, and `escalate_returns` shows that it never runs
out.  `escalate_refines` relates the step to the machine that takes the
same loop apart into its crash points.
-/

import CameraStack.Fdir.Executor

namespace CameraStack.Fdir

open CameraStack.Lib

/-- The two files the subsystem writes. -/
structure Disk where
  count : CountFile
  ladder : Option SavedLadder

/-- What the holder of the ladder's lock works on. -/
structure LadderRun where
  mem : LadderMem
  mode : ModeState
  disk : Disk

/-- The environment's answers during one escalation: wall clock and outcome of the
save in every iteration, and how the action at the end fares. -/
structure EscalateAnswers where
  wallClock : ℕ → ℚ := fun _ => 0
  saveFails : ℕ → Bool := fun _ => false
  actionRaises : Bool := false
  reboot : RebootAnswers := {}

/-- The dictionary `escalate` returns. -/
inductive EscalateReport
  | safeMode
  | dedupSkip (level : String)
  | cooldown (remainingSec : ℚ) (level : String)
  | performed (action : RecoveryAction) (level : String) (attempt maxAttempts : ℤ)
      (success : Bool)
  deriving DecidableEq

/-- The state after an escalation, what it emitted and what it returned; a missing
report means that the fuel ran out. -/
structure Escalated where
  run : LadderRun
  outputs : List FdirOutput
  report : Option EscalateReport

/-- `_save_ladder_state`: an operating-system error leaves the file as it is. -/
def LadderRun.saveLadder (fails : Bool) (wallClock : ℚ) (r : LadderRun) : LadderRun :=
  if fails then r else { r with disk := { r.disk with ladder := some (r.mem.save wallClock) } }

/-- The name of a level, for the report. -/
def LadderMem.levelName (m : LadderMem) (idx : ℕ) : String :=
  match m.levels[idx]? with
  | some level => level.name
  | none => ""

/-- `_escalate_to_next_locked`: above the last level the mode is not degraded. -/
def LadderRun.escalateToNext (fails : Bool) (wallClock now : ℚ) (r : LadderRun) : LadderRun :=
  let r' := ({ r with mem := r.mem.bumpLevel }).saveLadder fails wallClock
  if r'.mem.currentLevel < r'.mem.levels.length then { r' with mode := r'.mode.degrade now }
  else r'

/-- The memory after an attempt on the current level has been counted. -/
def LadderMem.recordAttempt (now : ℚ) (m : LadderMem) : LadderMem :=
  (((m.countAttempt).stampAttempt now).countRecovery).markEscalation now

/-- The last branch of the loop: count, save, execute. -/
def LadderRun.performAttempt (cfg : LadderConfig) (rebootEnabled : Bool) (answers : EscalateAnswers)
    (i : ℕ) (now later : ℚ) (r : LadderRun) : Escalated :=
  match r.mem.levels[r.mem.currentLevel]? with
  | none => ⟨r, [], none⟩
  | some level =>
      let r' := ({ r with mem := r.mem.recordAttempt now }).saveLadder (answers.saveFails i)
        (answers.wallClock i)
      let result := execute ⟨rebootEnabled, cfg.maxFdirReboots⟩ level.action answers.actionRaises
        answers.reboot later r'.disk.count r'.mode
      ⟨{ r' with mode := result.mode, disk := { r'.disk with count := result.count } },
        result.outputs,
        some (.performed level.action level.name (level.attempts + 1) level.maxAttempts
          result.success)⟩

/-- `_escalate_locked`.  Iteration `i` reads the clock at `reading (2 * i)` for its
decision and at `reading (2 * i + 1)` for a change of mode. -/
def escalateLocked (cfg : LadderConfig) (rebootEnabled : Bool) (answers : EscalateAnswers)
    (reading : ℕ → ℚ) : ℕ → ℕ → LadderRun → Escalated
  | fuel, i, r =>
      match r.mem.decide cfg (reading (2 * i)) with
      | .exhausted _ =>
          ⟨{ r with mode := r.mode.transition .safe (reading (2 * i + 1)) }, [], some .safeMode⟩
      | .skipDedup idx => ⟨r, [], some (.dedupSkip (r.mem.levelName idx))⟩
      | .cooldown idx remaining =>
          ⟨r, [], some (.cooldown remaining (r.mem.levelName idx))⟩
      | .escalate _ =>
          match fuel with
          | 0 => ⟨r, [], none⟩
          | fuel + 1 =>
              escalateLocked cfg rebootEnabled answers reading fuel (i + 1)
                (r.escalateToNext (answers.saveFails i) (answers.wallClock i)
                  (reading (2 * i + 1)))
      | .execute _ =>
          r.performAttempt cfg rebootEnabled answers i (reading (2 * i)) (reading (2 * i + 1))

/-- `RecoveryLadder.escalate`. -/
def escalate (cfg : LadderConfig) (rebootEnabled : Bool) (answers : EscalateAnswers)
    (reading : ℕ → ℚ) (r : LadderRun) : Escalated :=
  escalateLocked cfg rebootEnabled answers reading (r.mem.levels.length - r.mem.currentLevel) 0 r

section Shape

variable (cfg : LadderConfig) (rebootEnabled : Bool) (answers : EscalateAnswers)
  (reading : ℕ → ℚ)

@[simp] theorem LadderRun.saveLadder_mem (fails : Bool) (wallClock : ℚ) (r : LadderRun) :
    (r.saveLadder fails wallClock).mem = r.mem := by
  unfold saveLadder
  split <;> rfl

@[simp] theorem LadderRun.saveLadder_count (fails : Bool) (wallClock : ℚ) (r : LadderRun) :
    (r.saveLadder fails wallClock).disk.count = r.disk.count := by
  unfold saveLadder
  split <;> rfl

@[simp] theorem LadderRun.escalateToNext_mem (fails : Bool) (wallClock now : ℚ) (r : LadderRun) :
    (r.escalateToNext fails wallClock now).mem = r.mem.bumpLevel := by
  unfold escalateToNext
  simp only
  split <;> simp

@[simp] theorem LadderRun.escalateToNext_count (fails : Bool) (wallClock now : ℚ)
    (r : LadderRun) : (r.escalateToNext fails wallClock now).disk.count = r.disk.count := by
  unfold escalateToNext
  simp only
  split <;> simp

/-- A decision to execute finds the level it is about. -/
theorem LadderRun.performAttempt_report {r : LadderRun} {i idx : ℕ} {now : ℚ}
    (h : r.mem.decide cfg now = .execute idx) (later : ℚ) :
    (r.performAttempt cfg rebootEnabled answers i now later).report ≠ none := by
  obtain ⟨-, level, hlevel, -⟩ := decideEscalation_eq_execute h
  unfold performAttempt
  simp [hlevel]

/-- The loop climbs at most to the level above the last, so an escalation always
returns a report. -/
theorem escalate_returns (r : LadderRun) :
    (escalate cfg rebootEnabled answers reading r).report ≠ none := by
  suffices loop : ∀ (fuel i : ℕ) (r : LadderRun),
      r.mem.levels.length - r.mem.currentLevel ≤ fuel →
      (escalateLocked cfg rebootEnabled answers reading fuel i r).report ≠ none from
    loop _ 0 r le_rfl
  intro fuel
  induction fuel with
  | zero =>
      intro i r hfuel
      unfold escalateLocked
      cases hdecide : r.mem.decide cfg (reading (2 * i)) with
      | exhausted | skipDedup | cooldown => simp
      | escalate idx =>
          obtain ⟨-, level, hlevel, -⟩ := decideEscalation_eq_escalate hdecide
          obtain ⟨hlt, -⟩ := List.getElem?_eq_some_iff.mp hlevel
          omega
      | execute idx => exact r.performAttempt_report cfg rebootEnabled answers hdecide _
  | succ fuel ih =>
      intro i r hfuel
      unfold escalateLocked
      cases hdecide : r.mem.decide cfg (reading (2 * i)) with
      | exhausted | skipDedup | cooldown => simp
      | escalate idx =>
          apply ih
          simp only [LadderRun.escalateToNext_mem, LadderMem.bumpLevel]
          omega
      | execute idx => exact r.performAttempt_report cfg rebootEnabled answers hdecide _

/-- An attempt moves the reboot counter as its action does. -/
theorem LadderRun.performAttempt_counter {P : CountFile → List FdirOutput → CountFile → Prop}
    (keep : ∀ count, P count [] count)
    (act : ∀ action later count mode,
      P count (execute ⟨rebootEnabled, cfg.maxFdirReboots⟩ action answers.actionRaises
          answers.reboot later count mode).outputs
        (execute ⟨rebootEnabled, cfg.maxFdirReboots⟩ action answers.actionRaises
          answers.reboot later count mode).count)
    (i : ℕ) (now later : ℚ) (r : LadderRun) :
    P r.disk.count (r.performAttempt cfg rebootEnabled answers i now later).outputs
      (r.performAttempt cfg rebootEnabled answers i now later).run.disk.count := by
  unfold performAttempt
  cases r.mem.levels[r.mem.currentLevel]? with
  | none => exact keep _
  | some level =>
      have h := act level.action later r.disk.count
        (({ r with mem := r.mem.recordAttempt now }).saveLadder (answers.saveFails i)
          (answers.wallClock i)).mode
      simpa using h

/-- What one action can do to the reboot counter is all an escalation can do. -/
theorem escalate_counter {P : CountFile → List FdirOutput → CountFile → Prop}
    (keep : ∀ count, P count [] count)
    (act : ∀ action later count mode,
      P count (execute ⟨rebootEnabled, cfg.maxFdirReboots⟩ action answers.actionRaises
          answers.reboot later count mode).outputs
        (execute ⟨rebootEnabled, cfg.maxFdirReboots⟩ action answers.actionRaises
          answers.reboot later count mode).count)
    (r : LadderRun) :
    P r.disk.count (escalate cfg rebootEnabled answers reading r).outputs
      (escalate cfg rebootEnabled answers reading r).run.disk.count := by
  suffices loop : ∀ (fuel i : ℕ) (r : LadderRun),
      P r.disk.count (escalateLocked cfg rebootEnabled answers reading fuel i r).outputs
        (escalateLocked cfg rebootEnabled answers reading fuel i r).run.disk.count from
    loop _ 0 r
  intro fuel
  induction fuel with
  | zero =>
      intro i r
      unfold escalateLocked
      cases r.mem.decide cfg (reading (2 * i)) with
      | exhausted | skipDedup | cooldown | escalate => exact keep _
      | execute idx => exact r.performAttempt_counter cfg rebootEnabled answers keep act i _ _
  | succ fuel ih =>
      intro i r
      unfold escalateLocked
      cases r.mem.decide cfg (reading (2 * i)) with
      | exhausted | skipDedup | cooldown => exact keep _
      | escalate idx =>
          have h := ih (i + 1) (r.escalateToNext (answers.saveFails i) (answers.wallClock i)
            (reading (2 * i + 1)))
          simpa only [LadderRun.escalateToNext_count] using h
      | execute idx => exact r.performAttempt_counter cfg rebootEnabled answers keep act i _ _

end Shape

/-! ## The step and its crash points -/

section Refinement

variable (cfg : LadderConfig) (rebootEnabled : Bool) (answers : EscalateAnswers)
  (reading : ℕ → ℚ)

/-- The lock holder's state, seen by the machine with the crash points. -/
def LadderRun.inPhase (phase : Phase) (clock : ℚ) (r : LadderRun) : CrashState :=
  { file := r.disk.ladder, proc := some (r.mem, phase), clock := clock }

/-- Two steps of the crash machine climb one level. -/
theorem crashMachine_escalateToNext {r : LadderRun} {now : ℚ} {idx : ℕ}
    (hdecide : r.mem.decide cfg now = .escalate idx) (clock wallClock later : ℚ) :
    (crashMachine cfg).run (r.inPhase .deciding clock)
        [.advance now wallClock, .advance now wallClock] =
      (r.escalateToNext false wallClock later).inPhase .deciding now := by
  have hfile : (r.escalateToNext false wallClock later).disk.ladder =
      some (r.mem.bumpLevel.save wallClock) := by
    unfold LadderRun.escalateToNext LadderRun.saveLadder
    simp only [Bool.false_eq_true, if_false]
    split <;> rfl
  simp [LadderRun.inPhase, Machine.next, crashMachine, advanceCaller, hdecide, hfile]

/-- Six steps of the crash machine record, save and execute one attempt. -/
theorem crashMachine_performAttempt {r : LadderRun} {i : ℕ} {now : ℚ} {idx : ℕ}
    (hdecide : r.mem.decide cfg now = .execute idx) (hsave : answers.saveFails i = false)
    (clock later : ℚ) :
    (crashMachine cfg).run (r.inPhase .deciding clock)
        (List.replicate 6 (.advance now (answers.wallClock i))) =
      (r.performAttempt cfg rebootEnabled answers i now later).run.inPhase .idle now := by
  obtain ⟨-, level, hlevel, -⟩ := decideEscalation_eq_execute hdecide
  simp [List.replicate, LadderRun.inPhase, Machine.next, crashMachine, advanceCaller, hdecide,
    LadderRun.performAttempt, hlevel, LadderRun.saveLadder, hsave, LadderMem.recordAttempt]

/-- When every save goes through, an escalation leaves the memory and the state
file that the crash machine reaches by taking the caller through its phases. -/
theorem escalate_refines (hsave : ∀ i, answers.saveFails i = false) (r : LadderRun)
    (clock : ℚ) :
    ∃ events clock', (crashMachine cfg).run (r.inPhase .idle clock) (.call clock :: events) =
      (escalate cfg rebootEnabled answers reading r).run.inPhase .idle clock' := by
  suffices loop : ∀ (fuel i : ℕ) (r : LadderRun) (clock : ℚ),
      r.mem.levels.length - r.mem.currentLevel ≤ fuel →
      ∃ events clock', (crashMachine cfg).run (r.inPhase .deciding clock) events =
        (escalateLocked cfg rebootEnabled answers reading fuel i r).run.inPhase .idle clock' from
    loop _ 0 r clock le_rfl
  intro fuel
  induction fuel with
  | zero =>
      intro i r clock hfuel
      unfold escalateLocked
      cases hdecide : r.mem.decide cfg (reading (2 * i)) with
      | exhausted | skipDedup | cooldown =>
          refine ⟨[.advance (reading (2 * i)) 0], reading (2 * i), ?_⟩
          simp [LadderRun.inPhase, Machine.next, crashMachine, advanceCaller, hdecide]
      | escalate idx =>
          obtain ⟨-, level, hlevel, -⟩ := decideEscalation_eq_escalate hdecide
          obtain ⟨hlt, -⟩ := List.getElem?_eq_some_iff.mp hlevel
          omega
      | execute idx =>
          exact ⟨_, _, crashMachine_performAttempt cfg rebootEnabled answers hdecide (hsave i)
            clock _⟩
  | succ fuel ih =>
      intro i r clock hfuel
      unfold escalateLocked
      cases hdecide : r.mem.decide cfg (reading (2 * i)) with
      | exhausted | skipDedup | cooldown =>
          refine ⟨[.advance (reading (2 * i)) 0], reading (2 * i), ?_⟩
          simp [LadderRun.inPhase, Machine.next, crashMachine, advanceCaller, hdecide]
      | escalate idx =>
          simp only [hsave i]
          obtain ⟨events, clock', hrest⟩ := ih (i + 1)
            (r.escalateToNext false (answers.wallClock i) (reading (2 * i + 1)))
            (reading (2 * i)) (by
              simp only [LadderRun.escalateToNext_mem, LadderMem.bumpLevel]
              omega)
          refine ⟨[.advance (reading (2 * i)) (answers.wallClock i),
            .advance (reading (2 * i)) (answers.wallClock i)] ++ events, clock', ?_⟩
          rw [Machine.run_append, crashMachine_escalateToNext cfg hdecide _ _ _, hrest]
      | execute idx =>
          exact ⟨_, _, crashMachine_performAttempt cfg rebootEnabled answers hdecide (hsave i)
            clock _⟩

end Refinement

end CameraStack.Fdir
