/-
# Executing a level's action

Only the reboot action touches persistent state, and it does so in a fixed order:
circuit breaker, increment, command, rollback of a refused command.  The other
actions shell out to an admin tool and either return or raise.

`CounterMove` says once what a step can do to the reboot counter when the storage
behaves; the executor, the ladder's loop and the watchdog are shown to take only
such moves, and the reboot budget follows from the moves alone.
-/

import CameraStack.Fdir.Ladder
import CameraStack.Fdir.SystemMode

namespace CameraStack.Fdir

/-- How the reboot command ended: it was accepted, it exited with an error (the
`RuntimeError` the executor rolls back), or it raised something else, such as a
timeout. -/
inductive CommandOutcome
  | accepted | refused | raised
  deriving DecidableEq, Repr

/-- What an observer of the recovery subsystem sees: a reboot command, with the
counter file before the increment and at the moment of the command, and a write
that put the counter back to zero. -/
inductive FdirOutput
  | rebootCommand (before after : CountFile) (outcome : CommandOutcome)
  | counterReset
  deriving DecidableEq, Repr

namespace FdirOutput

/-- The command was accepted. -/
def accepted : FdirOutput → Bool
  | .rebootCommand _ _ .accepted => true
  | _ => false

/-- A command was issued. -/
def issued : FdirOutput → Bool
  | .rebootCommand _ _ _ => true
  | .counterReset => false

/-- A command was issued and exited with an error. -/
def refused : FdirOutput → Bool
  | .rebootCommand _ _ .refused => true
  | _ => false

/-- A command was issued that counts against the budget: refused commands are
rolled back. -/
def charged (o : FdirOutput) : Bool := o.issued && !o.refused

end FdirOutput

/-- The settings the executor reads. -/
structure RebootSettings where
  watchdogRebootEnabled : Bool
  maxFdirReboots : ℤ

/-- The environment's answers inside `_reboot_node`. -/
structure RebootAnswers where
  readError : Bool := false
  increment : IncrementAnswers := {}
  command : CommandOutcome := .accepted
  rollback : WriteFault := .none

/-- The counter file, the mode, the outputs, and whether the handler returned. -/
structure ActionResult where
  count : CountFile
  mode : ModeState
  outputs : List FdirOutput
  success : Bool

/-- `_reboot_node`. -/
def rebootNode (settings : RebootSettings) (answers : RebootAnswers) (now : ℚ)
    (count : CountFile) (mode : ModeState) : ActionResult :=
  if settings.watchdogRebootEnabled then
    match readRebootCount answers.readError count with
    | none => ⟨count, mode, [], false⟩
    | some reboots =>
        if settings.maxFdirReboots ≤ reboots then
          ⟨count, mode.transition .safe now, [], true⟩
        else
          -- the returned count is ignored; only an error in the fallback read stops the reboot
          match atomicIncrementRebootCount answers.increment count with
          | (count', none) => ⟨count', mode, [], false⟩
          | (count', some _) =>
              match answers.command with
              | .accepted => ⟨count', mode, [.rebootCommand count count' .accepted], true⟩
              | .refused =>
                  ⟨writeRebootCount answers.rollback reboots count', mode,
                    [.rebootCommand count count' .refused], false⟩
              | .raised => ⟨count', mode, [.rebootCommand count count' .raised], false⟩
  else ⟨count, mode.transition .safe now, [], true⟩

/-- `RecoveryExecutor.execute`: exceptions of a handler become a failed result. -/
def execute (settings : RebootSettings) (action : RecoveryAction) (actionRaises : Bool)
    (answers : RebootAnswers) (now : ℚ) (count : CountFile) (mode : ModeState) : ActionResult :=
  match action with
  | .rebootNode => rebootNode settings answers now count mode
  | .retryHandle | .restartPipeline | .restartJanus | .usbReset =>
      ⟨count, mode, [], !actionRaises⟩
  | .degradeProfile | .switchMode | .none => ⟨count, mode, [], true⟩

/-! ## What can happen to the counter -/

/-- The write fails, if it does, before it changes what a read makes of the file. -/
def WriteFault.harmless : WriteFault → Bool
  | .none | .opening | .locking => true
  | .writing | .syncing => false

/-- The increment is in the file without an error, or its error stops the reboot, and it does not
die between the truncation and the text. -/
def IncrementAnswers.Durable (answers : IncrementAnswers) : Prop :=
  answers.fault = .none ∨ (answers.fault ≠ .writing ∧ answers.fallbackReadError = true)

/-- The storage answers under which the counter never loses a reboot.  Where `refunds` is false, a
command that is refused is not taken back either: its rollback does not reach the file. -/
structure RebootAnswers.Durable (refunds : Bool) (answers : RebootAnswers) : Prop where
  increment : answers.increment.Durable
  rollback : answers.command = .refused →
    answers.rollback = .opening ∨ answers.rollback = .locking ∨
      (refunds = true ∧ answers.rollback ≠ .writing)

/-- One step of the reboot counter, by its value; where `refunds` is false no command is taken
back. -/
inductive CounterMove (refunds : Bool) (limit : ℤ) : ℤ → List FdirOutput → ℤ → Prop
  | keep (n : ℤ) : CounterMove refunds limit n [] n
  | clear (n : ℤ) : CounterMove refunds limit n [.counterReset] 0
  | waste (n : ℤ) (h : n < limit) : CounterMove refunds limit n [] (n + 1)
  | spend (before after : CountFile) (outcome : CommandOutcome) (h : before.value < limit)
      (hafter : after.value = before.value + 1) :
      CounterMove refunds limit before.value [.rebootCommand before after outcome] after.value
  | refund (before after : CountFile) (hrefunds : refunds = true) (h : before.value < limit)
      (hafter : after.value = before.value + 1) :
      CounterMove refunds limit before.value [.rebootCommand before after .refused] before.value

namespace CounterMove

variable {refunds : Bool} {limit n n' : ℤ} {out : List FdirOutput}

/-- Unless it clears the counter, a move pays for the commands it emits out of the
unspent budget. -/
theorem charged_add_budget_le (move : CounterMove refunds limit n out n')
    (hreset : FdirOutput.counterReset ∉ out) :
    out.countP FdirOutput.charged + (limit - n').toNat ≤ (limit - n).toNat := by
  cases move with
  | keep => simp
  | clear => simp at hreset
  | waste h => simp only [List.countP_nil]; omega
  | spend before after outcome h hafter =>
      have hone : [FdirOutput.rebootCommand before after outcome].countP FdirOutput.charged ≤ 1 :=
        List.countP_le_length
      omega
  | refund before after _ h hafter => simp [FdirOutput.charged, FdirOutput.issued,
      FdirOutput.refused]

/-- Where nothing is taken back, it pays for all the commands it emits. -/
theorem issued_add_budget_le (move : CounterMove false limit n out n')
    (hreset : FdirOutput.counterReset ∉ out) :
    out.countP FdirOutput.issued + (limit - n').toNat ≤ (limit - n).toNat := by
  cases move with
  | keep => simp
  | clear => simp at hreset
  | waste h =>
      rw [List.countP_nil]
      omega
  | spend before after outcome h hafter =>
      have hone : [FdirOutput.rebootCommand before after outcome].countP FdirOutput.issued ≤ 1 :=
        List.countP_le_length
      omega
  | refund before after hrefunds => cases hrefunds

/-- Every command a move emits was issued with its increment in the file. -/
theorem issued_persisted (move : CounterMove refunds limit n out n') {before after : CountFile}
    {outcome : CommandOutcome} (h : .rebootCommand before after outcome ∈ out) :
    after.value = before.value + 1 := by
  cases move with
  | keep | waste => simp at h
  | clear => simp at h
  | spend before' after' outcome' hlimit hafter =>
      simp only [List.mem_singleton, FdirOutput.rebootCommand.injEq] at h
      obtain ⟨rfl, rfl, -⟩ := h
      exact hafter
  | refund before' after' _ hlimit hafter =>
      simp only [List.mem_singleton, FdirOutput.rebootCommand.injEq] at h
      obtain ⟨rfl, rfl, -⟩ := h
      exact hafter

end CounterMove

/-- A read that does not raise returns the value of the file. -/
theorem readRebootCount_eq_some {ioError : Bool} {file : CountFile} {n : ℤ}
    (h : readRebootCount ioError file = some n) : file.value = n := by
  unfold readRebootCount at h
  split at h
  · cases h
  · exact Option.some.inj h

/-- A write that does not die after the truncation leaves the new or the old
value. -/
theorem value_writeCount {fault : WriteFault} (h : fault ≠ .writing) (n : ℤ) (file : CountFile) :
    (writeCount fault n file).value = n ∨ (writeCount fault n file).value = file.value := by
  cases fault with
  | none | syncing => exact Or.inl rfl
  | opening => exact Or.inr rfl
  | locking => exact Or.inr (CountFile.value_created file)
  | writing => exact absurd rfl h

/-- A write that fails before the truncation leaves the old value. -/
theorem value_writeCount_harmless {fault : WriteFault} (h : fault = .opening ∨ fault = .locking)
    (n : ℤ) (file : CountFile) : (writeCount fault n file).value = file.value := by
  rcases h with rfl | rfl
  · rfl
  · exact CountFile.value_created file

/-- No write makes the counter negative. -/
theorem value_writeCount_nonneg {fault : WriteFault} {n : ℤ} {file : CountFile} (hn : 0 ≤ n)
    (hfile : 0 ≤ file.value) : 0 ≤ (writeCount fault n file).value := by
  cases fault with
  | none | syncing => exact hn
  | opening => exact hfile
  | locking => simpa [writeCount] using hfile
  | writing => exact le_rfl

/-- A durable increment that returns a count has put it into the file; one that
raises has either not touched the value or spent one reboot. -/
theorem atomicIncrement_durable {answers : IncrementAnswers} (file : CountFile)
    (h : answers.Durable) :
    (∃ n, (atomicIncrementRebootCount answers file).2 = some n) ∧
        (atomicIncrementRebootCount answers file).1.value = file.value + 1 ∨
      (atomicIncrementRebootCount answers file).2 = none ∧
        ((atomicIncrementRebootCount answers file).1.value = file.value ∨
          (atomicIncrementRebootCount answers file).1.value = file.value + 1) := by
  obtain ⟨fault, fallback⟩ := answers
  rcases h with h | ⟨h, hread⟩
  · simp only at h
    subst h
    exact Or.inl ⟨⟨_, rfl⟩, rfl⟩
  · simp only at h hread
    subst hread
    cases fault with
    | none => exact Or.inl ⟨⟨_, rfl⟩, rfl⟩
    | opening => exact Or.inr ⟨rfl, Or.inl rfl⟩
    | locking => exact Or.inr ⟨rfl, Or.inl (CountFile.value_created file)⟩
    | writing => exact absurd rfl h
    | syncing => exact Or.inr ⟨rfl, Or.inr rfl⟩

/-- A durable reboot handler moves the counter. -/
theorem rebootNode_move (settings : RebootSettings) {refunds : Bool} {answers : RebootAnswers}
    (hdurable : answers.Durable refunds) (now : ℚ) (count : CountFile) (mode : ModeState) :
    CounterMove refunds settings.maxFdirReboots count.value
      (rebootNode settings answers now count mode).outputs
      (rebootNode settings answers now count mode).count.value := by
  unfold rebootNode
  split
  · cases hread : readRebootCount answers.readError count with
    | none => exact .keep _
    | some reboots =>
        obtain rfl := readRebootCount_eq_some hread
        simp only
        split
        · exact .keep _
        · rename_i hlimit
          have hlt : count.value < settings.maxFdirReboots := not_le.mp hlimit
          have hincr := atomicIncrement_durable count hdurable.increment
          cases hresult : atomicIncrementRebootCount answers.increment count with
          | mk count' returned =>
              rw [hresult] at hincr
              cases returned with
              | none =>
                  rcases hincr with ⟨⟨n, hn⟩, -⟩ | ⟨-, hkeep | hwaste⟩
                  · cases hn
                  · simp only at hkeep
                    simpa only [hkeep] using CounterMove.keep count.value
                  · simp only at hwaste
                    simpa only [hwaste] using CounterMove.waste count.value hlt
              | some n =>
                  have hafter : count'.value = count.value + 1 := by
                    rcases hincr with ⟨-, h⟩ | ⟨h, -⟩
                    · exact h
                    · cases h
                  cases hcommand : answers.command with
                  | accepted | raised => exact .spend _ _ _ hlt hafter
                  | refused =>
                      have hspend (hv : (writeCount answers.rollback count.value count').value =
                          count'.value) :
                          CounterMove refunds settings.maxFdirReboots count.value
                            [.rebootCommand count count' .refused]
                            (writeRebootCount answers.rollback count.value count').value := by
                        rw [writeRebootCount, hv]
                        exact .spend count count' .refused hlt hafter
                      rcases hdurable.rollback hcommand with hkept | hkept | ⟨hrefunds, hrollback⟩
                      · exact hspend (value_writeCount_harmless (.inl hkept) _ _)
                      · exact hspend (value_writeCount_harmless (.inr hkept) _ _)
                      · rcases value_writeCount hrollback count.value count' with hv | hv
                        · simpa only [writeRebootCount, hv] using
                            CounterMove.refund count count' hrefunds hlt hafter
                        · exact hspend hv
  · exact .keep _

/-- No action makes the counter negative, whatever the storage answers. -/
theorem execute_count_nonneg (settings : RebootSettings) (action : RecoveryAction)
    (actionRaises : Bool) (answers : RebootAnswers) (now : ℚ) {count : CountFile}
    (mode : ModeState) (h : 0 ≤ count.value) :
    0 ≤ (execute settings action actionRaises answers now count mode).count.value := by
  have hincr : 0 ≤ (atomicIncrementRebootCount answers.increment count).1.value := by
    unfold atomicIncrementRebootCount
    have hwrite : 0 ≤ (writeCount answers.increment.fault (count.value + 1) count).value :=
      value_writeCount_nonneg (by omega) h
    cases hfault : answers.increment.fault <;> simpa [hfault] using hwrite
  cases action with
  | retryHandle | restartPipeline | restartJanus | usbReset | degradeProfile | switchMode
  | none => exact h
  | rebootNode =>
      unfold execute rebootNode
      cases hread : readRebootCount answers.readError count with
      | none => simp only; split <;> exact h
      | some reboots =>
          obtain rfl := readRebootCount_eq_some hread
          cases hresult : atomicIncrementRebootCount answers.increment count with
          | mk count' returned =>
              rw [hresult] at hincr
              simp only
              split
              · split
                · exact h
                · cases returned with
                  | none => exact hincr
                  | some n =>
                      cases hcommand : answers.command with
                      | accepted | raised => exact hincr
                      | refused => exact value_writeCount_nonneg h hincr
              · exact h

/-- No action clears the counter. -/
theorem execute_keeps (settings : RebootSettings) (action : RecoveryAction)
    (actionRaises : Bool) (answers : RebootAnswers) (now : ℚ) (count : CountFile)
    (mode : ModeState) :
    FdirOutput.counterReset ∉
      (execute settings action actionRaises answers now count mode).outputs := by
  cases action with
  | retryHandle | restartPipeline | restartJanus | usbReset | degradeProfile | switchMode
  | none => simp [execute]
  | rebootNode =>
      unfold execute rebootNode
      repeat' split
      all_goals simp

/-- Executing any action moves the counter. -/
theorem execute_move (settings : RebootSettings) (action : RecoveryAction) (actionRaises : Bool)
    {refunds : Bool} {answers : RebootAnswers} (hdurable : answers.Durable refunds) (now : ℚ)
    (count : CountFile) (mode : ModeState) :
    CounterMove refunds settings.maxFdirReboots count.value
      (execute settings action actionRaises answers now count mode).outputs
      (execute settings action actionRaises answers now count mode).count.value := by
  cases action with
  | rebootNode => exact rebootNode_move settings hdurable now count mode
  | retryHandle | restartPipeline | restartJanus | usbReset | degradeProfile | switchMode
  | none => exact .keep _

end CameraStack.Fdir
