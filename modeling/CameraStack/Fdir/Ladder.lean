/-
# The recovery ladder and its crash points

`_escalate_locked` mutates the in-memory ladder, saves it and runs the level's
action in several separate steps, and the process may die between any two of
them.  `crashMachine` takes these steps one at a time: the phase records where
the caller that holds the ladder's lock has got to, a crash discards the memory,
and a start rebuilds it from the state file.

The persisted half of the ladder, together with the attempt that has been saved
but not yet executed, is an abstract ladder of its own.  `LadderMove` lists what
can happen to it, `crashMachine_move` shows that every step of the faithful
machine is one of these moves, and the budgets are then properties of the moves.
-/

import CameraStack.Lib.Machine
import CameraStack.Fdir.Persistence

namespace CameraStack.Fdir

open CameraStack.Lib

/-! ## The ladder in memory -/

/-- The mutable fields of `RecoveryLadder`. -/
structure LadderMem where
  levels : List LadderLevel
  currentLevel : ℕ
  totalRecoveries : ℤ
  lastEscalationTs : ℚ

/-- What the ladder is configured with. -/
structure LadderConfig where
  policy : List LevelPolicy
  dedupWindowSec : ℚ
  maxFdirReboots : ℤ
  floatRepr : ℚ → String

namespace LadderConfig

/-- The levels as `_default_ladder()` builds them. -/
def freshLevels (cfg : LadderConfig) : List LadderLevel := cfg.policy.map LevelPolicy.build

/-- `RecoveryLadder.__init__`: reload the state, then trip the reboot circuit
breaker by marking every level exhausted. -/
def initLadder (cfg : LadderConfig) (file : Option SavedLadder) (reboots : ℤ) : LadderMem :=
  let loaded := loadLadderState cfg.floatRepr cfg.freshLevels file
  { levels := loaded.1
    currentLevel := if cfg.maxFdirReboots ≤ reboots then loaded.1.length else loaded.2.1
    totalRecoveries := loaded.2.2
    lastEscalationTs := 0 }

end LadderConfig

namespace LadderMem

/-- `self._current_level += 1`. -/
def bumpLevel (m : LadderMem) : LadderMem := { m with currentLevel := m.currentLevel + 1 }

/-- `level.attempts += 1` on the current level. -/
def countAttempt (m : LadderMem) : LadderMem :=
  { m with levels :=
      m.levels.modify m.currentLevel fun lv => { lv with attempts := lv.attempts + 1 } }

/-- `level.last_attempt = now` on the current level. -/
def stampAttempt (now : ℚ) (m : LadderMem) : LadderMem :=
  { m with levels := m.levels.modify m.currentLevel fun lv => { lv with lastAttempt := now } }

/-- `self._total_recoveries += 1`. -/
def countRecovery (m : LadderMem) : LadderMem :=
  { m with totalRecoveries := m.totalRecoveries + 1 }

/-- `self._last_escalation_ts = now`. -/
def markEscalation (now : ℚ) (m : LadderMem) : LadderMem := { m with lastEscalationTs := now }

/-- `_save_ladder_state(self._current_level, self._levels, self._total_recoveries)`. -/
def save (wallClock : ℚ) (m : LadderMem) : SavedLadder :=
  saveLadderState m.currentLevel m.levels m.totalRecoveries wallClock

/-- The decision the loop of `_escalate_locked` takes on one clock reading. -/
def decide (cfg : LadderConfig) (now : ℚ) (m : LadderMem) : EscalationDecision :=
  decideEscalation m.currentLevel m.levels m.lastEscalationTs now cfg.dedupWindowSec

end LadderMem

/-! ## The machine -/

/-- How far the holder of the ladder's lock has got.  `idle` means the lock is
free; the clock reading of the decision travels with an attempt in progress. -/
inductive Phase
  | idle
  | deciding
  | bumped
  | attempted (now : ℚ)
  | stamped (now : ℚ)
  | totalled (now : ℚ)
  | marked (now : ℚ)
  | saved (now : ℚ)

/-- The state file, the process if one is up, and the time of the last event. -/
structure CrashState where
  file : Option SavedLadder
  proc : Option (LadderMem × Phase)
  clock : ℚ

/-- Events: a process starts, a caller enters `escalate`, the caller takes its
next step, the process dies. -/
inductive CrashEvent
  | start (now : ℚ) (reboots : ℤ)
  | call (now : ℚ)
  | advance (now wallClock : ℚ)
  | crash (now : ℚ)

/-- When the event happens. -/
def CrashEvent.time : CrashEvent → ℚ
  | .start now _ => now
  | .call now => now
  | .advance now _ => now
  | .crash now => now

/-- One execution of a level's action, with the clock reading of its decision. -/
structure Execution where
  level : ℕ
  time : ℚ
  deriving DecidableEq

/-- The next step of a caller inside `_escalate_locked`. -/
def advanceCaller (cfg : LadderConfig) (now wallClock : ℚ) (file : Option SavedLadder)
    (mem : LadderMem) :
    Phase → (Option SavedLadder × LadderMem × Phase) × List Execution
  | .idle => ((file, mem, .idle), [])
  | .deciding =>
      match mem.decide cfg now with
      | .escalate _ => ((file, mem.bumpLevel, .bumped), [])
      | .execute _ => ((file, mem.countAttempt, .attempted now), [])
      | _ => ((file, mem, .idle), [])
  | .bumped => ((some (mem.save wallClock), mem, .deciding), [])
  | .attempted t => ((file, mem.stampAttempt t, .stamped t), [])
  | .stamped t => ((file, mem.countRecovery, .totalled t), [])
  | .totalled t => ((file, mem.markEscalation t, .marked t), [])
  | .marked t => ((some (mem.save wallClock), mem, .saved t), [])
  | .saved t => ((file, mem, .idle), [⟨mem.currentLevel, t⟩])

/-- The ladder with its crash points. -/
def crashMachine (cfg : LadderConfig) : Machine CrashState CrashEvent Execution where
  step s e :=
    match e, s.proc with
    | .start now reboots, _ =>
        ({ s with proc := some (cfg.initLadder s.file reboots, .idle), clock := now }, [])
    | .crash now, _ => ({ s with proc := none, clock := now }, [])
    | .call now, some (mem, .idle) =>
        ({ s with proc := some (mem, .deciding), clock := now }, [])
    | .call now, _ => ({ s with clock := now }, [])
    | .advance now _, none => ({ s with clock := now }, [])
    | .advance now wallClock, some (mem, phase) =>
        let ((file', mem', phase'), out) := advanceCaller cfg now wallClock s.file mem phase
        ({ file := file', proc := some (mem', phase'), clock := now }, out)

/-- A node whose state file does not exist yet and whose process is not up. -/
def CrashState.fresh : CrashState := { file := none, proc := none, clock := 0 }

/-! ## The abstract ladder -/

/-- The persisted ladder and the attempt that is recorded but not yet executed. -/
structure LadderView where
  levels : List LadderLevel
  level : ℕ
  pending : Option ℚ

/-- Record one attempt on a level. -/
def LadderLevel.attempt (now : ℚ) (lv : LadderLevel) : LadderLevel :=
  { lv with attempts := lv.attempts + 1, lastAttempt := now }

/-- What can happen to the persisted ladder in one step. -/
inductive LadderMove (now : ℚ) : LadderView → List Execution → LadderView → Prop
  | quiet (v : LadderView) : LadderMove now v [] v
  | abandon (v : LadderView) : LadderMove now v [] { v with pending := none }
  | climb (v : LadderView) (lv : LadderLevel) (hlevel : v.levels[v.level]? = some lv)
      (hused : lv.maxAttempts ≤ lv.attempts) :
      LadderMove now v [] { v with level := v.level + 1, pending := none }
  | record (v : LadderView) (t : ℚ) (ht : t ≤ now) (lv : LadderLevel)
      (hlevel : v.levels[v.level]? = some lv) (hlast : lv.lastAttempt ≤ t)
      (hdue : lv.lastAttempt + lv.cooldownSec ≤ t) (hbudget : lv.attempts < lv.maxAttempts) :
      LadderMove now v []
        { v with levels := v.levels.modify v.level (LadderLevel.attempt t), pending := some t }
  | execute (v : LadderView) (t : ℚ) (hpending : v.pending = some t) :
      LadderMove now v [⟨v.level, t⟩] { v with pending := none }

namespace LadderView

/-- What every reachable abstract ladder satisfies: levels below the current one
have used their budget, no stamp lies in the future, and a pending attempt is
the last one of the current level. -/
structure Ok (now : ℚ) (v : LadderView) : Prop where
  passed : ∀ j < v.level, ∀ lv, v.levels[j]? = some lv → lv.maxAttempts ≤ lv.attempts
  stamped : ∀ (i : ℕ) (lv : LadderLevel), v.levels[i]? = some lv → lv.lastAttempt ≤ now
  recorded : ∀ t, v.pending = some t → ∃ lv, v.levels[v.level]? = some lv ∧ lv.lastAttempt = t

/-- Executions of level `i` still to come: the unused budget plus a pending
attempt. -/
def remaining (i : ℕ) (v : LadderView) : ℕ :=
  (match v.levels[i]? with
    | none => 0
    | some lv => (lv.maxAttempts - lv.attempts).toNat) +
  (if v.pending.isSome ∧ v.level = i then 1 else 0)

/-- No execution of level `i` is due before this time: a pending attempt keeps
the reading of its decision, otherwise the cooldown since the last stamp counts.
A negative cooldown buys nothing, because the clock does not go back. -/
def earliest (i : ℕ) (v : LadderView) : ℚ :=
  match v.levels[i]? with
  | none => 0
  | some lv =>
      match v.pending with
      | some t => if v.level = i then t else lv.lastAttempt + max lv.cooldownSec 0
      | none => lv.lastAttempt + max lv.cooldownSec 0

end LadderView

/-- The levels after one recorded attempt, index by index. -/
theorem getElem?_modify_attempt (levels : List LadderLevel) (k i : ℕ) (t : ℚ) :
    (levels.modify k (LadderLevel.attempt t))[i]? =
      if k = i then levels[i]?.map (LadderLevel.attempt t) else levels[i]? := by
  rw [List.getElem?_modify]
  split <;> simp

namespace LadderMove

variable {now : ℚ} {v v' : LadderView} {out : List Execution}

/-- Moves keep the abstract invariant. -/
theorem ok (move : LadderMove now v out v') {past : ℚ} (hpast : past ≤ now)
    (hok : v.Ok past) : v'.Ok now := by
  have stamped : ∀ (i : ℕ) (lv : LadderLevel), v.levels[i]? = some lv → lv.lastAttempt ≤ now :=
    fun i lv h => (hok.stamped i lv h).trans hpast
  cases move with
  | quiet => exact ⟨hok.passed, stamped, hok.recorded⟩
  | abandon => exact ⟨hok.passed, stamped, by simp⟩
  | climb lv hlevel hused =>
      refine ⟨?_, stamped, by simp⟩
      intro j hj lv' hlv'
      rcases Nat.lt_succ_iff_lt_or_eq.mp hj with hj | rfl
      · exact hok.passed j hj lv' hlv'
      · obtain rfl : lv' = lv := Option.some.inj (hlv'.symm.trans hlevel)
        exact hused
  | record t ht lv hlevel hlast hdue hbudget =>
      refine ⟨?_, ?_, ?_⟩
      · intro j hj lv' hlv'
        rw [getElem?_modify_attempt, if_neg (Nat.ne_of_gt hj)] at hlv'
        exact hok.passed j hj lv' hlv'
      · intro i lv' hlv'
        rw [getElem?_modify_attempt] at hlv'
        split_ifs at hlv' with hi
        · obtain ⟨old, -, rfl⟩ := Option.map_eq_some_iff.mp hlv'
          exact ht
        · exact stamped i lv' hlv'
      · rintro t' ht'
        obtain rfl : t = t' := Option.some.inj ht'
        refine ⟨lv.attempt t, ?_, rfl⟩
        simp [hlevel]
  | execute t hpending => exact ⟨hok.passed, stamped, by simp⟩

/-- Moves pay for the executions of a level out of what remains of its budget. -/
theorem countP_add_remaining_le (move : LadderMove now v out v') (i : ℕ) :
    out.countP (fun o => o.level = i) + v'.remaining i ≤ v.remaining i := by
  cases move with
  | quiet => simp
  | abandon => simp [LadderView.remaining]
  | climb lv hlevel hused => simp [LadderView.remaining]
  | record t ht lv hlevel hlast hdue hbudget =>
      simp only [List.countP_nil, LadderView.remaining, getElem?_modify_attempt, zero_add]
      by_cases hi : v.level = i
      · subst hi
        simp only [hlevel, if_true, Option.map_some, LadderLevel.attempt, Option.isSome_some,
          and_self]
        have hspent : (lv.maxAttempts - (lv.attempts + 1)).toNat + 1 =
            (lv.maxAttempts - lv.attempts).toNat := by omega
        exact hspent.le.trans (Nat.le_add_right _ _)
      · simp [hi]
  | execute t hpending =>
      simp only [LadderView.remaining, hpending, Option.isSome_some, true_and,
        Option.isSome_none, Bool.false_eq_true, false_and, if_false, add_zero]
      by_cases hi : v.level = i <;> simp [hi, Nat.add_comm]

/-- The persisted level never goes down. -/
theorem level_le (move : LadderMove now v out v') : v.level ≤ v'.level := by
  cases move <;> simp

/-- Levels keep their policy. -/
theorem policy_eq (move : LadderMove now v out v') :
    v'.levels.map LadderLevel.toLevelPolicy = v.levels.map LadderLevel.toLevelPolicy := by
  cases move with
  | quiet | abandon | climb | execute => rfl
  | record t ht lv hlevel hlast hdue hbudget =>
      apply List.ext_getElem?
      intro i
      rw [List.getElem?_map, List.getElem?_map, getElem?_modify_attempt]
      split_ifs
      · cases v.levels[i]? <;> rfl
      · rfl

/-- Moves never bring the next execution of a level forward; an execution
happens exactly when it was due and pushes the next one out by the cooldown. -/
theorem earliest_le (move : LadderMove now v out v') {past : ℚ} (hok : v.Ok past) {i : ℕ}
    {lv : LadderLevel} (hlv : v.levels[i]? = some lv) :
    v.earliest i ≤ v'.earliest i ∧
      ∀ o ∈ out, o.level = i →
        v.earliest i ≤ o.time ∧ o.time + lv.cooldownSec ≤ v'.earliest i := by
  -- dropping a pending attempt leaves its stamp behind
  have dropped : v.earliest i ≤ lv.lastAttempt + max lv.cooldownSec 0 := by
    unfold LadderView.earliest
    cases hpending : v.pending with
    | none => simp [hlv]
    | some t =>
        simp only [hlv]
        split_ifs with hi
        · obtain ⟨lv', hlv', rfl⟩ := hok.recorded t hpending
          rw [hi, hlv] at hlv'
          obtain rfl : lv = lv' := Option.some.inj hlv'
          linarith [le_max_right lv.cooldownSec 0]
        · exact le_refl _
  cases move with
  | quiet => simp
  | abandon => simpa [LadderView.earliest, hlv] using dropped
  | climb lv' hlevel hused => simpa [LadderView.earliest, hlv] using dropped
  | record t ht lv' hlevel hlast hdue hbudget =>
      refine ⟨?_, by simp⟩
      refine dropped.trans ?_
      by_cases hi : v.level = i
      · subst hi
        obtain rfl : lv = lv' := Option.some.inj (hlv.symm.trans hlevel)
        have hmax : lv.lastAttempt + max lv.cooldownSec 0 ≤ t := by
          rcases max_cases lv.cooldownSec 0 with ⟨hm, -⟩ | ⟨hm, -⟩ <;> rw [hm] <;> linarith
        simpa [LadderView.earliest, hlv] using hmax
      · simp [LadderView.earliest, hlv, hi]
  | execute t hpending =>
      refine ⟨by simpa [LadderView.earliest, hlv] using dropped, ?_⟩
      intro o ho hoi
      simp only [List.mem_singleton] at ho
      subst ho
      obtain ⟨lv', hlv', rfl⟩ := hok.recorded t hpending
      rw [show v.level = i from hoi, hlv] at hlv'
      obtain rfl : lv = lv' := Option.some.inj hlv'
      constructor
      · simp [LadderView.earliest, hlv, hpending, show v.level = i from hoi]
      · simp [LadderView.earliest, hlv]

/-- A step executes at most one action. -/
theorem length_le_one (move : LadderMove now v out v') : out.length ≤ 1 := by
  cases move <;> simp

end LadderMove

/-! ## The machine refines the abstract ladder -/

/-- The ladder the state file describes, read without the length limit. -/
def LadderConfig.persisted (cfg : LadderConfig) :
    Option SavedLadder → List LadderLevel × ℕ × ℤ
  | none => (cfg.freshLevels, 0, 0)
  | some saved => saved.decode cfg.freshLevels

/-- The recorded-but-not-executed attempt of a phase. -/
def Phase.pending : Phase → Option ℚ
  | .saved t => some t
  | _ => none

/-- The abstract ladder of a state. -/
def CrashState.view (cfg : LadderConfig) (s : CrashState) : LadderView where
  levels := (cfg.persisted s.file).1
  level := (cfg.persisted s.file).2.1
  pending := s.proc.bind fun p => p.2.pending

/-- An attempt decided at `t` on the current level is within budget and cooldown. -/
def Due (levels : List LadderLevel) (level : ℕ) (t : ℚ) : Prop :=
  ∃ lv, levels[level]? = some lv ∧ lv.lastAttempt ≤ t ∧ lv.lastAttempt + lv.cooldownSec ≤ t ∧
    lv.attempts < lv.maxAttempts

/-- How the memory of a caller differs from the persisted ladder, phase by phase. -/
def Tracks (levels : List LadderLevel) (level : ℕ) (clock : ℚ) (mem : LadderMem) :
    Phase → Prop
  | .idle | .deciding | .saved _ => mem.levels = levels ∧ mem.currentLevel = level
  | .bumped => mem.levels = levels ∧ mem.currentLevel = level + 1 ∧
      ∃ lv, levels[level]? = some lv ∧ lv.maxAttempts ≤ lv.attempts
  | .attempted t => mem.currentLevel = level ∧ t ≤ clock ∧ Due levels level t ∧
      mem.levels = levels.modify level fun lv => { lv with attempts := lv.attempts + 1 }
  | .stamped t | .totalled t | .marked t => mem.currentLevel = level ∧ t ≤ clock ∧
      Due levels level t ∧ mem.levels = levels.modify level (LadderLevel.attempt t)

/-- Memory and file agree up to the step the caller is in, and the abstract
invariant holds. -/
structure CrashState.Consistent (cfg : LadderConfig) (s : CrashState) : Prop where
  tracks : ∀ mem phase, s.proc = some (mem, phase) →
    Tracks (s.view cfg).levels (s.view cfg).level s.clock mem phase
  ok : (s.view cfg).Ok s.clock

/-- Reading the file back keeps every level's policy. -/
theorem LadderConfig.persisted_policy (cfg : LadderConfig) (file : Option SavedLadder) :
    (cfg.persisted file).1.map LadderLevel.toLevelPolicy = cfg.policy := by
  have hfresh : cfg.freshLevels.map LadderLevel.toLevelPolicy = cfg.policy := by
    simp [LadderConfig.freshLevels, Function.comp_def]
  cases file with
  | none => exact hfresh
  | some saved =>
      calc (cfg.persisted (some saved)).1.map LadderLevel.toLevelPolicy
          = cfg.freshLevels.map LadderLevel.toLevelPolicy := by
            apply List.ext_getElem?
            intro i
            simp only [persisted, SavedLadder.decode, List.getElem?_map, List.getElem?_mapIdx]
            cases cfg.freshLevels[i]? <;> rfl
        _ = cfg.policy := hfresh

/-- A save makes the memory the persisted ladder. -/
theorem LadderConfig.persisted_save (cfg : LadderConfig) (mem : LadderMem)
    (hpolicy : mem.levels.map LadderLevel.toLevelPolicy = cfg.policy)
    (hlevel : mem.currentLevel ≤ mem.levels.length) (wallClock : ℚ) :
    cfg.persisted (some (mem.save wallClock)) =
      (mem.levels, mem.currentLevel, mem.totalRecoveries) :=
  decode_saveLadderState hpolicy hlevel _ _

/-- Every step of a caller inside `_escalate_locked` is a move of the abstract
ladder, and its memory stays in step with the file. -/
theorem advanceCaller_move {cfg : LadderConfig} {s : CrashState} (hs : s.Consistent cfg)
    {mem : LadderMem} {phase : Phase} (hproc : s.proc = some (mem, phase))
    {now : ℚ} (hclock : s.clock ≤ now) (wallClock : ℚ) :
    let r := advanceCaller cfg now wallClock s.file mem phase
    let s' : CrashState := { file := r.1.1, proc := some r.1.2, clock := now }
    LadderMove now (s.view cfg) r.2 (s'.view cfg) ∧
      Tracks (s'.view cfg).levels (s'.view cfg).level now r.1.2.1 r.1.2.2 := by
  have htracks := hs.tracks mem phase hproc
  have hpolicy : (s.view cfg).levels.map LadderLevel.toLevelPolicy = cfg.policy :=
    cfg.persisted_policy s.file
  -- a state with the same file and no attempt pending has the same abstract ladder
  have hview (hpending : phase.pending = none) (mem' : LadderMem) (phase' : Phase)
      (hpending' : phase'.pending = none) :
      CrashState.view cfg { file := s.file, proc := some (mem', phase'), clock := now } =
        s.view cfg := by
    simp [CrashState.view, hproc, hpending, hpending']
  cases phase with
  | idle =>
      simp only [advanceCaller, hview rfl mem .idle rfl]
      exact ⟨.quiet _, htracks⟩
  | deciding =>
      cases hdecision : mem.decide cfg now with
      | exhausted idx | skipDedup idx | cooldown idx remaining =>
          simp only [advanceCaller, hdecision, hview rfl mem .idle rfl]
          exact ⟨.quiet _, htracks⟩
      | escalate idx =>
          obtain ⟨-, lv, hlv, hused⟩ := decideEscalation_eq_escalate hdecision
          simp only [advanceCaller, hdecision, hview rfl mem.bumpLevel .bumped rfl]
          refine ⟨.quiet _, htracks.1, congrArg (· + 1) htracks.2, lv, ?_, hused⟩
          rw [← htracks.1, ← htracks.2]
          exact hlv
      | execute idx =>
          obtain ⟨-, lv, hlv, hdue, hbudget⟩ := decideEscalation_eq_execute hdecision
          rw [htracks.1, htracks.2] at hlv
          simp only [advanceCaller, hdecision, hview rfl mem.countAttempt (.attempted now) rfl]
          refine ⟨.quiet _, htracks.2, le_refl _, ⟨lv, hlv, ?_, hdue, hbudget⟩, ?_⟩
          · exact (hs.ok.stamped _ lv hlv).trans hclock
          · simp only [LadderMem.countAttempt, htracks.1, htracks.2]
  | bumped =>
      obtain ⟨hlevels, hcurrent, lv, hlv, hused⟩ := htracks
      have hlt : (s.view cfg).level < (s.view cfg).levels.length :=
        (List.getElem?_eq_some_iff.mp hlv).1
      have hsave := cfg.persisted_save mem (hlevels ▸ hpolicy)
        (by rw [hlevels, hcurrent]; exact hlt) wallClock
      have hview' : CrashState.view cfg
          { file := some (mem.save wallClock), proc := some (mem, .deciding), clock := now } =
            { s.view cfg with level := (s.view cfg).level + 1, pending := none } := by
        simp only [CrashState.view, hsave, hlevels, hcurrent, Phase.pending, Option.bind_some]
      simp only [advanceCaller, hview']
      exact ⟨.climb _ lv hlv hused, hlevels, hcurrent⟩
  | attempted t =>
      obtain ⟨hcurrent, ht, hdue, hlevels⟩ := htracks
      simp only [advanceCaller, hview rfl (mem.stampAttempt t) (.stamped t) rfl]
      refine ⟨.quiet _, hcurrent, ht.trans hclock, hdue, ?_⟩
      simp only [LadderMem.stampAttempt, hlevels, hcurrent, List.modify_modify_eq]
      rfl
  | stamped t =>
      simp only [advanceCaller, hview rfl mem.countRecovery (.totalled t) rfl]
      exact ⟨.quiet _, htracks.1, htracks.2.1.trans hclock, htracks.2.2.1, htracks.2.2.2⟩
  | totalled t =>
      simp only [advanceCaller, hview rfl (mem.markEscalation t) (.marked t) rfl]
      exact ⟨.quiet _, htracks.1, htracks.2.1.trans hclock, htracks.2.2.1, htracks.2.2.2⟩
  | marked t =>
      obtain ⟨hcurrent, ht, ⟨lv, hlv, hlast, hdue, hbudget⟩, hlevels⟩ := htracks
      have hlt : (s.view cfg).level < (s.view cfg).levels.length :=
        (List.getElem?_eq_some_iff.mp hlv).1
      have hmove : LadderMove now (s.view cfg) []
          { s.view cfg with
            levels := (s.view cfg).levels.modify (s.view cfg).level (LadderLevel.attempt t)
            pending := some t } :=
        .record _ t (ht.trans hclock) lv hlv hlast hdue hbudget
      have hsave := cfg.persisted_save mem
        (by rw [hlevels]; exact hmove.policy_eq.trans hpolicy)
        (by rw [hlevels, hcurrent, List.length_modify]; exact hlt.le) wallClock
      have hview' : CrashState.view cfg
          { file := some (mem.save wallClock), proc := some (mem, .saved t), clock := now } =
            { s.view cfg with
              levels := (s.view cfg).levels.modify (s.view cfg).level (LadderLevel.attempt t)
              pending := some t } := by
        simp only [CrashState.view, hsave, hlevels, hcurrent, Phase.pending, Option.bind_some]
      simp only [advanceCaller, hview']
      exact ⟨hmove, hlevels, hcurrent⟩
  | saved t =>
      have hpending : (s.view cfg).pending = some t := by
        simp [CrashState.view, hproc, Phase.pending]
      have hview' : CrashState.view cfg
          { file := s.file, proc := some (mem, .idle), clock := now } =
            { s.view cfg with pending := none } := by
        simp [CrashState.view, Phase.pending]
      simp only [advanceCaller, hview']
      refine ⟨?_, htracks⟩
      rw [htracks.2]
      exact .execute _ t hpending

/-! ## Assumptions on a run -/

/-- The clock does not go back. -/
def ClockForward (s : CrashState) (e : CrashEvent) : Prop := s.clock ≤ e.time

/-- A starting process finds the reboot counter below its limit. -/
def BreakerClosed (cfg : LadderConfig) (_ : CrashState) : CrashEvent → Prop
  | .start _ reboots => reboots < cfg.maxFdirReboots
  | _ => True

/-- A starting process finds a state file that the bounded read holds whole. -/
def FileFits (cfg : LadderConfig) (s : CrashState) : CrashEvent → Prop
  | .start _ _ => ∀ saved ∈ s.file, saved.Fits cfg.floatRepr
  | _ => True

instance (s : CrashState) (e : CrashEvent) : Decidable (ClockForward s e) :=
  inferInstanceAs (Decidable (_ ≤ _))

instance (cfg : LadderConfig) (s : CrashState) : (e : CrashEvent) →
    Decidable (BreakerClosed cfg s e)
  | .start _ _ => inferInstanceAs (Decidable (_ < _))
  | .call _ | .advance _ _ | .crash _ => isTrue trivial

instance (cfg : LadderConfig) (s : CrashState) : (e : CrashEvent) → Decidable (FileFits cfg s e)
  | .start _ _ => inferInstanceAs (Decidable (∀ saved ∈ s.file, saved.Fits cfg.floatRepr))
  | .call _ | .advance _ _ | .crash _ => isTrue trivial

/-- Every event moves the clock to its own time. -/
theorem crashMachine_clock (cfg : LadderConfig) (s : CrashState) (e : CrashEvent) :
    ((crashMachine cfg).next s e).clock = e.time := by
  obtain ⟨file, proc, clock⟩ := s
  cases e with
  | start | crash => rfl
  | call now =>
      cases proc with
      | none => rfl
      | some p => obtain ⟨mem, phase⟩ := p; cases phase <;> rfl
  | advance now wallClock => cases proc <;> rfl

/-- The clock assumption speaks about the times of the events only. -/
theorem along_clockForward_iff (cfg : LadderConfig) (s : CrashState) (events : List CrashEvent) :
    (crashMachine cfg).Along ClockForward s events ↔
      (s.clock :: events.map CrashEvent.time).IsChain (· ≤ ·) := by
  induction events generalizing s with
  | nil => simp
  | cons e es ih =>
      rw [Machine.along_cons, ih, crashMachine_clock, List.map_cons, List.isChain_cons_cons]
      rfl

/-- The assumptions under which the ladder keeps its budgets. -/
def Sound (cfg : LadderConfig) (s : CrashState) (e : CrashEvent) : Prop :=
  ClockForward s e ∧ BreakerClosed cfg s e ∧ FileFits cfg s e

/-- A state whose process sits between calls of `escalate`, with the persisted
ladder in memory, is consistent. -/
private theorem consistent_of_tracks {cfg : LadderConfig} {s s' : CrashState}
    {out : List Execution} (hs : s.Consistent cfg) (hclock : s.clock ≤ s'.clock)
    (move : LadderMove s'.clock (s.view cfg) out (s'.view cfg))
    (tracks : ∀ mem phase, s'.proc = some (mem, phase) →
      Tracks (s'.view cfg).levels (s'.view cfg).level s'.clock mem phase) :
    s'.Consistent cfg :=
  ⟨tracks, move.ok hclock hs.ok⟩

/-- A start finds in the file exactly the persisted ladder. -/
theorem LadderConfig.initLadder_eq {cfg : LadderConfig} {s : CrashState} {now : ℚ} {reboots : ℤ}
    (hbreaker : BreakerClosed cfg s (.start now reboots))
    (hfits : FileFits cfg s (.start now reboots)) :
    (cfg.initLadder s.file reboots).levels = (s.view cfg).levels ∧
      (cfg.initLadder s.file reboots).currentLevel = (s.view cfg).level := by
  have hlt : ¬ cfg.maxFdirReboots ≤ reboots := not_le.mpr hbreaker
  cases hfile : s.file with
  | none => simp [initLadder, loadLadderState, CrashState.view, persisted, hfile, hlt]
  | some saved =>
      have hfit : saved.Fits cfg.floatRepr := hfits saved hfile
      simp [initLadder, loadLadderState, CrashState.view, persisted, hfile, hlt, hfit]

/-- Every step of the machine is a move of the abstract ladder and keeps the
state consistent. -/
theorem crashMachine_move {cfg : LadderConfig} {s : CrashState} {e : CrashEvent}
    (hs : s.Consistent cfg) (hsound : Sound cfg s e) :
    LadderMove e.time (s.view cfg) ((crashMachine cfg).emits s e)
        (((crashMachine cfg).next s e).view cfg) ∧
      ((crashMachine cfg).next s e).Consistent cfg := by
  obtain ⟨hclock, hbreaker, hfits⟩ := hsound
  suffices h : LadderMove e.time (s.view cfg) ((crashMachine cfg).emits s e)
        (((crashMachine cfg).next s e).view cfg) ∧
      ((crashMachine cfg).next s e).clock = e.time ∧
      ∀ mem phase, ((crashMachine cfg).next s e).proc = some (mem, phase) →
        Tracks (((crashMachine cfg).next s e).view cfg).levels
          (((crashMachine cfg).next s e).view cfg).level e.time mem phase by
    obtain ⟨move, htime, htracks⟩ := h
    exact ⟨move, consistent_of_tracks hs (by rw [htime]; exact hclock)
      (by rw [htime]; exact move) (by rw [htime]; exact htracks)⟩
  have hlater : ∀ mem phase, s.proc = some (mem, phase) →
      Tracks (s.view cfg).levels (s.view cfg).level e.time mem phase := by
    intro mem phase hproc
    have h := hs.tracks mem phase hproc
    cases phase with
    | idle | deciding | bumped | saved => exact h
    | attempted | stamped | totalled | marked => exact ⟨h.1, h.2.1.trans hclock, h.2.2⟩
  cases e with
  | start now reboots =>
      refine ⟨.abandon _, rfl, ?_⟩
      rintro mem phase hproc
      obtain ⟨rfl, rfl⟩ : cfg.initLadder s.file reboots = mem ∧ Phase.idle = phase :=
        Prod.ext_iff.mp (Option.some.inj hproc)
      exact LadderConfig.initLadder_eq hbreaker hfits
  | crash now =>
      refine ⟨.abandon _, rfl, ?_⟩
      rintro mem phase hproc
      cases hproc
  | call now =>
      obtain ⟨file, proc, clock⟩ := s
      cases proc with
      | none => exact ⟨.quiet _, rfl, hlater⟩
      | some p =>
          obtain ⟨mem, phase⟩ := p
          cases phase with
          | idle =>
              refine ⟨.quiet _, rfl, ?_⟩
              rintro mem' phase' hproc'
              obtain ⟨rfl, rfl⟩ := Prod.ext_iff.mp (Option.some.inj hproc')
              exact hlater mem .idle rfl
          | deciding | bumped | attempted | stamped | totalled | marked | saved =>
              exact ⟨.quiet _, rfl, hlater⟩
  | advance now wallClock =>
      obtain ⟨file, proc, clock⟩ := s
      cases proc with
      | none => exact ⟨.quiet _, rfl, hlater⟩
      | some p =>
          obtain ⟨mem₀, phase₀⟩ := p
          obtain ⟨move, htracks⟩ := advanceCaller_move hs rfl hclock wallClock
          refine ⟨move, rfl, ?_⟩
          rintro mem phase hproc
          obtain ⟨rfl, rfl⟩ := Prod.ext_iff.mp (Option.some.inj hproc)
          exact htracks

/-! ## Budgets along a run -/

/-- The fresh node is consistent. -/
theorem CrashState.fresh_consistent (cfg : LadderConfig) :
    CrashState.fresh.Consistent cfg := by
  refine ⟨by simp [CrashState.fresh], ⟨by simp [CrashState.view, CrashState.fresh,
    LadderConfig.persisted], ?_, by simp [CrashState.view, CrashState.fresh]⟩⟩
  intro i lv hlv
  obtain ⟨p, -, rfl⟩ : ∃ p, cfg.policy[i]? = some p ∧ p.build = lv := by
    simpa [CrashState.view, CrashState.fresh, LadderConfig.persisted,
      LadderConfig.freshLevels] using hlv
  exact le_refl _

section Run

variable {cfg : LadderConfig} {s : CrashState} {events : List CrashEvent}

theorem consistent_next (s : CrashState) (e : CrashEvent) (hs : s.Consistent cfg)
    (hsound : Sound cfg s e) : ((crashMachine cfg).next s e).Consistent cfg :=
  (crashMachine_move hs hsound).2

theorem consistent_run (hs : s.Consistent cfg)
    (along : (crashMachine cfg).Along (Sound cfg) s events) :
    ((crashMachine cfg).run s events).Consistent cfg :=
  (crashMachine cfg).run_invariant consistent_next along hs

/-- A level is executed no more often than its remaining budget allows. -/
theorem countP_trace_le_remaining (hs : s.Consistent cfg)
    (along : (crashMachine cfg).Along (Sound cfg) s events) (i : ℕ) :
    ((crashMachine cfg).trace s events).countP (fun o => o.level = i) ≤
      (s.view cfg).remaining i := by
  have h := (crashMachine cfg).countP_trace_le (fun s => (s.view cfg).remaining i)
    (fun o => o.level = i) consistent_next
    (fun _ _ h g => (crashMachine_move h g).1.countP_add_remaining_le i) along hs
  exact (Nat.le_add_right _ _).trans h

/-- The persisted level never goes down along a run. -/
theorem view_level_le_run (hs : s.Consistent cfg)
    (along : (crashMachine cfg).Along (Sound cfg) s events) :
    (s.view cfg).level ≤ (((crashMachine cfg).run s events).view cfg).level :=
  (crashMachine cfg).le_run (fun s => (s.view cfg).level) consistent_next
    (fun _ _ h g => (crashMachine_move h g).1.level_le) along hs

/-- Executions of one level keep its cooldown, and none comes before it is due. -/
theorem trace_spaced (hs : s.Consistent cfg)
    (along : (crashMachine cfg).Along (Sound cfg) s events) {i : ℕ} {p : LevelPolicy}
    (hp : cfg.policy[i]? = some p) :
    (∀ o ∈ (crashMachine cfg).trace s events, o.level = i → (s.view cfg).earliest i ≤ o.time) ∧
      (((crashMachine cfg).trace s events).filter (fun o => o.level = i)).Pairwise
        (fun a b => a.time + p.cooldownSec ≤ b.time) := by
  induction events generalizing s with
  | nil => simp
  | cons e es ih =>
      obtain ⟨move, hs'⟩ := crashMachine_move hs along.1
      obtain ⟨later, spaced⟩ := ih hs' along.2
      obtain ⟨lv, hlv, hcool⟩ : ∃ lv, (s.view cfg).levels[i]? = some lv ∧
          lv.toLevelPolicy = p := by
        have hpolicy := cfg.persisted_policy s.file
        rw [← hpolicy, List.getElem?_map] at hp
        exact Option.map_eq_some_iff.mp hp
      obtain ⟨hle, hout⟩ := move.earliest_le hs.ok hlv
      subst hcool
      refine ⟨?_, ?_⟩
      · intro o ho hoi
        rcases List.mem_append.mp ho with ho | ho
        · exact (hout o ho hoi).1
        · exact hle.trans (later o ho hoi)
      · rw [Machine.trace_cons, List.filter_append, List.pairwise_append]
        refine ⟨?_, spaced, ?_⟩
        · have hone := (List.length_filter_le (fun o => o.level = i) _).trans move.length_le_one
          cases hf : List.filter (fun o => decide (o.level = i)) ((crashMachine cfg).emits s e) with
          | nil => exact .nil
          | cons a rest =>
              rw [hf] at hone
              obtain rfl : rest = [] := List.length_eq_zero_iff.mp (by simpa using hone)
              exact List.pairwise_singleton _ a
        · intro a ha b hb
          rw [List.mem_filter, decide_eq_true_iff] at ha hb
          exact (hout a ha.1 ha.2).2.trans (later b hb.1 hb.2)

/-- Once the persisted level is past the last one nothing is executed. -/
theorem trace_eq_nil_of_exhausted (hs : s.Consistent cfg)
    (along : (crashMachine cfg).Along (Sound cfg) s events)
    (hexhausted : cfg.policy.length ≤ (s.view cfg).level) :
    (crashMachine cfg).trace s events = [] := by
  induction events generalizing s with
  | nil => rfl
  | cons e es ih =>
      obtain ⟨move, hs'⟩ := crashMachine_move hs along.1
      have hquiet : (crashMachine cfg).emits s e = [] := by
        generalize hout : (crashMachine cfg).emits s e = out at move
        generalize ((crashMachine cfg).next s e).view cfg = v' at move
        cases move with
        | quiet | abandon | climb | record => rfl
        | execute t hpending =>
            obtain ⟨lv, hlv, -⟩ := hs.ok.recorded t hpending
            have hlength : (s.view cfg).levels.length = cfg.policy.length := by
              rw [← cfg.persisted_policy s.file, List.length_map]
              rfl
            have := (List.getElem?_eq_some_iff.mp hlv).1
            omega
      rw [Machine.trace_cons, hquiet, List.nil_append]
      exact ih hs' along.2 (hexhausted.trans move.level_le)

end Run

/-- What the ladder owes its operator over a whole run with crashes.  A level
that has been raised in memory but not yet saved (phase `bumped`) is invisible:
the lock is held until the save is done. -/
structure BudgetsHold (cfg : LadderConfig) (events : List CrashEvent) : Prop where
  attempts_le : ∀ i p, cfg.policy[i]? = some p →
    ((crashMachine cfg).trace .fresh events).countP (fun o => o.level = i) ≤
      p.maxAttempts.toNat
  cooldown : ∀ i p, cfg.policy[i]? = some p →
    (((crashMachine cfg).trace .fresh events).filter (fun o => o.level = i)).Pairwise
      (fun a b => a.time + p.cooldownSec ≤ b.time)
  level_mono : ∀ pre mid post, events = pre ++ mid ++ post →
    ∀ mem phase, ((crashMachine cfg).run .fresh pre).proc = some (mem, phase) →
      phase ≠ .bumped →
    ∀ mem' phase', ((crashMachine cfg).run .fresh (pre ++ mid)).proc = some (mem', phase') →
      mem.currentLevel ≤ mem'.currentLevel
  none_skipped : ∀ pre post, events = pre ++ post →
    ∀ mem phase, ((crashMachine cfg).run .fresh pre).proc = some (mem, phase) →
    ∀ j < mem.currentLevel, ∀ lv, mem.levels[j]? = some lv → lv.maxAttempts ≤ lv.attempts
  exhausted_final : ∀ pre post, events = pre ++ post →
    ∀ mem phase, ((crashMachine cfg).run .fresh pre).proc = some (mem, phase) →
      phase ≠ .bumped → cfg.policy.length ≤ mem.currentLevel →
    (crashMachine cfg).trace ((crashMachine cfg).run .fresh pre) post = []

/-- Apart from a raise that is not saved yet, the level in memory is the
persisted one. -/
theorem Tracks.currentLevel_eq {levels : List LadderLevel} {level : ℕ} {clock : ℚ}
    {mem : LadderMem} {phase : Phase} (h : Tracks levels level clock mem phase)
    (hphase : phase ≠ .bumped) : mem.currentLevel = level := by
  cases phase with
  | bumped => exact absurd rfl hphase
  | idle | deciding | saved => exact h.2
  | attempted | stamped | totalled | marked => exact h.1

/-- The level in memory is never below the persisted one. -/
theorem Tracks.level_le {levels : List LadderLevel} {level : ℕ} {clock : ℚ}
    {mem : LadderMem} {phase : Phase} (h : Tracks levels level clock mem phase) :
    level ≤ mem.currentLevel := by
  by_cases hphase : phase = .bumped
  · subst hphase
    exact h.2.1 ▸ Nat.le_succ level
  · exact (h.currentLevel_eq hphase).ge

/-- Every level below the one in memory has used up its budget. -/
theorem Tracks.passed {v : LadderView} {now clock : ℚ} {mem : LadderMem} {phase : Phase}
    (h : Tracks v.levels v.level clock mem phase) (hok : v.Ok now) :
    ∀ j < mem.currentLevel, ∀ lv, mem.levels[j]? = some lv → lv.maxAttempts ≤ lv.attempts := by
  intro j hj lv hlv
  cases phase with
  | idle | deciding | saved =>
      rw [h.1] at hlv
      exact hok.passed j (h.2 ▸ hj) lv hlv
  | bumped =>
      obtain ⟨hlevels, hcurrent, lv', hlv', hused⟩ := h
      rw [hlevels] at hlv
      rw [hcurrent] at hj
      rcases Nat.lt_succ_iff_lt_or_eq.mp hj with hj | rfl
      · exact hok.passed j hj lv hlv
      · obtain rfl : lv = lv' := Option.some.inj (hlv.symm.trans hlv')
        exact hused
  | attempted t =>
      rw [h.1] at hj
      rw [h.2.2.2, List.getElem?_modify_ne _ _ (Nat.ne_of_gt hj)] at hlv
      exact hok.passed j hj lv hlv
  | stamped t | totalled t | marked t =>
      rw [h.1] at hj
      rw [h.2.2.2, getElem?_modify_attempt, if_neg (Nat.ne_of_gt hj)] at hlv
      exact hok.passed j hj lv hlv

/-- Before the first event a level's whole budget remains. -/
theorem remaining_fresh {cfg : LadderConfig} {i : ℕ} {p : LevelPolicy}
    (hp : cfg.policy[i]? = some p) :
    (CrashState.fresh.view cfg).remaining i = p.maxAttempts.toNat := by
  simp [LadderView.remaining, CrashState.view, CrashState.fresh, LadderConfig.persisted,
    LadderConfig.freshLevels, hp, LevelPolicy.build]

/-- Budgets, cooldowns and the order of levels survive every placement of crashes
and restarts, as long as each restart reads the state file whole. -/
theorem ladder_budgets_survive_crashes (cfg : LadderConfig) (events : List CrashEvent)
    (clock : (crashMachine cfg).Along ClockForward .fresh events)
    (breaker : (crashMachine cfg).Along (BreakerClosed cfg) .fresh events)
    (fits : (crashMachine cfg).Along (FileFits cfg) .fresh events) :
    BudgetsHold cfg events := by
  have along : (crashMachine cfg).Along (Sound cfg) .fresh events := clock.and _ (breaker.and _ fits)
  have hfresh := CrashState.fresh_consistent cfg
  have reach (pre post : List CrashEvent) (h : events = pre ++ post) :
      ((crashMachine cfg).run .fresh pre).Consistent cfg ∧
        (crashMachine cfg).Along (Sound cfg) ((crashMachine cfg).run .fresh pre) post := by
    subst h
    obtain ⟨first, second⟩ := (Machine.along_append _ _ _ _).mp along
    exact ⟨consistent_run hfresh first, second⟩
  refine ⟨?_, fun i p hp => (trace_spaced hfresh along hp).2, ?_, ?_, ?_⟩
  · intro i p hp
    exact (countP_trace_le_remaining hfresh along i).trans_eq (remaining_fresh hp)
  · intro pre mid post h mem phase hproc hphase mem' phase' hproc'
    obtain ⟨hs, hmid⟩ := reach pre (mid ++ post) (by rw [h, List.append_assoc])
    have hgrow := view_level_le_run hs ((Machine.along_append _ _ _ _).mp hmid).1
    rw [← Machine.run_append] at hgrow
    have hs' := (reach (pre ++ mid) post h).1
    rw [(hs.tracks mem phase hproc).currentLevel_eq hphase]
    exact hgrow.trans (hs'.tracks mem' phase' hproc').level_le
  · intro pre post h mem phase hproc
    obtain ⟨hs, -⟩ := reach pre post h
    exact (hs.tracks mem phase hproc).passed hs.ok
  · intro pre post h mem phase hproc hphase hexhausted
    obtain ⟨hs, hpost⟩ := reach pre post h
    rw [(hs.tracks mem phase hproc).currentLevel_eq hphase] at hexhausted
    exact trace_eq_nil_of_exhausted hs hpost hexhausted

/-- One execution of the first level, if it is due: the process starts, a caller
enters, decides, makes its four mutations, saves and executes. -/
def oneExecution (t : ℚ) : List CrashEvent :=
  [.start t 0, .call t, .advance t t, .advance t t, .advance t t, .advance t t, .advance t t,
    .advance t t]

/-- The default ladder of a color node crashes after the save and before the
action of its first level: the attempt stays spent. -/
theorem colorLadder_crash_before_action :
    let cfg : LadderConfig :=
      { policy := defaultLadder "color_camera", dedupWindowSec := 3, maxFdirReboots := 2,
        floatRepr := fun q => toString q.num ++ ".0" }
    BudgetsHold cfg ((oneExecution 20).take 7 ++ (.crash 30 :: oneExecution 100)) := by
  intro cfg
  apply ladder_budgets_survive_crashes
  · rw [along_clockForward_iff]
    decide +kernel
  · decide +kernel
  · decide +kernel

/-! ## The bounded read -/

/-- One restart of the pipeline, with no cooldown. -/
def oneRestart : LevelPolicy where
  name := "restart_pipeline"
  action := .restartPipeline
  maxAttempts := 1
  cooldownSec := 0

/-- A ladder of `n + 1` equal levels. -/
def wideConfig (n : ℕ) : LadderConfig where
  policy := List.replicate (n + 1) oneRestart
  dedupWindowSec := 3
  maxFdirReboots := 2
  floatRepr q := toString q.num ++ ".0"

/-- A ladder whose state file cannot be read executes its first level at every
start, and saves a record that again has one attempt count per level. -/
theorem wideConfig_oneExecution {n : ℕ} {t : ℚ} (ht : 3 ≤ t) {s : CrashState}
    (hload : loadLadderState (wideConfig n).floatRepr (wideConfig n).freshLevels s.file =
      ((wideConfig n).freshLevels, 0, 0)) :
    (crashMachine (wideConfig n)).trace s (oneExecution t) = [⟨0, t⟩] ∧
      ∃ saved, ((crashMachine (wideConfig n)).run s (oneExecution t)).file = some saved ∧
        saved.attempts.length = n + 1 := by
  have hmax : (wideConfig n).maxFdirReboots = 2 := rfl
  have hinit : (wideConfig n).initLadder s.file 0 = ⟨(wideConfig n).freshLevels, 0, 0, 0⟩ := by
    simp [LadderConfig.initLadder, hload, hmax]
  have hdecide : LadderMem.decide (wideConfig n) t ⟨(wideConfig n).freshLevels, 0, 0, 0⟩ =
      .execute 0 := by
    have hdedup : ¬ t < 3 := not_lt.mpr ht
    have hcool : ¬ t < 0 := by linarith
    simp [LadderMem.decide, decideEscalation, LadderConfig.freshLevels, wideConfig, oneRestart,
      LevelPolicy.build, hdedup, hcool]
  constructor
  · simp [oneExecution, Machine.trace, Machine.next, Machine.emits, crashMachine, hinit, hdecide,
      advanceCaller, LadderMem.countAttempt, LadderMem.stampAttempt, LadderMem.countRecovery,
      LadderMem.markEscalation]
  · refine ⟨_, by
      simp only [oneExecution, Machine.run, Machine.next, crashMachine, hinit, advanceCaller,
        hdecide]
      rfl, ?_⟩
    simp [LadderMem.save, saveLadderState, LadderMem.countAttempt, LadderMem.stampAttempt,
      LadderMem.countRecovery, LadderMem.markEscalation, LadderConfig.freshLevels, wideConfig]

/-- Five thousand levels do not fit into the read: a crash after the first
execution gives the first level its budget back. -/
theorem ladder_budgets_lost_by_bounded_read :
    let cfg := wideConfig 4999
    let events := oneExecution 10 ++ (.crash 15 :: oneExecution 20)
    (crashMachine cfg).Along ClockForward .fresh events ∧
      (crashMachine cfg).Along (BreakerClosed cfg) .fresh events ∧
      ¬ BudgetsHold cfg events := by
  intro cfg events
  refine ⟨?_, ?_, ?_⟩
  · rw [along_clockForward_iff]
    decide +kernel
  · have hmax : cfg.maxFdirReboots = 2 := rfl
    simp [events, oneExecution, BreakerClosed, hmax]
  · intro hold
    obtain ⟨htrace, saved, hfile, hlength⟩ := wideConfig_oneExecution (n := 4999)
      (show (3 : ℚ) ≤ 10 by norm_num) (s := .fresh) rfl
    have hreload : loadLadderState cfg.floatRepr cfg.freshLevels (some saved) =
        (cfg.freshLevels, 0, 0) := by
      apply loadLadderState_of_not_fits
      apply SavedLadder.not_fits_of_length
      rw [hlength]
      decide
    have hsecond := (wideConfig_oneExecution (n := 4999) (show (3 : ℚ) ≤ 20 by norm_num)
      (s := (crashMachine cfg).run .fresh (oneExecution 10 ++ [.crash 15]))
      (by rw [Machine.run_append]; exact hfile ▸ hreload)).1
    have hall : (crashMachine cfg).trace .fresh events = [⟨0, 10⟩, ⟨0, 20⟩] := by
      rw [show events = (oneExecution 10 ++ [.crash 15]) ++ oneExecution 20 from rfl,
        Machine.trace_append, hsecond, Machine.trace_append, htrace]
      rfl
    have hcount := hold.attempts_le 0 oneRestart (by rfl)
    rw [hall] at hcount
    exact absurd hcount (by decide)

end CameraStack.Fdir
