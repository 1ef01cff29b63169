/-
# The watchdogs and the node they run on

A node owns two files and at most one process.  The process owns the ladder, the
operating mode and the bookkeeping of the two watchdogs.  Events are what the
environment can do: a process starts, the ladder is constructed, the Janus
watchdog ticks, the snapshot watchdog finds a stale snapshot, somebody else asks
for a mode, the node reboots.  A reboot loses the process and the ladder's state
file, which lives on tmpfs; the reboot counter stays.

The reboot budget is a potential argument over `CounterMove`: every step of the
node moves the counter in one of the five ways listed there, the unspent part of
the budget pays for the commands, and only a cleared counter refills it.
-/

import CameraStack.Fdir.Escalation

namespace CameraStack.Fdir

open CameraStack.Lib

/-! ## The clock -/

/-- The monotonic clock during one event: the successive readings and the time at
which the event is over. -/
structure Span where
  reading : ℕ → ℚ
  finish : ℚ
  mono : Monotone reading
  le_finish : ∀ k, reading k ≤ finish

/-- An event too short for the clock to advance. -/
def Span.at (t : ℚ) : Span where
  reading := fun _ => t
  finish := t
  mono := fun _ _ _ => le_rfl
  le_finish := fun _ => le_rfl

/-! ## State -/

/-- What the watchdogs and the ladder are configured with. -/
structure FdirConfig where
  ladder : LadderConfig
  watchdogRebootEnabled : Bool
  watchdogStaleMs : ℚ
  watchdogGraceSec : ℚ
  nominalWindowChecks : ℤ
  safeModeAutoResetSec : ℚ
  maxSuppressTicks : ℤ
  rebootCounterResetSec : ℤ

/-- Any watchdog skips if another one escalated within this window. -/
def escalationDedupSec : ℚ := 5

/-- The module state of `recovery_ladder`, `watchdogs` and `system_mode` in one
process. -/
structure Process where
  processStartMono : ℚ
  startupTs : ℚ
  ladder : Option LadderMem
  mode : ModeState
  firstHealthySeen : Bool
  lastEscalationTs : ℚ
  consecutiveSuppressions : ℤ
  healthyStreak : ℤ

/-- The node: two files and the process, if one is up. -/
structure FdirNode where
  disk : Disk
  proc : Option Process

/-! ## Events -/

/-- The answer of the Janus admin probe, with that of the retry after an error. -/
inductive Probe
  | summary (videoAgeMs : Option ℚ)
  | raised (retryRaises : Bool)
  deriving DecidableEq

/-- How the storage answers a reset. -/
structure ResetAnswers where
  saveFails : Bool := false
  wallClock : ℚ := 0
  fault : WriteFault := .none

/-- Everything one pass through `_watchdog_loop` gets from outside. -/
structure TickAnswers where
  probe : Probe
  localAlive : Bool := false
  quiesced : Bool := false
  reset : ResetAnswers := {}
  escalation : EscalateAnswers := {}

/-- A request to the mode controller from outside the recovery subsystem. -/
inductive ModeRequest
  | transition (target : SystemMode)
  | degrade
  | promote (target : SystemMode)

/-- What can happen to a node. -/
inductive FdirAction
  | processStart
  | getLadder (readError : Bool)
  | tick (answers : TickAnswers)
  | snapshotStale (quiesced : Bool) (escalation : EscalateAnswers)
  | modeRequest (request : ModeRequest)
  | nodeReboot

/-- An event: what happens and the clock meanwhile. -/
structure FdirEvent where
  span : Span
  action : FdirAction

/-- `age is not None and age <= watchdog_stale_ms`. -/
def FdirConfig.healthy (cfg : FdirConfig) : Probe → Bool
  | .summary (some age) => age ≤ cfg.watchdogStaleMs
  | _ => false

/-! ## The watchdog's functions -/

/-- A process with the modules just imported. -/
def Process.start (span : Span) : Process where
  processStartMono := span.reading 0
  startupTs := span.reading 1
  ladder := none
  mode := { current := .nominal, enteredAtMono := span.reading 2 }
  firstHealthySeen := false
  lastEscalationTs := 0
  consecutiveSuppressions := 0
  healthyStreak := 0

/-- `get_ladder`: construct the ladder once; the constructor's read of the reboot
counter may raise, and then there is no ladder yet.  `_watchdog_loop` sets its
streak to zero once it has the ladder. -/
def Process.getLadder (cfg : FdirConfig) (span : Span) (readError : Bool) (disk : Disk)
    (p : Process) : Process :=
  match p.ladder, readRebootCount readError disk.count with
  | none, some reboots =>
      { p with
        ladder := some (cfg.ladder.initLadder disk.ladder reboots)
        mode := if cfg.ladder.maxFdirReboots ≤ reboots then
          p.mode.transition .safe (span.reading 0) else p.mode
        healthyStreak := 0 }
  | _, _ => p

/-- `_in_grace_period`. -/
def Process.inGracePeriod (cfg : FdirConfig) (now : ℚ) (p : Process) : Bool :=
  !p.firstHealthySeen && (now - p.startupTs < cfg.watchdogGraceSec)

/-- The memory after `_reset_locked`. -/
def LadderMem.reset (m : LadderMem) : LadderMem :=
  { m with
    currentLevel := 0
    levels := m.levels.map fun lv => { lv with attempts := 0, lastAttempt := 0 }
    lastEscalationTs := 0 }

/-- The uptime test that guards the counter in `_reset_locked`. -/
def Process.pastCounterReset (cfg : FdirConfig) (now : ℚ) (p : Process) : Bool :=
  cfg.rebootCounterResetSec ≤ now - p.processStartMono

/-- The write of 0 to the counter file, with the output of one that reached it. -/
def clearCount (fault : WriteFault) (count : CountFile) : CountFile × List FdirOutput :=
  (writeRebootCount fault 0 count,
    match fault with
    | .none | .syncing => [.counterReset]
    | .opening | .locking | .writing => [])

/-- `RecoveryLadder.reset`: the ladder goes back to level 0 in memory and on disk;
the reboot counter is cleared when the process has been up long enough. -/
def Process.resetLadder (cfg : FdirConfig) (answers : ResetAnswers) (now : ℚ) (mem : LadderMem)
    (disk : Disk) (p : Process) : Process × Disk × List FdirOutput :=
  let mem' := mem.reset
  let saved := if answers.saveFails then disk.ladder else some (mem'.save answers.wallClock)
  let cleared := if p.pastCounterReset cfg now then clearCount answers.fault disk.count
    else (disk.count, [])
  ({ p with ladder := some mem' }, { count := cleared.1, ladder := saved }, cleared.2)

/-- `_try_escalate`: quiesced domains and the shared dedup window come first.  The
readings after the one of the window belong to the ladder. -/
def Process.tryEscalate (cfg : FdirConfig) (quiesced : Bool) (answers : EscalateAnswers)
    (reading : ℕ → ℚ) (mem : LadderMem) (disk : Disk) (p : Process) :
    Process × Disk × List FdirOutput :=
  if quiesced then (p, disk, [])
  else if reading 0 - p.lastEscalationTs < escalationDedupSec then (p, disk, [])
  else
    let result := escalate cfg.ladder cfg.watchdogRebootEnabled answers
      (fun k => reading (k + 1)) { mem := mem, mode := p.mode, disk := disk }
    ({ p with
        lastEscalationTs := reading 0
        ladder := some result.run.mem
        mode := result.run.mode },
      result.run.disk, result.outputs)

/-- The healthy branch of `_watchdog_loop`. -/
def Process.healthyTick (cfg : FdirConfig) (answers : TickAnswers) (span : Span)
    (mem : LadderMem) (disk : Disk) (p : Process) : Process × Disk × List FdirOutput :=
  let p' := { p with
    firstHealthySeen := true
    consecutiveSuppressions := 0
    healthyStreak := p.healthyStreak + 1 }
  if cfg.nominalWindowChecks ≤ p'.healthyStreak then
    let (p'', disk', out) := p'.resetLadder cfg answers.reset (span.reading 0) mem disk
    ({ p'' with
        mode := p''.mode.promote .nominal (span.reading 1)
        healthyStreak := cfg.nominalWindowChecks }, disk', out)
  else (p', disk, [])

/-- The condition of the SAFE-mode auto-reset. -/
def Process.autoResetDue (cfg : FdirConfig) (now : ℚ) (p : Process) : Bool :=
  p.mode.current = .safe && 0 < cfg.safeModeAutoResetSec &&
    cfg.safeModeAutoResetSec ≤ p.mode.uptimeSec now

/-- The stale branch of `_watchdog_loop`: grace period, SAFE-mode auto-reset,
bounded suppression while the local stream is alive, escalation. -/
def Process.staleTick (cfg : FdirConfig) (answers : TickAnswers) (span : Span)
    (mem : LadderMem) (disk : Disk) (p : Process) : Process × Disk × List FdirOutput :=
  let p' := { p with healthyStreak := 0 }
  if p'.inGracePeriod cfg (span.reading 0) then (p', disk, [])
  else if p'.autoResetDue cfg (span.reading 1) then
    let (p'', disk', out) := p'.resetLadder cfg answers.reset (span.reading 2) mem disk
    ({ p'' with mode := p''.mode.promote .nominal (span.reading 3) }, disk', out)
  else if answers.localAlive ∧ p'.consecutiveSuppressions < cfg.maxSuppressTicks then
    ({ p' with consecutiveSuppressions := p'.consecutiveSuppressions + 1 }, disk, [])
  else
    ({ p' with consecutiveSuppressions := 0 }).tryEscalate cfg answers.quiesced
      answers.escalation (fun k => span.reading (k + 2)) mem disk

/-- The `except` branch of `_watchdog_loop`: one retry, then the local stream
decides whether the failure may escalate. -/
def Process.failedTick (cfg : FdirConfig) (answers : TickAnswers) (retryRaises : Bool)
    (span : Span) (mem : LadderMem) (disk : Disk) (p : Process) :
    Process × Disk × List FdirOutput :=
  let p' := { p with healthyStreak := 0 }
  if p'.inGracePeriod cfg (span.reading 0) then (p', disk, [])
  else if !retryRaises then (p', disk, [])
  else if answers.localAlive then (p', disk, [])
  else p'.tryEscalate cfg answers.quiesced answers.escalation (fun k => span.reading (k + 1))
    mem disk

/-- One pass through `_watchdog_loop`. -/
def Process.tick (cfg : FdirConfig) (answers : TickAnswers) (span : Span) (mem : LadderMem)
    (disk : Disk) (p : Process) : Process × Disk × List FdirOutput :=
  match answers.probe with
  | .raised retryRaises => p.failedTick cfg answers retryRaises span mem disk
  | .summary age =>
      if cfg.healthy (.summary age) then p.healthyTick cfg answers span mem disk
      else p.staleTick cfg answers span mem disk

/-- The snapshot watchdog on a stale or missing snapshot. -/
def Process.snapshotStale (cfg : FdirConfig) (quiesced : Bool) (answers : EscalateAnswers)
    (span : Span) (mem : LadderMem) (disk : Disk) (p : Process) :
    Process × Disk × List FdirOutput :=
  if p.inGracePeriod cfg (span.reading 0) then (p, disk, [])
  else p.tryEscalate cfg quiesced answers (fun k => span.reading (k + 1)) mem disk

/-- A mode request from outside. -/
def ModeState.serve (now : ℚ) (m : ModeState) : ModeRequest → ModeState
  | .transition target => m.transition target now
  | .degrade => m.degrade now
  | .promote target => m.promote target now

/-- What one event does inside a process.  The watchdogs hold the ladder from
their start on, so without a ladder they do nothing. -/
def Process.serve (cfg : FdirConfig) (e : FdirEvent) (disk : Disk) (p : Process) :
    Process × Disk × List FdirOutput :=
  match e.action, p.ladder with
  | .getLadder readError, _ => (p.getLadder cfg e.span readError disk, disk, [])
  | .modeRequest request, _ =>
      ({ p with mode := p.mode.serve (e.span.reading 0) request }, disk, [])
  | .tick answers, some mem => p.tick cfg answers e.span mem disk
  | .snapshotStale quiesced answers, some mem =>
      p.snapshotStale cfg quiesced answers e.span mem disk
  | _, _ => (p, disk, [])

/-- The node. -/
def nodeMachine (cfg : FdirConfig) : Machine FdirNode FdirEvent FdirOutput where
  step node e :=
    match e.action, node.proc with
    | .processStart, _ => ({ node with proc := some (.start e.span) }, [])
    | .nodeReboot, _ => ({ disk := { node.disk with ladder := none }, proc := none }, [])
    | _, none => (node, [])
    | _, some p =>
        let (p', disk', out) := p.serve cfg e node.disk
        ({ disk := disk', proc := some p' }, out)

/-! ## The counter along one step -/

/-- The environment's answers to the counter's reads and writes in one event: those
of a reset and those of an escalation. -/
def FdirAction.counterAnswers : FdirAction → ResetAnswers × EscalateAnswers
  | .tick answers => (answers.reset, answers.escalation)
  | .snapshotStale _ answers => ({}, answers)
  | _ => ({}, {})

/-- The storage answers of the event never lose a reboot: a reset goes through or fails before the
truncation. -/
structure FdirAction.Durable (refunds : Bool) (action : FdirAction) : Prop where
  reset : action.counterAnswers.1.fault.harmless = true
  reboot : action.counterAnswers.2.reboot.Durable refunds

section Counter

variable (cfg : FdirConfig) {P : CountFile → List FdirOutput → CountFile → Prop}

/-- A reset keeps the counter or clears it. -/
theorem Process.resetLadder_counter (keep : ∀ count, P count [] count)
    (answers : ResetAnswers)
    (clear : ∀ count, P count (clearCount answers.fault count).2
      (clearCount answers.fault count).1)
    (now : ℚ) (mem : LadderMem) (disk : Disk) (p : Process) :
    P disk.count (p.resetLadder cfg answers now mem disk).2.2
      (p.resetLadder cfg answers now mem disk).2.1.count := by
  unfold resetLadder
  by_cases huptime : p.pastCounterReset cfg now = true
  · simpa only [huptime, if_true] using clear disk.count
  · simpa only [huptime, Bool.false_eq_true, if_false] using keep disk.count

/-- What one action can do to the counter is all `_try_escalate` can do. -/
theorem Process.tryEscalate_counter (keep : ∀ count, P count [] count)
    (answers : EscalateAnswers)
    (act : ∀ action later count mode,
      P count (execute ⟨cfg.watchdogRebootEnabled, cfg.ladder.maxFdirReboots⟩ action
          answers.actionRaises answers.reboot later count mode).outputs
        (execute ⟨cfg.watchdogRebootEnabled, cfg.ladder.maxFdirReboots⟩ action
          answers.actionRaises answers.reboot later count mode).count)
    (quiesced : Bool) (reading : ℕ → ℚ) (mem : LadderMem) (disk : Disk) (p : Process) :
    P disk.count (p.tryEscalate cfg quiesced answers reading mem disk).2.2
      (p.tryEscalate cfg quiesced answers reading mem disk).2.1.count := by
  unfold tryEscalate
  split
  · exact keep _
  · split
    · exact keep _
    · exact escalate_counter cfg.ladder cfg.watchdogRebootEnabled answers
        (fun k => reading (k + 1)) keep act { mem := mem, mode := p.mode, disk := disk }

/-- The rule for the counter: a relation that holds of an untouched counter, of the
clearing write and of every action holds of every event. -/
theorem nodeMachine_counter (keep : ∀ count, P count [] count) (e : FdirEvent)
    (clear : ∀ count, P count (clearCount e.action.counterAnswers.1.fault count).2
      (clearCount e.action.counterAnswers.1.fault count).1)
    (act : ∀ action later count mode,
      P count (execute ⟨cfg.watchdogRebootEnabled, cfg.ladder.maxFdirReboots⟩ action
          e.action.counterAnswers.2.actionRaises e.action.counterAnswers.2.reboot later count
          mode).outputs
        (execute ⟨cfg.watchdogRebootEnabled, cfg.ladder.maxFdirReboots⟩ action
          e.action.counterAnswers.2.actionRaises e.action.counterAnswers.2.reboot later count
          mode).count)
    (node : FdirNode) :
    P node.disk.count ((nodeMachine cfg).emits node e)
      ((nodeMachine cfg).next node e).disk.count := by
  obtain ⟨span, action⟩ := e
  obtain ⟨disk, proc⟩ := node
  cases proc with
  | none => cases action <;> exact keep _
  | some p =>
      cases action with
      | processStart | getLadder | modeRequest | nodeReboot => exact keep _
      | tick answers =>
          cases hladder : p.ladder with
          | none =>
              simpa [Machine.emits, Machine.next, nodeMachine, Process.serve, hladder] using
                keep disk.count
          | some mem =>
              suffices htick : P disk.count (p.tick cfg answers span mem disk).2.2
                  (p.tick cfg answers span mem disk).2.1.count by
                simpa [Machine.emits, Machine.next, nodeMachine, Process.serve, hladder] using htick
              have reset := fun now (q : Process) =>
                q.resetLadder_counter cfg keep answers.reset clear now mem disk
              have escalate := fun reading (q : Process) =>
                q.tryEscalate_counter cfg keep answers.escalation act answers.quiesced
                  reading mem disk
              unfold Process.tick
              split
              · unfold Process.failedTick
                simp only
                split_ifs
                · exact keep _
                · exact keep _
                · exact keep _
                · exact escalate _ _
              · split
                · unfold Process.healthyTick
                  simp only
                  split
                  · exact reset _ _
                  · exact keep _
                · unfold Process.staleTick
                  simp only
                  split_ifs
                  · exact keep _
                  · exact reset _ _
                  · exact keep _
                  · exact escalate _ _
      | snapshotStale quiesced answers =>
          cases hladder : p.ladder with
          | none =>
              simpa [Machine.emits, Machine.next, nodeMachine, Process.serve, hladder] using
                keep disk.count
          | some mem =>
              suffices hstale : P disk.count
                  (p.snapshotStale cfg quiesced answers span mem disk).2.2
                  (p.snapshotStale cfg quiesced answers span mem disk).2.1.count by
                simpa [Machine.emits, Machine.next, nodeMachine, Process.serve, hladder] using hstale
              unfold Process.snapshotStale
              split
              · exact keep _
              · exact p.tryEscalate_counter cfg keep answers act quiesced _ mem disk

end Counter

/-- The counter is never negative: it is only ever incremented, put back to a value
that was read, cleared or lost. -/
theorem nodeMachine_count_nonneg (cfg : FdirConfig) (node : FdirNode) (e : FdirEvent)
    (h : 0 ≤ node.disk.count.value) :
    0 ≤ ((nodeMachine cfg).next node e).disk.count.value := by
  refine nodeMachine_counter cfg
    (P := fun count _ count' => 0 ≤ count.value → 0 ≤ count'.value)
    (fun _ => id) e ?_ ?_ node h
  · intro count hcount
    unfold clearCount writeRebootCount
    exact value_writeCount_nonneg le_rfl hcount
  · intro action later count mode hcount
    exact execute_count_nonneg _ action _ _ later mode hcount

/-- When the storage is durable, every event moves the counter. -/
theorem nodeMachine_move (cfg : FdirConfig) (node : FdirNode) {refunds : Bool} {e : FdirEvent}
    (h : e.action.Durable refunds) :
    CounterMove refunds cfg.ladder.maxFdirReboots node.disk.count.value
      ((nodeMachine cfg).emits node e) ((nodeMachine cfg).next node e).disk.count.value := by
  refine nodeMachine_counter cfg
    (P := fun count out count' =>
      CounterMove refunds cfg.ladder.maxFdirReboots count.value out count'.value)
    (fun _ => .keep _) e ?_ ?_ node
  · intro count
    unfold clearCount writeRebootCount
    have hreset := h.reset
    cases hfault : e.action.counterAnswers.1.fault with
    | none => exact .clear _
    | opening => exact .keep _
    | locking => simpa [writeCount] using @CounterMove.keep refunds _ count.value
    | writing | syncing =>
        rw [hfault] at hreset
        cases hreset
  · intro action later count mode
    exact execute_move ⟨cfg.watchdogRebootEnabled, cfg.ladder.maxFdirReboots⟩ action _ h.reboot
      later count mode

/-! ## The budget between two clearings -/

/-- The unspent part of the reboot budget. -/
def FdirNode.budget (cfg : FdirConfig) (node : FdirNode) : ℕ :=
  (cfg.ladder.maxFdirReboots - node.disk.count.value).toNat

theorem FdirNode.budget_le (cfg : FdirConfig) {node : FdirNode}
    (h : 0 ≤ node.disk.count.value) : node.budget cfg ≤ cfg.ladder.maxFdirReboots.toNat := by
  unfold budget
  omega

/-- A run that does not clear the counter issues no more commands of a kind than the budget allows,
when each step pays for those it issues. -/
theorem countP_le_budget (cfg : FdirConfig) {refunds : Bool} (charged : FdirOutput → Bool)
    (hpaid : ∀ {n n' : ℤ} {out : List FdirOutput},
      CounterMove refunds cfg.ladder.maxFdirReboots n out n' → FdirOutput.counterReset ∉ out →
        out.countP charged + (cfg.ladder.maxFdirReboots - n').toNat ≤
          (cfg.ladder.maxFdirReboots - n).toNat)
    {node : FdirNode} {events : List FdirEvent}
    (hdurable : ∀ e ∈ events, e.action.Durable refunds)
    (hreset : (nodeMachine cfg).Along
      (fun node e => FdirOutput.counterReset ∉ (nodeMachine cfg).emits node e) node events) :
    ((nodeMachine cfg).trace node events).countP charged ≤ node.budget cfg := by
  have along := ((nodeMachine cfg).along_of_forall (G := fun _ e => e.action.Durable refunds)
    (fun e he _ => hdurable e he) node).and _ hreset
  have paid := (nodeMachine cfg).countP_trace_le (I := fun _ => True) (FdirNode.budget cfg)
    charged (fun _ _ _ _ => trivial)
    (fun s e _ guard => hpaid (nodeMachine_move cfg s guard.1) guard.2) along trivial
  omega

/-- While the storage is durable and no refused command is taken back, at most
`max_fdir_reboots` commands are issued between two clearings of the counter, and every
command finds its increment in the file. -/
theorem reboot_commands_bounded_between_clearings (cfg : FdirConfig) (node : FdirNode)
    (before events : List FdirEvent) (hcount : 0 ≤ node.disk.count.value)
    (hdurable : ∀ e ∈ events, e.action.Durable false)
    (hreset : FdirOutput.counterReset ∉
      (nodeMachine cfg).trace ((nodeMachine cfg).run node before) events) :
    let emitted := (nodeMachine cfg).trace ((nodeMachine cfg).run node before) events
    emitted.countP FdirOutput.issued ≤ cfg.ladder.maxFdirReboots.toNat ∧
      ∀ old new outcome, FdirOutput.rebootCommand old new outcome ∈ emitted →
        new.value = old.value + 1 := by
  intro emitted
  have hstart : 0 ≤ ((nodeMachine cfg).run node before).disk.count.value :=
    (nodeMachine cfg).run_invariant_of_step (I := fun s => 0 ≤ s.disk.count.value)
      (fun s e h => nodeMachine_count_nonneg cfg s e h) hcount before
  apply And.intro
  · have hissued : emitted.countP FdirOutput.issued ≤ _ :=
      countP_le_budget cfg FdirOutput.issued CounterMove.issued_add_budget_le hdurable
        (((nodeMachine cfg).along_of_trace (O := fun o => o ≠ .counterReset)
          fun o ho heq => hreset (heq ▸ ho)).imp _ fun s e h hmem => h _ hmem rfl)
    exact hissued.trans (FdirNode.budget_le cfg hstart)
  · intro old new outcome hmem
    exact (nodeMachine cfg).trace_forall (I := fun _ => True)
      (G := fun _ e => e.action.Durable false)
      (O := fun o => ∀ old new outcome, o = .rebootCommand old new outcome →
        new.value = old.value + 1)
      (fun _ _ _ _ => trivial)
      (fun s e _ guard o ho old new outcome heq =>
        (nodeMachine_move cfg s guard).issued_persisted (heq ▸ ho))
      ((nodeMachine cfg).along_of_forall (fun e he _ => hdurable e he) _) trivial
      _ hmem old new outcome rfl

/-! ## Sustained health -/

/-- A tick on a healthy stream. -/
def FdirEvent.isHealthyTick (cfg : FdirConfig) (e : FdirEvent) : Bool :=
  match e.action with
  | .tick answers => cfg.healthy answers.probe
  | _ => false

/-- An event that interrupts a streak of healthy ticks: a tick on a stream that is
not healthy, and the end of the process that counts. -/
def FdirEvent.breaksStreak (cfg : FdirConfig) (e : FdirEvent) : Bool :=
  match e.action with
  | .tick answers => !cfg.healthy answers.probe
  | .processStart | .nodeReboot => true
  | _ => false

/-- Somewhere in the run `n` ticks in a row found the stream healthy. -/
def HasHealthyWindow (cfg : FdirConfig) (n : ℕ) (events : List FdirEvent) : Prop :=
  ∃ earlier window later, events = earlier ++ window ++ later ∧
    (∀ e ∈ window, e.breaksStreak cfg = false) ∧ n ≤ window.countP (FdirEvent.isHealthyTick cfg)

/-- The streak `_watchdog_loop` has counted so far; the loop starts with the
ladder. -/
def Process.streak (p : Process) : ℤ := if p.ladder.isSome then p.healthyStreak else 0

/-- The streak on a node, zero while no process is up. -/
def FdirNode.streak (node : FdirNode) : ℤ :=
  match node.proc with
  | some p => p.streak
  | none => 0

/-- The tick that completes a window of healthy checks and resets the ladder. -/
def StreakReset (cfg : FdirConfig) (node : FdirNode) (e : FdirEvent) : Prop :=
  e.isHealthyTick cfg ∧ cfg.nominalWindowChecks ≤ node.streak + 1

/-- The tick that takes the SAFE-mode auto-reset in a process that has been up for
long enough to clear the reboot counter. -/
def autoResetClears (cfg : FdirConfig) (node : FdirNode) (e : FdirEvent) : Bool :=
  match node.proc, e.action with
  | some p, .tick { probe := .summary age, .. } =>
      !cfg.healthy (.summary age) && !p.inGracePeriod cfg (e.span.reading 0) &&
        p.autoResetDue cfg (e.span.reading 1) && p.pastCounterReset cfg (e.span.reading 2)
  | _, _ => false

theorem Process.streak_of_zero {p : Process} (h : p.healthyStreak = 0) : p.streak = 0 := by
  simp [streak, h]

/-- `_try_escalate` keeps the streak and the ladder object. -/
theorem Process.tryEscalate_healthyStreak (cfg : FdirConfig) (quiesced : Bool)
    (answers : EscalateAnswers) (reading : ℕ → ℚ) (mem : LadderMem) (disk : Disk) (p : Process) :
    (p.tryEscalate cfg quiesced answers reading mem disk).1.healthyStreak = p.healthyStreak ∧
      (p.ladder = some mem →
        (p.tryEscalate cfg quiesced answers reading mem disk).1.ladder.isSome) := by
  unfold tryEscalate
  split_ifs <;> simp +contextual

/-- A tick on a stream that is not healthy ends the streak. -/
theorem Process.tick_healthyStreak {cfg : FdirConfig} {answers : TickAnswers}
    (h : cfg.healthy answers.probe = false) (span : Span) (mem : LadderMem) (disk : Disk)
    (p : Process) : (p.tick cfg answers span mem disk).1.healthyStreak = 0 := by
  unfold tick
  cases hprobe : answers.probe with
  | raised retryRaises =>
      simp only [failedTick]
      split_ifs
      · rfl
      · rfl
      · rfl
      · exact (tryEscalate_healthyStreak cfg _ _ _ mem disk _).1
  | summary age =>
      rw [hprobe] at h
      simp only [h, Bool.false_eq_true, if_false, staleTick]
      split_ifs
      · rfl
      · rfl
      · rfl
      · exact (tryEscalate_healthyStreak cfg _ _ _ mem disk _).1

/-- A healthy tick that does not complete the window adds one to the streak and
leaves the ladder alone. -/
theorem Process.tick_of_healthy {cfg : FdirConfig} {answers : TickAnswers}
    (h : cfg.healthy answers.probe = true) {p : Process}
    (hwindow : ¬ cfg.nominalWindowChecks ≤ p.healthyStreak + 1) (span : Span) (mem : LadderMem)
    (disk : Disk) :
    p.tick cfg answers span mem disk =
      ({ p with
          firstHealthySeen := true
          consecutiveSuppressions := 0
          healthyStreak := p.healthyStreak + 1 }, disk, []) := by
  unfold tick
  cases hprobe : answers.probe with
  | raised retryRaises => simp [hprobe, FdirConfig.healthy] at h
  | summary age =>
      rw [hprobe] at h
      simp [h, healthyTick, hwindow]

/-- The streak never exceeds the healthy ticks since the last interruption. -/
theorem streak_next_le {cfg : FdirConfig} {node : FdirNode} {e : FdirEvent}
    (h : ¬ StreakReset cfg node e) :
    ((nodeMachine cfg).next node e).streak ≤
      if e.breaksStreak cfg then 0
      else node.streak + if e.isHealthyTick cfg then 1 else 0 := by
  obtain ⟨span, action⟩ := e
  obtain ⟨disk, proc⟩ := node
  cases action with
  | processStart =>
      simp [Machine.next, nodeMachine, FdirNode.streak, FdirEvent.breaksStreak, Process.start,
        Process.streak]
  | nodeReboot => simp [Machine.next, nodeMachine, FdirNode.streak, FdirEvent.breaksStreak]
  | modeRequest request =>
      cases proc <;>
        simp [Machine.next, nodeMachine, Process.serve, FdirNode.streak, Process.streak,
          FdirEvent.breaksStreak, FdirEvent.isHealthyTick]
  | getLadder readError =>
      cases proc with
      | none => simp [Machine.next, nodeMachine, FdirNode.streak, FdirEvent.breaksStreak,
          FdirEvent.isHealthyTick]
      | some p =>
          simp only [Machine.next, nodeMachine, Process.serve, FdirNode.streak,
            FdirEvent.breaksStreak, FdirEvent.isHealthyTick, Process.getLadder]
          cases hladder : p.ladder with
          | some mem => simp
          | none =>
              cases readRebootCount readError disk.count with
              | none => simp
              | some reboots => simp [Process.streak, hladder]
  | snapshotStale quiesced answers =>
      cases proc with
      | none => simp [Machine.next, nodeMachine, FdirNode.streak, FdirEvent.breaksStreak,
          FdirEvent.isHealthyTick]
      | some p =>
          simp only [Machine.next, nodeMachine, Process.serve, FdirNode.streak,
            FdirEvent.breaksStreak, FdirEvent.isHealthyTick]
          cases hladder : p.ladder with
          | none => simp
          | some mem =>
              simp only [Process.snapshotStale, Bool.false_eq_true, if_false, add_zero]
              split
              · exact le_rfl
              · obtain ⟨hstreak, hsome⟩ := p.tryEscalate_healthyStreak cfg quiesced answers
                  (fun k => span.reading (k + 1)) mem disk
                simp [Process.streak, hsome hladder, hladder, hstreak]
  | tick answers =>
      by_cases hhealthy : cfg.healthy answers.probe = true
      · cases proc with
        | none => simp [Machine.next, nodeMachine, FdirNode.streak, FdirEvent.breaksStreak,
            FdirEvent.isHealthyTick, hhealthy]
        | some p =>
            simp only [Machine.next, nodeMachine, Process.serve, FdirNode.streak,
              FdirEvent.breaksStreak, FdirEvent.isHealthyTick, hhealthy]
            cases hladder : p.ladder with
            | none => simp
            | some mem =>
                have hwindow : ¬ cfg.nominalWindowChecks ≤ p.healthyStreak + 1 := fun hle =>
                  h ⟨hhealthy, by simpa [FdirNode.streak, Process.streak, hladder] using hle⟩
                simp only [Process.tick_of_healthy hhealthy hwindow]
                simp [Process.streak, hladder]
      · have hstale : cfg.healthy answers.probe = false := by simpa using hhealthy
        simp only [FdirEvent.breaksStreak, hstale, Bool.not_false, if_true]
        cases proc with
        | none => simp [Machine.next, nodeMachine, FdirNode.streak]
        | some p =>
            simp only [Machine.next, nodeMachine, Process.serve, FdirNode.streak]
            cases hladder : p.ladder with
            | none => simp [Process.streak, hladder]
            | some mem =>
                exact (Process.streak_of_zero (Process.tick_healthyStreak hstale span mem disk
                  p)).le

/-- A reset emits nothing before the counter's uptime threshold. -/
theorem Process.resetLadder_outputs {cfg : FdirConfig} {now : ℚ} {p : Process}
    (h : p.pastCounterReset cfg now = false) (answers : ResetAnswers) (mem : LadderMem)
    (disk : Disk) : (p.resetLadder cfg answers now mem disk).2.2 = [] := by
  simp [resetLadder, h]

/-- An escalation never clears the counter. -/
theorem Process.tryEscalate_keeps (cfg : FdirConfig) (quiesced : Bool)
    (answers : EscalateAnswers) (reading : ℕ → ℚ) (mem : LadderMem) (disk : Disk) (p : Process) :
    FdirOutput.counterReset ∉ (p.tryEscalate cfg quiesced answers reading mem disk).2.2 :=
  p.tryEscalate_counter cfg (P := fun _ out _ => FdirOutput.counterReset ∉ out) (by simp) answers
    (fun action later count mode => execute_keeps _ action _ _ later count mode) quiesced reading
    mem disk

/-- The counter is cleared in two places only: at the end of a window of healthy
ticks, and by the SAFE-mode auto-reset of an old enough process. -/
theorem clears_cases {cfg : FdirConfig} {node : FdirNode} {e : FdirEvent}
    (h : FdirOutput.counterReset ∈ (nodeMachine cfg).emits node e) :
    StreakReset cfg node e ∨ autoResetClears cfg node e = true := by
  obtain ⟨span, action⟩ := e
  obtain ⟨disk, proc⟩ := node
  cases proc with
  | none => cases action <;> simp [Machine.emits, nodeMachine] at h
  | some p =>
      cases action with
      | processStart | getLadder | modeRequest | nodeReboot =>
          simp [Machine.emits, nodeMachine, Process.serve] at h
      | snapshotStale quiesced answers =>
          cases hladder : p.ladder with
          | none => simp [Machine.emits, nodeMachine, Process.serve, hladder] at h
          | some mem =>
              simp only [Machine.emits, nodeMachine, Process.serve, hladder,
                Process.snapshotStale] at h
              split at h
              · simp at h
              · exact absurd h (p.tryEscalate_keeps cfg _ _ _ mem disk)
      | tick answers =>
          cases hladder : p.ladder with
          | none => simp [Machine.emits, nodeMachine, Process.serve, hladder] at h
          | some mem =>
              simp only [Machine.emits, nodeMachine, Process.serve, hladder] at h
              obtain ⟨probe, localAlive, quiesced, reset, escalation⟩ := answers
              cases probe with
              | raised retryRaises =>
                  simp only [Process.tick, Process.failedTick] at h
                  split_ifs at h
                  · simp at h
                  · simp at h
                  · simp at h
                  · exact absurd h (Process.tryEscalate_keeps cfg _ _ _ mem disk _)
              | summary age =>
                  by_cases hhealthy : cfg.healthy (.summary age) = true
                  · left
                    refine ⟨hhealthy, ?_⟩
                    by_contra hwindow
                    have hlt : ¬ cfg.nominalWindowChecks ≤ p.healthyStreak + 1 := by
                      simpa [FdirNode.streak, Process.streak, hladder] using hwindow
                    rw [Process.tick_of_healthy hhealthy hlt] at h
                    simp at h
                  · right
                    have hstale : cfg.healthy (.summary age) = false := by simpa using hhealthy
                    simp only [Process.tick, hstale, Bool.false_eq_true, if_false,
                      Process.staleTick] at h
                    split_ifs at h with hgrace hdue halive
                    · simp at h
                    · have hout : p.inGracePeriod cfg (span.reading 0) = false :=
                        Bool.eq_false_iff.mpr hgrace
                      have hreset : p.autoResetDue cfg (span.reading 1) = true := hdue
                      simp only [autoResetClears, hstale, hout, hreset, Bool.not_false,
                        Bool.true_and]
                      by_contra hyoung
                      have hempty := Process.resetLadder_outputs
                        (show ({ p with healthyStreak := 0 } : Process).pastCounterReset cfg
                          (span.reading 2) = false from Bool.eq_false_iff.mpr hyoung) reset mem disk
                      simp only [hempty] at h
                      simp at h
                    · simp at h
                    · exact absurd h (Process.tryEscalate_keeps cfg _ _ _ mem disk _)

/-- Without a window of healthy ticks no tick completes one.  The induction carries
the events since the last interruption, which the streak counts. -/
theorem along_not_streakReset {cfg : FdirConfig} {node : FdirNode} {events : List FdirEvent}
    (hdown : node.proc = none)
    (hwindow : ¬ HasHealthyWindow cfg cfg.nominalWindowChecks.toNat events) :
    (nodeMachine cfg).Along (fun node e => ¬ StreakReset cfg node e) node events := by
  suffices main : ∀ (events : List FdirEvent) (node : FdirNode) (recent : List FdirEvent),
      (∀ e ∈ recent, e.breaksStreak cfg = false) →
      node.streak ≤ recent.countP (FdirEvent.isHealthyTick cfg) →
      ¬ HasHealthyWindow cfg cfg.nominalWindowChecks.toNat (recent ++ events) →
      (nodeMachine cfg).Along (fun node e => ¬ StreakReset cfg node e) node events by
    refine main events node [] (by simp) ?_ hwindow
    simp [FdirNode.streak, hdown]
  intro events
  induction events with
  | nil => intros; trivial
  | cons e es ih =>
      intro node recent hrecent hstreak hwindow
      have hcount : (recent ++ [e]).countP (FdirEvent.isHealthyTick cfg) =
          recent.countP (FdirEvent.isHealthyTick cfg) +
            if e.isHealthyTick cfg then 1 else 0 := by
        rw [List.countP_append, List.countP_singleton]
      have hno : ¬ StreakReset cfg node e := by
        rintro ⟨hhealthy, hreach⟩
        have hunbroken : e.breaksStreak cfg = false := by
          unfold FdirEvent.isHealthyTick at hhealthy
          unfold FdirEvent.breaksStreak
          split at hhealthy <;> simp_all
        refine hwindow ⟨[], recent ++ [e], es, by simp, ?_, ?_⟩
        · intro e' he'
          rcases List.mem_append.mp he' with he' | he'
          · exact hrecent e' he'
          · rwa [List.mem_singleton.mp he']
        · rw [hcount, if_pos hhealthy]
          omega
      refine ⟨hno, ?_⟩
      have hnext := streak_next_le hno
      by_cases hbreak : e.breaksStreak cfg = true
      · rw [if_pos hbreak] at hnext
        refine ih _ [] (by simp) (by simpa using hnext) ?_
        rintro ⟨earlier, window, later, rfl, hunbroken, hlong⟩
        exact hwindow ⟨recent ++ e :: earlier, window, later, by simp, hunbroken, hlong⟩
      · have hkeep : e.breaksStreak cfg = false := by simpa using hbreak
        rw [hkeep, if_neg (by simp)] at hnext
        refine ih _ (recent ++ [e]) ?_ ?_ (by simpa using hwindow)
        · intro e' he'
          rcases List.mem_append.mp he' with he' | he'
          · exact hrecent e' he'
          · rwa [List.mem_singleton.mp he']
        · rw [hcount]
          push_cast
          split at hnext <;> simp_all <;> omega

/-! ## The circuit breaker -/

/-- Every write of the reboot counter in the event goes through. -/
structure FdirAction.WritesSucceed (action : FdirAction) : Prop where
  reset : action.counterAnswers.1.fault = .none
  increment : action.counterAnswers.2.reboot.increment.fault = .none
  rollback : action.counterAnswers.2.reboot.rollback = .none

theorem FdirAction.WritesSucceed.durable {action : FdirAction} (h : action.WritesSucceed) :
    action.Durable true where
  reset := by
    rw [h.reset]
    rfl
  reboot := ⟨.inl h.increment, fun _ => .inr (.inr ⟨rfl, by simp [h.rollback]⟩)⟩

/-- Without sustained health and without an auto-reset that clears the counter, a
run of any length has at most `max_fdir_reboots` accepted reboot commands. -/
theorem accepted_reboots_bounded (cfg : FdirConfig) (node : FdirNode)
    (events : List FdirEvent) (hdown : node.proc = none) (hcount : 0 ≤ node.disk.count.value)
    (hwrites : ∀ e ∈ events, e.action.WritesSucceed)
    (hwindow : ¬ HasHealthyWindow cfg cfg.nominalWindowChecks.toNat events)
    (hauto : (nodeMachine cfg).Along (fun node e => autoResetClears cfg node e = false) node
      events) :
    ((nodeMachine cfg).trace node events).countP FdirOutput.accepted ≤
      cfg.ladder.maxFdirReboots.toNat := by
  have hclear := ((along_not_streakReset hdown hwindow).and _ hauto).imp _
    (H := fun node e => FdirOutput.counterReset ∉ (nodeMachine cfg).emits node e)
    fun s e guard hmem => (clears_cases hmem).elim guard.1 (Bool.eq_false_iff.mp guard.2)
  calc ((nodeMachine cfg).trace node events).countP FdirOutput.accepted
      ≤ ((nodeMachine cfg).trace node events).countP FdirOutput.charged := by
        apply List.countP_mono_left
        intro o _ ho
        unfold FdirOutput.accepted at ho
        split at ho
        · rfl
        · cases ho
    _ ≤ node.budget cfg :=
        countP_le_budget cfg FdirOutput.charged CounterMove.charged_add_budget_le
          (fun e he => (hwrites e he).durable) hclear
    _ ≤ cfg.ladder.maxFdirReboots.toNat := FdirNode.budget_le cfg hcount

/-! ## Runs on the default configuration -/

/-- A color node with the default settings and the reboot action enabled. -/
def defaultFdir : FdirConfig where
  ladder :=
    { policy := defaultLadder "color_camera"
      dedupWindowSec := 3
      maxFdirReboots := 2
      floatRepr := fun _ => "0.0" }
  watchdogRebootEnabled := true
  watchdogStaleMs := 10000
  watchdogGraceSec := 60
  nominalWindowChecks := 10
  safeModeAutoResetSec := 300
  maxSuppressTicks := 5
  rebootCounterResetSec := 3600

/-- A node that has never run. -/
def FdirNode.fresh : FdirNode := { disk := { count := .absent, ladder := none }, proc := none }

/-- A process that starts at `t` and finds no video on any of its `n` ticks, one
every 100 seconds. -/
def staleBoot (answers : EscalateAnswers) (t : ℚ) (n : ℕ) : List FdirEvent :=
  ⟨.at t, .processStart⟩ :: ⟨.at t, .getLadder false⟩ ::
    (List.range n).map fun k =>
      ⟨.at (t + 100 * (k + 1)), .tick { probe := .summary none, escalation := answers }⟩

/-- Two boots that end in a reboot, and a third one with `n` ticks.  Ten stale ticks
climb the color ladder up to the reboot. -/
def threeBoots (answers : EscalateAnswers) (n : ℕ) : List FdirEvent :=
  staleBoot answers 1000 10 ++ ⟨.at 2000, .nodeReboot⟩ ::
    (staleBoot answers 3000 10 ++ ⟨.at 4000, .nodeReboot⟩ :: staleBoot answers 5000 n)

/-- The clock does not go back from one event to the next. -/
def ClockRuns : ℚ → List FdirEvent → Prop
  | _, [] => True
  | past, e :: es => past ≤ e.span.reading 0 ∧ ClockRuns e.span.finish es

instance decidableClockRuns : ∀ (past : ℚ) (events : List FdirEvent),
    Decidable (ClockRuns past events)
  | _, [] => isTrue trivial
  | past, e :: es =>
      have := decidableClockRuns e.span.finish es
      inferInstanceAs (Decidable (past ≤ e.span.reading 0 ∧ ClockRuns e.span.finish es))

/-- Every event of the three boots is a start, a reboot or a stale tick. -/
theorem forall_threeBoots {P : FdirAction → Prop} {answers : EscalateAnswers} {n : ℕ}
    (hstart : P .processStart) (hladder : P (.getLadder false)) (hreboot : P .nodeReboot)
    (htick : P (.tick { probe := .summary none, escalation := answers })) :
    ∀ e ∈ threeBoots answers n, P e.action := by
  have hboot : ∀ t m, ∀ e ∈ staleBoot answers t m, P e.action := by
    intro t m e he
    simp only [staleBoot, List.mem_cons, List.mem_map] at he
    rcases he with rfl | rfl | ⟨k, -, rfl⟩
    · exact hstart
    · exact hladder
    · exact htick
  intro e he
  simp only [threeBoots, List.mem_append, List.mem_cons] at he
  rcases he with he | rfl | he | rfl | he
  · exact hboot _ _ e he
  · exact hreboot
  · exact hboot _ _ e he
  · exact hreboot
  · exact hboot _ _ e he

theorem threeBoots_writesSucceed (n : ℕ) : ∀ e ∈ threeBoots {} n, e.action.WritesSucceed :=
  forall_threeBoots (P := FdirAction.WritesSucceed) ⟨rfl, rfl, rfl⟩ ⟨rfl, rfl, rfl⟩
    ⟨rfl, rfl, rfl⟩ ⟨rfl, rfl, rfl⟩

/-- A run of stale ticks has no window of healthy ones. -/
theorem not_hasHealthyWindow_threeBoots (n : ℕ) :
    ¬ HasHealthyWindow defaultFdir defaultFdir.nominalWindowChecks.toNat (threeBoots {} n) := by
  rintro ⟨earlier, window, later, hevents, -, hlong⟩
  have hnone : window.countP (FdirEvent.isHealthyTick defaultFdir) = 0 := by
    rw [List.countP_eq_zero]
    intro e he
    have hmem : e ∈ threeBoots {} n := by
      rw [hevents]
      exact List.mem_append_left _ (List.mem_append_right _ he)
    have hstale := forall_threeBoots
      (P := fun action => ∀ answers, action = .tick answers → answers.probe = .summary none)
      (by simp) (by simp) (by simp) (by simp) e hmem
    unfold FdirEvent.isHealthyTick
    split
    · next answers haction => simp [hstale answers haction, FdirConfig.healthy]
    · simp
  rw [hnone] at hlong
  exact absurd hlong (by decide)

/-- Two boots spend the budget; a third one that stays below the threshold of the
counter reset gets no further. -/
theorem threeBoots_within_budget :
    ((nodeMachine defaultFdir).trace .fresh (threeBoots {} 30)).countP FdirOutput.accepted ≤ 2 :=
  accepted_reboots_bounded defaultFdir .fresh (threeBoots {} 30) rfl (by decide)
    (threeBoots_writesSucceed 30) (not_hasHealthyWindow_threeBoots 30) (by decide +kernel)

/-- A third boot that stays in and out of SAFE mode for more than an hour clears the
counter without a single healthy tick and reboots once more. -/
theorem threeBoots_exceed_budget :
    ClockRuns 0 (threeBoots {} 52) ∧
      (∀ e ∈ threeBoots {} 52, e.action.WritesSucceed) ∧
      ¬ HasHealthyWindow defaultFdir defaultFdir.nominalWindowChecks.toNat (threeBoots {} 52) ∧
      ¬ ((nodeMachine defaultFdir).trace .fresh (threeBoots {} 52)).countP FdirOutput.accepted ≤
        defaultFdir.ladder.maxFdirReboots.toNat :=
  ⟨by decide +kernel, threeBoots_writesSucceed 52, not_hasHealthyWindow_threeBoots 52,
    by decide +kernel⟩

/-- A boot whose storage works spends one reboot between two clearings. -/
theorem staleBoot_spends_one :
    let emitted := (nodeMachine defaultFdir).trace .fresh (staleBoot {} 1000 10)
    FdirOutput.counterReset ∉ emitted ∧ emitted.countP FdirOutput.issued ≤ 2 := by
  have hclear : FdirOutput.counterReset ∉
      (nodeMachine defaultFdir).trace .fresh (staleBoot {} 1000 10) := by decide +kernel
  have hdurable : ∀ e ∈ threeBoots {} 0, e.action.Durable false :=
    forall_threeBoots (P := FdirAction.Durable false) ⟨rfl, ⟨.inl rfl, nofun⟩⟩
      ⟨rfl, ⟨.inl rfl, nofun⟩⟩ ⟨rfl, ⟨.inl rfl, nofun⟩⟩ ⟨rfl, ⟨.inl rfl, nofun⟩⟩
  exact ⟨hclear, (reboot_commands_bounded_between_clearings defaultFdir .fresh []
    (staleBoot {} 1000 10) (by decide) (fun e he => hdurable e (List.mem_append_left _ he))
    hclear).1⟩

/-- An increment that fails before it reaches the file is swallowed: three boots
issue three accepted commands against a budget of two, none of them recorded. -/
theorem unrecorded_reboots_exceed_budget :
    let answers : EscalateAnswers := { reboot := { increment := { fault := .opening } } }
    let emitted := (nodeMachine defaultFdir).trace .fresh (threeBoots answers 10)
    FdirOutput.counterReset ∉ emitted ∧
      ¬ emitted.countP FdirOutput.accepted ≤ defaultFdir.ladder.maxFdirReboots.toNat ∧
      ¬ ∀ old new outcome, FdirOutput.rebootCommand old new outcome ∈ emitted →
        new.value = old.value + 1 := by
  intro answers emitted
  have hemitted : emitted =
      [.rebootCommand .absent .absent .accepted, .rebootCommand .absent .absent .accepted,
        .rebootCommand .absent .absent .accepted] := by decide +kernel
  rw [hemitted]
  refine ⟨by decide, by decide, fun h => ?_⟩
  have hfirst := h .absent .absent .accepted (by decide)
  exact absurd hfirst (by decide)

end CameraStack.Fdir
