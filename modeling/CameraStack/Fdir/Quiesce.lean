/-
# The quiesce gate

A restart makes the stream stale, and the watchdog would escalate the staleness.  The
gate lets a planned action suppress escalation in some domains for a bounded time.
Its state is one deadline, one set of domains and one count of arms, all changed under
one lock, so every interleaving of threads is a list of calls.

The deadline belongs to the call that finds the count at zero; what comes while the
count is positive only adds domains.  `quiesced_before_ceiling` bounds the time,
`scoped_to_window` the domains.
-/

import CameraStack.Lib.Machine
import Mathlib.Algebra.Order.Ring.Rat
import Mathlib.Data.Finset.Basic

namespace CameraStack.Fdir

open CameraStack.Lib

/-- `Domain`. -/
inductive Domain
  | sensor | pipeline | janus | network | turn | client | system | producer
  deriving DecidableEq, Repr

/-- `QUIESCE_TTL_CEILING_SEC`. -/
def quiesceTtlCeilingSec : ℚ := 120

/-! ## The gate -/

/-- The state of the gate: `_until`, `_domains`, `_reason` and `_arms`. -/
structure Gate where
  untilMono : ℚ := 0
  domains : Finset Domain := ∅
  reason : String := ""
  arms : ℕ := 0

namespace Gate

/-- `is_quiesced`. -/
def isQuiesced (d : Domain) (now : ℚ) (g : Gate) : Bool := now < g.untilMono && d ∈ g.domains

/-- The end of a window that is opened now. -/
def deadline (now ttlSec : ℚ) : ℚ := now + min ttlSec quiesceTtlCeilingSec

/-- `quiesce`: the first arm sets the deadline, a nested one adds its domains. -/
def quiesce (now ttlSec : ℚ) (reason : String) (domains : Finset Domain) (g : Gate) : Gate :=
  if ttlSec ≤ 0 then g
  else if g.arms = 0 then
    { untilMono := deadline now ttlSec, domains := domains, reason := reason, arms := 1 }
  else { g with domains := g.domains ∪ domains, arms := g.arms + 1 }

/-- `unquiesce`: the last one out clears the gate. -/
def unquiesce (g : Gate) : Gate :=
  if g.arms - 1 = 0 then {} else { g with arms := g.arms - 1 }

end Gate

/-! ## The ceiling -/

/-- A call of the gate; a call that arms it carries its clock reading. -/
inductive GateCall
  | quiesce (now ttlSec : ℚ) (reason : String) (domains : Finset Domain)
  | unquiesce

/-- A call of `quiesce` that found the count at zero. -/
structure Opening where
  time : ℚ
  ttlSec : ℚ
  deriving DecidableEq

/-- The gate under a list of calls; it reports the calls that find the count at zero. -/
def gateMachine : Machine Gate GateCall Opening where
  step g
    | .quiesce now ttlSec reason domains =>
        (g.quiesce now ttlSec reason domains, if g.arms = 0 then [⟨now, ttlSec⟩] else [])
    | .unquiesce => (g.unquiesce, [])

/-- Without an arm nothing is suppressed; with one, the deadline is that of the call that
opened the window. -/
structure Gate.Anchored (g : Gate) (last : Option Opening) : Prop where
  idle : g.arms = 0 → g.domains = ∅
  anchor : g.arms ≠ 0 → ∃ o, last = some o ∧ g.untilMono = Gate.deadline o.time o.ttlSec

/-- The most recent opening after one more call. -/
def lastOpening (last : Option Opening) (opened : List Opening) : Option Opening :=
  opened.getLast?.or last

theorem lastOpening_append (last : Option Opening) (first second : List Opening) :
    lastOpening last (first ++ second) = lastOpening (lastOpening last first) second := by
  rw [lastOpening, lastOpening, lastOpening, List.getLast?_append, Option.or_assoc]

namespace Gate

theorem anchored_empty (last : Option Opening) : ({} : Gate).Anchored last :=
  ⟨fun _ => rfl, fun h => absurd rfl h⟩

theorem Anchored.quiesce {g : Gate} {last : Option Opening} (h : g.Anchored last)
    (now ttlSec : ℚ) (reason : String) (domains : Finset Domain) :
    (g.quiesce now ttlSec reason domains).Anchored
      (lastOpening last (if g.arms = 0 then [⟨now, ttlSec⟩] else [])) := by
  unfold Gate.quiesce
  by_cases harms : g.arms = 0
  · rw [if_pos harms]
    split
    · -- an arm that has no effect leaves a gate without arms
      exact ⟨h.idle, fun hne => absurd harms hne⟩
    · exact ⟨fun hzero => absurd hzero one_ne_zero, fun _ => ⟨⟨now, ttlSec⟩, rfl, rfl⟩⟩
  · rw [if_neg harms]
    split
    · exact h
    · exact ⟨fun hzero => absurd hzero (Nat.succ_ne_zero _), fun _ => h.anchor harms⟩

theorem Anchored.unquiesce {g : Gate} {last : Option Opening} (h : g.Anchored last) :
    g.unquiesce.Anchored last := by
  unfold Gate.unquiesce
  split
  · exact anchored_empty last
  · next hleft =>
      have harms : g.arms ≠ 0 := by omega
      exact ⟨fun hzero => absurd hzero hleft, fun _ => h.anchor harms⟩

theorem Anchored.run {g : Gate} {last : Option Opening} (h : g.Anchored last)
    (calls : List GateCall) :
    (gateMachine.run g calls).Anchored (lastOpening last (gateMachine.trace g calls)) := by
  induction calls generalizing g last with
  | nil => exact h
  | cons call calls ih =>
      rw [Machine.run_cons, Machine.trace_cons, lastOpening_append]
      apply ih
      cases call with
      | quiesce now ttlSec reason domains => exact h.quiesce now ttlSec reason domains
      | unquiesce => exact h.unquiesce

end Gate

/-- Whatever calls were made, balanced or not: a domain that is suppressed is suppressed by
the window of the most recent call that found the count at zero, and before the end it got
from that call. -/
theorem quiesced_before_ceiling (calls : List GateCall) (d : Domain) (now : ℚ)
    (h : (gateMachine.run {} calls).isQuiesced d now = true) :
    ∃ o, (gateMachine.trace {} calls).getLast? = some o ∧
      now < o.time + min o.ttlSec quiesceTtlCeilingSec := by
  have hanchored := (Gate.anchored_empty none).run calls
  simp only [Gate.isQuiesced, Bool.and_eq_true, decide_eq_true_eq] at h
  have harms : (gateMachine.run {} calls).arms ≠ 0 := by
    intro hzero
    rw [hanchored.idle hzero] at h
    exact absurd h.2 (Finset.notMem_empty d)
  obtain ⟨o, hlast, hdeadline⟩ := hanchored.anchor harms
  refine ⟨o, by simpa [lastOpening] using hlast, ?_⟩
  have hbefore := h.1
  rw [hdeadline] at hbefore
  exact hbefore

/-- Two overlapping arms of a minute do not make two minutes. -/
theorem overlapping_arms_one_window :
    let calls := [.quiesce 0 60 "first" {.pipeline}, .quiesce 50 60 "second" {.janus}]
    (gateMachine.run {} calls).isQuiesced .janus 59 = true ∧
      ∃ o, (gateMachine.trace {} calls).getLast? = some o ∧ (59 : ℚ) < o.time + min o.ttlSec 120 :=
  ⟨by decide +kernel, quiesced_before_ceiling _ .janus 59 (by decide +kernel)⟩

/-! ## Blocks -/

/-- A `quiesced` block. -/
structure Block where
  ttlSec : ℚ
  reason : String := ""
  domains : Finset Domain
  deriving DecidableEq

/-- The block arms the gate. -/
def Block.effective (b : Block) : Bool := 0 < b.ttlSec

/-- What the gate is meant to show: the blocks that are open, those that armed it since it
was last idle, and the end of the window the first of them opened. -/
structure Window where
  opened : List Block := []
  entered : List Block := []
  deadline : ℚ := 0

namespace Window

/-- No open block has armed the gate. -/
def idle (w : Window) : Bool := !w.opened.any Block.effective

/-- A block is entered. -/
def enter (now : ℚ) (b : Block) (w : Window) : Window :=
  if !b.effective then { w with opened := w.opened ++ [b] }
  else if w.idle then
    { opened := w.opened ++ [b], entered := [b], deadline := Gate.deadline now b.ttlSec }
  else { w with opened := w.opened ++ [b], entered := w.entered ++ [b] }

/-- The block at a position is left. -/
def exit (i : ℕ) (w : Window) : Window :=
  let left : Window := { w with opened := w.opened.eraseIdx i }
  if left.idle then { left with entered := [] } else left

end Window

/-- Entries and exits of blocks; an exit names the position of its block among the open
ones. -/
inductive BlockEvent
  | enter (now : ℚ) (b : Block)
  | exit (i : ℕ)

/-- The gate with the blocks that use it. -/
structure Blocks where
  gate : Gate := {}
  window : Window := {}

/-- `quiesced` arms the gate on entry and disarms it on exit, whether the arm had an effect
or not. -/
def blocksMachine : Machine Blocks BlockEvent Empty where
  step s
    | .enter now b =>
        ({ gate := s.gate.quiesce now b.ttlSec b.reason b.domains
           window := s.window.enter now b }, [])
    | .exit i =>
        if i < s.window.opened.length then
          ({ gate := s.gate.unquiesce, window := s.window.exit i }, [])
        else (s, [])

/-- Before the end of the window a domain is suppressed exactly when an open block that armed
the gate lists it. -/
def Blocks.Scoped (s : Blocks) : Prop :=
  ∀ d now, now < s.window.deadline →
    (s.gate.isQuiesced d now = true ↔ ∃ b ∈ s.window.opened, b.effective = true ∧ d ∈ b.domains)

/-- The arms of the gate are the effective blocks that are open, its domains are those of the
blocks that armed it since it was idle, and its deadline is that of the window. -/
structure Blocks.InStep (s : Blocks) : Prop where
  arms : s.gate.arms = s.window.opened.countP Block.effective
  idle : s.gate.arms = 0 → s.gate.domains = ∅ ∧ s.window.entered = []
  deadline : s.gate.arms ≠ 0 → s.gate.untilMono = s.window.deadline
  domains : ∀ d, d ∈ s.gate.domains ↔ ∃ b ∈ s.window.entered, d ∈ b.domains
  entered : ∀ b ∈ s.window.opened, b.effective = true → b ∈ s.window.entered

/-- A block that did not arm the gate is only left while no other has it armed. -/
def BlockEvent.Paired (s : Blocks) : BlockEvent → Prop
  | .enter _ _ => True
  | .exit i => ∀ b, s.window.opened[i]? = some b → b.effective = false → s.window.idle = true

namespace Blocks

theorem inStep_empty : ({} : Blocks).InStep :=
  ⟨rfl, fun _ => ⟨rfl, rfl⟩, fun h => absurd rfl h, fun d => by simp, fun b hb => by simp at hb⟩

theorem InStep.idle_iff {s : Blocks} (h : s.InStep) : s.window.idle = true ↔ s.gate.arms = 0 := by
  rw [h.arms, Window.idle]
  simp [List.countP_eq_zero]

theorem next_enter (s : Blocks) (now : ℚ) (b : Block) : blocksMachine.next s (.enter now b) =
    if b.effective = false then
      { s with window := { s.window with opened := s.window.opened ++ [b] } }
    else
      { gate :=
          if s.gate.arms = 0 then
            { untilMono := Gate.deadline now b.ttlSec, domains := b.domains, reason := b.reason,
              arms := 1 }
          else { s.gate with domains := s.gate.domains ∪ b.domains, arms := s.gate.arms + 1 }
        window :=
          if s.window.idle then
            { opened := s.window.opened ++ [b], entered := [b],
              deadline := Gate.deadline now b.ttlSec }
          else
            { s.window with
              opened := s.window.opened ++ [b], entered := s.window.entered ++ [b] } } := by
  by_cases heff : b.effective = true
  · have hpos : ¬ b.ttlSec ≤ 0 := by simpa [Block.effective] using heff
    simp [Machine.next, blocksMachine, Gate.quiesce, Window.enter, heff, hpos]
  · have hneg : b.ttlSec ≤ 0 := by simpa [Block.effective] using heff
    simp [Machine.next, blocksMachine, Gate.quiesce, Window.enter, heff, hneg]

theorem InStep.enter {s : Blocks} (h : s.InStep) (now : ℚ) (b : Block) :
    (blocksMachine.next s (.enter now b)).InStep := by
  rw [next_enter]
  by_cases heff : b.effective = false
  · rw [if_pos heff]
    refine ⟨?_, h.idle, h.deadline, h.domains, ?_⟩
    · simp [List.countP_append, heff, h.arms]
    · intro b' hb' heff'
      rcases List.mem_append.mp hb' with hold | hnew
      · exact h.entered b' hold heff'
      · rw [List.mem_singleton.mp hnew, heff] at heff'
        cases heff'
  rw [if_neg heff]
  have hcount : (s.window.opened ++ [b]).countP Block.effective =
      s.window.opened.countP Block.effective + 1 := by
    simp [List.countP_append, heff]
  by_cases harms : s.gate.arms = 0
  · rw [if_pos harms, if_pos (h.idle_iff.mpr harms)]
    have hnone : s.window.opened.countP Block.effective = 0 := h.arms ▸ harms
    refine ⟨?_, fun hzero => absurd hzero one_ne_zero, fun _ => rfl, fun d => by simp, ?_⟩
    · exact (hcount.trans (by rw [hnone])).symm
    · intro b' hb' heff'
      rcases List.mem_append.mp hb' with hold | hnew
      · exact absurd heff' (List.countP_eq_zero.mp hnone b' hold)
      · exact hnew
  · rw [if_neg harms, if_neg fun hidle => harms (h.idle_iff.mp hidle)]
    refine ⟨?_, fun hzero => absurd hzero (Nat.succ_ne_zero _), fun _ => h.deadline harms, ?_, ?_⟩
    · exact (hcount.trans (by rw [h.arms])).symm
    · intro d
      simp only [Finset.mem_union, h.domains d, List.mem_append, List.mem_singleton, or_and_right,
        exists_or, exists_eq_left]
    · intro b' hb' heff'
      rcases List.mem_append.mp hb' with hold | hnew
      · exact List.mem_append_left _ (h.entered b' hold heff')
      · exact List.mem_append_right _ hnew

/-- The open blocks that armed the gate, when one block is left. -/
theorem countP_eraseIdx {blocks : List Block} {i : ℕ} {b : Block} (h : blocks[i]? = some b) :
    blocks.countP Block.effective =
      (blocks.eraseIdx i).countP Block.effective + if b.effective then 1 else 0 := by
  induction blocks generalizing i with
  | nil => simp at h
  | cons b' blocks ih =>
      cases i with
      | zero =>
          rw [List.getElem?_cons_zero, Option.some.injEq] at h
          subst h
          exact List.countP_cons
      | succ i =>
          rw [List.getElem?_cons_succ] at h
          rw [List.eraseIdx_cons_succ, List.countP_cons, List.countP_cons, ih h]
          omega

theorem next_exit {s : Blocks} {i : ℕ} (hi : i < s.window.opened.length) :
    blocksMachine.next s (.exit i) = { gate := s.gate.unquiesce, window := s.window.exit i } := by
  simp [Machine.next, blocksMachine, hi]

theorem InStep.exit {s : Blocks} (h : s.InStep) (i : ℕ) (hpaired : BlockEvent.Paired s (.exit i)) :
    (blocksMachine.next s (.exit i)).InStep := by
  by_cases hi : i < s.window.opened.length
  · obtain ⟨b, hb⟩ : ∃ b, s.window.opened[i]? = some b := ⟨_, List.getElem?_eq_getElem hi⟩
    have hcount := countP_eraseIdx hb
    rw [← h.arms] at hcount
    have harms : s.gate.arms - 1 = (s.window.opened.eraseIdx i).countP Block.effective := by
      cases heff : b.effective with
      | true =>
          rw [heff, if_pos rfl] at hcount
          omega
      | false =>
          have hzero : s.gate.arms = 0 := h.idle_iff.mp (hpaired b hb heff)
          omega
    have hidle : ({ s.window with opened := s.window.opened.eraseIdx i } : Window).idle = true ↔
        s.gate.arms - 1 = 0 := by
      rw [harms, Window.idle]
      simp [List.countP_eq_zero]
    rw [next_exit hi, Gate.unquiesce, Window.exit]
    by_cases hlast : s.gate.arms - 1 = 0
    · rw [if_pos hlast, if_pos (hidle.mpr hlast)]
      refine ⟨?_, fun _ => ⟨rfl, rfl⟩, fun hne => absurd rfl hne, fun d => by simp, ?_⟩
      · exact hlast.symm.trans harms
      · intro b' hb' heff'
        exact absurd heff' (List.countP_eq_zero.mp (harms ▸ hlast) b' hb')
    · rw [if_neg hlast, if_neg fun hzero => hlast (hidle.mp hzero)]
      refine ⟨harms, fun hzero => absurd hzero hlast, fun _ => ?_, h.domains, ?_⟩
      · exact h.deadline (by omega)
      · exact fun b' hb' => h.entered b' (List.mem_of_mem_eraseIdx hb')
  · have hnext : blocksMachine.next s (.exit i) = s := by
      simp [Machine.next, blocksMachine, hi]
    rw [hnext]
    exact h

theorem InStep.run {events : List BlockEvent}
    (hpaired : blocksMachine.Along BlockEvent.Paired {} events) :
    (blocksMachine.run {} events).InStep := by
  apply blocksMachine.run_invariant (I := InStep) _ hpaired inStep_empty
  intro s e h hguard
  cases e with
  | enter now b => exact h.enter now b
  | exit i => exact h.exit i hguard

end Blocks

/-- In every run in which a block without effect is only left while no other has the gate
armed: before the end of the window, a domain is suppressed exactly when a block that armed
the gate since it was idle lists it; the open blocks that armed the gate are among these,
and without one there are none. -/
theorem scoped_to_window (events : List BlockEvent)
    (hpaired : blocksMachine.Along BlockEvent.Paired {} events) (d : Domain) (now : ℚ)
    (hbefore : now < (blocksMachine.run {} events).window.deadline) :
    let s := blocksMachine.run {} events
    (s.gate.isQuiesced d now = true ↔ ∃ b ∈ s.window.entered, d ∈ b.domains) ∧
      (∀ b ∈ s.window.opened, b.effective = true → b ∈ s.window.entered) ∧
      (s.window.idle = true → s.window.entered = []) := by
  intro s
  have h : s.InStep := Blocks.InStep.run hpaired
  refine ⟨?_, h.entered, fun hidle => (h.idle (h.idle_iff.mp hidle)).2⟩
  rw [← h.domains d, Gate.isQuiesced, Bool.and_eq_true, decide_eq_true_eq, decide_eq_true_eq]
  constructor
  · exact fun hand => hand.2
  · intro hd
    refine ⟨?_, hd⟩
    have harms : s.gate.arms ≠ 0 := by
      intro hzero
      rw [(h.idle hzero).1] at hd
      exact absurd hd (Finset.notMem_empty d)
    rw [h.deadline harms]
    exact hbefore

/-- An encoder restart with a Janus restart inside it. -/
def nestedRestarts : List BlockEvent :=
  [.enter 0 { ttlSec := 60, domains := {.pipeline, .sensor} },
    .enter 1 { ttlSec := 90, domains := {.pipeline, .sensor, .janus} }, .exit 1]

theorem nestedRestarts_keep_janus :
    (blocksMachine.run {} nestedRestarts).gate.isQuiesced .janus 2 = true ∧
      ∃ b ∈ (blocksMachine.run {} nestedRestarts).window.entered, Domain.janus ∈ b.domains := by
  have hquiesced : (blocksMachine.run {} nestedRestarts).gate.isQuiesced .janus 2 = true := by
    decide +kernel
  refine ⟨hquiesced, ?_⟩
  refine (scoped_to_window nestedRestarts ?_ .janus 2 (by decide +kernel)).1.mp hquiesced
  refine ⟨trivial, trivial, ?_, trivial⟩
  intro b hb heff
  have hinner : b = { ttlSec := 90, domains := {.pipeline, .sensor, .janus} } :=
    (Option.some.inj hb).symm
  rw [hinner] at heff
  exact absurd heff (by decide +kernel)

/-- Janus faults stay suppressed when the Janus restart is over, and a block without effect
takes the window of another with it. -/
theorem exited_block_still_suppresses :
    ¬ (blocksMachine.run {} nestedRestarts).Scoped ∧
      ¬ (blocksMachine.run {} [.enter 0 { ttlSec := 60, domains := {.pipeline} },
        .enter 1 { ttlSec := 0, domains := {.sensor} }, .exit 1]).Scoped := by
  constructor
  · intro hscoped
    have hiff := hscoped .janus 2 (by decide +kernel)
    exact absurd (hiff.mp (by decide +kernel)) (by decide +kernel)
  · intro hscoped
    have hiff := hscoped .pipeline 2 (by decide +kernel)
    exact absurd (hiff.mpr (by decide +kernel)) (by decide +kernel)

end CameraStack.Fdir
