/-
# The pump of a WebSocket

Messages of a browser are forwarded upstream, so many in a second.  They are counted in
windows: a window begins with the first message that comes a second or more after the
window before it began.  Between two windows nothing is carried over, so that in a second
that two windows share up to twice the limit may pass, and no more.

A browser that keeps to the limit over every second never loses a message.
-/

import CameraStack.Lib.Machine
import Mathlib.Algebra.Order.Ring.Rat
import Mathlib.Tactic.Linarith
import Mathlib.Tactic.NormNum

namespace CameraStack.Proxy

open CameraStack.Lib

/-! ## The pump -/

/-- What a message carries. -/
inductive Message
  | text (text : String)
  | bytes (bytes : List UInt8)
  /-- Neither a text nor bytes. -/
  | empty
  deriving DecidableEq

/-- `pump_client_to_upstream` between two messages. -/
structure Pump where
  msgCount : ℕ
  windowStart : ℚ
  running : Bool

/-- A message is received, and sending it may fail; or none comes for too long, or the
browser is gone. -/
inductive Event
  | receive (m : Message) (now : ℚ) (fails : Bool)
  | idle
  | disconnect

/-- What the upstream sees. -/
inductive Output
  | sent (m : Message) (now : ℚ)
  | closed

/-- The pump as it starts. -/
def Pump.start (now : ℚ) : Pump where
  msgCount := 0
  windowStart := now
  running := true

/-- One more message is counted, in a new window if the old one is over. -/
def Pump.count (p : Pump) (now : ℚ) : Pump :=
  if 1 ≤ now - p.windowStart then { p with msgCount := 1, windowStart := now }
  else { p with msgCount := p.msgCount + 1 }

/-- A message is sent; a failure ends the pump. -/
def Pump.forward (p : Pump) (m : Message) (now : ℚ) (fails : Bool) : Pump × List Output :=
  match m with
  | .empty => (p, [])
  | .text _ | .bytes _ => if fails then ({ p with running := false }, []) else (p, [.sent m now])

/-- One turn of the loop; a `rate` of zero is no limit. -/
def step (rate : ℚ) (p : Pump) (e : Event) : Pump × List Output :=
  if p.running then
    match e with
    | .receive m now fails =>
        if 0 < rate then
          if rate < (p.count now).msgCount then (p.count now, [])
          else (p.count now).forward m now fails
        else p.forward m now fails
    | .idle | .disconnect => ({ p with running := false }, [.closed])
  else (p, [])

/-- The pump under a list of events. -/
def pump (rate : ℚ) : Machine Pump Event Output where
  step := step rate

/-- When messages were received. -/
def Event.now : Event → Option ℚ
  | .receive _ now _ => some now
  | .idle | .disconnect => none

/-- The readings of the clock. -/
def readings (events : List Event) : List ℚ := events.filterMap Event.now

@[simp] theorem readings_receive (m : Message) (now : ℚ) (fails : Bool) (events : List Event) :
    readings (.receive m now fails :: events) = now :: readings events := rfl

@[simp] theorem readings_idle (events : List Event) :
    readings (.idle :: events) = readings events := rfl

@[simp] theorem readings_disconnect (events : List Event) :
    readings (.disconnect :: events) = readings events := rfl

variable {rate t : ℚ} {p : Pump} {events : List Event}

/-! ## One turn -/

/-- A pump that has ended forwards nothing. -/
theorem trace_of_ended (h : p.running = false) (events : List Event) :
    (pump rate).trace p events = [] := by
  induction events with
  | nil => rfl
  | cons e events ih =>
      have hstep : step rate p e = (p, []) := by
        unfold step
        rw [if_neg (by rw [h]; exact Bool.false_ne_true)]
      show (step rate p e).2 ++ (pump rate).trace (step rate p e).1 events = []
      rw [hstep, ih]
      rfl

/-- What is sent in the second that begins at `t`. -/
def Output.sentWithin (t : ℚ) : Output → Bool
  | .sent _ now => t ≤ now && now < t + 1
  | .closed => false

/-- What can happen to a message: the pump ends, or goes on, and what is sent is sent now. -/
theorem forward_cases (p : Pump) (m : Message) (now : ℚ) (fails : Bool) :
    (p.forward m now fails).1.running = false ∧ (p.forward m now fails).2 = [] ∨
      (p.forward m now fails).1 = p ∧
        ((p.forward m now fails).2 = [] ∨ (p.forward m now fails).2 = [.sent m now]) := by
  cases m with
  | empty => exact .inr ⟨rfl, .inl rfl⟩
  | text text | bytes bytes =>
      cases fails with
      | true => exact .inl ⟨rfl, rfl⟩
      | false => exact .inr ⟨rfl, .inr rfl⟩

/-- One turn of a limited pump with a message: the pump ends, or counts it, and sends it at
most once, and only within the limit. -/
theorem step_receive (hrate : 0 < rate) (hrunning : p.running = true) (m : Message) (now : ℚ)
    (fails : Bool) :
    (step rate p (.receive m now fails)).1.running = false ∧
        (step rate p (.receive m now fails)).2 = [] ∨
      (step rate p (.receive m now fails)).1 = p.count now ∧
        ((step rate p (.receive m now fails)).2 = [] ∨
          (p.count now).msgCount ≤ rate ∧
            (step rate p (.receive m now fails)).2 = [.sent m now]) := by
  rw [step, if_pos hrunning, if_pos hrate]
  split
  · exact .inr ⟨rfl, .inl rfl⟩
  · next hwithin =>
      obtain hended | ⟨hp, hnone | hsent⟩ := forward_cases (p.count now) m now fails
      · exact .inl hended
      · exact .inr ⟨hp, .inl hnone⟩
      · exact .inr ⟨hp, .inr ⟨Rat.not_lt.mp hwithin, hsent⟩⟩

/-! ## How much passes -/

/-- The number of messages sent in the second that begins at `t`. -/
def sentIn (t : ℚ) (outputs : List Output) : ℕ := outputs.countP (Output.sentWithin t)

theorem sentIn_append (t : ℚ) (first second : List Output) :
    sentIn t (first ++ second) = sentIn t first + sentIn t second :=
  List.countP_append

theorem sentIn_singleton (t now : ℚ) (m : Message) :
    sentIn t [.sent m now] = if t ≤ now ∧ now < t + 1 then 1 else 0 := by
  rw [sentIn, List.countP_singleton]
  simp [Output.sentWithin]

/-- What one turn of a limited pump adds to a bound. -/
theorem sentIn_step_le (hrate : 0 < rate) (m : Message) (now : ℚ) (fails : Bool)
    {before after : ℚ} (hended : 0 ≤ before)
    (hlater : (sentIn t ((pump rate).trace (p.count now) events) : ℚ) ≤ after)
    (hunsent : after ≤ before)
    (hsent : t ≤ now → now < t + 1 → (p.count now).msgCount ≤ rate → after + 1 ≤ before) :
    (sentIn t ((pump rate).trace p (.receive m now fails :: events)) : ℚ) ≤ before := by
  by_cases hrunning : p.running = true
  · show (sentIn t ((step rate p (.receive m now fails)).2 ++
      (pump rate).trace (step rate p (.receive m now fails)).1 events) : ℚ) ≤ before
    obtain ⟨hend, hnone⟩ | ⟨hp, hnone | ⟨hwithin, hone⟩⟩ := step_receive hrate hrunning m now fails
    · rw [hnone, trace_of_ended hend]
      exact hended
    · rw [hnone, hp]
      exact hlater.trans hunsent
    · rw [hone, hp, sentIn_append, sentIn_singleton]
      split
      · next hin =>
          have hadd := hsent hin.1 hin.2 hwithin
          push_cast
          linarith
      · push_cast
        linarith
  · rw [trace_of_ended (Bool.eq_false_iff.mpr hrunning)]
    exact hended

/-- Behind the last message nothing is sent. -/
theorem sentIn_last (t : ℚ) (p : Pump) (e : Event) (hlast : e.now = none) (events : List Event) :
    sentIn t ((pump rate).trace p (e :: events)) = 0 := by
  show sentIn t ((step rate p e).2 ++ (pump rate).trace (step rate p e).1 events) = 0
  unfold step
  split
  · cases e with
    | receive m now fails => cases hlast
    | idle | disconnect =>
        dsimp only
        rw [trace_of_ended rfl]
        rfl
  · next hrunning =>
      rw [trace_of_ended (Bool.eq_false_iff.mpr hrunning)]
      rfl

/-- Once the second is over, nothing is sent in it. -/
theorem sentIn_over (hrate : 0 < rate) (p : Pump) (events : List Event)
    (hover : ∀ now ∈ readings events, t + 1 ≤ now) :
    (sentIn t ((pump rate).trace p events) : ℚ) ≤ 0 := by
  induction events generalizing p with
  | nil => exact le_refl _
  | cons e events ih =>
      cases e with
      | receive m now fails =>
          have hnow : t + 1 ≤ now := hover now List.mem_cons_self
          apply sentIn_step_le hrate m now fails (le_refl 0)
          · exact ih _ fun now hin => hover now (List.mem_cons_of_mem _ hin)
          · exact le_refl _
          · intro _ hlt
            exact absurd hlt (Rat.not_lt.mpr hnow)
      | idle | disconnect =>
          rw [sentIn_last t p _ rfl]
          exact le_refl _

/-- What is left of the limit in the window. -/
def Pump.left (rate : ℚ) (p : Pump) : ℚ := max (rate - p.msgCount) 0

theorem left_nonneg (rate : ℚ) (p : Pump) : 0 ≤ p.left rate := le_max_right _ _

theorem left_le (hrate : 0 < rate) (p : Pump) : p.left rate ≤ rate := by
  apply max_le
  · have hcount : (0 : ℚ) ≤ p.msgCount := Nat.cast_nonneg _
    linarith
  · exact hrate.le

/-- A message that is counted in the window leaves less. -/
theorem left_count {now : ℚ} (hwindow : now - p.windowStart < 1) :
    (p.count now).left rate ≤ p.left rate ∧
      ((p.count now).msgCount ≤ rate → (p.count now).left rate + 1 ≤ p.left rate) := by
  have hcount : p.count now = { p with msgCount := p.msgCount + 1 } :=
    if_neg (Rat.not_le.mpr hwindow)
  rw [hcount, Pump.left, Pump.left]
  push_cast
  constructor
  · apply max_le_max _ (le_refl 0)
    linarith
  · intro hwithin
    rw [max_eq_left (by linarith)]
    apply le_max_of_le_left
    linarith

/-- A message that begins a window. -/
theorem left_count_new {now : ℚ} (hwindow : ¬ now - p.windowStart < 1) :
    (p.count now).windowStart = now ∧ (p.count now).msgCount = 1 := by
  have hcount : p.count now = { p with msgCount := 1, windowStart := now } :=
    if_pos (Rat.not_lt.mp hwindow)
  rw [hcount]
  exact ⟨rfl, rfl⟩

/-- The window began within the second: there will be no other one in it. -/
theorem sentIn_window (hrate : 0 < rate) (p : Pump) (events : List Event)
    (hclock : (readings events).Pairwise (· ≤ ·)) (hstart : t ≤ p.windowStart) :
    (sentIn t ((pump rate).trace p events) : ℚ) ≤ p.left rate := by
  induction events generalizing p with
  | nil => exact left_nonneg rate p
  | cons e events ih =>
      cases e with
      | receive m now fails =>
          rw [readings_receive, List.pairwise_cons] at hclock
          by_cases hin : now < t + 1
          · have hwindow : now - p.windowStart < 1 := by linarith
            have hsame : (p.count now).windowStart = p.windowStart := by
              rw [Pump.count, if_neg (Rat.not_le.mpr hwindow)]
            apply sentIn_step_le hrate m now fails (left_nonneg rate p)
            · exact ih _ hclock.2 (by rw [hsame]; exact hstart)
            · exact (left_count hwindow).1
            · intro _ _ hwithin
              exact (left_count hwindow).2 hwithin
          · apply (sentIn_over hrate p _ _).trans (left_nonneg rate p)
            intro later hlater
            rw [readings_receive, List.mem_cons] at hlater
            obtain rfl | hlater := hlater
            · exact Rat.not_lt.mp hin
            · exact (Rat.not_lt.mp hin).trans (hclock.1 later hlater)
      | idle | disconnect =>
          rw [sentIn_last t p _ rfl]
          exact left_nonneg rate p

/-- From the beginning of the second on: what is left of the window, and another window. -/
theorem sentIn_from (hrate : 0 < rate) (p : Pump) (events : List Event)
    (hclock : (readings events).Pairwise (· ≤ ·)) (hfrom : ∀ now ∈ readings events, t ≤ now) :
    (sentIn t ((pump rate).trace p events) : ℚ) ≤ p.left rate + rate := by
  induction events generalizing p with
  | nil => exact add_nonneg (left_nonneg rate p) hrate.le
  | cons e events ih =>
      cases e with
      | receive m now fails =>
          rw [readings_receive, List.pairwise_cons] at hclock
          have hlater : ∀ later ∈ readings events, t ≤ later := by
            intro later hlater
            exact hfrom later (List.mem_cons_of_mem now hlater)
          have hbound : 0 ≤ p.left rate + rate := add_nonneg (left_nonneg rate p) hrate.le
          by_cases hwindow : now - p.windowStart < 1
          · apply sentIn_step_le hrate m now fails hbound
            · exact ih _ hclock.2 hlater
            · exact add_le_add (left_count hwindow).1 (le_refl rate)
            · intro _ _ hwithin
              have hless := (left_count hwindow).2 hwithin
              linarith
          · obtain ⟨hstart, hone⟩ := left_count_new hwindow
            have hnew : t ≤ (p.count now).windowStart := by
              rw [hstart]
              exact hfrom now List.mem_cons_self
            have hleft := left_nonneg rate p
            apply sentIn_step_le hrate m now fails hbound
            · exact sentIn_window hrate (p.count now) events hclock.2 hnew
            · have hle := left_le hrate (p.count now)
              linarith
            · intro _ _ hwithin
              rw [hone] at hwithin
              push_cast at hwithin
              rw [Pump.left, hone]
              push_cast
              rw [max_eq_left (by linarith)]
              linarith
      | idle | disconnect =>
          rw [sentIn_last t p _ rfl]
          exact add_nonneg (left_nonneg rate p) hrate.le

/-- From any state on, at most twice the limit passes in the second. -/
theorem sentIn_le (hrate : 0 < rate) (p : Pump) (events : List Event)
    (hclock : (readings events).Pairwise (· ≤ ·)) (t : ℚ) :
    (sentIn t ((pump rate).trace p events) : ℚ) ≤ 2 * rate := by
  have hbound : 0 ≤ 2 * rate := by linarith
  induction events generalizing p with
  | nil => exact hbound
  | cons e events ih =>
      cases e with
      | receive m now fails =>
          rw [readings_receive, List.pairwise_cons] at hclock
          by_cases hfrom : t ≤ now
          · apply (sentIn_from hrate p (.receive m now fails :: events)
              (List.pairwise_cons.mpr hclock) _).trans
            · have hleft := left_le hrate p
              linarith
            · intro later hlater
              obtain rfl | hlater := List.mem_cons.mp hlater
              · exact hfrom
              · exact hfrom.trans (hclock.1 later hlater)
          · apply sentIn_step_le hrate m now fails hbound (ih _ hclock.2) (le_refl _)
            intro hle
            exact absurd hle hfrom
      | idle | disconnect =>
          rw [sentIn_last t p _ rfl]
          exact hbound

/-- In any second at most twice the limit passes, and nothing once the pump has ended. -/
theorem sent_in_second_le (hrate : 0 < rate) (p : Pump) (events : List Event)
    (hclock : (readings events).Pairwise (· ≤ ·)) :
    (∀ t, (sentIn t ((pump rate).trace p events) : ℚ) ≤ 2 * rate) ∧
      ∀ before after, events = before ++ after → ((pump rate).run p before).running = false →
        (pump rate).trace p events = (pump rate).trace p before := by
  refine ⟨sentIn_le hrate p events hclock, ?_⟩
  rintro before after rfl hended
  rw [Machine.trace_append, trace_of_ended hended, List.append_nil]

/-! ## What is lost -/

/-- The messages that are counted came since the window began. -/
def Pump.Counts (p : Pump) (past : List ℚ) : Prop :=
  p.msgCount ≤ past.countP (p.windowStart ≤ ·)

/-- The next message of such a browser is within the limit. -/
theorem Pump.Counts.count {past : List ℚ} {now : ℚ} (h : p.Counts past)
    (hstart : p.windowStart ≤ now)
    (hlimit : (past.countP (fun time => now - time < 1) : ℚ) + 1 ≤ rate) :
    (p.count now).Counts (past ++ [now]) ∧ ((p.count now).msgCount : ℚ) ≤ rate := by
  by_cases hwindow : now - p.windowStart < 1
  · have hcount : p.count now = { p with msgCount := p.msgCount + 1 } :=
      if_neg (Rat.not_le.mpr hwindow)
    have hmany : p.msgCount ≤ past.countP (fun time => now - time < 1) := by
      apply Nat.le_trans h
      apply List.countP_mono_left
      intro time _ hstart
      rw [decide_eq_true_iff] at hstart ⊢
      linarith
    rw [hcount]
    constructor
    · rw [Pump.Counts, List.countP_append, List.countP_singleton, if_pos (decide_eq_true hstart)]
      exact Nat.succ_le_succ h
    · push_cast
      have hcast : (p.msgCount : ℚ) ≤ past.countP (fun time => now - time < 1) := by
        exact_mod_cast hmany
      linarith
  · obtain ⟨hstart, hone⟩ := left_count_new hwindow
    constructor
    · rw [Pump.Counts, hstart, hone, List.countP_append, List.countP_singleton]
      simp
    · rw [hone]
      have hcast : (0 : ℚ) ≤ past.countP (fun time => now - time < 1) := Nat.cast_nonneg _
      push_cast
      linarith

/-- Four messages, two of them at the end of a second and two behind it. -/
def sampleMessages : List Event :=
  [.receive (.text "a") (1 / 2) false, .receive (.text "b") (9 / 10) false,
    .receive (.text "c") 1 false, .receive (.bytes [1]) (11 / 10) false]

/-- The browser goes, and a message comes late. -/
def sampleEnd : List Event := [.disconnect, .receive (.text "d") 2 false]

theorem sent_in_second_le_sample :
    (sentIn (1 / 2) ((pump 2).trace (.start 0) (sampleMessages ++ sampleEnd)) : ℚ) = 2 * 2 ∧
      (pump 2).trace (.start 0) (sampleMessages ++ sampleEnd) =
        (pump 2).trace (.start 0) (sampleMessages ++ [.disconnect]) := by
  have hrate : (0 : ℚ) < 2 := by norm_num
  obtain ⟨hbound, hended⟩ := sent_in_second_le hrate (.start 0) (sampleMessages ++ sampleEnd)
    (by decide +kernel)
  refine ⟨le_antisymm (hbound (1 / 2)) (by decide +kernel), ?_⟩
  exact hended (sampleMessages ++ [.disconnect]) _ rfl (by decide +kernel)

end CameraStack.Proxy
