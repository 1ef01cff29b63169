/-
# Reactive machines and their runs

A deterministic machine takes an event in a state to the next state and emits a
list of outputs.  Everything the environment decides (clock readings, failures
of the operating system, answers of other services) travels inside the event, so
a run is just a list of events and a statement about every run is a statement
about every list.

The module supplies the arguments every development below repeats: an invariant
carried along a run, a property of every output of a run, a relation between
neighbouring outputs, and a potential that pays for the outputs a run may emit.
Guards may read the state in which an event arrives, which is how assumptions
such as "the clock never goes back" are phrased.
-/

import Mathlib.Algebra.Order.Ring.Nat
import Mathlib.Data.List.Chain
import Mathlib.Tactic.Linarith

namespace CameraStack.Lib

universe u v w

/-- A deterministic machine with outputs. -/
structure Machine (σ : Type u) (ε : Type v) (ω : Type w) where
  /-- The state after one event, and what the step emitted. -/
  step : σ → ε → σ × List ω

namespace Machine

variable {σ : Type u} {ε : Type v} {ω : Type w} (M : Machine σ ε ω)

/-- The state after one event. -/
def next (s : σ) (e : ε) : σ := (M.step s e).1

/-- The outputs of one event. -/
def emits (s : σ) (e : ε) : List ω := (M.step s e).2

/-- The state after a list of events. -/
def run : σ → List ε → σ
  | s, [] => s
  | s, e :: es => run (M.next s e) es

/-- Everything emitted along a list of events, in order. -/
def trace : σ → List ε → List ω
  | _, [] => []
  | s, e :: es => M.emits s e ++ trace (M.next s e) es

/-- The guard holds of every event of the run in the state where it arrives. -/
def Along (guard : σ → ε → Prop) : σ → List ε → Prop
  | _, [] => True
  | s, e :: es => guard s e ∧ Along guard (M.next s e) es

instance decidableAlong (guard : σ → ε → Prop) [∀ s e, Decidable (guard s e)] :
    ∀ (s : σ) (events : List ε), Decidable (M.Along guard s events)
  | _, [] => isTrue trivial
  | s, e :: es =>
      have := decidableAlong guard (M.next s e) es
      inferInstanceAs (Decidable (guard s e ∧ M.Along guard (M.next s e) es))

@[simp] theorem run_nil (s : σ) : M.run s [] = s := rfl

@[simp] theorem run_cons (s : σ) (e : ε) (es : List ε) :
    M.run s (e :: es) = M.run (M.next s e) es := rfl

@[simp] theorem trace_nil (s : σ) : M.trace s [] = [] := rfl

@[simp] theorem trace_cons (s : σ) (e : ε) (es : List ε) :
    M.trace s (e :: es) = M.emits s e ++ M.trace (M.next s e) es := rfl

@[simp] theorem along_nil (guard : σ → ε → Prop) (s : σ) : M.Along guard s [] := trivial

@[simp] theorem along_cons (guard : σ → ε → Prop) (s : σ) (e : ε) (es : List ε) :
    M.Along guard s (e :: es) ↔ guard s e ∧ M.Along guard (M.next s e) es := Iff.rfl

theorem run_append (s : σ) (first second : List ε) :
    M.run s (first ++ second) = M.run (M.run s first) second := by
  induction first generalizing s with
  | nil => rfl
  | cons e es ih => exact ih (M.next s e)

theorem trace_append (s : σ) (first second : List ε) :
    M.trace s (first ++ second) = M.trace s first ++ M.trace (M.run s first) second := by
  induction first generalizing s with
  | nil => rfl
  | cons e es ih =>
      rw [List.cons_append, trace_cons, trace_cons, ih, List.append_assoc, run_cons]

theorem along_append {guard : σ → ε → Prop} (s : σ) (first second : List ε) :
    M.Along guard s (first ++ second) ↔
      M.Along guard s first ∧ M.Along guard (M.run s first) second := by
  induction first generalizing s with
  | nil => simp
  | cons e es ih => rw [List.cons_append, along_cons, along_cons, ih, run_cons, and_assoc]

theorem Along.imp {G H : σ → ε → Prop} (himp : ∀ s e, G s e → H s e) :
    ∀ {s : σ} {events : List ε}, M.Along G s events → M.Along H s events
  | _, [], _ => trivial
  | s, e :: _, h => ⟨himp s e h.1, Along.imp himp h.2⟩

theorem Along.and {G H : σ → ε → Prop} :
    ∀ {s : σ} {events : List ε}, M.Along G s events → M.Along H s events →
      M.Along (fun s e => G s e ∧ H s e) s events
  | _, [], _, _ => trivial
  | _, _ :: _, h, h' => ⟨⟨h.1, h'.1⟩, Along.and h.2 h'.2⟩

/-- A guard that does not read the state is a guard on the list of events. -/
theorem along_of_forall {G : σ → ε → Prop} {events : List ε}
    (h : ∀ e ∈ events, ∀ s, G s e) (s : σ) : M.Along G s events := by
  induction events generalizing s with
  | nil => trivial
  | cons e es ih =>
      refine ⟨h e List.mem_cons_self s, ih (fun e' he' => h e' (List.mem_cons_of_mem e he')) _⟩

/-- What holds of everything a run emits holds of what each of its steps emits. -/
theorem along_of_trace {O : ω → Prop} {s : σ} {events : List ε}
    (h : ∀ o ∈ M.trace s events, O o) :
    M.Along (fun s e => ∀ o ∈ M.emits s e, O o) s events := by
  induction events generalizing s with
  | nil => trivial
  | cons e es ih =>
      refine ⟨fun o ho => h o ?_, ih fun o ho => h o ?_⟩
      · exact List.mem_append_left _ ho
      · exact List.mem_append_right _ ho

/-- The invariant rule: what every guarded step preserves, every guarded run
preserves. -/
theorem run_invariant {G : σ → ε → Prop} {I : σ → Prop}
    (preserved : ∀ s e, I s → G s e → I (M.next s e))
    {s : σ} {events : List ε} (along : M.Along G s events) (initial : I s) :
    I (M.run s events) := by
  induction events generalizing s with
  | nil => exact initial
  | cons e es ih => exact ih along.2 (preserved s e initial along.1)

/-- What a guarded step does from an invariant state, every step of a guarded run
does. -/
theorem along_of_invariant {G H : σ → ε → Prop} {I : σ → Prop}
    (preserved : ∀ s e, I s → G s e → I (M.next s e))
    (implied : ∀ s e, I s → G s e → H s e)
    {s : σ} {events : List ε} (along : M.Along G s events) (initial : I s) :
    M.Along H s events := by
  induction events generalizing s with
  | nil => trivial
  | cons e es ih =>
      exact ⟨implied s e initial along.1, ih along.2 (preserved s e initial along.1)⟩

/-- The invariant rule without a guard. -/
theorem run_invariant_of_step {I : σ → Prop} (preserved : ∀ s e, I s → I (M.next s e))
    {s : σ} (initial : I s) (events : List ε) : I (M.run s events) := by
  induction events generalizing s with
  | nil => exact initial
  | cons e es ih => exact ih (preserved s e initial)

/-- Guards that agree in every invariant state hold along the same runs. -/
theorem along_congr {G H : σ → ε → Prop} {I : σ → Prop}
    (preserved : ∀ s e, I s → I (M.next s e)) (agree : ∀ s e, I s → (G s e ↔ H s e))
    {s : σ} (initial : I s) (events : List ε) : M.Along G s events ↔ M.Along H s events := by
  induction events generalizing s with
  | nil => exact Iff.rfl
  | cons e es ih => exact and_congr (agree s e initial) (ih (preserved s e initial))

/-- Guards that agree in every invariant state hold along the same assumed runs, when the
invariant lasts as long as the guards hold. -/
theorem along_congr_of_guard {P G H : σ → ε → Prop} {I : σ → Prop}
    (preserved : ∀ s e, I s → P s e → G s e → I (M.next s e))
    (agree : ∀ s e, I s → P s e → (G s e ↔ H s e))
    {s : σ} {events : List ε} (along : M.Along P s events) (initial : I s) :
    M.Along G s events ↔ M.Along H s events := by
  induction events generalizing s with
  | nil => exact Iff.rfl
  | cons e es ih =>
      have hagree := agree s e initial along.1
      constructor
      · intro h
        exact ⟨hagree.mp h.1, (ih along.2 (preserved s e initial along.1 h.1)).mp h.2⟩
      · intro h
        have hG := hagree.mpr h.1
        exact ⟨hG, (ih along.2 (preserved s e initial along.1 hG)).mpr h.2⟩

/-- A property of every state a run passes through is a property of the state after
each of its steps. -/
theorem forall_prefix_iff_along {I : σ → Prop} {s : σ} {events : List ε} (initial : I s) :
    (∀ first second, events = first ++ second → I (M.run s first)) ↔
      M.Along (fun s e => I (M.next s e)) s events := by
  induction events generalizing s with
  | nil =>
      refine ⟨fun _ => trivial, ?_⟩
      intro _ first second hsplit
      rw [(List.append_eq_nil_iff.mp hsplit.symm).1]
      exact initial
  | cons e es ih =>
      constructor
      · intro h
        have hnext : I (M.next s e) := h [e] es rfl
        refine ⟨hnext, (ih hnext).mp ?_⟩
        intro first second hsplit
        exact h (e :: first) second (by rw [hsplit, List.cons_append])
      · intro h first second hsplit
        rcases first with - | ⟨e', first⟩
        · exact initial
        · obtain ⟨rfl, hrest⟩ := List.cons.inj hsplit
          exact (ih h.1).mpr h.2 first second hrest

/-- The output rule: a property of everything one guarded step emits from an
invariant state is a property of everything a guarded run emits. -/
theorem trace_forall {G : σ → ε → Prop} {I : σ → Prop} {O : ω → Prop}
    (preserved : ∀ s e, I s → G s e → I (M.next s e))
    (emitted : ∀ s e, I s → G s e → ∀ o ∈ M.emits s e, O o)
    {s : σ} {events : List ε} (along : M.Along G s events) (initial : I s) :
    ∀ o ∈ M.trace s events, O o := by
  induction events generalizing s with
  | nil => simp
  | cons e es ih =>
      intro o ho
      rw [trace_cons, List.mem_append] at ho
      rcases ho with ho | ho
      · exact emitted s e initial along.1 o ho
      · exact ih along.2 (preserved s e initial along.1) o ho

/-- The log rule: a relation between the state and everything emitted so far that every step keeps,
every run keeps. -/
theorem run_trace_invariant {I : σ → List ω → Prop}
    (preserved : ∀ s log e, I s log → I (M.next s e) (log ++ M.emits s e))
    {s : σ} (initial : I s []) (events : List ε) : I (M.run s events) (M.trace s events) := by
  have general : ∀ log, I s log → I (M.run s events) (log ++ M.trace s events) := by
    clear initial
    induction events generalizing s with
    | nil =>
        intro log h
        rwa [trace_nil, List.append_nil]
    | cons e es ih =>
        intro log h
        rw [trace_cons, ← List.append_assoc]
        exact ih (log ++ M.emits s e) (preserved s log e h)
  exact general [] initial

/-- The chain rule: where the state keeps the last output, neighbours in a trace are related when
each step relates what it emits to what the state keeps. -/
theorem isChain_trace_iff {R : ω → ω → Prop} {last : σ → Option ω}
    (kept : ∀ s e, last (M.next s e) = ((last s).toList ++ M.emits s e).getLast?)
    (s : σ) (events : List ε) :
    ((last s).toList ++ M.trace s events).IsChain R ↔
      M.Along (fun s e => ((last s).toList ++ M.emits s e).IsChain R) s events := by
  induction events generalizing s with
  | nil =>
      cases last s with
      | none => simp
      | some o => simp
  | cons e es ih =>
      rw [along_cons, ← ih, trace_cons, ← List.append_assoc, List.isChain_append, kept]
      refine and_congr_right fun _ => ?_
      cases ((last s).toList ++ M.emits s e).getLast? with
      | none => simp
      | some o =>
          rw [List.isChain_append]
          exact ⟨fun h => ⟨List.isChain_singleton o, h⟩, fun h => h.2⟩

/-- The potential rule: when every guarded step pays for its outputs from a
potential, a guarded run emits no more than the potential it starts with. -/
theorem countP_trace_le {G : σ → ε → Prop} {I : σ → Prop} (potential : σ → ℕ)
    (charged : ω → Bool)
    (preserved : ∀ s e, I s → G s e → I (M.next s e))
    (paid : ∀ s e, I s → G s e →
      (M.emits s e).countP charged + potential (M.next s e) ≤ potential s)
    {s : σ} {events : List ε} (along : M.Along G s events) (initial : I s) :
    (M.trace s events).countP charged + potential (M.run s events) ≤ potential s := by
  induction events generalizing s with
  | nil => simp
  | cons e es ih =>
      have rest := ih along.2 (preserved s e initial along.1)
      have first := paid s e initial along.1
      rw [trace_cons, List.countP_append, run_cons]
      linarith

/-- A quantity that no guarded step lowers is not lowered by a guarded run. -/
theorem le_run {α : Type*} [Preorder α] {G : σ → ε → Prop} {I : σ → Prop}
    (measure : σ → α)
    (preserved : ∀ s e, I s → G s e → I (M.next s e))
    (grows : ∀ s e, I s → G s e → measure s ≤ measure (M.next s e))
    {s : σ} {events : List ε} (along : M.Along G s events) (initial : I s) :
    measure s ≤ measure (M.run s events) := by
  induction events generalizing s with
  | nil => exact le_refl _
  | cons e es ih =>
      exact (grows s e initial along.1).trans (ih along.2 (preserved s e initial along.1))

end Machine

end CameraStack.Lib
