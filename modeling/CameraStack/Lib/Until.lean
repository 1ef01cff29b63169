/-
# Stretches of a run

Some assumptions on a run are not about one step and the state it starts in.  They may read
everything that led to a step; or nothing of one kind may happen between an event of a second kind
and the next of a third: `Until` says so of the run from one state on, and `AfterUntil` of every
event that sets it off.

Along such a run a state is either clean or behind a tripping event that nothing has released yet,
and there the guard holds.  So a guarded step that breaks its guard finds the state clean.
-/

import CameraStack.Lib.Machine

namespace CameraStack.Lib

universe u v w

namespace Machine

variable {σ : Type u} {ε : Type v} {ω : Type w} (M : Machine σ ε ω)

/-- A guard holds along a run just if it holds of each event behind the run that leads to it. -/
theorem along_iff_forall_split {guard : σ → ε → Prop} {s : σ} {events : List ε} :
    M.Along guard s events ↔
      ∀ first e second, events = first ++ e :: second → guard (M.run s first) e := by
  constructor
  · rintro h first e second rfl
    exact ((M.along_append s first (e :: second)).mp h).2.1
  · induction events generalizing s with
    | nil => exact fun _ => trivial
    | cons e es ih =>
        intro h
        refine ⟨h [] e es rfl, ih fun first e' second hsplit => ?_⟩
        exact h (e :: first) e' second (by rw [hsplit, List.cons_append])

/-- The guard holds of every event up to the first that releases it, if there is one. -/
def Until (guard release : σ → ε → Prop) : σ → List ε → Prop
  | _, [] => True
  | s, e :: es => guard s e ∧ (release s e ∨ Until guard release (M.next s e) es)

/-- After every event that trips it, the guard holds until it is released. -/
def AfterUntil (trips guard release : σ → ε → Prop) : σ → List ε → Prop
  | _, [] => True
  | s, e :: es =>
      (trips s e → M.Until guard release (M.next s e) es) ∧
        AfterUntil trips guard release (M.next s e) es

instance decidableUntil (guard release : σ → ε → Prop) [∀ s e, Decidable (guard s e)]
    [∀ s e, Decidable (release s e)] :
    ∀ (s : σ) (events : List ε), Decidable (M.Until guard release s events)
  | _, [] => isTrue trivial
  | s, e :: es =>
      have := decidableUntil guard release (M.next s e) es
      inferInstanceAs
        (Decidable (guard s e ∧ (release s e ∨ M.Until guard release (M.next s e) es)))

instance decidableAfterUntil (trips guard release : σ → ε → Prop) [∀ s e, Decidable (trips s e)]
    [∀ s e, Decidable (guard s e)] [∀ s e, Decidable (release s e)] :
    ∀ (s : σ) (events : List ε), Decidable (M.AfterUntil trips guard release s events)
  | _, [] => isTrue trivial
  | s, e :: es =>
      have := decidableAfterUntil trips guard release (M.next s e) es
      inferInstanceAs (Decidable ((trips s e → M.Until guard release (M.next s e) es) ∧
        M.AfterUntil trips guard release (M.next s e) es))

/-- The scope rule: where only a tripping event makes a state unclean and a releasing one cleans
it, every event of the run finds the state clean or the guard in force. -/
theorem along_of_afterUntil {trips guard release G : σ → ε → Prop} {I C : σ → Prop}
    (preserved : ∀ s e, I s → G s e → (C s ∨ guard s e) → I (M.next s e))
    (kept : ∀ s e, I s → C s → ¬ trips s e → C (M.next s e))
    (released : ∀ s e, I s → release s e → C (M.next s e))
    {s : σ} {events : List ε} (along : M.Along G s events)
    (scope : M.AfterUntil trips guard release s events) (invariant : I s) (initial : C s) :
    M.Along (fun s e => I s ∧ G s e ∧ (C s ∨ guard s e)) s events := by
  have general : ∀ {s : σ}, M.Along G s events → M.AfterUntil trips guard release s events → I s →
      C s ∨ M.Until guard release s events →
      M.Along (fun s e => I s ∧ G s e ∧ (C s ∨ guard s e)) s events := by
    clear along scope invariant initial s
    induction events with
    | nil => exact fun _ _ _ _ => trivial
    | cons e es ih =>
        intro s along scope invariant held
        have hguarded : C s ∨ guard s e := held.imp id And.left
        have hnext := ih along.2 scope.2 (preserved s e invariant along.1 hguarded)
        refine ⟨⟨invariant, along.1, hguarded⟩, hnext ?_⟩
        rcases held with hclean | ⟨-, hreleased | hwaiting⟩
        · by_cases htrips : trips s e
          · exact .inr (scope.1 htrips)
          · exact .inl (kept s e invariant hclean htrips)
        · exact .inl (released s e invariant hreleased)
        · exact .inr hwaiting
  exact general along scope invariant (.inl initial)

end Machine

end CameraStack.Lib
