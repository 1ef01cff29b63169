/-
# Actions that can stop

An action reads its surroundings, changes a state, and either answers or stops with a
reason.  Surroundings are everything that happens to the action from outside; they are
given in advance, so an action is a function and its behaviour under all surroundings
is a statement with a quantifier.

`Keeps` is the frame rule: a projection of the state that no part of an action touches
is not touched by the action.  `Preserves` is the rule for invariants.
-/

import Mathlib.Logic.Basic

namespace CameraStack.Lib

variable {E S X A B C : Type}

/-- An action on states `S` in surroundings `E`, stopping with `X` or answering `A`. -/
def Action (E S X A : Type) : Type := E → S → Except X A × S

namespace Action

/-- Answer at once. -/
protected def pure (a : A) : Action E S X A := fun _ s => (.ok a, s)

/-- Stop at once. -/
def halt (x : X) : Action E S X A := fun _ s => (.error x, s)

/-- Go on with the answer of the first action, if it gives one. -/
protected def bind (first : Action E S X A) (next : A → Action E S X B) : Action E S X B :=
  fun e s =>
    match first e s with
    | (.ok a, s') => next a e s'
    | (.error x, s') => (.error x, s')

/-- Continue with a handler where the action stops. -/
def catching (body : Action E S X A) (handler : X → Action E S X A) : Action E S X A :=
  fun e s =>
    match body e s with
    | (.ok a, s') => (.ok a, s')
    | (.error x, s') => handler x e s'

/-- The current state. -/
def get : Action E S X S := fun _ s => (.ok s, s)

/-- Change the state. -/
def modify (f : S → S) : Action E S X Unit := fun _ s => (.ok (), f s)

instance : Monad (Action E S X) where
  pure := Action.pure
  bind := Action.bind

section Run

variable {first : Action E S X A} {next : A → Action E S X B} {e : E} {s s' : S} {a : A} {x : X}

@[simp] theorem run_pure : (pure a : Action E S X A) e s = (.ok a, s) := rfl

@[simp] theorem run_halt : (halt x : Action E S X A) e s = (.error x, s) := rfl

@[simp] theorem run_get : (get : Action E S X S) e s = (.ok s, s) := rfl

@[simp] theorem run_modify {f : S → S} : (modify f : Action E S X Unit) e s = (.ok (), f s) := rfl

theorem run_bind : (first >>= next) e s =
    match first e s with
    | (.ok a, s') => next a e s'
    | (.error x, s') => (.error x, s') := rfl

theorem run_bind_ok (h : first e s = (.ok a, s')) : (first >>= next) e s = next a e s' := by
  rw [run_bind, h]

theorem run_bind_error (h : first e s = (.error x, s')) :
    (first >>= next) e s = (.error x, s') := by
  rw [run_bind, h]

/-- A composition answers when both parts do. -/
theorem bind_eq_ok {b : B} : (first >>= next) e s = (.ok b, s') ↔
    ∃ a mid, first e s = (.ok a, mid) ∧ next a e mid = (.ok b, s') := by
  rw [run_bind]
  cases hrun : first e s with
  | mk result mid =>
      cases result with
      | ok a =>
          constructor
          · exact fun h => ⟨a, mid, rfl, h⟩
          · rintro ⟨_, _, ⟨⟩, h⟩
            exact h
      | error x =>
          constructor
          · rintro ⟨⟩
          · rintro ⟨_, _, ⟨⟩, _⟩

theorem run_bind_pure {f : A → B} :
    (first >>= fun a => pure (f a)) e s = ((first e s).1.map f, (first e s).2) := by
  rw [run_bind]
  cases hrun : first e s with
  | mk result s' =>
      cases result with
      | ok a => rfl
      | error x => rfl

theorem run_map {f : A → B} : (f <$> first) e s = ((first e s).1.map f, (first e s).2) :=
  run_bind_pure

theorem run_catching {handler : X → Action E S X A} : catching first handler e s =
    match first e s with
    | (.ok a, s') => (.ok a, s')
    | (.error x, s') => handler x e s' := rfl

end Run

/-! ## Frames -/

/-- In these surroundings the action leaves a projection of the state as it is. -/
def Keeps (e : E) (g : S → C) (action : Action E S X A) : Prop := ∀ s, g (action e s).2 = g s

section Frame

variable {e : E} {g : S → C}

theorem Keeps.pure (a : A) : Keeps e g (Pure.pure a : Action E S X A) := fun _ => rfl

theorem Keeps.halt (x : X) : Keeps e g (halt x : Action E S X A) := fun _ => rfl

theorem Keeps.get : Keeps e g (get : Action E S X S) := fun _ => rfl

theorem Keeps.bind {first : Action E S X A} {next : A → Action E S X B} (hfirst : Keeps e g first)
    (hnext : ∀ a, Keeps e g (next a)) : Keeps e g (first >>= next) := by
  intro s
  have hs := hfirst s
  rw [run_bind]
  cases hrun : first e s with
  | mk result s' =>
      rw [hrun] at hs
      cases result with
      | ok a => exact (hnext a s').trans hs
      | error x => exact hs

theorem Keeps.catching {body : Action E S X A} {handler : X → Action E S X A}
    (hbody : Keeps e g body) (hhandler : ∀ x, Keeps e g (handler x)) :
    Keeps e g (catching body handler) := by
  intro s
  have hs := hbody s
  rw [run_catching]
  cases hrun : body e s with
  | mk result s' =>
      rw [hrun] at hs
      cases result with
      | ok a => exact hs
      | error x => exact (hhandler x s').trans hs

end Frame

/-! ## Invariants -/

/-- In these surroundings the action leads from states with the property to such states. -/
def Preserves (e : E) (I : S → Prop) (action : Action E S X A) : Prop :=
  ∀ s, I s → I (action e s).2

section Invariant

variable {e : E} {I : S → Prop}

theorem Preserves.pure (a : A) : Preserves e I (Pure.pure a : Action E S X A) := fun _ h => h

theorem Preserves.halt (x : X) : Preserves e I (halt x : Action E S X A) := fun _ h => h

theorem Preserves.get : Preserves e I (get : Action E S X S) := fun _ h => h

theorem Preserves.modify {f : S → S} (h : ∀ s, I s → I (f s)) :
    Preserves e I (modify f : Action E S X Unit) := h

theorem Preserves.bind {first : Action E S X A} {next : A → Action E S X B}
    (hfirst : Preserves e I first) (hnext : ∀ a, Preserves e I (next a)) :
    Preserves e I (first >>= next) := by
  intro s h
  have hs := hfirst s h
  rw [run_bind]
  cases hrun : first e s with
  | mk result s' =>
      rw [hrun] at hs
      cases result with
      | ok a => exact hnext a s' hs
      | error x => exact hs

theorem Preserves.catching {body : Action E S X A} {handler : X → Action E S X A}
    (hbody : Preserves e I body) (hhandler : ∀ x, Preserves e I (handler x)) :
    Preserves e I (catching body handler) := by
  intro s h
  have hs := hbody s h
  rw [run_catching]
  cases hrun : body e s with
  | mk result s' =>
      rw [hrun] at hs
      cases result with
      | ok a => exact hs
      | error x => exact hhandler x s' hs

end Invariant

/-! ## Answers -/

/-- In these surroundings every answer of the action has the property. -/
def Yields (e : E) (P : A → Prop) (action : Action E S X A) : Prop :=
  ∀ s a s', action e s = (.ok a, s') → P a

section Answers

variable {e : E} {P : B → Prop}

theorem Yields.pure {b : B} (h : P b) : Yields e P (Pure.pure b : Action E S X B) := by
  rintro s b' s' ⟨⟩
  exact h

theorem Yields.halt (x : X) : Yields e P (halt x : Action E S X B) := by
  rintro s b s' ⟨⟩

theorem Yields.bind {first : Action E S X A} {next : A → Action E S X B}
    (hnext : ∀ a, Yields e P (next a)) : Yields e P (first >>= next) := by
  intro s b s' h
  obtain ⟨a, mid, -, hrun⟩ := bind_eq_ok.mp h
  exact hnext a mid b s' hrun

end Answers

/-- In these surroundings every stop of the action has the property. -/
def Stops (e : E) (P : X → Prop) (action : Action E S X A) : Prop :=
  ∀ s x s', action e s = (.error x, s') → P x

section Stopping

variable {e : E} {P : X → Prop}

theorem Stops.pure (a : A) : Stops e P (Pure.pure a : Action E S X A) := by
  rintro s x s' ⟨⟩

theorem Stops.halt {x : X} (h : P x) : Stops e P (halt x : Action E S X A) := by
  rintro s x' s' ⟨⟩
  exact h

theorem Stops.get : Stops e P (get : Action E S X S) := by
  rintro s x s' ⟨⟩

theorem Stops.modify (f : S → S) : Stops e P (modify f : Action E S X Unit) := by
  rintro s x s' ⟨⟩

theorem Stops.bind {first : Action E S X A} {next : A → Action E S X B} (hfirst : Stops e P first)
    (hnext : ∀ a, Stops e P (next a)) : Stops e P (first >>= next) := by
  intro s x s' h
  rw [run_bind] at h
  cases hrun : first e s with
  | mk result mid =>
      rw [hrun] at h
      cases result with
      | ok a => exact hnext a mid x s' h
      | error y =>
          cases h
          exact hfirst s x s' hrun

end Stopping

end Action

end CameraStack.Lib
