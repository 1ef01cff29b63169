/-
# Texts in the order of time

A time written with a fixed number of digits for each field sorts as the time itself.  The
argument has three steps: numbers of one width, two texts behind texts of one length, and
fields one after another.
-/

import CameraStack.Lib.JsonText
import Mathlib.Algebra.Order.Ring.Nat

namespace CameraStack.Lib

/-- The last digits of a number, as many as asked for. -/
def padded : ℕ → ℕ → Text
  | 0, _ => []
  | width + 1, n => padded width (n / 10) ++ [Nat.digitChar (n % 10)]

/-- Numbers one after another, each with its width and with a mark behind it. -/
def paddedFields : List (ℕ × Text) → List ℕ → Text
  | (width, mark) :: format, n :: ns => padded width n ++ (mark ++ paddedFields format ns)
  | _, _ => []

/-- Every number has as many digits as its width says, or fewer. -/
def Fits (format : List (ℕ × Text)) (ns : List ℕ) : Prop :=
  List.Forall₂ (fun field n => n < 10 ^ field.1) format ns

/-! ## Order -/

section Order

variable {α : Type} [LT α] {a b x y : List α}

theorem lt_of_append_left (h : x < y) (a : List α) : a ++ x < a ++ y := by
  induction a with
  | nil => exact h
  | cons c a ih => exact List.Lex.cons ih

/-- The first texts decide, when they are as long as each other. -/
theorem append_lt_append (h : a < b) (hlength : a.length = b.length) (x y : List α) :
    a ++ x < b ++ y := by
  induction a generalizing b with
  | nil =>
      cases b with
      | nil => cases h
      | cons d b => cases hlength
  | cons c a ih =>
      cases b with
      | nil => cases hlength
      | cons d b =>
          cases h with
          | cons htail => exact List.Lex.cons (ih htail (Nat.succ.inj hlength))
          | rel hhead => exact List.Lex.rel hhead

end Order

variable {width n m : ℕ} {format : List (ℕ × Text)} {ns ms : List ℕ}

@[simp] theorem length_padded (width n : ℕ) : (padded width n).length = width := by
  induction width generalizing n with
  | zero => rfl
  | succ width ih => rw [padded, List.length_append, ih, List.length_singleton]

theorem digitChar_lt (hn : n < 10) (hm : m < 10) (h : n < m) :
    Nat.digitChar n < Nat.digitChar m := by
  have hall : ∀ n < 10, ∀ m < 10, n < m → Nat.digitChar n < Nat.digitChar m := by decide
  exact hall n hn m hm h

/-- Numbers of one width are in the order of their digits. -/
theorem padded_lt (h : n < m) (hm : m < 10 ^ width) : padded width n < padded width m := by
  induction width generalizing n m with
  | zero =>
      rw [Nat.pow_zero] at hm
      omega
  | succ width ih =>
      rw [padded, padded]
      rcases Nat.lt_or_ge (n / 10) (m / 10) with hlt | hge
      · have htop : m / 10 < 10 ^ width := by
          rw [Nat.pow_succ] at hm
          omega
        apply append_lt_append (ih hlt htop)
        rw [length_padded, length_padded]
      · have hsame : n / 10 = m / 10 := by omega
        rw [hsame]
        apply lt_of_append_left
        exact List.Lex.rel (digitChar_lt (by omega) (by omega) (by omega))

theorem length_paddedFields (hlength : ns.length = ms.length) :
    (paddedFields format ns).length = (paddedFields format ms).length := by
  induction format generalizing ns ms with
  | nil => rfl
  | cons field format ih =>
      obtain ⟨width, mark⟩ := field
      cases ns with
      | nil =>
          rw [List.length_eq_zero_iff.mp hlength.symm]
      | cons n ns =>
          cases ms with
          | nil => cases hlength
          | cons m ms =>
              simp only [paddedFields, List.length_append, length_padded,
                ih (Nat.succ.inj hlength)]

/-- Fields one after another are in the order of the first that differ. -/
theorem paddedFields_lt (h : ns < ms) (hlength : ns.length = ms.length) (hfits : Fits format ms) :
    paddedFields format ns < paddedFields format ms := by
  induction hfits generalizing ns with
  | nil => exact absurd h (List.not_lt_nil ns)
  | @cons field m format ms hm hfits ih =>
      obtain ⟨width, mark⟩ := field
      cases ns with
      | nil => cases hlength
      | cons n ns =>
          rw [paddedFields, paddedFields]
          cases h with
          | cons htail =>
              apply lt_of_append_left
              apply lt_of_append_left
              exact ih htail (Nat.succ.inj hlength)
          | rel hhead =>
              apply append_lt_append (padded_lt hhead hm)
              rw [length_padded, length_padded]

end CameraStack.Lib
