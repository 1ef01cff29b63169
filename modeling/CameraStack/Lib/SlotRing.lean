/-
# Rings

A ring keeps the last items of a sequence in so many slots: a cursor goes round, and what it
comes upon is replaced.  The slots fill up one by one at first.
-/

import Mathlib.Data.List.Basic
import Mathlib.Data.Nat.ModEq

namespace CameraStack.Lib

/-- Slots, the slot to write next, and whether the cursor has been round. -/
structure SlotRing (α : Type) where
  slots : List α
  idx : ℕ
  full : Bool

namespace SlotRing

variable {α : Type} {size : ℕ} {r : SlotRing α} {past : List α}

/-- No item has been written. -/
def empty : SlotRing α where
  slots := []
  idx := 0
  full := false

/-- A slot is written, or a new one behind the last. -/
def put (slots : List α) (i : ℕ) (a : α) : List α :=
  if i < slots.length then slots.set i a else slots ++ [a]

/-- One more item. -/
def push (size : ℕ) (r : SlotRing α) (a : α) : SlotRing α where
  slots := put r.slots r.idx a
  idx := (r.idx + 1) % size
  full := r.full || (r.idx + 1) % size = 0

/-- How many items there are. -/
def count (size : ℕ) (r : SlotRing α) : ℕ := if r.full then size else r.idx

/-- The item that will be replaced first. -/
def oldest (r : SlotRing α) : Option α := r.slots[if r.full then r.idx else 0]?

/-- The last items of a sequence. -/
def window (size : ℕ) (past : List α) : List α := past.drop (past.length - size)

theorem getElem?_put {slots : List α} {i : ℕ} (hi : i ≤ slots.length) (a : α) (k : ℕ) :
    (put slots i a)[k]? = if k = i then some a else slots[k]? := by
  rw [put]
  split
  · next hlt =>
      rw [List.getElem?_set]
      by_cases hk : k = i
      · rw [if_pos hk.symm, if_pos hlt, if_pos hk]
      · rw [if_neg (Ne.symm hk), if_neg hk]
  · next hge =>
      have hlength : i = slots.length := Nat.le_antisymm hi (Nat.le_of_not_lt hge)
      rw [hlength]
      by_cases hk : k = slots.length
      · rw [if_pos hk, hk, List.getElem?_concat_length]
      · rw [if_neg hk, List.getElem?_append]
        split
        · rfl
        · next hout =>
            rw [List.getElem?_eq_none_iff.mpr (Nat.le_of_not_lt hout), List.getElem?_eq_none_iff]
            rw [List.length_singleton]
            omega

/-- The ring keeps the last items of the sequence, each in its slot. -/
structure Holds (size : ℕ) (r : SlotRing α) (past : List α) : Prop where
  idx : r.idx = past.length % size
  full : r.full = true ↔ size ≤ past.length
  length : r.slots.length = min past.length size
  slots : ∀ j < past.length, past.length ≤ j + size → r.slots[j % size]? = past[j]?

theorem holds_empty (hsize : 0 < size) : Holds size (empty : SlotRing α) [] where
  idx := (Nat.zero_mod size).symm
  full := by
    rw [List.length_nil, Nat.le_zero]
    exact ⟨fun h => absurd h Bool.false_ne_true, fun h => absurd h (Nat.ne_of_gt hsize)⟩
  length := (Nat.zero_min size).symm
  slots j hj := absurd hj (Nat.not_lt_zero j)

theorem idx_le (hsize : 0 < size) (h : Holds size r past) : r.idx ≤ r.slots.length := by
  rw [h.idx, h.length]
  exact le_min (Nat.mod_le _ _) (Nat.mod_lt _ hsize).le

/-- Items of one window have slots of their own. -/
theorem mod_ne_of_window {j n : ℕ} (hlt : j < n) (hwindow : n < j + size) :
    j % size ≠ n % size := by
  intro heq
  have hdvd : size ∣ n - j := (Nat.modEq_iff_dvd' hlt.le).mp heq
  have hle := Nat.le_of_dvd (Nat.sub_pos_of_lt hlt) hdvd
  omega

theorem Holds.push (hsize : 0 < size) (h : Holds size r past) (a : α) :
    Holds size (r.push size a) (past ++ [a]) where
  idx := by
    show (r.idx + 1) % size = _
    rw [h.idx, List.length_append, List.length_singleton, Nat.mod_add_mod]
  full := by
    show (r.full || decide ((r.idx + 1) % size = 0)) = true ↔ _
    rw [Bool.or_eq_true, h.full, decide_eq_true_iff, h.idx, Nat.mod_add_mod,
      List.length_append, List.length_singleton]
    constructor
    · rintro (hle | hround)
      · exact Nat.le_succ_of_le hle
      · exact Nat.le_of_dvd (Nat.succ_pos _) (Nat.dvd_of_mod_eq_zero hround)
    · intro hle
      obtain hlt | heq := Nat.lt_or_eq_of_le hle
      · exact .inl (Nat.le_of_lt_succ hlt)
      · exact .inr (by rw [← heq, Nat.mod_self])
  length := by
    show (put r.slots r.idx a).length = _
    have hidx := idx_le hsize h
    have hlength := h.length
    rw [put, List.length_append, List.length_singleton]
    split
    · next hlt =>
        rw [List.length_set, hlength]
        rw [h.idx, hlength] at hlt
        by_cases hroom : past.length < size
        · rw [Nat.mod_eq_of_lt hroom] at hlt
          omega
        · omega
    · next hge =>
        rw [List.length_append, List.length_singleton, hlength]
        rw [h.idx, hlength] at hge
        have hmod := Nat.mod_lt past.length hsize
        omega
  slots j hj hwindow := by
    rw [List.length_append, List.length_singleton] at hj hwindow
    show (put r.slots r.idx a)[j % size]? = _
    rw [getElem?_put (idx_le hsize h), h.idx]
    obtain hlt | rfl := Nat.lt_or_eq_of_le (Nat.le_of_lt_succ hj)
    · rw [if_neg (mod_ne_of_window hlt (by omega)), List.getElem?_append_left hlt]
      exact h.slots j hlt (by omega)
    · rw [if_pos rfl, List.getElem?_concat_length]

/-- The number of items is that of the window. -/
theorem Holds.count_eq (h : Holds size r past) : r.count size = (window size past).length := by
  rw [count, window, List.length_drop]
  split
  · next hfull =>
      have hle := h.full.mp hfull
      omega
  · next hroom =>
      have hlt : past.length < size := Nat.lt_of_not_le fun hle => hroom (h.full.mpr hle)
      rw [h.idx, Nat.mod_eq_of_lt hlt]
      omega

/-- The oldest item is the first of the window. -/
theorem Holds.oldest_eq (hsize : 0 < size) (h : Holds size r past) :
    r.oldest = (window size past).head? := by
  rw [oldest, window, List.head?_drop]
  cases hpast : past with
  | nil =>
      have hlength : r.slots.length = 0 := by
        rw [h.length, hpast]
        exact Nat.zero_min size
      rw [List.length_eq_zero_iff.mp hlength]
      rfl
  | cons first rest =>
      rw [← hpast]
      have hpos : 0 < past.length := by
        rw [hpast]
        exact Nat.succ_pos _
      split
      · next hfull =>
          have hle := h.full.mp hfull
          rw [h.idx, ← h.slots (past.length - size) (by omega) (by omega), Nat.mod_eq_sub_mod hle]
      · next hroom =>
          have hlt : past.length < size := Nat.lt_of_not_le fun hle => hroom (h.full.mpr hle)
          rw [Nat.sub_eq_zero_of_le hlt.le, ← h.slots 0 hpos (by omega), Nat.zero_mod]

end SlotRing

end CameraStack.Lib
