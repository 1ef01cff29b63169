/-
# Tables of the newest

Parties register under a key in the order in which they come, and a table has one place for each
key: a party takes the place of the one before it, and gives it up when it leaves, if it still has
it.  Then the table has the newest party of each key, while that is there; the older ones are in no
place, whether they are there or not.
-/

import CameraStack.Lib.Dict

namespace CameraStack.Lib.Dict

/-- Under each key the table has the place of the last party of that key, while it is there. -/
def Newest (parties : List (String × Bool)) (table : Dict ℕ) : Prop :=
  ∀ (key : String) i, table[key]? = some i ↔
    parties[i]? = some (key, true) ∧ ∀ k present, i < k → parties[k]? ≠ some (key, present)

variable {parties : List (String × Bool)} {table : Dict ℕ} {key : String} {i : ℕ}

theorem newest_nil : Newest [] (∅ : Dict ℕ) := by
  intro key i
  simp

/-- An entry behind one more is an earlier entry, or the new one. -/
theorem getElem?_concat_eq_some {α : Type} {l : List α} {a b : α} {k : ℕ} :
    (l ++ [a])[k]? = some b ↔ l[k]? = some b ∨ k = l.length ∧ b = a := by
  rcases Nat.lt_trichotomy k l.length with hlt | heq | hgt
  · rw [List.getElem?_append_left hlt]
    simp [Nat.ne_of_lt hlt]
  · simp [heq, eq_comm]
  · have hout : (l ++ [a])[k]? = none := by
      rw [List.getElem?_eq_none_iff, List.length_append, List.length_singleton]
      exact hgt
    simp [hout, List.getElem?_eq_none_iff.mpr (Nat.le_of_lt hgt), Nat.ne_of_gt hgt]

/-- A party that comes takes the place of its key. -/
theorem Newest.come (h : Newest parties table) (key : String) :
    Newest (parties ++ [(key, true)]) (table.insert key parties.length) := by
  intro other i
  rw [getElem?_insert, getElem?_concat_eq_some]
  split_ifs with hkey
  · subst hkey
    constructor
    · rintro ⟨⟩
      refine ⟨.inr ⟨rfl, rfl⟩, fun k present hlt hk => ?_⟩
      rcases getElem?_concat_eq_some.mp hk with hold | ⟨rfl, -⟩
      · exact absurd (List.getElem?_eq_some_iff.mp hold).1 (Nat.lt_asymm hlt)
      · exact Nat.lt_irrefl _ hlt
    · rintro ⟨hold | ⟨rfl, -⟩, hlast⟩
      · have hlt := (List.getElem?_eq_some_iff.mp hold).1
        exact absurd (getElem?_concat_eq_some.mpr (.inr ⟨rfl, rfl⟩)) (hlast _ true hlt)
      · rfl
  · rw [h other i]
    constructor
    · rintro ⟨hi, hlast⟩
      refine ⟨.inl hi, fun k present hlt hk => ?_⟩
      rcases getElem?_concat_eq_some.mp hk with hold | ⟨-, heq⟩
      · exact hlast k present hlt hold
      · exact hkey (Prod.mk.inj heq).1.symm
    · rintro ⟨hold | ⟨-, heq⟩, hlast⟩
      · exact ⟨hold, fun k present hlt hk =>
          hlast k present hlt (getElem?_concat_eq_some.mpr (.inl hk))⟩
      · exact absurd (Prod.mk.inj heq).1.symm hkey

/-- A place belongs to the key of its party. -/
theorem Newest.key_eq (h : Newest parties table) {present : Bool}
    (hi : parties[i]? = some (key, present)) {other : String} (hplace : table[other]? = some i) :
    other = key := by
  have hparty := ((h other i).mp hplace).1
  rw [hi] at hparty
  exact (Prod.mk.inj (Option.some.inj hparty)).1.symm

/-- A party that leaves takes its own place away, and no other. -/
theorem Newest.getElem?_leave (h : Newest parties table) {present : Bool}
    (hi : parties[i]? = some (key, present)) (other : String) (j : ℕ) :
    (if table[key]? = some i then table.erase key else table)[other]? = some j ↔
      table[other]? = some j ∧ j ≠ i := by
  split_ifs with hplace
  · rw [getElem?_erase]
    split_ifs with hkey
    · subst hkey
      simp [hplace, eq_comm]
    · exact ⟨fun hj => ⟨hj, fun hne => hkey (h.key_eq hi (hne ▸ hj)).symm⟩, And.left⟩
  · refine ⟨fun hj => ⟨hj, fun hne => hplace ?_⟩, And.left⟩
    rw [hne] at hj
    rwa [h.key_eq hi hj] at hj

/-- A party that leaves stays one of its key. -/
theorem exists_getElem?_leave {present : Bool} (hi : parties[i]? = some (key, present)) (k : ℕ)
    (other : String) : (∃ p, (parties.set i (key, false))[k]? = some (other, p)) ↔
      ∃ p, parties[k]? = some (other, p) := by
  have hbound := (List.getElem?_eq_some_iff.mp hi).1
  rw [List.getElem?_set]
  split_ifs with hk
  · subst hk
    rw [hi]
    simp
  · exact Iff.rfl

/-- A party that leaves gives up its place, if it has one. -/
theorem Newest.leave (h : Newest parties table) {present : Bool}
    (hi : parties[i]? = some (key, present)) :
    Newest (parties.set i (key, false))
      (if table[key]? = some i then table.erase key else table) := by
  intro other j
  rw [h.getElem?_leave hi, h other j]
  constructor
  · rintro ⟨⟨hj, hlast⟩, hne⟩
    refine ⟨?_, fun k p hlt hk => ?_⟩
    · rw [List.getElem?_set_ne (Ne.symm hne)]
      exact hj
    · obtain ⟨p', hk'⟩ := (exists_getElem?_leave hi k other).mp ⟨p, hk⟩
      exact hlast k p' hlt hk'
  · rintro ⟨hj, hlast⟩
    have hne : j ≠ i := by
      rintro rfl
      rw [List.getElem?_set_self (List.getElem?_eq_some_iff.mp hi).1] at hj
      cases hj
    rw [List.getElem?_set_ne (Ne.symm hne)] at hj
    refine ⟨⟨hj, fun k p hlt hk => ?_⟩, hne⟩
    obtain ⟨p', hk'⟩ := (exists_getElem?_leave hi k other).mpr ⟨p, hk⟩
    exact hlast k p' hlt hk'

/-- An older party has no place. -/
theorem Newest.not_older (h : Newest parties table) {k : ℕ} {present : Bool} (hlt : i < k)
    (hk : parties[k]? = some (key, present)) : table[key]? ≠ some i :=
  fun hi => ((h key i).mp hi).2 k present hlt hk

end CameraStack.Lib.Dict
