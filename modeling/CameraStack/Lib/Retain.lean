/-
# Keeping the greatest

A store that holds no more than so many of the items it has ever held, and that never gave
up one with fewer greater ones, holds the greatest of them.
-/

import Mathlib.Data.Finset.Card
import Mathlib.Data.Finset.Max

namespace CameraStack.Lib

variable {α : Type} (r : α → α → Prop) [DecidableRel r]

/-- The items that are greater than this one. -/
def above (items : Finset α) (a : α) : Finset α := items.filter (r a)

variable {r} {items kept : Finset α} {a : α} {k : ℕ}

theorem mem_above {b : α} : b ∈ above r items a ↔ b ∈ items ∧ r a b := Finset.mem_filter

theorem above_mono {more : Finset α} (h : items ⊆ more) (a : α) :
    above r items a ⊆ above r more a :=
  Finset.filter_subset_filter _ h

/-- Going up, fewer are greater. -/
theorem card_above_lt [IsTrans α r] [Std.Irrefl r] {b : α} (hb : b ∈ items) (hab : r a b) :
    (above r items b).card < (above r items a).card := by
  apply Finset.card_lt_card
  rw [Finset.ssubset_iff_of_subset]
  · refine ⟨b, mem_above.mpr ⟨hb, hab⟩, ?_⟩
    intro hself
    exact Std.Irrefl.irrefl b (mem_above.mp hself).2
  · intro c hc
    rw [mem_above] at hc ⊢
    exact ⟨hc.1, Trans.trans hab hc.2⟩

/-- The store holds exactly the items with fewer than `k` greater ones. -/
theorem mem_iff_card_above_lt [DecidableEq α] [IsTrans α r] [Std.Irrefl r]
    (hcard : kept.card ≤ k) (hgone : ∀ b ∈ items, b ∉ kept → k ≤ (above r items b).card)
    (ha : a ∈ items) : a ∈ kept ↔ (above r items a).card < k := by
  constructor
  · intro hmem
    by_contra hmany
    -- The last one of `a` and the greater ones that were given up: what is above it is kept.
    obtain ⟨last, hlast, hleast⟩ := Finset.exists_min_image
      (insert a ((above r items a).filter (· ∉ kept))) (fun b => (above r items b).card)
      ⟨a, Finset.mem_insert_self _ _⟩
    have hkept : above r items last ⊆ kept := by
      intro c hc
      by_contra hout
      obtain ⟨hitems, hgreater⟩ := mem_above.mp hc
      have hac : r a c := by
        rw [Finset.mem_insert, Finset.mem_filter, mem_above] at hlast
        obtain rfl | ⟨⟨-, halast⟩, -⟩ := hlast
        · exact hgreater
        · exact Trans.trans halast hgreater
      have hle := hleast c (Finset.mem_insert_of_mem
        (Finset.mem_filter.mpr ⟨mem_above.mpr ⟨hitems, hac⟩, hout⟩))
      exact absurd (card_above_lt hitems hgreater) (Nat.not_lt.mpr hle)
    have hfull : k ≤ (above r items last).card ∧ a ∉ above r items last := by
      rw [Finset.mem_insert, Finset.mem_filter, mem_above] at hlast
      obtain rfl | ⟨⟨hitems, halast⟩, hout⟩ := hlast
      · exact ⟨Nat.le_of_not_lt hmany, fun h => Std.Irrefl.irrefl last (mem_above.mp h).2⟩
      · refine ⟨hgone last hitems hout, fun h => ?_⟩
        exact Std.Irrefl.irrefl a (Trans.trans halast (mem_above.mp h).2)
    have hle := Finset.card_le_card (Finset.insert_subset hmem hkept)
    rw [Finset.card_insert_of_notMem hfull.2] at hle
    omega
  · intro hfew
    by_contra hout
    exact absurd (hgone a ha hout) (Nat.not_le.mpr hfew)

end CameraStack.Lib
