/-
# String-keyed stores

A store that is written as JSON with sorted keys and read back before every
operation is a finite map from strings that enumerates its entries in key order.
`Std.ExtTreeMap` is such a map and supplies the equations; this module adds the
two kinds of invariant a store carries, one about each entry and one about each
pair of entries under different keys, with one rule per update.
-/

import Mathlib.Logic.Relation
import Mathlib.Order.Basic
import Std.Data.ExtTreeMap

namespace CameraStack.Lib

/-- A finite map from strings, enumerated in key order. -/
abbrev Dict (α : Type) := Std.ExtTreeMap String α

namespace Dict

variable {α : Type} {m : Dict α} {key new : String} {v w : α}

theorem getElem?_insert (m : Dict α) (key a : String) (v : α) :
    (m.insert key v)[a]? = if key = a then some v else m[a]? := by
  rw [Std.ExtTreeMap.getElem?_insert]
  simp

theorem getElem?_erase (m : Dict α) (key a : String) :
    (m.erase key)[a]? = if key = a then none else m[a]? := by
  rw [Std.ExtTreeMap.getElem?_erase]
  simp

theorem getElem?_filter (m : Dict α) (f : String → α → Bool) (a : String) :
    (m.filter f)[a]? = m[a]?.filter (f a) := by
  rw [Std.ExtTreeMap.getElem?_filter]
  simp

theorem mem_of_getElem? (h : m[key]? = some v) : key ∈ m := by
  rw [Std.ExtTreeMap.mem_iff_isSome_getElem?, h]
  rfl

theorem mem_insert (m : Dict α) (key a : String) (v : α) :
    a ∈ m.insert key v ↔ key = a ∨ a ∈ m := by
  rw [Std.ExtTreeMap.mem_iff_isSome_getElem?, Std.ExtTreeMap.mem_iff_isSome_getElem?,
    getElem?_insert]
  split
  · next heq => simp [heq]
  · next hne => simp [hne]

/-! ## Invariants of the entries -/

/-- The property holds of every entry. -/
def Each (P : String → α → Prop) (m : Dict α) : Prop := ∀ (k : String) v, m[k]? = some v → P k v

/-- The relation holds between the values under any two different keys. -/
def Apart (R : α → α → Prop) (m : Dict α) : Prop :=
  ∀ (k₁ k₂ : String) v₁ v₂, k₁ ≠ k₂ → m[k₁]? = some v₁ → m[k₂]? = some v₂ → R v₁ v₂

variable {P : String → α → Prop} {R : α → α → Prop}

theorem each_empty : Each P (∅ : Dict α) := by
  intro k v h
  simp at h

theorem Each.insert (h : Each P m) (hv : P key v) : Each P (m.insert key v) := by
  intro k w hk
  rw [getElem?_insert] at hk
  split at hk
  · next heq =>
      subst heq
      cases hk
      exact hv
  · exact h k w hk

theorem Each.insertMany (h : Each P m) {entries : List (String × α)}
    (hentries : ∀ entry ∈ entries, P entry.1 entry.2) : Each P (m.insertMany entries) := by
  induction entries generalizing m with
  | nil => rwa [Std.ExtTreeMap.insertMany_nil]
  | cons entry entries ih =>
      rw [Std.ExtTreeMap.insertMany_cons]
      apply ih
      · exact h.insert (hentries entry List.mem_cons_self)
      · exact fun e he => hentries e (List.mem_cons_of_mem _ he)

theorem Each.erase (h : Each P m) (key : String) : Each P (m.erase key) := by
  intro k w hk
  rw [getElem?_erase] at hk
  split at hk
  · cases hk
  · exact h k w hk

theorem Each.filter (h : Each P m) (f : String → α → Bool) : Each P (m.filter f) := by
  intro k w hk
  rw [getElem?_filter, Option.filter_eq_some_iff] at hk
  exact h k w hk.1

theorem apart_empty : Apart R (∅ : Dict α) := by
  intro k₁ k₂ v₁ v₂ _ h
  simp at h

/-- A new or replaced entry must stand apart from the others. -/
theorem Apart.insert (symm : ∀ a b, R a b → R b a) (h : Apart R m)
    (hnew : ∀ k w, k ≠ key → m[k]? = some w → R v w) : Apart R (m.insert key v) := by
  intro k₁ k₂ v₁ v₂ hne h₁ h₂
  rw [getElem?_insert] at h₁ h₂
  by_cases hk₁ : key = k₁
  · subst hk₁
    rw [if_pos rfl] at h₁
    rw [if_neg hne] at h₂
    cases h₁
    exact hnew k₂ v₂ (Ne.symm hne) h₂
  · rw [if_neg hk₁] at h₁
    by_cases hk₂ : key = k₂
    · subst hk₂
      rw [if_pos rfl] at h₂
      cases h₂
      exact symm _ _ (hnew k₁ v₁ hne h₁)
    · rw [if_neg hk₂] at h₂
      exact h k₁ k₂ v₁ v₂ hne h₁ h₂

theorem Apart.erase (h : Apart R m) (key : String) : Apart R (m.erase key) := by
  intro k₁ k₂ v₁ v₂ hne h₁ h₂
  rw [getElem?_erase] at h₁ h₂
  split at h₁
  · cases h₁
  · split at h₂
    · cases h₂
    · exact h k₁ k₂ v₁ v₂ hne h₁ h₂

theorem Apart.filter (h : Apart R m) (f : String → α → Bool) : Apart R (m.filter f) := by
  intro k₁ k₂ v₁ v₂ hne h₁ h₂
  rw [getElem?_filter, Option.filter_eq_some_iff] at h₁ h₂
  exact h k₁ k₂ v₁ v₂ hne h₁.1 h₂.1

/-- Moving a value to another key, possibly changing it on the way. -/
theorem Apart.rekey (symm : ∀ a b, R a b → R b a) (h : Apart R m) (hv : m[key]? = some v)
    (hsame : ∀ b, R v b → R w b) : Apart R ((m.erase key).insert new w) := by
  apply (h.erase key).insert symm
  intro k b _ hb
  rw [getElem?_erase] at hb
  split at hb
  · cases hb
  · next hne => exact hsame b (h key k v b hne hv hb)

/-! ## Stores of resources

Every entry holds a resource.  The moves are the updates that keep the resources
admissible and in a symmetric relation to each other. -/

/-- One update of a store whose entries hold resources `res v`. -/
inductive Move {ρ : Type} (res : α → ρ) (A : ρ → Prop) (R : ρ → ρ → Prop) :
    Dict α → Dict α → Prop
  | keep (m : Dict α) : Move res A R m m
  | put (m : Dict α) (key : String) (v : α) (hadmissible : A (res v))
      (hfree : ∀ (k : String) w, k ≠ key → m[k]? = some w → R (res v) (res w)) :
      Move res A R m (m.insert key v)
  | update (m : Dict α) (key : String) (v w : α) (hv : m[key]? = some v)
      (hres : res w = res v) : Move res A R m (m.insert key w)
  | drop (m : Dict α) (key : String) : Move res A R m (m.erase key)
  | select (m : Dict α) (f : String → α → Bool) : Move res A R m (m.filter f)
  | rekey (m : Dict α) (key new : String) (v w : α) (hv : m[key]? = some v)
      (hres : res w = res v) : Move res A R m ((m.erase key).insert new w)

/-- The invariant the moves keep: admissible resources, pairwise related. -/
structure Sound {ρ : Type} (res : α → ρ) (A : ρ → Prop) (R : ρ → ρ → Prop) (m : Dict α) :
    Prop where
  each : Each (fun _ v => A (res v)) m
  apart : Apart (fun v w => R (res v) (res w)) m

theorem sound_empty {ρ : Type} (res : α → ρ) (A : ρ → Prop) (R : ρ → ρ → Prop) :
    Sound res A R (∅ : Dict α) := ⟨each_empty, apart_empty⟩

theorem Move.sound {ρ : Type} {res : α → ρ} {A : ρ → Prop} {R : ρ → ρ → Prop}
    (symm : ∀ a b, R a b → R b a) {m m' : Dict α} (move : Move res A R m m')
    (h : Sound res A R m) : Sound res A R m' := by
  have symm' : ∀ v w : α, R (res v) (res w) → R (res w) (res v) := fun v w => symm _ _
  cases move with
  | keep => exact h
  | put key v hadmissible hfree =>
      exact ⟨h.each.insert hadmissible, h.apart.insert symm' hfree⟩
  | update key v w hv hres =>
      constructor
      · apply h.each.insert
        rw [hres]
        exact h.each key v hv
      · apply h.apart.insert symm'
        intro k b hne hb
        rw [hres]
        exact h.apart key k v b (Ne.symm hne) hv hb
  | drop key => exact ⟨h.each.erase key, h.apart.erase key⟩
  | select f => exact ⟨h.each.filter f, h.apart.filter f⟩
  | rekey key new v w hv hres =>
      constructor
      · apply (h.each.erase key).insert
        rw [hres]
        exact h.each key v hv
      · apply h.apart.rekey symm' hv
        intro b hb
        rw [hres]
        exact hb

/-- Any number of moves keep the invariant. -/
theorem sound_of_moves {ρ : Type} {res : α → ρ} {A : ρ → Prop} {R : ρ → ρ → Prop}
    (symm : ∀ a b, R a b → R b a) {m m' : Dict α}
    (moves : Relation.ReflTransGen (Move res A R) m m') (h : Sound res A R m) :
    Sound res A R m' := by
  induction moves with
  | refl => exact h
  | tail _ move ih => exact move.sound symm ih

/-! ## Enumeration -/

theorem Each.toList (h : Each P m) : ∀ entry ∈ m.toList, P entry.1 entry.2 :=
  fun entry hentry => h entry.1 entry.2 (Std.ExtTreeMap.mem_toList_iff_getElem?_eq_some.mp hentry)

/-- Inserting the enumeration of a store builds the store. -/
theorem insertMany_toList (m : Dict α) : (∅ : Dict α).insertMany m.toList = m := by
  apply Std.ExtTreeMap.ext_getElem?
  intro k
  cases hk : m[k]? with
  | some v =>
      exact Std.ExtTreeMap.getElem?_insertMany_list_of_mem (by simp)
        Std.ExtTreeMap.distinct_keys_toList
        (Std.ExtTreeMap.mem_toList_iff_getElem?_eq_some.mpr hk)
  | none =>
      rw [Std.ExtTreeMap.getElem?_insertMany_list_of_contains_eq_false]
      · simp
      · rw [← Bool.not_eq_true, List.contains_iff_mem]
        intro hmem
        rcases List.mem_map.mp hmem with ⟨entry, hentry, rfl⟩
        rw [Std.ExtTreeMap.mem_toList_iff_getElem?_eq_some, hk] at hentry
        cases hentry

/-- Inserted entries lie over the store; among themselves the later one wins. -/
theorem getElem?_insertMany (m : Dict α) (entries : List (String × α)) (a : String) :
    (m.insertMany entries)[a]? = ((∅ : Dict α).insertMany entries)[a]?.or m[a]? := by
  have hlift : ∀ (entries : List (String × α)) (m₁ m₂ : Dict α),
      (m₁[a]? = m₂[a]?.or m[a]?) →
        (m₁.insertMany entries)[a]? = (m₂.insertMany entries)[a]?.or m[a]? := by
    intro entries
    induction entries with
    | nil =>
        intro m₁ m₂ h
        rwa [Std.ExtTreeMap.insertMany_nil, Std.ExtTreeMap.insertMany_nil]
    | cons entry entries ih =>
        intro m₁ m₂ h
        rw [Std.ExtTreeMap.insertMany_cons, Std.ExtTreeMap.insertMany_cons]
        apply ih
        rw [getElem?_insert, getElem?_insert]
        split
        · rfl
        · exact h
  apply hlift
  simp

/-- Entries under different keys are exactly the pairs of the enumeration. -/
theorem Apart.pairwise_toList (h : Apart R m) :
    m.toList.Pairwise fun a b => R a.2 b.2 := by
  have hdistinct := Std.ExtTreeMap.distinct_keys_toList (t := m)
  apply hdistinct.imp_of_mem
  intro a b ha hb hne
  rw [Std.ExtTreeMap.mem_toList_iff_getElem?_eq_some] at ha hb
  exact h a.1 b.1 a.2 b.2 (fun heq => hne (by simp [heq])) ha hb

/-- The resources of a sound store are pairwise related. -/
theorem Sound.pairwise_toList {ρ : Type} {res : α → ρ} {A : ρ → Prop} {R : ρ → ρ → Prop}
    (h : Sound res A R m) : (m.toList.map fun entry => res entry.2).Pairwise R :=
  List.pairwise_map.mpr h.apart.pairwise_toList

/-- The resources of a sound store are admissible. -/
theorem Sound.forall_toList {ρ : Type} {res : α → ρ} {A : ρ → Prop} {R : ρ → ρ → Prop}
    (h : Sound res A R m) : ∀ r ∈ m.toList.map fun entry => res entry.2, A r := by
  intro r hr
  rcases List.mem_map.mp hr with ⟨entry, hentry, rfl⟩
  exact h.each.toList entry hentry

end Dict

end CameraStack.Lib
