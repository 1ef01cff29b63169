/-
# Dictionaries in insertion order

A dictionary that is written out in the order in which its keys were first set is a list
of entries that holds no key twice.  Setting a key keeps its place; a new key goes last.
-/

import CameraStack.Lib.JsonText

namespace CameraStack.Lib

variable {α : Type}

/-- Set a key in its place, or behind all others. -/
def putEntry (key : String) (v : α) : List (String × α) → List (String × α)
  | [] => [(key, v)]
  | entry :: entries =>
      if entry.1 = key then (key, v) :: entries else entry :: putEntry key v entries

theorem keys_putEntry (key : String) (v : α) (entries : List (String × α)) :
    (putEntry key v entries).map Prod.fst =
      if key ∈ entries.map Prod.fst then entries.map Prod.fst
      else entries.map Prod.fst ++ [key] := by
  induction entries with
  | nil => rfl
  | cons entry entries ih =>
      by_cases hkey : entry.1 = key
      · simp [putEntry, hkey]
      · have hne : key ≠ entry.1 := fun heq => hkey heq.symm
        rw [putEntry, if_neg hkey, List.map_cons, ih]
        simp only [List.map_cons, List.mem_cons, hne, false_or]
        split
        · rfl
        · rfl

/-- A dictionary, by its entries. -/
structure PyDict (α : Type) where
  entries : List (String × α)
  nodup : (entries.map Prod.fst).Nodup

namespace PyDict

variable {d : PyDict α} {key a : String} {v : α}

/-- `{}`. -/
def empty : PyDict α := ⟨[], List.nodup_nil⟩

/-- `d[key] = v`. -/
def set (d : PyDict α) (key : String) (v : α) : PyDict α where
  entries := putEntry key v d.entries
  nodup := by
    rw [keys_putEntry]
    split
    · exact d.nodup
    · next hnew => exact List.nodup_append.mpr ⟨d.nodup, List.nodup_singleton key, by grind⟩

/-- The entries set one after the other. -/
def setMany (d : PyDict α) (entries : List (String × α)) : PyDict α :=
  entries.foldl (fun d entry => d.set entry.1 entry.2) d

/-- `d.get(key)`. -/
def get? (d : PyDict α) (key : String) : Option α := d.entries.lookup key

/-- `d.keys()`. -/
def keys (d : PyDict α) : List String := d.entries.map Prod.fst

theorem lookup_cons_if (name a : String) (w : α) (entries : List (String × α)) :
    ((name, w) :: entries).lookup a = if a = name then some w else entries.lookup a := by
  rw [List.lookup_cons]
  by_cases ha : a = name
  · simp [ha]
  · simp [ha, beq_eq_false_iff_ne.mpr ha]

theorem mem_entries_iff : (key, v) ∈ d.entries ↔ d.get? key = some v := mem_iff_lookup d.nodup

theorem mem_keys_iff : key ∈ d.keys ↔ (d.get? key).isSome = true := by
  rw [keys, get?, List.lookup_isSome_iff]
  simp

theorem get?_set (d : PyDict α) (key a : String) (v : α) :
    (d.set key v).get? a = if a = key then some v else d.get? a := by
  have hput : ∀ entries : List (String × α),
      (putEntry key v entries).lookup a = if a = key then some v else entries.lookup a := by
    intro entries
    induction entries with
    | nil => rw [putEntry, lookup_cons_if]
    | cons entry entries ih =>
        obtain ⟨name, w⟩ := entry
        by_cases hname : name = key
        · subst hname
          rw [putEntry, if_pos rfl, lookup_cons_if, lookup_cons_if]
          split
          · rfl
          · rfl
        · rw [putEntry, if_neg hname, lookup_cons_if, lookup_cons_if, ih]
          by_cases ha : a = name
          · subst ha
            rw [if_pos rfl, if_neg hname, if_pos rfl]
          · rw [if_neg ha, if_neg ha]
  exact hput d.entries

/-- The last of the entries set for a key is found. -/
theorem get?_setMany (d : PyDict α) (entries : List (String × α)) (a : String) :
    (d.setMany entries).get? a = (entries.reverse.lookup a).or (d.get? a) := by
  induction entries generalizing d with
  | nil => rfl
  | cons entry entries ih =>
      rw [setMany, List.foldl_cons]
      have hrest := ih (d.set entry.1 entry.2)
      rw [setMany] at hrest
      rw [hrest, get?_set, List.reverse_cons, List.lookup_append, Option.or_assoc]
      obtain ⟨name, w⟩ := entry
      congr 1
      rw [lookup_cons_if]
      split
      · rfl
      · rfl

theorem eq_iff_entries {other : PyDict α} : d = other ↔ d.entries = other.entries := by
  cases d
  cases other
  exact PyDict.mk.injEq .. |>.to_iff

theorem get?_setMany_of_not_mem {entries : List (String × α)} (h : key ∉ entries.map Prod.fst) :
    (d.setMany entries).get? key = d.get? key := by
  have hnone : entries.reverse.lookup key = none := by
    rw [List.lookup_eq_none_iff]
    intro entry hentry
    rw [bne_iff_ne]
    intro heq
    exact h (List.mem_map.mpr ⟨entry, List.mem_reverse.mp hentry, heq.symm⟩)
  rw [get?_setMany, hnone, Option.none_or]

/-- `d.pop(key, None)`. -/
def erase (d : PyDict α) (key : String) : PyDict α where
  entries := d.entries.filter fun entry => entry.1 ≠ key
  nodup := d.nodup.sublist (List.filter_sublist.map Prod.fst)

theorem get?_erase (d : PyDict α) (key a : String) :
    (d.erase key).get? a = if a = key then none else d.get? a := by
  have hlookup : ∀ entries : List (String × α),
      (entries.filter fun entry => entry.1 ≠ key).lookup a =
        if a = key then none else entries.lookup a := by
    intro entries
    induction entries with
    | nil => simp
    | cons entry entries ih =>
        obtain ⟨name, w⟩ := entry
        by_cases hname : name = key
        · subst hname
          rw [List.filter_cons_of_neg (by simp), ih, lookup_cons_if]
          split
          · rfl
          · rfl
        · rw [List.filter_cons_of_pos (by simpa using hname), lookup_cons_if, lookup_cons_if, ih]
          by_cases ha : a = name
          · subst ha
            rw [if_pos rfl, if_neg hname, if_pos rfl]
          · rw [if_neg ha, if_neg ha]
  exact hlookup d.entries

/-- A new key goes behind the others. -/
theorem entries_set_of_new (hnew : key ∉ d.entries.map Prod.fst) :
    (d.set key v).entries = d.entries ++ [(key, v)] := by
  have hput : ∀ entries : List (String × α), key ∉ entries.map Prod.fst →
      putEntry key v entries = entries ++ [(key, v)] := by
    intro entries hentries
    induction entries with
    | nil => rfl
    | cons entry entries ih =>
        rw [List.map_cons, List.mem_cons, not_or] at hentries
        rw [putEntry, if_neg (Ne.symm hentries.1), ih hentries.2, List.cons_append]
  exact hput d.entries hnew

theorem entries_setMany_append {entries : List (String × α)}
    (h : ((d.entries ++ entries).map Prod.fst).Nodup) :
    (d.setMany entries).entries = d.entries ++ entries := by
  induction entries generalizing d with
  | nil => rw [List.append_nil]; rfl
  | cons entry entries ih =>
      have hnew : entry.1 ∉ d.entries.map Prod.fst := by
        rw [List.map_append, List.map_cons, List.nodup_append] at h
        intro hmem
        exact h.2.2 entry.1 hmem entry.1 List.mem_cons_self rfl
      have hset := entries_set_of_new (v := entry.2) hnew
      have hrest := ih (d := d.set entry.1 entry.2) (by simpa [hset] using h)
      rw [setMany, List.foldl_cons]
      rw [setMany] at hrest
      rw [hrest, hset, List.append_assoc]
      rfl

/-- Entries of different keys make a dictionary as they stand. -/
theorem entries_setMany_empty {entries : List (String × α)}
    (h : (entries.map Prod.fst).Nodup) : (PyDict.empty.setMany entries).entries = entries :=
  entries_setMany_append (d := PyDict.empty) h

end PyDict

/-- A key whose entries all hold one value is found with it. -/
theorem lookup_eq_some_of_forall {entries : List (String × α)} {key : String} {v : α}
    (hmem : ∃ w, (key, w) ∈ entries) (hall : ∀ w, (key, w) ∈ entries → w = v) :
    entries.lookup key = some v := by
  cases hfound : entries.lookup key with
  | none =>
      obtain ⟨w, hw⟩ := hmem
      have hnot := List.lookup_eq_none_iff.mp hfound (key, w) hw
      simp at hnot
  | some w =>
      obtain ⟨front, rest, hsplit, -⟩ := List.lookup_eq_some_iff.mp hfound
      have hw : (key, w) ∈ entries := by
        rw [hsplit]
        simp
      rw [hall w hw]

end CameraStack.Lib
