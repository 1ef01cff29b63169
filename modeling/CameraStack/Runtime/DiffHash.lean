/-
# The hash a confirmation is bound to

A validated change is named by one hash over two documents: the patch, with its numbers
normalised, and the hashes of the files it was validated against.  Both are written by a
compact encoder with sorted keys, one line each.

The scanner tells the first document from the second and gives both back, so two payloads
are equal only for the same patch and the same files.
-/

import CameraStack.Lib.Dict
import CameraStack.Lib.JsonRoundTrip
import CameraStack.Lib.JsonSame
import CameraStack.Lib.PyNumber
import CameraStack.Lib.Utf8

namespace CameraStack.Runtime.DiffHash

open CameraStack.Lib

variable {F : Type} [FloatNumber F]

/-! ## Normal form -/

mutual

/-- `_normalize`: a finite float without a fraction becomes an integer. -/
def normalize : JsonValue F → JsonValue F
  | .float (.finite x) =>
      if FloatNumber.isInteger x then .int (FloatNumber.truncate x) else .float (.finite x)
  | .arr items => .arr (normalizeItems items)
  | .obj members => .obj (normalizeMembers members)
  | value => value

@[inherit_doc normalize]
def normalizeItems : List (JsonValue F) → List (JsonValue F)
  | [] => []
  | item :: items => normalize item :: normalizeItems items

@[inherit_doc normalize]
def normalizeMembers : List (Text × JsonValue F) → List (Text × JsonValue F)
  | [] => []
  | (key, value) :: members => (key, normalize value) :: normalizeMembers members

end

/-- `_canon`; `none` is the `ValueError` of an integer that is too long. -/
def canon (value : JsonValue F) : Option Text := JsonStyle.compact.dumps (normalize value)

/-- A dictionary of texts as a value. -/
def ofDict (d : Dict String) : JsonValue F :=
  .obj (d.toList.map fun entry => (entry.1.toList, .str entry.2.toList))

/-- `compute_diff_hash`, where `sha256` gives the digest of some bytes in hexadecimal. -/
def computeDiffHash (sha256 : List UInt8 → Text) (patch fhb : JsonValue F) : Option Text :=
  match canon patch, canon fhb with
  | some p, some f => some ("sha256:".toList ++ sha256 (encodeUtf8 (p ++ '\n' :: f)))
  | _, _ => none

/-! ## Normalising keeps the keys -/

theorem normalizeMembers_eq_map (members : List (Text × JsonValue F)) :
    normalizeMembers members = members.map fun m => (m.1, normalize m.2) := by
  induction members with
  | nil => rfl
  | cons m members ih => rw [normalizeMembers, ih, List.map_cons]

theorem map_fst_normalizeMembers (members : List (Text × JsonValue F)) :
    (normalizeMembers members).map Prod.fst = members.map Prod.fst := by
  rw [normalizeMembers_eq_map, List.map_map]
  rfl

mutual

theorem distinct_normalize : ∀ {v : JsonValue F}, v.Distinct → (normalize v).Distinct
  | .float (.finite x), _ => by
      rw [normalize]
      split
      · trivial
      · trivial
  | .float .infinity, _ | .float .negInfinity, _ | .float .nan, _ => trivial
  | .arr _, h => distinct_normalizeItems h
  | .obj members, h => by
      have hkeys : ((normalizeMembers members).map Prod.fst).Nodup := by
        rw [map_fst_normalizeMembers]
        exact h.1
      exact ⟨hkeys, distinct_normalizeMembers h.2⟩
  | .null, _ | .bool _, _ | .int _, _ | .str _, _ => trivial

theorem distinct_normalizeItems : ∀ {items : List (JsonValue F)},
    JsonValue.DistinctItems items → JsonValue.DistinctItems (normalizeItems items)
  | [], _ => trivial
  | _ :: _, h => ⟨distinct_normalize h.1, distinct_normalizeItems h.2⟩

theorem distinct_normalizeMembers : ∀ {members : List (Text × JsonValue F)},
    JsonValue.DistinctMembers members → JsonValue.DistinctMembers (normalizeMembers members)
  | [], _ => trivial
  | (_, _) :: _, h => ⟨distinct_normalize h.1, distinct_normalizeMembers h.2⟩

end

mutual

/-- What is normalised stays. -/
theorem normalize_normalize : ∀ v : JsonValue F, normalize (normalize v) = normalize v
  | .float (.finite x) => by
      by_cases hx : FloatNumber.isInteger x = true
      · rw [normalize, if_pos hx, normalize]
        all_goals intros; contradiction
      · rw [normalize, if_neg hx, normalize, if_neg hx]
  | .float .infinity | .float .negInfinity | .float .nan => rfl
  | .arr items => congrArg JsonValue.arr (normalizeItems_normalizeItems items)
  | .obj members => congrArg JsonValue.obj (normalizeMembers_normalizeMembers members)
  | .null | .bool _ | .int _ | .str _ => rfl

theorem normalizeItems_normalizeItems : ∀ items : List (JsonValue F),
    normalizeItems (normalizeItems items) = normalizeItems items
  | [] => rfl
  | item :: items => by
      rw [normalizeItems, normalizeItems, normalize_normalize item,
        normalizeItems_normalizeItems items]

theorem normalizeMembers_normalizeMembers : ∀ members : List (Text × JsonValue F),
    normalizeMembers (normalizeMembers members) = normalizeMembers members
  | [] => rfl
  | (key, value) :: members => by
      rw [normalizeMembers, normalizeMembers, normalize_normalize value,
        normalizeMembers_normalizeMembers members]

end

mutual

/-- Normalising looks at no order. -/
theorem normalize_sorted : ∀ v : JsonValue F, normalize v.sorted = (normalize v).sorted
  | .float (.finite x) => by
      rw [JsonValue.sorted, normalize]
      · split
        · rfl
        · rfl
      all_goals intros; contradiction
  | .float .infinity | .float .negInfinity | .float .nan => rfl
  | .arr items => congrArg JsonValue.arr (normalizeItems_sortedItems items)
  | .obj members => by
      rw [JsonValue.sorted, normalize, normalize, JsonValue.sorted,
        ← normalizeMembers_sortedMembers members, normalizeMembers_eq_map,
        normalizeMembers_eq_map]
      congr 1
      apply List.map_insertionSort
      intro a _ b _
      exact Iff.rfl
  | .null | .bool _ | .int _ | .str _ => rfl

theorem normalizeItems_sortedItems : ∀ items : List (JsonValue F),
    normalizeItems (JsonValue.sortedItems items) = JsonValue.sortedItems (normalizeItems items)
  | [] => rfl
  | item :: items => by
      rw [JsonValue.sortedItems, normalizeItems, normalizeItems, JsonValue.sortedItems,
        normalize_sorted item, normalizeItems_sortedItems items]

theorem normalizeMembers_sortedMembers : ∀ members : List (Text × JsonValue F),
    normalizeMembers (JsonValue.sortedMembers members) =
      JsonValue.sortedMembers (normalizeMembers members)
  | [] => rfl
  | (key, value) :: members => by
      rw [JsonValue.sortedMembers, normalizeMembers, normalizeMembers, JsonValue.sortedMembers,
        normalize_sorted value, normalizeMembers_sortedMembers members]

end

/-! ## The payload -/

variable {p q v : JsonValue F} {text text' rest rest' : Text}

theorem canon_eq_some :
    canon v = some text ↔
      (normalize v).short = true ∧ text = JsonStyle.compact.encode 0 (normalize v).sorted := by
  rw [canon, JsonStyle.dumps]
  split
  · next hshort =>
      rw [Option.some.injEq, and_iff_right hshort]
      exact eq_comm
  · next hshort => simp [hshort]

/-- A document is told from what follows it in the payload. -/
theorem document_inj (hp : p.Distinct) (hq : q.Distinct) (hcanon : canon p = some text)
    (hcanon' : canon q = some text') (h : text ++ '\n' :: rest = text' ++ '\n' :: rest') :
    (normalize p).sorted = (normalize q).sorted ∧ rest = rest' := by
  have hscan : ∀ {v : JsonValue F} {text : Text}, v.Distinct → canon v = some text →
      ∀ fuel limit rest, (normalize v).sorted.depth ≤ limit → (normalize v).sorted.calls ≤ fuel →
        scanValue fuel limit (text ++ '\n' :: rest) = .ok ((normalize v).sorted, '\n' :: rest) := by
    intro v text hdistinct htext fuel limit rest hdepth hcalls
    obtain ⟨hshort, rfl⟩ := canon_eq_some.mp htext
    apply scanValue_encode JsonStyle.compact _ 0 fuel limit _ _ _ hdepth hcalls
    · exact stops_cons rest (by decide)
    · exact JsonValue.distinct_sorted (distinct_normalize hdistinct)
    · exact JsonValue.short_sorted hshort
  have hfirst := hscan hp hcanon
    (max (normalize p).sorted.calls (normalize q).sorted.calls)
    (max (normalize p).sorted.depth (normalize q).sorted.depth) rest
    (Nat.le_max_left _ _) (Nat.le_max_left _ _)
  have hsecond := hscan hq hcanon'
    (max (normalize p).sorted.calls (normalize q).sorted.calls)
    (max (normalize p).sorted.depth (normalize q).sorted.depth) rest'
    (Nat.le_max_right _ _) (Nat.le_max_right _ _)
  rw [h, hsecond, Except.ok.injEq, Prod.mk.injEq, List.cons.injEq] at hfirst
  exact ⟨hfirst.1.symm, hfirst.2.2.symm⟩

/-- Two documents are one exactly when their values are the same up to the order of keys. -/
theorem canon_inj (hp : p.Distinct) (hq : q.Distinct) (hcanon : canon p = some text)
    (hcanon' : canon q = some text') :
    text = text' ↔ JsonValue.Same (normalize p) (normalize q) := by
  rw [JsonValue.same_iff (distinct_normalize hp) (distinct_normalize hq)]
  constructor
  · intro heq
    have hpayload : text ++ '\n' :: [] = text' ++ '\n' :: [] := by rw [heq]
    exact (document_inj hp hq hcanon hcanon' hpayload).1
  · intro hsorted
    rw [(canon_eq_some.mp hcanon).2, (canon_eq_some.mp hcanon').2, hsorted]

/-- The document of a value is that of its sorted normal form. -/
theorem canon_sorted_normalize (hcanon : canon v = some text) :
    canon (normalize v).sorted = some text := by
  obtain ⟨hshort, rfl⟩ := canon_eq_some.mp hcanon
  apply canon_eq_some.mpr
  rw [normalize_sorted, normalize_normalize, JsonValue.sorted_sorted]
  exact ⟨JsonValue.short_sorted hshort, rfl⟩

/-! ## Hashes of files -/

variable {f g : Dict String} {key value : String}

omit [FloatNumber F] in
theorem distinct_ofDict (f : Dict String) : (ofDict f : JsonValue F).Distinct := by
  have hkeys : ((f.toList.map fun entry => (entry.1.toList,
      (JsonValue.str entry.2.toList : JsonValue F))).map Prod.fst).Nodup := by
    rw [List.map_map]
    have hdistinct := Std.ExtTreeMap.distinct_keys_toList (t := f)
    apply List.pairwise_map.mpr
    apply hdistinct.imp
    intro a b hab heq
    exact hab (by simp [String.toList_inj.mp heq])
  have hmembers : JsonValue.DistinctMembers (f.toList.map fun entry => (entry.1.toList,
      (JsonValue.str entry.2.toList : JsonValue F))) := by
    apply JsonValue.distinctMembers_iff.mpr
    intro m hm
    obtain ⟨entry, -, rfl⟩ := List.mem_map.mp hm
    trivial
  exact ⟨hkeys, hmembers⟩

omit [FloatNumber F] in
theorem mem_ofDict {members : List (Text × JsonValue F)} (h : ofDict f = .obj members) :
    (key.toList, JsonValue.str value.toList) ∈ members ↔ f[key]? = some value := by
  cases h
  rw [List.mem_map, ← Std.ExtTreeMap.mem_toList_iff_getElem?_eq_some]
  constructor
  · rintro ⟨⟨name, found⟩, hmem, heq⟩
    rw [Prod.mk.injEq, JsonValue.str.injEq, String.toList_inj, String.toList_inj] at heq
    rw [← heq.1, ← heq.2]
    exact hmem
  · intro hmem
    exact ⟨(key, value), hmem, rfl⟩

/-- Hashes of files hold nothing to normalise or to sort. -/
theorem normalize_ofDict (f : Dict String) : normalize (ofDict f : JsonValue F) = ofDict f := by
  rw [ofDict, normalize, normalizeMembers_eq_map, List.map_map]
  rfl

omit [FloatNumber F] in
theorem short_ofDict (f : Dict String) : (ofDict f : JsonValue F).short = true := by
  rw [ofDict, JsonValue.short, JsonValue.shortMembers_iff]
  intro m hm
  obtain ⟨entry, -, rfl⟩ := List.mem_map.mp hm
  rfl

theorem canon_ofDict (f : Dict String) : ∃ text, canon (ofDict f : JsonValue F) = some text :=
  ⟨_, canon_eq_some.mpr ⟨by rw [normalize_ofDict]; exact short_ofDict f, rfl⟩⟩

omit [FloatNumber F] in
theorem sorted_ofDict_inj (h : (ofDict f : JsonValue F).sorted = (ofDict g).sorted) : f = g := by
  have hmem : ∀ (d : Dict String) (m : Text × JsonValue F),
      m ∈ (JsonValue.sortedMembers (d.toList.map fun entry => (entry.1.toList,
        JsonValue.str entry.2.toList))).insertionSort (fun a b => a.1 ≤ b.1) ↔
      m ∈ d.toList.map fun entry => (entry.1.toList, JsonValue.str entry.2.toList) := by
    intro d m
    rw [(JsonValue.perm_sorted _).mem_iff, JsonValue.sortedMembers_eq_map, List.map_map]
    exact Iff.rfl
  rw [ofDict, ofDict, JsonValue.sorted, JsonValue.sorted, JsonValue.obj.injEq] at h
  apply Std.ExtTreeMap.ext_getElem?
  intro key
  apply Option.ext
  intro value
  rw [← mem_ofDict (F := F) rfl, ← mem_ofDict (F := F) rfl, ← hmem f, ← hmem g, h]

/-! ## The hash -/

variable {sha256 : List UInt8 → Text} {h h' : Text}

theorem computeDiffHash_eq_some {fhb : JsonValue F} :
    computeDiffHash sha256 p fhb = some h ↔
      ∃ first second, canon p = some first ∧ canon fhb = some second ∧
        h = "sha256:".toList ++ sha256 (encodeUtf8 (first ++ '\n' :: second)) := by
  rw [computeDiffHash]
  constructor
  · intro heq
    split at heq
    · next first second hfirst hsecond =>
        cases heq
        exact ⟨first, second, hfirst, hsecond, rfl⟩
    · cases heq
  · rintro ⟨first, second, hfirst, hsecond, rfl⟩
    rw [hfirst, hsecond]

/-- Two hashes are equal exactly for the same patch and the same files. -/
theorem computeDiffHash_inj (hinj : Function.Injective sha256) (hp : p.Distinct)
    (hq : q.Distinct) (hhash : computeDiffHash sha256 p (ofDict f) = some h)
    (hhash' : computeDiffHash sha256 q (ofDict g) = some h') :
    h = h' ↔ JsonValue.Same (normalize p) (normalize q) ∧ f = g := by
  obtain ⟨first, second, hfirst, hsecond, rfl⟩ := computeDiffHash_eq_some.mp hhash
  obtain ⟨first', second', hfirst', hsecond', rfl⟩ := computeDiffHash_eq_some.mp hhash'
  rw [List.append_cancel_left_eq, hinj.eq_iff, encodeUtf8_injective.eq_iff,
    ← canon_inj hp hq hfirst hfirst']
  constructor
  · intro heq
    obtain ⟨hsorted, hrest⟩ := document_inj hp hq hfirst hfirst' heq
    have hfiles := (canon_inj (distinct_ofDict f) (distinct_ofDict g) hsecond hsecond').mp hrest
    rw [JsonValue.same_iff (distinct_normalize (distinct_ofDict f))
      (distinct_normalize (distinct_ofDict g)), normalize_ofDict, normalize_ofDict] at hfiles
    have htext : first = first' := by
      rw [(canon_eq_some.mp hfirst).2, (canon_eq_some.mp hfirst').2, hsorted]
    exact ⟨htext, sorted_ofDict_inj hfiles⟩
  · rintro ⟨rfl, rfl⟩
    rw [hsecond, Option.some.injEq] at hsecond'
    rw [hsecond']

end CameraStack.Runtime.DiffHash
