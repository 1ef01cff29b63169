/-
# The same value in another order

Two values are the same when they differ in nothing but the order of the members of their objects.
Sorting brings the same values into one form, and no others.
-/

import CameraStack.Lib.JsonScan
import Mathlib.Data.List.Perm.Basic

namespace CameraStack.Lib

/-! ## Lists up to their order -/

/-- A list whose images are those of another in some order can be put into that order. -/
theorem exists_perm_of_map_perm {A B : Type} {f : A → B} {l l' : List A}
    (h : (l.map f).Perm (l'.map f)) : ∃ r, l.Perm r ∧ r.map f = l'.map f := by
  have hleft : List.Forall₂ (fun a b => f a = b) l (l.map f) :=
    List.forall₂_map_right_iff.mpr (List.forall₂_same.mpr fun _ _ => rfl)
  have hcomp : Relation.Comp (List.Forall₂ fun a b => f a = b) List.Perm l (l'.map f) :=
    ⟨l.map f, hleft, h⟩
  rw [List.forall₂_comp_perm_eq_perm_comp_forall₂] at hcomp
  obtain ⟨r, hperm, hr⟩ := hcomp
  refine ⟨r, hperm, ?_⟩
  have hmap : List.Forall₂ Eq (r.map f) (l'.map f) := List.forall₂_map_left_iff.mpr hr
  rwa [List.forall₂_eq_eq_eq] at hmap

namespace JsonValue

variable {F : Type}

/-! ## Same values -/

mutual

/-- Two values differ in nothing but the order of members. -/
def Same : JsonValue F → JsonValue F → Prop
  | .arr items, other => ∃ others, other = .arr others ∧ SameItems items others
  | .obj members, other =>
      ∃ others reordered, other = .obj others ∧ others.Perm reordered ∧
        SameMembers members reordered
  | value, other => other = value

@[inherit_doc Same]
def SameItems : List (JsonValue F) → List (JsonValue F) → Prop
  | [], others => others = []
  | item :: items, others =>
      ∃ other rest, others = other :: rest ∧ Same item other ∧ SameItems items rest

@[inherit_doc Same]
def SameMembers : List (Text × JsonValue F) → List (Text × JsonValue F) → Prop
  | [], others => others = []
  | (key, value) :: members, others =>
      ∃ other rest, others = (key, other) :: rest ∧ Same value other ∧ SameMembers members rest

end

/-! ## Members, one by one -/

theorem sortedMembers_eq_map (members : List (Text × JsonValue F)) :
    sortedMembers members = members.map fun m => (m.1, m.2.sorted) := by
  induction members with
  | nil => rfl
  | cons m members ih =>
      obtain ⟨key, value⟩ := m
      rw [sortedMembers, ih, List.map_cons]

theorem distinctMembers_iff {members : List (Text × JsonValue F)} :
    DistinctMembers members ↔ ∀ m ∈ members, m.2.Distinct := by
  induction members with
  | nil => exact iff_of_true trivial (List.forall_mem_nil _)
  | cons m members ih => rw [List.forall_mem_cons, ← ih, DistinctMembers]

theorem shortMembers_iff {members : List (Text × JsonValue F)} :
    shortMembers members = true ↔ ∀ m ∈ members, m.2.short = true := by
  induction members with
  | nil => exact iff_of_true rfl (List.forall_mem_nil _)
  | cons m members ih => rw [List.forall_mem_cons, ← ih, shortMembers, Bool.and_eq_true]

theorem depthMembers_le_iff {members : List (Text × JsonValue F)} {n : ℕ} :
    depthMembers members ≤ n ↔ ∀ m ∈ members, m.2.depth ≤ n := by
  induction members with
  | nil => exact iff_of_true (Nat.zero_le n) (List.forall_mem_nil _)
  | cons m members ih => rw [List.forall_mem_cons, ← ih, depthMembers, Nat.max_le]

/-! ## Sorting -/

instance : Std.Total fun a b : Text × JsonValue F => a.1 ≤ b.1 := ⟨fun a b => le_total a.1 b.1⟩

instance : IsTrans (Text × JsonValue F) fun a b => a.1 ≤ b.1 := ⟨fun _ _ _ => le_trans⟩

/-- Members that have no key twice have one order. -/
theorem insertionSort_eq_of_perm {members others : List (Text × JsonValue F)}
    (hnodup : (members.map Prod.fst).Nodup) (h : members.Perm others) :
    members.insertionSort (fun a b => a.1 ≤ b.1) = others.insertionSort fun a b => a.1 ≤ b.1 := by
  have hperm := ((List.perm_insertionSort (fun a b => a.1 ≤ b.1) members).trans h).trans
    (List.perm_insertionSort (fun a b => a.1 ≤ b.1) others).symm
  refine hperm.eq_of_pairwise (fun a b ha hb hab hba => ?_) (List.pairwise_insertionSort _ _)
    (List.pairwise_insertionSort _ _)
  have ha' := (List.mem_insertionSort _).mp ha
  have hb' := h.mem_iff.mpr ((List.mem_insertionSort _).mp hb)
  exact List.inj_on_of_nodup_map hnodup ha' hb' (le_antisymm hab hba)

theorem map_fst_sortedMembers (members : List (Text × JsonValue F)) :
    (sortedMembers members).map Prod.fst = members.map Prod.fst := by
  rw [sortedMembers_eq_map, List.map_map]
  rfl

/-- A sorted object has the sorted members of the object. -/
theorem perm_sorted (members : List (Text × JsonValue F)) :
    ((sortedMembers members).insertionSort fun a b => a.1 ≤ b.1).Perm (sortedMembers members) :=
  List.perm_insertionSort _ _

mutual

theorem distinct_sorted : ∀ {v : JsonValue F}, v.Distinct → v.sorted.Distinct
  | .arr _, h => distinctItems_sortedItems h
  | .obj members, ⟨hnodup, h⟩ => by
      refine ⟨?_, distinctMembers_iff.mpr fun m hm => ?_⟩
      · rw [((perm_sorted members).map Prod.fst).nodup_iff, map_fst_sortedMembers]
        exact hnodup
      · exact distinctMembers_iff.mp (distinctMembers_sortedMembers h) m
          ((perm_sorted members).mem_iff.mp hm)
  | .null, _ | .bool _, _ | .int _, _ | .float _, _ | .str _, _ => trivial

theorem distinctItems_sortedItems :
    ∀ {items : List (JsonValue F)}, DistinctItems items → DistinctItems (sortedItems items)
  | [], _ => trivial
  | _ :: _, ⟨h, hrest⟩ => ⟨distinct_sorted h, distinctItems_sortedItems hrest⟩

theorem distinctMembers_sortedMembers : ∀ {members : List (Text × JsonValue F)},
    DistinctMembers members → DistinctMembers (sortedMembers members)
  | [], _ => trivial
  | (_, _) :: _, ⟨h, hrest⟩ => ⟨distinct_sorted h, distinctMembers_sortedMembers hrest⟩

end

mutual

theorem short_sorted : ∀ {v : JsonValue F}, v.short = true → v.sorted.short = true
  | .arr _, h => shortItems_sortedItems h
  | .obj members, h => shortMembers_iff.mpr fun m hm =>
      shortMembers_iff.mp (shortMembers_sortedMembers h) m ((perm_sorted members).mem_iff.mp hm)
  | .null, _ | .bool _, _ | .float _, _ | .str _, _ => rfl
  | .int _, h => h

theorem shortItems_sortedItems :
    ∀ {items : List (JsonValue F)}, shortItems items = true → shortItems (sortedItems items) = true
  | [], _ => rfl
  | item :: items, h => by
      rw [shortItems, Bool.and_eq_true] at h
      rw [sortedItems, shortItems, Bool.and_eq_true]
      exact ⟨short_sorted h.1, shortItems_sortedItems h.2⟩

theorem shortMembers_sortedMembers : ∀ {members : List (Text × JsonValue F)},
    shortMembers members = true → shortMembers (sortedMembers members) = true
  | [], _ => rfl
  | (key, value) :: members, h => by
      rw [shortMembers, Bool.and_eq_true] at h
      rw [sortedMembers, shortMembers, Bool.and_eq_true]
      exact ⟨short_sorted h.1, shortMembers_sortedMembers h.2⟩

end

mutual

theorem depth_sorted_le : ∀ v : JsonValue F, v.sorted.depth ≤ v.depth
  | .arr items => Nat.succ_le_succ (depthItems_sortedItems_le items)
  | .obj members => by
      refine Nat.succ_le_succ (depthMembers_le_iff.mpr fun m hm => ?_)
      exact depthMembers_le_iff.mp (depthMembers_sortedMembers_le members) m
        ((perm_sorted members).mem_iff.mp hm)
  | .null | .bool _ | .int _ | .float _ | .str _ => Nat.le_refl _

theorem depthItems_sortedItems_le :
    ∀ items : List (JsonValue F), depthItems (sortedItems items) ≤ depthItems items
  | [] => Nat.le_refl _
  | item :: items => Nat.max_le.mpr
      ⟨(depth_sorted_le item).trans (Nat.le_max_left _ _),
        (depthItems_sortedItems_le items).trans (Nat.le_max_right _ _)⟩

theorem depthMembers_sortedMembers_le : ∀ members : List (Text × JsonValue F),
    depthMembers (sortedMembers members) ≤ depthMembers members
  | [] => Nat.le_refl _
  | (_, value) :: members => Nat.max_le.mpr
      ⟨(depth_sorted_le value).trans (Nat.le_max_left _ _),
        (depthMembers_sortedMembers_le members).trans (Nat.le_max_right _ _)⟩

end

/-- What is found in a sorted object is what was found, sorted. -/
theorem lookup_sorted {members : List (Text × JsonValue F)}
    (hnodup : (members.map Prod.fst).Nodup) (key : Text) :
    ((sortedMembers members).insertionSort fun a b => a.1 ≤ b.1).lookup key =
      (members.lookup key).map sorted := by
  have hsorted : ((sortedMembers members).map Prod.fst).Nodup := by
    rw [map_fst_sortedMembers]
    exact hnodup
  have hperm := perm_sorted members
  have hinsert := ((hperm.map Prod.fst).nodup_iff).mpr hsorted
  refine Option.ext fun value => ?_
  rw [← mem_iff_lookup hinsert, hperm.mem_iff, sortedMembers_eq_map, List.mem_map,
    Option.map_eq_some_iff]
  constructor
  · rintro ⟨⟨name, found⟩, hmem, heq⟩
    cases heq
    exact ⟨found, (mem_iff_lookup hnodup).mp hmem, rfl⟩
  · rintro ⟨found, hfound, rfl⟩
    exact ⟨(key, found), (mem_iff_lookup hnodup).mpr hfound, rfl⟩

mutual

/-- A sorted value is sorted. -/
theorem sorted_sorted : ∀ v : JsonValue F, v.sorted.sorted = v.sorted
  | .arr items => congrArg arr (sortedItems_sortedItems items)
  | .obj members => by
      have hfix : ∀ m ∈ sortedMembers members, (m.1, m.2.sorted) = m := by
        have hmap := sortedMembers_sortedMembers members
        rw [sortedMembers_eq_map (sortedMembers members)] at hmap
        exact List.map_eq_map_iff.mp (hmap.trans (List.map_id _).symm)
      have hsame : sortedMembers ((sortedMembers members).insertionSort fun a b => a.1 ≤ b.1) =
          (sortedMembers members).insertionSort fun a b => a.1 ≤ b.1 := by
        rw [sortedMembers_eq_map ((sortedMembers members).insertionSort _)]
        refine (List.map_congr_left fun m hm => ?_).trans (List.map_id _)
        exact hfix m ((perm_sorted members).mem_iff.mp hm)
      rw [sorted, sorted, hsame, (List.pairwise_insertionSort _ _).insertionSort_eq]
  | .null | .bool _ | .int _ | .float _ | .str _ => rfl

theorem sortedItems_sortedItems :
    ∀ items : List (JsonValue F), sortedItems (sortedItems items) = sortedItems items
  | [] => rfl
  | item :: items => by
      rw [sortedItems, sortedItems, sorted_sorted item, sortedItems_sortedItems items]

theorem sortedMembers_sortedMembers :
    ∀ members : List (Text × JsonValue F), sortedMembers (sortedMembers members) = sortedMembers members
  | [] => rfl
  | (key, value) :: members => by
      rw [sortedMembers, sortedMembers, sorted_sorted value, sortedMembers_sortedMembers members]

end

/-! ## Sorting decides sameness -/

theorem distinctMembers_of_perm {members others : List (Text × JsonValue F)}
    (h : DistinctMembers members) (hperm : members.Perm others) : DistinctMembers others :=
  distinctMembers_iff.mpr fun m hm => distinctMembers_iff.mp h m (hperm.mem_iff.mpr hm)

/-- Sorted members of two objects are equal when the members are, up to their order. -/
theorem insertionSort_sortedMembers_iff {members others : List (Text × JsonValue F)}
    (hnodup : (members.map Prod.fst).Nodup) :
    ((sortedMembers members).insertionSort fun a b => a.1 ≤ b.1) =
        ((sortedMembers others).insertionSort fun a b => a.1 ≤ b.1) ↔
      (sortedMembers others).Perm (sortedMembers members) := by
  constructor
  · intro heq
    have hperm := (perm_sorted members).symm
    rw [heq] at hperm
    exact (hperm.trans (perm_sorted others)).symm
  · intro hperm
    apply insertionSort_eq_of_perm _ hperm.symm
    rw [map_fst_sortedMembers]
    exact hnodup

mutual

/-- Two values are the same exactly when their sorted forms are equal. -/
theorem same_iff : ∀ {v w : JsonValue F}, v.Distinct → w.Distinct →
    (Same v w ↔ v.sorted = w.sorted)
  | .arr items, w, hv, hw => by
      cases w with
      | arr others =>
          have h := sameItems_iff hv hw
          simp only [Same, sorted, arr.injEq, exists_eq_left', h]
      | null | bool _ | int _ | float _ | str _ | obj _ => simp [Same, sorted]
  | .obj members, w, hv, hw => by
      cases w with
      | obj others =>
          have hinner : ∀ reordered : List (Text × JsonValue F), others.Perm reordered →
              (SameMembers members reordered ↔ sortedMembers members = sortedMembers reordered) :=
            fun reordered hperm =>
              sameMembers_iff hv.2 (distinctMembers_of_perm hw.2 hperm)
          rw [sorted, sorted, obj.injEq, insertionSort_sortedMembers_iff hv.1]
          constructor
          · rintro ⟨others', reordered, heq, hperm, hsame⟩
            cases heq
            rw [(hinner reordered hperm).mp hsame, sortedMembers_eq_map, sortedMembers_eq_map]
            exact hperm.map _
          · intro hperm
            rw [sortedMembers_eq_map others, sortedMembers_eq_map members] at hperm
            obtain ⟨reordered, hreordered, hmap⟩ := exists_perm_of_map_perm hperm
            have hsorted : sortedMembers members = sortedMembers reordered := by
              rw [sortedMembers_eq_map, sortedMembers_eq_map, hmap]
            exact ⟨others, reordered, rfl, hreordered, (hinner reordered hreordered).mpr hsorted⟩
      | null | bool _ | int _ | float _ | str _ | arr _ => simp [Same, sorted]
  | .null, w, _, _ | .bool _, w, _, _ | .int _, w, _, _ | .float _, w, _, _ | .str _, w, _, _ => by
      cases w <;> simp [Same, sorted, eq_comm]

theorem sameItems_iff : ∀ {items others : List (JsonValue F)}, DistinctItems items →
    DistinctItems others → (SameItems items others ↔ sortedItems items = sortedItems others)
  | [], others, _, _ => by
      cases others with
      | nil => simp [SameItems]
      | cons other others => simp [SameItems, sortedItems]
  | item :: items, others, hitems, hothers => by
      cases others with
      | nil => simp [SameItems, sortedItems]
      | cons other others =>
          have hfirst := same_iff hitems.1 hothers.1
          have hrest := sameItems_iff hitems.2 hothers.2
          rw [sortedItems, sortedItems, List.cons.injEq, ← hfirst, ← hrest, SameItems]
          constructor
          · rintro ⟨other', rest, heq, h, h'⟩
            cases heq
            exact ⟨h, h'⟩
          · rintro ⟨h, h'⟩
            exact ⟨other, others, rfl, h, h'⟩

theorem sameMembers_iff : ∀ {members others : List (Text × JsonValue F)},
    DistinctMembers members → DistinctMembers others →
      (SameMembers members others ↔ sortedMembers members = sortedMembers others)
  | [], others, _, _ => by
      cases others with
      | nil => simp [SameMembers]
      | cons other others => simp [SameMembers, sortedMembers]
  | (key, value) :: members, others, hmembers, hothers => by
      cases others with
      | nil => simp [SameMembers, sortedMembers]
      | cons other others =>
          obtain ⟨name, found⟩ := other
          have hfirst := same_iff hmembers.1 hothers.1
          have hrest := sameMembers_iff hmembers.2 hothers.2
          rw [sortedMembers, sortedMembers, List.cons.injEq, Prod.mk.injEq, ← hfirst, ← hrest,
            SameMembers]
          constructor
          · rintro ⟨found', rest, heq, h, h'⟩
            cases heq
            exact ⟨⟨rfl, h⟩, h'⟩
          · rintro ⟨⟨rfl, h⟩, h'⟩
            exact ⟨found, others, rfl, h, h'⟩

end

end JsonValue

/-! ## What is read -/

section Read

variable {F : Type}

theorem map_fst_dictSet (key : Text) (value : JsonValue F) (members : List (Text × JsonValue F)) :
    (dictSet key value members).map Prod.fst =
      if key ∈ members.map Prod.fst then members.map Prod.fst
      else members.map Prod.fst ++ [key] := by
  induction members with
  | nil => rfl
  | cons member members ih =>
      rw [dictSet, List.map_cons]
      split_ifs with hfirst hmem hmem
      · rw [List.map_cons, hfirst]
      · exact absurd (hfirst ▸ List.mem_cons_self) hmem
      · rw [List.map_cons, ih, if_pos ((List.mem_cons.mp hmem).resolve_left (Ne.symm hfirst))]
      · rw [List.map_cons, ih, if_neg fun h => hmem (List.mem_cons_of_mem _ h), List.cons_append]

/-- A key that is set is there once. -/
theorem distinct_dictSet {key : Text} {value : JsonValue F} {members : List (Text × JsonValue F)}
    (hvalue : value.Distinct) (h : (JsonValue.obj members).Distinct) :
    (JsonValue.obj (dictSet key value members)).Distinct := by
  refine ⟨?_, ?_⟩
  · rw [map_fst_dictSet]
    split_ifs with hmem
    · exact h.1
    · exact h.1.append (List.nodup_singleton key) fun _ hk hk' =>
        hmem (List.mem_singleton.mp hk' ▸ hk)
  · have hmembers := h.2
    clear h
    induction members with
    | nil => exact ⟨hvalue, trivial⟩
    | cons member members ih =>
        obtain ⟨name, found⟩ := member
        rw [dictSet]
        split_ifs
        · exact ⟨hvalue, hmembers.2⟩
        · exact ⟨hmembers.1, ih hmembers.2⟩

theorem distinct_dictOf {pairs : List (Text × JsonValue F)}
    (h : JsonValue.DistinctMembers pairs) : (JsonValue.obj (dictOf pairs)).Distinct := by
  have hfold : ∀ (pairs members : List (Text × JsonValue F)), JsonValue.DistinctMembers pairs →
      (JsonValue.obj members).Distinct →
        (JsonValue.obj (pairs.foldl (fun members pair => dictSet pair.1 pair.2 members)
          members)).Distinct := by
    intro pairs
    induction pairs with
    | nil => exact fun _ _ h => h
    | cons pair pairs ih => exact fun members hpairs h => ih _ hpairs.2 (distinct_dictSet hpairs.1 h)
  exact hfold pairs [] h ⟨List.nodup_nil, trivial⟩

variable [FloatText F]

theorem distinct_scanNumber {negative : Bool} {text rest : Text} {v : JsonValue F}
    (h : scanNumber negative text = .ok (v, rest)) : v.Distinct := by
  rw [scanNumber] at h
  split at h
  · cases h
  · dsimp only at h
    split at h
    · split at h
      · cases h
      · cases h
        trivial
    · cases h
      trivial

omit [FloatText F] in
theorem distinct_scanWord {word text rest : Text} {value v : JsonValue F}
    (h : scanWord word value text = .ok (v, rest)) (hvalue : value.Distinct) : v.Distinct := by
  rw [scanWord] at h
  split_ifs at h
  cases h
  exact hvalue

/-- The step of the scanner: what it reads with more fuel has no key twice, where what it reads with
less has none. -/
structure ReadsDistinct (F : Type) [FloatText F] (fuel : ℕ) : Prop where
  value : ∀ depth text rest (v : JsonValue F),
    scanValue fuel depth text = .ok (v, rest) → v.Distinct
  items : ∀ depth text rest (items : List (JsonValue F)),
    scanItems fuel depth text = .ok (items, rest) → JsonValue.DistinctItems items
  members : ∀ depth text rest (members : List (Text × JsonValue F)),
    scanMembers fuel depth text = .ok (members, rest) → JsonValue.DistinctMembers members

theorem ReadsDistinct.scanValue {fuel depth : ℕ} (ih : ReadsDistinct F fuel) {text rest : Text}
    {v : JsonValue F} (h : scanValue (fuel + 1) depth text = .ok (v, rest)) : v.Distinct := by
  cases text with
  | nil => cases h
  | cons c text =>
      rw [CameraStack.Lib.scanValue] at h
      split_ifs at h
      · split at h
        · cases h
        · cases h
          trivial
      · cases depth with
        | zero => cases h
        | succ depth =>
            cases h
            exact ⟨List.nodup_nil, trivial⟩
      · cases depth with
        | zero => cases h
        | succ depth =>
            dsimp only [oneDeeper] at h
            split at h
            · cases h
            · next members rest' hmembers =>
              cases h
              exact distinct_dictOf (ih.members depth _ _ members hmembers)
      · cases depth with
        | zero => cases h
        | succ depth =>
            cases h
            trivial
      · cases depth with
        | zero => cases h
        | succ depth =>
            dsimp only [oneDeeper] at h
            split at h
            · cases h
            · next items rest' hitems =>
              cases h
              exact ih.items depth _ _ items hitems
      · exact distinct_scanWord h trivial
      · exact distinct_scanWord h trivial
      · exact distinct_scanWord h trivial
      · exact distinct_scanWord h trivial
      · exact distinct_scanWord h trivial
      · cases h
        trivial
      · exact distinct_scanNumber h
      · exact distinct_scanNumber h

theorem ReadsDistinct.scanItems {fuel depth : ℕ} (ih : ReadsDistinct F fuel) {text rest : Text}
    {items : List (JsonValue F)} (h : scanItems (fuel + 1) depth text = .ok (items, rest)) :
    JsonValue.DistinctItems items := by
  rw [CameraStack.Lib.scanItems] at h
  split at h
  · cases h
  · next item rest' hitem =>
    have hfirst := ih.value depth _ _ item hitem
    split at h
    · cases h
    · split_ifs at h
      · cases h
        exact ⟨hfirst, trivial⟩
      · split at h
        · cases h
        · next items rest'' hitems =>
          cases h
          exact ⟨hfirst, ih.items depth _ _ items hitems⟩

theorem ReadsDistinct.scanMembers {fuel depth : ℕ} (ih : ReadsDistinct F fuel) {text rest : Text}
    {members : List (Text × JsonValue F)}
    (h : scanMembers (fuel + 1) depth text = .ok (members, rest)) :
    JsonValue.DistinctMembers members := by
  cases text with
  | nil => cases h
  | cons c text =>
      rw [CameraStack.Lib.scanMembers] at h
      split_ifs at h
      split at h
      · cases h
      · split at h
        · cases h
        · split_ifs at h
          split at h
          · cases h
          · next value rest' hvalue =>
            have hfirst := ih.value depth _ _ value hvalue
            split at h
            · cases h
            · split_ifs at h
              · cases h
                exact ⟨hfirst, trivial⟩
              · split at h
                · cases h
                · next members rest'' hmembers =>
                  cases h
                  exact ⟨hfirst, ih.members depth _ _ members hmembers⟩

theorem readsDistinct (fuel : ℕ) : ReadsDistinct F fuel := by
  induction fuel with
  | zero =>
      refine ⟨fun _ _ _ _ h => ?_, fun _ _ _ _ h => ?_, fun _ _ _ _ h => ?_⟩
      · cases h
      · cases h
      · cases h
  | succ fuel ih => exact ⟨fun _ _ _ _ => ih.scanValue, fun _ _ _ _ => ih.scanItems,
      fun _ _ _ _ => ih.scanMembers⟩

/-- A value that is read has no key twice. -/
theorem distinct_of_jsonLoads {limit : ℕ} {text : Text} {v : JsonValue F}
    (h : jsonLoads limit text = .ok v) : v.Distinct := by
  rw [jsonLoads] at h
  split at h
  · cases h
  · next value rest hvalue =>
    split_ifs at h
    cases h
    exact (readsDistinct _).value _ _ _ v hvalue

end Read

end CameraStack.Lib
