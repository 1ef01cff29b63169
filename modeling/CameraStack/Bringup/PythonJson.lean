/-
# The JSON library under the fingerprint

A fingerprint is written with an indent of two and read back, and its signature is made over another
text of it, without blanks.  Both writers sort the keys, so that what is read back is the document
but for the order of its members, and has the same text to be signed.

How the host writes a float is not known here.  What is said of a document is said of one whose
floats come back from their texts.
-/

import CameraStack.Bringup.Fixer
import CameraStack.Lib.JsonRoundTrip
import CameraStack.Lib.JsonSame

namespace CameraStack.Bringup

open CameraStack.Lib

/-! ## Values -/

/-- The floats of the host as floats of a JSON text. -/
structure FloatCodec (F : Type) where
  write : Float → PyFloat F
  read : PyFloat F → Float

section Codec

variable {F : Type} (fc : FloatCodec F)

mutual

/-- The value that is written. -/
def Json.toValue : Json → JsonValue F
  | .null => .null
  | .bool b => .bool b
  | .int n => .int n
  | .float x => .float (fc.write x)
  | .str s => .str s.toList
  | .arr items => .arr (toValues items)
  | .obj members => .obj (toMembers members)

@[inherit_doc Json.toValue]
def Json.toValues : List Json → List (JsonValue F)
  | [] => []
  | item :: items => toValue item :: toValues items

@[inherit_doc Json.toValue]
def Json.toMembers : List (String × Json) → List (Text × JsonValue F)
  | [] => []
  | (key, value) :: members => (key.toList, toValue value) :: toMembers members

end

mutual

/-- The value that is read. -/
def Json.ofValue : JsonValue F → Json
  | .null => .null
  | .bool b => .bool b
  | .int n => .int n
  | .float x => .float (fc.read x)
  | .str s => .str (String.ofList s)
  | .arr items => .arr (ofValues items)
  | .obj members => .obj (ofMembers members)

@[inherit_doc Json.ofValue]
def Json.ofValues : List (JsonValue F) → List Json
  | [] => []
  | item :: items => ofValue item :: ofValues items

@[inherit_doc Json.ofValue]
def Json.ofMembers : List (Text × JsonValue F) → List (String × Json)
  | [] => []
  | (key, value) :: members => (String.ofList key, ofValue value) :: ofMembers members

end

mutual

/-- What holds of every float of a value. -/
def Json.EveryFloat (p : Float → Prop) : Json → Prop
  | .float x => p x
  | .arr items => EveryItem p items
  | .obj members => EveryMember p members
  | .null | .bool _ | .int _ | .str _ => True

@[inherit_doc Json.EveryFloat]
def Json.EveryItem (p : Float → Prop) : List Json → Prop
  | [] => True
  | item :: items => EveryFloat p item ∧ EveryItem p items

@[inherit_doc Json.EveryFloat]
def Json.EveryMember (p : Float → Prop) : List (String × Json) → Prop
  | [] => True
  | (_, value) :: members => EveryFloat p value ∧ EveryMember p members

end

mutual

theorem Json.EveryFloat.mono {p q : Float → Prop} (hpq : ∀ x, p x → q x) :
    ∀ {v : Json}, v.EveryFloat p → v.EveryFloat q
  | .null, _ | .bool _, _ | .int _, _ | .str _, _ => trivial
  | .float x, h => hpq x h
  | .arr _, h => Json.EveryItem.mono hpq h
  | .obj _, h => Json.EveryMember.mono hpq h

theorem Json.EveryItem.mono {p q : Float → Prop} (hpq : ∀ x, p x → q x) :
    ∀ {items : List Json}, Json.EveryItem p items → Json.EveryItem q items
  | [], _ => trivial
  | _ :: _, h => ⟨Json.EveryFloat.mono hpq h.1, Json.EveryItem.mono hpq h.2⟩

theorem Json.EveryMember.mono {p q : Float → Prop} (hpq : ∀ x, p x → q x) :
    ∀ {members : List (String × Json)}, Json.EveryMember p members → Json.EveryMember q members
  | [], _ => trivial
  | (_, _) :: _, h => ⟨Json.EveryFloat.mono hpq h.1, Json.EveryMember.mono hpq h.2⟩

end

/-- The float comes back from its text. -/
def FloatCodec.Survives (x : Float) : Prop := fc.read (fc.write x) = x

mutual

theorem ofValue_toValue : ∀ {v : Json}, v.EveryFloat fc.Survives →
    Json.ofValue fc (v.toValue fc) = v
  | .null, _ | .bool _, _ | .int _, _ => rfl
  | .float _, h => congrArg Json.float h
  | .str _, _ => congrArg Json.str String.ofList_toList
  | .arr _, h => congrArg Json.arr (ofValues_toValues h)
  | .obj _, h => congrArg Json.obj (ofMembers_toMembers h)

theorem ofValues_toValues : ∀ {items : List Json}, Json.EveryItem fc.Survives items →
    Json.ofValues fc (Json.toValues fc items) = items
  | [], _ => rfl
  | _ :: _, h => congrArg₂ List.cons (ofValue_toValue h.1) (ofValues_toValues h.2)

theorem ofMembers_toMembers : ∀ {members : List (String × Json)},
    Json.EveryMember fc.Survives members → Json.ofMembers fc (Json.toMembers fc members) = members
  | [], _ => rfl
  | (_, _) :: _, h => congrArg₂ List.cons
      (congrArg₂ Prod.mk String.ofList_toList (ofValue_toValue h.1)) (ofMembers_toMembers h.2)

end

theorem map_fst_ofMembers (members : List (Text × JsonValue F)) :
    (Json.toMembers fc (Json.ofMembers fc members)).map Prod.fst = members.map Prod.fst := by
  induction members with
  | nil => rfl
  | cons m members ih =>
      obtain ⟨key, value⟩ := m
      rw [Json.ofMembers, Json.toMembers, List.map_cons, List.map_cons, ih, String.toList_ofList]

mutual

/-- What is read of a value without a key twice has no key twice. -/
theorem distinct_ofValue : ∀ {v : JsonValue F},
    v.Distinct → ((Json.ofValue fc v).toValue fc).Distinct
  | .null, _ | .bool _, _ | .int _, _ | .float _, _ | .str _, _ => trivial
  | .arr _, h => distinct_ofValues h
  | .obj members, h => ⟨by rw [map_fst_ofMembers]; exact h.1, distinct_ofMembers h.2⟩

theorem distinct_ofValues : ∀ {items : List (JsonValue F)}, JsonValue.DistinctItems items →
    JsonValue.DistinctItems (Json.toValues fc (Json.ofValues fc items))
  | [], _ => trivial
  | _ :: _, h => ⟨distinct_ofValue h.1, distinct_ofValues h.2⟩

theorem distinct_ofMembers : ∀ {members : List (Text × JsonValue F)},
    JsonValue.DistinctMembers members →
      JsonValue.DistinctMembers (Json.toMembers fc (Json.ofMembers fc members))
  | [], _ => trivial
  | (_, _) :: _, h => ⟨distinct_ofValue h.1, distinct_ofMembers h.2⟩

end

/-! ## Sorting -/

theorem toMembers_eq_map (members : List (String × Json)) :
    Json.toMembers fc members = members.map fun m => (m.1.toList, m.2.toValue fc) := by
  induction members with
  | nil => rfl
  | cons m members ih =>
      obtain ⟨key, value⟩ := m
      rw [Json.toMembers, ih, List.map_cons]

mutual

/-- Sorting before writing is sorting what is written. -/
theorem toValue_sorted : ∀ v : Json, v.sorted.toValue fc = (v.toValue fc).sorted
  | .null | .bool _ | .int _ | .float _ | .str _ => rfl
  | .arr items => congrArg JsonValue.arr (toValues_sortedItems items)
  | .obj members => by
      rw [Json.sorted, Json.toValue, Json.toValue, JsonValue.sorted, ← toMembers_sortedMembers,
        toMembers_eq_map, toMembers_eq_map]
      exact congrArg JsonValue.obj (List.map_insertionSort _ _ _ _ fun a _ b _ =>
        String.le_iff_toList_le)

theorem toValues_sortedItems : ∀ items : List Json,
    Json.toValues fc (Json.sortedItems items) = JsonValue.sortedItems (Json.toValues fc items)
  | [] => rfl
  | item :: items => congrArg₂ List.cons (toValue_sorted item) (toValues_sortedItems items)

theorem toMembers_sortedMembers : ∀ members : List (String × Json),
    Json.toMembers fc (Json.sortedMembers members) =
      JsonValue.sortedMembers (Json.toMembers fc members)
  | [] => rfl
  | (_, value) :: members => congrArg₂ List.cons
      (congrArg₂ Prod.mk rfl (toValue_sorted value)) (toMembers_sortedMembers members)

end

theorem everyMember_iff {p : Float → Prop} {members : List (String × Json)} :
    Json.EveryMember p members ↔ ∀ m ∈ members, m.2.EveryFloat p := by
  induction members with
  | nil => exact iff_of_true trivial (List.forall_mem_nil _)
  | cons m members ih => rw [List.forall_mem_cons, ← ih, Json.EveryMember]

mutual

theorem everyFloat_sorted {p : Float → Prop} : ∀ {v : Json}, v.EveryFloat p → v.sorted.EveryFloat p
  | .null, _ | .bool _, _ | .int _, _ | .str _, _ => trivial
  | .float _, h => h
  | .arr _, h => everyItem_sortedItems h
  | .obj members, h => by
      refine everyMember_iff.mpr fun m hm => ?_
      exact everyMember_iff.mp (everyMember_sortedMembers h) m ((List.mem_insertionSort _).mp hm)

theorem everyItem_sortedItems {p : Float → Prop} : ∀ {items : List Json}, Json.EveryItem p items →
    Json.EveryItem p (Json.sortedItems items)
  | [], _ => trivial
  | _ :: _, h => ⟨everyFloat_sorted h.1, everyItem_sortedItems h.2⟩

theorem everyMember_sortedMembers {p : Float → Prop} : ∀ {members : List (String × Json)},
    Json.EveryMember p members → Json.EveryMember p (Json.sortedMembers members)
  | [], _ => trivial
  | (_, _) :: _, h => ⟨everyFloat_sorted h.1, everyMember_sortedMembers h.2⟩

end

end Codec

/-! ## The library -/

section Python

variable {F : Type} [FloatText F]

/-- `json.dumps(value, sort_keys=True, separators=(",", ":"))`. -/
def signingStyle : JsonStyle := { JsonStyle.compact with ascii := true }

/-- The exceptions of `json.loads` that are no `JSONDecodeError`. -/
def loadsResult (fc : FloatCodec F) : Except JsonError (JsonValue F) → LoadsResult
  | .ok value => .value (Json.ofValue fc value)
  | .error .decode => .decodeError
  | .error .tooDeep => .raised "RecursionError: maximum recursion depth exceeded"
  | .error .tooLong =>
      .raised "ValueError: Exceeds the limit (4300 digits) for integer string conversion"

/-- `json`, with how deep its recursion may go, beside `repr` and `hmac`. -/
def pythonLibraries (fc : FloatCodec F) (limit : ℕ) (repr : Json → String)
    (hmac : List UInt8 → String → String) : Libraries where
  loads text := loadsResult fc (jsonLoads limit text.toList)
  dumps v := String.ofList (JsonStyle.indented.text (v.toValue fc))
  compact v := String.ofList (signingStyle.text (v.toValue fc))
  repr := repr
  hmac := hmac
  refuses v :=
    if (v.toValue fc).short = false then
      some "ValueError: Exceeds the limit (4300 digits) for integer string conversion"
    else if limit < (v.toValue fc).depth then
      some "RecursionError: maximum recursion depth exceeded"
    else none

variable {fc : FloatCodec F} {limit : ℕ} {repr : Json → String}
  {hmac : List UInt8 → String → String} {document : Members}

theorem refuses_eq_none {v : Json} (h : (pythonLibraries fc limit repr hmac).refuses v = none) :
    (v.toValue fc).short = true ∧ (v.toValue fc).depth ≤ limit := by
  rw [pythonLibraries] at h
  dsimp only at h
  split_ifs at h with hshort hdepth
  exact ⟨eq_true_of_ne_false hshort, not_lt.mp hdepth⟩

theorem refuses_of_short {v : Json} (hshort : (v.toValue fc).short = true)
    (hdepth : (v.toValue fc).depth ≤ limit) :
    (pythonLibraries fc limit repr hmac).refuses v = none := by
  rw [pythonLibraries]
  dsimp only
  rw [hshort, if_neg (by decide), if_neg (not_lt.mpr hdepth)]

/-- What the library writes can be read back, if its floats can. -/
theorem python_readsBack (hdistinct : ((Json.obj document).toValue fc).Distinct)
    (hsurvives : (Json.obj document).EveryFloat fc.Survives)
    (haccepts : (pythonLibraries fc limit repr hmac).refuses (.obj document) = none) :
    ReadsBack (pythonLibraries fc limit repr hmac) document := by
  obtain ⟨hshort, hdepth⟩ := refuses_eq_none haccepts
  have hread := jsonLoads_encode_blanks JsonStyle.indented (JsonValue.distinct_sorted hdistinct)
    (JsonValue.short_sorted hshort) ((JsonValue.depth_sorted_le _).trans hdepth)
    (List.all_eq_true.mp (rfl : ['\n'].all isJsonSpace = true))
  have htext : (baselineText (pythonLibraries fc limit repr hmac) document).toList =
      JsonStyle.indented.encode 0 ((Json.obj document).toValue fc).sorted ++ ['\n'] := by
    rw [baselineText, String.toList_append]
    exact congrArg (· ++ ['\n']) String.toList_ofList
  rw [ReadsBack]
  show loadsResult fc (jsonLoads limit _) = _
  rw [htext, hread, loadsResult, ← toValue_sorted,
    ofValue_toValue fc (everyFloat_sorted hsurvives)]

theorem sortedMembers_eq_map (members : Members) :
    Json.sortedMembers members = members.map fun m => (m.1, m.2.sorted) := by
  induction members with
  | nil => rfl
  | cons m members ih =>
      obtain ⟨key, value⟩ := m
      rw [Json.sortedMembers, ih, List.map_cons]

theorem cleaned_sortedMembers (members : Members) :
    cleaned (Json.sortedMembers members) = Json.sortedMembers (cleaned members) := by
  rw [cleaned, cleaned, sortedMembers_eq_map, sortedMembers_eq_map, List.filter_map]
  rfl

/-- The text to be signed does not depend on the order of the members. -/
theorem python_resigns (hdistinct : ((Json.obj document).toValue fc).Distinct) {members : Members}
    (h : Json.sorted (.obj document) = .obj members) :
    canonicalJson (pythonLibraries fc limit repr hmac) members =
      canonicalJson (pythonLibraries fc limit repr hmac) document := by
  obtain rfl := Json.obj.inj h
  have hclean : (cleaned ((Json.sortedMembers document).insertionSort fun a b => a.1 ≤ b.1)).Perm
      (Json.sortedMembers (cleaned document)) := by
    rw [← cleaned_sortedMembers]
    exact (List.perm_insertionSort _ _).filter _
  have hperm : (Json.toMembers fc
      (cleaned ((Json.sortedMembers document).insertionSort fun a b => a.1 ≤ b.1))).Perm
        (JsonValue.sortedMembers (Json.toMembers fc (cleaned document))) := by
    rw [← toMembers_sortedMembers, toMembers_eq_map, toMembers_eq_map]
    exact hclean.map _
  have hsorted : (JsonValue.sortedMembers (Json.toMembers fc
      (cleaned ((Json.sortedMembers document).insertionSort fun a b => a.1 ≤ b.1)))).Perm
        (JsonValue.sortedMembers (Json.toMembers fc (cleaned document))) := by
    rw [← JsonValue.sortedMembers_sortedMembers (Json.toMembers fc (cleaned document)),
      JsonValue.sortedMembers_eq_map, JsonValue.sortedMembers_eq_map (JsonValue.sortedMembers _)]
    exact hperm.map _
  have hnodup : ((JsonValue.sortedMembers (Json.toMembers fc (cleaned document))).map
      Prod.fst).Nodup := by
    rw [JsonValue.map_fst_sortedMembers, toMembers_eq_map]
    have hkeys := hdistinct.1
    rw [toMembers_eq_map] at hkeys
    exact hkeys.sublist ((List.filter_sublist.map _).map _)
  have hvalue := JsonValue.insertionSort_eq_of_perm
    (((hsorted.map Prod.fst).nodup_iff).mpr hnodup) hsorted
  show String.ofList (signingStyle.encode 0 (JsonValue.obj _)) =
    String.ofList (signingStyle.encode 0 (JsonValue.obj _))
  rw [hvalue]

end Python

end CameraStack.Bringup
