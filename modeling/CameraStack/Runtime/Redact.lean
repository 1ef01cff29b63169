/-
# Redacting the journal

What goes into the journal is redacted first: a value whose key is a secret name is
replaced by a mark.  A name is one of the secret keys in any case, or it holds one of a few
markers.
-/

import CameraStack.Runtime.DiffHash
import CameraStack.Runtime.EnvWriter
import Mathlib.Data.List.Infix

namespace CameraStack.Runtime.RevisionRecord

open CameraStack.Lib
open CameraStack.Runtime.DiffHash
open CameraStack.Runtime.EnvWriter (sensitiveKeys)

variable {F : Type}

/-! ## Secret names -/

/-- `str.upper` of a character, where that is ASCII; any other character stays, and is not
ASCII in capitals either. -/
def upperChar (c : Char) : Text :=
  if c.isLower then [c.toUpper]
  else if c.toNat = 0xdf then ['S', 'S']
  else if c.toNat = 0x131 then ['I']
  else if c.toNat = 0x17f then ['S']
  else if c.toNat = 0xfb00 then ['F', 'F']
  else if c.toNat = 0xfb01 then ['F', 'I']
  else if c.toNat = 0xfb02 then ['F', 'L']
  else if c.toNat = 0xfb03 then ['F', 'F', 'I']
  else if c.toNat = 0xfb04 then ['F', 'F', 'L']
  else if c.toNat = 0xfb05 ∨ c.toNat = 0xfb06 then ['S', 'T']
  else [c]

/-- `str.lower` of a character, where that holds an ASCII letter. -/
def lowerChar (c : Char) : Text :=
  if c.isUpper then [c.toLower]
  else if c.toNat = 0x130 then ['i', Char.ofNat 0x307]
  else if c.toNat = 0x212a then ['k']
  else [c]

/-- `_SECRET_MARKERS`. -/
def secretMarkers : List String :=
  ["password", "_secret", "shared_secret", "pwd", "turn_pass", "turn_pwd", "admin_token"]

/-- `_is_secret_key`. -/
def isSecretKey (key : Text) : Bool :=
  sensitiveKeys.any (fun name => name.toList = key.flatMap upperChar) ||
    secretMarkers.any fun marker => marker.toList <:+: key.flatMap lowerChar

/-- The mark of a redacted value. -/
def redacted : Text := "***REDACTED***".toList

mutual

/-- `redact`. -/
def redact : JsonValue F → JsonValue F
  | .arr items => .arr (redactItems items)
  | .obj members => .obj (redactMembers members)
  | value => value

@[inherit_doc redact]
def redactItems : List (JsonValue F) → List (JsonValue F)
  | [] => []
  | item :: items => redact item :: redactItems items

@[inherit_doc redact]
def redactMembers : List (Text × JsonValue F) → List (Text × JsonValue F)
  | [] => []
  | (key, value) :: members =>
      (key, if isSecretKey key then .str redacted else redact value) :: redactMembers members

end

mutual

/-- No key of the value is a secret name. -/
def secretFree : JsonValue F → Bool
  | .arr items => secretFreeItems items
  | .obj members => secretFreeMembers members
  | _ => true

@[inherit_doc secretFree]
def secretFreeItems : List (JsonValue F) → Bool
  | [] => true
  | item :: items => secretFree item && secretFreeItems items

@[inherit_doc secretFree]
def secretFreeMembers : List (Text × JsonValue F) → Bool
  | [] => true
  | (key, value) :: members => !isSecretKey key && secretFree value && secretFreeMembers members

end

/-! ## Redacting -/

theorem redactMembers_eq_map (members : List (Text × JsonValue F)) :
    redactMembers members =
      members.map fun m => (m.1, if isSecretKey m.1 then .str redacted else redact m.2) := by
  induction members with
  | nil => rfl
  | cons m members ih =>
      obtain ⟨key, value⟩ := m
      rw [redactMembers, ih, List.map_cons]

theorem map_fst_redactMembers (members : List (Text × JsonValue F)) :
    (redactMembers members).map Prod.fst = members.map Prod.fst := by
  rw [redactMembers_eq_map, List.map_map]
  rfl

mutual

theorem distinct_redact : ∀ {v : JsonValue F}, v.Distinct → (redact v).Distinct
  | .arr _, h => distinct_redactItems h
  | .obj members, h => by
      have hkeys : ((redactMembers members).map Prod.fst).Nodup := by
        rw [map_fst_redactMembers]
        exact h.1
      exact ⟨hkeys, distinct_redactMembers h.2⟩
  | .null, _ | .bool _, _ | .int _, _ | .float _, _ | .str _, _ => trivial

theorem distinct_redactItems : ∀ {items : List (JsonValue F)},
    JsonValue.DistinctItems items → JsonValue.DistinctItems (redactItems items)
  | [], _ => trivial
  | _ :: _, h => ⟨distinct_redact h.1, distinct_redactItems h.2⟩

theorem distinct_redactMembers : ∀ {members : List (Text × JsonValue F)},
    JsonValue.DistinctMembers members → JsonValue.DistinctMembers (redactMembers members)
  | [], _ => trivial
  | (key, value) :: members, h => by
      have hvalue :
          (if isSecretKey key then JsonValue.str redacted else redact value).Distinct := by
        split
        · trivial
        · exact distinct_redact h.1
      exact ⟨hvalue, distinct_redactMembers h.2⟩

end

mutual

/-- A mark is no number. -/
theorem short_redact : ∀ {v : JsonValue F}, v.short = true → (redact v).short = true
  | .arr _, h => short_redactItems h
  | .obj _, h => short_redactMembers h
  | .null, h | .bool _, h | .int _, h | .float _, h | .str _, h => h

theorem short_redactItems : ∀ {items : List (JsonValue F)},
    JsonValue.shortItems items = true → JsonValue.shortItems (redactItems items) = true
  | [], _ => rfl
  | item :: items, h => by
      rw [JsonValue.shortItems, Bool.and_eq_true] at h
      rw [redactItems, JsonValue.shortItems, short_redact h.1, short_redactItems h.2]
      rfl

theorem short_redactMembers : ∀ {members : List (Text × JsonValue F)},
    JsonValue.shortMembers members = true → JsonValue.shortMembers (redactMembers members) = true
  | [], _ => rfl
  | (key, value) :: members, h => by
      rw [JsonValue.shortMembers, Bool.and_eq_true] at h
      have hvalue : (if isSecretKey key then JsonValue.str redacted else redact value).short =
          true := by
        split
        · rfl
        · exact short_redact h.1
      rw [redactMembers, JsonValue.shortMembers, hvalue, short_redactMembers h.2]
      rfl

end

mutual

/-- A value without secret names is not touched. -/
theorem redact_of_secretFree : ∀ {v : JsonValue F}, secretFree v = true → redact v = v
  | .arr _, h => congrArg JsonValue.arr (redactItems_of_secretFree h)
  | .obj _, h => congrArg JsonValue.obj (redactMembers_of_secretFree h)
  | .null, _ | .bool _, _ | .int _, _ | .float _, _ | .str _, _ => rfl

theorem redactItems_of_secretFree : ∀ {items : List (JsonValue F)},
    secretFreeItems items = true → redactItems items = items
  | [], _ => rfl
  | item :: items, h => by
      rw [secretFreeItems, Bool.and_eq_true] at h
      rw [redactItems, redact_of_secretFree h.1, redactItems_of_secretFree h.2]

theorem redactMembers_of_secretFree : ∀ {members : List (Text × JsonValue F)},
    secretFreeMembers members = true → redactMembers members = members
  | [], _ => rfl
  | (key, value) :: members, h => by
      rw [secretFreeMembers, Bool.and_eq_true, Bool.and_eq_true, Bool.not_eq_true'] at h
      rw [redactMembers, h.1.1, redact_of_secretFree h.1.2, redactMembers_of_secretFree h.2]
      rfl

end

/-- The hashes of files under paths that are secret names are replaced. -/
def redactHashes (fhb : Dict String) : Dict String :=
  fhb.map fun path hash => if isSecretKey path.toList then String.ofList redacted else hash

theorem redact_ofDict (fhb : Dict String) :
    redact (ofDict fhb : JsonValue F) = ofDict (redactHashes fhb) := by
  rw [ofDict, ofDict, redactHashes, Std.ExtTreeMap.toList_map, redact, redactMembers_eq_map,
    List.map_map, List.map_map]
  congr 1
  apply List.map_congr_left
  intro entry _
  show (_, _) = (_, _)
  split
  · next hsecret => simp [hsecret]
  · next hsecret => simp [hsecret, redact]

theorem redactHashes_eq_iff {fhb : Dict String}
    (h : ∀ (path : String) hash, fhb[path]? = some hash → hash ≠ String.ofList redacted) :
    redactHashes fhb = fhb ↔ ∀ path ∈ fhb, isSecretKey path.toList = false := by
  have hget : ∀ path : String, (redactHashes fhb)[path]? = fhb[path]?.map fun hash =>
      if isSecretKey path.toList then String.ofList redacted else hash := by
    intro path
    rw [redactHashes, Std.ExtTreeMap.getElem?_map]
  constructor
  · intro heq path hpath
    obtain ⟨hash, hhash⟩ := Option.isSome_iff_exists.mp
      (Std.ExtTreeMap.mem_iff_isSome_getElem?.mp hpath)
    have hsame := hget path
    rw [heq, hhash, Option.map_some, Option.some.injEq] at hsame
    by_cases hsecret : isSecretKey path.toList = true
    · rw [if_pos hsecret] at hsame
      exact absurd hsame (h path hash hhash)
    · simpa using hsecret
  · intro hall
    apply Std.ExtTreeMap.ext_getElem?
    intro path
    rw [hget]
    cases hhash : fhb[path]? with
    | none => rfl
    | some hash =>
        have hpath : path ∈ fhb := Dict.mem_of_getElem? hhash
        rw [Option.map_some, hall path hpath]
        rfl

/-! ## Patches -/

section Patch

variable [FloatNumber F]

mutual

theorem secretFree_normalize : ∀ {v : JsonValue F},
    secretFree v = true → secretFree (normalize v) = true
  | .float (.finite x), _ => by
      rw [DiffHash.normalize]
      split
      · rfl
      · rfl
  | .float .infinity, _ | .float .negInfinity, _ | .float .nan, _ => rfl
  | .arr _, h => secretFreeItems_normalizeItems h
  | .obj _, h => secretFreeMembers_normalizeMembers h
  | .null, _ | .bool _, _ | .int _, _ | .str _, _ => rfl

theorem secretFreeItems_normalizeItems : ∀ {items : List (JsonValue F)},
    secretFreeItems items = true → secretFreeItems (normalizeItems items) = true
  | [], _ => rfl
  | item :: items, h => by
      rw [secretFreeItems, Bool.and_eq_true] at h
      rw [normalizeItems, secretFreeItems, secretFree_normalize h.1,
        secretFreeItems_normalizeItems h.2]
      rfl

theorem secretFreeMembers_normalizeMembers : ∀ {members : List (Text × JsonValue F)},
    secretFreeMembers members = true → secretFreeMembers (normalizeMembers members) = true
  | [], _ => rfl
  | (key, value) :: members, h => by
      rw [secretFreeMembers, Bool.and_eq_true, Bool.and_eq_true] at h
      rw [normalizeMembers, secretFreeMembers, h.1.1, secretFree_normalize h.1.2,
        secretFreeMembers_normalizeMembers h.2]
      rfl

end

end Patch

end CameraStack.Runtime.RevisionRecord
