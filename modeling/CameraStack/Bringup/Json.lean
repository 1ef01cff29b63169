/-
# JSON values as Python holds them

The baseline of a camera is a JSON file that anybody may have written.  Python reads it into
dictionaries, lists and scalars, compares those with `==`, and raises where a value does not
support what is asked of it.  Integers and floats are kept apart, since the comparison asks which
it has, although equal numbers are equal.

The order of the members of an object is not observed: every encoder used here sorts the keys.
-/

import Mathlib.Algebra.Ring.Int.Defs
import Mathlib.Data.List.Sort
import Mathlib.Data.String.Basic
import CameraStack.Lib.PyNumber

namespace CameraStack.Bringup

open CameraStack.Lib

/-- A JSON value. -/
inductive Json
  | null
  | bool (value : Bool)
  | int (value : ℤ)
  | float (value : Float)
  | str (value : String)
  | arr (items : List Json)
  | obj (members : List (String × Json))

/-- The members of an object, with a key at most once. -/
abbrev Members := List (String × Json)

/-- What is raised: the name of the exception and its message. -/
abbrev Raised := String

/-- What `json.loads` does with a text: a value, a `JSONDecodeError`, or another exception. -/
inductive LoadsResult
  | value (json : Json)
  | decodeError
  | raised (e : Raised)

/-! ## Numbers -/

/-- A finite float is `mantissa * 2 ^ exponent`. -/
def floatParts (x : Float) : Option (ℤ × ℤ) :=
  if x.isFinite then
    let (mantissa, exponent) := x.frExp
    some ((mantissa.scaleB 53).toInt64.toInt, exponent - 53)
  else none

/-- `n == x`, which compares the exact values. -/
def intEqFloat (n : ℤ) (x : Float) : Bool :=
  match floatParts x with
  | none => false
  | some (mantissa, exponent) =>
      if 0 ≤ exponent then n = mantissa * 2 ^ exponent.toNat
      else n * 2 ^ (-exponent).toNat = mantissa

/-- `int(x)`, cut towards zero. -/
def floatToInt (x : Float) : Option ℤ :=
  (floatParts x).map fun (mantissa, exponent) =>
    if 0 ≤ exponent then mantissa * 2 ^ exponent.toNat
    else mantissa.tdiv (2 ^ (-exponent).toNat)

namespace Json

/-! ## Values -/

/-- `type(value).__name__`. -/
def typeName : Json → String
  | .null => "NoneType"
  | .bool _ => "bool"
  | .int _ => "int"
  | .float _ => "float"
  | .str _ => "str"
  | .arr _ => "list"
  | .obj _ => "dict"

/-- `bool(value)`. -/
def truth : Json → Bool
  | .null => false
  | .bool value => value
  | .int value => value ≠ 0
  | .float value => !(value == 0)
  | .str value => value ≠ ""
  | .arr items => !items.isEmpty
  | .obj members => !members.isEmpty

mutual

/-- `left == right`. -/
def eq : Json → Json → Bool
  | .null, .null => true
  | .bool a, .bool b => a = b
  | .bool a, .int n | .int n, .bool a => n = if a then 1 else 0
  | .bool a, .float x | .float x, .bool a => intEqFloat (if a then 1 else 0) x
  | .int a, .int b => a = b
  | .int n, .float x | .float x, .int n => intEqFloat n x
  | .float a, .float b => a == b
  | .str a, .str b => a = b
  | .arr items, .arr others => eqItems items others
  | .obj members, .obj others => decide (members.length = others.length) && eqMembers members others
  | _, _ => false

/-- The items of two lists are equal, one by one. -/
def eqItems : List Json → List Json → Bool
  | [], [] => true
  | a :: items, b :: others => eq a b && eqItems items others
  | _, _ => false

/-- What the first object has, the second has. -/
def eqMembers : List (String × Json) → List (String × Json) → Bool
  | [], _ => true
  | (key, a) :: members, others =>
      match others.lookup key with
      | some b => eq a b && eqMembers members others
      | none => false

end

/-- What `int` of a text raises that is no number, or one with too many digits. -/
def noInt (value : String) : Raised :=
  if (intOfChars value.toList).isSome then
    "ValueError: Exceeds the limit (4300 digits) for integer string conversion"
  else "ValueError: invalid literal for int() with base 10"

/-- `int(value)`. -/
def toInt : Json → Except Raised ℤ
  | .bool value => .ok (if value then 1 else 0)
  | .int value => .ok value
  | .float value =>
      match floatToInt value with
      | some n => .ok n
      | none =>
          if value.isNaN then .error "ValueError: cannot convert float NaN to integer"
          else .error "OverflowError: cannot convert float infinity to integer"
  | .str value =>
      match pyInt value with
      | some n => .ok n
      | none => .error (noInt value)
  | value =>
      .error ("TypeError: int() argument must be a string, a bytes-like object or a real number, not '"
        ++ value.typeName ++ "'")

/-- What asking a value for an entry raises. -/
def noGet (value : Json) : Raised :=
  "AttributeError: '" ++ value.typeName ++ "' object has no attribute 'get'"

/-- `value.get(key, default)`, which only a dictionary has. -/
def get (value : Json) (key : String) (default : Json := .null) : Except Raised Json :=
  match value with
  | .obj members => .ok ((members.lookup key).getD default)
  | other => .error other.noGet

mutual

/-- The value with the members of its objects in the order of their keys, as it is read back. -/
def sorted : Json → Json
  | .arr items => .arr (sortedItems items)
  | .obj members => .obj ((sortedMembers members).insertionSort fun a b => a.1 ≤ b.1)
  | value => value

@[inherit_doc sorted]
def sortedItems : List Json → List Json
  | [] => []
  | item :: items => sorted item :: sortedItems items

@[inherit_doc sorted]
def sortedMembers : List (String × Json) → List (String × Json)
  | [] => []
  | (key, value) :: members => (key, sorted value) :: sortedMembers members

end

/-- `str(value)`. -/
def text (repr : Json → String) : Json → String
  | .str value => value
  | other => repr other

end Json

/-- The value of a string that may be missing. -/
def strOrNull : Option String → Json
  | some value => .str value
  | none => .null

/-- `members[key] = value`. -/
def setMember (key : String) (value : Json) (members : Members) : Members :=
  members.filter (fun member => member.1 ≠ key) ++ [(key, value)]

/-- A stable sort does not move the first entry of a key behind another. -/
theorem lookup_orderedInsert (key : String) (member : String × Json) (members : Members) :
    (members.orderedInsert (fun a b => a.1 ≤ b.1) member).lookup key =
      (member :: members).lookup key := by
  induction members with
  | nil => rfl
  | cons first rest ih =>
      rw [List.orderedInsert_cons]
      split_ifs with hle
      · rfl
      · have hne : first.1 ≠ member.1 := fun heq => hle (le_of_eq heq.symm)
        obtain ⟨k, v⟩ := first
        obtain ⟨k', v'⟩ := member
        rw [List.lookup_cons, ih, List.lookup_cons, List.lookup_cons, List.lookup_cons]
        by_cases hkey : key = k
        · rw [hkey, beq_false_of_ne hne]
        · rw [beq_false_of_ne hkey]

theorem lookup_sortedMembers (key : String) (members : Members) :
    (Json.sortedMembers members).lookup key = (members.lookup key).map Json.sorted := by
  induction members with
  | nil => rfl
  | cons member rest ih =>
      obtain ⟨k, v⟩ := member
      rw [Json.sortedMembers, List.lookup_cons, List.lookup_cons, ih]
      cases key == k with
      | true => rfl
      | false => rfl

/-- An object keeps its entries when it is written and read back. -/
theorem lookup_sorted (key : String) (members : Members) :
    ((Json.sortedMembers members).insertionSort fun a b => a.1 ≤ b.1).lookup key =
      (members.lookup key).map Json.sorted := by
  rw [← lookup_sortedMembers]
  induction Json.sortedMembers members with
  | nil => rfl
  | cons member rest ih =>
      rw [List.insertionSort_cons, lookup_orderedInsert]
      obtain ⟨k, v⟩ := member
      rw [List.lookup_cons, List.lookup_cons, ih]

theorem lookup_filter_ne {key other : String} (h : other ≠ key) (members : Members) :
    (members.filter fun member => member.1 ≠ key).lookup other = members.lookup other := by
  induction members with
  | nil => rfl
  | cons member rest ih =>
      obtain ⟨k, v⟩ := member
      rw [List.filter_cons]
      split_ifs with hkept
      · rw [List.lookup_cons, List.lookup_cons, ih]
      · have hkey : k = key := by simpa using hkept
        rw [ih, List.lookup_cons, hkey, beq_false_of_ne h]

theorem lookup_filter_self (key : String) (members : Members) :
    (members.filter fun member => member.1 ≠ key).lookup key = none := by
  rw [List.lookup_eq_none_iff]
  intro member hmem
  have hne : member.1 ≠ key := of_decide_eq_true (List.mem_filter.mp hmem).2
  exact bne_iff_ne.mpr hne.symm

theorem lookup_setMember_self (key : String) (value : Json) (members : Members) :
    (setMember key value members).lookup key = some value := by
  rw [setMember, List.lookup_append, lookup_filter_self]
  simp

theorem lookup_setMember_ne {key other : String} (h : other ≠ key) (value : Json)
    (members : Members) : (setMember key value members).lookup other = members.lookup other := by
  rw [setMember, List.lookup_append, lookup_filter_ne h]
  simp only [List.lookup_cons, beq_false_of_ne h, List.lookup_nil, Option.or_none]

end CameraStack.Bringup
