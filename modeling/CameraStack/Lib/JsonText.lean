/-
# JSON values and the text that `json.dumps` makes of them

Integers and floats are different values, as they are in Python.  What a float is, and how it is
written, is a parameter: a type whose elements are the finite floats, with their shortest decimals,
and a reader that gives every float back from its own.

An encoder is a style: the blanks that it puts between the parts of a text, whether it escapes what
is not ASCII, and whether it sorts the keys of an object.
-/

import Mathlib.Data.Char
import Mathlib.Data.Int.Notation
import Mathlib.Data.List.Lex
import Mathlib.Data.List.Sort
import Mathlib.Order.Basic

namespace CameraStack.Lib

/-- A text, character by character. -/
abbrev Text := List Char

/-! ## Floats -/

/-- A float: a finite one, or one of the three others. -/
inductive PyFloat (F : Type)
  | finite (x : F)
  | infinity
  | negInfinity
  | nan
  deriving DecidableEq

/-- A decimal as it stands in a text, with a fraction or an exponent. -/
structure Decimal where
  negative : Bool := false
  whole : ℕ
  fraction : Text := []
  exponent : Option ℤ := none
  deriving DecidableEq

/-- The digits behind the point are digits, and the decimal is not an integer. -/
structure Decimal.Proper (d : Decimal) : Prop where
  digits : ∀ c ∈ d.fraction, c.isDigit = true
  float : d.fraction ≠ [] ∨ d.exponent.isSome = true

/-- Finite floats, with their decimals. -/
class FloatText (F : Type) where
  /-- `float.__repr__`. -/
  repr : F → Decimal
  /-- `float` of a decimal, which may be too large for a finite float. -/
  read : Decimal → PyFloat F
  proper : ∀ x, (repr x).Proper
  read_repr : ∀ x, read (repr x) = .finite x

/-! ## Values -/

/-- A JSON value. -/
inductive JsonValue (F : Type)
  | null
  | bool (value : Bool)
  | int (value : ℤ)
  | float (value : PyFloat F)
  | str (value : Text)
  | arr (items : List (JsonValue F))
  | obj (members : List (Text × JsonValue F))

namespace JsonValue

variable {F : Type}

mutual

/-- The value with the members of its objects in the order of their keys. -/
def sorted : JsonValue F → JsonValue F
  | .arr items => .arr (sortedItems items)
  | .obj members => .obj ((sortedMembers members).insertionSort fun a b => a.1 ≤ b.1)
  | value => value

@[inherit_doc sorted]
def sortedItems : List (JsonValue F) → List (JsonValue F)
  | [] => []
  | item :: items => sorted item :: sortedItems items

@[inherit_doc sorted]
def sortedMembers : List (Text × JsonValue F) → List (Text × JsonValue F)
  | [] => []
  | (key, value) :: members => (key, sorted value) :: sortedMembers members

end

/-- Python converts no integer of more digits to a text, or from one. -/
def maxStrDigits : ℕ := 4300

/-- The decimal digits of a number. -/
def digitsOf (n : ℕ) : Text := Nat.toDigits 10 n

mutual

/-- Every integer is short enough to be converted. -/
def short : JsonValue F → Bool
  | .int n => decide ((digitsOf n.natAbs).length ≤ maxStrDigits)
  | .arr items => shortItems items
  | .obj members => shortMembers members
  | .null | .bool _ | .float _ | .str _ => true

@[inherit_doc short]
def shortItems : List (JsonValue F) → Bool
  | [] => true
  | item :: items => short item && shortItems items

@[inherit_doc short]
def shortMembers : List (Text × JsonValue F) → Bool
  | [] => true
  | (_, value) :: members => short value && shortMembers members

end

mutual

/-- An object has a key at most once, as a dictionary has. -/
def Distinct : JsonValue F → Prop
  | .arr items => DistinctItems items
  | .obj members => (members.map Prod.fst).Nodup ∧ DistinctMembers members
  | .null | .bool _ | .int _ | .float _ | .str _ => True

@[inherit_doc Distinct]
def DistinctItems : List (JsonValue F) → Prop
  | [] => True
  | item :: items => Distinct item ∧ DistinctItems items

@[inherit_doc Distinct]
def DistinctMembers : List (Text × JsonValue F) → Prop
  | [] => True
  | (_, value) :: members => Distinct value ∧ DistinctMembers members

end

mutual

/-- How deep lists and objects are nested. -/
def depth : JsonValue F → ℕ
  | .arr items => depthItems items + 1
  | .obj members => depthMembers members + 1
  | .null | .bool _ | .int _ | .float _ | .str _ => 0

@[inherit_doc depth]
def depthItems : List (JsonValue F) → ℕ
  | [] => 0
  | item :: items => max (depth item) (depthItems items)

@[inherit_doc depth]
def depthMembers : List (Text × JsonValue F) → ℕ
  | [] => 0
  | (_, value) :: members => max (depth value) (depthMembers members)

end

theorem distinct_of_mem {members : List (Text × JsonValue F)} {member : Text × JsonValue F}
    (h : DistinctMembers members) (hmem : member ∈ members) : member.2.Distinct := by
  induction members with
  | nil => cases hmem
  | cons first members ih =>
      obtain ⟨hfirst, hrest⟩ := h
      rcases List.mem_cons.mp hmem with rfl | hmem
      · exact hfirst
      · exact ih hrest hmem

end JsonValue

theorem isDigit_digitsOf (n : ℕ) : ∀ c ∈ JsonValue.digitsOf n, c.isDigit = true := fun _ hc =>
  Nat.isDigit_of_mem_toDigits (by decide) (by decide) hc

/-- Digits are no blanks, brackets or letters. -/
theorem ne_of_isDigit {c d : Char} (hc : c.isDigit = true) (hd : d.isDigit = false) : c ≠ d := by
  rintro rfl
  rw [hc] at hd
  cases hd

/-- In a list that has no key twice, the members of a key are the one that is found. -/
theorem mem_iff_lookup {K A : Type} [BEq K] [LawfulBEq K] {members : List (K × A)} {key : K}
    {value : A}
    (h : (members.map Prod.fst).Nodup) :
    (key, value) ∈ members ↔ members.lookup key = some value := by
  induction members with
  | nil => exact iff_of_false List.not_mem_nil nofun
  | cons first members ih =>
      obtain ⟨name, found⟩ := first
      obtain ⟨hnew, hrest⟩ := List.nodup_cons.mp h
      rw [List.mem_cons, List.lookup_cons, ih hrest]
      by_cases hkey : key = name
      · subst hkey
        have hnone : members.lookup key ≠ some value := fun hlookup =>
          hnew (List.mem_map.mpr ⟨(key, value), (ih hrest).mpr hlookup, rfl⟩)
        rw [beq_self_eq_true, or_iff_left hnone]
        constructor
        · intro heq
          cases heq
          rfl
        · intro heq
          cases heq
          rfl
      · rw [beq_false_of_ne hkey, or_iff_right fun heq => hkey (Prod.mk.inj heq).1]

/-! ## Styles -/

/-- A blank of JSON. -/
def isJsonSpace (c : Char) : Bool := c = ' ' || c = '\t' || c = '\n' || c = '\r'

/-- How an encoder writes: what it puts behind an opening bracket, behind a comma and before a
closing bracket, where the argument is the depth of what follows, and behind a colon. -/
structure JsonStyle where
  first : ℕ → Text
  next : ℕ → Text
  last : ℕ → Text
  colon : Text
  ascii : Bool
  sortKeys : Bool
  blankFirst : ∀ depth, ∀ c ∈ first depth, isJsonSpace c = true
  blankNext : ∀ depth, ∀ c ∈ next depth, isJsonSpace c = true
  blankLast : ∀ depth, ∀ c ∈ last depth, isJsonSpace c = true
  blankColon : ∀ c ∈ colon, isJsonSpace c = true

namespace JsonStyle

/-- `json.dumps(value)`. -/
def plain : JsonStyle where
  first _ := []
  next _ := [' ']
  last _ := []
  colon := [' ']
  ascii := true
  sortKeys := false
  blankFirst := nofun
  blankNext := fun _ => List.all_eq_true.mp rfl
  blankLast := nofun
  blankColon := List.all_eq_true.mp rfl

/-- `json.dumps(value, sort_keys=True, separators=(",", ":"), ensure_ascii=False)`. -/
def compact : JsonStyle where
  first _ := []
  next _ := []
  last _ := []
  colon := []
  ascii := false
  sortKeys := true
  blankFirst := nofun
  blankNext := nofun
  blankLast := nofun
  blankColon := nofun

/-- A new line, two blanks further in for each level. -/
def newLine (depth : ℕ) : Text := '\n' :: List.replicate (2 * depth) ' '

theorem blank_newLine (depth : ℕ) : ∀ c ∈ newLine depth, isJsonSpace c = true := by
  intro c hc
  rw [newLine, List.mem_cons, List.mem_replicate] at hc
  rcases hc with rfl | ⟨-, rfl⟩
  · rfl
  · rfl

/-- `json.dumps(value, indent=2, sort_keys=True)`. -/
def indented : JsonStyle where
  first := newLine
  next := newLine
  last := newLine
  colon := [' ']
  ascii := true
  sortKeys := true
  blankFirst := blank_newLine
  blankNext := blank_newLine
  blankLast := blank_newLine
  blankColon := List.all_eq_true.mp rfl

end JsonStyle

/-! ## Encoding -/

/-- A code unit as an escape. -/
def unicodeEscape (n : ℕ) : Text :=
  ['\\', 'u', (n / 4096).digitChar, (n / 256 % 16).digitChar, (n / 16 % 16).digitChar,
    (n % 16).digitChar]

/-- A character as one escape, or as two surrogates. -/
def escapeCode (n : ℕ) : Text :=
  if n < 0x10000 then unicodeEscape n
  else
    unicodeEscape (0xd800 + (n - 0x10000) / 0x400) ++
      unicodeEscape (0xdc00 + (n - 0x10000) % 0x400)

/-- A character inside a string. -/
def escapeChar (ascii : Bool) (c : Char) : Text :=
  if c = '"' then ['\\', '"']
  else if c = '\\' then ['\\', '\\']
  else if c = '\n' then ['\\', 'n']
  else if c = '\r' then ['\\', 'r']
  else if c = '\t' then ['\\', 't']
  else if c = '\x0c' then ['\\', 'f']
  else if c = '\x08' then ['\\', 'b']
  else if c.toNat < 32 || (ascii && 126 < c.toNat) then escapeCode c.toNat
  else [c]

/-- A string with its quotes. -/
def encodeString (ascii : Bool) (s : Text) : Text :=
  '"' :: (s.flatMap (escapeChar ascii) ++ ['"'])

/-- An integer. -/
def encodeInt (n : ℤ) : Text :=
  if n < 0 then '-' :: JsonValue.digitsOf n.natAbs else JsonValue.digitsOf n.natAbs

/-- The exponent of a decimal has a sign and at least two digits. -/
def encodeExponent (e : ℤ) : Text :=
  let digits := JsonValue.digitsOf e.natAbs
  'e' :: (if e < 0 then '-' else '+') :: (if digits.length < 2 then '0' :: digits else digits)

/-- A decimal. -/
def Decimal.text (d : Decimal) : Text :=
  (if d.negative then ['-'] else []) ++ JsonValue.digitsOf d.whole ++
    (if d.fraction = [] then [] else '.' :: d.fraction) ++ (d.exponent.map encodeExponent).getD []

section Encode

variable {F : Type} [FloatText F]

/-- `floatstr`. -/
def encodeFloat : PyFloat F → Text
  | .finite x => (FloatText.repr x).text
  | .infinity => ['I', 'n', 'f', 'i', 'n', 'i', 't', 'y']
  | .negInfinity => ['-', 'I', 'n', 'f', 'i', 'n', 'i', 't', 'y']
  | .nan => ['N', 'a', 'N']

mutual

/-- The text of a value that stands at a depth. -/
def JsonStyle.encode (st : JsonStyle) (depth : ℕ) : JsonValue F → Text
  | .null => ['n', 'u', 'l', 'l']
  | .bool true => ['t', 'r', 'u', 'e']
  | .bool false => ['f', 'a', 'l', 's', 'e']
  | .int n => encodeInt n
  | .float x => encodeFloat x
  | .str s => encodeString st.ascii s
  | .arr [] => ['[', ']']
  | .arr (item :: items) =>
      '[' :: (st.first (depth + 1) ++ (st.encode (depth + 1) item ++
        (st.encodeItems (depth + 1) items ++ (st.last depth ++ [']']))))
  | .obj [] => ['{', '}']
  | .obj ((key, value) :: members) =>
      '{' :: (st.first (depth + 1) ++ (encodeString st.ascii key ++ (':' :: (st.colon ++
        (st.encode (depth + 1) value ++
          (st.encodeMembers (depth + 1) members ++ (st.last depth ++ ['}'])))))))

/-- The items behind the first. -/
def JsonStyle.encodeItems (st : JsonStyle) (depth : ℕ) : List (JsonValue F) → Text
  | [] => []
  | item :: items =>
      ',' :: (st.next depth ++ (st.encode depth item ++ st.encodeItems depth items))

/-- The members behind the first. -/
def JsonStyle.encodeMembers (st : JsonStyle) (depth : ℕ) : List (Text × JsonValue F) → Text
  | [] => []
  | (key, value) :: members =>
      ',' :: (st.next depth ++ (encodeString st.ascii key ++ (':' :: (st.colon ++
        (st.encode depth value ++ st.encodeMembers depth members)))))

end

/-- The text of a value, without the check of its integers. -/
def JsonStyle.text (st : JsonStyle) (value : JsonValue F) : Text :=
  st.encode 0 (if st.sortKeys then value.sorted else value)

/-- `json.dumps`; `none` is the `ValueError` of an integer that is too long. -/
def JsonStyle.dumps (st : JsonStyle) (value : JsonValue F) : Option Text :=
  if value.short then some (st.text value) else none

end Encode

end CameraStack.Lib
