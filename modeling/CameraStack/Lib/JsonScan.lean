/-
# The scanner of `json.loads`

The scanner goes through a text once.  Its recursion has a limit, which is what Python's own
recursion leaves for nested lists and objects; behind it the scanner raises.  It raises as well for
an integer that has too many digits, and for anything that is no JSON.  The fuel bounds the number
of calls; the length of a text is enough for it.

A surrogate that stands alone has no character here and is read as the replacement character.
-/

import CameraStack.Lib.JsonText

namespace CameraStack.Lib

/-! ## Outcomes -/

/-- Why a text is not read: a `JSONDecodeError`, a `RecursionError`, or the `ValueError` of an
integer that is too long. -/
inductive JsonError
  | decode
  | tooDeep
  | tooLong
  deriving DecidableEq

/-- What a scanner has read, and what is left of the text. -/
abbrev Scan (A : Type) := Except JsonError (A × Text)

/-- The text from its first character that is no blank. -/
def skipBlanks (text : Text) : Text := text.dropWhile isJsonSpace

/-! ## Strings -/

/-- A hexadecimal digit. -/
def hexValue (c : Char) : Option ℕ :=
  if c.isDigit then some (c.toNat - 48)
  else if 'a' ≤ c ∧ c ≤ 'f' then some (c.toNat - 87)
  else if 'A' ≤ c ∧ c ≤ 'F' then some (c.toNat - 55)
  else none

/-- Four hexadecimal digits. -/
def readHex : Text → Option ℕ
  | a :: b :: c :: d :: _ =>
      match hexValue a, hexValue b, hexValue c, hexValue d with
      | some a, some b, some c, some d => some (((a * 16 + b) * 16 + c) * 16 + d)
      | _, _, _, _ => none
  | _ => none

/-- The character of a code, where there is one. -/
def charOf (n : ℕ) : Char := if n.isValidChar then Char.ofNat n else '\ufffd'

/-- The second half of a surrogate pair, where one follows. -/
def readLow : Text → Except Unit (Option ℕ)
  | '\\' :: 'u' :: rest =>
      match readHex rest with
      | none => .error ()
      | some low => if 0xdc00 ≤ low ∧ low < 0xe000 then .ok (some low) else .ok none
  | _ => .ok none

/-- The character of an escape behind its `u`, and how many characters the escape has from it. -/
def readUnicode (text : Text) : Option (Char × ℕ) :=
  match readHex text with
  | none => none
  | some n =>
      if 0xd800 ≤ n ∧ n < 0xdc00 then
        match readLow (text.drop 4) with
        | .error () => none
        | .ok none => some (charOf n, 5)
        | .ok (some low) => some (charOf (0x10000 + (n - 0xd800) * 0x400 + (low - 0xdc00)), 11)
      else some (charOf n, 5)

/-- The character of an escape, and how many characters the escape has behind its backslash. -/
def readEscape : Text → Option (Char × ℕ)
  | [] => none
  | c :: rest =>
      if c = 'u' then readUnicode rest
      else if c = '"' ∨ c = '\\' ∨ c = '/' then some (c, 1)
      else if c = 'b' then some ('\x08', 1)
      else if c = 'f' then some ('\x0c', 1)
      else if c = 'n' then some ('\n', 1)
      else if c = 'r' then some ('\r', 1)
      else if c = 't' then some ('\t', 1)
      else none

/-- A string behind its opening quote; the first argument counts the characters of an escape that
are still to be passed. -/
def scanString : ℕ → Text → Option (Text × Text)
  | _, [] => none
  | skipped + 1, _ :: rest => scanString skipped rest
  | 0, c :: rest =>
      if c = '"' then some ([], rest)
      else if c = '\\' then
        match readEscape rest with
        | none => none
        | some (d, used) => (scanString used rest).map fun found => (d :: found.1, found.2)
      else if c.toNat < 32 then none
      else (scanString 0 rest).map fun found => (c :: found.1, found.2)

/-! ## Numbers -/

/-- The digits at the start of a text. -/
def digitsIn (text : Text) : Text := text.takeWhile Char.isDigit

/-- What follows them. -/
def behindDigits (text : Text) : Text := text.dropWhile Char.isDigit

/-- The integer part of a number, which has no leading zero. -/
def scanWhole (text : Text) : Option (Text × Text) :=
  match text with
  | [] => none
  | c :: rest =>
      if c = '0' then some (['0'], rest)
      else if c.isDigit then some (digitsIn text, behindDigits text)
      else none

/-- A point with digits behind it. -/
def scanFraction (text : Text) : Text × Text :=
  match text with
  | [] => ([], [])
  | c :: rest =>
      if c = '.' ∧ digitsIn rest ≠ [] then (digitsIn rest, behindDigits rest) else ([], text)

/-- The sign of an exponent. -/
def scanSign (text : Text) : Bool × Text :=
  match text with
  | [] => (false, [])
  | c :: rest => if c = '-' then (true, rest) else if c = '+' then (false, rest) else (false, text)

/-- An exponent, if its digits are there. -/
def scanExponent (text : Text) : Option ℤ × Text :=
  match text with
  | [] => (none, [])
  | c :: rest =>
      if (c = 'e' ∨ c = 'E') ∧ digitsIn (scanSign rest).2 ≠ [] then
        let e : ℤ := Nat.ofDigitChars 10 (digitsIn (scanSign rest).2) 0
        (some (if (scanSign rest).1 then -e else e), behindDigits (scanSign rest).2)
      else (none, text)

section Values

variable {F : Type} [FloatText F]

/-- `_match_number_unicode`, behind the sign. -/
def scanNumber (negative : Bool) (text : Text) : Scan (JsonValue F) :=
  match scanWhole text with
  | none => .error .decode
  | some (whole, rest) =>
      let n := Nat.ofDigitChars 10 whole 0
      let fraction := scanFraction rest
      let exponent := scanExponent fraction.2
      if fraction.1 = [] ∧ exponent.1 = none then
        if JsonValue.maxStrDigits < whole.length then .error .tooLong
        else .ok (.int (if negative then -n else n), exponent.2)
      else
        .ok (.float (FloatText.read {
          negative := negative
          whole := n
          fraction := fraction.1
          exponent := exponent.1 }), exponent.2)

/-- The rest of a word. -/
def scanWord (word : Text) (value : JsonValue F) (text : Text) : Scan (JsonValue F) :=
  if word <+: text then .ok (value, text.drop word.length) else .error .decode

/-- `dict[key] = value`, where a key that is there keeps its place. -/
def dictSet (key : Text) (value : JsonValue F) :
    List (Text × JsonValue F) → List (Text × JsonValue F)
  | [] => [(key, value)]
  | member :: members =>
      if member.1 = key then (key, value) :: members else member :: dictSet key value members

/-- `dict(pairs)`. -/
def dictOf (pairs : List (Text × JsonValue F)) : List (Text × JsonValue F) :=
  pairs.foldl (fun members pair => dictSet pair.1 pair.2 members) []

/-- Go one level down, if the recursion may. -/
def oneDeeper {A : Type} (depth : ℕ) (inside : ℕ → Scan A) : Scan A :=
  match depth with
  | 0 => .error .tooDeep
  | depth + 1 => inside depth

mutual

/-- `scan_once`. -/
def scanValue : ℕ → ℕ → Text → Scan (JsonValue F)
  | 0, _, _ => .error .decode
  | _ + 1, _, [] => .error .decode
  | fuel + 1, depth, c :: rest =>
      if c = '"' then
        match scanString 0 rest with
        | none => .error .decode
        | some (s, rest) => .ok (.str s, rest)
      else if c = '{' then
        oneDeeper depth fun depth =>
          if (skipBlanks rest).head? = some '}' then .ok (.obj [], (skipBlanks rest).tail)
          else
            match scanMembers fuel depth (skipBlanks rest) with
            | .error e => .error e
            | .ok (members, rest) => .ok (.obj (dictOf members), rest)
      else if c = '[' then
        oneDeeper depth fun depth =>
          if (skipBlanks rest).head? = some ']' then .ok (.arr [], (skipBlanks rest).tail)
          else
            match scanItems fuel depth (skipBlanks rest) with
            | .error e => .error e
            | .ok (items, rest) => .ok (.arr items, rest)
      else if c = 'n' then scanWord ['u', 'l', 'l'] .null rest
      else if c = 't' then scanWord ['r', 'u', 'e'] (.bool true) rest
      else if c = 'f' then scanWord ['a', 'l', 's', 'e'] (.bool false) rest
      else if c = 'N' then scanWord ['a', 'N'] (.float .nan) rest
      else if c = 'I' then scanWord ['n', 'f', 'i', 'n', 'i', 't', 'y'] (.float .infinity) rest
      else if c = '-' then
        if ['I', 'n', 'f', 'i', 'n', 'i', 't', 'y'] <+: rest then
          .ok (.float .negInfinity, rest.drop 8)
        else scanNumber true rest
      else scanNumber false (c :: rest)

/-- `_parse_array_unicode`, from an item on. -/
def scanItems : ℕ → ℕ → Text → Scan (List (JsonValue F))
  | 0, _, _ => .error .decode
  | fuel + 1, depth, text =>
      match scanValue fuel depth text with
      | .error e => .error e
      | .ok (item, rest) =>
          match skipBlanks rest with
          | [] => .error .decode
          | d :: rest =>
              if d = ']' then .ok ([item], rest)
              else if d = ',' then
                match scanItems fuel depth (skipBlanks rest) with
                | .error e => .error e
                | .ok (items, rest) => .ok (item :: items, rest)
              else .error .decode

/-- `_parse_object_unicode`, from a key on. -/
def scanMembers : ℕ → ℕ → Text → Scan (List (Text × JsonValue F))
  | 0, _, _ => .error .decode
  | _ + 1, _, [] => .error .decode
  | fuel + 1, depth, c :: text =>
      if c = '"' then
        match scanString 0 text with
        | none => .error .decode
        | some (key, rest) =>
            match skipBlanks rest with
            | [] => .error .decode
            | d :: rest =>
                if d = ':' then
                  match scanValue fuel depth (skipBlanks rest) with
                  | .error e => .error e
                  | .ok (value, rest) =>
                      match skipBlanks rest with
                      | [] => .error .decode
                      | d :: rest =>
                          if d = '}' then .ok ([(key, value)], rest)
                          else if d = ',' then
                            match scanMembers fuel depth (skipBlanks rest) with
                            | .error e => .error e
                            | .ok (members, rest) => .ok ((key, value) :: members, rest)
                          else .error .decode
                else .error .decode
      else .error .decode

end

/-- `json.loads`; the first argument is how deep the recursion may go. -/
def jsonLoads (limit : ℕ) (text : Text) : Except JsonError (JsonValue F) :=
  match scanValue (text.length + 1) limit (skipBlanks text) with
  | .error e => .error e
  | .ok (value, rest) => if skipBlanks rest = [] then .ok value else .error .decode

end Values

end CameraStack.Lib
