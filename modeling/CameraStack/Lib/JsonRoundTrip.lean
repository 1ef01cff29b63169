/-
# What `json.dumps` writes, `json.loads` reads

The scanner stops behind each part that an encoder has written, whatever follows, as long as a
number is not followed by what would continue it.  So a value comes back from its text, in every
style, and two values with one text are one value.
-/

import CameraStack.Lib.JsonScan
import Mathlib.Algebra.Ring.Nat
import Mathlib.Data.List.TakeWhile

namespace CameraStack.Lib

open JsonValue (digitsOf)

/-! ## Strings -/

theorem hexValue_digitChar : ∀ d < 16, hexValue d.digitChar = some d := by decide

/-- An escape has the code unit that it was made of. -/
theorem readHex_unicodeEscape {n : ℕ} (h : n < 0x10000) (rest : Text) :
    readHex ((unicodeEscape n).drop 2 ++ rest) = some n := by
  have h₁ := hexValue_digitChar (n / 4096) (by omega)
  have h₂ := hexValue_digitChar (n / 256 % 16) (by omega)
  have h₃ := hexValue_digitChar (n / 16 % 16) (by omega)
  have h₄ := hexValue_digitChar (n % 16) (by omega)
  have hsum : ((n / 4096 * 16 + n / 256 % 16) * 16 + n / 16 % 16) * 16 + n % 16 = n := by omega
  show readHex (_ :: _ :: _ :: _ :: rest) = some n
  rw [readHex, h₁, h₂, h₃, h₄]
  exact congrArg some hsum

/-- The code of a character is no surrogate. -/
theorem toNat_cases (c : Char) :
    c.toNat < 0xd800 ∨ (0xdfff < c.toNat ∧ c.toNat < 0x110000) := c.valid

theorem charOf_toNat (c : Char) : charOf c.toNat = c := by
  have hvalid : c.toNat.isValidChar := c.valid
  rw [charOf, if_pos hvalid, Char.ofNat_toNat]

theorem readUnicode_single {c : Char} (h : c.toNat < 0x10000) (rest : Text) :
    readUnicode ((unicodeEscape c.toNat).drop 2 ++ rest) = some (c, 5) := by
  have hsurrogate : ¬ (0xd800 ≤ c.toNat ∧ c.toNat < 0xdc00) := by
    have hcases := toNat_cases c
    omega
  rw [readUnicode, readHex_unicodeEscape h]
  dsimp only
  rw [if_neg hsurrogate, charOf_toNat]

theorem unicodeEscape_append (n : ℕ) (rest : Text) :
    unicodeEscape n ++ rest = '\\' :: 'u' :: ((unicodeEscape n).drop 2 ++ rest) := rfl

theorem readLow_unicodeEscape {low : ℕ} (h : 0xdc00 ≤ low) (h' : low < 0xe000) (rest : Text) :
    readLow (unicodeEscape low ++ rest) = .ok (some low) := by
  have hread := @readHex_unicodeEscape low (by omega) rest
  rw [unicodeEscape_append, readLow, hread]
  exact if_pos ⟨h, h'⟩

/-- Two surrogates are one character. -/
theorem readUnicode_surrogates {high low : ℕ} (hhigh : 0xd800 ≤ high) (hhigh' : high < 0xdc00)
    (hlow : 0xdc00 ≤ low) (hlow' : low < 0xe000) (rest : Text) :
    readUnicode ((unicodeEscape high).drop 2 ++ (unicodeEscape low ++ rest)) =
      some (charOf (0x10000 + (high - 0xd800) * 0x400 + (low - 0xdc00)), 11) := by
  have hrest : ((unicodeEscape high).drop 2 ++ (unicodeEscape low ++ rest)).drop 4 =
      unicodeEscape low ++ rest := rfl
  rw [readUnicode, readHex_unicodeEscape (by omega)]
  dsimp only
  rw [if_pos ⟨hhigh, hhigh'⟩, hrest, readLow_unicodeEscape hlow hlow']

/-- A character beside the first plane is written as two surrogates. -/
theorem readUnicode_pair {c : Char} (h : 0x10000 ≤ c.toNat) (rest : Text) :
    readUnicode ((unicodeEscape (0xd800 + (c.toNat - 0x10000) / 0x400)).drop 2 ++
      (unicodeEscape (0xdc00 + (c.toNat - 0x10000) % 0x400) ++ rest)) = some (c, 11) := by
  have hcases := toNat_cases c
  rw [readUnicode_surrogates (by omega) (by omega) (by omega) (by omega)]
  have hcode : 0x10000 + (0xd800 + (c.toNat - 0x10000) / 0x400 - 0xd800) * 0x400 +
      (0xdc00 + (c.toNat - 0x10000) % 0x400 - 0xdc00) = c.toNat := by omega
  rw [hcode, charOf_toNat]

/-- The characters of an escape are passed behind it. -/
theorem scanString_skip (front rest : Text) :
    scanString front.length (front ++ rest) = scanString 0 rest := by
  induction front with
  | nil => rfl
  | cons c front ih => exact ih

theorem scanString_escape {body rest : Text} {c : Char}
    (h : readEscape (body ++ rest) = some (c, body.length)) :
    scanString 0 ('\\' :: (body ++ rest)) =
      (scanString 0 rest).map fun found => (c :: found.1, found.2) := by
  rw [scanString, if_neg (by decide), if_pos rfl, h]
  dsimp only
  rw [scanString_skip]

theorem scanString_unicode {body rest : Text} {c : Char}
    (h : readUnicode (body ++ rest) = some (c, body.length + 1)) :
    scanString 0 ('\\' :: 'u' :: (body ++ rest)) =
      (scanString 0 rest).map fun found => (c :: found.1, found.2) := by
  refine @scanString_escape ('u' :: body) rest c ?_
  rw [List.cons_append, readEscape, if_pos rfl]
  exact h

theorem scanString_escapeCode (c : Char) (rest : Text) :
    scanString 0 (escapeCode c.toNat ++ rest) =
      (scanString 0 rest).map fun found => (c :: found.1, found.2) := by
  rw [escapeCode]
  split_ifs with hplane
  · rw [unicodeEscape_append]
    exact scanString_unicode (readUnicode_single hplane rest)
  · have hread := readUnicode_pair (not_lt.mp hplane) rest
    rw [← List.append_assoc] at hread
    rw [List.append_assoc, unicodeEscape_append, ← List.append_assoc]
    exact scanString_unicode hread

/-- A character comes back from its text inside a string. -/
theorem scanString_escapeChar (ascii : Bool) (c : Char) (rest : Text) :
    scanString 0 (escapeChar ascii c ++ rest) =
      (scanString 0 rest).map fun found => (c :: found.1, found.2) := by
  rw [escapeChar]
  split_ifs with hquote hback hnew hreturn htab hform hbs hcode
  · rw [hquote]
    exact @scanString_escape ['"'] rest _ rfl
  · rw [hback]
    exact @scanString_escape ['\\'] rest _ rfl
  · rw [hnew]
    exact @scanString_escape ['n'] rest _ rfl
  · rw [hreturn]
    exact @scanString_escape ['r'] rest _ rfl
  · rw [htab]
    exact @scanString_escape ['t'] rest _ rfl
  · rw [hform]
    exact @scanString_escape ['f'] rest _ rfl
  · rw [hbs]
    exact @scanString_escape ['b'] rest _ rfl
  · exact scanString_escapeCode c rest
  · have hcontrol : ¬ c.toNat < 32 := by
      intro hlt
      exact hcode (by simp [hlt])
    rw [List.singleton_append, scanString, if_neg hquote, if_neg hback, if_neg hcontrol]

/-- A string comes back from its text. -/
theorem scanString_encode (ascii : Bool) (s rest : Text) :
    scanString 0 (s.flatMap (escapeChar ascii) ++ ['"'] ++ rest) = some (s, rest) := by
  induction s with
  | nil => rfl
  | cons c s ih =>
      rw [List.flatMap_cons, List.append_assoc, List.append_assoc, scanString_escapeChar,
        ← List.append_assoc, ih]
      rfl

/-! ## Numbers -/

/-- What follows does not continue a number. -/
def Stops (rest : Text) : Prop :=
  ∀ c ∈ rest.head?, c.isDigit = false ∧ c ≠ '.' ∧ c ≠ 'e' ∧ c ≠ 'E'

theorem stops_cons {c : Char} (rest : Text)
    (h : c.isDigit = false ∧ c ≠ '.' ∧ c ≠ 'e' ∧ c ≠ 'E') : Stops (c :: rest) := by
  intro d hd
  cases hd
  exact h

/-- Digits, and behind them no digit. -/
theorem digitsIn_append {digits rest : Text} (hdigits : ∀ c ∈ digits, c.isDigit = true)
    (hrest : ∀ c ∈ rest.head?, c.isDigit = false) :
    digitsIn (digits ++ rest) = digits ∧ behindDigits (digits ++ rest) = rest := by
  rw [digitsIn, behindDigits, List.takeWhile_append_of_pos hdigits,
    List.dropWhile_append_of_pos hdigits]
  cases rest with
  | nil => exact ⟨List.append_nil digits, rfl⟩
  | cons c rest =>
      have hc : c.isDigit = false := hrest c rfl
      rw [List.takeWhile_cons_of_neg (by simp [hc]), List.dropWhile_cons_of_neg (by simp [hc])]
      exact ⟨List.append_nil digits, rfl⟩

theorem ofDigitChars_lt {digits : Text} (h : ∀ c ∈ digits, c.isDigit = true) :
    Nat.ofDigitChars 10 digits 0 < 10 ^ digits.length := by
  induction digits with
  | nil => decide
  | cons c digits ih =>
      have hrest := ih fun d hd => h d (List.mem_cons_of_mem c hd)
      have hc : c.toNat - 48 ≤ 9 := by
        have hdigit : c.toNat ≤ 57 := (Char.isDigit_iff_toNat.mp (h c List.mem_cons_self)).2
        omega
      rw [Nat.ofDigitChars_cons, Nat.ofDigitChars_eq_ofDigitChars_zero, List.length_cons, Nat.pow_succ]
      have hmul := Nat.mul_le_mul_left (10 ^ digits.length) hc
      show 10 ^ digits.length * (10 * 0 + (c.toNat - 48)) + _ < _
      rw [Nat.mul_zero, Nat.zero_add]
      omega

/-- Only zero starts with a zero. -/
theorem digitsOf_zero_cons {n : ℕ} {digits : Text} (h : digitsOf n = '0' :: digits) :
    digits = [] := by
  by_contra hne
  have hpos : 0 < digits.length := List.length_pos_iff.mpr hne
  have hdigits : ∀ c ∈ digits, c.isDigit = true := fun c hc =>
    isDigit_digitsOf n c (h ▸ List.mem_cons_of_mem '0' hc)
  have hvalue : Nat.ofDigitChars 10 ('0' :: digits) 0 = n := by
    rw [← h]
    exact Nat.ofDigitChars_ten_toDigits
  have hlt : n < 10 ^ digits.length := by
    rw [← hvalue, Nat.ofDigitChars_cons]
    exact ofDigitChars_lt hdigits
  have hlength := (Nat.length_toDigits_le_iff (by decide) hpos).mpr hlt
  rw [digitsOf] at h
  rw [h, List.length_cons] at hlength
  omega

theorem digitsOf_ne_nil (n : ℕ) : digitsOf n ≠ [] := Nat.toDigits_ne_nil

theorem scanWhole_digitsOf (n : ℕ) {rest : Text} (hrest : ∀ c ∈ rest.head?, c.isDigit = false) :
    scanWhole (digitsOf n ++ rest) = some (digitsOf n, rest) := by
  obtain ⟨hin, hbehind⟩ := digitsIn_append (isDigit_digitsOf n) hrest
  cases hdigits : digitsOf n with
  | nil => exact absurd hdigits (digitsOf_ne_nil n)
  | cons c digits =>
      rw [hdigits] at hin hbehind
      have hc : c.isDigit = true := isDigit_digitsOf n c (hdigits ▸ List.mem_cons_self)
      rw [List.cons_append] at hin hbehind ⊢
      rw [scanWhole]
      split_ifs with hzero
      · cases hzero
        rw [digitsOf_zero_cons hdigits]
        rfl
      · rw [hin, hbehind]

theorem scanFraction_append {fraction rest : Text} (hne : fraction ≠ [])
    (hdigits : ∀ c ∈ fraction, c.isDigit = true) (hrest : ∀ c ∈ rest.head?, c.isDigit = false) :
    scanFraction ('.' :: (fraction ++ rest)) = (fraction, rest) := by
  obtain ⟨hin, hbehind⟩ := digitsIn_append hdigits hrest
  rw [scanFraction, hin, hbehind]
  exact if_pos ⟨rfl, hne⟩

theorem scanFraction_none {rest : Text} (hrest : ∀ c ∈ rest.head?, c ≠ '.') :
    scanFraction rest = ([], rest) := by
  cases rest with
  | nil => rfl
  | cons c rest =>
      rw [scanFraction]
      exact if_neg fun h => hrest c rfl h.1

theorem scanExponent_none {rest : Text} (hrest : ∀ c ∈ rest.head?, c ≠ 'e' ∧ c ≠ 'E') :
    scanExponent rest = (none, rest) := by
  cases rest with
  | nil => rfl
  | cons c rest =>
      rw [scanExponent]
      exact if_neg fun h => h.1.elim (hrest c rfl).1 (hrest c rfl).2

/-- The digits of an exponent, which are at least two. -/
def exponentDigits (e : ℤ) : Text :=
  if (digitsOf e.natAbs).length < 2 then '0' :: digitsOf e.natAbs else digitsOf e.natAbs

theorem encodeExponent_eq (e : ℤ) :
    encodeExponent e = 'e' :: (if e < 0 then '-' else '+') :: exponentDigits e := rfl

theorem isDigit_exponentDigits (e : ℤ) : ∀ c ∈ exponentDigits e, c.isDigit = true := by
  rw [exponentDigits]
  split_ifs
  · exact List.forall_mem_cons.mpr ⟨rfl, isDigit_digitsOf _⟩
  · exact isDigit_digitsOf _

theorem exponentDigits_ne_nil (e : ℤ) : exponentDigits e ≠ [] := by
  rw [exponentDigits]
  split_ifs
  · nofun
  · exact digitsOf_ne_nil _

theorem ofDigitChars_exponentDigits (e : ℤ) :
    Nat.ofDigitChars 10 (exponentDigits e) 0 = e.natAbs := by
  rw [exponentDigits]
  split_ifs
  · rw [Nat.ofDigitChars_cons]
    exact Nat.ofDigitChars_ten_toDigits
  · exact Nat.ofDigitChars_ten_toDigits

theorem scanExponent_encode (e : ℤ) {rest : Text} (hrest : ∀ c ∈ rest.head?, c.isDigit = false) :
    scanExponent (encodeExponent e ++ rest) = (some e, rest) := by
  obtain ⟨hin, hbehind⟩ := digitsIn_append (isDigit_exponentDigits e) hrest
  have hsign : scanSign ((if e < 0 then '-' else '+') :: (exponentDigits e ++ rest)) =
      (decide (e < 0), exponentDigits e ++ rest) := by
    rw [scanSign]
    by_cases hneg : e < 0
    · rw [if_pos hneg, if_pos rfl, decide_eq_true hneg]
    · rw [if_neg hneg, if_neg (by decide), if_pos rfl, decide_eq_false hneg]
  rw [encodeExponent_eq, List.cons_append, List.cons_append, scanExponent, hsign]
  dsimp only
  rw [hin, hbehind, ofDigitChars_exponentDigits, if_pos ⟨.inl rfl, exponentDigits_ne_nil e⟩]
  by_cases hneg : e < 0
  · rw [decide_eq_true hneg, if_pos rfl]
    exact congrArg (fun n => (some n, rest)) (by omega)
  · rw [decide_eq_false hneg, if_neg Bool.false_ne_true]
    exact congrArg (fun n => (some n, rest)) (by omega)

section Numbers

variable {F : Type} [FloatText F] {rest : Text}

/-- A short integer comes back from its digits. -/
theorem scanNumber_int {n : ℕ} (negative : Bool) (hrest : Stops rest)
    (hshort : (digitsOf n).length ≤ JsonValue.maxStrDigits) :
    scanNumber negative (digitsOf n ++ rest) =
      .ok ((.int (if negative then -n else n) : JsonValue F), rest) := by
  have hwhole := scanWhole_digitsOf n fun c hc => (hrest c hc).1
  have hfraction := scanFraction_none fun c hc => (hrest c hc).2.1
  have hexponent := scanExponent_none fun c hc => (hrest c hc).2.2
  have hvalue : Nat.ofDigitChars 10 (digitsOf n) 0 = n := Nat.ofDigitChars_ten_toDigits
  rw [scanNumber, hwhole]
  dsimp only
  rw [hfraction, hexponent, hvalue, if_pos ⟨rfl, rfl⟩, if_neg (not_lt.mpr hshort)]

/-- The text of a decimal behind its sign. -/
def Decimal.unsigned (d : Decimal) : Text :=
  digitsOf d.whole ++ (if d.fraction = [] then [] else '.' :: d.fraction) ++
    (d.exponent.map encodeExponent).getD []

theorem Decimal.text_eq (d : Decimal) :
    d.text = (if d.negative then ['-'] else []) ++ d.unsigned := by
  rw [text, unsigned, List.append_assoc, List.append_assoc, List.append_assoc]

/-- A decimal comes back from its text. -/
theorem scanNumber_decimal {d : Decimal} (hd : d.Proper) (hrest : Stops rest) :
    scanNumber d.negative (d.unsigned ++ rest) =
      .ok ((.float (FloatText.read d) : JsonValue F), rest) := by
  have hvalue : Nat.ofDigitChars 10 (digitsOf d.whole) 0 = d.whole :=
    Nat.ofDigitChars_ten_toDigits
  have hexponent : scanExponent ((d.exponent.map encodeExponent).getD [] ++ rest) =
      (d.exponent, rest) := by
    cases d.exponent with
    | none => exact scanExponent_none fun c hc => (hrest c hc).2.2
    | some e => exact scanExponent_encode e fun c hc => (hrest c hc).1
  have hheads : ∀ c ∈ ((d.exponent.map encodeExponent).getD [] ++ rest).head?,
      c.isDigit = false ∧ c ≠ '.' := by
    cases d.exponent with
    | none => exact fun c hc => ⟨(hrest c hc).1, (hrest c hc).2.1⟩
    | some e =>
        intro c hc
        cases hc
        decide
  have hfraction : scanFraction ((if d.fraction = [] then [] else '.' :: d.fraction) ++
      ((d.exponent.map encodeExponent).getD [] ++ rest)) =
        (d.fraction, (d.exponent.map encodeExponent).getD [] ++ rest) := by
    split_ifs with hempty
    · rw [hempty]
      exact scanFraction_none fun c hc => (hheads c hc).2
    · exact scanFraction_append hempty hd.digits fun c hc => (hheads c hc).1
  have hwhole := @scanWhole_digitsOf d.whole ((if d.fraction = [] then [] else '.' :: d.fraction) ++
      ((d.exponent.map encodeExponent).getD [] ++ rest)) (by
    intro c hc
    split_ifs at hc with hempty
    · exact (hheads c hc).1
    · cases hc
      rfl)
  have hfloat : ¬ (d.fraction = [] ∧ d.exponent = none) := by
    rintro ⟨hempty, hnone⟩
    rcases hd.float with hne | hsome
    · exact hne hempty
    · rw [hnone] at hsome
      cases hsome
  rw [Decimal.unsigned, List.append_assoc, List.append_assoc, scanNumber, hwhole]
  dsimp only
  rw [hfraction]
  dsimp only
  rw [hexponent, hvalue, if_neg hfloat]

end Numbers

/-! ## Values -/

section Values

variable {F : Type}

mutual

/-- How many calls of the scanner a value takes, at most. -/
def JsonValue.calls : JsonValue F → ℕ
  | .arr items => callsItems items + 1
  | .obj members => callsMembers members + 1
  | .null | .bool _ | .int _ | .float _ | .str _ => 1

@[inherit_doc JsonValue.calls]
def JsonValue.callsItems : List (JsonValue F) → ℕ
  | [] => 0
  | item :: items => calls item + callsItems items + 1

@[inherit_doc JsonValue.calls]
def JsonValue.callsMembers : List (Text × JsonValue F) → ℕ
  | [] => 0
  | (_, value) :: members => calls value + callsMembers members + 1

end

/-- A character that a value can start with. -/
def startsValue (c : Char) : Bool :=
  c.isDigit || c = '-' || c = '"' || c = '[' || c = '{' || c = 'n' || c = 't' || c = 'f' ||
    c = 'N' || c = 'I'

theorem skipBlanks_append {blanks : Text} (h : ∀ c ∈ blanks, isJsonSpace c = true) {c : Char}
    (hc : isJsonSpace c = false) (rest : Text) : skipBlanks (blanks ++ c :: rest) = c :: rest := by
  rw [skipBlanks, List.dropWhile_append_of_pos h, List.dropWhile_cons_of_neg (by simp [hc])]

theorem isJsonSpace_of_startsValue {c : Char} (h : startsValue c = true) :
    isJsonSpace c = false := by
  by_contra hspace
  rw [Bool.not_eq_false, isJsonSpace] at hspace
  simp only [Bool.or_eq_true, decide_eq_true_eq] at hspace
  rcases hspace with ((rfl | rfl) | rfl) | rfl
  · exact absurd h (by decide)
  · exact absurd h (by decide)
  · exact absurd h (by decide)
  · exact absurd h (by decide)

/-- A key that is not there goes behind the others. -/
theorem dictSet_of_not_mem {key : Text} (value : JsonValue F) {members : List (Text × JsonValue F)}
    (h : key ∉ members.map Prod.fst) : dictSet key value members = members ++ [(key, value)] := by
  induction members with
  | nil => rfl
  | cons member members ih =>
      rw [List.map_cons, List.mem_cons, not_or] at h
      rw [dictSet, if_neg (Ne.symm h.1), ih h.2]
      rfl

/-- Members with different keys are a dictionary as they are. -/
theorem dictOf_of_nodup {members : List (Text × JsonValue F)}
    (h : (members.map Prod.fst).Nodup) : dictOf members = members := by
  have hfold : ∀ (members front : List (Text × JsonValue F)),
      ((front ++ members).map Prod.fst).Nodup →
        members.foldl (fun members pair => dictSet pair.1 pair.2 members) front =
          front ++ members := by
    intro members
    induction members with
    | nil => exact fun front _ => (List.append_nil front).symm
    | cons member members ih =>
        intro front hnodup
        have hfresh : member.1 ∉ front.map Prod.fst := by
          rw [List.map_append, List.nodup_append] at hnodup
          intro hmem
          exact hnodup.2.2 _ hmem _ (List.mem_map_of_mem List.mem_cons_self) rfl
        rw [List.foldl_cons, dictSet_of_not_mem _ hfresh, ih _ (by
          rw [List.append_assoc]
          exact hnodup), List.append_assoc]
        rfl
  exact hfold members [] h

variable [FloatText F]

theorem head_digitsOf (n : ℕ) (rest : Text) :
    ∃ c t, digitsOf n ++ rest = c :: t ∧ c.isDigit = true := by
  cases hdigits : digitsOf n with
  | nil => exact absurd hdigits (digitsOf_ne_nil n)
  | cons c digits => exact ⟨c, _, rfl, isDigit_digitsOf n c (hdigits ▸ List.mem_cons_self)⟩

/-- The text of a value starts like a value. -/
theorem head_encode (st : JsonStyle) (depth : ℕ) (v : JsonValue F) (rest : Text) :
    ∃ c t, st.encode depth v ++ rest = c :: t ∧ startsValue c = true := by
  cases v with
  | null => exact ⟨'n', _, rfl, rfl⟩
  | bool value =>
      cases value with
      | true => exact ⟨'t', _, rfl, rfl⟩
      | false => exact ⟨'f', _, rfl, rfl⟩
  | int n =>
      rw [JsonStyle.encode, encodeInt]
      split_ifs
      · exact ⟨'-', _, rfl, rfl⟩
      · obtain ⟨c, t, heq, hc⟩ := head_digitsOf n.natAbs rest
        exact ⟨c, t, heq, by rw [startsValue, hc]; rfl⟩
  | float x =>
      cases x with
      | finite x =>
          rw [JsonStyle.encode, encodeFloat, Decimal.text_eq]
          split_ifs
          · exact ⟨'-', _, rfl, rfl⟩
          · rw [List.nil_append, Decimal.unsigned, List.append_assoc, List.append_assoc]
            obtain ⟨c, t, heq, hc⟩ := head_digitsOf (FloatText.repr x).whole _
            exact ⟨c, t, heq, by rw [startsValue, hc]; rfl⟩
      | infinity => exact ⟨'I', _, rfl, rfl⟩
      | negInfinity => exact ⟨'-', _, rfl, rfl⟩
      | nan => exact ⟨'N', _, rfl, rfl⟩
  | str s => exact ⟨'"', _, rfl, rfl⟩
  | arr items =>
      cases items with
      | nil => exact ⟨'[', _, rfl, rfl⟩
      | cons item items => exact ⟨'[', _, rfl, rfl⟩
  | obj members =>
      cases members with
      | nil => exact ⟨'{', _, rfl, rfl⟩
      | cons member members => exact ⟨'{', _, rfl, rfl⟩

/-- A number without a sign. -/
theorem scanValue_digit {fuel limit : ℕ} {c : Char} (hc : c.isDigit = true) (rest : Text) :
    scanValue (fuel + 1) limit (c :: rest) = (scanNumber false (c :: rest) : Scan (JsonValue F)) := by
  have hne := fun d hd => @ne_of_isDigit c d hc hd
  rw [scanValue, if_neg (hne _ rfl), if_neg (hne _ rfl), if_neg (hne _ rfl), if_neg (hne _ rfl),
    if_neg (hne _ rfl), if_neg (hne _ rfl), if_neg (hne _ rfl), if_neg (hne _ rfl),
    if_neg (hne _ rfl)]

/-- A number with a sign. -/
theorem scanValue_minus {fuel limit : ℕ} {c : Char} (hc : c.isDigit = true) (rest : Text) :
    scanValue (fuel + 1) limit ('-' :: c :: rest) =
      (scanNumber true (c :: rest) : Scan (JsonValue F)) := by
  have hword : ¬ ['I', 'n', 'f', 'i', 'n', 'i', 't', 'y'] <+: c :: rest := by
    intro hstart
    exact ne_of_isDigit hc (by decide) (List.cons_prefix_cons.mp hstart).1.symm
  rw [scanValue]
  exact if_neg hword

theorem scanValue_int {fuel limit : ℕ} {n : ℤ} {rest : Text} (hrest : Stops rest)
    (hshort : (.int n : JsonValue F).short = true) :
    scanValue (fuel + 1) limit (encodeInt n ++ rest) = .ok ((.int n : JsonValue F), rest) := by
  have hlength : (digitsOf n.natAbs).length ≤ JsonValue.maxStrDigits := of_decide_eq_true hshort
  obtain ⟨c, t, heq, hc⟩ := head_digitsOf n.natAbs rest
  rw [encodeInt]
  split_ifs with hneg
  · rw [List.cons_append, heq, scanValue_minus hc, ← heq, scanNumber_int true hrest hlength]
    refine congrArg (fun m => Except.ok (JsonValue.int m, rest)) ?_
    rw [if_pos rfl]
    omega
  · rw [heq, scanValue_digit hc, ← heq, scanNumber_int false hrest hlength]
    refine congrArg (fun m => Except.ok (JsonValue.int m, rest)) ?_
    rw [if_neg Bool.false_ne_true]
    omega

theorem scanValue_float {fuel limit : ℕ} (x : PyFloat F) {rest : Text} (hrest : Stops rest) :
    scanValue (fuel + 1) limit (encodeFloat x ++ rest) = .ok ((.float x : JsonValue F), rest) := by
  cases x with
  | infinity => rfl
  | negInfinity => rfl
  | nan => rfl
  | finite x =>
      have hread := FloatText.read_repr x
      have hscan := @scanNumber_decimal F _ rest _ (FloatText.proper x) hrest
      have hhead : ∃ c t, (FloatText.repr x).unsigned ++ rest = c :: t ∧ c.isDigit = true := by
        rw [Decimal.unsigned, List.append_assoc, List.append_assoc]
        exact head_digitsOf _ _
      obtain ⟨c, t, heq, hc⟩ := hhead
      rw [encodeFloat, Decimal.text_eq]
      cases hneg : (FloatText.repr x).negative with
      | true =>
          rw [hneg, hread] at hscan
          rw [if_pos rfl, List.append_assoc, List.singleton_append, heq, scanValue_minus hc, ← heq,
            hscan]
      | false =>
          rw [hneg, hread] at hscan
          rw [if_neg Bool.false_ne_true, List.nil_append, heq, scanValue_digit hc, ← heq, hscan]

theorem startsValue_stops {c : Char} (h : isJsonSpace c = true ∨ c = ',' ∨ c = ']' ∨ c = '}')
    (rest : Text) : Stops (c :: rest) := by
  refine stops_cons rest ?_
  rw [isJsonSpace] at h
  simp only [Bool.or_eq_true, decide_eq_true_eq] at h
  rcases h with (((rfl | rfl) | rfl) | rfl) | rfl | rfl | rfl
  all_goals decide

/-- Blanks and a closing bracket do not continue a number. -/
theorem stops_blanks {blanks : Text} (h : ∀ c ∈ blanks, isJsonSpace c = true) {c : Char}
    (hc : c = ']' ∨ c = '}') (rest : Text) : Stops (blanks ++ c :: rest) := by
  cases blanks with
  | nil => exact startsValue_stops (.inr (.inr hc)) rest
  | cons b blanks => exact startsValue_stops (.inl (h b List.mem_cons_self)) _

theorem stops_encodeItems (st : JsonStyle) (depth outer : ℕ) (items : List (JsonValue F))
    (rest : Text) : Stops (st.encodeItems depth items ++ (st.last outer ++ ']' :: rest)) := by
  cases items with
  | nil => exact stops_blanks (st.blankLast _) (.inl rfl) rest
  | cons item items => exact startsValue_stops (.inr (.inl rfl)) _

theorem stops_encodeMembers (st : JsonStyle) (depth outer : ℕ)
    (members : List (Text × JsonValue F)) (rest : Text) :
    Stops (st.encodeMembers depth members ++ (st.last outer ++ '}' :: rest)) := by
  cases members with
  | nil => exact stops_blanks (st.blankLast _) (.inr rfl) rest
  | cons member members => exact startsValue_stops (.inr (.inl rfl)) _

theorem scanValue_quote {fuel limit : ℕ} {s rest : Text} (ascii : Bool) :
    scanValue (fuel + 1) limit (encodeString ascii s ++ rest) =
      .ok ((.str s : JsonValue F), rest) := by
  rw [encodeString, List.cons_append, scanValue, if_pos rfl, scanString_encode]

/-- A list that is not empty. -/
theorem scanValue_bracket {fuel limit : ℕ} {text rest rest' : Text}
    {items : List (JsonValue F)} (hskip : skipBlanks text = rest) (hne : rest.head? ≠ some ']')
    (hitems : scanItems fuel limit rest = .ok (items, rest')) :
    scanValue (fuel + 1) (limit + 1) ('[' :: text) = .ok (.arr items, rest') := by
  rw [scanValue, if_neg (by decide), if_neg (by decide), if_pos rfl, oneDeeper, hskip, if_neg hne,
    hitems]

/-- An object that is not empty. -/
theorem scanValue_brace {fuel limit : ℕ} {text rest rest' : Text}
    {members : List (Text × JsonValue F)} (hskip : skipBlanks text = rest)
    (hne : rest.head? ≠ some '}') (hmembers : scanMembers fuel limit rest = .ok (members, rest')) :
    scanValue (fuel + 1) (limit + 1) ('{' :: text) = .ok (.obj (dictOf members), rest') := by
  rw [scanValue, if_neg (by decide), if_pos rfl, oneDeeper, hskip, if_neg hne, hmembers]

/-- Behind a member the scanner looks for a comma or a closing bracket. -/
theorem scanMembers_step {st : JsonStyle} {fuel limit depth : ℕ} {value : JsonValue F} {rest : Text}
    (key : Text)
    (hvalue : scanValue fuel limit (st.encode depth value ++ rest) = .ok (value, rest)) :
    scanMembers (fuel + 1) limit (encodeString st.ascii key ++ (':' :: (st.colon ++
        (st.encode depth value ++ rest)))) =
      match skipBlanks rest with
      | [] => .error .decode
      | d :: rest =>
          if d = '}' then .ok ([(key, value)], rest)
          else if d = ',' then
            match scanMembers fuel limit (skipBlanks rest) with
            | .error e => .error e
            | .ok (members, rest) => .ok ((key, value) :: members, rest)
          else .error .decode := by
  obtain ⟨c, t, heq, hc⟩ := head_encode st depth value rest
  have hcolon : skipBlanks (':' :: (st.colon ++ (c :: t))) = ':' :: (st.colon ++ (c :: t)) := rfl
  rw [heq] at hvalue
  rw [encodeString, List.cons_append, scanMembers, if_pos rfl, scanString_encode]
  dsimp only
  rw [heq, hcolon]
  dsimp only
  rw [if_pos rfl, skipBlanks_append st.blankColon (isJsonSpace_of_startsValue hc)]
  generalize scanValue (F := F) fuel limit (c :: t) = scanned at hvalue ⊢
  subst hvalue
  rfl

/-- The items of a list, without a comma before the first. -/
def JsonStyle.joinItems (st : JsonStyle) (depth : ℕ) : List (JsonValue F) → Text
  | [] => []
  | item :: items => st.encode depth item ++ st.encodeItems depth items

/-- The members of an object, without a comma before the first. -/
def JsonStyle.joinMembers (st : JsonStyle) (depth : ℕ) : List (Text × JsonValue F) → Text
  | [] => []
  | (key, value) :: members =>
      encodeString st.ascii key ++ (':' :: (st.colon ++
        (st.encode depth value ++ st.encodeMembers depth members)))

theorem head_joinItems (st : JsonStyle) (depth : ℕ) {items : List (JsonValue F)} (hne : items ≠ [])
    (rest : Text) : ∃ c t, st.joinItems depth items ++ rest = c :: t ∧ startsValue c = true := by
  cases items with
  | nil => exact absurd rfl hne
  | cons item items =>
      rw [JsonStyle.joinItems, List.append_assoc]
      exact head_encode st depth item _

theorem head_joinMembers (st : JsonStyle) (depth : ℕ) {members : List (Text × JsonValue F)}
    (hne : members ≠ []) (rest : Text) : ∃ t, st.joinMembers depth members ++ rest = '"' :: t := by
  cases members with
  | nil => exact absurd rfl hne
  | cons member members => exact ⟨_, rfl⟩

theorem encodeItems_cons (st : JsonStyle) (depth : ℕ) {items : List (JsonValue F)}
    (hne : items ≠ []) (rest : Text) :
    st.encodeItems depth items ++ rest =
      ',' :: (st.next depth ++ (st.joinItems depth items ++ rest)) := by
  cases items with
  | nil => exact absurd rfl hne
  | cons item items =>
      rw [JsonStyle.encodeItems, JsonStyle.joinItems, List.cons_append, List.append_assoc]

theorem encodeMembers_cons (st : JsonStyle) (depth : ℕ) {members : List (Text × JsonValue F)}
    (hne : members ≠ []) (rest : Text) :
    st.encodeMembers depth members ++ rest =
      ',' :: (st.next depth ++ (st.joinMembers depth members ++ rest)) := by
  cases members with
  | nil => exact absurd rfl hne
  | cons member members =>
      rw [JsonStyle.encodeMembers, JsonStyle.joinMembers, List.cons_append, List.append_assoc]

theorem encode_arr (st : JsonStyle) (depth : ℕ) {items : List (JsonValue F)} (hne : items ≠ [])
    (rest : Text) :
    st.encode depth (.arr items) ++ rest =
      '[' :: (st.first (depth + 1) ++
        (st.joinItems (depth + 1) items ++ (st.last depth ++ ']' :: rest))) := by
  cases items with
  | nil => exact absurd rfl hne
  | cons item items =>
      rw [JsonStyle.encode, JsonStyle.joinItems]
      simp only [List.cons_append, List.append_assoc, List.nil_append]

theorem encode_obj (st : JsonStyle) (depth : ℕ) {members : List (Text × JsonValue F)}
    (hne : members ≠ []) (rest : Text) :
    st.encode depth (.obj members) ++ rest =
      '{' :: (st.first (depth + 1) ++
        (st.joinMembers (depth + 1) members ++ (st.last depth ++ '}' :: rest))) := by
  cases members with
  | nil => exact absurd rfl hne
  | cons member members =>
      rw [JsonStyle.encode, JsonStyle.joinMembers]
      simp only [List.cons_append, List.append_assoc, List.nil_append]

mutual

/-- A value comes back from its text, whatever follows it. -/
theorem scanValue_encode (st : JsonStyle) : ∀ (v : JsonValue F) (depth fuel limit : ℕ)
    (rest : Text), v.Distinct → v.short = true → v.depth ≤ limit → v.calls ≤ fuel → Stops rest →
      scanValue fuel limit (st.encode depth v ++ rest) = .ok (v, rest)
  | v, _, 0, _, _, _, _, _, hcalls, _ => by cases v <;> cases hcalls
  | .null, _, _ + 1, _, _, _, _, _, _, _ => rfl
  | .bool true, _, _ + 1, _, _, _, _, _, _, _ => rfl
  | .bool false, _, _ + 1, _, _, _, _, _, _, _ => rfl
  | .int n, _, _ + 1, _, rest, _, hshort, _, _, hrest => scanValue_int hrest hshort
  | .float x, _, _ + 1, _, rest, _, _, _, _, hrest => scanValue_float x hrest
  | .str s, _, _ + 1, _, rest, _, _, _, _, _ => scanValue_quote st.ascii
  | .arr items, _, _ + 1, 0, _, _, _, hdepth, _, _ => absurd hdepth (Nat.not_succ_le_zero _)
  | .obj members, _, _ + 1, 0, _, _, _, hdepth, _, _ => absurd hdepth (Nat.not_succ_le_zero _)
  | .arr items, depth, fuel + 1, limit + 1, rest, hdistinct, hshort, hdepth, hcalls, _ => by
      have hitems := scanItems_encode st items (depth + 1) depth fuel limit rest hdistinct hshort
        (Nat.le_of_succ_le_succ hdepth) (Nat.le_of_succ_le_succ hcalls)
      rcases eq_or_ne items [] with rfl | hne
      · rfl
      · obtain ⟨c, t, heq, hc⟩ := head_joinItems st (depth + 1) hne (st.last depth ++ ']' :: rest)
        have hskip := skipBlanks_append (st.blankFirst (depth + 1)) (isJsonSpace_of_startsValue hc) t
        have hopen : (c :: t).head? ≠ some ']' := by
          rintro hhead
          cases hhead
          cases hc
        have hscan := hitems hne
        rw [heq] at hscan
        rw [encode_arr st depth hne, heq]
        exact scanValue_bracket hskip hopen hscan
  | .obj members, depth, fuel + 1, limit + 1, rest, hdistinct, hshort, hdepth, hcalls, _ => by
      have hmembers := scanMembers_encode st members (depth + 1) depth fuel limit rest
        hdistinct.2 hshort (Nat.le_of_succ_le_succ hdepth) (Nat.le_of_succ_le_succ hcalls)
      rcases eq_or_ne members [] with rfl | hne
      · rfl
      · obtain ⟨t, heq⟩ := head_joinMembers st (depth + 1) hne (st.last depth ++ '}' :: rest)
        have hskip := @skipBlanks_append _ (st.blankFirst (depth + 1)) '"' rfl t
        have hscan := hmembers hne
        rw [heq] at hscan
        rw [encode_obj st depth hne, heq, scanValue_brace hskip nofun hscan,
          dictOf_of_nodup hdistinct.1]

/-- The items of a list come back. -/
theorem scanItems_encode (st : JsonStyle) : ∀ (items : List (JsonValue F))
    (depth outer fuel limit : ℕ) (rest : Text), JsonValue.DistinctItems items →
      JsonValue.shortItems items = true → JsonValue.depthItems items ≤ limit →
      JsonValue.callsItems items ≤ fuel → items ≠ [] →
        scanItems fuel limit (st.joinItems depth items ++ (st.last outer ++ ']' :: rest)) =
          .ok (items, rest)
  | [], _, _, _, _, _, _, _, _, _, hne => absurd rfl hne
  | item :: items, _, _, 0, _, _, _, _, _, hcalls, _ => absurd hcalls (Nat.not_succ_le_zero _)
  | item :: items, depth, outer, fuel + 1, limit, rest, ⟨hdistinct, hdistincts⟩, hshort, hdepth,
      hcalls, _ => by
      obtain ⟨hshort, hshorts⟩ := Bool.and_eq_true_iff.mp hshort
      obtain ⟨hdepth, hdepths⟩ := Nat.max_le.mp hdepth
      rw [JsonValue.callsItems] at hcalls
      have hvalue := scanValue_encode st item depth fuel limit _ hdistinct hshort hdepth (by omega)
        (stops_encodeItems st depth outer items rest)
      have hrest := scanItems_encode st items depth outer fuel limit rest hdistincts hshorts hdepths
        (by omega)
      rw [JsonStyle.joinItems, List.append_assoc, scanItems, hvalue]
      dsimp only
      rcases eq_or_ne items [] with rfl | hne
      · rw [JsonStyle.encodeItems, List.nil_append,
          skipBlanks_append (st.blankLast outer) (by decide)]
        exact if_pos rfl
      · obtain ⟨c, t, heq, hc⟩ := head_joinItems st depth hne (st.last outer ++ ']' :: rest)
        have hcomma : ∀ text, skipBlanks (',' :: text) = ',' :: text := fun _ => rfl
        have hscan := hrest hne
        rw [heq] at hscan
        rw [encodeItems_cons st depth hne, hcomma, heq]
        dsimp only
        rw [if_neg (by decide), if_pos rfl,
          skipBlanks_append (st.blankNext depth) (isJsonSpace_of_startsValue hc), hscan]

/-- The members of an object come back. -/
theorem scanMembers_encode (st : JsonStyle) : ∀ (members : List (Text × JsonValue F))
    (depth outer fuel limit : ℕ) (rest : Text), JsonValue.DistinctMembers members →
      JsonValue.shortMembers members = true → JsonValue.depthMembers members ≤ limit →
      JsonValue.callsMembers members ≤ fuel → members ≠ [] →
        scanMembers fuel limit (st.joinMembers depth members ++ (st.last outer ++ '}' :: rest)) =
          .ok (members, rest)
  | [], _, _, _, _, _, _, _, _, _, hne => absurd rfl hne
  | member :: members, _, _, 0, _, _, _, _, _, hcalls, _ => absurd hcalls (Nat.not_succ_le_zero _)
  | (key, value) :: members, depth, outer, fuel + 1, limit, rest, ⟨hdistinct, hdistincts⟩, hshort,
      hdepth, hcalls, _ => by
      obtain ⟨hshort, hshorts⟩ := Bool.and_eq_true_iff.mp hshort
      obtain ⟨hdepth, hdepths⟩ := Nat.max_le.mp hdepth
      rw [JsonValue.callsMembers] at hcalls
      have hvalue := scanValue_encode st value depth fuel limit _ hdistinct hshort hdepth (by omega)
        (stops_encodeMembers st depth outer members rest)
      have hrest := scanMembers_encode st members depth outer fuel limit rest hdistincts hshorts
        hdepths (by omega)
      have hstep := scanMembers_step key hvalue
      rw [JsonStyle.joinMembers]
      simp only [List.cons_append, List.append_assoc] at hstep ⊢
      rw [hstep]
      rcases eq_or_ne members [] with rfl | hne
      · rw [JsonStyle.encodeMembers, List.nil_append,
          skipBlanks_append (st.blankLast outer) (by decide)]
        exact if_pos rfl
      · obtain ⟨t, heq⟩ := head_joinMembers st depth hne (st.last outer ++ '}' :: rest)
        have hcomma : ∀ text, skipBlanks (',' :: text) = ',' :: text := fun _ => rfl
        have hscan := hrest hne
        rw [heq] at hscan
        rw [encodeMembers_cons st depth hne, hcomma, heq]
        dsimp only
        rw [if_neg (by decide), if_pos rfl, skipBlanks_append (st.blankNext depth) (by decide),
          hscan]

end

/-! ## The fuel -/

theorem length_encodeInt_pos (n : ℤ) : 1 ≤ (encodeInt n).length := by
  rw [encodeInt]
  split_ifs
  · exact Nat.le_add_left 1 _
  · exact List.length_pos_iff.mpr (digitsOf_ne_nil _)

theorem length_encodeFloat_pos (x : PyFloat F) : 1 ≤ (encodeFloat x).length := by
  cases x with
  | infinity => exact Nat.le_add_left 1 7
  | negInfinity => exact Nat.le_add_left 1 8
  | nan => exact Nat.le_add_left 1 2
  | finite x =>
      have hdigits := List.length_pos_iff.mpr (digitsOf_ne_nil (FloatText.repr x).whole)
      rw [encodeFloat, Decimal.text]
      simp only [List.length_append]
      omega

mutual

/-- A value takes no more calls than its text has characters. -/
theorem JsonValue.calls_le (st : JsonStyle) :
    ∀ (v : JsonValue F) (depth : ℕ), v.calls ≤ (st.encode depth v).length
  | .null, _ => Nat.le_add_left 1 3
  | .bool true, _ => Nat.le_add_left 1 3
  | .bool false, _ => Nat.le_add_left 1 4
  | .int n, _ => length_encodeInt_pos n
  | .float x, _ => length_encodeFloat_pos x
  | .str s, _ => Nat.le_add_left 1 _
  | .arr items, depth => by
      have hitems := JsonValue.callsItems_le st items (depth + 1)
      rcases eq_or_ne items [] with rfl | hne
      · exact Nat.le_add_left 1 1
      · have hlength := congrArg List.length (encode_arr st depth hne [])
        rw [JsonValue.calls]
        simp only [List.length_append, List.length_cons, List.length_nil] at hlength
        omega
  | .obj members, depth => by
      have hmembers := JsonValue.callsMembers_le st members (depth + 1)
      rcases eq_or_ne members [] with rfl | hne
      · exact Nat.le_add_left 1 1
      · have hlength := congrArg List.length (encode_obj st depth hne [])
        rw [JsonValue.calls]
        simp only [List.length_append, List.length_cons, List.length_nil] at hlength
        omega

@[inherit_doc JsonValue.calls_le]
theorem JsonValue.callsItems_le (st : JsonStyle) : ∀ (items : List (JsonValue F)) (depth : ℕ),
    JsonValue.callsItems items ≤ (st.joinItems depth items).length + 1
  | [], _ => Nat.zero_le _
  | item :: items, depth => by
      have hitem := JsonValue.calls_le st item depth
      have hitems := JsonValue.callsItems_le st items depth
      rw [JsonValue.callsItems, JsonStyle.joinItems]
      rcases eq_or_ne items [] with rfl | hne
      · simp only [JsonValue.callsItems, JsonStyle.encodeItems, List.append_nil]
        omega
      · have hlength := congrArg List.length (encodeItems_cons st depth hne [])
        simp only [List.length_append, List.length_cons, List.length_nil] at hlength ⊢
        omega

@[inherit_doc JsonValue.calls_le]
theorem JsonValue.callsMembers_le (st : JsonStyle) :
    ∀ (members : List (Text × JsonValue F)) (depth : ℕ),
      JsonValue.callsMembers members ≤ (st.joinMembers depth members).length + 1
  | [], _ => Nat.zero_le _
  | (key, value) :: members, depth => by
      have hvalue := JsonValue.calls_le st value depth
      have hmembers := JsonValue.callsMembers_le st members depth
      rw [JsonValue.callsMembers, JsonStyle.joinMembers]
      rcases eq_or_ne members [] with rfl | hne
      · simp only [JsonValue.callsMembers, JsonStyle.encodeMembers, List.append_nil,
          List.length_append, List.length_cons]
        omega
      · have hlength := congrArg List.length (encodeMembers_cons st depth hne [])
        simp only [List.length_append, List.length_cons, List.length_nil] at hlength ⊢
        omega

end

theorem stops_of_blanks {blanks : Text} (h : ∀ c ∈ blanks, isJsonSpace c = true) :
    Stops blanks := by
  intro c hc
  have hspace := h c (List.mem_of_mem_head? hc)
  simp only [isJsonSpace, Bool.or_eq_true, decide_eq_true_eq] at hspace
  rcases hspace with ((rfl | rfl) | rfl) | rfl
  all_goals decide

/-- The scanner reads a value from its text and the blanks behind it, with the fuel that it has for
the whole. -/
theorem jsonLoads_encode_blanks (st : JsonStyle) {v : JsonValue F} {limit : ℕ} {blanks : Text}
    (hdistinct : v.Distinct) (hshort : v.short = true) (hdepth : v.depth ≤ limit)
    (hblanks : ∀ c ∈ blanks, isJsonSpace c = true) :
    jsonLoads limit (st.encode 0 v ++ blanks) = .ok v := by
  have hfuel : v.calls ≤ (st.encode 0 v ++ blanks).length + 1 :=
    (JsonValue.calls_le st v 0).trans (by rw [List.length_append]; omega)
  have hscan := scanValue_encode st v 0 _ limit blanks hdistinct hshort hdepth hfuel
    (stops_of_blanks hblanks)
  obtain ⟨c, t, heq, hc⟩ := head_encode st 0 v blanks
  have hskip : skipBlanks (st.encode 0 v ++ blanks) = st.encode 0 v ++ blanks := by
    rw [heq]
    exact skipBlanks_append (List.forall_mem_nil _) (isJsonSpace_of_startsValue hc) t
  rw [jsonLoads, hskip, hscan]
  exact if_pos (List.dropWhile_eq_nil_iff.mpr hblanks)

/-- The scanner reads a value from its text. -/
theorem jsonLoads_encode (st : JsonStyle) {v : JsonValue F} {limit : ℕ} (hdistinct : v.Distinct)
    (hshort : v.short = true) (hdepth : v.depth ≤ limit) :
    jsonLoads limit (st.encode 0 v) = .ok v := by
  have h := jsonLoads_encode_blanks st hdistinct hshort hdepth (List.forall_mem_nil _)
  rwa [List.append_nil] at h

end Values

end CameraStack.Lib
