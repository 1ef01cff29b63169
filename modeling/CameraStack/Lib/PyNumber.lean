/-
# Numbers of Python

`int` and `float` of a JSON value, and the exceptions that they raise.  What Python's conversions do
with finite floats is a parameter.
-/

import CameraStack.Lib.JsonText
import CameraStack.Lib.Text

namespace CameraStack.Lib

/-- Exceptions of Python. -/
inductive PyException
  | jsonDecode
  | unicodeDecode
  | value
  | key
  | type
  | attribute
  | overflow
  | recursion
  deriving DecidableEq

/-- What Python's conversions between numbers do with finite floats. -/
class FloatNumber (F : Type) extends FloatText F where
  /-- The float `0.0`. -/
  zero : F
  /-- `float.is_integer`. -/
  isInteger : F → Bool
  /-- `int` of a finite float. -/
  truncate : F → ℤ
  /-- `float` of an integer, which may be too large. -/
  ofInt : ℤ → Option F
  /-- `float` of a text, which may be none. -/
  parse : Text → Option (PyFloat F)
  /-- A finite float has few digits before its point. -/
  truncate_short : ∀ x,
    (JsonValue.digitsOf (truncate x).natAbs).length ≤ JsonValue.maxStrDigits

/-- Whole numbers as floats, where a float is wanted that can be computed with. -/
structure WholeFloat where
  value : ℤ
  short : (JsonValue.digitsOf value.natAbs).length ≤ 309

/-- A whole number as a float, if it is not too large. -/
def WholeFloat.ofInt (n : ℤ) : Option WholeFloat :=
  if h : (JsonValue.digitsOf n.natAbs).length ≤ 309 then some ⟨n, h⟩ else none

instance : FloatText WholeFloat where
  repr x := { negative := x.value < 0, whole := x.value.natAbs, fraction := ['0'] }
  read d :=
    match WholeFloat.ofInt (if d.negative then -d.whole else d.whole) with
    | some x => .finite x
    | none => if d.negative then .negInfinity else .infinity
  proper _ := ⟨by simp, .inl (by simp)⟩
  read_repr := by
    rintro ⟨n, hn⟩
    have hvalue : (if decide (n < 0) = true then -(n.natAbs : ℤ) else n.natAbs) = n := by
      simp only [decide_eq_true_eq]
      omega
    dsimp only
    rw [hvalue, WholeFloat.ofInt, dif_pos hn]

instance : FloatNumber WholeFloat where
  zero := ⟨0, by decide⟩
  isInteger _ := true
  truncate x := x.value
  ofInt := WholeFloat.ofInt
  parse s :=
    match intOfChars s with
    | none => none
    | some n =>
        match WholeFloat.ofInt n with
        | some x => some (.finite x)
        | none => some (if n < 0 then .negInfinity else .infinity)
  truncate_short x := x.short.trans (by decide)

/-- `int` of a text, which may not have too many digits. -/
def intOfText (s : Text) : Option ℤ :=
  if JsonValue.maxStrDigits < (s.filter fun c => (decimalValue c).isSome).length then none
  else intOfChars s

/-- `int(str)`. -/
def pyInt (s : String) : Option ℤ := intOfText s.toList

example : pyInt " -1_800\n" = some (-1800) ∧ pyInt "18__00" = none ∧ pyInt "" = none := by
  decide +kernel

/-- `str` of an integer, which may not have too many digits. -/
def textOfInt (n : ℤ) : Option Text :=
  let digits := JsonValue.digitsOf n.natAbs
  if JsonValue.maxStrDigits < digits.length then none
  else some (if n < 0 then '-' :: digits else digits)

theorem isPySpace_of_isDigit {c : Char} (hc : c.isDigit = true) : isPySpace c = false := by
  obtain ⟨hlow, hhigh⟩ := Char.isDigit_iff_toNat.mp hc
  have hlow : 48 ≤ c.toNat := hlow
  have hhigh : c.toNat ≤ 57 := hhigh
  simp only [isPySpace, Bool.or_eq_false_iff, Bool.and_eq_false_iff, decide_eq_false_iff_not]
  omega

theorem decimalValue_of_isDigit {c : Char} (hc : c.isDigit = true) :
    decimalValue c = some (c.toNat - '0'.toNat) := by
  obtain ⟨hlow, hhigh⟩ := Char.isDigit_iff_toNat.mp hc
  have hfirst : (decide (0x30 ≤ c.toNat) && decide (c.toNat < 0x30 + 10)) = true := by
    rw [Bool.and_eq_true, decide_eq_true_eq, decide_eq_true_eq]
    exact ⟨hlow, Nat.lt_succ_of_le hhigh⟩
  rw [decimalValue, decimalZeros, List.find?_cons, hfirst]
  rfl

theorem digitsFrom_of_isDigit {digits : List Char} (hdigits : ∀ c ∈ digits, c.isDigit = true)
    (acc : ℕ) : digitsFrom acc true digits = some (Nat.ofDigitChars 10 digits acc) := by
  induction digits generalizing acc with
  | nil => rfl
  | cons c cs ih =>
      obtain ⟨hc, hcs⟩ := List.forall_mem_cons.mp hdigits
      rw [digitsFrom, if_neg (ne_of_isDigit hc rfl), decimalValue_of_isDigit hc]
      exact ih hcs _

section DigitsOf

variable (n : ℕ)

theorem exists_digitsOf : ∃ c cs, JsonValue.digitsOf n = c :: cs ∧ c.isDigit = true := by
  obtain ⟨c, cs, hcs⟩ := List.exists_cons_of_ne_nil (@Nat.toDigits_ne_nil n 10)
  have hcs : JsonValue.digitsOf n = c :: cs := hcs
  exact ⟨c, cs, hcs, isDigit_digitsOf n c (hcs ▸ List.mem_cons_self)⟩

theorem digitsFrom_digitsOf : digitsFrom 0 false (JsonValue.digitsOf n) = some n := by
  obtain ⟨c, cs, hcs, hc⟩ := exists_digitsOf n
  have hread := digitsFrom_of_isDigit (isDigit_digitsOf n) 0
  have hvalue : Nat.ofDigitChars 10 (JsonValue.digitsOf n) 0 = n := Nat.ofDigitChars_ten_toDigits
  rw [hvalue, hcs, digitsFrom, if_neg (ne_of_isDigit hc rfl)] at hread
  rw [hcs, digitsFrom, if_neg (ne_of_isDigit hc rfl)]
  exact hread

theorem filter_digitsOf :
    (JsonValue.digitsOf n).filter (fun c => (decimalValue c).isSome) = JsonValue.digitsOf n := by
  refine List.filter_eq_self.mpr fun c hc => ?_
  rw [decimalValue_of_isDigit (isDigit_digitsOf n c hc)]
  rfl

theorem stripped_digitsOf : Stripped (JsonValue.digitsOf n) :=
  ⟨fun d hd => isPySpace_of_isDigit (isDigit_digitsOf n d (List.mem_of_head? hd)),
    fun d hd => isPySpace_of_isDigit (isDigit_digitsOf n d (List.mem_of_getLast? hd))⟩

theorem stripped_minus_digitsOf : Stripped ('-' :: JsonValue.digitsOf n) := by
  refine ⟨fun d hd => Option.some.inj hd ▸ by decide, fun d hd => ?_⟩
  obtain ⟨c, cs, hcs, -⟩ := exists_digitsOf n
  refine (stripped_digitsOf n).2 d ?_
  rw [hcs] at hd ⊢
  rwa [List.getLast?_cons_cons] at hd

end DigitsOf

/-- The digits of an integer are read back. -/
theorem intOfChars_digitsOf (n : ℤ) :
    intOfChars (if n < 0 then '-' :: JsonValue.digitsOf n.natAbs
      else JsonValue.digitsOf n.natAbs) = some n := by
  split_ifs with hneg
  · rw [intOfChars, stripChars_eq_self (stripped_minus_digitsOf _)]
    show Option.map (fun m : ℤ => -m)
      (do let m ← digitsFrom 0 false (JsonValue.digitsOf n.natAbs); pure (m : ℤ)) = some n
    have hsign : -(n.natAbs : ℤ) = n := by omega
    rw [digitsFrom_digitsOf]
    exact congrArg some hsign
  · obtain ⟨c, cs, hcs, hc⟩ := exists_digitsOf n.natAbs
    rw [intOfChars, stripChars_eq_self (stripped_digitsOf _)]
    split
    · rename_i rest heq
      exact absurd (List.cons.inj (hcs.symm.trans heq)).1 (ne_of_isDigit hc rfl)
    · rename_i rest heq
      exact absurd (List.cons.inj (hcs.symm.trans heq)).1 (ne_of_isDigit hc rfl)
    · rw [digitsFrom_digitsOf]
      exact congrArg some (Int.natAbs_of_nonneg (not_lt.mp hneg))

/-- The text of an integer is read back. -/
theorem intOfChars_toString (n : ℤ) : intOfChars (toString n).toList = some n := by
  have htext : (toString n).toList =
      if n < 0 then '-' :: JsonValue.digitsOf n.natAbs else JsonValue.digitsOf n.natAbs := by
    cases n with
    | ofNat m =>
        rw [if_neg (by simp)]
        change (Nat.repr m).toList = _
        simp [Nat.repr, JsonValue.digitsOf]
    | negSucc m =>
        rw [if_pos (Int.negSucc_lt_zero m)]
        change ("-" ++ Nat.repr (m + 1)).toList = _
        simp [Nat.repr, JsonValue.digitsOf]
  rw [htext]
  exact intOfChars_digitsOf n

/-- An integer that is written is read back. -/
theorem intOfText_textOfInt {n : ℤ} {s : Text} (h : textOfInt n = some s) :
    intOfText s = some n := by
  have hread := intOfChars_digitsOf n
  rw [textOfInt] at h
  split_ifs at h with hlong hneg
  · obtain rfl := Option.some.inj h
    have hminus : (decimalValue '-').isSome = false := by decide
    rw [if_pos hneg] at hread
    rw [intOfText, List.filter_cons, hminus, if_neg Bool.false_ne_true, filter_digitsOf,
      if_neg hlong, hread]
  · obtain rfl := Option.some.inj h
    rw [if_neg hneg] at hread
    rw [intOfText, filter_digitsOf, if_neg hlong, hread]

/-- A small number is read back of its digits. -/
theorem intOfText_digitsOf {n : ℕ} (hn : n < 100000) :
    intOfText (JsonValue.digitsOf n) = some (n : ℤ) := by
  have hlength : (JsonValue.digitsOf n).length ≤ 5 :=
    (Nat.length_toDigits_le_iff (by decide) (by decide)).mpr hn
  have hnot : ¬ JsonValue.maxStrDigits < (JsonValue.digitsOf n).length :=
    not_lt.mpr (hlength.trans (by decide))
  apply intOfText_textOfInt
  rw [textOfInt, Int.natAbs_natCast, if_neg hnot, if_neg (by omega)]

theorem mem_textOfInt {n : ℤ} {s : Text} (h : textOfInt n = some s) {c : Char} (hc : c ∈ s) :
    c.isDigit = true ∨ c = '-' := by
  have hdigits := isDigit_digitsOf n.natAbs c
  rw [textOfInt] at h
  split_ifs at h
  · obtain rfl := Option.some.inj h
    exact (List.mem_cons.mp hc).symm.imp_left hdigits
  · obtain rfl := Option.some.inj h
    exact Or.inl (hdigits hc)

section Conversions

variable {F : Type} [FloatNumber F]

/-- `int(value)`. -/
def toInt : JsonValue F → Except PyException ℤ
  | .bool b => .ok (if b then 1 else 0)
  | .int n => .ok n
  | .float (.finite x) => .ok (FloatNumber.truncate x)
  | .float .infinity | .float .negInfinity => .error .overflow
  | .float .nan => .error .value
  | .str s =>
      match intOfText s with
      | some n => .ok n
      | none => .error .value
  | .null | .arr _ | .obj _ => .error .type

/-- `float` of an integer. -/
def floatOfInt (n : ℤ) : Except PyException (PyFloat F) :=
  match FloatNumber.ofInt n with
  | some x => .ok (.finite x)
  | none => .error .overflow

/-- `float(value)`. -/
def toFloat : JsonValue F → Except PyException (PyFloat F)
  | .bool b => floatOfInt (if b then 1 else 0)
  | .int n => floatOfInt n
  | .float x => .ok x
  | .str s =>
      match FloatNumber.parse s with
      | some x => .ok x
      | none => .error .value
  | .null | .arr _ | .obj _ => .error .type

/-- The integer that a value is equal to, where it is a number that has no fraction. -/
def numberValue : JsonValue F → Option ℤ
  | .bool b => some (if b then 1 else 0)
  | .int n => some n
  | .float (.finite x) => if FloatNumber.isInteger x then some (FloatNumber.truncate x) else none
  | .float _ | .null | .str _ | .arr _ | .obj _ => none

/-- A number that is equal to an integer is converted to it. -/
theorem toInt_of_numberValue {value : JsonValue F} {n : ℤ} (h : numberValue value = some n) :
    toInt value = .ok n := by
  cases value with
  | bool b => exact congrArg Except.ok (Option.some.inj h)
  | int m => exact congrArg Except.ok (Option.some.inj h)
  | float x =>
      cases x with
      | finite x =>
          rw [numberValue] at h
          split_ifs at h
          exact congrArg Except.ok (Option.some.inj h)
      | infinity | negInfinity | nan => cases h
  | null | str | arr | obj => cases h

end Conversions

end CameraStack.Lib
