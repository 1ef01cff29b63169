/-
# Texts with blanks around them

A decoder that has read a value does not look at what comes behind it, as long as that starts with
a blank.  So a text that is stripped before it is decoded, by Python's notion of a blank, is read
as it is without being stripped, or not at all: it is where the blanks around it are those that JSON
allows.
-/

import Mathlib.Data.List.TakeWhile
import CameraStack.Lib.JsonCutOff
import CameraStack.Lib.PyNumber

namespace CameraStack.Lib

/-- What follows starts with a blank. -/
def StartsBlank (tail : Text) : Prop := ∀ c ∈ tail.head?, isPySpace c = true

theorem startsBlank_of_forall {blanks : Text} (h : ∀ c ∈ blanks, isPySpace c = true) :
    StartsBlank blanks := fun c hc => h c (List.mem_of_mem_head? hc)

/-- No blank is a character that the decoder asks for. -/
theorem ne_of_isPySpace {c d : Char} (hc : isPySpace c = true) (hd : isPySpace d = false) :
    c ≠ d := fun heq => by rw [heq, hd] at hc; cases hc

theorem isDigit_of_isPySpace {c : Char} (hc : isPySpace c = true) : c.isDigit = false := by
  by_contra hdigit
  rw [Bool.not_eq_false] at hdigit
  rw [isPySpace_of_isDigit hdigit] at hc
  cases hc

section Blank

variable {tail : Text}

/-! ## Strings -/

theorem hexValue_of_isPySpace {c : Char} (hc : isPySpace c = true) : hexValue c = none := by
  have hlow : ¬ ('a' ≤ c ∧ c ≤ 'f') := by
    rintro ⟨hle, hle'⟩
    simp only [Char.le_def, UInt32.le_iff_toNat_le] at hle hle'
    change 97 ≤ c.toNat at hle
    change c.toNat ≤ 102 at hle'
    simp only [isPySpace, Bool.or_eq_true, Bool.and_eq_true, decide_eq_true_eq] at hc
    omega
  have hhigh : ¬ ('A' ≤ c ∧ c ≤ 'F') := by
    rintro ⟨hle, hle'⟩
    simp only [Char.le_def, UInt32.le_iff_toNat_le] at hle hle'
    change 65 ≤ c.toNat at hle
    change c.toNat ≤ 70 at hle'
    simp only [isPySpace, Bool.or_eq_true, Bool.and_eq_true, decide_eq_true_eq] at hc
    omega
  rw [hexValue, isDigit_of_isPySpace hc, if_neg Bool.false_ne_true, if_neg hlow, if_neg hhigh]

/-- Four digits are read only where all four are digits. -/
theorem readHex_eq_some {text : Text} {n : ℕ} (h : readHex text = some n) :
    ∃ a b c d rest, text = a :: b :: c :: d :: rest ∧
      ∀ e ∈ [a, b, c, d], (hexValue e).isSome = true := by
  match text, h with
  | a :: b :: c :: d :: rest, h =>
      refine ⟨a, b, c, d, rest, rfl, ?_⟩
      rw [readHex] at h
      split at h
      · next ha hb hc hd => simp [ha, hb, hc, hd]
      · cases h

theorem readHex_blank {front rest : Text} {c : Char} (hc : isPySpace c = true)
    (hfront : front.length < 4) : readHex (front ++ c :: rest) = none := by
  cases hread : readHex (front ++ c :: rest) with
  | none => rfl
  | some n =>
      obtain ⟨a, b, d, e, others, heq, hsome⟩ := readHex_eq_some hread
      have htake : (front ++ c :: rest).take 4 = [a, b, d, e] := by
        rw [heq]
        rfl
      have hmem : c ∈ [a, b, d, e] := by
        rw [← htake, List.take_append, List.mem_append]
        refine .inr ?_
        rw [show 4 - front.length = (3 - front.length) + 1 by omega, List.take_succ_cons]
        exact List.mem_cons_self
      have hnone := hsome c hmem
      rw [hexValue_of_isPySpace hc] at hnone
      cases hnone

theorem readHex_tail (h : StartsBlank tail) (text : Text) :
    readHex (text ++ tail) = readHex text := by
  match text with
  | a :: b :: c :: d :: rest => rfl
  | [] | [_] | [_, _] | [_, _, _] =>
      cases tail with
      | nil => rfl
      | cons c tail => exact readHex_blank (h c rfl) (by simp)

theorem readLow_of_ne {c : Char} (rest : Text) (hc : c ≠ '\\') :
    readLow (c :: rest) = .ok none := by
  rw [readLow]
  rintro low heq
  cases heq
  exact hc rfl

theorem readLow_of_ne_u {c : Char} (rest : Text) (hc : c ≠ 'u') :
    readLow ('\\' :: c :: rest) = .ok none := by
  rw [readLow]
  rintro low heq
  cases heq
  exact hc rfl

theorem readLow_tail (h : StartsBlank tail) (text : Text) :
    readLow (text ++ tail) = readLow text := by
  cases text with
  | nil =>
      cases tail with
      | nil => rfl
      | cons c tail => exact readLow_of_ne tail (ne_of_isPySpace (h c rfl) (by decide))
  | cons c text =>
      by_cases hc : c = '\\'
      · subst hc
        cases text with
        | nil =>
            cases tail with
            | nil => rfl
            | cons c tail => exact readLow_of_ne_u tail (ne_of_isPySpace (h c rfl) (by decide))
        | cons d text =>
            by_cases hd : d = 'u'
            · subst hd
              rw [List.cons_append, List.cons_append, readLow, readLow, readHex_tail h]
            · rw [readLow_of_ne_u text hd]
              exact readLow_of_ne_u (text ++ tail) hd
      · rw [readLow_of_ne text hc]
        exact readLow_of_ne (text ++ tail) hc

theorem readUnicode_tail (h : StartsBlank tail) (text : Text) :
    readUnicode (text ++ tail) = readUnicode text := by
  rw [readUnicode, readUnicode, readHex_tail h]
  cases hread : readHex text with
  | none => rfl
  | some n =>
      obtain ⟨a, b, c, d, rest, rfl, -⟩ := readHex_eq_some hread
      have hdrop : (a :: b :: c :: d :: rest ++ tail).drop 4 = rest ++ tail := rfl
      rw [hdrop, readLow_tail h]
      rfl

theorem readEscape_tail (h : StartsBlank tail) (text : Text) :
    readEscape (text ++ tail) = readEscape text := by
  cases text with
  | nil =>
      cases tail with
      | nil => rfl
      | cons c tail =>
          have hne := fun d hd => @ne_of_isPySpace c d (h c rfl) hd
          have hquotes : ¬ (c = '"' ∨ c = '\\' ∨ c = '/') := by
            rintro (heq | heq | heq)
            · exact hne '"' (by decide) heq
            · exact hne '\\' (by decide) heq
            · exact hne '/' (by decide) heq
          show readEscape (c :: tail) = none
          rw [readEscape, if_neg (hne 'u' (by decide)), if_neg hquotes,
            if_neg (hne 'b' (by decide)), if_neg (hne 'f' (by decide)),
            if_neg (hne 'n' (by decide)), if_neg (hne 'r' (by decide)),
            if_neg (hne 't' (by decide))]
  | cons c text =>
      rw [List.cons_append, readEscape, readEscape, readUnicode_tail h]

/-- A string that is read is read so whatever comes behind the text. -/
theorem scanString_tail (h : StartsBlank tail) {text s rest : Text} {skipped : ℕ}
    (hscan : scanString skipped text = some (s, rest)) :
    scanString skipped (text ++ tail) = some (s, rest ++ tail) := by
  induction text generalizing skipped s with
  | nil =>
      cases skipped with
      | zero => cases hscan
      | succ skipped => cases hscan
  | cons c text ih =>
      cases skipped with
      | succ skipped => exact ih hscan
      | zero =>
          rw [scanString] at hscan
          rw [List.cons_append, scanString, readEscape_tail h]
          split_ifs at hscan ⊢
          · cases hscan
            rfl
          · split at hscan
            · cases hscan
            · obtain ⟨found, hfound, heq⟩ := Option.map_eq_some_iff.mp hscan
              cases heq
              rw [ih hfound]
              rfl
          · obtain ⟨found, hfound, heq⟩ := Option.map_eq_some_iff.mp hscan
            cases heq
            rw [ih hfound]
            rfl

/-! ## Numbers -/

theorem digitsIn_behind (h : StartsBlank tail) (text : Text) :
    digitsIn (text ++ tail) = digitsIn text ∧
      behindDigits (text ++ tail) = behindDigits text ++ tail := by
  induction text with
  | nil =>
      cases tail with
      | nil => exact ⟨rfl, rfl⟩
      | cons c tail =>
          have hc := isDigit_of_isPySpace (h c rfl)
          rw [List.nil_append, digitsIn, behindDigits, List.takeWhile_cons_of_neg (by simp [hc]),
            List.dropWhile_cons_of_neg (by simp [hc])]
          exact ⟨rfl, rfl⟩
  | cons c text ih =>
      simp only [digitsIn, behindDigits, List.cons_append, List.takeWhile_cons,
        List.dropWhile_cons] at ih ⊢
      cases c.isDigit with
      | true => exact ⟨congrArg (c :: ·) ih.1, ih.2⟩
      | false => exact ⟨rfl, rfl⟩

theorem scanWhole_tail (h : StartsBlank tail) {text whole rest : Text}
    (hscan : scanWhole text = some (whole, rest)) :
    scanWhole (text ++ tail) = some (whole, rest ++ tail) := by
  cases text with
  | nil => cases hscan
  | cons c text =>
      obtain ⟨hin, hbehind⟩ := digitsIn_behind h (c :: text)
      rw [List.cons_append] at hin hbehind ⊢
      rw [scanWhole] at hscan ⊢
      rw [hin, hbehind]
      split_ifs at hscan ⊢
      · cases hscan
        rfl
      · cases hscan
        rfl

theorem scanFraction_tail (h : StartsBlank tail) (text : Text) :
    scanFraction (text ++ tail) = ((scanFraction text).1, (scanFraction text).2 ++ tail) := by
  cases text with
  | nil =>
      cases tail with
      | nil => rfl
      | cons c tail =>
          have hpoint : c ≠ '.' := ne_of_isPySpace (h c rfl) (by decide)
          show scanFraction (c :: tail) = ([], c :: tail)
          rw [scanFraction, if_neg fun hc => hpoint hc.1]
  | cons c text =>
      obtain ⟨hin, hbehind⟩ := digitsIn_behind h text
      rw [List.cons_append, scanFraction, scanFraction, hin, hbehind]
      split_ifs
      · rfl
      · rfl

theorem scanSign_tail (h : StartsBlank tail) (text : Text) :
    scanSign (text ++ tail) = ((scanSign text).1, (scanSign text).2 ++ tail) := by
  cases text with
  | nil =>
      cases tail with
      | nil => rfl
      | cons c tail =>
          have hminus : c ≠ '-' := ne_of_isPySpace (h c rfl) (by decide)
          have hplus : c ≠ '+' := ne_of_isPySpace (h c rfl) (by decide)
          show scanSign (c :: tail) = (false, c :: tail)
          rw [scanSign, if_neg hminus, if_neg hplus]
  | cons c text =>
      rw [List.cons_append, scanSign, scanSign]
      split_ifs
      · rfl
      · rfl
      · rfl

theorem scanExponent_tail (h : StartsBlank tail) (text : Text) :
    scanExponent (text ++ tail) = ((scanExponent text).1, (scanExponent text).2 ++ tail) := by
  cases text with
  | nil =>
      cases tail with
      | nil => rfl
      | cons c tail =>
          have hletter : ¬ (c = 'e' ∨ c = 'E') := by
            rintro (heq | heq)
            · exact ne_of_isPySpace (h c rfl) (by decide) heq
            · exact ne_of_isPySpace (h c rfl) (by decide) heq
          show scanExponent (c :: tail) = (none, c :: tail)
          rw [scanExponent, if_neg fun hc => hletter hc.1]
  | cons c text =>
      obtain ⟨hin, hbehind⟩ := digitsIn_behind h (scanSign text).2
      rw [List.cons_append, scanExponent, scanExponent, scanSign_tail h]
      dsimp only
      rw [hin, hbehind]
      split_ifs
      · rfl
      · rfl
      · rfl

/-! ## Values -/

theorem skipBlanks_append_tail {text rest : Text} {c : Char} (h : skipBlanks text = c :: rest)
    (tail : Text) : skipBlanks (text ++ tail) = c :: (rest ++ tail) := by
  induction text with
  | nil => cases h
  | cons d text ih =>
      rw [skipBlanks, List.dropWhile_cons] at h
      rw [List.cons_append, skipBlanks, List.dropWhile_cons]
      split_ifs at h ⊢
      · exact ih h
      · cases h
        rfl

theorem skipBlanks_append_of_ne {text : Text} (h : skipBlanks text ≠ []) (tail : Text) :
    skipBlanks (text ++ tail) = skipBlanks text ++ tail := by
  cases hskip : skipBlanks text with
  | nil => exact absurd hskip h
  | cons c rest => exact skipBlanks_append_tail hskip tail

section Values

variable {F : Type}

theorem scanWord_tail {word text rest : Text} {value v : JsonValue F}
    (h : scanWord word value text = .ok (v, rest)) :
    scanWord word value (text ++ tail) = .ok (v, rest ++ tail) := by
  rw [scanWord] at h ⊢
  split_ifs at h with hword
  cases h
  rw [if_pos (hword.trans (List.prefix_append text tail)),
    List.drop_append_of_le_length hword.length_le]

variable [FloatText F]

theorem scanNumber_tail (h : StartsBlank tail) {negative : Bool} {text rest : Text}
    {v : JsonValue F} (hscan : scanNumber negative text = .ok (v, rest)) :
    scanNumber negative (text ++ tail) = .ok (v, rest ++ tail) := by
  rw [scanNumber] at hscan ⊢
  split at hscan
  · cases hscan
  · next whole behind hwhole =>
    rw [scanWhole_tail h hwhole]
    dsimp only at hscan ⊢
    rw [scanFraction_tail h]
    dsimp only
    rw [scanExponent_tail h]
    dsimp only
    split_ifs at hscan ⊢
    · cases hscan
      rfl
    · cases hscan
      rfl
    · cases hscan
      rfl

/-- A number starts with a digit. -/
theorem isDigit_of_scanNumber {negative : Bool} {text rest : Text} {v : JsonValue F}
    (hscan : scanNumber negative text = .ok (v, rest)) :
    ∃ c text', text = c :: text' ∧ c.isDigit = true := by
  rw [scanNumber] at hscan
  split at hscan
  · cases hscan
  · next whole behind hwhole =>
    cases text with
    | nil => cases hwhole
    | cons c text =>
        refine ⟨c, text, rfl, ?_⟩
        rw [scanWhole] at hwhole
        split_ifs at hwhole with hzero hdigit
        · rw [hzero]
          rfl
        · exact hdigit

/-- The scanner with more fuel, on the text with something behind it. -/
structure ReadsOn (F : Type) [FloatText F] (tail : Text) (fuel : ℕ) : Prop where
  value : ∀ (fuel' depth : ℕ) (text rest : Text) (v : JsonValue F), fuel ≤ fuel' →
    scanValue fuel depth text = .ok (v, rest) →
      scanValue fuel' depth (text ++ tail) = .ok (v, rest ++ tail)
  items : ∀ (fuel' depth : ℕ) (text rest : Text) (items : List (JsonValue F)), fuel ≤ fuel' →
    scanItems fuel depth text = .ok (items, rest) →
      scanItems fuel' depth (text ++ tail) = .ok (items, rest ++ tail)
  members : ∀ (fuel' depth : ℕ) (text rest : Text) (members : List (Text × JsonValue F)),
    fuel ≤ fuel' → scanMembers fuel depth text = .ok (members, rest) →
      scanMembers fuel' depth (text ++ tail) = .ok (members, rest ++ tail)

theorem ne_nil_of_scanValue {fuel depth : ℕ} {text rest : Text} {v : JsonValue F}
    (h : scanValue fuel depth text = .ok (v, rest)) : text ≠ [] := by
  rintro rfl
  cases fuel with
  | zero => cases h
  | succ fuel => cases h

theorem ne_nil_of_scanItems {fuel depth : ℕ} {text rest : Text} {items : List (JsonValue F)}
    (h : scanItems fuel depth text = .ok (items, rest)) : text ≠ [] := by
  cases fuel with
  | zero => cases h
  | succ fuel =>
      obtain ⟨item, behind, hitem, -⟩ := scanItems_eq_ok h
      exact ne_nil_of_scanValue hitem

theorem ne_nil_of_scanMembers {fuel depth : ℕ} {text rest : Text}
    {members : List (Text × JsonValue F)}
    (h : scanMembers fuel depth text = .ok (members, rest)) : text ≠ [] := by
  rintro rfl
  cases fuel with
  | zero => cases h
  | succ fuel => cases h

theorem ReadsOn.scanItems {fuel fuel' depth : ℕ} (ih : ReadsOn F tail fuel) (hle : fuel ≤ fuel')
    {text rest : Text} {items : List (JsonValue F)}
    (h : scanItems (fuel + 1) depth text = .ok (items, rest)) :
    Lib.scanItems (fuel' + 1) depth (text ++ tail) = .ok (items, rest ++ tail) := by
  obtain ⟨item, behindItem, hitem, hnext⟩ := scanItems_eq_ok h
  rw [Lib.scanItems, hitem] at h
  rw [Lib.scanItems, ih.value _ _ _ _ _ hle hitem]
  dsimp only at h ⊢
  rcases hnext with hlast | ⟨behindComma, others, hcomma, hothers⟩
  · rw [hlast] at h
    rw [skipBlanks_append_tail hlast]
    dsimp only at h ⊢
    rw [if_pos rfl] at h ⊢
    cases h
    rfl
  · rw [hcomma] at h
    rw [skipBlanks_append_tail hcomma]
    dsimp only at h ⊢
    rw [if_neg (by decide), if_pos rfl] at h ⊢
    rw [hothers] at h
    cases h
    rw [skipBlanks_append_of_ne (ne_nil_of_scanItems hothers), ih.items _ _ _ _ _ hle hothers]

theorem ReadsOn.scanMembers (hblank : StartsBlank tail) {fuel fuel' depth : ℕ}
    (ih : ReadsOn F tail fuel) (hle : fuel ≤ fuel') {text rest : Text}
    {members : List (Text × JsonValue F)}
    (h : scanMembers (fuel + 1) depth text = .ok (members, rest)) :
    Lib.scanMembers (fuel' + 1) depth (text ++ tail) = .ok (members, rest ++ tail) := by
  cases text with
  | nil => cases h
  | cons c text =>
      obtain ⟨key, behindKey, behindColon, value, behind, rfl, hkey, hcolon, hvalue, hnext⟩ :=
        scanMembers_eq_ok h
      rw [Lib.scanMembers, if_pos rfl, hkey] at h
      rw [List.cons_append, Lib.scanMembers, if_pos rfl, scanString_tail hblank hkey]
      dsimp only at h ⊢
      rw [hcolon] at h
      rw [skipBlanks_append_tail hcolon]
      dsimp only at h ⊢
      rw [if_pos rfl, hvalue] at h
      rw [if_pos rfl, skipBlanks_append_of_ne (ne_nil_of_scanValue hvalue),
        ih.value _ _ _ _ _ hle hvalue]
      dsimp only at h ⊢
      rcases hnext with hlast | ⟨behindComma, others, hcomma, hothers⟩
      · rw [hlast] at h
        rw [skipBlanks_append_tail hlast]
        dsimp only at h ⊢
        rw [if_pos rfl] at h ⊢
        cases h
        rfl
      · rw [hcomma] at h
        rw [skipBlanks_append_tail hcomma]
        dsimp only at h ⊢
        rw [if_neg (by decide), if_pos rfl] at h ⊢
        rw [hothers] at h
        cases h
        rw [skipBlanks_append_of_ne (ne_nil_of_scanMembers hothers),
          ih.members _ _ _ _ _ hle hothers]

/-- The scanner on a text that starts with no string, object or list. -/
def scanScalar (c : Char) (rest : Text) : Scan (JsonValue F) :=
  if c = 'n' then scanWord ['u', 'l', 'l'] .null rest
  else if c = 't' then scanWord ['r', 'u', 'e'] (.bool true) rest
  else if c = 'f' then scanWord ['a', 'l', 's', 'e'] (.bool false) rest
  else if c = 'N' then scanWord ['a', 'N'] (.float .nan) rest
  else if c = 'I' then scanWord ['n', 'f', 'i', 'n', 'i', 't', 'y'] (.float .infinity) rest
  else if c = '-' then
    if ['I', 'n', 'f', 'i', 'n', 'i', 't', 'y'] <+: rest then
      .ok (.float .negInfinity, rest.drop 8)
    else scanNumber true rest
  else scanNumber false (c :: rest)

theorem scanValue_scalar {c : Char} (hquote : c ≠ '"') (hbrace : c ≠ '{') (hbracket : c ≠ '[')
    (fuel depth : ℕ) (rest : Text) :
    scanValue (fuel + 1) depth (c :: rest) = (scanScalar c rest : Scan (JsonValue F)) := by
  rw [scanValue, if_neg hquote, if_neg hbrace, if_neg hbracket]
  rfl

theorem scanScalar_tail (hblank : StartsBlank tail) {c : Char} {text rest : Text}
    {v : JsonValue F} (h : scanScalar c text = .ok (v, rest)) :
    scanScalar c (text ++ tail) = .ok (v, rest ++ tail) := by
  rw [scanScalar] at h ⊢
  by_cases hminus : c = '-'
  · subst hminus
    rw [if_neg (by decide), if_neg (by decide), if_neg (by decide), if_neg (by decide),
      if_neg (by decide), if_pos rfl] at h ⊢
    split_ifs at h with hword
    · cases h
      have hlength : 8 ≤ text.length := hword.length_le
      rw [if_pos (hword.trans (List.prefix_append text tail)),
        List.drop_append_of_le_length hlength]
    · obtain ⟨d, digits, rfl, hd⟩ := isDigit_of_scanNumber h
      rw [if_neg]
      · exact scanNumber_tail hblank h
      · intro hstart
        rw [List.cons_append, List.cons_prefix_cons] at hstart
        rw [← hstart.1] at hd
        cases hd
  · rw [if_neg hminus] at h ⊢
    split_ifs at h ⊢
    · exact scanWord_tail h
    · exact scanWord_tail h
    · exact scanWord_tail h
    · exact scanWord_tail h
    · exact scanWord_tail h
    · exact scanNumber_tail hblank h

theorem ReadsOn.scanValue (hblank : StartsBlank tail) {fuel fuel' depth : ℕ}
    (ih : ReadsOn F tail fuel) (hle : fuel ≤ fuel') {text rest : Text} {v : JsonValue F}
    (h : scanValue (fuel + 1) depth text = .ok (v, rest)) :
    Lib.scanValue (fuel' + 1) depth (text ++ tail) = .ok (v, rest ++ tail) := by
  cases text with
  | nil => cases h
  | cons c text =>
      rw [List.cons_append]
      by_cases hquote : c = '"'
      · rw [Lib.scanValue, if_pos hquote] at h ⊢
        split at h
        · cases h
        · next s behind hstring =>
          cases h
          rw [scanString_tail hblank hstring]
      · by_cases hbrace : c = '{'
        · rw [Lib.scanValue, if_neg hquote, if_pos hbrace] at h ⊢
          obtain ⟨inner, hdepth, h⟩ := oneDeeper_eq_ok h
          rw [hdepth, oneDeeper]
          split_ifs at h with hempty
          · cases hskip : skipBlanks text with
            | nil =>
                rw [hskip] at hempty
                cases hempty
            | cons d behind =>
                rw [hskip] at h hempty
                cases h
                cases hempty
                rw [skipBlanks_append_tail hskip]
                rfl
          · split at h
            · cases h
            · next members behind hmembers =>
              cases h
              have hne := ne_nil_of_scanMembers hmembers
              have hhead : (skipBlanks text ++ tail).head? = (skipBlanks text).head? := by
                rw [List.head?_append_of_ne_nil _ hne]
              rw [skipBlanks_append_of_ne hne, hhead, if_neg hempty,
                ih.members _ _ _ _ _ hle hmembers]
        · by_cases hbracket : c = '['
          · rw [Lib.scanValue, if_neg hquote, if_neg hbrace, if_pos hbracket] at h ⊢
            obtain ⟨inner, hdepth, h⟩ := oneDeeper_eq_ok h
            rw [hdepth, oneDeeper]
            split_ifs at h with hempty
            · cases hskip : skipBlanks text with
              | nil =>
                  rw [hskip] at hempty
                  cases hempty
              | cons d behind =>
                  rw [hskip] at h hempty
                  cases h
                  cases hempty
                  rw [skipBlanks_append_tail hskip]
                  rfl
            · split at h
              · cases h
              · next items behind hitems =>
                cases h
                have hne := ne_nil_of_scanItems hitems
                have hhead : (skipBlanks text ++ tail).head? = (skipBlanks text).head? := by
                  rw [List.head?_append_of_ne_nil _ hne]
                rw [skipBlanks_append_of_ne hne, hhead, if_neg hempty,
                  ih.items _ _ _ _ _ hle hitems]
          · rw [scanValue_scalar hquote hbrace hbracket] at h ⊢
            exact scanScalar_tail hblank h

/-- What is read of a text is read of it with a blank and anything behind it. -/
theorem readsOn (F : Type) [FloatText F] (hblank : StartsBlank tail) (fuel : ℕ) :
    ReadsOn F tail fuel := by
  induction fuel with
  | zero => exact ⟨fun _ _ _ _ _ _ h => (by cases h), fun _ _ _ _ _ _ h => (by cases h),
      fun _ _ _ _ _ _ h => (by cases h)⟩
  | succ fuel ih =>
      refine ⟨?_, ?_, ?_⟩
      · intro fuel' depth text rest v hle h
        obtain ⟨more, rfl⟩ := Nat.exists_eq_succ_of_ne_zero (Nat.ne_of_gt (Nat.lt_of_lt_of_le
          (Nat.succ_pos fuel) hle))
        exact ih.scanValue hblank (Nat.le_of_succ_le_succ hle) h
      · intro fuel' depth text rest items hle h
        obtain ⟨more, rfl⟩ := Nat.exists_eq_succ_of_ne_zero (Nat.ne_of_gt (Nat.lt_of_lt_of_le
          (Nat.succ_pos fuel) hle))
        exact ih.scanItems (Nat.le_of_succ_le_succ hle) h
      · intro fuel' depth text rest members hle h
        obtain ⟨more, rfl⟩ := Nat.exists_eq_succ_of_ne_zero (Nat.ne_of_gt (Nat.lt_of_lt_of_le
          (Nat.succ_pos fuel) hle))
        exact ih.scanMembers hblank (Nat.le_of_succ_le_succ hle) h

end Values

end Blank

/-! ## Stripped texts -/

/-- A text is the stripped one between blanks. -/
theorem exists_around_stripChars (text : Text) :
    ∃ before behind, text = before ++ stripChars text ++ behind ∧
      (∀ c ∈ before, isPySpace c = true) ∧ ∀ c ∈ behind, isPySpace c = true := by
  have hfront := List.takeWhile_append_dropWhile (p := isPySpace) (l := text)
  have hback := List.takeWhile_append_dropWhile (p := isPySpace)
    (l := (text.dropWhile isPySpace).reverse)
  have hback' := congrArg List.reverse hback
  rw [List.reverse_append, List.reverse_reverse] at hback'
  refine ⟨text.takeWhile isPySpace,
    ((text.dropWhile isPySpace).reverse.takeWhile isPySpace).reverse, ?_, ?_, ?_⟩
  · rw [stripChars, List.append_assoc, hback', hfront]
  · exact List.all_eq_true.mp List.all_takeWhile
  · intro c hc
    rw [List.mem_reverse] at hc
    exact List.all_eq_true.mp List.all_takeWhile c hc

/-- The blanks around a text are those that JSON has. -/
def JsonBlanks (text : Text) : Prop :=
  (∀ c ∈ text.takeWhile isPySpace, isJsonSpace c = true) ∧
    ∀ c ∈ text.reverse.takeWhile isPySpace, isJsonSpace c = true

instance (text : Text) : Decidable (JsonBlanks text) :=
  inferInstanceAs (Decidable (_ ∧ _))

theorem isPySpace_of_isJsonSpace {c : Char} (h : isJsonSpace c = true) : isPySpace c = true := by
  simp only [isJsonSpace, Bool.or_eq_true, decide_eq_true_eq] at h
  rcases h with ((rfl | rfl) | rfl) | rfl
  all_goals decide

theorem takeWhile_isPySpace_append {before rest : Text} (h : ∀ c ∈ before, isPySpace c = true)
    (hrest : ∀ c ∈ rest.head?, isPySpace c = false) :
    (before ++ rest).takeWhile isPySpace = before := by
  rw [List.takeWhile_append_of_pos h]
  cases rest with
  | nil => exact List.append_nil before
  | cons c rest =>
      rw [List.takeWhile_cons_of_neg (by simp [hrest c rfl])]
      exact List.append_nil before

/-- The blanks of a text that is more than blanks. -/
theorem jsonBlanks_iff {before text behind : Text} (hne : text ≠ []) (hstripped : Stripped text)
    (hbefore : ∀ c ∈ before, isPySpace c = true) (hbehind : ∀ c ∈ behind, isPySpace c = true) :
    JsonBlanks (before ++ text ++ behind) ↔
      (∀ c ∈ before, isJsonSpace c = true) ∧ ∀ c ∈ behind, isJsonSpace c = true := by
  have hfront : (before ++ text ++ behind).takeWhile isPySpace = before := by
    rw [List.append_assoc]
    apply takeWhile_isPySpace_append hbefore
    intro c hc
    rw [List.head?_append_of_ne_nil _ hne] at hc
    exact hstripped.1 c hc
  have hback : (before ++ text ++ behind).reverse.takeWhile isPySpace = behind.reverse := by
    rw [List.reverse_append]
    apply takeWhile_isPySpace_append
    · exact fun c hc => hbehind c (List.mem_reverse.mp hc)
    · intro c hc
      rw [List.reverse_append, List.head?_append_of_ne_nil _ (List.reverse_ne_nil_iff.mpr hne),
        List.head?_reverse] at hc
      exact hstripped.2 c hc
  rw [JsonBlanks, hfront, hback]
  simp only [List.mem_reverse]

section Loads

variable {F : Type} [FloatText F]

/-- A blank starts no value. -/
theorem scanValue_blank {c : Char} (hc : isPySpace c = true) (fuel depth : ℕ) (rest : Text) :
    scanValue (fuel + 1) depth (c :: rest) = (.error .decode : Scan (JsonValue F)) := by
  have hne := fun d hd => @ne_of_isPySpace c d hc hd
  rw [scanValue_scalar (hne _ (by decide)) (hne _ (by decide)) (hne _ (by decide)), scanScalar,
    if_neg (hne 'n' (by decide)), if_neg (hne 't' (by decide)), if_neg (hne 'f' (by decide)),
    if_neg (hne 'N' (by decide)), if_neg (hne 'I' (by decide)), if_neg (hne '-' (by decide)),
    scanNumber, scanWhole, if_neg (hne '0' (by decide)), isDigit_of_isPySpace hc]
  rfl

/-- A text whose stripped text is read is read as the same value where JSON has the blanks around
it, and not at all where it does not. -/
theorem jsonLoads_of_stripChars {limit : ℕ} {text : Text} {v : JsonValue F}
    (h : jsonLoads limit (stripChars text) = .ok v) :
    jsonLoads limit text = if JsonBlanks text then .ok v else .error .decode := by
  obtain ⟨before, behind, htext, hbefore, hbehind⟩ := exists_around_stripChars text
  have hstripped := stripped_stripChars text
  revert h hstripped htext
  generalize stripChars text = inner
  rintro h rfl hstripped
  rw [jsonLoads] at h
  cases inner with
  | nil => cases h
  | cons c inner =>
      have hc : isPySpace c = false := hstripped.1 c rfl
      have hspace : isJsonSpace c = false := by
        by_contra hspace
        rw [isPySpace_of_isJsonSpace (Bool.not_eq_false _ ▸ hspace)] at hc
        cases hc
      have hskip : skipBlanks (c :: inner) = c :: inner :=
        List.dropWhile_cons_of_neg (by simp [hspace])
      rw [hskip] at h
      simp only [jsonBlanks_iff (List.cons_ne_nil c inner) hstripped hbefore hbehind]
      split at h
      · cases h
      · next value rest hscan =>
        split_ifs at h with hrest
        cases h
        by_cases hjson : ∀ d ∈ before, isJsonSpace d = true
        · have hstart : skipBlanks (before ++ c :: inner ++ behind) = c :: inner ++ behind := by
            rw [List.append_assoc, skipBlanks, List.dropWhile_append_of_pos hjson]
            exact List.dropWhile_cons_of_neg (by simp [hspace])
          have hlength : (c :: inner).length + 1 ≤ (before ++ c :: inner ++ behind).length + 1 := by
            simp only [List.length_append]
            omega
          rw [jsonLoads, hstart, (readsOn F (startsBlank_of_forall hbehind) _).value _ _ _ _ _
            hlength hscan]
          have hend : skipBlanks (rest ++ behind) = [] ↔ ∀ d ∈ behind, isJsonSpace d = true := by
            rw [skipBlanks, List.dropWhile_append_of_pos (List.dropWhile_eq_nil_iff.mp hrest),
              List.dropWhile_eq_nil_iff]
          simp only [hend, and_iff_right hjson]
        · rw [if_neg fun hboth => hjson hboth.1, jsonLoads]
          have hmore : skipBlanks before ≠ [] := fun hnil =>
            hjson (List.dropWhile_eq_nil_iff.mp hnil)
          rw [List.append_assoc, skipBlanks_append_of_ne hmore]
          cases hskipped : skipBlanks before with
          | nil => exact absurd hskipped hmore
          | cons d others =>
              have hd : isPySpace d = true :=
                hbefore d ((skipBlanks_suffix before).subset (hskipped ▸ List.mem_cons_self))
              rw [List.cons_append, List.cons_append, scanValue_blank hd]

end Loads

end CameraStack.Lib
