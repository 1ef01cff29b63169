/-
# Words of a command line

`shlex.split` reads a line as a POSIX shell would: words are separated by blanks, single and
double quotes group, a backslash takes the next character as it is.  Inside double quotes the
backslash does so only for a double quote and for itself, and stays in front of any other
character.

The second half is about lines that a writer made of words, each printed bare or in double
quotes.  A writer that also puts a backslash in front of single quotes is read back with these
backslashes in place.
-/

import Mathlib.Data.List.Basic

namespace CameraStack.Lib

/-! ## Reading -/

/-- The blanks between words. -/
def isShellBlank (c : Char) : Bool := c = ' ' || c = '\t' || c = '\r' || c = '\n'

/-- The two kinds of quotes. -/
def isShellQuote (c : Char) : Bool := c = '"' || c = '\''

/-- Where the reader is: between words, in a word, in quotes, or behind a backslash that may
itself be in quotes. -/
inductive ShlexMode
  | blank
  | word
  | quoted (quote : Char)
  | escaped (within : Option Char)

/-- The words of the rest of a line, the first of them begun with a token. -/
def shlexGo : ShlexMode → List Char → List Char → Option (List (List Char))
  | .blank, _, [] => some []
  | .blank, _, c :: cs =>
      if isShellBlank c then shlexGo .blank [] cs
      else if c = '\\' then shlexGo (.escaped none) [] cs
      else if isShellQuote c then shlexGo (.quoted c) [] cs
      else shlexGo .word [c] cs
  | .word, token, [] => some [token]
  | .word, token, c :: cs =>
      if isShellBlank c then (shlexGo .blank [] cs).map fun words => token :: words
      else if isShellQuote c then shlexGo (.quoted c) token cs
      else if c = '\\' then shlexGo (.escaped none) token cs
      else shlexGo .word (token ++ [c]) cs
  | .quoted _, _, [] => none
  | .quoted quote, token, c :: cs =>
      if c = quote then shlexGo .word token cs
      else if c = '\\' ∧ quote = '"' then shlexGo (.escaped (some quote)) token cs
      else shlexGo (.quoted quote) (token ++ [c]) cs
  | .escaped _, _, [] => none
  | .escaped none, token, c :: cs => shlexGo .word (token ++ [c]) cs
  | .escaped (some quote), token, c :: cs =>
      if c = '\\' ∨ c = quote then shlexGo (.quoted quote) (token ++ [c]) cs
      else shlexGo (.quoted quote) (token ++ ['\\', c]) cs

/-- `shlex.split`; `none` when a quote is not closed or a backslash is the last character. -/
def shlexSplit (line : List Char) : Option (List (List Char)) := shlexGo .blank [] line

/-! ## Words that were printed -/

/-- A character that stands for itself outside quotes. -/
def isShellPlain (c : Char) : Bool := !isShellBlank c && !isShellQuote c && c != '\\'

/-- A backslash in front of quotes and backslashes. -/
def backslashed (w : List Char) : List Char :=
  w.flatMap fun c => if isShellQuote c || c = '\\' then ['\\', c] else [c]

/-- A word in double quotes. -/
def inQuotes (w : List Char) : List Char := '"' :: (backslashed w ++ ['"'])

/-- What is read of a word that was printed in quotes. -/
def keptBackslashes (w : List Char) : List Char :=
  w.flatMap fun c => if c = '\'' then ['\\', c] else [c]

/-- A printed text is read as a word, whatever follows it. -/
def ReadAs (printed w : List Char) : Prop :=
  ∀ rest, shlexGo .blank [] (printed ++ rest) = shlexGo .word w rest

theorem shlexGo_plain {w : List Char} (h : w.all isShellPlain = true) (token rest : List Char) :
    shlexGo .word token (w ++ rest) = shlexGo .word (token ++ w) rest := by
  induction w generalizing token with
  | nil => rw [List.append_nil, List.nil_append]
  | cons c w ih =>
      simp only [List.all_cons, Bool.and_eq_true] at h
      obtain ⟨hc, hw⟩ := h
      simp only [isShellPlain, Bool.and_eq_true, Bool.not_eq_true', bne_iff_ne, ne_eq] at hc
      obtain ⟨⟨hblank, hquote⟩, hback⟩ := hc
      rw [List.cons_append, shlexGo, if_neg (by simp [hblank]), if_neg (by simp [hquote]),
        if_neg hback, ih hw, List.append_assoc, List.singleton_append]

/-- A plain word is read as it is. -/
theorem readAs_plain {w : List Char} (hne : w ≠ []) (h : w.all isShellPlain = true) :
    ReadAs w w := by
  intro rest
  cases w with
  | nil => exact absurd rfl hne
  | cons c w =>
      simp only [List.all_cons, Bool.and_eq_true] at h
      obtain ⟨hc, hw⟩ := h
      simp only [isShellPlain, Bool.and_eq_true, Bool.not_eq_true', bne_iff_ne, ne_eq] at hc
      obtain ⟨⟨hblank, hquote⟩, hback⟩ := hc
      rw [List.cons_append, shlexGo, if_neg (by simp [hblank]), if_neg hback,
        if_neg (by simp [hquote]), shlexGo_plain hw]
      rfl

theorem shlexGo_backslashed (w token rest : List Char) :
    shlexGo (.quoted '"') token (backslashed w ++ '"' :: rest) =
      shlexGo .word (token ++ keptBackslashes w) rest := by
  induction w generalizing token with
  | nil => simp [backslashed, keptBackslashes, shlexGo]
  | cons c w ih =>
      have htail : backslashed (c :: w) =
          (if isShellQuote c || c = '\\' then ['\\', c] else [c]) ++ backslashed w := rfl
      have hkept : keptBackslashes (c :: w) =
          (if c = '\'' then ['\\', c] else [c]) ++ keptBackslashes w := rfl
      rw [htail, hkept]
      by_cases hdouble : c = '"'
      · subst hdouble
        simp [isShellQuote, shlexGo, ih]
      · by_cases hback : c = '\\'
        · subst hback
          simp [isShellQuote, shlexGo, ih]
        · by_cases hsingle : c = '\''
          · subst hsingle
            simp [isShellQuote, shlexGo, ih]
          · simp [isShellQuote, shlexGo, hdouble, hback, hsingle, ih]

/-- A word in double quotes keeps the backslashes in front of its single quotes. -/
theorem readAs_inQuotes (w : List Char) : ReadAs (inQuotes w) (keptBackslashes w) := by
  intro rest
  have h := shlexGo_backslashed w [] rest
  rw [List.nil_append] at h
  rw [← h]
  simp [inQuotes, shlexGo, isShellBlank, isShellQuote]

/-- A line of words is read as these words. -/
theorem shlexSplit_intercalate {printed words : List (List Char)}
    (h : List.Forall₂ ReadAs printed words) :
    shlexSplit (List.intercalate [' '] printed) = some words := by
  induction h with
  | nil => rfl
  | @cons text word texts words hfirst hrest ih =>
      cases hrest with
      | nil =>
          have hlast := hfirst []
          rw [List.append_nil] at hlast
          rw [List.intercalate_singleton, shlexSplit, hlast]
          rfl
      | @cons text' word' texts words hsecond htail =>
          rw [List.intercalate_cons_cons, shlexSplit, List.append_assoc, hfirst]
          show (shlexSplit (List.intercalate [' '] (text' :: texts))).map _ = _
          rw [ih]
          rfl

/-- Without single quotes nothing is added. -/
theorem keptBackslashes_eq_self {w : List Char} (h : '\'' ∉ w) : keptBackslashes w = w := by
  induction w with
  | nil => rfl
  | cons c w ih =>
      have hc : '\'' ≠ c := fun heq => h (heq ▸ List.mem_cons_self)
      have hw : '\'' ∉ w := fun hmem => h (List.mem_cons_of_mem _ hmem)
      show (if c = '\'' then ['\\', c] else [c]) ++ keptBackslashes w = c :: w
      rw [if_neg (Ne.symm hc), ih hw, List.singleton_append]

/-- Only a word without single quotes is read as one. -/
theorem eq_of_keptBackslashes_eq {w v : List Char} (h : keptBackslashes w = v) (hv : '\'' ∉ v) :
    w = v := by
  rw [← h]
  apply (keptBackslashes_eq_self ?_).symm
  intro hw
  apply hv
  rw [← h]
  exact List.mem_flatMap.mpr ⟨_, hw, by simp⟩

/-! ## Lines of words -/

/-- Two words that follow each other stand next to each other in the line. -/
theorem infix_intercalate (before after : List (List Char)) (x y : List Char) :
    x ++ ' ' :: y <:+: List.intercalate [' '] (before ++ x :: y :: after) := by
  have htail : y <+: List.intercalate [' '] (y :: after) := by
    cases after with
    | nil =>
        have hsingle : y ++ [] = List.intercalate [' '] [y] := by
          rw [List.append_nil, List.intercalate_singleton]
        exact ⟨[], hsingle⟩
    | cons z after =>
        rw [List.intercalate_cons_cons, List.append_assoc]
        exact List.prefix_append _ _
  induction before with
  | nil =>
      rw [List.nil_append, List.intercalate_cons_cons, List.append_assoc]
      exact ((List.prefix_append_right_inj x).mpr
        (List.prefix_cons_inj ' ' |>.mpr htail)).isInfix
  | cons w before ih =>
      have hne : ∃ v rest, before ++ x :: y :: after = v :: rest := by
        cases before with
        | nil => exact ⟨x, _, rfl⟩
        | cons v before => exact ⟨v, _, rfl⟩
      obtain ⟨v, rest, hrest⟩ := hne
      rw [List.cons_append, hrest, List.intercalate_cons_cons, ← hrest]
      exact ih.trans (List.suffix_append _ _).isInfix

/-- A line has the characters of its words and blanks. -/
theorem mem_intercalate {words : List (List Char)} {c : Char}
    (h : c ∈ List.intercalate [' '] words) : c = ' ' ∨ ∃ w ∈ words, c ∈ w := by
  induction words with
  | nil => simp at h
  | cons w words ih =>
      cases words with
      | nil =>
          rw [List.intercalate_singleton] at h
          exact .inr ⟨w, List.mem_cons_self, h⟩
      | cons v words =>
          rw [List.intercalate_cons_cons, List.mem_append, List.mem_append] at h
          rcases h with (h | h) | h
          · exact .inr ⟨w, List.mem_cons_self, h⟩
          · exact .inl (List.mem_singleton.mp h)
          · rcases ih h with hblank | ⟨u, hu, hc⟩
            · exact .inl hblank
            · exact .inr ⟨u, List.mem_cons_of_mem _ hu, hc⟩

theorem mem_inQuotes {w : List Char} {c : Char} (h : c ∈ inQuotes w) :
    c = '"' ∨ c = '\\' ∨ c ∈ w := by
  simp only [inQuotes, List.mem_cons, List.mem_append, List.not_mem_nil, or_false] at h
  rcases h with h | h | h
  · exact .inl h
  · obtain ⟨d, hd, hc⟩ := List.mem_flatMap.mp h
    split at hc
    · simp only [List.mem_cons, List.not_mem_nil, or_false] at hc
      rcases hc with rfl | rfl
      · exact .inr (.inl rfl)
      · exact .inr (.inr hd)
    · rw [List.mem_singleton.mp hc]
      exact .inr (.inr hd)
  · exact .inl h

end CameraStack.Lib
