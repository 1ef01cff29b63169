/-
# Text as Python reads it

The string functions that readers of hand-edited files rest on: `str.strip`,
`str.splitlines` and `int`.  They work on lists of characters and are structurally
recursive, so a concrete text can be evaluated.

The last section is the round trip of line-oriented writers: what is written as one
clean line per item is read back as these lines.
-/

import Mathlib.Data.Int.Notation
import Mathlib.Data.List.Basic

namespace CameraStack.Lib

/-- A property that is decided for each character of a text. -/
theorem forall_mem_of_all {p : Char → Prop} [DecidablePred p] {cs : List Char}
    (h : cs.all (fun c => decide (p c)) = true) : ∀ c ∈ cs, p c := fun c hc =>
  of_decide_eq_true (List.all_eq_true.mp h c hc)

/-! ## Stripping -/

/-- `str.isspace` of one character. -/
def isPySpace (c : Char) : Bool :=
  let n := c.toNat
  (9 ≤ n && n ≤ 13) || (28 ≤ n && n ≤ 32) || n = 0x85 || n = 0xa0 || n = 0x1680 ||
    (0x2000 ≤ n && n ≤ 0x200a) || n = 0x2028 || n = 0x2029 || n = 0x202f || n = 0x205f ||
    n = 0x3000

/-- `str.strip` on characters. -/
def stripChars (cs : List Char) : List Char :=
  ((cs.dropWhile isPySpace).reverse.dropWhile isPySpace).reverse

/-- `str.strip`. -/
def pyStrip (s : String) : String := String.ofList (stripChars s.toList)

/-- No space at either end. -/
def Stripped (cs : List Char) : Prop :=
  (∀ c, cs.head? = some c → isPySpace c = false) ∧
    ∀ c, cs.getLast? = some c → isPySpace c = false

theorem dropWhile_eq_self_of_head {p : Char → Bool} {cs : List Char}
    (h : ∀ c, cs.head? = some c → p c = false) : cs.dropWhile p = cs := by
  cases cs with
  | nil => rfl
  | cons c cs => rw [List.dropWhile_cons_of_neg (by simp [h c rfl])]

theorem stripChars_eq_self {cs : List Char} (h : Stripped cs) : stripChars cs = cs := by
  rw [stripChars, dropWhile_eq_self_of_head h.1, dropWhile_eq_self_of_head, List.reverse_reverse]
  intro c hc
  rw [List.head?_reverse] at hc
  exact h.2 c hc

theorem head?_dropWhile_of {p : Char → Bool} {cs : List Char} {c : Char}
    (h : (cs.dropWhile p).head? = some c) : p c = false := by
  have hnot := List.head?_dropWhile_not p cs
  rw [h] at hnot
  simpa using hnot

theorem stripped_stripChars (cs : List Char) : Stripped (stripChars cs) := by
  constructor
  · intro c hc
    have hhead : ((cs.dropWhile isPySpace).head?) = some c := by
      rcases List.dropWhile_suffix isPySpace (l := (cs.dropWhile isPySpace).reverse) with
        ⟨front, hsplit⟩
      have hforward := congrArg List.reverse hsplit
      rw [List.reverse_append, List.reverse_reverse] at hforward
      rw [← hforward]
      cases hrest : ((cs.dropWhile isPySpace).reverse.dropWhile isPySpace).reverse with
      | nil => simp [stripChars, hrest] at hc
      | cons d rest => simpa [stripChars, hrest] using hc
    exact head?_dropWhile_of hhead
  · intro c hc
    rw [stripChars, List.getLast?_reverse] at hc
    exact head?_dropWhile_of hc

theorem pyStrip_pyStrip (s : String) : pyStrip (pyStrip s) = pyStrip s := by
  rw [pyStrip, pyStrip, String.toList_ofList, stripChars_eq_self (stripped_stripChars _)]

/-- Stripping only drops characters. -/
theorem mem_of_mem_stripChars {cs : List Char} {c : Char} (h : c ∈ stripChars cs) : c ∈ cs := by
  rw [stripChars, List.mem_reverse] at h
  have hmid := (List.dropWhile_suffix isPySpace).subset h
  rw [List.mem_reverse] at hmid
  exact (List.dropWhile_suffix isPySpace).subset hmid

/-- `str.rstrip` on characters. -/
def rstripChars (cs : List Char) : List Char := (cs.reverse.dropWhile isPySpace).reverse

theorem rstripChars_isPrefix (cs : List Char) : rstripChars cs <+: cs := by
  have hsuffix := List.dropWhile_suffix isPySpace (l := cs.reverse)
  rw [← List.reverse_prefix, List.reverse_reverse] at hsuffix
  exact hsuffix

/-! ## Searching -/

/-- What stands before the first occurrence of the needle and behind it. -/
def cutAt (needle : List Char) : List Char → Option (List Char × List Char)
  | [] => if needle = [] then some ([], []) else none
  | c :: cs =>
      if needle <+: c :: cs then some ([], (c :: cs).drop needle.length)
      else (cutAt needle cs).map fun parts => (c :: parts.1, parts.2)

/-- `str.replace`; the first argument counts the characters of an occurrence that are still to
be left out. -/
def replaceFrom (needle value : List Char) : ℕ → List Char → List Char
  | _, [] => []
  | skipped + 1, _ :: cs => replaceFrom needle value skipped cs
  | 0, c :: cs =>
      if needle <+: c :: cs then value ++ replaceFrom needle value (needle.length - 1) cs
      else c :: replaceFrom needle value 0 cs

/-- `str.replace` of a needle that is not empty. -/
def replaceAll (needle value cs : List Char) : List Char := replaceFrom needle value 0 cs

theorem cutAt_nil (needle : List Char) :
    cutAt needle [] = if needle = [] then some ([], []) else none := rfl

theorem cutAt_cons (needle : List Char) (c : Char) (cs : List Char) :
    cutAt needle (c :: cs) =
      if needle <+: c :: cs then some ([], (c :: cs).drop needle.length)
      else (cutAt needle cs).map fun parts => (c :: parts.1, parts.2) := rfl

theorem cutAt_eq_some {needle cs before rest : List Char}
    (h : cutAt needle cs = some (before, rest)) : cs = before ++ needle ++ rest := by
  induction cs generalizing before with
  | nil =>
      rw [cutAt_nil] at h
      split_ifs at h with hempty
      cases h
      rw [hempty]
      rfl
  | cons c cs ih =>
      rw [cutAt_cons] at h
      split_ifs at h with hhere
      · cases h
        exact List.prefix_iff_eq_append.mp hhere |>.symm
      · obtain ⟨⟨first, second⟩, hcut, heq⟩ := Option.map_eq_some_iff.mp h
        cases heq
        rw [ih hcut]
        rfl

theorem cutAt_append {needle : List Char} (hne : needle ≠ []) (tail : List Char) :
    cutAt needle (needle ++ tail) = some ([], tail) := by
  have hhere : needle <+: needle ++ tail := List.prefix_append needle tail
  cases needle with
  | nil => exact absurd rfl hne
  | cons c cs =>
      rw [List.cons_append] at hhere ⊢
      rw [cutAt_cons, if_pos hhere, ← List.cons_append, List.drop_left]

/-- A text is cut at the first occurrence of a single character. -/
theorem not_mem_of_cutAt {d : Char} {cs before rest : List Char}
    (h : cutAt [d] cs = some (before, rest)) : d ∉ before := by
  induction cs generalizing before with
  | nil =>
      rw [cutAt_nil, if_neg (List.cons_ne_nil d [])] at h
      cases h
  | cons c cs ih =>
      rw [cutAt_cons] at h
      split_ifs at h with hhere
      · cases h
        exact List.not_mem_nil
      · obtain ⟨⟨first, second⟩, hcut, heq⟩ := Option.map_eq_some_iff.mp h
        cases heq
        intro hmem
        rcases List.mem_cons.mp hmem with rfl | hmem
        · exact hhere (List.prefix_append [d] cs)
        · exact ih hcut hmem

/-- A text is cut at a character that stands nowhere before. -/
theorem cutAt_of_not_mem {d : Char} {front : List Char} (hd : d ∉ front) (tail : List Char) :
    cutAt [d] (front ++ d :: tail) = some (front, tail) := by
  induction front with
  | nil => exact cutAt_append (List.cons_ne_nil d []) tail
  | cons c front ih =>
      have hnot : ¬ [d] <+: c :: (front ++ d :: tail) := by
        intro h
        obtain ⟨rfl, -⟩ := List.cons_prefix_cons.mp h
        exact hd List.mem_cons_self
      rw [List.cons_append, cutAt_cons, if_neg hnot, ih fun h => hd (List.mem_cons_of_mem c h)]
      rfl

/-- A needle that begins before a character that it does not have ends before it. -/
theorem isPrefix_of_isPrefix_append_cons {needle front tail : List Char} {d : Char}
    (hd : d ∉ needle) (h : needle <+: front ++ d :: tail) : needle <+: front := by
  rcases List.prefix_or_prefix_of_prefix h (List.prefix_append front (d :: tail)) with
    hshort | ⟨more, rfl⟩
  · exact hshort
  · have hmore : more <+: d :: tail := (List.prefix_append_right_inj front).mp h
    cases more with
    | nil => exact ⟨[], by simp⟩
    | cons c cs =>
        obtain ⟨rfl, -⟩ := List.cons_prefix_cons.mp hmore
        exact absurd (List.mem_append_right front List.mem_cons_self) hd

/-- Where the needle is put behind a part of what stood before its first occurrence, with a
character between them that it does not have, it is found there. -/
theorem cutAt_moved {needle cs before rest front tail : List Char} {d : Char} (hd : d ∉ needle)
    (hne : needle ≠ []) (hcut : cutAt needle cs = some (before, rest)) (hfront : front <+: before) :
    cutAt needle (front ++ d :: (needle ++ tail)) = some (front ++ [d], tail) := by
  induction front generalizing cs before with
  | nil =>
      have hnot : ¬ needle <+: d :: (needle ++ tail) := fun h =>
        hne (List.prefix_nil.mp (@isPrefix_of_isPrefix_append_cons needle [] _ d hd h))
      rw [List.nil_append, cutAt_cons, if_neg hnot, cutAt_append hne]
      rfl
  | cons c front ih =>
      obtain ⟨more, rfl⟩ := hfront
      have hsplit := cutAt_eq_some hcut
      cases cs with
      | nil => cases hsplit
      | cons c' cs =>
          rw [cutAt_cons] at hcut
          split_ifs at hcut with hhere
          · cases hcut
          obtain ⟨⟨first, second⟩, hlater, heq⟩ := Option.map_eq_some_iff.mp hcut
          cases heq
          have hnot : ¬ needle <+: c :: (front ++ d :: (needle ++ tail)) := by
            intro h
            have hshort : needle <+: c :: front :=
              @isPrefix_of_isPrefix_append_cons needle (c :: front) _ d hd h
            refine hhere (hshort.trans ?_)
            rw [hsplit]
            exact ⟨more ++ needle ++ second, by simp⟩
          rw [List.cons_append, cutAt_cons, if_neg hnot, ih hlater (List.prefix_append front more)]
          rfl

/-- The text of an integer is its digits and a sign. -/
theorem mem_toString_int {n : ℤ} {c : Char} (h : c ∈ (toString n).toList) :
    c.isDigit = true ∨ c = '-' := by
  have hdigit : ∀ (m : ℕ) {c : Char}, c ∈ Nat.toDigits 10 m → c.isDigit = true := fun m c hmem =>
    Nat.isDigit_of_mem_toDigits (by decide) (by decide) hmem
  cases n with
  | ofNat m =>
      have hmem : c ∈ (Nat.repr m).toList := h
      left
      exact hdigit m (by simpa [Nat.repr] using hmem)
  | negSucc m =>
      have hmem : c ∈ ("-" ++ Nat.repr (m + 1)).toList := h
      simp only [Nat.repr, String.toList_append, List.mem_append, String.toList_ofList] at hmem
      rcases hmem with hminus | hrest
      · right
        simpa using hminus
      · exact Or.inl (hdigit (m + 1) hrest)

/-! ## Lines -/

/-- The characters that end a line. -/
def isLineBreak (c : Char) : Bool :=
  let n := c.toNat
  (10 ≤ n && n ≤ 13) || (28 ≤ n && n ≤ 30) || n = 0x85 || n = 0x2028 || n = 0x2029

/-- `str.splitlines`. -/
def splitLines : List Char → List (List Char)
  | [] => []
  | '\r' :: '\n' :: cs => [] :: splitLines cs
  | c :: cs =>
      if isLineBreak c then [] :: splitLines cs
      else
        match splitLines cs with
        | [] => [[c]]
        | line :: lines => (c :: line) :: lines

theorem splitLines_pair (cs : List Char) :
    splitLines ('\r' :: '\n' :: cs) = [] :: splitLines cs := rfl

/-- A character that is no line break is put in front of the first line. -/
theorem splitLines_cons {c : Char} (hc : isLineBreak c = false) (cs : List Char) :
    splitLines (c :: cs) =
      match splitLines cs with
      | [] => [[c]]
      | line :: lines => (c :: line) :: lines := by
  rw [splitLines]
  · simp [hc]
  · rintro _ rfl
    exact absurd hc (by decide)

/-- A line break in front of a text begins with an empty line, but for the pair `\r\n`. -/
theorem splitLines_break {c : Char} {cs : List Char} (hbreak : isLineBreak c = true)
    (hpair : ∀ rest, c = '\r' → cs = '\n' :: rest → False) :
    splitLines (c :: cs) = [] :: splitLines cs := by
  rw [splitLines]
  · rw [if_pos hbreak]
  · exact hpair

/-- One terminated line. -/
theorem splitLines_line {line : List Char} (h : ∀ c ∈ line, isLineBreak c = false)
    (rest : List Char) : splitLines (line ++ '\n' :: rest) = line :: splitLines rest := by
  induction line with
  | nil => exact splitLines_break (by decide) (by rintro _ ⟨⟩)
  | cons c line ih =>
      rw [List.cons_append, splitLines_cons (h c List.mem_cons_self),
        ih fun d hd => h d (List.mem_cons_of_mem _ hd)]

theorem splitLines_ne_nil {c : Char} {cs : List Char} : splitLines (c :: cs) ≠ [] := by
  by_cases hpair : ∃ rest, c = '\r' ∧ cs = '\n' :: rest
  · obtain ⟨rest, rfl, rfl⟩ := hpair
    exact List.cons_ne_nil _ _
  · by_cases hbreak : isLineBreak c = true
    · rw [splitLines_break hbreak fun rest hc hcs => hpair ⟨rest, hc, hcs⟩]
      exact List.cons_ne_nil _ _
    · rw [splitLines_cons (by simpa using hbreak)]
      split
      · exact List.cons_ne_nil _ _
      · exact List.cons_ne_nil _ _

/-- The lines of a terminated text come before those of what follows it. -/
theorem splitLines_append_newline (text rest : List Char) :
    splitLines (text ++ '\n' :: rest) = splitLines (text ++ ['\n']) ++ splitLines rest := by
  -- a character that is no line break goes in front of the first line on both sides
  have hinner : ∀ {c : Char} {text : List Char}, isLineBreak c = false →
      splitLines (text ++ '\n' :: rest) = splitLines (text ++ ['\n']) ++ splitLines rest →
      splitLines (c :: text ++ '\n' :: rest) =
        splitLines (c :: text ++ ['\n']) ++ splitLines rest := by
    intro c text hc ih
    rw [List.cons_append, List.cons_append, splitLines_cons hc, splitLines_cons hc, ih]
    cases hlines : splitLines (text ++ ['\n']) with
    | nil =>
        cases text with
        | nil => exact absurd hlines splitLines_ne_nil
        | cons d text => exact absurd hlines splitLines_ne_nil
    | cons line lines => rfl
  induction text using splitLines.induct with
  | case1 =>
      have hempty : ∀ c ∈ ([] : List Char), isLineBreak c = false := by simp
      exact splitLines_line hempty rest
  | case2 text ih =>
      rw [List.cons_append, List.cons_append, List.cons_append, List.cons_append,
        splitLines_pair, splitLines_pair, ih, List.cons_append]
  | case3 c text hnot hbreak ih =>
      cases text with
      | nil =>
          by_cases hc : c = '\r'
          · subst hc
            rfl
          · rw [List.cons_append, List.cons_append, splitLines_break hbreak (fun _ h _ => hc h),
              splitLines_break hbreak (fun _ h _ => hc h), ih]
            rfl
      | cons d text =>
          have hbreaks : ∀ more : List Char,
              splitLines (c :: d :: text ++ more) = [] :: splitLines (d :: text ++ more) := by
            intro more
            apply splitLines_break hbreak
            intro rest' hc hd
            exact hnot text hc (by rw [(List.cons.inj hd).1])
          rw [hbreaks, hbreaks, ih]
          rfl
  | case4 c text hnot hbreak hnil ih => exact hinner (by simpa using hbreak) ih
  | case5 c text hnot hbreak first lines hsplit ih => exact hinner (by simpa using hbreak) ih

/-- Terminated lines are read back. -/
theorem splitLines_flatMap {lines : List (List Char)}
    (h : ∀ line ∈ lines, ∀ c ∈ line, isLineBreak c = false) :
    splitLines (lines.flatMap fun line => line ++ ['\n']) = lines := by
  induction lines with
  | nil => rfl
  | cons line lines ih =>
      rw [List.flatMap_cons, List.append_assoc, List.singleton_append,
        splitLines_line (h line List.mem_cons_self),
        ih fun l hl => h l (List.mem_cons_of_mem _ hl)]

/-- No line holds a line break. -/
theorem not_isLineBreak_of_mem_splitLines {cs line : List Char} {c : Char}
    (hline : line ∈ splitLines cs) (hc : c ∈ line) : isLineBreak c = false := by
  induction cs using splitLines.induct generalizing line with
  | case1 => cases hline
  | case2 cs ih =>
      rw [splitLines_pair, List.mem_cons] at hline
      rcases hline with rfl | hline
      · simp at hc
      · exact ih hline hc
  | case3 d cs hnot hbreak ih =>
      rw [splitLines_break hbreak hnot, List.mem_cons] at hline
      rcases hline with rfl | hline
      · simp at hc
      · exact ih hline hc
  | case4 d cs hnot hbreak hnil ih =>
      have hd : isLineBreak d = false := by simpa using hbreak
      rw [splitLines_cons hd, hnil] at hline
      simp only [List.mem_singleton] at hline
      subst hline
      rw [List.mem_singleton] at hc
      exact hc ▸ hd
  | case5 d cs hnot hbreak first lines hsplit ih =>
      have hd : isLineBreak d = false := by simpa using hbreak
      rw [splitLines_cons hd, hsplit, List.mem_cons] at hline
      rcases hline with rfl | hline
      · rcases List.mem_cons.mp hc with rfl | hc
        · exact hd
        · exact ih (by rw [hsplit]; exact List.mem_cons_self) hc
      · exact ih (by rw [hsplit]; exact List.mem_cons_of_mem _ hline) hc

/-! ## Integers -/

/-- The zeros of the runs of ten decimal digits. -/
def decimalZeros : List ℕ :=
  [0x30, 0x660, 0x6f0, 0x7c0, 0x966, 0x9e6, 0xa66, 0xae6, 0xb66, 0xbe6, 0xc66, 0xce6, 0xd66,
    0xde6, 0xe50, 0xed0, 0xf20, 0x1040, 0x1090, 0x17e0, 0x1810, 0x1946, 0x19d0, 0x1a80, 0x1a90,
    0x1b50, 0x1bb0, 0x1c40, 0x1c50, 0xa620, 0xa8d0, 0xa900, 0xa9d0, 0xa9f0, 0xaa50, 0xabf0, 0xff10,
    0x104a0, 0x10d30, 0x11066, 0x110f0, 0x11136, 0x111d0, 0x112f0, 0x11450, 0x114d0, 0x11650,
    0x116c0, 0x11730, 0x118e0, 0x11950, 0x11c50, 0x11d50, 0x11da0, 0x11f50, 0x16a60, 0x16ac0,
    0x16b50, 0x1d7ce, 0x1d7d8, 0x1d7e2, 0x1d7ec, 0x1d7f6, 0x1e140, 0x1e2f0, 0x1e4f0, 0x1e950,
    0x1fbf0]

/-- The value of a decimal digit of any script. -/
def decimalValue (c : Char) : Option ℕ :=
  (decimalZeros.find? fun z => z ≤ c.toNat && c.toNat < z + 10).map fun z =>
    c.toNat - z

/-- Digits with single underscores between them; `afterDigit` tells whether an
underscore or the end may come next. -/
def digitsFrom (acc : ℕ) (afterDigit : Bool) : List Char → Option ℕ
  | [] => if afterDigit then some acc else none
  | c :: cs =>
      if c = '_' then if afterDigit then digitsFrom acc false cs else none
      else
        match decimalValue c with
        | none => none
        | some d => digitsFrom (10 * acc + d) true cs

/-- `int(str)` on characters. -/
def intOfChars (cs : List Char) : Option ℤ :=
  match stripChars cs with
  | '-' :: digits => (digitsFrom 0 false digits).map fun n => -(n : ℤ)
  | '+' :: digits => (digitsFrom 0 false digits).map fun n => (n : ℤ)
  | digits => (digitsFrom 0 false digits).map fun n => (n : ℤ)

end CameraStack.Lib
