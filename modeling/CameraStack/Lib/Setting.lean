/-
# Settings in a text

`name\s*=\s*"([^"]*)"` is searched in a text and replaced there.  A text that is laid out as a row
of characters and of settings is read as this row: no other place matches, also after the values of
its settings are replaced.  The lines that are commented out are taken out by a pass of their own.
-/

import Mathlib.Data.List.Infix
import CameraStack.Lib.Text

namespace CameraStack.Lib

/-! ## The expression -/

/-- What is behind a name with which the text begins. -/
def dropName : List Char → List Char → Option (List Char)
  | [], cs => some cs
  | n :: name, c :: cs => if n = c then dropName name cs else none
  | _ :: _, [] => none

/-- `\s*` and one character behind it. -/
def afterSpaces (d : Char) : List Char → Option (List Char)
  | [] => none
  | c :: cs => if isPySpace c then afterSpaces d cs else if c = d then some cs else none

/-- `([^"]*)"`: the group, and what is behind the quote. -/
def untilQuote : List Char → Option (List Char × List Char)
  | [] => none
  | c :: cs =>
      if c = '"' then some ([], cs)
      else (untilQuote cs).map fun (value, rest) => (c :: value, rest)

/-- `\s*"([^"]*)"` -/
def quotedAt (cs : List Char) : Option (List Char × List Char) :=
  (afterSpaces '"' cs).bind untilQuote

/-- `\s*=\s*"([^"]*)"` -/
def assignedAt (cs : List Char) : Option (List Char × List Char) :=
  (afterSpaces '=' cs).bind quotedAt

/-- `name\s*=\s*"([^"]*)"` where the text begins: the group, and what is behind the match. -/
def settingAt (name cs : List Char) : Option (List Char × List Char) :=
  (dropName name cs).bind assignedAt

/-- A text, scanned from the left: a character at which nothing matches, or a match. -/
inductive Token where
  | char (c : Char)
  | found (matched value : List Char)

/-- `re.finditer` with the characters between the matches; `skip` characters belong to the match
before. -/
def scanFrom (name : List Char) : ℕ → List Char → List Token
  | _, [] => []
  | skip + 1, _ :: cs => scanFrom name skip cs
  | 0, c :: cs =>
      match settingAt name (c :: cs) with
      | none => .char c :: scanFrom name 0 cs
      | some (value, rest) =>
          .found ((c :: cs).take ((c :: cs).length - rest.length)) value ::
            scanFrom name (cs.length - rest.length) cs

def scan (name cs : List Char) : List Token := scanFrom name 0 cs

/-- `re.search`, with the group of the match. -/
def searchSetting (name cs : List Char) : Option (List Char) :=
  (scan name cs).findSome? fun
    | .char _ => none
    | .found _ value => some value

/-- `re.sub`, where `expand` makes the replacement of a match from the match and its group. -/
def subSetting (name : List Char) (expand : List Char → List Char → List Char) (cs : List Char) :
    List Char :=
  (scan name cs).flatMap fun
    | .char c => [c]
    | .found matched value => expand matched value

theorem untilQuote_append {value : List Char} (hvalue : '"' ∉ value) (rest : List Char) :
    untilQuote (value ++ '"' :: rest) = some (value, rest) := by
  induction value with
  | nil => rfl
  | cons c value ih =>
      have hc : c ≠ '"' := fun h => hvalue (h ▸ List.mem_cons_self)
      rw [List.cons_append, untilQuote, if_neg hc, ih fun h => hvalue (List.mem_cons_of_mem _ h)]
      rfl

theorem isSome_untilQuote {cs : List Char} (h : '"' ∈ cs) : (untilQuote cs).isSome = true := by
  obtain ⟨value, rest, hsplit, hvalue⟩ := List.eq_append_cons_of_mem h
  rw [hsplit, untilQuote_append hvalue]
  rfl

theorem afterSpaces_append {d : Char} (hd : isPySpace d = false) {spaces : List Char}
    (hspaces : ∀ c ∈ spaces, isPySpace c = true) (rest : List Char) :
    afterSpaces d (spaces ++ d :: rest) = some rest := by
  induction spaces with
  | nil => simp only [List.nil_append, afterSpaces, hd, Bool.false_eq_true, if_false, if_true]
  | cons c spaces ih =>
      obtain ⟨hc, hspaces⟩ := List.forall_mem_cons.mp hspaces
      rw [List.cons_append, afterSpaces, if_pos hc, ih hspaces]

theorem dropName_append (name rest : List Char) : dropName name (name ++ rest) = some rest := by
  induction name with
  | nil => rfl
  | cons n name ih => rw [List.cons_append, dropName, if_pos rfl, ih]

theorem isPrefix_of_dropName {name cs rest : List Char} (h : dropName name cs = some rest) :
    name <+: cs := by
  induction name generalizing cs with
  | nil => exact List.nil_prefix
  | cons n name ih =>
      cases cs with
      | nil => cases h
      | cons c cs =>
          rw [dropName] at h
          split_ifs at h with hc
          exact hc ▸ (List.prefix_cons_inj n).mpr (ih h)

theorem settingAt_eq_none {name cs : List Char} (h : ¬ name <+: cs) : settingAt name cs = none := by
  rw [settingAt]
  cases hdrop : dropName name cs with
  | none => rfl
  | some rest => exact absurd (isPrefix_of_dropName hdrop) h

theorem scanFrom_skip (name front cs : List Char) :
    scanFrom name front.length (front ++ cs) = scan name cs := by
  induction front with
  | nil => rfl
  | cons c front ih => exact ih

/-- No name begins in the front, where the scan passes it. -/
theorem scan_append {name front : List Char} (cs : List Char)
    (h : ∀ before after, front = before ++ after → after ≠ [] → ¬ name <+: after ++ cs) :
    scan name (front ++ cs) = front.map .char ++ scan name cs := by
  induction front with
  | nil => rfl
  | cons c front ih =>
      have hhere : settingAt name (c :: (front ++ cs)) = none :=
        settingAt_eq_none (h [] (c :: front) rfl (List.cons_ne_nil _ _))
      have hrest := ih fun before after hsplit hne =>
        h (c :: before) after (congrArg (List.cons c) hsplit) hne
      rw [scan] at hrest
      rw [List.cons_append, scan, scanFrom, hhere]
      exact congrArg (List.cons (Token.char c)) hrest

/-! ## Replacements -/

/-- A part of a replacement for an expression with one group: characters, the match, or the
group. -/
inductive TemplatePart where
  | literal (cs : List Char)
  | whole
  | group

def TemplatePart.expand (matched value : List Char) : TemplatePart → List Char
  | .literal cs => cs
  | .whole => matched
  | .group => value

def isOctDigit (c : Char) : Bool := '0'.toNat ≤ c.toNat && c.toNat ≤ '7'.toNat

/-- What `\g` refers to, with the number of characters that the reference takes. -/
def groupAt : List Char → Option (TemplatePart × ℕ)
  | '<' :: cs =>
      let name := cs.takeWhile fun c => c ≠ '>'
      if name.length = cs.length ∨ name = [] ∨ !name.all Char.isDigit then none
      else
        match Nat.ofDigitChars 10 name 0 with
        | 0 => some (.whole, name.length + 3)
        | 1 => some (.group, name.length + 3)
        | _ => none
  | _ => none

/-- A reference by number, or a character in octal. -/
def numberAt (c : Char) (cs : List Char) : Option (TemplatePart × ℕ) :=
  if c = '0' then
    let digits := (cs.take 2).takeWhile isOctDigit
    some (.literal [Char.ofNat (Nat.ofDigitChars 8 digits 0 % 256)], digits.length + 1)
  else
    match cs with
    | d :: e :: _ =>
        if isOctDigit c && isOctDigit d && isOctDigit e then
          let n := Nat.ofDigitChars 8 [c, d, e] 0
          if 255 < n then none else some (.literal [Char.ofNat n], 3)
        else if c = '1' ∧ !d.isDigit then some (.group, 1)
        else none
    | [d] => if c = '1' ∧ !d.isDigit then some (.group, 1) else none
    | [] => if c = '1' then some (.group, 1) else none

/-- The character that a letter behind a backslash stands for. -/
def letterEscape : Char → Option Char
  | 'a' => some '\x07'
  | 'b' => some '\x08'
  | 'f' => some '\x0c'
  | 'n' => some '\n'
  | 'r' => some '\r'
  | 't' => some '\t'
  | 'v' => some '\x0b'
  | '\\' => some '\\'
  | _ => none

/-- What a backslash means before a text, with the number of characters it takes; `none` is an
error of the expression. -/
def escapeAt : List Char → Option (TemplatePart × ℕ)
  | [] => none
  | c :: cs =>
      if c = 'g' then groupAt cs
      else if c.isDigit then numberAt c cs
      else
        match letterEscape c with
        | some d => some (.literal [d], 1)
        | none => if c.isAlpha then none else some (.literal ['\\', c], 1)

/-- The parts of a replacement; `skip` characters belong to the part before. -/
def templateFrom : ℕ → List Char → Option (List TemplatePart)
  | _, [] => some []
  | skip + 1, _ :: cs => templateFrom skip cs
  | 0, c :: cs =>
      if c = '\\' then
        match escapeAt cs with
        | none => none
        | some (part, taken) => (templateFrom taken cs).map (part :: ·)
      else (templateFrom 0 cs).map (.literal [c] :: ·)

/-- `re.sub` with a replacement that is a text; `none` is an error in the replacement. -/
def reSub (name replacement cs : List Char) : Option (List Char) :=
  (templateFrom 0 replacement).map fun parts =>
    subSetting name (fun matched value => parts.flatMap (TemplatePart.expand matched value)) cs

theorem templateFrom_plain {replacement : List Char} (h : '\\' ∉ replacement) :
    templateFrom 0 replacement = some (replacement.map fun c => .literal [c]) := by
  induction replacement with
  | nil => rfl
  | cons c cs ih =>
      have hc : c ≠ '\\' := fun hc => h (hc ▸ List.mem_cons_self)
      rw [templateFrom, if_neg hc, ih fun hmem => h (List.mem_cons_of_mem c hmem)]
      rfl

/-- A replacement without a backslash is put in as it is. -/
theorem reSub_plain {replacement : List Char} (h : '\\' ∉ replacement) (name cs : List Char) :
    reSub name replacement cs = some (subSetting name (fun _ _ => replacement) cs) := by
  rw [reSub, templateFrom_plain h, Option.map_some]
  congr 2
  funext matched value
  rw [List.flatMap_map]
  exact List.flatMap_singleton' replacement

/-! ## Lines that are commented out -/

/-- A line whose first character that is no space is `#`. -/
def commented : List Char → Bool
  | [] => false
  | c :: cs => if isPySpace c then commented cs else c = '#'

/-- A text without the lines that are commented out. -/
def activeText (cs : List Char) : List Char :=
  ['\n'].intercalate ((cs.splitOn '\n').filter fun line => !commented line)

theorem splitOn_append {d : Char} {front : List Char} (hfront : d ∉ front) (cs : List Char) :
    (front ++ cs).splitOn d = (cs.splitOn d).modifyHead (front ++ ·) := by
  induction front with
  | nil =>
      show cs.splitOn d = (cs.splitOn d).modifyHead id
      rw [List.modifyHead_id, id]
  | cons c front ih =>
      have hc : (c == d) = false := beq_eq_false_iff_ne.mpr fun h => hfront (h ▸ List.mem_cons_self)
      rw [List.cons_append, List.splitOn_cons_eq_if_modifyHead, hc,
        ih fun h => hfront (List.mem_cons_of_mem _ h), List.modifyHead_modifyHead]
      rfl

theorem flatMap_intercalate {α β : Type} (g : α → List β) (sep : List α) (lines : List (List α)) :
    (sep.intercalate lines).flatMap g =
      (sep.flatMap g).intercalate (lines.map fun line => line.flatMap g) := by
  induction lines with
  | nil => rfl
  | cons line lines ih =>
      cases lines with
      | nil => simp only [List.map_cons, List.map_nil, List.intercalate_singleton]
      | cons second lines =>
          rw [List.intercalate_cons_cons, List.flatMap_append, List.flatMap_append, ih]
          simp only [List.map_cons, List.intercalate_cons_cons]

theorem splitOnP_map {α : Type} {f : α → α} {p : α → Bool} (hp : ∀ x, p (f x) = p x) (xs : List α) :
    (xs.map f).splitOnP p = (xs.splitOnP p).map (List.map f) := by
  induction xs with
  | nil => rfl
  | cons x xs ih =>
      rw [List.map_cons, List.splitOnP_cons_eq_if_modifyHead, List.splitOnP_cons_eq_if_modifyHead,
        hp, ih]
      split_ifs
      · rfl
      · cases xs.splitOnP p with
        | nil => rfl
        | cons line lines => rfl

/-! ## Layouts -/

/-- Names of settings that all begin with one letter, which no name has twice. -/
structure SettingNames (ι : Type) where
  first : Char
  rest : ι → List Char
  first_plain : isPySpace first = false ∧ first ≠ '=' ∧ first ≠ '"' ∧ first ≠ '#'
  rest_plain : ∀ i, ∀ c ∈ rest i, isPySpace c = false ∧ c ≠ '=' ∧ c ≠ '"' ∧ c ≠ first
  /-- No name begins another one. -/
  distinct : ∀ i j, rest i <+: rest j → i = j

/-- A piece of a text: a character, or a setting with the spaces around its sign and its value. -/
inductive Piece (ι : Type) where
  | char (c : Char)
  | setting (i : ι) (left right value : List Char)

namespace SettingNames

variable {ι : Type} (names : SettingNames ι)

def name (i : ι) : List Char := names.first :: names.rest i

/-- The text of a setting behind its name. -/
def behind (left right value : List Char) : List Char :=
  left ++ '=' :: (right ++ '"' :: (value ++ ['"']))

def pieceText : Piece ι → List Char
  | .char c => [c]
  | .setting i left right value => names.name i ++ behind left right value

def text (pieces : List (Piece ι)) : List Char := pieces.flatMap names.pieceText

/-- A text is laid out as pieces where no setting begins at a character, and where no value holds a
name. -/
def LaidOut : List (Piece ι) → Prop
  | [] => True
  | .char c :: pieces =>
      (∀ i, settingAt (names.name i) (c :: names.text pieces) = none) ∧ LaidOut pieces
  | .setting _ left right value :: pieces =>
      ((∀ c ∈ left, isPySpace c = true) ∧ (∀ c ∈ right, isPySpace c = true) ∧ '"' ∉ value ∧
        ∀ i, ¬ names.name i <:+: value) ∧ LaidOut pieces

theorem text_cons (piece : Piece ι) (pieces : List (Piece ι)) :
    names.text (piece :: pieces) = names.pieceText piece ++ names.text pieces := List.flatMap_cons

theorem settingAt_setting (i : ι) {left right value : List Char}
    (hleft : ∀ c ∈ left, isPySpace c = true) (hright : ∀ c ∈ right, isPySpace c = true)
    (hvalue : '"' ∉ value) (rest : List Char) :
    settingAt (names.name i) (names.pieceText (.setting i left right value) ++ rest) =
      some (value, rest) := by
  have htext : names.pieceText (.setting i left right value) ++ rest =
      names.name i ++ (left ++ '=' :: (right ++ '"' :: (value ++ '"' :: rest))) := by
    simp only [pieceText, behind, List.append_assoc, List.cons_append, List.nil_append]
  rw [htext, settingAt, dropName_append, Option.bind_some, assignedAt,
    afterSpaces_append (by decide) hleft, Option.bind_some, quotedAt,
    afterSpaces_append (by decide) hright, Option.bind_some, untilQuote_append hvalue]

variable {names}

/-- A name begins where its first letter stands. -/
theorem name_begins {i : ι} {c : Char} {cs : List Char} (h : names.name i <+: c :: cs) :
    c = names.first ∧ names.rest i <+: cs := by
  obtain ⟨hc, hrest⟩ := List.cons_prefix_cons.mp h
  exact ⟨hc.symm, hrest⟩

/-- Behind a name comes something that no name has, so that no other name begins there. -/
theorem eq_of_begins {i j : ι} {d : Char} {tail : List Char} (hd : ∀ k, d ∉ names.rest k)
    (h : names.rest i <+: names.rest j ++ d :: tail) : i = j :=
  names.distinct i j (isPrefix_of_isPrefix_append_cons (hd i) h)

theorem quote_not_mem_name (i : ι) : '"' ∉ names.name i := by
  intro h
  rcases List.mem_cons.mp h with hfirst | hrest
  · exact names.first_plain.2.2.1 hfirst.symm
  · exact (names.rest_plain i _ hrest).2.2.1 rfl

/-- What stands behind the first letter of a setting and before its value. -/
theorem ne_first_of_mem {j : ι} {left right : List Char} (hleft : ∀ c ∈ left, isPySpace c = true)
    (hright : ∀ c ∈ right, isPySpace c = true) {c : Char}
    (hc : c ∈ names.rest j ++ (left ++ '=' :: (right ++ ['"']))) : c ≠ names.first := by
  obtain ⟨hspace, hsign, hquote, -⟩ := names.first_plain
  have hne : ∀ {d : Char}, isPySpace d = true → d ≠ names.first := fun hd h => by
    rw [h, hspace] at hd
    cases hd
  rcases List.mem_append.mp hc with hrest | hc
  · exact (names.rest_plain j c hrest).2.2.2
  rcases List.mem_append.mp hc with hl | hc
  · exact hne (hleft c hl)
  rcases List.mem_cons.mp hc with rfl | hc
  · exact hsign.symm
  rcases List.mem_append.mp hc with hr | hc
  · exact hne (hright c hr)
  · exact List.mem_singleton.mp hc ▸ hquote.symm

/-- No name begins behind the first letter of a setting. -/
theorem not_prefix_behind {i j : ι} {left right value cs before after : List Char}
    (hleft : ∀ c ∈ left, isPySpace c = true) (hright : ∀ c ∈ right, isPySpace c = true)
    (hvalue : ¬ names.name i <:+: value)
    (hsplit : names.rest j ++ behind left right value = before ++ after) (hne : after ≠ []) :
    ¬ names.name i <+: after ++ cs := by
  -- In the value the name would have to end before the quote.
  have hinside : ∀ front, value ++ ['"'] = front ++ after → ¬ names.name i <+: after ++ cs := by
    intro front hfront hname
    obtain ⟨value', last, rfl⟩ := (List.eq_nil_or_concat after).resolve_left hne
    have hparts : value = front ++ value' ∧ '"' = last := by
      rw [List.concat_eq_append, ← List.append_assoc] at hfront
      exact List.append_singleton_inj.mp hfront
    obtain ⟨rfl, rfl⟩ := hparts
    rw [List.concat_eq_append, List.append_assoc, List.singleton_append] at hname
    have hshort := isPrefix_of_isPrefix_append_cons (quote_not_mem_name i) hname
    exact hvalue (hshort.isInfix.trans (List.suffix_append front value').isInfix)
  have hparts : (names.rest j ++ (left ++ '=' :: (right ++ ['"']))) ++ (value ++ ['"']) =
      before ++ after := by
    rw [← hsplit]
    simp only [behind, List.append_assoc, List.cons_append, List.nil_append]
  rcases List.append_eq_append_iff.mp hparts with ⟨front, -, hfront⟩ | ⟨more, hmore, rfl⟩
  · exact hinside front hfront
  · cases more with
    | nil => exact hinside [] rfl
    | cons c more =>
        intro hname
        have hmem : c ∈ names.rest j ++ (left ++ '=' :: (right ++ ['"'])) :=
          hmore ▸ List.mem_append_right before List.mem_cons_self
        exact ne_first_of_mem hleft hright hmem (name_begins hname).1

theorem not_prefix_of_ne {i j : ι} (hij : i ≠ j) {left right value cs : List Char}
    (hleft : ∀ c ∈ left, isPySpace c = true) :
    ¬ names.name i <+: names.pieceText (.setting j left right value) ++ cs := by
  intro hname
  have hrest : names.rest i <+: names.rest j ++ behind left right value ++ cs :=
    (name_begins hname).2
  rw [behind, List.append_assoc] at hrest
  cases left with
  | nil =>
      exact hij (eq_of_begins (fun k hmem => (names.rest_plain k _ hmem).2.1 rfl) hrest)
  | cons d left =>
      refine hij (eq_of_begins (fun k hmem => ?_) hrest)
      have hd := hleft d List.mem_cons_self
      rw [(names.rest_plain k _ hmem).1] at hd
      cases hd

section Scan

variable [DecidableEq ι]

/-- What a scan for one name makes of a piece. -/
def tokens (names : SettingNames ι) (i : ι) : Piece ι → List Token
  | .char c => [.char c]
  | .setting j left right value =>
      if i = j then [.found (names.pieceText (.setting j left right value)) value]
      else (names.pieceText (.setting j left right value)).map .char

/-- A text is scanned as it is laid out. -/
theorem scan_text (i : ι) {pieces : List (Piece ι)} (h : names.LaidOut pieces) :
    scan (names.name i) (names.text pieces) = pieces.flatMap (names.tokens i) := by
  induction pieces with
  | nil => rfl
  | cons piece pieces ih =>
      rw [List.flatMap_cons, text_cons]
      cases piece with
      | char c =>
          rw [← ih h.2]
          show scanFrom _ 0 (c :: names.text pieces) = _
          rw [scanFrom, h.1 i]
          rfl
      | setting j left right value =>
          obtain ⟨⟨hleft, hright, hquote, hnames⟩, hpieces⟩ := h
          rw [← ih hpieces, tokens]
          split_ifs with hij
          · subst hij
            have hat := settingAt_setting names i hleft hright hquote (names.text pieces)
            have hlength : (names.pieceText (.setting i left right value) ++
                names.text pieces).length - (names.text pieces).length =
                  (names.pieceText (.setting i left right value)).length := by
              rw [List.length_append, Nat.add_sub_cancel]
            obtain ⟨tail, htail⟩ : ∃ tail,
                names.pieceText (.setting i left right value) = names.first :: tail := ⟨_, rfl⟩
            rw [htail, List.cons_append] at hat hlength ⊢
            rw [scan, scanFrom, hat]
            dsimp only
            rw [hlength, ← List.cons_append, List.take_left, List.length_append,
              Nat.add_sub_cancel, scanFrom_skip]
            rfl
          · refine scan_append _ fun before after hsplit hne => ?_
            cases before with
            | nil =>
                rw [List.nil_append] at hsplit
                exact hsplit ▸ not_prefix_of_ne hij hleft
            | cons c before =>
                exact not_prefix_behind hleft hright (hnames i) (List.cons.inj hsplit).2 hne

/-- The value of a setting of one name. -/
def valueOf (i : ι) : Piece ι → Option (List Char)
  | .char _ => none
  | .setting j _ _ value => if i = j then some value else none

/-- A setting of one name gets a new value, and new spaces. -/
def revalue (i : ι) (left right value : List Char) : Piece ι → Piece ι
  | .char c => .char c
  | .setting j left' right' value' =>
      if i = j then .setting i left right value else .setting j left' right' value'

/-- The first match of a name is its first setting. -/
theorem search_text (i : ι) {pieces : List (Piece ι)} (h : names.LaidOut pieces) :
    searchSetting (names.name i) (names.text pieces) = pieces.findSome? (valueOf i) := by
  rw [searchSetting, scan_text i h]
  clear h
  induction pieces with
  | nil => rfl
  | cons piece pieces ih =>
      rw [List.flatMap_cons, List.findSome?_append, ih]
      cases piece with
      | char c => rfl
      | setting j left right value =>
          rw [tokens, List.findSome?_cons, valueOf]
          split_ifs with hij
          · rfl
          · have hnone : ∀ cs : List Char, (cs.map Token.char).findSome? (fun
                | .char _ => none
                | .found _ value => some value) = (none : Option (List Char)) := fun cs => by
              induction cs with
              | nil => rfl
              | cons c cs ih => exact ih
            rw [hnone]
            rfl

/-- A replacement that is a setting of the name itself revalues the settings of the name. -/
theorem sub_text (i : ι) (left right value : List Char) {pieces : List (Piece ι)}
    (h : names.LaidOut pieces) :
    subSetting (names.name i) (fun _ _ => names.pieceText (.setting i left right value))
      (names.text pieces) = names.text (pieces.map (revalue i left right value)) := by
  rw [subSetting, scan_text i h, List.flatMap_assoc, text, List.flatMap_map]
  congr 1
  funext piece
  cases piece with
  | char c => rfl
  | setting j left' right' value' =>
      rw [tokens, revalue]
      split_ifs with hij
      · exact List.append_nil _
      · rw [List.flatMap_map]
        exact List.flatMap_singleton' _

end Scan

/-! ## New values -/

/-- The characters stay, and a setting stays a setting. -/
structure Revalues (f : Piece ι → Piece ι) : Prop where
  char : ∀ c, f (.char c) = .char c
  setting : ∀ i left right value, ∃ j left' right' value',
    f (.setting i left right value) = .setting j left' right' value'

theorem revalues_revalue [DecidableEq ι] (i : ι) (left right value : List Char) :
    Revalues (revalue i left right value) where
  char _ := rfl
  setting j left' right' value' := by
    rw [revalue]
    split_ifs
    · exact ⟨_, _, _, _, rfl⟩
    · exact ⟨_, _, _, _, rfl⟩

/-- Two texts that are the same as far as a first setting. -/
inductive Alike (first : Char) : List Char → List Char → Prop where
  | nil : Alike first [] []
  | char (c : Char) {cs ds : List Char} : Alike first cs ds → Alike first (c :: cs) (c :: ds)
  | setting {cs ds : List Char} : '"' ∈ cs → '"' ∈ ds → Alike first (first :: cs) (first :: ds)

theorem text_setting (i : ι) (left right value : List Char) (pieces : List (Piece ι)) :
    ∃ tail, names.text (.setting i left right value :: pieces) = names.first :: tail ∧
      '"' ∈ tail := by
  refine ⟨names.rest i ++ behind left right value ++ names.text pieces, text_cons names _ _, ?_⟩
  have hbehind : '"' ∈ behind left right value :=
    List.mem_append_right _ (List.mem_cons_of_mem _ (List.mem_append_right _ List.mem_cons_self))
  exact List.mem_append_left _ (List.mem_append_right _ hbehind)

theorem Revalues.alike {f : Piece ι → Piece ι} (hf : Revalues f) (pieces : List (Piece ι)) :
    Alike names.first (names.text pieces) (names.text (pieces.map f)) := by
  induction pieces with
  | nil => exact .nil
  | cons piece pieces ih =>
      rw [List.map_cons]
      cases piece with
      | char c =>
          rw [hf.char, text_cons, text_cons]
          exact .char c ih
      | setting i left right value =>
          obtain ⟨j, left', right', value', hset⟩ := hf.setting i left right value
          obtain ⟨tail, htext, hquote⟩ := @text_setting _ names i left right value pieces
          obtain ⟨tail', htext', hquote'⟩ :=
            @text_setting _ names j left' right' value' (pieces.map f)
          rw [hset, htext, htext']
          exact .setting hquote hquote'

section Alike

variable {cs ds : List Char} (h : Alike names.first cs ds)

include h

theorem Alike.untilQuote : (untilQuote cs).isSome = (untilQuote ds).isSome := by
  induction h with
  | nil => rfl
  | char c _ ih =>
      rw [Lib.untilQuote, Lib.untilQuote]
      split_ifs
      · rfl
      · rw [Option.isSome_map, Option.isSome_map, ih]
  | setting hcs hds =>
      rw [isSome_untilQuote (List.mem_cons_of_mem _ hcs),
        isSome_untilQuote (List.mem_cons_of_mem _ hds)]

/-- A setting does not begin with a space, nor with the character behind the spaces. -/
theorem Alike.afterSpaces {d : Char} (hd : names.first ≠ d)
    {next : List Char → Option (List Char × List Char)}
    (hnext : ∀ {cs ds}, Alike names.first cs ds → (next cs).isSome = (next ds).isSome) :
    ((afterSpaces d cs).bind next).isSome = ((afterSpaces d ds).bind next).isSome := by
  induction h with
  | nil => rfl
  | char c hrest ih =>
      rw [Lib.afterSpaces, Lib.afterSpaces]
      split_ifs
      · exact ih
      · exact hnext hrest
      · rfl
  | setting _ _ =>
      rw [Lib.afterSpaces, Lib.afterSpaces, names.first_plain.1, if_neg Bool.false_ne_true,
        if_neg Bool.false_ne_true, if_neg hd, if_neg hd]

theorem Alike.assignedAt : (assignedAt cs).isSome = (assignedAt ds).isSome :=
  h.afterSpaces names.first_plain.2.1 fun h =>
    h.afterSpaces names.first_plain.2.2.1 Alike.untilQuote

theorem Alike.dropName {rest : List Char} (hrest : names.first ∉ rest) :
    ((dropName rest cs).bind Lib.assignedAt).isSome =
      ((dropName rest ds).bind Lib.assignedAt).isSome := by
  induction rest generalizing cs ds with
  | nil => exact h.assignedAt
  | cons n rest ih =>
      have hn : n ≠ names.first := fun hn => hrest (hn ▸ List.mem_cons_self)
      cases h with
      | nil => rfl
      | char c htail =>
          rw [Lib.dropName, Lib.dropName]
          split_ifs
          · exact ih htail fun hmem => hrest (List.mem_cons_of_mem _ hmem)
          · rfl
      | setting _ _ =>
          rw [Lib.dropName, Lib.dropName, if_neg hn, if_neg hn]

theorem Alike.settingAt (i : ι) (c : Char) :
    (settingAt (names.name i) (c :: cs)).isSome = (settingAt (names.name i) (c :: ds)).isSome := by
  rw [Lib.settingAt, Lib.settingAt, name, Lib.dropName, Lib.dropName]
  split_ifs
  · exact h.dropName fun hmem => (names.rest_plain i _ hmem).2.2.2 rfl
  · rfl

end Alike

/-- A layout with new values is a layout. -/
theorem LaidOut.revalue [DecidableEq ι] {pieces : List (Piece ι)} (h : names.LaidOut pieces) (i : ι)
    {left right value : List Char} (hleft : ∀ c ∈ left, isPySpace c = true)
    (hright : ∀ c ∈ right, isPySpace c = true) (hquote : '"' ∉ value)
    (hnames : ∀ j, ¬ names.name j <:+: value) :
    names.LaidOut (pieces.map (revalue i left right value)) := by
  have hf := revalues_revalue i left right value
  induction pieces with
  | nil => trivial
  | cons piece pieces ih =>
      cases piece with
      | char c =>
          refine ⟨fun j => ?_, ih h.2⟩
          have hsame := @Alike.settingAt _ names _ _ (hf.alike pieces) j c
          rw [h.1 j] at hsame
          exact Option.not_isSome_iff_eq_none.mp fun hsome => by
            rw [hsome] at hsame
            cases hsame
      | setting j left' right' value' =>
          rw [List.map_cons, SettingNames.revalue]
          split_ifs
          · exact ⟨⟨hleft, hright, hquote, hnames⟩, ih h.2⟩
          · exact ⟨h.1, ih h.2⟩

/-! ## Layouts and comments -/

def isNewline : Piece ι → Bool
  | .char c => c = '\n'
  | .setting .. => false

/-- The pieces in the lines that are not commented out. -/
def activePieces (names : SettingNames ι) (pieces : List (Piece ι)) : List (Piece ι) :=
  [.char '\n'].intercalate
    ((pieces.splitOnP isNewline).filter fun line => !commented (names.text line))

/-- Every setting stands on one line. -/
def OneLine (pieces : List (Piece ι)) : Prop :=
  ∀ i left right value, .setting i left right value ∈ pieces → '\n' ∉ behind left right value

theorem newline_not_mem_name (i : ι) : '\n' ∉ names.name i := by
  have hspace : isPySpace '\n' = true := by decide
  intro h
  rcases List.mem_cons.mp h with hfirst | hrest
  · rw [hfirst, names.first_plain.1] at hspace
    cases hspace
  · rw [(names.rest_plain i _ hrest).1] at hspace
    cases hspace

theorem splitOn_text {pieces : List (Piece ι)} (h : OneLine pieces) :
    (names.text pieces).splitOn '\n' = (pieces.splitOnP isNewline).map names.text := by
  induction pieces with
  | nil => rfl
  | cons piece pieces ih =>
      have ih := ih fun i left right value hmem =>
        h i left right value (List.mem_cons_of_mem _ hmem)
      have hmodify : ∀ lines : List (List (Piece ι)),
          (lines.map names.text).modifyHead (names.pieceText piece ++ ·) =
            (lines.modifyHead (piece :: ·)).map names.text := by
        rintro (_ | ⟨line, lines⟩)
        · rfl
        · exact congrArg (· :: lines.map names.text) (text_cons names piece line).symm
      rw [text_cons, List.splitOnP_cons_eq_if_modifyHead]
      cases piece with
      | char c =>
          rw [pieceText, List.singleton_append, List.splitOn_cons_eq_if_modifyHead, ih]
          by_cases hc : c = '\n'
          · rw [if_pos (beq_iff_eq.mpr hc), isNewline, if_pos (decide_eq_true hc)]
            rfl
          · rw [if_neg fun h => hc (beq_iff_eq.mp h), isNewline,
              if_neg fun h => hc (of_decide_eq_true h)]
            exact hmodify _
      | setting i left right value =>
          have hfront : '\n' ∉ names.pieceText (.setting i left right value) := fun hmem =>
            (List.mem_append.mp hmem).elim (newline_not_mem_name i)
              (h i left right value List.mem_cons_self)
          rw [splitOn_append hfront, ih]
          exact hmodify _

/-- Without its commented lines a text is laid out as the pieces in the other lines. -/
theorem activeText_text {pieces : List (Piece ι)} (h : OneLine pieces) :
    activeText (names.text pieces) = names.text (names.activePieces pieces) := by
  have hlines := flatMap_intercalate names.pieceText [.char '\n']
    ((pieces.splitOnP isNewline).filter fun line => !commented (names.text line))
  rw [activeText, splitOn_text h, List.filter_map]
  exact hlines.symm

theorem Alike.commented {cs ds : List Char} (h : Alike names.first cs ds) :
    commented cs = commented ds := by
  induction h with
  | nil => rfl
  | char c _ ih => rw [Lib.commented, Lib.commented, ih]
  | setting _ _ =>
      rw [Lib.commented, Lib.commented, names.first_plain.1, if_neg Bool.false_ne_true,
        if_neg Bool.false_ne_true]

/-- New values leave the comments as they are. -/
theorem Revalues.activePieces {f : Piece ι → Piece ι} (hf : Revalues f) (pieces : List (Piece ι)) :
    names.activePieces (pieces.map f) = (names.activePieces pieces).map f := by
  have hnewline : ∀ piece, isNewline (f piece) = isNewline piece := by
    rintro (c | ⟨i, left, right, value⟩)
    · rw [hf.char]
    · obtain ⟨j, left', right', value', hset⟩ := hf.setting i left right value
      rw [hset]
      rfl
  have hkeep : ((fun line => !Lib.commented (names.text line)) ∘ List.map f) =
      fun line => !Lib.commented (names.text line) :=
    funext fun line => congrArg not (hf.alike line).commented.symm
  have hlines := flatMap_intercalate (fun piece => [f piece]) [.char '\n']
    ((pieces.splitOnP isNewline).filter fun line => !Lib.commented (names.text line))
  simp only [← List.map_eq_flatMap, List.map_cons, List.map_nil, hf.char] at hlines
  rw [SettingNames.activePieces, SettingNames.activePieces, splitOnP_map hnewline, List.filter_map,
    hkeep, hlines]

theorem OneLine.revalue [DecidableEq ι] {pieces : List (Piece ι)} (h : OneLine pieces) (i : ι)
    {left right value : List Char} (hnew : '\n' ∉ behind left right value) :
    OneLine (pieces.map (revalue i left right value)) := by
  intro j left' right' value' hmem
  obtain ⟨piece, hpiece, heq⟩ := List.mem_map.mp hmem
  cases piece with
  | char c => cases heq
  | setting k left'' right'' value'' =>
      rw [SettingNames.revalue] at heq
      split_ifs at heq
      · cases heq
        exact hnew
      · cases heq
        exact h _ _ _ _ hpiece

theorem mem_of_mem_splitOnP {α : Type} {p : α → Bool} {xs line : List α}
    (hline : line ∈ xs.splitOnP p) {x : α} (hx : x ∈ line) : x ∈ xs := by
  induction xs generalizing line with
  | nil =>
      rw [List.mem_singleton.mp hline] at hx
      exact hx
  | cons y xs ih =>
      rw [List.splitOnP_cons_eq_if_modifyHead] at hline
      split_ifs at hline
      · rcases List.mem_cons.mp hline with rfl | hline
        · cases hx
        · exact List.mem_cons_of_mem y (ih hline hx)
      · cases hlines : xs.splitOnP p with
        | nil =>
            rw [hlines] at hline
            cases hline
        | cons first lines =>
            rw [hlines, List.modifyHead_cons] at hline
            rcases List.mem_cons.mp hline with rfl | hline
            · rcases List.mem_cons.mp hx with rfl | hx
              · exact List.mem_cons_self
              · exact List.mem_cons_of_mem y (ih (hlines ▸ List.mem_cons_self) hx)
            · exact List.mem_cons_of_mem y (ih (hlines ▸ List.mem_cons_of_mem _ hline) hx)

theorem mem_intercalate {α : Type} {sep : List α} {lines : List (List α)} {x : α}
    (hx : x ∈ sep.intercalate lines) : x ∈ sep ∨ ∃ line ∈ lines, x ∈ line := by
  induction lines with
  | nil => cases hx
  | cons line lines ih =>
      cases lines with
      | nil =>
          rw [List.intercalate_singleton] at hx
          exact Or.inr ⟨line, List.mem_cons_self, hx⟩
      | cons second lines =>
          rw [List.intercalate_cons_cons] at hx
          rcases List.mem_append.mp hx with hx | hx
          · rcases List.mem_append.mp hx with hx | hx
            · exact Or.inr ⟨line, List.mem_cons_self, hx⟩
            · exact Or.inl hx
          · exact (ih hx).imp_right fun ⟨other, hother, hx⟩ =>
              ⟨other, List.mem_cons_of_mem line hother, hx⟩

/-- A setting on an active line is a setting of the text. -/
theorem setting_of_activePieces {pieces : List (Piece ι)} {i : ι} {left right value : List Char}
    (h : .setting i left right value ∈ names.activePieces pieces) :
    .setting i left right value ∈ pieces := by
  rcases mem_intercalate h with hsep | ⟨line, hline, hmem⟩
  · cases List.mem_singleton.mp hsep
  · exact mem_of_mem_splitOnP (List.mem_filter.mp hline).1 hmem

section Values

variable [DecidableEq ι]

theorem isSome_valueOf_iff {i : ι} {pieces : List (Piece ι)} :
    (pieces.findSome? (valueOf i)).isSome = true ↔
      ∃ left right value, .setting i left right value ∈ pieces := by
  rw [List.isSome_findSome?, List.any_eq_true]
  constructor
  · rintro ⟨c | ⟨j, left, right, value⟩, hmem, hvalue⟩
    · cases hvalue
    · rw [valueOf] at hvalue
      split_ifs at hvalue with hij
      · exact ⟨left, right, value, hij ▸ hmem⟩
      · cases hvalue
  · rintro ⟨left, right, value, hmem⟩
    exact ⟨_, hmem, by rw [valueOf, if_pos rfl, Option.isSome_some]⟩

theorem isSome_valueOf_of_active {i : ι} {pieces : List (Piece ι)}
    (h : ((names.activePieces pieces).findSome? (valueOf i)).isSome = true) :
    (pieces.findSome? (valueOf i)).isSome = true := by
  obtain ⟨left, right, value, hmem⟩ := isSome_valueOf_iff.mp h
  exact isSome_valueOf_iff.mpr ⟨left, right, value, setting_of_activePieces hmem⟩

/-- A revalued text has the characters of the text and of the new setting. -/
theorem mem_text_revalue {i : ι} {left right value : List Char} {pieces : List (Piece ι)} {c : Char}
    (h : c ∈ names.text (pieces.map (revalue i left right value))) :
    c ∈ names.text pieces ∨ c ∈ names.pieceText (.setting i left right value) := by
  obtain ⟨piece, hpiece, hc⟩ := List.mem_flatMap.mp h
  obtain ⟨old, hold, rfl⟩ := List.mem_map.mp hpiece
  cases old with
  | char d => exact Or.inl (List.mem_flatMap.mpr ⟨_, hold, hc⟩)
  | setting j left' right' value' =>
      rw [revalue] at hc
      split_ifs at hc
      · exact Or.inr hc
      · exact Or.inl (List.mem_flatMap.mpr ⟨_, hold, hc⟩)

/-- The settings of a name get the value, where there are any. -/
theorem valueOf_revalue_self (i : ι) (left right value : List Char) (pieces : List (Piece ι)) :
    (pieces.map (revalue i left right value)).findSome? (valueOf i) =
      (pieces.findSome? (valueOf i)).map fun _ => value := by
  induction pieces with
  | nil => rfl
  | cons piece pieces ih =>
      rw [List.map_cons, List.findSome?_cons, List.findSome?_cons, ih]
      cases piece with
      | char c => rfl
      | setting j left' right' value' =>
          rw [revalue]
          by_cases hij : i = j
          · rw [if_pos hij, valueOf, valueOf, if_pos rfl, if_pos hij]
            rfl
          · rw [if_neg hij, valueOf, if_neg hij]

theorem valueOf_revalue_of_ne {i k : ι} (hik : k ≠ i) (left right value : List Char)
    (pieces : List (Piece ι)) :
    (pieces.map (revalue i left right value)).findSome? (valueOf k) =
      pieces.findSome? (valueOf k) := by
  induction pieces with
  | nil => rfl
  | cons piece pieces ih =>
      rw [List.map_cons, List.findSome?_cons, List.findSome?_cons, ih]
      cases piece with
      | char c => rfl
      | setting j left' right' value' =>
          rw [revalue]
          by_cases hij : i = j
          · have hkj : k ≠ j := fun hkj => hik (hkj.trans hij.symm)
            rw [if_pos hij, valueOf, valueOf, if_neg hik, if_neg hkj]
          · rw [if_neg hij]

end Values

end SettingNames

end CameraStack.Lib
