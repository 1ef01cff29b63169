/-
# Files of `KEY=value` lines

Environment files are read a line at a time: blank lines, comments and lines without an
equals sign say nothing, and a later line overrides an earlier one.  Readers differ in what
they take off a value, and writers in what they put around it; both are parameters.

A written dictionary is read back exactly when its keys are clean, its values hold no line
break, and what is put around a value is taken off again.
-/

import CameraStack.Lib.Lines
import CameraStack.Lib.PyDict

namespace CameraStack.Lib.EnvLines

section Reading

variable {α : Type} (clean : Text → α)

/-- The entry of a line. -/
def entryOf (raw : Text) : Option (String × α) :=
  let line := stripChars raw
  if line = [] ∨ line.head? = some '#' then none
  else
    match line.dropWhile (· ≠ '=') with
    | [] => none
    | _ :: value =>
        some (String.ofList (stripChars (line.takeWhile (· ≠ '='))), clean (stripChars value))

/-- The entries of a text, line by line. -/
def entriesOf (text : Text) : List (String × α) := (splitLines text).filterMap (entryOf clean)

/-- The dictionary of a text. -/
def read (text : Text) : PyDict α := PyDict.empty.setMany (entriesOf clean text)

end Reading

/-- A line for each entry. -/
def write (entries : List (String × Text)) : Text :=
  unlines (entries.map fun entry => entry.1.toList ++ '=' :: entry.2)

/-- The text is one line. -/
def OneLine (cs : Text) : Prop := ∀ c ∈ cs, isLineBreak c = false

instance : DecidablePred OneLine := fun cs => List.decidableBAll (fun c => isLineBreak c = false) cs

/-- A key that is read as it is written. -/
structure CleanKey (key : String) : Prop where
  oneLine : OneLine key.toList
  noEquals : '=' ∉ key.toList
  stripped : Stripped key.toList
  noComment : key.toList.head? ≠ some '#'

theorem oneLine_cons {c : Char} {cs : Text} :
    OneLine (c :: cs) ↔ isLineBreak c = false ∧ OneLine cs := List.forall_mem_cons

theorem oneLine_append {front rest : Text} :
    OneLine (front ++ rest) ↔ OneLine front ∧ OneLine rest := List.forall_mem_append

theorem oneLine_stripChars {cs : Text} (h : OneLine cs) : OneLine (stripChars cs) :=
  fun c hc => h c (mem_of_mem_stripChars hc)

section Lines

variable {α : Type} (clean : Text → α)

/-! ## One line -/

theorem entryOf_comment (rest : Text) : entryOf clean ('#' :: rest) = none := by
  have hstrip := stripChars_append_stop (c := '#') (by decide) [] rest
  rw [List.nil_append] at hstrip
  simp only [entryOf, hstrip]
  simp

theorem entryOf_nil : entryOf clean [] = none := rfl

/-- The line of a clean key is read under this key. -/
theorem entryOf_line {key : String} (hkey : CleanKey key) (value : Text) :
    entryOf clean (key.toList ++ '=' :: value) = some (key, clean (stripChars value)) := by
  have hstrip : stripChars (key.toList ++ '=' :: value) =
      key.toList ++ '=' :: rstripChars value := by
    rw [stripChars_append_stop (by decide), dropWhile_eq_self_of_head hkey.stripped.1]
  have hbefore : ∀ d ∈ key.toList, decide (d ≠ '=') = true := by
    intro d hd
    simp only [decide_eq_true_eq]
    intro heq
    exact hkey.noEquals (heq ▸ hd)
  have hspeaks : ¬ (key.toList ++ '=' :: rstripChars value = [] ∨
      (key.toList ++ '=' :: rstripChars value).head? = some '#') := by
    have hcomment := hkey.noComment
    cases hchars : key.toList with
    | nil => simp
    | cons d more => simpa [hchars] using hcomment
  simp only [entryOf, hstrip, if_neg hspeaks]
  rw [dropWhile_append_stop (by simp), takeWhile_append_stop (by simp),
    List.dropWhile_eq_nil_iff.mpr hbefore, List.takeWhile_eq_self_iff.mpr hbefore,
    stripChars_eq_self hkey.stripped]
  simp only [List.nil_append, stripChars_rstripChars, String.ofList_toList]

/-- What is read of a line: a clean key, and what the reader makes of a text of one line. -/
theorem of_entryOf {raw : Text} {key : String} {v : α} (hraw : OneLine raw)
    (h : entryOf clean raw = some (key, v)) :
    CleanKey key ∧ ∃ value, OneLine value ∧ v = clean (stripChars value) := by
  have hstripped := stripped_stripChars raw
  have hline := oneLine_stripChars hraw
  simp only [entryOf] at h
  generalize stripChars raw = line at h hstripped hline
  split_ifs at h with hspeaks
  obtain ⟨hne, hcomment⟩ := not_or.mp hspeaks
  cases hrest : line.dropWhile (· ≠ '=') with
  | nil => rw [hrest] at h; cases h
  | cons d value =>
      rw [hrest] at h
      obtain ⟨rfl, rfl⟩ := Prod.mk.inj (Option.some.inj h)
      have hfront : ∀ c ∈ line.takeWhile (· ≠ '='), c ∈ line := fun c hc =>
        (List.takeWhile_prefix _).subset hc
      have hback : ∀ c ∈ d :: value, c ∈ line := fun c hc =>
        (List.dropWhile_suffix _).subset (hrest ▸ hc)
      apply And.intro
      · constructor
        · rw [String.toList_ofList]
          exact oneLine_stripChars fun c hc => hline c (hfront c hc)
        · rw [String.toList_ofList]
          intro hmem
          have hall := List.mem_takeWhile_imp (mem_of_mem_stripChars hmem)
          simp at hall
        · rw [String.toList_ofList]
          exact stripped_stripChars _
        · -- the front is not blank at its head, as the line is not
          rw [String.toList_ofList, head?_stripChars]
          cases line with
          | nil => exact absurd rfl hne
          | cons c more =>
              have hc : isPySpace c = false := hstripped.1 c rfl
              by_cases heq : c = '='
              · simp [heq]
              · have hcomment : c ≠ '#' := fun hc' => hcomment (by rw [hc']; rfl)
                simp [heq, hc, hcomment]
      · use value
        exact ⟨fun c hc => hline c (hback c (List.mem_cons_of_mem d hc)), rfl⟩

/-! ## Whole texts -/

theorem entriesOf_line {line : Text} (hline : OneLine line) (rest : Text) :
    entriesOf clean (line ++ '\n' :: rest) =
      (entryOf clean line).toList ++ entriesOf clean rest := by
  rw [entriesOf, splitLines_line hline, List.filterMap_cons]
  cases entryOf clean line with
  | none => rfl
  | some entry => rfl

theorem entriesOf_append_newline (text rest : Text) :
    entriesOf clean (text ++ '\n' :: rest) =
      entriesOf clean (text ++ ['\n']) ++ entriesOf clean rest := by
  rw [entriesOf, splitLines_append_newline, List.filterMap_append]
  rfl

theorem write_cons (entry : String × Text) (entries : List (String × Text)) :
    write (entry :: entries) =
      (entry.1.toList ++ '=' :: entry.2) ++ '\n' :: write entries := by
  rw [write, List.map_cons, unlines, List.flatMap_cons, List.append_assoc]
  rfl

/-- Lines of clean keys are read one by one. -/
theorem entriesOf_write {entries : List (String × Text)}
    (h : ∀ entry ∈ entries, CleanKey entry.1 ∧ OneLine entry.2) :
    entriesOf clean (write entries) =
      entries.map fun entry => (entry.1, clean (stripChars entry.2)) := by
  induction entries with
  | nil => rfl
  | cons entry entries ih =>
      obtain ⟨⟨hkey, hvalue⟩, hrest⟩ := List.forall_mem_cons.mp h
      have hline : OneLine (entry.1.toList ++ '=' :: entry.2) :=
        oneLine_append.mpr ⟨hkey.oneLine, oneLine_cons.mpr ⟨by decide, hvalue⟩⟩
      rw [write_cons, entriesOf_line clean hline, entryOf_line clean hkey, ih hrest]
      rfl

theorem mem_entriesOf {text : Text} {key : String} {v : α}
    (h : (key, v) ∈ entriesOf clean text) :
    CleanKey key ∧ ∃ value, OneLine value ∧ v = clean (stripChars value) := by
  obtain ⟨raw, hraw, hentry⟩ := List.mem_filterMap.mp h
  exact of_entryOf clean (fun c hc => not_isLineBreak_of_mem_splitLines hraw hc) hentry

/-- What the last lines of a text say of a key overrides the lines before them. -/
theorem get?_read_append {rest : Text} {key : String} {v : α}
    (h : (entriesOf clean rest).reverse.lookup key = some v) (text : Text) :
    (read clean (text ++ '\n' :: rest)).get? key = some v := by
  rw [read, PyDict.get?_setMany, entriesOf_append_newline, List.reverse_append,
    List.lookup_append, h]
  rfl

/-- Keys of capital letters are clean. -/
theorem cleanKey_of_capital {key : String}
    (h : key.toList.all (fun c => c.isUpper || c = '_') = true) : CleanKey key := by
  have hchar : ∀ c ∈ key.toList, (65 ≤ c.toNat ∧ c.toNat ≤ 90) ∨ c.toNat = 95 := by
    intro c hc
    have hall := List.all_eq_true.mp h c hc
    rw [Bool.or_eq_true, decide_eq_true_eq] at hall
    rcases hall with hupper | rfl
    · exact .inl (of_decide_eq_true hupper)
    · exact .inr rfl
  have hspace : ∀ c ∈ key.toList, isPySpace c = false := by
    intro c hc
    have hcode := hchar c hc
    simp only [isPySpace, Bool.or_eq_false_iff, Bool.and_eq_false_iff, decide_eq_false_iff_not]
    omega
  have hne : ∀ c ∈ key.toList, c ≠ '=' ∧ c ≠ '#' := by
    intro c hc
    have hcode := hchar c hc
    apply And.intro
    · intro heq
      rw [heq] at hcode
      exact absurd hcode (by decide)
    · intro heq
      rw [heq] at hcode
      exact absurd hcode (by decide)
  constructor
  · intro c hc
    have hcode := hchar c hc
    simp only [isLineBreak, Bool.or_eq_false_iff, Bool.and_eq_false_iff, decide_eq_false_iff_not]
    omega
  · exact fun hmem => (hne '=' hmem).1 rfl
  · exact ⟨fun c hc => hspace c (List.mem_of_head? hc),
      fun c hc => hspace c (List.mem_of_getLast? hc)⟩
  · exact fun hhead => (hne '#' (List.mem_of_head? hhead)).2 rfl

/-- What a dictionary that was read holds. -/
theorem mem_read {text : Text} {key : String} {v : α} (h : (key, v) ∈ (read clean text).entries) :
    CleanKey key ∧ ∃ value, OneLine value ∧ v = clean (stripChars value) := by
  apply mem_entriesOf clean
  rw [PyDict.mem_entries_iff, read, PyDict.get?_setMany] at h
  have hempty : PyDict.get? (PyDict.empty : PyDict α) key = none := rfl
  rw [hempty, Option.or_none] at h
  obtain ⟨front, rest, hsplit, -⟩ := List.lookup_eq_some_iff.mp h
  rw [← List.mem_reverse, hsplit]
  simp

end Lines

/-! ## The round trip -/

section RoundTrip

variable {clean dress : Text → Text}

/-- The lines of a dictionary, its values dressed by the writer. -/
def dressed (dress : Text → Text) (d : PyDict Text) : List (String × Text) :=
  d.entries.map fun entry => (entry.1, dress entry.2)

/-- A clean dictionary is read key by key. -/
theorem read_write {d : PyDict Text}
    (h : ∀ entry ∈ d.entries, CleanKey entry.1 ∧ OneLine (dress entry.2)) :
    (read clean (write (dressed dress d))).entries =
      d.entries.map fun entry => (entry.1, clean (stripChars (dress entry.2))) := by
  have hentries : entriesOf clean (write (dressed dress d)) =
      d.entries.map fun entry => (entry.1, clean (stripChars (dress entry.2))) := by
    rw [entriesOf_write, dressed, List.map_map]
    · rfl
    · intro entry hentry
      obtain ⟨before, hbefore, rfl⟩ := List.mem_map.mp hentry
      exact h before hbefore
  rw [read, hentries]
  apply PyDict.entries_setMany_empty
  rw [List.map_map]
  exact d.nodup

/-- What is read of a key of a clean dictionary. -/
theorem get?_read_write {d : PyDict Text}
    (h : ∀ entry ∈ d.entries, CleanKey entry.1 ∧ OneLine (dress entry.2)) (key : String) :
    (read clean (write (dressed dress d))).get? key =
      (d.get? key).map fun v => clean (stripChars (dress v)) := by
  rw [PyDict.get?, read_write h, PyDict.get?]
  induction d.entries with
  | nil => rfl
  | cons entry entries ih =>
      rw [List.map_cons, PyDict.lookup_cons_if, PyDict.lookup_cons_if]
      split
      · rfl
      · exact ih

/-- A dictionary is read back exactly when its keys are clean, its values are one line each and
what is put around a value is taken off again. -/
theorem read_write_iff (hclean : ∀ cs, clean cs ⊆ cs)
    (hdress : ∀ cs, OneLine (dress cs) ↔ OneLine cs) (d : PyDict Text) :
    read clean (write (dressed dress d)) = d ↔
      ∀ entry ∈ d.entries, CleanKey entry.1 ∧ OneLine entry.2 ∧
        clean (stripChars (dress entry.2)) = entry.2 := by
  have hsame : (∀ entry ∈ d.entries, CleanKey entry.1 ∧ OneLine entry.2) →
      (read clean (write (dressed dress d)) = d ↔
        ∀ entry ∈ d.entries, clean (stripChars (dress entry.2)) = entry.2) := by
    intro h
    have hself := List.map_inj_left (l := d.entries) (g := id)
      (f := fun entry => (entry.1, clean (stripChars (dress entry.2))))
    rw [List.map_id] at hself
    rw [PyDict.eq_iff_entries, read_write fun entry hentry =>
      ⟨(h entry hentry).1, (hdress entry.2).mpr (h entry hentry).2⟩, hself]
    apply forall₂_congr
    intro entry _
    rw [Prod.ext_iff]
    exact and_iff_right rfl
  constructor
  · intro hread
    -- what was read is clean, and the dictionary is what was read
    have hbacked : ∀ entry ∈ d.entries, CleanKey entry.1 ∧ OneLine entry.2 := by
      intro entry hentry
      rw [← hread] at hentry
      obtain ⟨hkey, value, hvalue, heq⟩ := mem_read clean hentry
      rw [heq]
      exact ⟨hkey, fun c hc => oneLine_stripChars hvalue c (hclean _ hc)⟩
    intro entry hentry
    exact ⟨(hbacked entry hentry).1, (hbacked entry hentry).2,
      (hsame hbacked).mp hread entry hentry⟩
  · intro h
    apply (hsame fun entry hentry => ⟨(h entry hentry).1, (h entry hentry).2.1⟩).mpr
    exact fun entry hentry => (h entry hentry).2.2

end RoundTrip

end CameraStack.Lib.EnvLines
