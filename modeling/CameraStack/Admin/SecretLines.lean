/-
# What the secret store reads in the lines it writes

The reader and the pattern of the writer cut a line at the same equals sign.  A line that
the writer knows is read under the key it knows it by, and the line written for it is read
under the same key.
-/

import CameraStack.Admin.SecretStore

namespace CameraStack.Admin.SecretStore

open CameraStack.Lib

variable {front line : List Char} {c : Char}

/-! ## The two readers of a line -/

/-- The key is one the pattern takes. -/
def isUpperKey : List Char → Bool
  | [] => false
  | c :: cs => isKeyStart c && cs.all isKeyChar

theorem isPySpace_of_isKeyChar (h : isKeyChar c = true) : isPySpace c = false := by
  have hcode : (65 ≤ c.toNat ∧ c.toNat ≤ 90) ∨ c.toNat = 95 ∨ (48 ≤ c.toNat ∧ c.toNat ≤ 57) := by
    simp only [isKeyChar, isKeyStart, Bool.or_eq_true, decide_eq_true_eq] at h
    rcases h with (hupper | rfl) | hdigit
    · exact .inl (of_decide_eq_true hupper)
    · exact .inr (.inl rfl)
    · exact .inr (.inr (Char.isDigit_iff_toNat.mp hdigit))
  simp only [isPySpace, Bool.or_eq_false_iff, Bool.and_eq_false_iff, decide_eq_false_iff_not]
  omega

/-- `_parse_env_file` on a line with an equals sign. -/
theorem parseEntry_cut (hfront : '=' ∉ front) (rest : List Char) :
    parseEntry (front ++ '=' :: rest) =
      if (stripChars front).head? = some '#' then none
      else some (String.ofList (stripChars front), String.ofList (unquote (stripChars rest))) := by
  have hstrip := stripChars_append_stop (c := '=') (by decide) front rest
  have hne : '=' ∉ front.dropWhile isPySpace :=
    fun hmem => hfront ((List.dropWhile_suffix _).subset hmem)
  have hbefore : ∀ d ∈ front.dropWhile isPySpace, decide (d ≠ '=') = true := by
    intro d hd
    simp only [decide_eq_true_eq]
    rintro rfl
    exact hne hd
  have hhead : ((front.dropWhile isPySpace ++ '=' :: rstripChars rest = [] ∨
      (front.dropWhile isPySpace ++ '=' :: rstripChars rest).head? = some '#') ↔
        (stripChars front).head? = some '#') := by
    rw [head?_stripChars]
    cases front.dropWhile isPySpace with
    | nil => simp
    | cons d more => simp
  simp only [parseEntry, hstrip]
  rw [if_congr hhead rfl rfl, dropWhile_append_stop (by simp), takeWhile_append_stop (by simp),
    List.dropWhile_eq_nil_iff.mpr hbefore, List.takeWhile_eq_self_iff.mpr hbefore,
    stripChars_dropWhile]
  simp only [List.nil_append, stripChars_rstripChars]

theorem parseEntry_of_not_mem (h : '=' ∉ line) : parseEntry line = none := by
  have hdrop : (stripChars line).dropWhile (· ≠ '=') = [] := by
    apply List.dropWhile_eq_nil_iff.mpr
    intro d hd
    simp only [decide_eq_true_eq]
    rintro rfl
    exact h (mem_of_mem_stripChars hd)
  simp only [parseEntry, hdrop]
  split
  · rfl
  · rfl

/-- A key and the blanks behind it. -/
theorem rstripChars_key {key blanks : List Char} (hkey : ∀ d ∈ key, isKeyChar d = true)
    (hne : key ≠ []) (hblank : ∀ d ∈ blanks, isPySpace d = true) :
    rstripChars (key ++ blanks) = key := by
  obtain ⟨init, last, rfl⟩ := List.eq_nil_or_concat' key |>.resolve_left hne
  have hlast : isPySpace last = false := isPySpace_of_isKeyChar (hkey last (by simp))
  have hnil : rstripChars blanks = [] := by
    have hreverse : ∀ d ∈ blanks.reverse, isPySpace d = true :=
      fun d hd => hblank d (List.mem_reverse.mp hd)
    rw [rstripChars, List.dropWhile_eq_nil_iff.mpr hreverse]
    rfl
  rw [List.append_assoc, List.singleton_append, rstripChars_append_stop hlast, hnil]

theorem isUpperKey_cons_iff {c : Char} {cs : List Char} :
    isUpperKey (c :: cs) = true ↔ isKeyStart c = true ∧ ∀ d ∈ c :: cs, isKeyChar d = true := by
  rw [isUpperKey, Bool.and_eq_true, List.all_eq_true]
  apply and_congr_right
  intro hstart
  have hkey : isKeyChar c = true := by rw [isKeyChar, hstart, Bool.true_or]
  rw [List.forall_mem_cons, and_iff_right hkey]

/-- Where more than blanks stands between a key and the equals sign, the text before the
sign holds a character that is no part of a key. -/
theorem exists_stray {cs tail : List Char} {e : Char}
    (h : (cs.dropWhile isKeyChar).dropWhile isPySpace = e :: tail) :
    ∃ d ∈ rstripChars cs, isKeyChar d = false := by
  have he : isPySpace e = false := head?_dropWhile_of (by rw [h]; rfl)
  have hsplit : cs = cs.takeWhile isKeyChar ++
      (cs.dropWhile isKeyChar).takeWhile isPySpace ++ e :: tail := by
    rw [List.append_assoc, ← h, List.takeWhile_append_dropWhile,
      List.takeWhile_append_dropWhile]
  cases hrest : cs.dropWhile isKeyChar with
  | nil => rw [hrest] at h; cases h
  | cons g others =>
      have hg : isKeyChar g = false := head?_dropWhile_of (by rw [hrest]; rfl)
      use g
      rw [hsplit, rstripChars_append_stop he, hrest, and_iff_left hg]
      rw [hrest] at h
      by_cases hspace : isPySpace g = true
      · simp [hspace]
      · rw [List.dropWhile_cons_of_neg hspace] at h
        rw [(List.cons.inj h).1]
        simp

/-- The pattern on a line with an equals sign. -/
theorem matchKey_cut (hfront : '=' ∉ front) (rest : List Char) :
    matchKey (front ++ '=' :: rest) =
      if isUpperKey (stripChars front) then some (stripChars front) else none := by
  rw [matchKey, dropWhile_append_stop (by decide), stripChars_eq]
  cases hf : front.dropWhile isPySpace with
  | nil => rfl
  | cons c more =>
      have hc : isPySpace c = false := head?_dropWhile_of (by rw [hf]; rfl)
      have hmore : '=' ∉ c :: more := by
        intro hmem
        rw [← hf] at hmem
        exact hfront ((List.dropWhile_suffix _).subset hmem)
      have hstop := rstripChars_append_stop hc [] more
      rw [List.nil_append, List.nil_append] at hstop
      by_cases hstart : isKeyStart c = true
      · have hdrop := dropWhile_append_stop (p := isKeyChar) (c := '=') (by decide) (c :: more) rest
        have htake := takeWhile_append_stop (p := isKeyChar) (c := '=') (by decide) (c :: more) rest
        simp only [List.cons_append] at hdrop htake
        simp only [List.cons_append, hstart, if_true, hdrop, htake,
          dropWhile_append_stop (p := isPySpace) (c := '=') (by decide)]
        cases hgap : ((c :: more).dropWhile isKeyChar).dropWhile isPySpace with
        | nil =>
            -- nothing but blanks between the key and the equals sign
            have hblank := List.dropWhile_eq_nil_iff.mp hgap
            have hkeychars : ∀ d ∈ (c :: more).takeWhile isKeyChar, isKeyChar d = true :=
              fun d hd => List.mem_takeWhile_imp hd
            have hnonempty : (c :: more).takeWhile isKeyChar ≠ [] := by
              have hkey : isKeyChar c = true := by rw [isKeyChar, hstart, Bool.true_or]
              rw [List.takeWhile_cons_of_pos hkey]
              exact List.cons_ne_nil _ _
            have hkey : rstripChars (c :: more) = (c :: more).takeWhile isKeyChar := by
              nth_rewrite 1 [← List.takeWhile_append_dropWhile (p := isKeyChar) (l := c :: more)]
              exact rstripChars_key hkeychars hnonempty hblank
            have hupper : isUpperKey (rstripChars (c :: more)) = true := by
              rw [← hkey] at hkeychars
              rw [hstop] at hkeychars ⊢
              exact isUpperKey_cons_iff.mpr ⟨hstart, hkeychars⟩
            rw [if_pos hupper, hkey]
            rfl
        | cons e tail =>
            have hmem : e ∈ c :: more := by
              apply (List.dropWhile_suffix isKeyChar).subset
              apply (List.dropWhile_suffix isPySpace).subset
              rw [hgap]
              exact List.mem_cons_self
            have hne : e ≠ '=' := fun heq => hmore (heq ▸ hmem)
            have hnot : ¬ isUpperKey (rstripChars (c :: more)) = true := by
              obtain ⟨d, hd, hstray⟩ := exists_stray hgap
              intro hupper
              rw [hstop] at hd hupper
              have hkey := (isUpperKey_cons_iff.mp hupper).2 d hd
              rw [hstray] at hkey
              cases hkey
            rw [if_neg hnot]
            split
            · next heq => exact absurd (List.cons.inj heq).1 hne
            · rfl
      · have hnot : ¬ isUpperKey (c :: rstripChars more) = true :=
          fun hupper => hstart (isUpperKey_cons_iff.mp hupper).1
        rw [List.cons_append, hstop, if_neg hnot]
        simp [hstart]

theorem matchKey_of_not_mem (h : '=' ∉ line) : matchKey line = none := by
  rw [matchKey]
  cases hline : line.dropWhile isPySpace with
  | nil => rfl
  | cons c cs =>
      by_cases hstart : isKeyStart c = true
      · simp only [hstart, if_true]
        split
        · next rest hcut =>
            have hmem : '=' ∈ line := by
              apply (List.dropWhile_suffix isPySpace).subset
              rw [hline]
              apply (List.dropWhile_suffix isKeyChar).subset
              apply (List.dropWhile_suffix isPySpace).subset
              rw [hcut]
              exact List.mem_cons_self
            exact absurd hmem h
        · rfl
      · simp [hstart]

/-- The pattern finds the key that is parsed, if it is one in capitals. -/
theorem matchKey_eq (line : List Char) :
    (matchKey line).map String.ofList =
      (parseEntry line).bind fun entry =>
        if isUpperKey entry.1.toList then some entry.1 else none := by
  by_cases hmem : '=' ∈ line
  · obtain ⟨front, rest, rfl, hfront⟩ := List.eq_append_cons_of_mem hmem
    rw [matchKey_cut hfront, parseEntry_cut hfront]
    by_cases hhash : (stripChars front).head? = some '#'
    · have hnot : isUpperKey (stripChars front) = false := by
        cases hs : stripChars front with
        | nil => rfl
        | cons d more =>
            rw [hs, List.head?_cons, Option.some.injEq] at hhash
            subst hhash
            rfl
      rw [if_pos hhash, hnot]
      rfl
    · rw [if_neg hhash, Option.bind_some, String.toList_ofList]
      split
      · rfl
      · rfl
  · rw [matchKey_of_not_mem hmem, parseEntry_of_not_mem hmem]
    rfl

/-! ## The lines that are written -/

/-- No line break in a text. -/
def OneLine (s : String) : Prop := ∀ c ∈ s.toList, isLineBreak c = false

/-- A key as the reader returns it: it may be empty. -/
structure KeyForm (key : String) : Prop where
  stripped : Stripped key.toList
  noEquals : '=' ∉ key.toList
  noHash : key.toList.head? ≠ some '#'
  oneLine : OneLine key

/-- A value after it was written and read. -/
def reread (value : String) : String := String.ofList (unquote (stripChars value.toList))

/-- The line written for a key is read under it. -/
theorem parseEntry_envLine {key : String} (h : KeyForm key) (value : String) :
    parseEntry (envLine key value) = some (key, reread value) := by
  rw [envLine, parseEntry_cut h.noEquals, stripChars_eq_self h.stripped, if_neg h.noHash,
    String.ofList_toList, reread]

theorem mem_of_mem_unquote {value : List Char} {d : Char} (h : d ∈ unquote value) : d ∈ value := by
  rw [unquote] at h
  split at h
  · exact List.mem_of_mem_drop ((List.dropLast_sublist _).subset h)
  · exact h

/-- What is read in a line. -/
theorem parseEntry_form {key value : String} (hline : ∀ d ∈ line, isLineBreak d = false)
    (h : parseEntry line = some (key, value)) : KeyForm key ∧ OneLine value := by
  by_cases hmem : '=' ∈ line
  · obtain ⟨front, rest, rfl, hfront⟩ := List.eq_append_cons_of_mem hmem
    rw [parseEntry_cut hfront] at h
    split at h
    · cases h
    · next hhash =>
        cases h
        have hkey : KeyForm (String.ofList (stripChars front)) :=
          { stripped := by rw [String.toList_ofList]; exact stripped_stripChars front
            noEquals := by
              rw [String.toList_ofList]
              exact fun hmem => hfront (mem_of_mem_stripChars hmem)
            noHash := by rwa [String.toList_ofList]
            oneLine := by
              intro d hd
              rw [String.toList_ofList] at hd
              exact hline d (List.mem_append_left _ (mem_of_mem_stripChars hd)) }
        have hvalue : OneLine (String.ofList (unquote (stripChars rest))) := by
          intro d hd
          rw [String.toList_ofList] at hd
          have hrest := mem_of_mem_stripChars (mem_of_mem_unquote hd)
          exact hline d (List.mem_append_right _ (List.mem_cons_of_mem _ hrest))
        exact ⟨hkey, hvalue⟩
  · rw [parseEntry_of_not_mem hmem] at h
    cases h

variable {values : PyDict String} {lines : List (List Char)}

/-- The dictionary has every key of the lines. -/
def Covers (values : PyDict String) (lines : List (List Char)) : Prop :=
  ∀ line ∈ lines, ∀ entry, parseEntry line = some entry → entry.1 ∈ values.keys

theorem knownKey_eq (hcover : Covers values lines) (hline : line ∈ lines) :
    knownKey values line =
      (parseEntry line).bind fun entry =>
        if isUpperKey entry.1.toList then some entry.1 else none := by
  rw [knownKey, matchKey_eq]
  cases hentry : parseEntry line with
  | none => rfl
  | some entry =>
      have hknown := hcover line hline entry hentry
      rw [Option.bind_some]
      split
      · simp [hknown]
      · rfl

/-- A line with a key in capitals is written anew; every other line stays. -/
theorem rendered_cases (hcover : Covers values lines) (hline : line ∈ lines) :
    (rendered values line = line ∧
      ∀ key value, parseEntry line = some (key, value) → isUpperKey key.toList = false) ∨
    ∃ key value, parseEntry line = some (key, value) ∧ isUpperKey key.toList = true ∧
      rendered values line = envLine key ((values.get? key).getD "") := by
  have hknown := knownKey_eq hcover hline
  cases hentry : parseEntry line with
  | none =>
      rw [hentry] at hknown
      apply Or.inl
      exact ⟨by rw [rendered, hknown]; rfl, fun _ _ heq => by cases heq⟩
  | some entry =>
      obtain ⟨key, value⟩ := entry
      rw [hentry, Option.bind_some] at hknown
      by_cases hupper : isUpperKey key.toList = true
      · rw [if_pos hupper] at hknown
        apply Or.inr
        exact ⟨key, value, rfl, hupper, by rw [rendered, hknown]⟩
      · rw [if_neg hupper] at hknown
        apply Or.inl
        constructor
        · rw [rendered, hknown]
        · intro name w heq
          cases heq
          simpa using hupper

theorem mem_seenKeys (hcover : Covers values lines) {key : String} :
    key ∈ seenKeys values lines ↔
      isUpperKey key.toList = true ∧
        ∃ line ∈ lines, ∃ value, parseEntry line = some (key, value) := by
  have hfound : ∀ {some' : List (List Char)}, (∀ line ∈ some', line ∈ lines) →
      (key ∈ some'.filterMap (knownKey values) ↔
        isUpperKey key.toList = true ∧
          ∃ line ∈ some', ∃ value, parseEntry line = some (key, value)) := by
    intro some' hsub
    rw [List.mem_filterMap]
    constructor
    · rintro ⟨line, hline, hknown⟩
      rw [knownKey_eq hcover (hsub line hline)] at hknown
      obtain ⟨⟨name, value⟩, hentry, hupper⟩ := Option.bind_eq_some_iff.mp hknown
      split at hupper
      · next hup =>
          cases hupper
          exact ⟨hup, line, hline, value, hentry⟩
      · cases hupper
    · rintro ⟨hupper, line, hline, value, hentry⟩
      use line, hline
      rw [knownKey_eq hcover (hsub line hline), hentry, Option.bind_some, if_pos hupper]
  have hheader : ∀ line ∈ headerLines lines, line ∈ lines :=
    fun line hline => (List.takeWhile_prefix _).subset hline
  rw [seenKeys, List.mem_append, hfound hheader, hfound fun _ h => h]
  constructor
  · rintro (⟨hupper, line, hline, found⟩ | h)
    · exact ⟨hupper, line, hheader line hline, found⟩
    · exact h
  · exact .inr

/-! ## Reading what was written -/

theorem get?_parseLines (lines : List (List Char)) (key : String) :
    (parseLines lines).get? key = (lines.filterMap parseEntry).reverse.lookup key := by
  rw [parseLines, PyDict.get?_setMany]
  exact Option.or_none

/-- The entries a line had before and has after it is written. -/
theorem parseEntry_rendered (hcover : Covers values lines)
    (hkeys : ∀ key ∈ values.keys, KeyForm key) (hline : line ∈ lines) :
    parseEntry (rendered values line) =
      (parseEntry line).map fun entry =>
        if isUpperKey entry.1.toList then (entry.1, reread ((values.get? entry.1).getD ""))
        else entry := by
  rcases rendered_cases hcover hline with ⟨hkept, hlower⟩ | ⟨key, value, hentry, hupper, hnew⟩
  · rw [hkept]
    cases hentry : parseEntry line with
    | none => rfl
    | some entry => rw [Option.map_some, hlower entry.1 entry.2 hentry]; rfl
  · have hform := hkeys key (hcover line hline _ hentry)
    rw [hnew, parseEntry_envLine hform, hentry, Option.map_some, if_pos hupper]

/-- The entries the dictionary has and no line was found for. -/
def unseen (values : PyDict String) (lines : List (List Char)) : List (String × String) :=
  values.entries.filter fun entry => entry.1 ∉ seenKeys values lines

theorem mem_unseen {entry : String × String} :
    entry ∈ unseen values lines ↔ entry ∈ values.entries ∧ entry.1 ∉ seenKeys values lines := by
  simp [unseen]

theorem entries_savedLines (hkeys : ∀ key ∈ values.keys, KeyForm key) :
    (savedLines values lines).filterMap parseEntry =
      (lines.map (rendered values)).filterMap parseEntry ++
        (unseen values lines).map fun entry => (entry.1, reread entry.2) := by
  rw [savedLines, List.filterMap_append]
  congr 1
  rw [List.filterMap_map, ← List.filterMap_eq_map]
  apply List.filterMap_congr
  intro entry hentry
  have hmem : entry.1 ∈ values.keys := List.mem_map_of_mem (mem_unseen.mp hentry).1
  exact parseEntry_envLine (hkeys entry.1 hmem) entry.2

/-- What is read in the lines that were written: the dictionary, each value read again. -/
theorem get?_savedLines (hcover : Covers values lines)
    (hkeys : ∀ key ∈ values.keys, KeyForm key) (key : String) :
    (parseLines (savedLines values lines)).get? key = (values.get? key).map reread := by
  have hold : ∀ name w, (name, w) ∈ (lines.map (rendered values)).filterMap parseEntry →
      ∃ line ∈ lines, ∃ v, parseEntry line = some (name, v) ∧
        (isUpperKey name.toList = true → w = reread ((values.get? name).getD "")) := by
    intro name w hmem
    obtain ⟨written, hwritten, hparse⟩ := List.mem_filterMap.mp hmem
    obtain ⟨line, hline, rfl⟩ := List.mem_map.mp hwritten
    rw [parseEntry_rendered hcover hkeys hline] at hparse
    obtain ⟨⟨name', v⟩, hentry, heq⟩ := Option.map_eq_some_iff.mp hparse
    use line, hline, v
    split at heq
    · cases heq
      exact ⟨hentry, fun _ => rfl⟩
    · next hupper =>
        cases heq
        exact ⟨hentry, fun h => absurd h hupper⟩
  rw [get?_parseLines, entries_savedLines hkeys, List.reverse_append, List.lookup_append]
  cases hvalue : values.get? key with
  | none =>
      have hnew : key ∉ values.keys := by
        rw [PyDict.mem_keys_iff, hvalue]
        simp
      have hnone : ∀ {entries : List (String × String)},
          (∀ entry ∈ entries, entry.1 ∈ values.keys) → entries.reverse.lookup key = none := by
        intro entries hall
        apply List.lookup_eq_none_iff.mpr
        intro entry hentry
        have hne : key ≠ entry.1 :=
          fun heq => hnew (heq ▸ hall entry (List.mem_reverse.mp hentry))
        simpa using hne
      rw [hnone, hnone]
      · rfl
      · intro entry hentry
        obtain ⟨line, hline, v, hparse, -⟩ := hold entry.1 entry.2 hentry
        exact hcover line hline (entry.1, v) hparse
      · intro entry hentry
        obtain ⟨before, hbefore, rfl⟩ := List.mem_map.mp hentry
        show before.1 ∈ values.keys
        exact List.mem_map_of_mem (mem_unseen.mp hbefore).1
  | some value =>
      by_cases hseen : key ∈ seenKeys values lines
      · have hbehind : (((unseen values lines).map
            fun entry => (entry.1, reread entry.2)).reverse.lookup key) = none := by
          apply List.lookup_eq_none_iff.mpr
          intro entry hentry
          obtain ⟨before, hbefore, rfl⟩ := List.mem_map.mp (List.mem_reverse.mp hentry)
          have hne : key ≠ before.1 := fun heq => (mem_unseen.mp hbefore).2 (heq ▸ hseen)
          simpa using hne
        obtain ⟨hupper, line, hline, v, hparse⟩ := (mem_seenKeys hcover).mp hseen
        rw [hbehind, Option.none_or, Option.map_some]
        apply lookup_eq_some_of_forall
        · use reread value
          rw [List.mem_reverse, List.mem_filterMap]
          use rendered values line
          rw [parseEntry_rendered hcover hkeys hline, hparse, Option.map_some, if_pos hupper,
            hvalue]
          exact ⟨List.mem_map_of_mem hline, rfl⟩
        · intro w hw
          obtain ⟨-, -, -, -, hnew⟩ := hold key w (List.mem_reverse.mp hw)
          rw [hnew hupper, hvalue]
          rfl
      · have hentry : (key, value) ∈ unseen values lines :=
          mem_unseen.mpr ⟨PyDict.mem_entries_iff.mpr hvalue, hseen⟩
        have hbehind : (((unseen values lines).map
            fun entry => (entry.1, reread entry.2)).reverse.lookup key) = some (reread value) := by
          apply lookup_eq_some_of_forall
          · use reread value
            exact List.mem_reverse.mpr (List.mem_map.mpr ⟨(key, value), hentry, rfl⟩)
          · intro w hw
            obtain ⟨⟨name, v⟩, hbefore, heq⟩ := List.mem_map.mp (List.mem_reverse.mp hw)
            cases heq
            have hv := PyDict.mem_entries_iff.mp (mem_unseen.mp hbefore).1
            rw [hvalue] at hv
            rw [Option.some.inj hv]
        rw [hbehind, Option.some_or, Option.map_some]

end CameraStack.Admin.SecretStore
