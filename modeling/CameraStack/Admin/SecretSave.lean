/-
# Saving the secrets, and saving them again

The dictionary that was read with one key set is written over the lines it was read in.
The lines of the new file, what is read in them and which of them are comments follow
from what one line becomes.

A second save of the same dictionary finds every line with a key in capitals as it would
write it.  So it leaves the lines, but for the keys the pattern does not find, which it
writes behind the others once more, and for an empty last line.
-/

import CameraStack.Admin.SecretLines

namespace CameraStack.Admin.SecretStore

open CameraStack.Lib

def isComment (line : List Char) : Bool := (stripChars line).head? = some '#'

/-! ## The file that is written -/

/-- The lines `_save_env` writes over: a new file has its header. -/
def baseLines : Option String → List (List Char)
  | none => [newHeader]
  | some text => splitLines text.toList

variable {file : Option String} {values : PyDict String} {key value : String}

theorem parseEntry_newHeader : parseEntry newHeader = none := by decide +kernel

theorem unbroken_baseLines (file : Option String) : Unbroken (baseLines file) := by
  cases file with
  | none =>
      have hall : newHeader.all (fun c => !isLineBreak c) = true := by decide +kernel
      intro line hline c hc
      rw [List.mem_singleton.mp hline] at hc
      simpa using List.all_eq_true.mp hall c hc
  | some text => exact unbroken_splitLines text.toList

theorem load_eq (h : load file = .ok values) : values = parseLines (baseLines file) := by
  cases file with
  | none =>
      cases h
      have hentries : [newHeader].filterMap parseEntry = [] := by
        rw [List.filterMap_cons_none parseEntry_newHeader]
        rfl
      rw [baseLines, parseLines, hentries]
      rfl
  | some text =>
      rw [load] at h
      split at h
      · cases h
      · cases h
        rfl

/-- The text of a save, by the lines it writes over. -/
theorem saveEnv_toList (file : Option String) (values : PyDict String) :
    (saveEnv file values).toList = terminated (joinLines (savedLines values (baseLines file))) := by
  rw [saveEnv.eq_def, String.toList_ofList]
  cases file with
  | some text => rfl
  | none =>
      have hknown : knownKey values newHeader = none := by
        have hmatch : matchKey newHeader = none := by decide +kernel
        rw [knownKey, hmatch]
        rfl
      have hseen : seenKeys values [newHeader] = [] := by
        have hheader : (headerLines [newHeader]).filterMap (knownKey values) = [] := by
          apply List.filterMap_eq_nil_iff.mpr
          intro line hline
          rw [List.mem_singleton.mp ((List.takeWhile_prefix _).subset hline), hknown]
        rw [seenKeys, hheader, List.filterMap_cons_none hknown]
        rfl
      have hsaved : savedLines values [newHeader] =
          newHeader :: values.entries.map fun entry => envLine entry.1 entry.2 := by
        rw [savedLines, hseen, List.map_singleton, rendered, hknown]
        simp
      simp only [baseLines, hsaved]
      cases hentries : values.entries with
      | nil => decide +kernel
      | cons entry entries =>
          rw [joinLines, joinLines, List.map_cons, List.intercalate_cons_cons]
          simp

/-- An empty last line tells nothing. -/
theorem dropEmptyLast_or (lines : List (List Char)) :
    dropEmptyLast lines = lines ∨ lines = dropEmptyLast lines ++ [[]] := by
  rcases List.eq_nil_or_concat' lines with rfl | ⟨front, last, rfl⟩
  · exact .inl rfl
  · rw [dropEmptyLast_concat]
    split
    · next h => exact .inr (by rw [h.1])
    · exact .inl rfl

theorem parseLines_dropEmptyLast (lines : List (List Char)) :
    parseLines (dropEmptyLast lines) = parseLines lines := by
  rcases dropEmptyLast_or lines with h | h
  · rw [h]
  · have hblank : parseEntry [] = none := by decide
    have hentries : lines.filterMap parseEntry = (dropEmptyLast lines).filterMap parseEntry := by
      nth_rewrite 1 [h]
      rw [List.filterMap_append, List.filterMap_cons_none hblank, List.filterMap_nil,
        List.append_nil]
    rw [parseLines, parseLines, hentries]

theorem filter_isComment_dropEmptyLast (lines : List (List Char)) :
    (dropEmptyLast lines).filter isComment = lines.filter isComment := by
  rcases dropEmptyLast_or lines with h | h
  · rw [h]
  · have hblank : [([] : List Char)].filter isComment = [] := by decide
    nth_rewrite 2 [h]
    rw [List.filter_append, hblank, List.append_nil]

/-! ## Setting one key -/

section Set

variable {lines : List (List Char)} {after : PyDict String}

theorem keyForm_of_upper (h : isUpperKey key.toList = true) : KeyForm key := by
  have hchars : ∀ c ∈ key.toList, isKeyChar c = true := by
    intro c hc
    cases hkey : key.toList with
    | nil => rw [hkey] at hc; cases hc
    | cons d cs =>
        rw [hkey] at h hc
        rw [isUpperKey, Bool.and_eq_true, List.all_eq_true] at h
        rcases List.mem_cons.mp hc with rfl | hc
        · simp [isKeyChar, h.1]
        · exact h.2 c hc
  obtain ⟨hstripped, hline⟩ :=
    Runtime.cleanText_of_forall fun c hc => isPySpace_of_isKeyChar (hchars c hc)
  exact
    { stripped := hstripped
      noEquals := fun hmem => absurd (hchars '=' hmem) (by decide)
      noHash := fun hhead => absurd (hchars '#' (List.mem_of_mem_head? hhead)) (by decide)
      oneLine := hline }

theorem mem_keys_parseLines : key ∈ (parseLines lines).keys ↔
    ∃ line ∈ lines, ∃ value, parseEntry line = some (key, value) := by
  rw [PyDict.mem_keys_iff, get?_parseLines, List.lookup_isSome_iff]
  constructor
  · rintro ⟨entry, hentry, heq⟩
    obtain ⟨line, hline, hparse⟩ := List.mem_filterMap.mp (List.mem_reverse.mp hentry)
    rw [eq_of_beq heq]
    exact ⟨line, hline, entry.2, hparse⟩
  · rintro ⟨line, hline, value, hparse⟩
    use (key, value)
    exact ⟨List.mem_reverse.mpr (List.mem_filterMap.mpr ⟨line, hline, hparse⟩), by simp⟩

/-- A dictionary that was read and one key that is set, over the lines it was read in. -/
theorem covers_set (lines : List (List Char)) (key value : String) :
    Covers ((parseLines lines).set key value) lines := by
  intro line hline entry hparse
  have hmem : entry.1 ∈ (parseLines lines).keys :=
    mem_keys_parseLines.mpr ⟨line, hline, entry.2, hparse⟩
  rw [PyDict.mem_keys_iff] at hmem ⊢
  rw [PyDict.get?_set]
  split
  · rfl
  · exact hmem

theorem keyForm_set (hlines : Unbroken lines) (hkey : isUpperKey key.toList = true)
    (value : String) : ∀ other ∈ ((parseLines lines).set key value).keys, KeyForm other := by
  intro other hother
  by_cases heq : other = key
  · rw [heq]
    exact keyForm_of_upper hkey
  · rw [PyDict.mem_keys_iff, PyDict.get?_set, if_neg heq, ← PyDict.mem_keys_iff,
      mem_keys_parseLines] at hother
    obtain ⟨line, hline, w, hparse⟩ := hother
    exact (parseEntry_form (hlines line hline) hparse).1

theorem oneLine_parseLines (hlines : Unbroken lines)
    (h : (parseLines lines).get? key = some value) : OneLine value := by
  rw [get?_parseLines] at h
  obtain ⟨front, rest, hsplit, -⟩ := List.lookup_eq_some_iff.mp h
  have hmem : (key, value) ∈ (lines.filterMap parseEntry).reverse := by
    rw [hsplit]
    simp
  obtain ⟨line, hline, hparse⟩ := List.mem_filterMap.mp (List.mem_reverse.mp hmem)
  exact (parseEntry_form (hlines line hline) hparse).2

theorem unbroken_envLine (hkey : OneLine key) (hvalue : OneLine value) :
    ∀ c ∈ envLine key value, isLineBreak c = false := by
  intro c hc
  rw [envLine, List.mem_append, List.mem_cons] at hc
  rcases hc with hc | rfl | hc
  · exact hkey c hc
  · decide
  · exact hvalue c hc

/-- The lines that are written are lines. -/
theorem unbroken_savedLines (hlines : Unbroken lines)
    (hkeys : ∀ key ∈ values.keys, KeyForm key)
    (hvalues : ∀ key value, values.get? key = some value → OneLine value) :
    Unbroken (savedLines values lines) := by
  intro line hline
  rcases List.mem_append.mp hline with hline | hline
  · obtain ⟨before, hbefore, rfl⟩ := List.mem_map.mp hline
    rw [rendered]
    split
    · exact hlines before hbefore
    · next key hknown =>
        have hkey : key ∈ values.keys := by
          rw [knownKey, Option.filter_eq_some_iff] at hknown
          simpa using hknown.2
        obtain ⟨value, hvalue⟩ := Option.isSome_iff_exists.mp (PyDict.mem_keys_iff.mp hkey)
        rw [hvalue]
        exact unbroken_envLine (hkeys key hkey).oneLine (hvalues key value hvalue)
  · obtain ⟨entry, hentry, rfl⟩ := List.mem_map.mp hline
    have hmem := (List.mem_filter.mp hentry).1
    exact unbroken_envLine (hkeys entry.1 (List.mem_map_of_mem hmem)).oneLine
      (hvalues entry.1 entry.2 (PyDict.mem_entries_iff.mp hmem))

theorem envLine_ne_nil (key value : String) : envLine key value ≠ [] := by simp [envLine]

theorem savedLines_ne_nil (lines : List (List Char)) (hkey : key ∈ values.keys) :
    savedLines values lines ≠ [] := by
  intro hnil
  rw [savedLines, List.append_eq_nil_iff, List.map_eq_nil_iff, List.map_eq_nil_iff] at hnil
  obtain ⟨entry, hentry, heq⟩ := List.mem_map.mp hkey
  have hunseen := List.filter_eq_nil_iff.mp hnil.2 entry hentry
  rw [hnil.1] at hunseen
  simp [seenKeys, headerLines] at hunseen

/-- The lines of the written file. -/
theorem splitLines_saveEnv {file : Option String} (hne : savedLines values (baseLines file) ≠ [])
    (hunbroken : Unbroken (savedLines values (baseLines file))) :
    splitLines (saveEnv file values).toList =
      dropEmptyLast (savedLines values (baseLines file)) := by
  rw [saveEnv_toList, splitLines_terminated hne hunbroken]

/-- The written file is accepted and holds the dictionary, each value read again. -/
theorem load_saveEnv {file : Option String} (hcover : Covers values (baseLines file))
    (hkeys : ∀ key ∈ values.keys, KeyForm key) (hkey : key ∈ values.keys)
    (hunbroken : Unbroken (savedLines values (baseLines file))) :
    ∃ after, load (some (saveEnv file values)) = .ok after ∧
      ∀ other, after.get? other = (values.get? other).map reread := by
  have hparse : parseEnvFile (saveEnv file values) =
      parseLines (savedLines values (baseLines file)) := by
    rw [parseEnvFile, splitLines_saveEnv (savedLines_ne_nil _ hkey) hunbroken,
      parseLines_dropEmptyLast]
  have hget := get?_savedLines hcover hkeys
  have hsome : (parseEnvFile (saveEnv file values)).entries ≠ [] := by
    intro hnil
    obtain ⟨value, hvalue⟩ := Option.isSome_iff_exists.mp (PyDict.mem_keys_iff.mp hkey)
    have hfound := hget key
    rw [← hparse, PyDict.get?, hnil, hvalue] at hfound
    cases hfound
  use parseLines (savedLines values (baseLines file))
  constructor
  · rw [load, if_neg (fun h => hsome h.1), hparse]
  · exact hget

theorem isComment_envLine (hkey : KeyForm key) (value : String) :
    isComment (envLine key value) = false := by
  rw [isComment, head?_stripChars, envLine, dropWhile_append_stop (by decide),
    dropWhile_eq_self_of_head hkey.stripped.1, decide_eq_false_iff_not]
  cases hcs : key.toList with
  | nil => simp
  | cons c cs =>
      have hhash := hkey.noHash
      rw [hcs] at hhash
      exact hhash

theorem isComment_of_parseEntry {line : List Char} {entry : String × String}
    (h : parseEntry line = some entry) : isComment line = false := by
  rw [isComment, decide_eq_false_iff_not]
  intro hhash
  simp only [parseEntry, hhash, or_true, if_true] at h
  cases h

/-- No comment is written over, and none is written. -/
theorem filter_isComment_savedLines (hcover : Covers values lines)
    (hkeys : ∀ key ∈ values.keys, KeyForm key) :
    (savedLines values lines).filter isComment = lines.filter isComment := by
  have hnew : (((values.entries.filter fun entry => entry.1 ∉ seenKeys values lines).map
      fun entry => envLine entry.1 entry.2).filter isComment) = [] := by
    apply List.filter_eq_nil_iff.mpr
    intro line hline
    obtain ⟨entry, hentry, rfl⟩ := List.mem_map.mp hline
    have hmem := List.mem_map_of_mem (f := Prod.fst) (List.mem_filter.mp hentry).1
    rw [isComment_envLine (hkeys entry.1 hmem)]
    simp
  have hsame : ∀ line ∈ lines, isComment (rendered values line) = isComment line ∧
      (isComment line = true → rendered values line = line) := by
    intro line hline
    rcases rendered_cases hcover hline with ⟨hkept, -⟩ | ⟨key, value, hentry, -, hnew⟩
    · rw [hkept]
      exact ⟨rfl, fun _ => rfl⟩
    · rw [hnew, isComment_envLine (hkeys key (hcover line hline _ hentry)),
        isComment_of_parseEntry hentry]
      exact ⟨rfl, fun h => by cases h⟩
  rw [savedLines, List.filter_append, hnew, List.append_nil]
  have hfilter : lines.filter (isComment ∘ rendered values) = lines.filter isComment :=
    List.filter_congr fun line hline => (hsame line hline).1
  rw [List.filter_map, hfilter]
  nth_rewrite 2 [← List.map_id (lines.filter isComment)]
  apply List.map_congr_left
  intro line hline
  obtain ⟨hmem, hcomment⟩ := List.mem_filter.mp hline
  exact (hsame line hmem).2 hcomment

/-! ## Setting it once more -/

/-- A second save, over the lines of the first. -/
structure Again (values after : PyDict String) (lines : List (List Char)) : Prop where
  covers : Covers values lines
  keys : ∀ key ∈ values.keys, KeyForm key
  same : ∀ key, after.get? key = values.get? key
  parsed : ∀ key, ((parseLines (savedLines values lines)).get? key).isSome =
    (values.get? key).isSome

namespace Again

theorem mem_keys (h : Again values after lines) : key ∈ after.keys ↔ key ∈ values.keys := by
  rw [PyDict.mem_keys_iff, PyDict.mem_keys_iff, h.same]

theorem covers_saved (h : Again values after lines) :
    Covers after (savedLines values lines) := by
  intro line hline entry hentry
  have hmem : entry.1 ∈ (parseLines (savedLines values lines)).keys :=
    mem_keys_parseLines.mpr ⟨line, hline, entry.2, hentry⟩
  rw [PyDict.mem_keys_iff, h.parsed, ← PyDict.mem_keys_iff] at hmem
  exact h.mem_keys.mpr hmem

/-- Every line of the first save is written again as it is. -/
theorem rendered_saved (h : Again values after lines) {line : List Char}
    (hline : line ∈ savedLines values lines) : rendered after line = line := by
  rcases rendered_cases h.covers_saved hline with ⟨hkept, -⟩ | ⟨key, found, hentry, hupper, hsecond⟩
  · exact hkept
  · rw [hsecond, h.same]
    rcases List.mem_append.mp hline with hold | hnew
    · obtain ⟨before, hbefore, rfl⟩ := List.mem_map.mp hold
      rcases rendered_cases h.covers hbefore with ⟨hkept, hlower⟩ | ⟨name, w, hparse, -, hfirst⟩
      · rw [hkept] at hentry
        rw [hlower key found hentry] at hupper
        cases hupper
      · rw [hfirst, parseEntry_envLine (h.keys name (h.covers before hbefore _ hparse))] at hentry
        cases hentry
        rw [hfirst]
    · obtain ⟨entry, hmem, rfl⟩ := List.mem_map.mp hnew
      have hmem := (List.mem_filter.mp hmem).1
      rw [parseEntry_envLine (h.keys entry.1 (List.mem_map_of_mem hmem))] at hentry
      cases hentry
      rw [PyDict.mem_entries_iff.mp hmem]
      rfl

theorem covers_dropped (h : Again values after lines) :
    Covers after (dropEmptyLast (savedLines values lines)) :=
  fun line hline => h.covers_saved line ((dropEmptyLast_isPrefix _).subset hline)

/-- The second save writes the lines of the first, and behind them what it did not find. -/
theorem savedLines_again (h : Again values after lines) :
    savedLines after (dropEmptyLast (savedLines values lines)) =
      dropEmptyLast (savedLines values lines) ++
        (unseen after (dropEmptyLast (savedLines values lines))).map
          fun entry => envLine entry.1 entry.2 := by
  have hmap : (dropEmptyLast (savedLines values lines)).map (rendered after) =
      dropEmptyLast (savedLines values lines) := by
    nth_rewrite 2 [← List.map_id (dropEmptyLast (savedLines values lines))]
    apply List.map_congr_left
    intro line hline
    exact h.rendered_saved ((dropEmptyLast_isPrefix _).subset hline)
  rw [savedLines, hmap]
  rfl

/-- It finds the keys in capitals. -/
theorem unseen_eq_nil_iff (h : Again values after lines) :
    unseen after (dropEmptyLast (savedLines values lines)) = [] ↔
      ∀ key ∈ values.keys, isUpperKey key.toList = true := by
  have hseen : ∀ key ∈ values.keys,
      (key ∈ seenKeys after (dropEmptyLast (savedLines values lines)) ↔
        isUpperKey key.toList = true) := by
    intro key hkey
    have hparsed : key ∈ (parseLines (dropEmptyLast (savedLines values lines))).keys := by
      rw [parseLines_dropEmptyLast, PyDict.mem_keys_iff, h.parsed, ← PyDict.mem_keys_iff]
      exact hkey
    rw [mem_seenKeys h.covers_dropped, ← mem_keys_parseLines, and_iff_left hparsed]
  rw [unseen, List.filter_eq_nil_iff]
  constructor
  · intro hall key hkey
    obtain ⟨entry, hentry, rfl⟩ := List.mem_map.mp (h.mem_keys.mpr hkey)
    rw [← hseen entry.1 hkey]
    simpa using hall entry hentry
  · intro hall entry hentry
    have hkey : entry.1 ∈ values.keys := h.mem_keys.mp (List.mem_map_of_mem hentry)
    simpa using (hseen entry.1 hkey).mpr (hall entry.1 hkey)

/-- The second save leaves the lines exactly when every key is in capitals and the first
one did not leave two empty lines at the end. -/
theorem again_iff (h : Again values after lines) (hkey : key ∈ values.keys) :
    dropEmptyLast (savedLines after (dropEmptyLast (savedLines values lines))) =
        dropEmptyLast (savedLines values lines) ↔
      (∀ key ∈ values.keys, isUpperKey key.toList = true) ∧
        ¬ [[], []] <:+ savedLines values lines := by
  have hsome : ∃ line ∈ savedLines values lines, line ≠ [] := by
    have hparsed : key ∈ (parseLines (savedLines values lines)).keys := by
      rw [PyDict.mem_keys_iff, h.parsed, ← PyDict.mem_keys_iff]
      exact hkey
    obtain ⟨line, hline, value, hparse⟩ := mem_keys_parseLines.mp hparsed
    use line, hline
    rintro rfl
    cases hparse
  rw [h.savedLines_again, ← h.unseen_eq_nil_iff]
  rcases List.eq_nil_or_concat' (unseen after (dropEmptyLast (savedLines values lines))) with
    hnil | ⟨front, last, hlast⟩
  · rw [hnil, List.map_nil, List.append_nil, dropEmptyLast_twice hsome]
    simp
  · rw [hlast, List.map_append, List.map_singleton, ← List.append_assoc,
      dropEmptyLast_concat_of_ne (envLine_ne_nil _ _)]
    constructor
    · intro heq
      have hlength := congrArg List.length heq
      rw [List.length_append, List.length_append, List.length_singleton] at hlength
      omega
    · rintro ⟨hnil, -⟩
      cases front with
      | nil => cases hnil
      | cons entry front => cases hnil

end Again

theorem rendered_eq_nil_iff (hcover : Covers values lines) {line : List Char}
    (hline : line ∈ lines) : rendered values line = [] ↔ line = [] := by
  rcases rendered_cases hcover hline with ⟨hkept, -⟩ | ⟨key, value, hentry, -, hnew⟩
  · rw [hkept]
  · have hne : line ≠ [] := by
      rintro rfl
      cases hentry
    rw [hnew]
    exact iff_of_false (envLine_ne_nil _ _) hne

theorem blanks_isSuffix_map {f : List Char → List Char}
    (h : ∀ line ∈ lines, f line = [] ↔ line = []) :
    [[], []] <:+ lines.map f ↔ [[], []] <:+ lines := by
  constructor
  · rintro ⟨front, hfront⟩
    obtain ⟨before, blanks, rfl, -, hblanks⟩ := List.map_eq_append_iff.mp hfront.symm
    obtain ⟨a, rest, rfl, ha, hrest⟩ := List.map_eq_cons_iff.mp hblanks
    obtain ⟨b, rest, rfl, hb, hrest⟩ := List.map_eq_cons_iff.mp hrest
    obtain rfl := List.map_eq_nil_iff.mp hrest
    rw [(h a (by simp)).mp ha, (h b (by simp)).mp hb]
    exact List.suffix_append before [[], []]
  · rintro ⟨front, rfl⟩
    have hnil : f [] = [] := (h [] (by simp)).mpr rfl
    rw [List.map_append, List.map_cons, List.map_singleton, hnil]
    exact List.suffix_append _ _

/-- How the lines of a save end, where the pattern finds every key. -/
theorem savedLines_ending (hcover : Covers values lines)
    (hupper : ∀ key ∈ values.keys, isUpperKey key.toList = true) :
    [[], []] <:+ savedLines values lines ↔
      (∀ key ∈ values.keys, key ∈ (parseLines lines).keys) ∧ [[], []] <:+ lines := by
  have hseen : ∀ key ∈ values.keys,
      (key ∈ seenKeys values lines ↔ key ∈ (parseLines lines).keys) := by
    intro key hkey
    rw [mem_seenKeys hcover, ← mem_keys_parseLines, and_iff_right (hupper key hkey)]
  have hsaved : savedLines values lines = lines.map (rendered values) ++
      (unseen values lines).map fun entry => envLine entry.1 entry.2 := rfl
  rcases List.eq_nil_or_concat' (unseen values lines) with hnil | ⟨front, last, hlast⟩
  · have hall : ∀ key ∈ values.keys, key ∈ (parseLines lines).keys := by
      intro key hkey
      obtain ⟨entry, hentry, rfl⟩ := List.mem_map.mp hkey
      rw [← hseen entry.1 hkey]
      simpa using List.filter_eq_nil_iff.mp hnil entry hentry
    rw [hsaved, hnil, List.map_nil, List.append_nil, and_iff_right hall]
    exact blanks_isSuffix_map fun line hline => rendered_eq_nil_iff hcover hline
  · have hmem : last ∈ unseen values lines := by
      rw [hlast]
      simp
    obtain ⟨hentry, hnew⟩ := mem_unseen.mp hmem
    have hkey : last.1 ∈ values.keys := List.mem_map_of_mem hentry
    have hnot : ¬ ∀ key ∈ values.keys, key ∈ (parseLines lines).keys :=
      fun hall => hnew ((hseen last.1 hkey).mpr (hall last.1 hkey))
    have hend : ¬ [[], []] <:+ savedLines values lines := by
      rintro ⟨before, hbefore⟩
      rw [hsaved, hlast, List.map_append, List.map_singleton, ← List.append_assoc] at hbefore
      have heq : before ++ [[]] ++ [[]] = lines.map (rendered values) ++
          front.map (fun entry => envLine entry.1 entry.2) ++ [envLine last.1 last.2] := by
        simpa using hbefore
      have hright := List.append_inj_right' heq rfl
      exact envLine_ne_nil last.1 last.2 (by simpa using hright.symm)
    exact iff_of_false hend fun h => hnot h.1

end Set

end CameraStack.Admin.SecretStore
