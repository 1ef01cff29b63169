/-
# rs-runtime.env

The file holds two runtime knobs, one `KEY=value` line each, below a comment header.
It may be edited by hand, so the reader takes any text; the writer renders a whole
dictionary in sorted order.

Reading what was rendered gives the dictionary back, as long as keys and values are
clean: this is what makes a merged write hold what it was asked to write.
-/

import CameraStack.Lib.Dict
import CameraStack.Lib.Text

namespace CameraStack.Runtime

open CameraStack.Lib

/-- The bytes of a file, through their text where they decode. -/
inductive Content
  | text (s : String)
  | undecodable (bytes : List UInt8)
  deriving DecidableEq

/-- A regular file. -/
structure EnvFile where
  content : Content
  mode : ℕ
  deriving DecidableEq

/-! ## Reading -/

/-- One line of the loop of `read_keys`. -/
def parseLine (raw : List Char) : Option (String × String) :=
  let line := stripChars raw
  if line = [] ∨ line.head? = some '#' then none
  else
    match line.dropWhile (· ≠ '=') with
    | [] => none
    | _ :: value =>
        some (String.ofList (stripChars (line.takeWhile (· ≠ '='))),
          String.ofList (stripChars value))

/-- The keys of a text; a later line overrides an earlier one. -/
def keysOfText (s : String) : Dict String :=
  (∅ : Dict String).insertMany ((splitLines s.toList).filterMap parseLine)

/-- `read_keys`: `none` when the text does not decode. -/
def readKeys : Option EnvFile → Option (Dict String)
  | none => some ∅
  | some file =>
      match file.content with
      | .text s => some (keysOfText s)
      | .undecodable _ => none

/-! ## Writing -/

/-- `ALLOWLIST`. -/
def allowlist : List String := ["ICE_POLICY", "TURN_CRED_TTL"]

/-- The lines of `_HEADER`. -/
def headerLines : List String :=
  ["# Non-secret runtime-tunable knobs for the L4 service (managed by runtime-config apply).",
    "# Allowlist: ICE_POLICY, TURN_CRED_TTL only. Do NOT add secrets here."]

/-- The line of one key. -/
def envLine (entry : String × String) : List Char :=
  entry.1.toList ++ '=' :: entry.2.toList

/-- The body `write_locked` writes. -/
def render (merged : Dict String) : String :=
  String.ofList ((headerLines.map String.toList ++ merged.toList.map envLine).flatMap
    fun line => line ++ ['\n'])

/-- Every key is one of the two: the first half of `_assert_allowlisted`.  The second
half, that no key is a secret one, follows from it. -/
def allowlisted (keys : List String) : Bool := keys.all fun key => key ∈ allowlist

/-- `{**cur, **updates}`. -/
def mergeKeys (cur : Dict String) (updates : List (String × String)) : Dict String :=
  cur.insertMany updates

example : keysOfText "# note\r\n ICE_POLICY = relay \nbroken\nTURN_CRED_TTL=900\nICE_POLICY=all" =
    (∅ : Dict String).insertMany [("ICE_POLICY", "all"), ("TURN_CRED_TTL", "900")] := by
  decide +kernel

/-! ## Round trip -/

/-- A text that can stand on one side of the equals sign. -/
def CleanText (cs : List Char) : Prop := Stripped cs ∧ ∀ c ∈ cs, isLineBreak c = false

/-- A key that is read back as it is written. -/
def CleanKey (cs : List Char) : Prop :=
  CleanText cs ∧ cs ≠ [] ∧ cs.head? ≠ some '#' ∧ '=' ∉ cs

theorem cleanText_of_forall {cs : List Char} (h : ∀ c ∈ cs, isPySpace c = false) :
    CleanText cs := by
  refine ⟨⟨?_, ?_⟩, ?_⟩
  · exact fun c hc => h c (List.mem_of_mem_head? hc)
  · exact fun c hc => h c (List.mem_of_mem_getLast? hc)
  · intro c hc
    have hspace := h c hc
    simp only [isPySpace, isLineBreak, Bool.or_eq_false_iff, Bool.and_eq_false_iff,
      decide_eq_false_iff_not] at hspace ⊢
    omega

theorem cleanText_of_all {cs : List Char} (h : cs.all (fun c => !isPySpace c) = true) :
    CleanText cs := by
  apply cleanText_of_forall
  simpa using h

/-- A line of a clean key and a clean value is parsed into them. -/
theorem parseLine_envLine {key value : String} (hkey : CleanKey key.toList)
    (hvalue : CleanText value.toList) : parseLine (envLine (key, value)) = some (key, value) := by
  have hne := hkey.2.1
  have hhead : (envLine (key, value)).head? = key.toList.head? := by
    cases hcs : key.toList with
    | nil => exact absurd hcs hne
    | cons c cs => simp [envLine, hcs]
  have hstrip : stripChars (envLine (key, value)) = envLine (key, value) := by
    apply stripChars_eq_self
    constructor
    · intro c hc
      rw [hhead] at hc
      exact hkey.1.1.1 c hc
    · intro c hc
      rw [envLine, List.getLast?_append, List.getLast?_cons] at hc
      simp only [Option.some_or, Option.some.injEq] at hc
      cases hlast : value.toList.getLast? with
      | none =>
          rw [hlast] at hc
          subst hc
          decide
      | some d =>
          rw [hlast] at hc
          subst hc
          exact hvalue.1.2 d hlast
  have hbefore : ∀ c ∈ key.toList, decide (c ≠ '=') = true := by
    intro c hc
    simp only [decide_eq_true_eq]
    rintro rfl
    exact hkey.2.2.2 hc
  have hdrop : (envLine (key, value)).dropWhile (· ≠ '=') = '=' :: value.toList := by
    rw [envLine, List.dropWhile_append_of_pos hbefore]
    simp
  have htake : (envLine (key, value)).takeWhile (· ≠ '=') = key.toList := by
    rw [envLine, List.takeWhile_append_of_pos hbefore]
    simp
  have hcond : ¬ (envLine (key, value) = [] ∨ (envLine (key, value)).head? = some '#') := by
    rintro (hnil | hhash)
    · simp [envLine] at hnil
    · exact hkey.2.2.1 (hhead ▸ hhash)
  simp only [parseLine, hstrip, if_neg hcond, hdrop, htake, stripChars_eq_self hkey.1.1,
    stripChars_eq_self hvalue.1, String.ofList_toList]

/-- Every entry of a dictionary is clean. -/
def CleanKeys (d : Dict String) : Prop :=
  d.Each fun key value => CleanKey key.toList ∧ CleanText value.toList

/-- What is rendered is read back. -/
theorem keysOfText_render {merged : Dict String} (h : CleanKeys merged) :
    keysOfText (render merged) = merged := by
  have hentries : ∀ entry ∈ merged.toList,
      CleanKey entry.1.toList ∧ CleanText entry.2.toList := h.toList
  have hheader : headerLines.all (fun line => line.toList.all fun c => !isLineBreak c) = true := by
    decide +kernel
  have hclean : ∀ line ∈ headerLines.map String.toList, ∀ c ∈ line, isLineBreak c = false := by
    simpa using hheader
  have hlines : ∀ line ∈ headerLines.map String.toList ++ merged.toList.map envLine,
      ∀ c ∈ line, isLineBreak c = false := by
    intro line hline
    rcases List.mem_append.mp hline with hheader | hentry
    · exact hclean line hheader
    · rcases List.mem_map.mp hentry with ⟨entry, hmem, rfl⟩
      intro c hc
      rw [envLine, List.mem_append, List.mem_cons] at hc
      rcases hc with hc | rfl | hc
      · exact (hentries entry hmem).1.1.2 c hc
      · decide
      · exact (hentries entry hmem).2.2 c hc
  have hheader : (headerLines.map String.toList).filterMap parseLine = [] := by decide +kernel
  have hbody : (merged.toList.map envLine).filterMap parseLine = merged.toList := by
    rw [List.filterMap_map]
    nth_rewrite 2 [← List.filterMap_some (l := merged.toList)]
    apply List.filterMap_congr
    intro entry hmem
    exact parseLine_envLine (hentries entry hmem).1 (hentries entry hmem).2
  rw [keysOfText, render, String.toList_ofList, splitLines_flatMap hlines, List.filterMap_append,
    hheader, hbody, List.nil_append, Dict.insertMany_toList]

/-- What is read from any text is clean, but for the keys. -/
theorem cleanText_keysOfText (s : String) :
    (keysOfText s).Each fun _ value => CleanText value.toList := by
  refine Dict.Each.insertMany Dict.each_empty ?_
  intro entry hentry
  rcases List.mem_filterMap.mp hentry with ⟨raw, hraw, hparse⟩
  simp only [parseLine] at hparse
  split at hparse
  · cases hparse
  · split at hparse
    · cases hparse
    · next c value hdrop =>
        cases hparse
        simp only [String.toList_ofList]
        refine ⟨stripped_stripChars value, ?_⟩
        intro d hd
        apply not_isLineBreak_of_mem_splitLines hraw
        apply mem_of_mem_stripChars
        apply (List.dropWhile_suffix (· ≠ '=')).subset
        rw [hdrop]
        exact List.mem_cons_of_mem _ (mem_of_mem_stripChars hd)

theorem cleanKey_of_mem_allowlist {key : String} (h : key ∈ allowlist) : CleanKey key.toList := by
  simp only [allowlist, List.mem_cons, List.not_mem_nil, or_false] at h
  rcases h with rfl | rfl
  · exact ⟨cleanText_of_all (by decide), by decide⟩
  · exact ⟨cleanText_of_all (by decide), by decide⟩

end CameraStack.Runtime
