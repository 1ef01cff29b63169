/-
# Lines put together again

A writer that takes a text apart into lines, joins them with newlines and adds a newline
where none ends the text keeps every line but one: an empty last line is taken for the
end of the line before it.

Stripping and scanning stop at a character of another kind, whatever follows it.
-/

import CameraStack.Lib.Text
import Mathlib.Data.List.TakeWhile

namespace CameraStack.Lib

variable {lines front : List (List Char)} {last : List Char}

/-- `"\n".join(lines)`. -/
def joinLines (lines : List (List Char)) : List Char := List.intercalate ['\n'] lines

/-- A newline is added to a text that does not end with one. -/
def terminated (text : List Char) : List Char :=
  if text.getLast? = some '\n' then text else text ++ ['\n']

/-- Every line with its newline. -/
def unlines (lines : List (List Char)) : List Char := lines.flatMap fun line => line ++ ['\n']

/-- The lines without an empty last one. -/
def dropEmptyLast (lines : List (List Char)) : List (List Char) :=
  if lines.getLast? = some [] ∧ 2 ≤ lines.length then lines.dropLast else lines

/-- No line holds a line break. -/
def Unbroken (lines : List (List Char)) : Prop :=
  ∀ line ∈ lines, ∀ c ∈ line, isLineBreak c = false

theorem joinLines_concat (front : List (List Char)) (last : List Char) :
    joinLines (front ++ [last]) = unlines front ++ last := by
  induction front with
  | nil => simp [joinLines, unlines]
  | cons line front ih =>
      have hne : front ++ [last] ≠ [] := by simp
      rw [joinLines, List.cons_append, List.intercalate_cons_of_ne_nil hne]
      rw [joinLines] at ih
      rw [ih, unlines, unlines, List.flatMap_cons]
      simp

theorem dropEmptyLast_concat (front : List (List Char)) (last : List Char) :
    dropEmptyLast (front ++ [last]) =
      if last = [] ∧ front ≠ [] then front else front ++ [last] := by
  cases front with
  | nil => simp [dropEmptyLast]
  | cons line front =>
      rw [dropEmptyLast, List.getLast?_concat, List.dropLast_concat]
      simp

theorem dropEmptyLast_isPrefix (lines : List (List Char)) : dropEmptyLast lines <+: lines := by
  rw [dropEmptyLast]
  split
  · exact List.dropLast_prefix lines
  · exact List.prefix_rfl

theorem unlines_getLast? (hne : lines ≠ []) : (unlines lines).getLast? = some '\n' := by
  obtain ⟨front, last, rfl⟩ := List.eq_nil_or_concat' lines |>.resolve_left hne
  rw [unlines, List.flatMap_append]
  simp

/-- The text that is written, by its terminated lines. -/
theorem terminated_joinLines (hne : lines ≠ []) (h : Unbroken lines) :
    terminated (joinLines lines) = unlines (dropEmptyLast lines) := by
  obtain ⟨front, last, rfl⟩ := List.eq_nil_or_concat' lines |>.resolve_left hne
  rw [joinLines_concat, dropEmptyLast_concat, terminated]
  cases last with
  | nil =>
      rw [List.append_nil]
      cases front with
      | nil => rfl
      | cons line front => rw [unlines_getLast? (List.cons_ne_nil _ _)]; simp
  | cons c last =>
      have hlast : (unlines front ++ c :: last).getLast? ≠ some '\n' := by
        intro heq
        rw [List.getLast?_append_cons] at heq
        have hmem := List.mem_of_getLast? heq
        have hbreak := h (c :: last) (by simp) '\n' hmem
        cases hbreak
      rw [if_neg hlast, if_neg (by simp), unlines, unlines, List.flatMap_append]
      simp

theorem splitLines_unlines (h : Unbroken lines) : splitLines (unlines lines) = lines :=
  splitLines_flatMap h

theorem Unbroken.dropEmptyLast (h : Unbroken lines) : Unbroken (dropEmptyLast lines) :=
  fun line hline => h line ((dropEmptyLast_isPrefix lines).subset hline)

/-- What is written is read back, without an empty last line. -/
theorem splitLines_terminated (hne : lines ≠ []) (h : Unbroken lines) :
    splitLines (terminated (joinLines lines)) = Lib.dropEmptyLast lines := by
  rw [terminated_joinLines hne h, splitLines_unlines h.dropEmptyLast]

/-- Two texts are the same when their lines are. -/
theorem terminated_joinLines_inj {others : List (List Char)} (hne : lines ≠ [])
    (h : Unbroken lines) (hne' : others ≠ []) (h' : Unbroken others) :
    terminated (joinLines lines) = terminated (joinLines others) ↔
      Lib.dropEmptyLast lines = Lib.dropEmptyLast others := by
  constructor
  · intro heq
    rw [← splitLines_terminated hne h, ← splitLines_terminated hne' h', heq]
  · intro heq
    rw [terminated_joinLines hne h, terminated_joinLines hne' h', heq]

theorem unbroken_splitLines (cs : List Char) : Unbroken (splitLines cs) :=
  fun _ hline _ hc => not_isLineBreak_of_mem_splitLines hline hc

/-- Lines that do not end in an empty one stay. -/
theorem dropEmptyLast_concat_of_ne (hlast : last ≠ []) :
    dropEmptyLast (front ++ [last]) = front ++ [last] := by
  rw [dropEmptyLast_concat, if_neg fun h => hlast h.1]

/-- Dropping twice drops more exactly when the lines end in two empty ones and hold another. -/
theorem dropEmptyLast_twice (hsome : ∃ line ∈ lines, line ≠ []) :
    dropEmptyLast (dropEmptyLast lines) = dropEmptyLast lines ↔ ¬ [[], []] <:+ lines := by
  obtain ⟨line, hline, hnonempty⟩ := hsome
  have hne : lines ≠ [] := List.ne_nil_of_mem hline
  obtain ⟨front, last, rfl⟩ := List.eq_nil_or_concat' lines |>.resolve_left hne
  by_cases hlast : last = []
  · subst hlast
    have hfront : line ∈ front := by
      rcases List.mem_append.mp hline with hline | hline
      · exact hline
      · exact absurd (List.mem_singleton.mp hline) hnonempty
    have hne' : front ≠ [] := List.ne_nil_of_mem hfront
    rw [dropEmptyLast_concat, if_pos ⟨rfl, hne'⟩]
    obtain ⟨init, last, rfl⟩ := List.eq_nil_or_concat' front |>.resolve_left hne'
    have hsuffix : [[], []] <:+ init ++ [last] ++ [[]] ↔ last = [] := by
      constructor
      · rintro ⟨before, hbefore⟩
        have heq : before ++ [[]] ++ [[]] = init ++ [last] ++ [[]] := by simpa using hbefore
        have hinner := List.append_inj_left' heq rfl
        have hlast := List.append_inj_right' hinner rfl
        simpa using hlast.symm
      · rintro rfl
        exact ⟨init, by simp⟩
    rw [hsuffix, dropEmptyLast_concat]
    by_cases hlast : last = []
    · subst hlast
      have hinit : init ≠ [] := by
        rintro rfl
        exact hnonempty (List.mem_singleton.mp hfront)
      rw [if_pos ⟨rfl, hinit⟩]
      simp
    · rw [if_neg fun h => hlast h.1]
      simp [hlast]
  · have hsuffix : ¬ [[], []] <:+ front ++ [last] := by
      rintro ⟨before, hbefore⟩
      have heq : before ++ [[]] ++ [[]] = front ++ [last] := by simpa using hbefore
      have hright := List.append_inj_right' heq rfl
      exact hlast (by simpa using hright.symm)
    rw [dropEmptyLast_concat_of_ne hlast, dropEmptyLast_concat_of_ne hlast]
    simp [hsuffix]

section Stop

variable {c : Char}

/-! ## Stopping at a character -/

theorem dropWhile_append_stop {p : Char → Bool} (hc : p c = false) (front rest : List Char) :
    (front ++ c :: rest).dropWhile p = front.dropWhile p ++ c :: rest := by
  induction front with
  | nil => simp [hc]
  | cons d front ih =>
      by_cases hd : p d = true
      · rw [List.cons_append, List.dropWhile_cons_of_pos hd, List.dropWhile_cons_of_pos hd, ih]
      · rw [List.cons_append, List.dropWhile_cons_of_neg hd, List.dropWhile_cons_of_neg hd]
        rfl

theorem takeWhile_append_stop {p : Char → Bool} (hc : p c = false) (front rest : List Char) :
    (front ++ c :: rest).takeWhile p = front.takeWhile p := by
  induction front with
  | nil => simp [hc]
  | cons d front ih =>
      by_cases hd : p d = true
      · rw [List.cons_append, List.takeWhile_cons_of_pos hd, List.takeWhile_cons_of_pos hd, ih]
      · rw [List.cons_append, List.takeWhile_cons_of_neg hd, List.takeWhile_cons_of_neg hd]

theorem dropWhile_dropWhile {p : Char → Bool} (cs : List Char) :
    (cs.dropWhile p).dropWhile p = cs.dropWhile p :=
  dropWhile_eq_self_of_head fun _ hc => head?_dropWhile_of hc

theorem rstripChars_append_stop (hc : isPySpace c = false) (front rest : List Char) :
    rstripChars (front ++ c :: rest) = front ++ c :: rstripChars rest := by
  rw [rstripChars, List.reverse_append, List.reverse_cons, List.append_assoc,
    List.singleton_append, dropWhile_append_stop hc, List.reverse_append, List.reverse_cons,
    List.reverse_reverse, rstripChars, List.append_assoc, List.singleton_append]

theorem stripChars_eq (cs : List Char) : stripChars cs = rstripChars (cs.dropWhile isPySpace) := rfl

theorem stripChars_append_stop (hc : isPySpace c = false) (front rest : List Char) :
    stripChars (front ++ c :: rest) = front.dropWhile isPySpace ++ c :: rstripChars rest := by
  rw [stripChars_eq, dropWhile_append_stop hc, rstripChars_append_stop hc]

theorem stripChars_dropWhile (cs : List Char) :
    stripChars (cs.dropWhile isPySpace) = stripChars cs := by
  rw [stripChars_eq, dropWhile_dropWhile, ← stripChars_eq]

/-- Nothing but blanks, or blanks up to the first other character. -/
theorem blank_or_split (cs : List Char) :
    (∀ d ∈ cs, isPySpace d = true) ∨
      ∃ blanks d more, cs = blanks ++ d :: more ∧ isPySpace d = false := by
  cases hrest : cs.dropWhile isPySpace with
  | nil => exact .inl (List.dropWhile_eq_nil_iff.mp hrest)
  | cons d more =>
      apply Or.inr
      use cs.takeWhile isPySpace, d, more
      exact ⟨by rw [← hrest, List.takeWhile_append_dropWhile],
        head?_dropWhile_of (by rw [hrest]; rfl)⟩

theorem stripChars_of_blank {cs : List Char} (h : ∀ d ∈ cs, isPySpace d = true) :
    stripChars cs = [] := by
  rw [stripChars_eq, List.dropWhile_eq_nil_iff.mpr h]
  rfl

theorem stripChars_rstripChars (cs : List Char) :
    stripChars (rstripChars cs) = stripChars cs := by
  rcases blank_or_split cs with hblank | ⟨blanks, d, more, rfl, hd⟩
  · have hr : ∀ d ∈ rstripChars cs, isPySpace d = true :=
      fun d hd => hblank d ((rstripChars_isPrefix cs).subset hd)
    rw [stripChars_of_blank hblank, stripChars_of_blank hr]
  · rw [rstripChars_append_stop hd, stripChars_append_stop hd, stripChars_append_stop hd]
    have hidem : rstripChars (rstripChars more) = rstripChars more := by
      rw [rstripChars, rstripChars, List.reverse_reverse, dropWhile_dropWhile]
    rw [hidem]

theorem head?_stripChars (cs : List Char) :
    (stripChars cs).head? = (cs.dropWhile isPySpace).head? := by
  cases hrest : cs.dropWhile isPySpace with
  | nil => rw [stripChars_eq, hrest]; rfl
  | cons d more =>
      have hd : isPySpace d = false := head?_dropWhile_of (by rw [hrest]; rfl)
      have hstop := rstripChars_append_stop hd [] more
      rw [List.nil_append, List.nil_append] at hstop
      rw [stripChars_eq, hrest, hstop]
      rfl

end Stop

end CameraStack.Lib
