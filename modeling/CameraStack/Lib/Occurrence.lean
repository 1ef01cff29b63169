/-
# Occurrences of a needle

A needle that does not overlap itself occurs in a text as often as `str.count` says.  A character
that the needle does not have separates the text: no occurrence reaches across it.
-/

import CameraStack.Lib.Text

namespace CameraStack.Lib

/-- At how many places of a text a needle begins. -/
def occurrences (needle : List Char) : List Char → ℕ
  | [] => 0
  | c :: cs => (if needle <+: c :: cs then 1 else 0) + occurrences needle cs

section Needle

variable {needle : List Char}

theorem occurrences_eq_zero_iff (hne : needle ≠ []) {cs : List Char} :
    occurrences needle cs = 0 ↔ ¬ needle <:+: cs := by
  induction cs with
  | nil => exact iff_of_true rfl fun h => hne (List.infix_nil.mp h)
  | cons c cs ih =>
      rw [occurrences, List.infix_cons_iff, not_or, ← ih, Nat.add_eq_zero_iff]
      by_cases hhere : needle <+: c :: cs
      · rw [if_pos hhere]
        exact iff_of_false (fun h => Nat.one_ne_zero h.1) fun h => h.1 hhere
      · rw [if_neg hhere]
        exact ⟨fun h => ⟨hhere, h.2⟩, fun h => ⟨rfl, h.2⟩⟩

/-- A character that the needle does not have separates the text. -/
theorem occurrences_append_cons {d : Char} (hd : d ∉ needle) (hne : needle ≠ [])
    (front tail : List Char) :
    occurrences needle (front ++ d :: tail) =
      occurrences needle front + occurrences needle tail := by
  induction front with
  | nil =>
      have hnot : ¬ needle <+: d :: tail := fun h =>
        hne (List.prefix_nil.mp (@isPrefix_of_isPrefix_append_cons needle [] tail d hd h))
      rw [List.nil_append, occurrences.eq_2, if_neg hnot, occurrences]
  | cons c front ih =>
      have hhere : needle <+: c :: (front ++ d :: tail) ↔ needle <+: c :: front :=
        ⟨@isPrefix_of_isPrefix_append_cons needle (c :: front) tail d hd,
          fun h => h.trans (List.prefix_append (c :: front) _)⟩
      rw [List.cons_append, occurrences, occurrences, ih]
      simp only [hhere]
      rw [Nat.add_assoc]

theorem occurrences_append_le (front tail : List Char) :
    occurrences needle front + occurrences needle tail ≤ occurrences needle (front ++ tail) := by
  induction front with
  | nil => exact Nat.le_of_eq (Nat.zero_add _)
  | cons c front ih =>
      rw [List.cons_append, occurrences, occurrences]
      split_ifs with hfront hall
      · omega
      · exact absurd (hfront.trans (List.prefix_append (c :: front) tail)) hall
      · omega
      · omega

/-- What is dropped from the front does not begin with the needle. -/
theorem occurrences_dropWhile {d : Char} {more : List Char} {p : Char → Bool} (hd : p d = false)
    (cs : List Char) : occurrences (d :: more) (cs.dropWhile p) = occurrences (d :: more) cs := by
  induction cs with
  | nil => rfl
  | cons c cs ih =>
      rw [List.dropWhile_cons]
      split_ifs with hc
      · have hnot : ¬ d :: more <+: c :: cs := by
          intro h
          rw [(List.cons_prefix_cons.mp h).1, hc] at hd
          cases hd
        rw [ih, occurrences, if_neg hnot, Nat.zero_add]
      · rfl

/-- A needle that occurs once is found where it is. -/
theorem cutAt_of_occurrences (hne : needle ≠ []) {before rest : List Char}
    (h : occurrences needle (before ++ needle ++ rest) = 1) :
    cutAt needle (before ++ needle ++ rest) = some (before, rest) := by
  induction before with
  | nil => exact cutAt_append hne rest
  | cons c before ih =>
      rw [List.cons_append, List.cons_append, occurrences] at h
      have hlater : occurrences needle (before ++ needle ++ rest) ≠ 0 := fun hzero =>
        (occurrences_eq_zero_iff hne).mp hzero ⟨before, rest, rfl⟩
      split_ifs at h with hhere
      · omega
      · rw [List.cons_append, List.cons_append, cutAt_cons, if_neg hhere, ih (by omega)]
        rfl

/-- A needle that does not occur in the front is found behind it. -/
theorem cutAt_behind {d : Char} (hd : d ∉ needle) (hne : needle ≠ []) {front : List Char}
    (h : occurrences needle front = 0) (tail : List Char) :
    cutAt needle (front ++ d :: (needle ++ tail)) = some (front ++ [d], tail) := by
  induction front with
  | nil =>
      have hnot : ¬ needle <+: d :: (needle ++ tail) := fun hhere =>
        hne (List.prefix_nil.mp (@isPrefix_of_isPrefix_append_cons needle [] _ d hd hhere))
      rw [List.nil_append, cutAt_cons, if_neg hnot, cutAt_append hne]
      rfl
  | cons c front ih =>
      rw [occurrences, Nat.add_eq_zero_iff] at h
      have hnot : ¬ needle <+: c :: (front ++ d :: (needle ++ tail)) := by
        intro hhere
        have hfront := @isPrefix_of_isPrefix_append_cons needle (c :: front) _ d hd hhere
        rw [if_pos hfront] at h
        exact Nat.one_ne_zero h.1
      rw [List.cons_append, cutAt_cons, if_neg hnot, ih h.2]
      rfl

/-- A needle that occurs in front of the character is found there. -/
theorem cutAt_within {d : Char} (hd : d ∉ needle) (hne : needle ≠ []) {front : List Char}
    (h : occurrences needle front ≠ 0) (tail : List Char) :
    ∃ before rest, cutAt needle (front ++ d :: tail) = some (before, rest ++ d :: tail) := by
  induction front with
  | nil => exact absurd rfl h
  | cons c front ih =>
      by_cases hhere : needle <+: c :: front
      · obtain ⟨rest, hrest⟩ := hhere
        rw [← hrest, List.append_assoc]
        exact ⟨[], rest, cutAt_append hne _⟩
      · have hnot : ¬ needle <+: c :: (front ++ d :: tail) := fun hall =>
          hhere (@isPrefix_of_isPrefix_append_cons needle (c :: front) tail d hd hall)
        rw [occurrences, if_neg hhere, Nat.zero_add] at h
        obtain ⟨before, rest, hcut⟩ := ih h
        refine ⟨c :: before, rest, ?_⟩
        rw [List.cons_append, cutAt_cons, if_neg hnot, hcut]
        rfl

/-! ## Texts in parts -/

theorem infix_append_cons {d : Char} (hd : d ∉ needle) (hne : needle ≠ [])
    {front tail : List Char} :
    needle <:+: front ++ d :: tail ↔ needle <:+: front ∨ needle <:+: tail := by
  have hcount := occurrences_append_cons hd hne front tail
  rw [← not_iff_not, not_or, ← occurrences_eq_zero_iff hne, ← occurrences_eq_zero_iff hne,
    ← occurrences_eq_zero_iff hne, hcount, Nat.add_eq_zero_iff]

theorem not_infix_of_not_mem {c : Char} (hc : c ∈ needle) {cs : List Char} (h : c ∉ cs) :
    ¬ needle <:+: cs := fun hoccurs => h (hoccurs.subset hc)

/-- A needle without a line break occurs in one of the lines. -/
theorem infix_lines {d : Char} (hd : d ∉ needle) (hne : needle ≠ [])
    {lines : List (List Char)} :
    needle <:+: List.intercalate [d] lines ↔ ∃ line ∈ lines, needle <:+: line := by
  induction lines with
  | nil => exact iff_of_false (fun h => hne (List.infix_nil.mp h)) fun ⟨_, h, _⟩ => nomatch h
  | cons line lines ih =>
      cases lines with
      | nil => simp [List.intercalate]
      | cons next lines =>
          have hjoin : List.intercalate [d] (line :: next :: lines) =
              line ++ d :: List.intercalate [d] (next :: lines) := by
            simp [List.intercalate]
          rw [hjoin, infix_append_cons hd hne, ih]
          exact (List.exists_mem_cons_iff _ _ _).symm

end Needle

end CameraStack.Lib
