/-
# Pruning the journal

After each validation the journal is cut down to the newest revisions.  The newest are the
last ones by name, and a name begins with the time at which the revision was validated.

A revision stays as long as there are not too many newer ones; nothing else is looked at,
its status neither.
-/

import CameraStack.Lib.Stamp
import CameraStack.Runtime.RevisionRecord

namespace CameraStack.Runtime.Pruning

open CameraStack.Lib
open CameraStack.Runtime.RevisionRecord (revisionId)

/-! ## Sorted lists -/

section Sorted

variable {α : Type} [LT α] [DecidableLT α] [Std.Asymm (α := α) (· < ·)] {ids : List α} {id : α}
  {keep : ℕ}

/-- In a sorted list the items behind an item are those that are greater. -/
theorem filter_lt_of_sorted {front back : List α}
    (hsorted : (front ++ id :: back).Pairwise (· < ·)) :
    (front ++ id :: back).filter (id < ·) = back := by
  rw [List.pairwise_append, List.pairwise_cons] at hsorted
  obtain ⟨-, ⟨hback, -⟩, hfront⟩ := hsorted
  have hnone : front.filter (id < ·) = [] := by
    rw [List.filter_eq_nil_iff]
    intro a ha
    have hlt := hfront a ha id List.mem_cons_self
    simpa using Std.Asymm.asymm a id hlt
  have hall : back.filter (id < ·) = back := by
    rw [List.filter_eq_self]
    intro b hb
    simpa using hback b hb
  have hself : ¬ decide (id < id) = true := by
    simpa using fun h : id < id => Std.Asymm.asymm id id h h
  rw [List.filter_append, hnone, List.nil_append, List.filter_cons, if_neg hself, hall]

/-- All but the last items are those with enough greater ones. -/
theorem mem_take_iff_of_sorted (hsorted : ids.Pairwise (· < ·)) :
    id ∈ ids.take (ids.length - keep) ↔
      id ∈ ids ∧ keep ≤ (ids.filter (id < ·)).length := by
  constructor
  · intro hmem
    have hid := List.mem_of_mem_take hmem
    obtain ⟨front, back, rfl⟩ := List.append_of_mem hid
    refine ⟨hid, ?_⟩
    rw [filter_lt_of_sorted hsorted]
    by_contra hfew
    have hbound : (front ++ id :: back).length - keep ≤ front.length := by
      rw [List.length_append, List.length_cons]
      omega
    have hfront : id ∈ front := by
      rw [List.take_append_of_le_length hbound] at hmem
      exact List.mem_of_mem_take hmem
    have hlt := (List.pairwise_append.mp hsorted).2.2 id hfront id List.mem_cons_self
    exact Std.Asymm.asymm id id hlt hlt
  · rintro ⟨hid, hmany⟩
    obtain ⟨front, back, rfl⟩ := List.append_of_mem hid
    rw [filter_lt_of_sorted hsorted] at hmany
    have hbound : front.length + 1 ≤ (front ++ id :: back).length - keep := by
      rw [List.length_append, List.length_cons]
      omega
    have hfirst : front ++ [id] <+: (front ++ id :: back).take
        ((front ++ id :: back).length - keep) := by
      rw [List.prefix_take_iff]
      refine ⟨⟨back, by simp⟩, ?_⟩
      simpa using hbound
    exact hfirst.subset (by simp)

end Sorted

/-! ## Names -/

/-- A moment in UTC, as `datetime.now` gives it. -/
structure UtcTime where
  year : ℕ
  month : ℕ
  day : ℕ
  hour : ℕ
  minute : ℕ
  second : ℕ
  microsecond : ℕ
  year_lt : year < 10000
  month_le : month ≤ 12
  day_le : day ≤ 31
  hour_lt : hour < 24
  minute_lt : minute < 60
  second_lt : second < 60
  microsecond_lt : microsecond < 1000000

/-- The fields, the coarse ones first. -/
def UtcTime.fields (t : UtcTime) : List ℕ :=
  [t.year, t.month, t.day, t.hour, t.minute, t.second, t.microsecond]

/-- Earlier moments come first. -/
instance : LT UtcTime := ⟨fun t t' => t.fields < t'.fields⟩

instance (t t' : UtcTime) : Decidable (t < t') :=
  inferInstanceAs (Decidable (t.fields < t'.fields))

/-- `%Y%m%dT%H%M%S%fZ`. -/
def stampFormat : List (ℕ × Text) :=
  [(4, []), (2, []), (2, ['T']), (2, []), (2, []), (2, []), (6, ['Z'])]

/-- `strftime` with that format. -/
def UtcTime.stamp (t : UtcTime) : Text := paddedFields stampFormat t.fields

/-- The name of a revision validated then. -/
def nameOf (t : UtcTime) (diffHash : Text) : String :=
  String.ofList (revisionId t.stamp diffHash)

theorem stamp_lt {t t' : UtcTime} (h : t < t') : t.stamp < t'.stamp := by
  apply paddedFields_lt h rfl
  have hyear := t'.year_lt
  have hmonth := t'.month_le
  have hday := t'.day_le
  have hhour := t'.hour_lt
  have hminute := t'.minute_lt
  have hsecond := t'.second_lt
  have hmicrosecond := t'.microsecond_lt
  simp only [Fits, stampFormat, UtcTime.fields, List.forall₂_cons, List.forall₂_nil_left_iff]
  refine ⟨?_, ?_, ?_, ?_, ?_, ?_, ?_, trivial⟩
  all_goals omega

/-- Names are in the order of time. -/
theorem nameOf_lt {t t' : UtcTime} (h : t < t') (diffHash diffHash' : Text) :
    nameOf t diffHash < nameOf t' diffHash' := by
  rw [nameOf, nameOf, String.lt_iff, String.toList_ofList, String.toList_ofList,
    revisionId, revisionId, List.append_assoc, List.append_assoc]
  apply lt_of_append_left
  exact append_lt_append (stamp_lt h) (length_paddedFields rfl) _ _

/-! ## Pruning -/

/-- `MAX_REVISIONS`. -/
def maxRevisions : ℕ := 50

/-- `ids[:-MAX_REVISIONS] if len(ids) > MAX_REVISIONS else []`. -/
def oldest (ids : List String) : List String := ids.take (ids.length - maxRevisions)

/-- `_prune`. -/
def prune (journal : Journal) : Journal :=
  (oldest (listRevisions journal)).foldl (fun journal rid => journal.erase rid) journal

/-- How many revisions of the journal are newer than this one. -/
def newer (journal : Journal) (rid : String) : ℕ :=
  ((listRevisions journal).filter (rid < ·)).length

variable {journal : Journal} {rid : String}

theorem listRevisions_sorted (journal : Journal) :
    (listRevisions journal).Pairwise (· < ·) := by
  have hkeys : journal.keys.Pairwise (· < ·) := by
    apply (Std.ExtTreeMap.ordered_keys (t := journal)).imp
    intro a b hab
    exact compareOfLessAndEq_eq_lt.mp hab
  exact hkeys.filter _

theorem mem_listRevisions :
    rid ∈ listRevisions journal ↔ rid ∈ journal ∧ "rev-".toList.isPrefixOf rid.toList = true := by
  rw [listRevisions, List.mem_filter, Std.ExtTreeMap.mem_keys]

/-- What is removed: the revisions with too many newer ones. -/
theorem mem_oldest : rid ∈ oldest (listRevisions journal) ↔
    rid ∈ listRevisions journal ∧ maxRevisions ≤ newer journal rid :=
  mem_take_iff_of_sorted (listRevisions_sorted journal)

end CameraStack.Runtime.Pruning
