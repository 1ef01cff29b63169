/-
# What the journal keeps

However validations are interleaved, whatever fails and whenever the process goes down, a
revision that is gone had `MAX_REVISIONS` newer ones.  When nothing failed and no call is
between its write and its end, the journal holds exactly the newest revisions of all it
has ever held.
-/

import CameraStack.Lib.Retain
import CameraStack.Runtime.PruneRuns

namespace CameraStack.Runtime.Pruning

open CameraStack.Lib

/-! ## The revisions ever held -/

/-- The revisions of the journal. -/
def revisions (journal : Journal) : Finset String := (listRevisions journal).toFinset

variable {C : Type} [DecidableEq C] {rid : String} {s : Store C}

/-- The revisions that were in the journal at some moment of the run. -/
def everHeld (rid : String) : Store C → List (Event C) → Finset String
  | s, [] => revisions s.journal
  | s, e :: events => revisions s.journal ∪ everHeld rid ((machine C rid).next s e) events

/-- Of these revisions, those that are newer than this one. -/
def newerOf (held : Finset String) (id : String) : Finset String := above (· < ·) held id

theorem card_newerOf_mono {held more : Finset String} (h : held ⊆ more) (id : String) :
    (newerOf held id).card ≤ (newerOf more id).card :=
  Finset.card_le_card (above_mono h id)

theorem mem_revisions {journal : Journal} {id : String} :
    id ∈ revisions journal ↔ id ∈ listRevisions journal := List.mem_toFinset

theorem nodup_listRevisions (journal : Journal) : (listRevisions journal).Nodup := by
  apply (listRevisions_sorted journal).imp
  rintro id _ h rfl
  exact String.lt_irrefl id h

theorem card_revisions (journal : Journal) :
    (revisions journal).card = (listRevisions journal).length :=
  List.toFinset_card_of_nodup (nodup_listRevisions journal)

theorem newer_eq (journal : Journal) (id : String) :
    newer journal id = (newerOf (revisions journal) id).card := by
  have hset : newerOf (revisions journal) id =
      ((listRevisions journal).filter (id < ·)).toFinset := by
    ext other
    rw [newerOf, mem_above, mem_revisions, List.mem_toFinset, List.mem_filter, decide_eq_true_iff]
  rw [hset, List.toFinset_card_of_nodup ((nodup_listRevisions journal).filter _), newer]

/-! ## Steps -/

/-- A call is still to remove this revision. -/
def Doomed (s : Store C) (id : String) : Prop := ∃ c ids, s.calls c = .pruning ids ∧ id ∈ ids

theorem setCall_pruning {c c' : C} {call : Call} {ids : List String}
    (h : (s.setCall c call).calls c' = .pruning ids) :
    c' = c ∧ call = .pruning ids ∨ c' ≠ c ∧ s.calls c' = .pruning ids := by
  rw [setCall_calls] at h
  split at h
  · next heq => exact .inl ⟨heq, h⟩
  · next hne => exact .inr ⟨hne, h⟩

theorem mem_revisions_of_mem {journal journal' : Journal} {id : String}
    (h : id ∈ journal → id ∈ journal') (hid : id ∈ revisions journal) :
    id ∈ revisions journal' := by
  rw [mem_revisions, mem_listRevisions] at hid ⊢
  exact ⟨h hid.1, hid.2⟩

variable (rid) in
/-- A step takes a revision away only where a call was to remove it. -/
theorem revisions_next (s : Store C) (e : Event C) {id : String}
    (hid : id ∈ revisions s.journal) :
    id ∈ revisions ((machine C rid).next s e).journal ∨ Doomed s id := by
  show id ∈ revisions (step rid s e).1.journal ∨ Doomed s id
  have hinsert : ∀ other entry, id ∈ revisions (s.journal.insert other entry) := by
    intro other entry
    apply mem_revisions_of_mem _ hid
    intro hmem
    exact (Dict.mem_insert _ _ _ _).mpr (.inr hmem)
  cases e with
  | unlink c fails =>
      rw [step]
      split
      · next gone rest hc =>
          split
          · exact .inl hid
          · by_cases hgone : gone = id
            · exact .inr ⟨c, gone :: rest, hc, by simp [hgone]⟩
            · apply Or.inl
              apply mem_revisions_of_mem _ hid
              intro hmem
              rw [Std.ExtTreeMap.mem_erase]
              exact ⟨by simpa using hgone, hmem⟩
      · exact .inl hid
  | store c =>
      rw [step]
      split
      · exact .inl (hinsert _ _)
      · exact .inl hid
  | replace =>
      rw [step]
      split
      · exact .inl (hinsert _ _)
      · exact .inl hid
  | recover host file other =>
      rw [step]
      split
      · split
        · exact .inl (hinsert _ _)
        · exact .inl hid
      · exact .inl hid
  | look =>
      rw [step]
      split
      · split <;> exact .inl hid
      all_goals exact .inl hid
  | name c now diffHash r | list c | reread | choose status | read =>
      rw [step]
      split <;> exact .inl hid
  | stop =>
      rw [step]
      dsimp only
      split <;> exact .inl hid
  | drop c | crash => exact .inl hid

/-- What a call is to remove it was to remove before, or it has just listed it. -/
theorem doomed_next (s : Store C) (e : Event C) {id : String}
    (h : Doomed ((machine C rid).next s e) id) :
    Doomed s id ∨ id ∈ oldest (listRevisions s.journal) := by
  change Doomed (step rid s e).1 id at h
  have hother : ∀ c call, (∀ ids, call = .pruning ids → id ∈ ids → Doomed s id ∨
      id ∈ oldest (listRevisions s.journal)) → Doomed (s.setCall c call) id →
      Doomed s id ∨ id ∈ oldest (listRevisions s.journal) := by
    rintro c call hcall ⟨c', ids, hc', hid⟩
    obtain ⟨-, heq⟩ | ⟨-, hold⟩ := setCall_pruning hc'
    · exact hcall ids heq hid
    · exact .inl ⟨c', ids, hold, hid⟩
  cases e with
  | unlink c fails =>
      rw [step] at h
      split at h
      · next gone rest hc =>
          have hrest : ∀ ids, Call.pruning rest = .pruning ids → id ∈ ids → Doomed s id ∨
              id ∈ oldest (listRevisions s.journal) := by
            rintro ids ⟨⟩ hid
            exact .inl ⟨c, _, hc, List.mem_cons_of_mem gone hid⟩
          split at h
          · exact hother c _ hrest h
          · exact hother c _ hrest h
      · exact .inl h
  | list c =>
      rw [step] at h
      split at h
      · apply hother c _ _ h
        rintro ids ⟨⟩ hid
        exact .inr hid
      · exact .inl h
  | name c now diffHash r =>
      rw [step] at h
      split at h
      · apply hother c _ _ h
        rintro ids ⟨⟩
      · exact .inl h
  | store c =>
      rw [step] at h
      split at h
      · apply hother c _ _ h
        rintro ids ⟨⟩
      · exact .inl h
  | drop c =>
      apply hother c _ _ h
      rintro ids ⟨⟩
  | crash =>
      obtain ⟨c, ids, hc, -⟩ := h
      cases hc
  | look =>
      rw [step] at h
      split at h
      · split at h <;> exact .inl h
      all_goals exact .inl h
  | replace | reread | choose status | read =>
      rw [step] at h
      split at h <;> exact .inl h
  | stop =>
      rw [step] at h
      dsimp only at h
      split at h <;> exact .inl h
  | recover host file other =>
      rw [step] at h
      split at h
      · split at h <;> exact .inl h
      · exact .inl h

/-! ## Every run -/

/-- What is gone, or is to be removed, has `MAX_REVISIONS` newer ones. -/
structure Retained (past : Finset String) (s : Store C) : Prop where
  within : revisions s.journal ⊆ past
  gone : ∀ id ∈ past, id ∉ revisions s.journal → maxRevisions ≤ (newerOf past id).card
  doomed : ∀ id, Doomed s id → maxRevisions ≤ (newerOf past id).card

variable (rid) in
theorem Retained.next {past : Finset String} (h : Retained past s) (e : Event C) :
    Retained (past ∪ revisions ((machine C rid).next s e).journal)
      ((machine C rid).next s e) where
  within := Finset.subset_union_right
  gone id hid hout := by
    have hmore := card_newerOf_mono
      (Finset.subset_union_left : past ⊆ past ∪ revisions ((machine C rid).next s e).journal) id
    have hold : id ∈ past := (Finset.mem_union.mp hid).resolve_right hout
    apply le_trans _ hmore
    by_cases hin : id ∈ revisions s.journal
    · obtain hstill | hdoomed := revisions_next rid s e hin
      · exact absurd hstill hout
      · exact h.doomed id hdoomed
    · exact h.gone id hold hin
  doomed id hid := by
    have hmore := card_newerOf_mono
      (Finset.subset_union_left : past ⊆ past ∪ revisions ((machine C rid).next s e).journal) id
    apply le_trans _ hmore
    obtain hold | hlisted := doomed_next s e hid
    · exact h.doomed id hold
    · apply (mem_oldest.mp hlisted).2.trans
      rw [newer_eq]
      exact card_newerOf_mono h.within id

variable (rid) in
theorem Retained.run {past : Finset String} (h : Retained past s) (events : List (Event C)) :
    Retained (past ∪ everHeld rid s events) ((machine C rid).run s events) := by
  induction events generalizing past s with
  | nil =>
      rw [everHeld, Finset.union_eq_left.mpr h.within]
      exact h
  | cons e events ih =>
      have hnext := ih (h.next rid e)
      have hin : revisions ((machine C rid).next s e).journal ⊆
          everHeld rid ((machine C rid).next s e) events := by
        cases events with
        | nil => exact Finset.Subset.refl _
        | cons e' events => exact Finset.subset_union_left
      rw [Finset.union_assoc, Finset.union_eq_right.mpr hin] at hnext
      rw [everHeld, ← Finset.union_assoc, Finset.union_eq_left.mpr h.within]
      exact hnext

theorem revisions_subset_everHeld (s : Store C) (events : List (Event C)) :
    revisions s.journal ⊆ everHeld rid s events := by
  cases events with
  | nil => exact Finset.Subset.refl _
  | cons e events => exact Finset.subset_union_left

variable (rid) in
theorem retained_run (hidle : ∀ c, s.calls c = .idle) (events : List (Event C)) :
    Retained (everHeld rid s events) ((machine C rid).run s events) := by
  have hfirst : Retained (revisions s.journal) s := by
    constructor
    · exact Finset.Subset.refl _
    · intro id hid hout
      exact absurd hid hout
    · rintro id ⟨c, ids, hc, -⟩
      rw [hidle c] at hc
      cases hc
  have hrun := hfirst.run rid events
  rwa [Finset.union_eq_right.mpr (revisions_subset_everHeld s events)] at hrun

/-- Whatever happens, a revision is gone only when `MAX_REVISIONS` newer ones were held. -/
theorem gone_has_newer (hidle : ∀ c, s.calls c = .idle) (events : List (Event C)) {id : String}
    (hid : id ∈ everHeld rid s events)
    (hgone : id ∉ listRevisions ((machine C rid).run s events).journal) :
    maxRevisions ≤ (newerOf (everHeld rid s events) id).card :=
  (retained_run rid hidle events).gone id hid (fun h => hgone (mem_revisions.mp h))

/-! ## Runs without failures -/

/-- The call has written its revision, and has files to remove, or is still to list them. -/
def Call.due : Call → Bool
  | .stored => true
  | .pruning ids => !ids.isEmpty
  | _ => false

/-- Nothing fails: no file is left that was to be removed, no call goes away before its end,
and `set_status` puts back no record that is gone. -/
def Smooth (rid : String) (s : Store C) : Event C → Prop
  | .unlink _ fails => fails = false
  | .drop c => (s.calls c).due = false
  | .crash => ∀ c, (s.calls c).due = false
  | .replace => rid ∈ s.journal
  | _ => True

/-- A listing is still to come, or what is too old is on some list. -/
def Bounded (s : Store C) : Prop :=
  (∃ c, s.calls c = .stored) ∨ ∀ id ∈ oldest (listRevisions s.journal), Doomed s id

/-- Where the journal has no more revisions than before, nothing more is too old. -/
theorem oldest_of_subset {journal journal' : Journal} (h : ∀ id, id ∈ journal' → id ∈ journal)
    {id : String} (hid : id ∈ oldest (listRevisions journal')) :
    id ∈ oldest (listRevisions journal) := by
  rw [mem_oldest, newer_eq] at hid ⊢
  have hsub : revisions journal' ⊆ revisions journal := by
    intro other hother
    exact mem_revisions_of_mem (h other) hother
  refine ⟨mem_revisions.mp (hsub (mem_revisions.mpr hid.1)), hid.2.trans ?_⟩
  exact card_newerOf_mono hsub id

omit [DecidableEq C] in
/-- A step that leaves the calls and brings no revision. -/
theorem Bounded.of_calls {s' : Store C} (h : Bounded s) (hcalls : s'.calls = s.calls)
    (hkeys : ∀ id, id ∈ s'.journal → id ∈ s.journal) : Bounded s' := by
  rw [Bounded, hcalls]
  apply h.imp_right
  intro hlisted id hid
  obtain ⟨c, ids, hc, hmem⟩ := hlisted id (oldest_of_subset hkeys hid)
  exact ⟨c, ids, by rw [hcalls]; exact hc, hmem⟩

/-- A call that has nothing left to do moves. -/
theorem Bounded.setCall (h : Bounded s) {c : C} (call : Call) (hc : (s.calls c).due = false) :
    Bounded (s.setCall c call) := by
  have hother : ∀ c', (s.calls c').due = true → (s.setCall c call).calls c' = s.calls c' := by
    intro c' hc'
    rw [setCall_calls, if_neg]
    rintro rfl
    rw [hc] at hc'
    cases hc'
  obtain ⟨c', hc'⟩ | hlisted := h
  · exact .inl ⟨c', by rw [hother c' (by rw [hc']; rfl), hc']⟩
  · apply Or.inr
    intro id hid
    obtain ⟨c', ids, hc', hmem⟩ := hlisted id hid
    have hdue : (s.calls c').due = true := by
      rw [hc', Call.due, Bool.not_eq_true', List.isEmpty_eq_false_iff]
      exact List.ne_nil_of_mem hmem
    exact ⟨c', ids, by rw [hother c' hdue, hc'], hmem⟩

theorem Bounded.unlink (h : Bounded s) {c : C} {gone : String} {rest : List String}
    (hc : s.calls c = .pruning (gone :: rest)) :
    Bounded { s.setCall c (.pruning rest) with journal := s.journal.erase gone } := by
  obtain ⟨c', hc'⟩ | hlisted := h
  · apply Or.inl
    refine ⟨c', ?_⟩
    dsimp only
    rw [setCall_calls, if_neg]
    · exact hc'
    · rintro rfl
      rw [hc] at hc'
      cases hc'
  · apply Or.inr
    intro id hid
    have hne : gone ≠ id := by
      have hmem := (mem_listRevisions.mp (mem_oldest.mp hid).1).1
      simpa using (Std.ExtTreeMap.mem_erase.mp hmem).1
    obtain ⟨c', ids, hc', hmem⟩ := hlisted id
      (oldest_of_subset (fun _ => Std.ExtTreeMap.mem_of_mem_erase) hid)
    by_cases heq : c' = c
    · subst heq
      rw [hc] at hc'
      cases hc'
      refine ⟨c', rest, ?_, (List.mem_cons.mp hmem).resolve_left (Ne.symm hne)⟩
      dsimp only
      rw [setCall_calls, if_pos rfl]
    · refine ⟨c', ids, ?_, hmem⟩
      dsimp only
      rw [setCall_calls, if_neg heq, hc']

theorem Bounded.next (h : Bounded s) {e : Event C} (hsmooth : Smooth rid s e) :
    Bounded ((machine C rid).next s e) := by
  show Bounded (step rid s e).1
  have hinsert : ∀ {id : String} {entry : Entry}, id ∈ s.journal →
      ∀ other, other ∈ s.journal.insert id entry → other ∈ s.journal := by
    intro id entry hmem other hother
    obtain rfl | hold := (Dict.mem_insert _ _ _ _).mp hother
    · exact hmem
    · exact hold
  cases e with
  | name c now diffHash r =>
      rw [step]
      split
      · next hc =>
          have hmoved := h.setCall
            (.named (nameOf now diffHash) { r with status := .validated }) (by rw [hc]; rfl)
          exact hmoved.of_calls rfl (fun _ => id)
      · exact h
  | store c =>
      rw [step]
      split
      · apply Or.inl
        refine ⟨c, ?_⟩
        dsimp only
        rw [setCall_calls, if_pos rfl]
      · exact h
  | list c =>
      rw [step]
      split
      · apply Or.inr
        intro id hid
        refine ⟨c, _, ?_, hid⟩
        dsimp only
        rw [setCall_calls, if_pos rfl]
        rfl
      · exact h
  | unlink c fails =>
      rw [step]
      split
      · next hc =>
          rw [if_neg (by rw [show fails = false from hsmooth]; exact Bool.false_ne_true)]
          exact h.unlink hc
      · exact h
  | drop c => exact h.setCall .idle hsmooth
  | crash =>
      obtain ⟨c, hc⟩ | hlisted := h
      · have hdue : (s.calls c).due = false := hsmooth c
        rw [hc] at hdue
        cases hdue
      · apply Or.inr
        intro id hid
        obtain ⟨c, ids, hc, hmem⟩ := hlisted id hid
        have hdue : (s.calls c).due = false := hsmooth c
        rw [hc, Call.due, Bool.not_eq_false', List.isEmpty_iff] at hdue
        rw [hdue] at hmem
        cases hmem
  | replace =>
      rw [step]
      split
      · exact h.of_calls rfl (hinsert hsmooth)
      · exact h
  | recover host file other =>
      rw [step]
      split
      · next hr =>
          split
          · exact h.of_calls rfl (hinsert (Dict.mem_of_getElem? hr))
          · exact h
      · exact h
  | look =>
      rw [step]
      split
      · split <;> exact h.of_calls rfl (fun _ => id)
      · exact h.of_calls rfl (fun _ => id)
      · exact h
  | reread | choose status | read =>
      rw [step]
      split <;> exact h.of_calls rfl (fun _ => id)
  | stop =>
      rw [step]
      dsimp only
      split <;> exact h.of_calls rfl (fun _ => id)

omit [DecidableEq C] in
/-- When no call has anything left to do, the journal is within its bound. -/
theorem Bounded.card_le (h : Bounded s) (hsettled : ∀ c, (s.calls c).due = false) :
    (revisions s.journal).card ≤ maxRevisions := by
  have hnone : oldest (listRevisions s.journal) = [] := by
    rw [List.eq_nil_iff_forall_not_mem]
    intro id hid
    obtain ⟨c, hc⟩ | hlisted := h
    · have hdue := hsettled c
      rw [hc] at hdue
      cases hdue
    · obtain ⟨c, ids, hc, hmem⟩ := hlisted id hid
      have hdue := hsettled c
      rw [hc, Call.due, Bool.not_eq_false', List.isEmpty_iff] at hdue
      rw [hdue] at hmem
      cases hmem
  have hlength := congrArg List.length hnone
  rw [oldest, List.length_take, List.length_nil] at hlength
  rw [card_revisions]
  omega

/-- Whatever the order of steps: when nothing failed and no call has anything left to do, the
journal holds the newest revisions of all it has ever held, and no others. -/
theorem journal_holds_newest (hidle : ∀ c, s.calls c = .idle)
    (hfew : (listRevisions s.journal).length ≤ maxRevisions) (events : List (Event C))
    (hsmooth : (machine C rid).Along (Smooth rid) s events)
    (hsettled : ∀ c, (((machine C rid).run s events).calls c).due = false) (id : String) :
    id ∈ listRevisions ((machine C rid).run s events).journal ↔
      id ∈ everHeld rid s events ∧ (newerOf (everHeld rid s events) id).card < maxRevisions := by
  have hfirst : Bounded s := by
    apply Or.inr
    intro id hid
    rw [oldest, Nat.sub_eq_zero_of_le hfew] at hid
    cases hid
  have hbounded : Bounded ((machine C rid).run s events) :=
    (machine C rid).run_invariant (fun _ _ h hsmooth => h.next hsmooth) hsmooth hfirst
  have hretained := retained_run rid hidle events
  have hexact : id ∈ everHeld rid s events →
      (id ∈ revisions ((machine C rid).run s events).journal ↔
      (newerOf (everHeld rid s events) id).card < maxRevisions) :=
    mem_iff_card_above_lt (hbounded.card_le hsettled) hretained.gone
  rw [← mem_revisions]
  constructor
  · intro hmem
    have hheld := hretained.within hmem
    exact ⟨hheld, (hexact hheld).mp hmem⟩
  · rintro ⟨hheld, hfew⟩
    exact (hexact hheld).mpr hfew

/-! ### Two runs -/

theorem journal_holds_newest_sample :
    sampleName ∈ everHeld sampleName sampleStore (sampleEvents ++ [.unlink () false]) ∧
      (newerOf (everHeld sampleName sampleStore (sampleEvents ++ [.unlink () false]))
        sampleName).card < maxRevisions := by
  refine (journal_holds_newest ?_ ?_ (sampleEvents ++ [.unlink () false]) ?_ ?_ sampleName).mp ?_
  · intro c
    rfl
  · decide +kernel
  · refine ⟨trivial, trivial, trivial, trivial, trivial, trivial, ?_, trivial, rfl, trivial⟩
    change sampleName ∈ Store.journal _
    decide +kernel
  · rintro ⟨⟩
    decide +kernel
  · decide +kernel

/-- One revision a year. -/
def sampleYear (i : Fin 50) : String := String.ofList ("rev-19".toList ++ padded 2 i)

/-- A journal that is full. -/
def sampleFull : Store Unit :=
  { sampleStore with
    journal := (List.finRange 50).foldl (fun journal i => journal.insert (sampleYear i)
      (.record { fileHashesBefore := [], diffHash := none, validatedPatch := [] })) ∅ }

theorem gone_has_newer_sample :
    maxRevisions ≤ (newerOf (everHeld sampleName sampleFull
      [.name () (sampleTime 2027 0 (by decide) (by decide)) "0123456789abcdef".toList
        { fileHashesBefore := [], diffHash := none, validatedPatch := [] },
        .store (), .list (), .unlink () false]) (sampleYear 0)).card := by
  apply gone_has_newer
  · intro c
    rfl
  · apply revisions_subset_everHeld
    rw [mem_revisions]
    decide +kernel
  · decide +kernel

end CameraStack.Runtime.Pruning
