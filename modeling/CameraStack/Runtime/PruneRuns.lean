/-
# Pruning while an apply is under way

Validations come in at any time, each on a thread of its own: a call names its revision,
writes it, lists the journal, and removes the oldest files one by one.  An apply takes one
revision through its statuses; to set a status it finds the file, reads it and replaces it.

Pruning knows nothing of the apply.  A revision in flight stays as long as, at every listing
made meanwhile, it has fewer than `MAX_REVISIONS` newer ones, and no listing made before
the apply has already given it up.
-/

import CameraStack.Lib.Machine
import CameraStack.Runtime.Pruning
import CameraStack.Runtime.Recovery
import Mathlib.Logic.Function.Basic

namespace CameraStack.Runtime.Pruning

open CameraStack.Lib

/-! ## The parties -/

/-- Where a call of `persist_validated` stands. -/
inductive Call
  | idle
  /-- It has named its revision. -/
  | named (rid : String) (r : Revision)
  /-- It has written its revision. -/
  | stored
  /-- It has listed the journal, and is still to remove these. -/
  | pruning (rids : List String)

/-- Where the apply stands. -/
inductive Stage
  | ready
  /-- The record was found, and the lock is held. -/
  | looked
  /-- The record was read under the lock. -/
  | judging
  /-- `set_status` is called. -/
  | setting (status : Status)
  /-- `set_status` has read the record. -/
  | storing (status : Status) (r : Revision)
  /-- `set_status` has returned. -/
  | returned (status : Status)
  | finished

/-- An apply that has begun does not outlive the process. -/
def Stage.crashed : Stage → Stage
  | .ready => .ready
  | _ => .finished

/-- The apply has begun, and has not ended. -/
def Stage.underway : Stage → Bool
  | .ready | .finished => false
  | _ => true

/-- The statuses an apply sets, one after another; a restore that fails is noticed also
where the status `rolled_back` cannot be set. -/
def Stage.leadsTo : Stage → Status → Bool
  | .judging, .applied | .judging, .applying => true
  | .returned .applying, .validated | .returned .applying, .applied
  | .returned .applying, .rollingBack => true
  | .returned .rollingBack, .rolledBack | .returned .rollingBack, .rollbackFailed => true
  | .setting .rolledBack, .rollbackFailed | .storing .rolledBack _, .rollbackFailed => true
  | _, _ => false

/-- The journal, the clock, the calls, and the apply with the status it has set last. -/
structure Store (C : Type) where
  journal : Journal
  clock : UtcTime
  calls : C → Call
  stage : Stage
  marked : Option Status

/-- What happens: a call goes on, fails or is gone, the apply goes on or stops, the process
goes down, or a revision is reconciled on boot. -/
inductive Event (C : Type)
  | name (c : C) (now : UtcTime) (diffHash : Text) (r : Revision)
  | store (c : C)
  | list (c : C)
  | unlink (c : C) (fails : Bool)
  | drop (c : C)
  | look
  | reread
  | choose (status : Status)
  | read
  | replace
  | stop
  | crash
  | recover (host : Host) (file : Option EnvFile) (rid : String)

/-- What is seen of it: a file is removed, or `set_status` knows no such revision. -/
inductive Report
  | removed (rid : String) (entry : Entry)
  | unknown

section Step

variable {C : Type} [DecidableEq C] (rid : String)

/-- Nobody is in the way of the code of a call. -/
def Store.setCall (s : Store C) (c : C) (call : Call) : Store C :=
  { s with calls := Function.update s.calls c call }

/-- One step; `rid` is the revision that is applied. -/
def step (s : Store C) : Event C → Store C × List Report
  | .name c now diffHash r =>
      match s.calls c with
      | .idle =>
          ({ s.setCall c (.named (nameOf now diffHash) { r with status := .validated }) with
            clock := now }, [])
      | _ => (s, [])
  | .store c =>
      match s.calls c with
      | .named id r =>
          ({ s.setCall c .stored with journal := s.journal.insert id (.record r) }, [])
      | _ => (s, [])
  | .list c =>
      match s.calls c with
      | .stored => (s.setCall c (.pruning (oldest (listRevisions s.journal))), [])
      | _ => (s, [])
  | .unlink c fails =>
      match s.calls c with
      | .pruning (id :: rest) =>
          if fails then (s.setCall c (.pruning rest), [])
          else
            ({ s.setCall c (.pruning rest) with journal := s.journal.erase id },
              (s.journal[id]?.map (Report.removed id)).toList)
      | _ => (s, [])
  | .drop c => (s.setCall c .idle, [])
  | .look =>
      match s.stage, s.journal[rid]? with
      | .ready, some (.record _) =>
          if validId rid then ({ s with stage := .looked, marked := none }, [])
          else ({ s with stage := .finished }, [])
      | .ready, _ => ({ s with stage := .finished }, [])
      | _, _ => (s, [])
  | .reread =>
      match s.stage, s.journal[rid]? with
      | .looked, some (.record _) => ({ s with stage := .judging }, [])
      | .looked, _ => ({ s with stage := .finished }, [])
      | _, _ => (s, [])
  | .choose status =>
      if s.stage.leadsTo status then ({ s with stage := .setting status }, []) else (s, [])
  | .read =>
      match s.stage, s.journal[rid]? with
      | .setting status, some (.record r) => ({ s with stage := .storing status r }, [])
      | .setting _, some .corrupt => ({ s with stage := .finished }, [])
      | .setting status, none => ({ s with stage := .returned status }, [.unknown])
      | _, _ => (s, [])
  | .replace =>
      match s.stage with
      | .storing status r =>
          ({ s with
            journal := s.journal.insert rid (.record { r with status := status })
            stage := .returned status
            marked := some status }, [])
      | _ => (s, [])
  | .stop => (if s.stage.underway then { s with stage := .finished } else s, [])
  | .crash =>
      ({ s with
        calls := fun _ => .idle
        stage := s.stage.crashed }, [])
  | .recover host file id =>
      match s.stage.underway, s.journal[id]? with
      | false, some (.record r) =>
          match reconciled host file r with
          | some status =>
              ({ s with journal := s.journal.insert id (.record { r with status := status }) }, [])
          | none => (s, [])
      | _, _ => (s, [])

/-- Calls and one apply, in any order of steps. -/
def machine (C : Type) [DecidableEq C] (rid : String) : Machine (Store C) (Event C) Report where
  step := step rid

end Step

/-! ## What must not be removed -/

/-- The revision shows that an apply is under way. -/
def InFlight (journal : Journal) (id : String) : Prop :=
  ∃ r, journal[id]? = some (.record r) ∧ r.status.inFlight = true

variable {C : Type} [DecidableEq C] {rid : String} {s : Store C}

/-- The revision is in flight, or the apply has begun with it. -/
def Engaged (rid : String) (s : Store C) (id : String) : Prop :=
  id = rid ∧ s.stage.underway = true ∨ InFlight s.journal id

/-- There is room: a listing is made while every revision in flight has fewer than
`MAX_REVISIONS` newer ones, and an apply begins when no listing has given its revision up.
The clock moves on from one name to the next. -/
def Roomy (rid : String) (s : Store C) : Event C → Prop
  | .name _ now _ _ => s.clock < now
  | .list _ => ∀ id, Engaged rid s id → newer s.journal id < maxRevisions
  | .look => ∀ c ids, s.calls c = .pruning ids → rid ∉ ids
  | _ => True

/-- No revision in flight is removed, and none is unknown. -/
def Report.Spares : Report → Prop
  | .removed _ (.record r) => r.status.inFlight = false
  | .removed _ .corrupt => True
  | .unknown => False

/-- No call is under way, the apply has not begun, and the revisions in the journal were
named before now. -/
structure Fresh (s : Store C) : Prop where
  idle : ∀ c, s.calls c = .idle
  ready : s.stage = .ready
  past : ∀ id ∈ s.journal, ∀ t diffHash, s.clock < t → id < nameOf t diffHash

/-- What holds along a run. -/
structure Kept (rid : String) (s : Store C) : Prop where
  past : ∀ id ∈ s.journal, ∀ t diffHash, s.clock < t → id < nameOf t diffHash
  draft : ∀ c id r, s.calls c = .named id r → id ∉ s.journal ∧ r.status = .validated ∧
    ∀ t diffHash, s.clock < t → id < nameOf t diffHash
  apart : ∀ c c' id r r', s.calls c = .named id r → s.calls c' = .named id r' → c = c'
  spared : ∀ c ids, s.calls c = .pruning ids → ∀ id, Engaged rid s id → id ∉ ids
  held : s.stage.underway = true → validId rid = true ∧
    ∃ r, s.journal[rid]? = some (.record r) ∧ ∀ status, s.marked = some status → r.status = status

/-! ## Steps -/

theorem inFlight_erase {journal : Journal} {gone id : String}
    (h : InFlight (journal.erase gone) id) : InFlight journal id := by
  obtain ⟨r, hr, hstatus⟩ := h
  rw [Dict.getElem?_erase] at hr
  split at hr
  · cases hr
  · exact ⟨r, hr, hstatus⟩

/-- A revision that is written is in flight only if it says so. -/
theorem inFlight_insert {journal : Journal} {written id : String} {r : Revision}
    (h : InFlight (journal.insert written (.record r)) id) :
    id = written ∧ r.status.inFlight = true ∨ InFlight journal id := by
  obtain ⟨r', hr, hstatus⟩ := h
  rw [Dict.getElem?_insert] at hr
  split at hr
  · next heq =>
      cases hr
      exact .inl ⟨heq.symm, hstatus⟩
  · exact .inr ⟨r', hr, hstatus⟩

@[simp] theorem setCall_journal (c : C) (call : Call) : (s.setCall c call).journal = s.journal :=
  rfl

@[simp] theorem setCall_clock (c : C) (call : Call) : (s.setCall c call).clock = s.clock := rfl

@[simp] theorem setCall_stage (c : C) (call : Call) : (s.setCall c call).stage = s.stage := rfl

@[simp] theorem setCall_marked (c : C) (call : Call) : (s.setCall c call).marked = s.marked := rfl

theorem setCall_calls (c c' : C) (call : Call) :
    (s.setCall c call).calls c' = if c' = c then call else s.calls c' :=
  Function.update_apply _ _ _ _

theorem prune_rest (c : C) (ids : List String) (s : Store C) (h : s.calls c = .pruning ids) :
    ((machine C rid).run s (List.replicate ids.length (.unlink c false))).journal =
      ids.foldl (fun journal id => journal.erase id) s.journal := by
  induction ids generalizing s with
  | nil => rfl
  | cons id ids ih =>
      have hstep : (machine C rid).next s (.unlink c false) =
          { s.setCall c (.pruning ids) with journal := s.journal.erase id } := by
        simp only [machine, Machine.next, step, h]
        rfl
      rw [List.length_cons, List.replicate_succ, Machine.run_cons, hstep, ih, List.foldl_cons]
      exact (setCall_calls c c _).trans (if_pos rfl)

/-- A call that nobody disturbs does what `_prune` does. -/
theorem prune_alone (c : C) (s : Store C) (h : s.calls c = .stored) :
    ((machine C rid).run s (.list c ::
      List.replicate (oldest (listRevisions s.journal)).length (.unlink c false))).journal =
        prune s.journal := by
  have hstep : (machine C rid).next s (.list c) =
      s.setCall c (.pruning (oldest (listRevisions s.journal))) := by
    simp only [machine, Machine.next, step, h]
  rw [Machine.run_cons, hstep, prune_rest]
  · rfl
  · exact (setCall_calls c c _).trans (if_pos rfl)

omit [DecidableEq C] in
/-- A step that takes no file away, engages no revision and moves no draft keeps all. -/
theorem Kept.of_apply {s' : Store C} (h : Kept rid s) (hcalls : s'.calls = s.calls)
    (hclock : s'.clock = s.clock) (hkeys : ∀ id, id ∈ s'.journal ↔ id ∈ s.journal)
    (hengaged : ∀ id, Engaged rid s' id → Engaged rid s id)
    (hheld : s'.stage.underway = true → validId rid = true ∧
      ∃ r, s'.journal[rid]? = some (.record r) ∧
        ∀ status, s'.marked = some status → r.status = status) : Kept rid s' where
  past id hid t diffHash ht := by
    rw [hclock] at ht
    exact h.past id ((hkeys id).mp hid) t diffHash ht
  draft c id r hc := by
    rw [hcalls] at hc
    obtain ⟨habsent, hstatus, hpast⟩ := h.draft c id r hc
    rw [hkeys, hclock]
    exact ⟨habsent, hstatus, hpast⟩
  apart c c' id r r' hc hc' := by
    rw [hcalls] at hc hc'
    exact h.apart c c' id r r' hc hc'
  spared c ids hc id hid := by
    rw [hcalls] at hc
    exact h.spared c ids hc id (hengaged id hid)
  held := hheld

/-- A call that moves on to something else than a draft or a list of files. -/
theorem Kept.setCall (h : Kept rid s) (c : C) {call : Call}
    (hdraft : ∀ id r, call ≠ .named id r)
    (hspared : ∀ ids, call = .pruning ids → ∀ id, Engaged rid s id → id ∉ ids) :
    Kept rid (s.setCall c call) where
  past := h.past
  draft c' id r hc' := by
    rw [setCall_calls] at hc'
    split at hc'
    · exact absurd hc' (hdraft id r)
    · exact h.draft c' id r hc'
  apart c₁ c₂ id r r' h₁ h₂ := by
    rw [setCall_calls] at h₁ h₂
    split at h₁
    · exact absurd h₁ (hdraft id r)
    · split at h₂
      · exact absurd h₂ (hdraft id r')
      · exact h.apart c₁ c₂ id r r' h₁ h₂
  spared c' ids hc' := by
    rw [setCall_calls] at hc'
    split at hc'
    · exact hspared ids hc'
    · exact h.spared c' ids hc'
  held := h.held

theorem Kept.name (h : Kept rid s) (c : C) {now : UtcTime} (hnow : s.clock < now)
    (diffHash : Text) {r : Revision} (hstatus : r.status = .validated) :
    Kept rid { s.setCall c (.named (nameOf now diffHash) r) with clock := now } where
  past id hid t diffHash' ht := h.past id hid t diffHash' (List.lt_trans hnow ht)
  draft c' id r' hc' := by
    dsimp only at hc' ⊢
    rw [setCall_calls] at hc'
    split at hc'
    · cases hc'
      refine ⟨?_, hstatus, fun t diffHash' ht => nameOf_lt ht _ _⟩
      intro hmem
      exact String.lt_irrefl _ (h.past _ hmem now diffHash hnow)
    · obtain ⟨habsent, hvalid, hpast⟩ := h.draft c' id r' hc'
      exact ⟨habsent, hvalid, fun t diffHash' ht => hpast t diffHash' (List.lt_trans hnow ht)⟩
  apart c₁ c₂ id r₁ r₂ h₁ h₂ := by
    have hnew : ∀ c' id r', s.calls c' = .named id r' → id ≠ nameOf now diffHash := by
      rintro c' id r' hc' rfl
      exact String.lt_irrefl _ ((h.draft c' _ r' hc').2.2 now diffHash hnow)
    dsimp only at h₁ h₂
    rw [setCall_calls] at h₁ h₂
    split at h₁
    · next hc₁ =>
        split at h₂
        · next hc₂ => rw [hc₁, hc₂]
        · cases h₁
          exact absurd rfl (hnew c₂ _ r₂ h₂)
    · split at h₂
      · cases h₂
        exact absurd rfl (hnew c₁ _ r₁ h₁)
      · exact h.apart c₁ c₂ id r₁ r₂ h₁ h₂
  spared c' ids hc' := by
    dsimp only at hc'
    rw [setCall_calls] at hc'
    split at hc'
    · cases hc'
    · exact h.spared c' ids hc'
  held := h.held

theorem Kept.store (h : Kept rid s) {c : C} {id : String} {r : Revision}
    (hc : s.calls c = .named id r) :
    Kept rid { s.setCall c .stored with journal := s.journal.insert id (.record r) } where
  past id' hid' t diffHash ht := by
    dsimp only at hid'
    rw [Dict.mem_insert] at hid'
    obtain rfl | hold := hid'
    · exact (h.draft c id r hc).2.2 t diffHash ht
    · exact h.past id' hold t diffHash ht
  draft c' id' r' hc' := by
    dsimp only at hc' ⊢
    rw [setCall_calls] at hc'
    split at hc'
    · cases hc'
    · next hne =>
        obtain ⟨habsent, hvalid, hpast⟩ := h.draft c' id' r' hc'
        refine ⟨?_, hvalid, hpast⟩
        rw [Dict.mem_insert]
        rintro (rfl | hmem)
        · exact hne (h.apart c' c id r' r hc' hc)
        · exact habsent hmem
  apart c₁ c₂ id' r₁ r₂ h₁ h₂ := by
    dsimp only at h₁ h₂
    rw [setCall_calls] at h₁ h₂
    split at h₁
    · cases h₁
    · split at h₂
      · cases h₂
      · exact h.apart c₁ c₂ id' r₁ r₂ h₁ h₂
  spared c' ids hc' id' hid' := by
    dsimp only at hc'
    rw [setCall_calls] at hc'
    split at hc'
    · cases hc'
    · apply h.spared c' ids hc' id'
      obtain hunderway | hflight := hid'
      · exact .inl hunderway
      · obtain ⟨-, hstatus⟩ | hold := inFlight_insert hflight
        · rw [(h.draft c id r hc).2.1] at hstatus
          cases hstatus
        · exact .inr hold
  held hunderway := by
    obtain ⟨hid, r', hr', hmarked⟩ := h.held hunderway
    refine ⟨hid, r', ?_, hmarked⟩
    dsimp only
    rw [Dict.getElem?_insert, if_neg]
    · exact hr'
    · rintro rfl
      exact (h.draft c id r hc).1 (Dict.mem_of_getElem? hr')

theorem Kept.unlink (h : Kept rid s) {c : C} {id : String} {rest : List String}
    (hc : s.calls c = .pruning (id :: rest)) :
    Kept rid { s.setCall c (.pruning rest) with journal := s.journal.erase id } where
  past id' hid' := by
    dsimp only at hid'
    exact h.past id' (Std.ExtTreeMap.mem_of_mem_erase hid')
  draft c' id' r' hc' := by
    dsimp only at hc' ⊢
    rw [setCall_calls] at hc'
    split at hc'
    · cases hc'
    · obtain ⟨habsent, hrest⟩ := h.draft c' id' r' hc'
      exact ⟨fun hmem => habsent (Std.ExtTreeMap.mem_of_mem_erase hmem), hrest⟩
  apart c₁ c₂ id' r₁ r₂ h₁ h₂ := by
    dsimp only at h₁ h₂
    rw [setCall_calls] at h₁ h₂
    split at h₁
    · cases h₁
    · split at h₂
      · cases h₂
      · exact h.apart c₁ c₂ id' r₁ r₂ h₁ h₂
  spared c' ids hc' id' hid' := by
    have hold : Engaged rid s id' := hid'.imp_right inFlight_erase
    dsimp only at hc'
    rw [setCall_calls] at hc'
    split at hc'
    · cases hc'
      exact fun hmem => h.spared c _ hc id' hold (List.mem_cons_of_mem id hmem)
    · exact h.spared c' ids hc' id' hold
  held hunderway := by
    obtain ⟨hid, r', hr', hmarked⟩ := h.held hunderway
    refine ⟨hid, r', ?_, hmarked⟩
    dsimp only
    rw [Dict.getElem?_erase, if_neg]
    · exact hr'
    · rintro rfl
      exact h.spared c _ hc id (.inl ⟨rfl, hunderway⟩) List.mem_cons_self

omit [DecidableEq C] in
/-- Steps that are not enabled, and steps of the apply that leave the journal. -/
theorem Kept.stage (h : Kept rid s) {stage : Stage}
    (hunderway : stage.underway = true → s.stage.underway = true) :
    Kept rid ({ s with stage := stage } : Store C) := by
  apply h.of_apply
  · rfl
  · rfl
  · exact fun _ => Iff.rfl
  · intro id hid
    exact hid.imp_left fun hrid => ⟨hrid.1, hunderway hrid.2⟩
  · intro hnew
    exact h.held (hunderway hnew)

omit [DecidableEq C] in
theorem Kept.crash (h : Kept rid s) :
    Kept rid ({ s with calls := fun _ => .idle, stage := s.stage.crashed } : Store C) where
  past := h.past
  draft c id r hc := by cases hc
  apart c c' id r r' hc hc' := by cases hc
  spared c ids hc := by cases hc
  held hunderway := by
    dsimp only at hunderway
    cases hs : s.stage with
    | ready => rw [hs] at hunderway; cases hunderway
    | _ => rw [hs] at hunderway; cases hunderway

omit [DecidableEq C] in
/-- The record of the applied revision is replaced. -/
theorem Kept.replace (h : Kept rid s) {status : Status} {r : Revision}
    (hstage : s.stage = .storing status r) :
    Kept rid ({ s with
      journal := s.journal.insert rid (.record { r with status := status })
      stage := .returned status
      marked := some status } : Store C) := by
  have hunderway : s.stage.underway = true := by rw [hstage]; rfl
  obtain ⟨hid, old, hold, -⟩ := h.held hunderway
  apply h.of_apply
  · rfl
  · rfl
  · intro id
    rw [Dict.mem_insert]
    constructor
    · rintro (rfl | hmem)
      · exact Dict.mem_of_getElem? hold
      · exact hmem
    · exact .inr
  · rintro id (⟨hrid, -⟩ | hflight)
    · exact .inl ⟨hrid, hunderway⟩
    · obtain ⟨hrid, -⟩ | hflight := inFlight_insert hflight
      · exact .inl ⟨hrid, hunderway⟩
      · exact .inr hflight
  · intro _
    refine ⟨hid, { r with status := status }, ?_, ?_⟩
    · dsimp only
      rw [Dict.getElem?_insert, if_pos rfl]
    · intro status' heq
      exact Option.some.inj heq

omit [DecidableEq C] in
/-- A revision is reconciled while no apply is under way. -/
theorem Kept.recover (h : Kept rid s) {id : String} {r : Revision} {host : Host}
    {file : Option EnvFile} {status : Status} (hover : s.stage.underway = false)
    (hr : s.journal[id]? = some (.record r)) (hstatus : reconciled host file r = some status) :
    Kept rid ({ s with
      journal := s.journal.insert id (.record { r with status := status }) } : Store C) := by
  apply h.of_apply
  · rfl
  · rfl
  · intro id'
    rw [Dict.mem_insert]
    constructor
    · rintro (rfl | hmem)
      · exact Dict.mem_of_getElem? hr
      · exact hmem
    · exact .inr
  · rintro id' (hunderway | hflight)
    · exact .inl hunderway
    · obtain ⟨-, hnew⟩ | hflight := inFlight_insert hflight
      · dsimp only at hnew
        rw [inFlight_reconciled hstatus] at hnew
        cases hnew
      · exact .inr hflight
  · intro hunderway
    rw [hover] at hunderway
    cases hunderway

omit [DecidableEq C] in
theorem Kept.look (h : Kept rid s) {r : Revision} (hr : s.journal[rid]? = some (.record r))
    (hid : validId rid = true) (hroomy : Roomy rid s .look) :
    Kept rid ({ s with stage := .looked, marked := none } : Store C) where
  past := h.past
  draft := h.draft
  apart := h.apart
  spared c ids hc id hengaged := by
    obtain ⟨rfl, -⟩ | hflight := hengaged
    · exact hroomy c ids hc
    · exact h.spared c ids hc id (.inr hflight)
  held _ := ⟨hid, r, hr, fun _ heq => by cases heq⟩

theorem underway_of_leadsTo {stage : Stage} {status : Status}
    (h : stage.leadsTo status = true) : stage.underway = true := by
  cases stage with
  | ready | finished => cases h
  | _ => rfl

/-- One step, where there is room. -/
theorem Kept.step (h : Kept rid s) {e : Event C} (hroomy : Roomy rid s e) :
    Kept rid (Pruning.step rid s e).1 := by
  cases e with
  | name c now diffHash r =>
      rw [Pruning.step]
      split
      · exact h.name c hroomy diffHash rfl
      · exact h
  | store c =>
      rw [Pruning.step]
      split
      · next id r hc => exact h.store hc
      · exact h
  | list c =>
      rw [Pruning.step]
      split
      · apply h.setCall c
        · intro id r heq
          cases heq
        · intro ids heq id hengaged hmem
          cases heq
          exact absurd (mem_oldest.mp hmem).2 (Nat.not_le.mpr (hroomy id hengaged))
      · exact h
  | unlink c fails =>
      rw [Pruning.step]
      split
      · next id rest hc =>
          split
          · apply h.setCall c
            · intro id r heq
              cases heq
            · intro ids heq id' hengaged hmem
              cases heq
              exact h.spared c _ hc id' hengaged (List.mem_cons_of_mem id hmem)
          · exact h.unlink hc
      · exact h
  | drop c =>
      apply h.setCall c
      · intro id r heq
        cases heq
      · intro ids heq
        cases heq
  | look =>
      rw [Pruning.step]
      split
      · next r _ hr =>
          split
          · next hid => exact h.look hr hid hroomy
          · exact h.stage fun heq => by cases heq
      · exact h.stage fun heq => by cases heq
      · exact h
  | reread =>
      rw [Pruning.step]
      split
      · next hs _ => exact h.stage fun _ => by rw [hs]; rfl
      · exact h.stage fun heq => by cases heq
      · exact h
  | choose status =>
      rw [Pruning.step]
      split
      · next hleads => exact h.stage fun _ => underway_of_leadsTo hleads
      · exact h
  | read =>
      rw [Pruning.step]
      split
      · next hs _ => exact h.stage fun _ => by rw [hs]; rfl
      · exact h.stage fun heq => by cases heq
      · next hs _ => exact h.stage fun _ => by rw [hs]; rfl
      · exact h
  | replace =>
      rw [Pruning.step]
      split
      · next hs => exact h.replace hs
      · exact h
  | stop =>
      rw [Pruning.step]
      dsimp only
      split
      · exact h.stage fun heq => by cases heq
      · exact h
  | crash => exact h.crash
  | recover host file id =>
      rw [Pruning.step]
      split
      · next hover hr =>
          split
          · next status hstatus => exact h.recover hover hr hstatus
          · exact h
      · exact h

/-- What a step lets be seen, where there is room. -/
theorem Kept.spares (h : Kept rid s) {e : Event C} :
    ∀ report ∈ (Pruning.step rid s e).2, report.Spares := by
  cases e with
  | unlink c fails =>
      rw [Pruning.step]
      split
      · next id rest hc =>
          split
          · simp
          · intro report hreport
            rw [Option.mem_toList, Option.map_eq_some_iff] at hreport
            obtain ⟨entry, hentry, rfl⟩ := hreport
            cases entry with
            | corrupt => trivial
            | record r =>
                by_contra hflight
                have hengaged : Engaged rid s id :=
                  .inr ⟨r, hentry, by simpa [Report.Spares] using hflight⟩
                exact h.spared c _ hc id hengaged List.mem_cons_self
      · simp
  | read =>
      rw [Pruning.step]
      split
      · simp
      · simp
      · next hs hnone =>
          obtain ⟨-, r, hr, -⟩ := h.held (by rw [hs]; rfl)
          rw [hnone] at hr
          cases hr
      · simp
  | look =>
      rw [Pruning.step]
      split
      · split
        · simp
        · simp
      · simp
      · simp
  | name c now diffHash r | store c | list c | reread | choose status | replace =>
      rw [Pruning.step]
      split <;> simp
  | recover host file id =>
      rw [Pruning.step]
      split
      · split
        · simp
        · simp
      · simp
  | drop c | stop | crash => simp [Pruning.step]

omit [DecidableEq C] in
theorem Fresh.kept (h : Fresh s) : Kept rid s where
  past := h.past
  draft c id r hc := by
    rw [h.idle c] at hc
    cases hc
  apart c c' id r r' hc := by
    rw [h.idle c] at hc
    cases hc
  spared c ids hc := by
    rw [h.idle c] at hc
    cases hc
  held hunderway := by
    rw [h.ready] at hunderway
    cases hunderway

/-! ## Runs -/

/-- Validations and one apply, in any order of steps: where there is room, no revision in
flight is removed and none is unknown, and while the apply is under way the journal lists
its revision, with the status that was set last. -/
theorem prune_spares_inFlight (hfresh : Fresh s) (events : List (Event C))
    (hroomy : (machine C rid).Along (Roomy rid) s events) :
    (∀ report ∈ (machine C rid).trace s events, report.Spares) ∧
      let after := (machine C rid).run s events
      after.stage.underway = true → rid ∈ listRevisions after.journal ∧
        ∃ r, after.journal[rid]? = some (.record r) ∧
          ∀ status, after.marked = some status → r.status = status := by
  have hstep : ∀ (s : Store C) e, Kept rid s → Roomy rid s e →
      Kept rid ((machine C rid).next s e) := fun _ _ h hroomy => h.step hroomy
  constructor
  · exact (machine C rid).trace_forall hstep (fun _ _ h _ => h.spares) hroomy hfresh.kept
  · intro after hunderway
    have hkept : Kept rid after := (machine C rid).run_invariant hstep hroomy hfresh.kept
    obtain ⟨hid, r, hr, hmarked⟩ := hkept.held hunderway
    refine ⟨mem_listRevisions.mpr ⟨Dict.mem_of_getElem? hr, ?_⟩, r, hr, hmarked⟩
    rw [validId, Bool.and_eq_true] at hid
    exact hid.2

/-! ### A run -/

/-- A new year. -/
def sampleTime (year microsecond : ℕ) (hyear : year < 10000)
    (hmicrosecond : microsecond < 1000000) : UtcTime where
  year := year
  month := 1
  day := 1
  hour := 0
  minute := 0
  second := 0
  microsecond := microsecond
  year_lt := hyear
  month_le := by decide
  day_le := by decide
  hour_lt := by decide
  minute_lt := by decide
  second_lt := by decide
  microsecond_lt := hmicrosecond

/-- An empty journal, before the new year. -/
def sampleStore : Store Unit where
  journal := ∅
  clock := sampleTime 2026 0 (by decide) (by decide)
  calls _ := .idle
  stage := .ready
  marked := none

/-- The revision that is named. -/
def sampleName : String :=
  nameOf (sampleTime 2027 0 (by decide) (by decide)) "0123456789abcdef".toList

/-- One revision is validated and taken to `applying`, and the journal is listed. -/
def sampleEvents : List (Event Unit) :=
  [.name () (sampleTime 2027 0 (by decide) (by decide)) "0123456789abcdef".toList
    { fileHashesBefore := [], diffHash := none, validatedPatch := [] },
    .store (), .look, .reread, .choose .applying, .read, .replace, .list ()]

theorem newer_le (journal : Journal) (id : String) :
    newer journal id ≤ (listRevisions journal).length :=
  List.length_filter_le _ _

theorem prune_spares_inFlight_sample :
    let after := (machine Unit sampleName).run sampleStore sampleEvents
    after.stage.underway = true ∧ after.marked = some .applying ∧
      sampleName ∈ listRevisions after.journal := by
  have hfresh : Fresh sampleStore := by
    constructor
    · intro c
      rfl
    · rfl
    · intro id hid
      exact absurd hid Std.ExtTreeMap.not_mem_empty
  have hroomy : (machine Unit sampleName).Along (Roomy sampleName) sampleStore sampleEvents := by
    refine ⟨?_, trivial, ?_, trivial, trivial, trivial, trivial, ?_, trivial⟩
    · change sampleStore.clock < sampleTime 2027 0 _ _
      decide +kernel
    · intro c ids hc
      cases hc
    · intro id _
      apply (newer_le _ id).trans_lt
      decide +kernel
  intro after
  have hunderway : after.stage.underway = true := by decide +kernel
  have hmarked : after.marked = some .applying := by decide +kernel
  exact ⟨hunderway, hmarked,
    ((prune_spares_inFlight hfresh sampleEvents hroomy).2 hunderway).1⟩

end CameraStack.Runtime.Pruning
