/-
# The probe of the allocator's file beside its writer

The probe says of the file whether it is corrupt, and a mutation decides on its own whether it
starts over.  Both were written to take a missing or an empty file for a cold start.  The writer
looks for the object of allocations in the state that it starts with, though, and quarantines every
file that does not have one.
-/

import CameraStack.Lib.JsonBlanks
import CameraStack.Topology.AllocatorFile
import CameraStack.Topology.AllocatorReads

namespace CameraStack.Topology.AllocatorReads

open CameraStack.Lib

/-! ## The writer -/

/-- `type(value).__name__` -/
def typeName {F : Type} : Option (JsonValue F) → String
  | none | some .null => "NoneType"
  | some (.bool _) => "bool"
  | some (.int _) => "int"
  | some (.float _) => "float"
  | some (.str _) => "str"
  | some (.arr _) => "list"
  | some (.obj _) => "dict"

/-- Why a file is quarantined. -/
inductive QuarantineReason
  /-- `"invalid JSON: …"` -/
  | notJson
  /-- `"top-level is …, not an object"` -/
  | topLevelIs (name : String)
  /-- `"allocations is …"` -/
  | allocationsIs (name : String)
  deriving DecidableEq

/-- What a mutation starts with: the state, its rows, and the calls of the quarantine so far. -/
structure WriterState (F : Type) where
  state : Rows F
  rows : Rows F
  quarantined : List QuarantineReason

/-- What loading for a write raises. -/
inductive LoadRaised
  | allocationError (message : String)
  | python (e : PyException)
  deriving DecidableEq

section Writer

variable {F : Type}

/-- `state.setdefault("version", 1)` -/
def setVersion (members : Rows F) : Rows F :=
  if (members.lookup "version".toList).isSome then members
  else members ++ [("version".toList, .int 1)]

/-- The end of `_load_state_for_write`. -/
def withAllocations (members : Rows F) (quarantined : List QuarantineReason) : WriterState F :=
  let state := setVersion members
  match state.lookup "allocations".toList with
  | some (.obj rows) => { state, rows, quarantined }
  | other =>
      { state := dictSet "allocations".toList (.obj []) state
        rows := []
        quarantined := quarantined ++ [.allocationsIs (typeName other)] }

theorem lookup_setVersion (members : Rows F) :
    (setVersion members).lookup "allocations".toList =
      members.lookup "allocations".toList := by
  rw [setVersion]
  split_ifs
  · rfl
  · rw [List.lookup_append]
    exact Option.or_none

/-- A state that has no object of allocations is quarantined, and starts over. -/
theorem withAllocations_fresh (quarantined : List QuarantineReason) :
    (withAllocations ([] : Rows F) quarantined).quarantined ≠ [] ∧
      (withAllocations ([] : Rows F) quarantined).rows = [] :=
  ⟨List.append_ne_nil_of_right_ne_nil _ (List.cons_ne_nil _ _), rfl⟩

theorem withAllocations_obj {members rows : Rows F}
    (h : members.lookup "allocations".toList = some (.obj rows)) :
    (withAllocations members []).quarantined = [] ∧ (withAllocations members []).rows = rows := by
  rw [withAllocations, lookup_setVersion, h]
  exact ⟨rfl, rfl⟩

theorem withAllocations_other {members : Rows F}
    (h : ∀ rows, members.lookup "allocations".toList ≠ some (.obj rows)) :
    (withAllocations members []).quarantined ≠ [] ∧ (withAllocations members []).rows = [] := by
  rw [withAllocations, lookup_setVersion]
  split
  · next rows hrows => exact absurd hrows (h rows)
  · exact ⟨List.cons_ne_nil _ _, rfl⟩

variable [FloatNumber F]

variable (F) in
/-- `_load_state_for_write` -/
def loadStateForWrite (limit : ℕ) : DiskFile → Except LoadRaised (WriterState F)
  | .absent => .ok (withAllocations [] [])
  | .unreadable message => .error (.allocationError message)
  | .bytes content =>
      match readText content with
      | .error e => .error (.python e)
      | .ok text =>
          if stripChars text = [] then .ok (withAllocations [] [])
          else
            match (pyLoads limit (stripChars text) : Except PyException (JsonValue F)) with
            | .error .jsonDecode => .ok (withAllocations [] [.notJson])
            | .error e => .error (.python e)
            | .ok (.obj members) => .ok (withAllocations members [])
            | .ok root => .ok (withAllocations [] [.topLevelIs (typeName (some root))])

/-! ## Agreement -/

variable (F) in
/-- What the mutation loads, unless it returns before it opens the file. -/
def mutationLoad (limit : ℕ) (file : DiskFile) (op : AllocatorOp) :
    Option (Except LoadRaised (WriterState F)) :=
  if op.upFront then none else some (loadStateForWrite F limit file)

variable (F) in
/-- The mutation calls the quarantine and starts over. -/
def Discards (limit : ℕ) (file : DiskFile) (op : AllocatorOp) : Prop :=
  ∃ w, mutationLoad F limit file op = some (.ok w) ∧ w.quarantined ≠ [] ∧ w.rows = []

variable (F) in
/-- The probe agrees with the next mutation, whichever that is, if it opens the file. -/
structure ProbeAgrees (limit : ℕ) (file : DiskFile) : Prop where
  corrupt_iff : ∀ op : AllocatorOp, op.upFront = false →
    ((∃ state, classify F limit file = .ok state ∧ state.isCorrupt = true) ↔
      Discards F limit file op)
  starts : ∀ op : AllocatorOp, op.upFront = false →
    classify F limit file = .ok .ok ∨ classify F limit file = .ok .missing →
      ∃ w entries, mutationLoad F limit file op = some (.ok w) ∧ w.quarantined = [] ∧
        listAllocations F limit file = .ok entries ∧ fromRows w.rows = .ok entries

variable (F) in
/-- The file is there and holds more than blanks, and a document in it that is an object has
allocations: no object, or one whose rows are convertible, with only blanks of JSON around the
document if there are rows. -/
def Agreeing (limit : ℕ) : DiskFile → Prop
  | .absent => False
  | .unreadable _ => True
  | .bytes content => ∀ text, decodeUtf8 content = some text →
      stripChars text ≠ [] ∧ ∀ members : Rows F,
        jsonLoads limit (stripChars text) = .ok (.obj members) →
          match members.lookup "allocations".toList with
          | none => False
          | some (.obj rows) =>
              (∀ row ∈ rows, Convertible row.2) ∧ (rows = [] ∨ JsonBlanks text)
          | some _ => True

theorem mutationLoad_open {limit : ℕ} {file : DiskFile} {op : AllocatorOp}
    (hopens : op.upFront = false) :
    mutationLoad F limit file op = some (loadStateForWrite F limit file) := by
  rw [mutationLoad, hopens]
  rfl

/-- A release, as a mutation that opens the file. -/
theorem exists_opening : ∃ op : AllocatorOp, op.upFront = false := ⟨.release "" "", rfl⟩

/-- The agreement in terms of what is loaded. -/
theorem probeAgrees_iff {limit : ℕ} {file : DiskFile} :
    ProbeAgrees F limit file ↔
      ((∃ state, classify F limit file = .ok state ∧ state.isCorrupt = true) ↔
        ∃ w, loadStateForWrite F limit file = .ok w ∧ w.quarantined ≠ [] ∧ w.rows = []) ∧
      (classify F limit file = .ok .ok ∨ classify F limit file = .ok .missing →
        ∃ w entries, loadStateForWrite F limit file = .ok w ∧ w.quarantined = [] ∧
          listAllocations F limit file = .ok entries ∧ fromRows w.rows = .ok entries) := by
  constructor
  · intro h
    obtain ⟨op, hopens⟩ := exists_opening
    have hcorrupt := h.corrupt_iff op hopens
    have hstarts := h.starts op hopens
    rw [Discards, mutationLoad_open hopens] at hcorrupt
    rw [mutationLoad_open hopens] at hstarts
    simp only [Option.some.injEq] at hcorrupt hstarts
    exact ⟨hcorrupt, hstarts⟩
  · rintro ⟨hcorrupt, hstarts⟩
    constructor
    · intro op hopens
      rw [Discards, mutationLoad_open hopens]
      simp only [Option.some.injEq]
      exact hcorrupt
    · intro op hopens
      rw [mutationLoad_open hopens]
      simp only [Option.some.injEq]
      exact hstarts

/-- A file that the writer discards and the probe takes for a cold start. -/
theorem not_probeAgrees {limit : ℕ} {file : DiskFile} {state : AllocatorState} {w : WriterState F}
    (hclassify : classify F limit file = .ok state) (hstate : state.isCorrupt = false)
    (hload : loadStateForWrite F limit file = .ok w)
    (hdiscarded : w.quarantined ≠ [] ∧ w.rows = []) : ¬ ProbeAgrees F limit file := by
  rw [probeAgrees_iff]
  rintro ⟨hcorrupt, -⟩
  obtain ⟨found, hfound, hiscorrupt⟩ := hcorrupt.mpr ⟨w, hload, hdiscarded⟩
  rw [hclassify] at hfound
  cases hfound
  rw [hstate] at hiscorrupt
  cases hiscorrupt

/-- A file that both take for corrupt. -/
theorem probeAgrees_corrupt {limit : ℕ} {file : DiskFile} {state : AllocatorState}
    {w : WriterState F} (hclassify : classify F limit file = .ok state)
    (hstate : state.isCorrupt = true) (hload : loadStateForWrite F limit file = .ok w)
    (hdiscarded : w.quarantined ≠ [] ∧ w.rows = []) : ProbeAgrees F limit file := by
  rw [probeAgrees_iff, hclassify, hload]
  refine ⟨iff_of_true ⟨state, rfl, hstate⟩ ⟨w, rfl, hdiscarded⟩, ?_⟩
  rintro (h | h)
  · cases h
    cases hstate
  · cases h
    cases hstate

/-- A file that neither answers. -/
theorem probeAgrees_unanswered {limit : ℕ} {file : DiskFile} {e : LoadRaised}
    (hclassify : ∀ state, classify F limit file = .ok state → ∃ detail, state = .ioError detail)
    (hload : loadStateForWrite F limit file = .error e) : ProbeAgrees F limit file := by
  rw [probeAgrees_iff, hload]
  constructor
  · refine iff_of_false ?_ ?_
    · rintro ⟨state, hstate, hcorrupt⟩
      obtain ⟨detail, rfl⟩ := hclassify state hstate
      cases hcorrupt
    · rintro ⟨w, h, -⟩
      cases h
  · rintro (h | h)
    · obtain ⟨detail, heq⟩ := hclassify _ h
      cases heq
    · obtain ⟨detail, heq⟩ := hclassify _ h
      cases heq

theorem fromRows_eq_nil {rows : Rows F} : fromRows rows = .ok [] ↔ rows = [] := by
  cases rows with
  | nil => exact iff_of_true rfl rfl
  | cons row rows =>
      obtain ⟨key, raw⟩ := row
      refine iff_of_false ?_ (List.cons_ne_nil _ _)
      rw [fromRows]
      cases fromRaw raw with
      | error e => exact fun h => by cases h
      | ok a =>
          cases fromRows rows with
          | error e => exact fun h => by cases h
          | ok others => exact fun h => by cases h

/-- What the reads list of a document with allocations: nothing, where there are other blanks around
it than those of JSON. -/
theorem listAllocations_of_rows {limit : ℕ} {content : List UInt8} {text : Text}
    {members rows : Rows F} (htext : decodeUtf8 content = some text)
    (hloads : jsonLoads limit (stripChars text) = .ok (.obj members))
    (hrows : members.lookup "allocations".toList = some (.obj rows)) :
    listAllocations F limit (.bytes content) =
      if JsonBlanks text then fromRows rows else .ok [] := by
  have hwhole := jsonLoads_of_stripChars hloads
  have hanswered : Answered F limit text := by
    intro e he
    rw [hwhole] at he
    split_ifs at he
    cases he
    rfl
  rw [listAllocations_of_state (readState_of_answered htext hanswered), hwhole]
  split_ifs
  · show fromRows (allocMap (some (.obj members))) = _
    rw [allocMap, hrows]
  · rfl

section Text

variable {limit : ℕ} {content : List UInt8} {text : Text}

theorem classify_text (htext : decodeUtf8 content = some text) (hne : stripChars text ≠ []) :
    classify F limit (.bytes content) =
      match (pyLoads limit (stripChars text) : Except PyException (JsonValue F)) with
      | .error .jsonDecode => .ok .notJson
      | .error e => .error e
      | .ok (.obj members) => .ok (if hasAllocations F members then .ok else .notObject)
      | .ok _ => .ok .notObject := by
  rw [classify, readText, htext]
  exact if_neg hne

theorem loadStateForWrite_text (htext : decodeUtf8 content = some text)
    (hne : stripChars text ≠ []) :
    loadStateForWrite F limit (.bytes content) =
      match (pyLoads limit (stripChars text) : Except PyException (JsonValue F)) with
      | .error .jsonDecode => .ok (withAllocations [] [.notJson])
      | .error e => .error (.python e)
      | .ok (.obj members) => .ok (withAllocations members [])
      | .ok root => .ok (withAllocations [] [.topLevelIs (typeName (some root))]) := by
  rw [loadStateForWrite, readText, htext]
  exact if_neg hne

/-- The probe and the writer on an object. -/
theorem probeAgrees_obj {members : Rows F} (htext : decodeUtf8 content = some text)
    (hne : stripChars text ≠ [])
    (hloads : jsonLoads limit (stripChars text) = .ok (.obj members)) :
    ProbeAgrees F limit (.bytes content) ↔
      match members.lookup "allocations".toList with
      | none => False
      | some (.obj rows) => (∀ row ∈ rows, Convertible row.2) ∧ (rows = [] ∨ JsonBlanks text)
      | some _ => True := by
  have hclassify : classify F limit (.bytes content) =
      .ok (if hasAllocations F members then .ok else .notObject) := by
    rw [classify_text htext hne, pyLoads, hloads]
  have hload : loadStateForWrite F limit (.bytes content) = .ok (withAllocations members []) := by
    rw [loadStateForWrite_text htext hne, pyLoads, hloads]
  cases hrows : members.lookup "allocations".toList with
  | none =>
      have hok : hasAllocations F members = true := by rw [hasAllocations, hrows]
      rw [hok, if_pos rfl] at hclassify
      refine iff_of_false (not_probeAgrees hclassify rfl hload ?_) id
      apply withAllocations_other
      rw [hrows]
      exact fun rows h => by cases h
  | some value =>
      cases value with
      | null | bool | int | float | str | arr =>
          have hbad : hasAllocations F members = false := by rw [hasAllocations, hrows]
          rw [hbad, if_neg Bool.false_ne_true] at hclassify
          refine iff_of_true (probeAgrees_corrupt hclassify rfl hload ?_) trivial
          apply withAllocations_other
          rw [hrows]
          exact fun rows h => by cases h
      | obj rows =>
          have hok : hasAllocations F members = true := by rw [hasAllocations, hrows]
          rw [hok, if_pos rfl] at hclassify
          obtain ⟨hquarantined, hsame⟩ := withAllocations_obj hrows
          have hlists := listAllocations_of_rows htext hloads hrows
          rw [probeAgrees_iff, hclassify, hload]
          constructor
          · rintro ⟨-, hstarts⟩
            obtain ⟨w, entries, hw, -, hlist, hread⟩ := hstarts (.inl rfl)
            cases hw
            rw [hsame] at hread
            refine ⟨fromRows_eq_ok.mp ⟨entries, hread⟩, ?_⟩
            rw [hlists] at hlist
            by_cases hblanks : JsonBlanks text
            · exact .inr hblanks
            · rw [if_neg hblanks] at hlist
              cases hlist
              exact .inl (fromRows_eq_nil.mp hread)
          · rintro ⟨hconvertible, hblanks⟩
            constructor
            · refine iff_of_false ?_ ?_
              · rintro ⟨state, hstate, hcorrupt⟩
                cases hstate
                cases hcorrupt
              · rintro ⟨w, hw, hbad, -⟩
                cases hw
                exact hbad hquarantined
            · intro _
              obtain ⟨entries, hread⟩ := fromRows_eq_ok.mpr hconvertible
              refine ⟨_, entries, rfl, hquarantined, ?_, hsame ▸ hread⟩
              rw [hlists]
              split_ifs with hjson
              · exact hread
              · rw [hblanks.resolve_right hjson] at hread
                exact hread

end Text

/-- The probe agrees with the next mutation exactly on the files that hold allocations, or are not
blank and corrupt. -/
theorem probe_agrees_iff (limit : ℕ) (file : DiskFile) :
    ProbeAgrees F limit file ↔ Agreeing F limit file := by
  cases file with
  | absent =>
      exact iff_of_false (not_probeAgrees rfl rfl rfl (withAllocations_fresh [])) id
  | unreadable message =>
      refine iff_of_true (probeAgrees_unanswered ?_ rfl) trivial
      intro state h
      cases h
      exact ⟨_, rfl⟩
  | bytes content =>
      cases htext : decodeUtf8 content with
      | none =>
          have hclassify : classify F limit (.bytes content) = .error .unicodeDecode := by
            rw [classify, readText, htext]
          have hload : loadStateForWrite F limit (.bytes content) =
              .error (.python .unicodeDecode) := by
            rw [loadStateForWrite, readText, htext]
          refine iff_of_true (probeAgrees_unanswered ?_ hload) ?_
          · rw [hclassify]
            exact fun state h => by cases h
          · intro text h
            rw [htext] at h
            cases h
      | some text =>
          have hagreeing : Agreeing F limit (.bytes content) ↔
              stripChars text ≠ [] ∧ ∀ members : Rows F,
                jsonLoads limit (stripChars text) = .ok (.obj members) →
                  match members.lookup "allocations".toList with
                  | none => False
                  | some (.obj rows) =>
                      (∀ row ∈ rows, Convertible row.2) ∧ (rows = [] ∨ JsonBlanks text)
                  | some _ => True := by
            rw [Agreeing, htext]
            exact ⟨fun h => h text rfl, fun h other heq => Option.some.inj heq ▸ h⟩
          rw [hagreeing]
          by_cases hne : stripChars text = []
          · have hclassify : classify F limit (.bytes content) = .ok .ok := by
              rw [classify, readText, htext]
              exact if_pos hne
            have hload : loadStateForWrite F limit (.bytes content) =
                .ok (withAllocations [] []) := by
              rw [loadStateForWrite, readText, htext]
              exact if_pos hne
            exact iff_of_false (not_probeAgrees hclassify rfl hload (withAllocations_fresh []))
              fun h => h.1 hne
          · rw [and_iff_right hne]
            have hclassify := @classify_text F _ limit _ _ htext hne
            have hload := @loadStateForWrite_text F _ limit _ _ htext hne
            rw [pyLoads] at hclassify hload
            cases hloads : (jsonLoads limit (stripChars text) :
                Except JsonError (JsonValue F)) with
            | error e =>
                rw [hloads] at hclassify hload
                refine iff_of_true ?_ fun members h => by cases h
                cases e with
                | decode => exact probeAgrees_corrupt hclassify rfl hload (withAllocations_fresh _)
                | tooDeep | tooLong =>
                    refine probeAgrees_unanswered ?_ hload
                    rw [hclassify]
                    exact fun state h => by cases h
            | ok root =>
                cases root with
                | obj members =>
                    rw [probeAgrees_obj htext hne hloads]
                    exact ⟨fun h other heq => by cases heq; exact h, fun h => h members rfl⟩
                | null | bool | int | float | str | arr =>
                    rw [hloads] at hclassify hload
                    refine iff_of_true ?_ fun members h => by cases h
                    exact probeAgrees_corrupt hclassify rfl hload (withAllocations_fresh _)

end Writer

/-- The probe takes an empty file for a cold start, and the next mutation quarantines it. -/
theorem empty_file_quarantined : ¬ ProbeAgrees WholeFloat 1000 (.bytes []) := by
  rw [probe_agrees_iff]
  exact fun h => (h [] (decodeUtf8_encodeUtf8 [])).1 rfl

end CameraStack.Topology.AllocatorReads
