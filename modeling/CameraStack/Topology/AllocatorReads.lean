/-
# Reading the allocator's file

The reads of the allocator answer a file that is missing, unreadable or no JSON as if there were no
allocations, and so they answer a document without an object of allocations.  They were written to
never raise.  What is left to raise is what they do not look at: bytes that are no text, texts that
the decoder gives up on, and rows that are no allocations.
-/

import CameraStack.Lib.Utf8
import CameraStack.Runtime.Validator
import CameraStack.Topology.Allocator

namespace CameraStack.Topology.AllocatorReads

open CameraStack.Lib
open CameraStack.Runtime.Validator (truthy)

/-! ## The file -/

/-- The file, byte by byte. -/
inductive DiskFile
  | absent
  | unreadable (message : String)
  | bytes (content : List UInt8)
  deriving DecidableEq

/-- `f.read()` -/
def readText (content : List UInt8) : Except PyException Text :=
  match decodeUtf8 content with
  | none => .error .unicodeDecode
  | some text => .ok text

section Decoder

variable {F : Type} [FloatText F]

/-- `json.loads`, with the exceptions it raises. -/
def pyLoads (limit : ℕ) (text : Text) : Except PyException (JsonValue F) :=
  match jsonLoads limit text with
  | .ok value => .ok value
  | .error .decode => .error .jsonDecode
  | .error .tooLong => .error .value
  | .error .tooDeep => .error .recursion

/-- The document of the file, where there is one; a `JSONDecodeError` and an `OSError` are handled,
other exceptions are not. -/
def readState (limit : ℕ) : DiskFile → Except PyException (Option (JsonValue F))
  | .absent | .unreadable _ => .ok none
  | .bytes content =>
      match readText content >>= pyLoads limit with
      | .ok state => .ok (some state)
      | .error .jsonDecode => .ok none
      | .error e => .error e

end Decoder

/-! ## Rows -/

/-- Rows by their keys, as they are stored. -/
abbrev Rows (F : Type) := List (Text × JsonValue F)

section Reads

variable {F : Type} [FloatNumber F]

/-- `raw[key]` -/
def entry (key : String) : JsonValue F → Except PyException (JsonValue F)
  | .obj members =>
      match members.lookup key.toList with
      | some value => .ok value
      | none => .error .key
  | .null | .bool _ | .int _ | .float _ | .str _ | .arr _ => .error .type

/-- `raw.get("desired_active", False)` of an object. -/
def desiredActive : JsonValue F → JsonValue F
  | .obj members => (members.lookup "desired_active".toList).getD (.bool false)
  | _ => .bool false

/-- `Allocation.from_raw` -/
def fromRaw (raw : JsonValue F) : Except PyException Allocation := do
  let mpId ← entry "mp_id" raw >>= toInt
  let rtpPort ← entry "rtp_port" raw >>= toInt
  pure { mpId, rtpPort, desiredActive := truthy (desiredActive raw) }

/-- `_alloc_map` -/
def allocMap : Option (JsonValue F) → Rows F
  | some (.obj members) =>
      match members.lookup "allocations".toList with
      | some (.obj rows) => rows
      | _ => []
  | _ => []

/-- The allocations of rows, in their order. -/
def fromRows : Rows F → Except PyException (List (Text × Allocation))
  | [] => .ok []
  | (key, raw) :: rows => do
      let a ← fromRaw raw
      let others ← fromRows rows
      pure ((key, a) :: others)

variable (F)

/-- `list_allocations` -/
def listAllocations (limit : ℕ) (file : DiskFile) :
    Except PyException (List (Text × Allocation)) := do
  let state ← (readState limit file : Except PyException (Option (JsonValue F)))
  fromRows (allocMap state)

/-- `get_allocation`; an empty row counts as none. -/
def getAllocation (limit : ℕ) (file : DiskFile) (serial sensor : String) :
    Except PyException (Option Allocation) := do
  let state ← (readState limit file : Except PyException (Option (JsonValue F)))
  match (allocMap state).lookup (allocKey serial sensor).toList with
  | none => pure none
  | some raw => if truthy raw then some <$> fromRaw raw else pure none

/-- `list_desired_active` -/
def listDesiredActive (limit : ℕ) (file : DiskFile) :
    Except PyException (List (Text × Allocation)) := do
  let allocations ← listAllocations F limit file
  pure (allocations.filter fun item => item.2.desiredActive)

/-! ## The probe -/

/-- What the probe finds out about a file. -/
inductive AllocatorState
  | ok
  | missing
  /-- With the message of the `JSONDecodeError` left out. -/
  | notJson
  /-- `"allocations is not an object"` -/
  | notObject
  | ioError (detail : String)
  deriving DecidableEq

/-- `"corrupt"` -/
def AllocatorState.isCorrupt : AllocatorState → Bool
  | .notJson | .notObject => true
  | .ok | .missing | .ioError _ => false

/-- `isinstance(state.get("allocations", {}), dict)`, of a dictionary. -/
def hasAllocations (members : Rows F) : Bool :=
  match members.lookup "allocations".toList with
  | none | some (.obj _) => true
  | some _ => false

/-- `_classify_allocator_state` -/
def classify (limit : ℕ) : DiskFile → Except PyException AllocatorState
  | .absent => .ok .missing
  | .unreadable message => .ok (.ioError (message.take 200).toString)
  | .bytes content =>
      match readText content with
      | .error e => .error e
      | .ok text =>
          if stripChars text = [] then .ok .ok
          else
            match (pyLoads limit (stripChars text) : Except PyException (JsonValue F)) with
            | .error .jsonDecode => .ok .notJson
            | .error e => .error e
            | .ok (.obj members) => .ok (if hasAllocations F members then .ok else .notObject)
            | .ok _ => .ok .notObject

/-- `allocator_corruption_status`: the state, and the last of the copies by name. -/
def corruptionStatus (limit : ℕ) (file : DiskFile) (copies : List String) :
    Except PyException (AllocatorState × Option String) := do
  let state ← classify F limit file
  pure (state, (copies.insertionSort fun a b => a ≤ b).getLast?)

end Reads

/-! ## When the reads return -/

section Total

variable {F : Type} [FloatNumber F]

/-- `int` takes the value. -/
def Converts (value : Option (JsonValue F)) : Prop := ∃ v n, value = some v ∧ toInt v = .ok n

/-- A row is an object with two numbers, or texts of numbers. -/
def Convertible (raw : JsonValue F) : Prop :=
  ∃ members, raw = .obj members ∧ Converts (members.lookup "mp_id".toList) ∧
    Converts (members.lookup "rtp_port".toList)

/-- A row as the allocator writes it, or wrote it before there was a `desired_active`. -/
def WellFormedRow (raw : JsonValue F) : Prop :=
  ∃ members mpId rtpPort, raw = .obj members ∧
    members.lookup "mp_id".toList = some (.int mpId) ∧
    members.lookup "rtp_port".toList = some (.int rtpPort) ∧
    (members.lookup "desired_active".toList = none ∨
      ∃ b, members.lookup "desired_active".toList = some (.bool b))

/-- The allocation of a well-formed row whose `desired_active` is true. -/
def wantedRow : Text × JsonValue F → Option (Text × Allocation)
  | (key, .obj members) =>
      match members.lookup "mp_id".toList, members.lookup "rtp_port".toList,
          members.lookup "desired_active".toList with
      | some (.int mpId), some (.int rtpPort), some (.bool true) =>
          some (key, { mpId, rtpPort, desiredActive := true })
      | _, _, _ => none
  | _ => none

variable (F) in
/-- The reads return, and those of a file whose rows are well formed list the wanted rows. -/
structure ReadsTotal (limit : ℕ) (file : DiskFile) : Prop where
  lists : ∃ allocations, listAllocations F limit file = .ok allocations
  gets : ∀ serial sensor, ∃ a, getAllocation F limit file serial sensor = .ok a
  desired : ∃ allocations, listDesiredActive F limit file = .ok allocations
  status : ∀ copies, ∃ state, corruptionStatus F limit file copies = .ok state
  exact : ∀ state : Option (JsonValue F), readState limit file = .ok state →
    (∀ row ∈ allocMap state, WellFormedRow row.2) →
      listDesiredActive F limit file = .ok ((allocMap state).filterMap wantedRow)

variable (F) in
/-- The decoder answers with a value or a `JSONDecodeError`. -/
def Answered (limit : ℕ) (text : Text) : Prop :=
  ∀ e, (jsonLoads limit text : Except JsonError (JsonValue F)) = .error e → e = .decode

variable (F) in
/-- The bytes are a text that the decoder answers, also without the blanks around it, and each row
is convertible. -/
def Readable (limit : ℕ) : DiskFile → Prop
  | .absent | .unreadable _ => True
  | .bytes content =>
      ∃ text, decodeUtf8 content = some text ∧ Answered F limit text ∧
        Answered F limit (stripChars text) ∧
        ∀ value : JsonValue F, jsonLoads limit text = .ok value →
          ∀ row ∈ allocMap (some value), Convertible row.2

variable (F) in
/-- The bytes are a text that the decoder answers, and each row is convertible: `Readable` without
what the probe asks in addition. -/
def Listable (limit : ℕ) : DiskFile → Prop
  | .absent | .unreadable _ => True
  | .bytes content =>
      ∃ text, decodeUtf8 content = some text ∧ Answered F limit text ∧
        ∀ value : JsonValue F, jsonLoads limit text = .ok value →
          ∀ row ∈ allocMap (some value), Convertible row.2

theorem converts_iff {key : String} {members : List (Text × JsonValue F)} :
    Converts (members.lookup key.toList) ↔
      ∃ n, (entry key (.obj members) >>= toInt) = .ok n := by
  rw [entry, Converts]
  cases members.lookup key.toList with
  | none =>
      constructor
      · rintro ⟨v, n, h, -⟩
        cases h
      · rintro ⟨n, h⟩
        cases h
  | some value =>
      constructor
      · rintro ⟨v, n, heq, hn⟩
        cases heq
        exact ⟨n, hn⟩
      · rintro ⟨n, hn⟩
        exact ⟨value, n, rfl, hn⟩

/-- A row becomes an allocation exactly where it is convertible. -/
theorem fromRaw_eq_ok {raw : JsonValue F} : (∃ a, fromRaw raw = .ok a) ↔ Convertible raw := by
  cases raw with
  | null | bool | int | float | str | arr =>
      constructor
      · rintro ⟨a, h⟩
        cases h
      · rintro ⟨members, h, -⟩
        cases h
  | obj members =>
      have hrow : Convertible (.obj members) ↔ Converts (members.lookup "mp_id".toList) ∧
          Converts (members.lookup "rtp_port".toList) := by
        constructor
        · rintro ⟨found, heq, h⟩
          cases heq
          exact h
        · exact fun h => ⟨members, rfl, h⟩
      rw [hrow, converts_iff, converts_iff, fromRaw]
      cases entry "mp_id" (.obj members) >>= toInt with
      | error e =>
          constructor
          · rintro ⟨a, h⟩
            cases h
          · rintro ⟨⟨n, h⟩, -⟩
            cases h
      | ok mpId =>
          cases entry "rtp_port" (.obj members) >>= toInt with
          | error e =>
              constructor
              · rintro ⟨a, h⟩
                cases h
              · rintro ⟨-, n, h⟩
                cases h
          | ok rtpPort => exact ⟨fun _ => ⟨⟨mpId, rfl⟩, rtpPort, rfl⟩, fun _ => ⟨_, rfl⟩⟩

theorem fromRows_eq_ok {rows : Rows F} :
    (∃ allocations, fromRows rows = .ok allocations) ↔ ∀ row ∈ rows, Convertible row.2 := by
  induction rows with
  | nil => exact ⟨fun _ row hrow => absurd hrow List.not_mem_nil, fun _ => ⟨[], rfl⟩⟩
  | cons row rows ih =>
      obtain ⟨key, raw⟩ := row
      rw [List.forall_mem_cons, ← ih, ← fromRaw_eq_ok, fromRows]
      cases fromRaw raw with
      | error e =>
          constructor
          · rintro ⟨allocations, h⟩
            cases h
          · rintro ⟨⟨a, h⟩, -⟩
            cases h
      | ok a =>
          cases fromRows rows with
          | error e =>
              constructor
              · rintro ⟨allocations, h⟩
                cases h
              · rintro ⟨-, others, h⟩
                cases h
          | ok others => exact ⟨fun _ => ⟨⟨a, rfl⟩, others, rfl⟩, fun _ => ⟨_, rfl⟩⟩

theorem fromRaw_of_wellFormed (key : Text) {raw : JsonValue F} (h : WellFormedRow raw) :
    ∃ a, fromRaw raw = .ok a ∧
      wantedRow (key, raw) = if a.desiredActive then some (key, a) else none := by
  obtain ⟨members, mpId, rtpPort, rfl, hmp, hrtp, hdesired⟩ := h
  refine ⟨⟨mpId, rtpPort, truthy (desiredActive (.obj members))⟩, ?_, ?_⟩
  · rw [fromRaw, entry, entry, hmp, hrtp]
    rfl
  · rw [wantedRow, hmp, hrtp, desiredActive]
    rcases hdesired with hnone | ⟨b, hsome⟩
    · rw [hnone]
      rfl
    · rw [hsome]
      cases b with
      | false => rfl
      | true => rfl

/-- The allocations of well-formed rows that are wanted. -/
theorem filter_fromRows {rows : Rows F} (h : ∀ row ∈ rows, WellFormedRow row.2) :
    ∃ allocations, fromRows rows = .ok allocations ∧
      allocations.filter (fun item => item.2.desiredActive) = rows.filterMap wantedRow := by
  induction rows with
  | nil => exact ⟨[], rfl, rfl⟩
  | cons row rows ih =>
      obtain ⟨key, raw⟩ := row
      rw [List.forall_mem_cons] at h
      obtain ⟨others, hothers, hfilter⟩ := ih h.2
      obtain ⟨a, hraw, hwanted⟩ := fromRaw_of_wellFormed key h.1
      refine ⟨(key, a) :: others, ?_, ?_⟩
      · rw [fromRows, hraw, hothers]
        rfl
      · rw [List.filter_cons, List.filterMap_cons, hwanted, hfilter]
        cases a.desiredActive with
        | false => rfl
        | true => rfl

theorem jsonLoads_nil (limit : ℕ) :
    (jsonLoads limit [] : Except JsonError (JsonValue F)) = .error .decode := rfl

/-- Reading the state raises exactly where the bytes are no text, or one that is not answered. -/
theorem readState_eq_ok {limit : ℕ} {content : List UInt8} :
    (∃ state, readState limit (.bytes content) =
        (.ok state : Except PyException (Option (JsonValue F)))) ↔
      ∃ text, decodeUtf8 content = some text ∧ Answered F limit text := by
  rw [readState, readText]
  cases decodeUtf8 content with
  | none =>
      constructor
      · rintro ⟨state, h⟩
        cases h
      · rintro ⟨text, h, -⟩
        cases h
  | some text =>
      have hloads : (Except.ok text >>= pyLoads limit) =
          (pyLoads limit text : Except PyException (JsonValue F)) := rfl
      simp only [Option.some.injEq, exists_eq_left', hloads, pyLoads, Answered]
      cases (jsonLoads limit text : Except JsonError (JsonValue F)) with
      | ok value => exact ⟨fun _ e h => (by cases h), fun _ => ⟨some value, rfl⟩⟩
      | error e =>
          cases e with
          | decode => exact ⟨fun _ e h => (Except.error.inj h).symm, fun _ => ⟨none, rfl⟩⟩
          | tooDeep | tooLong =>
              constructor
              · rintro ⟨state, h⟩
                cases h
              · exact fun h => by cases h _ rfl

theorem classify_eq_ok {limit : ℕ} {content : List UInt8} {text : Text}
    (htext : decodeUtf8 content = some text) :
    (∃ state, classify F limit (.bytes content) = .ok state) ↔
      Answered F limit (stripChars text) := by
  rw [classify, readText, htext]
  dsimp only
  by_cases hblank : stripChars text = []
  · rw [if_pos hblank, hblank]
    refine ⟨fun _ e h => ?_, fun _ => ⟨_, rfl⟩⟩
    rw [jsonLoads_nil] at h
    exact (Except.error.inj h).symm
  · rw [if_neg hblank, pyLoads]
    simp only [Answered]
    cases (jsonLoads limit (stripChars text) : Except JsonError (JsonValue F)) with
    | ok value =>
        refine ⟨fun _ e h => (by cases h), fun _ => ?_⟩
        cases value with
        | obj members => exact ⟨_, rfl⟩
        | null | bool | int | float | str | arr => exact ⟨_, rfl⟩
    | error e =>
        cases e with
        | decode => exact ⟨fun _ e h => (Except.error.inj h).symm, fun _ => ⟨_, rfl⟩⟩
        | tooDeep | tooLong =>
            constructor
            · rintro ⟨state, h⟩
              cases h
            · exact fun h => by cases h _ rfl

/-- The state that is read from an answered text. -/
theorem readState_of_answered {limit : ℕ} {content : List UInt8} {text : Text}
    (htext : decodeUtf8 content = some text) (hanswered : Answered F limit text) :
    readState limit (.bytes content) =
      .ok ((jsonLoads limit text : Except JsonError (JsonValue F)).toOption) := by
  have hloads : (Except.ok text >>= pyLoads limit) =
      (pyLoads limit text : Except PyException (JsonValue F)) := rfl
  rw [readState, readText, htext]
  dsimp only
  rw [hloads, pyLoads]
  cases hresult : (jsonLoads limit text : Except JsonError (JsonValue F)) with
  | ok value => rfl
  | error e =>
      rw [hanswered e hresult]
      rfl

/-- The rows of a file whose state is read. -/
theorem listAllocations_of_state {limit : ℕ} {file : DiskFile} {state : Option (JsonValue F)}
    (h : readState limit file = .ok state) :
    listAllocations F limit file = fromRows (allocMap state) := by
  rw [listAllocations, h]
  rfl

theorem listable_iff {limit : ℕ} {file : DiskFile} :
    Listable F limit file ↔
      ∃ state : Option (JsonValue F), readState limit file = .ok state ∧
        ∀ row ∈ allocMap state, Convertible row.2 := by
  cases file with
  | absent | unreadable =>
      exact ⟨fun _ => ⟨none, rfl, fun row hrow => absurd hrow List.not_mem_nil⟩, fun _ => trivial⟩
  | bytes content =>
      constructor
      · rintro ⟨text, htext, hanswered, hrows⟩
        refine ⟨_, readState_of_answered htext hanswered, ?_⟩
        cases hloads : (jsonLoads limit text : Except JsonError (JsonValue F)) with
        | ok value => exact hrows value hloads
        | error e => exact fun row hrow => absurd hrow List.not_mem_nil
      · rintro ⟨state, hstate, hrows⟩
        obtain ⟨text, htext, hanswered⟩ := readState_eq_ok.mp ⟨state, hstate⟩
        refine ⟨text, htext, hanswered, ?_⟩
        intro value hloads
        rw [readState_of_answered htext hanswered, hloads] at hstate
        cases hstate
        exact hrows

/-- The allocations are listed exactly where the file is listable. -/
theorem listAllocations_eq_ok {limit : ℕ} {file : DiskFile} :
    (∃ allocations, listAllocations F limit file = .ok allocations) ↔ Listable F limit file := by
  rw [listable_iff]
  cases hstate : (readState limit file : Except PyException (Option (JsonValue F))) with
  | error e =>
      refine iff_of_false ?_ nofun
      rintro ⟨allocations, h⟩
      rw [listAllocations, hstate] at h
      cases h
  | ok state =>
      rw [listAllocations_of_state hstate, fromRows_eq_ok]
      exact ⟨fun h => ⟨state, rfl, h⟩, fun ⟨_, hsame, h⟩ => Except.ok.inj hsame ▸ h⟩

theorem readable_iff {limit : ℕ} {file : DiskFile} :
    Readable F limit file ↔
      (∃ state : Option (JsonValue F), readState limit file = .ok state ∧
        ∀ row ∈ allocMap state, Convertible row.2) ∧
      ∃ state, classify F limit file = .ok state := by
  rw [← listable_iff]
  cases file with
  | absent | unreadable => exact ⟨fun _ => ⟨trivial, _, rfl⟩, fun _ => trivial⟩
  | bytes content =>
      constructor
      · rintro ⟨text, htext, hanswered, hstripped, hrows⟩
        exact ⟨⟨text, htext, hanswered, hrows⟩, (classify_eq_ok htext).mpr hstripped⟩
      · rintro ⟨⟨text, htext, hanswered, hrows⟩, hclassified⟩
        exact ⟨text, htext, hanswered, (classify_eq_ok htext).mp hclassified, hrows⟩

/-- The reads return exactly on the files whose bytes are a text that the decoder answers and whose
rows are convertible. -/
theorem reads_total_iff (limit : ℕ) (file : DiskFile) :
    ReadsTotal F limit file ↔ Readable F limit file := by
  rw [readable_iff]
  constructor
  · intro h
    constructor
    · obtain ⟨allocations, hlists⟩ := h.lists
      cases hstate : (readState limit file : Except PyException (Option (JsonValue F))) with
      | error e =>
          rw [listAllocations, hstate] at hlists
          cases hlists
      | ok state =>
          rw [listAllocations_of_state hstate] at hlists
          exact ⟨state, rfl, fromRows_eq_ok.mp ⟨allocations, hlists⟩⟩
    · obtain ⟨status, hstatus⟩ := h.status []
      rw [corruptionStatus] at hstatus
      cases hclassified : classify F limit file with
      | error e =>
          rw [hclassified] at hstatus
          cases hstatus
      | ok state => exact ⟨state, rfl⟩
  · rintro ⟨⟨state, hstate, hrows⟩, found, hclassified⟩
    obtain ⟨allocations, hallocations⟩ := fromRows_eq_ok.mpr hrows
    have hlists := listAllocations_of_state hstate
    rw [hallocations] at hlists
    refine ⟨⟨_, hlists⟩, fun serial sensor => ?_, ?_, fun copies => ?_,
      fun other hother hwell => ?_⟩
    · rw [getAllocation, hstate]
      simp only [bind, Except.bind]
      cases hrow : (allocMap state).lookup (allocKey serial sensor).toList with
      | none => exact ⟨none, rfl⟩
      | some raw =>
          obtain ⟨before, behind, hsplit, -⟩ := List.lookup_eq_some_iff.mp hrow
          have hmem : ((allocKey serial sensor).toList, raw) ∈ allocMap state := by
            rw [hsplit]
            exact List.mem_append_right _ List.mem_cons_self
          obtain ⟨a, ha⟩ := fromRaw_eq_ok.mpr (hrows _ hmem)
          dsimp only
          split_ifs
          · rw [ha]
            exact ⟨some a, rfl⟩
          · exact ⟨none, rfl⟩
    · rw [listDesiredActive, hlists]
      exact ⟨_, rfl⟩
    · rw [corruptionStatus, hclassified]
      exact ⟨_, rfl⟩
    · rw [hstate] at hother
      cases hother
      obtain ⟨read, hread, hfilter⟩ := filter_fromRows hwell
      rw [listDesiredActive, listAllocations_of_state hstate, hread, ← hfilter]
      rfl

end Total

/-- A byte that starts no character makes every read raise. -/
theorem undecodable_raises : ¬ ReadsTotal WholeFloat 1000 (.bytes [0xff]) := by
  rw [reads_total_iff]
  rintro ⟨text, htext, -⟩
  have hnone : decodeUtf8 [0xff] = none := by decide +kernel
  rw [hnone] at htext
  cases htext

end CameraStack.Topology.AllocatorReads
