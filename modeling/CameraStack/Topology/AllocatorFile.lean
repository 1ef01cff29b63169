/-
# The allocator's state file

The allocator keeps its rows in a JSON file of its own.  Unlike the topology it does not stop
at a file it cannot make sense of: a mutation copies the bad bytes aside, starts over with no
allocations and writes the result.  The helper that makes the copy was written for files that
stay in place, and copies at most once for the lifetime of a path.

The rows are modelled as they are stored.  Only the rows an operation looks at are read, so a
bad row makes some operations raise and not others.
-/

import CameraStack.Lib.PyNumber
import CameraStack.Topology.StateFile

namespace CameraStack.Topology

open CameraStack.Lib

/-! ## Stored rows -/

/-- What a mutation of the allocator raises. -/
inductive AllocatorRaised
  | cannotRead
  | unicodeDecode
  | jsonOther
  | row
  | operation (e : AllocatorError)
  | writeRaised
  deriving DecidableEq

/-- `int(row[key])`. -/
def intEntry (key : String) (row : PlainJson) : Except AllocatorRaised ℤ :=
  match (row.entry key).bind PlainJson.toInt with
  | some value => .ok value
  | none => .error .row

/-- `Allocation.from_raw`. -/
def Allocation.fromRaw (row : PlainJson) : Except AllocatorRaised Allocation := do
  let mpId ← intEntry "mp_id" row
  let rtpPort ← intEntry "rtp_port" row
  pure { mpId := mpId, rtpPort := rtpPort
         desiredActive := ((row.entry "desired_active").map PlainJson.truthy).getD false }

/-- `Allocation.to_dict`. -/
def Allocation.toDict (a : Allocation) : PlainJson :=
  .obj [("mp_id", .num a.mpId), ("rtp_port", .num a.rtpPort),
    ("desired_active", .bool a.desiredActive)]

namespace Members

/-- `del rows[key]`. -/
def delete (key : String) (m : Members) : Members := m.filter fun member => member.1 ≠ key

/-- The row an operation finds under a key; an empty one counts as missing. -/
def existing (key : String) (m : Members) : Option PlainJson :=
  (m.lookup key).filter PlainJson.truthy

/-- The body of `allocate`. -/
def allocate (serial sensor : String) (rows : Members) : Except AllocatorRaised Members :=
  match rows.existing (allocKey serial sensor) with
  | some row => do
      let _ ← Allocation.fromRaw row
      pure rows
  | none => do
      let usedMp ← rows.mapM fun row => intEntry "mp_id" row.2
      let usedPort ← rows.mapM fun row => intEntry "rtp_port" row.2
      match pickFree usedMp (usedPort.flatMap fun port => [port, port + 1]) with
      | .error e => .error (.operation e)
      | .ok (mpId, port) =>
          pure (rows.set (allocKey serial sensor)
            (Allocation.toDict { mpId := mpId, rtpPort := port }))

/-- The clobber guard of `ensure`, row after row. -/
def refuseClobber (mpId rtpPort : ℤ) (key : String) : Members → Except AllocatorRaised Unit
  | [] => pure ()
  | (otherKey, row) :: rows => do
      let otherMp ← intEntry "mp_id" row
      let otherPort ← intEntry "rtp_port" row
      match Allocator.clobbers mpId rtpPort key
          (otherKey, { mpId := otherMp, rtpPort := otherPort }) with
      | some e => .error (.operation e)
      | none => refuseClobber mpId rtpPort key rows

/-- The body of `ensure`. -/
def ensure (serial sensor : String) (mpId rtpPort : ℤ) (rows : Members) :
    Except AllocatorRaised Members :=
  match rows.existing (allocKey serial sensor) with
  | some row => do
      let _ ← Allocation.fromRaw row
      pure rows
  | none => do
      refuseClobber mpId rtpPort (allocKey serial sensor) rows
      pure (rows.set (allocKey serial sensor)
        (Allocation.toDict { mpId := mpId, rtpPort := rtpPort }))

/-- The body of `set_desired`. -/
def setDesired (serial sensor : String) (active : Bool) (rows : Members) :
    Except AllocatorRaised Members :=
  match rows.existing (allocKey serial sensor) with
  | none => .error (.operation (.noAllocation (allocKey serial sensor)))
  | some row => do
      let a ← Allocation.fromRaw row
      pure (rows.set (allocKey serial sensor) (Allocation.toDict { a with desiredActive := active }))

/-- The body of `release`. -/
def release (serial sensor : String) (rows : Members) : Members :=
  rows.delete (allocKey serial sensor)

/-- The body of `migrate_color_key`. -/
def migrateColorKey (serial : String) (rows : Members) : Members :=
  match rows.lookup (allocKey localSerial "color"), rows.lookup (allocKey serial "color") with
  | some row, none =>
      (rows.delete (allocKey localSerial "color")).set (allocKey serial "color") row
  | _, _ => rows

theorem lookup_map_replace (key other : String) (value : PlainJson) (m : Members) :
    (m.map fun member => if member.1 = key then (key, value) else member).lookup other =
      if other = key then (m.lookup key).map fun _ => value else m.lookup other := by
  induction m with
  | nil => simp
  | cons member m ih =>
      obtain ⟨name, old⟩ := member
      by_cases hname : name = key
      · by_cases hother : other = key
        · simp [hname, hother]
        · have hbeq : (other == key) = false := by simpa using hother
          simp [List.lookup_cons, hname, hother, hbeq, ih]
      · have hbeq : (key == name) = false := by simpa using Ne.symm hname
        by_cases hother : other = key
        · subst hother
          simpa [List.lookup_cons, hname, hbeq] using ih
        · rw [if_neg hother] at ih ⊢
          simp [List.lookup_cons, hname, ih]

theorem lookup_isSome (key : String) (m : Members) :
    (m.lookup key).isSome = m.any fun member => member.1 = key := by
  induction m with
  | nil => rfl
  | cons member m ih =>
      obtain ⟨name, old⟩ := member
      by_cases hname : name = key
      · simp [hname]
      · have hbeq : (key == name) = false := by simpa using Ne.symm hname
        simp [List.lookup_cons, hname, hbeq, ih]

/-- `rows[key] = value` changes the entry of the key and no other. -/
theorem lookup_set (key other : String) (value : PlainJson) (m : Members) :
    (m.set key value).lookup other = if other = key then some value else m.lookup other := by
  have hsome := lookup_isSome key m
  rw [set]
  by_cases hany : (m.any fun member => member.1 = key) = true
  · rw [if_pos hany, lookup_map_replace]
    rw [hany] at hsome
    obtain ⟨old, hold⟩ := Option.isSome_iff_exists.mp hsome
    simp [hold]
  · rw [if_neg hany, List.lookup_append]
    by_cases hother : other = key
    · have hnone : m.lookup key = none := by simpa [hany] using hsome
      simp [hother, hnone]
    · have hbeq : (other == key) = false := by simpa using hother
      simp [List.lookup_cons, hother, hbeq]

theorem lookup_setDefault {key other : String} (value : PlainJson) (m : Members)
    (hne : other ≠ key) :
    (m.setDefault key value).lookup other = m.lookup other := by
  rw [setDefault]
  split_ifs with hany
  · rfl
  · rw [lookup_set, if_neg hne]

end Members

/-- The mutations of the allocator. -/
inductive AllocatorOp
  | allocate (serial sensor : String)
  | ensure (serial sensor : String) (mpId rtpPort : ℤ)
  | setDesired (serial sensor : String) (active : Bool)
  | release (serial sensor : String)
  | migrateColorKey (serial : String)

namespace AllocatorOp

/-- The migration to the sentinel serial or to none returns before it opens the file. -/
def upFront : AllocatorOp → Bool
  | .migrateColorKey serial => serial = localSerial || serial = ""
  | _ => false

/-- What is done to the rows under the lock. -/
def body : AllocatorOp → Members → Except AllocatorRaised Members
  | .allocate serial sensor => Members.allocate serial sensor
  | .ensure serial sensor mpId rtpPort => Members.ensure serial sensor mpId rtpPort
  | .setDesired serial sensor active => Members.setDesired serial sensor active
  | .release serial sensor => fun rows => .ok (rows.release serial sensor)
  | .migrateColorKey serial => fun rows => .ok (rows.migrateColorKey serial)

end AllocatorOp

/-! ## The file -/

namespace StateFile

/-- `quarantine_corrupt`: one copy for the lifetime of the path; a file that is not there
cannot be copied. -/
def quarantineCorrupt (f : StateFile) : StateFile :=
  if f.content = .absent then f else f.quarantine

/-- The end of `_load_state_for_write`: the state and its rows, starting over with no rows
when they are not an object. -/
def withAllocations (members : Members) (f : StateFile) : (Members × Members) × StateFile :=
  let state := members.setDefault "version" (.num 1)
  match state.lookup "allocations" with
  | some (.obj rows) => ((state, rows), f)
  | _ => ((state, []), f.quarantineCorrupt)

/-- `_load_state_for_write`. -/
def loadForWrite (loads : String → LoadsResult) (f : StateFile) :
    Except AllocatorRaised (Members × Members) × StateFile :=
  let proceed (members : Members) (g : StateFile) :=
    ((.ok (g.withAllocations members).1, (g.withAllocations members).2) :
      Except AllocatorRaised (Members × Members) × StateFile)
  match f.content with
  | .absent => proceed [] f
  | .unreadable => (.error .cannotRead, f)
  | .undecodable _ => (.error .unicodeDecode, f)
  | .text value =>
      if pyStrip value = "" then proceed [] f
      else
        match loads (pyStrip value) with
        | .decodeError => proceed [] f.quarantineCorrupt
        | .raised => (.error .jsonOther, f)
        | .value (.obj members) => proceed members f
        | .value _ => proceed [] f.quarantineCorrupt

end StateFile

/-- `json`: the decoder and the encoder. -/
structure JsonText where
  loads : String → LoadsResult
  dumps : PlainJson → String

/-- One mutation under the lock of `_flock_state`; `written` is false when the write raises. -/
def AllocatorOp.run (json : JsonText) (written : Bool) (f : StateFile) (op : AllocatorOp) :
    Except AllocatorRaised Unit × StateFile :=
  if op.upFront then (.ok (), f)
  else
    match f.loadForWrite json.loads with
    | (.error e, g) => (.error e, g)
    | (.ok (state, rows), g) =>
        match op.body rows with
        | .error e => (.error e, g)
        | .ok rows' =>
            let text := json.dumps (.obj (state.set "allocations" (.obj rows'))) ++ "\n"
            if written then (.ok (), { g with content := .text text })
            else (.error .writeRaised, g)

/-! ## Evidence -/

/-- Content that is there, is not blank and is not a JSON object whose allocations are an
object. -/
def Content.NoAllocations (json : JsonText) : Content → Prop
  | .absent => False
  | .unreadable => False
  | .undecodable _ => True
  | .text value =>
      pyStrip value ≠ "" ∧ ∀ members, json.loads (pyStrip value) = .value (.obj members) →
        (members.lookup "allocations").any PlainJson.isObject = false

/-- Such content that is text and that the decoder answers, with a value or a
`JSONDecodeError`. -/
def Content.Discarded (json : JsonText) (content : Content) : Prop :=
  content.NoAllocations json ∧ ∃ value, content = .text value ∧ json.loads (pyStrip value) ≠ .raised

/-- What can happen to the file: a mutation, or content from outside. -/
inductive AllocatorEvent
  | mutation (op : AllocatorOp) (written : Bool)
  | external (content : Content)

/-- The file under mutations and outside changes; a step emits the content that a mutation
replaced. -/
def allocatorMachine (json : JsonText) : Machine StateFile AllocatorEvent Content where
  step f event :=
    match event with
    | .mutation op written =>
        let result := op.run json written f
        (result.2, if result.1.isOk && !op.upFront then [f.content] else [])
    | .external content => ({ f with content := content }, [])

/-- Every bad content that the step replaces is in one of the copies afterwards. -/
def EvidenceKept (json : JsonText) (f : StateFile) (event : AllocatorEvent) : Prop :=
  ∀ content ∈ (allocatorMachine json).emits f event, content.NoAllocations json →
    content ∈ ((allocatorMachine json).next f event).copies

/-- The operations that go through when there are no allocations. -/
def AllocatorOp.SucceedsEmpty : AllocatorOp → Prop
  | .setDesired .. => False
  | op => op.upFront = false

/-- A mutation that discards the content finds no copy, or one of this very content. -/
def CopyFits (json : JsonText) (f : StateFile) : AllocatorEvent → Prop
  | .mutation op written =>
      written = true → op.SucceedsEmpty → f.content.Discarded json →
        f.copies = [] ∨ f.content ∈ f.copies
  | .external _ => True

/-- The lowest slots of the pools are free when there are no rows. -/
theorem pickFree_nil : pickFree [] [] = .ok (mpIdMin, portMin) := by
  decide +kernel

theorem AllocatorOp.isOk_body_nil {op : AllocatorOp} (hupFront : op.upFront = false) :
    (op.body []).isOk = true ↔ op.SucceedsEmpty := by
  cases op with
  | allocate serial sensor =>
      have hbody : (AllocatorOp.allocate serial sensor).body [] =
          .ok [(allocKey serial sensor,
            Allocation.toDict { mpId := mpIdMin, rtpPort := portMin })] := by
        simp [AllocatorOp.body, Members.allocate, Members.existing, pickFree_nil, bind,
          Except.bind, pure, Except.pure, Members.set]
      rw [hbody]
      exact ⟨fun _ => hupFront, fun _ => rfl⟩
  | ensure => exact ⟨fun _ => hupFront, fun _ => rfl⟩
  | setDesired => exact ⟨nofun, nofun⟩
  | release => exact ⟨fun _ => hupFront, fun _ => rfl⟩
  | migrateColorKey => exact ⟨fun _ => hupFront, fun _ => rfl⟩

namespace StateFile

variable {json : JsonText} {f : StateFile}

/-- What the copies hold of the content once it was to be copied. -/
theorem mem_copies_quarantineCorrupt (hpresent : f.content ≠ .absent) :
    f.content ∈ f.quarantineCorrupt.copies ↔ f.copies = [] ∨ f.content ∈ f.copies := by
  rw [quarantineCorrupt, quarantine]
  rw [if_neg hpresent]
  split_ifs with hcopies
  · simp [hcopies]
  · simp [hcopies]

/-- A second copy is never made. -/
theorem quarantineCorrupt_quarantineCorrupt (f : StateFile) :
    f.quarantineCorrupt.quarantineCorrupt = f.quarantineCorrupt := by
  by_cases habsent : f.content = .absent
  · simp [quarantineCorrupt, habsent]
  · have hagain : f.quarantine.quarantine = f.quarantine := by
      by_cases hcopies : f.copies = []
      · simp [quarantine, hcopies]
      · simp [quarantine, hcopies]
    have hpresent : f.quarantine.content ≠ .absent := by rwa [content_quarantine]
    simp [quarantineCorrupt, habsent, hpresent, hagain]

theorem withAllocations_of_not_object {members : Members} (f : StateFile)
    (h : (members.lookup "allocations").any PlainJson.isObject = false) :
    ∃ state, f.withAllocations members = ((state, []), f.quarantineCorrupt) := by
  rw [← Members.lookup_setDefault (.num 1) members (show "allocations" ≠ "version" by decide)] at h
  unfold withAllocations
  simp only
  split
  · next rows hrows =>
      rw [hrows] at h
      cases h
  · exact ⟨_, rfl⟩

/-- Content that is discarded is copied, once at most, and the mutation starts without
rows. -/
theorem loadForWrite_of_discarded (h : f.content.Discarded json) :
    ∃ state, f.loadForWrite json.loads = (.ok (state, []), f.quarantineCorrupt) := by
  obtain ⟨hno, value, hcontent, hanswered⟩ := h
  rw [hcontent] at hno
  obtain ⟨hblank, hshape⟩ := hno
  have hnone : (([] : Members).lookup "allocations").any PlainJson.isObject = false := rfl
  obtain ⟨fresh, hfresh⟩ := withAllocations_of_not_object f.quarantineCorrupt hnone
  rw [quarantineCorrupt_quarantineCorrupt] at hfresh
  rw [loadForWrite]
  simp only [hcontent, if_neg hblank]
  cases hloads : json.loads (pyStrip value) with
  | decodeError => exact ⟨fresh, by rw [hfresh]⟩
  | raised => exact absurd hloads hanswered
  | value root =>
      cases root with
      | obj members =>
          obtain ⟨state, hstate⟩ := withAllocations_of_not_object f (hshape members hloads)
          exact ⟨state, by simp only [hstate]⟩
      | null | bool | num | str | arr => exact ⟨fresh, by rw [hfresh]⟩

/-- Bad content that is not discarded raises. -/
theorem loadForWrite_of_not_discarded (hno : f.content.NoAllocations json)
    (h : ¬ f.content.Discarded json) : ∃ e, f.loadForWrite json.loads = (.error e, f) := by
  rw [loadForWrite]
  cases hcontent : f.content with
  | absent | unreadable =>
      rw [hcontent] at hno
      exact absurd hno id
  | undecodable => exact ⟨_, rfl⟩
  | text value =>
      have hraised : json.loads (pyStrip value) = .raised := by
        by_contra hanswered
        exact h ⟨hno, value, hcontent, hanswered⟩
      rw [hcontent] at hno
      simp only [if_neg hno.1, hraised]
      exact ⟨_, rfl⟩

end StateFile

/-- A mutation of content that is discarded: it goes through if it can do without rows and
the write does, and the copies are those of the quarantine. -/
theorem AllocatorOp.run_of_discarded {json : JsonText} {f : StateFile} {op : AllocatorOp}
    (hupFront : op.upFront = false) (h : f.content.Discarded json) (written : Bool) :
    ((op.run json written f).1.isOk = true ↔ op.SucceedsEmpty ∧ written = true) ∧
      (op.run json written f).2.copies = f.quarantineCorrupt.copies := by
  obtain ⟨state, hload⟩ := StateFile.loadForWrite_of_discarded h
  have hok := AllocatorOp.isOk_body_nil hupFront
  rw [AllocatorOp.run]
  simp only [hupFront, Bool.false_eq_true, if_false, hload]
  cases hbody : op.body [] with
  | error e =>
      rw [hbody] at hok
      exact ⟨⟨nofun, fun hop => absurd (hok.mpr hop.1) nofun⟩, rfl⟩
  | ok rows =>
      rw [hbody] at hok
      cases written with
      | true => exact ⟨⟨fun _ => ⟨hok.mp rfl, rfl⟩, fun _ => rfl⟩, rfl⟩
      | false => exact ⟨⟨nofun, nofun⟩, rfl⟩

/-- A step keeps the evidence exactly when the copy fits. -/
theorem evidenceKept_iff (json : JsonText) (f : StateFile) (event : AllocatorEvent) :
    EvidenceKept json f event ↔ CopyFits json f event := by
  cases event with
  | external content => exact ⟨fun _ => trivial, fun _ c hc => absurd hc List.not_mem_nil⟩
  | mutation op written =>
      have hemits : (allocatorMachine json).emits f (.mutation op written) =
          if (op.run json written f).1.isOk && !op.upFront then [f.content] else [] := rfl
      have hnext : (allocatorMachine json).next f (.mutation op written) =
          (op.run json written f).2 := rfl
      rw [EvidenceKept]
      rw [hemits, hnext]
      by_cases hdiscarded : f.content.Discarded json
      · have hpresent : f.content ≠ .absent := fun habsent => by
          rw [habsent] at hdiscarded
          exact hdiscarded.1
        cases hupFront : op.upFront with
        | true =>
            have hnot : ¬ op.SucceedsEmpty := by
              cases op with
              | migrateColorKey => exact fun h => absurd (hupFront.symm.trans h) nofun
              | allocate | ensure | setDesired | release => cases hupFront
            refine ⟨fun _ _ hop => absurd hop hnot, fun _ content hcontent => ?_⟩
            simp at hcontent
        | false =>
            obtain ⟨hok, hcopies⟩ := AllocatorOp.run_of_discarded hupFront hdiscarded written
            rw [hcopies]
            constructor
            · intro hkept hwritten hop _
              rw [← StateFile.mem_copies_quarantineCorrupt hpresent]
              exact hkept f.content (by simp [hok.mpr ⟨hop, hwritten⟩]) hdiscarded.1
            · intro hfits content hcontent _
              split_ifs at hcontent with hreplaced
              · obtain ⟨hop, hwritten⟩ := hok.mp (by simpa using hreplaced)
                rw [List.mem_singleton.mp hcontent]
                exact (StateFile.mem_copies_quarantineCorrupt hpresent).mpr
                  (hfits hwritten hop hdiscarded)
              · exact absurd hcontent List.not_mem_nil
      · refine ⟨fun _ _ _ h => absurd h hdiscarded, fun _ content hcontent hno => ?_⟩
        split_ifs at hcontent with hreplaced
        · -- bad content that is not discarded makes the mutation raise
          rw [List.mem_singleton.mp hcontent] at hno
          obtain ⟨e, hload⟩ := StateFile.loadForWrite_of_not_discarded hno hdiscarded
          simp only [Bool.and_eq_true, Bool.not_eq_true'] at hreplaced
          simp [AllocatorOp.run, hreplaced.2, hload, Except.isOk, Except.toBool] at hreplaced
        · exact absurd hcontent List.not_mem_nil

/-- Along a run of mutations and outside changes every bad content that a mutation replaces
is in a copy, exactly when each mutation that discards content finds no copy or one of this
very content. -/
theorem evidence_survives_iff (json : JsonText) (f : StateFile) (events : List AllocatorEvent) :
    (allocatorMachine json).Along (EvidenceKept json) f events ↔
      (allocatorMachine json).Along (CopyFits json) f events := by
  constructor
  · exact fun h => h.imp _ fun f event => (evidenceKept_iff json f event).mp
  · exact fun h => h.imp _ fun f event => (evidenceKept_iff json f event).mpr

/-- The encoder on the state without allocations, the decoder on a list and on text that is
not JSON. -/
def exampleJsonText : JsonText where
  loads text :=
    if text = "[1, 2, 3]" then .value (.arr [.num 1, .num 2, .num 3]) else .decodeError
  dumps _ := "\x7b\n  \"allocations\": \x7b\x7d,\n  \"version\": 1\n\x7d"

/-- A second corruption is replaced without a trace: the only copy is the one of the first. -/
theorem second_corruption_lost :
    let release := AllocatorEvent.mutation (.release "141722072135" "color") true
    let f := (allocatorMachine exampleJsonText).run { content := .text "\x7bbroken" }
      [release, .external (.text "[1, 2, 3]")]
    (Content.text "[1, 2, 3]").NoAllocations exampleJsonText ∧
      (allocatorMachine exampleJsonText).emits f release = [.text "[1, 2, 3]"] ∧
      ((allocatorMachine exampleJsonText).next f release).copies = [.text "\x7bbroken"] ∧
      ¬ EvidenceKept exampleJsonText f release := by
  intro release f
  have hno : (Content.text "[1, 2, 3]").NoAllocations exampleJsonText := by
    have hloads : exampleJsonText.loads (pyStrip "[1, 2, 3]") =
        .value (.arr [.num 1, .num 2, .num 3]) := by
      simp only [exampleJsonText]
      rw [if_pos (by decide +kernel)]
    refine ⟨by decide +kernel, ?_⟩
    intro members h
    rw [hloads] at h
    cases h
  have hstep : (allocatorMachine exampleJsonText).emits f release = [.text "[1, 2, 3]"] ∧
      ((allocatorMachine exampleJsonText).next f release).copies = [.text "\x7bbroken"] := by
    decide +kernel
  refine ⟨hno, hstep.1, hstep.2, ?_⟩
  intro hkept
  have hmem := hkept (.text "[1, 2, 3]") (by rw [hstep.1]; exact List.mem_singleton_self _) hno
  rw [hstep.2] at hmem
  exact absurd hmem (by decide)

end CameraStack.Topology
