/-
# A reconcile that converges

An operator lets the gateway create the mountpoints that its drift report calls missing.  What the
report says is fixed when the reconcile begins; two bindings may want the same mountpoint, and the
second finds it there.  Nothing is destroyed, and a mountpoint below the range of remote ones is
refused, so that the report after the reconcile misses no mountpoint but such ones.
-/

import CameraStack.Streams.Provision

namespace CameraStack.Streams

open CameraStack.Lib CameraStack.Topology

/-! ## The reconcile -/

/-- `ProvisionStatus.value`. -/
def ProvisionStatus.value : ProvisionStatus → String
  | .created => "created"
  | .existing => "exists"
  | .conflict => "conflict"
  | .failed => "failed"

/-- What a call to ensure a mountpoint meets: Janus answers, or something else raises. -/
inductive EnsureMeets
  | answers (answer : JanusAnswer)
  | raises (e : String)

/-- `result` and `outcomes`. -/
structure RunCounts where
  created : ℕ := 0
  existing : ℕ := 0
  skipped : ℕ := 0
  failed : ℕ := 0
  outcomes : List (String × String) := []

namespace RunCounts

/-- Count a failure. -/
def failure (r : RunCounts) (bindingId outcome : String) : RunCounts :=
  { r with failed := r.failed + 1, outcomes := r.outcomes ++ [(bindingId, outcome)] }

/-- Count an outcome of `ensure_janus`. -/
def count (r : RunCounts) (bindingId : String) (status : ProvisionStatus) : RunCounts :=
  match status with
  | .created =>
      { r with created := r.created + 1, outcomes := r.outcomes ++ [(bindingId, status.value)] }
  | .existing =>
      { r with existing := r.existing + 1, outcomes := r.outcomes ++ [(bindingId, status.value)] }
  | .conflict | .failed => r.failure bindingId status.value

/-- All that was counted. -/
def total (r : RunCounts) : ℕ := r.created + r.existing + r.skipped + r.failed

end RunCounts

/-- The body of the loop of `run_janus_reconcile_once`. -/
def runOnceStep (item : DriftItem) (meets : EnsureMeets) (r : RunCounts) (janus : Janus) :
    RunCounts × Janus :=
  match runOnceItem item with
  | .skip => ({ r with skipped := r.skipped + 1 }, janus)
  | .present => ({ r with existing := r.existing + 1 }, janus)
  | .refuse => (r.failure item.bindingId "refused_local_range", janus)
  | .ensure b =>
      match meets with
      | .raises e => (r.failure item.bindingId ("error:" ++ e), janus)
      | .answers answer =>
          let (outcome, janus') := ensureJanus b answer janus
          (r.count item.bindingId outcome.status, janus')

/-- The loop; where nothing is given, Janus answers. -/
def runOnceLoop : List DriftItem → List EnsureMeets → RunCounts → Janus → RunCounts × Janus
  | [], _, r, janus => (r, janus)
  | item :: items, meets, r, janus =>
      let next := runOnceStep item (meets.headD (.answers {})) r janus
      runOnceLoop items meets.tail next.1 next.2

/-- `drift` and `counts` of a report. -/
structure DriftSummary where
  drift : Bool
  counts : DriftClass → ℕ
  unexpected : ℕ

/-- What is returned of a report. -/
def DriftReport.summary (report : DriftReport) : DriftSummary where
  drift := report.drift
  counts c := (report.items.filter fun item => item.classification = c).length
  unexpected := report.unexpected.length

/-- What `run_janus_reconcile_once` returns, with the whole reports, and the Janus it leaves. -/
structure RunOnce where
  before : DriftReport
  result : RunCounts
  after : DriftReport
  janus : Janus

/-- `ok`. -/
def RunOnce.ok (run : RunOnce) : Bool := run.result.failed = 0

/-- `run_janus_reconcile_once`; the age of the video is read for each report. -/
def reconcileOnce (bindings : List (String × StreamBinding)) (maintenance : List String)
    (rtpAge rtpAge' : ℤ → Option ℤ) (meets : List EnsureMeets) (janus : Janus) : RunOnce :=
  let before := computeDrift bindings (janus.map Mountpoint.id) rtpAge 4000 maintenance
  let run := runOnceLoop before.items meets {} janus
  { before := before
    result := run.1
    after := computeDrift bindings (run.2.map Mountpoint.id) rtpAge' 4000 maintenance
    janus := run.2 }

/-! ## One line of the report -/

section Step

variable {item : DriftItem} {meets : EnsureMeets} {r : RunCounts} {janus : Janus}

theorem total_count (bindingId : String) (status : ProvisionStatus) :
    (r.count bindingId status).total = r.total + 1 := by
  unfold RunCounts.count RunCounts.total
  cases status with
  | created => dsimp only; omega
  | existing => dsimp only; omega
  | conflict => exact (Nat.add_assoc _ _ _).symm
  | failed => exact (Nat.add_assoc _ _ _).symm

/-- Every line is counted once. -/
theorem total_runOnceStep : (runOnceStep item meets r janus).1.total = r.total + 1 := by
  unfold runOnceStep
  split
  · unfold RunCounts.total
    dsimp only
    omega
  · unfold RunCounts.total
    dsimp only
    omega
  · exact (Nat.add_assoc _ _ _).symm
  · split
    · exact (Nat.add_assoc _ _ _).symm
    · exact total_count _ _

/-- With answers of Janus it is the step of a sweep. -/
theorem runOnceStep_sweeps (answer : JanusAnswer) (rest : List SweepItem) :
    (runOnceStep item (.answers answer) r janus).2 =
      (({ pending := runOnceItem item :: rest } : Sweep).step answer janus).2.1 := by
  unfold runOnceStep Sweep.step
  cases runOnceItem item with
  | skip | present | refuse | ensure => rfl

theorem reconcileExisting_status (b : StreamBinding) (detail : String) (answer : JanusAnswer) :
    (reconcileExisting b detail answer janus).status ≠ .created := by
  unfold reconcileExisting
  split
  · split
    · split
      · exact ProvisionStatus.noConfusion
      · exact ProvisionStatus.noConfusion
    · exact ProvisionStatus.noConfusion
  · exact ProvisionStatus.noConfusion

/-- A mountpoint that Janus has is not created. -/
theorem ensureJanus_present {b : StreamBinding} (answer : JanusAnswer)
    (h : b.janus.mountpointId ∈ janus.map Mountpoint.id) :
    (ensureJanus b answer janus).2 = janus ∧ (ensureJanus b answer janus).1.status ≠ .created := by
  have hcreate : ∃ message, janus.create
      { id := b.janus.mountpointId, port := b.transport.rtpPort } answer = .error message := by
    unfold Janus.create
    cases answer.refusal with
    | some message => exact ⟨message, rfl⟩
    | none => exact ⟨_, if_pos h⟩
  obtain ⟨message, hmessage⟩ := hcreate
  rw [ensureJanus, hmessage]
  dsimp only
  split
  · exact ⟨rfl, reconcileExisting_status b message answer⟩
  · exact ⟨rfl, ProvisionStatus.noConfusion⟩

/-- One that it does not have is created if Janus does not refuse. -/
theorem ensureJanus_absent {b : StreamBinding} {answer : JanusAnswer}
    (h : b.janus.mountpointId ∉ janus.map Mountpoint.id) (hanswer : answer.refusal = none) :
    (ensureJanus b answer janus).2 =
        janus ++ [{ id := b.janus.mountpointId, port := b.transport.rtpPort }] ∧
      (ensureJanus b answer janus).1.status = .created := by
  have hcreate : janus.create { id := b.janus.mountpointId, port := b.transport.rtpPort } answer =
      .ok (janus ++ [{ id := b.janus.mountpointId, port := b.transport.rtpPort }]) := by
    rw [Janus.create, hanswer]
    exact if_neg h
  rw [ensureJanus, hcreate]
  exact ⟨rfl, rfl⟩

theorem created_count {status : ProvisionStatus} (bindingId : String) (h : status ≠ .created) :
    (r.count bindingId status).created = r.created := by
  cases status with
  | created => exact absurd rfl h
  | existing | conflict | failed => rfl

/-- A line asks Janus for the mountpoint of its binding. -/
def DriftItem.Asks (item : DriftItem) (id : ℤ) : Prop :=
  ∃ b, runOnceItem item = .ensure b ∧ b.janus.mountpointId = id

theorem DriftItem.Asks.unique {id id' : ℤ} (h : item.Asks id) (h' : item.Asks id') : id = id' := by
  obtain ⟨b, hb, rfl⟩ := h
  obtain ⟨b', hb', rfl⟩ := h'
  cases hb.symm.trans hb'
  rfl

/-- Janus creates what it is asked for and does not have. -/
def DriftItem.Created (item : DriftItem) (meets : EnsureMeets) (janus : Janus) : Prop :=
  ∀ id, item.Asks id → id ∉ janus.map Mountpoint.id →
    ∃ answer, meets = .answers answer ∧ answer.refusal = none

/-- A line of the report gets its mountpoint, or it wants none that Janus does not have. -/
theorem runOnceStep_cases (h : item.Created meets janus) :
    (∃ mp, item.Asks mp.id ∧ mp.id ∉ janus.map Mountpoint.id ∧
      (runOnceStep item meets r janus).2 = janus ++ [mp] ∧
      (runOnceStep item meets r janus).1.created = r.created + 1) ∨
    ((∀ id, item.Asks id → id ∈ janus.map Mountpoint.id) ∧
      (runOnceStep item meets r janus).2 = janus ∧
      (runOnceStep item meets r janus).1.created = r.created) := by
  cases hitem : runOnceItem item with
  | skip | present | refuse =>
      refine .inr ⟨?_, ?_⟩
      · rintro id ⟨b, hb, -⟩
        cases hitem.symm.trans hb
      · rw [runOnceStep, hitem]
        exact ⟨rfl, rfl⟩
  | ensure b =>
      by_cases hpresent : b.janus.mountpointId ∈ janus.map Mountpoint.id
      · refine .inr ⟨?_, ?_⟩
        · rintro id ⟨b', hb', rfl⟩
          cases hitem.symm.trans hb'
          exact hpresent
        · rw [runOnceStep, hitem]
          cases meets with
          | raises e => exact ⟨rfl, rfl⟩
          | answers answer =>
              obtain ⟨hjanus, hstatus⟩ := ensureJanus_present answer hpresent
              exact ⟨hjanus, created_count _ hstatus⟩
      · obtain ⟨answer, rfl, hanswer⟩ := h _ ⟨b, hitem, rfl⟩ hpresent
        obtain ⟨hjanus, hstatus⟩ := ensureJanus_absent hpresent hanswer
        refine .inl ⟨{ id := b.janus.mountpointId, port := b.transport.rtpPort }, ⟨b, hitem, rfl⟩,
          hpresent, ?_, ?_⟩
        · rw [runOnceStep, hitem]
          exact hjanus
        · rw [runOnceStep, hitem]
          dsimp only
          rw [hstatus]
          rfl

end Step

/-! ## The whole report -/

/-- Every mountpoint that is asked for and not there yet is created. -/
def Creates : List DriftItem → List EnsureMeets → RunCounts → Janus → Prop
  | [], _, _, _ => True
  | item :: items, meets, r, janus =>
      item.Created (meets.headD (.answers {})) janus ∧
        Creates items meets.tail (runOnceStep item (meets.headD (.answers {})) r janus).1
          (runOnceStep item (meets.headD (.answers {})) r janus).2

theorem total_runOnceLoop (items : List DriftItem) (meets : List EnsureMeets) (r : RunCounts)
    (janus : Janus) : (runOnceLoop items meets r janus).1.total = r.total + items.length := by
  induction items generalizing meets r janus with
  | nil => rfl
  | cons item items ih =>
      rw [runOnceLoop, ih, total_runOnceStep, List.length_cons]
      omega

/-- The loop adds the mountpoints that are asked for and were not there. -/
theorem runOnceLoop_spec {items : List DriftItem} {meets : List EnsureMeets} {r : RunCounts}
    {janus : Janus} (h : Creates items meets r janus) :
    ∃ made, (runOnceLoop items meets r janus).2 = janus ++ made ∧
      (made.map Mountpoint.id).Nodup ∧
      (runOnceLoop items meets r janus).1.created = r.created + made.length ∧
      ∀ id, id ∈ made.map Mountpoint.id ↔
        id ∉ janus.map Mountpoint.id ∧ ∃ item ∈ items, item.Asks id := by
  induction items generalizing meets r janus with
  | nil =>
      refine ⟨[], (List.append_nil janus).symm, List.nodup_nil, rfl, fun id => ?_⟩
      refine iff_of_false List.not_mem_nil ?_
      rintro ⟨-, item, hmem, -⟩
      cases hmem
  | cons item items ih =>
      obtain ⟨hcreated, hrest⟩ := h
      obtain ⟨made, hjanus, hnodup, hcount, hmade⟩ := ih hrest
      rw [runOnceLoop]
      rcases runOnceStep_cases (r := r) hcreated with
        ⟨mp, hasks, hnew, hstep, hone⟩ | ⟨hpresent, hstep, hnone⟩
      · rw [hstep] at hjanus hmade
        refine ⟨mp :: made, ?_, ?_, ?_, fun id => ?_⟩
        · rw [hstep, hjanus, List.append_assoc]
          rfl
        · rw [List.map_cons, List.nodup_cons]
          refine ⟨fun hmem => ((hmade _).mp hmem).1 ?_, hnodup⟩
          rw [List.map_append]
          exact List.mem_append_right _ (List.mem_singleton_self _)
        · rw [hcount, hone, List.length_cons]
          omega
        · rw [List.map_cons, List.mem_cons, hmade, List.map_append, List.mem_append, not_or]
          constructor
          · rintro (rfl | ⟨⟨hnot, -⟩, item', hmem, hasks'⟩)
            · exact ⟨hnew, item, List.mem_cons_self, hasks⟩
            · exact ⟨hnot, item', List.mem_cons_of_mem _ hmem, hasks'⟩
          · rintro ⟨hnot, item', hmem, hasks'⟩
            by_cases hid : id = mp.id
            · exact .inl hid
            · rcases List.mem_cons.mp hmem with rfl | hmem
              · exact absurd (hasks'.unique hasks) hid
              · exact .inr ⟨⟨hnot, fun h => hid (List.mem_singleton.mp h)⟩, item', hmem, hasks'⟩
      · rw [hstep] at hjanus hmade
        refine ⟨made, ?_, hnodup, ?_, fun id => ?_⟩
        · rw [hstep, hjanus]
        · rw [hcount, hnone]
        · rw [hmade]
          constructor
          · rintro ⟨hnot, item', hmem, hasks⟩
            exact ⟨hnot, item', List.mem_cons_of_mem _ hmem, hasks⟩
          · rintro ⟨hnot, item', hmem, hasks⟩
            rcases List.mem_cons.mp hmem with rfl | hmem
            · exact absurd (hpresent id hasks) hnot
            · exact ⟨hnot, item', hmem, hasks⟩

/-- A remote binding whose mountpoint the report calls missing and the reconcile may create. -/
def Recreatable (bindings : List (String × StreamBinding)) (live : List ℤ)
    (rtpAge : ℤ → Option ℤ) (maintenance : List String) (id : ℤ) : Prop :=
  ∃ entry ∈ bindings, entry.2.mode = .remoteProducer ∧
    (classify live rtpAge 4000 maintenance entry.2).2 = .missingJanusMountpoint ∧
    TopologyState.remoteMpMin ≤ entry.2.janus.mountpointId ∧ entry.2.janus.mountpointId = id

section Reconcile

variable {bindings : List (String × StreamBinding)} {maintenance : List String}
  {rtpAge rtpAge' : ℤ → Option ℤ} {meets : List EnsureMeets} {janus : Janus}

/-- The mountpoints that are asked for are those. -/
theorem asks_iff {live : List ℤ} {id : ℤ} :
    (∃ item ∈ (computeDrift bindings live rtpAge 4000 maintenance).items, item.Asks id) ↔
      Recreatable bindings live rtpAge maintenance id := by
  constructor
  · rintro ⟨item, hmem, b, hb, rfl⟩
    obtain ⟨entry, hentry, rfl⟩ := List.mem_map.mp hmem
    obtain ⟨hlisted, hmode⟩ := List.mem_filter.mp hentry
    obtain ⟨rfl, hclass⟩ := runOnceItem_eq_ensure hb
    refine ⟨entry, hlisted, of_decide_eq_true hmode, hclass, ?_, rfl⟩
    rw [runOnceItem, hclass] at hb
    dsimp only at hb
    split_ifs at hb with hlow
    exact not_lt.mp hlow
  · rintro ⟨entry, hlisted, hmode, hclass, hlow, rfl⟩
    refine ⟨driftItem live rtpAge 4000 maintenance entry.1 entry.2, ?_, entry.2, ?_, rfl⟩
    · exact List.mem_map_of_mem (List.mem_filter.mpr ⟨hlisted, decide_eq_true hmode⟩)
    · rw [runOnceItem, driftItem, hclass]
      exact if_neg (not_lt.mpr hlow)

/-- What is missing is wanted and not listed. -/
theorem classify_missing_iff {live : List ℤ} {rtpAge : ℤ → Option ℤ} {b : StreamBinding} :
    (classify live rtpAge 4000 maintenance b).2 = .missingJanusMountpoint ↔
      isOperatorStopped b maintenance = false ∧ b.janus.mountpointId ∉ live := by
  refine ⟨classify_missing, fun h => ?_⟩
  rw [classify, if_neg (by rw [h.1]; exact Bool.false_ne_true), if_pos h.2]

/-- A reconcile adds the mountpoints that can be recreated. -/
theorem reconcileOnce_spec
    (h : Creates (computeDrift bindings (janus.map Mountpoint.id) rtpAge 4000 maintenance).items
      meets {} janus) :
    ∃ made, (reconcileOnce bindings maintenance rtpAge rtpAge' meets janus).janus = janus ++ made ∧
      (made.map Mountpoint.id).Nodup ∧
      (reconcileOnce bindings maintenance rtpAge rtpAge' meets janus).result.created =
        made.length ∧
      ∀ id, id ∈ made.map Mountpoint.id ↔
        Recreatable bindings (janus.map Mountpoint.id) rtpAge maintenance id := by
  obtain ⟨made, hjanus, hnodup, hcount, hmade⟩ := runOnceLoop_spec h
  refine ⟨made, hjanus, hnodup, hcount.trans (Nat.zero_add _), fun id => ?_⟩
  rw [hmade, asks_iff]
  refine and_iff_right_of_imp ?_
  rintro ⟨entry, -, -, hclass, -, rfl⟩
  exact (classify_missing hclass).2

/-- Afterwards nothing can be recreated, whatever age the video has. -/
theorem not_recreatable_after
    (h : Creates (computeDrift bindings (janus.map Mountpoint.id) rtpAge 4000 maintenance).items
      meets {} janus) (rtpLater : ℤ → Option ℤ) (id : ℤ) :
    ¬ Recreatable bindings
      ((reconcileOnce bindings maintenance rtpAge rtpAge' meets janus).janus.map Mountpoint.id)
      rtpLater maintenance id := by
  obtain ⟨made, hjanus, -, -, hmade⟩ := @reconcileOnce_spec _ _ _ rtpAge' _ _ h
  rintro ⟨entry, hlisted, hmode, hclass, hlow, rfl⟩
  obtain ⟨hrunning, hnot⟩ := classify_missing hclass
  rw [hjanus, List.map_append, List.mem_append, not_or] at hnot
  exact hnot.2 ((hmade _).mpr
    ⟨entry, hlisted, hmode, classify_missing_iff.mpr ⟨hrunning, hnot.1⟩, hlow, rfl⟩)

/-- Lines that ask for nothing leave Janus, whatever it answers. -/
theorem creates_of_not_asks {items : List DriftItem} (h : ∀ item ∈ items, ∀ id, ¬ item.Asks id)
    (meets : List EnsureMeets) (r : RunCounts) : Creates items meets r janus := by
  induction items generalizing meets r with
  | nil => trivial
  | cons item items ih =>
      obtain ⟨hitem, hitems⟩ := List.forall_mem_cons.mp h
      have hcreated : item.Created (meets.headD (.answers {})) janus := fun id hasks =>
        absurd hasks (hitem id)
      refine ⟨hcreated, ?_⟩
      rcases runOnceStep_cases (r := r) hcreated with ⟨mp, hasks, -⟩ | ⟨-, hsame, -⟩
      · exact absurd hasks (hitem mp.id)
      · rw [hsame]
        exact ih hitems _ _

/-- Where nothing can be recreated, nothing is created. -/
theorem created_eq_zero
    (h : ∀ id, ¬ Recreatable bindings (janus.map Mountpoint.id) rtpAge maintenance id) :
    (reconcileOnce bindings maintenance rtpAge rtpAge' meets janus).result.created = 0 := by
  obtain ⟨made, -, -, hcount, hmade⟩ := @reconcileOnce_spec bindings maintenance rtpAge rtpAge' meets
    janus (creates_of_not_asks (fun item hmem id hasks => h id (asks_iff.mp ⟨item, hmem, hasks⟩))
      meets {})
  have hnone : made = [] := by
    rw [List.eq_nil_iff_forall_not_mem]
    intro mp hmp
    exact h mp.id ((hmade _).mp (List.mem_map_of_mem hmp))
  rw [hcount, hnone]
  rfl

end Reconcile

/-- If Janus creates each mountpoint that it is asked for and does not have, a reconcile creates
exactly the missing ones of the remote range, once each, and destroys none; its report afterwards
misses only mountpoints below that range; every remote binding is counted once; and a second
reconcile creates nothing. -/
theorem reconcile_once_converges (bindings : List (String × StreamBinding))
    (maintenance : List String) (rtpAge rtpAge' : ℤ → Option ℤ) (meets : List EnsureMeets)
    (janus : Janus)
    (hcreates : Creates
      (computeDrift bindings (janus.map Mountpoint.id) rtpAge 4000 maintenance).items meets {}
        janus) :
    let run := reconcileOnce bindings maintenance rtpAge rtpAge' meets janus
    (∃ made, run.janus = janus ++ made ∧ (made.map Mountpoint.id).Nodup ∧
      run.result.created = made.length ∧
      ∀ id, id ∈ made.map Mountpoint.id ↔
        Recreatable bindings (janus.map Mountpoint.id) rtpAge maintenance id) ∧
    (∀ item ∈ run.after.items, item.classification = .missingJanusMountpoint →
      item.binding.janus.mountpointId < TopologyState.remoteMpMin) ∧
    run.result.total = (bindings.filter fun entry => entry.2.mode = .remoteProducer).length ∧
    ∀ rtpLater rtpLater' meetsLater, (reconcileOnce bindings maintenance rtpLater rtpLater'
      meetsLater run.janus).result.created = 0 := by
  refine ⟨reconcileOnce_spec hcreates, ?_, ?_, fun rtpLater rtpLater' meetsLater => ?_⟩
  · intro item hmem hclass
    obtain ⟨entry, hentry, rfl⟩ := List.mem_map.mp hmem
    obtain ⟨hlisted, hmode⟩ := List.mem_filter.mp hentry
    by_contra hlow
    exact @not_recreatable_after bindings maintenance rtpAge rtpAge' meets janus hcreates rtpAge' _
      ⟨entry, hlisted, of_decide_eq_true hmode, hclass, not_lt.mp hlow, rfl⟩
  · have htotal := total_runOnceLoop
      (computeDrift bindings (janus.map Mountpoint.id) rtpAge 4000 maintenance).items meets {} janus
    rw [computeDrift, List.length_map] at htotal
    exact htotal.trans (Nat.zero_add _)
  · exact created_eq_zero fun id => not_recreatable_after hcreates rtpLater id

/-! ## Two bindings of one mountpoint -/

/-- Where nothing is given, Janus creates what it is asked for. -/
theorem creates_nil (items : List DriftItem) (r : RunCounts) (janus : Janus) :
    Creates items [] r janus := by
  induction items generalizing r janus with
  | nil => trivial
  | cons item items ih => exact ⟨fun _ _ _ => ⟨{}, rfl, rfl⟩, ih _ _⟩

/-- A color stream that is to run. -/
def runningColor (bindingId : String) (rtpPort mountpointId : ℤ) : StreamBinding where
  bindingId := bindingId
  nodeId := "door"
  sensor := "color"
  mode := .remoteProducer
  transport := { rtpPort := rtpPort }
  janus := { mountpointId := mountpointId, rtpIface := "192.168.1.10" }
  status := .online

/-- Two streams want the same mountpoint, and one wants a mountpoint of this host. -/
def runningColors : List (String × StreamBinding) :=
  [("door:color", runningColor "door:color" 5100 2000),
    ("gate:color", runningColor "gate:color" 5110 2000),
    ("yard:color", runningColor "yard:color" 5120 1305)]

/-- The mountpoint is created once, and the one below the range is not, where a mountpoint of
nobody is left alone. -/
theorem reconcile_once_converges_shared :
    ∃ made, (reconcileOnce runningColors [] (fun _ => none) (fun _ => none) []
        [{ id := 2050 }]).janus = [{ id := 2050 }] ++ made ∧
      2000 ∈ made.map Mountpoint.id := by
  obtain ⟨⟨made, hjanus, -, -, hmade⟩, -⟩ := reconcile_once_converges runningColors []
    (fun _ => none) (fun _ => none) [] [{ id := 2050 }] (creates_nil _ _ _)
  refine ⟨made, hjanus, (hmade 2000).mpr ?_⟩
  exact ⟨_, List.mem_cons_self, rfl, by decide, by decide, rfl⟩

end CameraStack.Streams
