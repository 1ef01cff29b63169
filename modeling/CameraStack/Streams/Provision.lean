/-
# Mountpoints from bindings

Janus serves a stream from a mountpoint that exists only at runtime: a restart of
Janus drops them all.  Three callers recreate them from the stored bindings: the
sweep at start-up, a reconcile an operator triggers, and the monitor.

The sweep decides from the start/stop intent of a binding.  The triggered reconcile
shares its decision with the read-only drift report, which looks at auto-recovery, at
the stored status and at maintenance.  Either decides once, on what it read when it
started, and then works through its list.
-/

import CameraStack.Topology.Firewall
import CameraStack.Topology.NodeTable

namespace CameraStack.Streams

open CameraStack.Lib CameraStack.Topology

/-! ## Janus -/

/-- A mountpoint as a listing shows it; older ones do not show their port. -/
structure Mountpoint where
  id : ℤ
  port : Option ℤ := none
  deriving DecidableEq

/-- The mountpoints of a running Janus. -/
abbrev Janus := List Mountpoint

/-- What Janus answers to a request for a mountpoint: an error of its own, if any, and
whether it lists its mountpoints when asked. -/
structure JanusAnswer where
  refusal : Option String := none
  lists : Bool := true

/-- The error for an id that is taken. -/
def alreadyExistsMessage : String := "streaming plugin error 456: already exists"

/-- `create_mountpoint`. -/
def Janus.create (mp : Mountpoint) (answer : JanusAnswer) (janus : Janus) : Except String Janus :=
  match answer.refusal with
  | some message => .error message
  | none =>
      if mp.id ∈ janus.map Mountpoint.id then .error alreadyExistsMessage else .ok (janus ++ [mp])

/-- `ProvisionStatus`. -/
inductive ProvisionStatus
  | created | existing | conflict | failed
  deriving DecidableEq

/-- `ProvisionOutcome`. -/
structure ProvisionOutcome where
  status : ProvisionStatus
  mountpointId : ℤ
  iface : String
  detail : String := ""

/-- `needle in text` on characters. -/
def containsText (needle text : String) : Bool := needle.toList <:+: text.toList

/-- `is_already_exists`. -/
def isAlreadyExists (message : String) : Bool :=
  let m := message.toLower
  containsText "already exists" m || (containsText "exist" m && containsText "456" m)

/-- `_reconcile_existing`: a mountpoint on another port is a conflict. -/
def reconcileExisting (binding : StreamBinding) (detail : String) (answer : JanusAnswer)
    (janus : Janus) : ProvisionOutcome :=
  let outcome : ProvisionOutcome :=
    { status := .existing, mountpointId := binding.janus.mountpointId
      iface := binding.janus.rtpIface, detail := detail }
  if answer.lists then
    match (janus.find? fun mp => mp.id = binding.janus.mountpointId).bind Mountpoint.port with
    | some port =>
        if port ≠ binding.transport.rtpPort then
          { outcome with
            status := .conflict
            detail := "mountpoint " ++ toString binding.janus.mountpointId ++ " exists on port " ++
              toString port ++ ", binding wants " ++ toString binding.transport.rtpPort }
        else outcome
    | none => outcome
  else outcome

/-- `ensure_janus`. -/
def ensureJanus (binding : StreamBinding) (answer : JanusAnswer) (janus : Janus) :
    ProvisionOutcome × Janus :=
  match janus.create { id := binding.janus.mountpointId, port := binding.transport.rtpPort }
      answer with
  | .ok janus' =>
      ({ status := .created, mountpointId := binding.janus.mountpointId
         iface := binding.janus.rtpIface }, janus')
  | .error message =>
      if isAlreadyExists message then (reconcileExisting binding message answer janus, janus)
      else
        ({ status := .failed, mountpointId := binding.janus.mountpointId
           iface := binding.janus.rtpIface, detail := message }, janus)

/-! ## The drift report -/

/-- The nodes under maintenance. -/
def maintenanceNodeIds (nodes : Dict NodeEntry) : List String :=
  (nodes.toList.filter fun entry => entry.2.maintenance).map Prod.fst

/-- The classifications of a remote binding. -/
inductive DriftClass
  | inSync | missingJanusMountpoint | staleRtp | stoppedByOperator
  deriving DecidableEq

/-- `_is_operator_stopped`. -/
def isOperatorStopped (b : StreamBinding) (maintenance : List String) : Bool :=
  !b.fdir.enabled || b.status = .configuredOffline || b.nodeId ∈ maintenance

/-- One line of the report. -/
structure DriftItem where
  bindingId : String
  binding : StreamBinding
  mountpointPresent : Bool
  videoAgeMs : Option ℤ := none
  classification : DriftClass

/-- The classification of a remote binding, with the age of its video where it was
read. -/
def classify (live : List ℤ) (rtpAge : ℤ → Option ℤ) (staleMs : ℤ) (maintenance : List String)
    (b : StreamBinding) : Option ℤ × DriftClass :=
  if isOperatorStopped b maintenance then (none, .stoppedByOperator)
  else if b.janus.mountpointId ∉ live then (none, .missingJanusMountpoint)
  else
    match rtpAge b.janus.mountpointId with
    | none => (none, .staleRtp)
    | some age => (some age, if age > staleMs then .staleRtp else .inSync)

/-- The body of the loop of `compute_drift`. -/
def driftItem (live : List ℤ) (rtpAge : ℤ → Option ℤ) (staleMs : ℤ) (maintenance : List String)
    (bindingId : String) (b : StreamBinding) : DriftItem where
  bindingId := bindingId
  binding := b
  mountpointPresent := b.janus.mountpointId ∈ live
  videoAgeMs := (classify live rtpAge staleMs maintenance b).1
  classification := (classify live rtpAge staleMs maintenance b).2

/-- `compute_drift`: the classified remote bindings, the mountpoints of the remote range
that belong to none of them, and whether any of it is drift. -/
structure DriftReport where
  items : List DriftItem
  unexpected : List ℤ
  drift : Bool

@[inherit_doc DriftReport]
def computeDrift (bindings : List (String × StreamBinding)) (live : List ℤ)
    (rtpAge : ℤ → Option ℤ) (staleMs : ℤ) (maintenance : List String) : DriftReport :=
  let remote := bindings.filter fun entry => entry.2.mode = .remoteProducer
  let items := remote.map fun entry =>
    driftItem live rtpAge staleMs maintenance entry.1 entry.2
  let known := remote.map fun entry => entry.2.janus.mountpointId
  let unexpected := (live.dedup.filter fun m =>
    TopologyState.remoteMpMin ≤ m ∧ m ∉ known).mergeSort fun m n => m ≤ n
  { items := items
    unexpected := unexpected
    drift := !unexpected.isEmpty ||
      items.any fun item =>
        item.classification = .missingJanusMountpoint || item.classification = .staleRtp }

/-! ## Sweeps -/

/-- What a sweep does about one binding, decided when it started. -/
inductive SweepItem
  | skip
  | present
  | refuse
  | ensure (binding : StreamBinding)

/-- A sweep in progress: what is left to do, and its counters. -/
structure Sweep where
  pending : List SweepItem
  created : ℕ := 0
  existing : ℕ := 0
  failed : ℕ := 0
  skipped : ℕ := 0

/-- The decision of `reconcile_janus` about one remote binding. -/
def sweepItem (b : StreamBinding) : SweepItem :=
  if !b.desiredUp then .skip
  else if b.janus.mountpointId < TopologyState.remoteMpMin then .skip
  else .ensure b

/-- `reconcile_janus` after its read of the store. -/
def reconcileJanus (bindings : List (String × StreamBinding)) : Sweep where
  pending := (bindings.filter fun entry => entry.2.mode = .remoteProducer).map fun entry =>
    sweepItem entry.2

/-- The decision of `run_janus_reconcile_once` about one line of the drift report. -/
def runOnceItem (item : DriftItem) : SweepItem :=
  match item.classification with
  | .stoppedByOperator => .skip
  | .inSync => .present
  | .staleRtp => .present
  | .missingJanusMountpoint =>
      if item.binding.janus.mountpointId < TopologyState.remoteMpMin then .refuse
      else .ensure item.binding

/-- `run_janus_reconcile_once` after its reads of the store and of Janus. -/
def runJanusReconcileOnce (bindings : List (String × StreamBinding)) (live : List ℤ)
    (rtpAge : ℤ → Option ℤ) (maintenance : List String) : Sweep where
  pending := (computeDrift bindings live rtpAge 4000 maintenance).items.map runOnceItem

/-- Count an outcome. -/
def Sweep.count (sweep : Sweep) (status : ProvisionStatus) : Sweep :=
  match status with
  | .created => { sweep with created := sweep.created + 1 }
  | .existing => { sweep with existing := sweep.existing + 1 }
  | .conflict => { sweep with failed := sweep.failed + 1 }
  | .failed => { sweep with failed := sweep.failed + 1 }

/-- One iteration of a sweep: the mountpoint it created, if it did. -/
def Sweep.step (answer : JanusAnswer) (janus : Janus) (sweep : Sweep) :
    Sweep × Janus × Option ℤ :=
  match sweep.pending with
  | [] => (sweep, janus, none)
  | .skip :: rest => ({ sweep with pending := rest, skipped := sweep.skipped + 1 }, janus, none)
  | .present :: rest =>
      ({ sweep with pending := rest, existing := sweep.existing + 1 }, janus, none)
  | .refuse :: rest => ({ sweep with pending := rest, failed := sweep.failed + 1 }, janus, none)
  | .ensure b :: rest =>
      let (outcome, janus') := ensureJanus b answer janus
      ({ sweep with pending := rest }.count outcome.status, janus',
        if outcome.status = .created then some b.janus.mountpointId else none)

/-! ## What sweeps touch -/

/-- The binding is one the sweep has still to ensure. -/
def Sweep.Targets (sweep : Sweep) (b : StreamBinding) : Prop := .ensure b ∈ sweep.pending

@[simp] theorem Sweep.pending_count (sweep : Sweep) (status : ProvisionStatus) :
    (sweep.count status).pending = sweep.pending := by
  cases status with
  | created | existing | conflict | failed => rfl

/-- A step takes one item off the list, and creates only the mountpoint of a target. -/
theorem Sweep.step_spec (answer : JanusAnswer) (janus : Janus) (sweep : Sweep) :
    (sweep.step answer janus).1.pending = sweep.pending.tail ∧
      ∀ mp, (sweep.step answer janus).2.2 = some mp →
        ∃ b, sweep.Targets b ∧ b.janus.mountpointId = mp := by
  unfold step Targets
  split
  · next hpending => simp [hpending]
  · next rest hpending => simp [hpending]
  · next rest hpending => simp [hpending]
  · next rest hpending => simp [hpending]
  · next b rest hpending =>
      simp only [hpending, pending_count, List.tail_cons, true_and]
      intro mp hmp
      split at hmp
      · cases hmp
        exact ⟨b, List.mem_cons_self, rfl⟩
      · cases hmp

theorem sweepItem_eq_ensure {b b' : StreamBinding} (h : sweepItem b = .ensure b') :
    b' = b ∧ b.desiredUp = true := by
  unfold sweepItem at h
  split at h
  · cases h
  · next hup =>
      split at h
      · cases h
      · cases h
        exact ⟨rfl, by simpa using hup⟩

/-- `reconcile_janus` ensures remote bindings that are wanted up. -/
theorem targets_reconcileJanus {bindings : List (String × StreamBinding)} {b : StreamBinding}
    (h : (reconcileJanus bindings).Targets b) :
    ∃ key, (key, b) ∈ bindings ∧ b.mode = .remoteProducer ∧ b.desiredUp = true := by
  obtain ⟨⟨key, b'⟩, hmem, hitem⟩ := List.mem_map.mp h
  obtain ⟨hlisted, hmode⟩ := List.mem_filter.mp hmem
  obtain ⟨rfl, hup⟩ := sweepItem_eq_ensure hitem
  exact ⟨key, hlisted, by simpa using hmode, hup⟩

theorem runOnceItem_eq_ensure {item : DriftItem} {b : StreamBinding}
    (h : runOnceItem item = .ensure b) :
    b = item.binding ∧ item.classification = .missingJanusMountpoint := by
  unfold runOnceItem at h
  split at h
  · cases h
  · cases h
  · cases h
  · next hclass =>
      split at h
      · cases h
      · cases h
        exact ⟨rfl, hclass⟩

/-- A mountpoint is missing when its binding is not taken for stopped and Janus does not
list it. -/
theorem classify_missing {live : List ℤ} {rtpAge : ℤ → Option ℤ} {staleMs : ℤ}
    {maintenance : List String} {b : StreamBinding}
    (h : (classify live rtpAge staleMs maintenance b).2 = .missingJanusMountpoint) :
    isOperatorStopped b maintenance = false ∧ b.janus.mountpointId ∉ live := by
  unfold classify at h
  split at h
  · cases h
  · next hstopped =>
      split at h
      · next hmissing => exact ⟨by simpa using hstopped, hmissing⟩
      · split at h
        · cases h
        · simp only at h
          split at h
          · cases h
          · cases h

/-- `run_janus_reconcile_once` ensures remote bindings that the report does not take for
stopped and whose mountpoint is missing. -/
theorem targets_runJanusReconcileOnce {bindings : List (String × StreamBinding)}
    {live : List ℤ} {rtpAge : ℤ → Option ℤ} {maintenance : List String} {b : StreamBinding}
    (h : (runJanusReconcileOnce bindings live rtpAge maintenance).Targets b) :
    ∃ key, (key, b) ∈ bindings ∧ b.mode = .remoteProducer ∧
      isOperatorStopped b maintenance = false ∧ b.janus.mountpointId ∉ live := by
  obtain ⟨item, hmem, hitem⟩ := List.mem_map.mp h
  obtain ⟨⟨key, b'⟩, hentry, rfl⟩ := List.mem_map.mp hmem
  obtain ⟨hlisted, hmode⟩ := List.mem_filter.mp hentry
  obtain ⟨hb, hclass⟩ := runOnceItem_eq_ensure hitem
  subst hb
  exact ⟨key, hlisted, by simpa using hmode, classify_missing hclass⟩

end CameraStack.Streams
