/-
# Creating and re-activating bindings

A stream is a sensor of a node.  Its binding id is derived from the node: from the
camera serial once a probe has recorded it, from the node id before.  Activation
looks its binding up by that id and reuses the mountpoint and the port it finds, so
the id decides whether a stream keeps its slot or gets a second one.

`KeyedAlike` is the condition under which the lookup finds what is stored: the rows
of the stream carry the id the activation computes.  A run that meets it at every
creation and activation never stores two bindings of one stream.
-/

import CameraStack.Topology.FreeList

namespace CameraStack.Topology

open CameraStack.Lib

/-! ## The gateway binder -/

/-- `key.rsplit(":", 1)[-1]`. -/
def sensorOfKey (key : String) : String :=
  String.ofList ((key.toList.reverse.takeWhile (· ≠ ':')).reverse)

/-- `_project_local`: an allocation seen as a binding of the local node. -/
def projectLocal (key : String) (a : Allocation) : StreamBinding where
  bindingId := key
  nodeId := localNodeId
  sensor := sensorOfKey key
  mode := .localProducer
  transport := { rtpPort := a.rtpPort }
  janus := { mountpointId := a.mpId, rtpIface := loopback }
  status := if a.desiredActive then .online else .configuredOffline

/-- `get_binding`: stored rows win over local projections. -/
def TopologyState.getBinding (bindingId : String) (alloc : Allocator) (t : TopologyState) :
    Option StreamBinding :=
  t.bindings[bindingId]? <|> alloc[bindingId]?.map (projectLocal bindingId)

/-- One activation: `bind(node, sensor)` of `make_gateway_binder`, with the answer
of `ensure_janus`. -/
structure BindRequest where
  node : NodeEntry
  sensor : String
  gatewayHost : String
  payloadType : ℤ := 96
  codec : String := "h264"
  janusMountId : ℤ := 1305
  janusOk : Bool := true

/-- The input of `create_binding`. -/
structure CreateBindingCommand where
  nodeId : String
  sensor : String
  mountpointId : Option ℤ := none
  rtpPort : Option ℤ := none
  payloadType : ℤ := 96
  codec : String := "h264"
  rtpIface : String

/-- Why a creation or an activation raised. -/
inductive BindError
  | localNotCreatable
  | nodeNotFound (nodeId : String)
  | allocation (e : StoreError)
  | invalid (e : StoreError)
  | janus
  deriving DecidableEq

/-- What an activation returns. -/
structure BindOutcome where
  bindingId : String
  rtpPort : ℤ
  deriving DecidableEq

/-- The binding an activation stores. -/
def BindRequest.binding (req : BindRequest) (slot : Slot) : StreamBinding where
  bindingId := remoteBindingId req.node req.sensor
  nodeId := req.node.nodeId
  sensor := req.sensor
  mode := .remoteProducer
  transport :=
    { rtpPort := slot.rtpPort, payloadType := req.payloadType, codec := req.codec }
  janus := { mountpointId := slot.mountpointId, rtpIface := req.gatewayHost }

namespace TopologyState

/-- A fresh slot from the node's windows. -/
def freshSlot (nodeId : String) (alloc : Allocator) (t : TopologyState) :
    Except StoreError Slot :=
  match t.allocateMountpoint nodeId alloc with
  | .error e => .error e
  | .ok mp =>
      match t.allocatePort nodeId alloc with
      | .error e => .error e
      | .ok port => .ok { mountpointId := mp, rtpPort := port }

/-- The slot an activation uses: that of the remote binding under the id, if there
is one. -/
def activationSlot (bindingId nodeId : String) (alloc : Allocator) (t : TopologyState) :
    Except StoreError Slot :=
  match t.getBinding bindingId alloc with
  | some existing =>
      if existing.mode = .remoteProducer then .ok existing.slot else t.freshSlot nodeId alloc
  | none => t.freshSlot nodeId alloc

/-- `bind`: a mountpoint that Janus refuses leaves the stored binding behind. -/
def bind (req : BindRequest) (alloc : Allocator) (t : TopologyState) :
    TopologyState × Except BindError BindOutcome :=
  let bindingId := remoteBindingId req.node req.sensor
  match t.activationSlot bindingId req.node.nodeId alloc with
  | .error e => (t, .error (.allocation e))
  | .ok slot =>
      match t.upsertBinding (req.binding slot) alloc req.janusMountId with
      | .error e => (t, .error (.invalid e))
      | .ok (_, t') =>
          if req.janusOk then
            (written t' (t'.setStatus bindingId .waitingForRtp),
              .ok { bindingId := bindingId, rtpPort := slot.rtpPort })
          else (t', .error .janus)

/-- `cmd.x or allocate()`: zero counts as absent. -/
def chosenOr (given : Option ℤ) (allocated : Except StoreError ℤ) : Except StoreError ℤ :=
  match given with
  | some n => if n = 0 then allocated else .ok n
  | none => allocated

/-- `create_binding`. -/
def createBinding (cmd : CreateBindingCommand) (alloc : Allocator) (janusMountId : ℤ)
    (t : TopologyState) : Except BindError (StreamBinding × TopologyState) :=
  if cmd.nodeId = localNodeId then .error .localNotCreatable
  else
    match t.getNode cmd.nodeId with
    | none => .error (.nodeNotFound cmd.nodeId)
    | some node =>
        match chosenOr cmd.mountpointId (t.allocateMountpoint cmd.nodeId alloc) with
        | .error e => .error (.allocation e)
        | .ok mp =>
            match chosenOr cmd.rtpPort (t.allocatePort cmd.nodeId alloc) with
            | .error e => .error (.allocation e)
            | .ok port =>
                let binding : StreamBinding :=
                  { bindingId := remoteBindingId node cmd.sensor
                    nodeId := cmd.nodeId
                    sensor := cmd.sensor
                    mode := .remoteProducer
                    transport :=
                      { rtpPort := port, payloadType := cmd.payloadType, codec := cmd.codec }
                    janus := { mountpointId := mp, rtpIface := cmd.rtpIface } }
                match t.upsertBinding binding alloc janusMountId with
                | .error e => .error (.invalid e)
                | .ok result => .ok result

end TopologyState

/-! ## Runs -/

/-- The operations of a run: creations, activations, and every store operation that
does not store a binding itself. -/
inductive BinderOp
  | createBinding (cmd : CreateBindingCommand) (janusMountId : ℤ)
  | bind (req : BindRequest)
  | store (op : StoreOp) (h : op.writesBinding = false)

/-- The stores under creations, activations and store operations. -/
def binderMachine (lan : LanConfig) : Machine Stores BinderOp Empty where
  step s op :=
    match op with
    | .createBinding cmd janusMountId =>
        (s.setTopology (written s.topology (s.topology.createBinding cmd s.alloc janusMountId)),
          [])
    | .bind req => (s.setTopology (s.topology.bind req s.alloc).1, [])
    | .store op _ => (s.apply lan op, [])

/-- The stream a binding serves. -/
def StreamBinding.stream (b : StreamBinding) : String × String := (b.nodeId, b.sensor)

/-- The stored rows of a stream, with their keys. -/
def Stores.rowsFor (s : Stores) (nodeId sensor : String) : List (String × StreamBinding) :=
  s.topology.bindings.toList.filter fun entry => entry.2.stream = (nodeId, sensor)

/-- Every stored row of a stream carries the given id. -/
def Stores.KeyedBy (s : Stores) (nodeId sensor bindingId : String) : Prop :=
  ∀ entry ∈ s.rowsFor nodeId sensor, entry.1 = bindingId

instance (s : Stores) (nodeId sensor bindingId : String) :
    Decidable (s.KeyedBy nodeId sensor bindingId) :=
  inferInstanceAs (Decidable (∀ entry ∈ _, _))

/-- What is stored of a stream carries the id that its creation or activation
computes from the node. -/
def KeyedAlike (s : Stores) : BinderOp → Prop
  | .createBinding cmd _ =>
      ∀ node ∈ s.topology.getNode cmd.nodeId,
        s.KeyedBy cmd.nodeId cmd.sensor (remoteBindingId node cmd.sensor)
  | .bind req => s.KeyedBy req.node.nodeId req.sensor (remoteBindingId req.node req.sensor)
  | .store _ _ => True

/-! ## One binding per stream -/

/-- The invariant: stored rows are remote, and no two of them serve one stream. -/
abbrev Stores.OneEach (s : Stores) : Prop :=
  Dict.Sound (fun b : StreamBinding => (b.stream, b.mode)) (fun r => r.2 = .remoteProducer)
    (fun r r' => r.1 ≠ r'.1) s.topology.bindings

theorem stable_stream :
    TopologyState.Stable fun b : StreamBinding => (b.stream, b.mode) :=
  ⟨fun _ _ => rfl, fun _ _ => rfl, fun _ _ => rfl, fun _ _ => rfl⟩

namespace Stores

variable {s : Stores}

theorem mem_rowsFor {nodeId sensor key : String} {b : StreamBinding} :
    (key, b) ∈ s.rowsFor nodeId sensor ↔
      s.topology.bindings[key]? = some b ∧ b.stream = (nodeId, sensor) := by
  simp [rowsFor, Std.ExtTreeMap.mem_toList_iff_getElem?_eq_some]

/-- A stored row is the only one of its stream. -/
theorem OneEach.rowsFor_eq (h : s.OneEach) {nodeId sensor key : String} {b : StreamBinding}
    (hb : s.topology.bindings[key]? = some b) (hstream : b.stream = (nodeId, sensor)) :
    s.rowsFor nodeId sensor = [(key, b)] := by
  have hpairwise : (s.rowsFor nodeId sensor).Pairwise fun x y => x.2.stream ≠ y.2.stream :=
    h.apart.pairwise_toList.filter _
  have hmem : (key, b) ∈ s.rowsFor nodeId sensor := mem_rowsFor.mpr ⟨hb, hstream⟩
  have hsame : ∀ x ∈ s.rowsFor nodeId sensor, x.2.stream = (nodeId, sensor) :=
    fun x hx => (mem_rowsFor.mp (show (x.1, x.2) ∈ _ from hx)).2
  cases hrows : s.rowsFor nodeId sensor with
  | nil => simp [hrows] at hmem
  | cons x rest =>
      rw [hrows] at hpairwise hmem hsame
      cases rest with
      | nil => rw [List.mem_singleton.mp hmem]
      | cons y rest =>
          have hne := (List.pairwise_cons.mp hpairwise).1 y (by simp)
          exact absurd ((hsame x (by simp)).trans (hsame y (by simp)).symm) hne

/-- At most one row of each stream. -/
theorem OneEach.length_rowsFor_le (h : s.OneEach) (nodeId sensor : String) :
    (s.rowsFor nodeId sensor).length ≤ 1 := by
  cases hrows : s.rowsFor nodeId sensor with
  | nil => simp
  | cons x rest =>
      have hx := mem_rowsFor.mp (show (x.1, x.2) ∈ s.rowsFor nodeId sensor by simp [hrows])
      have hone := h.rowsFor_eq hx.1 hx.2
      rw [← hrows, hone]
      simp

/-- Storing a binding whose stream is keyed alike keeps the invariant. -/
theorem OneEach.move_upsert {binding b : StreamBinding} {janusMountId : ℤ} {t' : TopologyState}
    (hkeyed : s.KeyedBy binding.nodeId binding.sensor binding.bindingId)
    (hok : s.topology.upsertBinding binding s.alloc janusMountId = .ok (b, t')) :
    Dict.Move (fun b : StreamBinding => (b.stream, b.mode)) (fun r => r.2 = .remoteProducer)
      (fun r r' => r.1 ≠ r'.1) s.topology.bindings t'.bindings := by
  obtain ⟨hvalid, rfl⟩ := TopologyState.upsertBinding_ok hok
  apply Dict.Move.put _ _ _ (TopologyState.validateRemote_ok hvalid).1
  intro k w hne hw hstream
  exact hne (hkeyed (k, w) (mem_rowsFor.mpr ⟨hw, hstream.symm⟩))

/-- The row an activation leaves behind, and the steps that lead to it. -/
theorem bind_cases (req : BindRequest) (s : Stores) :
    (s.topology.bind req s.alloc).1 = s.topology ∨
      ∃ slot b t, s.topology.activationSlot (remoteBindingId req.node req.sensor) req.node.nodeId
          s.alloc = .ok slot ∧
        s.topology.upsertBinding (req.binding slot) s.alloc req.janusMountId = .ok (b, t) ∧
        TopologyState.Steps (fun b : StreamBinding => (b.stream, b.mode))
          (fun r => r.2 = .remoteProducer) (fun r r' => r.1 ≠ r'.1) t.bindings
          (s.topology.bind req s.alloc).1.bindings ∧
        ∃ row, (s.topology.bind req s.alloc).1.bindings[remoteBindingId req.node req.sensor]? =
            some row ∧ row.slot = slot ∧ row.stream = (req.node.nodeId, req.sensor) := by
  cases hslot : s.topology.activationSlot (remoteBindingId req.node req.sensor) req.node.nodeId
      s.alloc with
  | error e =>
      left
      simp only [TopologyState.bind, hslot]
  | ok slot =>
      cases hupsert : s.topology.upsertBinding (req.binding slot) s.alloc req.janusMountId with
      | error e =>
          left
          simp only [TopologyState.bind, hslot, hupsert]
      | ok result =>
          rcases result with ⟨b, t⟩
          have hstored : t.bindings[remoteBindingId req.node req.sensor]? =
              some (req.binding slot) := by
            rw [(TopologyState.upsertBinding_ok hupsert).2]
            exact (Dict.getElem?_insert _ _ _ _).trans (if_pos rfl)
          right
          refine ⟨slot, b, t, rfl, hupsert, ?_⟩
          by_cases hjanus : req.janusOk = true
          · simp only [TopologyState.bind, hslot, hupsert, hjanus, if_true]
            constructor
            · apply steps_written
              intro b' t' ht'
              exact TopologyState.steps_updateBinding (fun b => stable_stream.status b _) ht'
            · refine ⟨{ req.binding slot with status := .waitingForRtp }, ?_, rfl, rfl⟩
              simp only [TopologyState.setStatus, TopologyState.updateBinding, hstored, written]
              rw [Dict.getElem?_insert, if_pos rfl]
          · simp only [TopologyState.bind, hslot, hupsert, hjanus, Bool.false_eq_true, if_false]
            exact ⟨.refl, req.binding slot, hstored, rfl, rfl⟩

/-- A created binding is stored under the id of its node. -/
theorem createBinding_ok {cmd : CreateBindingCommand} {janusMountId : ℤ} {b : StreamBinding}
    {t' : TopologyState}
    (h : s.topology.createBinding cmd s.alloc janusMountId = .ok (b, t')) :
    ∃ node binding, s.topology.getNode cmd.nodeId = some node ∧
      binding.nodeId = cmd.nodeId ∧ binding.sensor = cmd.sensor ∧
      binding.bindingId = remoteBindingId node cmd.sensor ∧
      s.topology.upsertBinding binding s.alloc janusMountId = .ok (b, t') := by
  unfold TopologyState.createBinding at h
  split at h
  · cases h
  · split at h
    · cases h
    · next node hnode =>
        split at h
        · cases h
        · split at h
          · cases h
          · simp only at h
            split at h
            · cases h
            · next result hupsert =>
                cases h
                exact ⟨node, _, hnode, rfl, rfl, rfl, hupsert⟩

/-- Creations, activations and store operations keep one row per stream, as long as
they find the stream keyed alike. -/
theorem OneEach.next (lan : LanConfig) (h : s.OneEach) {op : BinderOp} (hkeyed : KeyedAlike s op) :
    ((binderMachine lan).next s op).OneEach := by
  have symm : ∀ r r' : (String × String) × StreamMode, r.1 ≠ r'.1 → r'.1 ≠ r.1 :=
    fun _ _ => Ne.symm
  cases op with
  | store op hop => exact Dict.sound_of_moves symm (steps_bindings stable_stream lan hop) h
  | bind req =>
      rcases bind_cases req s with hsame | ⟨slot, b, t, -, hupsert, hsteps, -⟩
      · have hnext : ((binderMachine lan).next s (.bind req)).topology = s.topology := hsame
        simpa only [OneEach, hnext] using h
      · have hrow : s.KeyedBy (req.binding slot).nodeId (req.binding slot).sensor
            (req.binding slot).bindingId := hkeyed
        exact Dict.sound_of_moves symm (.head (OneEach.move_upsert hrow hupsert) hsteps) h
  | createBinding cmd janusMountId =>
      cases hresult : s.topology.createBinding cmd s.alloc janusMountId with
      | error e =>
          have hnext : ((binderMachine lan).next s (.createBinding cmd janusMountId)).topology =
              s.topology := by simp [Machine.next, binderMachine, hresult, written]
          simpa only [OneEach, hnext] using h
      | ok result =>
          rcases result with ⟨b, t⟩
          have hnext : ((binderMachine lan).next s (.createBinding cmd janusMountId)).topology =
              t := by simp [Machine.next, binderMachine, hresult, written]
          obtain ⟨node, binding, hnode, hid, hsensor, hbid, hupsert⟩ := createBinding_ok hresult
          have hrow : s.KeyedBy binding.nodeId binding.sensor binding.bindingId := by
            rw [hid, hsensor, hbid]
            exact hkeyed node hnode
          simpa only [OneEach, hnext] using
            Dict.sound_of_moves symm (.single (OneEach.move_upsert hrow hupsert)) h

/-- Re-activation: a stream whose one row carries the id of the activation keeps its
mountpoint and its port. -/
theorem OneEach.keepsSlot (lan : LanConfig) (h : s.OneEach) {req : BindRequest}
    (hkeyed : KeyedAlike s (.bind req)) {entry : String × StreamBinding}
    (hrows : s.rowsFor req.node.nodeId req.sensor = [entry]) :
    ∃ entry', ((binderMachine lan).next s (.bind req)).rowsFor req.node.nodeId req.sensor =
      [entry'] ∧ entry'.2.slot = entry.2.slot := by
  have hmem : (entry.1, entry.2) ∈ s.rowsFor req.node.nodeId req.sensor := by simp [hrows]
  have hkey : entry.1 = remoteBindingId req.node req.sensor := hkeyed entry hmem
  have hrow := mem_rowsFor.mp hmem
  rcases bind_cases req s with hsame | ⟨slot, b, t, hslot, -, -, row, hnew, hrowSlot, hstream⟩
  · have hnext : ((binderMachine lan).next s (.bind req)).topology = s.topology := hsame
    refine ⟨entry, ?_, rfl⟩
    rw [rowsFor, hnext]
    exact hrows
  · refine ⟨(remoteBindingId req.node req.sensor, row), ?_, ?_⟩
    · exact (h.next lan hkeyed).rowsFor_eq hnew hstream
    · have hremote : entry.2.mode = .remoteProducer := h.each entry.1 entry.2 hrow.1
      rw [hkey] at hrow
      have hfound : s.topology.getBinding (remoteBindingId req.node req.sensor) s.alloc =
          some entry.2 := by simp [TopologyState.getBinding, hrow.1]
      simp only [TopologyState.activationSlot, hfound, hremote, if_true, Except.ok.injEq] at hslot
      exact hrowSlot.trans hslot.symm

end Stores

/-- In every run whose creations and activations find what is stored of their stream
keyed by the id they compute, each stream has at most one stored binding, and an
activation of a stream that has one keeps its mountpoint id and RTP port. -/
theorem one_binding_per_stream (lan : LanConfig) (ops : List BinderOp)
    (hkeyed : (binderMachine lan).Along KeyedAlike {} ops) :
    (∀ nodeId sensor, (((binderMachine lan).run {} ops).rowsFor nodeId sensor).length ≤ 1) ∧
      (binderMachine lan).Along (fun s op => ∀ req entry, op = .bind req →
        s.rowsFor req.node.nodeId req.sensor = [entry] →
          ∃ entry', ((binderMachine lan).next s op).rowsFor req.node.nodeId req.sensor =
            [entry'] ∧ entry'.2.slot = entry.2.slot) {} ops := by
  have hempty : ({} : Stores).OneEach := Dict.sound_empty _ _ _
  constructor
  · intro nodeId sensor
    have hone : ((binderMachine lan).run {} ops).OneEach :=
      (binderMachine lan).run_invariant (I := Stores.OneEach)
        (fun s op h hk => h.next lan hk) hkeyed hempty
    exact hone.length_rowsFor_le nodeId sensor
  · apply (binderMachine lan).along_of_invariant (I := Stores.OneEach) (G := KeyedAlike) _ _
      hkeyed hempty
    · exact fun s op h hk => h.next lan hk
    · rintro s op h hk req entry rfl hrows
      exact h.keepsSlot lan hk hrows

/-! ## The probe in between -/

/-- A registered node before the probe, and after it has recorded a serial. -/
def exampleNode (serial : Option String) : NodeEntry where
  nodeId := "node-a"
  host := "192.168.1.20"
  role := "remote_producer"
  ordinal := some 0
  serial := serial
  agentToken := some "token"

/-- An activation of the color sensor of the example node. -/
def activateColor (serial : Option String) : BinderOp :=
  .bind { node := exampleNode serial, sensor := "color", gatewayHost := "192.168.1.10" }

/-- Register the node, activate, record the serial, and possibly migrate before the
next activation. -/
def probeBetween (migrate : Bool) : List BinderOp :=
  [.store (.upsertNode "node-a" "192.168.1.20" "remote_producer" "unknown" none none "token") rfl,
    activateColor none,
    .store (.setSerial "node-a" "1234") rfl] ++
  (if migrate then [.store .migrateRemoteBindingIds rfl] else []) ++
  [activateColor (some "1234")]

instance (s : Stores) (op : BinderOp) : Decidable (KeyedAlike s op) :=
  match op with
  | .createBinding cmd _ =>
      inferInstanceAs (Decidable (∀ node ∈ s.topology.getNode cmd.nodeId,
        s.KeyedBy cmd.nodeId cmd.sensor (remoteBindingId node cmd.sensor)))
  | .bind req =>
      inferInstanceAs (Decidable
        (s.KeyedBy req.node.nodeId req.sensor (remoteBindingId req.node req.sensor)))
  | .store _ _ => isTrue trivial

/-- With the migration in between, the stream keeps its one binding. -/
theorem migrated_probe_keeps_binding :
    (((binderMachine {}).run {} (probeBetween true)).rowsFor "node-a" "color").length ≤ 1 :=
  (one_binding_per_stream {} (probeBetween true) (by decide +kernel)).1 "node-a" "color"

/-- Without it, the second activation does not find the first one's binding and
stores a second one on another mountpoint and another port. -/
theorem probe_duplicates_binding :
    let s := (binderMachine {}).run {} (probeBetween false)
    s.topology.getNode "node-a" = some (exampleNode (some "1234")) ∧
      ¬ (s.rowsFor "node-a" "color").length ≤ 1 ∧
      (s.rowsFor "node-a" "color").map (fun entry => (entry.1, entry.2.slot)) =
        [("1234:color", ⟨2001, 5102⟩), ("node-a:color", ⟨2000, 5100⟩)] := by
  decide +kernel

end CameraStack.Topology
