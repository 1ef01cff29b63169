/-
# The topology store

One JSON file holds the remote nodes and the remote bindings; a second file, with
tighter permissions, holds the nodes' tokens.  Every operation runs under the
store's lock on a freshly loaded state and writes the whole state back; an
operation that raises writes nothing.  Operations are functions of the state and
of whatever they draw from outside (a fresh node id, a fresh token).

Remote slots lie strictly above the local pools and are checked against the union
of both stores, which makes every binding operation a move of a store of slots.
-/

import CameraStack.Lib.Text
import CameraStack.Topology.Allocator

namespace CameraStack.Topology

open CameraStack.Lib

/-- The two files: nodes and bindings in one, tokens in the other. -/
structure TopologyState where
  nodes : Dict NodeRow := ∅
  bindings : Dict StreamBinding := ∅
  secrets : Dict String := ∅

/-- Why a topology operation raised, with the values its message mentions. -/
inductive StoreError
  | localNodeImplicit
  | unknownNode (nodeId : String)
  | hostNotIpv4 (host : String)
  | hostNotNodeAddress (host : String)
  | hostIsGateway (host : String)
  | hostOutsideLan (host : String)
  | localBindingNotStored
  | bindingIdNotValid (bindingId : String) (valid : List String)
  | nodeHostNotLan (host : String)
  | ifaceNotLan (iface : String)
  | rtpPortOdd (port : ℤ)
  | rtpPortBelowPool (port : ℤ)
  | mountpointBelowPool (mp : ℤ)
  | mountpointIsWatchdogTarget (mp : ℤ)
  | mountpointInUse (mp : ℤ)
  | portPairInUse (port : ℤ)
  | noStoredBinding (bindingId : String)
  | nodeHasNoWindow (nodeId : String)
  | mountpointWindowExhausted (nodeId : String) (low : ℤ)
  | portWindowExhausted (nodeId : String) (low : ℤ)
  deriving DecidableEq

/-- The gateway's own address and the camera LAN, both optional. -/
structure LanConfig where
  gatewayLanIp : String := ""
  cameraLan : Option Ipv4Network := none

/-! ## Nodes -/

/-- `NodeEntry.from_raw`. -/
def NodeEntry.fromRow (nodeId : String) (row : NodeRow) : NodeEntry :=
  { row with nodeId := nodeId, agentToken := none }

namespace TopologyState

/-- `get_node`, with the token laid over the row. -/
def getNode (nodeId : String) (t : TopologyState) : Option NodeEntry :=
  if nodeId = localNodeId then some localNode
  else t.nodes[nodeId]?.map fun row =>
    { NodeEntry.fromRow nodeId row with agentToken := t.secrets[nodeId]? }

/-- `_mint_ordinal`: the lowest ordinal no node uses. -/
def mintOrdinal (t : TopologyState) : ℕ :=
  let used := t.nodes.toList.filterMap fun entry => entry.2.ordinal
  ((List.range (used.length + 1)).find? (· ∉ used)).getD used.length

/-- Write a node row and its token. -/
def putNode (entry : NodeEntry) (token : String) (t : TopologyState) : TopologyState :=
  { t with
    nodes := t.nodes.insert entry.nodeId entry.toNodeRow
    secrets := t.secrets.insert entry.nodeId token }

/-- `upsert_node`: keeps the ordinal, the token and the operator's state of a node
that is already there. -/
def upsertNode (nodeId host role reachability : String) (serial displayName : Option String)
    (mintedToken : String) (t : TopologyState) : Except StoreError (NodeEntry × TopologyState) :=
  if nodeId = localNodeId then .error .localNodeImplicit
  else
    let existing := t.nodes[nodeId]?
    let token := t.secrets[nodeId]?.getD mintedToken
    let entry : NodeEntry :=
      { nodeId := nodeId
        host := host
        role := role
        reachability := reachability
        ordinal := some ((existing.bind NodeRow.ordinal).getD t.mintOrdinal)
        serial := serial <|> existing.bind NodeRow.serial
        displayName := displayName <|> existing.bind NodeRow.displayName
        provisionState := existing.bind NodeRow.provisionState
        hostKey := existing.bind NodeRow.hostKey
        maintenance := (existing.map NodeRow.maintenance).getD false
        lastError := existing.bind NodeRow.lastError
        lastCheckedAt := existing.bind NodeRow.lastCheckedAt
        agentToken := some token }
    .ok (entry, t.putNode entry token)

/-- The address checks of `add_node_by_host` on the stripped host. -/
def checkNodeHost (lan : LanConfig) (host : String) : Except StoreError Unit :=
  match parseIpv4 host with
  | none => .error (.hostNotIpv4 host)
  | some ip =>
      if loopbackBlock.contains ip || unspecifiedBlock.contains ip || multicastBlock.contains ip ||
          reservedBlock.contains ip then
        .error (.hostNotNodeAddress host)
      else if lan.gatewayLanIp ≠ "" ∧ host = lan.gatewayLanIp then .error (.hostIsGateway host)
      else
        match lan.cameraLan with
        | none => .ok ()
        | some net => if net.contains ip then .ok () else .error (.hostOutsideLan host)

/-- `add_node_by_host`: the node that has the host already, or a new one. -/
def addNodeByHost (lan : LanConfig) (host role : String) (displayName : Option String)
    (mintedId mintedToken : String) (t : TopologyState) : Except StoreError (NodeEntry × TopologyState) :=
  let host := pyStrip host
  match checkNodeHost lan host with
  | .error e => .error e
  | .ok () =>
      match t.nodes.toList.find? fun entry => entry.2.host = host with
      | some (nodeId, row) =>
          .ok ({ NodeEntry.fromRow nodeId row with agentToken := t.secrets[nodeId]? }, t)
      | none =>
          let entry : NodeEntry :=
            { nodeId := mintedId
              host := host
              role := role
              ordinal := some t.mintOrdinal
              displayName := displayName
              agentToken := some mintedToken }
          .ok (entry, t.putNode entry mintedToken)

/-- The shape of the node mutators: change the row of a known node. -/
def updateNode (nodeId : String) (f : NodeRow → NodeRow) (t : TopologyState) :
    Except StoreError (NodeEntry × TopologyState) :=
  match t.nodes[nodeId]? with
  | none => .error (.unknownNode nodeId)
  | some row =>
      .ok (NodeEntry.fromRow nodeId (f row), { t with nodes := t.nodes.insert nodeId (f row) })

/-- `set_reachability`. -/
def setReachability (nodeId reachability : String) :=
  updateNode nodeId fun row => { row with reachability := reachability }

/-- `set_serial`. -/
def setSerial (nodeId serial : String) :=
  updateNode nodeId fun row => { row with serial := some serial }

/-- `set_provision_state`: a failed state records what went wrong, any other state
clears it. -/
def setProvisionState (nodeId provisionState : String) (detail : Option String) :=
  updateNode nodeId fun row =>
    { row with
      provisionState := some provisionState
      lastError :=
        if provisionState = "failed" then
          some ((((detail.filter (· ≠ "")) <|> row.lastError).getD "").take 300).toString
        else none }

/-- `touch_checked`. -/
def touchChecked (nodeId reachability : String) (now : ℚ) :=
  updateNode nodeId fun row =>
    { row with reachability := reachability, lastCheckedAt := some now }

/-- `set_maintenance`. -/
def setMaintenance (nodeId : String) (on : Bool) :=
  updateNode nodeId fun row => { row with maintenance := on }

/-- `set_host_key`. -/
def setHostKey (nodeId hostKey : String) :=
  updateNode nodeId fun row => { row with hostKey := some hostKey }

/-- `set_agent_token`: only the secret store changes. -/
def setAgentToken (nodeId token : String) (t : TopologyState) :
    Except StoreError (NodeEntry × TopologyState) :=
  match t.nodes[nodeId]? with
  | none => .error (.unknownNode nodeId)
  | some row =>
      .ok ({ NodeEntry.fromRow nodeId row with agentToken := some token },
        { t with secrets := t.secrets.insert nodeId token })

/-- `remove_node`: the row, every binding of the node and its token. -/
def removeNode (nodeId : String) (t : TopologyState) :
    Except StoreError ((Bool × List String) × TopologyState) :=
  if nodeId = localNodeId then .error .localNodeImplicit
  else
    let removed := t.bindings.toList.filter fun entry => entry.2.nodeId = nodeId
    .ok ((decide (nodeId ∈ t.nodes), removed.map Prod.fst),
      { nodes := t.nodes.erase nodeId
        bindings := t.bindings.filter fun _ b => b.nodeId ≠ nodeId
        secrets := t.secrets.erase nodeId })

/-! ## Bindings -/

/-- `REMOTE_MP_MIN`, `REMOTE_PORT_MIN` and the width of a node's windows. -/
def remoteMpMin : ℤ := 2000

@[inherit_doc remoteMpMin]
def remotePortMin : ℤ := 5100

@[inherit_doc remoteMpMin]
def nodeMpWindow : ℤ := 100

@[inherit_doc remoteMpMin]
def nodePortWindow : ℤ := 100

/-- `_used_sets`: the slots of a map of bindings and of the allocator. -/
def usedSlots (bindings : Dict StreamBinding) (alloc : Allocator) : List Slot :=
  (bindings.toList.map fun entry => entry.2.slot) ++ alloc.slots

/-- `_validate_remote`, check by check. -/
def validateRemote (binding : StreamBinding) (node : Option NodeEntry) (used : List Slot)
    (janusMountId : ℤ) : Except StoreError Unit :=
  if binding.mode ≠ .remoteProducer then .error .localBindingNotStored
  else
    match node with
    | none => .error (.unknownNode binding.nodeId)
    | some node =>
        let port := binding.transport.rtpPort
        let mp := binding.janus.mountpointId
        let nodeKeyed := binding.nodeId ++ ":" ++ binding.sensor
        let anchored := remoteBindingId node binding.sensor
        if binding.bindingId ≠ nodeKeyed ∧ binding.bindingId ≠ anchored then
          .error (.bindingIdNotValid binding.bindingId [nodeKeyed, anchored])
        else if !isLanAddress node.host then .error (.nodeHostNotLan node.host)
        else if !isLanAddress binding.janus.rtpIface then
          .error (.ifaceNotLan binding.janus.rtpIface)
        else if port % 2 ≠ 0 then .error (.rtpPortOdd port)
        else if port < remotePortMin then .error (.rtpPortBelowPool port)
        else if mp < remoteMpMin then .error (.mountpointBelowPool mp)
        else if mp = janusMountId then .error (.mountpointIsWatchdogTarget mp)
        else if mp ∈ used.map Slot.mountpointId then .error (.mountpointInUse mp)
        else if port ∈ reservedPorts used ∨ port + 1 ∈ reservedPorts used then
          .error (.portPairInUse port)
        else .ok ()

/-- `upsert_binding`: validated against everything but the row it replaces. -/
def upsertBinding (binding : StreamBinding) (alloc : Allocator) (janusMountId : ℤ)
    (t : TopologyState) : Except StoreError (StreamBinding × TopologyState) :=
  let others := t.bindings.erase binding.bindingId
  let node := t.nodes[binding.nodeId]?.map (NodeEntry.fromRow binding.nodeId)
  match validateRemote binding node (usedSlots others alloc) janusMountId with
  | .error e => .error e
  | .ok () => .ok (binding, { t with bindings := t.bindings.insert binding.bindingId binding })

/-- `remove_binding`. -/
def removeBinding (bindingId : String) (t : TopologyState) : Bool × TopologyState :=
  if bindingId ∈ t.bindings then (true, { t with bindings := t.bindings.erase bindingId })
  else (false, t)

/-- The body of the loop of `migrate_remote_binding_ids`: rekey one row to the serial
of its node, unless the target id is taken. -/
def migrateRow (nodes : Dict NodeRow) (acc : Dict StreamBinding × ℕ) (oldId : String) :
    Dict StreamBinding × ℕ :=
  match acc.1[oldId]? with
  | none => acc
  | some b =>
      if b.mode ≠ .remoteProducer then acc
      else
        match nodes[b.nodeId]?.bind NodeRow.serial with
        | none => acc
        | some serial =>
            let newId := serial ++ ":" ++ b.sensor
            if serial = "" ∨ newId = oldId ∨ newId ∈ acc.1 then acc
            else ((acc.1.erase oldId).insert newId { b with bindingId := newId }, acc.2 + 1)

/-- `migrate_remote_binding_ids`. -/
def migrateRemoteBindingIds (t : TopologyState) : ℕ × TopologyState :=
  let result := t.bindings.keys.foldl (migrateRow t.nodes) (t.bindings, 0)
  (result.2, { t with bindings := result.1 })

/-- The shape of the mutators of a stored binding. -/
def updateBinding (bindingId : String) (f : StreamBinding → StreamBinding) (t : TopologyState) :
    Except StoreError (StreamBinding × TopologyState) :=
  match t.bindings[bindingId]? with
  | none => .error (.noStoredBinding bindingId)
  | some b => .ok (f b, { t with bindings := t.bindings.insert bindingId (f b) })

/-- `set_status`. -/
def setStatus (bindingId : String) (status : StreamStatus) :=
  updateBinding bindingId fun b => { b with status := status }

/-- `set_fdir_enabled`. -/
def setFdirEnabled (bindingId : String) (enabled : Bool) :=
  updateBinding bindingId fun b => { b with fdir := { b.fdir with enabled := enabled } }

/-- `set_desired_up`. -/
def setDesiredUp (bindingId : String) (up : Bool) :=
  updateBinding bindingId fun b => { b with desiredUp := up }

/-! ## Allocation of remote slots -/

/-- `allocate_mountpoint`: the lowest free id of the node's window. -/
def allocateMountpoint (nodeId : String) (alloc : Allocator) (t : TopologyState) :
    Except StoreError ℤ :=
  match (t.getNode nodeId).bind fun node => node.ordinal with
  | none => .error (.nodeHasNoWindow nodeId)
  | some ordinal =>
      let low := remoteMpMin + ordinal * nodeMpWindow
      let used := (usedSlots t.bindings alloc).map Slot.mountpointId
      match (pyRange low (low + nodeMpWindow) 1).find? (· ∉ used) with
      | none => .error (.mountpointWindowExhausted nodeId low)
      | some mp => .ok mp

/-- `allocate_port`: the lowest free even pair of the node's window. -/
def allocatePort (nodeId : String) (alloc : Allocator) (t : TopologyState) : Except StoreError ℤ :=
  match (t.getNode nodeId).bind fun node => node.ordinal with
  | none => .error (.nodeHasNoWindow nodeId)
  | some ordinal =>
      let low := remotePortMin + ordinal * nodePortWindow
      match firstFreePair (pyRange low (low + nodePortWindow) 2)
          (reservedPorts (usedSlots t.bindings alloc)) with
      | none => .error (.portWindowExhausted nodeId low)
      | some port => .ok port

/-! ## Moves of the binding store -/

/-- Slots above the local pools. -/
def RemoteAdmissible (s : Slot) : Prop := remoteMpMin ≤ s.mountpointId ∧ remotePortMin ≤ s.rtpPort

/-- A resource of a binding that its key, its status and the operator's switches do
not touch. -/
structure Stable {ρ : Type} (res : StreamBinding → ρ) : Prop where
  rekeyed : ∀ b id, res { b with bindingId := id } = res b
  status : ∀ b status, res { b with status := status } = res b
  fdir : ∀ b fdir, res { b with fdir := fdir } = res b
  desiredUp : ∀ b up, res { b with desiredUp := up } = res b

/-- What an operation may do to the bindings: any number of moves. -/
abbrev Steps {ρ : Type} (res : StreamBinding → ρ) (A : ρ → Prop) (R : ρ → ρ → Prop)
    (m m' : Dict StreamBinding) : Prop :=
  Relation.ReflTransGen (Dict.Move res A R) m m'

/-- A check that was passed. -/
theorem check_eq_ok {c : Prop} [Decidable c] {e : StoreError} {rest : Except StoreError Unit} :
    (if c then .error e else rest) = .ok () ↔ ¬ c ∧ rest = .ok () := by
  by_cases hc : c
  · simp [hc]
  · simp [hc]

/-- What a validated binding satisfies. -/
theorem validateRemote_ok {binding : StreamBinding} {node : Option NodeEntry} {used : List Slot}
    {janusMountId : ℤ} (h : validateRemote binding node used janusMountId = .ok ()) :
    binding.mode = .remoteProducer ∧
      (∃ entry, node = some entry ∧ isLanAddress entry.host = true ∧
        (binding.bindingId = binding.nodeId ++ ":" ++ binding.sensor ∨
          binding.bindingId = remoteBindingId entry binding.sensor)) ∧
      isLanAddress binding.janus.rtpIface = true ∧
      binding.transport.rtpPort % 2 = 0 ∧ RemoteAdmissible binding.slot ∧
      binding.slot.mountpointId ∉ used.map Slot.mountpointId ∧
      binding.slot.rtpPort ∉ reservedPorts used ∧
      binding.slot.rtpPort + 1 ∉ reservedPorts used := by
  rw [validateRemote.eq_def, check_eq_ok, not_not] at h
  obtain ⟨hmode, h⟩ := h
  cases node with
  | none => cases h
  | some entry =>
      simp only [check_eq_ok, not_and_or, not_not, not_or] at h
      obtain ⟨hid, hhost, hiface, hodd, hlow, hmp, -, hmpUsed, hports, -⟩ := h
      exact ⟨hmode, ⟨entry, rfl, by simpa using hhost, hid⟩, by simpa using hiface, hodd,
        ⟨not_lt.mp hmp, not_lt.mp hlow⟩, hmpUsed, hports.1, hports.2⟩

/-- A stored binding is the validated one, written under its own id. -/
theorem upsertBinding_ok {binding b : StreamBinding} {alloc : Allocator} {janusMountId : ℤ}
    {t t' : TopologyState} (h : t.upsertBinding binding alloc janusMountId = .ok (b, t')) :
    validateRemote binding (t.nodes[binding.nodeId]?.map (NodeEntry.fromRow binding.nodeId))
        (usedSlots (t.bindings.erase binding.bindingId) alloc) janusMountId = .ok () ∧
      t' = { t with bindings := t.bindings.insert binding.bindingId binding } := by
  unfold upsertBinding at h
  simp only at h
  split at h
  · cases h
  · next hvalid =>
      cases h
      exact ⟨hvalid, rfl⟩

/-- A mutator rewrites the row it found. -/
theorem updateBinding_ok {bindingId : String} {f : StreamBinding → StreamBinding}
    {b : StreamBinding} {t t' : TopologyState} (h : t.updateBinding bindingId f = .ok (b, t')) :
    ∃ old, t.bindings[bindingId]? = some old ∧
      t' = { t with bindings := t.bindings.insert bindingId (f old) } := by
  unfold updateBinding at h
  split at h
  · cases h
  · next old hold =>
      cases h
      exact ⟨old, hold, rfl⟩

/-- The slot of a stored binding was free in both stores. -/
theorem move_upsertBinding {binding b : StreamBinding} {alloc : Allocator} {janusMountId : ℤ}
    {t t' : TopologyState} (h : t.upsertBinding binding alloc janusMountId = .ok (b, t')) :
    Dict.Move StreamBinding.slot RemoteAdmissible Slot.Apart t.bindings t'.bindings := by
  obtain ⟨hvalid, rfl⟩ := upsertBinding_ok h
  obtain ⟨-, -, -, -, hadmissible, hmp, hport, hnext⟩ := validateRemote_ok hvalid
  apply Dict.Move.put _ _ _ hadmissible
  intro k w hne hw
  apply Slot.apart_of_free _ hmp hport hnext
  apply List.mem_append_left
  have hother : (t.bindings.erase binding.bindingId)[k]? = some w := by
    rw [Dict.getElem?_erase, if_neg (Ne.symm hne)]
    exact hw
  exact List.mem_map_of_mem (Std.ExtTreeMap.mem_toList_iff_getElem?_eq_some.mpr hother)

section Steps

variable {ρ : Type} {res : StreamBinding → ρ} {A : ρ → Prop} {R : ρ → ρ → Prop}

theorem steps_removeBinding (bindingId : String) (t : TopologyState) :
    Steps res A R t.bindings (t.removeBinding bindingId).2.bindings := by
  unfold removeBinding
  split
  · exact .single (.drop _ _)
  · exact .refl

theorem steps_migrateRow (stable : Stable res) (nodes : Dict NodeRow)
    (acc : Dict StreamBinding × ℕ) (oldId : String) :
    Steps res A R acc.1 (migrateRow nodes acc oldId).1 := by
  unfold migrateRow
  split
  · exact .refl
  · next b hb =>
      split
      · exact .refl
      · split
        · exact .refl
        · simp only
          split
          · exact .refl
          · exact .single (.rekey _ _ _ b _ hb (stable.rekeyed b _))

theorem steps_migrateRemoteBindingIds (stable : Stable res) (t : TopologyState) :
    Steps res A R t.bindings t.migrateRemoteBindingIds.2.bindings := by
  suffices loop : ∀ (keys : List String) (acc : Dict StreamBinding × ℕ),
      Steps res A R acc.1 (keys.foldl (migrateRow t.nodes) acc).1 from loop _ (t.bindings, 0)
  intro keys
  induction keys with
  | nil => exact fun acc => .refl
  | cons key keys ih => exact fun acc => (steps_migrateRow stable t.nodes acc key).trans (ih _)

theorem steps_updateBinding {bindingId : String} {f : StreamBinding → StreamBinding}
    (hres : ∀ b, res (f b) = res b) {b : StreamBinding} {t t' : TopologyState}
    (h : t.updateBinding bindingId f = .ok (b, t')) : Steps res A R t.bindings t'.bindings := by
  obtain ⟨old, hold, rfl⟩ := updateBinding_ok h
  exact .single (.update _ _ old _ hold (hres old))

end Steps

theorem bindings_updateNode {nodeId : String} {f : NodeRow → NodeRow} {entry : NodeEntry}
    {t t' : TopologyState} (h : t.updateNode nodeId f = .ok (entry, t')) :
    t'.bindings = t.bindings := by
  unfold updateNode at h
  split at h
  · cases h
  · cases h
    rfl

theorem bindings_upsertNode {nodeId host role reachability : String}
    {serial displayName : Option String} {token : String} {entry : NodeEntry}
    {t t' : TopologyState}
    (h : t.upsertNode nodeId host role reachability serial displayName token = .ok (entry, t')) :
    t'.bindings = t.bindings := by
  unfold upsertNode at h
  split at h
  · cases h
  · cases h
    rfl

theorem bindings_addNodeByHost {lan : LanConfig} {host role : String}
    {displayName : Option String} {mintedId token : String} {entry : NodeEntry}
    {t t' : TopologyState}
    (h : t.addNodeByHost lan host role displayName mintedId token = .ok (entry, t')) :
    t'.bindings = t.bindings := by
  unfold addNodeByHost at h
  simp only at h
  split at h
  · cases h
  · split at h
    · cases h
      rfl
    · cases h
      rfl

theorem bindings_setAgentToken {nodeId token : String} {entry : NodeEntry}
    {t t' : TopologyState} (h : t.setAgentToken nodeId token = .ok (entry, t')) :
    t'.bindings = t.bindings := by
  unfold setAgentToken at h
  split at h
  · cases h
  · cases h
    rfl

theorem bindings_removeNode {nodeId : String} {r : Bool × List String} {t t' : TopologyState}
    (h : t.removeNode nodeId = .ok (r, t')) :
    t'.bindings = t.bindings.filter fun _ b => b.nodeId ≠ nodeId := by
  unfold removeNode at h
  split at h
  · cases h
  · cases h
    rfl

end TopologyState

end CameraStack.Topology
