/-
# What the firewall takes from the node table

The firewall drops everything sent to the remote RTP range and accepts, above that,
the host of each node on the ports of its streams.  It validates neither: the ports
are those the store offered, the hosts those the node table holds.

The range has room for the windows of sixteen ordinals, but ordinals are minted
without a bound, and the address checks of enrollment are not made on registration.
Both results below say which registrations keep the table within what the firewall
assumes about it.
-/

import CameraStack.Topology.NodeTable
import CameraStack.Topology.Firewall

namespace CameraStack.Topology

open CameraStack.Lib

/-! ## Ports under the backstop -/

/-- `MAX_REMOTE_NODES`. -/
def maxRemoteNodes : ℕ := 16

/-- An RTP port and its RTCP successor lie inside `REMOTE_RTP_RANGE` and are ports. -/
def Covered (port : ℤ) : Prop :=
  remoteRtpLow ≤ port ∧ port + 1 ≤ remoteRtpHigh ∧ port + 1 ≤ 65535

/-- The operation adds a row to the node table. -/
def StoreOp.registersNew (lan : LanConfig) (t : TopologyState) : StoreOp → Bool
  | .upsertNode nodeId .. => nodeId ≠ localNodeId ∧ nodeId ∉ t.nodes
  | .addNodeByHost host .. =>
      (TopologyState.checkNodeHost lan (pyStrip host)).isOk &&
        t.nodes.toList.all fun entry => entry.2.host ≠ pyStrip host
  | _ => false

/-- A new node is registered only while there is a planned window left. -/
def WithinPlan (lan : LanConfig) (s : Stores) (op : StoreOp) : Prop :=
  op.registersNew lan s.topology = true → s.topology.nodes.size < maxRemoteNodes

instance decidableWithinPlan (lan : LanConfig) (s : Stores) (op : StoreOp) :
    Decidable (WithinPlan lan s op) :=
  inferInstanceAs (Decidable (_ → _))

/-- Every node has one of the planned ordinals. -/
def Planned (nodes : Dict NodeRow) : Prop :=
  Dict.Each (fun _ row => ∃ ordinal < maxRemoteNodes, row.ordinal = some ordinal) nodes

/-- A port out of the window of an ordinal is covered exactly when the ordinal is a
planned one. -/
theorem covered_iff {port : ℤ} {ordinal : ℕ}
    (hlow : TopologyState.remotePortMin + ordinal * TopologyState.nodePortWindow ≤ port)
    (hhigh : port + 1 < TopologyState.remotePortMin + ordinal * TopologyState.nodePortWindow +
      TopologyState.nodePortWindow) :
    Covered port ↔ ordinal < maxRemoteNodes := by
  simp only [Covered, remoteRtpLow, remoteRtpHigh, maxRemoteNodes, TopologyState.remotePortMin,
    TopologyState.nodePortWindow] at *
  omega

/-- A step within the plan keeps the ordinals planned. -/
theorem NodeStep.planned {lan : LanConfig} {s : Stores} {op : StoreOp} {nodes : Dict NodeRow}
    (step : NodeStep lan s.topology op nodes) (hplan : WithinPlan lan s op)
    (h : Planned s.topology.nodes) : Planned nodes := by
  have minted : op.registersNew lan s.topology = true → s.topology.mintOrdinal < maxRemoteNodes :=
    fun hnew => s.topology.mintOrdinal_le_size.trans_lt (hplan hnew)
  cases step with
  | keep => exact h
  | @register nodeId host role reachability serial displayName token row hremote hhost hordinal =>
      apply h.insert
      cases hold : s.topology.nodes[nodeId]? with
      | none =>
          rw [hold] at hordinal
          refine ⟨_, minted ?_, hordinal⟩
          simp [StoreOp.registersNew, hremote, Std.ExtTreeMap.mem_iff_isSome_getElem?, hold]
      | some old =>
          obtain ⟨ordinal, hlt, hsame⟩ := h nodeId old hold
          rw [hold] at hordinal
          refine ⟨ordinal, hlt, ?_⟩
          simpa [hsame] using hordinal
  | enroll row hchecked hnew hhost hordinal =>
      apply h.insert
      refine ⟨_, minted ?_, hordinal⟩
      simp only [StoreOp.registersNew, hchecked, Bool.and_eq_true, List.all_eq_true,
        decide_eq_true_eq]
      exact ⟨rfl, hnew.toList⟩
  | amend _ nodeId old new hold hhost hordinal =>
      apply h.insert
      obtain ⟨ordinal, hlt, hsame⟩ := h nodeId old hold
      exact ⟨ordinal, hlt, hordinal.trans hsame⟩
  | remove nodeId => exact h.erase nodeId

/-- In every run that registers new nodes only while fewer than `MAX_REMOTE_NODES` are
registered, every port the store offers is under the backstop. -/
theorem offered_ports_covered (lan : LanConfig) (ops : List StoreOp)
    (hplan : (storeMachine lan).Along (WithinPlan lan) {} ops) (nodeId : String)
    (alloc : Allocator) (port : ℤ)
    (hport : ((storeMachine lan).run {} ops).topology.allocatePort nodeId alloc = .ok port) :
    Covered port := by
  have hplanned : Planned ((storeMachine lan).run {} ops).topology.nodes :=
    (storeMachine lan).run_invariant (I := fun s => Planned s.topology.nodes)
      (fun s op h hplan => (s.nodeStep lan op).planned hplan h) hplan Dict.each_empty
  obtain ⟨row, ordinal, hrow, hordinal, hlow, hhigh⟩ := TopologyState.allocatePort_ok hport
  obtain ⟨planned, hlt, hsame⟩ := hplanned nodeId row hrow
  rw [hordinal] at hsame
  cases hsame
  exact (covered_iff hlow hhigh).mpr hlt

/-- The registration of `n` nodes with addresses of their own. -/
def registrations (n : ℕ) : List StoreOp :=
  (List.range n).map fun i =>
    .upsertNode ("cam-" ++ toString i) ("192.168.1." ++ toString (20 + i)) "remote_producer"
      "unknown" none none "token"

/-- The last of sixteen nodes gets the last covered window. -/
theorem sixteenth_node_covered :
    ((storeMachine {}).run {} (registrations 16)).topology.allocatePort "cam-15" ∅ = .ok 6600 ∧
      Covered 6600 := by
  have hport : ((storeMachine {}).run {} (registrations 16)).topology.allocatePort "cam-15" ∅ =
      .ok 6600 := by decide +kernel
  have hplan : (storeMachine {}).Along (WithinPlan {}) {} (registrations 16) := by decide +kernel
  exact ⟨hport, offered_ports_covered {} (registrations 16) hplan "cam-15" ∅ 6600 hport⟩

/-- The seventeenth node is offered ports above the backstop. -/
theorem seventeenth_node_uncovered :
    ((storeMachine {}).run {} (registrations 17)).topology.allocatePort "cam-16" ∅ = .ok 6700 ∧
      ¬ Covered 6700 := by
  constructor
  · decide +kernel
  · simp [Covered, remoteRtpHigh, TopologyState.remotePortMin, TopologyState.nodePortWindow]

/-! ## Addresses of the nodes -/

/-- An address a remote camera node can have. -/
def NodeAddress (lan : LanConfig) (host : String) : Prop :=
  ∃ ip, parseIpv4 host = some ip ∧ loopbackBlock.contains ip = false ∧
    unspecifiedBlock.contains ip = false ∧ multicastBlock.contains ip = false ∧
    reservedBlock.contains ip = false ∧ host ≠ lan.gatewayLanIp ∧
    ∀ net, lan.cameraLan = some net → net.contains ip = true

/-- The checks of enrollment accept exactly the node addresses. -/
theorem checkNodeHost_ok_iff {lan : LanConfig} {host : String} :
    TopologyState.checkNodeHost lan host = .ok () ↔ NodeAddress lan host := by
  unfold TopologyState.checkNodeHost NodeAddress
  cases hip : parseIpv4 host with
  | none => simp
  | some ip =>
      -- an unset gateway address is the empty string, which is no IPv4 address
      have hgateway : (lan.gatewayLanIp ≠ "" ∧ host = lan.gatewayLanIp) ↔
          host = lan.gatewayLanIp := by
        refine ⟨And.right, fun heq => ⟨?_, heq⟩⟩
        intro hempty
        rw [heq, hempty] at hip
        have hnone : parseIpv4 "" = none := by decide +kernel
        rw [hnone] at hip
        cases hip
      simp only [hgateway]
      cases hlan : lan.cameraLan with
      | none => grind
      | some net => grind

/-- Every node has a node address, and no two nodes have the same one. -/
def HostsSound (lan : LanConfig) (nodes : Dict NodeRow) : Prop :=
  Dict.Sound NodeRow.host (NodeAddress lan) (· ≠ ·) nodes

/-- A registration whose host would have passed the checks of enrollment, and that no
other node has. -/
def ChecksHost (lan : LanConfig) (s : Stores) : StoreOp → Prop
  | .upsertNode nodeId host .. =>
      nodeId = localNodeId ∨ TopologyState.checkNodeHost lan host = .ok () ∧
        ∀ entry ∈ s.topology.nodes.toList, entry.1 ≠ nodeId → entry.2.host ≠ host
  | _ => True

instance decidableChecksHost (lan : LanConfig) (s : Stores) :
    ∀ op, Decidable (ChecksHost lan s op)
  | .upsertNode nodeId host .. =>
      inferInstanceAs (Decidable (nodeId = localNodeId ∨
        TopologyState.checkNodeHost lan host = .ok () ∧
          ∀ entry ∈ s.topology.nodes.toList, entry.1 ≠ nodeId → entry.2.host ≠ host))
  | .addNodeByHost .. | .allocate .. | .ensureColor .. | .setDesired .. | .release ..
  | .migrateColorKey .. | .setReachability .. | .setSerial .. | .setProvisionState ..
  | .touchChecked .. | .setMaintenance .. | .setHostKey .. | .setAgentToken .. | .removeNode ..
  | .upsertBinding .. | .removeBinding .. | .migrateRemoteBindingIds | .setStatus ..
  | .setFdirEnabled .. | .setDesiredUp .. => isTrue trivial

/-- A step whose registrations are checked keeps the hosts sound. -/
theorem NodeStep.hostsSound {lan : LanConfig} {s : Stores} {op : StoreOp} {nodes : Dict NodeRow}
    (step : NodeStep lan s.topology op nodes) (hchecks : ChecksHost lan s op)
    (h : HostsSound lan s.topology.nodes) : HostsSound lan nodes := by
  have symm : ∀ a b : String, a ≠ b → b ≠ a := fun _ _ => Ne.symm
  cases step with
  | keep => exact h
  | @register nodeId host role reachability serial displayName token row hremote hhost hordinal =>
      obtain ⟨hchecked, hothers⟩ := hchecks.resolve_left hremote
      subst hhost
      apply Dict.Move.sound symm (.put _ nodeId row (checkNodeHost_ok_iff.mp hchecked) ?_) h
      intro key other hne hother
      have hmem := Std.ExtTreeMap.mem_toList_iff_getElem?_eq_some.mpr hother
      exact (hothers (key, other) hmem hne).symm
  | @enroll host role displayName mintedId token row hchecked hnew hhost hordinal =>
      rw [← hhost] at hchecked hnew
      apply Dict.Move.sound symm (.put _ mintedId row (checkNodeHost_ok_iff.mp hchecked) ?_) h
      exact fun key other _ hother => (hnew key other hother).symm
  | amend _ nodeId old new hold hhost hordinal =>
      exact Dict.Move.sound symm (.update _ nodeId old new hold hhost) h
  | remove nodeId => exact Dict.Move.sound symm (.drop _ nodeId) h

/-- Hosts that are sound after a registration were checked by it. -/
theorem checksHost_of_hostsSound {lan : LanConfig} (s : Stores) (op : StoreOp)
    (h : HostsSound lan (s.apply lan op).topology.nodes) : ChecksHost lan s op := by
  cases op with
  | upsertNode nodeId host role reachability serial displayName token =>
      by_cases hlocal : nodeId = localNodeId
      · exact .inl hlocal
      · right
        obtain ⟨row, hhost, hnodes⟩ : ∃ row : NodeRow, row.host = host ∧
            (s.apply lan (.upsertNode nodeId host role reachability serial displayName
              token)).topology.nodes = s.topology.nodes.insert nodeId row := by
          simp only [Stores.apply, TopologyState.upsertNode, if_neg hlocal]
          exact ⟨_, rfl, rfl⟩
        rw [hnodes] at h
        subst hhost
        have hrow : (s.topology.nodes.insert nodeId row)[nodeId]? = some row := by
          rw [Dict.getElem?_insert, if_pos rfl]
        refine ⟨checkNodeHost_ok_iff.mpr (h.each nodeId row hrow), ?_⟩
        intro entry hentry hne
        have hother : (s.topology.nodes.insert nodeId row)[entry.1]? = some entry.2 := by
          rw [Dict.getElem?_insert, if_neg hne.symm]
          exact Std.ExtTreeMap.mem_toList_iff_getElem?_eq_some.mp hentry
        exact h.apart entry.1 nodeId entry.2 row hne hother hrow
  | _ => trivial

/-- The hosts are sound in every state of a run exactly when every registration of the
run, under an id other than the local one, brings a host that the checks of enrollment
accept and that no other node has at that moment. -/
theorem hosts_sound_iff (lan : LanConfig) (ops : List StoreOp) :
    (∀ first second, ops = first ++ second →
        HostsSound lan ((storeMachine lan).run {} first).topology.nodes) ↔
      (storeMachine lan).Along (ChecksHost lan) {} ops := by
  have hempty : HostsSound lan ({} : Stores).topology.nodes := Dict.sound_empty _ _ _
  rw [(storeMachine lan).forall_prefix_iff_along (I := fun s => HostsSound lan s.topology.nodes)
    hempty]
  constructor
  · exact Machine.Along.imp _ checksHost_of_hostsSound
  · intro hchecks
    exact (storeMachine lan).along_of_invariant (I := fun s => HostsSound lan s.topology.nodes)
      (fun s op h hop => (s.nodeStep lan op).hostsSound hop h)
      (fun s op h hop => (s.nodeStep lan op).hostsSound hop h) hchecks hempty

/-- `register_node`, as the API calls `upsert_node`. -/
def registerNode (nodeId host : String) : StoreOp :=
  .upsertNode nodeId host "remote_producer" "unknown" none none "token"

/-- One registration stores the loopback address; two store one host twice. -/
theorem registered_hosts_unsound :
    ¬ HostsSound {} ((storeMachine {}).run {} [registerNode "cam-a" "127.0.0.1"]).topology.nodes ∧
      ¬ HostsSound {} ((storeMachine {}).run {} [registerNode "cam-a" "192.168.1.20",
        registerNode "cam-b" "192.168.1.20"]).topology.nodes := by
  constructor
  · intro h
    have hchecks := checksHost_of_hostsSound {} (registerNode "cam-a" "127.0.0.1") h
    exact absurd hchecks (by decide +kernel)
  · intro h
    have hchecks := checksHost_of_hostsSound
      ((storeMachine {}).run {} [registerNode "cam-a" "192.168.1.20"])
      (registerNode "cam-b" "192.168.1.20") h
    exact absurd hchecks (by decide +kernel)

/-- Enrollment and checked registrations. -/
example :
    (storeMachine {}).Along (ChecksHost {}) {} [registerNode "cam-a" "192.168.1.20",
      .addNodeByHost " 192.168.1.21 " "remote_producer" none "node-1a" "token",
      registerNode "cam-a" "192.168.1.22"] := by decide +kernel

end CameraStack.Topology
