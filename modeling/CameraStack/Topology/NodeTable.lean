/-
# The node table

A node enters the table in two ways: registered under an id the operator chose, or
enrolled by its address under an id the gateway mints.  Either way it gets the
lowest ordinal no other node has, and keeps it until it is removed; the windows its
streams draw mountpoints and ports from are cut out by that ordinal.

`NodeStep` says once what each operation of the stores may do to the table.  The
results about ordinals and about addresses are read off it.
-/

import Mathlib.Data.List.Perm.Subperm
import CameraStack.Topology.FreeList

namespace CameraStack.Topology

open CameraStack.Lib

/-- `list_nodes`: the stored nodes and the implicit local one. -/
def listNodes (t : TopologyState) : Dict NodeEntry :=
  (t.nodes.map fun nodeId row =>
    { NodeEntry.fromRow nodeId row with agentToken := t.secrets[nodeId]? }).insertIfNew
      localNodeId localNode

namespace TopologyState

/-! ## Ordinals -/

/-- The ordinals in use. -/
def ordinals (t : TopologyState) : List ℕ :=
  t.nodes.toList.filterMap fun entry => entry.2.ordinal

theorem mem_ordinals {t : TopologyState} {nodeId : String} {row : NodeRow} {ordinal : ℕ}
    (hrow : t.nodes[nodeId]? = some row) (hordinal : row.ordinal = some ordinal) :
    ordinal ∈ t.ordinals := by
  apply List.mem_filterMap.mpr
  exact ⟨(nodeId, row), Std.ExtTreeMap.mem_toList_iff_getElem?_eq_some.mpr hrow, hordinal⟩

/-- The scan of `_mint_ordinal` ends at an ordinal that is not in use, after at most
as many steps as there are ordinals in use. -/
theorem mintOrdinal_spec (t : TopologyState) :
    t.mintOrdinal ∉ t.ordinals ∧ t.mintOrdinal ≤ t.ordinals.length := by
  have hfree : ∃ n ∈ List.range (t.ordinals.length + 1), n ∉ t.ordinals := by
    by_contra hall
    simp only [not_exists, not_and, not_not] at hall
    have hlength := (List.nodup_range.subperm hall).length_le
    rw [List.length_range] at hlength
    omega
  change ((List.range (t.ordinals.length + 1)).find? (· ∉ t.ordinals)).getD t.ordinals.length ∉
      t.ordinals ∧
    ((List.range (t.ordinals.length + 1)).find? (· ∉ t.ordinals)).getD t.ordinals.length ≤
      t.ordinals.length
  cases hfind : (List.range (t.ordinals.length + 1)).find? (· ∉ t.ordinals) with
  | none =>
      obtain ⟨n, hn, hfree⟩ := hfree
      have := List.find?_eq_none.mp hfind n hn
      simp [hfree] at this
  | some n =>
      have hn := List.mem_range.mp (List.mem_of_find?_eq_some hfind)
      have hunused := List.find?_some hfind
      simp only [decide_eq_true_eq] at hunused
      exact ⟨hunused, Nat.lt_succ_iff.mp hn⟩

/-- No node has the ordinal that is minted next. -/
theorem mintOrdinal_unused {t : TopologyState} {nodeId : String} {row : NodeRow}
    (hrow : t.nodes[nodeId]? = some row) : row.ordinal ≠ some t.mintOrdinal :=
  fun hordinal => t.mintOrdinal_spec.1 (mem_ordinals hrow hordinal)

/-- The ordinal that is minted next is at most the number of nodes. -/
theorem mintOrdinal_le_size (t : TopologyState) : t.mintOrdinal ≤ t.nodes.size := by
  have hlength : t.ordinals.length ≤ t.nodes.toList.length := List.length_filterMap_le _ _
  rw [Std.ExtTreeMap.length_toList] at hlength
  exact t.mintOrdinal_spec.2.trans hlength

/-! ## What an operation returns -/

theorem upsertNode_ok {nodeId host role reachability : String}
    {serial displayName : Option String} {token : String} {entry : NodeEntry}
    {t t' : TopologyState}
    (h : t.upsertNode nodeId host role reachability serial displayName token = .ok (entry, t')) :
    nodeId ≠ localNodeId ∧ ∃ row : NodeRow, row.host = host ∧
      row.ordinal = some ((t.nodes[nodeId]?.bind NodeRow.ordinal).getD t.mintOrdinal) ∧
      t'.nodes = t.nodes.insert nodeId row := by
  unfold upsertNode at h
  split at h
  · cases h
  · next hremote =>
      cases h
      exact ⟨hremote, _, rfl, rfl, rfl⟩

theorem addNodeByHost_ok {lan : LanConfig} {host role : String} {displayName : Option String}
    {mintedId token : String} {entry : NodeEntry} {t t' : TopologyState}
    (h : t.addNodeByHost lan host role displayName mintedId token = .ok (entry, t')) :
    t' = t ∨
      checkNodeHost lan (pyStrip host) = .ok () ∧
        Dict.Each (fun _ row => row.host ≠ pyStrip host) t.nodes ∧
        ∃ row : NodeRow, row.host = pyStrip host ∧ row.ordinal = some t.mintOrdinal ∧
          t'.nodes = t.nodes.insert mintedId row := by
  unfold addNodeByHost at h
  simp only at h
  split at h
  · cases h
  · next hchecked =>
      split at h
      · cases h
        exact .inl rfl
      · next hfind =>
          cases h
          refine .inr ⟨hchecked, ?_, _, rfl, rfl, rfl⟩
          intro key row hrow
          have hmem := Std.ExtTreeMap.mem_toList_iff_getElem?_eq_some.mpr hrow
          simpa using List.find?_eq_none.mp hfind _ hmem

theorem updateNode_ok {nodeId : String} {f : NodeRow → NodeRow} {entry : NodeEntry}
    {t t' : TopologyState} (h : t.updateNode nodeId f = .ok (entry, t')) :
    ∃ row, t.nodes[nodeId]? = some row ∧ t'.nodes = t.nodes.insert nodeId (f row) := by
  unfold updateNode at h
  split at h
  · cases h
  · next row hrow =>
      cases h
      exact ⟨row, hrow, rfl⟩

theorem nodes_setAgentToken {nodeId token : String} {entry : NodeEntry} {t t' : TopologyState}
    (h : t.setAgentToken nodeId token = .ok (entry, t')) : t'.nodes = t.nodes := by
  unfold setAgentToken at h
  split at h
  · cases h
  · cases h
    rfl

theorem nodes_removeNode {nodeId : String} {r : Bool × List String} {t t' : TopologyState}
    (h : t.removeNode nodeId = .ok (r, t')) : t'.nodes = t.nodes.erase nodeId := by
  unfold removeNode at h
  split at h
  · cases h
  · cases h
    rfl

theorem nodes_removeBinding (bindingId : String) (t : TopologyState) :
    (t.removeBinding bindingId).2.nodes = t.nodes := by
  unfold removeBinding
  split
  · rfl
  · rfl

theorem nodes_updateBinding {bindingId : String} {f : StreamBinding → StreamBinding}
    {b : StreamBinding} {t t' : TopologyState}
    (h : t.updateBinding bindingId f = .ok (b, t')) : t'.nodes = t.nodes := by
  obtain ⟨old, -, rfl⟩ := updateBinding_ok h
  rfl

end TopologyState

/-! ## Steps of the table -/

open TopologyState in
/-- What an operation may do to the node table. -/
inductive NodeStep (lan : LanConfig) (t : TopologyState) : StoreOp → Dict NodeRow → Prop
  | keep (op : StoreOp) : NodeStep lan t op t.nodes
  /-- `upsert_node`: any host; the ordinal of the row it replaces, if there is one. -/
  | register {nodeId host role reachability : String} {serial displayName : Option String}
      {token : String} (row : NodeRow) (hremote : nodeId ≠ localNodeId) (hhost : row.host = host)
      (hordinal : row.ordinal =
        some ((t.nodes[nodeId]?.bind NodeRow.ordinal).getD t.mintOrdinal)) :
      NodeStep lan t (.upsertNode nodeId host role reachability serial displayName token)
        (t.nodes.insert nodeId row)
  /-- `add_node_by_host`: a checked host that no node has. -/
  | enroll {host role : String} {displayName : Option String} {mintedId token : String}
      (row : NodeRow) (hchecked : checkNodeHost lan (pyStrip host) = .ok ())
      (hnew : Dict.Each (fun _ old => old.host ≠ pyStrip host) t.nodes)
      (hhost : row.host = pyStrip host) (hordinal : row.ordinal = some t.mintOrdinal) :
      NodeStep lan t (.addNodeByHost host role displayName mintedId token)
        (t.nodes.insert mintedId row)
  /-- The mutators of a row: neither its host nor its ordinal. -/
  | amend (op : StoreOp) (nodeId : String) (old new : NodeRow) (hold : t.nodes[nodeId]? = some old)
      (hhost : new.host = old.host) (hordinal : new.ordinal = old.ordinal) :
      NodeStep lan t op (t.nodes.insert nodeId new)
  | remove (nodeId : String) : NodeStep lan t (.removeNode nodeId) (t.nodes.erase nodeId)

namespace NodeStep

variable {lan : LanConfig} {t : TopologyState} {op : StoreOp}

/-- A result that steps the table, or raises, steps it when it is written. -/
theorem of_written {α : Type} {result : Except StoreError (α × TopologyState)}
    (h : ∀ a t', result = .ok (a, t') → NodeStep lan t op t'.nodes) :
    NodeStep lan t op (written t result).nodes := by
  cases hresult : result with
  | error e => exact .keep op
  | ok pair => exact h pair.1 pair.2 (by rw [hresult])

theorem of_same {t' : TopologyState} (h : t'.nodes = t.nodes) : NodeStep lan t op t'.nodes := by
  rw [h]
  exact .keep op

theorem of_updateNode {nodeId : String} {f : NodeRow → NodeRow} {entry : NodeEntry}
    {t' : TopologyState} (hhost : ∀ row, (f row).host = row.host)
    (hordinal : ∀ row, (f row).ordinal = row.ordinal)
    (h : t.updateNode nodeId f = .ok (entry, t')) : NodeStep lan t op t'.nodes := by
  obtain ⟨row, hrow, hnodes⟩ := TopologyState.updateNode_ok h
  rw [hnodes]
  exact .amend op nodeId row _ hrow (hhost row) (hordinal row)

end NodeStep

/-- Every operation steps the node table. -/
theorem Stores.nodeStep (lan : LanConfig) (s : Stores) (op : StoreOp) :
    NodeStep lan s.topology op (s.apply lan op).topology.nodes := by
  cases op with
  | allocate | ensureColor | setDesired | release | migrateColorKey => exact .keep _
  | upsertNode =>
      apply NodeStep.of_written
      intro entry t' h
      obtain ⟨hremote, row, hhost, hordinal, hnodes⟩ := TopologyState.upsertNode_ok h
      rw [hnodes]
      exact .register row hremote hhost hordinal
  | addNodeByHost =>
      simp only [apply, topology_setTopology]
      apply NodeStep.of_written
      intro entry t' h
      rcases TopologyState.addNodeByHost_ok h with
        rfl | ⟨hchecked, hnew, row, hhost, hordinal, hnodes⟩
      · exact .keep _
      · rw [hnodes]
        exact .enroll row hchecked hnew hhost hordinal
  | setReachability | setSerial | setProvisionState | touchChecked | setMaintenance
  | setHostKey =>
      exact NodeStep.of_written fun _ _ => NodeStep.of_updateNode (fun _ => rfl) (fun _ => rfl)
  | setAgentToken =>
      exact NodeStep.of_written fun _ _ h => .of_same (TopologyState.nodes_setAgentToken h)
  | removeNode nodeId =>
      apply NodeStep.of_written
      intro r t' h
      rw [TopologyState.nodes_removeNode h]
      exact .remove nodeId
  | upsertBinding =>
      apply NodeStep.of_written
      intro b t' h
      obtain ⟨-, rfl⟩ := TopologyState.upsertBinding_ok h
      exact .keep _
  | removeBinding bindingId => exact .of_same (TopologyState.nodes_removeBinding bindingId _)
  | migrateRemoteBindingIds => exact .keep _
  | setStatus | setFdirEnabled | setDesiredUp =>
      exact NodeStep.of_written fun _ _ h => .of_same (TopologyState.nodes_updateBinding h)

/-! ## Ordinals are distinct -/

/-- Every node has an ordinal and no two nodes have the same one. -/
def OrdinalsDistinct (nodes : Dict NodeRow) : Prop :=
  Dict.Sound NodeRow.ordinal (fun ordinal => ordinal.isSome) (· ≠ ·) nodes

theorem ordinalsDistinct_empty : OrdinalsDistinct ∅ := Dict.sound_empty _ _ _

theorem OrdinalsDistinct.put_minted {t : TopologyState} (h : OrdinalsDistinct t.nodes)
    (nodeId : String) {row : NodeRow} (hordinal : row.ordinal = some t.mintOrdinal) :
    OrdinalsDistinct (t.nodes.insert nodeId row) := by
  apply Dict.Move.sound (fun _ _ => Ne.symm) (.put _ nodeId row _ _) h
  · rw [hordinal]
    rfl
  · intro key other _ hother
    rw [hordinal]
    exact (TopologyState.mintOrdinal_unused hother).symm

/-- Every step of the table keeps the ordinals distinct. -/
theorem NodeStep.ordinalsDistinct {lan : LanConfig} {t : TopologyState} {op : StoreOp}
    {nodes : Dict NodeRow} (step : NodeStep lan t op nodes) (h : OrdinalsDistinct t.nodes) :
    OrdinalsDistinct nodes := by
  have symm : ∀ a b : Option ℕ, a ≠ b → b ≠ a := fun _ _ => Ne.symm
  cases step with
  | keep => exact h
  | @register nodeId host role reachability serial displayName token row hremote hhost hordinal =>
      cases hold : t.nodes[nodeId]?.bind NodeRow.ordinal with
      | none =>
          rw [hold] at hordinal
          exact h.put_minted nodeId hordinal
      | some ordinal =>
          obtain ⟨old, hrow, hsame⟩ := Option.bind_eq_some_iff.mp hold
          rw [hold] at hordinal
          exact Dict.Move.sound symm (.update _ nodeId old row hrow (hordinal.trans hsame.symm)) h
  | enroll row hchecked hnew hhost hordinal => exact h.put_minted _ hordinal
  | amend _ nodeId old new hold hhost hordinal =>
      exact Dict.Move.sound symm (.update _ nodeId old new hold hordinal) h
  | remove nodeId => exact Dict.Move.sound symm (.drop _ nodeId) h

/-! ## Windows -/

/-- A range keeps the residue it starts with. -/
theorem emod_of_mem_pyRange {start stop step p : ℤ} (h : p ∈ pyRange start stop step) :
    (p - start) % step = 0 := by
  obtain ⟨i, -, rfl⟩ := List.mem_map.mp h
  rw [add_sub_cancel_left, Int.mul_emod_right]

namespace TopologyState

variable {t : TopologyState} {nodeId : String} {alloc : Allocator}

/-- A node with an ordinal is a stored one. -/
theorem ordinal_getNode {ordinal : ℕ}
    (h : ((t.getNode nodeId).bind fun node => node.ordinal) = some ordinal) :
    ∃ row, t.nodes[nodeId]? = some row ∧ row.ordinal = some ordinal := by
  unfold getNode at h
  split at h
  · cases h
  · cases hrow : t.nodes[nodeId]? with
    | none => simp [hrow] at h
    | some row => exact ⟨row, rfl, by simpa [hrow, NodeEntry.fromRow] using h⟩

/-- A mountpoint comes out of the window of the node's ordinal. -/
theorem allocateMountpoint_ok {mp : ℤ} (h : t.allocateMountpoint nodeId alloc = .ok mp) :
    ∃ (row : NodeRow) (ordinal : ℕ), t.nodes[nodeId]? = some row ∧ row.ordinal = some ordinal ∧
      remoteMpMin + ordinal * nodeMpWindow ≤ mp ∧
      mp < remoteMpMin + ordinal * nodeMpWindow + nodeMpWindow := by
  unfold allocateMountpoint at h
  split at h
  · cases h
  · next ordinal hordinal =>
      simp only at h
      split at h
      · cases h
      · next found hfind =>
          cases h
          obtain ⟨row, hrow, hord⟩ := ordinal_getNode hordinal
          have hrange := mem_pyRange one_pos (List.mem_of_find?_eq_some hfind)
          exact ⟨row, ordinal, hrow, hord, hrange⟩

/-- A port pair comes out of the window of the node's ordinal. -/
theorem allocatePort_ok {port : ℤ} (h : t.allocatePort nodeId alloc = .ok port) :
    ∃ (row : NodeRow) (ordinal : ℕ), t.nodes[nodeId]? = some row ∧ row.ordinal = some ordinal ∧
      remotePortMin + ordinal * nodePortWindow ≤ port ∧
      port + 1 < remotePortMin + ordinal * nodePortWindow + nodePortWindow := by
  unfold allocatePort at h
  split at h
  · cases h
  · next ordinal hordinal =>
      simp only at h
      split at h
      · cases h
      · next found hfind =>
          cases h
          obtain ⟨row, hrow, hord⟩ := ordinal_getNode hordinal
          have hmem := List.mem_of_find?_eq_some hfind
          have hrange := mem_pyRange two_pos hmem
          have heven := emod_of_mem_pyRange hmem
          refine ⟨row, ordinal, hrow, hord, hrange.1, ?_⟩
          -- the window is even and wide, so the pair does not stick out of it
          simp only [remotePortMin, nodePortWindow] at *
          omega

end TopologyState

end CameraStack.Topology
