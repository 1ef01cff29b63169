/-
# Referential integrity of the topology

Two tables refer to each other: a binding names its node, and is stored under the id
it carries itself.  Operations rekey bindings in place, remove a node together with
its bindings, and reuse the ordinals of removed nodes.  The integrity below is what
every one of them keeps, whether it succeeds or raises.

A node lives from its registration to its removal.  Ids minted by the gateway are
random: the row of a node whose very id is drawn again is replaced by the new node,
which ends the life of the old one just as a removal does.
-/

import CameraStack.Topology.NodeTable

namespace CameraStack.Topology

open CameraStack.Lib

/-! ## What is minted -/

/-- Ids minted by `add_node_by_host` begin with `node-`. -/
def StoreOp.MintsNodeId : StoreOp → Prop
  | .addNodeByHost _ _ _ mintedId _ => "node-".toList <+: mintedId.toList
  | _ => True

instance StoreOp.decidableMintsNodeId : ∀ op : StoreOp, Decidable op.MintsNodeId
  | .addNodeByHost _ _ _ mintedId _ =>
      inferInstanceAs (Decidable ("node-".toList <+: mintedId.toList))
  | .allocate .. | .ensureColor .. | .setDesired .. | .release .. | .migrateColorKey ..
  | .upsertNode .. | .setReachability .. | .setSerial .. | .setProvisionState ..
  | .touchChecked .. | .setMaintenance .. | .setHostKey .. | .setAgentToken .. | .removeNode ..
  | .upsertBinding .. | .removeBinding .. | .migrateRemoteBindingIds | .setStatus ..
  | .setFdirEnabled .. | .setDesiredUp .. => isTrue trivial

/-- A minted id is not the id of the local node. -/
theorem ne_localNodeId_of_minted {mintedId : String}
    (h : "node-".toList <+: mintedId.toList) : mintedId ≠ localNodeId := by
  rintro rfl
  exact absurd h (by decide)

/-- The operations after which a node is no longer the one it was. -/
def StoreOp.endsNode (nodeId : String) : StoreOp → Bool
  | .removeNode removed => removed = nodeId
  | .addNodeByHost _ _ _ mintedId _ => mintedId = nodeId
  | _ => false

/-! ## The invariant -/

/-- A binding is stored under its own id and belongs to a stored node. -/
def Anchored (nodes : Dict NodeRow) (key : String) (b : StreamBinding) : Prop :=
  key = b.bindingId ∧ b.nodeId ∈ nodes

/-- The integrity of the two tables. -/
structure TopologyState.Integrity (t : TopologyState) : Prop where
  anchored : Dict.Each (Anchored t.nodes) t.bindings
  remote : localNodeId ∉ t.nodes
  ordinals : OrdinalsDistinct t.nodes

theorem TopologyState.integrity_empty : ({} : TopologyState).Integrity :=
  ⟨Dict.each_empty, by simp, ordinalsDistinct_empty⟩

/-! ## Bindings stay anchored -/

section Anchored

variable {t t' : TopologyState} {nodes : Dict NodeRow}

theorem Anchored.of_subset {nodes' : Dict NodeRow} {key : String} {b : StreamBinding}
    (hsubset : ∀ nodeId, nodeId ∈ nodes → nodeId ∈ nodes') (h : Anchored nodes key b) :
    Anchored nodes' key b := ⟨h.1, hsubset b.nodeId h.2⟩

theorem anchored_upsertBinding {binding b : StreamBinding} {alloc : Allocator} {janusMountId : ℤ}
    (hanchored : Dict.Each (Anchored t.nodes) t.bindings)
    (h : t.upsertBinding binding alloc janusMountId = .ok (b, t')) :
    Dict.Each (Anchored t.nodes) t'.bindings := by
  obtain ⟨hvalid, rfl⟩ := TopologyState.upsertBinding_ok h
  obtain ⟨-, ⟨entry, hnode, -⟩, -⟩ := TopologyState.validateRemote_ok hvalid
  apply hanchored.insert
  obtain ⟨row, hrow, -⟩ := Option.map_eq_some_iff.mp hnode
  exact ⟨rfl, Dict.mem_of_getElem? hrow⟩

theorem anchored_removeBinding (bindingId : String)
    (hanchored : Dict.Each (Anchored nodes) t.bindings) :
    Dict.Each (Anchored nodes) (t.removeBinding bindingId).2.bindings := by
  unfold TopologyState.removeBinding
  split
  · exact hanchored.erase bindingId
  · exact hanchored

theorem anchored_migrateRow (rows : Dict NodeRow) (acc : Dict StreamBinding × ℕ) (oldId : String)
    (hanchored : Dict.Each (Anchored nodes) acc.1) :
    Dict.Each (Anchored nodes) (TopologyState.migrateRow rows acc oldId).1 := by
  unfold TopologyState.migrateRow
  split
  · exact hanchored
  · next b hb =>
      split
      · exact hanchored
      · split
        · exact hanchored
        · simp only
          split
          · exact hanchored
          · exact (hanchored.erase oldId).insert ⟨rfl, (hanchored oldId b hb).2⟩

theorem anchored_migrateRemoteBindingIds (hanchored : Dict.Each (Anchored nodes) t.bindings) :
    Dict.Each (Anchored nodes) t.migrateRemoteBindingIds.2.bindings := by
  suffices loop : ∀ (keys : List String) (acc : Dict StreamBinding × ℕ),
      Dict.Each (Anchored nodes) acc.1 →
        Dict.Each (Anchored nodes) (keys.foldl (TopologyState.migrateRow t.nodes) acc).1 from
    loop _ (t.bindings, 0) hanchored
  intro keys
  induction keys with
  | nil => exact fun acc h => h
  | cons key keys ih => exact fun acc h => ih _ (anchored_migrateRow t.nodes acc key h)

theorem anchored_updateBinding {bindingId : String} {f : StreamBinding → StreamBinding}
    {b : StreamBinding} (hanchored : Dict.Each (Anchored nodes) t.bindings)
    (h : t.updateBinding bindingId f = .ok (b, t'))
    (hid : ∀ b, (f b).bindingId = b.bindingId) (hnode : ∀ b, (f b).nodeId = b.nodeId) :
    Dict.Each (Anchored nodes) t'.bindings := by
  obtain ⟨old, hold, rfl⟩ := TopologyState.updateBinding_ok h
  obtain ⟨hkey, hmem⟩ := hanchored bindingId old hold
  apply hanchored.insert
  exact ⟨hkey.trans (hid old).symm, (hnode old).symm ▸ hmem⟩

/-- The cascade: what is left belongs to the nodes that are left. -/
theorem anchored_removeNode {nodeId : String} {r : Bool × List String}
    (hanchored : Dict.Each (Anchored t.nodes) t.bindings)
    (h : t.removeNode nodeId = .ok (r, t')) : Dict.Each (Anchored t'.nodes) t'.bindings := by
  rw [TopologyState.bindings_removeNode h, TopologyState.nodes_removeNode h]
  intro key b hb
  rw [Dict.getElem?_filter, Option.filter_eq_some_iff] at hb
  obtain ⟨hkey, hmem⟩ := hanchored key b hb.1
  have hother : b.nodeId ≠ nodeId := by simpa using hb.2
  exact ⟨hkey, Std.ExtTreeMap.mem_erase.mpr ⟨by simpa using hother.symm, hmem⟩⟩

end Anchored

/-- A step of the table that is not a removal loses no node. -/
theorem NodeStep.mem {lan : LanConfig} {t : TopologyState} {op : StoreOp} {nodes : Dict NodeRow}
    (step : NodeStep lan t op nodes) (hop : ∀ nodeId, op ≠ .removeNode nodeId) (nodeId : String)
    (h : nodeId ∈ t.nodes) : nodeId ∈ nodes := by
  cases step with
  | keep => exact h
  | register | enroll | amend => exact Std.ExtTreeMap.mem_insert.mpr (.inr h)
  | remove removed => exact absurd rfl (hop removed)

/-- No step of the table stores the local node. -/
theorem NodeStep.remote {lan : LanConfig} {t : TopologyState} {op : StoreOp}
    {nodes : Dict NodeRow} (step : NodeStep lan t op nodes) (hop : op.MintsNodeId)
    (h : localNodeId ∉ t.nodes) : localNodeId ∉ nodes := by
  have insert : ∀ {nodeId : String} {row : NodeRow}, nodeId ≠ localNodeId →
      localNodeId ∉ t.nodes.insert nodeId row := by
    intro nodeId row hne hmem
    rcases Std.ExtTreeMap.mem_insert.mp hmem with heq | hmem
    · exact hne (by simpa using heq)
    · exact h hmem
  cases step with
  | keep => exact h
  | register row hremote => exact insert hremote
  | enroll row => exact insert (ne_localNodeId_of_minted hop)
  | amend _ nodeId old new hold =>
      apply insert
      rintro rfl
      exact h (Dict.mem_of_getElem? hold)
  | remove nodeId => exact fun hmem => h (Std.ExtTreeMap.mem_of_mem_erase hmem)

/-- A result that keeps the bindings anchored in the old table, or raises, keeps them
so when it is written. -/
theorem anchored_written {α : Type} {t : TopologyState}
    {result : Except StoreError (α × TopologyState)}
    (hanchored : Dict.Each (Anchored t.nodes) t.bindings)
    (h : ∀ a t', result = .ok (a, t') → Dict.Each (Anchored t.nodes) t'.bindings) :
    Dict.Each (Anchored t.nodes) (written t result).bindings := by
  cases hresult : result with
  | error e => exact hanchored
  | ok pair => exact h pair.1 pair.2 (by rw [hresult])

/-- Apart from the removal of a node, every operation keeps the bindings anchored in
the table it found. -/
theorem Stores.anchored_apply (lan : LanConfig) {s : Stores} {op : StoreOp}
    (hop : ∀ nodeId, op ≠ .removeNode nodeId)
    (h : Dict.Each (Anchored s.topology.nodes) s.topology.bindings) :
    Dict.Each (Anchored s.topology.nodes) (s.apply lan op).topology.bindings := by
  have same : ∀ {t' : TopologyState}, t'.bindings = s.topology.bindings →
      Dict.Each (Anchored s.topology.nodes) t'.bindings := fun heq => heq ▸ h
  cases op with
  | allocate | ensureColor | setDesired | release | migrateColorKey => exact h
  | upsertNode =>
      exact anchored_written h fun _ _ hok => same (TopologyState.bindings_upsertNode hok)
  | addNodeByHost =>
      simp only [apply, topology_setTopology]
      exact anchored_written h fun _ _ hok => same (TopologyState.bindings_addNodeByHost hok)
  | setReachability | setSerial | setProvisionState | touchChecked | setMaintenance
  | setHostKey =>
      exact anchored_written h fun _ _ hok => same (TopologyState.bindings_updateNode hok)
  | setAgentToken =>
      exact anchored_written h fun _ _ hok => same (TopologyState.bindings_setAgentToken hok)
  | removeNode nodeId => exact absurd rfl (hop nodeId)
  | upsertBinding => exact anchored_written h fun _ _ => anchored_upsertBinding h
  | removeBinding bindingId => exact anchored_removeBinding bindingId h
  | migrateRemoteBindingIds => exact anchored_migrateRemoteBindingIds h
  | setStatus | setFdirEnabled | setDesiredUp =>
      exact anchored_written h fun _ _ hok =>
        anchored_updateBinding h hok (fun _ => rfl) (fun _ => rfl)

/-- Every operation keeps the integrity of the tables. -/
theorem TopologyState.Integrity.apply {s : Stores} (h : s.topology.Integrity) (lan : LanConfig)
    {op : StoreOp} (hop : op.MintsNodeId) : (s.apply lan op).topology.Integrity := by
  have step := s.nodeStep lan op
  refine ⟨?_, step.remote hop h.remote, step.ordinalsDistinct h.ordinals⟩
  by_cases hremove : ∃ nodeId, op = .removeNode nodeId
  · obtain ⟨nodeId, rfl⟩ := hremove
    cases hresult : s.topology.removeNode nodeId with
    | error e => simpa [Stores.apply, written, hresult] using h.anchored
    | ok pair =>
        simpa [Stores.apply, written, hresult] using anchored_removeNode h.anchored hresult
  · have hop' : ∀ nodeId, op ≠ .removeNode nodeId := fun nodeId heq => hremove ⟨nodeId, heq⟩
    intro key b hb
    exact (Stores.anchored_apply lan hop' h.anchored key b hb).of_subset (step.mem hop')

theorem TopologyState.Integrity.run {s : Stores} (h : s.topology.Integrity) (lan : LanConfig)
    {ops : List StoreOp} (hops : ∀ op ∈ ops, op.MintsNodeId) :
    ((storeMachine lan).run s ops).topology.Integrity :=
  (storeMachine lan).run_invariant (G := fun _ op => op.MintsNodeId)
    (I := fun s => s.topology.Integrity) (fun _ _ h hop => h.apply lan hop)
    ((storeMachine lan).along_of_forall (fun op hop _ => hops op hop) s) h

/-! ## Ordinals are stable, windows are apart -/

/-- A step that does not end a node keeps it and its ordinal. -/
theorem NodeStep.keeps_ordinal {lan : LanConfig} {t : TopologyState} {op : StoreOp}
    {nodes : Dict NodeRow} (step : NodeStep lan t op nodes) {nodeId : String} {ordinal : ℕ}
    (hop : op.endsNode nodeId = false)
    (h : t.nodes[nodeId]?.bind NodeRow.ordinal = some ordinal) :
    nodes[nodeId]?.bind NodeRow.ordinal = some ordinal := by
  cases step with
  | keep => exact h
  | @register changed host role reachability serial displayName token row hremote hhost hordinal =>
      rw [Dict.getElem?_insert]
      split
      · next heq =>
          subst heq
          rw [h] at hordinal
          exact hordinal
      · exact h
  | @enroll host role displayName mintedId token row =>
      have hne : mintedId ≠ nodeId := by simpa [StoreOp.endsNode] using hop
      rw [Dict.getElem?_insert, if_neg hne]
      exact h
  | amend _ changed old new hold hhost hordinal =>
      rw [Dict.getElem?_insert]
      split
      · next heq =>
          subst heq
          rw [hold] at h
          exact hordinal.trans h
      · exact h
  | remove removed =>
      have hne : removed ≠ nodeId := by simpa [StoreOp.endsNode] using hop
      rw [Dict.getElem?_erase, if_neg hne]
      exact h

/-- A node keeps its ordinal as long as it lives. -/
theorem ordinal_stable (lan : LanConfig) {s : Stores} {nodeId : String} {ordinal : ℕ}
    (h : s.topology.nodes[nodeId]?.bind NodeRow.ordinal = some ordinal) {ops : List StoreOp}
    (hops : ∀ op ∈ ops, op.endsNode nodeId = false) :
    ((storeMachine lan).run s ops).topology.nodes[nodeId]?.bind NodeRow.ordinal =
      some ordinal :=
  (storeMachine lan).run_invariant (G := fun _ op => op.endsNode nodeId = false)
    (I := fun s => s.topology.nodes[nodeId]?.bind NodeRow.ordinal = some ordinal)
    (fun s op h hop => (s.nodeStep lan op).keeps_ordinal hop h)
    ((storeMachine lan).along_of_forall (fun op hop _ => hops op hop) s) h

section Windows

variable {t : TopologyState} {nodeId nodeId' : String} {alloc alloc' : Allocator}

/-- Different nodes have different ordinals. -/
theorem OrdinalsDistinct.ne (h : OrdinalsDistinct t.nodes) (hne : nodeId ≠ nodeId')
    {row row' : NodeRow} {ordinal ordinal' : ℕ} (hrow : t.nodes[nodeId]? = some row)
    (hrow' : t.nodes[nodeId']? = some row') (hordinal : row.ordinal = some ordinal)
    (hordinal' : row'.ordinal = some ordinal') : ordinal ≠ ordinal' := by
  have hdistinct : row.ordinal ≠ row'.ordinal := h.apart nodeId nodeId' row row' hne hrow hrow'
  rw [hordinal, hordinal'] at hdistinct
  exact fun heq => hdistinct (congrArg some heq)

/-- Two nodes are never offered the same mountpoint. -/
theorem OrdinalsDistinct.mountpoint_ne (h : OrdinalsDistinct t.nodes) (hne : nodeId ≠ nodeId')
    {mp mp' : ℤ} (hmp : t.allocateMountpoint nodeId alloc = .ok mp)
    (hmp' : t.allocateMountpoint nodeId' alloc' = .ok mp') : mp ≠ mp' := by
  obtain ⟨row, ordinal, hrow, hordinal, hlow, hhigh⟩ := TopologyState.allocateMountpoint_ok hmp
  obtain ⟨row', ordinal', hrow', hordinal', hlow', hhigh'⟩ :=
    TopologyState.allocateMountpoint_ok hmp'
  have := h.ne hne hrow hrow' hordinal hordinal'
  simp only [TopologyState.nodeMpWindow] at *
  omega

/-- Two nodes are never offered the same port. -/
theorem OrdinalsDistinct.port_ne (h : OrdinalsDistinct t.nodes) (hne : nodeId ≠ nodeId')
    {port port' : ℤ} (hport : t.allocatePort nodeId alloc = .ok port)
    (hport' : t.allocatePort nodeId' alloc' = .ok port') : port ≠ port' := by
  obtain ⟨row, ordinal, hrow, hordinal, hlow, hhigh⟩ := TopologyState.allocatePort_ok hport
  obtain ⟨row', ordinal', hrow', hordinal', hlow', hhigh'⟩ :=
    TopologyState.allocatePort_ok hport'
  have := h.ne hne hrow hrow' hordinal hordinal'
  simp only [TopologyState.nodePortWindow] at *
  omega

end Windows

/-! ## Every reachable topology -/

/-- Referential integrity of a topology, with what may still happen to it. -/
structure TopologyState.Consistent (t : TopologyState) : Prop where
  keyed : ∀ (key : String) b, t.bindings[key]? = some b → key = b.bindingId
  owned : ∀ (key : String) b, t.bindings[key]? = some b →
    b.nodeId ∈ t.nodes ∧ b.nodeId ≠ localNodeId
  numbered : ∀ (nodeId : String) row, t.nodes[nodeId]? = some row → ∃ n, row.ordinal = some n
  distinct : ∀ (nodeId nodeId' : String) row row', nodeId ≠ nodeId' →
    t.nodes[nodeId]? = some row → t.nodes[nodeId']? = some row' → row.ordinal ≠ row'.ordinal
  mountpoints : ∀ (nodeId nodeId' : String) alloc alloc' mp mp', nodeId ≠ nodeId' →
    t.allocateMountpoint nodeId alloc = .ok mp →
      t.allocateMountpoint nodeId' alloc' = .ok mp' → mp ≠ mp'
  ports : ∀ (nodeId nodeId' : String) alloc alloc' port port', nodeId ≠ nodeId' →
    t.allocatePort nodeId alloc = .ok port →
      t.allocatePort nodeId' alloc' = .ok port' → port ≠ port'

theorem TopologyState.Integrity.consistent {t : TopologyState} (h : t.Integrity) :
    t.Consistent where
  keyed key b hb := (h.anchored key b hb).1
  owned key b hb := by
    have hmem := (h.anchored key b hb).2
    exact ⟨hmem, fun heq => h.remote (heq ▸ hmem)⟩
  numbered nodeId row hrow := Option.isSome_iff_exists.mp (h.ordinals.each nodeId row hrow)
  distinct nodeId nodeId' row row' hne hrow hrow' :=
    h.ordinals.apart nodeId nodeId' row row' hne hrow hrow'
  mountpoints _ _ _ _ _ _ hne hmp hmp' := h.ordinals.mountpoint_ne hne hmp hmp'
  ports _ _ _ _ _ _ hne hport hport' := h.ordinals.port_ne hne hport hport'

/-- From the empty store, every sequence of operations, successful or not, leaves a
consistent topology; and from there on a node keeps its ordinal for as long as it
lives, whatever else happens. -/
theorem topology_consistent (lan : LanConfig) (ops : List StoreOp)
    (hops : ∀ op ∈ ops, op.MintsNodeId) :
    ((storeMachine lan).run {} ops).topology.Consistent ∧
      ∀ (nodeId : String) row, ((storeMachine lan).run {} ops).topology.nodes[nodeId]? = some row →
        ∀ later : List StoreOp, (∀ op ∈ later, op.endsNode nodeId = false) →
          ∃ row', ((storeMachine lan).run {} (ops ++ later)).topology.nodes[nodeId]? = some row' ∧
            row'.ordinal = row.ordinal := by
  have hintegrity := TopologyState.integrity_empty.run (s := {}) lan hops
  refine ⟨hintegrity.consistent, ?_⟩
  intro nodeId row hrow later hlater
  obtain ⟨ordinal, hordinal⟩ := hintegrity.consistent.numbered nodeId row hrow
  have hbefore : ((storeMachine lan).run {} ops).topology.nodes[nodeId]?.bind NodeRow.ordinal =
      some ordinal := by
    rw [hrow]
    exact hordinal
  have hstable := ordinal_stable lan hbefore hlater
  rw [← Machine.run_append] at hstable
  obtain ⟨row', hrow', hordinal'⟩ := Option.bind_eq_some_iff.mp hstable
  exact ⟨row', hrow', hordinal'.trans hordinal.symm⟩

/-- Three nodes, a stream on the second; the first is forgotten before the third comes,
and a probe rekeys the stream. -/
def churn : List StoreOp :=
  [.addNodeByHost "192.168.1.20" "remote_producer" none "node-1a" "t1",
    .upsertNode "door" "192.168.1.21" "remote_producer" "unknown" none none "t2",
    .upsertBinding
      { bindingId := "door:color", nodeId := "door", sensor := "color"
        mode := .remoteProducer
        transport := { rtpPort := 5200 }
        janus := { mountpointId := 2100, rtpIface := "192.168.1.10" } } 1305,
    .removeNode "node-1a",
    .addNodeByHost "192.168.1.22" "remote_producer" none "node-3c" "t3",
    .setSerial "door" "d435", .migrateRemoteBindingIds]

/-- The third node takes over the ordinal of the first; the second keeps its own, under
which its rekeyed stream stays. -/
theorem churn_consistent :
    ((storeMachine {}).run {} churn).topology.bindings.keys = ["d435:color"] ∧
      ((storeMachine {}).run {} churn).topology.allocatePort "node-3c" ∅ = .ok 5100 ∧
      ((storeMachine {}).run {} churn).topology.allocatePort "door" ∅ = .ok 5202 ∧
      ((storeMachine {}).run {} churn).topology.Consistent :=
  ⟨by decide +kernel, by decide +kernel, by decide +kernel,
    (topology_consistent {} churn (by decide +kernel)).1⟩

end CameraStack.Topology
