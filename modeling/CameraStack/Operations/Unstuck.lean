/-
# Nodes left in the middle of provisioning

A node is marked before the parts of provisioning that may take long, and the mark goes away when
the operation marks how it ends.  An operation that dies with its process has a record that is
still running, and the reaper of the next process finds it.  Two ways lead past both: what is raised
in the middle ends the operation, and its record, without a mark; and the reaper ends the record
before it resets the node, so that a crash between the two leaves nothing to find.
-/

import CameraStack.Operations.Outcomes
import CameraStack.Topology.NodeTable

namespace CameraStack.Operations

open CameraStack.Bringup CameraStack.Lib CameraStack.Topology

/-! ## States of the nodes -/

/-- The state of a node in the topology. -/
def stateOf (t : TopologyState) (nodeId : String) : Option String :=
  t.nodes[nodeId]?.bind NodeRow.provisionState

theorem stateOf_written {t : TopologyState} {nodeId : String} {f : NodeRow → NodeRow} (n : String) :
    stateOf (written t (t.updateNode nodeId f)) n =
      if n = nodeId then (t.nodes[nodeId]?.map f).bind NodeRow.provisionState else stateOf t n := by
  rw [TopologyState.updateNode, stateOf, stateOf]
  cases hrow : t.nodes[nodeId]? with
  | none =>
      split_ifs with hsame
      · rw [hsame]
        simp [written, hrow]
      · rfl
  | some row =>
      simp only [written, Dict.getElem?_insert, @eq_comm _ nodeId n]
      split_ifs
      · rfl
      · rfl

/-- An effect marks a state of its own node or leaves the states as they are. -/
theorem stateOf_apply (nodeId : String) (t : TopologyState) (e : NodeEffect) (n : String) :
    match e.state? with
    | none => stateOf (e.apply nodeId t) n = stateOf t n
    | some state =>
        stateOf (e.apply nodeId t) n =
          if n = nodeId then (t.nodes[nodeId]?.map fun _ => state.value) else stateOf t n := by
  cases e with
  | installToken | bind | activate => rfl
  | setAgentToken token =>
      change stateOf (written t (t.setAgentToken nodeId token)) n = _
      rw [TopologyState.setAgentToken]
      cases t.nodes[nodeId]? with
      | none => rfl
      | some row => rfl
  | setSerial serial =>
      cases serial with
      | null | bool | int | float | arr | obj => rfl
      | str value =>
          refine (stateOf_written n).trans ?_
          split_ifs with hsame
          · rw [hsame, stateOf]
            cases t.nodes[nodeId]? with
            | none => rfl
            | some row => rfl
          · rfl
  | setProvisionState state detail =>
      refine (stateOf_written n).trans ?_
      by_cases hsame : n = nodeId
      · rw [if_pos hsame, if_pos hsame]
        cases t.nodes[nodeId]? with
        | none => rfl
        | some row => rfl
      · rw [if_neg hsame, if_neg hsame]

theorem stateOf_apply_other {nodeId n : String} (h : n ≠ nodeId) (t : TopologyState)
    (e : NodeEffect) : stateOf (e.apply nodeId t) n = stateOf t n := by
  have happly := stateOf_apply nodeId t e n
  split at happly
  · exact happly
  · rw [happly, if_neg h]

/-- A registration keeps the state of a node or begins without one. -/
theorem stateOf_register (lan : LanConfig) (s : Stores) {op : StoreOp} (hop : registers op = true)
    (n : String) :
    stateOf (s.apply lan op).topology n = stateOf s.topology n ∨
      stateOf (s.apply lan op).topology n = none := by
  cases op with
  | upsertNode nodeId host role reachability serial displayName token =>
      rw [Stores.apply, Stores.topology_setTopology, TopologyState.upsertNode]
      split_ifs
      · exact .inl rfl
      · simp only [written, TopologyState.putNode, stateOf, Dict.getElem?_insert]
        split_ifs with hsame
        · rw [← hsame]
          exact .inl rfl
        · exact .inl rfl
  | addNodeByHost host role displayName mintedId token =>
      rw [Stores.apply, Stores.topology_setTopology, TopologyState.addNodeByHost]
      simp only
      split
      · exact .inl rfl
      · split
        · exact .inl rfl
        · simp only [written, TopologyState.putNode, stateOf, Dict.getElem?_insert]
          split_ifs
          · exact .inr rfl
          · exact .inl rfl
  | _ => cases hop

/-! ## What the operations mark -/

/-- Provisioning that does not stop in the middle marks no state there last. -/
theorem EndsWith.settles {A : Type} {trouble : Option StageEnd}
    {ran : Except Raised A × List NodeEffect} (h : EndsWith trouble ran)
    (hlands : trouble ≠ some .stuck) {state : PState} (hlast : lastState ran.2 = some state) :
    state.inProgress = false := by
  obtain ⟨result, effects⟩ := ran
  simp only at hlast
  cases result with
  | ok =>
      cases trouble with
      | none =>
          rw [EndsWith, hlast] at h
          cases h
          rfl
      | some trouble =>
          cases trouble with
          | passed | raised | stuck => exact h.elim
          | reported =>
              rw [EndsWith, hlast] at h
              rcases h with hfailed | hnone
              · cases hfailed
                rfl
              · cases hnone
                rfl
  | error =>
      cases trouble with
      | none => exact h.elim
      | some trouble =>
          cases trouble with
          | passed | reported => exact h.elim
          | stuck => exact absurd rfl hlands
          | raised =>
              rw [EndsWith, hlast] at h
              rcases h with hnone | hnone
              · cases hnone
              · cases hnone
                rfl

section Marks

variable {json : PythonText} {nodeId : String} {found : Option NodeEntry}

theorem keeps_store (raises : Option Raised) {effect : NodeEffect} (hother : effect.state? = none) :
    Action.Keeps () lastState (store raises effect) := by
  intro effects
  cases raises with
  | some e => rfl
  | none =>
      change lastState (effects ++ [effect]) = lastState effects
      rw [lastState_append_singleton, hother, Option.none_or]

theorem keeps_command (answer : Except Raised RunResult) {effect : NodeEffect}
    (hother : effect.state? = none) : Action.Keeps () lastState (command answer effect) := by
  intro effects
  cases answer with
  | error e => rfl
  | ok r =>
      change lastState (if r.ok then effects ++ [effect] else effects) = lastState effects
      split_ifs
      · rw [lastState_append_singleton, hother, Option.none_or]
      · rfl

theorem keeps_rotateToken (m : RotateMeets) :
    Action.Keeps () lastState ((NodeOp.rotateToken m).fn json nodeId found) := by
  refine Action.Keeps.bind ?_ fun _ => .pure ()
  cases found with
  | none => exact .halt _
  | some node =>
      refine Action.Keeps.bind (keeps_command m.setToken rfl) fun r => ?_
      split_ifs
      · exact .pure false
      · exact (keeps_store m.tokenStored rfl).bind fun _ => .pure true

theorem keeps_activateSensor (m : SensorMeets) : Action.Keeps () lastState (activateSensor m) := by
  rw [activateSensor]
  cases m.bind with
  | error e => exact .pure _
  | ok outcome =>
      exact (keeps_store none rfl).bind fun _ => (keeps_command m.activate rfl).bind fun _ => .pure _

theorem keeps_activateEach (sensors : List SensorMeets) :
    Action.Keeps () lastState (activateEach sensors) := by
  induction sensors with
  | nil => exact .pure []
  | cons m rest ih =>
      exact (keeps_activateSensor m).bind fun result => ih.bind fun results => .pure _

theorem keeps_activate (sensors : List SensorMeets) :
    Action.Keeps () lastState ((NodeOp.activate sensors).fn json nodeId found) := by
  refine Action.Keeps.bind ?_ fun _ => .pure ()
  cases found with
  | none => exact .halt _
  | some node => exact keeps_activateEach sensors

end Marks

namespace NodeGateway

/-- The node is in the middle of provisioning. -/
def InProgress (s : NodeGateway) (nodeId : String) : Prop :=
  isInProgress (stateOf s.stores.topology nodeId) = true

/-- A process that serves has no node in the middle of provisioning but those that operations run
on. -/
def Unstuck (s : NodeGateway) : Prop :=
  s.phase = .up → ∀ nodeId, s.InProgress nodeId → ∃ r ∈ s.live, r.nodeId = nodeId

variable (lan : LanConfig) (json : PythonText)

/-- Crashes, restarts and the reaper leave a node that is not in the middle of provisioning as it
is. -/
def KeepsEnded (s : NodeGateway) : NodeOpEvent → Prop
  | .register _ | .run .. | .advance .. => True
  | e =>
      ∀ (nodeId : String) (row : NodeRow), s.stores.topology.nodes[nodeId]? = some row →
        isInProgress row.provisionState = false →
        ((nodeOpMachine lan json).next s e).stores.topology.nodes[nodeId]? = some row

/-- Provisioning does not end with something raised in the middle, and the process does not die
between the record that the reaper ends and the node that it resets. -/
def Lands (s : NodeGateway) : NodeOpEvent → Prop
  | .advance operationId _ =>
      ∀ r, s.running operationId = some r → r.rest = [] → ∀ m, r.op = .provision m →
        firstTrouble (provisionStages json m r.found) ≠ some .stuck
  | .crash => ∀ rest op, s.phase = .reaping rest (some op) → ¬ s.InProgress op.nodeId
  | .register _ | .run .. | .restart | .reap _ => True

/-- A node in the middle of provisioning is one that an operation runs on, one that a record says
an operation runs on, or one that the reaper will come to. -/
def Covered (s : NodeGateway) : Prop :=
  match s.phase with
  | .up => ∀ nodeId, s.InProgress nodeId → ∃ r ∈ s.live, r.nodeId = nodeId
  | .down => ∀ nodeId, s.InProgress nodeId → ∃ op ∈ s.journal.allRunning, op.nodeId = nodeId
  | .reaping rest marked =>
      (∀ nodeId, s.InProgress nodeId → ∃ op ∈ rest ++ marked.toList, op.nodeId = nodeId) ∧
        (∀ op ∈ rest, op ∈ s.journal.allRunning) ∧ (rest.map Operation.operationId).Nodup ∧
        ∀ op ∈ marked, op.nodeId ≠ localNodeId

/-- The records are of remote nodes. -/
def RemoteOnly (ops : History) : Prop := ∀ op ∈ ops, op.nodeId ≠ localNodeId

theorem RemoteOnly.finish {ops : History} (h : RemoteOnly ops) (operationId status lastError : String)
    (now : ℤ) : RemoteOnly (ops.finish operationId status lastError now) := by
  induction ops with
  | nil => exact h
  | cons op ops ih =>
      obtain ⟨hop, hops⟩ := List.forall_mem_cons.mp h
      rw [History.finish]
      split_ifs
      · exact List.forall_mem_cons.mpr ⟨hop, hops⟩
      · exact List.forall_mem_cons.mpr ⟨hop, ih hops⟩

/-- What every step preserves. -/
structure Recoverable (s : NodeGateway) : Prop where
  sound : s.Sound json
  nodes : (s.live.map fun r => r.nodeId).Nodup
  remote : RemoteOnly s.journal
  marks : ∀ r ∈ s.live, s.InProgress r.nodeId →
    ∃ state, lastState r.done = some state ∧ state.inProgress = true
  covered : s.Covered

variable {json} {s : NodeGateway}

theorem recoverable_initial : Recoverable json {} where
  sound := sound_initial json
  nodes := List.nodup_nil
  remote := fun _ hop => absurd hop List.not_mem_nil
  marks := fun _ hr => absurd hr List.not_mem_nil
  covered := by
    intro nodeId h
    simp [InProgress, stateOf, isInProgress] at h

/-- Nodes that are in the middle of provisioning afterwards were so before. -/
theorem Recoverable.setStores (h : s.Recoverable json) {stores : Stores}
    (hprogress : ∀ nodeId, InProgress { s with stores := stores } nodeId → s.InProgress nodeId) :
    Recoverable json { s with stores := stores } where
  sound := h.sound.setStores stores
  nodes := h.nodes
  remote := h.remote
  marks := fun r hr hin => h.marks r hr (hprogress r.nodeId hin)
  covered := by
    have hcovered := h.covered
    rw [Covered] at hcovered ⊢
    simp only
    split
    · rename_i hphase
      rw [hphase] at hcovered
      exact fun nodeId hin => hcovered nodeId (hprogress nodeId hin)
    · rename_i hphase
      rw [hphase] at hcovered
      exact fun nodeId hin => hcovered nodeId (hprogress nodeId hin)
    · rename_i rest marked hphase
      rw [hphase] at hcovered
      exact ⟨fun nodeId hin => hcovered.1 nodeId (hprogress nodeId hin), hcovered.2⟩

theorem Recoverable.register (h : s.Recoverable json) (op : StoreOp) :
    (s.register lan op).Recoverable json := by
  rw [NodeGateway.register]
  split
  · split_ifs with hop
    · refine h.setStores fun nodeId hin => ?_
      rw [InProgress] at hin ⊢
      rcases stateOf_register lan s.stores hop nodeId with hsame | hnone
      · rw [← hsame]
        exact hin
      · simp only [hnone] at hin
        cases hin
    · exact h
  · exact h

/-- No operation runs on a node that the journal has free. -/
theorem Recoverable.free (h : s.Recoverable json) {nodeId : String}
    (hfree : s.journal.runningForNode nodeId = none) : ∀ r ∈ s.live, r.nodeId ≠ nodeId := by
  intro r hr hnode
  obtain ⟨op, hop, -, hopnode, hrunning⟩ := h.sound.guarded r hr
  have hno := List.find?_eq_none.mp hfree op hop
  simp [hopnode, hnode, hrunning] at hno

theorem Recoverable.run (h : s.Recoverable json) (nodeId : String) (op : NodeOp) (now : ℤ) :
    (s.run json nodeId op now).Recoverable json := by
  have hsound := h.sound.run nodeId op now
  revert hsound
  rw [NodeGateway.run]
  split
  · rename_i hup
    have hcovered := h.covered
    rw [Covered, hup] at hcovered
    split_ifs with hlocal
    · exact fun _ => h
    · split
      · intro hsound
        refine ⟨hsound, h.nodes, h.remote, h.marks, ?_⟩
        rw [Covered]
        simp only [hup]
        exact hcovered
      · rename_i journal hbegin
        intro hsound
        obtain ⟨hfree, rfl⟩ := History.begin_eq_ok.mp hbegin
        have hnew := h.free hfree
        refine ⟨hsound, ?_, ?_, ?_, ?_⟩
        · rw [List.map_append, List.map_singleton]
          refine List.Nodup.append h.nodes (List.nodup_singleton _) fun node hold hmem => ?_
          rw [List.mem_singleton.mp hmem] at hold
          obtain ⟨r, hr, hnode⟩ := List.mem_map.mp hold
          exact hnew r hr hnode
        · intro op' hop'
          rcases List.mem_append.mp ((History.capped_record _ _).order.subset hop') with hold | hadded
          · exact h.remote op' hold
          · rw [List.mem_singleton.mp hadded]
            exact hlocal
        · intro r hr hin
          rcases List.mem_append.mp hr with hold | hadded
          · exact h.marks r hold hin
          · rw [List.mem_singleton.mp hadded] at hin
            obtain ⟨r', hr', hnode⟩ := hcovered nodeId hin
            exact absurd hnode (hnew r' hr')
        · rw [Covered]
          simp only [hup]
          intro n hin
          obtain ⟨r, hr, hnode⟩ := hcovered n hin
          exact ⟨r, List.mem_append_left _ hr, hnode⟩
  · exact fun _ => h

/-- A node in the middle behind an effect was marked by it, or was in the middle before. -/
theorem marked_effect {r : NodeRun} {t : TopologyState} {e : NodeEffect}
    (hbefore : isInProgress (stateOf t r.nodeId) = true →
      ∃ state, lastState r.done = some state ∧ state.inProgress = true)
    (hin : isInProgress (stateOf (e.apply r.nodeId t) r.nodeId) = true) :
    ∃ state, lastState (r.done ++ [e]) = some state ∧ state.inProgress = true := by
  rw [lastState_append_singleton]
  have happly := stateOf_apply r.nodeId t e r.nodeId
  cases hmark : e.state? with
  | none =>
      rw [hmark] at happly
      rw [happly] at hin
      rw [Option.none_or]
      exact hbefore hin
  | some state =>
      rw [hmark] at happly
      refine ⟨state, rfl, ?_⟩
      rw [happly, if_pos rfl] at hin
      rw [← isInProgress_value]
      cases hrow : t.nodes[r.nodeId]? with
      | none =>
          rw [hrow] at hin
          cases hin
      | some row =>
          rw [hrow] at hin
          exact hin

/-- An operation that has had an effect has marked the node, if it is in the middle. -/
theorem Recoverable.effect (h : s.Recoverable json) {operationId : String} {r : NodeRun}
    (hrunning : s.running operationId = some r) {e : NodeEffect} {rest : List NodeEffect}
    (hrest : r.rest = e :: rest) (now : ℤ) : (s.advance operationId now).Recoverable json := by
  have hsound := h.sound.advance operationId now
  obtain ⟨hr, hid⟩ := mem_of_running hrunning
  have hup := h.sound.serving r hr
  have hcovered := h.covered
  rw [Covered, hup] at hcovered
  revert hsound
  rw [NodeGateway.advance, hrunning]
  simp only [hrest]
  intro hsound
  have hnodes : ∀ r' : NodeRun, (if r'.operationId = operationId then
      NodeRun.advanced e rest r' else r').nodeId = r'.nodeId := by
    intro r'
    split_ifs
    · rfl
    · rfl
  have hsame : ∀ r' ∈ s.live, r'.nodeId = r.nodeId → r' = r := fun r' hr' hnode =>
    List.inj_on_of_nodup_map h.nodes hr' hr hnode
  refine ⟨hsound, ?_, h.remote, ?_, ?_⟩
  · have hkept : (s.live.map fun r' => if r'.operationId = operationId then
        NodeRun.advanced e rest r' else r').map (fun r => r.nodeId) =
        s.live.map fun r => r.nodeId := by
      rw [List.map_map]
      exact List.map_congr_left fun r' _ => hnodes r'
    rw [hkept]
    exact h.nodes
  · intro r' hr' hin
    obtain ⟨old, hold, rfl⟩ := List.mem_map.mp hr'
    rw [hnodes] at hin
    by_cases hnode : old.nodeId = r.nodeId
    · rw [hsame old hold hnode, if_pos hid]
      rw [hnode] at hin
      exact marked_effect (h.marks r hr) hin
    · have hkept := stateOf_apply_other hnode s.stores.topology e
      have hother : old.operationId ≠ operationId := by
        intro hsameid
        have hold' := List.inj_on_of_nodup_map h.sound.distinct hold hr (hsameid.trans hid.symm)
        exact hnode (congrArg (fun r : NodeRun => r.nodeId) hold')
      rw [if_neg hother]
      change isInProgress (stateOf (e.apply r.nodeId s.stores.topology) old.nodeId) = true at hin
      rw [hkept] at hin
      exact h.marks old hold hin
  · rw [Covered]
    simp only [setTopology, hup]
    intro n hin
    by_cases hnode : n = r.nodeId
    · exact ⟨_, List.mem_map_of_mem hr, (hnodes r).trans hnode.symm⟩
    · have hkept := stateOf_apply_other hnode s.stores.topology e
      change isInProgress (stateOf (e.apply r.nodeId s.stores.topology) n) = true at hin
      rw [hkept] at hin
      obtain ⟨r', hr', hr'node⟩ := hcovered n hin
      exact ⟨_, List.mem_map_of_mem hr', (hnodes r').trans hr'node⟩

/-- An operation that has come to its end leaves its node out of the middle, unless something was
raised there. -/
theorem Recoverable.ended (h : s.Recoverable json) {r : NodeRun} (hr : r ∈ s.live)
    (hrest : r.rest = []) (hlands : ∀ m, r.op = .provision m →
      firstTrouble (provisionStages json m r.found) ≠ some .stuck) : ¬ s.InProgress r.nodeId := by
  intro hin
  obtain ⟨state, hlast, hprogress⟩ := h.marks r hr hin
  have hran := h.sound.ran r hr
  rw [hrest, List.append_nil] at hran
  have hunmarked : ∀ op : NodeOp, r.op = op →
      Action.Keeps () lastState (op.fn json r.nodeId r.found) → False := by
    intro op hop hkeeps
    have hnone := hkeeps []
    rw [← hop, hran, hlast] at hnone
    cases hnone
  cases hop : r.op with
  | provision m =>
      have hends := endsWith_provision json r.nodeId m r.found
      have hdone : (provision json r.nodeId m r.found () []).2 = r.done := by
        rw [hop, NodeOp.fn, Action.run_bind_pure] at hran
        exact congrArg Prod.snd hran
      rw [← hdone] at hlast
      rw [hends.settles (hlands m hop) hlast] at hprogress
      cases hprogress
  | rotateToken m => exact hunmarked _ hop (keeps_rotateToken m)
  | activate sensors => exact hunmarked _ hop (keeps_activate sensors)

/-- The operation that has come to its end is recorded and gone. -/
theorem Recoverable.recorded (h : s.Recoverable json) {operationId : String} {r : NodeRun}
    (hrunning : s.running operationId = some r) (hrest : r.rest = [])
    (hout : ¬ s.InProgress r.nodeId) (now : ℤ) : (s.advance operationId now).Recoverable json := by
  have hsound := h.sound.advance operationId now
  obtain ⟨hr, hid⟩ := mem_of_running hrunning
  have hup := h.sound.serving r hr
  have hcovered := h.covered
  rw [Covered, hup] at hcovered
  revert hsound
  rw [NodeGateway.advance, hrunning]
  simp only [hrest]
  intro hsound
  refine ⟨hsound, h.nodes.sublist (List.filter_sublist.map _), h.remote.finish _ _ _ _, ?_, ?_⟩
  · exact fun r' hr' hin => h.marks r' (List.mem_of_mem_filter hr') hin
  · rw [Covered]
    simp only [hup]
    intro n hin
    obtain ⟨r', hr', hnode⟩ := hcovered n hin
    refine ⟨r', List.mem_filter.mpr ⟨hr', decide_eq_true fun hsame => hout ?_⟩, hnode⟩
    rw [← List.inj_on_of_nodup_map h.sound.distinct hr' hr (hsame.trans hid.symm), hnode]
    exact hin

theorem Recoverable.crash (h : s.Recoverable json) (hlands : s.Lands json .crash) :
    s.crash.Recoverable json := by
  refine ⟨h.sound.crash, List.nodup_nil, h.remote, fun r hr => absurd hr List.not_mem_nil, ?_⟩
  have hcovered := h.covered
  rw [Covered] at hcovered
  change ∀ nodeId, s.InProgress nodeId → ∃ op ∈ s.journal.allRunning, op.nodeId = nodeId
  intro n hin
  cases hphase : s.phase with
  | up =>
      rw [hphase] at hcovered
      obtain ⟨r, hr, hnode⟩ := hcovered n hin
      obtain ⟨op, hop, -, hopnode, hrunning⟩ := h.sound.guarded r hr
      exact ⟨op, List.mem_filter.mpr ⟨hop, hrunning⟩, hopnode.trans hnode⟩
  | down =>
      rw [hphase] at hcovered
      exact hcovered n hin
  | reaping rest marked =>
      rw [hphase] at hcovered
      obtain ⟨op, hop, hnode⟩ := hcovered.1 n hin
      rcases List.mem_append.mp hop with hrest | hmarked
      · exact ⟨op, hcovered.2.1 op hrest, hnode⟩
      · rw [Option.mem_toList] at hmarked
        rw [hmarked] at hphase
        exact absurd (hnode ▸ hin) (hlands rest op hphase)

theorem Recoverable.restart (h : s.Recoverable json) : s.restart.Recoverable json := by
  have hsound := h.sound.restart
  revert hsound
  rw [NodeGateway.restart]
  split
  · rename_i hphase
    have hcovered := h.covered
    rw [Covered, hphase] at hcovered
    refine fun hsound => ⟨hsound, h.nodes, h.remote, h.marks, ?_, ?_, ?_, ?_⟩
    · intro n hin
      obtain ⟨op, hop, hnode⟩ := hcovered n hin
      exact ⟨op, List.mem_append_left _ hop, hnode⟩
    · exact fun op hop => hop
    · exact h.sound.ids.sublist (List.filter_sublist.map _)
    · exact fun op hop => absurd hop (Option.not_mem_none op)
  · exact fun _ => h

/-- What the reaper marks. -/
def interrupted (op : Operation) : NodeEffect :=
  .setProvisionState .failed (some ("interrupted by restart: " ++ op.opType))

theorem nodes_interrupted_other {op : Operation} {n : String} (h : n ≠ op.nodeId)
    (t : TopologyState) : ((interrupted op).apply op.nodeId t).nodes[n]? = t.nodes[n]? := by
  change (written t (t.updateNode op.nodeId _)).nodes[n]? = _
  rw [TopologyState.updateNode]
  cases t.nodes[op.nodeId]? with
  | none => rfl
  | some row => simp only [written, Dict.getElem?_insert, if_neg h.symm]

theorem unstick_remote {op : Operation} (hremote : op.nodeId ≠ localNodeId) :
    s.unstick op =
      if isInProgress (stateOf s.stores.topology op.nodeId) = true then
        s.setTopology ((interrupted op).apply op.nodeId s.stores.topology)
      else s := by
  rw [unstick, TopologyState.getNode, if_neg hremote, stateOf]
  cases s.stores.topology.nodes[op.nodeId]? with
  | none => rfl
  | some row => rfl

/-- A node that the reaper has come to is not in the middle any more, and no other is. -/
theorem inProgress_unstick {op : Operation} (hremote : op.nodeId ≠ localNodeId) {n : String}
    (hin : (s.unstick op).InProgress n) : s.InProgress n ∧ n ≠ op.nodeId := by
  rw [unstick_remote hremote] at hin
  split_ifs at hin with hmiddle
  · have happly := stateOf_apply op.nodeId s.stores.topology (interrupted op) n
    change isInProgress (stateOf ((interrupted op).apply op.nodeId s.stores.topology) n) = true
      at hin
    simp only [interrupted, NodeEffect.state?] at happly
    rw [interrupted, happly] at hin
    split_ifs at hin with hsame
    · cases hrow : s.stores.topology.nodes[op.nodeId]? with
      | none =>
          rw [hrow] at hin
          cases hin
      | some row =>
          rw [hrow] at hin
          exact absurd (hin.symm.trans (isInProgress_value .failed)) (by decide)
    · exact ⟨hin, hsame⟩
  · refine ⟨hin, fun hsame => hmiddle ?_⟩
    rw [← hsame]
    exact hin

theorem Recoverable.reap (h : s.Recoverable json) (now : ℤ) : (s.reap now).Recoverable json := by
  have hsound := h.sound.reap now
  have hcovered := h.covered
  rw [Covered] at hcovered
  revert hsound
  rw [NodeGateway.reap]
  split
  · rename_i rest op hphase
    rw [hphase] at hcovered
    obtain ⟨hin, hrunning, hnodup, hremote⟩ := hcovered
    have hlive : s.live = [] := h.sound.live_eq_nil (by rw [hphase]; exact Phase.noConfusion)
    obtain ⟨stores, hstores⟩ := unstick_eq op s
    have hunstuck := @inProgress_unstick s op (hremote op rfl)
    rw [hstores] at hunstuck ⊢
    refine fun hsound => ⟨hsound, h.nodes, h.remote, fun r hr => ?_, ?_, hrunning, hnodup, ?_⟩
    · rw [hlive] at hr
      cases hr
    · intro n hn
      obtain ⟨hbefore, hother⟩ := hunstuck hn
      obtain ⟨op', hop', hnode⟩ := hin n hbefore
      refine ⟨op', ?_, hnode⟩
      rcases List.mem_append.mp hop' with hrest | hmarked
      · exact List.mem_append_left _ hrest
      · rw [Option.toList_some, List.mem_singleton] at hmarked
        rw [hmarked] at hnode
        exact absurd hnode.symm hother
    · exact fun op' hop' => absurd hop' (Option.not_mem_none op')
  · rename_i op rest hphase
    rw [hphase] at hcovered
    obtain ⟨hin, hrunning, hnodup, hremote⟩ := hcovered
    rw [List.map_cons, List.nodup_cons] at hnodup
    refine fun hsound => ⟨hsound, h.nodes, h.remote.finish _ _ _ _, h.marks, ?_, ?_, hnodup.2, ?_⟩
    · intro n hn
      obtain ⟨op', hop', hnode⟩ := hin n hn
      refine ⟨op', ?_, hnode⟩
      rw [Option.toList_none, List.append_nil] at hop'
      rcases List.mem_cons.mp hop' with rfl | hrest
      · exact List.mem_append_right _ List.mem_cons_self
      · exact List.mem_append_left _ hrest
    · intro op' hop'
      obtain ⟨hmem, hrun⟩ := List.mem_filter.mp (hrunning op' (List.mem_cons_of_mem op hop'))
      have hother : op'.operationId ≠ op.operationId := fun hsame =>
        hnodup.1 (hsame ▸ List.mem_map_of_mem hop')
      exact List.mem_filter.mpr ⟨History.mem_finish hmem hother _ _ now, hrun⟩
    · intro op' hop'
      rw [← Option.some.inj hop']
      have hmem := hrunning op List.mem_cons_self
      exact h.remote op (List.mem_filter.mp hmem).1
  · rename_i hphase
    rw [hphase] at hcovered
    refine fun hsound => ⟨hsound, h.nodes, h.remote, h.marks, fun n hn => ?_⟩
    obtain ⟨op, hop, -⟩ := hcovered.1 n hn
    cases hop
  · exact fun _ => h
  · exact fun _ => h

theorem Recoverable.next (h : s.Recoverable json) (e : NodeOpEvent) (hlands : s.Lands json e) :
    ((nodeOpMachine lan json).next s e).Recoverable json := by
  cases e with
  | register op => exact h.register lan op
  | run nodeId op now => exact h.run nodeId op now
  | crash => exact h.crash hlands
  | restart => exact h.restart
  | reap now => exact h.reap now
  | advance operationId now =>
      change (s.advance operationId now).Recoverable json
      cases hrunning : s.running operationId with
      | none =>
          rw [NodeGateway.advance, hrunning]
          exact h
      | some r =>
          cases hrest : r.rest with
          | cons e rest => exact h.effect hrunning hrest now
          | nil =>
              have hr := (mem_of_running hrunning).1
              exact h.recorded hrunning hrest (h.ended hr hrest (hlands r hrunning hrest)) now

/-- A process that serves has come to the end of its reaper, and no node is left. -/
theorem Recoverable.unstuck (h : s.Recoverable json) : s.Unstuck := by
  intro hup
  have hcovered := h.covered
  rw [Covered, hup] at hcovered
  exact hcovered

/-- The reaper leaves a node that is not in the middle as it is. -/
theorem Recoverable.keepsEnded (h : s.Recoverable json) (e : NodeOpEvent) :
    s.KeepsEnded lan json e := by
  cases e with
  | register | run | advance => trivial
  | crash => exact fun _ _ hrow _ => hrow
  | restart =>
      intro nodeId row hrow hended
      change (s.restart).stores.topology.nodes[nodeId]? = some row
      rw [NodeGateway.restart]
      split
      · exact hrow
      · exact hrow
  | reap now =>
      intro nodeId row hrow hended
      change (s.reap now).stores.topology.nodes[nodeId]? = some row
      rw [NodeGateway.reap]
      split
      · rename_i rest op hphase
        have hcovered := h.covered
        rw [Covered, hphase] at hcovered
        change (s.unstick op).stores.topology.nodes[nodeId]? = some row
        rw [unstick_remote (hcovered.2.2.2 op rfl)]
        split_ifs with hmiddle
        · have hother : nodeId ≠ op.nodeId := by
            rintro rfl
            rw [stateOf, hrow] at hmiddle
            exact absurd (hmiddle.symm.trans hended) (by decide)
          exact (nodes_interrupted_other hother _).trans hrow
        · exact hrow
      · exact hrow
      · exact hrow
      · exact hrow
      · exact hrow

/-- In every run in which no provisioning ends with something raised in the middle, and the process
does not die between the record that the reaper ends and the node that it resets, no node is stuck,
and what has ended stays as it is through crashes and the reaper. -/
theorem no_node_stuck (lan : LanConfig) (json : PythonText) (events : List NodeOpEvent)
    (hlands : (nodeOpMachine lan json).Along (Lands json) {} events) :
    (nodeOpMachine lan json).Along
      (fun s e => ((nodeOpMachine lan json).next s e).Unstuck ∧ s.KeepsEnded lan json e) {} events :=
  (nodeOpMachine lan json).along_of_invariant
    (fun _ e h hlands => h.next lan e hlands)
    (fun _ e h hlands => ⟨(h.next lan e hlands).unstuck, h.keepsEnded lan e⟩)
    hlands recoverable_initial

/-- A parser that reads nothing. -/
def noJson : PythonText where
  loads _ := .decodeError
  repr := id

/-- A process that dies in the middle of provisioning, and the reaper of the next one. -/
def interruptedRun : List NodeOpEvent :=
  [registerCamera, .run "node-1" (.provision {}) 0, .advance (freshId 0) 1, .crash, .restart,
    .reap 2, .reap 3, .reap 4]

/-- The node is reset. -/
theorem no_node_stuck_interrupted :
    (nodeOpMachine {} noJson).Along
      (fun s e => ((nodeOpMachine {} noJson).next s e).Unstuck ∧ s.KeepsEnded {} noJson e) {}
      interruptedRun := by
  refine no_node_stuck {} noJson interruptedRun ⟨trivial, trivial, ?_, ?_, trivial, trivial,
    trivial, trivial, trivial⟩
  · intro r hrunning hrest
    cases hrunning
    cases hrest
  · intro rest op hphase
    cases hphase

/-- A probe that prints a list: what is raised ends the operation, and the node stays in the
middle. -/
theorem list_probe_sticks :
    ¬ ∀ (lan : LanConfig) (json : PythonText) (events : List NodeOpEvent),
      (nodeOpMachine lan json).Along
        (fun s e => ((nodeOpMachine lan json).next s e).Unstuck ∧ s.KeepsEnded lan json e) {}
        events := by
  intro h
  have hrun := h {} { loads := fun _ => .value (.arr []), repr := id }
    ([registerCamera, .run "node-1" (.provision { probe := .ok { stdout := "[]" } }) 0,
      .advance (freshId 0) 1, .advance (freshId 0) 2] ++ [.advance (freshId 0) 3])
  have hlast := ((Machine.along_append _ _ _ _).mp hrun).2.1.1
  obtain ⟨r, hr, -⟩ := hlast rfl "node-1" rfl
  cases hr

end NodeGateway

end CameraStack.Operations
