/-
# The declared fleet

A manifest declares the nodes of the fleet and the sensors of each.  The plan says how the stores
differ from it: which nodes have to be registered, provisioned or given streams, and which nodes
and streams the manifest does not name.  The reconcile of the gateway registers the nodes that are
missing, and does nothing else.

The plan is in sync when it has nothing to do and no node is extra; streams that are extra do not
count.
-/

import Mathlib.Data.List.Sort
import CameraStack.Topology.Integrity
import CameraStack.Topology.NodeTable
import CameraStack.Topology.Firewall

namespace CameraStack.Topology

open CameraStack.Lib

/-! ## The manifest -/

/-- A value of the manifest; a scalar that is no string is kept as the text `str` makes of it. -/
inductive TomlValue
  | string (s : String)
  | scalar (text : String)
  | array (items : List TomlValue)
  | table (entries : List (String × TomlValue))

/-- `str` of a value; how it shows arrays and tables is left open. -/
def TomlValue.text (shown : TomlValue → String) : TomlValue → String
  | .string s => s
  | .scalar text => text
  | value => shown value

/-- What reading the manifest's file ends with. -/
inductive ManifestFile
  | missing
  | unreadable (message : String)
  | notToml (message : String)
  | parsed (entries : List (String × TomlValue))

/-- Why a manifest is refused, with the values its message mentions. -/
inductive ManifestError
  | notFound
  | cannotRead (message : String)
  | invalidToml (message : String)
  | nodeNotArray
  | nodeNotTable (index : ℕ)
  | missingHost (index : ℕ)
  | duplicateHost (host : String)
  | streamsEmpty (host : String)
  | invalidSensors (host : String) (bad : List TomlValue)

/-- `VALID_SENSORS`. -/
def validSensors : List String := ["color", "depth", "ir1", "ir2"]

/-- A node that is declared. -/
structure DesiredNode where
  host : String
  displayName : Option String
  streams : List String
  deriving DecidableEq

/-- A valid sensor. -/
def TomlValue.sensor? : TomlValue → Option String
  | .string s => if s ∈ validSensors then some s else none
  | _ => none

/-- The sensors of a node, each once. -/
def loadStreams (host : String) : Option TomlValue → Except ManifestError (List String)
  | some (.array (item :: items)) =>
      match (item :: items).filter fun value => value.sensor?.isNone with
      | [] => .ok ((item :: items).filterMap TomlValue.sensor?).eraseDups
      | bad => .error (.invalidSensors host bad)
  | _ => .error (.streamsEmpty host)

/-- The loop of `load_manifest`, with the hosts seen so far. -/
def loadNodes (shown : TomlValue → String) :
    ℕ → List String → List TomlValue → Except ManifestError (List DesiredNode)
  | _, _, [] => .ok []
  | i, seen, .table entries :: rest =>
      let host := pyStrip (((entries.lookup "host").map (TomlValue.text shown)).getD "")
      if host = "" then .error (.missingHost i)
      else if host ∈ seen then .error (.duplicateHost host)
      else
        match loadStreams host (entries.lookup "streams") with
        | .error e => .error e
        | .ok streams =>
            match loadNodes shown (i + 1) (host :: seen) rest with
            | .error e => .error e
            | .ok nodes =>
                let displayName := (entries.lookup "display_name").map (TomlValue.text shown)
                .ok ({ host, displayName, streams } :: nodes)
  | i, _, _ :: _ => .error (.nodeNotTable i)

/-- `load_manifest`. -/
def loadManifest (shown : TomlValue → String) :
    ManifestFile → Except ManifestError (List DesiredNode)
  | .missing => .error .notFound
  | .unreadable message => .error (.cannotRead message)
  | .notToml message => .error (.invalidToml message)
  | .parsed entries =>
      match (entries.lookup "node").getD (.array []) with
      | .array nodes => loadNodes shown 0 [] nodes
      | _ => .error .nodeNotArray

/-! ## The plan -/

/-- What is left to do for a node. -/
inductive FleetAction
  | register
  | provision
  | activate (streams : List String)
  deriving DecidableEq

/-- The plan of one declared node. -/
structure NodePlan where
  host : String
  desiredStreams : List String
  nodeId : Option String
  registered : Bool
  provisioned : Bool
  activeStreams : List String
  missingStreams : List String
  extraStreams : List String
  actions : List FleetAction

/-- The plan of the fleet. -/
structure FleetPlan where
  nodes : List NodePlan
  extraNodes : List String

/-- `in_sync`. -/
def FleetPlan.inSync (p : FleetPlan) : Bool :=
  p.extraNodes.isEmpty && p.nodes.all fun n => n.actions.isEmpty

/-- The nodes but the implicit local one. -/
def remoteNodes (t : TopologyState) : List NodeEntry :=
  ((listNodes t).toList.filter fun entry => entry.1 ≠ localNodeId).map Prod.snd

/-- `by_host`, of `_actual`. -/
def nodesByHost (t : TopologyState) : Dict NodeEntry :=
  Std.ExtTreeMap.ofList ((remoteNodes t).map fun n => (n.host, n))

/-- `streams_by_node`, of `_actual`, at one node. -/
def Stores.streamsOfNode (s : Stores) (nodeId : String) : List String :=
  (s.listBindings.filter fun entry =>
    entry.2.mode = .remoteProducer ∧ entry.2.nodeId = nodeId).map fun entry => entry.2.sensor

/-- The body of the loop of `plan`. -/
def Stores.planNode (s : Stores) (d : DesiredNode) : NodePlan :=
  match (nodesByHost s.topology)[d.host]? with
  | none =>
      { host := d.host
        desiredStreams := d.streams
        nodeId := none
        registered := false
        provisioned := false
        activeStreams := []
        missingStreams := d.streams
        extraStreams := []
        actions := [.register, .provision, .activate d.streams] }
  | some node =>
      let provisioned := decide (node.provisionState = some "ready")
      let active := (s.streamsOfNode node.nodeId).eraseDups.insertionSort fun a b => a ≤ b
      let missing := d.streams.filter (· ∉ active)
      { host := d.host
        desiredStreams := d.streams
        nodeId := some node.nodeId
        registered := true
        provisioned
        activeStreams := active
        missingStreams := missing
        extraStreams := active.filter (· ∉ d.streams)
        actions :=
          (if provisioned then [] else [.provision]) ++
            if missing = [] then [] else [.activate missing] }

/-- `plan`; the hosts are enumerated in their order. -/
def Stores.planFleet (s : Stores) (manifest : List DesiredNode) : FleetPlan where
  nodes := manifest.map s.planNode
  extraNodes := (nodesByHost s.topology).keys.filter (· ∉ manifest.map DesiredNode.host)

/-! ## The reconcile of the gateway -/

/-- What is drawn for a node that is registered: its id, and its token. -/
structure NodeDraw where
  nodeId : String
  token : String

/-- The loop of `reconcile_gateway`. -/
def reconcileNodes (lan : LanConfig) (draw : String → NodeDraw) (existing : List String) :
    List DesiredNode → TopologyState → Except StoreError (List String) × TopologyState
  | [], t => (.ok [], t)
  | d :: rest, t =>
      if d.host ∈ existing then reconcileNodes lan draw existing rest t
      else
        match t.addNodeByHost lan d.host "remote_producer" d.displayName (draw d.host).nodeId
            (draw d.host).token with
        | .error e => (.error e, t)
        | .ok (node, t') =>
            match reconcileNodes lan draw existing rest t' with
            | (.error e, t'') => (.error e, t'')
            | (.ok registered, t'') => (.ok (node.nodeId :: registered), t'')

/-- `reconcile_gateway`. -/
def reconcileGateway (lan : LanConfig) (draw : String → NodeDraw) (manifest : List DesiredNode)
    (t : TopologyState) : Except StoreError (List String) × TopologyState :=
  reconcileNodes lan draw ((remoteNodes t).map fun n => n.host) manifest t

/-! ## What the plan reads -/

section Plan

variable {s : Stores} {t : TopologyState} {d : DesiredNode} {n : NodeEntry} {host sensor : String}

/-- A node of the table as callers see it. -/
theorem getElem?_listNodes {id : String} (hid : id ≠ localNodeId) :
    (listNodes t)[id]? = t.nodes[id]?.map fun row =>
      { NodeEntry.fromRow id row with agentToken := t.secrets[id]? } := by
  rw [listNodes, Std.ExtTreeMap.getElem?_insertIfNew, Std.ExtTreeMap.getElem?_map, if_neg]
  rintro ⟨heq, -⟩
  exact hid (Std.LawfulEqCmp.eq_of_compare heq).symm

theorem getElem?_listNodes_local (hlocal : localNodeId ∉ t.nodes) :
    (listNodes t)[localNodeId]? = some localNode := by
  rw [listNodes, Std.ExtTreeMap.getElem?_insertIfNew, if_pos]
  exact ⟨Std.ReflCmp.compare_self, fun hmem => hlocal (Std.ExtTreeMap.mem_map.mp hmem)⟩

theorem mem_remoteNodes :
    n ∈ remoteNodes t ↔ ∃ id, id ≠ localNodeId ∧ (listNodes t)[id]? = some n := by
  rw [remoteNodes, List.mem_map]
  constructor
  · rintro ⟨⟨id, node⟩, hmem, rfl⟩
    obtain ⟨hlisted, hid⟩ := List.mem_filter.mp hmem
    exact ⟨id, of_decide_eq_true hid, Std.ExtTreeMap.mem_toList_iff_getElem?_eq_some.mp hlisted⟩
  · rintro ⟨id, hid, hlisted⟩
    exact ⟨(id, n), List.mem_filter.mpr
      ⟨Std.ExtTreeMap.mem_toList_iff_getElem?_eq_some.mpr hlisted, decide_eq_true hid⟩, rfl⟩

/-- No two remote nodes have the same host. -/
def HostsDistinct (t : TopologyState) : Prop :=
  ((remoteNodes t).map fun n => n.host).Nodup

instance (t : TopologyState) : Decidable (HostsDistinct t) :=
  inferInstanceAs (Decidable (List.Nodup _))

theorem nodesByHost_of_mem (hdistinct : HostsDistinct t) (hn : n ∈ remoteNodes t) :
    (nodesByHost t)[n.host]? = some n := by
  apply Std.ExtTreeMap.getElem?_ofList_of_mem Std.ReflCmp.compare_self
  · rw [List.pairwise_map]
    exact (List.pairwise_map.mp hdistinct).imp fun hne heq =>
      hne (Std.LawfulEqCmp.eq_of_compare heq)
  · exact List.mem_map_of_mem hn

theorem map_fst_byHost (t : TopologyState) :
    ((remoteNodes t).map fun n => (n.host, n)).map Prod.fst =
      (remoteNodes t).map fun n => n.host := by
  rw [List.map_map]
  rfl

theorem nodesByHost_eq_none (h : ∀ n ∈ remoteNodes t, n.host ≠ host) :
    (nodesByHost t)[host]? = none := by
  apply Std.ExtTreeMap.getElem?_ofList_of_contains_eq_false
  rw [map_fst_byHost, ← Bool.not_eq_true, List.contains_iff_mem, List.mem_map]
  rintro ⟨n, hn, heq⟩
  exact h n hn heq

theorem mem_nodesByHost_keys :
    host ∈ (nodesByHost t).keys ↔ ∃ n ∈ remoteNodes t, n.host = host := by
  rw [Std.ExtTreeMap.mem_keys, nodesByHost, Std.ExtTreeMap.mem_ofList, map_fst_byHost,
    List.contains_iff_mem, List.mem_map]

/-- A stream of the sensor is bound to the node. -/
def Stores.Bound (s : Stores) (nodeId sensor : String) : Prop :=
  ∃ entry ∈ s.listBindings,
    entry.2.mode = .remoteProducer ∧ entry.2.nodeId = nodeId ∧ entry.2.sensor = sensor

theorem mem_streamsOfNode {nodeId : String} :
    sensor ∈ s.streamsOfNode nodeId ↔ s.Bound nodeId sensor := by
  simp only [Stores.streamsOfNode, Stores.Bound, List.mem_map, List.mem_filter,
    decide_eq_true_eq, and_assoc]

theorem planNode_of_mem (hdistinct : HostsDistinct s.topology) (hn : n ∈ remoteNodes s.topology)
    (hhost : n.host = d.host) :
    (s.planNode d).actions = [] ↔
      n.provisionState = some "ready" ∧ ∀ sensor ∈ d.streams, s.Bound n.nodeId sensor := by
  have hfind := nodesByHost_of_mem hdistinct hn
  rw [hhost] at hfind
  simp only [Stores.planNode, hfind, List.append_eq_nil_iff, ite_eq_left_iff,
    List.cons_ne_nil, imp_false, not_not, decide_eq_true_eq, List.filter_eq_nil_iff,
    List.mem_insertionSort, List.mem_eraseDups, mem_streamsOfNode]

theorem planNode_of_missing (h : ∀ n ∈ remoteNodes s.topology, n.host ≠ d.host) :
    (s.planNode d).actions = [.register, .provision, .activate d.streams] := by
  rw [Stores.planNode, nodesByHost_eq_none h]

theorem register_not_mem_planNode (hn : n ∈ remoteNodes s.topology) (hhost : n.host = d.host) :
    .register ∉ (s.planNode d).actions := by
  have hmem : d.host ∈ nodesByHost s.topology := by
    rw [← Std.ExtTreeMap.mem_keys, mem_nodesByHost_keys]
    exact ⟨n, hn, hhost⟩
  obtain ⟨node, hfind⟩ := Option.isSome_iff_exists.mp
    (Std.ExtTreeMap.mem_iff_isSome_getElem?.mp hmem)
  simp only [Stores.planNode, hfind, List.mem_append]
  split_ifs
  all_goals simp

end Plan

/-! ## When the plan is exact -/

/-- The remote hosts are those of the manifest, and each of its nodes is ready and bound to its
sensors, and to no others. -/
structure InSync (manifest : List DesiredNode) (s : Stores) : Prop where
  hosts : ∀ host, (∃ n ∈ remoteNodes s.topology, n.host = host) ↔ ∃ d ∈ manifest, d.host = host
  ready : ∀ d ∈ manifest, ∀ n ∈ remoteNodes s.topology, n.host = d.host →
    n.provisionState = some "ready"
  streams : ∀ d ∈ manifest, ∀ n ∈ remoteNodes s.topology, n.host = d.host →
    ∀ sensor, s.Bound n.nodeId sensor ↔ sensor ∈ d.streams

/-- Nothing the manifest asks for is missing, and no node is extra. -/
structure NothingMissing (manifest : List DesiredNode) (s : Stores) : Prop where
  hosts : ∀ host, (∃ n ∈ remoteNodes s.topology, n.host = host) ↔ ∃ d ∈ manifest, d.host = host
  ready : ∀ d ∈ manifest, ∀ n ∈ remoteNodes s.topology, n.host = d.host →
    n.provisionState = some "ready"
  streams : ∀ d ∈ manifest, ∀ n ∈ remoteNodes s.topology, n.host = d.host →
    ∀ sensor ∈ d.streams, s.Bound n.nodeId sensor

/-- No declared node has a stream that its declaration does not name. -/
def NoExtraStreams (manifest : List DesiredNode) (s : Stores) : Prop :=
  ∀ d ∈ manifest, ∀ n ∈ remoteNodes s.topology, n.host = d.host →
    ∀ sensor, s.Bound n.nodeId sensor → sensor ∈ d.streams

theorem inSync_iff {manifest : List DesiredNode} {s : Stores} :
    InSync manifest s ↔ NothingMissing manifest s ∧ NoExtraStreams manifest s := by
  constructor
  · intro h
    exact ⟨⟨h.hosts, h.ready, fun d hd n hn heq sensor => (h.streams d hd n hn heq sensor).mpr⟩,
      fun d hd n hn heq sensor => (h.streams d hd n hn heq sensor).mp⟩
  · rintro ⟨h, hextra⟩
    exact ⟨h.hosts, h.ready, fun d hd n hn heq sensor =>
      ⟨hextra d hd n hn heq sensor, h.streams d hd n hn heq sensor⟩⟩

/-- The plan is in sync exactly where nothing is missing; streams that are extra do not count. -/
theorem planFleet_inSync_iff {manifest : List DesiredNode} {s : Stores}
    (hdistinct : HostsDistinct s.topology) :
    (s.planFleet manifest).inSync = true ↔ NothingMissing manifest s := by
  have hextra : (s.planFleet manifest).extraNodes = [] ↔
      ∀ host, (∃ n ∈ remoteNodes s.topology, n.host = host) → ∃ d ∈ manifest, d.host = host := by
    simp only [Stores.planFleet, List.filter_eq_nil_iff, mem_nodesByHost_keys, decide_eq_true_eq,
      not_not, List.mem_map]
  rw [FleetPlan.inSync, Bool.and_eq_true, List.isEmpty_iff, hextra, List.all_eq_true]
  simp only [Stores.planFleet, List.forall_mem_map, List.isEmpty_iff]
  constructor
  · rintro ⟨hhosts, hnodes⟩
    have hnode : ∀ d ∈ manifest, ∃ n ∈ remoteNodes s.topology, n.host = d.host := by
      intro d hd
      by_contra hnone
      push Not at hnone
      have hactions := hnodes d hd
      rw [planNode_of_missing hnone] at hactions
      cases hactions
    refine ⟨fun host => ⟨hhosts host, ?_⟩, fun d hd n hn heq => ?_, fun d hd n hn heq => ?_⟩
    · rintro ⟨d, hd, rfl⟩
      exact hnode d hd
    · exact ((planNode_of_mem hdistinct hn heq).mp (hnodes d hd)).1
    · exact ((planNode_of_mem hdistinct hn heq).mp (hnodes d hd)).2
  · intro h
    refine ⟨fun host => (h.hosts host).mp, fun d hd => ?_⟩
    obtain ⟨n, hn, heq⟩ := (h.hosts d.host).mpr ⟨d, hd, rfl⟩
    exact (planNode_of_mem hdistinct hn heq).mpr ⟨h.ready d hd n hn heq, h.streams d hd n hn heq⟩

/-! ## What the reconcile leaves -/

theorem loadNodes_ok {shown : TomlValue → String} {i : ℕ} {seen : List String}
    {values : List TomlValue} {nodes : List DesiredNode}
    (h : loadNodes shown i seen values = .ok nodes) :
    (nodes.map DesiredNode.host).Nodup ∧
      ∀ d ∈ nodes, pyStrip d.host = d.host ∧ d.host ∉ seen := by
  induction values generalizing i seen nodes with
  | nil =>
      cases h
      exact ⟨List.nodup_nil, fun d hd => absurd hd List.not_mem_nil⟩
  | cons value rest ih =>
      cases value with
      | string | scalar | array => cases h
      | table entries =>
          rw [loadNodes] at h
          dsimp only at h
          split_ifs at h with hempty hseen
          cases hstreams : loadStreams (pyStrip (((entries.lookup "host").map
              (TomlValue.text shown)).getD "")) (entries.lookup "streams") with
          | error e =>
              rw [hstreams] at h
              cases h
          | ok streams =>
              rw [hstreams] at h
              dsimp only at h
              cases hrest : loadNodes shown (i + 1) (pyStrip (((entries.lookup "host").map
                  (TomlValue.text shown)).getD "") :: seen) rest with
              | error e =>
                  rw [hrest] at h
                  cases h
              | ok others =>
                  rw [hrest] at h
                  cases h
                  obtain ⟨hnodup, hothers⟩ := ih hrest
                  rw [List.map_cons, List.nodup_cons, List.forall_mem_cons]
                  refine ⟨⟨?_, hnodup⟩, ⟨?_, hseen⟩, fun d hd => ⟨(hothers d hd).1, ?_⟩⟩
                  · intro hmem
                    obtain ⟨d, hd, heq⟩ := List.mem_map.mp hmem
                    exact (hothers d hd).2 (heq ▸ List.mem_cons_self)
                  · exact pyStrip_pyStrip _
                  · exact fun hmem => (hothers d hd).2 (List.mem_cons_of_mem _ hmem)

/-- The hosts of a manifest are distinct and carry no blanks around them. -/
theorem loadManifest_ok {shown : TomlValue → String} {file : ManifestFile}
    {manifest : List DesiredNode} (h : loadManifest shown file = .ok manifest) :
    (manifest.map DesiredNode.host).Nodup ∧ ∀ d ∈ manifest, pyStrip d.host = d.host := by
  cases file with
  | missing | unreadable | notToml => cases h
  | parsed entries =>
      rw [loadManifest] at h
      split at h
      · obtain ⟨hnodup, hnodes⟩ := loadNodes_ok h
        exact ⟨hnodup, fun d hd => (hnodes d hd).1⟩
      · cases h

/-- What was in the table stays as it was. -/
structure Grew (t t' : TopologyState) : Prop where
  bindings : t'.bindings = t.bindings
  rows : ∀ (id : String) row, t.nodes[id]? = some row →
    t'.nodes[id]? = some row ∧ t'.secrets[id]? = t.secrets[id]?
  remote : localNodeId ∉ t.nodes → localNodeId ∉ t'.nodes

theorem Grew.refl (t : TopologyState) : Grew t t := ⟨rfl, fun _ _ h => ⟨h, rfl⟩, id⟩

theorem Grew.trans {t t' t'' : TopologyState} (h : Grew t t') (h' : Grew t' t'') : Grew t t'' where
  bindings := h'.bindings.trans h.bindings
  rows id row hrow := by
    obtain ⟨hkept, htoken⟩ := h.rows id row hrow
    obtain ⟨hkept', htoken'⟩ := h'.rows id row hkept
    exact ⟨hkept', htoken'.trans htoken⟩
  remote hlocal := h'.remote (h.remote hlocal)

theorem Grew.putNode {t : TopologyState} {entry : NodeEntry} {token : String}
    (hnew : entry.nodeId ∉ t.nodes) (hremote : entry.nodeId ≠ localNodeId) :
    Grew t (t.putNode entry token) where
  bindings := rfl
  rows id row hrow := by
    have hne : entry.nodeId ≠ id := fun heq => hnew (heq ▸ Dict.mem_of_getElem? hrow)
    rw [TopologyState.putNode]
    dsimp only
    rw [Dict.getElem?_insert, Dict.getElem?_insert, if_neg hne, if_neg hne]
    exact ⟨hrow, rfl⟩
  remote hlocal hmem := by
    rw [TopologyState.putNode] at hmem
    rcases Std.ExtTreeMap.mem_insert.mp hmem with heq | hold
    · exact hremote (Std.LawfulEqCmp.eq_of_compare heq)
    · exact hlocal hold

/-- A node that is not there gets a row of its own. -/
theorem addNodeByHost_new {lan : LanConfig} {host role : String} {displayName : Option String}
    {mintedId token : String} {node : NodeEntry} {t t' : TopologyState}
    (hstripped : pyStrip host = host) (hnew : Dict.Each (fun _ row => row.host ≠ host) t.nodes)
    (h : t.addNodeByHost lan host role displayName mintedId token = .ok (node, t')) :
    t' = t.putNode node token ∧ node.nodeId = mintedId ∧ node.host = host := by
  unfold TopologyState.addNodeByHost at h
  simp only [hstripped] at h
  split at h
  · cases h
  · split at h
    · next entry hfind =>
        have hrow := Std.ExtTreeMap.mem_toList_iff_getElem?_eq_some.mp
          (List.mem_of_find?_eq_some hfind)
        have hfound := List.find?_some hfind
        exact absurd (of_decide_eq_true hfound) (hnew _ _ hrow)
    · cases h
      exact ⟨rfl, rfl, rfl⟩

/-- The ids that are drawn for the hosts are new, and no two are the same. -/
structure FreshDraws (draw : String → NodeDraw) (manifest : List DesiredNode)
    (t : TopologyState) : Prop where
  new : ∀ d ∈ manifest, (draw d.host).nodeId ∉ t.nodes ∧ (draw d.host).nodeId ≠ localNodeId
  distinct : manifest.Pairwise fun d e => (draw d.host).nodeId ≠ (draw e.host).nodeId

/-- A row of the host. -/
def HasHost (t : TopologyState) (host : String) : Prop :=
  ∃ (id : String) (row : NodeRow), t.nodes[id]? = some row ∧ row.host = host

theorem Grew.hasHost {t t' : TopologyState} {host : String} (h : Grew t t')
    (hhost : HasHost t host) : HasHost t' host := by
  obtain ⟨id, row, hrow, heq⟩ := hhost
  exact ⟨id, row, (h.rows id row hrow).1, heq⟩

section Loop

variable {lan : LanConfig} {draw : String → NodeDraw} {existing : List String}

/-- A reconcile that succeeds only adds rows, and leaves one for each host that was missing. -/
theorem reconcileNodes_ok {manifest : List DesiredNode} {registered : List String}
    {t t' : TopologyState}
    (hnodup : (manifest.map DesiredNode.host).Nodup)
    (hstripped : ∀ d ∈ manifest, pyStrip d.host = d.host)
    (hmissing : ∀ d ∈ manifest, d.host ∉ existing → ¬ HasHost t d.host)
    (hdraws : FreshDraws draw manifest t)
    (h : reconcileNodes lan draw existing manifest t = (.ok registered, t')) :
    Grew t t' ∧ ∀ d ∈ manifest, d.host ∉ existing → HasHost t' d.host := by
  induction manifest generalizing t registered with
  | nil =>
      cases h
      exact ⟨.refl _, fun d hd => absurd hd List.not_mem_nil⟩
  | cons d rest ih =>
      rw [List.map_cons, List.nodup_cons] at hnodup
      obtain ⟨hfirst, hnodup⟩ := hnodup
      rw [List.forall_mem_cons] at hstripped hmissing
      obtain ⟨hnew, hdistinct⟩ := hdraws
      rw [List.forall_mem_cons] at hnew
      rw [List.pairwise_cons] at hdistinct
      rw [reconcileNodes] at h
      split_ifs at h with hexists
      · obtain ⟨hgrew, hall⟩ := ih hnodup hstripped.2 hmissing.2 ⟨hnew.2, hdistinct.2⟩ h
        rw [List.forall_mem_cons]
        exact ⟨hgrew, fun hnot => absurd hexists hnot, hall⟩
      · split at h
        · cases h
        · next node t₁ hadd =>
            have hnone : Dict.Each (fun _ row => row.host ≠ d.host) t.nodes :=
              fun id row hrow heq => hmissing.1 hexists ⟨id, row, hrow, heq⟩
            obtain ⟨rfl, hid, hhost⟩ := addNodeByHost_new hstripped.1 hnone hadd
            have hput : Grew t (t.putNode node (draw d.host).token) :=
              .putNode (hid ▸ hnew.1.1) (hid ▸ hnew.1.2)
            split at h
            · cases h
            · next ids t₂ hrest =>
                cases h
                have hmem : ∀ e ∈ rest, e.host ≠ d.host := fun e he heq =>
                  hfirst (heq ▸ List.mem_map_of_mem he)
                have hmissing' : ∀ e ∈ rest, e.host ∉ existing →
                    ¬ HasHost (t.putNode node (draw d.host).token) e.host := by
                  rintro e he hnot ⟨id, row, hrow, heq⟩
                  rw [TopologyState.putNode] at hrow
                  dsimp only at hrow
                  rw [Dict.getElem?_insert] at hrow
                  split_ifs at hrow with hsame
                  · cases hrow
                    exact hmem e he (heq.symm.trans hhost)
                  · exact hmissing.2 e he hnot ⟨id, row, hrow, heq⟩
                have hdraws' : FreshDraws draw rest (t.putNode node (draw d.host).token) := by
                  refine ⟨fun e he => ⟨fun hmem' => ?_, (hnew.2 e he).2⟩, hdistinct.2⟩
                  rcases Std.ExtTreeMap.mem_insert.mp hmem' with hsame | hold
                  · have hids := Std.LawfulEqCmp.eq_of_compare hsame
                    rw [hid] at hids
                    exact hdistinct.1 e he hids
                  · exact (hnew.2 e he).1 hold
                obtain ⟨hgrew, hall⟩ := ih hnodup hstripped.2 hmissing' hdraws' hrest
                rw [List.forall_mem_cons]
                refine ⟨hput.trans hgrew, fun _ => hgrew.hasHost ?_, hall⟩
                exact ⟨node.nodeId, node.toNodeRow, Std.ExtTreeMap.getElem?_insert_self, hhost⟩

/-- A manifest whose hosts are all there registers nothing. -/
theorem reconcileNodes_settled {manifest : List DesiredNode} {t : TopologyState}
    (h : ∀ d ∈ manifest, d.host ∈ existing) :
    reconcileNodes lan draw existing manifest t = (.ok [], t) := by
  induction manifest with
  | nil => rfl
  | cons d rest ih =>
      rw [List.forall_mem_cons] at h
      rw [reconcileNodes, if_pos h.1, ih h.2]

end Loop

theorem hasHost_iff {t : TopologyState} (hlocal : localNodeId ∉ t.nodes) {host : String} :
    HasHost t host ↔ ∃ n ∈ remoteNodes t, n.host = host := by
  constructor
  · rintro ⟨id, row, hrow, rfl⟩
    have hid : id ≠ localNodeId := fun heq => hlocal (heq ▸ Dict.mem_of_getElem? hrow)
    have hlisted : (listNodes t)[id]? =
        some { NodeEntry.fromRow id row with agentToken := t.secrets[id]? } := by
      rw [getElem?_listNodes hid, hrow, Option.map_some]
    exact ⟨_, mem_remoteNodes.mpr ⟨id, hid, hlisted⟩, rfl⟩
  · rintro ⟨n, hn, rfl⟩
    obtain ⟨id, hid, hlisted⟩ := mem_remoteNodes.mp hn
    rw [getElem?_listNodes hid] at hlisted
    obtain ⟨row, hrow, rfl⟩ := Option.map_eq_some_iff.mp hlisted
    exact ⟨id, row, hrow, rfl⟩

/-- What was listed stays listed. -/
theorem Grew.listNodes {t t' : TopologyState} (hlocal : localNodeId ∉ t.nodes) (h : Grew t t')
    {id : String} {n : NodeEntry} (hn : (listNodes t)[id]? = some n) :
    (Topology.listNodes t')[id]? = some n := by
  by_cases hid : id = localNodeId
  · rw [hid] at hn ⊢
    rw [getElem?_listNodes_local hlocal] at hn
    rw [getElem?_listNodes_local (h.remote hlocal), hn]
  · rw [getElem?_listNodes hid] at hn ⊢
    obtain ⟨row, hrow, rfl⟩ := Option.map_eq_some_iff.mp hn
    obtain ⟨hkept, htoken⟩ := h.rows id row hrow
    rw [hkept, htoken]
    rfl

/-! ## Stores that the gateway wrote -/

theorem NodeStep.local_not_mem {lan : LanConfig} {s : Stores} {op : StoreOp}
    {nodes : Dict NodeRow} (step : NodeStep lan s.topology op nodes) (hminted : op.MintsNodeId)
    (h : localNodeId ∉ s.topology.nodes) : localNodeId ∉ nodes := by
  have hinsert : ∀ (id : String) (row : NodeRow), id ≠ localNodeId →
      localNodeId ∉ s.topology.nodes.insert id row := by
    intro id row hid hmem
    rcases Std.ExtTreeMap.mem_insert.mp hmem with heq | hold
    · exact hid (Std.LawfulEqCmp.eq_of_compare heq)
    · exact h hold
  cases step with
  | keep => exact h
  | register row hremote => exact hinsert _ row hremote
  | enroll row => exact hinsert _ row (ne_localNodeId_of_minted hminted)
  | amend _ nodeId old new hold =>
      exact hinsert _ new fun heq => h (heq ▸ Dict.mem_of_getElem? hold)
  | remove nodeId => exact fun hmem => h (Std.ExtTreeMap.mem_of_mem_erase hmem)

/-- No operation stores the implicit local node. -/
theorem local_not_stored (lan : LanConfig) (ops : List StoreOp)
    (hminted : ∀ op ∈ ops, op.MintsNodeId) :
    localNodeId ∉ ((storeMachine lan).run {} ops).topology.nodes :=
  (storeMachine lan).run_invariant (I := fun s => localNodeId ∉ s.topology.nodes)
    (fun s op h hop => (s.nodeStep lan op).local_not_mem hop h)
    ((storeMachine lan).along_of_forall (fun op hop _ => hminted op hop) {})
    Std.ExtTreeMap.not_mem_empty

/-! ## The declared fleet as a whole -/

/-- What a reconcile that succeeded leaves: nothing to register, nothing for a second reconcile, and
the nodes and bindings of before as they were. -/
structure FleetSettled (lan : LanConfig) (manifest : List DesiredNode) (s : Stores)
    (t : TopologyState) : Prop where
  noRegister : ∀ n ∈ ((s.setTopology t).planFleet manifest).nodes,
    .register ∉ n.actions
  again : ∀ draw, reconcileGateway lan draw manifest t = (.ok [], t)
  nodes : ∀ (id : String) n, (listNodes s.topology)[id]? = some n → (listNodes t)[id]? = some n
  bindings : (s.setTopology t).listBindings = s.listBindings

/-- Every reconcile that succeeds settles the stores. -/
def Converges (lan : LanConfig) (draw : String → NodeDraw) (manifest : List DesiredNode)
    (s : Stores) : Prop :=
  ∀ registered t, reconcileGateway lan draw manifest s.topology = (.ok registered, t) →
    FleetSettled lan manifest s t

section Fleet

variable {shown : TomlValue → String} {file : ManifestFile} {manifest : List DesiredNode}
  {lan : LanConfig} {draw : String → NodeDraw} {s : Stores}

theorem reconcile_converges (hload : loadManifest shown file = .ok manifest)
    (hlocal : localNodeId ∉ s.topology.nodes) (hdraws : FreshDraws draw manifest s.topology) :
    Converges lan draw manifest s := by
  intro registered t h
  obtain ⟨hnodup, hstripped⟩ := loadManifest_ok hload
  have hexisting : ∀ host, host ∈ (remoteNodes s.topology).map (fun n => n.host) ↔
      HasHost s.topology host := by
    intro host
    rw [hasHost_iff hlocal, List.mem_map]
  obtain ⟨hgrew, hall⟩ := reconcileNodes_ok hnodup hstripped
    (fun d _ hnot hhost => hnot ((hexisting d.host).mpr hhost)) hdraws h
  have hthere : ∀ d ∈ manifest, ∃ n ∈ remoteNodes t, n.host = d.host := by
    intro d hd
    rw [← hasHost_iff (hgrew.remote hlocal)]
    by_cases hmem : d.host ∈ (remoteNodes s.topology).map fun n => n.host
    · exact hgrew.hasHost ((hexisting d.host).mp hmem)
    · exact hall d hd hmem
  constructor
  · intro n hn
    obtain ⟨d, hd, rfl⟩ := List.mem_map.mp hn
    obtain ⟨node, hnode, hhost⟩ := hthere d hd
    exact register_not_mem_planNode hnode hhost
  · intro draw'
    exact reconcileNodes_settled fun d hd => List.mem_map.mpr (hthere d hd)
  · intro id n hn
    exact hgrew.listNodes hlocal hn
  · rw [Stores.listBindings, Stores.listBindings, Stores.topology_setTopology,
      Stores.alloc_setTopology, hgrew.bindings]

/-- The plan is exact and the reconcile converges exactly where, with nothing missing, no declared
node has a stream that its declaration does not name. -/
theorem fleet_exact_iff (hload : loadManifest shown file = .ok manifest)
    (hlocal : localNodeId ∉ s.topology.nodes) (hdistinct : HostsDistinct s.topology)
    (hdraws : FreshDraws draw manifest s.topology) :
    (((s.planFleet manifest).inSync = true ↔ InSync manifest s) ∧ Converges lan draw manifest s) ↔
      (NothingMissing manifest s → NoExtraStreams manifest s) := by
  rw [and_iff_left (reconcile_converges hload hlocal hdraws), planFleet_inSync_iff hdistinct,
    inSync_iff]
  exact ⟨fun h hnothing => (h.mp hnothing).2, fun h => ⟨fun hn => ⟨hn, h hn⟩, And.left⟩⟩

end Fleet

/-- A manifest with one node. -/
def oneNode (host sensor : String) : ManifestFile :=
  .parsed [("node", .array [.table [("host", .string host),
    ("streams", .array [.string sensor])]])]

/-- The camera is ready and streams color. -/
def readyCamera : Stores :=
  (storeMachine {}).run {} (boundCamera ++ [.setProvisionState "node-a" "ready" none])

/-- A second camera is declared. -/
theorem fleet_exact_second :
    (((readyCamera.planFleet [⟨"192.168.1.21", none, ["depth"]⟩]).inSync = true ↔
        InSync [⟨"192.168.1.21", none, ["depth"]⟩] readyCamera) ∧
      Converges {} (fun _ => ⟨"node-0123456789ab", "token"⟩) [⟨"192.168.1.21", none, ["depth"]⟩]
        readyCamera) ↔
    (NothingMissing [⟨"192.168.1.21", none, ["depth"]⟩] readyCamera →
      NoExtraStreams [⟨"192.168.1.21", none, ["depth"]⟩] readyCamera) := by
  have hload : loadManifest (fun _ => "") (oneNode " 192.168.1.21 " "depth") =
      .ok [⟨"192.168.1.21", none, ["depth"]⟩] := rfl
  apply fleet_exact_iff hload
  · decide +kernel
  · decide +kernel
  · constructor
    · intro d _
      decide +kernel
    · exact List.pairwise_singleton _ _

/-- The camera is declared with depth and streams color too; the plan is in sync. -/
theorem extra_stream_in_sync :
    let streaming := (storeMachine {}).run readyCamera
      [.upsertBinding
        { bindingId := "node-a:depth", nodeId := "node-a", sensor := "depth"
          mode := .remoteProducer
          transport := { rtpPort := 5102 }
          janus := { mountpointId := 2001, rtpIface := "192.168.1.10" } } 1305]
    loadManifest (fun _ => "") (oneNode "192.168.1.20" "depth") =
        .ok [⟨"192.168.1.20", none, ["depth"]⟩] ∧
      ¬ ((streaming.planFleet [⟨"192.168.1.20", none, ["depth"]⟩]).inSync = true ↔
        InSync [⟨"192.168.1.20", none, ["depth"]⟩] streaming) := by
  intro streaming
  refine ⟨rfl, fun h => ?_⟩
  have hsync : (streaming.planFleet [⟨"192.168.1.20", none, ["depth"]⟩]).inSync = true := by
    decide +kernel
  have hcolor : "color" ∈ streaming.streamsOfNode "node-a" := by decide +kernel
  obtain ⟨n, hn, hid⟩ : ∃ n ∈ remoteNodes streaming.topology,
      n.host = "192.168.1.20" ∧ n.nodeId = "node-a" := by
    decide +kernel
  have hextra := ((h.mp hsync).streams _ List.mem_cons_self n hn hid.1 "color").mp
  rw [hid.2, ← mem_streamsOfNode] at hextra
  exact absurd (hextra hcolor) (by decide)

end CameraStack.Topology
