/-
# What is left of a forgotten host

A flow that works from what it has read may be late: it creates a mountpoint whose binding is gone,
drops the token of a node that is back or about to be, or inserts a rule for a host that the
firewall was cleared of.  In a run in which no flow is late in one of these ways, and in which the
listings of the firewall can be read, nothing of a removed node is left.
-/

import CameraStack.Streams.DeleteNode

namespace CameraStack.Streams

open CameraStack.Lib CameraStack.Topology

/-! ## What is claimed -/

namespace Site

/-- The node is registered. -/
def Registered (s : Site) (nodeId : String) : Prop := nodeId ∈ s.stores.topology.nodes

/-- Nothing of the node is left: no binding, no mountpoint, no rule. -/
structure Gone (s : Site) (gone : Forgotten) : Prop where
  bindings : Dict.Each (fun _ b => b.nodeId ≠ gone.nodeId) s.stores.topology.bindings
  janus : ∀ mp ∈ s.janus, mp.binding.nodeId ≠ gone.nodeId
  rules : ∀ r ∈ taggedRules s.chain, ¬ gone.Names r

/-- Once everything has finished, of a node that was removed nothing is left, or it is registered
again and has a token. -/
def Forgets (s : Site) : Prop :=
  (∀ f ∈ s.flows, f = .done) → s.registering = none → ∀ gone ∈ s.forgotten,
    (¬ s.Registered gone.nodeId → s.Gone gone) ∧
      (s.Registered gone.nodeId → ∃ node token,
        s.stores.topology.getNode gone.nodeId = some node ∧ node.agentToken = some token)

end Site

/-! ## What no flow may be late for -/

/-- A `delete_node` that has removed the node and has still to list the rules. -/
def Flow.Unlisted (nodeId : String) : Flow → Prop
  | .deleteNode n .dropToken | .deleteNode n (.firewall .listNodes)
  | .deleteNode n (.firewall (.listBindings _)) | .deleteNode n (.firewall (.save _)) => n = nodeId
  | _ => False

namespace Site

/-- The store has the binding on its mountpoint, and every `delete_node` of its node has still to
come to it. -/
def Holds (s : Site) (b : StreamBinding) : Prop :=
  (∃ (key : String) (row : StreamBinding), s.stores.topology.bindings[key]? = some row ∧
      row.nodeId = b.nodeId ∧ row.janus.mountpointId = b.janus.mountpointId) ∧
    ∀ pending, .deleteNode b.nodeId (.destroy pending) ∈ s.flows →
      b.janus.mountpointId ∈ pending.map fun b => b.janus.mountpointId

/-- A row whose mountpoint is there keeps it. -/
def Replaces (s : Site) (b : StreamBinding) : Prop :=
  ∀ old, s.stores.topology.bindings[b.bindingId]? = some old →
    (∃ mp ∈ s.janus, mp.id = old.janus.mountpointId ∧ mp.binding.nodeId = old.nodeId) →
    b.nodeId = old.nodeId ∧ b.janus.mountpointId = old.janus.mountpointId

/-- A rule for a removed node comes while the firewall has still to be listed. -/
def Admits (s : Site) (r : Rule) : Prop :=
  ∀ gone ∈ s.forgotten, ¬ s.Registered gone.nodeId → gone.Names r →
    ∃ f ∈ s.flows, f.Unlisted gone.nodeId

/-- The listing of the firewall can be read to its end. -/
def Lists (quotes : String → Bool) (s : Site) : Prop :=
  (currentTagged (iptablesSave quotes s.chain)).isSome = true

/-- The rules of the removed node are listed as they are, and none has a tag that is wanted. -/
def Recognizes (s : Site) (nodeId : String) (desired : List Rule) : Prop :=
  ∀ gone ∈ s.forgotten, gone.nodeId = nodeId → ¬ s.Registered nodeId →
    ∀ r ∈ taggedRules s.chain, gone.Names r →
      r.Plain ∧ r.tag.comment ∉ (wantItems desired).map fun r => r.tag.comment

/-- No registration of the node has written its token. -/
def Untaken (s : Site) (nodeId : String) : Prop :=
  ∀ r, s.registering = some r → r.tokenWritten = true → r.entry.nodeId ≠ nodeId

/-- The making of a binding comes in time. -/
def PlaceInTime (s : Site) (p : Placement) : PlaceStep → Prop
  | .upsert slot => s.Replaces (p.binding slot)
  | .ensure b => b.janus.mountpointId ∉ s.janus.map (fun mp => mp.id) → s.Holds b
  | .look | .mountpoint | .port _ | .status _ => True

/-- A reconcile comes in time. -/
def WallInTime (s : Site) : WallStep → Prop
  | .insert (r :: _) _ => s.Admits r
  | _ => True

/-- The next access of a flow comes in time. -/
def InTime (quotes : String → Bool) (s : Site) : Flow → Prop
  | .deleteNode nodeId .dropToken => ¬ s.Registered nodeId ∧ s.Untaken nodeId
  | .deleteNode nodeId (.firewall (.save desired)) =>
      s.Lists quotes ∧ s.Recognizes nodeId desired
  | .deleteNode _ (.firewall (.insert [] removeComments)) =>
      removeComments.isEmpty = false → s.Lists quotes
  | .deleteNode _ (.firewall w) | .openPorts w => s.WallInTime w
  | .activate p _ _ step | .createBinding p step => s.PlaceInTime p step
  | .recover _ b => b.janus.mountpointId ∉ s.janus.map (fun mp => mp.id) → s.Holds b
  | .deleteNode _ .list | .deleteNode _ (.destroy _) | .tickNodes .. | .tick _ | .done => True

/-- Every flow comes in time. -/
def Undisturbed (quotes : String → Bool) (s : Site) : SiteEvent → Prop
  | .go i _ => ∀ f, s.flows[i]? = some f → s.InTime quotes f
  | _ => True

end Site

/-! ## Flows in the list -/

section Flows

variable {flows : List Flow} {i : ℕ} {f g : Flow}

theorem mem_set_of_ne {f' : Flow} (hi : flows[i]? = some f) (hmem : f' ∈ flows) (hne : f' ≠ f) :
    f' ∈ flows.set i g := by
  obtain ⟨j, hj⟩ := List.mem_iff_getElem?.mp hmem
  have hother : i ≠ j := by
    rintro rfl
    exact hne (Option.some.inj (hj.symm.trans hi))
  exact List.mem_iff_getElem?.mpr ⟨j, by rw [List.getElem?_set_ne hother, hj]⟩

theorem mem_set_self (hi : flows[i]? = some f) : g ∈ flows.set i g := by
  obtain ⟨hlt, -⟩ := List.getElem?_eq_some_iff.mp hi
  exact List.mem_iff_getElem?.mpr ⟨i, List.getElem?_set_self hlt⟩

/-- What a flow has, one of the flows has after its step. -/
theorem exists_set {P Q : Flow → Prop} (hi : flows[i]? = some f) (h : ∃ f ∈ flows, P f)
    (hkeep : ∀ f, P f → Q f) (hstep : P f → Q g) : ∃ f ∈ flows.set i g, Q f := by
  obtain ⟨f', hmem, hP⟩ := h
  by_cases hsame : f' = f
  · exact ⟨g, mem_set_self hi, hstep (hsame ▸ hP)⟩
  · exact ⟨f', mem_set_of_ne hi hmem hsame, hkeep f' hP⟩

end Flows

/-! ## The invariants -/

/-- The flow will delete the rule. -/
def WallStep.Clears (chain : List Entry) (r : Rule) : WallStep → Prop
  | .listNodes | .listBindings _ | .save _ => True
  | .insert _ removeComments => r.Plain ∧ r.tag.comment ∈ removeComments
  | .delete lines => chain.count r.listed ≤ lines.count ("INPUT" :: r.listed)

/-- A `delete_node` that has removed the node and will delete the rule. -/
def Flow.Clears (chain : List Entry) (nodeId : String) (r : Rule) : Flow → Prop
  | .deleteNode n .dropToken => n = nodeId
  | .deleteNode n (.firewall w) => n = nodeId ∧ w.Clears chain r
  | _ => False

theorem Flow.Unlisted.clears {nodeId : String} {f : Flow} (h : f.Unlisted nodeId)
    (chain : List Entry) (r : Rule) : f.Clears chain nodeId r := by
  cases f with
  | deleteNode n step =>
      cases step with
      | list | destroy => exact h.elim
      | dropToken => exact h
      | firewall w =>
          cases w with
          | listNodes | listBindings | save => exact ⟨h, trivial⟩
          | insert | delete => exact h.elim
  | activate | openPorts | createBinding | tickNodes | tick | recover | done => exact h.elim

/-- What will be deleted will be so when the rule is there less often. -/
theorem Flow.Clears.mono {chain chain' : List Entry} {nodeId : String} {r : Rule} {f : Flow}
    (h : f.Clears chain nodeId r) (hcount : chain'.count r.listed ≤ chain.count r.listed) :
    f.Clears chain' nodeId r := by
  cases f with
  | deleteNode n step =>
      cases step with
      | list | destroy => exact h.elim
      | dropToken => exact h
      | firewall w =>
          cases w with
          | listNodes | listBindings | save | insert => exact h
          | delete lines => exact ⟨h.1, hcount.trans h.2⟩
  | activate | openPorts | createBinding | tickNodes | tick | recover | done => exact h.elim

/-- What a row has to keep. -/
def placeOf (b : StreamBinding) : String × StreamMode × ℤ :=
  (b.nodeId, b.mode, b.janus.mountpointId)

/-- The rows stay at their keys, with their places. -/
def SamePlaces (t t' : TopologyState) : Prop :=
  ∀ key : String, (t'.bindings[key]?).map placeOf = (t.bindings[key]?).map placeOf

namespace Site

/-- Stored bindings are remote ones of registered nodes; registered nodes have tokens, and so have
those about to be. -/
structure Rooted (s : Site) : Prop where
  rows : Dict.Each (fun _ b => s.Registered b.nodeId ∧ b.mode = .remoteProducer)
    s.stores.topology.bindings
  tokens : ∀ nodeId, s.Registered nodeId → nodeId ∈ s.stores.topology.secrets
  registering : ∀ r, s.registering = some r → r.tokenWritten = true →
    r.entry.nodeId ∈ s.stores.topology.secrets

/-- A mountpoint was created for a row, and every `delete_node` of its node has still to come to
it. -/
def Backed (s : Site) : Prop :=
  ∀ mp ∈ s.janus,
    (∃ (key : String) (row : StreamBinding), s.stores.topology.bindings[key]? = some row ∧
      row.nodeId = mp.binding.nodeId ∧ row.janus.mountpointId = mp.id) ∧
    ∀ pending, .deleteNode mp.binding.nodeId (.destroy pending) ∈ s.flows →
      mp.id ∈ pending.map fun b => b.janus.mountpointId

/-- A rule of a removed node will be deleted. -/
def Walled (s : Site) : Prop :=
  ∀ gone ∈ s.forgotten, ¬ s.Registered gone.nodeId → ∀ r ∈ taggedRules s.chain, gone.Names r →
    ∃ f ∈ s.flows, f.Clears s.chain gone.nodeId r

/-- The local node is never removed. -/
structure Remote (s : Site) : Prop where
  flows : ∀ nodeId step, .deleteNode nodeId step ∈ s.flows → nodeId ≠ localNodeId
  forgotten : ∀ gone ∈ s.forgotten, gone.nodeId ≠ localNodeId

/-- What every step preserves. -/
structure Clean (s : Site) : Prop where
  rooted : s.Rooted
  backed : s.Backed
  walled : s.Walled
  remote : s.Remote

theorem clean_initial : Clean {} where
  rooted :=
    { rows := Dict.each_empty
      tokens := fun _ h => absurd h Std.ExtTreeMap.not_mem_empty
      registering := fun _ h => absurd h (by simp) }
  backed := fun _ hmp => absurd hmp List.not_mem_nil
  walled := fun _ hgone => absurd hgone List.not_mem_nil
  remote :=
    { flows := fun _ _ hmem => absurd hmem List.not_mem_nil
      forgotten := fun _ hgone => absurd hgone List.not_mem_nil }

variable {s : Site}

theorem Clean.forgets (h : s.Clean) : s.Forgets := by
  intro hdone _ gone hgone
  constructor
  · intro hout
    refine ⟨fun key b hb hnode => ?_, fun mp hmp hnode => ?_, fun r hr hnames => ?_⟩
    · exact hout (hnode ▸ (h.rooted.rows key b hb).1)
    · obtain ⟨⟨key, row, hrow, hsame, -⟩, -⟩ := h.backed mp hmp
      exact hout (hnode ▸ hsame ▸ (h.rooted.rows key row hrow).1)
    · obtain ⟨f, hf, hclears⟩ := h.walled gone hgone hout r hr hnames
      rw [hdone f hf] at hclears
      exact hclears
  · intro hregistered
    obtain ⟨row, hrow⟩ := Option.isSome_iff_exists.mp
      (Std.ExtTreeMap.mem_iff_isSome_getElem?.mp hregistered)
    obtain ⟨token, htoken⟩ := Option.isSome_iff_exists.mp
      (Std.ExtTreeMap.mem_iff_isSome_getElem?.mp (h.rooted.tokens gone.nodeId hregistered))
    rw [TopologyState.getNode, if_neg (h.remote.forgotten gone hgone), hrow]
    exact ⟨_, token, rfl, htoken⟩

/-! ## The stores -/

/-- Operations that keep the places of the rows and the nodes, and give nodes tokens. -/
theorem Clean.setStores (h : s.Clean) {stores : Stores} {registering : Option Registration}
    (hplaces : SamePlaces s.stores.topology stores.topology)
    (hnodes : ∀ nodeId, s.Registered nodeId → nodeId ∈ stores.topology.nodes)
    (htokens : ∀ nodeId, nodeId ∈ stores.topology.nodes →
      nodeId ∈ stores.topology.secrets)
    (hregistering : ∀ r, registering = some r → r.tokenWritten = true →
      r.entry.nodeId ∈ stores.topology.secrets) :
    Clean { s with stores := stores, registering := registering } where
  rooted :=
    { rows := by
        intro key b hb
        have hplace := hplaces key
        rw [hb] at hplace
        obtain ⟨row, hrow, hsame⟩ := Option.map_eq_some_iff.mp hplace.symm
        obtain ⟨hregistered, hmode⟩ := h.rooted.rows key row hrow
        simp only [placeOf, Prod.mk.injEq] at hsame
        exact ⟨hsame.1 ▸ hnodes row.nodeId hregistered, hsame.2.1 ▸ hmode⟩
      tokens := htokens
      registering := hregistering }
  backed := by
    intro mp hmp
    obtain ⟨⟨key, row, hrow, hnode, hid⟩, hpending⟩ := h.backed mp hmp
    refine ⟨?_, hpending⟩
    have hplace := hplaces key
    rw [hrow] at hplace
    obtain ⟨row', hrow', hsame⟩ := Option.map_eq_some_iff.mp hplace
    simp only [placeOf, Prod.mk.injEq] at hsame
    exact ⟨key, row', hrow', hsame.1.trans hnode, hsame.2.2.trans hid⟩
  walled := fun gone hgone hout => h.walled gone hgone fun hin => hout (hnodes gone.nodeId hin)
  remote := ⟨h.remote.flows, h.remote.forgotten⟩

theorem samePlaces_updateBinding {bindingId : String} {f : StreamBinding → StreamBinding}
    (hf : ∀ b, placeOf (f b) = placeOf b) (t : TopologyState) :
    SamePlaces t (written t (t.updateBinding bindingId f)) := by
  intro key
  cases hresult : t.updateBinding bindingId f with
  | error e => rfl
  | ok result =>
      obtain ⟨b, t'⟩ := result
      obtain ⟨old, hold, rfl⟩ := TopologyState.updateBinding_ok hresult
      simp only [written, Dict.getElem?_insert]
      split_ifs with hkey
      · rw [← hkey, hold, Option.map_some, Option.map_some, hf]
      · rfl

theorem topology_updateBinding {bindingId : String} {f : StreamBinding → StreamBinding}
    (t : TopologyState) :
    (written t (t.updateBinding bindingId f)).nodes = t.nodes ∧
      (written t (t.updateBinding bindingId f)).secrets = t.secrets := by
  cases hresult : t.updateBinding bindingId f with
  | error e => exact ⟨rfl, rfl⟩
  | ok result =>
      obtain ⟨b, t'⟩ := result
      obtain ⟨old, -, rfl⟩ := TopologyState.updateBinding_ok hresult
      exact ⟨rfl, rfl⟩

/-- A write to a row keeps its place. -/
theorem Clean.updateBinding (h : s.Clean) {bindingId : String} {f : StreamBinding → StreamBinding}
    (hf : ∀ b, placeOf (f b) = placeOf b) :
    Clean (s.setTopology (written s.stores.topology
      (s.stores.topology.updateBinding bindingId f))) := by
  obtain ⟨hnodes, hsecrets⟩ := @topology_updateBinding bindingId f s.stores.topology
  refine h.setStores (samePlaces_updateBinding hf s.stores.topology) (fun nodeId hin => ?_)
    (fun nodeId hin => ?_) fun r hr hwritten => ?_
  · rw [Stores.topology_setTopology, hnodes]
    exact hin
  · rw [Stores.topology_setTopology, hnodes] at hin
    rw [Stores.topology_setTopology, hsecrets]
    exact h.rooted.tokens nodeId hin
  · rw [Stores.topology_setTopology, hsecrets]
    exact h.rooted.registering r hr hwritten

/-- The write of a row that is registered. -/
theorem Clean.updateNode (h : s.Clean) {nodeId : String} {f : NodeRow → NodeRow} :
    Clean (s.setTopology (written s.stores.topology (s.stores.topology.updateNode nodeId f))) := by
  rw [TopologyState.updateNode]
  cases hrow : s.stores.topology.nodes[nodeId]? with
  | none =>
      exact h.setStores (fun _ => rfl) (fun _ hin => hin) h.rooted.tokens h.rooted.registering
  | some row =>
      refine h.setStores (fun _ => rfl) (fun n hin => ?_) (fun n hin => ?_) h.rooted.registering
      · exact Std.ExtTreeMap.mem_insert.mpr (.inr hin)
      · refine h.rooted.tokens n ?_
        rcases Std.ExtTreeMap.mem_insert.mp hin with hsame | hin
        · rw [← Std.LawfulEqCmp.eq_of_compare hsame]
          exact Dict.mem_of_getElem? hrow
        · exact hin

/-- The token of a registration is written. -/
theorem Clean.writeToken (h : s.Clean) (r : Registration) : (s.writeToken r).Clean := by
  refine h.setStores (fun _ => rfl) (fun _ hin => hin) (fun n hin => ?_) fun r' hr' _ => ?_
  · exact Std.ExtTreeMap.mem_insert.mpr (.inr (h.rooted.tokens n hin))
  · cases hr'
    exact Std.ExtTreeMap.mem_insert_self

/-- The row of a registration is written: the token is there. -/
theorem Clean.writeRow (h : s.Clean) {r : Registration} (hr : s.registering = some r)
    (hwritten : r.tokenWritten = true) : (s.writeRow r).Clean := by
  refine h.setStores (fun _ => rfl) (fun n hin => ?_) (fun n hin => ?_) fun _ hnone => ?_
  · exact Std.ExtTreeMap.mem_insert.mpr (.inr hin)
  · rcases Std.ExtTreeMap.mem_insert.mp hin with hsame | hin
    · rw [← Std.LawfulEqCmp.eq_of_compare hsame]
      exact h.rooted.registering r hr hwritten
    · exact h.rooted.tokens n hin
  · cases hnone

theorem Clean.registerNext (h : s.Clean) : s.registerNext.Clean := by
  rw [Site.registerNext]
  split
  · exact h
  · rename_i r hr
    split_ifs with hwritten
    · exact h.writeRow hr hwritten
    · exact h.writeToken r

/-- A registration takes the lock. -/
theorem Clean.register (h : s.Clean) (lan : LanConfig) (op : StoreOp) :
    Clean { s with registering := registrationOf lan s.stores.topology op } := by
  have hfirst : ∀ r, registrationOf lan s.stores.topology op = some r → r.tokenWritten = false := by
    intro r hr
    cases op with
    | upsertNode =>
        simp only [registrationOf, Option.bind_eq_some_iff, Option.map_eq_some_iff] at hr
        obtain ⟨result, -, token, -, rfl⟩ := hr
        rfl
    | addNodeByHost =>
        simp only [registrationOf] at hr
        split_ifs at hr
        simp only [Option.bind_eq_some_iff, Option.map_eq_some_iff] at hr
        obtain ⟨result, -, token, -, rfl⟩ := hr
        rfl
    | allocate | ensureColor | setDesired | release | migrateColorKey | setReachability | setSerial
    | setProvisionState | touchChecked | setMaintenance | setHostKey | setAgentToken | removeNode
    | upsertBinding | removeBinding | migrateRemoteBindingIds | setStatus | setFdirEnabled
    | setDesiredUp => cases hr
  refine h.setStores (fun _ => rfl) (fun _ hin => hin) h.rooted.tokens fun r hr hwritten => ?_
  rw [hfirst r hr] at hwritten
  cases hwritten

theorem Clean.store (h : s.Clean) (lan : LanConfig) {op : StoreOp} (hop : bystands op = true) :
    Clean { s with stores := s.stores.apply lan op } := by
  cases op with
  | allocate | ensureColor | setDesired | release | migrateColorKey =>
      exact h.setStores (fun _ => rfl) (fun _ hin => hin) h.rooted.tokens h.rooted.registering
  | setReachability | setSerial | setProvisionState | touchChecked | setMaintenance | setHostKey =>
      exact h.updateNode
  | setAgentToken nodeId token =>
      change Clean (s.setTopology (written s.stores.topology (s.stores.topology.setAgentToken ..)))
      rw [TopologyState.setAgentToken]
      split
      · exact h
      · refine h.setStores (fun _ => rfl) (fun _ hin => hin) (fun n hin => ?_)
          fun r hr hwritten => ?_
        · exact Std.ExtTreeMap.mem_insert.mpr (.inr (h.rooted.tokens n hin))
        · exact Std.ExtTreeMap.mem_insert.mpr (.inr (h.rooted.registering r hr hwritten))
  | setStatus | setFdirEnabled | setDesiredUp => exact h.updateBinding fun _ => rfl
  | upsertNode | addNodeByHost | removeNode | upsertBinding | removeBinding
  | migrateRemoteBindingIds => cases hop

/-! ## The list of flows -/

/-- A flow begins. -/
theorem Clean.begin (h : s.Clean) {f : Flow}
    (hdestroy : ∀ nodeId pending, f ≠ .deleteNode nodeId (.destroy pending))
    (hremote : ∀ nodeId step, f = .deleteNode nodeId step → nodeId ≠ localNodeId) :
    (s.begin f).Clean where
  rooted := ⟨h.rooted.rows, h.rooted.tokens, h.rooted.registering⟩
  backed := by
    intro mp hmp
    refine ⟨(h.backed mp hmp).1, fun pending hmem => ?_⟩
    rcases List.mem_append.mp hmem with hold | hnew
    · exact (h.backed mp hmp).2 pending hold
    · exact absurd (List.mem_singleton.mp hnew).symm (hdestroy _ _)
  walled := by
    intro gone hgone hout r hr hnames
    obtain ⟨f', hf', hclears⟩ := h.walled gone hgone hout r hr hnames
    exact ⟨f', List.mem_append_left _ hf', hclears⟩
  remote :=
    { flows := fun nodeId step hmem => by
        rcases List.mem_append.mp hmem with hold | hnew
        · exact h.remote.flows nodeId step hold
        · exact hremote nodeId step (List.mem_singleton.mp hnew).symm
      forgotten := h.remote.forgotten }

/-- A flow goes on. -/
theorem Clean.setFlow (h : s.Clean) {i : ℕ} {f g : Flow} (hi : s.flows[i]? = some f)
    (hdestroy : ∀ nodeId pending, g = .deleteNode nodeId (.destroy pending) →
      ∀ mp ∈ s.janus, mp.binding.nodeId = nodeId →
        mp.id ∈ pending.map fun b => b.janus.mountpointId)
    (hclears : ∀ gone ∈ s.forgotten, ¬ s.Registered gone.nodeId → ∀ r ∈ taggedRules s.chain,
      gone.Names r → f.Clears s.chain gone.nodeId r → g.Clears s.chain gone.nodeId r)
    (hremote : ∀ nodeId step, g = .deleteNode nodeId step → nodeId ≠ localNodeId) :
    Clean { s with flows := s.flows.set i g } where
  rooted := ⟨h.rooted.rows, h.rooted.tokens, h.rooted.registering⟩
  backed := by
    intro mp hmp
    refine ⟨(h.backed mp hmp).1, fun pending hmem => ?_⟩
    rcases List.mem_or_eq_of_mem_set hmem with hold | hnew
    · exact (h.backed mp hmp).2 pending hold
    · exact hdestroy _ pending hnew.symm mp hmp rfl
  walled := by
    intro gone hgone hout r hr hnames
    exact exists_set hi (h.walled gone hgone hout r hr hnames) (fun _ hf => hf)
      (hclears gone hgone hout r hr hnames)
  remote :=
    { flows := fun nodeId step hmem => by
        rcases List.mem_or_eq_of_mem_set hmem with hold | hnew
        · exact h.remote.flows nodeId step hold
        · exact hremote nodeId step hnew.symm
      forgotten := h.remote.forgotten }

/-- A flow that is no `delete_node` goes on. -/
theorem Clean.setOther (h : s.Clean) {i : ℕ} {f g : Flow} (hi : s.flows[i]? = some f)
    (hf : ∀ nodeId step, f ≠ .deleteNode nodeId step)
    (hg : ∀ nodeId step, g ≠ .deleteNode nodeId step) :
    Clean { s with flows := s.flows.set i g } := by
  refine h.setFlow hi (fun _ _ hsame => absurd hsame (hg _ _)) (fun gone _ _ r _ _ hclears => ?_)
    fun _ _ hsame => absurd hsame (hg _ _)
  cases f with
  | deleteNode nodeId step => exact absurd rfl (hf nodeId step)
  | activate | openPorts | createBinding | tickNodes | tick | recover | done => exact hclears.elim

/-! ## Removing a node -/

theorem Clean.destroy (h : s.Clean) (mountpointId : ℤ) : (s.destroy mountpointId).Clean where
  rooted := ⟨h.rooted.rows, h.rooted.tokens, h.rooted.registering⟩
  backed := fun mp hmp => h.backed mp (List.mem_of_mem_filter hmp)
  walled := h.walled
  remote := ⟨h.remote.flows, h.remote.forgotten⟩

/-- The row and the bindings go when no mountpoint of the node is left. -/
theorem Clean.removeNode (h : s.Clean) {nodeId : String} (hremote : nodeId ≠ localNodeId)
    (hempty : ∀ mp ∈ s.janus, mp.binding.nodeId ≠ nodeId)
    (hdrop : .deleteNode nodeId .dropToken ∈ s.flows) : (s.removeNode nodeId).Clean := by
  have htopology : (s.removeNode nodeId).stores.topology =
      { nodes := s.stores.topology.nodes.erase nodeId
        bindings := s.stores.topology.bindings.filter fun _ b => b.nodeId ≠ nodeId
        secrets := s.stores.topology.secrets } := by
    simp only [Site.removeNode, setTopology, Stores.topology_setTopology, TopologyState.removeNode,
      if_neg hremote, written]
  have hknown : ∀ gone ∈ s.known nodeId, gone.nodeId = nodeId := by
    intro gone hgone
    rw [known, Option.mem_toList, Option.map_eq_some_iff] at hgone
    obtain ⟨row, -, rfl⟩ := hgone
    rfl
  have hregistered : ∀ n, (s.removeNode nodeId).Registered n ↔ n ≠ nodeId ∧ s.Registered n := by
    intro n
    rw [Registered, htopology, Std.ExtTreeMap.mem_erase, ne_eq, Std.LawfulEqCmp.compare_eq_iff_eq,
      @eq_comm _ nodeId n]
    exact Iff.rfl
  refine ⟨⟨fun key b hb => ?_, fun n hn => ?_, fun r hr hwritten => ?_⟩,
    fun mp hmp => ⟨?_, ?_⟩, ?_, ?_, ?_⟩
  · rw [htopology, Dict.getElem?_filter, Option.filter_eq_some_iff] at hb
    obtain ⟨hrow, hmode⟩ := h.rooted.rows key b hb.1
    exact ⟨(hregistered b.nodeId).mpr ⟨of_decide_eq_true hb.2, hrow⟩, hmode⟩
  · rw [htopology]
    exact h.rooted.tokens n ((hregistered n).mp hn).2
  · rw [htopology]
    exact h.rooted.registering r hr hwritten
  · obtain ⟨⟨key, row, hrow, hnode, hid⟩, -⟩ := h.backed mp hmp
    refine ⟨key, row, ?_, hnode, hid⟩
    rw [htopology, Dict.getElem?_filter, Option.filter_eq_some_iff]
    exact ⟨hrow, decide_eq_true (hnode ▸ hempty mp hmp)⟩
  · exact (h.backed mp hmp).2
  · intro gone hgone hout r hr hnames
    by_cases hnode : gone.nodeId = nodeId
    · exact ⟨_, hdrop, hnode.symm⟩
    · have hold : gone ∈ s.forgotten := by
        rcases List.mem_append.mp hgone with hold | hnew
        · exact hold
        · exact absurd (hknown gone hnew) hnode
      exact h.walled gone hold (fun hin => hout ((hregistered _).mpr ⟨hnode, hin⟩)) r hr hnames
  · exact h.remote.flows
  · intro gone hgone
    rcases List.mem_append.mp hgone with hold | hnew
    · exact h.remote.forgotten gone hold
    · exact hknown gone hnew ▸ hremote

theorem Clean.dropToken (h : s.Clean) {nodeId : String} (hout : ¬ s.Registered nodeId)
    (huntaken : s.Untaken nodeId) : (s.dropToken nodeId).Clean := by
  refine h.setStores (fun _ => rfl) (fun _ hin => hin) (fun n hin => ?_) fun r hr hwritten => ?_
  · refine Std.ExtTreeMap.mem_erase.mpr ⟨?_, h.rooted.tokens n hin⟩
    intro hsame
    rw [Std.LawfulEqCmp.compare_eq_iff_eq] at hsame
    exact hout (hsame ▸ hin)
  · refine Std.ExtTreeMap.mem_erase.mpr ⟨?_, h.rooted.registering r hr hwritten⟩
    intro hsame
    rw [Std.LawfulEqCmp.compare_eq_iff_eq] at hsame
    exact huntaken r hr hwritten hsame.symm

/-! ## Bindings and mountpoints -/

theorem Clean.upsert (h : s.Clean) {binding b : StreamBinding} {janusMountId : ℤ}
    {t : TopologyState}
    (hok : s.stores.topology.upsertBinding binding s.stores.alloc janusMountId = .ok (b, t))
    (hreplaces : s.Replaces binding) : (s.setTopology t).Clean := by
  obtain ⟨hvalid, rfl⟩ := TopologyState.upsertBinding_ok hok
  obtain ⟨hmode, ⟨entry, hentry, -⟩, -⟩ := TopologyState.validateRemote_ok hvalid
  obtain ⟨row, hrow, -⟩ := Option.map_eq_some_iff.mp hentry
  refine ⟨⟨?_, h.rooted.tokens, h.rooted.registering⟩, fun mp hmp => ⟨?_, ?_⟩, h.walled,
    h.remote.flows, h.remote.forgotten⟩
  · exact h.rooted.rows.insert ⟨Dict.mem_of_getElem? hrow, hmode⟩
  · obtain ⟨⟨key, row, hrow, hnode, hid⟩, -⟩ := h.backed mp hmp
    by_cases hkey : binding.bindingId = key
    · obtain ⟨hsamenode, hsameid⟩ :=
        hreplaces row (hkey ▸ hrow) ⟨mp, hmp, hid.symm, hnode.symm⟩
      refine ⟨key, binding, ?_, hsamenode.trans hnode, hsameid.trans hid⟩
      exact (Dict.getElem?_insert _ _ _ _).trans (if_pos hkey)
    · exact ⟨key, row, (Dict.getElem?_insert _ _ _ _).trans ((if_neg hkey).trans hrow), hnode, hid⟩
  · exact (h.backed mp hmp).2

/-- Janus creates what it does not have. -/
theorem absent_of_created {b : StreamBinding} {janus : Janus}
    (h : (ensureJanus b {} janus).1.status = .created) :
    b.janus.mountpointId ∉ janus.map Mountpoint.id := by
  intro hmem
  have hexists : isAlreadyExists alreadyExistsMessage = true := by decide +kernel
  rw [ensureJanus, Janus.create] at h
  simp only [if_pos hmem, hexists, if_true] at h
  rw [reconcileExisting] at h
  split at h
  · split at h
    · split_ifs at h
    · cases h
  · cases h

theorem Clean.ensure (h : s.Clean) {b : StreamBinding}
    (hholds : b.janus.mountpointId ∉ s.janus.map (fun mp => mp.id) → s.Holds b) :
    (s.ensure b).2.Clean := by
  rw [Site.ensure]
  simp only
  split_ifs with hcreated
  · have habsent := absent_of_created hcreated
    rw [List.map_map] at habsent
    obtain ⟨hrow, hpending⟩ := hholds habsent
    refine ⟨⟨h.rooted.rows, h.rooted.tokens, h.rooted.registering⟩, fun mp hmp => ?_, h.walled,
      h.remote.flows, h.remote.forgotten⟩
    rcases List.mem_append.mp hmp with hold | hnew
    · exact h.backed mp hold
    · rw [List.mem_singleton.mp hnew]
      exact ⟨hrow, hpending⟩
  · exact h

/-! ## The firewall -/

theorem Clean.insertRule (h : s.Clean) {r : Rule} (hadmits : s.Admits r) :
    Clean { s with chain := r.listed :: s.chain } where
  rooted := ⟨h.rooted.rows, h.rooted.tokens, h.rooted.registering⟩
  backed := h.backed
  walled := by
    intro gone hgone hout r' hr' hnames
    by_cases hsame : r' = r
    · obtain ⟨f, hf, hunlisted⟩ := hadmits gone hgone hout (hsame ▸ hnames)
      exact ⟨f, hf, hunlisted.clears _ _⟩
    · have hne : r.listed ≠ r'.listed := fun heq => hsame (listed_injective heq).symm
      have hold : r' ∈ taggedRules s.chain :=
        mem_taggedRules.mpr ((List.mem_cons.mp (mem_taggedRules.mp hr')).resolve_left hne.symm)
      obtain ⟨f, hf, hclears⟩ := h.walled gone hgone hout r' hold hnames
      refine ⟨f, hf, hclears.mono ?_⟩
      rw [List.count_cons_of_ne hne]
  remote := ⟨h.remote.flows, h.remote.forgotten⟩

theorem sublist_delete (words : List String) (chain : List Entry) :
    ((Command.delete words).run chain).Sublist chain := by
  change (if words.head? = some "INPUT" then chain.erase words.tail else chain).Sublist chain
  split_ifs
  · exact List.erase_sublist
  · exact List.Sublist.refl chain

theorem Clean.deleteRule (h : s.Clean) (words : List String) :
    Clean { s with chain := (Command.delete words).run s.chain } where
  rooted := ⟨h.rooted.rows, h.rooted.tokens, h.rooted.registering⟩
  backed := h.backed
  walled := by
    intro gone hgone hout r hr hnames
    have hsub := sublist_delete words s.chain
    obtain ⟨f, hf, hclears⟩ := h.walled gone hgone hout r
      (mem_taggedRules.mpr (hsub.subset (mem_taggedRules.mp hr))) hnames
    exact ⟨f, hf, hclears.mono (hsub.count_le r.listed)⟩
  remote := ⟨h.remote.flows, h.remote.forgotten⟩

/-- A `delete_node` deletes a line that it has listed. -/
theorem Clean.deleteLine (h : s.Clean) {i : ℕ} {nodeId : String} {words : List String}
    {lines : List (List String)}
    (hi : s.flows[i]? = some (.deleteNode nodeId (.firewall (.delete (words :: lines))))) :
    Clean { s with
      chain := (Command.delete words).run s.chain
      flows := s.flows.set i (.deleteNode nodeId (.firewall (.delete lines))) } where
  rooted := ⟨h.rooted.rows, h.rooted.tokens, h.rooted.registering⟩
  backed := by
    intro mp hmp
    refine ⟨(h.backed mp hmp).1, fun pending hmem => ?_⟩
    rcases List.mem_or_eq_of_mem_set hmem with hold | hnew
    · exact (h.backed mp hmp).2 pending hold
    · cases hnew
  walled := by
    intro gone hgone hout r hr hnames
    have hsub := sublist_delete words s.chain
    refine exists_set hi (h.walled gone hgone hout r
        (mem_taggedRules.mpr (hsub.subset (mem_taggedRules.mp hr))) hnames)
      (fun f hclears => hclears.mono (hsub.count_le r.listed)) fun hclears => ⟨hclears.1, ?_⟩
    have hcount : s.chain.count r.listed ≤ (words :: lines).count ("INPUT" :: r.listed) :=
      hclears.2
    change ((Command.delete words).run s.chain).count r.listed ≤ lines.count ("INPUT" :: r.listed)
    by_cases hsame : words = "INPUT" :: r.listed
    · subst hsame
      rw [List.count_cons_self] at hcount
      change (s.chain.erase r.listed).count r.listed ≤ _
      rw [List.count_erase_self]
      omega
    · rw [List.count_cons_of_ne hsame] at hcount
      exact (hsub.count_le r.listed).trans hcount
  remote :=
    { flows := fun n step hmem => by
        rcases List.mem_or_eq_of_mem_set hmem with hold | hnew
        · exact h.remote.flows n step hold
        · cases hnew
          exact h.remote.flows nodeId _ (List.mem_of_getElem? hi)
      forgotten := h.remote.forgotten }

/-! ## Every step -/

/-- A `delete_node` goes on with the firewall: what it will delete, it will delete. -/
theorem Clean.setWall (h : s.Clean) {i : ℕ} {nodeId : String} {w w' : WallStep}
    (hi : s.flows[i]? = some (.deleteNode nodeId (.firewall w)))
    (hkeep : ∀ gone ∈ s.forgotten, gone.nodeId = nodeId → ¬ s.Registered nodeId →
      ∀ r ∈ taggedRules s.chain, gone.Names r → w.Clears s.chain r → w'.Clears s.chain r) :
    Clean { s with flows := s.flows.set i (.deleteNode nodeId (.firewall w')) } := by
  refine h.setFlow hi (fun _ _ hsame => (by cases hsame)) (fun gone hgone hout r hr hnames hf => ?_)
    fun _ _ hsame => ?_
  · obtain ⟨hnode, hclears⟩ := hf
    subst hnode
    exact ⟨rfl, hkeep gone hgone rfl hout r hr hnames hclears⟩
  · cases hsame
    exact h.remote.flows nodeId _ (List.mem_of_getElem? hi)

/-- A `delete_node` ends when it has nothing to delete. -/
theorem Clean.endWall (h : s.Clean) {i : ℕ} {nodeId : String} {w : WallStep}
    (hi : s.flows[i]? = some (.deleteNode nodeId (.firewall w)))
    (hnone : ∀ r ∈ taggedRules s.chain, ¬ w.Clears s.chain r) :
    Clean { s with flows := s.flows.set i .done } := by
  refine h.setFlow hi (fun _ _ hsame => (by cases hsame)) (fun gone hgone hout r hr hnames hf => ?_)
    fun _ _ hsame => (by cases hsame)
  exact hnone r hr hf.2

/-- What is stale for a listing is removed by the plan. -/
theorem clears_of_recognizes {quotes : String → Bool} {desired : List Rule} {plan : TextPlan}
    (hplan : textPlan desired (iptablesSave quotes s.chain) = some plan) {r : Rule}
    (hr : r ∈ taggedRules s.chain) (hplain : r.Plain)
    (hunwanted : r.tag.comment ∉ (wantItems desired).map fun r => r.tag.comment)
    (add : List Rule) : (WallStep.insert add plan.removeComments).Clears s.chain r := by
  obtain ⟨present, hpresent, rfl⟩ := Option.map_eq_some_iff.mp hplan
  refine ⟨hplain, List.mem_filter.mpr ⟨?_, decide_eq_true hunwanted⟩⟩
  have hquote : hasApostrophe r.tag.comment = false := hplain.2 _ (by simp [Rule.listed])
  apply mem_currentTagged hpresent (mem_taggedRules.mp hr) ?_ (tag_listed r)
  rw [Entry.Legible, tag_listed, Option.any_some, hplain.1, hquote]
  rfl

/-- A `delete_node` reconciles the firewall. -/
theorem Clean.clearWall (h : s.Clean) {quotes : String → Bool} {i : ℕ} {nodeId : String}
    {w : WallStep} (hi : s.flows[i]? = some (.deleteNode nodeId (.firewall w)))
    (hintime : s.InTime quotes (.deleteNode nodeId (.firewall w))) :
    let on := fun w' => Flow.deleteNode nodeId (.firewall w')
    Clean { (s.wall quotes w on).2 with flows := s.flows.set i (s.wall quotes w on).1 } := by
  cases w with
  | listNodes => exact h.setWall hi fun _ _ _ _ _ _ _ _ => trivial
  | listBindings nodes => exact h.setWall hi fun _ _ _ _ _ _ _ _ => trivial
  | save desired =>
      obtain ⟨hlists, hrecognizes⟩ := hintime
      obtain ⟨present, hpresent⟩ := Option.isSome_iff_exists.mp hlists
      have hplan : textPlan desired (iptablesSave quotes s.chain) = some _ :=
        congrArg (Option.map _) hpresent
      simp only [Site.wall, WallStep.go_save hplan]
      refine h.setWall hi fun gone hgone hnode hout r hr hnames _ => ?_
      obtain ⟨hplain, hunwanted⟩ := hrecognizes gone hgone hnode hout r hr hnames
      exact clears_of_recognizes hplan hr hplain hunwanted _
  | insert add removeComments =>
      cases add with
      | cons r add =>
          have hinserted := h.insertRule (r := r) hintime
          exact hinserted.setWall hi fun _ _ _ _ _ _ _ hclears => hclears
      | nil =>
          by_cases hempty : removeComments.isEmpty = true
          · have hgo : (WallStep.insert [] removeComments).go quotes s.stores s.chain =
                (none, s.chain) := by
              rw [WallStep.go, if_pos hempty]
            simp only [Site.wall, hgo]
            refine h.endWall hi fun r _ hclears => ?_
            have hstale := hclears.2
            rw [List.isEmpty_iff.mp hempty] at hstale
            cases hstale
          · have hlists := hintime (Bool.eq_false_iff.mpr hempty)
            simp only [Site.wall, WallStep.go_list s.chain hempty]
            refine h.setWall hi fun gone _ _ _ r _ _ hclears => ?_
            exact hclears.1.count_le hlists hclears.2
  | delete lines =>
      cases lines with
      | cons words lines => exact h.deleteLine hi
      | nil =>
          refine h.endWall hi fun r hr hclears => ?_
          change s.chain.count r.listed ≤ 0 at hclears
          have hpositive := List.count_pos_iff.mpr (mem_taggedRules.mp hr)
          omega

/-- A reconcile behind an activation. -/
theorem Clean.wall (h : s.Clean) {quotes : String → Bool} {w : WallStep}
    (hintime : s.WallInTime w) (on : WallStep → Flow) : (s.wall quotes w on).2.Clean := by
  cases w with
  | listNodes | listBindings => exact h
  | save desired =>
      cases hplan : textPlan desired (iptablesSave quotes s.chain) with
      | none =>
          simp only [Site.wall, WallStep.go_save_none hplan]
          exact h
      | some plan =>
          simp only [Site.wall, WallStep.go_save hplan]
          exact h
  | insert add removeComments =>
      cases add with
      | cons r add => exact h.insertRule hintime
      | nil =>
          by_cases hempty : removeComments.isEmpty = true
          · simp only [Site.wall, WallStep.go, if_pos hempty]
            exact h
          · simp only [Site.wall, WallStep.go_list s.chain hempty]
            exact h
  | delete lines =>
      cases lines with
      | cons words lines => exact h.deleteRule words
      | nil => exact h

theorem Clean.place (h : s.Clean) (p : Placement) (activates : Bool) {step : PlaceStep}
    (hintime : s.PlaceInTime p step) : (s.place p activates step).2.Clean := by
  cases step with
  | look =>
      rw [Site.place]
      split
      · split_ifs
        · exact h
        · exact h
      · exact h
  | mountpoint =>
      rw [Site.place]
      split
      · exact h
      · exact h
  | port mp =>
      rw [Site.place]
      split
      · exact h
      · exact h
  | upsert slot =>
      rw [Site.place]
      split
      · exact h
      · rename_i b t hok
        exact h.upsert hok hintime
  | ensure b => exact h.ensure hintime
  | status b =>
      have hwritten := @Clean.updateBinding s h b.bindingId
        (fun b => { b with status := .waitingForRtp }) fun _ => rfl
      rw [Site.place]
      split
      · exact h
      · rename_i b' t hok
        rw [TopologyState.setStatus] at hok
        rw [hok] at hwritten
        exact hwritten

theorem flows_ensure (b : StreamBinding) (s : Site) : (s.ensure b).2.flows = s.flows := by
  rw [Site.ensure]
  simp only
  split_ifs
  · rfl
  · rfl

theorem flows_place (p : Placement) (activates : Bool) (s : Site) (step : PlaceStep) :
    (s.place p activates step).2.flows = s.flows := by
  cases step with
  | look =>
      rw [Site.place]
      split
      · split_ifs
        · rfl
        · rfl
      · rfl
  | mountpoint | port | upsert | status =>
      rw [Site.place]
      split
      · rfl
      · rfl
  | ensure b => exact flows_ensure b s

/-- A flow goes on that is no `delete_node`. -/
theorem Clean.goOther {i : ℕ} {f g : Flow} {s' : Site} (h' : s'.Clean) (hsame : s'.flows = s.flows)
    (hi : s.flows[i]? = some f) (hf : ∀ nodeId step, f ≠ .deleteNode nodeId step)
    (hg : ∀ nodeId step, g ≠ .deleteNode nodeId step) :
    Clean { s' with flows := s.flows.set i g } := by
  rw [← hsame] at hi ⊢
  exact h'.setOther hi hf hg

theorem activateNext_ne (p : Placement) (rest : List SensorTask) (nodeId : String)
    (step : DeleteStep) : Flow.activateNext p rest ≠ .deleteNode nodeId step := by
  cases rest with
  | nil | cons => exact Flow.noConfusion

/-- What the monitor remembers does not matter. -/
theorem Clean.setMemory (h : s.Clean) (memory : Dict BindingState) :
    Clean { s with memory := memory } :=
  ⟨⟨h.rooted.rows, h.rooted.tokens, h.rooted.registering⟩, h.backed, h.walled, h.remote.flows,
    h.remote.forgotten⟩

theorem Clean.watch (h : s.Clean) (cfg : MonitorConfig) (answer : TickAnswer) (run : TickRun)
    (key : String) (b : StreamBinding) : (s.watch cfg answer run key b).2.Clean := by
  by_cases hwatched : watched b run.nodes[b.nodeId]? = true
  · simp only [Site.watch, if_pos hwatched]
    exact (h.setMemory _).updateBinding fun _ => rfl
  · simp only [Site.watch, if_neg hwatched]
    exact h

theorem flows_watch (cfg : MonitorConfig) (answer : TickAnswer) (run : TickRun) (key : String)
    (b : StreamBinding) (s : Site) : (s.watch cfg answer run key b).2.flows = s.flows := by
  by_cases hwatched : watched b run.nodes[b.nodeId]? = true
  · simp only [Site.watch, if_pos hwatched]
    rfl
  · simp only [Site.watch, if_neg hwatched]

theorem watch_ne (cfg : MonitorConfig) (answer : TickAnswer) (run : TickRun) (key : String)
    (b : StreamBinding) (s : Site) (nodeId : String) (step : DeleteStep) :
    (s.watch cfg answer run key b).1 ≠ .deleteNode nodeId step := by
  by_cases hwatched : watched b run.nodes[b.nodeId]? = true
  · simp only [Site.watch, if_pos hwatched]
    split_ifs
    · exact Flow.noConfusion
    · exact Flow.noConfusion
  · simp only [Site.watch, if_neg hwatched]
    exact Flow.noConfusion

/-- The rows of a node are listed. -/
theorem mem_nodeBindings (h : s.Clean) {key nodeId : String} {b : StreamBinding}
    (hb : s.stores.topology.bindings[key]? = some b) (hnode : b.nodeId = nodeId) :
    b ∈ s.nodeBindings nodeId := by
  have hmode := (h.rooted.rows key b hb).2
  refine List.mem_filter.mpr ⟨List.mem_map.mpr ⟨(key, b), ?_, rfl⟩, ?_⟩
  · exact Stores.mem_listBindings hb
  · simp [hnode, hmode]

/-- `delete_node` goes on. -/
theorem Clean.goDelete (h : s.Clean) (cfg : MonitorConfig) {quotes : String → Bool}
    (answer : TickAnswer) {i : ℕ} {nodeId : String} {step : DeleteStep}
    (hi : s.flows[i]? = some (.deleteNode nodeId step))
    (hintime : s.InTime quotes (.deleteNode nodeId step)) :
    Clean { (s.go cfg quotes answer (.deleteNode nodeId step)).2 with
      flows := s.flows.set i (s.go cfg quotes answer (.deleteNode nodeId step)).1 } := by
  have hmem := List.mem_of_getElem? hi
  have hremote := h.remote.flows nodeId step hmem
  cases step with
  | list =>
      refine h.setFlow hi (fun n pending hsame mp hmp hnode => ?_)
        (fun _ _ _ _ _ _ hf => hf.elim) fun _ _ hsame => (by cases hsame; exact hremote)
      cases hsame
      obtain ⟨⟨key, row, hrow, hrownode, hid⟩, -⟩ := h.backed mp hmp
      exact List.mem_map.mpr ⟨row, mem_nodeBindings h hrow (hrownode.trans hnode), hid⟩
  | destroy pending =>
      cases pending with
      | cons b rest =>
          refine (h.destroy b.janus.mountpointId).setFlow hi
            (fun n pending hsame mp hmp hnode => ?_) (fun _ _ _ _ _ _ hf => hf.elim)
            fun _ _ hsame => (by cases hsame; exact hremote)
          cases hsame
          obtain ⟨hmp, hother⟩ := List.mem_filter.mp hmp
          have hpending := (h.backed mp hmp).2 _ (hnode ▸ hmem)
          exact (List.mem_cons.mp hpending).resolve_left (of_decide_eq_true hother)
      | nil =>
          have hempty : ∀ mp ∈ s.janus, mp.binding.nodeId ≠ nodeId := by
            intro mp hmp hnode
            have hpending := (h.backed mp hmp).2 _ (hnode ▸ hmem)
            cases hpending
          have hdropping := h.setFlow (g := .deleteNode nodeId .dropToken) hi
            (fun _ _ hsame => (by cases hsame)) (fun _ _ _ _ _ _ hf => hf.elim)
            fun _ _ hsame => (by cases hsame; exact hremote)
          exact hdropping.removeNode hremote hempty (mem_set_self hi)
  | dropToken =>
      refine (h.dropToken hintime.1 hintime.2).setFlow hi (fun _ _ hsame => (by cases hsame))
        (fun _ _ _ _ _ _ hf => ⟨hf, trivial⟩) fun _ _ hsame => (by cases hsame; exact hremote)
  | firewall w => exact h.clearWall hi hintime

theorem Clean.go (h : s.Clean) (cfg : MonitorConfig) {quotes : String → Bool} (answer : TickAnswer)
    {i : ℕ} {f : Flow} (hi : s.flows[i]? = some f) (hintime : s.InTime quotes f) :
    Clean { (s.go cfg quotes answer f).2 with
      flows := s.flows.set i (s.go cfg quotes answer f).1 } := by
  cases f with
  | done => exact h.setOther hi (fun _ _ => Flow.noConfusion) fun _ _ => Flow.noConfusion
  | deleteNode nodeId step => exact h.goDelete cfg answer hi hintime
  | openPorts w =>
      refine (h.wall hintime .openPorts).goOther rfl hi (fun _ _ => Flow.noConfusion)
        fun n step => ?_
      simp only [Site.go, Site.wall]
      cases (w.go quotes s.stores s.chain).1 with
      | none | some => exact Flow.noConfusion
  | activate p raises rest step =>
      have hplaced := h.place p true hintime
      have hflows := flows_place p true s step
      rw [Site.go]
      generalize s.place p true step = result at hplaced hflows
      obtain ⟨placed, s'⟩ := result
      cases placed with
      | next step' =>
          exact hplaced.goOther hflows hi (fun _ _ => Flow.noConfusion) fun _ _ => Flow.noConfusion
      | raised =>
          exact hplaced.goOther hflows hi (fun _ _ => Flow.noConfusion) (activateNext_ne p rest)
      | bound =>
          refine hplaced.goOther hflows hi (fun _ _ => Flow.noConfusion) fun n step => ?_
          simp only
          split_ifs
          · exact Flow.noConfusion
          · exact activateNext_ne p rest n step
  | createBinding p step =>
      have hplaced := h.place p false hintime
      have hflows := flows_place p false s step
      rw [Site.go]
      generalize s.place p false step = result at hplaced hflows
      obtain ⟨placed, s'⟩ := result
      cases placed with
      | next | bound | raised =>
          exact hplaced.goOther hflows hi (fun _ _ => Flow.noConfusion) fun _ _ => Flow.noConfusion
  | tickNodes now pending =>
      exact h.setOther hi (fun _ _ => Flow.noConfusion) fun _ _ => Flow.noConfusion
  | tick run =>
      rw [Site.go]
      cases run.pending with
      | nil => exact h.setOther hi (fun _ _ => Flow.noConfusion) fun _ _ => Flow.noConfusion
      | cons entry rest =>
          have hwatched := h.watch cfg answer { run with pending := rest } entry.1 entry.2
          exact hwatched.goOther (flows_watch cfg answer _ entry.1 entry.2 s) hi
            (fun _ _ => Flow.noConfusion) (watch_ne cfg answer _ entry.1 entry.2 s)
  | recover run b =>
      exact (h.ensure hintime).goOther (flows_ensure b s) hi (fun _ _ => Flow.noConfusion)
        fun _ _ => Flow.noConfusion

theorem Clean.next (h : s.Clean) (cfg : MonitorConfig) (lan : LanConfig) {quotes : String → Bool}
    (e : SiteEvent) (hundisturbed : s.Undisturbed quotes e) :
    ((siteMachine cfg lan quotes).next s e).Clean := by
  change (s.step cfg lan quotes e).Clean
  cases e with
  | register op =>
      rw [Site.step]
      split_ifs
      · exact h
      · exact h.register lan op
  | registerNext => exact h.registerNext
  | store op =>
      rw [Site.step]
      split_ifs with hop
      · exact h.store lan (Bool.and_eq_true_iff.mp hop).1
      · exact h
  | deleteNode nodeId =>
      rw [Site.step]
      split
      · exact h
      · rename_i node hnode
        split_ifs with hlocal
        · exact h
        · refine h.begin (fun _ _ hsame => (by cases hsame)) fun n step hsame => ?_
          cases hsame
          rintro rfl
          rw [TopologyState.getNode, if_pos rfl] at hnode
          cases hnode
          exact hlocal rfl
  | activate nodeId gatewayHost sensors =>
      rw [Site.step]
      split_ifs
      · exact h
      · split
        · exact h
        · exact h.begin (fun _ _ => activateNext_ne _ _ _ _) fun _ _ hsame =>
            absurd hsame (activateNext_ne _ _ _ _)
  | createBinding cmd janusMountId =>
      rw [Site.step]
      split_ifs
      · exact h
      · split
        · exact h
        · exact h.begin (fun _ _ => Flow.noConfusion) fun _ _ hsame => (by cases hsame)
  | tick now =>
      exact h.begin (fun _ _ => Flow.noConfusion) fun _ _ hsame => (by cases hsame)
  | go i answer =>
      rw [Site.step]
      split
      · exact h
      · rename_i f hi
        split_ifs
        · exact h
        · exact h.go cfg answer hi (hundisturbed f hi)

/-- In every run in which no flow is late and the firewall can be read, nothing is left of a node
that was removed, and a node that was registered again has a token. -/
theorem nothing_left_undisturbed (cfg : MonitorConfig) (lan : LanConfig) (quotes : String → Bool)
    (events : List SiteEvent)
    (hundisturbed : (siteMachine cfg lan quotes).Along (Undisturbed quotes) {} events) :
    (siteMachine cfg lan quotes).Along
      (fun s e => ((siteMachine cfg lan quotes).next s e).Forgets) {} events :=
  (siteMachine cfg lan quotes).along_of_invariant (fun _ e h he => h.next cfg lan e he)
    (fun _ e h he => (h.next cfg lan e he).forgets) hundisturbed clean_initial

/-! ## Runs -/

instance (gone : Forgotten) (r : Rule) : Decidable (gone.Names r) :=
  inferInstanceAs (Decidable (_ ∧ _ ∧ _))

instance (s : Site) (nodeId : String) : Decidable (s.Registered nodeId) :=
  inferInstanceAs (Decidable (_ ∈ _))

instance (nodeId : String) : (f : Flow) → Decidable (f.Unlisted nodeId)
  | .deleteNode n .dropToken | .deleteNode n (.firewall .listNodes)
  | .deleteNode n (.firewall (.listBindings _)) | .deleteNode n (.firewall (.save _)) =>
      inferInstanceAs (Decidable (n = nodeId))
  | .deleteNode _ .list | .deleteNode _ (.destroy _) | .deleteNode _ (.firewall (.insert ..))
  | .deleteNode _ (.firewall (.delete _)) | .activate .. | .openPorts _ | .createBinding ..
  | .tickNodes .. | .tick _ | .recover .. | .done => isFalse id

/-- The bindings that a `delete_node` of the node has still to destroy. -/
def destroying (nodeId : String) : Flow → Option (List StreamBinding)
  | .deleteNode n (.destroy pending) => if n = nodeId then some pending else none
  | _ => none

theorem destroying_eq_some {nodeId : String} {f : Flow} {pending : List StreamBinding} :
    destroying nodeId f = some pending ↔ f = .deleteNode nodeId (.destroy pending) := by
  cases f with
  | deleteNode n step =>
      cases step with
      | destroy pending' => simp [destroying]
      | list | dropToken | firewall => simp [destroying]
  | activate | openPorts | createBinding | tickNodes | tick | recover | done => simp [destroying]

instance (s : Site) (b : StreamBinding) : Decidable (s.Holds b) :=
  decidable_of_iff
    ((∃ entry ∈ s.stores.topology.bindings.toList, entry.2.nodeId = b.nodeId ∧
        entry.2.janus.mountpointId = b.janus.mountpointId) ∧
      ∀ pending ∈ s.flows.filterMap (destroying b.nodeId),
        b.janus.mountpointId ∈ pending.map fun b => b.janus.mountpointId) <| by
    refine and_congr ?_ ?_
    · constructor
      · rintro ⟨entry, hentry, hrow⟩
        exact ⟨entry.1, entry.2, Std.ExtTreeMap.mem_toList_iff_getElem?_eq_some.mp hentry, hrow⟩
      · rintro ⟨key, row, hrow, hplace⟩
        exact ⟨(key, row), Std.ExtTreeMap.mem_toList_iff_getElem?_eq_some.mpr hrow, hplace⟩
    · simp only [List.mem_filterMap, destroying_eq_some]
      constructor
      · exact fun h pending hmem => h pending ⟨_, hmem, rfl⟩
      · rintro h pending ⟨f, hmem, rfl⟩
        exact h pending hmem

instance (s : Site) (b : StreamBinding) : Decidable (s.Replaces b) :=
  match hold : s.stores.topology.bindings[b.bindingId]? with
  | none => isTrue fun old h => absurd (hold.symm.trans h) (Option.some_ne_none old).symm
  | some old =>
      decidable_of_iff
        ((∃ mp ∈ s.janus, mp.id = old.janus.mountpointId ∧ mp.binding.nodeId = old.nodeId) →
          b.nodeId = old.nodeId ∧ b.janus.mountpointId = old.janus.mountpointId) <| by
        constructor
        · intro h old' hold'
          rw [← Option.some.inj (hold.symm.trans hold')]
          exact h
        · exact fun h => h old hold

instance (s : Site) (r : Rule) : Decidable (s.Admits r) :=
  inferInstanceAs (Decidable (∀ gone ∈ s.forgotten, _))

instance (s : Site) (nodeId : String) (desired : List Rule) :
    Decidable (s.Recognizes nodeId desired) :=
  inferInstanceAs (Decidable (∀ gone ∈ s.forgotten, _))

instance (quotes : String → Bool) (s : Site) : Decidable (s.Lists quotes) :=
  inferInstanceAs (Decidable (_ = true))

instance (s : Site) (nodeId : String) : Decidable (s.Untaken nodeId) :=
  decidable_of_iff
    ((s.registering.all fun r => !r.tokenWritten || decide (r.entry.nodeId ≠ nodeId)) = true) <| by
    unfold Untaken
    cases s.registering with
    | none => simp
    | some r => cases hwritten : r.tokenWritten <;> simp [hwritten]

instance (s : Site) (p : Placement) : (step : PlaceStep) → Decidable (s.PlaceInTime p step)
  | .upsert slot => inferInstanceAs (Decidable (s.Replaces (p.binding slot)))
  | .ensure b =>
      inferInstanceAs (Decidable (b.janus.mountpointId ∉ s.janus.map (fun mp => mp.id) → s.Holds b))
  | .look | .mountpoint | .port _ | .status _ => isTrue trivial

instance (s : Site) : (w : WallStep) → Decidable (s.WallInTime w)
  | .insert (r :: _) _ => inferInstanceAs (Decidable (s.Admits r))
  | .insert [] _ | .listNodes | .listBindings _ | .save _ | .delete _ => isTrue trivial

instance (quotes : String → Bool) (s : Site) : (f : Flow) → Decidable (s.InTime quotes f)
  | .deleteNode nodeId .dropToken =>
      inferInstanceAs (Decidable (¬ s.Registered nodeId ∧ s.Untaken nodeId))
  | .deleteNode nodeId (.firewall (.save desired)) =>
      inferInstanceAs (Decidable (s.Lists quotes ∧ s.Recognizes nodeId desired))
  | .deleteNode _ (.firewall .listNodes) => isTrue trivial
  | .deleteNode _ (.firewall (.listBindings _)) => isTrue trivial
  | .deleteNode _ (.firewall (.insert [] removeComments)) =>
      inferInstanceAs (Decidable (removeComments.isEmpty = false → s.Lists quotes))
  | .deleteNode _ (.firewall (.insert (r :: _) _)) => inferInstanceAs (Decidable (s.Admits r))
  | .deleteNode _ (.firewall (.delete _)) => isTrue trivial
  | .openPorts w => inferInstanceAs (Decidable (s.WallInTime w))
  | .activate p _ _ step => inferInstanceAs (Decidable (s.PlaceInTime p step))
  | .createBinding p step => inferInstanceAs (Decidable (s.PlaceInTime p step))
  | .recover _ b =>
      inferInstanceAs (Decidable (b.janus.mountpointId ∉ s.janus.map (fun mp => mp.id) → s.Holds b))
  | .deleteNode _ .list | .deleteNode _ (.destroy _) | .tickNodes .. | .tick _ | .done =>
      isTrue trivial

instance decidableUndisturbed (quotes : String → Bool) (s : Site) :
    (e : SiteEvent) → Decidable (s.Undisturbed quotes e)
  | .go i answer =>
      match hi : s.flows[i]? with
      | none => isTrue fun f h => absurd (hi.symm.trans h) (Option.some_ne_none f).symm
      | some f =>
          decidable_of_iff (s.InTime quotes f) <| by
            constructor
            · intro h f' hf'
              rw [← Option.some.inj (hi.symm.trans hf')]
              exact h
            · exact fun h => h f hi
  | .register _ | .registerNext | .store _ | .deleteNode _ | .activate .. | .createBinding ..
  | .tick _ => isTrue trivial

/-- A camera node is registered. -/
def registerRemote : List SiteEvent :=
  [.register (.upsertNode "node-1" "192.168.1.20" "remote_producer" "unknown" none none "token-1"),
    .registerNext, .registerNext]

/-- A stream of the node is activated. -/
def activateRemote : SiteEvent := .activate "node-1" "192.168.1.10" [{ sensor := "color" }]

/-- Some steps of a flow. -/
def steps (i n : ℕ) : List SiteEvent := List.replicate n (.go i {})

/-- The node is removed when the activation has come to its end. -/
def forgetRun : List SiteEvent :=
  registerRemote ++ [activateRemote] ++ steps 0 13 ++ [.deleteNode "node-1"] ++ steps 1 11

theorem nothing_left_undisturbed_removed :
    (siteMachine {} {} fun _ => false).Along
      (fun s e => ((siteMachine {} {} fun _ => false).next s e).Forgets) {} forgetRun :=
  nothing_left_undisturbed {} {} (fun _ => false) forgetRun (by decide +kernel)

/-- The node is removed when the activation has stored its binding. -/
def lateRun : List SiteEvent :=
  registerRemote ++ [activateRemote] ++ steps 0 4 ++ [.deleteNode "node-1"] ++ steps 1 9 ++
    steps 0 5

instance : (f : Flow) → Decidable (f = .done)
  | .done => isTrue rfl
  | .deleteNode .. | .activate .. | .openPorts _ | .createBinding .. | .tickNodes .. | .tick _
  | .recover .. => isFalse Flow.noConfusion

/-- The activation creates a mountpoint for a node that is gone, and nothing destroys it. -/
theorem late_mountpoint_left :
    ¬ ∀ (cfg : MonitorConfig) (lan : LanConfig) (quotes : String → Bool)
      (events : List SiteEvent), (siteMachine cfg lan quotes).Along
        (fun s e => ((siteMachine cfg lan quotes).next s e).Forgets) {} events := by
  intro h
  have hrun := h {} {} (fun _ => false) (lateRun ++ [.go 0 {}])
  have hlast := ((Machine.along_append _ _ _ _).mp hrun).2.1
  set s := (siteMachine {} {} fun _ => false).next
    ((siteMachine {} {} fun _ => false).run {} lateRun) (.go 0 {}) with hs
  have hdone : (∀ f ∈ s.flows, f = .done) ∧ s.registering.isNone = true := by
    rw [hs]
    decide +kernel
  have hgone : ∃ gone ∈ s.forgotten, ¬ s.Registered gone.nodeId ∧
      ∃ mp ∈ s.janus, mp.binding.nodeId = gone.nodeId := by
    rw [hs]
    decide +kernel
  obtain ⟨gone, hmem, hout, mp, hmp, hnode⟩ := hgone
  exact ((hlast hdone.1 (Option.isNone_iff_eq_none.mp hdone.2) gone hmem).1 hout).janus mp hmp hnode

end Site

end CameraStack.Streams
