/-
# Forgetting a host

`delete_node` works from the bindings it has listed: it destroys their mountpoints, removes the row
of the node with all its bindings, drops the token, and reconciles the firewall.  Nothing holds the
other flows off while it does.  An activation stores a binding and creates its mountpoint, a tick of
the monitor creates mountpoints of the bindings it has read, and a reconcile inserts the rules that
it has computed.

Every flow is modelled between two of its accesses to the stores, to Janus and to the firewall, so
that any number of them run in any order.  All these calls succeed.  A registration is two writes
under the lock of the topology, the token and then the row; `remove_node` drops the token when it
has given the lock back.
-/

import CameraStack.Streams.Monitor
import CameraStack.Topology.FirewallChain

namespace CameraStack.Streams

open CameraStack.Lib CameraStack.Topology

/-! ## Janus and the firewall -/

/-- A mountpoint and the binding it was created for. -/
structure Served extends Mountpoint where
  binding : StreamBinding

/-- What a removed node had: its host and the ports of its bindings. -/
structure Forgotten where
  nodeId : String
  host : String
  ports : List ℤ

/-- The rule accepts the host of the node on one of its ports. -/
def Forgotten.Names (gone : Forgotten) (r : Rule) : Prop :=
  r.spec.target = .accept ∧ r.spec.source = some gone.host ∧
    ∃ port ∈ gone.ports, r.spec.portLow ≤ port ∧ port ≤ r.spec.portHigh

/-- `desired_rules`, whose reads of the nodes and of the bindings are apart. -/
def desiredBetween (nodes bindings : Stores) : List Rule :=
  (bindings.listBindings.flatMap fun entry => nodes.acceptRules entry.2) ++ [backstopRule]

/-- `reconcile(apply=True)` before each of its reads and calls. -/
inductive WallStep
  | listNodes
  | listBindings (nodes : Stores)
  | save (desired : List Rule)
  | insert (add : List Rule) (removeComments : List String)
  | delete (lines : List (List String))

/-- The next read or call; the backstop is inserted first.  A listing that cannot be read ends the
reconcile. -/
def WallStep.go (quotes : String → Bool) (s : Stores) (chain : List Entry) :
    WallStep → Option WallStep × List Entry
  | .listNodes => (some (.listBindings s), chain)
  | .listBindings nodes => (some (.save (desiredBetween nodes s)), chain)
  | .save desired =>
      match textPlan desired (iptablesSave quotes chain) with
      | none => (none, chain)
      | some plan =>
          let accepts := plan.add.filter fun r => r.tag ≠ .backstop
          let backstop := plan.add.filter fun r => r.tag = .backstop
          (some (.insert (backstop ++ accepts) plan.removeComments), chain)
  | .insert (r :: add) removeComments => (some (.insert add removeComments), r.listed :: chain)
  | .insert [] removeComments =>
      if removeComments.isEmpty then (none, chain)
      else
        (some (.delete
          (deletedWords removeComments (currentTaggedLines (iptablesSave quotes chain)))), chain)
  | .delete (words :: lines) => (some (.delete lines), (Command.delete words).run chain)
  | .delete [] => (none, chain)

/-- The calls of a reconcile, one after the other and without others in between. -/
inductive WallRun (quotes : String → Bool) (s : Stores) : WallStep → List Entry → List Entry → Prop
  | last {w : WallStep} {chain chain' : List Entry} (h : w.go quotes s chain = (none, chain')) :
      WallRun quotes s w chain chain'
  | next {w w' : WallStep} {chain mid chain' : List Entry}
      (h : w.go quotes s chain = (some w', mid)) (rest : WallRun quotes s w' mid chain') :
      WallRun quotes s w chain chain'

section WallRun

variable {quotes : String → Bool} {s : Stores}

theorem wallRun_insert {removeComments : List String} {chain' : List Entry} (add : List Rule)
    (chain : List Entry)
    (h : WallRun quotes s (.insert [] removeComments)
      (runCommands chain (add.map fun r => .insert r.listed)) chain') :
    WallRun quotes s (.insert add removeComments) chain chain' := by
  induction add generalizing chain with
  | nil => exact h
  | cons r add ih => exact .next rfl (ih (r.listed :: chain) h)

theorem wallRun_delete (lines : List (List String)) (chain : List Entry) :
    WallRun quotes s (.delete lines) chain (runCommands chain (lines.map Command.delete)) := by
  induction lines generalizing chain with
  | nil => exact .last rfl
  | cons words lines ih => exact .next rfl (ih ((Command.delete words).run chain))

theorem WallStep.go_save {desired : List Rule} {chain : List Entry} {plan : TextPlan}
    (hplan : textPlan desired (iptablesSave quotes chain) = some plan) :
    (WallStep.save desired).go quotes s chain =
      (some (.insert ((plan.add.filter fun r => r.tag = .backstop) ++
        plan.add.filter fun r => r.tag ≠ .backstop) plan.removeComments), chain) := by
  simp only [WallStep.go, hplan]

theorem WallStep.go_save_none {desired : List Rule} {chain : List Entry}
    (hplan : textPlan desired (iptablesSave quotes chain) = none) :
    (WallStep.save desired).go quotes s chain = (none, chain) := by
  simp only [WallStep.go, hplan]

/-- What is to be deleted is listed. -/
theorem WallStep.go_list {removeComments : List String} (chain : List Entry)
    (h : ¬ removeComments.isEmpty = true) :
    (WallStep.insert [] removeComments).go quotes s chain =
      (some (.delete (deletedWords removeComments
        (currentTaggedLines (iptablesSave quotes chain)))), chain) := by
  rw [WallStep.go, if_neg h]

/-- Left alone, the calls are the commands of `reconcile`. -/
theorem wallRun_reconcile (chain : List Entry) :
    WallRun quotes s .listNodes chain
      (runCommands chain (reconcileCommands quotes s chain)) := by
  refine .next rfl (.next rfl ?_)
  rw [reconcileCommands]
  cases hplan : textPlan s.desiredRules (iptablesSave quotes chain) with
  | none => exact .last (WallStep.go_save_none hplan)
  | some plan =>
      refine .next (WallStep.go_save hplan) (wallRun_insert _ _ ?_)
      change WallRun quotes s _ (runCommands chain plan.insertions) _
      simp only
      split_ifs with hempty
      · refine .last ?_
        rw [WallStep.go, if_pos hempty]
      · rw [runCommands_append]
        exact .next (WallStep.go_list _ hempty) (wallRun_delete _ _)

end WallRun

/-! ## The flows -/

/-- `delete_node` before each of its accesses. -/
inductive DeleteStep
  | list
  | destroy (pending : List StreamBinding)
  | dropToken
  | firewall (step : WallStep)

/-- What a binding is made of, by an activation or by `create_binding`. -/
structure Placement where
  node : NodeEntry
  sensor : String
  mountpointId : Option ℤ := none
  rtpPort : Option ℤ := none
  payloadType : ℤ := 96
  codec : String := "h264"
  rtpIface : String
  janusMountId : ℤ := 1305

/-- The binding on a slot. -/
def Placement.binding (p : Placement) (slot : Slot) : StreamBinding where
  bindingId := remoteBindingId p.node p.sensor
  nodeId := p.node.nodeId
  sensor := p.sensor
  mode := .remoteProducer
  transport := { rtpPort := slot.rtpPort, payloadType := p.payloadType, codec := p.codec }
  janus := { mountpointId := slot.mountpointId, rtpIface := p.rtpIface }

/-- The making of a binding before each of its accesses; `create_binding` neither looks for the
binding that is there nor goes to Janus. -/
inductive PlaceStep
  | look
  | mountpoint
  | port (mountpointId : ℤ)
  | upsert (slot : Slot)
  | ensure (b : StreamBinding)
  | status (b : StreamBinding)

/-- A sensor to activate, and whether its activation on the node raises. -/
structure SensorTask where
  sensor : String
  raises : Bool := false

/-- Everything that runs. -/
inductive Flow
  | deleteNode (nodeId : String) (step : DeleteStep)
  | activate (p : Placement) (raises : Bool) (rest : List SensorTask) (step : PlaceStep)
  | openPorts (step : WallStep)
  | createBinding (p : Placement) (step : PlaceStep)
  | tickNodes (now : ℚ) (pending : List (String × StreamBinding))
  | tick (run : TickRun)
  | recover (run : TickRun) (b : StreamBinding)
  | done

/-- `activate_streams` at its next sensor, or behind its last one. -/
def Flow.activateNext (p : Placement) : List SensorTask → Flow
  | [] => .openPorts .listNodes
  | task :: rest => .activate { p with sensor := task.sensor } task.raises rest .look

/-- A registration in the lock of the topology, before its next write. -/
structure Registration where
  entry : NodeEntry
  token : String
  tokenWritten : Bool := false

/-- What `upsert_node` or `add_node_by_host` has to write; a host that is known is not written. -/
def registrationOf (lan : LanConfig) (t : TopologyState) : StoreOp → Option Registration
  | .upsertNode nodeId host role reachability serial displayName mintedToken =>
      (t.upsertNode nodeId host role reachability serial displayName mintedToken).toOption.bind
        fun result => result.1.agentToken.map fun token => { entry := result.1, token := token }
  | .addNodeByHost host role displayName mintedId mintedToken =>
      if t.nodes.toList.any fun entry => entry.2.host = pyStrip host then none
      else
        (t.addNodeByHost lan host role displayName mintedId mintedToken).toOption.bind
          fun result => result.1.agentToken.map fun token => { entry := result.1, token := token }
  | _ => none

/-- The stores, Janus, the firewall, the memory of the monitor and everything that runs, with what
the removed nodes had. -/
structure Site where
  stores : Stores := {}
  registering : Option Registration := none
  janus : List Served := []
  chain : List Entry := []
  memory : Dict BindingState := ∅
  flows : List Flow := []
  forgotten : List Forgotten := []

namespace Site

/-! ## What the accesses do -/

/-- The topology is written. -/
def setTopology (s : Site) (t : TopologyState) : Site :=
  { s with stores := s.stores.setTopology t }

/-- `ensure_janus`. -/
def ensure (b : StreamBinding) (s : Site) : ProvisionStatus × Site :=
  let outcome := (ensureJanus b {} (s.janus.map Served.toMountpoint)).1
  (outcome.status,
    if outcome.status = .created then
      { s with
        janus := s.janus ++
          [{ id := b.janus.mountpointId, port := b.transport.rtpPort, binding := b }] }
    else s)

/-- `destroy_mountpoint`; an absent one is left. -/
def destroy (mountpointId : ℤ) (s : Site) : Site :=
  { s with janus := s.janus.filter fun mp => mp.id ≠ mountpointId }

/-- The bindings that `delete_node` lists. -/
def nodeBindings (nodeId : String) (s : Site) : List StreamBinding :=
  (s.stores.listBindings.map Prod.snd).filter fun b =>
    b.nodeId = nodeId ∧ b.mode = .remoteProducer

/-- What the node has. -/
def known (nodeId : String) (s : Site) : List Forgotten :=
  (s.stores.topology.nodes[nodeId]?.map fun row =>
    { nodeId := nodeId, host := row.host
      ports := ((s.stores.topology.bindings.toList.map Prod.snd).filter fun b =>
        b.nodeId = nodeId).flatMap fun b =>
          [b.transport.rtpPort, b.transport.rtpPort + 1] }).toList

/-- `remove_node` up to the end of the lock: the row and the bindings. -/
def removeNode (nodeId : String) (s : Site) : Site :=
  { s.setTopology { written s.stores.topology (s.stores.topology.removeNode nodeId) with
      secrets := s.stores.topology.secrets } with
    forgotten := s.forgotten ++ s.known nodeId }

/-- The end of `remove_node`: the token. -/
def dropToken (nodeId : String) (s : Site) : Site :=
  s.setTopology { s.stores.topology with secrets := s.stores.topology.secrets.erase nodeId }

/-! ## Steps -/

/-- What comes of a step of the making of a binding. -/
inductive Placed
  | next (step : PlaceStep)
  | bound
  | raised

/-- The next access of the making of a binding; an activation goes on to Janus. -/
def place (p : Placement) (activates : Bool) (s : Site) : PlaceStep → Placed × Site
  | .look =>
      match s.stores.topology.getBinding (remoteBindingId p.node p.sensor) s.stores.alloc with
      | some existing =>
          if existing.mode = .remoteProducer then (.next (.upsert existing.slot), s)
          else (.next .mountpoint, s)
      | none => (.next .mountpoint, s)
  | .mountpoint =>
      match TopologyState.chosenOr p.mountpointId
          (s.stores.topology.allocateMountpoint p.node.nodeId s.stores.alloc) with
      | .error _ => (.raised, s)
      | .ok mp => (.next (.port mp), s)
  | .port mp =>
      match TopologyState.chosenOr p.rtpPort
          (s.stores.topology.allocatePort p.node.nodeId s.stores.alloc) with
      | .error _ => (.raised, s)
      | .ok port => (.next (.upsert { mountpointId := mp, rtpPort := port }), s)
  | .upsert slot =>
      match s.stores.topology.upsertBinding (p.binding slot) s.stores.alloc p.janusMountId with
      | .error _ => (.raised, s)
      | .ok (b, t) => (if activates then .next (.ensure b) else .bound, s.setTopology t)
  | .ensure b =>
      let (status, s') := s.ensure b
      (if status = .created ∨ status = .existing then .next (.status b) else .raised, s')
  | .status b =>
      match s.stores.topology.setStatus b.bindingId .waitingForRtp with
      | .error _ => (.raised, s)
      | .ok (_, t) => (.bound, s.setTopology t)

/-- The next access of the firewall. -/
def wall (quotes : String → Bool) (s : Site) (w : WallStep) (on : WallStep → Flow) : Flow × Site :=
  let (w', chain) := w.go quotes s.stores s.chain
  ((w'.map on).getD .done, { s with chain := chain })

/-- The body of the loop of `tick`, with `set_status`. -/
def watch (cfg : MonitorConfig) (answer : TickAnswer) (run : TickRun) (key : String)
    (b : StreamBinding) (s : Site) : Flow × Site :=
  let node := run.nodes[b.nodeId]?
  if watched b node then
    let prev := s.memory[key]?
    let decision := evaluate cfg answer.videoAgeMs run.now prev
    let converged := converge cfg b node run.now prev answer
    let s' : Site :=
      { s with
        memory := s.memory.insert key
          (remember prev run.now decision (escalate b decision) converged) }
    (if converged then .recover run b else .tick run,
      s'.setTopology
        (written s.stores.topology (s.stores.topology.setStatus b.bindingId decision.status)))
  else (.tick run, s)

/-- The next access of a flow. -/
def go (cfg : MonitorConfig) (quotes : String → Bool) (answer : TickAnswer) (s : Site) :
    Flow → Flow × Site
  | .deleteNode nodeId .list => (.deleteNode nodeId (.destroy (s.nodeBindings nodeId)), s)
  | .deleteNode nodeId (.destroy (b :: rest)) =>
      (.deleteNode nodeId (.destroy rest), s.destroy b.janus.mountpointId)
  | .deleteNode nodeId (.destroy []) => (.deleteNode nodeId .dropToken, s.removeNode nodeId)
  | .deleteNode nodeId .dropToken =>
      (.deleteNode nodeId (.firewall .listNodes), s.dropToken nodeId)
  | .deleteNode nodeId (.firewall w) =>
      s.wall quotes w fun w' => .deleteNode nodeId (.firewall w')
  | .activate p raises rest step =>
      let (placed, s') := s.place p true step
      match placed with
      | .next step' => (.activate p raises rest step', s')
      | .bound => (if raises then .done else .activateNext p rest, s')
      | .raised => (.activateNext p rest, s')
  | .openPorts w => s.wall quotes w .openPorts
  | .createBinding p step =>
      let (placed, s') := s.place p false step
      match placed with
      | .next step' => (.createBinding p step', s')
      | .bound | .raised => (.done, s')
  | .tickNodes now pending =>
      (.tick { now := now, nodes := listNodes s.stores.topology, pending := pending }, s)
  | .tick run =>
      match run.pending with
      | [] => (.done, s)
      | (key, b) :: rest => s.watch cfg answer { run with pending := rest } key b
  | .recover run b => (.tick run, (s.ensure b).2)
  | .done => (.done, s)

end Site

/-! ## Runs -/

/-- Operations of the stores that neither register or remove nodes nor store, drop or rename
bindings. -/
def bystands : StoreOp → Bool
  | .upsertNode .. | .addNodeByHost .. | .removeNode _ | .upsertBinding .. | .removeBinding _
  | .migrateRemoteBindingIds => false
  | _ => true

/-- The operation writes the topology, under its lock. -/
def locksTopology : StoreOp → Bool
  | .allocate .. | .ensureColor .. | .setDesired .. | .release .. | .migrateColorKey .. => false
  | _ => true

/-- The next access of the flow writes the topology, under its lock. -/
def Flow.locksTopology : Flow → Bool
  | .deleteNode _ (.destroy []) => true
  | .activate _ _ _ (.upsert _) | .activate _ _ _ (.status _) => true
  | .createBinding _ (.upsert _) | .createBinding _ (.status _) => true
  | .tick run => run.pending.head?.any fun entry => watched entry.2 run.nodes[entry.2.nodeId]?
  | _ => false

/-- Registrations and the other operations of the stores, starts, and steps of the flows. -/
inductive SiteEvent
  | register (op : StoreOp)
  | registerNext
  | store (op : StoreOp)
  | deleteNode (nodeId : String)
  | activate (nodeId : String) (gatewayHost : String) (sensors : List SensorTask)
  | createBinding (cmd : CreateBindingCommand) (janusMountId : ℤ)
  | tick (now : ℚ)
  | go (i : ℕ) (answer : TickAnswer)

namespace Site

/-- A flow begins. -/
def begin (s : Site) (f : Flow) : Site := { s with flows := s.flows ++ [f] }

/-- The token of a registration is written, outside the topology's file. -/
def writeToken (s : Site) (r : Registration) : Site :=
  { s.setTopology { s.stores.topology with
      secrets := s.stores.topology.secrets.insert r.entry.nodeId r.token } with
    registering := some { r with tokenWritten := true } }

/-- The row of a registration is written and the lock given back. -/
def writeRow (s : Site) (r : Registration) : Site :=
  { s.setTopology { s.stores.topology with
      nodes := s.stores.topology.nodes.insert r.entry.nodeId r.entry.toNodeRow } with
    registering := none }

/-- The next write of the registration. -/
def registerNext (s : Site) : Site :=
  match s.registering with
  | none => s
  | some r => if r.tokenWritten then s.writeRow r else s.writeToken r

/-- One event.  What begins on a node reads its row first; what needs the lock of the topology
waits for a registration that has it. -/
def step (cfg : MonitorConfig) (lan : LanConfig) (quotes : String → Bool) (s : Site) :
    SiteEvent → Site
  | .register op =>
      if s.registering.isSome then s
      else { s with registering := registrationOf lan s.stores.topology op }
  | .registerNext => s.registerNext
  | .store op =>
      if bystands op && !(s.registering.isSome && locksTopology op) then
        { s with stores := s.stores.apply lan op }
      else s
  | .deleteNode nodeId =>
      match s.stores.topology.getNode nodeId with
      | none => s
      | some node => if node.nodeId = localNodeId then s else s.begin (.deleteNode nodeId .list)
  | .activate nodeId gatewayHost sensors =>
      if nodeId = localNodeId then s
      else
        match s.stores.topology.getNode nodeId with
        | none => s
        | some node =>
            s.begin (.activateNext { node := node, sensor := "", rtpIface := gatewayHost } sensors)
  | .createBinding cmd janusMountId =>
      if cmd.nodeId = localNodeId then s
      else
        match s.stores.topology.getNode cmd.nodeId with
        | none => s
        | some node =>
            s.begin (.createBinding
              { node := node, sensor := cmd.sensor, mountpointId := cmd.mountpointId
                rtpPort := cmd.rtpPort, payloadType := cmd.payloadType, codec := cmd.codec
                rtpIface := cmd.rtpIface, janusMountId := janusMountId }
              .mountpoint)
  | .tick now => s.begin (.tickNodes now s.stores.listBindings)
  | .go i answer =>
      match s.flows[i]? with
      | none => s
      | some f =>
          if s.registering.isSome && f.locksTopology then s
          else
            let (f', s') := s.go cfg quotes answer f
            { s' with flows := s.flows.set i f' }

/-- Left alone, a registration does what the operation does. -/
theorem registerNext_registerNext {lan : LanConfig} {s : Site} {op : StoreOp} {r : Registration}
    (hop : registrationOf lan s.stores.topology op = some r) :
    ({ s with registering := some r }.registerNext.registerNext).stores =
      s.stores.apply lan op := by
  have hboth : r.tokenWritten = false →
      ({ s with registering := some r }.registerNext.registerNext).stores =
        s.stores.setTopology (s.stores.topology.putNode r.entry r.token) := by
    intro hfirst
    simp [registerNext, hfirst, writeToken, writeRow, setTopology, Stores.setTopology,
      TopologyState.putNode]
  cases op with
  | upsertNode nodeId host role reachability serial displayName mintedToken =>
      simp only [registrationOf, Option.bind_eq_some_iff, Option.map_eq_some_iff] at hop
      obtain ⟨result, hresult, token, htoken, rfl⟩ := hop
      rw [hboth rfl]
      rw [TopologyState.upsertNode] at hresult
      split_ifs at hresult with hlocal
      · cases hresult
      · cases hresult
        cases htoken
        simp only [Stores.apply, TopologyState.upsertNode, if_neg hlocal, written]
  | addNodeByHost host role displayName mintedId mintedToken =>
      simp only [registrationOf] at hop
      split_ifs at hop with hknown
      simp only [Option.bind_eq_some_iff, Option.map_eq_some_iff] at hop
      obtain ⟨result, hresult, token, htoken, rfl⟩ := hop
      rw [hboth rfl]
      have hnone : s.stores.topology.nodes.toList.find?
          (fun entry => entry.2.host = pyStrip host) = none := by
        rw [List.find?_eq_none]
        intro entry hentry hhost
        exact hknown (List.any_eq_true.mpr ⟨entry, hentry, hhost⟩)
      rw [TopologyState.addNodeByHost] at hresult
      simp only [hnone] at hresult
      split at hresult
      · cases hresult
      · next hcheck =>
          cases hresult
          cases htoken
          simp only [Stores.apply, TopologyState.addNodeByHost, hcheck, hnone, written]
  | allocate | ensureColor | setDesired | release | migrateColorKey | setReachability | setSerial
  | setProvisionState | touchChecked | setMaintenance | setHostKey | setAgentToken | removeNode
  | upsertBinding | removeBinding | migrateRemoteBindingIds | setStatus | setFdirEnabled
  | setDesiredUp => cases hop

/-- What the monitor works on. -/
def watching (s : Site) : Watch where
  topology := s.stores.topology
  janus := s.janus.map Served.toMountpoint
  memory := s.memory

/-- Janus has what it did not have. -/
theorem janus_ensureJanus (b : StreamBinding) (janus : Janus) :
    (ensureJanus b {} janus).2 =
      if (ensureJanus b {} janus).1.status = .created then
        janus ++ [{ id := b.janus.mountpointId, port := b.transport.rtpPort }]
      else janus := by
  by_cases htaken : b.janus.mountpointId ∈ janus.map Mountpoint.id
  · have hexists : isAlreadyExists alreadyExistsMessage = true := by decide +kernel
    have hrefused : ensureJanus b {} janus =
        (reconcileExisting b alreadyExistsMessage {} janus, janus) := by
      simp only [ensureJanus, Janus.create, if_pos htaken, hexists, if_true]
    have hstatus : (reconcileExisting b alreadyExistsMessage {} janus).status ≠ .created := by
      intro hcreated
      rw [reconcileExisting] at hcreated
      split at hcreated
      · split at hcreated
        · split_ifs at hcreated
        · cases hcreated
      · cases hcreated
    rw [hrefused, if_neg hstatus]
  · have hcreated : ensureJanus b {} janus =
        ({ status := .created, mountpointId := b.janus.mountpointId, iface := b.janus.rtpIface },
          janus ++ [{ id := b.janus.mountpointId, port := b.transport.rtpPort }]) := by
      simp only [ensureJanus, Janus.create, if_neg htaken]
    rw [hcreated, if_pos rfl]

theorem watching_ensure (b : StreamBinding) (s : Site) :
    (s.ensure b).2.watching = { s.watching with janus := (recover b {} s.watching.janus).2 } := by
  have hrecover : ∀ janus : Janus, (recover b {} janus).2 = (ensureJanus b {} janus).2 := by
    intro janus
    rw [recover]
    simp only
    split_ifs
    · rfl
    · rfl
  rw [hrecover, janus_ensureJanus, Site.ensure]
  by_cases hcreated :
      (ensureJanus b {} (s.janus.map Served.toMountpoint)).1.status = .created
  · simp only [watching, hcreated, if_true, List.map_append, List.map_cons, List.map_nil]
  · simp only [watching, hcreated, if_false]

/-- Left alone, the accesses of a tick at a binding do what `tickBinding` does. -/
theorem watching_watch {cfg : MonitorConfig} {answer : TickAnswer} (hanswer : answer.janus = {})
    {run : TickRun} {key : String} {b : StreamBinding} {s s' : Site} {f : Flow}
    (h : s.watch cfg answer run key b = (f, s')) :
    (f = .recover run b ∧ (s'.ensure b).2.watching =
        (tickBinding cfg run.now run.nodes key b answer s.watching).2) ∨
      (f = .tick run ∧
        s'.watching = (tickBinding cfg run.now run.nodes key b answer s.watching).2) := by
  rw [Site.watch] at h
  rw [tickBinding]
  simp only at h ⊢
  by_cases hwatched : watched b run.nodes[b.nodeId]? = true
  · rw [if_pos hwatched] at h ⊢
    obtain ⟨rfl, rfl⟩ := Prod.mk.inj h
    by_cases hconverged : converge cfg b run.nodes[b.nodeId]? run.now s.memory[key]? answer = true
    · left
      refine ⟨if_pos hconverged, ?_⟩
      rw [watching_ensure, hanswer]
      simp only [watching, hconverged, if_true]
      rfl
    · right
      refine ⟨if_neg hconverged, ?_⟩
      simp only [watching, hconverged, if_false, Bool.false_eq_true]
      rfl
  · rw [if_neg hwatched] at h ⊢
    obtain ⟨rfl, rfl⟩ := Prod.mk.inj h
    exact .inr ⟨rfl, rfl⟩

end Site

/-- The site under any interleaving. -/
def siteMachine (cfg : MonitorConfig) (lan : LanConfig) (quotes : String → Bool) :
    Machine Site SiteEvent Empty where
  step s e := (s.step cfg lan quotes e, [])

end CameraStack.Streams
