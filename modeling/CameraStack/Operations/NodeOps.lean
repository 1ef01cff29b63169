/-
# Node operations

Provisioning, rotating the token and activating streams are long operations on a node.  Each runs
in a thread of its own between two entries of the journal, and writes the node's row as it goes:
provisioning marks the row before every part that may take long.  When the process dies the thread
dies with it; the next process reads the journal and resets what was left in the middle.

What an operation meets is given with it: the answer of every call over SSH, and what every write
of a store raises, if it does.  So an operation is the list of its effects and what it ends with.
A crash comes between any two of the effects.
-/

import CameraStack.Bringup.Json
import CameraStack.Lib.Action
import CameraStack.Operations.Guard
import CameraStack.Topology.FreeList

namespace CameraStack.Operations

open CameraStack.Bringup CameraStack.Lib CameraStack.Topology

/-! ## States and effects -/

/-- `PState`. -/
inductive PState
  | reachable | probing | noCamera | ready | failed
  deriving DecidableEq, Repr

/-- The text of a state in the row. -/
def PState.value : PState → String
  | .reachable => "reachable"
  | .probing => "probing"
  | .noCamera => "no_camera"
  | .ready => "ready"
  | .failed => "failed"

/-- The states in the middle of provisioning. -/
def PState.inProgress : PState → Bool
  | .reachable | .probing => true
  | .noCamera | .ready | .failed => false

/-- `is_in_progress`. -/
def isInProgress (provisionState : Option String) : Bool :=
  provisionState = some PState.reachable.value || provisionState = some PState.probing.value

theorem isInProgress_value (state : PState) :
    isInProgress (some state.value) = state.inProgress := by
  cases state with
  | reachable | probing | noCamera | ready | failed => decide

/-- `BindOutcome`. -/
structure BindOutcome where
  bindingId : String
  rtpPort : ℤ

/-- What an operation does: it writes the row or the token of its node, installs a token on the
node, binds a sensor on the gateway, and activates it on the node. -/
inductive NodeEffect
  | setProvisionState (state : PState) (detail : Option String)
  | setSerial (serial : Json)
  | setAgentToken (token : String)
  | installToken (token : String)
  | bind (sensor : String) (outcome : BindOutcome)
  | activate (sensor : String)

namespace NodeEffect

/-- The state that is marked. -/
def state? : NodeEffect → Option PState
  | .setProvisionState state _ => some state
  | _ => none

/-- What it leaves in the topology.  A serial that is no text is kept by the file only. -/
def apply (nodeId : String) (t : TopologyState) : NodeEffect → TopologyState
  | .setProvisionState state detail => written t (t.setProvisionState nodeId state.value detail)
  | .setSerial (.str serial) => written t (t.setSerial nodeId serial)
  | .setAgentToken token => written t (t.setAgentToken nodeId token)
  | .setSerial _ | .installToken _ | .bind .. | .activate _ => t

end NodeEffect

/-- The state that was marked last. -/
def lastState (effects : List NodeEffect) : Option PState :=
  (effects.filterMap NodeEffect.state?).getLast?

@[simp] theorem lastState_nil : lastState [] = none := rfl

@[simp] theorem lastState_append_singleton (effects : List NodeEffect) (e : NodeEffect) :
    lastState (effects ++ [e]) = e.state?.or (lastState effects) := by
  cases hstate : e.state? with
  | none => simp [lastState, hstate]
  | some state => simp [lastState, hstate]

/-! ## Calls -/

/-- `RunResult`. -/
structure RunResult where
  rc : ℤ := 0
  stdout : String := ""
  stderr : String := ""

/-- `RunResult.ok`. -/
def RunResult.ok (r : RunResult) : Bool := r.rc = 0

/-- A part of an operation, with the effects so far. -/
abbrev NodeOpM (A : Type) := Action Unit (List NodeEffect) Raised A

/-- A call answers or raises. -/
def call {A : Type} (answer : Except Raised A) : NodeOpM A := fun _ effects => (answer, effects)

/-- A write raises or has its effect. -/
def store (raises : Option Raised) (effect : NodeEffect) : NodeOpM Unit := fun _ effects =>
  match raises with
  | some e => (.error e, effects)
  | none => (.ok (), effects ++ [effect])

/-- A command over SSH has its effect if it succeeds. -/
def command (answer : Except Raised RunResult) (effect : NodeEffect) : NodeOpM RunResult :=
  fun _ effects =>
    match answer with
    | .error e => (.error e, effects)
    | .ok r => (.ok r, if r.ok then effects ++ [effect] else effects)

/-- The first characters of a text. -/
def clip (n : ℕ) (text : String) : String := String.ofList (text.toList.take n)

/-! ## Provisioning -/

/-- `json.loads` and `repr`. -/
structure PythonText where
  loads : String → LoadsResult
  repr : String → String

/-- What the probe prints; nothing counts as `{}`. -/
def PythonText.probeInfo (json : PythonText) (stdout : String) : LoadsResult :=
  if stdout = "" then .value (.obj []) else json.loads stdout

/-- `value[0]`. -/
def firstItem : Json → Except Raised Json
  | .arr (item :: _) => .ok item
  | .arr [] => .error "list index out of range"
  | .str value =>
      match value.toList with
      | [] => .error "string index out of range"
      | c :: _ => .ok (.str (String.ofList [c]))
  | .obj _ => .error "0"
  | value => .error ("'" ++ value.typeName ++ "' object is not subscriptable")

/-- What is read of the document of the probe: the serial of the first device, if a camera is
available. -/
def probeCamera (info : Json) : Except Raised (Option Json) := do
  let available ← info.get "available"
  if !available.truth then pure none
  else
    let devices ← info.get "devices"
    let device ← if devices.truth then firstItem devices else pure (.obj [])
    let serial ← device.get "serial"
    pure (some serial)

/-- What `provision` meets: a new token, the answers over SSH, and what the writes raise. -/
structure ProvisionMeets where
  newToken : String := ""
  tokenStored : Option Raised := none
  echo : Except Raised RunResult := .ok {}
  reachableMarked : Option Raised := none
  push : Except Raised RunResult := .ok {}
  unpack : Except Raised RunResult := .ok {}
  probingMarked : Option Raised := none
  probe : Except Raised RunResult := .ok {}
  noCameraMarked : Option Raised := none
  clean : Except Raised RunResult := .ok {}
  serialStored : Option Raised := none
  deploy : Except Raised RunResult := .ok {}
  readyMarked : Option Raised := none
  failedMarked : Option Raised := none

/-- `ProvisionResult`. -/
structure ProvisionResult where
  nodeId : String
  state : PState
  serial : Option Json := none
  detail : String := ""

section Provision

variable (json : PythonText) (nodeId : String) (m : ProvisionMeets)

/-- `fail`. -/
def failProvision (detail : String) : NodeOpM ProvisionResult := do
  store m.failedMarked (.setProvisionState .failed (some detail))
  pure { nodeId := nodeId, state := .failed, detail := clip 200 detail }

/-- The serial is attached to the node, if there is one. -/
def storeSerial (serial : Json) : NodeOpM Unit :=
  if serial.truth then store m.serialStored (.setSerial serial) else pure ()

/-- The pipe is deployed. -/
def deployPipe (serial : Json) : NodeOpM ProvisionResult := do
  let dep ← call m.deploy
  if !dep.ok then failProvision nodeId m ("pipe deploy failed: " ++ clip 160 dep.stderr)
  else
    store m.readyMarked (.setProvisionState .ready none)
    pure { nodeId := nodeId, state := .ready, serial := some serial }

/-- The bundle is there: the node is probed for its camera. -/
def probeNode : NodeOpM ProvisionResult := do
  store m.probingMarked (.setProvisionState .probing none)
  let pr ← call m.probe
  match json.probeInfo pr.stdout with
  | .decodeError =>
      failProvision nodeId m ("probe returned non-JSON: " ++ json.repr (clip 120 pr.stdout))
  | .raised e => Action.halt e
  | .value info =>
      match ← call (probeCamera info) with
      | none =>
          store m.noCameraMarked (.setProvisionState .noCamera none)
          let _ ← call m.clean
          pure { nodeId := nodeId, state := .noCamera, detail := "no camera found" }
      | some serial =>
          storeSerial m serial
          deployPipe nodeId m serial

/-- The node answers: the bundle is pushed. -/
def pushBundle : NodeOpM ProvisionResult := do
  store m.reachableMarked (.setProvisionState .reachable none)
  let pushed ← call m.push
  if !pushed.ok then failProvision nodeId m "bundle push failed"
  else
    let _ ← call m.unpack
    probeNode json nodeId m

/-- A node without a token gets one. -/
def mintToken (node : NodeEntry) : NodeOpM Unit :=
  if node.agentToken.getD "" = "" then store m.tokenStored (.setAgentToken m.newToken) else pure ()

/-- `provision`. -/
def provision (found : Option NodeEntry) : NodeOpM ProvisionResult :=
  match found with
  | none => Action.halt ("unknown node " ++ nodeId)
  | some node => do
      mintToken m node
      let echo ← call m.echo
      if !echo.ok then failProvision nodeId m "node unreachable over SSH"
      else pushBundle json nodeId m

end Provision

/-! ## Tokens and streams -/

/-- What `rotate_token` meets. -/
structure RotateMeets where
  newToken : String
  setToken : Except Raised RunResult := .ok {}
  tokenStored : Option Raised := none

/-- `rotate_token`. -/
def rotateToken (nodeId : String) (m : RotateMeets) (found : Option NodeEntry) : NodeOpM Bool :=
  match found with
  | none => Action.halt ("unknown node " ++ nodeId)
  | some _ => do
      let r ← command m.setToken (.installToken m.newToken)
      if !r.ok then pure false
      else
        store m.tokenStored (.setAgentToken m.newToken)
        pure true

/-- What `activate_streams` meets for a sensor: the gateway binder, and the node. -/
structure SensorMeets where
  sensor : String
  bind : Except Raised BindOutcome
  activate : Except Raised RunResult := .ok {}

/-- `StreamResult`. -/
structure StreamResult where
  sensor : String
  ok : Bool
  bindingId : Option String := none
  detail : String := ""

/-- The body of the loop of `activate_streams`. -/
def activateSensor (m : SensorMeets) : NodeOpM StreamResult :=
  match m.bind with
  | .error e =>
      pure { sensor := m.sensor, ok := false, detail := "gateway bind failed: " ++ e }
  | .ok outcome => do
      store none (.bind m.sensor outcome)
      let act ← command m.activate (.activate m.sensor)
      pure
        { sensor := m.sensor, ok := act.ok, bindingId := some outcome.bindingId
          detail := if act.ok then "" else "node activate failed: " ++ clip 120 act.stderr }

/-- The loop of `activate_streams`. -/
def activateEach : List SensorMeets → NodeOpM (List StreamResult)
  | [] => pure []
  | m :: rest => do
      let result ← activateSensor m
      let results ← activateEach rest
      pure (result :: results)

/-- `activate_streams`. -/
def activateStreams (nodeId : String) (sensors : List SensorMeets) (found : Option NodeEntry) :
    NodeOpM (List StreamResult) :=
  match found with
  | none => Action.halt ("unknown node " ++ nodeId)
  | some _ => activateEach sensors

/-- `activate_remote`; the firewall is best effort. -/
def activateRemote (nodeId : String) (sensors : List SensorMeets) (found : Option NodeEntry) :
    NodeOpM Unit := do
  let _ ← activateStreams nodeId sensors found
  pure ()

/-! ## Operations -/

/-- The operations that `run` is given, with what they meet. -/
inductive NodeOp
  | provision (m : ProvisionMeets)
  | rotateToken (m : RotateMeets)
  | activate (sensors : List SensorMeets)

/-- The type of an operation in the journal. -/
def NodeOp.opType : NodeOp → String
  | .provision _ => "provision"
  | .rotateToken _ => "rotate-token"
  | .activate _ => "activate"

/-- What the thread calls; it does not look at what is returned. -/
def NodeOp.fn (json : PythonText) (nodeId : String) (found : Option NodeEntry) :
    NodeOp → NodeOpM Unit
  | .provision m => do
      let _ ← Operations.provision json nodeId m found
      pure ()
  | .rotateToken m => do
      let _ ← Operations.rotateToken nodeId m found
      pure ()
  | .activate sensors => activateRemote nodeId sensors found

/-- What is recorded of a call. -/
def recordedStatus : Except Raised Unit → String × String
  | .ok () => ("succeeded", "")
  | .error e => ("failed", e)

/-- `get`: the first record with the id. -/
def History.get (operationId : String) (ops : History) : Option Operation :=
  ops.find? fun op => op.operationId = operationId

/-! ## The process -/

/-- An operation whose thread runs: what it found of its node, the effects it has had, those that
it will have, and how it ends. -/
structure NodeRun extends LiveOp where
  op : NodeOp
  found : Option NodeEntry
  done : List NodeEffect := []
  rest : List NodeEffect
  result : Except Raised Unit

/-- The process serves, is down, or reaps: the operations it has still to reset, and the one whose
record it has ended. -/
inductive Phase
  | up
  | down
  | reaping (rest : List Operation) (marked : Option Operation)

/-- The stores, the journal, the number of ids given out, and the operations under way. -/
structure NodeGateway where
  stores : Stores := {}
  journal : History := []
  ids : ℕ := 0
  live : List NodeRun := []
  phase : Phase := .up

/-- What happens.  The effects of an operation come one at a time, and so do the writes of the
reaper. -/
inductive NodeOpEvent
  | register (op : StoreOp)
  | run (nodeId : String) (op : NodeOp) (now : ℤ)
  | advance (operationId : String) (now : ℤ)
  | crash
  | restart
  | reap (now : ℤ)

/-- The store operations that bring nodes in. -/
def registers : StoreOp → Bool
  | .upsertNode .. | .addNodeByHost .. => true
  | _ => false

namespace NodeGateway

/-- The topology is written. -/
def setTopology (s : NodeGateway) (t : TopologyState) : NodeGateway :=
  { s with stores := s.stores.setTopology t }

/-- A node is registered. -/
def register (lan : LanConfig) (op : StoreOp) (s : NodeGateway) : NodeGateway :=
  match s.phase with
  | .up => if registers op then { s with stores := s.stores.apply lan op } else s
  | _ => s

/-- `run`: the thread begins when the journal has the record.  The routes refuse the local node. -/
def run (json : PythonText) (nodeId : String) (op : NodeOp) (now : ℤ) (s : NodeGateway) :
    NodeGateway :=
  match s.phase with
  | .up =>
      if nodeId = localNodeId then s
      else
        match s.journal.begin nodeId op.opType (freshId s.ids) now with
        | .error _ => { s with ids := s.ids + 1 }
        | .ok journal =>
            let found := s.stores.topology.getNode nodeId
            let ran := op.fn json nodeId found () []
            { s with
              journal := journal
              ids := s.ids + 1
              live := s.live ++
                [{ operationId := freshId s.ids, nodeId := nodeId, started := true, op := op
                   found := found, rest := ran.2, result := ran.1 }] }
  | _ => s

/-- The operation with the id. -/
def running (operationId : String) (s : NodeGateway) : Option NodeRun :=
  s.live.find? fun r => r.operationId = operationId

/-- The operation has had an effect. -/
def NodeRun.advanced (e : NodeEffect) (rest : List NodeEffect) (r : NodeRun) : NodeRun :=
  { r with done := r.done ++ [e], rest := rest }

/-- An operation goes on: it has its next effect, or its outcome is recorded. -/
def advance (operationId : String) (now : ℤ) (s : NodeGateway) : NodeGateway :=
  match s.running operationId with
  | none => s
  | some r =>
      match r.rest with
      | e :: rest =>
          { s.setTopology (e.apply r.nodeId s.stores.topology) with
            live := s.live.map fun r' =>
              if r'.operationId = operationId then NodeRun.advanced e rest r' else r' }
      | [] =>
          let recorded := recordedStatus r.result
          { s with
            journal := s.journal.finish operationId recorded.1 recorded.2 now
            live := s.live.filter fun r' => r'.operationId ≠ operationId }

/-- The process dies. -/
def crash (s : NodeGateway) : NodeGateway := { s with live := [], phase := .down }

/-- The process starts: `reap_orphans` reads the journal. -/
def restart (s : NodeGateway) : NodeGateway :=
  match s.phase with
  | .down => { s with phase := .reaping s.journal.allRunning none }
  | _ => s

/-- A node left in the middle is failed. -/
def unstick (op : Operation) (s : NodeGateway) : NodeGateway :=
  match s.stores.topology.getNode op.nodeId with
  | none => s
  | some node =>
      if isInProgress node.provisionState then
        s.setTopology (NodeEffect.apply op.nodeId s.stores.topology
          (.setProvisionState .failed (some ("interrupted by restart: " ++ op.opType))))
      else s

/-- A step of `reap_orphans`. -/
def reap (now : ℤ) (s : NodeGateway) : NodeGateway :=
  match s.phase with
  | .reaping rest (some op) => { s.unstick op with phase := .reaping rest none }
  | .reaping (op :: rest) none =>
      { s with
        journal :=
          s.journal.finish op.operationId "interrupted" "interrupted by gateway restart" now
        phase := .reaping rest (some op) }
  | .reaping [] none => { s with phase := .up }
  | .up | .down => s

end NodeGateway

/-- The process, event after event. -/
def nodeOpMachine (lan : LanConfig) (json : PythonText) : Machine NodeGateway NodeOpEvent Unit where
  step s
    | .register op => (s.register lan op, [])
    | .run nodeId op now => (s.run json nodeId op now, [])
    | .advance operationId now => (s.advance operationId now, [])
    | .crash => (s.crash, [])
    | .restart => (s.restart, [])
    | .reap now => (s.reap now, [])

end CameraStack.Operations
