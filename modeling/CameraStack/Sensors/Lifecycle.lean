/-
# The pipelines of the local sensors

A local sensor streams through an encoder unit of its own.  Starting a pipeline allocates a slot,
writes the environment of the unit, starts it and records in the allocation that the stream is
wanted; stopping it records that it is not, and stops the unit.  The record belongs to a serial
and a sensor, the unit to the sensor alone.

What the steps meet outside is given in advance, step by step: an error, which may come before or
after the step took effect, or the end of the machine.
-/

import CameraStack.Lib.Action
import CameraStack.Lib.Text
import CameraStack.Topology.Allocator

namespace CameraStack.Sensors

open CameraStack.Lib CameraStack.Topology

/-! ## Sensors and keys -/

/-- An entry of `_SENSOR_META`. -/
structure SensorMeta where
  label : String
  secretKey : String
  deriving DecidableEq, Repr

/-- `_SENSOR_META`. -/
def sensorMeta : String → Option SensorMeta
  | "color" => some ⟨"RGB Camera", "cam-rgb"⟩
  | "depth" => some ⟨"Depth (Z16→RGB)", "cam-depth"⟩
  | "ir1" => some ⟨"IR left (Y8)", "cam-ir1"⟩
  | "ir2" => some ⟨"IR right (Y8)", "cam-ir2"⟩
  | _ => none

/-- `parse_key`. -/
def parseKey (key : String) : Option (String × String) :=
  (cutAt [':'] key.toList).map fun parts => (String.ofList parts.1, String.ofList parts.2)

/-! ## What a call meets -/

/-- What goes wrong outside. -/
inductive Trouble where
  /-- A `LifecycleError`: the lock is busy, or `encoder-admin` fails. -/
  | lifecycle (message : String)
  /-- Anything else that is raised. -/
  | other (message : String)
  /-- The machine stops. -/
  | died
  deriving DecidableEq, Repr

/-- What a call raises. -/
inductive Raised where
  | unsupportedSensor (sensor : String)
  | lifecycle (message : String)
  | allocator (e : AllocatorError)
  | other (message : String)
  | died
  deriving DecidableEq

/-- What is raised for a trouble. -/
def Trouble.raised : Trouble → Raised
  | .lifecycle message => .lifecycle message
  | .other message => .other message
  | .died => .died

/-- The steps of a call. -/
inductive SensorStep where
  | lock | migrate | register | tuning | contract | intent | mux | mountpoint | start | settle
  | stopUnit | destroy
  deriving DecidableEq, Repr

/-- How a step ends. -/
structure StepEnd where
  trouble : Option Trouble := none
  /-- A step that goes wrong has taken effect. -/
  took : Bool := false
  deriving DecidableEq, Repr

/-- What Janus answers when a mountpoint is created or destroyed: a `JanusAdminError`, or not. -/
structure JanusEnd where
  error : Option String := none
  deriving DecidableEq, Repr

/-- What a call meets. -/
structure SensorEnv where
  ends : SensorStep → StepEnd := fun _ => {}
  /-- `is_running` behind the start. -/
  running : Option Bool := some true
  janus : JanusEnd := {}
  /-- The state file can be read without its lock. -/
  readable : Bool := true

/-- The allocations, and the encoder units that were started. -/
structure Pipelines where
  alloc : Allocator := ∅
  started : List String := []

/-- What a call does. -/
abbrev SensorM := Action SensorEnv Pipelines Raised

/-- A step without an effect on the pipelines. -/
def perform (step : SensorStep) : SensorM Unit := fun e s =>
  match (e.ends step).trouble with
  | none => (.ok (), s)
  | some t => (.error t.raised, s)

/-- An operation of the allocator; one that raises writes nothing. -/
def store {A : Type} (step : SensorStep) (op : Allocator → Except AllocatorError (A × Allocator)) :
    SensorM A := fun e s =>
  match (e.ends step).trouble, op s.alloc with
  | none, .error err => (.error (.allocator err), s)
  | none, .ok (a, alloc) => (.ok a, { s with alloc := alloc })
  | some t, .error _ => (.error t.raised, s)
  | some t, .ok (_, alloc) =>
      (.error t.raised, if (e.ends step).took then { s with alloc := alloc } else s)

/-- `_encoder_action("start", "rs-stream", sensor)`. -/
def startUnit (sensor : String) : SensorM Unit := do
  Action.modify fun s => { s with started := s.started ++ [sensor] }
  perform .start

/-! ## Starting and stopping -/

/-- What `initialize` answers. -/
structure InitResult where
  running : Bool
  message : String
  allocation : Option Allocation
  deriving DecidableEq

/-- The check that the unit runs. -/
def checkRunning (message : String) : SensorM Unit := fun e s =>
  if e.running = some false then (.error (.lifecycle message), s) else (.ok (), s)

/-- `_initialize_locked` for the color stream. -/
def initializeColor (serial : String) : SensorM InitResult := do
  let _ ← store .migrate fun m => .ok (m.migrateColorKey serial)
  let _ ← store .register (Allocator.ensure serial "color" colorMpId colorRtpPort)
  perform .tuning
  perform .contract
  -- The intent is recorded before the start, so that a start that fails is retried at the next
  -- boot.
  let _ ← store .intent (Allocator.setDesired serial "color" true)
  perform .mux
  startUnit "color"
  checkRunning "encoder-admin start returned 0 but color unit not active"
  pure
    { running := true, message := "color encoder (" ++ serial ++ ") running"
      allocation := some ⟨colorMpId, colorRtpPort, true⟩ }

/-- The message says that the mountpoint exists. -/
def saysExists (message : String) : Bool :=
  let msg := message.toLower.toList
  decide ("already exists".toList <:+: msg) ||
    decide ("exists".toList <:+: msg) && decide ("1456".toList <:+: msg)

/-- `create_mountpoint`, where a mountpoint that exists is reused. -/
def createMountpoint : SensorM Unit := fun e s =>
  match e.janus.error with
  | none => perform .mountpoint e s
  | some message =>
      if saysExists message then (.ok (), s)
      else (.error (.lifecycle ("Janus create_mountpoint failed: " ++ message)), s)

/-- `_initialize_locked` for the other streams. -/
def initializeDynamic (serial sensor : String) : SensorM InitResult := do
  let alloc ← store .register (Allocator.allocate serial sensor)
  perform .mux
  perform .tuning
  perform .contract
  createMountpoint
  startUnit sensor
  checkRunning ("rs-stream@" ++ sensor ++ ".service not active after start " ++
    "(check journalctl -u rs-stream@\x7bsensor\x7d)")
  -- The wait for media ends after three seconds in any case.
  perform .settle
  -- The intent is recorded behind the start, so that a stream that failed to start is not wanted.
  let _ ← store .intent (Allocator.setDesired serial sensor true)
  pure
    { running := true
      message := sensor ++ " pipeline (" ++ serial ++ ") running on mp_id=" ++ toString alloc.mpId
      allocation := some alloc }

/-- `initialize`. -/
def initializeSensor (serial sensor : String) : SensorM InitResult :=
  match sensorMeta sensor with
  | none => Action.halt (.unsupportedSensor sensor)
  | some _ => do
      perform .lock
      if sensor = "color" then initializeColor serial else initializeDynamic serial sensor

/-- What `stop` answers. -/
structure StopResult where
  running : Bool
  message : String
  deriving DecidableEq

/-- The intent goes away; a stream that was never allocated has none. -/
def clearIntent (serial sensor : String) : SensorM Unit :=
  Action.catching
    (do
      let _ ← store .intent (Allocator.setDesired serial sensor false)
      pure ())
    fun x =>
      match x with
      | .allocator (.noAllocation _) => pure ()
      | x => Action.halt x

/-- `_stop_locked` for the color stream. -/
def stopColor (serial : String) : SensorM StopResult := do
  let _ ← store .migrate fun m => .ok (m.migrateColorKey serial)
  clearIntent serial "color"
  perform .stopUnit
  pure { running := false, message := "color encoder (" ++ serial ++ ") stopped" }

/-- `get_allocation` of a stream that has a mountpoint, and the end of that mountpoint: what Janus
objects is not raised. -/
def destroyMountpoint (serial sensor : String) : SensorM Unit := fun e s =>
  match if e.readable then s.alloc[allocKey serial sensor]? else none with
  | none => (.ok (), s)
  | some _ =>
      match e.janus.error with
      | some _ => (.ok (), s)
      | none => perform .destroy e s

/-- `_stop_locked` for the other streams. -/
def stopDynamic (serial sensor : String) : SensorM StopResult := do
  clearIntent serial sensor
  perform .stopUnit
  destroyMountpoint serial sensor
  pure { running := false, message := sensor ++ " pipeline (" ++ serial ++ ") stopped" }

/-- `stop`. -/
def stopSensor (serial sensor : String) : SensorM StopResult :=
  match sensorMeta sensor with
  | none => Action.halt (.unsupportedSensor sensor)
  | some _ => do
      perform .lock
      if sensor = "color" then stopColor serial else stopDynamic serial sensor

/-! ## The boot reconcile -/

/-- What the boot reconcile meets. -/
structure BootEnv where
  /-- The state file can be read when it is looked at for allocations. -/
  listed : Bool := true
  /-- The state file can be read when the plan is made. -/
  planned : Bool := true
  /-- What the seed meets. -/
  seed : SensorEnv := {}
  /-- `is_running` before a stream is started. -/
  alreadyRunning : String → Option Bool := fun _ => some false
  /-- What the start of a stream meets, key by key. -/
  stream : String → SensorEnv := fun _ => {}

/-- `seed_if_empty`. -/
def seedIfEmpty (listed : Bool) : SensorM Bool := do
  let s ← Action.get
  if listed && !s.alloc.isEmpty then pure false
  else
    let _ ← store .register (Allocator.ensure localSerial "color" colorMpId colorRtpPort)
    let _ ← store .intent (Allocator.setDesired localSerial "color" true)
    pure true

/-- `plan`: the wanted streams, color first; the map lists its keys in their order. -/
def plan (planned : Bool) (alloc : Allocator) : List String :=
  let desired := (alloc.toList.filter fun entry => planned && entry.2.desiredActive).map Prod.fst
  let isColor := fun key : String => decide (":color".toList <:+ key.toList)
  desired.filter isColor ++ desired.filter fun key => !isColor key

/-- `reconcile_stream`: whether the stream runs, unless something is raised. -/
def reconcileStream (env : BootEnv) (key serial sensor : String) (s : Pipelines) :
    Except Raised Bool × Pipelines :=
  -- `is_running` knows nothing about other sensors.
  if (sensorMeta sensor).isSome ∧ env.alreadyRunning sensor = some true then (.ok true, s)
  else
    match initializeSensor serial sensor (env.stream key) s with
    | (.ok _, s') => (.ok true, s')
    | (.error (.lifecycle _), s') | (.error (.unsupportedSensor _), s') => (.ok false, s')
    | (.error x, s') => (.error x, s')

/-- The loop of `main` over the keys of the plan; what is raised ends it. -/
def reconcileKeys (env : BootEnv) : List String → Pipelines → Pipelines
  | [], s => s
  | key :: rest, s =>
      match parseKey key with
      | none => reconcileKeys env rest s
      | some (serial, sensor) =>
          match reconcileStream env key serial sensor s with
          | (.ok _, s') => reconcileKeys env rest s'
          | (.error _, s') => s'

/-- The boot reconcile. -/
def bootReconcile (env : BootEnv) (alloc : Allocator) : Pipelines :=
  match seedIfEmpty env.listed env.seed { alloc := alloc } with
  | (.ok _, s) => reconcileKeys env (plan env.planned s.alloc) s
  | (.error _, s) => s

end CameraStack.Sensors
