/-
# What a boot reconcile attempts

The boot reconcile brings the wanted streams up one after the other, and goes on behind a stream
that fails with a `LifecycleError`, or that is not supported.  Whatever else is raised on the way
ends it: a stream that cannot have a slot, a contract file that cannot be written, a store that
cannot be read.
-/

import CameraStack.Sensors.Lifecycle

namespace CameraStack.Sensors

open CameraStack.Lib CameraStack.Topology

/-! ## The boot reconcile with its outcome -/

/-- What a boot reconcile meets; a probe may answer differently for each key, or raise. -/
structure BootCalls where
  listed : Bool := true
  planned : Bool := true
  seed : SensorEnv := {}
  running : String → Except String (Option Bool) := fun _ => .ok (some false)
  stream : String → SensorEnv := fun _ => {}

/-- The arguments of `main`. -/
structure BootArgs where
  noSeed : Bool := false
  dryRun : Bool := false

/-- A boot reconcile: the streams it attempted, in their order, its failures and its result. -/
structure BootRun where
  pipelines : Pipelines
  attempts : List String := []
  failures : ℕ := 0
  result : Except Raised ℕ := .ok 0

/-- `is_running`, which knows nothing about other sensors. -/
def isRunning (calls : BootCalls) (key sensor : String) : Except String (Option Bool) :=
  if (sensorMeta sensor).isSome then calls.running key else .ok none

/-- The loop of `main`, from the run so far. -/
def bootStreams (calls : BootCalls) (dryRun : Bool) : List String → BootRun → BootRun
  | [], run => run
  | key :: rest, run =>
      match parseKey key with
      | none => bootStreams calls dryRun rest { run with failures := run.failures + 1 }
      | some (serial, sensor) =>
          match isRunning calls key sensor with
          | .error message => { run with result := .error (.other message) }
          | .ok (some true) => bootStreams calls dryRun rest run
          | .ok _ =>
              if dryRun then bootStreams calls dryRun rest run
              else
                let started := initializeSensor serial sensor (calls.stream key) run.pipelines
                let tried :=
                  { run with pipelines := started.2, attempts := run.attempts ++ [key] }
                match started.1 with
                | .ok _ => bootStreams calls dryRun rest tried
                | .error (.lifecycle _) | .error (.unsupportedSensor _) =>
                    bootStreams calls dryRun rest { tried with failures := run.failures + 1 }
                | .error x => { tried with result := .error x }

/-- The seed, unless it is switched off. -/
def bootSeed (calls : BootCalls) (args : BootArgs) (alloc : Allocator) :
    Except Raised Bool × Pipelines :=
  if args.noSeed then (.ok false, { alloc }) else seedIfEmpty calls.listed calls.seed { alloc }

/-- `main` -/
def bootMain (calls : BootCalls) (args : BootArgs) (alloc : Allocator) : BootRun :=
  match bootSeed calls args alloc with
  | (.error x, s) => { pipelines := s, result := .error x }
  | (.ok _, s) => bootStreams calls args.dryRun (plan calls.planned s.alloc) { pipelines := s }

/-- What a boot meets where the probes answer by the sensor. -/
def BootEnv.calls (env : BootEnv) : BootCalls where
  listed := env.listed
  planned := env.planned
  seed := env.seed
  running key :=
    match parseKey key with
    | none => .ok none
    | some (_, sensor) => .ok (env.alreadyRunning sensor)
  stream := env.stream

theorem bootStreams_pipelines (env : BootEnv) (keys : List String) (run : BootRun) :
    (bootStreams env.calls false keys run).pipelines = reconcileKeys env keys run.pipelines := by
  induction keys generalizing run with
  | nil => rfl
  | cons key rest ih =>
      rw [bootStreams, reconcileKeys]
      cases hkey : parseKey key with
      | none => exact ih _
      | some parts =>
          obtain ⟨serial, sensor⟩ := parts
          have hprobe : isRunning env.calls key sensor =
              .ok (if (sensorMeta sensor).isSome then env.alreadyRunning sensor else none) := by
            rw [isRunning]
            split_ifs
            · simp only [BootEnv.calls, hkey]
            · rfl
          simp only [hprobe, reconcileStream]
          by_cases hrunning : (sensorMeta sensor).isSome ∧ env.alreadyRunning sensor = some true
          · rw [if_pos hrunning, if_pos hrunning.1, hrunning.2]
            exact ih run
          · have hnot : (if (sensorMeta sensor).isSome then env.alreadyRunning sensor else none) ≠
                some true := by
              split_ifs with hknown
              · exact fun h => hrunning ⟨hknown, h⟩
              · exact fun h => by cases h
            rw [if_neg hrunning]
            split
            · next heq => cases heq
            · next heq => exact absurd (Except.ok.inj heq) hnot
            · have hstream : env.calls.stream key = env.stream key := rfl
              simp only [Bool.false_eq_true, if_false, hstream]
              cases initializeSensor serial sensor (env.stream key) run.pipelines with
              | mk result s' =>
                  cases result with
                  | ok answer => exact ih _
                  | error x =>
                      cases x with
                      | lifecycle message => exact ih _
                      | unsupportedSensor name => exact ih _
                      | allocator e => rfl
                      | other message => rfl
                      | died => rfl

/-- The pipelines that a boot leaves. -/
theorem bootMain_pipelines (env : BootEnv) (alloc : Allocator) :
    (bootMain env.calls {} alloc).pipelines = bootReconcile env alloc := by
  rw [bootMain, bootReconcile]
  show (match seedIfEmpty env.listed env.seed { alloc } with
    | (.error x, s) => ({ pipelines := s, result := .error x } : BootRun)
    | (.ok _, s) => bootStreams env.calls false (plan env.planned s.alloc)
        { pipelines := s }).pipelines = _
  cases hseed : seedIfEmpty env.listed env.seed { alloc } with
  | mk result s =>
      cases result with
      | error x => rfl
      | ok seeded => exact bootStreams_pipelines env _ _

/-! ## What a start raises -/

/-- What an action raises. -/
def raisedBy {A : Type} (action : SensorM A) (e : SensorEnv) (s : Pipelines) : Option Raised :=
  match (action e s).1 with
  | .ok _ => none
  | .error x => some x

/-- What a step raises. -/
def stepRaise (e : SensorEnv) (step : SensorStep) : Option Raised :=
  (e.ends step).trouble.map Trouble.raised

/-- What an operation of the allocator raises, by its own result. -/
def storeRaise {A : Type} (e : SensorEnv) (step : SensorStep)
    (result : Except AllocatorError (A × Allocator)) : Option Raised :=
  match (e.ends step).trouble, result with
  | some t, _ => some t.raised
  | none, .error err => some (.allocator err)
  | none, .ok _ => none

/-- What the check that the unit runs raises. -/
def inactiveRaise (e : SensorEnv) (message : String) : Option Raised :=
  if e.running = some false then some (.lifecycle message) else none

/-- What the creation of a mountpoint raises. -/
def janusRaise (e : SensorEnv) : Option Raised :=
  match e.janus.error with
  | none => stepRaise e .mountpoint
  | some message =>
      if saysExists message then none
      else some (.lifecycle ("Janus create_mountpoint failed: " ++ message))

/-- The first call of a start of color that raises. -/
def colorRaise (e : SensorEnv) (serial : String) (m : Allocator) : Option Raised :=
  let ensured := Allocator.ensure serial "color" colorMpId colorRtpPort (m.migrateColorKey serial).2
  (stepRaise e .migrate).or <| (storeRaise e .register ensured).or <|
    match ensured with
    | .error _ => none
    | .ok (_, m) =>
        (stepRaise e .tuning).or <| (stepRaise e .contract).or <|
          (storeRaise e .intent (Allocator.setDesired serial "color" true m)).or <|
          (stepRaise e .mux).or <| (stepRaise e .start).or <|
          inactiveRaise e "encoder-admin start returned 0 but color unit not active"

/-- The first call of a start of another stream that raises. -/
def dynamicRaise (e : SensorEnv) (serial sensor : String) (m : Allocator) : Option Raised :=
  let allocated := Allocator.allocate serial sensor m
  (storeRaise e .register allocated).or <|
    match allocated with
    | .error _ => none
    | .ok (_, m) =>
        (stepRaise e .mux).or <| (stepRaise e .tuning).or <| (stepRaise e .contract).or <|
          (janusRaise e).or <| (stepRaise e .start).or <|
          (inactiveRaise e ("rs-stream@" ++ sensor ++ ".service not active after start " ++
            "(check journalctl -u rs-stream@\x7bsensor\x7d)")).or <|
          (stepRaise e .settle).or <|
          storeRaise e .intent (Allocator.setDesired serial sensor true m)

/-- The first call of a start that raises. -/
def initRaise (e : SensorEnv) (serial sensor : String) (m : Allocator) : Option Raised :=
  match sensorMeta sensor with
  | none => some (.unsupportedSensor sensor)
  | some _ =>
      (stepRaise e .lock).or
        (if sensor = "color" then colorRaise e serial m else dynamicRaise e serial sensor m)

/-- What the seed raises. -/
def seedRaise (listed : Bool) (e : SensorEnv) (m : Allocator) : Option Raised :=
  if listed && !m.isEmpty then none
  else
    let ensured := Allocator.ensure localSerial "color" colorMpId colorRtpPort m
    (storeRaise e .register ensured).or <|
      match ensured with
      | .error _ => none
      | .ok (_, m) => storeRaise e .intent (Allocator.setDesired localSerial "color" true m)

section Raises

variable {A B : Type} {e : SensorEnv} {s : Pipelines}

theorem raisedBy_bind (first : SensorM A) (next : A → SensorM B) :
    raisedBy (first >>= next) e s =
      match first e s with
      | (.ok a, s') => raisedBy (next a) e s'
      | (.error x, _) => some x := by
  rw [raisedBy, Action.run_bind]
  cases first e s with
  | mk result s' =>
      cases result with
      | ok a => rfl
      | error x => rfl

theorem raisedBy_pure (a : A) : raisedBy (pure a : SensorM A) e s = none := rfl

theorem raisedBy_perform (step : SensorStep) (next : Unit → SensorM B) :
    raisedBy (perform step >>= next) e s = (stepRaise e step).or (raisedBy (next ()) e s) := by
  rw [raisedBy_bind, perform, stepRaise]
  cases (e.ends step).trouble with
  | none => rfl
  | some t => rfl

theorem raisedBy_store (step : SensorStep) (op : Allocator → Except AllocatorError (A × Allocator))
    (next : A → SensorM B) :
    raisedBy (store step op >>= next) e s =
      (storeRaise e step (op s.alloc)).or
        (match op s.alloc with
        | .error _ => none
        | .ok (a, alloc) => raisedBy (next a) e { s with alloc := alloc }) := by
  rw [raisedBy_bind, store, storeRaise.eq_def]
  cases (e.ends step).trouble with
  | none =>
      cases op s.alloc with
      | error err => rfl
      | ok result => rfl
  | some t =>
      cases op s.alloc with
      | error err => rfl
      | ok result => rfl

/-- Nothing behind an operation that fails is reached. -/
theorem storeRaise_error (step : SensorStep) (err : AllocatorError) (x y : Option Raised) :
    (storeRaise e step (.error err : Except AllocatorError (A × Allocator))).or x =
      (storeRaise e step (.error err : Except AllocatorError (A × Allocator))).or y := by
  rw [storeRaise.eq_def]
  cases (e.ends step).trouble with
  | none => rfl
  | some t => rfl

theorem raisedBy_startUnit (sensor : String) (next : Unit → SensorM B) :
    raisedBy (startUnit sensor >>= next) e s =
      (stepRaise e .start).or
        (raisedBy (next ()) e { s with started := s.started ++ [sensor] }) := by
  rw [raisedBy_bind, startUnit, Action.run_bind, Action.run_modify]
  simp only [perform, stepRaise]
  cases (e.ends .start).trouble with
  | none => rfl
  | some t => rfl

theorem raisedBy_checkRunning (message : String) (next : Unit → SensorM B) :
    raisedBy (checkRunning message >>= next) e s =
      (inactiveRaise e message).or (raisedBy (next ()) e s) := by
  rw [raisedBy_bind, checkRunning, inactiveRaise]
  split_ifs
  · rfl
  · rfl

theorem raisedBy_createMountpoint (next : Unit → SensorM B) :
    raisedBy (createMountpoint >>= next) e s = (janusRaise e).or (raisedBy (next ()) e s) := by
  rw [raisedBy_bind, createMountpoint, janusRaise]
  cases e.janus.error with
  | none =>
      simp only [perform, stepRaise]
      cases (e.ends .mountpoint).trouble with
      | none => rfl
      | some t => rfl
  | some message =>
      dsimp only
      split_ifs
      · rfl
      · rfl

theorem raisedBy_initializeColor (serial : String) :
    raisedBy (initializeColor serial) e s = colorRaise e serial s.alloc := by
  rw [initializeColor, raisedBy_store, colorRaise]
  have hmigrate : storeRaise e .migrate (.ok (s.alloc.migrateColorKey serial)) =
      stepRaise e .migrate := by
    rw [storeRaise.eq_def, stepRaise]
    cases (e.ends .migrate).trouble with
    | none => rfl
    | some t => rfl
  rw [hmigrate]
  dsimp only
  rw [raisedBy_store]
  cases Allocator.ensure serial "color" colorMpId colorRtpPort
      (s.alloc.migrateColorKey serial).2 with
  | error err => rfl
  | ok result =>
      dsimp only
      rw [raisedBy_perform, raisedBy_perform, raisedBy_store]
      cases Allocator.setDesired serial "color" true result.2 with
      | error err =>
          dsimp only
          rw [storeRaise_error]
      | ok wanted =>
          dsimp only
          rw [raisedBy_perform, raisedBy_startUnit, raisedBy_checkRunning, raisedBy_pure,
            Option.or_none]

theorem raisedBy_initializeDynamic (serial sensor : String) :
    raisedBy (initializeDynamic serial sensor) e s = dynamicRaise e serial sensor s.alloc := by
  rw [initializeDynamic, raisedBy_store, dynamicRaise]
  cases Allocator.allocate serial sensor s.alloc with
  | error err => rfl
  | ok result =>
      dsimp only
      rw [raisedBy_perform, raisedBy_perform, raisedBy_perform, raisedBy_createMountpoint,
        raisedBy_startUnit, raisedBy_checkRunning, raisedBy_perform, raisedBy_store]
      cases Allocator.setDesired serial sensor true result.2 with
      | error err =>
          dsimp only
          rw [Option.or_none]
      | ok wanted =>
          dsimp only
          rw [raisedBy_pure, Option.or_none]

/-- A start raises what the first of its calls raises. -/
theorem raisedBy_initializeSensor (serial sensor : String) :
    raisedBy (initializeSensor serial sensor) e s = initRaise e serial sensor s.alloc := by
  rw [initializeSensor, initRaise]
  cases sensorMeta sensor with
  | none => rfl
  | some info =>
      dsimp only
      rw [raisedBy_perform]
      split_ifs
      · rw [raisedBy_initializeColor]
      · rw [raisedBy_initializeDynamic]

theorem raisedBy_seedIfEmpty (listed : Bool) :
    raisedBy (seedIfEmpty listed) e s = seedRaise listed e s.alloc := by
  rw [seedIfEmpty, raisedBy_bind, seedRaise]
  simp only [Action.run_get]
  split_ifs
  · rfl
  · rw [raisedBy_store]
    cases Allocator.ensure localSerial "color" colorMpId colorRtpPort s.alloc with
    | error err => rfl
    | ok result =>
        dsimp only
        rw [raisedBy_store]
        cases Allocator.setDesired localSerial "color" true result.2 with
        | error err =>
            dsimp only
            rw [Option.or_none]
        | ok wanted =>
            dsimp only
            rw [raisedBy_pure, Option.or_none]

end Raises

/-! ## When the boot goes on -/

/-- The loop goes on behind what was raised. -/
def Raised.Soft : Raised → Prop
  | .lifecycle _ | .unsupportedSensor _ => True
  | .allocator _ | .other _ | .died => False

/-- No probe raises, and the first call that raises in an attempt, if one does, raises what the loop
goes on behind; each attempt finds the pipelines as the earlier ones left them. -/
def GoesOn (calls : BootCalls) : List String → Pipelines → Prop
  | [], _ => True
  | key :: rest, s =>
      match parseKey key with
      | none => GoesOn calls rest s
      | some (serial, sensor) =>
          match isRunning calls key sensor with
          | .error _ => False
          | .ok (some true) => GoesOn calls rest s
          | .ok _ =>
              (∀ x ∈ initRaise (calls.stream key) serial sensor s.alloc, x.Soft) ∧
                GoesOn calls rest (initializeSensor serial sensor (calls.stream key) s).2

/-- The key names a stream that a boot has to attempt. -/
def ToAttempt (calls : BootCalls) (key : String) : Prop :=
  ∃ serial sensor, parseKey key = some (serial, sensor) ∧
    isRunning calls key sensor ≠ .ok (some true)

instance (calls : BootCalls) (key : String) : Decidable (ToAttempt calls key) :=
  match h : parseKey key with
  | none => isFalse (by simp [ToAttempt, h])
  | some (serial, sensor) =>
      decidable_of_iff (isRunning calls key sensor ≠ .ok (some true)) (by simp [ToAttempt, h])

section Loop

variable {calls : BootCalls} {key serial sensor : String} {rest : List String}
  {running : Option Bool} {run : BootRun}

theorem toAttempt_iff (hkey : parseKey key = some (serial, sensor)) :
    ToAttempt calls key ↔ isRunning calls key sensor ≠ .ok (some true) := by
  simp [ToAttempt, hkey]

theorem goesOn_attempt (hkey : parseKey key = some (serial, sensor))
    (hprobe : isRunning calls key sensor = .ok running) (hrunning : running ≠ some true)
    (s : Pipelines) :
    GoesOn calls (key :: rest) s ↔
      (∀ x ∈ initRaise (calls.stream key) serial sensor s.alloc, x.Soft) ∧
        GoesOn calls rest (initializeSensor serial sensor (calls.stream key) s).2 := by
  rw [GoesOn, hkey]
  simp only [hprobe]

/-- Behind an attempt that raises nothing, or what the loop goes on behind. -/
theorem bootStreams_soft (rest : List String) (run : BootRun)
    (hkey : parseKey key = some (serial, sensor))
    (hprobe : isRunning calls key sensor = .ok running) (hrunning : running ≠ some true)
    (hsoft : ∀ x ∈ initRaise (calls.stream key) serial sensor run.pipelines.alloc, x.Soft) :
    ∃ failures, bootStreams calls false (key :: rest) run =
      bootStreams calls false rest
        { run with
          pipelines := (initializeSensor serial sensor (calls.stream key) run.pipelines).2
          attempts := run.attempts ++ [key]
          failures := failures } := by
  rw [← raisedBy_initializeSensor (s := run.pipelines), raisedBy] at hsoft
  rw [bootStreams, hkey]
  simp only [hprobe, Bool.false_eq_true, if_false]
  cases hresult : (initializeSensor serial sensor (calls.stream key) run.pipelines).1 with
  | ok answer => exact ⟨run.failures, rfl⟩
  | error x =>
      rw [hresult] at hsoft
      cases x with
      | lifecycle message => exact ⟨run.failures + 1, rfl⟩
      | unsupportedSensor name => exact ⟨run.failures + 1, rfl⟩
      | allocator err => exact (hsoft _ rfl).elim
      | other message => exact (hsoft _ rfl).elim
      | died => exact (hsoft _ rfl).elim

/-- Any other exception of an attempt is the result of the boot. -/
theorem bootStreams_hard (rest : List String) (run : BootRun)
    (hkey : parseKey key = some (serial, sensor))
    (hprobe : isRunning calls key sensor = .ok running) (hrunning : running ≠ some true)
    {x : Raised} (hraise : x ∈ initRaise (calls.stream key) serial sensor run.pipelines.alloc)
    (hhard : ¬ x.Soft) :
    (bootStreams calls false (key :: rest) run).result = .error x := by
  rw [← raisedBy_initializeSensor (s := run.pipelines), raisedBy] at hraise
  rw [bootStreams, hkey]
  simp only [hprobe, Bool.false_eq_true, if_false]
  cases hresult : (initializeSensor serial sensor (calls.stream key) run.pipelines).1 with
  | ok answer =>
      rw [hresult] at hraise
      cases hraise
  | error y =>
      rw [hresult] at hraise
      cases hraise
      cases x with
      | lifecycle message => exact (hhard trivial).elim
      | unsupportedSensor name => exact (hhard trivial).elim
      | allocator err => rfl
      | other message => rfl
      | died => rfl

end Loop

/-- The loop ends with its result exactly where it goes on behind every stream, and has attempted
them all then. -/
theorem bootStreams_spec (calls : BootCalls) (keys : List String) (run : BootRun)
    (hresult : run.result = .ok 0) :
    ((bootStreams calls false keys run).result = .ok 0 ↔ GoesOn calls keys run.pipelines) ∧
      (GoesOn calls keys run.pipelines →
        (bootStreams calls false keys run).attempts =
          run.attempts ++ keys.filter fun key => ToAttempt calls key) := by
  induction keys generalizing run with
  | nil =>
      refine ⟨iff_of_true hresult trivial, fun _ => ?_⟩
      rw [bootStreams, List.filter_nil, List.append_nil]
  | cons key rest ih =>
      rw [List.filter_cons]
      cases hkey : parseKey key with
      | none =>
          have hnot : ¬ ToAttempt calls key := by simp [ToAttempt, hkey]
          rw [if_neg (by simpa using hnot), bootStreams, GoesOn, hkey]
          exact ih _ hresult
      | some parts =>
          obtain ⟨serial, sensor⟩ := parts
          cases hprobe : isRunning calls key sensor with
          | error message =>
              rw [bootStreams, GoesOn, hkey]
              simp only [hprobe]
              exact ⟨iff_of_false (fun h => by cases h) id, fun h => h.elim⟩
          | ok running =>
              by_cases htrue : running = some true
              · rw [htrue] at hprobe
                have hnot : ¬ ToAttempt calls key := fun h => (toAttempt_iff hkey).mp h hprobe
                rw [if_neg (by simpa using hnot), bootStreams, GoesOn, hkey]
                simp only [hprobe]
                exact ih _ hresult
              · have hto : ToAttempt calls key := by
                  rw [toAttempt_iff hkey, hprobe]
                  exact fun h => htrue (Except.ok.inj h)
                rw [if_pos (by simpa using hto), goesOn_attempt hkey hprobe htrue]
                by_cases hsoft : ∀ x ∈ initRaise (calls.stream key) serial sensor
                    run.pipelines.alloc, x.Soft
                · obtain ⟨failures, heq⟩ :=
                    bootStreams_soft rest run hkey hprobe htrue hsoft
                  rw [heq]
                  obtain ⟨hends, hall⟩ := ih
                    { run with
                      pipelines :=
                        (initializeSensor serial sensor (calls.stream key) run.pipelines).2
                      attempts := run.attempts ++ [key]
                      failures := failures } hresult
                  refine ⟨hends.trans (and_iff_right hsoft).symm, fun h => ?_⟩
                  rw [hall h.2, List.append_assoc]
                  rfl
                · obtain ⟨x, hraise, hhard⟩ : ∃ x ∈ initRaise (calls.stream key) serial sensor
                      run.pipelines.alloc, ¬ x.Soft := by
                    push Not at hsoft
                    exact hsoft
                  have hends := bootStreams_hard rest run hkey hprobe htrue
                    hraise hhard
                  refine ⟨iff_of_false ?_ fun h => hsoft h.1, fun h => (hsoft h.1).elim⟩
                  rw [hends]
                  exact fun h => by cases h

/-! ## The whole boot -/

/-- The key of a color stream. -/
def IsColor (key : String) : Prop := ":color".toList <:+ key.toList

instance (key : String) : Decidable (IsColor key) :=
  inferInstanceAs (Decidable (":color".toList <:+ key.toList))

theorem plan_nodup (planned : Bool) (m : Allocator) : (plan planned m).Nodup := by
  have hkeys : ((m.toList.filter fun entry => planned && entry.2.desiredActive).map
      Prod.fst).Nodup := by
    refine List.Nodup.sublist (List.filter_sublist.map Prod.fst) ?_
    rw [Std.ExtTreeMap.map_fst_toList_eq_keys]
    exact Std.ExtTreeMap.nodup_keys
  rw [plan]
  refine List.nodup_append.mpr ⟨hkeys.filter _, hkeys.filter _, fun a ha b hb heq => ?_⟩
  have hcolor := (List.mem_filter.mp ha).2
  have hother := (List.mem_filter.mp hb).2
  rw [← heq] at hother
  dsimp only at hcolor hother
  rw [hcolor] at hother
  exact absurd hother (by decide)

theorem plan_color_first (planned : Bool) (m : Allocator) :
    (plan planned m).Pairwise fun first second => IsColor second → IsColor first := by
  rw [plan]
  refine List.pairwise_append.mpr ⟨?_, ?_, fun a ha b hb hcolor => ?_⟩
  · refine List.pairwise_of_forall_mem_list fun a ha b hb _ => ?_
    exact of_decide_eq_true (List.mem_filter.mp ha).2
  · refine List.pairwise_of_forall_mem_list fun a ha b hb hcolor => ?_
    have hother := (List.mem_filter.mp hb).2
    simp only [Bool.not_eq_true', decide_eq_false_iff_not] at hother
    exact absurd hcolor hother
  · exact of_decide_eq_true (List.mem_filter.mp ha).2

/-- The boot reconcile is fail-soft: it attempts every planned stream that is not running, once,
color first, and returns 0. -/
structure FailSoft (calls : BootCalls) (args : BootArgs) (alloc : Allocator) : Prop where
  result : (bootMain calls args alloc).result = .ok 0
  nodup : (bootMain calls args alloc).attempts.Nodup
  mem_iff : ∀ key, key ∈ (bootMain calls args alloc).attempts ↔
    key ∈ plan calls.planned (bootSeed calls args alloc).2.alloc ∧ ToAttempt calls key
  colorFirst : (bootMain calls args alloc).attempts.Pairwise fun first second =>
    IsColor second → IsColor first

theorem bootSeed_error_iff (calls : BootCalls) (noSeed : Bool) (alloc : Allocator) :
    (∀ x, (bootSeed calls { noSeed } alloc).1 ≠ .error x) ↔
      noSeed = true ∨ seedRaise calls.listed calls.seed alloc = none := by
  rw [bootSeed]
  cases noSeed with
  | true => exact iff_of_true (fun x h => by cases h) (.inl rfl)
  | false =>
      rw [← raisedBy_seedIfEmpty (s := { alloc }), raisedBy]
      simp only [Bool.false_eq_true, if_false, false_or]
      cases (seedIfEmpty calls.listed calls.seed { alloc }).1 with
      | ok seeded => exact iff_of_true (fun x h => by cases h) rfl
      | error x => exact iff_of_false (fun h => h x rfl) fun h => by cases h

/-- The boot is fail-soft exactly where the seed raises nothing, and every stream that is attempted
raises nothing but what the loop goes on behind. -/
theorem boot_fail_soft_iff (calls : BootCalls) (noSeed : Bool) (alloc : Allocator) :
    FailSoft calls { noSeed } alloc ↔
      (noSeed = true ∨ seedRaise calls.listed calls.seed alloc = none) ∧
        GoesOn calls (plan calls.planned (bootSeed calls { noSeed } alloc).2.alloc)
          (bootSeed calls { noSeed } alloc).2 := by
  rw [← bootSeed_error_iff]
  cases hseed : bootSeed calls { noSeed } alloc with
  | mk result s =>
      cases result with
      | error x =>
          refine iff_of_false (fun h => ?_) fun h => h.1 x rfl
          have hends := h.result
          rw [bootMain, hseed] at hends
          cases hends
      | ok seeded =>
          have hmain : bootMain calls { noSeed } alloc =
              bootStreams calls false (plan calls.planned s.alloc) { pipelines := s } := by
            rw [bootMain, hseed]
          obtain ⟨hends, hall⟩ := bootStreams_spec calls (plan calls.planned s.alloc)
            { pipelines := s } rfl
          constructor
          · intro h
            refine ⟨fun x => (by intro herror; cases herror), hends.mp ?_⟩
            rw [← hmain]
            exact h.result
          · rintro ⟨-, hgoes⟩
            have hattempts : (bootMain calls { noSeed } alloc).attempts =
                (plan calls.planned s.alloc).filter fun key => ToAttempt calls key := by
              rw [hmain, hall hgoes]
              rfl
            have hsub := List.filter_sublist (l := plan calls.planned s.alloc)
              (p := fun key => ToAttempt calls key)
            refine ⟨?_, ?_, fun key => ?_, ?_⟩
            · rw [hmain]
              exact hends.mpr hgoes
            · rw [hattempts]
              exact (plan_nodup _ _).sublist hsub
            · rw [hattempts, hseed, List.mem_filter, decide_eq_true_iff]
            · rw [hattempts]
              exact (plan_color_first _ _).sublist hsub

/-- The contract of color cannot be written, and depth is wanted too. -/
def unwrittenContract : BootCalls where
  stream key :=
    if key = "0123:color" then
      { ends := fun step =>
          if step = .contract then { trouble := some (.other "OSError") } else {} }
    else {}

/-- Color and depth are wanted. -/
def bothWanted : Allocator :=
  ((∅ : Allocator).insert "0123:color" ⟨colorMpId, colorRtpPort, true⟩).insert "0123:depth"
    ⟨mpIdMin, portMin, true⟩

/-- The boot ends at color with the exception, and depth is not attempted. -/
theorem unwritten_contract_ends_boot : ¬ FailSoft unwrittenContract {} bothWanted := by
  intro h
  have hends := h.result
  revert hends
  decide +kernel

end CameraStack.Sensors
