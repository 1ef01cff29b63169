/-
# What the journal says of an operation

An operation signals failure in three ways: it raises, it returns a result that says so, or it
returns a result for each sensor.  The runner looks at the first only.  So the journal says
`succeeded` of a node that could not be reached, of a token that was not pushed and of a stream
that was not activated, as long as nothing was raised.

Provisioning is a chain of stages.  How it ends is decided by the first that is not passed, and
whether that one raises or reports decides what is recorded.
-/

import CameraStack.Operations.NodeOps

namespace CameraStack.Operations

open CameraStack.Bringup CameraStack.Lib CameraStack.Topology

/-! ## Stages -/

/-- How a stage of provisioning ends: it is passed, its failure is reported, or something is
raised, in the middle of provisioning or not. -/
inductive StageEnd
  | passed | reported | raised | stuck
  deriving DecidableEq, Repr

/-- A failure is reported unless marking it raises. -/
def reports (marked : Option Raised) (otherwise : StageEnd) : StageEnd :=
  if marked.isNone then .reported else otherwise

/-- A write. -/
def written? (raises : Option Raised) (otherwise : StageEnd) : StageEnd :=
  if raises.isNone then .passed else otherwise

/-- A call over SSH whose result is not looked at. -/
def answered (answer : Except Raised RunResult) (otherwise : StageEnd) : StageEnd :=
  match answer with
  | .error _ => otherwise
  | .ok _ => .passed

/-- A call over SSH whose result is looked at. -/
def answers (answer : Except Raised RunResult) (marked : Option Raised) (otherwise : StageEnd) :
    StageEnd :=
  match answer with
  | .error _ => otherwise
  | .ok r => if r.ok then .passed else reports marked otherwise

section Stages

variable (json : PythonText) (m : ProvisionMeets)

/-- The stages of the deployment. -/
def deployStages : List StageEnd :=
  [answers m.deploy m.failedMarked .stuck, written? m.readyMarked .stuck]

/-- The stages behind the document of the probe. -/
def cameraStages (info : Json) : List StageEnd :=
  match probeCamera info with
  | .error _ => [.stuck]
  | .ok none => [written? m.noCameraMarked .stuck, answered m.clean .raised, .reported]
  | .ok (some serial) =>
      (if serial.truth then written? m.serialStored .stuck else .passed) :: deployStages m

/-- The stages behind the answer of the probe. -/
def readStages (pr : RunResult) : List StageEnd :=
  match json.probeInfo pr.stdout with
  | .decodeError => [reports m.failedMarked .stuck]
  | .raised _ => [.stuck]
  | .value info => cameraStages m info

/-- The stages of the probe. -/
def probeStages : List StageEnd :=
  written? m.probingMarked .stuck ::
    match m.probe with
    | .error _ => [.stuck]
    | .ok pr => readStages json m pr

/-- The stages from the push on. -/
def pushStages : List StageEnd :=
  written? m.reachableMarked .raised :: answers m.push m.failedMarked .stuck ::
    answered m.unpack .stuck :: probeStages json m

/-- The stages of `provision`. -/
def provisionStages (found : Option NodeEntry) : List StageEnd :=
  match found with
  | none => [.raised]
  | some node =>
      (if node.agentToken.getD "" = "" then written? m.tokenStored .raised else .passed) ::
        answers m.echo m.failedMarked .raised :: pushStages json m

/-- The first stage that is not passed. -/
def firstTrouble (stages : List StageEnd) : Option StageEnd := stages.find? fun e => e ≠ .passed

end Stages

/-- How provisioning ends with its first trouble: what it returns or raises, and the state that it
has marked last. -/
def EndsWith {A : Type} : Option StageEnd → Except Raised A × List NodeEffect → Prop
  | none, (.ok _, effects) => lastState effects = some .ready
  | some .reported, (.ok _, effects) =>
      lastState effects = some .failed ∨ lastState effects = some .noCamera
  | some .raised, (.error _, effects) =>
      lastState effects = none ∨ lastState effects = some .noCamera
  | some .stuck, (.error _, effects) =>
      lastState effects = some .reachable ∨ lastState effects = some .probing
  | _, _ => False

section Ends

variable {json : PythonText} {nodeId : String} {m : ProvisionMeets} {effects : List NodeEffect}

@[simp] theorem firstTrouble_nil : firstTrouble [] = none := rfl

@[simp] theorem firstTrouble_passed (stages : List StageEnd) :
    firstTrouble (.passed :: stages) = firstTrouble stages := rfl

@[simp] theorem firstTrouble_reported (stages : List StageEnd) :
    firstTrouble (.reported :: stages) = some .reported := rfl

@[simp] theorem firstTrouble_raised (stages : List StageEnd) :
    firstTrouble (.raised :: stages) = some .raised := rfl

@[simp] theorem firstTrouble_stuck (stages : List StageEnd) :
    firstTrouble (.stuck :: stages) = some .stuck := rfl

/-- Where something may be raised: before the node is marked and when it has no camera, or in the
middle of provisioning. -/
def Stops : StageEnd → List NodeEffect → Prop
  | .raised, effects => lastState effects = none ∨ lastState effects = some .noCamera
  | .stuck, effects => lastState effects = some .reachable ∨ lastState effects = some .probing
  | .passed, _ | .reported, _ => False

section Rules

variable {otherwise : StageEnd} {stages : List StageEnd} {A : Type}

theorem Stops.endsWith (h : Stops otherwise effects) (stages : List StageEnd) (e : Raised) :
    EndsWith (firstTrouble (otherwise :: stages)) ((.error e : Except Raised A), effects) := by
  cases otherwise with
  | passed | reported => exact h.elim
  | raised | stuck => exact h

theorem Stops.fail (h : Stops otherwise effects) (stages : List StageEnd) (detail : String) :
    EndsWith (firstTrouble (reports m.failedMarked otherwise :: stages))
      (failProvision nodeId m detail () effects) := by
  rw [failProvision, Action.run_bind, reports]
  cases m.failedMarked with
  | none =>
      refine .inl ?_
      rw [lastState_append_singleton]
      rfl
  | some e => exact h.endsWith stages e

variable {next : Unit → NodeOpM A} {checked : RunResult → NodeOpM A}

theorem Stops.store (h : Stops otherwise effects) {raises : Option Raised} {effect : NodeEffect}
    (hnext : EndsWith (firstTrouble stages) (next () () (effects ++ [effect]))) :
    EndsWith (firstTrouble (written? raises otherwise :: stages))
      ((store raises effect >>= next) () effects) := by
  rw [Action.run_bind, written?]
  cases raises with
  | none => exact hnext
  | some e => exact h.endsWith stages e

theorem Stops.other (h : Stops otherwise effects) {effect : NodeEffect}
    (hother : effect.state? = none) : Stops otherwise (effects ++ [effect]) := by
  have hsame : lastState (effects ++ [effect]) = lastState effects := by
    rw [lastState_append_singleton, hother, Option.none_or]
  cases otherwise with
  | passed | reported => exact h.elim
  | raised | stuck =>
      rw [Stops, hsame]
      exact h

/-- A write that is made or not, and marks nothing. -/
theorem Stops.storeIf (h : Stops otherwise effects) {c : Prop} [Decidable c]
    {raises : Option Raised} {effect : NodeEffect} (hother : effect.state? = none)
    (hnext : ∀ effects', Stops otherwise effects' →
      EndsWith (firstTrouble stages) (next () () effects')) :
    EndsWith (firstTrouble ((if c then written? raises otherwise else .passed) :: stages))
      (((if c then Operations.store raises effect else pure ()) >>= next) () effects) := by
  split_ifs
  · exact h.store (hnext _ (h.other hother))
  · exact hnext effects h

theorem Stops.call (h : Stops otherwise effects) {answer : Except Raised RunResult}
    (hnext : ∀ r, EndsWith (firstTrouble stages) (checked r () effects)) :
    EndsWith (firstTrouble (answered answer otherwise :: stages))
      ((call answer >>= checked) () effects) := by
  rw [Action.run_bind, Operations.call]
  cases answer with
  | error e => exact h.endsWith stages e
  | ok r => exact hnext r

end Rules

/-- A command that has to succeed. -/
theorem Stops.check {otherwise : StageEnd} {stages : List StageEnd} (h : Stops otherwise effects)
    {answer : Except Raised RunResult} {detail : RunResult → String}
    {next : RunResult → NodeOpM ProvisionResult}
    (hnext : ∀ r, EndsWith (firstTrouble stages) (next r () effects)) :
    EndsWith (firstTrouble (answers answer m.failedMarked otherwise :: stages))
      ((do
        let r ← Operations.call answer
        if !r.ok then failProvision nodeId m (detail r) else next r : NodeOpM ProvisionResult)
        () effects) := by
  rw [Action.run_bind, Operations.call]
  cases answer with
  | error e => exact h.endsWith stages e
  | ok r =>
      cases hok : r.ok with
      | true =>
          simp only [answers, hok]
          exact hnext r
      | false =>
          simp only [answers, hok]
          exact h.fail stages (detail r)

theorem endsWith_deployPipe (h : Stops .stuck effects) (serial : Json) :
    EndsWith (firstTrouble (deployStages m)) (deployPipe nodeId m serial () effects) := by
  refine h.check fun _ => h.store ?_
  change lastState (effects ++ [_]) = _
  rw [lastState_append_singleton]
  rfl

theorem endsWith_camera (h : Stops .stuck effects) (info : Json) :
    EndsWith (firstTrouble (cameraStages m info))
      ((do
        match ← Operations.call (probeCamera info) with
        | none =>
            Operations.store m.noCameraMarked (.setProvisionState .noCamera none)
            let _ ← Operations.call m.clean
            pure { nodeId := nodeId, state := .noCamera, detail := "no camera found" }
        | some serial =>
            storeSerial m serial
            deployPipe nodeId m serial : NodeOpM ProvisionResult) () effects) := by
  rw [Action.run_bind, Operations.call, cameraStages]
  cases probeCamera info with
  | error e => exact h.endsWith [] e
  | ok camera =>
      cases camera with
      | none =>
          have hmarked : lastState (effects ++ [.setProvisionState .noCamera none]) =
              some .noCamera := by
            rw [lastState_append_singleton]
            rfl
          refine h.store ?_
          have hstops : Stops .raised (effects ++ [.setProvisionState .noCamera none]) :=
            .inr hmarked
          exact hstops.call fun _ => .inr hmarked
      | some serial =>
          exact h.storeIf rfl fun _ hserial => endsWith_deployPipe hserial serial

theorem endsWith_probeNode (h : Stops .stuck effects) :
    EndsWith (firstTrouble (probeStages json m)) (probeNode json nodeId m () effects) := by
  have hprobing : Stops .stuck (effects ++ [.setProvisionState .probing none]) := by
    refine .inr ?_
    rw [lastState_append_singleton]
    rfl
  refine h.store ?_
  rw [Action.run_bind, Operations.call]
  cases m.probe with
  | error e => exact hprobing.endsWith [] e
  | ok pr =>
      simp only
      rw [readStages]
      cases json.probeInfo pr.stdout with
      | decodeError => exact hprobing.fail [] _
      | raised e => exact hprobing.endsWith [] e
      | value info => exact endsWith_camera hprobing info

theorem endsWith_pushBundle (h : Stops .raised effects) :
    EndsWith (firstTrouble (pushStages json m)) (pushBundle json nodeId m () effects) := by
  have hreachable : Stops .stuck (effects ++ [.setProvisionState .reachable none]) := by
    refine .inl ?_
    rw [lastState_append_singleton]
    rfl
  exact h.store (hreachable.check fun _ => hreachable.call fun _ => endsWith_probeNode hreachable)

/-- Provisioning ends as its first trouble says. -/
theorem endsWith_provision (json : PythonText) (nodeId : String) (m : ProvisionMeets)
    (found : Option NodeEntry) :
    EndsWith (firstTrouble (provisionStages json m found))
      (provision json nodeId m found () []) := by
  have hfresh : Stops .raised [] := .inl rfl
  cases found with
  | none => exact hfresh.endsWith [] _
  | some node =>
      exact hfresh.storeIf rfl fun _ hminted => hminted.check fun _ => endsWith_pushBundle hminted

end Ends

/-! ## Work that is done -/

/-- The sensor is bound, and its activation raises. -/
def SensorMeets.Raises (m : SensorMeets) : Prop :=
  (∃ outcome, m.bind = .ok outcome) ∧ ∃ e, m.activate = .error e

/-- The sensor is bound and activated. -/
def SensorMeets.Activates (m : SensorMeets) : Prop :=
  (∃ outcome, m.bind = .ok outcome) ∧ ∃ r, m.activate = .ok r ∧ r.ok = true

/-- What a sensor leaves, if nothing is raised. -/
def SensorMeets.effects (m : SensorMeets) : List NodeEffect :=
  match m.bind with
  | .error _ => []
  | .ok outcome =>
      .bind m.sensor outcome ::
        match m.activate with
        | .error _ => []
        | .ok r => if r.ok then [.activate m.sensor] else []

/-- The work of an operation is done: the node is ready, the token was installed and kept, or every
sensor was bound and activated. -/
def Worked (done : List NodeEffect) : NodeOp → Prop
  | .provision _ => lastState done = some .ready
  | .rotateToken m => .installToken m.newToken ∈ done ∧ .setAgentToken m.newToken ∈ done
  | .activate sensors =>
      ∀ m ∈ sensors, (∃ outcome, .bind m.sensor outcome ∈ done) ∧ .activate m.sensor ∈ done

/-- The operation returns a failure: the first trouble of provisioning is reported, the token
cannot be installed, or a sensor is not activated and nothing is raised. -/
def NodeOp.ReportsFailure (json : PythonText) (found : Option NodeEntry) : NodeOp → Prop
  | .provision m => firstTrouble (provisionStages json m found) = some .reported
  | .rotateToken m => found ≠ none ∧ ∃ r, m.setToken = .ok r ∧ r.ok = false
  | .activate sensors =>
      found ≠ none ∧ (∀ m ∈ sensors, ¬ m.Raises) ∧
        ∃ m ∈ sensors, ∀ m' ∈ sensors, m'.sensor = m.sensor → ¬ m'.Activates

section Work

variable {json : PythonText} {nodeId : String} {found : Option NodeEntry}

theorem fn_provision (m : ProvisionMeets) :
    (NodeOp.provision m).ReportsFailure json found ↔
      ((NodeOp.provision m).fn json nodeId found () []).1 = .ok () ∧
        ¬ Worked ((NodeOp.provision m).fn json nodeId found () []).2 (.provision m) := by
  have hends := endsWith_provision json nodeId m found
  rw [NodeOp.ReportsFailure, Worked, NodeOp.fn, Action.run_bind_pure]
  generalize provision json nodeId m found () [] = ran at hends ⊢
  obtain ⟨result, effects⟩ := ran
  generalize firstTrouble (provisionStages json m found) = trouble at hends ⊢
  cases result with
  | error e =>
      cases trouble with
      | none => exact hends.elim
      | some trouble =>
          cases trouble with
          | passed | reported => exact hends.elim
          | raised | stuck => exact ⟨fun h => (by cases h), fun h => (by cases h.1)⟩
  | ok result =>
      cases trouble with
      | none => exact ⟨fun h => (by cases h), fun h => absurd hends h.2⟩
      | some trouble =>
          cases trouble with
          | passed | raised | stuck => exact hends.elim
          | reported =>
              refine ⟨fun _ => ⟨rfl, fun hready => ?_⟩, fun _ => rfl⟩
              rcases hends with hfailed | hnone
              · exact PState.noConfusion (Option.some.inj (hready.symm.trans hfailed))
              · exact PState.noConfusion (Option.some.inj (hready.symm.trans hnone))

theorem fn_rotateToken (m : RotateMeets) :
    (NodeOp.rotateToken m).ReportsFailure json found ↔
      ((NodeOp.rotateToken m).fn json nodeId found () []).1 = .ok () ∧
        ¬ Worked ((NodeOp.rotateToken m).fn json nodeId found () []).2 (.rotateToken m) := by
  rw [NodeOp.ReportsFailure, Worked, NodeOp.fn, Action.run_bind_pure]
  cases found with
  | none => exact ⟨fun h => absurd rfl h.1, fun h => (by cases h.1)⟩
  | some node =>
      cases hset : m.setToken with
      | error e =>
          simp only [rotateToken, Action.run_bind, command, hset]
          constructor
          · rintro ⟨-, r, h, -⟩
            cases h
          · rintro ⟨h, -⟩
            cases h
      | ok r =>
          cases hok : r.ok with
          | false =>
              simp only [rotateToken, Action.run_bind, command, hset, hok]
              refine ⟨fun _ => ⟨rfl, fun h => ?_⟩, fun _ => ⟨Option.some_ne_none _, r, rfl, hok⟩⟩
              exact absurd h.1 List.not_mem_nil
          | true =>
              simp only [rotateToken, Action.run_bind, command, hset, hok]
              have hsucceeds : ¬ ∃ r', (Except.ok r : Except Raised RunResult) = .ok r' ∧
                  r'.ok = false := by
                rintro ⟨r', h, hfalse⟩
                cases h
                rw [hok] at hfalse
                cases hfalse
              refine ⟨fun h => absurd h.2 hsucceeds, fun h => ?_⟩
              cases hstored : m.tokenStored with
              | some e =>
                  rw [hstored] at h
                  cases h.1
              | none => simp [Action.run_bind, store, hstored] at h

/-- Without anything raised, a sensor leaves its effects. -/
theorem activateSensor_eq {m : SensorMeets} (h : ¬ m.Raises) (effects : List NodeEffect) :
    ∃ result, activateSensor m () effects = (.ok result, effects ++ m.effects) := by
  rw [activateSensor, SensorMeets.effects]
  cases hbind : m.bind with
  | error e => exact ⟨_, by rw [List.append_nil]; rfl⟩
  | ok outcome =>
      cases hactivate : m.activate with
      | error e => exact absurd ⟨⟨outcome, hbind⟩, e, hactivate⟩ h
      | ok r =>
          simp only [Action.run_bind, store, command]
          cases r.ok with
          | true => exact ⟨_, by simp only [if_true, List.append_assoc]; rfl⟩
          | false => exact ⟨_, rfl⟩

theorem activateSensor_raises {m : SensorMeets} (h : m.Raises) (effects : List NodeEffect) :
    ∃ e effects', activateSensor m () effects = (.error e, effects') := by
  obtain ⟨⟨outcome, hbind⟩, e, hactivate⟩ := h
  rw [activateSensor]
  simp only [hbind, hactivate, Action.run_bind, store, command]
  exact ⟨_, _, rfl⟩

theorem activateEach_eq {sensors : List SensorMeets} (h : ∀ m ∈ sensors, ¬ m.Raises)
    (effects : List NodeEffect) :
    ∃ results, activateEach sensors () effects =
      (.ok results, effects ++ sensors.flatMap SensorMeets.effects) := by
  induction sensors generalizing effects with
  | nil => exact ⟨[], by rw [List.flatMap_nil, List.append_nil]; rfl⟩
  | cons m rest ih =>
      obtain ⟨result, hfirst⟩ := activateSensor_eq (h m List.mem_cons_self) effects
      obtain ⟨results, hran⟩ := ih (fun m' hm' => h m' (List.mem_cons_of_mem m hm'))
        (effects ++ m.effects)
      rw [List.flatMap_cons, ← List.append_assoc]
      exact ⟨_, (Action.run_bind_ok hfirst).trans (Action.run_bind_ok hran)⟩

/-- The first activation that raises ends the loop. -/
theorem activateEach_raises {sensors : List SensorMeets} (h : ∃ m ∈ sensors, m.Raises)
    (effects : List NodeEffect) :
    ∃ e effects', activateEach sensors () effects = (.error e, effects') := by
  induction sensors generalizing effects with
  | nil => simp at h
  | cons m rest ih =>
      rw [activateEach]
      by_cases hraises : m.Raises
      · obtain ⟨e, effects', hfirst⟩ := activateSensor_raises hraises effects
        exact ⟨e, effects', Action.run_bind_error hfirst⟩
      · obtain ⟨m', hm', hraises'⟩ := h
        have hrest : m' ∈ rest := by
          rcases List.mem_cons.mp hm' with rfl | hrest
          · exact absurd hraises' hraises
          · exact hrest
        obtain ⟨result, hfirst⟩ := activateSensor_eq hraises effects
        obtain ⟨e, effects', hran⟩ := ih ⟨m', hrest, hraises'⟩ (effects ++ m.effects)
        exact ⟨e, effects', (Action.run_bind_ok hfirst).trans (Action.run_bind_error hran)⟩

/-- Nothing but an activation activates a sensor, and it binds the sensor first. -/
theorem mem_effects {sensors : List SensorMeets} (sensor : String) :
    ((∃ outcome, .bind sensor outcome ∈ sensors.flatMap SensorMeets.effects) ∧
        .activate sensor ∈ sensors.flatMap SensorMeets.effects) ↔
      ∃ m ∈ sensors, m.sensor = sensor ∧ m.Activates := by
  have heffects : ∀ m : SensorMeets, .activate sensor ∈ m.effects ↔
      m.sensor = sensor ∧ m.Activates := by
    intro m
    rw [SensorMeets.effects, SensorMeets.Activates]
    cases hbind : m.bind with
    | error e => simp
    | ok outcome =>
        cases hactivate : m.activate with
        | error e => simp
        | ok r =>
            cases hok : r.ok with
            | true =>
                have hlast : NodeEffect.activate sensor ∈
                    [.bind m.sensor outcome, .activate m.sensor] ↔ m.sensor = sensor := by
                  simp [@eq_comm _ sensor]
                simpa [hok] using hlast
            | false => simp [hok]
  constructor
  · rintro ⟨-, hactivate⟩
    obtain ⟨m, hm, hmem⟩ := List.mem_flatMap.mp hactivate
    exact ⟨m, hm, (heffects m).mp hmem⟩
  · rintro ⟨m, hm, hsensor, hactivates⟩
    have hactivate := (heffects m).mpr ⟨hsensor, hactivates⟩
    obtain ⟨⟨outcome, hbind⟩, -⟩ := hactivates
    have hbound : .bind sensor outcome ∈ m.effects := by
      rw [SensorMeets.effects, hbind, hsensor]
      exact List.mem_cons_self
    exact ⟨⟨outcome, List.mem_flatMap.mpr ⟨m, hm, hbound⟩⟩, List.mem_flatMap.mpr ⟨m, hm, hactivate⟩⟩

theorem fn_activate (sensors : List SensorMeets) :
    (NodeOp.activate sensors).ReportsFailure json found ↔
      ((NodeOp.activate sensors).fn json nodeId found () []).1 = .ok () ∧
        ¬ Worked ((NodeOp.activate sensors).fn json nodeId found () []).2 (.activate sensors) := by
  rw [NodeOp.ReportsFailure, Worked, NodeOp.fn, activateRemote, Action.run_bind_pure]
  cases found with
  | none => exact ⟨fun h => absurd rfl h.1, fun h => (by cases h.1)⟩
  | some node =>
      by_cases hraises : ∃ m ∈ sensors, m.Raises
      · obtain ⟨e, effects, hran⟩ := activateEach_raises hraises []
        obtain ⟨m, hm, hmraises⟩ := hraises
        rw [activateStreams, hran]
        exact ⟨fun h => absurd hmraises (h.2.1 m hm), fun h => (by cases h.1)⟩
      · have hquiet : ∀ m ∈ sensors, ¬ m.Raises := fun m hm h => hraises ⟨m, hm, h⟩
        obtain ⟨results, hran⟩ := activateEach_eq hquiet []
        rw [activateStreams, hran, List.nil_append]
        constructor
        · rintro ⟨-, -, m, hm, hnone⟩
          refine ⟨rfl, fun hworked => ?_⟩
          obtain ⟨m', hm', hsensor, hactivates⟩ := (mem_effects m.sensor).mp (hworked m hm)
          exact hnone m' hm' hsensor hactivates
        · rintro ⟨-, hfailed⟩
          refine ⟨Option.some_ne_none _, hquiet, ?_⟩
          by_contra hall
          refine hfailed fun m hm => (mem_effects m.sensor).mpr ?_
          by_contra hnone
          exact hall ⟨m, hm, fun m' hm' hsensor hactivates => hnone ⟨m', hm', hsensor, hactivates⟩⟩

/-- An operation reports a failure if and only if it returns without its work done. -/
theorem fn_reports (op : NodeOp) :
    op.ReportsFailure json found ↔ (op.fn json nodeId found () []).1 = .ok () ∧
      ¬ Worked (op.fn json nodeId found () []).2 op := by
  cases op with
  | provision m => exact fn_provision m
  | rotateToken m => exact fn_rotateToken m
  | activate sensors => exact fn_activate sensors

end Work

/-! ## Records -/

theorem freshId_injective {m n : ℕ} (h : freshId m = freshId n) : m = n := by
  have hlength := congrArg (fun id : String => id.toList.length) h
  simpa [freshId] using hlength

namespace History

variable {ops : History} {operationId status lastError : String} {now : ℤ}

theorem get_finish :
    (ops.finish operationId status lastError now).get operationId =
      (ops.get operationId).map (Operation.finished status lastError now) := by
  rw [get, get]
  induction ops with
  | nil => rfl
  | cons op ops ih =>
      rw [finish]
      by_cases hid : op.operationId = operationId
      · simp [hid, Operation.finished]
      · simp [hid, ih]

theorem ids_finish :
    (ops.finish operationId status lastError now).map Operation.operationId =
      ops.map Operation.operationId := by
  induction ops with
  | nil => rfl
  | cons op ops ih =>
      rw [finish]
      split
      · rfl
      · rw [List.map_cons, List.map_cons, ih]

theorem ids_record (op : Operation) (ops : History) :
    ((ops.record op).map Operation.operationId).Sublist
      (ops.map Operation.operationId ++ [op.operationId]) := by
  have hmap := (capped_record op ops).order.map Operation.operationId
  rwa [List.map_append] at hmap

theorem get_of_guards {op : LiveOp} (h : ops.Guards op) : ∃ r, ops.get op.operationId = some r := by
  obtain ⟨r, hr, hid, -⟩ := h
  have hsome : (ops.get op.operationId).isSome = true := by
    rw [get, List.find?_isSome]
    exact ⟨r, hr, decide_eq_true hid⟩
  exact Option.isSome_iff_exists.mp hsome

end History

/-! ## Runs -/

namespace NodeGateway

variable (json : PythonText)

/-- Every operation under way is on its way through what it will do, has a record that is running,
and runs in a process that serves; ids are not given out twice. -/
structure Sound (s : NodeGateway) : Prop where
  ran : ∀ r ∈ s.live, r.op.fn json r.nodeId r.found () [] = (r.result, r.done ++ r.rest)
  guarded : ∀ r ∈ s.live, s.journal.Guards r.toLiveOp
  distinct : (s.live.map fun r => r.operationId).Nodup
  serving : (∀ r ∈ s.live, s.phase = .up)
  ids : (s.journal.map Operation.operationId).Nodup
  issued : ∀ op ∈ s.journal, ∃ k < s.ids, op.operationId = freshId k

theorem sound_initial : Sound json {} where
  ran := fun _ hr => absurd hr List.not_mem_nil
  guarded := fun _ hr => absurd hr List.not_mem_nil
  distinct := List.nodup_nil
  serving := fun _ hr => absurd hr List.not_mem_nil
  ids := List.nodup_nil
  issued := fun _ hr => absurd hr List.not_mem_nil

variable {json} {s : NodeGateway}

theorem mem_of_running {operationId : String} {r : NodeRun}
    (hrunning : s.running operationId = some r) : r ∈ s.live ∧ r.operationId = operationId := by
  rw [NodeGateway.running] at hrunning
  exact ⟨List.mem_of_find?_eq_some hrunning, by simpa using List.find?_some hrunning⟩

/-- A record ends: the operations with other ids keep theirs. -/
theorem Sound.finish (h : s.Sound json) {operationId : String} (status lastError : String) (now : ℤ)
    {live : List NodeRun} (hlive : live.Sublist s.live)
    (hended : ∀ r ∈ live, r.operationId ≠ operationId) (phase : Phase)
    (hphase : ∀ r ∈ live, phase = .up) :
    Sound json { s with
      journal := s.journal.finish operationId status lastError now, live := live
      phase := phase } where
  ran := fun r hr => h.ran r (hlive.subset hr)
  guarded := fun r hr => (h.guarded r (hlive.subset hr)).finish (hended r hr) _ _ _
  distinct := h.distinct.sublist (hlive.map _)
  serving := hphase
  ids := by
    simp only
    rw [History.ids_finish]
    exact h.ids
  issued := by
    intro op hop
    have hid : op.operationId ∈ s.journal.map Operation.operationId := by
      rw [← @History.ids_finish s.journal operationId status lastError now]
      exact List.mem_map_of_mem hop
    obtain ⟨op', hop', hsame⟩ := List.mem_map.mp hid
    rw [← hsame]
    exact h.issued op' hop'

theorem Sound.run (h : s.Sound json) (nodeId : String) (op : NodeOp) (now : ℤ) :
    (s.run json nodeId op now).Sound json := by
  rw [NodeGateway.run]
  split
  · rename_i hup
    split_ifs
    · exact h
    · have hlater : ∀ op ∈ s.journal, ∃ k < s.ids + 1, op.operationId = freshId k := by
        intro op hop
        obtain ⟨k, hk, hid⟩ := h.issued op hop
        exact ⟨k, hk.trans (Nat.lt_succ_self _), hid⟩
      split
      · exact ⟨h.ran, h.guarded, h.distinct, h.serving, h.ids, hlater⟩
      · rename_i journal hbegin
        obtain ⟨-, rfl⟩ := History.begin_eq_ok.mp hbegin
        have hids := History.ids_record (.started nodeId op.opType (freshId s.ids) now) s.journal
        have hfresh : freshId s.ids ∉ s.journal.map Operation.operationId := by
          intro hmem
          obtain ⟨op', hop', hid⟩ := List.mem_map.mp hmem
          obtain ⟨k, hk, hissued⟩ := h.issued op' hop'
          exact absurd (freshId_injective (hissued.symm.trans hid)) (Nat.ne_of_lt hk)
        refine ⟨?_, ?_, ?_, fun _ _ => hup, ?_, ?_⟩
        · intro r hr
          rcases List.mem_append.mp hr with hold | hnew
          · exact h.ran r hold
          · rw [List.mem_singleton.mp hnew]
            rfl
        · intro r hr
          rcases List.mem_append.mp hr with hold | hnew
          · exact (h.guarded r hold).record _
          · rw [List.mem_singleton.mp hnew]
            exact History.guards_started s.journal nodeId op.opType _ now
        · rw [List.map_append, List.map_singleton]
          refine List.Nodup.append h.distinct (List.nodup_singleton _) fun id hold hnew => hfresh ?_
          rw [List.mem_singleton.mp hnew] at hold
          obtain ⟨r, hr, hid⟩ := List.mem_map.mp hold
          obtain ⟨op', hop', hop'id, -⟩ := h.guarded r hr
          exact List.mem_map.mpr ⟨op', hop', hop'id.trans hid⟩
        · refine List.Nodup.sublist hids (List.Nodup.append h.ids (List.nodup_singleton _) ?_)
          intro id hold hnew
          rw [List.mem_singleton.mp hnew] at hold
          exact hfresh hold
        · intro op' hop'
          have hid := hids.subset (List.mem_map_of_mem hop')
          rcases List.mem_append.mp hid with hold | hnew
          · obtain ⟨old, hmem, hsame⟩ := List.mem_map.mp hold
            rw [← hsame]
            exact hlater old hmem
          · exact ⟨s.ids, Nat.lt_succ_self _, List.mem_singleton.mp hnew⟩
  · exact h

/-- An operation that goes on keeps the others as they are. -/
theorem Sound.advance (h : s.Sound json) (operationId : String) (now : ℤ) :
    (s.advance operationId now).Sound json := by
  rw [NodeGateway.advance]
  split
  · exact h
  · rename_i r hrunning
    obtain ⟨hr, hid⟩ := mem_of_running hrunning
    split
    · rename_i e rest hrest
      -- The ids are distinct, so only this operation advances.
      have honly : ∀ r' ∈ s.live, r'.operationId = operationId → r' = r := fun r' hr' hid' =>
        List.inj_on_of_nodup_map h.distinct hr' hr (hid'.trans hid.symm)
      have hids : ∀ r' : NodeRun, (if r'.operationId = operationId then
          NodeRun.advanced e rest r' else r').toLiveOp = r'.toLiveOp := by
        intro r'
        split_ifs
        · rfl
        · rfl
      refine ⟨?_, ?_, ?_, ?_, h.ids, h.issued⟩
      · intro r' hr'
        obtain ⟨old, hold, rfl⟩ := List.mem_map.mp hr'
        split_ifs with hsame
        · have hran := h.ran r hr
          rw [hrest] at hran
          rw [honly old hold hsame]
          simp only [NodeRun.advanced, List.append_assoc, List.singleton_append]
          exact hran
        · exact h.ran old hold
      · intro r' hr'
        obtain ⟨old, hold, rfl⟩ := List.mem_map.mp hr'
        rw [hids old]
        exact h.guarded old hold
      · have hsame : (s.live.map fun r' => if r'.operationId = operationId then
            NodeRun.advanced e rest r' else r').map (fun r => r.operationId) =
            s.live.map fun r => r.operationId := by
          rw [List.map_map]
          exact List.map_congr_left fun r' _ => congrArg LiveOp.operationId (hids r')
        rw [hsame]
        exact h.distinct
      · intro r' hr'
        obtain ⟨old, hold, -⟩ := List.mem_map.mp hr'
        exact h.serving old hold
    · refine h.finish _ _ now List.filter_sublist (fun r' hr' => ?_) s.phase fun r' hr' => ?_
      · exact of_decide_eq_true (List.mem_filter.mp hr').2
      · exact h.serving r' (List.mem_filter.mp hr').1

/-- A process that does not serve has no operations. -/
theorem Sound.live_eq_nil (h : s.Sound json) (hphase : s.phase ≠ .up) : s.live = [] :=
  List.eq_nil_iff_forall_not_mem.mpr fun r hr => hphase (h.serving r hr)

/-- The stores do not matter. -/
theorem Sound.setStores (h : s.Sound json) (stores : Stores) :
    Sound json { s with stores := stores } :=
  ⟨h.ran, h.guarded, h.distinct, h.serving, h.ids, h.issued⟩

theorem Sound.setPhase (h : s.Sound json) (hlive : s.live = []) (phase : Phase) :
    Sound json { s with phase := phase } where
  ran := h.ran
  guarded := h.guarded
  distinct := h.distinct
  serving := fun r hr => by
    rw [hlive] at hr
    cases hr
  ids := h.ids
  issued := h.issued

theorem unstick_eq (op : Operation) (s : NodeGateway) :
    ∃ stores, s.unstick op = { s with stores := stores } := by
  rw [unstick]
  split
  · exact ⟨s.stores, rfl⟩
  · split_ifs
    · exact ⟨_, rfl⟩
    · exact ⟨s.stores, rfl⟩

theorem Sound.reap (h : s.Sound json) (now : ℤ) : (s.reap now).Sound json := by
  rw [NodeGateway.reap]
  split
  · rename_i rest op hphase
    obtain ⟨stores, hunstuck⟩ := unstick_eq op s
    rw [hunstuck]
    have hlive : s.live = [] := h.live_eq_nil (by rw [hphase]; exact Phase.noConfusion)
    exact (h.setStores stores).setPhase hlive _
  · rename_i op rest hphase
    have hlive : s.live = [] := h.live_eq_nil (by rw [hphase]; exact Phase.noConfusion)
    have hnone : ∀ r ∈ s.live, False := fun r hr => by
      rw [hlive] at hr
      cases hr
    exact h.finish _ _ now (List.Sublist.refl _) (fun r hr => (hnone r hr).elim) _
      fun r hr => (hnone r hr).elim
  · rename_i hphase
    exact h.setPhase (h.live_eq_nil (by rw [hphase]; exact Phase.noConfusion)) _
  · exact h
  · exact h

theorem Sound.crash (h : s.Sound json) : s.crash.Sound json where
  ran := fun _ hr => absurd hr List.not_mem_nil
  guarded := fun _ hr => absurd hr List.not_mem_nil
  distinct := List.nodup_nil
  serving := fun _ hr => absurd hr List.not_mem_nil
  ids := h.ids
  issued := h.issued

theorem Sound.restart (h : s.Sound json) : s.restart.Sound json := by
  rw [NodeGateway.restart]
  split
  · rename_i hphase
    exact h.setPhase (h.live_eq_nil (by rw [hphase]; exact Phase.noConfusion)) _
  · exact h

theorem Sound.next {lan : LanConfig} (h : s.Sound json) (e : NodeOpEvent) :
    ((nodeOpMachine lan json).next s e).Sound json := by
  cases e with
  | register op =>
      change (s.register lan op).Sound json
      rw [NodeGateway.register]
      split
      · split_ifs
        · exact h.setStores _
        · exact h
      · exact h
  | run nodeId op now => exact h.run nodeId op now
  | advance operationId now => exact h.advance operationId now
  | crash => exact h.crash
  | restart => exact h.restart
  | reap now => exact h.reap now

/-- What the journal has of an operation that has come to its end: it says `succeeded` only if the
work is done, and `failed` if it is not. -/
def Truthful (lan : LanConfig) (json : PythonText) (s : NodeGateway) : NodeOpEvent → Prop
  | .advance operationId now =>
      ∀ r, s.running operationId = some r → r.rest = [] →
        ∃ op, ((nodeOpMachine lan json).next s (.advance operationId now)).journal.get operationId =
            some op ∧
          (op.status = .ended "succeeded" → Worked r.done r.op) ∧
          (¬ Worked r.done r.op → op.status = .ended "failed")
  | _ => True

/-- An operation that comes to its end has not returned a failure. -/
def FailsByRaising (json : PythonText) (s : NodeGateway) : NodeOpEvent → Prop
  | .advance operationId _ =>
      ∀ r, s.running operationId = some r → r.rest = [] → ¬ r.op.ReportsFailure json r.found
  | _ => True

/-- What is recorded of an operation is what its function ended with. -/
theorem Sound.recorded (h : s.Sound json) {operationId : String} {r : NodeRun}
    (hrunning : s.running operationId = some r) (hrest : r.rest = []) (now : ℤ) :
    ∃ op, (s.advance operationId now).journal.get operationId = some op ∧
      op.status = .ended (recordedStatus r.result).1 := by
  obtain ⟨hr, hid⟩ := mem_of_running hrunning
  obtain ⟨op, hget⟩ := History.get_of_guards (h.guarded r hr)
  rw [hid] at hget
  rw [NodeGateway.advance, hrunning]
  simp only [hrest]
  rw [History.get_finish, hget]
  exact ⟨_, rfl, rfl⟩

theorem Sound.truthful_iff {lan : LanConfig} (h : s.Sound json) (e : NodeOpEvent) :
    Truthful lan json s e ↔ FailsByRaising json s e := by
  cases e with
  | register | run | crash | restart | reap => exact Iff.rfl
  | advance operationId now =>
      refine forall_congr' fun r => forall_congr' fun hrunning => forall_congr' fun hrest => ?_
      obtain ⟨op, hget, hstatus⟩ := h.recorded hrunning hrest now
      have hran := h.ran r (mem_of_running hrunning).1
      rw [hrest, List.append_nil] at hran
      have hreports := @fn_reports json r.nodeId r.found r.op
      rw [hran] at hreports
      rw [hreports]
      constructor
      · rintro ⟨op', hget', hsucceeded, -⟩ ⟨hok, hundone⟩
        have hsame : op = op' := Option.some.inj (hget.symm.trans hget')
        subst hsame
        simp only at hok
        rw [hok] at hstatus
        exact hundone (hsucceeded hstatus)
      · intro hraises
        refine ⟨op, hget, fun hsucceeded => ?_, fun hundone => ?_⟩
        · by_contra hundone
          refine hraises ⟨?_, hundone⟩
          cases hresult : r.result with
          | ok => rfl
          | error e =>
              rw [hresult] at hstatus
              have habsurd := hsucceeded.symm.trans hstatus
              simp [recordedStatus] at habsurd
        · cases hresult : r.result with
          | ok => exact absurd ⟨hresult, hundone⟩ hraises
          | error e =>
              rw [hresult] at hstatus
              exact hstatus

/-- In every run, the journal tells the truth of each operation that ends if and only if none of
them returns a failure instead of raising it. -/
theorem outcomes_truthful_iff (lan : LanConfig) (json : PythonText) (events : List NodeOpEvent) :
    (nodeOpMachine lan json).Along (Truthful lan json) {} events ↔
      (nodeOpMachine lan json).Along (FailsByRaising json) {} events :=
  have hnext : ∀ s e, Sound json s → Sound json ((nodeOpMachine lan json).next s e) :=
    fun _ e h => h.next e
  (nodeOpMachine lan json).along_congr hnext (fun _ e h => h.truthful_iff e) (sound_initial json)
    events

/-- A node is registered. -/
def registerCamera : NodeOpEvent :=
  .register (.upsertNode "node-1" "192.168.1.20" "camera_node" "unknown" none none "token-1")

/-- The node refuses the new token, nothing is stored, and the journal says `succeeded`. -/
theorem refused_token_succeeds :
    ¬ ∀ (lan : LanConfig) (json : PythonText) (events : List NodeOpEvent),
      (nodeOpMachine lan json).Along (Truthful lan json) {} events := by
  intro h
  have hrun := h {} { loads := fun _ => .decodeError, repr := id }
    ([registerCamera,
      .run "node-1" (.rotateToken { newToken := "token-2", setToken := .ok { rc := 1 } }) 0] ++
      [.advance (freshId 0) 1])
  have hlast := ((Machine.along_append _ _ _ _).mp hrun).2.1
  obtain ⟨op, hget, hsucceeded, -⟩ := hlast _ rfl rfl
  cases hget
  exact absurd (hsucceeded rfl).1 List.not_mem_nil

end NodeGateway

end CameraStack.Operations
