/-
# A stop that survives reboots

What the boot reconcile starts is what the allocations call wanted.  A stop takes back what is
wanted under its own serial.  Streams of the sensor that another serial wants stay wanted, and an
allocation file without entries is taken for a first boot, on which color is wanted.
-/

import CameraStack.Lib.Machine
import CameraStack.Sensors.Lifecycle

namespace CameraStack.Sensors

open CameraStack.Lib CameraStack.Topology

/-! ## Keys and their sensors -/

/-- The sensor of a key. -/
def sensorOf (key : String) : Option String := (parseKey key).map Prod.snd

theorem not_mem_of_sensorMeta {sensor : String} {info : SensorMeta}
    (h : sensorMeta sensor = some info) : ':' ∉ sensor.toList := by
  unfold sensorMeta at h
  split at h
  · decide
  · decide
  · decide
  · decide
  · cases h

theorem allocKey_toList (serial sensor : String) :
    (allocKey serial sensor).toList = serial.toList ++ ':' :: sensor.toList := by
  rw [allocKey, String.toList_append, String.toList_append, List.append_assoc]
  rfl

/-- A sensor that a key is read for is the one that it was made for. -/
theorem sensorOf_allocKey {serial sensor known : String} {info : SensorMeta}
    (hknown : sensorMeta known = some info) (h : sensorOf (allocKey serial sensor) = some known) :
    known = sensor := by
  obtain ⟨⟨first, second⟩, hparse, rfl⟩ := Option.map_eq_some_iff.mp h
  obtain ⟨⟨before, rest⟩, hcut, heq⟩ := Option.map_eq_some_iff.mp hparse
  cases heq
  have hcolon : ':' ∉ rest := by
    have := not_mem_of_sensorMeta hknown
    rwa [String.toList_ofList] at this
  have hfirst := not_mem_of_cutAt hcut
  have hsplit := cutAt_eq_some hcut
  rw [allocKey_toList, List.append_assoc] at hsplit
  rcases List.append_eq_append_iff.mp hsplit with ⟨more, rfl, hrest⟩ | ⟨more, hserial, hrest⟩
  · cases more with
    | nil =>
        rw [← String.ofList_toList (s := sensor)]
        exact congrArg String.ofList (List.cons.inj hrest).2.symm
    | cons c more =>
        obtain ⟨rfl, -⟩ := List.cons.inj hrest
        exact absurd (List.mem_append_right _ List.mem_cons_self) hfirst
  · cases more with
    | nil =>
        rw [← String.ofList_toList (s := sensor)]
        exact congrArg String.ofList (List.cons.inj hrest).2
    | cons c more =>
        obtain ⟨rfl, rfl⟩ := List.cons.inj hrest
        exact absurd (List.mem_append_right _ List.mem_cons_self) hcolon

/-! ## Allocations that do not want a sensor -/

/-- No allocation of the sensor is wanted. -/
def Calm (sensor : String) (m : Allocator) : Prop :=
  ∀ (key : String) (a : Allocation), m[key]? = some a → sensorOf key = some sensor →
    a.desiredActive = false

namespace Calm

variable {sensor : String} {info : SensorMeta} {m m' : Allocator} {serial target : String}

theorem insert (h : Calm sensor m) {key : String} {a : Allocation}
    (ha : sensorOf key = some sensor → a.desiredActive = false) : Calm sensor (m.insert key a) := by
  intro k b hb hk
  rw [Dict.getElem?_insert] at hb
  split_ifs at hb with hsame
  · cases hb
    exact ha (hsame ▸ hk)
  · exact h k b hb hk

theorem erase (h : Calm sensor m) (key : String) : Calm sensor (m.erase key) := by
  intro k b hb hk
  rw [Dict.getElem?_erase] at hb
  split_ifs at hb
  exact h k b hb hk

/-- The color row that is moved keeps its flag. -/
theorem migrateColorKey (hknown : sensorMeta sensor = some info) (h : Calm sensor m)
    (serial : String) : Calm sensor (m.migrateColorKey serial).2 := by
  rw [Allocator.migrateColorKey]
  split_ifs
  · exact h
  · split
    · next a hlocal _ =>
      refine (h.erase _).insert fun hkey => ?_
      have hcolor : sensor = "color" := sensorOf_allocKey hknown hkey
      refine h _ a hlocal ?_
      rw [hcolor]
      decide +kernel
    · exact h

theorem allocate (h : Calm sensor m) {a : Allocation}
    (hresult : m.allocate serial target = .ok (a, m')) : Calm sensor m' := by
  rw [Allocator.allocate] at hresult
  split at hresult
  · cases hresult
    exact h
  · split at hresult
    · cases hresult
    · cases hresult
      exact h.insert fun _ => rfl

theorem ensure (h : Calm sensor m) {mpId rtpPort : ℤ} {a : Allocation}
    (hresult : m.ensure serial target mpId rtpPort = .ok (a, m')) : Calm sensor m' := by
  rw [Allocator.ensure] at hresult
  split at hresult
  · cases hresult
    exact h
  · split at hresult
    · cases hresult
    · cases hresult
      exact h.insert fun _ => rfl

/-- A flag that is set wants its own sensor only. -/
theorem setDesired (hknown : sensorMeta sensor = some info) (h : Calm sensor m) {active : Bool}
    (hactive : active = true → sensor ≠ target) {a : Allocation}
    (hresult : m.setDesired serial target active = .ok (a, m')) : Calm sensor m' := by
  rw [Allocator.setDesired] at hresult
  split at hresult
  · cases hresult
  · cases hresult
    refine h.insert fun hkey => ?_
    cases active with
    | false => rfl
    | true => exact absurd (sensorOf_allocKey hknown hkey) (hactive rfl)

end Calm

/-! ## What the calls preserve -/

/-- No allocation of the sensor is wanted, and its unit was not started. -/
def Quiet (sensor : String) (s : Pipelines) : Prop := Calm sensor s.alloc ∧ sensor ∉ s.started

section Preserved

variable {sensor : String} {info : SensorMeta} {e : SensorEnv} {serial target : String}

theorem preserves_perform (step : SensorStep) :
    Action.Preserves e (Quiet sensor) (perform step) := by
  intro s h
  rw [perform]
  split
  · exact h
  · exact h

theorem preserves_store {A : Type} (step : SensorStep)
    {op : Allocator → Except AllocatorError (A × Allocator)}
    (hop : ∀ m a m', Calm sensor m → op m = .ok (a, m') → Calm sensor m') :
    Action.Preserves e (Quiet sensor) (store step op) := by
  intro s h
  rw [store]
  split
  · exact h
  · next hresult => exact ⟨hop _ _ _ h.1 hresult, h.2⟩
  · exact h
  · next hresult =>
    split_ifs
    · exact ⟨hop _ _ _ h.1 hresult, h.2⟩
    · exact h

theorem preserves_migrate (hknown : sensorMeta sensor = some info) (serial : String) :
    Action.Preserves e (Quiet sensor)
      (store .migrate fun m => .ok (m.migrateColorKey serial)) := by
  refine preserves_store .migrate fun m a m' h hresult => ?_
  have hmoved := h.migrateColorKey hknown serial
  rw [Except.ok.inj hresult] at hmoved
  exact hmoved

theorem preserves_intent (hknown : sensorMeta sensor = some info) {active : Bool}
    (hactive : active = true → sensor ≠ target) :
    Action.Preserves e (Quiet sensor) (store .intent (Allocator.setDesired serial target active)) :=
  preserves_store .intent fun _ _ _ h hresult => h.setDesired hknown hactive hresult

theorem preserves_startUnit (hother : sensor ≠ target) :
    Action.Preserves e (Quiet sensor) (startUnit target) := by
  refine Action.Preserves.bind (.modify fun s h => ⟨h.1, ?_⟩) fun _ => preserves_perform .start
  intro hmem
  rcases List.mem_append.mp hmem with hold | hnew
  · exact h.2 hold
  · exact hother (List.mem_singleton.mp hnew)

theorem preserves_checkRunning (message : String) :
    Action.Preserves e (Quiet sensor) (checkRunning message) := by
  intro s h
  rw [checkRunning]
  split_ifs
  · exact h
  · exact h

theorem preserves_createMountpoint : Action.Preserves e (Quiet sensor) createMountpoint := by
  intro s h
  rw [createMountpoint]
  split
  · exact preserves_perform .mountpoint s h
  · split_ifs
    · exact h
    · exact h

theorem preserves_initializeColor (hknown : sensorMeta sensor = some info)
    (hother : sensor ≠ "color") :
    Action.Preserves e (Quiet sensor) (initializeColor serial) := by
  refine (preserves_migrate hknown serial).bind fun _ => ?_
  refine (preserves_store .register fun _ _ _ h hresult => h.ensure hresult).bind fun _ => ?_
  refine (preserves_perform .tuning).bind fun _ => (preserves_perform .contract).bind fun _ => ?_
  refine (preserves_intent hknown fun _ => hother).bind fun _ => ?_
  refine (preserves_perform .mux).bind fun _ => (preserves_startUnit hother).bind fun _ => ?_
  exact (preserves_checkRunning _).bind fun _ => .pure _

theorem preserves_initializeDynamic (hknown : sensorMeta sensor = some info)
    (hother : sensor ≠ target) :
    Action.Preserves e (Quiet sensor) (initializeDynamic serial target) := by
  refine (preserves_store .register fun _ _ _ h hresult => h.allocate hresult).bind fun _ => ?_
  refine (preserves_perform .mux).bind fun _ => (preserves_perform .tuning).bind fun _ => ?_
  refine (preserves_perform .contract).bind fun _ => preserves_createMountpoint.bind fun _ => ?_
  refine (preserves_startUnit hother).bind fun _ => (preserves_checkRunning _).bind fun _ => ?_
  refine (preserves_perform .settle).bind fun _ => ?_
  exact (preserves_intent hknown fun _ => hother).bind fun _ => .pure _

/-- Bringing a sensor up leaves the others quiet. -/
theorem preserves_initializeSensor (hknown : sensorMeta sensor = some info)
    (hother : sensor ≠ target) :
    Action.Preserves e (Quiet sensor) (initializeSensor serial target) := by
  rw [initializeSensor]
  split
  · exact .halt _
  · refine (preserves_perform .lock).bind fun _ => ?_
    split_ifs with hcolor
    · exact preserves_initializeColor hknown (hcolor ▸ hother)
    · exact preserves_initializeDynamic hknown hother

theorem preserves_clearIntent (hknown : sensorMeta sensor = some info) :
    Action.Preserves e (Quiet sensor) (clearIntent serial target) := by
  have hintent := @preserves_intent sensor info e serial target hknown false
    fun hfalse => absurd hfalse Bool.false_ne_true
  refine Action.Preserves.catching (hintent.bind fun _ => .pure _) ?_
  intro x
  split
  · exact .pure _
  · exact .halt _

theorem preserves_destroyMountpoint :
    Action.Preserves e (Quiet sensor) (destroyMountpoint serial target) := by
  intro s h
  rw [destroyMountpoint]
  split
  · exact h
  · split
    · exact h
    · exact preserves_perform .destroy s h

/-- Stopping any sensor leaves every sensor quiet that is. -/
theorem preserves_stopSensor (hknown : sensorMeta sensor = some info) :
    Action.Preserves e (Quiet sensor) (stopSensor serial target) := by
  rw [stopSensor]
  split
  · exact .halt _
  · refine (preserves_perform .lock).bind fun _ => ?_
    split_ifs
    · refine (preserves_migrate hknown serial).bind fun _ => ?_
      refine (preserves_clearIntent hknown).bind fun _ => ?_
      exact (preserves_perform .stopUnit).bind fun _ => .pure _
    · refine (preserves_clearIntent hknown).bind fun _ => ?_
      refine (preserves_perform .stopUnit).bind fun _ => ?_
      exact preserves_destroyMountpoint.bind fun _ => .pure _

theorem preserves_seed (hknown : sensorMeta sensor = some info) (hother : sensor ≠ "color")
    (listed : Bool) : Action.Preserves e (Quiet sensor) (seedIfEmpty listed) := by
  refine Action.Preserves.get.bind fun s => ?_
  split_ifs
  · exact .pure _
  · refine (preserves_store .register fun _ _ _ h hresult => h.ensure hresult).bind fun _ => ?_
    exact (preserves_intent hknown fun _ => hother).bind fun _ => .pure _

end Preserved

/-! ## What a stop takes back -/

/-- A stop under this serial takes back what is wanted under the key. -/
def Clears (m : Allocator) (serial sensor key : String) : Prop :=
  key = allocKey serial sensor ∨
    sensor = "color" ∧ key = allocKey localSerial "color" ∧ (m.migrateColorKey serial).1 = true

instance (m : Allocator) (serial sensor key : String) : Decidable (Clears m serial sensor key) :=
  inferInstanceAs (Decidable (_ ∨ _))

/-- All that is wanted of the sensor is what a stop under this serial takes back. -/
def Owns (m : Allocator) (serial sensor : String) : Prop :=
  ∀ entry ∈ m.toList, entry.2.desiredActive = true → sensorOf entry.1 = some sensor →
    Clears m serial sensor entry.1

instance (m : Allocator) (serial sensor : String) : Decidable (Owns m serial sensor) :=
  inferInstanceAs (Decidable (∀ entry ∈ m.toList, _))

section Stop

variable {sensor serial : String} {e : SensorEnv} {s s' : Pipelines}

theorem store_ok {A : Type} {step : SensorStep}
    {op : Allocator → Except AllocatorError (A × Allocator)} {a : A}
    (h : store step op e s = (.ok a, s')) :
    ∃ m', op s.alloc = .ok (a, m') ∧ s' = { s with alloc := m' } := by
  rw [store] at h
  split at h
  · cases h
  · next hresult =>
    cases h
    exact ⟨_, hresult, rfl⟩
  · cases h
  · cases h

theorem perform_ok {step : SensorStep} (h : perform step e s = (.ok (), s')) : s' = s := by
  rw [perform] at h
  split at h
  · cases h
    rfl
  · cases h

theorem destroyMountpoint_ok (h : destroyMountpoint serial sensor e s = (.ok (), s')) :
    s' = s := by
  rw [destroyMountpoint] at h
  split at h
  · cases h
    rfl
  · split at h
    · cases h
      rfl
    · exact perform_ok h

theorem store_allocator {A : Type} {step : SensorStep}
    {op : Allocator → Except AllocatorError (A × Allocator)} {err : AllocatorError}
    (h : store step op e s = (.error (.allocator err), s')) :
    op s.alloc = .error err ∧ s' = s := by
  have hraised : ∀ t : Trouble, t.raised ≠ .allocator err := by
    intro t
    cases t with
    | lifecycle | other | died => nofun
  rw [store] at h
  split at h
  · next hresult =>
    cases h
    exact ⟨hresult, rfl⟩
  · cases h
  · exact absurd (Except.error.inj (Prod.mk.inj h).1) (hraised _)
  · exact absurd (Except.error.inj (Prod.mk.inj h).1) (hraised _)

/-- Behind a cleared intent nothing is wanted under the key, and the other keys are as they
were. -/
theorem clearIntent_ok (h : clearIntent serial sensor e s = (.ok (), s')) {key : String}
    {a : Allocation} (ha : s'.alloc[key]? = some a) :
    a.desiredActive = false ∨ key ≠ allocKey serial sensor ∧ s.alloc[key]? = some a := by
  rw [clearIntent, Action.run_catching, Action.run_bind_pure] at h
  cases hstore : store .intent (Allocator.setDesired serial sensor false) e s with
  | mk result mid =>
      rw [hstore] at h
      cases result with
      | ok updated =>
          cases h
          obtain ⟨m', hset, rfl⟩ := store_ok hstore
          rw [Allocator.setDesired] at hset
          split at hset
          · cases hset
          · cases hset
            simp only [Dict.getElem?_insert] at ha
            split_ifs at ha with hsame
            · cases ha
              exact .inl rfl
            · exact .inr ⟨fun heq => hsame heq.symm, ha⟩
      | error x =>
          simp only [Except.map] at h
          split at h
          · cases h
            obtain ⟨hnone, rfl⟩ := store_allocator hstore
            rw [Allocator.setDesired] at hnone
            refine .inr ⟨?_, ha⟩
            rintro rfl
            rw [ha] at hnone
            cases hnone
          · cases h

theorem migrateColorKey_cases (m : Allocator) (serial : String) :
    m.migrateColorKey serial = (false, m) ∨ ∃ a, m.migrateColorKey serial =
      (true, (m.erase (allocKey localSerial "color")).insert (allocKey serial "color") a) := by
  rw [Allocator.migrateColorKey]
  split_ifs
  · exact .inl rfl
  · split
    · exact .inr ⟨_, rfl⟩
    · exact .inl rfl

/-- Behind the migration of a stop that owns what is wanted of color, that is under its key. -/
theorem Owns.migrate {m : Allocator} (h : Owns m serial "color") {key : String} {a : Allocation}
    (ha : (m.migrateColorKey serial).2[key]? = some a) (hactive : a.desiredActive = true)
    (hcolor : sensorOf key = some "color") : key = allocKey serial "color" := by
  have howns : m[key]? = some a → Clears m serial "color" key := fun hrow =>
    h (key, a) (Std.ExtTreeMap.mem_toList_iff_getElem?_eq_some.mpr hrow) hactive hcolor
  rcases migrateColorKey_cases m serial with hsame | ⟨b, hmoved⟩
  · rw [hsame] at ha
    rcases howns ha with hkey | ⟨-, -, hmigrates⟩
    · exact hkey
    · rw [hsame] at hmigrates
      cases hmigrates
  · rw [hmoved, Dict.getElem?_insert, Dict.getElem?_erase] at ha
    split_ifs at ha with hkey hlocal
    · exact hkey.symm
    · rcases howns ha with hkey' | ⟨-, hkey', -⟩
      · exact hkey'
      · exact absurd hkey'.symm hlocal

theorem stopColor_calm {result : StopResult} (howns : Owns s.alloc serial "color")
    (h : stopColor serial e s = (.ok result, s')) : Calm "color" s'.alloc := by
  obtain ⟨moved, mid, hmigrate, h⟩ := Action.bind_eq_ok.mp h
  obtain ⟨⟨⟩, cleared, hclear, h⟩ := Action.bind_eq_ok.mp h
  obtain ⟨⟨⟩, stopped, hstop, h⟩ := Action.bind_eq_ok.mp h
  cases h
  obtain ⟨m', hmoved, rfl⟩ := store_ok hmigrate
  rw [perform_ok hstop]
  intro key a ha hkey
  rcases clearIntent_ok hclear ha with hinactive | ⟨hother, hold⟩
  · exact hinactive
  · rw [← Bool.not_eq_true]
    intro hactive
    have hrow : (s.alloc.migrateColorKey serial).2[key]? = some a := by
      rw [Except.ok.inj hmoved]
      exact hold
    exact hother (howns.migrate hrow hactive hkey)

theorem stopDynamic_calm {result : StopResult} (hcolor : sensor ≠ "color")
    (howns : Owns s.alloc serial sensor)
    (h : stopDynamic serial sensor e s = (.ok result, s')) : Calm sensor s'.alloc := by
  obtain ⟨⟨⟩, cleared, hclear, h⟩ := Action.bind_eq_ok.mp h
  obtain ⟨⟨⟩, stopped, hstop, h⟩ := Action.bind_eq_ok.mp h
  obtain ⟨⟨⟩, destroyed, hdestroy, h⟩ := Action.bind_eq_ok.mp h
  cases h
  rw [destroyMountpoint_ok hdestroy, perform_ok hstop]
  intro key a ha hkey
  rcases clearIntent_ok hclear ha with hinactive | ⟨hother, hold⟩
  · exact hinactive
  · rw [← Bool.not_eq_true]
    intro hactive
    have hmem := Std.ExtTreeMap.mem_toList_iff_getElem?_eq_some.mpr hold
    rcases howns (key, a) hmem hactive hkey with hsame | ⟨hsensor, -⟩
    · exact hother hsame
    · exact hcolor hsensor

/-- A stop that owns what is wanted of its sensor leaves nothing wanted when it returns. -/
theorem stopSensor_calm {result : StopResult} (howns : Owns s.alloc serial sensor)
    (h : stopSensor serial sensor e s = (.ok result, s')) :
    (∃ info, sensorMeta sensor = some info) ∧ Calm sensor s'.alloc := by
  cases hmeta : sensorMeta sensor with
  | none =>
      rw [stopSensor, hmeta] at h
      cases h
  | some info =>
      rw [stopSensor, hmeta] at h
      obtain ⟨⟨⟩, start, hlock, h⟩ := Action.bind_eq_ok.mp h
      rw [perform_ok hlock] at h
      refine ⟨⟨info, rfl⟩, ?_⟩
      by_cases hcolor : sensor = "color"
      · rw [if_pos hcolor] at h
        rw [hcolor] at howns ⊢
        exact stopColor_calm howns h
      · rw [if_neg hcolor] at h
        exact stopDynamic_calm hcolor howns h

end Stop

/-! ## The boot -/

/-- A stream is left as it is or brought up. -/
theorem reconcileStream_state (env : BootEnv) (key serial sensor : String) (s : Pipelines) :
    (reconcileStream env key serial sensor s).2 = s ∨
      (reconcileStream env key serial sensor s).2 =
        (initializeSensor serial sensor (env.stream key) s).2 := by
  rw [reconcileStream]
  split_ifs
  · exact .inl rfl
  · cases initializeSensor serial sensor (env.stream key) s with
    | mk result s' =>
        cases result with
        | ok => exact .inr rfl
        | error x =>
            cases x with
            | unsupportedSensor | lifecycle | allocator | other | died => exact .inr rfl

/-- A plan whose keys are not of the sensor leaves it quiet. -/
theorem quiet_reconcileKeys {sensor : String} {info : SensorMeta}
    (hknown : sensorMeta sensor = some info) (env : BootEnv) {keys : List String}
    (hkeys : ∀ key ∈ keys, sensorOf key ≠ some sensor) {s : Pipelines} (h : Quiet sensor s) :
    Quiet sensor (reconcileKeys env keys s) := by
  induction keys generalizing s with
  | nil => exact h
  | cons key rest ih =>
      have hrest := fun k hk => hkeys k (List.mem_cons_of_mem key hk)
      rw [reconcileKeys]
      cases hparse : parseKey key with
      | none => exact ih hrest h
      | some parts =>
          obtain ⟨serial, target⟩ := parts
          have hother : sensor ≠ target := by
            rintro rfl
            exact hkeys key List.mem_cons_self (by rw [sensorOf, hparse]; rfl)
          have hstep : Quiet sensor (reconcileStream env key serial target s).2 := by
            rcases reconcileStream_state env key serial target s with hsame | hinit
            · rw [hsame]
              exact h
            · rw [hinit]
              exact preserves_initializeSensor hknown hother s h
          simp only
          cases hresult : reconcileStream env key serial target s with
          | mk result s' =>
              rw [hresult] at hstep
              cases result with
              | ok => exact ih hrest hstep
              | error => exact hstep

theorem mem_plan {planned : Bool} {m : Allocator} {key : String} (h : key ∈ plan planned m) :
    ∃ a, m[key]? = some a ∧ a.desiredActive = true := by
  rw [plan] at h
  have hmem : key ∈
      (m.toList.filter fun entry => planned && entry.2.desiredActive).map Prod.fst := by
    rcases List.mem_append.mp h with hcolor | hother
    · exact List.mem_of_mem_filter hcolor
    · exact List.mem_of_mem_filter hother
  obtain ⟨⟨k, a⟩, hentry, rfl⟩ := List.mem_map.mp hmem
  obtain ⟨hrow, hwanted⟩ := List.mem_filter.mp hentry
  exact ⟨a, Std.ExtTreeMap.mem_toList_iff_getElem?_eq_some.mp hrow,
    (Bool.and_eq_true_iff.mp hwanted).2⟩

/-- A boot leaves a sensor quiet that is not wanted, unless it seeds color. -/
theorem quiet_bootReconcile {sensor : String} {info : SensorMeta}
    (hknown : sensorMeta sensor = some info) {env : BootEnv} {m : Allocator} (h : Calm sensor m)
    (hseed : sensor = "color" → env.listed = true ∧ m.isEmpty = false) :
    Quiet sensor (bootReconcile env m) := by
  have hstart : Quiet sensor { alloc := m } := ⟨h, List.not_mem_nil⟩
  have hseeded : Quiet sensor (seedIfEmpty env.listed env.seed { alloc := m }).2 := by
    by_cases hcolor : sensor = "color"
    · obtain ⟨hlisted, hempty⟩ := hseed hcolor
      have hkeep : seedIfEmpty env.listed env.seed { alloc := m } =
          (.ok false, { alloc := m }) := by
        rw [seedIfEmpty, Action.run_bind, Action.run_get]
        simp only [hlisted, hempty]
        rfl
      rw [hkeep]
      exact hstart
    · exact preserves_seed hknown hcolor env.listed _ hstart
  rw [bootReconcile]
  cases hresult : seedIfEmpty env.listed env.seed { alloc := m } with
  | mk result s =>
      rw [hresult] at hseeded
      cases result with
      | error => exact hseeded
      | ok =>
          refine quiet_reconcileKeys hknown env (fun key hkey hsensor => ?_) hseeded
          obtain ⟨a, ha, hactive⟩ := mem_plan hkey
          rw [hseeded.1 key a ha hsensor] at hactive
          cases hactive

/-! ## Whole histories -/

/-- The host, with the sensors that were stopped and not brought up since. -/
structure SensorHost where
  alloc : Allocator := ∅
  stopped : List String := []

/-- What happens on the host; a call or a boot that the machine does not survive has a step that
ends so. -/
inductive SensorEvent where
  | bringUp (serial sensor : String) (e : SensorEnv)
  | stop (serial sensor : String) (e : SensorEnv)
  | boot (env : BootEnv)

namespace SensorHost

/-- A stop that returns is remembered. -/
def afterStop (s : SensorHost) (sensor : String) : Except Raised StopResult × Pipelines → SensorHost
  | (.ok _, p) => { alloc := p.alloc, stopped := sensor :: s.stopped }
  | (.error _, p) => { s with alloc := p.alloc }

end SensorHost

/-- The host, event by event; it shows which units are started. -/
def sensorMachine : Machine SensorHost SensorEvent String where
  step s
    | .bringUp serial sensor e =>
        let p := (initializeSensor serial sensor e { alloc := s.alloc }).2
        ({ alloc := p.alloc, stopped := s.stopped.filter fun other => other ≠ sensor }, p.started)
    | .stop serial sensor e =>
        let result := stopSensor serial sensor e { alloc := s.alloc }
        (s.afterStop sensor result, result.2.started)
    | .boot env =>
        let p := bootReconcile env s.alloc
        ({ s with alloc := p.alloc }, p.started)

namespace SensorHost

/-- A boot starts no unit of a sensor that is stopped. -/
def StaysStopped (s : SensorHost) : SensorEvent → Prop
  | .boot env => ∀ sensor ∈ s.stopped, sensor ∉ sensorMachine.emits s (.boot env)
  | .bringUp .. | .stop .. => True

/-- A stop owns what is wanted of its sensor, and a boot behind a stop of color finds
allocations. -/
def Addressed (s : SensorHost) : SensorEvent → Prop
  | .stop serial sensor _ => Owns s.alloc serial sensor
  | .boot env => "color" ∈ s.stopped → env.listed = true ∧ s.alloc.isEmpty = false
  | .bringUp .. => True

instance (s : SensorHost) (e : SensorEvent) : Decidable (s.Addressed e) :=
  match e with
  | .stop serial sensor _ => inferInstanceAs (Decidable (Owns s.alloc serial sensor))
  | .boot _ => inferInstanceAs (Decidable (_ → _ ∧ _))
  | .bringUp .. => isTrue trivial

/-- Nothing is wanted of the sensors that are stopped. -/
def Calm (s : SensorHost) : Prop :=
  ∀ sensor ∈ s.stopped, (∃ info, sensorMeta sensor = some info) ∧ Sensors.Calm sensor s.alloc

theorem Calm.next {s : SensorHost} (h : s.Calm) {e : SensorEvent} (haddressed : s.Addressed e) :
    (sensorMachine.next s e).Calm := by
  cases e with
  | bringUp serial target e =>
      intro sensor hmem
      obtain ⟨hold, hother⟩ := List.mem_filter.mp hmem
      obtain ⟨⟨info, hknown⟩, hcalm⟩ := h sensor hold
      refine ⟨⟨info, hknown⟩, ?_⟩
      have hne : sensor ≠ target := of_decide_eq_true hother
      exact (preserves_initializeSensor hknown hne { alloc := s.alloc }
        ⟨hcalm, List.not_mem_nil⟩).1
  | stop serial target e =>
      have hkeep : ∀ sensor ∈ s.stopped, (∃ info, sensorMeta sensor = some info) ∧
          Sensors.Calm sensor (stopSensor serial target e { alloc := s.alloc }).2.alloc := by
        intro sensor hmem
        obtain ⟨⟨info, hknown⟩, hcalm⟩ := h sensor hmem
        exact ⟨⟨info, hknown⟩, (preserves_stopSensor hknown { alloc := s.alloc }
          ⟨hcalm, List.not_mem_nil⟩).1⟩
      intro sensor hmem
      rw [Machine.next, sensorMachine] at hmem ⊢
      simp only at hmem ⊢
      cases hresult : stopSensor serial target e { alloc := s.alloc } with
      | mk result p =>
          rw [hresult] at hmem hkeep
          cases result with
          | error => exact hkeep sensor hmem
          | ok result =>
              rcases List.mem_cons.mp hmem with rfl | hold
              · exact @stopSensor_calm sensor serial e { alloc := s.alloc } p result haddressed
                  hresult
              · exact hkeep sensor hold
  | boot env =>
      intro sensor hmem
      obtain ⟨⟨info, hknown⟩, hcalm⟩ := h sensor hmem
      exact ⟨⟨info, hknown⟩,
        (quiet_bootReconcile hknown hcalm fun hcolor => haddressed (hcolor ▸ hmem)).1⟩

theorem Calm.staysStopped {s : SensorHost} (h : s.Calm) {e : SensorEvent}
    (haddressed : s.Addressed e) : s.StaysStopped e := by
  cases e with
  | bringUp | stop => trivial
  | boot env =>
      intro sensor hmem
      obtain ⟨⟨info, hknown⟩, hcalm⟩ := h sensor hmem
      exact (quiet_bootReconcile hknown hcalm fun hcolor => haddressed (hcolor ▸ hmem)).2

/-- In a history whose stops address what is wanted, and whose boots behind a stop of color find
allocations, no boot starts a sensor that is stopped. -/
theorem stop_survives_boots (m : Allocator) {events : List SensorEvent}
    (haddressed : sensorMachine.Along Addressed { alloc := m } events) :
    sensorMachine.Along StaysStopped { alloc := m } events :=
  Machine.along_of_invariant (I := Calm) sensorMachine (fun _ _ h hstep => h.next hstep)
    (fun _ _ h hstep => h.staysStopped hstep) haddressed fun _ hmem => absurd hmem List.not_mem_nil

/-- Color is brought up and stopped under the serial of the device, and the machine boots. -/
def sampleHistory (stopSerial : String) : List SensorEvent :=
  [.bringUp "0123" "color" {}, .stop stopSerial "color" {}, .boot {}]

theorem stop_survives_boots_own :
    sensorMachine.Along StaysStopped { alloc := ∅ } (sampleHistory "0123") :=
  stop_survives_boots ∅ (by decide +kernel)

/-- A stop under the serial of a device that was not discovered returns as if color were stopped,
and the next boot starts it. -/
theorem unknown_stop_forgotten :
    ¬ sensorMachine.Along StaysStopped { alloc := ∅ } (sampleHistory "unknown") := by
  intro hrun
  exact hrun.2.2.1 "color" (by decide +kernel) (by decide +kernel)

end SensorHost

end CameraStack.Sensors
