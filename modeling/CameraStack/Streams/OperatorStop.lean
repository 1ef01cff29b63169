/-
# A stop by the operator

Stopping a remote stream asks its node to stop, records the stream as offline and then
clears its start/stop intent.  The monitor and the start-up sweep respect the intent.
The triggered reconcile does not read it: it goes by the stored status, which the next
tick of the monitor overwrites with what it observes.

The machine interleaves any number of stops, ticks and reconciles with operations of
the stores and restarts of Janus.  A tick and a reconcile read the store once, when
they start, and act on one binding at a time after that.
-/

import CameraStack.Streams.Monitor

namespace CameraStack.Streams

open CameraStack.Lib CameraStack.Topology

/-! ## The parties -/

/-- Where a `stop_binding` of a remote binding is, after its node has answered. -/
inductive StopPc
  | setStatus
  | setDesiredUp
  | returned (ok : Bool)
  deriving DecidableEq

/-- A `stop_binding` in progress. -/
structure StopRun where
  bindingId : String
  pc : StopPc

/-- The next write of a stop; a write that raises is swallowed and ends it.  The last
component tells whether the stop has just returned ok. -/
def StopRun.step (raises : Bool) (stop : StopRun) (t : TopologyState) :
    StopRun × TopologyState × Bool :=
  match stop.pc with
  | .setStatus =>
      match t.setStatus stop.bindingId .configuredOffline with
      | .ok (_, t') =>
          if raises then ({ stop with pc := .returned true }, t, true)
          else ({ stop with pc := .setDesiredUp }, t', false)
      | .error _ => ({ stop with pc := .returned true }, t, true)
  | .setDesiredUp =>
      match t.setDesiredUp stop.bindingId false with
      | .ok (_, t') => ({ stop with pc := .returned true }, if raises then t else t', true)
      | .error _ => ({ stop with pc := .returned true }, t, true)
  | .returned _ => (stop, t, false)

/-- A reconcile in progress: a triggered one before it has listed the mountpoints of
Janus, or any one at work. -/
inductive Reconcile
  | listing (bindings : List (String × StreamBinding)) (maintenance : List String)
  | sweeping (sweep : Sweep)

/-- What a reconcile gets as answers. -/
structure ReconcileAnswer where
  janus : JanusAnswer := {}
  rtpAge : ℤ → Option ℤ := fun _ => none

/-- The next step of a reconcile: the listing, or one binding.  A listing that fails ends
it. -/
def Reconcile.step (answer : ReconcileAnswer) (janus : Janus) :
    Reconcile → Reconcile × Janus × Option ℤ
  | .listing bindings maintenance =>
      if answer.janus.lists then
        (.sweeping (runJanusReconcileOnce bindings (janus.map Mountpoint.id) answer.rtpAge
          maintenance), janus, none)
      else (.sweeping { pending := [] }, janus, none)
  | .sweeping sweep =>
      let (sweep', janus', created) := sweep.step answer.janus janus
      (.sweeping sweep', janus', created)

/-- The stores, Janus, the memory of the monitor and everything in progress. -/
structure System where
  stores : Stores := {}
  janus : Janus := []
  memory : Dict BindingState := ∅
  stops : List StopRun := []
  ticks : List TickRun := []
  reconciles : List Reconcile := []

/-- The events: operations of the stores, starts and steps of the parties. -/
inductive Event
  | store (op : StoreOp)
  | janusRestart
  | stopBegin (bindingId : String) (nodeOk : Bool)
  | stopStep (i : ℕ) (raises : Bool)
  | tickBegin (now : ℚ)
  | tickStep (i : ℕ) (answer : TickAnswer)
  | reconcileJanusBegin
  | runOnceBegin
  | reconcileStep (i : ℕ) (answer : ReconcileAnswer)

/-- What can be seen from outside. -/
inductive Effect
  | stopped (bindingId : String)
  | alerted (tick : ℕ) (bindingId : String)
  | restarted (tick : ℕ) (nodeId sensor : String)
  | recreated (tick : ℕ) (mountpointId : ℤ)
  | created (reconcile : ℕ) (mountpointId : ℤ)
  deriving DecidableEq

/-- The effects of a tick at a binding. -/
def TickEffect.effects (effect : TickEffect) (tick : ℕ) (b : StreamBinding) : List Effect :=
  (if effect.alerted then [.alerted tick b.bindingId] else []) ++
    (if effect.created then [.recreated tick b.janus.mountpointId] else []) ++
    if effect.restarted then [.restarted tick b.nodeId b.sensor] else []

namespace System

/-- `stop_binding` up to the answer of the node. -/
def stopBegin (s : System) (bindingId : String) (nodeOk : Bool) : System :=
  match s.stores.topology.getBinding bindingId s.stores.alloc with
  | some b =>
      if b.mode = .remoteProducer then
        let pc := if nodeOk then StopPc.setStatus else .returned false
        { s with stops := s.stops ++ [{ bindingId := bindingId, pc := pc }] }
      else s
  | none => s

/-- One write of a stop. -/
def stopStep (s : System) (i : ℕ) (raises : Bool) : System × List Effect :=
  match s.stops[i]? with
  | none => (s, [])
  | some stop =>
      let (stop', t, returned) := stop.step raises s.stores.topology
      ({ s with stops := s.stops.set i stop', stores := s.stores.setTopology t },
        if returned then [.stopped stop.bindingId] else [])

/-- One binding of a tick. -/
def tickStep (cfg : MonitorConfig) (s : System) (i : ℕ) (answer : TickAnswer) :
    System × List Effect :=
  match s.ticks[i]? with
  | none => (s, [])
  | some run =>
      match run.pending with
      | [] => (s, [])
      | (key, b) :: rest =>
          let w : Watch :=
            { topology := s.stores.topology, janus := s.janus, memory := s.memory }
          let (effect, w') := tickBinding cfg run.now run.nodes key b answer w
          ({ s with
              ticks := s.ticks.set i { run with pending := rest }
              stores := s.stores.setTopology w'.topology
              janus := w'.janus
              memory := w'.memory },
            effect.effects i b)

/-- One step of a reconcile. -/
def reconcileStep (s : System) (i : ℕ) (answer : ReconcileAnswer) : System × List Effect :=
  match s.reconciles[i]? with
  | none => (s, [])
  | some reconcile =>
      let (reconcile', janus, created) := reconcile.step answer s.janus
      ({ s with reconciles := s.reconciles.set i reconcile', janus := janus },
        created.toList.map (.created i))

/-- One event. -/
def step (cfg : MonitorConfig) (lan : LanConfig) (s : System) : Event → System × List Effect
  | .store op => ({ s with stores := s.stores.apply lan op }, [])
  | .janusRestart =>
      -- the mountpoints of the configuration file come back, those of the bindings do not
      ({ s with janus := s.janus.filter fun mp => mp.id < TopologyState.remoteMpMin }, [])
  | .stopBegin bindingId nodeOk => (s.stopBegin bindingId nodeOk, [])
  | .stopStep i raises => s.stopStep i raises
  | .tickBegin now => ({ s with ticks := s.ticks ++ [.start now s.stores] }, [])
  | .tickStep i answer => s.tickStep cfg i answer
  | .reconcileJanusBegin =>
      let sweep := reconcileJanus s.stores.listBindings
      ({ s with reconciles := s.reconciles ++ [.sweeping sweep] }, [])
  | .runOnceBegin =>
      let maintenance := maintenanceNodeIds (listNodes s.stores.topology)
      ({ s with
          reconciles := s.reconciles ++ [.listing s.stores.listBindings maintenance] }, [])
  | .reconcileStep i answer => s.reconcileStep i answer

end System

/-- The system under any interleaving. -/
def systemMachine (cfg : MonitorConfig) (lan : LanConfig) : Machine System Event Effect where
  step := System.step cfg lan

/-! ## What an event does to the stores -/

/-- Operations that start nothing. -/
def Benign : StoreOp → Prop
  | .setStatus .. => True
  | .setDesiredUp _ up => up = false
  | .setMaintenance .. => True
  | _ => False

/-- The events after a stop: anything but operations of the stores other than the
maintenance toggle. -/
def InWindow : Event → Prop
  | .store (.setMaintenance ..) => True
  | .store _ => False
  | _ => True

instance decidableInWindow : ∀ e : Event, Decidable (InWindow e)
  | .store op =>
      match op with
      | .setMaintenance .. => isTrue trivial
      | .addNodeByHost .. | .allocate .. | .ensureColor .. | .setDesired .. | .release ..
      | .migrateColorKey .. | .upsertNode .. | .setReachability .. | .setSerial ..
      | .setProvisionState .. | .touchChecked .. | .setHostKey .. | .setAgentToken ..
      | .removeNode .. | .upsertBinding .. | .removeBinding .. | .migrateRemoteBindingIds
      | .setStatus .. | .setFdirEnabled .. | .setDesiredUp .. => isFalse id
  | .janusRestart | .stopBegin .. | .stopStep .. | .tickBegin .. | .tickStep ..
  | .reconcileJanusBegin | .runOnceBegin | .reconcileStep .. => isTrue trivial

/-- A stop that begins changes the list of stops only. -/
theorem System.stopBegin_eq (s : System) (bindingId : String) (nodeOk : Bool) :
    ∃ stops, s.stopBegin bindingId nodeOk = { s with stops := stops } := by
  unfold stopBegin
  split
  · split
    · exact ⟨_, rfl⟩
    · exact ⟨s.stops, rfl⟩
  · exact ⟨s.stops, rfl⟩

section Frame

variable (s : System)

@[simp] theorem System.stores_stopBegin (bindingId : String) (nodeOk : Bool) :
    (s.stopBegin bindingId nodeOk).stores = s.stores := by
  obtain ⟨stops, heq⟩ := s.stopBegin_eq bindingId nodeOk
  rw [heq]

@[simp] theorem System.ticks_stopBegin (bindingId : String) (nodeOk : Bool) :
    (s.stopBegin bindingId nodeOk).ticks = s.ticks := by
  obtain ⟨stops, heq⟩ := s.stopBegin_eq bindingId nodeOk
  rw [heq]

@[simp] theorem System.reconciles_stopBegin (bindingId : String) (nodeOk : Bool) :
    (s.stopBegin bindingId nodeOk).reconciles = s.reconciles := by
  obtain ⟨stops, heq⟩ := s.stopBegin_eq bindingId nodeOk
  rw [heq]

@[simp] theorem System.ticks_stopStep (i : ℕ) (raises : Bool) :
    (s.stopStep i raises).1.ticks = s.ticks := by
  unfold stopStep
  split
  · rfl
  · rfl

@[simp] theorem System.reconciles_stopStep (i : ℕ) (raises : Bool) :
    (s.stopStep i raises).1.reconciles = s.reconciles := by
  unfold stopStep
  split
  · rfl
  · rfl

@[simp] theorem System.reconciles_tickStep (cfg : MonitorConfig) (i : ℕ) (answer : TickAnswer) :
    (s.tickStep cfg i answer).1.reconciles = s.reconciles := by
  unfold tickStep
  split
  · rfl
  · split
    · rfl
    · rfl

@[simp] theorem System.length_tickStep (cfg : MonitorConfig) (i : ℕ) (answer : TickAnswer) :
    (s.tickStep cfg i answer).1.ticks.length = s.ticks.length := by
  unfold tickStep
  split
  · rfl
  · split
    · rfl
    · exact List.length_set

@[simp] theorem System.stores_reconcileStep (i : ℕ) (answer : ReconcileAnswer) :
    (s.reconcileStep i answer).1.stores = s.stores := by
  unfold reconcileStep
  split
  · rfl
  · rfl

@[simp] theorem System.ticks_reconcileStep (i : ℕ) (answer : ReconcileAnswer) :
    (s.reconcileStep i answer).1.ticks = s.ticks := by
  unfold reconcileStep
  split
  · rfl
  · rfl

end Frame

theorem StopRun.topology_step (lan : LanConfig) (raises : Bool) (stop : StopRun) (s : Stores) :
    s.setTopology (stop.step raises s.topology).2.1 = s ∨
      ∃ op, Benign op ∧ s.setTopology (stop.step raises s.topology).2.1 = s.apply lan op := by
  unfold StopRun.step
  split
  · split
    · next b t' hok =>
        split
        · exact .inl rfl
        · refine .inr ⟨.setStatus stop.bindingId .configuredOffline, trivial, ?_⟩
          simp only [Stores.apply, hok, written]
    · exact .inl rfl
  · split
    · next b t' hok =>
        cases raises with
        | true => exact .inl rfl
        | false =>
            refine .inr ⟨.setDesiredUp stop.bindingId false, rfl, ?_⟩
            simp only [Stores.apply, hok, written, Bool.false_eq_true, if_false]
    · exact .inl rfl
  · exact .inl rfl

/-- An event leaves the stores alone or runs one operation on them; after a stop, a
benign one. -/
theorem System.stores_step (cfg : MonitorConfig) (lan : LanConfig) (s : System) (e : Event) :
    (s.step cfg lan e).1.stores = s.stores ∨
      ∃ op, (InWindow e → Benign op) ∧ (s.step cfg lan e).1.stores = s.stores.apply lan op := by
  cases e with
  | store op =>
      refine .inr ⟨op, ?_, rfl⟩
      cases op with
      | setMaintenance => exact fun _ => trivial
      | _ => exact False.elim
  | janusRestart | tickBegin | reconcileJanusBegin | runOnceBegin => exact .inl rfl
  | stopBegin bindingId nodeOk => exact .inl (s.stores_stopBegin bindingId nodeOk)
  | stopStep i raises =>
      simp only [step, stopStep]
      split
      · exact .inl rfl
      · next stop hstop =>
          rcases stop.topology_step lan raises s.stores with heq | ⟨op, hop, heq⟩
          · exact .inl heq
          · exact .inr ⟨op, fun _ => hop, heq⟩
  | tickStep i answer =>
      simp only [step, tickStep]
      split
      · exact .inl rfl
      · next run hrun =>
          split
          · exact .inl rfl
          · next key b rest hpending =>
              rcases topology_tickBinding cfg run.now run.nodes key b answer
                { topology := s.stores.topology, janus := s.janus, memory := s.memory } with
                heq | ⟨status, heq⟩
              · left
                simp only [heq]
                rfl
              · refine .inr ⟨.setStatus b.bindingId status, fun _ => trivial, ?_⟩
                simp only [heq]
                rfl
  | reconcileStep i answer => exact .inl (s.stores_reconcileStep i answer)

/-- The stores stay sound in every interleaving. -/
theorem System.sound_run (cfg : MonitorConfig) (lan : LanConfig) (events : List Event) :
    ((systemMachine cfg lan).run {} events).stores.Sound := by
  apply (systemMachine cfg lan).run_invariant_of_step (I := fun s => s.stores.Sound) _
    Stores.sound_empty events
  intro s e h
  rcases s.stores_step cfg lan e with heq | ⟨op, -, heq⟩
  · exact heq.symm ▸ h
  · exact heq.symm ▸ h.apply lan op

/-! ## What stays stopped -/

/-- A binding of the same encoder or of the same mountpoint is not wanted up. -/
def Held (b r : StreamBinding) : Prop :=
  r.stream = b.stream ∨ r.janus.mountpointId = b.janus.mountpointId → r.desiredUp = false

/-- Benign operations leave every row held. -/
theorem held_apply {lan : LanConfig} {s : Stores} {op : StoreOp} {b : StreamBinding}
    (hop : Benign op) (h : Dict.Each (fun _ r => Held b r) s.topology.bindings) :
    Dict.Each (fun _ r => Held b r) (s.apply lan op).topology.bindings := by
  have update : ∀ {bindingId : String} {f : StreamBinding → StreamBinding},
      (∀ r, Held b r → Held b (f r)) → Dict.Each (fun _ r => Held b r)
        (written s.topology (s.topology.updateBinding bindingId f)).bindings := by
    intro bindingId f hf
    cases hresult : s.topology.updateBinding bindingId f with
    | error e => exact h
    | ok pair =>
        obtain ⟨old, hold, heq⟩ := TopologyState.updateBinding_ok hresult
        simp only [written, heq]
        exact h.insert (hf old (h bindingId old hold))
  cases op with
  | setStatus => exact update fun r hr => hr
  | setDesiredUp bindingId up =>
      cases hop
      exact update fun r hr => fun _ => rfl
  | setMaintenance nodeId on =>
      simp only [Stores.apply, Stores.topology_setTopology]
      cases hresult : s.topology.setMaintenance nodeId on with
      | error e => exact h
      | ok pair =>
          simp only [written, TopologyState.bindings_updateNode hresult]
          exact h
  | _ => exact absurd hop id

/-- A reconcile that has still to ensure the mountpoint. -/
def Reconcile.Ensures (mp : ℤ) : Reconcile → Prop
  | .listing .. => False
  | .sweeping sweep => ∃ b, sweep.Targets b ∧ b.janus.mountpointId = mp

/-- Nothing that is stored, and nothing that started since there were `n` ticks, wants
the binding up; no reconcile is about to create its mountpoint. -/
structure Quiet (n : ℕ) (b : StreamBinding) (s : System) : Prop where
  rows : Dict.Each (fun _ r => Held b r) s.stores.topology.bindings
  started : n ≤ s.ticks.length
  ticks : ∀ j run, n ≤ j → s.ticks[j]? = some run →
    ∀ entry ∈ run.pending, entry.2.mode = .remoteProducer → Held b entry.2
  reconciles : ∀ r ∈ s.reconciles, ¬ r.Ensures b.janus.mountpointId

/-- A triggered reconcile that gets the listing of Janus takes the remote bindings of the
mountpoint for stopped, or finds the mountpoint there. -/
def Reconcile.spares (mp : ℤ) (answer : ReconcileAnswer) (janus : Janus) : Reconcile → Bool
  | .listing bindings maintenance =>
      !answer.janus.lists || mp ∈ janus.map Mountpoint.id ||
        bindings.all fun entry =>
          entry.2.mode ≠ .remoteProducer || entry.2.janus.mountpointId ≠ mp ||
            isOperatorStopped entry.2 maintenance
  | .sweeping _ => true

@[inherit_doc Reconcile.spares]
def Spares (mp : ℤ) (s : System) : Event → Prop
  | .reconcileStep i answer =>
      ((s.reconciles[i]?).all fun r => r.spares mp answer s.janus) = true
  | _ => True

instance decidableSpares (mp : ℤ) (s : System) : ∀ e, Decidable (Spares mp s e)
  | .reconcileStep i answer =>
      inferInstanceAs (Decidable (((s.reconciles[i]?).all fun r => r.spares mp answer s.janus) =
        true))
  | .store _ | .janusRestart | .stopBegin .. | .stopStep .. | .tickBegin .. | .tickStep ..
  | .reconcileJanusBegin | .runOnceBegin => isTrue trivial

section Window

variable {n : ℕ} {b : StreamBinding} {s : System}

/-- The listed remote bindings are held. -/
theorem Quiet.listBindings (h : Quiet n b s) {entry : String × StreamBinding}
    (hentry : entry ∈ s.stores.listBindings) (hmode : entry.2.mode = .remoteProducer) :
    Held b entry.2 :=
  h.rows entry.1 entry.2 (Stores.remote_mem_listBindings hmode hentry)

/-- The ticks after an event: older ones with no more to do than before, and new ones
with what is stored. -/
theorem System.ticks_step (cfg : MonitorConfig) (lan : LanConfig) (e : Event) {j : ℕ}
    {run : TickRun} (h : (s.step cfg lan e).1.ticks[j]? = some run) :
    (∃ old, s.ticks[j]? = some old ∧ run.pending ⊆ old.pending) ∨
      s.ticks.length ≤ j ∧ run.pending = s.stores.listBindings := by
  have same : (s.step cfg lan e).1.ticks = s.ticks →
      ∃ old, s.ticks[j]? = some old ∧ run.pending ⊆ old.pending :=
    fun heq => ⟨run, heq ▸ h, List.Subset.refl _⟩
  cases e with
  | store | janusRestart | reconcileJanusBegin | runOnceBegin => exact .inl (same rfl)
  | stopBegin bindingId nodeOk => exact .inl (same (s.ticks_stopBegin bindingId nodeOk))
  | stopStep i raises => exact .inl (same (s.ticks_stopStep i raises))
  | tickBegin now =>
      simp only [step] at h
      rw [List.getElem?_append] at h
      split at h
      · exact .inl ⟨run, h, List.Subset.refl _⟩
      · next hlength =>
          obtain rfl := List.mem_singleton.mp (List.mem_of_getElem? h)
          exact .inr ⟨by omega, rfl⟩
  | tickStep i answer =>
      left
      simp only [step, tickStep] at h
      split at h
      · exact ⟨run, h, List.Subset.refl _⟩
      · next old hold =>
          split at h
          · exact ⟨run, h, List.Subset.refl _⟩
          · next key r rest hpending =>
              simp only [List.getElem?_set] at h
              split at h
              · next hij =>
                  subst hij
                  split at h
                  · cases h
                    exact ⟨old, hold, hpending ▸ List.subset_cons_self _ _⟩
                  · cases h
              · exact ⟨run, h, List.Subset.refl _⟩
  | reconcileStep i answer => exact .inl (same (s.ticks_reconcileStep i answer))

/-- The number of ticks never goes down. -/
theorem System.length_ticks_step (cfg : MonitorConfig) (lan : LanConfig) (e : Event) :
    s.ticks.length ≤ (s.step cfg lan e).1.ticks.length := by
  cases e with
  | store | janusRestart | reconcileJanusBegin | runOnceBegin => exact le_refl _
  | tickBegin now =>
      simp only [step, List.length_append]
      omega
  | stopBegin | stopStep | tickStep | reconcileStep => simp [step]

/-- A reconcile that spares a mountpoint neither creates it nor gets to. -/
theorem Reconcile.step_spares {mp : ℤ} {r : Reconcile} (answer : ReconcileAnswer) (janus : Janus)
    (hr : ¬ r.Ensures mp) (hspares : r.spares mp answer janus = true) :
    ¬ (r.step answer janus).1.Ensures mp ∧ (r.step answer janus).2.2 ≠ some mp := by
  cases r with
  | listing bindings maintenance =>
      simp only [step]
      split
      · next hlists =>
          refine ⟨?_, nofun⟩
          rintro ⟨target, htarget, rfl⟩
          obtain ⟨key, hmem, hmode, hstopped, hmissing⟩ := targets_runJanusReconcileOnce htarget
          simp only [spares, hlists, Bool.not_true, Bool.false_or, Bool.or_eq_true,
            decide_eq_true_eq, List.all_eq_true] at hspares
          rcases hspares.resolve_left hmissing (key, target) hmem with (hlocal | hother) | hspared
          · exact hlocal hmode
          · exact hother rfl
          · rw [hstopped] at hspared
            cases hspared
      · refine ⟨?_, nofun⟩
        rintro ⟨target, htarget, -⟩
        cases htarget
  | sweeping sweep =>
      obtain ⟨hpending, hcreated⟩ := sweep.step_spec answer.janus janus
      constructor
      · intro hensures
        obtain ⟨target, htarget, hmp⟩ :
          ∃ target, (sweep.step answer.janus janus).1.Targets target ∧
            target.janus.mountpointId = mp := hensures
        rw [Sweep.Targets, hpending] at htarget
        exact hr ⟨target, List.mem_of_mem_tail htarget, hmp⟩
      · exact fun hmp => hr (hcreated mp hmp)

/-- The reconciles after an event in the window. -/
theorem Quiet.reconciles_step (h : Quiet n b s) (cfg : MonitorConfig) (lan : LanConfig)
    {e : Event} (hspares : Spares b.janus.mountpointId s e) :
    ∀ r ∈ (s.step cfg lan e).1.reconciles, ¬ r.Ensures b.janus.mountpointId := by
  have same : (s.step cfg lan e).1.reconciles = s.reconciles →
      ∀ r ∈ (s.step cfg lan e).1.reconciles, ¬ r.Ensures b.janus.mountpointId :=
    fun heq r hr => h.reconciles r (heq ▸ hr)
  have added : ∀ new : Reconcile, (s.step cfg lan e).1.reconciles = s.reconciles ++ [new] →
      ¬ new.Ensures b.janus.mountpointId →
        ∀ r ∈ (s.step cfg lan e).1.reconciles, ¬ r.Ensures b.janus.mountpointId := by
    intro new heq hnew r hr
    rw [heq] at hr
    rcases List.mem_append.mp hr with hr | hr
    · exact h.reconciles r hr
    · rw [List.mem_singleton.mp hr]
      exact hnew
  cases e with
  | store | janusRestart | tickBegin => exact same rfl
  | stopBegin bindingId nodeOk => exact same (s.reconciles_stopBegin bindingId nodeOk)
  | stopStep i raises => exact same (s.reconciles_stopStep i raises)
  | tickStep i answer => exact same (s.reconciles_tickStep cfg i answer)
  | reconcileJanusBegin =>
      apply added _ rfl
      rintro ⟨target, htarget, hmp⟩
      obtain ⟨key, hmem, hmode, hup⟩ := targets_reconcileJanus htarget
      have hheld := h.listBindings hmem hmode (.inr hmp)
      simp only at hheld
      rw [hup] at hheld
      cases hheld
  | runOnceBegin => exact added _ rfl id
  | reconcileStep i answer =>
      simp only [System.step, System.reconcileStep]
      split
      · exact h.reconciles
      · next reconcile hreconcile =>
          intro r hr
          rcases List.mem_or_eq_of_mem_set hr with hr | rfl
          · exact h.reconciles r hr
          · refine (Reconcile.step_spares answer s.janus
              (h.reconciles _ (List.mem_of_getElem? hreconcile)) ?_).1
            simpa [Spares, hreconcile] using hspares

/-- Events of the window keep things quiet. -/
theorem Quiet.step (h : Quiet n b s) (cfg : MonitorConfig) (lan : LanConfig) {e : Event}
    (hwindow : InWindow e) (hspares : Spares b.janus.mountpointId s e) :
    Quiet n b (s.step cfg lan e).1 where
  rows := by
    rcases s.stores_step cfg lan e with heq | ⟨op, hop, heq⟩
    · rw [heq]
      exact h.rows
    · rw [heq]
      exact held_apply (hop hwindow) h.rows
  started := h.started.trans (s.length_ticks_step cfg lan e)
  ticks := by
    intro j run hj hrun entry hentry hmode
    rcases s.ticks_step cfg lan e hrun with ⟨old, hold, hsubset⟩ | ⟨-, hpending⟩
    · exact h.ticks j old hj hold entry (hsubset hentry) hmode
    · exact h.listBindings (hpending ▸ hentry) hmode
  reconciles := h.reconciles_step cfg lan hspares

/-- What may be seen after a stop: no tick that started since restarts the encoder of the
binding, and no reconcile creates its mountpoint. -/
def Sticks (n : ℕ) (b : StreamBinding) : Effect → Prop
  | .restarted tick nodeId sensor => n ≤ tick → (nodeId, sensor) ≠ b.stream
  | .created _ mp => mp ≠ b.janus.mountpointId
  | _ => True

theorem TickEffect.mem_effects {effect : TickEffect} {tick : ℕ} {r : StreamBinding} {o : Effect}
    (h : o ∈ effect.effects tick r) :
    o = .alerted tick r.bindingId ∨ o = .recreated tick r.janus.mountpointId ∨
      effect.restarted = true ∧ o = .restarted tick r.nodeId r.sensor := by
  unfold effects at h
  grind

/-- While things are quiet, the stop sticks. -/
theorem Quiet.emits (h : Quiet n b s) (cfg : MonitorConfig) (lan : LanConfig) {e : Event}
    (hspares : Spares b.janus.mountpointId s e) :
    ∀ o ∈ (s.step cfg lan e).2, Sticks n b o := by
  intro o ho
  cases e with
  | store | janusRestart | stopBegin | tickBegin | reconcileJanusBegin | runOnceBegin => cases ho
  | stopStep i raises =>
      simp only [System.step, System.stopStep] at ho
      split at ho
      · cases ho
      · split at ho
        · rw [List.mem_singleton.mp ho]
          trivial
        · cases ho
  | tickStep i answer =>
      simp only [System.step, System.tickStep] at ho
      split at ho
      · cases ho
      · next run hrun =>
          split at ho
          · cases ho
          · next key r rest hpending =>
              rcases TickEffect.mem_effects ho with rfl | rfl | ⟨hrestarted, rfl⟩
              · trivial
              · trivial
              · intro hi hstream
                obtain ⟨hmode, hup⟩ := restarted_wanted hrestarted
                have hheld := h.ticks i run hi hrun (key, r) (by simp [hpending]) hmode
                rw [hheld (.inl hstream)] at hup
                cases hup
  | reconcileStep i answer =>
      simp only [System.step, System.reconcileStep] at ho
      split at ho
      · cases ho
      · next reconcile hreconcile =>
          obtain ⟨mp, hmp, rfl⟩ := List.mem_map.mp ho
          rw [Option.mem_toList] at hmp
          have hspared := Reconcile.step_spares answer s.janus
            (h.reconciles _ (List.mem_of_getElem? hreconcile))
            (by simpa [Spares, hreconcile] using hspares)
          rintro rfl
          exact hspared.2 hmp

end Window

/-! ## Stops that stick -/

/-- A stop is at its last write, of a row that is there; no other row of its encoder is
wanted up, and no reconcile that is under way has still to ensure its mountpoint. -/
structure CleanStop (s : System) (i : ℕ) (stop : StopRun) (b : StreamBinding) : Prop where
  inProgress : s.stops[i]? = some stop
  last : stop.pc = .setDesiredUp
  row : s.stores.topology.bindings[stop.bindingId]? = some b
  others : ∀ (key : String) r, key ≠ stop.bindingId → s.stores.topology.bindings[key]? = some r →
    r.stream = b.stream → r.desiredUp = false
  underWay : ∀ r ∈ s.reconciles, ¬ r.Ensures b.janus.mountpointId

section Stop

variable {s : System} {i : ℕ} {stop : StopRun} {b : StreamBinding}

/-- The last write of a clean stop. -/
theorem CleanStop.step_eq (h : CleanStop s i stop b) :
    s.stopStep i false =
      ({ s with
          stops := s.stops.set i { stop with pc := .returned true }
          stores := s.stores.setTopology { s.stores.topology with
            bindings := s.stores.topology.bindings.insert stop.bindingId
              { b with desiredUp := false } } },
        [.stopped stop.bindingId]) := by
  simp [System.stopStep, h.inProgress, StopRun.step, h.last, TopologyState.setDesiredUp,
    TopologyState.updateBinding, h.row]

/-- After a clean stop things are quiet. -/
theorem CleanStop.quiet (h : CleanStop s i stop b) (hsound : s.stores.Sound) :
    Quiet s.ticks.length b (s.stopStep i false).1 := by
  rw [h.step_eq]
  refine ⟨?_, le_refl _, ?_, h.underWay⟩
  · intro key r hr
    simp only [Stores.topology_setTopology] at hr
    rw [Dict.getElem?_insert] at hr
    split at hr
    · cases hr
      exact fun _ => rfl
    · next hne =>
        rintro (hstream | hmp)
        · exact h.others key r (Ne.symm hne) hr hstream
        · exact absurd hmp.symm (hsound.bindings.apart _ _ b r hne h.row hr).1
  · intro j run hj hrun
    have hlength := (List.getElem?_eq_some_iff.mp hrun).1
    simp only at hlength
    omega

end Stop

/-- Once a clean stop has returned, no tick that starts later restarts the encoder of the
binding and no reconcile creates its mountpoint, in every interleaving of stops, ticks,
reconciles, maintenance toggles and restarts of Janus in which the triggered reconciles
take the binding for stopped or find its mountpoint there. -/
theorem clean_stop_sticks (cfg : MonitorConfig) (lan : LanConfig) (before after : List Event)
    (i : ℕ) (stop : StopRun) (b : StreamBinding)
    (hclean : CleanStop ((systemMachine cfg lan).run {} before) i stop b)
    (hwindow : ∀ e ∈ after, InWindow e)
    (hspares : (systemMachine cfg lan).Along (Spares b.janus.mountpointId)
      ((systemMachine cfg lan).run {} (before ++ [.stopStep i false])) after) :
    .stopped stop.bindingId ∈ (systemMachine cfg lan).emits
        ((systemMachine cfg lan).run {} before) (.stopStep i false) ∧
      ∀ o ∈ (systemMachine cfg lan).trace
          ((systemMachine cfg lan).run {} (before ++ [.stopStep i false])) after,
        Sticks ((systemMachine cfg lan).run {} before).ticks.length b o := by
  have hquiet := hclean.quiet (System.sound_run cfg lan before)
  have hreturned : Effect.stopped stop.bindingId ∈
      (((systemMachine cfg lan).run {} before).stopStep i false).2 := by
    rw [hclean.step_eq]
    exact List.mem_cons_self
  refine ⟨hreturned, ?_⟩
  rw [Machine.run_append] at hspares ⊢
  have hevents := (systemMachine cfg lan).along_of_forall (fun e he _ => hwindow e he)
    ((systemMachine cfg lan).run ((systemMachine cfg lan).run {} before) [.stopStep i false])
  exact (systemMachine cfg lan).trace_forall
    (G := fun s e => InWindow e ∧ Spares b.janus.mountpointId s e)
    (I := Quiet ((systemMachine cfg lan).run {} before).ticks.length b)
    (fun s e h hguard => h.step cfg lan hguard.1 hguard.2)
    (fun s e h hguard => h.emits cfg lan hguard.2)
    (Machine.Along.and _ hevents hspares) hquiet

/-- A stream of a node. -/
def doorColor : StreamBinding where
  bindingId := "door:color"
  nodeId := "door"
  sensor := "color"
  mode := .remoteProducer
  transport := { rtpPort := 5100 }
  janus := { mountpointId := 2000, rtpIface := "192.168.1.10" }

/-- The stream is created, and the operator has it stopped up to the last write. -/
def stopping : List Event :=
  [.store (.upsertNode "door" "192.168.1.20" "remote_producer" "unknown" none none "token"),
    .store (.upsertBinding doorColor 1305), .stopBegin "door:color" true, .stopStep 0 false]

/-- A tick of the monitor, then a triggered reconcile. -/
def tickThenRunOnce : List Event :=
  [.tickBegin 100, .tickStep 0 {}, .runOnceBegin, .reconcileStep 0 {}, .reconcileStep 0 {}]

/-- A tick overwrites the status the stop wrote, and the triggered reconcile creates the
mountpoint of the stopped binding. -/
theorem stopped_mountpoint_created :
    Effect.stopped "door:color" ∈ (systemMachine {} {}).emits
        ((systemMachine {} {}).run {} stopping) (.stopStep 0 false) ∧
      (∀ e ∈ tickThenRunOnce, InWindow e) ∧
      Effect.created 0 2000 ∈ (systemMachine {} {}).trace
        ((systemMachine {} {}).run {} (stopping ++ [.stopStep 0 false])) tickThenRunOnce := by
  refine ⟨?_, ?_, ?_⟩
  · decide +kernel
  · decide
  · decide +kernel

/-- Maintenance of the node, switched on after the stop. -/
def serviced : List Event :=
  [.store (.setMaintenance "door" true), .tickBegin 100, .tickStep 0 {}, .reconcileJanusBegin,
    .reconcileStep 0 {}, .runOnceBegin, .reconcileStep 1 {}, .reconcileStep 1 {}]

/-- While the node is under maintenance the stop sticks. -/
theorem serviced_stop_sticks :
    Effect.stopped "door:color" ∈ (systemMachine {} {}).emits
        ((systemMachine {} {}).run {} stopping) (.stopStep 0 false) ∧
      ∀ o ∈ (systemMachine {} {}).trace
          ((systemMachine {} {}).run {} (stopping ++ [.stopStep 0 false])) serviced,
        Sticks 0 doorColor o := by
  have hrows : ((systemMachine {} {}).run {} stopping).stores.topology.bindings.toList =
      [("door:color", doorColor)] := by decide +kernel
  have hclean : CleanStop ((systemMachine {} {}).run {} stopping) 0
      { bindingId := "door:color", pc := .setDesiredUp } doorColor := by
    refine ⟨rfl, rfl, ?_, ?_, ?_⟩
    · apply Std.ExtTreeMap.mem_toList_iff_getElem?_eq_some.mp
      rw [hrows]
      exact List.mem_cons_self
    · intro key r hne hr
      have hmem := Std.ExtTreeMap.mem_toList_iff_getElem?_eq_some.mpr hr
      rw [hrows, List.mem_singleton] at hmem
      exact absurd (congrArg Prod.fst hmem) hne
    · intro r hr
      cases hr
  exact clean_stop_sticks {} {} stopping serviced 0 _ doorColor hclean (by decide)
    (by decide +kernel)

end CameraStack.Streams
