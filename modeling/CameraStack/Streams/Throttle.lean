/-
# The throttles of the remote stream monitor

A tick goes through the bindings it read and leaves an observation of every binding it
watched.  What the monitor remembers of a binding is a summary of its observations: whether
the last one and whether any was healthy, and when it last alerted and last recovered.  Both
throttles are read off the observations through that summary.

A tick that raises stops at the binding where it raised, which is a tick with fewer bindings;
an action that was decided and then failed counts as issued.
-/

import CameraStack.Streams.Monitor

namespace CameraStack.Streams

open CameraStack.Lib CameraStack.Topology

/-! ## Ticks -/

/-- One iteration of the loop of `tick`. -/
structure TickStep where
  now : ℚ
  nodes : Dict NodeEntry
  key : String
  binding : StreamBinding
  answer : TickAnswer

/-- What a tick saw of a binding it watched, and what it did about it. -/
structure Observation where
  now : ℚ
  key : String
  binding : StreamBinding
  node : Option NodeEntry
  healthy : Bool
  alerted : Bool
  recovered : Bool
  deriving DecidableEq

/-- The monitor, iteration after iteration. -/
def stepMachine (cfg : MonitorConfig) : Machine Watch TickStep Observation where
  step w s :=
    let node := s.nodes[s.binding.nodeId]?
    let (effect, w') := tickBinding cfg s.now s.nodes s.key s.binding s.answer w
    (w', if watched s.binding node then
        [{ now := s.now, key := s.key, binding := s.binding, node := node
           healthy := isHealthy cfg s.answer.videoAgeMs
           alerted := effect.alerted
           recovered := effect.created || effect.restarted }]
      else [])

/-- A tick: what it read, and what it is answered at one binding after the other. -/
structure Tick where
  run : TickRun
  answers : List TickAnswer

/-- The iterations of a tick. -/
def Tick.steps (t : Tick) : List TickStep :=
  (t.run.pending.zip t.answers).map fun entry =>
    { now := t.run.now, nodes := t.run.nodes, key := entry.1.1, binding := entry.1.2
      answer := entry.2 }

/-- `tick`, over and over. -/
def tickMachine (cfg : MonitorConfig) : Machine Watch Tick Observation where
  step w t := ((stepMachine cfg).run w t.steps, (stepMachine cfg).trace w t.steps)

/-- Ticks are their iterations. -/
theorem trace_tickMachine (cfg : MonitorConfig) (w : Watch) (ticks : List Tick) :
    (tickMachine cfg).trace w ticks = (stepMachine cfg).trace w (ticks.flatMap Tick.steps) := by
  induction ticks generalizing w with
  | nil => rfl
  | cons t ticks ih =>
      rw [Machine.trace_cons, List.flatMap_cons, Machine.trace_append, ih]
      rfl

/-! ## One iteration -/

/-- What the monitor remembers after one more observation. -/
def recollectOne (prev : Option BindingState) (o : Observation) : BindingState :=
  let st := prev.getD {}
  { everHealthy := st.everHealthy || o.healthy
    healthy := some o.healthy
    lastAlertMono := if o.alerted then o.now else st.lastAlertMono
    lastConvergeMono := if o.recovered then o.now else st.lastConvergeMono }

/-- What the monitor remembers of a binding after these observations of it. -/
def recollect (history : List Observation) : Option BindingState :=
  history.foldl (fun st o => some (recollectOne st o)) none

/-- Only a binding that the monitor may act on is acted on. -/
def Observation.MayAct (o : Observation) : Prop :=
  o.binding.mode = .remoteProducer ∧ TopologyState.remoteMpMin ≤ o.binding.janus.mountpointId ∧
    (∀ node, o.node = some node → node.maintenance = false) ∧
    o.binding.desiredUp = true ∧ o.binding.fdir.enabled = true

/-- What holds of an observation that follows these observations of the same binding. -/
structure Follows (cfg : MonitorConfig) (history : List Observation) (o : Observation) : Prop where
  mayAct : o.alerted = true ∨ o.recovered = true → o.MayAct ∧ o.healthy = false
  alerted : o.alerted = true → ∃ st, recollect history = some st ∧ st.everHealthy = true ∧
    (st.healthy = some true ∨ cfg.heartbeatSec ≤ o.now - st.lastAlertMono)
  recovered : o.recovered = true → ∀ st, recollect history = some st →
    st.healthy = some true ∨ cfg.bringupThrottleSec ≤ o.now - st.lastConvergeMono

/-- The memory summarises the observations. -/
def Remembers (w : Watch) (past : List Observation) : Prop :=
  ∀ key, w.memory[key]? = recollect (past.filter fun o => o.key = key)

/-- The observation of an iteration. -/
def TickStep.observation (cfg : MonitorConfig) (w : Watch) (s : TickStep) : Observation :=
  let node := s.nodes[s.binding.nodeId]?
  let prev := w.memory[s.key]?
  { now := s.now
    key := s.key
    binding := s.binding
    node := node
    healthy := isHealthy cfg s.answer.videoAgeMs
    alerted := escalate s.binding (evaluate cfg s.answer.videoAgeMs s.now prev)
    recovered := converge cfg s.binding node s.now prev s.answer }

theorem healthy_evaluate (cfg : MonitorConfig) (age : Option ℚ) (now : ℚ)
    (prev : Option BindingState) : (evaluate cfg age now prev).healthy = isHealthy cfg age := by
  unfold evaluate
  split_ifs with hhealthy
  · exact hhealthy.symm
  · simp only [Bool.not_eq_true] at hhealthy
    rw [hhealthy]
    cases prev with
    | none => rfl
    | some prev =>
        simp only
        split
        · rfl
        · rfl

/-- A recovery creates the mountpoint or restarts the node. -/
theorem recovered_recover (b : StreamBinding) (answer : JanusAnswer) (janus : Janus) :
    ((recover b answer janus).1.created || (recover b answer janus).1.restarted) = true := by
  unfold recover
  simp only
  split
  · rfl
  · rfl

/-- One iteration: the binding is passed over, or it is observed and remembered. -/
theorem stepMachine_cases (cfg : MonitorConfig) (w : Watch) (s : TickStep) :
    ((stepMachine cfg).emits w s = [] ∧ (stepMachine cfg).next w s = w) ∨
      watched s.binding s.nodes[s.binding.nodeId]? = true ∧
        (stepMachine cfg).emits w s = [s.observation cfg w] ∧
        ((stepMachine cfg).next w s).memory =
          w.memory.insert s.key (recollectOne w.memory[s.key]? (s.observation cfg w)) := by
  by_cases hwatched : watched s.binding s.nodes[s.binding.nodeId]? = true
  · right
    refine ⟨hwatched, ?_⟩
    have hhealthy := healthy_evaluate cfg s.answer.videoAgeMs s.now w.memory[s.key]?
    by_cases hconverged : converge cfg s.binding s.nodes[s.binding.nodeId]? s.now w.memory[s.key]?
        s.answer = true
    · have hacted := recovered_recover s.binding s.answer.janus w.janus
      constructor
      · simp [Machine.emits, stepMachine, tickBinding, hwatched, hconverged,
          TickStep.observation, hacted]
      · simp [Machine.next, stepMachine, tickBinding, hwatched, hconverged,
          TickStep.observation, recollectOne, remember, hhealthy]
    · simp only [Bool.not_eq_true] at hconverged
      constructor
      · simp [Machine.emits, stepMachine, tickBinding, hwatched, hconverged,
          TickStep.observation]
      · simp [Machine.next, stepMachine, tickBinding, hwatched, hconverged,
          TickStep.observation, recollectOne, remember, hhealthy]
  · left
    simp [Machine.emits, Machine.next, stepMachine, tickBinding, hwatched]

/-- An alert: the binding was healthy once, and either just now or the heartbeat is due. -/
theorem alert_evaluate {cfg : MonitorConfig} {age : Option ℚ} {now : ℚ}
    {prev : Option BindingState} (h : (evaluate cfg age now prev).alert = true) :
    isHealthy cfg age = false ∧ ∃ st, prev = some st ∧ st.everHealthy = true ∧
      (st.healthy = some true ∨ cfg.heartbeatSec ≤ now - st.lastAlertMono) := by
  unfold evaluate at h
  split_ifs at h with hhealthy
  · simp only [Bool.not_eq_true] at hhealthy
    refine ⟨hhealthy, ?_⟩
    cases prev with
    | none => cases h
    | some st =>
        simp only at h
        split at h
        · cases h
        · next hever =>
            simp only [Bool.or_eq_true, decide_eq_true_eq] at h
            exact ⟨st, rfl, by simpa using hever, h⟩

/-- A recovery: the binding is not healthy, wanted up and recovers by itself, and it either
was healthy just now or the throttle is over. -/
theorem converge_cases {cfg : MonitorConfig} {b : StreamBinding} {node : Option NodeEntry}
    {now : ℚ} {prev : Option BindingState} {answer : TickAnswer}
    (h : converge cfg b node now prev answer = true) :
    (b.desiredUp = true ∧ b.fdir.enabled = true) ∧ isHealthy cfg answer.videoAgeMs = false ∧
      ∀ st, prev = some st →
        st.healthy = some true ∨ cfg.bringupThrottleSec ≤ now - st.lastConvergeMono := by
  simp only [converge, Bool.and_eq_true, Bool.not_eq_true', Bool.or_eq_true,
    decide_eq_true_eq] at h
  obtain ⟨⟨⟨⟨hup, henabled⟩, hhealthy⟩, hdue⟩, -⟩ := h
  refine ⟨⟨hup, henabled⟩, hhealthy, ?_⟩
  rintro st rfl
  simpa using hdue

/-- An iteration leaves an observation that follows the earlier ones of its binding. -/
theorem follows_observation {cfg : MonitorConfig} {w : Watch} {past : List Observation}
    (hpast : Remembers w past) {s : TickStep}
    (hwatched : watched s.binding s.nodes[s.binding.nodeId]? = true) :
    Follows cfg (past.filter fun o => o.key = s.key) (s.observation cfg w) := by
  have hprev := hpast s.key
  simp only [watched, Bool.and_eq_true, Bool.not_eq_true', decide_eq_true_eq] at hwatched
  obtain ⟨⟨hmode, hmaintenance⟩, hmp⟩ := hwatched
  have hnode : ∀ node, s.nodes[s.binding.nodeId]? = some node → node.maintenance = false := by
    intro node hnode
    simpa [hnode] using hmaintenance
  have halert : (s.observation cfg w).alerted = true →
      (s.binding.desiredUp = true ∧ s.binding.fdir.enabled = true) ∧
        (evaluate cfg s.answer.videoAgeMs s.now w.memory[s.key]?).alert = true := by
    intro h
    simpa only [TickStep.observation, escalate, Bool.and_eq_true] using h
  constructor
  · rintro (h | h)
    · obtain ⟨⟨hup, henabled⟩, h⟩ := halert h
      exact ⟨⟨hmode, hmp, hnode, hup, henabled⟩, (alert_evaluate h).1⟩
    · obtain ⟨⟨hup, henabled⟩, hhealthy, -⟩ := converge_cases h
      exact ⟨⟨hmode, hmp, hnode, hup, henabled⟩, hhealthy⟩
  · intro h
    obtain ⟨st, hst, hever, hdue⟩ := (alert_evaluate (halert h).2).2
    exact ⟨st, hprev.symm.trans hst, hever, hdue⟩
  · intro h st hst
    exact (converge_cases h).2.2 st (hprev.trans hst)

/-! ## Runs -/

/-- An observation extends the memory of its binding and of no other. -/
theorem Remembers.insert {w w' : Watch} {past : List Observation} (hpast : Remembers w past)
    {o : Observation} (hmemory : w'.memory = w.memory.insert o.key (recollectOne w.memory[o.key]? o)) :
    Remembers w' (past ++ [o]) := by
  intro key
  rw [hmemory, Dict.getElem?_insert, List.filter_append]
  by_cases hkey : o.key = key
  · subst hkey
    rw [if_pos rfl, hpast o.key]
    simp [recollect, List.foldl_append]
  · rw [if_neg hkey, hpast key]
    simp [hkey]

/-- Every observation of a run follows the earlier ones of its binding. -/
theorem follows_of_trace {cfg : MonitorConfig} {w : Watch} {past : List Observation}
    (hpast : Remembers w past) {steps : List TickStep} {first rest : List Observation}
    {o : Observation} (htrace : (stepMachine cfg).trace w steps = first ++ o :: rest) :
    Follows cfg ((past ++ first).filter fun o' => o'.key = o.key) o := by
  induction steps generalizing w past first with
  | nil => simp at htrace
  | cons s steps ih =>
      rw [Machine.trace_cons] at htrace
      rcases stepMachine_cases cfg w s with ⟨hemits, hnext⟩ | ⟨hwatched, hemits, hmemory⟩
      · rw [hemits, hnext] at htrace
        exact ih hpast htrace
      · rw [hemits] at htrace
        cases first with
        | nil =>
            obtain ⟨rfl, -⟩ := List.cons.inj htrace
            rw [List.append_nil]
            exact follows_observation hpast hwatched
        | cons o' first =>
            obtain ⟨rfl, hrest⟩ := List.cons.inj htrace
            have hnext := ih (hpast.insert (o := s.observation cfg w) hmemory) hrest
            rwa [List.append_assoc] at hnext

/-- The observations of a run carry the instants of its iterations. -/
theorem now_trace_sublist (cfg : MonitorConfig) (w : Watch) (steps : List TickStep) :
    (((stepMachine cfg).trace w steps).map Observation.now).Sublist (steps.map TickStep.now) := by
  induction steps generalizing w with
  | nil => exact List.Sublist.refl []
  | cons s steps ih =>
      rw [Machine.trace_cons, List.map_cons]
      rcases stepMachine_cases cfg w s with ⟨hemits, -⟩ | ⟨-, hemits, -⟩
      · rw [hemits]
        exact (ih _).cons _
      · rw [hemits]
        exact (ih _).cons_cons _

/-- With a clock that does not go back, later observations have later instants. -/
theorem now_trace_pairwise {cfg : MonitorConfig} {w : Watch} {ticks : List Tick}
    (hclock : (ticks.map fun t => t.run.now).Pairwise (· ≤ ·)) :
    ((tickMachine cfg).trace w ticks).Pairwise fun o o' => o.now ≤ o'.now := by
  have hsteps : (ticks.flatMap Tick.steps).Pairwise fun s s' => s.now ≤ s'.now := by
    have hnow : ∀ (t : Tick), ∀ s ∈ t.steps, s.now = t.run.now := by
      intro t s hs
      obtain ⟨entry, -, rfl⟩ := List.mem_map.mp hs
      rfl
    rw [List.pairwise_flatMap]
    constructor
    · intro t _
      apply List.pairwise_of_forall_mem_list
      intro s hs s' hs'
      rw [hnow t s hs, hnow t s' hs']
    · refine (List.pairwise_map.mp hclock).imp ?_
      intro t t' hle s hs s' hs'
      rw [hnow t s hs, hnow t' s' hs']
      exact hle
  rw [trace_tickMachine, ← List.pairwise_map (R := fun a b => a ≤ b) (f := Observation.now)]
  exact (List.pairwise_map.mpr hsteps).sublist (now_trace_sublist cfg w _)

/-! ## What the memory says of the observations -/

/-- A binding is remembered to have been healthy only if it was. -/
theorem exists_healthy_of_recollect {history : List Observation} {st : BindingState}
    (hrecall : recollect history = some st) (hever : st.everHealthy = true) :
    ∃ o ∈ history, o.healthy = true := by
  induction history using List.reverseRecOn generalizing st with
  | nil => cases hrecall
  | append_singleton history o ih =>
      rw [recollect, List.foldl_append] at hrecall
      have hst : recollectOne (recollect history) o = st := Option.some.inj hrecall
      rw [← hst] at hever
      simp only [recollectOne, Bool.or_eq_true] at hever
      rcases hever with hbefore | hnow
      · cases hprev : recollect history with
        | none =>
            rw [hprev] at hbefore
            cases hbefore
        | some prev =>
            rw [hprev] at hbefore
            obtain ⟨o', ho', hhealthy⟩ := ih hprev hbefore
            exact ⟨o', List.mem_append_left _ ho', hhealthy⟩
      · exact ⟨o, List.mem_append_right _ (List.mem_singleton_self o), hnow⟩

/-- Nothing healthy since an instant, and the two stamps not before it. -/
structure QuietSince (t : ℚ) (alert converge : Bool) (st : BindingState) : Prop where
  healthy : st.healthy = some false
  alerted : alert = true → t ≤ st.lastAlertMono
  recovered : converge = true → t ≤ st.lastConvergeMono

/-- Observations that are not healthy keep it quiet. -/
theorem quietSince_recollect {t : ℚ} {alert converge : Bool} {first mid : List Observation}
    {o : Observation} (ho : QuietSince t alert converge (recollectOne (recollect first) o))
    (hmid : ∀ o' ∈ mid, o'.healthy = false ∧ t ≤ o'.now) :
    ∃ st, recollect (first ++ o :: mid) = some st ∧ QuietSince t alert converge st := by
  induction mid using List.reverseRecOn with
  | nil =>
      refine ⟨_, ?_, ho⟩
      simp [recollect, List.foldl_append]
  | append_singleton mid o' ih =>
      obtain ⟨st, hrecall, hst⟩ := ih fun o'' ho'' => hmid o'' (List.mem_append_left _ ho'')
      obtain ⟨hhealthy, hnow⟩ := hmid o' (List.mem_append_right _ (List.mem_singleton_self o'))
      refine ⟨recollectOne (some st) o', ?_, ?_⟩
      · rw [← List.cons_append, ← List.append_assoc, recollect, List.foldl_append]
        exact congrArg (fun prev => some (recollectOne prev o')) hrecall
      · constructor
        · simp [recollectOne, hhealthy]
        · intro halert
          simp only [recollectOne, Option.getD_some]
          split_ifs
          · exact hnow
          · exact hst.alerted halert
        · intro hconverge
          simp only [recollectOne, Option.getD_some]
          split_ifs
          · exact hnow
          · exact hst.recovered hconverge

/-- Between an action on a binding and a later observation of it, nothing healthy leaves the
memory quiet since the action. -/
theorem quietSince_of_action {cfg : MonitorConfig} {w : Watch} (hempty : w.memory = ∅)
    {ticks : List Tick} (hclock : (ticks.map fun t => t.run.now).Pairwise (· ≤ ·))
    {first mid rest : List Observation} {o₁ o₂ : Observation}
    (htrace : (tickMachine cfg).trace w ticks = first ++ o₁ :: mid ++ o₂ :: rest)
    (hkey : o₁.key = o₂.key) (hacted : o₁.alerted = true ∨ o₁.recovered = true)
    (hmid : ¬ ∃ o ∈ mid, o.key = o₁.key ∧ o.healthy = true) :
    ∃ st, recollect ((first ++ o₁ :: mid).filter fun o => o.key = o₂.key) = some st ∧
      QuietSince o₁.now o₁.alerted o₁.recovered st := by
  have hpast : Remembers w [] := by
    intro key
    rw [hempty]
    exact Std.ExtTreeMap.getElem?_empty
  have hsteps := htrace
  rw [trace_tickMachine, List.append_assoc, List.cons_append] at hsteps
  have hfirst := follows_of_trace hpast hsteps
  have hhealthy := (hfirst.mayAct hacted).2
  have hlater : ∀ o ∈ mid, o₁.now ≤ o.now := by
    have hpairwise : ((tickMachine cfg).trace w ticks).Pairwise fun o o' => o.now ≤ o'.now :=
      now_trace_pairwise hclock
    rw [htrace, List.append_assoc, List.pairwise_append] at hpairwise
    intro o ho
    exact (List.pairwise_cons.mp hpairwise.2.1).1 o (List.mem_append_left _ ho)
  rw [List.filter_append, List.filter_cons_of_pos (by simpa using hkey)]
  apply quietSince_recollect
  · constructor
    · simp [recollectOne, hhealthy]
    · intro h
      simp [recollectOne, h]
    · intro h
      simp [recollectOne, h]
  · intro o ho
    obtain ⟨ho, hsame⟩ := List.mem_filter.mp ho
    refine ⟨?_, hlater o ho⟩
    by_contra h
    exact hmid ⟨o, ho, (of_decide_eq_true hsame).trans hkey.symm, by simpa using h⟩

/-- Over every run of ticks from the start, whatever the tables and the answers: only a
binding that the monitor may act on is alerted or recovered, an alert follows a healthy
observation of its binding, and two alerts, and two recoveries, of one binding are an
interval apart or have a healthy observation of it between them. -/
theorem monitor_throttled (cfg : MonitorConfig) (topology : TopologyState) (janus : Janus)
    (ticks : List Tick) (hclock : (ticks.map fun t => t.run.now).Pairwise (· ≤ ·)) :
    let trace := (tickMachine cfg).trace { topology, janus, memory := ∅ } ticks
    (∀ o ∈ trace, o.alerted = true ∨ o.recovered = true → o.MayAct) ∧
      (∀ first o rest, trace = first ++ o :: rest → o.alerted = true →
        ∃ o' ∈ first, o'.key = o.key ∧ o'.healthy = true) ∧
      (∀ first o₁ mid o₂ rest, trace = first ++ o₁ :: mid ++ o₂ :: rest → o₁.key = o₂.key →
        o₁.alerted = true → o₂.alerted = true →
        cfg.heartbeatSec ≤ o₂.now - o₁.now ∨ ∃ o ∈ mid, o.key = o₁.key ∧ o.healthy = true) ∧
      ∀ first o₁ mid o₂ rest, trace = first ++ o₁ :: mid ++ o₂ :: rest → o₁.key = o₂.key →
        o₁.recovered = true → o₂.recovered = true →
        cfg.bringupThrottleSec ≤ o₂.now - o₁.now ∨
          ∃ o ∈ mid, o.key = o₁.key ∧ o.healthy = true := by
  intro trace
  have hpast : Remembers { topology, janus, memory := ∅ } [] :=
    fun key => Std.ExtTreeMap.getElem?_empty
  have hfollows : ∀ {first o rest}, trace = first ++ o :: rest →
      Follows cfg (first.filter fun o' => o'.key = o.key) o := by
    intro first o rest htrace
    exact follows_of_trace hpast ((trace_tickMachine _ _ _).symm.trans htrace)
  refine ⟨?_, ?_, ?_, ?_⟩
  · intro o ho hacted
    obtain ⟨first, rest, htrace⟩ := List.append_of_mem ho
    exact ((hfollows htrace).mayAct hacted).1
  · intro first o rest htrace halert
    obtain ⟨st, hrecall, hever, -⟩ := (hfollows htrace).alerted halert
    obtain ⟨o', ho', hhealthy⟩ := exists_healthy_of_recollect hrecall hever
    obtain ⟨hmem, hkey⟩ := List.mem_filter.mp ho'
    exact ⟨o', hmem, of_decide_eq_true hkey, hhealthy⟩
  · intro first o₁ mid o₂ rest htrace hkey h₁ h₂
    by_contra hneither
    obtain ⟨hsoon, hmid⟩ := not_or.mp hneither
    obtain ⟨st, hrecall, hquiet⟩ :=
      quietSince_of_action rfl hclock htrace hkey (.inl h₁) hmid
    obtain ⟨st', hrecall', -, hdue⟩ := (hfollows htrace).alerted h₂
    obtain rfl : st = st' := Option.some.inj (hrecall.symm.trans hrecall')
    rcases hdue with hhealthy | hdue
    · rw [hquiet.healthy] at hhealthy
      cases hhealthy
    · have hstamp := hquiet.alerted h₁
      linarith
  · intro first o₁ mid o₂ rest htrace hkey h₁ h₂
    by_contra hneither
    obtain ⟨hsoon, hmid⟩ := not_or.mp hneither
    obtain ⟨st, hrecall, hquiet⟩ :=
      quietSince_of_action rfl hclock htrace hkey (.inr h₁) hmid
    rcases (hfollows htrace).recovered h₂ st hrecall with hhealthy | hdue
    · rw [hquiet.healthy] at hhealthy
      cases hhealthy
    · have hstamp := hquiet.recovered h₁
      linarith

/-- A remote color stream. -/
def colorBinding : StreamBinding where
  bindingId := "cam55:color"
  nodeId := "cam55"
  sensor := "color"
  mode := .remoteProducer
  transport := { rtpPort := 5100 }
  janus := { mountpointId := 2000, rtpIface := "192.168.1.10" }

/-- Its node. -/
def colorNode : NodeEntry where
  nodeId := "cam55"
  host := "192.168.1.55"
  role := "remote_producer"

/-- A tick at an instant that reads this age of the video. -/
def colorTick (now : ℚ) (videoAgeMs : Option ℚ) : Tick where
  run := { now := now, nodes := (∅ : Dict NodeEntry).insert "cam55" colorNode
           pending := [("cam55:color", colorBinding)] }
  answers := [{ videoAgeMs := videoAgeMs, reachable := true }]

/-- What such a tick sees. -/
def colorObservation (now : ℚ) (healthy alerted recovered : Bool) : Observation where
  now := now
  key := "cam55:color"
  binding := colorBinding
  node := some colorNode
  healthy := healthy
  alerted := alerted
  recovered := recovered

/-- A stream that stops: an alert and a recovery at once, one more recovery, and the next
alert with the heartbeat. -/
theorem monitor_throttled_regression :
    (tickMachine {}).trace { topology := {}, janus := ∅, memory := ∅ }
        [colorTick 0 (some 40), colorTick 10 none, colorTick 40 none, colorTick 320 none] =
      [colorObservation 0 true false false] ++ colorObservation 10 false true true ::
        [colorObservation 40 false false true] ++ colorObservation 320 false true true :: [] ∧
      ((300 : ℚ) ≤ 320 - 10 ∨ ∃ o ∈ [colorObservation 40 false false true],
        o.key = "cam55:color" ∧ o.healthy = true) := by
  have htrace : (tickMachine {}).trace { topology := {}, janus := ∅, memory := ∅ }
        [colorTick 0 (some 40), colorTick 10 none, colorTick 40 none, colorTick 320 none] =
      [colorObservation 0 true false false] ++ colorObservation 10 false true true ::
        [colorObservation 40 false false true] ++ colorObservation 320 false true true :: [] := by
    decide +kernel
  refine ⟨htrace, ?_⟩
  exact (monitor_throttled {} {} ∅
    [colorTick 0 (some 40), colorTick 10 none, colorTick 40 none, colorTick 320 none]
    (by decide +kernel)).2.2.1 _ _ _ _ _ htrace rfl rfl rfl

end CameraStack.Streams
