/-
# The remote stream monitor

A tick reads the stored bindings and the nodes once and then goes through the remote
bindings.  For each it reads the age of the video from Janus, persists the status it
observed, and recovers or alerts: both only for a binding that is wanted up and has
auto-recovery on.  What it remembers of a binding between ticks is when it last
alerted, when it last recovered and whether it was healthy.

`TickRun` is a tick between two bindings.  Whatever the environment decides (the age
of the video, whether the node answers, what Janus answers) travels with the step.
-/

import CameraStack.Streams.Provision

namespace CameraStack.Streams

open CameraStack.Lib CameraStack.Topology

/-! ## The decision -/

/-- The settings of the monitor. -/
structure MonitorConfig where
  staleMs : ℚ := 4000
  heartbeatSec : ℚ := 300
  bringupThrottleSec : ℚ := 20

/-- `_BindingState`. -/
structure BindingState where
  everHealthy : Bool := false
  healthy : Option Bool := none
  lastAlertMono : ℚ := 0
  lastConvergeMono : ℚ := 0
  deriving DecidableEq

/-- `MonitorDecision`. -/
structure MonitorDecision where
  status : StreamStatus
  alert : Bool
  healthy : Bool
  deriving DecidableEq

/-- An age that is a number and not too high. -/
def isHealthy (cfg : MonitorConfig) (videoAgeMs : Option ℚ) : Bool :=
  match videoAgeMs with
  | some age => age ≤ cfg.staleMs
  | none => false

/-- `evaluate`. -/
def evaluate (cfg : MonitorConfig) (videoAgeMs : Option ℚ) (now : ℚ)
    (prev : Option BindingState) : MonitorDecision :=
  if isHealthy cfg videoAgeMs then { status := .online, alert := false, healthy := true }
  else
    match prev with
    | none => { status := .waitingForRtp, alert := false, healthy := false }
    | some prev =>
        if !prev.everHealthy then { status := .waitingForRtp, alert := false, healthy := false }
        else
          { status := .degraded
            alert := prev.healthy = some true || cfg.heartbeatSec ≤ now - prev.lastAlertMono
            healthy := false }

/-! ## One binding of a tick -/

/-- What the environment answers while a tick is at one binding. -/
structure TickAnswer where
  videoAgeMs : Option ℚ := none
  reachable : Bool := false
  janus : JanusAnswer := {}

/-- A tick between two bindings: the instant it started at and what it read. -/
structure TickRun where
  now : ℚ
  nodes : Dict NodeEntry
  pending : List (String × StreamBinding)

/-- A binding that is watched: a remote one, in the remote range, of a node that is not
under maintenance. -/
def watched (b : StreamBinding) (node : Option NodeEntry) : Bool :=
  b.mode = .remoteProducer && !(node.any fun n => n.maintenance) &&
    TopologyState.remoteMpMin ≤ b.janus.mountpointId

/-- The `converge` of `tick`. -/
def converge (cfg : MonitorConfig) (b : StreamBinding) (node : Option NodeEntry) (now : ℚ)
    (prev : Option BindingState) (answer : TickAnswer) : Bool :=
  let justRegressed := prev.any fun st => st.healthy = some true
  let lastConverge := (prev.map BindingState.lastConvergeMono).getD 0
  let convergeDue := justRegressed || cfg.bringupThrottleSec ≤ now - lastConverge
  b.desiredUp && b.fdir.enabled && !isHealthy cfg answer.videoAgeMs && convergeDue &&
    (node.isSome && answer.reachable)

/-- The `escalate` of `tick`. -/
def escalate (b : StreamBinding) (decision : MonitorDecision) : Bool :=
  b.desiredUp && b.fdir.enabled && decision.alert

/-- What `tick` remembers of a binding. -/
def remember (prev : Option BindingState) (now : ℚ) (decision : MonitorDecision)
    (escalated converged : Bool) : BindingState :=
  let st := prev.getD {}
  { everHealthy := st.everHealthy || decision.healthy
    healthy := some decision.healthy
    lastAlertMono := if escalated then now else st.lastAlertMono
    lastConvergeMono := if converged then now else st.lastConvergeMono }

/-- What one iteration of a tick does outside the store. -/
structure TickEffect where
  alerted : Bool := false
  created : Bool := false
  restarted : Bool := false
  deriving DecidableEq

/-- The recovery of `_apply`: a mountpoint that had to be created was the fault, so the
node is restarted only where it was not. -/
def recover (b : StreamBinding) (answer : JanusAnswer) (janus : Janus) : TickEffect × Janus :=
  let (outcome, janus') := ensureJanus b answer janus
  if outcome.status = .created then ({ created := true }, janus')
  else ({ restarted := true }, janus')

/-- The state a tick works on: the topology, Janus and what the monitor remembers. -/
structure Watch where
  topology : TopologyState
  janus : Janus
  memory : Dict BindingState

/-- The body of the loop of `tick` for one binding, with `_apply`. -/
def tickBinding (cfg : MonitorConfig) (now : ℚ) (nodes : Dict NodeEntry) (key : String)
    (b : StreamBinding) (answer : TickAnswer) (w : Watch) : TickEffect × Watch :=
  let node := nodes[b.nodeId]?
  if watched b node then
    let prev := w.memory[key]?
    let decision := evaluate cfg answer.videoAgeMs now prev
    let converged := converge cfg b node now prev answer
    let escalated := escalate b decision
    let memory := w.memory.insert key (remember prev now decision escalated converged)
    -- a binding that was removed meanwhile has no status to write
    let topology := written w.topology (w.topology.setStatus b.bindingId decision.status)
    if converged then
      let (effect, janus) := recover b answer.janus w.janus
      ({ effect with alerted := escalated }, { topology, janus, memory })
    else ({ alerted := escalated }, { topology, janus := w.janus, memory })
  else ({}, w)

/-- The reads of `tick`. -/
def TickRun.start (now : ℚ) (s : Stores) : TickRun where
  now := now
  nodes := listNodes s.topology
  pending := s.listBindings

/-! ## What a tick touches -/

/-- Only a remote binding that is wanted up is recovered. -/
theorem restarted_wanted {cfg : MonitorConfig} {now : ℚ} {nodes : Dict NodeEntry}
    {key : String} {b : StreamBinding} {answer : TickAnswer} {w : Watch}
    (h : (tickBinding cfg now nodes key b answer w).1.restarted = true) :
    b.mode = .remoteProducer ∧ b.desiredUp = true := by
  unfold tickBinding at h
  simp only at h
  split at h
  · next hwatched =>
      split at h
      · next hconverged =>
          simp only [watched, Bool.and_eq_true, decide_eq_true_eq] at hwatched
          simp only [converge, Bool.and_eq_true] at hconverged
          exact ⟨hwatched.1.1, hconverged.1.1.1.1⟩
      · cases h
  · cases h

/-- In the store, a tick writes the status of the binding it is at. -/
theorem topology_tickBinding (cfg : MonitorConfig) (now : ℚ) (nodes : Dict NodeEntry)
    (key : String) (b : StreamBinding) (answer : TickAnswer) (w : Watch) :
    (tickBinding cfg now nodes key b answer w).2.topology = w.topology ∨
      ∃ status, (tickBinding cfg now nodes key b answer w).2.topology =
        written w.topology (w.topology.setStatus b.bindingId status) := by
  unfold tickBinding
  simp only
  split
  · right
    split
    · exact ⟨_, rfl⟩
    · exact ⟨_, rfl⟩
  · exact .inl rfl

end CameraStack.Streams
