/-
# One free-list over two stores

The allocator and the topology store are separate files with separate locks, and
the allocator never looks at the other one.  The machine below takes any operation
of either store, one at a time; an operation that raises leaves both files alone.

No slot is ever in use twice: inside each store because every operation is a move
of a store of slots, across the stores because the admissible slots of the two do
not meet.
-/

import CameraStack.Lib.Machine
import CameraStack.Topology.Store

namespace CameraStack.Topology

open CameraStack.Lib

/-- The two stores. -/
structure Stores where
  alloc : Allocator := ∅
  topology : TopologyState := {}

/-- Every slot in use, local and remote. -/
def Stores.slots (s : Stores) : List Slot :=
  s.alloc.slots ++ s.topology.bindings.toList.map fun entry => entry.2.slot

/-- The operations of the two stores, with what they draw from outside. -/
inductive StoreOp
  | allocate (serial sensor : String)
  | ensureColor (serial sensor : String)
  | setDesired (serial sensor : String) (active : Bool)
  | release (serial sensor : String)
  | migrateColorKey (serial : String)
  | upsertNode (nodeId host role reachability : String) (serial displayName : Option String)
      (mintedToken : String)
  | addNodeByHost (host role : String) (displayName : Option String)
      (mintedId mintedToken : String)
  | setReachability (nodeId reachability : String)
  | setSerial (nodeId serial : String)
  | setProvisionState (nodeId provisionState : String) (detail : Option String)
  | touchChecked (nodeId reachability : String) (now : ℚ)
  | setMaintenance (nodeId : String) (on : Bool)
  | setHostKey (nodeId hostKey : String)
  | setAgentToken (nodeId token : String)
  | removeNode (nodeId : String)
  | upsertBinding (binding : StreamBinding) (janusMountId : ℤ)
  | removeBinding (bindingId : String)
  | migrateRemoteBindingIds
  | setStatus (bindingId : String) (status : StreamStatus)
  | setFdirEnabled (bindingId : String) (enabled : Bool)
  | setDesiredUp (bindingId : String) (up : Bool)

/-- The state an operation leaves behind: the old one when it raised. -/
def written {ε α σ : Type} (old : σ) : Except ε (α × σ) → σ
  | .ok (_, new) => new
  | .error _ => old

namespace Stores

/-- Write the allocator's file. -/
def setAlloc (s : Stores) (alloc : Allocator) : Stores := { s with alloc := alloc }

/-- Write the topology's files. -/
def setTopology (s : Stores) (t : TopologyState) : Stores := { s with topology := t }

@[simp] theorem alloc_setTopology (s : Stores) (t : TopologyState) :
    (s.setTopology t).alloc = s.alloc := rfl

@[simp] theorem topology_setTopology (s : Stores) (t : TopologyState) :
    (s.setTopology t).topology = t := rfl

@[simp] theorem topology_setAlloc (s : Stores) (alloc : Allocator) :
    (s.setAlloc alloc).topology = s.topology := rfl

/-- One operation. -/
def apply (lan : LanConfig) (s : Stores) : StoreOp → Stores
  | .allocate serial sensor => s.setAlloc (written s.alloc (s.alloc.allocate serial sensor))
  | .ensureColor serial sensor =>
      s.setAlloc (written s.alloc (s.alloc.ensure serial sensor colorMpId colorRtpPort))
  | .setDesired serial sensor active =>
      s.setAlloc (written s.alloc (s.alloc.setDesired serial sensor active))
  | .release serial sensor => s.setAlloc (s.alloc.release serial sensor).2
  | .migrateColorKey serial => s.setAlloc (s.alloc.migrateColorKey serial).2
  | .upsertNode nodeId host role reachability serial displayName token =>
      s.setTopology (written s.topology
        (s.topology.upsertNode nodeId host role reachability serial displayName token))
  | .addNodeByHost host role displayName mintedId token =>
      s.setTopology (written s.topology
        (s.topology.addNodeByHost lan host role displayName mintedId token))
  | .setReachability nodeId reachability =>
      s.setTopology (written s.topology (s.topology.setReachability nodeId reachability))
  | .setSerial nodeId serial =>
      s.setTopology (written s.topology (s.topology.setSerial nodeId serial))
  | .setProvisionState nodeId provisionState detail =>
      s.setTopology (written s.topology
        (s.topology.setProvisionState nodeId provisionState detail))
  | .touchChecked nodeId reachability now =>
      s.setTopology (written s.topology (s.topology.touchChecked nodeId reachability now))
  | .setMaintenance nodeId on =>
      s.setTopology (written s.topology (s.topology.setMaintenance nodeId on))
  | .setHostKey nodeId hostKey =>
      s.setTopology (written s.topology (s.topology.setHostKey nodeId hostKey))
  | .setAgentToken nodeId token =>
      s.setTopology (written s.topology (s.topology.setAgentToken nodeId token))
  | .removeNode nodeId => s.setTopology (written s.topology (s.topology.removeNode nodeId))
  | .upsertBinding binding janusMountId =>
      s.setTopology (written s.topology
        (s.topology.upsertBinding binding s.alloc janusMountId))
  | .removeBinding bindingId => s.setTopology (s.topology.removeBinding bindingId).2
  | .migrateRemoteBindingIds => s.setTopology s.topology.migrateRemoteBindingIds.2
  | .setStatus bindingId status =>
      s.setTopology (written s.topology (s.topology.setStatus bindingId status))
  | .setFdirEnabled bindingId enabled =>
      s.setTopology (written s.topology (s.topology.setFdirEnabled bindingId enabled))
  | .setDesiredUp bindingId up =>
      s.setTopology (written s.topology (s.topology.setDesiredUp bindingId up))

end Stores

/-- The two stores under any sequence of operations. -/
def storeMachine (lan : LanConfig) : Machine Stores StoreOp Empty where
  step s op := (s.apply lan op, [])

/-- The one operation that puts a new slot into the topology. -/
def StoreOp.writesBinding : StoreOp → Bool
  | .upsertBinding _ _ => true
  | _ => false

/-! ## Moves of the stores -/

/-- What holds between the old state and every state an operation returns holds
between the old state and the one that is written. -/
theorem written_rel {ε α σ : Type} {R : σ → σ → Prop} (refl : ∀ s, R s s) {old : σ}
    {result : Except ε (α × σ)} (h : ∀ a new, result = .ok (a, new) → R old new) :
    R old (written old result) := by
  cases hresult : result with
  | error e => exact refl old
  | ok pair => exact h pair.1 pair.2 (by rw [hresult])

/-- Every operation moves the allocator. -/
theorem Stores.step_alloc (lan : LanConfig) (s : Stores) (op : StoreOp) :
    Allocator.Step s.alloc (s.apply lan op).alloc := by
  cases op with
  | allocate serial sensor => exact written_rel .keep fun _ _ => Allocator.step_allocate
  | ensureColor serial sensor => exact written_rel .keep fun _ _ => Allocator.step_ensure
  | setDesired serial sensor active => exact written_rel .keep fun _ _ => Allocator.step_setDesired
  | release serial sensor => exact Allocator.step_release serial sensor s.alloc
  | migrateColorKey serial => exact Allocator.step_migrateColorKey serial s.alloc
  | upsertNode | addNodeByHost | setReachability | setSerial | setProvisionState | touchChecked
  | setMaintenance | setHostKey | setAgentToken | removeNode | upsertBinding | removeBinding
  | migrateRemoteBindingIds | setStatus | setFdirEnabled | setDesiredUp =>
      simp only [apply, alloc_setTopology]
      exact .keep s.alloc

section Bindings

variable {ρ : Type} {res : StreamBinding → ρ} {A : ρ → Prop} {R : ρ → ρ → Prop} {s : Stores}

/-- A result that moves the bindings, or raises, moves them when it is written. -/
theorem steps_written {α : Type} {t : TopologyState}
    {result : Except StoreError (α × TopologyState)}
    (h : ∀ a t', result = .ok (a, t') → TopologyState.Steps res A R t.bindings t'.bindings) :
    TopologyState.Steps res A R t.bindings (written t result).bindings := by
  cases hresult : result with
  | error e => exact .refl
  | ok pair => exact h pair.1 pair.2 (by rw [hresult])

/-- Apart from storing a binding, every operation moves the bindings, whatever the
resource of a binding is taken to be. -/
theorem Stores.steps_bindings (stable : TopologyState.Stable res) (lan : LanConfig)
    {op : StoreOp} (hop : op.writesBinding = false) :
    TopologyState.Steps res A R s.topology.bindings (s.apply lan op).topology.bindings := by
  have same : ∀ {t' : TopologyState}, t'.bindings = s.topology.bindings →
      TopologyState.Steps res A R s.topology.bindings t'.bindings := fun h => h ▸ .refl
  cases op with
  | allocate | ensureColor | setDesired | release | migrateColorKey =>
      simp only [apply, topology_setAlloc]
      exact .refl
  | upsertBinding => cases hop
  | upsertNode => exact steps_written fun _ _ h => same (TopologyState.bindings_upsertNode h)
  | addNodeByHost =>
      simp only [apply, topology_setTopology]
      exact steps_written fun _ _ h => same (TopologyState.bindings_addNodeByHost h)
  | setReachability | setSerial | setProvisionState | touchChecked | setMaintenance
  | setHostKey => exact steps_written fun _ _ h => same (TopologyState.bindings_updateNode h)
  | setAgentToken =>
      exact steps_written fun _ _ h => same (TopologyState.bindings_setAgentToken h)
  | removeNode nodeId =>
      apply steps_written
      intro r t ht
      rw [TopologyState.bindings_removeNode ht]
      exact .single (.select _ _)
  | removeBinding bindingId =>
      simp only [apply, topology_setTopology]
      exact TopologyState.steps_removeBinding bindingId s.topology
  | migrateRemoteBindingIds =>
      simp only [apply, topology_setTopology]
      exact TopologyState.steps_migrateRemoteBindingIds stable s.topology
  | setStatus bindingId status =>
      exact steps_written fun _ _ =>
        TopologyState.steps_updateBinding fun b => stable.status b status
  | setFdirEnabled bindingId enabled =>
      exact steps_written fun _ _ => TopologyState.steps_updateBinding fun b => stable.fdir b _
  | setDesiredUp bindingId up =>
      exact steps_written fun _ _ =>
        TopologyState.steps_updateBinding fun b => stable.desiredUp b up

end Bindings

/-! ## The invariant -/

/-- Both stores hold admissible slots that stand apart. -/
structure Stores.Sound (s : Stores) : Prop where
  alloc : Dict.Sound Allocation.slot Allocator.Admissible Slot.Apart s.alloc
  bindings : Dict.Sound StreamBinding.slot TopologyState.RemoteAdmissible Slot.Apart
    s.topology.bindings

theorem Stores.sound_empty : ({} : Stores).Sound :=
  ⟨Dict.sound_empty _ _ _, Dict.sound_empty _ _ _⟩

theorem stable_slot : TopologyState.Stable StreamBinding.slot :=
  ⟨fun _ _ => rfl, fun _ _ => rfl, fun _ _ => rfl, fun _ _ => rfl⟩

namespace Stores

variable {s : Stores}

/-- Every operation keeps both stores sound. -/
theorem Sound.apply (h : s.Sound) (lan : LanConfig) (op : StoreOp) : (s.apply lan op).Sound := by
  constructor
  · exact (s.step_alloc lan op).sound (fun _ _ => Slot.Apart.symm) h.alloc
  · by_cases hop : op.writesBinding = false
    · exact Dict.sound_of_moves (fun _ _ => Slot.Apart.symm)
        (steps_bindings stable_slot lan hop) h.bindings
    · cases op with
      | upsertBinding binding janusMountId =>
          exact Dict.sound_of_moves (fun _ _ => Slot.Apart.symm)
            (steps_written fun _ _ h => .single (TopologyState.move_upsertBinding h)) h.bindings
      | _ => exact absurd rfl hop

/-- Both stores are sound after any sequence of operations. -/
theorem sound_run (lan : LanConfig) (ops : List StoreOp) : ((storeMachine lan).run {} ops).Sound :=
  (storeMachine lan).run_invariant_of_step (I := Stores.Sound)
    (fun _ op h => h.apply lan op) sound_empty ops

/-- Sound stores share no slot: each is apart in itself, and the pools do not
meet. -/
theorem Sound.pairwise_slots (h : s.Sound) : s.slots.Pairwise Slot.Apart := by
  apply List.pairwise_append.mpr
  refine ⟨h.alloc.pairwise_toList, h.bindings.pairwise_toList, ?_⟩
  intro x hx y hy
  have hlocal := h.alloc.forall_toList x hx
  have hremote := h.bindings.forall_toList y hy
  simp only [Allocator.Admissible, TopologyState.RemoteAdmissible, mpIdMax, portMax,
    TopologyState.remoteMpMin, TopologyState.remotePortMin] at hlocal hremote
  constructor
  · omega
  · rw [Slot.disjoint_ports_iff]
    omega

end Stores

/-- From empty files, no sequence of operations of the two stores ever puts one
mountpoint id or one RTP/RTCP port into use twice. -/
theorem slots_pairwise_apart (lan : LanConfig) (ops : List StoreOp) :
    ((storeMachine lan).run {} ops).slots.Pairwise Slot.Apart :=
  (Stores.sound_run lan ops).pairwise_slots

example :
    ((storeMachine {}).run {} [.ensureColor "local" "color", .allocate "d435" "depth",
        .upsertNode "node-a" "192.168.1.20" "remote_producer" "unknown" none none "token",
        .upsertBinding
          { bindingId := "node-a:color", nodeId := "node-a", sensor := "color"
            mode := .remoteProducer
            transport := { rtpPort := 5100 }
            janus := { mountpointId := 2000, rtpIface := "192.168.1.10" } } 1305]).slots =
      [⟨1306, 5006⟩, ⟨1305, 5004⟩, ⟨2000, 5100⟩] := by decide +kernel

end CameraStack.Topology
