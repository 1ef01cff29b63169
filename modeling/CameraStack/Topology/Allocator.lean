/-
# The local mountpoint allocator

Local streams get a mountpoint id and an RTP port from a fixed pool, keyed by
serial and sensor and kept in a flocked JSON file.  The color stream is pinned to
a pair just below the pool.  Every operation loads the file, works on it and
writes it back, so an operation that raises leaves it as it was.

What an operation may do to the file is one of the moves of a store of slots, with
the local pools as the admissible slots.
-/

import Mathlib.Algebra.Order.Ring.Int
import Mathlib.Tactic.Linarith
import CameraStack.Topology.Models

namespace CameraStack.Topology

open CameraStack.Lib

/-- `MP_ID_MIN`, `MP_ID_MAX`, `PORT_MIN` and `PORT_MAX`: the pools. -/
def mpIdMin : ℤ := 1306

@[inherit_doc mpIdMin]
def mpIdMax : ℤ := 1999

@[inherit_doc mpIdMin]
def portMin : ℤ := 5006

@[inherit_doc mpIdMin]
def portMax : ℤ := 5099

/-- The static color pair. -/
def colorMpId : ℤ := 1305

@[inherit_doc colorMpId]
def colorRtpPort : ℤ := 5004

/-- The sentinel serial of a color stream whose device is not known yet. -/
def localSerial : String := "local"

/-- One allocation. -/
structure Allocation where
  mpId : ℤ
  rtpPort : ℤ
  desiredActive : Bool := false
  deriving DecidableEq

/-- The slot of an allocation. -/
def Allocation.slot (a : Allocation) : Slot := { mountpointId := a.mpId, rtpPort := a.rtpPort }

/-- The `allocations` map of the state file. -/
abbrev Allocator := Dict Allocation

/-- Why an allocator operation raised, with the values its message mentions. -/
inductive AllocatorError
  | mpPoolExhausted
  | portPoolExhausted
  | mpHeld (mpId : ℤ) (otherKey key : String)
  | portsOverlap (rtpPort : ℤ) (otherKey : String) (otherPort : ℤ) (key : String)
  | noAllocation (key : String)
  deriving DecidableEq

/-- `_key`. -/
def allocKey (serial sensor : String) : String := serial ++ ":" ++ sensor

/-- Python's `range(start, stop, step)`. -/
def pyRange (start stop step : ℤ) : List ℤ :=
  (List.range ((stop - start + (step - 1)) / step).toNat).map fun (i : ℕ) => start + step * i

/-- The ports a list of slots reserves: RTP and RTCP. -/
def reservedPorts (slots : List Slot) : List ℤ :=
  slots.flatMap fun s => [s.rtpPort, s.rtpPort + 1]

/-- The first port of a range whose pair is free. -/
def firstFreePair (candidates usedPort : List ℤ) : Option ℤ :=
  candidates.find? fun p => p ∉ usedPort ∧ (p + 1) ∉ usedPort

/-- `_pick_free`: the lowest free id and the lowest free even pair. -/
def pickFree (usedMp usedPort : List ℤ) : Except AllocatorError (ℤ × ℤ) :=
  match (pyRange mpIdMin (mpIdMax + 1) 1).find? (· ∉ usedMp) with
  | none => .error .mpPoolExhausted
  | some mpId =>
      match firstFreePair (pyRange portMin portMax 2) usedPort with
      | none => .error .portPoolExhausted
      | some port => .ok (mpId, port)

namespace Allocator

/-- The slots in use. -/
def slots (m : Allocator) : List Slot := m.toList.map fun entry => entry.2.slot

/-- `allocate`: the existing allocation, or a fresh one from the pool. -/
def allocate (serial sensor : String) (m : Allocator) :
    Except AllocatorError (Allocation × Allocator) :=
  match m[allocKey serial sensor]? with
  | some existing => .ok (existing, m)
  | none =>
      match pickFree (m.slots.map Slot.mountpointId) (reservedPorts m.slots) with
      | .error e => .error e
      | .ok (mpId, port) =>
          let alloc : Allocation := { mpId := mpId, rtpPort := port }
          .ok (alloc, m.insert (allocKey serial sensor) alloc)

/-- What the clobber guard of `ensure` objects to in one existing entry. -/
def clobbers (mpId rtpPort : ℤ) (key : String) (entry : String × Allocation) :
    Option AllocatorError :=
  if entry.2.mpId = mpId then some (.mpHeld mpId entry.1 key)
  else if rtpPort = entry.2.rtpPort ∨ rtpPort = entry.2.rtpPort + 1 ∨
      rtpPort + 1 = entry.2.rtpPort then
    some (.portsOverlap rtpPort entry.1 entry.2.rtpPort key)
  else none

/-- `ensure`: register a given pair unless another key holds part of it. -/
def ensure (serial sensor : String) (mpId rtpPort : ℤ) (m : Allocator) :
    Except AllocatorError (Allocation × Allocator) :=
  match m[allocKey serial sensor]? with
  | some existing => .ok (existing, m)
  | none =>
      match m.toList.findSome? (clobbers mpId rtpPort (allocKey serial sensor)) with
      | some e => .error e
      | none =>
          let alloc : Allocation := { mpId := mpId, rtpPort := rtpPort }
          .ok (alloc, m.insert (allocKey serial sensor) alloc)

/-- `set_desired`. -/
def setDesired (serial sensor : String) (active : Bool) (m : Allocator) :
    Except AllocatorError (Allocation × Allocator) :=
  match m[allocKey serial sensor]? with
  | none => .error (.noAllocation (allocKey serial sensor))
  | some a =>
      let updated := { a with desiredActive := active }
      .ok (updated, m.insert (allocKey serial sensor) updated)

/-- `release`. -/
def release (serial sensor : String) (m : Allocator) : Bool × Allocator :=
  if allocKey serial sensor ∈ m then (true, m.erase (allocKey serial sensor)) else (false, m)

/-- `migrate_color_key`: fold `local:color` into the key of the real serial. -/
def migrateColorKey (serial : String) (m : Allocator) : Bool × Allocator :=
  if serial = localSerial ∨ serial = "" then (false, m)
  else
    match m[allocKey localSerial "color"]?, m[allocKey serial "color"]? with
    | some a, none =>
        (true, (m.erase (allocKey localSerial "color")).insert (allocKey serial "color") a)
    | _, _ => (false, m)

/-! ## Moves of the allocator -/

/-- The local pools together with the static color pair. -/
def Admissible (s : Slot) : Prop :=
  colorMpId ≤ s.mountpointId ∧ s.mountpointId ≤ mpIdMax ∧
    colorRtpPort ≤ s.rtpPort ∧ s.rtpPort + 1 ≤ portMax

/-- A step of the allocator. -/
abbrev Step (m m' : Allocator) : Prop := Dict.Move Allocation.slot Admissible Slot.Apart m m'

end Allocator

theorem mem_pyRange {start stop step p : ℤ} (hstep : 0 < step) (h : p ∈ pyRange start stop step) :
    start ≤ p ∧ p < stop := by
  simp only [pyRange, List.mem_map, List.mem_range] at h
  rcases h with ⟨i, hi, rfl⟩
  have hnext : (i : ℤ) + 1 ≤ (stop - start + (step - 1)) / step := by omega
  have hmul : ((i : ℤ) + 1) * step ≤ stop - start + (step - 1) :=
    (mul_le_mul_of_nonneg_right hnext hstep.le).trans (Int.ediv_mul_le _ hstep.ne')
  have hnonneg : 0 ≤ step * (i : ℤ) := mul_nonneg hstep.le (Int.natCast_nonneg i)
  constructor
  · omega
  · linarith

/-- The ids and the ports `_pick_free` returns are in the pools and free. -/
theorem pickFree_spec {usedMp usedPort : List ℤ} {mpId port : ℤ}
    (h : pickFree usedMp usedPort = .ok (mpId, port)) :
    (mpIdMin ≤ mpId ∧ mpId ≤ mpIdMax ∧ mpId ∉ usedMp) ∧
      portMin ≤ port ∧ port + 1 ≤ portMax ∧ port ∉ usedPort ∧ port + 1 ∉ usedPort := by
  unfold pickFree at h
  split at h
  · cases h
  · next mpId' hmp =>
      split at h
      · cases h
      · next port' hport =>
          cases h
          have hmpFree := List.find?_some hmp
          have hmpRange := mem_pyRange (by decide) (List.mem_of_find?_eq_some hmp)
          have hportFree := List.find?_some hport
          have hportRange := mem_pyRange (by decide) (List.mem_of_find?_eq_some hport)
          simp only [decide_eq_true_eq] at hmpFree hportFree
          exact ⟨⟨hmpRange.1, by omega, hmpFree⟩, hportRange.1, by omega, hportFree⟩

/-- A slot whose ports avoid the reserved ones is disjoint from each of them. -/
theorem Slot.apart_of_free {s t : Slot} {slots : List Slot} (ht : t ∈ slots)
    (hmp : s.mountpointId ∉ slots.map Slot.mountpointId)
    (hport : s.rtpPort ∉ reservedPorts slots) (hnext : s.rtpPort + 1 ∉ reservedPorts slots) :
    s.Apart t := by
  have hreserved : ∀ p ∈ [t.rtpPort, t.rtpPort + 1], p ∈ reservedPorts slots :=
    fun p hp => List.mem_flatMap.mpr ⟨t, ht, hp⟩
  constructor
  · intro heq
    exact hmp (heq ▸ List.mem_map_of_mem ht)
  · rw [Slot.disjoint_ports_iff]
    refine ⟨?_, ?_, ?_⟩
    · intro heq
      exact hport (heq ▸ hreserved _ (by simp))
    · intro heq
      exact hport (heq ▸ hreserved _ (by simp))
    · intro heq
      exact hnext (heq ▸ hreserved _ (by simp))

namespace Allocator

/-- Every entry contributes its slot. -/
theorem mem_slots {m : Allocator} {key : String} {a : Allocation} (h : m[key]? = some a) :
    a.slot ∈ m.slots :=
  List.mem_map_of_mem (Std.ExtTreeMap.mem_toList_iff_getElem?_eq_some.mpr h)

theorem step_allocate {serial sensor : String} {m m' : Allocator} {a : Allocation}
    (h : m.allocate serial sensor = .ok (a, m')) : Step m m' := by
  unfold allocate at h
  split at h
  · cases h
    exact .keep m
  · split at h
    · cases h
    · next mpId port hpick =>
        cases h
        obtain ⟨⟨hmin, hmax, hmp⟩, hpmin, hpmax, hport, hnext⟩ := pickFree_spec hpick
        apply Dict.Move.put
        · simp only [Admissible, Allocation.slot, colorMpId, colorRtpPort]
          simp only [mpIdMin, portMin] at hmin hpmin
          omega
        · intro k w _ hw
          exact Slot.apart_of_free (mem_slots hw) hmp hport hnext

theorem step_ensure {serial sensor : String} {m m' : Allocator} {a : Allocation}
    (h : m.ensure serial sensor colorMpId colorRtpPort = .ok (a, m')) : Step m m' := by
  unfold ensure at h
  split at h
  · cases h
    exact .keep m
  · split at h
    · cases h
    · next hclear =>
        cases h
        apply Dict.Move.put
        · simp [Admissible, Allocation.slot, colorMpId, colorRtpPort, mpIdMax, portMax]
        · intro k w _ hw
          have hnone := List.findSome?_eq_none_iff.mp hclear (k, w)
            (Std.ExtTreeMap.mem_toList_iff_getElem?_eq_some.mpr hw)
          unfold clobbers at hnone
          split at hnone
          · cases hnone
          · next hmp =>
              split at hnone
              · cases hnone
              · next hports =>
                  constructor
                  · exact fun heq => hmp heq.symm
                  · rw [Slot.disjoint_ports_iff]
                    simp only [not_or] at hports
                    exact hports

theorem step_setDesired {serial sensor : String} {active : Bool} {m m' : Allocator}
    {a : Allocation} (h : m.setDesired serial sensor active = .ok (a, m')) : Step m m' := by
  unfold setDesired at h
  split at h
  · cases h
  · next old hold =>
      cases h
      exact .update m _ old _ hold rfl

theorem step_release (serial sensor : String) (m : Allocator) :
    Step m (m.release serial sensor).2 := by
  unfold release
  split
  · exact .drop m _
  · exact .keep m

theorem step_migrateColorKey (serial : String) (m : Allocator) :
    Step m (m.migrateColorKey serial).2 := by
  unfold migrateColorKey
  split
  · exact .keep m
  · split
    · next a ha _ => exact .rekey m _ _ a a ha rfl
    · exact .keep m

end Allocator

end CameraStack.Topology
