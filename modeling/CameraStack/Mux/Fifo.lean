/-
# Frames in a FIFO

The mux hands frames of one size to an encoder through a FIFO, and the encoder cuts what it reads
into frames by counting bytes.  The writer asks how much room there is and drops a frame that
does not fit; when a frame is written short all the same, it pads the frame with zeros, so that
the next one begins where the encoder expects it.

A byte that once went in stays in the stream, so the stream is followed as a whole: what the
consumer has read and what is still in the pipe.
-/

import Mathlib.Data.List.Basic
import CameraStack.Lib.Machine

namespace CameraStack.Mux

open CameraStack.Lib

/-! ## Chunks -/

section Chunks

variable {α : Type}

/-- A stream read in chunks of one size, as far as it goes. -/
def chunks (size : ℕ) (stream : List α) : List (List α) :=
  (List.range (stream.length / size)).map fun i => (stream.drop (i * size)).take size

theorem chunks_append {size : ℕ} (hsize : 0 < size) {chunk : List α} (hchunk : chunk.length = size)
    (rest : List α) : chunks size (chunk ++ rest) = chunk :: chunks size rest := by
  have hcount : (chunk ++ rest).length / size = rest.length / size + 1 := by
    rw [List.length_append, hchunk, Nat.add_div_left _ hsize]
  rw [chunks, chunks, hcount, List.range_succ_eq_map, List.map_cons, List.map_map]
  refine congrArg₂ List.cons ?_ (List.map_congr_left fun i _ => ?_)
  · rw [Nat.zero_mul, List.drop_zero, ← hchunk, List.take_left]
  · rw [Function.comp_apply, Nat.succ_mul, Nat.add_comm, ← hchunk, List.drop_length_add_append]

/-- Chunks of the size, one behind the other, are read back. -/
theorem chunks_flatten {size : ℕ} (hsize : 0 < size) {frames : List (List α)}
    (hframes : ∀ frame ∈ frames, frame.length = size) : chunks size frames.flatten = frames := by
  induction frames with
  | nil =>
      rw [List.flatten_nil, chunks, List.length_nil, Nat.zero_div]
      rfl
  | cons frame frames ih =>
      rw [List.flatten_cons, chunks_append hsize (hframes frame List.mem_cons_self),
        ih fun f hf => hframes f (List.mem_cons_of_mem frame hf)]

theorem length_flatten {size : ℕ} {frames : List (List α)}
    (hframes : ∀ frame ∈ frames, frame.length = size) :
    frames.flatten.length = frames.length * size := by
  rw [List.length_flatten, List.map_congr_left hframes, List.map_const',
    List.sum_replicate_nat]

end Chunks

/-! ## The writer -/

/-- A frame size. -/
structure FrameSize where
  bytes : ℕ
  pos : 0 < bytes

/-- A frame of the size. -/
abbrev Frame (F : FrameSize) := {data : List UInt8 // data.length = F.bytes}

/-- Where `write` is. -/
inductive WritePhase (F : FrameSize) where
  | idle
  /-- Before `_pipe_capacity`. -/
  | capacity (data : Frame F)
  /-- Before `_bytes_in_pipe`. -/
  | pending (data : Frame F) (capacity : ℕ)
  /-- Before the frame is written. -/
  | write (data : Frame F)
  /-- Before the zeros are written behind so many bytes of the frame. -/
  | pad (written : ℕ)
  deriving DecidableEq

/-- How a system call ends. -/
inductive SysEnd where
  /-- With a number: a capacity, or the bytes that were written. -/
  | ok (n : ℕ)
  /-- With an `OSError`: `EAGAIN` or `EWOULDBLOCK`, or another one; in that case the writer opens
  the FIFO again, which may fail. -/
  | error (again reopens : Bool)
  deriving DecidableEq, Repr

/-- `FifoWriter`, its FIFO and the consumer. -/
structure Fifo (F : FrameSize) where
  /-- The writer has the FIFO open. -/
  isOpen : Bool := true
  drops : ℕ := 0
  wrote : ℕ := 0
  phase : WritePhase F := .idle
  /-- What the consumer has read. -/
  consumed : List UInt8 := []
  /-- What is in the pipe. -/
  pipe : List UInt8 := []
  /-- The frames for which `write` returned `True`. -/
  delivered : List (List UInt8) := []

namespace Fifo

variable {F : FrameSize}

/-- Everything that was ever put into the FIFO. -/
def stream (s : Fifo F) : List UInt8 := s.consumed ++ s.pipe

/-- `write` returns `False`. -/
def drop (s : Fifo F) : Fifo F := { s with phase := .idle, drops := s.drops + 1 }

/-- Bytes go into the pipe. -/
def put (s : Fifo F) (bytes : List UInt8) : Fifo F := { s with pipe := s.pipe ++ bytes }

/-- An `OSError` before anything is written. -/
def fail (s : Fifo F) (again reopens : Bool) : Fifo F :=
  if again then s.drop else { s.drop with isOpen := reopens }

/-- The next system call of `write`. -/
def call (s : Fifo F) (result : SysEnd) : Fifo F :=
  match s.phase, result with
  | .idle, _ => s
  | .capacity data, .ok capacity => { s with phase := .pending data capacity }
  | .pending data capacity, .ok _ =>
      -- What is pending is what the pipe holds.
      if (capacity : ℤ) - s.pipe.length < data.1.length then s.drop
      else { s with phase := .write data }
  | .write data, .ok n =>
      if n = data.1.length then
        { s.put data.1 with
          phase := .idle
          wrote := s.wrote + 1
          delivered := s.delivered ++ [data.1] }
      else { s.put (data.1.take n) with phase := .pad n }
  | .pad written, .ok n => (s.put ((List.replicate (F.bytes - written) 0).take n)).drop
  -- An error of the padding is passed over.
  | .pad _, .error .. => s.drop
  | .capacity _, .error again reopens | .pending _ _, .error again reopens
  | .write _, .error again reopens => s.fail again reopens

section Call

variable {s : Fifo F} {data : Frame F}

theorem call_idle (h : s.phase = .idle) (result : SysEnd) : s.call result = s := by
  cases s
  cases h
  rfl

theorem call_capacity_ok (h : s.phase = .capacity data) (capacity : ℕ) :
    s.call (.ok capacity) = { s with phase := .pending data capacity } := by
  cases s
  cases h
  rfl

theorem call_pending_ok {capacity : ℕ} (h : s.phase = .pending data capacity) (n : ℕ) :
    s.call (.ok n) =
      if (capacity : ℤ) - s.pipe.length < data.1.length then s.drop
      else { s with phase := .write data } := by
  cases s
  cases h
  rfl

theorem call_write_ok (h : s.phase = .write data) (n : ℕ) :
    s.call (.ok n) =
      if n = data.1.length then
        { s.put data.1 with
          phase := .idle
          wrote := s.wrote + 1
          delivered := s.delivered ++ [data.1] }
      else { s.put (data.1.take n) with phase := .pad n } := by
  cases s
  cases h
  rfl

/-- An error before the frame is written, or of writing it. -/
theorem call_error {again reopens : Bool} (h : s.phase = .capacity data ∨
    (∃ capacity, s.phase = .pending data capacity) ∨ s.phase = .write data) :
    s.call (.error again reopens) = s.fail again reopens := by
  cases s
  rcases h with h | ⟨capacity, h⟩ | h
  · cases h
    rfl
  · cases h
    rfl
  · cases h
    rfl

theorem call_pad_ok {written : ℕ} (h : s.phase = .pad written) (n : ℕ) :
    s.call (.ok n) = (s.put ((List.replicate (F.bytes - written) 0).take n)).drop := by
  cases s
  cases h
  rfl

theorem call_pad_error {written : ℕ} (h : s.phase = .pad written) (again reopens : Bool) :
    s.call (.error again reopens) = s.drop := by
  cases s
  cases h
  rfl

end Call

end Fifo

/-- What happens at the FIFO. -/
inductive FifoEvent (F : FrameSize) where
  /-- `write` is called. -/
  | write (data : Frame F)
  /-- `write` makes its next system call. -/
  | call (result : SysEnd)
  /-- The consumer reads up to so many bytes. -/
  | read (n : ℕ)

/-- The FIFO, event by event; the writer makes one call at a time. -/
def fifoMachine (F : FrameSize) : Machine (Fifo F) (FifoEvent F) Empty where
  step s
    | .write data =>
        match s.phase with
        | .idle => (if s.isOpen then { s with phase := .capacity data } else s.drop, [])
        | _ => (s, [])
    | .call result => (s.call result, [])
    | .read n => ({ s with consumed := s.consumed ++ s.pipe.take n, pipe := s.pipe.drop n }, [])

/-! ## Alignment -/

namespace Fifo

variable {F : FrameSize}

/-- When no `write` is executing, the stream is as long as a number of frames, and read in frames
it has every frame that was written, in order. -/
def Aligned (s : Fifo F) : Prop :=
  s.phase = .idle → F.bytes ∣ s.stream.length ∧ s.delivered.Sublist (chunks F.bytes s.stream)

instance (s : Fifo F) : Decidable s.Aligned :=
  inferInstanceAs (Decidable (s.phase = .idle → _ ∧ _))

end Fifo

namespace WritePhase

variable {F : FrameSize}

/-- A pipe may answer the call of this phase with so many bytes. -/
def MayTake (n : ℕ) : WritePhase F → Prop
  | .write data => 1 ≤ n ∧ n ≤ data.1.length
  | .pad written => 1 ≤ n ∧ n ≤ F.bytes - written
  | .idle | .capacity _ | .pending .. => True

instance (n : ℕ) (phase : WritePhase F) : Decidable (phase.MayTake n) :=
  match phase with
  | .write _ | .pad _ => inferInstanceAs (Decidable (_ ∧ _))
  | .idle | .capacity _ | .pending .. => isTrue trivial

/-- The answer is not one that leaves a frame without its padding. -/
def PadsInFull (result : SysEnd) : WritePhase F → Prop
  | .pad written => result = .ok (F.bytes - written)
  | .idle | .capacity _ | .pending .. | .write _ => True

instance (result : SysEnd) (phase : WritePhase F) : Decidable (phase.PadsInFull result) :=
  match phase with
  | .pad written => inferInstanceAs (Decidable (result = .ok (F.bytes - written)))
  | .idle | .capacity _ | .pending .. | .write _ => isTrue trivial

end WritePhase

namespace Fifo

variable {F : FrameSize}

/-- The answers that a pipe may give: some of the bytes, or an error. -/
def PipeAnswers (s : Fifo F) : FifoEvent F → Prop
  | .call (.ok n) => s.phase.MayTake n
  | .call (.error ..) | .write _ | .read _ => True

instance (s : Fifo F) (e : FifoEvent F) : Decidable (s.PipeAnswers e) :=
  match e with
  | .call (.ok n) => inferInstanceAs (Decidable (s.phase.MayTake n))
  | .call (.error ..) | .write _ | .read _ => isTrue trivial

/-- A frame that was written short is padded in full. -/
def PadsInFull (s : Fifo F) : FifoEvent F → Prop
  | .call result => s.phase.PadsInFull result
  | .write _ | .read _ => True

instance (s : Fifo F) (e : FifoEvent F) : Decidable (s.PadsInFull e) :=
  match e with
  | .call result => inferInstanceAs (Decidable (s.phase.PadsInFull result))
  | .write _ | .read _ => isTrue trivial

/-! ## What every event keeps -/

/-- The stream consists of frames, those that were delivered among them in order, and a tail. -/
def Built (s : Fifo F) (tail : List UInt8) : Prop :=
  ∃ frames : List (List UInt8), (∀ frame ∈ frames, frame.length = F.bytes) ∧
    s.stream = frames.flatten ++ tail ∧ s.delivered.Sublist frames

/-- Behind a frame that was written short stands a part of a frame; otherwise there are frames
only. -/
def Sound (s : Fifo F) : Prop :=
  match s.phase with
  | .pad written => ∃ tail, tail.length = written ∧ 0 < written ∧ written < F.bytes ∧ s.Built tail
  | _ => s.Built []

theorem Built.aligned {s : Fifo F} (h : s.Built []) : s.Aligned := by
  intro _
  obtain ⟨frames, hframes, hstream, hdelivered⟩ := h
  rw [List.append_nil] at hstream
  rw [hstream]
  refine ⟨?_, ?_⟩
  · rw [length_flatten hframes]
    exact Nat.dvd_mul_left F.bytes frames.length
  · rw [chunks_flatten F.pos hframes]
    exact hdelivered

theorem Sound.aligned {s : Fifo F} (h : s.Sound) : s.Aligned := by
  intro hidle
  rw [Sound, hidle] at h
  exact h.aligned hidle

/-- What was put behind the tail makes a frame of it. -/
theorem Built.complete {s s' : Fifo F} {tail bytes : List UInt8} (h : s.Built tail)
    (hstream : s'.stream = s.stream ++ bytes) (hlength : (tail ++ bytes).length = F.bytes)
    (hdelivered : s'.delivered = s.delivered ∨ s'.delivered = s.delivered ++ [tail ++ bytes]) :
    s'.Built [] := by
  obtain ⟨frames, hframes, hbefore, hsublist⟩ := h
  refine ⟨frames ++ [tail ++ bytes], ?_, ?_, ?_⟩
  · intro frame hframe
    rcases List.mem_append.mp hframe with hold | hnew
    · exact hframes frame hold
    · rw [List.mem_singleton.mp hnew]
      exact hlength
  · rw [hstream, hbefore, List.flatten_append, List.flatten_singleton, List.append_nil,
      List.append_assoc]
  · rcases hdelivered with hsame | hmore
    · rw [hsame]
      exact hsublist.trans (List.sublist_append_left frames _)
    · rw [hmore]
      exact hsublist.append_right _

/-- What is behind the frames does not make up for a part of one. -/
theorem Built.not_dvd {s s' : Fifo F} {tail bytes : List UInt8} (h : s.Built tail)
    (hstream : s'.stream = s.stream ++ bytes) (hpos : 0 < (tail ++ bytes).length)
    (hlt : (tail ++ bytes).length < F.bytes) : ¬ F.bytes ∣ s'.stream.length := by
  obtain ⟨frames, hframes, hbefore, -⟩ := h
  rw [hstream, hbefore, List.append_assoc, List.length_append, length_flatten hframes]
  intro hdvd
  have hpart := (Nat.dvd_add_right (Nat.dvd_mul_left F.bytes frames.length)).mp hdvd
  exact absurd (Nat.le_of_dvd hpos hpart) (not_le.mpr hlt)

theorem Built.of_same {s s' : Fifo F} {tail : List UInt8} (h : s.Built tail)
    (hstream : s'.stream = s.stream) (hdelivered : s'.delivered = s.delivered) :
    s'.Built tail := by
  rw [Built, hstream, hdelivered]
  exact h

theorem stream_put (s : Fifo F) (bytes : List UInt8) :
    (s.put bytes).stream = s.stream ++ bytes := (List.append_assoc _ _ _).symm

/-- The states between the calls of a `write` that has put nothing. -/
theorem Built.sound {s : Fifo F} (h : s.Built []) (hphase : ∀ written, s.phase ≠ .pad written) :
    s.Sound := by
  rw [Sound]
  split
  · next written hpad => exact absurd hpad (hphase written)
  · exact h

theorem Sound.built {s : Fifo F} (h : s.Sound) (hphase : ∀ written, s.phase ≠ .pad written) :
    s.Built [] := by
  rw [Sound] at h
  split at h
  · next written hpad => exact absurd hpad (hphase written)
  · exact h

theorem Built.fail {s : Fifo F} (h : s.Built []) (again reopens : Bool) :
    (s.fail again reopens).Sound := by
  rw [Fifo.fail]
  split_ifs
  · exact Built.sound (h.of_same rfl rfl) nofun
  · exact Built.sound (h.of_same rfl rfl) nofun

section Calls

variable {s : Fifo F}

theorem call_capacity {data : Frame F} (hphase : s.phase = .capacity data) (h : s.Sound)
    (result : SysEnd) : (s.call result).Sound := by
  have hbuilt := h.built (by rw [hphase]; nofun)
  cases result with
  | ok capacity =>
      rw [call_capacity_ok hphase]
      exact Built.sound (hbuilt.of_same rfl rfl) nofun
  | error again reopens =>
      rw [call_error (.inl hphase)]
      exact hbuilt.fail again reopens

theorem call_pending {data : Frame F} {capacity : ℕ} (hphase : s.phase = .pending data capacity)
    (h : s.Sound) (result : SysEnd) : (s.call result).Sound := by
  have hbuilt := h.built (by rw [hphase]; nofun)
  cases result with
  | ok n =>
      rw [call_pending_ok hphase]
      split_ifs
      · exact Built.sound (hbuilt.of_same rfl rfl) nofun
      · exact Built.sound (hbuilt.of_same rfl rfl) nofun
  | error again reopens =>
      rw [call_error (.inr (.inl ⟨capacity, hphase⟩))]
      exact hbuilt.fail again reopens

theorem call_write {data : Frame F} (hphase : s.phase = .write data) (h : s.Sound)
    {result : SysEnd} (hanswer : s.PipeAnswers (.call result)) : (s.call result).Sound := by
  have hbuilt := h.built (by rw [hphase]; nofun)
  cases result with
  | ok n =>
      simp only [PipeAnswers, WritePhase.MayTake, hphase] at hanswer
      rw [call_write_ok hphase]
      split_ifs with hfull
      · refine Built.sound (hbuilt.complete (stream_put s data.1) ?_ (.inr rfl)) nofun
        exact data.2
      · obtain ⟨frames, hframes, hstream, hdelivered⟩ := hbuilt
        refine ⟨data.1.take n, ?_, hanswer.1, ?_, frames, hframes, ?_, hdelivered⟩
        · rw [List.length_take, min_eq_left hanswer.2]
        · exact (lt_of_le_of_ne hanswer.2 hfull).trans_eq data.2
        · rw [List.append_nil] at hstream
          exact (stream_put s _).trans (by rw [hstream])
  | error again reopens =>
      rw [call_error (.inr (.inr hphase))]
      exact hbuilt.fail again reopens

variable {written : ℕ} {tail : List UInt8}

/-- Padding in full makes a frame of what was written short. -/
theorem call_pad_full (hphase : s.phase = .pad written) (h : s.Built tail)
    (hlength : tail.length = written) (hlt : written < F.bytes) :
    (s.call (.ok (F.bytes - written))).Sound := by
  rw [call_pad_ok hphase]
  refine Built.sound (h.complete (stream_put s _) ?_ (.inl rfl)) nofun
  rw [List.length_append, List.length_take, List.length_replicate, min_self, hlength]
  omega

/-- Anything less leaves the stream misaligned. -/
theorem call_pad_short (hphase : s.phase = .pad written) (h : s.Built tail)
    (hlength : tail.length = written) (hpos : 0 < written) (hlt : written < F.bytes)
    {result : SysEnd} (hanswer : s.PipeAnswers (.call result))
    (hshort : result ≠ .ok (F.bytes - written)) : ¬ (s.call result).Aligned := by
  intro haligned
  cases result with
  | ok n =>
      simp only [PipeAnswers, WritePhase.MayTake, hphase] at hanswer
      have hne : n ≠ F.bytes - written := fun heq => hshort (heq ▸ rfl)
      rw [call_pad_ok hphase] at haligned
      have htake : (tail ++ (List.replicate (F.bytes - written) (0 : UInt8)).take n).length =
          written + n := by
        rw [List.length_append, List.length_take, List.length_replicate, hlength,
          min_eq_left hanswer.2]
      refine h.not_dvd (stream_put s _) ?_ ?_ (haligned rfl).1
      · rw [htake]
        omega
      · rw [htake]
        omega
  | error again reopens =>
      rw [call_pad_error hphase] at haligned
      refine @Built.not_dvd F s s.drop tail [] h (List.append_nil _).symm ?_ ?_ (haligned rfl).1
      · rw [List.append_nil, hlength]
        exact hpos
      · rw [List.append_nil, hlength]
        exact hlt

end Calls

/-- A `write` begins. -/
theorem Sound.write {s : Fifo F} (h : s.Sound) (data : Frame F) :
    ((fifoMachine F).next s (.write data)).Sound := by
  rw [Machine.next, fifoMachine]
  simp only
  split
  · next hidle =>
    have hbuilt := h.built (by rw [hidle]; nofun)
    split_ifs
    · exact Built.sound (hbuilt.of_same rfl rfl) nofun
    · exact Built.sound (hbuilt.of_same rfl rfl) nofun
  · exact h

/-- The consumer reads. -/
theorem Sound.read {s : Fifo F} (h : s.Sound) (n : ℕ) :
    ((fifoMachine F).next s (.read n)).Sound := by
  have hstream : ((fifoMachine F).next s (.read n)).stream = s.stream := by
    change (s.consumed ++ s.pipe.take n) ++ s.pipe.drop n = s.consumed ++ s.pipe
    rw [List.append_assoc, List.take_append_drop]
  rw [Sound] at h ⊢
  cases hphase : s.phase with
  | pad written =>
      rw [hphase] at h
      obtain ⟨tail, hlength, hpos, hlt, hbuilt⟩ := h
      have hnext : ((fifoMachine F).next s (.read n)).phase = .pad written := hphase
      rw [hnext]
      exact ⟨tail, hlength, hpos, hlt, hbuilt.of_same hstream rfl⟩
  | idle | capacity | pending | write =>
      rw [hphase] at h
      have hnext := hphase
      change ((fifoMachine F).next s (.read n)).phase = _ at hnext
      rw [hnext]
      exact h.of_same hstream rfl

/-- A system call that is not one for padding. -/
theorem Sound.call {s : Fifo F} (h : s.Sound) (hphase : ∀ written, s.phase ≠ .pad written)
    {result : SysEnd} (hanswer : s.PipeAnswers (.call result)) : (s.call result).Sound := by
  cases hcase : s.phase with
  | idle =>
      rw [call_idle hcase]
      exact h
  | capacity data => exact call_capacity hcase h result
  | pending data capacity => exact call_pending hcase h result
  | write data => exact call_write hcase h hanswer
  | pad written => exact absurd hcase (hphase written)

/-- An event of a pipe keeps the stream in order, unless it is padding that is not written in
full; and only then the stream is misaligned behind it. -/
theorem Sound.step {s : Fifo F} (h : s.Sound) (e : FifoEvent F) (hanswer : s.PipeAnswers e) :
    (s.PadsInFull e ∧ ((fifoMachine F).next s e).Sound) ∨
      (¬ s.PadsInFull e ∧ ¬ ((fifoMachine F).next s e).Aligned) := by
  cases e with
  | write data => exact .inl ⟨trivial, h.write data⟩
  | read n => exact .inl ⟨trivial, h.read n⟩
  | call result =>
      change (s.PadsInFull (.call result) ∧ (s.call result).Sound) ∨
        (¬ s.PadsInFull (.call result) ∧ ¬ (s.call result).Aligned)
      cases hphase : s.phase with
      | pad written =>
          obtain ⟨tail, hlength, hpos, hlt, hbuilt⟩ := (by rw [Sound, hphase] at h; exact h :
            ∃ tail, tail.length = written ∧ 0 < written ∧ written < F.bytes ∧ s.Built tail)
          have hpads : s.PadsInFull (.call result) ↔ result = .ok (F.bytes - written) := by
            simp only [PadsInFull, WritePhase.PadsInFull, hphase]
          rw [hpads]
          by_cases hfull : result = .ok (F.bytes - written)
          · rw [hfull]
            exact .inl ⟨rfl, call_pad_full hphase hbuilt hlength hlt⟩
          · exact .inr ⟨hfull, call_pad_short hphase hbuilt hlength hpos hlt hanswer hfull⟩
      | idle | capacity | pending | write =>
          refine .inl ⟨by simp only [PadsInFull, WritePhase.PadsInFull, hphase], h.call ?_ hanswer⟩
          rw [hphase]
          nofun

theorem Sound.aligned_iff {s : Fifo F} (h : s.Sound) {e : FifoEvent F}
    (hanswer : s.PipeAnswers e) : ((fifoMachine F).next s e).Aligned ↔ s.PadsInFull e := by
  rcases h.step e hanswer with ⟨hpads, hnext⟩ | ⟨hshort, hnot⟩
  · exact ⟨fun _ => hpads, fun _ => hnext.aligned⟩
  · exact ⟨fun haligned => absurd haligned hnot, fun hpads => absurd hpads hshort⟩

theorem Sound.next {s : Fifo F} (h : s.Sound) {e : FifoEvent F} (hanswer : s.PipeAnswers e)
    (haligned : ((fifoMachine F).next s e).Aligned) : ((fifoMachine F).next s e).Sound := by
  rcases h.step e hanswer with ⟨-, hnext⟩ | ⟨-, hnot⟩
  · exact hnext
  · exact absurd haligned hnot

/-- The stream is aligned whenever no `write` is executing if and only if every frame that was
written short is padded in full. -/
theorem aligned_iff_pads (F : FrameSize) {events : List (FifoEvent F)}
    (hanswers : (fifoMachine F).Along PipeAnswers {} events) :
    (fifoMachine F).Along (fun s e => ((fifoMachine F).next s e).Aligned) {} events ↔
      (fifoMachine F).Along PadsInFull {} events := by
  refine Machine.along_congr_of_guard (I := Sound) (fifoMachine F)
    (fun _ _ h hanswer haligned => h.next hanswer haligned)
    (fun _ _ h hanswer => h.aligned_iff hanswer) hanswers ?_
  exact ⟨[], fun _ hmem => absurd hmem List.not_mem_nil, rfl, List.Sublist.slnil⟩

/-- Frames of four bytes. -/
def sampleSize : FrameSize := ⟨4, by decide⟩

/-- A frame. -/
def sampleFrame : Frame sampleSize := ⟨[10, 20, 30, 40], rfl⟩

/-- A frame of which the pipe takes two bytes, although it says that there is room. -/
def shortWrite : List (FifoEvent sampleSize) :=
  [.write sampleFrame, .call (.ok 8), .call (.ok 0), .call (.ok 2)]

theorem aligned_iff_pads_padded :
    (fifoMachine sampleSize).Along
      (fun s e => ((fifoMachine sampleSize).next s e).Aligned) {}
      (shortWrite ++ [.call (.ok 2), .read 3]) :=
  (aligned_iff_pads sampleSize (by decide)).mpr (by decide)

/-- When the pipe refuses the padding, half a frame stays in the stream. -/
theorem short_write_misaligns :
    ¬ (fifoMachine sampleSize).Along
      (fun s e => ((fifoMachine sampleSize).next s e).Aligned) {}
      (shortWrite ++ [.call (.error true true)]) := by
  decide

end Fifo

end CameraStack.Mux
