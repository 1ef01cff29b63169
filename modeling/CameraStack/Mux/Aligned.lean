/-
# Aligned depth queries

The sampler keeps the newest native depth frame and the newest frame that was aligned to the color
image.  Frames are aligned only while aligned queries come in.  A query answers from the aligned
frame for a while longer than that, and otherwise projects the native frame, so that an answer can
come from an aligned frame that is stale by then.  Times are exact.
-/

import CameraStack.Lib.Machine
import Mathlib.Data.Rat.Floor
import Mathlib.Tactic.Linarith

namespace CameraStack.Mux

open CameraStack.Lib

/-! ## Frames and numbers -/

/-- A depth frame in metres. -/
structure DepthFrame where
  height : ℕ
  width : ℕ
  depth : (i j : ℤ) → ℚ

/-- `int` of a number: without its fraction. -/
def pyTrunc (q : ℚ) : ℤ := if 0 ≤ q then ⌊q⌋ else ⌈q⌉

/-- `round`: to the nearest integer, and to the even one of two. -/
def pyRound (q : ℚ) : ℤ :=
  let rest := q - ⌊q⌋
  if rest < 1 / 2 then ⌊q⌋
  else if 1 / 2 < rest then ⌊q⌋ + 1
  else if Even ⌊q⌋ then ⌊q⌋
  else ⌊q⌋ + 1

/-- The index of a percentage along a side. -/
def pixelIndex (pct : ℚ) (size : ℕ) : ℤ :=
  pyRound (max 0 (min 1 (pct / 100)) * (size - 1))

/-- `DEPTH_STALE_MS` -/
def depthStaleMs : ℤ := 500

/-- The age of a frame in milliseconds, for a frame that has a time. -/
def ageMs (ts now : ℚ) : ℤ := if 0 < ts then pyTrunc ((now - ts) * 1000) else -1

/-- Why a query was answered as it was. -/
inductive AlignedReason where
  | rsAlignPrecomputed
  | noCalibration
  | noValidDepth
  | noDepthInFrontOfColor
  | ok
  | nearestNeighbor
  deriving DecidableEq

/-- What the projection of a native frame finds at a pixel of the color image. -/
structure Projected where
  depth : ℚ
  i : ℤ
  j : ℤ
  reason : AlignedReason

/-- The intrinsics and extrinsics, with the projection of a frame that they give. -/
structure CameraCalibration where
  colorWidth : ℕ
  colorHeight : ℕ
  project : DepthFrame → (x y : ℚ) → Projected

/-- An answer; `aligned` and `reason` are set by aligned queries only. -/
structure DepthAnswer where
  depth : ℚ
  i : ℤ
  j : ℤ
  w : ℕ
  h : ℕ
  ts : ℚ
  ageMs : ℤ
  stale : Bool
  aligned : Option Bool := none
  reason : Option AlignedReason := none

/-! ## The sampler -/

/-- `DepthSampler` -/
structure DepthSampler where
  depth : Option DepthFrame := none
  updatedAt : ℚ := 0
  alignedDepth : Option DepthFrame := none
  alignedUpdatedAt : ℚ := 0
  lastAlignedQuery : ℚ := 0
  calibration : Option CameraCalibration := none

namespace DepthSampler

/-- `update` -/
def update (s : DepthSampler) (frame : DepthFrame) (now : ℚ) : DepthSampler :=
  { s with depth := some frame, updatedAt := now }

/-- `update_aligned` -/
def updateAligned (s : DepthSampler) (frame : DepthFrame) (now : ℚ) : DepthSampler :=
  { s with alignedDepth := some frame, alignedUpdatedAt := now }

/-- `aligned_recently`, where `idle` is `ALIGN_IDLE_SEC`. -/
def alignedRecently (idle : ℚ) (s : DepthSampler) (now : ℚ) : Bool :=
  if 0 < s.lastAlignedQuery then decide (now - s.lastAlignedQuery < idle) else false

/-- A frame, read at a point of it. -/
def answerAt (frame : DepthFrame) (x y ts now : ℚ) : DepthAnswer :=
  let i := pixelIndex y frame.height
  let j := pixelIndex x frame.width
  let age := ageMs ts now
  { depth := frame.depth i j, i, j, w := frame.width, h := frame.height, ts, ageMs := age
    stale := depthStaleMs ≤ age }

/-- `sample`; `none` is the error that there is no frame yet. -/
def sample (s : DepthSampler) (x y now : ℚ) : Option DepthAnswer :=
  s.depth.map fun frame => answerAt frame x y s.updatedAt now

/-- The aligned frame, while a query answers from it. -/
def precomputed (idle : ℚ) (s : DepthSampler) (now : ℚ) : Option DepthFrame :=
  s.alignedDepth.filter fun _ => now - s.alignedUpdatedAt < idle + 1

/-- The answer of `sample_aligned`, which reads the clock at `now`, and again at `later` where it
does not answer from the aligned frame. -/
def alignedAnswer (idle : ℚ) (s : DepthSampler) (x y now later : ℚ) : Option DepthAnswer :=
  match s.precomputed idle now with
  | some frame =>
      some
        { answerAt frame x y s.alignedUpdatedAt now with
          aligned := some true
          reason := some .rsAlignPrecomputed }
  | none =>
      match s.calibration with
      | none =>
          (s.sample x y later).map fun answer =>
            { answer with aligned := some false, reason := some .noCalibration }
      | some cal =>
          s.depth.map fun frame =>
            let age := ageMs s.updatedAt later
            let found := cal.project frame x y
            { depth := found.depth, i := found.i, j := found.j
              w := cal.colorWidth, h := cal.colorHeight
              ts := s.updatedAt, ageMs := age, stale := depthStaleMs ≤ age
              aligned := some true, reason := some found.reason }

/-- `sample_aligned`: the query is recorded for the mux loop, and answered. -/
def sampleAligned (idle : ℚ) (s : DepthSampler) (x y now later : ℚ) :
    Option DepthAnswer × DepthSampler :=
  (s.alignedAnswer idle x y now later, { s with lastAlignedQuery := now })

end DepthSampler

/-! ## Runs -/

/-- What happens to the sampler.  The mux loop checks whether frames are to be aligned, and then
hands over an aligned one. -/
inductive SamplerCall where
  | update (frame : DepthFrame) (now : ℚ)
  | check (now : ℚ)
  | updateAligned (frame : DepthFrame) (now : ℚ)
  | sampleAligned (x y now later : ℚ)

/-- The sampler, and what the last check of the mux loop found. -/
structure MuxState where
  sampler : DepthSampler
  aligning : Bool := false

/-- The mux loop hands an aligned frame over only behind a check that found queries. -/
def muxMachine (idle : ℚ) : Machine MuxState SamplerCall (Option DepthAnswer) where
  step s
    | .update frame now => ({ s with sampler := s.sampler.update frame now }, [])
    | .check now => ({ s with aligning := s.sampler.alignedRecently idle now }, [])
    | .updateAligned frame now =>
        if s.aligning then
          ({ sampler := s.sampler.updateAligned frame now, aligning := false }, [])
        else (s, [])
    | .sampleAligned x y now later =>
        let result := s.sampler.sampleAligned idle x y now later
        ({ s with sampler := result.2 }, [result.1])

/-- The newest native frame is younger than the limit of stale ones. -/
def DepthSampler.NativeYoung (s : DepthSampler) (now : ℚ) : Prop :=
  s.depth ≠ none ∧ (now - s.updatedAt) * 1000 < depthStaleMs

/-- A query answers from an aligned frame that is stale. -/
def DepthSampler.AlignedOld (idle : ℚ) (s : DepthSampler) (now : ℚ) : Prop :=
  s.alignedDepth ≠ none ∧ 0 < s.alignedUpdatedAt ∧ now - s.alignedUpdatedAt < idle + 1 ∧
    depthStaleMs ≤ (now - s.alignedUpdatedAt) * 1000

theorem stale_iff {ts now : ℚ} :
    depthStaleMs ≤ ageMs ts now ↔ 0 < ts ∧ depthStaleMs ≤ (now - ts) * 1000 := by
  rw [ageMs]
  split_ifs with hts
  · rw [and_iff_right hts, pyTrunc]
    split_ifs with hage
    · exact Int.le_floor
    · have hceil : ⌈(now - ts) * 1000⌉ ≤ 0 := Int.ceil_le.mpr (by
        rw [Int.cast_zero]
        linarith)
      have hlimit : (0 : ℚ) < depthStaleMs := by decide
      constructor
      · intro h
        exact absurd (h.trans hceil) (by decide)
      · intro h
        linarith
  · exact iff_of_false (by decide) fun h => hts h.1

namespace DepthSampler

theorem precomputed_eq_none {idle now : ℚ} {s : DepthSampler} :
    s.precomputed idle now = none ↔
      ∀ frame, s.alignedDepth = some frame → ¬ now - s.alignedUpdatedAt < idle + 1 := by
  simp [precomputed]

theorem precomputed_eq_some {idle now : ℚ} {s : DepthSampler} {frame : DepthFrame} :
    s.precomputed idle now = some frame ↔
      s.alignedDepth = some frame ∧ now - s.alignedUpdatedAt < idle + 1 := by
  simp [precomputed]

/-- An answer from the aligned frame is stale exactly when that frame is. -/
theorem alignedAnswer_of_precomputed {idle now : ℚ} {s : DepthSampler} {frame : DepthFrame}
    (h : s.precomputed idle now = some frame) (x y later : ℚ) :
    (∃ answer, s.alignedAnswer idle x y now later = some answer ∧ answer.stale = false) ↔
      ¬ s.AlignedOld idle now := by
  have hframe := precomputed_eq_some.mp h
  have hstale := @stale_iff s.alignedUpdatedAt now
  have hsome : s.alignedDepth ≠ none := by
    rw [hframe.1]
    exact Option.some_ne_none frame
  rw [AlignedOld, and_iff_right hsome, and_left_comm, and_iff_right hframe.2, ← hstale]
  simp only [alignedAnswer, h, answerAt]
  constructor
  · intro hanswer hold
    obtain ⟨answer, heq, hfresh⟩ := hanswer
    rw [← Option.some_inj.mp heq] at hfresh
    exact (of_decide_eq_false hfresh) hold
  · intro hold
    exact ⟨_, rfl, decide_eq_false hold⟩

/-- An answer from a young native frame is never stale. -/
theorem alignedAnswer_of_native {idle now later : ℚ} {s : DepthSampler} {cal : CameraCalibration}
    (hprecomputed : s.precomputed idle now = none) (hcal : s.calibration = some cal)
    (hyoung : s.NativeYoung later) (x y : ℚ) :
    ∃ answer, s.alignedAnswer idle x y now later = some answer ∧ answer.stale = false := by
  obtain ⟨frame, hframe⟩ := Option.ne_none_iff_exists'.mp hyoung.1
  have hage : ¬ depthStaleMs ≤ ageMs s.updatedAt later := by
    rw [stale_iff]
    intro hstale
    exact absurd hyoung.2 (not_lt.mpr hstale.2)
  simp only [alignedAnswer, hprecomputed, hcal, hframe]
  exact ⟨_, rfl, decide_eq_false hage⟩

/-- A young native frame gives an answer that is not stale, unless the query answers from an aligned
frame that is. -/
theorem alignedAnswer_fresh_iff {s : DepthSampler} {cal : CameraCalibration}
    (hcal : s.calibration = some cal) (idle x y now later : ℚ) :
    (s.NativeYoung later →
        ∃ answer, s.alignedAnswer idle x y now later = some answer ∧ answer.stale = false) ↔
      ¬ (s.NativeYoung later ∧ s.AlignedOld idle now) := by
  rw [not_and]
  apply imp_congr_right
  intro hyoung
  cases hprecomputed : s.precomputed idle now with
  | some frame => exact alignedAnswer_of_precomputed hprecomputed x y later
  | none =>
      have hnotOld : ¬ s.AlignedOld idle now := by
        intro hold
        obtain ⟨frame, hframe⟩ := Option.ne_none_iff_exists'.mp hold.1
        exact precomputed_eq_none.mp hprecomputed frame hframe hold.2.2.1
      exact iff_of_true (alignedAnswer_of_native hprecomputed hcal hyoung x y) hnotOld

end DepthSampler

/-- The sampler of a camera whose calibration was loaded, and that has no frame yet. -/
def startWith (cal : CameraCalibration) : MuxState := { sampler := { calibration := some cal } }

theorem calibration_next (idle : ℚ) (s : MuxState) (call : SamplerCall) :
    ((muxMachine idle).next s call).sampler.calibration = s.sampler.calibration := by
  cases call with
  | update frame now => rfl
  | check now => rfl
  | updateAligned frame now =>
      simp only [muxMachine, Machine.next]
      split <;> rfl
  | sampleAligned x y now later => rfl

theorem calibration_run (idle : ℚ) (cal : CameraCalibration) (calls : List SamplerCall) :
    ((muxMachine idle).run (startWith cal) calls).sampler.calibration = some cal :=
  (muxMachine idle).run_invariant_of_step (I := fun s => s.sampler.calibration = some cal)
    (fun s call h => (calibration_next idle s call).trans h) rfl calls

/-- The call is an aligned query. -/
def SamplerCall.isQuery : SamplerCall → Bool
  | .sampleAligned .. => true
  | .update .. | .check .. | .updateAligned .. => false

/-- No query was recorded, so that no check has found one and no frame was aligned. -/
structure MuxState.Unasked (s : MuxState) : Prop where
  lastAlignedQuery : s.sampler.lastAlignedQuery = 0
  aligning : s.aligning = false
  alignedDepth : s.sampler.alignedDepth = none

theorem MuxState.Unasked.next {s : MuxState} (h : s.Unasked) (idle : ℚ) {call : SamplerCall}
    (hcall : call.isQuery = false) : ((muxMachine idle).next s call).Unasked := by
  cases call with
  | update frame now => exact ⟨h.lastAlignedQuery, h.aligning, h.alignedDepth⟩
  | check now =>
      refine ⟨h.lastAlignedQuery, ?_, h.alignedDepth⟩
      show s.sampler.alignedRecently idle now = false
      rw [DepthSampler.alignedRecently, h.lastAlignedQuery, if_neg (lt_irrefl 0)]
  | updateAligned frame now =>
      simp only [muxMachine, Machine.next, h.aligning, Bool.false_eq_true, if_false]
      exact h
  | sampleAligned x y now later => cases hcall

/-- Frames are aligned only for queries: in every run without one, the first query is answered
from the native frame, and not stale if that is young. -/
theorem first_query_fresh (idle : ℚ) (cal : CameraCalibration) (before : List SamplerCall)
    (hbefore : ∀ call ∈ before, call.isQuery = false) (x y now later : ℚ) :
    let s := ((muxMachine idle).run (startWith cal) before).sampler
    s.NativeYoung later →
      ∃ answer, (s.sampleAligned idle x y now later).1 = some answer ∧ answer.stale = false := by
  intro s hyoung
  have hstart : (startWith cal).Unasked := ⟨rfl, rfl, rfl⟩
  have halong : (muxMachine idle).Along (fun _ call => call.isQuery = false) (startWith cal)
      before := (muxMachine idle).along_of_forall (fun call hcall _ => hbefore call hcall) _
  have hunasked := (muxMachine idle).run_invariant (fun _ _ h hcall => h.next idle hcall) halong
    hstart
  have hprecomputed : s.precomputed idle now = none := by
    rw [DepthSampler.precomputed_eq_none, hunasked.alignedDepth]
    rintro frame ⟨⟩
  exact DepthSampler.alignedAnswer_of_native hprecomputed (calibration_run idle cal before) hyoung
    x y

/-- In every run, and at every query of it, a young native frame gives an answer that is not stale
if and only if there is none or the query does not answer from an aligned frame that is stale. -/
theorem aligned_query_fresh_iff (idle : ℚ) (cal : CameraCalibration) (before : List SamplerCall)
    (x y now later : ℚ) :
    let s := ((muxMachine idle).run (startWith cal) before).sampler
    (s.NativeYoung later →
        ∃ answer, (s.sampleAligned idle x y now later).1 = some answer ∧ answer.stale = false) ↔
      ¬ (s.NativeYoung later ∧ s.AlignedOld idle now) :=
  DepthSampler.alignedAnswer_fresh_iff (calibration_run idle cal before) idle x y now later

/-- A frame of one pixel. -/
def onePixel : DepthFrame where
  height := 1
  width := 1
  depth _ _ := 1

/-- A calibration that projects the only pixel onto the only pixel. -/
def onePixelCalibration : CameraCalibration where
  colorWidth := 1
  colorHeight := 1
  project frame _ _ := { depth := frame.depth 0 0, i := 0, j := 0, reason := .ok }

/-- Frames are aligned for ten seconds behind a query, and one native frame comes in later. -/
def idleGap : List SamplerCall :=
  [.update onePixel 100, .sampleAligned 50 50 (1001 / 10) (1001 / 10), .check 110,
    .updateAligned onePixel 110, .update onePixel (1108 / 10)]

/-- The next query is answered from the aligned frame of 900 milliseconds ago, although the native
frame is 100 milliseconds old. -/
theorem aligned_query_after_gap :
    ¬ (let s := ((muxMachine 10).run (startWith onePixelCalibration) idleGap).sampler
      s.NativeYoung (1109 / 10) →
        ∃ answer, (s.sampleAligned 10 50 50 (1109 / 10) (1109 / 10)).1 = some answer ∧
          answer.stale = false) := by
  show ¬ (DepthSampler.NativeYoung _ _ → _)
  rw [DepthSampler.sampleAligned,
    DepthSampler.alignedAnswer_fresh_iff (calibration_run 10 onePixelCalibration idleGap), not_not]
  have hchecked : (110 - 1001 / 10 : ℚ) < 10 := by norm_num
  have hqueried : (0 : ℚ) < 1001 / 10 := by norm_num
  simp only [idleGap, startWith, Machine.run_cons, Machine.run_nil, Machine.next, muxMachine,
    DepthSampler.update, DepthSampler.sampleAligned, DepthSampler.alignedRecently,
    DepthSampler.updateAligned, DepthSampler.NativeYoung, DepthSampler.AlignedOld, depthStaleMs,
    hchecked, hqueried]
  norm_num
  exact Option.some_ne_none onePixel

end CameraStack.Mux
