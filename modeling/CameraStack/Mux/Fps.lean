/-
# The frame rate of the mux

The tracker keeps the times of the frames of each sensor, and drops the times that are older than
five seconds when the sensor has a new frame.  Reading the rates drops nothing, so a sensor that has
stopped keeps the rate that it had at its last frame.  Times are exact.
-/

import CameraStack.Lib.Dict
import Mathlib.Data.List.Induction
import Mathlib.Data.Rat.Floor
import Mathlib.Tactic.Linarith

namespace CameraStack.Mux

open CameraStack.Lib

/-! ## The tracker -/

/-- `_FpsTracker._window`: the times of the frames of each sensor. -/
structure FpsTracker where
  window : Dict (List ℚ) := ∅

namespace FpsTracker

/-- `record` -/
def record (tracker : FpsTracker) (sensor : String) (now : ℚ) : FpsTracker :=
  let buf := tracker.window[sensor]?.getD [] ++ [now]
  let cutoff := now - 5
  { window := tracker.window.insert sensor (buf.filter fun t => cutoff ≤ t) }

/-- `fps` -/
def fps (tracker : FpsTracker) : Dict ℚ :=
  tracker.window.map fun _ buf => (buf.length : ℚ) / 5

end FpsTracker

/-- A call of the tracker, with its reading of the clock. -/
inductive FpsCall where
  | record (sensor : String) (now : ℚ)
  | fps (now : ℚ)

def FpsCall.now : FpsCall → ℚ
  | .record _ now => now
  | .fps now => now

/-- What a call leaves; reading the rates changes nothing. -/
def FpsTracker.after (tracker : FpsTracker) : FpsCall → FpsTracker
  | .record sensor now => tracker.record sensor now
  | .fps _ => tracker

/-- The tracker after some calls. -/
def trackerAfter (calls : List FpsCall) : FpsTracker := calls.foldl FpsTracker.after {}

/-- The times of the frames of a sensor. -/
def recordsOf (sensor : String) (calls : List FpsCall) : List ℚ :=
  calls.filterMap fun
    | .record s now => if s = sensor then some now else none
    | .fps _ => none

/-- The clock does not go back. -/
def NeverBack (calls : List FpsCall) : Prop := (calls.map FpsCall.now).Pairwise (· ≤ ·)

instance (calls : List FpsCall) : Decidable (NeverBack calls) :=
  inferInstanceAs (Decidable (List.Pairwise _ _))

/-! ## What is kept -/

/-- The times that are at most five seconds before the last one. -/
def keptOf (times : List ℚ) : List ℚ :=
  times.filter fun t => times.getLast?.all fun last => last - 5 ≤ t

theorem keptOf_concat (times : List ℚ) (now : ℚ) :
    keptOf (times ++ [now]) = (times ++ [now]).filter fun t => now - 5 ≤ t := by
  rw [keptOf, List.getLast?_concat]
  rfl

/-- What a new frame drops from the kept times is what it drops from all of them. -/
theorem filter_keptOf {times : List ℚ} {now : ℚ} (hnow : ∀ t ∈ times, t ≤ now) :
    (keptOf times).filter (fun t => decide (now - 5 ≤ t)) =
      times.filter fun t => decide (now - 5 ≤ t) := by
  rw [keptOf, List.filter_filter]
  apply List.filter_congr
  intro t _
  cases hlast : times.getLast? with
  | none => exact Bool.and_true _
  | some last =>
      have hle : last ≤ now := hnow last (List.mem_of_getLast? hlast)
      show (decide (now - 5 ≤ t) && decide (last - 5 ≤ t)) = decide (now - 5 ≤ t)
      by_cases ht : now - 5 ≤ t
      · have hkept : last - 5 ≤ t := by linarith
        rw [decide_eq_true ht, decide_eq_true hkept, Bool.and_self]
      · rw [decide_eq_false ht, Bool.false_and]

theorem recordsOf_concat (sensor : String) (calls : List FpsCall) (call : FpsCall) :
    recordsOf sensor (calls ++ [call]) = recordsOf sensor calls ++ recordsOf sensor [call] :=
  List.filterMap_append

theorem NeverBack.of_append {calls more : List FpsCall} (h : NeverBack (calls ++ more)) :
    NeverBack calls := by
  rw [NeverBack, List.map_append] at h
  exact (List.pairwise_append.mp h).1

/-- The clock of a call is not before the frames before it. -/
theorem NeverBack.le_now {calls : List FpsCall} {call : FpsCall} (h : NeverBack (calls ++ [call]))
    {sensor : String} : ∀ t ∈ recordsOf sensor calls, t ≤ call.now := by
  intro t ht
  obtain ⟨earlier, hmem, heq⟩ := List.mem_filterMap.mp ht
  have htime : t = earlier.now := by
    cases earlier with
    | record s now =>
        dsimp only at heq
        split_ifs at heq
        exact (Option.some.inj heq).symm
    | fps now => cases heq
  rw [NeverBack, List.map_append] at h
  rw [htime]
  exact (List.pairwise_append.mp h).2.2 _ (List.mem_map_of_mem hmem) _ List.mem_cons_self

/-- The tracker keeps, for each sensor that had a frame, the times at most five seconds before its
last one. -/
theorem window_trackerAfter {calls : List FpsCall} (h : NeverBack calls) (sensor : String) :
    (trackerAfter calls).window[sensor]? =
      if recordsOf sensor calls = [] then none else some (keptOf (recordsOf sensor calls)) := by
  induction calls using List.reverseRecOn with
  | nil => rfl
  | append_singleton calls call ih =>
      have hbefore := ih h.of_append
      have hafter : trackerAfter (calls ++ [call]) = (trackerAfter calls).after call :=
        List.foldl_concat _ _ _ _
      rw [hafter, recordsOf_concat]
      cases call with
      | fps now =>
          rw [show recordsOf sensor [.fps now] = [] from rfl, List.append_nil]
          exact hbefore
      | record s now =>
          show ((trackerAfter calls).window.insert s _)[sensor]? = _
          rw [Dict.getElem?_insert]
          by_cases hs : s = sensor
          · subst hs
            have hrecords : recordsOf s [.record s now] = [now] := by
              simp [recordsOf]
            have hdrop := filter_keptOf (@NeverBack.le_now _ _ h s)
            have hbuf : (trackerAfter calls).window[s]?.getD [] = keptOf (recordsOf s calls) := by
              rw [hbefore]
              split_ifs with hnone
              · rw [hnone]
                rfl
              · rfl
            rw [if_pos rfl, hrecords, if_neg (List.concat_ne_nil _ _), keptOf_concat, hbuf,
              List.filter_append, List.filter_append]
            exact congrArg (fun kept => some (kept ++ _)) hdrop
          · have hrecords : recordsOf sensor [.record s now] = [] := by
              simp [recordsOf, hs]
            rw [if_neg hs, hrecords, List.append_nil]
            exact hbefore

/-! ## The rates -/

/-- A report is a true window at a time: it has the sensors that had a frame, and for each of them
a fifth of the number of its frames in the last five seconds. -/
def TrueWindow (calls : List FpsCall) (now : ℚ) (report : Dict ℚ) : Prop :=
  ∀ sensor : String, report[sensor]? =
    if recordsOf sensor calls = [] then none
    else some (((recordsOf sensor calls).countP fun t => decide (now - 5 ≤ t)) / 5 : ℚ)

/-- The kept times are a true window where none of them is too old by now. -/
theorem length_keptOf_iff {times : List ℚ} (hne : times ≠ []) {now : ℚ}
    (hnow : ∀ t ∈ times, t ≤ now) (hsorted : times.Pairwise (· ≤ ·)) :
    (keptOf times).length = times.countP (fun t => now - 5 ≤ t) ↔
      ∀ t ∈ times, t < now - 5 → ∃ later ∈ times, t < later - 5 := by
  have hcount : times.countP (fun t => now - 5 ≤ t) =
      (keptOf times).countP fun t => now - 5 ≤ t := by
    rw [List.countP_eq_length_filter, List.countP_eq_length_filter, filter_keptOf hnow]
  obtain ⟨front, last, rfl⟩ := (List.eq_nil_or_concat times).resolve_left hne
  rw [List.concat_eq_append] at hsorted hcount ⊢
  have hlast : ∀ t ∈ front ++ [last], t ≤ last := by
    intro t ht
    rcases List.mem_append.mp ht with hfront | hself
    · exact (List.pairwise_append.mp hsorted).2.2 t hfront last List.mem_cons_self
    · exact (List.mem_singleton.mp hself).le
  rw [hcount, eq_comm, List.countP_eq_length, keptOf_concat]
  constructor
  · intro hkept t ht hold
    refine ⟨last, List.mem_append_right _ List.mem_cons_self, ?_⟩
    by_contra hyoung
    have hmem : t ∈ (front ++ [last]).filter fun t => decide (last - 5 ≤ t) :=
      List.mem_filter.mpr ⟨ht, decide_eq_true (not_lt.mp hyoung)⟩
    exact absurd (of_decide_eq_true (hkept t hmem)) (not_le.mpr hold)
  · intro hdropped t ht
    obtain ⟨hmem, hyoung⟩ := List.mem_filter.mp ht
    apply decide_eq_true
    by_contra hold
    obtain ⟨later, hlater, hlt⟩ := hdropped t hmem (not_le.mp hold)
    have hyoung := of_decide_eq_true hyoung
    have := hlast later hlater
    linarith

theorem sorted_recordsOf {calls : List FpsCall} (h : NeverBack calls) (sensor : String) :
    (recordsOf sensor calls).Pairwise (· ≤ ·) := by
  induction calls using List.reverseRecOn with
  | nil => exact List.Pairwise.nil
  | append_singleton calls call ih =>
      rw [recordsOf_concat, List.pairwise_append]
      refine ⟨ih h.of_append, ?_, fun t ht now hnow => ?_⟩
      · cases call with
        | record s now =>
            by_cases hs : s = sensor <;> simp [recordsOf, hs]
        | fps now => exact List.Pairwise.nil
      · have htime : now = call.now := by
          cases call with
          | record s clock =>
              by_cases hs : s = sensor
              · simpa [recordsOf, hs, FpsCall.now] using hnow
              · simp [recordsOf, hs] at hnow
          | fps clock => cases hnow
        exact htime ▸ h.le_now t ht

/-- A fifth of the number of the kept times is reported. -/
theorem fps_trackerAfter {calls : List FpsCall} (h : NeverBack calls) (sensor : String) :
    (trackerAfter calls).fps[sensor]? =
      if recordsOf sensor calls = [] then none
      else some (((keptOf (recordsOf sensor calls)).length : ℚ) / 5) := by
  rw [FpsTracker.fps, Std.ExtTreeMap.getElem?_map, window_trackerAfter h]
  split_ifs
  · rfl
  · rfl

/-- In every sequence of calls, a report is a true window if and only if each frame of a sensor that
is too old by then was already too old at a later frame of the sensor. -/
theorem fps_window_iff (calls : List FpsCall) (hclock : NeverBack calls) :
    ∀ before now after, calls = before ++ .fps now :: after →
      (TrueWindow before now (trackerAfter before).fps ↔
        ∀ sensor, ∀ t ∈ recordsOf sensor before, t < now - 5 →
          ∃ later ∈ recordsOf sensor before, t < later - 5) := by
  rintro before now after rfl
  have hread : NeverBack (before ++ [.fps now]) := by
    rw [List.append_cons] at hclock
    exact hclock.of_append
  have hbefore : NeverBack before := hread.of_append
  apply forall_congr'
  intro sensor
  rw [fps_trackerAfter hbefore]
  by_cases hnone : recordsOf sensor before = []
  · rw [hnone]
    exact iff_of_true rfl fun t ht => absurd ht List.not_mem_nil
  · have hkept : _ ↔ ∀ t ∈ recordsOf sensor before, t < now - 5 → _ :=
      length_keptOf_iff hnone hread.le_now (sorted_recordsOf hbefore sensor)
    rw [if_neg hnone, if_neg hnone, ← hkept, Option.some_inj]
    constructor
    · intro hequal
      exact_mod_cast (div_left_inj' (by norm_num)).mp hequal
    · intro hequal
      rw [hequal]

/-- Two sensors had a frame, and one of them again within five seconds of the read. -/
def liveCalls : List FpsCall := [.record "color" 0, .record "depth" 6, .record "color" 7]

/-- While every sensor has frames, the report is a true window. -/
theorem fps_window_live : TrueWindow liveCalls 8 (trackerAfter liveCalls).fps :=
  (fps_window_iff (liveCalls ++ [.fps 8]) (by decide +kernel) liveCalls 8 [] rfl).mpr (by
    intro sensor t ht hold
    by_cases hcolor : sensor = "color"
    · have htimes : t = 0 ∨ t = 7 := by simpa [recordsOf, liveCalls, hcolor] using ht
      refine ⟨7, by simp [recordsOf, liveCalls, hcolor], ?_⟩
      rcases htimes with rfl | rfl
      · norm_num
      · norm_num at hold
    · have htime : "depth" = sensor ∧ 6 = t := by
        simpa [recordsOf, liveCalls, Ne.symm hcolor] using ht
      rw [← htime.2] at hold
      norm_num at hold)

/-- A sensor that stopped a minute ago still has its rate. -/
theorem fps_of_stalled_sensor :
    ¬ TrueWindow [.record "color" 0] 60 (trackerAfter [.record "color" 0]).fps := by
  intro h
  have hcolor := h "color"
  have hrecords : recordsOf "color" [.record "color" 0] = [0] := by simp [recordsOf]
  have hkept : keptOf [0] = [0] := by decide +kernel
  have hrecent : [(0 : ℚ)].countP (fun t => decide (60 - 5 ≤ t)) = 0 := by decide +kernel
  rw [fps_trackerAfter (by decide), hrecords, hkept, hrecent] at hcolor
  norm_num at hcolor

end CameraStack.Mux
