/-
# Watching the frames

The watchdog keeps the times of the last frames in a ring, and the beginning of a slow spell
in two fields.  A history that keeps every frame and every slow tick sees the same: the rate
over the last frames, and one report for each spell, at the first tick that is late enough.

Rates are exact here.
-/

import CameraStack.Lib.Machine
import CameraStack.Lib.SlotRing
import Mathlib.Algebra.Order.Ring.Rat

namespace CameraStack.Player.WatchdogService

open CameraStack.Lib

/-- `FPS_RING_SIZE`. -/
def fpsRingSize : ℕ := 60

/-- `cfg`, and whether there is an `onFpsDrop`. -/
structure Config where
  noFrameThresholdMs : ℚ
  minAcceptableFps : Option ℚ
  fpsDropThresholdMs : Option ℚ
  onFpsDrop : Bool

/-- `cfg.fpsDropThresholdMs || 3000`. -/
def Config.thresholdMs (cfg : Config) : ℚ :=
  match cfg.fpsDropThresholdMs with
  | none => 3000
  | some ms => if ms = 0 then 3000 else ms

/-- The FPS watchdog is on. -/
def Config.watchesFps (cfg : Config) : Bool :=
  cfg.onFpsDrop && cfg.minAcceptableFps.any (0 < ·)

/-- What the player tells the watchdog, and the ticks of its interval. -/
inductive Event
  | updateFrameTime (now : ℚ)
  | start (now : ℚ)
  | tick (now : ℚ)
  | stop
  | resetFpsTracking
  | resetAfterTabResume (now : ℚ)
  | resetOrigin (now : ℚ)

/-- The reading of the clock in an event. -/
def Event.now : Event → Option ℚ
  | .updateFrameTime now | .start now | .tick now | .resetAfterTabResume now
  | .resetOrigin now => some now
  | .stop | .resetFpsTracking => none

/-- The callbacks. -/
inductive Output
  | onTimeout (ageMs : ℚ)
  | onFpsDrop (fps : ℚ)
  deriving DecidableEq

/-- `getLastFrameAgeMs`. -/
def getLastFrameAgeMs (lastFrameAt now : ℚ) : ℚ := max 0 (now - lastFrameAt)

/-- The rate of so many frames, the first of them at a time. -/
def rate (count : ℕ) (oldest : Option ℚ) (now : ℚ) : ℚ :=
  if count < 2 then 0
  else
    match oldest with
    | none => 0
    | some oldest => if now - oldest ≤ 0 then 0 else (count - 1) / (now - oldest) * 1000

/-- The frames come, and they come slowly. -/
def Config.slow (cfg : Config) (fps : ℚ) : Bool :=
  0 < fps && cfg.minAcceptableFps.any (fps < ·)

/-! ## The service -/

/-- `WatchdogService`. -/
structure Watchdog where
  lastFrameAt : ℚ
  timer : Bool
  fpsRing : SlotRing ℚ
  fpsDropSince : ℚ
  fpsDropFired : Bool

/-- The constructor. -/
def Watchdog.new : Watchdog where
  lastFrameAt := 0
  timer := false
  fpsRing := .empty
  fpsDropSince := 0
  fpsDropFired := false

namespace Watchdog

/-- `getCurrentFps`. -/
def getCurrentFps (w : Watchdog) (now : ℚ) : ℚ :=
  rate (w.fpsRing.count fpsRingSize) w.fpsRing.oldest now

/-- `resetFpsTracking`. -/
def resetFps (w : Watchdog) : Watchdog :=
  { w with fpsRing := .empty, fpsDropSince := 0, fpsDropFired := false }

/-- The FPS part of a tick. -/
def checkFps (cfg : Config) (w : Watchdog) (now : ℚ) : Watchdog × List Output :=
  if cfg.watchesFps then
    if cfg.slow (w.getCurrentFps now) then
      if w.fpsDropSince = 0 then ({ w with fpsDropSince := now }, [])
      else if w.fpsDropFired = false ∧ cfg.thresholdMs ≤ now - w.fpsDropSince then
        ({ w with fpsDropFired := true }, [.onFpsDrop (w.getCurrentFps now)])
      else (w, [])
    else ({ w with fpsDropSince := 0, fpsDropFired := false }, [])
  else (w, [])

/-- One call or one tick. -/
def step (cfg : Config) (w : Watchdog) : Event → Watchdog × List Output
  | .updateFrameTime now =>
      ({ w with lastFrameAt := now, fpsRing := w.fpsRing.push fpsRingSize now }, [])
  | .start now =>
      ({ w with
        lastFrameAt := if w.lastFrameAt = 0 then now else w.lastFrameAt
        timer := true }, [])
  | .tick now =>
      if w.timer then
        if cfg.noFrameThresholdMs < getLastFrameAgeMs w.lastFrameAt now then
          (w, [.onTimeout (getLastFrameAgeMs w.lastFrameAt now)])
        else w.checkFps cfg now
      else (w, [])
  | .stop => ({ w with timer := false, fpsDropSince := 0, fpsDropFired := false }, [])
  | .resetFpsTracking => (w.resetFps, [])
  | .resetAfterTabResume now => ({ w with lastFrameAt := now }.resetFps, [])
  | .resetOrigin now => ({ w with lastFrameAt := now }, [])

end Watchdog

/-- The service under a list of events. -/
def service (cfg : Config) : Machine Watchdog Event Output where
  step := Watchdog.step cfg

/-! ## The history -/

/-- All frames since the tracking began, and all slow ticks of the spell that is on. -/
structure History where
  lastFrameAt : ℚ
  timer : Bool
  frames : List ℚ
  slowTicks : List ℚ

/-- Nothing has happened. -/
def History.new : History where
  lastFrameAt := 0
  timer := false
  frames := []
  slowTicks := []

/-- The tick is late enough in the spell, and none before it was. -/
def firstLate (thresholdMs : ℚ) (slowTicks : List ℚ) (now : ℚ) : Bool :=
  match slowTicks with
  | [] => false
  | first :: later =>
      thresholdMs ≤ now - first && later.all fun tick => tick - first < thresholdMs

namespace History

/-- The rate over the last frames. -/
def fps (h : History) (now : ℚ) : ℚ :=
  rate (SlotRing.window fpsRingSize h.frames).length (SlotRing.window fpsRingSize h.frames).head?
    now

/-- The FPS part of a tick. -/
def checkFps (cfg : Config) (h : History) (now : ℚ) : History × List Output :=
  if cfg.watchesFps then
    if cfg.slow (h.fps now) then
      ({ h with slowTicks := h.slowTicks ++ [now] },
        if firstLate cfg.thresholdMs h.slowTicks now then [.onFpsDrop (h.fps now)] else [])
    else ({ h with slowTicks := [] }, [])
  else (h, [])

/-- One call or one tick. -/
def step (cfg : Config) (h : History) : Event → History × List Output
  | .updateFrameTime now => ({ h with lastFrameAt := now, frames := h.frames ++ [now] }, [])
  | .start now =>
      ({ h with
        lastFrameAt := if h.lastFrameAt = 0 then now else h.lastFrameAt
        timer := true }, [])
  | .tick now =>
      if h.timer then
        if cfg.noFrameThresholdMs < getLastFrameAgeMs h.lastFrameAt now then
          (h, [.onTimeout (getLastFrameAgeMs h.lastFrameAt now)])
        else h.checkFps cfg now
      else (h, [])
  | .stop => ({ h with timer := false, slowTicks := [] }, [])
  | .resetFpsTracking => ({ h with frames := [], slowTicks := [] }, [])
  | .resetAfterTabResume now => ({ h with lastFrameAt := now, frames := [], slowTicks := [] }, [])
  | .resetOrigin now => ({ h with lastFrameAt := now }, [])

end History

/-- The history under a list of events. -/
def history (cfg : Config) : Machine History Event Output where
  step := History.step cfg

/-! ## The service keeps the history -/

/-- The two fields of the service tell the spell. -/
structure Spell (thresholdMs : ℚ) (since : ℚ) (fired : Bool) (slowTicks : List ℚ) : Prop where
  since : since = slowTicks.headD 0
  nonzero : ∀ tick ∈ slowTicks, tick ≠ 0
  fired : fired = true ↔ ∃ first later, slowTicks = first :: later ∧
    ∃ tick ∈ later, thresholdMs ≤ tick - first

theorem spell_none (thresholdMs : ℚ) : Spell thresholdMs 0 false [] where
  since := rfl
  nonzero tick h := absurd h List.not_mem_nil
  fired := by
    constructor
    · intro h
      cases h
    · rintro ⟨first, later, h, -⟩
      cases h

/-- The service and the history tell the same. -/
structure Tracks (cfg : Config) (w : Watchdog) (h : History) : Prop where
  lastFrameAt : w.lastFrameAt = h.lastFrameAt
  timer : w.timer = h.timer
  ring : w.fpsRing.Holds fpsRingSize h.frames
  spell : Spell cfg.thresholdMs w.fpsDropSince w.fpsDropFired h.slowTicks

variable {cfg : Config} {w : Watchdog} {h : History}

theorem fpsRingSize_pos : 0 < fpsRingSize := by decide

theorem tracks_new : Tracks cfg .new .new where
  lastFrameAt := rfl
  timer := rfl
  ring := SlotRing.holds_empty fpsRingSize_pos
  spell := spell_none _

theorem Tracks.getCurrentFps (htracks : Tracks cfg w h) (now : ℚ) :
    w.getCurrentFps now = h.fps now := by
  rw [Watchdog.getCurrentFps, History.fps, htracks.ring.count_eq,
    htracks.ring.oldest_eq fpsRingSize_pos]

/-- One more slow tick: what is reported, and what the fields are then. -/
theorem Spell.tick {thresholdMs since now : ℚ} {fired : Bool} {slowTicks : List ℚ}
    (hspell : Spell thresholdMs since fired slowTicks) (hnow : now ≠ 0) :
    Spell thresholdMs (if since = 0 then now else since)
        (if since = 0 then fired else fired || thresholdMs ≤ now - since) (slowTicks ++ [now]) ∧
      (firstLate thresholdMs slowTicks now = true ↔
        since ≠ 0 ∧ fired = false ∧ thresholdMs ≤ now - since) := by
  obtain ⟨hsince, hnonzero, hfired⟩ := hspell
  have hnonzero' : ∀ tick ∈ slowTicks ++ [now], tick ≠ 0 := by
    intro tick htick
    obtain hold | hnew := List.mem_append.mp htick
    · exact hnonzero tick hold
    · rw [List.mem_singleton.mp hnew]
      exact hnow
  cases slowTicks with
  | nil =>
      obtain rfl : since = 0 := hsince
      rw [if_pos rfl, if_pos rfl]
      refine ⟨⟨rfl, hnonzero', ?_⟩, ?_⟩
      · rw [hfired]
        constructor
        · rintro ⟨first, later, h, -⟩
          cases h
        · rintro ⟨first, later, h, tick, htick, -⟩
          cases h
          cases htick
      · exact ⟨fun h => absurd h Bool.false_ne_true, fun h => absurd rfl h.1⟩
  | cons first later =>
      obtain rfl : since = first := hsince
      have hsince : since ≠ 0 := hnonzero since List.mem_cons_self
      have hold : fired = true ↔ ∃ tick ∈ later, thresholdMs ≤ tick - since := by
        rw [hfired]
        constructor
        · rintro ⟨first, later, h, hlate⟩
          cases h
          exact hlate
        · intro hlate
          exact ⟨since, later, rfl, hlate⟩
      rw [if_neg hsince, if_neg hsince]
      refine ⟨⟨rfl, hnonzero', ?_⟩, ?_⟩
      · rw [Bool.or_eq_true, hold, decide_eq_true_iff]
        constructor
        · rintro (⟨tick, htick, hlate⟩ | hlate)
          · exact ⟨since, later ++ [now], rfl, tick, List.mem_append_left _ htick, hlate⟩
          · exact ⟨since, later ++ [now], rfl, now, by simp, hlate⟩
        · rintro ⟨first, rest, h, tick, htick, hlate⟩
          obtain ⟨rfl, rfl⟩ := List.cons.inj h
          obtain hin | hnew := List.mem_append.mp htick
          · exact .inl ⟨tick, hin, hlate⟩
          · rw [List.mem_singleton.mp hnew] at hlate
            exact .inr hlate
      · rw [firstLate, Bool.and_eq_true, decide_eq_true_iff, List.all_eq_true,
          ← Bool.not_eq_true, hold]
        constructor
        · rintro ⟨hlate, hnone⟩
          refine ⟨hsince, ?_, hlate⟩
          rintro ⟨tick, htick, hle⟩
          exact absurd (of_decide_eq_true (hnone tick htick)) (Rat.not_lt.mpr hle)
        · rintro ⟨-, hnone, hlate⟩
          refine ⟨hlate, ?_⟩
          intro tick htick
          apply decide_eq_true
          by_contra hle
          exact hnone ⟨tick, htick, Rat.not_lt.mp hle⟩

/-- The FPS part of a tick. -/
theorem Tracks.checkFps (htracks : Tracks cfg w h) {now : ℚ} (hnow : now ≠ 0) :
    (w.checkFps cfg now).2 = (h.checkFps cfg now).2 ∧
      Tracks cfg (w.checkFps cfg now).1 (h.checkFps cfg now).1 := by
  have hfps := htracks.getCurrentFps now
  obtain ⟨hnext, hlate⟩ := htracks.spell.tick hnow
  rw [Watchdog.checkFps, History.checkFps, hfps]
  by_cases hwatches : cfg.watchesFps = true
  · rw [if_pos hwatches, if_pos hwatches]
    by_cases hslow : cfg.slow (h.fps now) = true
    · rw [if_pos hslow, if_pos hslow]
      by_cases hsince : w.fpsDropSince = 0
      · rw [if_pos hsince, if_pos hsince] at hnext
        rw [if_pos hsince, if_neg fun h => (hlate.mp h).1 hsince]
        exact ⟨rfl, htracks.lastFrameAt, htracks.timer, htracks.ring, hnext⟩
      · rw [if_neg hsince, if_neg hsince] at hnext
        rw [if_neg hsince]
        by_cases hfire : w.fpsDropFired = false ∧ cfg.thresholdMs ≤ now - w.fpsDropSince
        · rw [decide_eq_true hfire.2, Bool.or_true] at hnext
          rw [if_pos hfire, if_pos (hlate.mpr ⟨hsince, hfire⟩)]
          exact ⟨rfl, htracks.lastFrameAt, htracks.timer, htracks.ring, hnext⟩
        · have hsame : (w.fpsDropFired || decide (cfg.thresholdMs ≤ now - w.fpsDropSince)) =
              w.fpsDropFired := by
            cases hfired : w.fpsDropFired with
            | true => rfl
            | false =>
                rw [Bool.false_or]
                exact decide_eq_false fun hle => hfire ⟨hfired, hle⟩
          rw [hsame] at hnext
          rw [if_neg hfire, if_neg fun h => hfire (hlate.mp h).2]
          exact ⟨rfl, htracks.lastFrameAt, htracks.timer, htracks.ring, hnext⟩
    · rw [if_neg hslow, if_neg hslow]
      exact ⟨rfl, htracks.lastFrameAt, htracks.timer, htracks.ring, spell_none _⟩
  · rw [if_neg hwatches, if_neg hwatches]
    exact ⟨rfl, htracks⟩

/-- One call or one tick: the same is reported, and the same is told. -/
theorem Tracks.step (htracks : Tracks cfg w h) {e : Event} (hnow : e.now ≠ some 0) :
    (w.step cfg e).2 = (h.step cfg e).2 ∧ Tracks cfg (w.step cfg e).1 (h.step cfg e).1 := by
  cases e with
  | updateFrameTime now =>
      exact ⟨rfl, rfl, htracks.timer, htracks.ring.push fpsRingSize_pos now, htracks.spell⟩
  | start now =>
      refine ⟨rfl, ?_, rfl, htracks.ring, htracks.spell⟩
      show (if w.lastFrameAt = 0 then now else w.lastFrameAt) =
        if h.lastFrameAt = 0 then now else h.lastFrameAt
      rw [htracks.lastFrameAt]
  | tick now =>
      rw [Watchdog.step, History.step, htracks.timer, htracks.lastFrameAt]
      split
      · split
        · exact ⟨rfl, htracks⟩
        · apply htracks.checkFps
          rintro rfl
          exact hnow rfl
      · exact ⟨rfl, htracks⟩
  | stop => exact ⟨rfl, htracks.lastFrameAt, rfl, htracks.ring, spell_none _⟩
  | resetFpsTracking =>
      exact ⟨rfl, htracks.lastFrameAt, htracks.timer, SlotRing.holds_empty fpsRingSize_pos,
        spell_none _⟩
  | resetAfterTabResume now =>
      exact ⟨rfl, rfl, htracks.timer, SlotRing.holds_empty fpsRingSize_pos, spell_none _⟩
  | resetOrigin now => exact ⟨rfl, rfl, htracks.timer, htracks.ring, htracks.spell⟩

/-- Whatever the player does, the service reports what the history reports, and shows the
same rate: that of the last frames since the tracking began; and a slow spell is reported
once, at its first tick that is late enough. -/
theorem trace_history (cfg : Config) (events : List Event) (hnow : ∀ e ∈ events, e.now ≠ some 0)
    (now : ℚ) :
    (service cfg).trace .new events = (history cfg).trace .new events ∧
      ((service cfg).run .new events).getCurrentFps now =
        ((history cfg).run .new events).fps now := by
  have hrun : ∀ w h, Tracks cfg w h →
      (service cfg).trace w events = (history cfg).trace h events ∧
        Tracks cfg ((service cfg).run w events) ((history cfg).run h events) := by
    induction events with
    | nil => exact fun w h htracks => ⟨rfl, htracks⟩
    | cons e events ih =>
        intro w h htracks
        obtain ⟨hreport, hnext⟩ := htracks.step (hnow e List.mem_cons_self)
        obtain ⟨htrace, hend⟩ := ih (fun e' he' => hnow e' (List.mem_cons_of_mem e he')) _ _ hnext
        exact ⟨congrArg₂ (· ++ ·) hreport htrace, hend⟩
  obtain ⟨htrace, hend⟩ := hrun .new .new tracks_new
  exact ⟨htrace, hend.getCurrentFps now⟩

/-! ## One report for each spell -/

/-- A report that frames come slowly. -/
def Output.isDrop : Output → Bool
  | .onFpsDrop _ => true
  | .onTimeout _ => false

/-- The spell goes on: the player neither stops the watchdog nor begins the tracking again,
and every tick that looks at the rate finds it low. -/
def Lasting (cfg : Config) (w : Watchdog) : Event → Prop
  | .stop | .resetFpsTracking | .resetAfterTabResume _ => False
  | .tick now => w.timer = true → getLastFrameAgeMs w.lastFrameAt now ≤ cfg.noFrameThresholdMs →
      cfg.watchesFps = true → cfg.slow (w.getCurrentFps now) = true
  | .updateFrameTime _ | .start _ | .resetOrigin _ => True

/-- A report may still come. -/
def Watchdog.due (w : Watchdog) : ℕ := if w.fpsDropFired then 0 else 1

/-- As long as a spell lasts, it is reported once at most. -/
theorem drop_once (cfg : Config) (w : Watchdog) (events : List Event)
    (hlasting : (service cfg).Along (Lasting cfg) w events) :
    ((service cfg).trace w events).countP Output.isDrop ≤ 1 := by
  have hpaid : ∀ w e, True → Lasting cfg w e →
      ((service cfg).emits w e).countP Output.isDrop + ((service cfg).next w e).due ≤ w.due := by
    intro w e _ hlasting
    show (w.step cfg e).2.countP Output.isDrop + (w.step cfg e).1.due ≤ w.due
    cases e with
    | stop | resetFpsTracking | resetAfterTabResume now => exact hlasting.elim
    | updateFrameTime now | start now | resetOrigin now => exact Nat.le_of_eq (Nat.zero_add _)
    | tick now =>
        rw [Watchdog.step]
        split
        · next htimer =>
            split
            · exact Nat.le_of_eq (Nat.zero_add _)
            · next hage =>
                rw [Watchdog.checkFps]
                split
                · next hwatches =>
                    rw [if_pos (hlasting htimer (Rat.not_lt.mp hage) hwatches)]
                    split
                    · exact Nat.le_of_eq (Nat.zero_add _)
                    · split
                      · next hfire =>
                          rw [Watchdog.due, Watchdog.due, hfire.1]
                          exact Nat.le_refl 1
                      · exact Nat.le_of_eq (Nat.zero_add _)
                · exact Nat.le_of_eq (Nat.zero_add _)
        · exact Nat.le_of_eq (Nat.zero_add _)
  have hcount := (service cfg).countP_trace_le Watchdog.due Output.isDrop
    (fun _ _ _ _ => trivial) hpaid hlasting trivial
  have hdue : w.due ≤ 1 := by
    rw [Watchdog.due]
    split
    · exact Nat.zero_le 1
    · exact Nat.le_refl 1
  omega

/-! ### A run -/

/-- The defaults of the player. -/
def sampleConfig : Config where
  noFrameThresholdMs := 3000
  minAcceptableFps := some 5
  fpsDropThresholdMs := some 3000
  onFpsDrop := true

/-- A frame a second, and a tick behind each. -/
def sampleSpell : List Event :=
  [.start 1000, .updateFrameTime 1000, .updateFrameTime 2000, .tick 2500, .updateFrameTime 3000,
    .tick 3500, .updateFrameTime 4000, .tick 5500, .tick 6500]

theorem trace_history_sample :
    (service sampleConfig).trace .new sampleSpell =
      (history sampleConfig).trace .new sampleSpell := by
  apply (trace_history sampleConfig sampleSpell _ 6500).1
  decide +kernel

theorem drop_once_sample :
    ((service sampleConfig).trace .new sampleSpell).countP Output.isDrop ≤ 1 := by
  apply drop_once
  refine ⟨trivial, trivial, trivial, ?_, trivial, ?_, trivial, ?_, ?_, trivial⟩
  all_goals exact fun _ _ _ => by decide +kernel

end CameraStack.Player.WatchdogService
