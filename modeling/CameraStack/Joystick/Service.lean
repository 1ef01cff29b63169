/-
# The joystick service and its stop

Behind its start the service pings every two seconds, and runs one loop that polls for pongs and one
that synchronizes the clock; each of them waits for a request and arms its timer again.  `stop`
clears the timers that the service holds.  A request in flight, the delay of the first poll and the
pauses of the first burst of synchronizations are not held, so that the loops go on behind them.
-/

import CameraStack.Lib.Machine
import Mathlib.Data.List.Count

namespace CameraStack.Joystick

open CameraStack.Lib

/-! ## Timers and requests -/

/-- What goes on until the service is stopped. -/
inductive Loop where
  | ping
  | pong
  | clockSync
  deriving DecidableEq

/-- What a timer is for: the timer of a loop, which the service holds, the delay of the first poll,
or a pause in a burst, with the number of synchronizations behind the next one. -/
inductive TimerKind where
  | loop (loop : Loop)
  | startUp
  | pause (left : ℕ)
  deriving DecidableEq

/-- A timer that is armed. -/
structure Timer where
  handle : ℕ
  kind : TimerKind
  deriving DecidableEq

/-- A request in flight, with what waits for it: the start, a loop, or a burst of clock
synchronizations with the number of those behind this one. -/
inductive Request where
  | gamepadConfig
  | pollPong
  | clockSync
  | burst (left : ℕ)
  deriving DecidableEq

/-- What the service does.  The request of the configuration is not among it. -/
inductive Activity where
  | armed (kind : TimerKind) (delay : ℕ)
  | pollPong
  | clockSync
  | ping (id : ℕ)
  deriving DecidableEq

/-- The loop that a timer belongs to. -/
def TimerKind.drives : TimerKind → Option Loop
  | .loop which => some which
  | .startUp => some .pong
  | .pause _ => none

/-- Whether a loop goes on behind a request. -/
def Request.drives (loop : Loop) : Request → Bool
  | .gamepadConfig => true
  | .pollPong => decide (loop = .pong)
  | .clockSync => decide (loop = .clockSync)
  | .burst _ => false

/-! ## The service -/

def pollMin : ℕ := 2000
def pollMax : ℕ := 16000
def clockMin : ℕ := 60000
def clockMax : ℕ := 300000

/-- `JoystickService`, with the timers that are armed and the requests in flight. -/
structure JoystickService where
  started : Bool := false
  pingId : ℕ := 0
  pongDelay : ℕ := pollMin
  clockDelay : ℕ := clockMin
  pingTimer : Option ℕ := none
  pongTimer : Option ℕ := none
  clockSyncTimer : Option ℕ := none
  armed : List Timer := []
  timersSet : ℕ := 0
  inFlight : List Request := []

namespace JoystickService

/-- A part of a task: the state behind it and what the service does. -/
abbrev Part := JoystickService → JoystickService × List Activity

/-- One part behind the other. -/
def andThen (first second : Part) : Part := fun s =>
  let behind := second (first s).1
  (behind.1, (first s).2 ++ behind.2)

/-- `setTimeout` or `setInterval` -/
def arm (kind : TimerKind) (delay : ℕ) : Part := fun s =>
  ({ s with
      armed := s.armed ++ [{ handle := s.timersSet, kind }]
      timersSet := s.timersSet + 1 },
    [.armed kind delay])

/-- The handle of a loop. -/
def held (s : JoystickService) : Loop → Option ℕ
  | .ping => s.pingTimer
  | .pong => s.pongTimer
  | .clockSync => s.clockSyncTimer

/-- The handle of a loop is set. -/
def hold (loop : Loop) (handle : Option ℕ) (s : JoystickService) : JoystickService :=
  match loop with
  | .ping => { s with pingTimer := handle }
  | .pong => { s with pongTimer := handle }
  | .clockSync => { s with clockSyncTimer := handle }

/-- A timer of a loop is armed and held. -/
def schedule (loop : Loop) (delay : ℕ) : Part := fun s =>
  ((arm (.loop loop) delay s).1.hold loop (some s.timersSet), (arm (.loop loop) delay s).2)

/-- `_schedulePongPoll` -/
def schedulePongPoll : Part := fun s => schedule .pong s.pongDelay s

/-- `_scheduleClockSync` -/
def scheduleClockSync : Part := fun s => schedule .clockSync s.clockDelay s

/-- `_pollPong` up to its request. -/
def pollPong : Part := fun s => ({ s with inFlight := s.inFlight ++ [.pollPong] }, [.pollPong])

/-- `_doClockSync` up to its request, for the one that waits for it. -/
def doClockSync (request : Request) : Part := fun s =>
  ({ s with inFlight := s.inFlight ++ [request] }, [.clockSync])

/-- `_doClockSyncBurst` up to its first request. -/
def doClockSyncBurst : ℕ → Part
  | 0 => fun s => (s, [])
  | n + 1 => doClockSync (.burst n)

/-- `_startE2eMeasurement` -/
def startE2eMeasurement : Part :=
  andThen (doClockSyncBurst 3)
    (andThen scheduleClockSync (andThen (schedule .ping 2000) (arm .startUp 1000)))

/-- `boot` up to its request. -/
def boot (joystickEnabled : Bool) : Part := fun s =>
  if joystickEnabled = false then (s, [])
  else if s.started then (s, [])
  else ({ s with started := true, inFlight := s.inFlight ++ [.gamepadConfig] }, [])

/-- `_sendPing` -/
def sendPing (ready : Bool) : Part := fun s =>
  if ready then ({ s with pingId := s.pingId + 1 }, [.ping (s.pingId + 1)]) else (s, [])

/-- The callback of an armed timer; `ready` is whether the text room is.  A timer is armed no longer
once it fires, except for the interval of the pings. -/
def fire (timer : Timer) (ready : Bool) : Part := fun s =>
  let fired := { s with armed := s.armed.erase timer }
  match timer.kind with
  | .loop .ping => sendPing ready s
  | .loop .pong => pollPong fired
  | .loop .clockSync => doClockSync .clockSync fired
  | .startUp => schedulePongPoll fired
  | .pause left => doClockSync (.burst left) fired

/-- What goes on behind a request.  It was a success, or for the configuration, the gamepad driver
starts with what it gave; a driver that throws ends `boot`. -/
def complete (request : Request) (ok : Bool) : Part := fun s =>
  let done := { s with inFlight := s.inFlight.erase request }
  match request with
  | .gamepadConfig => if ok then startE2eMeasurement done else (done, [])
  | .pollPong =>
      schedulePongPoll
        { done with pongDelay := if ok then pollMin else min (s.pongDelay * 2) pollMax }
  | .clockSync =>
      scheduleClockSync
        { done with clockDelay := if ok then clockMin else min (s.clockDelay * 2) clockMax }
  | .burst 0 => (done, [])
  | .burst (left + 1) => arm (.pause left) 800 done

/-- A handle is cleared: its timer is disarmed. -/
def clear (loop : Loop) (s : JoystickService) : JoystickService :=
  match s.held loop with
  | some handle =>
      { s with armed := s.armed.filter fun timer => timer.handle ≠ handle }.hold loop none
  | none => s

/-- `stop` -/
def stop (s : JoystickService) : JoystickService := ((s.clear .ping).clear .pong).clear .clockSync

end JoystickService

/-- The tasks of the page that the service takes part in. -/
inductive JoystickEvent where
  | boot
  | fire (timer : Timer) (ready : Bool)
  | complete (request : Request) (ok : Bool)
  | stop

/-- The service, task after task.  Only an armed timer fires, and only a request in flight is
completed. -/
def joystickMachine (joystickEnabled : Bool) : Machine JoystickService JoystickEvent Activity where
  step s
    | .boot => s.boot joystickEnabled
    | .fire timer ready => if timer ∈ s.armed then s.fire timer ready else (s, [])
    | .complete request ok => if request ∈ s.inFlight then s.complete request ok else (s, [])
    | .stop => (s.stop, [])

/-! ## What outlives a stop -/

/-- Something goes on that no handle stops: a request in flight other than the last of a burst, the
delay of the first poll, or a pause of a burst. -/
def JoystickService.Suspended (s : JoystickService) : Prop :=
  (∃ request ∈ s.inFlight, request ≠ .burst 0) ∨ ∃ timer ∈ s.armed, ∀ loop, timer.kind ≠ .loop loop

/-- `boot` can start the service no more. -/
def JoystickService.BootDone (joystickEnabled : Bool) (s : JoystickService) : Prop :=
  joystickEnabled = true → s.started = true

/-- How often a loop goes on. -/
def JoystickService.tokens (loop : Loop) (s : JoystickService) : ℕ :=
  s.armed.countP (fun timer => timer.kind.drives = some loop) +
    s.inFlight.countP (Request.drives loop)

/-- What holds of the service between tasks. -/
structure JoystickService.Regular (s : JoystickService) : Prop where
  idle : s.started = false → s.armed = [] ∧ s.inFlight = []
  single : ∀ loop, s.tokens loop ≤ 1
  armed : ∀ timer ∈ s.armed, timer.handle < s.timersSet
  set : ∀ loop handle, s.held loop = some handle → handle < s.timersSet
  held : ∀ timer ∈ s.armed, ∀ loop, timer.kind = .loop loop ↔ s.held loop = some timer.handle

namespace JoystickService

variable {s : JoystickService}

@[simp] theorem armed_hold (loop : Loop) (handle : Option ℕ) (s : JoystickService) :
    (s.hold loop handle).armed = s.armed := by
  cases loop <;> rfl

@[simp] theorem inFlight_hold (loop : Loop) (handle : Option ℕ) (s : JoystickService) :
    (s.hold loop handle).inFlight = s.inFlight := by
  cases loop <;> rfl

@[simp] theorem started_hold (loop : Loop) (handle : Option ℕ) (s : JoystickService) :
    (s.hold loop handle).started = s.started := by
  cases loop <;> rfl

@[simp] theorem timersSet_hold (loop : Loop) (handle : Option ℕ) (s : JoystickService) :
    (s.hold loop handle).timersSet = s.timersSet := by
  cases loop <;> rfl

theorem held_hold (loop other : Loop) (handle : Option ℕ) (s : JoystickService) :
    (s.hold loop handle).held other = if other = loop then handle else s.held other := by
  cases loop <;> cases other <;> rfl

namespace Regular

/-- Fewer timers and requests, with the same handles, are as regular. -/
theorem fewer (h : s.Regular) {s' : JoystickService} (hstarted : s'.started = s.started)
    (harmed : s'.armed.Sublist s.armed) (hflight : s'.inFlight.Sublist s.inFlight)
    (hset : s'.timersSet = s.timersSet) (hheld : ∀ loop, s'.held loop = s.held loop) :
    s'.Regular where
  idle hidle := by
    obtain ⟨hnone, hnot⟩ := h.idle (hstarted ▸ hidle)
    exact ⟨List.sublist_nil.mp (hnone ▸ harmed), List.sublist_nil.mp (hnot ▸ hflight)⟩
  single loop :=
    (Nat.add_le_add harmed.countP_le hflight.countP_le).trans (h.single loop)
  armed timer ht := hset ▸ h.armed timer (harmed.subset ht)
  set loop handle hhandle := hset ▸ h.set loop handle (hheld loop ▸ hhandle)
  held timer ht loop := by
    rw [hheld]
    exact h.held timer (harmed.subset ht) loop

/-- A timer is armed where its loop does not go on, and held where the service holds it. -/
theorem add (h : s.Regular) (s' : JoystickService) {kind : TimerKind}
    (hstarted : s'.started = true)
    (harmed : s'.armed = s.armed ++ [{ handle := s.timersSet, kind }])
    (hset : s'.timersSet = s.timersSet + 1) (hflight : s'.inFlight = s.inFlight)
    (hheld : ∀ loop, s'.held loop = if kind = .loop loop then some s.timersSet else s.held loop)
    (hfree : ∀ loop, kind.drives = some loop → s.tokens loop = 0) : s'.Regular where
  idle hidle := absurd (hstarted.symm.trans hidle) (by decide)
  single loop := by
    have hold := h.single loop
    rw [tokens] at hold ⊢
    rw [harmed, hflight, List.countP_append, List.countP_singleton]
    split_ifs with hdrives
    · have hzero := hfree loop (of_decide_eq_true hdrives)
      rw [tokens] at hzero
      omega
    · exact hold
  armed timer ht := by
    rw [harmed, List.mem_append, List.mem_singleton] at ht
    rw [hset]
    rcases ht with ht | rfl
    · exact (h.armed timer ht).trans (Nat.lt_succ_self _)
    · exact Nat.lt_succ_self _
  set loop handle hhandle := by
    rw [hheld] at hhandle
    rw [hset]
    split_ifs at hhandle
    · exact Option.some_inj.mp hhandle ▸ Nat.lt_succ_self _
    · exact (h.set loop handle hhandle).trans (Nat.lt_succ_self _)
  held timer ht loop := by
    rw [harmed, List.mem_append, List.mem_singleton] at ht
    rw [hheld]
    rcases ht with ht | rfl
    · have hother : s.timersSet ≠ timer.handle := (h.armed timer ht).ne'
      split_ifs with hkind
      -- No other timer of this loop is armed, since the loop does not go on.
      · have hzero := hfree loop (by rw [hkind]; rfl)
        have hnone : timer.kind ≠ .loop loop := by
          intro heq
          have hcount : 0 < s.armed.countP fun timer => timer.kind.drives = some loop :=
            List.countP_pos_iff.mpr ⟨timer, ht, by rw [heq]; exact decide_eq_true rfl⟩
          rw [tokens] at hzero
          omega
        exact iff_of_false hnone fun heq => hother (Option.some_inj.mp heq)
      · exact h.held timer ht loop
    · split_ifs with hkind
      · exact iff_of_true hkind rfl
      · refine iff_of_false hkind fun heq => ?_
        exact (h.set loop _ heq).ne rfl

/-- A request is sent where the loops that it drives do not go on. -/
theorem request (h : s.Regular) (s' : JoystickService) {request : Request}
    (hstarted : s'.started = true) (harmed : s'.armed = s.armed)
    (hset : s'.timersSet = s.timersSet) (hflight : s'.inFlight = s.inFlight ++ [request])
    (hheld : ∀ loop, s'.held loop = s.held loop)
    (hfree : ∀ loop, request.drives loop = true → s.tokens loop = 0) : s'.Regular where
  idle hidle := absurd (hstarted.symm.trans hidle) (by decide)
  single loop := by
    have hold := h.single loop
    rw [tokens] at hold ⊢
    rw [harmed, hflight, List.countP_append, List.countP_singleton]
    split_ifs with hdrives
    · have hzero := hfree loop hdrives
      rw [tokens] at hzero
      omega
    · exact hold
  armed timer ht := hset ▸ h.armed timer (harmed ▸ ht)
  set loop handle hhandle := hset ▸ h.set loop handle (hheld loop ▸ hhandle)
  held timer ht loop := by
    rw [hheld]
    exact h.held timer (harmed ▸ ht) loop

end Regular

/-! ## The parts of a task -/

/-- The timer is no longer armed. -/
def fired (timer : Timer) (s : JoystickService) : JoystickService :=
  { s with armed := s.armed.erase timer }

/-- The request is no longer in flight. -/
def done (request : Request) (s : JoystickService) : JoystickService :=
  { s with inFlight := s.inFlight.erase request }

theorem tokens_fired {timer : Timer} (ht : timer ∈ s.armed) (loop : Loop) :
    (s.fired timer).tokens loop + (if timer.kind.drives = some loop then 1 else 0) =
      s.tokens loop := by
  have hperm := (List.perm_cons_erase ht).countP_eq fun t => t.kind.drives = some loop
  rw [List.countP_cons] at hperm
  simp only [decide_eq_true_eq] at hperm
  show (s.armed.erase timer).countP _ + s.inFlight.countP _ + _ = s.armed.countP _ + _
  rw [hperm]
  omega

theorem tokens_done {request : Request} (hr : request ∈ s.inFlight) (loop : Loop) :
    (s.done request).tokens loop + (if request.drives loop then 1 else 0) = s.tokens loop := by
  have hperm := (List.perm_cons_erase hr).countP_eq (Request.drives loop)
  rw [List.countP_cons] at hperm
  show s.armed.countP _ + (s.inFlight.erase request).countP _ + _ = _ + s.inFlight.countP _
  rw [hperm]
  omega

namespace Regular

theorem started_of_armed (h : s.Regular) {timer : Timer} (ht : timer ∈ s.armed) :
    s.started = true := by
  rw [← Bool.not_eq_false]
  intro hidle
  rw [(h.idle hidle).1] at ht
  cases ht

theorem started_of_inFlight (h : s.Regular) {request : Request} (hr : request ∈ s.inFlight) :
    s.started = true := by
  rw [← Bool.not_eq_false]
  intro hidle
  rw [(h.idle hidle).2] at hr
  cases hr

theorem fired (h : s.Regular) (timer : Timer) : (s.fired timer).Regular :=
  h.fewer rfl List.erase_sublist (List.Sublist.refl _) rfl fun _ => rfl

theorem done (h : s.Regular) (request : Request) : (s.done request).Regular :=
  h.fewer rfl (List.Sublist.refl _) List.erase_sublist rfl fun _ => rfl

theorem delays (h : s.Regular) (pong clock : ℕ) :
    { s with pongDelay := pong, clockDelay := clock }.Regular :=
  h.fewer rfl (List.Sublist.refl _) (List.Sublist.refl _) rfl fun _ => rfl

/-- The loop of a timer does not go on behind it. -/
theorem tokens_fired_eq_zero (h : s.Regular) {timer : Timer} (ht : timer ∈ s.armed) {loop : Loop}
    (hdrives : timer.kind.drives = some loop) : (s.fired timer).tokens loop = 0 := by
  have htokens := tokens_fired ht loop
  have hsingle := h.single loop
  rw [if_pos hdrives] at htokens
  omega

theorem tokens_done_eq_zero (h : s.Regular) {request : Request} (hr : request ∈ s.inFlight)
    {loop : Loop} (hdrives : request.drives loop = true) :
    (s.done request).tokens loop = 0 := by
  have htokens := tokens_done hr loop
  have hsingle := h.single loop
  rw [if_pos hdrives] at htokens
  omega

/-- A loop that does not go on arms its timer. -/
theorem schedule (h : s.Regular) (hstarted : s.started = true) {loop : Loop}
    (hfree : s.tokens loop = 0) (delay : ℕ) :
    (JoystickService.schedule loop delay s).1.Regular := by
  apply h.add (JoystickService.schedule loop delay s).1
    ((started_hold _ _ _).trans hstarted) (armed_hold _ _ _) (timersSet_hold _ _ _)
    (inFlight_hold _ _ _)
  · intro other
    rw [JoystickService.schedule, held_hold]
    simp only [TimerKind.loop.injEq, eq_comm]
    rfl
  · intro other hother
    rwa [← Option.some_inj.mp hother]

/-- The delay of the first poll, where the loop of the polls does not go on. -/
theorem startUp (h : s.Regular) (hstarted : s.started = true) (hfree : s.tokens .pong = 0)
    (delay : ℕ) : (JoystickService.arm .startUp delay s).1.Regular := by
  apply h.add (JoystickService.arm .startUp delay s).1 hstarted rfl rfl rfl
  · intro other
    rfl
  · intro other hother
    rwa [← Option.some_inj.mp hother]

theorem pause (h : s.Regular) (hstarted : s.started = true) (left delay : ℕ) :
    (JoystickService.arm (.pause left) delay s).1.Regular := by
  apply h.add (JoystickService.arm (.pause left) delay s).1 hstarted rfl rfl rfl
  · intro other
    rfl
  · intro other hother
    cases hother

theorem pollPong (h : s.Regular) (hstarted : s.started = true) (hfree : s.tokens .pong = 0) :
    (JoystickService.pollPong s).1.Regular := by
  apply h.request (JoystickService.pollPong s).1 hstarted rfl rfl rfl fun _ => rfl
  intro loop hloop
  rwa [of_decide_eq_true hloop]

theorem clockSync (h : s.Regular) (hstarted : s.started = true) (hfree : s.tokens .clockSync = 0) :
    (doClockSync .clockSync s).1.Regular := by
  apply h.request (doClockSync .clockSync s).1 hstarted rfl rfl rfl fun _ => rfl
  intro loop hloop
  rwa [of_decide_eq_true hloop]

theorem burst (h : s.Regular) (hstarted : s.started = true) (left : ℕ) :
    (doClockSync (.burst left) s).1.Regular := by
  apply h.request (doClockSync (.burst left) s).1 hstarted rfl rfl rfl fun _ => rfl
  intro loop hloop
  cases hloop

end Regular

/-! ## Tasks keep the service regular -/

theorem tokens_schedule (loop other : Loop) (delay : ℕ) :
    (schedule loop delay s).1.tokens other =
      s.tokens other + if loop = other then 1 else 0 := by
  simp only [schedule, tokens, arm, armed_hold, inFlight_hold, List.countP_append,
    List.countP_singleton, TimerKind.drives, Option.some_inj, decide_eq_true_eq]
  omega

theorem tokens_burst (left : ℕ) (loop : Loop) :
    (doClockSync (.burst left) s).1.tokens loop = s.tokens loop := by
  simp [doClockSync, tokens, Request.drives]

theorem started_schedule (loop : Loop) (delay : ℕ) :
    (schedule loop delay s).1.started = s.started := by
  simp [schedule, arm]

namespace Regular

theorem startE2eMeasurement (h : s.Regular) (hstarted : s.started = true)
    (hfree : ∀ loop, s.tokens loop = 0) : (JoystickService.startE2eMeasurement s).1.Regular := by
  have hburst := h.burst hstarted 2
  have hfree₁ : (doClockSync (.burst 2) s).1.tokens .clockSync = 0 := by rw [tokens_burst, hfree]
  have hclock := hburst.schedule hstarted hfree₁ s.clockDelay
  have hstarted₁ := (started_schedule .clockSync s.clockDelay).trans
    (show (doClockSync (.burst 2) s).1.started = true from hstarted)
  have hfree₂ : (JoystickService.schedule .clockSync s.clockDelay
      (doClockSync (.burst 2) s).1).1.tokens .ping = 0 := by
    rw [tokens_schedule, tokens_burst, hfree]
    rfl
  have hping := hclock.schedule hstarted₁ hfree₂ 2000
  have hstarted₂ := (started_schedule .ping 2000).trans hstarted₁
  refine hping.startUp hstarted₂ ?_ 1000
  rw [tokens_schedule, tokens_schedule, tokens_burst, hfree]
  rfl

/-- The callback of a timer keeps the service regular. -/
theorem fire (h : s.Regular) {timer : Timer} (ht : timer ∈ s.armed) (ready : Bool) :
    (JoystickService.fire timer ready s).1.Regular := by
  have hstarted := h.started_of_armed ht
  obtain ⟨handle, kind⟩ := timer
  cases kind with
  | loop loop =>
      cases loop with
      | ping =>
          show (JoystickService.sendPing ready s).1.Regular
          rw [JoystickService.sendPing]
          split_ifs
          · exact h.fewer rfl (List.Sublist.refl _) (List.Sublist.refl _) rfl fun _ => rfl
          · exact h
      | pong => exact (h.fired _).pollPong hstarted (h.tokens_fired_eq_zero ht rfl)
      | clockSync => exact (h.fired _).clockSync hstarted (h.tokens_fired_eq_zero ht rfl)
  | startUp => exact (h.fired _).schedule hstarted (h.tokens_fired_eq_zero ht rfl) s.pongDelay
  | pause left => exact (h.fired _).burst hstarted left

/-- What goes on behind a request keeps the service regular. -/
theorem complete (h : s.Regular) {request : Request} (hr : request ∈ s.inFlight) (ok : Bool) :
    (JoystickService.complete request ok s).1.Regular := by
  have hstarted := h.started_of_inFlight hr
  cases request with
  | gamepadConfig =>
      show (if ok then JoystickService.startE2eMeasurement (s.done .gamepadConfig)
        else (s.done .gamepadConfig, [])).1.Regular
      split_ifs
      · exact (h.done _).startE2eMeasurement hstarted fun loop => h.tokens_done_eq_zero hr rfl
      · exact h.done _
  | pollPong =>
      have hfree : (s.done .pollPong).tokens .pong = 0 := h.tokens_done_eq_zero hr rfl
      have hdelays := (h.done .pollPong).delays
        (if ok then pollMin else min (s.pongDelay * 2) pollMax) s.clockDelay
      exact hdelays.schedule hstarted hfree _
  | clockSync =>
      have hfree : (s.done .clockSync).tokens .clockSync = 0 := h.tokens_done_eq_zero hr rfl
      have hdelays := (h.done .clockSync).delays s.pongDelay
        (if ok then clockMin else min (s.clockDelay * 2) clockMax)
      exact hdelays.schedule hstarted hfree _
  | burst left =>
      cases left with
      | zero => exact h.done _
      | succ left => exact (h.done _).pause hstarted left 800

theorem boot (h : s.Regular) (joystickEnabled : Bool) :
    (JoystickService.boot joystickEnabled s).1.Regular := by
  rw [JoystickService.boot]
  split_ifs with hdisabled hstarted
  · exact h
  · exact h
  · obtain ⟨harmed, hflight⟩ := h.idle (Bool.eq_false_of_not_eq_true hstarted)
    have hfree : ∀ loop, s.tokens loop = 0 := by
      intro loop
      rw [tokens, harmed, hflight]
      rfl
    have hboot : { s with started := true }.Regular :=
      ⟨fun hidle => absurd hidle Bool.true_eq_false.mp, h.single, h.armed, h.set, h.held⟩
    exact hboot.request { s with started := true, inFlight := s.inFlight ++ [.gamepadConfig] }
      rfl rfl rfl rfl (fun _ => rfl) fun loop _ => hfree loop

end Regular

/-! ## Stopping -/

@[simp] theorem inFlight_clear (loop : Loop) (s : JoystickService) :
    (s.clear loop).inFlight = s.inFlight := by
  rw [clear]
  split <;> simp

@[simp] theorem started_clear (loop : Loop) (s : JoystickService) :
    (s.clear loop).started = s.started := by
  rw [clear]
  split <;> simp

@[simp] theorem timersSet_clear (loop : Loop) (s : JoystickService) :
    (s.clear loop).timersSet = s.timersSet := by
  rw [clear]
  split <;> simp

theorem held_clear (loop other : Loop) (s : JoystickService) :
    (s.clear loop).held other = if other = loop then none else s.held other := by
  rw [clear]
  split
  · rw [held_hold]
    rfl
  · next hnone =>
      split_ifs with heq
      · rw [heq, hnone]
      · rfl

theorem armed_clear (loop : Loop) (s : JoystickService) :
    (s.clear loop).armed = s.armed.filter fun timer => s.held loop ≠ some timer.handle := by
  rw [clear]
  split
  · next handle hhandle =>
      rw [armed_hold, hhandle]
      simp only [ne_eq, Option.some_inj, eq_comm]
  · next hnone => simp [hnone]

/-- What is still armed behind a stop. -/
theorem mem_armed_stop {timer : Timer} :
    timer ∈ s.stop.armed ↔ timer ∈ s.armed ∧ ∀ loop, s.held loop ≠ some timer.handle := by
  simp only [stop, armed_clear, held_clear, List.mem_filter, reduceCtorEq, if_false,
    decide_eq_true_eq, and_assoc]
  constructor
  · intro h
    refine ⟨h.1, fun loop => ?_⟩
    cases loop with
    | ping => exact h.2.1
    | pong => exact h.2.2.1
    | clockSync => exact h.2.2.2
  · intro h
    exact ⟨h.1, h.2 .ping, h.2 .pong, h.2 .clockSync⟩

namespace Regular

theorem clear (h : s.Regular) (loop : Loop) : (s.clear loop).Regular where
  idle hidle := by
    rw [started_clear] at hidle
    rw [armed_clear, inFlight_clear, (h.idle hidle).1, (h.idle hidle).2]
    exact ⟨rfl, rfl⟩
  single other := by
    have hsub : (s.clear loop).armed.Sublist s.armed := armed_clear loop s ▸ List.filter_sublist
    have hold := h.single other
    rw [tokens, inFlight_clear]
    exact (Nat.add_le_add_right hsub.countP_le _).trans hold
  armed timer ht := by
    rw [armed_clear] at ht
    rw [timersSet_clear]
    exact h.armed timer (List.mem_filter.mp ht).1
  set other handle hhandle := by
    rw [held_clear] at hhandle
    rw [timersSet_clear]
    split_ifs at hhandle
    exact h.set other handle hhandle
  held timer ht other := by
    rw [armed_clear] at ht
    obtain ⟨ht, hkept⟩ := List.mem_filter.mp ht
    rw [held_clear, h.held timer ht other]
    split_ifs with heq
    · rw [heq]
      exact iff_of_false (of_decide_eq_true hkept) not_false
    · rfl

theorem stop (h : s.Regular) : s.stop.Regular :=
  ((h.clear .ping).clear .pong).clear .clockSync

/-- A stop disarms the timers of the loops, and no other. -/
theorem mem_armed_stop_iff (h : s.Regular) {timer : Timer} :
    timer ∈ s.stop.armed ↔ timer ∈ s.armed ∧ ∀ loop, timer.kind ≠ .loop loop := by
  rw [mem_armed_stop]
  apply and_congr_right
  intro ht
  apply forall_congr'
  intro loop
  rw [ne_eq, ← h.held timer ht loop]

/-- One task keeps the service regular. -/
theorem next (joystickEnabled : Bool) (h : s.Regular) (e : JoystickEvent) :
    ((joystickMachine joystickEnabled).next s e).Regular := by
  cases e with
  | boot => exact h.boot joystickEnabled
  | fire timer ready =>
      simp only [joystickMachine, Machine.next]
      split_ifs with ht
      · exact h.fire ht ready
      · exact h
  | complete request ok =>
      simp only [joystickMachine, Machine.next]
      split_ifs with hr
      · exact h.complete hr ok
      · exact h
  | stop => exact h.stop

/-- Every run keeps the service regular. -/
theorem run (joystickEnabled : Bool) (events : List JoystickEvent) :
    ((joystickMachine joystickEnabled).run {} events).Regular := by
  apply (joystickMachine joystickEnabled).run_invariant_of_step fun s e h => h.next _ e
  constructor
  · intro _
    exact ⟨rfl, rfl⟩
  · intro loop
    exact Nat.zero_le 1
  · intro timer ht
    cases ht
  · intro loop handle hhandle
    cases loop <;> cases hhandle
  · intro timer ht
    cases ht

end Regular

/-- The service does nothing, and will do nothing. -/
def Silent (joystickEnabled : Bool) (s : JoystickService) : Prop :=
  s.armed = [] ∧ (∀ request ∈ s.inFlight, request = .burst 0) ∧ s.BootDone joystickEnabled

theorem Silent.next {joystickEnabled : Bool} (h : s.Silent joystickEnabled) (e : JoystickEvent) :
    ((joystickMachine joystickEnabled).next s e).Silent joystickEnabled ∧
      (joystickMachine joystickEnabled).emits s e = [] := by
  obtain ⟨harmed, hflight, hboot⟩ := h
  cases e with
  | boot =>
      simp only [joystickMachine, Machine.next, Machine.emits, boot]
      split_ifs with hdisabled hstarted
      · exact ⟨⟨harmed, hflight, hboot⟩, rfl⟩
      · exact ⟨⟨harmed, hflight, hboot⟩, rfl⟩
      · exact absurd (hboot (Bool.eq_true_of_not_eq_false hdisabled)) hstarted
  | fire timer ready =>
      have hnot : timer ∉ s.armed := by
        rw [harmed]
        exact List.not_mem_nil
      simp only [joystickMachine, Machine.next, Machine.emits, if_neg hnot]
      exact ⟨⟨harmed, hflight, hboot⟩, trivial⟩
  | complete request ok =>
      simp only [joystickMachine, Machine.next, Machine.emits]
      split_ifs with hr
      · rw [hflight request hr]
        refine ⟨⟨harmed, fun other ho => hflight other (List.mem_of_mem_erase ho), hboot⟩, rfl⟩
      · exact ⟨⟨harmed, hflight, hboot⟩, rfl⟩
  | stop =>
      refine ⟨⟨?_, ?_, ?_⟩, rfl⟩
      · rw [List.eq_nil_iff_forall_not_mem]
        intro timer ht
        have hmem := (mem_armed_stop.mp ht).1
        rw [harmed] at hmem
        cases hmem
      · simp only [joystickMachine, Machine.next, stop, inFlight_clear]
        exact hflight
      · simp only [joystickMachine, Machine.next, BootDone, stop, started_clear]
        exact hboot

theorem Silent.trace_eq_nil {joystickEnabled : Bool} (h : s.Silent joystickEnabled)
    (events : List JoystickEvent) : (joystickMachine joystickEnabled).trace s events = [] := by
  induction events generalizing s with
  | nil => rfl
  | cons e events ih =>
      rw [Machine.trace_cons, (h.next e).2, ih (h.next e).1]
      rfl

/-! ## What goes on behind a stop -/

/-- A loop that goes on behind its request does something. -/
theorem complete_ne_nil {request : Request} (hrequest : request ≠ .burst 0) (s : JoystickService) :
    (s.complete request true).2 ≠ [] := by
  cases request with
  | gamepadConfig => exact List.cons_ne_nil _ _
  | pollPong => exact List.cons_ne_nil _ _
  | clockSync => exact List.cons_ne_nil _ _
  | burst left =>
      cases left with
      | zero => exact absurd rfl hrequest
      | succ left => exact List.cons_ne_nil _ _

/-- A timer that no handle stops does something. -/
theorem fire_ne_nil {timer : Timer} (htimer : ∀ loop, timer.kind ≠ .loop loop)
    (s : JoystickService) : (s.fire timer false).2 ≠ [] := by
  obtain ⟨handle, kind⟩ := timer
  cases kind with
  | loop loop => exact absurd rfl (htimer loop)
  | startUp => exact List.cons_ne_nil _ _
  | pause left => exact List.cons_ne_nil _ _

/-- Whatever is suspended goes on behind the stop. -/
theorem Regular.trace_of_suspended (h : s.Regular) (hsuspended : s.Suspended)
    (joystickEnabled : Bool) :
    ∃ after, (joystickMachine joystickEnabled).trace s.stop after ≠ [] := by
  rcases hsuspended with ⟨request, hr, hrequest⟩ | ⟨timer, ht, htimer⟩
  · refine ⟨[.complete request true], ?_⟩
    have hstill : request ∈ s.stop.inFlight := by simpa [JoystickService.stop] using hr
    rw [Machine.trace_cons, Machine.trace_nil, List.append_nil]
    simp only [joystickMachine, Machine.emits, if_pos hstill]
    exact complete_ne_nil hrequest s.stop
  · refine ⟨[.fire timer false], ?_⟩
    have hstill : timer ∈ s.stop.armed := h.mem_armed_stop_iff.mpr ⟨ht, htimer⟩
    rw [Machine.trace_cons, Machine.trace_nil, List.append_nil]
    simp only [joystickMachine, Machine.emits, if_pos hstill]
    exact fire_ne_nil htimer s.stop

/-- A service that was not started can be, behind the stop. -/
theorem trace_of_not_bootDone {joystickEnabled : Bool} (hboot : ¬ s.BootDone joystickEnabled) :
    ∃ after, (joystickMachine joystickEnabled).trace s.stop after ≠ [] := by
  rw [BootDone, Classical.not_imp] at hboot
  refine ⟨[.boot, .complete .gamepadConfig true], ?_⟩
  have hstarted : s.stop.started ≠ true := by simpa [stop] using hboot.2
  have hnext : (joystickMachine joystickEnabled).next s.stop .boot =
      { s.stop with started := true, inFlight := s.stop.inFlight ++ [.gamepadConfig] } := by
    simp [joystickMachine, Machine.next, boot, hboot.1, hstarted]
  rw [Machine.trace_cons, Machine.trace_cons, hnext]
  apply List.append_ne_nil_of_right_ne_nil
  apply List.append_ne_nil_of_left_ne_nil
  simp only [joystickMachine, Machine.emits,
    if_pos (List.mem_append_right _ (List.mem_singleton_self _))]
  exact complete_ne_nil Request.noConfusion _

/-- Where nothing is suspended, a stopped service is silent. -/
theorem Regular.silent_stop (h : s.Regular) {joystickEnabled : Bool} (hsuspended : ¬ s.Suspended)
    (hboot : s.BootDone joystickEnabled) : s.stop.Silent joystickEnabled := by
  rw [Suspended, not_or] at hsuspended
  refine ⟨?_, ?_, ?_⟩
  · rw [List.eq_nil_iff_forall_not_mem]
    intro timer ht
    exact hsuspended.2 ⟨timer, h.mem_armed_stop_iff.mp ht⟩
  · intro request hr
    have hbefore : request ∈ s.inFlight := by simpa [JoystickService.stop] using hr
    by_contra hne
    exact hsuspended.1 ⟨request, hbefore, hne⟩
  · simpa [BootDone, JoystickService.stop] using hboot

end JoystickService

/-- In every run, the service does nothing behind a stop, whatever happens there, if and only if the
stop finds nothing suspended and `boot` can start the service no more. -/
theorem stop_final_iff (joystickEnabled : Bool) (before : List JoystickEvent) :
    (∀ after, (joystickMachine joystickEnabled).trace
        ((joystickMachine joystickEnabled).run {} (before ++ [.stop])) after = []) ↔
      ¬ ((joystickMachine joystickEnabled).run {} before).Suspended ∧
        ((joystickMachine joystickEnabled).run {} before).BootDone joystickEnabled := by
  have h := JoystickService.Regular.run joystickEnabled before
  have hstop : (joystickMachine joystickEnabled).run {} (before ++ [.stop]) =
      ((joystickMachine joystickEnabled).run {} before).stop := by
    rw [Machine.run_append]
    rfl
  rw [hstop]
  constructor
  · intro hsilent
    constructor
    · intro hsuspended
      obtain ⟨after, hafter⟩ := h.trace_of_suspended hsuspended joystickEnabled
      exact hafter (hsilent after)
    · by_contra hboot
      obtain ⟨after, hafter⟩ := JoystickService.trace_of_not_bootDone hboot
      exact hafter (hsilent after)
  · intro hquiet after
    exact (h.silent_stop hquiet.1 hquiet.2).trace_eq_nil after

/-- The configuration comes in behind the stop, and the service starts. -/
theorem stop_during_boot :
    ¬ ∀ after, (joystickMachine true).trace
        ((joystickMachine true).run {} [.boot, .stop]) after = [] := by
  intro hsilent
  exact absurd (hsilent [.complete .gamepadConfig true]) (by decide)

end CameraStack.Joystick
