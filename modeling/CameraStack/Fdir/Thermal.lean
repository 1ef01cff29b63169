/-
# Keeping the processor cool

A thread reads the temperature every few seconds.  When it is critical the encoder is
stopped, when it is warm the stream is made smaller, and when it is cool again both are
undone; in between nothing changes.  The thread remembers what it has done, and changes the
mode of the system, which others change too.

A turn of the thread is modelled in its parts: it reads the temperature and writes the file
of the profile, it changes the mode, and it runs the listener, access by access; any write
and any command may fail.  The listeners of other changes run in between, and so do commands
of others, who need not ask for the mode: the watchdog restarts the encoder in every mode.
-/

import CameraStack.Fdir.Enforcer
import Mathlib.Data.List.InsertIdx

namespace CameraStack.Fdir.Thermal

open CameraStack.Lib

/-! ## The monitor -/

/-- `PROFILE_NORMAL`, `PROFILE_LOW` and `PROFILE_STOP`. -/
inductive Profile
  | normal
  | low
  | stop
  deriving DecidableEq

/-- `THERMAL_WARN_C`, `THERMAL_CRIT_C` and `THERMAL_RESUME_C`. -/
structure Thresholds where
  warnC : ℚ
  critC : ℚ
  resumeC : ℚ

/-- What they are when nothing is set. -/
def defaultThresholds : Thresholds where
  warnC := 70
  critC := 80
  resumeC := 65

/-- The file of the profile: the monitor writes a word, and the listener an object. -/
inductive ProfileFile
  | absent
  | word (profile : Profile)
  | object (profile : FpsProfile)
  deriving DecidableEq

/-- The encoder and the file. -/
structure Pipeline where
  active : Bool
  file : ProfileFile

/-- A listener that has not finished, and whether the monitor runs it. -/
structure Job where
  callback : Callback
  own : Bool

/-- A listener that has not begun. -/
def Job.of (own : Bool) (previous target : SystemMode) : Job where
  callback := { previous := previous, target := target, next := target.firstStep }
  own := own

/-- What the monitor remembers, the change of the mode that its turn has still to make, the
mode, the encoder and the file, and the listeners in the order of their changes. -/
structure Station where
  currentProfile : Profile
  pending : Option ModeCall
  mode : ModeState
  pipeline : Pipeline
  jobs : List Job

/-- The station as it starts. -/
def Station.start (now : ℚ) : Station where
  currentProfile := .normal
  pending := none
  mode := { current := .nominal, enteredAtMono := now }
  pipeline := { active := true, file := .absent }
  jobs := []

/-- `set_fps_profile`, whose write may fail, and what the monitor remembers. -/
def Station.setFpsProfile (profile : Profile) (written : Bool) (s : Station) : Station :=
  { s with
    currentProfile := profile
    pipeline :=
      { s.pipeline with file := if written then .word profile else s.pipeline.file } }

/-- `_thermal_loop`, up to the change of the mode. -/
def Station.read (t : Thresholds) (temp : Option ℚ) (written : Bool) (s : Station) : Station :=
  match temp with
  | none => s
  | some temp =>
      if t.critC ≤ temp ∧ s.currentProfile ≠ .stop then
        { s.setFpsProfile .stop written with pending := some (.transition .safe) }
      else if t.warnC ≤ temp ∧ s.currentProfile = .normal then
        { s.setFpsProfile .low written with pending := some .degrade }
      else if temp ≤ t.resumeC ∧ s.currentProfile ≠ .normal then
        { s.setFpsProfile .normal written with pending := some (.promote .nominal) }
      else s

/-- The monitor is within a turn. -/
def Station.Busy (s : Station) : Prop := s.pending ≠ none ∨ ∃ job ∈ s.jobs, job.own = true

instance (s : Station) : Decidable s.Busy :=
  inferInstanceAs (Decidable ((s.pending ≠ none) ∨ _))

/-- A change of the mode starts a listener. -/
def Station.commit (own : Bool) (now : ℚ) (call : ModeCall) (s : Station) : Station :=
  let mode := call.commit now s.mode
  { s with
    mode := mode
    jobs :=
      if mode.current = s.mode.current then s.jobs
      else s.jobs ++ [.of own s.mode.current mode.current] }

/-- The monitor makes the change it has still to make. -/
def Station.change (now : ℚ) (s : Station) : Station :=
  match s.pending with
  | none => s
  | some call => { s with pending := none }.commit true now call

/-! ## The listener -/

/-- How an access of a listener comes out: as it should; or it fails, which is caught, and
leaves the encoder running or not; or something else is raised, which ends the listener. -/
inductive Outcome
  | done
  | failed (active : Bool)
  | raised
  deriving DecidableEq

/-- `_is_service_active`, which catches everything. -/
def asksActive : EnforceStep → Bool
  | .stopCheck | .stopVerify | .restartCheck | .ensureCheck | .ensureVerify => true
  | .stop | .clearCheck | .clearUnlink | .writeProfile | .restart | .start => false

namespace Pipeline

/-- An access that succeeds: what becomes of the encoder and the file, and what comes next,
`none` at the end. -/
def succeed (now : ℚ) (cb : Callback) (p : Pipeline) : Pipeline × Option EnforceStep :=
  match cb.next with
  | .stopCheck => (p, if p.active then some .stop else none)
  | .stop => ({ p with active := false }, some .stopVerify)
  | .stopVerify => (p, none)
  | .clearCheck => (p, some (if p.file = .absent then cb.afterProfile else .clearUnlink))
  | .clearUnlink => ({ p with file := .absent }, some cb.afterProfile)
  | .writeProfile => ({ p with file := .object (cb.target.fpsProfile now) }, some cb.afterProfile)
  | .restartCheck => (p, some (if p.active then .restart else .ensureCheck))
  | .restart => ({ p with active := true }, none)
  | .ensureCheck => (p, if p.active then none else some .start)
  | .start => ({ p with active := true }, some .ensureVerify)
  | .ensureVerify => (p, none)

/-- One that fails: a question is answered with no, a file stays as it is, and a command
leaves the encoder running or not. -/
def fail (active : Bool) (cb : Callback) (p : Pipeline) : Pipeline × Option EnforceStep :=
  match cb.next with
  | .stopCheck | .stopVerify | .ensureVerify => (p, none)
  | .stop => ({ p with active := active }, some .stopVerify)
  | .clearCheck | .clearUnlink | .writeProfile => (p, some cb.afterProfile)
  | .restartCheck => (p, some .ensureCheck)
  | .restart => ({ p with active := active }, none)
  | .ensureCheck => (p, some .start)
  | .start => ({ p with active := active }, some .ensureVerify)

/-- One access of `_on_mode_transition`. -/
def access (now : ℚ) (outcome : Outcome) (cb : Callback) (p : Pipeline) :
    Pipeline × Option EnforceStep :=
  match outcome with
  | .done => p.succeed now cb
  | .failed active => p.fail active cb
  | .raised => if asksActive cb.next then p.fail p.active cb else (p, none)

end Pipeline

/-- The listener at a position makes its next access, and leaves after its last. -/
def Station.step (now : ℚ) (i : ℕ) (outcome : Outcome) (s : Station) : Station :=
  match s.jobs[i]? with
  | none => s
  | some job =>
      let (pipeline, next) := s.pipeline.access now outcome job.callback
      { s with
        pipeline := pipeline
        jobs :=
          match next with
          | none => s.jobs.eraseIdx i
          | some next => s.jobs.set i { job with callback.next := next } }

/-! ## Runs -/

/-- The monitor reads the temperature, or makes its change; somebody else changes the mode; a
listener makes its next access; or somebody else commands the encoder. -/
inductive Event
  | read (temp : Option ℚ) (written : Bool)
  | change (now : ℚ)
  | call (now : ℚ) (call : ModeCall)
  | step (now : ℚ) (i : ℕ) (outcome : Outcome)
  | command (active : Bool)

/-- The station under a list of events, with the temperatures that are read: the monitor
reads no other before its turn is over. -/
def station (t : Thresholds) : Machine Station Event ℚ where
  step s
    | .read temp written => if s.Busy then (s, []) else (s.read t temp written, temp.toList)
    | .change now => (s.change now, [])
    | .call now call => (s.commit false now call, [])
    | .step now i outcome => (s.step now i outcome, [])
    | .command active => ({ s with pipeline := { s.pipeline with active := active } }, [])

/-- Nothing is under way. -/
structure Station.Idle (s : Station) : Prop where
  pending : s.pending = none
  jobs : s.jobs = []

/-! ## The listeners alone -/

/-- No word of the monitor is in the file. -/
def ProfileFile.Plain (file : ProfileFile) : Prop := ∀ profile, file ≠ .word profile

/-- The object in the file. -/
def ProfileFile.object? : ProfileFile → Option FpsProfile
  | .absent | .word _ => none
  | .object profile => some profile

/-- What the listeners work on. -/
def Pipeline.plant (p : Pipeline) : Plant where
  active := p.active
  fpsProfile := p.file.object?

/-- A station without its monitor. -/
def Station.enforcement (s : Station) : Enforcement where
  mode := s.mode
  plant := s.pipeline.plant
  callbacks := s.jobs.map Job.callback

/-- A step of the listeners in which nothing fails. -/
def ofEnforceEvent : EnforceEvent → Event
  | .commit now call => .call now call
  | .step now i => .step now i .done

theorem succeed_plant {p : Pipeline} (hplain : p.file.Plain) (now : ℚ) (cb : Callback) :
    cb.step now p.plant = ((p.succeed now cb).1.plant, (p.succeed now cb).2) ∧
      (p.succeed now cb).1.file.Plain := by
  obtain ⟨previous, target, next⟩ := cb
  obtain ⟨active, file⟩ := p
  cases next with
  | clearUnlink | writeProfile => exact ⟨rfl, fun _ => ProfileFile.noConfusion⟩
  | clearCheck =>
      cases file with
      | word profile => exact absurd rfl (hplain profile)
      | absent | object profile => exact ⟨rfl, hplain⟩
  | stopCheck | stop | stopVerify | restartCheck | restart | ensureCheck | start | ensureVerify =>
      exact ⟨rfl, hplain⟩

theorem commit_enforcement (now : ℚ) (call : ModeCall) (s : Station) :
    (s.commit false now call).enforcement = s.enforcement.commit now call := by
  by_cases hsame : (call.commit now s.mode).current = s.mode.current
  · rw [Station.enforcement, Station.commit]
    simp only [if_pos hsame]
    exact congrArg (Enforcement.mk _ _) (if_pos hsame).symm
  · rw [Station.enforcement, Station.commit]
    simp only [if_neg hsame, List.map_append]
    exact congrArg (Enforcement.mk _ _) (if_neg hsame).symm

section Accesses

variable {s : Station} {i : ℕ} {job : Job} {p : Pipeline} {now : ℚ} {outcome : Outcome}

theorem step_none (h : s.jobs[i]? = none) (now : ℚ) (outcome : Outcome) :
    s.step now i outcome = s := by
  rw [Station.step, h]

theorem step_last (hjob : s.jobs[i]? = some job)
    (hlast : s.pipeline.access now outcome job.callback = (p, none)) :
    s.step now i outcome = { s with pipeline := p, jobs := s.jobs.eraseIdx i } := by
  rw [Station.step, hjob]
  simp only [hlast]

theorem step_next {next : EnforceStep} (hjob : s.jobs[i]? = some job)
    (hnext : s.pipeline.access now outcome job.callback = (p, some next)) :
    s.step now i outcome =
      { s with pipeline := p, jobs := s.jobs.set i { job with callback.next := next } } := by
  rw [Station.step, hjob]
  simp only [hnext]

end Accesses

theorem step_enforcement {s : Station} (hplain : s.pipeline.file.Plain) (now : ℚ) (i : ℕ) :
    (s.step now i .done).enforcement = s.enforcement.step now i ∧
      (s.step now i .done).pipeline.file.Plain := by
  have hcallbacks : s.enforcement.callbacks[i]? = s.jobs[i]?.map Job.callback :=
    List.getElem?_map
  cases hjob : s.jobs[i]? with
  | none =>
      rw [hjob, Option.map_none] at hcallbacks
      rw [step_none hjob, Enforcement.step, hcallbacks]
      exact ⟨rfl, hplain⟩
  | some job =>
      rw [hjob, Option.map_some] at hcallbacks
      obtain ⟨hstep, hafter⟩ := succeed_plant hplain now job.callback
      rw [Enforcement.step, hcallbacks]
      have hplant : s.enforcement.plant = s.pipeline.plant := rfl
      simp only [hplant, hstep]
      cases haccess : s.pipeline.succeed now job.callback with
      | mk p next =>
          rw [haccess] at hafter
          cases next with
          | none =>
              rw [@step_last _ _ _ _ _ .done hjob haccess]
              refine ⟨?_, hafter⟩
              simp only [Station.enforcement, List.eraseIdx_map]
          | some next =>
              rw [@step_next _ _ _ _ _ .done _ hjob haccess]
              refine ⟨?_, hafter⟩
              simp only [Station.enforcement, List.map_set]

/-- As long as the monitor has not written and nothing fails, the listeners run as
`enforceMachine` does. -/
theorem run_enforcement (t : Thresholds) (events : List EnforceEvent) (s : Station)
    (hplain : s.pipeline.file.Plain) :
    ((station t).run s (events.map ofEnforceEvent)).enforcement =
      enforceMachine.run s.enforcement events := by
  induction events generalizing s with
  | nil => rfl
  | cons e events ih =>
      rw [List.map_cons, Machine.run_cons, Machine.run_cons]
      cases e with
      | commit now call =>
          have hcommit := ih (s.commit false now call) hplain
          rw [commit_enforcement] at hcommit
          exact hcommit
      | step now i =>
          obtain ⟨hstep, hplain⟩ := step_enforcement hplain now i
          have hrest := ih (s.step now i .done) hplain
          rw [hstep] at hrest
          exact hrest

/-! ## A listener comes to its end -/

/-- How many accesses a listener makes at most, this one included. -/
def left : EnforceStep → ℕ
  | .clearCheck => 6
  | .clearUnlink | .writeProfile => 5
  | .restartCheck => 4
  | .stopCheck | .ensureCheck => 3
  | .stop | .start => 2
  | .stopVerify | .restart | .ensureVerify => 1

theorem left_afterProfile (cb : Callback) : left cb.afterProfile ≤ 4 := by
  unfold Callback.afterProfile
  split_ifs
  · decide
  · decide

theorem left_succeed {p p' : Pipeline} {cb : Callback} {now : ℚ} {next : EnforceStep}
    (h : p.succeed now cb = (p', some next)) : left next < left cb.next := by
  obtain ⟨active, file⟩ := p
  unfold Pipeline.succeed at h
  cases hnext : cb.next with
  | stopCheck =>
      rw [hnext] at h
      cases active with
      | true =>
          cases h
          decide
      | false => cases h
  | ensureCheck =>
      rw [hnext] at h
      cases active with
      | true => cases h
      | false =>
          cases h
          decide
  | stop | start =>
      rw [hnext] at h
      cases h
      decide
  | clearCheck =>
      rw [hnext] at h
      obtain ⟨-, h⟩ := Prod.mk.inj h
      rw [← Option.some.inj h]
      have hafter := left_afterProfile cb
      split
      · exact Nat.lt_of_le_of_lt hafter (by decide)
      · decide
  | clearUnlink | writeProfile =>
      rw [hnext] at h
      obtain ⟨-, h⟩ := Prod.mk.inj h
      rw [← Option.some.inj h]
      exact Nat.lt_of_le_of_lt (left_afterProfile cb) (by decide)
  | restartCheck =>
      rw [hnext] at h
      obtain ⟨-, h⟩ := Prod.mk.inj h
      rw [← Option.some.inj h]
      cases active with
      | true =>
          show left .restart < left .restartCheck
          decide
      | false =>
          show left .ensureCheck < left .restartCheck
          decide
  | stopVerify | restart | ensureVerify =>
      rw [hnext] at h
      cases h

theorem left_fail {p p' : Pipeline} {cb : Callback} {active : Bool} {next : EnforceStep}
    (h : p.fail active cb = (p', some next)) : left next < left cb.next := by
  unfold Pipeline.fail at h
  cases hnext : cb.next with
  | stop | start | restartCheck | ensureCheck =>
      rw [hnext] at h
      cases h
      decide
  | clearCheck | clearUnlink | writeProfile =>
      rw [hnext] at h
      obtain ⟨-, h⟩ := Prod.mk.inj h
      rw [← Option.some.inj h]
      exact Nat.lt_of_le_of_lt (left_afterProfile cb) (by decide)
  | stopCheck | stopVerify | restart | ensureVerify =>
      rw [hnext] at h
      cases h

theorem left_access {p p' : Pipeline} {cb : Callback} {now : ℚ} {outcome : Outcome}
    {next : EnforceStep} (h : p.access now outcome cb = (p', some next)) :
    left next < left cb.next := by
  cases outcome with
  | done => exact left_succeed h
  | failed active => exact left_fail h
  | raised =>
      rw [Pipeline.access] at h
      split_ifs at h
      · exact left_fail h
      · cases h

/-- However their accesses come out, the listeners come to their ends. -/
theorem listeners_finish (t : Thresholds) (accesses : List (ℚ × Outcome)) (s : Station)
    (h : (s.jobs.map fun job => left job.callback.next).sum ≤ accesses.length) :
    ((station t).run s (accesses.map fun access => .step access.1 0 access.2)).jobs = [] := by
  induction accesses generalizing s with
  | nil =>
      cases hjobs : s.jobs with
      | nil => exact hjobs
      | cons job rest =>
          have hpositive : 0 < left job.callback.next := by
            cases job.callback.next with
            | _ => decide
          rw [hjobs, List.map_cons, List.sum_cons, List.length_nil] at h
          omega
  | cons access accesses ih =>
      refine ih (s.step access.1 0 access.2) ?_
      rw [List.length_cons] at h
      cases hjobs : s.jobs with
      | nil =>
          rw [step_none (by rw [hjobs]; rfl), hjobs]
          exact Nat.zero_le _
      | cons job rest =>
          rw [hjobs, List.map_cons, List.sum_cons] at h
          have hjob : s.jobs[0]? = some job := by
            rw [hjobs]
            rfl
          cases haccess : s.pipeline.access access.1 access.2 job.callback with
          | mk p next =>
              cases next with
              | none =>
                  have hpositive : 0 < left job.callback.next := by
                    cases job.callback.next with
                    | _ => decide
                  rw [step_last hjob haccess, hjobs, List.eraseIdx_cons_zero]
                  show (rest.map fun job => left job.callback.next).sum ≤ accesses.length
                  omega
              | some next =>
                  have hless := left_access haccess
                  rw [step_next hjob haccess, hjobs, List.set_cons_zero]
                  show (List.map (fun job : Job => left job.callback.next) (_ :: rest)).sum ≤ _
                  rw [List.map_cons, List.sum_cons]
                  show left next + _ ≤ _
                  omega

/-! ## One listener -/

/-- The file is as a mode that streams wants it. -/
def Pipeline.FileFor (p : Pipeline) : SystemMode → Prop
  | .nominal => p.file = .absent
  | .degraded => ∃ ts, p.file = .object (SystemMode.degraded.fpsProfile ts)
  | .localOnly => ∃ ts, p.file = .object (SystemMode.localOnly.fpsProfile ts)
  | .safe => False

/-- The encoder and the file are as a mode wants them. -/
def Pipeline.Follows (p : Pipeline) (mode : SystemMode) : Prop :=
  mode = .safe ∧ p.active = false ∨ p.active = true ∧ p.FileFor mode

/-- What a listener in which nothing fails has achieved before an access. -/
def OnTrack (cb : Callback) (p : Pipeline) : Prop :=
  match cb.next with
  | .stopCheck | .stop => cb.target = .safe
  | .stopVerify => cb.target = .safe ∧ p.active = false
  | .clearCheck | .clearUnlink => cb.target = .nominal
  | .writeProfile => cb.target = .degraded ∨ cb.target = .localOnly
  | .restartCheck | .restart | .ensureCheck | .start => p.FileFor cb.target
  | .ensureVerify => p.active = true ∧ p.FileFor cb.target

section Listener

variable {previous target : SystemMode} {next : EnforceStep} {p p' : Pipeline} {now : ℚ}

theorem onTrack_firstStep (previous target : SystemMode) (p : Pipeline) :
    OnTrack { previous := previous, target := target, next := target.firstStep } p := by
  cases target with
  | nominal => exact rfl
  | degraded => exact Or.inl rfl
  | localOnly => exact Or.inr rfl
  | safe => exact rfl

/-- Behind the file a listener is on track. -/
theorem onTrack_afterProfile (cb : Callback) (h : p.FileFor cb.target) :
    OnTrack { cb with next := cb.afterProfile } p := by
  unfold OnTrack Callback.afterProfile
  dsimp only
  split_ifs
  · exact h
  · exact h

/-- One access on, a listener is still on track, or at its end. -/
theorem onTrack_succeed {cb : Callback} (h : OnTrack cb p) (now : ℚ) :
    (∃ p' next, p.succeed now cb = (p', some next) ∧ OnTrack { cb with next := next } p') ∨
      ∃ p', p.succeed now cb = (p', none) ∧ p'.Follows cb.target := by
  obtain ⟨previous, target, next⟩ := cb
  obtain ⟨active, file⟩ := p
  cases next with
  | stopCheck =>
      obtain rfl : target = .safe := h
      cases active with
      | true => exact Or.inl ⟨_, _, rfl, rfl⟩
      | false => exact Or.inr ⟨_, rfl, Or.inl ⟨rfl, rfl⟩⟩
  | stop => exact Or.inl ⟨_, _, rfl, h, rfl⟩
  | stopVerify => exact Or.inr ⟨_, rfl, Or.inl h⟩
  | clearCheck =>
      obtain rfl : target = .nominal := h
      by_cases habsent : file = .absent
      · refine Or.inl ⟨_, _, rfl, ?_⟩
        rw [if_pos habsent]
        exact onTrack_afterProfile _ habsent
      · refine Or.inl ⟨_, _, rfl, ?_⟩
        rw [if_neg habsent]
        exact rfl
  | clearUnlink =>
      obtain rfl : target = .nominal := h
      exact Or.inl ⟨_, _, rfl, onTrack_afterProfile _ rfl⟩
  | writeProfile =>
      refine Or.inl ⟨_, _, rfl, onTrack_afterProfile _ ?_⟩
      rcases h with h | h
      · obtain rfl : target = .degraded := h
        exact ⟨now, rfl⟩
      · obtain rfl : target = .localOnly := h
        exact ⟨now, rfl⟩
  | restartCheck =>
      cases active with
      | true => exact Or.inl ⟨_, _, rfl, h⟩
      | false => exact Or.inl ⟨_, _, rfl, h⟩
  | restart => exact Or.inr ⟨_, rfl, Or.inr ⟨rfl, h⟩⟩
  | ensureCheck =>
      cases active with
      | true => exact Or.inr ⟨_, rfl, Or.inr ⟨rfl, h⟩⟩
      | false => exact Or.inl ⟨_, _, rfl, h⟩
  | start => exact Or.inl ⟨_, _, rfl, rfl, h⟩
  | ensureVerify => exact Or.inr ⟨_, rfl, Or.inr h⟩

/-- A listener to `safe` leaves the file alone. -/
theorem file_succeed {cb : Callback} (h : OnTrack cb p) (hsafe : cb.target = .safe) (now : ℚ) :
    (p.succeed now cb).1.file = p.file := by
  obtain ⟨previous, target, next⟩ := cb
  obtain rfl : target = .safe := hsafe
  cases next with
  | clearUnlink => cases h
  | writeProfile =>
      rcases h with h | h
      · cases h
      · cases h
  | stopCheck | stop | stopVerify | clearCheck | restartCheck | restart | ensureCheck | start
  | ensureVerify => rfl

/-- Neither the file nor a stopped encoder keeps a listener from stopping it. -/
theorem OnTrack.of_active {cb : Callback} (h : OnTrack cb p) (hsafe : cb.target = .safe)
    (hactive : p'.active = p.active ∨ p'.active = false) : OnTrack cb p' := by
  obtain ⟨previous, target, next⟩ := cb
  obtain rfl : target = .safe := hsafe
  cases next with
  | stopCheck | stop => exact rfl
  | stopVerify =>
      refine ⟨rfl, ?_⟩
      rcases hactive with hsame | hoff
      · exact hsame.trans h.2
      · exact hoff
  | clearCheck | clearUnlink => cases h
  | writeProfile =>
      rcases h with h | h
      · cases h
      · cases h
  | restartCheck | restart | ensureCheck | start => exact h.elim
  | ensureVerify => exact h.2.elim

end Listener

end CameraStack.Fdir.Thermal
