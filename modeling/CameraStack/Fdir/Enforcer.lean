/-
# Enforcing the mode

A change of the mode is one critical section; the listener that enforces it runs
afterwards, in the thread that made the change and outside the lock.  Two changes can
therefore be enforced in the other order, or at the same time.

The callback is modelled access by access: every look at the encoder, every command to
it and every file operation is one step, and a list of steps of any callbacks is an
interleaving.  `enforced_in_order` says that callbacks that run one after the other, in
the order of their changes, end in the mode they are in; `safe_callback_overtaken` shows
what the other order does.
-/

import CameraStack.Fdir.SystemMode
import CameraStack.Lib.Machine

namespace CameraStack.Fdir

open CameraStack.Lib

/-! ## Policies -/

/-- The part of `ModePolicy` that is written into the profile. -/
structure ModePolicy where
  maxFps : ℕ
  maxBitrateKbps : ℕ

/-- `MODE_POLICIES`. -/
def SystemMode.policy : SystemMode → ModePolicy
  | .nominal => { maxFps := 30, maxBitrateKbps := 4000 }
  | .degraded => { maxFps := 15, maxBitrateKbps := 1500 }
  | .localOnly => { maxFps := 15, maxBitrateKbps := 2000 }
  | .safe => { maxFps := 0, maxBitrateKbps := 0 }

/-- The file `fps_profile`. -/
structure FpsProfile where
  profile : String
  maxFps : ℕ
  maxBitrateKbps : ℕ
  mode : SystemMode
  ts : ℚ
  deriving DecidableEq

/-- What `_write_fps_profile` writes for a mode. -/
def SystemMode.fpsProfile (mode : SystemMode) (ts : ℚ) : FpsProfile where
  profile := if mode = .degraded then "low" else "local"
  maxFps := mode.policy.maxFps
  maxBitrateKbps := mode.policy.maxBitrateKbps
  mode := mode
  ts := ts

/-! ## The callback -/

/-- The encoder and the profile file. -/
structure Plant where
  active : Bool := true
  fpsProfile : Option FpsProfile := none

/-- Where a callback stands: what it does next. -/
inductive EnforceStep
  /-- `_stop_pipeline`: is the encoder active, stop it, and is it still active. -/
  | stopCheck | stop | stopVerify
  /-- `_clear_fps_profile`: does the file exist, and remove it. -/
  | clearCheck | clearUnlink
  /-- `_write_fps_profile`. -/
  | writeProfile
  /-- Is the encoder active, so that it has to be restarted. -/
  | restartCheck | restart
  /-- `_ensure_pipeline_running`: is the encoder active, start it, and is it active now. -/
  | ensureCheck | start | ensureVerify
  deriving DecidableEq

/-- A call of `_on_mode_transition`. -/
structure Callback where
  previous : SystemMode
  target : SystemMode
  next : EnforceStep

/-- The first step of a callback. -/
def SystemMode.firstStep : SystemMode → EnforceStep
  | .safe => .stopCheck
  | .nominal => .clearCheck
  | .degraded | .localOnly => .writeProfile

/-- Behind the profile: a callback to `nominal` only restarts an encoder that had a
profile. -/
def Callback.afterProfile (cb : Callback) : EnforceStep :=
  if cb.target = .nominal && !(cb.previous = .degraded || cb.previous = .localOnly) then .ensureCheck
  else .restartCheck

/-- One step of a callback, at a reading of the clock: what becomes of the plant, and what
comes next, `none` at the end. -/
def Callback.step (now : ℚ) (cb : Callback) (p : Plant) : Plant × Option EnforceStep :=
  match cb.next with
  | .stopCheck => (p, if p.active then some .stop else none)
  | .stop => ({ p with active := false }, some .stopVerify)
  | .stopVerify => (p, none)
  | .clearCheck => (p, some (if p.fpsProfile.isSome then .clearUnlink else cb.afterProfile))
  | .clearUnlink => ({ p with fpsProfile := none }, some cb.afterProfile)
  | .writeProfile => ({ p with fpsProfile := some (cb.target.fpsProfile now) }, some cb.afterProfile)
  | .restartCheck => (p, some (if p.active then .restart else .ensureCheck))
  | .restart => ({ p with active := true }, none)
  | .ensureCheck => (p, if p.active then none else some .start)
  | .start => ({ p with active := true }, some .ensureVerify)
  | .ensureVerify => (p, none)

/-! ## The process -/

/-- The calls that change the mode. -/
inductive ModeCall
  | transition (target : SystemMode)
  | degrade
  | promote (target : SystemMode)

/-- The critical section of a call. -/
def ModeCall.commit (now : ℚ) (m : ModeState) : ModeCall → ModeState
  | .transition target => m.transition target now
  | .degrade => m.degrade now
  | .promote target => m.promote target now

/-- The mode, the plant, and the callbacks that have not finished, in the order of their
changes. -/
structure Enforcement where
  mode : ModeState := { current := .nominal, enteredAtMono := 0 }
  plant : Plant := {}
  callbacks : List Callback := []

/-- A thread changes the mode, or a callback takes its next step. -/
inductive EnforceEvent
  | commit (now : ℚ) (call : ModeCall)
  | step (now : ℚ) (i : ℕ)

namespace Enforcement

/-- A change of the mode starts a callback. -/
def commit (now : ℚ) (call : ModeCall) (s : Enforcement) : Enforcement :=
  let mode := call.commit now s.mode
  { s with
    mode := mode
    callbacks :=
      if mode.current = s.mode.current then s.callbacks
      else s.callbacks ++ [{ previous := s.mode.current, target := mode.current,
                             next := mode.current.firstStep }] }

/-- The callback at a position takes its next step, and leaves after its last. -/
def step (now : ℚ) (i : ℕ) (s : Enforcement) : Enforcement :=
  match s.callbacks[i]? with
  | none => s
  | some cb =>
      let (plant, next) := cb.step now s.plant
      { s with
        plant := plant
        callbacks :=
          match next with
          | none => s.callbacks.eraseIdx i
          | some next => s.callbacks.set i { cb with next := next } }

end Enforcement

/-- The process under a list of events. -/
def enforceMachine : Machine Enforcement EnforceEvent Empty where
  step s
    | .commit now call => (s.commit now call, [])
    | .step now i => (s.step now i, [])

/-- The plant is as a mode wants it. -/
structure Plant.Follows (p : Plant) (mode : SystemMode) : Prop where
  active : p.active = false ↔ mode = .safe
  nominal : mode = .nominal → p.fpsProfile = none
  reduced : mode = .degraded ∨ mode = .localOnly → p.fpsProfile.map FpsProfile.mode = some mode

/-- The plant follows the mode whenever no callback is left. -/
def Enforcement.Enforced (s : Enforcement) : Prop :=
  s.callbacks = [] → s.plant.Follows s.mode.current

/-- A callback takes a step only when those of all earlier changes have finished. -/
def EnforceEvent.InOrder (s : Enforcement) : EnforceEvent → Prop
  | .commit _ _ => True
  | .step _ i => i < s.callbacks.length → i = 0

/-! ## One callback -/

/-- The profile is as the target of a callback wants it. -/
structure Plant.ProfileFor (p : Plant) (target : SystemMode) : Prop where
  streams : target ≠ .safe
  nominal : target = .nominal → p.fpsProfile = none
  reduced : target = .degraded ∨ target = .localOnly →
    p.fpsProfile.map FpsProfile.mode = some target

/-- What a callback has achieved when it stands before a step. -/
def Callback.OnTrack (cb : Callback) (p : Plant) : Prop :=
  match cb.next with
  | .stopCheck | .stop => cb.target = .safe
  | .stopVerify => cb.target = .safe ∧ p.active = false
  | .clearCheck | .clearUnlink => cb.target = .nominal
  | .writeProfile => cb.target = .degraded ∨ cb.target = .localOnly
  | .restartCheck | .restart | .ensureCheck | .start => p.ProfileFor cb.target
  | .ensureVerify => p.ProfileFor cb.target ∧ p.active = true

section Callbacks

variable {cb : Callback} {p p' : Plant} {now : ℚ}

theorem onTrack_firstStep (h : cb.next = cb.target.firstStep) (p : Plant) : cb.OnTrack p := by
  unfold Callback.OnTrack
  rw [h]
  cases htarget : cb.target with
  | nominal => rfl
  | degraded => exact Or.inl rfl
  | localOnly => exact Or.inr rfl
  | safe => rfl

theorem follows_of_stopped (htarget : cb.target = .safe) (hactive : p.active = false) :
    p.Follows cb.target := by
  rw [htarget]
  refine ⟨⟨fun _ => rfl, fun _ => hactive⟩, ?_, ?_⟩
  · exact SystemMode.noConfusion
  · rintro (h | h)
    · cases h
    · cases h

theorem follows_of_running (h : p.ProfileFor cb.target) (hactive : p.active = true) :
    p.Follows cb.target :=
  ⟨⟨fun hoff => absurd hactive (by simp [hoff]), fun hsafe => absurd hsafe h.streams⟩,
    h.nominal, h.reduced⟩

/-- Behind the profile a callback is on track. -/
theorem onTrack_afterProfile (h : p.ProfileFor cb.target) :
    ({ cb with next := cb.afterProfile } : Callback).OnTrack p := by
  unfold Callback.OnTrack Callback.afterProfile
  dsimp only
  split_ifs
  · exact h
  · exact h

theorem profileFor_cleared (htarget : cb.target = .nominal) (hnone : p.fpsProfile = none) :
    p.ProfileFor cb.target := by
  rw [htarget]
  refine ⟨SystemMode.noConfusion, fun _ => hnone, ?_⟩
  rintro (h | h)
  · cases h
  · cases h

theorem profileFor_written (htarget : cb.target = .degraded ∨ cb.target = .localOnly) (now : ℚ) :
    ({ p with fpsProfile := some (cb.target.fpsProfile now) } : Plant).ProfileFor cb.target := by
  refine ⟨?_, ?_, fun _ => rfl⟩
  · rintro hsafe
    rcases htarget with h | h
    · rw [h] at hsafe
      cases hsafe
    · rw [h] at hsafe
      cases hsafe
  · intro hnominal
    rcases htarget with h | h
    · rw [h] at hnominal
      cases hnominal
    · rw [h] at hnominal
      cases hnominal

/-- A step that is not the last keeps a callback on track. -/
theorem onTrack_step {next : EnforceStep} (h : cb.OnTrack p)
    (hstep : cb.step now p = (p', some next)) : ({ cb with next := next } : Callback).OnTrack p' := by
  unfold Callback.OnTrack at h
  unfold Callback.step at hstep
  cases hnext : cb.next with
  | stopCheck =>
      rw [hnext] at h hstep
      simp only [Prod.mk.injEq] at hstep
      obtain ⟨rfl, hif⟩ := hstep
      split at hif
      · cases hif
        exact h
      · cases hif
  | stop =>
      rw [hnext] at h hstep
      cases hstep
      exact ⟨h, rfl⟩
  | clearCheck =>
      rw [hnext] at h hstep
      simp only [Prod.mk.injEq, Option.some.injEq] at hstep
      obtain ⟨rfl, rfl⟩ := hstep
      split
      · exact h
      · next hnone => exact onTrack_afterProfile (profileFor_cleared h (by simpa using hnone))
  | clearUnlink =>
      rw [hnext] at h hstep
      cases hstep
      exact onTrack_afterProfile (profileFor_cleared h rfl)
  | writeProfile =>
      rw [hnext] at h hstep
      cases hstep
      exact onTrack_afterProfile (profileFor_written h now)
  | restartCheck =>
      rw [hnext] at h hstep
      simp only [Prod.mk.injEq, Option.some.injEq] at hstep
      obtain ⟨rfl, rfl⟩ := hstep
      split
      · exact h
      · exact h
  | ensureCheck =>
      rw [hnext] at h hstep
      simp only [Prod.mk.injEq] at hstep
      obtain ⟨rfl, hif⟩ := hstep
      split at hif
      · cases hif
      · cases hif
        exact h
  | start =>
      rw [hnext] at h hstep
      cases hstep
      exact ⟨⟨h.streams, h.nominal, h.reduced⟩, rfl⟩
  | stopVerify | restart | ensureVerify =>
      rw [hnext] at hstep
      cases hstep

/-- The last step of a callback leaves the plant as its target wants it. -/
theorem follows_step (h : cb.OnTrack p) (hstep : cb.step now p = (p', none)) :
    p'.Follows cb.target := by
  unfold Callback.OnTrack at h
  unfold Callback.step at hstep
  cases hnext : cb.next with
  | stopCheck =>
      rw [hnext] at h hstep
      simp only [Prod.mk.injEq] at hstep
      obtain ⟨rfl, hif⟩ := hstep
      split at hif
      · cases hif
      · next hoff => exact follows_of_stopped h (by simpa using hoff)
  | stopVerify =>
      rw [hnext] at h hstep
      cases hstep
      exact follows_of_stopped h.1 h.2
  | restart =>
      rw [hnext] at h hstep
      cases hstep
      exact follows_of_running ⟨h.streams, h.nominal, h.reduced⟩ rfl
  | ensureCheck =>
      rw [hnext] at h hstep
      simp only [Prod.mk.injEq] at hstep
      obtain ⟨rfl, hif⟩ := hstep
      split at hif
      · next hon => exact follows_of_running h hon
      · cases hif
  | ensureVerify =>
      rw [hnext] at h hstep
      cases hstep
      exact follows_of_running h.1 h.2
  | stop | clearCheck | clearUnlink | writeProfile | restartCheck | start =>
      rw [hnext] at hstep
      cases hstep

end Callbacks

/-! ## Callbacks in order -/

/-- The first callback is on track, the others have not begun, and the last one enforces the
current mode. -/
structure Enforcement.Queued (s : Enforcement) : Prop where
  enforced : s.Enforced
  first : ∀ cb ∈ s.callbacks.head?, cb.OnTrack s.plant
  waiting : ∀ cb ∈ s.callbacks.tail, cb.next = cb.target.firstStep
  last : ∀ cb ∈ s.callbacks.getLast?, cb.target = s.mode.current

namespace Enforcement

variable {s : Enforcement}

theorem queued_initial : ({} : Enforcement).Queued := by
  refine ⟨fun _ => ⟨by decide, fun _ => rfl, ?_⟩, ?_, ?_, ?_⟩
  · rintro (h | h)
    · cases h
    · cases h
  · rintro cb ⟨⟩
  · intro cb hcb
    cases hcb
  · rintro cb ⟨⟩

theorem Queued.commit (h : s.Queued) (now : ℚ) (call : ModeCall) : (s.commit now call).Queued := by
  unfold Enforcement.commit
  dsimp only
  split_ifs with hsame
  · refine ⟨?_, h.first, h.waiting, ?_⟩
    · intro hnone
      rw [hsame]
      exact h.enforced hnone
    · intro cb hcb
      rw [hsame]
      exact h.last cb hcb
  · refine ⟨?_, ?_, ?_, ?_⟩
    · intro hnone
      simp at hnone
    · intro cb hcb
      cases hcbs : s.callbacks with
      | nil =>
          simp only [hcbs, List.nil_append, List.head?_cons, Option.mem_def, Option.some.injEq] at hcb
          rw [← hcb]
          exact onTrack_firstStep rfl s.plant
      | cons cb' rest =>
          simp only [hcbs, List.cons_append, List.head?_cons, Option.mem_def, Option.some.injEq] at hcb
          exact h.first cb (by rw [hcbs, ← hcb]; rfl)
    · intro cb hcb
      cases hcbs : s.callbacks with
      | nil => simp [hcbs] at hcb
      | cons cb' rest =>
          simp only [hcbs, List.cons_append, List.tail_cons, List.mem_append,
            List.mem_singleton] at hcb
          rcases hcb with hold | rfl
          · exact h.waiting cb (by rw [hcbs]; exact hold)
          · rfl
    · intro cb hcb
      rw [List.getLast?_concat, Option.mem_def, Option.some.injEq] at hcb
      rw [← hcb]

theorem step_head {cb : Callback} {rest : List Callback} (h : s.callbacks = cb :: rest) (now : ℚ) :
    s.step now 0 =
      { s with
        plant := (cb.step now s.plant).1
        callbacks :=
          match (cb.step now s.plant).2 with
          | none => rest
          | some next => { cb with next := next } :: rest } := by
  unfold Enforcement.step
  rw [h]
  simp only [List.getElem?_cons_zero]
  cases (cb.step now s.plant).2 with
  | none => rfl
  | some next => rfl

/-- The first callback goes on, or makes place for the next one. -/
theorem Queued.step (h : s.Queued) (now : ℚ) : (s.step now 0).Queued := by
  cases hcbs : s.callbacks with
  | nil =>
      have hnone : s.step now 0 = s := by simp [Enforcement.step, hcbs]
      rw [hnone]
      exact h
  | cons cb rest =>
      have htrack : cb.OnTrack s.plant := h.first cb (by rw [hcbs]; rfl)
      have hwaiting : ∀ cb' ∈ rest, cb'.next = cb'.target.firstStep := fun cb' hcb' =>
        h.waiting cb' (by rw [hcbs]; exact hcb')
      have hlast := h.last
      rw [hcbs] at hlast
      rw [step_head hcbs]
      cases hstep : cb.step now s.plant with
      | mk p next =>
          cases next with
          | none =>
              refine ⟨?_, ?_, ?_, ?_⟩
              · rintro (rfl : rest = [])
                have hfollows := follows_step htrack hstep
                rw [hlast cb rfl] at hfollows
                exact hfollows
              · intro cb' hcb'
                exact onTrack_firstStep (hwaiting cb' (List.mem_of_mem_head? hcb')) p
              · exact fun cb' hcb' => hwaiting cb' (List.mem_of_mem_tail hcb')
              · intro cb' hcb'
                cases rest with
                | nil => cases hcb'
                | cons cb₂ rest => exact hlast cb' hcb'
          | some next =>
              refine ⟨?_, ?_, ?_, ?_⟩
              · intro hnone
                cases hnone
              · rintro cb' ⟨⟩
                exact onTrack_step htrack hstep
              · exact hwaiting
              · intro cb' hcb'
                cases rest with
                | nil =>
                    cases hcb'
                    exact hlast cb rfl
                | cons cb₂ rest => exact hlast cb' hcb'

theorem Queued.next (h : s.Queued) {e : EnforceEvent} (hinOrder : e.InOrder s) :
    (enforceMachine.next s e).Queued := by
  cases e with
  | commit now call => exact h.commit now call
  | step now i =>
      by_cases hi : i < s.callbacks.length
      · obtain rfl := hinOrder hi
        exact h.step now
      · have hnone : s.step now i = s := by
          rw [Enforcement.step, List.getElem?_eq_none (Nat.le_of_not_lt hi)]
        show (s.step now i).Queued
        rw [hnone]
        exact h

end Enforcement

/-- In every interleaving in which a callback only takes a step when those of all earlier
changes have finished, whenever no callback is left the plant follows the mode. -/
theorem enforced_in_order (events : List EnforceEvent)
    (hinOrder : enforceMachine.Along (fun s e => e.InOrder s) {} events) :
    (enforceMachine.run {} events).Enforced := by
  have hqueued : (enforceMachine.run {} events).Queued := by
    apply enforceMachine.run_invariant (I := Enforcement.Queued) _ hinOrder
      Enforcement.queued_initial
    exact fun s e h hguard => h.next hguard
  exact hqueued.enforced

instance (s : Enforcement) : ∀ e : EnforceEvent, Decidable (e.InOrder s)
  | .commit _ _ => .isTrue trivial
  | .step _ i => inferInstanceAs (Decidable (i < s.callbacks.length → i = 0))

/-- The mode drops to `degraded` and then to `safe`, before any callback has begun. -/
def dropToSafe : List EnforceEvent :=
  [.commit 0 (.transition .degraded), .commit 1 (.transition .safe)]

/-- Callbacks in order: the encoder is restarted and then stopped. -/
theorem drop_to_safe_in_order :
    let events := dropToSafe ++ List.replicate 6 (.step 2 0)
    (enforceMachine.run {} events).callbacks = [] ∧ (enforceMachine.run {} events).Enforced ∧
      (enforceMachine.run {} events).plant.active = false :=
  ⟨by decide +kernel, enforced_in_order _ (by decide +kernel), by decide +kernel⟩

/-- The callback to `safe` overtakes the other, which starts the encoder again. -/
theorem safe_callback_overtaken :
    ¬ ∀ events, (enforceMachine.run {} events).Enforced := by
  intro hclaim
  have hfollows := hclaim
    (dropToSafe ++ List.replicate 3 (.step 2 1) ++ List.replicate 5 (.step 3 0)) (by decide +kernel)
  exact absurd (hfollows.active.mpr (by decide +kernel)) (by decide +kernel)

end CameraStack.Fdir
