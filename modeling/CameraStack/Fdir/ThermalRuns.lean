/-
# What the temperature calls for

Whatever others do, the monitor does what the readings since it was last cool call for
(`run_currentProfile`).  Two results say what comes of it: `hot_is_stopped`, with others
changing the mode and commanding the encoder, and `alone_follows`, without them.
-/

import CameraStack.Fdir.Thermal

namespace CameraStack.Fdir.Thermal

open CameraStack.Lib

/-! ## How hot it has been -/

/-- The readings since it was last cool, the newest first. -/
def sinceCool (t : Thresholds) (temps : List ℚ) : List ℚ :=
  temps.reverse.takeWhile (t.resumeC < ·)

/-- What the readings call for. -/
def calledFor (t : Thresholds) (temps : List ℚ) : Profile :=
  if (sinceCool t temps).any (t.critC ≤ ·) then .stop
  else if (sinceCool t temps).any (t.warnC ≤ ·) then .low
  else .normal

/-- Cool is below warm, and warm is not above critical. -/
structure Thresholds.Ordered (t : Thresholds) : Prop where
  resume_lt_warn : t.resumeC < t.warnC
  warn_le_crit : t.warnC ≤ t.critC

theorem defaultThresholds_ordered : defaultThresholds.Ordered :=
  ⟨by decide +kernel, by decide +kernel⟩

variable {t : Thresholds} {s : Station}

theorem sinceCool_concat (past : List ℚ) (temp : ℚ) :
    sinceCool t (past ++ [temp]) = if t.resumeC < temp then temp :: sinceCool t past else [] := by
  rw [sinceCool, List.reverse_append, List.reverse_singleton, List.singleton_append,
    List.takeWhile_cons]
  simp only [decide_eq_true_eq]
  rfl

/-- What one more reading calls for. -/
theorem calledFor_concat (horder : t.Ordered) (past : List ℚ) (temp : ℚ) :
    calledFor t (past ++ [temp]) =
      if t.critC ≤ temp then .stop
      else if temp ≤ t.resumeC then .normal
      else if t.warnC ≤ temp ∧ calledFor t past = .normal then .low
      else calledFor t past := by
  have hresume := horder.resume_lt_warn
  have hwarn := horder.warn_le_crit
  rw [calledFor, sinceCool_concat]
  by_cases hcool : temp ≤ t.resumeC
  · have hcold : ¬ t.critC ≤ temp := by linarith
    rw [if_neg (Rat.not_lt.mpr hcool), if_neg hcold, if_pos hcool]
    rfl
  · rw [if_pos (Rat.not_le.mp hcool), if_neg hcool, List.any_cons, List.any_cons]
    by_cases hcrit : t.critC ≤ temp
    · rw [if_pos (by simp [hcrit]), if_pos hcrit]
    · rw [if_neg hcrit, decide_eq_false hcrit, Bool.false_or, calledFor]
      by_cases hhot : (sinceCool t past).any (t.critC ≤ ·) = true
      · rw [if_pos hhot, if_pos hhot, if_neg (by simp)]
      · rw [if_neg hhot, if_neg hhot]
        by_cases hlow : (sinceCool t past).any (t.warnC ≤ ·) = true
        · rw [if_pos (by rw [hlow, Bool.or_true]), if_pos hlow, if_neg (by simp)]
        · rw [if_neg hlow, Bool.eq_false_iff.mpr hlow, Bool.or_false]
          simp

/-! ## The readings -/

/-- Reading on, the monitor does what the readings call for. -/
theorem read_currentProfile (horder : t.Ordered) (past : List ℚ) (temp : ℚ) (written : Bool)
    (h : s.currentProfile = calledFor t past) :
    (s.read t (some temp) written).currentProfile = calledFor t (past ++ [temp]) := by
  have hresume := horder.resume_lt_warn
  have hwarn := horder.warn_le_crit
  rw [calledFor_concat horder, ← h, Station.read]
  by_cases hcrit : t.critC ≤ temp
  · rw [if_pos hcrit]
    by_cases hstop : s.currentProfile = .stop
    · rw [if_neg (by simp [hstop]), if_neg (by simp [hstop]), if_neg (by
        rintro ⟨hcool, -⟩
        linarith)]
      exact hstop
    · rw [if_pos ⟨hcrit, hstop⟩]
      rfl
  · rw [if_neg hcrit, if_neg (fun hand => hcrit hand.1)]
    by_cases hcool : temp ≤ t.resumeC
    · rw [if_pos hcool, if_neg (by
        rintro ⟨hwarm, -⟩
        linarith)]
      by_cases hnormal : s.currentProfile = .normal
      · rw [if_neg (fun hand => hand.2 hnormal)]
        exact hnormal
      · rw [if_pos ⟨hcool, hnormal⟩]
        rfl
    · rw [if_neg hcool]
      by_cases hwarm : t.warnC ≤ temp ∧ s.currentProfile = .normal
      · rw [if_pos hwarm, if_pos hwarm]
        rfl
      · rw [if_neg hwarm, if_neg hwarm, if_neg (fun hand => hcool hand.1)]

theorem commit_currentProfile (own : Bool) (now : ℚ) (call : ModeCall) (s : Station) :
    (s.commit own now call).currentProfile = s.currentProfile := rfl

theorem change_currentProfile (now : ℚ) (s : Station) :
    (s.change now).currentProfile = s.currentProfile := by
  rw [Station.change]
  split
  · rfl
  · rfl

/-- A listener changes the encoder, the file and what it does next. -/
theorem step_eq (now : ℚ) (i : ℕ) (outcome : Outcome) (s : Station) :
    ∃ p jobs, s.step now i outcome = { s with pipeline := p, jobs := jobs } := by
  cases hjob : s.jobs[i]? with
  | none => exact ⟨_, _, step_none hjob now outcome⟩
  | some job =>
      cases haccess : s.pipeline.access now outcome job.callback with
      | mk p next =>
          cases next with
          | none => exact ⟨_, _, step_last hjob haccess⟩
          | some next => exact ⟨_, _, step_next hjob haccess⟩

/-- Over any run the monitor has done what the readings call for, whatever others do and
whatever fails. -/
theorem run_currentProfile (horder : t.Ordered) (now : ℚ) (events : List Event) :
    ((station t).run (.start now) events).currentProfile =
      calledFor t ((station t).trace (.start now) events) := by
  apply (station t).run_trace_invariant (I := fun s past => s.currentProfile = calledFor t past)
  · intro s past e h
    have hkept : ∀ s' : Station, s'.currentProfile = s.currentProfile →
        s'.currentProfile = calledFor t (past ++ []) := by
      intro s' hsame
      rw [List.append_nil, hsame, h]
    cases e with
    | read temp written =>
        by_cases hbusy : s.Busy
        · simp only [Machine.next, Machine.emits, station, if_pos hbusy]
          exact hkept s rfl
        · simp only [Machine.next, Machine.emits, station, if_neg hbusy]
          cases temp with
          | none => exact hkept s rfl
          | some temp => exact read_currentProfile horder past temp written h
    | change now => exact hkept _ (change_currentProfile now s)
    | call now call => exact hkept _ (commit_currentProfile false now call s)
    | step now i outcome =>
        obtain ⟨p, jobs, hstep⟩ := step_eq now i outcome s
        refine hkept (s.step now i outcome) ?_
        rw [hstep]
    | command active => exact hkept _ rfl
  · rfl

/-! ## While it is hot -/

/-- While the monitor keeps the encoder stopped nobody else takes the system to a better
mode, and in the mode `safe` nobody else starts the encoder; listeners run one after the
other, in the order of their changes, and those to `safe` without a failure. -/
def Cautious (s : Station) : Event → Prop
  | .read _ _ | .change _ => True
  | .call now call => s.currentProfile = .stop →
      s.mode.current.level ≤ (call.commit now s.mode).current.level
  | .step _ i outcome => ∀ job ∈ s.jobs[i]?,
      i = 0 ∧ (job.callback.target = .safe → outcome = .done)
  | .command active => s.mode.current = .safe → active = false

/-- The first listener is on track if it is the last one and stops the encoder, the others
have not begun, and the last one enforces the mode; without one the encoder is stopped in the
mode `safe`. -/
structure Queued (s : Station) : Prop where
  first : ∀ job, s.jobs = [job] → job.callback.target = .safe → OnTrack job.callback s.pipeline
  waiting : ∀ job ∈ s.jobs.tail, job.callback.next = job.callback.target.firstStep
  last : ∀ job ∈ s.jobs.getLast?, job.callback.target = s.mode.current
  stopped : s.jobs = [] → s.mode.current = .safe → s.pipeline.active = false

theorem Queued.of_jobs (h : Queued s) {s' : Station} (hjobs : s'.jobs = s.jobs)
    (hmode : s'.mode.current = s.mode.current)
    (hactive : s.mode.current = .safe →
      s'.pipeline.active = s.pipeline.active ∨ s'.pipeline.active = false) : Queued s' := by
  refine ⟨?_, ?_, ?_, ?_⟩
  · intro job hjob hsafe
    rw [hjobs] at hjob
    have hcurrent : s.mode.current = .safe := by
      rw [← h.last job (by rw [hjob]; rfl), hsafe]
    exact (h.first job hjob hsafe).of_active hsafe (hactive hcurrent)
  · rw [hjobs]
    exact h.waiting
  · rw [hjobs, hmode]
    exact h.last
  · rw [hjobs, hmode]
    intro hnone hcurrent
    rcases hactive hcurrent with hsame | hoff
    · exact hsame.trans (h.stopped hnone hcurrent)
    · exact hoff

theorem commit_same {own : Bool} {now : ℚ} {call : ModeCall}
    (h : (call.commit now s.mode).current = s.mode.current) :
    s.commit own now call = { s with mode := call.commit now s.mode } := by
  rw [Station.commit]
  simp only [if_pos h]

theorem commit_ne {own : Bool} {now : ℚ} {call : ModeCall}
    (h : (call.commit now s.mode).current ≠ s.mode.current) :
    s.commit own now call =
      { s with
        mode := call.commit now s.mode
        jobs := s.jobs ++ [.of own s.mode.current (call.commit now s.mode).current] } := by
  rw [Station.commit]
  simp only [if_neg h]

theorem Queued.commit (h : Queued s) (own : Bool) (now : ℚ) (call : ModeCall) :
    Queued (s.commit own now call) := by
  by_cases hsame : (call.commit now s.mode).current = s.mode.current
  · rw [commit_same hsame]
    exact h.of_jobs rfl hsame (fun _ => Or.inl rfl)
  · rw [commit_ne hsame]
    refine ⟨?_, ?_, ?_, ?_⟩
    · intro job hjobs _
      obtain ⟨-, hjob⟩ | ⟨-, hnone⟩ := List.append_eq_singleton_iff.mp hjobs
      · obtain rfl := List.singleton_inj.mp hjob
        exact onTrack_firstStep _ _ _
      · cases hnone
    · intro job hjob
      cases hjobs : s.jobs with
      | nil =>
          simp only [hjobs] at hjob
          cases hjob
      | cons first rest =>
          simp only [hjobs, List.cons_append, List.tail_cons, List.mem_append,
            List.mem_singleton] at hjob
          rcases hjob with hold | rfl
          · exact h.waiting job (by rw [hjobs]; exact hold)
          · rfl
    · intro job hjob
      rw [List.getLast?_concat, Option.mem_def, Option.some.injEq] at hjob
      rw [← hjob]
      rfl
    · intro hnone
      exact absurd hnone (by simp)

/-- The first listener goes on, or makes place for the next one. -/
theorem Queued.step (h : Queued s) {now : ℚ} {i : ℕ} {outcome : Outcome}
    (hcautious : Cautious s (.step now i outcome)) : Queued (s.step now i outcome) := by
  cases hjob : s.jobs[i]? with
  | none =>
      rw [step_none hjob]
      exact h
  | some job =>
      obtain ⟨rfl, hdone⟩ := hcautious job hjob
      obtain ⟨rest, hjobs⟩ : ∃ rest, s.jobs = job :: rest := by
        cases hjobs : s.jobs with
        | nil =>
            rw [hjobs] at hjob
            cases hjob
        | cons first rest =>
            rw [hjobs, List.getElem?_cons_zero, Option.some.injEq] at hjob
            exact ⟨rest, by rw [hjob]⟩
      have hwaiting : ∀ other ∈ rest, other.callback.next = other.callback.target.firstStep :=
        fun other hother => h.waiting other (by rw [hjobs]; exact hother)
      have hlast := h.last
      rw [hjobs] at hlast
      cases haccess : s.pipeline.access now outcome job.callback with
      | mk p next =>
          cases next with
          | none =>
              rw [step_last hjob haccess, hjobs, List.eraseIdx_cons_zero]
              refine ⟨?_, ?_, ?_, ?_⟩
              · rintro other (rfl : rest = [other]) _
                have hother := hwaiting other (List.mem_singleton_self other)
                obtain ⟨⟨previous, target, next⟩, own⟩ := other
                obtain rfl : next = target.firstStep := hother
                exact onTrack_firstStep _ _ _
              · exact fun other hother => hwaiting other (List.mem_of_mem_tail hother)
              · intro other hother
                cases rest with
                | nil => cases hother
                | cons second rest => exact hlast other hother
              · rintro (rfl : rest = []) (hcurrent : s.mode.current = .safe)
                have hsafe : job.callback.target = .safe := (hlast job rfl).trans hcurrent
                obtain rfl := hdone hsafe
                obtain ⟨p', next, hsucceed, -⟩ | ⟨p', hsucceed, hfollows⟩ :=
                  onTrack_succeed (h.first job hjobs hsafe) now
                · cases haccess.symm.trans hsucceed
                · cases haccess.symm.trans hsucceed
                  rcases hfollows with ⟨-, hoff⟩ | ⟨-, hfile⟩
                  · exact hoff
                  · rw [hsafe] at hfile
                    exact hfile.elim
          | some next =>
              rw [step_next hjob haccess, hjobs, List.set_cons_zero]
              refine ⟨?_, ?_, ?_, ?_⟩
              · intro other hother hsafe
                obtain ⟨rfl, rfl⟩ := List.cons.inj hother
                obtain rfl := hdone hsafe
                obtain ⟨p', next', hsucceed, htrack⟩ | ⟨p', hsucceed, -⟩ :=
                  onTrack_succeed (h.first job hjobs hsafe) now
                · cases haccess.symm.trans hsucceed
                  exact htrack
                · cases haccess.symm.trans hsucceed
              · exact hwaiting
              · intro other hother
                cases rest with
                | nil =>
                    cases hother
                    exact hlast job rfl
                | cons second rest => exact hlast other hother
              · intro hnone
                cases hnone

/-- Once the monitor has stopped the encoder, the mode is `safe` or about to be. -/
structure Held (s : Station) : Prop where
  queued : Queued s
  safe : s.currentProfile = .stop →
    s.pending = some (.transition .safe) ∨ s.pending = none ∧ s.mode.current = .safe

theorem eq_safe_of_level {mode : SystemMode} (h : SystemMode.safe.level ≤ mode.level) :
    mode = .safe := by
  cases mode with
  | safe => rfl
  | nominal | degraded | localOnly => exact absurd h (by decide)

theorem Held.read (h : Held s) (temp : Option ℚ) (written : Bool) :
    Held (s.read t temp written) := by
  cases temp with
  | none => exact h
  | some temp =>
      rw [Station.read]
      split_ifs
      · exact ⟨h.queued.of_jobs rfl rfl fun _ => Or.inl rfl, fun _ => Or.inl rfl⟩
      · exact ⟨h.queued.of_jobs rfl rfl fun _ => Or.inl rfl, fun hstop => by cases hstop⟩
      · exact ⟨h.queued.of_jobs rfl rfl fun _ => Or.inl rfl, fun hstop => by cases hstop⟩
      · exact h

theorem Held.change (h : Held s) (now : ℚ) : Held (s.change now) := by
  rw [Station.change]
  split
  · exact h
  · next call hpending =>
      have hqueued : Queued { s with pending := none } :=
        h.queued.of_jobs rfl rfl fun _ => Or.inl rfl
      refine ⟨hqueued.commit true now call, ?_⟩
      intro hstop
      refine Or.inr ⟨rfl, ?_⟩
      rcases h.safe hstop with hsafe | ⟨hnone, -⟩
      · obtain rfl := Option.some.inj (hpending.symm.trans hsafe)
        show (ModeState.transition .safe now s.mode).current = .safe
        rw [ModeState.transition]
        split
        · assumption
        · rfl
      · rw [hpending] at hnone
        cases hnone

theorem Held.next (h : Held s) {e : Event} (hcautious : Cautious s e) :
    Held ((station t).next s e) := by
  cases e with
  | read temp written =>
      by_cases hbusy : s.Busy
      · simp only [Machine.next, station, if_pos hbusy]
        exact h
      · simp only [Machine.next, station, if_neg hbusy]
        exact h.read temp written
  | change now => exact h.change now
  | call now call =>
      refine ⟨h.queued.commit false now call, ?_⟩
      intro hstop
      rcases h.safe hstop with hpending | ⟨hnone, hsafe⟩
      · exact Or.inl hpending
      · have hlevel := hcautious hstop
        rw [hsafe] at hlevel
        exact Or.inr ⟨hnone, eq_safe_of_level hlevel⟩
  | step now i outcome =>
      refine ⟨h.queued.step hcautious, ?_⟩
      obtain ⟨p, jobs, hstep⟩ := step_eq now i outcome s
      show (s.step now i outcome).currentProfile = .stop →
        (s.step now i outcome).pending = some (.transition .safe) ∨
          (s.step now i outcome).pending = none ∧ (s.step now i outcome).mode.current = .safe
      rw [hstep]
      exact h.safe
  | command active =>
      exact ⟨h.queued.of_jobs rfl rfl fun hsafe => Or.inr (hcautious hsafe), h.safe⟩

/-- From the first critical reading until it is cool again the encoder is stopped whenever
nothing is under way, if nobody else takes the system to a better mode or starts the encoder,
and the listeners that stop it run in order and without a failure. -/
theorem hot_is_stopped (horder : t.Ordered) (now : ℚ) (events : List Event)
    (hcautious : (station t).Along Cautious (.start now) events)
    (hhot : calledFor t ((station t).trace (.start now) events) = .stop)
    (hidle : ((station t).run (.start now) events).Idle) :
    ((station t).run (.start now) events).pipeline.active = false := by
  have hstart : Held (.start now) := by
    refine ⟨⟨?_, ?_, ?_, ?_⟩, ?_⟩
    · intro job hjob
      cases hjob
    · intro job hjob
      cases hjob
    · intro job hjob
      cases hjob
    · intro _ hsafe
      cases hsafe
    · intro hstop
      cases hstop
  have hheld : Held ((station t).run (.start now) events) :=
    (station t).run_invariant (fun s e h hcautious => h.next hcautious) hcautious hstart
  rcases hheld.safe ((run_currentProfile horder now events).trans hhot) with hpending | ⟨-, hsafe⟩
  · rw [hidle.pending] at hpending
    cases hpending
  · exact hheld.queued.stopped hidle.jobs hsafe

/-! ## The monitor alone -/

/-- The mode that the monitor wants with a profile. -/
def Profile.mode : Profile → SystemMode
  | .normal => .nominal
  | .low => .degraded
  | .stop => .safe

/-- The mode, the encoder and the file are as the monitor has left them. -/
def Station.Settled (s : Station) : Prop :=
  match s.currentProfile with
  | .normal => s.mode.current = .nominal ∧ s.pipeline.active = true ∧ s.pipeline.file = .absent
  | .low => s.mode.current = .degraded ∧ s.pipeline.active = true ∧
      ∃ ts, s.pipeline.file = .object (SystemMode.degraded.fpsProfile ts)
  | .stop => s.mode.current = .safe ∧ s.pipeline.active = false ∧
      s.pipeline.file = .word .stop

/-- Nobody but the monitor does anything, and nothing fails. -/
def Undisturbed : Event → Prop
  | .read _ written => written = true
  | .change _ => True
  | .step _ _ outcome => outcome = .done
  | .call _ _ | .command _ => False

/-- Where a turn of the monitor stands: it waits; it has still to make its change; or it runs
the listener of the change. -/
inductive Phase (s : Station) : Prop
  | waits (pending : s.pending = none) (jobs : s.jobs = []) (settled : s.Settled)
  | changes (call : ModeCall) (pending : s.pending = some call) (jobs : s.jobs = [])
      (commits : ∀ now, (call.commit now s.mode).current = s.currentProfile.mode)
      (differs : s.currentProfile.mode ≠ s.mode.current)
      (file : s.pipeline.file = .word s.currentProfile)
  | enforces (job : Job) (pending : s.pending = none) (jobs : s.jobs = [job])
      (own : job.own = true) (mode : s.mode.current = s.currentProfile.mode)
      (target : job.callback.target = s.currentProfile.mode)
      (onTrack : OnTrack job.callback s.pipeline)
      (file : s.currentProfile = .stop → s.pipeline.file = .word .stop)

theorem settled_of_follows (hmode : s.mode.current = s.currentProfile.mode)
    (hfollows : s.pipeline.Follows s.currentProfile.mode)
    (hfile : s.currentProfile = .stop → s.pipeline.file = .word .stop) : s.Settled := by
  obtain ⟨profile, pending, mode, pipeline, jobs⟩ := s
  cases profile with
  | normal =>
      rcases hfollows with ⟨hsafe, -⟩ | ⟨hactive, habsent⟩
      · cases hsafe
      · exact ⟨hmode, hactive, habsent⟩
  | low =>
      rcases hfollows with ⟨hsafe, -⟩ | ⟨hactive, hobject⟩
      · cases hsafe
      · exact ⟨hmode, hactive, hobject⟩
  | stop =>
      rcases hfollows with ⟨-, hoff⟩ | ⟨-, hnone⟩
      · exact ⟨hmode, hoff, hfile rfl⟩
      · exact hnone.elim

theorem Station.Settled.mode_eq (h : s.Settled) : s.mode.current = s.currentProfile.mode := by
  obtain ⟨profile, pending, mode, pipeline, jobs⟩ := s
  cases profile with
  | normal => exact h.1
  | low => exact h.1
  | stop => exact h.1

/-- A reading starts a turn, or leaves all as it is. -/
theorem phase_read (hpending : s.pending = none) (hjobs : s.jobs = []) (hsettled : s.Settled)
    (temp : Option ℚ) : Phase (s.read t temp true) := by
  have hmode := hsettled.mode_eq
  cases temp with
  | none => exact .waits hpending hjobs hsettled
  | some temp =>
      rw [Station.read]
      split_ifs with hcrit hwarm hcool
      · have hne : s.mode.current ≠ .safe := by
          rw [hmode]
          cases hprofile : s.currentProfile with
          | normal | low => exact SystemMode.noConfusion
          | stop => exact absurd hprofile hcrit.2
        refine .changes (.transition .safe) rfl hjobs ?_ hne.symm rfl
        intro now
        exact congrArg ModeState.current (if_neg hne)
      · have hnominal : s.mode.current = .nominal := by
          rw [hmode, hwarm.2]
          rfl
        refine .changes .degrade rfl hjobs ?_ ?_ rfl
        · intro now
          show (ModeState.degrade now s.mode).current = .degraded
          rw [ModeState.degrade, ModeState.transition, hnominal]
          rfl
        · show SystemMode.degraded ≠ s.mode.current
          rw [hnominal]
          exact SystemMode.noConfusion
      · have hlevel : ¬ s.mode.current.level ≤ SystemMode.nominal.level := by
          rw [hmode]
          cases hprofile : s.currentProfile with
          | normal => exact absurd hprofile hcool.2
          | low | stop => decide
        refine .changes (.promote .nominal) rfl hjobs ?_ ?_ rfl
        · intro now
          exact congrArg ModeState.current (if_neg hlevel)
        · intro (heq : SystemMode.nominal = s.mode.current)
          exact hlevel (by rw [← heq])
      · exact .waits hpending hjobs hsettled

theorem Phase.next (h : Phase s) {e : Event} (hundisturbed : Undisturbed e) :
    Phase ((station t).next s e) := by
  cases e with
  | read temp written =>
      obtain rfl : written = true := hundisturbed
      by_cases hbusy : s.Busy
      · simp only [Machine.next, station, if_pos hbusy]
        exact h
      · simp only [Machine.next, station, if_neg hbusy]
        cases h with
        | waits hpending hjobs hsettled => exact phase_read hpending hjobs hsettled temp
        | changes call hpending =>
            refine absurd (Or.inl ?_) hbusy
            rw [hpending]
            exact Option.some_ne_none call
        | enforces job hpending hjobs hown =>
            refine absurd (Or.inr ⟨job, ?_, hown⟩) hbusy
            rw [hjobs]
            exact List.mem_singleton_self job
  | change now =>
      show Phase (s.change now)
      cases h with
      | waits hpending hjobs hsettled =>
          rw [Station.change, hpending]
          exact .waits hpending hjobs hsettled
      | changes call hpending hjobs hcommits hdiffers hfile =>
          rw [Station.change, hpending]
          have hcommit := hcommits now
          have hne : (call.commit now s.mode).current ≠ s.mode.current := by
            rw [hcommit]
            exact hdiffers
          simp only [commit_ne (s := { s with pending := none }) hne]
          refine .enforces (.of true s.mode.current (call.commit now s.mode).current) rfl ?_ rfl
            hcommit hcommit (onTrack_firstStep _ _ _) ?_
          · rw [hjobs]
            rfl
          · intro hstop
            exact hfile.trans (congrArg _ hstop)
      | enforces job hpending hjobs hown hmode htarget htrack hfile =>
          rw [Station.change, hpending]
          exact .enforces job hpending hjobs hown hmode htarget htrack hfile
  | step now i outcome =>
      obtain rfl : outcome = .done := hundisturbed
      show Phase (s.step now i .done)
      cases h with
      | waits hpending hjobs hsettled =>
          rw [step_none (by rw [hjobs]; rfl)]
          exact .waits hpending hjobs hsettled
      | changes call hpending hjobs hcommits hdiffers hfile =>
          rw [step_none (by rw [hjobs]; rfl)]
          exact .changes call hpending hjobs hcommits hdiffers hfile
      | enforces job hpending hjobs hown hmode htarget htrack hfile =>
          cases i with
          | succ i =>
              rw [step_none (by rw [hjobs]; rfl)]
              exact .enforces job hpending hjobs hown hmode htarget htrack hfile
          | zero =>
              have hjob : s.jobs[0]? = some job := by
                rw [hjobs]
                rfl
              have hword : s.currentProfile = .stop →
                  (s.pipeline.succeed now job.callback).1.file = .word .stop := by
                intro hstop
                rw [file_succeed htrack (by rw [htarget, hstop]; rfl), hfile hstop]
              obtain ⟨p, next, hsucceed, htrack⟩ | ⟨p, hsucceed, hfollows⟩ :=
                onTrack_succeed htrack now
              · rw [@step_next _ _ _ _ _ .done _ hjob hsucceed]
                rw [hsucceed] at hword
                refine .enforces { job with callback.next := next } hpending ?_ hown hmode htarget
                  htrack hword
                rw [hjobs]
                rfl
              · rw [@step_last _ _ _ _ _ .done hjob hsucceed]
                rw [hsucceed] at hword
                rw [htarget] at hfollows
                refine .waits hpending ?_ (settled_of_follows hmode hfollows hword)
                rw [hjobs]
                rfl
  | call now call => exact hundisturbed.elim
  | command active => exact hundisturbed.elim

/-- With nobody else doing anything and nothing failing, whenever nothing is under way the
station is as the readings call for it: at first and once it is cool again, in the mode
`nominal`, with the encoder running and no file; from the first warm reading on in the mode
`degraded`, with a smaller stream; from the first critical one on in the mode `safe`, with the
encoder stopped. -/
theorem alone_follows (horder : t.Ordered) (now : ℚ) (events : List Event)
    (hundisturbed : ∀ e ∈ events, Undisturbed e)
    (hidle : ((station t).run (.start now) events).Idle) :
    ((station t).run (.start now) events).currentProfile =
        calledFor t ((station t).trace (.start now) events) ∧
      ((station t).run (.start now) events).Settled := by
  constructor
  · exact run_currentProfile horder now events
  · have halong : (station t).Along (fun _ e => Undisturbed e) (.start now) events :=
      (station t).along_of_forall (fun e he _ => hundisturbed e he) _
    have hstart : Phase (.start now) := .waits rfl rfl ⟨rfl, rfl, rfl⟩
    have hphase : Phase ((station t).run (.start now) events) :=
      (station t).run_invariant (fun s e h hundisturbed => h.next hundisturbed) halong hstart
    cases hphase with
    | waits hpending hjobs hsettled => exact hsettled
    | changes call hpending =>
        rw [hidle.pending] at hpending
        cases hpending
    | enforces job hpending hjobs =>
        rw [hidle.jobs] at hjobs
        cases hjobs

/-! ### A run -/

/-- It gets warm, then critical, and cools down, but not enough.  The first listener cannot
write the file; the watchdog restarts the encoder before it is stopped. -/
def sampleDay : List Event :=
  [.read (some 60) true, .read (some 72) true, .change 20, .step 21 0 (.failed true),
    .step 22 0 .done, .step 23 0 .done, .read none true, .command true, .read (some 81) true,
    .change 40, .step 41 0 .done, .step 42 0 .done, .step 43 0 .done, .read (some 70) true]

instance (s : Station) : ∀ e, Decidable (Cautious s e)
  | .read _ _ | .change _ => .isTrue trivial
  | .call now call => inferInstanceAs (Decidable (s.currentProfile = .stop →
      s.mode.current.level ≤ (call.commit now s.mode).current.level))
  | .step _ i outcome => inferInstanceAs (Decidable (∀ job ∈ s.jobs[i]?,
      i = 0 ∧ (job.callback.target = .safe → outcome = .done)))
  | .command active => inferInstanceAs (Decidable (s.mode.current = .safe → active = false))

theorem hot_is_stopped_sample :
    ((station defaultThresholds).run (.start 0) sampleDay).pipeline.active = false := by
  apply hot_is_stopped defaultThresholds_ordered 0 sampleDay
  · decide +kernel
  · decide +kernel
  · exact ⟨rfl, rfl⟩

/-- The watchdog restarts the encoder behind it. -/
example : ((station defaultThresholds).run (.start 0)
    (sampleDay ++ [.command true])).pipeline.active = true := rfl

/-- It gets critical and is cool again. -/
def sampleHour : List Event :=
  [.read (some 81) true, .change 40, .step 41 0 .done, .step 42 0 .done, .step 43 0 .done,
    .read (some 65) true, .change 50, .step 51 0 .done, .step 52 0 .done, .step 53 0 .done,
    .step 54 0 .done, .step 55 0 .done]

instance : ∀ e, Decidable (Undisturbed e)
  | .read _ written => inferInstanceAs (Decidable (written = true))
  | .change _ => .isTrue trivial
  | .step _ _ outcome => inferInstanceAs (Decidable (outcome = .done))
  | .call _ _ | .command _ => .isFalse id

theorem alone_follows_sample :
    let s := (station defaultThresholds).run (.start 0) sampleHour
    s.currentProfile = .normal ∧ s.Settled := by
  have hfollows := alone_follows defaultThresholds_ordered 0 sampleHour (by decide) ⟨rfl, rfl⟩
  have hnormal : calledFor defaultThresholds
      ((station defaultThresholds).trace (.start 0) sampleHour) = .normal := by decide +kernel
  rw [hnormal] at hfollows
  exact hfollows

end CameraStack.Fdir.Thermal
