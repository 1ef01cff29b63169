/-
# What a reset cancels

`reset` clears the timers it knows by their handles and forgets the rest.  A health check and
a promise are not cancelled, and a backoff timer whose handle was overwritten stays armed.
Which of them are still dangerous is decided by what they look at when they come back: a
failed health check and a failed attempt find nothing pending and stop, a passed health check
and a resolved attempt look at nothing.
-/

import CameraStack.Player.Coordinator

namespace CameraStack.Player

open CameraStack.Lib

/-! ## Known timers -/

/-- The handles know every armed timer of a settle window; a backoff timer may have been lost. -/
def Coordinator.Known (s : Coordinator) : Prop :=
  ∀ t ∈ s.timers, (t.kind = .settleStart → s.settleStartTimer = some t.id) ∧
    (t.kind = .settle → s.settleTimer = some t.id)

namespace Coordinator

variable {cfg : Config} {ctx : Context} {s s' : Coordinator}

/-- Armed timers may go as long as the handles stay. -/
theorem Known.of_subset (h : s.Known) (htimers : ∀ t ∈ s'.timers, t ∈ s.timers)
    (hstart : s'.settleStartTimer = s.settleStartTimer) (hsettle : s'.settleTimer = s.settleTimer) :
    s'.Known := by
  intro t ht
  rw [hstart, hsettle]
  exact h t (htimers t ht)

theorem Known.disarm (h : s.Known) (id : ℕ) : (s.disarm id).Known :=
  h.of_subset (fun _ ht => (List.mem_filter.mp ht).1) rfl rfl

theorem Known.clearScheduleTimer (h : s.Known) : s.clearScheduleTimer.Known := by
  rw [Coordinator.clearScheduleTimer]
  cases s.scheduleTimer with
  | none => exact h
  | some id => exact h.disarm id

/-- Where a timer is cleared by its handle, no other of its kind is armed. -/
theorem Known.clearSettleStartTimer (h : s.Known) : s.clearSettleStartTimer.Known ∧
    ∀ t ∈ s.clearSettleStartTimer.timers, t.kind ≠ .settleStart := by
  rw [Coordinator.clearSettleStartTimer]
  cases hhandle : s.settleStartTimer with
  | none =>
      simp only
      refine ⟨h, fun t ht hkind => ?_⟩
      rw [(h t ht).1 hkind] at hhandle
      cases hhandle
  | some id =>
      have hnone : ∀ t ∈ (s.disarm id).timers, t.kind ≠ .settleStart := by
        intro t ht hkind
        obtain ⟨hmem, hid⟩ := List.mem_filter.mp ht
        rw [(h t hmem).1 hkind, Option.some.injEq] at hhandle
        simp [hhandle] at hid
      exact ⟨fun t ht => ⟨fun hkind => absurd hkind (hnone t ht), ((h.disarm id) t ht).2⟩, hnone⟩

theorem Known.clearSettleTimer (h : s.Known) : s.clearSettleTimer.Known ∧
    ∀ t ∈ s.clearSettleTimer.timers, t.kind ≠ .settle := by
  rw [Coordinator.clearSettleTimer]
  cases hhandle : s.settleTimer with
  | none =>
      simp only
      refine ⟨h, fun t ht hkind => ?_⟩
      rw [(h t ht).2 hkind] at hhandle
      cases hhandle
  | some id =>
      have hnone : ∀ t ∈ (s.disarm id).timers, t.kind ≠ .settle := by
        intro t ht hkind
        obtain ⟨hmem, hid⟩ := List.mem_filter.mp ht
        rw [(h t hmem).2 hkind, Option.some.injEq] at hhandle
        simp [hhandle] at hid
      exact ⟨fun t ht => ⟨((h.disarm id) t ht).1, fun hkind => absurd hkind (hnone t ht)⟩, hnone⟩

/-- After `_clearTimers` only lost backoff timers are armed. -/
theorem Known.clearTimers (h : s.Known) :
    s.clearTimers.Known ∧ ∀ t ∈ s.clearTimers.timers, t.kind = .backoff := by
  have hstart := h.clearScheduleTimer.clearSettleStartTimer
  have hsettle := hstart.1.clearSettleTimer
  refine ⟨hsettle.1, fun t ht => ?_⟩
  have hmem : t ∈ s.clearScheduleTimer.clearSettleStartTimer.timers := by
    rw [Coordinator.clearTimers, Coordinator.clearSettleTimer] at ht
    split at ht
    · exact ht
    · exact (List.mem_filter.mp ht).1
  cases hkind : t.kind with
  | backoff => rfl
  | settleStart => exact absurd hkind (hstart.2 t hmem)
  | settle => exact absurd hkind (hsettle.2 t ht)

/-- A timer is armed where no other of its kind is, but for backoff timers. -/
theorem Known.arm (h : s.Known) {kind : TimerKind}
    (hfree : kind ≠ .backoff → ∀ t ∈ s.timers, t.kind ≠ kind) (chain token : ℕ) :
    (s.arm kind chain token).Known := by
  intro t ht
  rcases List.mem_append.mp ht with hold | hnew
  · constructor
    · intro hkind
      have hne : kind ≠ .settleStart := by
        rintro rfl
        exact hfree (by decide) t hold hkind
      exact (if_neg hne).trans ((h t hold).1 hkind)
    · intro hkind
      have hne : kind ≠ .settle := by
        rintro rfl
        exact hfree (by decide) t hold hkind
      exact (if_neg hne).trans ((h t hold).2 hkind)
  · rw [List.mem_singleton.mp hnew]
    exact ⟨fun hkind => if_pos hkind, fun hkind => if_pos hkind⟩

theorem Known.scheduleNext (h : s.Known) : (s.scheduleNext cfg ctx).1.Known := by
  rw [Coordinator.scheduleNext]
  cases s.pending with
  | none => exact h
  | some pending =>
      simp only
      split_ifs
      · exact h
      · exact h
      · exact h.arm (fun hne => absurd rfl hne) _ _

theorem Known.request (h : s.Known) (reason : String) (severity : ℕ) :
    (s.request cfg ctx reason severity).1.Known := by
  have hrecord : (s.record reason severity).Known := h
  unfold Coordinator.request
  simp only
  split_ifs
  · exact hrecord
  · exact hrecord
  · exact hrecord.scheduleNext

theorem Known.resumeIfPending (h : s.Known) : (s.resumeIfPending cfg ctx).1.Known := by
  rw [Coordinator.resumeIfPending]
  split_ifs
  · exact h
  · exact h.scheduleNext
  · exact h

theorem Known.notifyRecovered (h : s.Known) : (s.notifyRecovered ctx).1.Known := by
  rw [Coordinator.notifyRecovered]
  split_ifs
  · exact h
  · exact h.clearSettleTimer.1.clearTimers.1

theorem Known.notifyAttemptFailed (h : s.Known) (reason : Option String) (severity : ℕ) :
    (s.notifyAttemptFailed cfg ctx reason severity).1.Known := by
  unfold Coordinator.notifyAttemptFailed
  split_ifs
  · exact h
  · have hended : ∀ {s' : Coordinator}, s'.Known →
        ({ s'.clearTimers with inFlight := false, running := [] } : Coordinator).Known :=
      fun h' => h'.clearTimers.1
    cases reason with
    | none => exact (hended h).scheduleNext
    | some r =>
        have hrecord : (s.record r severity).Known := h
        exact (hended hrecord).scheduleNext

theorem Known.startSettleWindow (h : s.Known) : (s.startSettleWindow ctx).Known := by
  rw [Coordinator.startSettleWindow]
  split_ifs with hclosed
  · exact h
  · have hstart := h.clearSettleStartTimer.1
    refine hstart.arm (fun _ t ht hkind => ?_) _ _
    have hsettle := (hstart t ht).2 hkind
    rw [Coordinator.clearSettleStartTimer_eq] at hsettle
    simp [show s.settleTimer = some t.id from hsettle] at hclosed

theorem Known.runScheduled (h : s.Known) (a : Awaiting) :
    (s.runScheduled cfg ctx a).1.Known := by
  have hclear := h.clearScheduleTimer
  rw [Coordinator.runScheduled]
  simp only
  split_ifs
  · exact hclear
  · exact hclear
  · exact hclear
  · exact hclear.clearTimers.1
  · exact hclear
  · exact hclear

theorem Known.attemptSettled (h : s.Known) (a : Awaiting) (result : Settlement) :
    (s.attemptSettled cfg ctx a result).1.Known := by
  obtain ⟨hclear, hfree⟩ := h.clearSettleStartTimer
  unfold Coordinator.attemptSettled
  cases result with
  | resolved =>
      simp only
      split_ifs
      · exact hclear
      · exact hclear.arm (fun _ => hfree) _ _
  | rejected => exact Known.scheduleNext (s := s.clearSettleStartTimer.endAttempt a.chain) hclear
  | timedOut =>
      exact Known.scheduleNext (s := (s.clearSettleStartTimer.escalate hard).endAttempt a.chain) hclear

/-- A timer that fires was the one its handle knew. -/
theorem Known.fire (h : s.Known) {t : Timer} (ht : t ∈ s.timers) :
    (s.fire cfg ctx t).1.Known := by
  have hdisarm := h.disarm t.id
  have hrest : ∀ t' ∈ (s.disarm t.id).timers, t' ∈ s.timers ∧ t'.id ≠ t.id := fun t' ht' => by
    simpa [Coordinator.disarm] using ht'
  rw [Coordinator.fire]
  cases hkind : t.kind with
  | backoff => exact hdisarm.runScheduled _
  | settleStart =>
      have hfired : ({ s.disarm t.id with settleStartTimer := none } : Coordinator).Known := by
        intro t' ht'
        refine ⟨fun hkind' => ?_, (hdisarm t' ht').2⟩
        have hsame := ((h t' (hrest t' ht').1).1 hkind').symm.trans ((h t ht).1 hkind)
        exact absurd (Option.some.inj hsame) (hrest t' ht').2
      simp only [Coordinator.settleStartTimeout]
      split_ifs
      · exact hfired
      · exact hfired
      · exact hfired
      · exact Known.scheduleNext (s := Coordinator.endAttempt t.chain (Coordinator.escalate _ hard))
          hfired
  | settle =>
      have hfired : ({ s.disarm t.id with settleTimer := none } : Coordinator).Known := by
        intro t' ht'
        refine ⟨(hdisarm t' ht').1, fun hkind' => ?_⟩
        have hsame := ((h t' (hrest t' ht').1).2 hkind').symm.trans ((h t ht).2 hkind)
        exact absurd (Option.some.inj hsame) (hrest t' ht').2
      simp only [Coordinator.onSettle]
      split_ifs
      · exact hfired
      · exact hfired
      · exact Known.scheduleNext (s := Coordinator.endAttempt t.chain (Coordinator.escalate _ hard))
          hfired

/-- One event. -/
theorem Known.handle (h : s.Known) (e : CoordinatorEvent) : (s.handle cfg ctx e).1.Known := by
  cases e with
  | request reason severity => exact h.request reason severity
  | notifyAttemptFailed reason severity => exact h.notifyAttemptFailed reason severity
  | notifyRecovered => exact h.notifyRecovered
  | startSettleWindow => exact h.startSettleWindow
  | resumeIfPending => exact h.resumeIfPending
  | escalateSeverity | expectSessionResetFromRecreate | consumeExpectedSessionReset => exact h
  | reset => exact h.clearTimers.1
  | timer id =>
      simp only [Coordinator.handle]
      split
      · exact h
      · next t hfind => exact h.fire (List.mem_of_find?_eq_some hfind)
  | healthCheck chain ok =>
      simp only [Coordinator.handle]
      split
      · exact h
      · next a hfind =>
          have hchecks : ({ s with checks := s.checks.erase a } : Coordinator).Known := h
          rw [Coordinator.healthChecked]
          split_ifs
          · exact h
          · exact hchecks.scheduleNext
  | raceSettled chain result =>
      simp only [Coordinator.handle]
      split
      · exact h
      · next a hfind =>
          exact Known.attemptSettled (s := { s with races := s.races.erase a }) h a result

end Coordinator

/-- The handles know the timers in every run. -/
theorem known_run (cfg : Config) (inputs : List (Context × CoordinatorEvent)) :
    ((coordinatorMachine cfg).run {} inputs).Known :=
  Machine.run_invariant_of_step _ (fun _ i h => h.handle i.2) (fun _ ht => absurd ht List.not_mem_nil)
    inputs

/-! ## Quiet continuations -/

/-- A call that asks for a chain. -/
def CoordinatorEvent.isRequest : CoordinatorEvent → Bool
  | .request .. => true
  | _ => false

/-- A timer that fires or a promise that settles. -/
def CoordinatorEvent.isContinuation : CoordinatorEvent → Bool
  | .timer _ | .healthCheck .. | .raceSettled .. => true
  | _ => false

/-- Nothing is called, armed or counted, and nothing is in flight that was not.  A health check
counts as armed: a timer aborts it. -/
structure Quiet (s : Coordinator) (result : Coordinator × List Signal) : Prop where
  signals : result.2 = []
  timers : ∀ t ∈ result.1.timers, t ∈ s.timers
  checks : result.1.checks.length ≤ s.checks.length
  inFlight : result.1.inFlight = s.inFlight
  attempt : result.1.attempt = s.attempt

/-- A continuation that a reset leaves harmless: no health check passes, no attempt resolves,
and a timer the reset has lost finds the player stopped or the token changed. -/
def Harmless (s : Coordinator) : Context × CoordinatorEvent → Prop
  | (ctx, .timer id) =>
      ∀ t ∈ s.timers.find? fun t => t.id = id, ctx.shouldContinue = false ∨ t.token ≠ ctx.token
  | (_, .healthCheck chain true) => (s.checks.find? fun a => a.chain = chain) = none
  | (_, .raceSettled chain .resolved) => (s.races.find? fun a => a.chain = chain) = none
  | _ => True

/-- What a reset leaves behind. -/
structure Coordinator.Cancelled (s : Coordinator) : Prop where
  pending : s.pending = none
  inFlight : s.inFlight = false
  attempt : s.attempt = 0
  scheduleTimer : s.scheduleTimer = none
  settleStartTimer : s.settleStartTimer = none
  settleTimer : s.settleTimer = none
  lost : ∀ t ∈ s.timers, t.kind = .backoff

/-- After a reset. -/
theorem Coordinator.Known.cancelled_reset {s : Coordinator} (h : s.Known) :
    s.reset.1.Cancelled := by
  have hframe := s.clearTimers_eq
  rw [Coordinator.reset]
  refine ⟨rfl, rfl, rfl, ?_, ?_, ?_, h.clearTimers.2⟩
  · rw [hframe]
  · rw [hframe]
  · rw [hframe]

section Cancelled

variable {cfg : Config} {ctx : Context} {s : Coordinator}

theorem Quiet.refl (s : Coordinator) : Quiet s (s, []) :=
  ⟨rfl, fun _ ht => ht, le_rfl, rfl, rfl⟩

/-- With nothing pending nothing is scheduled. -/
theorem Quiet.scheduleNext {s' : Coordinator} (h : Quiet s (s', [])) (hpending : s'.pending = none) :
    Quiet s (s'.scheduleNext cfg ctx) := by
  rw [Coordinator.scheduleNext_blocked (.inl hpending)]
  exact h

/-- Without handles there is nothing to clear. -/
theorem Coordinator.Cancelled.clearTimers (h : s.Cancelled) : s.clearTimers = s := by
  have hschedule : s.clearScheduleTimer = s := by
    rw [Coordinator.clearScheduleTimer, h.scheduleTimer]
  have hstart : s.clearSettleStartTimer = s := by
    rw [Coordinator.clearSettleStartTimer, h.settleStartTimer]
  have hsettle : s.clearSettleTimer = s := by
    rw [Coordinator.clearSettleTimer, h.settleTimer]
  rw [Coordinator.clearTimers, hschedule, hstart, hsettle]

/-- A lost timer fires: it is harmless where it stops at once. -/
theorem Coordinator.Cancelled.quiet_fire (h : s.Cancelled) {t : Timer} (ht : t ∈ s.timers) :
    Quiet s (s.fire cfg ctx t) ↔ ctx.shouldContinue = false ∨ t.token ≠ ctx.token := by
  have hclear : (s.disarm t.id).clearScheduleTimer = s.disarm t.id := by
    have hnone : (s.disarm t.id).scheduleTimer = none := h.scheduleTimer
    rw [Coordinator.clearScheduleTimer, hnone]
  have hdisarm : Quiet s (s.disarm t.id, []) :=
    ⟨rfl, fun _ ht' => (List.mem_filter.mp ht').1, le_rfl, rfl, rfl⟩
  rw [Coordinator.fire]
  rw [h.lost t ht]
  rw [Coordinator.runScheduled]
  simp only [hclear]
  split_ifs with hstop hstale hflight hrecovered hcheck
  · exact iff_of_true hdisarm (.inl hstop)
  · exact iff_of_true hdisarm (.inr hstale)
  · rw [Coordinator.disarm, h.inFlight] at hflight
    cases hflight
  · exact iff_of_false (fun hquiet => by cases hquiet.signals) (not_or.mpr ⟨hstop, hstale⟩)
  · refine iff_of_false (fun hquiet => ?_) (not_or.mpr ⟨hstop, hstale⟩)
    exact absurd hquiet.checks (by simp [Coordinator.disarm])
  · exact iff_of_false (fun hquiet => by cases hquiet.signals) (not_or.mpr ⟨hstop, hstale⟩)

/-- After a reset a continuation is quiet exactly when it is harmless. -/
theorem Coordinator.Cancelled.quiet_iff (h : s.Cancelled) {e : CoordinatorEvent}
    (hcontinuation : e.isContinuation = true) :
    Quiet s (s.handle cfg ctx e) ↔ Harmless s (ctx, e) := by
  cases e with
  | timer id =>
      simp only [Coordinator.handle, Harmless]
      cases hfind : s.timers.find? fun t => t.id = id with
      | none => exact iff_of_true (Quiet.refl s) (by simp)
      | some t =>
          simp only [Option.mem_some_iff, forall_eq']
          exact h.quiet_fire (List.mem_of_find?_eq_some hfind)
  | healthCheck chain ok =>
      simp only [Coordinator.handle, Coordinator.healthChecked]
      cases hfind : s.checks.find? fun a => a.chain = chain with
      | none =>
          refine iff_of_true (Quiet.refl s) ?_
          cases ok with
          | true => exact hfind
          | false => trivial
      | some a =>
          cases ok with
          | true =>
              refine iff_of_false (fun hquiet => by cases hquiet.signals) ?_
              simp [Harmless, hfind]
          | false =>
              refine iff_of_true ?_ trivial
              simp only [Bool.false_eq_true, if_false]
              exact Quiet.scheduleNext
                ⟨rfl, fun _ ht => ht, (List.erase_sublist).length_le, rfl, rfl⟩ h.pending
  | raceSettled chain result =>
      simp only [Coordinator.handle]
      cases hfind : s.races.find? fun a => a.chain = chain with
      | none =>
          refine iff_of_true (Quiet.refl s) ?_
          cases result with
          | resolved => exact hfind
          | rejected | timedOut => trivial
      | some a =>
          have hclear : ({ s with races := s.races.erase a } : Coordinator).clearSettleStartTimer =
              { s with races := s.races.erase a } := by
            rw [Coordinator.clearSettleStartTimer, h.settleStartTimer]
          simp only [Coordinator.attemptSettled, hclear]
          cases result with
          | resolved =>
              refine iff_of_false (fun hquiet => ?_) (by simp [Harmless, hfind])
              simp only [h.settleTimer, Option.isSome_none, Bool.false_eq_true, if_false] at hquiet
              have hnew := h.lost _ (hquiet.timers _ (List.mem_append_right _ List.mem_cons_self))
              cases hnew
          | rejected =>
              refine iff_of_true ?_ trivial
              simp only
              exact Quiet.scheduleNext ⟨rfl, fun _ ht => ht, le_rfl, h.inFlight.symm, rfl⟩ h.pending
          | timedOut =>
              refine iff_of_true ?_ trivial
              simp only
              refine Quiet.scheduleNext ⟨rfl, fun _ ht => ht, le_rfl, h.inFlight.symm, rfl⟩ ?_
              simp [Coordinator.endAttempt, Coordinator.escalate, h.pending]
  | request | notifyAttemptFailed | notifyRecovered | startSettleWindow | escalateSeverity
  | resumeIfPending | expectSessionResetFromRecreate | consumeExpectedSessionReset | reset =>
      cases hcontinuation

theorem Coordinator.Cancelled.escalate (h : s.Cancelled) (severity : ℕ) :
    (s.escalate severity).Cancelled :=
  ⟨by simp [Coordinator.escalate, h.pending], h.inFlight, h.attempt, h.scheduleTimer,
    h.settleStartTimer, h.settleTimer, h.lost⟩

theorem Coordinator.Cancelled.endAttempt (h : s.Cancelled) (chain : ℕ) :
    (s.endAttempt chain).Cancelled :=
  ⟨h.pending, rfl, h.attempt, h.scheduleTimer, h.settleStartTimer, h.settleTimer, h.lost⟩

/-- A lost timer that stops at once leaves the coordinator so. -/
theorem Coordinator.Cancelled.fire (h : s.Cancelled) {t : Timer} (ht : t ∈ s.timers)
    (hharmless : ctx.shouldContinue = false ∨ t.token ≠ ctx.token) :
    (s.fire cfg ctx t).1.Cancelled := by
  have hdisarm : (s.disarm t.id).Cancelled :=
    ⟨h.pending, h.inFlight, h.attempt, h.scheduleTimer, h.settleStartTimer, h.settleTimer,
      fun t' ht' => h.lost t' (List.mem_filter.mp ht').1⟩
  have hclear : (s.disarm t.id).clearScheduleTimer = s.disarm t.id := by
    rw [Coordinator.clearScheduleTimer, hdisarm.scheduleTimer]
  rw [Coordinator.fire]
  rw [h.lost t ht]
  rw [Coordinator.runScheduled]
  simp only [hclear]
  rcases hharmless with hstop | hstale
  · rw [if_pos hstop]
    exact hdisarm
  · rw [if_pos hstale, ite_self]
    exact hdisarm

/-- Whatever comes in but a request or a harmful continuation leaves the coordinator so. -/
theorem Coordinator.Cancelled.handle (h : s.Cancelled) {e : CoordinatorEvent}
    (hrequest : e.isRequest = false) (hharmless : Harmless s (ctx, e)) :
    (s.handle cfg ctx e).1.Cancelled := by
  have hblocked : ∀ {s' : Coordinator}, s'.Cancelled → (s'.scheduleNext cfg ctx).1.Cancelled := by
    intro s' h'
    rw [Coordinator.scheduleNext_blocked (.inl h'.pending)]
    exact h'
  cases e with
  | request => cases hrequest
  | notifyAttemptFailed reason severity =>
      have hskip : s.notifyAttemptFailed cfg ctx reason severity = (s, []) := if_pos h.inFlight
      rw [Coordinator.handle, hskip]
      exact h
  | notifyRecovered =>
      rw [Coordinator.handle, Coordinator.notifyRecovered, if_pos (by simp [h.inFlight])]
      exact h
  | startSettleWindow =>
      rw [Coordinator.handle, Coordinator.startSettleWindow, if_pos (by simp [h.inFlight])]
      exact h
  | escalateSeverity severity => exact h.escalate _
  | resumeIfPending =>
      rw [Coordinator.handle, Coordinator.resumeIfPending,
        if_neg (by simp [h.inFlight, h.scheduleTimer]), if_neg (by simp [h.pending])]
      exact h
  | expectSessionResetFromRecreate | consumeExpectedSessionReset =>
      exact ⟨h.pending, h.inFlight, h.attempt, h.scheduleTimer, h.settleStartTimer, h.settleTimer,
        h.lost⟩
  | reset =>
      rw [Coordinator.handle, Coordinator.reset, h.clearTimers]
      exact ⟨rfl, rfl, rfl, h.scheduleTimer, h.settleStartTimer, h.settleTimer, h.lost⟩
  | timer id =>
      simp only [Coordinator.handle]
      cases hfind : s.timers.find? fun t => t.id = id with
      | none => exact h
      | some t => exact h.fire (List.mem_of_find?_eq_some hfind) (hharmless t hfind)
  | healthCheck chain ok =>
      simp only [Coordinator.handle]
      cases hfind : s.checks.find? fun a => a.chain = chain with
      | none => exact h
      | some a =>
          cases ok with
          | true => rw [Harmless, hfind] at hharmless; cases hharmless
          | false =>
              have hchecked : ({ s with checks := s.checks.erase a } : Coordinator).Cancelled :=
                ⟨h.pending, h.inFlight, h.attempt, h.scheduleTimer, h.settleStartTimer,
                  h.settleTimer, h.lost⟩
              exact hblocked hchecked
  | raceSettled chain result =>
      simp only [Coordinator.handle]
      cases hfind : s.races.find? fun a => a.chain = chain with
      | none => exact h
      | some a =>
          have hclear : ({ s with races := s.races.erase a } : Coordinator).clearSettleStartTimer =
              { s with races := s.races.erase a } := by
            rw [Coordinator.clearSettleStartTimer, h.settleStartTimer]
          have hended : ({ s with races := s.races.erase a } : Coordinator).Cancelled :=
            ⟨h.pending, h.inFlight, h.attempt, h.scheduleTimer, h.settleStartTimer, h.settleTimer,
              h.lost⟩
          simp only [Coordinator.attemptSettled, hclear]
          cases result with
          | resolved => rw [Harmless, hfind] at hharmless; cases hharmless
          | rejected => exact hblocked (hended.endAttempt a.chain)
          | timedOut => exact hblocked ((hended.escalate hard).endAttempt a.chain)

end Cancelled

/-- From a reset to the next request, whatever came before: the continuations are quiet in
exactly the runs in which each of them is harmless. -/
theorem reset_cancels_iff (cfg : Config) (before after : List (Context × CoordinatorEvent))
    (ctx : Context) (hrequest : ∀ i ∈ after, i.2.isRequest = false) :
    (coordinatorMachine cfg).Along
        (fun s i => i.2.isContinuation = true → Quiet s (s.handle cfg i.1 i.2))
        ((coordinatorMachine cfg).run {} (before ++ [(ctx, .reset)])) after ↔
      (coordinatorMachine cfg).Along Harmless
        ((coordinatorMachine cfg).run {} (before ++ [(ctx, .reset)])) after := by
  have hreset : ((coordinatorMachine cfg).run {} (before ++ [(ctx, .reset)])).Cancelled := by
    rw [Machine.run_append]
    exact (known_run cfg before).cancelled_reset
  generalize (coordinatorMachine cfg).run {} (before ++ [(ctx, .reset)]) = s at hreset
  have hstep : ∀ {s : Coordinator} {i : Context × CoordinatorEvent}, s.Cancelled →
      ((i.2.isContinuation = true → Quiet s (s.handle cfg i.1 i.2)) ↔ Harmless s i) := by
    intro s i h
    obtain ⟨ctx, e⟩ := i
    by_cases hcontinuation : e.isContinuation = true
    · simp only [hcontinuation, true_implies]
      exact h.quiet_iff hcontinuation
    · refine iff_of_true (fun hcont => absurd hcont hcontinuation) ?_
      cases e with
      | timer | healthCheck | raceSettled => exact absurd rfl hcontinuation
      | request | notifyAttemptFailed | notifyRecovered | startSettleWindow | escalateSeverity
      | resumeIfPending | expectSessionResetFromRecreate | consumeExpectedSessionReset | reset =>
          trivial
  induction after generalizing s with
  | nil => exact Iff.rfl
  | cons i after ih =>
      have hrest := fun i' hi' => hrequest i' (List.mem_cons_of_mem _ hi')
      simp only [Machine.along_cons]
      constructor
      · rintro ⟨hfirst, hlater⟩
        have hharmless := (hstep hreset).mp hfirst
        exact ⟨hharmless,
          (ih hrest _ (hreset.handle (hrequest i List.mem_cons_self) hharmless)).mp hlater⟩
      · rintro ⟨hharmless, hlater⟩
        exact ⟨(hstep hreset).mpr hharmless,
          (ih hrest _ (hreset.handle (hrequest i List.mem_cons_self) hharmless)).mpr hlater⟩

/-- A chain that has sent its health check. -/
def checkUnderWay : List (Context × CoordinatorEvent) :=
  [(inView, .request "ice_failed" 3), (inView, .timer 0)]

/-- The check fails after the reset. -/
theorem reset_cancels_failedCheck :
    (coordinatorMachine {}).Along
        (fun s i => i.2.isContinuation = true → Quiet s (s.handle {} i.1 i.2))
        ((coordinatorMachine {}).run {} (checkUnderWay ++ [(inView, .reset)]))
        [(inView, .healthCheck 0 false), (inView, .resumeIfPending)] ↔
      (coordinatorMachine {}).Along Harmless
        ((coordinatorMachine {}).run {} (checkUnderWay ++ [(inView, .reset)]))
        [(inView, .healthCheck 0 false), (inView, .resumeIfPending)] :=
  reset_cancels_iff {} checkUnderWay _ inView (by decide)

/-- The check passes after the reset: an attempt begins. -/
theorem passed_check_not_cancelled :
    ¬ ∀ (cfg : Config) (before after : List (Context × CoordinatorEvent)) (ctx : Context),
      (∀ i ∈ after, i.2.isRequest = false) →
      (coordinatorMachine cfg).Along
        (fun s i => i.2.isContinuation = true → Quiet s (s.handle cfg i.1 i.2))
        ((coordinatorMachine cfg).run {} (before ++ [(ctx, .reset)])) after := by
  intro hclaim
  have hquiet := (hclaim {} checkUnderWay [(inView, .healthCheck 0 true)] inView
    (by decide)).1 rfl
  exact absurd hquiet.attempt (by decide)

end CameraStack.Player
