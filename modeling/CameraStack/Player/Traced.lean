/-
# Traced timers

A reset clears the timers it has handles for.  It leaves none armed as long as every armed timer
is the one its handle names, and only one thing breaks that: a failed health check, a failed
attempt or an expired settle window that arms a backoff timer over another.

A coordinator at rest, with no timer armed and nothing in flight, stays so while the controller
says no, but for a health check that passes and an attempt that resolves: neither asks.
-/

import CameraStack.Player.ResetCancels

namespace CameraStack.Player

open CameraStack.Lib

/-! ## Handles -/

/-- The handles know every armed timer. -/
structure Coordinator.Traced (s : Coordinator) : Prop where
  known : s.Known
  backoff : ∀ t ∈ s.timers, t.kind = .backoff → s.scheduleTimer = some t.id

/-- The coordinator would arm a backoff timer. -/
def Coordinator.Schedules (cfg : Config) (ctx : Context) (s : Coordinator) : Prop :=
  s.pending ≠ none ∧ ctx.shouldContinue = true ∧ s.attempt < cfg.maxReconnectAttempts

instance (cfg : Config) (ctx : Context) (s : Coordinator) : Decidable (s.Schedules cfg ctx) :=
  inferInstanceAs (Decidable (_ ∧ _ ∧ _))

/-- A failed health check, a failed attempt or an expired settle window comes back while no
backoff timer is armed, or schedules nothing. -/
def Paced (cfg : Config) (s : Coordinator) : Context × CoordinatorEvent → Prop
  | (ctx, .timer id) =>
      ∀ t ∈ s.timers.find? fun t => t.id = id, t.kind ≠ .backoff →
        s.scheduleTimer = none ∨ ¬ s.Schedules cfg ctx ∨ t.token ≠ ctx.token
  | (ctx, .healthCheck chain false) =>
      (s.checks.find? fun a => a.chain = chain) = none ∨ s.scheduleTimer = none ∨
        ¬ s.Schedules cfg ctx
  | (ctx, .raceSettled chain .rejected) | (ctx, .raceSettled chain .timedOut) =>
      (s.races.find? fun a => a.chain = chain) = none ∨ s.scheduleTimer = none ∨
        ¬ s.Schedules cfg ctx
  | _ => True

instance (cfg : Config) (s : Coordinator) : DecidablePred (Paced cfg s)
  | (ctx, .timer id) => inferInstanceAs (Decidable
      (∀ t ∈ s.timers.find? fun t => t.id = id, t.kind ≠ .backoff →
        s.scheduleTimer = none ∨ ¬ s.Schedules cfg ctx ∨ t.token ≠ ctx.token))
  | (_, .healthCheck _ false) | (_, .raceSettled _ .rejected)
  | (_, .raceSettled _ .timedOut) => inferInstanceAs (Decidable (_ = _ ∨ _ = _ ∨ ¬ _))
  | (_, .healthCheck _ true) | (_, .raceSettled _ .resolved) | (_, .request ..)
  | (_, .notifyAttemptFailed ..) | (_, .notifyRecovered) | (_, .startSettleWindow)
  | (_, .escalateSeverity _) | (_, .resumeIfPending) | (_, .expectSessionResetFromRecreate)
  | (_, .consumeExpectedSessionReset) | (_, .reset) => isTrue trivial

namespace Coordinator

variable {cfg : Config} {ctx : Context} {s s' : Coordinator}

/-- Armed timers may go as long as the handles stay. -/
theorem Traced.of_subset (h : s.Traced) (htimers : ∀ t ∈ s'.timers, t ∈ s.timers)
    (hschedule : s'.scheduleTimer = s.scheduleTimer)
    (hstart : s'.settleStartTimer = s.settleStartTimer) (hsettle : s'.settleTimer = s.settleTimer) :
    s'.Traced where
  known := h.known.of_subset htimers hstart hsettle
  backoff t ht hkind := hschedule.trans (h.backoff t (htimers t ht) hkind)

theorem mem_clearSettleStartTimer {t : Timer} (h : t ∈ s.clearSettleStartTimer.timers) :
    t ∈ s.timers := by
  unfold clearSettleStartTimer at h
  split at h
  · exact h
  · exact (List.mem_filter.mp h).1

theorem mem_clearSettleTimer {t : Timer} (h : t ∈ s.clearSettleTimer.timers) : t ∈ s.timers := by
  unfold clearSettleTimer at h
  split at h
  · exact h
  · exact (List.mem_filter.mp h).1

/-- Where the backoff timer is cleared, none is armed. -/
theorem Traced.clearScheduleTimer (h : s.Traced) : s.clearScheduleTimer.Traced ∧
    ∀ t ∈ s.clearScheduleTimer.timers, t.kind ≠ .backoff := by
  have hnone : ∀ t ∈ s.clearScheduleTimer.timers, t.kind ≠ .backoff := by
    intro t ht hkind
    unfold Coordinator.clearScheduleTimer at ht
    cases hhandle : s.scheduleTimer with
    | none =>
        rw [hhandle] at ht
        rw [h.backoff t ht hkind] at hhandle
        cases hhandle
    | some id =>
        rw [hhandle] at ht
        obtain ⟨hmem, hid⟩ := List.mem_filter.mp ht
        rw [h.backoff t hmem hkind, Option.some.injEq] at hhandle
        simp [hhandle] at hid
  exact ⟨⟨h.known.clearScheduleTimer, fun t ht hkind => absurd hkind (hnone t ht)⟩, hnone⟩

theorem Traced.clearSettleStartTimer (h : s.Traced) : s.clearSettleStartTimer.Traced where
  known := h.known.clearSettleStartTimer.1
  backoff t ht hkind := by
    rw [clearSettleStartTimer_eq]
    exact h.backoff t (mem_clearSettleStartTimer ht) hkind

theorem Traced.clearSettleTimer (h : s.Traced) : s.clearSettleTimer.Traced where
  known := h.known.clearSettleTimer.1
  backoff t ht hkind := by
    rw [clearSettleTimer_eq]
    exact h.backoff t (mem_clearSettleTimer ht) hkind

/-- `_clearTimers` leaves no timer armed. -/
theorem Traced.clearTimers (h : s.Traced) : s.clearTimers.timers = [] := by
  rw [List.eq_nil_iff_forall_not_mem]
  intro t ht
  refine h.clearScheduleTimer.2 t ?_ (h.known.clearTimers.2 t ht)
  exact mem_clearSettleStartTimer (mem_clearSettleTimer ht)

/-- Without armed timers the handles have nothing to know. -/
theorem traced_of_timers (h : s.timers = []) : s.Traced where
  known t ht := by rw [h] at ht; cases ht
  backoff t ht := by rw [h] at ht; cases ht

theorem Traced.arm (h : s.Traced) {kind : TimerKind}
    (hfree : ∀ t ∈ s.timers, t.kind ≠ kind) (chain token : ℕ) :
    (s.arm kind chain token).Traced where
  known := h.known.arm (fun _ => hfree) chain token
  backoff t ht hkind := by
    rcases List.mem_append.mp ht with hold | hnew
    · have hne : kind ≠ .backoff := by
        rintro rfl
        exact hfree t hold hkind
      exact (if_neg hne).trans (h.backoff t hold hkind)
    · rw [List.mem_singleton.mp hnew] at hkind ⊢
      exact if_pos hkind

/-- Where a backoff timer would be armed, none is. -/
theorem Traced.scheduleNext (h : s.Traced)
    (hpaced : s.scheduleTimer = none ∨ ¬ s.Schedules cfg ctx) :
    (s.scheduleNext cfg ctx).1.Traced := by
  rw [Coordinator.scheduleNext]
  cases hpending : s.pending with
  | none => exact h
  | some pending =>
      simp only
      split_ifs with hstop hspent
      · exact h
      · exact h
      · refine h.arm (fun t ht hkind => ?_) _ _
        have hnone := hpaced.resolve_right fun hnot =>
          hnot ⟨by rw [hpending]; exact Option.some_ne_none _, by simpa using hstop,
            not_le.mp hspent⟩
        rw [h.backoff t ht hkind] at hnone
        cases hnone

theorem Traced.request (h : s.Traced) (reason : String) (severity : ℕ) :
    (s.request cfg ctx reason severity).1.Traced := by
  have hrecord : (s.record reason severity).Traced := h.of_subset (fun _ ht => ht) rfl rfl rfl
  rw [Coordinator.request]
  split_ifs with hstop hlatch
  · exact hrecord
  · exact hrecord
  · have hnone : s.scheduleTimer = none := by
      rw [Bool.or_eq_true, not_or] at hlatch
      simpa [Coordinator.record] using hlatch.2
    exact hrecord.scheduleNext (.inl hnone)

theorem Traced.resumeIfPending (h : s.Traced) : (s.resumeIfPending cfg ctx).1.Traced := by
  rw [Coordinator.resumeIfPending]
  split_ifs with hlatch
  · exact h
  · have hnone : s.scheduleTimer = none := by
      rw [Bool.or_eq_true, not_or] at hlatch
      simpa using hlatch.2
    exact h.scheduleNext (.inl hnone)
  · exact h

theorem Traced.notifyRecovered (h : s.Traced) : (s.notifyRecovered ctx).1.Traced := by
  rw [Coordinator.notifyRecovered]
  split_ifs
  · exact h
  · exact traced_of_timers h.clearSettleTimer.clearTimers

theorem Traced.notifyAttemptFailed (h : s.Traced) (reason : Option String) (severity : ℕ) :
    (s.notifyAttemptFailed cfg ctx reason severity).1.Traced := by
  unfold Coordinator.notifyAttemptFailed
  split_ifs
  · exact h
  · have hended : ∀ {s' : Coordinator}, s'.Traced → Coordinator.Traced
        (Coordinator.scheduleNext cfg ctx
          { s'.clearTimers with inFlight := false, running := [] }).1 := by
      intro s' h'
      refine Traced.scheduleNext (traced_of_timers h'.clearTimers) (.inl ?_)
      rw [Coordinator.clearTimers_eq]
    cases reason with
    | none => exact hended h
    | some r =>
        have hrecord : (s.record r severity).Traced := h.of_subset (fun _ ht => ht) rfl rfl rfl
        exact hended hrecord

theorem Traced.startSettleWindow (h : s.Traced) : (s.startSettleWindow ctx).Traced := by
  rw [Coordinator.startSettleWindow]
  split_ifs with hclosed
  · exact h
  · refine h.clearSettleStartTimer.arm (fun t ht hkind => ?_) _ _
    have hsettle := (h.known t (mem_clearSettleStartTimer ht)).2 hkind
    simp [hsettle] at hclosed

theorem Traced.disarm (h : s.Traced) (id : ℕ) : (s.disarm id).Traced :=
  h.of_subset (fun _ ht => (List.mem_filter.mp ht).1) rfl rfl rfl

/-- A timer that fires is armed no more. -/
theorem mem_disarm {id : ℕ} {t : Timer} (h : t ∈ (s.disarm id).timers) :
    t ∈ s.timers ∧ t.id ≠ id := by
  simpa [Coordinator.disarm] using h

theorem Traced.runScheduled (h : s.Traced) (a : Awaiting) :
    (s.runScheduled cfg ctx a).1.Traced := by
  have hclear := h.clearScheduleTimer.1
  rw [Coordinator.runScheduled]
  simp only
  split_ifs
  · exact hclear
  · exact hclear
  · exact hclear
  · exact traced_of_timers hclear.clearTimers
  · exact hclear.of_subset (fun _ ht => ht) rfl rfl rfl
  · exact hclear.of_subset (fun _ ht => ht) rfl rfl rfl

/-- An attempt that ends and asks for a more severe one. -/
theorem Traced.escalated (h : s.Traced) (chain : ℕ)
    (hpaced : s.scheduleTimer = none ∨ ¬ s.Schedules cfg ctx) :
    (((s.escalate hard).endAttempt chain).scheduleNext cfg ctx).1.Traced := by
  have hended : ((s.escalate hard).endAttempt chain).Traced :=
    h.of_subset (fun _ ht => ht) rfl rfl rfl
  refine hended.scheduleNext (hpaced.imp_right fun hnot hschedules => hnot ?_)
  obtain ⟨hpending, hrest⟩ := hschedules
  refine ⟨fun hnone => hpending ?_, hrest⟩
  simp [Coordinator.endAttempt, Coordinator.escalate, hnone]

theorem Traced.settleStartTimeout (h : s.Traced) {t : Timer} (ht : t ∈ s.timers)
    (hkind : t.kind = .settleStart)
    (hpaced : s.scheduleTimer = none ∨ ¬ s.Schedules cfg ctx ∨ t.token ≠ ctx.token) :
    ((s.disarm t.id).settleStartTimeout cfg ctx ⟨t.chain, t.token⟩).1.Traced := by
  have hfired : ({ s.disarm t.id with settleStartTimer := none } : Coordinator).Traced := by
    refine ⟨fun t' ht' => ⟨fun hkind' => ?_, ?_⟩, (h.disarm t.id).backoff⟩
    · have hsame := ((h.known t' (mem_disarm ht').1).1 hkind').symm.trans ((h.known t ht).1 hkind)
      exact absurd (Option.some.inj hsame) (mem_disarm ht').2
    · exact ((h.disarm t.id).known t' ht').2
  rw [Coordinator.settleStartTimeout]
  simp only
  split_ifs with hopen hstale hstop
  · exact hfired
  · exact hfired
  · exact hfired.of_subset (fun _ ht => ht) rfl rfl rfl
  · exact hfired.escalated _ (hpaced.imp_right fun hpaced => hpaced.resolve_right hstale)

theorem Traced.onSettle (h : s.Traced) {t : Timer} (ht : t ∈ s.timers) (hkind : t.kind = .settle)
    (hpaced : s.scheduleTimer = none ∨ ¬ s.Schedules cfg ctx ∨ t.token ≠ ctx.token) :
    ((s.disarm t.id).onSettle cfg ctx ⟨t.chain, t.token⟩).1.Traced := by
  have hfired : ({ s.disarm t.id with settleTimer := none } : Coordinator).Traced := by
    refine ⟨fun t' ht' => ⟨((h.disarm t.id).known t' ht').1, fun hkind' => ?_⟩,
      (h.disarm t.id).backoff⟩
    have hsame := ((h.known t' (mem_disarm ht').1).2 hkind').symm.trans ((h.known t ht).2 hkind)
    exact absurd (Option.some.inj hsame) (mem_disarm ht').2
  rw [Coordinator.onSettle]
  simp only
  split_ifs with hstop hstale
  · exact hfired.of_subset (fun _ ht => ht) rfl rfl rfl
  · exact hfired.of_subset (fun _ ht => ht) rfl rfl rfl
  · exact hfired.escalated _ (hpaced.imp_right fun hpaced => hpaced.resolve_right hstale)

theorem Traced.fire (h : s.Traced) {t : Timer} (ht : t ∈ s.timers)
    (hpaced : t.kind ≠ .backoff →
      s.scheduleTimer = none ∨ ¬ s.Schedules cfg ctx ∨ t.token ≠ ctx.token) :
    (s.fire cfg ctx t).1.Traced := by
  rw [Coordinator.fire]
  cases hkind : t.kind with
  | backoff => exact (h.disarm t.id).runScheduled _
  | settleStart => exact h.settleStartTimeout ht hkind (hpaced (by rw [hkind]; decide))
  | settle => exact h.onSettle ht hkind (hpaced (by rw [hkind]; decide))

theorem Traced.attemptSettled (h : s.Traced) (a : Awaiting) {result : Settlement}
    (hpaced : result = .resolved ∨ s.scheduleTimer = none ∨ ¬ s.Schedules cfg ctx) :
    (s.attemptSettled cfg ctx a result).1.Traced := by
  have hclear := h.clearSettleStartTimer
  have hkept : s.scheduleTimer = none ∨ ¬ s.Schedules cfg ctx →
      s.clearSettleStartTimer.scheduleTimer = none ∨ ¬ s.clearSettleStartTimer.Schedules cfg ctx := by
    rw [clearSettleStartTimer_eq]
    exact id
  unfold Coordinator.attemptSettled
  cases result with
  | resolved =>
      simp only
      split_ifs
      · exact hclear
      · exact hclear.arm h.known.clearSettleStartTimer.2 _ _
  | rejected =>
      have hended : (s.clearSettleStartTimer.endAttempt a.chain).Traced :=
        hclear.of_subset (fun _ ht => ht) rfl rfl rfl
      exact hended.scheduleNext (hkept (hpaced.resolve_left (by decide)))
  | timedOut => exact hclear.escalated _ (hkept (hpaced.resolve_left (by decide)))

/-- A paced event keeps the timers traced. -/
theorem Traced.handle (h : s.Traced) {e : CoordinatorEvent} (hpaced : Paced cfg s (ctx, e)) :
    (s.handle cfg ctx e).1.Traced := by
  cases e with
  | request reason severity => exact h.request reason severity
  | notifyAttemptFailed reason severity => exact h.notifyAttemptFailed reason severity
  | notifyRecovered => exact h.notifyRecovered
  | startSettleWindow => exact h.startSettleWindow
  | resumeIfPending => exact h.resumeIfPending
  | escalateSeverity | expectSessionResetFromRecreate | consumeExpectedSessionReset =>
      exact h.of_subset (fun _ ht => ht) rfl rfl rfl
  | reset => exact traced_of_timers h.clearTimers
  | timer id =>
      simp only [Coordinator.handle]
      cases hfind : s.timers.find? fun t => t.id = id with
      | none => exact h
      | some t => exact h.fire (List.mem_of_find?_eq_some hfind) (hpaced t hfind)
  | healthCheck chain ok =>
      simp only [Coordinator.handle]
      cases hfind : s.checks.find? fun a => a.chain = chain with
      | none => exact h
      | some a =>
          have hchecks : ({ s with checks := s.checks.erase a } : Coordinator).Traced :=
            h.of_subset (fun _ ht => ht) rfl rfl rfl
          cases ok with
          | true => exact hchecks.of_subset (fun _ ht => ht) rfl rfl rfl
          | false => exact hchecks.scheduleNext (hpaced.resolve_left (by simp [hfind]))
  | raceSettled chain result =>
      simp only [Coordinator.handle]
      cases hfind : s.races.find? fun a => a.chain = chain with
      | none => exact h
      | some a =>
          have hraces : ({ s with races := s.races.erase a } : Coordinator).Traced :=
            h.of_subset (fun _ ht => ht) rfl rfl rfl
          refine hraces.attemptSettled a ?_
          cases result with
          | resolved => exact .inl rfl
          | rejected | timedOut => exact .inr (hpaced.resolve_left (by simp [hfind]))

end Coordinator

/-! ## Rest -/

/-- No timer is armed and nothing is in flight. -/
def Coordinator.AtRest (s : Coordinator) : Prop := s.timers = [] ∧ s.inFlight = false

instance (s : Coordinator) : Decidable s.AtRest := inferInstanceAs (Decidable (_ ∧ _))

/-- A health check that passes, or an attempt that resolves: they ask nobody. -/
def Coordinator.Resumes (s : Coordinator) : CoordinatorEvent → Prop
  | .healthCheck chain true => (s.checks.find? fun a => a.chain = chain) ≠ none
  | .raceSettled chain .resolved => (s.races.find? fun a => a.chain = chain) ≠ none
  | _ => False

instance (s : Coordinator) : DecidablePred s.Resumes
  | .healthCheck _ true | .raceSettled _ .resolved => inferInstanceAs (Decidable (_ ≠ none))
  | .healthCheck _ false | .raceSettled _ .rejected | .raceSettled _ .timedOut | .timer _
  | .request .. | .notifyAttemptFailed .. | .notifyRecovered | .startSettleWindow
  | .escalateSeverity _ | .resumeIfPending | .expectSessionResetFromRecreate
  | .consumeExpectedSessionReset | .reset => isFalse id

namespace Coordinator

variable {cfg : Config} {ctx : Context} {s s' : Coordinator}

/-- A reset brings a coordinator with traced timers to rest. -/
theorem Traced.atRest_reset (h : s.Traced) : s.reset.1.AtRest := ⟨h.clearTimers, rfl⟩

/-- Where the controller says no, nothing is scheduled. -/
theorem AtRest.scheduleNext (h : s.AtRest) (hstop : ctx.shouldContinue = false) :
    (s.scheduleNext cfg ctx).1.AtRest := by
  rw [scheduleNext_blocked (.inr hstop)]
  exact h

theorem AtRest.attemptSettled (h : s.AtRest) (hstop : ctx.shouldContinue = false) (a : Awaiting)
    {result : Settlement} (hresult : result ≠ .resolved) :
    (s.attemptSettled cfg ctx a result).1.AtRest := by
  have hclear : ∀ {s' : Coordinator}, s'.timers = s.clearSettleStartTimer.timers →
      s'.inFlight = false → s'.AtRest := by
    intro s' htimers hidle
    refine ⟨?_, hidle⟩
    rw [htimers, List.eq_nil_iff_forall_not_mem]
    intro t ht
    exact absurd (mem_clearSettleStartTimer ht) (by simp [h.1])
  cases result with
  | resolved => exact absurd rfl hresult
  | rejected =>
      exact AtRest.scheduleNext (s := s.clearSettleStartTimer.endAttempt a.chain) (hclear rfl rfl) hstop
  | timedOut =>
      exact AtRest.scheduleNext (s := (s.clearSettleStartTimer.escalate hard).endAttempt a.chain)
        (hclear rfl rfl) hstop

/-- At rest, nothing but a resumption disturbs a coordinator that is told no. -/
theorem AtRest.handle (h : s.AtRest) (hstop : ctx.shouldContinue = false) {e : CoordinatorEvent}
    (hresumes : ¬ s.Resumes e) : (s.handle cfg ctx e).1.AtRest := by
  have hidle := h.2
  cases e with
  | request reason severity =>
      rw [Coordinator.handle, Coordinator.request, if_pos hstop]
      exact h
  | notifyAttemptFailed reason severity =>
      have hskip : s.notifyAttemptFailed cfg ctx reason severity = (s, []) := if_pos hidle
      rw [Coordinator.handle, hskip]
      exact h
  | notifyRecovered =>
      rw [Coordinator.handle, Coordinator.notifyRecovered, if_pos (by simp [hidle])]
      exact h
  | startSettleWindow =>
      rw [Coordinator.handle, Coordinator.startSettleWindow, if_pos (by simp [hidle])]
      exact h
  | escalateSeverity | expectSessionResetFromRecreate | consumeExpectedSessionReset => exact h
  | resumeIfPending =>
      unfold Coordinator.handle Coordinator.resumeIfPending
      split_ifs
      · exact h
      · exact h.scheduleNext hstop
      · exact h
  | reset => exact (traced_of_timers h.1).atRest_reset
  | timer id =>
      have hfind : (s.timers.find? fun t => t.id = id) = none := by rw [h.1]; rfl
      rw [Coordinator.handle, hfind]
      exact h
  | healthCheck chain ok =>
      simp only [Coordinator.handle]
      cases hfind : s.checks.find? fun a => a.chain = chain with
      | none => exact h
      | some a =>
          cases ok with
          | true => exact absurd (by simp [Resumes, hfind]) hresumes
          | false => exact AtRest.scheduleNext (s := { s with checks := s.checks.erase a }) h hstop
  | raceSettled chain result =>
      simp only [Coordinator.handle]
      cases hfind : s.races.find? fun a => a.chain = chain with
      | none => exact h
      | some a =>
          refine AtRest.attemptSettled (s := { s with races := s.races.erase a }) h hstop a ?_
          rintro rfl
          exact hresumes (by simp [Resumes, hfind])

end Coordinator

end CameraStack.Player
