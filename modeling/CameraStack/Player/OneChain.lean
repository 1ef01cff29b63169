/-
# One reconnect chain

A chain begins with a backoff timer, may wait for a health check, executes an attempt and has
it settle.  `Chain` is the protocol the coordinator is meant to follow: where its one chain
stands.  The latch of the code is read when a chain is requested and when a backoff timer
fires, and nowhere else, so the coordinator follows the protocol as long as nothing comes in
where the latch does not look: no request while a health check is on its way, and no promise
of an attempt that was ended without it.
-/

import CameraStack.Player.Coordinator

namespace CameraStack.Player

open CameraStack.Lib

/-! ## The protocol -/

/-- Where the one chain stands. -/
inductive Chain
  | idle
  | backoff (id token : ℕ)
  | checking (a : Awaiting)
  | executing (chain : ℕ)
  | waiting (chain id token : ℕ)
  | settling (chain id token : ℕ)

namespace Chain

/-- The one timer of the chain. -/
def timers : Chain → List Timer
  | .backoff id token => [{ id := id, chain := id, token := token, kind := .backoff }]
  | .waiting chain id token => [{ id := id, chain := chain, token := token, kind := .settleStart }]
  | .settling chain id token => [{ id := id, chain := chain, token := token, kind := .settle }]
  | _ => []

def checks : Chain → List Awaiting
  | .checking a => [a]
  | _ => []

def running : Chain → List ℕ
  | .executing chain | .waiting chain _ _ | .settling chain _ _ => [chain]
  | _ => []

def scheduleTimer : Chain → Option ℕ
  | .backoff id _ => some id
  | _ => none

def settleStartTimer : Chain → Option ℕ
  | .waiting _ id _ => some id
  | _ => none

def settleTimer : Chain → Option ℕ
  | .settling _ id _ => some id
  | _ => none

/-- The next attempt of the chain is still to come. -/
def unspent : Chain → Bool
  | .backoff .. | .checking _ => true
  | _ => false

end Chain

/-- The coordinator stands where its chain does. -/
structure Coordinator.Follows (s : Coordinator) (ch : Chain) : Prop where
  timers : s.timers = ch.timers
  checks : s.checks = ch.checks
  running : s.running = ch.running
  scheduleTimer : s.scheduleTimer = ch.scheduleTimer
  settleStartTimer : s.settleStartTimer = ch.settleStartTimer
  settleTimer : s.settleTimer = ch.settleTimer
  inFlight : s.inFlight = !ch.running.isEmpty

/-- It follows a chain, with an attempt left where one is to come. -/
structure Coordinator.Chained (cfg : Config) (s : Coordinator) (ch : Chain) : Prop
    extends s.Follows ch where
  bounded : s.attempt ≤ cfg.maxReconnectAttempts
  unspent : ch.unspent = true → s.attempt < cfg.maxReconnectAttempts

/-! ## Counting attempts -/

/-- The attempts since the counter was last set to zero. -/
def invoked : ℕ → List Signal → ℕ
  | n, [] => n
  | _, .zeroed :: rest => invoked 0 rest
  | n, .executeAttempt _ :: rest => invoked (n + 1) rest
  | n, _ :: rest => invoked n rest

/-- No more than `limit` attempts, and exhaustion after exactly so many. -/
def Accounted (limit : ℕ) : ℕ → List Signal → Prop
  | _, [] => True
  | _, .zeroed :: rest => Accounted limit 0 rest
  | n, .executeAttempt _ :: rest => n < limit ∧ Accounted limit (n + 1) rest
  | n, .onExhausted _ :: rest => n = limit ∧ Accounted limit n rest
  | n, .onSuccess .. :: rest => Accounted limit n rest

theorem accounted_append {limit n : ℕ} {first second : List Signal}
    (hfirst : Accounted limit n first) (hsecond : Accounted limit (invoked n first) second) :
    Accounted limit n (first ++ second) := by
  induction first generalizing n with
  | nil => exact hsecond
  | cons o first ih =>
      cases o with
      | zeroed | onSuccess => exact ih hfirst hsecond
      | executeAttempt | onExhausted => exact ⟨hfirst.1, ih hfirst.2 hsecond⟩

/-- What a step leaves behind: a coordinator that follows some chain, and signals that keep
the count of attempts. -/
structure Kept (cfg : Config) (n : ℕ) (result : Coordinator × List Signal) : Prop where
  chained : ∃ ch, result.1.Chained cfg ch
  accounted : Accounted cfg.maxReconnectAttempts n result.2
  invoked : invoked n result.2 = result.1.attempt

/-! ## The operations keep to one chain -/

section Operations

variable {cfg : Config} {ctx : Context} {s : Coordinator} {ch : Chain}

theorem Coordinator.Chained.kept (h : s.Chained cfg ch) : Kept cfg s.attempt (s, []) :=
  ⟨⟨ch, h⟩, trivial, rfl⟩

/-- What a chain stands in is not changed by another reason. -/
theorem Coordinator.Chained.record (h : s.Chained cfg ch) (reason : String) (severity : ℕ) :
    (s.record reason severity).Chained cfg ch :=
  ⟨⟨h.timers, h.checks, h.running, h.scheduleTimer, h.settleStartTimer, h.settleTimer,
    h.inFlight⟩, h.bounded, h.unspent⟩

theorem Coordinator.Chained.escalate (h : s.Chained cfg ch) (severity : ℕ) :
    (s.escalate severity).Chained cfg ch :=
  ⟨⟨h.timers, h.checks, h.running, h.scheduleTimer, h.settleStartTimer, h.settleTimer,
    h.inFlight⟩, h.bounded, h.unspent⟩

/-- Or by a promise that is no longer awaited. -/
theorem Coordinator.Chained.races (h : s.Chained cfg ch) (races : List Awaiting) :
    ({ s with races := races } : Coordinator).Chained cfg ch :=
  ⟨⟨h.timers, h.checks, h.running, h.scheduleTimer, h.settleStartTimer, h.settleTimer,
    h.inFlight⟩, h.bounded, h.unspent⟩

/-- A coordinator that follows a chain, written out. -/
theorem Coordinator.Follows.eq (h : s.Follows ch) :
    s = { s with
      timers := ch.timers, checks := ch.checks, running := ch.running
      scheduleTimer := ch.scheduleTimer, settleStartTimer := ch.settleStartTimer
      settleTimer := ch.settleTimer, inFlight := !ch.running.isEmpty } := by
  cases s
  obtain ⟨rfl, rfl, rfl, rfl, rfl, rfl, rfl⟩ := h
  rfl

/-- Clearing the timers clears the one timer of the chain. -/
theorem Coordinator.Follows.clearTimers (h : s.Follows ch) :
    s.clearTimers = { s with
      timers := [], scheduleTimer := none, settleStartTimer := none, settleTimer := none } := by
  rw [h.eq]
  cases ch with
  | idle | checking | executing => rfl
  | backoff | waiting | settling =>
      simp [Coordinator.clearTimers, Coordinator.clearScheduleTimer,
        Coordinator.clearSettleStartTimer, Coordinator.clearSettleTimer, Coordinator.disarm,
        Chain.timers, Chain.scheduleTimer, Chain.settleStartTimer, Chain.settleTimer]

/-- From rest the next attempt is scheduled, or the coordinator stays at rest. -/
theorem Coordinator.Follows.kept_scheduleNext (h : s.Follows .idle)
    (hbound : s.attempt ≤ cfg.maxReconnectAttempts) :
    Kept cfg s.attempt (s.scheduleNext cfg ctx) := by
  have hsame : s.Chained cfg .idle := ⟨h, hbound, fun hspent => absurd hspent (by decide)⟩
  rw [Coordinator.scheduleNext]
  cases s.pending with
  | none => exact hsame.kept
  | some pending =>
      simp only
      split_ifs with hstop hspent
      · exact hsame.kept
      · exact ⟨⟨_, hsame⟩, ⟨le_antisymm hbound hspent, trivial⟩, rfl⟩
      · refine ⟨⟨.backoff s.nextId ctx.token, ⟨?_, hbound, fun _ => not_le.mp hspent⟩⟩, trivial, rfl⟩
        rw [h.eq]
        exact ⟨rfl, rfl, rfl, rfl, rfl, rfl, rfl⟩

/-- From rest an attempt begins. -/
theorem Coordinator.Follows.kept_runAttempt (h : s.Follows .idle)
    (hbound : s.attempt < cfg.maxReconnectAttempts) (a : Awaiting) :
    Kept cfg s.attempt (s.runAttempt cfg a) := by
  refine ⟨⟨.executing a.chain, ⟨?_, hbound, fun hspent => absurd hspent (by simp [Chain.unspent])⟩⟩,
    ⟨hbound, trivial⟩, rfl⟩
  rw [h.eq]
  exact ⟨rfl, rfl, rfl, rfl, rfl, rfl, rfl⟩

/-- Where neither the latch is set nor a health check on its way, the coordinator is at rest. -/
theorem Coordinator.Follows.idle_of_open (h : s.Follows ch)
    (hopen : (s.inFlight || s.scheduleTimer.isSome) = false) (hchecks : s.checks = []) :
    s.Follows .idle := by
  rw [h.inFlight, h.scheduleTimer] at hopen
  rw [h.checks] at hchecks
  cases ch with
  | idle => exact h
  | backoff | executing | waiting | settling => cases hopen
  | checking => cases hchecks

theorem Coordinator.Chained.kept_request (h : s.Chained cfg ch)
    (horderly : s.checks = [] ∨ ctx.shouldContinue = false) (reason : String) (severity : ℕ) :
    Kept cfg s.attempt (s.request cfg ctx reason severity) := by
  have hrecord := h.record reason severity
  unfold Coordinator.request
  simp only
  split_ifs with hstop hlatch
  · exact hrecord.kept
  · exact hrecord.kept
  · have hchecks := horderly.resolve_right hstop
    have hidle := hrecord.toFollows.idle_of_open (by simpa using hlatch) hchecks
    exact hidle.kept_scheduleNext hrecord.bounded

theorem Coordinator.Chained.kept_resumeIfPending (h : s.Chained cfg ch)
    (horderly : s.checks = [] ∨ s.pending = none ∨ ctx.shouldContinue = false) :
    Kept cfg s.attempt (s.resumeIfPending cfg ctx) := by
  rw [Coordinator.resumeIfPending]
  split_ifs with hlatch hpending
  · exact h.kept
  · have hchecks : s.checks = [] := by
      rcases horderly with hchecks | hnone | hstop
      · exact hchecks
      · simp [hnone] at hpending
      · simp [hstop] at hpending
    have hidle := h.toFollows.idle_of_open (by simpa using hlatch) hchecks
    exact hidle.kept_scheduleNext h.bounded
  · exact h.kept

/-- An attempt in flight leaves no health check on its way. -/
theorem Coordinator.Follows.checks_of_inFlight (h : s.Follows ch) (hflight : s.inFlight = true) :
    s.checks = [] := by
  rw [h.inFlight] at hflight
  rw [h.checks]
  cases ch with
  | idle | backoff | executing | waiting | settling => rfl
  | checking => cases hflight

/-- With its timers cleared and its attempt ended the coordinator is at rest. -/
theorem Coordinator.Follows.cleared (h : s.Follows ch) (hchecks : s.checks = []) :
    { s.clearTimers with inFlight := false, running := [] }.Follows .idle := by
  rw [h.clearTimers]
  exact ⟨rfl, hchecks, rfl, rfl, rfl, rfl, rfl⟩

/-- From there the next attempt is scheduled. -/
theorem Coordinator.Follows.kept_cleared (h : s.Follows ch) (hchecks : s.checks = [])
    (hbound : s.attempt ≤ cfg.maxReconnectAttempts) :
    Kept cfg s.attempt
      (({ s.clearTimers with inFlight := false, running := [] } : Coordinator).scheduleNext cfg ctx) := by
  have hidle := h.cleared hchecks
  rw [h.clearTimers] at hidle ⊢
  exact hidle.kept_scheduleNext hbound

theorem Coordinator.Chained.kept_notifyAttemptFailed (h : s.Chained cfg ch)
    (reason : Option String) (severity : ℕ) :
    Kept cfg s.attempt (s.notifyAttemptFailed cfg ctx reason severity) := by
  unfold Coordinator.notifyAttemptFailed
  split_ifs with hflight
  · exact h.kept
  · have hchecks := h.toFollows.checks_of_inFlight (by simpa using hflight)
    cases reason with
    | none => exact h.toFollows.kept_cleared hchecks h.bounded
    | some r => exact (h.record r severity).toFollows.kept_cleared hchecks h.bounded

/-- The settle window is the one timer of a chain that settles. -/
theorem Coordinator.Follows.clearSettleTimer {chain id token : ℕ}
    (h : s.Follows (.settling chain id token)) :
    s.clearSettleTimer.Follows (.executing chain) ∧ s.clearSettleTimer.attempt = s.attempt := by
  rw [h.eq]
  constructor
  · constructor <;>
      simp [Coordinator.clearSettleTimer, Coordinator.disarm, Chain.timers, Chain.checks,
        Chain.running, Chain.scheduleTimer, Chain.settleStartTimer, Chain.settleTimer]
  · rfl

theorem Coordinator.Chained.kept_notifyRecovered (h : s.Chained cfg ch) :
    Kept cfg s.attempt (s.notifyRecovered ctx) := by
  rw [Coordinator.notifyRecovered]
  split_ifs with hclosed
  · exact h.kept
  · cases ch with
    | settling chain id token =>
        have hidle := h.toFollows.clearSettleTimer.1.cleared (by
          rw [h.toFollows.clearSettleTimer.1.checks]; rfl)
        refine ⟨⟨.idle, ⟨?_, Nat.zero_le _, fun hspent => absurd hspent (by decide)⟩⟩, trivial, rfl⟩
        exact ⟨hidle.timers, hidle.checks, rfl, hidle.scheduleTimer, hidle.settleStartTimer,
          hidle.settleTimer, rfl⟩
    | idle | backoff | checking | executing | waiting =>
        exact absurd (by rw [h.settleTimer, Bool.or_eq_true]; exact .inr rfl) hclosed

/-- Clearing the wait for the offer leaves a chain that waits for nothing, or any other chain
as it is. -/
theorem Coordinator.Chained.clearSettleStartTimer (h : s.Chained cfg ch) :
    ∃ ch', s.clearSettleStartTimer.Chained cfg ch' ∧ ch'.running = ch.running ∧
      ch'.settleTimer = ch.settleTimer ∧ ch'.settleStartTimer = none := by
  cases ch with
  | waiting chain id token =>
      refine ⟨.executing chain, ⟨?_, ?_, fun hspent => absurd hspent (by simp [Chain.unspent])⟩, rfl,
        rfl, rfl⟩
      · rw [h.toFollows.eq]
        constructor <;>
          simp [Coordinator.clearSettleStartTimer, Coordinator.disarm, Chain.timers, Chain.checks,
            Chain.running, Chain.scheduleTimer, Chain.settleStartTimer, Chain.settleTimer]
      · rw [Coordinator.clearSettleStartTimer, h.settleStartTimer]
        exact h.bounded
  | idle | backoff | checking | executing | settling =>
      have hsame : s.clearSettleStartTimer = s := by
        rw [Coordinator.clearSettleStartTimer, h.settleStartTimer]
        rfl
      rw [hsame]
      exact ⟨_, h, rfl, rfl, rfl⟩

/-- An attempt that waits for nothing is given a timer. -/
theorem Coordinator.Chained.arm_settle {chain : ℕ} (h : s.Chained cfg (.executing chain))
    (token : ℕ) : (s.arm .settle chain token).Chained cfg (.settling chain s.nextId token) := by
  refine ⟨?_, h.bounded, fun hspent => absurd hspent (by simp [Chain.unspent])⟩
  rw [h.toFollows.eq]
  exact ⟨rfl, rfl, rfl, rfl, rfl, rfl, rfl⟩

theorem Coordinator.Chained.arm_settleStart {chain : ℕ} (h : s.Chained cfg (.executing chain))
    (token : ℕ) : (s.arm .settleStart chain token).Chained cfg (.waiting chain s.nextId token) := by
  refine ⟨?_, h.bounded, fun hspent => absurd hspent (by simp [Chain.unspent])⟩
  rw [h.toFollows.eq]
  exact ⟨rfl, rfl, rfl, rfl, rfl, rfl, rfl⟩

/-- A chain with an attempt under way and no timer. -/
theorem Chain.eq_executing {chain : ℕ} (hrunning : chain ∈ ch.running)
    (hstart : ch.settleStartTimer = none) (hsettle : ch.settleTimer = none) :
    ch = .executing chain := by
  cases ch with
  | idle | backoff | checking => cases hrunning
  | executing c =>
      rw [List.mem_singleton.mp hrunning]
  | waiting => cases hstart
  | settling => cases hsettle

theorem Coordinator.Chained.kept_startSettleWindow (h : s.Chained cfg ch) :
    Kept cfg s.attempt (s.startSettleWindow ctx, []) := by
  rw [Coordinator.startSettleWindow]
  split_ifs with hclosed
  · exact h.kept
  · simp only [Bool.or_eq_true, not_or, decide_eq_true_eq, Bool.not_eq_true,
      Option.isSome_eq_false_iff, Option.isNone_iff_eq_none] at hclosed
    obtain ⟨hflight, hsettle⟩ := hclosed
    obtain ⟨ch', hclear, hrunning, hsettle', hstart⟩ := h.clearSettleStartTimer
    have hin : s.running.headD 0 ∈ ch'.running := by
      rw [hrunning, h.running]
      rw [h.inFlight] at hflight
      cases ch with
      | idle | backoff | checking => exact absurd rfl hflight
      | executing | waiting | settling => exact List.mem_singleton_self _
    obtain rfl := Chain.eq_executing hin hstart (by rw [hsettle', ← h.settleTimer, hsettle])
    refine ⟨⟨_, hclear.arm_settle ctx.token⟩, trivial, ?_⟩
    rw [Coordinator.clearSettleStartTimer_eq]
    rfl

theorem Coordinator.Chained.kept_reset (h : s.Chained cfg ch) :
    Kept cfg s.attempt s.reset := by
  rw [Coordinator.reset]
  rw [h.toFollows.clearTimers]
  refine ⟨?_, trivial, rfl⟩
  cases ch with
  | checking a =>
      exact ⟨.checking a, ⟨⟨rfl, h.checks, rfl, rfl, rfl, rfl, rfl⟩, Nat.zero_le _,
        fun hspent => Nat.zero_lt_of_lt (h.unspent hspent)⟩⟩
  | idle | backoff | executing | waiting | settling =>
      exact ⟨.idle, ⟨⟨rfl, h.checks, rfl, rfl, rfl, rfl, rfl⟩, Nat.zero_le _,
        fun hspent => absurd hspent (by decide)⟩⟩

/-- The attempt of the chain ends. -/
theorem Coordinator.Chained.endAttempt {chain : ℕ} (h : s.Chained cfg (.executing chain)) :
    (s.endAttempt chain).Chained cfg .idle := by
  refine ⟨?_, h.bounded, fun hspent => absurd hspent (by decide)⟩
  rw [h.toFollows.eq]
  refine ⟨rfl, rfl, ?_, rfl, rfl, rfl, rfl⟩
  simp [Coordinator.endAttempt, Chain.running]

/-- It has failed, and the next one is scheduled. -/
theorem Coordinator.Chained.kept_failed {chain : ℕ} (h : s.Chained cfg (.executing chain)) :
    Kept cfg s.attempt ((s.endAttempt chain).scheduleNext cfg ctx) :=
  h.endAttempt.toFollows.kept_scheduleNext h.bounded

/-- A backoff timer fires at rest. -/
theorem Coordinator.Follows.kept_runScheduled (h : s.clearScheduleTimer.Follows .idle)
    (hbound : s.attempt < cfg.maxReconnectAttempts) (a : Awaiting) :
    Kept cfg s.attempt (s.runScheduled cfg ctx a) := by
  have hattempt : s.clearScheduleTimer.attempt = s.attempt := by
    rw [Coordinator.clearScheduleTimer_eq]
  rw [← hattempt] at hbound ⊢
  have hidle : s.clearScheduleTimer.Chained cfg .idle :=
    ⟨h, hbound.le, fun hspent => absurd hspent (by decide)⟩
  rw [Coordinator.runScheduled]
  simp only
  split_ifs with hstop hstale hflight hrecovered hcheck
  · exact hidle.kept
  · exact hidle.kept
  · exact hidle.kept
  · rw [h.clearTimers]
    exact ⟨⟨.idle, ⟨⟨rfl, h.checks, h.running, rfl, rfl, rfl, h.inFlight⟩, Nat.zero_le _,
      fun hspent => absurd hspent (by decide)⟩⟩, trivial, rfl⟩
  · refine ⟨⟨.checking a, ⟨⟨h.timers, ?_, h.running, h.scheduleTimer, h.settleStartTimer,
      h.settleTimer, h.inFlight⟩, hbound.le, fun _ => hbound⟩⟩, trivial, rfl⟩
    rw [h.checks]
    rfl
  · exact h.kept_runAttempt hbound a

/-- A timer of the chain fires. -/
theorem Coordinator.Chained.kept_fire (h : s.Chained cfg ch) {t : Timer} (ht : t ∈ s.timers) :
    Kept cfg s.attempt (s.fire cfg ctx t) := by
  rw [h.timers] at ht
  have hdisarm : ∀ {id : ℕ}, (∀ t ∈ ch.timers, t.id = id) →
      s.disarm id = { s with timers := [] } := by
    intro id hid
    rw [Coordinator.disarm]
    rw [h.timers, List.filter_eq_nil_iff.mpr (by simpa using hid)]
  cases ch with
  | idle | checking | executing => cases ht
  | backoff id token =>
      rw [List.mem_singleton.mp ht]
      rw [Coordinator.fire]
      simp only
      rw [hdisarm (by simp [Chain.timers])]
      have hidle : ({ s with timers := [] } : Coordinator).clearScheduleTimer.Follows .idle := by
        rw [h.toFollows.eq]
        exact ⟨rfl, rfl, rfl, rfl, rfl, rfl, rfl⟩
      exact hidle.kept_runScheduled (h.unspent rfl) _
  | waiting chain id token =>
      rw [List.mem_singleton.mp ht]
      rw [Coordinator.fire]
      simp only
      rw [hdisarm (by simp [Chain.timers])]
      have hexec : ({ s with timers := [], settleStartTimer := none } : Coordinator).Chained cfg
          (.executing chain) :=
        ⟨⟨rfl, h.checks, h.running, h.scheduleTimer, rfl, h.settleTimer, h.inFlight⟩, h.bounded,
          fun hspent => absurd hspent (by simp [Chain.unspent])⟩
      rw [Coordinator.settleStartTimeout]
      simp only
      split_ifs with hsettling hstale hstop
      · exact hexec.kept
      · exact hexec.kept
      · exact hexec.endAttempt.kept
      · exact (hexec.escalate hard).kept_failed
  | settling chain id token =>
      rw [List.mem_singleton.mp ht]
      rw [Coordinator.fire]
      simp only
      rw [hdisarm (by simp [Chain.timers])]
      have hexec : ({ s with timers := [], settleTimer := none } : Coordinator).Chained cfg
          (.executing chain) :=
        ⟨⟨rfl, h.checks, h.running, h.scheduleTimer, h.settleStartTimer, rfl, h.inFlight⟩, h.bounded,
          fun hspent => absurd hspent (by simp [Chain.unspent])⟩
      rw [Coordinator.onSettle]
      simp only
      split_ifs with hstop hstale
      · exact hexec.endAttempt.kept
      · exact hexec.endAttempt.kept
      · exact (hexec.escalate hard).kept_failed

/-- The health check of the chain comes back. -/
theorem Coordinator.Chained.kept_healthChecked (h : s.Chained cfg ch) {a : Awaiting}
    (ha : a ∈ s.checks) (ok : Bool) :
    Kept cfg s.attempt (healthChecked cfg ctx a ok { s with checks := s.checks.erase a }) := by
  rw [h.checks] at ha
  cases ch with
  | idle | backoff | executing | waiting | settling => cases ha
  | checking a' =>
      obtain rfl := List.mem_singleton.mp ha
      have hempty : s.checks.erase a = [] := by simp [h.checks, Chain.checks]
      have hidle : ({ s with checks := s.checks.erase a } : Coordinator).Follows .idle :=
        ⟨h.timers, hempty, h.running, h.scheduleTimer, h.settleStartTimer, h.settleTimer, h.inFlight⟩
      rw [Coordinator.healthChecked]
      split_ifs
      · exact hidle.kept_runAttempt (h.unspent rfl) a
      · exact hidle.kept_scheduleNext h.bounded

/-! ## What may come in -/

/-- No chain is asked for while a health check is on its way; a promise settles for the attempt
under way, or finds nothing that it could end or schedule over. -/
def Orderly (s : Coordinator) : Context × CoordinatorEvent → Prop
  | (ctx, .request ..) => s.checks = [] ∨ ctx.shouldContinue = false
  | (ctx, .resumeIfPending) => s.checks = [] ∨ s.pending = none ∨ ctx.shouldContinue = false
  | (_, .raceSettled chain .resolved) => chain ∈ s.running ∨ s.settleTimer.isSome = true
  | (ctx, .raceSettled chain _) =>
      (chain ∈ s.running ∧ s.settleTimer = none) ∨
        (s.inFlight = false ∧
          (s.scheduleTimer = none ∧ s.checks = [] ∨ s.pending = none ∨ ctx.shouldContinue = false))
  | _ => True

instance (s : Coordinator) : DecidablePred (Orderly s)
  | (_, .request ..) => inferInstanceAs (Decidable (_ ∨ _))
  | (_, .resumeIfPending) => inferInstanceAs (Decidable (_ ∨ _))
  | (_, .raceSettled _ .resolved) => inferInstanceAs (Decidable (_ ∨ _))
  | (_, .raceSettled _ .rejected) => inferInstanceAs (Decidable (_ ∨ _))
  | (_, .raceSettled _ .timedOut) => inferInstanceAs (Decidable (_ ∨ _))
  | (_, .notifyAttemptFailed ..) | (_, .notifyRecovered) | (_, .startSettleWindow)
  | (_, .escalateSeverity _) | (_, .expectSessionResetFromRecreate)
  | (_, .consumeExpectedSessionReset) | (_, .reset) | (_, .timer _) | (_, .healthCheck ..) =>
      inferInstanceAs (Decidable True)

/-- No attempt is ended. -/
theorem Coordinator.endAttempt_eq_self {chain : ℕ} (hflight : s.inFlight = false)
    (hout : chain ∉ s.running) : s.endAttempt chain = s := by
  rw [Coordinator.endAttempt]
  rw [List.erase_of_not_mem hout]
  cases s
  cases hflight
  rfl

/-- A failed attempt finds its chain, or nothing that it could end or schedule over. -/
theorem Coordinator.Chained.kept_rejected (h : s.Chained cfg ch) {chain : ℕ}
    (horderly : (chain ∈ ch.running ∧ s.settleTimer = none) ∨
      (s.inFlight = false ∧
        (s.scheduleTimer = none ∧ s.checks = [] ∨ s.pending = none ∨ ctx.shouldContinue = false)))
    (hstart : ch.settleStartTimer = none) :
    Kept cfg s.attempt ((s.endAttempt chain).scheduleNext cfg ctx) := by
  rcases horderly with ⟨hin, hsettle⟩ | ⟨hflight, hblocked⟩
  · obtain rfl := Chain.eq_executing hin hstart (by rw [← h.settleTimer, hsettle])
    exact h.kept_failed
  · have hempty : s.running = [] := by
      rw [h.inFlight] at hflight
      rw [h.running]
      simpa using hflight
    rw [Coordinator.endAttempt_eq_self hflight (by rw [hempty]; exact List.not_mem_nil)]
    rcases hblocked with ⟨hschedule, hchecks⟩ | hblocked
    · have hidle := h.toFollows.idle_of_open (by rw [hflight, hschedule]; rfl) hchecks
      exact hidle.kept_scheduleNext h.bounded
    · rw [Coordinator.scheduleNext_blocked hblocked]
      exact h.kept

/-- A promise settles where it may. -/
theorem Coordinator.Chained.kept_attemptSettled (h : s.Chained cfg ch) {a : Awaiting}
    {result : Settlement} (horderly : Orderly s (ctx, .raceSettled a.chain result)) :
    Kept cfg s.attempt (attemptSettled cfg ctx a result { s with races := s.races.erase a }) := by
  obtain ⟨ch', hclear, hrunning, hsettle, hstart⟩ := (h.races (s.races.erase a)).clearSettleStartTimer
  have hframe := Coordinator.clearSettleStartTimer_eq { s with races := s.races.erase a }
  set s' := ({ s with races := s.races.erase a } : Coordinator).clearSettleStartTimer with hs'
  have hattempt : s'.attempt = s.attempt := by rw [hframe]
  unfold Coordinator.attemptSettled
  simp only [← hs']
  rw [← hattempt]
  have hfailed : (a.chain ∈ s.running ∧ s.settleTimer = none) ∨
      (s.inFlight = false ∧
        (s.scheduleTimer = none ∧ s.checks = [] ∨ s.pending = none ∨ ctx.shouldContinue = false)) →
      (a.chain ∈ ch'.running ∧ s'.settleTimer = none) ∨
      (s'.inFlight = false ∧
        (s'.scheduleTimer = none ∧ s'.checks = [] ∨ s'.pending = none ∨
          ctx.shouldContinue = false)) := by
    rw [hrunning, ← h.running, hframe]
    exact id
  cases result with
  | resolved =>
      simp only
      split_ifs with hsettling
      · exact hclear.kept
      · have hopen : s'.settleTimer = none := by simpa using hsettling
        have hin : a.chain ∈ ch'.running := by
          rw [hrunning, ← h.running]
          rcases horderly with hin | hsome
          · exact hin
          · rw [hframe] at hopen
            simp only at hopen
            rw [hopen] at hsome
            cases hsome
        obtain rfl := Chain.eq_executing hin hstart (by rw [← hclear.settleTimer, hopen])
        exact ⟨⟨_, hclear.arm_settleStart a.token⟩, trivial, rfl⟩
  | rejected => exact hclear.kept_rejected (hfailed horderly) hstart
  | timedOut =>
      refine (hclear.escalate hard).kept_rejected ?_ hstart
      rcases hfailed horderly with hin | ⟨hflight, hopen | hnone | hstop⟩
      · exact .inl hin
      · exact .inr ⟨hflight, .inl hopen⟩
      · exact .inr ⟨hflight, .inr (.inl (by rw [Coordinator.escalate, hnone]; rfl))⟩
      · exact .inr ⟨hflight, .inr (.inr hstop)⟩

/-- One orderly event. -/
theorem Coordinator.Chained.kept_handle (h : s.Chained cfg ch) {e : CoordinatorEvent}
    (horderly : Orderly s (ctx, e)) : Kept cfg s.attempt (s.handle cfg ctx e) := by
  cases e with
  | request reason severity => exact h.kept_request horderly reason severity
  | notifyAttemptFailed reason severity => exact h.kept_notifyAttemptFailed reason severity
  | notifyRecovered => exact h.kept_notifyRecovered
  | startSettleWindow => exact h.kept_startSettleWindow
  | escalateSeverity severity => exact (h.escalate _).kept
  | resumeIfPending => exact h.kept_resumeIfPending horderly
  | expectSessionResetFromRecreate | consumeExpectedSessionReset =>
      exact ⟨⟨ch, ⟨h.timers, h.checks, h.running, h.scheduleTimer, h.settleStartTimer,
        h.settleTimer, h.inFlight⟩, h.bounded, h.unspent⟩, trivial, rfl⟩
  | reset => exact h.kept_reset
  | timer id =>
      simp only [Coordinator.handle]
      split
      · exact h.kept
      · next t hfind => exact h.kept_fire (List.mem_of_find?_eq_some hfind)
  | healthCheck chain ok =>
      simp only [Coordinator.handle]
      split
      · exact h.kept
      · next a hfind => exact h.kept_healthChecked (List.mem_of_find?_eq_some hfind) ok
  | raceSettled chain result =>
      simp only [Coordinator.handle]
      split
      · exact h.kept
      · next a hfind =>
          obtain rfl : a.chain = chain := by simpa using List.find?_some hfind
          exact h.kept_attemptSettled horderly

end Operations

/-! ## Runs -/

/-- The chains that live: a backoff timer is armed, a health check is on its way, or an attempt
has begun and not ended. -/
def Coordinator.live (s : Coordinator) : List ℕ :=
  (s.timers.filter fun t => t.kind = .backoff).map (fun t => t.chain) ++
    s.checks.map (fun a => a.chain) ++ s.running

/-- A timer or a promise of an attempt that has ended. -/
def Overdue (s : Coordinator) : CoordinatorEvent → Prop
  | .timer id => ∃ t ∈ s.timers, t.id = id ∧ t.kind ≠ .backoff ∧ t.chain ∉ s.running
  | .raceSettled chain _ => (∃ a ∈ s.races, a.chain = chain) ∧ chain ∉ s.running
  | _ => False

/-- The chain that lives is left as it is. -/
def Spared (s s' : Coordinator) : Prop :=
  s.live ≠ [] → s'.live = s.live ∧ s'.inFlight = s.inFlight

theorem Coordinator.Follows.live_length {s : Coordinator} {ch : Chain} (h : s.Follows ch) :
    s.live.length ≤ 1 := by
  rw [Coordinator.live]
  rw [h.timers, h.checks, h.running]
  cases ch with
  | idle | backoff | checking | executing | waiting | settling =>
      simp [Chain.timers, Chain.checks, Chain.running]

/-- A timer that is overdue does not occur: the one timer of a chain is that of its attempt. -/
theorem Coordinator.Follows.not_overdue_timer {s : Coordinator} {ch : Chain} (h : s.Follows ch)
    (id : ℕ) : ¬ Overdue s (.timer id) := by
  rintro ⟨t, ht, -, hkind, hchain⟩
  rw [h.timers] at ht
  rw [h.running] at hchain
  cases ch with
  | idle | checking | executing => cases ht
  | backoff => exact hkind (by rw [List.mem_singleton.mp ht])
  | waiting | settling => exact hchain (by rw [List.mem_singleton.mp ht]; exact List.mem_singleton_self _)

/-- An attempt in flight is one that runs. -/
theorem Coordinator.Follows.inFlight_of_settleStart {s : Coordinator} {ch : Chain}
    (h : s.Follows ch) (hstart : s.settleStartTimer ≠ none) :
    s.inFlight = true ∧ s.settleTimer = none := by
  rw [h.settleStartTimer] at hstart
  rw [h.inFlight, h.settleTimer]
  cases ch with
  | idle | backoff | checking | executing | settling => exact absurd rfl hstart
  | waiting => exact ⟨rfl, rfl⟩

/-- An orderly promise that is overdue spares the chain. -/
theorem Coordinator.Chained.spared_settled {cfg : Config} {ctx : Context} {s : Coordinator}
    {ch : Chain} (h : s.Chained cfg ch) {a : Awaiting} {result : Settlement}
    (horderly : Orderly s (ctx, .raceSettled a.chain result)) (hover : a.chain ∉ s.running) :
    Spared s (s.attemptSettled cfg ctx a result).1 := by
  intro hlive
  have hstart : s.settleStartTimer = none := by
    by_contra hsome
    obtain ⟨hflight, hsettle⟩ := h.toFollows.inFlight_of_settleStart hsome
    cases result with
    | resolved => simp [Orderly, hover, hsettle] at horderly
    | rejected | timedOut => simp [Orderly, hover, hflight] at horderly
  have hclear : s.clearSettleStartTimer = s := by
    rw [Coordinator.clearSettleStartTimer, hstart]
  have hfailed : s.inFlight = false ∧
      (s.scheduleTimer = none ∧ s.checks = [] ∨ s.pending = none ∨ ctx.shouldContinue = false) →
      s.inFlight = false ∧ (s.pending = none ∨ ctx.shouldContinue = false) := by
    rintro ⟨hflight, ⟨hschedule, hchecks⟩ | hblocked⟩
    · have hidle := h.toFollows.idle_of_open (by rw [hflight, hschedule]; rfl) hchecks
      refine absurd ?_ hlive
      rw [Coordinator.live, hidle.timers, hidle.checks, hidle.running]
      rfl
    · exact ⟨hflight, hblocked⟩
  unfold Coordinator.attemptSettled
  rw [hclear]
  cases result with
  | resolved =>
      have hsettling : s.settleTimer.isSome = true := horderly.resolve_left hover
      simp only [hsettling, if_true, and_self]
  | rejected =>
      obtain ⟨hflight, hblocked⟩ := hfailed (horderly.resolve_left fun hin => hover hin.1)
      simp only
      rw [Coordinator.endAttempt_eq_self hflight hover, Coordinator.scheduleNext_blocked hblocked]
      exact ⟨rfl, rfl⟩
  | timedOut =>
      obtain ⟨hflight, hblocked⟩ := hfailed (horderly.resolve_left fun hin => hover hin.1)
      have hsame : (s.escalate hard).endAttempt a.chain = s.escalate hard :=
        Coordinator.endAttempt_eq_self hflight hover
      simp only
      rw [hsame, Coordinator.scheduleNext_blocked]
      · exact ⟨rfl, rfl⟩
      · rcases hblocked with hnone | hstop
        · exact .inl (by simp [Coordinator.escalate, hnone])
        · exact .inr hstop

/-- An orderly event that is overdue spares the chain. -/
theorem Coordinator.Chained.spared {cfg : Config} {s : Coordinator} {ch : Chain}
    (h : s.Chained cfg ch) {i : Context × CoordinatorEvent} (horderly : Orderly s i)
    (hover : Overdue s i.2) : Spared s ((coordinatorMachine cfg).next s i) := by
  obtain ⟨ctx, e⟩ := i
  cases e with
  | timer id => exact absurd hover (h.toFollows.not_overdue_timer id)
  | raceSettled chain result =>
      simp only [Machine.next, coordinatorMachine, Coordinator.handle]
      split
      · exact fun _ => ⟨rfl, rfl⟩
      · next a hfind =>
          obtain rfl : a.chain = chain := by simpa using List.find?_some hfind
          exact (h.races (s.races.erase a)).spared_settled horderly hover.2
  | request | notifyAttemptFailed | notifyRecovered | startSettleWindow | escalateSeverity
  | resumeIfPending | expectSessionResetFromRecreate | consumeExpectedSessionReset | reset
  | healthCheck => exact absurd hover id

theorem chained_initial (cfg : Config) : (∃ ch, ({} : Coordinator).Chained cfg ch) :=
  ⟨.idle, ⟨⟨rfl, rfl, rfl, rfl, rfl, rfl, rfl⟩, Nat.zero_le _, fun h => absurd h (by decide)⟩⟩

theorem chained_next {cfg : Config} (s : Coordinator) (i : Context × CoordinatorEvent)
    (h : ∃ ch, s.Chained cfg ch) (horderly : Orderly s i) :
    ∃ ch, ((coordinatorMachine cfg).next s i).Chained cfg ch :=
  (h.choose_spec.kept_handle horderly).chained

/-- While what comes in is orderly, at most one chain lives, and what is overdue spares it. -/
theorem one_chain (cfg : Config) (inputs : List (Context × CoordinatorEvent))
    (horderly : (coordinatorMachine cfg).Along Orderly {} inputs) :
    ((coordinatorMachine cfg).run {} inputs).live.length ≤ 1 ∧
      (coordinatorMachine cfg).Along
        (fun s i => Overdue s i.2 → Spared s ((coordinatorMachine cfg).next s i)) {} inputs := by
  constructor
  · obtain ⟨ch, hch⟩ := Machine.run_invariant _ chained_next horderly (chained_initial cfg)
    exact hch.toFollows.live_length
  · exact Machine.along_of_invariant _ chained_next
      (fun s i h hi hover => h.choose_spec.spared hi hover) horderly (chained_initial cfg)

/-- Two attempts: the first ends before its promise settles, which then finds the tab hidden;
the second gets its offer and recovers. -/
def lateRejection : List (Context × CoordinatorEvent) :=
  [(inView, .request "ice_failed" 3), (inView, .timer 0), (inView, .healthCheck 0 true),
    (inView, .notifyAttemptFailed (some "hangup") 2),
    ({ inView with shouldContinue := false }, .raceSettled 0 .rejected),
    (inView, .timer 1), (inView, .healthCheck 1 true), (inView, .raceSettled 1 .resolved),
    (inView, .startSettleWindow), (inView, .notifyRecovered)]

theorem one_chain_lateRejection :
    ((coordinatorMachine {}).run {} lateRejection).live.length ≤ 1 ∧
      (coordinatorMachine {}).Along
        (fun s i => Overdue s i.2 → Spared s ((coordinatorMachine {}).next s i)) {} lateRejection :=
  one_chain {} lateRejection (by decide)

/-- The latch is open while a health check is on its way: a second request begins a second
chain. -/
theorem two_chains :
    ¬ ∀ (cfg : Config) (inputs : List (Context × CoordinatorEvent)),
      ((coordinatorMachine cfg).run {} inputs).live.length ≤ 1 ∧
        (coordinatorMachine cfg).Along
          (fun s i => Overdue s i.2 → Spared s ((coordinatorMachine cfg).next s i)) {} inputs := by
  intro hclaim
  have hlive := (hclaim {} [(inView, .request "ice_failed" 3), (inView, .timer 0),
    (inView, .request "hangup" 2)]).1
  exact absurd hlive (by decide)

/-! ## Attempts -/

/-- Where signals are accounted for, each of them is. -/
theorem Accounted.split {limit n : ℕ} {before after : List Signal} {o : Signal}
    (h : Accounted limit n (before ++ o :: after)) :
    (∀ ctx, o = .executeAttempt ctx → invoked n before < limit) ∧
      ∀ pending, o = .onExhausted pending → invoked n before = limit := by
  induction before generalizing n with
  | nil =>
      constructor
      · rintro ctx rfl
        exact h.1
      · rintro pending rfl
        exact h.1
  | cons o' before ih =>
      cases o' with
      | zeroed | onSuccess => exact ih h
      | executeAttempt | onExhausted => exact ih h.2

/-- The signals of an orderly run are accounted for. -/
theorem accounted_trace {cfg : Config} {s : Coordinator} (h : ∃ ch, s.Chained cfg ch)
    {inputs : List (Context × CoordinatorEvent)}
    (horderly : (coordinatorMachine cfg).Along Orderly s inputs) :
    Accounted cfg.maxReconnectAttempts s.attempt ((coordinatorMachine cfg).trace s inputs) := by
  induction inputs generalizing s with
  | nil => trivial
  | cons i inputs ih =>
      have hstep := h.choose_spec.kept_handle horderly.1
      have hrest := ih hstep.chained horderly.2
      refine accounted_append hstep.accounted ?_
      rw [← hstep.invoked] at hrest
      exact hrest

/-- While what comes in is orderly, an attempt is begun only when fewer than the maximum have
been since the counter was set to zero, and the coordinator is exhausted after exactly the
maximum. -/
theorem attempts_bounded (cfg : Config) (inputs : List (Context × CoordinatorEvent))
    (horderly : (coordinatorMachine cfg).Along Orderly {} inputs) (before after : List Signal)
    (o : Signal) (hsplit : (coordinatorMachine cfg).trace {} inputs = before ++ o :: after) :
    (∀ ctx, o = .executeAttempt ctx → invoked 0 before < cfg.maxReconnectAttempts) ∧
      ∀ pending, o = .onExhausted pending → invoked 0 before = cfg.maxReconnectAttempts := by
  have haccounted := accounted_trace (chained_initial cfg) horderly
  rw [hsplit] at haccounted
  exact haccounted.split

/-- An attempt that fails, from its backoff timer on. -/
def failedAttempt (chain : ℕ) : List (Context × CoordinatorEvent) :=
  [(inView, .timer chain), (inView, .healthCheck chain true),
    (inView, .raceSettled chain .rejected)]

/-- Three failures in a row. -/
def threeFailures : List (Context × CoordinatorEvent) :=
  (inView, .request "hangup" 2) :: failedAttempt 0 ++ failedAttempt 1 ++ failedAttempt 2

theorem attempts_bounded_threeFailures :
    (∀ ctx, Signal.onExhausted { reason := "hangup", severity := 2 } = .executeAttempt ctx →
        invoked 0 (((coordinatorMachine { maxReconnectAttempts := 3 }).trace {}
          threeFailures).take 3) < 3) ∧
      ∀ pending, Signal.onExhausted { reason := "hangup", severity := 2 } = .onExhausted pending →
        invoked 0 (((coordinatorMachine { maxReconnectAttempts := 3 }).trace {}
          threeFailures).take 3) = 3 :=
  attempts_bounded { maxReconnectAttempts := 3 } threeFailures (by decide) _ [] _ (by decide)

/-- Two chains that wait for their health checks with one attempt left make two attempts. -/
theorem attempt_over_limit :
    ¬ ∀ (cfg : Config) (inputs : List (Context × CoordinatorEvent)) (before after : List Signal)
      (o : Signal), (coordinatorMachine cfg).trace {} inputs = before ++ o :: after →
      (∀ ctx, o = .executeAttempt ctx → invoked 0 before < cfg.maxReconnectAttempts) ∧
        ∀ pending, o = .onExhausted pending → invoked 0 before = cfg.maxReconnectAttempts := by
  intro hclaim
  let cfg : Config := { maxReconnectAttempts := 3 }
  let inputs : List (Context × CoordinatorEvent) :=
    (inView, .request "hangup" 2) :: failedAttempt 0 ++ failedAttempt 1 ++
      [(inView, .timer 2), (inView, .request "ice_failed" 3), (inView, .timer 3),
        (inView, .healthCheck 2 true), (inView, .healthCheck 3 true)]
  have hbound := (hclaim cfg inputs (((coordinatorMachine cfg).trace {} inputs).take 3) []
    (.executeAttempt { attempt := 4, action := .recreateSession, reason := "ice_failed"
                       severity := 3, token := 1 }) (by decide)).1 _ rfl
  exact absurd hbound (by decide)

end CameraStack.Player
