/-
# The rate limit of a topic

The worker drops a message that comes less than the interval of the topic after the time it keeps,
and keeps the time when the sink has accepted a message.  A POST that the sink does not accept
leaves the kept time as it is, so the next message may follow at once.

To say when a POST starts, an event is timed: beside what the worker reads from the clock, it has
the time at which it is over, and a POST that it starts is started then.
-/

import Mathlib.Algebra.Order.Field.Basic
import CameraStack.Relay.Worker

namespace CameraStack.Relay

open CameraStack.Lib CameraStack.Bringup

/-! ## Timed runs -/

/-- An event, and the clock when it is over. -/
structure TimedEvent where
  event : Event
  clock : ℚ

/-- A topic with its clock, the start of its last POST to the sink, and whether the sink has
accepted that one. -/
structure TimedState where
  relay : TopicState
  clock : ℚ
  posted : Option ℚ := none
  accepted : Bool := false

/-- What is read from the clock in an event. -/
def Event.reading : Event → Option ℚ
  | .take now | .answer _ now => some now
  | .hook .. | .published => none

/-- The sink answers the POST that it is sent with 200. -/
def TopicState.accepts (s : TopicState) : Event → Bool
  | .answer (.ok resp) _ =>
      match s.phase with
      | .posting _ => resp.statusCode = 200
      | _ => false
  | _ => false

/-- Something goes to the sink. -/
def Output.isSink : Output → Bool
  | .sink .. => true
  | .publish .. | .evicted _ | .finished _ => false

/-- One topic in time, which emits when its POSTs to the sink start. -/
def timedMachine (topic : Topic) (bound : ℕ) : Machine TimedState TimedEvent ℚ where
  step s e :=
    let relay := (relayMachine topic bound).next s.relay e.event
    if ((relayMachine topic bound).emits s.relay e.event).any Output.isSink then
      ({ relay := relay, clock := e.clock, posted := some e.clock, accepted := false }, [e.clock])
    else
      ({ s with
          relay := relay
          clock := e.clock
          accepted := s.accepted || s.relay.accepts e.event }, [])

/-- The clock does not go back. -/
def Timely (s : TimedState) (e : TimedEvent) : Prop :=
  s.clock ≤ e.clock ∧ ∀ now ∈ e.event.reading, s.clock ≤ now ∧ now ≤ e.clock

instance : ∀ (s : TimedState) (e : TimedEvent), Decidable (Timely s e)
  | s, e =>
      inferInstanceAs
        (Decidable (s.clock ≤ e.clock ∧ ∀ now ∈ e.event.reading, s.clock ≤ now ∧ now ≤ e.clock))

/-- The second POST starts an interval after the first. -/
def Spaced (interval first second : ℚ) : Prop := interval ≤ second - first

instance (interval : ℚ) : DecidableRel (Spaced interval) := fun first second =>
  inferInstanceAs (Decidable (interval ≤ second - first))

/-! ## What goes to the sink -/

/-- The checks of the loop let the message through. -/
structure WorkerConfig.Clear (w : WorkerConfig) (s : TopicState) (now : ℚ) (payload : Members) :
    Prop where
  unlimited : w.limited s now = false
  newer : w.dedupeTs = true → ∃ ts, intTs payload = .ok ts ∧ s.stats.lastTsForwarded < ts

/-- The worker waits, and the next message passes the checks. -/
def Topic.Lets (topic : Topic) (s : TopicState) (now : ℚ) : Prop :=
  s.phase = .waiting ∧ ∃ w payload queue, topic.worker = .ok w ∧
    s.queue.getNowait = some (payload, queue) ∧ w.Clear s now payload

/-- A message that passes the checks goes to the sink an interval after the start of the last POST,
if the sink has not accepted that one. -/
def Topic.Patient (topic : Topic) (interval : ℚ) (s : TimedState) (e : TimedEvent) : Prop :=
  ∀ now, e.event = .take now → topic.Lets s.relay now → s.accepted = false →
    ∀ last ∈ s.posted, Spaced interval last e.clock

section Step

variable {topic : Topic} {bound : ℕ} {w : WorkerConfig} {s : TopicState} {now : ℚ}
variable {payload : Members}

/-- What the loop does about a message leaves the time that it keeps. -/
theorem TopicState.taskDone_lastForwardT (s : TopicState) :
    (taskDone () s).2.lastForwardT = s.lastForwardT := by
  rw [taskDone]
  cases s.queue.taskDone with
  | some queue => rfl
  | none => rfl

/-- A message that the loop skips does not go to the sink. -/
theorem run_skip (s : TopicState) :
    ((taskDone >>= fun _ => (pure false : Work Bool)) () s).1 ≠ .ok true ∧
      ((taskDone >>= fun _ => (pure false : Work Bool)) () s).2.lastForwardT = s.lastForwardT := by
  rw [Action.run_bind_pure]
  refine ⟨?_, s.taskDone_lastForwardT⟩
  cases (taskDone () s).1 with
  | ok => nofun
  | error => nofun

/-- The checks let a message through that they do not touch, or keep it from the sink. -/
theorem WorkerConfig.screen_cases (w : WorkerConfig) (s : TopicState) (now : ℚ)
    (payload : Members) :
    (w.Clear s now payload ∧ w.screen now payload () s = (.ok true, s)) ∨
      (¬ w.Clear s now payload ∧ (w.screen now payload () s).1 ≠ .ok true ∧
        (w.screen now payload () s).2.lastForwardT = s.lastForwardT) := by
  rw [screen, Action.run_bind, Action.run_get]
  dsimp only
  split_ifs with hlimited hdedupe
  · exact .inr ⟨fun h => absurd (hlimited.symm.trans h.unlimited) nofun, run_skip _⟩
  · cases hts : intTs payload with
    | error e =>
        refine .inr ⟨fun h => ?_, nofun, rfl⟩
        obtain ⟨ts, hok, -⟩ := h.newer hdedupe
        rw [hts] at hok
        cases hok
    | ok ts =>
        dsimp only
        split_ifs with hold
        · refine .inr ⟨fun h => ?_, run_skip _⟩
          obtain ⟨ts', hok, hnew⟩ := h.newer hdedupe
          cases hts.symm.trans hok
          omega
        · exact .inl ⟨⟨Bool.eq_false_of_not_eq_true hlimited, fun _ => ⟨ts, hts, by omega⟩⟩, rfl⟩
  · exact .inl ⟨⟨Bool.eq_false_of_not_eq_true hlimited, fun h => absurd h hdedupe⟩, rfl⟩

/-- A step that posts nothing to the sink, starts no wait for it, and leaves the time that is kept
as it is. -/
structure TopicState.Idle (s : TopicState) (result : TopicState × List Output) : Prop where
  sinks : result.2.any Output.isSink = false
  last : result.1.lastForwardT = s.lastForwardT
  phase : ∀ payload, result.1.phase = .posting payload → s.phase = .posting payload

theorem Output.any_isSink_of_quiet {outputs : List Output} (h : ∀ o ∈ outputs, o.isPost = false) :
    outputs.any isSink = false := by
  rw [List.any_eq_false]
  intro o ho
  cases o with
  | sink => cases h _ ho
  | publish | evicted | finished => nofun

theorem TopicState.idle_refl (s : TopicState) : s.Idle (s, []) := ⟨rfl, rfl, fun _ h => h⟩

theorem TopicState.finish_phase (s : TopicState) (payload : Members) :
    s.finish.1.phase ≠ .posting payload := by
  intro hposting
  rw [finish] at hposting
  split at hposting
  · cases hposting
  · cases hposting

theorem TopicState.idle_finish (s : TopicState) : s.Idle s.finish := by
  have hsinks := Output.any_isSink_of_quiet s.quiet_finish
  refine ⟨hsinks, ?_, fun payload h => absurd h (s.finish_phase payload)⟩
  have hdone := s.taskDone_lastForwardT
  rw [finish]
  split
  · next hrun => rwa [hrun] at hdone
  · next hrun => rwa [hrun] at hdone

/-- A message that is counted leaves the loop with the time as it was. -/
theorem TopicState.idle_counted (s : TopicState) (mark : Mark) :
    s.Idle (count mark () s).2.finish := by
  have hfinish := (count mark () s).2.idle_finish
  exact ⟨hfinish.sinks, hfinish.last, hfinish.phase⟩

theorem TopicState.idle_makeRoom (s : TopicState) : s.Idle (s.makeRoom bound) := by
  rw [makeRoom]
  dsimp only
  split_ifs
  · cases s.queue.getNowait with
    | none => exact ⟨rfl, rfl, fun _ h => h⟩
    | some taken =>
        dsimp only
        split
        · exact ⟨rfl, rfl, fun _ h => h⟩
        · exact ⟨rfl, rfl, fun _ h => h⟩
  · exact s.idle_refl

theorem TopicState.enqueue_frame (s : TopicState) (inner : Members) :
    (s.enqueue bound inner).lastForwardT = s.lastForwardT ∧
      (s.enqueue bound inner).phase = s.phase := by
  rw [enqueue]
  split
  · exact ⟨rfl, rfl⟩
  · exact ⟨rfl, rfl⟩

theorem Topic.idle_hook (topic : Topic) (inner : Members) (rxMs : ℤ) (s : TopicState) :
    s.Idle (topic.hook bound inner rxMs s) := by
  rw [hook]
  split_ifs
  · exact s.idle_refl
  · have hroom := @TopicState.idle_makeRoom bound { s with stats.seen := s.stats.seen + 1 }
    dsimp only
    obtain ⟨hlast, hphase⟩ := @TopicState.enqueue_frame bound
      (({ s with stats.seen := s.stats.seen + 1 } : TopicState).makeRoom bound).1
      (setMember "relay_rx_ms" (.int rxMs) inner)
    refine ⟨hroom.sinks, hlast.trans hroom.last, fun payload h => hroom.phase payload ?_⟩
    exact hphase.symm.trans h
  · exact ⟨rfl, rfl, fun _ h => h⟩

theorem TopicState.idle_published (s : TopicState) : s.Idle s.published := by
  rw [published]
  split
  · exact s.idle_finish
  · exact s.idle_refl

/-- The worker posts the next message, or nothing. -/
theorem WorkerConfig.take_cases (w : WorkerConfig) (now : ℚ) (s : TopicState) :
    (∃ payload queue, s.phase = .waiting ∧ s.queue.getNowait = some (payload, queue) ∧
        w.Clear s now payload ∧
        w.take now s =
          ({ s with queue := queue, marks := [], phase := .posting payload },
            [.sink w.sinkUrl payload])) ∨
      ((∀ payload queue, s.phase = .waiting → s.queue.getNowait = some (payload, queue) →
        ¬ w.Clear s now payload) ∧ s.Idle (w.take now s)) := by
  rw [take]
  split
  · next payload queue hphase hget =>
    rcases w.screen_cases { s with queue := queue, marks := [] } now payload
      with ⟨hclear, hrun⟩ | ⟨hclear, hkept, hlast⟩
    · rw [hrun]
      exact .inl ⟨payload, queue, hphase, hget, ⟨hclear.unlimited, hclear.newer⟩, rfl⟩
    · refine .inr ⟨fun payload' queue' _ hget' h => hclear ?_, ?_⟩
      · cases hget.symm.trans hget'
        exact ⟨h.unlimited, h.newer⟩
      · split
        · next hrun => exact absurd (congrArg Prod.fst hrun) hkept
        · next s' hrun =>
          rw [hrun] at hlast
          have hfinish := s'.idle_finish
          exact ⟨hfinish.sinks, hfinish.last.trans hlast,
            fun payload h => absurd h (s'.finish_phase payload)⟩
        · next s' hrun =>
          rw [hrun] at hlast
          have hfail := s'.idle_counted .error
          exact ⟨hfail.sinks, hfail.last.trans hlast,
            fun payload h => absurd h (TopicState.finish_phase _ payload)⟩
  · next hother =>
    refine .inr ⟨fun payload queue hphase hget => ?_, s.idle_refl⟩
    exact absurd hget (hother payload queue hphase)

/-- The worker keeps the time of an answer that accepts the message in hand, whose time stamp is a
number where it matters. -/
theorem WorkerConfig.answer_accepted {resp : Response}
    (hphase : s.phase = .posting payload) (hstatus : resp.statusCode = 200)
    (hnumber : w.dedupeTs = true → ∃ ts, intTs payload = .ok ts) :
    (w.answer now (.ok resp) s).2.any Output.isSink = false ∧
      (w.answer now (.ok resp) s).1.lastForwardT = now ∧
      ∀ payload', (w.answer now (.ok resp) s).1.phase ≠ .posting payload' := by
  have hforwarded : ∃ s', w.forwarded now payload () s = (.ok (), s') ∧ s'.lastForwardT = now := by
    rw [forwarded]
    split_ifs with hdedupe
    · obtain ⟨ts, hts⟩ := hnumber hdedupe
      rw [hts]
      exact ⟨_, rfl, rfl⟩
    · exact ⟨_, rfl, rfl⟩
  obtain ⟨s', hrun, hlast⟩ := hforwarded
  rw [answer, hphase]
  dsimp only
  rw [if_pos hstatus, hrun]
  dsimp only
  split
  · refine ⟨rfl, hlast, fun payload' hposting => ?_⟩
    cases hposting
  · exact ⟨s'.idle_finish.sinks, s'.idle_finish.last.trans hlast, s'.finish_phase⟩

/-- Any other answer leaves the time that is kept. -/
theorem WorkerConfig.idle_answer {result : Except Raised Response}
    (h : s.accepts (.answer result now) = false) : s.Idle (w.answer now result s) := by
  rw [answer]
  split
  · next payload hphase =>
    split
    · exact s.idle_counted .error
    · next resp =>
      rw [TopicState.accepts, hphase] at h
      rw [if_neg (of_decide_eq_false h)]
      exact s.idle_counted .error
  · exact s.idle_refl

/-- A worker that waits for the sink has come to its loop, and where it looks for duplicates the
time stamp of the message in hand is a number. -/
def Topic.Numbered (topic : Topic) (s : TopicState) : Prop :=
  ∀ payload, s.phase = .posting payload →
    ∃ w, topic.worker = .ok w ∧ (w.dedupeTs = true → ∃ ts, intTs payload = .ok ts)

theorem TopicState.accepts_answer {result : Except Raised Response}
    (h : s.accepts (.answer result now) = true) :
    ∃ resp payload, result = .ok resp ∧ s.phase = .posting payload ∧ resp.statusCode = 200 := by
  cases result with
  | error e => cases h
  | ok resp =>
      rw [accepts] at h
      split at h
      · next payload hphase => exact ⟨resp, payload, rfl, hphase, of_decide_eq_true h⟩
      · cases h

/-- One event of a topic: a message goes to the sink, the sink accepts one, or neither. -/
theorem Topic.step_cases (hnumbered : topic.Numbered s) (e : Event) :
    (∃ now w payload queue, e = .take now ∧ topic.worker = .ok w ∧ s.phase = .waiting ∧
        s.queue.getNowait = some (payload, queue) ∧ w.Clear s now payload ∧
        (relayMachine topic bound).step s e =
          ({ s with queue := queue, marks := [], phase := .posting payload },
            [.sink w.sinkUrl payload])) ∨
      (∃ result now, e = .answer result now ∧ s.accepts e = true ∧
        ((relayMachine topic bound).emits s e).any Output.isSink = false ∧
        ((relayMachine topic bound).next s e).lastForwardT = now ∧
        ∀ payload, ((relayMachine topic bound).next s e).phase ≠ .posting payload) ∨
      ((∀ now, e = .take now → ¬ topic.Lets s now) ∧ s.accepts e = false ∧
        s.Idle ((relayMachine topic bound).step s e)) := by
  cases e with
  | hook inner rxMs =>
      refine .inr (.inr ⟨fun now htake => ?_, rfl, topic.idle_hook inner rxMs s⟩)
      cases htake
  | published =>
      refine .inr (.inr ⟨fun now htake => ?_, rfl, s.idle_published⟩)
      cases htake
  | take now =>
      rw [relayMachine]
      dsimp only
      cases hworker : topic.worker with
      | error e =>
          refine .inr (.inr ⟨?_, rfl, s.idle_refl⟩)
          rintro now' - ⟨-, w, -, -, hw, -⟩
          cases hworker.symm.trans hw
      | ok w =>
          rcases w.take_cases now s with ⟨payload, queue, hphase, hget, hclear, hrun⟩ | ⟨hnot, hidle⟩
          · exact .inl ⟨now, w, payload, queue, rfl, rfl, hphase, hget, hclear, hrun⟩
          · refine .inr (.inr ⟨?_, rfl, hidle⟩)
            rintro now' hnow ⟨hphase, w', payload, queue, hw, hget, hclear⟩
            cases hnow
            cases hworker.symm.trans hw
            exact hnot payload queue hphase hget hclear
  | answer result now =>
      rw [Machine.emits, Machine.next, relayMachine]
      dsimp only
      cases haccepts : s.accepts (.answer result now) with
      | false =>
          refine .inr (.inr ⟨fun now' htake => ?_, rfl, ?_⟩)
          · cases htake
          · cases topic.worker with
            | error e => exact s.idle_refl
            | ok w => exact w.idle_answer haccepts
      | true =>
          obtain ⟨resp, payload, rfl, hphase, hstatus⟩ := TopicState.accepts_answer haccepts
          obtain ⟨w, hworker, hnumber⟩ := hnumbered payload hphase
          obtain ⟨hsinks, hlast, hnext⟩ :=
            @WorkerConfig.answer_accepted w s now payload resp hphase hstatus hnumber
          rw [hworker]
          exact .inr (.inl ⟨_, now, rfl, rfl, hsinks, hlast, hnext⟩)

/-! ## The time between two POSTs -/

/-- What holds of a topic in time: the last POST is past, and the worker keeps a time behind it
where the sink has accepted it. -/
structure TimedState.Fit (topic : Topic) (s : TimedState) : Prop where
  past : ∀ start ∈ s.posted, start ≤ s.clock
  kept : s.accepted = true → ∀ start ∈ s.posted, start ≤ s.relay.lastForwardT
  numbered : topic.Numbered s.relay

variable {t : TimedState} {e : TimedEvent}

theorem timedMachine_step_of_sink
    (h : ((relayMachine topic bound).emits t.relay e.event).any Output.isSink = true) :
    (timedMachine topic bound).step t e =
      ({ relay := (relayMachine topic bound).next t.relay e.event, clock := e.clock,
         posted := some e.clock, accepted := false }, [e.clock]) := by
  rw [timedMachine]
  exact if_pos h

theorem timedMachine_step_of_none
    (h : ((relayMachine topic bound).emits t.relay e.event).any Output.isSink = false) :
    (timedMachine topic bound).step t e =
      ({ t with
          relay := (relayMachine topic bound).next t.relay e.event
          clock := e.clock
          accepted := t.accepted || t.relay.accepts e.event }, []) := by
  rw [timedMachine]
  exact if_neg (Bool.eq_false_iff.mp h)

/-- The state keeps when the last POST started. -/
theorem timedMachine_posted (topic : Topic) (bound : ℕ) (t : TimedState) (e : TimedEvent) :
    ((timedMachine topic bound).next t e).posted =
      (t.posted.toList ++ (timedMachine topic bound).emits t e).getLast? := by
  rw [Machine.next, Machine.emits]
  cases h : ((relayMachine topic bound).emits t.relay e.event).any Output.isSink with
  | true =>
      rw [timedMachine_step_of_sink h]
      exact (List.getLast?_concat).symm
  | false =>
      rw [timedMachine_step_of_none h]
      cases t.posted with
      | none => rfl
      | some start => rfl

/-- A step in which the clock does not go back keeps what holds of a topic in time. -/
theorem TimedState.Fit.step (h : t.Fit topic) (htimely : Timely t e) :
    ((timedMachine topic bound).next t e).Fit topic := by
  have hpast : ∀ start ∈ t.posted, start ≤ e.clock := fun start hstart =>
    (h.past start hstart).trans htimely.1
  rw [Machine.next]
  rcases @Topic.step_cases topic bound t.relay h.numbered e.event
    with ⟨now, w, payload, queue, hevent, hworker, -, -, hclear, hstep⟩ |
      ⟨result, now, hevent, haccepts, hsinks, hlast, hphase⟩ | ⟨-, haccepts, hidle⟩
  · have hsink : ((relayMachine topic bound).emits t.relay e.event).any Output.isSink = true := by
      rw [Machine.emits, hstep]
      rfl
    rw [timedMachine_step_of_sink hsink]
    refine ⟨fun start hstart => ?_, fun haccepted => ?_, fun payload' hposting => ?_⟩
    · cases hstart
      exact le_refl _
    · cases haccepted
    · rw [Machine.next, hstep] at hposting
      cases hposting
      refine ⟨w, hworker, fun hdedupe => ?_⟩
      obtain ⟨ts, hts, -⟩ := hclear.newer hdedupe
      exact ⟨ts, hts⟩
  · rw [timedMachine_step_of_none hsinks]
    refine ⟨hpast, fun _ start hstart => ?_, fun payload hposting => ?_⟩
    · have hnow : t.clock ≤ now := (htimely.2 now (by rw [hevent]; rfl)).1
      exact ((h.past start hstart).trans hnow).trans hlast.ge
    · exact absurd hposting (hphase payload)
  · rw [timedMachine_step_of_none hidle.sinks]
    refine ⟨hpast, fun haccepted start hstart => ?_, fun payload hposting => ?_⟩
    · dsimp only at haccepted
      rw [haccepts, Bool.or_false] at haccepted
      exact (h.kept haccepted start hstart).trans hidle.last.ge
    · exact h.numbered payload (hidle.phase payload hposting)

theorem Topic.worker_minIntervalS {hz : ℚ} (hlimit : topic.rateLimitHz = .ok hz) (hpos : 0 < hz)
    (hworker : topic.worker = .ok w) : w.minIntervalS = 1 / hz := by
  rw [worker, hlimit] at hworker
  split at hworker
  · cases hworker
  · next heq =>
    cases heq
  · next heq =>
    cases heq
    cases hworker
    exact if_pos hpos

/-- A message that passes the checks comes an interval after the time that is kept. -/
theorem WorkerConfig.Clear.spaced (h : w.Clear s now payload) (hpos : 0 < w.minIntervalS) :
    Spaced w.minIntervalS s.lastForwardT now := by
  have hunlimited := of_decide_eq_false h.unlimited
  exact not_lt.mp fun hlt => hunlimited ⟨hpos, hlt⟩

theorem isChain_toList_concat_iff {R : ℚ → ℚ → Prop} (last : Option ℚ) (start : ℚ) :
    (last.toList ++ [start]).IsChain R ↔ ∀ before ∈ last, R before start := by
  cases last with
  | none => simp
  | some before => simp

/-- The last POST and one that a step starts are an interval apart exactly when the step waits
behind a POST that was not accepted: behind one that was, the limit sees to it. -/
theorem TimedState.Fit.spaced_iff {hz : ℚ} (hlimit : topic.rateLimitHz = .ok hz) (hpos : 0 < hz)
    (h : t.Fit topic) (htimely : Timely t e) :
    (t.posted.toList ++ (timedMachine topic bound).emits t e).IsChain (Spaced (1 / hz)) ↔
      topic.Patient (1 / hz) t e := by
  have hquiet : (t.posted.toList ++ []).IsChain (Spaced (1 / hz)) := by
    cases t.posted with
    | none => exact .nil
    | some start => exact .singleton start
  rw [Machine.emits]
  rcases @Topic.step_cases topic bound t.relay h.numbered e.event
    with ⟨now, w, payload, queue, hevent, hworker, hphase, hget, hclear, hstep⟩ |
      ⟨result, now, hevent, haccepts, hsinks, hlast, hphase⟩ | ⟨hnot, haccepts, hidle⟩
  · have hsink : ((relayMachine topic bound).emits t.relay e.event).any Output.isSink = true := by
      rw [Machine.emits, hstep]
      rfl
    have hlets : topic.Lets t.relay now := ⟨hphase, w, payload, queue, hworker, hget, hclear⟩
    rw [timedMachine_step_of_sink hsink, isChain_toList_concat_iff]
    refine ⟨fun hall _ _ _ _ => hall, fun hpatient start hstart => ?_⟩
    cases haccepted : t.accepted with
    | false => exact hpatient now hevent hlets haccepted start hstart
    | true =>
        have hinterval := Topic.worker_minIntervalS hlimit hpos hworker
        have hkept : start ≤ t.relay.lastForwardT := h.kept haccepted start hstart
        have hover : now ≤ e.clock := (htimely.2 now (by rw [hevent]; rfl)).2
        have hspaced := hclear.spaced (by rw [hinterval]; exact one_div_pos.mpr hpos)
        rw [hinterval] at hspaced
        calc 1 / hz ≤ now - t.relay.lastForwardT := hspaced
          _ ≤ e.clock - start := sub_le_sub hover hkept
  · rw [timedMachine_step_of_none hsinks]
    refine iff_of_true hquiet fun now' htake => ?_
    cases hevent.symm.trans htake
  · rw [timedMachine_step_of_none hidle.sinks]
    exact iff_of_true hquiet fun now htake hlets => absurd hlets (hnot now htake)

end Step

/-- `_startup` of one topic, at a time of the clock. -/
def Topic.startAt (topic : Topic) (clock : ℚ) : TimedState where
  relay := topic.start
  clock := clock

theorem Topic.fit_startAt (topic : Topic) (clock : ℚ) : (topic.startAt clock).Fit topic := by
  refine ⟨nofun, nofun, fun payload hposting => ?_⟩
  have hphase : topic.start.phase = .posting payload := hposting
  rw [start] at hphase
  split at hphase
  · cases hphase
  · cases hphase

theorem Spaced.trans {interval first second third : ℚ} (hinterval : 0 ≤ interval)
    (h : Spaced interval first second) (h' : Spaced interval second third) :
    Spaced interval first third := by
  rw [Spaced] at h h' ⊢
  linarith

/-- While the clock does not go back, any two POSTs of a run to the sink of a limited topic start
an interval apart exactly when no message goes to the sink within an interval behind the start of a
POST that the sink has not accepted. -/
theorem posts_spaced_iff (topic : Topic) (bound : ℕ) {hz : ℚ}
    (hlimit : topic.rateLimitHz = .ok hz) (hpos : 0 < hz) (clock : ℚ) {events : List TimedEvent}
    (htimely : (timedMachine topic bound).Along Timely (topic.startAt clock) events) :
    ((timedMachine topic bound).trace (topic.startAt clock) events).Pairwise (Spaced (1 / hz)) ↔
      (timedMachine topic bound).Along (topic.Patient (1 / hz)) (topic.startAt clock) events := by
  have hinterval : 0 ≤ 1 / hz := (one_div_pos.mpr hpos).le
  have : IsTrans ℚ (Spaced (1 / hz)) := ⟨fun _ _ _ h h' => h.trans hinterval h'⟩
  have hchain := @Machine.isChain_trace_iff _ _ _ (timedMachine topic bound) (Spaced (1 / hz))
    TimedState.posted (timedMachine_posted topic bound) (topic.startAt clock) events
  rw [← List.isChain_iff_pairwise]
  refine hchain.trans ?_
  exact Machine.along_congr_of_guard (I := TimedState.Fit topic) _
    (fun t e h htimely _ => h.step htimely) (fun t e h htimely => h.spaced_iff hlimit hpos htimely)
    htimely (topic.fit_startAt clock)

/-- A query that the sink does not accept, and one that comes a millisecond later. -/
def sampleFailure : List TimedEvent :=
  let query : Members := [("topic", .str "depth_query")]
  let failure : Response := { statusCode := 500, json := .error "JSONDecodeError" }
  [⟨.hook query 0, 1000⟩, ⟨.take 1000, 1000⟩, ⟨.answer (.ok failure) 1000, 1000⟩,
    ⟨.hook query 1, 1000 + 1 / 1000⟩, ⟨.take (1000 + 1 / 1000), 1000 + 1 / 1000⟩]

theorem sampleFailure_timely :
    (timedMachine depthQuery 50).Along Timely (depthQuery.startAt 0) sampleFailure := by
  decide +kernel

/-- The limit is judged at the sample run. -/
theorem sampleFailure_spaced_iff :
    ((timedMachine depthQuery 50).trace (depthQuery.startAt 0) sampleFailure).Pairwise
        (Spaced (1 / 60)) ↔
      (timedMachine depthQuery 50).Along (depthQuery.Patient (1 / 60)) (depthQuery.startAt 0)
        sampleFailure :=
  posts_spaced_iff depthQuery 50 rfl (by norm_num) 0 sampleFailure_timely

/-- Behind a query that the sink did not accept, the next is posted at once. -/
theorem failure_lifts_limit :
    (timedMachine depthQuery 50).Along Timely (depthQuery.startAt 0) sampleFailure ∧
      ¬ ((timedMachine depthQuery 50).trace (depthQuery.startAt 0) sampleFailure).Pairwise
        (Spaced (1 / 60)) := by
  decide +kernel

end CameraStack.Relay
