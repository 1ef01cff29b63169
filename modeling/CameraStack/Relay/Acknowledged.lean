/-
# One acknowledgement for each message

The worker acknowledges a message in a `finally` clause, and once more before, where a message is
over the rate limit or a duplicate.  The second acknowledgement is taken from another message that
is unfinished, or kills the worker where there is none.  In a run in which no message leaves the
loop that way, the unfinished items are those in the queue and the one in hand.
-/

import CameraStack.Relay.Worker

namespace CameraStack.Relay

open CameraStack.Lib CameraStack.Bringup

/-! ## What is asked of a run -/

/-- A call of `task_done`. -/
def Mark.isCall : Mark → Bool
  | .acked | .refused => true
  | .dropped | .forwarded | .error | .duplicate => false

/-- One of the counters goes up. -/
def Mark.isCounter : Mark → Bool
  | .dropped | .forwarded | .error => true
  | .acked | .refused | .duplicate => false

/-- A message was acknowledged once, and either skipped as a duplicate or counted once. -/
structure Settled (marks : List Mark) : Prop where
  once : marks.countP Mark.isCall = 1
  accepted : Mark.refused ∉ marks
  counted : marks.countP Mark.isCounter = if Mark.duplicate ∈ marks then 0 else 1

/-- The loop of the worker has not ended. -/
def Phase.alive : Phase → Bool
  | .waiting | .posting _ | .publishing _ => true
  | .dead _ => false

/-- What is done about a message that leaves the queue. -/
def Output.Sound : Output → Prop
  | .finished marks => Settled marks
  | .evicted mark => mark = .acked
  | .sink .. | .publish .. => True

/-- A step leaves the worker alive, and the messages it is done with settled. -/
def Topic.Sound (topic : Topic) (bound : ℕ) (s : TopicState) (e : Event) : Prop :=
  ((relayMachine topic bound).next s e).phase.alive = true ∧
    ∀ o ∈ (relayMachine topic bound).emits s e, o.Sound

/-- A message that is taken is neither over the rate limit nor a duplicate. -/
def Topic.passes (topic : Topic) (s : TopicState) : Event → Bool
  | .take now =>
      match topic.worker, s.phase, s.queue.getNowait with
      | .ok w, .waiting, some (payload, _) => !w.limited s now && !w.duplicate s payload
      | _, _, _ => true
  | .hook .. | .answer .. | .published => true

/-! ## The message in hand -/

/-- How many messages the worker has in hand. -/
def Phase.held : Phase → ℕ
  | .posting _ | .publishing _ => 1
  | .waiting | .dead _ => 0

/-- What is noted about the message in hand, where the worker gives way. -/
def Phase.noted : Phase → List Mark → Prop
  | .posting _, marks => marks = []
  | .publishing _, marks => marks = [.forwarded]
  | .waiting, _ | .dead _, _ => True

/-- The worker lives, and what is unfinished is in the queue or in hand. -/
structure TopicState.Fit (s : TopicState) : Prop where
  alive : s.phase.alive = true
  balanced : s.queue.Balanced s.phase.held
  noted : s.phase.noted s.marks

theorem settled_counter {mark : Mark} (h : mark.isCounter = true) : Settled [mark, .acked] := by
  cases mark with
  | dropped | forwarded | error => exact ⟨rfl, by decide, rfl⟩
  | acked | refused | duplicate => cases h

/-- Every way out of the loop calls `task_done`. -/
theorem TopicState.finish_emits (s : TopicState) :
    ∃ mark, mark.isCall = true ∧ s.finish.2 = [.finished (s.marks ++ [mark])] := by
  rw [finish, taskDone]
  cases s.queue.taskDone with
  | some queue => exact ⟨.acked, rfl, rfl⟩
  | none => exact ⟨.refused, rfl, rfl⟩

/-- A message that was acknowledged before is not settled. -/
theorem not_settled_of_call {marks : List Mark} {mark : Mark} (h : mark.isCall = true)
    (hcall : 0 < marks.countP Mark.isCall) : ¬ Settled (marks ++ [mark]) := by
  intro hsettled
  have honce := hsettled.once
  rw [List.countP_append, List.countP_singleton, if_pos h] at honce
  omega

section Step

variable {topic : Topic} {bound : ℕ} {w : WorkerConfig} {s : TopicState} {now : ℚ}

/-- A message in hand that was counted is acknowledged, and the worker waits for the next. -/
theorem TopicState.finish_fit {mark : Mark} (hcounter : mark.isCounter = true)
    (hbalanced : s.queue.Balanced 1) (hmarks : s.marks = [mark]) :
    s.finish.1.Fit ∧ ∀ o ∈ s.finish.2, o.Sound := by
  obtain ⟨queue, hdone, -, hrest⟩ := hbalanced.done
  rw [finish, taskDone, hdone]
  refine ⟨⟨rfl, hrest, trivial⟩, List.forall_mem_singleton.mpr ?_⟩
  rw [note, hmarks]
  exact settled_counter hcounter

theorem TopicState.fail_fit (hbalanced : s.queue.Balanced 1) (hmarks : s.marks = []) :
    s.fail.1.Fit ∧ ∀ o ∈ s.fail.2, o.Sound := by
  have hnoted : (count .error () s).2.marks = [.error] := by
    show s.marks ++ [.error] = [.error]
    rw [hmarks, List.nil_append]
  exact finish_fit rfl hbalanced hnoted

/-! ## The steps -/

theorem TopicState.makeRoom_fit (h : s.Fit) :
    (s.makeRoom bound).1.Fit ∧ ∀ o ∈ (s.makeRoom bound).2, o.Sound := by
  rw [makeRoom]
  dsimp only
  split_ifs
  · cases hget : s.queue.getNowait with
    | none => exact ⟨⟨h.alive, h.balanced, h.noted⟩, List.forall_mem_nil _⟩
    | some taken =>
        obtain ⟨queue', hdone, -, hrest⟩ := (h.balanced.get hget).done
        dsimp only
        rw [hdone]
        exact ⟨⟨h.alive, hrest, h.noted⟩, List.forall_mem_singleton.mpr rfl⟩
  · exact ⟨h, List.forall_mem_nil _⟩

theorem TopicState.enqueue_fit (inner : Members) (h : s.Fit) : (s.enqueue bound inner).Fit := by
  rw [enqueue]
  split
  · next queue hput => exact ⟨h.alive, h.balanced.put hput, h.noted⟩
  · exact ⟨h.alive, h.balanced, h.noted⟩

/-- The hook acknowledges what it gives up, and leaves the message in hand alone. -/
theorem Topic.hook_fit (inner : Members) (rxMs : ℤ) (h : s.Fit) :
    (topic.hook bound inner rxMs s).1.Fit ∧
      ∀ o ∈ (topic.hook bound inner rxMs s).2, o.Sound := by
  have hseen : { s with stats.seen := s.stats.seen + 1 : TopicState }.Fit :=
    ⟨h.alive, h.balanced, h.noted⟩
  rw [hook]
  split_ifs
  · exact ⟨h, List.forall_mem_nil _⟩
  · obtain ⟨hroom, hout⟩ := @TopicState.makeRoom_fit bound _ hseen
    exact ⟨TopicState.enqueue_fit _ hroom, hout⟩
  · exact ⟨⟨h.alive, h.balanced, h.noted⟩, List.forall_mem_nil _⟩

/-- A message that passes goes to the sink, or its time stamp is no number. -/
theorem WorkerConfig.screen_of_passes {payload : Members} (hlimited : w.limited s now = false)
    (hduplicate : w.duplicate s payload = false) :
    w.screen now payload () s = (.ok true, s) ∨ ∃ e, w.screen now payload () s = (.error e, s) := by
  rw [screen, Action.run_bind, Action.run_get]
  dsimp only
  rw [hlimited, if_neg Bool.false_ne_true]
  split_ifs with hdedupe
  · rw [duplicate, hdedupe, Bool.true_and] at hduplicate
    cases hts : intTs payload with
    | error e => exact .inr ⟨e, rfl⟩
    | ok ts =>
        rw [hts] at hduplicate
        dsimp only
        rw [if_neg (of_decide_eq_false hduplicate)]
        exact .inl rfl
  · exact .inl rfl

/-- Behind a `task_done` something was acknowledged, or refused. -/
theorem taskDone_marks (s : TopicState) : 0 < (taskDone () s).2.marks.countP Mark.isCall := by
  rw [taskDone]
  cases s.queue.taskDone with
  | some queue => simp [TopicState.note, Mark.isCall]
  | none => simp [TopicState.note, Mark.isCall]

/-- A message that is acknowledged and skipped does not go to the sink. -/
theorem run_taskDone_skip (s : TopicState) :
    ∃ result s', (taskDone >>= fun _ => (pure false : Work Bool)) () s = (result, s') ∧
      result ≠ .ok true ∧ 0 < s'.marks.countP Mark.isCall := by
  refine ⟨_, _, Action.run_bind_pure (f := fun _ => false), ?_, taskDone_marks s⟩
  cases (taskDone () s).1 with
  | ok => nofun
  | error => nofun

/-- A message over the limit, or a duplicate, is acknowledged before the loop goes on. -/
theorem WorkerConfig.screen_early {payload : Members}
    (h : (!w.limited s now && !w.duplicate s payload) = false) :
    ∃ result s', w.screen now payload () s = (result, s') ∧ result ≠ .ok true ∧
      0 < s'.marks.countP Mark.isCall := by
  rw [screen, Action.run_bind, Action.run_get]
  dsimp only
  split_ifs with hlimited hdedupe
  · exact run_taskDone_skip _
  · have hduplicate : w.duplicate s payload = true := by
      simpa [hlimited] using h
    rw [duplicate, hdedupe, Bool.true_and] at hduplicate
    cases hts : intTs payload with
    | error e =>
        rw [hts] at hduplicate
        cases hduplicate
    | ok ts =>
        rw [hts] at hduplicate
        dsimp only
        rw [if_pos (of_decide_eq_true hduplicate)]
        exact run_taskDone_skip _
  · have hduplicate : w.duplicate s payload = true := by
      simpa [hlimited] using h
    rw [duplicate, Bool.eq_false_iff.mpr hdedupe] at hduplicate
    cases hduplicate

/-- The worker is done at once with a message that does not pass, and does not settle it. -/
theorem WorkerConfig.take_early {payload : Members} {queue : TaskQueue Members}
    (hphase : s.phase = .waiting) (hget : s.queue.getNowait = some (payload, queue))
    (h : (!w.limited s now && !w.duplicate s payload) = false) :
    ∃ marks, (w.take now s).2 = [.finished marks] ∧ ¬ Settled marks := by
  obtain ⟨result, s', hrun, hskip, hcalls⟩ :=
    @screen_early w { s with queue := queue, phase := .waiting, marks := [] } now payload h
  rw [take, hphase, hget]
  dsimp only
  rw [hrun]
  cases result with
  | ok wanted =>
      cases wanted with
      | true => exact absurd rfl hskip
      | false =>
          obtain ⟨mark, hcall, hemits⟩ := s'.finish_emits
          exact ⟨_, hemits, not_settled_of_call hcall hcalls⟩
  | error e =>
      obtain ⟨mark, hcall, hemits⟩ := (count .error () s').2.finish_emits
      refine ⟨_, hemits, not_settled_of_call hcall ?_⟩
      show 0 < (s'.marks ++ [Mark.error]).countP Mark.isCall
      rw [List.countP_append]
      exact Nat.add_pos_left hcalls _

/-- A message that passes is in hand behind the step, or was counted and acknowledged. -/
theorem WorkerConfig.take_fit (h : s.Fit)
    (hpasses : ∀ payload queue, s.phase = .waiting → s.queue.getNowait = some (payload, queue) →
      (!w.limited s now && !w.duplicate s payload) = true) :
    (w.take now s).1.Fit ∧ ∀ o ∈ (w.take now s).2, o.Sound := by
  rw [take]
  split
  · next payload queue hphase hget =>
    obtain ⟨hlimited, hduplicate⟩ := Bool.and_eq_true_iff.mp (hpasses payload queue hphase hget)
    have hbalanced : queue.Balanced 1 := by
      have hheld := h.balanced.get hget
      rwa [hphase] at hheld
    rcases @screen_of_passes w { s with queue := queue, marks := [] } now payload
      (Bool.not_eq_eq_eq_not.mp hlimited) (Bool.not_eq_eq_eq_not.mp hduplicate)
      with hrun | ⟨e, hrun⟩
    · rw [hrun]
      exact ⟨⟨rfl, hbalanced, rfl⟩, List.forall_mem_singleton.mpr trivial⟩
    · rw [hrun]
      exact TopicState.fail_fit hbalanced rfl
  · exact ⟨h, List.forall_mem_nil _⟩

/-- A message that was accepted is counted; before it can be, only its time stamp is read. -/
theorem WorkerConfig.forwarded_cases (payload : Members) (hmarks : s.marks = []) :
    (∃ s', w.forwarded now payload () s = (.ok (), s') ∧ s'.queue = s.queue ∧
        s'.marks = [.forwarded]) ∨
      ∃ e, w.forwarded now payload () s = (.error e, s) := by
  rw [forwarded]
  split_ifs
  · cases hts : intTs payload with
    | error e => exact .inr ⟨e, rfl⟩
    | ok ts =>
        refine .inl ⟨_, rfl, rfl, ?_⟩
        show s.marks ++ [.forwarded] = [.forwarded]
        rw [hmarks, List.nil_append]
  · refine .inl ⟨_, rfl, rfl, ?_⟩
    show s.marks ++ [.forwarded] = [.forwarded]
    rw [hmarks, List.nil_append]

theorem WorkerConfig.answer_fit (result : Except Raised Response) (h : s.Fit) :
    (w.answer now result s).1.Fit ∧ ∀ o ∈ (w.answer now result s).2, o.Sound := by
  rw [answer]
  split
  · next payload hphase =>
    have hbalanced : s.queue.Balanced 1 := by
      have hheld := h.balanced
      rwa [hphase] at hheld
    have hmarks : s.marks = [] := by
      have hnoted := h.noted
      rwa [hphase] at hnoted
    split
    · exact TopicState.fail_fit hbalanced hmarks
    · split_ifs
      · rcases @forwarded_cases w s now payload hmarks with ⟨s', hrun, hqueue, hnoted⟩ | ⟨e, hrun⟩
        · rw [hrun]
          dsimp only
          split
          · exact ⟨⟨rfl, hqueue ▸ hbalanced, hnoted⟩, List.forall_mem_singleton.mpr trivial⟩
          · exact TopicState.finish_fit rfl (hqueue ▸ hbalanced) hnoted
        · rw [hrun]
          exact TopicState.fail_fit hbalanced hmarks
      · exact TopicState.fail_fit hbalanced hmarks
  · exact ⟨h, List.forall_mem_nil _⟩

theorem TopicState.published_fit (h : s.Fit) :
    s.published.1.Fit ∧ ∀ o ∈ s.published.2, o.Sound := by
  rw [published]
  split
  · next payload hphase =>
    have hbalanced := h.balanced
    have hnoted := h.noted
    rw [hphase] at hbalanced hnoted
    exact finish_fit rfl hbalanced hnoted
  · exact ⟨h, List.forall_mem_nil _⟩

/-! ## Whole runs -/

/-- A step in which the message that is taken passes keeps the count, and settles what it is done
with. -/
theorem Topic.step_fit (hworker : topic.worker = .ok w) (h : s.Fit) {e : Event}
    (hpasses : topic.passes s e = true) :
    ((relayMachine topic bound).next s e).Fit ∧
      ∀ o ∈ (relayMachine topic bound).emits s e, o.Sound := by
  cases e with
  | hook inner rxMs => exact Topic.hook_fit inner rxMs h
  | take now =>
      rw [Machine.next, Machine.emits, relayMachine]
      dsimp only
      rw [hworker]
      refine WorkerConfig.take_fit h fun payload queue hphase hget => ?_
      rwa [passes, hworker, hphase, hget] at hpasses
  | answer result now =>
      rw [Machine.next, Machine.emits, relayMachine]
      dsimp only
      rw [hworker]
      exact WorkerConfig.answer_fit result h
  | published => exact TopicState.published_fit h

/-- A message that does not pass is not settled. -/
theorem Topic.passes_of_sound (hworker : topic.worker = .ok w) {e : Event}
    (hsound : topic.Sound bound s e) : topic.passes s e = true := by
  cases e with
  | hook | answer | published => rfl
  | take now =>
      rw [passes, hworker]
      split
      · next w' payload queue heq hphase hget =>
        cases heq
        by_contra hearly
        obtain ⟨marks, hemits, hunsettled⟩ :=
          @WorkerConfig.take_early w s now payload queue hphase hget (Bool.not_eq_true _ ▸ hearly)
        refine hunsettled (hsound.2 (.finished marks) ?_)
        rw [Machine.emits, relayMachine]
        dsimp only
        rw [hworker, hemits]
        exact List.mem_singleton_self _
      · rfl

end Step

/-- The worker of a topic lives through a run and settles every message exactly when it comes to
its loop, and no message that it takes is over the rate limit or a duplicate. -/
theorem acknowledged_once_iff (topic : Topic) (bound : ℕ) (events : List Event) :
    topic.start.phase.alive = true ∧
        (relayMachine topic bound).Along (topic.Sound bound) topic.start events ↔
      (∃ w, topic.worker = .ok w) ∧
        (relayMachine topic bound).Along (fun s e => topic.passes s e = true) topic.start
          events := by
  rw [Topic.start]
  cases hworker : topic.worker with
  | error e => simp [Phase.alive]
  | ok w =>
      have hfit : ({ phase := .waiting } : TopicState).Fit :=
        ⟨rfl, TaskQueue.balanced_empty, trivial⟩
      have hruns := @Machine.along_congr_of_guard _ _ _ (relayMachine topic bound)
        (fun _ _ => True) (fun s e => topic.passes s e = true) (topic.Sound bound) TopicState.Fit
        (fun _ _ h _ hpasses => (Topic.step_fit hworker h hpasses).1)
        (fun _ _ h _ => ⟨fun hpasses => ⟨(Topic.step_fit hworker h hpasses).1.alive,
          (Topic.step_fit hworker h hpasses).2⟩, Topic.passes_of_sound hworker⟩)
        { phase := .waiting } events (Machine.along_of_forall _ (fun _ _ _ => trivial) _) hfit
      exact ⟨fun h => ⟨⟨w, rfl⟩, hruns.mpr h.2⟩, fun h => ⟨rfl, hruns.mp h.2⟩⟩

/-- Two clicks on the picture, less than a sixtieth of a second apart; the sink has answered the
first. -/
def sampleClicks : List Event :=
  let query : Members := [("topic", .str "depth_query")]
  let answer : Response := { statusCode := 200, json := .error "JSONDecodeError" }
  [.hook query 0, .take 1000, .answer (.ok answer) 1000, .hook query 10, .take (1000 + 1 / 100)]

/-- The second click is acknowledged twice, which kills the worker. -/
theorem second_click_kills_worker :
    ¬ (depthQuery.start.phase.alive = true ∧
      (relayMachine depthQuery 50).Along (depthQuery.Sound 50) depthQuery.start sampleClicks) := by
  intro h
  have halive := h.2.2.2.2.2.1.1
  revert halive
  decide +kernel

end CameraStack.Relay
