/-
# The worker of a back-channel topic

Messages of browsers reach a topic through a hook, which puts them into the queue of the topic and
makes room by giving up the oldest.  One worker takes them, one at a time, posts them to the sink,
and for some topics passes what the sink answers on.  The worker gives way where it waits: for a
message, for the sink and for the receiver of the answer.  Between these points the hook runs.

What is done about the message in hand is noted in `marks`, by the operations that do it.
-/

import Mathlib.Algebra.Order.Field.Rat
import CameraStack.Bringup.Json
import CameraStack.Lib.Action
import CameraStack.Lib.Machine
import CameraStack.Lib.TaskQueue

namespace CameraStack.Relay

open CameraStack.Lib CameraStack.Bringup

/-! ## Topics -/

/-- A topic as it is configured.  The rate limit is what `float` makes of the configured value,
where a value that is not a number, and one that has no end, limit nothing. -/
structure Topic where
  name : String
  sinkUrl : Option String
  rateLimitHz : Except Raised ℚ := .ok 0
  dedupeTs : Bool := false
  broadcastResponse : Bool := false
  responsePublishUrl : Option String := none
  validateSchema : String := "raw"

/-- `_DEFAULT_TOPICS["depth_query"]`. -/
def depthQuery : Topic where
  name := "depth_query"
  sinkUrl := some "http://127.0.0.1:8000/depth_query"
  rateLimitHz := .ok 60
  broadcastResponse := true
  responsePublishUrl := some "http://127.0.0.1:8900/internal/depth_broadcast"

/-- What the worker reads of its topic before its loop. -/
structure WorkerConfig where
  sinkUrl : String
  dedupeTs : Bool
  broadcastResponse : Bool
  responsePublishUrl : Option String
  minIntervalS : ℚ

/-- The part of `_forward_worker` before the loop. -/
def Topic.worker (topic : Topic) : Except Raised WorkerConfig :=
  match topic.sinkUrl, topic.rateLimitHz with
  | none, _ => .error "KeyError: 'sink_url'"
  | some _, .error e => .error e
  | some url, .ok hz => .ok {
      sinkUrl := url
      dedupeTs := topic.dedupeTs
      broadcastResponse := topic.broadcastResponse
      responsePublishUrl := topic.responsePublishUrl
      minIntervalS := if 0 < hz then 1 / hz else 0 }

/-! ## Messages -/

/-- `_is_ping`. -/
def isPing (payload : Members) : Bool :=
  match payload.lookup "type" with
  | some (.str type) => type = "ping" && (payload.lookup "ts").isSome
  | _ => false

/-- `_detect_topic`. -/
def detectTopic (payload : Members) : String :=
  match payload.lookup "topic" with
  | some (.str explicit) => if explicit = "" then "unknown" else explicit
  | _ => "unknown"

/-- `_validate` of an object. -/
def validate (schema : String) : Bool := schema = "none" || schema = "raw"

/-- `int(payload.get("ts", 0))`. -/
def intTs (payload : Members) : Except Raised ℤ := ((payload.lookup "ts").getD (.int 0)).toInt

/-- The string under `session_id`, if there is one. -/
def sessionOf (payload : Members) : Option String :=
  match payload.lookup "session_id" with
  | some (.str sid) => some sid
  | _ => none

/-- The answer of the sink with the session of the query, which only an object can take. -/
def attach (payload : Members) (reply : Json) : Except Raised Json :=
  match sessionOf payload, reply with
  | none, reply => .ok reply
  | some sid, .obj members => .ok (.obj (setMember "session_id" (.str sid) members))
  | some _, .arr _ => .error "TypeError: list indices must be integers or slices, not str"
  | some _, other =>
      .error ("TypeError: '" ++ other.typeName ++ "' object does not support item assignment")

/-! ## The state -/

/-- `_new_stats()`. -/
structure Stats where
  seen : ℕ := 0
  enqueued : ℕ := 0
  dropped : ℕ := 0
  forwarded : ℕ := 0
  errors : ℕ := 0
  lastTsForwarded : ℤ := 0

/-- What is done about a message in hand: a call of `task_done` that returns or raises, a counter
that goes up, or the finding that it is a duplicate. -/
inductive Mark
  | acked
  | refused
  | dropped
  | forwarded
  | error
  | duplicate
  deriving DecidableEq

/-- Where the worker is. -/
inductive Phase
  | waiting
  | posting (payload : Members)
  | publishing (payload : Members)
  | dead (e : Raised)

/-- What is kept of one topic. -/
structure TopicState where
  queue : TaskQueue Members := {}
  stats : Stats := {}
  lastForwardT : ℚ := 0
  phase : Phase
  marks : List Mark := []

/-- What is seen of the relay: what it posts, what becomes of the messages that the hook gives up,
and what was done about a message when the worker has finished with it. -/
inductive Output
  | sink (url : String) (payload : Members)
  | publish (url : String) (payload : Members) (body : Json)
  | evicted (mark : Mark)
  | finished (marks : List Mark)

/-- `_startup`, for one topic: a worker that fails before its loop is dead. -/
def Topic.start (topic : Topic) : TopicState :=
  match topic.worker with
  | .ok _ => { phase := .waiting }
  | .error e => { phase := .dead e }

/-! ## The operations -/

/-- Steps of the worker between two points where it gives way. -/
abbrev Work (A : Type) := Action Unit TopicState Raised A

/-- Note what is done about the message in hand. -/
def TopicState.note (mark : Mark) (s : TopicState) : TopicState :=
  { s with marks := s.marks ++ [mark] }

/-- `stats[counter] += 1`, for the message in hand. -/
def count (mark : Mark) : Work Unit :=
  Action.modify fun s =>
    let stats :=
      match mark with
      | .dropped => { s.stats with dropped := s.stats.dropped + 1 }
      | .forwarded => { s.stats with forwarded := s.stats.forwarded + 1 }
      | .error => { s.stats with errors := s.stats.errors + 1 }
      | .acked | .refused | .duplicate => s.stats
    { s with stats := stats }.note mark

/-- `queue.task_done()`, for the message in hand. -/
def taskDone : Work Unit := fun _ s =>
  match s.queue.taskDone with
  | some queue => (.ok (), { s with queue := queue }.note .acked)
  | none => (.error "ValueError: task_done() called too many times", s.note .refused)

/-- On overflow the hook gives up the oldest message. -/
def TopicState.makeRoom (bound : ℕ) (s : TopicState) : TopicState × List Output :=
  if s.queue.full bound then
    let s := { s with stats.dropped := s.stats.dropped + 1 }
    match s.queue.getNowait with
    | none => (s, [])
    | some (_, queue) =>
        match queue.taskDone with
        | some queue => ({ s with queue := queue }, [.evicted .acked])
        | none => ({ s with queue := queue }, [.evicted .refused])
  else (s, [])

/-- The hook puts a message into the queue. -/
def TopicState.enqueue (bound : ℕ) (inner : Members) (s : TopicState) : TopicState :=
  match s.queue.putNowait bound inner with
  | some queue => { s with queue := queue, stats.enqueued := s.stats.enqueued + 1 }
  | none => { s with stats.dropped := s.stats.dropped + 1 }

/-- `textroom_hook`, from a message that was parsed on, for one topic. -/
def Topic.hook (topic : Topic) (bound : ℕ) (inner : Members) (rxMs : ℤ) (s : TopicState) :
    TopicState × List Output :=
  let inner := setMember "relay_rx_ms" (.int rxMs) inner
  if isPing inner || detectTopic inner ≠ topic.name then (s, [])
  else
    let s := { s with stats.seen := s.stats.seen + 1 }
    if validate topic.validateSchema then
      let (s, outputs) := s.makeRoom bound
      (s.enqueue bound inner, outputs)
    else ({ s with stats.dropped := s.stats.dropped + 1 }, [])

/-! ## The worker -/

/-- The message comes too soon after the last one that was forwarded. -/
def WorkerConfig.limited (w : WorkerConfig) (s : TopicState) (now : ℚ) : Bool :=
  decide (0 < w.minIntervalS ∧ now - s.lastForwardT < w.minIntervalS)

/-- The message is not newer than the last one that was forwarded. -/
def WorkerConfig.duplicate (w : WorkerConfig) (s : TopicState) (payload : Members) : Bool :=
  w.dedupeTs &&
    match intTs payload with
    | .ok ts => decide (ts ≤ s.stats.lastTsForwarded)
    | .error _ => false

/-- What the worker does with a message before it posts; `false` where it continues with the next
message. -/
def WorkerConfig.screen (w : WorkerConfig) (now : ℚ) (payload : Members) : Work Bool := do
  let s ← Action.get
  if w.limited s now then
    count .dropped
    taskDone
    return false
  else if w.dedupeTs then
    match intTs payload with
    | .error e => Action.halt e
    | .ok ts =>
        if ts ≤ s.stats.lastTsForwarded then
          Action.modify (TopicState.note .duplicate)
          taskDone
          return false
        else return true
  else return true

/-- `finally`: the worker goes on with the next message, or dies. -/
def TopicState.finish (s : TopicState) : TopicState × List Output :=
  match taskDone () s with
  | (.ok _, s') => ({ s' with phase := .waiting }, [.finished s'.marks])
  | (.error e, s') => ({ s' with phase := .dead e }, [.finished s'.marks])

/-- `except Exception`, and `finally`. -/
def TopicState.fail (s : TopicState) : TopicState × List Output := (count .error () s).2.finish

/-- The worker takes the next message. -/
def WorkerConfig.take (w : WorkerConfig) (now : ℚ) (s : TopicState) : TopicState × List Output :=
  match s.phase, s.queue.getNowait with
  | .waiting, some (payload, queue) =>
      match w.screen now payload () { s with queue := queue, marks := [] } with
      | (.ok true, s') => ({ s' with phase := .posting payload }, [.sink w.sinkUrl payload])
      | (.ok false, s') => s'.finish
      | (.error _, s') => s'.fail
  | _, _ => (s, [])

/-- An answer of the sink: its status, and what `resp.json()` makes of its body. -/
structure Response where
  statusCode : ℕ
  json : Except Raised Json

/-- What is passed on of an answer of the sink. -/
def WorkerConfig.reply (w : WorkerConfig) (payload : Members) (resp : Response) :
    Option (String × Json) :=
  match w.broadcastResponse, w.responsePublishUrl with
  | true, some url =>
      match resp.json with
      | .ok reply =>
          match attach payload reply with
          | .ok body => some (url, body)
          | .error _ => none
      | .error _ => none
  | _, _ => none

/-- What the worker notes when the sink has accepted a message. -/
def WorkerConfig.forwarded (w : WorkerConfig) (now : ℚ) (payload : Members) : Work Unit := do
  if w.dedupeTs then
    match intTs payload with
    | .error e => Action.halt e
    | .ok ts => Action.modify fun s => { s with stats.lastTsForwarded := ts }
  count .forwarded
  Action.modify fun s => { s with lastForwardT := now }

/-- The post to the sink comes back, or raises. -/
def WorkerConfig.answer (w : WorkerConfig) (now : ℚ) (result : Except Raised Response)
    (s : TopicState) : TopicState × List Output :=
  match s.phase with
  | .posting payload =>
      match result with
      | .error _ => s.fail
      | .ok resp =>
          if resp.statusCode = 200 then
            match w.forwarded now payload () s with
            | (.ok _, s') =>
                match w.reply payload resp with
                | some (url, body) =>
                    ({ s' with phase := .publishing payload }, [.publish url payload body])
                | none => s'.finish
            | (.error _, s') => s'.fail
          else (count .error () s).2.finish
  | _ => (s, [])

/-- The post to the receiver of the answer comes back, or raises; either is only logged. -/
def TopicState.published (s : TopicState) : TopicState × List Output :=
  match s.phase with
  | .publishing _ => s.finish
  | _ => (s, [])

/-! ## Runs -/

/-- What happens to a topic.  The clock is what it is read to be. -/
inductive Event
  | hook (inner : Members) (rxMs : ℤ)
  | take (now : ℚ)
  | answer (result : Except Raised Response) (now : ℚ)
  | published

/-- One topic, event by event; a worker that failed before its loop does nothing. -/
def relayMachine (topic : Topic) (bound : ℕ) : Machine TopicState Event Output where
  step s
    | .hook inner rxMs => topic.hook bound inner rxMs s
    | .take now =>
        match topic.worker with
        | .ok w => w.take now s
        | .error _ => (s, [])
    | .answer result now =>
        match topic.worker with
        | .ok w => w.answer now result s
        | .error _ => (s, [])
    | .published => s.published

/-! ## What is posted -/

/-- Something goes out of the relay. -/
def Output.isPost : Output → Bool
  | .sink .. | .publish .. => true
  | .evicted _ | .finished _ => false

section Posts

variable {topic : Topic} {bound : ℕ} {w : WorkerConfig} {now : ℚ} {s : TopicState} {url : String}
variable {payload : Members} {body : Json}

theorem TopicState.quiet_finish (s : TopicState) : ∀ o ∈ s.finish.2, o.isPost = false := by
  rw [finish]
  split
  · exact List.forall_mem_singleton.mpr rfl
  · exact List.forall_mem_singleton.mpr rfl

theorem TopicState.quiet_makeRoom : ∀ o ∈ (s.makeRoom bound).2, o.isPost = false := by
  rw [makeRoom]
  dsimp only
  split_ifs
  · cases s.queue.getNowait with
    | none => exact List.forall_mem_nil _
    | some taken =>
        dsimp only
        split
        · exact List.forall_mem_singleton.mpr rfl
        · exact List.forall_mem_singleton.mpr rfl
  · exact List.forall_mem_nil _

/-- The hook posts nothing. -/
theorem Topic.quiet_hook (inner : Members) (rxMs : ℤ) :
    ∀ o ∈ (topic.hook bound inner rxMs s).2, o.isPost = false := by
  rw [hook]
  split_ifs
  · exact List.forall_mem_nil _
  · exact TopicState.quiet_makeRoom
  · exact List.forall_mem_nil _

/-- Behind the answer to what the worker passed on nothing is posted. -/
theorem TopicState.quiet_published : ∀ o ∈ s.published.2, o.isPost = false := by
  rw [published]
  split
  · exact quiet_finish _
  · exact List.forall_mem_nil _

theorem WorkerConfig.not_publish_take : .publish url payload body ∉ (w.take now s).2 := by
  intro h
  rw [take] at h
  split at h
  · split at h
    · cases List.mem_singleton.mp h
    · cases TopicState.quiet_finish _ _ h
    · cases TopicState.quiet_finish _ _ h
  · cases h

theorem WorkerConfig.reply_eq_some {resp : Response} (h : w.reply payload resp = some (url, body)) :
    ∃ reply, attach payload reply = .ok body := by
  rw [reply] at h
  split at h
  · split at h
    · next reply _ =>
      split at h
      · next hattach =>
        cases h
        exact ⟨reply, hattach⟩
      · cases h
    · cases h
  · cases h

/-- What the worker passes on is an answer of the sink with the session of the message. -/
theorem WorkerConfig.publish_answer {result : Except Raised Response}
    (h : .publish url payload body ∈ (w.answer now result s).2) :
    ∃ reply, attach payload reply = .ok body := by
  rw [answer] at h
  split at h
  · split at h
    · cases TopicState.quiet_finish _ _ h
    · split_ifs at h
      · split at h
        · split at h
          · next hreply =>
            cases List.mem_singleton.mp h
            exact reply_eq_some hreply
          · cases TopicState.quiet_finish _ _ h
        · cases TopicState.quiet_finish _ _ h
      · cases TopicState.quiet_finish _ _ h
  · cases h

/-- Nothing else is passed on. -/
theorem publish_attached {e : Event}
    (h : .publish url payload body ∈ (relayMachine topic bound).emits s e) :
    ∃ reply, attach payload reply = .ok body := by
  rw [Machine.emits, relayMachine] at h
  cases e with
  | hook inner rxMs => cases Topic.quiet_hook inner rxMs _ h
  | take now =>
      dsimp only at h
      split at h
      · exact absurd h WorkerConfig.not_publish_take
      · cases h
  | answer result now =>
      dsimp only at h
      split at h
      · exact WorkerConfig.publish_answer h
      · cases h
  | published => cases TopicState.quiet_published _ h

end Posts

end CameraStack.Relay
