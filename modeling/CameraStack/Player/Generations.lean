/-
# The generations of the player

The controller drops the events of another session generation by the token they bring along, and
the adapter drops the callbacks of another handle.  But the token is read when an event is
emitted, and the handle is not replaced when the player is stopped and plays again: what Janus
says late of the first watch then comes with the token of the second.

The player here is the controller over the adapter.  Every event that Janus produces for a watch
names the watch, and with every event that the controller processes the generation is noted in
which the watch was called.
-/

import CameraStack.Player.StreamingSteps
import CameraStack.Player.StreamingIo

namespace CameraStack.Player

open CameraStack.Lib

/-! ## Events of the stream begin no generation -/

/-- An intent to play. -/
def PlayerEvent.starts : PlayerEvent → Prop
  | .playRequest | .reset => True
  | _ => False

theorem not_starts_forceError (reason : Option String) : ¬ (PlayerEvent.forceError reason).starts :=
  not_false

/-- Without an intent to play, the player stays in its generation or fails. -/
theorem transition_generation {event : PlayerEvent} (snap : Snapshot) (h : ¬ event.starts) :
    (transition event snap).next.state = .error ∨
      snap.state ≠ .error ∧ (transition event snap).next.generation = snap.generation := by
  have hcommon : snap.state ≠ .error → (activeCommon event snap).next.state = .error ∨
      snap.state ≠ .error ∧ (activeCommon event snap).next.generation = snap.generation := by
    intro hactive
    unfold activeCommon handleActiveCommon
    split
    all_goals exact .inr ⟨hactive, rfl⟩
  unfold transition
  split
  · exact .inl rfl
  · split
    case h_1 =>
      split
      · exact absurd trivial h
      · exact .inl rfl
    case h_2 hstate =>
      have hactive : snap.state ≠ .error := by
        rw [hstate]
        exact PlayerState.noConfusion
      split
      case h_7 => exact hcommon hactive
      all_goals exact .inr ⟨hactive, rfl⟩
    case h_3 hstate =>
      have hactive : snap.state ≠ .error := by
        rw [hstate]
        exact PlayerState.noConfusion
      split
      case h_9 => exact hcommon hactive
      all_goals exact .inr ⟨hactive, rfl⟩
    case h_4 hstate =>
      have hactive : snap.state ≠ .error := by
        rw [hstate]
        exact PlayerState.noConfusion
      split
      case h_8 => exact hcommon hactive
      all_goals exact .inr ⟨hactive, rfl⟩
    case h_5 =>
      split
      · exact absurd trivial h
      · exact absurd trivial h
      · exact .inl rfl

theorem gatedTransition_generation {event : PlayerEvent} (snap : Snapshot) (h : ¬ event.starts) :
    (gatedTransition event snap).next.state = .error ∨
      snap.state ≠ .error ∧ (gatedTransition event snap).next.generation = snap.generation := by
  unfold gatedTransition
  simp only
  split
  · exact transition_generation snap h
  · exact .inl rfl

namespace Controller

/-- `_onStreamEvent` reads events of the stream. -/
def listens (p : Controller) : Bool :=
  p.desiredPlaying || decide (p.state = .connecting) || decide (p.state = .reconnecting)

/-- The generation whose events it processes. -/
def hears (p : Controller) : Option ℕ := if p.listens then some p.sessionToken else none

/-- The player is in this generation, or has failed. -/
def Stays (t : ℕ) (p : Controller) : Prop :=
  p.sessionToken = t ∨ p.state = .error ∧ p.desiredPlaying = false

section Stays

variable {cfg : PlayerConfig} {env : Surroundings} {p q : Controller} {t : ℕ}

theorem Stays.of_frame (h : p.Stays t) (hstate : q.state = p.state)
    (htoken : q.sessionToken = p.sessionToken)
    (hdesired : p.desiredPlaying = false → q.desiredPlaying = false) : q.Stays t := by
  rcases h with hsame | ⟨herror, hundesired⟩
  · exact .inl (htoken.trans hsame)
  · exact .inr ⟨hstate.trans herror, hdesired hundesired⟩

theorem Stays.undesired (h : p.Stays t) : Stays t { p with desiredPlaying := false } :=
  h.of_frame rfl rfl fun _ => rfl

variable (cfg env)

section Actions

variable {fail : Controller → Controller}

theorem Stays.perform (hfail : ∀ {q : Controller}, q.Stays t → (fail q).Stays t) (h : p.Stays t)
    (a : PlayerAction) : (p.perform cfg env fail a).Stays t := by
  cases a with
  | startJanus =>
      rw [Controller.perform, runConnectFlow]
      split_ifs
      · exact h
      · exact h.of_frame rfl rfl id
  | startReconnectTimer reason severity =>
      rw [Controller.perform]
      have hrequest : ∀ s : Coordinator, Stays t { p with reconnect := s } :=
        fun _ => h.of_frame rfl rfl id
      rcases p.reconnect.request_signals cfg.toConfig (p.context cfg env)
          (reasonOr reason "unknown") (severity.getD 1) with hnone | ⟨pending, hend⟩
      · rw [hnone]
        exact hrequest _
      · rw [hend]
        exact hfail (hrequest _)
  | armTrackMuteTimer trackId =>
      rw [Controller.perform]
      split_ifs
      · exact h
      · exact h.of_frame rfl rfl id
  | startReconnectSettle =>
      rw [Controller.perform]
      split_ifs
      · exact h.of_frame rfl rfl id
      · exact h
  | stopJanus | stopStreaming | log | render | cancelAllTimers | armIceGrace | cancelIceGrace
  | disarmTrackMuteTimer | markDegraded | bindStream => exact h.of_frame rfl rfl id

theorem Stays.executeActions (hfail : ∀ {q : Controller}, q.Stays t → (fail q).Stays t)
    (next : PlayerState) (actions : List PlayerAction) (h : p.Stays t) :
    (executeActions cfg env fail next actions p).Stays t := by
  induction actions generalizing p with
  | nil => exact h
  | cons a rest ih =>
      have htail : Stays t { p with throws := p.throws.tail } := h.of_frame rfl rfl id
      rw [Controller.executeActions]
      split_ifs
      · exact hfail htail
      · exact ih htail
      · exact ih (htail.perform cfg env hfail a)

/-- The state that an event leads to is of the same generation, or is ERROR. -/
theorem Stays.applySnapshot (h : p.Stays t) {event : PlayerEvent} (hstarts : ¬ event.starts) :
    ((p.record event (gatedTransition event p.snapshot).next.state).applySnapshot cfg
      (gatedTransition event p.snapshot).next).Stays t := by
  have herror : (gatedTransition event p.snapshot).next.state = .error →
      ((p.record event (gatedTransition event p.snapshot).next.state).applySnapshot cfg
        (gatedTransition event p.snapshot).next).Stays t := by
    intro hstate
    refine .inr ⟨by rw [applySnapshot_state, hstate], ?_⟩
    rw [applySnapshot_desired, if_pos hstate]
  rcases gatedTransition_generation p.snapshot hstarts with hstate | ⟨hactive, hgeneration⟩
  · exact herror hstate
  · rcases h with hsame | ⟨hstate, -⟩
    · refine .inl ?_
      rw [applySnapshot_token, hgeneration]
      exact hsame
    · exact absurd hstate hactive

end Actions

/-- However deep it nests, an event other than an intent to play begins no generation. -/
theorem Stays.handleEventNested {event : PlayerEvent} (hstarts : ¬ event.starts) (depth : ℕ)
    (generation : Option ℕ) (h : p.Stays t) :
    (handleEventNested cfg env depth event generation p).Stays t := by
  induction depth generalizing event generation p with
  | zero => exact h
  | succ depth ih =>
      rw [Controller.handleEventNested]
      split_ifs
      · exact h
      · have hfail : ∀ {q : Controller}, q.Stays t → (Controller.handleEventNested cfg env depth
            (.forceError none) (some q.sessionToken) { q with desiredPlaying := false }).Stays t :=
          fun hq => ih (not_starts_forceError none) _ hq.undesired
        have hacted := (h.applySnapshot cfg hstarts).executeActions cfg env hfail
          (gatedTransition event p.snapshot).next.state (gatedTransition event p.snapshot).actions
        simp only
        split_ifs
        · exact hacted.of_frame rfl rfl id
        · exact hacted

theorem Stays.handleEvent {event : PlayerEvent} (hstarts : ¬ event.starts)
    (generation : Option ℕ) (h : p.Stays t) : (p.handleEvent cfg env event generation).Stays t :=
  h.handleEventNested cfg env hstarts _ _

theorem Stays.dispatch {event : PlayerEvent} (hstarts : ¬ event.starts) (h : p.Stays t) :
    (p.dispatch cfg env event).Stays t :=
  h.handleEvent cfg env hstarts _

theorem Stays.fail (h : p.Stays t) : (p.fail cfg env).Stays t :=
  h.undesired.handleEvent cfg env (not_starts_forceError none) _

theorem Stays.executeRecoveryAttempt (h : p.Stays t) (ctx : AttemptContext) :
    (p.executeRecoveryAttempt cfg env ctx).Stays t := by
  rw [Controller.executeRecoveryAttempt]
  have hstarts : ¬ PlayerEvent.recoveryAttemptStarted.starts := not_false
  have hstarted : (p.handleEvent cfg env .recoveryAttemptStarted (some ctx.token)).Stays t :=
    h.handleEvent cfg env hstarts _
  simp only
  split_ifs
  · exact h
  · split
    all_goals exact hstarted.of_frame rfl rfl id
  · split
    all_goals exact hstarted.of_frame rfl rfl id

theorem Stays.signal (h : p.Stays t) (o : Signal) : (p.signal cfg env o).Stays t := by
  cases o with
  | onSuccess =>
      have hsettled : Stays t { p with degraded := false } := h.of_frame rfl rfl id
      exact hsettled.dispatch cfg env not_false
  | onExhausted => exact h.fail cfg env
  | executeAttempt ctx => exact h.executeRecoveryAttempt cfg env ctx
  | zeroed => exact h

theorem Stays.reconnectEvent (h : p.Stays t) (event : CoordinatorEvent) :
    (p.reconnectEvent cfg env event).Stays t := by
  rw [Controller.reconnectEvent, Controller.callReconnect]
  have hchanged : ∀ s : Coordinator, Stays t { p with reconnect := s } :=
    fun _ => h.of_frame rfl rfl id
  generalize p.reconnect.handle cfg.toConfig (p.context cfg env) event = result
  have hbegun := hchanged result.1
  generalize ({ p with reconnect := result.1 } : Controller) = q at hbegun
  induction result.2 generalizing q with
  | nil => exact hbegun
  | cons o rest ih => exact ih _ (hbegun.signal cfg env o)

theorem Stays.tryNotifyRecovered (h : p.Stays t) : (p.tryNotifyRecovered cfg env).Stays t := by
  rw [Controller.tryNotifyRecovered]
  split_ifs
  · exact h
  · exact h
  · exact h.reconnectEvent cfg env _

theorem Stays.handleStreamFailure (h : p.Stays t) (reason : String) (severity : ℕ) :
    (p.handleStreamFailure cfg env reason severity).Stays t := by
  rw [Controller.handleStreamFailure, Controller.requestRecovery]
  split_ifs
  · exact h.reconnectEvent cfg env _
  · exact h
  · exact h
  · exact h
  · exact h.dispatch cfg env not_false

theorem Stays.applyPolicy (h : p.Stays t) (event : DomainEvent) :
    (p.applyPolicy cfg env event).Stays t := by
  rw [Controller.applyPolicy]
  generalize decidePolicy event _ = decision
  cases decision with
  | noOp => exact h
  | markDegraded => exact h.dispatch cfg env not_false
  | requestRecovery reason severity => exact h.handleStreamFailure cfg env reason severity

theorem Stays.report {event : PlayerEvent} (hstarts : ¬ event.starts) (h : p.Stays t) :
    (p.report cfg env event).Stays t := by
  rw [Controller.report]
  split_ifs
  · exact h.dispatch cfg env hstarts
  · exact h

theorem Stays.onStreamEvent (h : p.Stays t) (token : Option ℕ) (event : StreamEvent) :
    (p.onStreamEvent cfg env token event).Stays t := by
  unfold Controller.onStreamEvent
  split
  · exact h
  split
  · exact h
  · cases event with
    | iceState state =>
        simp only
        split_ifs
        · exact h.report cfg env not_false
        · exact h.report cfg env not_false
    | webrtcState up reason =>
        have hreported : (if up = true ∨ p.state ≠ .playing then
            p.report cfg env (.webrtcReport up) else p).Stays t := by
          split_ifs
          · exact h.report cfg env not_false
          · exact h
        cases up with
        | true => exact hreported.tryNotifyRecovered cfg env
        | false => exact hreported.applyPolicy cfg env _
    | hangup | trackEnded => exact h.applyPolicy cfg env _
    | track on =>
        cases on with
        | true => exact h.report cfg env not_false
        | false => exact h
    | trackMuted | trackUnmuted => exact h.report cfg env not_false
    | sessionReset =>
        simp only
        split_ifs
        · exact h.reconnectEvent cfg env _
        · have hreported : (p.report cfg env (.webrtcReport false)).Stays t :=
            h.report cfg env not_false
          exact hreported.applyPolicy cfg env _
    | error code message =>
        simp only
        split_ifs
        · exact h.handleStreamFailure cfg env _ _
        · exact h.applyPolicy cfg env _
    | streamingOfferReceived => exact h.report cfg env not_false
    | other => exact h

/-- An event of the stream does not make the controller listen to another generation. -/
theorem onStreamEvent_hears (event : StreamEvent) :
    (p.onStreamEvent cfg env (some p.sessionToken) event).hears = none ∨
      (p.onStreamEvent cfg env (some p.sessionToken) event).hears = p.hears := by
  by_cases hlistens : p.listens = true
  · have hstays : p.Stays p.sessionToken := .inl rfl
    have hnext := hstays.onStreamEvent cfg env (some p.sessionToken) event
    generalize p.onStreamEvent cfg env (some p.sessionToken) event = q at hnext
    by_cases hstill : q.listens = true
    · refine .inr ?_
      rw [hears, hears, if_pos hstill, if_pos hlistens]
      rcases hnext with hsame | ⟨herror, hundesired⟩
      · rw [hsame]
      · rw [listens, herror, hundesired] at hstill
        cases hstill
    · exact .inl (if_neg hstill)
  · have hdropped : p.onStreamEvent cfg env (some p.sessionToken) event = p := by
      unfold Controller.onStreamEvent
      split
      · rfl
      · rw [if_pos]
        simpa [listens, and_assoc] using hlistens
    rw [hdropped]
    exact .inr rfl

end Stays

end Controller

/-! ## The controller over the adapter -/

/-- A watch request that was sent: the generation of its handle, the session generation in which
the watch was called, and whether Janus has answered the request. -/
structure SentWatch where
  gen : ℕ
  token : ℕ
  answered : Bool := false
  deriving DecidableEq

/-- The controller and the adapter, with the session generation in which each operation was called
and the watch requests that were sent. -/
structure LivePlayer where
  controller : Controller := {}
  adapter : StreamingAdapter := {}
  calls : List ℕ := []
  sent : List SentWatch := []
  deriving DecidableEq

/-- An event of the stream that the controller processed: the generation in which the watch was
called that Janus produced it for, if it did, and the generation that it was processed in. -/
structure Processed where
  origin : Option ℕ
  generation : ℕ
  deriving DecidableEq

/-- What happens to the player: a turn of the controller, a call of the adapter or an event that
Janus produces for no watch, a callback that Janus produces for a watch, and its answer to the
request of a watch. -/
inductive PlayerHappening
  | turn (env : Surroundings) (input : PlayerInput)
  | adapter (env : Surroundings) (event : AdapterEvent)
  | janus (env : Surroundings) (watch : ℕ) (callback : Callback)
  | answer (env : Surroundings) (watch : ℕ) (refusal : Option (Option ℕ × String))

/-- The event sink: the token is that of the controller when the event is emitted. -/
def Controller.sink (cfg : PlayerConfig) (env : Surroundings) (origin : Option ℕ) :
    List Controller.StreamEvent → Controller → Controller × List Processed
  | [], p => (p, [])
  | event :: rest, p =>
      let result := sink cfg env origin rest (p.onStreamEvent cfg env (some p.sessionToken) event)
      (result.1,
        (p.hears.toList.map fun g => { origin := origin, generation := g }) ++ result.2)

namespace LivePlayer

variable (cfg : PlayerConfig)

/-- A watch whose body begins sends its request on the current handle. -/
def noteSent (s : LivePlayer) (event : AdapterEvent) (adapter : StreamingAdapter) : List SentWatch :=
  match event, s.adapter.handle with
  | .start op false, some handle =>
      if s.adapter.watches.length < adapter.watches.length then
        s.sent ++ [{ gen := handle.gen, token := (s.calls[op]?).getD 0 }]
      else s.sent
  | _, _ => s.sent

/-- The adapter takes an event, and the controller what it emits. -/
def feed (env : Surroundings) (origin : Option ℕ) (event : AdapterEvent) (s : LivePlayer) :
    LivePlayer × List Processed :=
  let adapter := adapterMachine.next s.adapter event
  let result := Controller.sink cfg env origin (adapterMachine.emits s.adapter event)
    { s.controller with throws := env.throws }
  ({  controller := result.1
      adapter := adapter
      calls := s.calls ++ List.replicate (adapter.ops.length - s.adapter.ops.length)
        s.controller.sessionToken
      sent := s.noteSent event adapter }, result.2)

/-- A turn of the controller; the events of the stream come from the adapter. -/
def turn (env : Surroundings) (input : PlayerInput) (s : LivePlayer) : LivePlayer × List Processed :=
  match input with
  | .streamEvent .. => (s, [])
  | input => ({ s with controller := (playerMachine cfg).next s.controller (env, input) }, [])

/-- Janus produces a callback for a watch. -/
def onJanus (env : Surroundings) (watch : ℕ) (callback : Callback) (s : LivePlayer) :
    LivePlayer × List Processed :=
  match s.sent[watch]? with
  | some w => s.feed cfg env (some w.token) (.callback w.gen callback)
  | none => (s, [])

/-- Janus answers the request of a watch: the library calls one of its callbacks, once. -/
def onAnswer (env : Surroundings) (watch : ℕ) (refusal : Option (Option ℕ × String)) (s : LivePlayer) :
    LivePlayer × List Processed :=
  match s.sent[watch]? with
  | some w =>
      if w.answered then (s, [])
      else
        let s := { s with sent := s.sent.modify watch fun w => { w with answered := true } }
        match refusal with
        | some (code, message) => s.feed cfg env (some w.token) (.watchError code message)
        | none => (s, [])
  | none => (s, [])

end LivePlayer

/-- The player, with what the controller processes. -/
def streamingPlayer (cfg : PlayerConfig) : Machine LivePlayer PlayerHappening Processed where
  step s
    | .turn env input => s.turn cfg env input
    | .adapter env event => s.feed cfg env none event
    | .janus env watch callback => s.onJanus cfg env watch callback
    | .answer env watch refusal => s.onAnswer cfg env watch refusal

namespace LivePlayer

/-! ## Clean starts -/

/-- Nothing is left of the watches: none waits for its turn, Janus has answered every request,
and the handles they were sent on are gone. -/
def Clean (s : LivePlayer) : Prop :=
  (∀ o ∈ s.adapter.ops, o.operation.isWatch = true → o.status ≠ .waiting) ∧
    ∀ w ∈ s.sent, w.gen ≠ s.adapter.handleGen ∧ w.answered = true

instance (s : LivePlayer) : Decidable s.Clean := inferInstanceAs (Decidable (_ ∧ _))

/-- Where the controller begins to listen to another generation, nothing is left of the earlier
ones. -/
def StartsClean (cfg : PlayerConfig) (s : LivePlayer) (e : PlayerHappening) : Prop :=
  ((streamingPlayer cfg).next s e).controller.hears ≠ none →
    ((streamingPlayer cfg).next s e).controller.hears ≠ s.controller.hears → s.Clean

instance (cfg : PlayerConfig) (s : LivePlayer) (e : PlayerHappening) :
    Decidable (StartsClean cfg s e) :=
  inferInstanceAs (Decidable (_ → _ → _))

/-- What may still bring along an event of a watch belongs to the generation that the controller
listens to: the watches that wait, the requests without an answer, and those on the handle. -/
structure Own (s : LivePlayer) : Prop where
  calls : s.calls.length = s.adapter.ops.length
  waiting : ∀ (op : ℕ) (o : Op), s.adapter.ops[op]? = some o → o.operation.isWatch = true →
    o.status = .waiting → ∀ g, s.controller.hears = some g → s.calls[op]? = some g
  sent : ∀ w ∈ s.sent, w.gen = s.adapter.handleGen ∨ w.answered = false →
    ∀ g, s.controller.hears = some g → w.token = g
  older : ∀ w ∈ s.sent, w.gen ≤ s.adapter.handleGen
  handle : ∀ handle, s.adapter.handle = some handle → handle.gen ≤ s.adapter.handleGen

section Adapter

variable {a a' : StreamingAdapter} {e : AdapterEvent}

/-- The generation of the handle only grows. -/
theorem handleGen_le (h : StreamingAdapter.Step a e a') : a.handleGen ≤ a'.handleGen := by
  cases h with
  | idle | settles | ends | attached => exact le_refl _
  | attaches => exact Nat.le_succ _
  | call operation =>
      cases operation with
      | init | listStreams | watch | detach => exact le_refl _
      | stop =>
          rw [StreamingAdapter.call]
          simp only
          split_ifs
          · exact le_refl _
          · exact le_refl _
      | recreate =>
          obtain ⟨watches, -, hwatch⟩ := StreamingAdapter.settleWatch_eq a
          rw [StreamingAdapter.call, hwatch]
          exact le_refl _
  | body _ op o _ ho hready hrun hbody =>
      cases hbody with
      | waits | goes | watches => exact le_refl _
      | ensures =>
          obtain ⟨ensure, ensures, promise, hensure, -⟩ := StreamingAdapter.ensure_cases a op
          rw [hensure]
          exact le_refl _
      | detaches =>
          obtain ⟨old, cleanups, resolve, gen, hdetach, hle⟩ :=
            StreamingAdapter.detachHandle_cases a op
          rw [hdetach]
          exact hle
  | session =>
      rcases StreamingAdapter.onSession_cases a with ⟨-, hsession⟩ | ⟨-, cleanups, hsession⟩
      · rw [hsession]
      · rw [hsession]
        exact Nat.le_succ _

/-- A handle is set where its generation is current. -/
theorem handle_next (h : StreamingAdapter.Step a e a') :
    a'.handle = a.handle ∨ a'.handle = none ∨
      ∃ handle, a'.handle = some handle ∧ handle.gen = a'.handleGen := by
  cases h with
  | idle | settles | ends | attaches => exact .inl rfl
  | call operation => exact .inl (StreamingAdapter.call_handle operation)
  | body _ op o _ ho hready hrun hbody =>
      exact (StreamingAdapter.body_handle hbody).imp_right .inl
  | attached ensure r handle hr hstage hgen => exact .inr (.inr ⟨handle, rfl, hgen⟩)
  | session =>
      rcases StreamingAdapter.onSession_cases a with ⟨-, hsession⟩ | ⟨-, cleanups, hsession⟩
      · rw [hsession]
        exact .inl rfl
      · rw [hsession]
        exact .inr (.inl rfl)

/-- Only a watch that waits begins to watch. -/
theorem start_watches {op : ℕ} {throws : Bool}
    (h : a.watches.length < (a.start op throws).watches.length) :
    ∃ o, a.ops[op]? = some o ∧ o.operation.isWatch = true ∧ o.status = .waiting := by
  rw [StreamingAdapter.start] at h
  cases ho : a.ops[op]? with
  | none =>
      rw [ho] at h
      exact absurd h (lt_irrefl _)
  | some o =>
      rw [ho] at h
      simp only at h
      split_ifs at h with hready
      · refine ⟨o, rfl, ?_, hready.1⟩
        have hbody := @StreamingAdapter.bodyStep_begin a op o throws hready.1
        generalize a.begin op o throws = b at hbody h
        cases hbody with
        | waits | goes => exact absurd h (lt_irrefl _)
        | watches watches pending hkeeps hwaiting hwatch => exact hwatch
        | ensures =>
            obtain ⟨ensure, ensures, promise, hensure, -⟩ := StreamingAdapter.ensure_cases a op
            rw [hensure] at h
            exact absurd h (lt_irrefl _)
        | detaches =>
            obtain ⟨old, cleanups, resolve, gen, hdetach, -⟩ :=
              StreamingAdapter.detachHandle_cases a op
            rw [hdetach] at h
            exact absurd h (lt_irrefl _)
      · exact absurd h (lt_irrefl _)

end Adapter

/-! ## Clean starts keep the generations apart -/

section Sink

variable {cfg : PlayerConfig} {env : Surroundings} {origin : Option ℕ}

/-- The sink goes on listening to the same generation, or stops. -/
theorem sink_hears (events : List Controller.StreamEvent) (p : Controller) :
    (Controller.sink cfg env origin events p).1.hears = none ∨
      (Controller.sink cfg env origin events p).1.hears = p.hears := by
  induction events generalizing p with
  | nil => exact .inr rfl
  | cons event rest ih =>
      rcases ih (p.onStreamEvent cfg env (some p.sessionToken) event) with hnone | hsame
      · exact .inl hnone
      · rcases Controller.onStreamEvent_hears (p := p) cfg env event with hnone | hstill
        · exact .inl (hsame.trans hnone)
        · exact .inr (hsame.trans hstill)

/-- What the sink processes is of the generation that the controller listens to. -/
theorem sink_processed (events : List Controller.StreamEvent) (p : Controller) :
    ∀ o ∈ (Controller.sink cfg env origin events p).2,
      o.origin = origin ∧ p.hears = some o.generation := by
  induction events generalizing p with
  | nil => exact fun o ho => absurd ho List.not_mem_nil
  | cons event rest ih =>
      intro o ho
      rw [Controller.sink] at ho
      rcases List.mem_append.mp ho with hfirst | hlater
      · obtain ⟨g, hg, rfl⟩ := List.mem_map.mp hfirst
        exact ⟨rfl, Option.mem_toList.mp hg⟩
      · obtain ⟨horigin, hhears⟩ := ih _ o hlater
        refine ⟨horigin, ?_⟩
        rcases Controller.onStreamEvent_hears (p := p) cfg env event with hnone | hstill
        · rw [hnone] at hhears
          cases hhears
        · exact hstill.symm.trans hhears

end Sink

section Own

variable {cfg : PlayerConfig} {s : LivePlayer}

theorem feed_hears (env : Surroundings) (origin : Option ℕ) (event : AdapterEvent) :
    (s.feed cfg env origin event).1.controller.hears = none ∨
      (s.feed cfg env origin event).1.controller.hears = s.controller.hears :=
  sink_hears _ _

theorem feed_processed (env : Surroundings) (origin : Option ℕ) (event : AdapterEvent) :
    ∀ o ∈ (s.feed cfg env origin event).2,
      o.origin = origin ∧ s.controller.hears = some o.generation :=
  sink_processed _ _

/-- The watches that wait behind an event waited before it, or are of the call. -/
theorem waiting_feed (h : s.Own) (env : Surroundings) (origin : Option ℕ) (event : AdapterEvent)
    {op : ℕ} {o : Op} (ho : (s.feed cfg env origin event).1.adapter.ops[op]? = some o)
    (hwatch : o.operation.isWatch = true) (hwaiting : o.status = .waiting) {g : ℕ}
    (hg : s.controller.hears = some g) :
    (s.feed cfg env origin event).1.calls[op]? = some g := by
  have hcurrent : s.controller.sessionToken = g := by
    rw [Controller.hears] at hg
    split_ifs at hg
    exact Option.some.inj hg
  have hold : ∀ {o : Op}, s.adapter.ops[op]? = some o → o.operation.isWatch = true →
      o.status = .waiting → (s.feed cfg env origin event).1.calls[op]? = some g := by
    intro o ho hwatch hwaiting
    have hcall := h.waiting op o ho hwatch hwaiting g hg
    exact (List.getElem?_append_left (List.getElem?_eq_some_iff.mp hcall).1).trans hcall
  have hnew : ∀ {new : Op},
      (s.feed cfg env origin event).1.adapter.ops = s.adapter.ops ++ [new] →
      (s.feed cfg env origin event).1.calls[op]? = some g := by
    intro new hops
    rw [hops] at ho
    rcases StreamingAdapter.get_concat ho with ho' | ⟨rfl, rfl⟩
    · exact hold ho' hwatch hwaiting
    · change (s.calls ++ List.replicate
        ((s.feed cfg env origin event).1.adapter.ops.length - s.adapter.ops.length)
        s.controller.sessionToken)[s.adapter.ops.length]? = some g
      rw [hops, List.length_append, Nat.add_sub_cancel_left, ← h.calls, hcurrent]
      exact List.getElem?_concat_length
  cases StreamingAdapter.queueStep event (StreamingAdapter.step_next s.adapter event) with
  | nothing hops =>
      exact hold (by rw [← hops]; exact ho) hwatch hwaiting
  | called operation hops => exact hnew hops
  | recreated hops => exact hnew hops
  | moved moved _ status _ hops _ _ _ _ hstatus =>
      have hget : ((s.adapter.ops.modify moved fun o => { o with status := status })[op]?) = some o := by
        rw [← hops]
        exact ho
      obtain ⟨old, hbefore, rfl⟩ := StreamingAdapter.get_modify hget
      split_ifs at hwatch hwaiting
      · exact absurd hwaiting hstatus
      · exact hold hbefore hwatch hwaiting

theorem calls_feed (h : s.Own) (env : Surroundings) (origin : Option ℕ) (event : AdapterEvent) :
    (s.feed cfg env origin event).1.calls.length =
      (s.feed cfg env origin event).1.adapter.ops.length := by
  change (s.calls ++ List.replicate ((adapterMachine.next s.adapter event).ops.length -
    s.adapter.ops.length) s.controller.sessionToken).length = _
  rw [List.length_append, List.length_replicate, h.calls]
  have hle : s.adapter.ops.length ≤ (adapterMachine.next s.adapter event).ops.length := by
    cases StreamingAdapter.queueStep event (StreamingAdapter.step_next s.adapter event) with
    | nothing hops => rw [hops]
    | called operation hops =>
        rw [hops, List.length_append]
        exact Nat.le_add_right _ _
    | recreated hops =>
        rw [hops, List.length_append]
        exact Nat.le_add_right _ _
    | moved moved _ status _ hops => rw [hops, List.length_modify]
  exact Nat.add_sub_of_le hle

/-- A request that is sent is that of a watch that waited, on the handle that there is. -/
theorem sent_feed (h : s.Own) (env : Surroundings) (origin : Option ℕ) (event : AdapterEvent)
    {w : SentWatch} (hw : w ∈ (s.feed cfg env origin event).1.sent) :
    w ∈ s.sent ∨ w.gen ≤ s.adapter.handleGen ∧
      ∀ g, s.controller.hears = some g → w.token = g := by
  change w ∈ s.noteSent event (adapterMachine.next s.adapter event) at hw
  unfold noteSent at hw
  split at hw
  · rename_i op handle hhandle
    split_ifs at hw with hbegun
    · rcases List.mem_append.mp hw with hold | hnew
      · exact .inl hold
      · rw [List.mem_singleton] at hnew
        subst hnew
        refine .inr ⟨h.handle handle hhandle, fun g hg => ?_⟩
        obtain ⟨o, ho, hwatch, hwaiting⟩ := start_watches hbegun
        rw [h.waiting op o ho hwatch hwaiting g hg, Option.getD_some]
    · exact .inl hw
  · exact .inl hw

/-- An event of the adapter keeps what is left in the generation that the controller listens to. -/
theorem own_feed (h : s.Own) (env : Surroundings) (origin : Option ℕ) (event : AdapterEvent) :
    (s.feed cfg env origin event).1.Own := by
  have hstep := StreamingAdapter.step_next s.adapter event
  have hgen := handleGen_le hstep
  have hhears : ∀ g, (s.feed cfg env origin event).1.controller.hears = some g →
      s.controller.hears = some g := by
    intro g hg
    rcases @feed_hears cfg s env origin event with hnone | hsame
    · rw [hnone] at hg
      cases hg
    · exact hsame.symm.trans hg
  refine ⟨calls_feed h env origin event, ?_, ?_, ?_, ?_⟩
  · intro op o ho hwatch hwaiting g hg
    exact waiting_feed h env origin event ho hwatch hwaiting (hhears g hg)
  · intro w hw hopen g hg
    rcases sent_feed h env origin event hw with hold | ⟨-, htoken⟩
    · refine h.sent w hold (hopen.imp_left fun hsame => ?_) g (hhears g hg)
      have holder := h.older w hold
      change w.gen = (adapterMachine.next s.adapter event).handleGen at hsame
      exact le_antisymm holder (hgen.trans (le_of_eq hsame.symm))
    · exact htoken g (hhears g hg)
  · intro w hw
    rcases sent_feed h env origin event hw with hold | ⟨hle, -⟩
    · exact (h.older w hold).trans hgen
    · exact hle.trans hgen
  · intro handle hhandle
    rcases handle_next hstep with hsame | hnone | ⟨set, hset, hcurrent⟩
    · exact (h.handle handle (hsame.symm.trans hhandle)).trans hgen
    · cases hnone.symm.trans hhandle
    · cases hset.symm.trans hhandle
      exact le_of_eq hcurrent

/-- An answer leaves less open. -/
theorem own_answered (h : s.Own) (watch : ℕ) :
    Own { s with sent := s.sent.modify watch fun w => { w with answered := true } } := by
  have hback : ∀ w ∈ s.sent.modify watch (fun w => { w with answered := true }),
      ∃ old ∈ s.sent, w.gen = old.gen ∧ w.token = old.token ∧
        (w.answered = false → old.answered = false) := by
    intro w hw
    obtain ⟨i, hi⟩ := List.mem_iff_getElem?.mp hw
    rw [List.getElem?_modify] at hi
    obtain ⟨old, hold, hnew⟩ := Option.map_eq_some_iff.mp hi
    refine ⟨old, List.mem_of_getElem? hold, ?_⟩
    split_ifs at hnew
    · subst hnew
      exact ⟨rfl, rfl, fun hanswered => (by cases hanswered)⟩
    · subst hnew
      exact ⟨rfl, rfl, id⟩
  refine ⟨h.calls, h.waiting, fun w hw hopen g hg => ?_, fun w hw => ?_, h.handle⟩
  · obtain ⟨old, hold, hgen, htoken, hanswered⟩ := hback w hw
    rw [htoken]
    exact h.sent old hold (hopen.imp (fun hsame => hgen.symm.trans hsame) hanswered) g hg
  · obtain ⟨old, hold, hgen, -⟩ := hback w hw
    rw [hgen]
    exact h.older old hold

theorem turn_cases (env : Surroundings) (input : PlayerInput) :
    s.turn cfg env input = (s, []) ∨ s.turn cfg env input =
      ({ s with controller := (playerMachine cfg).next s.controller (env, input) }, []) := by
  unfold turn
  split
  · exact .inl rfl
  · exact .inr rfl

/-- A turn of the controller leaves the adapter as it is; where it begins to listen to another
generation, there is nothing left to keep. -/
theorem own_turn (h : s.Own) (env : Surroundings) (input : PlayerInput)
    (hclean : StartsClean cfg s (.turn env input)) : (s.turn cfg env input).1.Own := by
  have hkept : ∀ {p : Controller}, (p.hears ≠ none → p.hears ≠ s.controller.hears → s.Clean) →
      Own { s with controller := p } := by
    intro p hstarts
    have hcases : ∀ g, p.hears = some g → s.controller.hears = some g ∨ s.Clean := by
      intro g hg
      by_cases hsame : p.hears = s.controller.hears
      · exact .inl (hsame.symm.trans hg)
      · refine .inr (hstarts ?_ hsame)
        rw [hg]
        exact Option.some_ne_none g
    refine ⟨h.calls, ?_, ?_, h.older, h.handle⟩
    · intro op o ho hwatch hwaiting g hg
      rcases hcases g hg with hsame | hleft
      · exact h.waiting op o ho hwatch hwaiting g hsame
      · exact absurd hwaiting (hleft.1 o (List.mem_of_getElem? ho) hwatch)
    · intro w hw hopen g hg
      rcases hcases g hg with hsame | hleft
      · exact h.sent w hw hopen g hsame
      · obtain ⟨hgone, hanswered⟩ := hleft.2 w hw
        rcases hopen with hcurrent | hunanswered
        · exact absurd hcurrent hgone
        · rw [hanswered] at hunanswered
          cases hunanswered
  have hnext : (streamingPlayer cfg).next s (.turn env input) = (s.turn cfg env input).1 := rfl
  rw [StartsClean, hnext] at hclean
  rcases @turn_cases cfg s env input with hsame | hmoved
  · rw [hsame]
    exact h
  · rw [hmoved] at hclean ⊢
    exact hkept hclean

theorem own_next (h : s.Own) {e : PlayerHappening} (hclean : StartsClean cfg s e) :
    ((streamingPlayer cfg).next s e).Own := by
  cases e with
  | turn env input => exact own_turn h env input hclean
  | adapter env event => exact own_feed h env none event
  | janus env watch callback =>
      change (s.onJanus cfg env watch callback).1.Own
      unfold onJanus
      split
      · exact own_feed h env _ _
      · exact h
  | answer env watch refusal =>
      change (s.onAnswer cfg env watch refusal).1.Own
      unfold onAnswer
      split
      · split
        · exact h
        · simp only
          split
          · exact own_feed (own_answered h watch) env _ _
          · exact own_answered h watch
      · exact h

/-- From there, what Janus produced for a watch is processed in its generation. -/
theorem own_emits (h : s.Own) (e : PlayerHappening) :
    ∀ o ∈ (streamingPlayer cfg).emits s e, ∀ g, o.origin = some g → o.generation = g := by
  intro o ho g horigin
  cases e with
  | turn env input =>
      change o ∈ (s.turn cfg env input).2 at ho
      rcases @turn_cases cfg s env input with hsame | hmoved
      · rw [hsame] at ho
        cases ho
      · rw [hmoved] at ho
        cases ho
  | adapter env event =>
      have hnone := (feed_processed env none event o ho).1
      rw [horigin] at hnone
      cases hnone
  | janus env watch callback =>
      change o ∈ (s.onJanus cfg env watch callback).2 at ho
      unfold onJanus at ho
      split at ho
      · rename_i w hw
        obtain ⟨hsame, hhears⟩ := feed_processed env _ _ o ho
        cases hsame.symm.trans horigin
        have hcurrent : w.gen = s.adapter.handleGen := by
          by_contra hother
          have hdropped : adapterMachine.emits s.adapter (.callback w.gen callback) = [] := by
            change (if w.gen = s.adapter.handleGen then s.adapter.onCallback callback
              else (s.adapter, [])).2 = []
            rw [if_neg hother]
          rw [feed, hdropped] at ho
          cases ho
        exact (h.sent w (List.mem_of_getElem? hw) (.inl hcurrent) _ hhears).symm
      · cases ho
  | answer env watch refusal =>
      change o ∈ (s.onAnswer cfg env watch refusal).2 at ho
      unfold onAnswer at ho
      split at ho
      · rename_i w hw
        split_ifs at ho with hanswered
        · cases ho
        · simp only at ho
          split at ho
          · obtain ⟨hsame, hhears⟩ := feed_processed env _ _ o ho
            cases hsame.symm.trans horigin
            exact (h.sent w (List.mem_of_getElem? hw)
              (.inr (Bool.eq_false_of_not_eq_true hanswered)) _ hhears).symm
          · cases ho
      · cases ho

end Own

end LivePlayer

/-- In every run in which the controller begins to listen only where nothing is left of the
watches before, an event that Janus produces for a watch is processed in the generation in which
that watch was called, or not at all. -/
theorem generations_isolated (cfg : PlayerConfig) (happenings : List PlayerHappening)
    (h : (streamingPlayer cfg).Along (LivePlayer.StartsClean cfg) {} happenings) :
    ∀ o ∈ (streamingPlayer cfg).trace {} happenings, ∀ g, o.origin = some g → o.generation = g := by
  refine Machine.trace_forall _ (I := LivePlayer.Own) ?_ ?_ h ?_
  · exact fun s e hown hclean => LivePlayer.own_next hown hclean
  · exact fun s e hown _ => LivePlayer.own_emits hown e
  · exact ⟨rfl, fun op o ho => (by cases ho), fun w hw => (by cases hw), fun w hw => (by cases hw),
      fun handle hhandle => (by cases hhandle)⟩

/-- The player plays: a handle is attached, the streams are listed, and one is watched. -/
def firstWatch : List PlayerHappening :=
  [.turn undisturbed .togglePlay, .adapter undisturbed (.call .init),
    .adapter undisturbed (.start 0 false), .adapter undisturbed (.sessionInit 0 true),
    .adapter undisturbed (.attached 0 true), .adapter undisturbed (.resume 0 true),
    .turn undisturbed (.connect 0 .done), .adapter undisturbed (.call .listStreams),
    .adapter undisturbed (.start 1 false), .adapter undisturbed (.resume 1 true),
    .turn undisturbed (.connect 0 (.picked 1)), .turn undisturbed (.connect 0 .done),
    .adapter undisturbed (.call (.watch (some 1))), .adapter undisturbed (.start 2 false),
    .answer undisturbed 0 none, .janus undisturbed 0 (.iceState "checking")]

/-- The player is stopped and plays again; then Janus reports on the first watch. -/
def secondPlay : List PlayerHappening :=
  [.turn undisturbed .togglePlay, .adapter undisturbed (.call .stop),
    .turn undisturbed .togglePlay, .janus undisturbed 0 (.iceState "connected")]

/-- Where the session was lost in between, the late report is dropped. -/
theorem generations_isolated_lost :
    (∀ o ∈ (streamingPlayer {}).trace {} (firstWatch ++ .adapter undisturbed .session :: secondPlay),
        ∀ g, o.origin = some g → o.generation = g) ∧
      (streamingPlayer {}).trace {} (firstWatch ++ .adapter undisturbed .session :: secondPlay) =
        [⟨none, 1⟩, ⟨some 1, 1⟩, ⟨none, 1⟩] :=
  ⟨generations_isolated {} _ (by decide +kernel), by decide +kernel⟩

/-- Where the handle is the same, it is processed in the second generation. -/
theorem late_report_processed :
    ¬ ∀ (cfg : PlayerConfig) (happenings : List PlayerHappening),
      ∀ o ∈ (streamingPlayer cfg).trace {} happenings, ∀ g, o.origin = some g → o.generation = g := by
  intro hclaim
  have hlate : (⟨some 1, 2⟩ : Processed) ∈ (streamingPlayer {}).trace {} (firstWatch ++ secondPlay) := by
    decide +kernel
  exact absurd (hclaim {} (firstWatch ++ secondPlay) _ hlate 1 rfl) (by decide)

end CameraStack.Player
