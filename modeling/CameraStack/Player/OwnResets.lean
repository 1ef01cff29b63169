/-
# Whose session reset it is

The controller learns of a session reset from the adapter, the adapter from the session manager,
and there a session is reset by a call of `recreate` or `destroy`, or it is lost on the server.  The
three run together here: a recovery attempt that calls `streaming.recreate` queues an operation of
the adapter, the operation calls `session.recreate` when it comes to that, and what the manager
tells its observers comes back to the controller as far as the adapter still listens.  So the cause
of each reset can be read off the call of the manager that told of it.

The expectation of the coordinator knows no cause.  It belongs to the right resets just if every
recreate that an attempt has called is followed by two resets that come while an attempt is in
flight, before a reset of another cause does.
-/

import CameraStack.Player.Generations
import CameraStack.Player.SessionManager
import CameraStack.Player.SessionResets

namespace CameraStack.Player

open CameraStack.Lib

/-! ## Causes -/

/-- `SESSION_DESTROYED` and `SESSION_RECREATED`, which the adapter listens to. -/
def SessionEvent.resets : SessionEvent → Bool
  | .destroyed _ | .recreated _ => true
  | .ready _ | .error .. => false

/-- A call of `recreate`, in either half. -/
def Phase.ofRecreate : Phase → Bool
  | .queuedDestroy (some _) | .toldDestroyed (some _) | .queued (.recreate _)
  | .told (.recreate _) _ | .resumes (.recreate _) => true
  | _ => false

/-- The call that goes on: its turn begins or ends, or a promise job of it runs. -/
def Manager.goesOn (m : Manager) : ManagerEvent → Option ℕ
  | .start _ =>
      match m.turn with
      | none => m.waiting.head?.map Prod.fst
      | some _ => none
  | .destroyDone =>
      match m.turn with
      | some (.destroying call _) => some call
      | _ => none
  | .deliver call => some call
  | _ => none

/-- What the manager tells in this event is the doing of a `recreate`. -/
def Manager.byRecreate (m : Manager) (e : ManagerEvent) : Bool :=
  (m.goesOn e).any fun call => (m.calls[call]?).any Phase.ofRecreate

/-! ## The player and its session -/

/-- The controller, the adapter and the session manager, with the operations of the adapter that
have called `session.recreate` and the calls they wait for. -/
structure SessionPlayer where
  controller : Controller := {}
  adapter : StreamingAdapter := {}
  manager : Manager := {}
  recreating : List (ℕ × ℕ) := []
  deriving DecidableEq

/-- What happens: a turn of the controller, an event of the adapter, or one of the manager. -/
inductive SessionHappening
  | turn (env : Surroundings) (input : PlayerInput)
  | adapter (env : Surroundings) (event : AdapterEvent)
  | manager (env : Surroundings) (event : ManagerEvent)

/-- What is noted: a recovery attempt calls `recreate`, or a session reset reaches the controller.
Of the latter it is noted whether a `recreate` has caused it, whether it came while an attempt was
in flight, and whether it was discarded. -/
inductive ResetNote
  | recreate
  | reset (own struck discarded : Bool)
  deriving DecidableEq

/-- A reset that a `recreate` has caused. -/
def ResetNote.own : ResetNote → Bool
  | .recreate => false
  | .reset own _ _ => own

/-- A reset that came while an attempt was in flight. -/
def ResetNote.struck : ResetNote → Bool
  | .recreate => false
  | .reset _ struck _ => struck

/-- A reset that was discarded. -/
def ResetNote.discarded : ResetNote → Bool
  | .recreate => false
  | .reset _ _ discarded => discarded

/-- A reset of another cause that came while an attempt was in flight. -/
def ResetNote.foreign (note : ResetNote) : Bool := note.struck && !note.own

namespace SessionPlayer

variable (cfg : PlayerConfig) (servers : JanusServers) (rtcConfig : RtcConfig)

/-- The adapter takes an event, and the controller what it emits. -/
def feed (env : Surroundings) (event : AdapterEvent) (s : SessionPlayer) : SessionPlayer :=
  { s with
    adapter := adapterMachine.next s.adapter event
    controller := (Controller.sink cfg env none (adapterMachine.emits s.adapter event)
      { s.controller with throws := env.throws }).1 }

/-- A turn of the controller.  The events of the stream come from the adapter, and a recovery
attempt that recreates the session calls its `recreate`. -/
def turn (env : Surroundings) (input : PlayerInput) (s : SessionPlayer) :
    SessionPlayer × List ResetNote :=
  match input with
  | .streamEvent .. => (s, [])
  | input =>
      let p := (playerMachine cfg).next s.controller (env, input)
      let calls := p.recreates - s.controller.recreates
      ({ s with
          controller := p
          adapter := adapterMachine.run s.adapter (List.replicate calls (.call .recreate)) },
        List.replicate calls .recreate)

/-- The operation waits for `session.recreate`. -/
def inRecreate (a : StreamingAdapter) (op : ℕ) : Bool :=
  (a.ops[op]?).any fun o => o.status = .executing .recreating

/-- An operation that waits for `session.recreate` goes on when that ends, and the way it ends. -/
def answered (s : SessionPlayer) (op : ℕ) (succeeds : Bool) : Bool :=
  match s.recreating.lookup op with
  | none => true
  | some call =>
      match s.manager.calls[call]? with
      | some (.ended error) => succeeds = error.isNone
      | _ => false

/-- An operation of the adapter goes on, and may come to `session.recreate`. -/
def resumeOp (env : Surroundings) (op : ℕ) (succeeds : Bool) (s : SessionPlayer) : SessionPlayer :=
  if s.answered op succeeds then
    let next := s.feed cfg env (.resume op succeeds)
    if inRecreate s.adapter op = false ∧ inRecreate next.adapter op = true then
      { next with
        manager := (managerMachine servers).next s.manager (.recreate (some rtcConfig))
        recreating := (op, s.manager.calls.length) :: s.recreating }
    else next
  else s

/-- An event of the adapter.  Only the controller calls its `recreate`, and only the manager tells
it of the session. -/
def adapterEvent (env : Surroundings) (event : AdapterEvent) (s : SessionPlayer) : SessionPlayer :=
  match event with
  | .session | .call .recreate => s
  | .resume op succeeds => s.resumeOp cfg servers rtcConfig env op succeeds
  | event => s.feed cfg env event

/-- An event of the manager.  Only the adapter calls its `recreate`. -/
def managerEvent (env : Surroundings) (event : ManagerEvent) (s : SessionPlayer) :
    SessionPlayer × List ResetNote :=
  match event with
  | .recreate _ => (s, [])
  | event =>
      let result := (managerMachine servers).step s.manager event
      let next := { s with manager := result.1 }
      if result.2.any SessionEvent.resets then
        (next.feed cfg env .session,
          if s.adapter.subscribed then
            [.reset (s.manager.byRecreate event) (s.controller.Struck s.controller.sessionReset)
              (s.controller.Discards s.controller.sessionReset)]
          else [])
      else (next, [])

end SessionPlayer

/-- The player and its session, happening after happening, with what is noted of the resets. -/
def sessionPlayer (cfg : PlayerConfig) (servers : JanusServers) (rtcConfig : RtcConfig) :
    Machine SessionPlayer SessionHappening ResetNote where
  step s
    | .turn env input => s.turn cfg env input
    | .adapter env event => (s.adapterEvent cfg servers rtcConfig env event, [])
    | .manager env event => s.managerEvent cfg servers env event

namespace SessionPlayer

variable {cfg : PlayerConfig} {servers : JanusServers} {rtcConfig : RtcConfig} {s : SessionPlayer}

/-- A reset of another cause ends the attempt in flight. -/
def EndsAttempt (cfg : PlayerConfig) (servers : JanusServers) (rtcConfig : RtcConfig)
    (s : SessionPlayer) (e : SessionHappening) : Prop :=
  ∀ note ∈ (sessionPlayer cfg servers rtcConfig).emits s e, note.foreign = true →
    ((sessionPlayer cfg servers rtcConfig).next s e).controller.Landed

/-- A reset of another cause comes while an attempt is in flight. -/
def Strikes (cfg : PlayerConfig) (servers : JanusServers) (rtcConfig : RtcConfig)
    (s : SessionPlayer) (e : SessionHappening) : Prop :=
  ∃ note ∈ (sessionPlayer cfg servers rtcConfig).emits s e, note.foreign = true

/-! ## What is expected after a run -/

/-- Every recreate that an attempt has called was followed by two resets that came while an attempt
was in flight. -/
def Answered (notes : List ResetNote) : Prop :=
  ∀ before after, notes = before ++ .recreate :: after → 2 ≤ after.countP ResetNote.struck

/-- What is left of the two resets of the last recreate. -/
def Counted (s : SessionPlayer) (notes : List ResetNote) : Prop :=
  .recreate ∉ notes ∧ s.controller.reconnect.expectedSessionResets = 0 ∨
    ∃ before after, notes = before ++ .recreate :: after ∧ .recreate ∉ after ∧
      s.controller.reconnect.expectedSessionResets = 2 - after.countP ResetNote.struck

/-- Nothing is expected any more just if every recreate was answered. -/
theorem Counted.expected_iff {notes : List ResetNote} (h : s.Counted notes) :
    s.controller.reconnect.expectedSessionResets = 0 ↔ Answered notes := by
  rcases h with ⟨hnone, hzero⟩ | ⟨before, after, rfl, hlast, hleft⟩
  · refine iff_of_true hzero ?_
    rintro before after rfl
    exact absurd (List.mem_append_right _ List.mem_cons_self) hnone
  · rw [hleft]
    constructor
    · intro hzero before' after' hsplit
      have hsuffix : after <:+ after' := by
        rcases List.append_eq_append_iff.mp hsplit with ⟨middle, -, hafter⟩ | ⟨middle, -, hafter⟩
        · cases middle with
          | nil =>
              cases hafter
              exact List.suffix_refl _
          | cons first rest =>
              obtain ⟨rfl, rfl⟩ := List.cons.inj hafter
              exact absurd (List.mem_append_right _ List.mem_cons_self) hlast
        · cases middle with
          | nil =>
              cases hafter
              exact List.suffix_refl _
          | cons first rest =>
              obtain ⟨rfl, rfl⟩ := List.cons.inj hafter
              exact ⟨rest ++ [.recreate], by simp⟩
      have hcount := hsuffix.sublist.countP_le (p := ResetNote.struck)
      omega
    · intro hanswered
      have htwo := hanswered before after rfl
      omega

/-! ## Steps -/

/-- What one step does to the expectation and to the attempt in flight. -/
inductive Tallies (s s' : SessionPlayer) : List ResetNote → Prop
  | idle (hexpected : s'.controller.reconnect.expectedSessionResets =
      s.controller.reconnect.expectedSessionResets) : Tallies s s' []
  | recreate (hexpected : s'.controller.reconnect.expectedSessionResets = 2) :
      Tallies s s' [.recreate]
  | missed (own : Bool) (hexpected : s'.controller.reconnect.expectedSessionResets =
      s.controller.reconnect.expectedSessionResets) : Tallies s s' [.reset own false false]
  | struck (own : Bool) (hexpected : s'.controller.reconnect.expectedSessionResets =
        s.controller.reconnect.expectedSessionResets - 1)
      (hlanded : s'.controller.Landed ↔ s.controller.reconnect.expectedSessionResets = 0) :
      Tallies s s' [.reset own true (s.controller.reconnect.expectedSessionResets > 0)]

theorem tally_sink (env : Surroundings) {events : List Controller.StreamEvent}
    (h : .sessionReset ∉ events) (p : Controller) :
    (Controller.sink cfg env none events p).1.tally = p.tally := by
  induction events generalizing p with
  | nil => rfl
  | cons event rest ih =>
      rw [List.mem_cons, not_or] at h
      exact (ih h.2 _).trans (Controller.tally_onStreamEvent cfg env _ (Ne.symm h.1))

/-- Only the manager's event makes the adapter tell of a reset. -/
theorem emits_sessionReset {a : StreamingAdapter} {e : AdapterEvent} (h : e ≠ .session) :
    .sessionReset ∉ adapterMachine.emits a e := by
  cases e with
  | call | start | sessionInit => exact List.not_mem_nil
  | resume op succeeds =>
      change .sessionReset ∉ (a.resume op succeeds).2
      rw [StreamingAdapter.resume]
      cases a.ops[op]? with
      | none => exact List.not_mem_nil
      | some o =>
          simp only
          split
          · unfold StreamingAdapter.resumeFrom
            split
            all_goals simp
          · exact List.not_mem_nil
  | attached ensure succeeds =>
      change .sessionReset ∉ (a.onAttached ensure succeeds).2
      unfold StreamingAdapter.onAttached
      split
      · split
        · split_ifs
          · simp
          · exact List.not_mem_nil
        · exact List.not_mem_nil
      · exact List.not_mem_nil
  | callback gen callback =>
      change .sessionReset ∉
        (if gen = a.handleGen then a.onCallback callback else (a, [])).2
      split_ifs
      · cases callback with
        | message msg jsep =>
            simp only [StreamingAdapter.onCallback, StreamingAdapter.onMessage, List.mem_append,
              not_or]
            refine ⟨⟨⟨?_, ?_⟩, ?_⟩, ?_⟩
            · cases jsep with
              | none => exact List.not_mem_nil
              | some jsep =>
                  simp only [Option.elim, StreamingAdapter.onJsepOffer]
                  repeat' split
                  all_goals simp
            · cases msg.filter fun m =>
                  StreamingAdapter.alreadyWatching m.errorCode m.errorText with
              | none => exact List.not_mem_nil
              | some refused => simp
            · split_ifs
              · simp
              · exact List.not_mem_nil
            · simp
        | remoteTrack on video =>
            simp only [StreamingAdapter.onCallback]
            split_ifs
            · simp
            · exact List.not_mem_nil
        | webrtcState | iceState | trackMuted | trackUnmuted | trackEnded | cleanup | detached
        | slowLink | hangup | answerError => simp [StreamingAdapter.onCallback]
      · exact List.not_mem_nil
  | watchError code message =>
      change .sessionReset ∉ (a.onWatchError code message).2
      simp [StreamingAdapter.onWatchError]
  | session => exact absurd rfl h

/-- Other events of the adapter leave the tally as it is. -/
theorem tally_feed (env : Surroundings) {event : AdapterEvent} (h : event ≠ .session) :
    (s.feed cfg env event).controller.tally = s.controller.tally :=
  tally_sink env (emits_sessionReset h) _

theorem tally_adapterEvent (env : Surroundings) (event : AdapterEvent) :
    (s.adapterEvent cfg servers rtcConfig env event).controller.tally = s.controller.tally := by
  unfold adapterEvent
  split
  · rfl
  · rfl
  · rename_i op succeeds
    have hfed : (s.feed cfg env (.resume op succeeds)).controller.tally = s.controller.tally :=
      tally_feed env nofun
    unfold resumeOp
    split
    · simp only
      split
      · exact hfed
      · exact hfed
    · rfl
  · rename_i hsession _ _
    exact tally_feed env hsession

/-- A turn calls `recreate` at most once. -/
theorem tallies_turn (env : Surroundings) (input : PlayerInput) :
    Tallies s (s.turn cfg env input).1 (s.turn cfg env input).2 := by
  unfold turn
  split
  · exact .idle rfl
  · rename_i hstream
    rcases Controller.tally_turn cfg env (p := s.controller) hstream with hsame | hrecreated
    · have hcalls : ((playerMachine cfg).next s.controller (env, input)).recreates =
          s.controller.recreates := congrArg Prod.snd hsame
      simp only [hcalls, Nat.sub_self, List.replicate_zero]
      exact .idle (congrArg Prod.fst hsame)
    · have hcalls : ((playerMachine cfg).next s.controller (env, input)).recreates =
          s.controller.recreates + 1 := congrArg Prod.snd hrecreated
      simp only [hcalls, Nat.add_sub_cancel_left, List.replicate_one]
      exact .recreate (congrArg Prod.fst hrecreated)

/-- A reset that the adapter hears reaches the controller at once. -/
theorem controller_feed_session (env : Surroundings) (h : s.adapter.subscribed = true) :
    (s.feed cfg env .session).controller =
      (playerMachine cfg).next s.controller (env, s.controller.sessionReset) := by
  have hemits : adapterMachine.emits s.adapter .session = [.sessionReset] := by
    change (s.adapter.onSession).2 = _
    rw [StreamingAdapter.onSession]
    simp only [h, if_true]
  rw [feed, hemits]
  rfl

/-- A reset that it does not hear changes nothing there. -/
theorem tally_feed_unheard (env : Surroundings) (h : s.adapter.subscribed = false) :
    (s.feed cfg env .session).controller.tally = s.controller.tally := by
  have hemits : adapterMachine.emits s.adapter .session = [] := by
    change (s.adapter.onSession).2 = _
    rw [StreamingAdapter.onSession]
    simp only [h, Bool.false_eq_true, if_false]
  rw [feed, hemits]
  rfl

/-- A reset that the manager tells of. -/
theorem tallies_session (env : Surroundings) (m : Manager) (own : Bool) :
    Tallies s (feed cfg env .session { s with manager := m })
      (if s.adapter.subscribed then
        [.reset own (s.controller.Struck s.controller.sessionReset)
          (s.controller.Discards s.controller.sessionReset)]
      else []) := by
  split_ifs with hheard
  · have htold : (feed cfg env .session { s with manager := m }).controller =
        (playerMachine cfg).next s.controller (env, s.controller.sessionReset) :=
      controller_feed_session env hheard
    have htally := Controller.tally_sessionReset cfg env s.controller
    by_cases hstruck : s.controller.Struck s.controller.sessionReset
    · have hlanded := Controller.landed_iff_not_discards cfg env hstruck
      have hdiscards : s.controller.Discards s.controller.sessionReset ↔
          s.controller.reconnect.expectedSessionResets > 0 := and_iff_right hstruck
      rw [if_pos hstruck] at htally
      simp only [hstruck, hdiscards, decide_true]
      refine .struck _ ?_ ?_
      · rw [htold]
        exact congrArg Prod.fst htally
      · rw [htold, hlanded, hdiscards, gt_iff_lt, Nat.pos_iff_ne_zero, not_not]
    · have hkept : ¬ s.controller.Discards s.controller.sessionReset := fun h => hstruck h.1
      rw [if_neg hstruck] at htally
      simp only [hstruck, hkept, decide_false]
      refine .missed _ ?_
      rw [htold]
      exact congrArg Prod.fst htally
  · have hunheard : s.adapter.subscribed = false := Bool.eq_false_of_not_eq_true hheard
    have htally : (feed cfg env .session { s with manager := m }).controller.tally =
        s.controller.tally := tally_feed_unheard env hunheard
    exact .idle (congrArg Prod.fst htally)

theorem tallies_managerEvent (env : Surroundings) (event : ManagerEvent) :
    Tallies s (s.managerEvent cfg servers env event).1
      (s.managerEvent cfg servers env event).2 := by
  unfold managerEvent
  split
  · exact .idle rfl
  · simp only
    split
    · exact tallies_session env _ _
    · exact .idle rfl

/-- What one step does. -/
theorem tallies_step (cfg : PlayerConfig) (servers : JanusServers) (rtcConfig : RtcConfig)
    (s : SessionPlayer) (e : SessionHappening) :
    Tallies s ((sessionPlayer cfg servers rtcConfig).next s e)
      ((sessionPlayer cfg servers rtcConfig).emits s e) := by
  cases e with
  | turn env input => exact tallies_turn env input
  | adapter env event => exact .idle (congrArg Prod.fst (tally_adapterEvent env event))
  | manager env event => exact tallies_managerEvent env event

/-- The count goes on being what is left of the last recreate. -/
theorem Counted.step {notes : List ResetNote} (h : s.Counted notes) {s' : SessionPlayer}
    {emitted : List ResetNote} (hstep : Tallies s s' emitted) : s'.Counted (notes ++ emitted) := by
  have hreset : ∀ own struck discarded, s'.controller.reconnect.expectedSessionResets =
      s.controller.reconnect.expectedSessionResets - struck.toNat →
      s'.Counted (notes ++ [.reset own struck discarded]) := by
    intro own struck discarded hexpected
    rcases h with ⟨hnone, hzero⟩ | ⟨before, after, rfl, hlast, hleft⟩
    · refine .inl ⟨by simp [hnone], ?_⟩
      rw [hexpected, hzero, Nat.zero_sub]
    · refine .inr ⟨before, after ++ [.reset own struck discarded], by simp, by simp [hlast], ?_⟩
      rw [hexpected, hleft, List.countP_append, List.countP_singleton, Nat.sub_sub]
      cases struck with
      | false => rfl
      | true => rfl
  cases hstep with
  | idle hexpected =>
      rw [List.append_nil, Counted, hexpected]
      exact h
  | recreate hexpected => exact .inr ⟨notes, [], rfl, List.not_mem_nil, hexpected⟩
  | missed own hexpected => exact hreset own false false hexpected
  | struck own hexpected => exact hreset own true _ hexpected

/-- In every run the count is what is left of the last recreate. -/
theorem counted_run (happenings : List SessionHappening) :
    ((sessionPlayer cfg servers rtcConfig).run {} happenings).Counted
      ((sessionPlayer cfg servers rtcConfig).trace {} happenings) :=
  Machine.run_trace_invariant _ (I := Counted) (fun s _ e h => h.step (tallies_step _ _ _ s e))
    (.inl ⟨List.not_mem_nil, rfl⟩) happenings

/-- A reset of another cause ends the attempt in flight just if nothing is expected. -/
theorem endsAttempt_iff (e : SessionHappening) : EndsAttempt cfg servers rtcConfig s e ↔
    (Strikes cfg servers rtcConfig s e → s.controller.reconnect.expectedSessionResets = 0) := by
  unfold EndsAttempt Strikes
  generalize hnotes : (sessionPlayer cfg servers rtcConfig).emits s e = notes
  have hstep := tallies_step cfg servers rtcConfig s e
  rw [hnotes] at hstep
  cases hstep with
  | idle => simp
  | recreate => simp [ResetNote.foreign, ResetNote.struck]
  | missed own => simp [ResetNote.foreign, ResetNote.struck]
  | struck own hexpected hlanded => simp [hlanded]

/-- Where every other reset ends the attempt in flight, only resets of a `recreate` are
discarded. -/
theorem own_of_discarded {e : SessionHappening} (h : EndsAttempt cfg servers rtcConfig s e) :
    ∀ note ∈ (sessionPlayer cfg servers rtcConfig).emits s e, note.discarded = true →
      note.own = true := by
  have hzero := (endsAttempt_iff e).mp h
  have hstep := tallies_step cfg servers rtcConfig s e
  unfold Strikes at hzero
  generalize (sessionPlayer cfg servers rtcConfig).emits s e = notes at hzero hstep
  cases hstep with
  | idle => simp
  | recreate => simp [ResetNote.discarded]
  | missed own => simp [ResetNote.discarded]
  | struck own =>
      rintro note hnote hdiscarded
      cases List.mem_singleton.mp hnote
      have hexpected : s.controller.reconnect.expectedSessionResets > 0 :=
        of_decide_eq_true hdiscarded
      by_contra hforeign
      refine absurd (hzero ⟨_, hnote, ?_⟩) (Nat.pos_iff_ne_zero.mp hexpected)
      exact Bool.and_eq_true_iff.mpr ⟨rfl, by simpa using hforeign⟩

end SessionPlayer

/-- In every run: no more resets are discarded than the recreates of recovery attempts have caused
and every other reset ends the attempt in flight, just if whenever another one comes while an
attempt is in flight, every recreate before it was followed by two resets that came so. -/
theorem own_resets_discarded_iff (cfg : PlayerConfig) (servers : JanusServers)
    (rtcConfig : RtcConfig) (happenings : List SessionHappening) :
    ((sessionPlayer cfg servers rtcConfig).Along
          (SessionPlayer.EndsAttempt cfg servers rtcConfig) {} happenings ∧
        ∀ first second, happenings = first ++ second →
          ((sessionPlayer cfg servers rtcConfig).trace {} first).countP ResetNote.discarded ≤
            ((sessionPlayer cfg servers rtcConfig).trace {} first).countP ResetNote.own) ↔
      ∀ first e second, happenings = first ++ e :: second →
        SessionPlayer.Strikes cfg servers rtcConfig
          ((sessionPlayer cfg servers rtcConfig).run {} first) e →
        SessionPlayer.Answered ((sessionPlayer cfg servers rtcConfig).trace {} first) := by
  have hexpected : ∀ first : List SessionHappening,
      ((sessionPlayer cfg servers rtcConfig).run {}
          first).controller.reconnect.expectedSessionResets = 0 ↔
        SessionPlayer.Answered ((sessionPlayer cfg servers rtcConfig).trace {} first) :=
    fun first => (SessionPlayer.counted_run first).expected_iff
  have hends : (sessionPlayer cfg servers rtcConfig).Along
        (SessionPlayer.EndsAttempt cfg servers rtcConfig) {} happenings ↔
      ∀ first e second, happenings = first ++ e :: second →
        SessionPlayer.Strikes cfg servers rtcConfig
          ((sessionPlayer cfg servers rtcConfig).run {} first) e →
        SessionPlayer.Answered ((sessionPlayer cfg servers rtcConfig).trace {} first) := by
    rw [Machine.along_iff_forall_split]
    refine forall_congr' fun first => forall_congr' fun e => forall_congr' fun second =>
      imp_congr_right fun _ => ?_
    rw [SessionPlayer.endsAttempt_iff, hexpected]
  rw [← hends, and_iff_left_iff_imp]
  rintro hend first second rfl
  refine List.countP_mono_left ?_
  have hfirst := ((Machine.along_append _ _ _ _).mp hend).1
  exact Machine.trace_forall _ (I := fun _ => True) (fun _ _ _ _ => trivial)
    (fun s e _ hstep => SessionPlayer.own_of_discarded hstep) hfirst trivial

/-- The player plays. -/
def playing : List SessionHappening :=
  [.turn undisturbed .togglePlay, .adapter undisturbed (.call .init),
    .adapter undisturbed (.start 0 false), .manager undisturbed (.init (some oneConfig)),
    .manager undisturbed (.start none), .manager undisturbed (.success 0),
    .manager undisturbed (.deliver 0), .adapter undisturbed (.sessionInit 0 true),
    .manager undisturbed .attach, .manager undisturbed (.deliver 1),
    .manager undisturbed (.attached 1 none), .adapter undisturbed (.attached 0 true),
    .adapter undisturbed (.resume 0 true),
    .adapter undisturbed (.callback 1 (.webrtcState true "")), .turn undisturbed .frame]

/-- An attempt recreates the session and times out after the first of its two resets; the second
comes while nothing is in flight.  Then the next attempt restarts ICE. -/
def leftover : List SessionHappening :=
  [.adapter undisturbed (.callback 1 (.iceState "failed")), .turn undisturbed (.reconnectTimer 0),
    .turn undisturbed (.healthCheck 0 true), .turn undisturbed (.recovery 0 .failed),
    .adapter undisturbed (.start 1 false), .adapter undisturbed (.resume 1 true),
    .manager undisturbed (.start none), .manager undisturbed .destroyDone,
    .turn undisturbed (.raceSettled 0 .timedOut), .manager undisturbed (.deliver 2),
    .manager undisturbed (.start none), .manager undisturbed (.success 1),
    .manager undisturbed (.deliver 2), .turn undisturbed (.reconnectTimer 1),
    .turn undisturbed (.healthCheck 1 true)]

/-- The library reports that the new session was destroyed. -/
def lostOnServer : SessionHappening := .manager undisturbed (.destroyed 1)

/-- What the first attempt expected swallows the loss. -/
theorem loss_discarded :
    ¬ ∀ (cfg : PlayerConfig) (servers : JanusServers) (rtcConfig : RtcConfig)
      (happenings : List SessionHappening),
      (sessionPlayer cfg servers rtcConfig).Along
          (SessionPlayer.EndsAttempt cfg servers rtcConfig) {} happenings ∧
        ∀ first second, happenings = first ++ second →
          ((sessionPlayer cfg servers rtcConfig).trace {} first).countP ResetNote.discarded ≤
            ((sessionPlayer cfg servers rtcConfig).trace {} first).countP ResetNote.own := by
  intro hclaim
  have hends := (hclaim {} oneServer oneConfig (playing ++ leftover ++ [lostOnServer])).1
  have hlast := ((Machine.along_append _ _ (playing ++ leftover) [lostOnServer]).mp hends).2.1
  have hlanded : ((sessionPlayer {} oneServer oneConfig).next
      ((sessionPlayer {} oneServer oneConfig).run {} (playing ++ leftover))
      lostOnServer).controller.reconnect.inFlight = false :=
    hlast (.reset false true true) (by decide +kernel) rfl
  exact absurd hlanded (by decide +kernel)

end CameraStack.Player
