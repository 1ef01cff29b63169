/-
# Connects that fail

The connect flow awaits the adapter, and the adapter's queue turns what fails into a promise that
resolves to nothing: a session that cannot be created, a handle that cannot be attached and a
watch that is rejected look to the flow like success.  They are noticed elsewhere, if at all: a
flow that has no stream yet finds none in a list that did not come, and a refusal of Janus is
told to an autonomous controller as an error.  Where neither happens, the flow ends in CONNECTING.
-/

import CameraStack.Player.Moves

namespace CameraStack.Player

open CameraStack.Lib

/-! ## The stream to watch -/

/-- A stream of the list, as far as it is read. -/
structure StreamInfo where
  description : Option String
  name : Option String
  id : Option ℕ

/-- `s.description || s.name || ''`. -/
def StreamInfo.label (s : StreamInfo) : String := reasonOr s.description (reasonOr s.name "")

/-- What the configuration says of the stream, and `toLowerCase`. -/
structure StreamChoice where
  preferStreamId : Option ℕ := none
  streamName : String := ""
  lower : String → String := id

/-- `_selectStreamId`: the preferred stream, the one of the name or the first; none is an error.
What is not a list has no streams. -/
def selectStreamId (choice : StreamChoice) (list : Option (List StreamInfo)) : Option ℕ :=
  match choice.preferStreamId.filter (· ≠ 0) with
  | some id => some id
  | none =>
      let streams := list.getD []
      let byName := streams.find? fun s =>
        decide ((choice.lower choice.streamName).toList <:+: (choice.lower s.label).toList)
      match byName.bind StreamInfo.id with
      | some id => some id
      | none => streams.head?.bind StreamInfo.id

/-! ## What a connect awaits -/

/-- How what a connect flow awaits ends: whether session and handle are there, the list if there is
one, whether Janus has accepted the watch, and anything that is not of the adapter. -/
inductive ConnectAnswer
  | init (ready : Bool)
  | list (streams : Option (List StreamInfo))
  | watch (accepted : Bool)
  | other (outcome : FlowOutcome)

/-- A part of the connect has failed. -/
def ConnectAnswer.failed : ConnectAnswer → Bool
  | .init ready => !ready
  | .watch accepted => !accepted
  | .list _ | .other _ => false

/-- What the flow sees of it: `_enqueue` resolves in any case. -/
def ConnectStep.outcome (choice : StreamChoice) : ConnectStep → ConnectAnswer → Option FlowOutcome
  | .init, .init _ => some .done
  | .listStreams, .list streams => some ((selectStreamId choice streams).elim .failed .picked)
  | .watch, .watch _ => some .done
  | .textRoom, .other outcome | .selected, .other outcome | .ensured, .other outcome
  | .ensurePlaying, .other outcome => some outcome
  | _, _ => none

/-- What has become of a connect: a part of it has failed, and its refusal was told as an error. -/
structure Mark where
  failed : Bool := false
  told : Bool := false
  deriving DecidableEq

/-- The controller, with a mark for each connect flow. -/
structure ConnectRun where
  controller : Controller := {}
  marks : List Mark := []
  deriving DecidableEq

/-- What happens: a turn of the controller, an answer to what a connect flow awaits, and an error
callback for the watch of a connect flow. -/
inductive ConnectEvent
  | turn (env : Surroundings) (input : PlayerInput)
  | answer (env : Surroundings) (flow : ℕ) (answer : ConnectAnswer)
  | refused (env : Surroundings) (flow : ℕ) (code : Option ℕ) (message : String)

namespace ConnectRun

variable (cfg : PlayerConfig) (choice : StreamChoice)

/-- The controller goes on; new connect flows are unmarked. -/
def advance (s : ConnectRun) (p : Controller) (marks : List Mark) : ConnectRun :=
  { s with
    controller := p
    marks := marks ++ List.replicate (p.connects.length - marks.length) {} }

/-- A turn in which no connect flow goes on. -/
def turn (env : Surroundings) (input : PlayerInput) (s : ConnectRun) : ConnectRun :=
  match input with
  | .connect .. => s
  | input => s.advance ((playerMachine cfg).next s.controller (env, input)) s.marks

/-- The marks after an answer. -/
def marked (marks : List Mark) (flow : ℕ) (answer : ConnectAnswer) : List Mark :=
  if answer.failed then marks.modify flow fun m => { m with failed := true } else marks

/-- A connect flow goes on, or ends. -/
def onAnswer (env : Surroundings) (flow : ℕ) (answer : ConnectAnswer) (s : ConnectRun) :
    ConnectRun :=
  match s.controller.connects[flow]?.bind fun f => f.step.outcome choice answer with
  | none => s
  | some outcome =>
      let p := (playerMachine cfg).next s.controller (env, .connect flow outcome)
      let marks := marked s.marks flow answer
      { s with
        controller := p
        marks := if p.connects.length < s.controller.connects.length then marks.eraseIdx flow
          else marks }

/-- Janus refuses the watch of a connect flow: the adapter emits an error, and rejects. -/
def onRefused (env : Surroundings) (flow : ℕ) (code : Option ℕ) (message : String)
    (s : ConnectRun) : ConnectRun :=
  if s.controller.connects[flow]?.any fun f => f.step = .watch then
    s.advance
      ((playerMachine cfg).next s.controller
        (env, .streamEvent (some s.controller.sessionToken) (.error code message)))
      (s.marks.modify flow fun m => { m with told := true })
  else s

end ConnectRun

/-- The controller and its connects, event after event. -/
def connectMachine (cfg : PlayerConfig) (choice : StreamChoice) :
    Machine ConnectRun ConnectEvent Unit where
  step s
    | .turn env input => (s.turn cfg env input, [])
    | .answer env flow answer => (s.onAnswer cfg choice env flow answer, [])
    | .refused env flow code message => (s.onRefused cfg env flow code message, [])

/-! ## Left for good -/

/-- CONNECTING is entered in a new generation, and a generation does not come again. -/
theorem gatedTransition_connecting (event : PlayerEvent) (snap : Snapshot) :
    snap.generation ≤ (gatedTransition event snap).next.generation ∧
      ((gatedTransition event snap).next.state = .connecting →
        (gatedTransition event snap).next.generation = snap.generation →
        snap.state = .connecting) := by
  have hkept : ∀ {next : Snapshot}, next.generation = snap.generation →
      (next.state = .connecting → snap.state = .connecting) →
      snap.generation ≤ next.generation ∧ (next.state = .connecting →
        next.generation = snap.generation → snap.state = .connecting) :=
    fun hsame hstate => ⟨le_of_eq hsame.symm, fun hconnecting _ => hstate hconnecting⟩
  have hnew : ∀ {next : Snapshot}, next.generation = snap.generation + 1 →
      snap.generation ≤ next.generation ∧ (next.state = .connecting →
        next.generation = snap.generation → snap.state = .connecting) := by
    intro next hnext
    rw [hnext]
    exact ⟨Nat.le_succ _, fun _ hsame => absurd hsame (Nat.succ_ne_self _)⟩
  have hcommon : snap.generation ≤ (activeCommon event snap).next.generation ∧
      ((activeCommon event snap).next.state = .connecting →
        (activeCommon event snap).next.generation = snap.generation →
        snap.state = .connecting) := by
    unfold activeCommon handleActiveCommon
    split
    all_goals first
      | exact hkept rfl id
      | exact hkept rfl PlayerState.noConfusion
  have hfailed : ∀ message, snap.generation ≤ (failClosed snap message).next.generation ∧
      ((failClosed snap message).next.state = .connecting →
        (failClosed snap message).next.generation = snap.generation →
        snap.state = .connecting) := fun _ => hkept rfl PlayerState.noConfusion
  unfold gatedTransition
  simp only
  split
  · unfold transition
    split
    · exact hnew rfl
    · split
      · split
        · exact hnew rfl
        · exact hfailed _
      · rename_i hstate
        split
        all_goals first
          | exact hcommon
          | exact hkept rfl fun _ => hstate
      · split
        all_goals first
          | exact hcommon
          | exact hkept rfl id
          | exact hkept rfl PlayerState.noConfusion
      · split
        all_goals first
          | exact hcommon
          | exact hkept rfl id
          | exact hkept rfl PlayerState.noConfusion
      · split
        · exact hnew rfl
        · exact hnew rfl
        · exact hfailed _
  · exact hkept rfl PlayerState.noConfusion

namespace Controller

variable {cfg : PlayerConfig} {env : Surroundings} {p q r : Controller} {flow : Prop}

/-- The player is still CONNECTING in the generation of the flow. -/
def Waits (p : Controller) (f : ConnectFlow) : Prop :=
  p.sessionToken = f.token ∧ p.state = .connecting

instance (p : Controller) (f : ConnectFlow) : Decidable (p.Waits f) :=
  inferInstanceAs (Decidable (_ ∧ _))

/-- Generations do not come again, and what waits has waited. -/
structure Onward (p q : Controller) : Prop where
  token : p.sessionToken ≤ q.sessionToken
  waits : ∀ f : ConnectFlow, f.token ≤ p.sessionToken → q.Waits f → p.Waits f

theorem Onward.trans (hpq : Onward p q) (hqr : Onward q r) : Onward p r where
  token := hpq.token.trans hqr.token
  waits f hle hwaits := hpq.waits f hle (hqr.waits f (hle.trans hpq.token) hwaits)

theorem SameCore.onward (h : SameCore p q) : Onward p q where
  token := le_of_eq h.token.symm
  waits _ _ hwaits := ⟨h.token.symm.trans hwaits.1, h.state.symm.trans hwaits.2⟩

theorem onward_transitioned (event : PlayerEvent) : Onward p (p.transitioned cfg event) := by
  obtain ⟨hle, hconnecting⟩ := gatedTransition_connecting event p.snapshot
  have htoken : (p.transitioned cfg event).sessionToken =
      (gatedTransition event p.snapshot).next.generation := applySnapshot_token _ _ _
  refine ⟨by rw [htoken]; exact hle, fun f hold hwaits => ?_⟩
  obtain ⟨hsame, hstate⟩ := hwaits
  rw [htoken] at hsame
  rw [transitioned_state] at hstate
  have hgeneration : (gatedTransition event p.snapshot).next.generation = p.sessionToken :=
    le_antisymm (hsame.trans_le hold) hle
  exact ⟨hgeneration.symm.trans hsame, hconnecting hstate hgeneration⟩

theorem Moves.onward (h : Moves cfg flow p q) : Onward p q := by
  induction h with
  | refl => exact (SameCore.refl p).onward
  | tail _ hlast ih =>
      rcases hlast.core with hsame | ⟨event, rfl⟩
      · exact ih.trans hsame.onward
      · exact ih.trans (onward_transitioned event)

/-- A connect flow is of a generation that has begun. -/
def Begun (p : Controller) : Prop := ∀ f ∈ p.connects, f.token ≤ p.sessionToken

theorem applySnapshot_connects (cfg : PlayerConfig) (p : Controller) (next : Snapshot) :
    (p.applySnapshot cfg next).connects = p.connects := by
  simp only [applySnapshot, scheduleErrorAutoRetry, apply_ite connects, ite_self]

theorem Begun.runConnectFlow (h : p.Begun) : p.runConnectFlow.Begun := by
  rw [Controller.runConnectFlow]
  split_ifs
  · exact h
  · intro f hf
    rcases List.mem_append.mp hf with hold | hnew
    · exact h f hold
    · rw [List.mem_singleton.mp hnew]

/-- Where no connect flow goes on, those that there are stay, and new ones come behind them. -/
theorem Moves.connects (h : Moves cfg False p q) (hbegun : p.Begun) :
    p.connects <+: q.connects ∧ q.Begun := by
  induction h with
  | refl => exact ⟨List.prefix_refl _, hbegun⟩
  | @tail q r hbefore hlast ih =>
      obtain ⟨hkept, hq⟩ := ih
      have htoken : q.sessionToken ≤ r.sessionToken := (Moves.onward (.single hlast)).token
      cases hlast with
      | same hsame hconnects =>
          rw [Begun, hconnects]
          exact ⟨hkept, fun f hf => (hq f hf).trans htoken⟩
      | begins =>
          refine ⟨hkept.trans ?_, hq.runConnectFlow⟩
          rw [runConnectFlow]
          split_ifs
          · exact List.prefix_refl _
          · exact List.prefix_append _ _
      | goesOn hsame hflow => exact hflow.elim
      | event event =>
          have hconnects : (q.transitioned cfg event).connects = q.connects :=
            applySnapshot_connects _ _ _
          rw [Begun, hconnects]
          exact ⟨hkept, fun f hf => (hq f hf).trans htoken⟩

/-! ## A failed player -/

/-- No action of a failure begins a connect flow. -/
theorem executeActions_connects (fail : Controller → Controller)
    (hfail : ∀ q : Controller, (fail q).connects = q.connects) (next : PlayerState)
    {actions : List PlayerAction}
    (h : ∀ a ∈ actions, a.type.calming = true) :
    (executeActions cfg env fail next actions p).connects = p.connects := by
  induction actions generalizing p with
  | nil => rfl
  | cons a rest ih =>
      have hrest : ∀ a' ∈ rest, a'.type.calming = true := fun a' ha' =>
        h a' (List.mem_cons_of_mem a ha')
      rw [executeActions]
      split_ifs
      · exact hfail _
      · exact ih hrest
      · refine (ih hrest).trans ?_
        have hcalm := h a List.mem_cons_self
        cases a with
        | cancelAllTimers | stopStreaming | log | render => rfl
        | startJanus | stopJanus | startReconnectTimer | armIceGrace | cancelIceGrace
        | armTrackMuteTimer | disarmTrackMuteTimer | markDegraded | bindStream
        | startReconnectSettle => cases hcalm

theorem gatedTransition_forceError (reason : Option String) (snap : Snapshot) :
    gatedTransition (.forceError reason) snap =
      failClosed snap (reasonOr reason "Force error") true := rfl

theorem forceError_connects (depth : ℕ) (generation : Option ℕ) (p : Controller) :
    (handleEventNested cfg env depth (.forceError none) generation p).connects = p.connects := by
  induction depth generalizing generation p with
  | zero => rfl
  | succ depth ih =>
      rw [handleEventNested]
      split_ifs
      · rfl
      · have hfail : ∀ q : Controller, (handleEventNested cfg env depth (.forceError none)
            (some q.sessionToken) { q with desiredPlaying := false }).connects = q.connects :=
          fun q => ih _ _
        rw [gatedTransition_forceError]
        have hacted := @executeActions_connects cfg env
          ((p.record (.forceError none) .error).applySnapshot cfg
            (failClosed p.snapshot "Force error" true).next) _ hfail .error
          (failClosed p.snapshot "Force error" true).actions
          (by simp [failClosed, PlayerAction.type, ActionType.calming])
        simp only
        rw [if_neg (by simp [failClosed])]
        exact hacted.trans (applySnapshot_connects _ _ _)

theorem fail_connects (p : Controller) : (p.fail cfg env).connects = p.connects :=
  forceError_connects _ _ _

/-- A failed player is in a later generation. -/
theorem fail_token (p : Controller) : p.sessionToken < (p.fail cfg env).sessionToken := by
  have hmoves : Moves cfg False _ _ :=
    moves_dispatch cfg env (.forceError none) { p with desiredPlaying := false }
  refine lt_of_lt_of_le ?_ hmoves.onward.token
  have htoken : (transitioned cfg (.forceError none)
      { p with desiredPlaying := false }).sessionToken = p.sessionToken + 1 :=
    applySnapshot_token _ _ _
  rw [htoken]
  exact Nat.lt_succ_self _

/-! ## Connect flows -/

/-- Where a connect flow waits next, if it goes on. -/
def nextStep (cfg : PlayerConfig) (p : Controller) (f : ConnectFlow) : ConnectStep :=
  let select := if p.streamId.isSome then ConnectStep.selected else .listStreams
  match f.step with
  | .init => if p.dropIfStale f.token then .ensured else if cfg.joystick then .textRoom else select
  | .textRoom => if p.dropIfStale f.token then .ensured else select
  | .listStreams => .selected
  | .selected => if p.dropIfStale f.token then .ensured else .watch
  | .watch => .ensured
  | .ensured | .ensurePlaying => .ensurePlaying

/-- How a connect flow goes on: it waits again, it ends because it is stale or at its end, or it
fails the player. -/
inductive FlowStep (cfg : PlayerConfig) (p : Controller) (i : ℕ) (f : ConnectFlow)
    (outcome : FlowOutcome) (q : Controller) : Prop
  | waits (hcore : SameCore p q)
      (hconnects : q.connects = p.connects.set i { token := f.token, step := nextStep cfg p f })
      (hpicked : f.step = .listStreams → ∃ streamId, outcome = .picked streamId)
  | ends (hcore : SameCore p q) (hconnects : q.connects = p.connects.eraseIdx i)
      (hdesired : q.desiredPlaying = p.desiredPlaying)
      (hend : p.dropIfStale f.token = true ∨ f.step = .ensurePlaying)
  | fails (htoken : p.sessionToken < q.sessionToken) (honward : Onward p q)
      (hconnects : q.connects = p.connects.eraseIdx i)
  | ignored (hcore : SameCore p q) (hconnects : q.connects = p.connects)
      (hlist : f.step = .listStreams)

theorem flowStep_connectContinues {i : ℕ} {f : ConnectFlow} (hf : p.connects[i]? = some f)
    (outcome : FlowOutcome) :
    FlowStep cfg p i f outcome (p.connectContinues cfg env i outcome) := by
  have hends : p.dropIfStale f.token = true ∨ f.step = .ensurePlaying →
      FlowStep cfg p i f outcome (p.endConnect i) :=
    fun hend => .ends ⟨rfl, rfl, rfl, rfl, rfl⟩ rfl rfl hend
  have hfails : FlowStep cfg p i f outcome ((p.fail cfg env).endConnect i) := by
    have hmoves : Moves cfg False p (p.fail cfg env) := Moves.fail .refl
    have hended : SameCore (p.fail cfg env) ((p.fail cfg env).endConnect i) :=
      ⟨rfl, rfl, rfl, rfl, rfl⟩
    refine .fails (fail_token p) (hmoves.onward.trans hended.onward) ?_
    change (p.fail cfg env).connects.eraseIdx i = _
    rw [fail_connects]
  have hwaits : ∀ step, f.step ≠ .listStreams → step = nextStep cfg p f →
      FlowStep cfg p i f outcome (p.awaitConnect i f.token step) := by
    rintro step hother rfl
    exact .waits ⟨rfl, rfl, rfl, rfl, rfl⟩ rfl fun hlist => absurd hlist hother
  rw [connectContinues, hf]
  simp only
  split
  · rename_i hstep
    split_ifs with hstale
    · exact hends (.inl hstale)
    · exact hwaits _ (by rw [hstep]; exact ConnectStep.noConfusion) (by rw [nextStep, hstep])
  · split_ifs with hstale
    · exact hends (.inl hstale)
    · exact hfails
  · split_ifs with hstale
    · exact hends (.inl hstale)
    · exact hfails
  · rename_i hstep _ _
    split_ifs with hstale
    · exact hends (.inl hstale)
    · exact .ends ⟨rfl, rfl, rfl, rfl, rfl⟩ rfl rfl (.inr hstep)
  · rename_i streamId hstep
    exact .waits ⟨rfl, rfl, rfl, rfl, rfl⟩ (by rw [nextStep, hstep]; rfl) fun _ => ⟨streamId, rfl⟩
  · rename_i hstep _
    have hother : f.step ≠ .listStreams := by
      rw [hstep]
      exact ConnectStep.noConfusion
    split_ifs with hstale hjoystick
    · exact hwaits _ hother (by rw [nextStep, hstep]; exact (if_pos hstale).symm)
    · exact hwaits _ hother (by
        rw [nextStep, hstep]
        exact ((if_neg hstale).trans (if_pos hjoystick)).symm)
    · exact hwaits _ hother (by
        rw [nextStep, hstep]
        exact ((if_neg hstale).trans (if_neg hjoystick)).symm)
  · rename_i hstep _
    have hother : f.step ≠ .listStreams := by
      rw [hstep]
      exact ConnectStep.noConfusion
    split_ifs with hstale
    · exact hwaits _ hother (by rw [nextStep, hstep]; exact (if_pos hstale).symm)
    · exact hwaits _ hother (by rw [nextStep, hstep]; exact (if_neg hstale).symm)
  · rename_i hstep _
    exact hwaits _ (by rw [hstep]; exact ConnectStep.noConfusion) (by rw [nextStep, hstep])
  · rename_i hstep _
    exact hwaits _ (by rw [hstep]; exact ConnectStep.noConfusion) (by rw [nextStep, hstep])
  · exact .ignored (SameCore.refl p) rfl ‹_›

/-- The same of a turn. -/
theorem flowStep_next {i : ℕ} {f : ConnectFlow} (hf : p.connects[i]? = some f)
    (outcome : FlowOutcome) :
    FlowStep cfg p i f outcome ((playerMachine cfg).next p (env, .connect i outcome)) := by
  have hthrown : SameCore p { p with throws := env.throws } := ⟨rfl, rfl, rfl, rfl, rfl⟩
  have hstep := @flowStep_connectContinues cfg env { p with throws := env.throws } i f hf outcome
  cases hstep with
  | waits hcore hconnects hpicked => exact .waits (hthrown.trans hcore) hconnects hpicked
  | ends hcore hconnects hdesired hend =>
      exact .ends (hthrown.trans hcore) hconnects hdesired hend
  | fails htoken honward hconnects =>
      exact .fails htoken (hthrown.onward.trans honward) hconnects
  | ignored hcore hconnects hlist => exact .ignored (hthrown.trans hcore) hconnects hlist

theorem FlowStep.onward {i : ℕ} {f : ConnectFlow} {outcome : FlowOutcome}
    (h : FlowStep cfg p i f outcome q) : Onward p q := by
  cases h with
  | waits hcore | ends hcore | ignored hcore => exact hcore.onward
  | fails _ honward => exact honward

/-! ## Errors that are told -/

/-- A recovery is scheduled: the player leaves CONNECTING. -/
theorem transitioned_scheduled (hstate : p.state = .connecting) (reason : Option String)
    (severity : Option ℕ) :
    (p.transitioned cfg (.reconnectScheduled reason severity)).state ≠ .connecting := by
  have hnext : (transition (.reconnectScheduled reason severity) p.snapshot).next.state =
      .reconnecting := by
    unfold transition
    simp only [snapshot, hstate]
    rfl
  rw [transitioned_state, gatedTransition]
  split
  · rw [hnext]
    exact PlayerState.noConfusion
  · exact PlayerState.noConfusion

theorem not_waits_handleStreamFailure {f : ConnectFlow} (hold : f.token ≤ p.sessionToken)
    (hstate : p.state = .connecting) (hautonomous : cfg.autonomousEnabled = true)
    (hdesired : p.desiredPlaying = true) (reason : String) (severity : ℕ) :
    ¬ (p.handleStreamFailure cfg env reason severity).Waits f := by
  rw [handleStreamFailure, if_neg (by rw [hstate]; exact fun h => PlayerState.noConfusion h.1),
    requestRecovery, if_neg (by rw [hautonomous]; exact Bool.noConfusion),
    if_neg (by rw [hdesired]; exact Bool.noConfusion),
    if_neg (by rw [hstate]; exact PlayerState.noConfusion)]
  intro hwaits
  have hmoves : Moves cfg False _ _ := moves_dispatch cfg env
    (.reconnectScheduled (some (reasonOrUnknown reason)) (some (max soft (min hard severity)))) p
  have hbefore := hmoves.onward.waits f (hold.trans (onward_transitioned _).token) hwaits
  exact transitioned_scheduled hstate _ _ hbefore.2

/-- An autonomous controller that is told of an error leaves CONNECTING. -/
theorem not_waits_onStreamEvent {f : ConnectFlow} (hold : f.token ≤ p.sessionToken)
    (hstate : p.state = .connecting) (hautonomous : cfg.autonomousEnabled = true)
    (hdesired : p.desiredPlaying = true) (code : Option ℕ) (message : String) :
    ¬ (p.onStreamEvent cfg env (some p.sessionToken) (.error code message)).Waits f := by
  have hpolicy : p.applyPolicy cfg env .janusError =
      p.handleStreamFailure cfg env "janus_error" medium := by
    rw [applyPolicy, decidePolicy,
      if_neg (by rw [hdesired]; exact fun h => Bool.noConfusion h.1)]
    rfl
  rw [onStreamEvent, if_neg (by simp),
    if_neg (by rw [hdesired]; exact fun h => Bool.noConfusion h.1)]
  split_ifs
  · exact not_waits_handleStreamFailure hold hstate hautonomous hdesired _ _
  · rw [hpolicy]
    exact not_waits_handleStreamFailure hold hstate hautonomous hdesired _ _

end Controller

/-! ## Failures that are noticed -/

namespace ConnectRun

open Controller

variable (cfg : PlayerConfig) (choice : StreamChoice)

/-- What is noticed of an answer: a session that is not there when the flow goes on to the list, a
list that has none for it, and a watch that was told to be refused. -/
def noticedAnswer (p : Controller) (f : ConnectFlow) (m : Mark) : ConnectAnswer → Prop
  | .init ready =>
      f.step = .init → ready = true ∨
        p.desiredPlaying = true ∧ (cfg.joystick = true ∨ p.streamId = none)
  | .other _ =>
      f.step = .textRoom → m.failed = true → p.desiredPlaying = true ∧ p.streamId = none
  | .list streams =>
      f.step = .listStreams → m.failed = true → selectStreamId choice streams = none
  | .watch accepted => f.step = .watch → accepted = true ∨ m.told = true

/-- No failure stays unnoticed: an answer of the kind above, and a refusal only for a controller
that may recover. -/
def Noticed (s : ConnectRun) : ConnectEvent → Prop
  | .turn .. => True
  | .answer _ i answer =>
      ∀ (f : ConnectFlow) (m : Mark), s.controller.connects[i]? = some f → s.marks[i]? = some m →
        s.controller.Waits f → noticedAnswer cfg choice s.controller f m answer
  | .refused _ i _ _ =>
      ∀ f : ConnectFlow, s.controller.connects[i]? = some f → s.controller.Waits f →
        cfg.autonomousEnabled = true ∧ s.controller.desiredPlaying = true

/-- A connect that has failed and that finishes in its generation, to play still, has left
CONNECTING. -/
def Audible (s : ConnectRun) : ConnectEvent → Prop
  | .answer env i answer =>
      let next := ((connectMachine cfg choice).next s (.answer env i answer)).controller
      ∀ (f : ConnectFlow) (m : Mark), s.controller.connects[i]? = some f → s.marks[i]? = some m →
        m.failed = true ∨ answer.failed = true →
        next.connects.length < s.controller.connects.length →
        next.sessionToken = f.token → next.desiredPlaying = true → next.state ≠ .connecting
  | .turn .. | .refused .. => True

/-- What a flow that the controller waits for has behind it: nothing was told, and what has failed
has not got to a stream. -/
structure Quiet (f : ConnectFlow) (m : Mark) : Prop where
  untold : m.told = false
  listing : m.failed = true → f.step = .textRoom ∨ f.step = .listStreams

/-- The connect flows that the controller waits for are quiet. -/
structure Sound (s : ConnectRun) : Prop where
  length : s.marks.length = s.controller.connects.length
  begun : s.controller.Begun
  quiet : ∀ (i : ℕ) (f : ConnectFlow) (m : Mark), s.controller.connects[i]? = some f →
    s.marks[i]? = some m → s.controller.Waits f → Quiet f m

theorem sound_initial : Sound {} where
  length := rfl
  begun := fun f hf => by cases hf
  quiet := fun i f m hf => by cases hf

variable {cfg choice} {env : Surroundings} {s : ConnectRun} {p : Controller}

/-- A turn in which no connect flow goes on: none waits that has not waited before. -/
theorem Sound.advance (h : s.Sound) (hmoves : Moves cfg False s.controller p) {marks : List Mark}
    (hlength : marks.length = s.marks.length)
    (hmarks : ∀ (i : ℕ) (f : ConnectFlow) (m : Mark), s.controller.connects[i]? = some f →
      marks[i]? = some m → p.Waits f → s.marks[i]? = some m) : (s.advance p marks).Sound := by
  obtain ⟨hkept, hbegun⟩ := hmoves.connects h.begun
  obtain ⟨added, hconnects⟩ := hkept
  have hlengths : marks.length = s.controller.connects.length := hlength.trans h.length
  have hnew : (s.advance p marks).marks =
      marks ++ List.replicate (p.connects.length - marks.length) ({} : Mark) := rfl
  refine ⟨?_, hbegun, ?_⟩
  · rw [hnew, List.length_append, List.length_replicate]
    change _ = p.connects.length
    rw [← hconnects, List.length_append]
    omega
  · intro i f m hf hm hwaits
    change p.connects[i]? = some f at hf
    change p.Waits f at hwaits
    rw [hnew] at hm
    rcases lt_or_ge i marks.length with hold | hadded
    · rw [List.getElem?_append_left hold] at hm
      rw [← hconnects, List.getElem?_append_left (hlengths ▸ hold)] at hf
      have hbefore := hmoves.onward.waits f (h.begun f (List.mem_of_getElem? hf)) hwaits
      exact h.quiet i f m hf (hmarks i f m hf hm hwaits) hbefore
    · rw [List.getElem?_append_right hadded] at hm
      have hfresh : m = ({} : Mark) := List.eq_of_mem_replicate (List.mem_of_getElem? hm)
      rw [hfresh]
      exact ⟨rfl, Bool.noConfusion⟩

theorem Sound.turn (h : s.Sound) (input : PlayerInput) : (s.turn cfg env input).Sound := by
  have hadvanced : (∀ i outcome, input = .connect i outcome → False) →
      (s.advance ((playerMachine cfg).next s.controller (env, input)) s.marks).Sound :=
    fun hother => h.advance (moves_turn s.controller (env, input) hother) rfl
      fun _ _ _ _ hm _ => hm
  cases input with
  | connect => exact h
  | _ => exact hadvanced fun _ _ hconnect => PlayerInput.noConfusion hconnect

theorem Sound.refused (h : s.Sound) {i : ℕ} {code : Option ℕ} {message : String}
    (hnoticed : Noticed cfg choice s (.refused env i code message)) :
    (s.onRefused cfg env i code message).Sound := by
  rw [ConnectRun.onRefused]
  split_ifs
  · have hmoves : Moves cfg False s.controller _ := moves_turn s.controller
      (env, .streamEvent (some s.controller.sessionToken) (.error code message))
      fun _ _ hconnect => PlayerInput.noConfusion hconnect
    refine h.advance hmoves (List.length_modify _ _ _) fun j f m hf hm hwaits => ?_
    rw [List.getElem?_modify] at hm
    by_cases hflow : i = j
    · subst hflow
      have hold := h.begun f (List.mem_of_getElem? hf)
      have hbefore := hmoves.onward.waits f hold hwaits
      obtain ⟨hautonomous, hdesired⟩ := hnoticed f hf hbefore
      have hleft := @not_waits_onStreamEvent cfg env
        { s.controller with throws := env.throws } f hold hbefore.2 hautonomous hdesired code message
      exact absurd hwaits hleft
    · simpa [hflow] using hm
  · exact h

/-- A flow that has failed gets, if it is noticed, only as far as the list. -/
theorem Quiet.nextStep {f : ConnectFlow} {m : Mark} {answer : ConnectAnswer}
    {outcome : FlowOutcome} (h : Quiet f m) (hwaits : p.Waits f)
    (houtcome : f.step.outcome choice answer = some outcome)
    (hpicked : f.step = .listStreams → ∃ streamId, outcome = .picked streamId)
    (hnoticed : noticedAnswer cfg choice p f m answer)
    (hfailed : m.failed = true ∨ answer.failed = true) :
    nextStep cfg p f = .textRoom ∨ nextStep cfg p f = .listStreams := by
  have hfresh : p.desiredPlaying = true → p.dropIfStale f.token = false := by
    intro hdesired
    rw [dropIfStale, hdesired, hwaits.1]
    simp
  rw [Controller.nextStep]
  cases hstep : f.step with
  | init =>
      rw [hstep] at houtcome
      have hunready : m.failed ≠ true := fun hm => by simpa [hstep] using h.listing hm
      cases answer with
      | init ready =>
          rcases hnoticed hstep with hready | ⟨hdesired, hjoystick | hnone⟩
          · rcases hfailed with hm | ha
            · exact absurd hm hunready
            · rw [hready] at ha
              cases ha
          · simp [hfresh hdesired, hjoystick]
          · by_cases hjoystick : cfg.joystick = true
            · simp [hfresh hdesired, hjoystick]
            · simp [hfresh hdesired, hjoystick, hnone]
      | list | watch | other => cases houtcome
  | textRoom =>
      rw [hstep] at houtcome
      cases answer with
      | other =>
          obtain ⟨hdesired, hnone⟩ := hnoticed hstep (hfailed.resolve_right Bool.noConfusion)
          simp [hfresh hdesired, hnone]
      | init | list | watch => cases houtcome
  | listStreams =>
      obtain ⟨streamId, hid⟩ := hpicked hstep
      rw [hstep] at houtcome
      cases answer with
      | list streams =>
          have hnone := hnoticed hstep (hfailed.resolve_right Bool.noConfusion)
          rw [ConnectStep.outcome, hnone, hid] at houtcome
          cases houtcome
      | init | watch | other => cases houtcome
  | watch =>
      rw [hstep] at houtcome
      have hunfailed : m.failed ≠ true := fun hm => by simpa [hstep] using h.listing hm
      cases answer with
      | watch accepted =>
          rcases hnoticed hstep with haccepted | htold
          · rcases hfailed with hm | ha
            · exact absurd hm hunfailed
            · rw [haccepted] at ha
              cases ha
          · rw [h.untold] at htold
            cases htold
      | init | list | other => cases houtcome
  | selected | ensured | ensurePlaying =>
      rw [hstep] at houtcome
      have hunfailed : m.failed ≠ true := fun hm => by simpa [hstep] using h.listing hm
      cases answer with
      | other => exact absurd (hfailed.resolve_right Bool.noConfusion) hunfailed
      | init | list | watch => cases houtcome

theorem length_marked (marks : List Mark) (i : ℕ) (answer : ConnectAnswer) :
    (marked marks i answer).length = marks.length := by
  rw [marked]
  split_ifs
  · exact List.length_modify _ _ _
  · rfl

/-- An answer marks its own flow, and only as failed. -/
theorem marked_get {marks : List Mark} {i j : ℕ} {answer : ConnectAnswer} {m' : Mark}
    (h : (marked marks i answer)[j]? = some m') :
    ∃ m, marks[j]? = some m ∧ (m' = m ∨
      i = j ∧ answer.failed = true ∧ m' = { m with failed := true }) := by
  rw [marked] at h
  split_ifs at h with hfailed
  · rw [List.getElem?_modify] at h
    cases hm : marks[j]? with
    | none =>
        rw [hm] at h
        cases h
    | some m =>
        rw [hm] at h
        by_cases hflow : i = j
        · simp only [hflow, if_true, Option.map_eq_map, Option.map_some, Option.some.injEq] at h
          exact ⟨m, rfl, .inr ⟨hflow, hfailed, h.symm⟩⟩
        · simp only [hflow, if_false, Option.map_eq_map, Option.map_some, Option.some.injEq] at h
          exact ⟨m, rfl, .inl h.symm⟩
  · exact ⟨m', h, .inl rfl⟩

section Answer

variable {q : Controller} {i : ℕ} {f : ConnectFlow} {answer : ConnectAnswer}

/-- The flows that are not answered and their marks stay what they were. -/
theorem Sound.others (h : s.Sound) (honward : Onward s.controller q) {j : ℕ} {f' : ConnectFlow}
    {m' : Mark} (hf' : s.controller.connects[j]? = some f')
    (hm' : (marked s.marks i answer)[j]? = some m') (hother : i ≠ j) (hwaits : q.Waits f') :
    Quiet f' m' := by
  obtain ⟨m, hm, rfl | ⟨hsame, -⟩⟩ := marked_get hm'
  · exact h.quiet j f' m' hf' hm (honward.waits f' (h.begun f' (List.mem_of_getElem? hf')) hwaits)
  · exact absurd hsame hother

theorem Sound.begun_onward (h : s.Sound) (honward : Onward s.controller q)
    (hf : f ∈ s.controller.connects) : f.token ≤ q.sessionToken :=
  (h.begun f hf).trans honward.token

/-- A flow that ends takes its mark with it. -/
theorem Sound.flowEnds (h : s.Sound) (honward : Onward s.controller q)
    (hconnects : q.connects = s.controller.connects.eraseIdx i) :
    Sound { s with controller := q, marks := (marked s.marks i answer).eraseIdx i } := by
  have hlength : (marked s.marks i answer).length = s.controller.connects.length :=
    (length_marked s.marks i answer).trans h.length
  refine ⟨?_, fun f' hf' => ?_, fun j f' m' hf' hm' hwaits => ?_⟩
  · simp only
    rw [hconnects, List.length_eraseIdx, List.length_eraseIdx, hlength]
  · simp only at hf'
    rw [hconnects] at hf'
    exact h.begun_onward honward (List.mem_of_mem_eraseIdx hf')
  · simp only at hf' hm'
    rw [hconnects, List.getElem?_eraseIdx] at hf'
    rw [List.getElem?_eraseIdx] at hm'
    split_ifs at hf' hm' with hj
    · exact h.others honward hf' hm' (by omega) hwaits
    · exact h.others honward hf' hm' (by omega) hwaits

/-- An answer that the flow does not look at changes nothing. -/
theorem Sound.flowIgnores (h : s.Sound) (honward : Onward s.controller q)
    (hconnects : q.connects = s.controller.connects) :
    Sound { s with controller := q } := by
  refine ⟨?_, fun f' hf' => ?_, fun j f' m' hf' hm' hwaits => ?_⟩
  · simp only
    rw [h.length, hconnects]
  · simp only at hf'
    rw [hconnects] at hf'
    exact h.begun_onward honward hf'
  · simp only at hf'
    rw [hconnects] at hf'
    exact h.quiet j f' m' hf' hm'
      (honward.waits f' (h.begun f' (List.mem_of_getElem? hf')) hwaits)

/-- A flow that goes on after a noticed answer is quiet at its next step. -/
theorem Sound.flowWaits (h : s.Sound) (honward : Onward s.controller q)
    (hf : s.controller.connects[i]? = some f) {outcome : FlowOutcome}
    (houtcome : f.step.outcome choice answer = some outcome)
    (hnoticed : Noticed cfg choice s (.answer env i answer))
    (hconnects : q.connects =
      s.controller.connects.set i { token := f.token, step := nextStep cfg s.controller f })
    (hpicked : f.step = .listStreams → ∃ streamId, outcome = .picked streamId) :
    Sound { s with controller := q, marks := marked s.marks i answer } := by
  have hi : i < s.controller.connects.length := (List.getElem?_eq_some_iff.mp hf).1
  refine ⟨?_, fun f' hf' => ?_, fun j f' m' hf' hm' hwaits => ?_⟩
  · simp only
    rw [length_marked, h.length, hconnects, List.length_set]
  · simp only at hf'
    rw [hconnects] at hf'
    rcases List.mem_or_eq_of_mem_set hf' with hold | hnew
    · exact h.begun_onward honward hold
    · rw [hnew]
      show f.token ≤ q.sessionToken
      exact h.begun_onward honward (List.mem_of_getElem? hf)
  · simp only at hf' hm'
    rw [hconnects, List.getElem?_set] at hf'
    by_cases hflow : i = j
    · subst hflow
      rw [if_pos rfl, if_pos hi, Option.some.injEq] at hf'
      subst hf'
      have hbefore : s.controller.Waits f :=
        honward.waits f (h.begun f (List.mem_of_getElem? hf)) hwaits
      obtain ⟨m, hm, hmarked⟩ := marked_get hm'
      have hquiet := h.quiet i f m hf hm hbefore
      refine ⟨?_, fun hfailed => ?_⟩
      · rcases hmarked with rfl | ⟨-, -, rfl⟩
        · exact hquiet.untold
        · exact hquiet.untold
      · refine hquiet.nextStep hbefore houtcome hpicked (hnoticed f m hf hm hbefore) ?_
        rcases hmarked with rfl | ⟨-, ha, -⟩
        · exact .inl hfailed
        · exact .inr ha
    · rw [if_neg hflow] at hf'
      exact h.others honward hf' hm' hflow hwaits

end Answer

/-- A connect flow that goes on stays quiet. -/
theorem Sound.answer (h : s.Sound) {i : ℕ} {answer : ConnectAnswer}
    (hnoticed : Noticed cfg choice s (.answer env i answer)) :
    (s.onAnswer cfg choice env i answer).Sound := by
  rw [onAnswer]
  split
  · exact h
  · rename_i outcome hsome
    obtain ⟨f, hf, houtcome⟩ := Option.bind_eq_some_iff.mp hsome
    have hi : i < s.controller.connects.length := (List.getElem?_eq_some_iff.mp hf).1
    have hstep : FlowStep cfg s.controller i f outcome _ := @flowStep_next cfg env _ i f hf outcome
    generalize (playerMachine cfg).next s.controller (env, .connect i outcome) = q at hstep ⊢
    have honward := hstep.onward
    cases hstep with
    | fails _ _ hconnects | ends _ hconnects =>
        have hshorter : q.connects.length < s.controller.connects.length := by
          rw [hconnects, List.length_eraseIdx_of_lt hi]
          omega
        simp only [if_pos hshorter]
        exact h.flowEnds honward hconnects
    | ignored hcore hconnects hlist =>
        have hkept : ¬ q.connects.length < s.controller.connects.length := by
          rw [hconnects]
          exact lt_irrefl _
        have hunmarked : marked s.marks i answer = s.marks := by
          rw [hlist] at houtcome
          cases answer with
          | list => rfl
          | init | watch | other => cases houtcome
        simp only [if_neg hkept]
        rw [hunmarked]
        exact h.flowIgnores honward hconnects
    | waits hcore hconnects hpicked =>
        have hkept : ¬ q.connects.length < s.controller.connects.length := by
          rw [hconnects, List.length_set]
          exact lt_irrefl _
        simp only [if_neg hkept]
        exact h.flowWaits honward hf houtcome hnoticed hconnects hpicked

/-- A failed connect that finishes to play has left CONNECTING. -/
theorem Sound.audible (h : s.Sound) (e : ConnectEvent) : Audible cfg choice s e := by
  cases e with
  | turn | refused => trivial
  | answer env i answer =>
      intro f m hf hm hfailed hshorter htoken hdesired hconnecting
      change (s.onAnswer cfg choice env i answer).controller.connects.length < _ at hshorter
      change (s.onAnswer cfg choice env i answer).controller.sessionToken = _ at htoken
      change (s.onAnswer cfg choice env i answer).controller.desiredPlaying = _ at hdesired
      change (s.onAnswer cfg choice env i answer).controller.state = _ at hconnecting
      rw [onAnswer] at hshorter htoken hdesired hconnecting
      cases houtcome : f.step.outcome choice answer with
      | none =>
          simp only [hf, Option.bind_some, houtcome] at hshorter
          exact lt_irrefl _ hshorter
      | some outcome =>
          simp only [hf, Option.bind_some, houtcome] at hshorter htoken hdesired hconnecting
          have hold := h.begun f (List.mem_of_getElem? hf)
          have hstep : FlowStep cfg s.controller i f outcome _ :=
            @flowStep_next cfg env _ i f hf outcome
          cases hstep with
          | waits _ hconnects =>
              rw [hconnects, List.length_set] at hshorter
              exact lt_irrefl _ hshorter
          | ignored _ hconnects =>
              rw [hconnects] at hshorter
              exact lt_irrefl _ hshorter
          | fails hlater =>
              rw [htoken] at hlater
              exact absurd hold (not_le_of_gt hlater)
          | ends hcore _ hsame hend =>
              have hwaits : s.controller.Waits f :=
                ⟨hcore.token.symm.trans htoken, hcore.state.symm.trans hconnecting⟩
              rcases hend with hstale | hlast
              · rw [dropIfStale, hwaits.1, ← hsame, hdesired] at hstale
                simp at hstale
              · rw [hlast] at houtcome
                cases answer with
                | other =>
                    have hlisting := (h.quiet i f m hf hm hwaits).listing
                      (hfailed.resolve_right Bool.noConfusion)
                    simp [hlast] at hlisting
                | init | list | watch => cases houtcome

variable (cfg choice) in
/-- Whatever the session, the attaching, the list and the watch come to: where every failure is
noticed, no failed connect ends in CONNECTING. -/
theorem failed_connects_audible (events : List ConnectEvent)
    (hnoticed : (connectMachine cfg choice).Along (Noticed cfg choice) {} events) :
    (connectMachine cfg choice).Along (Audible cfg choice) {} events := by
  have hstep : ∀ (s : ConnectRun) (e : ConnectEvent), s.Sound → Noticed cfg choice s e →
      ((connectMachine cfg choice).next s e).Sound := by
    intro s e hsound hnoticed
    cases e with
    | turn env input => exact hsound.turn input
    | answer env i answer => exact hsound.answer hnoticed
    | refused env i code message => exact hsound.refused hnoticed
  exact (connectMachine cfg choice).along_of_invariant hstep
    (fun s e hsound _ => hsound.audible e) hnoticed sound_initial

/-- Without a preferred stream, a session that cannot be created has no list, and the player
fails. -/
theorem failed_connects_audible_unpreferred :
    (connectMachine {} {}).Along (Audible {} {}) {}
      [.turn undisturbed .togglePlay, .answer undisturbed 0 (.init false),
        .answer undisturbed 0 (.list none)] :=
  failed_connects_audible {} {} _
    ⟨trivial, fun _ _ _ _ _ _ => .inr ⟨by decide, .inr (by decide)⟩,
      fun _ _ _ _ _ _ _ => by decide, trivial⟩

/-- With a preferred stream, nothing that fails is noticed: session and handle are not there, the
watch has no handle, and the flow ends in CONNECTING. -/
theorem connect_fails_silently :
    ¬ ∀ (cfg : PlayerConfig) (choice : StreamChoice) (events : List ConnectEvent),
      (connectMachine cfg choice).Along (Audible cfg choice) {} events := by
  intro h
  have hrun := h {} { preferStreamId := some 1 }
    ([.turn undisturbed .togglePlay, .answer undisturbed 0 (.init false),
      .answer undisturbed 0 (.list none), .answer undisturbed 0 (.other .done),
      .answer undisturbed 0 (.watch false), .answer undisturbed 0 (.other .done)] ++
      [.answer undisturbed 0 (.other .done)])
  have hlast := ((Machine.along_append _ _ _ _).mp hrun).2.1
  exact hlast { token := 1, step := .ensurePlaying } { failed := true } (by decide +kernel)
    (by decide +kernel) (.inl rfl) (by decide +kernel) (by decide +kernel) (by decide +kernel)
    (by decide +kernel)

end ConnectRun

end CameraStack.Player
