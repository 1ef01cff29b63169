/-
# The Janus session

The session manager owns the Janus object.  Creations and destructions take turns, each waiting
for the one before it, and a call that waits for its turn is told of the outcome a few promise
jobs later; those jobs are events of their own here, and so are the callbacks of the library and
the timers, in any order.

`init` only asks whether there is a Janus object.  The object is there from its construction on,
ready or not, and it stays when the library reports an error or that it was destroyed.  So a
resolved `init` means a usable session where nobody asks while a session is created, and nobody
asks after a bad report until the session it was about is destroyed.
-/

import CameraStack.Lib.Until

namespace CameraStack.Player

open CameraStack.Lib

/-- What is raised, as text. -/
abbrev JsError := String

/-- `cfg.janusWs` and `cfg.janusRest`. -/
structure JanusServers where
  janusWs : Option String
  janusRest : Option String

/-- The servers that are set. -/
def JanusServers.servers (cfg : JanusServers) : List String :=
  cfg.janusWs.toList ++ cfg.janusRest.toList

/-- The configuration of WebRTC. -/
structure RtcConfig where
  iceServers : List String
  iceTransportPolicy : Option String
  deriving DecidableEq

/-- A Janus object: what it was made with, in which generation, and what the library has reported
of it. -/
structure JanusObject where
  server : List String
  iceServers : List String
  iceTransportPolicy : String
  gen : ℕ
  succeeded : Bool := false
  failed : Bool := false
  lost : Bool := false
  deriving DecidableEq

/-- What the observers of the manager are told. -/
inductive SessionEvent
  | ready (gen : ℕ)
  | error (place : String) (err : JsError)
  | destroyed (gen : ℕ)
  | recreated (gen : ℕ)
  deriving DecidableEq, Repr

/-- Who waits for an `init()`: its caller, an `attach`, or the second half of a `recreate` that
began in a generation. -/
inductive Purpose
  | init
  | attach
  | recreate (beforeGen : ℕ)
  deriving DecidableEq

/-- A `recreate` in its first half. -/
structure Recreate where
  beforeGen : ℕ
  rtcConfig : Option RtcConfig
  deriving DecidableEq

/-- How far a call has come.  `told` and `toldDestroyed` are the promise jobs after its turn. -/
inductive Phase
  | queued (purpose : Purpose)
  | told (purpose : Purpose) (error : Option JsError)
  | resumes (purpose : Purpose)
  | queuedDestroy (recreates : Option Recreate)
  | toldDestroyed (recreates : Option Recreate)
  | attaches (object : ℕ)
  | ended (error : Option JsError)
  deriving DecidableEq

/-- What takes a turn. -/
inductive Inner
  | init
  | destroy
  deriving DecidableEq

/-- The turn that goes on: a creation that races with its timeout, or a destruction.
`_ensurePromise` is set while a creation goes on, and nothing else starts then. -/
inductive Turn
  | creating (call : ℕ) (object : ℕ)
  | destroying (call : ℕ) (gen : ℕ)
  deriving DecidableEq

/-- The manager, with the objects it has created and the calls of its methods, both in order. -/
structure Manager where
  objects : List JanusObject := []
  janus : Option ℕ := none
  rtcConfig : Option RtcConfig := none
  gen : ℕ := 0
  destroyingByUs : Bool := false
  turn : Option Turn := none
  waiting : List (ℕ × Inner) := []
  calls : List Phase := []
  deriving DecidableEq

/-- What happens to the manager: calls, turns, callbacks of a Janus object, timers, and promise
jobs. -/
inductive ManagerEvent
  | init (rtcConfig : Option RtcConfig)
  | attach
  | destroy
  | recreate (rtcConfig : Option RtcConfig)
  | start (throws : Option JsError)
  | success (object : ℕ)
  | error (object : ℕ) (err : JsError)
  | destroyed (object : ℕ)
  | initTimeout
  | destroyDone
  | deliver (call : ℕ)
  | attached (call : ℕ) (error : Option JsError)
  deriving DecidableEq

/-- A call of `init()` hears how its turn went. -/
def Phase.hear (error : Option JsError) : Phase → Phase
  | .queued purpose => .told purpose error
  | phase => phase

/-- A call of `destroy()` hears that its turn is over. -/
def Phase.hearDestroyed : Phase → Phase
  | .queuedDestroy recreates => .toldDestroyed recreates
  | phase => phase

namespace Manager

/-! ## Calls -/

/-- `setRtcConfig`. -/
def setRtcConfig (m : Manager) (rtcConfig : Option RtcConfig) : Manager :=
  { m with rtcConfig := rtcConfig.or m.rtcConfig }

/-- A call goes on. -/
def setCall (m : Manager) (call : ℕ) (phase : Phase) : Manager :=
  { m with calls := m.calls.set call phase }

/-- A new call. -/
def newCall (m : Manager) (phase : Phase) : Manager := { m with calls := m.calls ++ [phase] }

/-- A turn is asked for. -/
def enqueue (m : Manager) (call : ℕ) (inner : Inner) : Manager :=
  { m with waiting := m.waiting ++ [(call, inner)] }

/-- `init()` without a configuration: it is resolved where there is a Janus object, and waits for
its turn where there is none. -/
def initPhase (m : Manager) (purpose : Purpose) : Phase :=
  if m.janus.isSome then .resumes purpose else .queued purpose

/-- It asks for that turn. -/
def askInit (m : Manager) (call : ℕ) : Manager :=
  if m.janus.isSome then m else m.enqueue call .init

/-- A call of `init()` that begins. -/
def beginInit (m : Manager) (purpose : Purpose) : Manager :=
  (m.newCall (m.initPhase purpose)).askInit m.calls.length

/-! ## Turns -/

/-- A creation is over. -/
def settleInit (m : Manager) (call : ℕ) (error : Option JsError) : Manager :=
  { m with turn := none, calls := m.calls.modify call (Phase.hear error) }

/-- A destruction is over. -/
def settleDestroy (m : Manager) (call : ℕ) : Manager :=
  { m with turn := none, calls := m.calls.modify call Phase.hearDestroyed }

/-- `_initInner`; what `new Janus` raises is given. -/
def startInit (cfg : JanusServers) (m : Manager) (call : ℕ) (throws : Option JsError) :
    Manager × List SessionEvent :=
  if m.janus.isSome then (m.settleInit call none, [])
  else if cfg.servers = [] then
    (m.settleInit call (some "Error: Missing Janus server endpoint"), [])
  else
    match m.rtcConfig with
    | none =>
        (m.settleInit call (some
          "Error: RTC config not set; call sessionManager.init(rtcConfig) during bootstrap"), [])
    | some rtc =>
        match throws with
        | some e => (m.settleInit call (some e), [.error "create_session_throw" e])
        | none =>
            ({ m with
                objects := m.objects ++
                  [{ server := cfg.servers, iceServers := rtc.iceServers, gen := m.gen
                     iceTransportPolicy := rtc.iceTransportPolicy.getD "all" }]
                janus := some m.objects.length
                turn := some (.creating call m.objects.length) }, [])

/-- `_destroyInner`. -/
def startDestroy (m : Manager) (call : ℕ) : Manager × List SessionEvent :=
  if m.janus.isSome then
    ({ m with
        janus := none, gen := m.gen + 1, destroyingByUs := true
        turn := some (.destroying call (m.gen + 1)) }, [])
  else (({ m with gen := m.gen + 1 } : Manager).settleDestroy call, [.destroyed (m.gen + 1)])

/-- The next turn, when none goes on. -/
def start (cfg : JanusServers) (m : Manager) (throws : Option JsError) :
    Manager × List SessionEvent :=
  match m.turn, m.waiting with
  | none, (call, .init) :: rest => startInit cfg { m with waiting := rest } call throws
  | none, (call, .destroy) :: rest => startDestroy { m with waiting := rest } call
  | _, _ => (m, [])

/-! ## Callbacks and timers -/

/-- The library reports something of an object. -/
def report (m : Manager) (object : ℕ) (f : JanusObject → JanusObject) : Manager :=
  { m with objects := m.objects.modify object f }

/-- The object is of this generation. -/
def current (m : Manager) (object : ℕ) : Bool :=
  (m.objects[object]?).any fun o => o.gen = m.gen

/-- The creation of an object is over, if it goes on. -/
def endCreation (m : Manager) (object : ℕ) (error : Option JsError) : Manager :=
  match m.turn with
  | some (.creating call created) => if created = object then m.settleInit call error else m
  | _ => m

/-- `success`. -/
def onSuccess (m : Manager) (object : ℕ) : Manager × List SessionEvent :=
  let m := m.report object fun o => { o with succeeded := true }
  if m.current object then (m.endCreation object none, [.ready m.gen]) else (m, [])

/-- `error`. -/
def onError (m : Manager) (object : ℕ) (err : JsError) : Manager × List SessionEvent :=
  let m := m.report object fun o => { o with failed := true }
  if m.current object then (m.endCreation object (some err), [.error "create_session" err])
  else (m, [])

/-- `destroyed`. -/
def onDestroyed (m : Manager) (object : ℕ) : Manager × List SessionEvent :=
  let m := m.report object fun o => { o with lost := true }
  (m, if m.current object && !m.destroyingByUs then [.destroyed m.gen] else [])

/-- The timeout of a creation; the object of another generation is left alone. -/
def onInitTimeout (m : Manager) : Manager :=
  match m.turn with
  | some (.creating call object) =>
      ({ m with janus := if m.current object then none else m.janus } : Manager).settleInit call
        (some "Error: janus_init_timeout")
  | _ => m

/-- The library answers a destruction, or its timeout. -/
def onDestroyDone (m : Manager) : Manager × List SessionEvent :=
  match m.turn with
  | some (.destroying call gen) =>
      (({ m with destroyingByUs := false } : Manager).settleDestroy call,
        if m.gen = gen then [.destroyed gen] else [])
  | _ => (m, [])

/-- What follows a resolved `init()`. -/
def resume (m : Manager) (call : ℕ) (purpose : Purpose) : Manager × List SessionEvent :=
  match purpose with
  | .init => (m.setCall call (.ended none), [])
  | .attach =>
      match m.janus with
      | some object => (m.setCall call (.attaches object), [])
      | none => (m.setCall call (.ended (some "Error: Janus session not available")), [])
  | .recreate beforeGen =>
      (m.setCall call (.ended none), if m.gen = beforeGen + 1 then [.recreated m.gen] else [])

/-- A promise job of a call. -/
def deliver (m : Manager) (call : ℕ) : Manager × List SessionEvent :=
  match m.calls[call]? with
  | some (.told _ (some e)) => (m.setCall call (.ended (some e)), [])
  | some (.told purpose none) | some (.resumes purpose) => m.resume call purpose
  | some (.toldDestroyed none) => (m.setCall call (.ended none), [])
  | some (.toldDestroyed (some recreates)) =>
      (((m.setRtcConfig recreates.rtcConfig).setCall call
        (m.initPhase (.recreate recreates.beforeGen))).askInit call, [])
  | _ => (m, [])

end Manager

/-- The manager, event after event, with what its observers are told. -/
def managerMachine (cfg : JanusServers) : Machine Manager ManagerEvent SessionEvent where
  step m
    | .init rtcConfig => ((m.setRtcConfig rtcConfig).beginInit .init, [])
    | .attach => (m.beginInit .attach, [])
    | .destroy => ((m.newCall (.queuedDestroy none)).enqueue m.calls.length .destroy, [])
    | .recreate rtcConfig =>
        ((m.newCall (.queuedDestroy (some ⟨m.gen, rtcConfig⟩))).enqueue m.calls.length .destroy, [])
    | .start throws => m.start cfg throws
    | .success object => m.onSuccess object
    | .error object err => m.onError object err
    | .destroyed object => m.onDestroyed object
    | .initTimeout => (m.onInitTimeout, [])
    | .destroyDone => m.onDestroyDone
    | .deliver call => m.deliver call
    | .attached call error =>
        (match m.calls[call]? with
          | some (.attaches _) => m.setCall call (.ended error)
          | _ => m, [])

/-! ## A usable session -/

/-- The creation has succeeded, and neither an error nor a destruction was reported. -/
def JanusObject.Usable (o : JanusObject) : Prop :=
  o.succeeded = true ∧ o.failed = false ∧ o.lost = false

instance (o : JanusObject) : Decidable o.Usable := inferInstanceAs (Decidable (_ ∧ _ ∧ _))

/-- The call was told that its turn went well. -/
def Phase.succeeded : Phase → Bool
  | .told _ none => true
  | _ => false

/-- The call is a `recreate` that goes on to `init()`. -/
def Phase.recreating : Phase → Bool
  | .toldDestroyed (some _) => true
  | _ => false

namespace Manager

/-- There is a Janus object, and it is usable. -/
def Usable (m : Manager) : Prop := ∃ object ∈ m.janus, ∃ o ∈ m.objects[object]?, o.Usable

instance (m : Manager) : Decidable m.Usable :=
  inferInstanceAs (Decidable (∃ object ∈ m.janus, ∃ o ∈ m.objects[object]?, o.Usable))

/-- A call was told of a success that it has not gone on with. -/
def Told (m : Manager) : Prop := ∃ phase ∈ m.calls, phase.succeeded = true

instance (m : Manager) : Decidable m.Told :=
  inferInstanceAs (Decidable (∃ phase ∈ m.calls, phase.succeeded = true))

/-- The object whose creation goes on. -/
def creating (m : Manager) : Option ℕ :=
  match m.turn with
  | some (.creating _ object) => some object
  | _ => none

/-- The turn that comes next. -/
def nextTurn (m : Manager) : Option Inner :=
  match m.turn with
  | some _ => none
  | none => m.waiting.head?.map Prod.snd

/-- The event resolves a call of `init()`. -/
def Resolves (m : Manager) : ManagerEvent → Prop
  | .init _ | .attach => m.janus.isSome = true
  | .deliver call => ∃ phase ∈ m.calls[call]?,
      phase.succeeded = true ∨ phase.recreating = true ∧ m.janus.isSome = true
  | _ => False

/-- The event ends the turn of a call of `init()` with an error. -/
def Fails (cfg : JanusServers) (m : Manager) (e : ManagerEvent) : Prop :=
  ∃ (call : ℕ) (purpose : Purpose) (err : JsError), m.calls[call]? = some (.queued purpose) ∧
    ((managerMachine cfg).next m e).calls[call]? = some (.told purpose (some err))

/-- A resolved `init()` means a usable session, and a failed one leaves no Janus object. -/
structure SoundInit (cfg : JanusServers) (m : Manager) (e : ManagerEvent) : Prop where
  usable : m.Resolves e → m.Usable
  clean : m.Fails cfg e → ((managerMachine cfg).next m e).janus = none

/-- An error is reported of the object there is, or its destruction. -/
def Breaks (m : Manager) : ManagerEvent → Prop
  | .error object _ | .destroyed object => m.janus = some object
  | _ => False

/-- A destruction begins, or a creation times out: the object there was is gone. -/
def Clears (m : Manager) : ManagerEvent → Prop
  | .start _ => m.nextTurn = some .destroy
  | .initTimeout => m.creating.isSome = true
  | _ => False

/-- A call of `init()` begins, or goes on behind a turn that went well. -/
def Relies (m : Manager) : ManagerEvent → Prop
  | .init _ | .attach => True
  | .deliver call => ∃ phase ∈ m.calls[call]?, phase.succeeded = true ∨ phase.recreating = true
  | _ => False

/-- No call of `init()` begins while a creation goes on, no creation ends with the error callback,
and no destruction begins while a call is yet to go on behind its turn. -/
def Orderly (m : Manager) : ManagerEvent → Prop
  | .init _ | .attach => m.creating = none
  | .deliver call => (∃ phase ∈ m.calls[call]?, phase.recreating = true) → m.creating = none
  | .start _ => m.nextTurn = some .destroy → ¬ m.Told
  | .error object _ => m.creating ≠ some object
  | _ => True

instance decidableBreaks (m : Manager) : ∀ e, Decidable (m.Breaks e)
  | .error object _ | .destroyed object => inferInstanceAs (Decidable (m.janus = some object))
  | .init _ | .attach | .destroy | .recreate _ | .start _ | .success _ | .initTimeout | .destroyDone
  | .deliver _ | .attached _ _ => isFalse id

instance decidableClears (m : Manager) : ∀ e, Decidable (m.Clears e)
  | .start _ => inferInstanceAs (Decidable (m.nextTurn = some .destroy))
  | .initTimeout => inferInstanceAs (Decidable (m.creating.isSome = true))
  | .init _ | .attach | .destroy | .recreate _ | .success _ | .error _ _ | .destroyed _
  | .destroyDone | .deliver _ | .attached _ _ => isFalse id

instance decidableRelies (m : Manager) : ∀ e, Decidable (m.Relies e)
  | .init _ | .attach => isTrue trivial
  | .deliver call => inferInstanceAs (Decidable
      (∃ phase ∈ m.calls[call]?, phase.succeeded = true ∨ phase.recreating = true))
  | .destroy | .recreate _ | .start _ | .success _ | .error _ _ | .destroyed _ | .initTimeout
  | .destroyDone | .attached _ _ => isFalse id

instance decidableOrderly (m : Manager) : ∀ e, Decidable (m.Orderly e)
  | .init _ | .attach => inferInstanceAs (Decidable (m.creating = none))
  | .deliver call => inferInstanceAs (Decidable
      ((∃ phase ∈ m.calls[call]?, phase.recreating = true) → m.creating = none))
  | .start _ => inferInstanceAs (Decidable (_ → ¬ _))
  | .error object _ => inferInstanceAs (Decidable (m.creating ≠ some object))
  | .destroy | .recreate _ | .success _ | .destroyed _ | .initTimeout | .destroyDone
  | .attached _ _ => isTrue trivial

/-- Nothing bad was reported of the object there is. -/
def Unharmed (m : Manager) : Prop :=
  ∀ object ∈ m.janus, ∀ o ∈ m.objects[object]?, o.failed = false ∧ o.lost = false

/-- Calls that were told of a success find an object that is not being created, the object that is
created is the one there is, and any other has succeeded. -/
structure Sound (m : Manager) : Prop where
  told : m.Told → m.janus.isSome = true ∧ m.creating = none
  created : ∀ object ∈ m.creating, m.janus = some object ∧
    ∃ o, m.objects[object]? = some o ∧ o.gen = m.gen
  settled : ∀ object ∈ m.janus, m.creating ≠ some object →
    ∃ o, m.objects[object]? = some o ∧ o.succeeded = true

section Sound

variable {m m' : Manager}

/-- An object that is not being created is usable unless something bad was reported of it. -/
theorem Sound.usable (h : m.Sound) (hunharmed : m.Unharmed) (hsome : m.janus.isSome = true)
    (hcreating : m.creating = none) : m.Usable := by
  obtain ⟨object, hjanus⟩ := Option.isSome_iff_exists.mp hsome
  obtain ⟨o, ho, hsucceeded⟩ := h.settled object hjanus (by rw [hcreating]; exact nofun)
  exact ⟨object, hjanus, o, ho, hsucceeded, hunharmed object hjanus o ho⟩

/-- Where nobody is told of a success anew and the session stays, nothing changes. -/
theorem Sound.of_frame (h : m.Sound) (hjanus : m'.janus = m.janus)
    (hobjects : m'.objects = m.objects) (hgen : m'.gen = m.gen)
    (hcreating : m'.creating = m.creating) (htold : m'.Told → m.Told) : m'.Sound := by
  constructor
  · intro hsuccess
    rw [hjanus, hcreating]
    exact h.told (htold hsuccess)
  · rw [hjanus, hobjects, hgen, hcreating]
    exact h.created
  · rw [hjanus, hobjects, hcreating]
    exact h.settled

/-- A call that goes on is not told of a success. -/
theorem told_setCall {call : ℕ} {phase : Phase} (hphase : phase.succeeded = false)
    (h : (m.setCall call phase).Told) : m.Told := by
  obtain ⟨other, hmem, hsuccess⟩ := h
  rcases List.mem_or_eq_of_mem_set hmem with hold | rfl
  · exact ⟨other, hold, hsuccess⟩
  · rw [hphase] at hsuccess
    cases hsuccess

theorem told_newCall {phase : Phase} (hphase : phase.succeeded = false)
    (h : (m.newCall phase).Told) : m.Told := by
  obtain ⟨other, hmem, hsuccess⟩ := h
  rcases List.mem_append.mp hmem with hold | hnew
  · exact ⟨other, hold, hsuccess⟩
  · rw [List.mem_singleton.mp hnew, hphase] at hsuccess
    cases hsuccess

theorem initPhase_succeeded (purpose : Purpose) : (m.initPhase purpose).succeeded = false := by
  rw [initPhase]
  split_ifs
  · rfl
  · rfl

theorem Sound.setCall (h : m.Sound) {phase : Phase} (hphase : phase.succeeded = false) (call : ℕ) :
    (m.setCall call phase).Sound :=
  h.of_frame rfl rfl rfl rfl (told_setCall hphase)

theorem Sound.newCall (h : m.Sound) {phase : Phase} (hphase : phase.succeeded = false) :
    (m.newCall phase).Sound :=
  h.of_frame rfl rfl rfl rfl (told_newCall hphase)

theorem Sound.setRtcConfig (h : m.Sound) (rtcConfig : Option RtcConfig) :
    (m.setRtcConfig rtcConfig).Sound :=
  h.of_frame rfl rfl rfl rfl id

theorem Sound.enqueue (h : m.Sound) (call : ℕ) (inner : Inner) : (m.enqueue call inner).Sound :=
  h.of_frame rfl rfl rfl rfl id

theorem Sound.askInit (h : m.Sound) (call : ℕ) : (m.askInit call).Sound := by
  rw [Manager.askInit]
  split_ifs
  · exact h
  · exact h.enqueue call .init

theorem Sound.beginInit (h : m.Sound) (purpose : Purpose) : (m.beginInit purpose).Sound :=
  (h.newCall (initPhase_succeeded purpose)).askInit _

/-- A turn that ends tells one call, of a success only if it has none to report. -/
theorem told_modify {f : Phase → Phase} {call : ℕ}
    (h : ∃ phase ∈ m.calls.modify call f, phase.succeeded = true) :
    m.Told ∨ ∃ phase ∈ m.calls, (f phase).succeeded = true := by
  obtain ⟨phase, hmem, hsuccess⟩ := h
  obtain ⟨i, hi⟩ := List.mem_iff_getElem?.mp hmem
  rw [List.getElem?_modify] at hi
  obtain ⟨old, hold, hnew⟩ := Option.map_eq_some_iff.mp hi
  have hmem' := List.mem_of_getElem? hold
  split_ifs at hnew with hcall
  · exact .inr ⟨old, hmem', by rw [hnew]; exact hsuccess⟩
  · exact .inl ⟨old, hmem', by rw [← id_eq old, hnew]; exact hsuccess⟩

theorem told_settleInit {call : ℕ} {error : Option JsError} (h : (m.settleInit call error).Told) :
    m.Told ∨ error = none := by
  rcases told_modify h with hold | ⟨phase, hmem, hsuccess⟩
  · exact .inl hold
  · cases phase with
    | queued purpose =>
        cases error with
        | none => exact .inr rfl
        | some e => cases hsuccess
    | told | resumes | queuedDestroy | toldDestroyed | attaches | ended =>
        exact .inl ⟨_, hmem, hsuccess⟩

theorem told_settleDestroy {call : ℕ} (h : (m.settleDestroy call).Told) : m.Told := by
  rcases told_modify h with hold | ⟨phase, hmem, hsuccess⟩
  · exact hold
  · cases phase with
    | queuedDestroy recreates => cases hsuccess
    | queued | told | resumes | toldDestroyed | attaches | ended => exact ⟨_, hmem, hsuccess⟩

/-- A turn that is over leaves a sound manager if the object there is has succeeded, and there is
one for the calls that were told of a success. -/
theorem sound_settleInit {call : ℕ} {error : Option JsError}
    (hold : m.Told → m.janus.isSome = true) (hnew : error = none → m.janus.isSome = true)
    (hsettled : ∀ object ∈ m.janus, ∃ o, m.objects[object]? = some o ∧ o.succeeded = true) :
    (m.settleInit call error).Sound := by
  refine ⟨fun hsuccess => ⟨?_, rfl⟩, fun object hobject => (by cases hobject),
    fun object hobject _ => hsettled object hobject⟩
  rcases told_settleInit hsuccess with htold | hnone
  · exact hold htold
  · exact hnew hnone

theorem sound_settleDestroy {call : ℕ} (hold : m.Told → m.janus.isSome = true)
    (hsettled : ∀ object ∈ m.janus, ∃ o, m.objects[object]? = some o ∧ o.succeeded = true) :
    (m.settleDestroy call).Sound :=
  ⟨fun hsuccess => ⟨hold (told_settleDestroy hsuccess), rfl⟩,
    fun object hobject => (by cases hobject), fun object hobject _ => hsettled object hobject⟩

/-- Where no creation goes on, the object there is has succeeded. -/
theorem Sound.succeeded (h : m.Sound) (hcreating : m.creating = none) :
    ∀ object ∈ m.janus, ∃ o, m.objects[object]? = some o ∧ o.succeeded = true :=
  fun object hjanus => h.settled object hjanus (by rw [hcreating]; exact nofun)

theorem sound_startInit (cfg : JanusServers) (h : m.Sound) (hcreating : m.creating = none)
    (call : ℕ) (throws : Option JsError) : (m.startInit cfg call throws).1.Sound := by
  have hfailed : ∀ err : JsError, (m.settleInit call (some err)).Sound := fun err =>
    sound_settleInit (fun htold => (h.told htold).1) (fun hnone => (by cases hnone))
      (h.succeeded hcreating)
  rw [startInit]
  split_ifs with hsome hservers
  · exact sound_settleInit (fun _ => hsome) (fun _ => hsome) (h.succeeded hcreating)
  · exact hfailed _
  · cases m.rtcConfig with
    | none => exact hfailed _
    | some rtc =>
        cases throws with
        | some e => exact hfailed _
        | none =>
            refine ⟨fun htold => absurd (h.told htold).1 hsome, fun object hobject => ?_,
              fun object hjanus hother => absurd hjanus hother⟩
            cases hobject
            exact ⟨rfl, _, List.getElem?_concat_length, rfl⟩

theorem sound_startDestroy (h : m.Sound) (hcreating : m.creating = none) (hnone : ¬ m.Told)
    (call : ℕ) : (m.startDestroy call).1.Sound := by
  rw [startDestroy]
  split_ifs
  · exact ⟨fun htold => absurd htold hnone, fun object hobject => (by cases hobject),
      fun object hobject => (by cases hobject)⟩
  · exact sound_settleDestroy (fun htold => absurd htold hnone) (h.succeeded hcreating)

/-- A report on one object leaves the others as they are. -/
theorem report_objects (object other : ℕ) (f : JanusObject → JanusObject) :
    (m.report object f).objects[other]? =
      if object = other then (m.objects[other]?).map f else m.objects[other]? := by
  rw [report, List.getElem?_modify]
  split_ifs
  · rfl
  · exact Option.map_id'

/-- A report keeps the generation of the objects, and their success. -/
theorem sound_report (h : m.Sound) (object : ℕ) {f : JanusObject → JanusObject}
    (hgen : ∀ o, (f o).gen = o.gen)
    (hsucceeded : ∀ o, o.succeeded = true → (f o).succeeded = true) :
    (m.report object f).Sound := by
  refine ⟨fun htold => h.told htold, fun created hcreated => ?_, fun current hjanus hother => ?_⟩
  · obtain ⟨hjanus, o, ho, hcurrent⟩ := h.created created hcreated
    refine ⟨hjanus, ?_⟩
    rw [report_objects, ho]
    split_ifs
    · exact ⟨f o, rfl, (hgen o).trans hcurrent⟩
    · exact ⟨o, rfl, hcurrent⟩
  · obtain ⟨o, ho, hdone⟩ := h.settled current hjanus hother
    rw [report_objects, ho]
    split_ifs
    · exact ⟨f o, rfl, hsucceeded o hdone⟩
    · exact ⟨o, rfl, hdone⟩

/-- A report that is harmless, or of another object, does the object there is no harm. -/
theorem Unharmed.report (h : m.Unharmed) {object : ℕ} {f : JanusObject → JanusObject}
    (hf : m.janus = some object →
      ∀ o : JanusObject, (f o).failed = o.failed ∧ (f o).lost = o.lost) :
    (m.report object f).Unharmed := by
  intro current hjanus o ho
  rw [Option.mem_def, report_objects] at ho
  split_ifs at ho with hobject
  · obtain ⟨old, hold, rfl⟩ := Option.map_eq_some_iff.mp ho
    rw [(hf (hobject ▸ hjanus) old).1, (hf (hobject ▸ hjanus) old).2]
    exact h current hjanus old hold
  · exact h current hjanus o ho

/-- A report ends a creation only if it is on the object that is created. -/
theorem endCreation_cases (object : ℕ) (error : Option JsError) :
    m.endCreation object error = m ∧ m.creating ≠ some object ∨
      ∃ call, m.endCreation object error = m.settleInit call error ∧ m.creating = some object := by
  rw [endCreation, creating]
  cases m.turn with
  | none => exact .inl ⟨rfl, fun hnone => (by cases hnone)⟩
  | some turn =>
      cases turn with
      | destroying => exact .inl ⟨rfl, fun hnone => (by cases hnone)⟩
      | creating call created =>
          by_cases hobject : created = object
          · exact .inr ⟨call, if_pos hobject, congrArg some hobject⟩
          · exact .inl ⟨if_neg hobject, fun heq => hobject (Option.some.inj heq)⟩

theorem sound_onSuccess (h : m.Sound) (object : ℕ) : (m.onSuccess object).1.Sound := by
  have hreport : (m.report object fun o => { o with succeeded := true }).Sound :=
    sound_report h object (fun _ => rfl) fun _ _ => rfl
  rw [onSuccess]
  split_ifs
  · rcases endCreation_cases (m := m.report object fun o => { o with succeeded := true }) object
      none with ⟨hsame, -⟩ | ⟨call, hends, hcreating⟩
    · rw [hsame]
      exact hreport
    · obtain ⟨hjanus, o, ho, -⟩ := h.created object hcreating
      have hsome : m.janus.isSome = true := Option.isSome_of_mem hjanus
      rw [hends]
      refine sound_settleInit (fun _ => hsome) (fun _ => hsome) fun current hcurrent => ?_
      cases hjanus.symm.trans hcurrent
      exact ⟨{ o with succeeded := true }, by rw [report_objects, if_pos rfl, ho]; rfl, rfl⟩
  · exact hreport

theorem sound_onError (h : m.Sound) (object : ℕ) (err : JsError)
    (hcreating : m.creating ≠ some object) : (m.onError object err).1.Sound := by
  have hreport : (m.report object fun o => { o with failed := true }).Sound :=
    sound_report h object (fun _ => rfl) fun _ => id
  rw [onError]
  split_ifs
  · rcases endCreation_cases (m := m.report object fun o => { o with failed := true }) object
      (some err) with ⟨hsame, -⟩ | ⟨call, -, hends⟩
    · rw [hsame]
      exact hreport
    · exact absurd hends hcreating
  · exact hreport

theorem sound_onDestroyed (h : m.Sound) (object : ℕ) : (m.onDestroyed object).1.Sound :=
  sound_report h object (fun _ => rfl) fun _ => id

/-- A creation that times out is of the current generation. -/
theorem Sound.current_of_creating (h : m.Sound) {object : ℕ}
    (hcreating : m.creating = some object) : m.current object = true := by
  obtain ⟨-, o, ho, hgen⟩ := h.created object hcreating
  rw [current, ho]
  exact decide_eq_true hgen

/-- It leaves no object. -/
theorem janus_onInitTimeout (h : m.Sound) (hcreating : m.creating.isSome = true) :
    m.onInitTimeout.janus = none := by
  rw [onInitTimeout]
  cases hturn : m.turn with
  | none =>
      rw [creating, hturn] at hcreating
      cases hcreating
  | some turn =>
      cases turn with
      | destroying =>
          rw [creating, hturn] at hcreating
          cases hcreating
      | creating call object =>
          exact if_pos (h.current_of_creating (by rw [creating, hturn]))

theorem sound_onInitTimeout (h : m.Sound) : m.onInitTimeout.Sound := by
  cases hturn : m.turn with
  | none =>
      rw [onInitTimeout, hturn]
      exact h
  | some turn =>
      cases turn with
      | destroying =>
          rw [onInitTimeout, hturn]
          exact h
      | creating call object =>
          have hcreating : m.creating = some object := by rw [creating, hturn]
          have hgone := janus_onInitTimeout h (by rw [hcreating]; rfl)
          have hnone : ¬ m.Told := by
            intro htold
            cases hcreating.symm.trans (h.told htold).2
          rw [onInitTimeout, hturn] at hgone ⊢
          refine sound_settleInit (fun htold => absurd htold hnone) nofun fun current hcurrent => ?_
          cases hgone.symm.trans hcurrent

theorem sound_onDestroyDone (h : m.Sound) : m.onDestroyDone.1.Sound := by
  rw [onDestroyDone]
  cases hturn : m.turn with
  | none => exact h
  | some turn =>
      cases turn with
      | creating => exact h
      | destroying call gen =>
          have hcreating : m.creating = none := by rw [creating, hturn]
          exact sound_settleDestroy (fun htold => (h.told htold).1) (h.succeeded hcreating)

theorem sound_resume (h : m.Sound) (call : ℕ) (purpose : Purpose) :
    (m.resume call purpose).1.Sound := by
  cases purpose with
  | init => exact h.setCall rfl call
  | attach =>
      rw [resume]
      cases m.janus with
      | none => exact h.setCall rfl call
      | some object => exact h.setCall rfl call
  | recreate => exact h.setCall rfl call

theorem sound_deliver (h : m.Sound) (call : ℕ) : (m.deliver call).1.Sound := by
  unfold deliver
  split
  · exact h.setCall rfl call
  · exact sound_resume h call _
  · exact sound_resume h call _
  · exact h.setCall rfl call
  · exact ((h.setRtcConfig _).setCall (initPhase_succeeded (m := m) _) call).askInit call
  · exact h

/-- What goes on when the next turn begins: nothing. -/
theorem creating_of_nextTurn {inner : Inner} (h : m.nextTurn = some inner) : m.creating = none := by
  rw [nextTurn] at h
  rw [creating]
  cases hturn : m.turn with
  | none => rfl
  | some turn =>
      rw [hturn] at h
      cases h

/-- The start of the next turn, if there is one. -/
theorem start_cases (cfg : JanusServers) (m : Manager) (throws : Option JsError) :
    (∃ call rest, m.nextTurn = some .init ∧
        m.start cfg throws = startInit cfg { m with waiting := rest } call throws) ∨
      (∃ call rest, m.nextTurn = some .destroy ∧
        m.start cfg throws = startDestroy { m with waiting := rest } call) ∨
      m.nextTurn = none ∧ m.start cfg throws = (m, []) := by
  unfold Manager.start nextTurn
  cases m.turn with
  | some turn => exact .inr (.inr ⟨rfl, rfl⟩)
  | none =>
      cases m.waiting with
      | nil => exact .inr (.inr ⟨rfl, rfl⟩)
      | cons first rest =>
          obtain ⟨call, inner⟩ := first
          cases inner with
          | init => exact .inl ⟨call, rest, rfl, rfl⟩
          | destroy => exact .inr (.inl ⟨call, rest, rfl, rfl⟩)

/-- An orderly step keeps the manager sound. -/
theorem sound_next (cfg : JanusServers) (h : m.Sound) {e : ManagerEvent} (hguard : m.Orderly e) :
    ((managerMachine cfg).next m e).Sound := by
  cases e with
  | init rtcConfig => exact (h.setRtcConfig rtcConfig).beginInit .init
  | attach => exact h.beginInit .attach
  | destroy => exact (h.newCall rfl).enqueue _ _
  | recreate rtcConfig => exact (h.newCall rfl).enqueue _ _
  | start throws =>
      change (m.start cfg throws).1.Sound
      have hrest : ∀ rest, ({ m with waiting := rest } : Manager).Sound := fun rest =>
        h.of_frame rfl rfl rfl rfl id
      rcases start_cases cfg m throws with ⟨call, rest, hnext, hstart⟩ |
        ⟨call, rest, hnext, hstart⟩ | ⟨-, hstart⟩
      · have hcreating : m.creating = none := creating_of_nextTurn hnext
        rw [hstart]
        exact sound_startInit cfg (hrest rest) hcreating call throws
      · have hcreating : m.creating = none := creating_of_nextTurn hnext
        have hnone : ¬ m.Told := hguard hnext
        rw [hstart]
        exact sound_startDestroy (hrest rest) hcreating hnone call
      · rw [hstart]
        exact h
  | success object => exact sound_onSuccess h object
  | error object err => exact sound_onError h object err hguard
  | destroyed object => exact sound_onDestroyed h object
  | initTimeout => exact sound_onInitTimeout h
  | destroyDone => exact sound_onDestroyDone h
  | deliver call => exact sound_deliver h call
  | attached call error =>
      change (match m.calls[call]? with
        | some (.attaches _) => m.setCall call (.ended error)
        | _ => m).Sound
      split
      · exact h.setCall rfl call
      · exact h

/-! ## Harm and repair -/

theorem Unharmed.of_frame (h : m.Unharmed) (hjanus : m'.janus = m.janus)
    (hobjects : m'.objects = m.objects) : m'.Unharmed := by
  rw [Unharmed, hjanus, hobjects]
  exact h

theorem unharmed_of_none (h : m.janus = none) : m.Unharmed := by
  intro object hobject
  rw [h] at hobject
  cases hobject

theorem Unharmed.askInit (h : m.Unharmed) (call : ℕ) : (m.askInit call).Unharmed := by
  rw [Manager.askInit]
  split_ifs
  · exact h
  · exact h.of_frame rfl rfl

theorem Unharmed.beginInit (h : m.Unharmed) (purpose : Purpose) :
    (m.beginInit purpose).Unharmed := by
  have hcalled : (m.newCall (m.initPhase purpose)).Unharmed := h.of_frame rfl rfl
  exact hcalled.askInit _

theorem janus_startDestroy (m : Manager) (call : ℕ) : (m.startDestroy call).1.janus = none := by
  rw [startDestroy]
  split_ifs with hsome
  · rfl
  · exact Option.not_isSome_iff_eq_none.mp hsome

/-- An object that was just made is unharmed. -/
theorem unharmed_startInit (cfg : JanusServers) (h : m.Unharmed) (call : ℕ)
    (throws : Option JsError) : (m.startInit cfg call throws).1.Unharmed := by
  rw [startInit]
  split_ifs
  · exact h.of_frame rfl rfl
  · exact h.of_frame rfl rfl
  · cases m.rtcConfig with
    | none => exact h.of_frame rfl rfl
    | some rtc =>
        cases throws with
        | some e => exact h.of_frame rfl rfl
        | none =>
            intro object hobject o ho
            cases hobject
            cases (Option.mem_def.mp ho).symm.trans List.getElem?_concat_length
            exact ⟨rfl, rfl⟩

theorem Unharmed.endCreation (h : m.Unharmed) (object : ℕ) (error : Option JsError) :
    (m.endCreation object error).Unharmed := by
  rcases endCreation_cases (m := m) object error with ⟨hsame, -⟩ | ⟨call, hends, -⟩
  · rw [hsame]
    exact h
  · rw [hends]
    exact h.of_frame rfl rfl

theorem Unharmed.resume (h : m.Unharmed) (call : ℕ) (purpose : Purpose) :
    (m.resume call purpose).1.Unharmed := by
  cases purpose with
  | init | recreate => exact h.of_frame rfl rfl
  | attach =>
      rw [Manager.resume]
      cases m.janus with
      | none => exact h.of_frame rfl rfl
      | some object => exact h.of_frame rfl rfl

/-- Only a report on the object there is does it harm. -/
theorem unharmed_next (cfg : JanusServers) (h : m.Unharmed) {e : ManagerEvent}
    (hbreaks : ¬ m.Breaks e) : ((managerMachine cfg).next m e).Unharmed := by
  cases e with
  | init rtcConfig =>
      have hset : (m.setRtcConfig rtcConfig).Unharmed := h.of_frame rfl rfl
      exact hset.beginInit .init
  | attach => exact h.beginInit .attach
  | destroy | recreate => exact h.of_frame rfl rfl
  | start throws =>
      change (m.start cfg throws).1.Unharmed
      rcases start_cases cfg m throws with ⟨call, rest, -, hstart⟩ | ⟨call, rest, -, hstart⟩ |
        ⟨-, hstart⟩
      · have hrest : ({ m with waiting := rest } : Manager).Unharmed := h.of_frame rfl rfl
        rw [hstart]
        exact unharmed_startInit cfg hrest call throws
      · rw [hstart]
        exact unharmed_of_none (janus_startDestroy _ call)
      · rw [hstart]
        exact h
  | success object =>
      have hreport : (m.report object fun o => { o with succeeded := true }).Unharmed :=
        h.report fun _ _ => ⟨rfl, rfl⟩
      change (m.onSuccess object).1.Unharmed
      rw [onSuccess]
      split_ifs
      · exact hreport.endCreation object none
      · exact hreport
  | error object err =>
      have hreport : (m.report object fun o => { o with failed := true }).Unharmed :=
        h.report fun hjanus => absurd hjanus hbreaks
      change (m.onError object err).1.Unharmed
      rw [onError]
      split_ifs
      · exact hreport.endCreation object (some err)
      · exact hreport
  | destroyed object => exact h.report fun hjanus => absurd hjanus hbreaks
  | initTimeout =>
      change m.onInitTimeout.Unharmed
      unfold onInitTimeout
      split
      · split_ifs
        · exact unharmed_of_none rfl
        · exact h.of_frame rfl rfl
      · exact h
  | destroyDone =>
      change m.onDestroyDone.1.Unharmed
      unfold onDestroyDone
      split
      · exact h.of_frame rfl rfl
      · exact h
  | deliver call =>
      change (m.deliver call).1.Unharmed
      have hset : ∀ (rtcConfig : Option RtcConfig) (phase : Phase),
          ((m.setRtcConfig rtcConfig).setCall call phase).Unharmed := fun _ _ => h.of_frame rfl rfl
      unfold deliver
      split
      · exact h.of_frame rfl rfl
      · exact h.resume call _
      · exact h.resume call _
      · exact h.of_frame rfl rfl
      · exact (hset _ _).askInit call
      · exact h
  | attached call error =>
      change (match m.calls[call]? with
        | some (.attaches _) => m.setCall call (.ended error)
        | _ => m).Unharmed
      split
      · exact h.of_frame rfl rfl
      · exact h

/-- What clears a harmed object leaves none. -/
theorem unharmed_of_clears (cfg : JanusServers) (h : m.Sound) {e : ManagerEvent}
    (hclears : m.Clears e) : ((managerMachine cfg).next m e).Unharmed := by
  refine unharmed_of_none ?_
  cases e with
  | start throws =>
      have hnext : m.nextTurn = some .destroy := hclears
      change (m.start cfg throws).1.janus = none
      rcases start_cases cfg m throws with ⟨call, rest, hinit, -⟩ | ⟨call, rest, -, hstart⟩ |
        ⟨hnone, -⟩
      · cases hinit.symm.trans hnext
      · rw [hstart]
        exact janus_startDestroy _ call
      · cases hnone.symm.trans hnext
  | initTimeout => exact janus_onInitTimeout h hclears
  | init | attach | destroy | recreate | success | error | destroyed | destroyDone | deliver
  | attached => exact hclears.elim

/-! ## Failed creations -/

/-- No call whose turn is due hears of an error. -/
def NoneFails (m m' : Manager) : Prop :=
  ∀ (call : ℕ) (purpose purpose' : Purpose) (err : JsError),
    m.calls[call]? = some (.queued purpose) → m'.calls[call]? ≠ some (.told purpose' (some err))

theorem noneFails_of_calls (h : m'.calls = m.calls) : NoneFails m m' := by
  intro call purpose purpose' err hqueued htold
  rw [h, hqueued] at htold
  cases htold

theorem noneFails_append {phase : Phase} (h : m'.calls = m.calls ++ [phase]) : NoneFails m m' := by
  intro call purpose purpose' err hqueued htold
  obtain ⟨hlt, -⟩ := List.getElem?_eq_some_iff.mp hqueued
  rw [h, List.getElem?_append_left hlt, hqueued] at htold
  cases htold

theorem noneFails_set {call : ℕ} {phase : Phase} (h : m'.calls = m.calls.set call phase)
    (hphase : ∀ purpose, m.calls[call]? ≠ some (.queued purpose)) : NoneFails m m' := by
  intro other purpose purpose' err hqueued htold
  by_cases hcall : call = other
  · exact hphase purpose (hcall ▸ hqueued)
  · rw [h, List.getElem?_set_ne hcall, hqueued] at htold
    cases htold

theorem noneFails_modify {call : ℕ} {f : Phase → Phase} (h : m'.calls = m.calls.modify call f)
    (hf : ∀ purpose purpose' err, f (.queued purpose) ≠ .told purpose' (some err)) :
    NoneFails m m' := by
  intro other purpose purpose' err hqueued htold
  rw [h, List.getElem?_modify, hqueued] at htold
  split_ifs at htold
  · exact hf _ _ _ (Option.some.inj htold)
  · cases htold

theorem noneFails_askInit {call : ℕ} (h : NoneFails m m') : NoneFails m (m'.askInit call) := by
  rw [askInit]
  split_ifs
  · exact h
  · exact h

/-- A turn that starts fails only where there is no Janus object. -/
theorem startInit_fails (cfg : JanusServers) (call : ℕ) (throws : Option JsError) :
    NoneFails m (m.startInit cfg call throws).1 ∨ (m.startInit cfg call throws).1.janus = none := by
  rw [startInit]
  split_ifs with hsome hservers
  · exact .inl (noneFails_modify rfl fun _ _ _ hfails => (by cases hfails))
  · exact .inr (Option.not_isSome_iff_eq_none.mp hsome)
  · cases m.rtcConfig with
    | none => exact .inr (Option.not_isSome_iff_eq_none.mp hsome)
    | some rtc =>
        cases throws with
        | some e => exact .inr (Option.not_isSome_iff_eq_none.mp hsome)
        | none => exact .inl (noneFails_of_calls rfl)

theorem hearDestroyed_ne (purpose purpose' : Purpose) (err : JsError) :
    Phase.hearDestroyed (.queued purpose) ≠ .told purpose' (some err) := Phase.noConfusion

/-- A call that goes on was not waiting for its turn. -/
theorem noneFails_deliver (call : ℕ) : NoneFails m (m.deliver call).1 := by
  unfold deliver
  have hset : ∀ {phase : Phase} (next : Phase), m.calls[call]? = some phase →
      (∀ purpose, phase ≠ .queued purpose) → NoneFails m (m.setCall call next) := by
    intro phase next hphase hother
    refine noneFails_set rfl fun purpose hqueued => hother purpose ?_
    exact Option.some.inj (hphase.symm.trans hqueued)
  have hresume : ∀ {phase : Phase} (purpose : Purpose), m.calls[call]? = some phase →
      (∀ purpose, phase ≠ .queued purpose) → NoneFails m (m.resume call purpose).1 := by
    intro phase purpose hphase hother
    cases purpose with
    | init => exact hset _ hphase hother
    | attach =>
        rw [resume]
        cases m.janus with
        | none => exact hset _ hphase hother
        | some object => exact hset _ hphase hother
    | recreate => exact hset _ hphase hother
  split
  · rename_i hphase
    exact hset _ hphase fun _ => Phase.noConfusion
  · rename_i hphase
    exact hresume _ hphase fun _ => Phase.noConfusion
  · rename_i hphase
    exact hresume _ hphase fun _ => Phase.noConfusion
  · rename_i hphase
    exact hset _ hphase fun _ => Phase.noConfusion
  · rename_i hphase
    exact noneFails_askInit (hset _ hphase fun _ => Phase.noConfusion)
  · exact noneFails_of_calls rfl

/-- Where the creation of an object goes on, an orderly step that ends it in an error leaves no
object. -/
theorem next_fails (cfg : JanusServers) (h : m.Sound) {e : ManagerEvent} (hguard : m.Orderly e) :
    NoneFails m ((managerMachine cfg).next m e) ∨ ((managerMachine cfg).next m e).janus = none := by
  cases e with
  | init rtcConfig => exact .inl (noneFails_askInit (noneFails_append rfl))
  | attach => exact .inl (noneFails_askInit (noneFails_append rfl))
  | destroy => exact .inl (noneFails_append rfl)
  | recreate rtcConfig => exact .inl (noneFails_append rfl)
  | start throws =>
      change NoneFails m (m.start cfg throws).1 ∨ (m.start cfg throws).1.janus = none
      rcases start_cases cfg m throws with ⟨call, rest, -, hstart⟩ | ⟨call, rest, -, hstart⟩ |
        ⟨-, hstart⟩
      · rw [hstart]
        rcases startInit_fails (m := { m with waiting := rest }) cfg call throws with hnone | hjanus
        · exact .inl hnone
        · exact .inr hjanus
      · rw [hstart]
        exact .inr (janus_startDestroy _ call)
      · rw [hstart]
        exact .inl (noneFails_of_calls rfl)
  | success object =>
      refine .inl ?_
      change NoneFails m (m.onSuccess object).1
      rw [onSuccess]
      split_ifs
      · rcases endCreation_cases (m := m.report object fun o => { o with succeeded := true }) object
          none with ⟨hsame, -⟩ | ⟨call, hends, -⟩
        · rw [hsame]
          exact noneFails_of_calls rfl
        · rw [hends]
          exact noneFails_modify rfl fun _ _ _ hfails => (by cases hfails)
      · exact noneFails_of_calls rfl
  | error object err =>
      refine .inl ?_
      change NoneFails m (m.onError object err).1
      rw [onError]
      split_ifs
      · rcases endCreation_cases (m := m.report object fun o => { o with failed := true }) object
          (some err) with ⟨hsame, -⟩ | ⟨call, -, hends⟩
        · rw [hsame]
          exact noneFails_of_calls rfl
        · exact absurd hends hguard
      · exact noneFails_of_calls rfl
  | destroyed object => exact .inl (noneFails_of_calls rfl)
  | initTimeout =>
      cases hcreating : m.creating with
      | some object => exact .inr (janus_onInitTimeout h (by rw [hcreating]; rfl))
      | none =>
          refine .inl (noneFails_of_calls ?_)
          change m.onInitTimeout.calls = m.calls
          unfold onInitTimeout
          split
          · rename_i hturn
            rw [creating, hturn] at hcreating
            cases hcreating
          · rfl
  | destroyDone =>
      refine .inl ?_
      change NoneFails m m.onDestroyDone.1
      rw [onDestroyDone]
      split
      · exact noneFails_modify rfl hearDestroyed_ne
      · exact noneFails_of_calls rfl
  | deliver call => exact .inl (noneFails_deliver call)
  | attached call error =>
      refine .inl ?_
      change NoneFails m (match m.calls[call]? with
        | some (.attaches _) => m.setCall call (.ended error)
        | _ => m)
      split
      · rename_i hphase
        refine noneFails_set rfl fun purpose hqueued => ?_
        cases hphase.symm.trans hqueued
      · exact noneFails_of_calls rfl

/-- An orderly step is sound, if nothing bad was reported of the object that an `init()` relies
on. -/
theorem soundInit_of_orderly (cfg : JanusServers) (h : m.Sound) {e : ManagerEvent}
    (hguard : m.Orderly e) (hunharmed : m.Unharmed ∨ ¬ m.Relies e) : m.SoundInit cfg e := by
  constructor
  · intro hresolves
    have husable : m.Relies e → m.janus.isSome = true → m.creating = none → m.Usable := by
      intro hrelies hsome hcreating
      exact h.usable (hunharmed.resolve_right fun hidle => hidle hrelies) hsome hcreating
    cases e with
    | init rtcConfig => exact husable trivial hresolves hguard
    | attach => exact husable trivial hresolves hguard
    | deliver call =>
        obtain ⟨phase, hphase, hsucceeded | ⟨hrecreating, hsome⟩⟩ := hresolves
        · obtain ⟨hsome, hcreating⟩ := h.told ⟨phase, List.mem_of_getElem? hphase, hsucceeded⟩
          exact husable ⟨phase, hphase, .inl hsucceeded⟩ hsome hcreating
        · have hcreating : m.creating = none := hguard ⟨phase, hphase, hrecreating⟩
          exact husable ⟨phase, hphase, .inr hrecreating⟩ hsome hcreating
    | destroy | recreate | start | success | error | destroyed | initTimeout | destroyDone
    | attached => exact hresolves.elim
  · rintro ⟨call, purpose, err, hqueued, htold⟩
    rcases next_fails cfg h hguard with hnone | hjanus
    · exact absurd htold (hnone call purpose purpose err hqueued)
    · exact hjanus

end Sound

end Manager

/-- In every orderly run in which no call of `init()` begins or goes on between a bad report of an
object and what clears it, a resolved `init()` means a usable session, and a failed one leaves no
Janus object behind. -/
theorem orderly_init_sound (cfg : JanusServers) (events : List ManagerEvent)
    (h : (managerMachine cfg).Along Manager.Orderly {} events)
    (hcleared : (managerMachine cfg).AfterUntil Manager.Breaks (fun m e => ¬ m.Relies e)
      Manager.Clears {} events) :
    (managerMachine cfg).Along (Manager.SoundInit cfg) {} events := by
  have hinitial : Manager.Sound {} :=
    ⟨fun ⟨phase, hmem, _⟩ => (by cases hmem), fun object hobject => (by cases hobject),
      fun object hobject => (by cases hobject)⟩
  have halong := Machine.along_of_afterUntil (managerMachine cfg) (I := Manager.Sound)
    (C := Manager.Unharmed) (fun m e hsound hguard _ => Manager.sound_next cfg hsound hguard)
    (fun m e _ hunharmed hbreaks => Manager.unharmed_next cfg hunharmed hbreaks)
    (fun m e hsound hclears => Manager.unharmed_of_clears cfg hsound hclears) h hcleared hinitial
    (Manager.unharmed_of_none rfl)
  exact halong.imp _ fun m e hstep => Manager.soundInit_of_orderly cfg hstep.1 hstep.2.1 hstep.2.2

/-- A server and a configuration. -/
def oneServer : JanusServers where
  janusWs := some "wss://robot/janus"
  janusRest := none

@[inherit_doc oneServer]
def oneConfig : RtcConfig where
  iceServers := []
  iceTransportPolicy := none

/-- A session is created, used by an attach, and created again after it was lost. -/
def orderlySession : List ManagerEvent :=
  [.init (some oneConfig), .start none, .success 0, .deliver 0, .attach, .deliver 1,
    .attached 1 none, .destroyed 0, .recreate none, .start none, .destroyDone, .deliver 2,
    .start none, .success 1, .deliver 2]

theorem orderly_init_sound_recreated :
    (managerMachine oneServer).Along (Manager.SoundInit oneServer) {} orderlySession ∧
      (managerMachine oneServer).trace {} orderlySession =
        [.ready 0, .destroyed 0, .destroyed 1, .ready 1, .recreated 1] :=
  ⟨orderly_init_sound oneServer orderlySession (by decide) (by decide), by decide⟩

/-- A second call of `init()` is resolved before the session is ready. -/
theorem init_resolves_early :
    ¬ ∀ (cfg : JanusServers) (events : List ManagerEvent),
      (managerMachine cfg).Along (Manager.SoundInit cfg) {} events := by
  intro hclaim
  have hsound := hclaim oneServer [.init (some oneConfig), .start none, .init none]
  exact absurd (hsound.2.2.1.usable rfl) (by decide)

end CameraStack.Player
