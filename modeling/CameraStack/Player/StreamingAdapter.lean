/-
# The streaming adapter

The adapter owns the handle of the streaming plugin.  Its operations are chained to one another
as promises, so that one runs at a time; `recreate` begins a new chain and leaves the old one to
itself.  An operation is suspended wherever it awaits, and goes on by an event of its own; the
session manager, the library and the timers answer in any order.

Every callback of a handle carries the generation of the handle and is dropped when it is not
the current one.  The events that get through go to the sink, which is the controller.
-/

import CameraStack.Lib.Machine
import CameraStack.Player.Controller

namespace CameraStack.Player

open CameraStack.Lib

/-- An operation that is enqueued; `watch` with the number of the stream, if it is one. -/
inductive Operation
  | init
  | stop
  | listStreams
  | watch (streamId : Option ℤ)
  | detach
  | recreate
  deriving DecidableEq

/-- Where the body of an operation is suspended: at a message that was sent, at the cleanup of a
handle, at the answer to a watch, while a handle is detached (none if there was none), while the
manager recreates the session, or at the common promise for session and handle. -/
inductive Await
  | stopSent (cleanup : Option ℕ)
  | cleanup (cleanup : ℕ)
  | listSent
  | watching (watch : ℕ)
  | detaching (oldGen : Option ℕ)
  | recreating
  | ensuring (ensure : ℕ)
  deriving DecidableEq

/-- How far an operation has come. -/
inductive OpStatus
  | waiting
  | executing (await : Await)
  | settled
  deriving DecidableEq

/-- An operation, with the promise it is chained to, the `recreate` it came after, and how many
events of the session it came after. -/
structure Op where
  operation : Operation
  prev : Option ℕ
  gen : ℕ
  issued : ℕ
  status : OpStatus := .waiting
  deriving DecidableEq

/-- A handle: its generation, and how many events of the session its attach came after. -/
structure Handle where
  gen : ℕ
  since : ℕ
  deriving DecidableEq

/-- How far `_ensureSessionAndHandle` has come. -/
inductive EnsureStage
  | session
  | attaching (handle : Handle)
  | done
  deriving DecidableEq

/-- A run of `_ensureSessionAndHandle`, with the operation that began it. -/
structure Ensure where
  owner : ℕ
  stage : EnsureStage := .session
  deriving DecidableEq

/-- The adapter.  The operations, the runs of `_ensureSessionAndHandle`, the promises of watches
and those of cleanups stand in order; of the latter two it is noted which are settled. -/
structure StreamingAdapter where
  subscribed : Bool := true
  handle : Option Handle := none
  handleGen : ℕ := 0
  ensurePromise : Option ℕ := none
  ensures : List Ensure := []
  pendingWatch : Option ℕ := none
  watches : List Bool := []
  cleanupPromise : Option ℕ := none
  cleanupResolve : Option ℕ := none
  cleanups : List Bool := []
  io : Option ℕ := none
  ioGen : ℕ := 0
  ops : List Op := []
  /-- How many times the manager has reported a lost or recreated session. -/
  sessionEvents : ℕ := 0
  deriving DecidableEq

/-- A message of the plugin, as far as it is read. -/
structure Reply where
  errorCode : Option ℕ
  errorText : String
  watchResult : Bool
  deriving DecidableEq

/-- An offer: its SDP, and what `createAnswer` raises. -/
structure Jsep where
  sdp : Option String
  throws : Option String
  deriving DecidableEq

/-- The callbacks of a handle. -/
inductive Callback
  | message (msg : Option Reply) (jsep : Option Jsep)
  | webrtcState (up : Bool) (reason : String)
  | iceState (state : String)
  | remoteTrack (on video : Bool)
  | trackMuted (trackId : String)
  | trackUnmuted (trackId : String)
  | trackEnded
  | cleanup
  | detached
  | slowLink
  | hangup (reason : String)
  | answerError (code : Option ℕ) (message : String)
  deriving DecidableEq

/-- What happens to the adapter: calls, jobs of the queue, answers, callbacks of a handle with its
generation, the error of a watch, and a lost or recreated session. -/
inductive AdapterEvent
  | call (operation : Operation)
  | start (op : ℕ) (throws : Bool)
  | resume (op : ℕ) (succeeds : Bool)
  | sessionInit (ensure : ℕ) (succeeds : Bool)
  | attached (ensure : ℕ) (succeeds : Bool)
  | callback (gen : ℕ) (callback : Callback)
  | watchError (code : Option ℕ) (message : String)
  | session
  deriving DecidableEq

namespace StreamingAdapter

open Controller (StreamEvent)

/-! ## Promises -/

/-- The pending watch is settled. -/
def settleWatch (a : StreamingAdapter) : StreamingAdapter :=
  match a.pendingWatch with
  | some watch => { a with watches := a.watches.set watch true, pendingWatch := none }
  | none => a

/-- The cleanup of the handle is settled. -/
def settleCleanup (a : StreamingAdapter) : StreamingAdapter :=
  match a.cleanupResolve with
  | some cleanup => { a with cleanups := a.cleanups.set cleanup true, cleanupResolve := none }
  | none => a

/-- An operation goes on. -/
def setOp (a : StreamingAdapter) (op : ℕ) (status : OpStatus) : StreamingAdapter :=
  { a with ops := a.ops.modify op fun o => { o with status := status } }

/-- A run of `_ensureSessionAndHandle` goes on. -/
def setEnsure (a : StreamingAdapter) (ensure : ℕ) (stage : EnsureStage) : StreamingAdapter :=
  { a with ensures := a.ensures.modify ensure fun e => { e with stage := stage } }

/-! ## Operations -/

/-- `_enqueue`. -/
def enqueue (a : StreamingAdapter) (operation : Operation) : StreamingAdapter :=
  { a with
    ops := a.ops ++
      [{ operation := operation, prev := a.io, gen := a.ioGen, issued := a.sessionEvents }]
    io := some a.ops.length }

/-- A call of a method. -/
def call (a : StreamingAdapter) (operation : Operation) : StreamingAdapter :=
  match operation with
  | .stop =>
      let a := { a with subscribed := false }
      if a.handle = none then a else a.enqueue .stop
  | .detach => ({ a with subscribed := false } : StreamingAdapter).enqueue .detach
  | .recreate =>
      ({ a.settleWatch with ioGen := a.ioGen + 1, ensurePromise := none, io := none } :
        StreamingAdapter).enqueue .recreate
  | operation => a.enqueue operation

/-- `_ensureSessionAndHandle`, up to its first await. -/
def ensure (a : StreamingAdapter) (op : ℕ) : StreamingAdapter :=
  match a.ensurePromise with
  | some ensure => a.setOp op (.executing (.ensuring ensure))
  | none =>
      ({ a with ensures := a.ensures ++ [{ owner := op }], ensurePromise := some a.ensures.length } :
        StreamingAdapter).setOp op (.executing (.ensuring a.ensures.length))

/-- `_detachHandle`, up to its await. -/
def detachHandle (a : StreamingAdapter) (op : ℕ) : StreamingAdapter :=
  match a.handle with
  | none => a.setOp op (.executing (.detaching none))
  | some _ =>
      ({ a.settleCleanup with handleGen := a.handleGen + 1, handle := none } :
        StreamingAdapter).setOp op (.executing (.detaching (some a.handleGen)))

/-- A promise in front of the queue is settled. -/
def isSettled (a : StreamingAdapter) (prev : Option ℕ) : Bool :=
  match prev with
  | none => true
  | some op => (a.ops[op]?).any fun o => o.status = .settled

/-- The body of an operation, up to its first await; `throws` if the message of a watch cannot be
sent. -/
def begin (a : StreamingAdapter) (op : ℕ) (o : Op) (throws : Bool) : StreamingAdapter :=
  match o.operation with
  | .init => a.ensure op
  | .stop =>
      if a.handle = none then a.setOp op .settled
      else a.setOp op (.executing (.stopSent a.cleanupPromise))
  | .listStreams =>
      if a.handle = none then a.setOp op .settled else a.setOp op (.executing .listSent)
  | .watch streamId =>
      if a.handle = none ∨ streamId = none then a.setOp op .settled
      else
        let sent := ({ a with watches := a.watches ++ [false], pendingWatch := some a.watches.length } :
          StreamingAdapter).setOp op (.executing (.watching a.watches.length))
        if throws then sent.settleWatch else sent
  | .detach => a.detachHandle op
  | .recreate => if a.ioGen = o.gen then a.detachHandle op else a.setOp op .settled

/-- The next operation of a chain begins. -/
def start (a : StreamingAdapter) (op : ℕ) (throws : Bool) : StreamingAdapter :=
  match a.ops[op]? with
  | some o => if o.status = .waiting ∧ a.isSettled o.prev = true then a.begin op o throws else a
  | none => a

/-- What follows `_detachHandle`. -/
def afterDetach (a : StreamingAdapter) (op : ℕ) (o : Op) : StreamingAdapter :=
  match o.operation with
  | .recreate =>
      if a.ioGen = o.gen then a.setOp op (.executing .recreating) else a.setOp op .settled
  | _ => a.ensure op

/-- What follows an await.  That of a cleanup also ends by its timeout. -/
def resumeFrom (a : StreamingAdapter) (op : ℕ) (o : Op) (await : Await) (succeeds : Bool) :
    StreamingAdapter × List StreamEvent :=
  match await with
  | .stopSent none => (a.setOp op .settled, [])
  | .stopSent (some cleanup) => (a.setOp op (.executing (.cleanup cleanup)), [])
  | .cleanup _ | .listSent => (a.setOp op .settled, [])
  | .watching watch =>
      (if a.watches[watch]? = some true then a.setOp op .settled else a, [])
  | .detaching none => (a.afterDetach op o, [])
  | .detaching (some _) => (a.afterDetach op o, [.other])
  | .recreating =>
      (if succeeds = true ∧ a.ioGen = o.gen then a.ensure op else a.setOp op .settled, [])
  | .ensuring ensure =>
      (if (a.ensures[ensure]?).any fun e => e.stage = .done then a.setOp op .settled else a, [])

/-- An operation goes on behind its await. -/
def resume (a : StreamingAdapter) (op : ℕ) (succeeds : Bool) : StreamingAdapter × List StreamEvent :=
  match a.ops[op]? with
  | some o =>
      match o.status with
      | .executing await => a.resumeFrom op o await succeeds
      | _ => (a, [])
  | none => (a, [])

/-! ## The handle -/

/-- A run of `_ensureSessionAndHandle` is over. -/
def finishEnsure (a : StreamingAdapter) (ensure : ℕ) : StreamingAdapter :=
  { a.setEnsure ensure .done with ensurePromise := none }

/-- The manager answers `init`; where there is no handle, one is attached. -/
def onSessionInit (a : StreamingAdapter) (ensure : ℕ) (succeeds : Bool) : StreamingAdapter :=
  match a.ensures[ensure]? with
  | some e =>
      if e.stage ≠ .session then a
      else if succeeds = true ∧ a.handle = none then
        ({ a with
            handleGen := a.handleGen + 1
            cleanups := a.cleanups ++ [false]
            cleanupPromise := some a.cleanups.length
            cleanupResolve := some a.cleanups.length } : StreamingAdapter).setEnsure ensure
          (.attaching { gen := a.handleGen + 1, since := a.sessionEvents })
      else a.finishEnsure ensure
  | none => a

/-- The manager answers `attach`; a handle of another generation is detached again. -/
def onAttached (a : StreamingAdapter) (ensure : ℕ) (succeeds : Bool) :
    StreamingAdapter × List StreamEvent :=
  match a.ensures[ensure]? with
  | some e =>
      match e.stage with
      | .attaching handle =>
          if succeeds = true ∧ handle.gen = a.handleGen then
            ({ a.finishEnsure ensure with handle := some handle }, [.other])
          else (a.finishEnsure ensure, [])
      | _ => (a, [])
  | none => (a, [])

/-- The session is lost or recreated. -/
def onSession (a : StreamingAdapter) : StreamingAdapter × List StreamEvent :=
  let a := { a with sessionEvents := a.sessionEvents + 1 }
  if a.subscribed then
    ({ a.settleWatch.settleCleanup with handleGen := a.handleGen + 1, handle := none },
      [.sessionReset])
  else (a, [])

/-! ## Callbacks -/

/-- The length of a string in JavaScript. -/
def jsLength (s : String) : ℕ := (s.toList.map fun c => if c.val < 0x10000 then 1 else 2).sum

/-- `_onJsepOffer`. -/
def onJsepOffer (a : StreamingAdapter) (jsep : Jsep) : List StreamEvent :=
  if a.handle = none then []
  else
    match jsep.sdp with
    | none => [.error none "missing or invalid SDP"]
    | some sdp =>
        if sdp = "" then [.error none "missing or invalid SDP"]
        else if jsLength sdp > 16384 then
          [.error none ("SDP too large: " ++ toString (jsLength sdp) ++ "b (max 16384)")]
        else if ¬ "a=fingerprint:".toList <:+: sdp.toList then
          [.error none "SDP missing DTLS fingerprint"]
        else
          .streamingOfferReceived ::
            match jsep.throws with
            | some message => [.error none message]
            | none => []

/-- "Already watching". -/
def alreadyWatching (code : Option ℕ) (message : String) : Prop :=
  code = some 460 ∨ "Already watching".toList <:+: message.toList

instance (code : Option ℕ) (message : String) : Decidable (alreadyWatching code message) :=
  inferInstanceAs (Decidable (_ ∨ _))

/-- `onmessage`: an offer, "Already watching" or the result of a watch settle the pending one. -/
def onMessage (a : StreamingAdapter) (msg : Option Reply) (jsep : Option Jsep) :
    StreamingAdapter × List StreamEvent :=
  let refused := msg.filter fun m => alreadyWatching m.errorCode m.errorText
  let result := msg.any fun m => m.watchResult && refused.isNone
  (if refused.isSome ∨ jsep.isSome ∨ result then a.settleWatch else a,
    (jsep.elim [] a.onJsepOffer) ++ (refused.elim [] fun m => [.error (some 460) m.errorText])
      ++ (if result = true ∧ jsep = none then [.streamingOfferReceived] else []) ++ [.other])

/-- A callback of the current handle. -/
def onCallback (a : StreamingAdapter) (callback : Callback) : StreamingAdapter × List StreamEvent :=
  match callback with
  | .message msg jsep => a.onMessage msg jsep
  | .webrtcState up reason => (a, [.webrtcState up reason])
  | .iceState state => (a, [.iceState state])
  | .remoteTrack on video => (a, if on = false ∨ video = true then [.track on] else [])
  | .trackMuted trackId => (a, [.trackMuted (some trackId)])
  | .trackUnmuted trackId => (a, [.trackUnmuted (some trackId)])
  | .trackEnded => (a, [.trackEnded])
  | .cleanup => (a.settleCleanup, [.other])
  | .detached | .slowLink => (a, [.other])
  | .hangup reason => (a, [.hangup reason])
  | .answerError code message => (a, [.error code message])

/-- The error of a watch: the pending watch fails, whichever it is. -/
def onWatchError (a : StreamingAdapter) (code : Option ℕ) (message : String) :
    StreamingAdapter × List StreamEvent :=
  (a.settleWatch, [.error (if alreadyWatching code message then some 460 else code) message])

end StreamingAdapter

/-- The adapter, event after event, with what it tells its sink. -/
def adapterMachine : Machine StreamingAdapter AdapterEvent Controller.StreamEvent where
  step a
    | .call operation => (a.call operation, [])
    | .start op throws => (a.start op throws, [])
    | .resume op succeeds => a.resume op succeeds
    | .sessionInit ensure succeeds => (a.onSessionInit ensure succeeds, [])
    | .attached ensure succeeds => a.onAttached ensure succeeds
    | .callback gen callback => if gen = a.handleGen then a.onCallback callback else (a, [])
    | .watchError code message => a.onWatchError code message
    | .session => a.onSession

end CameraStack.Player
