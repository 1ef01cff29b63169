/-
# Depth results on their way back to the browser

A browser opens a stream of events, naming a session, and asks for depths through the back channel,
naming the session again.  The relay posts a question to the sink, puts the session of the question
into the answer, and posts that to the camera page, which has one queue for each session.

A connection is open from the moment when its queue is registered until the response ends, which
is where the clean-up of its stream runs, if the stream was ever started.
-/

import CameraStack.Lib.Newest
import CameraStack.Relay.Worker

namespace CameraStack.Depth

open CameraStack.Lib CameraStack.Bringup CameraStack.Relay

/-! ## Connections -/

/-- What has become of the response of a connection: not a line was sent, its stream is running, or
it has ended. -/
inductive Stage
  | registered
  | streaming
  | ended
  deriving DecidableEq

/-- `_SUB_QUEUE_MAX`. -/
def subQueueMax : ℕ := 64

/-- A connection, the `session_id` of its request, and its queue. -/
structure Connection where
  requested : Option String
  queue : TaskQueue Json := {}
  stage : Stage := .registered

/-- The session that a request names; an empty one is none. -/
def named : Option String → Option String
  | some "" => none
  | requested => requested

/-- The session under which `depth_events` registers a request. -/
def sessionKey (requested : Option String) : String := (named requested).getD "_legacy"

/-- The session that a connection was opened with. -/
def Connection.sessionId (c : Connection) : Option String := named c.requested

/-- The session under which a connection is registered. -/
def Connection.key (c : Connection) : String := sessionKey c.requested

/-- The response has not ended. -/
def Connection.isOpen (c : Connection) : Bool := decide (c.stage ≠ .ended)

/-- `_check_internal_auth`. -/
def checkInternalAuth (internalSecret clientHost : String) (secretHeader : Option String) : Bool :=
  if clientHost ∈ ["127.0.0.1", "::1", "testclient"] then
    if internalSecret = "" then true
    else
      match secretHeader with
      | none => false
      | some header => header ≠ "" && header = internalSecret
  else false

/-- The check of `depth_events` on the name of a session; `isalnum` is that of Python. -/
def validSession (isalnum : Char → Bool) (session : String) : Bool :=
  decide (session.length ≤ 64) && session.toList.all fun c => isalnum c || c = '-' || c = '_'

/-! ## The state -/

/-- What the services are configured with. -/
structure Setup where
  topic : Topic := depthQuery
  queueMax : ℕ := 50
  isalnum : Char → Bool
  relaySecret : String := ""
  pageSecret : String := ""

/-- An answer that the relay posts, with the question. -/
structure Post where
  query : Members
  body : Json

/-- The connections in the order in which they were opened, `_subscribers` with the place of a
connection for its queue, the relay, and its posts that are on the way. -/
structure Hub where
  connections : List Connection := []
  subscribers : Dict ℕ := ∅
  relay : TopicState
  publishing : List Post := []

/-- An answer that is put into the queue of a connection. -/
structure Delivery where
  connection : ℕ
  post : Post

/-! ## The camera page -/

namespace Hub

/-- `depth_events`, up to its response. -/
def depthEvents (isalnum : Char → Bool) (requested : Option String) (s : Hub) : Hub :=
  if validSession isalnum (sessionKey requested) then
    { s with
      connections := s.connections ++ [{ requested := requested }]
      subscribers := s.subscribers.insert (sessionKey requested) s.connections.length }
  else s

/-- The response of a connection asks its stream for the first line. -/
def start (i : ℕ) (s : Hub) : Hub :=
  { s with
    connections := s.connections.modify i fun c =>
      if c.stage = .registered then { c with stage := .streaming } else c }

/-- A running stream takes the next answer from its queue. -/
def receive (i : ℕ) (s : Hub) : Hub :=
  { s with
    connections := s.connections.modify i fun c =>
      match c.stage, c.queue.getNowait with
      | .streaming, some (_, queue) => { c with queue := queue }
      | _, _ => c }

/-- The clean-up of a stream: only its own queue is removed. -/
def cleanUp (i : ℕ) (key : String) (table : Dict ℕ) : Dict ℕ :=
  if table[key]? = some i then table.erase key else table

/-- The response of a connection ends; a stream that was never started does not clean up. -/
def close (i : ℕ) (s : Hub) : Hub :=
  match s.connections[i]? with
  | none => s
  | some c =>
      { s with
        connections := s.connections.set i { c with stage := .ended }
        subscribers :=
          if c.stage = .streaming then cleanUp i c.key s.subscribers else s.subscribers }

/-- `payload.get("session_id")`, where it is a string that is not empty; `none` for a payload that
is no object, on which the call raises. -/
def bodySession : Json → Option String
  | .obj members => (sessionOf members).filter fun session => session ≠ ""
  | _ => none

/-- `internal_depth_broadcast`, for a body that the client host posts with this header. -/
def internalDepthBroadcast (internalSecret clientHost : String) (secretHeader : Option String)
    (post : Post) (s : Hub) : Hub × List Delivery :=
  if checkInternalAuth internalSecret clientHost secretHeader then
    match bodySession post.body with
    | none => (s, [])
    | some session =>
        match s.subscribers[session]? with
        | none => (s, [])
        | some i =>
            match s.connections[i]? with
            | none => (s, [])
            | some c =>
                match c.queue.putNowait subQueueMax post.body with
                | none => (s, [])
                | some queue =>
                    ({ s with connections := s.connections.set i { c with queue := queue } },
                      [{ connection := i, post := post }])
  else (s, [])

end Hub

/-! ## Runs -/

/-- What happens to the connections, to the relay, and to the posts on their way. -/
inductive Event
  | connect (requested : Option String)
  | start (i : ℕ)
  | receive (i : ℕ)
  | close (i : ℕ)
  | relay (e : Relay.Event)
  | broadcast (j : ℕ) (clientHost : String)
  | lose (j : ℕ)

/-- The header that the relay sends. -/
def Setup.publishHeader (setup : Setup) : Option String :=
  if setup.relaySecret = "" then none else some setup.relaySecret

/-- The page accepts a post of the relay from this host. -/
def Setup.accepts (setup : Setup) (clientHost : String) : Bool :=
  checkInternalAuth setup.pageSecret clientHost setup.publishHeader

/-- The posts among what the relay shows. -/
def posts (outputs : List Output) : List Post :=
  outputs.filterMap fun o =>
    match o with
    | .publish _ query body => some { query := query, body := body }
    | .sink .. | .evicted _ | .finished _ => none

/-- The services, event by event; they show what is put into the queues. -/
def depthMachine (setup : Setup) : Machine Hub Event Delivery where
  step s
    | .connect requested => (s.depthEvents setup.isalnum requested, [])
    | .start i => (s.start i, [])
    | .receive i => (s.receive i, [])
    | .close i => (s.close i, [])
    | .relay e =>
        let (relay, outputs) := (relayMachine setup.topic setup.queueMax).step s.relay e
        ({ s with relay := relay, publishing := s.publishing ++ posts outputs }, [])
    | .broadcast j clientHost =>
        match s.publishing[j]? with
        | none => (s, [])
        | some post =>
            { s with publishing := s.publishing.eraseIdx j }.internalDepthBroadcast
              setup.pageSecret clientHost setup.publishHeader post
    | .lose j => ({ s with publishing := s.publishing.eraseIdx j }, [])

/-- Nothing is connected, and the relay has started. -/
def Setup.hub (setup : Setup) : Hub := { relay := setup.topic.start }

end CameraStack.Depth
