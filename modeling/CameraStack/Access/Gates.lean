/-
# Admin sessions and the gates

The admin token is presented once, and the gateway hands back a session id that stands for
it until it expires, is revoked, or the process restarts.  Three gates read it: for the
admin routes, for the viewer routes, which an admin passes too, and for the WebSocket.

The gates and the routes are written over any session store.  The program's store throws
expired ids away whenever it mints one or meets one; the ledger keeps all that was minted.
-/

import CameraStack.Lib.Dict
import CameraStack.Lib.Machine
import CameraStack.Lib.Text
import Mathlib.Algebra.Order.Ring.Rat

namespace CameraStack.Access

open CameraStack.Lib

/-! ## Session stores -/

/-- What the gates and the routes use of a store of sessions. -/
structure SessionStore (σ : Type) where
  empty : σ
  create : (sid : String) → (ttl now : ℚ) → σ → σ
  isValid : (sid : String) → (now : ℚ) → σ → Bool × σ
  revoke : (sid : String) → σ → σ

/-- `_prune_locked`. -/
def pruneLocked (now : ℚ) (sessions : Dict ℚ) : Dict ℚ :=
  sessions.filter fun _ exp => now < exp

/-- `create_session`, `is_valid` and `revoke`, over `_SESSIONS`. -/
def sessionStore : SessionStore (Dict ℚ) where
  empty := ∅
  create sid ttl now sessions := (pruneLocked now sessions).insert sid (now + ttl)
  isValid sid now sessions :=
    if sid = "" then (false, sessions)
    else
      match sessions[sid]? with
      | none => (false, sessions)
      | some exp => if exp ≤ now then (false, sessions.erase sid) else (true, sessions)
  revoke sid sessions := if sid = "" then sessions else sessions.erase sid

/-- The store that throws nothing away. -/
def ledgerStore : SessionStore (Dict ℚ) where
  empty := ∅
  create sid ttl now sessions := sessions.insert sid (now + ttl)
  isValid sid now sessions :=
    (sid ≠ "" && (sessions[sid]?.any fun exp => now < exp), sessions)
  revoke sid sessions := if sid = "" then sessions else sessions.erase sid

/-! ## The environment -/

/-- The variables that are read at each call. -/
structure Environ where
  camAdminToken : Option String
  camAuthDisabled : Option String

/-- `admin_token`. -/
def Environ.adminToken (env : Environ) : String := env.camAdminToken.getD "change-me"

/-- The token has not been set.  Only ASCII letters have their lower case in this word. -/
def Environ.unset (env : Environ) : Bool := env.adminToken.toLower = "change-me"

/-- `auth_disabled`. -/
def Environ.authDisabled (env : Environ) : Bool :=
  (pyStrip (env.camAuthDisabled.getD "")).toLower ∈ ["1", "true", "yes", "on"]

/-- `admin_token_ok`. -/
def Environ.adminTokenOk (env : Environ) (supplied : String) : Bool :=
  supplied ≠ "" && !env.unset && supplied = env.adminToken

/-- `_load_tokens`. -/
def loadTokens (raw : String) : List String :=
  (((raw.toList.splitOn ',').map stripChars).filter (· ≠ [])).map String.ofList

/-! ## The gates -/

/-- What a request presents: the header and the cookie of an admin, the header and the
parameter of a viewer; `""` where there is none. -/
structure Credentials where
  xAdminToken : String := ""
  camAdmin : String := ""
  xViewerToken : String := ""
  token : String := ""

/-- Why a request is let in. -/
inductive Grant
  /-- Authentication is left to the edge. -/
  | disabled
  | adminToken
  | session (sid : String)
  /-- No viewer tokens are configured. -/
  | devMode
  | viewerToken (token : String)
  deriving DecidableEq

/-- The answer of a gate that is closed, and the reason that is counted. -/
structure Refusal where
  code : ℕ
  detail : String
  reason : String
  deriving DecidableEq

/-- `sid and session_store.is_valid(sid)`. -/
def sessionOk {σ : Type} (store : SessionStore σ) (sid : String) (now : ℚ) (sessions : σ) :
    Bool × σ :=
  if sid = "" then (false, sessions) else store.isValid sid now sessions

section Gates

variable {σ : Type} (store : SessionStore σ) (env : Environ) (c : Credentials) (now : ℚ)
  (sessions : σ)

/-- `require_admin`. -/
def requireAdmin : Except Refusal Grant × σ :=
  if env.authDisabled then (.ok .disabled, sessions)
  else if env.unset then
    (.error
      { code := 503
        detail := "Admin endpoint disabled: CAM_ADMIN_TOKEN is still the default placeholder. " ++
          "Set a strong token in camera-secrets.env before using admin routes."
        reason := "" }, sessions)
  else if env.adminTokenOk c.xAdminToken then (.ok .adminToken, sessions)
  else
    let checked := sessionOk store c.camAdmin now sessions
    (if checked.1 then .ok (.session c.camAdmin)
      else .error { code := 403, detail := "Invalid admin token", reason := "admin" }, checked.2)

/-- What a viewer presents: the header, or else the parameter. -/
def Credentials.supplied : String := if c.xViewerToken = "" then c.token else c.xViewerToken

/-- `_compare_to_any`. -/
def compareToAny (viewerTokens : List String) (supplied : String) : Bool :=
  supplied ≠ "" && viewerTokens.any (supplied = ·)

/-- The end of `require_viewer`, where no admin has passed. -/
def requireViewerToken (viewerTokens : List String) : Except Refusal Grant :=
  if viewerTokens = [] then .ok .devMode
  else if compareToAny viewerTokens c.supplied then .ok (.viewerToken c.supplied)
  else
    .error
      { code := 401
        detail := "Invalid or missing viewer token"
        reason := if c.supplied = "" then "missing" else "invalid" }

/-- `require_viewer`. -/
def requireViewer (viewerTokens : List String) : Except Refusal Grant × σ :=
  if env.authDisabled then (.ok .disabled, sessions)
  else if env.adminTokenOk c.xAdminToken then (.ok .adminToken, sessions)
  else
    let checked := sessionOk store c.camAdmin now sessions
    (if checked.1 then .ok (.session c.camAdmin) else requireViewerToken c viewerTokens, checked.2)

/-- `require_viewer_ws`, and the code with which the WebSocket is closed. -/
def requireViewerWs (viewerTokens : List String) : Except Refusal Grant :=
  if env.authDisabled then .ok .disabled
  else if viewerTokens = [] then .ok .devMode
  else if compareToAny viewerTokens c.supplied then .ok (.viewerToken c.supplied)
  else
    .error
      { code := 1008
        detail := ""
        reason := if c.supplied = "" then "ws_missing" else "ws_invalid" }

end Gates

/-! ## The gateway -/

/-- The routes: the console, log-in, log-out, the pages of viewers, and the WebSocket. -/
inductive Route
  | fleet
  | openSession
  | closeSession
  | page
  | socket
  deriving DecidableEq

/-- The gate of these is `require_admin`. -/
def Route.isAdmin : Route → Bool
  | .fleet | .openSession | .closeSession => true
  | .page | .socket => false

/-- A request that has been let in, and is still to be handled. -/
structure Pending where
  route : Route
  credentials : Credentials
  grant : Grant

/-- The process: `VIEWER_TOKENS` is read when it starts. -/
structure Gateway (σ : Type) where
  env : Environ
  viewerTokens : List String
  sessions : σ
  pending : List Pending

/-- A request comes to its gate, or one that was let in is handled; the environment
changes, or the process starts again.  Ids to mint come from outside. -/
inductive Event
  | enter (route : Route) (c : Credentials) (now : ℚ)
  | handle (i : ℕ) (minted : String) (now : ℚ)
  | environ (env : Environ)
  | restart (env : Environ) (viewerTokens : String)

/-- The reading of the clock in an event. -/
def Event.now : Event → Option ℚ
  | .enter _ _ now | .handle _ _ now => some now
  | .environ _ | .restart _ _ => none

/-- What is seen of it. -/
inductive Report
  | admitted (route : Route) (c : Credentials) (grant : Grant)
  | refused (route : Route) (c : Credentials) (refusal : Refusal)
  | opened (sid : String) (exp : ℚ) (grant : Grant)
  | closed (sid : String)
  | started

/-- `DEFAULT_TTL_SECONDS`. -/
def defaultTtlSeconds : ℚ := 12 * 3600

section Step

variable {σ : Type} (store : SessionStore σ)

/-- The gate of a route. -/
def Gateway.gate (g : Gateway σ) (route : Route) (c : Credentials) (now : ℚ) :
    Except Refusal Grant × σ :=
  match route with
  | .fleet | .openSession | .closeSession => requireAdmin store g.env c now g.sessions
  | .page => requireViewer store g.env c now g.sessions g.viewerTokens
  | .socket => (requireViewerWs g.env c g.viewerTokens, g.sessions)

/-- `open_session`, `close_session`, and the routes that leave the sessions. -/
def Pending.handle (p : Pending) (minted : String) (now : ℚ) (sessions : σ) : σ × List Report :=
  match p.route with
  | .openSession =>
      (store.create minted defaultTtlSeconds now sessions,
        [.opened minted (now + defaultTtlSeconds) p.grant])
  | .closeSession =>
      (store.revoke p.credentials.camAdmin sessions, [.closed p.credentials.camAdmin])
  | .fleet | .page | .socket => (sessions, [])

/-- One step. -/
def step (g : Gateway σ) : Event → Gateway σ × List Report
  | .enter route c now =>
      let (outcome, sessions) := g.gate store route c now
      match outcome with
      | .ok grant =>
          ({ g with
            sessions := sessions
            pending := g.pending ++ [{ route := route, credentials := c, grant := grant }] },
            [.admitted route c grant])
      | .error refusal => ({ g with sessions := sessions }, [.refused route c refusal])
  | .handle i minted now =>
      match g.pending[i]? with
      | some p =>
          let (sessions, reports) := p.handle store minted now g.sessions
          ({ g with sessions := sessions, pending := g.pending.eraseIdx i }, reports)
      | none => (g, [])
  | .environ env => ({ g with env := env }, [])
  | .restart env viewerTokens =>
      ({ env := env
         viewerTokens := loadTokens viewerTokens
         sessions := store.empty
         pending := [] }, [.started])

/-- Requests, in any order of steps. -/
def machine : Machine (Gateway σ) Event Report where
  step := step store

/-- The process as it starts. -/
def Gateway.start (env : Environ) (viewerTokens : String) : Gateway σ where
  env := env
  viewerTokens := loadTokens viewerTokens
  sessions := store.empty
  pending := []

end Step

end CameraStack.Access
