/-
# The revision journal

A validated change is journaled as one JSON file per revision, and its status walks
through the apply.  A file of the journal either parses into a record or does not; the
readers refuse to hide the latter.

The world of an apply is the environment file, the journal, and the process: its
environment variables and the cached settings.
-/

import CameraStack.Lib.Action
import CameraStack.Runtime.Config
import CameraStack.Runtime.EnvFile

namespace CameraStack.Runtime

open CameraStack.Lib

/-! ## Records -/

/-- The status of a revision. -/
inductive Status
  | validated | applying | applied | rollingBack | rolledBack | rollbackFailed
  deriving DecidableEq, Repr

/-- An apply is under way. -/
def Status.inFlight : Status → Bool
  | .applying | .rollingBack => true
  | _ => false

/-- A record as `persist_validated` writes it; older records lack some fields. -/
structure Revision where
  status : Status := .validated
  fhbSchema : Option ℤ := some 2
  impact : List String := ["NEW_SESSIONS_ONLY"]
  fileHashesBefore : List (String × String)
  diffHash : Option String
  validatedPatch : List (String × PlainJson)

/-- A file of the journal. -/
inductive Entry
  | corrupt
  | record (r : Revision)

/-- The journal, by revision id. -/
abbrev Journal := Dict Entry

/-- The status a file of the journal shows, if it parses. -/
def Entry.status : Entry → Option Status
  | .corrupt => none
  | .record r => some r.status

/-- The id cannot leave the journal's directory. -/
def validId (rid : String) : Bool :=
  !(rid.toList.any fun c => c = '/' || c = '\\') &&
    !((rid.toList.zip rid.toList.tail).any fun pair => pair = ('.', '.')) &&
    "rev-".toList.isPrefixOf rid.toList

/-- Why a record cannot be applied. -/
inductive NotApplyable
  | status (s : Status)
  | staleSchema
  | impact (found : List String)
  | notBound
  deriving DecidableEq

/-- `FHB_SCHEMA`. -/
def fhbSchemaVersion : ℤ := 2

/-- `is_applyable`: `none` for an applyable record. -/
def isApplyable (path : String) (r : Revision) : Option NotApplyable :=
  if r.status ≠ .validated then some (.status r.status)
  else if r.fhbSchema ≠ some fhbSchemaVersion then some .staleSchema
  else if r.impact.isEmpty || r.impact.any fun i => i ≠ "NEW_SESSIONS_ONLY" then
    some (.impact r.impact)
  else if path ∉ r.fileHashesBefore.map Prod.fst then some .notBound
  else none

/-! ## The world -/

/-- What a deployment fixes: the path of the file, the camera type, the digest of a
content in hexadecimal, and pydantic's conversion to `int`. -/
structure Host where
  runtimeEnvPath : String := "/etc/robot/rs-runtime.env"
  cameraType : String := "color_camera"
  sha256 : Content → String
  laxInt : PlainJson → Option ℤ

/-- The files and the process. -/
structure World where
  file : Option EnvFile
  journal : Journal
  environ : Dict String
  cache : Option Settings := none

/-- The places of an apply that touch a file or build the effective view. -/
inductive Site
  | firstRead | lock | reread
  | validateView | coherence | baseHash | verifyView | markUnchanged
  | priorBytes | priorMode | priorHash | markApplying
  | rehash | mergeRead | mergeMode | replace | postHash | markDrift | markWriteFailed
  | appliedView | markApplied
  | markRollingBack | restore | markRolledBack | markRollbackFailed
  deriving DecidableEq, Repr

/-- What happens to an apply from outside: whether somebody else holds the lock, at
which places an access fails, before which place the machine goes down, what another
thread has put into the settings cache, and what editors have made of the file when a
place is reached. -/
structure Surroundings where
  held : Bool := false
  fails : Site → Bool := fun _ => false
  crashes : Site → Bool := fun _ => false
  racing : Site → Option Settings := fun _ => none
  edits : Site → List (Option EnvFile) := fun _ => []

/-- Exceptions. -/
inductive PyError
  | failed (site : Site)
  | storeCorrupt | keyError | typeError | valueError | unicodeError
  | foreignKey | drift
  deriving DecidableEq

/-- How an action stops: with an exception, or with the machine. -/
inductive Halt
  | raised (e : PyError)
  | crashed
  deriving DecidableEq

/-- Code of the apply engine. -/
abbrev App (A : Type) := Action Surroundings World Halt A

/-- Reach a place: editors come first, then the machine or the access may fail. -/
def reach (site : Site) : App Unit := fun sur w =>
  let found := { w with file := (sur.edits site).foldl (fun _ edited => edited) w.file }
  if sur.crashes site then (.error .crashed, found)
  else if sur.fails site then (.error (.raised (.failed site)), found)
  else (.ok (), found)

/-! ## The journal's operations -/

/-- `_read_raw_revision`: an unreadable file is not found, an unparseable one raises. -/
def readRawRevision (site : Site) (rid : String) : App (Option Revision) := do
  let w ← Action.get
  if validId rid then
    match w.journal[rid]? with
    | none => pure none
    | some entry =>
        Action.catching
          (do
            reach site
            match entry with
            | .corrupt => Action.halt (.raised .storeCorrupt)
            | .record r => pure (some r))
          fun
            | .raised (.failed _) => pure none
            | x => Action.halt x
  else pure none

/-- Write a status into the record of a revision. -/
def World.mark (w : World) (rid : String) (r : Revision) (status : Status) : World :=
  { w with journal := w.journal.insert rid (.record { r with status := status }) }

/-- `set_status`: the record is replaced as a whole or not at all. -/
def setStatus (site : Site) (rid : String) (status : Status) : App Bool := do
  let w ← Action.get
  if validId rid then
    match w.journal[rid]? with
    | none => pure false
    | some entry => do
        reach site
        match entry with
        | .corrupt => Action.halt (.raised .storeCorrupt)
        | .record r => do
            Action.modify fun w => w.mark rid r status
            pure true
  else pure false

/-- `list_revisions`. -/
def listRevisions (journal : Journal) : List String :=
  journal.keys.filter fun rid => "rev-".toList.isPrefixOf rid.toList

end CameraStack.Runtime
