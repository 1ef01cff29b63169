/-
# The apply engine

`apply_revision` re-reads the revision under the apply lock, checks it, captures what
a rollback needs, and then walks the status through the write of the file, the update
of the process and the verification.

The function is cut where its guarantees change: `examine` and `capture` only read,
`activate` writes, `rollback` undoes.
-/

import CameraStack.Runtime.Revision

namespace CameraStack.Runtime

open CameraStack.Lib

/-! ## Results -/

/-- `Outcome`. -/
inductive Outcome
  | applied | notFound | confirmMismatch | rejected | drift | conflict | lockHeld | writeFailed
  | rolledBack | rollbackFailed
  deriving DecidableEq, Repr

/-- The detail of a result. -/
inductive Detail
  | none
  | revisionNotFound | anotherApply
  | notApplyable (why : NotApplyable)
  | confirmMismatch | inconsistentId | forbiddenFields | revalidateFailed | impactNotExact
  | divergence (key : String)
  | changedSinceValidate | alreadyAtTarget | changedDuringApply
  | writeFailed (e : PyError)
  | verifyFailed
  | rollbackFailed (e : PyError)
  deriving DecidableEq

/-- `ApplyResult`. -/
structure ApplyResult where
  outcome : Outcome
  changed : Bool := false
  verified : Bool := false
  detail : Detail := .none
  applied : List (String × PlainJson) := []

/-! ## Access to the file and the process -/

/-- `RUNTIME_ENV_SENTINEL`. -/
def absentHash : String := "sha256:__ABSENT__"

/-- The hash of a file, or the mark of its absence. -/
def Host.hash (host : Host) : Option EnvFile → String
  | none => absentHash
  | some file => "sha256:" ++ host.sha256 file.content

/-- `current_hash`. -/
def currentHash (host : Host) (site : Site) : App String := do
  reach site
  let w ← Action.get
  pure (host.hash w.file)

/-- `read_keys` of the file on disk. -/
def readKeysAt (site : Site) : App (Dict String) := do
  reach site
  let w ← Action.get
  match readKeys w.file with
  | some keys => pure keys
  | none => Action.halt (.raised .unicodeError)

/-- The mode a new file gets. -/
def defaultMode : ℕ := 0o644

/-- The mode of the file on disk, or the default. -/
def fileMode (site : Site) : App ℕ := do
  reach site
  let w ← Action.get
  pure (w.file.elim defaultMode EnvFile.mode)

/-- `os.replace` of the file, or its removal. -/
def replaceFile (site : Site) (file : Option EnvFile) : App Unit := do
  reach site
  Action.modify fun w => { w with file := file }

/-- `get_settings`, after what another thread may have put into the cache. -/
def getSettings (host : Host) (site : Site) : App Settings := fun sur w =>
  let s := (sur.racing site <|> w.cache).getD (readSettings host.cameraType w.environ)
  (.ok s, { w with cache := some s })

/-- `build_effective`: the stream profiles only matter by whether they can be built. -/
def buildEffective (host : Host) (site : Site) : App (Settings × WebRtcView) := do
  let s ← getSettings host site
  reach site
  pure (s, buildWebRtc s)

/-- `_verify`. -/
def verifyAt (host : Host) (site : Site) (updates : Updates) : App Bool := do
  let (s, view) ← buildEffective host site
  pure (updates.verify s view)

/-! ## Reading -/

/-- The checks of a record before anything else is looked at; a section that is no
mapping gets past them. -/
inductive Admission
  | stop (result : ApplyResult)
  | raise (e : PyError)
  | go (webrtc : Option WebRtcPatch)

/-- The eight hexadecimal digits of a hash that end a revision id. -/
def hashSuffix (diffHash : String) : List Char := (diffHash.toList.drop 7).take 8

/-- The pure checks of `_apply_under_lock`. -/
def admission (host : Host) (rid confirm : String) (r : Revision) : Admission :=
  match isApplyable host.runtimeEnvPath r with
  | some why => .stop { outcome := .rejected, detail := .notApplyable why }
  | none =>
      match r.diffHash with
      | none => .raise .keyError
      | some diffHash =>
          if confirm ≠ "apply-" ++ diffHash then
            .stop { outcome := .confirmMismatch, detail := .confirmMismatch }
          else if !(hashSuffix diffHash).isSuffixOf rid.toList then
            .stop { outcome := .rejected, detail := .inconsistentId }
          else
            match patchSection r.validatedPatch with
            | .forbidden => .stop { outcome := .rejected, detail := .forbiddenFields }
            | .typeError => .raise .typeError
            | .names => .go none
            | .fields webrtc => .go (some webrtc)

/-- The first key on which file and process disagree: `_coherence_ok`. -/
def incoherentKey (cur environ : Dict String) : Option String :=
  allowlist.find? fun key =>
    match cur[key]?, environ[key]? with
    | some disk, some proc => disk ≠ proc
    | _, _ => false

/-- The checks of an admitted revision against the effective view and the file it was
validated for: `.inr` with the updates, and whether the view already shows them. -/
def judge (host : Host) (r : Revision) (webrtc : Option WebRtcPatch) :
    App (ApplyResult ⊕ WebRtcPatch × Updates × Bool) := do
  let (_, view) ← buildEffective host .validateView
  match webrtc with
  | none => Action.halt (.raised .typeError)
  | some webrtc =>
      if !patchValid host.laxInt r.validatedPatch webrtc then
        pure (.inl { outcome := .rejected, detail := .revalidateFailed })
      else if !patchChanges view webrtc then
        pure (.inl { outcome := .rejected, detail := .impactNotExact })
      else do
        let cur ← readKeysAt .coherence
        let w ← Action.get
        match incoherentKey cur w.environ with
        | some key => pure (.inl { outcome := .conflict, detail := .divergence key })
        | none => do
            let base ← currentHash host .baseHash
            if r.fileHashesBefore ≠ [(host.runtimeEnvPath, base)] then
              pure (.inl { outcome := .drift, detail := .changedSinceValidate })
            else
              match patchUpdates webrtc with
              | none => Action.halt (.raised .valueError)
              | some updates => do
                  let atTarget ← verifyAt host .verifyView updates
                  pure (.inr (webrtc, updates, atTarget))

/-- All checks of `_apply_under_lock`. -/
def examine (host : Host) (rid confirm : String) :
    App (ApplyResult ⊕ WebRtcPatch × Updates × Bool) := do
  match ← readRawRevision .reread rid with
  | none => pure (.inl { outcome := .notFound })
  | some r =>
      match admission host rid confirm r with
      | .stop result => pure (.inl result)
      | .raise e => Action.halt (.raised e)
      | .go webrtc => judge host r webrtc

/-- What a rollback needs, and the hash the write expects to find. -/
structure Prior where
  content : Option Content
  mode : ℕ
  environ : List (String × Option String)
  hash : String

/-- The values the environment holds under the updated keys, `none` for an unset key. -/
def priorOs (environ : Dict String) (updates : Updates) : List (String × Option String) :=
  updates.items.map fun item => (item.1, environ[item.1]?)

/-- Capture the state before the first write. -/
def capture (host : Host) (updates : Updates) : App Prior := do
  reach .priorBytes
  let w ← Action.get
  let mode ← fileMode .priorMode
  let hash ← currentHash host .priorHash
  pure
    { content := w.file.map EnvFile.content
      mode := mode
      environ := priorOs w.environ updates
      hash := hash }

/-! ## Writing -/

/-- `write_locked`. -/
def writeLocked (host : Host) (updates : List (String × String)) (expected : String) :
    App String := do
  if !allowlisted (updates.map Prod.fst) then Action.halt (.raised .foreignKey)
  else do
    let now ← currentHash host .rehash
    if now ≠ expected then Action.halt (.raised .drift)
    else do
      let cur ← readKeysAt .mergeRead
      if !allowlisted cur.keys then Action.halt (.raised .foreignKey)
      else if !allowlisted (mergeKeys cur updates).keys then Action.halt (.raised .foreignKey)
      else do
        let mode ← fileMode .mergeMode
        replaceFile .replace
          (some { content := .text (render (mergeKeys cur updates)), mode := mode })
        currentHash host .postHash

/-- Set the updated keys in the environment and drop the cached settings. -/
def World.activate (w : World) (updates : List (String × String)) : World :=
  { w with environ := w.environ.insertMany updates, cache := none }

/-- Give a key of the environment its earlier value. -/
def restoreKey (environ : Dict String) (entry : String × Option String) : Dict String :=
  match entry.2 with
  | none => environ.erase entry.1
  | some value => environ.insert entry.1 value

/-- Give the environment its earlier values and drop the cached settings. -/
def World.deactivate (w : World) (prior : List (String × Option String)) : World :=
  { w with environ := prior.foldl restoreKey w.environ, cache := none }

/-- `except Exception`: a crash is not caught. -/
def exceptException {A : Type} (body : App A) (handler : PyError → App A) : App A :=
  Action.catching body fun
    | .raised e => handler e
    | .crashed => Action.halt .crashed

/-- `_rollback`. -/
def rollback (rid : String) (prior : Prior) : App ApplyResult := do
  let _ ← setStatus .markRollingBack rid .rollingBack
  Action.modify fun w => w.deactivate prior.environ
  exceptException
    (do
      replaceFile .restore
        (prior.content.map fun content => { content := content, mode := prior.mode })
      let _ ← setStatus .markRolledBack rid .rolledBack
      pure { outcome := .rolledBack, detail := .verifyFailed })
    fun e => do
      let _ ← setStatus .markRollbackFailed rid .rollbackFailed
      pure { outcome := .rollbackFailed, detail := .rollbackFailed e }

/-- The fields of a patch with the paths they are reported under. -/
def WebRtcPatch.reported (webrtc : WebRtcPatch) : List (String × PlainJson) :=
  (webrtc.icePolicy.toList.map fun value => ("webrtc.ice_policy", value)) ++
    webrtc.ttl.toList.map fun value => ("webrtc.turn_credential_ttl_seconds", value)

/-- After the write: the process follows, and the result is verified. -/
def finish (host : Host) (rid : String) (webrtc : WebRtcPatch) (updates : Updates)
    (prior : Prior) : App ApplyResult := do
  Action.modify fun w => w.activate updates.items
  if ← verifyAt host .appliedView updates then do
    let _ ← setStatus .markApplied rid .applied
    pure { outcome := .applied, changed := true, verified := true, applied := webrtc.reported }
  else rollback rid prior

/-- The write with its two handlers; `none` when the file was written. -/
def writeStage (host : Host) (rid : String) (updates : Updates) (prior : Prior) :
    App (Option ApplyResult) :=
  exceptException
    (do
      let _ ← writeLocked host updates.items prior.hash
      pure none)
    fun
      | .drift => do
          let _ ← setStatus .markDrift rid .validated
          pure (some { outcome := .drift, detail := .changedDuringApply })
      | e => do
          let _ ← setStatus .markWriteFailed rid .validated
          pure (some { outcome := .writeFailed, detail := .writeFailed e })

/-- From the mark `applying` on. -/
def activate (host : Host) (rid : String) (webrtc : WebRtcPatch) (updates : Updates)
    (prior : Prior) : App ApplyResult := do
  let _ ← setStatus .markApplying rid .applying
  match ← writeStage host rid updates prior with
  | some result => pure result
  | none => finish host rid webrtc updates prior

/-- What follows the checks. -/
def conclude (host : Host) (rid : String) :
    ApplyResult ⊕ WebRtcPatch × Updates × Bool → App ApplyResult
  | .inl result => pure result
  | .inr (webrtc, updates, atTarget) =>
      if atTarget then do
        let _ ← setStatus .markUnchanged rid .applied
        pure { outcome := .applied, verified := true, detail := .alreadyAtTarget }
      else do
        let prior ← capture host updates
        activate host rid webrtc updates prior

/-- `_apply_under_lock`. -/
def applyUnderLock (host : Host) (rid confirm : String) : App ApplyResult := do
  let checked ← examine host rid confirm
  conclude host rid checked

/-- Another process holds the apply lock. -/
def lockHeld : App Bool := fun sur w => (.ok sur.held, w)

/-- `apply_revision`. -/
def applyRevision (host : Host) (rid confirm : String) : App ApplyResult := do
  match ← readRawRevision .firstRead rid with
  | none => pure { outcome := .notFound, detail := .revisionNotFound }
  | some _ => do
      reach .lock
      if ← lockHeld then pure { outcome := .lockHeld, detail := .anotherApply }
      else applyUnderLock host rid confirm

/-! ## An example -/

/-- A file somebody wrote by hand. -/
def relayFile : EnvFile := { content := .text "ICE_POLICY=relay\n", mode := 0o644 }

/-- The file the engine writes for the other policy. -/
def allFile : EnvFile where
  content := .text (render ((∅ : Dict String).insert "ICE_POLICY" "all"))
  mode := 0o644

/-- The digests of the two files; no other content occurs. -/
def exampleDigest (content : Content) : String :=
  if content = relayFile.content then
    "4d323ef4fb1c2e31fd3105de5a5fa1785e5f62e2a1982242c6e3f0a172ed70fd"
  else if content = allFile.content then
    "c43410d08d93413c59712d1579dae9fcc78780436cff0e86b1d3cafcd31666b3"
  else ""

/-- A deployment. -/
def exampleHost (cameraType : String) : Host where
  cameraType := cameraType
  sha256 := exampleDigest
  laxInt := PlainJson.toInt

/-- The diff hash of the example's revision. -/
def exampleDiffHash : String :=
  "sha256:4dad6c82d968775f093687ba116ff40f0e04508f0696ac552a46a3e4e48b4cc2"

/-- The id the journal gave it. -/
def exampleId : String := "rev-20260101T000000000000Z-4dad6c82"

/-- The revision `ice_policy = all`, validated against the relay file. -/
def exampleRevision : Revision where
  fileHashesBefore :=
    [("/etc/robot/rs-runtime.env",
      "sha256:4d323ef4fb1c2e31fd3105de5a5fa1785e5f62e2a1982242c6e3f0a172ed70fd")]
  diffHash := some exampleDiffHash
  validatedPatch := [("webrtc", .obj [("ice_policy", .str "all")])]

/-- The world in which it is applied. -/
def exampleWorld : World where
  file := some relayFile
  journal := (∅ : Journal).insert exampleId (.record exampleRevision)
  environ := (∅ : Dict String).insert "ICE_POLICY" "relay"

/-- The outcome of a call. -/
def callOutcome (call : Except Halt ApplyResult × World) : Option Outcome :=
  match call.1 with
  | .ok result => some result.outcome
  | .error _ => none

example :
    let call := applyRevision (exampleHost "color_camera") exampleId ("apply-" ++ exampleDiffHash)
      {} exampleWorld
    callOutcome call = some .applied ∧ call.2.file = some allFile := by decide +kernel

end CameraStack.Runtime
