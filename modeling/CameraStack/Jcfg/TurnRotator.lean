/-
# The rotation of the TURN credential

`janus-turn-rotator.py` reads the credential that `janus.jcfg` holds, and writes a new one and
restarts Janus where the old one is about to expire.  The script never asks what Janus has loaded,
and its expressions also match in the lines that are commented out, which Janus does not read.
-/

import Mathlib.Data.Fintype.Basic
import CameraStack.Lib.PyNumber
import CameraStack.Lib.Setting

namespace CameraStack.Jcfg

open Lib

/-! ## The file -/

/-- The settings of a TURN credential. -/
inductive TurnField where
  | user
  | pwd
  deriving DecidableEq

instance : Fintype TurnField where
  elems := {.user, .pwd}
  complete field := by cases field <;> decide

/-- `turn_user` and `turn_pwd`. -/
def turnNames : SettingNames TurnField where
  first := 't'
  rest
    | .user => "urn_user".toList
    | .pwd => "urn_pwd".toList
  first_plain := by decide
  rest_plain i := by cases i <;> exact forall_mem_of_all (by decide)
  distinct := by decide

abbrev TurnField.name (field : TurnField) : List Char := turnNames.name field

/-- User, password and expiry. -/
structure TurnCreds where
  user : List Char
  pwd : List Char
  expiry : ℤ
  deriving DecidableEq

/-- The expiry that a user name begins with; zero where there is none. -/
def expiryOf (user : List Char) : ℤ :=
  if ':' ∈ user then (intOfText (user.takeWhile fun c => c ≠ ':')).getD 0 else 0

/-- `parse_current_creds` -/
def parseCurrentCreds (jcfgContent : List Char) : Option TurnCreds := do
  let user ← searchSetting TurnField.user.name jcfgContent
  let pwd ← searchSetting TurnField.pwd.name jcfgContent
  return { user, pwd, expiry := expiryOf user }

/-- `patch_jcfg`; `none` is an error that `re.sub` raises about the replacement. -/
def patchJcfg (jcfgContent newUser newPwd : List Char) : Option (List Char) := do
  let out ← reSub TurnField.user.name ("turn_user   = \"".toList ++ newUser ++ ['"']) jcfgContent
  reSub TurnField.pwd.name ("turn_pwd    = \"".toList ++ newPwd ++ ['"']) out

/-- What `read_text` makes of the ends of lines; after a carriage return a line feed is dropped. -/
def readText (afterReturn : Bool) : List Char → List Char
  | [] => []
  | c :: cs =>
      if c = '\r' then '\n' :: readText true cs
      else if c = '\n' ∧ afterReturn then readText false cs
      else c :: readText false cs

/-- Janus reads the lines that are not commented out. -/
def janusLoads (jcfg : List Char) : Option TurnCreds := parseCurrentCreds (activeText jcfg)

/-! ## The credential -/

/-- `base64(HMAC-SHA1(..))` of a user name under a secret, which is text in the base64 alphabet. -/
structure TurnHmac where
  digest : (sharedSecret user : List Char) → List Char
  base64 : ∀ sharedSecret user, ∀ c ∈ digest sharedSecret user,
    c.isAlphanum = true ∨ c = '+' ∨ c = '/' ∨ c = '='

def day : ℤ := 86400

/-- `generate_credentials` at a reading of the clock; `none` is the error of an expiry that has too
many digits for a text. -/
def generateCredentials (hmac : TurnHmac) (sharedSecret : List Char) (ttlDays : ℤ)
    (username : List Char) (now : ℤ) : Option TurnCreds := do
  let expiry := now + ttlDays * day
  let digits ← textOfInt expiry
  let user := digits ++ ':' :: username
  return { user, pwd := hmac.digest sharedSecret user, expiry }

/-- `should_rotate` at a reading of the clock. -/
def shouldRotate (currentExpiry beforeDays now : ℤ) : Bool :=
  currentExpiry = 0 || currentExpiry ≤ now + beforeDays * day

/-! ## The secret -/

/-- The file of the secrets, as it is found. -/
inductive SecretsFile where
  | text (content : List Char)
  | unreadable
  | undecodable

/-- `str.strip` of one character. -/
def stripOf (d : Char) (cs : List Char) : List Char :=
  ((cs.dropWhile fun c => c = d).reverse.dropWhile fun c => c = d).reverse

/-- The value on the first line that sets the secret. -/
def secretIn (lines : List (List Char)) : Option (List Char) :=
  let key := "TURN_SHARED_SECRET=".toList
  match (lines.map stripChars).find? fun line => key.isPrefixOf line with
  | none => none
  | some line =>
      let value := stripOf '\'' (stripOf '"' (stripChars (line.drop key.length)))
      if value = [] then none else some value

/-- `load_shared_secret`; the outer `none` is the error of bytes that are no text. -/
def loadSharedSecret : SecretsFile → Option (Option (List Char))
  | .text content => some (secretIn (splitLines content))
  | .unreadable => some none
  | .undecodable => none

/-! ## A run -/

/-- How a call of the system fails: by a `TimeoutError`, which `rotate` catches, or otherwise. -/
inductive CallFailure where
  | timeout
  | other
  deriving DecidableEq

/-- How `restart_janus` ends. -/
inductive RestartOutcome where
  | restarted
  | failed
  | raises
  deriving DecidableEq

/-- The arguments of a run, and what it meets on the host. -/
structure RotateRun where
  ttlDays : ℤ := 365
  beforeDays : ℤ := 30
  username : List Char := "webrtc".toList
  dryRun : Bool := false
  checkOnly : Bool := false
  force : Bool := false
  restart : Bool := true
  secrets : SecretsFile
  /-- The first read of the file fails. -/
  unreadable : Bool := false
  /-- The clock at the check. -/
  checkedAt : ℤ
  /-- The clock when the new credential is made. -/
  generatedAt : ℤ
  lock : Option CallFailure := none
  secondRead : Option CallFailure := none
  /-- The new expiry is a date that can be logged. -/
  expiryShown : Bool := true
  write : Option CallFailure := none
  restarts : RestartOutcome := .restarted
  unlock : Option CallFailure := none

/-- The file, and the credential that the running Janus has loaded. -/
structure TurnHost where
  jcfg : List Char
  loaded : Option TurnCreds

/-- How a run ends: with an exit code, or with an exception. -/
inductive RotateResult where
  | returned (code : ℤ)
  | raised
  deriving DecidableEq

/-- What a run leaves, and what it did: `clock` is its last reading. -/
structure RotateOutcome where
  host : TurnHost
  result : RotateResult
  wrote : Bool
  clock : ℤ

/-- `except TimeoutError` -/
def CallFailure.result : CallFailure → RotateResult
  | .timeout => .returned 2
  | .other => .raised

/-- What `rotate` does under the lock. -/
def rotateLocked (hmac : TurnHmac) (secret : List Char) (run : RotateRun) (host : TurnHost) :
    RotateOutcome :=
  let stops (clock : ℤ) (result : RotateResult) : RotateOutcome :=
    { host, result, wrote := false, clock }
  match run.secondRead with
  | some failure => stops run.checkedAt failure.result
  | none =>
      let jcfg := readText false host.jcfg
      match generateCredentials hmac secret run.ttlDays run.username run.generatedAt with
      | none => stops run.generatedAt .raised
      | some creds =>
          if !run.expiryShown then stops run.generatedAt .raised
          else
            match patchJcfg jcfg creds.user creds.pwd with
            | none => stops run.generatedAt .raised
            | some newJcfg =>
                if newJcfg = jcfg then stops run.generatedAt (.returned 2)
                else
                  match run.write with
                  | some failure => stops run.generatedAt failure.result
                  | none =>
                      let wrote (loaded : Option TurnCreds) (result : RotateResult) :
                          RotateOutcome :=
                        { host := { jcfg := newJcfg, loaded }, result, wrote := true,
                          clock := run.generatedAt }
                      if run.restart then
                        match run.restarts with
                        | .restarted => wrote (janusLoads newJcfg) (.returned 0)
                        | .failed => wrote host.loaded (.returned 2)
                        | .raises => wrote host.loaded .raised
                      else wrote host.loaded (.returned 0)

/-- What the check of a run finds: the credential of the file is to be replaced. -/
def needsRotation (run : RotateRun) (host : TurnHost) : Bool :=
  run.force ||
    shouldRotate ((parseCurrentCreds (readText false host.jcfg)).elim 0 TurnCreds.expiry)
      run.beforeDays run.checkedAt

/-- `rotate` -/
def rotate (hmac : TurnHmac) (run : RotateRun) (host : TurnHost) : RotateOutcome :=
  let stops (result : RotateResult) : RotateOutcome :=
    { host, result, wrote := false, clock := run.checkedAt }
  match loadSharedSecret run.secrets with
  | none => stops .raised
  | some none => stops (.returned 2)
  | some (some secret) =>
      if run.unreadable then stops (.returned 2)
      else if run.checkOnly then stops (.returned (if needsRotation run host then 1 else 0))
      else if !needsRotation run host then stops (.returned 0)
      else if run.dryRun then
        match generateCredentials hmac secret run.ttlDays run.username run.generatedAt with
        | none => stops .raised
        | some _ => stops (.returned 0)
      else
        match run.lock with
        | some failure => stops failure.result
        | none =>
            let outcome := rotateLocked hmac secret run host
            match run.unlock with
            | some failure => { outcome with result := failure.result }
            | none => outcome

/-- The host after some runs. -/
def rotateAll (hmac : TurnHmac) (host : TurnHost) (runs : List RotateRun) : TurnHost :=
  runs.foldl (fun host run => (rotate hmac run host).host) host

end CameraStack.Jcfg
