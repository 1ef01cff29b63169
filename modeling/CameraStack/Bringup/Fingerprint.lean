/-
# The fingerprint of a camera

The identity of the camera on a host is kept in a signed JSON file, the baseline.  A check
compares it with what the camera answers: another vendor, product or serial number is a failure,
other firmware, another port or other intrinsics are a warning.  The signature is an HMAC under
a secret in a file of its own; where there is no secret, or no signature, nothing is verified.

What the libraries compute, the JSON encoders and the HMAC, is a parameter.  What Python raises
ends the check, and is then its result.
-/

import CameraStack.Bringup.Json

namespace CameraStack.Bringup

/-- The libraries: `json`, `repr` and `hmac.new(key, text, sha256).hexdigest()`. -/
structure Libraries where
  loads : String → LoadsResult
  /-- `json.dumps(value, indent=2, sort_keys=True)`. -/
  dumps : Json → String
  /-- `json.dumps(value, sort_keys=True, separators=(",", ":"))`. -/
  compact : Json → String
  repr : Json → String
  hmac : List UInt8 → String → String
  /-- What `json.dumps` raises where a value cannot be written: an integer is too long, or objects
  are nested too deep. -/
  refuses : Json → Option Raised := fun _ => none

/-- What the specification of the active instance says; the two files are different ones. -/
structure Spec where
  vendorId : String
  productId : String
  fingerprintDir : String
  fingerprintPath : String
  hmacSecretDir : String
  hmacSecretPath : String
  apart : fingerprintPath ≠ hmacSecretPath

/-! ## Files -/

/-- What stands in a file, as the process finds it: bytes that are no text come with what
decoding them raises. -/
inductive FileContent
  | absent
  | unreadable
  | undecodable (bytes : List UInt8) (e : Raised)
  | text (value : String)
  deriving DecidableEq

/-- The files and directories of the host. -/
structure Disk where
  file : String → FileContent
  dir : String → Bool

/-- `is_file()`. -/
def FileContent.isFile : FileContent → Bool
  | .absent => false
  | _ => true

/-- What `read()` gives of a file opened in binary. -/
def FileContent.bytes : FileContent → Option (List UInt8)
  | .absent | .unreadable => none
  | .undecodable bytes _ => some bytes
  | .text value => some value.toUTF8.data.toList

/-! ## Signing -/

/-- A blank of ASCII. -/
def isBlank (b : UInt8) : Bool := b = 32 || (9 ≤ b && b ≤ 13)

/-- `bytes.strip()`. -/
def stripBytes (data : List UInt8) : List UInt8 :=
  ((data.dropWhile isBlank).reverse.dropWhile isBlank).reverse

/-- The value of a hexadecimal digit. -/
def hexDigit (b : UInt8) : Option UInt8 :=
  if 48 ≤ b && b ≤ 57 then some (b - 48)
  else if 97 ≤ b && b ≤ 102 then some (b - 87)
  else if 65 ≤ b && b ≤ 70 then some (b - 55)
  else none

/-- `bytes.fromhex`: pairs of digits, with blanks between them. -/
def fromHex : List UInt8 → Option (List UInt8)
  | [] => some []
  | [b] => if isBlank b then some [] else none
  | a :: b :: rest =>
      if isBlank a then fromHex (b :: rest)
      else
        match hexDigit a, hexDigit b with
        | some high, some low => (fromHex rest).map fun bytes => (high * 16 + low) :: bytes
        | _, _ => none

/-- `load_secret`. -/
def loadSecret (secret : FileContent) : Option (List UInt8) :=
  match secret.bytes with
  | none => none
  | some bytes => if stripBytes bytes = [] then none else some (stripBytes bytes)

/-- The key: what the secret says in hexadecimal, or else the secret itself. -/
def secretBytes (secret : List UInt8) : List UInt8 := (fromHex secret).getD secret

section Signing

variable (lib : Libraries)

/-- What is signed: the document without its signature. -/
def cleaned (payload : Members) : Members := payload.filter fun member => member.1 ≠ "_hmac"

/-- `_canonical_json`. -/
def canonicalJson (payload : Members) : String := lib.compact (.obj (cleaned payload))

/-- `sign`. -/
def sign (payload : Members) (secret : List UInt8) : String :=
  lib.hmac secret (canonicalJson lib payload)

/-- `verify`; `hmac.compare_digest` takes two strings, both ASCII. -/
def verify (payload : Members) (secret : List UInt8) : Except Raised Bool :=
  match payload.lookup "_hmac" with
  | none => .ok false
  | some expected =>
      if expected.truth = false then .ok false
      else
        match expected with
        | .str value =>
            if value.toList.all fun c => c.val < 128 then .ok (value = sign lib payload secret)
            else .error "TypeError: comparing strings with non-ASCII characters is not supported"
        | other =>
            .error ("TypeError: unsupported operand types(s) or combination of types: '"
              ++ other.typeName ++ "' and 'str'")

/-- `attach_signature`. -/
def attachSignature (payload : Members) (secret : List UInt8) : Members :=
  setMember "_hmac" (.str (sign lib payload secret)) payload

end Signing

/-! ## Results of checks -/

/-- `Status`. -/
inductive Status
  | ok | warn | fail | skip | error
  deriving DecidableEq, Repr

def Status.value : Status → String
  | .ok => "OK"
  | .warn => "WARN"
  | .fail => "FAIL"
  | .skip => "SKIP"
  | .error => "ERROR"

/-- `CheckResult`. -/
structure CheckResult where
  name : String
  status : Status
  summary : String
  details : Members := []
  fixHint : Option String := none

/-- `safe_run`: what a check raises becomes its result. -/
def safeRun (name : String) (result : Except Raised CheckResult) : CheckResult :=
  match result with
  | .ok r => r
  | .error e =>
      { name := name, status := .error, summary := "check raised " ++ e
        details := [("traceback", .str e)] }

/-! ## The current identity -/

/-- What a check or a plan asks the host: the primary device, its name, and what earlier checks
found out. -/
structure Host where
  device : Option Members
  hostname : String
  sysfsPath : Option String
  v4lDev : Option String

/-- `(primary_device() or {}).get(key, default)`. -/
def Host.answer (host : Host) (key : String) (default : Json := .null) : Json :=
  ((host.device.getD []).lookup key).getD default

/-- The camera and the host as the check and the plan both describe them. -/
def describeCamera (spec : Spec) (host : Host) : Json :=
  .obj [("vendor_id", .str spec.vendorId), ("product_id", .str spec.productId),
    ("serial", host.answer "serial"), ("firmware", host.answer "firmware"),
    ("usb_type", host.answer "usb_type"), ("product_name", host.answer "name"),
    ("product_line", host.answer "product_line")]

@[inherit_doc describeCamera]
def describeHost (host : Host) : Json :=
  .obj [("sysfs_path", strOrNull host.sysfsPath), ("v4l_dev", strOrNull host.v4lDev),
    ("hostname", .str host.hostname)]

/-- `_current_fingerprint`. -/
def currentFingerprint (spec : Spec) (host : Host) : Members :=
  [("camera", describeCamera spec host), ("host", describeHost host),
    ("calibration", host.answer "calibration" (.obj []))]

/-! ## The comparison -/

/-- An entry of `diffs`. -/
structure Diff where
  field : String
  baseline : Json
  current : Json
  severity : Status

def Diff.toJson (d : Diff) : Json :=
  .obj [("field", .str d.field), ("baseline", d.baseline), ("current", d.current),
    ("severity", .str d.severity.value)]

/-- `_diff`. -/
def diff (field : String) (cur base : Json) (severity : Status) : List Diff :=
  if cur.eq base then [] else [{ field := field, baseline := base, current := cur, severity := severity }]

/-- The intrinsics that are compared one by one. -/
def intrinsics : List String := ["fx", "fy", "ppx", "ppy", "width", "height"]

/-- One of them: two floats may be half a pixel apart. -/
def diffIntrinsic (stream : String) (baseIntr curIntr : Json) (field : String) :
    Except Raised (List Diff) := do
  let b ← baseIntr.get field
  let c ← curIntr.get field
  let name := "calibration." ++ stream ++ "." ++ field
  match b, c with
  | .float x, .float y => pure (if (x - y).abs > 0.5 then diff name c b .warn else [])
  | _, _ => pure (if b.eq c then [] else diff name c b .warn)

/-- One stream type of the calibration. -/
def diffStream (baseCal curCal : Json) (stream : String) : Except Raised (List Diff) := do
  let baseIntr ← baseCal.get stream
  let curIntr ← curCal.get stream
  match baseIntr, curIntr with
  | .null, _ => pure []
  | _, .null => pure (diff ("calibration." ++ stream) (.str "MISSING") (.str "PRESENT") .warn)
  | _, _ =>
      let fields ← intrinsics.mapM (diffIntrinsic stream baseIntr curIntr)
      let b ← baseIntr.get "coeffs"
      let c ← curIntr.get "coeffs"
      pure (fields.flatten ++
        if b.eq c then [] else diff ("calibration." ++ stream ++ ".coeffs") c b .warn)

/-- A field that is compared where the baseline has it. -/
def diffKnown (field : String) (cur base : Json) (severity : Status) : List Diff :=
  match base with
  | .null => []
  | _ => diff field cur base severity

/-- `_compare`. -/
def compare (current baseline : Members) : Except Raised (List Diff) := do
  let curCam := (current.lookup "camera").getD (.obj [])
  let baseCam := (baseline.lookup "camera").getD (.obj [])
  let curHost := (current.lookup "host").getD (.obj [])
  let baseHost := (baseline.lookup "host").getD (.obj [])
  let vendor := diff "camera.vendor_id" (← curCam.get "vendor_id") (← baseCam.get "vendor_id") .fail
  let product :=
    diff "camera.product_id" (← curCam.get "product_id") (← baseCam.get "product_id") .fail
  let serial := diffKnown "camera.serial" (← curCam.get "serial") (← baseCam.get "serial") .fail
  let firmware :=
    diffKnown "camera.firmware" (← curCam.get "firmware") (← baseCam.get "firmware") .warn
  let port :=
    diffKnown "host.sysfs_path" (← curHost.get "sysfs_path") (← baseHost.get "sysfs_path") .warn
  let curCal := (current.lookup "calibration").getD (.obj [])
  let baseCal := (baseline.lookup "calibration").getD (.obj [])
  let calibration ←
    if baseCal.truth then ["color", "depth", "infrared"].mapM (diffStream baseCal curCal)
    else pure []
  pure (vendor ++ product ++ serial ++ firmware ++ port ++ calibration.flatten)

/-! ## The check -/

section Check

variable (lib : Libraries) (spec : Spec)

/-- `_load_baseline`; JSON's `null` counts as no baseline. -/
def loadBaseline (content : FileContent) : Except Raised (Option Json) :=
  match content with
  | .absent | .unreadable => .ok none
  | .undecodable _ e => .error e
  | .text value =>
      match lib.loads value with
      | .value .null => .ok none
      | .value json => .ok (some json)
      | .decodeError => .ok none
      | .raised e => .error e

/-- What the signature says: nothing to verify, or how it went. -/
inductive HmacCheck
  | unsigned
  | unreadable
  | secretMissing
  | valid
  | invalid
  deriving DecidableEq, Repr

/-- `details["hmac_check"]`. -/
def HmacCheck.text : HmacCheck → Option String
  | .unsigned => none
  | .unreadable => some "secret unreadable"
  | .secretMissing => some "secret missing for signed baseline"
  | .valid => some "valid"
  | .invalid => some "INVALID"

/-- The signature is verified where there is a secret file and the baseline has the field. -/
def hmacCheck (secret : FileContent) (baseline : Members) : Except Raised HmacCheck :=
  match baseline.lookup "_hmac" with
  | some signature =>
      if secret.isFile then
        match loadSecret secret with
        | none => .ok .unreadable
        | some data => do
            let valid ← verify lib baseline (secretBytes data)
            pure (if valid then .valid else .invalid)
      else .ok (if signature.truth then .secretMissing else .unsigned)
  | none => .ok .unsigned

/-- `details` with the outcome of the signature. -/
def noteHmac (details : Members) (outcome : HmacCheck) : Members :=
  match outcome.text with
  | some text => setMember "hmac_check" (.str text) details
  | none => details

/-- The result where there is no baseline. -/
def noBaseline (details : Members) (serial : Json) : CheckResult where
  name := "fingerprint"
  status := .warn
  summary := "baseline отсутствует (" ++ spec.fingerprintPath ++ "); current serial="
    ++ lib.repr serial
  details := details
  fixHint := some "sudo python3 -m camera_bringup apply --only fingerprint"

/-- The result where the signature does not verify. -/
def tampered (details : Members) : CheckResult where
  name := "fingerprint"
  status := .fail
  summary := "baseline HMAC signature INVALID — tamper detected (" ++ spec.fingerprintPath ++ ")"
  details := noteHmac details .invalid
  fixHint := some ("если изменения легитимны (physical swap или FW update): "
    ++ "sudo python3 -m camera_bringup apply --only fingerprint "
    ++ "(перепишет baseline с новой signature)")

/-- The result of a comparison that found something. -/
def mismatch (details : Members) (diffs : List Diff) : CheckResult :=
  let hasFail := diffs.any fun d => d.severity = .fail
  { name := "fingerprint"
    status := if hasFail then .fail else .warn
    summary := "; ".intercalate (diffs.map fun d =>
      d.field ++ ": " ++ lib.repr d.baseline ++ " → " ++ lib.repr d.current)
    details := details
    fixHint :=
      if hasFail then none
      else some "если изменение ожидаемое: sudo python3 -m camera_bringup apply --only fingerprint" }

/-- The result of a comparison that found nothing. -/
def matching (details : Members) (host : Host) (baseline : Members) : Except Raised CheckResult := do
  let history := (baseline.lookup "history").getD (.obj [])
  let since ← history.get "first_seen_utc" (.str "?")
  pure
    { name := "fingerprint"
      status := .ok
      summary := "serial=" ++ (host.answer "serial").text lib.repr ++ " firmware="
        ++ (host.answer "firmware").text lib.repr ++ " (baseline since " ++ since.text lib.repr ++ ")"
      details := details }

/-- The check of a baseline that is an object. -/
def checkBaseline (secret : FileContent) (host : Host) (details : Members) (baseline : Members) :
    Except Raised CheckResult := do
  let diffs ← compare (currentFingerprint spec host) baseline
  let details := setMember "diffs" (.arr (diffs.map Diff.toJson)) details
  let outcome ← hmacCheck lib secret baseline
  if outcome = .invalid then pure (tampered spec details)
  else
    let details := noteHmac details outcome
    if diffs.isEmpty then matching lib details host baseline
    else pure (mismatch lib details diffs)

/-- `check`. -/
def check (host : Host) (disk : Disk) : Except Raised CheckResult := do
  let details : Members :=
    [("fingerprint_path", .str spec.fingerprintPath),
      ("current", .obj (currentFingerprint spec host))]
  match ← loadBaseline lib (disk.file spec.fingerprintPath) with
  | none => pure (noBaseline lib spec details (host.answer "serial"))
  | some (.obj baseline) =>
      checkBaseline lib spec (disk.file spec.hmacSecretPath) host
        (setMember "baseline" (.obj baseline) details) baseline
  | some other => .error other.noGet

/-- The check as it is always run. -/
def runCheck (host : Host) (disk : Disk) : CheckResult :=
  safeRun "fingerprint" (check lib spec host disk)

theorem matching_name {details : Members} {host : Host} {baseline : Members} {r : CheckResult}
    (h : matching lib details host baseline = .ok r) : r.name = "fingerprint" := by
  rw [matching] at h
  cases hsince : ((baseline.lookup "history").getD (.obj [])).get "first_seen_utc" (.str "?") with
  | error e =>
      simp only [hsince] at h
      cases h
  | ok since =>
      simp only [hsince] at h
      cases h
      rfl

theorem checkBaseline_name {secret : FileContent} {host : Host} {details baseline : Members}
    {r : CheckResult} (h : checkBaseline lib spec secret host details baseline = .ok r) :
    r.name = "fingerprint" := by
  rw [checkBaseline] at h
  cases hdiffs : compare (currentFingerprint spec host) baseline with
  | error e =>
      rw [hdiffs] at h
      cases h
  | ok diffs =>
      cases houtcome : hmacCheck lib secret baseline with
      | error e =>
          rw [hdiffs, houtcome] at h
          cases h
      | ok outcome =>
          rw [hdiffs, houtcome] at h
          simp only [bind, Except.bind] at h
          split_ifs at h
          · cases h
            rfl
          · exact matching_name lib h
          · cases h
            rfl

theorem check_name {host : Host} {disk : Disk} {r : CheckResult}
    (h : check lib spec host disk = .ok r) : r.name = "fingerprint" := by
  rw [check] at h
  cases hload : loadBaseline lib (disk.file spec.fingerprintPath) with
  | error e =>
      rw [hload] at h
      cases h
  | ok baseline =>
      rw [hload] at h
      simp only [bind, Except.bind] at h
      split at h
      · cases h
        rfl
      · exact checkBaseline_name lib spec h
      · cases h

/-- The check names itself, whatever it finds. -/
theorem runCheck_name (host : Host) (disk : Disk) :
    (runCheck lib spec host disk).name = "fingerprint" := by
  unfold runCheck safeRun
  cases hresult : check lib spec host disk with
  | error e => rfl
  | ok r => exact check_name lib spec hresult

end Check

end CameraStack.Bringup
