/-
# The dry run of a patch

`validate` judges a patch against the effective configuration, section by section and field by
field, and writes nothing.  It looks at the type of the patch only: what stands in its sections
goes into mappings, models and conversions as it is.

The models of pydantic are a parameter, and so is what Python says of the case of a text and of the
`repr` of a value.
-/

import CameraStack.Lib.JsonScan
import CameraStack.Lib.PyNumber
import CameraStack.Runtime.EnvWriter
import Mathlib.Data.List.Infix

namespace CameraStack.Runtime.Validator

open CameraStack.Lib

/-! ## The effective configuration -/

/-- `WebRtcRuntimeConfig`. -/
structure WebRtcRuntimeConfig where
  icePolicy : Text
  turnCredentialTtlSeconds : ℤ
  turnEnabled : Bool
  stunEnabled : Bool
  maxReconnectAttempts : Option ℤ
  reconnectBaseDelayMs : ℤ
  reconnectMaxDelayMs : ℤ

/-- `DiagnosticsRuntimeConfig`. -/
structure DiagnosticsRuntimeConfig where
  rebootAllowed : Bool
  healthStreamStaleMs : ℤ
  debugStatsEnabled : Bool
  telemetryEnabled : Bool
  telemetryIntervalSeconds : ℤ
  fdirEnabled : Bool
  autoRecoveryEnabled : Bool

/-- `EffectiveStreamProfile`. -/
structure EffectiveStreamProfile where
  sensorKey : Text
  enabled : Bool
  resolution : Text
  fps : ℤ
  codec : Text
  encoder : Text
  bitrateKbps : ℤ
  gopFrames : ℤ
  mountpointId : ℤ
  rtpPort : ℤ
  runtimeActive : Option Bool

/-- `EffectiveRuntimeConfig`, as far as a patch is judged by it. -/
structure EffectiveRuntimeConfig where
  webrtc : WebRtcRuntimeConfig
  streamProfiles : List (Text × EffectiveStreamProfile)
  diagnostics : DiagnosticsRuntimeConfig

section Dumps

variable {F : Type}

@[inherit_doc WebRtcRuntimeConfig]
def WebRtcRuntimeConfig.modelDump (c : WebRtcRuntimeConfig) : List (Text × JsonValue F) :=
  [("ice_policy".toList, .str c.icePolicy),
    ("turn_credential_ttl_seconds".toList, .int c.turnCredentialTtlSeconds),
    ("turn_enabled".toList, .bool c.turnEnabled),
    ("stun_enabled".toList, .bool c.stunEnabled),
    ("max_reconnect_attempts".toList, (c.maxReconnectAttempts.map JsonValue.int).getD .null),
    ("reconnect_base_delay_ms".toList, .int c.reconnectBaseDelayMs),
    ("reconnect_max_delay_ms".toList, .int c.reconnectMaxDelayMs)]

@[inherit_doc DiagnosticsRuntimeConfig]
def DiagnosticsRuntimeConfig.modelDump (c : DiagnosticsRuntimeConfig) :
    List (Text × JsonValue F) :=
  [("reboot_allowed".toList, .bool c.rebootAllowed),
    ("health_stream_stale_ms".toList, .int c.healthStreamStaleMs),
    ("debug_stats_enabled".toList, .bool c.debugStatsEnabled),
    ("telemetry_enabled".toList, .bool c.telemetryEnabled),
    ("telemetry_interval_seconds".toList, .int c.telemetryIntervalSeconds),
    ("fdir_enabled".toList, .bool c.fdirEnabled),
    ("auto_recovery_enabled".toList, .bool c.autoRecoveryEnabled)]

@[inherit_doc EffectiveStreamProfile]
def EffectiveStreamProfile.modelDump (p : EffectiveStreamProfile) : List (Text × JsonValue F) :=
  [("sensor_key".toList, .str p.sensorKey),
    ("enabled".toList, .bool p.enabled),
    ("resolution".toList, .str p.resolution),
    ("fps".toList, .int p.fps),
    ("codec".toList, .str p.codec),
    ("encoder".toList, .str p.encoder),
    ("bitrate_kbps".toList, .int p.bitrateKbps),
    ("gop_frames".toList, .int p.gopFrames),
    ("mountpoint_id".toList, .int p.mountpointId),
    ("rtp_port".toList, .int p.rtpPort),
    ("runtime_active".toList, (p.runtimeActive.map JsonValue.bool).getD .null)]

end Dumps

/-! ## Responses -/

/-- `ApplyImpact`. -/
inductive ApplyImpact
  | hot
  | newSessionsOnly
  | restartEncoder
  | recreateMountpoint
  | restartJanus
  | deploymentOnly
  | rejected
  deriving DecidableEq

/-- What an error complains of. -/
inductive Complaint
  | notAnObject
  | version
  | deploymentOnly (key : Text)
  | secret (key : Text)
  | unknownTopLevel (key : Text)
  | model (msg : Text)
  | unknownField (area : Text) (field : Text)
  | readOnlyDerived (field : Text)
  | readOnly (field : Text)
  | sensorKey (key : Text)
  | streamReadOnly (field note : Text)
  | noRuntimeApi (field sensor : Text)
  | colorMode (res fps : Text)
  | unknownStreamField (field : Text)
  deriving DecidableEq

/-- `ValidationErrorEntry`. -/
structure ErrorEntry where
  path : Option Text
  complaint : Complaint
  deriving DecidableEq

/-- `DiffEntry`. -/
structure DiffEntry (F : Type) where
  path : Text
  frm : JsonValue F
  toValue : JsonValue F
  source : Text
  impact : ApplyImpact

/-- What one step adds to the three lists. -/
structure Report (F : Type) where
  diff : List (DiffEntry F) := []
  errors : List ErrorEntry := []
  warnings : List Text := []

/-- Two steps, one after the other. -/
def Report.append {F : Type} (first second : Report F) : Report F where
  diff := first.diff ++ second.diff
  errors := first.errors ++ second.errors
  warnings := first.warnings ++ second.warnings

instance {F : Type} : Append (Report F) := ⟨Report.append⟩

/-- `_err`. -/
def err {F : Type} (path : Option Text) (complaint : Complaint) : Report F where
  errors := [{ path, complaint }]

/-- `ValidationResponse`. -/
structure ValidationResponse (F : Type) where
  valid : Bool
  diff : List (DiffEntry F)
  impact : List ApplyImpact
  errors : List ErrorEntry
  warnings : List Text

/-! ## What is taken as it is -/

/-- The models that a section is validated by. -/
inductive ModelClass
  | webRtc
  | diagnostics
  | stream

/-- One of the errors of a `ValidationError`. -/
structure ModelError where
  loc : List Text
  msg : Text

/-- The parameters: the case of texts, `repr` of a value and how deep it may go, what `==` says of
an attribute of a profile that is none of its fields and of a value, and the errors that a model
finds in its arguments. -/
structure Python (F : Type) where
  upper : Text → Text
  lower : Text → Text
  lower_nil : lower [] = []
  repr : JsonValue F → Text
  limit : ℕ
  otherAttribute : Text → Option (JsonValue F → Bool)
  modelErrors : ModelClass → List (Text × JsonValue F) → List ModelError

/-- `str` of a value: an integer may be too long, and a list or an object too deep. -/
def Python.str {F : Type} (python : Python F) : JsonValue F → Except PyException Text
  | .str s => .ok s
  | value =>
      if value.short then
        if value.depth ≤ python.limit then .ok (python.repr value) else .error .recursion
      else .error .value

/-- The message of an error. -/
def Complaint.message {F : Type} (python : Python F) : Complaint → Text
  | .notAnObject => "patch must be a JSON object".toList
  | .version => "version must be 1 (R1)".toList
  | .deploymentOnly key => key ++ ": deployment-only field — not runtime-config (R10)".toList
  | .secret key => key ++ ": secret field — not settable via runtime-config (R9)".toList
  | .unknownTopLevel key => key ++ ": unknown top-level field".toList
  | .model msg => msg
  | .unknownField area field =>
      "unknown ".toList ++ area ++ " field ".toList ++ python.repr (.str field)
  | .readOnlyDerived field =>
      "webrtc.".toList ++ field ++ " is read-only/derived — not settable (REJECTED)".toList
  | .readOnly field =>
      "diagnostics.".toList ++ field ++ " is read-only — not settable (REJECTED)".toList
  | .sensorKey key =>
      "sensor key ".toList ++ python.repr (.str key) ++
        " is not canonical '<serial>:<sensor>' / legacy 'local:*' (R2)".toList
  | .streamReadOnly field note => field ++ " is ".toList ++ note ++ " (REJECTED)".toList
  | .noRuntimeApi field sensor =>
      field ++ " has no runtime API for ".toList ++ sensor ++
        " — Initialize-time default only (R6b, REJECTED)".toList
  | .colorMode res fps =>
      "color mode ".toList ++ res ++ ['@'] ++ fps ++ " not in SDK catalog (R6)".toList
  | .unknownStreamField field => "unknown stream field ".toList ++ python.repr (.str field)

/-! ## Policies -/

/-- The impact of a change, and where the value comes from. -/
structure Policy where
  impact : ApplyImpact
  source : Text

/-- `_WEBRTC_POLICY`. -/
def webRtcPolicy : List (Text × Policy) :=
  [("ice_policy".toList, ⟨.newSessionsOnly, "Settings.ice_policy (env ICE_POLICY)".toList⟩),
    ("turn_credential_ttl_seconds".toList,
      ⟨.newSessionsOnly, "Settings.turn_cred_ttl (env TURN_CRED_TTL)".toList⟩),
    ("turn_enabled".toList, ⟨.rejected, "derived (nat_cfg) — read-only".toList⟩),
    ("stun_enabled".toList, ⟨.rejected, "derived (nat_cfg) — read-only".toList⟩),
    ("max_reconnect_attempts".toList,
      ⟨.deploymentOnly, "client config.js — no server apply path".toList⟩),
    ("reconnect_base_delay_ms".toList,
      ⟨.deploymentOnly, "client config.js — no server apply path".toList⟩),
    ("reconnect_max_delay_ms".toList,
      ⟨.deploymentOnly, "client config.js — no server apply path".toList⟩)]

/-- `_DIAG_POLICY`. -/
def diagPolicy : List (Text × Policy) :=
  [("health_stream_stale_ms".toList,
      ⟨.deploymentOnly, "Settings.watchdog_stale_ms (env) — needs restart".toList⟩),
    ("reboot_allowed".toList,
      ⟨.rejected, "Settings.watchdog_reboot_enabled — read-only safety gate".toList⟩),
    ("debug_stats_enabled".toList, ⟨.rejected, "client-side; no server toggle".toList⟩),
    ("telemetry_enabled".toList, ⟨.rejected, "always-on; no opt-out".toList⟩),
    ("telemetry_interval_seconds".toList,
      ⟨.deploymentOnly, "client config.js — no server apply path".toList⟩),
    ("fdir_enabled".toList, ⟨.rejected, "always-on; no disable flag".toList⟩),
    ("auto_recovery_enabled".toList, ⟨.rejected, "always-on; no toggle".toList⟩)]

/-- `_STREAM_TUNABLE`. -/
def streamTunable : List Text :=
  ["resolution".toList, "fps".toList, "bitrate_kbps".toList, "gop_frames".toList]

/-- `_STREAM_READONLY`. -/
def streamReadonly : List (Text × Text) :=
  [("codec".toList, "fixed H.264 constant — read-only".toList),
    ("encoder".toList, "encoder preset is color-tuning.env only — modeled read-only".toList),
    ("enabled".toList, "= Allocation.desired_active; toggled via lifecycle — read-only".toList),
    ("mountpoint_id".toList, "allocator-owned — read-only".toList),
    ("rtp_port".toList, "allocator-owned — read-only".toList),
    ("sensor_key".toList, "derived from the map key — read-only".toList)]

/-- `_DEPLOYMENT_FIELDS`. -/
def deploymentFields : List Text :=
  ["HOST_LAN_IP".toList, "VIEWER_TOKENS".toList, "CAMERA_ENV".toList, "JANUS_BIND".toList,
    "FIREWALL".toList]

/-- `SENSITIVE_KEYS`. -/
def sensitiveKeys : List Text := EnvWriter.sensitiveKeys.map String.toList

/-! ## Sensor keys and colour modes -/

/-- What stands before the first colon of a key. -/
def serialOf (key : Text) : Text := key.takeWhile (· ≠ ':')

/-- `key.split(":", 1)[1]`. -/
def sensorOf (key : Text) : Text := (key.dropWhile (· ≠ ':')).tail

/-- `SENSORS`. -/
def sensors : List Text := ["color".toList, "depth".toList, "ir1".toList, "ir2".toList]

/-- `is_canonical_sensor_key`; `$` matches before a newline at the end as well. -/
def isCanonicalSensorKey (key : Text) : Bool :=
  serialOf key ≠ [] && (serialOf key).all Char.isAlphanum &&
    (sensors.contains (sensorOf key) ||
      sensors.any fun sensor => sensorOf key = sensor ++ ['\n']) &&
    serialOf key ≠ "local".toList

/-- A mode of the catalog. -/
structure CatalogMode where
  width : ℤ
  height : ℤ
  fps : ℤ
  deriving DecidableEq

/-- A sensor of the catalog: its functional key, a name if there is one, and its modes.
`query_catalog` gives no sensor a name. -/
structure CatalogSensor where
  key : Text
  name : Option Text := none
  modes : List CatalogMode

/-- The sensors that modes are collected for. -/
inductive Token
  | color
  | depth
  | ir1
  deriving DecidableEq

/-- A mode as it is looked up: `WxH` and the frames per second. -/
abbrev Mode := Text × ℤ

/-- The mode of a catalog entry. -/
def CatalogMode.mode (m : CatalogMode) : Mode :=
  (encodeInt m.width ++ 'x' :: encodeInt m.height, m.fps)

/-- The token of a sensor's name. -/
def sensorToken (name : Text) : Option Token :=
  if "color".toList <:+: name ∨ "rgb".toList <:+: name then some .color
  else if "depth".toList <:+: name then some .depth
  else if "infrared".toList <:+: name ∨ "ir".toList <:+ name ∨ "ir".toList <:+: name then some .ir1
  else none

/-- `_color_modes`: the modes of a token, where the catalog has a sensor for it, and nothing where
the catalog cannot be queried. -/
def colorModes {F : Type} (python : Python F) (catalog : Option (List CatalogSensor)) :
    Option (Token → Option (List Mode)) :=
  catalog.map fun rows token =>
    let named := rows.filter fun row => sensorToken (python.lower (row.name.getD [])) = some token
    if named = [] then none else some (named.flatMap fun row => row.modes.map CatalogMode.mode)

/-! ## Comparing and merging -/

section Compare

variable {F : Type} [FloatNumber F]

/-- Two numbers are there, and equal. -/
def sameNumber : Option ℤ → Option ℤ → Bool
  | some m, some n => m = n
  | _, _ => false

/-- `frm == value`, where the first is no float and has no parts. -/
def equal (frm value : JsonValue F) : Bool :=
  match frm, value with
  | .null, .null => true
  | .str s, .str t => s = t
  | frm, value => sameNumber (numberValue frm) (numberValue value)

/-- `bool(value)`. -/
def truthy : JsonValue F → Bool
  | .null => false
  | .bool b => b
  | .int n => n ≠ 0
  | .float x => numberValue (.float x) ≠ some 0
  | .str s => s ≠ []
  | .arr items => !items.isEmpty
  | .obj members => !members.isEmpty

/-- `value or {}`. -/
def orEmpty (value : JsonValue F) : JsonValue F := if truthy value then value else .obj []

/-- `value.items()`. -/
def items : JsonValue F → Except PyException (List (Text × JsonValue F))
  | .obj members => .ok members
  | _ => .error .attribute

/-- `{**base, **patch}`. -/
def mergeDict (base patch : List (Text × JsonValue F)) : List (Text × JsonValue F) :=
  patch.foldl (fun merged member => dictSet member.1 member.2 merged) base

/-- One error of a model, if it is about a field of the patch or about the model. -/
def surfaced (area : Text) (fields : List Text) (e : ModelError) : Option ErrorEntry :=
  match e.loc with
  | [] => some { path := some area, complaint := .model e.msg }
  | field :: rest =>
      if field ∈ fields then
        some
          { path := some (area ++ ['.'] ++ ['.'].intercalate (field :: rest))
            complaint := .model e.msg }
      else none

/-- `_merged_errors`. -/
def mergedErrors (python : Python F) (cls : ModelClass) (base : List (Text × JsonValue F))
    (patch : JsonValue F) (area : Text) : Except PyException (Report F) :=
  match patch with
  | .obj members =>
      .ok
        { errors := (python.modelErrors cls (mergeDict base members)).filterMap
            (surfaced area (members.map Prod.fst)) }
  | _ => .error .type

/-! ## Sections -/

/-- The reports of steps, one after the other. -/
def concat (reports : List (Report F)) : Report F := reports.foldr Report.append {}

/-- The reports of steps that may raise. -/
def collect {A : Type} (step : A → Except PyException (Report F)) :
    List A → Except PyException (Report F)
  | [] => .ok {}
  | a :: rest =>
      match step a with
      | .error e => .error e
      | .ok report => (collect step rest).map (report ++ ·)

/-- A field of a section that has a policy for each of its fields. -/
def sectionField (area : Text) (policy : List (Text × Policy)) (rejected : Text → Complaint)
    (current : List (Text × JsonValue F)) (field : Text) (value : JsonValue F) : Report F :=
  let path := area ++ ['.'] ++ field
  match policy.lookup field with
  | none => err (some path) (.unknownField area field)
  | some p =>
      let frm := (current.lookup field).getD .null
      if equal frm value then {}
      else
        (if p.impact = .rejected then err (some path) (rejected field) else {}) ++
          { diff := [{ path, frm, toValue := value, source := p.source, impact := p.impact }] }

/-- R3: a relay needs TURN. -/
def relayWarning (webrtc : WebRtcRuntimeConfig) (members : List (Text × JsonValue F)) :
    Report F :=
  if equal (.str "relay".toList) ((members.lookup "ice_policy".toList).getD .null) &&
      !webrtc.turnEnabled then
    { warnings :=
        [("webrtc.ice_policy=relay but TURN is not available — " ++
          "clients would get no candidates (R3)").toList] }
  else {}

/-- The section `webrtc` of a patch. -/
def webRtcSection (python : Python F) (webrtc : WebRtcRuntimeConfig) (wp : JsonValue F) :
    Except PyException (Report F) :=
  if truthy wp then do
    let merged ← mergedErrors python .webRtc webrtc.modelDump wp "webrtc".toList
    let members ← items wp
    pure (merged ++ relayWarning webrtc members ++ concat (members.map fun member =>
      sectionField "webrtc".toList webRtcPolicy .readOnlyDerived webrtc.modelDump member.1
        member.2))
  else pure {}

/-- The section `diagnostics` of a patch. -/
def diagnosticsSection (python : Python F) (diagnostics : DiagnosticsRuntimeConfig)
    (dp : JsonValue F) : Except PyException (Report F) :=
  if truthy dp then do
    let merged ← mergedErrors python .diagnostics diagnostics.modelDump dp "diagnostics".toList
    let members ← items dp
    pure (merged ++ concat (members.map fun member =>
      sectionField "diagnostics".toList diagPolicy .readOnly diagnostics.modelDump member.1
        member.2))
  else pure {}

/-! ## Stream profiles -/

/-- `frm == value`, where `frm` is the attribute of the current profile, or `None`. -/
def sameAttribute (python : Python F) (cur : Option EffectiveStreamProfile) (field : Text)
    (value : JsonValue F) : Bool :=
  match cur with
  | none => equal .null value
  | some profile =>
      match profile.modelDump.lookup field with
      | some frm => equal frm value
      | none => ((python.otherAttribute field).getD (equal .null)) value

/-- The resolution of a profile, or the default. -/
def currentResolution (cur : Option EffectiveStreamProfile) : JsonValue F :=
  .str ((cur.map EffectiveStreamProfile.resolution).getD "640x480".toList)

/-- The frames per second of a profile, or the default. -/
def currentFps (cur : Option EffectiveStreamProfile) : JsonValue F :=
  .int ((cur.map EffectiveStreamProfile.fps).getD 15)

/-- The mode that is looked up. -/
def modeOf (python : Python F) (res fps : JsonValue F) : Except PyException Mode :=
  match python.str res, toInt fps with
  | .error e, _ => .error e
  | .ok _, .error e => .error e
  | .ok r, .ok n => .ok (r, n)

/-- The look-up of R6. -/
def colorMode (python : Python F) (modes : List Mode) (path : Text) (res fps : JsonValue F) :
    Except PyException (Report F) :=
  match modeOf python res fps with
  | .error e => .error e
  | .ok mode =>
      if mode ∈ modes then .ok {}
      else (python.str fps).map fun f => err (some path) (.colorMode mode.1 f)

/-- R6: the field of a colour profile together with the current value of the other field. -/
def colorRule (python : Python F) (modes : Option (Token → Option (List Mode)))
    (cur : Option EffectiveStreamProfile) (path field : Text) (value : JsonValue F) :
    Except PyException (Report F) :=
  if field = "resolution".toList ∨ field = "fps".toList then
    match modes with
    | none =>
        .ok
          { warnings :=
              [path ++ (": could not verify against SDK catalog " ++
                "(device/SDK unavailable)").toList] }
    | some modes =>
        match modes .color with
        | none => .ok {}
        | some modes =>
            colorMode python modes path
              (if field = "resolution".toList then value else currentResolution cur)
              (if field = "fps".toList then value else currentFps cur)
  else .ok {}

/-- The path of a profile in a patch. -/
def profilePath (key : Text) : Text := "stream_profiles.".toList ++ key

/-- The path of a field of a profile. -/
def fieldPath (key field : Text) : Text := profilePath key ++ ['.'] ++ field

/-- The value that a changed field has in the diff: a profile that is not there has none. -/
def currentValue (cur : Option EffectiveStreamProfile) (field : Text) : JsonValue F :=
  (cur.bind fun profile => profile.modelDump.lookup field).getD .null

/-- A field of a profile. -/
def streamField (python : Python F) (modes : Option (Token → Option (List Mode))) (key : Text)
    (cur : Option EffectiveStreamProfile) (field : Text) (value : JsonValue F) :
    Except PyException (Report F) :=
  let path := fieldPath key field
  let entry (source : Text) (impact : ApplyImpact) : Report F :=
    { diff := [{ path, frm := currentValue cur field, toValue := value, source, impact }] }
  if sameAttribute python cur field value then .ok {}
  else
    match streamReadonly.lookup field with
    | some note => .ok (err (some path) (.streamReadOnly field note) ++ entry note .rejected)
    | none =>
        if field ∈ streamTunable then
          if sensorOf key = "color".toList then
            (colorRule python modes cur path field value).map
              (· ++ entry "rs-color.tuning.env".toList .restartEncoder)
          else
            .ok (err (some path) (.noRuntimeApi field (sensorOf key)) ++
              entry "Initialize-time default (no runtime API)".toList .rejected)
        else .ok (err (some path) (.unknownStreamField field))

/-- The `base` of a profile. -/
def profileBase (key : Text) (cur : Option EffectiveStreamProfile) : List (Text × JsonValue F) :=
  match cur with
  | some profile => profile.modelDump.filter fun member => member.1 ≠ "runtime_active".toList
  | none =>
      [("sensor_key".toList, .str key), ("mountpoint_id".toList, .int 1),
        ("rtp_port".toList, .int 1024)]

/-- A profile of a patch. -/
def streamProfile (python : Python F) (modes : Option (Token → Option (List Mode)))
    (eff : EffectiveRuntimeConfig) (key : Text) (prof : JsonValue F) :
    Except PyException (Report F) :=
  if isCanonicalSensorKey key then do
    let cur := eff.streamProfiles.lookup key
    let merged ← mergedErrors python .stream (profileBase key cur) (orEmpty prof) (profilePath key)
    let members ← items (orEmpty prof)
    let fields ← collect (fun member => streamField python modes key cur member.1 member.2) members
    pure (merged ++ fields)
  else pure (err (some (profilePath key)) (.sensorKey key))

/-- The section `stream_profiles` of a patch. -/
def streamSection (python : Python F) (eff : EffectiveRuntimeConfig)
    (catalog : Option (List CatalogSensor)) (sp : JsonValue F) :
    Except PyException (Report F) := do
  let members ← items sp
  collect (fun member => streamProfile python (colorModes python catalog) eff member.1 member.2)
    members

/-! ## The whole patch -/

/-- R1. -/
def versionRule (members : List (Text × JsonValue F)) : Report F :=
  match members.lookup "version".toList with
  | none => {}
  | some version =>
      if equal (.int 1) version then {} else err (some "version".toList) .version

/-- R9 and R10: a key at the top of a patch. -/
def topLevelKey (python : Python F) (k : Text) : Report F :=
  let ku := python.upper k
  let kl := python.lower k
  if ku ∈ deploymentFields ∨ (["firewall", "bind", "host_lan", "viewer_token", "camera_env"].any
      fun s => s.toList <:+: kl) then
    err (some k) (.deploymentOnly k)
  else if ku ∈ sensitiveKeys ∨ (["secret", "password", "pwd", "admin_token"].any
      fun s => s.toList <:+: kl) then
    err (some k) (.secret k)
  else if k ∈ ["version".toList, "webrtc".toList, "stream_profiles".toList,
      "diagnostics".toList] then {}
  else err (some k) (.unknownTopLevel k)

/-- R8: what the current profiles have twice. -/
def audit (profiles : List (Text × EffectiveStreamProfile)) : Report F where
  warnings :=
    (if (profiles.map fun p => p.2.mountpointId).Nodup then []
      else ["allocation invariant: duplicate mountpoint_id in current state (R8)".toList]) ++
    (if (profiles.map fun p => p.2.rtpPort).Nodup then []
      else ["allocation invariant: duplicate rtp_port in current state (R8)".toList])

/-- The response to a report. -/
def respond (report : Report F) : ValidationResponse F where
  valid := report.errors.isEmpty
  diff := report.diff
  impact := (report.diff.map DiffEntry.impact).eraseDups
  errors := report.errors
  warnings := report.warnings

/-- `patch.get(key) or {}`. -/
def sectionOf (members : List (Text × JsonValue F)) (key : Text) : JsonValue F :=
  orEmpty ((members.lookup key).getD .null)

/-- `validate`, where `issues` are the ones of the production posture. -/
def validate (python : Python F) (eff : EffectiveRuntimeConfig)
    (catalog : Option (List CatalogSensor)) (issues : List Text) (patch : JsonValue F) :
    Except PyException (ValidationResponse F) :=
  match patch with
  | .obj members => do
      let webrtc ← webRtcSection python eff.webrtc (sectionOf members "webrtc".toList)
      let diagnostics ←
        diagnosticsSection python eff.diagnostics (sectionOf members "diagnostics".toList)
      let streams ← streamSection python eff catalog (sectionOf members "stream_profiles".toList)
      pure (respond (versionRule members ++
        concat (members.map fun member => topLevelKey python member.1) ++ webrtc ++ diagnostics ++
          streams ++ audit eff.streamProfiles ++
          { warnings := issues.map ("production: ".toList ++ ·) }))
  | _ => pure (respond (err none .notAnObject))

end Compare

/-! ## A device to try patches on -/

/-- Parameters that are as they should be on ASCII texts and on models that find no error. -/
def plainPython : Python WholeFloat where
  upper := List.map Char.toUpper
  lower := List.map Char.toLower
  lower_nil := rfl
  repr
    | .int n => encodeInt n
    | .str s => '\'' :: s ++ ['\'']
    | value => JsonStyle.plain.encode 0 value
  limit := 1000
  otherAttribute _ := none
  modelErrors _ _ := []

/-- The key of the colour sensor of a device. -/
def deviceKey : Text := "141722072135:color".toList

/-- The effective configuration of a device with a colour sensor. -/
def deviceConfig : EffectiveRuntimeConfig where
  webrtc :=
    { icePolicy := "all".toList, turnCredentialTtlSeconds := 3600, turnEnabled := true
      stunEnabled := true, maxReconnectAttempts := none, reconnectBaseDelayMs := 300
      reconnectMaxDelayMs := 15000 }
  streamProfiles :=
    [(deviceKey,
      { sensorKey := deviceKey, enabled := true, resolution := "640x480".toList, fps := 15
        codec := "h264".toList, encoder := "libx264".toList, bitrateKbps := 900, gopFrames := 15
        mountpointId := 1305, rtpPort := 5004, runtimeActive := some true })]
  diagnostics :=
    { rebootAllowed := false, healthStreamStaleMs := 10000, debugStatsEnabled := false
      telemetryEnabled := true, telemetryIntervalSeconds := 5, fdirEnabled := true
      autoRecoveryEnabled := true }

end CameraStack.Runtime.Validator
