/-
# Effective configuration and its validation

The two runtime knobs reach the process through its environment: settings read them
with defaults and bounds, and the effective view clamps and overrides them once more.
A patch is judged against the effective view, not against the stored values: a field
whose value the view already shows is no change, whatever the file says.
-/

import Mathlib.Data.Rat.Floor
import CameraStack.Lib.Dict
import CameraStack.Lib.PlainJson

namespace CameraStack.Runtime

open CameraStack.Lib

/-! ## Settings -/

/-- The fields of `Settings` the view of the two knobs rests on. -/
structure Settings where
  icePolicy : String
  turnCredTtl : ℤ
  cameraType : String
  deriving DecidableEq

/-- `_str_env` with an allowed set. -/
def strEnv (environ : Dict String) (key default : String) (allowed : List String) : String :=
  let value := environ[key]?.getD default
  if value ∈ allowed then value else default

/-- `_int_env` with bounds. -/
def intEnv (environ : Dict String) (key : String) (default lo hi : ℤ) : ℤ :=
  match environ[key]? with
  | none => default
  | some raw =>
      match pyInt (pyStrip raw) with
      | none => default
      | some value => if value < lo then lo else if hi < value then hi else value

/-- `Settings()`: the two knobs are read at call time, the camera type was read at
import. -/
def readSettings (cameraType : String) (environ : Dict String) : Settings where
  icePolicy := strEnv environ "ICE_POLICY" "all" ["all", "relay"]
  turnCredTtl := intEnv environ "TURN_CRED_TTL" 3600 300 3600
  cameraType := cameraType

/-! ## The effective view -/

/-- The two knobs in the effective view. -/
structure WebRtcView where
  icePolicy : String
  ttl : ℤ
  deriving DecidableEq

/-- The ICE policy a deployment ends up with. -/
def effectiveIce (cameraType ice : String) : String :=
  if cameraType = "depth_camera" then "relay"
  else if ice ∈ ["all", "relay"] then ice else "all"

/-- The band of the credential lifetime. -/
def clampTtl (ttl : ℤ) : ℤ := max 300 (min 3600 ttl)

/-- The WebRTC part of `build_effective`. -/
def buildWebRtc (s : Settings) : WebRtcView where
  icePolicy := effectiveIce s.cameraType s.icePolicy
  ttl := clampTtl s.turnCredTtl

/-! ## Patches -/

/-- The two fields of the section `webrtc` that can be applied. -/
structure WebRtcPatch where
  icePolicy : Option PlainJson := none
  ttl : Option PlainJson := none

/-- What the check of the fields makes of a patch. -/
inductive Section
  | fields (webrtc : WebRtcPatch)
  | names
  | forbidden
  | typeError

/-- The names of the fields that can be applied. -/
def allowedFields : List String := ["ice_policy", "turn_credential_ttl_seconds"]

/-- The check of the fields in `_apply_under_lock`.  A list of the two names passes
it, but is no mapping. -/
def patchSection (patch : List (String × PlainJson)) : Section :=
  if patch.any fun entry => entry.1 ∉ ["webrtc", "version"] then .forbidden
  else
    match patch.lookup "webrtc" with
    | none => .forbidden
    | some (.obj fields) =>
        if fields.isEmpty || fields.any fun entry => entry.1 ∉ allowedFields then .forbidden
        else
          .fields
            { icePolicy := fields.lookup "ice_policy"
              ttl := fields.lookup "turn_credential_ttl_seconds" }
    | some (.arr items) =>
        if items.any fun item => !item.hashable then .typeError
        else if items.isEmpty || items.any fun item =>
            !(item.eqStr "ice_policy" || item.eqStr "turn_credential_ttl_seconds") then .forbidden
        else .names
    | some (.str _) => .forbidden
    | some value => if value.truthy then .typeError else .forbidden

/-- `validate` on a patch that passed the check: the two fields against the model's
types and bounds, `laxInt` being pydantic's conversion to `int`, and the version. -/
def patchValid (laxInt : PlainJson → Option ℤ) (patch : List (String × PlainJson))
    (webrtc : WebRtcPatch) : Bool :=
  (match patch.lookup "version" with
    | none => true
    | some version => version.eqInt 1) &&
  (match webrtc.icePolicy with
    | none => true
    | some value => value.eqStr "all" || value.eqStr "relay") &&
  (match webrtc.ttl with
    | none => true
    | some value =>
        match laxInt value with
        | none => false
        | some n => 300 ≤ n && n ≤ 3600)

/-- The diff of `validate` is not empty; both fields have the impact
`NEW_SESSIONS_ONLY`. -/
def patchChanges (view : WebRtcView) (webrtc : WebRtcPatch) : Bool :=
  (match webrtc.icePolicy with
    | none => false
    | some value => !value.eqStr view.icePolicy) ||
  (match webrtc.ttl with
    | none => false
    | some value => !value.eqInt view.ttl)

/-! ## Targets -/

/-- `updates` as text: the ICE policy and the integer value of the lifetime. -/
structure Updates where
  icePolicy : Option String := none
  ttl : Option ℤ := none
  deriving DecidableEq

/-- The text of a value that passed validation as an ICE policy. -/
def iceText : PlainJson → Option String
  | .str s => some s
  | _ => none

/-- The updates of a validated patch, `none` where `int` raises. -/
def patchUpdates (webrtc : WebRtcPatch) : Option Updates :=
  match webrtc.ttl with
  | none => some { icePolicy := webrtc.icePolicy.bind iceText }
  | some value =>
      match value.toInt with
      | none => none
      | some n => some { icePolicy := webrtc.icePolicy.bind iceText, ttl := some n }

/-- The items of `updates`: environment key and text. -/
def Updates.items (u : Updates) : List (String × String) :=
  (u.icePolicy.toList.map fun ice => ("ICE_POLICY", ice)) ++
    u.ttl.toList.map fun n => ("TURN_CRED_TTL", toString n)

/-- `_verify`: the view shows what `_expected_effective` expects. -/
def Updates.verify (s : Settings) (view : WebRtcView) (u : Updates) : Bool :=
  (match u.icePolicy with
    | none => true
    | some ice => view.icePolicy = effectiveIce s.cameraType ice) &&
  (match u.ttl with
    | none => true
    | some n => view.ttl = clampTtl n)

end CameraStack.Runtime
