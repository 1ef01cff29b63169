/-
# The text of janus.jcfg

Two programs write `janus.jcfg`.  The renderer makes the whole file out of a template; the admin
command replaces what stands between two markers by a block that it renders from a NAT
configuration.  Texts are lists of characters.
-/

import CameraStack.Lib.Lines
import CameraStack.Lib.Text

namespace CameraStack.Jcfg

open CameraStack.Lib

/-! ## The NAT configuration -/

/-- `turn_type`. -/
inductive TurnType where
  | udp | tcp | tls
  deriving DecidableEq, Repr

/-- The value of a turn type. -/
def TurnType.value : TurnType → String
  | .udp => "udp"
  | .tcp => "tcp"
  | .tls => "tls"

/-- `JanusNatConfig`. -/
structure JanusNatConfig where
  stunServer : String
  stunPort : ℤ := 3478
  turnServer : String
  turnPort : ℤ := 3478
  turnType : TurnType := .tcp
  turnUser : String
  turnPwd : String
  nat11Mapping : String := ""
  iceTcp : Bool := false
  fullTrickle : Bool := true
  iceEnforceList : String := ""
  iceIgnoreList : List String := ["docker", "veth", "lo", "vmnet", "tailscale"]
  keepPrivateHost : Bool := false
  minPort : ℤ := 40000
  maxPort : ℤ := 41000
  deriving DecidableEq, Repr

/-- The environment variables that the defaults of a configuration are read from. -/
structure NatEnv where
  turnHost : Option String
  turnUser : Option String
  turnPass : Option String
  /-- The host of the shared configuration. -/
  deviceTurnHost : String

/-- `JanusNatConfig()`. -/
def JanusNatConfig.default (env : NatEnv) : JanusNatConfig where
  stunServer := env.turnHost.getD env.deviceTurnHost
  turnServer := env.turnHost.getD env.deviceTurnHost
  turnUser := env.turnUser.getD "webrtc"
  turnPwd := env.turnPass.getD ""

/-! ## The NAT block -/

/-- Lines, each one given by its parts. -/
def joinParts (lines : List (List String)) : List Char :=
  joinLines (lines.map fun parts => parts.flatMap String.toList)

/-- How the block spells a flag. -/
def flagText (b : Bool) : String := if b then "true" else "false"

/-- The line about the interfaces; the list to enforce wins. -/
def iceLine (cfg : JanusNatConfig) : List String :=
  if cfg.iceEnforceList ≠ "" then ["  ice_enforce_list = \"", cfg.iceEnforceList, "\""]
  else
    "  ice_ignore_list = [ " ::
      (List.intersperse [", "] (cfg.iceIgnoreList.map fun s => ["\"", s, "\""])).flatten ++ [" ]"]

/-- `render_nat_block`. -/
def renderNatBlock (cfg : JanusNatConfig) : List Char :=
  joinParts
    [["nat: \x7b"],
     ["  ice_tcp = ", flagText cfg.iceTcp],
     ["  full_trickle = ", flagText cfg.fullTrickle],
     ["  ignore_mdns = true"],
     ["  keep_private_host = ", flagText cfg.keepPrivateHost],
     iceLine cfg,
     [],
     ["  stun_server = \"", cfg.stunServer, "\""],
     ["  stun_port   = ", toString cfg.stunPort],
     [],
     ["  turn_server = \"", cfg.turnServer, "\""],
     ["  turn_port   = ", toString cfg.turnPort],
     ["  turn_type   = \"", cfg.turnType.value, "\""],
     ["  turn_user   = \"", cfg.turnUser, "\""],
     ["  turn_pwd    = \"", cfg.turnPwd, "\""],
     [],
     ["  nat_1_1_mapping = \"", cfg.nat11Mapping, "\""],
     ["  min_port = ", toString cfg.minPort],
     ["  max_port = ", toString cfg.maxPort],
     ["\x7d"]]

def natBeginMarker : List Char := "# BEGIN NAT AUTO".toList

def natEndMarker : List Char := "# END NAT AUTO".toList

/-- `patch_nat_block`; `none` is the error about markers that are missing. -/
def patchNatBlock (jcfgText newBlock : List Char) : Option (List Char) :=
  match cutAt natBeginMarker jcfgText with
  | none => none
  | some (before, rest) =>
      -- The end marker is looked for from where the begin marker starts.
      match cutAt natEndMarker (natBeginMarker ++ rest) with
      | none => none
      | some (_, after) =>
          some (rstripChars before ++ '\n' :: (natBeginMarker ++ '\n' :: (newBlock ++
            '\n' :: (natEndMarker ++ '\n' :: after.dropWhile isPySpace))))

/-- Behind the first begin marker stands the block, and behind the block the end marker. -/
def hasNatBlock (jcfgText block : List Char) : Bool :=
  match cutAt natBeginMarker jcfgText with
  | none => false
  | some (_, rest) => decide ('\n' :: (block ++ '\n' :: natEndMarker) <+: rest)

theorem hasNatBlock_of_patchNatBlock {jcfgText newBlock patched : List Char}
    (h : patchNatBlock jcfgText newBlock = some patched) : hasNatBlock patched newBlock = true := by
  rw [patchNatBlock] at h
  split at h
  · cases h
  · next before rest hcut =>
      split at h
      · cases h
      · next _ after _ =>
        cases h
        have hmoved := @cutAt_moved natBeginMarker jcfgText before rest (rstripChars before)
        rw [hasNatBlock, hmoved (by decide) (by decide) hcut (rstripChars_isPrefix before)]
        refine decide_eq_true ?_
        rw [List.cons_prefix_cons]
        exact ⟨rfl, '\n' :: after.dropWhile isPySpace, by simp⟩

/-! ## Rendering the whole file -/

/-- `_read_current_nat_mapping` on a text: what the first assignment that is complete assigns. -/
def assignedNatMapping : List Char → Option (List Char)
  | [] => none
  | c :: cs =>
      match assignedAt (c :: cs) with
      | some value => some value
      | none => assignedNatMapping cs
where
  /-- `nat_1_1_mapping\s*=\s*"([^"]+)"` where the text begins. -/
  assignedAt (text : List Char) : Option (List Char) :=
    if "nat_1_1_mapping".toList <+: text then
      match (text.drop "nat_1_1_mapping".length).dropWhile isPySpace with
      | '=' :: right =>
          match right.dropWhile isPySpace with
          | '"' :: quoted =>
              let value := quoted.takeWhile fun c => c ≠ '"'
              -- The group takes at least one character, and the quote is closed.
              if value ≠ [] ∧ value.length < quoted.length then some value else none
          | _ => none
      | _ => none
    else none

/-- `_read_current_nat_mapping`. -/
def readCurrentNatMapping (janusJcfg : Option (List Char)) : List Char :=
  (janusJcfg.bind assignedNatMapping).getD "REPLACE_WITH_PUBLIC_IP".toList

/-- What the renderer finds on the host when it builds the substitutions. -/
structure RenderInputs where
  cfgDir : String
  pluginsDir : String
  transportsDir : String
  /-- The interface of the default route. -/
  iface : String
  /-- The secrets of the secret store. -/
  values : List (String × String)
  deriving Repr

/-- `values.get(key, fallback)`. -/
def RenderInputs.secret (inputs : RenderInputs) (key fallback : String) : String :=
  (inputs.values.lookup key).getD fallback

/-- The streaming key, with its old name when the new one has no value. -/
def RenderInputs.streamingAdminKey (inputs : RenderInputs) : String :=
  match inputs.values.lookup "STREAMING_ADMIN_KEY" with
  | some key => if key = "" then inputs.secret "JANUS_STREAMING_ADMIN_KEY" "REPLACE_ME" else key
  | none => inputs.secret "JANUS_STREAMING_ADMIN_KEY" "REPLACE_ME"

/-- `_build_substitutions`. -/
def buildSubstitutions (inputs : RenderInputs) (natMapping : Option String)
    (janusJcfg : Option (List Char)) : List (String × List Char) :=
  let nat :=
    match natMapping with
    | some mapping => if mapping = "" then readCurrentNatMapping janusJcfg else mapping.toList
    | none => readCurrentNatMapping janusJcfg
  [("JANUS_CFG_DIR", inputs.cfgDir.toList),
   ("JANUS_PLUGINS_DIR", inputs.pluginsDir.toList),
   ("JANUS_TRANSPORTS_DIR", inputs.transportsDir.toList),
   ("ICE_ENFORCE_LIST", inputs.iface.toList),
   ("RELAY_PORT", "9000".toList),
   ("JANUS_ADMIN_SECRET", (inputs.secret "JANUS_ADMIN_SECRET" "REPLACE_ME").toList),
   ("STREAMING_ADMIN_KEY", inputs.streamingAdminKey.toList),
   ("STREAMING_RGB_MP_SECRET", (inputs.secret "STREAMING_RGB_MP_SECRET" "REPLACE_ME").toList),
   ("TEXTROOM_ROOM_SECRET", (inputs.secret "TEXTROOM_ROOM_SECRET" "REPLACE_ME").toList),
   ("NAT_1_1_MAPPING", nat)]

/-- `_apply`. -/
def applySubstitutions (text : List Char) (subs : List (String × List Char)) : List Char :=
  subs.foldl (fun out sub => replaceAll ('@' :: (sub.1.toList ++ ['@'])) sub.2 out) text

/-- The text of `janus.jcfg.template`. -/
def janusJcfgTemplate : List Char :=
  joinParts
    [["# Janus main config rendered by install.sh."],
     ["# Substitutes: @JANUS_CFG_DIR@, @JANUS_PLUGINS_DIR@, @JANUS_TRANSPORTS_DIR@,"],
     ["#              @JANUS_ADMIN_SECRET@, @ICE_ENFORCE_LIST@"],
     ["#"],
     ["# Operator MUST edit nat_1_1_mapping below AFTER install — this is the node's"],
     ["# public IP (auto-detect is not reliable in multi-NIC scenarios)."],
     [],
     ["general: \x7b"],
     ["    configs_folder    = \"@JANUS_CFG_DIR@\""],
     ["    plugins_folder    = \"@JANUS_PLUGINS_DIR@\""],
     ["    transports_folder = \"@JANUS_TRANSPORTS_DIR@\""],
     ["    debug_level             = 1"],
     ["    session_timeout         = 90"],
     ["    reclaim_session_timeout = 30"],
     ["    admin_secret            = \"@JANUS_ADMIN_SECRET@\""],
     ["\x7d"],
     [],
     ["# BEGIN NAT AUTO"],
     ["# This block is managed by janus-nat-updater + janus-turn-rotator."],
     ["# Manual edits between BEGIN/END markers will be preserved BUT may be"],
     ["# overwritten by the rotator timer. Edit OUTSIDE the markers if you need"],
     ["# permanent changes."],
     ["nat: \x7b"],
     ["    ice_tcp            = false"],
     ["    full_trickle       = true"],
     ["    ignore_mdns        = true"],
     ["    keep_private_host  = false"],
     ["    ice_enforce_list   = \"@ICE_ENFORCE_LIST@\""],
     [],
     ["    # STUN — public Google STUN works for most cases."],
     ["    stun_server = \"stun.l.google.com\""],
     ["    stun_port   = 19302"],
     [],
     ["    # TURN — operator configures. Either:"],
     ["    #   (a) Local coturn (recommended): turn_server=\"127.0.0.1\", turn_port=3478"],
     ["    #       Use-auth-secret mode requires ephemeral creds; either run"],
     ["    #       janus-turn-rotator.timer OR comment out turn_* and use turn_rest_api"],
     ["    #   (b) Public TURN service with static creds"],
     ["    # Default: commented out — set after install"],
     ["    # turn_server = \"127.0.0.1\""],
     ["    # turn_port   = 3478"],
     ["    # turn_type   = \"udp\""],
     ["    # turn_user   = \"REPLACE_VIA_ROTATOR\""],
     ["    # turn_pwd    = \"REPLACE_VIA_ROTATOR\""],
     [],
     ["    # CRITICAL: nat_1_1_mapping = public-IP-of-this-node"],
     ["    # ICE candidates advertise this. Wrong = remote clients fail to connect."],
     ["    # Set via admin_config page OR pass --nat-mapping=IP to jcfg_renderer."],
     ["    nat_1_1_mapping = \"@NAT_1_1_MAPPING@\""],
     [],
     ["    min_port = 40000"],
     ["    max_port = 41000"],
     ["\x7d"],
     ["# END NAT AUTO"],
     []]

end CameraStack.Jcfg
