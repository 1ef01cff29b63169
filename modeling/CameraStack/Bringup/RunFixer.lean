/-
# The runner of the fixers

A run of any fixer checks, plans, takes the lock, executes and checks again.  Whatever a check or an
action raises becomes a result.  What the plan raises does not, and neither does a lock that another
process holds: the lock is taken only where its block is entered, behind the handler.

Of the four plans only that of the fingerprint can raise: where the history of the baseline is not
one that it can continue.
-/

import CameraStack.Bringup.Swap

namespace CameraStack.Bringup

/-! ## The plans -/

/-- What an installation says besides the fingerprint. -/
structure Installation where
  instanceId : String
  usbInterfaceNum : String
  usbPortHint : Option String
  devSymlinkName : String
  udevRulesDir : String
  bringupHome : String

/-- A command. -/
def runCommand (description target payload : String) : Action where
  kind := .run
  description := description
  target := target
  payload := some payload

section Plans

variable (lib : Libraries) (spec : Spec) (inst : Installation)

/-- `_render_power_rule`. -/
def renderPowerRule : String :=
  "# Generated from instance " ++ inst.instanceId ++ " —\n"
    ++ "# scope = all USB devices " ++ spec.vendorId ++ ":" ++ spec.productId ++ ".\n"
    ++ "# Apply on add (boot/replug) and change (manual udevadm trigger).\n"
    ++ "ACTION==\"add|change\", SUBSYSTEM==\"usb\", "
    ++ "ATTR\x7bidVendor\x7d==\"" ++ spec.vendorId ++ "\", "
    ++ "ATTR\x7bidProduct\x7d==\"" ++ spec.productId ++ "\", \\\n"
    ++ "  ATTR\x7bpower/control\x7d=\"on\", \\\n"
    ++ "  ATTR\x7bpower/autosuspend\x7d=\"-1\", \\\n"
    ++ "  ATTR\x7bpower/persist\x7d=\"0\"\n"

/-- `sysfs_path.rstrip("/").split("/")[-1]`. -/
def sysname (path : String) : String :=
  String.ofList ((path.toList.reverse.dropWhile (· = '/')).takeWhile (· ≠ '/')).reverse

/-- `UsbPowerFixer.plan`. -/
def usbPowerPlan (host : Host) : List Action :=
  let name := sysname (host.sysfsPath.getD "/sys/bus/usb/devices/2-2")
  [{ kind := .writeFile
     description := "install USB power rule (from instance " ++ inst.instanceId ++ ")"
     target := inst.udevRulesDir ++ "/99-usb-nosuspend-d435i.rules"
     payload := some (renderPowerRule spec inst) },
    runCommand "udevadm control --reload" "udevadm" "control --reload",
    runCommand ("udevadm trigger --action=change --sysname-match=" ++ name) "udevadm"
      ("trigger --action=change --sysname-match=" ++ name),
    runCommand "udevadm settle (wait for kernel to apply change)" "udevadm" "settle --timeout=5"]

/-- `render_udev_rule`. -/
def renderUdevRule : String :=
  let portMatch :=
    match inst.usbPortHint with
    | none => ""
    | some hint => if hint = "" then "" else "KERNELS==\"" ++ hint ++ "\", "
  "# Generated from instance " ++ inst.instanceId ++ " — DO NOT EDIT MANUALLY.\n"
    ++ "# See camera_bringup/instances/" ++ inst.instanceId
    ++ ".toml + InstanceSpec.render_udev_rule().\n"
    ++ "# Auto-installed by camera_bringup apply --only udev.\n"
    ++ "SUBSYSTEM==\"video4linux\", KERNEL==\"video*\", \\\n"
    ++ "  ENV\x7bID_VENDOR_ID\x7d==\"" ++ spec.vendorId ++ "\", "
    ++ "ENV\x7bID_MODEL_ID\x7d==\"" ++ spec.productId ++ "\", "
    ++ "ENV\x7bID_USB_INTERFACE_NUM\x7d==\"" ++ inst.usbInterfaceNum ++ "\", \\\n"
    ++ "  ENV\x7bID_V4L_CAPABILITIES\x7d==\":capture:\", \\\n"
    ++ "  " ++ portMatch ++ "\\\n"
    ++ "  SYMLINK+=\"" ++ inst.devSymlinkName ++ "\", \\\n"
    ++ "  ENV\x7bSYSTEMD_ALIAS\x7d=\"/dev/" ++ inst.devSymlinkName ++ "\", \\\n"
    ++ "  TAG+=\"systemd\"\n"

/-- `UdevFixer.plan`. -/
def udevPlan : List Action :=
  let ruleName := "99-" ++ inst.devSymlinkName ++ ".rules"
  [{ kind := .writeFile
     description := "install " ++ ruleName ++ " (from instance " ++ inst.instanceId ++ ")"
     target := inst.udevRulesDir ++ "/" ++ ruleName
     payload := some (renderUdevRule spec inst) },
    runCommand "udevadm control --reload" "udevadm" "control --reload",
    runCommand "udevadm trigger --subsystem-match=video4linux" "udevadm"
      "trigger --subsystem-match=video4linux",
    runCommand "udevadm settle" "udevadm" "settle --timeout=5"]

/-- `ResetToolsFixer.plan`. -/
def resetToolsPlan (disk : Disk) : List Action :=
  let venv := inst.bringupHome ++ "/.venv"
  let pip := venv ++ "/bin/pip"
  let script := inst.bringupHome ++ "/hw_reset_realsense.py"
  (if (disk.file (venv ++ "/bin/python3")).isFile then []
    else [runCommand ("python3 -m venv " ++ venv) "python3"
      ("-m venv " ++ venv ++ " --system-site-packages")]) ++
  [runCommand (pip ++ " install -r requirements.txt (pure-Python)") pip
      ("install --quiet -r " ++ inst.bringupHome ++ "/requirements.txt"),
    runCommand (pip ++ " install -r requirements-hardware.txt (hash-verified)") pip
      ("install --quiet --require-hashes -r " ++ inst.bringupHome ++ "/requirements-hardware.txt"),
    { kind := .chmodExec, description := "chmod +x " ++ script, target := script }]

/-- `ALL_FIXERS`. -/
inductive FixerId
  | usbPower | udev | resetTools | fingerprint
  deriving DecidableEq, Repr

/-- The name of a fixer, which is that of its check. -/
def FixerId.name : FixerId → String
  | .usbPower => "usb_power"
  | .udev => "udev"
  | .resetTools => "reset_tools"
  | .fingerprint => "fingerprint"

example : [FixerId.usbPower, .udev, .resetTools, .fingerprint].map FixerId.name = allFixers := rfl

/-- `plan`. -/
def FixerId.plan (meets : PlanMeets) (disk : Disk) : FixerId → Except Raised (List Action)
  | .usbPower => .ok (usbPowerPlan spec inst meets.host)
  | .udev => .ok (udevPlan spec inst)
  | .resetTools => .ok (resetToolsPlan inst disk)
  | .fingerprint => fingerprintPlan lib spec meets disk

end Plans

/-! ## What a plan can continue -/

section Continue

variable {lib : Libraries} {spec : Spec} {meets : PlanMeets} {disk : Disk}

end Continue

/-! ## The actions -/

/-- The actions were executed up to the first that failed. -/
def FailFast : List Action → Prop
  | [] => True
  | a :: rest =>
      (a.status = .failed ∧ ∀ b ∈ rest, b.status = .pending) ∨
        ((a.status = .applied ∨ a.status = .noop) ∧ FailFast rest)

/-- Before an action that failed all are done, and behind it none is begun. -/
theorem FailFast.split {before after : List Action} {a : Action}
    (h : FailFast (before ++ a :: after)) (hfailed : a.status = .failed) :
    (∀ b ∈ before, b.status = .applied ∨ b.status = .noop) ∧
      ∀ b ∈ after, b.status = .pending := by
  induction before with
  | nil =>
      rcases h with ⟨-, hpending⟩ | ⟨hdone | hnoop, -⟩
      · exact ⟨nofun, hpending⟩
      · cases hdone.symm.trans hfailed
      · cases hnoop.symm.trans hfailed
  | cons b before ih =>
      rcases h with ⟨-, hpending⟩ | ⟨hdone, hrest⟩
      · have ha := hpending a (List.mem_append_right _ List.mem_cons_self)
        cases ha.symm.trans hfailed
      · obtain ⟨hbefore, hafter⟩ := ih hrest
        exact ⟨List.forall_mem_cons.mpr ⟨hdone, hbefore⟩, hafter⟩

/-! ## The lock -/

/-- The lock of the applies: nobody holds it, another process does, or its file cannot be used. -/
inductive LockState
  | free
  | held
  | unusable (e : Raised)
  deriving DecidableEq

/-- What `apply_lock` raises when it is entered. -/
def LockState.raises (path : String) : LockState → Option Raised
  | .free => none
  | .held => some ("LockBusyError: apply lock " ++ path ++ " held by another process")
  | .unusable e => some e

/-- A run of a fixer: what its check finds before and after, and how the host takes the actions. -/
structure FixerRun where
  fixer : FixerId
  pre : Disk → Except Raised CheckResult
  post : Disk → Except Raised CheckResult
  planning : PlanMeets
  dryRun : Bool := false
  lockPath : String
  lock : LockState
  outcomes : List Outcome

section Run

variable {lib : Libraries} {spec : Spec} {inst : Installation} {c : FixerRun} {disk : Disk}

/-- `run_fixer` of the call. -/
def FixerRun.run (lib : Libraries) (spec : Spec) (inst : Installation) (c : FixerRun)
    (disk : Disk) : Except Raised FixerResult :=
  (runFixer c.fixer.name (fun d => safeRun c.fixer.name (c.pre d))
    (fun d => safeRun c.fixer.name (c.post d))
    (fun d => c.fixer.plan lib spec inst c.planning d) c.dryRun
    { lockRaises := c.lock.raises c.lockPath, outcomes := c.outcomes } disk).1

/-- The check is OK before. -/
def FixerRun.Passes (c : FixerRun) (disk : Disk) : Prop :=
  (safeRun c.fixer.name (c.pre disk)).status = .ok

variable {actions : List Action}

end Run

end CameraStack.Bringup
