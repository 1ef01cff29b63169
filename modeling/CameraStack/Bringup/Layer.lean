/-
# The verdicts on the layer

The results of the checks are summed up four times: as the status of the layer, as what a recovery
leaves behind, as the list of what only a human can settle, and as a snapshot for the dashboards.
Each summary filters the same results by other statuses and other names.

They agree only on some results.  A check that fails may be on nobody's list, a check that raises
leaves nothing behind, and the snapshot does not look for the marker of the SAFE mode.
-/

import CameraStack.Bringup.Swap

namespace CameraStack.Bringup

/-! ## The status -/

/-- `LayerStatus`. -/
inductive LayerStatus
  | healthy | drifted | degraded | safe | broken | unknown
  deriving DecidableEq, Repr

/-- `_derive_status`. -/
def deriveStatus (results : List CheckResult) : LayerStatus :=
  if ∃ r ∈ results, r.status = .error then .unknown
  else if ∃ r ∈ results, r.status = .fail then
    if ∃ r ∈ results, r.status = .fail ∧ r.name ∈ allFixers then .drifted else .broken
  else if ∃ r ∈ results, r.status = .warn then
    if ∃ r ∈ results, r.status = .warn ∧ r.name ∈ allFixers then .drifted else .degraded
  else .healthy

/-- `L0.status`, with the marker of the SAFE mode or without. -/
def layerStatus (safe : Bool) (results : List CheckResult) : LayerStatus :=
  if safe then
    if ∃ r ∈ results, r.status = .error then .unknown else .safe
  else deriveStatus results

/-! ## What a recovery leaves behind -/

/-- The end of `attempt_recovery`: what came of the fixers, and the last pass of the checks. -/
def recoveryResult (dryRun : Bool) (fixers : List FixerResult) (pass cached : List CheckResult) :
    RecoveryResult where
  attempted := !dryRun
  appliedFixers := fixersWith .applied fixers
  skippedFixers := fixersWith .skipped fixers
  failedFixers := fixersWith .failed fixers
  unfixedFixers := fixersWith .unfixed fixers
  remainingIssues := remainingIssues pass
  requiresHuman := collectHumanRequired (if pass.isEmpty then cached else pass)

/-- `fully_recovered`. -/
def RecoveryResult.fullyRecovered (r : RecoveryResult) : Bool :=
  r.attempted && r.remainingIssues.isEmpty

/-- A recovery that gets through ends so. -/
theorem attemptRecovery_result {lib : Libraries} {spec : Spec} {meets : RecoveryMeets}
    {disk : Disk} (hsafe : meets.safe = none) {r : RecoveryResult}
    (h : (attemptRecovery lib spec meets false disk).1 = .ok r) :
    ∃ fixers disk',
      r = recoveryResult false fixers (lastPass lib spec meets disk') meets.cached := by
  rw [attemptRecovery, hsafe] at h
  dsimp only [Option.filter_none] at h
  cases hearlier : meets.otherFixers.mapM id with
  | error e => rw [hearlier] at h; cases h
  | ok earlier =>
      rw [hearlier] at h
      dsimp only at h
      cases hown : (runFingerprintFixer lib spec meets.preHost meets.postHost meets.planning false
          meets.run disk).1 with
      | error e => rw [hown] at h; cases h
      | ok last =>
          rw [hown] at h
          exact ⟨earlier ++ [last], _, (Except.ok.inj h).symm⟩

/-! ## The snapshot -/

/-- `Identity`. -/
structure Identity where
  vendorId : String
  productId : String
  serial : Json
  firmware : Json
  productName : Json
  productLine : Json
  usbType : Json

/-- `L0.identity`. -/
def identity (spec : Spec) (host : Host) : Option Identity :=
  host.device.map fun _ =>
    { vendorId := spec.vendorId
      productId := spec.productId
      serial := host.answer "serial"
      firmware := host.answer "firmware"
      productName := host.answer "name"
      productLine := host.answer "product_line"
      usbType := host.answer "usb_type" }

/-- `(baseline or {}).get("camera", {}).get("serial")`. -/
def baselineSerial (baseline : Json) : Except Raised Json := do
  let baseline := if baseline.truth then baseline else .obj []
  let camera ← baseline.get "camera" (.obj [])
  camera.get "serial"

/-- `Snapshot`. -/
structure Snapshot where
  layer : String
  status : LayerStatus
  checksTotal : ℕ
  statusCounts : List (String × ℕ)
  identity : Option Identity
  baselineSerial : Json
  requiresHuman : List String

/-- `Status`, in its order. -/
def allStatuses : List Status := [.ok, .warn, .fail, .skip, .error]

/-- `L0.snapshot`. -/
def snapshot (lib : Libraries) (spec : Spec) (host : Host) (baseline : FileContent)
    (results : List CheckResult) : Except Raised Snapshot := do
  let document ← loadBaseline lib baseline
  let serial ← Bringup.baselineSerial (document.getD .null)
  return {
    layer := "L0_usb_kernel_udev_v4l2"
    status := deriveStatus results
    checksTotal := results.length
    statusCounts := allStatuses.map fun status =>
      (status.value, results.countP fun r => r.status = status)
    identity := identity spec host
    baselineSerial := serial
    requiresHuman := collectHumanRequired results }

theorem snapshot_status {lib : Libraries} {spec : Spec} {host : Host} {baseline : FileContent}
    {results : List CheckResult} {s : Snapshot}
    (h : snapshot lib spec host baseline results = .ok s) : s.status = deriveStatus results := by
  cases hload : loadBaseline lib baseline with
  | error e => rw [snapshot, hload] at h; cases h
  | ok document =>
      cases hserial : Bringup.baselineSerial (document.getD .null) with
      | error e => simp only [snapshot, bind, Except.bind, hload, hserial] at h; cases h
      | ok serial =>
          simp only [snapshot, bind, Except.bind, hload, hserial, pure, Except.pure,
            Except.ok.injEq] at h
          rw [← h]

/-- Without a baseline there is a snapshot. -/
theorem snapshot_absent (lib : Libraries) (spec : Spec) (host : Host)
    (results : List CheckResult) : ∃ s, snapshot lib spec host .absent results = .ok s :=
  ⟨_, rfl⟩

/-! ## When the summaries agree -/

/-- The summaries agree: a layer that is broken is on the list of the humans, a layer that has fully
recovered is healthy, and a snapshot has the status of the layer. -/
structure Agree (safe : Bool) (results : List CheckResult) : Prop where
  broken : deriveStatus results = .broken → collectHumanRequired results ≠ []
  recovered : ∀ fixers cached, (recoveryResult false fixers results cached).fullyRecovered →
    deriveStatus results = .healthy
  snapshot : ∀ lib spec host baseline s, snapshot lib spec host baseline results = .ok s →
    s.status = layerStatus safe results

/-- The checks without a fixer that are on the list, with the statuses that put them there. -/
def listed : List (String × Status) :=
  [("usb_enumerate", .fail), ("usb_enumerate", .warn), ("firmware", .warn), ("bandwidth", .warn),
    ("bandwidth", .fail)]

theorem humanRequired_isSome {name : String} {status : Status} :
    (humanRequired name status).isSome ↔
      (name, status) ∈ listed ∨ (name, status) = ("fingerprint", .fail) := by
  by_cases husb : name = "usb_enumerate"
  · subst husb
    cases status with
    | ok | warn | fail | skip | error => decide
  by_cases hfingerprint : name = "fingerprint"
  · subst hfingerprint
    cases status with
    | ok | warn | fail | skip | error => decide
  by_cases hfirmware : name = "firmware"
  · subst hfirmware
    cases status with
    | ok | warn | fail | skip | error => decide
  by_cases hbandwidth : name = "bandwidth"
  · subst hbandwidth
    cases status with
    | ok | warn | fail | skip | error => decide
  unfold humanRequired
  rw [if_neg husb, if_neg hfingerprint, if_neg hfirmware, if_neg hbandwidth]
  simp [listed, husb, hfingerprint, hfirmware, hbandwidth]

/-- No check of the list has a fixer. -/
theorem not_mem_allFixers_of_listed {name : String} {status : Status}
    (h : (name, status) ∈ listed) : name ∉ allFixers := by
  have hall : ∀ entry ∈ listed, entry.1 ∉ allFixers := by decide
  exact hall _ h

theorem humanEntry_isSome {name : String} {status : Status} :
    (humanEntry name status).isSome ↔
      (name, status) ∈ listed ∨ (name, status) = ("fingerprint", .fail) := by
  rw [humanEntry, ← humanRequired_isSome]
  cases hrequired : humanRequired name status with
  | none => exact Iff.rfl
  | some reason =>
      have hsome : (humanRequired name status).isSome := by rw [hrequired]; rfl
      have hcovered : name ∉ allFixers ∨ (name = "fingerprint" ∧ status = .fail) := by
        refine (humanRequired_isSome.mp hsome).imp not_mem_allFixers_of_listed fun heq => ?_
        exact Prod.mk.inj heq
      dsimp only
      rw [if_pos hcovered]
      exact Iff.rfl

theorem collectHumanRequired_ne_nil {results : List CheckResult} :
    collectHumanRequired results ≠ [] ↔
      ∃ r ∈ results, (r.name, r.status) ∈ listed ∨ (r.name, r.status) = ("fingerprint", .fail) := by
  rw [ne_eq, collectHumanRequired, List.filterMap_eq_nil_iff]
  push Not
  refine exists_congr fun r => and_congr_right fun _ => ?_
  rw [← humanEntry_isSome, Option.isSome_iff_ne_none]

theorem fullyRecovered_iff {fixers : List FixerResult} {results cached : List CheckResult} :
    (recoveryResult false fixers results cached).fullyRecovered ↔
      ∀ r ∈ results, r.status ≠ .warn ∧ r.status ≠ .fail := by
  have hissues : (recoveryResult false fixers results cached).fullyRecovered =
      (remainingIssues results).isEmpty := rfl
  rw [hissues, List.isEmpty_iff, remainingIssues, List.map_eq_nil_iff, List.filter_eq_nil_iff]
  refine forall₂_congr fun r _ => ?_
  rw [Bool.or_eq_true, not_or, decide_eq_true_eq, decide_eq_true_eq]

/-! ### Each of the three -/

/-- A layer is broken where something fails, nothing raises, and no fixer covers what fails. -/
theorem deriveStatus_broken {results : List CheckResult} :
    deriveStatus results = .broken ↔ (∀ r ∈ results, r.status ≠ .error) ∧
      (∃ r ∈ results, r.status = .fail) ∧ ∀ r ∈ results, r.status = .fail → r.name ∉ allFixers := by
  rw [deriveStatus]
  split_ifs with herror hfail hfixer hwarn hwarnFixer
  · refine iff_of_false nofun fun h => ?_
    obtain ⟨r, hr, hstatus⟩ := herror
    exact h.1 r hr hstatus
  · refine iff_of_false nofun fun h => ?_
    obtain ⟨r, hr, hstatus, hname⟩ := hfixer
    exact h.2.2 r hr hstatus hname
  · refine iff_of_true rfl ⟨fun r hr hstatus => herror ⟨r, hr, hstatus⟩, hfail, ?_⟩
    exact fun r hr hstatus hname => hfixer ⟨r, hr, hstatus, hname⟩
  · exact iff_of_false nofun fun h => hfail h.2.1
  · exact iff_of_false nofun fun h => hfail h.2.1
  · exact iff_of_false nofun fun h => hfail h.2.1

theorem deriveStatus_healthy {results : List CheckResult} :
    deriveStatus results = .healthy ↔
      ∀ r ∈ results, r.status ≠ .error ∧ r.status ≠ .warn ∧ r.status ≠ .fail := by
  rw [deriveStatus]
  split_ifs with herror hfail hfixer hwarn hwarnFixer
  · obtain ⟨r, hr, hstatus⟩ := herror
    exact iff_of_false nofun fun h => (h r hr).1 hstatus
  · obtain ⟨r, hr, hstatus⟩ := hfail
    exact iff_of_false nofun fun h => (h r hr).2.2 hstatus
  · obtain ⟨r, hr, hstatus⟩ := hfail
    exact iff_of_false nofun fun h => (h r hr).2.2 hstatus
  · obtain ⟨r, hr, hstatus⟩ := hwarn
    exact iff_of_false nofun fun h => (h r hr).2.1 hstatus
  · obtain ⟨r, hr, hstatus⟩ := hwarn
    exact iff_of_false nofun fun h => (h r hr).2.1 hstatus
  · refine iff_of_true rfl fun r hr => ⟨fun h => herror ⟨r, hr, h⟩, fun h => hwarn ⟨r, hr, h⟩, ?_⟩
    exact fun h => hfail ⟨r, hr, h⟩

/-- What fails without a fixer is on the list where something of the list was found. -/
theorem broken_listed_iff {results : List CheckResult} :
    (deriveStatus results = .broken → collectHumanRequired results ≠ []) ↔
      ((∃ r ∈ results, r.status = .fail) → (∀ r ∈ results, r.status ≠ .error) →
        (∀ r ∈ results, r.status = .fail → r.name ∉ allFixers) →
          ∃ r ∈ results, (r.name, r.status) ∈ listed) := by
  rw [deriveStatus_broken, collectHumanRequired_ne_nil]
  constructor
  · intro h hfail herror hfixer
    obtain ⟨r, hr, hlisted | hfingerprint⟩ := h ⟨herror, hfail, hfixer⟩
    · exact ⟨r, hr, hlisted⟩
    · obtain ⟨hname, hstatus⟩ := Prod.mk.inj hfingerprint
      refine absurd ?_ (hfixer r hr hstatus)
      rw [hname]
      decide
  · rintro h ⟨herror, hfail, hfixer⟩
    obtain ⟨r, hr, hlisted⟩ := h hfail herror hfixer
    exact ⟨r, hr, .inl hlisted⟩

/-- A check that raised is no remaining issue. -/
theorem recovered_healthy_iff {results : List CheckResult} :
    (∀ fixers cached, (recoveryResult false fixers results cached).fullyRecovered →
      deriveStatus results = .healthy) ↔
      ((∃ r ∈ results, r.status = .error) →
        ∃ r ∈ results, r.status = .warn ∨ r.status = .fail) := by
  simp only [fullyRecovered_iff, deriveStatus_healthy]
  constructor
  · rintro h ⟨r, hr, herror⟩
    by_contra! hnone
    exact (h [] [] hnone r hr).1 herror
  · intro h fixers cached hissues r hr
    refine ⟨fun herror => ?_, hissues r hr⟩
    obtain ⟨r', hr', hwarn | hfail⟩ := h ⟨r, hr, herror⟩
    · exact (hissues r' hr').1 hwarn
    · exact (hissues r' hr').2 hfail

theorem deriveStatus_ne_safe (results : List CheckResult) : deriveStatus results ≠ .safe := by
  rw [deriveStatus]
  split_ifs
  all_goals exact nofun

/-- The snapshot does not look for the marker. -/
theorem snapshot_agrees_iff {safe : Bool} {results : List CheckResult} :
    (∀ lib spec host baseline s, snapshot lib spec host baseline results = .ok s →
      s.status = layerStatus safe results) ↔
      (safe = true → ∃ r ∈ results, r.status = .error) := by
  constructor
  · rintro h rfl
    obtain ⟨s, hs⟩ := snapshot_absent swapLibraries shippedSpec (hostWith "141722072135") results
    have hsame := h _ _ _ _ s hs
    rw [snapshot_status hs, layerStatus, if_pos rfl] at hsame
    by_contra hnone
    rw [if_neg hnone] at hsame
    exact deriveStatus_ne_safe results hsame
  · intro h lib spec host baseline s hs
    rw [snapshot_status hs, layerStatus]
    split_ifs with hsafe herror
    · rw [deriveStatus, if_pos herror]
    · exact absurd (h hsafe) herror
    · rfl

/-- The summaries of any results agree exactly if three things hold: a layer where nothing raises
and no fixer covers what fails has a finding on the list, a check that raises is not alone with
checks that pass, and under the SAFE mode some check raises. -/
theorem agree_iff (safe : Bool) (results : List CheckResult) :
    Agree safe results ↔
      ((∃ r ∈ results, r.status = .fail) → (∀ r ∈ results, r.status ≠ .error) →
        (∀ r ∈ results, r.status = .fail → r.name ∉ allFixers) →
          ∃ r ∈ results, (r.name, r.status) ∈ listed) ∧
      ((∃ r ∈ results, r.status = .error) → ∃ r ∈ results, r.status = .warn ∨ r.status = .fail) ∧
      (safe = true → ∃ r ∈ results, r.status = .error) := by
  rw [← broken_listed_iff, ← recovered_healthy_iff, ← @snapshot_agrees_iff safe results]
  exact ⟨fun h => ⟨h.broken, h.recovered, h.snapshot⟩, fun h => ⟨h.1, h.2.1, h.2.2⟩⟩

/-- A smoke test with a status. -/
def smokeResult (status : Status) : CheckResult where
  name := "smoke"
  status := status
  summary := "ffmpeg не установлен (apt install ffmpeg)"

/-- A smoke test that fails breaks the layer, and nobody is asked; one that raises leaves nothing
behind; and a layer that is all right is SAFE for one summary and healthy for the other. -/
theorem smoke_disagrees : ¬ Agree false [smokeResult .fail] ∧ ¬ Agree false [smokeResult .error] ∧
    ¬ Agree true [smokeResult .ok] := by
  refine ⟨fun h => h.broken (by decide) (by decide), fun h => ?_, fun h => ?_⟩
  · exact absurd (h.recovered [] [] (by decide)) (by decide)
  · obtain ⟨s, hs⟩ := snapshot_absent swapLibraries shippedSpec (hostWith "141722072135")
      [smokeResult .ok]
    exact absurd ((snapshot_status hs).symm.trans (h.snapshot _ _ _ _ s hs)) (by decide)

end CameraStack.Bringup
