/-
# A swapped camera

A recovery checks, lets every fixer work on what is not OK, checks again, and lists what only a
human can settle.  A fingerprint that fails means that another camera is there, and is on the
list.  The fixer of the fingerprint does not know that list: it takes the new camera for the
baseline, the second pass finds nothing wrong, and nothing is listed.  A human is asked only if
the fixer does not get to the baseline.

The other fixers write neither the baseline nor the secret; what they return is given.
-/

import CameraStack.Lib.Machine
import CameraStack.Bringup.Fixer

namespace CameraStack.Bringup

open CameraStack.Lib

/-! ## What only a human can settle -/

/-- `HUMAN_REQUIRED`. -/
def humanRequired (name : String) (status : Status) : Option String :=
  if name = "usb_enumerate" then
    match status with
    | .fail => some "camera physically missing OR multiple D435i found (need physical action)"
    | .warn =>
        some "USB2 cable detected — replace with USB3 cable to unlock higher bandwidth (optional)"
    | _ => none
  else if name = "fingerprint" then
    match status with
    | .fail => some "camera identity mismatch — physical swap detected, confirm and re-baseline"
    | _ => none
  else if name = "firmware" then
    match status with
    | .warn => some "firmware below minimum — needs rs-fw-update (manual)"
    | _ => none
  else if name = "bandwidth" then
    match status with
    | .warn => some "stream profile near USB bandwidth limit — reduce fps/resolution or switch to USB3"
    | .fail => some "stream profile exceeds USB bandwidth — reduce fps/resolution"
    | _ => none
  else none

/-- The names of `ALL_FIXERS`. -/
def allFixers : List String := ["usb_power", "udev", "reset_tools", "fingerprint"]

/-- The entry of a check with a status in the list. -/
def humanEntry (name : String) (status : Status) : Option String :=
  match humanRequired name status with
  | none => none
  | some reason =>
      if name ∉ allFixers ∨ (name = "fingerprint" ∧ status = .fail) then
        some (name ++ ": " ++ reason)
      else none

/-- `_collect_human_required`. -/
def collectHumanRequired (results : List CheckResult) : List String :=
  results.filterMap fun r => humanEntry r.name r.status

/-- The entry of a fingerprint that fails. -/
def swapNotice : String :=
  "fingerprint: camera identity mismatch — physical swap detected, confirm and re-baseline"

/-- The names of the checks before the fingerprint. -/
def otherChecks : List String :=
  ["usb_enumerate", "usb_power", "uvcvideo", "udev", "dev_symlinks", "v4l2", "firmware",
    "bandwidth", "reset_tools", "smoke"]

/-- No other check has that entry. -/
theorem humanEntry_other (status : Status) :
    ∀ name ∈ otherChecks, humanEntry name status ≠ some swapNotice := by
  cases status with
  | ok | warn | fail | skip | error => decide

theorem humanEntry_fingerprint (status : Status) :
    humanEntry "fingerprint" status = if status = .fail then some swapNotice else none := by
  cases status with
  | ok | warn | fail | skip | error => decide

/-! ## A recovery -/

/-- `RecoveryResult`. -/
structure RecoveryResult where
  attempted : Bool
  appliedFixers : List String := []
  skippedFixers : List String := []
  failedFixers : List String := []
  unfixedFixers : List String := []
  remainingIssues : List String := []
  requiresHuman : List String := []

/-- What a recovery meets.  Each of its queries finds the host as it is then; the first pass of
the checks only fills the context that the hosts of the fixer carry. -/
structure RecoveryMeets where
  /-- The time and the reason in the marker of the SAFE mode. -/
  safe : Option (String × String) := none
  /-- What the fixers before that of the fingerprint return or raise. -/
  otherFixers : List (Except Raised FixerResult) := []
  preHost : Host
  planning : PlanMeets
  run : RunMeets := {}
  postHost : Host
  lastHost : Host
  /-- What the other checks of the last pass find. -/
  others : String → Status × String
  /-- The results of the first pass, where a dry run leaves it at that. -/
  cached : List CheckResult := []

section Recovery

variable (lib : Libraries) (spec : Spec)

/-- The fixer of the fingerprint, between the checks of two hosts. -/
def runFingerprintFixer (pre post : Host) (planning : PlanMeets) (dryRun : Bool) (run : RunMeets)
    (disk : Disk) : Except Raised FixerResult × Disk :=
  runFixer "fingerprint" (runCheck lib spec pre) (runCheck lib spec post)
    (fingerprintPlan lib spec planning) dryRun run disk

/-- The results of the last pass. -/
def lastPass (meets : RecoveryMeets) (disk : Disk) : List CheckResult :=
  (otherChecks.map fun name =>
    { name := name, status := (meets.others name).1, summary := (meets.others name).2 })
    ++ [runCheck lib spec meets.lastHost disk]

/-- The fixers with a status. -/
def fixersWith (status : FixerStatus) (results : List FixerResult) : List String :=
  (results.filter fun r => r.status = status).map FixerResult.name

/-- What is left of a pass. -/
def remainingIssues (results : List CheckResult) : List String :=
  (results.filter fun r => r.status = .warn || r.status = .fail).map fun r =>
    r.name ++ ": " ++ r.summary

/-- `L0.attempt_recovery`. -/
def attemptRecovery (meets : RecoveryMeets) (dryRun : Bool) (disk : Disk) :
    Except Raised RecoveryResult × Disk :=
  match meets.safe.filter fun _ => !dryRun with
  | some (ts, reason) =>
      (.ok
        { attempted := false
          remainingIssues :=
            ["L0 in SAFE mode since " ++ ts ++ " (reason: " ++ reason ++ "); apply blocked"]
          requiresHuman := ["exit_safe_mode() to allow apply"] }, disk)
  | none =>
      match meets.otherFixers.mapM id with
      | .error e => (.error e, disk)
      | .ok earlier =>
          let own := runFingerprintFixer lib spec meets.preHost meets.postHost meets.planning dryRun
            meets.run disk
          match own.1 with
          | .error e => (.error e, own.2)
          | .ok last =>
              let results := earlier ++ [last]
              let pass := if dryRun then [] else lastPass lib spec meets own.2
              (.ok
                { attempted := !dryRun
                  appliedFixers := fixersWith .applied results
                  skippedFixers := fixersWith .skipped results
                  failedFixers := fixersWith .failed results
                  unfixedFixers := fixersWith .unfixed results
                  remainingIssues := remainingIssues pass
                  requiresHuman :=
                    collectHumanRequired (if pass.isEmpty then meets.cached else pass) }, own.2)

/-- The fingerprint is listed if and only if its last check fails. -/
theorem listed_iff (meets : RecoveryMeets) (disk : Disk) :
    swapNotice ∈ collectHumanRequired (lastPass lib spec meets disk) ↔
      (runCheck lib spec meets.lastHost disk).status = .fail := by
  rw [collectHumanRequired, lastPass, List.filterMap_append, List.mem_append]
  constructor
  · rintro (hother | hown)
    · obtain ⟨r, hr, hentry⟩ := List.mem_filterMap.mp hother
      obtain ⟨name, hname, rfl⟩ := List.mem_map.mp hr
      exact absurd hentry (humanEntry_other _ name hname)
    · obtain ⟨r, hr, hentry⟩ := List.mem_filterMap.mp hown
      rw [List.mem_singleton.mp hr, runCheck_name, humanEntry_fingerprint] at hentry
      split_ifs at hentry with hfail
      exact hfail
  · intro hfail
    refine .inr (List.mem_filterMap.mpr ⟨_, List.mem_singleton_self _, ?_⟩)
    rw [runCheck_name, humanEntry_fingerprint, if_pos hfail]

/-! ## What a recovery leaves -/

section Fixer

variable {pre post : Host} {planning : PlanMeets} {run : RunMeets} {disk : Disk}

theorem fixer_skips (h : (runCheck lib spec pre disk).status = .ok) :
    (runFingerprintFixer lib spec pre post planning false run disk).2 = disk := by
  rw [runFingerprintFixer, runFixer]
  simp only [h, if_true]

variable (h : (runCheck lib spec pre disk).status ≠ .ok)

include h

theorem fixer_plan_raises {e : Raised} (hplan : plannedDocument lib spec planning disk = .error e) :
    runFingerprintFixer lib spec pre post planning false run disk = (.error e, disk) := by
  rw [runFingerprintFixer, runFixer, fingerprintPlan, hplan]
  simp only [h, if_false]
  rfl

variable {document : Members} (hplan : plannedDocument lib spec planning disk = .ok document)

include hplan

theorem fixer_lock_raises {e : Raised} (hlock : run.lockRaises = some e) :
    runFingerprintFixer lib spec pre post planning false run disk = (.error e, disk) := by
  rw [runFingerprintFixer, runFixer, fingerprintPlan, hplan]
  simp only [h, if_false, bind, Except.bind, pure, Except.pure, Bool.false_eq_true, hlock]

/-- With the lock, the fixer executes its plan and returns. -/
theorem fixer_runs (hlock : run.lockRaises = none) :
    (∃ r, (runFingerprintFixer lib spec pre post planning false run disk).1 = .ok r) ∧
      (runFingerprintFixer lib spec pre post planning false run disk).2 =
        (executeAll (preparations spec planning disk ++ [writeBaseline lib spec planning document])
          run.outcomes disk).disk := by
  rw [runFingerprintFixer, runFixer, fingerprintPlan, hplan]
  simp only [h, if_false, bind, Except.bind, pure, Except.pure, Bool.false_eq_true, hlock]
  split_ifs
  · exact ⟨⟨_, rfl⟩, rfl⟩
  · exact ⟨⟨_, rfl⟩, rfl⟩
  · exact ⟨⟨_, rfl⟩, rfl⟩

end Fixer

section Attempt

variable {meets : RecoveryMeets} {disk : Disk}

theorem recovery_safe (h : meets.safe ≠ none) :
    (attemptRecovery lib spec meets false disk).2 = disk := by
  obtain ⟨marker, hmarker⟩ := Option.ne_none_iff_exists'.mp h
  rw [attemptRecovery, hmarker]
  rfl

theorem recovery_raises (hsafe : meets.safe = none) {e : Raised}
    (hothers : meets.otherFixers.mapM id = .error e) :
    attemptRecovery lib spec meets false disk = (.error e, disk) := by
  rw [attemptRecovery, hsafe, hothers]
  rfl

variable (hsafe : meets.safe = none) {earlier : List FixerResult}
  (hothers : meets.otherFixers.mapM id = .ok earlier)

include hsafe hothers

/-- The disk is left to the fixer. -/
theorem recovery_disk : (attemptRecovery lib spec meets false disk).2 =
    (runFingerprintFixer lib spec meets.preHost meets.postHost meets.planning false meets.run
      disk).2 := by
  rw [attemptRecovery, hsafe, hothers]
  simp only [Option.filter_none]
  split
  · rfl
  · rfl

theorem recovery_error {e : Raised} (hown : (runFingerprintFixer lib spec meets.preHost
    meets.postHost meets.planning false meets.run disk).1 = .error e) :
    (attemptRecovery lib spec meets false disk).1 = .error e := by
  rw [attemptRecovery, hsafe, hothers]
  simp only [Option.filter_none, hown]

/-- A human is asked for what the last pass finds. -/
theorem recovery_ok {r : FixerResult} (hown : (runFingerprintFixer lib spec meets.preHost
    meets.postHost meets.planning false meets.run disk).1 = .ok r) :
    ∃ result, (attemptRecovery lib spec meets false disk).1 = .ok result ∧
      result.requiresHuman = collectHumanRequired (lastPass lib spec meets
        (runFingerprintFixer lib spec meets.preHost meets.postHost meets.planning false meets.run
          disk).2) := by
  rw [attemptRecovery, hsafe, hothers]
  simp only [Option.filter_none, hown]
  refine ⟨_, rfl, ?_⟩
  have hpass : ∀ d, (lastPass lib spec meets d).isEmpty = false := fun d => by
    rw [lastPass, otherChecks]
    rfl
  simp [hpass]

end Attempt

/-! ## Upkeep -/

/-- What happens to the files of the instance: a recovery, a pass of the checks, and an apply on
the command line that selects the fingerprint. -/
inductive UpkeepEvent
  | recovery (meets : RecoveryMeets)
  | checkPass (host : Host)
  | apply (pre post : Host) (planning : PlanMeets) (run : RunMeets)

/-- The files, event after event. -/
def upkeepMachine : Machine Disk UpkeepEvent Unit where
  step disk
    | .recovery meets => ((attemptRecovery lib spec meets false disk).2, [])
    | .checkPass _ => (disk, [])
    | .apply pre post planning run =>
        ((runFingerprintFixer lib spec pre post planning false run disk).2, [])

/-- A recovery finds the fingerprint failed. -/
def FindsSwap (disk : Disk) (meets : RecoveryMeets) : Prop :=
  meets.safe = none ∧ (runCheck lib spec meets.preHost disk).status = .fail

/-- It leaves the baseline as it is and asks for a human. -/
structure Escalates (disk : Disk) (meets : RecoveryMeets) : Prop where
  unchanged : (attemptRecovery lib spec meets false disk).2.file spec.fingerprintPath =
    disk.file spec.fingerprintPath
  listed : ∃ result, (attemptRecovery lib spec meets false disk).1 = .ok result ∧
    swapNotice ∈ result.requiresHuman

/-- The vendor, the product and the serial number in a baseline that can be loaded. -/
def recordedIdentity (content : FileContent) : Option (Json × Json × Json) :=
  match content with
  | .text value =>
      match lib.loads value with
      | .value (.obj baseline) =>
          match (baseline.lookup "camera").getD (.obj []) with
          | .obj camera =>
              some ((camera.lookup "vendor_id").getD .null, (camera.lookup "product_id").getD .null,
                (camera.lookup "serial").getD .null)
          | _ => none
      | _ => none
  | _ => none

/-- An identity that was recorded still is. -/
def KeepsIdentity (before after : FileContent) : Prop :=
  ∀ identity, recordedIdentity lib before = some identity →
    recordedIdentity lib after = some identity

/-- No event but an apply accepts another camera. -/
def AcceptsNoSwap (disk : Disk) : UpkeepEvent → Prop
  | .recovery meets =>
      (FindsSwap lib spec disk meets → Escalates lib spec disk meets) ∧
        KeepsIdentity lib (disk.file spec.fingerprintPath)
          ((attemptRecovery lib spec meets false disk).2.file spec.fingerprintPath)
  | .checkPass host =>
      KeepsIdentity lib (disk.file spec.fingerprintPath)
        (((upkeepMachine lib spec).next disk (.checkPass host)).file spec.fingerprintPath)
  | .apply .. => True

/-- The fixer of a recovery does not get to the baseline: nothing raises, and the host fails one
of the actions, or there is nothing new to write. -/
def Spares (disk : Disk) (meets : RecoveryMeets) : Prop :=
  (∃ earlier, meets.otherFixers.mapM id = .ok earlier) ∧ meets.run.lockRaises = none ∧
    ∃ document, plannedDocument lib spec meets.planning disk = .ok document ∧
      (FailsWithin (planLength spec meets.planning disk) meets.run.outcomes ∨
        disk.file spec.fingerprintPath = .text (baselineText lib document))

/-- The last check still fails on that baseline, with the secret as it is then. -/
def Refinds (disk : Disk) (meets : RecoveryMeets) : Prop :=
  (runCheck lib spec meets.lastHost (disk.write spec.hmacSecretPath
    (secretAfter spec meets.planning meets.run.outcomes disk))).status = .fail

/-- The fixer of a recovery writes a document. -/
def Rewrites (disk : Disk) (meets : RecoveryMeets) (document : Members) : Prop :=
  meets.safe = none ∧ (∃ earlier, meets.otherFixers.mapM id = .ok earlier) ∧
    meets.run.lockRaises = none ∧ (runCheck lib spec meets.preHost disk).status ≠ .ok ∧
    plannedDocument lib spec meets.planning disk = .ok document ∧
    ¬ FailsWithin (planLength spec meets.planning disk) meets.run.outcomes

/-- The identity a plan records. -/
def plannedIdentity (planning : PlanMeets) : Json × Json × Json :=
  (.str spec.vendorId, .str spec.productId, (planning.host.answer "serial").sorted)

/-- A recovery that finds the fingerprint failed does not get to the baseline and finds it failed
again; and one that rewrites the baseline finds the camera that is recorded. -/
def Careful (disk : Disk) : UpkeepEvent → Prop
  | .recovery meets =>
      (FindsSwap lib spec disk meets → Spares lib spec disk meets ∧ Refinds lib spec disk meets) ∧
        ∀ document, Rewrites lib spec disk meets document →
          ∀ identity, recordedIdentity lib (disk.file spec.fingerprintPath) = some identity →
            identity = plannedIdentity spec meets.planning
  | .checkPass _ | .apply .. => True

/-- What a recovery plans can be read back. -/
def ReadsPlans (disk : Disk) : UpkeepEvent → Prop
  | .recovery meets => ∀ document, plannedDocument lib spec meets.planning disk = .ok document →
      ReadsBack lib document
  | .checkPass _ | .apply .. => True

/-! ## Identities -/

/-- A planned document describes the camera of the plan. -/
theorem planned_camera {planning : PlanMeets} {disk : Disk} {document : Members}
    (h : plannedDocument lib spec planning disk = .ok document) :
    document.lookup "camera" = some (describeCamera spec planning.host) := by
  obtain ⟨baseline, fp, -, hfp, rfl⟩ := plannedDocument_eq lib spec h
  obtain ⟨history, firstSeen, value, count, -, -, -, -, rfl⟩ := buildFingerprint_eq spec hfp
  rw [lookup_signed lib (by decide)]
  rfl

/-- And that is what is recorded when it is read back. -/
theorem planned_recorded {planning : PlanMeets} {disk : Disk} {document : Members}
    (h : plannedDocument lib spec planning disk = .ok document) (hreads : ReadsBack lib document) :
    recordedIdentity lib (.text (baselineText lib document)) =
      some (plannedIdentity spec planning) := by
  rw [recordedIdentity, hreads]
  simp only [Json.sorted, lookup_sorted, planned_camera lib spec h, Option.map_some, Option.getD_some,
    describeCamera]
  rfl

/-- The check reads two files. -/
theorem runCheck_congr (host : Host) {disk disk' : Disk}
    (hfingerprint : disk'.file spec.fingerprintPath = disk.file spec.fingerprintPath)
    (hsecret : disk'.file spec.hmacSecretPath = disk.file spec.hmacSecretPath) :
    runCheck lib spec host disk' = runCheck lib spec host disk := by
  rw [runCheck, runCheck, check, check, hfingerprint, hsecret]

/-- Only a text can fail the check. -/
theorem text_of_fail {host : Host} {disk : Disk}
    (h : (runCheck lib spec host disk).status = .fail) :
    ∃ value, disk.file spec.fingerprintPath = .text value := by
  cases hcontent : disk.file spec.fingerprintPath with
  | text value => exact ⟨value, rfl⟩
  | absent | unreadable | undecodable =>
      rw [runCheck, check, hcontent] at h
      cases h

/-! ## What becomes of the recorded identity -/

section Accepts

variable {meets : RecoveryMeets} {disk : Disk}

/-- What a rewriting recovery leaves. -/
theorem rewrites_disk {document : Members} (h : Rewrites lib spec disk meets document) :
    (attemptRecovery lib spec meets false disk).2 =
      (executeAll (preparations spec meets.planning disk ++
        [writeBaseline lib spec meets.planning document]) meets.run.outcomes disk).disk := by
  obtain ⟨hsafe, ⟨earlier, hothers⟩, hlock, hpre, hplan, -⟩ := h
  rw [recovery_disk lib spec hsafe hothers]
  exact (fixer_runs lib spec hpre hplan hlock).2

theorem rewrites_file {document : Members} (h : Rewrites lib spec disk meets document)
    (hwritable : (disk.file spec.fingerprintPath).Writable) :
    (attemptRecovery lib spec meets false disk).2.file spec.fingerprintPath =
      .text (baselineText lib document) := by
  rw [rewrites_disk lib spec h, execute_plan_fingerprint _ _ _ _ _ _ hwritable]
  exact if_neg h.2.2.2.2.2

/-- Any other recovery leaves the baseline as it is. -/
theorem spared_file (h : ∀ document, ¬ Rewrites lib spec disk meets document)
    (hwritable : (disk.file spec.fingerprintPath).Writable) :
    (attemptRecovery lib spec meets false disk).2.file spec.fingerprintPath =
      disk.file spec.fingerprintPath := by
  by_cases hsafe : meets.safe = none
  · cases hothers : meets.otherFixers.mapM id with
    | error e => rw [recovery_raises lib spec hsafe hothers]
    | ok earlier =>
        rw [recovery_disk lib spec hsafe hothers]
        by_cases hpre : (runCheck lib spec meets.preHost disk).status = .ok
        · rw [fixer_skips lib spec hpre]
        · cases hplan : plannedDocument lib spec meets.planning disk with
          | error e => rw [fixer_plan_raises lib spec hpre hplan]
          | ok document =>
              cases hlock : meets.run.lockRaises with
              | some e => rw [fixer_lock_raises lib spec hpre hplan hlock]
              | none =>
                  rw [(fixer_runs lib spec hpre hplan hlock).2,
                    execute_plan_fingerprint _ _ _ _ _ _ hwritable]
                  refine if_pos (not_not.mp fun hwrites => h document ?_)
                  exact ⟨hsafe, ⟨earlier, hothers⟩, hlock, hpre, hplan, hwrites⟩
  · rw [recovery_safe lib spec hsafe]

/-- An identity that is recorded stays if every rewriting recovery plans the same one. -/
theorem keepsIdentity_iff (hreads : ReadsPlans lib spec disk (.recovery meets)) :
    KeepsIdentity lib (disk.file spec.fingerprintPath)
        ((attemptRecovery lib spec meets false disk).2.file spec.fingerprintPath) ↔
      ∀ document, Rewrites lib spec disk meets document →
        ∀ identity, recordedIdentity lib (disk.file spec.fingerprintPath) = some identity →
          identity = plannedIdentity spec meets.planning := by
  have hwritable : ∀ identity,
      recordedIdentity lib (disk.file spec.fingerprintPath) = some identity →
        (disk.file spec.fingerprintPath).Writable := by
    intro identity hrecorded
    cases hcontent : disk.file spec.fingerprintPath with
    | text value => exact .inr ⟨value, rfl⟩
    | absent | unreadable | undecodable =>
        rw [hcontent] at hrecorded
        cases hrecorded
  constructor
  · intro hkeeps document hrewrites identity hrecorded
    have hafter := hkeeps identity hrecorded
    have hplan := hrewrites.2.2.2.2.1
    rw [rewrites_file lib spec hrewrites (hwritable identity hrecorded),
      planned_recorded lib spec hplan (hreads document hplan)] at hafter
    exact (Option.some.inj hafter).symm
  · intro hsame identity hrecorded
    by_cases hrewrites : ∃ document, Rewrites lib spec disk meets document
    · obtain ⟨document, hdocument⟩ := hrewrites
      have hplan := hdocument.2.2.2.2.1
      rw [rewrites_file lib spec hdocument (hwritable identity hrecorded),
        planned_recorded lib spec hplan (hreads document hplan),
        hsame document hdocument identity hrecorded]
    · rw [spared_file lib spec (not_exists.mp hrewrites) (hwritable identity hrecorded)]
      exact hrecorded

/-- A recovery that finds the fingerprint failed escalates if it does not get to the baseline and
finds it failed again. -/
theorem escalates_iff (hfinds : FindsSwap lib spec disk meets) :
    Escalates lib spec disk meets ↔
      Spares lib spec disk meets ∧ Refinds lib spec disk meets := by
  obtain ⟨hsafe, hfail⟩ := hfinds
  have hpre : (runCheck lib spec meets.preHost disk).status ≠ .ok := by
    rw [hfail]
    decide
  have hwritable : (disk.file spec.fingerprintPath).Writable := .inr (text_of_fail lib spec hfail)
  -- Nothing is listed unless the fixers return.
  have hreturns : (∃ earlier document, meets.otherFixers.mapM id = .ok earlier ∧
      meets.run.lockRaises = none ∧ plannedDocument lib spec meets.planning disk = .ok document) ∨
        ∃ e, (attemptRecovery lib spec meets false disk).1 = .error e := by
    cases hothers : meets.otherFixers.mapM id with
    | error e => exact .inr ⟨e, by rw [recovery_raises lib spec hsafe hothers]⟩
    | ok earlier =>
        cases hplan : plannedDocument lib spec meets.planning disk with
        | error e =>
            refine .inr ⟨e, recovery_error lib spec hsafe hothers ?_⟩
            rw [fixer_plan_raises lib spec hpre hplan]
        | ok document =>
            cases hlock : meets.run.lockRaises with
            | none => exact .inl ⟨earlier, document, rfl, rfl, rfl⟩
            | some e =>
                refine .inr ⟨e, recovery_error lib spec hsafe hothers ?_⟩
                rw [fixer_lock_raises lib spec hpre hplan hlock]
  rcases hreturns with ⟨earlier, document, hothers, hlock, hplan⟩ | ⟨e, hraises⟩
  · have hruns := @fixer_runs lib spec meets.preHost meets.postHost _ _ _ hpre _ hplan hlock
    obtain ⟨r, hr⟩ := hruns.1
    obtain ⟨result, hresult, hlisted⟩ := recovery_ok lib spec hsafe hothers hr
    have hdisk := (recovery_disk lib spec hsafe hothers).trans hruns.2
    have hfile : (attemptRecovery lib spec meets false disk).2.file spec.fingerprintPath =
        disk.file spec.fingerprintPath ↔ Spares lib spec disk meets := by
      rw [hdisk, execute_plan_fingerprint _ _ _ _ _ _ hwritable]
      constructor
      · intro hsame
        refine ⟨⟨earlier, hothers⟩, hlock, document, hplan, ?_⟩
        by_cases hfails : FailsWithin (planLength spec meets.planning disk) meets.run.outcomes
        · exact .inl hfails
        · exact .inr (((if_neg hfails).symm.trans hsame).symm)
      · rintro ⟨-, -, document', hplan', hspares⟩
        cases hplan.symm.trans hplan'
        rcases hspares with hfails | hsame
        · exact if_pos hfails
        · rw [hsame]
          exact ite_self _
    have hrefinds : (attemptRecovery lib spec meets false disk).2.file spec.fingerprintPath =
        disk.file spec.fingerprintPath →
          (swapNotice ∈ result.requiresHuman ↔ Refinds lib spec disk meets) := by
      intro hsame
      have hfiles : ∀ d, d.file spec.fingerprintPath = disk.file spec.fingerprintPath →
          d.file spec.hmacSecretPath = secretAfter spec meets.planning meets.run.outcomes disk →
            runCheck lib spec meets.lastHost d = runCheck lib spec meets.lastHost
              (disk.write spec.hmacSecretPath
                (secretAfter spec meets.planning meets.run.outcomes disk)) := by
        intro d hfingerprint hsecret
        refine runCheck_congr lib spec _ ?_ ?_
        · rw [hfingerprint, Disk.write_other _ spec.apart]
        · rw [hsecret, Disk.write_same]
      rw [hlisted, listed_iff, Refinds, ← recovery_disk lib spec hsafe hothers, hfiles _ hsame]
      rw [hdisk, execute_plan_secret]
    constructor
    · rintro ⟨hsame, result', hresult', hin⟩
      cases hresult.symm.trans hresult'
      exact ⟨hfile.mp hsame, (hrefinds hsame).mp hin⟩
    · rintro ⟨hspares, hagain⟩
      have hsame := hfile.mpr hspares
      exact ⟨hsame, result, hresult, (hrefinds hsame).mpr hagain⟩
  · constructor
    · rintro ⟨-, result, hresult, -⟩
      cases hraises.symm.trans hresult
    · rintro ⟨⟨⟨earlier, hothers⟩, hlock, document, hplan, -⟩, -⟩
      obtain ⟨r, hr⟩ := (@fixer_runs lib spec meets.preHost meets.postHost _ _ _ hpre _ hplan hlock).1
      obtain ⟨result, hresult, -⟩ := recovery_ok lib spec hsafe hothers hr
      cases hraises.symm.trans hresult

/-- One event accepts no swap if and only if it is careful. -/
theorem acceptsNoSwap_iff {e : UpkeepEvent} (hreads : ReadsPlans lib spec disk e) :
    AcceptsNoSwap lib spec disk e ↔ Careful lib spec disk e := by
  cases e with
  | recovery meets =>
      exact and_congr (imp_congr_right fun hfinds => escalates_iff lib spec hfinds)
        (keepsIdentity_iff lib spec hreads)
  | checkPass host => exact ⟨fun _ => trivial, fun _ identity hrecorded => hrecorded⟩
  | apply => exact Iff.rfl

end Accepts

end Recovery

/-- In every run, recoveries accept no swap if and only if they are careful, where what they plan
can be read back. -/
theorem recoveries_accept_no_swap (lib : Libraries) (spec : Spec) (disk : Disk)
    (events : List UpkeepEvent)
    (hreads : (upkeepMachine lib spec).Along (ReadsPlans lib spec) disk events) :
    (upkeepMachine lib spec).Along (AcceptsNoSwap lib spec) disk events ↔
      (upkeepMachine lib spec).Along (Careful lib spec) disk events := by
  constructor
  · intro haccepts
    exact (hreads.and _ haccepts).imp _ fun d e h => (acceptsNoSwap_iff lib spec h.1).mp h.2
  · intro hcareful
    exact (hreads.and _ hcareful).imp _ fun d e h => (acceptsNoSwap_iff lib spec h.1).mpr h.2

/-! ## Another camera on the same host -/

/-- What is computed of the baseline of one camera and the fingerprint of another. -/
def swapLibraries : Libraries where
  loads text :=
    if text = textWith "" "141722072136" "2026-06-20T08:00:00Z" "2" ++ "\n" then
      .value (Json.sorted (.obj (documentWith "141722072136" "2026-06-20T08:00:00Z" 2)))
    else if text = textWith "" "141722072135" "2026-06-14T08:00:00Z" "1" ++ "\n" then
      .value (Json.sorted (.obj (documentWith "141722072135" "2026-06-14T08:00:00Z" 1)))
    else .decodeError
  dumps _ := textWith "" "141722072136" "2026-06-20T08:00:00Z" "2"
  compact _ := ""
  repr
    | .str value => "'" ++ value ++ "'"
    | _ => "None"
  hmac _ _ := ""

/-- The baseline of the first camera, from before there was a secret. -/
def firstBaseline : Disk :=
  diskWith (.text (textWith "" "141722072135" "2026-06-14T08:00:00Z" "1" ++ "\n")) .absent

/-- A recovery that finds the second camera. -/
def swapRecovery (outcomes : List Outcome) : RecoveryMeets where
  preHost := hostWith "141722072136"
  planning := planWith "141722072136" "2026-06-20T08:00:00Z" "00112233"
  run := { outcomes := outcomes }
  postHost := hostWith "141722072136"
  lastHost := hostWith "141722072136"
  others _ := (.ok, "")

theorem swap_fails : (runCheck swapLibraries shippedSpec (hostWith "141722072136")
    firstBaseline).status = .fail := by
  decide +kernel

set_option maxRecDepth 20000 in
theorem swap_planned : plannedDocument swapLibraries shippedSpec
    (planWith "141722072136" "2026-06-20T08:00:00Z" "00112233") firstBaseline =
      .ok (documentWith "141722072136" "2026-06-20T08:00:00Z" 2) :=
  rfl

theorem swap_reads (outcomes : List Outcome) :
    (upkeepMachine swapLibraries shippedSpec).Along (ReadsPlans swapLibraries shippedSpec)
      firstBaseline [.recovery (swapRecovery outcomes)] := by
  refine ⟨fun document hplan => ?_, trivial⟩
  cases swap_planned.symm.trans hplan
  simp only [ReadsBack, baselineText, swapLibraries, if_true]

/-- The disk is full when the fixer gets to the baseline. -/
theorem recoveries_accept_no_swap_disk_full :
    (upkeepMachine swapLibraries shippedSpec).Along (AcceptsNoSwap swapLibraries shippedSpec)
        firstBaseline [.recovery (swapRecovery [.done, .done, .done, .fails "ENOSPC"])] ∧
      FindsSwap swapLibraries shippedSpec firstBaseline
        (swapRecovery [.done, .done, .done, .fails "ENOSPC"]) := by
  refine ⟨?_, rfl, swap_fails⟩
  refine (recoveries_accept_no_swap swapLibraries shippedSpec firstBaseline _ (swap_reads _)).mpr ?_
  refine ⟨⟨fun _ => ⟨?_, ?_⟩, ?_⟩, trivial⟩
  · exact ⟨⟨[], rfl⟩, rfl, _, swap_planned, .inl (by decide +kernel)⟩
  · unfold Refinds
    decide +kernel
  · rintro document ⟨-, -, -, -, -, hwrites⟩
    exact absurd (by decide +kernel) hwrites

/-- Where nothing fails, the second camera is taken for the baseline. -/
theorem recovery_accepts_swap :
    ¬ ∀ (lib : Libraries) (spec : Spec) (disk : Disk) (events : List UpkeepEvent),
      (upkeepMachine lib spec).Along (ReadsPlans lib spec) disk events →
        (upkeepMachine lib spec).Along (AcceptsNoSwap lib spec) disk events := by
  intro hclaim
  have haccepts := (hclaim swapLibraries shippedSpec firstBaseline _ (swap_reads [])).1
  have hunchanged := (haccepts.1 ⟨rfl, swap_fails⟩).unchanged
  have hrewrites : Rewrites swapLibraries shippedSpec firstBaseline (swapRecovery [])
      (documentWith "141722072136" "2026-06-20T08:00:00Z" 2) := by
    refine ⟨rfl, ⟨[], rfl⟩, rfl, ?_, swap_planned, by decide +kernel⟩
    change (runCheck swapLibraries shippedSpec (hostWith "141722072136") firstBaseline).status ≠ _
    rw [swap_fails]
    decide
  rw [rewrites_file _ _ hrewrites (.inr ⟨_, rfl⟩)] at hunchanged
  exact absurd hunchanged (by decide +kernel)

end CameraStack.Bringup
