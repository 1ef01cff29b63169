/-
# Edits during an apply

The apply lock keeps other applies out, but an editor takes no lock.  The engine reads
the file four times: for the base match, for the bytes a rollback restores, for the
hash the write expects, and once more right before the write.  The last two are
compared with each other, not with the first, so an edit between the base match and
the third reading becomes the expected content.

`edit_detected_iff` says which edits are noticed.
-/

import CameraStack.Runtime.Stages

namespace CameraStack.Runtime

open CameraStack.Lib

/-! ## Readings -/

/-- The places up to the base match. -/
def upToBase : List Site := checkSites.take 6

/-- The places up to the reading whose hash the write expects. -/
def upToPriorHash : List Site := checkSites ++ captureSites

/-- The places up to the hash right before the write. -/
def upToRehash : List Site := upToPriorHash ++ [.markApplying, .rehash]

section Runs

variable {host : Host} {sur : Surroundings} {w w' : World} {rid confirm : String} {r : Revision}
  {webrtc : WebRtcPatch} {updates : Updates} {status : Status} {site : Site}

theorem World.at_at (sites sites' : List Site) :
    (w.at sur sites).at sur sites' = w.at sur (sites ++ sites') := by
  simp only [World.at, Surroundings.fileAfter_append]

theorem setStatus_of_passes (hpass : sur.Passes site) (hid : validId rid = true)
    (hentry : w.journal[rid]? = some (.record r)) :
    setStatus site rid status sur w = (.ok true, (w.at sur [site]).mark rid r status) := by
  simp only [setStatus, Action.run_bind, Action.run_get, hid, if_true, hentry,
    reach_of_passes hpass]
  rfl

/-- The hash the write will expect is the one of the last reading of the capture. -/
theorem capture_of_passes (host : Host) (updates : Updates) (w : World)
    (hpass : ∀ site ∈ captureSites, sur.Passes site) :
    ∃ prior, capture host updates sur w = (.ok prior, w.at sur captureSites) ∧
      prior.hash = host.hash (sur.fileAfter captureSites w.file) := by
  have hbytes := reach_of_passes (w := w) (hpass .priorBytes (by decide))
  have hmode : fileMode .priorMode sur (w.at sur [.priorBytes]) =
      (.ok _, (w.at sur [.priorBytes]).at sur [.priorMode]) :=
    fileMode_eq_ok.mpr ⟨hpass .priorMode (by decide), rfl, rfl⟩
  have hhash : currentHash host .priorHash sur ((w.at sur [.priorBytes]).at sur [.priorMode]) =
      (.ok _, ((w.at sur [.priorBytes]).at sur [.priorMode]).at sur [.priorHash]) :=
    currentHash_eq_ok.mpr ⟨hpass .priorHash (by decide), rfl, rfl⟩
  refine ⟨{
    content := (w.at sur [.priorBytes]).file.map EnvFile.content
    mode := (w.at sur [.priorBytes, .priorMode]).file.elim defaultMode EnvFile.mode
    environ := priorOs w.environ updates
    hash := host.hash (sur.fileAfter captureSites w.file) }, ?_, rfl⟩
  rw [capture, Action.run_bind_ok hbytes, Action.run_bind, Action.run_get]
  dsimp only
  rw [Action.run_bind_ok hmode, Action.run_bind_ok hhash]
  rfl

/-! ## Drift -/

/-- `DriftError` is raised by one comparison only. -/
def NotDrift (x : Halt) : Prop := x ≠ .raised .drift

theorem reach_notDrift : Action.Stops sur NotDrift (reach site) := by
  intro w x w' h
  rw [run_reach] at h
  simp only [Prod.mk.injEq] at h
  rcases h with ⟨h, -⟩
  split at h
  · cases h
    exact Halt.noConfusion
  · split at h
    · cases h
      simp [NotDrift]
    · cases h

theorem currentHash_notDrift : Action.Stops sur NotDrift (currentHash host site) :=
  .bind reach_notDrift fun _ => .bind .get fun _ => .pure _

theorem fileMode_notDrift : Action.Stops sur NotDrift (fileMode site) :=
  .bind reach_notDrift fun _ => .bind .get fun _ => .pure _

theorem replaceFile_notDrift {file : Option EnvFile} :
    Action.Stops sur NotDrift (replaceFile site file) :=
  .bind reach_notDrift fun _ => .modify _

theorem readKeysAt_notDrift : Action.Stops sur NotDrift (readKeysAt site) := by
  refine .bind reach_notDrift fun _ => .bind .get fun w => ?_
  cases readKeys w.file with
  | some keys => exact .pure _
  | none => exact .halt (by simp [NotDrift])

/-- Behind the comparison, the write can fail but not with a drift. -/
theorem writeLocked_notDrift (hpass : sur.Passes .rehash) {expected : String}
    (hsame : host.hash (w.at sur [.rehash]).file = expected) {x : Halt}
    (h : writeLocked host updates.items expected sur w = (.error x, w')) : NotDrift x := by
  have hnow : currentHash host .rehash sur w = (.ok expected, w.at sur [.rehash]) :=
    currentHash_eq_ok.mpr ⟨hpass, rfl, hsame.symm⟩
  have hforeign : NotDrift (.raised .foreignKey) := by simp [NotDrift]
  simp only [writeLocked, allowlisted_items, Bool.not_true, Bool.false_eq_true, if_false] at h
  rw [Action.run_bind_ok hnow, if_neg (by simp)] at h
  -- the rest of the write, from its reading of the file on
  refine Action.Stops.bind readKeysAt_notDrift (fun cur => ?_) _ _ _ h
  split
  · exact .halt hforeign
  · split
    · exact .halt hforeign
    · exact .bind fileMode_notDrift fun _ =>
        .bind replaceFile_notDrift fun _ => currentHash_notDrift

/-- When the file is not the expected one, the write stops before it touches it. -/
theorem writeLocked_drift (hpass : sur.Passes .rehash) {expected : String}
    (hdiffer : host.hash (w.at sur [.rehash]).file ≠ expected) :
    writeLocked host updates.items expected sur w =
      (.error (.raised .drift), w.at sur [.rehash]) := by
  have hnow : currentHash host .rehash sur w =
      (.ok (host.hash (w.at sur [.rehash]).file), w.at sur [.rehash]) :=
    currentHash_eq_ok.mpr ⟨hpass, rfl, rfl⟩
  simp only [writeLocked, allowlisted_items, Bool.not_true, Bool.false_eq_true, if_false]
  rw [Action.run_bind_ok hnow, if_pos hdiffer]
  rfl

/-- What follows the write reports no drift. -/
def NoDrift (result : ApplyResult) : Prop := result.outcome ≠ .drift

theorem rollback_noDrift {prior : Prior} : Action.Yields sur NoDrift (rollback rid prior) := by
  refine .bind fun _ => .bind fun _ => ?_
  intro w result w' h
  rw [exceptException, Action.run_catching] at h
  have hbody : Action.Yields sur NoDrift (do
      replaceFile .restore
        (prior.content.map fun content => { content := content, mode := prior.mode })
      let _ ← setStatus .markRolledBack rid .rolledBack
      pure { outcome := .rolledBack, detail := .verifyFailed } : App ApplyResult) :=
    .bind fun _ => .bind fun _ => .pure Outcome.noConfusion
  split at h
  · next hrun =>
      cases h
      exact hbody _ _ _ hrun
  · next x _ _ =>
      cases x with
      | crashed => cases h
      | raised e =>
          have hhandler : Action.Yields sur NoDrift (do
              let _ ← setStatus .markRollbackFailed rid .rollbackFailed
              pure { outcome := .rollbackFailed, detail := .rollbackFailed e } : App ApplyResult) :=
            .bind fun _ => .pure Outcome.noConfusion
          exact hhandler _ _ _ h

theorem finish_noDrift {prior : Prior} :
    Action.Yields sur NoDrift (finish host rid webrtc updates prior) := by
  refine .bind fun _ => .bind fun ok => ?_
  cases ok with
  | true => exact .bind fun _ => .pure Outcome.noConfusion
  | false => exact rollback_noDrift

/-- A file that is the expected one is written, or the write fails otherwise. -/
theorem writeStage_same {prior : Prior} (hpass : sur.Passes .rehash)
    (hsame : host.hash (w.at sur [.rehash]).file = prior.hash) {result : ApplyResult}
    (h : writeStage host rid updates prior sur w = (.ok (some result), w')) : NoDrift result := by
  rw [writeStage, exceptException, Action.run_catching, Action.run_bind] at h
  cases hrun : writeLocked host updates.items prior.hash sur w with
  | mk answer w₁ =>
      rw [hrun] at h
      cases answer with
      | ok hash => cases h
      | error x =>
          have hother : NotDrift x := writeLocked_notDrift hpass hsame hrun
          cases x with
          | crashed => cases h
          | raised e =>
              cases e with
              | drift => exact absurd rfl hother
              | _ =>
                  obtain ⟨_, _, _, hanswer⟩ := Action.bind_eq_ok.mp h
                  cases hanswer
                  exact Outcome.noConfusion

/-- A file that is not the expected one stays. -/
theorem writeStage_differ {prior : Prior} (updates : Updates) (hpass : ∀ site, sur.Passes site)
    (hid : validId rid = true) (hentry : w.journal[rid]? = some (.record r))
    (hdiffer : host.hash (w.at sur [.rehash]).file ≠ prior.hash) :
    writeStage host rid updates prior sur w =
      (.ok (some { outcome := .drift, detail := .changedDuringApply }),
        (w.at sur [.rehash, .markDrift]).mark rid r .validated) := by
  have hmark : setStatus .markDrift rid .validated sur (w.at sur [.rehash]) =
      (.ok true, ((w.at sur [.rehash]).at sur [.markDrift]).mark rid r .validated) :=
    setStatus_of_passes (hpass _) hid hentry
  rw [writeStage, exceptException, Action.run_catching,
    Action.run_bind_error (writeLocked_drift (hpass _) hdiffer)]
  dsimp only
  rw [Action.run_bind_ok hmark]
  rfl

/-- A call that passes its checks and does not find the target in force goes on to the
write, with the hash of the third reading. -/
theorem applyRevision_writes (hpass : ∀ site, sur.Passes site)
    (hproceeds : Proceeds host sur w rid confirm r webrtc updates)
    (htarget : atTarget host sur w updates = false) :
    ∃ prior, prior.hash = host.hash (sur.fileAfter upToPriorHash w.file) ∧
      applyRevision host rid confirm sur w =
        (do
          match ← writeStage host rid updates prior with
          | some result => pure result
          | none => finish host rid webrtc updates prior : App ApplyResult) sur
          (((w.checked host sur).at sur (captureSites ++ [.markApplying])).mark rid r
            .applying) := by
  have hchecks := enter_eq_inr.mpr ⟨⟨r, hproceeds⟩, rfl, rfl⟩
  obtain ⟨prior, hcapture, hhash⟩ :=
    capture_of_passes host updates (w.checked host sur) fun site _ => hpass site
  have hmark : setStatus .markApplying rid .applying sur ((w.checked host sur).at sur captureSites) =
      (.ok true, ((w.checked host sur).at sur (captureSites ++ [.markApplying])).mark rid r
        .applying) := by
    rw [← World.at_at]
    exact setStatus_of_passes (hpass _) hproceeds.id hproceeds.record
  refine ⟨prior, ?_, ?_⟩
  · rw [hhash, upToPriorHash, Surroundings.fileAfter_append]
    rfl
  · rw [applyRevision_eq, Action.run_bind_ok hchecks, conclude, htarget]
    simp only [Bool.false_eq_true, if_false]
    rw [Action.run_bind_ok hcapture, activate]
    exact Action.run_bind_ok hmark

/-! ## Edits -/

/-- The call gets as far as the reading right before the write. -/
def Rehashes (host : Host) (sur : Surroundings) (w : World) (rid confirm : String) : Prop :=
  ∃ r webrtc updates, Proceeds host sur w rid confirm r webrtc updates ∧
    atTarget host sur w updates = false

/-- Whatever editors put into the file between the base match and the reading right before
the write, if it has not the hash of the base, the call reports a drift and it is still
there; an editor may come once more before the status is set back. -/
def KeepsEdits (host : Host) (sur : Surroundings) (w : World) (rid confirm : String) : Prop :=
  Rehashes host sur w rid confirm →
    host.hash (sur.fileAfter upToRehash w.file) ≠ host.hash (sur.fileAfter upToBase w.file) →
      callOutcome (applyRevision host rid confirm sur w) = some .drift ∧
        (applyRevision host rid confirm sur w).2.file =
          sur.fileAfter [.markDrift] (sur.fileAfter upToRehash w.file)

theorem drift_of_differ (hpass : ∀ site, sur.Passes site)
    (hproceeds : Proceeds host sur w rid confirm r webrtc updates)
    (htarget : atTarget host sur w updates = false)
    (hdiffer : host.hash (sur.fileAfter upToPriorHash w.file) ≠
      host.hash (sur.fileAfter upToRehash w.file)) :
    callOutcome (applyRevision host rid confirm sur w) = some .drift ∧
      (applyRevision host rid confirm sur w).2.file =
        sur.fileAfter [.markDrift] (sur.fileAfter upToRehash w.file) := by
  obtain ⟨prior, hprior, hcall⟩ := applyRevision_writes hpass hproceeds htarget
  have hstage := writeStage_differ updates hpass hproceeds.id
    (World.journal_mark ((w.checked host sur).at sur (captureSites ++ [.markApplying])) rid r
      .applying) (by rw [hprior]; exact hdiffer.symm)
  rw [hcall, Action.run_bind_ok hstage]
  exact ⟨rfl, rfl⟩

theorem not_drift_of_same (hpass : ∀ site, sur.Passes site)
    (hproceeds : Proceeds host sur w rid confirm r webrtc updates)
    (htarget : atTarget host sur w updates = false)
    (hsame : host.hash (sur.fileAfter upToPriorHash w.file) =
      host.hash (sur.fileAfter upToRehash w.file)) :
    callOutcome (applyRevision host rid confirm sur w) ≠ some .drift := by
  obtain ⟨prior, hprior, hcall⟩ := applyRevision_writes hpass hproceeds htarget
  rw [hcall, Action.run_bind]
  intro hdrift
  split at hdrift
  · next written w₁ hstage =>
      cases written with
      | some result =>
          have hother : NoDrift result :=
            writeStage_same (hpass _) (hprior.trans hsame).symm hstage
          exact hother (Option.some.inj hdrift)
      | none =>
          dsimp only at hdrift
          cases hfinish : finish host rid webrtc updates prior sur w₁ with
          | mk answer w₂ =>
              rw [hfinish] at hdrift
              cases answer with
              | error x => cases hdrift
              | ok result =>
                  exact finish_noDrift w₁ result w₂ hfinish (Option.some.inj hdrift)
  · cases hdrift

/-- An edit in the window is reported and kept exactly when it changes the file after the
reading whose hash the write expects. -/
theorem keepsEdits_iff (hpass : ∀ site, sur.Passes site) :
    KeepsEdits host sur w rid confirm ↔
      (Rehashes host sur w rid confirm →
        host.hash (sur.fileAfter upToRehash w.file) ≠ host.hash (sur.fileAfter upToBase w.file) →
          host.hash (sur.fileAfter upToPriorHash w.file) ≠
            host.hash (sur.fileAfter upToRehash w.file)) := by
  constructor
  · intro hkeeps hreach hedit hsame
    obtain ⟨r, webrtc, updates, hproceeds, htarget⟩ := hreach
    have hdrift := hkeeps ⟨r, webrtc, updates, hproceeds, htarget⟩ hedit
    exact not_drift_of_same hpass hproceeds htarget hsame hdrift.1
  · intro hlate hreach hedit
    obtain ⟨r, webrtc, updates, hproceeds, htarget⟩ := hreach
    exact drift_of_differ hpass hproceeds htarget
      (hlate ⟨r, webrtc, updates, hproceeds, htarget⟩ hedit)

end Runs

/-! ## One editor -/

/-- A file an editor saves during the apply. -/
def handFile : EnvFile := { content := .text "ICE_POLICY=relay\n# keep relay\n", mode := 0o644 }

/-- A deployment on which the digest of that file is known too. -/
def editedHost : Host :=
  { exampleHost "color_camera" with
    sha256 := fun content =>
      if content = handFile.content then
        "b9a7139b72498fae5f8830e14f06d1925285ea314bceba79ebdb8e31b8d482b0"
      else exampleDigest content }

/-- An editor saves the file right before a place is reached. -/
def savedAt (place : Site) : Surroundings where
  edits := fun site => if site = place then [some handFile] else []

theorem savedAt_passes (place site : Site) : (savedAt place).Passes site := ⟨rfl, rfl⟩

/-- The example's revision passes its checks when the editor comes later. -/
theorem savedAt_rehashes {place : Site} (h : place ∈ upToRehash.drop 7) :
    Rehashes editedHost (savedAt place) exampleWorld exampleId ("apply-" ++ exampleDiffHash) := by
  refine ⟨exampleRevision, { icePolicy := some (.str "all") }, { icePolicy := some "all" }, ?_, ?_⟩
  · exact {
      id := by decide +kernel
      record := by rw [exampleWorld, Dict.getElem?_insert, if_pos rfl]
      passes := fun site _ => savedAt_passes place site
      free := rfl
      admitted := by rfl
      valid := by rfl
      changes := by
        -- nobody interferes with the cache, wherever the editor comes
        show patchChanges (buildWebRtc (settingsAt editedHost {} .validateView exampleWorld)) _ = true
        decide +kernel
      coherent := ⟨(∅ : Dict String).insert "ICE_POLICY" "relay",
        by revert h; revert place; decide +kernel⟩
      base := by revert h; revert place; decide +kernel
      updates := by decide +kernel }
  · show atTarget editedHost {} exampleWorld { icePolicy := some "all" } = false
    decide +kernel

/-- An editor who saves after the third reading keeps the file. -/
theorem save_before_mark_kept :
    KeepsEdits editedHost (savedAt .markApplying) exampleWorld exampleId
        ("apply-" ++ exampleDiffHash) ∧
      Rehashes editedHost (savedAt .markApplying) exampleWorld exampleId
        ("apply-" ++ exampleDiffHash) :=
  ⟨(keepsEdits_iff (savedAt_passes _)).mpr fun _ _ => by decide +kernel,
    savedAt_rehashes (by decide)⟩

/-- An editor who saves between the base match and the third reading loses it. -/
theorem save_before_capture_lost :
    ¬ KeepsEdits editedHost (savedAt .priorBytes) exampleWorld exampleId
        ("apply-" ++ exampleDiffHash) := by
  intro hkeeps
  have hdrift := hkeeps (savedAt_rehashes (by decide)) (by decide +kernel)
  exact absurd hdrift.1 (by decide +kernel)

end CameraStack.Runtime
