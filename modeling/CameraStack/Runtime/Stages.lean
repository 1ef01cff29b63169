/-
# What the stages of an apply can do

One lemma for each stage, in arbitrary surroundings where that is possible.  The
checks only read; they pass exactly when `Proceeds` holds of the revision, the file
and the surroundings.  All that follows is decided by the accesses from the mark
`applying` on.
-/

import CameraStack.Runtime.Apply

namespace CameraStack.Runtime

open CameraStack.Lib

variable {host : Host} {sur : Surroundings} {w w' : World} {rid confirm : String} {site : Site}

/-! ## Places -/

namespace Surroundings

/-- The file as it is found after the edits of some places. -/
def fileAfter (sur : Surroundings) (sites : List Site) (file : Option EnvFile) : Option EnvFile :=
  sites.foldl (fun file site => (sur.edits site).foldl (fun _ edited => edited) file) file

@[simp] theorem fileAfter_nil (file : Option EnvFile) : sur.fileAfter [] file = file := rfl

theorem fileAfter_append (sites sites' : List Site) (file : Option EnvFile) :
    sur.fileAfter (sites ++ sites') file = sur.fileAfter sites' (sur.fileAfter sites file) :=
  List.foldl_append

/-- Nobody edits the file. -/
def Calm (sur : Surroundings) : Prop := ∀ site, sur.edits site = []

theorem Calm.fileAfter (h : sur.Calm) (sites : List Site) (file : Option EnvFile) :
    sur.fileAfter sites file = file := by
  induction sites generalizing file with
  | nil => rfl
  | cons site sites ih =>
      rw [Surroundings.fileAfter, List.foldl_cons, h site]
      exact ih file

/-- The access at a place succeeds. -/
def Passes (sur : Surroundings) (site : Site) : Prop :=
  sur.crashes site = false ∧ sur.fails site = false

end Surroundings

/-- The world when a place is reached. -/
def World.at (w : World) (sur : Surroundings) (sites : List Site) : World :=
  { w with file := sur.fileAfter sites w.file }

theorem World.at_calm (h : sur.Calm) (sites : List Site) : w.at sur sites = w := by
  rw [World.at, h.fileAfter]

theorem reach_of_passes (h : sur.Passes site) : reach site sur w = (.ok (), w.at sur [site]) := by
  simp only [reach, h.1, h.2, World.at, Surroundings.fileAfter]
  rfl

theorem reach_eq_ok {u : Unit} :
    reach site sur w = (.ok u, w') ↔ sur.Passes site ∧ w' = w.at sur [site] := by
  constructor
  · intro h
    have hpass : sur.Passes site := by
      unfold reach at h
      split at h
      · cases h
      · next hcrash =>
          split at h
          · cases h
          · next hfail => exact ⟨by simpa using hcrash, by simpa using hfail⟩
    rw [reach_of_passes hpass] at h
    cases h
    exact ⟨hpass, rfl⟩
  · rintro ⟨hpass, rfl⟩
    exact reach_of_passes hpass

/-! ## Single accesses -/

/-- `reach`, with the world at the place. -/
theorem run_reach : reach site sur w =
    (if sur.crashes site then .error .crashed
      else if sur.fails site then .error (.raised (.failed site)) else .ok (),
      w.at sur [site]) := by
  unfold reach
  split
  · rfl
  · split
    · rfl
    · rfl

theorem readRawRevision_of_record {r : Revision} (hid : validId rid = true)
    (hentry : w.journal[rid]? = some (.record r)) : readRawRevision site rid sur w =
      (if sur.crashes site then .error .crashed
        else if sur.fails site then .ok none else .ok (some r), w.at sur [site]) := by
  simp only [readRawRevision, Action.run_bind, Action.run_get, hid, if_true, hentry,
    Action.run_catching, run_reach]
  by_cases hcrash : sur.crashes site = true
  · simp [hcrash]
  · by_cases hfail : sur.fails site = true
    · simp [hcrash, hfail]
    · simp [hcrash, hfail]

theorem readRawRevision_eq_some {r : Revision} :
    readRawRevision site rid sur w = (.ok (some r), w') ↔ validId rid = true ∧
      w.journal[rid]? = some (.record r) ∧ sur.Passes site ∧ w' = w.at sur [site] := by
  constructor
  · intro h
    have hid : validId rid = true := by
      by_contra hid
      simp [readRawRevision, Action.run_bind, hid] at h
    cases hentry : w.journal[rid]? with
    | none => simp [readRawRevision, Action.run_bind, hid, hentry] at h
    | some entry =>
        cases entry with
        | corrupt =>
            simp only [readRawRevision, Action.run_bind, Action.run_get, hid, if_true, hentry,
              Action.run_catching, run_reach] at h
            by_cases hcrash : sur.crashes site = true
            · simp [hcrash] at h
            · by_cases hfail : sur.fails site = true
              · simp [hcrash, hfail] at h
              · simp [hcrash, hfail] at h
        | record r' =>
            rw [readRawRevision_of_record hid hentry] at h
            by_cases hcrash : sur.crashes site = true
            · simp [hcrash] at h
            · by_cases hfail : sur.fails site = true
              · simp [hcrash, hfail] at h
              · simp only [hcrash, hfail, Bool.false_eq_true, if_false, Prod.mk.injEq,
                  Except.ok.injEq, Option.some.injEq] at h
                rcases h with ⟨rfl, rfl⟩
                exact ⟨hid, rfl, ⟨by simpa using hcrash, by simpa using hfail⟩, rfl⟩
  · rintro ⟨hid, hentry, hpass, rfl⟩
    rw [readRawRevision_of_record hid hentry]
    simp [hpass.1, hpass.2]

theorem currentHash_eq_ok {h : String} : currentHash host site sur w = (.ok h, w') ↔
    sur.Passes site ∧ w' = w.at sur [site] ∧ h = host.hash w'.file := by
  simp only [currentHash, Action.bind_eq_ok, reach_eq_ok, Action.run_get, Action.run_pure,
    Prod.mk.injEq, Except.ok.injEq]
  constructor
  · rintro ⟨_, _, ⟨hpass, rfl⟩, _, _, ⟨rfl, rfl⟩, rfl, rfl⟩
    exact ⟨hpass, rfl, rfl⟩
  · rintro ⟨hpass, rfl, rfl⟩
    exact ⟨(), _, ⟨hpass, rfl⟩, _, _, ⟨rfl, rfl⟩, rfl, rfl⟩

theorem fileMode_eq_ok {mode : ℕ} : fileMode site sur w = (.ok mode, w') ↔
    sur.Passes site ∧ w' = w.at sur [site] ∧ mode = w'.file.elim defaultMode EnvFile.mode := by
  simp only [fileMode, Action.bind_eq_ok, reach_eq_ok, Action.run_get, Action.run_pure,
    Prod.mk.injEq, Except.ok.injEq]
  constructor
  · rintro ⟨_, _, ⟨hpass, rfl⟩, _, _, ⟨rfl, rfl⟩, rfl, rfl⟩
    exact ⟨hpass, rfl, rfl⟩
  · rintro ⟨hpass, rfl, rfl⟩
    exact ⟨(), _, ⟨hpass, rfl⟩, _, _, ⟨rfl, rfl⟩, rfl, rfl⟩

theorem readKeysAt_eq_ok {keys : Dict String} : readKeysAt site sur w = (.ok keys, w') ↔
    sur.Passes site ∧ w' = w.at sur [site] ∧ readKeys w'.file = some keys := by
  simp only [readKeysAt, Action.bind_eq_ok, reach_eq_ok, Action.run_get, Prod.mk.injEq,
    Except.ok.injEq]
  constructor
  · rintro ⟨_, _, ⟨hpass, rfl⟩, _, _, ⟨rfl, rfl⟩, h⟩
    cases hkeys : readKeys (w.at sur [site]).file with
    | none =>
        rw [hkeys] at h
        cases h
    | some keys' =>
        rw [hkeys] at h
        cases h
        exact ⟨hpass, rfl, hkeys⟩
  · rintro ⟨hpass, rfl, hkeys⟩
    refine ⟨(), _, ⟨hpass, rfl⟩, _, _, ⟨rfl, rfl⟩, ?_⟩
    rw [hkeys]
    rfl

/-- The settings a view is built from. -/
def settingsAt (host : Host) (sur : Surroundings) (site : Site) (w : World) : Settings :=
  (sur.racing site <|> w.cache).getD (readSettings host.cameraType w.environ)

theorem buildEffective_eq_ok {s : Settings} {view : WebRtcView} :
    buildEffective host site sur w = (.ok (s, view), w') ↔
      sur.Passes site ∧ s = settingsAt host sur site w ∧ view = buildWebRtc s ∧
        w' = { w with cache := some s }.at sur [site] := by
  simp only [buildEffective, Action.bind_eq_ok, reach_eq_ok, Action.run_pure, Prod.mk.injEq,
    Except.ok.injEq]
  constructor
  · rintro ⟨_, _, hsettings, _, _, ⟨hpass, rfl⟩, ⟨rfl, rfl⟩, rfl⟩
    cases hsettings
    exact ⟨hpass, rfl, rfl, rfl⟩
  · rintro ⟨hpass, rfl, rfl, rfl⟩
    exact ⟨_, _, rfl, (), _, ⟨hpass, rfl⟩, ⟨rfl, rfl⟩, rfl⟩

theorem verifyAt_eq_ok {u : Updates} {ok : Bool} : verifyAt host site u sur w = (.ok ok, w') ↔
    sur.Passes site ∧ w' = { w with cache := some (settingsAt host sur site w) }.at sur [site] ∧
      ok = u.verify (settingsAt host sur site w) (buildWebRtc (settingsAt host sur site w)) := by
  simp only [verifyAt, Action.bind_eq_ok]
  constructor
  · rintro ⟨⟨s, view⟩, _, hview, hok⟩
    obtain ⟨hpass, rfl, rfl, rfl⟩ := buildEffective_eq_ok.mp hview
    cases hok
    exact ⟨hpass, rfl, rfl⟩
  · rintro ⟨hpass, rfl, rfl⟩
    exact ⟨_, _, buildEffective_eq_ok.mpr ⟨hpass, rfl, rfl, rfl⟩, rfl⟩

/-! ## The checks -/

/-- `apply_revision` up to the last check. -/
def enter (host : Host) (rid confirm : String) :
    App (ApplyResult ⊕ WebRtcPatch × Updates × Bool) := do
  match ← readRawRevision .firstRead rid with
  | none => pure (.inl { outcome := .notFound, detail := .revisionNotFound })
  | some _ => do
      reach .lock
      if ← lockHeld then pure (.inl { outcome := .lockHeld, detail := .anotherApply })
      else examine host rid confirm

/-- An apply is its checks and what follows from them. -/
theorem applyRevision_eq : applyRevision host rid confirm sur w =
    (enter host rid confirm >>= conclude host rid) sur w := by
  simp only [applyRevision, enter, Action.run_bind]
  cases readRawRevision .firstRead rid sur w with
  | mk first w₁ =>
      cases first with
      | error x => rfl
      | ok found =>
          cases found with
          | none => rfl
          | some r =>
              simp only [Action.run_bind]
              cases reach .lock sur w₁ with
              | mk lock w₂ =>
                  cases lock with
                  | error x => rfl
                  | ok u =>
                      cases hheld : sur.held with
                      | true => simp [lockHeld, hheld, conclude]
                      | false => simp [lockHeld, hheld, applyUnderLock, Action.run_bind]

/-- The places a run goes through that passes all checks. -/
def checkSites : List Site :=
  [.firstRead, .lock, .reread, .validateView, .coherence, .baseHash, .verifyView]

/-- The settings at the second view, unless another thread interferes those of the
first. -/
def verifySettings (host : Host) (sur : Surroundings) (w : World) : Settings :=
  (sur.racing .verifyView).getD (settingsAt host sur .validateView w)

/-- The checks pass: the revision is intact and applyable, confirmed and valid, it
changes something, file and process agree, and the file is the one it was validated
against. -/
structure Proceeds (host : Host) (sur : Surroundings) (w : World) (rid confirm : String)
    (r : Revision) (webrtc : WebRtcPatch) (updates : Updates) : Prop where
  id : validId rid = true
  record : w.journal[rid]? = some (.record r)
  passes : ∀ site ∈ checkSites, sur.Passes site
  free : sur.held = false
  admitted : admission host rid confirm r = .go (some webrtc)
  valid : patchValid host.laxInt r.validatedPatch webrtc = true
  changes : patchChanges (buildWebRtc (settingsAt host sur .validateView w)) webrtc = true
  coherent : ∃ cur, readKeys (sur.fileAfter (checkSites.take 5) w.file) = some cur ∧
    incoherentKey cur w.environ = none
  base : r.fileHashesBefore =
    [(host.runtimeEnvPath, host.hash (sur.fileAfter (checkSites.take 6) w.file))]
  updates : patchUpdates webrtc = some updates

/-- The effective view already shows the target. -/
def atTarget (host : Host) (sur : Surroundings) (w : World) (updates : Updates) : Bool :=
  updates.verify (verifySettings host sur w) (buildWebRtc (verifySettings host sur w))

/-- The world after the checks. -/
def World.checked (w : World) (host : Host) (sur : Surroundings) : World :=
  { w with
    file := sur.fileAfter checkSites w.file
    cache := some (verifySettings host sur w) }

/-- The checks against the view and the file. -/
theorem judge_eq_inr {r : Revision} {part : Option WebRtcPatch} {webrtc : WebRtcPatch}
    {updates : Updates} {b : Bool} :
    judge host r part sur w = (.ok (.inr (webrtc, updates, b)), w') ↔
      part = some webrtc ∧ (∀ site ∈ checkSites.drop 3, sur.Passes site) ∧
      patchValid host.laxInt r.validatedPatch webrtc = true ∧
      patchChanges (buildWebRtc (settingsAt host sur .validateView w)) webrtc = true ∧
      (∃ cur, readKeys (sur.fileAfter [.validateView, .coherence] w.file) = some cur ∧
        incoherentKey cur w.environ = none) ∧
      r.fileHashesBefore = [(host.runtimeEnvPath,
        host.hash (sur.fileAfter [.validateView, .coherence, .baseHash] w.file))] ∧
      patchUpdates webrtc = some updates ∧ b = atTarget host sur w updates ∧
      w' = { w with
        file := sur.fileAfter (checkSites.drop 3) w.file
        cache := some (verifySettings host sur w) } := by
  have hdrop : checkSites.drop 3 = [.validateView, .coherence, .baseHash, .verifyView] := rfl
  have hsettings : ∀ file, settingsAt host sur .verifyView
      { w with file := file, cache := some (settingsAt host sur .validateView w) } =
        verifySettings host sur w := by
    intro file
    cases hrace : sur.racing .verifyView with
    | none => simp [settingsAt, verifySettings, hrace]
    | some s => simp [settingsAt, verifySettings, hrace]
  constructor
  · intro h
    simp only [judge, Action.bind_eq_ok] at h
    obtain ⟨⟨s, view⟩, w₁, hview, h⟩ := h
    obtain ⟨hpass₁, rfl, rfl, rfl⟩ := buildEffective_eq_ok.mp hview
    cases part with
    | none => cases h
    | some webrtc' =>
        dsimp only at h
        have hvalid : patchValid host.laxInt r.validatedPatch webrtc' = true := by
          by_contra hnot
          rw [if_pos (by simpa using hnot)] at h
          cases h
        have hchanges : patchChanges (buildWebRtc (settingsAt host sur .validateView w)) webrtc' =
            true := by
          by_contra hnot
          rw [if_neg (by simp [hvalid]), if_pos (by simpa using hnot)] at h
          cases h
        simp only [hvalid, hchanges, Bool.not_true, Bool.false_eq_true, if_false,
          Action.bind_eq_ok] at h
        obtain ⟨cur, w₂, hcur, _, _, hget, h⟩ := h
        obtain ⟨hpass₂, rfl, hkeys⟩ := readKeysAt_eq_ok.mp hcur
        cases hget
        cases hcoherent : incoherentKey cur w.environ with
        | some key =>
            simp only [World.at, hcoherent] at h
            cases h
        | none =>
            simp only [World.at, hcoherent, Action.bind_eq_ok] at h
            obtain ⟨base, w₃, hbase, h⟩ := h
            obtain ⟨hpass₃, rfl, rfl⟩ := currentHash_eq_ok.mp hbase
            split at h
            · cases h
            · next hmatch =>
                cases hupdates : patchUpdates webrtc' with
                | none =>
                    rw [hupdates] at h
                    cases h
                | some updates' =>
                    simp only [hupdates, Action.bind_eq_ok] at h
                    obtain ⟨b', w₄, hverify, h⟩ := h
                    obtain ⟨hpass₄, rfl, rfl⟩ := verifyAt_eq_ok.mp hverify
                    cases h
                    refine ⟨rfl, ?_, hvalid, hchanges, ⟨cur, hkeys, hcoherent⟩, not_not.mp hmatch,
                      hupdates, ?_, ?_⟩
                    · rw [hdrop]
                      simp [hpass₁, hpass₂, hpass₃, hpass₄]
                    · rw [atTarget, ← hsettings]
                      rfl
                    · rw [← hsettings]
                      rfl
  · rintro ⟨rfl, hpasses, hvalid, hchanges, ⟨cur, hkeys, hcoherent⟩, hmatch, hupdates, rfl, rfl⟩
    rw [hdrop] at hpasses
    simp only [judge, Action.bind_eq_ok]
    refine ⟨_, _, buildEffective_eq_ok.mpr ⟨hpasses _ (by simp), rfl, rfl, rfl⟩, ?_⟩
    simp only [hvalid, hchanges, Bool.not_true, Bool.false_eq_true, if_false, Action.bind_eq_ok]
    refine ⟨cur, _, readKeysAt_eq_ok.mpr ⟨hpasses _ (by simp), rfl, hkeys⟩, _, _, rfl, ?_⟩
    simp only [World.at, hcoherent, Action.bind_eq_ok]
    refine ⟨_, _, currentHash_eq_ok.mpr ⟨hpasses _ (by simp), rfl, rfl⟩, ?_⟩
    split
    · next hne => exact absurd hmatch hne
    · simp only [hupdates, Action.bind_eq_ok]
      refine ⟨_, _, verifyAt_eq_ok.mpr ⟨hpasses _ (by simp), rfl, rfl⟩, ?_⟩
      rw [atTarget, ← hsettings]
      rfl

/-! ## Reading changes nothing -/

/-- A projection that edits and the settings cache do not touch. -/
structure Lasting {C : Type} (sur : Surroundings) (g : World → C) : Prop where
  at_site : ∀ w site, g (World.at w sur [site]) = g w
  cached : ∀ w cache, g { w with cache := cache } = g w

theorem lasting_journal : Lasting sur World.journal := ⟨fun _ _ => rfl, fun _ _ => rfl⟩

theorem lasting_environ : Lasting sur World.environ := ⟨fun _ _ => rfl, fun _ _ => rfl⟩

theorem lasting_file (calm : sur.Calm) : Lasting sur World.file where
  at_site w site := by rw [World.at_calm calm]
  cached _ _ := rfl

namespace Lasting

variable {C : Type} {g : World → C}

theorem reach (h : Lasting sur g) : Action.Keeps sur g (reach site) := by
  intro w
  rw [run_reach]
  exact h.at_site w site

theorem readRawRevision (h : Lasting sur g) : Action.Keeps sur g (readRawRevision site rid) := by
  apply Action.Keeps.get.bind
  intro w
  split
  · split
    · exact .pure _
    · apply Action.Keeps.catching
      · apply h.reach.bind
        intro _
        split
        · exact .halt _
        · exact .pure _
      · intro x
        split
        · exact .pure _
        · exact .halt _
  · exact .pure _

theorem currentHash (h : Lasting sur g) : Action.Keeps sur g (currentHash host site) :=
  h.reach.bind fun _ => Action.Keeps.get.bind fun _ => .pure _

theorem fileMode (h : Lasting sur g) : Action.Keeps sur g (fileMode site) :=
  h.reach.bind fun _ => Action.Keeps.get.bind fun _ => .pure _

theorem readKeysAt (h : Lasting sur g) : Action.Keeps sur g (readKeysAt site) := by
  apply h.reach.bind
  intro _
  apply Action.Keeps.get.bind
  intro w
  split
  · exact .pure _
  · exact .halt _

theorem verifyAt (h : Lasting sur g) {u : Updates} : Action.Keeps sur g (verifyAt host site u) := by
  have hsettings : Action.Keeps sur g (getSettings host site) := fun w => h.cached w _
  exact (hsettings.bind fun _ => h.reach.bind fun _ => .pure _).bind fun _ => .pure _

theorem judge (h : Lasting sur g) {r : Revision} {part : Option WebRtcPatch} :
    Action.Keeps sur g (judge host r part) := by
  have hsettings : Action.Keeps sur g (getSettings host .validateView) := fun w => h.cached w _
  apply (hsettings.bind fun _ => h.reach.bind fun _ => .pure _).bind
  rintro ⟨_, view⟩
  dsimp only
  split
  · exact .halt _
  · split
    · exact .pure _
    · split
      · exact .pure _
      · apply h.readKeysAt.bind
        intro cur
        apply Action.Keeps.get.bind
        intro w
        split
        · exact .pure _
        · apply h.currentHash.bind
          intro base
          split
          · exact .pure _
          · split
            · exact .halt _
            · exact h.verifyAt.bind fun _ => .pure _

/-- The checks only read. -/
theorem enter (h : Lasting sur g) : Action.Keeps sur g (enter host rid confirm) := by
  apply h.readRawRevision.bind
  intro first
  split
  · exact .pure _
  · apply h.reach.bind
    intro _
    have hheld : Action.Keeps sur g lockHeld := fun _ => rfl
    apply hheld.bind
    intro held
    split
    · exact .pure _
    · apply h.readRawRevision.bind
      intro second
      split
      · exact .pure _
      · split
        · exact .pure _
        · exact .halt _
        · exact h.judge

theorem capture (h : Lasting sur g) {u : Updates} : Action.Keeps sur g (capture host u) :=
  h.reach.bind fun _ => Action.Keeps.get.bind fun _ => h.fileMode.bind fun _ =>
    h.currentHash.bind fun _ => .pure _

end Lasting

/-! ## Refusals -/

/-- The outcomes of a revision that is not touched. -/
def Outcome.refuses : Outcome → Bool
  | .notFound | .confirmMismatch | .rejected | .drift | .conflict | .lockHeld => true
  | _ => false

theorem admission_refuses {r : Revision} {result : ApplyResult}
    (h : admission host rid confirm r = .stop result) : result.outcome.refuses = true := by
  unfold admission at h
  split at h
  · cases h
    rfl
  · split at h
    · cases h
    · split at h
      · cases h
        rfl
      · split at h
        · cases h
          rfl
        · split at h
          · cases h
            rfl
          · cases h
          · cases h
          · cases h

/-- An answer without updates is a refusal. -/
def Refusal : ApplyResult ⊕ WebRtcPatch × Updates × Bool → Prop
  | .inl result => result.outcome.refuses = true
  | .inr _ => True

theorem judge_refuses {r : Revision} {part : Option WebRtcPatch} :
    Action.Yields sur Refusal (judge host r part) := by
  apply Action.Yields.bind
  rintro ⟨_, view⟩
  dsimp only
  split
  · exact .halt _
  · split
    · exact .pure rfl
    · split
      · exact .pure rfl
      · apply Action.Yields.bind
        intro cur
        apply Action.Yields.bind
        intro w
        split
        · exact .pure rfl
        · apply Action.Yields.bind
          intro base
          split
          · exact .pure rfl
          · split
            · exact .halt _
            · exact .bind fun _ => .pure trivial

theorem enter_refuses : Action.Yields sur Refusal (enter host rid confirm) := by
  apply Action.Yields.bind
  intro first
  split
  · exact .pure rfl
  · apply Action.Yields.bind
    intro _
    apply Action.Yields.bind
    intro held
    split
    · exact .pure rfl
    · apply Action.Yields.bind
      intro second
      split
      · exact .pure rfl
      · split
        · next hstop => exact .pure (admission_refuses hstop)
        · exact .halt _
        · exact judge_refuses

/-- Only a validated revision is admitted. -/
theorem validated_of_admission {r : Revision} {part : Option WebRtcPatch}
    (h : admission host rid confirm r = .go part) : r.status = .validated := by
  by_contra hstatus
  simp [admission, isApplyable, hstatus] at h

/-- The checks pass exactly when `Proceeds` says so. -/
theorem enter_eq_inr {webrtc : WebRtcPatch} {updates : Updates} {b : Bool} :
    enter host rid confirm sur w = (.ok (.inr (webrtc, updates, b)), w') ↔
      (∃ r, Proceeds host sur w rid confirm r webrtc updates) ∧ b = atTarget host sur w updates ∧
        w' = w.checked host sur := by
  constructor
  · intro h
    simp only [enter, Action.bind_eq_ok] at h
    obtain ⟨first, w₁, hfirst, h⟩ := h
    cases first with
    | none => cases h
    | some r₀ =>
        simp only [Action.bind_eq_ok] at h
        obtain ⟨_, w₂, hlock, held, _, hheld, h⟩ := h
        obtain ⟨hid, -, hpass₁, rfl⟩ := readRawRevision_eq_some.mp hfirst
        obtain ⟨hpass₂, rfl⟩ := reach_eq_ok.mp hlock
        obtain ⟨rfl, rfl⟩ : sur.held = held ∧ _ = _ := by simpa [lockHeld] using hheld
        cases hfree : sur.held with
        | true =>
            rw [hfree] at h
            cases h
        | false =>
            simp only [hfree, Bool.false_eq_true, if_false, examine, Action.bind_eq_ok] at h
            obtain ⟨second, w₃, hsecond, h⟩ := h
            cases second with
            | none => cases h
            | some r =>
                obtain ⟨-, hrecord, hpass₃, rfl⟩ := readRawRevision_eq_some.mp hsecond
                cases hadmitted : admission host rid confirm r with
                | stop result =>
                    simp only [hadmitted] at h
                    cases h
                | raise e =>
                    simp only [hadmitted] at h
                    cases h
                | go part =>
                    simp only [hadmitted] at h
                    obtain ⟨rfl, hpasses, hvalid, hchanges, hcoherent, hmatch, hupdates, rfl, rfl⟩ :=
                      judge_eq_inr.mp h
                    refine ⟨⟨r, hid, hrecord, ?_, hfree, hadmitted, hvalid, hchanges, hcoherent,
                      hmatch, hupdates⟩, rfl, rfl⟩
                    intro site hsite
                    simp only [checkSites, List.mem_cons] at hsite
                    rcases hsite with rfl | rfl | rfl | hsite
                    · exact hpass₁
                    · exact hpass₂
                    · exact hpass₃
                    · exact hpasses site (by simpa [checkSites] using hsite)
  · rintro ⟨⟨r, h⟩, rfl, rfl⟩
    simp only [enter, Action.bind_eq_ok]
    refine ⟨some r, _, readRawRevision_eq_some.mpr
      ⟨h.id, h.record, h.passes _ (by decide), rfl⟩, ?_⟩
    simp only [Action.bind_eq_ok]
    refine ⟨(), _, reach_eq_ok.mpr ⟨h.passes _ (by decide), rfl⟩, sur.held, _, rfl, ?_⟩
    simp only [h.free, Bool.false_eq_true, if_false, examine, Action.bind_eq_ok]
    refine ⟨some r, _, readRawRevision_eq_some.mpr
      ⟨h.id, h.record, h.passes _ (by decide), rfl⟩, ?_⟩
    simp only [h.admitted]
    exact judge_eq_inr.mpr ⟨rfl, fun site hsite => h.passes site (List.mem_of_mem_drop hsite),
      h.valid, h.changes, h.coherent, h.base, h.updates, rfl, rfl⟩

/-- A call that passes the checks has one patch and one set of updates. -/
theorem Proceeds.unique {r r' : Revision} {webrtc webrtc' : WebRtcPatch} {u u' : Updates}
    (h : Proceeds host sur w rid confirm r webrtc u)
    (h' : Proceeds host sur w rid confirm r' webrtc' u') : webrtc = webrtc' ∧ u = u' := by
  have hrun := enter_eq_inr.mpr ⟨⟨r, h⟩, rfl, rfl⟩
  have hrun' := enter_eq_inr.mpr ⟨⟨r', h'⟩, rfl, rfl⟩
  rw [hrun] at hrun'
  simp only [Prod.mk.injEq, Except.ok.injEq, Sum.inr.injEq] at hrun'
  exact ⟨hrun'.1.1, hrun'.1.2.1⟩

/-! ## The writes when nobody edits the file -/

section Calm

variable {r : Revision} {status : Status} {updates : Updates}

/-- What stops an access. -/
def Surroundings.trouble (sur : Surroundings) (site : Site) : Option Halt :=
  if sur.crashes site then some .crashed
  else if sur.fails site then some (.raised (.failed site)) else none

theorem trouble_eq_none : sur.trouble site = none ↔ sur.Passes site := by
  unfold Surroundings.trouble Surroundings.Passes
  by_cases hcrash : sur.crashes site = true
  · simp [hcrash]
  · by_cases hfail : sur.fails site = true
    · simp [hcrash, hfail]
    · simp [hcrash, hfail]

theorem reach_calm (calm : sur.Calm) : reach site sur w =
    match sur.trouble site with
    | some x => (.error x, w)
    | none => (.ok (), w) := by
  rw [run_reach, World.at_calm calm, Surroundings.trouble]
  by_cases hcrash : sur.crashes site = true
  · simp [hcrash]
  · by_cases hfail : sur.fails site = true
    · simp [hcrash, hfail]
    · simp [hcrash, hfail]

theorem setStatus_calm (calm : sur.Calm) (hid : validId rid = true)
    (hentry : w.journal[rid]? = some (.record r)) : setStatus site rid status sur w =
      match sur.trouble site with
      | some x => (.error x, w)
      | none => (.ok true, w.mark rid r status) := by
  simp only [setStatus, Action.run_bind, Action.run_get, hid, if_true, hentry, reach_calm calm]
  cases sur.trouble site with
  | none => rfl
  | some x => rfl

@[simp] theorem World.mark_mark (w : World) (rid : String) (r : Revision) (a b : Status) :
    (w.mark rid r a).mark rid { r with status := a } b = w.mark rid r b := by
  simp only [World.mark, World.mk.injEq, true_and, and_true]
  apply Std.ExtTreeMap.ext_getElem?
  intro k
  simp only [Dict.getElem?_insert]
  split <;> rfl

theorem World.journal_mark (w : World) (rid : String) (r : Revision) (status : Status) :
    (w.mark rid r status).journal[rid]? = some (.record { r with status := status }) := by
  rw [World.mark, Dict.getElem?_insert, if_pos rfl]

/-- The keys of the file are ours alone. -/
def writable (file : Option EnvFile) : Bool :=
  match readKeys file with
  | none => false
  | some cur => allowlisted cur.keys

/-- The file after the merged write. -/
def written (file : Option EnvFile) (updates : Updates) : EnvFile where
  content := .text (render (mergeKeys ((readKeys file).getD ∅) updates.items))
  mode := file.elim defaultMode EnvFile.mode

theorem allowlisted_items (updates : Updates) :
    allowlisted (updates.items.map Prod.fst) = true := by
  cases updates with
  | mk ice ttl =>
      cases ice with
      | none =>
          cases ttl with
          | none => rfl
          | some n => rfl
      | some ice =>
          cases ttl with
          | none => rfl
          | some n => rfl

theorem allowlisted_mergeKeys {cur : Dict String} (h : allowlisted cur.keys = true) :
    allowlisted (mergeKeys cur updates.items).keys = true := by
  have hitems := allowlisted_items updates
  simp only [allowlisted, List.all_eq_true, Std.ExtTreeMap.mem_keys, mergeKeys,
    Std.ExtTreeMap.mem_insertMany_list] at h hitems ⊢
  rintro key (hcur | hnew)
  · exact h key hcur
  · exact hitems key (by simpa using hnew)

theorem currentHash_calm (calm : sur.Calm) : currentHash host site sur w =
    match sur.trouble site with
    | some x => (.error x, w)
    | none => (.ok (host.hash w.file), w) := by
  rw [currentHash, Action.run_bind, reach_calm calm]
  cases sur.trouble site with
  | none => rfl
  | some x => rfl

theorem fileMode_calm (calm : sur.Calm) : fileMode site sur w =
    match sur.trouble site with
    | some x => (.error x, w)
    | none => (.ok (w.file.elim defaultMode EnvFile.mode), w) := by
  rw [fileMode, Action.run_bind, reach_calm calm]
  cases sur.trouble site with
  | none => rfl
  | some x => rfl

theorem replaceFile_calm (calm : sur.Calm) {file : Option EnvFile} :
    replaceFile site file sur w =
      match sur.trouble site with
      | some x => (.error x, w)
      | none => (.ok (), { w with file := file }) := by
  rw [replaceFile, Action.run_bind, reach_calm calm]
  cases sur.trouble site with
  | none => rfl
  | some x => rfl

/-- The first of some accesses that is stopped. -/
def Surroundings.firstTrouble (sur : Surroundings) (sites : List Site) : Option Halt :=
  sites.findSome? sur.trouble

theorem firstTrouble_eq_none {sites : List Site} :
    sur.firstTrouble sites = none ↔ ∀ site ∈ sites, sur.Passes site := by
  simp only [Surroundings.firstTrouble, List.findSome?_eq_none_iff, trouble_eq_none]

/-- `write_locked` on the file whose hash is expected: it stops before the replacement
and leaves the file, or it replaces the file and then hashes it. -/
theorem writeLocked_calm (calm : sur.Calm) {cur : Dict String} (hcur : readKeys w.file = some cur) :
    writeLocked host updates.items (host.hash w.file) sur w =
      match sur.firstTrouble [.rehash, .mergeRead] with
      | some x => (.error x, w)
      | none =>
          if writable w.file then
            match sur.firstTrouble [.mergeMode, .replace] with
            | some x => (.error x, w)
            | none =>
                match sur.trouble .postHash with
                | some x => (.error x, { w with file := some (written w.file updates) })
                | none =>
                    (.ok (host.hash (some (written w.file updates))),
                      { w with file := some (written w.file updates) })
          else (.error (.raised .foreignKey), w) := by
  have hread : readKeysAt .mergeRead sur w =
      match sur.trouble .mergeRead with
      | some x => (.error x, w)
      | none => (.ok cur, w) := by
    rw [readKeysAt, Action.run_bind, reach_calm calm]
    cases sur.trouble .mergeRead with
    | some x => rfl
    | none =>
        simp only [Action.run_bind, Action.run_get, hcur]
        rfl
  simp only [writeLocked, allowlisted_items, Bool.not_true, Bool.false_eq_true, if_false,
    Action.run_bind, currentHash_calm calm, Surroundings.firstTrouble, List.findSome?_cons]
  cases hrehash : sur.trouble .rehash with
  | some x => rfl
  | none =>
      simp only [ne_eq, not_true_eq_false, if_false, Action.run_bind, hread]
      cases hmerge : sur.trouble .mergeRead with
      | some x => rfl
      | none =>
          by_cases hallow : allowlisted cur.keys = true
          · have hwritable : writable w.file = true := by simp [writable, hcur, hallow]
            simp only [hallow, allowlisted_mergeKeys hallow, hwritable, Bool.not_true,
              Bool.false_eq_true, if_false, if_true, List.findSome?_nil, Action.run_bind,
              fileMode_calm calm]
            cases hmode : sur.trouble .mergeMode with
            | some x => rfl
            | none =>
                simp only [replaceFile_calm calm]
                cases hreplace : sur.trouble .replace with
                | some x => rfl
                | none =>
                    simp only [currentHash_calm calm, written, hcur, Option.getD_some]
          · have hwritable : writable w.file = false := by simp [writable, hcur, hallow]
            simp [hallow, hwritable]

/-- What a capture of the world finds. -/
def priorOf (host : Host) (w : World) (updates : Updates) : Prior where
  content := w.file.map EnvFile.content
  mode := w.file.elim defaultMode EnvFile.mode
  environ := priorOs w.environ updates
  hash := host.hash w.file

/-- The places of a capture. -/
def captureSites : List Site := [.priorBytes, .priorMode, .priorHash]

theorem capture_calm (calm : sur.Calm) : capture host updates sur w =
    match sur.firstTrouble captureSites with
    | some x => (.error x, w)
    | none => (.ok (priorOf host w updates), w) := by
  simp only [capture, Action.run_bind, reach_calm calm, captureSites, Surroundings.firstTrouble,
    List.findSome?_cons]
  cases sur.trouble .priorBytes with
  | some x => rfl
  | none =>
      simp only [Action.run_get, fileMode_calm calm]
      cases sur.trouble .priorMode with
      | some x => rfl
      | none =>
          simp only [currentHash_calm calm]
          cases sur.trouble .priorHash with
          | some x => rfl
          | none => rfl

theorem verifyAt_calm (calm : sur.Calm) : verifyAt host site updates sur w =
    match sur.trouble site with
    | some x => (.error x, { w with cache := some (settingsAt host sur site w) })
    | none =>
        (.ok (updates.verify (settingsAt host sur site w)
          (buildWebRtc (settingsAt host sur site w))),
          { w with cache := some (settingsAt host sur site w) }) := by
  simp only [verifyAt, buildEffective, Action.run_bind, getSettings, reach_calm calm]
  cases sur.trouble site with
  | some x => rfl
  | none => rfl

/-- The file is restored as it was. -/
theorem priorOf_file (w : World) : ((priorOf host w updates).content.map fun content =>
    ({ content := content, mode := (priorOf host w updates).mode } : EnvFile)) = w.file := by
  cases hfile : w.file with
  | none => simp [priorOf, hfile]
  | some file => simp [priorOf, hfile]

theorem getElem?_foldl_restoreKey (environ : Dict String) (keys : List String) (now : Dict String)
    (k : String) :
    ((keys.map fun key => (key, environ[key]?)).foldl restoreKey now)[k]? =
      if k ∈ keys then environ[k]? else now[k]? := by
  induction keys generalizing now with
  | nil => simp
  | cons key keys ih =>
      rw [List.map_cons, List.foldl_cons, ih]
      have hkey : (restoreKey now (key, environ[key]?))[k]? =
          if key = k then environ[k]? else now[k]? := by
        cases hprior : environ[key]? with
        | none =>
            simp only [restoreKey, Dict.getElem?_erase]
            split
            · next heq => rw [← heq, hprior]
            · rfl
        | some value =>
            simp only [restoreKey, Dict.getElem?_insert]
            split
            · next heq => rw [← heq, hprior]
            · rfl
      rw [hkey]
      by_cases hmem : k ∈ keys
      · simp [hmem]
      · by_cases heq : key = k
        · simp [heq]
        · simp [hmem, heq, Ne.symm heq]

/-- The environment is restored as it was. -/
theorem restore_environ (environ : Dict String) :
    (priorOs environ updates).foldl restoreKey (environ.insertMany updates.items) = environ := by
  apply Std.ExtTreeMap.ext_getElem?
  intro k
  have hprior : priorOs environ updates =
      (updates.items.map Prod.fst).map fun key => (key, environ[key]?) := by
    rw [priorOs, List.map_map]
    rfl
  rw [hprior, getElem?_foldl_restoreKey]
  by_cases hmem : k ∈ updates.items.map Prod.fst
  · rw [if_pos hmem]
  · rw [if_neg hmem]
    exact Std.ExtTreeMap.getElem?_insertMany_list_of_contains_eq_false (by simpa using hmem)

/-! ## Whole calls -/

/-- A call that ended in its checks: with a refusal or an exception. -/
def Refused : Except Halt ApplyResult → Prop
  | .ok result => result.outcome.refuses = true
  | .error _ => True

/-- The mark of the shortcut. -/
def shortcut (rid : String) : App ApplyResult := do
  let _ ← setStatus .markUnchanged rid .applied
  pure { outcome := .applied, verified := true, detail := .alreadyAtTarget }

/-- How a call can go: it ends in its checks and changes nothing that lasts, or it
passes them and takes the shortcut, or fails to capture what a rollback needs, or goes
on to the mark `applying`. -/
theorem applyRevision_cases (host : Host) (rid confirm : String) (w : World) (calm : sur.Calm) :
    let run := applyRevision host rid confirm sur w
    ((∀ r webrtc updates, ¬ Proceeds host sur w rid confirm r webrtc updates) ∧ Refused run.1 ∧
      run.2.file = w.file ∧ run.2.journal = w.journal ∧ run.2.environ = w.environ) ∨
    ∃ r webrtc updates, Proceeds host sur w rid confirm r webrtc updates ∧
      ((atTarget host sur w updates = true ∧ run = shortcut rid sur (w.checked host sur)) ∨
      atTarget host sur w updates = false ∧
        ((∃ x, sur.firstTrouble captureSites = some x ∧ run = (.error x, w.checked host sur)) ∨
        (sur.firstTrouble captureSites = none ∧
          run = activate host rid webrtc updates (priorOf host (w.checked host sur) updates) sur
            (w.checked host sur)))) := by
  have hfile : (enter host rid confirm sur w).2.file = w.file := (lasting_file calm).enter w
  have hjournal : (enter host rid confirm sur w).2.journal = w.journal := lasting_journal.enter w
  have henviron : (enter host rid confirm sur w).2.environ = w.environ := lasting_environ.enter w
  simp only [applyRevision_eq, Action.run_bind]
  cases hrun : enter host rid confirm sur w with
  | mk answer w' =>
      simp only [hrun] at hfile hjournal henviron
      have hnone : (∀ passed, answer ≠ .ok (.inr passed)) →
          ∀ r webrtc updates, ¬ Proceeds host sur w rid confirm r webrtc updates := by
        intro hne r webrtc updates hproceeds
        have hpasses := enter_eq_inr.mpr ⟨⟨r, hproceeds⟩, rfl, rfl⟩
        rw [hrun, Prod.mk.injEq] at hpasses
        exact hne _ hpasses.1
      cases answer with
      | error x => exact Or.inl ⟨hnone (by simp), trivial, hfile, hjournal, henviron⟩
      | ok answer =>
          cases answer with
          | inl result =>
              exact Or.inl ⟨hnone (by simp), enter_refuses w _ w' hrun, hfile, hjournal, henviron⟩
          | inr passed =>
              obtain ⟨webrtc, updates, b⟩ := passed
              obtain ⟨⟨r, hproceeds⟩, rfl, rfl⟩ := enter_eq_inr.mp hrun
              refine Or.inr ⟨r, webrtc, updates, hproceeds, ?_⟩
              cases htarget : atTarget host sur w updates with
              | true => exact Or.inl ⟨rfl, by simp only [conclude, if_true]; rfl⟩
              | false =>
                  refine Or.inr ⟨rfl, ?_⟩
                  simp only [conclude, Bool.false_eq_true, if_false, Action.run_bind,
                    capture_calm calm]
                  cases htrouble : sur.firstTrouble captureSites with
                  | some x => exact Or.inl ⟨x, rfl, rfl⟩
                  | none => exact Or.inr ⟨rfl, rfl⟩

end Calm

end CameraStack.Runtime
