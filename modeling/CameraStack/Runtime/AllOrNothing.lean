/-
# All or nothing

A call that does not report success should leave no trace.  Up to the mark `applying`
nothing is written, so everything depends on the accesses behind it: the write itself
can fail harmlessly, but an access that fails between the replacement of the file and
the final mark leaves file, process and journal in disagreement.

`EndsClean` lists the failures that do no harm; `allOrNothing_iff` says that there are
no others.
-/

import CameraStack.Runtime.Stages

namespace CameraStack.Runtime

open CameraStack.Lib

/-! ## The property -/

/-- The status of a revision, if it exists and parses. -/
def World.statusOf (w : World) (rid : String) : Option Status :=
  if validId rid then w.journal[rid]?.bind Entry.status else none

/-- No apply of the revision is under way. -/
def Settled (w : World) (rid : String) : Prop :=
  ∀ s, w.statusOf rid = some s → s.inFlight = false

/-- The file, the two variables and the status show no trace of the call. -/
structure NoTrace (w w' : World) (rid : String) : Prop where
  file : w'.file = w.file
  ice : w'.environ["ICE_POLICY"]? = w.environ["ICE_POLICY"]?
  ttl : w'.environ["TURN_CRED_TTL"]? = w.environ["TURN_CRED_TTL"]?
  settled : Settled w' rid

/-- A call that claims to have changed something. -/
def reportsChange : Except Halt ApplyResult → Bool
  | .ok result => result.outcome = .applied || result.outcome = .rollbackFailed
  | .error _ => false

/-- A call that raises, or returns any other outcome, leaves no trace. -/
def AllOrNothing (w : World) (rid : String) (call : Except Halt ApplyResult × World) : Prop :=
  reportsChange call.1 = false → NoTrace w call.2 rid

/-! ## The condition -/

/-- The write ends before the file is replaced. -/
def WriteStops (fails : Site → Bool) (file : Option EnvFile) : Prop :=
  fails .rehash = true ∨ fails .mergeRead = true ∨ writable file = false ∨
    fails .mergeMode = true ∨ fails .replace = true

instance (fails : Site → Bool) (file : Option EnvFile) : Decidable (WriteStops fails file) :=
  inferInstanceAs (Decidable (_ ∨ _ ∨ _ ∨ _ ∨ _))

/-- The settings the verification after the write looks at. -/
def landedSettings (host : Host) (sur : Surroundings) (w : World) (updates : Updates) : Settings :=
  (sur.racing .appliedView).getD
    (readSettings host.cameraType (w.environ.insertMany updates.items))

/-- The verification after the write. -/
def verifiedAfter (host : Host) (sur : Surroundings) (w : World) (updates : Updates) : Bool :=
  updates.verify (landedSettings host sur w updates)
    (buildWebRtc (landedSettings host sur w updates))

/-- From the mark `applying` on, no access fails that would leave a trace. -/
def EndsClean (host : Host) (sur : Surroundings) (w : World) (updates : Updates) : Prop :=
  if sur.fails .markApplying = true then True
  else if WriteStops sur.fails w.file then sur.fails .markWriteFailed = false
  else if sur.fails .postHash = true then
    some (written w.file updates) = w.file ∧ sur.fails .markWriteFailed = false
  else if sur.fails .appliedView = true then False
  else if verifiedAfter host sur w updates = true then sur.fails .markApplied = false
  else
    sur.fails .markRollingBack = false ∧
      (sur.fails .restore = true ∨ sur.fails .markRolledBack = true →
        sur.fails .markRollbackFailed = false)

/-! ## Before the mark -/

section Trace

variable {host : Host} {sur : Surroundings} {w w' : World} {rid confirm : String} {r : Revision}
  {status : Status} {updates : Updates} {webrtc : WebRtcPatch}

theorem statusOf_of_record (hid : validId rid = true)
    (hentry : w.journal[rid]? = some (.record r)) : w.statusOf rid = some r.status := by
  rw [World.statusOf, if_pos hid, hentry]
  rfl

/-- A world that differs in the cache only shows no trace, if the revision was settled
before. -/
theorem noTrace_iff_settled (hfile : w'.file = w.file) (hjournal : w'.journal = w.journal)
    (henviron : w'.environ = w.environ) : NoTrace w w' rid ↔ Settled w rid := by
  have hstatus : w'.statusOf rid = w.statusOf rid := by
    rw [World.statusOf, World.statusOf, hjournal]
  constructor
  · intro h s hs
    exact h.settled s (hstatus.trans hs)
  · intro h
    exact ⟨hfile, by rw [henviron], by rw [henviron], fun s hs => h s (hstatus ▸ hs)⟩

theorem settled_mark (hid : validId rid = true) :
    Settled (w.mark rid r status) rid ↔ status.inFlight = false := by
  have hstatus : (w.mark rid r status).statusOf rid = some status :=
    statusOf_of_record hid (w.journal_mark rid r status)
  constructor
  · exact fun h => h status hstatus
  · intro h s hs
    rw [hstatus] at hs
    cases hs
    exact h

/-- A marked world shows a trace in its file or in its status. -/
theorem noTrace_mark (hid : validId rid = true) (henviron : w'.environ = w.environ) :
    NoTrace w (w'.mark rid r status) rid ↔ w'.file = w.file ∧ status.inFlight = false := by
  constructor
  · exact fun h => ⟨h.file, (settled_mark hid).mp h.settled⟩
  · intro h
    refine ⟨h.1, ?_, ?_, (settled_mark hid).mpr h.2⟩
    · rw [World.mark, henviron]
    · rw [World.mark, henviron]

end Trace

/-! ## Behind the mark -/

section Behind

variable {host : Host} {sur : Surroundings} {w : World} {rid : String} {r : Revision}
  {updates : Updates} {webrtc : WebRtcPatch} {cur : Dict String} {site : Site}

theorem trouble_up (up : ∀ site, sur.crashes site = false) :
    sur.trouble site = if sur.fails site then some (.raised (.failed site)) else none := by
  rw [Surroundings.trouble, up site]
  rfl

/-- The write stops with an exception that is no drift. -/
theorem writeLocked_stops (calm : sur.Calm) (up : ∀ site, sur.crashes site = false)
    (hcur : readKeys w.file = some cur) (hstops : WriteStops sur.fails w.file) :
    ∃ e, e ≠ PyError.drift ∧
      writeLocked host updates.items (host.hash w.file) sur w = (.error (.raised e), w) := by
  simp only [writeLocked_calm calm hcur, Surroundings.firstTrouble, List.findSome?_cons,
    List.findSome?_nil, trouble_up up]
  by_cases hrehash : sur.fails .rehash = true
  · exact ⟨.failed .rehash, by simp, by simp [hrehash]⟩
  · by_cases hmerge : sur.fails .mergeRead = true
    · exact ⟨.failed .mergeRead, by simp, by simp [hrehash, hmerge]⟩
    · by_cases hwritable : writable w.file = true
      · by_cases hmode : sur.fails .mergeMode = true
        · exact ⟨.failed .mergeMode, by simp, by simp [hrehash, hmerge, hwritable, hmode]⟩
        · have hreplace : sur.fails .replace = true := by
            simpa [WriteStops, hrehash, hmerge, hwritable, hmode] using hstops
          exact ⟨.failed .replace, by simp, by simp [hrehash, hmerge, hwritable, hmode, hreplace]⟩
      · exact ⟨.foreignKey, by simp, by simp [hrehash, hmerge, hwritable]⟩

/-- The write replaces the file, and the hash behind it may fail. -/
theorem writeLocked_lands (calm : sur.Calm) (up : ∀ site, sur.crashes site = false)
    (hcur : readKeys w.file = some cur) (hlands : ¬ WriteStops sur.fails w.file) :
    writeLocked host updates.items (host.hash w.file) sur w =
      (if sur.fails .postHash then .error (.raised (.failed .postHash))
        else .ok (host.hash (some (written w.file updates))),
        { w with file := some (written w.file updates) }) := by
  simp only [WriteStops, not_or, Bool.not_eq_true, Bool.not_eq_false] at hlands
  obtain ⟨hrehash, hmerge, hwritable, hmode, hreplace⟩ := hlands
  simp only [writeLocked_calm calm hcur, Surroundings.firstTrouble, List.findSome?_cons,
    List.findSome?_nil, trouble_up up, hrehash, hmerge, hwritable, hmode, hreplace]
  by_cases hpost : sur.fails .postHash = true
  · simp [hpost]
  · simp [hpost]

/-- The handler of a failed write. -/
theorem writeStage_failed (calm : sur.Calm) (up : ∀ site, sur.crashes site = false)
    (hid : validId rid = true) {prior : Prior} {e : PyError} {mid : World} (hne : e ≠ .drift)
    (hwrite : writeLocked host updates.items prior.hash sur w = (.error (.raised e), mid))
    (hentry : mid.journal[rid]? = some (.record r)) :
    writeStage host rid updates prior sur w =
      if sur.fails .markWriteFailed then (.error (.raised (.failed .markWriteFailed)), mid)
      else (.ok (some { outcome := .writeFailed, detail := .writeFailed e }),
        mid.mark rid r .validated) := by
  have hhandler : (do
      let _ ← setStatus .markWriteFailed rid .validated
      pure (some { outcome := .writeFailed, detail := .writeFailed e }) :
        App (Option ApplyResult)) sur mid =
      if sur.fails .markWriteFailed then (.error (.raised (.failed .markWriteFailed)), mid)
      else (.ok (some { outcome := .writeFailed, detail := .writeFailed e }),
        mid.mark rid r .validated) := by
    rw [Action.run_bind, setStatus_calm calm hid hentry, trouble_up up]
    by_cases hmark : sur.fails .markWriteFailed = true
    · simp [hmark]
    · simp [hmark]
  rw [writeStage, exceptException, Action.run_catching, Action.run_bind_error hwrite]
  cases e with
  | drift => exact absurd rfl hne
  | _ => exact hhandler

theorem writeStage_ok {prior : Prior} {h : String} {mid : World}
    (hwrite : writeLocked host updates.items prior.hash sur w = (.ok h, mid)) :
    writeStage host rid updates prior sur w = (.ok none, mid) := by
  rw [writeStage, exceptException, Action.run_catching, Action.run_bind_ok hwrite]
  rfl

/-- The world after a rollback up to the last mark. -/
def World.undone (w : World) (rid : String) (r : Revision) (prior : Prior) : World :=
  (w.mark rid r .rollingBack).deactivate prior.environ

/-- The file a rollback restores. -/
def Prior.file (prior : Prior) : Option EnvFile :=
  prior.content.map fun content => { content := content, mode := prior.mode }

theorem rollback_calm (calm : sur.Calm) (up : ∀ site, sur.crashes site = false)
    (hid : validId rid = true) (hentry : w.journal[rid]? = some (.record r)) (prior : Prior) :
    rollback rid prior sur w =
      if sur.fails .markRollingBack then (.error (.raised (.failed .markRollingBack)), w)
      else if sur.fails .restore then
        if sur.fails .markRollbackFailed then
          (.error (.raised (.failed .markRollbackFailed)), w.undone rid r prior)
        else
          (.ok { outcome := .rollbackFailed, detail := .rollbackFailed (.failed .restore) },
            (w.undone rid r prior).mark rid { r with status := .rollingBack } .rollbackFailed)
      else if sur.fails .markRolledBack then
        if sur.fails .markRollbackFailed then
          (.error (.raised (.failed .markRollbackFailed)),
            { w.undone rid r prior with file := prior.file })
        else
          (.ok { outcome := .rollbackFailed, detail := .rollbackFailed (.failed .markRolledBack) },
            ({ w.undone rid r prior with file := prior.file }).mark rid
              { r with status := .rollingBack } .rollbackFailed)
      else
        (.ok { outcome := .rolledBack, detail := .verifyFailed },
          ({ w.undone rid r prior with file := prior.file }).mark rid
            { r with status := .rollingBack } .rolledBack) := by
  have hundone : (w.undone rid r prior).journal[rid]? =
      some (.record { r with status := .rollingBack }) := w.journal_mark rid r .rollingBack
  have hrestored : ({ w.undone rid r prior with file := prior.file }).journal[rid]? =
      some (.record { r with status := .rollingBack }) := hundone
  simp only [rollback, Action.run_bind, setStatus_calm calm hid hentry, trouble_up up]
  by_cases hmark : sur.fails .markRollingBack = true
  · simp [hmark]
  · simp only [hmark, Bool.false_eq_true, if_false, Action.run_modify, exceptException,
      Action.run_catching, Action.run_bind, replaceFile_calm calm, trouble_up up]
    rw [← World.undone]
    by_cases hrestore : sur.fails .restore = true
    · simp only [hrestore, if_true, Action.run_bind, setStatus_calm calm hid hundone,
        trouble_up up]
      by_cases hfailed : sur.fails .markRollbackFailed = true
      · simp [hfailed]
      · simp [hfailed]
    · simp only [hrestore, Bool.false_eq_true, if_false]
      rw [← Prior.file, setStatus_calm calm hid hrestored, trouble_up up]
      by_cases hrolled : sur.fails .markRolledBack = true
      · simp only [hrolled, if_true, Action.run_bind, setStatus_calm calm hid hrestored,
          trouble_up up]
        by_cases hfailed : sur.fails .markRollbackFailed = true
        · simp [hfailed]
        · simp [hfailed]
      · simp [hrolled]

/-- The world between the replacement of the file and the verification. -/
def World.landed (w : World) (rid : String) (r : Revision) (updates : Updates) : World :=
  ({ w with file := some (written w.file updates) } : World).mark rid r .applying

/-- The world in which the result is verified. -/
def World.live (w : World) (host : Host) (sur : Surroundings) (rid : String) (r : Revision)
    (updates : Updates) : World :=
  { (w.landed rid r updates).activate updates.items with
    cache := some (landedSettings host sur w updates) }

theorem World.live_entry (w : World) :
    (w.live host sur rid r updates).journal[rid]? =
      some (.record { r with status := .applying }) :=
  w.journal_mark rid r .applying

theorem finish_calm (calm : sur.Calm) (up : ∀ site, sur.crashes site = false)
    (hid : validId rid = true) (prior : Prior) :
    finish host rid webrtc updates prior sur (w.landed rid r updates) =
      if sur.fails .appliedView then
        (.error (.raised (.failed .appliedView)), w.live host sur rid r updates)
      else if verifiedAfter host sur w updates then
        if sur.fails .markApplied then
          (.error (.raised (.failed .markApplied)), w.live host sur rid r updates)
        else
          (.ok { outcome := .applied, changed := true, verified := true,
                 applied := webrtc.reported },
            (w.live host sur rid r updates).mark rid { r with status := .applying } .applied)
      else rollback rid prior sur (w.live host sur rid r updates) := by
  have hsettings : settingsAt host sur .appliedView
      ((w.landed rid r updates).activate updates.items) = landedSettings host sur w updates := by
    cases hrace : sur.racing .appliedView with
    | none =>
        simp only [settingsAt, landedSettings, hrace, World.activate]
        rfl
    | some s =>
        simp only [settingsAt, landedSettings, hrace]
        rfl
  simp only [finish, Action.run_bind, Action.run_modify, verifyAt_calm calm, trouble_up up,
    hsettings]
  rw [← World.live]
  by_cases hview : sur.fails .appliedView = true
  · simp [hview]
  · simp only [hview, Bool.false_eq_true, if_false]
    rw [← verifiedAfter]
    cases hverified : verifiedAfter host sur w updates with
    | false => simp
    | true =>
        simp only [if_true, Action.run_bind, setStatus_calm calm hid w.live_entry, trouble_up up]
        by_cases hmark : sur.fails .markApplied = true
        · simp [hmark]
        · simp [hmark]

/-- The end of a failed write. -/
def failedWrite (sur : Surroundings) (rid : String) (r : Revision) (e : PyError) (mid : World) :
    Except Halt ApplyResult × World :=
  if sur.fails .markWriteFailed then (.error (.raised (.failed .markWriteFailed)), mid)
  else
    (.ok { outcome := .writeFailed, detail := .writeFailed e },
      mid.mark rid { r with status := .applying } .validated)

/-- Whatever follows a write that failed returns what the write reported. -/
theorem writeStage_bind_failed {prior : Prior} {e : PyError} {mid : World}
    {rest : Option ApplyResult → App ApplyResult} (calm : sur.Calm)
    (up : ∀ site, sur.crashes site = false) (hid : validId rid = true)
    (hrest : ∀ result, rest (some result) = pure result) (hne : e ≠ .drift)
    (hwrite : writeLocked host updates.items prior.hash sur w = (.error (.raised e), mid))
    (hmid : mid.journal[rid]? = some (.record { r with status := .applying })) :
    (writeStage host rid updates prior >>= rest) sur w = failedWrite sur rid r e mid := by
  rw [Action.run_bind, writeStage_failed calm up hid hne hwrite hmid, failedWrite]
  by_cases hmark : sur.fails .markWriteFailed = true
  · simp [hmark]
  · simp [hmark, hrest]

/-- All a call can do behind the checks, with the failures that lead there. -/
theorem activate_cases (host : Host) (webrtc : WebRtcPatch) (updates : Updates)
    (calm : sur.Calm) (up : ∀ site, sur.crashes site = false) (hid : validId rid = true)
    (hentry : w.journal[rid]? = some (.record r)) (hcur : readKeys w.file = some cur) :
    let run := activate host rid webrtc updates (priorOf host w updates) sur w
    (sur.fails .markApplying = true ∧ run = (.error (.raised (.failed .markApplying)), w)) ∨
    sur.fails .markApplying = false ∧
      ((WriteStops sur.fails w.file ∧ ∃ e, run = failedWrite sur rid r e (w.mark rid r .applying)) ∨
      ¬ WriteStops sur.fails w.file ∧
        ((sur.fails .postHash = true ∧
          run = failedWrite sur rid r (.failed .postHash) (w.landed rid r updates)) ∨
        sur.fails .postHash = false ∧
          ((sur.fails .appliedView = true ∧
            run = (.error (.raised (.failed .appliedView)), w.live host sur rid r updates)) ∨
          sur.fails .appliedView = false ∧
            ((verifiedAfter host sur w updates = true ∧ sur.fails .markApplied = true ∧
              run = (.error (.raised (.failed .markApplied)), w.live host sur rid r updates)) ∨
            (verifiedAfter host sur w updates = true ∧ sur.fails .markApplied = false ∧
              run =
                (.ok { outcome := .applied, changed := true, verified := true,
                       applied := webrtc.reported },
                  (w.live host sur rid r updates).mark rid { r with status := .applying }
                    .applied)) ∨
            (verifiedAfter host sur w updates = false ∧
              run =
                rollback rid (priorOf host w updates) sur (w.live host sur rid r updates)))))) := by
  simp only [activate, Action.run_bind, setStatus_calm calm hid hentry, trouble_up up]
  by_cases hmark : sur.fails .markApplying = true
  · exact Or.inl ⟨hmark, by simp [hmark]⟩
  refine Or.inr ⟨by simpa using hmark, ?_⟩
  simp only [hmark, Bool.false_eq_true, if_false]
  by_cases hstops : WriteStops sur.fails w.file
  · obtain ⟨e, hne, hwrite⟩ : ∃ e, e ≠ PyError.drift ∧ writeLocked host updates.items
        (priorOf host w updates).hash sur (w.mark rid r .applying) =
          (.error (.raised e), w.mark rid r .applying) :=
      writeLocked_stops (w := w.mark rid r .applying) calm up hcur hstops
    exact Or.inl ⟨hstops, e, writeStage_bind_failed calm up hid (fun _ => rfl) hne hwrite
      (w.journal_mark rid r .applying)⟩
  refine Or.inr ⟨hstops, ?_⟩
  have hwrite : writeLocked host updates.items (priorOf host w updates).hash sur
      (w.mark rid r .applying) = (_, w.landed rid r updates) :=
    writeLocked_lands (w := w.mark rid r .applying) calm up hcur hstops
  by_cases hpost : sur.fails .postHash = true
  · rw [if_pos hpost] at hwrite
    exact Or.inl ⟨hpost, writeStage_bind_failed calm up hid (fun _ => rfl) (by simp) hwrite
      (World.journal_mark _ rid r .applying)⟩
  refine Or.inr ⟨by simpa using hpost, ?_⟩
  rw [if_neg hpost] at hwrite
  simp only [writeStage_ok hwrite, finish_calm calm up hid]
  by_cases hview : sur.fails .appliedView = true
  · exact Or.inl ⟨hview, by simp [hview]⟩
  refine Or.inr ⟨by simpa using hview, ?_⟩
  cases hverified : verifiedAfter host sur w updates with
  | false => exact Or.inr (Or.inr ⟨rfl, by simp [hview]⟩)
  | true =>
      by_cases hfinal : sur.fails .markApplied = true
      · exact Or.inl ⟨rfl, hfinal, by simp [hview, hfinal]⟩
      · exact Or.inr (Or.inl ⟨rfl, by simpa using hfinal, by simp [hview, hfinal]⟩)

/-- A failed write leaves no trace if the file is the old one and the mark can be taken
back. -/
theorem allOrNothing_failedWrite (hid : validId rid = true) (file : Option EnvFile) (e : PyError) :
    AllOrNothing w rid (failedWrite sur rid r e (({ w with file := file } : World).mark rid r
      .applying)) ↔ file = w.file ∧ sur.fails .markWriteFailed = false := by
  have htrace : ∀ status, NoTrace w (({ w with file := file } : World).mark rid r status) rid ↔
      file = w.file ∧ status.inFlight = false := fun _ => noTrace_mark (w := w) hid rfl
  by_cases hmark : sur.fails .markWriteFailed = true
  · simp only [failedWrite, hmark, if_true, AllOrNothing, reportsChange, htrace]
    simp [Status.inFlight]
  · simp only [failedWrite, hmark, Bool.false_eq_true, if_false, World.mark_mark, AllOrNothing,
      reportsChange, htrace]
    simp [Status.inFlight]

/-- A rollback leaves no trace, or says that it failed, unless a mark is lost. -/
theorem allOrNothing_rollback (calm : sur.Calm) (up : ∀ site, sur.crashes site = false)
    (hid : validId rid = true) :
    AllOrNothing w rid (rollback rid (priorOf host w updates) sur
        (w.live host sur rid r updates)) ↔
      sur.fails .markRollingBack = false ∧
        (sur.fails .restore = true ∨ sur.fails .markRolledBack = true →
          sur.fails .markRollbackFailed = false) := by
  set live := w.live host sur rid r updates
  set prior := priorOf host w updates
  set undone := live.undone rid { r with status := .applying } prior
  have hstuck : ∀ (mid : World) status, mid.statusOf rid = some status →
      status.inFlight = true → ∀ x, ¬ AllOrNothing w rid (.error x, mid) := by
    intro mid status hstatus hflight x h
    rw [(h rfl).settled status hstatus] at hflight
    cases hflight
  have hundone : ∀ file : Option EnvFile,
      ({ undone with file := file } : World).statusOf rid = some .rollingBack := fun _ =>
    statusOf_of_record hid (live.journal_mark rid _ .rollingBack)
  rw [rollback_calm calm up hid w.live_entry]
  by_cases hrolling : sur.fails .markRollingBack = true
  · simp only [hrolling, if_true, Bool.true_eq_false, false_and, iff_false]
    exact hstuck live .applying (statusOf_of_record hid w.live_entry) rfl _
  simp only [hrolling, Bool.false_eq_true, if_false, true_and]
  by_cases hrestore : sur.fails .restore = true
  · by_cases hfailed : sur.fails .markRollbackFailed = true
    · simp only [hrestore, hfailed, if_true]
      simpa using hstuck undone .rollingBack (hundone undone.file) rfl _
    · simp [hrestore, hfailed, AllOrNothing, reportsChange]
  by_cases hrolled : sur.fails .markRolledBack = true
  · by_cases hfailed : sur.fails .markRollbackFailed = true
    · simp only [hrestore, hrolled, hfailed, Bool.false_eq_true, if_true, if_false]
      simpa using hstuck _ .rollingBack (hundone prior.file) rfl _
    · simp [hrestore, hrolled, hfailed, AllOrNothing, reportsChange]
  have henviron : ({ undone with file := prior.file } : World).environ = w.environ :=
    restore_environ w.environ
  simp only [hrestore, hrolled, Bool.false_eq_true, if_false, or_self, false_implies, iff_true]
  exact fun _ => (noTrace_mark hid henviron).mpr ⟨priorOf_file w, rfl⟩

/-- From the mark on, exactly the failures of `EndsClean` do no harm. -/
theorem activate_allOrNothing (calm : sur.Calm) (up : ∀ site, sur.crashes site = false)
    (hid : validId rid = true) (hentry : w.journal[rid]? = some (.record r))
    (hvalidated : r.status = .validated) (hcur : readKeys w.file = some cur) :
    AllOrNothing w rid (activate host rid webrtc updates (priorOf host w updates) sur w) ↔
      EndsClean host sur w updates := by
  have hlive : ∀ x, ¬ AllOrNothing w rid (.error x, w.live host sur rid r updates) := by
    intro x h
    exact absurd ((h rfl).settled _ (statusOf_of_record hid w.live_entry)) (by simp [Status.inFlight])
  unfold EndsClean
  rcases activate_cases host webrtc updates calm up hid hentry hcur with
    ⟨hmark, hrun⟩ | ⟨hmark, ⟨hstops, e, hrun⟩ | ⟨hstops, ⟨hpost, hrun⟩ | ⟨hpost, ⟨hview, hrun⟩ |
      ⟨hview, ⟨hverified, hfinal, hrun⟩ | ⟨hverified, hfinal, hrun⟩ | ⟨hverified, hrun⟩⟩⟩⟩⟩
  · simp only [hrun, hmark, if_true, iff_true]
    intro _
    apply (noTrace_iff_settled rfl rfl rfl).mpr
    intro s hs
    rw [statusOf_of_record hid hentry, hvalidated] at hs
    cases hs
    rfl
  · rw [hrun, if_neg (by simp [hmark]), if_pos hstops]
    exact (allOrNothing_failedWrite hid w.file e).trans (by simp)
  · rw [hrun, if_neg (by simp [hmark]), if_neg hstops, if_pos hpost]
    exact allOrNothing_failedWrite hid _ _
  · rw [hrun, if_neg (by simp [hmark]), if_neg hstops, if_neg (by simp [hpost]), if_pos hview]
    exact iff_false_intro (hlive _)
  · rw [hrun, if_neg (by simp [hmark]), if_neg hstops, if_neg (by simp [hpost]),
      if_neg (by simp [hview]), if_pos hverified]
    simpa [hfinal] using hlive _
  · rw [hrun, if_neg (by simp [hmark]), if_neg hstops, if_neg (by simp [hpost]),
      if_neg (by simp [hview]), if_pos hverified]
    simp [hfinal, AllOrNothing, reportsChange]
  · rw [hrun, if_neg (by simp [hmark]), if_neg hstops, if_neg (by simp [hpost]),
      if_neg (by simp [hview]), if_neg (by simp [hverified])]
    exact allOrNothing_rollback calm up hid

end Behind

/-! ## Whole calls -/

section Call

variable {host : Host} {sur : Surroundings} {w : World} {rid confirm : String}

/-- The call gets as far as the mark `applying`. -/
def ReachesMark (host : Host) (sur : Surroundings) (w : World) (rid confirm : String)
    (updates : Updates) : Prop :=
  (∃ r webrtc, Proceeds host sur w rid confirm r webrtc updates) ∧
    atTarget host sur w updates = false ∧ ∀ site ∈ captureSites, sur.Passes site

/-- A call that does not pass the checks leaves the world as it was. -/
theorem allOrNothing_of_refused {result : Except Halt ApplyResult} {w' : World}
    (hfile : w'.file = w.file) (hjournal : w'.journal = w.journal)
    (henviron : w'.environ = w.environ) (hresult : reportsChange result = false) :
    AllOrNothing w rid (result, w') ↔ Settled w rid := by
  rw [← noTrace_iff_settled hfile hjournal henviron]
  exact ⟨fun h => h hresult, fun h _ => h⟩

/-- The property and its condition look at the file and the environment only. -/
theorem allOrNothing_congr {w' : World} {call : Except Halt ApplyResult × World}
    (hfile : w'.file = w.file) (henviron : w'.environ = w.environ) :
    AllOrNothing w rid call ↔ AllOrNothing w' rid call := by
  have htrace : NoTrace w call.2 rid ↔ NoTrace w' call.2 rid := by
    constructor
    · exact fun h => ⟨hfile ▸ h.file, henviron ▸ h.ice, henviron ▸ h.ttl, h.settled⟩
    · exact fun h => ⟨hfile ▸ h.file, henviron ▸ h.ice, henviron ▸ h.ttl, h.settled⟩
  exact imp_congr_right fun _ => htrace

theorem endsClean_congr {w' : World} {updates : Updates} (hfile : w'.file = w.file)
    (henviron : w'.environ = w.environ) :
    EndsClean host sur w' updates ↔ EndsClean host sur w updates := by
  rcases w with ⟨file, journal, environ, cache⟩
  rcases w' with ⟨file', journal', environ', cache'⟩
  subst hfile henviron
  rfl

theorem applyRevision_allOrNothing (calm : sur.Calm) (up : ∀ site, sur.crashes site = false) :
    AllOrNothing w rid (applyRevision host rid confirm sur w) ↔
      Settled w rid ∧ ∀ updates, ReachesMark host sur w rid confirm updates →
        EndsClean host sur w updates := by
  have hfile : (w.checked host sur).file = w.file := calm.fileAfter _ _
  rcases applyRevision_cases host rid confirm w calm with
    ⟨hnone, hrefused, hsame, hjournal, henviron⟩ | ⟨r, webrtc, updates, hproceeds, hrest⟩
  · have hquiet : reportsChange (applyRevision host rid confirm sur w).1 = false := by
      cases hresult : (applyRevision host rid confirm sur w).1 with
      | error x => rfl
      | ok result =>
          rw [hresult] at hrefused
          cases houtcome : result.outcome <;>
            simp_all [Refused, reportsChange, Outcome.refuses]
    rw [← Prod.mk.eta (p := applyRevision host rid confirm sur w),
      allOrNothing_of_refused hsame hjournal henviron hquiet]
    have hmark : ∀ updates, ¬ ReachesMark host sur w rid confirm updates := by
      rintro updates ⟨⟨r, webrtc, hproceeds⟩, -⟩
      exact hnone r webrtc updates hproceeds
    simp [hmark]
  · have hvalidated := validated_of_admission hproceeds.admitted
    have hentry : (w.checked host sur).journal[rid]? = some (.record r) := hproceeds.record
    have hsettled : Settled w rid := by
      intro s hs
      rw [statusOf_of_record hproceeds.id hproceeds.record, hvalidated] at hs
      cases hs
      rfl
    have hunique : ∀ updates', ReachesMark host sur w rid confirm updates' →
        updates' = updates := fun updates' h => by
      obtain ⟨r', webrtc', hproceeds'⟩ := h.1
      exact (hproceeds'.unique hproceeds).2
    simp only [hsettled, true_and]
    rcases hrest with ⟨htarget, hrun⟩ | ⟨htarget, ⟨x, htrouble, hrun⟩ | ⟨htrouble, hrun⟩⟩
    · have hmark : ∀ updates', ¬ ReachesMark host sur w rid confirm updates' := by
        intro updates' h
        have hfalse := h.2.1
        rw [hunique updates' h, htarget] at hfalse
        cases hfalse
      simp only [hmark, false_implies, implies_true, iff_true, hrun, shortcut, Action.run_bind,
        setStatus_calm calm hproceeds.id hentry]
      cases sur.trouble .markUnchanged with
      | some x => exact (allOrNothing_of_refused hfile rfl rfl rfl).mpr hsettled
      | none => simp [AllOrNothing, reportsChange]
    · have hmark : ∀ updates', ¬ ReachesMark host sur w rid confirm updates' := by
        intro updates' h
        rw [firstTrouble_eq_none.mpr h.2.2] at htrouble
        cases htrouble
      simp only [hmark, false_implies, implies_true, iff_true, hrun]
      exact (allOrNothing_of_refused hfile rfl rfl rfl).mpr hsettled
    · obtain ⟨cur, hcur, -⟩ := hproceeds.coherent
      rw [calm.fileAfter, ← hfile] at hcur
      rw [hrun, allOrNothing_congr hfile rfl, activate_allOrNothing calm up hproceeds.id hentry
        hvalidated hcur, endsClean_congr hfile rfl]
      constructor
      · intro h updates' hreaches
        rw [hunique updates' hreaches]
        exact h
      · intro h
        exact h updates ⟨⟨r, webrtc, hproceeds⟩, htarget, firstTrouble_eq_none.mp htrouble⟩

end Call

/-- In every world, for every revision and every confirmation, whatever accesses fail:
the call is all or nothing exactly when the revision was settled before and, should
the call get as far as the mark `applying`, no failure behind the mark leaves a trace. -/
theorem apply_allOrNothing_iff (host : Host) (held : Bool) (fails : Site → Bool)
    (racing : Site → Option Settings) (w : World) (rid confirm : String) :
    let sur : Surroundings := { held := held, fails := fails, racing := racing }
    AllOrNothing w rid (applyRevision host rid confirm sur w) ↔
      Settled w rid ∧ ∀ updates, ReachesMark host sur w rid confirm updates →
        EndsClean host sur w updates :=
  applyRevision_allOrNothing (fun _ => rfl) fun _ => rfl

/-- The hash behind the replacement fails: the call reports a failed write, the file
holds the new policy, and the process goes on with the old one. -/
theorem failed_hash_leaves_new_file :
    ¬ ∀ (host : Host) (held : Bool) (fails : Site → Bool) (racing : Site → Option Settings)
        (w : World) (rid confirm : String),
      AllOrNothing w rid (applyRevision host rid confirm
        { held := held, fails := fails, racing := racing } w) := by
  intro hclaim
  let call := applyRevision (exampleHost "color_camera") exampleId ("apply-" ++ exampleDiffHash)
    { fails := fun site => site = .postHash } exampleWorld
  have hnothing : AllOrNothing exampleWorld exampleId call := hclaim _ _ _ _ _ _ _
  have hfile := (hnothing (by decide +kernel)).file
  exact absurd hfile (by decide +kernel)

end CameraStack.Runtime
