/-
# Recovery after a crash

The machine can go down anywhere in an apply.  What remains is the file and the
journal: `recover_on_boot` goes through the journal once and settles every revision
whose apply was under way by comparing the file with the one the revision was
validated against.

`Phase` lists what an apply can leave on disk; `recovered_after_crash` says what the
sweep makes of it.
-/

import CameraStack.Runtime.Applied

namespace CameraStack.Runtime

open CameraStack.Lib

/-! ## The sweep -/

/-- The status a revision under way is settled with; `none` for all others. -/
def reconciled (host : Host) (file : Option EnvFile) (r : Revision) : Option Status :=
  let atBase : Bool := r.fileHashesBefore.lookup host.runtimeEnvPath = some (host.hash file)
  match r.status with
  | .applying => some (if atBase then .rolledBack else .applied)
  | .rollingBack => some (if atBase then .rolledBack else .rollbackFailed)
  | _ => none

/-- One turn of the loop of `recover_on_boot`; an unparseable file raises. -/
def recoverOne (host : Host) (file : Option EnvFile) (rid : String) :
    Action Unit Journal PyError ℕ := do
  let journal ← Action.get
  if validId rid then
    match journal[rid]? with
    | none => pure 0
    | some .corrupt => Action.halt .storeCorrupt
    | some (.record r) =>
        match reconciled host file r with
        | none => pure 0
        | some status => do
            Action.modify fun journal => journal.insert rid (.record { r with status := status })
            pure 1
  else pure 0

/-- The loop over the listed revisions. -/
def recoverEach (host : Host) (file : Option EnvFile) : List String → Action Unit Journal PyError ℕ
  | [] => pure 0
  | rid :: rest => do
      let n ← recoverOne host file rid
      let m ← recoverEach host file rest
      pure (n + m)

/-- `recover_on_boot`: the number of revisions settled. -/
def recoverOnBoot (host : Host) (file : Option EnvFile) : Action Unit Journal PyError ℕ := do
  let journal ← Action.get
  recoverEach host file (listRevisions journal)

/-- What the sweep leaves of a journal. -/
def recoveredJournal (host : Host) (file : Option EnvFile) (journal : Journal) : Journal :=
  (recoverOnBoot host file () journal).2

/-- The status a journal shows for a revision, if it exists and parses. -/
def journalStatus (journal : Journal) (rid : String) : Option Status :=
  if validId rid then journal[rid]?.bind Entry.status else none

section Sweep

variable {host : Host} {file : Option EnvFile} {journal : Journal} {rid : String}

/-- A file of the journal as the sweep leaves it. -/
def Entry.recovered (host : Host) (file : Option EnvFile) : Entry → Entry
  | .corrupt => .corrupt
  | .record r => .record { r with status := (reconciled host file r).getD r.status }

theorem reconciled_eq_none {r : Revision} :
    reconciled host file r = none ↔ r.status.inFlight = false := by
  unfold reconciled
  cases r.status <;> simp [Status.inFlight]

theorem inFlight_reconciled {r : Revision} {status : Status}
    (h : reconciled host file r = some status) : status.inFlight = false := by
  unfold reconciled at h
  split at h
  · cases h
    split <;> rfl
  · cases h
    split <;> rfl
  · cases h

/-- No file is under way after the sweep has passed it. -/
theorem inFlight_recovered (entry : Entry) {status : Status}
    (h : (entry.recovered host file).status = some status) : status.inFlight = false := by
  cases entry with
  | corrupt => cases h
  | record r =>
      simp only [Entry.recovered, Entry.status, Option.some.injEq] at h
      cases hr : reconciled host file r with
      | some settled =>
          rw [hr, Option.getD_some] at h
          exact h ▸ inFlight_reconciled hr
      | none =>
          rw [hr, Option.getD_none] at h
          exact h ▸ reconciled_eq_none.mp hr

/-- One turn settles its revision and leaves the others. -/
theorem recoverOne_run (host : Host) (file : Option EnvFile) (h : journal[rid]? ≠ some .corrupt) :
    ∃ n journal', recoverOne host file rid () journal = (.ok n, journal') ∧
      ∀ k, journal'[k]? = if k = rid ∧ validId rid = true
        then journal[k]?.map (Entry.recovered host file) else journal[k]? := by
  by_cases hid : validId rid = true
  · cases hentry : journal[rid]? with
    | none =>
        refine ⟨0, journal, by simp [recoverOne, Action.run_bind, hid, hentry], fun k => ?_⟩
        split
        · next hk => simp [hk.1, hentry]
        · rfl
    | some entry =>
        cases entry with
        | corrupt => exact absurd hentry h
        | record r =>
            cases hr : reconciled host file r with
            | none =>
                refine ⟨0, journal, by simp [recoverOne, Action.run_bind, hid, hentry, hr],
                  fun k => ?_⟩
                split
                · next hk => simp [hk.1, hentry, Entry.recovered, hr]
                · rfl
            | some status =>
                refine ⟨1, journal.insert rid (.record { r with status := status }),
                  by simp [recoverOne, Action.run_bind, hid, hentry, hr], fun k => ?_⟩
                rw [Dict.getElem?_insert]
                by_cases hk : rid = k
                · subst hk
                  simp [hid, hentry, Entry.recovered, hr]
                · simp [hk, Ne.symm hk]
  · exact ⟨0, journal, by simp [recoverOne, Action.run_bind, hid], fun k => by simp [hid]⟩

/-- The loop settles the revisions it lists, if every file parses. -/
theorem recoverEach_run (host : Host) (file : Option EnvFile) {rids : List String}
    (hdistinct : rids.Nodup) (h : ∀ rid ∈ rids, journal[rid]? ≠ some .corrupt) :
    ∃ n journal', recoverEach host file rids () journal = (.ok n, journal') ∧
      ∀ k, journal'[k]? = if k ∈ rids ∧ validId k = true
        then journal[k]?.map (Entry.recovered host file) else journal[k]? := by
  induction rids generalizing journal with
  | nil => exact ⟨0, journal, rfl, fun k => by simp⟩
  | cons rid rest ih =>
      obtain ⟨hnotin, hrest⟩ := List.nodup_cons.mp hdistinct
      obtain ⟨n, mid, hone, hmid⟩ := recoverOne_run host file (h rid List.mem_cons_self)
      have hparse : ∀ rid' ∈ rest, mid[rid']? ≠ some .corrupt := by
        intro rid' hmem
        rw [hmid, if_neg]
        · exact h rid' (List.mem_cons_of_mem _ hmem)
        · rintro ⟨rfl, -⟩
          exact hnotin hmem
      obtain ⟨m, journal', heach, hjournal'⟩ := ih hrest hparse
      refine ⟨n + m, journal', ?_, fun k => ?_⟩
      · rw [recoverEach, Action.run_bind_ok hone, Action.run_bind_ok heach]
        rfl
      · rw [hjournal', hmid]
        by_cases hk : k = rid
        · subst hk
          simp [hnotin]
        · simp [hk]

/-- The sweep of a journal that parses settles every revision. -/
theorem recoveredJournal_getElem? (h : ∀ rid : String, journal[rid]? ≠ some .corrupt)
    (hid : validId rid = true) :
    (recoveredJournal host file journal)[rid]? =
      journal[rid]?.map (Entry.recovered host file) := by
  have hdistinct : (listRevisions journal).Nodup :=
    Std.ExtTreeMap.nodup_keys.filter _
  obtain ⟨n, journal', hrun, hjournal'⟩ :=
    recoverEach_run host file hdistinct fun rid _ => h rid
  have hall : recoveredJournal host file journal = journal' := by
    rw [recoveredJournal, recoverOnBoot, Action.run_bind]
    exact congrArg Prod.snd hrun
  rw [hall, hjournal']
  by_cases hmem : rid ∈ listRevisions journal
  · rw [if_pos ⟨hmem, hid⟩]
  · rw [if_neg (fun hand => hmem hand.1)]
    -- a revision that is not listed is not in the journal
    have hnone : journal[rid]? = none := by
      apply Std.ExtTreeMap.getElem?_eq_none
      intro hin
      apply hmem
      rw [listRevisions, List.mem_filter, Std.ExtTreeMap.mem_keys]
      simp only [validId, Bool.and_eq_true] at hid
      exact ⟨hin, hid.2⟩
    rw [hnone]
    rfl

end Sweep

/-! ## What a crash leaves -/

/-- What can lie on disk while a revision is applied: the old file or, if it has our keys
alone, the new one, and the status of the revision. -/
inductive Phase (old : Option EnvFile) (updates : Updates) : Option EnvFile → Status → Prop
  | waiting : Phase old updates old .validated
  | marked : Phase old updates old .applying
  | landed (h : writable old = true) : Phase old updates (some (written old updates)) .applying
  | applied (h : writable old = true) : Phase old updates (some (written old updates)) .applied
  | rejected (h : writable old = true) :
      Phase old updates (some (written old updates)) .rollingBack
  | restored : Phase old updates old .rollingBack
  | rolledBack : Phase old updates old .rolledBack

/-- The disk shows a file and a status; the rest of the journal is that of `w`. -/
structure Shows (w : World) (rid : String) (r : Revision) (w' : World) (file : Option EnvFile)
    (status : Status) : Prop where
  file : w'.file = file
  journal : w'.journal = (w.mark rid r status).journal

/-- The disk is in one of the phases. -/
def InPhase (w : World) (rid : String) (r : Revision) (updates : Updates) (w' : World) : Prop :=
  ∃ file status, Phase w.file updates file status ∧ Shows w rid r w' file status

section Crash

variable {host : Host} {sur : Surroundings} {w w' : World} {rid confirm : String} {r : Revision}
  {webrtc : WebRtcPatch} {updates : Updates} {file : Option EnvFile} {status : Status} {site : Site}

theorem Shows.entry (h : Shows w rid r w' file status) :
    w'.journal[rid]? = some (.record { r with status := status }) := by
  rw [h.journal]
  exact w.journal_mark rid r status

/-- Setting a status comes to its end or finds the machine down. -/
theorem Shows.setStatus (h : Shows w rid r w' file status) (site : Site) (status' : Status)
    (calm : sur.Calm) (sound : ∀ site, sur.fails site = false) (hid : validId rid = true) :
    setStatus site rid status' sur w' = (.error .crashed, w') ∨
      ∃ w'', Runtime.setStatus site rid status' sur w' = (.ok true, w'') ∧
        Shows w rid r w'' file status' := by
  rw [setStatus_calm calm hid h.entry, Surroundings.trouble, sound site]
  cases sur.crashes site with
  | true => exact Or.inl rfl
  | false =>
      refine Or.inr ⟨_, rfl, h.file, ?_⟩
      have hmark := congrArg World.journal (World.mark_mark w rid r status status')
      rw [← hmark]
      simp only [World.mark, h.journal]

theorem trouble_sound (sound : ∀ site, sur.fails site = false) :
    sur.trouble site = if sur.crashes site then some .crashed else none := by
  rw [Surroundings.trouble, sound site]
  rfl

/-- A rollback takes the disk from the landed file through the mark to the old one. -/
theorem rollback_inPhase (calm : sur.Calm) (sound : ∀ site, sur.fails site = false)
    (hid : validId rid = true) (hours : writable w.file = true) {prior : Prior}
    (hprior : prior.file = w.file)
    (h : Shows w rid r w' (some (written w.file updates)) .applying) :
    InPhase w rid r updates (rollback rid prior sur w').2 := by
  rw [rollback]
  rcases h.setStatus .markRollingBack .rollingBack calm sound hid with
    hdown | ⟨w₁, hmark, h₁⟩
  · rw [Action.run_bind_error hdown]
    exact ⟨_, _, .landed hours, h⟩
  · rw [Action.run_bind_ok hmark, Action.run_bind_ok Action.run_modify, exceptException,
      Action.run_catching]
    have h₂ : Shows w rid r (w₁.deactivate prior.environ) (some (written w.file updates))
        .rollingBack := ⟨h₁.file, h₁.journal⟩
    have hrestore : replaceFile .restore prior.file sur (w₁.deactivate prior.environ) = _ :=
      replaceFile_calm calm
    rw [trouble_sound sound, Prior.file] at hrestore
    cases hcrash : sur.crashes .restore with
    | true =>
        rw [hcrash] at hrestore
        rw [Action.run_bind_error hrestore]
        exact ⟨_, _, .rejected hours, h₂⟩
    | false =>
        rw [hcrash] at hrestore
        rw [Action.run_bind_ok hrestore]
        have h₃ : Shows w rid r { w₁.deactivate prior.environ with file := prior.file } w.file
            .rollingBack := ⟨hprior, h₁.journal⟩
        rcases h₃.setStatus .markRolledBack .rolledBack calm sound hid with
          hdown | ⟨w₂, hmark₂, h₄⟩
        · rw [Prior.file] at hdown
          rw [Action.run_bind_error hdown]
          exact ⟨_, _, .restored, h₃⟩
        · rw [Prior.file] at hmark₂
          rw [Action.run_bind_ok hmark₂]
          exact ⟨_, _, .rolledBack, h₄⟩

theorem finish_inPhase (calm : sur.Calm) (sound : ∀ site, sur.fails site = false)
    (hid : validId rid = true) (hours : writable w.file = true) {prior : Prior}
    (hprior : prior.file = w.file)
    (h : Shows w rid r w' (some (written w.file updates)) .applying) :
    InPhase w rid r updates (finish host rid webrtc updates prior sur w').2 := by
  rw [finish, Action.run_bind_ok Action.run_modify]
  have hview : verifyAt host .appliedView updates sur (w'.activate updates.items) = _ :=
    verifyAt_calm calm
  rw [trouble_sound sound] at hview
  have hshows : ∀ cache, Shows w rid r { w'.activate updates.items with cache := cache }
      (some (written w.file updates)) .applying := fun _ => ⟨h.file, h.journal⟩
  cases hcrash : sur.crashes .appliedView with
  | true =>
      rw [hcrash] at hview
      rw [Action.run_bind_error hview]
      exact ⟨_, _, .landed hours, hshows _⟩
  | false =>
      rw [hcrash] at hview
      rw [Action.run_bind_ok hview]
      split
      · rcases (hshows _).setStatus .markApplied .applied calm sound hid with
          hdown | ⟨w₁, hmark, h₁⟩
        · rw [Action.run_bind_error hdown]
          exact ⟨_, _, .landed hours, hshows _⟩
        · rw [Action.run_bind_ok hmark]
          exact ⟨_, _, .applied hours, h₁⟩
      · exact rollback_inPhase calm sound hid hours hprior (hshows _)

theorem firstTrouble_sound (sound : ∀ site, sur.fails site = false) (sites : List Site) :
    sur.firstTrouble sites = none ∨ sur.firstTrouble sites = some .crashed := by
  induction sites with
  | nil => exact Or.inl rfl
  | cons site sites ih =>
      rw [Surroundings.firstTrouble, List.findSome?_cons, trouble_sound sound]
      cases sur.crashes site with
      | true => exact Or.inr rfl
      | false => exact ih

/-- The write finds the machine down before or behind the replacement, or a foreign key, or
it comes to its end. -/
theorem writeLocked_sound (host : Host) (updates : Updates) (calm : sur.Calm)
    (sound : ∀ site, sur.fails site = false) {cur : Dict String}
    (hcur : readKeys w.file = some cur) :
    let landed : World := { w with file := some (written w.file updates) }
    writeLocked host updates.items (host.hash w.file) sur w = (.error .crashed, w) ∨
      writeLocked host updates.items (host.hash w.file) sur w =
        (.error (.raised .foreignKey), w) ∨
      writable w.file = true ∧
        writeLocked host updates.items (host.hash w.file) sur w = (.error .crashed, landed) ∨
      writable w.file = true ∧
        ∃ h, writeLocked host updates.items (host.hash w.file) sur w = (.ok h, landed) := by
  rw [writeLocked_calm calm hcur]
  rcases firstTrouble_sound sound [.rehash, .mergeRead] with hread | hread
  · rw [hread]
    dsimp only
    split
    · next hours =>
      rcases firstTrouble_sound sound [.mergeMode, .replace] with hreplace | hreplace
      · rw [hreplace, trouble_sound sound]
        cases sur.crashes .postHash with
        | true => exact Or.inr (Or.inr (Or.inl ⟨hours, rfl⟩))
        | false => exact Or.inr (Or.inr (Or.inr ⟨hours, _, rfl⟩))
      · rw [hreplace]
        exact Or.inl rfl
    · exact Or.inr (Or.inl rfl)
  · rw [hread]
    exact Or.inl rfl

/-- The write leaves the file, or replaces it. -/
theorem writeStage_inPhase (calm : sur.Calm) (sound : ∀ site, sur.fails site = false)
    (hid : validId rid = true) {prior : Prior} (hprior : prior.hash = host.hash w.file)
    {cur : Dict String} (hcur : readKeys w.file = some cur)
    (h : Shows w rid r w' w.file .applying) {answer : Except Halt (Option ApplyResult)}
    {w'' : World} (hrun : writeStage host rid updates prior sur w' = (answer, w'')) :
    (answer = .ok none ∧ writable w.file = true ∧
      Shows w rid r w'' (some (written w.file updates)) .applying) ∨
      answer ≠ .ok none ∧ InPhase w rid r updates w'' := by
  have hlanded : Shows w rid r { w' with file := some (written w'.file updates) }
      (some (written w.file updates)) .applying := ⟨by rw [← h.file], h.journal⟩
  rw [writeStage, exceptException, Action.run_catching, hprior, ← h.file] at hrun
  rcases writeLocked_sound host updates calm sound (by rw [h.file]; exact hcur) with
    hwrite | hwrite | ⟨hours, hwrite⟩ | ⟨hours, hash, hwrite⟩
  · rw [Action.run_bind_error hwrite] at hrun
    cases hrun
    exact Or.inr ⟨by simp, _, _, .marked, h⟩
  · rw [Action.run_bind_error hwrite] at hrun
    dsimp only at hrun
    rcases h.setStatus .markWriteFailed .validated calm sound hid with hdown | ⟨w₁, hmark, h₁⟩
    · rw [Action.run_bind_error hdown] at hrun
      cases hrun
      exact Or.inr ⟨by simp, _, _, .marked, h⟩
    · rw [Action.run_bind_ok hmark] at hrun
      cases hrun
      exact Or.inr ⟨by simp, _, _, .waiting, h₁⟩
  · rw [Action.run_bind_error hwrite] at hrun
    cases hrun
    exact Or.inr ⟨by simp, _, _, .landed (h.file ▸ hours), hlanded⟩
  · rw [Action.run_bind_ok hwrite] at hrun
    cases hrun
    exact Or.inl ⟨rfl, h.file ▸ hours, hlanded⟩

/-- From the mark on, whenever the machine goes down, the disk is in one of the phases. -/
theorem activate_inPhase (host : Host) (webrtc : WebRtcPatch) (updates : Updates)
    (calm : sur.Calm) (sound : ∀ site, sur.fails site = false) (hid : validId rid = true)
    {cur : Dict String} (hcur : readKeys w.file = some cur)
    (h : Shows w rid r w w.file .validated) :
    InPhase w rid r updates
      (activate host rid webrtc updates (priorOf host w updates) sur w).2 := by
  rw [activate]
  rcases h.setStatus .markApplying .applying calm sound hid with hdown | ⟨w₁, hmark, h₁⟩
  · rw [Action.run_bind_error hdown]
    exact ⟨_, _, .waiting, h⟩
  · rw [Action.run_bind_ok hmark, Action.run_bind]
    cases hstage : writeStage host rid updates (priorOf host w updates) sur w₁ with
    | mk answer w₂ =>
        rcases writeStage_inPhase calm sound hid rfl hcur h₁ hstage with
          ⟨rfl, hours, h₂⟩ | ⟨hne, h₂⟩
        · exact finish_inPhase calm sound hid hours (priorOf_file w) h₂
        · cases answer with
          | error x => exact h₂
          | ok result =>
              cases result with
              | none => exact absurd rfl hne
              | some result => exact h₂

/-- Whenever the machine goes down, the disk is as before, or the shortcut was taken, or the
disk is in one of the phases of an apply that passed its checks. -/
theorem applyRevision_inPhase (host : Host) (rid confirm : String) (w : World) (calm : sur.Calm)
    (sound : ∀ site, sur.fails site = false) :
    let down := (applyRevision host rid confirm sur w).2
    (down.file = w.file ∧ down.journal = w.journal) ∨
    (∃ r webrtc updates, Proceeds host sur w rid confirm r webrtc updates ∧
      (TakesShortcut host sur w rid confirm webrtc ∧ Shows w rid r down w.file .applied ∨
        InPhase w rid r updates down)) := by
  intro down
  have hfile : (w.checked host sur).file = w.file := calm.fileAfter _ _
  rcases applyRevision_cases host rid confirm w calm with
    ⟨-, -, hsame, hjournal, -⟩ | ⟨r, webrtc, updates, hproceeds, hrest⟩
  · exact Or.inl ⟨hsame, hjournal⟩
  · have hentry : (w.checked host sur).journal[rid]? = some (.record r) := hproceeds.record
    rcases hrest with ⟨htarget, hrun⟩ | ⟨-, ⟨x, -, hrun⟩ | ⟨-, hrun⟩⟩
    · rw [shortcut, Action.run_bind, setStatus_calm calm hproceeds.id hentry] at hrun
      cases htrouble : sur.trouble .markUnchanged with
      | some x =>
          left
          simp only [down, hrun, htrouble]
          exact ⟨hfile, rfl⟩
      | none =>
          right
          refine ⟨r, webrtc, updates, hproceeds, Or.inl ⟨?_, ?_⟩⟩
          · exact ⟨r, updates, hproceeds, htarget, trouble_eq_none.mp htrouble⟩
          · simp only [down, hrun, htrouble]
            exact ⟨hfile, rfl⟩
    · left
      simp only [down, hrun]
      exact ⟨hfile, rfl⟩
    · right
      refine ⟨r, webrtc, updates, hproceeds, Or.inr ?_⟩
      obtain ⟨cur, hcur, -⟩ := hproceeds.coherent
      rw [calm.fileAfter, ← hfile] at hcur
      have hvalidated : r.status = .validated := validated_of_admission hproceeds.admitted
      have hwaiting : Shows (w.checked host sur) rid r (w.checked host sur)
          (w.checked host sur).file .validated := by
        refine ⟨rfl, ?_⟩
        apply Std.ExtTreeMap.ext_getElem?
        intro k
        rw [World.mark, Dict.getElem?_insert]
        split
        · next hk => rw [← hk, hentry, ← hvalidated]
        · rfl
      obtain ⟨file, status, hphase, hshows⟩ :=
        activate_inPhase host webrtc updates calm sound hproceeds.id hcur hwaiting
      rw [hfile] at hphase
      exact ⟨file, status, hphase, by simp only [down, hrun]; exact ⟨hshows.file, hshows.journal⟩⟩

end Crash

/-! ## Recovery -/

/-- The file holds the patch's values. -/
def FileHolds (webrtc : WebRtcPatch) (file : Option EnvFile) : Prop :=
  ∃ keys, readKeys file = some keys ∧ Holds webrtc keys

/-- After the machine went down somewhere in the call and the sweep has run, no revision is
under way, and a revision that could be applied is marked `applied` exactly when the file
holds its values. -/
def Recovers (host : Host) (sur : Surroundings) (w : World) (rid confirm : String) : Prop :=
  let down := (applyRevision host rid confirm sur w).2
  let journal := recoveredJournal host down.file down.journal
  (∀ rid' status, journalStatus journal rid' = some status → status.inFlight = false) ∧
    ∀ r webrtc, w.journal[rid]? = some (.record r) → r.status = .validated →
      patchSection r.validatedPatch = .fields webrtc →
        (journalStatus journal rid = some .applied ↔ FileHolds webrtc down.file)

/-- The digest tells the file from what the engine writes into it. -/
def Distinguishes (host : Host) (file : Option EnvFile) : Prop :=
  ∀ updates, host.hash (some (written file updates)) = host.hash file →
    some (written file updates).content = file.map EnvFile.content

section Recover

variable {host : Host} {sur : Surroundings} {w w' : World} {rid confirm : String} {r : Revision}
  {webrtc : WebRtcPatch} {updates : Updates} {file file' : Option EnvFile} {status : Status}
  {journal : Journal}

theorem readKeys_congr (h : file.map EnvFile.content = file'.map EnvFile.content) :
    readKeys file = readKeys file' := by
  cases file with
  | none =>
      cases file' with
      | none => rfl
      | some f => simp at h
  | some f =>
      cases file' with
      | none => simp at h
      | some f' =>
          simp only [Option.map_some, Option.some.injEq] at h
          simp only [readKeys, h]

/-- A swept journal that parses shows no revision under way. -/
theorem settled_recovered (hparse : ∀ rid : String, journal[rid]? ≠ some .corrupt)
    (h : journalStatus (recoveredJournal host file journal) rid = some status) :
    status.inFlight = false := by
  unfold journalStatus at h
  split at h
  · next hid =>
      rw [recoveredJournal_getElem? hparse hid] at h
      cases hentry : journal[rid]? with
      | none => simp [hentry] at h
      | some entry =>
          rw [hentry] at h
          exact inFlight_recovered entry h
  · cases h

/-- The status the sweep gives to a revision. -/
theorem journalStatus_recovered (hparse : ∀ rid : String, journal[rid]? ≠ some .corrupt)
    (hid : validId rid = true) (hentry : journal[rid]? = some (.record r)) :
    journalStatus (recoveredJournal host file journal) rid =
      some ((reconciled host file r).getD r.status) := by
  rw [journalStatus, if_pos hid, recoveredJournal_getElem? hparse hid, hentry]
  rfl

theorem parses_mark (hparse : ∀ rid : String, w.journal[rid]? ≠ some .corrupt) (rid' : String) :
    (w.mark rid r status).journal[rid']? ≠ some .corrupt := by
  rw [World.mark, Dict.getElem?_insert]
  split
  · simp
  · exact hparse rid'

/-- Behind the checks, the sweep marks `applied` exactly when the new file is on disk and
was not rejected. -/
theorem Phase.recovered (hphase : Phase w.file updates file status)
    (hbase : r.fileHashesBefore = [(host.runtimeEnvPath, host.hash w.file)])
    (hnew : writable w.file = true → FileHolds webrtc (some (written w.file updates)))
    (hold : ¬ FileHolds webrtc w.file) (hdigest : Distinguishes host w.file) :
    ((reconciled host file { r with status := status }).getD status = .applied ↔
      FileHolds webrtc file ∧ status ≠ .rollingBack) := by
  have hsame : r.fileHashesBefore.lookup host.runtimeEnvPath = some (host.hash w.file) := by
    rw [hbase]
    simp
  have hdiffer : writable w.file = true →
      host.hash (some (written w.file updates)) ≠ host.hash w.file := by
    intro hours heq
    apply hold
    obtain ⟨keys, hkeys, hholds⟩ := hnew hours
    have hread : readKeys (some (written w.file updates)) = readKeys w.file :=
      readKeys_congr (hdigest updates heq)
    exact ⟨keys, hread ▸ hkeys, hholds⟩
  cases hphase with
  | waiting => simp [reconciled, hold]
  | marked => simp [reconciled, hsame, hold]
  | landed hours => simp [reconciled, hsame, Ne.symm (hdiffer hours), hnew hours]
  | applied hours => simp [reconciled, hnew hours]
  | rejected hours => simp [reconciled, hsame, Ne.symm (hdiffer hours)]
  | restored => simp [reconciled, hsame]
  | rolledBack => simp [reconciled, hold]

/-- What a revision that passed its checks writes holds its values. -/
theorem Proceeds.fileHolds (h : Proceeds host sur w rid confirm r webrtc updates)
    (calm : sur.Calm) (hours : writable w.file = true) :
    FileHolds webrtc (some (written w.file updates)) := by
  obtain ⟨cur, hcur, -⟩ := h.coherent
  rw [calm.fileAfter] at hcur
  have hallow : allowlisted cur.keys = true := by simpa [writable, hcur] using hours
  exact ⟨_, readKeys_written hcur hallow h.valid h.updates, holds_insertMany h.valid h.updates cur⟩

theorem Shows.journalStatus (h : Shows w rid r w' file status) (hid : validId rid = true) :
    journalStatus w'.journal rid = some status := by
  rw [Runtime.journalStatus, if_pos hid, h.entry]
  rfl

/-- The status the sweep gives to what the disk shows. -/
theorem Shows.recovered (h : Shows w rid r w' file status) (host : Host)
    (hid : validId rid = true) (hparse : ∀ rid : String, w'.journal[rid]? ≠ some .corrupt) :
    Runtime.journalStatus (recoveredJournal host w'.file w'.journal) rid =
      some ((reconciled host file { r with status := status }).getD status) := by
  rw [journalStatus_recovered hparse hid h.entry, h.file]

/-- A journal that parses still parses after the crash. -/
theorem parses_applyRevision (host : Host) (rid confirm : String) (calm : sur.Calm)
    (sound : ∀ site, sur.fails site = false)
    (hparse : ∀ rid' : String, w.journal[rid']? ≠ some .corrupt) (rid' : String) :
    (applyRevision host rid confirm sur w).2.journal[rid']? ≠ some .corrupt := by
  rcases applyRevision_inPhase host rid confirm w calm sound with
    ⟨-, hjournal⟩ | ⟨r, webrtc, updates, -, ⟨-, hshows⟩ | ⟨_, _, -, hshows⟩⟩
  · exact hjournal ▸ hparse rid'
  · exact hshows.journal ▸ parses_mark hparse rid'
  · exact hshows.journal ▸ parses_mark hparse rid'

/-- What the sweep makes of a revision that lies on disk as it was validated. -/
theorem recovered_of_kept (host : Host)
    (hparse : ∀ rid : String, w'.journal[rid]? ≠ some .corrupt) (hid : validId rid = true)
    (hentry : w'.journal[rid]? = some (.record r))
    (hvalidated : r.status = .validated) :
    journalStatus w'.journal rid = some .validated ∧
      journalStatus (recoveredJournal host w'.file w'.journal) rid = some .validated := by
  have hsettled : reconciled host w'.file r = none := by
    apply reconciled_eq_none.mpr
    rw [hvalidated]
    rfl
  constructor
  · rw [journalStatus, if_pos hid, hentry, ← hvalidated]
    rfl
  · rw [journalStatus_recovered hparse hid hentry, hsettled, hvalidated]
    rfl

/-- What the sweep makes of a revision that was under way in one of the phases. -/
theorem InPhase.recovered (h : InPhase w rid r updates w')
    (hproceeds : Proceeds host sur w rid confirm r webrtc updates) (calm : sur.Calm)
    (hparse : ∀ rid : String, w'.journal[rid]? ≠ some .corrupt)
    (hdigest : Distinguishes host w.file) :
    let journal := recoveredJournal host w'.file w'.journal
    (¬ FileHolds webrtc w.file →
      (journalStatus journal rid = some .applied ↔
        FileHolds webrtc w'.file ∧ journalStatus w'.journal rid ≠ some .rollingBack)) ∧
      (journalStatus w'.journal rid = some .rollingBack →
        journalStatus journal rid = some
          (if host.hash w'.file = host.hash w.file then .rolledBack else .rollbackFailed)) := by
  intro journal
  obtain ⟨file, status, hphase, hshows⟩ := h
  have hbase : r.fileHashesBefore = [(host.runtimeEnvPath, host.hash w.file)] := by
    rw [hproceeds.base, calm.fileAfter]
  have hafter : journalStatus journal rid =
      some ((reconciled host file { r with status := status }).getD status) :=
    hshows.recovered host hproceeds.id hparse
  rw [hafter, hshows.journalStatus hproceeds.id, hshows.file]
  constructor
  · intro hold
    have hmarked := hphase.recovered hbase (hproceeds.fileHolds calm) hold hdigest
    simpa using hmarked
  · intro hrolling
    cases hrolling
    simp [reconciled, hbase, eq_comm]

end Recover

/-- For every journal that parses and wherever the machine goes down in an apply: the sweep
leaves no revision under way; a revision whose values were not in the file before, and that
did not take the shortcut, is marked `applied` exactly when the file holds them and they
were not rejected; rejected values that are still in the file are reported. -/
theorem recovered_after_crash (host : Host) (held : Bool) (crashes : Site → Bool)
    (racing : Site → Option Settings) (w : World) (rid confirm : String)
    (hparse : ∀ rid' : String, w.journal[rid']? ≠ some .corrupt)
    (hdigest : Distinguishes host w.file) :
    let sur : Surroundings := { held := held, crashes := crashes, racing := racing }
    let down := (applyRevision host rid confirm sur w).2
    let journal := recoveredJournal host down.file down.journal
    (∀ rid' status, journalStatus journal rid' = some status → status.inFlight = false) ∧
      ∀ r webrtc, w.journal[rid]? = some (.record r) → r.status = .validated →
        patchSection r.validatedPatch = .fields webrtc →
        (¬ FileHolds webrtc w.file → ¬ TakesShortcut host sur w rid confirm webrtc →
          (journalStatus journal rid = some .applied ↔
            FileHolds webrtc down.file ∧ journalStatus down.journal rid ≠ some .rollingBack)) ∧
        (journalStatus down.journal rid = some .rollingBack →
          journalStatus journal rid = some
            (if host.hash down.file = host.hash w.file then .rolledBack else .rollbackFailed)) := by
  intro sur down journal
  have calm : sur.Calm := fun _ => rfl
  have hdown : ∀ rid' : String, down.journal[rid']? ≠ some .corrupt :=
    parses_applyRevision host rid confirm calm (fun _ => rfl) hparse
  refine ⟨fun rid' status => settled_recovered hdown, ?_⟩
  intro r webrtc hrecord hvalidated hsection
  rcases applyRevision_inPhase host rid confirm w calm fun _ => rfl with
    ⟨hfile, hjournal⟩ | ⟨r', webrtc', updates, hproceeds, hrest⟩
  · have hkept : down.file = w.file := hfile
    by_cases hid : validId rid = true
    · have hentry : down.journal[rid]? = some (.record r) := hjournal ▸ hrecord
      obtain ⟨hbefore, hafter⟩ := recovered_of_kept host hdown hid hentry hvalidated
      rw [hafter, hbefore, hkept]
      simp +contextual
    · -- such a file is no revision for the engine
      have hnone : ∀ journal : Journal, journalStatus journal rid = none := fun _ => if_neg hid
      rw [hnone, hnone, hkept]
      simp +contextual
  · obtain ⟨rfl, rfl⟩ := hproceeds.eq_of_record hrecord hsection
    rcases hrest with ⟨hshort, hshows⟩ | hphase
    · refine ⟨fun _ hno => absurd hshort hno, fun hrolling => ?_⟩
      rw [hshows.journalStatus hproceeds.id] at hrolling
      cases hrolling
    · obtain ⟨happlied, hrejected⟩ := hphase.recovered hproceeds calm hdown hdigest
      exact ⟨fun hold _ => happlied hold, hrejected⟩

/-- Another thread still holds the old settings when the result is verified, so the values
are rejected, and the machine goes down before the file is restored. -/
def downInRollback : Surroundings where
  crashes := fun site => site = .restore
  racing := fun site =>
    if site = .appliedView then some (readSettings "color_camera" exampleWorld.environ) else none

/-- The machine goes down right behind the replacement of the file. -/
def downBehindWrite : Surroundings where
  crashes := fun site => site = .postHash

/-- An older file of the journal is damaged. -/
def damagedWorld : World :=
  { exampleWorld with
    journal := exampleWorld.journal.insert "rev-20250101T000000000000Z-00000000" .corrupt }

/-- A process that was started without the file and is told to use what the file says. -/
def relayDiffHash : String :=
  "sha256:046a3c3cfdce48305b246d749503ae8ec955c2ccfd1ae9af136612ef817124e5"

/-- The id of the revision that tells it. -/
def relayId : String := "rev-20260101T000000000000Z-046a3c3c"

/-- The revision `ice_policy = relay`, validated against the relay file. -/
def relayRevision : Revision :=
  { exampleRevision with
    diffHash := some relayDiffHash
    validatedPatch := [("webrtc", .obj [("ice_policy", .str "relay")])] }

/-- The world in which it is applied. -/
def relayWorld : World where
  file := some relayFile
  journal := (∅ : Journal).insert relayId (.record relayRevision)
  environ := ∅

/-- The machine goes down before the write. -/
def downBeforeWrite : Surroundings where
  crashes := fun site => site = .replace

/-- The file a crash leaves, the status it leaves and the status the sweep then gives. -/
def outcome (host : Host) (rid confirm : String) (sur : Surroundings) (w : World) :
    Option EnvFile × Option Status × Option Status :=
  let down := (applyRevision host rid confirm sur w).2
  (down.file, journalStatus down.journal rid,
    journalStatus (recoveredJournal host down.file down.journal) rid)

theorem Recovers.applied_iff {host : Host} {sur : Surroundings} {w : World}
    {rid confirm : String} {r : Revision} {webrtc : WebRtcPatch} {file : Option EnvFile}
    {before after : Option Status} (h : Recovers host sur w rid confirm)
    (hout : outcome host rid confirm sur w = (file, before, after))
    (hrecord : w.journal[rid]? = some (.record r)) (hvalidated : r.status = .validated)
    (hsection : patchSection r.validatedPatch = .fields webrtc) :
    after = some .applied ↔ FileHolds webrtc file := by
  have hiff := h.2 r webrtc hrecord hvalidated hsection
  simp only [outcome, Prod.mk.injEq] at hout
  obtain ⟨hfile, -, hafter⟩ := hout
  rwa [hafter, hfile] at hiff

/-- The damaged file is in the way of the sweep, the other worlds are swept. -/
theorem outcome_examples :
    outcome (exampleHost "color_camera") exampleId ("apply-" ++ exampleDiffHash) downBehindWrite
        exampleWorld = (some allFile, some .applying, some .applied) ∧
      outcome (exampleHost "color_camera") exampleId ("apply-" ++ exampleDiffHash) downInRollback
        exampleWorld = (some allFile, some .rollingBack, some .rollbackFailed) ∧
      outcome (exampleHost "color_camera") exampleId ("apply-" ++ exampleDiffHash) downBehindWrite
        damagedWorld = (some allFile, some .applying, some .applying) ∧
      outcome (exampleHost "color_camera") relayId ("apply-" ++ relayDiffHash) downBeforeWrite
        relayWorld = (some relayFile, some .applying, some .rolledBack) ∧
      outcome (exampleHost "depth_camera") exampleId ("apply-" ++ exampleDiffHash) {}
        exampleWorld = (some relayFile, some .applied, some .applied) := by
  decide +kernel

theorem fileHolds_ice {policy : String} (keys : Dict String) {file : Option EnvFile}
    (hread : readKeys file = some keys) (hget : keys["ICE_POLICY"]? = some policy) :
    FileHolds { icePolicy := some (.str policy) } file := by
  refine ⟨keys, hread, ?_, ?_⟩
  · rintro value ⟨⟩
    exact ⟨policy, rfl, hget⟩
  · rintro value ⟨⟩

theorem allFile_holds : FileHolds { icePolicy := some (.str "all") } (some allFile) := by
  have hclean : CleanKeys ((∅ : Dict String).insert "ICE_POLICY" "all") :=
    Dict.Each.insert Dict.each_empty
      ⟨cleanKey_of_mem_allowlist (by simp [allowlist]), cleanText_of_all (by decide)⟩
  have hread : readKeys (some allFile) = some ((∅ : Dict String).insert "ICE_POLICY" "all") :=
    congrArg some (keysOfText_render hclean)
  exact fileHolds_ice _ hread (by rw [Dict.getElem?_insert, if_pos rfl])

theorem readKeys_relayFile : readKeys (some relayFile) =
    some ((∅ : Dict String).insert "ICE_POLICY" "relay") := by
  decide +kernel

theorem relayFile_holds : FileHolds { icePolicy := some (.str "relay") } (some relayFile) :=
  fileHolds_ice _ readKeys_relayFile (by rw [Dict.getElem?_insert, if_pos rfl])

theorem relayFile_not_holds : ¬ FileHolds { icePolicy := some (.str "all") } (some relayFile) := by
  rintro ⟨keys, hread, hholds⟩
  obtain ⟨s, hs, hget⟩ := hholds.ice _ rfl
  cases hs
  rw [readKeys_relayFile, Option.some.injEq] at hread
  subst hread
  rw [Dict.getElem?_insert, if_pos rfl] at hget
  exact absurd hget (by decide)

/-- The digests tell the relay file from every other content. -/
theorem example_distinguishes : Distinguishes (exampleHost "color_camera") (some relayFile) := by
  intro updates heq
  have hdigest : exampleDigest (written (some relayFile) updates).content =
      exampleDigest relayFile.content := by
    simpa [Host.hash, exampleHost] using heq
  by_contra hne
  have hother : (written (some relayFile) updates).content ≠ relayFile.content := by
    simpa using hne
  rw [exampleDigest, if_neg hother] at hdigest
  split at hdigest
  · exact absurd hdigest (by decide +kernel)
  · exact absurd hdigest (by decide +kernel)

/-- The machine goes down behind the write: the revision was applied. -/
theorem crash_behind_write_recovered :
    let down := (applyRevision (exampleHost "color_camera") exampleId
      ("apply-" ++ exampleDiffHash) downBehindWrite exampleWorld).2
    journalStatus down.journal exampleId = some .applying ∧
      journalStatus (recoveredJournal (exampleHost "color_camera") down.file down.journal)
        exampleId = some .applied := by
  intro down
  have hparse : ∀ rid : String, exampleWorld.journal[rid]? ≠ some .corrupt := by
    intro rid
    rw [exampleWorld, Dict.getElem?_insert]
    split
    · simp
    · simp
  have hlong : ¬ TakesShortcut (exampleHost "color_camera") downBehindWrite exampleWorld exampleId
      ("apply-" ++ exampleDiffHash) { icePolicy := some (.str "all") } := by
    rintro ⟨r, updates, hproceeds, htarget, -⟩
    have hupdates : updates = { icePolicy := some "all" } := by
      have h := hproceeds.updates
      exact (Option.some.inj h).symm
    rw [hupdates] at htarget
    exact absurd htarget (by decide +kernel)
  have hout := outcome_examples.1
  have hfile : down.file = some allFile := congrArg Prod.fst hout
  have hstatus : journalStatus down.journal exampleId = some .applying :=
    congrArg (fun out => out.2.1) hout
  refine ⟨hstatus, ?_⟩
  have hrecovered := (recovered_after_crash (exampleHost "color_camera") false
    (fun site => site = .postHash) (fun _ => none) exampleWorld exampleId
    ("apply-" ++ exampleDiffHash) hparse example_distinguishes).2 exampleRevision
    { icePolicy := some (.str "all") } (by rw [exampleWorld, Dict.getElem?_insert, if_pos rfl]) rfl
    rfl
  have hwritten : FileHolds { icePolicy := some (.str "all") } down.file := hfile ▸ allFile_holds
  have hkept : journalStatus down.journal exampleId ≠ some .rollingBack := by
    rw [hstatus]
    simp
  exact (hrecovered.1 relayFile_not_holds hlong).mpr ⟨hwritten, hkept⟩

/-- Rejected values are not marked `applied` although the file still holds them; a damaged
file of the journal keeps the sweep from what comes behind it; values that the file held
before count as rolled back; and the shortcut marks `applied` what was never written. -/
theorem rejected_values_not_applied :
    ¬ Recovers (exampleHost "color_camera") downInRollback exampleWorld exampleId
        ("apply-" ++ exampleDiffHash) ∧
      ¬ Recovers (exampleHost "color_camera") downBehindWrite damagedWorld exampleId
        ("apply-" ++ exampleDiffHash) ∧
      ¬ Recovers (exampleHost "color_camera") downBeforeWrite relayWorld relayId
        ("apply-" ++ relayDiffHash) ∧
      ¬ Recovers (exampleHost "depth_camera") {} exampleWorld exampleId
        ("apply-" ++ exampleDiffHash) := by
  obtain ⟨-, hrejected, hdamaged, hheld, hshort⟩ := outcome_examples
  have hrecord : exampleWorld.journal[exampleId]? = some (.record exampleRevision) := by
    rw [exampleWorld, Dict.getElem?_insert, if_pos rfl]
  have hrelay : relayWorld.journal[relayId]? = some (.record relayRevision) := by
    rw [relayWorld, Dict.getElem?_insert, if_pos rfl]
  refine ⟨?_, ?_, ?_, ?_⟩
  · intro hclaim
    cases (hclaim.applied_iff hrejected hrecord rfl rfl).mpr allFile_holds
  · intro hclaim
    have hflight := hclaim.1 exampleId .applying (congrArg (fun out => out.2.2) hdamaged)
    cases hflight
  · intro hclaim
    cases (hclaim.applied_iff hheld hrelay rfl rfl).mpr relayFile_holds
  · intro hclaim
    exact relayFile_not_holds ((hclaim.applied_iff hshort hrecord rfl rfl).mp rfl)

end CameraStack.Runtime
