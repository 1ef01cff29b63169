/-
# Fixers

A fixer plans a list of actions for a check that is not OK, and a runner executes them under the
lock of the instance, one after the other, until one fails.  The plan of the fingerprint fixer is
made before the lock is taken and holds everything it writes: a new secret where there is none,
and the new baseline with its counter and its signature.

Whether an action of the host fails is given with the run; a file that is written is compared with
what is there, and a file whose content is no text cannot be compared.
-/

import CameraStack.Bringup.Fingerprint

namespace CameraStack.Bringup

/-! ## Actions -/

/-- The kinds of actions the runner knows. -/
inductive ActionKind
  | writeFile | run | restart | reload | backup | chmodExec
  deriving DecidableEq, Repr

/-- `ActionStatus`. -/
inductive ActionStatus
  | pending | noop | applied | failed
  deriving DecidableEq, Repr

/-- `Action`. -/
structure Action where
  kind : ActionKind
  description : String
  target : String
  payload : Option String := none
  status : ActionStatus := .pending
  error : Option String := none
  deriving DecidableEq

/-- How the host takes an action: it does what is asked, finds it done, or fails. -/
inductive Outcome
  | done
  | alreadyDone
  | fails (error : String)
  deriving DecidableEq

namespace Disk

/-- A file is replaced. -/
def write (disk : Disk) (path : String) (content : FileContent) : Disk :=
  { disk with file := fun p => if p = path then content else disk.file p }

@[simp] theorem write_same (disk : Disk) (path : String) (content : FileContent) :
    (disk.write path content).file path = content :=
  if_pos rfl

@[simp] theorem write_other (disk : Disk) {path other : String} (h : other ≠ path)
    (content : FileContent) : (disk.write path content).file other = disk.file other :=
  if_neg h

end Disk

/-- The action with what came of it. -/
def Action.settle (a : Action) (outcome : Outcome) : Action :=
  match outcome with
  | .done => { a with status := .applied }
  | .alreadyDone => { a with status := .noop }
  | .fails error => { a with status := .failed, error := some error }

/-- `_execute_write_file`: how it comes out when the host lets it write. -/
def writeOutcome (content : FileContent) (newContent : String) : Outcome :=
  match content with
  | .absent => .done
  | .unreadable => .fails "PermissionError"
  | .undecodable _ e => .fails e
  | .text existing => if existing = newContent then .alreadyDone else .done

/-- What `mkdir -p` leaves. -/
def Action.makesDir (a : Action) (disk : Disk) : Disk :=
  { disk with dir := fun p => disk.dir p || (a.target = "mkdir" && a.payload = some ("-p " ++ p)) }

/-- `execute`. -/
def Action.execute (a : Action) (outcome : Outcome) (disk : Disk) : Action × Disk :=
  match a.kind with
  | .writeFile =>
      match outcome with
      | .fails error => (a.settle (.fails error), disk)
      | .done | .alreadyDone =>
          let written := writeOutcome (disk.file a.target) (a.payload.getD "")
          (a.settle written,
            if written = .done then disk.write a.target (.text (a.payload.getD "")) else disk)
  | .run | .restart | .reload =>
      match outcome with
      | .fails error => (a.settle (.fails error), disk)
      | .done | .alreadyDone => (a.settle .done, a.makesDir disk)
  | .backup | .chmodExec => (a.settle outcome, disk)

/-- What came of a list of actions: whether none failed, the actions, and the disk. -/
structure Executed where
  completed : Bool
  actions : List Action
  disk : Disk

/-- The actions one by one; after the first that fails the rest stay as they are. -/
def executeAll : List Action → List Outcome → Disk → Executed
  | [], _, disk => { completed := true, actions := [], disk := disk }
  | a :: rest, outcomes, disk =>
      let first := a.execute (outcomes.headD .done) disk
      if first.1.status = .failed then
        { completed := false, actions := first.1 :: rest, disk := first.2 }
      else
        let later := executeAll rest outcomes.tail first.2
        { later with actions := first.1 :: later.actions }

/-! ## Failures of the host -/

/-- The host fails the action. -/
def Outcome.failure : Outcome → Bool
  | .fails _ => true
  | _ => false

/-- The host fails one of the first actions. -/
def FailsWithin (n : ℕ) (outcomes : List Outcome) : Prop :=
  (outcomes.take n).any Outcome.failure = true

instance (n : ℕ) (outcomes : List Outcome) : Decidable (FailsWithin n outcomes) :=
  inferInstanceAs (Decidable (_ = true))

/-- A file that can be written: it is not there, or it holds text. -/
def FileContent.Writable (content : FileContent) : Prop :=
  content = .absent ∨ ∃ value, content = .text value

section Execute

variable {actions : List Action} {path : String} (outcomes : List Outcome) (disk : Disk)

theorem failsWithin_succ (n : ℕ) :
    FailsWithin (n + 1) outcomes ↔
      (outcomes.headD .done).failure = true ∨ FailsWithin n outcomes.tail := by
  cases outcomes with
  | nil => simp [FailsWithin, Outcome.failure]
  | cons o rest => simp [FailsWithin]

/-- An action fails if the host fails it, or if it cannot compare what it would write. -/
theorem execute_failed (a : Action) (outcome : Outcome)
    (h : a.kind = .writeFile → (disk.file a.target).Writable) :
    (a.execute outcome disk).1.status = .failed ↔ outcome.failure = true := by
  unfold Action.execute
  cases hkind : a.kind with
  | writeFile =>
      rcases h hkind with habsent | ⟨value, htext⟩
      · cases outcome with
        | fails e => simp [Action.settle, Outcome.failure]
        | done | alreadyDone =>
            simp [habsent, writeOutcome, Action.settle, Outcome.failure]
      · cases outcome with
        | fails e => simp [Action.settle, Outcome.failure]
        | done | alreadyDone =>
            simp only [htext, writeOutcome]
            split_ifs
            all_goals simp [Action.settle, Outcome.failure]
  | run | restart | reload | backup | chmodExec =>
      cases outcome with
      | fails e => simp [Action.settle, Outcome.failure]
      | done | alreadyDone => simp [Action.settle, Outcome.failure]

/-- An action changes no file but the one it writes. -/
theorem execute_frame (a : Action) (outcome : Outcome)
    (h : a.kind = .writeFile → path ≠ a.target) :
    (a.execute outcome disk).2.file path = disk.file path := by
  unfold Action.execute
  cases hkind : a.kind with
  | writeFile =>
      cases outcome with
      | fails e => rfl
      | done | alreadyDone =>
          simp only
          split_ifs
          · exact disk.write_other (h hkind) _
          · rfl
  | run | restart | reload | backup | chmodExec =>
      cases outcome with
      | fails e => rfl
      | done | alreadyDone => rfl

/-- What is written is text. -/
theorem execute_writable (a : Action) (outcome : Outcome) (h : (disk.file path).Writable) :
    ((a.execute outcome disk).2.file path).Writable := by
  by_cases htarget : path = a.target
  · unfold Action.execute
    cases hkind : a.kind with
    | writeFile =>
        cases outcome with
        | fails e => exact h
        | done | alreadyDone =>
            simp only
            split_ifs
            · rw [htarget, Disk.write_same]
              exact .inr ⟨_, rfl⟩
            · exact h
    | run | restart | reload | backup | chmodExec =>
        cases outcome with
        | fails e => exact h
        | done | alreadyDone => exact h
  · rw [execute_frame disk a outcome fun _ => htarget]
    exact h

theorem executeAll_frame (h : ∀ a ∈ actions, a.kind = .writeFile → path ≠ a.target) :
    (executeAll actions outcomes disk).disk.file path = disk.file path := by
  induction actions generalizing outcomes disk with
  | nil => rfl
  | cons a rest ih =>
      have hfirst := execute_frame disk a (outcomes.headD .done) (h a List.mem_cons_self)
      rw [executeAll]
      simp only
      split_ifs
      · exact hfirst
      · exact (ih _ _ fun a' ha' => h a' (List.mem_cons_of_mem a ha')).trans hfirst

/-- The actions run to their end unless the host fails one of them. -/
theorem executeAll_completed (h : ∀ a ∈ actions, a.kind = .writeFile → (disk.file a.target).Writable) :
    (executeAll actions outcomes disk).completed = true ↔ ¬ FailsWithin actions.length outcomes := by
  induction actions generalizing outcomes disk with
  | nil => simp [executeAll, FailsWithin]
  | cons a rest ih =>
      have hfirst := execute_failed disk a (outcomes.headD .done) (h a List.mem_cons_self)
      rw [executeAll, List.length_cons, failsWithin_succ, not_or]
      simp only
      split_ifs with hfailed
      · exact ⟨fun hok => hok.elim, fun hall => absurd (hfirst.mp hfailed) hall.1⟩
      · have hgood := mt hfirst.mpr hfailed
        refine (ih _ _ fun a' ha' hkind => ?_).trans ⟨fun hrest => ⟨hgood, hrest⟩, fun hall => hall.2⟩
        exact execute_writable _ a _ (h a' (List.mem_cons_of_mem a ha') hkind)

theorem executeAll_append (first second : List Action) :
    (executeAll (first ++ second) outcomes disk).disk =
      if (executeAll first outcomes disk).completed = true then
        (executeAll second (outcomes.drop first.length) (executeAll first outcomes disk).disk).disk
      else (executeAll first outcomes disk).disk := by
  induction first generalizing outcomes disk with
  | nil => simp [executeAll]
  | cons a rest ih =>
      rw [List.cons_append, executeAll, executeAll]
      simp only
      by_cases hfailed : (a.execute (outcomes.headD .done) disk).1.status = .failed
      · rw [if_pos hfailed, if_pos hfailed, if_neg Bool.false_ne_true]
      · rw [if_neg hfailed, if_neg hfailed, ih, List.drop_tail, List.length_cons]

end Execute

theorem failsWithin_add (m n : ℕ) (outcomes : List Outcome) :
    FailsWithin (m + n) outcomes ↔ FailsWithin m outcomes ∨ FailsWithin n (outcomes.drop m) := by
  rw [FailsWithin, FailsWithin, FailsWithin, List.take_add, List.any_append, Bool.or_eq_true]

theorem failsWithin_one (outcomes : List Outcome) :
    FailsWithin 1 outcomes ↔ (outcomes.headD .done).failure = true := by
  rw [failsWithin_succ]
  simp [FailsWithin]

/-- A file that can be written holds what is written, unless the host fails the action. -/
theorem execute_write {a : Action} {disk : Disk} (outcome : Outcome) (hkind : a.kind = .writeFile)
    (hwritable : (disk.file a.target).Writable) : (a.execute outcome disk).2.file a.target =
      if outcome.failure = true then disk.file a.target else .text (a.payload.getD "") := by
  unfold Action.execute
  rw [hkind]
  cases outcome with
  | fails e => rfl
  | done | alreadyDone =>
      rcases hwritable with habsent | ⟨value, htext⟩
      · simp [habsent, writeOutcome, Outcome.failure]
      · by_cases hsame : value = a.payload.getD ""
        · simp [htext, writeOutcome, Outcome.failure, hsame]
        · simp [htext, writeOutcome, Outcome.failure, hsame]

/-- A write fails and changes nothing, or the host lets it write a file that can be written. -/
theorem execute_write_cases {a : Action} (hkind : a.kind = .writeFile) (outcome : Outcome)
    (disk : Disk) :
    ((a.execute outcome disk).1.status = .failed ∧ (a.execute outcome disk).2 = disk) ∨
      ((a.execute outcome disk).1.status ≠ .failed ∧ outcome.failure = false ∧
        (disk.file a.target).Writable) := by
  unfold Action.execute
  rw [hkind]
  cases outcome with
  | fails e => exact .inl ⟨rfl, rfl⟩
  | done | alreadyDone =>
      cases hcontent : disk.file a.target with
      | absent => exact .inr ⟨ActionStatus.noConfusion, rfl, .inl rfl⟩
      | unreadable | undecodable => exact .inl ⟨rfl, rfl⟩
      | text value =>
          refine .inr ⟨?_, rfl, .inr ⟨value, rfl⟩⟩
          simp only [writeOutcome]
          split_ifs
          · exact ActionStatus.noConfusion
          · exact ActionStatus.noConfusion

theorem executeAll_write {a : Action} {rest : List Action} {outcomes : List Outcome} {disk : Disk}
    (hkind : a.kind = .writeFile) (hwritable : (disk.file a.target).Writable)
    (hrest : ∀ b ∈ rest, b.kind = .writeFile → a.target ≠ b.target) :
    (executeAll (a :: rest) outcomes disk).disk.file a.target =
      if FailsWithin 1 outcomes then disk.file a.target else .text (a.payload.getD "") := by
  have hwritten := execute_write (outcomes.headD .done) hkind hwritable
  simp only [failsWithin_one]
  rw [← hwritten, executeAll]
  simp only
  split_ifs
  · rfl
  · exact executeAll_frame _ _ hrest

/-! ## The runner -/

/-- `FixerStatus`. -/
inductive FixerStatus
  | skipped | applied | failed | unfixed
  deriving DecidableEq, Repr

/-- `FixerResult`. -/
structure FixerResult where
  name : String
  status : FixerStatus
  summary : String
  actions : List Action := []
  preCheck : CheckResult
  postCheck : Option CheckResult := none

/-- The name of a kind in messages. -/
def ActionKind.text : ActionKind → String
  | .writeFile => "write_file"
  | .run => "run"
  | .restart => "restart"
  | .reload => "reload"
  | .backup => "backup"
  | .chmodExec => "chmod_exec"

/-- What one run of a fixer meets besides its checks and its plan: whether `apply_lock` raises,
which it does only when it is entered, and how the host takes the actions. -/
structure RunMeets where
  lockRaises : Option Raised := none
  outcomes : List Outcome := []

/-- `run_fixer`. -/
def runFixer (name : String) (pre post : Disk → CheckResult)
    (plan : Disk → Except Raised (List Action)) (dryRun : Bool) (meets : RunMeets) (disk : Disk) :
    Except Raised FixerResult × Disk :=
  let found := pre disk
  if found.status = .ok then
    (.ok
      { name := name, status := .skipped, preCheck := found
        summary := "check OK, fixer не нужен (" ++ found.summary ++ ")" }, disk)
  else
    match plan disk with
    | .error e => (.error e, disk)
    | .ok actions =>
        if dryRun then
          (.ok
            { name := name, status := .skipped, actions := actions, preCheck := found
              summary := "dry-run: " ++ toString actions.length ++ " action(s) planned" }, disk)
        else
          match meets.lockRaises with
          | some e => (.error e, disk)
          | none =>
              let executed := executeAll actions meets.outcomes disk
              if executed.completed = false then
                let stopped := (executed.actions.find? fun a => a.status = .failed).map fun a =>
                  "action failed: " ++ a.kind.text ++ " " ++ a.target ++ " — "
                    ++ a.error.getD "None"
                (.ok
                  { name := name, status := .failed, actions := executed.actions, preCheck := found
                    summary := stopped.getD "" }, executed.disk)
              else
                let after := post executed.disk
                (.ok
                  { name := name
                    status := if after.status = .ok then .applied else .unfixed
                    summary :=
                      if after.status = .ok then "drift closed: " ++ after.summary
                      else "actions ok, но drift остался: " ++ after.summary
                    actions := executed.actions, preCheck := found, postCheck := some after },
                  executed.disk)

/-! ## The fingerprint fixer -/

section Plan

variable (lib : Libraries) (spec : Spec)

/-- What a plan finds besides the host: the time, and the random bytes of a new secret in
hexadecimal. -/
structure PlanMeets where
  host : Host
  now : String
  newSecret : String

/-- The baseline a plan starts from; here only what is no JSON counts as none. -/
def planBaseline (content : FileContent) : Except Raised Json :=
  match content with
  | .absent | .unreadable => .ok .null
  | .undecodable _ e => .error e
  | .text value =>
      match lib.loads value with
      | .value json => .ok json
      | .decodeError => .ok .null
      | .raised e => .error e

/-- The history of a baseline, `{}` where there is none. -/
def planHistory (baseline : Json) : Except Raised Json :=
  if baseline.truth then baseline.get "history" (.obj []) else .ok (.obj [])

/-- The fields of a new fingerprint. -/
def newFingerprint (meets : PlanMeets) (firstSeen : Json) (count : ℤ) : Members :=
  [("schema_version", .int 1),
    ("camera", describeCamera spec meets.host),
    ("host", describeHost meets.host),
    ("calibration", meets.host.answer "calibration" (.obj [])),
    ("history", .obj [("first_seen_utc", firstSeen), ("last_verified_utc", .str meets.now),
      ("verify_count", .int count)])]

/-- `_build_fingerprint`. -/
def buildFingerprint (meets : PlanMeets) (baseline : Json) : Except Raised Members := do
  let history ← planHistory baseline
  let firstSeen ← history.get "first_seen_utc" (.str meets.now)
  let count ← (← history.get "verify_count" (.int 0)).toInt
  pure (newFingerprint spec meets firstSeen (count + 1))

/-- A fingerprint that is built continues the history of the baseline. -/
theorem buildFingerprint_eq {meets : PlanMeets} {baseline : Json} {fp : Members}
    (h : buildFingerprint spec meets baseline = .ok fp) :
    ∃ history firstSeen value count, planHistory baseline = .ok history ∧
      history.get "first_seen_utc" (.str meets.now) = .ok firstSeen ∧
      history.get "verify_count" (.int 0) = .ok value ∧ value.toInt = .ok count ∧
      fp = newFingerprint spec meets firstSeen (count + 1) := by
  rw [buildFingerprint] at h
  cases hhistory : planHistory baseline with
  | error e => rw [hhistory] at h; cases h
  | ok history =>
      cases hfirst : history.get "first_seen_utc" (.str meets.now) with
      | error e => simp only [bind, Except.bind, hhistory, hfirst] at h; cases h
      | ok firstSeen =>
          cases hvalue : history.get "verify_count" (.int 0) with
          | error e => simp only [bind, Except.bind, hhistory, hfirst, hvalue] at h; cases h
          | ok value =>
              cases hcount : value.toInt with
              | error e =>
                  simp only [bind, Except.bind, hhistory, hfirst, hvalue, hcount] at h
                  cases h
              | ok count =>
                  simp only [bind, Except.bind, hhistory, hfirst, hvalue, hcount, pure, Except.pure,
                    Except.ok.injEq] at h
                  exact ⟨history, firstSeen, value, count, rfl, hfirst, hvalue, hcount, h.symm⟩

/-- `mkdir -p`. -/
def makeDir (dir : String) : Action where
  kind := .run
  description := "mkdir -p " ++ dir
  target := "mkdir"
  payload := some ("-p " ++ dir)

/-- The secret is generated where its file is missing. -/
def secretActions (newSecret : String) (secret : FileContent) : List Action :=
  if secret.isFile then []
  else
    [makeDir spec.hmacSecretDir,
      { kind := .writeFile
        description := "generate HMAC secret " ++ spec.hmacSecretPath ++ " (32 random bytes)"
        target := spec.hmacSecretPath, payload := some newSecret },
      { kind := .run, description := "chmod 600 " ++ spec.hmacSecretPath
        target := "chmod", payload := some ("600 " ++ spec.hmacSecretPath) }]

/-- The document is signed under the secret that can be read now. -/
def signed (secret : FileContent) (fp : Members) : Members :=
  match loadSecret secret with
  | none => fp
  | some data => attachSignature lib fp (secretBytes data)

/-- The content of the new baseline. -/
def baselineText (document : Members) : String := lib.dumps (.obj document) ++ "\n"

/-- What is written can be read back. -/
def ReadsBack (document : Members) : Prop :=
  lib.loads (baselineText lib document) = .value (Json.sorted (.obj document))

/-- The counter of a document. -/
def verifyCount (document : Members) : Json :=
  match document.lookup "history" with
  | some (.obj history) => (history.lookup "verify_count").getD .null
  | _ => .null

/-- The baseline is written last. -/
def writeBaseline (meets : PlanMeets) (document : Members) : Action where
  kind := .writeFile
  description :=
    "write " ++ spec.fingerprintPath ++ " (serial="
      ++ (meets.host.answer "serial").text lib.repr ++ ", verify_count="
      ++ (verifyCount document).text lib.repr ++ ", "
      ++ (if (document.lookup "_hmac").isSome then "signed" else "unsigned") ++ ")"
  target := spec.fingerprintPath
  payload := some (baselineText lib document)

/-- The document of the new baseline, which is written as JSON when it is planned. -/
def plannedDocument (meets : PlanMeets) (disk : Disk) : Except Raised Members := do
  let baseline ← planBaseline lib (disk.file spec.fingerprintPath)
  let fp ← buildFingerprint spec meets baseline
  let document := signed lib (disk.file spec.hmacSecretPath) fp
  match lib.refuses (.obj document) with
  | some e => .error e
  | none => pure document

/-- A planned document is a new fingerprint, signed or not. -/
theorem plannedDocument_eq {meets : PlanMeets} {disk : Disk} {document : Members}
    (h : plannedDocument lib spec meets disk = .ok document) :
    ∃ baseline fp, planBaseline lib (disk.file spec.fingerprintPath) = .ok baseline ∧
      buildFingerprint spec meets baseline = .ok fp ∧
      document = signed lib (disk.file spec.hmacSecretPath) fp := by
  rw [plannedDocument] at h
  cases hbaseline : planBaseline lib (disk.file spec.fingerprintPath) with
  | error e => rw [hbaseline] at h; cases h
  | ok baseline =>
      cases hfp : buildFingerprint spec meets baseline with
      | error e => simp only [bind, Except.bind, hbaseline, hfp] at h; cases h
      | ok fp =>
          simp only [bind, Except.bind, hbaseline, hfp] at h
          split at h
          · cases h
          · exact ⟨baseline, fp, rfl, hfp, (Except.ok.inj h).symm⟩

/-- A planned document can be written. -/
theorem plannedDocument_accepted {meets : PlanMeets} {disk : Disk} {document : Members}
    (h : plannedDocument lib spec meets disk = .ok document) :
    lib.refuses (.obj document) = none := by
  obtain ⟨baseline, fp, hbaseline, hfp, rfl⟩ := plannedDocument_eq lib spec h
  rw [plannedDocument] at h
  simp only [bind, Except.bind, hbaseline, hfp] at h
  split at h
  · cases h
  · assumption

/-- The signature is the only field that signing changes. -/
theorem lookup_signed {key : String} (h : key ≠ "_hmac") (secret : FileContent) (fp : Members) :
    (signed lib secret fp).lookup key = fp.lookup key := by
  rw [signed]
  split
  · rfl
  · exact lookup_setMember_ne h _ _

/-- What is done before the baseline is written. -/
def preparations (meets : PlanMeets) (disk : Disk) : List Action :=
  (if disk.dir spec.fingerprintDir then [] else [makeDir spec.fingerprintDir])
    ++ secretActions spec meets.newSecret (disk.file spec.hmacSecretPath)

/-- `FingerprintFixer.plan`. -/
def fingerprintPlan (meets : PlanMeets) (disk : Disk) : Except Raised (List Action) := do
  let document ← plannedDocument lib spec meets disk
  pure (preparations spec meets disk ++ [writeBaseline lib spec meets document])

end Plan

/-! ## What a plan leaves -/

section Planned

variable (lib : Libraries) (spec : Spec)
variable (meets : PlanMeets) (document : Members) (outcomes : List Outcome) (disk : Disk)

/-- What stands in the secret file after the actions of a plan. -/
def secretAfter : FileContent :=
  if (disk.file spec.hmacSecretPath).isFile then disk.file spec.hmacSecretPath
  else if FailsWithin ((if disk.dir spec.fingerprintDir then 0 else 1) + 2) outcomes then
    disk.file spec.hmacSecretPath
  else .text meets.newSecret

/-- How many actions a plan has. -/
def planLength : ℕ := (preparations spec meets disk).length + 1

theorem preparations_targets : ∀ a ∈ preparations spec meets disk, a.kind = .writeFile →
    a.target = spec.hmacSecretPath ∧ disk.file spec.hmacSecretPath = .absent := by
  intro a ha hkind
  rw [preparations, List.mem_append] at ha
  rcases ha with hdir | hsecret
  · split_ifs at hdir
    · cases hdir
    · rw [List.mem_singleton.mp hdir] at hkind
      cases hkind
  · rw [secretActions] at hsecret
    split_ifs at hsecret with hfile
    · cases hsecret
    · have habsent : disk.file spec.hmacSecretPath = .absent := by
        cases hcontent : disk.file spec.hmacSecretPath with
        | absent => rfl
        | unreadable | undecodable | text => exact absurd (by rw [hcontent]; rfl) hfile
      simp only [List.mem_cons, List.not_mem_nil, or_false] at hsecret
      rcases hsecret with rfl | rfl | rfl
      · cases hkind
      · exact ⟨rfl, habsent⟩
      · cases hkind

theorem preparations_fingerprint :
    (executeAll (preparations spec meets disk) outcomes disk).disk.file spec.fingerprintPath =
      disk.file spec.fingerprintPath := by
  refine executeAll_frame _ _ fun a ha hkind => ?_
  rw [(preparations_targets spec meets disk a ha hkind).1]
  exact spec.apart

theorem preparations_completed :
    (executeAll (preparations spec meets disk) outcomes disk).completed = true ↔
      ¬ FailsWithin (preparations spec meets disk).length outcomes := by
  refine executeAll_completed _ _ fun a ha hkind => ?_
  obtain ⟨htarget, habsent⟩ := preparations_targets spec meets disk a ha hkind
  rw [htarget]
  exact .inl habsent

/-- The preparations write the secret unless the host fails one of the actions up to it. -/
theorem preparations_secret :
    (executeAll (preparations spec meets disk) outcomes disk).disk.file spec.hmacSecretPath =
      secretAfter spec meets outcomes disk := by
  rw [secretAfter, preparations, secretActions]
  by_cases hfile : (disk.file spec.hmacSecretPath).isFile = true
  · rw [if_pos hfile, if_pos hfile, List.append_nil]
    refine executeAll_frame _ _ fun a ha hkind => ?_
    split_ifs at ha
    · cases ha
    · rw [List.mem_singleton.mp ha] at hkind
      cases hkind
  · have habsent : disk.file spec.hmacSecretPath = .absent := by
      cases hcontent : disk.file spec.hmacSecretPath with
      | absent => rfl
      | unreadable | undecodable | text => exact absurd (by rw [hcontent]; rfl) hfile
    rw [if_neg hfile, if_neg hfile]
    have hlength : (if disk.dir spec.fingerprintDir then 0 else 1) =
        (if disk.dir spec.fingerprintDir then [] else [makeDir spec.fingerprintDir]).length := by
      split_ifs
      · rfl
      · rfl
    rw [hlength]
    have hruns : ∀ a ∈ (if disk.dir spec.fingerprintDir then []
        else [makeDir spec.fingerprintDir]) ++ [makeDir spec.hmacSecretDir], a.kind = .run := by
      intro a ha
      rcases List.mem_append.mp ha with hdir | hdir
      · split_ifs at hdir
        · cases hdir
        · rw [List.mem_singleton.mp hdir]
          rfl
      · rw [List.mem_singleton.mp hdir]
        rfl
    generalize (if disk.dir spec.fingerprintDir then []
      else [makeDir spec.fingerprintDir]) = dirs at hruns ⊢
    have hnowrite : ∀ a ∈ dirs ++ [makeDir spec.hmacSecretDir], a.kind ≠ .writeFile := by
      intro a ha hkind
      rw [hruns a ha] at hkind
      cases hkind
    have hcompleted : (executeAll (dirs ++ [makeDir spec.hmacSecretDir]) outcomes disk).completed =
        true ↔ ¬ FailsWithin (dirs.length + 1) outcomes := by
      have hall := executeAll_completed outcomes disk fun a ha hkind => absurd hkind (hnowrite a ha)
      rwa [List.length_append] at hall
    have hframe : (executeAll (dirs ++ [makeDir spec.hmacSecretDir]) outcomes disk).disk.file
        spec.hmacSecretPath = disk.file spec.hmacSecretPath :=
      executeAll_frame _ _ fun a ha hkind => absurd hkind (hnowrite a ha)
    have hfails := failsWithin_add (dirs.length + 1) 1 outcomes
    rw [List.append_cons, executeAll_append]
    by_cases hfirst : FailsWithin (dirs.length + 1) outcomes
    · rw [if_neg (not_not.mpr hfirst ∘ hcompleted.mp), if_pos (hfails.mpr (.inl hfirst)), hframe]
    · rw [if_pos (hcompleted.mpr hfirst), List.length_append]
      refine (executeAll_write rfl ?_ ?_).trans ?_
      · exact .inl (hframe.trans habsent)
      · intro b hb hkind
        rw [List.mem_singleton.mp hb] at hkind
        cases hkind
      · by_cases hwrite : FailsWithin 1 (outcomes.drop (dirs.length + 1))
        · exact (if_pos hwrite).trans (hframe.trans (if_pos (hfails.mpr (.inr hwrite))).symm)
        · exact (if_neg hwrite).trans (if_neg (mt hfails.mp (not_or.mpr ⟨hfirst, hwrite⟩))).symm

/-- A plan runs to its end unless the host fails one of its actions. -/
theorem execute_plan_completed (hwritable : (disk.file spec.fingerprintPath).Writable) :
    (executeAll (preparations spec meets disk ++ [writeBaseline lib spec meets document]) outcomes
        disk).completed = true ↔ ¬ FailsWithin (planLength spec meets disk) outcomes := by
  have hall : (executeAll (preparations spec meets disk ++
      [writeBaseline lib spec meets document]) outcomes disk).completed = true ↔ ¬ FailsWithin
        (preparations spec meets disk ++ [writeBaseline lib spec meets document]).length
        outcomes := by
    refine executeAll_completed _ _ fun a ha hkind => ?_
    rcases List.mem_append.mp ha with hprepared | hlast
    · obtain ⟨htarget, habsent⟩ := preparations_targets spec meets disk a hprepared hkind
      rw [htarget]
      exact .inl habsent
    · rw [List.mem_singleton.mp hlast]
      exact hwritable
  rwa [List.length_append] at hall

/-- Then the baseline is the new one, and otherwise it is as it was. -/
theorem execute_plan_fingerprint (hwritable : (disk.file spec.fingerprintPath).Writable) :
    (executeAll (preparations spec meets disk ++ [writeBaseline lib spec meets document]) outcomes
        disk).disk.file spec.fingerprintPath =
      if FailsWithin (planLength spec meets disk) outcomes then disk.file spec.fingerprintPath
      else .text (baselineText lib document) := by
  have hcompleted := preparations_completed spec meets outcomes disk
  have hframe := preparations_fingerprint spec meets outcomes disk
  have hfails := failsWithin_add (preparations spec meets disk).length 1 outcomes
  rw [planLength, executeAll_append]
  by_cases hfirst : FailsWithin (preparations spec meets disk).length outcomes
  · rw [if_neg (not_not.mpr hfirst ∘ hcompleted.mp), if_pos (hfails.mpr (.inl hfirst)), hframe]
  · rw [if_pos (hcompleted.mpr hfirst)]
    refine (executeAll_write rfl ?_ fun b hb => absurd hb List.not_mem_nil).trans ?_
    · exact hframe.symm ▸ hwritable
    · by_cases hwrite : FailsWithin 1 (outcomes.drop (preparations spec meets disk).length)
      · exact (if_pos hwrite).trans (hframe.trans (if_pos (hfails.mpr (.inr hwrite))).symm)
      · exact (if_neg hwrite).trans (if_neg (mt hfails.mp (not_or.mpr ⟨hfirst, hwrite⟩))).symm

/-- The baseline is written behind the secret. -/
theorem execute_plan_secret :
    (executeAll (preparations spec meets disk ++ [writeBaseline lib spec meets document]) outcomes
        disk).disk.file spec.hmacSecretPath = secretAfter spec meets outcomes disk := by
  have hlast : ∀ a ∈ [writeBaseline lib spec meets document], a.kind = .writeFile →
      spec.hmacSecretPath ≠ a.target := by
    intro a ha _
    rw [List.mem_singleton.mp ha]
    exact spec.apart.symm
  rw [← preparations_secret, executeAll_append]
  split_ifs
  · exact executeAll_frame _ _ hlast
  · rfl

end Planned

/-! ## A camera and its baseline -/

/-- An instance as it is shipped. -/
def shippedSpec : Spec where
  vendorId := "8086"
  productId := "0b3a"
  fingerprintDir := "/var/lib/camera"
  fingerprintPath := "/var/lib/camera/cam-rgb.json"
  hmacSecretDir := "/etc/camera_bringup"
  hmacSecretPath := "/etc/camera_bringup/secret.key"
  apart := by decide

/-- A host whose camera answers with its serial number. -/
def hostWith (serial : String) : Host where
  device := some [("serial", .str serial), ("firmware", .str "5.16.0.1")]
  hostname := "robot"
  sysfsPath := some "2-1"
  v4lDev := some "/dev/video4"

/-- A plan on that host. -/
def planWith (serial now newSecret : String) : PlanMeets where
  host := hostWith serial
  now := now
  newSecret := newSecret

/-- The fingerprint of that camera. -/
def documentWith (serial now : String) (count : ℤ) : Members :=
  newFingerprint shippedSpec (planWith serial now "") (.str "2026-06-14T08:00:00Z") count

/-- How `json.dumps` writes it, behind the line of a signature. -/
def textWith (signature serial now count : String) : String :=
  "\x7b\n" ++ signature ++ "  \"calibration\": \x7b\x7d,\n  \"camera\": \x7b\n"
    ++ "    \"firmware\": \"5.16.0.1\",\n    \"product_id\": \"0b3a\",\n"
    ++ "    \"product_line\": null,\n    \"product_name\": null,\n"
    ++ "    \"serial\": \"" ++ serial ++ "\",\n"
    ++ "    \"usb_type\": null,\n    \"vendor_id\": \"8086\"\n  \x7d,\n"
    ++ "  \"history\": \x7b\n    \"first_seen_utc\": \"2026-06-14T08:00:00Z\",\n"
    ++ "    \"last_verified_utc\": \"" ++ now ++ "\",\n"
    ++ "    \"verify_count\": " ++ count ++ "\n  \x7d,\n"
    ++ "  \"host\": \x7b\n    \"hostname\": \"robot\",\n    \"sysfs_path\": \"2-1\",\n"
    ++ "    \"v4l_dev\": \"/dev/video4\"\n  \x7d,\n  \"schema_version\": 1\n\x7d"

/-- A disk with a baseline and a secret. -/
def diskWith (baseline secret : FileContent) : Disk where
  file path :=
    if path = shippedSpec.fingerprintPath then baseline
    else if path = shippedSpec.hmacSecretPath then secret
    else .absent
  dir path := path = shippedSpec.fingerprintDir

end CameraStack.Bringup
