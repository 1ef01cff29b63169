/-
# The SAFE mode

A marker file quarantines an instance: while it is there, nothing is to be changed.  A recovery
looks for the marker when it is called and runs no fixer if it finds it.  An apply on the command
line runs the same fixers and does not look, and neither does the runner.  So a quarantined
instance is left alone only by an apply whose fixers find nothing to do.

Calls run a fixer at a time, and the marker may come and go between two of them.  What a check
finds, what a fixer plans and how the host takes its actions is given with each run of a fixer.
-/

import CameraStack.Bringup.Swap

namespace CameraStack.Bringup

open CameraStack.Lib

/-! ## What a run of a fixer executes -/

/-- The actions that are executed, with what came of them: all up to the first that fails. -/
def performed : List Action → List Outcome → Disk → List Action
  | [], _, _ => []
  | a :: rest, outcomes, disk =>
      let first := a.execute (outcomes.headD .done) disk
      first.1 ::
        if first.1.status = .failed then [] else performed rest outcomes.tail first.2

/-- What one run of a fixer meets. -/
structure FixerMeets where
  pre : CheckResult
  plan : Except Raised (List Action)
  run : RunMeets := {}
  post : CheckResult

namespace FixerMeets

variable (meets : FixerMeets) (name : String) (dryRun : Bool) (disk : Disk)

/-- `run_fixer` for what it meets. -/
def runFixer : Except Raised FixerResult × Disk :=
  CameraStack.Bringup.runFixer name (fun _ => meets.pre) (fun _ => meets.post)
    (fun _ => meets.plan) dryRun meets.run disk

/-- The actions that it executes: none where the check is OK, the plan raises, the run is dry or
the lock is not to be had. -/
def executed : List Action :=
  if meets.pre.status = .ok then []
  else
    match meets.plan with
    | .error _ => []
    | .ok actions =>
        if dryRun then []
        else
          match meets.run.lockRaises with
          | some _ => []
          | none => performed actions meets.run.outcomes disk

/-- It finds nothing to do, or does not get to do it. -/
def Idle : Prop :=
  meets.pre.status = .ok ∨ (∀ actions, meets.plan = .ok actions → actions = []) ∨
    meets.run.lockRaises ≠ none

variable {actions : List Action} (outcomes : List Outcome)

/-- The actions of a result are those that were executed and those that were not come to. -/
theorem executeAll_actions : (executeAll actions outcomes disk).actions =
    performed actions outcomes disk ++ actions.drop (performed actions outcomes disk).length := by
  induction actions generalizing outcomes disk with
  | nil => rfl
  | cons a rest ih =>
      rw [executeAll, performed]
      simp only
      split_ifs
      · rfl
      · exact congrArg (List.cons _) (ih _ _)

theorem performed_eq_nil : performed actions outcomes disk = [] ↔ actions = [] := by
  cases actions with
  | nil => exact ⟨fun _ => rfl, fun _ => rfl⟩
  | cons a rest => exact ⟨fun h => (List.cons_ne_nil _ _ h).elim, fun h => by cases h⟩

theorem executed_eq_nil : meets.executed dryRun disk = [] ↔ dryRun = true ∨ meets.Idle := by
  rw [executed, Idle]
  by_cases hok : meets.pre.status = .ok
  · rw [if_pos hok]
    exact ⟨fun _ => .inr (.inl hok), fun _ => rfl⟩
  · rw [if_neg hok]
    cases hplan : meets.plan with
    | error e => exact ⟨fun _ => .inr (.inr (.inl fun _ h => by cases h)), fun _ => rfl⟩
    | ok actions =>
        simp only
        by_cases hdry : dryRun = true
        · rw [if_pos hdry]
          exact ⟨fun _ => .inl hdry, fun _ => rfl⟩
        · rw [if_neg hdry]
          cases hlock : meets.run.lockRaises with
          | some e => exact ⟨fun _ => .inr (.inr (.inr (Option.some_ne_none e))), fun _ => rfl⟩
          | none =>
              rw [performed_eq_nil]
              constructor
              · intro hnone
                refine .inr (.inr (.inl fun planned h => ?_))
                rw [← Except.ok.inj h]
                exact hnone
              · rintro (h | h | h | h)
                · exact absurd h hdry
                · exact absurd h hok
                · exact h actions rfl
                · exact absurd rfl h

/-- A run that executes nothing leaves the disk as it is. -/
theorem runFixer_disk (h : meets.executed dryRun disk = []) :
    (meets.runFixer name dryRun disk).2 = disk := by
  rw [executed_eq_nil, Idle] at h
  rw [runFixer, CameraStack.Bringup.runFixer]
  by_cases hok : meets.pre.status = .ok
  · simp only [hok, if_true]
  · simp only [hok, if_false]
    cases hplan : meets.plan with
    | error e => rfl
    | ok actions =>
        by_cases hdry : dryRun = true
        · simp only [hdry, if_true]
        · simp only [hdry]
          cases hlock : meets.run.lockRaises with
          | some e => rfl
          | none =>
              have hnone : actions = [] := by
                rcases h with h | h | h | h
                · exact absurd h hdry
                · exact absurd h hok
                · exact h actions hplan
                · exact absurd hlock h
              rw [hnone]
              rfl

end FixerMeets

/-! ## The marker -/

/-- The marker of an instance, as `enter_safe_mode` writes it. -/
structure SafeMarker where
  reason : String
  ts : String
  setBy : String
  instanceId : String
  deriving DecidableEq

/-! ## Calls -/

/-- Who runs the fixers: `L0.attempt_recovery`, or `cmd_apply`, which may go on when one fails. -/
inductive Caller
  | attemptRecovery
  | cmdApply (continueOnFail : Bool)
  deriving DecidableEq

/-- A call, with the fixers it has still to run and the results it has, and whether the marker was
there when it began. -/
structure FixerCall where
  caller : Caller
  dryRun : Bool
  startedSafe : Bool
  rest : List String
  results : List FixerResult := []

/-- A result ends the call, or the next fixer is run. -/
def FixerCall.proceeds (c : FixerCall) (result : FixerResult) (rest : List String) : FixerCall :=
  { c with
    results := c.results ++ [result]
    rest := if result.status = .failed ∧ c.caller = .cmdApply false then [] else rest }

/-- An instance: its marker, its files, and the calls that were made. -/
structure Instance where
  marker : Option SafeMarker := none
  disk : Disk
  calls : List FixerCall := []

/-- What happens.  The marker is written and removed in one step, or not at all. -/
inductive SafeEvent
  | enterSafeMode (marker : SafeMarker) (raises : Option Raised)
  | exitSafeMode (raises : Option Raised)
  | attemptRecovery (dryRun : Bool)
  | cmdApply (only : List String) (dryRun continueOnFail : Bool)
  | fixer (call : ℕ) (meets : FixerMeets)

/-- An action that a call has executed. -/
structure Execution where
  call : ℕ
  action : Action

namespace Instance

/-- `is_safe_mode`. -/
def isSafeMode (s : Instance) : Bool := s.marker.isSome

/-- `enter_safe_mode`. -/
def enterSafeMode (marker : SafeMarker) (raises : Option Raised) (s : Instance) : Instance :=
  if raises.isSome then s else { s with marker := some marker }

/-- `exit_safe_mode`. -/
def exitSafeMode (raises : Option Raised) (s : Instance) : Instance :=
  if raises.isSome then s else { s with marker := none }

/-- A call begins. -/
def begin (caller : Caller) (dryRun : Bool) (fixers : List String) (s : Instance) : Instance :=
  { s with
    calls := s.calls ++
      [{ caller := caller, dryRun := dryRun, startedSafe := s.isSafeMode, rest := fixers }] }

/-- `L0.attempt_recovery` up to its first fixer. -/
def attemptRecovery (dryRun : Bool) (s : Instance) : Instance :=
  if s.isSafeMode && !dryRun then s else s.begin .attemptRecovery dryRun allFixers

/-- `cmd_apply` up to its first fixer; an unknown name ends it. -/
def cmdApply (only : List String) (dryRun continueOnFail : Bool) (s : Instance) : Instance :=
  let selected := if only.isEmpty then allFixers else allFixers.filter fun name => name ∈ only
  if only.any fun name => name ∉ allFixers then s
  else s.begin (.cmdApply continueOnFail) dryRun selected

/-- A call runs its next fixer; what is raised ends it. -/
def runNext (i : ℕ) (meets : FixerMeets) (s : Instance) : Instance × List Execution :=
  match s.calls[i]? with
  | none => (s, [])
  | some c =>
      match c.rest with
      | [] => (s, [])
      | name :: rest =>
          let ran := meets.runFixer name c.dryRun s.disk
          let c' :=
            match ran.1 with
            | .error _ => { c with rest := [] }
            | .ok result => c.proceeds result rest
          ({ s with disk := ran.2, calls := s.calls.set i c' },
            (meets.executed c.dryRun s.disk).map fun a => { call := i, action := a })

end Instance

/-- The instance, event after event, with the actions it executes. -/
def safeMachine : Machine Instance SafeEvent Execution where
  step s
    | .enterSafeMode marker raises => (s.enterSafeMode marker raises, [])
    | .exitSafeMode raises => (s.exitSafeMode raises, [])
    | .attemptRecovery dryRun => (s.attemptRecovery dryRun, [])
    | .cmdApply only dryRun continueOnFail => (s.cmdApply only dryRun continueOnFail, [])
    | .fixer i meets => s.runNext i meets

/-! ## A quarantine that is kept -/

namespace Instance

/-- What is executed is executed by calls that began outside the SAFE mode. -/
def Blocks (s : Instance) (e : SafeEvent) : Prop :=
  ∀ x ∈ safeMachine.emits s e, ∀ c, s.calls[x.call]? = some c → c.startedSafe = false

/-- An apply that began in the SAFE mode is dry, or the fixer that it runs finds nothing to do. -/
def Spares (s : Instance) : SafeEvent → Prop
  | .fixer i meets =>
      ∀ c, s.calls[i]? = some c → c.startedSafe = true → c.rest ≠ [] →
        c.caller ≠ .attemptRecovery → c.dryRun = true ∨ meets.Idle
  | _ => True

/-- A recovery that goes on in the SAFE mode is dry. -/
def Guarded (s : Instance) : Prop :=
  ∀ c ∈ s.calls, c.caller = .attemptRecovery → c.startedSafe = true → c.dryRun = true

variable {s : Instance}

theorem Guarded.begin (h : s.Guarded) {caller : Caller} {dryRun : Bool} {fixers : List String}
    (hcaller : caller = .attemptRecovery → s.isSafeMode = true → dryRun = true) :
    (s.begin caller dryRun fixers).Guarded := by
  intro c hc
  rcases List.mem_append.mp hc with hold | hnew
  · exact h c hold
  · rw [List.mem_singleton.mp hnew]
    exact hcaller

theorem Guarded.runNext (h : s.Guarded) (i : ℕ) (meets : FixerMeets) :
    (s.runNext i meets).1.Guarded := by
  rw [Instance.runNext]
  split
  · exact h
  · rename_i c hc
    split
    · exact h
    · rename_i name rest hrest
      -- Whatever comes of the fixer, the call keeps its caller, its start and its mode.
      have hkept : ∀ c', c'.caller = c.caller → c'.startedSafe = c.startedSafe →
          c'.dryRun = c.dryRun → ∀ d ∈ s.calls.set i c', d.caller = .attemptRecovery →
            d.startedSafe = true → d.dryRun = true := by
        intro c' hcaller hstarted hdry d hd
        rcases List.mem_or_eq_of_mem_set hd with hold | rfl
        · exact h d hold
        · rw [hcaller, hstarted, hdry]
          exact h c (List.mem_of_getElem? hc)
      simp only
      split
      · exact hkept _ rfl rfl rfl
      · exact hkept _ rfl rfl rfl

theorem Guarded.next (h : s.Guarded) (e : SafeEvent) : (safeMachine.next s e).Guarded := by
  cases e with
  | enterSafeMode marker raises =>
      change (s.enterSafeMode marker raises).Guarded
      rw [Instance.enterSafeMode]
      split_ifs
      · exact h
      · exact h
  | exitSafeMode raises =>
      change (s.exitSafeMode raises).Guarded
      rw [Instance.exitSafeMode]
      split_ifs
      · exact h
      · exact h
  | attemptRecovery dryRun =>
      change (s.attemptRecovery dryRun).Guarded
      rw [Instance.attemptRecovery]
      split_ifs with hblocked
      · exact h
      · refine h.begin fun _ hsafe => ?_
        simpa [hsafe] using hblocked
  | cmdApply only dryRun continueOnFail =>
      change (s.cmdApply only dryRun continueOnFail).Guarded
      rw [Instance.cmdApply]
      split_ifs
      · exact h
      · exact h.begin (by intro hcaller; cases hcaller)
      · exact h.begin (by intro hcaller; cases hcaller)
  | fixer i meets => exact h.runNext i meets

/-- A step executes nothing in the SAFE mode if and only if no apply finds anything to do there. -/
theorem Guarded.blocks_iff (h : s.Guarded) (e : SafeEvent) : s.Blocks e ↔ s.Spares e := by
  cases e with
  | enterSafeMode | exitSafeMode | attemptRecovery | cmdApply =>
      exact ⟨fun _ => trivial, fun _ x hx => absurd hx List.not_mem_nil⟩
  | fixer i meets =>
      change (∀ x ∈ (s.runNext i meets).2, _) ↔ _
      rw [Instance.runNext, Spares]
      cases hcall : s.calls[i]? with
      | none => exact ⟨fun _ c hc => (by cases hc), fun _ x hx => absurd hx List.not_mem_nil⟩
      | some c =>
          cases hrest : c.rest with
          | nil =>
              simp only [hrest]
              refine ⟨fun _ c' hc' _ hmore => ?_, fun _ x hx => absurd hx List.not_mem_nil⟩
              cases hc'
              exact absurd hrest hmore
          | cons name rest =>
              simp only [hrest]
              constructor
              · intro hblocks c' hc' hstarted _ _
                cases hc'
                rw [← meets.executed_eq_nil c.dryRun s.disk]
                by_contra hexecuted
                obtain ⟨a, ha⟩ := List.exists_mem_of_ne_nil _ hexecuted
                have hoff := hblocks { call := i, action := a } (List.mem_map_of_mem ha) c hcall
                rw [hstarted] at hoff
                cases hoff
              · intro hspares x hx c' hc'
                obtain ⟨a, ha, rfl⟩ := List.mem_map.mp hx
                have hsame : c = c' := Option.some.inj (hcall.symm.trans hc')
                subst hsame
                have hsome : meets.executed c.dryRun s.disk ≠ [] := List.ne_nil_of_mem ha
                rw [Ne, meets.executed_eq_nil c.dryRun s.disk] at hsome
                by_contra hstarted
                rw [Bool.not_eq_false] at hstarted
                refine hsome ?_
                by_cases hcaller : c.caller = .attemptRecovery
                · exact .inl (h c (List.mem_of_getElem? hcall) hcaller hstarted)
                · exact hspares c rfl hstarted (by rw [hrest]; exact List.cons_ne_nil _ _) hcaller

/-- The SAFE mode blocks every action of a run if and only if no apply of the command line that
began in it finds anything to do. -/
theorem safe_mode_blocks_iff (disk : Disk) (events : List SafeEvent) :
    safeMachine.Along Blocks { disk := disk } events ↔
      safeMachine.Along Spares { disk := disk } events :=
  safeMachine.along_congr (fun _ e h => Guarded.next h e) (fun _ e h => h.blocks_iff e)
    (fun _ hc => absurd hc List.not_mem_nil) events

/-- The marker of an operator. -/
def swapMarker : SafeMarker where
  reason := "camera swap in progress"
  ts := "2026-06-14T08:00:00Z"
  setBy := "robot"
  instanceId := "cam-rgb"

/-- `ResetToolsFixer.plan`, where the environment of the tools is there. -/
def resetToolsPlan (home : String) : List Action :=
  let pip := home ++ "/.venv/bin/pip"
  let script := home ++ "/hw_reset_realsense.py"
  [{ kind := .run, description := pip ++ " install -r requirements.txt (pure-Python)", target := pip
     payload := some ("install --quiet -r " ++ home ++ "/requirements.txt") },
   { kind := .run
     description := pip ++ " install -r requirements-hardware.txt (hash-verified)", target := pip
     payload := some ("install --quiet --require-hashes -r " ++ home ++
       "/requirements-hardware.txt") },
   { kind := .chmodExec, description := "chmod +x " ++ script, target := script }]

/-- The reset script has lost its mode. -/
def resetToolsMeets : FixerMeets where
  pre := { name := "reset_tools", status := .fail, summary := "not executable" }
  plan := .ok (resetToolsPlan "/opt/camera_bringup")
  post := { name := "reset_tools", status := .ok, summary := "" }

/-- In the SAFE mode, an apply of the fixer of the reset tools makes the script executable. -/
theorem safe_mode_bypassed :
    ¬ ∀ (disk : Disk) (events : List SafeEvent),
      safeMachine.Along Blocks { disk := disk } events := by
  intro h
  have hrun := h (diskWith .absent .absent)
    ([.enterSafeMode swapMarker none, .cmdApply ["reset_tools"] false false] ++
      [.fixer 0 resetToolsMeets])
  have hlast := ((Machine.along_append _ _ _ _).mp hrun).2.1
  have hexecuted : ∃ x ∈ safeMachine.emits (safeMachine.run { disk := diskWith .absent .absent }
      [.enterSafeMode swapMarker none, .cmdApply ["reset_tools"] false false])
      (.fixer 0 resetToolsMeets), x.call = 0 :=
    ⟨_, List.mem_cons_self, rfl⟩
  obtain ⟨x, hx, hcall⟩ := hexecuted
  have hblocked := hlast x hx
  rw [hcall] at hblocked
  exact Bool.noConfusion (hblocked _ rfl)

end Instance

end CameraStack.Bringup
