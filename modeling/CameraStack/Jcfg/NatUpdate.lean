/-
# Is the NAT configuration live?

An update of the NAT configuration stores the configuration that is wanted, has its block written
into `janus.jcfg`, restarts Janus and says in a status file beside the configuration how far it
came.  The page that shows the status compares its hash with the configuration.  Nothing holds
the files together: updates run side by side, and a render writes `janus.jcfg` as well and does
not know the status.
-/

import CameraStack.Jcfg.Text
import CameraStack.Lib.Machine

namespace CameraStack.Jcfg

open CameraStack.Lib

/-! ## The files of the host and the calls that run -/

/-- The word of the status file. -/
inductive ApplyStatus where
  | pending | applied | failed
  deriving DecidableEq, Repr

/-- `failure_stage`. -/
inductive FailureStage where
  | persist | patchLocal | restartLocal
  deriving DecidableEq, Repr

/-- The record of the status file. -/
structure ApplyRecord where
  status : ApplyStatus
  diffHash : String
  failureStage : Option FailureStage := none
  deriving DecidableEq, Repr

/-- The next access of `update_nat_config`. -/
inductive UpdateStep where
  | persist
  | markPending
  | patch
  | restart
  | restartDepth
  | markApplied
  | markFailed (stage : FailureStage)
  deriving DecidableEq, Repr

/-- A call that runs. -/
inductive Call where
  /-- `update_nat_config`, once it has its configuration. -/
  | update (cfg : JanusNatConfig) (step : UpdateStep)
  /-- `render`, once it has its substitutions, and whether a restart of Janus follows. -/
  | render (subs : List (String × List Char)) (restartJanus : Bool)
  /-- `apply` behind its render. -/
  | restart
  deriving DecidableEq

/-- The call is an update. -/
def Call.isUpdate : Call → Bool
  | .update .. => true
  | .render .. | .restart => false

/-- The call is an update behind its patch that will say that its configuration is applied. -/
def Call.isApplying : Call → Bool
  | .update _ .restart | .update _ .restartDepth | .update _ .markApplied => true
  | .update .. | .render .. | .restart => false

/-- The host. -/
structure JanusHost where
  /-- `janus-nat.json`. -/
  desired : Option JanusNatConfig := none
  /-- The status file beside it. -/
  status : Option ApplyRecord := none
  /-- `janus.jcfg`. -/
  jcfg : Option (List Char) := none
  /-- Janus has been restarted since `janus.jcfg` was written. -/
  restarted : Bool := false
  calls : List Call := []

/-- How an access ends; one that ends with an error may have taken effect. -/
inductive Answer where
  | ok
  | error (took : Bool)
  deriving DecidableEq, Repr

/-- The access takes effect. -/
def Answer.happens : Answer → Bool
  | .ok => true
  | .error took => took

/-! ## The accesses -/

/-- What `load_nat_config` meets. -/
structure NatLoad where
  /-- What the color camera answers when the host is a depth camera. -/
  camera : Option JanusNatConfig
  readable : Bool
  env : NatEnv

/-- `load_nat_config`. -/
def loadNatConfig (desired : Option JanusNatConfig) (load : NatLoad) : JanusNatConfig :=
  match load.camera with
  | some cfg => cfg
  | none =>
      if load.readable then desired.getD (JanusNatConfig.default load.env)
      else JanusNatConfig.default load.env

/-- The configuration of an update: a password that is masked or empty keeps the stored one. -/
def resolveNatConfig (requested stored : JanusNatConfig) : JanusNatConfig :=
  if requested.turnPwd = "" ∨ requested.turnPwd = "***" then
    { requested with turnPwd := stored.turnPwd }
  else requested

namespace JanusHost

variable (hash : JanusNatConfig → String) (template : List Char)

/-- `janus.jcfg` is written. -/
def writeJcfg (s : JanusHost) (text : List Char) : JanusHost :=
  { s with jcfg := some text, restarted := false }

/-- `write_apply_status`. -/
def writeStatus (s : JanusHost) (record : ApplyRecord) : JanusHost :=
  { s with status := some record }

/-- The effect of an access when it has one. -/
def took (s : JanusHost) (answer : Answer) (after : JanusHost) : JanusHost :=
  if answer.happens then after else s

/-- One access of a call, and how the call goes on. -/
def access (s : JanusHost) (answer : Answer) : Call → JanusHost × Option Call
  | .update cfg .persist =>
      (s.took answer { s with desired := some cfg },
        some (.update cfg (if answer = .ok then .markPending else .markFailed .persist)))
  | .update cfg .markPending =>
      (s.took answer (s.writeStatus ⟨.pending, hash cfg, none⟩), some (.update cfg .patch))
  | .update cfg .patch =>
      match s.jcfg.bind fun text => patchNatBlock text (renderNatBlock cfg) with
      | none => (s, some (.update cfg (.markFailed .patchLocal)))
      | some patched =>
          (s.took answer (s.writeJcfg patched),
            some (.update cfg (if answer = .ok then .restart else .markFailed .patchLocal)))
  | .update cfg .restart =>
      (s.took answer { s with restarted := true },
        some (.update cfg (if answer = .ok then .restartDepth else .markFailed .restartLocal)))
  -- A depth node that does not restart is a warning.
  | .update cfg .restartDepth => (s, some (.update cfg .markApplied))
  | .update cfg .markApplied => (s.took answer (s.writeStatus ⟨.applied, hash cfg, none⟩), none)
  | .update cfg (.markFailed stage) =>
      (s.took answer (s.writeStatus ⟨.failed, hash cfg, some stage⟩), none)
  -- A file that is not rendered is skipped, and Janus is restarted all the same.
  | .render subs restartJanus =>
      (s.took answer (s.writeJcfg (applySubstitutions template subs)),
        if restartJanus then some .restart else none)
  | .restart => (s.took answer { s with restarted := true }, none)

/-- The call at an index goes on as another one or ends. -/
def goOn (s : JanusHost) (i : ℕ) : Option Call → JanusHost
  | some c => { s with calls := s.calls.set i c }
  | none => { s with calls := s.calls.eraseIdx i }

/-- The call at an index makes its next access. -/
def advance (s : JanusHost) (i : ℕ) (answer : Answer) : JanusHost :=
  match s.calls[i]? with
  | none => s
  | some c => (s.access hash template answer c).1.goOn i (s.access hash template answer c).2

end JanusHost

/-- What happens on the host. -/
inductive HostEvent where
  /-- `update_nat_config` begins. -/
  | update (requested : JanusNatConfig) (load : NatLoad)
  /-- `render` begins. -/
  | render (natMapping : Option String) (inputs : RenderInputs) (restartJanus : Bool)
  /-- A call makes its next access. -/
  | go (i : ℕ) (answer : Answer)
  /-- A call ends with an exception that it does not handle. -/
  | escape (i : ℕ)
  /-- The process dies. -/
  | crash

/-- The host, event by event. -/
def hostMachine (hash : JanusNatConfig → String) (template : List Char) :
    Machine JanusHost HostEvent Empty where
  step s
    | .update requested load =>
        let cfg := resolveNatConfig requested (loadNatConfig s.desired load)
        ({ s with calls := s.calls ++ [.update cfg .persist] }, [])
    | .render natMapping inputs restartJanus =>
        let subs := buildSubstitutions inputs natMapping s.jcfg
        ({ s with calls := s.calls ++ [.render subs restartJanus] }, [])
    | .go i answer => (s.advance hash template i answer, [])
    | .escape i => (s.goOn i none, [])
    | .crash => ({ s with calls := [] }, [])

/-! ## Truthful -/

namespace JanusHost

/-- The NAT block of `janus.jcfg` is the one of the configuration. -/
def HasBlock (s : JanusHost) (cfg : JanusNatConfig) : Prop :=
  ∃ text ∈ s.jcfg, hasNatBlock text (renderNatBlock cfg) = true

/-- The configuration is live. -/
def Live (s : JanusHost) (cfg : JanusNatConfig) : Prop := s.HasBlock cfg ∧ s.restarted = true

/-- The status file says of the configuration that it is applied. -/
def SaysApplied (hash : JanusNatConfig → String) (s : JanusHost) (cfg : JanusNatConfig) : Prop :=
  ∃ record ∈ s.status, record.status = .applied ∧ record.diffHash = hash cfg

instance (s : JanusHost) (cfg : JanusNatConfig) : Decidable (s.HasBlock cfg) :=
  inferInstanceAs (Decidable (∃ text ∈ s.jcfg, _))

instance (s : JanusHost) (cfg : JanusNatConfig) : Decidable (s.Live cfg) :=
  inferInstanceAs (Decidable (_ ∧ _))

instance (hash : JanusNatConfig → String) (s : JanusHost) (cfg : JanusNatConfig) :
    Decidable (s.SaysApplied hash cfg) :=
  inferInstanceAs (Decidable (∃ record ∈ s.status, _))

variable (hash : JanusNatConfig → String)

/-- When no update runs, a wanted configuration that the status calls applied is live. -/
def Truthful (s : JanusHost) : Prop :=
  (∀ c ∈ s.calls, c.isUpdate = false) → ∀ cfg ∈ s.desired, s.SaysApplied hash cfg → s.Live cfg

/-- `janus.jcfg` may be written: the status does not say that it is the wanted one, and no update
is about to say so. -/
def Writable (s : JanusHost) : Prop :=
  (∀ cfg ∈ s.desired, ¬ s.SaysApplied hash cfg) ∧ ∀ c ∈ s.calls, c.isApplying = false

/-- An access that takes effect does so in order. -/
def InOrder (s : JanusHost) : Call → Prop
  | .update cfg .persist => s.SaysApplied hash cfg → s.Live cfg
  | .update _ .patch | .render .. => s.Writable hash
  | .update cfg .markApplied =>
      ∀ wanted ∈ s.desired, hash wanted = hash cfg → renderNatBlock wanted = renderNatBlock cfg
  | .update .. | .restart => True

instance (s : JanusHost) : Decidable (s.Writable hash) :=
  inferInstanceAs (Decidable (_ ∧ _))

instance (s : JanusHost) (c : Call) : Decidable (s.InOrder hash c) :=
  match c with
  | .update cfg .persist => inferInstanceAs (Decidable (s.SaysApplied hash cfg → s.Live cfg))
  | .update _ .patch | .render .. => inferInstanceAs (Decidable (s.Writable hash))
  | .update cfg .markApplied =>
      inferInstanceAs (Decidable (∀ wanted ∈ s.desired, hash wanted = hash cfg →
        renderNatBlock wanted = renderNatBlock cfg))
  | .update _ .markPending | .update _ .restart | .update _ .restartDepth
  | .update _ (.markFailed _) | .restart => isTrue trivial

/-- The accesses of a run come in order. -/
def Ordered (s : JanusHost) : HostEvent → Prop
  | .go i answer => answer.happens = true → ∀ c ∈ s.calls[i]?, s.InOrder hash c
  | _ => True

instance (s : JanusHost) (e : HostEvent) : Decidable (s.Ordered hash e) :=
  match e with
  | .go i answer =>
      inferInstanceAs (Decidable (answer.happens = true → ∀ c ∈ s.calls[i]?, s.InOrder hash c))
  | .update .. | .render .. | .escape _ | .crash => isTrue trivial

instance (s : JanusHost) : Decidable (s.Truthful hash) :=
  inferInstanceAs (Decidable (_ → ∀ cfg ∈ s.desired, s.SaysApplied hash cfg → s.Live cfg))

end JanusHost

/-! ## What every access keeps -/

/-- What an update knows of `janus.jcfg` when it comes to a step. -/
def UpdateStep.Knows (s : JanusHost) (cfg : JanusNatConfig) : UpdateStep → Prop
  | .restart => s.HasBlock cfg
  | .restartDepth | .markApplied => s.Live cfg
  | .persist | .markPending | .patch | .markFailed _ => True

namespace JanusHost

/-- What every step preserves. -/
structure Sound (hash : JanusNatConfig → String) (s : JanusHost) : Prop where
  applied : ∀ cfg ∈ s.desired, s.SaysApplied hash cfg → s.Live cfg
  knows : ∀ cfg step, .update cfg step ∈ s.calls → step.Knows s cfg

variable {hash : JanusNatConfig → String} {s after : JanusHost} {answer : Answer}

theorem Sound.truthful (h : s.Sound hash) : s.Truthful hash := fun _ => h.applied

theorem Sound.took (h : s.Sound hash) (hafter : answer.happens = true → after.Sound hash) :
    (s.took answer after).Sound hash := by
  rw [JanusHost.took]
  split_ifs with hhappens
  · exact hafter hhappens
  · exact h

/-- A configuration is stored. -/
theorem Sound.persist (h : s.Sound hash) {cfg : JanusNatConfig}
    (hlive : s.SaysApplied hash cfg → s.Live cfg) :
    Sound hash { s with desired := some cfg } where
  applied := by
    intro wanted hwanted hsays
    cases hwanted
    exact hlive hsays
  knows := h.knows

/-- A status other than applied. -/
theorem Sound.writeStatus (h : s.Sound hash) {record : ApplyRecord}
    (hstatus : record.status ≠ .applied) : (s.writeStatus record).Sound hash where
  applied := by
    rintro wanted - ⟨record', hrecord, hsays, -⟩
    cases hrecord
    exact absurd hsays hstatus
  knows := h.knows

/-- The status of a configuration that is live. -/
theorem Sound.writeApplied (h : s.Sound hash) {cfg : JanusNatConfig} (hlive : s.Live cfg)
    (hsame : ∀ wanted ∈ s.desired, hash wanted = hash cfg →
      renderNatBlock wanted = renderNatBlock cfg) :
    (s.writeStatus ⟨.applied, hash cfg, none⟩).Sound hash where
  applied := by
    rintro wanted hwanted ⟨record, hrecord, -, hhash⟩
    cases hrecord
    obtain ⟨⟨text, htext, hblock⟩, hrestarted⟩ := hlive
    refine ⟨⟨text, htext, ?_⟩, hrestarted⟩
    rw [hsame wanted hwanted hhash.symm]
    exact hblock
  knows := h.knows

/-- `janus.jcfg` is written when nothing says or is about to say that it is applied. -/
theorem Sound.writeJcfg (h : s.Writable hash) (text : List Char) :
    (s.writeJcfg text).Sound hash where
  applied := fun cfg hcfg hsays => absurd hsays (h.1 cfg hcfg)
  knows := by
    intro cfg step hmem
    have hnot := h.2 _ hmem
    cases step with
    | persist | markPending | patch | markFailed => trivial
    | restart | restartDepth | markApplied => cases hnot

/-- Janus is restarted. -/
theorem Sound.restart (h : s.Sound hash) : Sound hash { s with restarted := true } where
  applied := fun cfg hcfg hsays => ⟨(h.applied cfg hcfg hsays).1, rfl⟩
  knows := by
    intro cfg step hmem
    have hknows := h.knows cfg step hmem
    cases step with
    | persist | markPending | patch | markFailed => trivial
    | restart => exact hknows
    | restartDepth | markApplied => exact ⟨hknows.1, rfl⟩

/-- A call goes on where it knows enough, or ends. -/
theorem Sound.goOn (h : s.Sound hash) (i : ℕ) {next : Option Call}
    (hnext : ∀ cfg step, next = some (.update cfg step) → step.Knows s cfg) :
    (s.goOn i next).Sound hash := by
  cases next with
  | none => exact ⟨h.applied, fun cfg step hmem => h.knows cfg step (List.mem_of_mem_eraseIdx hmem)⟩
  | some c =>
      refine ⟨h.applied, fun cfg step hmem => ?_⟩
      rcases List.mem_or_eq_of_mem_set hmem with hold | rfl
      · exact h.knows cfg step hold
      · exact hnext cfg step rfl

/-- What an access leaves: the files in order, and an update that knows enough for its next
step. -/
theorem Sound.access (h : s.Sound hash) (template : List Char) {c : Call} (hmem : c ∈ s.calls)
    (horder : answer.happens = true → s.InOrder hash c) :
    (s.access hash template answer c).1.Sound hash ∧
      ∀ cfg step, (s.access hash template answer c).2 = some (.update cfg step) →
        step.Knows (s.access hash template answer c).1 cfg := by
  cases c with
  | update cfg step =>
      have hknows := h.knows cfg step hmem
      cases step with
      | persist =>
          refine ⟨h.took fun hhappens => h.persist (horder hhappens), fun cfg' step' heq => ?_⟩
          cases heq
          split_ifs <;> trivial
      | markPending =>
          refine ⟨h.took fun _ => h.writeStatus nofun, fun cfg' step' heq => ?_⟩
          cases heq
          trivial
      | patch =>
          rw [JanusHost.access]
          split
          · refine ⟨h, fun cfg' step' heq => ?_⟩
            cases heq
            trivial
          · next patched hpatched =>
            refine ⟨h.took fun hhappens => .writeJcfg (horder hhappens) patched,
              fun cfg' step' heq => ?_⟩
            cases heq
            split_ifs with hok
            · obtain ⟨text, -, hpatch⟩ := Option.bind_eq_some_iff.mp hpatched
              rw [hok]
              exact ⟨patched, rfl, hasNatBlock_of_patchNatBlock hpatch⟩
            · trivial
      | restart =>
          refine ⟨h.took fun _ => h.restart, fun cfg' step' heq => ?_⟩
          cases heq
          split_ifs with hok
          · rw [hok]
            exact ⟨hknows, rfl⟩
          · trivial
      | restartDepth =>
          refine ⟨h, fun cfg' step' heq => ?_⟩
          cases heq
          exact hknows
      | markApplied =>
          refine ⟨h.took fun hhappens => h.writeApplied hknows (horder hhappens), ?_⟩
          intro cfg' step' heq
          cases heq
      | markFailed stage =>
          refine ⟨h.took fun _ => h.writeStatus nofun, fun cfg' step' heq => ?_⟩
          cases heq
  | render subs restartJanus =>
      refine ⟨h.took fun hhappens => .writeJcfg (horder hhappens) _, fun cfg step heq => ?_⟩
      simp only [JanusHost.access] at heq
      split_ifs at heq
      cases heq
  | restart =>
      refine ⟨h.took fun _ => h.restart, fun cfg step heq => ?_⟩
      cases heq

/-- A call begins. -/
theorem Sound.begin (h : s.Sound hash) {c : Call}
    (hc : ∀ cfg step, c = .update cfg step → step.Knows s cfg) :
    Sound hash { s with calls := s.calls ++ [c] } where
  applied := h.applied
  knows := by
    intro cfg step hmem
    rcases List.mem_append.mp hmem with hold | hnew
    · exact h.knows cfg step hold
    · exact hc cfg step (List.mem_singleton.mp hnew).symm

theorem Sound.next (template : List Char) (e : HostEvent) (h : s.Sound hash)
    (hordered : s.Ordered hash e) : ((hostMachine hash template).next s e).Sound hash := by
  cases e with
  | update requested load =>
      refine h.begin fun cfg step heq => ?_
      cases heq
      trivial
  | render natMapping inputs restartJanus =>
      refine h.begin fun cfg step heq => ?_
      cases heq
  | go i answer =>
      change (s.advance hash template i answer).Sound hash
      rw [advance]
      cases hcall : s.calls[i]? with
      | none => exact h
      | some c =>
          obtain ⟨hsound, hnext⟩ := h.access template (List.mem_of_getElem? hcall) fun hhappens =>
            hordered hhappens c hcall
          exact hsound.goOn i hnext
  | escape i =>
      refine @Sound.goOn hash s h i none fun cfg step heq => ?_
      cases heq
  | crash => exact ⟨h.applied, fun _ _ hmem => absurd hmem List.not_mem_nil⟩

theorem Sound.initial {s : JanusHost} (hcalls : s.calls = []) (hstatus : s.status = none) :
    s.Sound hash where
  applied := by
    rintro cfg - ⟨record, hrecord, -⟩
    rw [hstatus] at hrecord
    cases hrecord
  knows := by
    intro cfg step hmem
    rw [hcalls] at hmem
    cases hmem

end JanusHost

/-! ## A host with its template -/

/-- The configuration of a host without environment variables. -/
def sampleNatConfig : JanusNatConfig :=
  { JanusNatConfig.default ⟨none, none, none, "192.168.1.55"⟩ with
    turnPwd := "secret", nat11Mapping := "203.0.113.7" }

/-- What the renderer finds on a host whose Janus was built from source. -/
def sampleRenderInputs : RenderInputs where
  cfgDir := "/opt/janus/etc/janus"
  pluginsDir := "/opt/janus/lib/janus/plugins"
  transportsDir := "/opt/janus/lib/janus/transports"
  iface := "eth0"
  values := []

/-- What an update meets that finds no configuration. -/
def sampleNatLoad : NatLoad := ⟨none, true, ⟨none, none, none, "192.168.1.55"⟩⟩

/-- A host whose `janus.jcfg` has an empty NAT block. -/
def sampleHost : JanusHost := { jcfg := some "# BEGIN NAT AUTO\n# END NAT AUTO\n".toList }

/-- An update all of whose accesses end well. -/
def sampleUpdate : List HostEvent :=
  [.update sampleNatConfig sampleNatLoad, .go 0 .ok, .go 0 .ok, .go 0 .ok, .go 0 .ok, .go 0 .ok,
    .go 0 .ok]

/-- A config apply that renders and restarts Janus. -/
def configApply : List HostEvent :=
  [.render none sampleRenderInputs true, .go 0 .ok, .go 0 .ok]

/-- A hash for the configurations of the runs below. -/
def sampleHash (cfg : JanusNatConfig) : String := cfg.nat11Mapping

namespace JanusHost

/-- On a host without a status file at first, the status is truthful along every run whose
accesses come in order. -/
theorem truthful_of_ordered (hash : JanusNatConfig → String) (template : List Char) {s : JanusHost}
    {events : List HostEvent} (hcalls : s.calls = []) (hstatus : s.status = none)
    (hordered : (hostMachine hash template).Along (fun s e => s.Ordered hash e) s events) :
    (hostMachine hash template).Along
      (fun s e => ((hostMachine hash template).next s e).Truthful hash) s events :=
  Machine.along_of_invariant (I := Sound hash) (hostMachine hash template)
    (fun _ e h hordered => h.next template e hordered)
    (fun _ e h hordered => (h.next template e hordered).truthful) hordered
    (.initial hcalls hstatus)

theorem truthful_of_ordered_updated :
    (hostMachine sampleHash janusJcfgTemplate).Along
      (fun s e => ((hostMachine sampleHash janusJcfgTemplate).next s e).Truthful sampleHash)
      sampleHost sampleUpdate :=
  truthful_of_ordered sampleHash janusJcfgTemplate rfl rfl (by decide +kernel)

/-- A config apply behind an update that went well: the block of the template is back in
`janus.jcfg`, Janus runs with it, and the status says that the configuration is applied. -/
theorem status_outlives_render :
    let s := (hostMachine sampleHash janusJcfgTemplate).run sampleHost (sampleUpdate ++ configApply)
    s.calls = [] ∧ s.restarted = true ∧ ¬ s.Truthful sampleHash :=
  ⟨by decide +kernel, rfl, by decide +kernel⟩

end JanusHost

end CameraStack.Jcfg
