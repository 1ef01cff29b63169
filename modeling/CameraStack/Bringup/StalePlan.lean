/-
# Stale plans

Processes run the fingerprint fixer at the same time.  The lock keeps their actions apart, but a
plan is made before the lock is taken, and what it writes is fixed then: a new secret where there
was none, the counter of the baseline it found plus one, and a signature under the secret it
found.  By the time the plan is executed another call may have written either file.

As long as what is written was planned from what is still there, the secret stays, the baseline
verifies, and the counter counts the writes.
-/

import Mathlib.Logic.Function.Basic
import CameraStack.Lib.Machine
import CameraStack.Bringup.Tamper

namespace CameraStack.Bringup

open CameraStack.Lib

/-! ## Calls -/

/-- A plan of the fingerprint fixer, with the disk it was made from. -/
structure FixPlan where
  planning : PlanMeets
  seen : Disk
  document : Members

/-- How far a call of `run_fixer` has come. -/
inductive Call
  | waiting
  | checked (pre : CheckResult)
  | planned (pre : CheckResult) (plan : FixPlan)
  | running (pre : CheckResult) (path : String) (plan : FixPlan) (executed rest : List Action)
  | released (pre : CheckResult) (actions : List Action)
  | finished (result : Except Raised FixerResult)

/-- The steps of a call: the check before, the plan, the lock with the file that was opened for it,
the actions one by one, and the check after. -/
inductive CallEvent
  | check (host : Host)
  | plan (planning : PlanMeets)
  | lock (path : String) (raises : Option Raised)
  | act (outcome : Outcome)
  | recheck (host : Host)

/-- The disk, who holds which lock file, and the calls. -/
structure Applies where
  disk : Disk
  holder : String → Option ℕ := fun _ => none
  call : ℕ → Call := fun _ => .waiting

section Steps

variable (lib : Libraries) (spec : Spec)

/-- The actions of a plan. -/
def FixPlan.actions (plan : FixPlan) : List Action :=
  preparations spec plan.planning plan.seen ++ [writeBaseline lib spec plan.planning plan.document]

/-- One step of a call. -/
def Call.advance (call : Call) (holder : String → Option ℕ) (disk : Disk) (e : CallEvent) :
    Call × Disk :=
  match call, e with
  | .waiting, .check host =>
      let found := runCheck lib spec host disk
      (if found.status = .ok then
        .finished (.ok
          { name := "fingerprint", status := .skipped, preCheck := found
            summary := "check OK, fixer не нужен (" ++ found.summary ++ ")" })
      else .checked found, disk)
  | .checked pre, .plan planning =>
      match plannedDocument lib spec planning disk with
      | .error e => (.finished (.error e), disk)
      | .ok document =>
          (.planned pre { planning := planning, seen := disk, document := document }, disk)
  | .planned pre plan, .lock path raises =>
      match raises with
      | some e => (.finished (.error e), disk)
      | none =>
          if (holder path).isSome then
            (.finished (.error ("LockBusyError: apply lock " ++ path ++ " held by another process")),
              disk)
          else (.running pre path plan [] (plan.actions lib spec), disk)
  | .running pre path plan executed (a :: rest), .act outcome =>
      let acted := a.execute outcome disk
      (if acted.1.status = .failed then
        .finished (.ok
          { name := "fingerprint", status := .failed, preCheck := pre
            actions := executed ++ acted.1 :: rest
            summary := "action failed: " ++ acted.1.kind.text ++ " " ++ acted.1.target ++ " — "
              ++ acted.1.error.getD "None" })
      else if rest = [] then .released pre (executed ++ [acted.1])
      else .running pre path plan (executed ++ [acted.1]) rest, acted.2)
  | .released pre actions, .recheck host =>
      let after := runCheck lib spec host disk
      (.finished (.ok
        { name := "fingerprint"
          status := if after.status = .ok then .applied else .unfixed
          summary :=
            if after.status = .ok then "drift closed: " ++ after.summary
            else "actions ok, но drift остался: " ++ after.summary
          actions := actions, preCheck := pre, postCheck := some after }), disk)
  | call, _ => (call, disk)

/-- The lock file a call holds. -/
def Call.lockFile : Call → Option String
  | .running _ path _ _ _ => some path
  | _ => none

/-- The action executes the write of the baseline. -/
def Action.writesBaseline (a : Action) (outcome : Outcome) (disk : Disk) : Bool :=
  a.kind = .writeFile && a.target = spec.fingerprintPath &&
    (a.execute outcome disk).1.status ≠ .failed

/-- The step executes it. -/
def Call.writesBaseline (call : Call) (disk : Disk) (e : CallEvent) : Bool :=
  match call, e with
  | .running _ _ _ _ (a :: _), .act outcome => a.writesBaseline spec outcome disk
  | _, _ => false

/-- The calls take steps in any order; a call that writes the baseline says so. -/
def applyMachine : Machine Applies (ℕ × CallEvent) ℕ where
  step s e :=
    let moved := (s.call e.1).advance lib spec s.holder s.disk e.2
    ({ disk := moved.2
       holder := fun path =>
        if moved.1.lockFile = some path then some e.1
        else if (s.call e.1).lockFile = some path then none
        else s.holder path
       call := Function.update s.call e.1 moved.1 },
      if (s.call e.1).writesBaseline spec s.disk e.2 then [e.1] else [])

/-! ## What a step does to the two files -/

/-- A document that is written is read back, and signed again with the same signature. -/
structure RoundTrips (document : Members) : Prop where
  reads : ReadsBack lib document
  resigns : ∀ members, Json.sorted (.obj document) = .obj members →
    canonicalJson lib members = canonicalJson lib document

/-- The plan was made from what it saw. -/
structure FixPlan.Sound (plan : FixPlan) : Prop where
  planned : plannedDocument lib spec plan.planning plan.seen = .ok plan.document
  roundTrips : RoundTrips lib plan.document

/-- What a call works on is a plan that was made. -/
def Call.Sound : Call → Prop
  | .planned _ plan => plan.Sound lib spec
  | .running _ _ plan _ rest => plan.Sound lib spec ∧ ∀ a ∈ rest, a ∈ plan.actions lib spec
  | _ => True

/-- What the JSON library makes of a document that is planned. -/
def ReadsPlanned (s : Applies) (e : ℕ × CallEvent) : Prop :=
  match e.2 with
  | .plan planning => ∀ document, plannedDocument lib spec planning s.disk = .ok document →
      RoundTrips lib document
  | _ => True

/-- A file is written only where the plan is not stale: the file is as the plan saw it, and where
the plan signed, so is the secret. -/
def Fresh (s : Applies) (e : ℕ × CallEvent) : Prop :=
  match s.call e.1, e.2 with
  | .running _ _ plan _ (a :: _), .act outcome =>
      a.kind = .writeFile → outcome.failure = false →
        s.disk.file a.target = plan.seen.file a.target ∧
          (a.target = spec.fingerprintPath →
            loadSecret (plan.seen.file spec.hmacSecretPath) ≠ none →
              s.disk.file spec.hmacSecretPath = plan.seen.file spec.hmacSecretPath)
  | _, _ => True

/-- The changes of the two files, with the number of writes of the baseline. -/
inductive Change (before after : Disk) : ℕ → Prop
  | nothing (hfingerprint : after.file spec.fingerprintPath = before.file spec.fingerprintPath)
      (hsecret : after.file spec.hmacSecretPath = before.file spec.hmacSecretPath) :
      Change before after 0
  | secret (hfingerprint : after.file spec.fingerprintPath = before.file spec.fingerprintPath)
      (hnone : before.file spec.hmacSecretPath = .absent) : Change before after 0
  | baseline (plan : FixPlan) (hsound : plan.Sound lib spec)
      (hseen : before.file spec.fingerprintPath = plan.seen.file spec.fingerprintPath)
      (hsigned : loadSecret (plan.seen.file spec.hmacSecretPath) ≠ none →
        before.file spec.hmacSecretPath = plan.seen.file spec.hmacSecretPath)
      (hsecret : after.file spec.hmacSecretPath = before.file spec.hmacSecretPath)
      (hwritten : after.file spec.fingerprintPath = .text (baselineText lib plan.document)) :
      Change before after 1

/-- A plan writes two files: the secret where it saw none, and the baseline. -/
theorem FixPlan.writes_cases {plan : FixPlan} {a : Action} (ha : a ∈ plan.actions lib spec)
    (hkind : a.kind = .writeFile) :
    (a.target = spec.hmacSecretPath ∧ plan.seen.file spec.hmacSecretPath = .absent) ∨
      a = writeBaseline lib spec plan.planning plan.document := by
  rcases List.mem_append.mp ha with hprepared | hlast
  · exact .inl (preparations_targets spec plan.planning plan.seen a hprepared hkind)
  · exact .inr (List.mem_singleton.mp hlast)

/-- A fresh action is one of the changes. -/
theorem change_of_act {plan : FixPlan} {a : Action} {outcome : Outcome} {disk : Disk}
    (hsound : plan.Sound lib spec) (ha : a ∈ plan.actions lib spec)
    (hfresh : a.kind = .writeFile → outcome.failure = false →
      disk.file a.target = plan.seen.file a.target ∧
        (a.target = spec.fingerprintPath → loadSecret (plan.seen.file spec.hmacSecretPath) ≠ none →
          disk.file spec.hmacSecretPath = plan.seen.file spec.hmacSecretPath)) :
    Change lib spec disk (a.execute outcome disk).2 (a.writesBaseline spec outcome disk).toNat := by
  rw [Action.writesBaseline]
  by_cases hkind : a.kind = .writeFile
  · rcases execute_write_cases hkind outcome disk with ⟨hfailed, hsame⟩ | ⟨hok, hlets, hwritable⟩
    · rw [hsame]
      simp only [hfailed, ne_eq, not_true_eq_false, decide_false, Bool.and_false,
        Bool.toNat_false]
      exact .nothing rfl rfl
    · obtain ⟨hseen, hsigned⟩ := hfresh hkind hlets
      rcases plan.writes_cases lib spec ha hkind with ⟨htarget, hnone⟩ | rfl
      · have hother : spec.fingerprintPath ≠ a.target := by
          rw [htarget]
          exact spec.apart
        have hframe := execute_frame disk a outcome (fun _ => hother)
        simp only [hother.symm, decide_false, Bool.and_false, Bool.false_and, Bool.toNat_false]
        rw [htarget, hnone] at hseen
        exact .secret hframe hseen
      · have hframe := @execute_frame spec.hmacSecretPath disk
          (writeBaseline lib spec plan.planning plan.document) outcome fun _ => spec.apart.symm
        have hwritten := execute_write outcome hkind hwritable
        rw [if_neg (by rw [hlets]; exact Bool.false_ne_true)] at hwritten
        have htarget : (writeBaseline lib spec plan.planning plan.document).target =
            spec.fingerprintPath := rfl
        simp only [hkind, hok, htarget, ne_eq, not_false_eq_true, decide_true, Bool.and_true]
        exact .baseline plan hsound hseen (hsigned rfl) hframe hwritten
  · have hframe : ∀ path, (a.execute outcome disk).2.file path = disk.file path := fun path =>
      execute_frame disk a outcome fun hwrite => absurd hwrite hkind
    simp only [hkind, decide_false, Bool.false_and, Bool.toNat_false]
    exact .nothing (hframe _) (hframe _)

variable {s : Applies} {e : ℕ × CallEvent}

/-- A call goes on with the plan it made. -/
theorem advance_sound {call : Call} {holder : String → Option ℕ} {disk : Disk} {event : CallEvent}
    (hcall : call.Sound lib spec)
    (hreads : ∀ planning document, event = .plan planning →
      plannedDocument lib spec planning disk = .ok document → RoundTrips lib document) :
    (call.advance lib spec holder disk event).1.Sound lib spec := by
  unfold Call.advance
  split
  · simp only
    split_ifs
    · trivial
    · trivial
  · split
    · trivial
    · rename_i hplan
      exact ⟨hplan, hreads _ _ rfl hplan⟩
  · split
    · trivial
    · split_ifs
      · trivial
      · exact ⟨hcall, fun a ha => ha⟩
  · simp only
    split_ifs
    · trivial
    · trivial
    · exact ⟨hcall.1, fun a ha => hcall.2 a (List.mem_cons_of_mem _ ha)⟩
  · trivial
  · exact hcall

/-- A step that executes nothing leaves the disk. -/
theorem disk_of_quiet (hquiet : ∀ outcome, e.2 ≠ .act outcome) :
    ((applyMachine lib spec).next s e).disk = s.disk := by
  change ((s.call e.1).advance lib spec s.holder s.disk e.2).2 = s.disk
  unfold Call.advance
  split
  · rfl
  · split
    · rfl
    · rfl
  · split
    · rfl
    · split_ifs
      · rfl
      · rfl
  · rename_i outcome hcall hact
    exact absurd hact (hquiet outcome)
  · rfl
  · rfl

/-- What a step of a run emits is whether it writes the baseline. -/
theorem length_emits : ((applyMachine lib spec).emits s e).length =
    ((s.call e.1).writesBaseline spec s.disk e.2).toNat := by
  simp only [Machine.emits, applyMachine]
  cases (s.call e.1).writesBaseline spec s.disk e.2 with
  | false | true => rfl

/-- A fresh step is one of the changes. -/
theorem change_of_step (hcall : (s.call e.1).Sound lib spec) (hfresh : Fresh spec s e) :
    Change lib spec s.disk ((applyMachine lib spec).next s e).disk
      ((applyMachine lib spec).emits s e).length := by
  rw [length_emits]
  obtain ⟨id, event⟩ := e
  cases event with
  | act outcome =>
      change Change lib spec s.disk ((s.call id).advance lib spec s.holder s.disk (.act outcome)).2 _
      cases hphase : s.call id with
      | running pre path plan executed remaining =>
          cases remaining with
          | nil => exact .nothing rfl rfl
          | cons a rest =>
              rw [hphase] at hcall
              rw [Fresh, hphase] at hfresh
              exact change_of_act lib spec hcall.1 (hcall.2 a List.mem_cons_self) hfresh
      | waiting | checked | planned | released | finished => exact .nothing rfl rfl
  | check | plan | lock | recheck =>
      have hnone : ∀ event, (∀ outcome, event ≠ .act outcome) →
          (s.call id).writesBaseline spec s.disk event = false := by
        intro event hquiet
        unfold Call.writesBaseline
        split
        · exact absurd rfl (hquiet _)
        · rfl
      rw [disk_of_quiet lib spec fun outcome => CallEvent.noConfusion,
        hnone _ fun outcome => CallEvent.noConfusion]
      exact .nothing rfl rfl

/-! ## The signature -/

/-- What `hexdigest()` gives: a string of ASCII characters. -/
def HexDigests : Prop :=
  ∀ key text, lib.hmac key text ≠ "" ∧ (lib.hmac key text).toList.all (fun c => c.val < 128) = true

/-- The baseline is unsigned, or verifies under the secret. -/
def Consistent (fingerprint secret : FileContent) : Prop :=
  ∀ value baseline, fingerprint = .text value → lib.loads value = .value (.obj baseline) →
    baseline.lookup "_hmac" = none ∨
      ∃ data, loadSecret secret = some data ∧ verify lib baseline (secretBytes data) = .ok true

theorem cleaned_setMember (value : Json) (payload : Members) :
    cleaned (setMember "_hmac" value payload) = cleaned payload := by
  rw [cleaned, cleaned, setMember, List.filter_append, List.filter_filter]
  simp

/-- A document that is signed and read back verifies. -/
theorem verify_signed {secret : FileContent} {fp : Members} {data : List UInt8} {members : Members}
    (hdigest : HexDigests lib) (hsecret : loadSecret secret = some data)
    (hround : RoundTrips lib (signed lib secret fp))
    (hmembers : Json.sorted (.obj (signed lib secret fp)) = .obj members) :
    verify lib members (secretBytes data) = .ok true := by
  have hsign : sign lib members (secretBytes data) = sign lib fp (secretBytes data) := by
    rw [sign, hround.resigns members hmembers, signed, hsecret]
    simp only
    rw [attachSignature, canonicalJson, cleaned_setMember]
    rfl
  have hlookup : members.lookup "_hmac" = some (.str (sign lib fp (secretBytes data))) := by
    rw [Json.sorted, Json.obj.injEq] at hmembers
    rw [← hmembers, lookup_sorted, signed, hsecret]
    simp only
    rw [attachSignature, lookup_setMember_self]
    rfl
  obtain ⟨hne, hascii⟩ := hdigest (secretBytes data) (canonicalJson lib fp)
  rw [← sign] at hne hascii
  rw [verify, hlookup]
  simp only [Json.truth, hne, ne_eq, not_false_eq_true, decide_true, Bool.true_eq_false, if_false,
    hascii, if_true, hsign]

/-- A document without a signature has none when it is read back. -/
theorem lookup_unsigned {planning : PlanMeets} {firstSeen : Json} {count : ℤ} {members : Members}
    (hmembers : Json.sorted (.obj (newFingerprint spec planning firstSeen count)) = .obj members) :
    members.lookup "_hmac" = none := by
  rw [Json.sorted, Json.obj.injEq] at hmembers
  rw [← hmembers, lookup_sorted]
  rfl

/-- What a sound plan writes is unsigned, or verifies under the secret it saw. -/
theorem consistent_baseline {plan : FixPlan} {secret : FileContent} (hdigest : HexDigests lib)
    (hsound : plan.Sound lib spec)
    (hsigned : loadSecret (plan.seen.file spec.hmacSecretPath) ≠ none →
      secret = plan.seen.file spec.hmacSecretPath) :
    Consistent lib (.text (baselineText lib plan.document)) secret := by
  intro value baseline htext hobject
  cases htext
  have hmembers : Json.sorted (.obj plan.document) = .obj baseline :=
    LoadsResult.value.inj (hsound.roundTrips.reads.symm.trans hobject)
  obtain ⟨base, fp, -, hfp, hdocument⟩ := plannedDocument_eq lib spec hsound.planned
  obtain ⟨history, firstSeen, counter, count, -, -, -, -, rfl⟩ := buildFingerprint_eq spec hfp
  rw [hdocument] at hmembers
  cases hsecret : loadSecret (plan.seen.file spec.hmacSecretPath) with
  | none =>
      rw [signed, hsecret] at hmembers
      exact .inl (lookup_unsigned spec hmembers)
  | some data =>
      have hround := hsound.roundTrips
      rw [hdocument] at hround
      refine .inr ⟨data, ?_, verify_signed lib hdigest hsecret hround hmembers⟩
      rw [hsigned (by rw [hsecret]; exact Option.some_ne_none data), hsecret]

/-- A change keeps the baseline consistent. -/
theorem Change.consistent {before after : Disk} {n : ℕ} (hdigest : HexDigests lib)
    (hchange : Change lib spec before after n)
    (h : Consistent lib (before.file spec.fingerprintPath) (before.file spec.hmacSecretPath)) :
    Consistent lib (after.file spec.fingerprintPath) (after.file spec.hmacSecretPath) := by
  cases hchange with
  | nothing hfingerprint hsecret => rwa [hfingerprint, hsecret]
  | secret hfingerprint hnone =>
      intro value baseline htext hobject
      rw [hfingerprint] at htext
      -- Without a secret there was nothing it could have verified under.
      rcases h value baseline htext hobject with hunsigned | ⟨data, hdata, -⟩
      · exact .inl hunsigned
      · rw [hnone] at hdata
        cases hdata
  | baseline plan hsound hseen hsigned hsecret hwritten =>
      rw [hwritten, hsecret]
      exact consistent_baseline lib spec hdigest hsound hsigned

/-! ## The counter -/

/-- The counter of a baseline, as the next plan finds it. -/
def verifiedCount (content : FileContent) : Except Raised ℤ := do
  let history ← planHistory (← planBaseline lib content)
  (← history.get "verify_count" (.int 0)).toInt

/-- A plan counts on from the baseline it saw. -/
theorem verifiedCount_seen {plan : FixPlan} (hsound : plan.Sound lib spec) :
    ∃ count, verifiedCount lib (plan.seen.file spec.fingerprintPath) = .ok count ∧
      verifiedCount lib (.text (baselineText lib plan.document)) = .ok (count + 1) := by
  obtain ⟨base, fp, hbase, hfp, hdocument⟩ := plannedDocument_eq lib spec hsound.planned
  obtain ⟨history, firstSeen, counter, count, hhistory, -, hcounter, hcount, rfl⟩ :=
    buildFingerprint_eq spec hfp
  refine ⟨count, ?_, ?_⟩
  · simp only [verifiedCount, hbase, hhistory, hcounter, hcount, bind, Except.bind]
  · have hlookup := lookup_signed lib (show "history" ≠ "_hmac" by decide)
      (plan.seen.file spec.hmacSecretPath)
      (newFingerprint spec plan.planning firstSeen (count + 1))
    rw [← hdocument] at hlookup
    have hsorted := lookup_sorted "history" plan.document
    rw [hlookup] at hsorted
    have htruth : (Json.sorted (.obj plan.document)).truth = true := by
      rw [Json.sorted, Json.truth]
      cases hmembers : (Json.sortedMembers plan.document).insertionSort fun a b => a.1 ≤ b.1 with
      | nil =>
          rw [hmembers] at hsorted
          cases hsorted
      | cons member members => rfl
    have hbaseline : planBaseline lib (.text (baselineText lib plan.document)) =
        .ok (Json.sorted (.obj plan.document)) := by
      rw [planBaseline, hsound.roundTrips.reads]
    have hfound : planHistory (Json.sorted (.obj plan.document)) =
        .ok (Json.sorted (.obj [("first_seen_utc", firstSeen),
          ("last_verified_utc", .str plan.planning.now), ("verify_count", .int (count + 1))])) := by
      rw [planHistory, if_pos htruth, Json.sorted, Json.get, hsorted]
      rfl
    have hcounted : (Json.sorted (.obj [("first_seen_utc", firstSeen),
        ("last_verified_utc", .str plan.planning.now), ("verify_count", .int (count + 1))])).get
          "verify_count" (.int 0) = .ok (.int (count + 1)) := by
      rw [Json.sorted, Json.get, lookup_sorted]
      rfl
    simp only [verifiedCount, hbaseline, hfound, hcounted, bind, Except.bind, Json.toInt]

/-- A change counts the writes of the baseline. -/
theorem Change.counts {before after : Disk} {n : ℕ} (hchange : Change lib spec before after n) :
    verifiedCount lib (after.file spec.fingerprintPath) =
      (verifiedCount lib (before.file spec.fingerprintPath)).map (· + (n : ℤ)) := by
  have hsame : ∀ x : Except Raised ℤ, x = x.map (· + ((0 : ℕ) : ℤ)) := by
    intro x
    cases x with
    | error e => rfl
    | ok count => exact congrArg Except.ok (add_zero count).symm
  cases hchange with
  | nothing hfingerprint hsecret =>
      rw [hfingerprint]
      exact hsame _
  | secret hfingerprint hnone =>
      rw [hfingerprint]
      exact hsame _
  | baseline plan hsound hseen hsigned hsecret hwritten =>
      obtain ⟨count, hbefore, hafter⟩ := verifiedCount_seen lib spec hsound
      rw [hwritten, hseen, hbefore, hafter]
      rfl

/-! ## Runs -/

/-- Every call works on a plan that it made. -/
def Applies.Sound (s : Applies) : Prop := ∀ id, (s.call id).Sound lib spec

theorem sound_next (h : s.Sound lib spec) (hreads : ReadsPlanned lib spec s e) :
    ((applyMachine lib spec).next s e).Sound lib spec := by
  intro id
  change (Function.update s.call e.1 _ id).Sound lib spec
  by_cases hid : id = e.1
  · rw [hid, Function.update_self]
    refine advance_sound lib spec (h e.1) fun planning document hplan hdocument => ?_
    rw [ReadsPlanned, hplan] at hreads
    exact hreads document hdocument
  · rw [Function.update_of_ne hid]
    exact h id

/-- A secret that exists is not replaced. -/
def KeepsSecret (s : Applies) (e : ℕ × CallEvent) : Prop :=
  (s.disk.file spec.hmacSecretPath).isFile = true →
    ((applyMachine lib spec).next s e).disk.file spec.hmacSecretPath =
      s.disk.file spec.hmacSecretPath

instance (s : Applies) (e : ℕ × CallEvent) : Decidable (KeepsSecret lib spec s e) :=
  inferInstanceAs (Decidable (_ → _))

theorem Change.keepsSecret {before after : Disk} {n : ℕ} (hchange : Change lib spec before after n)
    (hfile : (before.file spec.hmacSecretPath).isFile = true) :
    after.file spec.hmacSecretPath = before.file spec.hmacSecretPath := by
  cases hchange with
  | nothing hfingerprint hsecret => exact hsecret
  | secret hfingerprint hnone =>
      rw [hnone] at hfile
      cases hfile
  | baseline plan hsound hseen hsigned hsecret hwritten => exact hsecret

/-- The counter after a run is the counter before it and the writes of the run. -/
theorem verifiedCount_run {events : List (ℕ × CallEvent)} (h : s.Sound lib spec)
    (hreads : (applyMachine lib spec).Along (ReadsPlanned lib spec) s events)
    (hfresh : (applyMachine lib spec).Along (Fresh spec) s events) :
    verifiedCount lib (((applyMachine lib spec).run s events).disk.file spec.fingerprintPath) =
      (verifiedCount lib (s.disk.file spec.fingerprintPath)).map
        (· + (((applyMachine lib spec).trace s events).length : ℤ)) := by
  induction events generalizing s with
  | nil =>
      cases hcount : verifiedCount lib (s.disk.file spec.fingerprintPath) with
      | error e => exact hcount
      | ok count => exact hcount.trans (congrArg Except.ok (add_zero count).symm)
  | cons e es ih =>
      have hstep := (change_of_step lib spec (h e.1) hfresh.1).counts
      have hrest := ih (sound_next lib spec h hreads.1) hreads.2 hfresh.2
      rw [Machine.run_cons, hrest, hstep, Machine.trace_cons, List.length_append]
      cases verifiedCount lib (s.disk.file spec.fingerprintPath) with
      | error e => rfl
      | ok count =>
          simp only [Except.map, Nat.cast_add]
          rw [add_assoc]

end Steps

/-! ## A call alone -/

section Alone

variable {lib : Libraries} {spec : Spec} {s : Applies} {id : ℕ}

/-- A call that has nothing left to execute does not act. -/
theorem run_acts_idle (outcomes : List Outcome)
    (h : ∀ pre path plan executed a rest, s.call id ≠ .running pre path plan executed (a :: rest)) :
    ((applyMachine lib spec).run s (outcomes.map fun o => (id, .act o))).disk = s.disk ∧
      ((applyMachine lib spec).run s (outcomes.map fun o => (id, .act o))).call id = s.call id := by
  induction outcomes generalizing s with
  | nil => exact ⟨rfl, rfl⟩
  | cons o rest ih =>
      have hadvance : (s.call id).advance lib spec s.holder s.disk (.act o) = (s.call id, s.disk) := by
        cases hphase : s.call id with
        | running pre path plan executed remaining =>
            cases remaining with
            | nil => rfl
            | cons a rest => exact absurd hphase (h _ _ _ _ _ _)
        | waiting | checked | planned | released | finished => rfl
      have hdisk : ((applyMachine lib spec).next s (id, .act o)).disk = s.disk :=
        congrArg Prod.snd hadvance
      have hcall : ((applyMachine lib spec).next s (id, .act o)).call id = s.call id :=
        (Function.update_self _ _ _).trans (congrArg Prod.fst hadvance)
      rw [List.map_cons, Machine.run_cons]
      have hidle := ih (s := (applyMachine lib spec).next s (id, .act o))
        (fun pre path plan executed a rest => hcall ▸ h pre path plan executed a rest)
      exact ⟨hidle.1.trans hdisk, hidle.2.trans hcall⟩

/-- What a call has come to when it acts alone. -/
def Call.acted (pre : CheckResult) (executed : List Action) (run : Executed) : Call :=
  if run.completed then .released pre (executed ++ run.actions)
  else
    .finished (.ok
      { name := "fingerprint", status := .failed, preCheck := pre
        actions := executed ++ run.actions
        summary := ((run.actions.find? fun a => a.status = .failed).map fun a =>
          "action failed: " ++ a.kind.text ++ " " ++ a.target ++ " — "
            ++ a.error.getD "None").getD "" })

/-- What is done stands before what is to come. -/
theorem acted_cons {pre : CheckResult} {executed : List Action} {x : Action} {run : Executed}
    (hok : x.status ≠ .failed) : Call.acted pre (executed ++ [x]) run =
      .acted pre executed { run with actions := x :: run.actions } := by
  unfold Call.acted
  simp only [List.append_assoc, List.singleton_append, List.find?_cons, hok, decide_false]

/-- The last action of a call. -/
theorem run_acts_last {pre : CheckResult} {executed : List Action} {run : Executed} {o : Outcome}
    {later : List Outcome}
    (hadvance : (s.call id).advance lib spec s.holder s.disk (.act o) =
      (.acted pre executed run, run.disk)) :
    ((applyMachine lib spec).run s ((o :: later).map fun o => (id, .act o))).disk = run.disk ∧
      ((applyMachine lib spec).run s ((o :: later).map fun o => (id, .act o))).call id =
        .acted pre executed run := by
  have hdisk : ((applyMachine lib spec).next s (id, .act o)).disk = run.disk :=
    congrArg Prod.snd hadvance
  have hcall : ((applyMachine lib spec).next s (id, .act o)).call id = .acted pre executed run :=
    (Function.update_self _ _ _).trans (congrArg Prod.fst hadvance)
  have hidle := @run_acts_idle lib spec ((applyMachine lib spec).next s (id, .act o)) id later
    fun pre' path' plan' executed' a' rest' hrunning => (by
      rw [hcall, Call.acted] at hrunning
      split_ifs at hrunning)
  exact ⟨hidle.1.trans hdisk, hidle.2.trans hcall⟩

/-- A call that acts alone executes its actions as one run. -/
theorem run_acts_alone {pre : CheckResult} {path : String} {plan : FixPlan} {executed : List Action}
    {a : Action} {rest : List Action} {outcomes : List Outcome}
    (hcall : s.call id = .running pre path plan executed (a :: rest))
    (hlength : rest.length < outcomes.length) :
    ((applyMachine lib spec).run s (outcomes.map fun o => (id, .act o))).disk =
        (executeAll (a :: rest) outcomes s.disk).disk ∧
      ((applyMachine lib spec).run s (outcomes.map fun o => (id, .act o))).call id =
        .acted pre executed (executeAll (a :: rest) outcomes s.disk) := by
  induction rest generalizing s a executed outcomes with
  | nil =>
      obtain ⟨o, later, rfl⟩ := List.exists_cons_of_length_pos hlength
      have hadvance : (s.call id).advance lib spec s.holder s.disk (.act o) =
          (.acted pre executed (executeAll [a] (o :: later) s.disk),
            (executeAll [a] (o :: later) s.disk).disk) := by
        rw [hcall, Call.advance, executeAll]
        by_cases hfailed : (a.execute o s.disk).1.status = .failed
        · simp [Call.acted, hfailed]
        · simp [Call.acted, executeAll, hfailed]
      exact run_acts_last hadvance
  | cons b rest ih =>
      obtain ⟨o, later, rfl⟩ := List.exists_cons_of_length_pos (Nat.zero_lt_of_lt hlength)
      by_cases hfailed : (a.execute o s.disk).1.status = .failed
      · have hadvance : (s.call id).advance lib spec s.holder s.disk (.act o) =
            (.acted pre executed (executeAll (a :: b :: rest) (o :: later) s.disk),
              (executeAll (a :: b :: rest) (o :: later) s.disk).disk) := by
          rw [hcall, Call.advance, executeAll]
          simp [Call.acted, hfailed]
        exact run_acts_last hadvance
      · have hadvance : (s.call id).advance lib spec s.holder s.disk (.act o) =
            (.running pre path plan (executed ++ [(a.execute o s.disk).1]) (b :: rest),
              (a.execute o s.disk).2) := by
          rw [hcall, Call.advance]
          simp [hfailed]
        have hrunning : ((applyMachine lib spec).next s (id, .act o)).call id =
            .running pre path plan (executed ++ [(a.execute o s.disk).1]) (b :: rest) :=
          (Function.update_self _ _ _).trans (congrArg Prod.fst hadvance)
        have hlater : rest.length < later.length := Nat.lt_of_succ_lt_succ hlength
        have hnext := ih hrunning hlater
        have hdisk : ((applyMachine lib spec).next s (id, .act o)).disk = (a.execute o s.disk).2 :=
          congrArg Prod.snd hadvance
        rw [hdisk, acted_cons hfailed] at hnext
        rw [List.map_cons, Machine.run_cons, executeAll]
        simp only [List.headD_cons, hfailed, if_false, List.tail_cons]
        exact hnext

/-- A call that is finished stays so. -/
theorem run_finished {result : Except Raised FixerResult} (hcall : s.call id = .finished result)
    (events : List CallEvent) :
    ((applyMachine lib spec).run s (events.map fun e => (id, e))).disk = s.disk ∧
      ((applyMachine lib spec).run s (events.map fun e => (id, e))).call id = .finished result := by
  induction events generalizing s with
  | nil => exact ⟨rfl, hcall⟩
  | cons e es ih =>
      have hadvance : (s.call id).advance lib spec s.holder s.disk e = (.finished result, s.disk) := by
        rw [hcall]
        rfl
      have hnext := ih (s := (applyMachine lib spec).next s (id, e))
        ((Function.update_self _ _ _).trans (congrArg Prod.fst hadvance))
      exact ⟨hnext.1.trans (congrArg Prod.snd hadvance), hnext.2⟩

/-- What a step leaves, by what the call does. -/
theorem next_of_advance (lib : Libraries) (spec : Spec) (s : Applies) (id : ℕ) (e : CallEvent)
    {call : Call} {disk : Disk}
    (h : (s.call id).advance lib spec s.holder s.disk e = (call, disk)) :
    ((applyMachine lib spec).next s (id, e)).disk = disk ∧
      ((applyMachine lib spec).next s (id, e)).call id = call ∧
        ((s.call id).lockFile = none → call.lockFile = none →
          ((applyMachine lib spec).next s (id, e)).holder = s.holder) := by
  have hcall : ((s.call id).advance lib spec s.holder s.disk e).1 = call := congrArg Prod.fst h
  refine ⟨congrArg Prod.snd h, (Function.update_self _ _ _).trans hcall, fun hbefore hafter => ?_⟩
  simp only [Machine.next, applyMachine, hcall, hbefore, hafter, reduceCtorEq, if_false]

/-- What comes of the actions and of the check behind them. -/
theorem alone_acts {pre : CheckResult} {post : Host} {path : String} {plan : FixPlan} {disk : Disk}
    {outcomes : List Outcome} {actions : List Action} (hplan : plan.actions lib spec = actions)
    (hcall : s.call id = .running pre path plan [] actions) (hdisk : s.disk = disk)
    (hlength : planLength spec plan.planning plan.seen ≤ outcomes.length) :
    let executed := executeAll actions outcomes disk
    let after := (applyMachine lib spec).run s
      ((outcomes.map CallEvent.act ++ [CallEvent.recheck post]).map fun e => (id, e))
    after.disk = executed.disk ∧ after.call id =
      if executed.completed = false then .acted pre [] executed
      else .finished (.ok
        { name := "fingerprint"
          status := if (runCheck lib spec post executed.disk).status = .ok then .applied else .unfixed
          summary :=
            if (runCheck lib spec post executed.disk).status = .ok then
              "drift closed: " ++ (runCheck lib spec post executed.disk).summary
            else "actions ok, но drift остался: " ++ (runCheck lib spec post executed.disk).summary
          actions := executed.actions, preCheck := pre
          postCheck := some (runCheck lib spec post executed.disk) }) := by
  intro executed after
  have hlengths : actions.length = planLength spec plan.planning plan.seen := by
    rw [← hplan, FixPlan.actions, List.length_append, List.length_singleton, planLength]
  obtain ⟨a, rest, hactions⟩ : ∃ a rest, actions = a :: rest :=
    List.exists_cons_of_length_pos (by rw [hlengths]; exact Nat.succ_pos _)
  have hrest : rest.length < outcomes.length := by
    rw [hactions, List.length_cons] at hlengths
    omega
  rw [hactions] at hcall
  obtain ⟨hacted, hphase⟩ := @run_acts_alone lib spec _ _ _ _ _ _ _ _ _ hcall hrest
  rw [← hactions, hdisk] at hacted hphase
  have hafter : after = (applyMachine lib spec).next ((applyMachine lib spec).run s
      (outcomes.map fun o => (id, .act o))) (id, .recheck post) := by
    simp only [after, List.map_append, Machine.run_append, List.map_map]
    rfl
  rw [hafter]
  generalize (applyMachine lib spec).run s (outcomes.map fun o => (id, .act o)) = s'
    at hacted hphase
  by_cases hcompleted : executed.completed = false
  · have hstopped : ¬ executed.completed = true := Bool.eq_false_iff.mp hcompleted
    rw [if_pos hcompleted, Call.acted, if_neg hstopped]
    rw [Call.acted, if_neg hstopped] at hphase
    obtain ⟨hdisk', hcall'⟩ := @run_finished lib spec _ _ _ hphase [.recheck post]
    exact ⟨hdisk'.trans hacted, hcall'⟩
  · obtain ⟨hdisk', hcall', -⟩ := next_of_advance lib spec s' id (.recheck post)
      (by rw [hphase, Call.acted, if_pos (Bool.not_eq_false _ ▸ hcompleted), Call.advance])
    rw [if_neg hcompleted]
    rw [hacted] at hcall'
    exact ⟨hdisk'.trans hacted, hcall'⟩

/-- The steps of a call that nobody disturbs. -/
def aloneEvents (pre post : Host) (planning : PlanMeets) (path : String) (meets : RunMeets) :
    List CallEvent :=
  .check pre :: .plan planning :: .lock path meets.lockRaises ::
    (meets.outcomes.map .act ++ [.recheck post])

/-- A call that nobody disturbs is a run of the fixer. -/
theorem alone_eq_runFixer {pre post : Host} {planning : PlanMeets} {path : String} {meets : RunMeets}
    (hcall : s.call id = .waiting) (hfree : s.holder path = none)
    (hlength : planLength spec planning s.disk ≤ meets.outcomes.length) :
    ((applyMachine lib spec).run s
        ((aloneEvents pre post planning path meets).map fun e => (id, e))).disk =
        (runFixer "fingerprint" (runCheck lib spec pre) (runCheck lib spec post)
          (fingerprintPlan lib spec planning) false meets s.disk).2 ∧
      ((applyMachine lib spec).run s
        ((aloneEvents pre post planning path meets).map fun e => (id, e))).call id =
        .finished (runFixer "fingerprint" (runCheck lib spec pre) (runCheck lib spec post)
          (fingerprintPlan lib spec planning) false meets s.disk).1 := by
  rw [aloneEvents, List.map_cons, Machine.run_cons, runFixer]
  by_cases hok : (runCheck lib spec pre s.disk).status = .ok
  · obtain ⟨hdisk, hchecked, -⟩ := next_of_advance lib spec s id (.check pre)
      (by rw [hcall, Call.advance, if_pos hok])
    simp only [hok, if_true]
    obtain ⟨hdisk', hcall'⟩ := run_finished hchecked
      (.plan planning :: .lock path meets.lockRaises :: (meets.outcomes.map .act ++ [.recheck post]))
    exact ⟨hdisk'.trans hdisk, hcall'⟩
  · obtain ⟨hdisk, hchecked, hholder⟩ := next_of_advance lib spec s id (.check pre)
      (by rw [hcall, Call.advance, if_neg hok])
    replace hholder := hholder (by rw [hcall]; rfl) rfl
    generalize (applyMachine lib spec).next s (id, .check pre) = s1 at hdisk hchecked hholder ⊢
    simp only [hok, if_false]
    rw [List.map_cons, Machine.run_cons, fingerprintPlan]
    cases hplan : plannedDocument lib spec planning s.disk with
    | error e =>
        obtain ⟨hdisk', hplanned, -⟩ := next_of_advance lib spec s1 id (.plan planning)
          (by rw [hchecked, Call.advance, hdisk, hplan])
        obtain ⟨hdisk'', hcall''⟩ := run_finished hplanned
          (.lock path meets.lockRaises :: (meets.outcomes.map .act ++ [.recheck post]))
        exact ⟨hdisk''.trans hdisk', hcall''⟩
    | ok document =>
        obtain ⟨hdisk', hplanned, hholder'⟩ := next_of_advance lib spec s1 id (.plan planning)
          (by rw [hchecked, Call.advance, hdisk, hplan])
        replace hholder' := hholder' (by rw [hchecked]; rfl) rfl
        generalize (applyMachine lib spec).next s1 (id, .plan planning) = s2
          at hdisk' hplanned hholder' ⊢
        rw [List.map_cons, Machine.run_cons]
        simp only [bind, Except.bind, pure, Except.pure, Bool.false_eq_true, if_false]
        cases hlock : meets.lockRaises with
        | some e =>
            obtain ⟨hdisk'', hlocked, -⟩ := next_of_advance lib spec s2 id (.lock path (some e))
              (by rw [hplanned, Call.advance])
            obtain ⟨hdisk3, hcall3⟩ := run_finished hlocked (meets.outcomes.map .act ++ [.recheck post])
            exact ⟨hdisk3.trans (hdisk''.trans hdisk'), hcall3⟩
        | none =>
            have hunlocked : ¬ (s2.holder path).isSome = true := by
              rw [hholder', hholder, hfree]
              exact Bool.false_ne_true
            obtain ⟨hdisk'', hrunning, -⟩ := next_of_advance lib spec s2 id (.lock path none)
              (by rw [hplanned, Call.advance, if_neg hunlocked])
            have hactions : FixPlan.actions lib spec ⟨planning, s.disk, document⟩ =
                preparations spec planning s.disk ++ [writeBaseline lib spec planning document] := rfl
            obtain ⟨hdisk3, hcall3⟩ := @alone_acts lib spec _ id _ post _ _ _ _ _ hactions hrunning
              (hdisk''.trans hdisk') hlength
            simp only
            by_cases hstopped : (executeAll (preparations spec planning s.disk ++
                [writeBaseline lib spec planning document]) meets.outcomes s.disk).completed = false
            · rw [if_pos hstopped, Call.acted, if_neg (Bool.eq_false_iff.mp hstopped)] at hcall3
              rw [if_pos hstopped]
              exact ⟨hdisk3, hcall3⟩
            · rw [if_neg hstopped] at hcall3
              rw [if_neg hstopped]
              exact ⟨hdisk3, hcall3⟩

end Alone

/-! ## Before the first action -/

section Untouched

variable {lib : Libraries} {spec : Spec}

/-- The plan a call works on. -/
def Call.plan : Call → Option FixPlan
  | .planned _ plan | .running _ _ plan _ _ => some plan
  | _ => none

/-- A call goes on with its plan, or makes one from the disk as it is. -/
theorem plan_of_advance {call : Call} {holder : String → Option ℕ}
    {disk : Disk} {event : CallEvent} {plan : FixPlan}
    (h : (call.advance lib spec holder disk event).1.plan = some plan) :
    call.plan = some plan ∨ plan.seen = disk := by
  unfold Call.advance at h
  split at h
  · simp only at h
    split_ifs at h
    · cases h
    · cases h
  · split at h
    · cases h
    · cases h
      exact .inr rfl
  · split at h
    · cases h
    · split_ifs at h
      · cases h
      · exact .inl h
  · simp only at h
    split_ifs at h
    · cases h
    · cases h
    · exact .inl h
  · cases h
  · exact .inl h

/-- Nobody has executed anything yet: the disk is the one that every plan saw. -/
structure Untouched (disk : Disk) (s : Applies) : Prop where
  same : s.disk = disk
  seen : ∀ id plan, (s.call id).plan = some plan → plan.seen = disk

theorem untouched_next {disk : Disk} {s : Applies}
    {e : ℕ × CallEvent} (hquiet : ∀ outcome, e.2 ≠ .act outcome) (h : Untouched disk s) :
    Untouched disk ((applyMachine lib spec).next s e) := by
  refine ⟨(disk_of_quiet lib spec hquiet).trans h.same, fun id plan hplan => ?_⟩
  change (Function.update s.call e.1 _ id).plan = some plan at hplan
  by_cases hid : id = e.1
  · rw [hid, Function.update_self] at hplan
    rcases plan_of_advance hplan with hold | hnew
    · exact h.seen e.1 plan hold
    · exact hnew.trans h.same
  · rw [Function.update_of_ne hid] at hplan
    exact h.seen id plan hplan

/-- Then nothing is stale. -/
theorem Untouched.fresh {disk : Disk} {s : Applies} {e : ℕ × CallEvent}
    (h : Untouched disk s) : Fresh spec s e := by
  unfold Fresh
  split
  · rename_i plan executed a rest outcome hcall hact
    have hseen := h.seen e.1 plan (by rw [hcall]; rfl)
    rw [h.same, hseen]
    exact fun _ _ => ⟨rfl, fun _ _ => rfl⟩
  · trivial

/-- A step that executes nothing is fresh. -/
theorem fresh_of_quiet {s : Applies} {e : ℕ × CallEvent}
    (hquiet : ∀ outcome, e.2 ≠ .act outcome) : Fresh spec s e := by
  unfold Fresh
  split
  · rename_i outcome hcall hact
    exact absurd hact (hquiet outcome)
  · trivial

/-- A run that executes nothing. -/
theorem quiet_run {disk : Disk} {s : Applies} {events : List (ℕ × CallEvent)}
    (hquiet : ∀ e ∈ events, ∀ outcome, e.2 ≠ .act outcome)
    (hplans : ∀ e ∈ events, ∀ planning document, e.2 = .plan planning →
      plannedDocument lib spec planning disk = .ok document → RoundTrips lib document)
    (h : Untouched disk s) :
    (applyMachine lib spec).Along (ReadsPlanned lib spec) s events ∧
      (applyMachine lib spec).Along (Fresh spec) s events ∧
        Untouched disk ((applyMachine lib spec).run s events) := by
  induction events generalizing s with
  | nil => exact ⟨trivial, trivial, h⟩
  | cons e es ih =>
      have hnext : Untouched disk ((applyMachine lib spec).next s e) :=
        untouched_next (hquiet e List.mem_cons_self) h
      obtain ⟨hreads, hfresh, huntouched⟩ := ih
        (fun e' he' => hquiet e' (List.mem_cons_of_mem e he'))
        (fun e' he' => hplans e' (List.mem_cons_of_mem e he')) hnext
      refine ⟨⟨?_, hreads⟩, ⟨h.fresh, hfresh⟩, huntouched⟩
      unfold ReadsPlanned
      split
      · rename_i planning hplan
        intro document hdocument
        exact hplans e List.mem_cons_self planning document hplan (h.same ▸ hdocument)
      · trivial

end Untouched

/-- In every run in which nothing is written from a stale plan, a secret that exists stays, the
baseline stays unsigned or verifies, and the counter counts the writes. -/
theorem fresh_applies (lib : Libraries) (spec : Spec) (disk : Disk)
    (events : List (ℕ × CallEvent)) (hdigest : HexDigests lib)
    (hreads : (applyMachine lib spec).Along (ReadsPlanned lib spec) { disk := disk } events)
    (hconsistent : Consistent lib (disk.file spec.fingerprintPath) (disk.file spec.hmacSecretPath))
    (hfresh : (applyMachine lib spec).Along (Fresh spec) { disk := disk } events) :
    (applyMachine lib spec).Along (KeepsSecret lib spec) { disk := disk } events ∧
      Consistent lib
        (((applyMachine lib spec).run { disk := disk } events).disk.file spec.fingerprintPath)
        (((applyMachine lib spec).run { disk := disk } events).disk.file spec.hmacSecretPath) ∧
      verifiedCount lib
          (((applyMachine lib spec).run { disk := disk } events).disk.file spec.fingerprintPath) =
        (verifiedCount lib (disk.file spec.fingerprintPath)).map
          (· + (((applyMachine lib spec).trace { disk := disk } events).length : ℤ)) := by
  have hinitial : Applies.Sound lib spec { disk := disk } := fun _ => trivial
  have hguard := hreads.and _ hfresh
  refine ⟨?_, ?_, verifiedCount_run lib spec hinitial hreads hfresh⟩
  · refine Machine.along_of_invariant _ (I := Applies.Sound lib spec) ?_ ?_ hguard hinitial
    · exact fun s e h hguard => sound_next lib spec h hguard.1
    · exact fun s e h hguard => (change_of_step lib spec (h e.1) hguard.2).keepsSecret
  · refine (Machine.run_invariant _ (I := fun s : Applies => s.Sound lib spec ∧
      Consistent lib (s.disk.file spec.fingerprintPath) (s.disk.file spec.hmacSecretPath))
      ?_ hguard ⟨hinitial, hconsistent⟩).2
    intro s e h hguard
    exact ⟨sound_next lib spec h.1 hguard.1,
      (change_of_step lib spec (h.1 e.1) hguard.2).consistent lib spec hdigest h.2⟩

/-! ## Two calls at the same time -/

/-- The file of the first fingerprint, signed or not. -/
def applyText (issigned : Bool) : String :=
  textWith (if issigned then "  \"_hmac\": \"" ++ firstSignature ++ "\",\n" else "") "141722072135"
    "2026-06-14T08:00:00Z" "1"

/-- The first fingerprint, signed or not. -/
def applyDocument (issigned : Bool) : Members := if issigned then signedWith 1 else counted 1

/-- What is computed of them. -/
def applyLibraries : Libraries where
  loads text :=
    if text = applyText false ++ "\n" then .value (Json.sorted (.obj (applyDocument false)))
    else if text = applyText true ++ "\n" then .value (Json.sorted (.obj (applyDocument true)))
    else .decodeError
  dumps
    | .obj document => applyText (document.lookup "_hmac").isSome
    | _ => ""
  compact := turnedLibraries.compact
  repr := turnedLibraries.repr
  hmac _ _ := firstSignature

theorem apply_digests : HexDigests applyLibraries := by
  intro key text
  change firstSignature ≠ "" ∧ (firstSignature.toList.all fun c => c.val < 128) = true
  decide +kernel

theorem apply_roundTrips (issigned : Bool) :
    RoundTrips applyLibraries (applyDocument issigned) := by
  have hne : applyText true ++ "\n" ≠ applyText false ++ "\n" := by decide +kernel
  constructor
  · have htext : baselineText applyLibraries (applyDocument issigned) =
        applyText issigned ++ "\n" := by
      cases issigned with
      | false | true => rfl
    rw [ReadsBack, htext]
    cases issigned with
    | false => simp only [applyLibraries, if_true]
    | true => simp only [applyLibraries, if_neg hne, if_true]
  · intro members hmembers
    cases issigned with
    | false | true =>
        cases hmembers
        decide +kernel

/-- A call takes the lock. -/
def takesLock (id : ℕ) : ℕ × CallEvent := (id, .lock "/run/camera_bringup-cam-rgb.lock" none)

/-- Two calls check and plan before the first of them takes the lock. -/
def twoPlans : List (ℕ × CallEvent) :=
  [(0, .check (hostWith "141722072135")), (1, .check (hostWith "141722072135")),
    (0, .plan (planWith "141722072135" "2026-06-14T08:00:00Z" "00112233")),
    (1, .plan (planWith "141722072135" "2026-06-14T08:00:00Z" "44556677")), takesLock 0]

/-- The disk where they find no baseline, with or without a secret. -/
def emptyDisk (issigned : Bool) : Disk :=
  diskWith .absent (if issigned then .text "00112233" else .absent)

set_option maxRecDepth 20000 in
theorem twoPlans_document (issigned : Bool) (newSecret : String) :
    plannedDocument applyLibraries shippedSpec
      (planWith "141722072135" "2026-06-14T08:00:00Z" newSecret) (emptyDisk issigned) =
        .ok (applyDocument issigned) := by
  cases issigned with
  | false | true => rfl

theorem twoPlans_quiet : ∀ e ∈ twoPlans, ∀ outcome, e.2 ≠ .act outcome := by
  intro e he outcome
  simp only [twoPlans, List.mem_cons, List.not_mem_nil, or_false] at he
  rcases he with rfl | rfl | rfl | rfl | rfl
  all_goals exact CallEvent.noConfusion

/-- What they plan can be read back. -/
theorem twoPlans_reads (issigned : Bool) : ∀ e ∈ twoPlans, ∀ planning document,
    e.2 = .plan planning →
      plannedDocument applyLibraries shippedSpec planning (emptyDisk issigned) = .ok document →
        RoundTrips applyLibraries document := by
  intro e he planning document hplan hdocument
  simp only [twoPlans, List.mem_cons, List.not_mem_nil, or_false] at he
  rcases he with rfl | rfl | rfl | rfl | rfl
  · cases hplan
  · cases hplan
  · cases hplan
    cases (twoPlans_document issigned "00112233").symm.trans hdocument
    exact apply_roundTrips issigned
  · cases hplan
    cases (twoPlans_document issigned "44556677").symm.trans hdocument
    exact apply_roundTrips issigned
  · cases hplan

theorem untouched_initial (disk : Disk) : Untouched disk { disk := disk } :=
  ⟨rfl, fun id plan hplan => (by cases hplan)⟩

theorem emptyDisk_consistent (issigned : Bool) :
    Consistent applyLibraries ((emptyDisk issigned).file shippedSpec.fingerprintPath)
      ((emptyDisk issigned).file shippedSpec.hmacSecretPath) := by
  intro value baseline htext
  cases htext

/-- With a secret there, the first signs, and the second does not get the lock. -/
def lockedOut : List (ℕ × CallEvent) :=
  twoPlans ++ [takesLock 1, (0, .act .done), (0, .recheck (hostWith "141722072135"))]

theorem fresh_applies_locked_out :
    (applyMachine applyLibraries shippedSpec).trace { disk := emptyDisk true } lockedOut = [0] ∧
      (applyMachine applyLibraries shippedSpec).Along (KeepsSecret applyLibraries shippedSpec)
        { disk := emptyDisk true } lockedOut ∧
      Consistent applyLibraries
        (((applyMachine applyLibraries shippedSpec).run { disk := emptyDisk true }
          lockedOut).disk.file shippedSpec.fingerprintPath)
        (((applyMachine applyLibraries shippedSpec).run { disk := emptyDisk true }
          lockedOut).disk.file shippedSpec.hmacSecretPath) ∧
      verifiedCount applyLibraries (((applyMachine applyLibraries shippedSpec).run
        { disk := emptyDisk true } lockedOut).disk.file shippedSpec.fingerprintPath) = .ok 1 := by
  have htrace : (applyMachine applyLibraries shippedSpec).trace { disk := emptyDisk true }
      lockedOut = [0] := by
    decide +kernel
  obtain ⟨hreads, hfresh, huntouched⟩ := @quiet_run applyLibraries shippedSpec _ _ _
    twoPlans_quiet (twoPlans_reads true) (untouched_initial _)
  have hlocked := @untouched_next applyLibraries shippedSpec _ _ (takesLock 1)
    (fun outcome => CallEvent.noConfusion) huntouched
  have hclaim := fresh_applies applyLibraries shippedSpec (emptyDisk true) lockedOut apply_digests
    ((Machine.along_append _ _ _ _).mpr ⟨hreads, trivial, trivial, trivial, trivial⟩)
    (emptyDisk_consistent true)
    ((Machine.along_append _ _ _ _).mpr ⟨hfresh, huntouched.fresh, hlocked.fresh,
      fresh_of_quiet fun outcome => CallEvent.noConfusion, trivial⟩)
  refine ⟨htrace, hclaim.1, hclaim.2.1, hclaim.2.2.trans ?_⟩
  rw [htrace]
  rfl

/-- Without a secret both plan one, and the second replaces that of the first. -/
def replacedSecret : List (ℕ × CallEvent) :=
  twoPlans ++ [(0, .act .done), (0, .act .done), (0, .act .done), (0, .act .done),
    (0, .recheck (hostWith "141722072135")), takesLock 1, (1, .act .done), (1, .act .done),
    (1, .act .done), (1, .act .done), (1, .recheck (hostWith "141722072135"))]

theorem stale_plan_replaces_secret :
    ¬ ∀ (lib : Libraries) (spec : Spec) (disk : Disk) (events : List (ℕ × CallEvent)),
      HexDigests lib → (applyMachine lib spec).Along (ReadsPlanned lib spec) { disk := disk } events →
        Consistent lib (disk.file spec.fingerprintPath) (disk.file spec.hmacSecretPath) →
          (applyMachine lib spec).Along (KeepsSecret lib spec) { disk := disk } events := by
  intro hclaim
  obtain ⟨hreads, -, -⟩ := @quiet_run applyLibraries shippedSpec _ _ _
    twoPlans_quiet (twoPlans_reads false) (untouched_initial _)
  have hkeeps := hclaim applyLibraries shippedSpec (emptyDisk false) replacedSecret apply_digests
    ((Machine.along_append _ _ _ _).mpr ⟨hreads, trivial, trivial, trivial, trivial, trivial,
      trivial, trivial, trivial, trivial, trivial, trivial, trivial⟩) (emptyDisk_consistent false)
  exact absurd hkeeps (by decide +kernel)

end CameraStack.Bringup
