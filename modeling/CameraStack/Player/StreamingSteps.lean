/-
# The steps of the streaming adapter

What an event can do to the adapter, said once: a method is called, a body begins or goes on, a
promise is settled, a run of `_ensureSessionAndHandle` ends or comes to its attach, a handle is
attached, the session is lost.  The invariants of the queue and of the handle go through these
cases and do not unfold the adapter again.
-/

import CameraStack.Player.StreamingAdapter

namespace CameraStack.Player

open CameraStack.Lib

/-- The awaits that a body comes to first, the common promise apart. -/
def OpStatus.opens : OpStatus → Prop
  | .executing (.stopSent _) | .executing .listSent | .executing (.watching _)
  | .executing (.detaching _) => True
  | _ => False

/-- A watch. -/
def Operation.isWatch : Operation → Bool
  | .watch _ => true
  | _ => false

/-- An operation that waits, or that detaches the handle first. -/
def OpStatus.early : OpStatus → Bool
  | .waiting | .executing (.detaching _) => true
  | _ => false

/-- An operation that will not look at the chain before it comes to session and handle. -/
def Op.Loose (o : Op) : Prop :=
  o.operation ≠ .recreate ∧ o.status.early = true

instance (o : Op) : Decidable o.Loose := inferInstanceAs (Decidable (_ ∧ _))

namespace StreamingAdapter

variable {a a' : StreamingAdapter}

/-! ## Promises -/

/-- The promises of watches go on: what is settled stays settled, and the pending watch is one of
them. -/
structure KeepsWatches (a : StreamingAdapter) (watches : List Bool) (pending : Option ℕ) : Prop where
  settled : ∀ watch : ℕ, a.watches[watch]? = some true → watches[watch]? = some true
  length : a.watches.length ≤ watches.length
  pending : ∀ watch, pending = some watch → a.pendingWatch = some watch ∨ watch < watches.length

theorem keepsWatches_refl : a.KeepsWatches a.watches a.pendingWatch :=
  ⟨fun _ h => h, le_refl _, fun _ h => .inl h⟩

theorem keepsWatches_append :
    a.KeepsWatches (a.watches ++ [false]) (some a.watches.length) := by
  refine ⟨fun watch hwatch => ?_, ?_, ?_⟩
  · rw [List.getElem?_append_left (List.getElem?_eq_some_iff.mp hwatch).1, hwatch]
  · rw [List.length_append]
    exact Nat.le_add_right _ _
  · rintro watch ⟨⟩
    exact .inr (by rw [List.length_append]; exact Nat.lt_succ_self _)

theorem keepsWatches_set (watch : ℕ) : a.KeepsWatches (a.watches.set watch true) none := by
  refine ⟨fun other hother => ?_, by rw [List.length_set], fun _ h => (by cases h)⟩
  rw [List.getElem?_set]
  split_ifs with hsame hlt
  · rfl
  · rw [← hsame, List.getElem?_eq_none (Nat.le_of_not_lt hlt)] at hother
    cases hother
  · exact hother

theorem settleWatch_eq (a : StreamingAdapter) :
    ∃ watches, a.KeepsWatches watches none ∧
      a.settleWatch = { a with watches := watches, pendingWatch := none } := by
  unfold settleWatch
  split
  · exact ⟨_, keepsWatches_set _, rfl⟩
  · rename_i hnone
    refine ⟨a.watches, ?_, by rw [← hnone]⟩
    rw [← hnone]
    exact keepsWatches_refl

theorem settleCleanup_eq (a : StreamingAdapter) :
    ∃ cleanups, a.settleCleanup = { a with cleanups := cleanups, cleanupResolve := none } := by
  unfold settleCleanup
  split
  · exact ⟨_, rfl⟩
  · rename_i hnone
    exact ⟨a.cleanups, by rw [← hnone]⟩

/-- A body that needs session and handle joins the run that goes on, or begins one. -/
theorem ensure_cases (a : StreamingAdapter) (op : ℕ) :
    ∃ ensure ensures promise, a.ensure op =
        ({ a with ensures := ensures, ensurePromise := promise } : StreamingAdapter).setOp op
          (.executing (.ensuring ensure)) ∧
      (ensures = a.ensures ∨ ensures = a.ensures ++ [{ owner := op }]) := by
  rw [ensure]
  cases hpromise : a.ensurePromise with
  | some ensure => exact ⟨ensure, a.ensures, a.ensurePromise, rfl, .inl rfl⟩
  | none => exact ⟨_, _, _, rfl, .inr rfl⟩

/-- A body that detaches the handle. -/
theorem detachHandle_cases (a : StreamingAdapter) (op : ℕ) :
    ∃ old cleanups resolve gen, a.detachHandle op =
      ({ a with
          cleanups := cleanups, cleanupResolve := resolve, handleGen := gen, handle := none } :
        StreamingAdapter).setOp op (.executing (.detaching old)) ∧ a.handleGen ≤ gen := by
  rw [detachHandle]
  cases hhandle : a.handle with
  | none =>
      have hsame : a = { a with handle := none } := by rw [← hhandle]
      exact ⟨none, a.cleanups, a.cleanupResolve, a.handleGen,
        congrArg (fun b : StreamingAdapter => b.setOp op _) hsame, le_refl _⟩
  | some handle =>
      obtain ⟨cleanups, hcleanup⟩ := settleCleanup_eq a
      rw [hcleanup]
      exact ⟨_, cleanups, none, _, rfl, Nat.le_succ _⟩

/-! ## Bodies -/

/-- An operation may come to session and handle. -/
def Due (a : StreamingAdapter) (o : Op) : Prop :=
  o.gen = a.ioGen ∨ o.Loose

/-- What a body does from one await to the next. -/
inductive BodyStep (a : StreamingAdapter) (op : ℕ) (o : Op) : StreamingAdapter → Prop
  | waits : BodyStep a op o a
  | goes (status : OpStatus) (hstatus : status ≠ .waiting)
      (hopens : status.opens → o.status = .waiting)
      (hsettled : o.operation = .recreate → o.status = .waiting → status = .settled)
      (hdetaching : ∀ oldGen, status ≠ .executing (.detaching oldGen))
      (hwatching : ∀ watch, status ≠ .executing (.watching watch)) :
      BodyStep a op o (a.setOp op status)
  | watches (watches : List Bool) (pending : Option ℕ) (hkeeps : a.KeepsWatches watches pending)
      (hwaiting : o.status = .waiting) (hwatch : o.operation.isWatch = true) :
      BodyStep a op o (({ a with watches := watches, pendingWatch := pending } :
        StreamingAdapter).setOp op (.executing (.watching a.watches.length)))
  | ensures (hdue : a.Due o) (hrecreate : o.operation = .recreate → o.status ≠ .waiting) :
      BodyStep a op o (a.ensure op)
  | detaches (hwaiting : o.status = .waiting) (hcurrent : o.operation = .recreate → o.gen = a.ioGen) :
      BodyStep a op o (a.detachHandle op)

theorem bodyStep_settled {op : ℕ} {o : Op} : BodyStep a op o (a.setOp op .settled) :=
  .goes .settled OpStatus.noConfusion False.elim (fun _ _ => rfl) (fun _ => OpStatus.noConfusion)
    fun _ => OpStatus.noConfusion

theorem bodyStep_begin {op : ℕ} {o : Op} (throws : Bool) (hwaiting : o.status = .waiting) :
    BodyStep a op o (a.begin op o throws) := by
  unfold begin
  split
  · rename_i hoperation
    have hother : o.operation ≠ .recreate := by
      rw [hoperation]
      exact Operation.noConfusion
    exact .ensures (.inr ⟨hother, by rw [hwaiting]; rfl⟩) fun h => absurd h hother
  · rename_i hoperation
    split_ifs
    · exact bodyStep_settled
    · refine .goes _ OpStatus.noConfusion (fun _ => hwaiting) (fun h _ => ?_)
        (fun _ h => (by cases h)) (fun _ h => (by cases h))
      rw [hoperation] at h
      cases h
  · rename_i hoperation
    split_ifs
    · exact bodyStep_settled
    · refine .goes _ OpStatus.noConfusion (fun _ => hwaiting) (fun h _ => ?_)
        (fun _ h => (by cases h)) (fun _ h => (by cases h))
      rw [hoperation] at h
      cases h
  · rename_i streamId hoperation
    have hother : o.operation.isWatch = true := by
      rw [hoperation]
      rfl
    simp only
    split_ifs
    · exact bodyStep_settled
    · obtain ⟨watches, hkeeps, hwatch⟩ := settleWatch_eq
        (({ a with watches := a.watches ++ [false], pendingWatch := some a.watches.length } :
          StreamingAdapter).setOp op (.executing (.watching a.watches.length)))
      rw [hwatch]
      have happend := keepsWatches_append (a := a)
      refine .watches watches none ⟨fun watch h => hkeeps.settled watch (happend.settled watch h), ?_, ?_⟩
        hwaiting hother
      · exact happend.length.trans hkeeps.length
      · exact fun _ h => (by cases h)
    · exact .watches _ _ keepsWatches_append hwaiting hother
  · rename_i hoperation
    refine .detaches hwaiting fun h => ?_
    rw [hoperation] at h
    cases h
  · split_ifs with hgen
    · exact .detaches hwaiting fun _ => hgen.symm
    · exact bodyStep_settled

/-- A body that is resumed goes on, or still waits for its answer. -/
theorem bodyStep_resumeFrom {op : ℕ} {o : Op} {await : Await} (succeeds : Bool)
    (hstatus : o.status = .executing await) :
    BodyStep a op o (a.resumeFrom op o await succeeds).1 := by
  have hrun : o.status ≠ .waiting := by
    rw [hstatus]
    exact OpStatus.noConfusion
  have hgoes : ∀ {status : OpStatus}, status ≠ .waiting → ¬ status.opens →
      BodyStep a op o (a.setOp op status) := by
    intro status hnew hopens
    refine .goes status hnew (fun h => absurd h hopens) (fun _ h => absurd h hrun) ?_ ?_
    · rintro oldGen rfl
      exact hopens trivial
    · rintro watch rfl
      exact hopens trivial
  have hafter : ∀ oldGen, await = .detaching oldGen → BodyStep a op o (a.afterDetach op o) := by
    rintro oldGen rfl
    unfold afterDetach
    split
    · split_ifs
      · exact hgoes OpStatus.noConfusion not_false
      · exact bodyStep_settled
    · rename_i hother
      exact .ensures (.inr ⟨hother, by rw [hstatus]; rfl⟩) fun h => absurd h hother
  cases await with
  | stopSent cleanup =>
      cases cleanup with
      | none => exact bodyStep_settled
      | some cleanup => exact hgoes OpStatus.noConfusion not_false
  | cleanup | listSent => exact bodyStep_settled
  | watching watch =>
      rw [resumeFrom]
      split_ifs
      · exact bodyStep_settled
      · exact .waits
  | detaching oldGen =>
      cases oldGen with
      | none | some => exact hafter _ rfl
  | recreating =>
      rw [resumeFrom]
      split_ifs with hcurrent
      · exact .ensures (.inl hcurrent.2.symm) fun _ => hrun
      · exact bodyStep_settled
  | ensuring ensure =>
      rw [resumeFrom]
      split_ifs
      · exact bodyStep_settled
      · exact .waits

/-! ## Events -/

/-- What an event does. -/
inductive Step (a : StreamingAdapter) : AdapterEvent → StreamingAdapter → Prop
  | idle (e : AdapterEvent) : Step a e a
  | call (operation : Operation) : Step a (.call operation) (a.call operation)
  | body (e : AdapterEvent) (op : ℕ) (o : Op) (a' : StreamingAdapter) (ho : a.ops[op]? = some o)
      (hready : o.status = .waiting → a.isSettled o.prev = true) (hrun : o.status ≠ .settled)
      (hbody : BodyStep a op o a') : Step a e a'
  | settles (e : AdapterEvent) (watches cleanups : List Bool) (pending resolve : Option ℕ)
      (hkeeps : a.KeepsWatches watches pending) :
      Step a e { a with
        watches := watches, pendingWatch := pending, cleanups := cleanups, cleanupResolve := resolve }
  | ends (e : AdapterEvent) (ensure : ℕ) : Step a e (a.finishEnsure ensure)
  | attaches (e : AdapterEvent) (ensure : ℕ) (r : Ensure) (cleanups : List Bool)
      (promise resolve : Option ℕ) (hr : a.ensures[ensure]? = some r) (hstage : r.stage = .session)
      (hnone : a.handle = none) :
      Step a e (({ a with
          handleGen := a.handleGen + 1, cleanups := cleanups, cleanupPromise := promise
          cleanupResolve := resolve } : StreamingAdapter).setEnsure ensure
        (.attaching { gen := a.handleGen + 1, since := a.sessionEvents }))
  | attached (ensure : ℕ) (r : Ensure) (handle : Handle) (hr : a.ensures[ensure]? = some r)
      (hstage : r.stage = .attaching handle) (hgen : handle.gen = a.handleGen) :
      Step a (.attached ensure true) { a.finishEnsure ensure with handle := some handle }
  | session : Step a .session a.onSession.1

/-- Every event does one of these. -/
theorem step_next (a : StreamingAdapter) (e : AdapterEvent) : Step a e (adapterMachine.next a e) := by
  cases e with
  | call operation => exact .call operation
  | start op throws =>
      change Step a _ (a.start op throws)
      rw [start]
      cases ho : a.ops[op]? with
      | none => exact .idle _
      | some o =>
          simp only
          split_ifs with hready
          · refine .body _ op o _ ho (fun _ => hready.2) ?_ (bodyStep_begin throws hready.1)
            rw [hready.1]
            exact OpStatus.noConfusion
          · exact .idle _
  | resume op succeeds =>
      change Step a _ (a.resume op succeeds).1
      rw [resume]
      cases ho : a.ops[op]? with
      | none => exact .idle _
      | some o =>
          cases hstatus : o.status with
          | waiting | settled =>
              simp only [hstatus]
              exact .idle _
          | executing await =>
              simp only [hstatus]
              refine .body _ op o _ ho (fun hwaiting => ?_) ?_ (bodyStep_resumeFrom succeeds hstatus)
              · rw [hstatus] at hwaiting
                cases hwaiting
              · rw [hstatus]
                exact OpStatus.noConfusion
  | sessionInit ensure succeeds =>
      change Step a _ (a.onSessionInit ensure succeeds)
      unfold onSessionInit
      split
      · rename_i r hr
        split_ifs with hstage hattach
        · exact .idle _
        · exact .attaches _ ensure r _ _ _ hr (not_not.mp hstage) hattach.2
        · exact .ends _ ensure
      · exact .idle _
  | attached ensure succeeds =>
      change Step a _ (a.onAttached ensure succeeds).1
      unfold onAttached
      split
      · rename_i r hr
        split
        · rename_i handle hstage
          split_ifs with hcurrent
          · rw [hcurrent.1]
            exact .attached ensure r handle hr hstage hcurrent.2
          · exact .ends _ ensure
        · exact .idle _
      · exact .idle _
  | callback gen callback =>
      change Step a _ (if gen = a.handleGen then a.onCallback callback else (a, [])).1
      obtain ⟨watches, hkeeps, hwatch⟩ := settleWatch_eq a
      obtain ⟨cleanups, hcleanup⟩ := settleCleanup_eq a
      split_ifs
      · cases callback with
        | message msg jsep =>
            rw [onCallback, onMessage]
            simp only
            split_ifs
            · rw [hwatch]
              exact .settles _ watches _ _ _ hkeeps
            · exact .idle _
        | cleanup =>
            rw [onCallback, hcleanup]
            exact .settles _ _ cleanups _ _ keepsWatches_refl
        | webrtcState | iceState | remoteTrack | trackMuted | trackUnmuted | trackEnded | detached
        | slowLink | hangup | answerError => exact .idle _
      · exact .idle _
  | watchError code message =>
      change Step a _ a.settleWatch
      obtain ⟨watches, hkeeps, hwatch⟩ := settleWatch_eq a
      rw [hwatch]
      exact .settles _ watches _ _ _ hkeeps
  | session => exact .session

/-- What a lost session does: nothing where the adapter does not listen any more. -/
theorem onSession_cases (a : StreamingAdapter) :
    (a.subscribed = false ∧ a.onSession = ({ a with sessionEvents := a.sessionEvents + 1 }, [])) ∨
      a.subscribed = true ∧ ∃ cleanups, a.onSession =
        ({ a with
            sessionEvents := a.sessionEvents + 1, watches := a.settleWatch.watches
            pendingWatch := none, cleanups := cleanups, cleanupResolve := none
            handleGen := a.handleGen + 1, handle := none }, [.sessionReset]) := by
  obtain ⟨subscribed, handle, handleGen, ensurePromise, ensures, pending, watches, promise, resolve,
    cleanups, io, ioGen, ops, sessionEvents⟩ := a
  cases subscribed with
  | false => exact .inl ⟨rfl, rfl⟩
  | true =>
      refine .inr ⟨rfl, ?_⟩
      cases pending with
      | none | some =>
          cases resolve with
          | none | some => exact ⟨_, rfl⟩

end StreamingAdapter

end CameraStack.Player
