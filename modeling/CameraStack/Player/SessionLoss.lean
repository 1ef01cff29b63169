/-
# The handle and the session

When the manager reports that the session is lost or recreated, the adapter drops its handle,
rejects the pending watch and tells its sink.  It does so only while it listens, and `stop` and
`detach` end that for good; and a watch that waits in the queue is not the pending one.  These are
the only ways in which a handle or a watch outlives its session.
-/

import CameraStack.Player.StreamingSteps

namespace CameraStack.Player

open CameraStack.Lib

/-- The promise of a watch with this status is not settled. -/
def OpStatus.watchPending (watches : List Bool) : OpStatus → Prop
  | .waiting => True
  | .executing (.watching watch) => watches[watch]? ≠ some true
  | _ => False

namespace StreamingAdapter

/-- The promise that a call of `watch` returned is pending. -/
def Pending (a : StreamingAdapter) (o : Op) : Prop :=
  o.operation.isWatch = true ∧ o.status.watchPending a.watches

/-- A step follows the session: the sink hears of its loss, the handle is of an attach that began
after the last loss, and no watch from before it is pending. -/
structure Follows (a : StreamingAdapter) (e : AdapterEvent) : Prop where
  reset : e = .session → .sessionReset ∈ adapterMachine.emits a e
  handle : ∀ handle, (adapterMachine.next a e).handle = some handle →
    handle.since = (adapterMachine.next a e).sessionEvents
  watches : ∀ o ∈ (adapterMachine.next a e).ops, (adapterMachine.next a e).Pending o →
    o.issued = (adapterMachine.next a e).sessionEvents

/-- The loss of a session is heard: the adapter listens, and every watch that is pending is the one
that runs. -/
def Heard (a : StreamingAdapter) (e : AdapterEvent) : Prop :=
  e = .session → a.subscribed = true ∧ ∀ o ∈ a.ops, a.Pending o →
    ∃ watch, o.status = .executing (.watching watch) ∧ a.pendingWatch = some watch

/-- Handle and watches are of the current session, and so is a handle that is about to be
attached, if its generation is current. -/
structure Fresh (a : StreamingAdapter) : Prop where
  handle : ∀ handle, a.handle = some handle → handle.since = a.sessionEvents
  attaching : ∀ r ∈ a.ensures, ∀ handle, r.stage = .attaching handle →
    handle.gen ≤ a.handleGen ∧ (handle.gen = a.handleGen → handle.since = a.sessionEvents)
  watches : ∀ o ∈ a.ops, a.Pending o → o.issued = a.sessionEvents
  pending : ∀ watch, a.pendingWatch = some watch → watch < a.watches.length

variable {a a' : StreamingAdapter}

theorem Pending.of_keeps {o : Op} {pending : Option ℕ} (h : a'.Pending o)
    (hkeeps : a.KeepsWatches a'.watches pending) : a.Pending o := by
  obtain ⟨hwatch, hstatus⟩ := h
  refine ⟨hwatch, ?_⟩
  revert hstatus
  cases o.status with
  | waiting | settled => exact id
  | executing await =>
      cases await with
      | watching watch => exact fun hpending hsettled => hpending (hkeeps.settled watch hsettled)
      | stopSent | cleanup | listSent | detaching | recreating | ensuring => exact id

/-- A step that attaches nothing and calls no watch. -/
theorem Fresh.of_frame (h : a.Fresh) (hevents : a'.sessionEvents = a.sessionEvents)
    (hhandle : ∀ handle, a'.handle = some handle → a.handle = some handle)
    (hgen : a.handleGen ≤ a'.handleGen)
    (hensures : ∀ r' ∈ a'.ensures, ∀ handle, r'.stage = .attaching handle →
      ∃ r ∈ a.ensures, r.stage = .attaching handle)
    (hkeeps : a.KeepsWatches a'.watches a'.pendingWatch)
    (hops : ∀ o' ∈ a'.ops, a'.Pending o' → o'.issued = a.sessionEvents ∨
      ∃ o ∈ a.ops, o.issued = o'.issued ∧ a.Pending o) : a'.Fresh := by
  constructor
  · intro handle hsome
    rw [hevents]
    exact h.handle handle (hhandle handle hsome)
  · intro r' hr' handle hstage
    obtain ⟨r, hr, hold⟩ := hensures r' hr' handle hstage
    obtain ⟨hle, hcurrent⟩ := h.attaching r hr handle hold
    rw [hevents]
    exact ⟨hle.trans hgen, fun hsame => hcurrent (le_antisymm hle (hgen.trans (le_of_eq hsame.symm)))⟩
  · intro o' ho' hpending
    rw [hevents]
    rcases hops o' ho' hpending with hnew | ⟨o, ho, hissued, hold⟩
    · exact hnew
    · rw [← hissued]
      exact h.watches o ho hold
  · intro watch hpending
    rcases hkeeps.pending watch hpending with hold | hlt
    · exact lt_of_lt_of_le (h.pending watch hold) hkeeps.length
    · exact hlt

/-- What only touches the promises keeps the operations as pending as they were. -/
theorem pending_of_ops {pending : Option ℕ} (hops : a'.ops = a.ops)
    (hkeeps : a.KeepsWatches a'.watches pending) : ∀ o' ∈ a'.ops, a'.Pending o' →
      o'.issued = a.sessionEvents ∨ ∃ o ∈ a.ops, o.issued = o'.issued ∧ a.Pending o := by
  intro o' ho' hpending
  rw [hops] at ho'
  exact .inr ⟨o', ho', rfl, hpending.of_keeps hkeeps⟩

/-- A call issues its operation after the losses so far. -/
theorem pending_of_concat {o : Op} {pending : Option ℕ} (hops : a'.ops = a.ops ++ [o])
    (hissued : o.issued = a.sessionEvents) (hkeeps : a.KeepsWatches a'.watches pending) :
    ∀ o' ∈ a'.ops, a'.Pending o' →
      o'.issued = a.sessionEvents ∨ ∃ o ∈ a.ops, o.issued = o'.issued ∧ a.Pending o := by
  intro o' ho' hpending
  rw [hops, List.mem_append, List.mem_singleton] at ho'
  rcases ho' with ho' | rfl
  · exact .inr ⟨o', ho', rfl, hpending.of_keeps hkeeps⟩
  · exact .inl hissued

/-- An operation that goes on is pending only if it was. -/
theorem pending_of_modify {op : ℕ} {o : Op} {status : OpStatus} {pending : Option ℕ}
    (ho : a.ops[op]? = some o)
    (hops : a'.ops = a.ops.modify op fun o => { o with status := status })
    (hstatus : status.watchPending a'.watches → o.status = .waiting)
    (hkeeps : a.KeepsWatches a'.watches pending) : ∀ o' ∈ a'.ops, a'.Pending o' →
      o'.issued = a.sessionEvents ∨ ∃ o ∈ a.ops, o.issued = o'.issued ∧ a.Pending o := by
  intro o' ho' hpending
  rw [hops] at ho'
  obtain ⟨i, hi⟩ := List.mem_iff_getElem?.mp ho'
  rw [List.getElem?_modify] at hi
  obtain ⟨old, hold, hnew⟩ := Option.map_eq_some_iff.mp hi
  refine .inr ⟨old, List.mem_of_getElem? hold, ?_⟩
  split_ifs at hnew with hsame
  · subst hsame
    cases ho.symm.trans hold
    subst hnew
    refine ⟨rfl, hpending.1, ?_⟩
    rw [hstatus hpending.2]
    trivial
  · subst hnew
    exact ⟨rfl, hpending.of_keeps hkeeps⟩

theorem attaching_setEnsure {ensure : ℕ} {stage : EnsureStage} {r' : Ensure} {handle : Handle}
    (hr' : r' ∈ (a.setEnsure ensure stage).ensures) (hstage : r'.stage = .attaching handle) :
    (∃ r ∈ a.ensures, r.stage = .attaching handle) ∨ stage = .attaching handle := by
  obtain ⟨i, hi⟩ := List.mem_iff_getElem?.mp hr'
  rw [setEnsure, List.getElem?_modify] at hi
  obtain ⟨r, hr, hnew⟩ := Option.map_eq_some_iff.mp hi
  split_ifs at hnew
  · subst hnew
    exact .inr hstage
  · subst hnew
    exact .inl ⟨r, List.mem_of_getElem? hr, hstage⟩

theorem fresh_call (h : a.Fresh) (operation : Operation) : (a.call operation).Fresh := by
  cases operation with
  | init | listStreams | watch | detach =>
      exact h.of_frame rfl (fun _ hsame => hsame) (le_refl _) (fun r hr _ hstage => ⟨r, hr, hstage⟩)
        keepsWatches_refl (pending_of_concat rfl rfl keepsWatches_refl)
  | stop =>
      rw [call]
      simp only
      split_ifs
      · exact ⟨h.handle, h.attaching, h.watches, h.pending⟩
      · exact h.of_frame rfl (fun _ hsame => hsame) (le_refl _)
          (fun r hr _ hstage => ⟨r, hr, hstage⟩) keepsWatches_refl
          (pending_of_concat rfl rfl keepsWatches_refl)
  | recreate =>
      obtain ⟨watches, hkeeps, hwatch⟩ := settleWatch_eq a
      rw [call, hwatch]
      exact h.of_frame rfl (fun _ hsame => hsame) (le_refl _) (fun r hr _ hstage => ⟨r, hr, hstage⟩)
        hkeeps (pending_of_concat rfl rfl hkeeps)

theorem fresh_body (h : a.Fresh) {op : ℕ} {o : Op} (ho : a.ops[op]? = some o)
    (hbody : BodyStep a op o a') : a'.Fresh := by
  cases hbody with
  | waits => exact h
  | goes status hstatus hopens hsettled hdetaching hwatching =>
      refine h.of_frame rfl (fun _ hsame => hsame) (le_refl _)
        (fun r hr _ hstage => ⟨r, hr, hstage⟩) keepsWatches_refl
        (pending_of_modify ho rfl (fun hpending => ?_) keepsWatches_refl)
      cases status with
      | waiting => exact absurd rfl hstatus
      | settled => exact hpending.elim
      | executing await =>
          cases await with
          | watching watch => exact absurd rfl (hwatching watch)
          | stopSent | cleanup | listSent | detaching | recreating | ensuring => exact hpending.elim
  | watches watches pending hkeeps hwaiting =>
      exact h.of_frame rfl (fun _ hsame => hsame) (le_refl _)
        (fun r hr _ hstage => ⟨r, hr, hstage⟩) hkeeps
        (pending_of_modify ho rfl (fun _ => hwaiting) hkeeps)
  | ensures hdue =>
      obtain ⟨ensure, ensures, promise, hensure, hensures⟩ := ensure_cases a op
      rw [hensure]
      refine h.of_frame rfl (fun _ hsame => hsame) (le_refl _) (fun r hr handle hstage => ?_)
        keepsWatches_refl (pending_of_modify ho rfl False.elim keepsWatches_refl)
      rcases hensures with rfl | rfl
      · exact ⟨r, hr, hstage⟩
      · rcases List.mem_append.mp hr with hr | hr
        · exact ⟨r, hr, hstage⟩
        · rw [List.mem_singleton] at hr
          subst hr
          cases hstage
  | detaches =>
      obtain ⟨old, cleanups, resolve, gen, hdetach, hle⟩ := detachHandle_cases a op
      rw [hdetach]
      exact h.of_frame rfl (fun _ hnone => (by cases hnone)) hle
        (fun r hr _ hstage => ⟨r, hr, hstage⟩) keepsWatches_refl
        (pending_of_modify ho rfl False.elim keepsWatches_refl)

theorem fresh_finishEnsure (h : a.Fresh) (ensure : ℕ) : (a.finishEnsure ensure).Fresh := by
  refine h.of_frame rfl (fun _ hsame => hsame) (le_refl _) (fun r hr handle hstage => ?_)
    keepsWatches_refl (pending_of_ops rfl keepsWatches_refl)
  rcases attaching_setEnsure hr hstage with hold | hnew
  · exact hold
  · cases hnew

/-- A watch that is settled with the session was the pending one. -/
theorem settleWatch_watches {watch : ℕ} (h : a.watches[watch]? ≠ some true)
    (hsettled : a.settleWatch.watches[watch]? = some true) : a.pendingWatch = some watch := by
  revert hsettled
  unfold settleWatch
  cases hpending : a.pendingWatch with
  | none => exact fun hsettled => absurd hsettled h
  | some pending =>
      intro hsettled
      by_cases hsame : pending = watch
      · rw [hsame]
      · change (a.watches.set pending true)[watch]? = some true at hsettled
        rw [List.getElem?_set_ne hsame] at hsettled
        exact absurd hsettled h

/-- Where the loss is heard, nothing is pending behind it. -/
theorem settled_of_heard (h : a.Fresh) (hheard : a.Heard .session) {o : Op} (ho : o ∈ a.ops)
    (hpending : o.operation.isWatch = true ∧ o.status.watchPending a.settleWatch.watches) : False := by
  have hbefore : a.Pending o := by
    obtain ⟨watches, hkeeps, hwatch⟩ := settleWatch_eq a
    rw [hwatch] at hpending
    have hstill : ({ a with watches := watches } : StreamingAdapter).Pending o := hpending
    exact hstill.of_keeps hkeeps
  obtain ⟨watch, hstatus, hcurrent⟩ := (hheard rfl).2 o ho hbefore
  have hunsettled : a.settleWatch.watches[watch]? ≠ some true := by
    have hstill := hpending.2
    rw [hstatus] at hstill
    exact hstill
  refine hunsettled ?_
  unfold settleWatch
  rw [hcurrent]
  change (a.watches.set watch true)[watch]? = some true
  rw [List.getElem?_set_self (h.pending watch hcurrent)]

theorem fresh_session (h : a.Fresh) (hheard : a.Heard .session) : a.onSession.1.Fresh := by
  rcases onSession_cases a with ⟨hsubscribed, -⟩ | ⟨-, cleanups, hsession⟩
  · rw [(hheard rfl).1] at hsubscribed
    cases hsubscribed
  · rw [hsession]
    refine ⟨fun handle hnone => (by cases hnone), fun r hr handle hstage => ?_, ?_,
      fun watch hnone => (by cases hnone)⟩
    · have hle := (h.attaching r hr handle hstage).1
      refine ⟨hle.trans (Nat.le_succ _), fun hsame => ?_⟩
      change handle.gen = a.handleGen + 1 at hsame
      omega
    · exact fun o ho hpending => (settled_of_heard h hheard ho hpending).elim

/-- A step that hears of the loss keeps handle and watches fresh. -/
theorem fresh_step (h : a.Fresh) {e : AdapterEvent} (hheard : a.Heard e) (hstep : Step a e a') :
    a'.Fresh := by
  cases hstep with
  | idle => exact h
  | call operation => exact fresh_call h operation
  | body _ op o _ ho hready hrun hbody => exact fresh_body h ho hbody
  | settles _ watches cleanups pending resolve hkeeps =>
      exact h.of_frame rfl (fun _ hsame => hsame) (le_refl _) (fun r hr _ hstage => ⟨r, hr, hstage⟩)
        hkeeps (pending_of_ops rfl hkeeps)
  | ends _ ensure => exact fresh_finishEnsure h ensure
  | attaches _ ensure r cleanups promise resolve hr hstage hnone =>
      refine ⟨fun handle hsome => h.handle handle hsome, fun r' hr' handle hattaching => ?_,
        h.watches, h.pending⟩
      rcases attaching_setEnsure hr' hattaching with ⟨old, hold, hsame⟩ | hnew
      · have hle := (h.attaching old hold handle hsame).1
        refine ⟨hle.trans (Nat.le_succ _), fun hgen => ?_⟩
        change handle.gen = a.handleGen + 1 at hgen
        omega
      · cases hnew
        exact ⟨le_refl _, fun _ => rfl⟩
  | attached ensure r handle hr hstage hgen =>
      have hdone := fresh_finishEnsure h ensure
      refine ⟨fun attached hsome => ?_, hdone.attaching, hdone.watches, hdone.pending⟩
      cases hsome
      exact (h.attaching r (List.mem_of_getElem? hr) handle hstage).2 hgen
  | session => exact fresh_session h hheard

/-- A step follows the session just if it hears of its loss. -/
theorem follows_iff (h : a.Fresh) (e : AdapterEvent) : a.Follows e ↔ a.Heard e := by
  constructor
  · rintro hfollows rfl
    have hreset := hfollows.reset rfl
    have hwatches := hfollows.watches
    change Controller.StreamEvent.sessionReset ∈ a.onSession.2 at hreset
    change ∀ o ∈ a.onSession.1.ops, a.onSession.1.Pending o →
      o.issued = a.onSession.1.sessionEvents at hwatches
    rcases onSession_cases a with ⟨-, hsession⟩ | ⟨hsubscribed, cleanups, hsession⟩
    · rw [hsession] at hreset
      cases hreset
    · rw [hsession] at hwatches
      refine ⟨hsubscribed, fun o ho hpending => ?_⟩
      have hissued := h.watches o ho hpending
      have hsettled : ¬ o.status.watchPending a.settleWatch.watches := by
        intro hstill
        have hlater := hwatches o ho ⟨hpending.1, hstill⟩
        change o.issued = a.sessionEvents + 1 at hlater
        omega
      obtain ⟨-, hbefore⟩ := hpending
      revert hsettled hbefore
      cases o.status with
      | waiting => exact fun hsettled _ => absurd trivial hsettled
      | settled => exact fun _ hbefore => hbefore.elim
      | executing await =>
          cases await with
          | watching watch =>
              exact fun hsettled hbefore =>
                ⟨watch, rfl, settleWatch_watches hbefore (not_not.mp hsettled)⟩
          | stopSent | cleanup | listSent | detaching | recreating | ensuring =>
              exact fun _ hbefore => hbefore.elim
  · intro hheard
    have hnext := fresh_step h hheard (step_next a e)
    refine ⟨?_, hnext.handle, hnext.watches⟩
    rintro rfl
    change Controller.StreamEvent.sessionReset ∈ a.onSession.2
    rcases onSession_cases a with ⟨hsubscribed, -⟩ | ⟨-, cleanups, hsession⟩
    · rw [(hheard rfl).1] at hsubscribed
      cases hsubscribed
    · rw [hsession]
      exact List.mem_singleton_self _

end StreamingAdapter

/-- In every run, each step follows the session just if every loss of the session is heard. -/
theorem follows_iff_heard (events : List AdapterEvent) :
    adapterMachine.Along StreamingAdapter.Follows {} events ↔
      adapterMachine.Along StreamingAdapter.Heard {} events := by
  have hinitial : StreamingAdapter.Fresh {} :=
    ⟨fun _ hnone => (by cases hnone), fun r hr => (by cases hr), fun o ho => (by cases ho),
      fun _ hnone => (by cases hnone)⟩
  constructor
  · intro hfollows
    refine Machine.along_of_invariant _ (I := StreamingAdapter.Fresh) ?_ ?_ hfollows hinitial
    · intro a e hfresh hstep
      exact StreamingAdapter.fresh_step hfresh ((StreamingAdapter.follows_iff hfresh e).mp hstep)
        (StreamingAdapter.step_next a e)
    · exact fun a e hfresh => (StreamingAdapter.follows_iff hfresh e).mp
  · intro hheard
    refine Machine.along_of_invariant _ (I := StreamingAdapter.Fresh) ?_ ?_ hheard hinitial
    · exact fun a e hfresh hstep =>
        StreamingAdapter.fresh_step hfresh hstep (StreamingAdapter.step_next a e)
    · exact fun a e hfresh => (StreamingAdapter.follows_iff hfresh e).mpr

/-- A stream is stopped, and then the session is lost: the handle stays. -/
theorem handle_outlives_session :
    ¬ ∀ events : List AdapterEvent, adapterMachine.Along StreamingAdapter.Follows {} events := by
  intro hclaim
  obtain ⟨-, -, -, -, -, hlast, -⟩ := hclaim [.call .init, .start 0 false, .sessionInit 0 true,
    .attached 0 true, .call .stop, .session]
  have hsince := hlast.handle { gen := 1, since := 0 } (by decide)
  exact absurd hsince (by decide)

end CameraStack.Player
