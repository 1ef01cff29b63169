/-
# The queue of the streaming adapter

An operation begins when the one it is chained to is settled, so the operations of one chain run
one at a time and in the order of their calls.  A `recreate` replaces the chain and does not
cancel it: what waits in the old one begins later, and what is about to attach a handle there
still does.  Nothing of that happens if nothing waits behind the operation that runs when
`recreate` is called, and that operation is not on its way to a handle.
-/

import CameraStack.Player.StreamingSteps

namespace CameraStack.Player

open CameraStack.Lib

namespace StreamingAdapter

/-! ## What a step does to the queue -/

variable {a a' : StreamingAdapter}

/-- The steps of the queue: none, a call, a `recreate` that begins a new chain, and an operation
that begins or goes on. -/
inductive QueueStep (a a' : StreamingAdapter) : Prop
  | nothing (hops : a'.ops = a.ops) (hio : a'.io = a.io) (hgen : a'.ioGen = a.ioGen)
  | called (operation : Operation)
      (hops : a'.ops = a.ops ++ [{ operation := operation, prev := a.io, gen := a.ioGen
                                   issued := a.sessionEvents }])
      (hio : a'.io = some a.ops.length) (hgen : a'.ioGen = a.ioGen)
  | recreated
      (hops : a'.ops = a.ops ++ [{ operation := .recreate, prev := none, gen := a.ioGen + 1
                                   issued := a.sessionEvents }])
      (hio : a'.io = some a.ops.length) (hgen : a'.ioGen = a.ioGen + 1)
  | moved (op : ℕ) (o : Op) (status : OpStatus) (ho : a.ops[op]? = some o)
      (hops : a'.ops = a.ops.modify op fun o => { o with status := status })
      (hio : a'.io = a.io) (hgen : a'.ioGen = a.ioGen)
      (hready : o.status = .waiting → a.isSettled o.prev = true) (hrun : o.status ≠ .settled)
      (hstatus : status ≠ .waiting)

theorem queueStep_call (operation : Operation) : QueueStep a (a.call operation) := by
  cases operation with
  | init => exact .called .init rfl rfl rfl
  | listStreams => exact .called .listStreams rfl rfl rfl
  | watch streamId => exact .called (.watch streamId) rfl rfl rfl
  | detach => exact .called .detach rfl rfl rfl
  | stop =>
      rw [call]
      simp only
      split_ifs
      · exact .nothing rfl rfl rfl
      · exact .called .stop rfl rfl rfl
  | recreate =>
      obtain ⟨watches, -, hwatch⟩ := settleWatch_eq a
      rw [call, hwatch]
      exact .recreated rfl rfl rfl

theorem queueStep_body {op : ℕ} {o : Op} (ho : a.ops[op]? = some o)
    (hready : o.status = .waiting → a.isSettled o.prev = true) (hrun : o.status ≠ .settled)
    (h : BodyStep a op o a') : QueueStep a a' := by
  cases h with
  | waits => exact .nothing rfl rfl rfl
  | goes status hstatus => exact .moved op o status ho rfl rfl rfl hready hrun hstatus
  | watches watches pending =>
      exact .moved op o _ ho rfl rfl rfl hready hrun OpStatus.noConfusion
  | ensures =>
      obtain ⟨ensure, ensures, promise, hensure, -⟩ := ensure_cases a op
      rw [hensure]
      exact .moved op o _ ho rfl rfl rfl hready hrun OpStatus.noConfusion
  | detaches =>
      obtain ⟨old, cleanups, resolve, gen, hdetach, -⟩ := detachHandle_cases a op
      rw [hdetach]
      exact .moved op o _ ho rfl rfl rfl hready hrun OpStatus.noConfusion

/-- Every step is one of the steps of the queue. -/
theorem queueStep (e : AdapterEvent) (h : Step a e a') : QueueStep a a' := by
  cases h with
  | idle | settles | ends | attaches | attached => exact .nothing rfl rfl rfl
  | call operation => exact queueStep_call operation
  | body _ op o _ ho hready hrun hbody => exact queueStep_body ho hready hrun hbody
  | session =>
      rcases onSession_cases a with ⟨-, hsession⟩ | ⟨-, cleanups, hsession⟩
      · rw [hsession]
        exact .nothing rfl rfl rfl
      · rw [hsession]
        exact .nothing rfl rfl rfl

/-! ## One at a time -/

/-- Of two operations of a chain, the later one begins when the earlier one is settled. -/
def OneAtATime (a : StreamingAdapter) : Prop :=
  ∀ (i j : ℕ) (o o' : Op), i < j → a.ops[i]? = some o → a.ops[j]? = some o' → o.gen = o'.gen →
    o'.status ≠ .waiting → o.status = .settled

/-- The operations of a chain are linked: each to the one before it, and the queue to the last. -/
structure Linked (a : StreamingAdapter) : Prop where
  prev : ∀ (i j : ℕ) (o o' : Op), i < j → a.ops[i]? = some o → a.ops[j]? = some o' →
    o.gen = o'.gen →
    ∃ (p : ℕ) (op : Op), o'.prev = some p ∧ i ≤ p ∧ p < j ∧ a.ops[p]? = some op ∧ op.gen = o'.gen
  tail : ∀ (i : ℕ) (o : Op), a.ops[i]? = some o → o.gen = a.ioGen →
    ∃ (p : ℕ) (op : Op), a.io = some p ∧ i ≤ p ∧ a.ops[p]? = some op ∧ op.gen = a.ioGen
  gens : ∀ (i : ℕ) (o : Op), a.ops[i]? = some o → o.gen ≤ a.ioGen

/-- What `modify` leaves of the operations. -/
theorem get_modify {op i : ℕ} {status : OpStatus} {o' : Op}
    (h : (a.ops.modify op fun o => { o with status := status })[i]? = some o') :
    ∃ o, a.ops[i]? = some o ∧ o' = if op = i then { o with status := status } else o := by
  rw [List.getElem?_modify] at h
  obtain ⟨o, ho, hnew⟩ := Option.map_eq_some_iff.mp h
  exact ⟨o, ho, hnew.symm⟩

/-- An operation of the queue behind a call was there before, or is the one of the call. -/
theorem get_concat {ops : List Op} {o oi : Op} {i : ℕ} (h : (ops ++ [o])[i]? = some oi) :
    ops[i]? = some oi ∨ i = ops.length ∧ oi = o := by
  rcases Nat.lt_or_ge i ops.length with hlt | hge
  · rw [List.getElem?_append_left hlt] at h
    exact .inl h
  · rw [List.getElem?_append_right hge] at h
    obtain ⟨hzero, hlast⟩ := List.getElem?_eq_some_iff.mp h
    have hlen : i - ops.length = 0 := Nat.lt_one_iff.mp hzero
    refine .inr ⟨by omega, ?_⟩
    rw [← hlast]
    simp only [hlen]
    rfl

theorem linked_enqueue (h : a.Linked) {o : Op} (hops : a'.ops = a.ops ++ [o])
    (hio : a'.io = some a.ops.length) (hgen : a'.ioGen = o.gen) (hle : a.ioGen ≤ o.gen)
    (hprev : ∀ (i : ℕ) (oi : Op), a.ops[i]? = some oi → oi.gen = o.gen →
      ∃ (p : ℕ) (op : Op), o.prev = some p ∧ i ≤ p ∧ a.ops[p]? = some op ∧ op.gen = o.gen) :
    a'.Linked := by
  have hold : ∀ (i : ℕ) (oi : Op), a'.ops[i]? = some oi →
      a.ops[i]? = some oi ∨ i = a.ops.length ∧ oi = o := by
    intro i oi hi
    rw [hops] at hi
    exact get_concat hi
  have hkeep : ∀ (i : ℕ) (oi : Op), a.ops[i]? = some oi → a'.ops[i]? = some oi := by
    intro i oi hi
    rw [hops, List.getElem?_append_left (List.getElem?_eq_some_iff.mp hi).1, hi]
  have hlast : a'.ops[a.ops.length]? = some o := by rw [hops, List.getElem?_concat_length]
  constructor
  · intro i j oi oj hij hi hj hsame
    rcases hold j oj hj with hj' | ⟨rfl, rfl⟩
    · rcases hold i oi hi with hi' | ⟨rfl, rfl⟩
      · obtain ⟨p, op, hp, hle, hlt, hop, hgen⟩ := h.prev i j oi oj hij hi' hj' hsame
        exact ⟨p, op, hp, hle, hlt, hkeep p op hop, hgen⟩
      · have hlt := (List.getElem?_eq_some_iff.mp hj').1
        omega
    · rcases hold i oi hi with hi' | ⟨rfl, rfl⟩
      · obtain ⟨p, op, hp, hle, hop, hgen⟩ := hprev i oi hi' hsame
        exact ⟨p, op, hp, hle, (List.getElem?_eq_some_iff.mp hop).1, hkeep p op hop, hgen⟩
      · omega
  · intro i oi hi hsame
    refine ⟨a.ops.length, o, hio, ?_, hlast, hgen.symm⟩
    rcases hold i oi hi with hi' | ⟨rfl, -⟩
    · exact le_of_lt (List.getElem?_eq_some_iff.mp hi').1
    · exact le_refl _
  · intro i oi hi
    rcases hold i oi hi with hi' | ⟨-, rfl⟩
    · rw [hgen]
      exact (h.gens i oi hi').trans hle
    · exact le_of_eq hgen.symm

theorem linked_step (h : a.Linked) (hstep : QueueStep a a') : a'.Linked := by
  cases hstep with
  | nothing hops hio hgen =>
      constructor
      · rw [hops]
        exact h.prev
      · rw [hops, hio, hgen]
        exact h.tail
      · rw [hops, hgen]
        exact h.gens
  | called operation hops hio hgen =>
      exact linked_enqueue h hops hio hgen (le_refl _) h.tail
  | recreated hops hio hgen =>
      refine linked_enqueue h hops hio hgen (Nat.le_succ _) fun i oi hi hsame => ?_
      have hle := h.gens i oi hi
      simp only at hsame
      omega
  | moved op o status ho hops hio hgen hready hrun hstatus =>
      have hback : ∀ (i : ℕ) (oi : Op), a'.ops[i]? = some oi → ∃ old, a.ops[i]? = some old ∧
          oi.gen = old.gen ∧ oi.prev = old.prev := by
        intro i oi hi
        rw [hops] at hi
        obtain ⟨old, hold, rfl⟩ := get_modify hi
        refine ⟨old, hold, ?_, ?_⟩
        · split_ifs
          · rfl
          · rfl
        · split_ifs
          · rfl
          · rfl
      have hforth : ∀ (i : ℕ) (old : Op), a.ops[i]? = some old → ∃ oi, a'.ops[i]? = some oi ∧
          oi.gen = old.gen := by
        intro i old hi
        rw [hops, List.getElem?_modify, hi]
        refine ⟨_, rfl, ?_⟩
        split_ifs
        · rfl
        · rfl
      constructor
      · intro i j oi oj hij hi hj hsame
        obtain ⟨oldi, hi', hgeni, -⟩ := hback i oi hi
        obtain ⟨oldj, hj', hgenj, hprevj⟩ := hback j oj hj
        obtain ⟨p, op', hp, hle, hlt, hop', hgen'⟩ := h.prev i j oldi oldj hij hi' hj'
          (by rw [← hgeni, hsame, hgenj])
        obtain ⟨newp, hnewp, hgenp⟩ := hforth p op' hop'
        exact ⟨p, newp, by rw [hprevj, hp], hle, hlt, hnewp, by rw [hgenp, hgen', hgenj]⟩
      · intro i oi hi hsame
        obtain ⟨oldi, hi', hgeni, -⟩ := hback i oi hi
        obtain ⟨p, op', hp, hle, hop', hgen'⟩ := h.tail i oldi hi' (by rw [← hgeni, hsame, hgen])
        obtain ⟨newp, hnewp, hgenp⟩ := hforth p op' hop'
        exact ⟨p, newp, by rw [hio, hp], hle, hnewp, by rw [hgenp, hgen', hgen]⟩
      · intro i oi hi
        obtain ⟨oldi, hi', hgeni, -⟩ := hback i oi hi
        rw [hgeni, hgen]
        exact h.gens i oldi hi'

theorem oneAtATime_enqueue (h : a.OneAtATime) {o : Op} (hops : a'.ops = a.ops ++ [o])
    (hwaiting : o.status = .waiting) : a'.OneAtATime := by
  intro i j oi oj hij hi hj hsame hbegun
  rw [hops] at hi hj
  rcases get_concat hj with hj' | ⟨-, rfl⟩
  · rcases get_concat hi with hi' | ⟨rfl, -⟩
    · exact h i j oi oj hij hi' hj' hsame hbegun
    · have hlt := (List.getElem?_eq_some_iff.mp hj').1
      omega
  · exact absurd hwaiting hbegun

/-- Where an operation begins, those before it in its chain are settled: the one it is chained to
is, and by the invariant so are those before that one. -/
theorem settled_before (hlinked : a.Linked) (h : a.OneAtATime) {i j : ℕ} {oi oj : Op} (hij : i < j)
    (hi : a.ops[i]? = some oi) (hj : a.ops[j]? = some oj) (hsame : oi.gen = oj.gen)
    (hready : oj.status = .waiting → a.isSettled oj.prev = true) : oi.status = .settled := by
  by_cases hwaiting : oj.status = .waiting
  · obtain ⟨p, op, hprev, hle, hlt, hop, hgen⟩ := hlinked.prev i j oi oj hij hi hj hsame
    have hsettled : op.status = .settled := by
      have hany := hready hwaiting
      rw [hprev, isSettled, hop] at hany
      exact of_decide_eq_true hany
    rcases Nat.eq_or_lt_of_le hle with rfl | hless
    · cases hi.symm.trans hop
      exact hsettled
    · refine h i p oi op hless hi hop (hsame.trans hgen.symm) ?_
      rw [hsettled]
      exact OpStatus.noConfusion
  · exact h i j oi oj hij hi hj hsame hwaiting

theorem oneAtATime_step (hlinked : a.Linked) (h : a.OneAtATime) (hstep : QueueStep a a') :
    a'.OneAtATime := by
  cases hstep with
  | nothing hops =>
      rw [OneAtATime, hops]
      exact h
  | called operation hops => exact oneAtATime_enqueue h hops rfl
  | recreated hops => exact oneAtATime_enqueue h hops rfl
  | moved op o status ho hops hio hgen hready hrun hstatus =>
      intro i j oi oj hij hi hj hsame hbegun
      rw [hops] at hi hj
      obtain ⟨oldi, hi', rfl⟩ := get_modify hi
      obtain ⟨oldj, hj', rfl⟩ := get_modify hj
      have hgens : oldi.gen = oldj.gen := by
        split_ifs at hsame
        · exact hsame
        · exact hsame
        · exact hsame
        · exact hsame
      by_cases hopj : op = j
      · have hopi : op ≠ i := by omega
        rw [if_neg hopi]
        subst hopj
        cases ho.symm.trans hj'
        exact settled_before hlinked h hij hi' ho hgens hready
      · rw [if_neg hopj] at hbegun
        have hsettled := h i j oldi oldj hij hi' hj' hgens hbegun
        by_cases hopi : op = i
        · subst hopi
          cases ho.symm.trans hi'
          exact absurd hsettled hrun
        · rw [if_neg hopi]
          exact hsettled

/-! ## Flushed queues -/

/-- Nothing waits behind the operation that runs when `recreate` is called, and that operation is
not on its way to a handle.  What waits is chained to operations of the old chain, and a handle is
attached without a look at the chain. -/
def Flushed (a : StreamingAdapter) (e : AdapterEvent) : Prop :=
  e = .call .recreate → (∀ o ∈ a.ops, ¬ o.Loose) ∧ ∀ r ∈ a.ensures, r.stage = .done

instance (a : StreamingAdapter) (e : AdapterEvent) : Decidable (a.Flushed e) :=
  inferInstanceAs (Decidable (_ → _))

/-- What may still come to session and handle is of the current chain, and so is what is on its
way to a handle. -/
structure Current (a : StreamingAdapter) : Prop where
  due : ∀ (op : ℕ) (o : Op), a.ops[op]? = some o → a.Due o → o.gen = a.ioGen
  ensures : ∀ r ∈ a.ensures, r.stage ≠ .done → ∃ o, a.ops[r.owner]? = some o ∧ o.gen = a.ioGen

/-- No run of `_ensureSessionAndHandle` begins, and none that is over goes on. -/
def EnsuresFrom (a a' : StreamingAdapter) : Prop :=
  ∀ r' ∈ a'.ensures, r'.stage ≠ .done → ∃ r ∈ a.ensures, r.stage ≠ .done ∧ r.owner = r'.owner

theorem ensuresFrom_of_eq (h : a'.ensures = a.ensures) : EnsuresFrom a a' :=
  fun r hr hstage => ⟨r, h ▸ hr, hstage, rfl⟩

theorem ensuresFrom_setEnsure {ensure : ℕ} {stage : EnsureStage}
    (h : a'.ensures = a.ensures.modify ensure fun r => { r with stage := stage })
    (hstage : stage ≠ .done → ∀ r, a.ensures[ensure]? = some r → r.stage ≠ .done) :
    EnsuresFrom a a' := by
  intro r' hr' hgoes
  rw [h] at hr'
  obtain ⟨i, hi⟩ := List.mem_iff_getElem?.mp hr'
  rw [List.getElem?_modify] at hi
  obtain ⟨r, hr, hnew⟩ := Option.map_eq_some_iff.mp hi
  refine ⟨r, List.mem_of_getElem? hr, ?_⟩
  split_ifs at hnew with hsame
  · subst hnew hsame
    exact ⟨hstage hgoes r hr, rfl⟩
  · subst hnew
    exact ⟨hgoes, rfl⟩

theorem Current.of_frame (h : a.Current) (hops : a'.ops = a.ops) (hgen : a'.ioGen = a.ioGen)
    (hensures : EnsuresFrom a a') : a'.Current := by
  constructor
  · intro op o ho hdue
    rw [hops] at ho
    rw [Due, hgen] at hdue
    rw [hgen]
    exact h.due op o ho hdue
  · intro r' hr' hstage
    obtain ⟨r, hr, hgoes, howner⟩ := hensures r' hr' hstage
    obtain ⟨o, ho, hcurrent⟩ := h.ensures r hr hgoes
    exact ⟨o, by rw [hops, ← howner, ho], by rw [hgen, hcurrent]⟩

/-- A call puts an operation of the current chain into the queue. -/
theorem current_enqueue (h : a.Current) (hgen : a'.ioGen = a.ioGen) {o : Op}
    (hops : a'.ops = a.ops ++ [o]) (ho : o.gen = a.ioGen) (hensures : a'.ensures = a.ensures) :
    a'.Current := by
  constructor
  · intro op oi hi hdue
    rw [hops] at hi
    rw [Due, hgen] at hdue
    rw [hgen]
    rcases get_concat hi with hi' | ⟨-, rfl⟩
    · exact h.due op oi hi' hdue
    · exact ho
  · intro r hr hstage
    rw [hensures] at hr
    obtain ⟨oi, hi, hcurrent⟩ := h.ensures r hr hstage
    refine ⟨oi, ?_, by rw [hgen, hcurrent]⟩
    rw [hops, List.getElem?_append_left (List.getElem?_eq_some_iff.mp hi).1, hi]

theorem current_call (h : a.Current) (operation : Operation)
    (hguard : a.Flushed (.call operation)) : (a.call operation).Current := by
  cases operation with
  | init | listStreams | watch | detach => exact current_enqueue h rfl rfl rfl rfl
  | stop =>
      rw [call]
      simp only
      split_ifs
      · exact h.of_frame rfl rfl (ensuresFrom_of_eq rfl)
      · exact current_enqueue h rfl rfl rfl rfl
  | recreate =>
      obtain ⟨hloose, hdone⟩ := hguard rfl
      obtain ⟨watches, -, hwatch⟩ := settleWatch_eq a
      rw [call, hwatch]
      constructor
      · intro op o ho hdue
        rcases hdue with hgen | hwaits
        · exact hgen
        · rcases get_concat ho with ho' | ⟨-, rfl⟩
          · exact absurd hwaits (hloose o (List.mem_of_getElem? ho'))
          · exact absurd rfl hwaits.1
      · exact fun r hr hstage => absurd (hdone r hr) hstage

/-- An operation that goes on stays of its chain. -/
theorem current_moved (h : a.Current) {op : ℕ} {o : Op} {status : OpStatus}
    (ho : a.ops[op]? = some o)
    (hops : a'.ops = a.ops.modify op fun o => { o with status := status })
    (hgen : a'.ioGen = a.ioGen) (hearly : status.early = true → o.status.early = true)
    (hensures : a'.ensures = a.ensures ∨ a'.ensures = a.ensures ++ [{ owner := op }] ∧ a.Due o) :
    a'.Current := by
  have hkeep : ∀ (i : ℕ) (old : Op), a.ops[i]? = some old → old.gen = a.ioGen →
      ∃ oi, a'.ops[i]? = some oi ∧ oi.gen = a'.ioGen := by
    intro i old hi hcurrent
    rw [hops, List.getElem?_modify, hi, hgen]
    refine ⟨_, rfl, ?_⟩
    split_ifs
    · exact hcurrent
    · exact hcurrent
  constructor
  · intro i oi hi hdue
    rw [hops] at hi
    rw [Due, hgen] at hdue
    rw [hgen]
    obtain ⟨old, hold, rfl⟩ := get_modify hi
    split_ifs at hdue ⊢ with hsame
    · subst hsame
      cases ho.symm.trans hold
      exact h.due op o ho (hdue.imp_right fun hloose => ⟨hloose.1, hearly hloose.2⟩)
    · exact h.due i old hold hdue
  · intro r hr hstage
    rcases hensures with hsame | ⟨hnew, hdue⟩
    · rw [hsame] at hr
      obtain ⟨old, hold, hcurrent⟩ := h.ensures r hr hstage
      exact hkeep r.owner old hold hcurrent
    · rw [hnew, List.mem_append, List.mem_singleton] at hr
      rcases hr with hr | rfl
      · obtain ⟨old, hold, hcurrent⟩ := h.ensures r hr hstage
        exact hkeep r.owner old hold hcurrent
      · exact hkeep op o ho (h.due op o ho hdue)

theorem current_body (h : a.Current) {op : ℕ} {o : Op} (ho : a.ops[op]? = some o)
    (hbody : BodyStep a op o a') : a'.Current := by
  cases hbody with
  | waits => exact h
  | goes status hstatus hopens hsettled hdetaching =>
      refine current_moved h ho rfl rfl (fun hearly => ?_) (.inl rfl)
      cases status with
      | waiting => exact absurd rfl hstatus
      | settled => cases hearly
      | executing await =>
          cases await with
          | detaching oldGen => exact absurd rfl (hdetaching oldGen)
          | stopSent | cleanup | listSent | watching | recreating | ensuring => cases hearly
  | watches watches pending =>
      exact current_moved h ho rfl rfl Bool.noConfusion (.inl rfl)
  | ensures hdue =>
      obtain ⟨ensure, ensures, promise, hensure, hensures⟩ := ensure_cases a op
      rw [hensure]
      exact current_moved h ho rfl rfl Bool.noConfusion (hensures.imp_right fun hnew => ⟨hnew, hdue⟩)
  | detaches hwaiting =>
      obtain ⟨old, cleanups, resolve, gen, hdetach, -⟩ := detachHandle_cases a op
      rw [hdetach]
      exact current_moved h ho rfl rfl (fun _ => by rw [hwaiting]; rfl) (.inl rfl)

theorem current_step (h : a.Current) {e : AdapterEvent} (hguard : a.Flushed e) (hstep : Step a e a') :
    a'.Current := by
  cases hstep with
  | idle => exact h
  | call operation => exact current_call h operation hguard
  | body _ op o _ ho hready hrun hbody => exact current_body h ho hbody
  | settles => exact h.of_frame rfl rfl (ensuresFrom_of_eq rfl)
  | ends _ ensure =>
      exact h.of_frame rfl rfl (ensuresFrom_setEnsure rfl fun hdone => absurd rfl hdone)
  | attaches _ ensure r cleanups promise resolve hr hstage =>
      refine h.of_frame rfl rfl (ensuresFrom_setEnsure rfl fun _ r' hr' => ?_)
      cases hr.symm.trans hr'
      rw [hstage]
      exact EnsureStage.noConfusion
  | attached ensure r handle hr hstage hgen =>
      exact h.of_frame rfl rfl (ensuresFrom_setEnsure rfl fun hdone => absurd rfl hdone)
  | session =>
      rcases onSession_cases a with ⟨-, hsession⟩ | ⟨-, cleanups, hsession⟩
      · rw [hsession]
        exact h.of_frame rfl rfl (ensuresFrom_of_eq rfl)
      · rw [hsession]
        exact h.of_frame rfl rfl (ensuresFrom_of_eq rfl)

/-! ## Serial steps -/

/-- The body of an operation begins; that of a `recreate` which finds another one behind it does
not. -/
def Begins (a a' : StreamingAdapter) (op : ℕ) (o : Op) : Prop :=
  a.ops[op]? = some o ∧ o.status = .waiting ∧
    ∃ o', a'.ops[op]? = some o' ∧ o'.status ≠ .waiting ∧
      (o.operation = .recreate → o'.status ≠ .settled)

/-- A step is serial: the operations of a chain run one at a time and in order, what begins was
called after the last `recreate`, and so was what attached a handle. -/
structure Serial (a : StreamingAdapter) (e : AdapterEvent) : Prop where
  oneAtATime : (adapterMachine.next a e).OneAtATime
  begins : ∀ (op : ℕ) (o : Op), Begins a (adapterMachine.next a e) op o → o.gen = a.ioGen
  attaches : ∀ handle, (adapterMachine.next a e).handle = some handle → a.handle = some handle ∨
    ∃ ensure r o, e = .attached ensure true ∧ a.ensures[ensure]? = some r ∧
      r.stage = .attaching handle ∧ a.ops[r.owner]? = some o ∧ o.gen = a.ioGen

theorem not_begins_of_keeps {op : ℕ} {o : Op} (hkeeps : a.ops[op]? = some o → a'.ops[op]? = some o) :
    ¬ Begins a a' op o := by
  rintro ⟨ho, hwaiting, new, hnew, hbegun, -⟩
  cases hnew.symm.trans (hkeeps ho)
  exact hbegun hwaiting

/-- A call does not touch the operations before it. -/
theorem call_keeps (operation : Operation) {op : ℕ} {o : Op} (ho : a.ops[op]? = some o) :
    (a.call operation).ops[op]? = some o := by
  have hlt := (List.getElem?_eq_some_iff.mp ho).1
  cases operation with
  | init | listStreams | watch | detach => exact (List.getElem?_append_left hlt).trans ho
  | stop =>
      rw [call]
      simp only
      split_ifs
      · exact ho
      · exact (List.getElem?_append_left hlt).trans ho
  | recreate =>
      obtain ⟨watches, -, hwatch⟩ := settleWatch_eq a
      rw [call, hwatch]
      exact (List.getElem?_append_left hlt).trans ho

/-- Only an operation whose body goes on begins, and it is of the current chain. -/
theorem begins_body (h : a.Current) {op : ℕ} {o : Op} (ho : a.ops[op]? = some o)
    (hbody : BodyStep a op o a') {i : ℕ} {oi : Op} (hbegins : Begins a a' i oi) :
    oi.gen = a.ioGen := by
  obtain ⟨hi, hwaiting, new, hnew, hbegun, hrecreate⟩ := hbegins
  have hmoved : ∀ {b : StreamingAdapter} {status : OpStatus},
      b.ops = a.ops.modify op (fun o => { o with status := status }) → b.ops[i]? = some new →
      i = op ∧ oi = o ∧ new.status = status := by
    intro b status hops hget
    rw [hops] at hget
    obtain ⟨old, hold, hget'⟩ := get_modify hget
    cases hi.symm.trans hold
    split_ifs at hget' with hsame
    · subst hsame
      exact ⟨rfl, Option.some.inj (hi.symm.trans ho), by rw [hget']⟩
    · rw [hget'] at hbegun
      exact absurd hwaiting hbegun
  have hloose : oi.operation ≠ .recreate → oi.gen = a.ioGen := fun hother =>
    h.due i oi hi (.inr ⟨hother, by rw [hwaiting]; rfl⟩)
  cases hbody with
  | waits =>
      cases hi.symm.trans hnew
      exact absurd hwaiting hbegun
  | goes status hstatus hopens hsettled =>
      obtain ⟨rfl, rfl, hgoes⟩ := hmoved (b := a.setOp op status) rfl hnew
      by_cases hoperation : oi.operation = .recreate
      · exact absurd (hgoes.trans (hsettled hoperation hwaiting)) (hrecreate hoperation)
      · exact hloose hoperation
  | watches watches pending hkeeps _ hwatch =>
      obtain ⟨rfl, rfl, -⟩ := hmoved rfl hnew
      refine hloose fun hoperation => ?_
      rw [hoperation] at hwatch
      cases hwatch
  | ensures hdue hrun =>
      obtain ⟨ensure, ensures, promise, hensure, -⟩ := ensure_cases a op
      rw [hensure] at hnew
      obtain ⟨rfl, rfl, -⟩ := hmoved rfl hnew
      exact hloose fun hoperation => hrun hoperation hwaiting
  | detaches _ hcurrent =>
      obtain ⟨old, cleanups, resolve, gen, hdetach, -⟩ := detachHandle_cases a op
      rw [hdetach] at hnew
      obtain ⟨rfl, rfl, -⟩ := hmoved rfl hnew
      by_cases hoperation : oi.operation = .recreate
      · exact hcurrent hoperation
      · exact hloose hoperation

theorem call_handle (operation : Operation) : (a.call operation).handle = a.handle := by
  cases operation with
  | init | listStreams | watch | detach => rfl
  | stop =>
      rw [call]
      simp only
      split_ifs
      · rfl
      · rfl
  | recreate =>
      obtain ⟨watches, -, hwatch⟩ := settleWatch_eq a
      rw [call, hwatch]
      rfl

theorem body_handle {op : ℕ} {o : Op} (hbody : BodyStep a op o a') :
    a'.handle = a.handle ∨ a'.handle = none := by
  cases hbody with
  | waits | goes | watches => exact .inl rfl
  | ensures =>
      obtain ⟨ensure, ensures, promise, hensure, -⟩ := ensure_cases a op
      rw [hensure]
      exact .inl rfl
  | detaches =>
      obtain ⟨old, cleanups, resolve, gen, hdetach, -⟩ := detachHandle_cases a op
      rw [hdetach]
      exact .inr rfl

/-- From a queue in which everything that is due is of the current chain, a step is serial. -/
theorem serial_of_current (hlinked : a.Linked) (hone : a.OneAtATime) (h : a.Current)
    (e : AdapterEvent) : a.Serial e := by
  have hstep := step_next a e
  refine ⟨oneAtATime_step hlinked hone (queueStep e hstep), ?_, ?_⟩
  · intro i oi hbegins
    generalize adapterMachine.next a e = a' at hstep hbegins
    cases hstep with
    | idle | settles | ends | attaches | attached => exact absurd hbegins (not_begins_of_keeps id)
    | call operation => exact absurd hbegins (not_begins_of_keeps (call_keeps operation))
    | body _ op o _ ho hready hrun hbody => exact begins_body h ho hbody hbegins
    | session =>
        rcases onSession_cases a with ⟨-, hsession⟩ | ⟨-, cleanups, hsession⟩
        · rw [hsession] at hbegins
          exact absurd hbegins (not_begins_of_keeps id)
        · rw [hsession] at hbegins
          exact absurd hbegins (not_begins_of_keeps id)
  · intro handle hhandle
    generalize adapterMachine.next a e = a' at hstep hhandle
    cases hstep with
    | idle | settles | ends | attaches => exact .inl hhandle
    | call operation => exact .inl ((call_handle operation).symm.trans hhandle)
    | body _ op o _ ho hready hrun hbody =>
        rcases body_handle hbody with hsame | hnone
        · exact .inl (hsame.symm.trans hhandle)
        · rw [hnone] at hhandle
          cases hhandle
    | attached ensure r attached hr hstage hgen =>
        cases hhandle
        obtain ⟨o, ho, hcurrent⟩ := h.ensures r (List.mem_of_getElem? hr) (by
          rw [hstage]
          exact EnsureStage.noConfusion)
        exact .inr ⟨ensure, r, o, rfl, hr, hstage, ho, hcurrent⟩
    | session =>
        rcases onSession_cases a with ⟨-, hsession⟩ | ⟨-, cleanups, hsession⟩
        · rw [hsession] at hhandle
          exact .inl hhandle
        · rw [hsession] at hhandle
          cases hhandle

end StreamingAdapter

/-- In every run in which each `recreate` is called on a flushed queue, every step is serial. -/
theorem flushed_serial (events : List AdapterEvent)
    (h : adapterMachine.Along StreamingAdapter.Flushed {} events) :
    adapterMachine.Along StreamingAdapter.Serial {} events := by
  refine Machine.along_of_invariant _ (I := fun a => a.Linked ∧ a.OneAtATime ∧ a.Current)
    ?_ ?_ h ?_
  · rintro a e ⟨hlinked, hone, hcurrent⟩ hguard
    have hstep := StreamingAdapter.step_next a e
    have hqueue := StreamingAdapter.queueStep e hstep
    exact ⟨StreamingAdapter.linked_step hlinked hqueue,
      StreamingAdapter.oneAtATime_step hlinked hone hqueue,
      StreamingAdapter.current_step hcurrent hguard hstep⟩
  · rintro a e ⟨hlinked, hone, hcurrent⟩ -
    exact StreamingAdapter.serial_of_current hlinked hone hcurrent e
  · refine ⟨⟨?_, ?_, ?_⟩, ?_, ⟨?_, ?_⟩⟩
    · exact fun i j o o' _ hi => (by cases hi)
    · exact fun i o hi => (by cases hi)
    · exact fun i o hi => (by cases hi)
    · exact fun i j o o' _ hi => (by cases hi)
    · exact fun i o hi => (by cases hi)
    · exact fun r hr => (by cases hr)

/-- A handle is attached, streams are listed and one is watched; then the session is recreated. -/
def flushedRecreate : List AdapterEvent :=
  [.call .init, .start 0 false, .sessionInit 0 true, .attached 0 true, .resume 0 true,
    .call .listStreams, .start 1 false, .resume 1 true, .call (.watch (some 1)), .start 2 false,
    .call .recreate, .resume 2 true, .start 3 false, .resume 3 true, .resume 3 true,
    .sessionInit 1 true, .attached 1 true, .resume 3 true]

theorem flushed_serial_recreated :
    adapterMachine.Along StreamingAdapter.Serial {} flushedRecreate ∧
      (adapterMachine.run {} flushedRecreate).handle = some { gen := 3, since := 0 } :=
  ⟨flushed_serial flushedRecreate (by decide), by decide⟩

/-- Streams are listed behind an `init` that the manager does not answer, and the session is
recreated.  Then the manager answers, and the old operation begins. -/
def waitingRecreate : List AdapterEvent :=
  [.call .init, .start 0 false, .call .listStreams, .call .recreate, .sessionInit 0 false,
    .resume 0 true, .start 1 false]

theorem begins_after_recreate :
    ¬ ∀ events : List AdapterEvent, adapterMachine.Along StreamingAdapter.Serial {} events := by
  intro hclaim
  obtain ⟨-, -, -, -, -, -, hlast, -⟩ := hclaim waitingRecreate
  have hgen := hlast.begins 1
    { operation := .listStreams, prev := some 0, gen := 0, issued := 0 } (by
      refine ⟨by decide, rfl, _, rfl, ?_, ?_⟩
      · decide
      · decide)
  exact absurd hgen (by decide)

end CameraStack.Player
