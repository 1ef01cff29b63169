/-
# Depth queries of a click

The page publishes a query and keeps its promise in a table, with a timer that gives up on it.  An
answer, the timer, a newer query that needs the room or a failed publish takes the entry out of the
table again.  The tasks of the page run one after the other, so a run is a list of them.
-/

import CameraStack.Lib.JsonText
import CameraStack.Lib.Machine
import Mathlib.Data.List.Nodup

namespace CameraStack.Depth

open CameraStack.Lib

/-! ## Messages -/

/-- What `JSON.parse` gives, with the numbers `ν`.  The members of an object are in the order of the
text. -/
inductive JsData (ν : Type) where
  | null
  | bool (value : Bool)
  | number (value : ν)
  | string (value : Text)
  | array (items : List (JsData ν))
  | object (members : List (Text × JsData ν))

namespace JsData

variable {ν : Type}

/-- A property by its name, which is the last member of that name; `none` is `undefined`. -/
def property (name : Text) : JsData ν → Option (JsData ν)
  | .object members => members.reverse.lookup name
  | _ => none

/-- Whether a value counts as true, where `nonzero` says so of a number. -/
def truthy (nonzero : ν → Bool) : JsData ν → Bool
  | .null => false
  | .bool value => value
  | .number value => nonzero value
  | .string value => !value.isEmpty
  | .array _ => true
  | .object _ => true

/-- `typeof value === 'number' ? value : null` -/
def numberOrNull : Option (JsData ν) → Option ν
  | some (.number value) => some value
  | _ => none

end JsData

/-! ## The table of queries -/

/-- An entry of the table: the promise and the timer.  Both are numbered by the call that made
them. -/
structure PendingQuery where
  resolve : ℕ
  timer : ℕ

/-- A timer that is armed, with what its callback refers to. -/
structure QueryTimer where
  handle : ℕ
  reqId : Text
  resolve : ℕ

/-- The state of the page; `calls` counts the calls of `fetchDepthTextroom`. -/
structure DepthFeatures where
  pendingQueries : List (Text × PendingQuery) := []
  reqCounter : ℕ := 0
  armed : List QueryTimer := []
  calls : ℕ := 0

/-- What is seen of the page: a query that is waited for, and a promise that is resolved, where
`none` is `null`. -/
inductive ClickOutput (ν : Type) where
  | asked (promise : ℕ) (reqId : Text)
  | resolved (promise : ℕ) (depth : Option ν)

/-- `_PENDING_QUERIES_MAX` -/
def pendingQueriesMax : ℕ := 64

/-- The id of a query, from the clock in base 36 and the counter. -/
def reqIdOf (clock : Text) (counter : ℕ) : Text :=
  'd' :: 'q' :: '-' :: (clock ++ '-' :: JsonValue.digitsOf counter)

namespace DepthFeatures

variable {ν : Type}

/-- `clearTimeout` -/
def clearTimeout (handle : ℕ) (s : DepthFeatures) : DepthFeatures :=
  { s with armed := s.armed.filter fun timer => timer.handle ≠ handle }

/-- `_pendingQueries.delete` -/
def deleteQuery (reqId : Text) (s : DepthFeatures) : DepthFeatures :=
  { s with pendingQueries := s.pendingQueries.filter fun entry => entry.1 ≠ reqId }

/-- `_pendingQueries.set`: a key that is there keeps its place. -/
def setQuery (reqId : Text) (query : PendingQuery) (s : DepthFeatures) : DepthFeatures :=
  if (s.pendingQueries.lookup reqId).isSome then
    { s with
      pendingQueries := s.pendingQueries.map fun entry =>
        if entry.1 = reqId then (reqId, query) else entry }
  else { s with pendingQueries := s.pendingQueries ++ [(reqId, query)] }

/-- The oldest query makes room for a new one. -/
def pruneOldest (s : DepthFeatures) : DepthFeatures × List (ClickOutput ν) :=
  if pendingQueriesMax ≤ s.pendingQueries.length then
    match s.pendingQueries with
    | (oldestKey, oldest) :: _ =>
        ((s.clearTimeout oldest.timer).deleteQuery oldestKey, [.resolved oldest.resolve none])
    | [] => (s, [])
  else (s, [])

/-- A call takes an id and arms its timer. -/
def armTimer (reqId : Text) (s : DepthFeatures) : DepthFeatures :=
  { s with
    reqCounter := s.reqCounter + 1
    armed := s.armed ++ [{ handle := s.calls, reqId, resolve := s.calls }]
    calls := s.calls + 1 }

/-- `fetchDepthTextroom`.  The back channel is ready or not, and its `publish` returns or throws. -/
def fetchDepthTextroom (ready : Bool) (clock : Text) (published : Bool) (s : DepthFeatures) :
    DepthFeatures × List (ClickOutput ν) :=
  let call := s.calls
  if ready then
    let reqId := reqIdOf clock s.reqCounter
    let pruned : DepthFeatures × List (ClickOutput ν) := (s.armTimer reqId).pruneOldest
    let asked := pruned.1.setQuery reqId { resolve := call, timer := call }
    if published then (asked, pruned.2 ++ [.asked call reqId])
    else
      ((asked.clearTimeout call).deleteQuery reqId,
        pruned.2 ++ [.asked call reqId, .resolved call none])
  else ({ s with calls := call + 1 }, [.resolved call none])

/-- The callback of a timer that is armed; any other handle belongs to no timer. -/
def timeout (handle : ℕ) (s : DepthFeatures) : DepthFeatures × List (ClickOutput ν) :=
  match s.armed.find? fun timer => timer.handle = handle with
  | none => (s, [])
  | some timer =>
      ((s.clearTimeout handle).deleteQuery timer.reqId, [.resolved timer.resolve none])

/-- `onmessage`; `none` is a text that does not parse. -/
def onmessage (nonzero : ν → Bool) (message : Option (JsData ν)) (s : DepthFeatures) :
    DepthFeatures × List (ClickOutput ν) :=
  match message with
  | none => (s, [])
  | some data =>
      let reqId := if data.truthy nonzero then data.property "req_id".toList else some data
      match reqId with
      | some (.string reqId) =>
          if reqId.isEmpty then (s, [])
          else
            match s.pendingQueries.lookup reqId with
            | none => (s, [])
            | some pending =>
                ((s.clearTimeout pending.timer).deleteQuery reqId,
                  [.resolved pending.resolve
                    (JsData.numberOrNull (data.property "depth".toList))])
      -- A value that is no string is no key of the table.
      | _ => (s, [])

end DepthFeatures

/-- The tasks of the page. -/
inductive ClickEvent (ν : Type) where
  | fetch (ready : Bool) (clock : Text) (published : Bool)
  | message (data : Option (JsData ν))
  | timeout (handle : ℕ)

/-- The page, task after task. -/
def clickMachine {ν : Type} (nonzero : ν → Bool) :
    Machine DepthFeatures (ClickEvent ν) (ClickOutput ν) where
  step s
    | .fetch ready clock published => s.fetchDepthTextroom ready clock published
    | .message data => s.onmessage nonzero data
    | .timeout handle => s.timeout handle

/-! ## What holds of the table -/

variable {ν : Type}

/-- The timer of an entry. -/
def timerOf (entry : Text × PendingQuery) : QueryTimer where
  handle := entry.2.timer
  reqId := entry.1
  resolve := entry.2.resolve

/-- The promises that were resolved. -/
def settledIn (log : List (ClickOutput ν)) : List ℕ :=
  log.filterMap fun
    | .resolved promise _ => some promise
    | .asked _ _ => none

/-- The entries and the armed timers belong to each other. -/
structure Paired (s : DepthFeatures) : Prop where
  armed : s.armed = s.pendingQueries.map timerOf
  keys : (s.pendingQueries.map Prod.fst).Nodup
  resolves : (s.pendingQueries.map fun entry => entry.2.resolve).Nodup
  handles : ∀ entry ∈ s.pendingQueries, entry.2.timer = entry.2.resolve
  bounded : s.pendingQueries.length ≤ pendingQueriesMax

/-- The queries so far are the settled ones and those in the table. -/
structure Accounted (s : DepthFeatures) (log : List (ClickOutput ν)) : Prop where
  once : (settledIn log).Nodup
  made : ∀ promise ∈ settledIn log, promise < s.calls
  asked : ∀ promise reqId, .asked promise reqId ∈ log →
    promise < s.calls ∧ ∃ clock, ∃ counter < s.reqCounter, reqId = reqIdOf clock counter
  own : ∀ promise promise' reqId, .asked promise reqId ∈ log → .asked promise' reqId ∈ log →
    promise = promise'
  waiting : ∀ entry ∈ s.pendingQueries, .asked entry.2.resolve entry.1 ∈ log ∧
    entry.2.resolve ∉ settledIn log
  kept : ∀ promise reqId, .asked promise reqId ∈ log →
    promise ∈ settledIn log ∨
      ∃ entry ∈ s.pendingQueries, entry.1 = reqId ∧ entry.2.resolve = promise
  called : ∀ call < s.calls, call ∈ settledIn log ∨ ∃ reqId, .asked call reqId ∈ log

@[simp] theorem settledIn_append (log more : List (ClickOutput ν)) :
    settledIn (log ++ more) = settledIn log ++ settledIn more :=
  List.filterMap_append

@[simp] theorem settledIn_resolved (promise : ℕ) (depth : Option ν) :
    settledIn [.resolved promise depth] = [promise] := rfl

@[simp] theorem settledIn_asked (promise : ℕ) (reqId : Text) :
    settledIn [(.asked promise reqId : ClickOutput ν)] = [] := rfl

theorem asked_of_resolved {promise promise' : ℕ} {reqId : Text} {depth : Option ν}
    {log : List (ClickOutput ν)} :
    .asked promise reqId ∈ log ++ [.resolved promise' depth] ↔ .asked promise reqId ∈ log := by
  simp

theorem asked_of_asked {promise promise' : ℕ} {reqId reqId' : Text}
    {log : List (ClickOutput ν)} :
    .asked promise reqId ∈ log ++ [.asked promise' reqId'] ↔
      .asked promise reqId ∈ log ∨ promise = promise' ∧ reqId = reqId' := by
  simp

theorem notMem_digitsOf (n : ℕ) : '-' ∉ JsonValue.digitsOf n := by
  intro h
  exact absurd (isDigit_digitsOf n '-' h) (by decide)

/-- The counter of a query can be read off its id. -/
theorem counter_eq_of_reqIdOf {clock clock' : Text} {n m : ℕ}
    (h : reqIdOf clock n = reqIdOf clock' m) : n = m := by
  have hlast : ∀ (clock : Text) (n : ℕ),
      ((reqIdOf clock n).reverse.takeWhile (· ≠ '-')).reverse = JsonValue.digitsOf n := by
    intro clock n
    have hreverse : (reqIdOf clock n).reverse =
        (JsonValue.digitsOf n).reverse ++ '-' :: (clock.reverse ++ ['-', 'q', 'd']) := by
      simp [reqIdOf]
    rw [hreverse, List.takeWhile_append_of_pos, List.takeWhile_cons_of_neg (by decide),
      List.append_nil, List.reverse_reverse]
    intro c hc
    apply decide_eq_true
    rintro rfl
    exact notMem_digitsOf n (List.mem_reverse.mp hc)
  have hdigits : JsonValue.digitsOf n = JsonValue.digitsOf m := by
    rw [← hlast clock n, h, hlast clock' m]
  have hvalue : ∀ n, Nat.ofDigitChars 10 (JsonValue.digitsOf n) 0 = n := fun _ =>
    Nat.ofDigitChars_ten_toDigits
  rw [← hvalue n, hdigits, hvalue m]

variable {s : DepthFeatures} {log : List (ClickOutput ν)} {entry : Text × PendingQuery}

namespace Paired

theorem key_eq_iff (h : Paired s) {other : Text × PendingQuery} (he : entry ∈ s.pendingQueries)
    (ho : other ∈ s.pendingQueries) : other.1 = entry.1 ↔ other.2.timer = entry.2.timer := by
  constructor
  · intro hkey
    rw [List.inj_on_of_nodup_map h.keys ho he hkey]
  · intro htimer
    have hresolve : other.2.resolve = entry.2.resolve := by
      rw [← h.handles other ho, ← h.handles entry he, htimer]
    rw [List.inj_on_of_nodup_map h.resolves ho he hresolve]

/-- An entry is taken out together with its timer. -/
theorem remove (h : Paired s) (he : entry ∈ s.pendingQueries) :
    Paired ((s.clearTimeout entry.2.timer).deleteQuery entry.1) where
  armed := by
    show s.armed.filter _ = (s.pendingQueries.filter _).map timerOf
    rw [h.armed, List.filter_map]
    congr 1
    apply List.filter_congr
    intro other ho
    exact decide_eq_decide.mpr (not_congr (h.key_eq_iff he ho).symm)
  keys := h.keys.sublist (List.filter_sublist.map _)
  resolves := h.resolves.sublist (List.filter_sublist.map _)
  handles other ho := h.handles other (List.mem_filter.mp ho).1
  bounded := (List.length_filter_le _ _).trans h.bounded

end Paired

theorem mem_remove {other : Text × PendingQuery} :
    other ∈ ((s.clearTimeout entry.2.timer).deleteQuery entry.1).pendingQueries ↔
      other ∈ s.pendingQueries ∧ other.1 ≠ entry.1 := by
  simp [DepthFeatures.deleteQuery, DepthFeatures.clearTimeout]

namespace Accounted

theorem settle (h : Accounted s log) (hs : Paired s) (he : entry ∈ s.pendingQueries)
    (depth : Option ν) :
    Accounted ((s.clearTimeout entry.2.timer).deleteQuery entry.1)
      (log ++ [.resolved entry.2.resolve depth]) where
  once := by
    rw [settledIn_append, settledIn_resolved]
    exact List.nodup_append.mpr ⟨h.once, List.nodup_singleton _, fun p hp q hq heq =>
      (h.waiting entry he).2 (List.mem_singleton.mp hq ▸ heq ▸ hp)⟩
  made promise hp := by
    rw [settledIn_append, List.mem_append, settledIn_resolved, List.mem_singleton] at hp
    rcases hp with hp | rfl
    · exact h.made promise hp
    · exact (h.asked _ _ (h.waiting entry he).1).1
  asked promise reqId hp := h.asked promise reqId (asked_of_resolved.mp hp)
  own promise promise' reqId hp hp' :=
    h.own promise promise' reqId (asked_of_resolved.mp hp) (asked_of_resolved.mp hp')
  waiting other ho := by
    obtain ⟨hmem, hkey⟩ := mem_remove.mp ho
    obtain ⟨hasked, hnot⟩ := h.waiting other hmem
    refine ⟨asked_of_resolved.mpr hasked, ?_⟩
    rw [settledIn_append, List.mem_append, settledIn_resolved, List.mem_singleton, not_or]
    refine ⟨hnot, fun heq => hkey ?_⟩
    rw [List.inj_on_of_nodup_map hs.resolves hmem he heq]
  kept promise reqId hp := by
    rw [settledIn_append, List.mem_append, settledIn_resolved, List.mem_singleton]
    rcases h.kept promise reqId (asked_of_resolved.mp hp) with
      hsettled | ⟨other, ho, hkey, hresolve⟩
    · exact Or.inl (Or.inl hsettled)
    · by_cases heq : other.1 = entry.1
      · rw [List.inj_on_of_nodup_map hs.keys ho he heq] at hresolve
        exact Or.inl (Or.inr hresolve.symm)
      · exact Or.inr ⟨other, mem_remove.mpr ⟨ho, heq⟩, hkey, hresolve⟩
  called call hcall := by
    rw [settledIn_append, List.mem_append]
    exact (h.called call hcall).imp Or.inl fun ⟨reqId, hp⟩ => ⟨reqId, asked_of_resolved.mpr hp⟩

/-- A call that asks nothing has its answer at once. -/
theorem refuse (h : Accounted s log) :
    Accounted { s with calls := s.calls + 1 } (log ++ [.resolved s.calls none]) where
  once := by
    rw [settledIn_append, settledIn_resolved]
    exact List.nodup_append.mpr ⟨h.once, List.nodup_singleton _, fun p hp q hq heq =>
      (h.made p hp).ne (heq.trans (List.mem_singleton.mp hq))⟩
  made promise hp := by
    rw [settledIn_append, List.mem_append, settledIn_resolved, List.mem_singleton] at hp
    rcases hp with hp | rfl
    · exact (h.made promise hp).trans (Nat.lt_succ_self _)
    · exact Nat.lt_succ_self _
  asked promise reqId hp := by
    obtain ⟨hmade, hid⟩ := h.asked promise reqId (asked_of_resolved.mp hp)
    exact ⟨hmade.trans (Nat.lt_succ_self _), hid⟩
  own promise promise' reqId hp hp' :=
    h.own promise promise' reqId (asked_of_resolved.mp hp) (asked_of_resolved.mp hp')
  waiting other ho := by
    obtain ⟨hasked, hnot⟩ := h.waiting other ho
    refine ⟨asked_of_resolved.mpr hasked, ?_⟩
    rw [settledIn_append, List.mem_append, settledIn_resolved, List.mem_singleton, not_or]
    exact ⟨hnot, (h.asked _ _ hasked).1.ne⟩
  kept promise reqId hp := by
    rw [settledIn_append, List.mem_append]
    exact (h.kept promise reqId (asked_of_resolved.mp hp)).imp_left Or.inl
  called call hcall := by
    rw [settledIn_append, List.mem_append, settledIn_resolved, List.mem_singleton]
    rcases Nat.lt_succ_iff_lt_or_eq.mp hcall with hbefore | hnew
    · exact (h.called call hbefore).imp Or.inl fun ⟨reqId, hp⟩ =>
        ⟨reqId, asked_of_resolved.mpr hp⟩
    · exact Or.inl (Or.inr hnew)

/-- The id of a call is new. -/
theorem id_is_new (h : Accounted s log) (clock : Text) (promise : ℕ) :
    .asked promise (reqIdOf clock s.reqCounter) ∉ log := by
  intro hp
  obtain ⟨clock', counter, hlt, hid⟩ := (h.asked promise _ hp).2
  exact hlt.ne (counter_eq_of_reqIdOf hid).symm

theorem ask (h : Accounted s log) {s' : DepthFeatures} {clock : Text}
    (hcounter : s'.reqCounter = s.reqCounter + 1) (hcalls : s'.calls = s.calls + 1)
    (hpending : s'.pendingQueries = s.pendingQueries ++
      [(reqIdOf clock s.reqCounter, { resolve := s.calls, timer := s.calls })]) :
    Accounted s' (log ++ [.asked s.calls (reqIdOf clock s.reqCounter)]) where
  once := by
    rw [settledIn_append, settledIn_asked, List.append_nil]
    exact h.once
  made promise hp := by
    rw [settledIn_append, settledIn_asked, List.append_nil] at hp
    exact hcalls ▸ (h.made promise hp).trans (Nat.lt_succ_self _)
  asked promise reqId hp := by
    rw [hcounter, hcalls]
    rcases asked_of_asked.mp hp with hp | ⟨rfl, rfl⟩
    · obtain ⟨hmade, clock', counter, hlt, hid⟩ := h.asked promise reqId hp
      exact ⟨hmade.trans (Nat.lt_succ_self _), clock', counter, hlt.trans (Nat.lt_succ_self _), hid⟩
    · exact ⟨Nat.lt_succ_self _, clock, s.reqCounter, Nat.lt_succ_self _, rfl⟩
  own promise promise' reqId hp hp' := by
    rcases asked_of_asked.mp hp with hp | ⟨rfl, rfl⟩
    · rcases asked_of_asked.mp hp' with hp' | ⟨rfl, rfl⟩
      · exact h.own promise promise' reqId hp hp'
      · exact absurd hp (h.id_is_new clock promise)
    · rcases asked_of_asked.mp hp' with hp' | ⟨rfl, -⟩
      · exact absurd hp' (h.id_is_new clock promise')
      · rfl
  waiting other ho := by
    rw [settledIn_append, settledIn_asked, List.append_nil]
    rw [hpending, List.mem_append, List.mem_singleton] at ho
    rcases ho with ho | rfl
    · obtain ⟨hasked, hnot⟩ := h.waiting other ho
      exact ⟨asked_of_asked.mpr (Or.inl hasked), hnot⟩
    · exact ⟨asked_of_asked.mpr (Or.inr ⟨rfl, rfl⟩), fun hp => (h.made _ hp).ne rfl⟩
  kept promise reqId hp := by
    rw [settledIn_append, settledIn_asked, List.append_nil, hpending]
    rcases asked_of_asked.mp hp with hp | ⟨rfl, rfl⟩
    · rcases h.kept promise reqId hp with hsettled | ⟨other, ho, hother⟩
      · exact Or.inl hsettled
      · exact Or.inr ⟨other, List.mem_append_left _ ho, hother⟩
    · exact Or.inr ⟨_, List.mem_append_right _ (List.mem_singleton_self _), rfl, rfl⟩
  called call hcall := by
    rw [settledIn_append, settledIn_asked, List.append_nil]
    rw [hcalls] at hcall
    rcases Nat.lt_succ_iff_lt_or_eq.mp hcall with hbefore | rfl
    · exact (h.called call hbefore).imp_right fun ⟨reqId, hp⟩ =>
        ⟨reqId, asked_of_asked.mpr (Or.inl hp)⟩
    · exact Or.inr ⟨_, asked_of_asked.mpr (Or.inr ⟨rfl, rfl⟩)⟩

/-- A call that was made is answered, or its entry is in the table. -/
theorem settled_or_waiting (h : Accounted s log) {call : ℕ} (hcall : call < s.calls) :
    call ∈ settledIn log ∨ ∃ entry ∈ s.pendingQueries, entry.2.resolve = call := by
  rcases h.called call hcall with hsettled | ⟨reqId, hp⟩
  · exact Or.inl hsettled
  · exact (h.kept call reqId hp).imp_right fun ⟨entry, he, _, hresolve⟩ => ⟨entry, he, hresolve⟩

end Accounted

/-! ## What a task keeps -/

/-- The table and its timers are paired, and the queries accounted for. -/
structure Regular (s : DepthFeatures) (log : List (ClickOutput ν)) : Prop where
  paired : Paired s
  accounted : Accounted s log

namespace Regular

theorem settle (h : Regular s log) (he : entry ∈ s.pendingQueries) (depth : Option ν) :
    Regular ((s.clearTimeout entry.2.timer).deleteQuery entry.1)
      (log ++ [.resolved entry.2.resolve depth]) where
  paired := h.paired.remove he
  accounted := h.accounted.settle h.paired he depth

theorem key_is_new (h : Regular s log) (clock : Text) (he : entry ∈ s.pendingQueries) :
    entry.1 ≠ reqIdOf clock s.reqCounter := by
  intro hkey
  have hasked := (h.accounted.waiting entry he).1
  rw [hkey] at hasked
  exact h.accounted.id_is_new clock _ hasked

theorem setQuery_eq (h : Regular s log) (clock : Text) (query : PendingQuery) :
    (s.armTimer (reqIdOf clock s.reqCounter)).setQuery (reqIdOf clock s.reqCounter) query =
      { s.armTimer (reqIdOf clock s.reqCounter) with
        pendingQueries := s.pendingQueries ++ [(reqIdOf clock s.reqCounter, query)] } := by
  have hnone : s.pendingQueries.lookup (reqIdOf clock s.reqCounter) = none := by
    rw [List.lookup_eq_none_iff]
    intro other ho
    exact bne_iff_ne.mpr (h.key_is_new clock ho).symm
  have hkeys : (s.armTimer (reqIdOf clock s.reqCounter)).pendingQueries = s.pendingQueries := rfl
  rw [DepthFeatures.setQuery, hkeys, hnone, Option.isSome_none, if_neg Bool.false_ne_true]

/-- A query with room in the table is waited for. -/
theorem ask (h : Regular s log) (hroom : s.pendingQueries.length < pendingQueriesMax)
    (clock : Text) :
    Regular
      ((s.armTimer (reqIdOf clock s.reqCounter)).setQuery (reqIdOf clock s.reqCounter)
        { resolve := s.calls, timer := s.calls })
      (log ++ [.asked s.calls (reqIdOf clock s.reqCounter)]) := by
  rw [h.setQuery_eq]
  constructor
  · constructor
    · show s.armed ++ _ = (s.pendingQueries ++ _).map timerOf
      rw [List.map_append, ← h.paired.armed]
      rfl
    · rw [List.map_append, List.nodup_append]
      refine ⟨h.paired.keys, List.nodup_singleton _, fun key hkey key' hkey' => ?_⟩
      obtain ⟨other, ho, rfl⟩ := List.mem_map.mp hkey
      rw [List.mem_singleton.mp hkey']
      exact h.key_is_new clock ho
    · rw [List.map_append, List.nodup_append]
      refine ⟨h.paired.resolves, List.nodup_singleton _, fun p hp p' hp' => ?_⟩
      obtain ⟨other, ho, rfl⟩ := List.mem_map.mp hp
      rw [List.mem_singleton.mp hp']
      exact (h.accounted.asked _ _ (h.accounted.waiting other ho).1).1.ne
    · intro other ho
      rcases List.mem_append.mp ho with ho | ho
      · exact h.paired.handles other ho
      · rw [List.mem_singleton.mp ho]
    · rw [List.length_append]
      exact hroom
  · exact h.accounted.ask rfl rfl rfl

theorem armTimer_remove (h : Regular s log) (he : entry ∈ s.pendingQueries) (reqId : Text) :
    ((s.armTimer reqId).clearTimeout entry.2.timer).deleteQuery entry.1 =
      ((s.clearTimeout entry.2.timer).deleteQuery entry.1).armTimer reqId := by
  have hcalls : s.calls ≠ entry.2.timer := by
    rw [h.paired.handles entry he]
    exact (h.accounted.asked _ _ (h.accounted.waiting entry he).1).1.ne'
  simp [DepthFeatures.armTimer, DepthFeatures.clearTimeout, DepthFeatures.deleteQuery, hcalls]

/-- Behind the pruning there is room, and the newest timer is as it was. -/
theorem prune (h : Regular s log) (reqId : Text) :
    ∃ s', Regular s' (log ++ (s.armTimer reqId).pruneOldest.2) ∧
      ((s.armTimer reqId).pruneOldest (ν := ν)).1 = s'.armTimer reqId ∧
      s'.pendingQueries.length < pendingQueriesMax ∧ s'.calls = s.calls ∧
      s'.reqCounter = s.reqCounter := by
  have hpending : (s.armTimer reqId).pendingQueries = s.pendingQueries := rfl
  rw [DepthFeatures.pruneOldest, hpending]
  split_ifs with hfull
  · cases hqueries : s.pendingQueries with
    | nil =>
        rw [hqueries] at hfull
        exact absurd hfull (by decide)
    | cons oldest rest =>
        have hold : oldest ∈ s.pendingQueries := hqueries ▸ List.mem_cons_self
        refine ⟨_, h.settle hold none, h.armTimer_remove hold reqId, ?_, rfl, rfl⟩
        have hbound := h.paired.bounded
        have hrest : (rest.filter fun other => other.1 ≠ oldest.1).length ≤ rest.length :=
          List.length_filter_le _ _
        simp only [DepthFeatures.deleteQuery, DepthFeatures.clearTimeout, hqueries,
          List.filter_cons, ne_eq, not_true_eq_false, decide_false, Bool.false_eq_true, if_false]
        rw [hqueries, List.length_cons] at hbound
        exact hrest.trans_lt hbound
  · exact ⟨s, by rwa [List.append_nil], rfl, not_le.mp hfull, rfl, rfl⟩

theorem fetch (h : Regular s log) (ready : Bool) (clock : Text) (published : Bool) :
    Regular (s.fetchDepthTextroom (ν := ν) ready clock published).1
      (log ++ (s.fetchDepthTextroom ready clock published).2) := by
  rw [DepthFeatures.fetchDepthTextroom]
  split_ifs with hready hpublished
  · obtain ⟨s', hs', hstate, hroom, hcalls, hcounter⟩ := h.prune (reqIdOf clock s.reqCounter)
    have hask := hs'.ask hroom clock
    rw [hcalls, hcounter, ← hstate, List.append_assoc] at hask
    exact hask
  · obtain ⟨s', hs', hstate, hroom, hcalls, hcounter⟩ := h.prune (reqIdOf clock s.reqCounter)
    have hask := hs'.ask hroom clock
    have hnew : (reqIdOf clock s'.reqCounter, ⟨s'.calls, s'.calls⟩) ∈
        ((s'.armTimer (reqIdOf clock s'.reqCounter)).setQuery (reqIdOf clock s'.reqCounter)
          { resolve := s'.calls, timer := s'.calls }).pendingQueries := by
      rw [hs'.setQuery_eq]
      exact List.mem_append_right _ (List.mem_singleton_self _)
    have hsettle := hask.settle hnew none
    rw [hcalls, hcounter, ← hstate, List.append_assoc, List.append_assoc] at hsettle
    exact hsettle
  · constructor
    · exact ⟨h.paired.armed, h.paired.keys, h.paired.resolves, h.paired.handles, h.paired.bounded⟩
    · exact h.accounted.refuse

theorem timeout (h : Regular s log) (handle : ℕ) :
    Regular (s.timeout (ν := ν) handle).1 (log ++ (s.timeout handle).2) := by
  rw [DepthFeatures.timeout]
  cases hfind : s.armed.find? fun timer => timer.handle = handle with
  | none => rwa [List.append_nil]
  | some timer =>
      have hfound := List.find?_some hfind
      have hhandle : timer.handle = handle := of_decide_eq_true hfound
      have hmem := List.mem_of_find?_eq_some hfind
      rw [h.paired.armed] at hmem
      obtain ⟨waiting, hwaiting, rfl⟩ := List.mem_map.mp hmem
      rw [← hhandle]
      exact h.settle hwaiting none

theorem mem_of_lookup {reqId : Text} {query : PendingQuery}
    (h : s.pendingQueries.lookup reqId = some query) : (reqId, query) ∈ s.pendingQueries := by
  obtain ⟨first, rest, hsplit, -⟩ := List.lookup_eq_some_iff.mp h
  rw [hsplit]
  exact List.mem_append_right _ List.mem_cons_self

theorem onmessage (h : Regular s log) (nonzero : ν → Bool) (message : Option (JsData ν)) :
    Regular (s.onmessage nonzero message).1 (log ++ (s.onmessage nonzero message).2) := by
  have hsame : Regular s (log ++ []) := by rwa [List.append_nil]
  cases message with
  | none => exact hsame
  | some data =>
      simp only [DepthFeatures.onmessage]
      split
      · next reqId _ =>
          split_ifs with hempty
          · exact hsame
          · cases hlookup : s.pendingQueries.lookup reqId with
            | none => exact hsame
            | some pending => exact h.settle (mem_of_lookup hlookup) _
      · exact hsame

/-- One task keeps the table. -/
theorem step (nonzero : ν → Bool) (s : DepthFeatures) (log : List (ClickOutput ν))
    (e : ClickEvent ν) (h : Regular s log) :
    Regular ((clickMachine nonzero).next s e) (log ++ (clickMachine nonzero).emits s e) := by
  cases e with
  | fetch ready clock published => exact h.fetch ready clock published
  | message data => exact h.onmessage nonzero data
  | timeout handle => exact h.timeout handle

/-- Every run keeps the table. -/
theorem run (nonzero : ν → Bool) (events : List (ClickEvent ν)) :
    Regular ((clickMachine nonzero).run {} events) ((clickMachine nonzero).trace {} events) := by
  apply (clickMachine nonzero).run_trace_invariant (step nonzero)
  constructor
  · exact ⟨rfl, List.nodup_nil, List.nodup_nil, fun _ h => absurd h List.not_mem_nil, by decide⟩
  · constructor
    all_goals simp [settledIn]

end Regular

/-! ## Answers -/

/-- A message carries a depth for a query under the id that the query was published with. -/
def OwnAnswer (log : List (ClickOutput ν)) (data : JsData ν) (promise : ℕ) (depth : ν) : Prop :=
  ∃ reqId, .asked promise reqId ∈ log ∧ data.property "req_id".toList = some (.string reqId) ∧
    data.property "depth".toList = some (.number depth)

theorem numberOrNull_eq_some {value : Option (JsData ν)} {depth : ν}
    (h : JsData.numberOrNull value = some depth) : value = some (.number depth) := by
  rw [JsData.numberOrNull.eq_def] at h
  split at h
  · rw [Option.some_inj.mp h]
  · cases h

theorem not_resolved_of_pruneOldest {promise : ℕ} {depth : ν} :
    .resolved promise (some depth) ∉ s.pruneOldest.2 := by
  rw [DepthFeatures.pruneOldest]
  split_ifs
  · split
    · simp
    · exact List.not_mem_nil
  · exact List.not_mem_nil

/-- A depth is given by a message only, to the query that the message names. -/
theorem Regular.answer {nonzero : ν → Bool} {e : ClickEvent ν} (h : Regular s log)
    {promise : ℕ} {depth : ν}
    (hresolved : .resolved promise (some depth) ∈ (clickMachine nonzero).emits s e) :
    ∃ data, e = .message (some data) ∧ OwnAnswer log data promise depth := by
  cases e with
  | fetch ready clock published =>
      simp only [clickMachine, Machine.emits, DepthFeatures.fetchDepthTextroom] at hresolved
      split_ifs at hresolved
      · simp [not_resolved_of_pruneOldest] at hresolved
      · simp [not_resolved_of_pruneOldest] at hresolved
      · simp at hresolved
  | timeout handle =>
      simp only [clickMachine, Machine.emits, DepthFeatures.timeout] at hresolved
      split at hresolved
      · exact absurd hresolved List.not_mem_nil
      · simp at hresolved
  | message message =>
      cases message with
      | none => exact absurd hresolved List.not_mem_nil
      | some data =>
          simp only [clickMachine, Machine.emits, DepthFeatures.onmessage] at hresolved
          split at hresolved
          · next reqId hreqId =>
              split_ifs at hresolved with hempty
              · exact absurd hresolved List.not_mem_nil
              · cases hlookup : s.pendingQueries.lookup reqId with
                | none =>
                    rw [hlookup] at hresolved
                    exact absurd hresolved List.not_mem_nil
                | some pending =>
                    rw [hlookup, List.mem_singleton] at hresolved
                    obtain ⟨rfl, hdepth⟩ := ClickOutput.resolved.inj hresolved
                    have hasked := (h.accounted.waiting _ (Regular.mem_of_lookup hlookup)).1
                    have hnumber := numberOrNull_eq_some hdepth.symm
                    refine ⟨data, rfl, reqId, hasked, ?_, hnumber⟩
                    split_ifs at hreqId with htruthy
                    · exact hreqId
                    · rw [Option.some_inj.mp hreqId, JsData.truthy,
                        Bool.eq_false_of_not_eq_true hempty] at htruthy
                      exact absurd rfl htruthy
          · exact absurd hresolved List.not_mem_nil

theorem filter_key_eq {entries : List (Text × PendingQuery)} (hkeys : (entries.map Prod.fst).Nodup)
    (he : entry ∈ entries) : (entries.filter fun other => other.1 = entry.1) = [entry] := by
  induction entries with
  | nil => cases he
  | cons first rest ih =>
      rw [List.map_cons, List.nodup_cons] at hkeys
      have hother : ∀ other ∈ rest, other.1 ≠ first.1 := by
        intro other ho heq
        exact hkeys.1 (List.mem_map.mpr ⟨other, ho, heq⟩)
      rcases List.mem_cons.mp he with rfl | hrest
      · have hself : decide (entry.1 = entry.1) = true := decide_eq_true rfl
        rw [List.filter_cons, if_pos hself, List.filter_eq_nil_iff.mpr]
        intro other ho
        rw [decide_eq_true_iff]
        exact hother other ho
      · rw [List.filter_cons_of_neg, ih hkeys.2 hrest]
        rw [decide_eq_true_iff]
        exact (hother entry hrest).symm

/-- The timers that refer to a waiting query are the one it was given. -/
theorem Paired.filter_armed (h : Paired s) (he : entry ∈ s.pendingQueries) :
    (s.armed.filter fun timer => timer.reqId = entry.1) = [timerOf entry] := by
  have hfilter := congrArg (List.map timerOf) (filter_key_eq h.keys he)
  rw [h.armed, List.filter_map]
  exact hfilter

/-! ## The calls of a run -/

/-- A call of `fetchDepthTextroom`. -/
def ClickEvent.isFetch : ClickEvent ν → Bool
  | .fetch .. => true
  | .message _ | .timeout _ => false

/-- A call that finds the back channel ready. -/
def ClickEvent.takesId : ClickEvent ν → Bool
  | .fetch ready .. => ready
  | .message _ | .timeout _ => false

/-- A page counts its calls, and the ids it gave out. -/
theorem counted_next (nonzero : ν → Bool) (s : DepthFeatures) (e : ClickEvent ν) :
    ((clickMachine nonzero).next s e).calls = s.calls + [e].countP ClickEvent.isFetch ∧
      ((clickMachine nonzero).next s e).reqCounter =
        s.reqCounter + [e].countP ClickEvent.takesId := by
  have hprune : ∀ s : DepthFeatures,
      ((s.pruneOldest : DepthFeatures × List (ClickOutput ν))).1.calls = s.calls ∧
      ((s.pruneOldest : DepthFeatures × List (ClickOutput ν))).1.reqCounter = s.reqCounter := by
    intro s
    rw [DepthFeatures.pruneOldest]
    split_ifs
    · split
      · exact ⟨rfl, rfl⟩
      · exact ⟨rfl, rfl⟩
    · exact ⟨rfl, rfl⟩
  have hset : ∀ (s : DepthFeatures) (reqId : Text) (query : PendingQuery),
      (s.setQuery reqId query).calls = s.calls ∧
        (s.setQuery reqId query).reqCounter = s.reqCounter := by
    intro s reqId query
    rw [DepthFeatures.setQuery]
    split_ifs
    · exact ⟨rfl, rfl⟩
    · exact ⟨rfl, rfl⟩
  cases e with
  | fetch ready clock published =>
      cases ready with
      | false => exact ⟨rfl, rfl⟩
      | true =>
          have hpruned := hprune (s.armTimer (reqIdOf clock s.reqCounter))
          have hasked := hset ((s.armTimer (reqIdOf clock s.reqCounter)).pruneOldest (ν := ν)).1
            (reqIdOf clock s.reqCounter) { resolve := s.calls, timer := s.calls }
          cases published with
          | true => exact ⟨hasked.1.trans hpruned.1, hasked.2.trans hpruned.2⟩
          | false => exact ⟨hasked.1.trans hpruned.1, hasked.2.trans hpruned.2⟩
  | message message =>
      simp only [Machine.next, clickMachine, DepthFeatures.onmessage]
      split
      · exact ⟨rfl, rfl⟩
      · split
        · split_ifs
          · exact ⟨rfl, rfl⟩
          · split
            · exact ⟨rfl, rfl⟩
            · exact ⟨rfl, rfl⟩
        · exact ⟨rfl, rfl⟩
  | timeout handle =>
      simp only [Machine.next, clickMachine, DepthFeatures.timeout]
      split
      · exact ⟨rfl, rfl⟩
      · exact ⟨rfl, rfl⟩

theorem counted_run (nonzero : ν → Bool) (s : DepthFeatures) (events : List (ClickEvent ν)) :
    ((clickMachine nonzero).run s events).calls = s.calls + events.countP ClickEvent.isFetch ∧
      ((clickMachine nonzero).run s events).reqCounter =
        s.reqCounter + events.countP ClickEvent.takesId := by
  induction events generalizing s with
  | nil => exact ⟨rfl, rfl⟩
  | cons e events ih =>
      obtain ⟨hcalls, hids⟩ := counted_next nonzero s e
      obtain ⟨hrest, hrestIds⟩ := ih ((clickMachine nonzero).next s e)
      rw [Machine.run_cons, hrest, hrestIds, hcalls, hids, ← List.singleton_append (l := events),
        List.countP_append, List.countP_append, Nat.add_assoc, Nat.add_assoc]
      exact ⟨rfl, rfl⟩

/-- What holds of the queries of a run.  The call of `fetchDepthTextroom` that comes behind `n`
others makes the promise `n`: it is published under an id of its own where the back channel is
ready, and it is settled or in the table.  Each promise is one of a call and is settled once at
most, with a depth only by a message with the query's own id; the table is bounded; and its
entries and the armed timers belong to each other one to one. -/
structure SettlesOnce (nonzero : ν → Bool) (events : List (ClickEvent ν)) : Prop where
  called : ∀ before ready clock published after,
    events = before ++ .fetch ready clock published :: after →
      before.countP ClickEvent.isFetch ∈ settledIn ((clickMachine nonzero).trace {} events) ∨
        ∃ entry ∈ ((clickMachine nonzero).run {} events).pendingQueries,
          entry.2.resolve = before.countP ClickEvent.isFetch
  published : ∀ before clock published after,
    events = before ++ .fetch true clock published :: after →
      .asked (before.countP ClickEvent.isFetch)
          (reqIdOf clock (before.countP ClickEvent.takesId)) ∈
        (clickMachine nonzero).emits ((clickMachine nonzero).run {} before)
          (.fetch true clock published)
  made : ∀ promise ∈ settledIn ((clickMachine nonzero).trace {} events),
    promise < events.countP ClickEvent.isFetch
  once : (settledIn ((clickMachine nonzero).trace {} events)).Nodup
  own : ∀ promise promise' reqId, .asked promise reqId ∈ (clickMachine nonzero).trace {} events →
    .asked promise' reqId ∈ (clickMachine nonzero).trace {} events → promise = promise'
  answered : ∀ before e after, events = before ++ e :: after → ∀ promise depth,
    .resolved promise (some depth) ∈
      (clickMachine nonzero).emits ((clickMachine nonzero).run {} before) e →
    ∃ data, e = .message (some data) ∧
      OwnAnswer ((clickMachine nonzero).trace {} before) data promise depth
  bounded : ((clickMachine nonzero).run {} events).pendingQueries.length ≤ 64
  oneTimer : ∀ entry ∈ ((clickMachine nonzero).run {} events).pendingQueries,
    (((clickMachine nonzero).run {} events).armed.filter fun timer => timer.reqId = entry.1) =
      [timerOf entry]
  timers : ∀ timer ∈ ((clickMachine nonzero).run {} events).armed,
    ∃ entry ∈ ((clickMachine nonzero).run {} events).pendingQueries, timerOf entry = timer
  kept : ∀ promise reqId, .asked promise reqId ∈ (clickMachine nonzero).trace {} events →
    promise ∈ settledIn ((clickMachine nonzero).trace {} events) ∨
      ∃ entry ∈ ((clickMachine nonzero).run {} events).pendingQueries,
        entry.1 = reqId ∧ entry.2.resolve = promise

/-- Every run settles its queries once, and with their own answers. -/
theorem click_queries_settle_once (nonzero : ν → Bool) (events : List (ClickEvent ν)) :
    SettlesOnce nonzero events := by
  have h := Regular.run nonzero events
  have hcounted : ∀ events : List (ClickEvent ν),
      ((clickMachine nonzero).run {} events).calls = events.countP ClickEvent.isFetch ∧
        ((clickMachine nonzero).run {} events).reqCounter =
          events.countP ClickEvent.takesId := by
    intro events
    have hrun := counted_run nonzero {} events
    rwa [Nat.zero_add, Nat.zero_add] at hrun
  constructor
  · rintro before ready clock published after rfl
    apply h.accounted.settled_or_waiting
    rw [(hcounted _).1, List.countP_append, List.countP_cons_of_pos rfl]
    omega
  · rintro before clock published after -
    rw [← (hcounted before).1, ← (hcounted before).2]
    cases published with
    | true => exact List.mem_append_right _ List.mem_cons_self
    | false => exact List.mem_append_right _ List.mem_cons_self
  · intro promise hpromise
    rw [← (hcounted events).1]
    exact h.accounted.made promise hpromise
  · exact h.accounted.once
  · exact h.accounted.own
  · intro before e after _ promise depth hresolved
    exact (Regular.run nonzero before).answer hresolved
  · exact h.paired.bounded
  · intro entry he
    exact h.paired.filter_armed he
  · intro timer htimer
    rw [h.paired.armed] at htimer
    exact List.mem_map.mp htimer
  · exact h.accounted.kept

/-- Three calls: the first is answered, the publish of the second throws, and the third is still
waited for, with its timer armed. -/
theorem third_query_waits :
    let answer : JsData ℕ := .object [("req_id".toList, .string (reqIdOf ['a'] 0)),
      ("depth".toList, .number 412)]
    let events : List (ClickEvent ℕ) := [.fetch true ['a'] true, .fetch true ['a'] false,
      .message (some answer), .fetch true ['b'] true]
    let machine := clickMachine fun n : ℕ => n ≠ 0
    settledIn (machine.trace {} events) = [1, 0] ∧
      ∃ entry ∈ (machine.run {} events).pendingQueries, entry.2.resolve = 2 ∧
        ((machine.run {} events).armed.filter fun timer => timer.reqId = entry.1) =
          [timerOf entry] := by
  intro answer events machine
  have hsettled : settledIn (machine.trace {} events) = [1, 0] := by decide +kernel
  have hsettles := click_queries_settle_once (fun n : ℕ => n ≠ 0) events
  have hthird := hsettles.called
    [.fetch true ['a'] true, .fetch true ['a'] false, .message (some answer)] true ['b'] true [] rfl
  refine ⟨hsettled, ?_⟩
  rcases hthird with hmem | ⟨entry, he, hresolve⟩
  · have hnot : 2 ∉ settledIn (machine.trace {} events) := by
      rw [hsettled]
      decide
    exact absurd hmem hnot
  · exact ⟨entry, he, hresolve, hsettles.oneTimer entry he⟩

end CameraStack.Depth
