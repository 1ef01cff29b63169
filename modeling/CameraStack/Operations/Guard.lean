/-
# The guard of a node

One operation runs on a node at a time, and the journal file is all that says so.
Writers hold a lock from reading the file to replacing it; readers take none.  A call
that finds bytes that are no JSON moves the file aside, in a step of its own, and
raises; the next call finds no file and begins an empty journal.  A file without any
bytes is an empty journal too, and nobody raises at it.

The model has one event for each access to the file, so a list of events is an
interleaving.  `one_operation_per_node` says when the guard holds; `guard_lost` shows
it lost.
-/

import CameraStack.Operations.Journal

namespace CameraStack.Operations

open CameraStack.Lib

/-! ## The process -/

/-- Bytes that are no JSON: none at all, some that raise `JSONDecodeError` or
`UnicodeDecodeError`, and some at which `json.loads` gives up with another exception. -/
inductive Damage
  | blank | undecodable | unparsed
  deriving DecidableEq

/-- The journal file. -/
inductive JournalFile
  | absent
  | valid (ops : History)
  | invalid (damage : Damage)
  deriving DecidableEq

/-- What a call that loads the file gets to see; `none` where it has to raise.  The empty text
stands for `{}`. -/
def JournalFile.load : JournalFile → Option History
  | .absent | .invalid .blank => some []
  | .valid ops => some ops
  | .invalid .undecodable | .invalid .unparsed => none

/-- The file is one that the call moves aside before it raises. -/
def JournalFile.condemned (file : JournalFile) : Bool := file = .invalid .undecodable

/-- An accepted operation whose function has not returned. -/
structure LiveOp where
  operationId : String
  nodeId : String
  started : Bool := false
  deriving DecidableEq

/-- What the holder of the lock will do to the file. -/
inductive Pending
  | write (ops : History) (accepts : Option LiveOp)
  | quarantine
  deriving DecidableEq

/-- The operation that is accepted with a write. -/
def Pending.accepted : Pending → Option LiveOp
  | .write _ accepts => accepts
  | .quarantine => none

/-- The file, the holder of the lock, the readers that are about to move the file aside, the
operations under way, and the number of ids given out. -/
structure Gateway where
  file : JournalFile := .absent
  holder : Option Pending := none
  readers : ℕ := 0
  live : List LiveOp := []
  ids : ℕ := 0

/-- The id of a new operation, `uuid4().hex`: every call gets another one. -/
def freshId (n : ℕ) : String := String.ofList (List.replicate n 'f')

/-- The accesses to the file and the life of an operation. -/
inductive GuardEvent
  /-- `run` takes the lock and loads the journal. -/
  | begin (nodeId opType : String) (now : ℤ)
  /-- The holder of the lock replaces the file, or moves it aside, and lets go. -/
  | commit
  /-- The thread of an accepted operation starts its function. -/
  | start (operationId : String)
  /-- The function returns or raises. -/
  | returns (operationId : String)
  /-- `finish` takes the lock and loads the journal, once the function has returned. -/
  | finish (operationId status lastError : String) (now : ℤ)
  /-- `running_for_node`, `all_running`, `list_recent` or `get` loads the journal. -/
  | read
  /-- A reader that found no JSON moves the file aside. -/
  | quarantine
  /-- The bytes of the file become invalid. -/
  | corrupt (damage : Damage)

namespace Gateway

/-- `_load` raises with the lock taken; the lock is let go once the file is moved aside. -/
def raise (g : Gateway) : Option Pending := if g.file.condemned then some .quarantine else none

/-- `begin` with the lock taken: raise, refuse, or prepare the file with the new record. -/
def beginLoad (nodeId opType : String) (now : ℤ) (g : Gateway) : Option Pending :=
  match g.file.load with
  | none => g.raise
  | some ops =>
      match ops.begin nodeId opType (freshId g.ids) now with
      | .error _ => none
      | .ok ops' => some (.write ops' (some { operationId := freshId g.ids, nodeId := nodeId }))

/-- `finish` with the lock taken. -/
def finishLoad (operationId status lastError : String) (now : ℤ) (g : Gateway) : Option Pending :=
  match g.file.load with
  | none => g.raise
  | some ops => some (.write (ops.finish operationId status lastError now) none)

/-- The holder of the lock does what it prepared. -/
def commit (g : Gateway) : Pending → Gateway
  | .quarantine => { g with file := .absent, holder := none }
  | .write ops accepts =>
      { g with file := .valid ops, holder := none, live := g.live ++ accepts.toList }

/-- The function of an operation starts. -/
def start (operationId : String) (g : Gateway) : Gateway :=
  { g with
    live := g.live.map fun op =>
      if op.operationId = operationId then { op with started := true } else op }

/-- The function of an operation returns. -/
def returns (operationId : String) (g : Gateway) : Gateway :=
  { g with live := g.live.filter fun op => !(op.operationId = operationId && op.started) }

/-- The operations whose functions are running. -/
def active (g : Gateway) : List LiveOp := g.live.filter LiveOp.started

end Gateway

/-- One event; an event that cannot happen changes nothing. -/
def guardMachine : Machine Gateway GuardEvent Empty where
  step g
    | .begin nodeId opType now =>
        if g.holder.isSome then (g, [])
        else ({ g with holder := g.beginLoad nodeId opType now, ids := g.ids + 1 }, [])
    | .commit => (g.holder.elim g g.commit, [])
    | .start operationId => (g.start operationId, [])
    | .returns operationId => (g.returns operationId, [])
    | .finish operationId status lastError now =>
        if g.holder.isSome || g.live.any fun op => op.operationId = operationId then (g, [])
        else ({ g with holder := g.finishLoad operationId status lastError now }, [])
    | .read => (if g.file.condemned then { g with readers := g.readers + 1 } else g, [])
    | .quarantine =>
        (if g.readers = 0 then g else { g with file := .absent, readers := g.readers - 1 }, [])
    | .corrupt damage => ({ g with file := .invalid damage }, [])

/-- No two functions of one node are running. -/
def OneOperationPerNode (g : Gateway) : Prop := (g.active.map LiveOp.nodeId).Nodup

instance (g : Gateway) : Decidable (OneOperationPerNode g) :=
  inferInstanceAs (Decidable (List.Nodup _))

/-- The file is neither moved aside nor left without bytes while an operation is under way. -/
def GuardEvent.Undisturbed (g : Gateway) : GuardEvent → Prop
  | .quarantine => g.readers ≠ 0 → g.live = []
  | .commit => g.holder = some .quarantine → g.live = []
  | .corrupt damage => damage = .blank → g.live = []
  | _ => True

instance (g : Gateway) : ∀ e : GuardEvent, Decidable (e.Undisturbed g)
  | .quarantine => inferInstanceAs (Decidable (g.readers ≠ 0 → g.live = []))
  | .commit => inferInstanceAs (Decidable (g.holder = some .quarantine → g.live = []))
  | .corrupt damage => inferInstanceAs (Decidable (damage = .blank → g.live = []))
  | .begin .. | .start _ | .returns _ | .finish .. | .read => .isTrue trivial

/-! ## The invariant -/

/-- A history has a record of the operation that is running. -/
def History.Guards (ops : History) (op : LiveOp) : Prop :=
  ∃ r ∈ ops, r.operationId = op.operationId ∧ r.nodeId = op.nodeId ∧ r.isRunning = true

/-- The file guards an operation, unless it cannot be read. -/
def JournalFile.Guards (op : LiveOp) (file : JournalFile) : Prop :=
  ∀ ops, file.load = some ops → ops.Guards op

/-- What the holder of the lock is about to write guards all operations. -/
def Pending.Guards (live : List LiveOp) : Pending → Prop
  | .quarantine => True
  | .write ops accepts =>
      ∀ op ∈ live ++ accepts.toList, ops.Guards op

/-- Operations under way are of different nodes, and guarded by the file and by what will
replace it; an operation that will be accepted is of another node. -/
structure Gateway.Guarded (g : Gateway) : Prop where
  distinct : ((g.live ++ (g.holder.bind Pending.accepted).toList).map LiveOp.nodeId).Nodup
  file : ∀ op ∈ g.live, g.file.Guards op
  pending : ∀ p ∈ g.holder, p.Guards g.live

section Steps

variable {g : Gateway} {ops : History} {op : LiveOp}

/-- Adding a record keeps the guards. -/
theorem History.Guards.record (h : ops.Guards op) (new : Operation) : (ops.record new).Guards op := by
  obtain ⟨r, hr, hid, hnode, hrunning⟩ := h
  have hkept : r ∈ (ops.record new).filter Operation.isRunning := by
    rw [(History.capped_record new ops).running]
    exact List.mem_filter.mpr ⟨List.mem_append_left _ hr, hrunning⟩
  exact ⟨r, (List.mem_filter.mp hkept).1, hid, hnode, hrunning⟩

/-- The new record guards its own operation. -/
theorem History.guards_started (ops : History) (nodeId opType operationId : String) (now : ℤ) :
    (ops.record (.started nodeId opType operationId now)).Guards
      { operationId := operationId, nodeId := nodeId } := by
  have hkept : Operation.started nodeId opType operationId now ∈
      (ops.record (.started nodeId opType operationId now)).filter Operation.isRunning := by
    rw [(History.capped_record _ ops).running]
    exact List.mem_filter.mpr ⟨List.mem_append_right _ List.mem_cons_self, rfl⟩
  exact ⟨_, (List.mem_filter.mp hkept).1, rfl, rfl, rfl⟩

/-- Ending an operation leaves the records with other ids. -/
theorem History.mem_finish {operationId : String} {r : Operation} (hr : r ∈ ops)
    (hne : r.operationId ≠ operationId) (status lastError : String) (now : ℤ) :
    r ∈ ops.finish operationId status lastError now := by
  induction ops with
  | nil => cases hr
  | cons r' ops ih =>
      rw [History.finish]
      rcases List.mem_cons.mp hr with rfl | hmem
      · rw [if_neg hne]
        exact List.mem_cons_self
      · split
        · exact List.mem_cons_of_mem _ hmem
        · exact List.mem_cons_of_mem _ (ih hmem)

/-- Ending another operation keeps the guards. -/
theorem History.Guards.finish (h : ops.Guards op) {operationId : String}
    (hne : op.operationId ≠ operationId) (status lastError : String) (now : ℤ) :
    (ops.finish operationId status lastError now).Guards op := by
  obtain ⟨r, hr, hid, hrest⟩ := h
  have hother : r.operationId ≠ operationId := fun hsame => hne (hid.symm.trans hsame)
  exact ⟨r, History.mem_finish hr hother status lastError now, hid, hrest⟩

/-- Bytes that are no JSON, but some, guard every operation. -/
theorem JournalFile.guards_invalid {damage : Damage} (h : damage ≠ .blank) :
    (JournalFile.invalid damage).Guards op := by
  intro ops hload
  cases damage with
  | blank => exact absurd rfl h
  | undecodable | unparsed => cases hload

namespace Gateway

/-- A call that raises prepares nothing that is accepted. -/
theorem Guarded.raise (h : g.Guarded) (hfree : g.holder = none) (ids : ℕ) :
    ({ g with holder := g.raise, ids := ids } : Gateway).Guarded := by
  have hdistinct := h.distinct
  rw [hfree] at hdistinct
  unfold Gateway.raise
  cases g.file.condemned with
  | false => exact ⟨hdistinct, h.file, nofun⟩
  | true =>
      refine ⟨hdistinct, h.file, ?_⟩
      rintro p ⟨⟩
      trivial

theorem Guarded.begin (h : g.Guarded) (hfree : g.holder = none) (nodeId opType : String) (now : ℤ) :
    ({ g with holder := g.beginLoad nodeId opType now, ids := g.ids + 1 } : Gateway).Guarded := by
  have hnone : (g.live.map LiveOp.nodeId).Nodup := by
    have hdistinct := h.distinct
    simpa [hfree] using hdistinct
  unfold beginLoad
  cases hload : g.file.load with
  | none => exact h.raise hfree _
  | some ops =>
      dsimp only
      cases hbegin : ops.begin nodeId opType (freshId g.ids) now with
      | error conflict => exact ⟨by simpa using hnone, h.file, fun p hp => by cases hp⟩
      | ok ops' =>
          obtain ⟨hidle, rfl⟩ := History.begin_eq_ok.mp hbegin
          have hguards : ∀ op ∈ g.live, ops.Guards op := fun op hop =>
            h.file op hop ops hload
          refine ⟨?_, h.file, ?_⟩
          · simp only [Option.bind_some, Pending.accepted, Option.toList_some, List.map_append,
              List.map_singleton]
            apply List.Nodup.append hnone (List.nodup_singleton _)
            intro node hmem hnew
            obtain ⟨op, hop, rfl⟩ := List.mem_map.mp hmem
            obtain ⟨r, hr, -, hnode, hrunning⟩ := hguards op hop
            have hno := List.find?_eq_none.mp hidle r hr
            simp [hnode, hrunning, List.mem_singleton.mp hnew] at hno
          · rintro p ⟨⟩ op hop
            rcases List.mem_append.mp hop with hold | hnew
            · exact (hguards op hold).record _
            · rw [List.mem_singleton.mp hnew]
              exact History.guards_started ops nodeId opType _ now

theorem Guarded.finish (h : g.Guarded) (hfree : g.holder = none) {operationId : String}
    (hended : ∀ op ∈ g.live, op.operationId ≠ operationId) (status lastError : String) (now : ℤ) :
    ({ g with holder := g.finishLoad operationId status lastError now } : Gateway).Guarded := by
  have hnone : (g.live.map LiveOp.nodeId).Nodup := by
    have hdistinct := h.distinct
    simpa [hfree] using hdistinct
  unfold finishLoad
  cases hload : g.file.load with
  | none => exact h.raise hfree _
  | some ops =>
      refine ⟨by simpa [Pending.accepted] using hnone, h.file, ?_⟩
      rintro p ⟨⟩ op hop
      have hop' : op ∈ g.live := by simpa using hop
      exact (h.file op hop' ops hload).finish (hended op hop') _ _ _

theorem Guarded.commit (h : g.Guarded) {p : Pending} (hholder : g.holder = some p)
    (hundisturbed : p = .quarantine → g.live = []) : (g.commit p).Guarded := by
  cases p with
  | quarantine =>
      have hlive := hundisturbed rfl
      simp only [Gateway.commit]
      exact ⟨by simp [hlive], fun op hop => by simp [hlive] at hop, fun p hp => by cases hp⟩
  | write ops accepts =>
      have hdistinct := h.distinct
      have hpending : ∀ op ∈ g.live ++ accepts.toList, ops.Guards op := h.pending _ hholder
      rw [hholder] at hdistinct
      refine ⟨by simpa [Gateway.commit, Pending.accepted] using hdistinct, ?_, nofun⟩
      rintro op hop ops' ⟨⟩
      exact hpending op hop

/-- The guard looks at the ids and nodes of the operations under way, so any part of them is
guarded too. -/
theorem Guarded.mono (h : g.Guarded) {live : List LiveOp} (ident : LiveOp → LiveOp)
    (hid : ∀ op, (ident op).operationId = op.operationId ∧ (ident op).nodeId = op.nodeId)
    (hsub : live.Sublist (g.live.map ident)) : ({ g with live := live } : Gateway).Guarded := by
  have hmem : ∀ op ∈ live, ∃ op' ∈ g.live, op.operationId = op'.operationId ∧
      op.nodeId = op'.nodeId := by
    intro op hop
    obtain ⟨op', hop', rfl⟩ := List.mem_map.mp (hsub.subset hop)
    exact ⟨op', hop', hid op'⟩
  have hguards : ∀ (ops : History) (op op' : LiveOp), op.operationId = op'.operationId →
      op.nodeId = op'.nodeId → ops.Guards op' → ops.Guards op := by
    rintro ops op op' hids hnodes ⟨r, hr, hrid, hrnode, hrunning⟩
    exact ⟨r, hr, hrid.trans hids.symm, hrnode.trans hnodes.symm, hrunning⟩
  refine ⟨?_, ?_, ?_⟩
  · have hnodes : (live.map LiveOp.nodeId).Sublist (g.live.map LiveOp.nodeId) := by
      have hmap := hsub.map LiveOp.nodeId
      have hsame : (g.live.map ident).map LiveOp.nodeId = g.live.map LiveOp.nodeId := by
        rw [List.map_map]
        exact List.map_congr_left fun op _ => (hid op).2
      rwa [hsame] at hmap
    refine List.Nodup.sublist ?_ h.distinct
    rw [List.map_append, List.map_append]
    exact hnodes.append (List.Sublist.refl _)
  · intro op hop
    obtain ⟨op', hop', hids, hnodes⟩ := hmem op hop
    exact fun ops hload => hguards ops op op' hids hnodes (h.file op' hop' ops hload)
  · intro p hp
    have hpending := h.pending p hp
    cases p with
    | quarantine => trivial
    | write ops accepts =>
        intro op hop
        rcases List.mem_append.mp hop with hlive | hnew
        · obtain ⟨op', hop', hids, hnodes⟩ := hmem op hlive
          exact hguards ops op op' hids hnodes (hpending op' (List.mem_append_left _ hop'))
        · exact hpending op (List.mem_append_right _ hnew)

/-- The invariant does not depend on the file while nothing is under way, nor when it cannot
be read. -/
theorem Guarded.setFile (h : g.Guarded) {file : JournalFile}
    (hfile : ∀ op ∈ g.live, file.Guards op) : ({ g with file := file } : Gateway).Guarded :=
  ⟨h.distinct, hfile, h.pending⟩

end Gateway

end Steps

/-- Every event that does not move the file aside keeps the guard. -/
theorem Gateway.Guarded.next {g : Gateway} (h : g.Guarded) {e : GuardEvent}
    (hundisturbed : e.Undisturbed g) : (guardMachine.next g e).Guarded := by
  cases e with
  | begin nodeId opType now =>
      cases hholder : g.holder with
      | some p =>
          have hnext : guardMachine.next g (.begin nodeId opType now) = g := by
            simp [Machine.next, guardMachine, hholder]
          rw [hnext]
          exact h
      | none =>
          have hnext : guardMachine.next g (.begin nodeId opType now) =
              { g with holder := g.beginLoad nodeId opType now, ids := g.ids + 1 } := by
            simp [Machine.next, guardMachine, hholder]
          rw [hnext]
          exact h.begin hholder nodeId opType now
  | commit =>
      cases hholder : g.holder with
      | none =>
          have hnext : guardMachine.next g .commit = g := by
            simp [Machine.next, guardMachine, hholder]
          rw [hnext]
          exact h
      | some p =>
          have hnext : guardMachine.next g .commit = g.commit p := by
            simp [Machine.next, guardMachine, hholder]
          rw [hnext]
          exact h.commit hholder fun hp => hundisturbed (hholder.trans (by rw [hp]))
  | start operationId =>
      refine h.mono (fun op => if op.operationId = operationId then { op with started := true }
        else op) ?_ (List.Sublist.refl _)
      intro op
      split
      · exact ⟨rfl, rfl⟩
      · exact ⟨rfl, rfl⟩
  | returns operationId =>
      refine h.mono id (fun _ => ⟨rfl, rfl⟩) ?_
      rw [List.map_id]
      exact List.filter_sublist
  | finish operationId status lastError now =>
      by_cases hready : (g.holder.isSome || g.live.any fun op => op.operationId = operationId) = true
      · have hnext : guardMachine.next g (.finish operationId status lastError now) = g := by
          simp only [Machine.next, guardMachine, hready, if_true]
        rw [hnext]
        exact h
      · have hnext : guardMachine.next g (.finish operationId status lastError now) =
            { g with holder := g.finishLoad operationId status lastError now } := by
          simp only [Machine.next, guardMachine, hready]
          rfl
        rw [hnext]
        simp only [Bool.or_eq_true, not_or, Bool.not_eq_true, Option.isSome_eq_false_iff,
          Option.isNone_iff_eq_none, List.any_eq_false, decide_eq_true_eq] at hready
        exact h.finish hready.1 hready.2 status lastError now
  | read =>
      by_cases hcondemned : g.file.condemned = true
      · have hnext : guardMachine.next g .read = { g with readers := g.readers + 1 } := by
          simp [Machine.next, guardMachine, hcondemned]
        rw [hnext]
        exact ⟨h.distinct, h.file, h.pending⟩
      · have hnext : guardMachine.next g .read = g := by
          simp [Machine.next, guardMachine, hcondemned]
        rw [hnext]
        exact h
  | quarantine =>
      by_cases hreaders : g.readers = 0
      · have hnext : guardMachine.next g .quarantine = g := by
          simp [Machine.next, guardMachine, hreaders]
        rw [hnext]
        exact h
      · have hnext : guardMachine.next g .quarantine =
            { g with file := .absent, readers := g.readers - 1 } := by
          simp [Machine.next, guardMachine, hreaders]
        have hlive : g.live = [] := hundisturbed hreaders
        rw [hnext]
        exact ⟨h.distinct, fun op hop => by simp [hlive] at hop, h.pending⟩
  | corrupt damage =>
      refine h.setFile fun op hop => JournalFile.guards_invalid fun hblank => ?_
      rw [hundisturbed hblank] at hop
      cases hop

theorem Gateway.guarded_initial : ({} : Gateway).Guarded :=
  ⟨List.nodup_nil, fun op hop => by simp at hop, fun p hp => by cases hp⟩

/-- In every interleaving in which the file is neither moved aside nor left without bytes while an
operation is under way, no node has two operations whose functions are running. -/
theorem one_operation_per_node (events : List GuardEvent)
    (hundisturbed : guardMachine.Along (fun g e => e.Undisturbed g) {} events) :
    OneOperationPerNode (guardMachine.run {} events) := by
  have hguarded : (guardMachine.run {} events).Guarded := by
    apply guardMachine.run_invariant (I := Gateway.Guarded) _ hundisturbed Gateway.guarded_initial
    exact fun g e h hguard => h.next hguard
  have hlive : ((guardMachine.run {} events).live.map LiveOp.nodeId).Nodup := by
    have hdistinct := hguarded.distinct
    rw [List.map_append] at hdistinct
    exact hdistinct.of_append_left
  exact hlive.sublist (List.filter_sublist.map _)

/-- An operation starts on a node. -/
def startOn (node : String) (n : ℕ) : List GuardEvent :=
  [.begin node "provision" 0, .commit, .start (freshId n)]

/-- Damage that is found while nothing runs costs the history and not the guard. -/
theorem quarantine_between_operations :
    let events := startOn "node-a" 0 ++ [.returns (freshId 0), .corrupt .undecodable, .read,
      .quarantine] ++
      startOn "node-a" 1
    OneOperationPerNode (guardMachine.run {} events) ∧
      (guardMachine.run {} events).active.map LiveOp.nodeId = ["node-a"] := by
  exact ⟨one_operation_per_node _ (by decide +kernel), by decide +kernel⟩

/-- Damage that any reader finds while an operation runs lets a second one in. -/
theorem guard_lost :
    ¬ ∀ events, OneOperationPerNode (guardMachine.run {} events) := by
  intro hclaim
  have hone := hclaim
    (startOn "node-a" 0 ++ [.corrupt .undecodable, .read, .quarantine] ++ startOn "node-a" 1)
  exact absurd hone (by decide +kernel)

end CameraStack.Operations
