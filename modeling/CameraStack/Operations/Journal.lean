/-
# The operation journal

Long operations on a node are recorded in one JSON file, oldest first.  A record is
`running` until its operation has ended; a new operation is refused while one of its
node is running.  The history is capped when a record is added: the oldest records
that have ended are dropped, as many as needed or as there are.

`journal_history` says what every reachable journal looks like and what the cap takes
away.
-/

import CameraStack.Lib.Machine
import Mathlib.Data.List.Induction
import Mathlib.Data.List.Nodup

namespace CameraStack.Operations

open CameraStack.Lib

/-! ## Records -/

/-- The status of a record: still `running`, or what the operation ended with. -/
inductive OpStatus
  | running
  | ended (status : String)
  deriving DecidableEq, Repr

/-- A record of the journal. -/
structure Operation where
  operationId : String
  opType : String
  nodeId : String
  status : OpStatus := .running
  startedAt : ℤ
  finishedAt : Option ℤ := none
  lastError : String := ""
  deriving DecidableEq, Repr

/-- The operation has not ended. -/
def Operation.isRunning (op : Operation) : Bool := op.status = .running

/-- The record `begin` adds. -/
def Operation.started (nodeId opType operationId : String) (now : ℤ) : Operation where
  operationId := operationId
  opType := opType
  nodeId := nodeId
  startedAt := now

/-- What `finish` writes into a record. -/
def Operation.finished (status lastError : String) (now : ℤ) (op : Operation) : Operation :=
  { op with
    status := .ended status
    finishedAt := some now
    lastError := String.ofList (lastError.toList.take 300) }

/-- The list `operations`, oldest first. -/
abbrev History := List Operation

/-- `OperationConflict`. -/
structure OperationConflict where
  nodeId : String
  opType : String
  deriving DecidableEq, Repr

/-- `_MAX_RECORDS`. -/
def maxRecords : ℕ := 500

namespace History

/-- The loop that prunes: it skips the records that are running and drops the others while
its budget lasts. -/
def prune : ℕ → History → History
  | _, [] => []
  | n, op :: ops =>
      if 0 < n && !op.isRunning then prune (n - 1) ops else op :: prune n ops

/-- `running_for_node`. -/
def runningForNode (nodeId : String) (ops : History) : Option Operation :=
  ops.find? fun op => op.nodeId = nodeId && op.isRunning

/-- Add a record and cap the history. -/
def record (op : Operation) (ops : History) : History :=
  let all := ops ++ [op]
  if maxRecords < all.length then prune (all.length - maxRecords) all else all

/-- `begin`. -/
def begin (nodeId opType operationId : String) (now : ℤ) (ops : History) :
    Except OperationConflict History :=
  match ops.runningForNode nodeId with
  | some op => .error { nodeId := nodeId, opType := op.opType }
  | none => .ok (ops.record (.started nodeId opType operationId now))

/-- `finish`, with a status other than `running`: the first record with the id is ended. -/
def finish (operationId status lastError : String) (now : ℤ) : History → History
  | [] => []
  | op :: ops =>
      if op.operationId = operationId then op.finished status lastError now :: ops
      else op :: finish operationId status lastError now ops

/-- `all_running`. -/
def allRunning (ops : History) : List Operation := ops.filter Operation.isRunning

/-- `reap_orphans`, as far as the journal is concerned. -/
def reapOrphans (clock : ℕ → ℤ) (ops : History) : History :=
  ops.allRunning.zipIdx.foldl
    (fun ops entry =>
      finish entry.1.operationId "interrupted" "interrupted by gateway restart" (clock entry.2) ops)
    ops

end History

/-! ## Runs -/

/-- The calls that write the journal. -/
inductive JournalCall
  | begin (nodeId opType operationId : String) (now : ℤ)
  | finish (operationId status lastError : String) (now : ℤ)
  | reapOrphans (clock : ℕ → ℤ)

/-- The journal under a list of calls; a refused `begin` leaves it as it is. -/
def journalMachine : Machine History JournalCall OperationConflict where
  step ops
    | .begin nodeId opType operationId now =>
        match ops.begin nodeId opType operationId now with
        | .ok ops' => (ops', [])
        | .error conflict => (ops, [conflict])
    | .finish operationId status lastError now =>
        (ops.finish operationId status lastError now, [])
    | .reapOrphans clock => (ops.reapOrphans clock, [])

/-- No node has two records that are running. -/
def OnePerNode (ops : History) : Prop :=
  ∀ nodeId, ops.countP (fun op => op.nodeId = nodeId && op.isRunning) ≤ 1

/-- What capping does to a history: the order stays, everything that runs stays, and of the
rest the oldest are gone, as many as the history was too long. -/
structure Capped (before after : History) : Prop where
  order : after.Sublist before
  running : after.filter Operation.isRunning = before.filter Operation.isRunning
  ended : (after.filter fun op => !op.isRunning) =
    (before.filter fun op => !op.isRunning).drop (before.length - maxRecords)
  length : after.length ≤ max maxRecords (after.countP Operation.isRunning)

namespace History

/-! ## Pruning -/

theorem prune_sublist (n : ℕ) (ops : History) : (prune n ops).Sublist ops := by
  induction ops generalizing n with
  | nil => exact .slnil
  | cons op ops ih =>
      rw [prune]
      split
      · exact (ih (n - 1)).cons op
      · exact (ih n).cons_cons op

theorem filter_running_prune (n : ℕ) (ops : History) :
    (prune n ops).filter Operation.isRunning = ops.filter Operation.isRunning := by
  induction ops generalizing n with
  | nil => rfl
  | cons op ops ih =>
      rw [prune]
      cases hrun : op.isRunning with
      | true => simp [hrun, ih]
      | false =>
          by_cases hn : 0 < n
          · simp [hn, hrun, ih]
          · simp [hn, hrun, ih]

/-- The budget is spent on the oldest records that have ended. -/
theorem filter_ended_prune (n : ℕ) (ops : History) :
    ((prune n ops).filter fun op => !op.isRunning) =
      (ops.filter fun op => !op.isRunning).drop n := by
  induction ops generalizing n with
  | nil => simp [prune]
  | cons op ops ih =>
      rw [prune]
      cases hrun : op.isRunning with
      | true => simp [hrun, ih]
      | false =>
          cases n with
          | zero => simp [hrun, ih]
          | succ n => simp [hrun, ih]

/-- The two parts of a history add up. -/
theorem length_eq_running_add_ended (ops : History) :
    ops.length = ops.countP Operation.isRunning +
      (ops.filter fun op => !op.isRunning).length := by
  rw [← List.countP_eq_length_filter, List.length_eq_countP_add_countP Operation.isRunning]
  simp

theorem capped_record (op : Operation) (ops : History) : Capped (ops ++ [op]) (ops.record op) := by
  unfold record
  dsimp only
  split
  · next hlong =>
      refine ⟨prune_sublist _ _, filter_running_prune _ _, filter_ended_prune _ _, ?_⟩
      have hrunning : (prune ((ops ++ [op]).length - maxRecords) (ops ++ [op])).countP
          Operation.isRunning = (ops ++ [op]).countP Operation.isRunning := by
        rw [List.countP_eq_length_filter, filter_running_prune, ← List.countP_eq_length_filter]
      have hall := length_eq_running_add_ended (ops ++ [op])
      rw [length_eq_running_add_ended, filter_ended_prune, List.length_drop, hrunning]
      omega
  · next hshort =>
      refine ⟨.refl _, rfl, ?_, ?_⟩
      · rw [Nat.sub_eq_zero_of_le (Nat.le_of_not_lt hshort), List.drop_zero]
      · exact le_max_of_le_left (Nat.le_of_not_lt hshort)

/-! ## One record per node -/

theorem countP_running_record (op : Operation) (ops : History) (nodeId : String) :
    (ops.record op).countP (fun op => op.nodeId = nodeId && op.isRunning) =
      (ops ++ [op]).countP (fun op => op.nodeId = nodeId && op.isRunning) := by
  rw [← List.countP_filter, ← List.countP_filter, (capped_record op ops).running]

theorem onePerNode_begin {nodeId opType operationId : String} {now : ℤ} {ops ops' : History}
    (h : OnePerNode ops) (hbegin : ops.begin nodeId opType operationId now = .ok ops') :
    OnePerNode ops' := by
  unfold begin at hbegin
  cases hfind : ops.runningForNode nodeId with
  | some op =>
      rw [hfind] at hbegin
      cases hbegin
  | none =>
      rw [hfind] at hbegin
      cases hbegin
      intro node
      rw [countP_running_record, List.countP_append]
      by_cases hnode : nodeId = node
      · subst hnode
        have hnone : ops.countP (fun op => op.nodeId = nodeId && op.isRunning) = 0 := by
          rw [List.countP_eq_zero]
          exact List.find?_eq_none.mp hfind
        rw [hnone, Nat.zero_add]
        exact List.countP_le_length
      · simpa [hnode, Operation.started] using h node

/-- Ending a record makes no other run. -/
theorem countP_finish_le (operationId status lastError : String) (now : ℤ) (ops : History)
    (nodeId : String) :
    (ops.finish operationId status lastError now).countP
        (fun op => op.nodeId = nodeId && op.isRunning) ≤
      ops.countP (fun op => op.nodeId = nodeId && op.isRunning) := by
  induction ops with
  | nil => exact le_refl _
  | cons op ops ih =>
      rw [finish]
      split
      · simp [Operation.finished, Operation.isRunning, List.countP_cons]
      · simpa [List.countP_cons] using ih

theorem length_finish (operationId status lastError : String) (now : ℤ) (ops : History) :
    (ops.finish operationId status lastError now).length = ops.length := by
  induction ops with
  | nil => rfl
  | cons op ops ih =>
      rw [finish]
      split
      · rfl
      · simp [ih]

/-- What `finish` does not change, `reap_orphans` does not change. -/
theorem reapOrphans_induction {I : History → Prop} (clock : ℕ → ℤ) {ops : History} (h : I ops)
    (hfinish : ∀ operationId status lastError now ops, I ops →
      I (History.finish operationId status lastError now ops)) : I (ops.reapOrphans clock) := by
  unfold reapOrphans
  generalize ops.allRunning.zipIdx = entries
  induction entries generalizing ops with
  | nil => exact h
  | cons entry entries ih => exact ih (hfinish _ _ _ _ _ h)

/-- A `begin` is refused, or it adds its record and caps the history. -/
theorem next_begin (ops : History) (nodeId opType operationId : String) (now : ℤ) :
    journalMachine.next ops (.begin nodeId opType operationId now) = ops ∨
      ops.begin nodeId opType operationId now =
        .ok (journalMachine.next ops (.begin nodeId opType operationId now)) := by
  cases hbegin : ops.begin nodeId opType operationId now with
  | ok ops' => exact Or.inr (by simp [Machine.next, journalMachine, hbegin])
  | error conflict => exact Or.inl (by simp [Machine.next, journalMachine, hbegin])

theorem begin_eq_ok {nodeId opType operationId : String} {now : ℤ} {ops ops' : History} :
    ops.begin nodeId opType operationId now = .ok ops' ↔
      ops.runningForNode nodeId = none ∧
        ops' = ops.record (.started nodeId opType operationId now) := by
  unfold begin
  cases ops.runningForNode nodeId with
  | some op => simp
  | none => simp [eq_comm]

theorem onePerNode_next {ops : History} (h : OnePerNode ops) (call : JournalCall) :
    OnePerNode (journalMachine.next ops call) := by
  cases call with
  | begin nodeId opType operationId now =>
      rcases next_begin ops nodeId opType operationId now with hrefused | hbegin
      · rw [hrefused]
        exact h
      · exact onePerNode_begin h hbegin
  | finish operationId status lastError now =>
      exact fun nodeId => (countP_finish_le _ _ _ _ _ nodeId).trans (h nodeId)
  | reapOrphans clock =>
      apply reapOrphans_induction (I := OnePerNode) clock h
      exact fun _ _ _ _ _ h nodeId => (countP_finish_le _ _ _ _ _ nodeId).trans (h nodeId)

/-! ## The length -/

/-- Only a `begin` changes the length, and it caps it. -/
theorem length_next (ops : History) (call : JournalCall) :
    (journalMachine.next ops call).length = ops.length ∨
      (journalMachine.next ops call).length ≤
        max maxRecords ((journalMachine.next ops call).countP Operation.isRunning) := by
  cases call with
  | begin nodeId opType operationId now =>
      rcases next_begin ops nodeId opType operationId now with hrefused | hbegin
      · exact Or.inl (by rw [hrefused])
      · right
        rw [(begin_eq_ok.mp hbegin).2]
        exact (capped_record _ ops).length
  | finish operationId status lastError now =>
      exact Or.inl (length_finish _ _ _ _ _)
  | reapOrphans clock =>
      left
      apply reapOrphans_induction (I := fun ops' => ops'.length = ops.length) clock rfl
      intro operationId status lastError now ops' h
      rw [length_finish, h]

/-- A history is as short as the cap, or as the number of records that ran at some time. -/
theorem length_run (calls : List JournalCall) :
    (journalMachine.run [] calls).length ≤ maxRecords ∨
      ∃ earlier, earlier <+: calls ∧ (journalMachine.run [] calls).length ≤
        (journalMachine.run [] earlier).countP Operation.isRunning := by
  induction calls using List.reverseRecOn with
  | nil => exact Or.inl (Nat.zero_le _)
  | append_singleton calls call ih =>
      rw [Machine.run_append]
      rcases length_next (journalMachine.run [] calls) call with hsame | hcapped
      · have hlen : (journalMachine.run (journalMachine.run [] calls) [call]).length =
            (journalMachine.run [] calls).length := hsame
        rw [hlen]
        rcases ih with hshort | ⟨earlier, hprefix, hle⟩
        · exact Or.inl hshort
        · exact Or.inr ⟨earlier, hprefix.trans (List.prefix_append _ _), hle⟩
      · rcases le_max_iff.mp hcapped with hshort | hrunning
        · exact Or.inl hshort
        · refine Or.inr ⟨calls ++ [call], List.prefix_rfl, ?_⟩
          rw [Machine.run_append]
          exact hrunning

end History

/-- Whatever calls were made, each node has at most one record that is running; the next
`begin` keeps the order and all that runs and drops the oldest records that have ended, so
that the history is then no longer than the cap or the number of records that run; and at
any time it is no longer than the cap or the number of records that ran at once so far. -/
theorem journal_history (calls : List JournalCall) :
    let ops := journalMachine.run [] calls
    OnePerNode ops ∧
      (∀ nodeId opType operationId now ops', ops.begin nodeId opType operationId now = .ok ops' →
        Capped (ops ++ [.started nodeId opType operationId now]) ops') ∧
      (ops.length ≤ maxRecords ∨
        ∃ earlier, earlier <+: calls ∧
          ops.length ≤ (journalMachine.run [] earlier).countP Operation.isRunning) := by
  intro ops
  refine ⟨?_, ?_, History.length_run calls⟩
  · apply journalMachine.run_invariant_of_step (I := OnePerNode)
    · exact fun ops call h => History.onePerNode_next h call
    · exact fun nodeId => Nat.zero_le 1
  · intro nodeId opType operationId now ops' hbegin
    rw [(History.begin_eq_ok.mp hbegin).2]
    exact History.capped_record _ ops

/-! ## More nodes than the cap -/

theorem prune_of_running (n : ℕ) {ops : History} (h : ∀ op ∈ ops, op.isRunning = true) :
    History.prune n ops = ops := by
  induction ops with
  | nil => rfl
  | cons op ops ih =>
      rw [History.prune, h op List.mem_cons_self, ih fun op' hop' => h op' (List.mem_cons_of_mem _ hop')]
      simp

/-- The record of an operation that was just begun on a node. -/
def provisioning (node : String) : Operation := .started node "provision" node 0

/-- One operation on each of some nodes. -/
def beginEach (nodes : List String) : List JournalCall :=
  nodes.map fun node => .begin node "provision" node 0

/-- A history in which everything runs takes one more record as it is. -/
theorem next_begin_of_running {nodes : List String} {node : String} (h : node ∉ nodes) :
    journalMachine.next (nodes.map provisioning) (.begin node "provision" node 0) =
      (nodes ++ [node]).map provisioning := by
  have hfree : History.runningForNode node (nodes.map provisioning) = none := by
    rw [History.runningForNode, List.find?_eq_none]
    intro op hop
    obtain ⟨node', hmem, rfl⟩ := List.mem_map.mp hop
    have hne : node' ≠ node := fun heq => h (heq ▸ hmem)
    simp [provisioning, Operation.started, hne]
  have hrunning : ∀ op ∈ nodes.map provisioning ++ [provisioning node], op.isRunning = true := by
    intro op hop
    rw [← List.map_singleton, ← List.map_append] at hop
    obtain ⟨node', -, rfl⟩ := List.mem_map.mp hop
    rfl
  have hrecord : History.record (provisioning node) (nodes.map provisioning) =
      (nodes ++ [node]).map provisioning := by
    rw [History.record, List.map_append, List.map_singleton]
    split
    · exact prune_of_running _ hrunning
    · rfl
  rw [← hrecord]
  simp only [Machine.next, journalMachine, History.begin, hfree]
  rfl

/-- Operations of different nodes are all recorded. -/
theorem run_beginEach {nodes : List String} (h : nodes.Nodup) :
    journalMachine.run [] (beginEach nodes) = nodes.map provisioning := by
  induction nodes using List.reverseRecOn with
  | nil => rfl
  | append_singleton nodes node ih =>
      obtain ⟨hnodes, -, hnew⟩ := List.nodup_append.mp h
      have hnotin : node ∉ nodes := fun hmem => hnew node hmem node List.mem_cons_self rfl
      rw [beginEach, List.map_append, Machine.run_append, ← beginEach, ih hnodes]
      exact next_begin_of_running hnotin

/-- The names of one node more than the cap. -/
def manyNodes : List String :=
  (List.range (maxRecords + 1)).map fun i => String.ofList (List.replicate i 'n')

theorem manyNodes_nodup : manyNodes.Nodup := by
  apply List.Nodup.map_on _ List.nodup_range
  intro i _ j _ heq
  have hchars := congrArg String.toList heq
  simp only [String.toList_ofList] at hchars
  simpa using congrArg List.length hchars

/-- When more nodes are busy than the cap and one of them ends, the history is longer than
the cap and than what runs. -/
theorem ended_record_exceeds_cap :
    ¬ ∀ calls, (journalMachine.run [] calls).length ≤
      max maxRecords ((journalMachine.run [] calls).countP Operation.isRunning) := by
  intro hclaim
  have hbound := hclaim (beginEach manyNodes ++ [.finish "" "succeeded" "" 0])
  rw [Machine.run_append, run_beginEach manyNodes_nodup] at hbound
  exact absurd hbound (by decide +kernel)

end CameraStack.Operations
