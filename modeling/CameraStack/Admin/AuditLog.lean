/-
# The audit log

Every action of an administrator is a line of `audit.jsonl`.  A file that has grown too large
becomes a numbered backup, behind which the older ones move up by one number, and the oldest is
deleted.

The moves are a chain that stops at the first call that fails, and the next rotation starts from
whatever numbering is left.  No entry is lost by that: a backup moves only to a number that has just
become free.
-/

import CameraStack.Lib.PyNumber
import CameraStack.Lib.Machine
import Mathlib.Data.List.Infix

namespace CameraStack.Admin.AuditLog

open CameraStack.Lib

/-! ## The files -/

section Files

variable {α : Type}

/-- The directory: file 0 is `audit.jsonl`, file `i` its backup `audit.jsonl.i`. -/
abbrev Directory (α : Type) := ℕ → Option (List α)

/-- `unlink`. -/
def Directory.unlink (d : Directory α) (i : ℕ) : Directory α := Function.update d i none

/-- `rename`: what was there under the new number is gone. -/
def Directory.rename (d : Directory α) (src dst : ℕ) : Directory α :=
  Function.update (Function.update d dst (d src)) src none

/-- The calls of the operating system that fail. -/
structure Faults where
  mkdir : Bool
  unlink : ℕ → Bool
  rename : ℕ → Bool

/-- What a step is seen to do. -/
inductive Change (α : Type)
  | deleted (i : ℕ)
  | appended (entry : α)

/-- The loop of `_rotate_if_needed`, from a number downwards, and the last `rename`.  A call that
fails ends it. -/
def moveUp (keep : ℕ) (f : Faults) : ℕ → Directory α → Directory α × List (Change α)
  | 0, d => if f.rename 0 then (d, []) else (d.rename 0 1, [])
  | i + 1, d =>
      if i + 1 = keep ∧ (d (i + 1)).isSome then
        if f.unlink (i + 1) then (d, [])
        else ((moveUp keep f i (d.unlink (i + 1))).1,
          .deleted (i + 1) :: (moveUp keep f i (d.unlink (i + 1))).2)
      else if (d (i + 1)).isSome then
        if f.rename (i + 1) then (d, []) else moveUp keep f i (d.rename (i + 1) (i + 2))
      else moveUp keep f i d

/-- `_rotate_if_needed`. -/
def rotateIfNeeded (bytes : α → ℕ) (keep : ℕ) (rotateAt : ℤ) (f : Faults) (d : Directory α) :
    Directory α × List (Change α) :=
  match d 0 with
  | none => (d, [])
  | some entries =>
      if ((entries.map bytes).sum : ℤ) < rotateAt then (d, []) else moveUp keep f keep d

/-- What comes of opening the file and writing to it: nothing, an empty file where there was none,
or a whole entry. -/
inductive Append (α : Type)
  | refused
  | opened
  | written (entry : α)

/-- The append. -/
def Directory.append (d : Directory α) : Append α → Directory α × List (Change α)
  | .refused => (d, [])
  | .opened => (Function.update d 0 (some ((d 0).getD [])), [])
  | .written entry => (Function.update d 0 (some ((d 0).getD [] ++ [entry])), [.appended entry])

/-- The locked part of `emit`. -/
def write (bytes : α → ℕ) (keep : ℕ) (rotateAt : ℤ) (f : Faults) (a : Append α)
    (d : Directory α) : Directory α × List (Change α) :=
  if f.mkdir then (d, [])
  else
    (((rotateIfNeeded bytes keep rotateAt f d).1.append a).1,
      (rotateIfNeeded bytes keep rotateAt f d).2 ++
        ((rotateIfNeeded bytes keep rotateAt f d).1.append a).2)

/-! ### What the files hold -/

/-- The entries of the files below a number, those of the highest one first. -/
def Directory.contents (d : Directory α) : ℕ → List α
  | 0 => []
  | n + 1 => (d n).getD [] ++ contents d n

/-- The entries among the changes. -/
def appended : List (Change α) → List α :=
  List.filterMap fun
    | .deleted _ => none
    | .appended entry => some entry

/-- A step from one directory to another adds the entries it appends, and removes at most those of
the oldest backup, which it then deletes. -/
structure RemovesOldest (keep : ℕ) (d d' : Directory α) (changes : List (Change α)) : Prop where
  deleted : ∀ i, .deleted i ∈ changes → i = keep
  entries : ∃ removed kept, d.contents (keep + 1) = removed ++ kept ∧
    d'.contents (keep + 1) = kept ++ appended changes ∧
      (removed = [] ∨ .deleted keep ∈ changes ∧ removed = (d keep).getD [])

@[simp] theorem appended_nil : appended ([] : List (Change α)) = [] := rfl

theorem appended_append (cs cs' : List (Change α)) :
    appended (cs ++ cs') = appended cs ++ appended cs' := List.filterMap_append

theorem contents_congr {d d' : Directory α} {n : ℕ} (h : ∀ i < n, d i = d' i) :
    d.contents n = d'.contents n := by
  induction n with
  | zero => rfl
  | succ n ih =>
      rw [Directory.contents, Directory.contents, h n (Nat.lt_succ_self n),
        ih fun i hi => h i (hi.trans (Nat.lt_succ_self n))]

@[simp] theorem rename_src (d : Directory α) (src dst : ℕ) : d.rename src dst src = none :=
  Function.update_self src _ _

theorem rename_dst (d : Directory α) {src dst : ℕ} (h : dst ≠ src) :
    d.rename src dst dst = d src := by
  rw [Directory.rename, Function.update_of_ne h, Function.update_self]

theorem rename_of_ne (d : Directory α) {src dst i : ℕ} (hsrc : i ≠ src) (hdst : i ≠ dst) :
    d.rename src dst i = d i := by
  rw [Directory.rename, Function.update_of_ne hsrc, Function.update_of_ne hdst]

/-- A move to the next number, where that is free, keeps every entry in its place. -/
theorem contents_rename {d : Directory α} {i n : ℕ} (hfree : d (i + 1) = none) (hn : i + 2 ≤ n) :
    (d.rename i (i + 1)).contents n = d.contents n := by
  induction n, hn using Nat.le_induction with
  | base =>
      have hbelow : (d.rename i (i + 1)).contents i = d.contents i :=
        contents_congr fun j hj => rename_of_ne d hj.ne (by omega)
      simp only [Directory.contents, rename_src, rename_dst d (Nat.succ_ne_self i), hfree, hbelow,
        Option.getD_none, List.nil_append]
  | succ n hn ih =>
      rw [Directory.contents, Directory.contents, ih, rename_of_ne d (by omega) (by omega)]

/-! ### The chain of moves -/

/-- Below the oldest backup the chain only moves files, each to a number that is free by then. -/
theorem moveUp_of_lt {keep i : ℕ} (f : Faults) {d : Directory α} (hi : i < keep)
    (hfree : d (i + 1) = none) (hnone : ∀ j > keep, d j = none) :
    (∀ j > keep, (moveUp keep f i d).1 j = none) ∧ (moveUp keep f i d).2 = [] ∧
      (moveUp keep f i d).1.contents (keep + 1) = d.contents (keep + 1) := by
  induction i generalizing d with
  | zero =>
      rw [moveUp]
      split_ifs
      · exact ⟨hnone, rfl, rfl⟩
      · refine ⟨fun j hj => ?_, rfl, contents_rename hfree (by omega)⟩
        exact (rename_of_ne d (by omega) (by omega)).trans (hnone j hj)
  | succ i ih =>
      rw [moveUp, if_neg fun h => hi.ne h.1]
      split_ifs with hthere hfails
      · exact ⟨hnone, rfl, rfl⟩
      · have hrest : ∀ j > keep, d.rename (i + 1) (i + 2) j = none := fun j hj => by
          rw [rename_of_ne d (by omega) (by omega)]
          exact hnone j hj
        obtain ⟨hbeyond, hchanges, hcontents⟩ :=
          ih (Nat.lt_of_succ_lt hi) (rename_src d (i + 1) (i + 2)) hrest
        exact ⟨hbeyond, hchanges, hcontents.trans (contents_rename hfree (by omega))⟩
      · exact ih (Nat.lt_of_succ_lt hi) (Option.not_isSome_iff_eq_none.mp hthere) hnone

/-- The whole chain removes at most the entries of the oldest backup. -/
theorem moveUp_removesOldest {keep : ℕ} (hkeep : 1 ≤ keep) (f : Faults) {d : Directory α}
    (hnone : ∀ j > keep, d j = none) :
    (∀ j > keep, (moveUp keep f keep d).1 j = none) ∧
      RemovesOldest keep d (moveUp keep f keep d).1 (moveUp keep f keep d).2 := by
  obtain ⟨i, rfl⟩ := Nat.exists_eq_add_of_le' hkeep
  rw [moveUp]
  by_cases hthere : (d (i + 1)).isSome
  · rw [if_pos ⟨rfl, hthere⟩]
    split_ifs with hfails
    · exact ⟨hnone, nofun, [], _, rfl, (List.append_nil _).symm, .inl rfl⟩
    · have hrest : ∀ j > i + 1, d.unlink (i + 1) j = none := fun j hj => by
        rw [Directory.unlink, Function.update_of_ne (by omega)]
        exact hnone j hj
      obtain ⟨hbeyond, hchanges, hcontents⟩ := moveUp_of_lt f (Nat.lt_succ_self i)
        (Function.update_self (i + 1) none d) hrest
      have hkept : (d.unlink (i + 1)).contents (i + 2) = d.contents (i + 1) := by
        rw [Directory.contents, Directory.unlink, Function.update_self, Option.getD_none,
          List.nil_append]
        exact contents_congr fun j hj => Function.update_of_ne hj.ne _ _
      refine ⟨hbeyond, ?_, (d (i + 1)).getD [], d.contents (i + 1), rfl, ?_,
        .inr ⟨List.mem_cons_self, rfl⟩⟩
      · rw [hchanges]
        intro j hj
        exact Change.deleted.inj (List.mem_singleton.mp hj)
      · rw [hcontents, hchanges, hkept]
        exact (List.append_nil _).symm
  · have hfree : d (i + 1) = none := Option.not_isSome_iff_eq_none.mp hthere
    rw [if_neg fun h => hthere h.2, if_neg hthere]
    obtain ⟨hbeyond, hchanges, hcontents⟩ := moveUp_of_lt f (Nat.lt_succ_self i) hfree hnone
    refine ⟨hbeyond, ?_, [], d.contents (i + 2), rfl, ?_, .inl rfl⟩
    · rw [hchanges]
      exact nofun
    · rw [hcontents, hchanges]
      exact (List.append_nil _).symm

/-! ### A step -/

theorem RemovesOldest.refl (keep : ℕ) (d : Directory α) : RemovesOldest keep d d [] :=
  ⟨nofun, [], _, rfl, (List.append_nil _).symm, .inl rfl⟩

theorem rotateIfNeeded_removesOldest (bytes : α → ℕ) {keep : ℕ} (hkeep : 1 ≤ keep) (rotateAt : ℤ)
    (f : Faults) {d : Directory α} (hnone : ∀ j > keep, d j = none) :
    (∀ j > keep, (rotateIfNeeded bytes keep rotateAt f d).1 j = none) ∧
      RemovesOldest keep d (rotateIfNeeded bytes keep rotateAt f d).1
        (rotateIfNeeded bytes keep rotateAt f d).2 := by
  unfold rotateIfNeeded
  cases d 0 with
  | none => exact ⟨hnone, .refl keep d⟩
  | some entries =>
      dsimp only
      split_ifs
      · exact ⟨hnone, .refl keep d⟩
      · exact moveUp_removesOldest hkeep f hnone

theorem append_of_pos (d : Directory α) (a : Append α) {i : ℕ} (h : 0 < i) :
    (d.append a).1 i = d i := by
  cases a with
  | refused => rfl
  | opened => exact Function.update_of_ne h.ne' (some _) d
  | written entry => exact Function.update_of_ne h.ne' (some _) d

/-- What is appended comes last. -/
theorem contents_append (d : Directory α) (a : Append α) (n : ℕ) :
    (d.append a).1.contents (n + 1) = d.contents (n + 1) ++ appended (d.append a).2 := by
  induction n with
  | zero =>
      cases a with
      | refused => exact (List.append_nil _).symm
      | opened =>
          simp only [Directory.append, Directory.contents, Function.update_self, Option.getD_some,
            appended_nil, List.append_nil]
      | written entry =>
          simp only [Directory.append, Directory.contents, Function.update_self, Option.getD_some,
            List.append_nil]
          rfl
  | succ n ih =>
      have hother : (d.append a).1 (n + 1) = d (n + 1) := append_of_pos d a (Nat.succ_pos n)
      rw [Directory.contents, ih, hother, Directory.contents.eq_def d (n + 1 + 1)]
      exact (List.append_assoc _ _ _).symm

theorem append_changes (d : Directory α) (a : Append α) (i : ℕ) :
    .deleted i ∉ (d.append a).2 := by
  cases a with
  | refused => exact nofun
  | opened => exact nofun
  | written entry => exact fun h => nomatch List.mem_singleton.mp h

/-- The step lemma: no backup gets a number beyond the last, and only the oldest is removed. -/
theorem write_removesOldest (bytes : α → ℕ) {keep : ℕ} (hkeep : 1 ≤ keep) (rotateAt : ℤ)
    (f : Faults) (a : Append α) {d : Directory α} (hnone : ∀ j > keep, d j = none) :
    (∀ j > keep, (write bytes keep rotateAt f a d).1 j = none) ∧
      RemovesOldest keep d (write bytes keep rotateAt f a d).1
        (write bytes keep rotateAt f a d).2 := by
  rw [write]
  split_ifs
  · exact ⟨hnone, .refl keep d⟩
  · obtain ⟨hbeyond, hdeleted, removed, kept, hbefore, hafter, hremoved⟩ :=
      rotateIfNeeded_removesOldest bytes hkeep rotateAt f hnone
    refine ⟨fun j hj => ?_, fun i hi => ?_, removed, kept, hbefore, ?_, ?_⟩
    · exact (append_of_pos _ a (Nat.zero_lt_of_lt hj)).trans (hbeyond j hj)
    · rcases List.mem_append.mp hi with hi | hi
      · exact hdeleted i hi
      · exact absurd hi (append_changes _ a i)
    · rw [contents_append, hafter, appended_append, List.append_assoc]
    · exact hremoved.imp_right (And.imp_left (List.mem_append_left _))

theorem appended_moveUp (keep : ℕ) (f : Faults) (n : ℕ) (d : Directory α) :
    appended (moveUp keep f n d).2 = [] := by
  induction n generalizing d with
  | zero =>
      rw [moveUp]
      split_ifs
      · rfl
      · rfl
  | succ n ih =>
      rw [moveUp]
      split_ifs
      · rfl
      · exact ih (d.unlink (n + 1))
      · rfl
      · exact ih (d.rename (n + 1) (n + 2))
      · exact ih d

/-- A rotation appends nothing. -/
theorem appended_rotateIfNeeded (bytes : α → ℕ) (keep : ℕ) (rotateAt : ℤ) (f : Faults)
    (d : Directory α) : appended (rotateIfNeeded bytes keep rotateAt f d).2 = [] := by
  unfold rotateIfNeeded
  cases d 0 with
  | none => rfl
  | some entries =>
      dsimp only
      split_ifs
      · rfl
      · exact appended_moveUp keep f keep d

end Files

/-! ## Entries -/

section Entries

variable {F : Type} [FloatText F]

/-- The arguments of `emit`, and the time it reads. -/
structure Entry (F : Type) where
  ts : Text
  action : Text
  target : Text
  outcome : Text
  sourceIp : Option Text
  requestId : Option Text
  user : Option Text
  details : Option (List (Text × JsonValue F))

/-- `value or default`. -/
def orDefault (value : Option Text) (default : Text) : Text :=
  match value with
  | none => default
  | some [] => default
  | some (c :: cs) => c :: cs

/-- The members of an entry. -/
def Entry.members (e : Entry F) : List (Text × JsonValue F) :=
  [("ts".toList, .str e.ts), ("action".toList, .str e.action), ("target".toList, .str e.target),
    ("outcome".toList, .str e.outcome),
    ("source_ip".toList, .str (orDefault e.sourceIp "unknown".toList)),
    ("request_id".toList, .str (orDefault e.requestId "-".toList)),
    ("user".toList, .str (orDefault e.user "anon".toList))] ++
  match e.details with
  | none => []
  | some [] => []
  | some (member :: members) => [("details".toList, .obj (member :: members))]

/-- `json.dumps(entry, separators=(",", ":"))`. -/
def lineStyle : JsonStyle := { JsonStyle.compact with ascii := true, sortKeys := false }

/-- The line of an entry; `none` where it cannot be written as JSON. -/
def Entry.line (e : Entry F) : Option Text :=
  (lineStyle.dumps (.obj e.members)).map (· ++ ['\n'])

/-- A call of `emit`: its entry, the calls of the operating system that fail, and how far the append
comes. -/
structure Emit (F : Type) where
  entry : Entry F
  faults : Faults
  opens : Bool
  writes : Bool

/-- The append of a call: the file is opened before the line is made. -/
def Emit.append (e : Emit F) : Append Text :=
  if e.opens then
    if e.writes then e.entry.line.elim .opened .written else .opened
  else .refused

/-- The line that a call appends. -/
def Emit.written (e : Emit F) : Option Text :=
  if !e.faults.mkdir && e.opens && e.writes then e.entry.line else none

/-- `emit`: the lines are ASCII. -/
def logger (F : Type) [FloatText F] (keep : ℕ) (rotateAt : ℤ) :
    Machine (Directory Text) (Emit F) (Change Text) where
  step d e := write List.length keep rotateAt e.faults e.append d

/-- An empty directory. -/
def empty : Directory Text := fun _ => none

theorem appended_emits (keep : ℕ) (rotateAt : ℤ) (d : Directory Text) (e : Emit F) :
    appended ((logger F keep rotateAt).emits d e) = e.written.toList := by
  obtain ⟨entry, ⟨mkdir, unlink, rename⟩, opens, writes⟩ := e
  show appended (write List.length keep rotateAt _ _ d).2 = _
  rw [write]
  cases mkdir with
  | true => rfl
  | false =>
      rw [if_neg Bool.false_ne_true, appended_append, appended_rotateIfNeeded, List.nil_append]
      cases opens with
      | false => rfl
      | true =>
          cases writes with
          | false => rfl
          | true =>
              show appended (Directory.append _ (entry.line.elim .opened .written)).2 =
                entry.line.toList
              cases entry.line with
              | none => rfl
              | some line => rfl

/-- What a run appends is what its calls append. -/
theorem appended_trace (keep : ℕ) (rotateAt : ℤ) (d : Directory Text) (calls : List (Emit F)) :
    appended ((logger F keep rotateAt).trace d calls) = calls.filterMap Emit.written := by
  induction calls generalizing d with
  | nil => rfl
  | cons e calls ih =>
      rw [Machine.trace_cons, appended_append, appended_emits, ih, List.filterMap_cons]
      cases e.written with
      | none => rfl
      | some line => rfl

/-- Along any run, what the files hold is the end of what has been appended. -/
theorem run_suffix {keep : ℕ} (hkeep : 1 ≤ keep) (rotateAt : ℤ) {d : Directory Text}
    (hnone : ∀ j > keep, d j = none) (calls : List (Emit F)) :
    ((logger F keep rotateAt).run d calls).contents (keep + 1) <:+
      d.contents (keep + 1) ++ appended ((logger F keep rotateAt).trace d calls) := by
  induction calls generalizing d with
  | nil =>
      rw [Machine.trace_nil, appended_nil, List.append_nil]
      exact List.suffix_refl _
  | cons e calls ih =>
      obtain ⟨hbeyond, -, removed, kept, hbefore, hafter, -⟩ :=
        write_removesOldest List.length hkeep rotateAt e.faults e.append hnone
      rw [Machine.run_cons, Machine.trace_cons, appended_append, hbefore]
      refine (ih hbeyond).trans ⟨removed, ?_⟩
      rw [hafter, List.append_assoc, List.append_assoc]
      rfl

/-- For any number of backups and any size, any calls and any failures: the backups and the log hold
the last of what has been appended, no backup has a number beyond the last, and a step removes
entries only by deleting the oldest backup. -/
theorem rotation_removes_oldest {keep : ℕ} (hkeep : 1 ≤ keep) (rotateAt : ℤ)
    (calls : List (Emit F)) :
    ((logger F keep rotateAt).run empty calls).contents (keep + 1) <:+
        calls.filterMap Emit.written ∧
      (∀ i > keep, (logger F keep rotateAt).run empty calls i = none) ∧
      (logger F keep rotateAt).Along
        (fun d e => RemovesOldest keep d ((logger F keep rotateAt).next d e)
          ((logger F keep rotateAt).emits d e)) empty calls := by
  have hstep : ∀ (d : Directory Text) (e : Emit F), (∀ j > keep, d j = none) →
      (∀ j > keep, (logger F keep rotateAt).next d e j = none) ∧
        RemovesOldest keep d ((logger F keep rotateAt).next d e)
          ((logger F keep rotateAt).emits d e) :=
    fun d e h => write_removesOldest List.length hkeep rotateAt e.faults e.append h
  have hempty : ∀ j > keep, empty j = none := fun _ _ => rfl
  refine ⟨?_, ?_, ?_⟩
  · have hcontents : ∀ n, empty.contents n = [] := fun n => by
      induction n with
      | zero => rfl
      | succ n ih => exact ih
    have hsuffix := run_suffix hkeep rotateAt hempty calls
    rwa [hcontents, List.nil_append, appended_trace] at hsuffix
  · exact (logger F keep rotateAt).run_invariant_of_step (I := fun d => ∀ j > keep, d j = none)
      (fun d e h => (hstep d e h).1) hempty calls
  · exact (logger F keep rotateAt).along_of_invariant (G := fun _ _ => True)
      (I := fun d => ∀ j > keep, d j = none) (fun d e h _ => (hstep d e h).1)
      (fun d e h _ => (hstep d e h).2)
      ((logger F keep rotateAt).along_of_forall (fun _ _ _ => trivial) empty) hempty

end Entries

/-- A call whose rename of a backup fails, or does not. -/
def sampleCall (renameFails : Bool) : Emit WholeFloat where
  entry := { ts := "2026-01-01T00:00:00+00:00".toList, action := "node.register".toList,
             target := "cam55".toList, outcome := "success".toList, sourceIp := none,
             requestId := none, user := some "admin".toList, details := none }
  faults := { mkdir := false, unlink := fun _ => false, rename := fun i => renameFails && i == 1 }
  opens := true
  writes := true

/-- Four calls; the third one cannot move the backup. -/
def sampleCalls : List (Emit WholeFloat) :=
  [sampleCall false, sampleCall false, sampleCall true, sampleCall false]

theorem rotation_removes_oldest_sample :
    ((logger WholeFloat 2 100).run empty sampleCalls).contents 3 <:+
        sampleCalls.filterMap Emit.written ∧
      (∀ i > 2, (logger WholeFloat 2 100).run empty sampleCalls i = none) ∧
      (logger WholeFloat 2 100).Along
        (fun d e => RemovesOldest 2 d ((logger WholeFloat 2 100).next d e)
          ((logger WholeFloat 2 100).emits d e)) empty sampleCalls :=
  @rotation_removes_oldest WholeFloat _ 2 (by decide) 100 sampleCalls

end CameraStack.Admin.AuditLog
