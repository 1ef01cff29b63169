/-
# The ladder's state file, byte by byte

`load_ladder_state` reads at most `ladderReadBytes` bytes, decodes them, and takes the values of the
document over one by one, into levels that are already there.  It answers a missing file, a text
that is no JSON and a value that is rejected with level zero, and lets every other exception out.
-/

import CameraStack.Fdir.Persistence
import CameraStack.Lib.JsonCutOff
import CameraStack.Lib.JsonRoundTrip
import CameraStack.Lib.PyNumber
import CameraStack.Lib.Utf8

namespace CameraStack.Fdir.LadderFile

open CameraStack.Lib

/-! ## Exceptions -/

/-- `except (json.JSONDecodeError, ValueError, KeyError)`; a `UnicodeDecodeError` is a
`ValueError`. -/
def handled : PyException → Bool
  | .jsonDecode | .unicodeDecode | .value | .key => true
  | .type | .attribute | .overflow | .recursion => false

variable {F : Type}

/-- `len(value)`. -/
def len : JsonValue F → Except PyException ℕ
  | .str s => .ok s.length
  | .arr items => .ok items.length
  | .obj members => .ok members.length
  | .null | .bool _ | .int _ | .float _ => .error .type

/-- `value[i]` of a value that has a length, where `i` is smaller: a dictionary has no integer as
a key. -/
def item (i : ℕ) : JsonValue F → Except PyException (JsonValue F)
  | .str s =>
      match s[i]? with
      | some c => .ok (.str [c])
      | none => .error .value
  | .arr items =>
      match items[i]? with
      | some entry => .ok entry
      | none => .error .value
  | .obj _ => .error .key
  | .null | .bool _ | .int _ | .float _ => .error .type

/-- `raw.get(key, default)`. -/
def get (key : Text) (default : JsonValue F) : JsonValue F → Except PyException (JsonValue F)
  | .obj members => .ok ((members.lookup key).getD default)
  | _ => .error .attribute

/-! ## Loading -/

/-- The runtime state of a level, as the process holds it. -/
structure Counters (F : Type) where
  attempts : ℤ
  lastAttempt : PyFloat F

/-- The entry of a saved list at the place of a level, converted; a list that is too short leaves
the level its own. -/
def entry {A : Type} (convert : JsonValue F → Except PyException A) (saved : JsonValue F) (i : ℕ)
    (own : A) : Except PyException A := do
  let n ← len saved
  if i < n then convert (← item i saved) else pure own

section Load

variable [FloatNumber F]

/-- One round of the loop over the levels.  The attempts are taken over before the time is
looked at. -/
def restoreLevel (attempts last : JsonValue F) (i : ℕ) (lv : Counters F) :
    Counters F × Except PyException Unit :=
  match entry toInt attempts i lv.attempts with
  | .error e => (lv, .error e)
  | .ok n =>
      match entry toFloat last i lv.lastAttempt with
      | .error e => ({ lv with attempts := n }, .error e)
      | .ok t => ({ attempts := n, lastAttempt := t }, .ok ())

/-- The loop over the levels, from the level at index `i` on. -/
def restoreLevels (attempts last : JsonValue F) :
    ℕ → List (Counters F) → List (Counters F) × Except PyException Unit
  | _, [] => ([], .ok ())
  | i, lv :: levels =>
      match restoreLevel attempts last i lv with
      | (lv, .error e) => (lv :: levels, .error e)
      | (lv, .ok ()) =>
          let (levels, result) := restoreLevels attempts last (i + 1) levels
          (lv :: levels, result)

/-- What `load_ladder_state` does with a document, before it handles an exception. -/
def loadDocument (levels : List (Counters F)) (raw : JsonValue F) :
    List (Counters F) × Except PyException (ℤ × ℤ) :=
  match get "level".toList (.int 0) raw >>= toInt with
  | .error e => (levels, .error e)
  | .ok savedLevel =>
      match get "total_recoveries".toList (.int 0) raw >>= toInt with
      | .error e => (levels, .error e)
      | .ok total =>
          match get "attempts".toList (.arr []) raw, get "last_attempt".toList (.arr []) raw with
          | .ok attempts, .ok last =>
              match restoreLevels attempts last 0 levels with
              | (levels, .error e) => (levels, .error e)
              | (levels, .ok ()) =>
                  (levels, .ok (max 0 (min savedLevel levels.length), total))
          | .error e, _ | _, .error e => (levels, .error e)

/-- `json.loads(raw_bytes.decode())`. -/
def readDocument (limit : ℕ) (bytes : List UInt8) : Except PyException (JsonValue F) :=
  match decodeUtf8 bytes with
  | none => .error .unicodeDecode
  | some text =>
      match jsonLoads limit text with
      | .ok raw => .ok raw
      | .error .decode => .error .jsonDecode
      | .error .tooLong => .error .value
      | .error .tooDeep => .error .recursion

/-- `load_ladder_state`: the levels behind it, and what it returns or raises. -/
def loadLadderFile (limit : ℕ) (levels : List (Counters F)) (content : Option (List UInt8)) :
    List (Counters F) × Except PyException (ℤ × ℤ) :=
  match content with
  | none => (levels, .ok (0, 0))
  | some bytes =>
      match readDocument limit (bytes.take ladderReadBytes) with
      | .error e => (levels, if handled e then .ok (0, 0) else .error e)
      | .ok raw =>
          match loadDocument levels raw with
          | (levels, .ok loaded) => (levels, .ok loaded)
          | (levels, .error e) => (levels, if handled e then .ok (0, 0) else .error e)

end Load

/-! ## Saving -/

/-- The `state` of `save_ladder_state`. -/
def ladderRecord (level : ℕ) (levels : List (Counters F)) (total : ℤ) (ts : PyFloat F) :
    JsonValue F :=
  .obj [("level".toList, .int level),
    ("attempts".toList, .arr (levels.map fun lv => .int lv.attempts)),
    ("last_attempt".toList, .arr (levels.map fun lv => .float lv.lastAttempt)),
    ("total_recoveries".toList, .int total),
    ("ts".toList, .float ts)]

/-- The bytes that `save_ladder_state` writes; `none` where an integer is too long to be
written. -/
def saveLadderFile [FloatText F] (level : ℕ) (levels : List (Counters F)) (total : ℤ)
    (ts : PyFloat F) : Option (List UInt8) :=
  (JsonStyle.plain.dumps (ladderRecord level levels total ts)).map encodeUtf8

/-- The levels of a ladder that was just built. -/
def freshCounters (F : Type) [FloatNumber F] (n : ℕ) : List (Counters F) :=
  List.replicate n { attempts := 0, lastAttempt := .finite FloatNumber.zero }

/-! ## What is asked of a load -/

section Law

variable [FloatNumber F]

/-- A saved list has a value for the level at an index, or ends before it. -/
def Holds {A : Type} (convert : JsonValue F → Except PyException A) (saved : JsonValue F) (i : ℕ) :
    Prop :=
  ∃ n, len saved = .ok n ∧ (i < n → ∃ a, (item i saved >>= convert) = .ok a)

/-- A document whose values are all taken over, where it has them, by a number of levels. -/
structure Accepted (raw : JsonValue F) (n : ℕ) : Prop where
  level : ∃ level, (get "level".toList (.int 0) raw >>= toInt) = .ok level
  total : ∃ total, (get "total_recoveries".toList (.int 0) raw >>= toInt) = .ok total
  attempts : ∃ saved, get "attempts".toList (.arr []) raw = .ok saved ∧ ∀ i < n, Holds toInt saved i
  last : ∃ saved, get "last_attempt".toList (.arr []) raw = .ok saved ∧
    ∀ i < n, Holds toFloat saved i

/-- The entry of a document under a key. -/
def field (key : String) : JsonValue F → Option (JsonValue F)
  | .obj members => members.lookup key.toList
  | _ => none

/-- A value that is an integer and counts something. -/
def isCount : JsonValue F → Bool
  | .int n => 0 ≤ n
  | _ => false

/-- A value that is a number. -/
def isNumber : JsonValue F → Bool
  | .int _ | .float _ => true
  | _ => false

/-- A document is a saved state, of any number of levels: it has the entries that
`save_ladder_state` writes and `load_ladder_state` reads, with counts and numbers for as many levels
in both lists, and a level that is one of them or behind the last. -/
structure WellFormed (raw : JsonValue F) : Prop where
  total : ∃ total : ℕ, field "total_recoveries" raw = some (.int total)
  levels : ∃ (level : ℕ) (attempts last : List (JsonValue F)),
    field "level" raw = some (.int level) ∧ field "attempts" raw = some (.arr attempts) ∧
      field "last_attempt" raw = some (.arr last) ∧ level ≤ attempts.length ∧
        last.length = attempts.length ∧ (∀ a ∈ attempts, isCount a = true) ∧
          ∀ t ∈ last, isNumber t = true

/-- A content is a saved state. -/
def WellFormedContent (limit : ℕ) (bytes : List UInt8) : Prop :=
  ∃ raw : JsonValue F, readDocument limit bytes = .ok raw ∧ WellFormed raw

/-- Loading a content returns a level and a total, and resets the ladder where the content is no
saved state. -/
structure LoadsWell (limit : ℕ) (levels : List (Counters F)) (bytes : List UInt8) : Prop where
  returns : ∃ level total, (loadLadderFile limit levels (some bytes)).2 = .ok (level, total) ∧
    0 ≤ level ∧ level ≤ levels.length
  resets : ¬ WellFormedContent (F := F) limit bytes →
    loadLadderFile limit levels (some bytes) = (levels, .ok (0, 0))

/-! ## When it holds -/

/-- The values of the levels, in the order in which they are taken over: what a value is rejected
with, or whether it is the one that the level has already. -/
def levelSteps (attempts last : JsonValue F) :
    ℕ → List (Counters F) → List (Except PyException Prop)
  | _, [] => []
  | i, lv :: levels =>
      (entry toInt attempts i lv.attempts).map (· = lv.attempts) ::
        (entry toFloat last i lv.lastAttempt).map (· = lv.lastAttempt) ::
          levelSteps attempts last (i + 1) levels

/-- The values of a document, in the order in which they are taken over. -/
def documentSteps (levels : List (Counters F)) (raw : JsonValue F) :
    List (Except PyException Prop) :=
  (get "level".toList (.int 0) raw >>= toInt).map (fun _ => True) ::
    (get "total_recoveries".toList (.int 0) raw >>= toInt).map (fun _ => True) ::
      match get "attempts".toList (.arr []) raw, get "last_attempt".toList (.arr []) raw with
      | .ok attempts, .ok last => levelSteps attempts last 0 levels
      | _, _ => []

/-- What the first value that is rejected is rejected with. -/
def rejection : List (Except PyException Prop) → Option PyException
  | [] => none
  | .error e :: _ => some e
  | .ok _ :: steps => rejection steps

/-- The values that are taken over before one is rejected are there already. -/
def Unchanged : List (Except PyException Prop) → Prop
  | [] | .error _ :: _ => True
  | .ok same :: steps => same ∧ Unchanged steps

/-- A document says level zero and no recoveries, as a reset does. -/
structure SaysZero (levels : List (Counters F)) (raw : JsonValue F) : Prop where
  level : ∀ level, (get "level".toList (.int 0) raw >>= toInt) = .ok level →
    level ≤ 0 ∨ levels = []
  total : ∀ total, (get "total_recoveries".toList (.int 0) raw >>= toInt) = .ok total → total = 0

/-- What the first bytes of a content have to be: no document, or one of which no value is rejected
with another exception than the handled ones; and where the whole content is no saved state, one
that changes nothing. -/
def Tolerable (limit : ℕ) (levels : List (Counters F)) (bytes : List UInt8) : Prop :=
  match readDocument limit (bytes.take ladderReadBytes) with
  | .error e => handled e = true
  | .ok raw =>
      (∀ e ∈ rejection (documentSteps levels raw), handled e = true) ∧
        (WellFormedContent (F := F) limit bytes ∨
          (Unchanged (documentSteps levels raw) ∧
            (rejection (documentSteps levels raw) = none → SaysZero levels raw)))

/-! ## One level after the other -/

omit [FloatNumber F] in
theorem entry_eq_ok_iff {A : Type} {convert : JsonValue F → Except PyException A}
    {saved : JsonValue F} {i : ℕ} {own : A} :
    (∃ a, entry convert saved i own = .ok a) ↔ Holds convert saved i := by
  rw [entry, Holds]
  cases hlen : len saved with
  | error e =>
      constructor
      · rintro ⟨a, ha⟩
        cases ha
      · rintro ⟨n, hn, -⟩
        cases hn
  | ok n =>
      show (∃ a, (if i < n then item i saved >>= convert else pure own) = .ok a) ↔ _
      split_ifs with hi
      · constructor
        · intro h
          exact ⟨n, rfl, fun _ => h⟩
        · rintro ⟨m, hm, h⟩
          cases hm
          exact h hi
      · constructor
        · intro _
          exact ⟨n, rfl, fun h => absurd h hi⟩
        · intro _
          exact ⟨own, rfl⟩

theorem restoreLevels_cons_ok {attempts last : JsonValue F} {i : ℕ} {lv : Counters F}
    {levels : List (Counters F)} {n : ℤ} {t : PyFloat F}
    (hn : entry toInt attempts i lv.attempts = .ok n)
    (ht : entry toFloat last i lv.lastAttempt = .ok t) :
    restoreLevels attempts last i (lv :: levels) =
      ({ attempts := n, lastAttempt := t } :: (restoreLevels attempts last (i + 1) levels).1,
        (restoreLevels attempts last (i + 1) levels).2) := by
  rw [restoreLevels, restoreLevel, hn, ht]

theorem restoreLevels_cons_attempts {attempts last : JsonValue F} {i : ℕ} {lv : Counters F}
    {levels : List (Counters F)} {e : PyException}
    (he : entry toInt attempts i lv.attempts = .error e) :
    restoreLevels attempts last i (lv :: levels) = (lv :: levels, .error e) := by
  rw [restoreLevels, restoreLevel, he]

theorem restoreLevels_cons_last {attempts last : JsonValue F} {i : ℕ} {lv : Counters F}
    {levels : List (Counters F)} {n : ℤ} {e : PyException}
    (hn : entry toInt attempts i lv.attempts = .ok n)
    (he : entry toFloat last i lv.lastAttempt = .error e) :
    restoreLevels attempts last i (lv :: levels) =
      ({ lv with attempts := n } :: levels, .error e) := by
  rw [restoreLevels, restoreLevel, hn, he]

theorem length_restoreLevels (attempts last : JsonValue F) (i : ℕ) (levels : List (Counters F)) :
    (restoreLevels attempts last i levels).1.length = levels.length := by
  induction levels generalizing i with
  | nil => rfl
  | cons lv levels ih =>
      cases hn : entry toInt attempts i lv.attempts with
      | error e => rw [restoreLevels_cons_attempts hn]
      | ok n =>
          cases ht : entry toFloat last i lv.lastAttempt with
          | error e => rw [restoreLevels_cons_last hn ht, List.length_cons, List.length_cons]
          | ok t => rw [restoreLevels_cons_ok hn ht, List.length_cons, List.length_cons, ih]

/-- The exception of a result. -/
def errorOf {A : Type} : Except PyException A → Option PyException
  | .ok _ => none
  | .error e => some e

/-- The loop leaves the levels as they were exactly when the values that it takes over are there
already. -/
theorem unchanged_levelSteps_iff (attempts last : JsonValue F) (i : ℕ)
    (levels : List (Counters F)) :
    Unchanged (levelSteps attempts last i levels) ↔
      (restoreLevels attempts last i levels).1 = levels := by
  induction levels generalizing i with
  | nil => exact iff_of_true trivial rfl
  | cons lv levels ih =>
      rw [levelSteps]
      cases hn : entry toInt attempts i lv.attempts with
      | error e =>
          rw [restoreLevels_cons_attempts hn]
          exact iff_of_true trivial rfl
      | ok n =>
          cases ht : entry toFloat last i lv.lastAttempt with
          | error e =>
              rw [restoreLevels_cons_last hn ht]
              constructor
              · rintro ⟨hsame, -⟩
                rw [hsame]
              · intro heq
                exact ⟨congrArg Counters.attempts (List.cons.inj heq).1, trivial⟩
          | ok t =>
              rw [restoreLevels_cons_ok hn ht]
              constructor
              · rintro ⟨hattempts, hlast, hrest⟩
                rw [hattempts, hlast, (ih (i + 1)).mp hrest]
              · intro heq
                obtain ⟨hlv, hrest⟩ := List.cons.inj heq
                exact ⟨congrArg Counters.attempts hlv, congrArg Counters.lastAttempt hlv,
                  (ih (i + 1)).mpr hrest⟩

theorem rejection_levelSteps (attempts last : JsonValue F) (i : ℕ) (levels : List (Counters F)) :
    rejection (levelSteps attempts last i levels) =
      errorOf (restoreLevels attempts last i levels).2 := by
  induction levels generalizing i with
  | nil => rfl
  | cons lv levels ih =>
      rw [levelSteps]
      cases hn : entry toInt attempts i lv.attempts with
      | error e =>
          rw [restoreLevels_cons_attempts hn]
          rfl
      | ok n =>
          cases ht : entry toFloat last i lv.lastAttempt with
          | error e =>
              rw [restoreLevels_cons_last hn ht]
              rfl
          | ok t =>
              rw [restoreLevels_cons_ok hn ht]
              exact ih (i + 1)

/-- The loop goes through exactly when both lists hold a value for each level. -/
theorem restoreLevels_eq_ok_iff (attempts last : JsonValue F) (i : ℕ)
    (levels : List (Counters F)) :
    (restoreLevels attempts last i levels).2 = .ok () ↔
      ∀ j < levels.length, Holds toInt attempts (i + j) ∧ Holds toFloat last (i + j) := by
  induction levels generalizing i with
  | nil => exact iff_of_true rfl nofun
  | cons lv levels ih =>
      have hsplit : (∀ j < (lv :: levels).length,
          Holds toInt attempts (i + j) ∧ Holds toFloat last (i + j)) ↔
          (Holds toInt attempts i ∧ Holds toFloat last i) ∧ ∀ j < levels.length,
            Holds toInt attempts (i + 1 + j) ∧ Holds toFloat last (i + 1 + j) := by
        rw [List.length_cons, Nat.forall_lt_succ_left]
        simp only [Nat.add_zero, Nat.add_assoc, Nat.add_comm 1]
      rw [hsplit, ← ih, ← @entry_eq_ok_iff F _ _ attempts i lv.attempts,
        ← @entry_eq_ok_iff F _ _ last i lv.lastAttempt]
      cases hn : entry toInt attempts i lv.attempts with
      | error e =>
          rw [restoreLevels_cons_attempts hn]
          exact iff_of_false nofun fun h => nomatch h.1.1
      | ok n =>
          cases ht : entry toFloat last i lv.lastAttempt with
          | error e =>
              rw [restoreLevels_cons_last hn ht]
              exact iff_of_false nofun fun h => nomatch h.1.2
          | ok t =>
              rw [restoreLevels_cons_ok hn ht]
              exact ⟨fun h => ⟨⟨⟨n, rfl⟩, t, rfl⟩, h⟩, fun h => h.2⟩

/-! ## The document -/

theorem loadDocument_level {levels : List (Counters F)} {raw : JsonValue F} {e : PyException}
    (h : (get "level".toList (.int 0) raw >>= toInt) = .error e) :
    loadDocument levels raw = (levels, .error e) := by
  rw [loadDocument, h]

theorem loadDocument_total {levels : List (Counters F)} {raw : JsonValue F} {e : PyException}
    {n : ℤ}
    (hlevel : (get "level".toList (.int 0) raw >>= toInt) = .ok n)
    (h : (get "total_recoveries".toList (.int 0) raw >>= toInt) = .error e) :
    loadDocument levels raw = (levels, .error e) := by
  rw [loadDocument, hlevel, h]

/-- Behind the level and the total only the loop can fail. -/
theorem loadDocument_loop {levels : List (Counters F)} {raw attempts last : JsonValue F} {n t : ℤ}
    (hlevel : (get "level".toList (.int 0) raw >>= toInt) = .ok n)
    (htotal : (get "total_recoveries".toList (.int 0) raw >>= toInt) = .ok t)
    (hattempts : get "attempts".toList (.arr []) raw = .ok attempts)
    (hlast : get "last_attempt".toList (.arr []) raw = .ok last) :
    loadDocument levels raw =
      ((restoreLevels attempts last 0 levels).1,
        (restoreLevels attempts last 0 levels).2.map fun _ =>
          (max 0 (min n levels.length), t)) := by
  have hlength := length_restoreLevels attempts last 0 levels
  rw [loadDocument, hlevel, htotal, hattempts, hlast]
  dsimp only
  cases hrun : restoreLevels attempts last 0 levels with
  | mk found result =>
      rw [hrun] at hlength
      cases result with
      | error e => rfl
      | ok u =>
          dsimp only at hlength ⊢
          rw [hlength]
          rfl

omit [FloatNumber F] in
/-- A value that has a level is an object, which has an entry for every key or its default. -/
theorem get_of_get {raw found : JsonValue F} {key : Text} {default : JsonValue F}
    (h : get key default raw = .ok found) (key' : Text) (default' : JsonValue F) :
    ∃ found', get key' default' raw = .ok found' := by
  cases raw with
  | obj members => exact ⟨_, rfl⟩
  | null | bool | int | float | str | arr => cases h

theorem exists_get_of_bind {raw : JsonValue F} {key : Text} {default : JsonValue F} {n : ℤ}
    (h : (get key default raw >>= toInt) = .ok n) : ∃ found, get key default raw = .ok found := by
  cases hget : get key default raw with
  | error e =>
      rw [hget] at h
      cases h
  | ok found => exact ⟨found, rfl⟩

/-- The values of a document are those that its loading takes over. -/
theorem documentSteps_spec (levels : List (Counters F)) (raw : JsonValue F) :
    rejection (documentSteps levels raw) = errorOf (loadDocument levels raw).2 ∧
      (Unchanged (documentSteps levels raw) ↔ (loadDocument levels raw).1 = levels) := by
  rw [documentSteps]
  cases hlevel : get "level".toList (.int 0) raw >>= toInt with
  | error e =>
      rw [loadDocument_level hlevel]
      exact ⟨rfl, iff_of_true trivial rfl⟩
  | ok n =>
      cases htotal : get "total_recoveries".toList (.int 0) raw >>= toInt with
      | error e =>
          rw [loadDocument_total hlevel htotal]
          exact ⟨rfl, iff_of_true ⟨trivial, trivial⟩ rfl⟩
      | ok t =>
          obtain ⟨found, hfound⟩ := exists_get_of_bind hlevel
          obtain ⟨attempts, hattempts⟩ := get_of_get hfound "attempts".toList (.arr [])
          obtain ⟨last, hlast⟩ := get_of_get hfound "last_attempt".toList (.arr [])
          have hrejection := rejection_levelSteps attempts last 0 levels
          have hunchanged := unchanged_levelSteps_iff attempts last 0 levels
          rw [loadDocument_loop hlevel htotal hattempts hlast, hattempts, hlast]
          dsimp only
          constructor
          · refine hrejection.trans ?_
            cases (restoreLevels attempts last 0 levels).2 with
            | error e => rfl
            | ok u => rfl
          · rw [← hunchanged]
            exact ⟨fun h => h.2.2, fun h => ⟨trivial, trivial, h⟩⟩

/-- A document is loaded exactly when all its values are taken over. -/
theorem loadDocument_eq_ok_iff (levels : List (Counters F)) (raw : JsonValue F) :
    (∃ loaded, (loadDocument levels raw).2 = .ok loaded) ↔ Accepted raw levels.length := by
  cases hlevel : get "level".toList (.int 0) raw >>= toInt with
  | error e =>
      rw [loadDocument_level hlevel]
      refine iff_of_false (fun h => nomatch h) fun h => ?_
      obtain ⟨n, hn⟩ := h.level
      cases hlevel.symm.trans hn
  | ok n =>
      cases htotal : get "total_recoveries".toList (.int 0) raw >>= toInt with
      | error e =>
          rw [loadDocument_total hlevel htotal]
          refine iff_of_false (fun h => nomatch h) fun h => ?_
          obtain ⟨t, ht⟩ := h.total
          cases htotal.symm.trans ht
      | ok t =>
          obtain ⟨found, hfound⟩ := exists_get_of_bind hlevel
          obtain ⟨attempts, hattempts⟩ := get_of_get hfound "attempts".toList (.arr [])
          obtain ⟨last, hlast⟩ := get_of_get hfound "last_attempt".toList (.arr [])
          have hloop := restoreLevels_eq_ok_iff attempts last 0 levels
          simp only [Nat.zero_add] at hloop
          rw [loadDocument_loop hlevel htotal hattempts hlast]
          dsimp only
          constructor
          · rintro ⟨loaded, hloaded⟩
            cases hrun : (restoreLevels attempts last 0 levels).2 with
            | error e =>
                rw [hrun] at hloaded
                cases hloaded
            | ok u =>
                have hholds := hloop.mp hrun
                exact ⟨⟨n, hlevel⟩, ⟨t, htotal⟩, ⟨attempts, hattempts, fun i hi => (hholds i hi).1⟩,
                  ⟨last, hlast, fun i hi => (hholds i hi).2⟩⟩
          · intro h
            obtain ⟨attempts', hattempts', hrow⟩ := h.attempts
            obtain ⟨last', hlast', hrow'⟩ := h.last
            cases hattempts.symm.trans hattempts'
            cases hlast.symm.trans hlast'
            rw [hloop.mpr fun i hi => ⟨hrow i hi, hrow' i hi⟩]
            exact ⟨_, rfl⟩

/-- The level that is loaded is clamped. -/
theorem loadDocument_bounds {levels : List (Counters F)} {raw : JsonValue F} {level total : ℤ}
    (h : (loadDocument levels raw).2 = .ok (level, total)) : 0 ≤ level ∧ level ≤ levels.length := by
  obtain ⟨⟨n, hlevel⟩, ⟨t, htotal⟩, ⟨attempts, hattempts, -⟩, ⟨last, hlast, -⟩⟩ :=
    (loadDocument_eq_ok_iff levels raw).mp ⟨_, h⟩
  rw [loadDocument_loop hlevel htotal hattempts hlast] at h
  dsimp only at h
  cases hrun : (restoreLevels attempts last 0 levels).2 with
  | error e =>
      rw [hrun] at h
      cases h
  | ok u =>
      rw [hrun] at h
      cases h
      omega

/-- A document that is taken over is loaded as zero exactly when it says so. -/
theorem loadDocument_zero_iff {levels : List (Counters F)} {raw : JsonValue F}
    (h : Accepted raw levels.length) :
    (loadDocument levels raw).2 = .ok (0, 0) ↔ SaysZero levels raw := by
  obtain ⟨⟨n, hlevel⟩, ⟨t, htotal⟩, ⟨attempts, hattempts, hrow⟩, ⟨last, hlast, hrow'⟩⟩ := h
  have hloop := restoreLevels_eq_ok_iff attempts last 0 levels
  simp only [Nat.zero_add] at hloop
  have hclamp : max 0 (min n (levels.length : ℤ)) = 0 ↔ n ≤ 0 ∨ levels = [] := by
    rw [← List.length_eq_zero_iff]
    omega
  rw [loadDocument_loop hlevel htotal hattempts hlast,
    hloop.mpr fun i hi => ⟨hrow i hi, hrow' i hi⟩]
  constructor
  · intro heq
    obtain ⟨hzero, rfl⟩ := Prod.mk.inj (Except.ok.inj heq)
    refine ⟨fun n' hn' => ?_, fun t' ht' => ?_⟩
    · cases hlevel.symm.trans hn'
      exact hclamp.mp hzero
    · cases htotal.symm.trans ht'
      rfl
  · intro hzero
    have hn := hclamp.mpr (hzero.level n hlevel)
    have ht := hzero.total t htotal
    show Except.ok (max 0 (min n (levels.length : ℤ)), t) = .ok (0, 0)
    rw [hn, ht]

/-- Loading a content does what it should exactly when its first bytes are tolerable. -/
theorem loadsWell_iff (limit : ℕ) (levels : List (Counters F)) (bytes : List UInt8) :
    LoadsWell limit levels bytes ↔ Tolerable limit levels bytes := by
  rw [Tolerable]
  cases hread : (readDocument limit (bytes.take ladderReadBytes) :
      Except PyException (JsonValue F)) with
  | error e =>
      have hload : loadLadderFile limit levels (some bytes) =
          (levels, if handled e then .ok (0, 0) else .error e) := by
        rw [loadLadderFile, hread]
      dsimp only
      constructor
      · intro h
        obtain ⟨level, total, hreturns, -⟩ := h.returns
        rw [hload] at hreturns
        by_contra hhandled
        rw [if_neg hhandled] at hreturns
        cases hreturns
      · intro hhandled
        rw [if_pos hhandled] at hload
        exact ⟨⟨0, 0, by rw [hload], le_refl 0, Int.natCast_nonneg _⟩, fun _ => hload⟩
  | ok raw =>
      obtain ⟨hrejection, hunchanged⟩ := documentSteps_spec levels raw
      dsimp only
      rw [hrejection, hunchanged]
      cases hresult : (loadDocument levels raw).2 with
      | ok loaded =>
          have hload : loadLadderFile limit levels (some bytes) =
              ((loadDocument levels raw).1, .ok loaded) := by
            rw [loadLadderFile, hread]
            dsimp only
            rw [← Prod.mk.eta (p := loadDocument levels raw), hresult]
          have hzero := loadDocument_zero_iff ((loadDocument_eq_ok_iff levels raw).mp ⟨_, hresult⟩)
          rw [hresult] at hzero
          constructor
          · intro h
            refine ⟨nofun, or_iff_not_imp_left.mpr fun hcontent => ?_⟩
            have hreset := h.resets hcontent
            rw [hload] at hreset
            obtain ⟨hsame, heq⟩ := Prod.mk.inj hreset
            exact ⟨hsame, fun _ => hzero.mp heq⟩
          · rintro ⟨-, h⟩
            refine ⟨⟨loaded.1, loaded.2, by rw [hload], loadDocument_bounds hresult⟩,
              fun hcontent => ?_⟩
            obtain ⟨hsame, hsaid⟩ := h.resolve_left hcontent
            rw [hload, hsame, hzero.mpr (hsaid rfl)]
      | error e =>
          have hload : loadLadderFile limit levels (some bytes) =
              ((loadDocument levels raw).1, if handled e then .ok (0, 0) else .error e) := by
            rw [loadLadderFile, hread]
            dsimp only
            rw [← Prod.mk.eta (p := loadDocument levels raw), hresult]
          have hzero := le_refl (0 : ℤ)
          constructor
          · intro h
            have hhandled : handled e = true := by
              obtain ⟨level, total, hreturns, -⟩ := h.returns
              rw [hload] at hreturns
              by_contra hhandled
              rw [if_neg hhandled] at hreturns
              cases hreturns
            refine ⟨fun e' he' => ?_, or_iff_not_imp_left.mpr fun hcontent => ⟨?_, nofun⟩⟩
            · cases he'
              exact hhandled
            · have hreset := h.resets hcontent
              rw [hload] at hreset
              exact (Prod.mk.inj hreset).1
          · rintro ⟨hhandled, h⟩
            rw [if_pos (hhandled e rfl)] at hload
            refine ⟨⟨0, 0, by rw [hload], hzero, Int.natCast_nonneg _⟩, fun hcontent => ?_⟩
            rw [hload, (h.resolve_left hcontent).1]

/-! ## What was saved -/

omit [FloatNumber F] in
/-- A saved list gives each level its value back. -/
theorem entry_saved {A B : Type} {convert : JsonValue F → Except PyException A}
    {write : B → JsonValue F} {read : B → A} (hread : ∀ b, convert (write b) = .ok (read b))
    (front : List B) (b : B) (rest : List B) (own : A) :
    entry convert (.arr ((front ++ b :: rest).map write)) front.length own = .ok (read b) := by
  have hlength : front.length < ((front ++ b :: rest).map write).length := by
    rw [List.length_map, List.length_append, List.length_cons]
    omega
  have hitem : ((front ++ b :: rest).map write)[front.length]? = some (write b) := by
    rw [List.getElem?_map, List.getElem?_append_right (le_refl _), Nat.sub_self]
    rfl
  show (if front.length < ((front ++ b :: rest).map write).length then
    item front.length (.arr ((front ++ b :: rest).map write)) >>= convert else pure own) = _
  rw [if_pos hlength, item, hitem]
  exact hread b

/-- The loop over fresh levels gives the saved ones. -/
theorem restoreLevels_saved (front levels fresh : List (Counters F))
    (hlength : fresh.length = levels.length) :
    restoreLevels (.arr ((front ++ levels).map fun lv => .int lv.attempts))
        (.arr ((front ++ levels).map fun lv => .float lv.lastAttempt)) front.length fresh =
      (levels, .ok ()) := by
  induction levels generalizing front fresh with
  | nil =>
      rw [List.length_eq_zero_iff.mp hlength]
      rfl
  | cons lv levels ih =>
      cases fresh with
      | nil => cases hlength
      | cons own fresh =>
          have hattempts := @entry_saved F _ _ toInt (fun lv : Counters F => .int lv.attempts)
            Counters.attempts (fun _ => rfl) front lv levels own.attempts
          have hlast := @entry_saved F _ _ toFloat (fun lv : Counters F => .float lv.lastAttempt)
            Counters.lastAttempt (fun _ => rfl) front lv levels own.lastAttempt
          have hrest := ih (front ++ [lv]) fresh (Nat.succ.inj hlength)
          rw [List.append_assoc, List.singleton_append, List.length_append,
            List.length_singleton] at hrest
          rw [restoreLevels_cons_ok hattempts hlast, hrest]

/-- The document that is saved gives a fresh ladder the saved values. -/
theorem loadDocument_ladderRecord {level : ℕ} {levels : List (Counters F)}
    (hlevel : level ≤ levels.length) (total : ℤ) (ts : PyFloat F) :
    loadDocument (freshCounters F levels.length) (ladderRecord level levels total ts) =
      (levels, .ok ((level : ℤ), total)) := by
  have hlength : (freshCounters F levels.length).length = levels.length := List.length_replicate
  have hloop := restoreLevels_saved [] levels (freshCounters F levels.length) hlength
  have hclamp : max 0 (min (level : ℤ) levels.length) = level := by omega
  rw [List.nil_append, List.length_nil] at hloop
  have hattempts : get "attempts".toList (.arr []) (ladderRecord level levels total ts) =
      .ok (.arr (levels.map fun lv => .int lv.attempts)) := rfl
  have hlast : get "last_attempt".toList (.arr []) (ladderRecord level levels total ts) =
      .ok (.arr (levels.map fun lv => .float lv.lastAttempt)) := rfl
  rw [loadDocument_loop (n := level) (t := total) rfl rfl hattempts hlast, hloop, hlength, hclamp]
  rfl

end Law

/-! ## The text that is saved -/

section Saved

theorem distinctItems_map {B : Type} {write : B → JsonValue F} (h : ∀ b, (write b).Distinct)
    (bs : List B) : JsonValue.DistinctItems (bs.map write) := by
  induction bs with
  | nil => trivial
  | cons b bs ih => exact ⟨h b, ih⟩

theorem depthItems_map {B : Type} {write : B → JsonValue F} (h : ∀ b, (write b).depth = 0)
    (bs : List B) : JsonValue.depthItems (bs.map write) = 0 := by
  induction bs with
  | nil => rfl
  | cons b bs ih =>
      rw [List.map_cons, JsonValue.depthItems, h b, ih]
      rfl

theorem distinct_ladderRecord (level : ℕ) (levels : List (Counters F)) (total : ℤ)
    (ts : PyFloat F) : (ladderRecord level levels total ts).Distinct := by
  have hkeys : ["level".toList, "attempts".toList, "last_attempt".toList,
      "total_recoveries".toList, "ts".toList].Nodup := by decide
  have hattempts : JsonValue.DistinctItems
      (levels.map fun lv => (.int lv.attempts : JsonValue F)) :=
    @distinctItems_map F _ (fun lv : Counters F => .int lv.attempts) (fun _ => trivial) levels
  have hlast : JsonValue.DistinctItems
      (levels.map fun lv => (.float lv.lastAttempt : JsonValue F)) :=
    @distinctItems_map F _ (fun lv : Counters F => .float lv.lastAttempt) (fun _ => trivial) levels
  exact ⟨hkeys, trivial, hattempts, hlast, trivial, trivial, trivial⟩

theorem depth_ladderRecord (level : ℕ) (levels : List (Counters F)) (total : ℤ)
    (ts : PyFloat F) : (ladderRecord level levels total ts).depth = 2 := by
  have hattempts : JsonValue.depthItems
      (levels.map fun lv => (.int lv.attempts : JsonValue F)) = 0 :=
    depthItems_map (fun _ => rfl) levels
  have hlast : JsonValue.depthItems
      (levels.map fun lv => (.float lv.lastAttempt : JsonValue F)) = 0 :=
    depthItems_map (fun _ => rfl) levels
  rw [ladderRecord]
  simp only [JsonValue.depth, JsonValue.depthMembers, hattempts, hlast]
  rfl

variable [FloatText F]

/-- The items of a saved list, without their brackets. -/
theorem isInner_encodeItems {B : Type} {write : B → JsonValue F}
    (h : ∀ b, ∀ c ∈ JsonStyle.plain.encode 2 (write b), isInner c = true) (bs : List B) :
    ∀ c ∈ JsonStyle.plain.encodeItems 2 (bs.map write), isInner c = true := by
  induction bs with
  | nil => exact List.forall_mem_nil _
  | cons b bs ih =>
      rw [List.map_cons, JsonStyle.encodeItems]
      refine List.forall_mem_cons.mpr ⟨rfl, List.forall_mem_append.mpr ⟨?_, ?_⟩⟩
      · exact List.forall_mem_singleton.mpr rfl
      · exact List.forall_mem_append.mpr ⟨h b, ih⟩

/-- A saved list is one opening bracket, and behind it characters that open nothing. -/
theorem encode_arr_map {B : Type} {write : B → JsonValue F}
    (h : ∀ b, ∀ c ∈ JsonStyle.plain.encode 2 (write b), isInner c = true) (bs : List B) :
    ∃ inside, JsonStyle.plain.encode 1 (.arr (bs.map write)) = '[' :: inside ∧
      ∀ c ∈ inside, isInner c = true := by
  cases bs with
  | nil => exact ⟨_, rfl, List.forall_mem_singleton.mpr rfl⟩
  | cons b bs =>
      refine ⟨_, rfl, ?_⟩
      refine List.forall_mem_append.mpr ⟨List.forall_mem_nil _, ?_⟩
      refine List.forall_mem_append.mpr ⟨h b, ?_⟩
      refine List.forall_mem_append.mpr ⟨isInner_encodeItems h bs, ?_⟩
      exact List.forall_mem_singleton.mpr rfl

/-- A key as it stands in the saved text, with its colon. -/
def savedKey (key : Text) : Text := encodeString true key ++ [':', ' ']

/-- The saved text: a brace, two lists, a brace, and between them characters that open nothing and
close no object. -/
theorem encode_ladderRecord (level : ℕ) (levels : List (Counters F)) (total : ℤ)
    (ts : PyFloat F) :
    ∃ first second third, JsonStyle.plain.text (ladderRecord level levels total ts) =
        '{' :: (first ++ ('[' :: (second ++ ('[' :: (third ++ ['}']))))) ∧
      (∀ c ∈ first, isInner c = true) ∧ (∀ c ∈ second, isInner c = true) ∧
        ∀ c ∈ third, isInner c = true := by
  obtain ⟨attempts, hattempts, hinner⟩ := @encode_arr_map F _ _
    (fun lv : Counters F => .int lv.attempts) (fun lv => isInner_encodeInt lv.attempts) levels
  obtain ⟨last, hlast, hinner'⟩ := @encode_arr_map F _ _
    (fun lv : Counters F => .float lv.lastAttempt) (fun lv => isInner_encodeFloat lv.lastAttempt)
      levels
  have hlevel := isInner_encodeInt (level : ℤ)
  have htotal := isInner_encodeInt total
  have hts := isInner_encodeFloat ts
  have hcomma : ∀ c ∈ [',', ' '], isInner c = true := List.all_eq_true.mp rfl
  refine ⟨savedKey "level".toList ++ encodeInt level ++ [',', ' '] ++ savedKey "attempts".toList,
    attempts ++ [',', ' '] ++ savedKey "last_attempt".toList,
    last ++ [',', ' '] ++ savedKey "total_recoveries".toList ++ encodeInt total ++ [',', ' '] ++
      savedKey "ts".toList ++ encodeFloat ts, ?_, ?_, ?_, ?_⟩
  · rw [JsonStyle.text, if_neg (by decide), ladderRecord]
    simp only [JsonStyle.encode, JsonStyle.encodeMembers] at hattempts hlast ⊢
    rw [hattempts, hlast]
    simp only [JsonStyle.plain, savedKey, List.cons_append, List.append_assoc, List.nil_append]
  · simp only [List.forall_mem_append]
    exact ⟨⟨⟨List.all_eq_true.mp (by decide), hlevel⟩, hcomma⟩, List.all_eq_true.mp (by decide)⟩
  · simp only [List.forall_mem_append]
    exact ⟨⟨hinner, hcomma⟩, List.all_eq_true.mp (by decide)⟩
  · simp only [List.forall_mem_append]
    exact ⟨⟨⟨⟨⟨⟨hinner', hcomma⟩, List.all_eq_true.mp (by decide)⟩, htotal⟩, hcomma⟩,
      List.all_eq_true.mp (by decide)⟩, hts⟩

theorem isAscii_of_isInner {text : Text} (h : ∀ c ∈ text, isInner c = true) : IsAscii text := by
  intro c hc
  have hinner := h c hc
  rw [isInner, Bool.and_eq_true, Bool.and_eq_true, decide_eq_true_eq] at hinner
  exact hinner.1.1

theorem not_brace_of_isInner {text : Text} (h : ∀ c ∈ text, isInner c = true) : '}' ∉ text :=
  fun hmem => absurd (h _ hmem) (by decide)

theorem countP_of_isInner {text : Text} (h : ∀ c ∈ text, isInner c = true) :
    text.countP isOpening = 0 := by
  refine List.countP_eq_zero.mpr fun c hc hopening => ?_
  have hinner := h c hc
  rw [isInner, hopening, Bool.not_true, Bool.and_false] at hinner
  cases hinner

theorem isAscii_ladderRecord (level : ℕ) (levels : List (Counters F)) (total : ℤ)
    (ts : PyFloat F) : IsAscii (JsonStyle.plain.text (ladderRecord level levels total ts)) := by
  obtain ⟨first, second, third, htext, hfirst, hsecond, hthird⟩ :=
    encode_ladderRecord level levels total ts
  have hends : IsAscii ['}'] := by
    intro c hc
    cases List.mem_singleton.mp hc
    decide
  rw [htext]
  refine List.forall_mem_cons.mpr ⟨by decide, List.forall_mem_append.mpr
    ⟨isAscii_of_isInner hfirst, List.forall_mem_cons.mpr ⟨by decide, List.forall_mem_append.mpr
      ⟨isAscii_of_isInner hsecond, List.forall_mem_cons.mpr ⟨by decide, ?_⟩⟩⟩⟩⟩
  exact List.forall_mem_append.mpr ⟨isAscii_of_isInner hthird, hends⟩

/-- A saved text that is cut off is no document, and not nested too deep. -/
theorem jsonLoads_cutOff_ladderRecord (level : ℕ) (levels : List (Counters F)) (total : ℤ)
    (ts : PyFloat F) {limit n : ℕ} (hlimit : 3 ≤ limit)
    (hcut : n + 1 < (JsonStyle.plain.text (ladderRecord level levels total ts)).length) :
    ∃ e, jsonLoads limit
        ((JsonStyle.plain.text (ladderRecord level levels total ts)).take (n + 1)) =
          (.error e : Except JsonError (JsonValue F)) ∧ e ≠ .tooDeep := by
  obtain ⟨first, second, third, htext, hfirst, hsecond, hthird⟩ :=
    encode_ladderRecord level levels total ts
  have hbody : first ++ ('[' :: (second ++ ('[' :: (third ++ ['}'])))) =
      (first ++ ('[' :: (second ++ ('[' :: third)))) ++ ['}'] := by simp
  rw [hbody] at htext
  have hcount : (first ++ ('[' :: (second ++ ('[' :: third)))).countP isOpening = 2 := by
    simp only [List.countP_append, List.countP_cons, countP_of_isInner hfirst,
      countP_of_isInner hsecond, countP_of_isInner hthird]
    rfl
  have hbrace : '}' ∉ first ++ ('[' :: (second ++ ('[' :: third))) := by
    simp only [List.mem_append, List.mem_cons, not_or]
    exact ⟨not_brace_of_isInner hfirst, by decide, not_brace_of_isInner hsecond, by decide,
      not_brace_of_isInner hthird⟩
  rw [htext, List.length_cons, List.length_append, List.length_singleton] at hcut
  rw [htext, List.take_succ_cons, List.take_append_of_le_length (by omega)]
  refine jsonLoads_cutOff (fun hmem => hbrace (List.mem_of_mem_take hmem)) ?_
  have htake := (List.take_sublist n (first ++ ('[' :: (second ++ ('[' :: third))))).countP_le
    (p := isOpening)
  rw [hcount] at htake
  rw [List.countP_cons_of_pos (by decide)]
  omega

end Saved

/-! ## The law -/

/-- A ladder: its current level is one of its levels, or behind the last. -/
structure LadderState (F : Type) where
  level : ℕ
  levels : List (Counters F)
  total : ℤ
  level_le : level ≤ levels.length

/-- How deep the recursion of the decoder may go, which is three levels at least. -/
abbrev RecursionLimit := {limit : ℕ // 3 ≤ limit}

section RoundTrip

variable [FloatNumber F]

/-- A ladder that starts from what was saved is the one that was saved. -/
def RoundTrips (limit : ℕ) (s : LadderState F) (ts : PyFloat F) : Prop :=
  ∃ bytes, saveLadderFile s.level s.levels s.total ts = some bytes ∧
    loadLadderFile limit (freshCounters F s.levels.length) (some bytes) =
      (s.levels, .ok ((s.level : ℤ), s.total))

/-- Nothing has happened to a ladder. -/
structure LadderState.Fresh (s : LadderState F) : Prop where
  levels : s.levels = freshCounters F s.levels.length
  level : s.level = 0
  total : s.total = 0

/-- The integers of a ladder can be written, and its text fits into one read; a ladder that nothing
has happened to need not fit. -/
structure Keepable (s : LadderState F) (ts : PyFloat F) : Prop where
  short : (ladderRecord s.level s.levels s.total ts).short = true
  fits : (encodeUtf8 (JsonStyle.plain.text (ladderRecord s.level s.levels s.total ts))).length ≤
    ladderReadBytes ∨ s.Fresh

/-- Of a saved text that does not fit, nothing is loaded. -/
theorem loadLadderFile_cutOff (limit : RecursionLimit) (s : LadderState F) (ts : PyFloat F)
    (levels : List (Counters F))
    (hlong : ladderReadBytes <
      (encodeUtf8 (JsonStyle.plain.text (ladderRecord s.level s.levels s.total ts))).length) :
    loadLadderFile limit levels
        (some (encodeUtf8 (JsonStyle.plain.text (ladderRecord s.level s.levels s.total ts)))) =
      (levels, .ok (0, 0)) := by
  have hascii := isAscii_ladderRecord s.level s.levels s.total ts
  rw [length_encodeUtf8 hascii] at hlong
  obtain ⟨e, hloads, hne⟩ := @jsonLoads_cutOff_ladderRecord F _ s.level s.levels s.total ts
    limit 8191 limit.property hlong
  have hread : ∃ e, readDocument limit ((encodeUtf8 (JsonStyle.plain.text
      (ladderRecord s.level s.levels s.total ts))).take ladderReadBytes) =
        (.error e : Except PyException (JsonValue F)) ∧ handled e = true := by
    rw [take_encodeUtf8 hascii, readDocument, decodeUtf8_encodeUtf8]
    dsimp only
    rw [ladderReadBytes, hloads]
    cases e with
    | decode => exact ⟨_, rfl, rfl⟩
    | tooLong => exact ⟨_, rfl, rfl⟩
    | tooDeep => exact absurd rfl hne
  obtain ⟨e', hread, hhandled⟩ := hread
  rw [loadLadderFile, hread]
  dsimp only
  rw [if_pos hhandled]

/-- A saved text is read as the document that it was made of. -/
theorem readDocument_saved (limit : RecursionLimit) (s : LadderState F) (ts : PyFloat F)
    (hshort : (ladderRecord s.level s.levels s.total ts).short = true) :
    readDocument limit
        (encodeUtf8 (JsonStyle.plain.text (ladderRecord s.level s.levels s.total ts))) =
      .ok (ladderRecord s.level s.levels s.total ts) := by
  have hdepth : (ladderRecord s.level s.levels s.total ts).depth ≤ limit.val := by
    rw [depth_ladderRecord]
    exact Nat.le_of_succ_le limit.property
  have hloads := jsonLoads_encode JsonStyle.plain
    (distinct_ladderRecord s.level s.levels s.total ts) hshort hdepth
  have htext : JsonStyle.plain.text (ladderRecord s.level s.levels s.total ts) =
      JsonStyle.plain.encode 0 (ladderRecord s.level s.levels s.total ts) := rfl
  rw [readDocument, decodeUtf8_encodeUtf8, htext]
  dsimp only
  rw [hloads]

/-- What a ladder that counts saves is a saved state. -/
theorem wellFormedContent_saved (limit : RecursionLimit) (s : LadderState F) (ts : PyFloat F)
    (hattempts : ∀ lv ∈ s.levels, 0 ≤ lv.attempts) (htotal : 0 ≤ s.total) {bytes : List UInt8}
    (h : saveLadderFile s.level s.levels s.total ts = some bytes) :
    WellFormedContent (F := F) limit bytes := by
  rw [saveLadderFile, JsonStyle.dumps] at h
  split_ifs at h with hshort
  · obtain rfl := Option.some.inj h
    refine ⟨_, readDocument_saved limit s ts hshort, ?_, ?_⟩
    · obtain ⟨total, htotal⟩ := Int.eq_ofNat_of_zero_le htotal
      exact ⟨total, htotal ▸ rfl⟩
    · refine ⟨s.level, _, _, rfl, rfl, rfl, ?_, ?_, ?_, ?_⟩
      · rw [List.length_map]
        exact s.level_le
      · rw [List.length_map, List.length_map]
      · intro a ha
        obtain ⟨lv, hlv, rfl⟩ := List.mem_map.mp ha
        exact decide_eq_true (hattempts lv hlv)
      · intro t ht
        obtain ⟨lv, -, rfl⟩ := List.mem_map.mp ht
        rfl
  · cases h

/-- A saved text that fits is loaded as it was saved. -/
theorem loadLadderFile_fits (limit : RecursionLimit) (s : LadderState F) (ts : PyFloat F)
    (hshort : (ladderRecord s.level s.levels s.total ts).short = true)
    (hfits : (encodeUtf8 (JsonStyle.plain.text
      (ladderRecord s.level s.levels s.total ts))).length ≤ ladderReadBytes) :
    loadLadderFile limit (freshCounters F s.levels.length)
        (some (encodeUtf8 (JsonStyle.plain.text (ladderRecord s.level s.levels s.total ts)))) =
      (s.levels, .ok ((s.level : ℤ), s.total)) := by
  rw [loadLadderFile, List.take_of_length_le hfits, readDocument_saved limit s ts hshort]
  dsimp only
  rw [loadDocument_ladderRecord s.level_le]

theorem roundTrips_iff (limit : RecursionLimit) (s : LadderState F) (ts : PyFloat F) :
    RoundTrips limit s ts ↔ Keepable s ts := by
  rw [RoundTrips, saveLadderFile, JsonStyle.dumps]
  by_cases hshort : (ladderRecord s.level s.levels s.total ts).short = true
  · rw [if_pos hshort]
    rcases Nat.lt_or_ge ladderReadBytes (encodeUtf8 (JsonStyle.plain.text
      (ladderRecord s.level s.levels s.total ts))).length with hlong | hfits
    · have hload := loadLadderFile_cutOff limit s ts (freshCounters F s.levels.length) hlong
      constructor
      · rintro ⟨bytes, hbytes, hloaded⟩
        cases hbytes
        rw [hload] at hloaded
        obtain ⟨hlevels, hresult⟩ := Prod.mk.inj hloaded
        obtain ⟨hlevel, htotal⟩ := Prod.mk.inj (Except.ok.inj hresult)
        exact ⟨hshort, .inr ⟨hlevels.symm, Int.natCast_eq_zero.mp hlevel.symm, htotal.symm⟩⟩
      · intro h
        obtain ⟨hlevels, hlevel, htotal⟩ := h.fits.resolve_left (not_le.mpr hlong)
        refine ⟨_, rfl, ?_⟩
        rw [hload, ← hlevels, hlevel, htotal]
        rfl
    · exact iff_of_true ⟨_, rfl, loadLadderFile_fits limit s ts hshort hfits⟩ ⟨hshort, .inl hfits⟩
  · rw [if_neg hshort]
    refine iff_of_false (fun h => ?_) fun h => hshort h.short
    obtain ⟨bytes, hbytes, -⟩ := h
    cases hbytes

/-- Loading is total and resets the ladder on a content that is no saved state exactly on the
tolerable contents, and gives back exactly the ladders that fit into one read. -/
theorem ladder_file_iff (F : Type) [FloatNumber F] (limit : RecursionLimit) :
    (∀ (levels : List (Counters F)) (bytes : List UInt8),
        LoadsWell limit levels bytes ↔ Tolerable limit levels bytes) ∧
      ∀ (s : LadderState F) (ts : PyFloat F), RoundTrips limit s ts ↔ Keepable s ts :=
  ⟨loadsWell_iff limit, roundTrips_iff limit⟩

end RoundTrip

/-- A file that holds a list, and no object, is not answered with a reset: it has no `get`. -/
theorem list_raises :
    ¬ LoadsWell 1000
      [({ attempts := 2, lastAttempt := .finite ⟨7, by decide⟩ } : Counters WholeFloat)]
      (encodeUtf8 ['[', ']']) := by
  intro h
  obtain ⟨level, total, hreturns, -⟩ := h.returns
  have hread : readDocument 1000 ((encodeUtf8 ['[', ']']).take ladderReadBytes) =
      .ok (JsonValue.arr [] : JsonValue WholeFloat) := by
    rw [List.take_of_length_le (by decide), readDocument, decodeUtf8_encodeUtf8]
    rfl
  rw [loadLadderFile, hread] at hreturns
  cases hreturns

end CameraStack.Fdir.LadderFile
