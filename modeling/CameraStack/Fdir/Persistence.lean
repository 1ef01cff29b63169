/-
# The ladder's two files

`reboot_count` survives reboots and is accessed by three functions, each of which
swallows a different set of operating-system errors.  The ladder state file lives
on tmpfs, survives process restarts only, is replaced atomically and is read back
with a single read of at most `ladderReadBytes` bytes.

The counter file is modelled by what a later read makes of its text: an integer,
or text that `int()` rejects (the empty text of a write that died after the
truncation).  The ladder file is modelled by the saved record together with the
length of the JSON text that stores it, because the bounded read turns a longer
text into a decoding error.
-/

import CameraStack.Fdir.Policy

namespace CameraStack.Fdir

/-! ## The reboot counter -/

/-- The counter file: absent, or a text with the value `int()` gives it (`none`
when the text is rejected). -/
inductive CountFile
  | absent
  | text (value : Option ℤ)
  deriving DecidableEq, Repr

namespace CountFile

/-- The value a read of the file substitutes: absence and rejected text are 0. -/
def value : CountFile → ℤ
  | .absent => 0
  | .text none => 0
  | .text (some n) => n

/-- What `os.open` with `O_CREAT` leaves behind: an absent file becomes empty. -/
def created : CountFile → CountFile
  | .absent => .text none
  | file => file

@[simp] theorem value_created (file : CountFile) : file.created.value = file.value := by
  cases file <;> rfl

end CountFile

/-- Where a locked write of the counter file stops.  `opening` covers the failures of
the directory and the open, `locking` those up to the truncation (lock, read),
`writing` those between the truncation and the end of the write, `syncing` those
after it. -/
inductive WriteFault
  | none | opening | locking | writing | syncing
  deriving DecidableEq, Repr

/-- The effect of the locked truncate-and-write of the counter file. -/
def writeCount (fault : WriteFault) (n : ℤ) (file : CountFile) : CountFile :=
  match fault with
  | .none => .text (some n)
  | .opening => file
  | .locking => file.created
  | .writing => .text none
  | .syncing => .text (some n)

/-- `read_reboot_count`: a missing file and a rejected text read as 0, any other
operating-system error is raised (`none`). -/
def readRebootCount (ioError : Bool) (file : CountFile) : Option ℤ :=
  if ioError then none else some file.value

/-- `write_reboot_count`: every operating-system error is swallowed. -/
def writeRebootCount (fault : WriteFault) (n : ℤ) (file : CountFile) : CountFile :=
  writeCount fault n file

/-- How the environment answers one increment: where the locked write stops, and
whether the read in the error handler fails as well. -/
structure IncrementAnswers where
  fault : WriteFault := .none
  fallbackReadError : Bool := false

/-- `atomic_increment_reboot_count`: the file afterwards and the returned count.
The error handler returns a fresh read plus one; that read may itself raise. -/
def atomicIncrementRebootCount (answers : IncrementAnswers) (file : CountFile) :
    CountFile × Option ℤ :=
  let file' := writeCount answers.fault (file.value + 1) file
  match answers.fault with
  | .none => (file', some (file.value + 1))
  | _ => (file', (readRebootCount answers.fallbackReadError file').map (· + 1))

/-! ## The ladder state file -/

/-- The record `save_ladder_state` writes. -/
structure SavedLadder where
  level : ℕ
  attempts : List ℤ
  lastAttempt : List ℚ
  totalRecoveries : ℤ
  ts : ℚ

/-- The size of the single `os.read` in `load_ladder_state`. -/
def ladderReadBytes : ℕ := 8192

/-- Rendered items with the separator of `json.dumps` between them. -/
def jsonItems : List String → String
  | [] => ""
  | [item] => item
  | item :: next :: rest => item ++ ", " ++ jsonItems (next :: rest)

/-- `json.dumps` of a list whose items are already rendered. -/
def jsonList (items : List String) : String := "[" ++ jsonItems items ++ "]"

/-- The separators alone cost two bytes for every item after the first. -/
theorem two_mul_length_le_jsonItems (items : List String) :
    2 * items.length ≤ (jsonItems items).utf8ByteSize + 2 := by
  induction items using jsonItems.induct with
  | case1 => simp [jsonItems]
  | case2 item => simp [jsonItems]
  | case3 item next rest ih =>
      have hsep : (", " : String).utf8ByteSize = 2 := by decide
      simp only [jsonItems, String.utf8ByteSize_append, hsep, List.length_cons] at ih ⊢
      omega

/-- The JSON text of a saved ladder.  `floatRepr` is Python's `repr` of a float. -/
def SavedLadder.text (floatRepr : ℚ → String) (saved : SavedLadder) : String :=
  "\x7b\"level\": " ++ toString saved.level ++
    ", \"attempts\": " ++ jsonList (saved.attempts.map toString) ++
    ", \"last_attempt\": " ++ jsonList (saved.lastAttempt.map floatRepr) ++
    ", \"total_recoveries\": " ++ toString saved.totalRecoveries ++
    ", \"ts\": " ++ floatRepr saved.ts ++ "\x7d"

/-- The saved text survives the bounded read. -/
def SavedLadder.Fits (floatRepr : ℚ → String) (saved : SavedLadder) : Prop :=
  (saved.text floatRepr).utf8ByteSize ≤ ladderReadBytes

instance (floatRepr : ℚ → String) (saved : SavedLadder) :
    Decidable (saved.Fits floatRepr) :=
  inferInstanceAs (Decidable (_ ≤ _))

/-- A ladder with more levels than the read has pairs of bytes is not read whole. -/
theorem SavedLadder.not_fits_of_length {floatRepr : ℚ → String} {saved : SavedLadder}
    (h : ladderReadBytes + 2 < 2 * saved.attempts.length) : ¬ saved.Fits floatRepr := by
  have hitems := two_mul_length_le_jsonItems (saved.attempts.map toString)
  rw [List.length_map] at hitems
  unfold Fits text jsonList
  simp only [String.utf8ByteSize_append]
  omega

/-- The record built by `save_ladder_state`. -/
def saveLadderState (level : ℕ) (levels : List LadderLevel) (total : ℤ) (wallClock : ℚ) :
    SavedLadder where
  level := level
  attempts := levels.map LadderLevel.attempts
  lastAttempt := levels.map LadderLevel.lastAttempt
  totalRecoveries := total
  ts := wallClock

/-- Overwrite one freshly built level with what the file stores at its index. -/
def SavedLadder.restore (saved : SavedLadder) (i : ℕ) (level : LadderLevel) : LadderLevel :=
  { level with
    attempts := saved.attempts[i]?.getD level.attempts
    lastAttempt := saved.lastAttempt[i]?.getD level.lastAttempt }

/-- The ladder a saved record describes: levels, current level, total. -/
def SavedLadder.decode (saved : SavedLadder) (levels : List LadderLevel) :
    List LadderLevel × ℕ × ℤ :=
  (levels.mapIdx saved.restore, min saved.level levels.length, saved.totalRecoveries)

/-- `load_ladder_state` on a file that only `save_ladder_state` writes.  A text
longer than the read is cut off, and a cut-off JSON object is a decoding error:
the ladder is reset to level 0 with untouched counters. -/
def loadLadderState (floatRepr : ℚ → String) (levels : List LadderLevel) :
    Option SavedLadder → List LadderLevel × ℕ × ℤ
  | none => (levels, 0, 0)
  | some saved => if saved.Fits floatRepr then saved.decode levels else (levels, 0, 0)

/-- A text that the read cuts off resets the ladder. -/
theorem loadLadderState_of_not_fits {floatRepr : ℚ → String} {levels : List LadderLevel}
    {saved : SavedLadder} (h : ¬ saved.Fits floatRepr) :
    loadLadderState floatRepr levels (some saved) = (levels, 0, 0) := by
  rw [loadLadderState, if_neg h]

/-- Decoding what was saved gives the ladder back, whatever the counters were. -/
theorem decode_saveLadderState {policy : List LevelPolicy} {levels : List LadderLevel}
    (hpolicy : levels.map LadderLevel.toLevelPolicy = policy) {level : ℕ}
    (hlevel : level ≤ levels.length) (total : ℤ) (wallClock : ℚ) :
    (saveLadderState level levels total wallClock).decode (policy.map LevelPolicy.build) =
      (levels, level, total) := by
  have hlength : policy.length = levels.length := by simp [← hpolicy]
  unfold SavedLadder.decode
  refine Prod.ext ?_ (Prod.ext ?_ rfl)
  · subst hpolicy
    apply List.ext_getElem?
    intro i
    cases hi : levels[i]? with
    | none => simp [List.getElem?_mapIdx, hi]
    | some lv =>
        simp [List.getElem?_mapIdx, hi, SavedLadder.restore, saveLadderState, LevelPolicy.build]
  · simpa [saveLadderState, hlength] using hlevel

end CameraStack.Fdir
