/-
# What an update of the secret store keeps

An update sets one key and writes the file.  It should be read back, leave every other key
and every comment as it was, and change nothing when it is made once more.

The dictionary that is read afterwards is the one that was written, each value read again.
What a value loses in that reading is the first condition.  The second is about a field
that is set twice: a key that is not in capitals is not found in the file, so its line is
written behind the others each time, and of two empty last lines each write takes one.
-/

import CameraStack.Admin.SecretSave

namespace CameraStack.Admin.SecretStore

open CameraStack.Lib
open CameraStack.Runtime.EnvWriter (sensitiveKeys)

/-! ## Updates -/

/-- The two ways to set a key. -/
inductive Op
  | rotate (key : String) (draw : List UInt8) (now : ℕ)
  | setField (key value : String)

namespace Op

def key : Op → String
  | rotate key _ _ => key
  | setField key _ => key

/-- The value that is set, and the store afterwards. -/
def run : Op → Store → Except Raised (String × Store)
  | rotate key draw now, store => SecretStore.rotate key draw now store
  | setField key value, store => (SecretStore.setField key value store).map fun s => (value, s)

/-- What the routes let through. -/
def Accepted : Op → Prop
  | rotate key _ _ => key ∈ sensitiveKeys
  | setField key value => validRequest key value = true ∧ key ∉ sensitiveKeys

end Op

/-- The lines of a file. -/
def fileLines (file : Option String) : List (List Char) :=
  file.elim [] fun text => splitLines text.toList

def commentLines (file : Option String) : List (List Char) := (fileLines file).filter isComment

/-- What an update with the value `new` should do. -/
structure UpdateLaw (op : Op) (store : Store) (new : String) (store' : Store) : Prop where
  revealed : reveal store' op.key = .ok (some new)
  framed : ∀ other, other ≠ op.key → reveal store' other = reveal store other
  comments : (commentLines store.env).Sublist (commentLines store'.env)
  repeated : ∀ key value, op = .setField key value → setField key value store' = .ok store'

/-! ## When it does -/

/-- A pair of equal quotes around a value; one quote alone is its own pair. -/
def Quoted (value : List Char) : Prop :=
  (value.head? = some '"' ∧ value.getLast? = some '"') ∨
    (value.head? = some '\'' ∧ value.getLast? = some '\'')

/-- A value that is read as it is written. -/
def Plain (value : String) : Prop := Stripped value.toList ∧ ¬ Quoted value.toList

/-- Every other value is plain. -/
def PlainOthers (store : Store) (key : String) : Prop :=
  ∀ other value, other ≠ key → reveal store other = .ok (some value) → Plain value

/-- The condition of a field that is set. -/
structure SettableField (store : Store) (key value : String) : Prop where
  oneLine : OneLine value
  plain : Plain value
  others : PlainOthers store key
  /-- The pattern of the writer finds every key. -/
  capitals : ∀ other w, reveal store other = .ok (some w) → isUpperKey other.toList = true
  /-- Over a key the file has, the file does not end in two empty lines. -/
  ending : reveal store key ≠ .ok none → ¬ [[], []] <:+ fileLines store.env

/-- The condition of an update. -/
def Meets (store : Store) : Op → Prop
  | .rotate key _ _ => PlainOthers store key
  | .setField key value => SettableField store key value

theorem unquote_of_not_quoted {value : List Char} (h : ¬ Quoted value) : unquote value = value :=
  if_neg h

theorem length_unquote_lt {value : List Char} (h : Quoted value) :
    (unquote value).length < value.length := by
  have hne : value ≠ [] := by
    rintro rfl
    rcases h with ⟨h, -⟩ | ⟨h, -⟩
    · cases h
    · cases h
  have hpos := List.length_pos_iff.mpr hne
  have hunquote : unquote value = (value.drop 1).dropLast := if_pos h
  rw [hunquote, List.length_dropLast, List.length_drop]
  omega

theorem stripChars_sublist (cs : List Char) : (stripChars cs).Sublist cs :=
  ((rstripChars_isPrefix _).sublist).trans (List.dropWhile_suffix _).sublist

theorem reread_eq_iff {value : String} : reread value = value ↔ Plain value := by
  rw [reread, ← String.toList_inj, String.toList_ofList]
  constructor
  · intro heq
    have hlength := congrArg List.length heq
    have hsub := (stripChars_sublist value.toList).length_le
    by_cases hquoted : Quoted (stripChars value.toList)
    · have hlt := length_unquote_lt hquoted
      omega
    · rw [unquote_of_not_quoted hquoted] at heq
      rw [heq] at hquoted
      have hstripped := stripped_stripChars value.toList
      rw [heq] at hstripped
      exact ⟨hstripped, hquoted⟩
  · rintro ⟨hstripped, hquoted⟩
    rw [stripChars_eq_self hstripped, unquote_of_not_quoted hquoted]

/-! ## Generated values -/

/-- Neither a blank nor a quote. -/
def isTokenChar (c : Char) : Bool := !isPySpace c && c ≠ '"' && c ≠ '\''

theorem plain_of_token {value : String} (h : ∀ c ∈ value.toList, isTokenChar c = true) :
    OneLine value ∧ Plain value := by
  have hchar : ∀ c ∈ value.toList, isPySpace c = false ∧ c ≠ '"' ∧ c ≠ '\'' := by
    intro c hc
    have hc := h c hc
    simp only [isTokenChar, Bool.and_eq_true, Bool.not_eq_true', decide_eq_true_eq] at hc
    exact ⟨hc.1.1, hc.1.2, hc.2⟩
  obtain ⟨hstripped, hline⟩ :=
    Runtime.cleanText_of_forall fun c hc => (hchar c hc).1
  have hquoted : ¬ Quoted value.toList := by
    rintro (⟨hhead, -⟩ | ⟨hhead, -⟩)
    · exact (hchar _ (List.mem_of_mem_head? hhead)).2.1 rfl
    · exact (hchar _ (List.mem_of_mem_head? hhead)).2.2 rfl
  exact ⟨hline, hstripped, hquoted⟩

theorem isTokenChar_generate (key : String) (draw : List UInt8) :
    ∀ c ∈ (generate key draw).toList, isTokenChar c = true := by
  have hget : ∀ (alphabet : List Char) (d : Char), (d :: alphabet).all isTokenChar = true →
      ∀ n, isTokenChar (alphabet.getD n d) = true := by
    intro alphabet d hall n
    rw [List.all_eq_true] at hall
    apply hall
    rw [List.getD_eq_getElem?_getD]
    cases hn : alphabet[n]? with
    | none => exact List.mem_cons_self
    | some c => exact List.mem_cons_of_mem _ (List.mem_of_getElem? hn)
  intro c hc
  rw [generate] at hc
  split at hc
  · rw [tokenUrlsafe, String.toList_ofList] at hc
    obtain ⟨n, -, rfl⟩ := List.mem_map.mp hc
    exact hget urlsafeAlphabet 'A' (by decide +kernel) n
  · rw [tokenHex, String.toList_ofList] at hc
    obtain ⟨n, -, rfl⟩ := List.mem_map.mp hc
    exact hget hexAlphabet '0' (by decide +kernel) n

/-! ## The law -/

section Law

variable {store : Store} {before : PyDict String} {key value : String}

theorem reveal_eq (h : load store.env = .ok before) (key : String) :
    reveal store key = .ok (before.get? key) := by
  rw [reveal, h]

theorem oneLine_of_reveal (h : reveal store key = .ok (some value)) : OneLine value := by
  rw [reveal] at h
  split at h
  · cases h
  · next values hload =>
      rw [load_eq hload] at h
      exact oneLine_parseLines (unbroken_baseLines store.env) (Except.ok.inj h)

/-- The store after a key was set. -/
def setStore (store : Store) (before : PyDict String) (key value : String)
    (timestamps : Option String) : Store where
  env := some (saveEnv store.env (before.set key value))
  timestamps := timestamps

variable {timestamps : Option String}

/-- The file that was read and the key that is set. -/
structure Setting (store : Store) (before : PyDict String) (key : String) : Prop where
  load : load store.env = .ok before
  upper : isUpperKey key.toList = true

namespace Setting

theorem covers (h : Setting store before key) (value : String) :
    Covers (before.set key value) (baseLines store.env) := by
  rw [load_eq h.load]
  exact covers_set (baseLines store.env) key value

theorem keyForm (h : Setting store before key) (value : String) :
    ∀ other ∈ (before.set key value).keys, KeyForm other := by
  rw [load_eq h.load]
  exact keyForm_set (unbroken_baseLines store.env) h.upper value

theorem mem_keys (before : PyDict String) (key value : String) :
    key ∈ (before.set key value).keys := by
  rw [PyDict.mem_keys_iff, PyDict.get?_set, if_pos rfl]
  rfl

theorem oneLine (h : Setting store before key) (hvalue : OneLine value) :
    ∀ other w, (before.set key value).get? other = some w → OneLine w := by
  intro other w hw
  rw [PyDict.get?_set] at hw
  split at hw
  · cases hw
    exact hvalue
  · rw [load_eq h.load] at hw
    exact oneLine_parseLines (unbroken_baseLines store.env) hw

theorem unbroken (h : Setting store before key) (hvalue : OneLine value) :
    Unbroken (savedLines (before.set key value) (baseLines store.env)) :=
  unbroken_savedLines (unbroken_baseLines store.env) (h.keyForm value) (h.oneLine hvalue)

/-- What is read afterwards. -/
theorem reveal_set (h : Setting store before key) (hvalue : OneLine value) (other : String) :
    reveal (setStore store before key value timestamps) other =
      .ok (((before.set key value).get? other).map reread) := by
  obtain ⟨after, hload, hget⟩ := load_saveEnv (h.covers value) (h.keyForm value)
    (mem_keys before key value) (h.unbroken hvalue)
  rw [reveal_eq hload, hget]

theorem revealed_iff (h : Setting store before key) :
    reveal (setStore store before key value timestamps) key = .ok (some value) ↔
      OneLine value ∧ Plain value := by
  have hread : OneLine value →
      (reveal (setStore store before key value timestamps) key = .ok (some value) ↔
        Plain value) := by
    intro hvalue
    rw [h.reveal_set hvalue, PyDict.get?_set, if_pos rfl, Option.map_some, Except.ok.injEq,
      Option.some.injEq, reread_eq_iff]
  constructor
  · intro hrevealed
    have hvalue := oneLine_of_reveal hrevealed
    exact ⟨hvalue, (hread hvalue).mp hrevealed⟩
  · rintro ⟨hvalue, hplain⟩
    exact (hread hvalue).mpr hplain

theorem framed_iff (h : Setting store before key) (hvalue : OneLine value) :
    (∀ other, other ≠ key →
        reveal (setStore store before key value timestamps) other = reveal store other) ↔
      PlainOthers store key := by
  have hother : ∀ other, other ≠ key →
      (reveal (setStore store before key value timestamps) other = reveal store other ↔
        ∀ w, before.get? other = some w → Plain w) := by
    intro other hne
    rw [h.reveal_set hvalue, reveal_eq h.load, PyDict.get?_set, if_neg hne, Except.ok.injEq]
    cases before.get? other with
    | none => simp
    | some w =>
        rw [Option.map_some, Option.some.injEq, reread_eq_iff]
        simp
  constructor
  · intro hframed other w hne hw
    rw [reveal_eq h.load, Except.ok.injEq] at hw
    exact (hother other hne).mp (hframed other hne) w hw
  · intro hplain other hne
    apply (hother other hne).mpr
    intro w hw
    apply hplain other w hne
    rw [reveal_eq h.load, hw]

theorem comments_kept (h : Setting store before key) (hvalue : OneLine value) :
    (commentLines store.env).Sublist
      (commentLines (setStore store before key value timestamps).env) := by
  have hne := savedLines_ne_nil (baseLines store.env) (mem_keys before key value)
  have hsaved : commentLines (setStore store before key value timestamps).env =
      (baseLines store.env).filter isComment := by
    show (splitLines _).filter isComment = _
    rw [splitLines_saveEnv hne (h.unbroken hvalue), filter_isComment_dropEmptyLast,
      filter_isComment_savedLines (h.covers value) (h.keyForm value)]
  rw [hsaved]
  cases store.env with
  | none => exact List.nil_sublist _
  | some text => exact List.Sublist.refl _

/-- The second dictionary holds what the first one held. -/
theorem get?_again (hothers : PlainOthers store key) (h : Setting store before key)
    {after : PyDict String}
    (hget : ∀ other, after.get? other = ((before.set key value).get? other).map reread)
    (other : String) :
    (after.set key value).get? other = (before.set key value).get? other := by
  rw [PyDict.get?_set, PyDict.get?_set]
  split
  · rfl
  · next hne =>
      rw [hget, PyDict.get?_set, if_neg hne]
      cases hw : before.get? other with
      | none => rfl
      | some w =>
          have hplain : Plain w := by
            apply hothers other w hne
            rw [reveal_eq h.load, hw]
          rw [Option.map_some, reread_eq_iff.mpr hplain]

/-- A field that is set once more leaves the store when its second save leaves the lines. -/
theorem repeated_iff_lines (h : Setting store before key) (hsensitive : key ∉ sensitiveKeys)
    (hvalue : OneLine value) (hothers : PlainOthers store key) :
    setField key value (setStore store before key value timestamps) =
        .ok (setStore store before key value timestamps) ↔
      (∀ other ∈ (before.set key value).keys, isUpperKey other.toList = true) ∧
        ¬ [[], []] <:+ savedLines (before.set key value) (baseLines store.env) := by
  have hcovers := h.covers value
  have hkeys := h.keyForm value
  have hkey := mem_keys before key value
  have hne := savedLines_ne_nil (baseLines store.env) hkey
  have hunbroken := h.unbroken hvalue
  obtain ⟨after, hload, hget⟩ := load_saveEnv hcovers hkeys hkey hunbroken
  have hagain : Again (before.set key value) (after.set key value) (baseLines store.env) :=
    { covers := hcovers
      keys := hkeys
      same := get?_again hothers h hget
      parsed := by
        intro other
        rw [get?_savedLines hcovers hkeys, Option.isSome_map] }
  have hrun : setField key value (setStore store before key value timestamps) =
      .ok { env := some (saveEnv (some (saveEnv store.env (before.set key value)))
              (after.set key value))
            timestamps := timestamps } := by
    rw [setField, if_neg hsensitive]
    simp only [setStore, hload]
  have hsecond : Unbroken
      (savedLines (after.set key value) (dropEmptyLast (savedLines (before.set key value)
        (baseLines store.env)))) := by
    apply unbroken_savedLines hunbroken.dropEmptyLast
    · intro other hother
      exact hkeys other (hagain.mem_keys.mp hother)
    · intro other w hw
      rw [hagain.same] at hw
      exact h.oneLine hvalue other w hw
  have hsecondNe := savedLines_ne_nil
    (dropEmptyLast (savedLines (before.set key value) (baseLines store.env)))
    (mem_keys after key value)
  have htext : saveEnv (some (saveEnv store.env (before.set key value))) (after.set key value) =
      saveEnv store.env (before.set key value) ↔
        dropEmptyLast (savedLines (after.set key value)
            (dropEmptyLast (savedLines (before.set key value) (baseLines store.env)))) =
          dropEmptyLast (savedLines (before.set key value) (baseLines store.env)) := by
    rw [← terminated_joinLines_inj hsecondNe hsecond hne hunbroken, ← String.toList_inj,
      saveEnv_toList, saveEnv_toList, baseLines, ← saveEnv_toList,
      splitLines_saveEnv hne hunbroken]
  rw [hrun, ← hagain.again_iff hkey, ← htext]
  simp [setStore]

/-- Over plain values the field set once more leaves the store under two conditions. -/
theorem repeated_iff (h : Setting store before key) (hsensitive : key ∉ sensitiveKeys)
    (hvalue : OneLine value) (hothers : PlainOthers store key) :
    setField key value (setStore store before key value timestamps) =
        .ok (setStore store before key value timestamps) ↔
      (∀ other w, reveal store other = .ok (some w) → isUpperKey other.toList = true) ∧
        (reveal store key ≠ .ok none → ¬ [[], []] <:+ fileLines store.env) := by
  have hmem : ∀ other, other ∈ (before.set key value).keys ↔
      other = key ∨ ∃ w, reveal store other = .ok (some w) := by
    intro other
    rw [PyDict.mem_keys_iff, PyDict.get?_set, reveal_eq h.load]
    by_cases heq : other = key
    · simp [heq]
    · simp [heq, Option.isSome_iff_exists]
  have hcapitals : (∀ other ∈ (before.set key value).keys, isUpperKey other.toList = true) ↔
      ∀ other w, reveal store other = .ok (some w) → isUpperKey other.toList = true := by
    constructor
    · intro hall other w hw
      exact hall other ((hmem other).mpr (.inr ⟨w, hw⟩))
    · intro hall other hother
      rcases (hmem other).mp hother with rfl | ⟨w, hw⟩
      · exact h.upper
      · exact hall other w hw
  rw [h.repeated_iff_lines hsensitive hvalue hothers, hcapitals]
  apply and_congr_right
  intro hall
  rw [savedLines_ending (h.covers value) (hcapitals.mpr hall), ← load_eq h.load]
  have hfound : (∀ other ∈ (before.set key value).keys, other ∈ before.keys) ↔
      reveal store key ≠ .ok none := by
    rw [reveal_eq h.load]
    constructor
    · intro hkeys hnone
      have hkey := hkeys key (mem_keys before key value)
      rw [PyDict.mem_keys_iff, Except.ok.inj hnone] at hkey
      cases hkey
    · intro hsome other hother
      rw [PyDict.mem_keys_iff]
      rcases (hmem other).mp hother with rfl | ⟨w, hw⟩
      · exact Option.isSome_iff_ne_none.mpr fun hnone => hsome (congrArg Except.ok hnone)
      · rw [reveal_eq h.load, Except.ok.injEq] at hw
        rw [hw]
        rfl
  have hlines : reveal store key ≠ .ok none → baseLines store.env = fileLines store.env := by
    intro hsome
    cases henv : store.env with
    | some text => rfl
    | none =>
        have hload := h.load
        rw [henv] at hload
        cases hload
        rw [reveal, henv] at hsome
        exact absurd rfl hsome
  rw [hfound, not_and]
  constructor
  · intro hend hsome
    rw [← hlines hsome]
    exact hend hsome
  · intro hend hsome
    rw [hlines hsome]
    exact hend hsome

end Setting

theorem isUpperKey_of_accepted {op : Op} (h : op.Accepted) : isUpperKey op.key.toList = true := by
  cases op with
  | rotate key draw now =>
      have hall : sensitiveKeys.all (fun key => isUpperKey key.toList) = true := by decide +kernel
      exact List.all_eq_true.mp hall key h
  | setField key value =>
      have hvalid := (Bool.and_eq_true_iff.mp h.1).1
      show isUpperKey key.toList = true
      cases hkey : key.toList with
      | nil => rw [hkey] at hvalid; cases hvalid
      | cons c cs =>
          rw [hkey, Bool.and_eq_true] at hvalid
          simp [isUpperKey, isKeyStart, hvalid.1, hvalid.2]

/-- An accepted update of a file that loads succeeds, and it does what it should exactly
under its condition. -/
theorem update_law_iff (store : Store) (op : Op) (values : PyDict String) (h : op.Accepted)
    (hload : load store.env = .ok values) :
    ∃ new store', op.run store = .ok (new, store') ∧
      (UpdateLaw op store new store' ↔ Meets store op) := by
  have hsetting : Setting store values op.key := ⟨hload, isUpperKey_of_accepted h⟩
  cases op with
  | rotate key draw now =>
      obtain ⟨hline, hplain⟩ := plain_of_token (isTokenChar_generate key draw)
      use generate key draw, setStore store values key (generate key draw)
        (some (saveTimestamps ((loadTimestamps store.timestamps).insert key now)))
      constructor
      · simp only [Op.run, SecretStore.rotate, hload, setStore]
      · constructor
        · intro law
          exact (hsetting.framed_iff hline).mp law.framed
        · intro hothers
          exact
            { revealed := hsetting.revealed_iff.mpr ⟨hline, hplain⟩
              framed := (hsetting.framed_iff hline).mpr hothers
              comments := hsetting.comments_kept hline
              repeated := fun _ _ heq => by cases heq }
  | setField key value =>
      use value, setStore store values key value store.timestamps
      constructor
      · simp only [Op.run, SecretStore.setField, if_neg h.2, hload, setStore]
        rfl
      · constructor
        · intro law
          obtain ⟨hline, hplain⟩ := hsetting.revealed_iff.mp law.revealed
          have hothers := (hsetting.framed_iff hline).mp law.framed
          obtain ⟨hcapitals, hending⟩ :=
            (hsetting.repeated_iff h.2 hline hothers).mp (law.repeated key value rfl)
          exact ⟨hline, hplain, hothers, hcapitals, hending⟩
        · intro meets
          exact
            { revealed := hsetting.revealed_iff.mpr ⟨meets.oneLine, meets.plain⟩
              framed := (hsetting.framed_iff meets.oneLine).mpr meets.others
              comments := hsetting.comments_kept meets.oneLine
              repeated := by
                intro key' value' heq
                cases heq
                exact (hsetting.repeated_iff h.2 meets.oneLine meets.others).mpr
                  ⟨meets.capitals, meets.ending⟩ }

end Law

/-! ## A key in small letters -/

/-- A file in which one key is not in capitals. -/
def mixedStore : Store where
  env := some "TURN_HOST=turn.local\nproxy=none\n"
  timestamps := none

/-- Its line is there twice after a field was set. -/
def mixedStoreSet : Store where
  env := some "TURN_HOST=turn.local\nproxy=none\nproxy=none\nTURN_REALM=cam\n"
  timestamps := none

theorem load_mixedStore :
    load mixedStore.env = .ok (parseEnvFile "TURN_HOST=turn.local\nproxy=none\n") := by
  have hsome : ¬ ((parseEnvFile "TURN_HOST=turn.local\nproxy=none\n").entries = [] ∧
      (splitLines "TURN_HOST=turn.local\nproxy=none\n".toList).filter meaningful ≠ []) := by
    decide +kernel
  rw [mixedStore, load, if_neg hsome]

theorem accepted_mixed : (Op.setField "TURN_REALM" "cam").Accepted :=
  ⟨by decide +kernel, by decide⟩

theorem update_law_iff_mixed : ∃ new store',
    (Op.setField "TURN_REALM" "cam").run mixedStore = .ok (new, store') ∧
      (UpdateLaw (.setField "TURN_REALM" "cam") mixedStore new store' ↔
        Meets mixedStore (.setField "TURN_REALM" "cam")) :=
  update_law_iff mixedStore _ _ accepted_mixed load_mixedStore

/-- Set once more, the field makes the file longer. -/
theorem repeated_set_grows :
    ¬ ∀ (store : Store) (op : Op) (values : PyDict String), op.Accepted →
      load store.env = .ok values →
        ∃ new store', op.run store = .ok (new, store') ∧ UpdateLaw op store new store' := by
  intro hall
  obtain ⟨new, store', hrun, law⟩ := hall mixedStore _ _ accepted_mixed load_mixedStore
  have hfirst : ((Op.setField "TURN_REALM" "cam").run mixedStore).toOption =
      some ("cam", mixedStoreSet) := by decide +kernel
  have hsecond : (setField "TURN_REALM" "cam" mixedStoreSet).toOption ≠ some mixedStoreSet := by
    decide +kernel
  rw [hrun] at hfirst
  cases hfirst
  have hrepeated := law.repeated "TURN_REALM" "cam" rfl
  rw [hrepeated] at hsecond
  exact hsecond rfl

end CameraStack.Admin.SecretStore
