/-
# The tuning file of a sensor

The agent of a camera node keeps the tuning of a stream as `KEY="value"` lines, which a shell script
reads too.  It reads the file leniently and writes the keys in order.  What it writes it reads
back, for keys and values as it reads them where no value has a quote.  An update is validated
against the ranges of its fields before it is merged.
-/

import CameraStack.Lib.Dict
import CameraStack.Lib.PyNumber
import CameraStack.Lib.Text

namespace CameraStack.NodeAgent

open CameraStack.Lib

/-! ## Reading and writing -/

/-- The settings of a tuning file. -/
abbrev TuningEnv := Dict String

/-- `str.strip` of one character. -/
def stripOf (d : Char) (cs : Text) : Text :=
  ((cs.dropWhile (· = d)).reverse.dropWhile (· = d)).reverse

/-- One line of the loop of `_read_tuning_env`. -/
def parseTuningLine (raw : Text) : Option (String × String) :=
  let line := stripChars raw
  if line = [] ∨ line.head? = some '#' then none
  else
    (cutAt ['='] line).map fun parts =>
      (String.ofList (stripChars parts.1),
        String.ofList (stripOf '\'' (stripOf '"' (stripChars parts.2))))

/-- A character that ends a line of a text file.  The two of a pair end an empty line more, which is
skipped like any other. -/
def endsLine (c : Char) : Bool := c = '\n' || c = '\r'

/-- `_read_tuning_env` -/
def readTuningEnv (text : Text) : TuningEnv :=
  (∅ : TuningEnv).insertMany ((text.splitOnP endsLine).filterMap parseTuningLine)

/-- One line that `_write_tuning` writes. -/
def tuningLine (entry : String × String) : Text :=
  entry.1.toList ++ '=' :: '"' :: (entry.2.toList ++ ['"'])

/-- What `_write_tuning` writes. -/
def renderTuning (env : TuningEnv) : Text :=
  env.toList.flatMap fun entry => tuningLine entry ++ ['\n']

example : readTuningEnv "# node\r\n WIDTH = \"640\"\nFPS=15\nbroken".toList =
    (∅ : TuningEnv).insertMany [("WIDTH", "640"), ("FPS", "15")] := by
  decide +kernel

/-! ## Updates -/

/-- `_TUNING_ENVKEY` -/
def tuningEnvKey : List (String × String) :=
  [("width", "WIDTH"), ("height", "HEIGHT"), ("fps", "FPS"), ("rotation", "ROTATION"),
    ("bitrate_kbps", "BITRATE_KBPS")]

/-- `_TUNING_RANGE`; the rotation has none. -/
def tuningRange : String → Option (ℤ × ℤ)
  | "width" => some (160, 4096)
  | "height" => some (120, 2160)
  | "fps" => some (1, 120)
  | "bitrate_kbps" => some (100, 20000)
  | _ => none

section Validate

variable {F : Type} [FloatNumber F]

/-- The check of one field, by its value as an integer. -/
def tuningError (k : String) (v : ℤ) : Option String :=
  match tuningRange k with
  | none => if v ∈ [0, 90, 180, 270] then none else some "rotation must be 0/90/180/270"
  | some (lo, hi) =>
      if lo ≤ v ∧ v ≤ hi then none else some s!"{k} out of range [{lo},{hi}]"

/-- The loop of `_validate_tuning`, from the updates so far. -/
def validateFields (members : List (Text × JsonValue F)) :
    List (String × String) → List (String × String) →
      Except PyException (Except String (List (String × String)))
  | [], updates =>
      .ok (if updates = [] then .error "no tuning fields provided" else .ok updates)
  | (k, ek) :: fields, updates =>
      match members.lookup k.toList with
      | none | some .null => validateFields members fields updates
      | some value =>
          match toInt value with
          | .error .type | .error .value => .ok (.error s!"{k} must be an integer")
          | .error exception => .error exception
          | .ok v =>
              match tuningError k v with
              | some error => .ok (.error error)
              | none => validateFields members fields (updates ++ [(ek, toString v)])

/-- `_validate_tuning` of what a body is taken for; an exception that it does not catch ends the
request. -/
def validateTuning (body : JsonValue F) :
    Except PyException (Except String (List (String × String))) :=
  match body with
  | .obj members => validateFields members tuningEnvKey []
  | _ => validateFields (F := F) [] tuningEnvKey []

end Validate

/-! ## Round trip -/

/-- A key as it is read. -/
structure CleanTuningKey (key : Text) : Prop where
  stripped : Stripped key
  head : key.head? ≠ some '#'
  equals : '=' ∉ key
  line : ∀ c ∈ key, endsLine c = false

/-- A value as it is read, where it has no quote. -/
structure CleanTuningValue (value : Text) : Prop where
  double : '"' ∉ value
  single : '\'' ∉ value
  line : ∀ c ∈ value, endsLine c = false

/-- Settings that are read as they are written. -/
def CleanTuning (env : TuningEnv) : Prop :=
  env.Each fun key value => CleanTuningKey key.toList ∧ CleanTuningValue value.toList

/-- No value of a text has a quote. -/
def NoQuotes (text : Text) : Prop :=
  (readTuningEnv text).Each fun _ value => '"' ∉ value.toList ∧ '\'' ∉ value.toList

theorem stripOf_of_not_mem {d : Char} {cs : Text} (hd : d ∉ cs) : stripOf d cs = cs := by
  have hkept : ∀ {cs : Text}, d ∉ cs → cs.dropWhile (· = d) = cs := by
    intro cs hd
    apply dropWhile_eq_self_of_head
    intro c hc
    apply decide_eq_false
    rintro rfl
    exact hd (List.mem_of_mem_head? hc)
  rw [stripOf, hkept hd, hkept fun h => hd (List.mem_reverse.mp h), List.reverse_reverse]

/-- What is put between two quotes is what is left between them. -/
theorem stripOf_quoted {d : Char} {cs : Text} (hd : d ∉ cs) :
    stripOf d (d :: (cs ++ [d])) = cs := by
  have hself : decide (d = d) = true := decide_eq_true rfl
  have hfront : ∀ (front : Text), (d :: front).dropWhile (· = d) = front.dropWhile (· = d) := by
    intro front
    rw [List.dropWhile_cons, if_pos hself]
  rw [stripOf, hfront]
  cases cs with
  | nil => rw [List.nil_append, hfront]; rfl
  | cons c cs =>
      have hc : ¬ decide (c = d) = true := by
        rw [decide_eq_true_iff]
        rintro rfl
        exact hd List.mem_cons_self
      rw [List.cons_append, List.dropWhile_cons, if_neg hc, ← List.cons_append, List.reverse_append,
        List.reverse_singleton, List.singleton_append, hfront]
      have hrest := stripOf_of_not_mem hd
      rw [stripOf, List.dropWhile_cons, if_neg hc] at hrest
      exact hrest

theorem mem_of_mem_stripOf {d c : Char} {cs : Text} (h : c ∈ stripOf d cs) : c ∈ cs := by
  rw [stripOf, List.mem_reverse] at h
  have hmid := (List.dropWhile_suffix _).subset h
  rw [List.mem_reverse] at hmid
  exact (List.dropWhile_suffix _).subset hmid

theorem parseTuningLine_tuningLine {key value : String} (hkey : CleanTuningKey key.toList)
    (hvalue : CleanTuningValue value.toList) :
    parseTuningLine (tuningLine (key, value)) = some (key, value) := by
  have hhead : ∀ c, (tuningLine (key, value)).head? = some c →
      isPySpace c = false ∧ c ≠ '#' := by
    intro c hc
    rw [tuningLine] at hc
    cases hcs : key.toList with
    | nil =>
        rw [hcs] at hc
        obtain rfl : '=' = c := Option.some_inj.mp hc
        decide
    | cons d ds =>
        rw [hcs] at hc
        obtain rfl : d = c := Option.some_inj.mp hc
        constructor
        · exact hkey.stripped.1 d (by rw [hcs]; rfl)
        · rintro rfl
          exact hkey.head (by rw [hcs]; rfl)
  have hstrip : stripChars (tuningLine (key, value)) = tuningLine (key, value) := by
    apply stripChars_eq_self
    constructor
    · exact fun c hc => (hhead c hc).1
    · intro c hc
      have hquote : (tuningLine (key, value)).getLast? = some '"' := by
        simp [tuningLine, List.getLast?_append, List.getLast?_cons]
      rw [hquote] at hc
      obtain rfl := Option.some_inj.mp hc
      decide
  have hcond : ¬ (tuningLine (key, value) = [] ∨
      (tuningLine (key, value)).head? = some '#') := by
    rintro (hnil | hhash)
    · simp [tuningLine] at hnil
    · exact (hhead '#' hhash).2 rfl
  have hquoted : Stripped ('"' :: (value.toList ++ ['"'])) := by
    constructor
    · intro c hc
      obtain rfl := Option.some_inj.mp hc
      decide
    · intro c hc
      rw [← List.cons_append, List.getLast?_concat] at hc
      obtain rfl := Option.some_inj.mp hc
      decide
  rw [parseTuningLine, hstrip]
  simp only [if_neg hcond]
  rw [tuningLine, cutAt_of_not_mem hkey.equals, Option.map_some, stripChars_eq_self hkey.stripped,
    stripChars_eq_self hquoted, stripOf_quoted hvalue.double, stripOf_of_not_mem hvalue.single,
    String.ofList_toList, String.ofList_toList]

/-- Settings are read as they were written. -/
theorem readTuningEnv_renderTuning {env : TuningEnv} (h : CleanTuning env) :
    readTuningEnv (renderTuning env) = env := by
  have hentries := h.toList
  have hlines : ∀ entries : List (String × String),
      (∀ entry ∈ entries,
        CleanTuningKey entry.1.toList ∧ CleanTuningValue entry.2.toList) →
      ((entries.flatMap fun entry => tuningLine entry ++ ['\n']).splitOnP endsLine).filterMap
        parseTuningLine = entries := by
    intro entries hclean
    induction entries with
    | nil => rfl
    | cons entry entries ih =>
        obtain ⟨hentry, hrest⟩ := List.forall_mem_cons.mp hclean
        have hline : ∀ c ∈ tuningLine entry, endsLine c = false := by
          intro c hc
          rw [tuningLine, List.mem_append, List.mem_cons, List.mem_cons, List.mem_append,
            List.mem_singleton] at hc
          rcases hc with hc | rfl | rfl | hc | rfl
          · exact hentry.1.line c hc
          · rfl
          · rfl
          · exact hentry.2.line c hc
          · rfl
        rw [List.flatMap_cons, List.append_assoc, List.singleton_append,
          List.splitOnP_append_cons_of_forall_mem hline '\n' rfl, List.filterMap_cons_some
            (parseTuningLine_tuningLine hentry.1 hentry.2), ih hrest]
  rw [readTuningEnv, renderTuning, hlines env.toList hentries]
  exact Dict.insertMany_toList env

/-! ## What is read is clean -/

theorem not_of_mem_splitOnP {p : Char → Bool} {cs line : Text} (hline : line ∈ cs.splitOnP p) :
    ∀ c ∈ line, p c = false := by
  induction cs generalizing line with
  | nil =>
      rw [List.splitOnP_nil, List.mem_singleton] at hline
      rw [hline]
      exact fun c hc => absurd hc List.not_mem_nil
  | cons d cs ih =>
      rw [List.splitOnP_cons_eq_if_modifyHead] at hline
      split_ifs at hline with hd
      · rcases List.mem_cons.mp hline with rfl | hline
        · exact fun c hc => absurd hc List.not_mem_nil
        · exact ih hline
      · cases hsplit : cs.splitOnP p with
        | nil => exact absurd hsplit (List.splitOnP_ne_nil p cs)
        | cons first rest =>
            rw [hsplit, List.modifyHead_cons, List.mem_cons] at hline
            rcases hline with rfl | hline
            · intro c hc
              rcases List.mem_cons.mp hc with rfl | hc
              · exact Bool.eq_false_of_not_eq_true hd
              · exact ih (hsplit ▸ List.mem_cons_self) c hc
            · exact ih (hsplit ▸ List.mem_cons_of_mem first hline)

/-- Stripping keeps a first character that is no space, or leaves nothing. -/
theorem head?_of_stripChars {cs : Text} (hcs : ∀ c, cs.head? = some c → isPySpace c = false)
    {c : Char} (h : (stripChars cs).head? = some c) : cs.head? = some c := by
  have hprefix : stripChars cs <+: cs := by
    rw [stripChars, dropWhile_eq_self_of_head hcs]
    exact rstripChars_isPrefix cs
  obtain ⟨rest, hrest⟩ := hprefix
  rw [← hrest, List.head?_append, h]
  rfl

/-- A key and a value are read from one line. -/
theorem cleanKey_of_parseTuningLine {raw : Text} (hraw : ∀ c ∈ raw, endsLine c = false)
    {key value : String} (h : parseTuningLine raw = some (key, value)) :
    CleanTuningKey key.toList ∧ ∀ c ∈ value.toList, endsLine c = false := by
  rw [parseTuningLine] at h
  split_ifs at h with hskip
  obtain ⟨⟨before, rest⟩, hcut, heq⟩ := Option.map_eq_some_iff.mp h
  obtain ⟨rfl, rfl⟩ := Prod.mk.inj heq
  have hsplit := cutAt_eq_some hcut
  have hmem : ∀ c, c ∈ before ∨ c ∈ rest → endsLine c = false := by
    intro c hc
    apply hraw
    apply mem_of_mem_stripChars
    rw [hsplit, List.mem_append, List.mem_append]
    rcases hc with hc | hc
    · exact Or.inl (Or.inl hc)
    · exact Or.inr hc
  rw [String.toList_ofList, String.toList_ofList]
  refine ⟨⟨stripped_stripChars before, ?_, ?_, ?_⟩, ?_⟩
  · intro hhash
    have hhead : ∀ c, before.head? = some c → (stripChars raw).head? = some c := by
      intro c hc
      rw [hsplit, List.append_assoc, List.head?_append, hc]
      rfl
    have hfirst : ∀ c, before.head? = some c → isPySpace c = false := fun c hc =>
      (stripped_stripChars raw).1 c (hhead c hc)
    exact hskip (Or.inr (hhead '#' (head?_of_stripChars hfirst hhash)))
  · exact fun hc => not_mem_of_cutAt hcut (mem_of_mem_stripChars hc)
  · exact fun c hc => hmem c (Or.inl (mem_of_mem_stripChars hc))
  · exact fun c hc => hmem c
      (Or.inr (mem_of_mem_stripChars (mem_of_mem_stripOf (mem_of_mem_stripOf hc))))

theorem cleanTuning_readTuningEnv {text : Text} (h : NoQuotes text) :
    CleanTuning (readTuningEnv text) := by
  have hread : (readTuningEnv text).Each fun key value =>
      CleanTuningKey key.toList ∧ ∀ c ∈ value.toList, endsLine c = false := by
    refine Dict.each_empty.insertMany fun entry hentry => ?_
    obtain ⟨line, hline, hparse⟩ := List.mem_filterMap.mp hentry
    exact cleanKey_of_parseTuningLine (not_of_mem_splitOnP hline) hparse
  intro key value hvalue
  obtain ⟨hkey, hline⟩ := hread key value hvalue
  obtain ⟨hdouble, hsingle⟩ := h key value hvalue
  exact ⟨hkey, ⟨hdouble, hsingle, hline⟩⟩

/-! ## Updates are clean -/

theorem cleanTuningKey_of_mem {entry : String × String} (h : entry ∈ tuningEnvKey) :
    CleanTuningKey entry.2.toList := by
  have hchars : (tuningEnvKey.all fun field => field.2.toList.all fun c =>
      !isPySpace c && c ≠ '#' && c ≠ '=' && !endsLine c) = true := by decide
  have hall := List.all_eq_true.mp (List.all_eq_true.mp hchars entry h)
  simp only [Bool.and_eq_true, Bool.not_eq_true', decide_eq_true_eq] at hall
  constructor
  · constructor
    · exact fun c hc => (hall c (List.mem_of_mem_head? hc)).1.1.1
    · exact fun c hc => (hall c (List.mem_of_mem_getLast? hc)).1.1.1
  · exact fun hhash => (hall '#' (List.mem_of_mem_head? hhash)).1.1.2 rfl
  · exact fun hc => (hall '=' hc).1.2 rfl
  · exact fun c hc => (hall c hc).2

theorem cleanTuningValue_toString (v : ℤ) : CleanTuningValue (toString v).toList := by
  constructor
  · intro hc
    exact absurd (mem_toString_int hc) (by decide)
  · intro hc
    exact absurd (mem_toString_int hc) (by decide)
  · intro c hc
    rcases mem_toString_int hc with hdigit | rfl
    · apply Bool.eq_false_of_not_eq_true
      intro hends
      have hline : c = '\n' ∨ c = '\r' := by simpa [endsLine] using hends
      rcases hline with rfl | rfl
      · exact absurd hdigit (by decide)
      · exact absurd hdigit (by decide)
    · rfl

variable {F : Type} [FloatNumber F]

/-- What the loop accepts are fields of the table with integers. -/
theorem validateFields_eq_ok {members : List (Text × JsonValue F)}
    {fields updates result : List (String × String)}
    (h : validateFields members fields updates = .ok (.ok result)) :
    ∀ update ∈ result, update ∈ updates ∨
      (∃ field ∈ fields, field.2 = update.1) ∧ ∃ v : ℤ, update.2 = toString v := by
  induction fields generalizing updates with
  | nil =>
      rw [validateFields] at h
      split_ifs at h
      · cases Except.ok.inj h
      · obtain rfl := Except.ok.inj (Except.ok.inj h)
        exact fun update hmem => Or.inl hmem
  | cons field fields ih =>
      obtain ⟨k, ek⟩ := field
      have hskip : validateFields members fields updates = .ok (.ok result) →
          ∀ update ∈ result, update ∈ updates ∨
            (∃ field ∈ (k, ek) :: fields, field.2 = update.1) ∧ ∃ v : ℤ, update.2 = toString v := by
        intro h update hmem
        exact (ih h update hmem).imp_right fun hrest =>
          ⟨hrest.1.imp fun field hfield => ⟨List.mem_cons_of_mem _ hfield.1, hfield.2⟩, hrest.2⟩
      rw [validateFields] at h
      split at h
      · exact hskip h
      · exact hskip h
      · split at h
        · cases h
        · cases h
        · cases h
        · next v _ =>
            split at h
            · cases h
            · intro update hmem
              rcases ih h update hmem with hmem | ⟨⟨field, hfield, heq⟩, hv⟩
              · rcases List.mem_append.mp hmem with hmem | hmem
                · exact Or.inl hmem
                · rw [List.mem_singleton.mp hmem]
                  exact Or.inr ⟨⟨(k, ek), List.mem_cons_self, rfl⟩, v, rfl⟩
              · exact Or.inr ⟨⟨field, List.mem_cons_of_mem _ hfield, heq⟩, hv⟩

/-- An update is clean. -/
theorem cleanTuning_of_validateTuning {body : JsonValue F} {updates : List (String × String)}
    (h : validateTuning body = .ok (.ok updates)) :
    ∀ update ∈ updates, CleanTuningKey update.1.toList ∧ CleanTuningValue update.2.toList := by
  have hfields : ∃ members : List (Text × JsonValue F),
      validateFields members tuningEnvKey [] = .ok (.ok updates) := by
    rw [validateTuning.eq_def] at h
    split at h
    · exact ⟨_, h⟩
    · exact ⟨_, h⟩
  obtain ⟨members, hmembers⟩ := hfields
  intro update hmem
  rcases validateFields_eq_ok hmembers update hmem with hnone | ⟨⟨field, hfield, hkey⟩, v, hv⟩
  · exact absurd hnone List.not_mem_nil
  · rw [← hkey, hv]
    exact ⟨cleanTuningKey_of_mem hfield, cleanTuningValue_toString v⟩

end CameraStack.NodeAgent
