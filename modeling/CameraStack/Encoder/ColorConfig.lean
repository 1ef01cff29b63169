/-
# The tuning of the color encoder

The operator sets the tuning of the encoder as a whole; it is kept in an environment file that
the encoder reads when it starts.  The file may be edited by hand and may hold more keys.  An
update reads the file, sets its keys and writes the file anew, and only the writing is done
under the lock.

An update is read back as it was made exactly when the two texts in it survive the reader,
which takes blanks and quotes off.
-/

import CameraStack.Lib.EnvLines
import CameraStack.Lib.PyNumber

namespace CameraStack.Encoder

open CameraStack.Lib

/-! ## The store -/

/-- `str.strip` of one character. -/
def stripChar (c : Char) (cs : Text) : Text :=
  ((cs.dropWhile (· = c)).reverse.dropWhile (· = c)).reverse

/-- What `read_env` makes of a value without its blanks. -/
def unquoted (value : Text) : Text := stripChar '\'' (stripChar '"' value)

/-- `read_env`; the file may be absent. -/
def readEnv : Option Text → PyDict Text
  | none => PyDict.empty
  | some text => EnvLines.read unquoted text

/-- What `write_env_atomic` makes of the file. -/
def writeEnvAtomic (newData : PyDict Text) : Text := EnvLines.write newData.entries

/-! ## The configuration -/

/-- The fields of `CameraStreamConfig`. -/
structure StreamFields where
  width : ℤ
  height : ℤ
  fps : ℤ
  bitrateKbps : ℤ
  gop : Option ℤ
  preset : Text
  tune : Text
  snapshotFps : ℤ
  port : ℤ
  rotation : ℤ
  deriving DecidableEq

/-- The fields that do not pass. -/
def StreamFields.rejected (f : StreamFields) : List String :=
  (if 100 ≤ f.bitrateKbps then [] else ["bitrate_kbps"]) ++
    (if 0 ≤ f.snapshotFps then [] else ["snapshot_fps"]) ++
    (if 1024 ≤ f.port ∧ f.port ≤ 65535 then [] else ["port"]) ++
    if f.rotation ∈ [0, 90, 180, 270] then [] else ["rotation"]

/-- `CameraStreamConfig`. -/
structure CameraStreamConfig extends StreamFields where
  passes : toStreamFields.rejected = []

/-- Why a configuration is not read: a value that is no integer, or fields that do not pass. -/
inductive ReadFailure
  | value (raw : Text)
  | validation (fields : List String)
  deriving DecidableEq

/-- `CameraStreamConfig(...)`. -/
def StreamFields.validate (f : StreamFields) : Except ReadFailure CameraStreamConfig :=
  if h : f.rejected = [] then .ok ⟨f, h⟩ else .error (.validation f.rejected)

/-- `int(text)`. -/
def parseInt (raw : Text) : Except ReadFailure ℤ :=
  match intOfText raw with
  | some n => .ok n
  | none => .error (.value raw)

/-- `env.get(key, default)`. -/
def getOr (env : PyDict Text) (key : String) (default : String) : Text :=
  (env.get? key).getD default.toList

/-- The rotation; a text that is no integer is as good as none. -/
def rotationOf (env : PyDict Text) : ℤ :=
  let stripped := stripChars (getOr env "ROTATION" "0")
  (intOfText (if stripped = [] then ['0'] else stripped)).getD 0

/-- The keyframe interval, if there is one. -/
def gopOf (env : PyDict Text) : Except ReadFailure (Option ℤ) :=
  match env.get? "GOP" with
  | some raw => some <$> parseInt raw
  | none => .ok none

/-- `read_color_config`. -/
def readColorConfig (file : Option Text) : Except ReadFailure CameraStreamConfig := do
  let env := readEnv file
  let rotation := rotationOf env
  let width ← parseInt (getOr env "WIDTH" "640")
  let height ← parseInt (getOr env "HEIGHT" "480")
  let fps ← parseInt (getOr env "FPS" "30")
  let bitrateKbps ← parseInt (getOr env "BITRATE_KBPS" "1800")
  let gop ← gopOf env
  let snapshotFps ← parseInt (getOr env "SNAPSHOT_FPS" "1")
  let port ← parseInt (getOr env "PORT" "5004")
  StreamFields.validate
    { width, height, fps, bitrateKbps, gop, snapshotFps, port, rotation
      preset := getOr env "PRESET" "veryfast"
      tune := getOr env "TUNE" "zerolatency" }

/-- The keys an update sets. -/
def tuningKeys : List String :=
  ["WIDTH", "HEIGHT", "FPS", "BITRATE_KBPS", "PRESET", "TUNE", "SNAPSHOT_FPS", "PORT", "ROTATION",
    "GOP"]

/-- What `write_color_config` hands to the writer; an integer may have too many digits to be
written. -/
def tuned (cfg : CameraStreamConfig) (env : PyDict Text) : Option (PyDict Text) := do
  let width ← textOfInt cfg.width
  let height ← textOfInt cfg.height
  let fps ← textOfInt cfg.fps
  let bitrateKbps ← textOfInt cfg.bitrateKbps
  let snapshotFps ← textOfInt cfg.snapshotFps
  let port ← textOfInt cfg.port
  let rotation ← textOfInt cfg.rotation
  let env := env.setMany
    [("WIDTH", width), ("HEIGHT", height), ("FPS", fps), ("BITRATE_KBPS", bitrateKbps),
      ("PRESET", cfg.preset), ("TUNE", cfg.tune), ("SNAPSHOT_FPS", snapshotFps), ("PORT", port),
      ("ROTATION", rotation)]
  match cfg.gop with
  | some gop => env.set "GOP" <$> textOfInt gop
  | none => some (env.erase "GOP")

/-- `write_color_config`: the text that is written. -/
def writeColorConfig (cfg : CameraStreamConfig) (file : Option Text) : Option Text :=
  writeEnvAtomic <$> tuned cfg (readEnv file)

/-- A value that the reader leaves as it is. -/
def Kept (value : Text) : Prop :=
  EnvLines.OneLine value ∧ unquoted (stripChars value) = value

instance : DecidablePred Kept := fun value =>
  inferInstanceAs (Decidable (EnvLines.OneLine value ∧ unquoted (stripChars value) = value))

/-! ## What the reader does to a value -/

theorem stripChar_subset (c : Char) (cs : Text) : stripChar c cs ⊆ cs := by
  intro d hd
  have hinner := (List.dropWhile_suffix _).subset (List.mem_reverse.mp hd)
  exact (List.dropWhile_suffix _).subset (List.mem_reverse.mp hinner)

theorem unquoted_subset (value : Text) : unquoted value ⊆ value :=
  fun _ hc => stripChar_subset _ _ (stripChar_subset _ _ hc)

theorem stripChar_eq_self {c : Char} {cs : Text} (h : c ∉ cs) : stripChar c cs = cs := by
  have hhead : ∀ {ds : Text}, c ∉ ds → ds.dropWhile (· = c) = ds := by
    intro ds hds
    apply dropWhile_eq_self_of_head
    intro d hd
    rw [decide_eq_false_iff_not]
    exact fun heq => hds (heq ▸ List.mem_of_head? hd)
  rw [stripChar, hhead h, hhead (mt List.mem_reverse.mp h), List.reverse_reverse]

theorem isLineBreak_of_isDigit {c : Char} (hc : c.isDigit = true) : isLineBreak c = false := by
  obtain ⟨hlow, hhigh⟩ := Char.isDigit_iff_toNat.mp hc
  have hlow : 48 ≤ c.toNat := hlow
  have hhigh : c.toNat ≤ 57 := hhigh
  simp only [isLineBreak, Bool.or_eq_false_iff, Bool.and_eq_false_iff, decide_eq_false_iff_not]
  omega

theorem stripChars_textOfInt {n : ℤ} {s : Text} (h : textOfInt n = some s) :
    stripChars s = s := by
  have hspace : ∀ c ∈ s, isPySpace c = false := by
    intro c hc
    rcases mem_textOfInt h hc with hdigit | rfl
    · exact isPySpace_of_isDigit hdigit
    · decide
  exact stripChars_eq_self
    ⟨fun c hc => hspace c (List.mem_of_head? hc), fun c hc => hspace c (List.mem_of_getLast? hc)⟩

/-- The text of an integer is left as it is. -/
theorem kept_textOfInt {n : ℤ} {s : Text} (h : textOfInt n = some s) : Kept s := by
  have hquote : ∀ q : Char, q.isDigit = false → q ≠ '-' → q ∉ s := by
    intro q hq hminus hmem
    rcases mem_textOfInt h hmem with hdigit | heq
    · rw [hq] at hdigit
      cases hdigit
    · exact hminus heq
  apply And.intro
  · intro c hc
    rcases mem_textOfInt h hc with hdigit | rfl
    · exact isLineBreak_of_isDigit hdigit
    · decide
  · rw [stripChars_textOfInt h, unquoted, stripChar_eq_self (hquote '"' (by decide) (by decide)),
      stripChar_eq_self (hquote '\'' (by decide) (by decide))]

theorem parseInt_textOfInt {n : ℤ} {s : Text} (h : textOfInt n = some s) :
    parseInt s = .ok n := by
  rw [parseInt, intOfText_textOfInt h]

/-! ## What an update sets -/

/-- The text that an update sets for a key, if it sets one. -/
def fieldText (cfg : CameraStreamConfig) (key : String) : Option Text :=
  if key = "WIDTH" then textOfInt cfg.width
  else if key = "HEIGHT" then textOfInt cfg.height
  else if key = "FPS" then textOfInt cfg.fps
  else if key = "BITRATE_KBPS" then textOfInt cfg.bitrateKbps
  else if key = "PRESET" then some cfg.preset
  else if key = "TUNE" then some cfg.tune
  else if key = "SNAPSHOT_FPS" then textOfInt cfg.snapshotFps
  else if key = "PORT" then textOfInt cfg.port
  else if key = "ROTATION" then textOfInt cfg.rotation
  else cfg.gop.bind textOfInt

/-- The integers of the configuration can be written. -/
def Writable (cfg : CameraStreamConfig) : Prop :=
  ∀ n ∈ [cfg.width, cfg.height, cfg.fps, cfg.bitrateKbps, cfg.snapshotFps, cfg.port,
    cfg.rotation] ++ cfg.gop.toList, ∃ s, textOfInt n = some s

section Update

variable {cfg : CameraStreamConfig} {env env' : PyDict Text} {file : Option Text} {text : Text}

/-- An update sets its keys, and no others. -/
theorem of_tuned (h : tuned cfg env = some env') :
    Writable cfg ∧ (∀ key ∈ tuningKeys, env'.get? key = fieldText cfg key) ∧
      ∀ key ∉ tuningKeys, env'.get? key = env.get? key := by
  simp only [tuned, Option.bind_eq_bind, Option.bind_eq_some_iff] at h
  obtain ⟨width, hwidth, height, hheight, fps, hfps, bitrateKbps, hbitrate, snapshotFps, hsnapshot,
    port, hport, rotation, hrotation, h⟩ := h
  have hbase : ∀ key ∈ tuningKeys, key ≠ "GOP" → (env.setMany
      [("WIDTH", width), ("HEIGHT", height), ("FPS", fps), ("BITRATE_KBPS", bitrateKbps),
        ("PRESET", cfg.preset), ("TUNE", cfg.tune), ("SNAPSHOT_FPS", snapshotFps), ("PORT", port),
        ("ROTATION", rotation)]).get? key = fieldText cfg key := by
    intro key hkey hgop
    rw [PyDict.get?_setMany]
    simp only [tuningKeys, List.mem_cons, List.not_mem_nil, or_false] at hkey
    rcases hkey with rfl | rfl | rfl | rfl | rfl | rfl | rfl | rfl | rfl | rfl
    all_goals simp [fieldText, PyDict.lookup_cons_if, *] at hgop ⊢
  have hother : ∀ key ∉ tuningKeys, (env.setMany
      [("WIDTH", width), ("HEIGHT", height), ("FPS", fps), ("BITRATE_KBPS", bitrateKbps),
        ("PRESET", cfg.preset), ("TUNE", cfg.tune), ("SNAPSHOT_FPS", snapshotFps), ("PORT", port),
        ("ROTATION", rotation)]).get? key = env.get? key := by
    intro key hkey
    apply PyDict.get?_setMany_of_not_mem
    intro hmem
    exact hkey (List.mem_append_left ["GOP"] hmem)
  have hnotGop : ∀ key ∉ tuningKeys, key ≠ "GOP" := by
    intro key hkey heq
    exact hkey (heq ▸ by decide)
  generalize env.setMany _ = base at h hbase hother
  cases hgop : cfg.gop with
  | none =>
      rw [hgop] at h
      obtain rfl := Option.some.inj h
      apply And.intro
      · simp [Writable, *]
      · apply And.intro
        · intro key hkey
          rw [PyDict.get?_erase]
          split
          · next heq => simp [heq, fieldText, hgop]
          · next hne => exact hbase key hkey hne
        · intro key hkey
          rw [PyDict.get?_erase, if_neg (hnotGop key hkey), hother key hkey]
  | some gop =>
      rw [hgop] at h
      obtain ⟨gopText, hgopText, rfl⟩ := Option.map_eq_some_iff.mp h
      apply And.intro
      · simp [Writable, *]
      · apply And.intro
        · intro key hkey
          rw [PyDict.get?_set]
          split
          · next heq => simp [heq, fieldText, hgop, hgopText]
          · next hne => exact hbase key hkey hne
        · intro key hkey
          rw [PyDict.get?_set, if_neg (hnotGop key hkey), hother key hkey]

/-- The keys of an update are clean. -/
theorem cleanKey_of_mem_tuningKeys {key : String} (h : key ∈ tuningKeys) : EnvLines.CleanKey key :=
  EnvLines.cleanKey_of_capital (List.all_eq_true.mp
    (by decide : tuningKeys.all (fun key => key.toList.all fun c => c.isUpper || c = '_') = true)
    key h)

theorem clean_readEnv {key : String} {v : Text} (h : (readEnv file).get? key = some v) :
    EnvLines.CleanKey key ∧ EnvLines.OneLine v := by
  cases file with
  | none => cases h
  | some text =>
      obtain ⟨hkey, value, hvalue, rfl⟩ := EnvLines.mem_read unquoted (PyDict.mem_entries_iff.mpr h)
      exact ⟨hkey, fun c hc => EnvLines.oneLine_stripChars hvalue c (unquoted_subset _ hc)⟩

/-- What holds of the text of every integer and of the two texts of the configuration holds of every
text that an update sets. -/
theorem forall_fieldText {p : Text → Prop} (hnumber : ∀ n s, textOfInt n = some s → p s)
    (hpreset : p cfg.preset) (htune : p cfg.tune) {key : String} {v : Text}
    (h : fieldText cfg key = some v) : p v := by
  unfold fieldText at h
  split_ifs at h
  all_goals first
    | exact hnumber _ v h
    | exact Option.some.inj h ▸ hpreset
    | exact Option.some.inj h ▸ htune
    | skip
  obtain ⟨gop, -, hgop⟩ := Option.bind_eq_some_iff.mp h
  exact hnumber gop v hgop

/-- What is read of a file that an update has written: the texts are unquoted once more. -/
theorem get?_readEnv_write (hpreset : EnvLines.OneLine cfg.preset)
    (htune : EnvLines.OneLine cfg.tune) (h : tuned cfg (readEnv file) = some env') (key : String) :
    (readEnv (some (writeEnvAtomic env'))).get? key =
      (env'.get? key).map fun v => unquoted (stripChars v) := by
  obtain ⟨-, hset, hother⟩ := of_tuned h
  have hclean : ∀ entry ∈ env'.entries,
      EnvLines.CleanKey entry.1 ∧ EnvLines.OneLine (id entry.2) := by
    intro entry hentry
    have hget := PyDict.mem_entries_iff.mp hentry
    by_cases hkey : entry.1 ∈ tuningKeys
    · rw [hset _ hkey] at hget
      exact ⟨cleanKey_of_mem_tuningKeys hkey, forall_fieldText
        (fun _ _ hn => (kept_textOfInt hn).1) hpreset htune hget⟩
    · rw [hother _ hkey] at hget
      exact clean_readEnv hget
  have hread := @EnvLines.get?_read_write unquoted id env' hclean key
  have hdressed : EnvLines.dressed id env' = env'.entries := List.map_id _
  rw [hdressed] at hread
  exact hread

/-- A file whose keys are those of a configuration is read as this configuration. -/
theorem readColorConfig_of_fields (hwritable : Writable cfg)
    (h : ∀ key ∈ tuningKeys, (readEnv file).get? key = fieldText cfg key) :
    readColorConfig file = .ok cfg := by
  have hnumber : ∀ {key default : String} {n : ℤ}, key ∈ tuningKeys →
      fieldText cfg key = textOfInt n → (∃ s, textOfInt n = some s) →
      parseInt (getOr (readEnv file) key default) = .ok n := by
    rintro key default n hkey hfield ⟨s, hs⟩
    rw [getOr, h key hkey, hfield, hs]
    exact parseInt_textOfInt hs
  have hnums := List.forall_mem_append.mp hwritable
  simp only [List.forall_mem_cons, List.not_mem_nil, false_implies, implies_true, and_true] at hnums
  obtain ⟨⟨hwidth, hheight, hfps, hbitrate, hsnapshot, hport, hrotation⟩, hgop⟩ := hnums
  have hturned : rotationOf (readEnv file) = cfg.rotation := by
    obtain ⟨s, hs⟩ := hrotation
    have hne : s ≠ [] := by
      rintro rfl
      have hint := intOfText_textOfInt hs
      cases hint
    have hget : getOr (readEnv file) "ROTATION" "0" = s := by
      rw [getOr, h "ROTATION" (by decide)]
      simp [fieldText, hs]
    simp only [rotationOf, hget, stripChars_textOfInt hs, if_neg hne, intOfText_textOfInt hs,
      Option.getD_some]
  have hgroup : gopOf (readEnv file) = .ok cfg.gop := by
    rw [gopOf, h "GOP" (by decide)]
    cases hcase : cfg.gop with
    | none => simp [fieldText, hcase]
    | some gop =>
        obtain ⟨s, hs⟩ := hgop gop (by rw [hcase]; exact List.mem_cons_self)
        simp only [fieldText, hcase, Option.bind_some, hs]
        simp [parseInt_textOfInt hs]
  have hpreset : getOr (readEnv file) "PRESET" "veryfast" = cfg.preset := by
    rw [getOr, h "PRESET" (by decide)]
    simp [fieldText]
  have htune : getOr (readEnv file) "TUNE" "zerolatency" = cfg.tune := by
    rw [getOr, h "TUNE" (by decide)]
    simp [fieldText]
  have hfields : (⟨cfg.width, cfg.height, cfg.fps, cfg.bitrateKbps, cfg.gop, cfg.preset, cfg.tune,
      cfg.snapshotFps, cfg.port, cfg.rotation⟩ : StreamFields) = cfg.toStreamFields := rfl
  rw [readColorConfig, hnumber (by decide) (by simp [fieldText]) hwidth,
    hnumber (by decide) (by simp [fieldText]) hheight,
    hnumber (by decide) (by simp [fieldText]) hfps,
    hnumber (by decide) (by simp [fieldText]) hbitrate,
    hnumber (by decide) (by simp [fieldText]) hsnapshot,
    hnumber (by decide) (by simp [fieldText]) hport,
    hgroup, hturned, hpreset, htune]
  exact dif_pos cfg.passes

theorem exists_ok_of_bind {ε α β : Type} {x : Except ε α} {f : α → Except ε β} {b : β}
    (h : x >>= f = .ok b) : ∃ a, f a = .ok b := by
  cases x with
  | error e => cases h
  | ok a => exact ⟨a, h⟩

/-- The texts of a configuration stand in the file, or are the defaults. -/
theorem texts_of_readColorConfig (h : readColorConfig file = .ok cfg) :
    cfg.preset = getOr (readEnv file) "PRESET" "veryfast" ∧
      cfg.tune = getOr (readEnv file) "TUNE" "zerolatency" := by
  obtain ⟨width, h⟩ := exists_ok_of_bind h
  obtain ⟨height, h⟩ := exists_ok_of_bind h
  obtain ⟨fps, h⟩ := exists_ok_of_bind h
  obtain ⟨bitrateKbps, h⟩ := exists_ok_of_bind h
  obtain ⟨gop, h⟩ := exists_ok_of_bind h
  obtain ⟨snapshotFps, h⟩ := exists_ok_of_bind h
  obtain ⟨port, h⟩ := exists_ok_of_bind h
  rw [StreamFields.validate] at h
  split_ifs at h
  obtain rfl := Except.ok.inj h
  exact ⟨rfl, rfl⟩

theorem oneLine_getOr {key default : String} (h : EnvLines.OneLine default.toList) :
    EnvLines.OneLine (getOr (readEnv file) key default) := by
  rw [getOr]
  cases hfound : (readEnv file).get? key with
  | none => exact h
  | some v => exact (clean_readEnv hfound).2

/-- An update is read back exactly when the reader leaves its two texts as they are, whatever the
file held before. -/
theorem readColorConfig_writeColorConfig_iff (cfg : CameraStreamConfig) (file : Option Text)
    (text : Text) (h : writeColorConfig cfg file = some text) :
    readColorConfig (some text) = .ok cfg ↔ Kept cfg.preset ∧ Kept cfg.tune := by
  obtain ⟨env', htuned, rfl⟩ := Option.map_eq_some_iff.mp h
  obtain ⟨hwritable, hset, -⟩ := of_tuned htuned
  have hpresetSet : env'.get? "PRESET" = some cfg.preset := by
    rw [hset "PRESET" (by decide)]
    simp [fieldText]
  have htuneSet : env'.get? "TUNE" = some cfg.tune := by
    rw [hset "TUNE" (by decide)]
    simp [fieldText]
  constructor
  · intro hread
    obtain ⟨hpreset, htune⟩ := texts_of_readColorConfig hread
    have honePreset : EnvLines.OneLine cfg.preset := by
      rw [hpreset]
      exact oneLine_getOr (by decide)
    have honeTune : EnvLines.OneLine cfg.tune := by
      rw [htune]
      exact oneLine_getOr (by decide)
    have hget := get?_readEnv_write honePreset honeTune htuned
    rw [getOr, hget, hpresetSet] at hpreset
    rw [getOr, hget, htuneSet] at htune
    exact ⟨⟨honePreset, hpreset.symm⟩, ⟨honeTune, htune.symm⟩⟩
  · intro hkept
    apply readColorConfig_of_fields hwritable
    intro key hkey
    rw [get?_readEnv_write hkept.1.1 hkept.2.1 htuned, hset key hkey]
    cases hfield : fieldText cfg key with
    | none => rfl
    | some v => exact congrArg some (forall_fieldText
        (fun _ _ hn => kept_textOfInt hn) hkept.1 hkept.2 hfield).2

end Update

/-- A configuration with an unusual preset. -/
def smallConfig : CameraStreamConfig where
  width := 320
  height := 240
  fps := 15
  bitrateKbps := 800
  gop := some 30
  preset := "'slow'".toList
  tune := "zerolatency".toList
  snapshotFps := 1
  port := 5004
  rotation := 90
  passes := by decide

/-- The quotes of its preset are lost, and the file had a key of its own. -/
theorem readColorConfig_writeColorConfig_iff_sample :
    readColorConfig (some
        "EXTRA=on\nWIDTH=320\nHEIGHT=240\nFPS=15\nBITRATE_KBPS=800\nPRESET='slow'\nTUNE=zerolatency\nSNAPSHOT_FPS=1\nPORT=5004\nROTATION=90\nGOP=30\n".toList) =
        .ok smallConfig ↔ Kept smallConfig.preset ∧ Kept smallConfig.tune :=
  readColorConfig_writeColorConfig_iff smallConfig (some "# by hand\n EXTRA = \"on\"\n".toList) _
    (by decide +kernel)

end CameraStack.Encoder
