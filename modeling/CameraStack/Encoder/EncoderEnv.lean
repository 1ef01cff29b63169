/-
# The environment files of an encoder

For each encoder two files are written in one go: its tuning, from a request of the operator,
and the port that it sends to.  Every value stands in double quotes, which are not escaped.
What the dashboard shows of the encoder is read from the same files.
-/

import CameraStack.Admin.SecretStore
import CameraStack.Lib.EnvLines
import CameraStack.Lib.PyNumber

namespace CameraStack.Encoder

open CameraStack.Lib

/-! ## Reading -/

/-- `read_env_file`; quotes are taken off as in the secret store. -/
def readEnvFile : Option Text → PyDict Text
  | none => PyDict.empty
  | some text => EnvLines.read Admin.SecretStore.unquote text

/-- `int(env.get(key, "")) if env.get(key) else None`. -/
def optionalInt (env : PyDict Text) (key : String) : Except Unit (Option ℤ) :=
  match env.get? key with
  | none | some [] => .ok none
  | some raw =>
      match intOfText raw with
      | some n => .ok (some n)
      | none => .error ()

/-- The numbers of `EncoderInstanceStatus`. -/
structure EncoderNumbers where
  rtpPort : Option ℤ := none
  width : Option ℤ := none
  height : Option ℤ := none
  fps : Option ℤ := none
  bitrateKbps : Option ℤ := none
  deriving DecidableEq

/-- What `instance_status` reads of the two files; what comes behind a value that is no integer is
not read any more. -/
def instanceNumbers (contract tuning : Option Text) : EncoderNumbers :=
  let rtpPort := (optionalInt (readEnvFile contract) "PORT").toOption.join
  let env := readEnvFile tuning
  match optionalInt env "WIDTH" with
  | .error _ => { rtpPort }
  | .ok width =>
      match optionalInt env "HEIGHT" with
      | .error _ => { rtpPort, width }
      | .ok height =>
          match optionalInt env "FPS" with
          | .error _ => { rtpPort, width, height }
          | .ok fps =>
              match optionalInt env "BITRATE_KBPS" with
              | .error _ => { rtpPort, width, height, fps }
              | .ok bitrateKbps => { rtpPort, width, height, fps, bitrateKbps }

/-! ## Writing -/

/-- The families that have instances. -/
inductive Family
  | rtpV4l2
  | rtpRtsp
  | rsStream
  deriving DecidableEq

/-- The name of a family. -/
def Family.name : Family → Text
  | .rtpV4l2 => "rtp-v4l2".toList
  | .rtpRtsp => "rtp-rtsp".toList
  | .rsStream => "rs-stream".toList

/-- `INSTANCE_RE.match`; the end of the pattern also stands before a newline at the end. -/
def matchesInstance (instanceName : Text) : Bool :=
  match if instanceName.getLast? = some '\n' then instanceName.dropLast else instanceName with
  | [] => false
  | c :: cs =>
      c.isAlphanum && cs.length ≤ 31 && cs.all fun d => d.isAlphanum || d = '_' || d = '-'

/-- `EncoderEnvSpec`. -/
structure EncoderEnvSpec where
  device : Option Text
  pixFmt : Option Text
  width : ℕ
  height : ℕ
  fps : ℕ
  bitrateKbps : ℕ
  gop : ℕ
  preset : Text
  tune : Text
  rotation : ℕ
  device_le : ∀ text ∈ device, text.length ≤ 128
  pixFmt_le : ∀ text ∈ pixFmt, text.length ≤ 32
  width_mem : 160 ≤ width ∧ width ≤ 4096
  height_mem : 120 ≤ height ∧ height ≤ 4096
  fps_mem : 1 ≤ fps ∧ fps ≤ 120
  bitrate_mem : 200 ≤ bitrateKbps ∧ bitrateKbps ≤ 20000
  gop_mem : 1 ≤ gop ∧ gop ≤ 300
  preset_le : preset.length ≤ 16
  tune_le : tune.length ≤ 16
  rotation_le : rotation ≤ 270

/-- `str` of a number. -/
def digits (n : ℕ) : Text := JsonValue.digitsOf n

/-- The two first values of the tuning. -/
def sourceEntries (env : EncoderEnvSpec) : List (String × Text) :=
  [("DEVICE", env.device.getD []), ("PIX_FMT", env.pixFmt.getD [])]

/-- The other values of the tuning. -/
def streamEntries (env : EncoderEnvSpec) : List (String × Text) :=
  [("WIDTH", digits env.width), ("HEIGHT", digits env.height), ("FPS", digits env.fps),
    ("BITRATE_KBPS", digits env.bitrateKbps), ("GOP", digits env.gop), ("PRESET", env.preset),
    ("TUNE", env.tune), ("ROTATION", digits env.rotation), ("SNAPSHOT_PATH", []),
    ("SNAPSHOT_FPS", ['1'])]

/-- The tuning as a dictionary. -/
def tuningDict (env : EncoderEnvSpec) : PyDict Text where
  entries := sourceEntries env ++ streamEntries env
  nodup := by
    simp [sourceEntries, streamEntries]

/-- A value in double quotes. -/
def quoted (value : Text) : Text := '"' :: value ++ ['"']

/-- How the files begin. -/
def autoWritten : Text := "# Auto-written by admin_dashboard".toList

/-- The first line of the tuning file. -/
def tuningHeader (family : Family) (instanceName : Text) : Text :=
  autoWritten ++ " at ".toList ++ family.name ++ '-' :: instanceName

/-- The text of the tuning file. -/
def tuningText (family : Family) (instanceName : Text) (env : EncoderEnvSpec) : Text :=
  tuningHeader family instanceName ++
    '\n' :: EnvLines.write (EnvLines.dressed quoted (tuningDict env))

/-- The text of the contract file. -/
def contractText (rtpPort : ℕ) : Text :=
  autoWritten ++ '\n' :: EnvLines.write [("PORT", quoted (digits rtpPort))]

/-- The files of an encoder. -/
structure EncoderFiles where
  tuning : Option Text
  contract : Option Text

/-- `write_env_files`, from what is on disk; `none` stands for `InvalidEncoderInstanceName`. -/
def writeEnvFiles (family : Family) (instanceName : Text) (env : EncoderEnvSpec) (rtpPort : ℕ) :
    Option EncoderFiles :=
  if matchesInstance instanceName then
    some
      { tuning := some (tuningText family instanceName env)
        contract := some (contractText rtpPort) }
  else none

/-! ## The round trip -/

theorem unquote_subset (value : Text) : Admin.SecretStore.unquote value ⊆ value := by
  rw [Admin.SecretStore.unquote]
  split
  · exact fun c hc => (List.drop_suffix 1 value).subset ((List.dropLast_prefix _).subset hc)
  · exact List.Subset.refl value

/-- The quotes that are put around a value are taken off again, whatever stands in it. -/
theorem unquote_quoted (value : Text) :
    Admin.SecretStore.unquote (stripChars (quoted value)) = value := by
  have hlast : (quoted value).getLast? = some '"' := by
    rw [quoted, List.getLast?_concat]
  have hstrip : stripChars (quoted value) = quoted value := by
    apply stripChars_eq_self
    apply And.intro
    · rintro c ⟨⟩
      decide
    · intro c hc
      rw [hlast] at hc
      obtain rfl := Option.some.inj hc
      decide
  rw [hstrip, Admin.SecretStore.unquote, if_pos (Or.inl ⟨rfl, hlast⟩), quoted, List.cons_append,
    List.drop_one, List.tail_cons, List.dropLast_concat]

theorem oneLine_quoted {value : Text} :
    EnvLines.OneLine (quoted value) ↔ EnvLines.OneLine value := by
  have hquote : EnvLines.OneLine ['"'] := by decide
  rw [quoted, List.cons_append, EnvLines.oneLine_cons, EnvLines.oneLine_append,
    and_iff_left hquote]
  exact and_iff_right (by decide)

theorem isLineBreak_of_isAlphanum {c : Char} (hc : c.isAlphanum = true) :
    isLineBreak c = false := by
  have hcode : (48 ≤ c.toNat ∧ c.toNat ≤ 57) ∨ (65 ≤ c.toNat ∧ c.toNat ≤ 90) ∨
      (97 ≤ c.toNat ∧ c.toNat ≤ 122) := by
    change (c.isUpper || c.isLower || c.isDigit) = true at hc
    rw [Bool.or_eq_true, Bool.or_eq_true] at hc
    rcases hc with (hupper | hlower) | hdigit
    · exact .inr (.inl (of_decide_eq_true hupper))
    · obtain ⟨hlow, hhigh⟩ := Bool.and_eq_true_iff.mp hlower
      exact .inr (.inr ⟨of_decide_eq_true hlow, of_decide_eq_true hhigh⟩)
    · exact .inl (Char.isDigit_iff_toNat.mp hdigit)
  simp only [isLineBreak, Bool.or_eq_false_iff, Bool.and_eq_false_iff, decide_eq_false_iff_not]
  omega

theorem oneLine_digits (n : ℕ) : EnvLines.OneLine (digits n) := by
  intro c hc
  apply isLineBreak_of_isAlphanum
  rw [Char.isAlphanum, isDigit_digitsOf n c hc, Bool.or_true]

theorem matchesInstance_oneLine {instanceName : Text} (h : matchesInstance instanceName = true) :
    ∃ body, EnvLines.OneLine body ∧ (instanceName = body ∨ instanceName = body ++ ['\n']) := by
  rw [matchesInstance] at h
  generalize hbody : (if instanceName.getLast? = some '\n' then instanceName.dropLast
    else instanceName) = body at h
  have hone : EnvLines.OneLine body := by
    cases body with
    | nil => cases h
    | cons c cs =>
        simp only [Bool.and_eq_true, List.all_eq_true, Bool.or_eq_true, decide_eq_true_eq] at h
        obtain ⟨⟨hc, -⟩, hcs⟩ := h
        apply EnvLines.oneLine_cons.mpr
        apply And.intro (isLineBreak_of_isAlphanum hc)
        intro d hd
        rcases hcs d hd with (hd | rfl) | rfl
        · exact isLineBreak_of_isAlphanum hd
        · decide
        · decide
  use body
  apply And.intro hone
  rw [← hbody]
  split_ifs with hnewline
  · right
    exact (List.dropLast_append_getLast? '\n' hnewline).symm
  · left
    rfl

theorem oneLine_autoWritten : EnvLines.OneLine autoWritten := by decide +kernel

theorem entryOf_autoWritten {α : Type} (clean : Text → α) (rest : Text) :
    EnvLines.entryOf clean (autoWritten ++ rest) = none := by
  have hhead : autoWritten = '#' :: autoWritten.tail := by decide +kernel
  rw [hhead]
  exact EnvLines.entryOf_comment clean _

theorem entryOf_tuningHeader {α : Type} (clean : Text → α) (family : Family)
    (instanceName : Text) : EnvLines.entryOf clean (tuningHeader family instanceName) = none := by
  rw [tuningHeader, List.append_assoc, List.append_assoc]
  exact entryOf_autoWritten clean _

theorem oneLine_tuningHeader (family : Family) {instanceName : Text}
    (h : EnvLines.OneLine instanceName) : EnvLines.OneLine (tuningHeader family instanceName) := by
  have hfamily : EnvLines.OneLine family.name := by
    cases family with
    | rtpV4l2 | rtpRtsp | rsStream => decide
  have hat : EnvLines.OneLine " at ".toList := by decide
  have hinstance : EnvLines.OneLine ('-' :: instanceName) :=
    EnvLines.oneLine_cons.mpr ⟨by decide, h⟩
  rw [tuningHeader, EnvLines.oneLine_append, EnvLines.oneLine_append, EnvLines.oneLine_append]
  exact ⟨⟨⟨oneLine_autoWritten, hat⟩, hfamily⟩, hinstance⟩

/-- The comment at the head of the tuning says nothing, though it may hold a newline. -/
theorem entriesOf_tuningHeader {α : Type} (clean : Text → α) (family : Family)
    {instanceName : Text} (h : matchesInstance instanceName = true) (rest : Text) :
    EnvLines.entriesOf clean (tuningHeader family instanceName ++ '\n' :: rest) =
      EnvLines.entriesOf clean rest := by
  obtain ⟨body, hbody, rfl | rfl⟩ := matchesInstance_oneLine h
  · rw [EnvLines.entriesOf_line clean (oneLine_tuningHeader family hbody),
      entryOf_tuningHeader]
    rfl
  · have hsplit : tuningHeader family (body ++ ['\n']) ++ '\n' :: rest =
        tuningHeader family body ++ '\n' :: ([] ++ '\n' :: rest) := by
      have htail : '-' :: (body ++ ['\n']) ++ '\n' :: rest =
          '-' :: body ++ '\n' :: ([] ++ '\n' :: rest) := by simp
      rw [tuningHeader, tuningHeader, List.append_assoc, htail, List.append_assoc _ ('-' :: body)]
    have hempty : EnvLines.OneLine [] := by decide
    rw [hsplit, EnvLines.entriesOf_line clean (oneLine_tuningHeader family hbody),
      entryOf_tuningHeader, EnvLines.entriesOf_line clean hempty, EnvLines.entryOf_nil]
    rfl

theorem cleanKey_tuningDict {env : EncoderEnvSpec} :
    ∀ entry ∈ (tuningDict env).entries, EnvLines.CleanKey entry.1 := by
  intro entry hentry
  apply EnvLines.cleanKey_of_capital
  revert entry
  simp only [tuningDict, sourceEntries, streamEntries, List.cons_append, List.nil_append,
    List.forall_mem_cons]
  decide

/-- The tuning is read back exactly when none of its texts holds a line break. -/
theorem readEnvFile_tuningText_iff (family : Family) (instanceName : Text) (env : EncoderEnvSpec)
    (h : matchesInstance instanceName = true) :
    readEnvFile (some (tuningText family instanceName env)) = tuningDict env ↔
      ∀ value ∈ [env.device.getD [], env.pixFmt.getD [], env.preset, env.tune],
        EnvLines.OneLine value := by
  have hread : readEnvFile (some (tuningText family instanceName env)) =
      EnvLines.read Admin.SecretStore.unquote
        (EnvLines.write (EnvLines.dressed quoted (tuningDict env))) := by
    rw [readEnvFile, EnvLines.read, tuningText, entriesOf_tuningHeader _ family h, EnvLines.read]
  rw [hread, EnvLines.read_write_iff unquote_subset fun _ => oneLine_quoted]
  have hone : EnvLines.OneLine ['1'] := by decide
  have hnil : EnvLines.OneLine [] := by decide
  have hvalues : (∀ entry ∈ (tuningDict env).entries, EnvLines.OneLine entry.2) ↔
      ∀ value ∈ [env.device.getD [], env.pixFmt.getD [], env.preset, env.tune],
        EnvLines.OneLine value := by
    simp only [tuningDict, sourceEntries, streamEntries, List.cons_append, List.nil_append,
      List.forall_mem_cons, oneLine_digits, hone, hnil, true_and]
    tauto
  rw [← hvalues]
  apply forall₂_congr
  intro entry hentry
  rw [and_iff_right (cleanKey_tuningDict entry hentry)]
  exact and_iff_left (unquote_quoted entry.2)

/-- A webcam whose tune holds a line break. -/
def webcamSpec : EncoderEnvSpec where
  device := some "/dev/video0".toList
  pixFmt := none
  width := 640
  height := 480
  fps := 30
  bitrateKbps := 1500
  gop := 30
  preset := "veryfast".toList
  tune := "a\nGOP=1".toList
  rotation := 0
  device_le := by simp
  pixFmt_le := by simp
  width_mem := by decide
  height_mem := by decide
  fps_mem := by decide
  bitrate_mem := by decide
  gop_mem := by decide
  preset_le := by decide
  tune_le := by decide
  rotation_le := by decide

/-- Its tuning is not read back. -/
theorem readEnvFile_tuningText_iff_sample :
    readEnvFile (some (tuningText .rtpV4l2 "cam0\n".toList webcamSpec)) = tuningDict webcamSpec ↔
      ∀ value ∈ [webcamSpec.device.getD [], webcamSpec.pixFmt.getD [], webcamSpec.preset,
        webcamSpec.tune], EnvLines.OneLine value :=
  readEnvFile_tuningText_iff .rtpV4l2 "cam0\n".toList webcamSpec (by decide)

theorem optionalInt_digits {env : PyDict Text} {key : String} {n : ℕ} (hn : n ≤ 65535)
    (h : env.get? key = some (digits n)) : optionalInt env key = .ok (some (n : ℤ)) := by
  have hint : intOfText (digits n) = some (n : ℤ) := intOfText_digitsOf (by omega)
  rw [optionalInt, h]
  cases hdigits : digits n with
  | nil =>
      rw [hdigits] at hint
      cases hint
  | cons c cs =>
      rw [hdigits] at hint
      simp only [hint]

/-- What is read of the tuning behind its first two values, whatever stands in these. -/
theorem get?_readEnvFile_tuningText (family : Family) (instanceName : Text) {env : EncoderEnvSpec}
    (hpreset : EnvLines.OneLine env.preset) (htune : EnvLines.OneLine env.tune) {key : String}
    {v : Text} (h : (streamEntries env).reverse.lookup key = some v) :
    (readEnvFile (some (tuningText family instanceName env))).get? key = some v := by
  have hone : EnvLines.OneLine ['1'] := by decide
  have hnil : EnvLines.OneLine [] := by decide
  have hread : EnvLines.entriesOf Admin.SecretStore.unquote (EnvLines.write
      ((streamEntries env).map fun entry => (entry.1, quoted entry.2))) = streamEntries env := by
    rw [EnvLines.entriesOf_write, List.map_map]
    · apply List.map_id''
      intro entry
      exact Prod.ext rfl (unquote_quoted entry.2)
    · intro entry hentry
      obtain ⟨before, hbefore, rfl⟩ := List.mem_map.mp hentry
      have hvalues : ∀ entry ∈ streamEntries env, EnvLines.OneLine entry.2 := by
        simp [streamEntries, oneLine_digits, hone, hnil, hpreset, htune]
      exact ⟨cleanKey_tuningDict before (List.mem_append_right _ hbefore),
        oneLine_quoted.mpr (hvalues before hbefore)⟩
  have hsplit : tuningText family instanceName env =
      (tuningHeader family instanceName ++ '\n' :: ("DEVICE".toList ++ '=' ::
        quoted (env.device.getD []) ++ '\n' :: ("PIX_FMT".toList ++ '=' ::
          quoted (env.pixFmt.getD [])))) ++ '\n' :: EnvLines.write
            ((streamEntries env).map fun entry => (entry.1, quoted entry.2)) := by
    have hentries : EnvLines.dressed quoted (tuningDict env) =
        ("DEVICE", quoted (env.device.getD [])) :: ("PIX_FMT", quoted (env.pixFmt.getD [])) ::
          (streamEntries env).map fun entry => (entry.1, quoted entry.2) := rfl
    rw [tuningText, hentries, EnvLines.write_cons, EnvLines.write_cons]
    simp only [List.append_assoc, List.cons_append]
  rw [hsplit]
  apply EnvLines.get?_read_append
  rw [hread]
  exact h

theorem rtpPort_instanceNumbers (contract tuning : Option Text) :
    (instanceNumbers contract tuning).rtpPort =
      (optionalInt (readEnvFile contract) "PORT").toOption.join := by
  rw [instanceNumbers]
  split
  · rfl
  · split
    · rfl
    · split
      · rfl
      · split
        · rfl
        · rfl

/-- After the files are written the dashboard shows the port, and the numbers of the request where
its preset and its tune are one line each. -/
theorem instanceNumbers_written (family : Family) (instanceName : Text) (env : EncoderEnvSpec)
    (rtpPort : ℕ) (files : EncoderFiles) (hport : 1024 ≤ rtpPort ∧ rtpPort ≤ 65535)
    (hfiles : writeEnvFiles family instanceName env rtpPort = some files) :
    (instanceNumbers files.contract files.tuning).rtpPort = some (rtpPort : ℤ) ∧
      (EnvLines.OneLine env.preset → EnvLines.OneLine env.tune →
        instanceNumbers files.contract files.tuning =
          { rtpPort := some rtpPort, width := some env.width, height := some env.height
            fps := some env.fps, bitrateKbps := some env.bitrateKbps }) := by
  rw [writeEnvFiles] at hfiles
  split_ifs at hfiles
  obtain rfl := Option.some.inj hfiles
  have hcontract : optionalInt (readEnvFile (some (contractText rtpPort))) "PORT" =
      .ok (some (rtpPort : ℤ)) := by
    apply optionalInt_digits hport.2
    apply EnvLines.get?_read_append
    have hentry : ∀ entry ∈ [("PORT", quoted (digits rtpPort))],
        EnvLines.CleanKey entry.1 ∧ EnvLines.OneLine entry.2 := by
      rw [List.forall_mem_singleton]
      have hkey : EnvLines.CleanKey "PORT" := EnvLines.cleanKey_of_capital (by decide)
      exact ⟨hkey, oneLine_quoted.mpr (oneLine_digits rtpPort)⟩
    rw [EnvLines.entriesOf_write _ hentry, List.map_singleton, unquote_quoted]
    rfl
  apply And.intro
  · rw [rtpPort_instanceNumbers, hcontract]
    rfl
  · intro hpreset htune
    have hnumber : ∀ (key : String) (n : ℕ), n ≤ 20000 →
        (streamEntries env).reverse.lookup key = some (digits n) →
          optionalInt (readEnvFile (some (tuningText family instanceName env))) key =
            .ok (some (n : ℤ)) := fun key n hn hlookup =>
      optionalInt_digits (hn.trans (by decide))
        (get?_readEnvFile_tuningText family instanceName hpreset htune hlookup)
    have hwidth := hnumber "WIDTH" env.width (env.width_mem.2.trans (by decide)) rfl
    have hheight := hnumber "HEIGHT" env.height (env.height_mem.2.trans (by decide)) rfl
    have hfps := hnumber "FPS" env.fps (env.fps_mem.2.trans (by decide)) rfl
    have hbitrate := hnumber "BITRATE_KBPS" env.bitrateKbps env.bitrate_mem.2 rfl
    simp only [instanceNumbers, hcontract, hwidth, hheight, hfps, hbitrate]
    rfl

theorem instanceNumbers_written_sample :
    let env : EncoderEnvSpec :=
      { webcamSpec with tune := "zerolatency".toList, tune_le := by decide }
    ∃ files, writeEnvFiles .rsStream "ir1".toList env 5008 = some files ∧
      instanceNumbers files.contract files.tuning =
        { rtpPort := some 5008, width := some 640, height := some 480, fps := some 30
          bitrateKbps := some 1500 } := by
  intro env
  have hname : matchesInstance "ir1".toList = true := by decide
  have hfiles : writeEnvFiles .rsStream "ir1".toList env 5008 = some
      { tuning := some (tuningText .rsStream "ir1".toList env)
        contract := some (contractText 5008) } := by
    rw [writeEnvFiles, if_pos hname]
  exact ⟨_, hfiles, (instanceNumbers_written .rsStream "ir1".toList env 5008 _
    (by decide) hfiles).2 (by decide) (by decide)⟩

end CameraStack.Encoder
