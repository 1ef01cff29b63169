/-
# The merged write

`write_locked` takes any update map, reads the file, lays the updates over what it
read and renders the whole dictionary anew.  Here it stands alone, with the texts it
names in its errors; in surroundings that keep quiet the apply engine's write is this one.

The file is parsed by a lenient reader and written by a renderer that knows one form.
Values that were read are clean, keys that pass the allowlist are clean, so what is
rendered is read back and a second write finds what the first one left.
-/

import CameraStack.Runtime.Stages

namespace CameraStack.Runtime.EnvWriter

open CameraStack.Lib

/-- What `write_locked` raises: a `ForeignKeyError` for a key outside the allowlist or
for a secret key, a `DriftError`, or the decoder's own. -/
inductive WriteRaised
  | foreignKey (place : String) (keys : List String)
  | secretKey (place : String) (keys : List String)
  | drift
  | unicodeError
  deriving DecidableEq

/-- The two ways of a `ForeignKeyError`. -/
def WriteRaised.isForeignKeyError : WriteRaised → Bool
  | .foreignKey _ _ => true
  | .secretKey _ _ => true
  | .drift => false
  | .unicodeError => false

/-- `SENSITIVE_KEYS`. -/
def sensitiveKeys : List String :=
  ["TURN_SHARED_SECRET", "JANUS_ADMIN_SECRET", "STREAMING_ADMIN_KEY",
    "JANUS_STREAMING_ADMIN_KEY", "STREAMING_RGB_MP_SECRET", "TEXTROOM_ROOM_SECRET",
    "INTERNAL_API_SECRET", "CAM_ADMIN_TOKEN"]

variable {V : Type}

/-- `_assert_allowlisted`; the keys of a dictionary come in sorted order. -/
def assertAllowlisted (d : Dict V) (place : String) : Except WriteRaised Unit :=
  let foreign := d.keys.filter fun key => key ∉ allowlist
  if foreign ≠ [] then .error (.foreignKey place foreign)
  else
    let secret := d.keys.filter fun key => key ∈ sensitiveKeys
    if secret ≠ [] then .error (.secretKey place secret) else .ok ()

/-- `{k: str(v) for k, v in updates.items()}`. -/
def rendered (str : V → String) (updates : Dict V) : Dict String := updates.map fun _ v => str v

/-- The checks of `write_locked`, and the file it renders after them. -/
def mergedFile (host : Host) (str : V → String) (updates : Dict V) (expected : Option String)
    (file : Option EnvFile) : Except WriteRaised EnvFile := do
  assertAllowlisted updates "updates"
  if expected.any fun hash => host.hash file ≠ hash then throw .drift
  else
    match readKeys file with
    | none => throw .unicodeError
    | some cur =>
        assertAllowlisted cur "rs-runtime.env on disk"
        let merged := mergeKeys cur (rendered str updates).toList
        assertAllowlisted merged "merged"
        pure { content := .text (render merged), mode := file.elim defaultMode EnvFile.mode }

/-- `write_locked`: the hash of the new file, or what it raises, and the file it leaves. -/
def writeLocked (host : Host) (str : V → String) (updates : Dict V) (expected : Option String)
    (file : Option EnvFile) : Except WriteRaised String × Option EnvFile :=
  match mergedFile host str updates expected file with
  | .error e => (.error e, file)
  | .ok new => (.ok (host.hash (some new)), some new)

/-! ## The allowlist -/

/-- All keys are allowlisted. -/
def Allowed (d : Dict V) : Prop := ∀ key ∈ d, key ∈ allowlist

theorem not_secret_of_allowlist {key : String} (h : key ∈ allowlist) : key ∉ sensitiveKeys := by
  simp only [allowlist, List.mem_cons, List.not_mem_nil, or_false] at h
  rcases h with rfl | rfl
  · decide
  · decide

/-- The second half of the check never finds anything the first has let through. -/
theorem assertAllowlisted_of_allowed {d : Dict V} (h : Allowed d) (place : String) :
    assertAllowlisted d place = .ok () := by
  have hforeign : (d.keys.filter fun key => key ∉ allowlist) = [] := by
    apply List.filter_eq_nil_iff.mpr
    intro key hkey
    simpa using h key (Std.ExtTreeMap.mem_keys.mp hkey)
  have hsecret : (d.keys.filter fun key => key ∈ sensitiveKeys) = [] := by
    apply List.filter_eq_nil_iff.mpr
    intro key hkey
    simpa using not_secret_of_allowlist (h key (Std.ExtTreeMap.mem_keys.mp hkey))
  simp only [assertAllowlisted, hforeign, hsecret, ne_eq, not_true_eq_false, if_false]

/-- The error of a check names keys the dictionary holds. -/
theorem assertAllowlisted_of_not {d : Dict V} (h : ¬ Allowed d) (place : String) :
    ∃ keys, assertAllowlisted d place = .error (.foreignKey place keys) ∧ keys ≠ [] ∧
      ∀ key ∈ keys, key ∈ d ∧ key ∉ allowlist := by
  have hforeign : (d.keys.filter fun key => key ∉ allowlist) ≠ [] := by
    intro hnil
    apply h
    intro key hkey
    have := List.filter_eq_nil_iff.mp hnil key (Std.ExtTreeMap.mem_keys.mpr hkey)
    simpa using this
  refine ⟨_, by rw [assertAllowlisted, if_pos hforeign], hforeign, ?_⟩
  intro key hkey
  rw [List.mem_filter, Std.ExtTreeMap.mem_keys] at hkey
  simpa using hkey

/-! ## The merge -/

variable {host : Host} {str : V → String} {updates : Dict V} {expected : Option String}
  {file : Option EnvFile} {cur : Dict String}

theorem getElem?_merge (cur : Dict String) (updates : Dict V) (key : String) :
    (mergeKeys cur (rendered str updates).toList)[key]? =
      (updates[key]?.map str).or cur[key]? := by
  rw [mergeKeys, Dict.getElem?_insertMany, Dict.insertMany_toList, rendered,
    Std.ExtTreeMap.getElem?_map]

theorem allowed_merge (str : V → String) (hcur : Allowed cur) (hup : Allowed updates) :
    Allowed (mergeKeys cur (rendered str updates).toList) := by
  intro key hkey
  rw [Std.ExtTreeMap.mem_iff_isSome_getElem?, getElem?_merge, Option.isSome_or,
    Option.isSome_map, Bool.or_eq_true] at hkey
  rcases hkey with hkey | hkey
  · exact hup key (Std.ExtTreeMap.mem_iff_isSome_getElem?.mpr hkey)
  · exact hcur key (Std.ExtTreeMap.mem_iff_isSome_getElem?.mpr hkey)

/-- Laying the same updates over the merge changes nothing. -/
theorem merge_merge (cur : Dict String) (updates : Dict V) :
    mergeKeys (mergeKeys cur (rendered str updates).toList) (rendered str updates).toList =
      mergeKeys cur (rendered str updates).toList := by
  apply Std.ExtTreeMap.ext_getElem?
  intro key
  rw [getElem?_merge, getElem?_merge, ← Option.or_assoc, Option.or_self]

/-! ## One write -/

/-- The file a write leaves. -/
def merged (str : V → String) (updates : Dict V) (file : Option EnvFile) (cur : Dict String) :
    EnvFile where
  content := .text (render (mergeKeys cur (rendered str updates).toList))
  mode := file.elim defaultMode EnvFile.mode

/-- The hash that is expected, if one is, is the file's. -/
def Expected (host : Host) (file : Option EnvFile) (expected : Option String) : Prop :=
  ∀ hash ∈ expected, host.hash file = hash

theorem writeLocked_foreign (host : Host) (str : V → String) (expected : Option String)
    (file : Option EnvFile) (h : ¬ Allowed updates) : ∃ keys,
    writeLocked host str updates expected file =
      (.error (.foreignKey "updates" keys), file) := by
  obtain ⟨keys, hkeys, _⟩ := assertAllowlisted_of_not h "updates"
  use keys
  rw [writeLocked, mergedFile, hkeys]
  rfl

theorem writeLocked_drift (h : Allowed updates) (hdrift : ¬ Expected host file expected) :
    writeLocked host str updates expected file = (.error .drift, file) := by
  have hany : (expected.any fun hash => host.hash file ≠ hash) = true := by
    cases expected with
    | none => exact absurd (fun hash hmem => by cases hmem) hdrift
    | some hash =>
        have hne : host.hash file ≠ hash := by
          intro heq
          apply hdrift
          intro other hother
          cases hother
          exact heq
        simpa using hne
  rw [writeLocked, mergedFile, assertAllowlisted_of_allowed h]
  simp only [hany]
  rfl

theorem any_eq_false_of_expected (h : Expected host file expected) :
    (expected.any fun hash => host.hash file ≠ hash) = false := by
  cases expected with
  | none => rfl
  | some hash => simpa using h hash rfl

/-- A file that holds a foreign key is not written through. -/
theorem writeLocked_foreignDisk (str : V → String) (h : Allowed updates)
    (hexp : Expected host file expected) (hread : readKeys file = some cur) (hcur : ¬ Allowed cur) :
    ∃ keys, writeLocked host str updates expected file =
        (.error (.foreignKey "rs-runtime.env on disk" keys), file) := by
  obtain ⟨keys, hkeys, _⟩ := assertAllowlisted_of_not hcur "rs-runtime.env on disk"
  use keys
  rw [writeLocked, mergedFile, assertAllowlisted_of_allowed h]
  simp only [any_eq_false_of_expected hexp, hread, hkeys]
  rfl

/-- In every other case the file is written. -/
theorem writeLocked_written (h : Allowed updates) (hexp : Expected host file expected)
    (hread : readKeys file = some cur) (hcur : Allowed cur) :
    writeLocked host str updates expected file =
      (.ok (host.hash (some (merged str updates file cur))),
        some (merged str updates file cur)) := by
  rw [writeLocked, mergedFile, assertAllowlisted_of_allowed h]
  simp only [any_eq_false_of_expected hexp, hread, assertAllowlisted_of_allowed hcur,
    assertAllowlisted_of_allowed (allowed_merge _ hcur h)]
  rfl

/-! ## What is written is read back -/

/-- The updates render to single lines without blanks around them. -/
def Rendering (str : V → String) (updates : Dict V) : Prop :=
  updates.Each fun _ v => CleanText (str v).toList ∧ str v ≠ ""

/-- The file holds a text, or there is none. -/
def Textual (file : Option EnvFile) : Prop := ∀ f ∈ file, ∃ s, f.content = .text s

theorem Textual.read (h : Textual file) : ∃ cur, readKeys file = some cur ∧
    cur.Each fun _ value => CleanText value.toList := by
  cases file with
  | none => exact ⟨∅, rfl, Dict.each_empty⟩
  | some f =>
      obtain ⟨s, hs⟩ := h f rfl
      use keysOfText s
      exact ⟨by simp only [readKeys, hs], cleanText_keysOfText s⟩

theorem cleanKeys_merge (hcur : Allowed cur) (hup : Allowed updates)
    (hread : cur.Each fun _ value => CleanText value.toList) (hstr : Rendering str updates) :
    CleanKeys (mergeKeys cur (rendered str updates).toList) := by
  intro key value hvalue
  have hkey : key ∈ allowlist := allowed_merge _ hcur hup key (Dict.mem_of_getElem? hvalue)
  have hclean : CleanText value.toList := by
    rw [getElem?_merge] at hvalue
    cases hv : updates[key]? with
    | none =>
        rw [hv] at hvalue
        exact hread key value hvalue
    | some v =>
        rw [hv] at hvalue
        cases hvalue
        exact (hstr key v hv).1
  exact ⟨cleanKey_of_mem_allowlist hkey, hclean⟩

theorem readKeys_merged (file : Option EnvFile) (hcur : Allowed cur) (hup : Allowed updates)
    (hread : cur.Each fun _ value => CleanText value.toList) (hstr : Rendering str updates) :
    readKeys (some (merged str updates file cur)) =
      some (mergeKeys cur (rendered str updates).toList) := by
  rw [readKeys, merged]
  exact congrArg some (keysOfText_render (cleanKeys_merge hcur hup hread hstr))

/-- A merge over its own result leaves the file. -/
theorem merged_merged : merged str updates (some (merged str updates file cur))
    (mergeKeys cur (rendered str updates).toList) = merged str updates file cur := by
  simp only [merged, merge_merge, Option.elim_some]

/-! ## The law -/

/-- What holds of one call of `write_locked`. -/
structure MergeWrite (host : Host) (str : V → String) (updates : Dict V)
    (expected : Option String) (file : Option EnvFile) : Prop where
  /-- A success leaves the dictionary that was read, with the updates laid over it. -/
  overridden {hash : String} {file' : Option EnvFile} :
    writeLocked host str updates expected file = (.ok hash, file') →
      ∃ before after, readKeys file = some before ∧ readKeys file' = some after ∧
        (∀ key : String, after[key]? = (updates[key]?.map str).or before[key]?) ∧ Allowed after
  /-- The same write once more leaves the file as it is, whatever hash it expects. -/
  repeated {hash : String} {file' : Option EnvFile} :
    writeLocked host str updates expected file = (.ok hash, file') →
      writeLocked host str updates none file' = (.ok hash, file') ∧
        ∀ expected', (writeLocked host str updates expected' file').2 = file'
  /-- An error leaves the file. -/
  refused {e : WriteRaised} {file' : Option EnvFile} :
    writeLocked host str updates expected file = (.error e, file') → file' = file
  /-- A `ForeignKeyError` is raised for the keys outside the allowlist, and only for them. -/
  foreign : Expected host file expected →
    ((∃ e, (writeLocked host str updates expected file).1 = .error e ∧
        e.isForeignKeyError = true) ↔
      (∃ key ∈ updates, key ∉ allowlist) ∨
        ∃ before, readKeys file = some before ∧ ∃ key ∈ before, key ∉ allowlist)

/-- A write that succeeded had nothing to object to. -/
theorem eq_merged_of_ok (hread : readKeys file = some cur) {hash : String}
    {file' : Option EnvFile}
    (h : writeLocked host str updates expected file = (.ok hash, file')) :
    Allowed updates ∧ Allowed cur ∧ file' = some (merged str updates file cur) ∧
      hash = host.hash file' := by
  by_cases hup : Allowed updates
  · by_cases hexp : Expected host file expected
    · by_cases hcur : Allowed cur
      · rw [writeLocked_written hup hexp hread hcur] at h
        cases h
        exact ⟨hup, hcur, rfl, rfl⟩
      · obtain ⟨keys, hkeys⟩ := writeLocked_foreignDisk str hup hexp hread hcur
        rw [hkeys] at h
        cases h
    · rw [writeLocked_drift hup hexp] at h
      cases h
  · obtain ⟨keys, hkeys⟩ := writeLocked_foreign host str expected file hup
    rw [hkeys] at h
    cases h

theorem eq_file_of_error {e : WriteRaised} {file' : Option EnvFile}
    (h : writeLocked host str updates expected file = (.error e, file')) : file' = file := by
  rw [writeLocked] at h
  split at h
  · cases h
    rfl
  · cases h

theorem not_allowed : ¬ Allowed updates ↔ ∃ key ∈ updates, key ∉ allowlist := by
  simp only [Allowed, not_forall, exists_prop]

/-- After a success the file reads as the merge. -/
theorem overridden_of_ok (htext : Textual file) (hstr : Rendering str updates) {hash : String}
    {file' : Option EnvFile}
    (h : writeLocked host str updates expected file = (.ok hash, file')) :
    ∃ before after, readKeys file = some before ∧ readKeys file' = some after ∧
      (∀ key : String, after[key]? = (updates[key]?.map str).or before[key]?) ∧
        Allowed after := by
  obtain ⟨cur, hread, hclean⟩ := htext.read
  obtain ⟨hup, hcur, rfl, -⟩ := eq_merged_of_ok hread h
  use cur, mergeKeys cur (rendered str updates).toList
  exact ⟨hread, readKeys_merged file hcur hup hclean hstr, getElem?_merge cur updates,
    allowed_merge _ hcur hup⟩

/-- A second write merges the updates into what already holds them. -/
theorem repeated_of_ok (htext : Textual file) (hstr : Rendering str updates) {hash : String}
    {file' : Option EnvFile}
    (h : writeLocked host str updates expected file = (.ok hash, file')) :
    writeLocked host str updates none file' = (.ok hash, file') ∧
      ∀ expected', (writeLocked host str updates expected' file').2 = file' := by
  obtain ⟨cur, hread, hclean⟩ := htext.read
  obtain ⟨hup, hcur, rfl, rfl⟩ := eq_merged_of_ok hread h
  have hback := readKeys_merged file hcur hup hclean hstr
  have hagain : ∀ expected', Expected host (some (merged str updates file cur)) expected' →
      writeLocked host str updates expected' (some (merged str updates file cur)) =
        (.ok (host.hash (some (merged str updates file cur))),
          some (merged str updates file cur)) := by
    intro expected' hexp
    rw [writeLocked_written hup hexp hback (allowed_merge _ hcur hup), merged_merged]
  have hfree : Expected host (some (merged str updates file cur)) none := by
    intro hash hhash
    cases hhash
  have hkept : ∀ expected',
      (writeLocked host str updates expected' (some (merged str updates file cur))).2 =
        some (merged str updates file cur) := by
    intro expected'
    by_cases hexp : Expected host (some (merged str updates file cur)) expected'
    · rw [hagain expected' hexp]
    · rw [writeLocked_drift hup hexp]
  exact ⟨hagain none hfree, hkept⟩

/-- The three ways a file with the expected hash is treated. -/
theorem foreign_iff (htext : Textual file) (hexp : Expected host file expected) :
    (∃ e, (writeLocked host str updates expected file).1 = .error e ∧
        e.isForeignKeyError = true) ↔
      (∃ key ∈ updates, key ∉ allowlist) ∨
        ∃ before, readKeys file = some before ∧ ∃ key ∈ before, key ∉ allowlist := by
  obtain ⟨cur, hread, -⟩ := htext.read
  rw [← not_allowed]
  by_cases hup : Allowed updates
  · by_cases hcur : Allowed cur
    · have hnone : ¬ ∃ before, readKeys file = some before ∧ ∃ key ∈ before, key ∉ allowlist := by
        rintro ⟨before, hbefore, key, hkey, hnot⟩
        rw [hread] at hbefore
        cases hbefore
        exact hnot (hcur key hkey)
      rw [writeLocked_written hup hexp hread hcur]
      simp [hup, hnone]
    · obtain ⟨keys, hkeys⟩ := writeLocked_foreignDisk str hup hexp hread hcur
      rw [hkeys]
      simp [WriteRaised.isForeignKeyError, hread, not_allowed.mp hcur]
  · obtain ⟨keys, hkeys⟩ := writeLocked_foreign host str expected file hup
    rw [hkeys]
    simp [WriteRaised.isForeignKeyError, hup]

/-- The law of the merged write, for every text of the file and every update map. -/
theorem mergeWrite_law (host : Host) (str : V → String) (updates : Dict V)
    (expected : Option String) (file : Option EnvFile) (htext : Textual file)
    (hstr : Rendering str updates) : MergeWrite host str updates expected file :=
  { overridden := overridden_of_ok htext hstr
    repeated := repeated_of_ok htext hstr
    refused := eq_file_of_error
    foreign := foreign_iff htext }

/-- A file with a comment, a blank line, a key given twice and blanks around a value. -/
def handWritten : EnvFile where
  content := .text "# ttl\n\nTURN_CRED_TTL=60\r\n ICE_POLICY = all#1=2 \nTURN_CRED_TTL=900"
  mode := 0o600

/-- The policy as an update. -/
def relayUpdate : Dict String := (∅ : Dict String).insert "ICE_POLICY" "relay"

theorem rendering_relayUpdate : Rendering id relayUpdate := by
  have hrelay : CleanText "relay".toList ∧ "relay" ≠ "" :=
    ⟨cleanText_of_all (by decide), by decide⟩
  exact Dict.each_empty.insert hrelay

/-- The law on a file somebody wrote, with the write that succeeds on it. -/
theorem mergeWrite_law_handWritten :
    MergeWrite (exampleHost "color_camera") id relayUpdate none (some handWritten) ∧
      (writeLocked (exampleHost "color_camera") id relayUpdate none (some handWritten)).2 =
        some { content := .text (render ((∅ : Dict String).insertMany
                [("ICE_POLICY", "relay"), ("TURN_CRED_TTL", "900")]))
               mode := 0o600 } := by
  have htext : Textual (some handWritten) := by
    intro f hf
    cases hf
    exact ⟨_, rfl⟩
  apply And.intro
  · exact mergeWrite_law _ _ _ _ _ htext rendering_relayUpdate
  · decide +kernel

/-! ## The engine's write -/

/-- How the apply engine sees an error. -/
def WriteRaised.pyError : WriteRaised → PyError
  | .foreignKey _ _ => .foreignKey
  | .secretKey _ _ => .foreignKey
  | .drift => .drift
  | .unicodeError => .unicodeError

theorem allowlisted_keys (d : Dict V) : allowlisted d.keys = true ↔ Allowed d := by
  simp [allowlisted, Allowed]

theorem allowlisted_entries (entries : List (String × String)) :
    allowlisted (entries.map Prod.fst) = true ↔
      Allowed ((∅ : Dict String).insertMany entries) := by
  have hmem : ∀ key, key ∈ (∅ : Dict String).insertMany entries ↔ key ∈ entries.map Prod.fst := by
    intro key
    rw [Std.ExtTreeMap.mem_insertMany_list, List.contains_iff_mem]
    simp
  simp only [Allowed, hmem, allowlisted, List.all_eq_true, decide_eq_true_eq]

theorem merge_entries (cur : Dict String) (entries : List (String × String)) :
    mergeKeys cur (rendered id ((∅ : Dict String).insertMany entries)).toList =
      mergeKeys cur entries := by
  apply Std.ExtTreeMap.ext_getElem?
  intro key
  rw [getElem?_merge, Option.map_id_apply, mergeKeys, ← Dict.getElem?_insertMany]

variable {sur : Surroundings} {w : World}

theorem readKeysAt_quiet (calm : sur.Calm) (quiet : ∀ site, sur.trouble site = none)
    (site : Site) : readKeysAt site sur w =
      match readKeys w.file with
      | some keys => (.ok keys, w)
      | none => (.error (.raised .unicodeError), w) := by
  rw [readKeysAt, Action.run_bind, reach_calm calm, quiet]
  simp only [Action.run_bind, Action.run_get]
  cases readKeys w.file with
  | none => rfl
  | some keys => rfl

/-- In surroundings that keep quiet the write of an apply is the merged write. -/
theorem engine_writeLocked (calm : sur.Calm) (quiet : ∀ site, sur.trouble site = none)
    (entries : List (String × String)) (expected : String) :
    Runtime.writeLocked host entries expected sur w =
      match writeLocked host id ((∅ : Dict String).insertMany entries) (some expected) w.file with
      | (.ok hash, file) => (.ok hash, { w with file := file })
      | (.error e, _) => (.error (.raised e.pyError), w) := by
  by_cases hup : Allowed ((∅ : Dict String).insertMany entries)
  · have hentries := (allowlisted_entries entries).mpr hup
    by_cases hexp : host.hash w.file = expected
    · have hexpected : Expected host w.file (some expected) := by
        intro hash hhash
        cases hhash
        exact hexp
      cases hread : readKeys w.file with
      | none =>
          have hraised : writeLocked host id ((∅ : Dict String).insertMany entries) (some expected)
              w.file = (.error .unicodeError, w.file) := by
            rw [writeLocked, mergedFile, assertAllowlisted_of_allowed hup]
            simp only [any_eq_false_of_expected hexpected, hread]
            rfl
          rw [hraised]
          simp [Runtime.writeLocked, hentries, hexp, Action.run_bind, currentHash_calm calm,
            quiet, readKeysAt_quiet calm quiet, hread, WriteRaised.pyError]
      | some cur =>
          by_cases hcur : Allowed cur
          · have hkeys := (allowlisted_keys cur).mpr hcur
            have hmerge : allowlisted (mergeKeys cur entries).keys = true := by
              rw [allowlisted_keys, ← merge_entries]
              exact allowed_merge _ hcur hup
            rw [writeLocked_written hup hexpected hread hcur]
            simp [Runtime.writeLocked, hentries, hexp, Action.run_bind, currentHash_calm calm,
              quiet, readKeysAt_quiet calm quiet, hread, hkeys, hmerge, fileMode_calm calm,
              replaceFile_calm calm, merged, merge_entries]
          · have hkeys : allowlisted cur.keys = false := by
              simpa using mt (allowlisted_keys cur).mp hcur
            obtain ⟨keys, hforeign⟩ :=
              writeLocked_foreignDisk id hup hexpected hread hcur
            rw [hforeign]
            simp [Runtime.writeLocked, hentries, hexp, Action.run_bind, currentHash_calm calm,
              quiet, readKeysAt_quiet calm quiet, hread, hkeys, WriteRaised.pyError]
    · have hdrift : ¬ Expected host w.file (some expected) := by
        intro hall
        exact hexp (hall expected rfl)
      rw [writeLocked_drift hup hdrift]
      simp [Runtime.writeLocked, hentries, hexp, Action.run_bind, currentHash_calm calm,
        quiet, WriteRaised.pyError]
  · have hentries : allowlisted (entries.map Prod.fst) = false := by
      simpa using mt (allowlisted_entries entries).mp hup
    obtain ⟨keys, hkeys⟩ := writeLocked_foreign host id (some expected) w.file hup
    rw [hkeys, Runtime.writeLocked, hentries]
    rfl

end CameraStack.Runtime.EnvWriter
