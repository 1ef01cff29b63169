/-
# The record of a validated change

`persist_validated` hashes the files a patch would touch, binds the patch and these hashes
in one hash, and writes all three, redacted, into the journal.

The hash in a record speaks of the patch and the file hashes beside it, as long as nothing
in these two was redacted.  Patches have no secret names; the file hashes are keyed by
paths, and a path is read as a name too.
-/

import CameraStack.Lib.JsonLimit
import CameraStack.Runtime.Redact
import CameraStack.Runtime.Validator

namespace CameraStack.Runtime.RevisionRecord

open CameraStack.Lib
open CameraStack.Runtime.DiffHash
open CameraStack.Runtime.Validator (orEmpty)

variable {F : Type} [FloatNumber F]

/-! ## Files a patch would touch -/

/-- The two files, with what is in them; the file of the colour tuning is read inside a
`try`, and none is there where that fails. -/
structure Files where
  runtimeEnvPath : String := "/etc/robot/rs-runtime.env"
  runtimeEnv : Option (List UInt8)
  colorEnvPath : String := "/etc/robot/rs-color.tuning.env"
  colorEnv : Option (List UInt8)

/-- `patch.get(name) or {}`. -/
def part (name : String) (patch : List (Text × JsonValue F)) : JsonValue F :=
  (patch.lookup name.toList).elim (.obj []) orEmpty

/-- What a loop over a value sees; `none` is its `TypeError`. -/
def iterated : JsonValue F → Option (List (JsonValue F))
  | .obj members => some (members.map fun member => .str member.1)
  | .arr items => some items
  | .str s => some (s.map fun c => .str [c])
  | .null | .bool _ | .int _ | .float _ => none

/-- `str(k).endswith(":color")`; the text of nothing but a string ends so. -/
def namesColor : JsonValue F → Bool
  | .str s => ":color".toList <:+ s
  | _ => false

/-- `_RUNTIME_ENV_FIELDS`. -/
def runtimeEnvFields : List String := ["ice_policy", "turn_credential_ttl_seconds"]

/-- `any(k in _RUNTIME_ENV_FIELDS for k in ...)`; a list or an object has no hash. -/
def anyRuntimeField : List (JsonValue F) → Option Bool
  | [] => some false
  | .str s :: rest =>
      if s ∈ runtimeEnvFields.map String.toList then some true else anyRuntimeField rest
  | .arr _ :: _ | .obj _ :: _ => none
  | .null :: rest | .bool _ :: rest | .int _ :: rest | .float _ :: rest => anyRuntimeField rest

variable (sha256 : List UInt8 → Text)

/-- The hash of some bytes. -/
def bytesHash (bytes : List UInt8) : String := String.ofList ("sha256:".toList ++ sha256 bytes)

/-- The hash of the colour tuning, if the patch names a colour profile. -/
def colorHashes (files : Files) (profiles : List (JsonValue F)) : Dict String :=
  match profiles.any namesColor, files.colorEnv with
  | true, some bytes => (∅ : Dict String).insert files.colorEnvPath (bytesHash sha256 bytes)
  | _, _ => ∅

/-- `file_hashes_before`. -/
def fileHashesBefore (files : Files) (patch : List (Text × JsonValue F)) :
    Except PyException (Dict String) :=
  match iterated (part "stream_profiles" patch) with
  | none => .error .type
  | some profiles =>
      match (iterated (part "webrtc" patch)).bind anyRuntimeField with
      | none => .error .type
      | some false => .ok (colorHashes sha256 files profiles)
      | some true =>
          .ok ((colorHashes sha256 files profiles).insert files.runtimeEnvPath
            (files.runtimeEnv.elim absentHash (bytesHash sha256)))

/-! ## The record -/

/-- What a validation hands over: the diff, the impacts and the effective view, and the
texts of the two clocks. -/
structure Validation (F : Type) where
  diff : List (JsonValue F)
  impact : List String
  effectiveBefore : Option (JsonValue F)
  stamp : Text
  createdAt : Text
  /-- Dictionaries have no key twice. -/
  distinctDiff : JsonValue.DistinctItems diff
  distinctEffective : ∀ view ∈ effectiveBefore, view.Distinct

/-- `is_applyable(record)[0]` of a record that was just made. -/
def applySupported (files : Files) (impact : List String) (fhb : Dict String) : Bool :=
  isApplyable files.runtimeEnvPath
    { impact := impact, fileHashesBefore := fhb.toList, diffHash := none, validatedPatch := [] } =
      none

/-- The id of a revision. -/
def revisionId (stamp diffHash : Text) : Text :=
  "rev-".toList ++ stamp ++ '-' :: (diffHash.drop 7).take 8

/-- The members of a record. -/
def recordMembers (files : Files) (validation : Validation F) (patch : List (Text × JsonValue F))
    (fhb : Dict String) (diffHash : Text) : List (Text × JsonValue F) :=
  [("revision_id".toList, .str (revisionId validation.stamp diffHash)),
    ("created_at".toList, .str validation.createdAt),
    ("diff_hash".toList, .str diffHash),
    ("validated_patch".toList, normalize (.obj patch)),
    ("effective_before".toList, validation.effectiveBefore.getD .null),
    ("diff".toList, .arr validation.diff),
    ("impact".toList, .arr (validation.impact.map fun i => .str i.toList)),
    ("file_hashes_before".toList, ofDict fhb),
    ("fhb_schema".toList, .int fhbSchemaVersion),
    ("binds".toList, .arr (fhb.keys.map fun path => .str path.toList)),
    ("status".toList, .str "validated".toList),
    ("apply_supported".toList, .bool (applySupported files validation.impact fhb))]

/-- What a call of `persist_validated` returns, and the text of the file it writes. -/
structure Persisted where
  revisionId : Text
  diffHash : Text
  text : Text

/-- `persist_validated`, before it prunes. -/
def persistValidated (files : Files) (validation : Validation F)
    (patch : List (Text × JsonValue F)) : Except PyException Persisted :=
  match fileHashesBefore sha256 files patch with
  | .error e => .error e
  | .ok fhb =>
      match computeDiffHash sha256 (.obj patch) (ofDict fhb : JsonValue F) with
      | none => .error .value
      | some diffHash =>
          match JsonStyle.indented.dumps
              (redact (.obj (recordMembers files validation patch fhb diffHash))) with
          | none => .error .value
          | some text =>
              .ok {
                revisionId := revisionId validation.stamp diffHash
                diffHash := diffHash
                text := text }

/-- The diff hash a record holds. -/
def storedHash : JsonValue F → Option Text
  | .obj members =>
      match members.lookup "diff_hash".toList with
      | some (.str hash) => some hash
      | _ => none
  | _ => none

/-- The diff hash of the patch and the file hashes a record holds. -/
def recomputed : JsonValue F → Option Text
  | .obj members =>
      match members.lookup "validated_patch".toList,
          members.lookup "file_hashes_before".toList with
      | some patch, some fhb => computeDiffHash sha256 patch fhb
      | _, _ => none
  | _ => none

/-! ## Bound paths -/

variable {sha256} {files : Files} {patch : List (Text × JsonValue F)} {fhb : Dict String}

/-- The hash of the file at this path is recorded: the patch names a colour profile and the
file is there, or the patch sets a field of rs-runtime.env. -/
def Binds (files : Files) (patch : List (Text × JsonValue F)) (path : String) : Prop :=
  (path = files.colorEnvPath ∧ files.colorEnv.isSome = true ∧
      ∃ profiles, iterated (part "stream_profiles" patch) = some profiles ∧
        profiles.any namesColor = true) ∨
    (path = files.runtimeEnvPath ∧
      (iterated (part "webrtc" patch)).bind anyRuntimeField = some true)

omit [FloatNumber F] in
theorem mem_colorHashes {profiles : List (JsonValue F)} {path : String} :
    path ∈ colorHashes sha256 files profiles ↔
      path = files.colorEnvPath ∧ files.colorEnv.isSome = true ∧
        profiles.any namesColor = true := by
  rw [colorHashes]
  cases profiles.any namesColor with
  | false => simp
  | true =>
      cases files.colorEnv with
      | none => simp
      | some bytes =>
          dsimp only
          rw [Dict.mem_insert, eq_comm]
          simp

/-- What is recorded: the hash of the colour tuning, or not, and that of rs-runtime.env, or
not. -/
theorem fileHashesBefore_ok (h : fileHashesBefore sha256 files patch = .ok fhb) :
    ∃ profiles found, iterated (part "stream_profiles" patch) = some profiles ∧
      (iterated (part "webrtc" patch)).bind anyRuntimeField = some found ∧
        fhb = if found then (colorHashes sha256 files profiles).insert files.runtimeEnvPath
            (files.runtimeEnv.elim absentHash (bytesHash sha256))
          else colorHashes sha256 files profiles := by
  rw [fileHashesBefore] at h
  split at h
  · cases h
  · next profiles hprofiles =>
      split at h
      · cases h
      · next hfields =>
          cases h
          exact ⟨profiles, false, hprofiles, hfields, rfl⟩
      · next hfields =>
          cases h
          exact ⟨profiles, true, hprofiles, hfields, rfl⟩

theorem mem_fileHashesBefore (h : fileHashesBefore sha256 files patch = .ok fhb) (path : String) :
    path ∈ fhb ↔ Binds files patch path := by
  obtain ⟨profiles, found, hprofiles, hfields, rfl⟩ := fileHashesBefore_ok h
  have hcolor : path ∈ colorHashes sha256 files profiles ↔
      path = files.colorEnvPath ∧ files.colorEnv.isSome = true ∧
        ∃ profiles, iterated (part "stream_profiles" patch) = some profiles ∧
          profiles.any namesColor = true := by
    rw [mem_colorHashes, hprofiles]
    simp
  cases found with
  | false =>
      rw [Binds, hfields, ← hcolor]
      simp
  | true =>
      rw [if_pos rfl, Dict.mem_insert, Binds, hfields, ← hcolor, or_comm, eq_comm]
      simp

/-- A recorded hash is no mark. -/
theorem ne_redacted_of_fileHashesBefore (h : fileHashesBefore sha256 files patch = .ok fhb) :
    fhb.Each fun _ hash => hash ≠ String.ofList redacted := by
  have hbytes : ∀ bytes, bytesHash sha256 bytes ≠ String.ofList redacted := by
    have hfirst : "sha256:".toList = 's' :: "ha256:".toList := by decide +kernel
    have hmark : redacted = '*' :: "**REDACTED***".toList := by decide +kernel
    intro bytes heq
    have hlist := String.ofList_injective heq
    rw [hfirst, hmark] at hlist
    have hhead := (List.cons.inj hlist).1
    exact absurd hhead (by decide)
  have habsent : absentHash ≠ String.ofList redacted := by decide +kernel
  obtain ⟨profiles, found, -, -, rfl⟩ := fileHashesBefore_ok h
  have hcolor : (colorHashes sha256 files profiles).Each
      fun _ hash => hash ≠ String.ofList redacted := by
    rw [colorHashes]
    split
    · exact Dict.each_empty.insert (hbytes _)
    · exact Dict.each_empty
  cases found with
  | false => exact hcolor
  | true =>
      apply Dict.Each.insert hcolor
      cases files.runtimeEnv with
      | none => exact habsent
      | some bytes => exact hbytes bytes

/-! ## Reading a record -/

variable {validation : Validation F} {diffHash : Text} {key : Text} {value : JsonValue F}

/-- The keys of a record. -/
def recordKeys : List Text :=
  ["revision_id", "created_at", "diff_hash", "validated_patch", "effective_before", "diff",
    "impact", "file_hashes_before", "fhb_schema", "binds", "status", "apply_supported"].map
      String.toList

theorem keys_recordMembers (files : Files) (validation : Validation F)
    (patch : List (Text × JsonValue F)) (fhb : Dict String) (diffHash : Text) :
    (recordMembers files validation patch fhb diffHash).map Prod.fst = recordKeys := rfl

theorem nodup_recordKeys : recordKeys.Nodup := by decide +kernel

/-- No key of a record is a secret name. -/
theorem recordKeys_plain (h : key ∈ recordKeys) : isSecretKey key = false := by
  have hall : recordKeys.all (fun key => !isSecretKey key) = true := by decide +kernel
  simpa using List.all_eq_true.mp hall key h

theorem distinct_recordMembers (files : Files) (validation : Validation F) (fhb : Dict String)
    (diffHash : Text) (hpatch : (JsonValue.obj patch).Distinct) :
    (JsonValue.obj (recordMembers files validation patch fhb diffHash)).Distinct := by
  have htexts : ∀ texts : List String, JsonValue.DistinctItems
      (texts.map fun text => (JsonValue.str text.toList : JsonValue F)) := by
    intro texts
    induction texts with
    | nil => trivial
    | cons text texts ih => exact ⟨trivial, ih⟩
  have heffective : (validation.effectiveBefore.getD .null).Distinct := by
    cases hview : validation.effectiveBefore with
    | none => trivial
    | some view => exact validation.distinctEffective view hview
  have hkeys : ((recordMembers files validation patch fhb diffHash).map Prod.fst).Nodup := by
    rw [keys_recordMembers]
    exact nodup_recordKeys
  exact ⟨hkeys, trivial, trivial, trivial, distinct_normalize hpatch, heffective,
    validation.distinctDiff, htexts validation.impact, distinct_ofDict fhb, trivial,
    htexts fhb.keys, trivial, trivial, trivial⟩

/-- The value of the written record. -/
def writtenRecord (files : Files) (validation : Validation F) (patch : List (Text × JsonValue F))
    (fhb : Dict String) (diffHash : Text) : JsonValue F :=
  (redact (.obj (recordMembers files validation patch fhb diffHash))).sorted

/-- What is found in it. -/
theorem writtenRecord_eq (files : Files) (validation : Validation F)
    (patch : List (Text × JsonValue F)) (fhb : Dict String) (diffHash : Text) :
    ∃ members, writtenRecord files validation patch fhb diffHash = .obj members ∧
      ∀ key value, (key, value) ∈ recordMembers files validation patch fhb diffHash →
        members.lookup key = some (redact value).sorted := by
  have hkeys := keys_recordMembers files validation patch fhb diffHash
  have hnodup : ((redactMembers (recordMembers files validation patch fhb diffHash)).map
      Prod.fst).Nodup := by
    rw [map_fst_redactMembers, hkeys]
    exact nodup_recordKeys
  use (JsonValue.sortedMembers (redactMembers (recordMembers files validation patch fhb
    diffHash))).insertionSort fun a b => a.1 ≤ b.1, rfl
  intro key value hmem
  have hkey : key ∈ recordKeys := by
    rw [← hkeys]
    exact List.mem_map_of_mem hmem
  have hredacted : (key, redact value) ∈
      redactMembers (recordMembers files validation patch fhb diffHash) := by
    rw [redactMembers_eq_map, List.mem_map]
    use (key, value), hmem
    rw [recordKeys_plain hkey]
    rfl
  rw [JsonValue.lookup_sorted hnodup, (mem_iff_lookup hnodup).mp hredacted]
  rfl

/-- What a call that succeeds has computed. -/
theorem persistValidated_ok {done : Persisted}
    (h : persistValidated sha256 files validation patch = .ok done) :
    ∃ fhb, fileHashesBefore sha256 files patch = .ok fhb ∧
      computeDiffHash sha256 (.obj patch) (ofDict fhb : JsonValue F) = some done.diffHash ∧
      (redact (.obj (recordMembers files validation patch fhb done.diffHash))).short = true ∧
      done.text = JsonStyle.indented.encode 0
        (writtenRecord files validation patch fhb done.diffHash) := by
  rw [persistValidated] at h
  split at h
  · cases h
  · next fhb hfhb =>
      split at h
      · cases h
      · next diffHash hhash =>
          split at h
          · cases h
          · next text htext =>
              cases h
              rw [JsonStyle.dumps] at htext
              split at htext
              · next hshort =>
                  cases htext
                  exact ⟨fhb, hfhb, hhash, hshort, rfl⟩
              · cases htext

/-- A call succeeds on short integers. -/
theorem exists_persistValidated {text : Text} (hfhb : fileHashesBefore sha256 files patch = .ok fhb)
    (hcanon : canon (.obj patch) = some text)
    (hdiff : (JsonValue.arr validation.diff).short = true)
    (heffective : (validation.effectiveBefore.getD .null).short = true) :
    ∃ done, persistValidated sha256 files validation patch = .ok done := by
  obtain ⟨second, hsecond⟩ := canon_ofDict (F := F) fhb
  have htexts : ∀ texts : List String, JsonValue.shortItems
      (texts.map fun text => (JsonValue.str text.toList : JsonValue F)) = true := by
    intro texts
    induction texts with
    | nil => rfl
    | cons text texts ih => exact ih
  have hshort : ∀ diffHash, (redact (.obj (recordMembers files validation patch fhb
      diffHash))).short = true := by
    intro diffHash
    apply short_redact
    rw [JsonValue.short, JsonValue.shortMembers_iff, recordMembers]
    simp only [List.forall_mem_cons]
    exact ⟨rfl, rfl, rfl, (canon_eq_some.mp hcanon).1, heffective, hdiff,
      htexts validation.impact, short_ofDict fhb, rfl, htexts fhb.keys, rfl, rfl,
      List.forall_mem_nil _⟩
  rw [persistValidated, hfhb]
  dsimp only
  rw [computeDiffHash_eq_some.mpr ⟨text, second, hcanon, hsecond, rfl⟩]
  dsimp only
  rw [JsonStyle.dumps, if_pos (hshort _)]
  exact ⟨_, rfl⟩

/-- The written file reads back as the record. -/
theorem jsonLoads_written {text : Text} {limit : ℕ} (hpatch : (JsonValue.obj patch).Distinct)
    (hshort : (redact (.obj (recordMembers files validation patch fhb diffHash))).short = true)
    (htext : text = JsonStyle.indented.encode 0
      (writtenRecord files validation patch fhb diffHash))
    (hdepth : (writtenRecord files validation patch fhb diffHash).depth ≤ limit) :
    jsonLoads limit text = .ok (writtenRecord files validation patch fhb diffHash) := by
  have hdistinct := JsonValue.distinct_sorted (distinct_redact
    (distinct_recordMembers files validation fhb diffHash hpatch))
  rw [htext]
  exact jsonLoads_encode JsonStyle.indented hdistinct (JsonValue.short_sorted hshort) hdepth

theorem storedHash_writtenRecord :
    storedHash (writtenRecord files validation patch fhb diffHash) = some diffHash := by
  obtain ⟨members, heq, hlookup⟩ := writtenRecord_eq files validation patch fhb diffHash
  have hfound := hlookup "diff_hash".toList (.str diffHash) (by simp [recordMembers])
  rw [heq, storedHash, hfound]
  rfl

/-- Recomputing from the record of a patch without secret names redacts the file hashes
only. -/
theorem recomputed_writtenRecord (hfree : secretFree (.obj patch) = true) {text : Text}
    (hcanon : canon (.obj patch) = some text) :
    recomputed sha256 (writtenRecord files validation patch fhb diffHash) =
      computeDiffHash sha256 (.obj patch) (ofDict (redactHashes fhb) : JsonValue F) := by
  obtain ⟨members, heq, hlookup⟩ := writtenRecord_eq files validation patch fhb diffHash
  have hpatch := hlookup "validated_patch".toList (normalize (.obj patch))
    (by simp [recordMembers])
  have hfhb := hlookup "file_hashes_before".toList (ofDict fhb) (by simp [recordMembers])
  obtain ⟨second, hsecond⟩ := canon_ofDict (F := F) (redactHashes fhb)
  have hsorted := canon_sorted_normalize hsecond
  rw [normalize_ofDict] at hsorted
  rw [redact_of_secretFree (secretFree_normalize hfree)] at hpatch
  rw [redact_ofDict] at hfhb
  rw [heq, recomputed, hpatch, hfhb]
  dsimp only
  rw [computeDiffHash, computeDiffHash, canon_sorted_normalize hcanon, hcanon, hsorted, hsecond]

/-- The record of a patch without secret names holds the hash of its own patch and file
hashes, exactly where no recorded path is read as a secret name. -/
theorem recomputed_eq_iff (hinj : Function.Injective sha256)
    (hpatch : (JsonValue.obj patch).Distinct) (hfree : secretFree (.obj patch) = true)
    (hfhb : fileHashesBefore sha256 files patch = .ok fhb)
    (hhash : computeDiffHash sha256 (.obj patch) (ofDict fhb : JsonValue F) = some diffHash) :
    recomputed sha256 (writtenRecord files validation patch fhb diffHash) = some diffHash ↔
      ∀ path, Binds files patch path → isSecretKey path.toList = false := by
  obtain ⟨first, second, hcanon, -, -⟩ := computeDiffHash_eq_some.mp hhash
  obtain ⟨third, hthird⟩ := canon_ofDict (F := F) (redactHashes fhb)
  have hagain : computeDiffHash sha256 (.obj patch) (ofDict (redactHashes fhb) : JsonValue F) =
      some ("sha256:".toList ++ sha256 (encodeUtf8 (first ++ '\n' :: third))) :=
    computeDiffHash_eq_some.mpr ⟨first, third, hcanon, hthird, rfl⟩
  have hsame : JsonValue.Same (normalize (.obj patch)) (normalize (.obj patch)) :=
    (JsonValue.same_iff (distinct_normalize hpatch) (distinct_normalize hpatch)).mpr rfl
  rw [recomputed_writtenRecord hfree hcanon, hagain, Option.some.injEq,
    computeDiffHash_inj hinj hpatch hpatch hagain hhash, and_iff_right hsame,
    redactHashes_eq_iff (ne_redacted_of_fileHashesBefore hfhb)]
  simp only [mem_fileHashesBefore hfhb]

/-! ## What a hash binds -/

/-- One hash, one change; and what a record binds is in the record, exactly where no
recorded path is read as a secret name. -/
theorem diff_hash_binds (hinj : Function.Injective sha256) :
    (∀ (p q : JsonValue F) (f g : Dict String) (h h' : Text), p.Distinct → q.Distinct →
      computeDiffHash sha256 p (ofDict f) = some h →
      computeDiffHash sha256 q (ofDict g) = some h' →
      (h = h' ↔ JsonValue.Same (normalize p) (normalize q) ∧ f = g)) ∧
    ∀ (files : Files) (validation : Validation F) (patch : List (Text × JsonValue F))
      (done : Persisted), (JsonValue.obj patch).Distinct → secretFree (.obj patch) = true →
      persistValidated sha256 files validation patch = .ok done →
      ∃ record : JsonValue F,
        (∀ limit, record.depth ≤ limit → jsonLoads limit done.text = .ok record) ∧
        (∀ limit found, jsonLoads limit done.text = .ok found → found = record) ∧
        storedHash record = some done.diffHash ∧
        (recomputed sha256 record = some done.diffHash ↔
          ∀ path, Binds files patch path → isSecretKey path.toList = false) := by
  constructor
  · intro p q f g h h' hp hq hhash hhash'
    exact computeDiffHash_inj hinj hp hq hhash hhash'
  · intro files validation patch done hpatch hfree hdone
    obtain ⟨fhb, hfhb, hhash, hshort, htext⟩ := persistValidated_ok hdone
    have hread : ∀ limit, (writtenRecord files validation patch fhb done.diffHash).depth ≤ limit →
        jsonLoads limit done.text =
          .ok (writtenRecord files validation patch fhb done.diffHash) := by
      intro limit hdepth
      exact jsonLoads_written hpatch hshort htext hdepth
    use writtenRecord files validation patch fhb done.diffHash, hread
    refine ⟨?_, storedHash_writtenRecord, recomputed_eq_iff hinj hpatch hfree hfhb hhash⟩
    intro limit found hfound
    exact jsonLoads_unique hfound (hread _ (le_refl _))

/-! ## An instance -/

/-- A digest without collisions that has the given values. -/
def tabledDigest : List (List UInt8 × Text) → List UInt8 → Text
  | [], bytes => 'x' :: bytes.map fun byte => Char.ofNat byte.toNat
  | (payload, digest) :: table, bytes =>
      if bytes = payload then digest else tabledDigest table bytes

theorem tabledDigest_mem (table : List (List UInt8 × Text)) (bytes : List UInt8) :
    tabledDigest table bytes ∈ table.map Prod.snd ∨
      (tabledDigest table bytes).head? = some 'x' := by
  induction table with
  | nil => exact .inr rfl
  | cons entry table ih =>
      rw [tabledDigest]
      split
      · exact .inl List.mem_cons_self
      · exact ih.imp_left (List.mem_cons_of_mem _)

theorem tabledDigest_injective {table : List (List UInt8 × Text)}
    (hdistinct : (table.map Prod.snd).Nodup)
    (hhex : ∀ digest ∈ table.map Prod.snd, digest.head? ≠ some 'x') :
    Function.Injective (tabledDigest table) := by
  induction table with
  | nil =>
      have hbyte : Function.Injective fun byte : UInt8 => Char.ofNat byte.toNat := by
        intro a b hab
        have hvalue : ∀ n < 256, (Char.ofNat n).toNat = n := by
          intro n hn
          rw [Char.ofNat, dif_pos (Or.inl (by omega))]
          rfl
        have hchar := congrArg Char.toNat hab
        dsimp only at hchar
        rw [hvalue _ a.toNat_lt, hvalue _ b.toNat_lt] at hchar
        exact UInt8.toNat_inj.mp hchar
      intro a b hab
      exact List.map_injective_iff.mpr hbyte (List.cons.inj hab).2
  | cons entry table ih =>
      have hnew : ∀ bytes, tabledDigest table bytes ≠ entry.2 := by
        intro bytes heq
        cases tabledDigest_mem table bytes with
        | inl hmem =>
            rw [heq] at hmem
            exact (List.nodup_cons.mp hdistinct).1 hmem
        | inr hhead =>
            rw [heq] at hhead
            exact hhex entry.2 List.mem_cons_self hhead
      have hrest := ih (List.nodup_cons.mp hdistinct).2 (List.forall_mem_cons.mp hhex).2
      intro a b hab
      rw [tabledDigest, tabledDigest] at hab
      split at hab
      · next ha =>
          split at hab
          · next hb => rw [ha, hb]
          · exact absurd hab.symm (hnew b)
      · split at hab
        · exact absurd hab (hnew a)
        · exact hrest hab

/-- The digests of three payloads. -/
def sampleDigest : List UInt8 → Text :=
  tabledDigest [
    (encodeUtf8 ("\x7b\"webrtc\":\x7b\"turn_credential_ttl_seconds\":3600\x7d\x7d\n".toList ++
        "\x7b\"/etc/robot/rs-runtime.env\":\"sha256:__ABSENT__\"\x7d".toList),
      "ad64d4424b12099efcfde54e81c900fd16a643518344a816bfc963731088056d".toList),
    (encodeUtf8 ("\x7b\"webrtc\":\x7b\"turn_credential_ttl_seconds\":3600\x7d\x7d\n".toList ++
        "\x7b\"/etc/robot_secrets/rs-runtime.env\":\"sha256:__ABSENT__\"\x7d".toList),
      "58d0a0bf209eab3b05299a9adb625359baeaf765837f145806487a2c6fe8515c".toList),
    (encodeUtf8 ("\x7b\"webrtc\":\x7b\"turn_credential_ttl_seconds\":3600\x7d\x7d\n".toList ++
        "\x7b\"/etc/robot_secrets/rs-runtime.env\":\"***REDACTED***\"\x7d".toList),
      "b554e041d0cfbab909943b439ba8ecac4193e9f0ee480c1674ef0591173a3aee".toList)]

theorem sampleDigest_injective : Function.Injective sampleDigest := by
  apply tabledDigest_injective
  · decide +kernel
  · decide +kernel

/-- A patch of the time credentials live. -/
def samplePatch (ttl : JsonValue WholeFloat) : List (Text × JsonValue WholeFloat) :=
  [("webrtc".toList, .obj [("turn_credential_ttl_seconds".toList, ttl)])]

/-- No file is there. -/
def sampleFiles (runtimeEnvPath : String) : Files where
  runtimeEnvPath := runtimeEnvPath
  runtimeEnv := none
  colorEnv := none

/-- The hashes recorded of them. -/
def sampleHashes (runtimeEnvPath : String) : Dict String :=
  (∅ : Dict String).insert runtimeEnvPath absentHash

/-- What the validator says of it. -/
def sampleValidation : Validation WholeFloat where
  diff := [.obj [("path".toList, .str "webrtc.turn_credential_ttl_seconds".toList),
    ("from".toList, .int 600), ("to".toList, .int 3600),
    ("source".toList, .str "Settings.turn_cred_ttl (env TURN_CRED_TTL)".toList),
    ("impact".toList, .str "NEW_SESSIONS_ONLY".toList)]]
  impact := ["NEW_SESSIONS_ONLY"]
  effectiveBefore := none
  stamp := "20250301T101500000000Z".toList
  createdAt := "2025-03-01T10:15:00.000000+00:00".toList
  distinctDiff := ⟨⟨by decide +kernel, trivial, trivial, trivial, trivial, trivial, trivial⟩,
    trivial⟩
  distinctEffective := by simp

theorem distinct_samplePatch (ttl : JsonValue WholeFloat) (h : ttl.Distinct) :
    (JsonValue.obj (samplePatch ttl)).Distinct :=
  ⟨List.nodup_singleton _, ⟨List.nodup_singleton _, h, trivial⟩, trivial⟩

theorem canon_samplePatch (ttl : JsonValue WholeFloat)
    (h : (normalize ttl).short = true) : ∃ text, canon (.obj (samplePatch ttl)) = some text := by
  have hshort : (normalize (.obj (samplePatch ttl))).short = true := by
    simp [samplePatch, DiffHash.normalize, normalizeMembers, JsonValue.short,
      JsonValue.shortMembers, h]
  exact ⟨_, canon_eq_some.mpr ⟨hshort, rfl⟩⟩

/-- The call succeeds, whatever the path. -/
theorem persistValidated_sample (path : String) :
    fileHashesBefore sampleDigest (sampleFiles path) (samplePatch (.int 3600)) =
        .ok (sampleHashes path) ∧
      ∃ done, persistValidated sampleDigest (sampleFiles path) sampleValidation
        (samplePatch (.int 3600)) = .ok done := by
  have hfhb : fileHashesBefore sampleDigest (sampleFiles path) (samplePatch (.int 3600)) =
      .ok (sampleHashes path) := by
    have hprofiles : iterated (part "stream_profiles" (samplePatch (.int 3600))) = some [] := by
      rfl
    have hfields : (iterated (part "webrtc" (samplePatch (.int 3600)))).bind anyRuntimeField =
        some true := by
      decide +kernel
    rw [fileHashesBefore, hprofiles, hfields]
    rfl
  obtain ⟨text, hcanon⟩ := canon_samplePatch (.int 3600) (by decide +kernel)
  exact ⟨hfhb, exists_persistValidated hfhb hcanon (by decide +kernel) (by decide +kernel)⟩

theorem diff_hash_binds_sample :
    ∃ (h h' : Text) (done : Persisted) (record : JsonValue WholeFloat),
      computeDiffHash sampleDigest (.obj (samplePatch (.int 3600)))
        (ofDict (sampleHashes "/etc/robot/rs-runtime.env")) = some h ∧
      computeDiffHash sampleDigest (.obj (samplePatch (.float (.finite ⟨3600, by decide⟩))))
        (ofDict (sampleHashes "/etc/robot/rs-runtime.env")) = some h' ∧
      h = h' ∧
      persistValidated sampleDigest (sampleFiles "/etc/robot/rs-runtime.env") sampleValidation
        (samplePatch (.int 3600)) = .ok done ∧
      jsonLoads record.depth done.text = .ok record ∧
      recomputed sampleDigest record = some done.diffHash := by
  have hlaw := diff_hash_binds (F := WholeFloat) sampleDigest_injective
  have hpatch := distinct_samplePatch (.int 3600) trivial
  have hfloat := distinct_samplePatch (.float (.finite ⟨3600, by decide⟩)) trivial
  have hfree : secretFree (.obj (samplePatch (.int 3600))) = true := by decide +kernel
  have hsame : JsonValue.Same (normalize (.obj (samplePatch (.int 3600))))
      (normalize (.obj (samplePatch (.float (.finite ⟨3600, by decide⟩))))) :=
    (JsonValue.same_iff (distinct_normalize hpatch) (distinct_normalize hfloat)).mpr rfl
  obtain ⟨hfhb, done, hdone⟩ := persistValidated_sample "/etc/robot/rs-runtime.env"
  obtain ⟨text, hfiles⟩ := canon_ofDict (F := WholeFloat)
    (sampleHashes "/etc/robot/rs-runtime.env")
  obtain ⟨first, hfirst⟩ := canon_samplePatch (.int 3600) (by decide +kernel)
  obtain ⟨second, hsecond⟩ := canon_samplePatch (.float (.finite ⟨3600, by decide⟩))
    (by decide +kernel)
  have hhash := computeDiffHash_eq_some.mpr
    ⟨first, text, hfirst, hfiles, Eq.refl (_ ++ sampleDigest _)⟩
  have hhash' := computeDiffHash_eq_some.mpr
    ⟨second, text, hsecond, hfiles, Eq.refl (_ ++ sampleDigest _)⟩
  obtain ⟨record, hread, -, -, hrecomputed⟩ := hlaw.2 _ _ _ done hpatch hfree hdone
  have hplain : ∀ path, Binds (sampleFiles "/etc/robot/rs-runtime.env")
      (samplePatch (.int 3600)) path → isSecretKey path.toList = false := by
    intro path hpath
    rw [← mem_fileHashesBefore hfhb, sampleHashes, Dict.mem_insert] at hpath
    obtain rfl | hnone := hpath
    · decide +kernel
    · exact absurd hnone Std.ExtTreeMap.not_mem_empty
  exact ⟨_, _, done, record, hhash, hhash',
    (hlaw.1 _ _ _ _ _ _ hpatch hfloat hhash hhash').mpr ⟨hsame, rfl⟩, hdone,
    hread _ (le_refl _), hrecomputed.mpr hplain⟩

/-- A path of a directory named for its secrets is read as the name of one. -/
theorem secret_path_unbound :
    secretFree (.obj (samplePatch (.int 3600))) = true ∧
      ∃ (done : Persisted) (record : JsonValue WholeFloat),
        persistValidated sampleDigest (sampleFiles "/etc/robot_secrets/rs-runtime.env")
          sampleValidation (samplePatch (.int 3600)) = .ok done ∧
        jsonLoads record.depth done.text = .ok record ∧
        storedHash record = some done.diffHash ∧
        recomputed sampleDigest record ≠ some done.diffHash := by
  obtain ⟨hfhb, done, hdone⟩ := persistValidated_sample "/etc/robot_secrets/rs-runtime.env"
  obtain ⟨fhb, hfhb', hhash, hshort, htext⟩ := persistValidated_ok hdone
  have hpatch := distinct_samplePatch (.int 3600) trivial
  have hfree : secretFree (.obj (samplePatch (.int 3600))) = true := by decide +kernel
  have hread := jsonLoads_written hpatch hshort htext (le_refl _)
  refine ⟨hfree, done, _, hdone, hread, storedHash_writtenRecord, ?_⟩
  intro hsame
  have hplain := (recomputed_eq_iff sampleDigest_injective hpatch hfree hfhb' hhash).mp hsame
  have hbinds : Binds (sampleFiles "/etc/robot_secrets/rs-runtime.env") (samplePatch (.int 3600))
      "/etc/robot_secrets/rs-runtime.env" :=
    (mem_fileHashesBefore hfhb _).mp ((Dict.mem_insert _ _ _ _).mpr (.inl rfl))
  have hsecret : isSecretKey "/etc/robot_secrets/rs-runtime.env".toList = true := by
    decide +kernel
  rw [hplain _ hbinds] at hsecret
  cases hsecret

end CameraStack.Runtime.RevisionRecord
