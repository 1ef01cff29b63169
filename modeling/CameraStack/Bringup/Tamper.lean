/-
# A baseline that somebody else wrote

The secret is there and can be read, and a document whose payload nobody ever signed under it has
no valid signature.  The check finds such a document out if it has the field of the signature, or
if it says something else than the camera where the two are compared.  But the signature is
verified only where the document has one: without the field, whatever is not compared may say
anything.
-/

import CameraStack.Bringup.Fixer

namespace CameraStack.Bringup

/-! ## When a check is OK -/

section Check

variable (lib : Libraries) (spec : Spec)

theorem matching_ok_iff {details : Members} {host : Host} {baseline : Members} :
    (∃ r, matching lib details host baseline = .ok r ∧ r.status = .ok) ↔
      ∃ history, (baseline.lookup "history").getD (.obj []) = .obj history := by
  cases hhistory : (baseline.lookup "history").getD (.obj []) with
  | obj history =>
      rw [matching, hhistory]
      exact ⟨fun _ => ⟨history, rfl⟩, fun _ => ⟨_, rfl, rfl⟩⟩
  | null | bool | int | float | str | arr =>
      rw [matching, hhistory]
      constructor
      · rintro ⟨r, hr, -⟩
        cases hr
      · rintro ⟨history, heq⟩
        cases heq

/-- A comparison that found something is never OK. -/
theorem mismatch_not_ok (details : Members) (diffs : List Diff) :
    (mismatch lib details diffs).status ≠ .ok := by
  unfold mismatch
  simp only
  split_ifs
  · decide
  · decide

/-- What a baseline must be for the check to be OK. -/
structure Passes (secret : FileContent) (host : Host) (baseline : Members) : Prop where
  same : compare (currentFingerprint spec host) baseline = .ok []
  verified : ∃ outcome, hmacCheck lib secret baseline = .ok outcome ∧ outcome ≠ .invalid
  history : ∃ history, (baseline.lookup "history").getD (.obj []) = .obj history

theorem checkBaseline_ok_iff {secret : FileContent} {host : Host} {details baseline : Members} :
    (∃ r, checkBaseline lib spec secret host details baseline = .ok r ∧ r.status = .ok) ↔
      Passes lib spec secret host baseline := by
  cases hdiffs : compare (currentFingerprint spec host) baseline with
  | error e =>
      rw [checkBaseline, hdiffs]
      constructor
      · rintro ⟨r, hr, -⟩
        cases hr
      · rintro ⟨hsame, -, -⟩
        cases hdiffs.symm.trans hsame
  | ok diffs =>
      cases houtcome : hmacCheck lib secret baseline with
      | error e =>
          rw [checkBaseline, hdiffs, houtcome]
          constructor
          · rintro ⟨r, hr, -⟩
            cases hr
          · rintro ⟨-, ⟨outcome, hverified, -⟩, -⟩
            cases houtcome.symm.trans hverified
      | ok outcome =>
          rw [checkBaseline, hdiffs, houtcome]
          simp only [bind, Except.bind]
          split_ifs with hinvalid hempty
          · constructor
            · rintro ⟨r, hr, hok⟩
              cases hr
              cases hok
            · rintro ⟨-, ⟨outcome', hverified, hvalid⟩, -⟩
              cases houtcome.symm.trans hverified
              exact absurd hinvalid hvalid
          · rw [matching_ok_iff]
            have hsame := List.isEmpty_iff.mp hempty
            exact ⟨fun hhistory => ⟨by rw [hdiffs, hsame], ⟨outcome, houtcome, hinvalid⟩, hhistory⟩,
              Passes.history⟩
          · constructor
            · rintro ⟨r, hr, hok⟩
              cases hr
              exact absurd hok (mismatch_not_ok _ _ _)
            · rintro ⟨hsame, -, -⟩
              cases hdiffs.symm.trans hsame
              exact absurd rfl hempty

/-- A baseline that is loaded is what the file says. -/
theorem loadBaseline_eq {content : FileContent} {json : Json}
    (h : loadBaseline lib content = .ok (some json)) :
    ∃ value, content = .text value ∧ lib.loads value = .value json := by
  cases content with
  | absent | unreadable | undecodable => cases h
  | text value =>
      rw [loadBaseline] at h
      split at h
      · cases h
      · rename_i hloads
        cases h
        exact ⟨value, rfl, hloads⟩
      · cases h
      · cases h

/-- The check is OK if and only if the file holds an object that passes. -/
theorem runCheck_ok_iff {host : Host} {disk : Disk} :
    (runCheck lib spec host disk).status = .ok ↔
      ∃ value baseline, disk.file spec.fingerprintPath = .text value ∧
        lib.loads value = .value (.obj baseline) ∧
          Passes lib spec (disk.file spec.hmacSecretPath) host baseline := by
  have hresult : (runCheck lib spec host disk).status = .ok ↔
      ∃ r, check lib spec host disk = .ok r ∧ r.status = .ok := by
    unfold runCheck safeRun
    cases check lib spec host disk with
    | error e =>
        constructor
        · intro hok
          cases hok
        · rintro ⟨r, hr, -⟩
          cases hr
    | ok r => exact ⟨fun hok => ⟨r, rfl, hok⟩, fun ⟨r', hr, hok⟩ => (by cases hr; exact hok)⟩
  rw [hresult, check]
  constructor
  · rintro ⟨r, hr, hok⟩
    cases hload : loadBaseline lib (disk.file spec.fingerprintPath) with
    | error e =>
        rw [hload] at hr
        cases hr
    | ok loaded =>
        rw [hload] at hr
        cases loaded with
        | none =>
            cases hr
            cases hok
        | some json =>
            cases json with
            | obj baseline =>
                obtain ⟨value, htext, hobject⟩ := loadBaseline_eq lib hload
                exact ⟨value, baseline, htext, hobject, (checkBaseline_ok_iff lib spec).mp ⟨r, hr, hok⟩⟩
            | null | bool | int | float | str | arr => cases hr
  · rintro ⟨value, baseline, htext, hobject, hpasses⟩
    rw [htext, loadBaseline, hobject]
    exact (checkBaseline_ok_iff lib spec).mpr hpasses

end Check

/-! ## Tampering -/

section Tamper

variable (lib : Libraries) (spec : Spec)

/-- The fixer signed the document under the secret. -/
def Issued (data : List UInt8) (document : Members) : Prop :=
  ∃ planning disk, loadSecret (disk.file spec.hmacSecretPath) = some data ∧
    plannedDocument lib spec planning disk = .ok document

/-- A document of somebody without the secret: its payload differs from all that were signed, and
no signature of a payload that was never signed is valid. -/
structure Forged (data : List UInt8) (issued : List Members) (document : Members) : Prop where
  differs : ∀ b ∈ issued, canonicalJson lib document ≠ canonicalJson lib b
  unforgeable : verify lib document (secretBytes data) = .ok true →
    ∃ b ∈ issued, canonicalJson lib document = canonicalJson lib b

/-- What the check does not see: the document has no signature, and says the same as the camera
wherever the two are compared. -/
structure Unnoticed (host : Host) (document : Members) : Prop where
  unsigned : document.lookup "_hmac" = none
  same : compare (currentFingerprint spec host) document = .ok []
  history : ∃ history, (document.lookup "history").getD (.obj []) = .obj history

/-- A secret that can be read is a file. -/
theorem isFile_of_loadSecret {secret : FileContent} {data : List UInt8}
    (h : loadSecret secret = some data) : secret.isFile = true := by
  cases secret with
  | absent => cases h
  | unreadable | undecodable | text => rfl

/-- A forged document that has the field of the signature is found out, or raises. -/
theorem hmacCheck_forged {secret : FileContent} {data : List UInt8} {issued : List Members}
    {document : Members} (hsecret : loadSecret secret = some data)
    (hforged : Forged lib data issued document) {signature : Json}
    (hsigned : document.lookup "_hmac" = some signature) {outcome : HmacCheck}
    (h : hmacCheck lib secret document = .ok outcome) : outcome = .invalid := by
  rw [hmacCheck, hsigned, hsecret] at h
  simp only [isFile_of_loadSecret hsecret, if_true] at h
  cases hverify : verify lib document (secretBytes data) with
  | error e =>
      rw [hverify] at h
      cases h
  | ok valid =>
      rw [hverify] at h
      cases valid with
      | true =>
          obtain ⟨b, hb, heq⟩ := hforged.unforgeable hverify
          exact absurd heq (hforged.differs b hb)
      | false =>
          cases h
          rfl

/-- A forged document passes if and only if it is not noticed. -/
theorem passes_iff_unnoticed {secret : FileContent} {data : List UInt8} {issued : List Members}
    {host : Host} {document : Members} (hsecret : loadSecret secret = some data)
    (hforged : Forged lib data issued document) :
    Passes lib spec secret host document ↔ Unnoticed spec host document := by
  constructor
  · rintro ⟨hsame, ⟨outcome, houtcome, hvalid⟩, hhistory⟩
    refine ⟨?_, hsame, hhistory⟩
    cases hsigned : document.lookup "_hmac" with
    | none => rfl
    | some signature => exact absurd (hmacCheck_forged lib hsecret hforged hsigned houtcome) hvalid
  · rintro ⟨hunsigned, hsame, hhistory⟩
    refine ⟨hsame, ⟨.unsigned, ?_, by decide⟩, hhistory⟩
    rw [hmacCheck, hunsigned]

end Tamper

/-- Whatever stands in the file, if its payload was never signed, the check is not OK if and only
if the document is noticed. -/
theorem tamper_detected_iff (lib : Libraries) (spec : Spec) (host : Host) (disk : Disk)
    (data : List UInt8) (issued : List Members)
    (hsecret : loadSecret (disk.file spec.hmacSecretPath) = some data)
    (hforged : ∀ value document, disk.file spec.fingerprintPath = .text value →
      lib.loads value = .value (.obj document) → Forged lib data issued document) :
    (runCheck lib spec host disk).status ≠ .ok ↔
      ∀ value document, disk.file spec.fingerprintPath = .text value →
        lib.loads value = .value (.obj document) → ¬ Unnoticed spec host document := by
  rw [Ne, runCheck_ok_iff]
  constructor
  · intro hnot value document htext hobject hunnoticed
    have hpasses := (passes_iff_unnoticed lib spec hsecret (hforged value document htext hobject)).mpr
      hunnoticed
    exact hnot ⟨value, document, htext, hobject, hpasses⟩
  · rintro hnoticed ⟨value, document, htext, hobject, hpasses⟩
    refine hnoticed value document htext hobject ?_
    exact (passes_iff_unnoticed lib spec hsecret (hforged value document htext hobject)).mp hpasses

/-! ## A counter that was turned -/

/-- The fingerprint with a counter. -/
def counted (count : ℤ) : Members := documentWith "141722072135" "2026-06-14T08:00:00Z" count

/-- Its members as they are written to be signed. -/
def membersWith (count : ℤ) : String :=
  "\"calibration\":\x7b\x7d,\"camera\":\x7b\"firmware\":\"5.16.0.1\",\"product_id\":\"0b3a\","
    ++ "\"product_line\":null,\"product_name\":null,\"serial\":\"141722072135\","
    ++ "\"usb_type\":null,\"vendor_id\":\"8086\"\x7d,"
    ++ "\"history\":\x7b\"first_seen_utc\":\"2026-06-14T08:00:00Z\","
    ++ "\"last_verified_utc\":\"2026-06-14T08:00:00Z\",\"verify_count\":" ++ toString count
    ++ "\x7d,\"host\":\x7b\"hostname\":\"robot\",\"sysfs_path\":\"2-1\","
    ++ "\"v4l_dev\":\"/dev/video4\"\x7d,\"schema_version\":1"

/-- The signature of the first fingerprint under the secret `00112233`. -/
def firstSignature : String :=
  "934e0fe06567d1fa90bf73e49580f11e60f289a64e5b3a90d35ddf8cdcb0d4d8"

/-- The first fingerprint as the fixer writes it, and with its counter turned. -/
def signedWith (count : ℤ) : Members := setMember "_hmac" (.str firstSignature) (counted count)

/-- The file of the fingerprint with its counter turned, without the signature and with it. -/
def turnedFile (signed : Bool) : String :=
  "\x7b" ++ (if signed then "\"_hmac\":\"" ++ firstSignature ++ "\"," else "") ++ membersWith 9 ++ "\x7d"

/-- What is computed of the first fingerprint and of the two files. -/
def turnedLibraries : Libraries where
  loads text :=
    if text = turnedFile false then .value (.obj (counted 9))
    else if text = turnedFile true then .value (.obj (signedWith 9))
    else .decodeError
  dumps _ := ""
  compact
    | .obj document =>
        match verifyCount document with
        | .int count => "\x7b" ++ membersWith count ++ "\x7d"
        | _ => ""
    | _ => ""
  repr
    | .str value => "'" ++ value ++ "'"
    | _ => "None"
  hmac _ text :=
    if text = "\x7b" ++ membersWith 1 ++ "\x7d" then firstSignature
    else "caa2de87fef17c1bd16719ea490c7fb760a7a59e08edf9f6e5280e67e5868866"

/-- A host with that secret, and a file. -/
def turnedDisk (signed : Bool) : Disk :=
  diskWith (.text (turnedFile signed)) (.text "00112233")

theorem turned_secret (signed : Bool) : loadSecret
    ((turnedDisk signed).file shippedSpec.hmacSecretPath) = some "00112233".toUTF8.data.toList := by
  cases signed with
  | false | true => decide +kernel

set_option maxRecDepth 20000 in
theorem turned_issued :
    Issued turnedLibraries shippedSpec "00112233".toUTF8.data.toList (signedWith 1) :=
  ⟨planWith "141722072135" "2026-06-14T08:00:00Z" "", diskWith .absent (.text "00112233"),
    by decide +kernel, rfl⟩

theorem turned_loads (signed : Bool) : turnedLibraries.loads (turnedFile signed) =
    .value (.obj (if signed then signedWith 9 else counted 9)) := by
  have hne : turnedFile true ≠ turnedFile false := by decide +kernel
  cases signed with
  | false => simp only [turnedLibraries, if_true, Bool.false_eq_true, if_false]
  | true => simp only [turnedLibraries, if_neg hne, if_true]

theorem turned_forged (signed : Bool) : ∀ value document,
    (turnedDisk signed).file shippedSpec.fingerprintPath = .text value →
      turnedLibraries.loads value = .value (.obj document) →
        Forged turnedLibraries "00112233".toUTF8.data.toList [signedWith 1] document := by
  intro value document htext hobject
  cases htext
  cases (turned_loads signed).symm.trans hobject
  constructor
  · intro b hb
    rw [List.mem_singleton.mp hb]
    cases signed with
    | false | true => decide +kernel
  · intro hvalid
    cases signed with
    | false => cases hvalid
    | true => exact absurd hvalid (by decide +kernel)

/-- With the signature of the first fingerprint the turned counter is found out. -/
theorem tamper_detected_signed : (runCheck turnedLibraries shippedSpec (hostWith "141722072135")
    (turnedDisk true)).status ≠ .ok := by
  refine (tamper_detected_iff turnedLibraries shippedSpec _ (turnedDisk true) _ [signedWith 1]
    (turned_secret true) (turned_forged true)).mpr ?_
  intro value document htext hobject hunnoticed
  cases htext
  cases (turned_loads true).symm.trans hobject
  exact absurd hunnoticed.unsigned (by decide +kernel)

/-- Without a signature it passes. -/
theorem tamper_undetected :
    ¬ ∀ (lib : Libraries) (spec : Spec) (host : Host) (disk : Disk) (data : List UInt8)
      (issued : List Members), (∀ b ∈ issued, Issued lib spec data b) →
        loadSecret (disk.file spec.hmacSecretPath) = some data →
          (∀ value document, disk.file spec.fingerprintPath = .text value →
            lib.loads value = .value (.obj document) → Forged lib data issued document) →
              (runCheck lib spec host disk).status ≠ .ok := by
  intro hclaim
  refine hclaim turnedLibraries shippedSpec (hostWith "141722072135") (turnedDisk false) _
    [signedWith 1] ?_ (turned_secret false) (turned_forged false) (by decide +kernel)
  intro b hb
  rw [List.mem_singleton.mp hb]
  exact turned_issued

end CameraStack.Bringup
