/-
# A baseline that was just written

The fixer and the check describe the camera in the same words, but the fixer writes its description
as JSON and the check compares its own with what it reads of that.  What is read has the members of
its objects in another order, which no comparison sees, so the check of a baseline that was just
written finds no difference and a valid signature, also after the camera has moved to another
`/dev/video` node.

A calibration that is no object of objects is written and read like any other value, but cannot be
compared: then the check raises.
-/

import CameraStack.Bringup.PythonJson
import CameraStack.Bringup.StalePlan
import CameraStack.Lib.PyNumber

namespace CameraStack.Bringup

open CameraStack.Lib

/-! ## What is read equals what was written -/

/-- A float that equals itself, and is not apart from itself: it is no number otherwise. -/
structure IsNumber (x : Float) : Prop where
  same : (x == x) = true
  near : ¬ (x - x).abs > 0.5

theorem eqMembers_iff {members others : Members} :
    Json.eqMembers members others = true ↔
      ∀ m ∈ members, ∃ b, others.lookup m.1 = some b ∧ m.2.eq b = true := by
  induction members with
  | nil => exact iff_of_true rfl (List.forall_mem_nil _)
  | cons m members ih =>
      obtain ⟨key, a⟩ := m
      rw [List.forall_mem_cons, ← ih, Json.eqMembers]
      cases others.lookup key with
      | none => simp
      | some b => simp

theorem length_sorted (members : Members) :
    ((Json.sortedMembers members).insertionSort fun a b => a.1 ≤ b.1).length = members.length := by
  rw [List.length_insertionSort, sortedMembers_eq_map, List.length_map]

section Codec

variable {F : Type} (fc : FloatCodec F)

theorem nodup_keys {members : Members} (h : ((Json.obj members).toValue fc).Distinct) :
    (members.map Prod.fst).Nodup := by
  have hkeys := h.1
  rw [toMembers_eq_map, List.map_map] at hkeys
  exact List.Nodup.of_map String.toList (by rwa [List.map_map])

theorem distinct_member {members : Members} (h : ((Json.obj members).toValue fc).Distinct)
    {m : String × Json} (hm : m ∈ members) : (m.2.toValue fc).Distinct := by
  have hall := h.2
  rw [toMembers_eq_map] at hall
  exact JsonValue.distinctMembers_iff.mp hall _ (List.mem_map_of_mem hm)

mutual

/-- A value equals what is read of it, from either side. -/
theorem eq_sorted : ∀ {v : Json}, (v.toValue fc).Distinct → v.EveryFloat IsNumber →
    v.eq v.sorted = true ∧ v.sorted.eq v = true
  | .null, _, _ => ⟨rfl, rfl⟩
  | .bool _, _, _ | .int _, _, _ | .str _, _, _ => ⟨decide_eq_true rfl, decide_eq_true rfl⟩
  | .float _, _, h => ⟨h.same, h.same⟩
  | .arr _, hdistinct, h => eqItems_sortedItems hdistinct h
  | .obj members, hdistinct, h => by
      have hmembers : ∀ m ∈ members, m.2.eq m.2.sorted = true ∧ m.2.sorted.eq m.2 = true :=
        eqMember_sorted hdistinct.2 h
      rw [Json.sorted, Json.eq, Json.eq, length_sorted]
      simp only [decide_true, Bool.true_and, eqMembers_iff]
      refine ⟨fun m hm => ⟨m.2.sorted, ?_, (hmembers m hm).1⟩, fun m hm => ?_⟩
      · rw [lookup_sorted, (mem_iff_lookup (nodup_keys fc hdistinct)).mp hm]
        rfl
      · rw [List.mem_insertionSort, sortedMembers_eq_map, List.mem_map] at hm
        obtain ⟨m', hm', rfl⟩ := hm
        exact ⟨m'.2, (mem_iff_lookup (nodup_keys fc hdistinct)).mp hm', (hmembers m' hm').2⟩

theorem eqItems_sortedItems : ∀ {items : List Json},
    JsonValue.DistinctItems (Json.toValues fc items) → Json.EveryItem IsNumber items →
      Json.eqItems items (Json.sortedItems items) = true ∧
        Json.eqItems (Json.sortedItems items) items = true
  | [], _, _ => ⟨rfl, rfl⟩
  | _ :: _, hdistinct, h => by
      have hfirst := eq_sorted hdistinct.1 h.1
      have hrest := eqItems_sortedItems hdistinct.2 h.2
      rw [Json.sortedItems, Json.eqItems, Json.eqItems, hfirst.1, hfirst.2, hrest.1, hrest.2]
      exact ⟨rfl, rfl⟩

theorem eqMember_sorted : ∀ {members : Members},
    JsonValue.DistinctMembers (Json.toMembers fc members) → Json.EveryMember IsNumber members →
      ∀ m ∈ members, m.2.eq m.2.sorted = true ∧ m.2.sorted.eq m.2 = true
  | [], _, _ => List.forall_mem_nil _
  | (_, _) :: _, hdistinct, h => List.forall_mem_cons.mpr
      ⟨eq_sorted hdistinct.1 h.1, eqMember_sorted hdistinct.2 h.2⟩

end

/-! ## The comparison -/

theorem get_sorted (v : Json) (key : String) {default : Json} (h : default.sorted = default) :
    v.sorted.get key default = (v.get key default).map Json.sorted := by
  cases v with
  | obj members =>
      rw [Json.sorted, Json.get, Json.get, lookup_sorted]
      cases members.lookup key with
      | none => exact congrArg Except.ok h.symm
      | some value => rfl
  | null | bool | int | float | str | arr => rfl

/-- A float that comes back from its text, and is a number. -/
structure FloatCodec.Faithful (x : Float) : Prop extends IsNumber x where
  survives : fc.Survives x

/-- A value that has no key twice, and of whose floats something holds. -/
structure Plain (p : Float → Prop) (v : Json) : Prop where
  distinct : (v.toValue fc).Distinct
  floats : v.EveryFloat p

variable {fc} {p : Float → Prop}

theorem Plain.mono {q : Float → Prop} {v : Json} (h : Plain fc p v) (hpq : ∀ x, p x → q x) :
    Plain fc q v :=
  ⟨h.distinct, h.floats.mono hpq⟩

theorem distinct_entry {members : Members} (h : ((Json.obj members).toValue fc).Distinct)
    {key : String} {value : Json} (hvalue : members.lookup key = some value) :
    (value.toValue fc).Distinct :=
  distinct_member fc h ((mem_iff_lookup (nodup_keys fc h)).mpr hvalue)

theorem Plain.entry {members : Members} (h : Plain fc p (.obj members)) {key : String}
    {value : Json} (hvalue : members.lookup key = some value) : Plain fc p value := by
  have hmem := (mem_iff_lookup (nodup_keys fc h.distinct)).mpr hvalue
  exact ⟨distinct_entry h.distinct hvalue, everyMember_iff.mp h.floats _ hmem⟩

theorem Plain.entryD {members : Members} (h : Plain fc p (.obj members)) (key : String)
    {default : Json} (hdefault : Plain fc p default) :
    Plain fc p ((members.lookup key).getD default) := by
  cases hlookup : members.lookup key with
  | none => exact hdefault
  | some value => exact h.entry hlookup

theorem Plain.obj {members : Members} (hnodup : (members.map Prod.fst).Nodup)
    (h : ∀ m ∈ members, Plain fc p m.2) : Plain fc p (.obj members) := by
  refine ⟨⟨?_, ?_⟩, everyMember_iff.mpr fun m hm => (h m hm).floats⟩
  · rw [toMembers_eq_map, List.map_map]
    have hkeys := hnodup.map fun _ _ => String.toList_injective
    rwa [List.map_map] at hkeys
  · refine JsonValue.distinctMembers_iff.mpr fun m hm => ?_
    rw [toMembers_eq_map] at hm
    obtain ⟨m', hm', rfl⟩ := List.mem_map.mp hm
    exact (h m' hm').distinct

theorem plain_null : Plain fc p .null := ⟨trivial, trivial⟩

theorem plain_int (n : ℤ) : Plain fc p (.int n) := ⟨trivial, trivial⟩

theorem plain_str (value : String) : Plain fc p (.str value) := ⟨trivial, trivial⟩

theorem plain_strOrNull (value : Option String) : Plain fc p (strOrNull value) := by
  cases value with
  | none => exact plain_null
  | some value => exact plain_str value

theorem plain_empty : Plain fc p (.obj []) := .obj List.nodup_nil (List.forall_mem_nil _)

theorem Plain.diff {v : Json} (h : Plain fc IsNumber v) (field : String) (severity : Status) :
    diff field v v.sorted severity = [] := by
  rw [Bringup.diff, if_pos (eq_sorted fc h.distinct h.floats).1]

theorem Plain.diffKnown {v : Json} (h : Plain fc IsNumber v) (field : String) (severity : Status) :
    diffKnown field v v.sorted severity = [] := by
  unfold Bringup.diffKnown
  split
  · rfl
  · exact h.diff field severity

theorem Plain.diffIntrinsic {members : Members} (h : Plain fc IsNumber (.obj members))
    (stream field : String) :
    diffIntrinsic stream (Json.obj members).sorted (.obj members) field = .ok [] := by
  have hentry := h.entryD field plain_null
  rw [Bringup.diffIntrinsic, get_sorted _ _ rfl, Json.get]
  generalize (members.lookup field).getD .null = c at hentry
  have hsame := (eq_sorted fc hentry.distinct hentry.floats).2
  cases c with
  | float x => exact congrArg Except.ok (if_neg hentry.floats.near)
  | null | bool | int | str | arr | obj => exact congrArg Except.ok (if_pos hsame)

/-- The intrinsics of a stream can be compared if they are missing or an object. -/
def HasIntrinsics (intr : Json) : Prop := intr = .null ∨ ∃ members, intr = .obj members

theorem Plain.diffStream {streams : Members} (h : Plain fc IsNumber (.obj streams))
    (stream : String) (hintr : HasIntrinsics ((streams.lookup stream).getD .null)) :
    diffStream (Json.obj streams).sorted (.obj streams) stream = .ok [] := by
  have hentry := h.entryD stream plain_null
  rw [Bringup.diffStream, get_sorted _ _ rfl, Json.get]
  rcases hintr with hnull | ⟨members, hmembers⟩
  · rw [hnull]
    rfl
  · rw [hmembers] at hentry ⊢
    have hcoeffs := hentry.entryD "coeffs" plain_null
    have hsame := (eq_sorted fc hcoeffs.distinct hcoeffs.floats).2
    have hfields : intrinsics.mapM (Bringup.diffIntrinsic stream (Json.obj members).sorted
        (.obj members)) = .ok [[], [], [], [], [], []] := by
      simp only [intrinsics, List.mapM_cons, List.mapM_nil, hentry.diffIntrinsic]
      rfl
    have hget : (Json.obj members).sorted.get "coeffs" =
        .ok ((members.lookup "coeffs").getD .null).sorted := by
      rw [get_sorted _ _ rfl]
      rfl
    obtain ⟨others, hothers⟩ : ∃ others, (Json.obj members).sorted = .obj others := ⟨_, rfl⟩
    rw [hothers] at hfields hget
    simp only [Except.map, bind, Except.bind, hothers, hfields, hget]
    simp only [Json.get, hsame, if_true]
    rfl

/-- Intrinsics that are neither cannot be asked for a field. -/
theorem diffStream_raises {streams : Members} {stream : String}
    (hintr : ¬ HasIntrinsics ((streams.lookup stream).getD .null)) :
    ∃ e, diffStream (Json.obj streams).sorted (.obj streams) stream = .error e := by
  rw [Bringup.diffStream, get_sorted _ _ rfl, Json.get]
  generalize (streams.lookup stream).getD .null = intr at hintr
  cases intr with
  | null => exact absurd (.inl rfl) hintr
  | obj members => exact absurd (.inr ⟨members, rfl⟩) hintr
  | bool | int | float | str | arr => exact ⟨_, rfl⟩

/-- A calibration that can be compared: it is falsy, or an object of intrinsics. -/
def Calibrated (calibration : Json) : Prop :=
  calibration.truth = true → ∃ streams, calibration = .obj streams ∧
    ∀ stream ∈ ["color", "depth", "infrared"], HasIntrinsics ((streams.lookup stream).getD .null)

theorem truth_sorted (v : Json) : v.sorted.truth = v.truth := by
  cases v with
  | arr items =>
      rw [Json.sorted, Json.truth, Json.truth]
      cases items with
      | nil | cons => rfl
  | obj members =>
      rw [Json.sorted, Json.truth, Json.truth]
      congr 1
      rw [Bool.eq_iff_iff, List.isEmpty_iff, List.isEmpty_iff, ← List.length_eq_zero_iff,
        length_sorted, List.length_eq_zero_iff]
  | null | bool | int | float | str => rfl

theorem mapM_raises {A B : Type} {f : A → Except Raised B} {l : List A} {a : A} (ha : a ∈ l)
    (hraises : ∃ e, f a = .error e) : ∃ e, l.mapM f = .error e := by
  induction l with
  | nil => cases ha
  | cons b l ih =>
      rw [List.mapM_cons]
      cases hb : f b with
      | error e => exact ⟨e, rfl⟩
      | ok value =>
          rcases List.mem_cons.mp ha with rfl | hmem
          · obtain ⟨e, he⟩ := hraises
            cases hb.symm.trans he
          · obtain ⟨e, he⟩ := ih hmem
            refine ⟨e, ?_⟩
            rw [he]
            rfl

/-- The comparison of the calibrations. -/
def compareCalibration (baseCal curCal : Json) : Except Raised (List (List Diff)) :=
  if baseCal.truth then ["color", "depth", "infrared"].mapM (diffStream baseCal curCal) else pure []

theorem Plain.compareCalibration {calibration : Json} (h : Plain fc IsNumber calibration) :
    (Calibrated calibration ∧
      ∃ diffs, compareCalibration calibration.sorted calibration = .ok diffs ∧ diffs.flatten = []) ∨
    (¬ Calibrated calibration ∧
      ∃ e, compareCalibration calibration.sorted calibration = .error e) := by
  rw [Bringup.compareCalibration, truth_sorted]
  by_cases htruth : calibration.truth = true
  · rw [if_pos htruth]
    cases calibration with
    | obj streams =>
        by_cases hall : ∀ stream ∈ ["color", "depth", "infrared"],
            HasIntrinsics ((streams.lookup stream).getD .null)
        · refine .inl ⟨fun _ => ⟨streams, rfl, hall⟩, [[], [], []], ?_, rfl⟩
          simp only [List.forall_mem_cons] at hall
          obtain ⟨hcolor, hdepth, hinfrared, -⟩ := hall
          simp only [List.mapM_cons, List.mapM_nil, h.diffStream _ hcolor, h.diffStream _ hdepth,
            h.diffStream _ hinfrared]
          rfl
        · refine .inr ⟨fun hcalibrated => ?_, ?_⟩
          · obtain ⟨others, hothers, hfound⟩ := hcalibrated htruth
            cases hothers
            exact hall hfound
          · push Not at hall
            obtain ⟨stream, hmem, hintr⟩ := hall
            exact mapM_raises hmem (diffStream_raises hintr)
    | null | bool | int | float | str | arr =>
        refine .inr ⟨fun hcalibrated => ?_, _, rfl⟩
        obtain ⟨streams, hstreams, -⟩ := hcalibrated htruth
        cases hstreams
  · rw [if_neg htruth]
    exact .inl ⟨fun h => absurd h htruth, [], rfl, rfl⟩

/-- What a camera answers comes back. -/
def Host.Answers (fc : FloatCodec F) (host : Host) : Prop :=
  Plain fc fc.Faithful (.obj (host.device.getD []))

theorem Host.Answers.answer {host : Host} (h : host.Answers fc) (key : String) {default : Json}
    (hdefault : Plain fc fc.Faithful default) : Plain fc fc.Faithful (host.answer key default) :=
  h.entryD key hdefault

/-- What is read of a description of the camera and the host that was written. -/
structure Describes (spec : Spec) (host : Host) (baseline : Members) : Prop where
  camera : baseline.lookup "camera" = some (describeCamera spec host).sorted
  calibration : baseline.lookup "calibration" = some (host.answer "calibration" (.obj [])).sorted
  host : baseline.lookup "host" = some (describeHost host).sorted

theorem Host.Answers.compare {spec : Spec} {host : Host} {baseline : Members} (h : host.Answers fc)
    (hbaseline : Describes spec host baseline) (v4lDev : Option String) :
    compare (currentFingerprint spec { host with v4lDev := v4lDev }) baseline =
      (compareCalibration (host.answer "calibration" (.obj [])).sorted
        (host.answer "calibration" (.obj []))).map List.flatten := by
  have hport : Plain fc IsNumber (strOrNull host.sysfsPath) := plain_strOrNull host.sysfsPath
  have hstring : ∀ value, Plain fc IsNumber (.str value) := plain_str
  have hanswer : ∀ key, Plain fc IsNumber (host.answer key) := fun key =>
    (h.answer key plain_null).mono fun _ hx => hx.toIsNumber
  have hcamera : ∀ key value, (describeCamera spec host).get key = .ok value →
      (describeCamera spec { host with v4lDev := v4lDev }).get key = .ok value ∧
        (describeCamera spec host).sorted.get key = .ok value.sorted := fun key value hvalue =>
    ⟨hvalue, by rw [get_sorted _ key rfl, hvalue]; rfl⟩
  obtain ⟨hvendor, hvendor'⟩ := hcamera "vendor_id" (.str spec.vendorId) rfl
  obtain ⟨hproduct, hproduct'⟩ := hcamera "product_id" (.str spec.productId) rfl
  obtain ⟨hserial, hserial'⟩ := hcamera "serial" (host.answer "serial") rfl
  obtain ⟨hfirmware, hfirmware'⟩ := hcamera "firmware" (host.answer "firmware") rfl
  have hsysfs : (describeHost { host with v4lDev := v4lDev }).get "sysfs_path" =
      .ok (strOrNull host.sysfsPath) := rfl
  have hsysfs' : (describeHost host).sorted.get "sysfs_path" =
      .ok (strOrNull host.sysfsPath).sorted := by
    rw [get_sorted _ _ rfl]
    rfl
  have hfound : (currentFingerprint spec { host with v4lDev := v4lDev }).lookup "camera" =
      some (describeCamera spec { host with v4lDev := v4lDev }) := rfl
  have hfoundHost : (currentFingerprint spec { host with v4lDev := v4lDev }).lookup "host" =
      some (describeHost { host with v4lDev := v4lDev }) := rfl
  have hfoundCal : (currentFingerprint spec { host with v4lDev := v4lDev }).lookup "calibration" =
      some (host.answer "calibration" (.obj [])) := rfl
  rw [Bringup.compare, hbaseline.camera, hbaseline.host, hbaseline.calibration]
  simp only [Option.getD_some, hfound, hfoundHost, hfoundCal, hvendor, hvendor', hproduct,
    hproduct', hserial, hserial', hfirmware, hfirmware', hsysfs, hsysfs', bind, Except.bind,
    (hstring spec.vendorId).diff, (hstring spec.productId).diff, (hanswer "serial").diffKnown,
    (hanswer "firmware").diffKnown, hport.diffKnown]
  rw [Bringup.compareCalibration]
  split_ifs
  · cases ["color", "depth", "infrared"].mapM (Bringup.diffStream
        (host.answer "calibration" (.obj [])).sorted (host.answer "calibration" (.obj []))) with
    | error | ok => rfl
  · rfl

/-! ## What is written -/

theorem Host.Answers.camera {host : Host} (h : host.Answers fc) (spec : Spec) :
    Plain fc fc.Faithful (describeCamera spec host) := by
  refine .obj (show ["vendor_id", "product_id", "serial", "firmware", "usb_type", "product_name",
    "product_line"].Nodup by decide) ?_
  simp only [List.forall_mem_cons]
  exact ⟨plain_str _, plain_str _, h.answer _ plain_null, h.answer _ plain_null,
    h.answer _ plain_null, h.answer _ plain_null, h.answer _ plain_null, List.forall_mem_nil _⟩

theorem plain_describeHost (host : Host) : Plain fc p (describeHost host) := by
  refine .obj (show ["sysfs_path", "v4l_dev", "hostname"].Nodup by decide) ?_
  simp only [List.forall_mem_cons]
  exact ⟨plain_strOrNull _, plain_strOrNull _, plain_str _, List.forall_mem_nil _⟩

/-- The new fingerprint of such a camera comes back, if what it keeps does. -/
theorem Host.Answers.newFingerprint {spec : Spec} {meets : PlanMeets} (h : meets.host.Answers fc)
    {firstSeen : Json} (hfirst : Plain fc fc.Survives firstSeen) (count : ℤ) :
    Plain fc fc.Survives (.obj (newFingerprint spec meets firstSeen count)) := by
  have hsurvives : ∀ {v}, Plain fc fc.Faithful v → Plain fc fc.Survives v := fun hv =>
    hv.mono fun _ hx => hx.survives
  have hhistory : Plain fc fc.Survives (.obj [("first_seen_utc", firstSeen),
      ("last_verified_utc", .str meets.now), ("verify_count", .int count)]) := by
    refine .obj (show ["first_seen_utc", "last_verified_utc", "verify_count"].Nodup by decide) ?_
    simp only [List.forall_mem_cons]
    exact ⟨hfirst, plain_str _, plain_int _, List.forall_mem_nil _⟩
  refine .obj
    (show ["schema_version", "camera", "host", "calibration", "history"].Nodup by decide) ?_
  rw [Bringup.newFingerprint]
  simp only [List.forall_mem_cons]
  exact ⟨plain_int _, hsurvives (h.camera spec), plain_describeHost _,
    hsurvives (h.answer _ plain_empty), hhistory, List.forall_mem_nil _⟩

/-- So does the document that is signed. -/
theorem Plain.setMember {members : Members} (h : Plain fc p (.obj members)) {key : String}
    {value : Json} (hvalue : Plain fc p value) :
    Plain fc p (.obj (setMember key value members)) := by
  refine .obj ?_ ?_
  · rw [Bringup.setMember, List.map_append, List.map_singleton, List.nodup_append]
    refine ⟨(nodup_keys fc h.distinct).sublist (List.filter_sublist.map _), List.nodup_singleton _,
      ?_⟩
    intro name hname other hother
    obtain ⟨m, hm, rfl⟩ := List.mem_map.mp hname
    rw [List.mem_singleton.mp hother]
    exact of_decide_eq_true (List.mem_filter.mp hm).2
  · rw [Bringup.setMember, List.forall_mem_append, List.forall_mem_singleton]
    refine ⟨fun m hm => ?_, hvalue⟩
    have hmem := (List.mem_filter.mp hm).1
    exact ⟨distinct_member fc h.distinct hmem, everyMember_iff.mp h.floats _ hmem⟩

end Codec

/-! ## The check -/

/-- A baseline that says the same and verifies is OK, and its signature is called valid. -/
theorem runCheck_valid {lib : Libraries} {spec : Spec} {host : Host} {disk : Disk} {text : String}
    {baseline history : Members} (htext : disk.file spec.fingerprintPath = .text text)
    (hobject : lib.loads text = .value (.obj baseline))
    (hsame : compare (currentFingerprint spec host) baseline = .ok [])
    (hvalid : hmacCheck lib (disk.file spec.hmacSecretPath) baseline = .ok .valid)
    (hhistory : baseline.lookup "history" = some (.obj history)) :
    (runCheck lib spec host disk).status = .ok ∧
      (runCheck lib spec host disk).details.lookup "hmac_check" = some (.str "valid") := by
  have hresult : ∃ details, checkBaseline lib spec (disk.file spec.hmacSecretPath) host
      (setMember "baseline" (.obj baseline)
        [("fingerprint_path", .str spec.fingerprintPath),
          ("current", .obj (currentFingerprint spec host))]) baseline =
            matching lib (noteHmac details .valid) host baseline := by
    rw [checkBaseline, hsame, hvalid]
    exact ⟨_, rfl⟩
  obtain ⟨details, hdetails⟩ := hresult
  have hcheck : runCheck lib spec host disk = safeRun "fingerprint"
      (matching lib (noteHmac details .valid) host baseline) := by
    rw [runCheck, check, htext, loadBaseline, hobject, ← hdetails]
    rfl
  rw [hcheck, matching, hhistory]
  exact ⟨rfl, lookup_setMember_self _ _ _⟩

/-! ## A write and the check after it -/

/-- What a plan continues: a secret that can be read, and a baseline whose counter is an integer. -/
structure Prior (lib : Libraries) (spec : Spec) (disk : Disk) (data : List UInt8)
    (history : Members) (count : ℤ) : Prop where
  secret : loadSecret (disk.file spec.hmacSecretPath) = some data
  baseline : ∃ text old, disk.file spec.fingerprintPath = .text text ∧
    lib.loads text = .value (.obj old) ∧ old.lookup "history" = some (.obj history)
  counter : history.lookup "verify_count" = some (.int count)

/-- The document that continues a history. -/
theorem Prior.buildFingerprint {lib : Libraries} {spec : Spec} {disk : Disk} {data : List UInt8}
    {history : Members} {count : ℤ} (hprior : Prior lib spec disk data history count)
    (meets : PlanMeets) :
    ∃ baseline, planBaseline lib (disk.file spec.fingerprintPath) = .ok baseline ∧
      buildFingerprint spec meets baseline = .ok (newFingerprint spec meets
        ((history.lookup "first_seen_utc").getD (.str meets.now)) (count + 1)) := by
  obtain ⟨text, old, htext, hloads, hhistory⟩ := hprior.baseline
  have htruth : (Json.obj old).truth = true := by
    cases old with
    | nil => cases hhistory
    | cons member members => rfl
  refine ⟨.obj old, ?_, ?_⟩
  · rw [htext, planBaseline, hloads]
  · rw [Bringup.buildFingerprint, planHistory, if_pos htruth]
    simp only [Json.get, hhistory, Option.getD_some, hprior.counter, Json.toInt, bind, Except.bind]
    rfl

/-- A plan is made if its document can be written. -/
theorem Prior.plans {lib : Libraries} {spec : Spec} {disk : Disk} {data : List UInt8}
    {history : Members} {count : ℤ} (hprior : Prior lib spec disk data history count)
    {meets : PlanMeets}
    (haccepts : lib.refuses (.obj (signed lib (disk.file spec.hmacSecretPath)
      (newFingerprint spec meets ((history.lookup "first_seen_utc").getD (.str meets.now))
        (count + 1)))) = none) :
    ∃ actions, fingerprintPlan lib spec meets disk = .ok actions := by
  obtain ⟨baseline, hbaseline, hfp⟩ := hprior.buildFingerprint meets
  rw [fingerprintPlan, plannedDocument, hbaseline]
  simp only [bind, Except.bind, hfp, haccepts]
  exact ⟨_, rfl⟩

section Written

variable {F : Type} [FloatText F] {fc : FloatCodec F} {limit : ℕ} {repr : Json → String}
  {hmac : List UInt8 → String → String} {spec : Spec} {meets : PlanMeets} {disk : Disk}
  {data : List UInt8} {history : Members} {count : ℤ}

theorem loads_eq (text : String) : (pythonLibraries fc limit repr hmac).loads text =
    loadsResult fc (jsonLoads limit text.toList) := rfl

/-- What is read has no key twice. -/
theorem distinct_of_loads {text : String} {v : Json}
    (h : (pythonLibraries fc limit repr hmac).loads text = .value v) : (v.toValue fc).Distinct := by
  rw [loads_eq] at h
  cases hloads : (jsonLoads limit text.toList : Except JsonError (JsonValue F)) with
  | error e =>
      rw [hloads] at h
      cases e with
      | decode | tooDeep | tooLong => cases h
  | ok value =>
      rw [hloads] at h
      cases h
      exact distinct_ofValue fc (distinct_of_jsonLoads hloads)

/-- The document that is planned continues the history, and comes back. -/
theorem Prior.document
    (hprior : Prior (pythonLibraries fc limit repr hmac) spec disk data history count)
    (hanswers : meets.host.Answers fc)
    (hfirst : ∀ first, history.lookup "first_seen_utc" = some first → first.EveryFloat fc.Survives)
    {document : Members}
    (h : plannedDocument (pythonLibraries fc limit repr hmac) spec meets disk = .ok document) :
    document = signed (pythonLibraries fc limit repr hmac) (disk.file spec.hmacSecretPath)
        (newFingerprint spec meets ((history.lookup "first_seen_utc").getD (.str meets.now))
          (count + 1)) ∧
      RoundTrips (pythonLibraries fc limit repr hmac) document := by
  obtain ⟨text, old, htext, hloads, hhistory⟩ := hprior.baseline
  have haccepted := plannedDocument_accepted _ _ h
  obtain ⟨baseline, fp, hbaseline, hfp, hdocument⟩ := plannedDocument_eq _ _ h
  obtain ⟨baseline', hbaseline', hfp'⟩ := hprior.buildFingerprint meets
  cases hbaseline.symm.trans hbaseline'
  cases hfp.symm.trans hfp'
  have hplain : Plain fc fc.Survives
      ((history.lookup "first_seen_utc").getD (.str meets.now)) := by
    have hdistinct := distinct_entry (distinct_of_loads hloads) hhistory
    cases hlookup : history.lookup "first_seen_utc" with
    | none => exact plain_str _
    | some first => exact ⟨distinct_entry hdistinct hlookup, hfirst first hlookup⟩
  have hsigned : Plain fc fc.Survives (.obj document) := by
    rw [hdocument, signed, hprior.secret]
    exact (hanswers.newFingerprint hplain _).setMember (plain_str _)
  exact ⟨hdocument, python_readsBack hsigned.distinct hsigned.floats haccepted,
    fun members hmembers => python_resigns hsigned.distinct hmembers⟩

theorem hmacCheck_of_verify {lib : Libraries} {secret : FileContent} {baseline : Members}
    (hsecret : loadSecret secret = some data)
    (hverify : verify lib baseline (secretBytes data) = .ok true) :
    hmacCheck lib secret baseline = .ok .valid := by
  cases hsignature : baseline.lookup "_hmac" with
  | none =>
      rw [verify, hsignature] at hverify
      cases hverify
  | some signature =>
      rw [hmacCheck, hsignature]
      simp only [isFile_of_loadSecret hsecret, if_true, hsecret, hverify]
      rfl

/-- A plan that ran to its end has written its document, and left the secret. -/
theorem executed_plan {lib : Libraries} {actions : List Action} {outcomes : List Outcome}
    {text : String} (htext : disk.file spec.fingerprintPath = .text text)
    (hsecret : loadSecret (disk.file spec.hmacSecretPath) = some data)
    (hplan : fingerprintPlan lib spec meets disk = .ok actions)
    (hrun : (executeAll actions outcomes disk).completed = true) :
    ∃ document, plannedDocument lib spec meets disk = .ok document ∧
      (executeAll actions outcomes disk).disk.file spec.fingerprintPath =
        .text (baselineText lib document) ∧
      (executeAll actions outcomes disk).disk.file spec.hmacSecretPath =
        disk.file spec.hmacSecretPath := by
  have hwritable : (disk.file spec.fingerprintPath).Writable := .inr ⟨text, htext⟩
  rw [fingerprintPlan] at hplan
  cases hdocument : plannedDocument lib spec meets disk with
  | error e =>
      rw [hdocument] at hplan
      cases hplan
  | ok document =>
      rw [hdocument] at hplan
      cases hplan
      have hall := (execute_plan_completed lib spec meets document outcomes disk hwritable).mp hrun
      refine ⟨document, rfl, ?_, ?_⟩
      · exact (execute_plan_fingerprint lib spec meets document outcomes disk hwritable).trans
          (if_neg hall)
      · exact (execute_plan_secret lib spec meets document outcomes disk).trans
          (if_pos (isFile_of_loadSecret hsecret))

/-- What stands in the baseline after a plan has run: the document, but for the order of its
members. -/
structure Rewritten (lib : Libraries) (spec : Spec) (meets : PlanMeets) (history : Members)
    (count : ℤ) (disk : Disk) (baseline kept : Members) : Prop where
  text : ∃ text, disk.file spec.fingerprintPath = .text text ∧
    lib.loads text = .value (.obj baseline)
  valid : hmacCheck lib (disk.file spec.hmacSecretPath) baseline = .ok .valid
  describes : Describes spec meets.host baseline
  keeps : baseline.lookup "history" = some (.obj kept)
  firstSeen : ∀ first, history.lookup "first_seen_utc" = some first →
    kept.lookup "first_seen_utc" = some first.sorted
  counter : kept.lookup "verify_count" = some (.int (count + 1))

theorem Prior.rewritten {actions : List Action} {outcomes : List Outcome}
    (hprior : Prior (pythonLibraries fc limit repr hmac) spec disk data history count)
    (hdigest : HexDigests (pythonLibraries fc limit repr hmac)) (hanswers : meets.host.Answers fc)
    (hfirst : ∀ first, history.lookup "first_seen_utc" = some first → first.EveryFloat fc.Survives)
    (hplan : fingerprintPlan (pythonLibraries fc limit repr hmac) spec meets disk = .ok actions)
    (hrun : (executeAll actions outcomes disk).completed = true) :
    ∃ baseline kept, Rewritten (pythonLibraries fc limit repr hmac) spec meets history count
      (executeAll actions outcomes disk).disk baseline kept := by
  obtain ⟨text, old, htext, -, -⟩ := hprior.baseline
  obtain ⟨document, hdocument, hwritten, hsecret⟩ := executed_plan htext hprior.secret hplan hrun
  obtain ⟨hsigned, hround⟩ := hprior.document hanswers hfirst hdocument
  obtain ⟨baseline, hbaseline⟩ : ∃ baseline, Json.sorted (.obj document) = .obj baseline :=
    ⟨_, rfl⟩
  have hloads := hround.reads
  rw [ReadsBack, hbaseline] at hloads
  have hlookup : ∀ key value, key ≠ "_hmac" →
      (newFingerprint spec meets ((history.lookup "first_seen_utc").getD (.str meets.now))
        (count + 1)).lookup key = some value → baseline.lookup key = some value.sorted := by
    intro key value hkey hvalue
    cases hbaseline
    rw [lookup_sorted, hsigned, lookup_signed _ hkey, hvalue]
    rfl
  have hkept := hlookup "history" _ (by decide) rfl
  rw [Json.sorted] at hkept
  refine ⟨baseline, _, ⟨_, hwritten, hloads⟩, ?_, ?_, hkept, ?_, ?_⟩
  · rw [hsecret]
    rw [hsigned] at hround hbaseline
    exact hmacCheck_of_verify hprior.secret (verify_signed _ hdigest hprior.secret hround hbaseline)
  · exact ⟨hlookup "camera" _ (by decide) rfl, hlookup "calibration" _ (by decide) rfl,
      hlookup "host" _ (by decide) rfl⟩
  · intro first hfirst
    rw [lookup_sorted, hfirst]
    rfl
  · rw [lookup_sorted]
    rfl

omit [FloatText F] in
/-- The check of what was written is OK, or cannot compare the calibration. -/
theorem Rewritten.check {lib : Libraries} {after : Disk} {baseline kept : Members}
    (h : Rewritten lib spec meets history count after baseline kept)
    (hanswers : meets.host.Answers fc) (v4lDev : Option String) :
    (Calibrated (meets.host.answer "calibration" (.obj [])) ∧
      (runCheck lib spec { meets.host with v4lDev := v4lDev } after).status = .ok ∧
      (runCheck lib spec { meets.host with v4lDev := v4lDev } after).details.lookup "hmac_check" =
        some (.str "valid")) ∨
    (¬ Calibrated (meets.host.answer "calibration" (.obj [])) ∧
      (runCheck lib spec { meets.host with v4lDev := v4lDev } after).status = .error) := by
  obtain ⟨text, htext, hloads⟩ := h.text
  have hcompare := hanswers.compare h.describes v4lDev
  have hcalibration : Plain fc fc.Faithful (meets.host.answer "calibration" (.obj [])) :=
    hanswers.answer "calibration" plain_empty
  rcases (hcalibration.mono fun _ hx => hx.toIsNumber).compareCalibration with
    ⟨hcalibrated, diffs, hdiffs, hnone⟩ | ⟨hnot, e, he⟩
  · rw [hdiffs] at hcompare
    have hsame := hcompare.trans (congrArg Except.ok hnone)
    exact .inl ⟨hcalibrated, runCheck_valid htext hloads hsame h.valid h.keeps⟩
  · rw [he] at hcompare
    refine .inr ⟨hnot, ?_⟩
    rw [runCheck, Bringup.check, htext, loadBaseline, hloads]
    simp only [bind, Except.bind, checkBaseline, hcompare]
    rfl

end Written

/-- After the actions of a plan have run, the check of the same camera is OK with a valid signature
if and only if the calibration can be compared, whatever video node the camera has by then.  The
new baseline keeps when the camera was first seen, and counts one write more. -/
theorem write_verifies {F : Type} [FloatText F] (fc : FloatCodec F) (limit : ℕ)
    (repr : Json → String) (hmac : List UInt8 → String → String) (spec : Spec) (meets : PlanMeets)
    (disk : Disk) (data : List UInt8) (history : Members) (count : ℤ) (actions : List Action)
    (outcomes : List Outcome)
    (hdigest : HexDigests (pythonLibraries fc limit repr hmac))
    (hanswers : meets.host.Answers fc)
    (hprior : Prior (pythonLibraries fc limit repr hmac) spec disk data history count)
    (hfirst : ∀ first, history.lookup "first_seen_utc" = some first → first.EveryFloat fc.Survives)
    (hplan : fingerprintPlan (pythonLibraries fc limit repr hmac) spec meets disk = .ok actions)
    (hrun : (executeAll actions outcomes disk).completed = true) :
    (∀ v4lDev,
      let result := runCheck (pythonLibraries fc limit repr hmac) spec
        { meets.host with v4lDev := v4lDev } (executeAll actions outcomes disk).disk
      (result.status = .ok ∧ result.details.lookup "hmac_check" = some (.str "valid")) ↔
        Calibrated (meets.host.answer "calibration" (.obj []))) ∧
    ∃ text baseline kept,
      (executeAll actions outcomes disk).disk.file spec.fingerprintPath = .text text ∧
      (pythonLibraries fc limit repr hmac).loads text = .value (.obj baseline) ∧
      baseline.lookup "history" = some (.obj kept) ∧
      (∀ first, history.lookup "first_seen_utc" = some first →
        kept.lookup "first_seen_utc" = some first.sorted) ∧
      kept.lookup "verify_count" = some (.int (count + 1)) := by
  obtain ⟨baseline, kept, hwritten⟩ := hprior.rewritten hdigest hanswers hfirst hplan hrun
  obtain ⟨text, htext, hloads⟩ := hwritten.text
  refine ⟨fun v4lDev => ?_, text, baseline, kept, htext, hloads, hwritten.keeps,
    hwritten.firstSeen, hwritten.counter⟩
  rcases hwritten.check hanswers v4lDev with ⟨hcalibrated, hok⟩ | ⟨hnot, herror⟩
  · exact iff_of_true hok hcalibrated
  · refine iff_of_false (fun hok => ?_) hnot
    cases herror.symm.trans hok.1

/-! ## A camera that answers with a calibration -/

/-- A codec for values without floats. -/
def wholeCodec : FloatCodec WholeFloat where
  write _ := .finite FloatNumber.zero
  read _ := 0

/-- A host whose camera answers with the calibration of its colour sensor. -/
def calibratedHost (color : Json) : Host where
  device := some [("serial", .str "141722072135"), ("firmware", .str "5.16.0.1"),
    ("calibration", .obj [("color", color)])]
  hostname := "robot"
  sysfsPath := some "2-1"
  v4lDev := some "/dev/video4"

/-- The next plan on that host. -/
def calibratedPlan (color : Json) : PlanMeets where
  host := calibratedHost color
  now := "2026-06-15T08:00:00Z"
  newSecret := ""

/-- `repr` of what is shown of that camera. -/
def sampleRepr : Json → String
  | .str value => "'" ++ value ++ "'"
  | .int n => toString n
  | _ => "None"

/-- The next fingerprint of that camera as it is written to be signed. -/
def calibratedText (color : String) : String :=
  "\x7b\"calibration\":\x7b\"color\":" ++ color ++ "\x7d,"
    ++ "\"camera\":\x7b\"firmware\":\"5.16.0.1\",\"product_id\":\"0b3a\","
    ++ "\"product_line\":null,\"product_name\":null,\"serial\":\"141722072135\","
    ++ "\"usb_type\":null,\"vendor_id\":\"8086\"\x7d,"
    ++ "\"history\":\x7b\"first_seen_utc\":\"2026-06-14T08:00:00Z\","
    ++ "\"last_verified_utc\":\"2026-06-15T08:00:00Z\",\"verify_count\":2\x7d,"
    ++ "\"host\":\x7b\"hostname\":\"robot\",\"sysfs_path\":\"2-1\","
    ++ "\"v4l_dev\":\"/dev/video4\"\x7d,\"schema_version\":1\x7d"

/-- The signatures under the secret `00112233` where the sensor answers with a word, and where it
answers with its size. -/
def sampleHmac (_ : List UInt8) (text : String) : String :=
  if text = calibratedText "\"factory\"" then
    "e1129e282c011ebeac352e97d7f8a273305b041e64802238c553f2f46812d358"
  else "d292903e506302b94fc9f8c46a7db46fba2ad39ea4b13e88b9a54ecd3d74655b"

/-- The library for that camera. -/
def sampleLibraries : Libraries := pythonLibraries wholeCodec 1000 sampleRepr sampleHmac

/-- The history of its baseline. -/
def sampleHistory : Members :=
  [("first_seen_utc", .str "2026-06-14T08:00:00Z"), ("verify_count", .int 1)]

/-- Its baseline. -/
def sampleText : String :=
  "\x7b\"history\":\x7b\"first_seen_utc\":\"2026-06-14T08:00:00Z\",\"verify_count\":1\x7d\x7d"

/-- A disk with that baseline and the secret. -/
def sampleDisk : Disk := diskWith (.text sampleText) (.text "00112233")

theorem sample_digests : HexDigests sampleLibraries := by
  intro key text
  change sampleHmac key text ≠ "" ∧
    (sampleHmac key text).toList.all (fun c => c.val < 128) = true
  unfold sampleHmac
  split_ifs
  · exact ⟨by decide, by decide⟩
  · exact ⟨by decide, by decide⟩

theorem sample_loads : sampleLibraries.loads sampleText =
    .value (.obj [("history", .obj sampleHistory)]) := by
  have htext : sampleText.toList =
      signingStyle.encode 0 ((Json.obj [("history", .obj sampleHistory)]).toValue wholeCodec) := by
    decide +kernel
  have hplain : Plain wholeCodec wholeCodec.Survives (.obj [("history", .obj sampleHistory)]) := by
    refine .obj (List.nodup_singleton _) (List.forall_mem_singleton.mpr (.obj ?_ ?_))
    · decide
    · exact List.forall_mem_cons.mpr ⟨plain_str _, List.forall_mem_singleton.mpr (plain_int _)⟩
  rw [sampleLibraries, loads_eq, htext,
    jsonLoads_encode _ hplain.distinct (by decide) (by decide), loadsResult,
    ofValue_toValue wholeCodec hplain.floats]

theorem sample_prior : Prior sampleLibraries shippedSpec sampleDisk "00112233".toUTF8.data.toList
    sampleHistory 1 where
  secret := by decide +kernel
  baseline := ⟨sampleText, [("history", .obj sampleHistory)], rfl, sample_loads, rfl⟩
  counter := rfl

theorem sample_answers {color : Json} (h : Plain wholeCodec wholeCodec.Faithful color) :
    (calibratedPlan color).host.Answers wholeCodec := by
  have hcalibration : Plain wholeCodec wholeCodec.Faithful (.obj [("color", color)]) :=
    .obj (List.nodup_singleton _) (List.forall_mem_singleton.mpr h)
  refine .obj (show ["serial", "firmware", "calibration"].Nodup by decide) ?_
  exact List.forall_mem_cons.mpr ⟨plain_str _, List.forall_mem_cons.mpr ⟨plain_str _,
    List.forall_mem_singleton.mpr hcalibration⟩⟩

theorem sample_first : ∀ first, sampleHistory.lookup "first_seen_utc" = some first →
    first.EveryFloat wholeCodec.Survives := by
  intro first hfirst
  cases hfirst
  trivial

theorem sample_plans {color : Json} (h : sampleLibraries.refuses (.obj (signed sampleLibraries
    (sampleDisk.file shippedSpec.hmacSecretPath) (newFingerprint shippedSpec (calibratedPlan color)
      (.str "2026-06-14T08:00:00Z") 2))) = none) :
    ∃ actions, fingerprintPlan sampleLibraries shippedSpec (calibratedPlan color) sampleDisk =
      .ok actions :=
  sample_prior.plans h

/-- The plan runs to its end where nothing fails. -/
theorem sample_runs {color : Json} {actions : List Action}
    (h : fingerprintPlan sampleLibraries shippedSpec (calibratedPlan color) sampleDisk =
      .ok actions) : (executeAll actions [] sampleDisk).completed = true := by
  rw [fingerprintPlan] at h
  cases hdocument :
      plannedDocument sampleLibraries shippedSpec (calibratedPlan color) sampleDisk with
  | error e =>
      rw [hdocument] at h
      cases h
  | ok document =>
      rw [hdocument] at h
      cases h
      refine (execute_plan_completed sampleLibraries shippedSpec _ document [] sampleDisk
        (.inr ⟨_, rfl⟩)).mpr ?_
      rw [FailsWithin, List.take_nil]
      exact Bool.false_ne_true

/-- The size of the colour images. -/
def colorSize : Json := .obj [("width", .int 640), ("height", .int 480)]

theorem plain_colorSize : Plain wholeCodec wholeCodec.Faithful colorSize := by
  refine .obj (show ["width", "height"].Nodup by decide) ?_
  simp only [List.forall_mem_cons]
  exact ⟨plain_int _, plain_int _, List.forall_mem_nil _⟩

/-- A baseline with that size verifies. -/
theorem write_verifies_size : ∃ actions,
    fingerprintPlan sampleLibraries shippedSpec (calibratedPlan colorSize) sampleDisk =
        .ok actions ∧
      (runCheck sampleLibraries shippedSpec (calibratedHost colorSize)
        (executeAll actions [] sampleDisk).disk).status = .ok := by
  obtain ⟨actions, hplan⟩ := @sample_plans colorSize
    (refuses_of_short (by decide +kernel) (by decide +kernel))
  have hsize : Calibrated (.obj [("color", colorSize)]) := fun _ =>
    ⟨_, rfl, List.forall_mem_cons.mpr ⟨.inr ⟨_, rfl⟩, List.forall_mem_cons.mpr ⟨.inl rfl,
      List.forall_mem_singleton.mpr (.inl rfl)⟩⟩⟩
  have hchecked := (write_verifies wholeCodec 1000 sampleRepr sampleHmac shippedSpec
    (calibratedPlan colorSize) sampleDisk _ sampleHistory 1 actions [] sample_digests
    (sample_answers plain_colorSize) sample_prior sample_first hplan (sample_runs hplan)).1
      (some "/dev/video4")
  exact ⟨actions, hplan, (hchecked.mpr hsize).1⟩

/-- With a word for a calibration the check raises. -/
theorem write_not_verified : ∃ actions,
    fingerprintPlan sampleLibraries shippedSpec (calibratedPlan (.str "factory")) sampleDisk =
        .ok actions ∧
      (executeAll actions [] sampleDisk).completed = true ∧
      (runCheck sampleLibraries shippedSpec (calibratedHost (.str "factory"))
        (executeAll actions [] sampleDisk).disk).status = .error := by
  obtain ⟨actions, hplan⟩ := @sample_plans (.str "factory")
    (refuses_of_short (by decide +kernel) (by decide +kernel))
  have hanswers := sample_answers (plain_str "factory")
  obtain ⟨baseline, kept, hwritten⟩ := sample_prior.rewritten sample_digests hanswers sample_first
    hplan (sample_runs hplan)
  refine ⟨actions, hplan, sample_runs hplan, ?_⟩
  rcases hwritten.check hanswers (some "/dev/video4") with ⟨hcalibrated, -⟩ | ⟨-, herror⟩
  · obtain ⟨streams, hstreams, hintr⟩ := hcalibrated rfl
    cases hstreams
    rcases hintr "color" List.mem_cons_self with hnull | ⟨members, hmembers⟩
    · cases hnull
    · cases hmembers
  · exact herror

end CameraStack.Bringup
