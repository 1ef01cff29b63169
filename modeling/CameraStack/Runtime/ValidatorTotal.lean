/-
# Where the dry run returns

A section that is no object cannot be merged, and a value that is no text of an integer cannot be
looked up in the catalog: there `validate` raises.  Everywhere else it returns, and an entry of the
diff that is rejected has left an error behind.
-/

import CameraStack.Runtime.Validator

namespace CameraStack.Runtime.Validator

open CameraStack.Lib

/-! ## Returning -/

/-- A computation does not raise. -/
def Returns {A : Type} (x : Except PyException A) : Prop := ∃ a, x = .ok a

section Returning

variable {A B : Type}

theorem returns_ok (a : A) : Returns (.ok a : Except PyException A) := ⟨a, rfl⟩

theorem bind_eq_ok_iff {x : Except PyException A} {f : A → Except PyException B} {b : B} :
    (x >>= f) = .ok b ↔ ∃ a, x = .ok a ∧ f a = .ok b := by
  cases x with
  | error e => exact iff_of_false nofun fun h => nomatch h.choose_spec.1
  | ok a =>
      constructor
      · intro h
        exact ⟨a, rfl, h⟩
      · rintro ⟨a', ha, h⟩
        cases ha
        exact h

theorem returns_bind_iff {x : Except PyException A} {f : A → Except PyException B} :
    Returns (x >>= f) ↔ ∃ a, x = .ok a ∧ Returns (f a) := by
  constructor
  · rintro ⟨b, hb⟩
    obtain ⟨a, ha, hf⟩ := bind_eq_ok_iff.mp hb
    exact ⟨a, ha, b, hf⟩
  · rintro ⟨a, ha, b, hf⟩
    exact ⟨b, bind_eq_ok_iff.mpr ⟨a, ha, hf⟩⟩

theorem map_eq_ok_iff {x : Except PyException A} {f : A → B} {b : B} :
    x.map f = .ok b ↔ ∃ a, x = .ok a ∧ f a = b := by
  cases x with
  | error e => exact iff_of_false nofun fun h => nomatch h.choose_spec.1
  | ok a =>
      constructor
      · intro h
        exact ⟨a, rfl, Except.ok.inj h⟩
      · rintro ⟨a', ha, h⟩
        cases ha
        exact congrArg Except.ok h

theorem returns_map_iff {x : Except PyException A} {f : A → B} :
    Returns (x.map f) ↔ Returns x := by
  constructor
  · rintro ⟨b, hb⟩
    obtain ⟨a, ha, -⟩ := map_eq_ok_iff.mp hb
    exact ⟨a, ha⟩
  · rintro ⟨a, rfl⟩
    exact returns_ok (f a)

end Returning

variable {F : Type}

/-! ## Steps one after the other -/

theorem errors_append (first second : Report F) :
    (first ++ second).errors = first.errors ++ second.errors := rfl

theorem diff_append (first second : Report F) :
    (first ++ second).diff = first.diff ++ second.diff := rfl

theorem collect_cons_ok_iff {A : Type} {step : A → Except PyException (Report F)} {a : A}
    {rest : List A} {report : Report F} :
    collect step (a :: rest) = .ok report ↔
      ∃ first second, step a = .ok first ∧ collect step rest = .ok second ∧
        first ++ second = report := by
  rw [collect]
  cases step a with
  | error e => exact iff_of_false nofun fun ⟨_, _, h, _⟩ => nomatch h
  | ok first =>
      dsimp only
      rw [map_eq_ok_iff]
      constructor
      · rintro ⟨second, hsecond, heq⟩
        exact ⟨first, second, rfl, hsecond, heq⟩
      · rintro ⟨first', second, hfirst, hsecond, heq⟩
        cases hfirst
        exact ⟨second, hsecond, heq⟩

theorem returns_collect_iff {A : Type} {step : A → Except PyException (Report F)} {l : List A} :
    Returns (collect step l) ↔ ∀ a ∈ l, Returns (step a) := by
  induction l with
  | nil => exact iff_of_true (returns_ok _) (List.forall_mem_nil _)
  | cons a rest ih =>
      rw [List.forall_mem_cons, ← ih]
      constructor
      · rintro ⟨report, h⟩
        obtain ⟨first, second, hfirst, hsecond, -⟩ := collect_cons_ok_iff.mp h
        exact ⟨⟨first, hfirst⟩, second, hsecond⟩
      · rintro ⟨⟨first, hfirst⟩, second, hsecond⟩
        exact ⟨first ++ second, collect_cons_ok_iff.mpr ⟨first, second, hfirst, hsecond, rfl⟩⟩

/-- The errors of steps are those of each step. -/
theorem mem_errors_collect_iff {A : Type} {step : A → Except PyException (Report F)} {l : List A}
    {report : Report F} (h : collect step l = .ok report) {e : ErrorEntry} :
    e ∈ report.errors ↔ ∃ a ∈ l, ∃ first, step a = .ok first ∧ e ∈ first.errors := by
  induction l generalizing report with
  | nil =>
      cases h
      exact iff_of_false List.not_mem_nil fun ⟨_, hmem, _⟩ => List.not_mem_nil hmem
  | cons a rest ih =>
      obtain ⟨first, second, hfirst, hsecond, rfl⟩ := collect_cons_ok_iff.mp h
      rw [errors_append, List.mem_append, ih hsecond, List.exists_mem_cons_iff]
      refine or_congr_left ?_
      constructor
      · intro he
        exact ⟨first, hfirst, he⟩
      · rintro ⟨first', hfirst', he⟩
        cases hfirst.symm.trans hfirst'
        exact he

/-! ## Honest reports -/

/-- A report that rejects a change has an error. -/
def Honest (report : Report F) : Prop :=
  report.errors = [] → ∀ entry ∈ report.diff, entry.impact ≠ .rejected

theorem Honest.append {first second : Report F} (hfirst : Honest first) (hsecond : Honest second) :
    Honest (first ++ second) := by
  intro hnone
  rw [errors_append, List.append_eq_nil_iff] at hnone
  rw [diff_append]
  exact List.forall_mem_append.mpr ⟨hfirst hnone.1, hsecond hnone.2⟩

theorem honest_of_diff {report : Report F} (h : report.diff = []) : Honest report := by
  intro _ entry hentry
  rw [h] at hentry
  cases hentry

theorem honest_of_errors {report : Report F} (h : report.errors ≠ []) : Honest report :=
  fun hnone => absurd hnone h

theorem honest_concat {reports : List (Report F)} (h : ∀ report ∈ reports, Honest report) :
    Honest (concat reports) := by
  induction reports with
  | nil => exact honest_of_diff rfl
  | cons report reports ih =>
      obtain ⟨hreport, hrest⟩ := List.forall_mem_cons.mp h
      exact hreport.append (ih hrest)

theorem honest_collect {A : Type} {step : A → Except PyException (Report F)} {l : List A}
    {report : Report F} (hstep : ∀ a r, step a = .ok r → Honest r)
    (h : collect step l = .ok report) : Honest report := by
  induction l generalizing report with
  | nil =>
      cases h
      exact honest_of_diff rfl
  | cons a rest ih =>
      obtain ⟨first, second, hfirst, hsecond, rfl⟩ := collect_cons_ok_iff.mp h
      exact (hstep a first hfirst).append (ih hsecond)

theorem honest_mergedErrors {python : Python F} {cls : ModelClass}
    {base : List (Text × JsonValue F)} {patch : JsonValue F} {area : Text} {report : Report F}
    (h : mergedErrors python cls base patch area = .ok report) : Honest report := by
  cases patch with
  | obj members =>
      cases h
      exact honest_of_diff rfl
  | null | bool | int | float | str | arr => cases h

variable [FloatNumber F]

theorem honest_sectionField (area : Text) (policy : List (Text × Policy))
    (rejected : Text → Complaint) (current : List (Text × JsonValue F)) (field : Text)
    (value : JsonValue F) : Honest (sectionField area policy rejected current field value) := by
  rw [sectionField]
  cases policy.lookup field with
  | none => exact honest_of_diff rfl
  | some p =>
      dsimp only
      split_ifs with hequal himpact
      · exact honest_of_diff rfl
      · exact honest_of_errors (List.cons_ne_nil _ _)
      · intro _ entry hentry
        cases List.mem_singleton.mp hentry
        exact himpact

/-- The resolution that a field of a profile is looked up with. -/
def lookupResolution (cur : Option EffectiveStreamProfile) (field : Text) (value : JsonValue F) :
    JsonValue F :=
  if field = "resolution".toList then value else currentResolution cur

/-- The frames per second that a field of a profile is looked up with. -/
def lookupFps (cur : Option EffectiveStreamProfile) (field : Text) (value : JsonValue F) :
    JsonValue F :=
  if field = "fps".toList then value else currentFps cur

/-- What is looked up has a mode; if the mode is not found there is one error, and nothing else. -/
theorem colorMode_eq_ok {python : Python F} {modes : List Mode} {path : Text}
    {res fps : JsonValue F} {report : Report F}
    (h : colorMode python modes path res fps = .ok report) :
    ∃ mode, modeOf python res fps = .ok mode ∧
      ((mode ∈ modes ∧ report = {}) ∨
        (mode ∉ modes ∧ ∃ f, report = err (some path) (.colorMode mode.1 f))) := by
  rw [colorMode] at h
  cases hmode : modeOf python res fps with
  | error e =>
      rw [hmode] at h
      cases h
  | ok mode =>
      rw [hmode] at h
      dsimp only at h
      refine ⟨mode, rfl, ?_⟩
      split_ifs at h with hmem
      · cases h
        exact .inl ⟨hmem, rfl⟩
      · obtain ⟨f, -, hf⟩ := map_eq_ok_iff.mp h
        exact .inr ⟨hmem, f, hf.symm⟩

/-- R6 leaves a warning at most, where it looks nothing up. -/
theorem colorRule_eq_ok {python : Python F} {modes : Option (Token → Option (List Mode))}
    {cur : Option EffectiveStreamProfile} {path field : Text} {value : JsonValue F}
    {report : Report F} (h : colorRule python modes cur path field value = .ok report) :
    (report.errors = [] ∧ report.diff = []) ∨
      ∃ table, colorMode python table path (lookupResolution cur field value)
        (lookupFps cur field value) = .ok report := by
  unfold colorRule at h
  split at h
  · cases modes with
    | none =>
        cases h
        exact .inl ⟨rfl, rfl⟩
    | some modes =>
        dsimp only at h
        cases hmodes : modes .color with
        | none =>
            rw [hmodes] at h
            cases h
            exact .inl ⟨rfl, rfl⟩
        | some table =>
            rw [hmodes] at h
            exact .inr ⟨table, h⟩
  · cases h
    exact .inl ⟨rfl, rfl⟩

/-- R6 changes nothing in the diff. -/
theorem diff_colorRule {python : Python F} {modes : Option (Token → Option (List Mode))}
    {cur : Option EffectiveStreamProfile} {path field : Text} {value : JsonValue F}
    {report : Report F} (h : colorRule python modes cur path field value = .ok report) :
    report.diff = [] := by
  rcases colorRule_eq_ok h with ⟨-, hdiff⟩ | ⟨table, htable⟩
  · exact hdiff
  · obtain ⟨mode, -, ⟨-, rfl⟩ | ⟨-, f, rfl⟩⟩ := colorMode_eq_ok htable
    · rfl
    · rfl

/-- The complaint of R6. -/
def Complaint.isColorMode : Complaint → Bool
  | .colorMode _ _ => true
  | _ => false

/-- A field of a profile is one of the two of R6, and changed. -/
structure LookedUp (python : Python F) (key : Text) (cur : Option EffectiveStreamProfile)
    (field : Text) (value : JsonValue F) : Prop where
  color : sensorOf key = "color".toList
  rule : field = "resolution".toList ∨ field = "fps".toList
  changed : sameAttribute python cur field value = false

/-- The two fields of R6 are not read-only. -/
theorem lookup_streamReadonly {field : Text}
    (h : field = "resolution".toList ∨ field = "fps".toList) :
    streamReadonly.lookup field = none ∧ field ∈ streamTunable := by
  rcases h with rfl | rfl
  · decide
  · decide

/-- A field that R6 looks at is judged by it, and goes into the diff. -/
theorem streamField_of_lookedUp {python : Python F}
    {modes : Option (Token → Option (List Mode))} {key : Text}
    {cur : Option EffectiveStreamProfile} {field : Text} {value : JsonValue F}
    (h : LookedUp python key cur field value) :
    streamField python modes key cur field value =
      (colorRule python modes cur (fieldPath key field) field value).map
        (· ++
          { diff :=
              [{ path := fieldPath key field, frm := currentValue cur field, toValue := value
                 source := "rs-color.tuning.env".toList, impact := .restartEncoder }] }) := by
  obtain ⟨hnote, htunable⟩ := lookup_streamReadonly h.rule
  unfold streamField
  dsimp only
  rw [if_neg (by rw [h.changed]; nofun), hnote]
  dsimp only
  rw [if_pos htunable, if_pos h.color]

/-- Any other field is answered without a look-up: it has one error, or it is accepted. -/
theorem streamField_of_not_lookedUp {python : Python F}
    {modes : Option (Token → Option (List Mode))} {key : Text}
    {cur : Option EffectiveStreamProfile} {field : Text} {value : JsonValue F}
    (h : ¬ LookedUp python key cur field value) :
    ∃ report, streamField python modes key cur field value = .ok report ∧
      ((report.errors = [] ∧ ∀ entry ∈ report.diff, entry.impact ≠ .rejected) ∨
        ∃ complaint, report.errors = [{ path := some (fieldPath key field), complaint }] ∧
          complaint.isColorMode = false) := by
  unfold streamField
  dsimp only
  split
  · exact ⟨_, rfl, .inl ⟨rfl, nofun⟩⟩
  case isFalse hsame =>
    cases streamReadonly.lookup field with
    | some note => exact ⟨_, rfl, .inr ⟨_, rfl, rfl⟩⟩
    | none =>
        dsimp only
        split_ifs with htunable hcolor
        · have hrule : ¬ (field = "resolution".toList ∨ field = "fps".toList) := fun hrule =>
            h ⟨hcolor, hrule, Bool.eq_false_iff.mpr hsame⟩
          unfold colorRule
          rw [if_neg hrule]
          exact ⟨_, rfl, .inl ⟨rfl, List.forall_mem_singleton.mpr nofun⟩⟩
        · exact ⟨_, rfl, .inr ⟨_, rfl, rfl⟩⟩
        · exact ⟨_, rfl, .inr ⟨_, rfl, rfl⟩⟩

theorem honest_streamField {python : Python F} {modes : Option (Token → Option (List Mode))}
    {key : Text} {cur : Option EffectiveStreamProfile} {field : Text} {value : JsonValue F}
    {report : Report F} (h : streamField python modes key cur field value = .ok report) :
    Honest report := by
  by_cases hlooked : LookedUp python key cur field value
  · rw [streamField_of_lookedUp hlooked] at h
    obtain ⟨rule, hrule, rfl⟩ := map_eq_ok_iff.mp h
    intro _ entry hentry
    rw [diff_append, diff_colorRule hrule, List.nil_append] at hentry
    cases List.mem_singleton.mp hentry
    nofun
  · obtain ⟨report', hreport, hcases⟩ := @streamField_of_not_lookedUp F _ python modes key cur
      field value hlooked
    cases h.symm.trans hreport
    rcases hcases with ⟨-, hdiff⟩ | ⟨complaint, herrors, -⟩
    · exact fun _ => hdiff
    · exact honest_of_errors (by rw [herrors]; nofun)

theorem honest_streamProfile {python : Python F} {modes : Option (Token → Option (List Mode))}
    {eff : EffectiveRuntimeConfig} {key : Text} {prof : JsonValue F} {report : Report F}
    (h : streamProfile python modes eff key prof = .ok report) : Honest report := by
  rw [streamProfile] at h
  split_ifs at h
  · obtain ⟨merged, hmerged, h⟩ := bind_eq_ok_iff.mp h
    obtain ⟨members, -, h⟩ := bind_eq_ok_iff.mp h
    obtain ⟨fields, hfields, h⟩ := bind_eq_ok_iff.mp h
    cases h
    exact (honest_mergedErrors hmerged).append
      (honest_collect (fun _ _ hfield => honest_streamField hfield) hfields)
  · cases h
    exact honest_of_diff rfl

theorem honest_streamSection {python : Python F} {eff : EffectiveRuntimeConfig}
    {catalog : Option (List CatalogSensor)} {sp : JsonValue F} {report : Report F}
    (h : streamSection python eff catalog sp = .ok report) : Honest report := by
  obtain ⟨members, -, h⟩ := bind_eq_ok_iff.mp h
  exact honest_collect (fun _ _ hprofile => honest_streamProfile hprofile) h

theorem honest_webRtcSection {python : Python F} {webrtc : WebRtcRuntimeConfig}
    {wp : JsonValue F} {report : Report F} (h : webRtcSection python webrtc wp = .ok report) :
    Honest report := by
  rw [webRtcSection] at h
  split_ifs at h
  · obtain ⟨merged, hmerged, h⟩ := bind_eq_ok_iff.mp h
    obtain ⟨members, -, h⟩ := bind_eq_ok_iff.mp h
    cases h
    have hrelay : Honest (relayWarning webrtc members) := by
      rw [relayWarning]
      split_ifs
      · exact honest_of_diff rfl
      · exact honest_of_diff rfl
    refine ((honest_mergedErrors hmerged).append hrelay).append (honest_concat ?_)
    exact List.forall_mem_map.mpr fun member _ => honest_sectionField _ _ _ _ _ _
  · cases h
    exact honest_of_diff rfl

theorem honest_diagnosticsSection {python : Python F} {diagnostics : DiagnosticsRuntimeConfig}
    {dp : JsonValue F} {report : Report F}
    (h : diagnosticsSection python diagnostics dp = .ok report) : Honest report := by
  rw [diagnosticsSection] at h
  split_ifs at h
  · obtain ⟨merged, hmerged, h⟩ := bind_eq_ok_iff.mp h
    obtain ⟨members, -, h⟩ := bind_eq_ok_iff.mp h
    cases h
    refine (honest_mergedErrors hmerged).append (honest_concat ?_)
    exact List.forall_mem_map.mpr fun member _ => honest_sectionField _ _ _ _ _ _
  · cases h
    exact honest_of_diff rfl

omit [FloatNumber F] in
theorem diff_topLevelKey (python : Python F) (k : Text) : (topLevelKey python k).diff = [] := by
  rw [topLevelKey]
  split_ifs
  · rfl
  · rfl
  · rfl
  · rfl

theorem diff_versionRule (members : List (Text × JsonValue F)) :
    (versionRule members).diff = [] := by
  rw [versionRule]
  cases members.lookup "version".toList with
  | none => rfl
  | some version =>
      dsimp only
      split_ifs
      · rfl
      · rfl

/-! ## What is asked of the dry run -/

section Law

variable (python : Python F) (eff : EffectiveRuntimeConfig) (catalog : Option (List CatalogSensor))
  (issues : List Text) (patch : JsonValue F)

/-- The dry run of a patch returns, and accepts no change that it rejects. -/
structure ReturnsWell : Prop where
  returns : Returns (validate python eff catalog issues patch)
  accepted : ∀ response, validate python eff catalog issues patch = .ok response →
    response.valid = true → ∀ entry ∈ response.diff, entry.impact ≠ .rejected

/-- A value is an object. -/
def IsObject (value : JsonValue F) : Prop := ∃ members, value = .obj members

/-- The colour modes of the catalog, where there are any. -/
def colorTable : Option (List Mode) := (colorModes python catalog).bind fun modes => modes .color

/-- A value that is looked up has a mode, and a text if the mode is not found. -/
def FieldFits (key : Text) (cur : Option EffectiveStreamProfile) (field : Text)
    (value : JsonValue F) : Prop :=
  LookedUp python key cur field value → ∀ modes ∈ colorTable python catalog,
    ∃ mode, modeOf python (lookupResolution cur field value) (lookupFps cur field value) =
        .ok mode ∧
      (mode ∉ modes → Returns (python.str (lookupFps cur field value)))

/-- A profile is an object, or counts as none, and its values can be looked up. -/
def ProfileFits (key : Text) (prof : JsonValue F) : Prop :=
  ∃ fields, orEmpty prof = .obj fields ∧ ∀ member ∈ fields,
    FieldFits python catalog key (eff.streamProfiles.lookup key) member.1 member.2

/-- The sections of a patch are objects, or count as none, and the profiles with a canonical key
fit. -/
def Shapely : Prop :=
  ∀ members, patch = .obj members →
    IsObject (sectionOf members "webrtc".toList) ∧
      IsObject (sectionOf members "diagnostics".toList) ∧
        ∃ profiles, sectionOf members "stream_profiles".toList = .obj profiles ∧
          ∀ member ∈ profiles, isCanonicalSensorKey member.1 = true →
            ProfileFits python eff catalog member.1 member.2

end Law

/-! ## Where it returns -/

omit [FloatNumber F] in
theorem returns_mergedErrors_iff {python : Python F} {cls : ModelClass}
    {base : List (Text × JsonValue F)} {patch : JsonValue F} {area : Text} :
    Returns (mergedErrors python cls base patch area) ↔ IsObject patch := by
  cases patch with
  | obj members => exact iff_of_true (returns_ok _) ⟨members, rfl⟩
  | null | bool | int | float | str | arr => exact iff_of_false nofun nofun

omit [FloatNumber F] in
theorem items_eq_ok_iff {value : JsonValue F} {members : List (Text × JsonValue F)} :
    items value = .ok members ↔ value = .obj members := by
  cases value with
  | obj members' =>
      constructor
      · intro h
        cases h
        rfl
      · intro h
        cases h
        rfl
  | null | bool | int | float | str | arr => exact iff_of_false nofun nofun

/-- A section that is not looked at is the empty object. -/
theorem isObject_sectionOf {members : List (Text × JsonValue F)} {key : Text}
    (h : ¬ truthy (sectionOf members key) = true) : IsObject (sectionOf members key) := by
  rw [sectionOf, orEmpty] at h ⊢
  by_cases hvalue : truthy ((members.lookup key).getD .null) = true
  · rw [if_pos hvalue] at h
    exact absurd hvalue h
  · rw [if_neg hvalue]
    exact ⟨[], rfl⟩

theorem returns_webRtcSection_iff {python : Python F} {webrtc : WebRtcRuntimeConfig}
    {members : List (Text × JsonValue F)} {key : Text} :
    Returns (webRtcSection python webrtc (sectionOf members key)) ↔
      IsObject (sectionOf members key) := by
  rw [webRtcSection]
  split_ifs with htruthy
  · rw [returns_bind_iff]
    constructor
    · rintro ⟨merged, hmerged, -⟩
      exact returns_mergedErrors_iff.mp ⟨merged, hmerged⟩
    · rintro ⟨fields, hfields⟩
      rw [hfields]
      exact ⟨_, rfl, returns_ok _⟩
  · exact iff_of_true (returns_ok _) (isObject_sectionOf htruthy)

theorem returns_diagnosticsSection_iff {python : Python F}
    {diagnostics : DiagnosticsRuntimeConfig} {members : List (Text × JsonValue F)} {key : Text} :
    Returns (diagnosticsSection python diagnostics (sectionOf members key)) ↔
      IsObject (sectionOf members key) := by
  rw [diagnosticsSection]
  split_ifs with htruthy
  · rw [returns_bind_iff]
    constructor
    · rintro ⟨merged, hmerged, -⟩
      exact returns_mergedErrors_iff.mp ⟨merged, hmerged⟩
    · rintro ⟨fields, hfields⟩
      rw [hfields]
      exact ⟨_, rfl, returns_ok _⟩
  · exact iff_of_true (returns_ok _) (isObject_sectionOf htruthy)

theorem returns_colorMode_iff {python : Python F} {modes : List Mode} {path : Text}
    {res fps : JsonValue F} :
    Returns (colorMode python modes path res fps) ↔
      ∃ mode, modeOf python res fps = .ok mode ∧ (mode ∉ modes → Returns (python.str fps)) := by
  rw [colorMode]
  cases modeOf python res fps with
  | error e => exact iff_of_false nofun fun h => nomatch h.choose_spec.1
  | ok mode =>
      dsimp only
      split_ifs with hmem
      · exact iff_of_true (returns_ok _) ⟨mode, rfl, fun h => absurd hmem h⟩
      · rw [returns_map_iff]
        constructor
        · intro h
          exact ⟨mode, rfl, fun _ => h⟩
        · rintro ⟨mode', hmode', h⟩
          cases hmode'
          exact h hmem

theorem returns_colorRule_iff {python : Python F} {catalog : Option (List CatalogSensor)}
    {cur : Option EffectiveStreamProfile} {path field : Text} {value : JsonValue F}
    (hfield : field = "resolution".toList ∨ field = "fps".toList) :
    Returns (colorRule python (colorModes python catalog) cur path field value) ↔
      ∀ modes ∈ colorTable python catalog,
        Returns (colorMode python modes path (lookupResolution cur field value)
          (lookupFps cur field value)) := by
  unfold colorRule
  rw [if_pos hfield, colorTable]
  cases colorModes python catalog with
  | none => exact iff_of_true (returns_ok _) nofun
  | some modes =>
      dsimp only [Option.bind_some]
      cases modes .color with
      | none => exact iff_of_true (returns_ok _) nofun
      | some table =>
          constructor
          · intro h modes hmodes
            cases hmodes
            exact h
          · intro h
            exact h table rfl

theorem returns_streamField_iff {python : Python F} {catalog : Option (List CatalogSensor)}
    {key : Text} {cur : Option EffectiveStreamProfile} {field : Text} {value : JsonValue F} :
    Returns (streamField python (colorModes python catalog) key cur field value) ↔
      FieldFits python catalog key cur field value := by
  rw [FieldFits]
  by_cases hlooked : LookedUp python key cur field value
  · rw [streamField_of_lookedUp hlooked, returns_map_iff, returns_colorRule_iff hlooked.rule]
    simp only [returns_colorMode_iff]
    exact ⟨fun h _ => h, fun h => h hlooked⟩
  · obtain ⟨report, hreport, -⟩ := @streamField_of_not_lookedUp F _ python
      (colorModes python catalog) key cur field value hlooked
    exact iff_of_true ⟨report, hreport⟩ fun h => absurd h hlooked

theorem returns_streamProfile_iff {python : Python F} {catalog : Option (List CatalogSensor)}
    {eff : EffectiveRuntimeConfig} {key : Text} {prof : JsonValue F} :
    Returns (streamProfile python (colorModes python catalog) eff key prof) ↔
      (isCanonicalSensorKey key = true → ProfileFits python eff catalog key prof) := by
  rw [streamProfile]
  split_ifs with hkey
  · simp only [returns_bind_iff]
    constructor
    · rintro ⟨merged, hmerged, fields, hfields, report, hreport, -⟩ -
      have hfits := returns_collect_iff.mp ⟨report, hreport⟩
      exact ⟨fields, items_eq_ok_iff.mp hfields, fun member hmember =>
        returns_streamField_iff.mp (hfits member hmember)⟩
    · intro h
      obtain ⟨fields, hfields, hfits⟩ := h hkey
      obtain ⟨report, hreport⟩ := returns_collect_iff.mpr fun member hmember =>
        returns_streamField_iff.mpr (hfits member hmember)
      rw [hfields]
      exact ⟨_, rfl, fields, rfl, report, hreport, returns_ok _⟩
  · exact iff_of_true (returns_ok _) fun h => absurd h hkey

theorem returns_validate_iff {python : Python F} {eff : EffectiveRuntimeConfig}
    {catalog : Option (List CatalogSensor)} {issues : List Text} {patch : JsonValue F} :
    Returns (validate python eff catalog issues patch) ↔ Shapely python eff catalog patch := by
  cases patch with
  | obj members =>
      have hstreams : Returns (streamSection python eff catalog
          (sectionOf members "stream_profiles".toList)) ↔
          ∃ profiles, sectionOf members "stream_profiles".toList = .obj profiles ∧
            ∀ member ∈ profiles, isCanonicalSensorKey member.1 = true →
              ProfileFits python eff catalog member.1 member.2 := by
        rw [streamSection, returns_bind_iff]
        simp only [items_eq_ok_iff, returns_collect_iff, returns_streamProfile_iff]
      rw [validate, returns_bind_iff]
      simp only [returns_bind_iff]
      constructor
      · rintro ⟨webrtc, hwebrtc, diagnostics, hdiagnostics, streams, hstream, -⟩ members' hmembers
        cases hmembers
        exact ⟨returns_webRtcSection_iff.mp ⟨webrtc, hwebrtc⟩,
          returns_diagnosticsSection_iff.mp ⟨diagnostics, hdiagnostics⟩,
          hstreams.mp ⟨streams, hstream⟩⟩
      · intro h
        obtain ⟨hwp, hdp, hsp⟩ := h members rfl
        obtain ⟨webrtc, hwebrtc⟩ := returns_webRtcSection_iff.mpr hwp
        obtain ⟨diagnostics, hdiagnostics⟩ := returns_diagnosticsSection_iff.mpr hdp
        obtain ⟨streams, hstream⟩ := hstreams.mpr hsp
        exact ⟨webrtc, hwebrtc, diagnostics, hdiagnostics, streams, hstream, returns_ok _⟩
  | null | bool | int | float | str | arr =>
      exact iff_of_true (returns_ok _) nofun

/-- Whatever is accepted is rejected nowhere. -/
theorem accepted_of_validate {python : Python F} {eff : EffectiveRuntimeConfig}
    {catalog : Option (List CatalogSensor)} {issues : List Text} {patch : JsonValue F}
    {response : ValidationResponse F}
    (h : validate python eff catalog issues patch = .ok response) (hvalid : response.valid = true) :
    ∀ entry ∈ response.diff, entry.impact ≠ .rejected := by
  cases patch with
  | obj members =>
      obtain ⟨webrtc, hwebrtc, h⟩ := bind_eq_ok_iff.mp h
      obtain ⟨diagnostics, hdiagnostics, h⟩ := bind_eq_ok_iff.mp h
      obtain ⟨streams, hstreams, h⟩ := bind_eq_ok_iff.mp h
      cases h
      have htop : Honest (concat (members.map fun member => topLevelKey python member.1)) :=
        honest_concat (List.forall_mem_map.mpr fun member _ =>
          honest_of_diff (diff_topLevelKey python member.1))
      have haudit : Honest (audit eff.streamProfiles : Report F) := honest_of_diff rfl
      have hhonest := (((((honest_of_diff (diff_versionRule members)).append htop).append
        (honest_webRtcSection hwebrtc)).append (honest_diagnosticsSection hdiagnostics)).append
          (honest_streamSection hstreams)).append haudit
      refine (hhonest.append (honest_of_diff rfl)) ?_
      exact List.isEmpty_iff.mp hvalid
  | null | bool | int | float | str | arr =>
      cases h
      nofun

/-- The dry run of a patch returns, and accepts no change that it rejects, exactly when the patch
is shapely. -/
theorem returnsWell_iff (python : Python F) (eff : EffectiveRuntimeConfig)
    (catalog : Option (List CatalogSensor)) (issues : List Text) (patch : JsonValue F) :
    ReturnsWell python eff catalog issues patch ↔ Shapely python eff catalog patch := by
  rw [← @returns_validate_iff F _ python eff catalog issues patch]
  constructor
  · intro h
    exact h.returns
  · intro h
    exact ⟨h, fun _ hresponse hvalid => accepted_of_validate hresponse hvalid⟩

/-- A section that is a list raises a `TypeError`: it is no mapping. -/
theorem listSection_raises :
    ¬ ReturnsWell plainPython deviceConfig (some []) []
      (.obj [("webrtc".toList, .arr [.int 1])]) := by
  intro h
  obtain ⟨response, hresponse⟩ := h.returns
  cases hresponse

end CameraStack.Runtime.Validator
