/-
# R6 and the mode that a patch results in

R6 is asked once for each field that changes, together with the current value of the other field.
A patch that changes both is judged by two modes, of which neither is the one it results in.

The modes are collected by the names of the sensors, and `query_catalog` gives them none.
-/

import CameraStack.Runtime.ValidatorTotal

namespace CameraStack.Runtime.Validator

open CameraStack.Lib

variable {F : Type}

/-! ## Errors of R6 -/

/-- A report has no error of R6. -/
def Quiet (report : Report F) : Prop :=
  ∀ e ∈ report.errors, e.complaint.isColorMode = false

theorem Quiet.append {first second : Report F} (hfirst : Quiet first) (hsecond : Quiet second) :
    Quiet (first ++ second) :=
  List.forall_mem_append.mpr ⟨hfirst, hsecond⟩

theorem quiet_of_errors {report : Report F} (h : report.errors = []) : Quiet report := by
  intro e he
  rw [h] at he
  cases he

theorem quiet_err {path : Option Text} {complaint : Complaint}
    (h : complaint.isColorMode = false) : Quiet (err path complaint : Report F) :=
  List.forall_mem_singleton.mpr h

theorem quiet_concat {reports : List (Report F)} (h : ∀ report ∈ reports, Quiet report) :
    Quiet (concat reports) := by
  induction reports with
  | nil => exact quiet_of_errors rfl
  | cons report reports ih =>
      obtain ⟨hreport, hrest⟩ := List.forall_mem_cons.mp h
      exact hreport.append (ih hrest)

theorem quiet_mergedErrors {python : Python F} {cls : ModelClass}
    {base : List (Text × JsonValue F)} {patch : JsonValue F} {area : Text} {report : Report F}
    (h : mergedErrors python cls base patch area = .ok report) : Quiet report := by
  cases patch with
  | obj members =>
      cases h
      intro e he
      obtain ⟨found, -, hfound⟩ := List.mem_filterMap.mp he
      rw [surfaced] at hfound
      split at hfound
      · cases hfound
        rfl
      · split_ifs at hfound
        cases hfound
        rfl
  | null | bool | int | float | str | arr => cases h

theorem quiet_topLevelKey (python : Python F) (k : Text) :
    Quiet (topLevelKey python k : Report F) := by
  rw [topLevelKey]
  split_ifs
  · exact quiet_err rfl
  · exact quiet_err rfl
  · exact quiet_of_errors rfl
  · exact quiet_err rfl

variable [FloatNumber F]

theorem quiet_versionRule (members : List (Text × JsonValue F)) : Quiet (versionRule members) := by
  rw [versionRule]
  cases members.lookup "version".toList with
  | none => exact quiet_of_errors rfl
  | some version =>
      dsimp only
      split_ifs
      · exact quiet_of_errors rfl
      · exact quiet_err rfl

theorem quiet_sectionField {area : Text} {policy : List (Text × Policy)}
    {rejected : Text → Complaint} (hrejected : ∀ field, (rejected field).isColorMode = false)
    (current : List (Text × JsonValue F)) (field : Text) (value : JsonValue F) :
    Quiet (sectionField area policy rejected current field value) := by
  rw [sectionField]
  cases policy.lookup field with
  | none => exact quiet_err rfl
  | some p =>
      dsimp only
      split_ifs
      · exact quiet_of_errors rfl
      · exact (quiet_err (hrejected field)).append (quiet_of_errors rfl)
      · exact quiet_of_errors rfl

theorem quiet_webRtcSection {python : Python F} {webrtc : WebRtcRuntimeConfig}
    {wp : JsonValue F} {report : Report F} (h : webRtcSection python webrtc wp = .ok report) :
    Quiet report := by
  rw [webRtcSection] at h
  split_ifs at h
  · obtain ⟨merged, hmerged, h⟩ := bind_eq_ok_iff.mp h
    obtain ⟨members, -, h⟩ := bind_eq_ok_iff.mp h
    cases h
    have hrelay : Quiet (relayWarning webrtc members) := by
      rw [relayWarning]
      split_ifs
      · exact quiet_of_errors rfl
      · exact quiet_of_errors rfl
    refine ((quiet_mergedErrors hmerged).append hrelay).append (quiet_concat ?_)
    exact List.forall_mem_map.mpr fun member _ => quiet_sectionField (fun _ => rfl) _ _ _
  · cases h
    exact quiet_of_errors rfl

theorem quiet_diagnosticsSection {python : Python F} {diagnostics : DiagnosticsRuntimeConfig}
    {dp : JsonValue F} {report : Report F}
    (h : diagnosticsSection python diagnostics dp = .ok report) : Quiet report := by
  rw [diagnosticsSection] at h
  split_ifs at h
  · obtain ⟨merged, hmerged, h⟩ := bind_eq_ok_iff.mp h
    obtain ⟨members, -, h⟩ := bind_eq_ok_iff.mp h
    cases h
    refine (quiet_mergedErrors hmerged).append (quiet_concat ?_)
    exact List.forall_mem_map.mpr fun member _ => quiet_sectionField (fun _ => rfl) _ _ _
  · cases h
    exact quiet_of_errors rfl

/-- The errors of R6 are those of the stream profiles. -/
theorem colorErrors_validate {python : Python F} {eff : EffectiveRuntimeConfig}
    {catalog : Option (List CatalogSensor)} {issues : List Text}
    {members : List (Text × JsonValue F)} {response : ValidationResponse F}
    (h : validate python eff catalog issues (.obj members) = .ok response) :
    ∃ streams, streamSection python eff catalog (sectionOf members "stream_profiles".toList) =
        .ok streams ∧
      ∀ e, e.complaint.isColorMode = true → (e ∈ response.errors ↔ e ∈ streams.errors) := by
  obtain ⟨webrtc, hwebrtc, h⟩ := bind_eq_ok_iff.mp h
  obtain ⟨diagnostics, hdiagnostics, h⟩ := bind_eq_ok_iff.mp h
  obtain ⟨streams, hstreams, h⟩ := bind_eq_ok_iff.mp h
  cases h
  refine ⟨streams, hstreams, fun e he => ?_⟩
  have htop : Quiet (concat (members.map fun member => topLevelKey python member.1)) :=
    quiet_concat (List.forall_mem_map.mpr fun member _ => quiet_topLevelKey python member.1)
  have hbefore := (((quiet_versionRule members).append htop).append
    (quiet_webRtcSection hwebrtc)).append (quiet_diagnosticsSection hdiagnostics)
  have haudit : Quiet (audit eff.streamProfiles : Report F) := quiet_of_errors rfl
  constructor
  · intro hmem
    have hsplit := List.mem_append.mp (List.mem_append.mp hmem |>.resolve_right nofun)
    rcases hsplit with hmem | hmem
    · rcases List.mem_append.mp hmem with hmem | hmem
      · exact absurd (hbefore e hmem) (by rw [he]; nofun)
      · exact hmem
    · exact absurd (haudit e hmem) (by rw [he]; nofun)
  · intro hmem
    exact List.mem_append_left _ (List.mem_append_left _ (List.mem_append_right _ hmem))

/-! ## One field of a profile -/

/-- A mode is one of the catalog's. -/
def InModes (python : Python F) (modes : List Mode) (res fps : JsonValue F) : Prop :=
  ∃ mode ∈ modes, modeOf python res fps = .ok mode

theorem path_colorRule {python : Python F} {modes : Option (Token → Option (List Mode))}
    {cur : Option EffectiveStreamProfile} {path field : Text} {value : JsonValue F}
    {report : Report F} (h : colorRule python modes cur path field value = .ok report) :
    ∀ e ∈ report.errors, e.path = some path := by
  rcases colorRule_eq_ok h with ⟨hnone, -⟩ | ⟨table, htable⟩
  · rw [hnone]
    nofun
  · obtain ⟨mode, -, ⟨-, rfl⟩ | ⟨-, f, rfl⟩⟩ := colorMode_eq_ok htable
    · nofun
    · exact List.forall_mem_singleton.mpr rfl

theorem inModes_iff {python : Python F} {modes : List Mode} {res fps : JsonValue F} {mode : Mode}
    (h : modeOf python res fps = .ok mode) : InModes python modes res fps ↔ mode ∈ modes := by
  constructor
  · rintro ⟨mode', hmem, hmode'⟩
    cases h.symm.trans hmode'
    exact hmem
  · intro hmem
    exact ⟨mode, hmem, h⟩

theorem colorError_colorMode_iff {python : Python F} {modes : List Mode} {path : Text}
    {res fps : JsonValue F} {report : Report F}
    (h : colorMode python modes path res fps = .ok report) :
    (∃ e ∈ report.errors, e.complaint.isColorMode = true) ↔ ¬ InModes python modes res fps := by
  obtain ⟨mode, hmode, hcases⟩ := colorMode_eq_ok h
  rw [inModes_iff hmode]
  rcases hcases with ⟨hmem, rfl⟩ | ⟨hmem, f, rfl⟩
  · exact iff_of_false (fun ⟨_, he, _⟩ => nomatch he) fun h => h hmem
  · exact iff_of_true ⟨_, List.mem_singleton_self _, rfl⟩ hmem

theorem colorError_colorRule_iff {python : Python F} {catalog : Option (List CatalogSensor)}
    {cur : Option EffectiveStreamProfile} {path field : Text} {value : JsonValue F}
    {report : Report F} (hfield : field = "resolution".toList ∨ field = "fps".toList)
    (h : colorRule python (colorModes python catalog) cur path field value = .ok report) :
    (∃ e ∈ report.errors, e.complaint.isColorMode = true) ↔
      ∃ modes ∈ colorTable python catalog,
        ¬ InModes python modes (lookupResolution cur field value) (lookupFps cur field value) := by
  unfold colorRule at h
  rw [if_pos hfield] at h
  rw [colorTable]
  cases hmodes : colorModes python catalog with
  | none =>
      rw [hmodes] at h
      cases h
      constructor
      · rintro ⟨e, he, -⟩
        cases he
      · rintro ⟨modes, hmem, -⟩
        cases hmem
  | some modes =>
      rw [hmodes] at h
      dsimp only [Option.bind_some] at h ⊢
      cases htable : modes .color with
      | none =>
          rw [htable] at h
          cases h
          constructor
          · rintro ⟨e, he, -⟩
            cases he
          · rintro ⟨modes, hmem, -⟩
            cases hmem
      | some table =>
          rw [htable] at h
          rw [colorError_colorMode_iff h]
          constructor
          · intro hnot
            exact ⟨table, rfl, hnot⟩
          · rintro ⟨table', hmem, hnot⟩
            cases hmem
            exact hnot

/-- A field has an error of R6 exactly when it is looked up and not found. -/
theorem colorError_streamField_iff {python : Python F} {catalog : Option (List CatalogSensor)}
    {key : Text} {cur : Option EffectiveStreamProfile} {field : Text} {value : JsonValue F}
    {report : Report F}
    (h : streamField python (colorModes python catalog) key cur field value = .ok report) :
    (∃ e ∈ report.errors, e.complaint.isColorMode = true) ↔
      LookedUp python key cur field value ∧ ∃ modes ∈ colorTable python catalog,
        ¬ InModes python modes (lookupResolution cur field value) (lookupFps cur field value) := by
  by_cases hlooked : LookedUp python key cur field value
  · rw [streamField_of_lookedUp hlooked] at h
    obtain ⟨rule, hrule, rfl⟩ := map_eq_ok_iff.mp h
    rw [errors_append, List.append_nil, colorError_colorRule_iff hlooked.rule hrule]
    exact ⟨fun h => ⟨hlooked, h⟩, fun h => h.2⟩
  · obtain ⟨report', hreport, hcases⟩ := @streamField_of_not_lookedUp F _ python
      (colorModes python catalog) key cur field value hlooked
    cases h.symm.trans hreport
    refine iff_of_false (fun ⟨e, he, hcolor⟩ => ?_) fun h => hlooked h.1
    rcases hcases with ⟨hnone, -⟩ | ⟨complaint, herrors, hother⟩
    · rw [hnone] at he
      cases he
    · rw [herrors] at he
      cases List.mem_singleton.mp he
      cases hother.symm.trans hcolor

/-- The errors of a field are at its path. -/
theorem path_streamField {python : Python F} {modes : Option (Token → Option (List Mode))}
    {key : Text} {cur : Option EffectiveStreamProfile} {field : Text} {value : JsonValue F}
    {report : Report F} (h : streamField python modes key cur field value = .ok report) :
    ∀ e ∈ report.errors, e.path = some (fieldPath key field) := by
  by_cases hlooked : LookedUp python key cur field value
  · rw [streamField_of_lookedUp hlooked] at h
    obtain ⟨rule, hrule, rfl⟩ := map_eq_ok_iff.mp h
    rw [errors_append, List.append_nil]
    exact path_colorRule hrule
  · obtain ⟨report', hreport, hcases⟩ := @streamField_of_not_lookedUp F _ python modes key cur
      field value hlooked
    cases h.symm.trans hreport
    rcases hcases with ⟨hnone, -⟩ | ⟨complaint, herrors, -⟩
    · rw [hnone]
      nofun
    · rw [herrors]
      exact List.forall_mem_singleton.mpr rfl

/-! ## All profiles -/

theorem key_of_appended {front key key' field field' : Text}
    (h : front ++ key ++ ['.'] ++ field = front ++ key' ++ ['.'] ++ field')
    (hends : field = field' ∨
      field.getLast? ≠ field'.getLast? ∧ field ≠ [] ∧ field' ≠ []) : key = key' := by
  rw [List.append_assoc, List.append_assoc, List.append_assoc, List.append_assoc] at h
  have hsame := List.append_cancel_left h
  rcases hends with rfl | ⟨hne, hfield, hfield'⟩
  · exact List.append_cancel_right hsame
  · have hlast := congrArg List.getLast? hsame
    rw [← List.append_assoc, ← List.append_assoc, List.getLast?_append_of_ne_nil _ hfield,
      List.getLast?_append_of_ne_nil _ hfield'] at hlast
    exact absurd hlast hne

/-- The two fields of R6 differ in their last letters. -/
theorem fields_differ {field field' : Text}
    (hfield : field = "resolution".toList ∨ field = "fps".toList)
    (hfield' : field' = "resolution".toList ∨ field' = "fps".toList) :
    field = field' ∨ field.getLast? ≠ field'.getLast? ∧ field ≠ [] ∧ field' ≠ [] := by
  rcases hfield with hfield | hfield
  · rcases hfield' with hfield' | hfield'
    · exact .inl (hfield.trans hfield'.symm)
    · rw [hfield, hfield']
      exact .inr (by decide)
  · rcases hfield' with hfield' | hfield'
    · rw [hfield, hfield']
      exact .inr (by decide)
    · exact .inl (hfield.trans hfield'.symm)

/-- The paths of the two fields of R6 name their profile. -/
theorem fieldPath_injective {key key' field field' : Text}
    (hfield : field = "resolution".toList ∨ field = "fps".toList)
    (hfield' : field' = "resolution".toList ∨ field' = "fps".toList)
    (h : fieldPath key field = fieldPath key' field') : key = key' :=
  @key_of_appended "stream_profiles.".toList key key' field field' h
    (fields_differ hfield hfield')

/-- The errors of R6 of a profile are those of its fields. -/
theorem colorErrors_streamProfile {python : Python F}
    {modes : Option (Token → Option (List Mode))} {eff : EffectiveRuntimeConfig} {key : Text}
    {prof : JsonValue F} {report : Report F}
    (h : streamProfile python modes eff key prof = .ok report) {e : ErrorEntry}
    (hcolor : e.complaint.isColorMode = true) :
    e ∈ report.errors ↔ isCanonicalSensorKey key = true ∧
      ∃ fields, orEmpty prof = .obj fields ∧ ∃ member ∈ fields, ∃ first,
        streamField python modes key (eff.streamProfiles.lookup key) member.1 member.2 =
          .ok first ∧ e ∈ first.errors := by
  rw [streamProfile] at h
  split_ifs at h with hkey
  · obtain ⟨merged, hmerged, h⟩ := bind_eq_ok_iff.mp h
    obtain ⟨fields, hfields, h⟩ := bind_eq_ok_iff.mp h
    obtain ⟨found, hfound, h⟩ := bind_eq_ok_iff.mp h
    cases h
    have hquiet : e ∉ merged.errors := fun he => by
      cases (quiet_mergedErrors hmerged e he).symm.trans hcolor
    rw [errors_append, List.mem_append, or_iff_right hquiet, mem_errors_collect_iff hfound]
    constructor
    · intro he
      exact ⟨hkey, fields, items_eq_ok_iff.mp hfields, he⟩
    · rintro ⟨-, fields', hfields', he⟩
      cases (items_eq_ok_iff.mp hfields).symm.trans hfields'
      exact he
  · cases h
    refine iff_of_false (fun he => ?_) fun h => hkey h.1
    cases List.mem_singleton.mp he
    cases hcolor

/-! ## The law -/

/-- A patch as a dictionary: no object has a key twice. -/
abbrev Patch (F : Type) := {patch : JsonValue F // patch.Distinct}

section Law

variable (python : Python F) (eff : EffectiveRuntimeConfig) (catalog : Option (List CatalogSensor))
  (issues : List Text) (patch : JsonValue F)

/-- The dry run returns with an error of R6 for a profile. -/
def Yields (key : Text) : Prop :=
  ∃ response, validate python eff catalog issues patch = .ok response ∧
    ∃ e ∈ response.errors, e.complaint.isColorMode = true ∧
      (e.path = some (fieldPath key "resolution".toList) ∨
        e.path = some (fieldPath key "fps".toList))

/-- A patch has a profile with these fields. -/
def HasProfile (key : Text) (fields : List (Text × JsonValue F)) : Prop :=
  ∃ members profiles prof, patch = .obj members ∧
    sectionOf members "stream_profiles".toList = .obj profiles ∧ (key, prof) ∈ profiles ∧
      isCanonicalSensorKey key = true ∧ orEmpty prof = .obj fields

/-- A patch changes the resolution or the frames per second of a colour profile. -/
def ChangesMode (key : Text) (fields : List (Text × JsonValue F)) : Prop :=
  HasProfile patch key fields ∧
    ∃ member ∈ fields, LookedUp python key (eff.streamProfiles.lookup key) member.1 member.2

/-- The value of a patched field, or the current one. -/
def resulting (fields : List (Text × JsonValue F)) (field : Text) (current : JsonValue F) :
    JsonValue F :=
  (fields.lookup field).getD current

/-- The mode that a profile results in is one of the modes. -/
def ResultsIn (modes : List Mode) (key : Text) (fields : List (Text × JsonValue F)) : Prop :=
  let cur := eff.streamProfiles.lookup key
  InModes python modes (resulting fields "resolution".toList (currentResolution cur))
    (resulting fields "fps".toList (currentFps cur))

/-- R6 judges the resulting mode: a changed profile has an error exactly when the mode that it
results in is none of the modes. -/
def JudgesResult (modes : List Mode) : Prop :=
  ∀ key fields, ChangesMode python eff patch key fields →
    (Yields python eff catalog issues patch key ↔ ¬ ResultsIn python eff modes key fields)

/-- Where a profile gives both values, the modes that are looked up are in the catalog exactly when
the resulting one is: the two mixed ones, if both values change; and the one with the default, if
one changes and the other is given for a profile that is not there, as the null that changes
nothing. -/
def MixedAgree (modes : List Mode) (key : Text) (fields : List (Text × JsonValue F)) : Prop :=
  let cur := eff.streamProfiles.lookup key
  ∀ res fps, fields.lookup "resolution".toList = some res →
    fields.lookup "fps".toList = some fps →
      match sameAttribute python cur "resolution".toList res,
        sameAttribute python cur "fps".toList fps with
      | false, false =>
          (InModes python modes res (currentFps cur) ∧
            InModes python modes (currentResolution cur) fps) ↔ InModes python modes res fps
      | false, true =>
          cur = none → (InModes python modes res (currentFps cur) ↔ InModes python modes res fps)
      | true, false =>
          cur = none →
            (InModes python modes (currentResolution cur) fps ↔ InModes python modes res fps)
      | true, true => True

/-- Every changed profile gives both values so that the mixed modes agree with the resulting one;
and if the dry run raises, the resulting modes are all in the catalog. -/
def Separable (modes : List Mode) : Prop :=
  ∀ key fields, ChangesMode python eff patch key fields →
    (Shapely python eff catalog patch → MixedAgree python eff modes key fields) ∧
      (¬ Shapely python eff catalog patch → ResultsIn python eff modes key fields)

/-- The modes that the changed profiles result in are all in the catalog. -/
def AllResultIn (modes : List Mode) : Prop :=
  ∀ key fields, ChangesMode python eff patch key fields → ResultsIn python eff modes key fields

end Law

/-- A catalog as `query_catalog` returns it: the sensors have keys, and no names. -/
def queried (rows : List (Text × List CatalogMode)) : List CatalogSensor :=
  rows.map fun row => { key := row.1, modes := row.2 }

/-- The modes of the colour sensor of such a catalog. -/
def colorRows (rows : List (Text × List CatalogMode)) : List Mode :=
  (rows.filter fun row => row.1 = "color".toList).flatMap fun row =>
    row.2.map CatalogMode.mode

/-! ## Where a profile has an error -/

theorem distinct_orEmpty {value : JsonValue F} {members : List (Text × JsonValue F)}
    (h : value.Distinct) (hempty : orEmpty value = .obj members) :
    (members.map Prod.fst).Nodup ∧ JsonValue.DistinctMembers members := by
  rw [orEmpty] at hempty
  split_ifs at hempty
  · rw [hempty] at h
    exact h
  · cases hempty
    exact ⟨List.nodup_nil, trivial⟩

theorem distinct_sectionOf {members profiles : List (Text × JsonValue F)} {key : Text}
    (h : (JsonValue.obj members).Distinct) (hprofiles : sectionOf members key = .obj profiles) :
    (profiles.map Prod.fst).Nodup ∧ JsonValue.DistinctMembers profiles := by
  refine distinct_orEmpty ?_ hprofiles
  cases hvalue : members.lookup key with
  | none => trivial
  | some value => exact JsonValue.distinct_of_mem h.2 ((mem_iff_lookup h.1).mpr hvalue)

/-- The fields of a profile of a patch are a dictionary. -/
theorem HasProfile.nodup {patch : JsonValue F} {key : Text} {fields : List (Text × JsonValue F)}
    (hdistinct : patch.Distinct) (h : HasProfile patch key fields) :
    (fields.map Prod.fst).Nodup := by
  obtain ⟨members, profiles, prof, rfl, hprofiles, hmem, -, hfields⟩ := h
  obtain ⟨-, hprofs⟩ := distinct_sectionOf hdistinct hprofiles
  exact (distinct_orEmpty (JsonValue.distinct_of_mem hprofs hmem) hfields).1

/-- A patch has one profile for a key. -/
theorem HasProfile.unique {patch : JsonValue F} {key : Text}
    {fields fields' : List (Text × JsonValue F)} (hdistinct : patch.Distinct)
    (h : HasProfile patch key fields) (h' : HasProfile patch key fields') : fields = fields' := by
  obtain ⟨members, profiles, prof, rfl, hprofiles, hmem, -, hfields⟩ := h
  obtain ⟨members', profiles', prof', hmembers, hprofiles', hmem', -, hfields'⟩ := h'
  cases hmembers
  cases hprofiles.symm.trans hprofiles'
  have hnodup := (distinct_sectionOf hdistinct hprofiles).1
  have hsame : some prof = some prof' := by
    rw [← (mem_iff_lookup hnodup).mp hmem, (mem_iff_lookup hnodup).mp hmem']
  cases hsame
  cases hfields.symm.trans hfields'
  rfl

/-- The dry run yields an error of R6 for a profile exactly when it returns, and a field of the
profile is looked up and not found. -/
theorem yields_iff {python : Python F} {eff : EffectiveRuntimeConfig}
    {catalog : Option (List CatalogSensor)} {issues : List Text} {patch : JsonValue F}
    {key : Text} {fields : List (Text × JsonValue F)} (hdistinct : patch.Distinct)
    (hprofile : HasProfile patch key fields) :
    Yields python eff catalog issues patch key ↔
      Shapely python eff catalog patch ∧ ∃ member ∈ fields,
        LookedUp python key (eff.streamProfiles.lookup key) member.1 member.2 ∧
          ∃ modes ∈ colorTable python catalog, ¬ InModes python modes
            (lookupResolution (eff.streamProfiles.lookup key) member.1 member.2)
            (lookupFps (eff.streamProfiles.lookup key) member.1 member.2) := by
  obtain ⟨members, profiles, prof, rfl, hprofiles, hmem, hkey, hfields⟩ := id hprofile
  rw [← @returns_validate_iff F _ python eff catalog issues]
  constructor
  · rintro ⟨response, hresponse, e, he, hcolor, hpath⟩
    refine ⟨⟨response, hresponse⟩, ?_⟩
    obtain ⟨streams, hstreams, herrors⟩ := colorErrors_validate hresponse
    obtain ⟨profiles', hitems, hcollect⟩ := bind_eq_ok_iff.mp hstreams
    cases hprofiles.symm.trans (items_eq_ok_iff.mp hitems)
    obtain ⟨⟨key', prof'⟩, hmem', first, hfirst, hefirst⟩ :=
      (mem_errors_collect_iff hcollect).mp ((herrors e hcolor).mp he)
    obtain ⟨hkey', fields', hfields', member, hmember, report, hreport, hereport⟩ :=
      (colorErrors_streamProfile hfirst hcolor).mp hefirst
    obtain ⟨hlooked, hmodes⟩ := (colorError_streamField_iff hreport).mp ⟨e, hereport, hcolor⟩
    have hsame : key' = key := by
      have hpath' := path_streamField hreport e hereport
      rcases hpath with hpath | hpath
      · exact fieldPath_injective hlooked.rule (.inl rfl)
          (Option.some.inj (hpath'.symm.trans hpath))
      · exact fieldPath_injective hlooked.rule (.inr rfl)
          (Option.some.inj (hpath'.symm.trans hpath))
    subst hsame
    have hfound : HasProfile (.obj members) key' fields' :=
      ⟨members, profiles, prof', rfl, hprofiles, hmem', hkey', hfields'⟩
    cases hprofile.unique hdistinct hfound
    exact ⟨member, hmember, hlooked, hmodes⟩
  · rintro ⟨⟨response, hresponse⟩, member, hmember, hlooked, hmodes⟩
    refine ⟨response, hresponse, ?_⟩
    obtain ⟨streams, hstreams, herrors⟩ := colorErrors_validate hresponse
    obtain ⟨profiles', hitems, hcollect⟩ := bind_eq_ok_iff.mp hstreams
    cases hprofiles.symm.trans (items_eq_ok_iff.mp hitems)
    obtain ⟨first, hfirst⟩ := returns_collect_iff.mp ⟨streams, hcollect⟩ (key, prof) hmem
    obtain ⟨found, hfound⟩ := returns_streamProfile_iff.mp ⟨first, hfirst⟩ hkey
    cases hfields.symm.trans hfound.1
    obtain ⟨report, hreport⟩ := returns_streamField_iff.mpr (hfound.2 member hmember)
    obtain ⟨e, he, hcolor⟩ := (colorError_streamField_iff hreport).mpr ⟨hlooked, hmodes⟩
    have hefirst := (colorErrors_streamProfile hfirst hcolor).mpr
      ⟨hkey, fields, hfields, member, hmember, report, hreport, he⟩
    have hestreams := (mem_errors_collect_iff hcollect).mpr ⟨(key, prof), hmem, first, hfirst,
      hefirst⟩
    refine ⟨e, (herrors e hcolor).mpr hestreams, hcolor, ?_⟩
    rw [path_streamField hreport e he]
    rcases hlooked.rule with hfield | hfield
    · rw [hfield]
      exact .inl rfl
    · rw [hfield]
      exact .inr rfl

/-! ## One mode or two -/

/-- The fields that are looked up are the two of R6, as far as they are given and changed. -/
theorem exists_lookedUp_iff {python : Python F} {key : Text}
    {cur : Option EffectiveStreamProfile} {fields : List (Text × JsonValue F)}
    (hnodup : (fields.map Prod.fst).Nodup) {P : Text → JsonValue F → Prop} :
    (∃ member ∈ fields, LookedUp python key cur member.1 member.2 ∧ P member.1 member.2) ↔
      sensorOf key = "color".toList ∧ ∃ field ∈ ["resolution".toList, "fps".toList],
        ∃ value, fields.lookup field = some value ∧
          sameAttribute python cur field value = false ∧ P field value := by
  constructor
  · rintro ⟨⟨field, value⟩, hmem, hlooked, hp⟩
    refine ⟨hlooked.color, field, ?_, value, (mem_iff_lookup hnodup).mp hmem, hlooked.changed, hp⟩
    rcases hlooked.rule with hfield | hfield
    · exact List.mem_cons.mpr (.inl hfield)
    · exact List.mem_cons_of_mem _ (List.mem_singleton.mpr hfield)
  · rintro ⟨hcolor, field, hfield, value, hvalue, hchanged, hp⟩
    refine ⟨(field, value), (mem_iff_lookup hnodup).mpr hvalue, ⟨hcolor, ?_, hchanged⟩, hp⟩
    rcases List.mem_cons.mp hfield with hfield | hfield
    · exact .inl hfield
    · exact .inr (List.mem_singleton.mp hfield)

theorem numberValue_of_equal_int {n : ℤ} {value : JsonValue F}
    (h : equal (.int n) value = true) : numberValue value = some n := by
  have hsame : sameNumber (some n) (numberValue value) = true := by
    cases value with
    | null | bool | int | float | str | arr | obj => exact h
  cases hvalue : numberValue value with
  | none =>
      rw [hvalue] at hsame
      cases hsame
  | some m =>
      rw [hvalue] at hsame
      rw [of_decide_eq_true hsame]

/-- A resolution that is the current one is looked up as it is. -/
theorem inModes_resolution {python : Python F} {profile : EffectiveStreamProfile}
    {res : JsonValue F} (h : sameAttribute python (some profile) "resolution".toList res = true)
    (modes : List Mode) (fps : JsonValue F) :
    InModes python modes res fps ↔
      InModes python modes (currentResolution (some profile)) fps := by
  have hequal : equal (.str profile.resolution) res = true := h
  have hres : res = .str profile.resolution := by
    cases res with
    | str s => rw [of_decide_eq_true hequal]
    | null | bool | int | float | arr | obj => cases hequal
  rw [hres]
  rfl

/-- Frames per second that are the current ones are looked up as they are. -/
theorem inModes_fps {python : Python F} {profile : EffectiveStreamProfile} {fps : JsonValue F}
    (h : sameAttribute python (some profile) "fps".toList fps = true) (modes : List Mode)
    (res : JsonValue F) :
    InModes python modes res fps ↔ InModes python modes res (currentFps (some profile)) := by
  have hequal : equal (.int profile.fps) fps = true := h
  have hvalue := numberValue_of_equal_int hequal
  have hint : toInt fps = toInt (currentFps (some profile) : JsonValue F) :=
    toInt_of_numberValue hvalue
  rw [InModes, InModes, modeOf, modeOf, hint]

/-- A field that is looked up and not found, among the two. -/
theorem exists_notFound_iff {python : Python F} {cur : Option EffectiveStreamProfile}
    {modes : List Mode} {fields : List (Text × JsonValue F)} :
    (∃ field ∈ ["resolution".toList, "fps".toList], ∃ value, fields.lookup field = some value ∧
        sameAttribute python cur field value = false ∧
          ¬ InModes python modes (lookupResolution cur field value) (lookupFps cur field value)) ↔
      (∃ res, fields.lookup "resolution".toList = some res ∧
          sameAttribute python cur "resolution".toList res = false ∧
            ¬ InModes python modes res (currentFps cur)) ∨
        ∃ fps, fields.lookup "fps".toList = some fps ∧
          sameAttribute python cur "fps".toList fps = false ∧
            ¬ InModes python modes (currentResolution cur) fps := by
  rw [List.exists_mem_cons_iff, List.exists_mem_cons_iff]
  refine or_congr Iff.rfl ?_
  rw [or_iff_left (fun ⟨_, hmem, _⟩ => List.not_mem_nil hmem)]
  exact Iff.rfl

variable {python : Python F} {eff : EffectiveRuntimeConfig} {modes : List Mode} {key : Text}
  {fields : List (Text × JsonValue F)}

/-- Where both values are given, the two mixed modes decide. -/
theorem mixedAgree_iff {res fps : JsonValue F}
    (hres : fields.lookup "resolution".toList = some res)
    (hfps : fields.lookup "fps".toList = some fps) :
    MixedAgree python eff modes key fields ↔
      match sameAttribute python (eff.streamProfiles.lookup key) "resolution".toList res,
        sameAttribute python (eff.streamProfiles.lookup key) "fps".toList fps with
      | false, false =>
          (InModes python modes res (currentFps (eff.streamProfiles.lookup key)) ∧
            InModes python modes (currentResolution (eff.streamProfiles.lookup key)) fps) ↔
              InModes python modes res fps
      | false, true =>
          eff.streamProfiles.lookup key = none →
            (InModes python modes res (currentFps (eff.streamProfiles.lookup key)) ↔
              InModes python modes res fps)
      | true, false =>
          eff.streamProfiles.lookup key = none →
            (InModes python modes (currentResolution (eff.streamProfiles.lookup key)) fps ↔
              InModes python modes res fps)
      | true, true => True := by
  constructor
  · intro h
    exact h res fps hres hfps
  · intro h res' fps' hres' hfps'
    cases hres.symm.trans hres'
    cases hfps.symm.trans hfps'
    exact h

/-- One profile: it has an error exactly when the resulting mode is not found, provided that the
mixed modes agree with it. -/
theorem notFound_iff_mixedAgree
    (hchanged : ∃ field ∈ ["resolution".toList, "fps".toList], ∃ value,
      fields.lookup field = some value ∧
        sameAttribute python (eff.streamProfiles.lookup key) field value = false) :
    ((∃ field ∈ ["resolution".toList, "fps".toList], ∃ value,
        fields.lookup field = some value ∧
          sameAttribute python (eff.streamProfiles.lookup key) field value = false ∧
            ¬ InModes python modes
              (lookupResolution (eff.streamProfiles.lookup key) field value)
              (lookupFps (eff.streamProfiles.lookup key) field value)) ↔
        ¬ ResultsIn python eff modes key fields) ↔
      MixedAgree python eff modes key fields := by
  rw [exists_notFound_iff, ResultsIn, resulting, resulting]
  simp only [List.exists_mem_cons_iff, List.not_mem_nil, false_and, exists_false, or_false]
    at hchanged
  cases hres : fields.lookup "resolution".toList with
  | none =>
      have hagree : MixedAgree python eff modes key fields := by
        intro res fps h _
        rw [hres] at h
        cases h
      rw [hres] at hchanged
      obtain ⟨fps, hfps, hnew⟩ := hchanged.resolve_left (by simp)
      refine iff_of_true ?_ hagree
      simp only [hfps, hnew, reduceCtorEq, false_and, exists_false, false_or, Option.some.injEq,
        exists_eq_left', true_and, Option.getD_none, Option.getD_some]
  | some res =>
      cases hfps : fields.lookup "fps".toList with
      | none =>
          have hagree : MixedAgree python eff modes key fields := by
            intro res fps _ h
            rw [hfps] at h
            cases h
          rw [hres, hfps] at hchanged
          obtain ⟨res', hres', hnew⟩ := hchanged.resolve_right (by simp)
          cases hres'
          refine iff_of_true ?_ hagree
          simp only [hnew, reduceCtorEq, false_and, exists_false, or_false, Option.some.injEq,
            exists_eq_left', true_and, Option.getD_none, Option.getD_some]
      | some fps =>
          rw [mixedAgree_iff hres hfps]
          rw [hres, hfps] at hchanged
          simp only [Option.some.injEq, exists_eq_left', Option.getD_some] at hchanged ⊢
          cases hsameRes : sameAttribute python (eff.streamProfiles.lookup key)
              "resolution".toList res with
          | false =>
              cases hsameFps : sameAttribute python (eff.streamProfiles.lookup key)
                  "fps".toList fps with
              | false =>
                  simp only [true_and]
                  tauto
              | true =>
                  cases hcur : eff.streamProfiles.lookup key with
                  | none =>
                      simp only [true_and, reduceCtorEq, false_and, or_false, forall_const]
                      tauto
                  | some profile =>
                      rw [hcur] at hsameFps
                      simp only [true_and, reduceCtorEq, false_and, or_false, IsEmpty.forall_iff,
                        iff_true]
                      rw [inModes_fps hsameFps]
          | true =>
              cases hsameFps : sameAttribute python (eff.streamProfiles.lookup key)
                  "fps".toList fps with
              | false =>
                  cases hcur : eff.streamProfiles.lookup key with
                  | none =>
                      simp only [true_and, reduceCtorEq, false_and, false_or, forall_const]
                      tauto
                  | some profile =>
                      rw [hcur] at hsameRes
                      simp only [true_and, reduceCtorEq, false_and, false_or, IsEmpty.forall_iff,
                        iff_true]
                      rw [inModes_resolution hsameRes]
              | true =>
                  rw [hsameRes, hsameFps] at hchanged
                  exact absurd hchanged (by decide)

/-! ## When R6 judges the resulting mode -/

theorem ChangesMode.changed {patch : JsonValue F} (hdistinct : patch.Distinct)
    (h : ChangesMode python eff patch key fields) :
    sensorOf key = "color".toList ∧
      ∃ field ∈ ["resolution".toList, "fps".toList], ∃ value, fields.lookup field = some value ∧
        sameAttribute python (eff.streamProfiles.lookup key) field value = false := by
  obtain ⟨hprofile, hlooked⟩ := h
  have hnodup := hprofile.nodup hdistinct
  have hfound := @exists_lookedUp_iff F _ python key (eff.streamProfiles.lookup key) fields hnodup
    (fun _ _ => True)
  simp only [and_true] at hfound
  exact hfound.mp hlooked

theorem judgesResult_iff_separable {catalog : Option (List CatalogSensor)} {issues : List Text}
    {patch : JsonValue F} (hdistinct : patch.Distinct)
    (htable : colorTable python catalog = some modes) :
    JudgesResult python eff catalog issues patch modes ↔
      Separable python eff catalog patch modes := by
  refine forall_congr' fun key => forall_congr' fun fields => forall_congr' fun hchanges => ?_
  obtain ⟨hcolor, hchanged⟩ := hchanges.changed hdistinct
  have hfields := @exists_lookedUp_iff F _ python key (eff.streamProfiles.lookup key) fields
    (hchanges.1.nodup hdistinct) fun field value => ∃ modes ∈ colorTable python catalog,
      ¬ InModes python modes (lookupResolution (eff.streamProfiles.lookup key) field value)
        (lookupFps (eff.streamProfiles.lookup key) field value)
  beta_reduce at hfields
  rw [yields_iff hdistinct hchanges.1, hfields]
  by_cases hshapely : Shapely python eff catalog patch
  · simp only [hshapely, hcolor, htable, true_and, Option.mem_def, Option.some.injEq,
      exists_eq_left', not_true, false_implies, and_true, forall_const]
    exact notFound_iff_mixedAgree hchanged
  · simp only [hshapely, false_and, false_iff, not_not, not_false_eq_true, forall_const,
      false_implies, true_and]

omit [FloatNumber F] in
/-- A catalog without names has no colour modes. -/
theorem colorTable_queried (python : Python F) (rows : List (Text × List CatalogMode)) :
    colorTable python (some (queried rows)) = none := by
  have hnone : ∀ row ∈ queried rows,
      ¬ sensorToken (python.lower (row.name.getD [])) = some .color := by
    intro row hrow
    obtain ⟨found, -, rfl⟩ := List.mem_map.mp hrow
    show ¬ sensorToken (python.lower []) = some .color
    rw [python.lower_nil]
    decide
  have hnamed : (queried rows).filter (fun row =>
      sensorToken (python.lower (row.name.getD [])) = some .color) = [] := by
    refine List.filter_eq_nil_iff.mpr fun row hrow h => hnone row hrow ?_
    exact of_decide_eq_true h
  rw [colorTable, colorModes, Option.map_some, Option.bind_some]
  dsimp only
  rw [hnamed]
  rfl

theorem judgesResult_queried_iff {issues : List Text} {patch : JsonValue F}
    (hdistinct : patch.Distinct) (rows : List (Text × List CatalogMode)) :
    JudgesResult python eff (some (queried rows)) issues patch modes ↔
      AllResultIn python eff patch modes := by
  refine forall_congr' fun key => forall_congr' fun fields => forall_congr' fun hchanges => ?_
  have hnever : ¬ Yields python eff (some (queried rows)) issues patch key := by
    rw [yields_iff hdistinct hchanges.1, colorTable_queried]
    rintro ⟨-, member, -, -, modes', hmodes', -⟩
    cases hmodes'
  rw [iff_false_left hnever, not_not]

/-- R6 judges the resulting mode: where the catalog has names, exactly on the patches whose mixed
modes agree with it; and where it has none, as `query_catalog` returns it, exactly on the patches
that result in modes of the catalog. -/
theorem judgesResult_iff (python : Python F) (eff : EffectiveRuntimeConfig) (issues : List Text)
    (patch : Patch F) :
    (∀ catalog, (∀ modes ∈ colorTable python catalog,
          JudgesResult python eff catalog issues patch.val modes) ↔
        ∀ modes ∈ colorTable python catalog, Separable python eff catalog patch.val modes) ∧
      ∀ rows, JudgesResult python eff (some (queried rows)) issues patch.val (colorRows rows) ↔
        AllResultIn python eff patch.val (colorRows rows) :=
  ⟨fun _ => forall_congr' fun _ => forall_congr' fun htable =>
      judgesResult_iff_separable patch.property htable,
    fun rows => judgesResult_queried_iff patch.property rows⟩

/-- A patch of the colour sensor of the device. -/
def colorPatch (fields : List (Text × JsonValue WholeFloat)) : JsonValue WholeFloat :=
  .obj [("stream_profiles".toList, .obj [(deviceKey, .obj fields)])]

theorem hasProfile_colorPatch (field : Text × JsonValue WholeFloat)
    (fields : List (Text × JsonValue WholeFloat)) :
    HasProfile (colorPatch (field :: fields)) deviceKey (field :: fields) :=
  ⟨[("stream_profiles".toList, .obj [(deviceKey, .obj (field :: fields))])],
    [(deviceKey, .obj (field :: fields))], .obj (field :: fields), rfl, rfl,
    List.mem_singleton_self _, by decide, rfl⟩

/-- The modes of a colour sensor. -/
def deviceModes : List CatalogMode := [⟨640, 480, 15⟩, ⟨1280, 720, 30⟩]

theorem distinct_colorPatch {fields : List (Text × JsonValue WholeFloat)}
    (h : (JsonValue.obj fields).Distinct) : (colorPatch fields).Distinct :=
  ⟨List.nodup_singleton _, ⟨List.nodup_singleton _, h, trivial⟩, trivial⟩

theorem shapely_colorPatch (catalog : Option (List CatalogSensor)) :
    Shapely plainPython deviceConfig catalog (colorPatch
      [("resolution".toList, .str "1280x720".toList), ("fps".toList, .int 30)]) := by
  intro members hmembers
  cases hmembers
  refine ⟨⟨[], rfl⟩, ⟨[], rfl⟩, _, rfl, List.forall_mem_singleton.mpr fun _ => ⟨_, rfl, ?_⟩⟩
  refine List.forall_mem_cons.mpr ⟨?_, List.forall_mem_singleton.mpr ?_⟩
  · intro _ modes _
    exact ⟨_, rfl, fun _ => ⟨_, rfl⟩⟩
  · intro _ modes _
    exact ⟨_, rfl, fun _ => ⟨_, rfl⟩⟩

/-- A catalog with a colour sensor that has a name. -/
def namedCatalog : List CatalogSensor :=
  [{ key := "color".toList, name := some "RGB Camera".toList, modes := deviceModes }]

theorem colorTable_namedCatalog :
    colorTable plainPython (some namedCatalog) = some (deviceModes.map CatalogMode.mode) := by
  decide +kernel

/-- A change from one mode of the catalog to another has errors: neither of the two mixed modes is
in the catalog.  And where the sensor has no name, a change to no mode has none. -/
theorem resultingMode_notJudged :
    ¬ JudgesResult plainPython deviceConfig (some namedCatalog) []
        (colorPatch [("resolution".toList, .str "1280x720".toList), ("fps".toList, .int 30)])
        (deviceModes.map CatalogMode.mode) ∧
      ¬ JudgesResult plainPython deviceConfig (some (queried [("color".toList, deviceModes)]))
        [] (colorPatch [("resolution".toList, .str "1920x1080".toList)])
        (colorRows [("color".toList, deviceModes)]) := by
  constructor
  · intro h
    have hlooked : LookedUp plainPython deviceKey
        (deviceConfig.streamProfiles.lookup deviceKey) "resolution".toList
        (.str "1280x720".toList) := ⟨by decide, .inl rfl, rfl⟩
    have hjudged := h deviceKey _ ⟨hasProfile_colorPatch _ _, _, List.mem_cons_self, hlooked⟩
    have hresult : ResultsIn plainPython deviceConfig (deviceModes.map CatalogMode.mode) deviceKey
        [("resolution".toList, .str "1280x720".toList), ("fps".toList, .int 30)] :=
      ⟨("1280x720".toList, 30), by decide, rfl⟩
    have hdistinct : (JsonValue.obj [("resolution".toList, .str "1280x720".toList),
        ("fps".toList, .int 30)] : JsonValue WholeFloat).Distinct :=
      ⟨by decide, trivial, trivial, trivial⟩
    refine hjudged.mp ((yields_iff (distinct_colorPatch hdistinct)
      (hasProfile_colorPatch _ _)).mpr ?_) hresult
    refine ⟨shapely_colorPatch _, _, List.mem_cons_self, hlooked, _, colorTable_namedCatalog, ?_⟩
    have hmode : modeOf plainPython (.str "1280x720".toList) (.int 15) =
        .ok ("1280x720".toList, 15) := rfl
    exact fun hin => absurd ((inModes_iff hmode).mp hin) (by decide)
  · have hdistinct : (JsonValue.obj [("resolution".toList, .str "1920x1080".toList)] :
        JsonValue WholeFloat).Distinct := ⟨List.nodup_singleton _, trivial, trivial⟩
    rw [judgesResult_queried_iff (distinct_colorPatch hdistinct)]
    intro h
    have hlooked : LookedUp plainPython deviceKey
        (deviceConfig.streamProfiles.lookup deviceKey) "resolution".toList
        (.str "1920x1080".toList) := ⟨by decide, .inl rfl, rfl⟩
    have hresult := h deviceKey _ ⟨hasProfile_colorPatch _ _, _, List.mem_cons_self, hlooked⟩
    have hmode : modeOf plainPython (.str "1920x1080".toList) (.int 15) =
        .ok ("1920x1080".toList, 15) := rfl
    exact absurd ((inModes_iff hmode).mp hresult) (by decide)

end CameraStack.Runtime.Validator
