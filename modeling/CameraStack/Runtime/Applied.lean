/-
# Applied means applied

A call that returns `applied` should leave the values of the patch in the file and in
the process.  The write path does: what is merged and rendered is read back.  The
shortcut for revisions that are already at their target compares effective values
instead, and the effective view is not injective: a depth camera shows `relay` for
every stored policy.

`applied_inForce_iff` says that the shortcut is the only way to be wrong.
-/

import CameraStack.Runtime.AllOrNothing

namespace CameraStack.Runtime

open CameraStack.Lib

/-! ## The property -/

/-- The keys hold the patch's values: the policy as it is, the lifetime by its integer
value. -/
structure Holds (webrtc : WebRtcPatch) (keys : Dict String) : Prop where
  ice : ∀ value, webrtc.icePolicy = some value →
    ∃ s, value = .str s ∧ keys["ICE_POLICY"]? = some s
  ttl : ∀ value, webrtc.ttl = some value →
    ∃ n, value.toInt = some n ∧ keys["TURN_CRED_TTL"]? = some (toString n)

/-- File and process hold the patch's values. -/
def InForce (webrtc : WebRtcPatch) (w : World) : Prop :=
  (∃ keys, readKeys w.file = some keys ∧ Holds webrtc keys) ∧ Holds webrtc w.environ

/-- After a call that returns `applied`, the patch of the revision is in force. -/
def AppliedInForce (w : World) (rid : String) (call : Except Halt ApplyResult × World) : Prop :=
  callOutcome call = some .applied → ∀ r webrtc, w.journal[rid]? = some (.record r) →
    patchSection r.validatedPatch = .fields webrtc → InForce webrtc call.2

/-! ## Clean values -/

theorem cleanText_toString (n : ℤ) : CleanText (toString n).toList := by
  apply cleanText_of_forall
  intro c hc
  rcases mem_toString_int hc with hdigit | rfl
  · simp only [Char.isDigit, Bool.and_eq_true, decide_eq_true_eq] at hdigit
    have hlow : 48 ≤ c.toNat := UInt32.le_iff_toNat_le.mp hdigit.1
    have hhigh : c.toNat ≤ 57 := UInt32.le_iff_toNat_le.mp hdigit.2
    simp only [isPySpace, Bool.or_eq_false_iff, Bool.and_eq_false_iff, decide_eq_false_iff_not]
    omega
  · decide

/-! ## The write path -/

section WritePath

variable {host : Host} {sur : Surroundings} {w w' : World} {rid confirm : String} {r : Revision}
  {updates : Updates} {webrtc : WebRtcPatch} {cur : Dict String}

/-- The updates of a valid patch: the policy is one of the two, the lifetime an
integer. -/
theorem updates_of_valid (hvalid : patchValid host.laxInt r.validatedPatch webrtc = true)
    (hupdates : patchUpdates webrtc = some updates) :
    (∀ value, webrtc.icePolicy = some value → ∃ s, (s = "all" ∨ s = "relay") ∧ value = .str s ∧
      updates.icePolicy = some s) ∧
    (webrtc.icePolicy = none → updates.icePolicy = none) ∧
    ∀ value, webrtc.ttl = some value → ∃ n, value.toInt = some n ∧ updates.ttl = some n := by
  have hice : updates.icePolicy = webrtc.icePolicy.bind iceText := by
    unfold patchUpdates at hupdates
    split at hupdates
    · cases hupdates
      rfl
    · split at hupdates
      · cases hupdates
      · cases hupdates
        rfl
  refine ⟨?_, ?_, ?_⟩
  · intro value hvalue
    simp only [patchValid, hvalue, Bool.and_eq_true, Bool.or_eq_true] at hvalid
    rw [hice, hvalue, Option.bind_some]
    cases value with
    | str s => exact ⟨s, by simpa [PlainJson.eqStr] using hvalid.1.2, rfl, rfl⟩
    | _ => simp [PlainJson.eqStr] at hvalid
  · intro hnone
    rw [hice, hnone]
    rfl
  · intro value hvalue
    simp only [patchUpdates, hvalue] at hupdates
    cases hint : value.toInt with
    | none => simp [hint] at hupdates
    | some n =>
        simp only [hint, Option.some.injEq] at hupdates
        exact ⟨n, rfl, by rw [← hupdates]⟩

/-- The keys of the updates differ. -/
theorem items_distinct (updates : Updates) :
    updates.items.Pairwise fun a b => ¬ compare a.1 b.1 = .eq := by
  rcases updates with ⟨ice, ttl⟩
  cases ice with
  | none =>
      cases ttl with
      | none => exact .nil
      | some n => exact List.pairwise_singleton _ _
  | some s =>
      cases ttl with
      | none => exact List.pairwise_singleton _ _
      | some n =>
          apply List.pairwise_pair.mpr
          simp only [Std.LawfulEqCmp.compare_eq_iff_eq]
          decide

/-- Merging the updates makes the keys hold the patch. -/
theorem holds_insertMany (hvalid : patchValid host.laxInt r.validatedPatch webrtc = true)
    (hupdates : patchUpdates webrtc = some updates) (keys : Dict String) :
    Holds webrtc (keys.insertMany updates.items) := by
  obtain ⟨hice, -, httl⟩ := updates_of_valid hvalid hupdates
  have hget : ∀ key value, (key, value) ∈ updates.items →
      (keys.insertMany updates.items)[key]? = some value := fun key value hmem =>
    Std.ExtTreeMap.getElem?_insertMany_list_of_mem (by simp) (items_distinct updates) hmem
  constructor
  · intro value hvalue
    obtain ⟨s, -, hs, hitem⟩ := hice value hvalue
    exact ⟨s, hs, hget _ _ (by simp [Updates.items, hitem])⟩
  · intro value hvalue
    obtain ⟨n, hn, hitem⟩ := httl value hvalue
    exact ⟨n, hn, hget _ _ (by simp [Updates.items, hitem])⟩

/-- The values of any file are clean. -/
theorem cleanText_readKeys {file : Option EnvFile} (h : readKeys file = some cur) :
    cur.Each fun _ value => CleanText value.toList := by
  cases file with
  | none =>
      cases h
      exact Dict.each_empty
  | some file =>
      rcases file with ⟨content, mode⟩
      cases content with
      | text s =>
          cases h
          exact cleanText_keysOfText s
      | undecodable bytes => cases h

theorem mem_allowlist_of_getElem? {key value : String} (hallow : allowlisted cur.keys = true)
    (h : cur[key]? = some value) : key ∈ allowlist := by
  simp only [allowlisted, List.all_eq_true, Std.ExtTreeMap.mem_keys, decide_eq_true_eq] at hallow
  apply hallow
  rw [Std.ExtTreeMap.mem_iff_isSome_getElem?, h]
  rfl

/-- What the engine writes is read back. -/
theorem readKeys_written {file : Option EnvFile} (hcur : readKeys file = some cur)
    (hallow : allowlisted cur.keys = true)
    (hvalid : patchValid host.laxInt r.validatedPatch webrtc = true)
    (hupdates : patchUpdates webrtc = some updates) :
    readKeys (some (written file updates)) = some (mergeKeys cur updates.items) := by
  obtain ⟨hice, hnone, -⟩ := updates_of_valid hvalid hupdates
  have hclean : CleanKeys (mergeKeys cur updates.items) := by
    refine Dict.Each.insertMany ?_ ?_
    · intro key value hget
      exact ⟨cleanKey_of_mem_allowlist (mem_allowlist_of_getElem? hallow hget),
        cleanText_readKeys hcur key value hget⟩
    · intro item hitem
      simp only [Updates.items, List.mem_append, List.mem_map, Option.mem_toList] at hitem
      rcases hitem with ⟨ice, hmem, rfl⟩ | ⟨n, -, rfl⟩
      · refine ⟨cleanKey_of_mem_allowlist (by simp [allowlist]), ?_⟩
        cases hpatch : webrtc.icePolicy with
        | none =>
            rw [hnone hpatch] at hmem
            cases hmem
        | some value =>
            obtain ⟨s, hs, -, hitem⟩ := hice value hpatch
            rw [hitem, Option.some.injEq] at hmem
            subst hmem
            rcases hs with rfl | rfl
            · exact cleanText_of_all (by decide)
            · exact cleanText_of_all (by decide)
      · exact ⟨cleanKey_of_mem_allowlist (by simp [allowlist]), cleanText_toString n⟩
  have hcontent : (written file updates).content =
      .text (render (mergeKeys cur updates.items)) := by rw [written, hcur, Option.getD_some]
  simp only [readKeys, hcontent, keysOfText_render hclean]

/-- After the write and the activation the patch is in force. -/
theorem inForce_live (hcur : readKeys w.file = some cur) (hwritable : writable w.file = true)
    (hvalid : patchValid host.laxInt r.validatedPatch webrtc = true)
    (hupdates : patchUpdates webrtc = some updates) {r' : Revision} :
    InForce webrtc (w.live host sur rid r' updates) := by
  have hallow : allowlisted cur.keys = true := by simpa [writable, hcur] using hwritable
  exact ⟨⟨_, readKeys_written hcur hallow hvalid hupdates, holds_insertMany hvalid hupdates cur⟩,
    holds_insertMany hvalid hupdates w.environ⟩

/-- Behind the mark, `applied` is only returned with the patch in force. -/
theorem activate_inForce (calm : sur.Calm) (up : ∀ site, sur.crashes site = false)
    (hid : validId rid = true) (hentry : w.journal[rid]? = some (.record r))
    (hcur : readKeys w.file = some cur)
    (hvalid : patchValid host.laxInt r.validatedPatch webrtc = true)
    (hupdates : patchUpdates webrtc = some updates)
    (happlied : callOutcome (activate host rid webrtc updates (priorOf host w updates) sur w) =
      some .applied) :
    InForce webrtc (activate host rid webrtc updates (priorOf host w updates) sur w).2 := by
  have hfailed : ∀ e mid, callOutcome (failedWrite sur rid r e mid) ≠ some .applied := by
    intro e mid
    unfold failedWrite
    split
    · simp [callOutcome]
    · simp [callOutcome]
  rcases activate_cases host webrtc updates calm up hid hentry hcur with
    ⟨-, hrun⟩ | ⟨-, ⟨-, e, hrun⟩ | ⟨hlands, ⟨-, hrun⟩ | ⟨-, ⟨-, hrun⟩ |
      ⟨-, ⟨-, -, hrun⟩ | ⟨-, -, hrun⟩ | ⟨-, hrun⟩⟩⟩⟩⟩
  · rw [hrun] at happlied
    cases happlied
  · rw [hrun] at happlied
    exact absurd happlied (hfailed _ _)
  · rw [hrun] at happlied
    exact absurd happlied (hfailed _ _)
  · rw [hrun] at happlied
    cases happlied
  · rw [hrun] at happlied
    cases happlied
  · rw [hrun]
    have hwritable : writable w.file = true := by
      by_contra hnot
      exact hlands (Or.inr (Or.inr (Or.inl (by simpa using hnot))))
    exact (inForce_live hcur hwritable hvalid hupdates : InForce webrtc (w.live host sur rid r updates))
  · rw [hrun, rollback_calm calm up hid w.live_entry] at happlied
    revert happlied
    repeat' split
    all_goals simp [callOutcome]

end WritePath

/-! ## Whole calls -/

/-- The call takes the shortcut: all checks pass, the effective view shows the target,
and the mark `applied` can be written. -/
def TakesShortcut (host : Host) (sur : Surroundings) (w : World) (rid confirm : String)
    (webrtc : WebRtcPatch) : Prop :=
  ∃ r updates, Proceeds host sur w rid confirm r webrtc updates ∧
    atTarget host sur w updates = true ∧ sur.Passes .markUnchanged

section Call

variable {host : Host} {sur : Surroundings} {w w' : World} {rid confirm : String}
  {webrtc : WebRtcPatch}

theorem inForce_congr (hfile : w'.file = w.file) (henviron : w'.environ = w.environ) :
    InForce webrtc w' ↔ InForce webrtc w := by
  rw [InForce, InForce, hfile, henviron]

/-- The section of an admitted patch. -/
theorem section_of_admission {r : Revision}
    (h : admission host rid confirm r = .go (some webrtc)) :
    patchSection r.validatedPatch = .fields webrtc := by
  unfold admission at h
  split at h
  · cases h
  · split at h
    · cases h
    · split at h
      · cases h
      · split at h
        · cases h
        · split at h
          · cases h
          · cases h
          · cases h
          · next hsection =>
              cases h
              exact hsection

/-- A revision that passed its checks is the one on disk, with the section of its patch. -/
theorem Proceeds.eq_of_record {r r' : Revision} {webrtc' : WebRtcPatch} {updates : Updates}
    (h : Proceeds host sur w rid confirm r webrtc updates)
    (hrecord : w.journal[rid]? = some (.record r'))
    (hsection : patchSection r'.validatedPatch = .fields webrtc') : r = r' ∧ webrtc = webrtc' := by
  rw [h.record, Option.some.injEq, Entry.record.injEq] at hrecord
  subst hrecord
  rw [section_of_admission h.admitted, Section.fields.injEq] at hsection
  exact ⟨rfl, hsection⟩

/-- A revision whose target is not in the view does not take the shortcut. -/
theorem Proceeds.not_takesShortcut {r : Revision} {updates : Updates}
    (h : Proceeds host sur w rid confirm r webrtc updates)
    (htarget : atTarget host sur w updates = false) (webrtc' : WebRtcPatch) :
    ¬ TakesShortcut host sur w rid confirm webrtc' := by
  rintro ⟨r', updates', hproceeds', htarget', -⟩
  rw [(hproceeds'.unique h).2, htarget] at htarget'
  cases htarget'

theorem applyRevision_inForce (calm : sur.Calm) (up : ∀ site, sur.crashes site = false) :
    AppliedInForce w rid (applyRevision host rid confirm sur w) ↔
      ∀ webrtc, TakesShortcut host sur w rid confirm webrtc → InForce webrtc w := by
  have hfile : (w.checked host sur).file = w.file := calm.fileAfter _ _
  rcases applyRevision_cases host rid confirm w calm with
    ⟨hnone, hrefused, -⟩ | ⟨r, webrtc, updates, hproceeds, hrest⟩
  · have hshort : ∀ webrtc, ¬ TakesShortcut host sur w rid confirm webrtc := by
      rintro webrtc ⟨r, updates, hproceeds, -⟩
      exact hnone r webrtc updates hproceeds
    simp only [hshort, false_implies, implies_true, iff_true]
    intro happlied
    cases hresult : (applyRevision host rid confirm sur w).1 with
    | error x => simp [callOutcome, hresult] at happlied
    | ok result =>
        simp only [callOutcome, hresult, Option.some.injEq] at happlied
        simp [Refused, hresult, happlied, Outcome.refuses] at hrefused
  · have hentry : (w.checked host sur).journal[rid]? = some (.record r) := hproceeds.record
    rcases hrest with ⟨htarget, hrun⟩ | ⟨htarget, ⟨x, -, hrun⟩ | ⟨-, hrun⟩⟩
    · rw [hrun, shortcut, Action.run_bind, setStatus_calm calm hproceeds.id hentry]
      cases htrouble : sur.trouble .markUnchanged with
      | some x =>
          have hshort : ∀ webrtc, ¬ TakesShortcut host sur w rid confirm webrtc := by
            rintro webrtc' ⟨-, -, -, -, hpasses⟩
            rw [trouble_eq_none.mpr hpasses] at htrouble
            cases htrouble
          simp [hshort, AppliedInForce, callOutcome]
      | none =>
          have hforce : ∀ webrtc', InForce webrtc' ((w.checked host sur).mark rid r .applied) ↔
              InForce webrtc' w := fun _ => inForce_congr hfile rfl
          constructor
          · rintro h webrtc' ⟨r', updates', hproceeds', -⟩
            exact (hforce webrtc').mp (h rfl r' webrtc' hproceeds'.record
              (section_of_admission hproceeds'.admitted))
          · intro h _ r' webrtc' hrecord hsection
            obtain ⟨rfl, rfl⟩ := hproceeds.eq_of_record hrecord hsection
            exact (hforce webrtc).mpr (h webrtc
              ⟨r, updates, hproceeds, htarget, trouble_eq_none.mp htrouble⟩)
    · simp [hproceeds.not_takesShortcut htarget, hrun, AppliedInForce, callOutcome]
    · simp only [hproceeds.not_takesShortcut htarget, false_implies, implies_true, iff_true, hrun]
      intro happlied r' webrtc' hrecord hsection
      obtain ⟨cur, hcur, -⟩ := hproceeds.coherent
      rw [calm.fileAfter, ← hfile] at hcur
      obtain ⟨rfl, rfl⟩ := hproceeds.eq_of_record hrecord hsection
      exact activate_inForce calm up hproceeds.id hentry hcur hproceeds.valid hproceeds.updates
        happlied

/-- A valid patch that changes the view and yet is at its target asks a depth camera
for `all`, or gives the lifetime as a string. -/
theorem shortcut_cases {r : Revision} {updates : Updates}
    (hnum : ∀ q n, host.laxInt (.num q) = some n → q = n)
    (hbool : ∀ b n, host.laxInt (.bool b) = some n → n = if b then 1 else 0)
    (h : Proceeds host sur w rid confirm r webrtc updates)
    (halone : sur.racing .verifyView = none) (htarget : atTarget host sur w updates = true) :
    ((settingsAt host sur .validateView w).cameraType = "depth_camera" ∧
      webrtc.icePolicy = some (.str "all")) ∨ ∃ s, webrtc.ttl = some (.str s) := by
  obtain ⟨hice, -, httl⟩ := updates_of_valid h.valid h.updates
  have hchanges := h.changes
  rw [atTarget, verifySettings, halone, Option.getD_none] at htarget
  set s := settingsAt host sur .validateView w
  simp only [Updates.verify, Bool.and_eq_true] at htarget
  simp only [patchChanges, Bool.or_eq_true] at hchanges
  rcases hchanges with hchanged | hchanged
  · left
    cases hpatch : webrtc.icePolicy with
    | none => simp [hpatch] at hchanged
    | some value =>
        obtain ⟨ice, hallowed, rfl, hitem⟩ := hice value hpatch
        have hview : (buildWebRtc s).icePolicy = effectiveIce s.cameraType ice := by
          simpa [hitem] using htarget.1
        simp only [hpatch, PlainJson.eqStr, hview, Bool.not_eq_true', decide_eq_false_iff_not]
          at hchanged
        by_cases hdepth : s.cameraType = "depth_camera"
        · rcases hallowed with rfl | rfl
          · exact ⟨hdepth, rfl⟩
          · simp [effectiveIce, hdepth] at hchanged
        · rcases hallowed with rfl | rfl
          · simp [effectiveIce, hdepth] at hchanged
          · simp [effectiveIce, hdepth] at hchanged
  · right
    cases hpatch : webrtc.ttl with
    | none => simp [hpatch] at hchanged
    | some value =>
        obtain ⟨n, hint, hitem⟩ := httl value hpatch
        have hview : (buildWebRtc s).ttl = clampTtl n := by simpa [hitem] using htarget.2
        have hband : ∃ m, host.laxInt value = some m ∧ 300 ≤ m ∧ m ≤ 3600 := by
          have hvalid := h.valid
          simp only [patchValid, hpatch, Bool.and_eq_true] at hvalid
          cases hlax : host.laxInt value with
          | none => simp [hlax] at hvalid
          | some m => exact ⟨m, rfl, by simpa [hlax] using hvalid.2⟩
        obtain ⟨m, hlax, hlow, hhigh⟩ := hband
        cases value with
        | str text => exact ⟨text, rfl⟩
        | num q =>
            have hq := hnum q m hlax
            subst hq
            simp only [PlainJson.toInt, Rat.num_intCast, Rat.den_intCast, Nat.cast_one,
              Int.tdiv_one, Option.some.injEq] at hint
            have hclamp : clampTtl n = m := by
              rw [← hint, clampTtl, min_eq_right hhigh, max_eq_right hlow]
            simp [hpatch, PlainJson.eqInt, hview, hclamp] at hchanged
        | bool b =>
            have hm := hbool b m hlax
            cases b with
            | true => omega
            | false => omega
        | null => cases hint
        | arr items => cases hint
        | obj fields => cases hint

end Call

/-- In every world, for every revision and every deployment, whatever accesses fail: a
call that returns `applied` leaves the patch in force exactly when it does not take
the shortcut, or the patch was in force before. -/
theorem applied_inForce_iff (host : Host) (held : Bool) (fails : Site → Bool)
    (racing : Site → Option Settings) (w : World) (rid confirm : String) :
    let sur : Surroundings := { held := held, fails := fails, racing := racing }
    AppliedInForce w rid (applyRevision host rid confirm sur w) ↔
      ∀ webrtc, TakesShortcut host sur w rid confirm webrtc → InForce webrtc w :=
  applyRevision_inForce (fun _ => rfl) fun _ => rfl

/-- A depth camera is asked for the policy `all`: the call returns `applied`, and file
and process keep `relay`. -/
theorem depth_camera_applied_unwritten :
    ¬ ∀ (host : Host) (held : Bool) (fails : Site → Bool) (racing : Site → Option Settings)
        (w : World) (rid confirm : String),
      AppliedInForce w rid (applyRevision host rid confirm
        { held := held, fails := fails, racing := racing } w) := by
  intro hclaim
  let call := applyRevision (exampleHost "depth_camera") exampleId ("apply-" ++ exampleDiffHash)
    {} exampleWorld
  have happlied : AppliedInForce exampleWorld exampleId call := hclaim _ _ _ _ _ _ _
  have hrecord : exampleWorld.journal[exampleId]? = some (.record exampleRevision) := by
    simp [exampleWorld]
  have hforce := happlied (by decide +kernel) _ _ hrecord rfl
  obtain ⟨s, hs, hdisk⟩ := hforce.2.ice (.str "all") rfl
  cases hs
  exact absurd hdisk (by decide +kernel)

end CameraStack.Runtime
