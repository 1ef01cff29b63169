/-
# A rotated credential is the one that Janus has loaded

A run that replaces the credential writes it into every setting that the file has, so that Janus
loads it when it is restarted: where the file is laid out as lines with settings, and both settings
stand on lines that are not commented out.  A run that finds nothing to do has read the file alone.
-/

import CameraStack.Jcfg.TurnRotator
import CameraStack.Lib.Occurrence

namespace CameraStack.Jcfg

open Lib Lib.SettingNames

/-! ## Files that set a credential -/

/-- A value that a quoted setting on one line can hold, and that no expression finds a setting
in. -/
structure Plain (value : List Char) : Prop where
  chars : ∀ c ∈ ['"', '\\', '\n', '\r'], c ∉ value
  nameless : ∀ field : TurnField, ¬ field.name <:+: value

/-- A text is laid out as pieces, with and without the lines that are commented out.  Each setting
stands on one line, and lines that are not commented out set both the user and the password. -/
structure Layout (text : List Char) (pieces : List (Piece TurnField)) : Prop where
  text_eq : turnNames.text pieces = text
  laidOut : turnNames.LaidOut pieces
  active : turnNames.LaidOut (turnNames.activePieces pieces)
  oneLine : OneLine pieces
  sets : ∀ field, ((turnNames.activePieces pieces).findSome? (valueOf field)).isSome = true

/-- A file that sets a credential. -/
def Configured (jcfg : List Char) : Prop := ∃ pieces, Layout (readText false jcfg) pieces

theorem readText_of_not_mem {text : List Char} (h : '\r' ∉ text) : readText false text = text := by
  induction text with
  | nil => rfl
  | cons c cs ih =>
      have hc : c ≠ '\r' := fun hc => h (hc ▸ List.mem_cons_self)
      rw [readText, if_neg hc, if_neg fun hand => Bool.false_ne_true hand.2,
        ih fun hmem => h (List.mem_cons_of_mem c hmem)]

theorem not_mem_readText (afterReturn : Bool) (text : List Char) :
    '\r' ∉ readText afterReturn text := by
  induction text generalizing afterReturn with
  | nil => exact List.not_mem_nil
  | cons c cs ih =>
      rw [readText]
      split_ifs with hreturn hfeed
      · exact List.not_mem_cons_of_ne_of_not_mem (by decide) (ih true)
      · exact ih false
      · exact List.not_mem_cons_of_ne_of_not_mem (Ne.symm hreturn) (ih false)

section Patch

variable {pieces : List (Piece TurnField)}

/-- The credential that the settings of a layout give. -/
theorem parseCurrentCreds_text (h : turnNames.LaidOut pieces) :
    parseCurrentCreds (turnNames.text pieces) = do
      let user ← pieces.findSome? (valueOf TurnField.user)
      let pwd ← pieces.findSome? (valueOf TurnField.pwd)
      return { user, pwd, expiry := expiryOf user } := by
  rw [parseCurrentCreds, search_text .user h, search_text .pwd h]

/-- One of the two replacements. -/
theorem Layout.revalue {text : List Char} (h : Layout text pieces) (field : TurnField)
    {spaces value : List Char} (hspaces : ∀ c ∈ spaces, c = ' ') (hvalue : Plain value) :
    Layout (turnNames.text (pieces.map (revalue field spaces [' '] value)))
      (pieces.map (revalue field spaces [' '] value)) := by
  have hleft : ∀ c ∈ spaces, isPySpace c = true := fun c hc => hspaces c hc ▸ by decide
  have hright : ∀ c ∈ [' '], isPySpace c = true := forall_mem_of_all (by decide)
  have hquote : '"' ∉ value := hvalue.chars '"' (by decide)
  have hline : '\n' ∉ behind spaces [' '] value := by
    have hvalue : '\n' ∉ value := hvalue.chars '\n' (by decide)
    have hspaces : '\n' ∉ spaces := fun hmem => absurd (hspaces _ hmem) (by decide)
    simp [behind, hvalue, hspaces]
  have hactive := @Revalues.activePieces _ turnNames _
    (revalues_revalue field spaces [' '] value) pieces
  refine ⟨rfl, h.laidOut.revalue field hleft hright hquote hvalue.nameless, ?_,
    h.oneLine.revalue field hline, fun other => ?_⟩
  · rw [hactive]
    exact h.active.revalue field hleft hright hquote hvalue.nameless
  · rw [hactive]
    by_cases hother : other = field
    · rw [hother, valueOf_revalue_self, Option.isSome_map]
      exact h.sets field
    · rw [valueOf_revalue_of_ne hother]
      exact h.sets other

/-- The replacement of a field, as the piece that it is. -/
def fieldSpaces : TurnField → List Char
  | .user => [' ', ' ', ' ']
  | .pwd => [' ', ' ', ' ', ' ']

theorem userReplacement (value : List Char) : "turn_user   = \"".toList ++ value ++ ['"'] =
    turnNames.pieceText (.setting .user (fieldSpaces .user) [' '] value) := by
  have hfront : "turn_user   = \"".toList =
      TurnField.user.name ++ fieldSpaces .user ++ ['=', ' ', '"'] := by decide
  rw [hfront]
  simp only [pieceText, behind, List.append_assoc, List.cons_append, List.nil_append]

theorem pwdReplacement (value : List Char) : "turn_pwd    = \"".toList ++ value ++ ['"'] =
    turnNames.pieceText (.setting .pwd (fieldSpaces .pwd) [' '] value) := by
  have hfront : "turn_pwd    = \"".toList =
      TurnField.pwd.name ++ fieldSpaces .pwd ++ ['=', ' ', '"'] := by decide
  rw [hfront]
  simp only [pieceText, behind, List.append_assoc, List.cons_append, List.nil_append]

/-- No character of a setting but those of its value. -/
theorem not_mem_replacement (field : TurnField) {value : List Char} {c : Char}
    (hc : c ∈ ['\\', '\r']) (hvalue : c ∉ value) :
    c ∉ turnNames.pieceText (.setting field (fieldSpaces field) [' '] value) := by
  have hrest : ∀ d ∈ ['\\', '\r'], d ∉ field.name ++ fieldSpaces field ++ ['=', ' ', '"'] := by
    cases field <;> exact forall_mem_of_all (by decide)
  have hplain := hrest c hc
  simp only [List.mem_append, List.mem_cons, List.not_mem_nil, or_false, not_or] at hplain
  simp only [pieceText, behind, List.mem_append, List.mem_cons, List.not_mem_nil, or_false, not_or]
  exact ⟨hplain.1.1, hplain.1.2, hplain.2.1, hplain.2.2.1, hplain.2.2.2, hvalue, hplain.2.2.2⟩

/-- The pieces of a patched file. -/
def patchedPieces (pieces : List (Piece TurnField)) (user pwd : List Char) :
    List (Piece TurnField) :=
  (pieces.map (SettingNames.revalue .user (fieldSpaces .user) [' '] user)).map
    (SettingNames.revalue .pwd (fieldSpaces .pwd) [' '] pwd)

/-- A patched file is laid out as the pieces with the new values. -/
theorem Layout.patch {text : List Char} (h : Layout text pieces) {user pwd : List Char}
    (huser : Plain user) (hpwd : Plain pwd) :
    patchJcfg text user pwd = some (turnNames.text (patchedPieces pieces user pwd)) ∧
      Layout (turnNames.text (patchedPieces pieces user pwd)) (patchedPieces pieces user pwd) := by
  have hfirst := @Layout.revalue _ _ h .user (fieldSpaces .user) _
    (forall_mem_of_all (by decide)) huser
  refine ⟨?_, hfirst.revalue .pwd (forall_mem_of_all (by decide)) hpwd⟩
  have hu := not_mem_replacement .user (c := '\\') (by decide) (huser.chars '\\' (by decide))
  have hp := not_mem_replacement .pwd (c := '\\') (by decide) (hpwd.chars '\\' (by decide))
  rw [patchJcfg, userReplacement, pwdReplacement, reSub_plain hu, ← h.text_eq,
    sub_text .user _ _ _ h.laidOut, Option.bind_eq_bind, Option.bind_some, reSub_plain hp,
    sub_text .pwd _ _ _ hfirst.laidOut]
  rfl

/-- A patched file gives the new credential, to the check and to Janus. -/
theorem Layout.parse_patched {text : List Char} (h : Layout text pieces) {user pwd : List Char}
    (huser : Plain user) (hpwd : Plain pwd) :
    parseCurrentCreds (turnNames.text (patchedPieces pieces user pwd)) =
        some { user, pwd, expiry := expiryOf user } ∧
      janusLoads (turnNames.text (patchedPieces pieces user pwd)) =
        some { user, pwd, expiry := expiryOf user } := by
  obtain ⟨-, hpatched⟩ := h.patch huser hpwd
  have hvalue : ∀ {ps : List (Piece TurnField)},
      (∀ field, (ps.findSome? (valueOf field)).isSome = true) →
      (patchedPieces ps user pwd).findSome? (valueOf TurnField.user) = some user ∧
        (patchedPieces ps user pwd).findSome? (valueOf TurnField.pwd) = some pwd := by
    intro ps hps
    obtain ⟨oldUser, hold⟩ := Option.isSome_iff_exists.mp (hps .user)
    obtain ⟨oldPwd, holdPwd⟩ := Option.isSome_iff_exists.mp (hps .pwd)
    rw [patchedPieces, valueOf_revalue_of_ne (by decide), valueOf_revalue_self,
      valueOf_revalue_self, valueOf_revalue_of_ne (by decide), hold, holdPwd]
    exact ⟨rfl, rfl⟩
  have hactive : turnNames.activePieces (patchedPieces pieces user pwd) =
      patchedPieces (turnNames.activePieces pieces) user pwd := by
    rw [patchedPieces, (revalues_revalue _ _ _ _).activePieces,
      (revalues_revalue _ _ _ _).activePieces]
    rfl
  constructor
  · obtain ⟨hu, hp⟩ := hvalue fun field => isSome_valueOf_of_active (h.sets field)
    rw [parseCurrentCreds_text hpatched.laidOut, hu, hp]
    rfl
  · obtain ⟨hu, hp⟩ := hvalue h.sets
    rw [janusLoads, activeText_text hpatched.oneLine, parseCurrentCreds_text hpatched.active,
      hactive, hu, hp]
    rfl

end Patch

/-! ## New credentials -/

theorem name_mem (field : TurnField) : 't' ∈ field.name ∧ '_' ∈ field.name := by
  cases field <;> decide

section Generate

variable {hmac : TurnHmac} {sharedSecret username : List Char} {ttlDays now : ℤ}
  {creds : TurnCreds}

theorem generateCredentials_cases
    (h : generateCredentials hmac sharedSecret ttlDays username now = some creds) :
    creds.expiry = now + ttlDays * day ∧
      creds.pwd = hmac.digest sharedSecret creds.user ∧
      ∃ digits, textOfInt creds.expiry = some digits ∧ creds.user = digits ++ ':' :: username := by
  rw [generateCredentials] at h
  cases hdigits : textOfInt (now + ttlDays * day) with
  | none =>
      rw [hdigits] at h
      cases h
  | some digits =>
      rw [hdigits] at h
      cases h
      exact ⟨rfl, rfl, digits, hdigits, rfl⟩

/-- The expiry of a new credential is read back from its user name. -/
theorem expiryOf_user
    (h : generateCredentials hmac sharedSecret ttlDays username now = some creds) :
    expiryOf creds.user = creds.expiry := by
  obtain ⟨-, -, digits, hdigits, huser⟩ := generateCredentials_cases h
  have hcolon : ∀ c ∈ digits, decide (c ≠ ':') = true := by
    intro c hc
    rcases mem_textOfInt hdigits hc with hdigit | rfl
    · exact decide_eq_true (ne_of_isDigit hdigit (by decide))
    · decide
  have hmem : ':' ∈ digits ++ ':' :: username := List.mem_append_right _ List.mem_cons_self
  have htake : (digits ++ ':' :: username).takeWhile (fun c => decide (c ≠ ':')) = digits := by
    rw [List.takeWhile_append_of_pos hcolon, List.takeWhile_cons_of_neg (by decide),
      List.append_nil]
  rw [expiryOf, huser, if_pos hmem, htake, intOfText_textOfInt hdigits]
  rfl

theorem plain_user (h : generateCredentials hmac sharedSecret ttlDays username now = some creds)
    (hname : Plain username) : Plain creds.user := by
  obtain ⟨-, -, digits, hdigits, huser⟩ := generateCredentials_cases h
  have hdigit : ∀ d : Char, d.isDigit = false → d ≠ '-' → d ∉ digits := by
    intro d hd hminus hmem
    rcases mem_textOfInt hdigits hmem with hdigit | rfl
    · exact ne_of_isDigit hdigit hd rfl
    · exact hminus rfl
  rw [huser]
  constructor
  · intro c hc hmem
    have hclasses : ∀ d ∈ ['"', '\\', '\n', '\r'], d.isDigit = false ∧ d ≠ '-' ∧ d ≠ ':' :=
      forall_mem_of_all (by decide)
    have hclass := hclasses c hc
    rcases List.mem_append.mp hmem with hmem | hmem
    · exact hdigit c hclass.1 hclass.2.1 hmem
    rcases List.mem_cons.mp hmem with hmem | hmem
    · exact hclass.2.2 hmem
    · exact hname.chars c hc hmem
  · intro field hinfix
    have hcolon : ':' ∉ field.name := by cases field <;> decide
    have hne : field.name ≠ [] := List.cons_ne_nil _ _
    rcases (infix_append_cons hcolon hne).mp hinfix with hfront | htail
    · exact not_infix_of_not_mem (name_mem field).1 (hdigit 't' (by decide) (by decide)) hfront
    · exact hname.nameless field htail

theorem plain_pwd (h : generateCredentials hmac sharedSecret ttlDays username now = some creds) :
    Plain creds.pwd := by
  obtain ⟨-, hpwd, -⟩ := generateCredentials_cases h
  have halphabet : ∀ c : Char, c.isAlphanum = false → c ≠ '+' → c ≠ '/' → c ≠ '=' →
      c ∉ creds.pwd := by
    intro c hc hplus hslash hsign hmem
    rcases hmac.base64 sharedSecret creds.user c (hpwd ▸ hmem) with halnum | h | h | h
    · rw [hc] at halnum
      cases halnum
    · exact hplus h
    · exact hslash h
    · exact hsign h
  constructor
  · intro c hc
    have hclasses : ∀ d ∈ ['"', '\\', '\n', '\r'],
        d.isAlphanum = false ∧ d ≠ '+' ∧ d ≠ '/' ∧ d ≠ '=' :=
      forall_mem_of_all (by decide)
    have hclass := hclasses c hc
    exact halphabet c hclass.1 hclass.2.1 hclass.2.2.1 hclass.2.2.2
  · intro field
    exact not_infix_of_not_mem (name_mem field).2
      (halphabet '_' (by decide) (by decide) (by decide) (by decide))

end Generate

/-! ## Runs -/

/-- A run that may write the file and restart Janus. -/
structure RotateRun.Rotates (run : RotateRun) : Prop where
  dryRun : run.dryRun = false
  checkOnly : run.checkOnly = false
  restart : run.restart = true
  lasts : run.beforeDays < run.ttlDays

/-- What a run may do: it fails or finds nothing to do, and leaves the host alone, or it writes a
new credential and restarts Janus. -/
inductive RunEffect (hmac : TurnHmac) (run : RotateRun) (host : TurnHost) :
    RotateOutcome → Prop where
  | stops {result : RotateResult} {clock : ℤ} (hresult : result ≠ .returned 0) :
      RunEffect hmac run host { host, result, wrote := false, clock }
  | idle (hidle : needsRotation run host = false) :
      RunEffect hmac run host
        { host, result := .returned 0, wrote := false, clock := run.checkedAt }
  | writes {secret newJcfg : List Char} {creds : TurnCreds} {loaded : Option TurnCreds}
      {result : RotateResult} (hneeds : needsRotation run host = true)
      (hcreds : generateCredentials hmac secret run.ttlDays run.username run.generatedAt =
        some creds)
      (hpatch : patchJcfg (readText false host.jcfg) creds.user creds.pwd = some newJcfg)
      (hloaded : run.restarts = .restarted → loaded = janusLoads newJcfg)
      (hresult : result = .returned 0 → run.restarts = .restarted) :
      RunEffect hmac run host
        { host := { jcfg := newJcfg, loaded }, result, wrote := true, clock := run.generatedAt }

theorem CallFailure.result_ne (failure : CallFailure) : failure.result ≠ .returned 0 := by
  cases failure <;> decide

theorem rotateLocked_effect (hmac : TurnHmac) (secret : List Char) {run : RotateRun}
    (hrestart : run.restart = true) {host : TurnHost} (hneeds : needsRotation run host = true) :
    RunEffect hmac run host (rotateLocked hmac secret run host) := by
  rw [rotateLocked]
  cases run.secondRead with
  | some failure => exact .stops failure.result_ne
  | none =>
      dsimp only
      cases hcreds : generateCredentials hmac secret run.ttlDays run.username run.generatedAt with
      | none => exact .stops (by decide)
      | some creds =>
          dsimp only
          cases run.expiryShown with
          | false => exact .stops (by decide)
          | true =>
              cases hpatch : patchJcfg (readText false host.jcfg) creds.user creds.pwd with
              | none => exact .stops (by decide)
              | some newJcfg =>
                  simp only [Bool.not_true, Bool.false_eq_true, if_false, hrestart, if_true]
                  split_ifs
                  · exact .stops (by decide)
                  · cases run.write with
                    | some failure => exact .stops failure.result_ne
                    | none =>
                        cases hrestarts : run.restarts with
                        | restarted =>
                            exact .writes hneeds hcreds hpatch (fun _ => rfl) fun _ => hrestarts
                        | failed | raises =>
                            refine .writes hneeds hcreds hpatch (fun h => ?_) fun h => ?_
                            · rw [hrestarts] at h
                              cases h
                            · cases h

theorem rotate_effect (hmac : TurnHmac) {run : RotateRun} (hrun : run.Rotates) (host : TurnHost) :
    RunEffect hmac run host (rotate hmac run host) := by
  rw [rotate]
  cases loadSharedSecret run.secrets with
  | none => exact .stops (by decide)
  | some found =>
      cases found with
      | none => exact .stops (by decide)
      | some secret =>
          simp only [hrun.checkOnly, hrun.dryRun, Bool.false_eq_true, if_false]
          split_ifs with hunreadable hneeds
          · exact .stops (by decide)
          · exact .idle (by simpa using hneeds)
          · cases run.lock with
            | some failure => exact .stops failure.result_ne
            | none =>
                have heffect := rotateLocked_effect hmac secret hrun.restart (by simpa using hneeds)
                dsimp only
                cases run.unlock with
                | none => exact heffect
                | some failure =>
                    -- The lock is not given back: the run fails with what it did.
                    dsimp only
                    have hfails := failure.result_ne
                    revert heffect
                    generalize rotateLocked hmac secret run host = outcome
                    rintro (_ | _ | ⟨hneeds, hcreds, hpatch, hloaded, -⟩)
                    · exact .stops hfails
                    · exact .stops hfails
                    · exact .writes hneeds hcreds hpatch hloaded fun h => absurd h hfails

/-- Where there is nothing to do, the host is left alone. -/
theorem rotate_idle (hmac : TurnHmac) {run : RotateRun} (hrun : run.Rotates) {host : TurnHost}
    (hidle : needsRotation run host = false) : (rotate hmac run host).host = host := by
  have heffect := rotate_effect hmac hrun host
  revert heffect
  generalize rotate hmac run host = outcome
  rintro (_ | _ | ⟨hneeds, -, -, -, -⟩)
  · rfl
  · rfl
  · rw [hidle] at hneeds
    cases hneeds

/-! ## Fresh credentials -/

/-- A credential is loaded that expires more than some days after a reading of the clock. -/
def Fresh (loaded : Option TurnCreds) (beforeDays now : ℤ) : Prop :=
  ∃ creds, loaded = some creds ∧ now + beforeDays * day < creds.expiry

/-- A run that returns 0 leaves Janus with a fresh credential, and after a run that wrote the file a
further run that is not forced changes nothing before the new credential is due. -/
def KeepsFresh (hmac : TurnHmac) (run : RotateRun) (host : TurnHost) : Prop :=
  let outcome := rotate hmac run host
  (outcome.result = .returned 0 → Fresh outcome.host.loaded run.beforeDays outcome.clock) ∧
    (outcome.wrote = true → ∀ again : RotateRun, again.Rotates → again.force = false →
      again.checkedAt + again.beforeDays * day < run.generatedAt + run.ttlDays * day →
      (rotate hmac again outcome.host).host = outcome.host)

/-- Janus has loaded what the check reads. -/
def InStep (host : TurnHost) : Prop :=
  host.loaded = parseCurrentCreds (readText false host.jcfg)

/-- A run that finds nothing to do finds the credential in the file that Janus has loaded. -/
def ReadsLoaded (run : RotateRun) (host : TurnHost) : Prop :=
  needsRotation run host = false → InStep host

theorem idle_of_expiry {run : RotateRun} {host : TurnHost} {creds : TurnCreds}
    (hparse : parseCurrentCreds (readText false host.jcfg) = some creds)
    (hforce : run.force = false)
    (hlater : run.checkedAt + run.beforeDays * day < creds.expiry) (hne : creds.expiry ≠ 0) :
    needsRotation run host = false := by
  rw [needsRotation, hforce, hparse, Bool.false_or]
  show shouldRotate creds.expiry run.beforeDays run.checkedAt = false
  rw [shouldRotate, Bool.or_eq_false_iff, decide_eq_false_iff_not, decide_eq_false_iff_not]
  exact ⟨hne, not_le.mpr hlater⟩

/-- What a run has to meet: a plain user name, an expiry that is not read as none, and, where it
finds nothing to do, the credential that Janus has loaded. -/
structure Meets (run : RotateRun) (host : TurnHost) : Prop where
  username : Plain run.username
  expires : run.generatedAt + run.ttlDays * day ≠ 0
  readsLoaded : ReadsLoaded run host

/-- A written file holds the new credential, for the check and for Janus. -/
theorem written_file {hmac : TurnHmac} {run : RotateRun} {host : TurnHost}
    (hconf : Configured host.jcfg) (hname : Plain run.username) {secret newJcfg : List Char}
    {creds : TurnCreds}
    (hcreds : generateCredentials hmac secret run.ttlDays run.username run.generatedAt = some creds)
    (hpatch : patchJcfg (readText false host.jcfg) creds.user creds.pwd = some newJcfg) :
    Configured newJcfg ∧ parseCurrentCreds (readText false newJcfg) = some creds ∧
      janusLoads newJcfg = some creds := by
  obtain ⟨pieces, hlayout⟩ := hconf
  have huser := plain_user hcreds hname
  have hpwd := plain_pwd hcreds
  obtain ⟨hpatched, hnew⟩ := hlayout.patch huser hpwd
  obtain ⟨hparse, hloads⟩ := hlayout.parse_patched huser hpwd
  obtain rfl : turnNames.text (patchedPieces pieces creds.user creds.pwd) = newJcfg :=
    Option.some.inj (hpatched.symm.trans hpatch)
  have hsame : TurnCreds.mk creds.user creds.pwd (expiryOf creds.user) = creds := by
    rw [expiryOf_user hcreds]
  have hreturn : '\r' ∉ turnNames.text (patchedPieces pieces creds.user creds.pwd) := by
    intro hmem
    rcases mem_text_revalue hmem with hmem | hmem
    · rcases mem_text_revalue hmem with hmem | hmem
      · rw [hlayout.text_eq] at hmem
        exact not_mem_readText false host.jcfg hmem
      · exact not_mem_replacement .user (by decide) (huser.chars '\r' (by decide)) hmem
    · exact not_mem_replacement .pwd (by decide) (hpwd.chars '\r' (by decide)) hmem
  have hread := readText_of_not_mem hreturn
  rw [hsame] at hparse hloads
  rw [Configured, hread]
  exact ⟨⟨_, hnew⟩, hparse, hloads⟩

/-- A run leaves a file that sets a credential. -/
theorem configured_rotate {hmac : TurnHmac} {run : RotateRun} (hrun : run.Rotates)
    (hname : Plain run.username) {host : TurnHost} (hconf : Configured host.jcfg) :
    Configured (rotate hmac run host).host.jcfg := by
  have heffect := rotate_effect hmac hrun host
  revert heffect
  generalize rotate hmac run host = outcome
  rintro (_ | _ | ⟨-, hcreds, hpatch, -, -⟩)
  · exact hconf
  · exact hconf
  · exact (written_file hconf hname hcreds hpatch).1

/-- Where the restart succeeds, Janus stays in step with the file. -/
theorem inStep_rotate {hmac : TurnHmac} {run : RotateRun} (hrun : run.Rotates)
    (hname : Plain run.username) (hrestarts : run.restarts = .restarted) {host : TurnHost}
    (hconf : Configured host.jcfg) (hstep : InStep host) :
    InStep (rotate hmac run host).host := by
  have heffect := rotate_effect hmac hrun host
  revert heffect
  generalize rotate hmac run host = outcome
  rintro (_ | _ | ⟨-, hcreds, hpatch, hloaded, -⟩)
  · exact hstep
  · exact hstep
  · obtain ⟨-, hparse, hloads⟩ := written_file hconf hname hcreds hpatch
    exact (hloaded hrestarts).trans (hloads.trans hparse.symm)

/-- While every restart succeeds, every run finds what Janus has loaded. -/
theorem inStep_rotateAll {hmac : TurnHmac} {host : TurnHost} {runs : List RotateRun}
    (hruns : ∀ run ∈ runs, run.Rotates ∧ Plain run.username ∧ run.restarts = .restarted)
    (hconf : Configured host.jcfg) (hstep : InStep host) :
    Configured (rotateAll hmac host runs).jcfg ∧ InStep (rotateAll hmac host runs) := by
  induction runs generalizing host with
  | nil => exact ⟨hconf, hstep⟩
  | cons run runs ih =>
      obtain ⟨⟨hrun, hname, hrestarts⟩, hruns⟩ := List.forall_mem_cons.mp hruns
      exact ih hruns (configured_rotate hrun hname hconf)
        (inStep_rotate hrun hname hrestarts hconf hstep)

/-- One run. -/
theorem keepsFresh_of_meets {hmac : TurnHmac} {run : RotateRun} (hrun : run.Rotates)
    {host : TurnHost} (hconf : Configured host.jcfg) (hmeets : Meets run host) :
    KeepsFresh hmac run host := by
  have heffect := rotate_effect hmac hrun host
  rw [KeepsFresh]
  revert heffect
  generalize rotate hmac run host = outcome
  rintro (hresult | hidle | ⟨-, hcreds, hpatch, hloaded, hresult⟩)
  · exact ⟨fun h => absurd h hresult, fun h => absurd h Bool.false_ne_true⟩
  · refine ⟨fun _ => ?_, fun h => absurd h Bool.false_ne_true⟩
    have hloaded : host.loaded = _ := hmeets.readsLoaded hidle
    rw [needsRotation, Bool.or_eq_false_iff] at hidle
    have hexpiry := hidle.2
    show Fresh host.loaded run.beforeDays run.checkedAt
    cases hparse : parseCurrentCreds (readText false host.jcfg) with
    | none =>
        rw [hparse] at hexpiry
        cases hexpiry
    | some creds =>
        rw [hparse] at hexpiry hloaded
        have hlater : shouldRotate creds.expiry run.beforeDays run.checkedAt = false := hexpiry
        rw [shouldRotate, Bool.or_eq_false_iff, decide_eq_false_iff_not,
          decide_eq_false_iff_not] at hlater
        exact ⟨creds, hloaded, not_le.mp hlater.2⟩
  · obtain ⟨-, hparse, hloads⟩ := written_file hconf hmeets.username hcreds hpatch
    obtain ⟨hexpiry, -⟩ := generateCredentials_cases hcreds
    have hlasts := hrun.lasts
    constructor
    · intro hreturned
      refine ⟨_, (hloaded (hresult hreturned)).trans hloads, ?_⟩
      rw [hexpiry]
      simp only [day]
      omega
    · intro _ again hagain hforce hsoon
      refine rotate_idle hmac hagain (idle_of_expiry hparse hforce ?_ ?_)
      · rw [hexpiry]
        exact hsoon
      · rw [hexpiry]
        exact hmeets.expires

/-- In every sequence of runs that meet the condition, each run keeps the credential fresh. -/
theorem rotator_keeps_fresh (hmac : TurnHmac) (host : TurnHost) (runs : List RotateRun)
    (hrotates : ∀ run ∈ runs, run.Rotates) (hconf : Configured host.jcfg)
    (hmeets : ∀ before run after, runs = before ++ run :: after →
      Meets run (rotateAll hmac host before)) :
    ∀ before run after, runs = before ++ run :: after →
      KeepsFresh hmac run (rotateAll hmac host before) := by
  have hall : ∀ before after, runs = before ++ after →
      Configured (rotateAll hmac host before).jcfg := by
    intro before
    induction before using List.reverseRecOn with
    | nil => exact fun _ _ => hconf
    | append_singleton before run ih =>
        intro after hsplit
        rw [List.append_assoc, List.singleton_append] at hsplit
        have hrun := hrotates run (hsplit ▸ List.mem_append_right _ List.mem_cons_self)
        rw [rotateAll, List.foldl_append]
        exact configured_rotate hrun (hmeets before run after hsplit).username (ih _ hsplit)
  intro before run after hsplit
  have hrun := hrotates run (hsplit ▸ List.mem_append_right _ List.mem_cons_self)
  exact keepsFresh_of_meets hrun (hall before _ hsplit) (hmeets before run after hsplit)

/-! ## A failed restart, and settings that are commented out -/

instance decidableLaidOut (pieces : List (Piece TurnField)) :
    Decidable (turnNames.LaidOut pieces) :=
  match pieces with
  | [] => isTrue trivial
  | .char _ :: pieces =>
      have := decidableLaidOut pieces
      inferInstanceAs (Decidable (_ ∧ _))
  | .setting _ left right _ :: pieces =>
      have := decidableLaidOut pieces
      have := List.decidableBAll (fun c => isPySpace c = true) left
      have := List.decidableBAll (fun c => isPySpace c = true) right
      inferInstanceAs (Decidable (_ ∧ _))

/-- HMAC-SHA1 of `33536000:webrtc` under the secret `shared`. -/
def turnHmac : TurnHmac where
  digest _ _ := "JcNr7qso0UZdlJlTRTBqoXEiJRU=".toList
  base64 _ _ := forall_mem_of_all (by decide)

def turnPieces : List (Piece TurnField) :=
  [.char ' ', .setting .user [' '] [' '] "2000100:webrtc".toList, .char '\n',
    .char ' ', .setting .pwd [' '] [' '] "b2xk".toList, .char '\n']

/-- Janus has loaded a credential that expires soon. -/
def sampleTurnHost : TurnHost where
  jcfg := turnNames.text turnPieces
  loaded := some ⟨"2000100:webrtc".toList, "b2xk".toList, 2000100⟩

def turnRun (now : ℤ) (restarts : RestartOutcome) : RotateRun where
  secrets := .text "TURN_SHARED_SECRET=shared\n".toList
  checkedAt := now
  generatedAt := now
  restarts := restarts

theorem turnRun_rotates (now : ℤ) (restarts : RestartOutcome) :
    (turnRun now restarts).Rotates where
  dryRun := rfl
  checkOnly := rfl
  restart := rfl
  lasts := show (30 : ℤ) < 365 by decide

theorem turnPieces_oneLine : OneLine turnPieces := by
  intro i left right value hmem
  simp only [turnPieces, List.mem_cons, List.not_mem_nil, or_false] at hmem
  rcases hmem with h | h | h | h | h | h
  · cases h
  · cases h
    decide
  · cases h
  · cases h
  · cases h
    decide
  · cases h

theorem sampleTurnHost_configured : Configured sampleTurnHost.jcfg :=
  ⟨turnPieces, by decide +kernel, by decide +kernel, by decide +kernel, turnPieces_oneLine,
    by decide +kernel⟩

theorem plain_webrtc : Plain "webrtc".toList := ⟨forall_mem_of_all (by decide), by decide +kernel⟩

/-- The credential is replaced, and Janus loads the new one. -/
theorem rotator_keeps_fresh_sample :
    Fresh (rotate turnHmac (turnRun 2000000 .restarted) sampleTurnHost).host.loaded 30 2000000 := by
  have hneeds : needsRotation (turnRun 2000000 .restarted) sampleTurnHost = true := by
    decide +kernel
  have hzero : (2000000 : ℤ) + 365 * day ≠ 0 := by decide
  have hkeeps := rotator_keeps_fresh turnHmac sampleTurnHost [turnRun 2000000 .restarted]
    (List.forall_mem_singleton.mpr (turnRun_rotates _ _)) sampleTurnHost_configured
    (fun before run after hsplit => by
      obtain ⟨rfl, rfl, rfl⟩ : before = [] ∧ turnRun 2000000 .restarted = run ∧ [] = after := by
        rcases before with _ | ⟨first, before⟩
        · exact ⟨rfl, List.cons.inj hsplit⟩
        · cases before <;> cases (List.cons.inj hsplit).2
      exact ⟨plain_webrtc, hzero, fun hidle => absurd (hneeds.symm.trans hidle) (by decide)⟩)
    [] _ [] rfl
  exact hkeeps.1 (by decide +kernel)

/-- The settings of the template, as they are before an installation sets them. -/
def commentedHost : TurnHost where
  jcfg := "# turn_user = \"REPLACE_VIA_ROTATOR\"\n# turn_pwd = \"REPLACE_VIA_ROTATOR\"\n".toList
  loaded := none

/-- The restart fails after the file is written, and on the next day nothing is to do, for the
file. -/
def dayAfterFailure : RotateOutcome :=
  rotate turnHmac (turnRun 2086400 .restarted)
    (rotateAll turnHmac sampleTurnHost [turnRun 2000000 .failed])

def commentedOutcome : RotateOutcome :=
  rotate turnHmac (turnRun 2000000 .restarted) commentedHost

/-- Janus still has the credential that has expired, and a credential that is written into comments
is not loaded at all. -/
theorem rotator_leaves_expired :
    (dayAfterFailure.result = .returned 0 ∧ ¬ Fresh dayAfterFailure.host.loaded 30 2086400) ∧
      commentedOutcome.result = .returned 0 ∧
        ¬ Fresh commentedOutcome.host.loaded 30 2000000 := by
  have hloaded : dayAfterFailure.host.loaded = sampleTurnHost.loaded := by decide +kernel
  have hnone : commentedOutcome.host.loaded = none := by decide +kernel
  refine ⟨⟨by decide +kernel, ?_⟩, by decide +kernel, ?_⟩
  · rintro ⟨creds, hcreds, hlater⟩
    obtain rfl := Option.some.inj (hloaded.symm.trans hcreds)
    exact absurd hlater (by decide)
  · rintro ⟨creds, hcreds, -⟩
    cases hnone.symm.trans hcreds

end CameraStack.Jcfg
