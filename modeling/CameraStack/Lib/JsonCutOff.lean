/-
# Texts that are cut off

The scanner leaves an end of the text that it has read from.  An object is read only up to its
closing brace, and each level of the recursion starts at an opening bracket.  So a text without a
closing brace is no object, and one with few brackets is not nested too deep.
-/

import CameraStack.Lib.JsonScan

namespace CameraStack.Lib

/-! ## What is left -/

theorem skipBlanks_suffix (text : Text) : skipBlanks text <:+ text :=
  List.dropWhile_suffix isJsonSpace

theorem suffix_of_skipBlanks {c : Char} {text rest : Text} (h : skipBlanks text = c :: rest) :
    c :: rest <:+ text := h ▸ skipBlanks_suffix text

theorem scanString_suffix {skipped : ℕ} {text s rest : Text}
    (h : scanString skipped text = some (s, rest)) : rest <:+ text := by
  induction text generalizing skipped s with
  | nil =>
      cases skipped with
      | zero => cases h
      | succ skipped => cases h
  | cons c text ih =>
      cases skipped with
      | succ skipped => exact (ih h).trans (List.suffix_cons c text)
      | zero =>
          rw [scanString] at h
          split_ifs at h
          · cases h
            exact List.suffix_cons c _
          · split at h
            · cases h
            · obtain ⟨found, hfound, heq⟩ := Option.map_eq_some_iff.mp h
              cases heq
              exact (ih hfound).trans (List.suffix_cons c text)
          · obtain ⟨found, hfound, heq⟩ := Option.map_eq_some_iff.mp h
            cases heq
            exact (ih hfound).trans (List.suffix_cons c text)

theorem behindDigits_suffix (text : Text) : behindDigits text <:+ text :=
  List.dropWhile_suffix Char.isDigit

theorem scanWhole_suffix {text whole rest : Text} (h : scanWhole text = some (whole, rest)) :
    rest <:+ text := by
  cases text with
  | nil => cases h
  | cons c text =>
      rw [scanWhole] at h
      split_ifs at h
      · cases h
        exact List.suffix_cons c _
      · cases h
        exact behindDigits_suffix _

theorem scanFraction_suffix (text : Text) : (scanFraction text).2 <:+ text := by
  cases text with
  | nil => exact List.suffix_rfl
  | cons c text =>
      rw [scanFraction]
      split_ifs
      · exact (behindDigits_suffix text).trans (List.suffix_cons c text)
      · exact List.suffix_rfl

theorem scanSign_suffix (text : Text) : (scanSign text).2 <:+ text := by
  cases text with
  | nil => exact List.suffix_rfl
  | cons c text =>
      rw [scanSign]
      split_ifs
      · exact List.suffix_cons c text
      · exact List.suffix_cons c text
      · exact List.suffix_rfl

theorem scanExponent_suffix (text : Text) : (scanExponent text).2 <:+ text := by
  cases text with
  | nil => exact List.suffix_rfl
  | cons c text =>
      rw [scanExponent]
      dsimp only
      split_ifs
      · exact ((behindDigits_suffix _).trans (scanSign_suffix text)).trans (List.suffix_cons c text)
      · exact ((behindDigits_suffix _).trans (scanSign_suffix text)).trans (List.suffix_cons c text)
      · exact List.suffix_rfl

section Values

variable {F : Type} {fuel depth : ℕ} {text rest : Text}

theorem scanWord_suffix {word : Text} {value v : JsonValue F}
    (h : scanWord word value text = .ok (v, rest)) : rest <:+ text := by
  rw [scanWord] at h
  split_ifs at h
  cases h
  exact List.drop_suffix _ _

theorem scanWord_ne_tooDeep {word : Text} {value : JsonValue F} :
    scanWord word value text ≠ .error .tooDeep := by
  rw [scanWord]
  split_ifs
  · nofun
  · nofun

variable [FloatText F]

theorem scanNumber_suffix {negative : Bool} {v : JsonValue F}
    (h : scanNumber negative text = .ok (v, rest)) : rest <:+ text := by
  rw [scanNumber] at h
  split at h
  · cases h
  · next whole behind hwhole =>
    have hsuffix := ((scanExponent_suffix _).trans (scanFraction_suffix behind)).trans
      (scanWhole_suffix hwhole)
    dsimp only at h
    split_ifs at h
    · cases h
      exact hsuffix
    · cases h
      exact hsuffix
    · cases h
      exact hsuffix

/-- What is left of a scan that goes one level down. -/
theorem oneDeeper_eq_ok {A : Type} {inside : ℕ → Scan A} {result : A × Text}
    (h : oneDeeper depth inside = .ok result) :
    ∃ inner, depth = inner + 1 ∧ inside inner = .ok result := by
  cases depth with
  | zero => cases h
  | succ inner => exact ⟨inner, rfl, h⟩

/-- A member, and what the scanner finds behind it. -/
theorem scanMembers_eq_ok {c : Char} {members : List (Text × JsonValue F)}
    (h : scanMembers (fuel + 1) depth (c :: text) = .ok (members, rest)) :
    ∃ key behindKey behindColon value behindValue,
      c = '"' ∧ scanString 0 text = some (key, behindKey) ∧
      skipBlanks behindKey = ':' :: behindColon ∧
      scanValue fuel depth (skipBlanks behindColon) =
        (.ok (value, behindValue) : Scan (JsonValue F)) ∧
      (skipBlanks behindValue = '}' :: rest ∨
        ∃ behindComma others, skipBlanks behindValue = ',' :: behindComma ∧
          scanMembers fuel depth (skipBlanks behindComma) =
            (.ok (others, rest) : Scan (List (Text × JsonValue F)))) := by
  rw [scanMembers] at h
  split_ifs at h with hquote
  split at h
  · cases h
  · next key behindKey hkey =>
    split at h
    · cases h
    · next d behindColon hcolon =>
      split_ifs at h with hd
      cases hd
      split at h
      · cases h
      · next value behindValue hvalue =>
        refine ⟨key, behindKey, behindColon, value, behindValue, hquote, hkey, hcolon, hvalue, ?_⟩
        split at h
        · cases h
        · next d behindComma hnext =>
          split_ifs at h with hbrace hcomma
          · cases h
            cases hbrace
            exact .inl hnext
          · cases hcomma
            split at h
            · cases h
            · next others rest' hothers =>
              cases h
              exact .inr ⟨behindComma, others, hnext, hothers⟩

/-- An item, and what the scanner finds behind it. -/
theorem scanItems_eq_ok {items : List (JsonValue F)}
    (h : scanItems (fuel + 1) depth text = .ok (items, rest)) :
    ∃ item behindItem, scanValue fuel depth text = (.ok (item, behindItem) : Scan (JsonValue F)) ∧
      (skipBlanks behindItem = ']' :: rest ∨
        ∃ behindComma others, skipBlanks behindItem = ',' :: behindComma ∧
          scanItems fuel depth (skipBlanks behindComma) =
            (.ok (others, rest) : Scan (List (JsonValue F)))) := by
  rw [scanItems] at h
  split at h
  · cases h
  · next item behindItem hitem =>
    refine ⟨item, behindItem, hitem, ?_⟩
    split at h
    · cases h
    · next d behindComma hnext =>
      split_ifs at h with hbracket hcomma
      · cases h
        cases hbracket
        exact .inl hnext
      · cases hcomma
        split at h
        · cases h
        · next others rest' hothers =>
          cases h
          exact .inr ⟨behindComma, others, hnext, hothers⟩

theorem scanNumber_ne_tooDeep {negative : Bool} :
    (scanNumber negative text : Scan (JsonValue F)) ≠ .error .tooDeep := by
  rw [scanNumber]
  split
  · nofun
  · dsimp only
    split_ifs
    · nofun
    · nofun
    · nofun
    · nofun

/-- What a scanner has not read is an end of its text. -/
theorem scan_suffix (fuel : ℕ) :
    (∀ (depth : ℕ) (text rest : Text) (v : JsonValue F),
        scanValue fuel depth text = .ok (v, rest) → rest <:+ text) ∧
      (∀ (depth : ℕ) (text rest : Text) (items : List (JsonValue F)),
        scanItems fuel depth text = .ok (items, rest) → rest <:+ text) ∧
      ∀ (depth : ℕ) (text rest : Text) (members : List (Text × JsonValue F)),
        scanMembers fuel depth text = .ok (members, rest) → rest <:+ text := by
  induction fuel with
  | zero => exact ⟨nofun, nofun, nofun⟩
  | succ fuel ih =>
      obtain ⟨hvalue, hitems, hmembers⟩ := ih
      refine ⟨?_, ?_, ?_⟩
      · intro depth text rest v h
        cases text with
        | nil => cases h
        | cons c text =>
            have hcons := List.suffix_cons c text
            rw [scanValue] at h
            split_ifs at h
            · split at h
              · cases h
              · next hstring =>
                cases h
                exact (scanString_suffix hstring).trans hcons
            · obtain ⟨inner, -, h⟩ := oneDeeper_eq_ok h
              cases h
              exact ((List.tail_suffix _).trans (skipBlanks_suffix text)).trans hcons
            · obtain ⟨inner, -, h⟩ := oneDeeper_eq_ok h
              split at h
              · cases h
              · next hscan =>
                cases h
                exact ((hmembers _ _ _ _ hscan).trans (skipBlanks_suffix text)).trans hcons
            · obtain ⟨inner, -, h⟩ := oneDeeper_eq_ok h
              cases h
              exact ((List.tail_suffix _).trans (skipBlanks_suffix text)).trans hcons
            · obtain ⟨inner, -, h⟩ := oneDeeper_eq_ok h
              split at h
              · cases h
              · next hscan =>
                cases h
                exact ((hitems _ _ _ _ hscan).trans (skipBlanks_suffix text)).trans hcons
            · exact (scanWord_suffix h).trans hcons
            · exact (scanWord_suffix h).trans hcons
            · exact (scanWord_suffix h).trans hcons
            · exact (scanWord_suffix h).trans hcons
            · exact (scanWord_suffix h).trans hcons
            · cases h
              exact (List.drop_suffix _ _).trans hcons
            · exact (scanNumber_suffix h).trans hcons
            · exact scanNumber_suffix h
      · intro depth text rest items h
        obtain ⟨item, behind, hitem, hnext⟩ := scanItems_eq_ok h
        refine List.IsSuffix.trans ?_ (hvalue _ _ _ _ hitem)
        rcases hnext with hlast | ⟨behindComma, others, hcomma, hothers⟩
        · exact (List.suffix_cons _ _).trans (suffix_of_skipBlanks hlast)
        · exact ((hitems _ _ _ _ hothers).trans (skipBlanks_suffix _)).trans
            ((List.suffix_cons _ _).trans (suffix_of_skipBlanks hcomma))
      · intro depth text rest members h
        cases text with
        | nil => cases h
        | cons c text =>
            obtain ⟨key, behindKey, behindColon, value, behind, -, hkey, hcolon, hscan, hnext⟩ :=
              scanMembers_eq_ok h
            have hbehind : behind <:+ c :: text :=
              ((((hvalue _ _ _ _ hscan).trans (skipBlanks_suffix _)).trans
                ((List.suffix_cons _ _).trans (suffix_of_skipBlanks hcolon))).trans
                  (scanString_suffix hkey)).trans (List.suffix_cons c text)
            refine List.IsSuffix.trans ?_ hbehind
            rcases hnext with hlast | ⟨behindComma, others, hcomma, hothers⟩
            · exact (List.suffix_cons _ _).trans (suffix_of_skipBlanks hlast)
            · exact ((hmembers _ _ _ _ hothers).trans (skipBlanks_suffix _)).trans
                ((List.suffix_cons _ _).trans (suffix_of_skipBlanks hcomma))

/-! ## Brackets -/

/-- Members are read up to a closing brace. -/
theorem brace_mem_of_scanMembers {members : List (Text × JsonValue F)}
    (h : scanMembers fuel depth text = .ok (members, rest)) : '}' ∈ text := by
  induction fuel generalizing text members with
  | zero => cases h
  | succ fuel ih =>
      cases text with
      | nil => cases h
      | cons c text =>
          obtain ⟨key, behindKey, behindColon, value, behind, -, hkey, hcolon, hscan, hnext⟩ :=
            scanMembers_eq_ok h
          have hbehind : behind <:+ c :: text :=
            (((((scan_suffix fuel).1 _ _ _ _ hscan).trans (skipBlanks_suffix _)).trans
              ((List.suffix_cons _ _).trans (suffix_of_skipBlanks hcolon))).trans
                (scanString_suffix hkey)).trans (List.suffix_cons c text)
          refine hbehind.subset ?_
          rcases hnext with hlast | ⟨behindComma, others, hcomma, hothers⟩
          · exact (suffix_of_skipBlanks hlast).subset List.mem_cons_self
          · have hmem : '}' ∈ behindComma := (skipBlanks_suffix _).subset (ih hothers)
            exact (suffix_of_skipBlanks hcomma).subset (List.mem_cons_of_mem _ hmem)

/-- An object is read up to a closing brace. -/
theorem brace_mem_of_scanValue {v : JsonValue F}
    (h : scanValue fuel depth ('{' :: text) = .ok (v, rest)) : '}' ∈ text := by
  cases fuel with
  | zero => cases h
  | succ fuel =>
      rw [scanValue, if_neg (by decide), if_pos rfl] at h
      obtain ⟨inner, -, h⟩ := oneDeeper_eq_ok h
      split_ifs at h with hempty
      · exact (skipBlanks_suffix text).subset (List.mem_of_mem_head? hempty)
      · split at h
        · cases h
        · next hscan => exact (skipBlanks_suffix text).subset (brace_mem_of_scanMembers hscan)

/-- An opening bracket. -/
def isOpening (c : Char) : Bool := c = '[' || c = '{'

theorem countP_le_of_suffix {p : Char → Bool} {text rest : Text} (h : rest <:+ text) :
    rest.countP p ≤ text.countP p := h.sublist.countP_le

/-- A text in which the scanner gets too deep has more opening brackets than the recursion has
levels. -/
theorem scan_tooDeep (fuel : ℕ) :
    (∀ (depth : ℕ) (text : Text),
        scanValue fuel depth text = (.error .tooDeep : Scan (JsonValue F)) →
          depth < text.countP isOpening) ∧
      (∀ (depth : ℕ) (text : Text),
        scanItems fuel depth text = (.error .tooDeep : Scan (List (JsonValue F))) →
          depth < text.countP isOpening) ∧
      ∀ (depth : ℕ) (text : Text),
        scanMembers fuel depth text = (.error .tooDeep : Scan (List (Text × JsonValue F))) →
          depth < text.countP isOpening := by
  induction fuel with
  | zero => exact ⟨nofun, nofun, nofun⟩
  | succ fuel ih =>
      obtain ⟨hvalue, hitems, hmembers⟩ := ih
      obtain ⟨hvalueSuffix, -, -⟩ := @scan_suffix F _ fuel
      refine ⟨?_, ?_, ?_⟩
      · intro depth text h
        cases text with
        | nil => cases h
        | cons c text =>
            have hdeeper : ∀ {A : Type} {inside : ℕ → Scan A}, isOpening c = true →
                (∀ inner, inside inner = .error .tooDeep → inner < text.countP isOpening) →
                  oneDeeper depth inside = .error .tooDeep →
                    depth < (c :: text).countP isOpening := by
              intro A inside hopening hinside hscan
              rw [List.countP_cons_of_pos hopening]
              cases depth with
              | zero => exact Nat.succ_pos _
              | succ inner => exact Nat.succ_lt_succ (hinside inner hscan)
            rw [scanValue] at h
            split_ifs at h with hquote hbrace _ hbracket
            · split at h
              · cases h
              · cases h
            · refine hdeeper (by rw [hbrace]; rfl) (fun inner hinside => ?_) h
              cases hinside
            · refine hdeeper (by rw [hbrace]; rfl) (fun inner hinside => ?_) h
              split at hinside
              · next hscan =>
                cases hinside
                exact lt_of_lt_of_le (hmembers _ _ hscan) (countP_le_of_suffix (skipBlanks_suffix _))
              · cases hinside
            · refine hdeeper (by rw [hbracket]; rfl) (fun inner hinside => ?_) h
              cases hinside
            · refine hdeeper (by rw [hbracket]; rfl) (fun inner hinside => ?_) h
              split at hinside
              · next hscan =>
                cases hinside
                exact lt_of_lt_of_le (hitems _ _ hscan) (countP_le_of_suffix (skipBlanks_suffix _))
              · cases hinside
            · exact absurd h scanWord_ne_tooDeep
            · exact absurd h scanWord_ne_tooDeep
            · exact absurd h scanWord_ne_tooDeep
            · exact absurd h scanWord_ne_tooDeep
            · exact absurd h scanWord_ne_tooDeep
            · exact absurd h scanNumber_ne_tooDeep
            · exact absurd h scanNumber_ne_tooDeep
      · intro depth text h
        rw [scanItems] at h
        split at h
        · next hscan =>
          cases h
          exact hvalue _ _ hscan
        · next item behind hscan =>
          have hbehind := hvalueSuffix _ _ _ _ hscan
          split at h
          · cases h
          · next d behindComma hnext =>
            split_ifs at h
            · split at h
              · next hothers =>
                cases h
                refine lt_of_lt_of_le (hitems _ _ hothers) (countP_le_of_suffix ?_)
                exact ((skipBlanks_suffix _).trans (List.suffix_cons _ _)).trans
                  ((suffix_of_skipBlanks hnext).trans hbehind)
              · cases h
            · cases h
      · intro depth text h
        cases text with
        | nil => cases h
        | cons c text =>
            rw [scanMembers] at h
            split_ifs at h
            · split at h
              · cases h
              · next key behindKey hkey =>
                have hbehindKey := (scanString_suffix hkey).trans (List.suffix_cons c text)
                split at h
                · cases h
                · next d behindColon hcolon =>
                  have hbehindColon := (((skipBlanks_suffix behindColon).trans
                    (List.suffix_cons _ _)).trans (suffix_of_skipBlanks hcolon)).trans hbehindKey
                  split_ifs at h
                  · split at h
                    · next hscan =>
                      cases h
                      exact lt_of_lt_of_le (hvalue _ _ hscan) (countP_le_of_suffix hbehindColon)
                    · next value behind hscan =>
                      have hbehind := (hvalueSuffix _ _ _ _ hscan).trans hbehindColon
                      split at h
                      · cases h
                      · next d behindComma hnext =>
                        split_ifs at h
                        · split at h
                          · next hothers =>
                            cases h
                            refine lt_of_lt_of_le (hmembers _ _ hothers) (countP_le_of_suffix ?_)
                            exact ((skipBlanks_suffix _).trans (List.suffix_cons _ _)).trans
                              ((suffix_of_skipBlanks hnext).trans hbehind)
                          · cases h
                        · cases h
                  · cases h
            · cases h

/-- A text without a closing brace is no object; with few opening brackets, it is not nested too
deep either. -/
theorem jsonLoads_cutOff {limit : ℕ} (hbrace : '}' ∉ text)
    (hopening : ('{' :: text).countP isOpening ≤ limit) :
    ∃ e, jsonLoads limit ('{' :: text) = (.error e : Except JsonError (JsonValue F)) ∧
      e ≠ .tooDeep := by
  have hskip : skipBlanks ('{' :: text) = '{' :: text := rfl
  rw [jsonLoads, hskip]
  cases hscan : (scanValue (('{' :: text).length + 1) limit ('{' :: text) :
      Scan (JsonValue F)) with
  | error e =>
      refine ⟨e, rfl, ?_⟩
      rintro rfl
      exact absurd ((scan_tooDeep _).1 _ _ hscan) (not_lt.mpr hopening)
  | ok result => exact absurd (brace_mem_of_scanValue hscan) hbrace

/-! ## The characters of numbers -/

/-- An ASCII character that opens nothing and closes no object. -/
def isInner (c : Char) : Bool := decide (c.toNat < 128) && decide (c ≠ '}') && !isOpening c

theorem isInner_of_isDigit {c : Char} (h : c.isDigit = true) : isInner c = true := by
  have hlt : c.toNat < 128 := by
    have hle : c.toNat ≤ 57 := (Char.isDigit_iff_toNat.mp h).2
    omega
  have hne : ∀ d : Char, d.isDigit = false → c ≠ d := by
    rintro d hd rfl
    rw [h] at hd
    cases hd
  rw [isInner, isOpening, decide_eq_true hlt, decide_eq_true (hne '}' rfl),
    decide_eq_false (hne '[' rfl), decide_eq_false (hne '{' rfl)]
  rfl

theorem isInner_digitsOf (n : ℕ) : ∀ c ∈ JsonValue.digitsOf n, isInner c = true := fun _ hc =>
  isInner_of_isDigit (Nat.isDigit_of_mem_toDigits (by decide) (by decide) hc)

theorem isInner_encodeInt (n : ℤ) : ∀ c ∈ encodeInt n, isInner c = true := by
  rw [encodeInt]
  split_ifs
  · exact List.forall_mem_cons.mpr ⟨rfl, isInner_digitsOf _⟩
  · exact isInner_digitsOf _

theorem isInner_encodeExponent (e : ℤ) : ∀ c ∈ encodeExponent e, isInner c = true := by
  rw [encodeExponent]
  refine List.forall_mem_cons.mpr ⟨rfl, List.forall_mem_cons.mpr ⟨?_, ?_⟩⟩
  · split_ifs
    · rfl
    · rfl
  · split_ifs
    · exact List.forall_mem_cons.mpr ⟨rfl, isInner_digitsOf _⟩
    · exact isInner_digitsOf _

theorem Decimal.Proper.isInner_text {d : Decimal} (h : d.Proper) :
    ∀ c ∈ d.text, isInner c = true := by
  rw [Decimal.text]
  simp only [List.forall_mem_append]
  refine ⟨⟨⟨?_, isInner_digitsOf _⟩, ?_⟩, ?_⟩
  · split_ifs
    · exact List.forall_mem_singleton.mpr rfl
    · exact List.forall_mem_nil _
  · split_ifs
    · exact List.forall_mem_nil _
    · exact List.forall_mem_cons.mpr ⟨rfl, fun c hc => isInner_of_isDigit (h.digits c hc)⟩
  · cases d.exponent with
    | none => exact List.forall_mem_nil _
    | some e => exact isInner_encodeExponent e

theorem isInner_encodeFloat (x : PyFloat F) : ∀ c ∈ encodeFloat x, isInner c = true := by
  cases x with
  | finite x => exact (FloatText.proper x).isInner_text
  | infinity | negInfinity | nan => exact List.all_eq_true.mp rfl

end Values

end CameraStack.Lib
