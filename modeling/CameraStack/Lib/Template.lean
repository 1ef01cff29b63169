/-
# Templates

A template holds keys between two signs, `@KEY@`, and is rendered by replacing one key after
another in the whole text.  A value put in early is searched again for the keys that come later,
and the sign that closes one key may open another.

Where every key is followed by a character that no key holds, and no value but the last holds the
sign, the replacements do what they should: every key gives way to its value, all at once.
-/

import CameraStack.Lib.JsonText
import CameraStack.Lib.Text
import Mathlib.Data.List.TakeWhile

namespace CameraStack.Lib.Template

/-- A part of a template: a character, or a key between signs with the character behind it. -/
inductive Part
  | char (c : Char)
  | hole (key : Text) (guard : Char)
  deriving DecidableEq

/-- A key between signs. -/
def marker (key : Text) : Text := '@' :: (key ++ ['@'])

/-- The text of a part. -/
def Part.text : Part → Text
  | .char c => [c]
  | .hole key guard => marker key ++ [guard]

/-- The text of a template. -/
def text (parts : List Part) : Text := parts.flatMap Part.text

/-- A value is put in for a key. -/
def put (key value : Text) (parts : List Part) : List Part :=
  parts.flatMap fun part =>
    match part with
    | .char c => [.char c]
    | .hole k guard => if k = key then value.map .char ++ [.char guard] else [.hole k guard]

/-- The template with every key replaced by its value; a key that has none stays. -/
def fill (subs : List (Text × Text)) (parts : List Part) : Text :=
  parts.flatMap fun part =>
    match part with
    | .char c => [c]
    | .hole k guard =>
        match subs.lookup k with
        | some value => value ++ [guard]
        | none => marker k ++ [guard]

/-- A key that can be told from the text around it. -/
structure Proper (key : Text) : Prop where
  ne_nil : key ≠ []
  plain : '@' ∉ key

/-- The sign stands around keys only, and no key goes on behind the sign that closes one. -/
def Part.Guarded (keys : List Text) : Part → Prop
  | .char c => c ≠ '@'
  | .hole key guard => Proper key ∧ guard ≠ '@' ∧ ∀ k ∈ keys, guard ∉ k

/-! ## One replacement -/

section Replace

variable {key value : Text}

theorem replaceFrom_skip (needle front cs : Text) :
    replaceFrom needle value front.length (front ++ cs) = replaceFrom needle value 0 cs := by
  induction front with
  | nil => rfl
  | cons c front ih => exact ih

theorem replaceFrom_marker (cs : Text) :
    replaceFrom (marker key) value 0 (marker key ++ cs) =
      value ++ replaceFrom (marker key) value 0 cs := by
  have hhere : marker key <+: marker key ++ cs := List.prefix_append _ _
  have hskip := @replaceFrom_skip value (marker key) (key ++ ['@']) cs
  rw [marker, List.cons_append] at hhere ⊢
  rw [replaceFrom, if_pos hhere]
  exact congrArg (value ++ ·) hskip

theorem replaceFrom_char {c : Char} (hc : c ≠ '@') (cs : Text) :
    replaceFrom (marker key) value 0 (c :: cs) = c :: replaceFrom (marker key) value 0 cs := by
  have hnot : ¬ marker key <+: c :: cs := by
    intro h
    exact hc (List.cons_prefix_cons.mp h).1.symm
  rw [replaceFrom, if_neg hnot]

theorem replaceFrom_plain {front : Text} (hfront : '@' ∉ front) (cs : Text) :
    replaceFrom (marker key) value 0 (front ++ cs) =
      front ++ replaceFrom (marker key) value 0 cs := by
  induction front with
  | nil => rfl
  | cons c front ih =>
      rw [List.mem_cons, not_or] at hfront
      rw [List.cons_append, replaceFrom_char (Ne.symm hfront.1), ih hfront.2, List.cons_append]

/-- The marker of one key is not the beginning of a text that begins with the marker of another. -/
theorem marker_prefix_eq {k cs : Text} (hkey : '@' ∉ key) (hk : '@' ∉ k)
    (h : marker key <+: marker k ++ cs) : key = k := by
  rw [marker, marker, List.cons_append, List.cons_prefix_cons] at h
  induction key generalizing k with
  | nil =>
      cases k with
      | nil => rfl
      | cons c k =>
          have hhead := (List.cons_prefix_cons.mp h.2).1
          exact absurd (hhead ▸ List.mem_cons_self) hk
  | cons c key ih =>
      cases k with
      | nil =>
          have hhead := (List.cons_prefix_cons.mp h.2).1
          exact absurd (hhead ▸ List.mem_cons_self) hkey
      | cons d k =>
          obtain ⟨rfl, hrest⟩ := List.cons_prefix_cons.mp h.2
          rw [ih (fun hmem => hkey (List.mem_cons_of_mem c hmem))
            (fun hmem => hk (List.mem_cons_of_mem c hmem)) ⟨rfl, hrest⟩]

/-- The marker of another key stays, with the character behind it. -/
theorem replaceFrom_other {k : Text} {guard : Char} (hkey : Proper key) (hk : Proper k)
    (hne : k ≠ key) (hsign : guard ≠ '@') (hguard : guard ∉ key) (cs : Text) :
    replaceFrom (marker key) value 0 (marker k ++ guard :: cs) =
      marker k ++ guard :: replaceFrom (marker key) value 0 cs := by
  have hfirst : ¬ marker key <+: marker k ++ guard :: cs := fun h =>
    hne (marker_prefix_eq hkey.plain hk.plain h).symm
  have hclosing : ¬ marker key <+: '@' :: guard :: cs := by
    intro h
    obtain ⟨-, h⟩ := List.cons_prefix_cons.mp h
    cases hchars : key with
    | nil => exact hkey.ne_nil hchars
    | cons c more =>
        rw [hchars, List.cons_append] at h
        obtain ⟨rfl, -⟩ := List.cons_prefix_cons.mp h
        exact hguard (hchars ▸ List.mem_cons_self)
  have hsplit : marker k ++ guard :: cs = '@' :: (k ++ '@' :: guard :: cs) := by
    simp [marker]
  rw [hsplit] at hfirst ⊢
  rw [replaceFrom, if_neg hfirst, replaceFrom_plain hk.plain, replaceFrom, if_neg hclosing,
    replaceFrom_char hsign]
  simp [marker]

/-- Replacing a key in the text puts its value in. -/
theorem replaceAll_text {parts : List Part} (hkey : Proper key)
    (h : ∀ part ∈ parts, part.Guarded [key]) :
    replaceAll (marker key) value (text parts) = text (put key value parts) := by
  induction parts with
  | nil => rfl
  | cons part parts ih =>
      obtain ⟨hpart, hrest⟩ := List.forall_mem_cons.mp h
      have hput : put key value (part :: parts) =
          put key value [part] ++ put key value parts := by
        rw [put, List.flatMap_cons, put, List.flatMap_cons, List.flatMap_nil, List.append_nil]
        rfl
      have htext : text (part :: parts) = part.text ++ text parts := List.flatMap_cons
      have happend : text (put key value [part] ++ put key value parts) =
          text (put key value [part]) ++ text (put key value parts) := List.flatMap_append
      rw [hput, htext, happend, ← ih hrest, replaceAll, replaceAll]
      cases part with
      | char c => exact replaceFrom_char hpart _
      | hole k guard =>
          obtain ⟨hk, hsign, hguard⟩ := hpart
          rw [Part.text, List.append_assoc, List.singleton_append]
          by_cases heq : k = key
          · have hchars : text (put key value [.hole k guard]) = value ++ [guard] := by
              simp [put, text, Part.text, heq, List.flatMap_map]
            rw [hchars, heq, replaceFrom_marker, replaceFrom_char hsign, List.append_assoc]
            rfl
          · have hhole : text (put key value [.hole k guard]) = marker k ++ [guard] := by
              simp [put, text, Part.text, heq]
            rw [hhole, replaceFrom_other hkey hk heq hsign
              (hguard key List.mem_cons_self), List.append_assoc]
            rfl

end Replace

/-! ## All replacements -/

/-- One key after another is replaced in the text. -/
def replaceEach (subs : List (Text × Text)) (cs : Text) : Text :=
  subs.foldl (fun out sub => replaceAll (marker sub.1) sub.2 out) cs

theorem guarded_put {key value : Text} {keys : List Text} {parts : List Part} (hvalue : '@' ∉ value)
    (h : ∀ part ∈ parts, part.Guarded keys) : ∀ part ∈ put key value parts, part.Guarded keys := by
  intro part hpart
  obtain ⟨before, hbefore, hmem⟩ := List.mem_flatMap.mp hpart
  have hguarded := h before hbefore
  cases before with
  | char c =>
      obtain rfl := List.mem_singleton.mp hmem
      exact hguarded
  | hole k guard =>
      dsimp only at hmem
      split_ifs at hmem
      · rcases List.mem_append.mp hmem with hmem | hmem
        · obtain ⟨c, hc, rfl⟩ := List.mem_map.mp hmem
          intro heq
          exact hvalue (heq ▸ hc)
        · obtain rfl := List.mem_singleton.mp hmem
          exact hguarded.2.1
      · obtain rfl := List.mem_singleton.mp hmem
        exact hguarded

/-- Putting a value in first fills the same as having it among the substitutions. -/
theorem fill_put (key value : Text) (subs : List (Text × Text)) (parts : List Part) :
    fill subs (put key value parts) = fill ((key, value) :: subs) parts := by
  have hchars : ∀ cs : Text, fill subs (cs.map .char) = cs := by
    intro cs
    rw [fill, List.flatMap_map]
    exact List.flatMap_singleton' cs
  have happend : ∀ first second : List Part,
      fill subs (first ++ second) = fill subs first ++ fill subs second :=
    fun _ _ => List.flatMap_append
  induction parts with
  | nil => rfl
  | cons part parts ih =>
      have hcons : put key value (part :: parts) = put key value [part] ++ put key value parts := by
        rw [put, List.flatMap_cons, put, List.flatMap_cons, List.flatMap_nil, List.append_nil]
        rfl
      have hfill : fill ((key, value) :: subs) (part :: parts) =
          fill ((key, value) :: subs) [part] ++ fill ((key, value) :: subs) parts := by
        rw [fill, List.flatMap_cons, fill, List.flatMap_cons, List.flatMap_nil, List.append_nil]
        rfl
      rw [hcons, happend, ih, hfill]
      congr 1
      cases part with
      | char c => rfl
      | hole k guard =>
          by_cases heq : k = key
          · have hput : put key value [.hole k guard] = value.map .char ++ [.char guard] := by
              simp [put, heq]
            rw [hput, happend, hchars]
            simp [fill, heq]
          · have hput : put key value [.hole k guard] = [.hole k guard] := by
              simp [put, heq]
            have hlookup : ((key, value) :: subs).lookup k = subs.lookup k := by
              rw [List.lookup_cons, beq_eq_false_iff_ne.mpr heq]
            rw [hput]
            simp only [fill, List.flatMap_cons, List.flatMap_nil, hlookup]

theorem fill_nil (parts : List Part) : fill [] parts = text parts := rfl

/-- The replacements, one after another, fill the template at once. -/
theorem replaceEach_text {subs : List (Text × Text)} {parts : List Part}
    (hkeys : ∀ sub ∈ subs, Proper sub.1) (hvalues : ∀ sub ∈ subs.dropLast, '@' ∉ sub.2)
    (h : ∀ part ∈ parts, part.Guarded (subs.map Prod.fst)) :
    replaceEach subs (text parts) = fill subs parts := by
  induction subs generalizing parts with
  | nil => exact (fill_nil parts).symm
  | cons sub subs ih =>
      obtain ⟨hkey, hkeys⟩ := List.forall_mem_cons.mp hkeys
      have hfewer : ∀ (keys : List Text), keys ⊆ (sub :: subs).map Prod.fst →
          ∀ part ∈ parts, part.Guarded keys := by
        intro keys hsubset part hpart
        have hguarded := h part hpart
        cases part with
        | char c => exact hguarded
        | hole k guard =>
            exact ⟨hguarded.1, hguarded.2.1, fun key hkey => hguarded.2.2 key (hsubset hkey)⟩
      rw [replaceEach, List.foldl_cons, replaceAll_text hkey (hfewer [sub.1] (by simp)),
        ← fill_put]
      cases subs with
      | nil => exact (fill_nil _).symm
      | cons next subs =>
          rw [List.dropLast_cons_cons] at hvalues
          obtain ⟨hvalue, hvalues⟩ := List.forall_mem_cons.mp hvalues
          exact ih hkeys hvalues (guarded_put hvalue (hfewer _ (List.subset_cons_self _ _)))

/-! ## Reading a template -/

/-- The characters of keys. -/
def isKeyChar (c : Char) : Bool := c.isUpper || c.isDigit || c = '_'

/-- The key that stands where the text begins, and the character behind it. -/
def holeAt : Text → Option (Text × Char)
  | '@' :: cs =>
      match cs.dropWhile isKeyChar with
      | '@' :: guard :: _ =>
          if cs.takeWhile isKeyChar ≠ [] ∧ guard ≠ '@' ∧ isKeyChar guard = false then
            some (cs.takeWhile isKeyChar, guard)
          else none
      | _ => none
  | _ => none

/-- The parts of a text, when some characters at its front are already read. -/
def parseFrom : ℕ → Text → List Part
  | _, [] => []
  | skip + 1, _ :: cs => parseFrom skip cs
  | 0, c :: cs =>
      match holeAt (c :: cs) with
      | some (key, guard) => .hole key guard :: parseFrom (key.length + 2) cs
      | none => .char c :: parseFrom 0 cs

/-- The parts of a text. -/
def parse (cs : Text) : List Part := parseFrom 0 cs

theorem of_holeAt {cs key : Text} {guard : Char} (h : holeAt cs = some (key, guard)) :
    ∃ rest, cs = marker key ++ guard :: rest ∧ key ≠ [] ∧ guard ≠ '@' ∧
      isKeyChar guard = false ∧ ∀ c ∈ key, isKeyChar c = true := by
  unfold holeAt at h
  split at h
  · next cs =>
      split at h
      · next guard' rest hdrop =>
          split_ifs at h with hcheck
          obtain ⟨rfl, rfl⟩ := Prod.mk.inj (Option.some.inj h)
          use rest
          apply And.intro
          · have hsplit := List.takeWhile_append_dropWhile (p := isKeyChar) (l := cs)
            rw [hdrop] at hsplit
            rw [marker, List.cons_append, List.append_assoc]
            exact congrArg (List.cons '@') hsplit.symm
          · exact ⟨hcheck.1, hcheck.2.1, hcheck.2.2, fun c hc => List.mem_takeWhile_imp hc⟩
      · cases h
  · cases h

/-- The text of the parts of a text is this text. -/
theorem text_parse (cs : Text) : text (parse cs) = cs := by
  have hfrom : ∀ (cs : Text) (skip : ℕ), text (parseFrom skip cs) = cs.drop skip := by
    intro cs
    induction cs with
    | nil =>
        intro skip
        rw [List.drop_nil]
        cases skip with
        | zero => rfl
        | succ skip => rfl
    | cons c cs ih =>
        intro skip
        cases skip with
        | succ skip => exact ih skip
        | zero =>
            rw [parseFrom, List.drop_zero]
            cases hhole : holeAt (c :: cs) with
            | none => exact congrArg (List.cons c) (ih 0)
            | some found =>
                obtain ⟨key, guard⟩ := found
                obtain ⟨rest, hsplit, -⟩ := of_holeAt hhole
                have htail : cs = key ++ '@' :: guard :: rest := by
                  simpa [marker] using (List.cons.inj hsplit).2
                have hdrop : cs.drop (key.length + 2) = rest := by
                  rw [htail, ← List.drop_drop, List.drop_left]
                  rfl
                have hcons : text (.hole key guard :: parseFrom (key.length + 2) cs) =
                    marker key ++ [guard] ++ text (parseFrom (key.length + 2) cs) :=
                  List.flatMap_cons
                dsimp only
                rw [hcons, ih, hdrop, hsplit]
                simp
  rw [parse, hfrom, List.drop_zero]

/-- The keys of a text that was read are guarded, where the sign stands nowhere else. -/
theorem guarded_parse {cs : Text} {keys : List Text} (hplain : Part.char '@' ∉ parse cs)
    (hkeys : ∀ key ∈ keys, ∀ c ∈ key, isKeyChar c = true) :
    ∀ part ∈ parse cs, part.Guarded keys := by
  have hfrom : ∀ (cs : Text) (skip : ℕ) {key : Text} {guard : Char},
      Part.hole key guard ∈ parseFrom skip cs →
        key ≠ [] ∧ guard ≠ '@' ∧ isKeyChar guard = false ∧ ∀ c ∈ key, isKeyChar c = true := by
    intro cs
    induction cs with
    | nil =>
        intro skip key guard hmem
        cases skip with
        | zero => cases hmem
        | succ skip => cases hmem
    | cons c cs ih =>
        intro skip key guard hmem
        cases skip with
        | succ skip => exact ih skip hmem
        | zero =>
            rw [parseFrom] at hmem
            cases hhole : holeAt (c :: cs) with
            | none =>
                rw [hhole] at hmem
                rcases List.mem_cons.mp hmem with heq | hmem
                · cases heq
                · exact ih 0 hmem
            | some found =>
                rw [hhole] at hmem
                rcases List.mem_cons.mp hmem with heq | hmem
                · obtain ⟨rfl, rfl⟩ := Part.hole.inj heq
                  obtain ⟨-, -, hfound⟩ := of_holeAt hhole
                  exact hfound
                · exact ih _ hmem
  intro part hpart
  cases part with
  | char c =>
      intro heq
      exact hplain (heq ▸ hpart)
  | hole key guard =>
      obtain ⟨hne, hsign, hguard, hchars⟩ := hfrom cs 0 hpart
      have hat : '@' ∉ key := by
        intro hmem
        have hat := hchars '@' hmem
        cases hat
      refine ⟨⟨hne, hat⟩, hsign, fun k hk hmem => ?_⟩
      rw [hkeys k hk guard hmem] at hguard
      cases hguard

end CameraStack.Lib.Template
