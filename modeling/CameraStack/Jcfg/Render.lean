/-
# The public address in janus.jcfg

Every render makes `janus.jcfg` anew out of its template, and takes the public address from the file
that was there before, unless the operator has just set another.  The address is found by its name,
which also stands in comments of the template, and in any value that happens to hold it.
-/

import CameraStack.Jcfg.Text
import CameraStack.Lib.Lines
import CameraStack.Lib.Machine
import CameraStack.Lib.Template
import CameraStack.Network.PublicIp

namespace CameraStack.Jcfg

open CameraStack.Lib CameraStack.Lib.Template

/-! ## Substitutions at once -/

theorem applySubstitutions_eq (cs : List Char) (subs : List (String × List Char)) :
    applySubstitutions cs subs = replaceEach (subs.map fun sub => (sub.1.toList, sub.2)) cs := by
  rw [applySubstitutions, replaceEach, List.foldl_map]
  rfl

/-- The key of the public address. -/
def natKey : Text := "NAT_1_1_MAPPING".toList

/-- The name of the setting. -/
def mappingName : Text := "nat_1_1_mapping".toList

/-- What stands in the template before the address. -/
def mappingAssignment : Text := "nat_1_1_mapping = \"".toList

/-- The names of the keys but for the address. -/
def hostNames : List String :=
  ["JANUS_CFG_DIR", "JANUS_PLUGINS_DIR", "JANUS_TRANSPORTS_DIR", "ICE_ENFORCE_LIST", "RELAY_PORT",
    "JANUS_ADMIN_SECRET", "STREAMING_ADMIN_KEY", "STREAMING_RGB_MP_SECRET", "TEXTROOM_ROOM_SECRET"]

/-- The keys but for the address. -/
def hostKeys : List Text := hostNames.map String.toList

/-! ## Where the address is not found -/

/-- A text that does not hold the name, nor the sign of the template. -/
structure CleanValue (value : Text) : Prop where
  plain : '@' ∉ value
  nameless : ¬ mappingName <:+: value

/-- No assignment begins where this text begins, whatever follows it. -/
def rejects : Text → Bool
  | [] => false
  | c :: cs =>
      if c ≠ 'n' then true
      else if mappingName <+: c :: cs then
        match ((c :: cs).drop mappingName.length).dropWhile isPySpace with
        | [] => false
        | d :: right =>
            if d ≠ '=' then true
            else
              match right.dropWhile isPySpace with
              | [] => false
              | e :: _ => e ≠ '"'
      else ¬ c :: cs <+: mappingName

/-- The characters before the first key. -/
def literal : List Part → Text
  | .char c :: parts => c :: literal parts
  | _ => []

/-- The key behind the first characters, and the character behind it. -/
def firstHole : List Part → Option (Text × Char)
  | [] => none
  | .char _ :: parts => firstHole parts
  | .hole key guard :: _ => some (key, guard)

/-- The first assignment that can begin in these parts is the one of the template, whatever clean
values are put in. -/
def leads : List Part → Bool
  | [] => false
  | .char c :: parts =>
      -- the name is looked for behind its first letter only
      (c = 'n' && literal (.char c :: parts) = mappingAssignment &&
          firstHole parts = some (natKey, '"')) ||
        (rejects (literal (.char c :: parts)) && leads parts)
  | .hole key guard :: parts => hostKeys.contains key && guard ∉ mappingName && leads parts

theorem leads_janusJcfgTemplate :
    leads (parse janusJcfgTemplate) = true ∧ Part.char '@' ∉ parse janusJcfgTemplate := by
  decide +kernel

theorem assignedAt_of_not_prefix {text : Text} (h : ¬ mappingName <+: text) :
    assignedNatMapping.assignedAt text = none := if_neg h

theorem assignedAt_of_rejects {front : Text} (h : rejects front = true) (rest : Text) :
    assignedNatMapping.assignedAt (front ++ rest) = none := by
  unfold rejects at h
  split at h
  · cases h
  · next c cs =>
      by_cases hc : c = 'n'
      · rw [if_neg (not_not.mpr hc)] at h
        by_cases hname : mappingName <+: c :: cs
        · rw [if_pos hname] at h
          obtain ⟨tail, htail⟩ := hname
          rw [← htail, List.append_assoc]
          rw [← htail, List.drop_left] at h
          have hdrop : (mappingName ++ (tail ++ rest)).drop "nat_1_1_mapping".length =
              tail ++ rest := List.drop_left
          have hhere : "nat_1_1_mapping".toList <+: mappingName ++ (tail ++ rest) :=
            List.prefix_append _ _
          rw [assignedNatMapping.assignedAt, if_pos hhere, hdrop]
          split at h
          · cases h
          · next d right hspaces =>
              rw [List.dropWhile_append, hspaces]
              by_cases hd : d = '='
              · rw [if_neg (not_not.mpr hd)] at h
                split at h
                · cases h
                · next e more hmore =>
                    rw [decide_eq_true_eq] at h
                    simp only [List.isEmpty_cons, Bool.false_eq_true, if_false,
                      List.cons_append, hd, List.dropWhile_append, hmore]
                    split
                    · next heq => exact absurd (List.cons.inj heq).1 h
                    · rfl
              · simp only [List.isEmpty_cons, Bool.false_eq_true, if_false, List.cons_append]
                split
                · next heq => exact absurd (List.cons.inj heq).1 hd
                · rfl
        · rw [if_neg hname, decide_eq_true_eq] at h
          apply assignedAt_of_not_prefix
          intro hall
          rcases List.prefix_or_prefix_of_prefix hall (List.prefix_append (c :: cs) rest) with
            hshort | hlong
          · exact hname hshort
          · exact h hlong
      · apply assignedAt_of_not_prefix
        intro hall
        exact hc (List.cons_prefix_cons.mp hall).1.symm

/-- A value is skipped that does not hold the name. -/
theorem assignedNatMapping_value {value : Text} {guard : Char} (hvalue : ¬ mappingName <:+: value)
    (hguard : guard ∉ mappingName) (rest : Text) :
    assignedNatMapping (value ++ guard :: rest) = assignedNatMapping rest := by
  induction value with
  | nil =>
      have hnot : ¬ mappingName <+: guard :: rest := by
        intro h
        exact hguard ((List.cons_prefix_cons.mp h).1 ▸ List.mem_cons_self)
      rw [List.nil_append, assignedNatMapping, assignedAt_of_not_prefix hnot]
  | cons c value ih =>
      have hnot : ¬ mappingName <+: c :: (value ++ guard :: rest) := by
        intro h
        exact hvalue (isPrefix_of_isPrefix_append_cons hguard h).isInfix
      have hrest : ¬ mappingName <:+: value := fun h =>
        hvalue (h.trans (List.suffix_cons c value).isInfix)
      rw [List.cons_append, assignedNatMapping, assignedAt_of_not_prefix hnot]
      exact ih hrest

theorem fill_cons (subs : List (Text × Text)) (part : Part) (parts : List Part) :
    fill subs (part :: parts) = fill subs [part] ++ fill subs parts := by
  rw [fill, List.flatMap_cons, fill, List.flatMap_cons, List.flatMap_nil, List.append_nil]
  rfl

theorem literal_isPrefix (subs : List (Text × Text)) (parts : List Part) :
    literal parts <+: fill subs parts := by
  induction parts with
  | nil => exact List.nil_prefix
  | cons part parts ih =>
      cases part with
      | char c =>
          rw [fill_cons]
          exact List.cons_prefix_cons.mpr ⟨rfl, ih⟩
      | hole key guard => exact List.nil_prefix

/-! ## Where the address is found -/

/-- The assignment of the template is read. -/
theorem assignedNatMapping_assignment {value : Text} (hne : value ≠ []) (hvalue : '"' ∉ value)
    (rest : Text) :
    assignedNatMapping (mappingAssignment ++ (value ++ '"' :: rest)) = some value := by
  have htake : (value ++ '"' :: rest).takeWhile (fun c => decide (c ≠ '"')) = value := by
    rw [takeWhile_append_stop (by simp), List.takeWhile_eq_self_iff]
    intro c hc
    rw [decide_eq_true_eq]
    exact fun heq => hvalue (heq ▸ hc)
  have hlength : value.length < (value ++ '"' :: rest).length := by
    rw [List.length_append, List.length_cons]
    omega
  have hassigned : assignedNatMapping.assignedAt
      (mappingName ++ (' ' :: '=' :: ' ' :: '"' :: (value ++ '"' :: rest))) = some value := by
    have hhere : "nat_1_1_mapping".toList <+:
        mappingName ++ (' ' :: '=' :: ' ' :: '"' :: (value ++ '"' :: rest)) :=
      List.prefix_append _ _
    have hdrop : (mappingName ++ (' ' :: '=' :: ' ' :: '"' :: (value ++ '"' :: rest))).drop
        "nat_1_1_mapping".length = ' ' :: '=' :: ' ' :: '"' :: (value ++ '"' :: rest) :=
      List.drop_left
    rw [assignedNatMapping.assignedAt, if_pos hhere, hdrop]
    show (if (value ++ '"' :: rest).takeWhile (fun c => decide (c ≠ '"')) ≠ [] ∧
        ((value ++ '"' :: rest).takeWhile fun c => decide (c ≠ '"')).length <
          (value ++ '"' :: rest).length then
        some ((value ++ '"' :: rest).takeWhile fun c => decide (c ≠ '"')) else none) = some value
    rw [htake, if_pos ⟨hne, hlength⟩]
  have hchars : mappingAssignment = 'n' :: mappingAssignment.tail := by decide
  have hsplit : mappingAssignment ++ (value ++ '"' :: rest) =
      mappingName ++ (' ' :: '=' :: ' ' :: '"' :: (value ++ '"' :: rest)) := by
    have hname : mappingAssignment = mappingName ++ [' ', '=', ' ', '"'] := by decide
    rw [hname, List.append_assoc]
    rfl
  rw [← hsplit, hchars, List.cons_append] at hassigned
  rw [hchars, List.cons_append, assignedNatMapping, hassigned]

theorem fill_literal {subs : List (Text × Text)} {key value : Text} {guard : Char}
    (hvalue : subs.lookup key = some value) {parts : List Part}
    (h : firstHole parts = some (key, guard)) :
    ∃ rest, fill subs parts = literal parts ++ (value ++ guard :: rest) := by
  induction parts with
  | nil => cases h
  | cons part parts ih =>
      rw [fill_cons]
      cases part with
      | char c =>
          obtain ⟨rest, hrest⟩ := ih h
          use rest
          rw [hrest]
          rfl
      | hole k g =>
          obtain ⟨rfl, rfl⟩ := Prod.mk.inj (Option.some.inj h)
          use fill subs parts
          simp [fill, hvalue, literal]

/-- The address is found that is put in. -/
theorem assignedNatMapping_fill {subs : List (Text × Text)} {mapping : Text}
    (hclean : ∀ key ∈ hostKeys, ∃ value, subs.lookup key = some value ∧ CleanValue value)
    (hnat : subs.lookup natKey = some mapping) (hne : mapping ≠ []) (hquote : '"' ∉ mapping)
    {parts : List Part} (h : leads parts = true) :
    assignedNatMapping (fill subs parts) = some mapping := by
  induction parts with
  | nil => cases h
  | cons part parts ih =>
      cases part with
      | char c =>
          rw [leads, Bool.or_eq_true, Bool.and_eq_true, Bool.and_eq_true, Bool.and_eq_true] at h
          rcases h with ⟨⟨-, hhere⟩, hhole⟩ | ⟨hrejects, hlater⟩
          · have hhole : firstHole (.char c :: parts) = some (natKey, '"') :=
              of_decide_eq_true hhole
            obtain ⟨rest, hrest⟩ := fill_literal hnat hhole
            rw [hrest, of_decide_eq_true hhere]
            exact assignedNatMapping_assignment hne hquote rest
          · obtain ⟨more, hmore⟩ := literal_isPrefix subs (.char c :: parts)
            have hnone := assignedAt_of_rejects hrejects more
            rw [hmore, fill_cons] at hnone
            change assignedNatMapping.assignedAt (c :: fill subs parts) = none at hnone
            rw [fill_cons]
            change assignedNatMapping (c :: fill subs parts) = _
            rw [assignedNatMapping, hnone]
            exact ih hlater
      | hole key guard =>
          rw [leads, Bool.and_eq_true, Bool.and_eq_true, List.contains_iff_mem,
            decide_eq_true_eq] at h
          obtain ⟨value, hlookup, hvalue⟩ := hclean key h.1.1
          have hhole : fill subs [.hole key guard] = value ++ [guard] := by
            simp [fill, hlookup]
          rw [fill_cons, hhole, List.append_assoc, List.singleton_append,
            assignedNatMapping_value hvalue.nameless h.1.2]
          exact ih h.2

/-- What is read of a file can stand in quotes. -/
theorem of_readCurrentNatMapping (jcfg : Option Text) :
    readCurrentNatMapping jcfg ≠ [] ∧ '"' ∉ readCurrentNatMapping jcfg := by
  have hassigned : ∀ (cs value : Text), assignedNatMapping cs = some value →
      value ≠ [] ∧ '"' ∉ value := by
    intro cs value h
    induction cs with
    | nil => cases h
    | cons c cs ih =>
        rw [assignedNatMapping] at h
        split at h
        · next found hfound =>
            obtain rfl := Option.some.inj h
            unfold assignedNatMapping.assignedAt at hfound
            split_ifs at hfound
            split at hfound
            · split at hfound
              · dsimp only at hfound
                split_ifs at hfound with hcheck
                obtain rfl := Option.some.inj hfound
                apply And.intro hcheck.1
                intro hmem
                have hquote := List.mem_takeWhile_imp hmem
                simp at hquote
              · cases hfound
            · cases hfound
        · exact ih h
  rw [readCurrentNatMapping]
  cases hfound : jcfg.bind assignedNatMapping with
  | none => exact ⟨by decide, by decide⟩
  | some value =>
      obtain ⟨cs, -, hvalue⟩ := Option.bind_eq_some_iff.mp hfound
      exact hassigned cs value hvalue

/-! ## Rendering -/

/-- `janus.jcfg` as `render` writes it. -/
def renderJanus (inputs : RenderInputs) (natMapping : Option String) (janusJcfg : Option Text) :
    Text :=
  applySubstitutions janusJcfgTemplate (buildSubstitutions inputs natMapping janusJcfg)

/-- The substitutions but for the address. -/
def hostSubstitutions (inputs : RenderInputs) : List (String × Text) :=
  (buildSubstitutions inputs none none).dropLast

/-- The address that is put in. -/
def mappingOf (natMapping : Option String) (janusJcfg : Option Text) : Text :=
  match natMapping with
  | some mapping => if mapping = "" then readCurrentNatMapping janusJcfg else mapping.toList
  | none => readCurrentNatMapping janusJcfg

/-- What is found on the host does not interfere with the address. -/
def RenderInputs.Clean (inputs : RenderInputs) : Prop :=
  ∀ sub ∈ hostSubstitutions inputs, CleanValue sub.2

/-- The substitutions but for the address, by the characters of their keys. -/
def hostSubs (inputs : RenderInputs) : List (Text × Text) :=
  (hostSubstitutions inputs).map fun sub => (sub.1.toList, sub.2)

/-- The substitutions by the characters of their keys. -/
def subsOf (inputs : RenderInputs) (mapping : Text) : List (Text × Text) :=
  hostSubs inputs ++ [(natKey, mapping)]

theorem keys_hostSubs (inputs : RenderInputs) : (hostSubs inputs).map Prod.fst = hostKeys := by
  have hnames : (hostSubstitutions inputs).map Prod.fst = hostNames := rfl
  rw [hostKeys, ← hnames, hostSubs, List.map_map, List.map_map]
  rfl

theorem keys_subsOf (inputs : RenderInputs) (mapping : Text) :
    (subsOf inputs mapping).map Prod.fst = hostKeys ++ [natKey] := by
  rw [subsOf, List.map_append, keys_hostSubs]
  rfl

theorem cleanValue_of_mem_hostSubs {inputs : RenderInputs} (h : inputs.Clean) {sub : Text × Text}
    (hsub : sub ∈ hostSubs inputs) : CleanValue sub.2 := by
  obtain ⟨before, hbefore, rfl⟩ := List.mem_map.mp hsub
  exact h before hbefore

theorem applySubstitutions_janus (inputs : RenderInputs) (mapping : Text)
    (h : ∀ sub ∈ hostSubstitutions inputs, '@' ∉ sub.2) :
    applySubstitutions janusJcfgTemplate
        (hostSubstitutions inputs ++ [("NAT_1_1_MAPPING", mapping)]) =
      fill (subsOf inputs mapping) (parse janusJcfgTemplate) := by
  have hsubs : (hostSubstitutions inputs ++ [("NAT_1_1_MAPPING", mapping)]).map
      (fun sub => (sub.1.toList, sub.2)) = subsOf inputs mapping := rfl
  have hkeychars : ∀ key ∈ hostKeys ++ [natKey], ∀ c ∈ key, isKeyChar c = true := by
    have hall : (hostKeys ++ [natKey]).all (fun key => key.all isKeyChar) = true := by
      decide +kernel
    simpa only [List.all_eq_true] using hall
  have hkeys : ∀ key ∈ hostKeys ++ [natKey], key ≠ [] ∧ '@' ∉ key := by
    decide +kernel
  have htext := text_parse janusJcfgTemplate
  rw [applySubstitutions_eq, hsubs]
  conv_lhs => rw [← htext]
  apply replaceEach_text
  · intro sub hsub
    have hkey := hkeys sub.1 (keys_subsOf inputs _ ▸ List.mem_map_of_mem hsub)
    exact ⟨hkey.1, hkey.2⟩
  · intro sub hsub
    rw [subsOf, List.dropLast_concat] at hsub
    obtain ⟨before, hbefore, rfl⟩ := List.mem_map.mp hsub
    exact h before hbefore
  · rw [keys_subsOf]
    exact guarded_parse leads_janusJcfgTemplate.2 hkeychars

/-- Replacing one key after another fills the template at once, where no value of the host holds the
sign; the address may hold it. -/
theorem renderJanus_eq_fill (inputs : RenderInputs) (natMapping : Option String)
    (janusJcfg : Option Text) (h : ∀ sub ∈ hostSubstitutions inputs, '@' ∉ sub.2) :
    renderJanus inputs natMapping janusJcfg =
      fill (subsOf inputs (mappingOf natMapping janusJcfg)) (parse janusJcfgTemplate) :=
  applySubstitutions_janus inputs (mappingOf natMapping janusJcfg) h

/-- A host with plain paths and one secret. -/
def plainInputs : RenderInputs where
  cfgDir := "/etc/janus"
  pluginsDir := "/usr/lib/janus/plugins"
  transportsDir := "/usr/lib/janus/transports"
  iface := "eth0"
  values := [("JANUS_ADMIN_SECRET", "s3cret")]

theorem plainInputs_clean : plainInputs.Clean := by
  have hvalues : ∀ sub ∈ hostSubstitutions plainInputs, '@' ∉ sub.2 ∧ ¬ mappingName <:+: sub.2 := by
    decide +kernel
  intro sub hsub
  exact ⟨(hvalues sub hsub).1, (hvalues sub hsub).2⟩

/-- The address may hold the sign, and even a key. -/
theorem renderJanus_eq_fill_sample :
    renderJanus plainInputs (some "@RELAY_PORT@") none =
      fill (subsOf plainInputs "@RELAY_PORT@".toList) (parse janusJcfgTemplate) :=
  renderJanus_eq_fill plainInputs (some "@RELAY_PORT@") none fun sub hsub =>
    (plainInputs_clean sub hsub).plain

theorem exists_clean {inputs : RenderInputs} (h : inputs.Clean) (mapping : Text) :
    ∀ key ∈ hostKeys, ∃ value,
      (subsOf inputs mapping).lookup key = some value ∧ CleanValue value := by
  intro key hkey
  have hsome : ((hostSubs inputs).lookup key).isSome = true := by
    rw [← keys_hostSubs inputs] at hkey
    obtain ⟨sub, hsub, hfst⟩ := List.mem_map.mp hkey
    rw [List.lookup_isSome_iff]
    exact ⟨sub, hsub, by simp [hfst]⟩
  obtain ⟨value, hvalue⟩ := Option.isSome_iff_exists.mp hsome
  use value
  apply And.intro
  · rw [subsOf, List.lookup_append, hvalue]
    rfl
  · obtain ⟨front, back, hsplit, -⟩ := List.lookup_eq_some_iff.mp hvalue
    have hpair : (key, value) ∈ hostSubs inputs := by
      rw [hsplit]
      simp
    exact cleanValue_of_mem_hostSubs h hpair

/-- The address that was put in is the one that is read. -/
theorem readCurrentNatMapping_renderJanus {inputs : RenderInputs} (h : inputs.Clean)
    {natMapping : Option String} {janusJcfg : Option Text}
    (hquote : '"' ∉ mappingOf natMapping janusJcfg) (hne : mappingOf natMapping janusJcfg ≠ []) :
    readCurrentNatMapping (some (renderJanus inputs natMapping janusJcfg)) =
      mappingOf natMapping janusJcfg := by
  generalize hmapping : mappingOf natMapping janusJcfg = mapping at hquote hne
  have hnat : (subsOf inputs mapping).lookup natKey = some mapping := by
    have hnone : (hostSubs inputs).lookup natKey = none := by
      rw [List.lookup_eq_none_iff]
      intro sub hsub
      have hkey : sub.1 ∈ hostKeys := keys_hostSubs inputs ▸ List.mem_map_of_mem hsub
      have hdistinct : ∀ key ∈ hostKeys, (natKey != key) = true := by decide +kernel
      exact hdistinct sub.1 hkey
    rw [subsOf, List.lookup_append, hnone]
    simp
  have hplain : ∀ sub ∈ hostSubstitutions inputs, '@' ∉ sub.2 := fun sub hsub =>
    (h sub hsub).plain
  have hrender : renderJanus inputs natMapping janusJcfg =
      fill (subsOf inputs mapping) (parse janusJcfgTemplate) := by
    rw [← hmapping]
    exact applySubstitutions_janus inputs (mappingOf natMapping janusJcfg) hplain
  rw [readCurrentNatMapping, Option.bind_some, hrender,
    assignedNatMapping_fill (exists_clean h mapping) hnat hne hquote leads_janusJcfgTemplate.1]
  rfl

/-! ## Addresses that pass -/

theorem mem_splitOn_of_mem {c d : Char} (hne : c ≠ d) {cs : Text} (h : c ∈ cs) :
    ∃ part ∈ cs.splitOn d, c ∈ part := by
  have hjoined : ∀ parts : List Text, c ∈ [d].intercalate parts → ∃ part ∈ parts, c ∈ part := by
    intro parts
    induction parts with
    | nil => exact fun hmem => absurd hmem List.not_mem_nil
    | cons part parts ih =>
        intro hmem
        cases parts with
        | nil =>
            rw [List.intercalate_singleton] at hmem
            exact ⟨part, List.mem_cons_self, hmem⟩
        | cons next parts =>
            rw [List.intercalate_cons_cons, List.mem_append, List.mem_append,
              List.mem_singleton] at hmem
            rcases hmem with (hmem | heq) | hmem
            · exact ⟨part, List.mem_cons_self, hmem⟩
            · exact absurd heq hne
            · obtain ⟨found, hfound, hc⟩ := ih hmem
              exact ⟨found, List.mem_cons_of_mem part hfound, hc⟩
  apply hjoined
  rwa [List.intercalate_splitOn]

/-- An address that passes can stand in quotes. -/
theorem of_checkIpv4 {ip : Text} (h : Network.checkIpv4 ip = .accepted) :
    ip ≠ [] ∧ '"' ∉ ip := by
  have hparts : ∀ parts : List Text, Network.checkParts parts = .accepted →
      ∀ part ∈ parts, '"' ∉ part := by
    intro parts
    induction parts with
    | nil => simp
    | cons part parts ih =>
        intro hcheck
        rw [Network.checkParts] at hcheck
        split_ifs at hcheck with hdigit
        split at hcheck
        · cases hcheck
        · split_ifs at hcheck
          intro p hp hmem
          rcases List.mem_cons.mp hp with rfl | hp
          · rw [Network.isDigitText, Bool.and_eq_true, List.all_eq_true] at hdigit
            exact absurd (hdigit.2 '"' hmem) (by decide)
          · exact ih hcheck p hp hmem
  rw [Network.checkIpv4] at h
  split_ifs at h with hlength
  apply And.intro
  · rintro rfl
    exact hlength (by decide)
  · intro hmem
    obtain ⟨part, hpart, hquote⟩ := @mem_splitOn_of_mem '"' '.' (by decide) ip hmem
    exact hparts _ h part hpart hquote

end CameraStack.Jcfg
