/-
# One NAT block after another

The admin command takes a NAT configuration as a JSON object, renders its block and puts it between
the markers of `janus.jcfg`.  The values of the object are pasted as they are, so that a value may
hold a marker itself, and the next command cuts the text at the first markers it finds.  What stood
behind the marker in the value is left behind for ever then.
-/

import Mathlib.Data.List.DropRight
import CameraStack.Jcfg.Text
import CameraStack.Lib.JsonText
import CameraStack.Lib.Occurrence

namespace CameraStack.Jcfg

open CameraStack.Lib

/-! ## The object and its block -/

/-- The JSON object of the admin command, whose keys may be missing. -/
structure NatRequest where
  iceEnforceList : Option String := none
  iceIgnoreList : Option (List String) := none
  iceTcp : Option Bool := none
  fullTrickle : Option Bool := none
  keepPrivateHost : Option Bool := none
  stunServer : Option String := none
  stunPort : Option ℤ := none
  turnServer : Option String := none
  turnPort : Option ℤ := none
  turnType : Option String := none
  turnUser : Option String := none
  turnPwd : Option String := none
  nat11Mapping : Option String := none
  minPort : Option ℤ := none
  maxPort : Option ℤ := none
  deriving DecidableEq, Repr

namespace NatRequest

/-- The line about the interfaces; the list to enforce wins. -/
def iceLine (cfg : NatRequest) : List String :=
  if cfg.iceEnforceList.getD "" ≠ "" then
    ["  ice_enforce_list = \"", cfg.iceEnforceList.getD "", "\""]
  else
    "  ice_ignore_list = [ " ::
      (List.intersperse [", "] ((cfg.iceIgnoreList.getD []).map fun s => ["\"", s, "\""])).flatten
        ++ [" ]"]

/-- The block as it is written. -/
def block (cfg : NatRequest) : List Char :=
  joinParts
    [["nat: \x7b"],
     ["  ice_tcp = ", flagText (cfg.iceTcp.getD false)],
     ["  full_trickle = ", flagText (cfg.fullTrickle.getD true)],
     ["  ignore_mdns = true"],
     ["  keep_private_host = ", flagText (cfg.keepPrivateHost.getD false)],
     cfg.iceLine,
     [],
     ["  stun_server = \"", cfg.stunServer.getD "", "\""],
     ["  stun_port   = ", toString (cfg.stunPort.getD 3478)],
     [],
     ["  turn_server = \"", cfg.turnServer.getD "", "\""],
     ["  turn_port   = ", toString (cfg.turnPort.getD 3478)],
     ["  turn_type   = \"", cfg.turnType.getD "udp", "\""],
     ["  turn_user   = \"", cfg.turnUser.getD "", "\""],
     ["  turn_pwd    = \"", cfg.turnPwd.getD "", "\""],
     [],
     ["  nat_1_1_mapping = \"", cfg.nat11Mapping.getD "", "\""],
     ["  min_port = ", toString (cfg.minPort.getD 10000)],
     ["  max_port = ", toString (cfg.maxPort.getD 20000)],
     ["\x7d"]]

/-- The ports that are written. -/
def ports (cfg : NatRequest) : List ℤ :=
  [cfg.stunPort.getD 3478, cfg.turnPort.getD 3478, cfg.minPort.getD 10000, cfg.maxPort.getD 20000]

/-- Python writes an integer that is not too long. -/
def Short (cfg : NatRequest) : Prop :=
  ∀ n ∈ cfg.ports, (JsonValue.digitsOf n.natAbs).length ≤ JsonValue.maxStrDigits

instance (cfg : NatRequest) : Decidable cfg.Short :=
  inferInstanceAs (Decidable (∀ n ∈ cfg.ports, _))

/-- `render_nat_block` of such an object; `none` is the `ValueError` about an integer. -/
def renderNatBlock (cfg : NatRequest) : Option (List Char) :=
  if cfg.Short then some cfg.block else none

/-- The configuration of the application, as it hands it to the command. -/
def ofConfig (cfg : JanusNatConfig) : NatRequest where
  iceEnforceList := cfg.iceEnforceList
  iceIgnoreList := cfg.iceIgnoreList
  iceTcp := cfg.iceTcp
  fullTrickle := cfg.fullTrickle
  keepPrivateHost := cfg.keepPrivateHost
  stunServer := cfg.stunServer
  stunPort := cfg.stunPort
  turnServer := cfg.turnServer
  turnPort := cfg.turnPort
  turnType := cfg.turnType.value
  turnUser := cfg.turnUser
  turnPwd := cfg.turnPwd
  nat11Mapping := cfg.nat11Mapping
  minPort := cfg.minPort
  maxPort := cfg.maxPort

/-- Its block is the one that the application would render. -/
theorem block_ofConfig (cfg : JanusNatConfig) : (ofConfig cfg).block = Jcfg.renderNatBlock cfg :=
  rfl

/-! ## Markers in a block -/

/-- The values that the block shows in quotes. -/
def quoted (cfg : NatRequest) : List String :=
  (if cfg.iceEnforceList.getD "" ≠ "" then [cfg.iceEnforceList.getD ""]
    else cfg.iceIgnoreList.getD []) ++
  [cfg.stunServer.getD "", cfg.turnServer.getD "", cfg.turnType.getD "udp", cfg.turnUser.getD "",
    cfg.turnPwd.getD "", cfg.nat11Mapping.getD ""]

/-- One of the quoted values holds the text. -/
def Mentions (cfg : NatRequest) (text : List Char) : Prop :=
  ∃ value ∈ cfg.quoted, text <:+: value.toList

instance (cfg : NatRequest) (text : List Char) : Decidable (cfg.Mentions text) :=
  inferInstanceAs (Decidable (∃ value ∈ cfg.quoted, text <:+: value.toList))

end NatRequest

/-- A text that can only be part of a line, and there only of a quoted value. -/
structure IsMarker (m : List Char) : Prop where
  hash : '#' ∈ m
  line : '\n' ∉ m
  quote : '"' ∉ m

theorem isMarker_begin : IsMarker natBeginMarker := ⟨by decide, by decide, by decide⟩

theorem isMarker_end : IsMarker natEndMarker := ⟨by decide, by decide, by decide⟩

section Marker

variable {m : List Char}

theorem IsMarker.ne_nil (hm : IsMarker m) : m ≠ [] := List.ne_nil_of_mem hm.hash

/-- A marker in a line with a quoted value stands in the value. -/
theorem IsMarker.quoted_line (hm : IsMarker m) {front value tail : List Char} (hfront : '#' ∉ front)
    (htail : '#' ∉ tail) :
    m <:+: front ++ '"' :: (value ++ '"' :: tail) ↔ m <:+: value := by
  rw [infix_append_cons hm.quote hm.ne_nil, infix_append_cons hm.quote hm.ne_nil,
    or_iff_right (not_infix_of_not_mem hm.hash hfront),
    or_iff_left (not_infix_of_not_mem hm.hash htail)]

theorem IsMarker.quoted_parts (hm : IsMarker m) (left value : String)
    (hleft : left.toList = left.toList.dropLast ++ ['"']) (hkey : '#' ∉ left.toList.dropLast) :
    m <:+: [left, value, "\""].flatMap String.toList ↔ m <:+: value.toList := by
  have hline : [left, value, "\""].flatMap String.toList =
      left.toList.dropLast ++ '"' :: (value.toList ++ '"' :: []) := by
    rw [List.flatMap_cons, hleft, List.dropLast_concat]
    simp
  rw [hline, hm.quoted_line hkey List.not_mem_nil]

/-- A line without quoted values has no marker. -/
theorem IsMarker.plain_parts (hm : IsMarker m) {parts : List String}
    (h : ∀ part ∈ parts, '#' ∉ part.toList) : ¬ m <:+: parts.flatMap String.toList :=
  not_infix_of_not_mem hm.hash fun hmem => by
    obtain ⟨part, hpart, hc⟩ := List.mem_flatMap.mp hmem
    exact h part hpart hc

theorem IsMarker.items (hm : IsMarker m) {items : List String} {front tail : List Char}
    (hfront : '#' ∉ front) (htail : '#' ∉ tail) :
    m <:+: front ++ ((List.intersperse [", "] (items.map fun s => ["\"", s, "\""])).flatten.flatMap
        String.toList ++ tail) ↔ ∃ s ∈ items, m <:+: s.toList := by
  induction items generalizing front with
  | nil =>
      refine iff_of_false (not_infix_of_not_mem hm.hash ?_) fun ⟨_, h, _⟩ => nomatch h
      simp [hfront, htail]
  | cons s items ih =>
      cases items with
      | nil =>
          have hline : front ++ ((List.intersperse [", "] ([s].map fun s =>
              ["\"", s, "\""])).flatten.flatMap String.toList ++ tail) =
                front ++ '"' :: (s.toList ++ '"' :: tail) := by
            simp
          rw [hline, hm.quoted_line hfront htail]
          simp
      | cons next items =>
          have hline : front ++ ((List.intersperse [", "] ((s :: next :: items).map fun s =>
              ["\"", s, "\""])).flatten.flatMap String.toList ++ tail) =
                front ++ '"' :: (s.toList ++ '"' :: (", ".toList ++ ((List.intersperse [", "]
                  ((next :: items).map fun s => ["\"", s, "\""])).flatten.flatMap String.toList
                    ++ tail))) := by
            simp
          rw [hline, infix_append_cons hm.quote hm.ne_nil, infix_append_cons hm.quote hm.ne_nil,
            or_iff_right (not_infix_of_not_mem hm.hash hfront), ih (by decide)]
          exact (List.exists_mem_cons_iff (fun s : String => m <:+: s.toList) s
            (next :: items)).symm

theorem IsMarker.iceLine (hm : IsMarker m) (cfg : NatRequest) :
    m <:+: cfg.iceLine.flatMap String.toList ↔
      ∃ s ∈ (if cfg.iceEnforceList.getD "" ≠ "" then [cfg.iceEnforceList.getD ""]
        else cfg.iceIgnoreList.getD []), m <:+: s.toList := by
  rw [NatRequest.iceLine]
  split_ifs with henforce
  · rw [hm.quoted_parts "  ice_enforce_list = \"" _ rfl (by decide)]
    simp
  · have hline : ("  ice_ignore_list = [ " ::
        (List.intersperse [", "] ((cfg.iceIgnoreList.getD []).map fun s =>
          ["\"", s, "\""])).flatten ++ [" ]"]).flatMap String.toList =
        "  ice_ignore_list = [ ".toList ++ ((List.intersperse [", "]
          ((cfg.iceIgnoreList.getD []).map fun s => ["\"", s, "\""])).flatten.flatMap
            String.toList ++ " ]".toList) := by
      simp
    rw [hline, hm.items (by decide) (by decide)]

/-- A marker stands in a block if and only if a quoted value of the object holds it. -/
theorem IsMarker.block (hm : IsMarker m) (cfg : NatRequest) :
    m <:+: cfg.block ↔ cfg.Mentions m := by
  have hflag : ∀ (key : String) (b : Bool), '#' ∉ key.toList →
      ¬ m <:+: [key, flagText b].flatMap String.toList := by
    intro key b hkey
    refine hm.plain_parts (List.forall_mem_cons.mpr ⟨hkey, List.forall_mem_singleton.mpr ?_⟩)
    cases b with
    | false | true => decide
  have hport : ∀ (key : String) (n : ℤ), '#' ∉ key.toList →
      ¬ m <:+: [key, toString n].flatMap String.toList := by
    intro key n hkey
    refine hm.plain_parts (List.forall_mem_cons.mpr ⟨hkey, List.forall_mem_singleton.mpr ?_⟩)
    intro hmem
    rcases mem_toString_int hmem with hdigit | hsign
    · exact absurd hdigit (by decide)
    · exact absurd hsign (by decide)
  have hplain : ∀ key : String, '#' ∉ key.toList → ¬ m <:+: [key].flatMap String.toList :=
    fun key hkey => hm.plain_parts (List.forall_mem_singleton.mpr hkey)
  have hblank : ¬ m <:+: ([] : List String).flatMap String.toList :=
    hm.plain_parts (List.forall_mem_nil _)
  rw [NatRequest.block, joinParts, joinLines, infix_lines hm.line hm.ne_nil, NatRequest.Mentions,
    NatRequest.quoted]
  simp only [List.map_cons, List.map_nil, List.exists_mem_cons_iff, List.not_mem_nil, false_and,
    exists_false, or_false, List.mem_append, or_and_right, exists_or, hm.iceLine, hblank, false_or,
    hflag "  ice_tcp = " _ (by decide), hflag "  full_trickle = " _ (by decide),
    hflag "  keep_private_host = " _ (by decide), hport "  stun_port   = " _ (by decide),
    hport "  turn_port   = " _ (by decide), hport "  min_port = " _ (by decide),
    hport "  max_port = " _ (by decide), hplain "nat: \x7b" (by decide),
    hplain "  ignore_mdns = true" (by decide), hplain "\x7d" (by decide),
    hm.quoted_parts "  stun_server = \"" _ rfl (by decide),
    hm.quoted_parts "  turn_server = \"" _ rfl (by decide),
    hm.quoted_parts "  turn_type   = \"" _ rfl (by decide),
    hm.quoted_parts "  turn_user   = \"" _ rfl (by decide),
    hm.quoted_parts "  turn_pwd    = \"" _ rfl (by decide),
    hm.quoted_parts "  nat_1_1_mapping = \"" _ rfl (by decide)]

end Marker

/-! ## Patches -/

/-- `patch_nat_block(text, render_nat_block(cfg))`. -/
def NatRequest.apply (text : List Char) (cfg : NatRequest) : Option (List Char) :=
  cfg.renderNatBlock.bind (patchNatBlock text)

/-- Each marker occurs once, and they part the text. -/
structure Framed (text before inner after : List Char) : Prop where
  parts : text = before ++ natBeginMarker ++ (inner ++ natEndMarker ++ after)
  begins : occurrences natBeginMarker text = 1
  ends : occurrences natEndMarker text = 1

/-- What a patch makes of the parts. -/
def framed (before block after : List Char) : List Char :=
  before ++ '\n' :: (natBeginMarker ++ '\n' :: (block ++ '\n' :: (natEndMarker ++ '\n' :: after)))

theorem occurrences_framed {m : List Char} (hm : IsMarker m) (before block after : List Char) :
    occurrences m (framed before block after) = occurrences m before + occurrences m natBeginMarker
      + occurrences m block + occurrences m natEndMarker + occurrences m after := by
  rw [framed, occurrences_append_cons hm.line hm.ne_nil, occurrences_append_cons hm.line hm.ne_nil,
    occurrences_append_cons hm.line hm.ne_nil, occurrences_append_cons hm.line hm.ne_nil]
  omega

theorem occurrences_begin_framed (before block after : List Char) :
    occurrences natBeginMarker (framed before block after) = occurrences natBeginMarker before + 1
      + occurrences natBeginMarker block + occurrences natBeginMarker after := by
  have hbegin : occurrences natBeginMarker natBeginMarker = 1 := by decide
  have hend : occurrences natBeginMarker natEndMarker = 0 := by decide
  rw [occurrences_framed isMarker_begin, hbegin, hend]
  omega

theorem occurrences_end_framed (before block after : List Char) :
    occurrences natEndMarker (framed before block after) = occurrences natEndMarker before
      + occurrences natEndMarker block + 1 + occurrences natEndMarker after := by
  have hbegin : occurrences natEndMarker natBeginMarker = 0 := by decide
  have hend : occurrences natEndMarker natEndMarker = 1 := by decide
  rw [occurrences_framed isMarker_end, hbegin, hend]
  omega

/-- No marker begins with a space. -/
theorem occurrences_lstrip (cs : List Char) :
    occurrences natBeginMarker (cs.dropWhile isPySpace) = occurrences natBeginMarker cs ∧
      occurrences natEndMarker (cs.dropWhile isPySpace) = occurrences natEndMarker cs :=
  ⟨occurrences_dropWhile (by decide) cs, occurrences_dropWhile (by decide) cs⟩

theorem occurrences_rstrip_le (m cs : List Char) :
    occurrences m (rstripChars cs) ≤ occurrences m cs := by
  obtain ⟨tail, htail⟩ := rstripChars_isPrefix cs
  have hle := @occurrences_append_le m (rstripChars cs) tail
  rw [htail] at hle
  omega

theorem rstripChars_rstripChars (cs : List Char) :
    rstripChars (rstripChars cs) = rstripChars cs := by
  rw [rstripChars, rstripChars, List.reverse_reverse, List.dropWhile_idempotent]

theorem rstripChars_append_newline (cs : List Char) :
    rstripChars (cs ++ ['\n']) = rstripChars cs := by
  rw [rstripChars, List.reverse_append]
  rfl

section Framed

variable {text before inner after : List Char}

/-- Outside of their two places there are no markers. -/
theorem Framed.outside (h : Framed text before inner after) :
    (occurrences natBeginMarker before = 0 ∧ occurrences natBeginMarker after = 0) ∧
      occurrences natEndMarker before = 0 ∧ occurrences natEndMarker after = 0 := by
  have hsum : ∀ m, occurrences m before + occurrences m natBeginMarker + (occurrences m inner
      + occurrences m natEndMarker + occurrences m after) ≤ occurrences m text := by
    intro m
    have h1 := @occurrences_append_le m before natBeginMarker
    have h2 := @occurrences_append_le m inner natEndMarker
    have h3 := @occurrences_append_le m (inner ++ natEndMarker) after
    have h4 := @occurrences_append_le m (before ++ natBeginMarker) (inner ++ natEndMarker ++ after)
    rw [h.parts]
    omega
  have hbegin := hsum natBeginMarker
  have hend := hsum natEndMarker
  have hbegin' : occurrences natBeginMarker natBeginMarker = 1 := by decide
  have hend' : occurrences natEndMarker natEndMarker = 1 := by decide
  rw [h.begins, hbegin'] at hbegin
  rw [h.ends, hend'] at hend
  omega

/-- The first patch of a text whose markers occur once. -/
theorem Framed.patch (h : Framed text before inner after) (block : List Char) :
    patchNatBlock text block =
      some (framed (rstripChars before) block (after.dropWhile isPySpace)) := by
  have hbegins := h.begins
  rw [h.parts] at hbegins
  have hbegin := cutAt_of_occurrences isMarker_begin.ne_nil hbegins
  have hends := h.ends
  have hle := @occurrences_append_le natEndMarker before
    (natBeginMarker ++ inner ++ natEndMarker ++ after)
  have hsome : occurrences natEndMarker (natBeginMarker ++ inner ++ natEndMarker ++ after) ≠ 0 :=
    fun hzero => (occurrences_eq_zero_iff isMarker_end.ne_nil).mp hzero
      ⟨natBeginMarker ++ inner, after, rfl⟩
  have hsame : before ++ natBeginMarker ++ (inner ++ natEndMarker ++ after) =
      before ++ (natBeginMarker ++ inner ++ natEndMarker ++ after) := by
    simp
  rw [h.parts, hsame] at hends
  have hend := cutAt_of_occurrences isMarker_end.ne_nil
    (show occurrences natEndMarker (natBeginMarker ++ inner ++ natEndMarker ++ after) = 1 by omega)
  rw [patchNatBlock, h.parts, hbegin]
  simp only
  rw [show natBeginMarker ++ (inner ++ natEndMarker ++ after) =
    natBeginMarker ++ inner ++ natEndMarker ++ after by simp, hend]
  rfl

/-- A patch of what a patch has made.  If the block has an end marker, the text is cut there. -/
theorem patch_framed {before block after : List Char} (hstrip : rstripChars before = before)
    (hbegin : occurrences natBeginMarker before = 0) (new : List Char) :
    ∃ rest, patchNatBlock (framed before block after) new = some (framed before new rest) ∧
      rest.dropWhile isPySpace = rest ∧
      (occurrences natEndMarker rest = 0 ↔
        occurrences natEndMarker block = 0 ∧ occurrences natEndMarker after = 0) ∧
      (occurrences natEndMarker block = 0 → rest = after.dropWhile isPySpace) := by
  have hcut := cutAt_behind isMarker_begin.line isMarker_begin.ne_nil hbegin
    ('\n' :: (block ++ '\n' :: (natEndMarker ++ '\n' :: after)))
  have hfront : natBeginMarker ++ '\n' :: (block ++ '\n' :: (natEndMarker ++ '\n' :: after)) =
      (natBeginMarker ++ '\n' :: block) ++ '\n' :: (natEndMarker ++ '\n' :: after) := by
    simp
  have hcount : occurrences natEndMarker (natBeginMarker ++ '\n' :: block) =
      occurrences natEndMarker block := by
    rw [occurrences_append_cons isMarker_end.line isMarker_end.ne_nil]
    have hzero : occurrences natEndMarker natBeginMarker = 0 := by decide
    omega
  by_cases hblock : occurrences natEndMarker block = 0
  · have hend := cutAt_behind isMarker_end.line isMarker_end.ne_nil (hcount.trans hblock)
      ('\n' :: after)
    refine ⟨after.dropWhile isPySpace, ?_, List.dropWhile_idempotent _ _, ?_, fun _ => rfl⟩
    · rw [patchNatBlock, framed, hcut]
      simp only
      rw [hfront, hend, rstripChars_append_newline, hstrip]
      rfl
    · rw [(occurrences_lstrip after).2]
      exact (and_iff_right hblock).symm
  · obtain ⟨found, rest, hend⟩ := cutAt_within isMarker_end.line isMarker_end.ne_nil
      (fun h => hblock (hcount.symm.trans h)) (natEndMarker ++ '\n' :: after)
    refine ⟨(rest ++ '\n' :: (natEndMarker ++ '\n' :: after)).dropWhile isPySpace, ?_,
      List.dropWhile_idempotent _ _, ?_, fun h => absurd h hblock⟩
    · rw [patchNatBlock, framed, hcut]
      simp only
      rw [hfront, hend, rstripChars_append_newline, hstrip]
      rfl
    · rw [(occurrences_lstrip _).2, occurrences_append_cons isMarker_end.line isMarker_end.ne_nil,
        occurrences_append_cons isMarker_end.line isMarker_end.ne_nil]
      have hone : occurrences natEndMarker natEndMarker = 1 := by decide
      refine iff_of_false ?_ fun h => hblock h.1
      omega

end Framed

/-! ## Patches in a row -/

theorem apply_of_short {cfg : NatRequest} (h : cfg.Short) (text : List Char) :
    cfg.apply text = patchNatBlock text cfg.block := by
  rw [NatRequest.apply, NatRequest.renderNatBlock, if_pos h]
  rfl

theorem short_of_apply {cfg : NatRequest} {text patched : List Char}
    (h : cfg.apply text = some patched) : cfg.Short := by
  rw [NatRequest.apply, NatRequest.renderNatBlock] at h
  split_ifs at h with hshort
  · exact hshort
  · cases h

/-- Objects are applied one after the other. -/
def applyAll (cfgs : List NatRequest) (text : List Char) : Option (List Char) :=
  cfgs.foldlM (fun text cfg => cfg.apply text) text

theorem applyAll_cons (cfg : NatRequest) (cfgs : List NatRequest) (text : List Char) :
    applyAll (cfg :: cfgs) text = (cfg.apply text).bind (applyAll cfgs) :=
  List.foldlM_cons

theorem short_of_applyAll {cfgs : List NatRequest} {text final : List Char}
    (h : applyAll cfgs text = some final) : ∀ cfg ∈ cfgs, cfg.Short := by
  induction cfgs generalizing text with
  | nil => exact List.forall_mem_nil _
  | cons cfg cfgs ih =>
      rw [applyAll_cons] at h
      obtain ⟨patched, hpatched, hrest⟩ := Option.bind_eq_some_iff.mp h
      exact List.forall_mem_cons.mpr ⟨short_of_apply hpatched, ih hrest⟩

/-- What further patches make of a text that an object was applied to: the end marker occurs
behind the block as soon as a block before the last one has it. -/
theorem applyAll_framed {before : List Char} (hstrip : rstripChars before = before)
    (hbegin : occurrences natBeginMarker before = 0) {cfgs : List NatRequest} {cfg : NatRequest}
    {after : List Char} (hafter : after.dropWhile isPySpace = after)
    (hshort : ∀ c ∈ cfgs, c.Short) :
    ∃ rest, applyAll cfgs (framed before cfg.block after) =
        some (framed before ((cfg :: cfgs).getLast (List.cons_ne_nil cfg cfgs)).block rest) ∧
      rest.dropWhile isPySpace = rest ∧
      (occurrences natEndMarker rest = 0 ↔
        (∀ c ∈ (cfg :: cfgs).dropLast, occurrences natEndMarker c.block = 0) ∧
          occurrences natEndMarker after = 0) ∧
      (occurrences natEndMarker rest = 0 → rest = after) := by
  induction cfgs generalizing cfg after with
  | nil =>
      refine ⟨after, rfl, hafter, ?_, fun _ => rfl⟩
      exact (and_iff_right (List.forall_mem_nil _)).symm
  | cons next cfgs ih =>
      obtain ⟨hnext, hcfgs⟩ := List.forall_mem_cons.mp hshort
      obtain ⟨first, hfirst, hstripped, hcount, hsame⟩ :=
        @patch_framed before cfg.block after hstrip hbegin next.block
      obtain ⟨rest, hrun, hrest, hcounts, hkept⟩ := ih hstripped hcfgs
      refine ⟨rest, ?_, hrest, ?_, fun hzero => ?_⟩
      · rw [applyAll_cons, apply_of_short hnext, hfirst]
        exact hrun
      · rw [hcounts, hcount, List.dropLast_cons_cons, List.forall_mem_cons]
        constructor
        · rintro ⟨hall, hblock, hzero⟩
          exact ⟨⟨hblock, hall⟩, hzero⟩
        · rintro ⟨⟨hblock, hall⟩, hzero⟩
          exact ⟨hall, hblock, hzero⟩
      · obtain ⟨-, hzero'⟩ := hcounts.mp hzero
        rw [hkept hzero, hsame (hcount.mp hzero').1, hafter]

/-- The objects are contained: they are all applied, the text around the markers is as it was but
for white space, each marker occurs once, between them stands the block of the last object, and
that object applied once more changes nothing. -/
def Contained (text before after : List Char) (cfgs : List NatRequest) : Prop :=
  ∃ final before' inner' after', applyAll cfgs text = some final ∧
    Framed final before' inner' after' ∧ rstripChars before' = rstripChars before ∧
    after'.dropWhile isPySpace = after.dropWhile isPySpace ∧
    ∀ cfg ∈ cfgs.getLast?, inner' = '\n' :: (cfg.block ++ ['\n']) ∧ cfg.apply final = some final

theorem framed_parts (before block after : List Char) :
    framed before block after = (before ++ ['\n']) ++ natBeginMarker ++
      ('\n' :: (block ++ ['\n']) ++ natEndMarker ++ '\n' :: after) := by
  simp [framed]

theorem IsMarker.mentions_iff {m : List Char} (hm : IsMarker m) (cfg : NatRequest) :
    ¬ cfg.Mentions m ↔ occurrences m cfg.block = 0 := by
  rw [occurrences_eq_zero_iff hm.ne_nil, hm.block]

/-- What the objects make of a text. -/
theorem Framed.applyAll {text before inner after : List Char} (h : Framed text before inner after)
    {cfg : NatRequest} {cfgs : List NatRequest} (hshort : ∀ c ∈ cfg :: cfgs, c.Short) :
    ∃ rest, applyAll (cfg :: cfgs) text = some (framed (rstripChars before)
        ((cfg :: cfgs).getLast (List.cons_ne_nil cfg cfgs)).block rest) ∧
      (occurrences natEndMarker rest = 0 ↔
        ∀ c ∈ (cfg :: cfgs).dropLast, occurrences natEndMarker c.block = 0) ∧
      (occurrences natEndMarker rest = 0 → rest = after.dropWhile isPySpace) := by
  obtain ⟨hcfg, hcfgs⟩ := List.forall_mem_cons.mp hshort
  obtain ⟨⟨hbegin, -⟩, -, hend⟩ := h.outside
  have hbegin' : occurrences natBeginMarker (rstripChars before) = 0 :=
    Nat.le_zero.mp (hbegin ▸ occurrences_rstrip_le natBeginMarker before)
  obtain ⟨rest, hrun, -, hcounts, hkept⟩ := @applyAll_framed (rstripChars before)
    (rstripChars_rstripChars before) hbegin' cfgs cfg (after.dropWhile isPySpace)
    (List.dropWhile_idempotent _ _) hcfgs
  refine ⟨rest, ?_, ?_, hkept⟩
  · rw [applyAll_cons, apply_of_short hcfg, h.patch]
    exact hrun
  · rw [hcounts, (occurrences_lstrip after).2]
    exact and_iff_left hend

/-- A text that is framed and stripped is left by the object that its block is of. -/
theorem apply_framed_self {before after : List Char} {cfg : NatRequest} (hshort : cfg.Short)
    (hstrip : rstripChars before = before) (hbegin : occurrences natBeginMarker before = 0)
    (hafter : after.dropWhile isPySpace = after) (hend : occurrences natEndMarker cfg.block = 0) :
    cfg.apply (framed before cfg.block after) = some (framed before cfg.block after) := by
  obtain ⟨rest, hpatch, -, -, hsame⟩ := @patch_framed before cfg.block after hstrip hbegin cfg.block
  rw [apply_of_short hshort, hpatch, hsame hend, hafter]

/-- Exactly the objects are contained whose integers can be written and whose quoted values hold no
marker: the end marker in none of them, the begin marker not in the last. -/
theorem nat_patches_contained_iff (text before inner after : List Char)
    (hframed : Framed text before inner after) (cfgs : List NatRequest) :
    Contained text before after cfgs ↔
      (∀ cfg ∈ cfgs, cfg.Short ∧ ¬ cfg.Mentions natEndMarker) ∧
        ∀ cfg ∈ cfgs.getLast?, ¬ cfg.Mentions natBeginMarker := by
  cases cfgs with
  | nil =>
      refine iff_of_true ⟨text, before, inner, after, rfl, hframed, rfl, rfl, ?_⟩
        ⟨List.forall_mem_nil _, ?_⟩
      · intro cfg hcfg
        cases hcfg
      · intro cfg hcfg
        cases hcfg
  | cons cfg cfgs =>
      have hsplit := List.dropLast_concat_getLast (List.cons_ne_nil cfg cfgs)
      have hlast := List.getLast?_eq_some_getLast (List.cons_ne_nil cfg cfgs)
      have hmem := List.getLast_mem (List.cons_ne_nil cfg cfgs)
      obtain ⟨⟨hbegin, hbegin'⟩, hend, hend'⟩ := hframed.outside
      have hbefore : ∀ m, occurrences m before = 0 → occurrences m (rstripChars before) = 0 :=
        fun m hm => Nat.le_zero.mp (hm ▸ occurrences_rstrip_le m before)
      constructor
      · rintro ⟨final, before', inner', after', hrun, hfinal, -, -, -⟩
        have hshort := short_of_applyAll hrun
        obtain ⟨rest, hrun', hcounts, -⟩ := hframed.applyAll hshort
        cases hrun.symm.trans hrun'
        have hbegins := hfinal.begins
        have hends := hfinal.ends
        rw [occurrences_begin_framed] at hbegins
        rw [occurrences_end_framed] at hends
        have hfront := hcounts.mp (by omega)
        refine ⟨fun c hc => ⟨hshort c hc, (isMarker_end.mentions_iff c).mpr ?_⟩, fun c hc => ?_⟩
        · rw [← hsplit, List.mem_append, List.mem_singleton] at hc
          rcases hc with hc | rfl
          · exact hfront c hc
          · omega
        · cases hlast.symm.trans hc
          exact (isMarker_begin.mentions_iff _).mpr (by omega)
      · rintro ⟨hall, hlastBegin⟩
        have hshort : ∀ c ∈ cfg :: cfgs, c.Short := fun c hc => (hall c hc).1
        have hclean : ∀ c ∈ cfg :: cfgs, occurrences natEndMarker c.block = 0 := fun c hc =>
          (isMarker_end.mentions_iff c).mp (hall c hc).2
        obtain ⟨rest, hrun, hcounts, hkept⟩ := hframed.applyAll hshort
        have hrest := hkept (hcounts.mpr fun c hc => hclean c (List.dropLast_subset _ hc))
        rw [hrest] at hrun
        have hblock := (isMarker_begin.mentions_iff _).mp (hlastBegin _ hlast)
        refine ⟨_, _, _, _, hrun, ⟨framed_parts _ _ _, ?_, ?_⟩, ?_, ?_, fun c hc => ?_⟩
        · rw [occurrences_begin_framed, hbefore _ hbegin, hblock, (occurrences_lstrip after).1,
            hbegin']
        · rw [occurrences_end_framed, hbefore _ hend, hclean _ hmem, (occurrences_lstrip after).2,
            hend']
        · rw [rstripChars_append_newline, rstripChars_rstripChars]
        · rw [List.dropWhile_cons_of_pos (by decide), List.dropWhile_idempotent]
        · cases hlast.symm.trans hc
          refine ⟨rfl, apply_framed_self (hshort _ hmem) (rstripChars_rstripChars before)
            (hbefore _ hbegin) (List.dropWhile_idempotent _ _) (hclean _ hmem)⟩

/-! ## A file and two objects -/

/-- What stands before the markers of a small file. -/
def sampleBefore : List Char := "general: \x7b\x7d\n".toList

/-- A small file. -/
def sampleJcfg : List Char :=
  sampleBefore ++ natBeginMarker ++ (['\n'] ++ natEndMarker ++ ['\n'])

theorem sampleJcfg_framed : Framed sampleJcfg sampleBefore ['\n'] ['\n'] :=
  ⟨rfl, by decide, by decide⟩

/-- An object for a TURN server. -/
def sampleRequest (turnPwd : String) : NatRequest where
  turnServer := some "turn.example.com"
  turnUser := some "new-user"
  turnPwd := some turnPwd

theorem sampleRequest_short (turnPwd : String) : (sampleRequest turnPwd).Short := by
  have hshort : (sampleRequest "").Short := by decide
  exact hshort

theorem nat_patches_contained_sample :
    Contained sampleJcfg sampleBefore ['\n']
      [sampleRequest "old-pwd", sampleRequest "new-pwd"] := by
  refine (nat_patches_contained_iff _ _ _ _ sampleJcfg_framed _).mpr ⟨?_, ?_⟩
  · simp only [List.forall_mem_cons]
    exact ⟨⟨sampleRequest_short _, by decide +kernel⟩, ⟨sampleRequest_short _, by decide +kernel⟩,
      List.forall_mem_nil _⟩
  · intro cfg hcfg
    cases hcfg
    decide +kernel

/-- A password with the end marker leaves its rest behind, whatever password comes after it. -/
theorem nat_patch_leaves_rest :
    ¬ Contained sampleJcfg sampleBefore ['\n']
      [sampleRequest "# END NAT AUTO", sampleRequest "new-pwd"] := by
  rintro ⟨final, before', inner', after', hrun, hfinal, -, -, -⟩
  have hshort := short_of_applyAll hrun
  obtain ⟨rest, hrun', hcounts, -⟩ := sampleJcfg_framed.applyAll hshort
  cases hrun.symm.trans hrun'
  have hends := hfinal.ends
  rw [occurrences_end_framed] at hends
  have hclean := hcounts.mp (by omega) (sampleRequest "# END NAT AUTO") List.mem_cons_self
  exact absurd (by decide +kernel) ((isMarker_end.mentions_iff _).mpr hclean)

end CameraStack.Jcfg
