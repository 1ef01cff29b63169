/-
# The RTP firewall

The gateway keeps one ACCEPT rule per remote node and port in its INPUT chain and a
DROP over the whole remote RTP range below them.  Every rule carries a tag in its
comment.  A reconcile compares the tags it wants with the tags it finds, inserts what
is missing at the top and deletes what is stale; it never looks at the rest of a rule
or at its position.

Here is what that comes to for the tagged rules, if the tags are found as they are.
What a packet meets is decided by the rules in their order, so whether a reconcile is
exact depends on what the earlier ones left behind: `KeptInPlace` says which rules are
good enough, and `exact_reconciled_iff` that no others are.
-/

import Std.Data.String.ToInt
import CameraStack.Topology.Binder

namespace CameraStack.Topology

open CameraStack.Lib

/-! ## Rules and packets -/

/-- What a rule does with a packet it matches. -/
inductive Target
  | accept | drop
  deriving DecidableEq, Repr

/-- The match of a UDP rule and its target. -/
structure RuleSpec where
  source : Option String
  portLow : ℤ
  portHigh : ℤ
  target : Target
  deriving DecidableEq

/-- The part of the comment behind `camnode:`. -/
inductive Tag
  | stream (bindingId : String) (port : ℤ)
  | backstop
  deriving DecidableEq

/-- The text of a tag. -/
def Tag.text : Tag → String
  | .stream bindingId port => bindingId ++ ":" ++ toString port
  | .backstop => "backstop"

/-- A tagged rule. -/
structure Rule where
  spec : RuleSpec
  tag : Tag
  deriving DecidableEq

/-- A UDP packet, by its source address and its destination port. -/
structure Packet where
  source : String
  dport : ℤ
  source_ne : source ≠ ""

/-- The rule applies to the packet. -/
def RuleSpec.applies (spec : RuleSpec) (p : Packet) : Bool :=
  (spec.source = none ∨ spec.source = some p.source) ∧ spec.portLow ≤ p.dport ∧
    p.dport ≤ spec.portHigh

/-- First match among the tagged rules. -/
def verdict (rules : List Rule) (p : Packet) : Option Target :=
  (rules.find? fun r => r.spec.applies p).map fun r => r.spec.target

/-! ## Desired rules -/

/-- `REMOTE_RTP_RANGE`: the windows of sixteen nodes. -/
def remoteRtpLow : ℤ := TopologyState.remotePortMin

@[inherit_doc remoteRtpLow]
def remoteRtpHigh : ℤ := TopologyState.remotePortMin + 16 * TopologyState.nodePortWindow - 1

/-- The ACCEPT of one host on one port. -/
def acceptRule (host bindingId : String) (port : ℤ) : Rule where
  spec := { source := some host, portLow := port, portHigh := port, target := .accept }
  tag := .stream bindingId port

/-- The DROP over the remote range. -/
def backstopRule : Rule where
  spec := { source := none, portLow := remoteRtpLow, portHigh := remoteRtpHigh, target := .drop }
  tag := .backstop

/-- `list_bindings`: the local projections, each replaced by the stored row of its
key if there is one, then the other stored rows. -/
def Stores.listBindings (s : Stores) : List (String × StreamBinding) :=
  (s.alloc.toList.map fun entry =>
    (entry.1, s.topology.bindings[entry.1]?.getD (projectLocal entry.1 entry.2))) ++
  s.topology.bindings.toList.filter fun entry => entry.1 ∉ s.alloc

/-- The rules of one binding: RTP and RTCP, for remote producers with a known host. -/
def Stores.acceptRules (s : Stores) (b : StreamBinding) : List Rule :=
  if b.mode ≠ .remoteProducer then []
  else
    match s.topology.getNode b.nodeId with
    | none => []
    | some node =>
        if node.host = "" then []
        else
          [acceptRule node.host b.bindingId b.transport.rtpPort,
            acceptRule node.host b.bindingId (b.transport.rtpPort + 1)]

/-- `desired_rules`. -/
def Stores.desiredRules (s : Stores) : List Rule :=
  (s.listBindings.flatMap fun entry => s.acceptRules entry.2) ++ [backstopRule]

/-- One step of building the dictionary from tags to rules: a later rule takes the
place of an earlier one with its tag. -/
def wantInsert (want : List Rule) (r : Rule) : List Rule :=
  if r.tag ∈ want.map Rule.tag then want.map fun old => if old.tag = r.tag then r else old
  else want ++ [r]

/-- The items of the dictionary `want`. -/
def wantItems (rules : List Rule) : List Rule := rules.foldl wantInsert []

/-! ## The reconcile -/

/-- The wanted rules whose tags are missing. -/
def missing (s : Stores) (rules : List Rule) : List Rule :=
  (wantItems s.desiredRules).filter fun r => r.tag ∉ rules.map Rule.tag

/-- What a reconcile is to make of the tagged rules: the missing ACCEPTs on top, the backstop
if it is missing, and below it what is there under a wanted tag. -/
def reconciled (s : Stores) (rules : List Rule) : List Rule :=
  ((missing s rules).filter fun r => r.tag ≠ .backstop).reverse ++
    ((missing s rules).filter fun r => r.tag = .backstop).reverse ++
      rules.filter fun r => r.tag ∈ (wantItems s.desiredRules).map Rule.tag

/-! ## Tags -/

/-- The text of a port consists of digits and a sign. -/
theorem not_mem_toString {c : Char} (hdigit : c.isDigit = false) (hsign : c ≠ '-') (port : ℤ) :
    c ∉ (toString port).toList := by
  intro hmem
  rcases mem_toString_int hmem with hc | hc
  · rw [hdigit] at hc
    cases hc
  · exact hsign hc

theorem colon_not_mem_toString (port : ℤ) : ':' ∉ (toString port).toList :=
  not_mem_toString (by decide) (by decide) port

/-! ## The dictionary of wanted rules -/

/-- No two rules of the list share a tag unless they are equal. -/
def TagsFunctional (rules : List Rule) : Prop :=
  ∀ r ∈ rules, ∀ r' ∈ rules, r.tag = r'.tag → r = r'

theorem tags_wantInsert_nodup {want : List Rule} (h : (want.map Rule.tag).Nodup) (r : Rule) :
    ((wantInsert want r).map Rule.tag).Nodup := by
  unfold wantInsert
  split
  · have htags : (want.map fun old => if old.tag = r.tag then r else old).map Rule.tag =
        want.map Rule.tag := by
      rw [List.map_map]
      apply List.map_congr_left
      intro old _
      by_cases heq : old.tag = r.tag
      · simp [heq]
      · simp [heq]
    rw [htags]
    exact h
  · next hnew =>
      rw [List.map_append, List.nodup_append]
      refine ⟨h, by simp, ?_⟩
      rintro tag htag _ hr rfl
      simp only [List.map_cons, List.map_nil, List.mem_singleton] at hr
      exact hnew (hr ▸ htag)

/-- The keys of the dictionary are distinct. -/
theorem tags_wantItems_nodup (rules : List Rule) : ((wantItems rules).map Rule.tag).Nodup := by
  suffices loop : ∀ (rules want : List Rule), (want.map Rule.tag).Nodup →
      ((rules.foldl wantInsert want).map Rule.tag).Nodup from loop rules [] (by simp)
  intro rules
  induction rules with
  | nil => exact fun want h => h
  | cons r rules ih => exact fun want h => ih _ (tags_wantInsert_nodup h r)

/-- When tags determine the rules, the dictionary holds exactly the rules. -/
theorem mem_wantItems {rules : List Rule} (h : TagsFunctional rules) (x : Rule) :
    x ∈ wantItems rules ↔ x ∈ rules := by
  suffices loop : ∀ (rules want : List Rule), TagsFunctional (want ++ rules) →
      ∀ x, x ∈ rules.foldl wantInsert want ↔ x ∈ want ++ rules from loop rules [] h x
  intro rules
  induction rules with
  | nil => simp
  | cons r rules ih =>
      intro want hfun x
      have hsame : ∀ y, y ∈ wantInsert want r ↔ y ∈ want ++ [r] := by
        intro y
        unfold wantInsert
        split
        · next hold =>
            rcases List.mem_map.mp hold with ⟨old, hmem, htag⟩
            have hr : old = r := hfun old (by simp [hmem]) r (by simp) htag
            have hid : (want.map fun old => if old.tag = r.tag then r else old) = want := by
              nth_rewrite 2 [← List.map_id want]
              apply List.map_congr_left
              intro z hz
              by_cases heq : z.tag = r.tag
              · rw [if_pos heq]
                exact (hfun z (by simp [hz]) r (by simp) heq).symm
              · rw [if_neg heq]
                rfl
            rw [hid, List.mem_append, List.mem_singleton]
            constructor
            · exact Or.inl
            · rintro (hy | rfl)
              · exact hy
              · exact hr ▸ hmem
        · rfl
      have hfun' : TagsFunctional (wantInsert want r ++ rules) := by
        intro a ha b hb
        apply hfun
        · simpa [hsame, or_assoc] using ha
        · simpa [hsame, or_assoc] using hb
      rw [List.foldl_cons, ih _ hfun' x]
      simp [hsame, or_assoc]

/-! ## What a packet meets -/

/-- A rule as a reconcile writes it. -/
def Rule.Shaped (r : Rule) : Prop :=
  r = backstopRule ∨ ∃ host bindingId port, host ≠ "" ∧ r = acceptRule host bindingId port

/-- A packet of the remote range. -/
def Packet.Remote (p : Packet) : Prop := remoteRtpLow ≤ p.dport ∧ p.dport ≤ remoteRtpHigh

theorem applies_acceptRule {host bindingId : String} {port : ℤ} {p : Packet} :
    (acceptRule host bindingId port).spec.applies p = true ↔ p.source = host ∧ p.dport = port := by
  simp only [RuleSpec.applies, acceptRule, reduceCtorEq, false_or, Option.some.injEq,
    decide_eq_true_eq]
  constructor
  · rintro ⟨rfl, hlow, hhigh⟩
    exact ⟨rfl, le_antisymm hhigh hlow⟩
  · rintro ⟨rfl, rfl⟩
    exact ⟨rfl, le_rfl, le_rfl⟩

theorem applies_backstopRule {p : Packet} (h : p.Remote) :
    backstopRule.spec.applies p = true := by
  simpa [RuleSpec.applies, backstopRule, Packet.Remote] using h

/-- A shaped rule that is not the backstop accepts. -/
theorem Rule.Shaped.target {r : Rule} (h : r.Shaped) (hne : r ≠ backstopRule) :
    r.spec.target = .accept := by
  rcases h with rfl | ⟨host, bindingId, port, -, rfl⟩
  · exact absurd rfl hne
  · rfl

section Verdict

variable {rules : List Rule} {p : Packet}

/-- A packet of the range is accepted exactly when an ACCEPT that applies to it stands
above every backstop. -/
theorem verdict_eq_accept (hshaped : ∀ r ∈ rules, r.Shaped) (hp : p.Remote) :
    verdict rules p = some .accept ↔
      ∃ above r below, rules = above ++ r :: below ∧ r.spec.target = .accept ∧
        r.spec.applies p = true ∧ backstopRule ∉ above := by
  constructor
  · intro h
    rcases Option.map_eq_some_iff.mp h with ⟨r, hfind, htarget⟩
    obtain ⟨happlies, above, below, rfl, habove⟩ := List.find?_eq_some_iff_append.mp hfind
    refine ⟨above, r, below, rfl, htarget, happlies, ?_⟩
    intro hback
    have hskip := habove backstopRule hback
    simp [applies_backstopRule hp] at hskip
  · rintro ⟨above, r, below, rfl, htarget, happlies, hback⟩
    have hsome : ((above ++ r :: below).find? fun x => x.spec.applies p).isSome := by
      rw [List.find?_isSome]
      exact ⟨r, by simp, happlies⟩
    rcases Option.isSome_iff_exists.mp hsome with ⟨first, hfirst⟩
    have hmem := List.mem_of_find?_eq_some hfirst
    suffices haccept : first.spec.target = .accept by
      rw [verdict, hfirst, Option.map_some, haccept]
    -- the first rule that applies is `r` itself or one of those above it
    rw [List.find?_append, Option.or_eq_some_iff] at hfirst
    rcases hfirst with hfirst | ⟨-, hfirst⟩
    · have habove := List.mem_of_find?_eq_some hfirst
      apply (hshaped first hmem).target
      rintro rfl
      exact hback habove
    · simp only [List.find?_cons, happlies] at hfirst
      cases hfirst
      exact htarget

/-- Below a backstop nothing is undecided. -/
theorem verdict_eq_drop (hback : backstopRule ∈ rules) (hp : p.Remote) :
    verdict rules p = some .drop ↔ verdict rules p ≠ some .accept := by
  have hsome : (rules.find? fun x => x.spec.applies p).isSome := by
    rw [List.find?_isSome]
    exact ⟨backstopRule, hback, applies_backstopRule hp⟩
  rcases Option.isSome_iff_exists.mp hsome with ⟨first, hfirst⟩
  rw [verdict, hfirst, Option.map_some]
  cases first.spec.target <;> simp

end Verdict

/-! ## Who may send -/

/-- The source is the current host of the node that owns a remote binding on the
destination port. -/
def Owned (s : Stores) (p : Packet) : Prop :=
  ∃ entry ∈ s.listBindings, entry.2.mode = .remoteProducer ∧
    (p.dport = entry.2.transport.rtpPort ∨ p.dport = entry.2.transport.rtpPort + 1) ∧
    ∃ node, s.topology.getNode entry.2.nodeId = some node ∧ p.source = node.host

/-- The merged view has every stored row. -/
theorem Stores.mem_listBindings {s : Stores} {key : String} {b : StreamBinding}
    (h : s.topology.bindings[key]? = some b) : (key, b) ∈ s.listBindings := by
  rw [listBindings, List.mem_append]
  by_cases hkey : key ∈ s.alloc
  · left
    obtain ⟨a, ha⟩ := Option.isSome_iff_exists.mp
      (Std.ExtTreeMap.mem_iff_isSome_getElem?.mp hkey)
    refine List.mem_map.mpr ⟨(key, a), Std.ExtTreeMap.mem_toList_iff_getElem?_eq_some.mpr ha, ?_⟩
    simp only [h, Option.getD_some]
  · right
    exact List.mem_filter.mpr
      ⟨Std.ExtTreeMap.mem_toList_iff_getElem?_eq_some.mpr h, decide_eq_true hkey⟩

/-- The remote bindings of the merged view are the stored rows. -/
theorem Stores.remote_mem_listBindings {s : Stores} {key : String} {b : StreamBinding}
    (hmode : b.mode = .remoteProducer) :
    (key, b) ∈ s.listBindings → s.topology.bindings[key]? = some b := by
  intro h
  simp only [listBindings, List.mem_append, List.mem_map, List.mem_filter] at h
  rcases h with ⟨⟨k, a⟩, -, heq⟩ | ⟨hmem, -⟩
  · simp only [Prod.mk.injEq] at heq
    rcases heq with ⟨rfl, hb⟩
    cases hrow : s.topology.bindings[k]? with
    | none =>
        rw [hrow, Option.getD_none] at hb
        subst hb
        cases hmode
    | some row =>
        rw [hrow, Option.getD_some] at hb
        rw [hb]
  · exact Std.ExtTreeMap.mem_toList_iff_getElem?_eq_some.mp hmem

/-- The desired rules: the backstop, and an ACCEPT for each port of each remote
binding whose node has a host. -/
theorem Stores.mem_desiredRules {s : Stores} {r : Rule} :
    r ∈ s.desiredRules ↔ r = backstopRule ∨
      ∃ entry ∈ s.listBindings, entry.2.mode = .remoteProducer ∧
        ∃ node port, s.topology.getNode entry.2.nodeId = some node ∧ node.host ≠ "" ∧
          (port = entry.2.transport.rtpPort ∨ port = entry.2.transport.rtpPort + 1) ∧
          r = acceptRule node.host entry.2.bindingId port := by
  have hrules : ∀ b : StreamBinding, r ∈ s.acceptRules b ↔ b.mode = .remoteProducer ∧
      ∃ node port, s.topology.getNode b.nodeId = some node ∧ node.host ≠ "" ∧
        (port = b.transport.rtpPort ∨ port = b.transport.rtpPort + 1) ∧
        r = acceptRule node.host b.bindingId port := by
    intro b
    unfold acceptRules
    by_cases hmode : b.mode = .remoteProducer
    · cases hnode : s.topology.getNode b.nodeId with
      | none => simp [hmode]
      | some node =>
          by_cases hhost : node.host = ""
          · simp [hmode, hhost]
          · simp [hmode, hhost]
    · simp [hmode]
  simp only [desiredRules, List.mem_append, List.mem_flatMap, List.mem_singleton, hrules]
  rw [or_comm]

theorem Stores.shaped_of_mem_desiredRules {s : Stores} {r : Rule} (h : r ∈ s.desiredRules) :
    r.Shaped := by
  rcases mem_desiredRules.mp h with rfl | ⟨entry, -, -, node, port, -, hhost, -, rfl⟩
  · exact Or.inl rfl
  · exact Or.inr ⟨node.host, entry.2.bindingId, port, hhost, rfl⟩

theorem Stores.backstop_mem_desiredRules (s : Stores) : backstopRule ∈ s.desiredRules :=
  mem_desiredRules.mpr (Or.inl rfl)

/-- Bindings have disjoint ports, so a port determines its ACCEPT. -/
theorem Stores.Sound.accept_unique {s : Stores} (h : s.Sound) {host host' bid bid' : String}
    {port : ℤ} (hr : acceptRule host bid port ∈ s.desiredRules)
    (hr' : acceptRule host' bid' port ∈ s.desiredRules) :
    host = host' ∧ bid = bid' := by
  have inv : ∀ {host bid : String}, acceptRule host bid port ∈ s.desiredRules →
      ∃ (key : String) (b : StreamBinding) (node : NodeEntry),
        s.topology.bindings[key]? = some b ∧ b.bindingId = bid ∧
        s.topology.getNode b.nodeId = some node ∧ node.host = host ∧ port ∈ b.slot.ports := by
    intro host bid hmem
    rcases mem_desiredRules.mp hmem with heq | ⟨entry, hentry, hmode, node, q, hnode, -, hq, heq⟩
    · cases heq
    · simp only [acceptRule, Rule.mk.injEq, RuleSpec.mk.injEq, Option.some.injEq,
        Tag.stream.injEq] at heq
      refine ⟨entry.1, entry.2, node, remote_mem_listBindings hmode hentry, heq.2.1.symm, hnode,
        heq.1.1.symm, ?_⟩
      simp only [Slot.ports, StreamBinding.slot, Finset.mem_insert, Finset.mem_singleton]
      rw [heq.2.2]
      exact hq
  obtain ⟨key, b, node, hb, rfl, hnode, rfl, hport⟩ := inv hr
  obtain ⟨key', b', node', hb', rfl, hnode', rfl, hport'⟩ := inv hr'
  have hkey : key = key' := by
    by_contra hne
    have hdisjoint := (h.bindings.apart key key' b b' hne hb hb').2
    exact Finset.disjoint_left.mp hdisjoint hport hport'
  subst hkey
  obtain rfl : b = b' := Option.some.inj (hb.symm.trans hb')
  obtain rfl : node = node' := Option.some.inj (hnode.symm.trans hnode')
  exact ⟨rfl, rfl⟩

/-- Tags determine the desired rules. -/
theorem Stores.Sound.tagsFunctional {s : Stores} (h : s.Sound) :
    TagsFunctional s.desiredRules := by
  intro r hr r' hr' htag
  rcases shaped_of_mem_desiredRules hr with rfl | ⟨host, bid, port, -, rfl⟩
  · rcases shaped_of_mem_desiredRules hr' with rfl | ⟨host', bid', port', -, rfl⟩
    · rfl
    · cases htag
  · rcases shaped_of_mem_desiredRules hr' with rfl | ⟨host', bid', port', -, rfl⟩
    · cases htag
    · cases htag
      obtain ⟨rfl, -⟩ := h.accept_unique hr hr'
      rfl

/-- The owner of a port is the source of a desired ACCEPT. -/
theorem owned_iff {s : Stores} {p : Packet} :
    Owned s p ↔ ∃ bid, acceptRule p.source bid p.dport ∈ s.desiredRules := by
  constructor
  · rintro ⟨entry, hentry, hmode, hport, node, hnode, hsource⟩
    have hhost : node.host ≠ "" := by
      rw [← hsource]
      exact p.source_ne
    exact ⟨entry.2.bindingId, Stores.mem_desiredRules.mpr (Or.inr
      ⟨entry, hentry, hmode, node, p.dport, hnode, hhost, hport, by rw [hsource]⟩)⟩
  · rintro ⟨bid, hmem⟩
    rcases Stores.mem_desiredRules.mp hmem with
      heq | ⟨entry, hentry, hmode, node, port, hnode, -, hport, heq⟩
    · cases heq
    · simp only [acceptRule, Rule.mk.injEq, RuleSpec.mk.injEq, Option.some.injEq,
        Tag.stream.injEq] at heq
      rcases heq with ⟨⟨hsource, hdport, -, -⟩, -, -⟩
      exact ⟨entry, hentry, hmode, hdport ▸ hport, node, hnode, hsource⟩

/-! ## Rules of earlier reconciles -/

/-- Rules as reconciles write them, one under each tag. -/
structure Tidy (rules : List Rule) : Prop where
  shaped : ∀ r ∈ rules, r.Shaped
  nodup : (rules.map Rule.tag).Nodup

namespace Tidy

variable {rules : List Rule}

theorem sublist (h : Tidy rules) {rules' : List Rule} (hsub : rules'.Sublist rules) :
    Tidy rules' where
  shaped r hr := h.shaped r (hsub.subset hr)
  nodup := h.nodup.sublist (hsub.map Rule.tag)

theorem eq_of_tag (h : Tidy rules) {r r' : Rule} (hr : r ∈ rules) (hr' : r' ∈ rules)
    (htag : r.tag = r'.tag) : r = r' :=
  List.inj_on_of_nodup_map h.nodup hr hr' htag

end Tidy

section Reconcile

variable {s : Stores} {rules : List Rule}

/-- The missing rules are desired ones. -/
theorem Stores.Sound.mem_missing (h : s.Sound) {r : Rule} :
    r ∈ missing s rules ↔
      r ∈ s.desiredRules ∧ r.tag ∉ rules.map Rule.tag := by
  simp only [missing, List.mem_filter, mem_wantItems h.tagsFunctional, decide_eq_true_eq]

theorem Stores.Sound.mem_wantTags (h : s.Sound) {tag : Tag} :
    tag ∈ (wantItems s.desiredRules).map Rule.tag ↔ ∃ r ∈ s.desiredRules, r.tag = tag := by
  simp only [List.mem_map, mem_wantItems h.tagsFunctional]

/-- A reconcile leaves tidy rules tidy. -/
theorem Tidy.reconcile (hsound : s.Sound) (htidy : Tidy rules) :
    Tidy (reconciled s rules) where
  shaped := by
    intro r hr
    simp only [reconciled, List.mem_append, List.mem_reverse, List.mem_filter] at hr
    rcases hr with (⟨hadd, -⟩ | ⟨hadd, -⟩) | ⟨hkept, -⟩
    · exact Stores.shaped_of_mem_desiredRules (hsound.mem_missing.mp hadd).1
    · exact Stores.shaped_of_mem_desiredRules (hsound.mem_missing.mp hadd).1
    · exact htidy.shaped r hkept
  nodup := by
    have hadd : ((missing s rules).map Rule.tag).Nodup :=
      (tags_wantItems_nodup s.desiredRules).sublist (List.filter_sublist.map Rule.tag)
    rw [reconciled, List.map_append, List.nodup_append, List.map_append, List.nodup_append]
    refine ⟨⟨?_, ?_, ?_⟩, htidy.nodup.sublist (List.filter_sublist.map Rule.tag), ?_⟩
    · rw [List.map_reverse, List.nodup_reverse]
      exact hadd.sublist (List.filter_sublist.map Rule.tag)
    · rw [List.map_reverse, List.nodup_reverse]
      exact hadd.sublist (List.filter_sublist.map Rule.tag)
    · rintro tag haccept _ hback rfl
      simp only [List.mem_map, List.mem_reverse, List.mem_filter, decide_eq_true_eq]
        at haccept hback
      rcases haccept with ⟨r, ⟨-, hne⟩, rfl⟩
      rcases hback with ⟨r', ⟨-, heq⟩, htag⟩
      exact hne (htag ▸ heq)
    · rintro tag hnew _ hkept rfl
      have hpresent : tag ∈ rules.map Rule.tag :=
        (List.filter_sublist.map Rule.tag).subset hkept
      simp only [List.mem_append, List.mem_map, List.mem_reverse, List.mem_filter] at hnew
      rcases hnew with ⟨r, ⟨hr, -⟩, rfl⟩ | ⟨r, ⟨hr, -⟩, rfl⟩
      · exact (hsound.mem_missing.mp hr).2 hpresent
      · exact (hsound.mem_missing.mp hr).2 hpresent

end Reconcile

/-! ## Exactness -/

/-- Among the packets of the range the rules accept those of the owners and drop the
others. -/
def Exact (s : Stores) (rules : List Rule) : Prop :=
  ∀ p : Packet, p.Remote →
    (verdict rules p = some .accept ↔ Owned s p) ∧ (verdict rules p = some .drop ↔ ¬ Owned s p)

/-- An ACCEPT on a port of the range. -/
def Rule.RemoteAccept (r : Rule) : Prop :=
  r.spec.target = .accept ∧ remoteRtpLow ≤ r.spec.portLow ∧ r.spec.portHigh ≤ remoteRtpHigh

instance : DecidablePred Rule.RemoteAccept := fun _ =>
  inferInstanceAs (Decidable (_ ∧ _ ∧ _))

/-- Every desired ACCEPT whose tag is already there is there as desired, and the backstop
below it. -/
def KeptInPlace (s : Stores) (rules : List Rule) : Prop :=
  ∀ r ∈ s.desiredRules, r.RemoteAccept → r.tag ∈ rules.map Rule.tag →
    ∃ above below, rules = above ++ r :: below ∧ backstopRule ∈ below

section Exactness

variable {s : Stores} {rules : List Rule}

/-- A backstop that is there is wanted, so it stays. -/
theorem Stores.Sound.backstop_mem_reconciled (hsound : s.Sound) (htidy : Tidy rules) :
    backstopRule ∈ reconciled s rules := by
  simp only [reconciled, List.mem_append, List.mem_reverse, List.mem_filter]
  by_cases hpresent : Tag.backstop ∈ rules.map Rule.tag
  · right
    rcases List.mem_map.mp hpresent with ⟨r, hr, htag⟩
    rcases htidy.shaped r hr with rfl | ⟨host, bid, port, -, rfl⟩
    · exact ⟨hr, by simpa using hsound.mem_wantTags.mpr ⟨_, s.backstop_mem_desiredRules, rfl⟩⟩
    · cases htag
  · left
    right
    exact ⟨hsound.mem_missing.mpr ⟨s.backstop_mem_desiredRules, hpresent⟩, by decide⟩

/-- A kept ACCEPT carries the tag of a desired one on its port. -/
theorem Stores.Sound.desired_of_kept (hsound : s.Sound) {host bid : String} {port : ℤ}
    (h : (acceptRule host bid port).tag ∈ (wantItems s.desiredRules).map Rule.tag) :
    ∃ host', acceptRule host' bid port ∈ s.desiredRules := by
  rcases hsound.mem_wantTags.mp h with ⟨r, hr, htag⟩
  rcases shaped_of_mem_desiredRules hr with rfl | ⟨host', bid', port', -, rfl⟩
  · cases htag
  · cases htag
    exact ⟨host', hr⟩

/-- An ACCEPT of the range that applies names the packet's source and port. -/
theorem Rule.Shaped.of_applies {r : Rule} (h : r.Shaped) (htarget : r.spec.target = .accept)
    {p : Packet} (happlies : r.spec.applies p = true) :
    ∃ bid, r = acceptRule p.source bid p.dport := by
  rcases h with rfl | ⟨host, bid, port, -, rfl⟩
  · cases htarget
  · rcases applies_acceptRule.mp happlies with ⟨rfl, rfl⟩
    exact ⟨bid, rfl⟩

/-- With the backstop in place only the accepted packets have to be compared. -/
theorem exact_iff {rules : List Rule} (hback : backstopRule ∈ rules) :
    Exact s rules ↔ ∀ p : Packet, p.Remote → (verdict rules p = some .accept ↔ Owned s p) := by
  constructor
  · exact fun h p hp => (h p hp).1
  · intro h p hp
    exact ⟨h p hp, (verdict_eq_drop hback hp).trans (not_congr (h p hp))⟩

/-- A reconcile of rules of which the kept ones are in place accepts nobody else. -/
theorem KeptInPlace.owned (hkept : KeptInPlace s rules) (hsound : s.Sound)
    (htidy : Tidy rules) {p : Packet} (hp : p.Remote) {bid : String}
    (hmem : acceptRule p.source bid p.dport ∈ reconciled s rules) : Owned s p := by
  apply owned_iff.mpr
  simp only [reconciled, List.mem_append, List.mem_reverse, List.mem_filter,
    decide_eq_true_eq] at hmem
  rcases hmem with (⟨hadd, -⟩ | ⟨-, htag⟩) | ⟨hold, hwant⟩
  · exact ⟨bid, (hsound.mem_missing.mp hadd).1⟩
  · cases htag
  · rcases hsound.desired_of_kept hwant with ⟨host, hdesired⟩
    -- the rule found under the tag is the desired one, as there is no other
    obtain ⟨above, below, hsplit, -⟩ :=
      hkept _ hdesired ⟨rfl, hp⟩ (List.mem_map.mpr ⟨_, hold, rfl⟩)
    have hsame : acceptRule p.source bid p.dport = acceptRule host bid p.dport :=
      htidy.eq_of_tag hold (by rw [hsplit]; simp) rfl
    exact ⟨bid, hsame ▸ hdesired⟩

/-- A reconcile of rules of which the kept ones are in place accepts every owner. -/
theorem KeptInPlace.accepted (hkept : KeptInPlace s rules) (hsound : s.Sound)
    (htidy : Tidy rules) {p : Packet} (hp : p.Remote) (howned : Owned s p) :
    verdict (reconciled s rules) p = some .accept := by
  rcases owned_iff.mp howned with ⟨bid, hdesired⟩
  rw [verdict_eq_accept (htidy.reconcile hsound).shaped hp, reconciled]
  set r := acceptRule p.source bid p.dport with hr
  have happlies : r.spec.applies p = true := applies_acceptRule.mpr ⟨rfl, rfl⟩
  have hnew : ∀ x ∈ ((missing s rules).filter
      fun r => r.tag ≠ .backstop).reverse, x ≠ backstopRule := by
    rintro x hx rfl
    simp [backstopRule] at hx
  by_cases hpresent : r.tag ∈ rules.map Rule.tag
  · obtain ⟨above, below, hsplit, hback⟩ := hkept r hdesired ⟨rfl, hp⟩ hpresent
    have hbackTag : Tag.backstop ∈ rules.map Rule.tag :=
      List.mem_map.mpr ⟨backstopRule, by rw [hsplit]; simp [hback], rfl⟩
    have hnoBack : ((missing s rules).filter
        fun r => r.tag = .backstop) = [] := by
      rw [List.filter_eq_nil_iff]
      intro x hx htag
      exact (hsound.mem_missing.mp hx).2 ((decide_eq_true_eq.mp htag) ▸ hbackTag)
    have hwant : r.tag ∈ (wantItems s.desiredRules).map Rule.tag :=
      hsound.mem_wantTags.mpr ⟨r, hdesired, rfl⟩
    have hfilter : (rules.filter fun x => x.tag ∈ (wantItems s.desiredRules).map Rule.tag) =
        (above.filter fun x => x.tag ∈ (wantItems s.desiredRules).map Rule.tag) ++
          r :: below.filter fun x => x.tag ∈ (wantItems s.desiredRules).map Rule.tag := by
      rw [hsplit, List.filter_append, List.filter_cons_of_pos (by simpa using hwant)]
    rw [hnoBack, hfilter, List.reverse_nil, List.append_nil, ← List.append_assoc]
    refine ⟨_, r, _, rfl, rfl, happlies, ?_⟩
    intro habove
    rcases List.mem_append.mp habove with hadd | hold
    · exact hnew _ hadd rfl
    · have hnodup := htidy.nodup
      rw [hsplit, List.map_append, List.map_cons, List.nodup_append] at hnodup
      exact hnodup.2.2 _ (List.mem_map_of_mem (List.mem_of_mem_filter hold)) _
        (List.mem_cons_of_mem _ (List.mem_map_of_mem hback)) rfl
  · have hadd : r ∈ ((missing s rules).filter
        fun r => r.tag ≠ .backstop).reverse := by
      simp only [List.mem_reverse, List.mem_filter, hsound.mem_missing]
      exact ⟨⟨hdesired, hpresent⟩, by simp [hr, acceptRule]⟩
    obtain ⟨above, below, hsplit⟩ := List.append_of_mem hadd
    rw [hsplit] at hnew ⊢
    rw [List.append_assoc, List.append_assoc, List.cons_append]
    exact ⟨above, r, _, rfl, rfl, happlies, fun hback => hnew _ (by simp [hback]) rfl⟩

/-- Where the reconcile is exact, the kept rules were in place. -/
theorem keptInPlace_of_exact (hsound : s.Sound) (htidy : Tidy rules)
    (hexact : Exact s (reconciled s rules)) : KeptInPlace s rules := by
  intro r hdesired hremote hpresent
  rcases Stores.shaped_of_mem_desiredRules hdesired with rfl | ⟨host, bid, port, hhost, rfl⟩
  · cases hremote.1
  let p : Packet := ⟨host, port, hhost⟩
  have hp : p.Remote := hremote.2
  have haccept := (hexact p hp).1.mpr (owned_iff.mpr ⟨bid, hdesired⟩)
  rw [verdict_eq_accept (htidy.reconcile hsound).shaped hp] at haccept
  obtain ⟨above, r, below, hsplit, htarget, happlies, hnotAbove⟩ := haccept
  have hmem : r ∈ reconciled s rules := by
    rw [hsplit]
    simp
  obtain ⟨bid', rfl⟩ := ((htidy.reconcile hsound).shaped r hmem).of_applies htarget happlies
  change reconciled s rules = above ++ acceptRule host bid' port :: below at hsplit
  -- bindings share no port, so the rule that lets the packet in is the desired one
  have hwant : ∃ host', acceptRule host' bid' port ∈ s.desiredRules := by
    simp only [reconciled, List.mem_append, List.mem_reverse, List.mem_filter,
      decide_eq_true_eq] at hmem
    rcases hmem with (⟨hadd, -⟩ | ⟨-, htag⟩) | ⟨-, hwant⟩
    · exact ⟨_, (hsound.mem_missing.mp hadd).1⟩
    · cases htag
    · exact hsound.desired_of_kept hwant
  obtain ⟨host', hdesired'⟩ := hwant
  obtain ⟨-, rfl⟩ := hsound.accept_unique hdesired hdesired'
  rw [reconciled] at hsplit
  set new := ((missing s rules).filter fun r => r.tag ≠ .backstop).reverse ++
    ((missing s rules).filter fun r => r.tag = .backstop).reverse with hnew
  have hnotNew : acceptRule host bid port ∉ new := by
    intro hin
    simp only [hnew, List.mem_append, List.mem_reverse, List.mem_filter] at hin
    rcases hin with ⟨hadd, -⟩ | ⟨hadd, -⟩
    · exact (hsound.mem_missing.mp hadd).2 hpresent
    · exact (hsound.mem_missing.mp hadd).2 hpresent
  obtain ⟨kept, rfl, hkept⟩ : ∃ kept, above = new ++ kept ∧
      (rules.filter fun r => r.tag ∈ (wantItems s.desiredRules).map Rule.tag) =
        kept ++ acceptRule host bid port :: below := by
    rcases List.append_eq_append_iff.mp hsplit with ⟨kept, habove, hrest⟩ | ⟨mid, hmid, hrest⟩
    · exact ⟨kept, habove, hrest⟩
    · cases mid with
      | nil => exact ⟨[], by simpa using hmid.symm, by simpa using hrest.symm⟩
      | cons x mid =>
          simp only [List.cons_append, List.cons.injEq] at hrest
          exact absurd (by rw [hmid, hrest.1]; simp) hnotNew
  have hbelow : backstopRule ∈ below := by
    have hback := hsound.backstop_mem_reconciled htidy
    rw [reconciled, ← hnew, hkept, ← List.append_assoc, List.mem_append] at hback
    rcases hback with habove | hrest
    · exact absurd habove hnotAbove
    · rcases List.mem_cons.mp hrest with heq | hbelow
      · cases heq
      · exact hbelow
  obtain ⟨l₁, l₂, htable, -, hl₂⟩ := List.filter_eq_append_iff.mp hkept
  obtain ⟨l₃, l₄, rfl, -, -, hl₄⟩ := List.filter_eq_cons_iff.mp hl₂
  refine ⟨l₁ ++ l₃, l₄, by rw [htable, List.append_assoc], ?_⟩
  rw [← hl₄] at hbelow
  exact List.mem_of_mem_filter hbelow

/-- A reconcile of tidy rules is exact precisely when the desired ACCEPTs that it finds by their
tags are there as desired, with the backstop below them. -/
theorem exact_reconciled_iff (hsound : s.Sound) (htidy : Tidy rules) :
    Exact s (reconciled s rules) ↔ KeptInPlace s rules := by
  constructor
  · exact keptInPlace_of_exact hsound htidy
  · intro hkept
    rw [exact_iff (hsound.backstop_mem_reconciled htidy)]
    intro p hp
    constructor
    · intro haccept
      rw [verdict_eq_accept (htidy.reconcile hsound).shaped hp] at haccept
      obtain ⟨above, r, below, hsplit, htarget, happlies, -⟩ := haccept
      have hmem : r ∈ reconciled s rules := by
        rw [hsplit]
        simp
      obtain ⟨bid, rfl⟩ := ((htidy.reconcile hsound).shaped r hmem).of_applies htarget happlies
      exact hkept.owned hsound htidy hp hmem
    · exact hkept.accepted hsound htidy hp

end Exactness

/-- A remote node with one bound stream. -/
def boundCamera : List StoreOp :=
  [.upsertNode "node-a" "192.168.1.20" "remote_producer" "unknown" none none "token",
    .upsertBinding
      { bindingId := "node-a:color", nodeId := "node-a", sensor := "color"
        mode := .remoteProducer
        transport := { rtpPort := 5100 }
        janus := { mountpointId := 2000, rtpIface := "192.168.1.10" } } 1305]

end CameraStack.Topology
