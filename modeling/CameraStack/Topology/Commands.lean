/-
# The chain between the commands of a reconcile

A reconcile does not replace the chain; it issues one `iptables` command after the other,
and packets arrive in between.

New ACCEPTs go in at the top before anything is deleted.  A stream whose tag changes is
therefore accepted throughout: by the old rule until the new one is above it.  That takes the
new tag for new.  A rule with a line break in one of its words is printed on several lines, and
such a line can be read as a rule with any tag: then the new ACCEPT is taken for present, and
only the old one goes.
-/

import CameraStack.Topology.FirewallChain

namespace CameraStack.Topology

open CameraStack.Lib

/-! ## A rule that stays on top -/

/-- The rule stands in the list with nothing but ACCEPTs above it. -/
def OnTop (r : Rule) (rules : List Rule) : Prop :=
  ∃ above below, rules = above ++ r :: below ∧ ∀ x ∈ above, x.spec.target = .accept

section OnTop

variable {r : Rule} {rules : List Rule} {p : Packet}

/-- Inserting ACCEPTs keeps it there. -/
theorem OnTop.insert {x : Rule} (h : OnTop r rules) (hx : x.spec.target = .accept) :
    OnTop r (x :: rules) := by
  obtain ⟨above, below, rfl, habove⟩ := h
  exact ⟨x :: above, below, rfl, List.forall_mem_cons.mpr ⟨hx, habove⟩⟩

/-- Deleting another rule keeps it there. -/
theorem OnTop.erase {x : Rule} (h : OnTop r rules) (hne : x ≠ r) : OnTop r (rules.erase x) := by
  obtain ⟨above, below, rfl, habove⟩ := h
  by_cases hx : x ∈ above
  · refine ⟨above.erase x, below, List.erase_append_left _ hx, ?_⟩
    exact fun y hy => habove y (List.mem_of_mem_erase hy)
  · refine ⟨above, below.erase x, ?_, habove⟩
    rw [List.erase_append_right _ hx, List.erase_cons_tail (by simpa using hne.symm)]

/-- A packet that an ACCEPT on top applies to is accepted. -/
theorem OnTop.verdict (h : OnTop r rules) (htarget : r.spec.target = .accept)
    (happlies : r.spec.applies p = true) : verdict rules p = some .accept := by
  obtain ⟨above, below, rfl, habove⟩ := h
  rw [Topology.verdict]
  rw [List.find?_append]
  cases hfind : above.find? fun x => x.spec.applies p with
  | some first =>
      simp [habove first (List.mem_of_find?_eq_some hfind)]
  | none => simp [happlies, htarget]

end OnTop

/-- Erasing an entry erases its rule. -/
theorem taggedRules_erase (chain : List Entry) (e : Entry) :
    taggedRules (chain.erase e) = match e.rule with
      | none => taggedRules chain
      | some r => (taggedRules chain).erase r := by
  induction chain with
  | nil => cases e.rule <;> rfl
  | cons first chain ih =>
      by_cases heq : first = e
      · subst heq
        rw [List.erase_cons_head]
        cases hrule : Entry.rule first with
        | none =>
            simp only
            rw [taggedRules, taggedRules, List.filterMap_cons_none hrule]
        | some r =>
            simp only
            rw [taggedRules, taggedRules, List.filterMap_cons_some hrule, List.erase_cons_head]
      · rw [List.erase_cons_tail (by simpa using heq)]
        rw [taggedRules] at ih
        rw [taggedRules, taggedRules]
        cases hfirst : Entry.rule first with
        | none =>
            rw [List.filterMap_cons_none hfirst, ih, List.filterMap_cons_none hfirst]
            rfl
        | some y =>
            rw [List.filterMap_cons_some hfirst, ih, List.filterMap_cons_some hfirst]
            cases hrule : Entry.rule e with
            | none => rfl
            | some r =>
                have hne : y ≠ r := by
                  rintro rfl
                  exact heq ((rule_eq_some.mp hfirst).trans (rule_eq_some.mp hrule).symm)
                simp only
                rw [List.erase_cons_tail (by simpa using hne)]
                rfl

/-- A command that keeps a rule on top. -/
def Command.Spares (r : Rule) : Command → Prop
  | .insert e => ∃ x : Rule, e = x.listed ∧ x.spec.target = .accept
  | .delete words => words ≠ "INPUT" :: r.listed

section Running

variable {r : Rule} {chain : List Entry}

theorem OnTop.run {command : Command} (h : OnTop r (taggedRules chain))
    (hspares : command.Spares r) : OnTop r (taggedRules (command.run chain)) := by
  cases command with
  | insert e =>
      obtain ⟨x, rfl, htarget⟩ := hspares
      rw [Command.run, taggedRules, List.filterMap_cons_some (rule_listed x)]
      exact h.insert htarget
  | delete words =>
      change OnTop r (taggedRules
        (if words.head? = some "INPUT" then chain.erase words.tail else chain))
      split_ifs with hinput
      · rw [taggedRules_erase]
        cases hrule : Entry.rule words.tail with
        | none => exact h
        | some x =>
            apply h.erase
            rintro rfl
            apply hspares
            rw [← rule_eq_some.mp hrule]
            exact (List.cons_head?_tail hinput).symm
      · exact h

theorem OnTop.runCommands {commands : List Command} (h : OnTop r (taggedRules chain))
    (hspares : ∀ command ∈ commands, command.Spares r) :
    OnTop r (taggedRules (runCommands chain commands)) := by
  induction commands generalizing chain with
  | nil => exact h
  | cons command commands ih =>
      apply ih (h.run (hspares command List.mem_cons_self))
      exact fun c hc => hspares c (List.mem_cons_of_mem _ hc)

end Running

/-! ## Tags that are read -/

/-- No line of the rule is read as one with another tag. -/
def Entry.Genuine (quotes : String → Bool) (e : Entry) : Prop :=
  ∀ line ∈ splitLines (e.line quotes ++ ['\n']), isTaggedLine line = true →
    ∀ tag, tagOfLine line = some (some tag) → e.tag.map wordRead = some tag

instance (quotes : String → Bool) (e : Entry) : Decidable (e.Genuine quotes) :=
  decidable_of_iff (∀ line ∈ splitLines (e.line quotes ++ ['\n']), isTaggedLine line = true →
    ((tagOfLine line).join.all fun tag => e.tag.map wordRead = some tag) = true) (by
      unfold Entry.Genuine
      refine forall₂_congr fun line _ => forall_congr' fun _ => ?_
      cases tagOfLine line with
      | none => simp
      | some read => cases read <;> simp)

/-- Putting backslashes in front of single quotes does not touch a start without either. -/
theorem prefix_keptBackslashes {v w : List Char} (hv : ∀ c ∈ v, c ≠ '\'' ∧ c ≠ '\\') :
    v <+: keptBackslashes w ↔ v <+: w := by
  induction v generalizing w with
  | nil => simp
  | cons c v ih =>
      obtain ⟨hc, hrest⟩ := List.forall_mem_cons.mp hv
      cases w with
      | nil => simp [keptBackslashes]
      | cons d w =>
          by_cases hd : d = '\''
          · subst hd
            have hread : keptBackslashes ('\'' :: w) = '\\' :: '\'' :: keptBackslashes w := rfl
            rw [hread, List.cons_prefix_cons, List.cons_prefix_cons]
            simp [hc.1, hc.2]
          · have hread : keptBackslashes (d :: w) = d :: keptBackslashes w := by
              simp [keptBackslashes, hd]
            rw [hread, List.cons_prefix_cons, List.cons_prefix_cons, ih hrest]

/-- The tag of words that are read. -/
theorem tagOfWords_map (words : List String) :
    tagOfWords (words.map wordRead) = (tagOfWords words).map fun tag => tag.map wordRead := by
  have hcomment : ∀ w : String, (wordRead w ≠ "--comment") = (w ≠ "--comment") := fun w => by
    rw [ne_eq, ne_eq, wordRead_eq_iff (by decide)]
  have hdrop : (words.map wordRead).dropWhile (fun w => w ≠ "--comment") =
      (words.dropWhile fun w => w ≠ "--comment").map wordRead := by
    rw [List.dropWhile_map]
    simp only [Function.comp_def, hcomment]
  have hprefix : ∀ w : String, "camnode:".toList.isPrefixOf (wordRead w).toList =
      "camnode:".toList.isPrefixOf w.toList := by
    intro w
    have hkept : (wordRead w).toList = keptBackslashes w.toList := String.toList_ofList
    have hplain : ∀ c ∈ "camnode:".toList, c ≠ '\'' ∧ c ≠ '\\' := by
      have hall : "camnode:".toList.all (fun c => c ≠ '\'' ∧ c ≠ '\\') = true := by decide
      simpa only [List.all_eq_true, decide_eq_true_eq] using hall
    rw [Bool.eq_iff_iff, List.isPrefixOf_iff_prefix, List.isPrefixOf_iff_prefix, hkept]
    exact prefix_keptBackslashes hplain
  unfold tagOfWords
  rw [hdrop]
  rcases words.dropWhile fun w => w ≠ "--comment" with - | ⟨option, - | ⟨comment, rest⟩⟩
  · rfl
  · rfl
  · simp only [List.map_cons, hprefix, Option.map_some]
    split_ifs <;> rfl

/-- A rule on one line is read as it is. -/
theorem Entry.Genuine.of_oneLine {quotes : String → Bool} {e : Entry} (h : e.oneLine = true) :
    e.Genuine quotes := by
  intro line hline _ tag htag
  rw [splitLines_line (e.line_unbroken quotes h), splitLines] at hline
  obtain rfl := List.mem_singleton.mp hline
  have hskip : tagOfWords ("-A" :: "INPUT" :: e.map wordRead) = tagOfWords (e.map wordRead) := by
    unfold tagOfWords
    rw [List.dropWhile_cons_of_pos (by decide), List.dropWhile_cons_of_pos (by decide)]
  unfold tagOfLine at htag
  rw [wordsOfLine_line] at htag
  simp only [hskip, tagOfWords_map, Option.map_eq_some_iff] at htag
  obtain ⟨read, hread, hmap⟩ := htag
  rw [Entry.tag, hread]
  exact Option.map_eq_some_iff.mpr hmap

/-- What is read of the comment of a stream. -/
theorem wordRead_comment (bindingId : String) (port : ℤ) :
    wordRead (Tag.stream bindingId port).comment =
      (Tag.stream (wordRead bindingId) port).comment := by
  have hport : '\'' ∉ (":" ++ toString port).toList := by
    rw [String.toList_append, List.mem_append, not_or]
    exact ⟨by decide, not_mem_toString (by decide) (by decide) port⟩
  apply String.toList_injective
  have happend : ∀ v w : List Char,
      keptBackslashes (v ++ w) = keptBackslashes v ++ keptBackslashes w :=
    fun v w => List.flatMap_append
  have hport' := keptBackslashes_eq_self hport
  simp only [String.toList_append] at hport'
  simp only [wordRead, Tag.comment, Tag.text, String.toList_append, String.toList_ofList,
    List.append_assoc, happend]
  rw [← happend ":".toList, hport', keptBackslashes_eq_self (by decide : '\'' ∉ "camnode:".toList)]

/-- A tagged rule whose comment is read as that of a stream is an ACCEPT on its port. -/
theorem Rule.Shaped.of_wordRead {r : Rule} (h : r.Shaped) {bindingId : String} {port : ℤ}
    (hread : wordRead r.tag.comment = (Tag.stream bindingId port).comment) :
    ∃ host bindingId', r = acceptRule host bindingId' port := by
  rcases h with rfl | ⟨host, bid, port', -, rfl⟩
  · rw [wordRead_eq_self (by decide)] at hread
    cases Tag.comment_injective hread
  · change wordRead (Tag.stream bid port').comment = _ at hread
    rw [wordRead_comment] at hread
    cases Tag.comment_injective hread
    exact ⟨host, bid, rfl⟩

/-! ## No drop window -/

/-- The tagged rules are those a topology asks for, with no ACCEPT below a backstop. -/
structure SetUpFor (s : Stores) (chain : List Entry) : Prop where
  rules : ∀ e ∈ chain, e.tag ≠ none → ∃ r ∈ s.desiredRules, e = r.listed
  complete : ∀ r ∈ s.desiredRules, r.listed ∈ chain
  above : ∀ above below, taggedRules chain = above ++ backstopRule :: below →
    ∀ r ∈ below, r.spec.target ≠ .accept

section Reconciling

variable {s₁ s₂ : Stores} {quotes : String → Bool} {chain : List Entry} {r : Rule} {p : Packet}

theorem SetUpFor.mem_desiredRules (h : SetUpFor s₁ chain) (hr : r ∈ taggedRules chain) :
    r ∈ s₁.desiredRules := by
  obtain ⟨x, hx, hlisted⟩ := h.rules _ (mem_taggedRules.mp hr) (by simp [tag_listed])
  exact listed_injective hlisted ▸ hx

/-- Every ACCEPT of the chain is on top. -/
theorem SetUpFor.onTop (h : SetUpFor s₁ chain) (hr : r ∈ s₁.desiredRules)
    (htarget : r.spec.target = .accept) : OnTop r (taggedRules chain) := by
  obtain ⟨above, below, hsplit⟩ := List.append_of_mem (mem_taggedRules.mpr (h.complete r hr))
  refine ⟨above, below, hsplit, ?_⟩
  intro x hx
  have hdesired : x ∈ s₁.desiredRules := h.mem_desiredRules (by rw [hsplit]; simp [hx])
  apply (Stores.shaped_of_mem_desiredRules hdesired).target
  rintro rfl
  obtain ⟨first, rest, rfl⟩ := List.append_of_mem hx
  exact h.above first (rest ++ r :: below) (by rw [hsplit]; simp) r (by simp) htarget

/-- A tag is read of a rule that is read as having it. -/
theorem exists_of_mem_present (hgenuine : ∀ e ∈ chain, e.Genuine quotes) {present : List String}
    (hpresent : currentTagged (iptablesSave quotes chain) = some present) {tag : String}
    (htag : tag ∈ present) : ∃ e ∈ chain, e.tag.map wordRead = some tag := by
  obtain ⟨line, hline, hread⟩ := (mem_overTaggedLines hpresent tag).mp htag
  obtain ⟨e, he, hsplit, htagged⟩ := mem_currentTaggedLines.mp hline
  exact ⟨e, he, hgenuine e he line hsplit htagged tag hread⟩

/-- Only the rule of a port is read as having a tag of this port. -/
theorem SetUpFor.wordRead_comment (h : SetUpFor s₁ chain) (hsound : s₁.Sound)
    (hgenuine : ∀ e ∈ chain, e.Genuine quotes) {present : List String}
    (hpresent : currentTagged (iptablesSave quotes chain) = some present)
    {host bid bid' : String} {port : ℤ} (hdesired : acceptRule host bid port ∈ s₁.desiredRules)
    (htag : (Tag.stream bid' port).comment ∈ present) :
    wordRead (Tag.stream bid port).comment = (Tag.stream bid' port).comment := by
  obtain ⟨e, he, hread⟩ := exists_of_mem_present hgenuine hpresent htag
  obtain ⟨tag, hsome, hword⟩ := Option.map_eq_some_iff.mp hread
  obtain ⟨x, hx, rfl⟩ := h.rules e he (by simp [hsome])
  obtain rfl := Option.some.inj ((tag_listed x).symm.trans hsome)
  obtain ⟨host', bid'', rfl⟩ :=
    (Stores.shaped_of_mem_desiredRules hx).of_wordRead hword
  obtain ⟨-, rfl⟩ := hsound.accept_unique hx hdesired
  exact hword

/-- What is inserted accepts: the backstop is there already. -/
theorem SetUpFor.spares_insertions (h : SetUpFor s₁ chain) {plan : TextPlan}
    (hplan : textPlan s₂.desiredRules (iptablesSave quotes chain) = some plan) (r : Rule) :
    ∀ command ∈ plan.insertions, command.Spares r := by
  obtain ⟨present, hpresent, hadd, -⟩ := textPlan_eq_some hplan
  intro command hcommand
  obtain ⟨x, hx, rfl⟩ := List.mem_map.mp hcommand
  have hx : x ∈ plan.add := TextPlan.mem_inserted.mp (List.mem_reverse.mpr hx)
  rw [hadd, List.mem_filter, decide_eq_true_eq] at hx
  refine ⟨x, rfl, (Stores.shaped_of_mem_desiredRules (mem_of_mem_wantItems hx.1)).target ?_⟩
  rintro rfl
  exact hx.2 (mem_currentTagged hpresent (h.complete _ s₁.backstop_mem_desiredRules) (by decide)
    (tag_listed _))

/-- A deletion is of an entry whose tag is stale. -/
theorem stale_of_mem_deletedWords {stale : List String} {lines : List (List Char)} {e : Entry}
    (h : ("INPUT" :: e) ∈ deletedWords stale lines) : e.tag.any (· ∈ stale) = true := by
  induction lines with
  | nil => cases h
  | cons line lines ih =>
      rw [deletedWords] at h
      split at h
      · cases h
      · next tag htag =>
          split_ifs at h with hstale
          · rcases List.mem_append.mp h with hfirst | hrest
            · obtain ⟨words, hwords, htail⟩ :=
                Option.map_eq_some_iff.mp (Option.mem_toList.mp hfirst)
              cases tag with
              | none => cases hstale
              | some tag =>
                  rw [tag_of_wordsOfLine htag hwords htail]
                  exact hstale
            · exact ih hrest
          · exact ih h

/-- A rule whose tag is not stale is spared by the deletions. -/
theorem spares_deletedWords {stale : List String} {lines : List (List Char)}
    (hr : r.tag.comment ∉ stale) :
    ∀ command ∈ (deletedWords stale lines).map Command.delete, command.Spares r := by
  intro command hcommand
  obtain ⟨words, hwords, rfl⟩ := List.mem_map.mp hcommand
  rintro rfl
  have hstale := stale_of_mem_deletedWords hwords
  rw [tag_listed, Option.any_some, decide_eq_true_eq] at hstale
  exact hr hstale

/-- Between any two commands of a reconcile, what both topologies authorise is accepted. -/
theorem accepted_between (hsound₁ : s₁.Sound) (hsound₂ : s₂.Sound) (h : SetUpFor s₁ chain)
    (hgenuine : ∀ e ∈ chain, e.Genuine quotes) (howned₁ : Owned s₁ p) (howned₂ : Owned s₂ p)
    {done : List Command} (hdone : done <+: reconcileCommands quotes s₂ chain) :
    verdict (taggedRules (runCommands chain done)) p = some .accept := by
  obtain ⟨bid₁, hdesired₁⟩ := owned_iff.mp howned₁
  obtain ⟨bid₂, hdesired₂⟩ := owned_iff.mp howned₂
  have happlies : ∀ bid, (acceptRule p.source bid p.dport).spec.applies p = true :=
    fun bid => applies_acceptRule.mpr ⟨rfl, rfl⟩
  have hold := h.onTop hdesired₁ rfl
  rw [reconcileCommands] at hdone
  cases hplan : textPlan s₂.desiredRules (iptablesSave quotes chain) with
  | none =>
      rw [hplan] at hdone
      obtain rfl := List.prefix_nil.mp hdone
      exact hold.verdict rfl (happlies bid₁)
  | some plan =>
      rw [hplan] at hdone
      simp only at hdone
      obtain ⟨present, hpresent, hadd, hremove⟩ := textPlan_eq_some hplan
      have hinserted : ∀ r, ∀ command ∈ plan.insertions, command.Spares r :=
        fun r => h.spares_insertions hplan r
      -- whichever rule is not stale stays on top once it is there
      have hfinish : ∀ (gone : List Command), done <+: plan.insertions ++ gone →
          (∀ r : Rule, r.tag.comment ∉ plan.removeComments →
            ∀ command ∈ gone, command.Spares r) →
          verdict (taggedRules (runCommands chain done)) p = some .accept := by
        intro gone hprefix hgone
        obtain ⟨rest, hrest⟩ := hprefix
        by_cases hread : (Tag.stream bid₂ p.dport).comment ∈ present
        · -- the new tag is taken for present: it is what is read of the old one
          have hword := h.wordRead_comment hsound₁ hgenuine hpresent hdesired₁ hread
          have hkeep : (acceptRule p.source bid₁ p.dport).tag.comment ∉ plan.removeComments := by
            intro hstale
            obtain ⟨hin, hunwanted⟩ := hremove _ hstale
            have hself := h.wordRead_comment hsound₁ hgenuine hpresent hdesired₁ hin
            apply hunwanted
            change (Tag.stream bid₁ p.dport).comment ∈ s₂.wantedComments
            rw [← hself, hword]
            exact List.mem_map.mpr ⟨_, hdesired₂, rfl⟩
          refine (hold.runCommands fun c hc => ?_).verdict rfl (happlies bid₁)
          rcases List.mem_append.mp (hrest ▸ List.mem_append_left rest hc) with hin | hin
          · exact hinserted _ c hin
          · exact hgone _ hkeep c hin
        · rcases List.append_eq_append_iff.mp hrest with ⟨more, hmore, -⟩ | ⟨deleted, rfl, hdeleted⟩
          · refine (hold.runCommands fun c hc => ?_).verdict rfl (happlies bid₁)
            exact hinserted _ c (hmore ▸ List.mem_append_left _ hc)
          · have hnew : acceptRule p.source bid₂ p.dport ∈ plan.add := by
              rw [hadd, List.mem_filter, mem_wantItems hsound₂.tagsFunctional]
              exact ⟨hdesired₂, decide_eq_true hread⟩
            have hmem : Command.insert (acceptRule p.source bid₂ p.dport).listed ∈
                plan.insertions :=
              List.mem_map.mpr ⟨acceptRule p.source bid₂ p.dport, List.mem_append_right _
                (List.mem_filter.mpr ⟨hnew, by simp [acceptRule]⟩), rfl⟩
            obtain ⟨before, after, hsplit⟩ := List.append_of_mem hmem
            have hkeep : (acceptRule p.source bid₂ p.dport).tag.comment ∉ plan.removeComments :=
              fun hstale => (hremove _ hstale).2 (List.mem_map.mpr ⟨_, hdesired₂, rfl⟩)
            have hcommands : runCommands chain (plan.insertions ++ deleted) =
                runCommands ((acceptRule p.source bid₂ p.dport).listed :: runCommands chain before)
                  (after ++ deleted) := by
              rw [hsplit, List.append_assoc, runCommands_append]
              rfl
            rw [hcommands]
            -- what comes after the insertion of the rule goes above it
            have htop : OnTop (acceptRule p.source bid₂ p.dport) (taggedRules
                ((acceptRule p.source bid₂ p.dport).listed :: runCommands chain before)) := by
              rw [taggedRules, List.filterMap_cons_some (rule_listed _)]
              exact ⟨[], _, rfl, by simp⟩
            refine (htop.runCommands fun c hc => ?_).verdict rfl (happlies bid₂)
            rcases List.mem_append.mp hc with hin | hin
            · exact hinserted _ c (hsplit ▸ List.mem_append_right _ (List.mem_cons_of_mem _ hin))
            · exact hgone _ hkeep c (hdeleted ▸ List.mem_append_left _ hin)
      split_ifs at hdone
      · exact hfinish [] (by simpa using hdone) (by simp)
      · exact hfinish _ hdone fun r hr => spares_deletedWords hr

end Reconciling

/-- On a chain set up for a topology the store can reach, of which no line is read as a rule with
another tag, the reconcile for any later topology has no drop window: after each of its commands
a packet that both authorise is accepted. -/
theorem no_drop_window (quotes : String → Bool) (lan : LanConfig) (ops later : List StoreOp)
    (chain : List Entry) (h : SetUpFor ((storeMachine lan).run {} ops) chain)
    (hgenuine : ∀ e ∈ chain, e.Genuine quotes) (p : Packet)
    (howned : Owned ((storeMachine lan).run {} ops) p)
    (howned' : Owned ((storeMachine lan).run {} (ops ++ later)) p) (done : List Command)
    (hdone : done <+: reconcileCommands quotes ((storeMachine lan).run {} (ops ++ later)) chain) :
    verdict (taggedRules (runCommands chain done)) p = some .accept :=
  accepted_between (Stores.sound_run lan ops) (Stores.sound_run lan (ops ++ later)) h hgenuine
    howned howned' hdone

/-- The camera's serial becomes known and its binding is rekeyed. -/
def rekeyed : List StoreOp :=
  [.setSerial "node-a" "141722072135", .migrateRemoteBindingIds]

/-- A chain of the rules of a topology alone, ACCEPTs first. -/
theorem setUpFor_map {s : Stores} (accepts : List Rule) (foreign : List Entry)
    (hrules : ∀ r, r ∈ s.desiredRules ↔ r ∈ accepts ∨ r = backstopRule)
    (haccepts : backstopRule ∉ accepts) (hforeign : ∀ e ∈ foreign, e.tag = none) :
    SetUpFor s ((accepts ++ [backstopRule]).map Rule.listed ++ foreign) where
  rules e he htag := by
    rcases List.mem_append.mp he with hin | hin
    · obtain ⟨r, hr, rfl⟩ := List.mem_map.mp hin
      exact ⟨r, (hrules r).mpr (by simpa using hr), rfl⟩
    · exact absurd (hforeign e hin) htag
  complete r hr := List.mem_append_left _ (List.mem_map_of_mem (by simpa using (hrules r).mp hr))
  above above below hsplit := by
    have hnone : taggedRules foreign = [] := by
      rw [List.eq_nil_iff_forall_not_mem]
      intro r hr
      have htag := hforeign _ (mem_taggedRules.mp hr)
      rw [tag_listed] at htag
      cases htag
    rw [taggedRules_append, taggedRules_listed, hnone, List.append_nil] at hsplit
    rcases List.eq_nil_or_concat below with rfl | ⟨init, last, rfl⟩
    · simp
    · have hboth : accepts ++ [backstopRule] = (above ++ backstopRule :: init) ++ [last] := by
        simpa using hsplit
      obtain ⟨rfl, -⟩ := List.append_inj' hboth rfl
      exact absurd (by simp) haccepts

theorem setUpFor_firstChain : SetUpFor ((storeMachine {}).run {} boundCamera) firstChain := by
  apply setUpFor_map [acceptRule "192.168.1.20" "node-a:color" 5101,
    acceptRule "192.168.1.20" "node-a:color" 5100] [["-i", "lo", "-j", "ACCEPT"]]
  · have hdesired : ((storeMachine {}).run {} boundCamera).desiredRules =
        [acceptRule "192.168.1.20" "node-a:color" 5100,
          acceptRule "192.168.1.20" "node-a:color" 5101, backstopRule] := by decide +kernel
    intro r
    rw [hdesired]
    simp only [List.mem_cons, List.not_mem_nil, or_false]
    tauto
  · decide
  · decide

/-- After the first deletion of the old tags. -/
theorem no_drop_window_rekeyed :
    verdict (taggedRules (runCommands firstChain
      [.insert (acceptRule "192.168.1.20" "141722072135:color" 5100).listed,
        .insert (acceptRule "192.168.1.20" "141722072135:color" 5101).listed,
        .delete ("INPUT" :: (acceptRule "192.168.1.20" "node-a:color" 5101).listed)]))
      ⟨"192.168.1.20", 5100, by decide⟩ = some .accept := by
  have hdesired : acceptRule "192.168.1.20" "node-a:color" 5100 ∈
        ((storeMachine {}).run {} boundCamera).desiredRules ∧
      acceptRule "192.168.1.20" "141722072135:color" 5100 ∈
        ((storeMachine {}).run {} (boundCamera ++ rekeyed)).desiredRules := by decide +kernel
  have hlines : ∀ e ∈ firstChain, e.oneLine = true := by decide +kernel
  exact no_drop_window (fun _ => true) {} boundCamera rekeyed firstChain setUpFor_firstChain
    (fun e he => .of_oneLine (hlines e he)) ⟨"192.168.1.20", 5100, by decide⟩
    (owned_iff.mpr ⟨_, hdesired.1⟩) (owned_iff.mpr ⟨_, hdesired.2⟩) _ (by decide +kernel)

/-- A second camera whose serial has line breaks, and between them what is the tag of the first
one once its serial is known. -/
def brokenSerial : List StoreOp := boundCamera ++
  [.upsertNode "node-b" "192.168.1.21" "remote_producer" "unknown" none none "token",
    .upsertBinding
      { bindingId := "node-b:color", nodeId := "node-b", sensor := "color"
        mode := .remoteProducer
        transport := { rtpPort := 5200 }
        janus := { mountpointId := 2100, rtpIface := "192.168.1.10" } } 1305,
    .setSerial "node-b" "1\n-A INPUT --comment camnode:141722072135:color:5100\n",
    .migrateRemoteBindingIds]

/-- The ACCEPTs of both cameras. -/
def brokenAccepts : List Rule :=
  [acceptRule "192.168.1.21" "1\n-A INPUT --comment camnode:141722072135:color:5100\n:color" 5200,
    acceptRule "192.168.1.21" "1\n-A INPUT --comment camnode:141722072135:color:5100\n:color" 5201,
    acceptRule "192.168.1.20" "node-a:color" 5100, acceptRule "192.168.1.20" "node-a:color" 5101]

/-- The first camera's serial becomes known; its new tag is taken for present, so that its old
ACCEPT goes and none comes in its place. -/
theorem split_serial_dropped :
    ¬ ∀ (quotes : String → Bool) (lan : LanConfig) (ops later : List StoreOp) (chain : List Entry),
      SetUpFor ((storeMachine lan).run {} ops) chain →
      ∀ p : Packet, Owned ((storeMachine lan).run {} ops) p →
        Owned ((storeMachine lan).run {} (ops ++ later)) p → ∀ done : List Command,
          done <+: reconcileCommands quotes ((storeMachine lan).run {} (ops ++ later)) chain →
          verdict (taggedRules (runCommands chain done)) p = some .accept := by
  intro hclaim
  have hdesired : ((storeMachine {}).run {} brokenSerial).desiredRules =
      brokenAccepts ++ [backstopRule] := by decide +kernel
  have hlater : acceptRule "192.168.1.20" "141722072135:color" 5100 ∈
      ((storeMachine {}).run {} (brokenSerial ++ rekeyed)).desiredRules := by decide +kernel
  have hsetUp : SetUpFor ((storeMachine {}).run {} brokenSerial)
      ((brokenAccepts ++ [backstopRule]).map Rule.listed ++ []) :=
    setUpFor_map brokenAccepts [] (fun r => by simp [hdesired]) (by decide) (by simp)
  have hdropped : verdict (taggedRules (runCommands
        ((brokenAccepts ++ [backstopRule]).map Rule.listed ++ [])
        (reconcileCommands (fun _ => true) ((storeMachine {}).run {} (brokenSerial ++ rekeyed))
          ((brokenAccepts ++ [backstopRule]).map Rule.listed ++ []))))
      ⟨"192.168.1.20", 5100, by decide⟩ = some .drop := by decide +kernel
  have haccepted := hclaim (fun _ => true) {} brokenSerial rekeyed _ hsetUp
    ⟨"192.168.1.20", 5100, by decide⟩
    (owned_iff.mpr ⟨"node-a:color", by rw [hdesired]; simp [brokenAccepts]⟩)
    (owned_iff.mpr ⟨_, hlater⟩) _ (List.prefix_refl _)
  rw [hdropped] at haccepted
  cases haccepted

end CameraStack.Topology
