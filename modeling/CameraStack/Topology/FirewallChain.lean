/-
# The tagged rules of the chain

The chain is words, and what a packet meets is decided by rules.  Here the words of a tagged
entry are read as the rule that was inserted, a reconcile is taken apart into its `iptables`
commands, and what it makes of the tagged rules is compared with `reconciled`: on a chain that
the listing shows as it is, the two agree whenever no command fails.

The chains considered are those left behind by reconciles for any topologies, each under any
printing of the listing and cut short anywhere, with tagged rules flushed and the rest of the
chain edited in between.
-/

import Mathlib.Data.List.Perm.Subperm
import CameraStack.Lib.PyNumber
import CameraStack.Topology.FirewallText

namespace CameraStack.Topology

open CameraStack.Lib

/-! ## Rules from words -/

/-- The ports behind `--dport`. -/
def portsOf (text : List Char) : Option (ℤ × ℤ) :=
  match text.dropWhile fun c => c ≠ ':' with
  | [] => (intOfChars text).map fun port => (port, port)
  | _ :: high => (intOfChars (text.takeWhile fun c => c ≠ ':')).bind fun low =>
      (intOfChars high).map fun high => (low, high)

/-- The tag in a comment; the port is behind the last colon. -/
def Tag.ofComment (comment : String) : Option Tag :=
  let text := comment.toList.drop 8
  if text = "backstop".toList then some .backstop
  else
    let behind := (text.reverse.takeWhile fun c => c ≠ ':').reverse
    (intOfChars behind).map fun port =>
      .stream (String.ofList (text.take (text.length - behind.length - 1))) port

/-- The rule that the words describe. -/
def Entry.parse (e : Entry) : Option Rule :=
  let source := if e.head? = some "-s" then
      e[1]?.map fun host => String.ofList (host.toList.take (host.toList.length - 3))
    else none
  match if e.head? = some "-s" then e.drop 2 else e with
  | [_, _, _, _, _, ports, _, _, _, comment, _, target] =>
      (portsOf ports.toList).bind fun ports =>
        (Tag.ofComment comment).map fun tag =>
          { spec :=
              { source := source, portLow := ports.1, portHigh := ports.2
                target := if target = "ACCEPT" then .accept else .drop }
            tag := tag }
  | _ => none

/-- The rule of an entry, if it has the words of one. -/
def Entry.rule (e : Entry) : Option Rule := e.parse.filter fun r => r.listed = e

/-- The tagged rules of the chain. -/
def taggedRules (chain : List Entry) : List Rule := chain.filterMap Entry.rule

theorem takeWhile_colon {front behind : List Char} (h : ':' ∉ front) :
    (front ++ ':' :: behind).takeWhile (fun c => c ≠ ':') = front := by
  rw [List.takeWhile_append_of_pos fun c hc => by simpa using ne_of_mem_of_not_mem hc h]
  simp

theorem dropWhile_colon {front behind : List Char} (h : ':' ∉ front) :
    (front ++ ':' :: behind).dropWhile (fun c => c ≠ ':') = ':' :: behind := by
  rw [List.dropWhile_append_of_pos fun c hc => by simpa using ne_of_mem_of_not_mem hc h]
  simp

/-- The ports of a rule are read back. -/
theorem portsOf_listed (low high : ℤ) :
    portsOf (if low = high then toString low
      else toString low ++ ":" ++ toString high).toList = some (low, high) := by
  have hlow := colon_not_mem_toString low
  split_ifs with heq
  · subst heq
    have hnone : (toString low).toList.dropWhile (fun c => c ≠ ':') = [] := by
      rw [List.dropWhile_eq_nil_iff]
      exact fun c hc => by simpa using ne_of_mem_of_not_mem hc hlow
    rw [portsOf, hnone]
    simp only [intOfChars_toString, Option.map_some]
  · have htext : (toString low ++ ":" ++ toString high).toList =
        (toString low).toList ++ ':' :: (toString high).toList := by
      simp
    rw [portsOf, htext, dropWhile_colon hlow, takeWhile_colon hlow]
    simp only [intOfChars_toString, Option.bind_some, Option.map_some]

/-- A tag is read back. -/
theorem Tag.ofComment_comment (tag : Tag) : Tag.ofComment tag.comment = some tag := by
  have hdrop : tag.comment.toList.drop 8 = tag.text.toList := by
    rw [comment, String.toList_append]
    exact List.drop_left' (by decide)
  unfold Tag.ofComment
  rw [hdrop]
  cases tag with
  | backstop => rfl
  | stream bindingId port =>
      have hcolon := colon_not_mem_toString port
      have htext : (Tag.stream bindingId port).text.toList =
          bindingId.toList ++ ':' :: (toString port).toList := by
        simp [text]
      have hne : (Tag.stream bindingId port).text.toList ≠ "backstop".toList := by
        intro heq
        have hmem : ':' ∈ (Tag.stream bindingId port).text.toList := by simp [htext]
        rw [heq] at hmem
        exact absurd hmem (by decide)
      have hbehind : ((Tag.stream bindingId port).text.toList.reverse.takeWhile
          fun c => c ≠ ':').reverse = (toString port).toList := by
        rw [htext, List.reverse_append, List.reverse_cons, List.append_assoc,
          List.singleton_append, takeWhile_colon (by simpa using hcolon), List.reverse_reverse]
      have hfront : (Tag.stream bindingId port).text.toList.take
          ((Tag.stream bindingId port).text.toList.length - (toString port).toList.length - 1) =
            bindingId.toList := by
        rw [htext]
        apply List.take_left'
        simp only [List.length_append, List.length_cons]
        omega
      simp only [hne, if_false, hbehind, hfront, intOfChars_toString, Option.map_some,
        String.ofList_toList]

/-- An inserted rule is read back. -/
theorem parse_listed (r : Rule) : Entry.parse r.listed = some r := by
  obtain ⟨⟨source, low, high, target⟩, tag⟩ := r
  have hports := portsOf_listed low high
  have htag := Tag.ofComment_comment tag
  unfold Rule.listed Entry.parse
  simp only
  generalize (if low = high then toString low
    else toString low ++ ":" ++ toString high) = ports at hports ⊢
  generalize tag.comment = comment at htag ⊢
  cases source with
  | none => cases target <;> simp [hports, htag]
  | some host => cases target <;> simp [hports, htag]

theorem rule_eq_some {e : Entry} {r : Rule} : e.rule = some r ↔ e = r.listed := by
  unfold Entry.rule
  rw [Option.filter_eq_some_iff]
  constructor
  · rintro ⟨-, hlisted⟩
    exact (of_decide_eq_true hlisted).symm
  · rintro rfl
    exact ⟨parse_listed r, decide_eq_true rfl⟩

@[simp] theorem rule_listed (r : Rule) : Entry.rule r.listed = some r := rule_eq_some.mpr rfl

theorem listed_injective : Function.Injective Rule.listed := fun _ _ h =>
  Option.some.inj ((rule_eq_some.mpr h).symm.trans (rule_listed _)) |>.symm

/-! ## What is kept of a listing -/

section Listing

variable {β : Type} {f : List Char → Option (Option β)} {quotes : String → Bool}

/-- What is kept comes from a tagged line, and each of them is considered. -/
theorem mem_overTaggedLines {out : List Char} {kept : List β}
    (h : overTaggedLines f out = some kept) (x : β) :
    x ∈ kept ↔ ∃ line ∈ currentTaggedLines out, f line = some (some x) := by
  have main : ∀ (lines : List (List Char)) (kept : List β),
      ((lines.mapM f).map fun kept => kept.filterMap id) = some kept →
        (x ∈ kept ↔ ∃ line ∈ lines, f line = some (some x)) := by
    intro lines
    induction lines with
    | nil =>
        intro kept h
        cases h
        simp
    | cons line lines ih =>
        intro kept h
        rw [List.mapM_cons] at h
        cases hline : f line with
        | none => simp [hline] at h
        | some first =>
            cases hrest : lines.mapM f with
            | none => simp [hline, hrest] at h
            | some rest =>
                have hmem := ih (rest.filterMap id) (by rw [hrest]; rfl)
                rw [hline, hrest] at h
                cases h
                rw [List.exists_mem_cons_iff, hline, ← hmem]
                cases first with
                | none => simp
                | some y => simp [eq_comm]
  exact main (currentTaggedLines out) kept h

theorem iptablesSave_cons (e : Entry) (chain : List Entry) :
    iptablesSave quotes (e :: chain) = e.line quotes ++ '\n' :: iptablesSave quotes chain := by
  simp [iptablesSave]

/-- The lines of a chain are those of its entries. -/
theorem mem_currentTaggedLines {chain : List Entry} {line : List Char} :
    line ∈ currentTaggedLines (iptablesSave quotes chain) ↔
      ∃ e ∈ chain, line ∈ splitLines (e.line quotes ++ ['\n']) ∧ isTaggedLine line = true := by
  induction chain with
  | nil => simp [currentTaggedLines, iptablesSave, splitLines]
  | cons e chain ih =>
      rw [iptablesSave_cons, currentTaggedLines, splitLines_append_newline, List.filter_append,
        List.mem_append, List.mem_filter, ← currentTaggedLines, ih, List.exists_mem_cons_iff]

/-- The listing of a chain in two parts. -/
theorem overTaggedLines_iptablesSave_append (front back : List Entry) :
    overTaggedLines f (iptablesSave quotes (front ++ back)) =
      (overTaggedLines f (iptablesSave quotes front)).bind fun kept =>
        (overTaggedLines f (iptablesSave quotes back)).map fun more => kept ++ more := by
  induction front with
  | nil =>
      have hnil : overTaggedLines f (iptablesSave quotes []) = some [] := rfl
      rw [List.nil_append, hnil, Option.bind_some]
      cases overTaggedLines f (iptablesSave quotes back) with
      | none => rfl
      | some more => rfl
  | cons e front ih =>
      have hcons : ∀ rest : List Entry, overTaggedLines f (iptablesSave quotes (e :: rest)) =
          (overTaggedLines f (e.line quotes ++ ['\n'])).bind fun kept =>
            (overTaggedLines f (iptablesSave quotes rest)).map fun more => kept ++ more := by
        intro rest
        rw [iptablesSave_cons, overTaggedLines_append]
      rw [List.cons_append, hcons, hcons, ih]
      cases overTaggedLines f (e.line quotes ++ ['\n']) with
      | none => rfl
      | some kept =>
          cases overTaggedLines f (iptablesSave quotes front) with
          | none => rfl
          | some more =>
              cases overTaggedLines f (iptablesSave quotes back) with
              | none => rfl
              | some last => simp

end Listing

/-! ## Deletions that succeed -/

/-- Words that are deleted because of a stale tag are those of an entry with this tag. -/
theorem tag_of_wordsOfLine {line : List Char} {words : List String} {e : Entry} {tag : String}
    (htag : tagOfLine line = some (some tag)) (hwords : wordsOfLine line = some words)
    (htail : words.tail = "INPUT" :: e) : e.tag = some tag := by
  cases words with
  | nil => cases htail
  | cons first rest =>
      obtain rfl : rest = "INPUT" :: e := htail
      unfold tagOfLine at htag
      rw [hwords] at htag
      have hne : first ≠ "--comment" := by
        rintro rfl
        exact absurd htag (by simp [tagOfWords])
      have hskip : tagOfWords (first :: "INPUT" :: e) = tagOfWords e := by
        unfold tagOfWords
        rw [List.dropWhile_cons_of_pos (by simpa using hne),
          List.dropWhile_cons_of_pos (by decide)]
      unfold Entry.tag
      rw [← hskip]
      exact congrArg Option.join htag

/-- The words that are deleted for stale tags. -/
theorem tag_of_mem_staleWords {stale : List String} {out : List Char} {gone : List (List String)}
    (hgone : staleWords stale out = some gone) {e : Entry} (he : ("INPUT" :: e) ∈ gone) :
    e.tag.any (· ∈ stale) = true := by
  obtain ⟨line, -, hline⟩ := (mem_overTaggedLines hgone _).mp he
  obtain ⟨tag, htag, hword⟩ := Option.map_eq_some_iff.mp hline
  split at hword
  · next hstale =>
      obtain ⟨words, hwords, htail⟩ := Option.map_eq_some_iff.mp hword
      cases tag with
      | none => cases hstale
      | some tag =>
          rw [tag_of_wordsOfLine htag hwords htail]
          exact hstale
  · cases hword

/-- Deletions of which none fails delete as many entries as there are. -/
theorem succeeded_foldl_delete {gone : List (List String)} {run : ChainRun}
    (h : (gone.foldl ChainRun.delete run).succeeded = true) :
    run.succeeded = true ∧ ∃ entries : List Entry, gone = entries.map (fun e => "INPUT" :: e) ∧
      entries.Subperm run.chain ∧
      (gone.foldl ChainRun.delete run).chain = entries.foldl List.erase run.chain := by
  induction gone generalizing run with
  | nil => exact ⟨h, [], rfl, List.nil_subperm, rfl⟩
  | cons words gone ih =>
      obtain ⟨hfirst, entries, rfl, hsub, hchain⟩ := ih h
      simp only [ChainRun.delete, Bool.and_eq_true, decide_eq_true_eq, List.contains_iff_mem]
        at hfirst
      obtain ⟨⟨hsucceeded, hinput⟩, hmem⟩ := hfirst
      have hwords : words = "INPUT" :: words.tail := (List.cons_head?_tail hinput).symm
      have herased : (run.delete words).chain = run.chain.erase words.tail := by
        rw [ChainRun.delete, if_pos hinput]
      rw [herased] at hsub hchain
      refine ⟨hsucceeded, words.tail :: entries, ?_, ?_, hchain⟩
      · rw [List.map_cons, ← hwords]
      · exact ((List.subperm_cons words.tail).mpr hsub).trans
          (List.perm_cons_erase hmem).symm.subperm

/-- There is nothing left to delete once every entry of a class is. -/
theorem eq_nil_of_subperm {p : Entry → Bool} {more new chain : List Entry}
    (hmore : ∀ e ∈ more, p e = true) (hnew : ∀ e ∈ new, p e = false)
    (h : (more ++ chain.filter p).Subperm (new ++ chain)) : more = [] := by
  have hnone : new.filter p = [] := List.filter_eq_nil_iff.mpr fun e he => by simp [hnew e he]
  have hlength := (h.filter p).length_le
  rw [List.filter_append, List.filter_append, List.filter_eq_self.mpr hmore, hnone] at hlength
  simpa using hlength

section Run

variable {quotes : String → Bool} {s : Stores} {chain : List Entry}

/-- A reconcile of a readable chain of which no command fails puts what is missing on top and
takes out what is stale. -/
theorem chain_of_textReconcile (hread : ∀ e ∈ chain, e.Readable quotes s.wantedComments)
    {plan : TextPlan} {run : ChainRun} (hrun : textReconcile quotes s chain = some (plan, run))
    (hsucceeded : run.succeeded = true) :
    run.chain = (s.planFor chain).inserted.map Rule.listed ++ s.kept chain := by
  unfold textReconcile at hrun
  rw [textPlan_iptablesSave hread, Option.bind_some] at hrun
  simp only [foldl_insert_planFor] at hrun
  rw [← filter_stale_added]
  split at hrun
  · next hempty =>
      cases hrun
      rw [List.isEmpty_iff.mp hempty]
      simp
  · obtain ⟨gone, hgone, hpair⟩ := Option.map_eq_some_iff.mp hrun
    cases hpair
    have hold := @staleWords_iptablesSave quotes chain _ (s.planFor chain).removeComments hread
      fun tag htag => (mem_removeComments_planFor.mp htag).2
    have hsplit := hgone
    unfold staleWords at hsplit hold
    rw [overTaggedLines_iptablesSave_append, hold] at hsplit
    obtain ⟨front, hfront, hback⟩ := Option.bind_eq_some_iff.mp hsplit
    cases hback
    obtain ⟨-, entries, hentries, hsub, hchain⟩ := succeeded_foldl_delete hsucceeded
    obtain ⟨more, rest, rfl, rfl, hrest⟩ := List.map_eq_append_iff.mp hentries.symm
    obtain rfl := List.map_injective_iff.mpr (List.cons_injective) hrest
    -- the old stale entries take all deletions that can succeed
    have hmore : more = [] := by
      apply eq_nil_of_subperm (p := fun e => e.tag.any (· ∈ (s.planFor chain).removeComments))
        _ (fun e he => any_mem_removeComments_listed he) hsub
      exact fun e he => tag_of_mem_staleWords hgone
        (List.mem_append_left _ (List.mem_map_of_mem he))
    subst hmore
    have hnone : ((s.planFor chain).inserted.map Rule.listed).filter
        (fun e => e.tag.any (· ∈ (s.planFor chain).removeComments)) = [] :=
      List.filter_eq_nil_iff.mpr fun e he => by simp [any_mem_removeComments_listed he]
    rw [hchain, List.nil_append, ← foldl_erase_filter, List.filter_append, hnone, List.nil_append]

end Run

/-! ## What a reconcile makes of the tagged rules -/

/-- Tags can be compared by their comments. -/
theorem Tag.comment_injective : Function.Injective Tag.comment := fun _ _ h =>
  Option.some.inj ((Tag.ofComment_comment _).symm.trans ((congrArg _ h).trans
    (Tag.ofComment_comment _)))

theorem taggedRules_append (front back : List Entry) :
    taggedRules (front ++ back) = taggedRules front ++ taggedRules back := List.filterMap_append

theorem taggedRules_listed (rules : List Rule) : taggedRules (rules.map Rule.listed) = rules := by
  simp [taggedRules, List.filterMap_map]

theorem mem_taggedRules {chain : List Entry} {r : Rule} :
    r ∈ taggedRules chain ↔ r.listed ∈ chain := by
  rw [taggedRules, List.mem_filterMap]
  constructor
  · rintro ⟨e, he, hrule⟩
    exact rule_eq_some.mp hrule ▸ he
  · exact fun h => ⟨_, h, rule_listed r⟩

/-- Every tagged entry has the words of a rule that a reconcile inserts. -/
def RulesOnly (chain : List Entry) : Prop :=
  ∀ e ∈ chain, e.tag ≠ none → ∃ r : Rule, r.Shaped ∧ e = r.listed

section Refinement

variable {quotes : String → Bool} {s : Stores} {chain : List Entry}

theorem RulesOnly.shaped (h : RulesOnly chain) : ∀ r ∈ taggedRules chain, r.Shaped := by
  intro r hr
  obtain ⟨r', hshaped, heq⟩ := h _ (mem_taggedRules.mp hr) (by simp [tag_listed])
  exact listed_injective heq ▸ hshaped

/-- The tagged entries are those of the tagged rules. -/
theorem RulesOnly.filter_tagged (h : RulesOnly chain) :
    chain.filter (fun e => e.tag.isSome) = (taggedRules chain).map Rule.listed := by
  induction chain with
  | nil => rfl
  | cons e chain ih =>
      have hrest := ih fun e' he' => h e' (List.mem_cons_of_mem _ he')
      rw [taggedRules] at hrest ⊢
      cases htag : e.tag with
      | none =>
          have hrule : e.rule = none := by
            rw [Option.eq_none_iff_forall_ne_some]
            intro r hr
            rw [rule_eq_some.mp hr, tag_listed] at htag
            cases htag
          rw [List.filter_cons_of_neg (by simp [htag]), List.filterMap_cons_none hrule, hrest]
      | some tag =>
          obtain ⟨r, -, rfl⟩ := h e List.mem_cons_self (by simp [htag])
          rw [List.filter_cons_of_pos (by simp [htag]), List.filterMap_cons_some (rule_listed r),
            hrest, List.map_cons]

/-- The tags of the chain are those of the tagged rules. -/
theorem RulesOnly.filterMap_tag (h : RulesOnly chain) :
    chain.filterMap Entry.tag = (taggedRules chain).map fun r => r.tag.comment := by
  have hsome : chain.filterMap Entry.tag =
      (chain.filter fun e => e.tag.isSome).filterMap Entry.tag := by
    rw [List.filterMap_filter]
    apply List.filterMap_congr
    intro e _
    cases e.tag with
    | none => rfl
    | some tag => rfl
  rw [hsome, h.filter_tagged, List.filterMap_map, ← List.filterMap_eq_map]
  exact List.filterMap_congr fun r _ => tag_listed r

theorem RulesOnly.mem_tags (h : RulesOnly chain) (tag : Tag) :
    tag.comment ∈ chain.filterMap Entry.tag ↔ tag ∈ (taggedRules chain).map Rule.tag := by
  rw [h.filterMap_tag, List.mem_map, List.mem_map]
  simp only [Tag.comment_injective.eq_iff]

/-- The rules that keep their place are those with wanted tags. -/
theorem taggedRules_kept :
    taggedRules (s.kept chain) =
      (taggedRules chain).filter fun r => r.tag ∈ (wantItems s.desiredRules).map Rule.tag := by
  rw [taggedRules, taggedRules, Stores.kept, List.filterMap_filter, List.filter_filterMap]
  apply List.filterMap_congr
  intro e _
  cases hrule : e.rule with
  | none => simp
  | some r =>
      have hwanted : r.tag.comment ∈ s.wantedComments ↔
          r.tag ∈ (wantItems s.desiredRules).map Rule.tag := by
        rw [← mem_want_comments, List.mem_map, List.mem_map]
        simp only [Tag.comment_injective.eq_iff]
      rw [rule_eq_some.mp hrule, tag_listed]
      simp [hwanted, Option.filter]

/-- On a readable chain a reconcile of which no command fails makes of the tagged rules what
`reconciled` says. -/
theorem taggedRules_of_textReconcile (hrules : RulesOnly chain)
    (hread : ∀ e ∈ chain, e.Readable quotes s.wantedComments) {plan : TextPlan} {run : ChainRun}
    (hrun : textReconcile quotes s chain = some (plan, run)) (hsucceeded : run.succeeded = true) :
    taggedRules run.chain = reconciled s (taggedRules chain) := by
  have hmissing : (s.planFor chain).add = missing s (taggedRules chain) := by
    apply List.filter_congr
    intro r _
    simp only [hrules.mem_tags]
  rw [chain_of_textReconcile hread hrun hsucceeded, taggedRules_append, taggedRules_listed,
    taggedRules_kept, TextPlan.inserted, hmissing, List.reverse_append, reconciled]

end Refinement

/-! ## The commands -/

/-- An `iptables` command on the INPUT chain. -/
inductive Command
  | insert (e : Entry)
  | delete (words : List String)
  deriving DecidableEq

/-- The chain after one command. -/
def Command.run (chain : List Entry) : Command → List Entry
  | .insert e => e :: chain
  | .delete words => if words.head? = some "INPUT" then chain.erase words.tail else chain

/-- The chain after commands in their order. -/
def runCommands (chain : List Entry) (commands : List Command) : List Entry :=
  commands.foldl Command.run chain

theorem runCommands_append (chain : List Entry) (first rest : List Command) :
    runCommands chain (first ++ rest) = runCommands (runCommands chain first) rest :=
  List.foldl_append

/-- The insertions of a plan: the backstop, then the ACCEPTs. -/
def TextPlan.insertions (plan : TextPlan) : List Command :=
  ((plan.add.filter fun r => r.tag = .backstop) ++
    plan.add.filter fun r => r.tag ≠ .backstop).map fun r => .insert r.listed

/-- The words of the lines with stale tags, line by line, up to a line that raises. -/
def deletedWords (stale : List String) : List (List Char) → List (List String)
  | [] => []
  | line :: lines =>
      match tagOfLine line with
      | none => []
      | some tag =>
          if tag.any (· ∈ stale) then
            ((wordsOfLine line).map List.tail).toList ++ deletedWords stale lines
          else deletedWords stale lines

/-- Everything `reconcile(apply=True)` runs, up to where reading a listing raises. -/
def reconcileCommands (quotes : String → Bool) (s : Stores) (chain : List Entry) : List Command :=
  match textPlan s.desiredRules (iptablesSave quotes chain) with
  | none => []
  | some plan =>
      if plan.removeComments.isEmpty then plan.insertions
      else plan.insertions ++ (deletedWords plan.removeComments
        (currentTaggedLines (iptablesSave quotes (runCommands chain plan.insertions)))).map
          Command.delete

theorem runCommands_insertions (plan : TextPlan) (chain : List Entry) :
    runCommands chain plan.insertions = plan.inserted.map Rule.listed ++ chain := by
  have main : ∀ (rules : List Rule) (chain : List Entry),
      runCommands chain (rules.map fun r => .insert r.listed) =
        rules.reverse.map Rule.listed ++ chain := by
    intro rules
    induction rules with
    | nil => exact fun _ => rfl
    | cons r rules ih =>
        intro chain
        rw [runCommands, List.map_cons, List.foldl_cons, ← runCommands, ih]
        simp [Command.run]
  exact main _ chain

/-- What is deleted for a listing that does not raise. -/
theorem deletedWords_eq {stale : List String} {out : List Char} {gone : List (List String)}
    (h : staleWords stale out = some gone) :
    deletedWords stale (currentTaggedLines out) = gone := by
  set f : List Char → Option (Option (List String)) := fun line => (tagOfLine line).map fun tag =>
    if tag.any (· ∈ stale) then (wordsOfLine line).map List.tail else none with hf
  have main : ∀ (lines : List (List Char)) (gone : List (List String)),
      ((lines.mapM f).map fun kept => kept.filterMap id) = some gone →
        deletedWords stale lines = gone := by
    intro lines
    induction lines with
    | nil =>
        intro gone h
        cases h
        rfl
    | cons line lines ih =>
        intro gone h
        rw [List.mapM_cons] at h
        cases htag : tagOfLine line with
        | none => simp [hf, htag] at h
        | some tag =>
            have hline : f line =
                some (if tag.any (· ∈ stale) then (wordsOfLine line).map List.tail else none) := by
              rw [hf]
              simp only [htag, Option.map_some]
            cases hrest : lines.mapM f with
            | none => simp [hline, hrest] at h
            | some rest =>
                have hlines := ih (rest.filterMap id) (by rw [hrest]; rfl)
                rw [hline, hrest] at h
                cases h
                rw [deletedWords, htag]
                simp only [hlines]
                split_ifs
                · cases wordsOfLine line with
                  | none => rfl
                  | some words => rfl
                · rfl
  exact main (currentTaggedLines out) gone h

/-- The listing shows the words of the rule as they are. -/
def Rule.Plain (r : Rule) : Prop :=
  Entry.oneLine r.listed = true ∧ ∀ w ∈ r.listed, hasApostrophe w = false

instance : DecidablePred Rule.Plain := fun _ => inferInstanceAs (Decidable (_ ∧ _))

/-- A listing is read to its end when each of its lines can be read. -/
theorem isSome_currentTagged {out : List Char} :
    (currentTagged out).isSome = true ↔
      ∀ line ∈ currentTaggedLines out, (tagOfLine line).isSome = true := by
  have main : ∀ lines : List (List Char),
      ((lines.mapM tagOfLine).isSome = true ↔ ∀ line ∈ lines, (tagOfLine line).isSome = true) := by
    intro lines
    induction lines with
    | nil => simp
    | cons line lines ih =>
        rw [List.mapM_cons, List.forall_mem_cons, ← ih]
        cases tagOfLine line with
        | none => simp
        | some tag => cases lines.mapM tagOfLine <;> simp
  rw [currentTagged, overTaggedLines, Option.isSome_map]
  exact main _

theorem deletedWords_append {stale : List String} {front back : List (List Char)}
    (h : ∀ line ∈ front, (tagOfLine line).isSome = true) :
    deletedWords stale (front ++ back) = deletedWords stale front ++ deletedWords stale back := by
  induction front with
  | nil => rfl
  | cons line front ih =>
      obtain ⟨hline, hrest⟩ := List.forall_mem_cons.mp h
      obtain ⟨tag, htag⟩ := Option.isSome_iff_exists.mp hline
      rw [List.cons_append, deletedWords, deletedWords, htag]
      simp only [ih hrest]
      split_ifs
      · rw [List.append_assoc]
      · rfl

/-- Every entry with a stale tag is deleted if the listing is read to its end and shows it as
it is. -/
theorem Rule.Plain.count_le {quotes : String → Bool} {chain : List Entry} {stale : List String}
    {r : Rule} (h : r.Plain)
    (hlists : (currentTagged (iptablesSave quotes chain)).isSome = true)
    (hstale : r.tag.comment ∈ stale) :
    chain.count r.listed ≤
      (deletedWords stale (currentTaggedLines (iptablesSave quotes chain))).count
        ("INPUT" :: r.listed) := by
  rw [isSome_currentTagged] at hlists
  have hquote : hasApostrophe r.tag.comment = false := h.2 _ (by simp [Rule.listed])
  have hself : r.listed.map wordRead = r.listed :=
    (List.map_congr_left fun w hw => wordRead_eq_self (h.2 w hw)).trans (List.map_id _)
  induction chain with
  | nil => simp
  | cons e chain ih =>
      have hsplit : currentTaggedLines (iptablesSave quotes (e :: chain)) =
          (splitLines (Entry.line quotes e ++ ['\n'])).filter isTaggedLine ++
            currentTaggedLines (iptablesSave quotes chain) := by
        rw [iptablesSave_cons, currentTaggedLines, splitLines_append_newline, List.filter_append]
        rfl
      rw [hsplit] at hlists ⊢
      have hrest := ih fun line hline => hlists line (List.mem_append_right _ hline)
      rw [deletedWords_append fun line hline => hlists line (List.mem_append_left _ hline),
        List.count_append]
      by_cases heq : e = r.listed
      · subst heq
        rw [splitLines_line (Entry.line_unbroken quotes h.1), splitLines,
          List.filter_cons_of_pos (isTaggedLine_line quotes (tag_listed r)), List.filter_nil,
          deletedWords, tagOfLine_line quotes (tag_listed r) hquote]
        simp only [Option.any_some, hstale, decide_true, if_true, wordsOfLine_line, hself,
          Option.map_some, Option.toList_some, deletedWords, List.append_nil, List.tail_cons,
          List.count_cons_self]
        omega
      · rw [List.count_cons_of_ne heq]
        omega

/-- The commands make the chain of the reconcile. -/
theorem runCommands_reconcileCommands {quotes : String → Bool} {s : Stores} {chain : List Entry}
    {plan : TextPlan} {run : ChainRun} (h : textReconcile quotes s chain = some (plan, run)) :
    runCommands chain (reconcileCommands quotes s chain) = run.chain := by
  have hadded : ∀ plan : TextPlan, (((plan.add.filter fun r => r.tag = .backstop) ++
      plan.add.filter fun r => r.tag ≠ .backstop).map Rule.listed).foldl ChainRun.insert
        { chain := chain } = { chain := runCommands chain plan.insertions } := by
    intro plan
    rw [runCommands_insertions, foldl_insert, ← List.map_reverse, ← TextPlan.inserted]
  have hdeleted : ∀ (gone : List (List String)) (run : ChainRun),
      (gone.foldl ChainRun.delete run).chain =
        runCommands run.chain (gone.map Command.delete) := by
    intro gone
    induction gone with
    | nil => exact fun _ => rfl
    | cons words gone ih =>
        intro run
        rw [List.foldl_cons, ih, runCommands, runCommands, List.map_cons, List.foldl_cons]
        rfl
  unfold textReconcile at h
  obtain ⟨plan', hplan, h⟩ := Option.bind_eq_some_iff.mp h
  simp only [hadded] at h
  rw [reconcileCommands, hplan]
  simp only
  split at h
  · next hempty =>
      cases h
      rw [if_pos hempty]
  · next hne =>
      obtain ⟨gone, hgone, hpair⟩ := Option.map_eq_some_iff.mp h
      cases hpair
      rw [if_neg hne, hdeleted, deletedWords_eq hgone, runCommands_append]

/-- Between any two commands nothing is there that is not there after the insertions. -/
theorem sublist_insertions {plan : TextPlan} {chain : List Entry} {gone done : List Command}
    (hgone : ∀ command ∈ gone, ∃ words, command = .delete words)
    (hdone : done <+: plan.insertions ++ gone) :
    (runCommands chain done).Sublist (plan.inserted.map Rule.listed ++ chain) := by
  have hdeletes : ∀ (gone : List Command) (chain : List Entry),
      (∀ command ∈ gone, ∃ words, command = .delete words) →
        (runCommands chain gone).Sublist chain := by
    intro gone
    induction gone with
    | nil => exact fun chain _ => List.Sublist.refl chain
    | cons command gone ih =>
        intro chain hgone
        obtain ⟨words, rfl⟩ := hgone command List.mem_cons_self
        refine (ih _ fun c hc => hgone c (List.mem_cons_of_mem _ hc)).trans ?_
        change (if words.head? = some "INPUT" then chain.erase words.tail else chain).Sublist chain
        split_ifs
        · exact List.erase_sublist
        · exact List.Sublist.refl chain
  have hinserts : ∀ (rest : List Command) (chain : List Entry),
      (∀ command ∈ rest, ∃ e, command = .insert e) →
        chain.Sublist (runCommands chain rest) := by
    intro rest
    induction rest with
    | nil => exact fun chain _ => List.Sublist.refl chain
    | cons command rest ih =>
        intro chain hrest
        obtain ⟨e, rfl⟩ := hrest command List.mem_cons_self
        exact (List.sublist_cons_self e chain).trans
          (ih _ fun c hc => hrest c (List.mem_cons_of_mem _ hc))
  rw [← runCommands_insertions]
  obtain ⟨rest, hrest⟩ := hdone
  rcases List.append_eq_append_iff.mp hrest with ⟨more, hmore, -⟩ | ⟨deleted, rfl, hdeleted⟩
  · rw [hmore, runCommands_append]
    apply hinserts more
    intro command hc
    have hmem : command ∈ plan.insertions := by
      rw [hmore]
      exact List.mem_append_right _ hc
    obtain ⟨r, -, rfl⟩ := List.mem_map.mp hmem
    exact ⟨_, rfl⟩
  · rw [runCommands_append]
    apply hdeletes
    intro command hc
    apply hgone
    rw [hdeleted]
    exact List.mem_append_left _ hc

/-! ## What earlier reconciles leave behind -/

/-- The tagged entries alone. -/
def taggedEntries (chain : List Entry) : List Entry := chain.filter fun e => e.tag.isSome

/-- The chains that can be found: foreign entries alone, such a chain after some commands of a
reconcile for any reachable topology, and such a chain after foreign edits and flushed rules. -/
inductive LeftBehind : List Entry → Prop
  | foreign {chain : List Entry} (h : taggedEntries chain = []) : LeftBehind chain
  | reconciled {chain : List Entry} (h : LeftBehind chain) (quotes : String → Bool)
      (lan : LanConfig) (ops : List StoreOp) {done : List Command}
      (hdone : done <+: reconcileCommands quotes ((storeMachine lan).run {} ops) chain) :
      LeftBehind (runCommands chain done)
  | edited {chain chain' : List Entry} (h : LeftBehind chain)
      (flushed : (taggedEntries chain').Sublist (taggedEntries chain)) : LeftBehind chain'

/-- The tag of the entry is read back. -/
def Entry.Legible (e : Entry) : Bool := e.oneLine && e.tag.any fun tag => !hasApostrophe tag

/-- Tagged entries as reconciles insert them, one under each tag that is read back. -/
structure Tended (chain : List Entry) : Prop where
  rules : RulesOnly chain
  nodup : ((chain.filter Entry.Legible).map Entry.tag).Nodup

theorem filter_legible (chain : List Entry) :
    chain.filter Entry.Legible = (taggedEntries chain).filter Entry.Legible := by
  rw [taggedEntries, List.filter_filter]
  apply List.filter_congr
  intro e _
  cases htag : e.tag with
  | none => simp [Entry.Legible, htag]
  | some tag => simp

theorem Tended.of_sublist {chain chain' : List Entry} (h : Tended chain)
    (hsub : (taggedEntries chain').Sublist (taggedEntries chain)) : Tended chain' where
  rules := by
    intro e he htag
    have hin : e ∈ taggedEntries chain :=
      hsub.subset (List.mem_filter.mpr ⟨he, Option.isSome_iff_ne_none.mpr htag⟩)
    exact h.rules e (List.mem_of_mem_filter hin) htag
  nodup := by
    have hnodup := h.nodup
    rw [filter_legible] at hnodup ⊢
    exact hnodup.sublist ((hsub.filter _).map Entry.tag)

section Left

variable {quotes : String → Bool} {s : Stores} {chain : List Entry}

/-- What a plan consists of. -/
theorem textPlan_eq_some {out : List Char} {plan : TextPlan}
    (h : textPlan s.desiredRules out = some plan) :
    ∃ present, currentTagged out = some present ∧
      plan.add = (wantItems s.desiredRules).filter (fun r => r.tag.comment ∉ present) ∧
      ∀ tag ∈ plan.removeComments, tag ∈ present ∧ tag ∉ s.wantedComments := by
  obtain ⟨present, hpresent, rfl⟩ := Option.map_eq_some_iff.mp h
  refine ⟨present, hpresent, rfl, ?_⟩
  intro tag htag
  simpa [mem_want_comments] using List.mem_filter.mp htag

/-- The tag of a legible entry is found. -/
theorem mem_currentTagged {present : List String}
    (hpresent : currentTagged (iptablesSave quotes chain) = some present) {e : Entry}
    (he : e ∈ chain) (hlegible : e.Legible = true) {tag : String} (htag : e.tag = some tag) :
    tag ∈ present := by
  rw [Entry.Legible, htag, Option.any_some, Bool.and_eq_true, Bool.not_eq_true'] at hlegible
  apply (mem_overTaggedLines hpresent tag).mpr
  refine ⟨e.line quotes, mem_currentTaggedLines.mpr ⟨e, he, ?_, isTaggedLine_line quotes htag⟩,
    tagOfLine_line quotes htag hlegible.2⟩
  rw [splitLines_line (Entry.line_unbroken quotes hlegible.1)]
  exact List.mem_cons_self

/-- What a plan inserts carries different tags. -/
theorem nodup_inserted {present : List String} {plan : TextPlan}
    (hadd : plan.add = (wantItems s.desiredRules).filter fun r => r.tag.comment ∉ present) :
    ((plan.inserted.map Rule.listed).map Entry.tag).Nodup := by
  have hperm : plan.inserted.Perm plan.add := by
    refine (List.reverse_perm _).trans ?_
    have hsplit := List.filter_append_perm (fun r : Rule => decide (r.tag = .backstop)) plan.add
    simpa using hsplit
  have hnodup : (plan.add.map Rule.tag).Nodup := by
    rw [hadd]
    exact (tags_wantItems_nodup _).sublist (List.filter_sublist.map Rule.tag)
  have htags : (plan.inserted.map Rule.listed).map Entry.tag =
      (plan.inserted.map Rule.tag).map fun tag => some tag.comment := by
    simp [tag_listed]
  rw [htags]
  refine List.Nodup.map (fun a b h => Tag.comment_injective (Option.some.inj h)) ?_
  exact (hperm.map Rule.tag).nodup_iff.mpr hnodup

/-- A tended chain is tended after the insertions of a reconcile. -/
theorem Tended.insertions (h : Tended chain) {plan : TextPlan}
    (hplan : textPlan s.desiredRules (iptablesSave quotes chain) = some plan) :
    Tended (plan.inserted.map Rule.listed ++ chain) := by
  obtain ⟨present, hpresent, hadd, -⟩ := textPlan_eq_some hplan
  have hmem : ∀ r ∈ plan.inserted, r ∈ s.desiredRules ∧ r.tag.comment ∉ present := by
    intro r hr
    rw [TextPlan.mem_inserted, hadd, List.mem_filter, decide_eq_true_eq] at hr
    exact ⟨mem_of_mem_wantItems hr.1, hr.2⟩
  constructor
  case rules =>
    intro e he htag
    rcases List.mem_append.mp he with hnew | hold
    · obtain ⟨r, hr, rfl⟩ := List.mem_map.mp hnew
      exact ⟨r, Stores.shaped_of_mem_desiredRules (hmem r hr).1, rfl⟩
    · exact h.rules e hold htag
  case nodup =>
    rw [List.filter_append, List.map_append, List.nodup_append]
    refine ⟨(nodup_inserted hadd).sublist (List.filter_sublist.map Entry.tag), h.nodup, ?_⟩
    rintro tag hnew _ hold rfl
    obtain ⟨e, he, htag⟩ := List.mem_map.mp hnew
    obtain ⟨e', he', htag'⟩ := List.mem_map.mp hold
    obtain ⟨r, hr, rfl⟩ := List.mem_map.mp (List.mem_of_mem_filter he)
    obtain ⟨hmem', hlegible⟩ := List.mem_filter.mp he'
    -- a tag that is read back is not inserted once more
    apply (hmem r hr).2
    apply mem_currentTagged hpresent hmem' hlegible
    rw [htag', ← htag, tag_listed]

/-- Some commands of a reconcile leave a tended chain tended. -/
theorem Tended.runCommands (h : Tended chain) {done : List Command}
    (hdone : done <+: reconcileCommands quotes s chain) : Tended (runCommands chain done) := by
  rw [reconcileCommands] at hdone
  cases hplan : textPlan s.desiredRules (iptablesSave quotes chain) with
  | none =>
      rw [hplan] at hdone
      obtain rfl := List.prefix_nil.mp hdone
      exact h
  | some plan =>
      rw [hplan] at hdone
      simp only at hdone
      refine (h.insertions hplan).of_sublist (List.Sublist.filter _ ?_)
      split_ifs at hdone
      · exact @sublist_insertions plan chain [] done (by simp) (by simpa using hdone)
      · refine sublist_insertions (fun command hc => ?_) hdone
        obtain ⟨words, -, rfl⟩ := List.mem_map.mp hc
        exact ⟨words, rfl⟩

theorem LeftBehind.tended (h : LeftBehind chain) : Tended chain := by
  induction h with
  | foreign h =>
      rename_i chain
      constructor
      case rules =>
        intro e he htag
        have hin : e ∈ taggedEntries chain :=
          List.mem_filter.mpr ⟨he, Option.isSome_iff_ne_none.mpr htag⟩
        rw [h] at hin
        cases hin
      case nodup =>
        rw [filter_legible, h]
        exact List.nodup_nil
  | reconciled h quotes lan ops hdone ih => exact ih.runCommands hdone
  | edited h hflushed ih => exact ih.of_sublist hflushed

/-- The tagged rules of a readable chain that reconciles have left behind. -/
theorem Tended.tidy (h : Tended chain) (hread : ∀ e ∈ chain, e.Readable quotes s.wantedComments) :
    Tidy (taggedRules chain) where
  shaped := h.rules.shaped
  nodup := by
    have hlegible : chain.filter Entry.Legible = (taggedRules chain).map Rule.listed := by
      rw [← h.rules.filter_tagged]
      apply List.filter_congr
      intro e he
      have hentry := hread e he
      unfold Entry.Readable at hentry
      cases htag : e.tag with
      | none => simp [Entry.Legible, htag]
      | some tag =>
          rw [htag] at hentry
          simp [Entry.Legible, htag, hentry.1, hentry.2.1]
    have hnodup := h.nodup
    have htags : ((taggedRules chain).map Rule.listed).map Entry.tag =
        ((taggedRules chain).map Rule.tag).map fun tag => some tag.comment := by
      simp [tag_listed]
    rw [hlegible, htags] at hnodup
    exact hnodup.of_map

end Left

/-- Whatever earlier reconciles, flushes and foreign edits have left in the chain: if the listing
shows it as it is, a reconcile of which no command fails is exact precisely when the desired
ACCEPTs it finds by their tags are in the chain as desired, with the backstop below them. -/
theorem reconcile_exact_iff (quotes : String → Bool) (lan : LanConfig) (ops : List StoreOp)
    (chain : List Entry) (found : LeftBehind chain)
    (hread : ∀ e ∈ chain, e.Readable quotes ((storeMachine lan).run {} ops).wantedComments)
    (plan : TextPlan) (run : ChainRun)
    (hrun : textReconcile quotes ((storeMachine lan).run {} ops) chain = some (plan, run))
    (hsucceeded : run.succeeded = true) :
    Exact ((storeMachine lan).run {} ops) (taggedRules run.chain) ↔
      KeptInPlace ((storeMachine lan).run {} ops) (taggedRules chain) := by
  have htended := found.tended
  rw [taggedRules_of_textReconcile htended.rules hread hrun hsucceeded]
  exact exact_reconciled_iff (Stores.sound_run lan ops) (htended.tidy hread)

/-- The chain after the first reconcile of the node, above a foreign entry. -/
def firstChain : List Entry :=
  [acceptRule "192.168.1.20" "node-a:color" 5101, acceptRule "192.168.1.20" "node-a:color" 5100,
    backstopRule].map Rule.listed ++ [["-i", "lo", "-j", "ACCEPT"]]

theorem firstChain_leftBehind : LeftBehind firstChain := by
  have hrun : runCommands [["-i", "lo", "-j", "ACCEPT"]] (reconcileCommands (fun _ => false)
      ((storeMachine {}).run {} boundCamera) [["-i", "lo", "-j", "ACCEPT"]]) = firstChain := by
    decide +kernel
  rw [← hrun]
  exact .reconciled (.foreign (by decide)) (fun _ => false) {} boundCamera (List.prefix_refl _)

theorem taggedRules_firstChain : taggedRules firstChain =
    [acceptRule "192.168.1.20" "node-a:color" 5101, acceptRule "192.168.1.20" "node-a:color" 5100,
      backstopRule] := by
  rw [firstChain, taggedRules_append, taggedRules_listed]
  decide +kernel

theorem boundCamera_reconciled_again :
    Exact ((storeMachine {}).run {} boundCamera) (taggedRules firstChain) := by
  have hdesired : ((storeMachine {}).run {} boundCamera).desiredRules =
      [acceptRule "192.168.1.20" "node-a:color" 5100,
        acceptRule "192.168.1.20" "node-a:color" 5101, backstopRule] := by decide +kernel
  refine (reconcile_exact_iff (fun _ => false) {} boundCamera firstChain firstChain_leftBehind
    (by decide +kernel) ⟨[], []⟩ ⟨firstChain, true⟩ (by decide +kernel) rfl).mpr ?_
  intro r hr hremote _
  simp only [hdesired, List.mem_cons, List.not_mem_nil, or_false] at hr
  rcases hr with rfl | rfl | rfl
  · exact ⟨[_], _, taggedRules_firstChain, by simp⟩
  · exact ⟨[], _, taggedRules_firstChain, by simp⟩
  · exact absurd hremote.1 (by decide)

/-- The node comes back under another address: its tags are unchanged, so the chain
keeps the old address and never learns the new one. -/
theorem moved_host_not_exact :
    ¬ ∀ (quotes : String → Bool) (lan : LanConfig) (ops : List StoreOp) (chain : List Entry),
      LeftBehind chain → ∀ (plan : TextPlan) (run : ChainRun),
        textReconcile quotes ((storeMachine lan).run {} ops) chain = some (plan, run) →
        run.succeeded = true → Exact ((storeMachine lan).run {} ops) (taggedRules run.chain) := by
  intro hclaim
  let moved : List StoreOp := boundCamera ++
    [.upsertNode "node-a" "192.168.1.30" "remote_producer" "unknown" none none "token"]
  let p : Packet := ⟨"192.168.1.20", 5100, by decide⟩
  have hexact := hclaim (fun _ => false) {} moved firstChain firstChain_leftBehind ⟨[], []⟩
    ⟨firstChain, true⟩ (by decide +kernel) rfl p ⟨by decide, by decide⟩
  have haccepted : verdict (taggedRules firstChain) p = some .accept := by
    rw [taggedRules_firstChain]
    decide +kernel
  have hdesired : ((storeMachine {}).run {} moved).desiredRules =
      [acceptRule "192.168.1.30" "node-a:color" 5100,
        acceptRule "192.168.1.30" "node-a:color" 5101, backstopRule] := by decide +kernel
  obtain ⟨bid, hmem⟩ := owned_iff.mp (hexact.1.mp haccepted)
  simp [hdesired, acceptRule, backstopRule, p] at hmem

end CameraStack.Topology
