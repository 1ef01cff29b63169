/-
# The chain as the reconcile reads it

A reconcile knows the chain only as text.  `iptables-save` prints one line per rule; the
lines with a tag are picked out of it, the tags are read back with `shlex`, and a rule is
deleted by handing the words of its line to `iptables -D`.

Here a rule is the list of its words behind `-A INPUT`, in the order in which it is listed.
Whether a word is printed bare or in double quotes is a parameter; option names are bare, and
what would not survive bare is always quoted, with a backslash in front of quotes and
backslashes.  The rest of the listing holds no line that begins with `-A` and carries a tag.
-/

import Mathlib.Data.List.TakeWhile
import CameraStack.Lib.Shlex
import CameraStack.Topology.Firewall

namespace CameraStack.Topology

open CameraStack.Lib

/-! ## The listing -/

/-- A rule of the INPUT chain, word by word. -/
abbrev Entry := List String

/-- One word of a line; `quotes` tells which words are put in quotes without need. -/
def printWord (quotes : String → Bool) (w : String) : List Char :=
  let bare := !w.toList.isEmpty && w.toList.all isShellPlain
  if bare && (w.toList.head? = some '-' || !quotes w) then w.toList else inQuotes w.toList

/-- The line of a rule. -/
def Entry.line (quotes : String → Bool) (e : Entry) : List Char :=
  List.intercalate [' '] ("-A".toList :: "INPUT".toList :: e.map (printWord quotes))

/-- The lines `iptables-save` prints for the chain. -/
def iptablesSave (quotes : String → Bool) (chain : List Entry) : List Char :=
  chain.flatMap fun e => e.line quotes ++ ['\n']

/-- A line with the comment of a tag, bare or quoted. -/
def isTaggedLine (line : List Char) : Bool :=
  "-A ".toList.isPrefixOf line &&
    (decide ("--comment camnode:".toList <:+: line) ||
      decide ("--comment \"camnode:".toList <:+: line))

/-- `_current_tagged_lines`. -/
def currentTaggedLines (out : List Char) : List (List Char) := (splitLines out).filter isTaggedLine

/-- The first comment among the words, if it is a tag; the outer `none` is the `IndexError`
where `--comment` is the last word. -/
def tagOfWords (words : List String) : Option (Option String) :=
  match words.dropWhile fun w => w ≠ "--comment" with
  | [] => some none
  | [_] => none
  | _ :: comment :: _ =>
      some (if "camnode:".toList.isPrefixOf comment.toList then some comment else none)

/-- The words of a line. -/
def wordsOfLine (line : List Char) : Option (List String) :=
  (shlexSplit line).map fun words => words.map String.ofList

/-- `_tag_of_line`. -/
def tagOfLine (line : List Char) : Option (Option String) :=
  match wordsOfLine line with
  | none => some none
  | some words => tagOfWords words

/-- What is kept of the tagged lines, one after the other; `none` when a line raises. -/
def overTaggedLines {β : Type} (f : List Char → Option (Option β)) (out : List Char) :
    Option (List β) :=
  ((currentTaggedLines out).mapM f).map fun kept => kept.filterMap id

/-- `_current_tagged`. -/
def currentTagged (out : List Char) : Option (List String) := overTaggedLines tagOfLine out

/-! ## The reconcile -/

/-- The comment of a rule. -/
def Tag.comment (tag : Tag) : String := "camnode:" ++ tag.text

/-- `Rule.args`, in the order in which the rule is listed. -/
def Rule.listed (r : Rule) : Entry :=
  (match r.spec.source with
    | some host => ["-s", host ++ "/32"]
    | none => []) ++
  ["-p", "udp", "-m", "udp", "--dport",
    (if r.spec.portLow = r.spec.portHigh then toString r.spec.portLow
      else toString r.spec.portLow ++ ":" ++ toString r.spec.portHigh),
    "-m", "comment", "--comment", r.tag.comment, "-j",
    (match r.spec.target with
      | .accept => "ACCEPT"
      | .drop => "DROP")]

/-- `Plan`. -/
structure TextPlan where
  add : List Rule
  removeComments : List String
  deriving DecidableEq

/-- `Plan.is_noop`. -/
def TextPlan.isNoop (plan : TextPlan) : Bool := plan.add.isEmpty && plan.removeComments.isEmpty

/-- The diff of the desired rules and a listing; `none` when reading the listing raises. -/
def textPlan (desired : List Rule) (out : List Char) : Option TextPlan :=
  (currentTagged out).map fun present =>
    let want := wantItems desired
    { add := want.filter fun r => r.tag.comment ∉ present
      removeComments := present.filter fun tag => tag ∉ want.map fun r => r.tag.comment }

/-- The chain, and whether every command on it has succeeded. -/
structure ChainRun where
  chain : List Entry
  succeeded : Bool := true
  deriving DecidableEq

/-- `iptables -I INPUT 1`. -/
def ChainRun.insert (run : ChainRun) (e : Entry) : ChainRun := { run with chain := e :: run.chain }

/-- `iptables -D` with the words of a line: the first rule of the chain with exactly these
words, if there is one. -/
def ChainRun.delete (run : ChainRun) (words : List String) : ChainRun where
  chain := if words.head? = some "INPUT" then run.chain.erase words.tail else run.chain
  succeeded := run.succeeded && words.head? = some "INPUT" && run.chain.contains words.tail

/-- The words behind `-A` of the listed lines whose tag is stale. -/
def staleWords (stale : List String) (out : List Char) : Option (List (List String)) :=
  overTaggedLines (fun line => (tagOfLine line).map fun tag =>
    if tag.any (· ∈ stale) then (wordsOfLine line).map List.tail else none) out

/-- `reconcile(apply=True)`; the first listing makes the plan, a second one after the
insertions gives the rules to delete. -/
def textReconcile (quotes : String → Bool) (s : Stores) (chain : List Entry) :
    Option (TextPlan × ChainRun) :=
  (textPlan s.desiredRules (iptablesSave quotes chain)).bind fun plan =>
    let backstop := plan.add.filter fun r => r.tag = .backstop
    let accepts := plan.add.filter fun r => r.tag ≠ .backstop
    let added := ((backstop ++ accepts).map Rule.listed).foldl ChainRun.insert { chain := chain }
    if plan.removeComments.isEmpty then some (plan, added)
    else
      (staleWords plan.removeComments (iptablesSave quotes added.chain)).map fun gone =>
        (plan, gone.foldl ChainRun.delete added)

/-! ## Reading a rule back -/

/-- The tag of a rule. -/
def Entry.tag (e : Entry) : Option String := (tagOfWords e).join

/-- No word of the rule breaks its line. -/
def Entry.oneLine (e : Entry) : Bool := e.all fun w => w.toList.all fun c => !isLineBreak c

/-- The text has a single quote. -/
def hasApostrophe (w : String) : Bool := w.toList.contains '\''

/-- What is read of a word. -/
def wordRead (w : String) : String := String.ofList (keptBackslashes w.toList)

theorem wordRead_eq_self {w : String} (h : hasApostrophe w = false) : wordRead w = w := by
  unfold wordRead
  rw [keptBackslashes_eq_self, String.ofList_toList]
  simpa [hasApostrophe] using h

theorem wordRead_eq_iff {w v : String} (hv : hasApostrophe v = false) :
    wordRead w = v ↔ w = v := by
  constructor
  · intro h
    have hlist : keptBackslashes w.toList = v.toList := by
      rw [← h, wordRead, String.toList_ofList]
    apply String.toList_injective
    exact eq_of_keptBackslashes_eq hlist (by simpa [hasApostrophe] using hv)
  · rintro rfl
    exact wordRead_eq_self hv

theorem printWord_eq (quotes : String → Bool) (w : String) :
    printWord quotes w = w.toList ∨ printWord quotes w = inQuotes w.toList := by
  unfold printWord
  simp only
  split_ifs
  · exact .inl rfl
  · exact .inr rfl

theorem readAs_printWord (quotes : String → Bool) (w : String) :
    ReadAs (printWord quotes w) (wordRead w).toList := by
  unfold printWord wordRead
  rw [String.toList_ofList]
  simp only
  split_ifs with hbare
  · simp only [Bool.and_eq_true, Bool.not_eq_true', List.isEmpty_eq_false_iff] at hbare
    obtain ⟨⟨hne, hplain⟩, -⟩ := hbare
    have hquote : '\'' ∉ w.toList := fun hmem => by
      have hc := List.all_eq_true.mp hplain _ hmem
      exact absurd hc (by decide)
    rw [keptBackslashes_eq_self hquote]
    exact readAs_plain hne hplain
  · exact readAs_inQuotes _

/-- The words of a line. -/
theorem wordsOfLine_line (quotes : String → Bool) (e : Entry) :
    wordsOfLine (e.line quotes) = some ("-A" :: "INPUT" :: e.map wordRead) := by
  have hread : List.Forall₂ ReadAs
      ("-A".toList :: "INPUT".toList :: e.map (printWord quotes))
      ("-A".toList :: "INPUT".toList :: e.map fun w => (wordRead w).toList) := by
    refine .cons (readAs_plain (by decide) (by decide))
      (.cons (readAs_plain (by decide) (by decide)) ?_)
    induction e with
    | nil => exact .nil
    | cons w e ih => exact .cons (readAs_printWord quotes w) ih
  unfold wordsOfLine Entry.line
  rw [shlexSplit_intercalate hread]
  simp [Function.comp_def]

/-- Where the tag of a rule stands. -/
theorem Entry.tag_eq_some {e : Entry} {tag : String} (h : e.tag = some tag) :
    ∃ before after, e = before ++ "--comment" :: tag :: after ∧
      (∀ w ∈ before, w ≠ "--comment") ∧ "camnode:".toList.isPrefixOf tag.toList = true := by
  have hsplit := List.takeWhile_append_dropWhile (p := fun w => decide (w ≠ "--comment")) (l := e)
  have hbefore : ∀ w ∈ e.takeWhile fun w => w ≠ "--comment", w ≠ "--comment" :=
    fun w hw => by simpa using List.mem_takeWhile_imp hw
  have hhead := List.head?_dropWhile_not (fun w => decide (w ≠ "--comment")) e
  unfold Entry.tag tagOfWords at h
  split at h
  · cases h
  · cases h
  · next option comment after hdrop =>
      rw [hdrop] at hsplit hhead
      obtain rfl : option = "--comment" := by simpa using hhead
      by_cases hprefix : "camnode:".toList.isPrefixOf comment.toList = true
      · rw [if_pos hprefix] at h
        cases h
        exact ⟨_, after, hsplit.symm, hbefore, hprefix⟩
      · rw [if_neg hprefix] at h
        cases h

/-- The tag of words whose first comment it is. -/
theorem tagOfWords_append {before after : List String} {tag : String}
    (hbefore : ∀ w ∈ before, w ≠ "--comment")
    (hcamnode : "camnode:".toList.isPrefixOf tag.toList = true) :
    tagOfWords (before ++ "--comment" :: tag :: after) = some (some tag) := by
  have hdrop : (before ++ "--comment" :: tag :: after).dropWhile (fun w => w ≠ "--comment") =
      "--comment" :: tag :: after := by
    rw [List.dropWhile_append_of_pos (by simpa using hbefore)]
    rfl
  unfold tagOfWords
  rw [hdrop]
  simp only [hcamnode, if_true]

/-- The tag of a rule is read back, unless it has a single quote. -/
theorem tagOfLine_line (quotes : String → Bool) {e : Entry} {tag : String}
    (htag : e.tag = some tag) (hquote : hasApostrophe tag = false) :
    tagOfLine (e.line quotes) = some (some tag) := by
  obtain ⟨before, after, rfl, hbefore, hprefix⟩ := Entry.tag_eq_some htag
  unfold tagOfLine
  rw [wordsOfLine_line]
  simp only [List.map_append, List.map_cons, wordRead_eq_self hquote,
    wordRead_eq_self (show hasApostrophe "--comment" = false by decide)]
  rw [← List.cons_append, ← List.cons_append]
  apply tagOfWords_append _ hprefix
  intro w hw
  rcases List.mem_cons.mp hw with rfl | hw
  · decide
  · rcases List.mem_cons.mp hw with rfl | hw
    · decide
    · obtain ⟨v, hv, rfl⟩ := List.mem_map.mp hw
      intro heq
      exact hbefore v hv ((wordRead_eq_iff (by decide)).mp heq)

/-- The line of a tagged rule is picked out of the listing. -/
theorem isTaggedLine_line (quotes : String → Bool) {e : Entry} {tag : String}
    (htag : e.tag = some tag) : isTaggedLine (e.line quotes) = true := by
  obtain ⟨before, after, rfl, -, hprefix⟩ := Entry.tag_eq_some htag
  obtain ⟨rest, hrest⟩ := List.isPrefixOf_iff_prefix.mp hprefix
  have hstart : "-A ".toList.isPrefixOf
      ((before ++ "--comment" :: tag :: after : Entry).line quotes) = true := by
    unfold Entry.line
    rw [List.intercalate_cons_cons]
    rfl
  have hcomment : printWord quotes "--comment" = "--comment".toList := by
    simp [printWord, isShellPlain, isShellBlank, isShellQuote]
  have hinfix := infix_intercalate
    ("-A".toList :: "INPUT".toList :: before.map (printWord quotes))
    (after.map (printWord quotes)) (printWord quotes "--comment") (printWord quotes tag)
  rw [hcomment] at hinfix
  unfold isTaggedLine
  rw [hstart, Bool.true_and, Bool.or_eq_true, decide_eq_true_eq, decide_eq_true_eq]
  have hline : (before ++ "--comment" :: tag :: after : Entry).line quotes =
      List.intercalate [' '] (("-A".toList :: "INPUT".toList :: before.map (printWord quotes)) ++
        "--comment".toList :: printWord quotes tag :: after.map (printWord quotes)) := by
    simp [Entry.line, hcomment]
  rw [hline]
  rcases printWord_eq quotes tag with hbare | hquoted
  · left
    rw [hbare, ← hrest] at hinfix ⊢
    exact (List.prefix_append ("--comment camnode:".toList) rest).isInfix.trans hinfix
  · right
    rw [hquoted, ← hrest] at hinfix ⊢
    have hfront : "--comment \"camnode:".toList <+:
        "--comment \"camnode:".toList ++ (backslashed rest ++ ['"']) := List.prefix_append _ _
    exact hfront.isInfix.trans hinfix

/-- Printing puts no line break into a rule. -/
theorem Entry.line_unbroken (quotes : String → Bool) {e : Entry} (h : e.oneLine = true) :
    ∀ c ∈ e.line quotes, isLineBreak c = false := by
  intro c hc
  rcases mem_intercalate hc with rfl | ⟨text, htext, hmem⟩
  · decide
  · simp only [List.mem_cons, List.mem_map] at htext
    rcases htext with rfl | rfl | ⟨w, hw, rfl⟩
    · have hplain : "-A".toList.all (fun c => !isLineBreak c) = true := by decide
      simpa using List.all_eq_true.mp hplain c hmem
    · have hplain : "INPUT".toList.all (fun c => !isLineBreak c) = true := by decide
      simpa using List.all_eq_true.mp hplain c hmem
    · have hword := List.all_eq_true.mp (List.all_eq_true.mp h w hw)
      rcases printWord_eq quotes w with hprint | hprint
      · rw [hprint] at hmem
        simpa using hword c hmem
      · rw [hprint] at hmem
        rcases mem_inQuotes hmem with rfl | rfl | hin
        · decide
        · decide
        · simpa using hword c hin

/-! ## Reading a chain back -/

section Reading

variable {quotes : String → Bool} {chain : List Entry}

theorem overTaggedLines_append {β : Type} (f : List Char → Option (Option β))
    (text rest : List Char) :
    overTaggedLines f (text ++ '\n' :: rest) =
      (overTaggedLines f (text ++ ['\n'])).bind fun kept =>
        (overTaggedLines f rest).map fun more => kept ++ more := by
  unfold overTaggedLines currentTaggedLines
  rw [splitLines_append_newline, List.filter_append, List.mapM_append]
  cases (List.filter isTaggedLine (splitLines (text ++ ['\n']))).mapM f with
  | none => rfl
  | some kept =>
      cases (List.filter isTaggedLine (splitLines rest)).mapM f with
      | none => rfl
      | some more => simp

/-- What is kept of the listing is what is kept of each rule. -/
theorem overTaggedLines_iptablesSave {β : Type} {f : List Char → Option (Option β)}
    {g : Entry → Option β}
    (h : ∀ e ∈ chain, overTaggedLines f (e.line quotes ++ ['\n']) = some (g e).toList) :
    overTaggedLines f (iptablesSave quotes chain) = some (chain.filterMap g) := by
  induction chain with
  | nil => rfl
  | cons e chain ih =>
      rw [iptablesSave, List.flatMap_cons, List.append_assoc, List.singleton_append,
        overTaggedLines_append, h e List.mem_cons_self, ← iptablesSave,
        ih fun e' he' => h e' (List.mem_cons_of_mem _ he')]
      cases hg : g e with
      | none => simp [hg]
      | some b => simp [hg]

/-- A rule on one line. -/
theorem overTaggedLines_line {β : Type} (f : List Char → Option (Option β)) {e : Entry}
    (hline : e.oneLine = true) {tag : String} (htag : e.tag = some tag) :
    overTaggedLines f (e.line quotes ++ ['\n']) =
      (f (e.line quotes)).map fun kept => kept.toList := by
  unfold overTaggedLines currentTaggedLines
  rw [splitLines_line (Entry.line_unbroken quotes hline), splitLines,
    List.filter_cons_of_pos (isTaggedLine_line quotes htag)]
  cases hf : f (e.line quotes) with
  | none => simp [hf]
  | some kept => cases kept <;> simp [hf]

/-- The listing shows the rule as it is: its tag is read back, its words as well if the tag is
none of the wanted ones; a rule without a tag does not look like one with a tag. -/
def Entry.Readable (quotes : String → Bool) (wanted : List String) (e : Entry) : Prop :=
  match e.tag with
  | some tag =>
      e.oneLine = true ∧ hasApostrophe tag = false ∧
        (tag ∉ wanted → ∀ w ∈ e, hasApostrophe w = false)
  | none =>
      ∀ line ∈ splitLines (e.line quotes ++ ['\n']), isTaggedLine line = true →
        tagOfLine line = some none

instance (quotes : String → Bool) (wanted : List String) (e : Entry) :
    Decidable (e.Readable quotes wanted) :=
  match htag : e.tag with
  | some tag =>
      decidable_of_iff (e.oneLine = true ∧ hasApostrophe tag = false ∧
        (tag ∉ wanted → ∀ w ∈ e, hasApostrophe w = false)) (by simp [Entry.Readable, htag])
  | none =>
      decidable_of_iff (∀ line ∈ splitLines (e.line quotes ++ ['\n']), isTaggedLine line = true →
        tagOfLine line = some none) (by simp [Entry.Readable, htag])

/-- Nothing is kept of the lines of a rule that does not look tagged. -/
theorem overTaggedLines_untagged {β : Type} {f : List Char → Option (Option β)}
    {out : List Char} (hskip : ∀ line, tagOfLine line = some none → f line = some none)
    (h : ∀ line ∈ splitLines out, isTaggedLine line = true → tagOfLine line = some none) :
    overTaggedLines f out = some [] := by
  have hkept : ∀ lines : List (List Char),
      (∀ line ∈ lines, tagOfLine line = some none) →
      ((lines.mapM f).map fun kept => kept.filterMap id) = some [] := by
    intro lines hlines
    induction lines with
    | nil => rfl
    | cons line lines ih =>
        have hrest := ih fun line' hline' => hlines line' (List.mem_cons_of_mem _ hline')
        obtain ⟨kept, hkept, hnone⟩ := Option.map_eq_some_iff.mp hrest
        rw [List.mapM_cons, hskip line (hlines line List.mem_cons_self), hkept]
        simpa using hnone
  apply hkept
  intro line hline
  obtain ⟨hmem, htagged⟩ := List.mem_filter.mp hline
  exact h line hmem htagged

/-- The tags of a readable chain. -/
theorem currentTagged_iptablesSave {wanted : List String}
    (h : ∀ e ∈ chain, e.Readable quotes wanted) :
    currentTagged (iptablesSave quotes chain) = some (chain.filterMap Entry.tag) := by
  apply overTaggedLines_iptablesSave
  intro e he
  have hread := h e he
  unfold Entry.Readable at hread
  cases htag : e.tag with
  | none =>
      rw [htag] at hread
      exact overTaggedLines_untagged (fun _ hline => hline) hread
  | some tag =>
      rw [htag] at hread
      obtain ⟨hline, hquote, -⟩ := hread
      rw [overTaggedLines_line tagOfLine hline htag, tagOfLine_line quotes htag hquote]
      rfl

/-- The rules of a readable chain whose tags are stale. -/
theorem staleWords_iptablesSave {wanted stale : List String}
    (h : ∀ e ∈ chain, e.Readable quotes wanted) (hstale : ∀ tag ∈ stale, tag ∉ wanted) :
    staleWords stale (iptablesSave quotes chain) =
      some ((chain.filter fun e => e.tag.any (· ∈ stale)).map fun e => "INPUT" :: e) := by
  have hkeep : (chain.filter fun e => e.tag.any (· ∈ stale)).map (fun e => "INPUT" :: e) =
      chain.filterMap fun e => if e.tag.any (· ∈ stale) then some ("INPUT" :: e) else none := by
    rw [← List.filterMap_eq_map, List.filterMap_filter]
    rfl
  rw [hkeep]
  apply overTaggedLines_iptablesSave
  intro e he
  have hread := h e he
  unfold Entry.Readable at hread
  cases htag : e.tag with
  | none =>
      rw [htag] at hread
      refine overTaggedLines_untagged (fun line hline => ?_) hread
      rw [hline]
      rfl
  | some tag =>
      rw [htag] at hread
      obtain ⟨hline, hquote, hwords⟩ := hread
      rw [overTaggedLines_line _ hline htag, tagOfLine_line quotes htag hquote]
      by_cases hmem : tag ∈ stale
      · have hsame : e.map wordRead = e :=
          (List.map_congr_left fun w hw => wordRead_eq_self (hwords (hstale tag hmem) w hw)).trans
            (List.map_id e)
        simp [hmem, wordsOfLine_line, hsame]
      · simp [hmem]

end Reading

/-! ## The reconcile of a readable chain -/

/-- The tags wanted are those of the rules. -/
theorem mem_map_tag_wantItems {rules : List Rule} {tag : Tag} :
    tag ∈ (wantItems rules).map Rule.tag ↔ tag ∈ rules.map Rule.tag := by
  have hinsert : ∀ (want : List Rule) (r : Rule),
      tag ∈ (wantInsert want r).map Rule.tag ↔ tag ∈ want.map Rule.tag ∨ tag = r.tag := by
    intro want r
    unfold wantInsert
    split
    · next hold =>
        have htags : (want.map fun old => if old.tag = r.tag then r else old).map Rule.tag =
            want.map Rule.tag := by
          rw [List.map_map]
          apply List.map_congr_left
          intro old _
          by_cases heq : old.tag = r.tag
          · simp [heq]
          · simp [heq]
        rw [htags]
        constructor
        · exact Or.inl
        · rintro (hin | rfl)
          · exact hin
          · exact hold
    · simp
  suffices loop : ∀ (rules want : List Rule), tag ∈ (rules.foldl wantInsert want).map Rule.tag ↔
      tag ∈ want.map Rule.tag ∨ tag ∈ rules.map Rule.tag by
    exact (loop rules []).trans (by simp)
  intro rules
  induction rules with
  | nil => simp
  | cons r rules ih =>
      intro want
      rw [List.foldl_cons, ih, hinsert, List.map_cons, List.mem_cons, or_assoc]

/-- The rules wanted are among the rules. -/
theorem mem_of_mem_wantItems {rules : List Rule} {x : Rule} (h : x ∈ wantItems rules) :
    x ∈ rules := by
  suffices loop : ∀ (rules want : List Rule), x ∈ rules.foldl wantInsert want →
      x ∈ want ∨ x ∈ rules by simpa using loop rules [] h
  intro rules
  induction rules with
  | nil => exact fun want h => .inl h
  | cons r rules ih =>
      intro want h
      rcases ih _ h with hin | hin
      · unfold wantInsert at hin
        split at hin
        · obtain ⟨old, hold, rfl⟩ := List.mem_map.mp hin
          split
          · exact .inr List.mem_cons_self
          · exact .inl hold
        · rcases List.mem_append.mp hin with hin | hin
          · exact .inl hin
          · rw [List.mem_singleton.mp hin]
            exact .inr List.mem_cons_self
      · exact .inr (List.mem_cons_of_mem _ hin)

/-- The tag of a rule that was inserted. -/
theorem tag_listed (r : Rule) : Entry.tag r.listed = some r.tag.comment := by
  have hports : (if r.spec.portLow = r.spec.portHigh then toString r.spec.portLow
      else toString r.spec.portLow ++ ":" ++ toString r.spec.portHigh) ≠ "--comment" := by
    intro heq
    have hletter : 'm' ∈ "--comment".toList := by decide
    rw [← heq] at hletter
    split at hletter
    · exact not_mem_toString (by decide) (by decide) _ hletter
    · simp only [String.toList_append, List.mem_append] at hletter
      rcases hletter with (hlow | hcolon) | hhigh
      · exact not_mem_toString (by decide) (by decide) _ hlow
      · exact absurd hcolon (by decide)
      · exact not_mem_toString (by decide) (by decide) _ hhigh
  have hhost : ∀ host : String, host ++ "/32" ≠ "--comment" := by
    intro host heq
    have hslash : '/' ∈ (host ++ "/32").toList := by simp
    rw [heq] at hslash
    exact absurd hslash (by decide)
  have hprefix : "camnode:".toList.isPrefixOf r.tag.comment.toList = true := by
    rw [List.isPrefixOf_iff_prefix, Tag.comment, String.toList_append]
    exact List.prefix_append _ _
  unfold Entry.tag Rule.listed
  generalize (if r.spec.portLow = r.spec.portHigh then toString r.spec.portLow
      else toString r.spec.portLow ++ ":" ++ toString r.spec.portHigh) = ports at hports ⊢
  cases r.spec.source with
  | none =>
      have hbefore : ∀ w ∈ ["-p", "udp", "-m", "udp", "--dport", ports, "-m", "comment"],
          w ≠ "--comment" := by
        simpa using hports
      exact congrArg Option.join (tagOfWords_append hbefore hprefix)
  | some host =>
      have hbefore : ∀ w ∈ ["-s", host ++ "/32", "-p", "udp", "-m", "udp", "--dport", ports, "-m",
          "comment"], w ≠ "--comment" := by
        simpa using ⟨hhost host, hports⟩
      exact congrArg Option.join (tagOfWords_append hbefore hprefix)

theorem foldl_insert (new : List Entry) (run : ChainRun) :
    new.foldl ChainRun.insert run = { run with chain := new.reverse ++ run.chain } := by
  induction new generalizing run with
  | nil => rfl
  | cons e new ih =>
      rw [List.foldl_cons, ih]
      simp [ChainRun.insert]

/-- Erasing every element of a class, one occurrence at a time, filters it out. -/
theorem foldl_erase_filter {α : Type} [BEq α] [LawfulBEq α] (l : List α) (p : α → Bool) :
    (l.filter p).foldl List.erase l = l.filter fun x => !p x := by
  have hskip : ∀ (x : α) (gone xs : List α), x ∉ gone →
      gone.foldl List.erase (x :: xs) = x :: gone.foldl List.erase xs := by
    intro x gone
    induction gone with
    | nil => intros; rfl
    | cons y gone ih =>
        intro xs hx
        simp only [List.mem_cons, not_or] at hx
        rw [List.foldl_cons, List.foldl_cons, List.erase_cons_tail (by simpa using hx.1), ih _ hx.2]
  induction l with
  | nil => rfl
  | cons x xs ih =>
      by_cases hx : p x = true
      · rw [List.filter_cons_of_pos hx, List.foldl_cons, List.erase_cons_head, ih,
          List.filter_cons_of_neg (by simp [hx])]
      · have hout : x ∉ xs.filter p := fun hmem => hx (List.mem_filter.mp hmem).2
        rw [List.filter_cons_of_neg hx, hskip x _ xs hout, ih,
          List.filter_cons_of_pos (by simp [hx])]

/-- Deleting the rules of a class, one after the other, deletes exactly them. -/
theorem foldl_delete (p : Entry → Bool) (chain : List Entry) :
    ((chain.filter p).map fun e => "INPUT" :: e).foldl ChainRun.delete { chain := chain } =
      { chain := chain.filter fun e => !p e } := by
  have hdelete : ∀ (gone : List Entry) (chain : List Entry), List.Sublist gone chain →
      (gone.map fun e => "INPUT" :: e).foldl ChainRun.delete { chain := chain } =
        { chain := gone.foldl List.erase chain } := by
    intro gone
    induction gone with
    | nil => exact fun _ _ => rfl
    | cons e gone ih =>
        intro chain hsub
        have hmem : e ∈ chain := hsub.subset List.mem_cons_self
        have hrest : List.Sublist gone (chain.erase e) := by
          simpa using hsub.erase e
        rw [List.map_cons, List.foldl_cons, List.foldl_cons, ← ih _ hrest]
        simp [ChainRun.delete, hmem]
  rw [hdelete _ _ List.filter_sublist, foldl_erase_filter]

/-- The listing shows the rule a reconcile inserts as it is. -/
def Rule.Printable (r : Rule) : Prop :=
  Entry.oneLine r.listed = true ∧ hasApostrophe r.tag.comment = false

instance : DecidablePred Rule.Printable := fun _ => inferInstanceAs (Decidable (_ ∧ _))

/-- What a reconcile is for, on a chain on which it runs to its end. -/
structure Settled (quotes : String → Bool) (s : Stores) (chain after : List Entry) : Prop where
  tags : ∀ tag, (∃ e ∈ after, e.tag = some tag) ↔ ∃ r ∈ s.desiredRules, r.tag.comment = tag
  again : (textPlan s.desiredRules (iptablesSave quotes after)).any TextPlan.isNoop = true
  others : after.filter (fun e => e.tag = none) = chain.filter fun e => e.tag = none

section Reconcile

variable {quotes : String → Bool} {s : Stores} {chain : List Entry}

/-- The comments of the desired rules. -/
def Stores.wantedComments (s : Stores) : List String :=
  s.desiredRules.map fun r => r.tag.comment

theorem mem_want_comments {comment : String} :
    comment ∈ (wantItems s.desiredRules).map (fun r => r.tag.comment) ↔
      comment ∈ s.wantedComments := by
  have hcomp : ∀ rules : List Rule, rules.map (fun r => r.tag.comment) =
      (rules.map Rule.tag).map Tag.comment := fun rules => by simp
  unfold Stores.wantedComments
  rw [hcomp, hcomp, List.mem_map, List.mem_map]
  simp only [mem_map_tag_wantItems]

/-- A printable rule is readable once it is inserted. -/
theorem Rule.Printable.readable {r : Rule} (h : r.Printable) (hr : r ∈ s.desiredRules) :
    Entry.Readable quotes s.wantedComments r.listed := by
  unfold Entry.Readable
  rw [tag_listed]
  exact ⟨h.1, h.2, fun hout => absurd (List.mem_map.mpr ⟨r, hr, rfl⟩) hout⟩

/-- The plan for a chain that is read as it is. -/
def Stores.planFor (s : Stores) (chain : List Entry) : TextPlan where
  add := (wantItems s.desiredRules).filter fun r => r.tag.comment ∉ chain.filterMap Entry.tag
  removeComments := (chain.filterMap Entry.tag).filter fun tag => tag ∉ s.wantedComments

theorem textPlan_iptablesSave (h : ∀ e ∈ chain, e.Readable quotes s.wantedComments) :
    textPlan s.desiredRules (iptablesSave quotes chain) = some (s.planFor chain) := by
  unfold textPlan
  rw [currentTagged_iptablesSave h, Option.map_some]
  simp only [mem_want_comments, Stores.planFor]

/-- The plan for a readable chain with the wanted tags has nothing to do. -/
theorem textPlan_isNoop (h : ∀ e ∈ chain, e.Readable quotes s.wantedComments)
    (htags : ∀ tag, (∃ e ∈ chain, e.tag = some tag) ↔ tag ∈ s.wantedComments) :
    (textPlan s.desiredRules (iptablesSave quotes chain)).any TextPlan.isNoop = true := by
  have hpresent : ∀ tag, tag ∈ chain.filterMap Entry.tag ↔ tag ∈ s.wantedComments := by
    intro tag
    rw [List.mem_filterMap]
    exact htags tag
  rw [textPlan_iptablesSave h, Option.any_some, TextPlan.isNoop, Stores.planFor, Bool.and_eq_true,
    List.isEmpty_iff, List.isEmpty_iff, List.filter_eq_nil_iff, List.filter_eq_nil_iff]
  constructor
  · intro r hr
    simpa [hpresent] using mem_want_comments.mp (List.mem_map.mpr ⟨r, hr, rfl⟩)
  · intro tag htag
    simpa using (hpresent tag).mp htag

/-- The rules a plan inserts, as they come to stand. -/
def TextPlan.inserted (plan : TextPlan) : List Rule :=
  ((plan.add.filter fun r => r.tag = .backstop) ++
    plan.add.filter fun r => r.tag ≠ .backstop).reverse

theorem TextPlan.mem_inserted {plan : TextPlan} {r : Rule} :
    r ∈ plan.inserted ↔ r ∈ plan.add := by
  simp only [inserted, List.mem_reverse, List.mem_append, List.mem_filter, decide_eq_true_eq]
  tauto

/-- The rules that keep their place. -/
def Stores.kept (s : Stores) (chain : List Entry) : List Entry :=
  chain.filter fun e => !e.tag.any (· ∉ s.wantedComments)

/-- What is inserted is wanted. -/
theorem mem_inserted_planFor {r : Rule} :
    r ∈ (s.planFor chain).inserted ↔
      r ∈ wantItems s.desiredRules ∧ r.tag.comment ∉ chain.filterMap Entry.tag := by
  rw [TextPlan.mem_inserted, Stores.planFor, List.mem_filter, decide_eq_true_eq]

theorem wanted_of_mem_inserted {r : Rule} (hr : r ∈ (s.planFor chain).inserted) :
    r.tag.comment ∈ s.wantedComments :=
  mem_want_comments.mp (List.mem_map.mpr ⟨r, (mem_inserted_planFor.mp hr).1, rfl⟩)

theorem mem_removeComments_planFor {tag : String} :
    tag ∈ (s.planFor chain).removeComments ↔
      tag ∈ chain.filterMap Entry.tag ∧ tag ∉ s.wantedComments := by
  rw [Stores.planFor, List.mem_filter, decide_eq_true_eq]

/-- A stale tag is one of an old rule. -/
theorem any_mem_removeComments {e : Entry} (he : e ∈ chain) :
    e.tag.any (· ∈ (s.planFor chain).removeComments) = e.tag.any (· ∉ s.wantedComments) := by
  cases htag : e.tag with
  | none => rfl
  | some tag =>
      have hpresent : tag ∈ chain.filterMap Entry.tag := List.mem_filterMap.mpr ⟨e, he, htag⟩
      rw [Option.any_some, Option.any_some, decide_eq_decide, mem_removeComments_planFor]
      exact and_iff_right hpresent

theorem any_mem_removeComments_listed {e : Entry}
    (he : e ∈ (s.planFor chain).inserted.map Rule.listed) :
    e.tag.any (· ∈ (s.planFor chain).removeComments) = false := by
  obtain ⟨r, hr, rfl⟩ := List.mem_map.mp he
  rw [tag_listed, Option.any_some, decide_eq_false_iff_not, mem_removeComments_planFor]
  exact fun hstale => hstale.2 (wanted_of_mem_inserted hr)

/-- What the deletions are to leave of the chain after the insertions. -/
theorem filter_stale_added :
    ((s.planFor chain).inserted.map Rule.listed ++ chain).filter
        (fun e => !e.tag.any (· ∈ (s.planFor chain).removeComments)) =
      (s.planFor chain).inserted.map Rule.listed ++ s.kept chain := by
  rw [List.filter_append]
  congr 1
  · exact List.filter_eq_self.mpr fun e he => by simp [any_mem_removeComments_listed he]
  · exact List.filter_congr fun e he => by rw [any_mem_removeComments he]

theorem foldl_insert_planFor :
    (((((s.planFor chain).add.filter fun r => r.tag = .backstop) ++
        (s.planFor chain).add.filter fun r => r.tag ≠ .backstop).map Rule.listed).foldl
          ChainRun.insert { chain := chain }) =
      { chain := (s.planFor chain).inserted.map Rule.listed ++ chain } := by
  rw [foldl_insert, ← List.map_reverse, ← TextPlan.inserted]

/-- A reconcile of a readable chain puts what is missing on top and takes out what is stale;
all its deletions succeed. -/
theorem textReconcile_eq (hread : ∀ e ∈ chain, e.Readable quotes s.wantedComments)
    (hprint : ∀ r ∈ s.desiredRules, r.Printable) :
    textReconcile quotes s chain = some (s.planFor chain, ChainRun.mk
      ((s.planFor chain).inserted.map Rule.listed ++ s.kept chain) true) := by
  have hreadAdded : ∀ e ∈ (s.planFor chain).inserted.map Rule.listed ++ chain,
      e.Readable quotes s.wantedComments := by
    intro e he
    rcases List.mem_append.mp he with he | he
    · obtain ⟨r, hr, rfl⟩ := List.mem_map.mp he
      have hdesired := mem_of_mem_wantItems (mem_inserted_planFor.mp hr).1
      exact (hprint r hdesired).readable hdesired
    · exact hread e he
  have hstale : ∀ tag ∈ (s.planFor chain).removeComments, tag ∉ s.wantedComments :=
    fun tag htag => (mem_removeComments_planFor.mp htag).2
  rw [← filter_stale_added]
  unfold textReconcile
  rw [textPlan_iptablesSave hread, Option.bind_some]
  simp only
  rw [foldl_insert_planFor]
  split
  · next hempty =>
      rw [List.isEmpty_iff.mp hempty]
      simp
  · rw [staleWords_iptablesSave hreadAdded hstale, Option.map_some, foldl_delete]

end Reconcile

/-- A reconcile of a chain the listing shows as it is, for rules the listing shows as they are,
runs to its end and settles the chain. -/
theorem reconcile_settles (quotes : String → Bool) (s : Stores) (chain : List Entry)
    (hread : ∀ e ∈ chain, e.Readable quotes s.wantedComments)
    (hprint : ∀ r ∈ s.desiredRules, r.Printable) :
    ∃ plan run, textReconcile quotes s chain = some (plan, run) ∧ run.succeeded = true ∧
      Settled quotes s chain run.chain := by
  refine ⟨s.planFor chain, _, textReconcile_eq hread hprint, rfl, ?_⟩
  set new := (s.planFor chain).inserted with hnew
  have hdesired : ∀ r ∈ new, r ∈ s.desiredRules := fun r hr =>
    mem_of_mem_wantItems (mem_inserted_planFor.mp hr).1
  have htags : ∀ tag, (∃ e ∈ new.map Rule.listed ++ s.kept chain, e.tag = some tag) ↔
      tag ∈ s.wantedComments := by
    intro tag
    constructor
    · rintro ⟨e, he, htag⟩
      rcases List.mem_append.mp he with he | he
      · obtain ⟨r, hr, rfl⟩ := List.mem_map.mp he
        rw [tag_listed, Option.some.injEq] at htag
        exact htag ▸ List.mem_map.mpr ⟨r, hdesired r hr, rfl⟩
      · have hkept := (List.mem_filter.mp he).2
        rw [htag] at hkept
        simpa using hkept
    · intro hwant
      by_cases hpresent : tag ∈ chain.filterMap Entry.tag
      · obtain ⟨e, he, htag⟩ := List.mem_filterMap.mp hpresent
        refine ⟨e, List.mem_append_right _ (List.mem_filter.mpr ⟨he, ?_⟩), htag⟩
        rw [htag]
        simpa using hwant
      · obtain ⟨r, hr, rfl⟩ := List.mem_map.mp (mem_want_comments.mpr hwant)
        have hin := List.mem_map_of_mem (f := Rule.listed)
          (mem_inserted_planFor.mpr ⟨hr, hpresent⟩)
        exact ⟨_, List.mem_append_left _ hin, tag_listed r⟩
  have hreadAfter : ∀ e ∈ new.map Rule.listed ++ s.kept chain,
      e.Readable quotes s.wantedComments := by
    intro e he
    rcases List.mem_append.mp he with he | he
    · obtain ⟨r, hr, rfl⟩ := List.mem_map.mp he
      exact (hprint r (hdesired r hr)).readable (hdesired r hr)
    · exact hread e (List.mem_of_mem_filter he)
  constructor
  case tags =>
    intro tag
    rw [htags, Stores.wantedComments, List.mem_map]
  case again => exact textPlan_isNoop hreadAfter htags
  case others =>
    have hnone : (new.map Rule.listed).filter (fun e => e.tag = none) = [] := by
      rw [List.filter_eq_nil_iff]
      intro e he
      obtain ⟨r, -, rfl⟩ := List.mem_map.mp he
      simp [tag_listed]
    rw [List.filter_append, hnone, List.nil_append, Stores.kept, List.filter_filter]
    apply List.filter_congr
    intro e _
    cases htag : e.tag with
    | none => simp
    | some tag => simp

/-- A chain with a stale tag twice, and a comment that only looks like a tag. -/
def mixedChain : List Entry :=
  [["-i", "lo", "-j", "ACCEPT"],
    (acceptRule "192.168.1.20" "node-old:color" 5200).listed,
    ["-s", "10.0.0.0/8", "-m", "comment", "--comment", "don't --comment camnode:", "-j", "DROP"],
    ["-p", "udp", "-m", "comment", "--comment", "camnode:node-old:color:5200", "-j", "ACCEPT"],
    (acceptRule "192.168.1.20" "node-a:color" 5101).listed]

/-- Comments are printed in quotes. -/
theorem reconcile_settles_mixedChain :
    ∃ plan run, textReconcile (fun w => w.toList.contains ':')
        ((storeMachine {}).run {} boundCamera) mixedChain = some (plan, run) ∧ run.succeeded = true ∧
      Settled (fun w => w.toList.contains ':') ((storeMachine {}).run {} boundCamera) mixedChain
        run.chain :=
  reconcile_settles _ _ _ (by decide +kernel) (by decide +kernel)

/-- The serial of the camera has a single quote: its rules are added again by every reconcile. -/
theorem quoted_serial_unsettled :
    ¬ ∀ (quotes : String → Bool) (lan : LanConfig) (ops : List StoreOp) (chain : List Entry),
      ∃ plan run, textReconcile quotes ((storeMachine lan).run {} ops) chain = some (plan, run) ∧
        (run.succeeded = true → Settled quotes ((storeMachine lan).run {} ops) chain run.chain) := by
  intro hclaim
  obtain ⟨plan, run, hrun, hsettled⟩ := hclaim (fun _ => false) {}
    (boundCamera ++ [.setSerial "node-a" "14'17", .migrateRemoteBindingIds]) []
  have hsucceeded : (textReconcile (fun _ => false) ((storeMachine {}).run {}
        (boundCamera ++ [.setSerial "node-a" "14'17", .migrateRemoteBindingIds])) []).any
      (fun result => result.2.succeeded) = true := by decide +kernel
  have hagain : (textReconcile (fun _ => false) ((storeMachine {}).run {}
        (boundCamera ++ [.setSerial "node-a" "14'17", .migrateRemoteBindingIds])) []).any
      (fun result => (textPlan ((storeMachine {}).run {}
          (boundCamera ++ [.setSerial "node-a" "14'17", .migrateRemoteBindingIds])).desiredRules
        (iptablesSave (fun _ => false) result.2.chain)).any TextPlan.isNoop) = false := by
    decide +kernel
  rw [hrun] at hsucceeded hagain
  have hnoop := (hsettled hsucceeded).again
  rw [Option.any_some, hnoop] at hagain
  cases hagain

end CameraStack.Topology
