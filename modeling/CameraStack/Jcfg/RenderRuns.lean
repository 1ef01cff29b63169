/-
# The public address over renders

A render reads the address in `janus.jcfg` before it writes anything, writes the new text into
a file beside it, and renames that; calls run side by side, and all of them use the same file
beside it.  So an earlier call can restore the address of before, and a call can rename what
another has written.  `address_survives` says that nothing of the kind happens to calls that
keep apart, and `renders_run` that these run as `hostMachine` has it.
-/

import CameraStack.Jcfg.NatUpdate
import CameraStack.Jcfg.Render
import Mathlib.Data.List.InsertIdx

namespace CameraStack.Jcfg

open CameraStack.Lib

/-! ## Calls -/

/-- A call of `render`, once it has its substitutions. -/
structure RenderCall where
  natMapping : Option String
  subs : List (String × Text)
  /-- `janus.jcfg.tmp` is written, and not yet renamed. -/
  written : Bool

/-- What the call makes of the template. -/
def RenderCall.text (call : RenderCall) : Text := applySubstitutions janusJcfgTemplate call.subs

/-- `janus.jcfg`, `janus.jcfg.tmp`, the calls that run, and the address that was set last. -/
structure RenderState where
  jcfg : Option Text
  tmp : Option Text
  calls : List RenderCall := []
  last : Option Text := none

namespace RenderState

/-- `render` up to its substitutions. -/
def begin (natMapping : Option String) (inputs : RenderInputs) (s : RenderState) : RenderState :=
  { s with
    calls := s.calls ++
      [{ natMapping := natMapping
         subs := buildSubstitutions inputs natMapping s.jcfg
         written := false }] }

/-- `set_nat_mapping`: a longer text, or one that is no address, is refused. -/
def setNatMapping (ip : String) (inputs : RenderInputs) (s : RenderState) : RenderState :=
  if ip.length ≤ 64 ∧ Network.checkIpv4 ip.toList = .accepted then s.begin (some ip) inputs else s

/-- The call at a position writes `janus.jcfg.tmp`. -/
def write (i : ℕ) (s : RenderState) : RenderState :=
  match s.calls[i]? with
  | none => s
  | some call =>
      if call.written then s
      else { s with tmp := some call.text, calls := s.calls.set i { call with written := true } }

/-- It fails to, which leaves any text or no file there; `janus.jcfg` is skipped. -/
def writeFails (i : ℕ) (left : Option Text) (s : RenderState) : RenderState :=
  match s.calls[i]? with
  | none => s
  | some call => if call.written then s else { s with tmp := left, calls := s.calls.eraseIdx i }

/-- The call at a position renames `janus.jcfg.tmp`, which fails when there is none. -/
def rename (i : ℕ) (renamed : Bool) (s : RenderState) : RenderState :=
  match s.calls[i]? with
  | none => s
  | some call =>
      if call.written then
        if renamed ∧ s.tmp ≠ none then
          { s with
            jcfg := s.tmp
            tmp := none
            calls := s.calls.eraseIdx i
            last := (call.natMapping.map String.toList).or s.last }
        else { s with calls := s.calls.eraseIdx i }
      else s

end RenderState

/-- The operator sets the address, or the files are rendered anew; or a call goes on. -/
inductive RenderEvent
  | setNatMapping (ip : String) (inputs : RenderInputs)
  | render (inputs : RenderInputs)
  | write (i : ℕ)
  | writeFails (i : ℕ) (left : Option Text)
  | rename (i : ℕ) (renamed : Bool)

/-- The renders of `janus.jcfg`, event by event. -/
def renders : Machine RenderState RenderEvent Empty where
  step s
    | .setNatMapping ip inputs => (s.setNatMapping ip inputs, [])
    | .render inputs => (s.begin none inputs, [])
    | .write i => (s.write i, [])
    | .writeFails i left => (s.writeFails i left, [])
    | .rename i renamed => (s.rename i renamed, [])

/-- The values of the host are clean. -/
def RenderEvent.Clean : RenderEvent → Prop
  | .setNatMapping _ inputs | .render inputs => inputs.Clean
  | .write _ | .writeFails _ _ | .rename _ _ => True

/-- A call writes while no other has still to rename, and one that sets an address renames
while none without an address is under way. -/
def RenderEvent.Separate (s : RenderState) : RenderEvent → Prop
  | .setNatMapping _ _ | .render _ => True
  | .write _ | .writeFails _ _ => ∀ call ∈ s.calls, call.written = false
  | .rename i _ => ∀ call ∈ s.calls[i]?, call.natMapping ≠ none →
      ∀ other ∈ s.calls, other.natMapping ≠ none

instance (s : RenderState) : ∀ e : RenderEvent, Decidable (e.Separate s)
  | .setNatMapping _ _ | .render _ => .isTrue trivial
  | .write _ | .writeFails _ _ =>
      inferInstanceAs (Decidable (∀ call ∈ s.calls, call.written = false))
  | .rename i _ => inferInstanceAs (Decidable (∀ call ∈ s.calls[i]?, call.natMapping ≠ none →
      ∀ other ∈ s.calls, other.natMapping ≠ none))

/-! ## What a call has written -/

/-- Where a call has written, `janus.jcfg.tmp` is what it has written. -/
def RenderState.Owned (s : RenderState) : Prop :=
  ∀ call ∈ s.calls, call.written = true → ∀ text ∈ s.tmp, text = call.text

/-- What a step can do. -/
inductive Takes (s : RenderState) : RenderEvent → RenderState → Prop
  | idle (e : RenderEvent) : Takes s e s
  | sets (ip : String) (inputs : RenderInputs) (hlength : ip.length ≤ 64)
      (hcheck : Network.checkIpv4 ip.toList = .accepted) :
      Takes s (.setNatMapping ip inputs) (s.begin (some ip) inputs)
  | renders (inputs : RenderInputs) : Takes s (.render inputs) (s.begin none inputs)
  | writes (i : ℕ) (call : RenderCall) (hcall : s.calls[i]? = some call)
      (hwritten : call.written = false) :
      Takes s (.write i)
        { s with tmp := some call.text, calls := s.calls.set i { call with written := true } }
  | writeFails (i : ℕ) (left : Option Text) (call : RenderCall) (hcall : s.calls[i]? = some call)
      (hwritten : call.written = false) :
      Takes s (.writeFails i left) { s with tmp := left, calls := s.calls.eraseIdx i }
  | renames (i : ℕ) (call : RenderCall) (text : Text) (hcall : s.calls[i]? = some call)
      (hwritten : call.written = true) (htmp : s.tmp = some text) :
      Takes s (.rename i true)
        { s with
          jcfg := some text
          tmp := none
          calls := s.calls.eraseIdx i
          last := (call.natMapping.map String.toList).or s.last }
  | renameFails (i : ℕ) (renamed : Bool) (call : RenderCall) (hcall : s.calls[i]? = some call) :
      Takes s (.rename i renamed) { s with calls := s.calls.eraseIdx i }

theorem takes_next (s : RenderState) (e : RenderEvent) : Takes s e (renders.next s e) := by
  cases e with
  | setNatMapping ip inputs =>
      show Takes s _ (s.setNatMapping ip inputs)
      rw [RenderState.setNatMapping]
      split_ifs with hip
      · exact .sets ip inputs hip.1 hip.2
      · exact .idle _
  | render inputs => exact .renders inputs
  | write i =>
      show Takes s _ (s.write i)
      rw [RenderState.write]
      cases hcall : s.calls[i]? with
      | none => exact .idle _
      | some call =>
          dsimp only
          split_ifs with hwritten
          · exact .idle _
          · exact .writes i call hcall (Bool.eq_false_iff.mpr hwritten)
  | writeFails i left =>
      show Takes s _ (s.writeFails i left)
      rw [RenderState.writeFails]
      cases hcall : s.calls[i]? with
      | none => exact .idle _
      | some call =>
          dsimp only
          split_ifs with hwritten
          · exact .idle _
          · exact .writeFails i left call hcall (Bool.eq_false_iff.mpr hwritten)
  | rename i renamed =>
      show Takes s _ (s.rename i renamed)
      rw [RenderState.rename]
      cases hcall : s.calls[i]? with
      | none => exact .idle _
      | some call =>
          dsimp only
          split_ifs with hwritten hrenamed
          · obtain ⟨text, htmp⟩ := Option.ne_none_iff_exists'.mp hrenamed.2
            rw [htmp, hrenamed.1]
            exact .renames i call text hcall hwritten htmp
          · exact .renameFails i renamed call hcall
          · exact .idle _

/-- Calls that keep apart rename what they have written. -/
theorem RenderState.Owned.next {s : RenderState} (h : s.Owned) {e : RenderEvent}
    (hseparate : e.Separate s) : (renders.next s e).Owned := by
  have herase : ∀ i, ∀ call ∈ s.calls.eraseIdx i, call ∈ s.calls :=
    fun i call hcall => List.mem_of_mem_eraseIdx hcall
  generalize hnext : renders.next s e = s'
  have htakes := takes_next s e
  rw [hnext] at htakes
  clear hnext
  cases htakes with
  | idle => exact h
  | sets ip inputs | renders inputs =>
      intro call hcall hwritten
      rcases List.mem_append.mp hcall with hold | hnew
      · exact h call hold hwritten
      · rw [List.mem_singleton.mp hnew] at hwritten
        cases hwritten
  | writes i call hcall =>
      intro other hother hwritten text htext
      rcases List.mem_or_eq_of_mem_set hother with hold | rfl
      · rw [hseparate other hold] at hwritten
        cases hwritten
      · cases htext
        rfl
  | writeFails i left call =>
      intro other hother hwritten
      rw [hseparate other (herase i other hother)] at hwritten
      cases hwritten
  | renames i call text =>
      intro other hother hwritten text htext
      cases htext
  | renameFails i renamed call =>
      intro other hother
      exact h other (herase i other hother)

/-! ## The runs of the host -/

/-- The file and the calls are those of a host. -/
structure Matches (s : RenderState) (host : JanusHost) : Prop where
  jcfg : host.jcfg = s.jcfg
  calls : host.calls = s.calls.map fun call => .render call.subs false

section Host

variable {hash : JanusNatConfig → String} {s : RenderState} {host : JanusHost}

theorem Matches.call (h : Matches s host) {i : ℕ} {call : RenderCall}
    (hcall : s.calls[i]? = some call) : host.calls[i]? = some (.render call.subs false) := by
  rw [h.calls, List.getElem?_map, hcall, Option.map_some]

/-- A call that ends without a new file. -/
theorem Matches.skip (h : Matches s host) {i : ℕ} {call : RenderCall}
    (hcall : s.calls[i]? = some call) (tmp : Option Text) :
    Matches { s with tmp := tmp, calls := s.calls.eraseIdx i }
      ((hostMachine hash janusJcfgTemplate).next host (.go i (.error false))) := by
  have hgo : (hostMachine hash janusJcfgTemplate).next host (.go i (.error false)) =
      { host with calls := host.calls.eraseIdx i } := by
    show host.advance hash janusJcfgTemplate i (.error false) = _
    rw [JanusHost.advance, h.call hcall]
    rfl
  rw [hgo]
  refine ⟨h.jcfg, ?_⟩
  rw [h.calls]
  exact List.eraseIdx_map _ _ _

/-- What a step does, the host does in its own steps. -/
theorem Matches.next (h : Matches s host) (howned : s.Owned) (e : RenderEvent) :
    ∃ events, Matches (renders.next s e)
      ((hostMachine hash janusJcfgTemplate).run host events) := by
  have hbegin : ∀ natMapping inputs, Matches (s.begin natMapping inputs)
      ((hostMachine hash janusJcfgTemplate).next host (.render natMapping inputs false)) := by
    intro natMapping inputs
    refine ⟨h.jcfg, ?_⟩
    show host.calls ++ [.render (buildSubstitutions inputs natMapping host.jcfg) false] = _
    rw [h.calls, h.jcfg, RenderState.begin, List.map_append]
    rfl
  generalize hnext : renders.next s e = s'
  have htakes := takes_next s e
  rw [hnext] at htakes
  clear hnext
  cases htakes with
  | idle => exact ⟨[], h⟩
  | sets ip inputs => exact ⟨[.render (some ip) inputs false], hbegin (some ip) inputs⟩
  | renders inputs => exact ⟨[.render none inputs false], hbegin none inputs⟩
  | writes i call hcall =>
      refine ⟨[], h.jcfg, ?_⟩
      rw [List.map_set, ← h.calls]
      show host.calls = host.calls.set i (.render call.subs false)
      obtain ⟨hi, hget⟩ := List.getElem?_eq_some_iff.mp (h.call hcall)
      rw [← hget, List.set_getElem_self]
  | writeFails i left call hcall => exact ⟨[.go i (.error false)], h.skip hcall left⟩
  | renames i call text hcall hwritten htmp =>
      refine ⟨[.go i .ok], ?_⟩
      have hgo : (hostMachine hash janusJcfgTemplate).next host (.go i .ok) =
          { host with
            jcfg := some call.text, restarted := false, calls := host.calls.eraseIdx i } := by
        show host.advance hash janusJcfgTemplate i .ok = _
        rw [JanusHost.advance, h.call hcall]
        rfl
      show Matches _ ((hostMachine hash janusJcfgTemplate).next host (.go i .ok))
      rw [hgo]
      refine ⟨?_, ?_⟩
      · rw [howned call (List.mem_of_getElem? hcall) hwritten text htmp]
      · show host.calls.eraseIdx i = _
        rw [h.calls]
        exact List.eraseIdx_map _ _ _
  | renameFails i renamed call hcall => exact ⟨[.go i (.error false)], h.skip hcall s.tmp⟩

/-- Renders that keep apart run as those of the host, which write `janus.jcfg` at once. -/
theorem renders_run (hash : JanusNatConfig → String) {events : List RenderEvent}
    (h : Matches s host) (howned : s.Owned)
    (hseparate : renders.Along (fun s e => e.Separate s) s events) :
    ∃ hostEvents, Matches (renders.run s events)
      ((hostMachine hash janusJcfgTemplate).run host hostEvents) := by
  induction events generalizing s host with
  | nil => exact ⟨[], h⟩
  | cons e events ih =>
      obtain ⟨first, hfirst⟩ := h.next howned e
      obtain ⟨rest, hrest⟩ := ih hfirst (howned.next hseparate.1) hseparate.2
      use first ++ rest
      rw [Machine.run_append]
      exact hrest

end Host

/-! ## The address -/

/-- The address in the file is the one that was set last, or stood in the first file; and every
call has made a text with the address it was given, or else with the one in the file. -/
structure Addressed (first : Text) (s : RenderState) : Prop where
  owned : s.Owned
  file : readCurrentNatMapping s.jcfg = s.last.getD first
  calls : ∀ call ∈ s.calls, readCurrentNatMapping (some call.text) =
    (call.natMapping.map String.toList).getD (readCurrentNatMapping s.jcfg)

theorem readCurrentNatMapping_begin {natMapping : Option String} {inputs : RenderInputs}
    (hclean : inputs.Clean)
    (haccepted : ∀ ip ∈ natMapping, Network.checkIpv4 ip.toList = .accepted) (jcfg : Option Text) :
    readCurrentNatMapping (some (renderJanus inputs natMapping jcfg)) =
      (natMapping.map String.toList).getD (readCurrentNatMapping jcfg) := by
  cases natMapping with
  | none =>
      obtain ⟨hne, hquote⟩ := of_readCurrentNatMapping jcfg
      exact readCurrentNatMapping_renderJanus hclean hquote hne
  | some ip =>
      obtain ⟨hne, hquote⟩ := of_checkIpv4 (haccepted ip rfl)
      have hmapping : mappingOf (some ip) jcfg = ip.toList := by
        rw [mappingOf, if_neg]
        rintro rfl
        exact hne rfl
      have hread := @readCurrentNatMapping_renderJanus inputs hclean (some ip) jcfg
      rw [hmapping] at hread
      exact hread hquote hne

/-- A call begins. -/
theorem Addressed.begin {first : Text} {s : RenderState} (h : Addressed first s)
    {natMapping : Option String} {inputs : RenderInputs} (hclean : inputs.Clean)
    (haccepted : ∀ ip ∈ natMapping, Network.checkIpv4 ip.toList = .accepted)
    (howned : (s.begin natMapping inputs).Owned) : Addressed first (s.begin natMapping inputs) where
  owned := howned
  file := h.file
  calls := by
    intro call hcall
    rcases List.mem_append.mp hcall with hold | hnew
    · exact h.calls call hold
    · rw [List.mem_singleton.mp hnew]
      exact readCurrentNatMapping_begin hclean haccepted s.jcfg

theorem Addressed.next {first : Text} {s : RenderState} (h : Addressed first s) {e : RenderEvent}
    (hclean : e.Clean) (hseparate : e.Separate s) : Addressed first (renders.next s e) := by
  have howned := h.owned.next hseparate
  have herase : ∀ i, ∀ call ∈ s.calls.eraseIdx i, call ∈ s.calls :=
    fun i call hcall => List.mem_of_mem_eraseIdx hcall
  generalize hnext : renders.next s e = s' at howned
  have htakes := takes_next s e
  rw [hnext] at htakes
  clear hnext
  cases htakes with
  | idle => exact h
  | sets ip inputs hlength hcheck =>
      refine h.begin hclean ?_ howned
      rintro _ ⟨⟩
      exact hcheck
  | renders inputs => exact h.begin hclean (by rintro _ ⟨⟩) howned
  | writes i call hcall =>
      refine ⟨howned, h.file, ?_⟩
      intro other hother
      rcases List.mem_or_eq_of_mem_set hother with hold | rfl
      · exact h.calls other hold
      · exact h.calls call (List.mem_of_getElem? hcall)
  | writeFails i left call =>
      exact ⟨howned, h.file, fun other hother => h.calls other (herase i other hother)⟩
  | renameFails i renamed call =>
      exact ⟨howned, h.file, fun other hother => h.calls other (herase i other hother)⟩
  | renames i call text hcall hwritten htmp =>
      have hmem := List.mem_of_getElem? hcall
      have hread := h.calls call hmem
      rw [← h.owned call hmem hwritten text htmp] at hread
      cases hmapping : call.natMapping with
      | none =>
          -- the text has the address of the file, in which nothing changes
          rw [hmapping] at hread
          refine ⟨howned, hread.trans h.file, ?_⟩
          intro other hother
          rw [h.calls other (herase i other hother)]
          exact congrArg _ hread.symm
      | some ip =>
          rw [hmapping] at hread
          refine ⟨howned, hread, ?_⟩
          intro other hother
          have hgiven : other.natMapping ≠ none :=
            hseparate call hcall (by rw [hmapping]; exact Option.some_ne_none ip) other
              (herase i other hother)
          obtain ⟨ip', hip'⟩ := Option.ne_none_iff_exists'.mp hgiven
          rw [h.calls other (herase i other hother), hip']
          rfl

theorem addressed_run (jcfg tmp : Option Text) {events : List RenderEvent}
    (hclean : ∀ e ∈ events, e.Clean)
    (hseparate : renders.Along (fun s e => e.Separate s) { jcfg, tmp } events) :
    Addressed (readCurrentNatMapping jcfg) (renders.run { jcfg, tmp } events) := by
  have hstart : Addressed (readCurrentNatMapping jcfg) { jcfg, tmp } := by
    refine ⟨?_, rfl, ?_⟩
    · intro call hcall
      cases hcall
    · intro call hcall
      cases hcall
  have halong : renders.Along (fun _ e => e.Clean) { jcfg, tmp } events :=
    renders.along_of_forall (fun e he _ => hclean e he) _
  exact renders.run_invariant (fun _ _ h hguard => h.next hguard.1 hguard.2)
    (Machine.Along.and renders halong hseparate) hstart

/-- Over any run whose calls keep apart, the address in the file is the one that was set last,
or the one that stood in the first file. -/
theorem address_survives (jcfg tmp : Option Text) (events : List RenderEvent)
    (hclean : ∀ e ∈ events, e.Clean)
    (hseparate : renders.Along (fun s e => e.Separate s) { jcfg, tmp } events) :
    readCurrentNatMapping (renders.run { jcfg, tmp } events).jcfg =
      (renders.run { jcfg, tmp } events).last.getD (readCurrentNatMapping jcfg) :=
  (addressed_run jcfg tmp hclean hseparate).file

/-- An address is set; another is no address; then the files are rendered, in vain the first
time. -/
def sampleRenders : List RenderEvent :=
  [.setNatMapping "203.0.113.7" plainInputs, .write 0, .rename 0 true,
    .setNatMapping "203.0.113" plainInputs, .render plainInputs, .writeFails 0 none,
    .render plainInputs, .write 0, .rename 0 true]

theorem sampleRenders_clean : ∀ e ∈ sampleRenders, e.Clean := by
  intro e he
  simp only [sampleRenders, List.mem_cons, List.not_mem_nil, or_false] at he
  rcases he with rfl | rfl | rfl | rfl | rfl | rfl | rfl | rfl | rfl
  · exact plainInputs_clean
  · trivial
  · trivial
  · exact plainInputs_clean
  · exact plainInputs_clean
  · trivial
  · exact plainInputs_clean
  · trivial
  · trivial

theorem address_survives_sample :
    let s := renders.run { jcfg := none, tmp := none } sampleRenders
    s.last = some "203.0.113.7".toList ∧ readCurrentNatMapping s.jcfg = "203.0.113.7".toList := by
  have hlast : (renders.run { jcfg := none, tmp := none } sampleRenders).last =
      some "203.0.113.7".toList := by decide +kernel
  have hsurvives := address_survives none none sampleRenders sampleRenders_clean (by decide +kernel)
  rw [hlast] at hsurvives
  exact ⟨hlast, hsurvives⟩

/-- A render that has read before the address is set writes the one of before. -/
example :
    let s := renders.run { jcfg := none, tmp := none }
      [.render plainInputs, .setNatMapping "203.0.113.7" plainInputs, .write 1, .rename 1 true,
        .write 0, .rename 0 true]
    s.last = some "203.0.113.7".toList ∧
      readCurrentNatMapping s.jcfg = "REPLACE_WITH_PUBLIC_IP".toList := by decide +kernel

/-! ## The address that was detected -/

/-- The files are rendered without setting an address. -/
def RenderEvent.keepsAddress : RenderEvent → Bool
  | .setNatMapping .. => false
  | .render .. | .write .. | .writeFails .. | .rename .. => true

/-- No other address is set, or about to be. -/
structure Only (ip : String) (s : RenderState) : Prop where
  calls : ∀ call ∈ s.calls, ∀ mapping ∈ call.natMapping, mapping = ip
  last : ∀ address ∈ s.last, address = ip.toList

theorem Only.next {ip : String} {s : RenderState} (h : Only ip s) {e : RenderEvent}
    (hkeeps : e.keepsAddress = true) : Only ip (renders.next s e) := by
  have herase : ∀ i, ∀ call ∈ s.calls.eraseIdx i, ∀ mapping ∈ call.natMapping, mapping = ip :=
    fun i call hcall => h.calls call (List.mem_of_mem_eraseIdx hcall)
  generalize hnext : renders.next s e = s'
  have htakes := takes_next s e
  rw [hnext] at htakes
  clear hnext
  cases htakes with
  | idle => exact h
  | sets => cases hkeeps
  | renders inputs =>
      refine ⟨?_, h.last⟩
      intro call hcall
      rcases List.mem_append.mp hcall with hold | hnew
      · exact h.calls call hold
      · rw [List.mem_singleton.mp hnew]
        rintro _ ⟨⟩
  | writes i call hcall =>
      refine ⟨?_, h.last⟩
      intro other hother
      rcases List.mem_or_eq_of_mem_set hother with hold | rfl
      · exact h.calls other hold
      · exact h.calls call (List.mem_of_getElem? hcall)
  | writeFails i left call => exact ⟨herase i, h.last⟩
  | renameFails i renamed call => exact ⟨herase i, h.last⟩
  | renames i call text hcall =>
      refine ⟨herase i, ?_⟩
      intro address haddress
      cases hmapping : call.natMapping with
      | none =>
          rw [hmapping] at haddress
          exact h.last address haddress
      | some mapping =>
          rw [hmapping] at haddress
          cases haddress
          rw [h.calls call (List.mem_of_getElem? hcall) mapping hmapping]

/-- An address of at most 64 characters that was detected, however it was, passes the check
when it is set; once it is written it stands in the file over every run of renders that keep
apart. -/
theorem detected_address_survives (datagram : Option (List UInt8))
    (ifconfigMe icanhazip : Option (ℕ × Text)) (r : Network.PublicIpResult) (ip : String)
    (jcfg tmp : Option Text) (inputs : RenderInputs) (events : List RenderEvent)
    (hdetect : Network.detect datagram ifconfigMe icanhazip = .ok r) (hip : r.ip = some ip.toList)
    (hlength : ip.length ≤ 64) (hinputs : inputs.Clean) (hclean : ∀ e ∈ events, e.Clean)
    (hkeeps : ∀ e ∈ events, e.keepsAddress = true)
    (hseparate : renders.Along (fun s e => e.Separate s) { jcfg, tmp }
      (.setNatMapping ip inputs :: events)) :
    let set := renders.next { jcfg, tmp } (.setNatMapping ip inputs)
    set = ({ jcfg, tmp } : RenderState).begin (some ip) inputs ∧
      ((renders.run set events).last ≠ none →
        readCurrentNatMapping (renders.run set events).jcfg = ip.toList) := by
  intro set
  have hset : set = ({ jcfg, tmp } : RenderState).begin (some ip) inputs :=
    if_pos ⟨hlength, Network.checkIpv4_of_detect datagram ifconfigMe icanhazip r _ hdetect hip⟩
  refine ⟨hset, ?_⟩
  intro hwritten
  have honly : Only ip set := by
    rw [hset]
    refine ⟨?_, by rintro _ ⟨⟩⟩
    intro call hcall
    rw [List.mem_singleton.mp hcall]
    rintro _ ⟨⟩
    rfl
  have halong : renders.Along (fun _ e => e.keepsAddress = true) set events :=
    renders.along_of_forall (fun e he _ => hkeeps e he) _
  have hlast := (renders.run_invariant (fun _ _ h he => h.next he) halong honly).last
  obtain ⟨address, haddress⟩ := Option.ne_none_iff_exists'.mp hwritten
  have hall : ∀ e ∈ .setNatMapping ip inputs :: events, e.Clean :=
    List.forall_mem_cons.mpr ⟨hinputs, hclean⟩
  have hfile : readCurrentNatMapping (renders.run set events).jcfg =
      (renders.run set events).last.getD (readCurrentNatMapping jcfg) :=
    (addressed_run jcfg tmp hall hseparate).file
  rw [hfile, haddress, hlast address haddress]
  rfl

/-- The call goes on, and the files are rendered once more. -/
def sampleAfterwards : List RenderEvent :=
  [.write 0, .rename 0 true, .render plainInputs, .write 0, .rename 0 true]

theorem detected_address_survives_sample :
    let set := renders.next { jcfg := none, tmp := none } (.setNatMapping "203.0.113.7" plainInputs)
    readCurrentNatMapping (renders.run set sampleAfterwards).jcfg = "203.0.113.7".toList := by
  intro set
  have hprobe : Network.httpProbe (some (200, "203.0.113.7\n".toList)) =
      some "203.0.113.7".toList := by decide +kernel
  have hdetect : Network.detect none (some (200, "203.0.113.7\n".toList)) none =
      .ok { ip := some "203.0.113.7".toList, method := .ifconfigMe } := by
    rw [Network.detect, Network.stunQuery, hprobe]
  have hclean : ∀ e ∈ sampleAfterwards, e.Clean := by
    intro e he
    simp only [sampleAfterwards, List.mem_cons, List.not_mem_nil, or_false] at he
    rcases he with rfl | rfl | rfl | rfl | rfl
    · trivial
    · trivial
    · exact plainInputs_clean
    · trivial
    · trivial
  have hlast : (renders.run set sampleAfterwards).last ≠ none := by decide +kernel
  exact (detected_address_survives none (some (200, "203.0.113.7\n".toList)) none _ "203.0.113.7"
    none none plainInputs sampleAfterwards hdetect rfl (by decide) plainInputs_clean hclean
    (by decide) (by decide +kernel)).2 hlast

end CameraStack.Jcfg
