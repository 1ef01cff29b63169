/-
# The topology's state file

Every read and every mutation of the topology goes through the same three steps: load
the file, normalise its shape, run.  A mutation holds the lock meanwhile and writes the
whole state back when it succeeds.  A file that cannot be read, is not valid JSON or is
not an object is copied once for forensics, left where it is, and raised as corruption.

What the decoder makes of a text, and how rows are read and written, are parameters:
nothing below depends on them.  Normalising is where the shape of the two tables is
looked at, and it does not raise.

The local streams are listed off the allocator's own file, which is read without that
care: what it raises goes through to the caller, before the topology is looked at.
-/

import CameraStack.Lib.PlainJson
import CameraStack.Topology.AllocatorReads
import CameraStack.Topology.NodeTable
import CameraStack.Topology.Firewall

namespace CameraStack.Topology

open CameraStack.Lib

/-- A result that is mapped is one where it was one. -/
theorem except_map_eq_ok {ε α β : Type} {result : Except ε α} {f : α → β} :
    (∃ b, result.map f = .ok b) ↔ ∃ a, result = .ok a := by
  cases result with
  | error e => exact ⟨nofun, nofun⟩
  | ok a => exact ⟨fun _ => ⟨a, rfl⟩, fun _ => ⟨f a, rfl⟩⟩

/-! ## JSON -/

/-- The members of an object. -/
abbrev Members := List (String × PlainJson)

/-- What `json.loads` does with a text: a value, a `JSONDecodeError`, or another exception
(nesting too deep, an integer with too many digits). -/
inductive LoadsResult
  | value (json : PlainJson)
  | decodeError
  | raised

/-- The decoder, and how the rows of the two tables are read from a state and written into
it. -/
structure Codec where
  loads : String → LoadsResult
  dumps : PlainJson → String
  /-- `none` when a row cannot be read. -/
  rows : Members → Option TopologyState
  store : TopologyState → Members → Members

namespace Members

/-- `state[key] = value`. -/
def set (key : String) (value : PlainJson) (m : Members) : Members :=
  if m.any fun member => member.1 = key then
    m.map fun member => if member.1 = key then (key, value) else member
  else m ++ [(key, value)]

/-- `state.setdefault(key, value)`. -/
def setDefault (key : String) (value : PlainJson) (m : Members) : Members :=
  if m.any fun member => member.1 = key then m else m.set key value

/-- One check of `_normalize_state`: anything but an object becomes an empty one. -/
def coerce (key : String) (m : Members) : Members :=
  if (m.lookup key).any PlainJson.isObject then m else m.set key (.obj [])

/-- `_normalize_state`. -/
def normalizeState (m : Members) : Members :=
  ((m.setDefault "version" (.num 1)).coerce "nodes").coerce "bindings"

end Members

/-! ## The file -/

/-- The content of the file. -/
inductive Content
  | absent
  | unreadable
  | undecodable (bytes : List UInt8)
  | text (value : String)
  deriving DecidableEq

/-- The file and its forensic copies. -/
structure StateFile where
  content : Content
  copies : List Content := []
  deriving DecidableEq

/-- What an operation of the store raises. -/
inductive Raised
  | storeCorruption (reason : String)
  | unicodeDecode
  | jsonOther
  | row
  | allocations (e : PyException)
  | operation (e : StoreError)
  deriving DecidableEq

/-- `_quarantine_corrupt_state`: one copy, the first time. -/
def StateFile.quarantine (f : StateFile) : StateFile :=
  if f.copies = [] then { f with copies := [f.content] } else f

/-- `_load_state`. -/
def StateFile.load (codec : Codec) (f : StateFile) : Except Raised Members × StateFile :=
  match f.content with
  | .absent => (.ok (Members.normalizeState []), f)
  | .unreadable =>
      -- the copy fails for the same reason
      (.error (.storeCorruption "cannot read topology store"), f)
  | .undecodable _ => (.error .unicodeDecode, f)
  | .text value =>
      let raw := pyStrip value
      if raw = "" then (.ok (Members.normalizeState []), f)
      else
        match codec.loads raw with
        | .decodeError => (.error (.storeCorruption "not valid JSON"), f.quarantine)
        | .raised => (.error .jsonOther, f)
        | .value (.obj members) => (.ok (Members.normalizeState members), f)
        | .value _ => (.error (.storeCorruption "top-level is not a JSON object"), f.quarantine)

/-! ## Operations on the file -/

/-- The operations of the store: its reads, and everything that writes. -/
inductive FileOp
  | listBindings
  | getNode (nodeId : String)
  | listNodes
  | mutate (op : StoreOp)

/-- What an operation returns. -/
inductive FileResult
  | bindings (entries : List (String × StreamBinding))
  | node (entry : Option NodeEntry)
  | nodes (entries : Dict NodeEntry)
  | done

/-- What an operation answers before it gets to the file: the local node is implicit, and
hosts are checked first.  The operations of the allocator have a file of their own. -/
def FileOp.upFront (lan : LanConfig) : FileOp → Option (Except StoreError FileResult)
  | .listBindings => none
  | .getNode nodeId => if nodeId = localNodeId then some (.ok (.node localNode)) else none
  | .listNodes => none
  | .mutate op =>
      match op with
      | .allocate .. | .ensureColor .. | .setDesired .. | .release .. | .migrateColorKey .. =>
          some (.ok .done)
      | .upsertNode nodeId .. | .removeNode nodeId =>
          if nodeId = localNodeId then some (.error .localNodeImplicit) else none
      | .addNodeByHost host .. =>
          match TopologyState.checkNodeHost lan (pyStrip host) with
          | .error e => some (.error e)
          | .ok () => none
      | .setReachability .. | .setSerial .. | .setProvisionState .. | .touchChecked ..
      | .setMaintenance .. | .setHostKey .. | .setAgentToken .. | .upsertBinding ..
      | .removeBinding .. | .migrateRemoteBindingIds | .setStatus .. | .setFdirEnabled ..
      | .setDesiredUp .. => none

/-- The body of a mutation, on the rows it loaded. -/
def StoreOp.body (lan : LanConfig) (alloc : Allocator) (t : TopologyState) :
    StoreOp → Except StoreError TopologyState
  | .allocate .. | .ensureColor .. | .setDesired .. | .release .. | .migrateColorKey .. => .ok t
  | .upsertNode nodeId host role reachability serial displayName token =>
      (t.upsertNode nodeId host role reachability serial displayName token).map Prod.snd
  | .addNodeByHost host role displayName mintedId token =>
      (t.addNodeByHost lan host role displayName mintedId token).map Prod.snd
  | .setReachability nodeId reachability => (t.setReachability nodeId reachability).map Prod.snd
  | .setSerial nodeId serial => (t.setSerial nodeId serial).map Prod.snd
  | .setProvisionState nodeId provisionState detail =>
      (t.setProvisionState nodeId provisionState detail).map Prod.snd
  | .touchChecked nodeId reachability now => (t.touchChecked nodeId reachability now).map Prod.snd
  | .setMaintenance nodeId on => (t.setMaintenance nodeId on).map Prod.snd
  | .setHostKey nodeId hostKey => (t.setHostKey nodeId hostKey).map Prod.snd
  | .setAgentToken nodeId token => (t.setAgentToken nodeId token).map Prod.snd
  | .removeNode nodeId => (t.removeNode nodeId).map Prod.snd
  | .upsertBinding binding janusMountId =>
      (t.upsertBinding binding alloc janusMountId).map Prod.snd
  | .removeBinding bindingId => .ok (t.removeBinding bindingId).2
  | .migrateRemoteBindingIds => .ok t.migrateRemoteBindingIds.2
  | .setStatus bindingId status => (t.setStatus bindingId status).map Prod.snd
  | .setFdirEnabled bindingId enabled => (t.setFdirEnabled bindingId enabled).map Prod.snd
  | .setDesiredUp bindingId up => (t.setDesiredUp bindingId up).map Prod.snd

/-- The bodies are the operations of the two stores, an operation that raises leaving the
topology as it was. -/
theorem Stores.topology_apply (lan : LanConfig) (s : Stores) (op : StoreOp) :
    (s.apply lan op).topology = (op.body lan s.alloc s.topology).toOption.getD s.topology := by
  have written_map : ∀ {α : Type} (result : Except StoreError (α × TopologyState)),
      written s.topology result = ((result.map Prod.snd).toOption).getD s.topology := by
    intro α result
    cases result with
    | error e => rfl
    | ok pair => rfl
  cases op with
  | allocate | ensureColor | setDesired | release | migrateColorKey => rfl
  | removeBinding | migrateRemoteBindingIds => rfl
  | upsertNode | addNodeByHost | setReachability | setSerial | setProvisionState | touchChecked
  | setMaintenance | setHostKey | setAgentToken | removeNode | upsertBinding | setStatus
  | setFdirEnabled | setDesiredUp =>
      simp only [apply, StoreOp.body, topology_setTopology]
      exact written_map _

/-- What `list_allocations` returns or raises. -/
abbrev Listing := Except PyException Allocator

/-- The rows of a file as the allocator's dictionary. -/
def Allocator.ofRows (rows : List (Text × Allocation)) : Allocator :=
  rows.foldl (fun alloc row => alloc.insert (String.ofList row.1) row.2) ∅

/-- `list_allocations` of the allocator's file. -/
def AllocatorReads.DiskFile.listing (F : Type) [FloatNumber F] (limit : ℕ)
    (file : AllocatorReads.DiskFile) : Listing :=
  (AllocatorReads.listAllocations F limit file).map Allocator.ofRows

/-- The body of a mutation with the listing it makes: only a binding that is put in looks at the
allocations. -/
def StoreOp.bodyListing (lan : LanConfig) (listing : Listing) (t : TopologyState) (op : StoreOp) :
    Except Raised TopologyState :=
  match op, listing with
  | .upsertBinding .., .error e => .error (.allocations e)
  | op, listing => (op.body lan (listing.toOption.getD ∅) t).mapError .operation

/-- An operation on the state it loaded: reads leave the file, mutations write it back
unless they raise. -/
def FileOp.onState (codec : Codec) (lan : LanConfig) (listing : Listing) (members : Members)
    (f : StateFile) (op : FileOp) : Except Raised FileResult × StateFile :=
  match codec.rows members with
  | none => (.error .row, f)
  | some t =>
      match op with
      | .listBindings =>
          ((listing.mapError .allocations).map fun alloc =>
            .bindings (Stores.listBindings { alloc := alloc, topology := t }), f)
      | .getNode nodeId => (.ok (.node (t.getNode nodeId)), f)
      | .listNodes => (.ok (.nodes (Topology.listNodes t)), f)
      | .mutate op =>
          match op.bodyListing lan listing t with
          | .error e => (.error e, f)
          | .ok t' =>
              (.ok .done,
                { f with content := .text (codec.dumps (.obj (codec.store t' members))) })

/-- What is raised before the file is read: the bindings are listed with the local ones first. -/
def FileOp.projectLocal (listing : Listing) : FileOp → Except PyException Unit
  | .listBindings => listing.map fun _ => ()
  | .getNode _ | .listNodes | .mutate _ => .ok ()

/-- One operation of the store. -/
def FileOp.run (codec : Codec) (lan : LanConfig) (listing : Listing) (f : StateFile)
    (op : FileOp) : Except Raised FileResult × StateFile :=
  match op.upFront lan with
  | some (.ok result) => (.ok result, f)
  | some (.error e) => (.error (.operation e), f)
  | none =>
      match op.projectLocal listing with
      | .error e => (.error (.allocations e), f)
      | .ok () =>
          match f.load codec with
          | (.error e, f') => (.error e, f')
          | (.ok members, f') => op.onState codec lan listing members f'

/-! ## Failing closed -/

/-- An entry that is an object when it is there. -/
def Members.ObjectIfPresent (key : String) (m : Members) : Prop :=
  ∀ value, m.lookup key = some value → value.isObject = true

/-- Content that is there, is not blank and is not a JSON object with tables for its nodes
and its bindings. -/
def Content.Malformed (codec : Codec) : Content → Prop
  | .absent => False
  | .unreadable => False
  | .undecodable _ => True
  | .text value =>
      pyStrip value ≠ "" ∧ ∀ members, codec.loads (pyStrip value) = .value (.obj members) →
        ¬ (Members.ObjectIfPresent "nodes" members ∧ Members.ObjectIfPresent "bindings" members)

/-- Text that the decoder rejects, or whose root is not an object. -/
def Content.Rejected (codec : Codec) : Content → Prop
  | .text value =>
      match codec.loads (pyStrip value) with
      | .decodeError => True
      | .raised => False
      | .value json => json.isObject = false
  | _ => False

/-- The operation raises `StoreCorruptionError` and leaves the bytes of the file. -/
def FailsClosed (f : StateFile) (outcome : Except Raised FileResult × StateFile) : Prop :=
  (∃ reason, outcome.1 = .error (.storeCorruption reason)) ∧ outcome.2.content = f.content

theorem content_quarantine (f : StateFile) : f.quarantine.content = f.content := by
  unfold StateFile.quarantine
  split
  · rfl
  · rfl

/-- Loading never touches the file itself. -/
theorem content_load (codec : Codec) (f : StateFile) : (f.load codec).2.content = f.content := by
  unfold StateFile.load
  split
  · rfl
  · rfl
  · rfl
  · simp only
    split
    · rfl
    · split
      · exact content_quarantine f
      · rfl
      · rfl
      · exact content_quarantine f

theorem bodyListing_ne (lan : LanConfig) (listing : Listing) (t : TopologyState) (op : StoreOp)
    (reason : String) : op.bodyListing lan listing t ≠ .error (.storeCorruption reason) := by
  unfold StoreOp.bodyListing
  split
  · nofun
  · cases op.body lan (listing.toOption.getD ∅) t with
    | error e => nofun
    | ok t' => nofun

/-- What is raised on a loaded state is not corruption. -/
theorem onState_ne (codec : Codec) (lan : LanConfig) (listing : Listing) (members : Members)
    (f : StateFile) (op : FileOp) (reason : String) :
    (op.onState codec lan listing members f).1 ≠ .error (.storeCorruption reason) := by
  unfold FileOp.onState
  split
  · nofun
  · next t hrows =>
      cases op with
      | listBindings =>
          cases listing with
          | error e => nofun
          | ok alloc => nofun
      | getNode | listNodes => nofun
      | mutate op =>
          have hbody := bodyListing_ne lan listing t op reason
          dsimp only
          cases hresult : op.bodyListing lan listing t with
          | error e =>
              rw [hresult] at hbody
              exact fun h => hbody (congrArg Except.error (Except.error.inj h))
          | ok t' => nofun

/-- Rejected content is raised as corruption. -/
theorem load_of_rejected {codec : Codec} {f : StateFile} (hmalformed : f.content.Malformed codec)
    (h : f.content.Rejected codec) :
    ∃ reason, (f.load codec).1 = .error (.storeCorruption reason) := by
  unfold StateFile.load
  cases hcontent : f.content with
  | absent | unreadable | undecodable =>
      rw [hcontent] at h
      exact absurd h id
  | text value =>
      rw [hcontent] at hmalformed h
      simp only [if_neg hmalformed.1]
      simp only [Content.Rejected] at h
      cases hloads : codec.loads (pyStrip value) with
      | decodeError => exact ⟨_, rfl⟩
      | raised =>
          rw [hloads] at h
          exact absurd h id
      | value json =>
          rw [hloads] at h
          cases json with
          | obj => cases h
          | null | bool | num | str | arr => exact ⟨_, rfl⟩

/-- Malformed content that is not rejected is not raised as corruption. -/
theorem load_of_not_rejected {codec : Codec} {f : StateFile}
    (hmalformed : f.content.Malformed codec) (h : ¬ f.content.Rejected codec) (reason : String) :
    (f.load codec).1 ≠ .error (.storeCorruption reason) := by
  unfold StateFile.load
  cases hcontent : f.content with
  | absent | unreadable =>
      rw [hcontent] at hmalformed
      exact absurd hmalformed id
  | undecodable => nofun
  | text value =>
      rw [hcontent] at hmalformed h
      simp only [if_neg hmalformed.1]
      simp only [Content.Rejected] at h
      cases hloads : codec.loads (pyStrip value) with
      | decodeError =>
          rw [hloads] at h
          exact absurd trivial h
      | raised => nofun
      | value json =>
          rw [hloads] at h
          cases json with
          | obj => nofun
          | null | bool | num | str | arr => exact absurd rfl h

/-- Nothing is raised before the file is read. -/
theorem projectLocal_eq_ok {listing : Listing} {op : FileOp} :
    op.projectLocal listing = .ok () ↔ (op = .listBindings → ∃ alloc, listing = .ok alloc) := by
  cases op with
  | listBindings =>
      cases listing with
      | error e => exact ⟨nofun, fun h => nomatch (h rfl).choose_spec⟩
      | ok alloc => exact ⟨fun _ _ => ⟨alloc, rfl⟩, fun _ => rfl⟩
  | getNode | listNodes | mutate => exact ⟨fun _ => nofun, fun _ => rfl⟩

section FailClosed

variable {codec : Codec} {lan : LanConfig} {listing : Listing} {f : StateFile} {op : FileOp}

/-- An operation that gets to the file does what loading it does, where that raises. -/
theorem run_of_load_error (hup : op.upFront lan = none) (hlocal : op.projectLocal listing = .ok ())
    {e : Raised} (hload : (f.load codec).1 = .error e) :
    op.run codec lan listing f = (.error e, (f.load codec).2) := by
  rcases hf : f.load codec with ⟨result, f'⟩
  rw [hf] at hload
  obtain rfl : result = .error e := hload
  simp only [FileOp.run, hup, hlocal, hf]

/-- An operation that raises corruption gets to the file, and loading it raises so. -/
theorem load_of_run_corruption {reason : String}
    (h : (op.run codec lan listing f).1 = .error (.storeCorruption reason)) :
    op.upFront lan = none ∧ op.projectLocal listing = .ok () ∧
      (f.load codec).1 = .error (.storeCorruption reason) := by
  unfold FileOp.run at h
  split at h
  · cases h
  · cases h
  · next hup =>
      cases hlocal : op.projectLocal listing with
      | error e =>
          rw [hlocal] at h
          cases h
      | ok =>
          rw [hlocal] at h
          refine ⟨hup, rfl, ?_⟩
          rcases hf : f.load codec with ⟨result, f'⟩
          simp only [hf] at h
          cases result with
          | error e => exact congrArg Except.error (Except.error.inj h)
          | ok members => exact absurd h (onState_ne codec lan listing members f' op reason)

end FailClosed

/-- On malformed content an operation fails closed exactly when it gets to the file and the
content is text that is not valid JSON or not an object.  Undecodable bytes raise something
else; a table of the wrong shape is taken for an empty one; and the bindings are only listed
where the allocator's file can be listed. -/
theorem failsClosed_iff {F : Type} [FloatNumber F] (codec : Codec) (lan : LanConfig) (limit : ℕ)
    (allocations : AllocatorReads.DiskFile) (f : StateFile) (op : FileOp)
    (hmalformed : f.content.Malformed codec) :
    FailsClosed f (op.run codec lan (allocations.listing F limit) f) ↔
      op.upFront lan = none ∧ f.content.Rejected codec ∧
        (op = .listBindings → AllocatorReads.Listable F limit allocations) := by
  have hlists : (op = .listBindings → AllocatorReads.Listable F limit allocations) ↔
      op.projectLocal (allocations.listing F limit) = .ok () := by
    rw [projectLocal_eq_ok, ← AllocatorReads.listAllocations_eq_ok]
    exact imp_congr_right fun _ => except_map_eq_ok.symm
  rw [hlists]
  constructor
  · rintro ⟨⟨reason, h⟩, -⟩
    obtain ⟨hup, hlocal, hload⟩ := load_of_run_corruption h
    refine ⟨hup, ?_, hlocal⟩
    by_contra hrejected
    exact load_of_not_rejected hmalformed hrejected reason hload
  · rintro ⟨hup, hrejected, hlocal⟩
    obtain ⟨reason, hload⟩ := load_of_rejected hmalformed hrejected
    rw [run_of_load_error hup hlocal hload]
    exact ⟨⟨reason, rfl⟩, content_load codec f⟩

/-! ## Files left alone -/

/-- The file under a sequence of operations, each with the allocations it would list, and what
each of them returns. -/
def fileMachine (codec : Codec) (lan : LanConfig) :
    Machine StateFile (FileOp × Listing) (Except Raised FileResult) where
  step f event :=
    ((event.1.run codec lan event.2 f).2, [(event.1.run codec lan event.2 f).1])

/-- An operation on rejected content leaves the file. -/
theorem content_run_of_rejected {codec : Codec} {f : StateFile}
    (hmalformed : f.content.Malformed codec) (hrejected : f.content.Rejected codec)
    (lan : LanConfig) (listing : Listing) (op : FileOp) :
    (op.run codec lan listing f).2.content = f.content := by
  obtain ⟨reason, hload⟩ := load_of_rejected hmalformed hrejected
  cases hup : op.upFront lan with
  | some answer =>
      cases answer with
      | error e => simp only [FileOp.run, hup]
      | ok result => simp only [FileOp.run, hup]
  | none =>
      cases hlocal : op.projectLocal listing with
      | error e => simp only [FileOp.run, hup, hlocal]
      | ok =>
          rw [run_of_load_error hup hlocal hload]
          exact content_load codec f

/-- Rejected content stays until someone repairs it: no sequence of operations changes the
file. -/
theorem rejected_file_untouched (codec : Codec) (lan : LanConfig) (f : StateFile)
    (hmalformed : f.content.Malformed codec) (hrejected : f.content.Rejected codec)
    (ops : List (FileOp × Listing)) :
    ((fileMachine codec lan).run f ops).content = f.content := by
  apply (fileMachine codec lan).run_invariant_of_step
    (I := fun g => g.content = f.content) _ rfl ops
  rintro g ⟨op, listing⟩ hg
  rw [← hg] at hmalformed hrejected
  exact (content_run_of_rejected hmalformed hrejected lan listing op).trans hg

/-- The text of a state without nodes and bindings. -/
def emptiedText : String :=
  "\x7b\n  \"bindings\": \x7b\x7d,\n  \"nodes\": \x7b\x7d,\n  \"version\": 1\n\x7d"

/-- A state whose node table is a list. -/
def listOfNodes : String := "\x7b\"nodes\": [\"door\"]\x7d"

/-- The decoder on these texts and on texts that are not JSON. -/
def exampleCodec : Codec where
  loads text :=
    if text = listOfNodes then .value (.obj [("nodes", .arr [.str "door"])])
    else if text = emptiedText then
      .value (.obj [("bindings", .obj []), ("nodes", .obj []), ("version", .num 1)])
    else .decodeError
  dumps _ := emptiedText
  rows _ := some {}
  store _ members := members

/-- A truncated file fails closed. -/
theorem truncated_file_fails_closed :
    FailsClosed { content := .text "\x7b\"nodes\": \x7b" }
      (FileOp.run exampleCodec {} (AllocatorReads.DiskFile.absent.listing WholeFloat 1000)
        { content := .text "\x7b\"nodes\": \x7b" } .listBindings) := by
  have hloads : exampleCodec.loads (pyStrip "\x7b\"nodes\": \x7b") = .decodeError := by
    simp only [exampleCodec]
    rw [if_neg (by decide +kernel), if_neg (by decide +kernel)]
  apply (failsClosed_iff exampleCodec {} 1000 .absent _ .listBindings ?_).mpr
  · refine ⟨rfl, ?_, fun _ => trivial⟩
    simp [Content.Rejected, hloads]
  · refine ⟨by decide +kernel, ?_⟩
    intro members h
    rw [hloads] at h
    cases h

/-- A mutation on a file whose node table is a list succeeds and writes an empty topology in
its place; a read of undecodable bytes raises something else, and so does a listing of the
bindings when the allocator's file holds such bytes. -/
theorem wrong_shape_emptied :
    (Content.text listOfNodes).Malformed exampleCodec ∧
      ¬ FailsClosed { content := .text listOfNodes } (FileOp.run exampleCodec {} (.ok ∅)
        { content := .text listOfNodes } (.mutate (.removeBinding "door:color"))) ∧
      (FileOp.run exampleCodec {} (.ok ∅) { content := .text listOfNodes }
        (.mutate (.removeBinding "door:color"))).2.content = .text emptiedText ∧
      ¬ FailsClosed { content := .undecodable [255] }
        (FileOp.run exampleCodec {} (.ok ∅) { content := .undecodable [255] } .listNodes) ∧
      ¬ FailsClosed { content := .text "\x7b" } (FileOp.run exampleCodec {}
        ((AllocatorReads.DiskFile.bytes [255]).listing WholeFloat 1000)
        { content := .text "\x7b" } .listBindings) := by
  have hwritten : (FileOp.run exampleCodec {} (.ok ∅) { content := .text listOfNodes }
      (.mutate (.removeBinding "door:color"))).2.content = .text emptiedText := by decide +kernel
  have hloads : exampleCodec.loads (pyStrip listOfNodes) =
      .value (.obj [("nodes", .arr [.str "door"])]) := by
    simp only [exampleCodec]
    rw [if_pos (by decide +kernel)]
  refine ⟨⟨by decide +kernel, ?_⟩, ?_, hwritten, ?_, ?_⟩
  · intro members h
    rw [hloads] at h
    cases h
    exact fun hshape => absurd (hshape.1 _ rfl) (by decide)
  · intro hclosed
    have hsame := hclosed.2.symm.trans hwritten
    exact absurd hsame (by decide +kernel)
  · rintro ⟨⟨reason, h⟩, -⟩
    cases h
  · rintro ⟨⟨reason, h⟩, -⟩
    have hlisting : (AllocatorReads.DiskFile.bytes [255]).listing WholeFloat 1000 =
        .error .unicodeDecode := by decide +kernel
    rw [hlisting] at h
    cases h

end CameraStack.Topology
