/-
# Pinned host keys

The gateway talks to a node over SSH only with a host key that it has pinned.  An operator pins
the key by confirming its fingerprint; a transport may pin whatever it sees when it is allowed to
trust on first use.  Both read the node, ask the network for a key, which takes seconds, and then
write the key into the row of the node whatever is there by then.
-/

import CameraStack.Topology.NodeTable

namespace CameraStack.Topology

open CameraStack.Lib

/-! ## Pins -/

/-- The host key of a row that counts as pinned. -/
def NodeRow.pin (row : NodeRow) : Option String := row.hostKey.filter fun key => key ≠ ""

namespace TopologyState

/-- The key that is pinned for a node. -/
def hostPin (t : TopologyState) (nodeId : String) : Option String :=
  t.nodes[nodeId]?.bind NodeRow.pin

variable {t : TopologyState} {nodeId : String}

theorem hostPin_getNode {node : NodeEntry} (h : t.getNode nodeId = some node)
    (hremote : node.nodeId ≠ localNodeId) : node.nodeId = nodeId ∧ t.hostPin nodeId = node.pin := by
  rw [getNode] at h
  split_ifs at h with hlocal
  · cases h
    exact absurd rfl hremote
  · obtain ⟨row, hrow, rfl⟩ := Option.map_eq_some_iff.mp h
    refine ⟨rfl, ?_⟩
    rw [hostPin, hrow]
    rfl

/-- The mutators of a row change the pin of their own node only. -/
theorem hostPin_updateNode (f : NodeRow → NodeRow) (n : String) :
    (written t (t.updateNode nodeId f)).hostPin n =
      if n = nodeId then t.nodes[nodeId]?.bind fun row => (f row).pin else t.hostPin n := by
  rw [updateNode]
  cases hrow : t.nodes[nodeId]? with
  | none =>
      split_ifs with hsame
      · rw [hsame]
        simp [written, hostPin, hrow]
      · rfl
  | some row =>
      simp only [written, hostPin, Dict.getElem?_insert, @eq_comm _ nodeId n]
      split_ifs
      · rfl
      · rfl

theorem hostPin_updateNode_keep {f : NodeRow → NodeRow}
    (hf : ∀ row, (f row).hostKey = row.hostKey) (n : String) :
    (written t (t.updateNode nodeId f)).hostPin n = t.hostPin n := by
  have hpin : ∀ row, (f row).pin = row.pin := fun row => by rw [NodeRow.pin, hf, NodeRow.pin]
  rw [hostPin_updateNode]
  split_ifs with hsame
  · rw [hsame, hostPin]
    simp only [hpin]
  · rfl

/-- `set_host_key` pins the key, for a node that is there. -/
theorem hostPin_setHostKey {key : String} (hkey : key ≠ "") {n : String} {pinned : String}
    (h : (written t (t.setHostKey nodeId key)).hostPin n = some pinned) :
    t.hostPin n = some pinned ∨ n = nodeId ∧ pinned = key := by
  rw [setHostKey, hostPin_updateNode] at h
  split_ifs at h with hsame
  · obtain ⟨row, -, hpin⟩ := Option.bind_eq_some_iff.mp h
    rw [NodeRow.pin, Option.filter_some, if_pos (decide_eq_true hkey)] at hpin
    exact .inr ⟨hsame, (Option.some.inj hpin).symm⟩
  · exact .inl h

/-- A row that takes the key of the row that it replaces keeps the pin. -/
theorem hostPin_insert {row : NodeRow} (n : String)
    (h : row.pin = none ∨ row.pin = t.hostPin nodeId) :
    (t.nodes.insert nodeId row)[n]?.bind NodeRow.pin = t.hostPin n ∨
      (t.nodes.insert nodeId row)[n]?.bind NodeRow.pin = none := by
  rw [Dict.getElem?_insert]
  split_ifs with hsame
  · rw [Option.bind_some, ← hsame]
    exact h.symm
  · exact .inl rfl

end TopologyState

/-- The operation is `set_host_key`. -/
def StoreOp.setsHostKey : StoreOp → Bool
  | .setHostKey .. => true
  | _ => false

/-- Apart from `set_host_key`, no operation of the stores pins a key. -/
theorem Stores.hostPin_apply (lan : LanConfig) (s : Stores) {op : StoreOp}
    (hop : op.setsHostKey = false) (n : String) :
    (s.apply lan op).topology.hostPin n = s.topology.hostPin n ∨
      (s.apply lan op).topology.hostPin n = none := by
  have same : ∀ {t' : TopologyState}, t'.nodes = s.topology.nodes →
      t'.hostPin n = s.topology.hostPin n ∨ t'.hostPin n = none := by
    intro t' hnodes
    rw [TopologyState.hostPin, hnodes]
    exact .inl rfl
  have wrote : ∀ {α : Type} {result : Except StoreError (α × TopologyState)},
      (∀ a t', result = .ok (a, t') → t'.hostPin n = s.topology.hostPin n ∨ t'.hostPin n = none) →
      (written s.topology result).hostPin n = s.topology.hostPin n ∨
        (written s.topology result).hostPin n = none := by
    intro α result h
    cases hresult : result with
    | error e => exact .inl rfl
    | ok pair => exact h pair.1 pair.2 hresult
  cases op with
  | allocate | ensureColor | setDesired | release | migrateColorKey => exact .inl rfl
  | upsertNode nodeId host role reachability serial displayName token =>
      refine wrote fun entry t' h => ?_
      rw [TopologyState.upsertNode] at h
      split_ifs at h
      cases h
      refine TopologyState.hostPin_insert n (.inr ?_)
      rw [TopologyState.hostPin]
      cases s.topology.nodes[nodeId]? with
      | none => rfl
      | some row => rfl
  | addNodeByHost host role displayName mintedId token =>
      simp only [apply, topology_setTopology]
      refine wrote fun entry t' h => ?_
      rw [TopologyState.addNodeByHost] at h
      simp only at h
      split at h
      · cases h
      · split at h
        · cases h
          exact .inl rfl
        · cases h
          exact TopologyState.hostPin_insert n (.inl rfl)
  | setReachability | setSerial | setProvisionState | touchChecked | setMaintenance =>
      simp only [apply, topology_setTopology]
      refine .inl (TopologyState.hostPin_updateNode_keep ?_ n)
      intro row
      rfl
  | setHostKey => cases hop
  | setAgentToken => exact wrote fun _ _ h => same (TopologyState.nodes_setAgentToken h)
  | removeNode nodeId =>
      refine wrote fun r t' h => ?_
      rw [TopologyState.hostPin, TopologyState.nodes_removeNode h, Dict.getElem?_erase]
      split_ifs
      · exact .inr rfl
      · exact .inl rfl
  | upsertBinding =>
      refine wrote fun b t' h => ?_
      obtain ⟨-, rfl⟩ := TopologyState.upsertBinding_ok h
      exact .inl rfl
  | removeBinding bindingId => exact same (TopologyState.nodes_removeBinding bindingId _)
  | migrateRemoteBindingIds => exact .inl rfl
  | setStatus | setFdirEnabled | setDesiredUp =>
      exact wrote fun _ _ h => same (TopologyState.nodes_updateBinding h)

/-! ## The calls that pin -/

/-- `ConfirmHostKeyCommand`. -/
structure ConfirmHostKeyCommand where
  nodeId : String
  expectedFingerprint : String
  force : Bool
  deriving DecidableEq

/-- The fingerprint that the command expects. -/
def ConfirmHostKeyCommand.expected (cmd : ConfirmHostKeyCommand) : String :=
  pyStrip cmd.expectedFingerprint

/-- The next access of `confirm_host_key`. -/
inductive ConfirmStep where
  | read
  | capture (node : NodeEntry)
  | compare (node : NodeEntry) (hk : String)
  | pin (node : NodeEntry) (hk seen : String)
  deriving DecidableEq

/-- The next access of `build_transport`, and of its caller before it. -/
inductive TransportStep where
  | read
  | capture (node : NodeEntry)
  | pin (node : NodeEntry) (hk : String)
  | reread (node : NodeEntry)
  deriving DecidableEq

/-- A call that may pin a key. -/
inductive PinCall where
  | confirm (cmd : ConfirmHostKeyCommand) (step : ConfirmStep)
  | transport (nodeId : String) (allowTofu : Bool) (step : TransportStep)
  deriving DecidableEq

/-- The call builds a transport. -/
def PinCall.isTransport : PinCall → Bool
  | .transport .. => true
  | .confirm .. => false

/-- How a call ends. -/
inductive PinOutcome where
  | confirmed (nodeId host fingerprint : String)
  | nodeNotFound (nodeId : String)
  | localNode
  | unreachable (host : String)
  | fingerprintMismatch (seen expected : String)
  | pinReplaceRejected (nodeId : String)
  | storeError (e : StoreError)
  | hostKeyNotConfirmed (nodeId : String)
  | transport (host : String) (hostKey : Option String)
  /-- The node went away behind the pin. -/
  | noNode
  deriving DecidableEq

/-- How a call goes on. -/
inductive PinNext where
  | goOn (c : PinCall)
  | ended (outcome : PinOutcome)
  deriving DecidableEq

/-- What a call meets outside. -/
structure PinMeets where
  /-- The line that `ssh-keyscan` prints, empty when it fails. -/
  key : String := ""
  /-- `ssh-keygen` answers in time. -/
  fingerprints : Bool := true
  deriving DecidableEq

/-- `host_key_fingerprint`. -/
def PinMeets.fingerprintOf (fingerprint : String → String) (m : PinMeets) (hk : String) : String :=
  if m.fingerprints then fingerprint hk else ""

/-- One access of a call. -/
def PinCall.access (fingerprint : String → String) (t : TopologyState) (m : PinMeets) :
    PinCall → TopologyState × PinNext
  | .confirm cmd .read =>
      match t.getNode cmd.nodeId with
      | none => (t, .ended (.nodeNotFound cmd.nodeId))
      | some node =>
          if node.nodeId = localNodeId then (t, .ended .localNode)
          else (t, .goOn (.confirm cmd (.capture node)))
  | .confirm cmd (.capture node) =>
      if m.key = "" then (t, .ended (.unreachable node.host))
      else (t, .goOn (.confirm cmd (.compare node m.key)))
  | .confirm cmd (.compare node hk) =>
      let seen := m.fingerprintOf fingerprint hk
      if seen ≠ cmd.expected then (t, .ended (.fingerprintMismatch seen cmd.expected))
      else if node.pin.isSome ∧ node.pin ≠ some hk ∧ cmd.force = false then
        (t, .ended (.pinReplaceRejected cmd.nodeId))
      else (t, .goOn (.confirm cmd (.pin node hk seen)))
  | .confirm cmd (.pin node hk seen) =>
      match t.setHostKey node.nodeId hk with
      | .error e => (t, .ended (.storeError e))
      | .ok (_, t') => (t', .ended (.confirmed cmd.nodeId node.host seen))
  | .transport nodeId allowTofu .read =>
      match t.getNode nodeId with
      | none => (t, .ended (.nodeNotFound nodeId))
      | some node =>
          if node.nodeId = localNodeId then (t, .ended .localNode)
          else if node.pin.isSome then (t, .ended (.transport node.host node.hostKey))
          else if allowTofu then (t, .goOn (.transport nodeId allowTofu (.capture node)))
          else (t, .ended (.hostKeyNotConfirmed node.nodeId))
  | .transport nodeId allowTofu (.capture node) =>
      -- Without a key the transport has none to check either.
      if m.key = "" then (t, .ended (.transport node.host node.hostKey))
      else (t, .goOn (.transport nodeId allowTofu (.pin node m.key)))
  | .transport nodeId allowTofu (.pin node hk) =>
      match t.setHostKey node.nodeId hk with
      | .error e => (t, .ended (.storeError e))
      | .ok (_, t') => (t', .goOn (.transport nodeId allowTofu (.reread node)))
  | .transport _ _ (.reread node) =>
      match t.getNode node.nodeId with
      | none => (t, .ended .noNode)
      | some node => (t, .ended (.transport node.host node.hostKey))

/-- The stores and the calls that run. -/
structure PinSite where
  stores : Stores := {}
  calls : List PinCall := []

/-- The key that is pinned for a node. -/
def PinSite.hostPin (s : PinSite) (nodeId : String) : Option String :=
  s.stores.topology.hostPin nodeId

/-- The operations of the stores that come from elsewhere: only the calls here set host keys. -/
abbrev OtherStoreOp := {op : StoreOp // op.setsHostKey = false}

/-- What happens at the site. -/
inductive PinEvent where
  | confirm (cmd : ConfirmHostKeyCommand)
  | transport (nodeId : String) (allowTofu : Bool)
  /-- A call makes its next access. -/
  | go (i : ℕ) (m : PinMeets)
  | store (op : OtherStoreOp)
  /-- A call ends with an exception that it does not handle. -/
  | escape (i : ℕ)
  | crash

namespace PinSite

/-- A call goes on or ends. -/
def goOn (s : PinSite) (i : ℕ) : PinNext → PinSite × List PinOutcome
  | .goOn c => ({ s with calls := s.calls.set i c }, [])
  | .ended outcome => ({ s with calls := s.calls.eraseIdx i }, [outcome])

/-- The call at an index makes its next access. -/
def advance (fingerprint : String → String) (s : PinSite) (i : ℕ) (m : PinMeets) :
    PinSite × List PinOutcome :=
  match s.calls[i]? with
  | none => (s, [])
  | some c =>
      let result := c.access fingerprint s.stores.topology m
      goOn { s with stores := s.stores.setTopology result.1 } i result.2

end PinSite

/-- The site, event by event. -/
def pinMachine (lan : LanConfig) (fingerprint : String → String) :
    Machine PinSite PinEvent PinOutcome where
  step s
    | .confirm cmd => ({ s with calls := s.calls ++ [.confirm cmd .read] }, [])
    | .transport nodeId allowTofu =>
        ({ s with calls := s.calls ++ [.transport nodeId allowTofu .read] }, [])
    | .go i m => s.advance fingerprint i m
    | .store op => ({ s with stores := s.stores.apply lan op.1 }, [])
    | .escape i => ({ s with calls := s.calls.eraseIdx i }, [])
    | .crash => ({ s with calls := [] }, [])

/-! ## Deliberate pins -/

/-- The call may pin the key for the node whose pin is the old one: a confirmation of its
fingerprint, with force when another key is pinned, or trust on first use of a node without a
pin. -/
def PinCall.MayPin (fingerprint : String → String) (nodeId : String) (old : Option String)
    (key : String) : PinCall → Prop
  | .confirm cmd _ =>
      cmd.nodeId = nodeId ∧ fingerprint key = cmd.expected ∧ (old = none ∨ cmd.force = true)
  | .transport n allowTofu _ => n = nodeId ∧ allowTofu = true ∧ old = none

namespace PinSite

/-- A key that an event pins is pinned by a call that may. -/
def Deliberate (lan : LanConfig) (fingerprint : String → String) (s : PinSite) (e : PinEvent) :
    Prop :=
  ∀ nodeId key, ((pinMachine lan fingerprint).next s e).hostPin nodeId = some key →
    s.hostPin nodeId ≠ some key →
      ∃ i m c, e = .go i m ∧ s.calls[i]? = some c ∧
        c.MayPin fingerprint nodeId (s.hostPin nodeId) key

/-- The pin of the node is still the one that the call read, or there is none, or it is the key
itself. -/
def StillPinned (s : PinSite) (node : NodeEntry) (hk : String) : Prop :=
  s.hostPin node.nodeId = node.pin ∨ s.hostPin node.nodeId = none ∨
    s.hostPin node.nodeId = some hk

/-- The next access of a call finds what the call relies on. -/
def Finds (s : PinSite) (m : PinMeets) : PinCall → Prop
  | .confirm cmd (.compare _ _) => m.fingerprints = true ∨ cmd.expected ≠ ""
  | .confirm cmd (.pin node hk _) => cmd.force = true ∨ s.StillPinned node hk
  | .transport _ _ (.pin node hk) => s.StillPinned node hk
  | .confirm .. | .transport .. => True

instance (s : PinSite) (m : PinMeets) (c : PinCall) : Decidable (s.Finds m c) :=
  match c with
  | .confirm cmd (.compare _ _) =>
      inferInstanceAs (Decidable (m.fingerprints = true ∨ cmd.expected ≠ ""))
  | .confirm cmd (.pin _ hk _) =>
      inferInstanceAs (Decidable (cmd.force = true ∨ (_ = _ ∨ _ = none ∨ _ = some hk)))
  | .transport _ _ (.pin node hk) =>
      inferInstanceAs (Decidable (_ = node.pin ∨ _ = none ∨ _ = some hk))
  | .confirm _ .read | .confirm _ (.capture _) | .transport _ _ .read
  | .transport _ _ (.capture _) | .transport _ _ (.reread _) => isTrue trivial

/-- Every access of a run finds what its call relies on. -/
def Undisturbed (s : PinSite) : PinEvent → Prop
  | .go i m => ∀ c ∈ s.calls[i]?, s.Finds m c
  | _ => True

instance (s : PinSite) (e : PinEvent) : Decidable (s.Undisturbed e) :=
  match e with
  | .go i m => inferInstanceAs (Decidable (∀ c ∈ s.calls[i]?, s.Finds m c))
  | .confirm _ | .transport .. | .store _ | .escape _ | .crash => isTrue trivial

end PinSite

/-! ## What a call knows -/

/-- What a call has made sure of when it comes to an access. -/
def PinCall.Knows (fingerprint : String → String) : PinCall → Prop
  | .confirm _ .read | .transport _ _ .read | .transport _ _ (.reread _) => True
  | .confirm cmd (.capture node) => node.nodeId = cmd.nodeId
  | .confirm cmd (.compare node hk) => node.nodeId = cmd.nodeId ∧ hk ≠ ""
  | .confirm cmd (.pin node hk _) =>
      node.nodeId = cmd.nodeId ∧ hk ≠ "" ∧ fingerprint hk = cmd.expected ∧
        (cmd.force = true ∨ node.pin = none ∨ node.pin = some hk)
  | .transport nodeId allowTofu (.capture node) =>
      node.nodeId = nodeId ∧ allowTofu = true ∧ node.pin = none
  | .transport nodeId allowTofu (.pin node hk) =>
      node.nodeId = nodeId ∧ hk ≠ "" ∧ allowTofu = true ∧ node.pin = none

/-- What an access of a call writes. -/
def PinCall.writes : PinCall → Option (String × String)
  | .confirm _ (.pin node hk _) | .transport _ _ (.pin node hk) => some (node.nodeId, hk)
  | .confirm .. | .transport .. => none

theorem PinCall.access_topology (fingerprint : String → String) (t : TopologyState) (m : PinMeets)
    (c : PinCall) :
    (c.access fingerprint t m).1 =
      match c.writes with
      | none => t
      | some (nodeId, hk) => written t (t.setHostKey nodeId hk) := by
  cases c with
  | confirm cmd step =>
      cases step with
      | read =>
          simp only [access, writes]
          split
          · rfl
          · split_ifs
            · rfl
            · rfl
      | capture node =>
          simp only [access, writes]
          split_ifs
          · rfl
          · rfl
      | compare node hk =>
          simp only [access, writes]
          split_ifs
          · rfl
          · rfl
          · rfl
      | pin node hk seen =>
          simp only [access, writes]
          split
          · next hresult => rw [hresult, written]
          · next hresult => rw [hresult, written]
  | transport nodeId allowTofu step =>
      cases step with
      | read =>
          simp only [access, writes]
          split
          · rfl
          · split_ifs
            · rfl
            · rfl
            · rfl
            · rfl
      | capture node =>
          simp only [access, writes]
          split_ifs
          · rfl
          · rfl
      | pin node hk =>
          simp only [access, writes]
          split
          · next hresult => rw [hresult, written]
          · next hresult => rw [hresult, written]
      | reread node =>
          simp only [access, writes]
          split
          · rfl
          · rfl

namespace PinSite

variable {lan : LanConfig} {fingerprint : String → String} {s : PinSite}

/-- A call without force that finds the pin that it read writes over none. -/
theorem StillPinned.unpinned {node : NodeEntry} {hk : String} (h : s.StillPinned node hk)
    (hread : node.pin = none ∨ node.pin = some hk) (hnew : s.hostPin node.nodeId ≠ some hk) :
    s.hostPin node.nodeId = none := by
  rcases h with hsame | hnone | hkey
  · rcases hread with hread | hread
    · exact hsame.trans hread
    · exact absurd (hsame.trans hread) hnew
  · exact hnone
  · exact absurd hkey hnew

theorem hostPin_goOn (s : PinSite) (i : ℕ) (next : PinNext) (nodeId : String) :
    (s.goOn i next).1.hostPin nodeId = s.hostPin nodeId := by
  cases next with
  | goOn | ended => rfl

/-- The calls that run know what they have made sure of. -/
def Knows (fingerprint : String → String) (s : PinSite) : Prop :=
  ∀ c ∈ s.calls, c.Knows fingerprint

/-- A confirmation that goes on from the comparison has compared what it was told to. -/
theorem Finds.matches {m : PinMeets} {cmd : ConfirmHostKeyCommand} {node : NodeEntry} {hk : String}
    (hfinds : s.Finds m (.confirm cmd (.compare node hk)))
    (hmatch : m.fingerprintOf fingerprint hk = cmd.expected) : fingerprint hk = cmd.expected := by
  rw [PinMeets.fingerprintOf] at hmatch
  split_ifs at hmatch with hanswers
  · exact hmatch
  · rcases hfinds with hfinds | hfinds
    · exact absurd hfinds hanswers
    · exact absurd hmatch.symm hfinds

/-- It was told to replace a pin, or has read none, or the same. -/
theorem replaces {cmd : ConfirmHostKeyCommand} {node : NodeEntry} {hk : String}
    (hreplace : ¬ (node.pin.isSome = true ∧ node.pin ≠ some hk ∧ cmd.force = false)) :
    cmd.force = true ∨ node.pin = none ∨ node.pin = some hk := by
  cases hpin : node.pin with
  | none => exact .inr (.inl rfl)
  | some old =>
      cases hforce : cmd.force with
      | true => exact .inl rfl
      | false =>
          refine .inr (.inr (not_not.mp fun hne => hreplace ?_))
          exact ⟨by rw [hpin]; rfl, hpin ▸ hne, hforce⟩

/-- A call that goes on knows what it has made sure of by then. -/
theorem Finds.knows {m : PinMeets} {c c' : PinCall} (hfinds : s.Finds m c)
    (hknows : c.Knows fingerprint)
    (h : (c.access fingerprint s.stores.topology m).2 = .goOn c') : c'.Knows fingerprint := by
  cases c with
  | confirm cmd step =>
      cases step with
      | read =>
          rw [PinCall.access] at h
          cases hnode : s.stores.topology.getNode cmd.nodeId with
          | none =>
              rw [hnode] at h
              cases h
          | some node =>
              simp only [hnode] at h
              split_ifs at h with hlocal
              cases h
              exact (TopologyState.hostPin_getNode hnode hlocal).1
      | capture node =>
          rw [PinCall.access] at h
          split_ifs at h with hempty
          cases h
          exact ⟨hknows, hempty⟩
      | compare node hk =>
          obtain ⟨hsame, hkey⟩ := hknows
          rw [PinCall.access] at h
          split_ifs at h with hseen hreplace
          cases h
          exact ⟨hsame, hkey, hfinds.matches (not_not.mp hseen), replaces hreplace⟩
      | pin node hk seen =>
          rw [PinCall.access] at h
          split at h
          · cases h
          · cases h
  | transport nodeId allowTofu step =>
      cases step with
      | read =>
          rw [PinCall.access] at h
          cases hnode : s.stores.topology.getNode nodeId with
          | none =>
              rw [hnode] at h
              cases h
          | some node =>
              simp only [hnode] at h
              split_ifs at h with hlocal hpin htofu
              cases h
              refine ⟨(TopologyState.hostPin_getNode hnode hlocal).1, htofu, ?_⟩
              exact Option.not_isSome_iff_eq_none.mp hpin
      | capture node =>
          rw [PinCall.access] at h
          split_ifs at h with hempty
          cases h
          exact ⟨hknows.1, hempty, hknows.2⟩
      | pin node hk =>
          rw [PinCall.access] at h
          split at h
          · cases h
          · cases h
            trivial
      | reread node =>
          rw [PinCall.access] at h
          split at h
          · cases h
          · cases h

/-- A call pins what it may. -/
theorem Finds.mayPin {m : PinMeets} {c : PinCall} (hfinds : s.Finds m c)
    (hknows : c.Knows fingerprint) {nodeId key : String}
    (hpinned : (c.access fingerprint s.stores.topology m).1.hostPin nodeId = some key)
    (hnew : s.hostPin nodeId ≠ some key) :
    c.MayPin fingerprint nodeId (s.hostPin nodeId) key := by
  rw [PinCall.access_topology] at hpinned
  cases c with
  | confirm cmd step =>
      cases step with
      | read | capture | compare => exact absurd hpinned hnew
      | pin node hk seen =>
          obtain ⟨hsame, hkey, hmatch, hread⟩ := hknows
          rcases TopologyState.hostPin_setHostKey hkey hpinned with hold | ⟨rfl, rfl⟩
          · exact absurd hold hnew
          · refine ⟨hsame.symm, hmatch, ?_⟩
            cases hforce : cmd.force with
            | true => exact .inr rfl
            | false =>
                have hunforced : cmd.force ≠ true := hforce ▸ Bool.false_ne_true
                have hstill : s.StillPinned node _ := hfinds.resolve_left hunforced
                exact .inl (hstill.unpinned (hread.resolve_left hunforced) hnew)
  | transport n allowTofu step =>
      cases step with
      | read | capture | reread => exact absurd hpinned hnew
      | pin node hk =>
          obtain ⟨hsame, hkey, htofu, hread⟩ := hknows
          rcases TopologyState.hostPin_setHostKey hkey hpinned with hold | ⟨rfl, rfl⟩
          · exact absurd hold hnew
          · exact ⟨hsame.symm, htofu, hfinds.unpinned (.inl hread) hnew⟩

theorem Knows.of_mem (h : s.Knows fingerprint) {calls : List PinCall}
    (hcalls : ∀ c ∈ calls, c ∈ s.calls ∨ c.Knows fingerprint) (stores : Stores) :
    Knows fingerprint { stores := stores, calls := calls } := by
  intro c hc
  rcases hcalls c hc with hold | hnew
  · exact h c hold
  · exact hnew

/-- A call begins. -/
theorem Knows.begin (h : s.Knows fingerprint) {c : PinCall} (hc : c.Knows fingerprint) :
    Knows fingerprint { s with calls := s.calls ++ [c] } := by
  refine h.of_mem (fun c' hc' => ?_) _
  rcases List.mem_append.mp hc' with hold | hnew
  · exact .inl hold
  · rw [List.mem_singleton.mp hnew]
    exact .inr hc

theorem Knows.next (h : s.Knows fingerprint) {e : PinEvent} (hfinds : s.Undisturbed e) :
    ((pinMachine lan fingerprint).next s e).Knows fingerprint := by
  cases e with
  | confirm cmd => exact h.begin trivial
  | transport nodeId allowTofu => exact h.begin trivial
  | go i m =>
      change (s.advance fingerprint i m).1.Knows fingerprint
      rw [advance]
      cases hcall : s.calls[i]? with
      | none => exact h
      | some c =>
          simp only
          cases hnext : (c.access fingerprint s.stores.topology m).2 with
          | ended outcome => exact h.of_mem (fun c hc => .inl (List.mem_of_mem_eraseIdx hc)) _
          | goOn c' =>
              refine h.of_mem (fun d hd => ?_) _
              rcases List.mem_or_eq_of_mem_set hd with hold | rfl
              · exact .inl hold
              · exact .inr ((hfinds c hcall).knows (h c (List.mem_of_getElem? hcall)) hnext)
  | store op => exact h.of_mem (fun c hc => .inl hc) _
  | escape i => exact h.of_mem (fun c hc => .inl (List.mem_of_mem_eraseIdx hc)) _
  | crash => exact h.of_mem (fun c hc => .inl (absurd hc List.not_mem_nil)) _

theorem Knows.deliberate (h : s.Knows fingerprint) {e : PinEvent} (hfinds : s.Undisturbed e) :
    s.Deliberate lan fingerprint e := by
  intro nodeId key hpinned hnew
  cases e with
  | confirm | transport | escape | crash => exact absurd hpinned hnew
  | store op =>
      rcases s.stores.hostPin_apply lan op.2 nodeId with hkept | hgone
      · exact absurd (hkept.symm.trans hpinned) hnew
      · cases hgone.symm.trans hpinned
  | go i m =>
      change (s.advance fingerprint i m).1.hostPin nodeId = some key at hpinned
      rw [advance] at hpinned
      cases hcall : s.calls[i]? with
      | none =>
          rw [hcall] at hpinned
          exact absurd hpinned hnew
      | some c =>
          refine ⟨i, m, c, rfl, hcall, ?_⟩
          refine (hfinds c hcall).mayPin (h c (List.mem_of_getElem? hcall)) ?_ hnew
          simp only [hcall, hostPin_goOn] at hpinned
          exact hpinned

/-- From a start without calls, every key that is pinned along a run whose accesses find what
their calls rely on is pinned deliberately. -/
theorem pins_deliberate (lan : LanConfig) (fingerprint : String → String) {s : PinSite}
    {events : List PinEvent} (hcalls : s.calls = [])
    (hundisturbed : (pinMachine lan fingerprint).Along Undisturbed s events) :
    (pinMachine lan fingerprint).Along (Deliberate lan fingerprint) s events := by
  refine Machine.along_of_invariant (I := Knows fingerprint) (pinMachine lan fingerprint)
    (fun _ _ h hfinds => h.next hfinds) (fun _ _ h hfinds => h.deliberate hfinds) hundisturbed ?_
  intro c hc
  rw [hcalls] at hc
  cases hc

/-- The fingerprints of the runs below. -/
def sampleFingerprint (key : String) : String :=
  if key = "node ssh-ed25519 AAAA" then "SHA256:good" else "SHA256:other"

/-- The operator confirms the key of the node. -/
def sampleConfirm (i : ℕ) : List PinEvent :=
  [.confirm ⟨"n1", "SHA256:good", false⟩, .go i {}, .go i { key := "node ssh-ed25519 AAAA" },
    .go i {}, .go i {}]

/-- A node is registered. -/
def sampleRegister : PinEvent :=
  .store ⟨.upsertNode "n1" "192.168.1.60" "remote_producer" "unknown" none none "token", rfl⟩

/-- A provisioning that trusts on first use, up to its pin. -/
def sampleTofu : List PinEvent :=
  [.transport "n1" true, .go 0 {}, .go 0 { key := "other ssh-ed25519 BBBB" }]

theorem pins_deliberate_confirmed :
    (pinMachine {} sampleFingerprint).Along (Deliberate {} sampleFingerprint) {}
      (sampleRegister :: sampleConfirm 0) :=
  pins_deliberate {} sampleFingerprint rfl (by decide +kernel)

/-- A provisioning that trusts on first use reads the node before the operator confirms its key,
and replaces the confirmed key by the one that it saw itself. -/
theorem tofu_replaces_confirmed :
    ¬ (pinMachine {} sampleFingerprint).Along (Deliberate {} sampleFingerprint) {}
      ((sampleRegister :: sampleTofu ++ sampleConfirm 1) ++ [.go 0 {}]) := by
  intro hrun
  have hlast := ((Machine.along_append _ _ _ _).mp hrun).2.1
  obtain ⟨i, m, c, he, hcall, hmay⟩ :=
    hlast "n1" "other ssh-ed25519 BBBB" (by decide +kernel) (by decide +kernel)
  cases he
  cases c with
  | confirm cmd step =>
      have htransport : ((pinMachine {} sampleFingerprint).run {}
          (sampleRegister :: sampleTofu ++ sampleConfirm 1)).calls.all PinCall.isTransport =
            true := by decide +kernel
      cases List.all_eq_true.mp htransport _ (List.mem_of_getElem? hcall)
  | transport n allowTofu step => exact absurd hmay.2.2 (by decide +kernel)

end PinSite

end CameraStack.Topology
