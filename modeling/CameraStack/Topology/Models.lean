/-
# Stream bindings: value objects and address checks

A binding ties one sensor of one node to one Janus mountpoint and one RTP port.
Remote bindings are stored rows; local ones are read off the allocator.  A node
row carries the host of a remote producer, its allocation ordinal and the camera
serial once a probe has reported it.

Addresses are checked with Python's `ipaddress`, which accepts exactly four
decimal octets without leading zeros.
-/

import Mathlib.Algebra.Order.Ring.Rat
import Mathlib.Data.Finset.Insert
import Mathlib.Data.Finset.Disjoint
import CameraStack.Lib.Dict

namespace CameraStack.Topology

open CameraStack.Lib

/-! ## Addresses -/

/-- `str.split(sep)` for a single separator. -/
def splitChars (sep : Char) : List Char → List (List Char)
  | [] => [[]]
  | c :: cs =>
      if c = sep then [] :: splitChars sep cs
      else
        match splitChars sep cs with
        | [] => [[c]]
        | field :: fields => (c :: field) :: fields

/-- The value of a string of ASCII digits. -/
def digitsValue (digits : List Char) : ℕ :=
  digits.foldl (fun n c => 10 * n + (c.toNat - '0'.toNat)) 0

/-- `IPv4Address._parse_octet`: one to three ASCII digits, no leading zero, at most
255. -/
def parseOctet (octet : List Char) : Option ℕ :=
  if octet = [] ∨ 3 < octet.length ∨ ¬ octet.all Char.isDigit then none
  else if octet ≠ ['0'] ∧ octet.head? = some '0' then none
  else if 255 < digitsValue octet then none
  else some (digitsValue octet)

/-- The address `ipaddress.IPv4Address` makes of a string, as a number. -/
def parseIpv4 (value : String) : Option ℕ :=
  match (splitChars '.' value.toList).map parseOctet with
  | [some a, some b, some c, some d] => some (((a * 256 + b) * 256 + c) * 256 + d)
  | _ => none

/-- `_is_ipv4`. -/
def isIpv4 (value : String) : Bool := (parseIpv4 value).isSome

/-- A block of addresses that share their leading bits. -/
structure Ipv4Network where
  address : ℕ
  maskBits : ℕ

/-- Membership of an address in a network. -/
def Ipv4Network.contains (net : Ipv4Network) (ip : ℕ) : Bool :=
  ip / 2 ^ (32 - net.maskBits) = net.address / 2 ^ (32 - net.maskBits)

/-- The blocks behind `is_loopback`, `is_unspecified`, `is_multicast` and
`is_reserved`. -/
def loopbackBlock : Ipv4Network := { address := 127 * 2 ^ 24, maskBits := 8 }

@[inherit_doc loopbackBlock]
def unspecifiedBlock : Ipv4Network := { address := 0, maskBits := 32 }

@[inherit_doc loopbackBlock]
def multicastBlock : Ipv4Network := { address := 224 * 2 ^ 24, maskBits := 4 }

@[inherit_doc loopbackBlock]
def reservedBlock : Ipv4Network := { address := 240 * 2 ^ 24, maskBits := 4 }

/-- `_is_loopback`. -/
def isLoopback (value : String) : Bool :=
  match parseIpv4 value with
  | some ip => loopbackBlock.contains ip
  | none => false

/-- An address that packets from another host can come from. -/
def isLanAddress (value : String) : Bool := isIpv4 value && !isLoopback value

example : isLanAddress "192.168.1.20" = true := by decide +kernel
example : isLanAddress "127.0.0.1" = false ∧ isIpv4 "192.168.01.20" = false := by decide +kernel

/-! ## Value objects -/

/-- Who produces the stream. -/
inductive StreamMode
  | localProducer | remoteProducer
  deriving DecidableEq, Repr

/-- The stored status of a binding. -/
inductive StreamStatus
  | configuredOffline | waitingForRtp | online | stale | degraded
  deriving DecidableEq, Repr

/-- Where the RTP packets arrive. -/
structure StreamTransport where
  rtpPort : ℤ
  payloadType : ℤ := 96
  codec : String := "h264"
  deriving DecidableEq

/-- The Janus mountpoint that serves the stream. -/
structure StreamJanusConfig where
  mountpointId : ℤ
  rtpIface : String
  deriving DecidableEq

/-- Auto-recovery of the stream. -/
structure StreamFdirConfig where
  enabled : Bool := true
  policy : String := "stream_default"
  deriving DecidableEq

/-- One sensor of one node on one mountpoint. -/
structure StreamBinding where
  bindingId : String
  nodeId : String
  sensor : String
  mode : StreamMode
  transport : StreamTransport
  janus : StreamJanusConfig
  fdir : StreamFdirConfig := {}
  status : StreamStatus := .configuredOffline
  desiredUp : Bool := true
  deriving DecidableEq

/-- The stored row of a node (`to_dict`; the token lives in the secret store). -/
structure NodeRow where
  host : String
  role : String
  reachability : String := "unknown"
  ordinal : Option ℕ := none
  serial : Option String := none
  displayName : Option String := none
  provisionState : Option String := none
  hostKey : Option String := none
  maintenance : Bool := false
  lastError : Option String := none
  lastCheckedAt : Option ℚ := none
  deriving DecidableEq

/-- A node as callers see it. -/
structure NodeEntry extends NodeRow where
  nodeId : String
  agentToken : Option String := none
  deriving DecidableEq

/-- The implicit local node. -/
def localNodeId : String := "cam10"

/-- The loopback interface of local bindings. -/
def loopback : String := "127.0.0.1"

/-- `LOCAL_NODE`. -/
def localNode : NodeEntry where
  nodeId := localNodeId
  host := loopback
  role := "gateway_camera"
  reachability := "local"

/-- `remote_binding_id`: keyed by the serial once it is known and not empty. -/
def remoteBindingId (node : NodeEntry) (sensor : String) : String :=
  match node.serial with
  | some serial => if serial = "" then node.nodeId ++ ":" ++ sensor else serial ++ ":" ++ sensor
  | none => node.nodeId ++ ":" ++ sensor

/-! ## Slots of the free-list -/

/-- What a stream occupies: a mountpoint id and an RTP port, whose successor is the
RTCP port. -/
structure Slot where
  mountpointId : ℤ
  rtpPort : ℤ
  deriving DecidableEq

namespace Slot

/-- The RTP/RTCP pair. -/
def ports (s : Slot) : Finset ℤ := {s.rtpPort, s.rtpPort + 1}

/-- Two slots that can be in use together. -/
def Apart (s t : Slot) : Prop := s.mountpointId ≠ t.mountpointId ∧ Disjoint s.ports t.ports

theorem disjoint_ports_iff {s t : Slot} :
    Disjoint s.ports t.ports ↔
      s.rtpPort ≠ t.rtpPort ∧ s.rtpPort ≠ t.rtpPort + 1 ∧ s.rtpPort + 1 ≠ t.rtpPort := by
  simp only [ports, Finset.disjoint_insert_left, Finset.disjoint_singleton_left,
    Finset.mem_insert, Finset.mem_singleton]
  omega

theorem Apart.symm {s t : Slot} (h : s.Apart t) : t.Apart s := ⟨h.1.symm, h.2.symm⟩

end Slot

/-- The slot of a binding. -/
def StreamBinding.slot (b : StreamBinding) : Slot :=
  { mountpointId := b.janus.mountpointId, rtpPort := b.transport.rtpPort }

end CameraStack.Topology
