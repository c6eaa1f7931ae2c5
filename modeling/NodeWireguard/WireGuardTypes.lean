import Mathlib
import NodeWireguard.Foundations.ByteText

/-!
# The records shared by both backends

Configurations and read-only snapshots as `WireGuardTypes.h` declares them. A key is
a fixed block of octets, so its length is part of its type. An absent option leaves
the setting unchanged; a present one, even zero, is applied.

The exceptions are those the native code raises, with the text they carry.
-/

namespace NodeWireguard

open ByteText

/-- A block of exactly `size` octets (`std::array`, `in_addr`, `in6_addr`). -/
abbrev Octets (size : Nat) := List.Vector UInt8 size

/-- Octets of a WireGuard key. -/
def kKeyLen : Nat := 32

/-- A key of WireGuard: private, public or preshared. -/
abbrev Key := Octets kKeyLen

/-- Address families, as the socket layer numbers them. -/
def AF_INET : UInt8 := 2

/-- `AF_INET6` of Linux. -/
def AF_INET6 : UInt8 := 10

/-- The C++ exceptions of the native code. `systemError` is `helpers::SystemError`. -/
inductive Exception where
  | invalidArgument (what : Bytes)
  | outOfRange (what : Bytes)
  | runtimeError (what : Bytes)
  | systemError (code : Int) (what : Bytes)
  deriving DecidableEq

/-- Textual address, its family, and the mask length. None of the three has an initializer. -/
structure AllowedIP where
  ip : Bytes
  family : UInt8
  cidr : UInt8
  deriving DecidableEq

/-- The family and mask octets that a fresh `AllowedIP` happens to hold. The record has no
initializers, so they are whatever was in memory when the allowed-ip entry with this payload
was read, and may differ from entry to entry. -/
abbrev FreshOctets := Bytes → UInt8 × UInt8

/-- Memory that was zero. -/
def zeroed : FreshOctets := fun _ => (0, 0)

/-- Read-only peer status. Its defaults are those of the declaration: zero numbers, absent
options, no ranges. -/
structure Peer where
  publicKey : Key := List.Vector.replicate kKeyLen 0
  presharedKey : Option Key := none
  endpoint : Option Bytes := none
  persistentKeepaliveInterval : UInt16 := 0
  lastHandshakeTimeSec : Int64 := 0
  receiveBytes : UInt64 := 0
  transmitBytes : UInt64 := 0
  allowedIPs : List AllowedIP := []
  protocolVersion : UInt32 := 0
  deriving DecidableEq

/-- Read-only device snapshot; `userspace` records which backend produced it. -/
structure Device where
  name : Bytes := []
  userspace : Bool := false
  privateKey : Option Key := none
  publicKey : Option Key := none
  listenPort : UInt16 := 0
  firewallMark : UInt32 := 0
  peers : List Peer := []
  deriving DecidableEq

/-- What to apply to one peer. Only the key is required. -/
structure PeerConfig where
  publicKey : Key := List.Vector.replicate kKeyLen 0
  remove : Bool := false
  updateOnly : Bool := false
  presharedKey : Option Key := none
  endpoint : Option Bytes := none
  persistentKeepaliveInterval : Option UInt16 := none
  replaceAllowedIPs : Bool := false
  allowedIPs : List AllowedIP := []
  deriving DecidableEq

/-- What to apply to a device. -/
structure Config where
  privateKey : Option Key := none
  listenPort : Option UInt16 := none
  firewallMark : Option UInt32 := none
  replacePeers : Bool := false
  peers : List PeerConfig := []
  deriving DecidableEq

end NodeWireguard
