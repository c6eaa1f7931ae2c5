import Mathlib
import NodeWireguard.Client.JsValues
import NodeWireguard.Crypto.Key
import NodeWireguard.Netlink.AddressText

/-!
# Devices given to JavaScript

`PeerToJs` and `DeviceToJs` of `WireGuardClient.cpp`. An unset key is shown as the empty
string, a missing endpoint as `undefined`, and no handshake as `null`; every other field
is always there.
-/

namespace NodeWireguard.DeviceToJs

open ByteText Key AddressText JsValues

/-- `Napi::Number` of an unsigned integer. -/
def number (value : Nat) : JsValue := .number (.finite value)

/-- A preshared key is shown unless it is absent or all zero. -/
def shownPsk (psk : Option Key) : Bytes :=
  match psk with
  | some key => if isZeroKey key then [] else keyToBase64 key
  | none => []

/-- A device key is shown unless it is absent. -/
def shownKey (key : Option Key) : Bytes :=
  match key with
  | some key => keyToBase64 key
  | none => []

/-- `PeerToJs`: a preshared key of zeros is shown as none, and a peer without an endpoint has the
property undefined. -/
def peerToJs (peer : Peer) : JsValue :=
  .object [
    ("publicKey", .string (keyToBase64 peer.publicKey)),
    ("presharedKey", .string (shownPsk peer.presharedKey)),
    ("endpoint", match peer.endpoint with
      | some text => .string text
      | none => .undefined),
    ("persistentKeepaliveInterval", number peer.persistentKeepaliveInterval.toNat),
    ("lastHandshakeTime",
      if 0 < peer.lastHandshakeTimeSec then .date peer.lastHandshakeTimeSec else .null),
    ("receiveBytes", .bigint peer.receiveBytes.toNat),
    ("transmitBytes", .bigint peer.transmitBytes.toNat),
    ("allowedIPs", .array (peer.allowedIPs.map (fun aip => .string (formatCIDR aip)))),
    ("protocolVersion", number peer.protocolVersion.toNat)]

/-- `DeviceToJs`: an absent key is shown as the empty text, and any present one as it is. -/
def deviceToJs (dev : Device) : JsValue :=
  .object [
    ("name", .string dev.name),
    ("type", .string (if dev.userspace then ascii "userspace" else ascii "linux-kernel")),
    ("privateKey", .string (shownKey dev.privateKey)),
    ("publicKey", .string (shownKey dev.publicKey)),
    ("listenPort", number dev.listenPort.toNat),
    ("firewallMark", number dev.firewallMark.toNat),
    ("peers", .array (dev.peers.map peerToJs))]

end NodeWireguard.DeviceToJs
