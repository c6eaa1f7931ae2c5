import Mathlib
import NodeWireguard.Netlink.DeviceSettings

/-!
# Device dumps

The callbacks of `NlAttr.cpp` that turn the messages of a device dump into one device:
`ParseAllowedIPAttr`, `ParsePeerAttr`, `ParsePeerEntry`, `ParseDeviceAttr` and
`ParseDeviceMessage`. Each is folded over the attributes of its level, and a peer entry
with the key of the last peer only adds its allowed addresses to it.

`wg::AllowedIP` has no initializers, so a fresh one starts with whatever octets are in
memory; they are a parameter, a function of the entry that is read. The values of attributes
are read with `mnl_attr_get_u16` and its siblings or copied with `memcpy`, and no callback
checks a length. A payload shorter than what is read counts here as filled up with zeros;
what the code finds behind it in the datagram is not modelled.
-/

namespace NodeWireguard.DeviceDump

open ByteText AddressText AttributeStream SocketAddress DeviceSettings WireguardUapi

/-- What a callback looks at: the type without flag bits, and the payload. -/
abbrev Field := UInt16 × Bytes

/-- An attribute with its type alone, as the switches of the parser see it. -/
def fieldOf (attr : Attr) : Field := (attrKind attr, attr.payload)

/-- `mnl_attr_get_u8`, `_u16`, `_u32` and `_u64`. Documented to return the number of that size at
the start of the payload, in the order of the host; they check no length. -/
def unsignedAt (size : Nat) (payload : Bytes) : Nat := fromLittleEndian (payload.take size)

section Callbacks

variable (inet : Inet) (fresh : FreshOctets)

/-- One case of the switch in `ParseAllowedIPAttr`: an address is written for the family that the
record has by then. -/
def parseAllowedIPField (out : AllowedIP) (field : Field) : AllowedIP :=
  if field.1 = WGALLOWEDIP_A_FAMILY then
    { out with family := UInt8.ofNat (unsignedAt 2 field.2) }
  else if field.1 = WGALLOWEDIP_A_IPADDR then
    if out.family = AF_INET6 then { out with ip := inet.ntop6 (octetsOf 16 field.2) }
    else { out with ip := inet.ntop4 (octetsOf 4 field.2) }
  else if field.1 = WGALLOWEDIP_A_CIDR_MASK then { out with cidr := field.2.getD 0 0 }
  else out

/-- `ParseAllowedIPAttr` -/
def parseAllowedIPAttr (out : AllowedIP) (attr : Attr) : AllowedIP :=
  parseAllowedIPField inet out (fieldOf attr)

/-- `ParseAllowedIPEntry`: the record starts out uninitialised, so its family and mask are
whatever its entry finds there until an attribute sets them. -/
def parseAllowedIPEntry (list : List AllowedIP) (attr : Attr) : List AllowedIP :=
  list ++ [(walk attr.payload).foldl (parseAllowedIPAttr inet)
    ⟨[], (fresh attr.payload).1, (fresh attr.payload).2⟩]

/-- One case of the switch in `ParsePeerAttr`. A type that is not listed leaves the peer as it
is. -/
def parsePeerField (peer : Peer) (field : Field) : Peer :=
  if field.1 = WGPEER_A_PUBLIC_KEY then { peer with publicKey := octetsOf kKeyLen field.2 }
  else if field.1 = WGPEER_A_PRESHARED_KEY then
    { peer with presharedKey := some (octetsOf kKeyLen field.2) }
  else if field.1 = WGPEER_A_ENDPOINT then { peer with endpoint := some (formatEndpoint inet field.2) }
  else if field.1 = WGPEER_A_PERSISTENT_KEEPALIVE_INTERVAL then
    { peer with persistentKeepaliveInterval := UInt16.ofNat (unsignedAt 2 field.2) }
  else if field.1 = WGPEER_A_LAST_HANDSHAKE_TIME then
    { peer with lastHandshakeTimeSec := (UInt64.ofNat (unsignedAt 8 field.2)).toInt64 }
  else if field.1 = WGPEER_A_RX_BYTES then
    { peer with receiveBytes := UInt64.ofNat (unsignedAt 8 field.2) }
  else if field.1 = WGPEER_A_TX_BYTES then
    { peer with transmitBytes := UInt64.ofNat (unsignedAt 8 field.2) }
  else if field.1 = WGPEER_A_ALLOWEDIPS then
    { peer with
      allowedIPs := (walk field.2).foldl (parseAllowedIPEntry inet fresh) peer.allowedIPs }
  else if field.1 = WGPEER_A_PROTOCOL_VERSION then
    { peer with protocolVersion := UInt32.ofNat (unsignedAt 4 field.2) }
  else peer

/-- `ParsePeerAttr` -/
def parsePeerAttr (peer : Peer) (attr : Attr) : Peer := parsePeerField inet fresh peer (fieldOf attr)

/-- An entry is a new peer unless it continues the last one. -/
def parsePeerEntry (peers : List Peer) (attr : Attr) : List Peer :=
  let peer := (walk attr.payload).foldl (parsePeerAttr inet fresh) {}
  match peers.getLast? with
  | some existing =>
      if existing.publicKey = peer.publicKey then
        peers.dropLast ++ [{ existing with allowedIPs := existing.allowedIPs ++ peer.allowedIPs }]
      else peers ++ [peer]
  | none => peers ++ [peer]

/-- One case of the switch in `ParseDeviceAttr`. A type that is not listed leaves the device as
it is. -/
def parseDeviceField (device : Device) (field : Field) : Device :=
  if field.1 = WGDEVICE_A_IFNAME then { device with name := cString field.2 }
  else if field.1 = WGDEVICE_A_PRIVATE_KEY then
    { device with privateKey := some (octetsOf kKeyLen field.2) }
  else if field.1 = WGDEVICE_A_PUBLIC_KEY then
    { device with publicKey := some (octetsOf kKeyLen field.2) }
  else if field.1 = WGDEVICE_A_LISTEN_PORT then
    { device with listenPort := UInt16.ofNat (unsignedAt 2 field.2) }
  else if field.1 = WGDEVICE_A_FWMARK then
    { device with firewallMark := UInt32.ofNat (unsignedAt 4 field.2) }
  else if field.1 = WGDEVICE_A_PEERS then
    { device with peers := (walk field.2).foldl (parsePeerEntry inet fresh) device.peers }
  else device

/-- `ParseDeviceAttr` -/
def parseDeviceAttr (device : Device) (attr : Attr) : Device :=
  parseDeviceField inet fresh device (fieldOf attr)

/-- One message of a dump, from its payload: the generic header is skipped. -/
def parseDeviceMessage (device : Device) (payload : Bytes) : Device :=
  (walk (payload.drop 4)).foldl (parseDeviceAttr inet fresh) device

end Callbacks

/-- A peer as the kernel holds it. The key and time attributes are sent as they are; an
endpoint is sent where there is one, with its flow info and scope id. -/
structure KernelPeer where
  publicKey : Key
  presharedKey : Option Key
  endpoint : Option SockAddr
  flowInfo : Octets 4 := List.Vector.replicate 4 0
  scopeId : Octets 4 := List.Vector.replicate 4 0
  persistentKeepaliveInterval : UInt16
  lastHandshakeTime : Int64 × Int64
  receiveBytes : UInt64
  transmitBytes : UInt64
  protocolVersion : UInt32
  allowedIPs : List AllowedRange
  deriving DecidableEq

/-- The scalar attributes of a first entry. There is none for a preshared key or an endpoint that
is absent. -/
def scalarFields (peer : KernelPeer) : List Field :=
  [(WGPEER_A_PUBLIC_KEY, peer.publicKey.toList)]
    ++ peer.presharedKey.toList.map (fun key => (WGPEER_A_PRESHARED_KEY, key.toList))
    ++ [(WGPEER_A_LAST_HANDSHAKE_TIME,
          littleEndian 8 peer.lastHandshakeTime.1.toUInt64.toNat
            ++ littleEndian 8 peer.lastHandshakeTime.2.toUInt64.toNat),
        (WGPEER_A_PERSISTENT_KEEPALIVE_INTERVAL,
          littleEndian 2 peer.persistentKeepaliveInterval.toNat),
        (WGPEER_A_TX_BYTES, littleEndian 8 peer.transmitBytes.toNat),
        (WGPEER_A_RX_BYTES, littleEndian 8 peer.receiveBytes.toNat),
        (WGPEER_A_PROTOCOL_VERSION, littleEndian 4 peer.protocolVersion.toNat)]
    ++ peer.endpoint.toList.map (fun address =>
        (WGPEER_A_ENDPOINT, dumpedSockaddr peer.flowInfo peer.scopeId address))

/-- The attributes of a continuation entry besides its slice. -/
def continuationFields (peer : KernelPeer) : List Field :=
  [(WGPEER_A_PUBLIC_KEY, peer.publicKey.toList)]

/-- Family and octets of an address. -/
def addressFields : Address → UInt8 × Bytes
  | .v4 addr => (AF_INET, addr.toList)
  | .v6 addr => (AF_INET6, addr.toList)

/-- A nested attribute that holds one range, with the family before the address. -/
def RangeEntry (range : AllowedRange) (attr : Attr) : Prop :=
  let family : Field := (WGALLOWEDIP_A_FAMILY, littleEndian 2 (addressFields range.address).1.toNat)
  let address : Field := (WGALLOWEDIP_A_IPADDR, (addressFields range.address).2)
  let mask : Field := (WGALLOWEDIP_A_CIDR_MASK, [range.mask])
  (walk attr.payload).map fieldOf ∈
    [[mask, family, address], [family, mask, address], [family, address, mask]]

/-- A nested attribute that is one peer entry: some scalar attributes and a slice of the
peer's ranges, in any order. The slice may be left out when it is empty. -/
def PeerEntry (scalars : List Field) (slice : List AllowedRange) (attr : Attr) : Prop :=
  ∃ nested : Option Bytes,
    ((walk attr.payload).map fieldOf).Perm
        (scalars ++ nested.toList.map (fun list => (WGPEER_A_ALLOWEDIPS, list))) ∧
      List.Forall₂ RangeEntry slice (walk (nested.getD []))

/-- A peer with its ranges cut for a dump: a first slice and any number of further ones. -/
structure Cut where
  peer : KernelPeer
  first : List AllowedRange
  further : List (List AllowedRange)
  whole : peer.allowedIPs = first ++ further.flatten

/-- The entries of a cut peer, by their scalar attributes and slices. -/
def Cut.entries (cut : Cut) : List (List Field × List AllowedRange) :=
  (scalarFields cut.peer, cut.first)
    :: cut.further.map (fun slice => (continuationFields cut.peer, slice))

/-- The peer entries a message carries, in order. Entries of one message follow those of the one
before. -/
def peerEntries (payload : Bytes) : List Attr :=
  ((walk (payload.drop 4)).filter (fun attr => attrKind attr = WGDEVICE_A_PEERS)).flatMap
    (fun attr => walk attr.payload)

section Shown

variable (inet : Inet)

/-- A range as its record. -/
def showRange (range : AllowedRange) : AllowedIP :=
  match range.address with
  | .v4 addr => ⟨inet.ntop4 addr, AF_INET, range.mask⟩
  | .v6 addr => ⟨inet.ntop6 addr, AF_INET6, range.mask⟩

/-- A kernel peer as its record, with the given ranges. -/
def showPeer (peer : KernelPeer) (ranges : List AllowedRange) : Peer where
  publicKey := peer.publicKey
  presharedKey := peer.presharedKey
  endpoint := peer.endpoint.map (fun address => formatEndpoint inet (sockaddrBytes address))
  persistentKeepaliveInterval := peer.persistentKeepaliveInterval
  lastHandshakeTimeSec := peer.lastHandshakeTime.1
  receiveBytes := peer.receiveBytes
  transmitBytes := peer.transmitBytes
  allowedIPs := ranges.map (showRange inet)
  protocolVersion := peer.protocolVersion

end Shown

end NodeWireguard.DeviceDump
