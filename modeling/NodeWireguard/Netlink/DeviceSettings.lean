import Mathlib
import NodeWireguard.Netlink.SetDeviceMessage

/-!
# What a set request asks for

The settings a request denotes, free of any text or wire format: which device fields are
present with which values, and for each peer its flags, keys, socket address, interval
and address ranges. This is the abstract meaning both backends are compared at; it is
stated on its own and not taken from the code.

A configuration denotes settings when its endpoint and address texts are read as
`ParseEndpoint` and `ParseCIDR` read them. A netlink request denotes settings when its
attributes are walked the way the kernel walks them: by type, the last one of a type
counting, with every payload of the size its type has.
-/

namespace NodeWireguard.DeviceSettings

open ByteText AddressText AttributeStream SocketAddress SetDeviceMessage WireguardUapi MessageBuffer

/-- An address of either family. -/
inductive Address where
  | v4 (addr : Octets 4)
  | v6 (addr : Octets 16)
  deriving DecidableEq

/-- An address and the length of its mask. -/
structure AllowedRange where
  address : Address
  mask : UInt8
  deriving DecidableEq

/-- What a request asks for one peer, in values instead of texts. -/
structure PeerSettings where
  publicKey : Key
  remove : Bool
  updateOnly : Bool
  presharedKey : Option Key
  endpoint : Option SockAddr
  persistentKeepaliveInterval : Option UInt16
  replaceAllowedIPs : Bool
  allowedIPs : List AllowedRange
  deriving DecidableEq

/-- What a request asks for a device. -/
structure Settings where
  privateKey : Option Key
  listenPort : Option UInt16
  firewallMark : Option UInt32
  replacePeers : Bool
  peers : List PeerSettings
  deriving DecidableEq

/-- An absent value stays absent; a present one has to be decoded. -/
def optionally {α β : Type} (value : Option α) (decode : α → Option β) : Option (Option β) :=
  match value with
  | some content => (decode content).map some
  | none => some none

section Meaning

variable (inet : Inet)

/-- The range an allowed address denotes. -/
def rangeOf (aip : AllowedIP) : Option AllowedRange :=
  if aip.family = AF_INET then (inet.inetPton4 aip.ip).map (fun addr => ⟨.v4 addr, aip.cidr⟩)
  else (inet.inetPton6 aip.ip).map (fun addr => ⟨.v6 addr, aip.cidr⟩)

/-- What a peer record asks for. The endpoint and the ranges are texts in the record, and what
their texts denote in the settings; there are none where a text denotes nothing. -/
def peerSettingsOf (peer : PeerConfig) : Option PeerSettings := do
  let endpoint ← optionally peer.endpoint (fun text => (parseEndpoint inet text).toOption)
  let allowedIPs ← peer.allowedIPs.mapM (rangeOf inet)
  return {
    publicKey := peer.publicKey, remove := peer.remove, updateOnly := peer.updateOnly
    presharedKey := peer.presharedKey, endpoint
    persistentKeepaliveInterval := peer.persistentKeepaliveInterval
    replaceAllowedIPs := peer.replaceAllowedIPs, allowedIPs }

/-- What a configuration asks for. A configuration with a text that denotes nothing asks for
nothing. -/
def settingsOf (cfg : Config) : Option Settings := do
  let peers ← cfg.peers.mapM (peerSettingsOf inet)
  return {
    privateKey := cfg.privateKey, listenPort := cfg.listenPort
    firewallMark := cfg.firewallMark, replacePeers := cfg.replacePeers, peers }

end Meaning

/-- The type of an attribute without its flag bits (`mnl_attr_get_type`). -/
def attrKind (attr : Attr) : UInt16 := attr.type &&& 0x3FFF

/-- The payload of the last attribute of a type. -/
def lookup (kind : UInt16) (attrs : List Attr) : Option Bytes :=
  ((attrs.filter (fun attr => attrKind attr = kind)).getLast?).map Attr.payload

/-- A payload of exactly the wanted size. -/
def readExact (size : Nat) (payload : Bytes) : Option (Octets size) :=
  if payload.length = size then some (octetsOf size payload) else none

/-- A number that has exactly the size of its type. -/
def readNumber (size : Nat) (payload : Bytes) : Option Nat :=
  if payload.length = size then some (fromLittleEndian payload) else none

/-- One entry of an allowed-address list. Its three attributes must be there with the sizes of
their types, and the address with the size of its family. -/
def readRange (entry : Bytes) : Option AllowedRange := do
  let attrs := walk entry
  let family ← (lookup WGALLOWEDIP_A_FAMILY attrs).bind (readNumber 2)
  let address ← lookup WGALLOWEDIP_A_IPADDR attrs
  let mask ← (lookup WGALLOWEDIP_A_CIDR_MASK attrs).bind (readNumber 1)
  if family = AF_INET.toNat then
    (readExact 4 address).map (fun addr => ⟨.v4 addr, UInt8.ofNat mask⟩)
  else if family = AF_INET6.toNat then
    (readExact 16 address).map (fun addr => ⟨.v6 addr, UInt8.ofNat mask⟩)
  else none

/-- One entry of a peer list. The key must be there; everything else is absent where its
attribute is. -/
def readPeer (entry : Bytes) : Option PeerSettings := do
  let attrs := walk entry
  let publicKey ← (lookup WGPEER_A_PUBLIC_KEY attrs).bind (readExact kKeyLen)
  let flags ← optionally (lookup WGPEER_A_FLAGS attrs) (readNumber 4)
  let presharedKey ← optionally (lookup WGPEER_A_PRESHARED_KEY attrs) (readExact kKeyLen)
  let endpoint ← optionally (lookup WGPEER_A_ENDPOINT attrs) readSockaddr
  let interval ← optionally (lookup WGPEER_A_PERSISTENT_KEEPALIVE_INTERVAL attrs) (readNumber 2)
  let allowedIPs ← (walk ((lookup WGPEER_A_ALLOWEDIPS attrs).getD [])).mapM
    (fun attr => readRange attr.payload)
  let set := UInt32.ofNat (flags.getD 0)
  return {
    publicKey, presharedKey, endpoint, allowedIPs
    persistentKeepaliveInterval := interval.map UInt16.ofNat
    remove := set &&& WGPEER_F_REMOVE_ME ≠ 0
    updateOnly := set &&& WGPEER_F_UPDATE_ONLY ≠ 0
    replaceAllowedIPs := set &&& WGPEER_F_REPLACE_ALLOWEDIPS ≠ 0 }

/-- A whole set request: the device it names and what it asks for. -/
def readDevice (body : Bytes) : Option (Bytes × Settings) :=
  if body.take 4 ≠ genlHeader WG_CMD_SET_DEVICE then none
  else do
    let attrs := walk (body.drop 4)
    let ifname ← lookup WGDEVICE_A_IFNAME attrs
    let flags ← optionally (lookup WGDEVICE_A_FLAGS attrs) (readNumber 4)
    let privateKey ← optionally (lookup WGDEVICE_A_PRIVATE_KEY attrs) (readExact kKeyLen)
    let port ← optionally (lookup WGDEVICE_A_LISTEN_PORT attrs) (readNumber 2)
    let mark ← optionally (lookup WGDEVICE_A_FWMARK attrs) (readNumber 4)
    let peers ← (walk ((lookup WGDEVICE_A_PEERS attrs).getD [])).mapM
      (fun attr => readPeer attr.payload)
    return (cString ifname, {
      privateKey, peers
      listenPort := port.map UInt16.ofNat
      firewallMark := mark.map UInt32.ofNat
      replacePeers := UInt32.ofNat (flags.getD 0) &&& WGDEVICE_F_REPLACE_PEERS ≠ 0 })

/-- Later attributes are looked up before earlier ones. -/
@[simp]
theorem lookup_append (kind : UInt16) (left right : List Attr) :
    lookup kind (left ++ right) = (lookup kind right).or (lookup kind left) := by
  rw [lookup, lookup, lookup, List.filter_append, List.getLast?_append]
  cases (right.filter (fun attr => attrKind attr = kind)).getLast? <;> rfl

/-- A single attribute is found under its type. -/
@[simp]
theorem lookup_single (kind type : UInt16) (payload : Bytes) :
    lookup kind (Forest.single type payload).attrs =
      if type &&& 0x3FFF = kind then some payload else none := by
  by_cases same : type &&& 0x3FFF = kind <;>
    simp [lookup, Forest.single, Forest.attrs, attrKind, same]

/-- So is a nested one, with the octets of its children. -/
@[simp]
theorem lookup_single_nest (kind type : UInt16) (children : Forest) :
    lookup kind (Forest.singleNest type children).attrs =
      if Forest.nestedType type &&& 0x3FFF = kind then some children.bytes else none := by
  by_cases same : Forest.nestedType type &&& 0x3FFF = kind <;>
    simp [lookup, Forest.singleNest, Forest.attrs, attrKind, same]

/-- An optional attribute is found where there is one. -/
@[simp]
theorem lookup_present {α : Type} (kind : UInt16) (value : Option α) (forest : α → Forest) :
    lookup kind (presentForest value forest).attrs =
      value.bind (fun content => lookup kind (forest content).attrs) := by
  cases value <;> rfl

/-- Flags are found unless they are all clear, since none are written then. -/
@[simp]
theorem lookup_flags (kind type : UInt16) (flags : UInt32) :
    lookup kind (flagsForest type flags).attrs =
      if type &&& 0x3FFF = kind ∧ flags ≠ 0 then some (littleEndian 4 flags.toNat) else none := by
  rw [flagsForest]
  by_cases none : flags = 0
  · simp [none]
    rfl
  · simp [none, lookup_single]

/-- What was encoded from a present value is decoded to it. -/
theorem optionally_map {α β : Type} (value : Option α) (encode : α → β) (decode : β → Option α)
    (inverse : ∀ content, decode (encode content) = some content) :
    optionally (value.map encode) decode = some value := by
  cases value with
  | none => rfl
  | some content => simp [optionally, inverse]

/-- Octets of a size are read back as they are. -/
theorem read_exact_octets {size : Nat} (octets : Octets size) :
    readExact size octets.toList = some octets := by
  rw [readExact, if_pos octets.toList_length, octets_of_list]

/-- A number that fits its size is read back. -/
theorem read_number_little_endian (size value : Nat) (fits : value < 256 ^ size) :
    readNumber size (littleEndian size value) = some value := by
  rw [readNumber, if_pos (little_endian_length size value), from_little_endian,
    Nat.mod_eq_of_lt fits]

end NodeWireguard.DeviceSettings
