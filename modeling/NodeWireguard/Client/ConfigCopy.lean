import Mathlib
import NodeWireguard.Client.ConfigSemantics

/-!
# Reading a device and writing it back

A caller reads a device, copies its settings into a configuration object and passes that
to `configureDevice`. What the device shows denotes the settings it has, with the empty
string for an unset key. The reader refuses the empty string, so the copy is accepted
exactly when the device has a private key and every peer a preshared key.
-/

namespace NodeWireguard.ConfigCopy

open ByteText Key AddressText AddressForms JsValues ConfigFromJs DeviceToJs DeviceSettings DeviceDump
  ConfigSemantics

/-- The configuration of one peer that repeats what the peer shows. -/
def copyPeer (peer : JsValue) : JsValue :=
  .object [
    ("publicKey", peer.get "publicKey"),
    ("presharedKey", peer.get "presharedKey"),
    ("endpoint", peer.get "endpoint"),
    ("persistentKeepaliveInterval", peer.get "persistentKeepaliveInterval"),
    ("allowedIPs", peer.get "allowedIPs")]

/-- The configuration that repeats what the device shows. Its port and its mark are the ones
shown, and its peers are copied one by one. -/
def copyConfig (device : JsValue) : JsValue :=
  .object [
    ("privateKey", device.get "privateKey"),
    ("listenPort", device.get "listenPort"),
    ("firewallMark", device.get "firewallMark"),
    ("peers", .array (((asArray (device.get "peers")).getD []).map copyPeer))]

/-- What a copied peer asks for: what it has, with the zero key where it has no preshared key. -/
def copyPeerRecord (peer : Peer) : PeerConfig where
  publicKey := peer.publicKey
  presharedKey := some (peer.presharedKey.getD zeroKey)
  endpoint := peer.endpoint
  persistentKeepaliveInterval := some peer.persistentKeepaliveInterval
  allowedIPs := peer.allowedIPs

/-- What a copied device asks for: everything it has, with zero keys where it has none. -/
def copyRecord (dev : Device) : Config where
  privateKey := some (dev.privateKey.getD zeroKey)
  listenPort := some dev.listenPort
  firewallMark := some dev.firewallMark
  peers := dev.peers.map copyPeerRecord

/-- The mask of a range is no longer than its address. -/
def MaskFits (range : AllowedRange) : Prop :=
  match range.address with
  | .v4 _ => range.mask.toNat ≤ 32
  | .v6 _ => range.mask.toNat ≤ 128

/-- What the two readers put in a list of allowed addresses: a range of the kernel, or a
CIDR text of a userspace daemon that `ParseCIDR` accepted. -/
def FromReader (inet : Inet) (aip : AllowedIP) : Prop :=
  (∃ range, MaskFits range ∧ aip = showRange inet range) ∨ ∃ cidr, parseCIDR inet cidr = .ok aip

/-- Every allowed address of the device came from a reader. -/
def DeviceRead (inet : Inet) (dev : Device) : Prop :=
  ∀ peer ∈ dev.peers, ∀ aip ∈ peer.allowedIPs, FromReader inet aip

/-- Every key of the device would be shown: it has a private key, and each peer has a
preshared key that is not all zero. -/
def EveryKeySet (dev : Device) : Prop :=
  dev.privateKey.isSome ∧
    ∀ peer ∈ dev.peers, ∃ key, peer.presharedKey = some key ∧ isZeroKey key = false

/-- `IsZeroKey` is true of the key of 32 zero octets and of no other. -/
theorem is_zero_key_iff (key : Key) : isZeroKey key = true ↔ key = zeroKey := by
  constructor
  · intro zero
    apply List.Vector.eq
    have all : ∀ octet ∈ key.toList, octet = 0 := by simpa [isZeroKey] using zero
    rw [List.eq_replicate_of_mem all, List.Vector.toList_length]
    rfl
  · rintro rfl
    decide

/-- A kernel range reads back as an address of its family. -/
theorem show_range_readable (inet : Inet) (lawful : inet.Lawful) (range : AllowedRange)
    (fits : MaskFits range) : Readable inet (showRange inet range) := by
  obtain ⟨address, mask⟩ := range
  cases address with
  | v4 addr =>
    have plain := lawful.ntop4_plain addr
    have whole : cString (inet.ntop4 addr) = inet.ntop4 addr := c_string_whole _ plain.2
    refine ⟨plain.1, .inr ⟨rfl, ?_, ?_, fits⟩⟩
    · simp [showRange, Inet.inetPton6, whole, lawful.pton6_ntop4]
    · simp [showRange, Inet.inetPton4, whole, lawful.pton4_ntop4]
  | v6 addr =>
    have plain := lawful.ntop6_plain addr
    have whole : cString (inet.ntop6 addr) = inet.ntop6 addr := c_string_whole _ plain.2
    refine ⟨plain.1, .inl ⟨rfl, ?_, fits⟩⟩
    simp [showRange, Inet.inetPton6, whole, lawful.pton6_ntop6]

/-- A range from either reader of devices is one a CIDR text can denote. -/
theorem from_reader_readable (inet : Inet) (lawful : inet.Lawful) (aip : AllowedIP)
    (read : FromReader inet aip) : Readable inet aip := by
  rcases read with ⟨range, fits, rfl⟩ | ⟨cidr, parsed⟩
  · exact show_range_readable inet lawful range fits
  · exact (parse_cidr_readable inet cidr aip parsed).1

/-- A shown preshared key stands for the key, or for the zero key where there is none. -/
theorem shown_psk_denotes (psk : Option Key) : KeyText (shownPsk psk) (psk.getD zeroKey) := by
  cases psk with
  | none => exact .inl ⟨rfl, rfl⟩
  | some key =>
    by_cases zero : isZeroKey key = true
    · refine .inl ⟨?_, (is_zero_key_iff key).mp zero⟩
      simp [shownPsk, zero]
    · refine .inr ?_
      simp [shownPsk, zero]

/-- The text of a key property denotes the key, and the empty text the zero key. -/
theorem shown_key_denotes (field : Option Key) : KeyText (shownKey field) (field.getD zeroKey) := by
  cases field with
  | none => exact .inl ⟨rfl, rfl⟩
  | some key => exact .inr rfl

/-- A key property is the empty text where the key is absent, and only there. -/
theorem shown_key_empty_iff (field : Option Key) : shownKey field = [] ↔ field = none := by
  cases field with
  | none => simp [shownKey]
  | some key => simp [shownKey, key_to_base64_nonempty]

/-- A preshared key is shown where there is one that is not zero. -/
theorem shown_psk_empty_iff (psk : Option Key) :
    shownPsk psk ≠ [] ↔ ∃ key, psk = some key ∧ isZeroKey key = false := by
  cases psk with
  | none => simp [shownPsk]
  | some key =>
    by_cases zero : isZeroKey key = true
    · simp [shownPsk, zero]
    · simp [shownPsk, zero, key_to_base64_nonempty]

/-- A formatted record is a CIDR text of that record. -/
theorem format_cidr_denotes (inet : Inet) (aip : AllowedIP) (readable : Readable inet aip) :
    RangeDenotes inet (.string (formatCIDR aip)) aip :=
  ⟨readable, DecimalText.decimal aip.cidr.toNat, DecimalText.decimal_nonempty _,
    DecimalText.decimal_digits _, DecimalText.decimal_value _, rfl⟩

/-- The copy of a shown peer is a documented object for what the peer has. Each property of the
copy is the one of the shown peer, whose text or number denotes the field it was made from. -/
theorem copy_peer_denotes (inet : Inet) (peer : Peer)
    (readable : ∀ aip ∈ peer.allowedIPs, Readable inet aip) :
    PeerDenotes inet (copyPeer (peerToJs peer)) (copyPeerRecord peer) where
  isObject := ⟨_, rfl⟩
  publicKey := ⟨_, rfl, .inr rfl⟩
  remove := .inl ⟨rfl, rfl⟩
  updateOnly := .inl ⟨rfl, rfl⟩
  presharedKey := .inr ⟨_, rfl, _, rfl, shown_psk_denotes peer.presharedKey⟩
  endpoint := by
    cases known : peer.endpoint with
    | none => exact .inl (by simp [copyPeer, peerToJs, JsValue.get, copyPeerRecord, known])
    | some text => exact .inr (by simp [copyPeer, peerToJs, JsValue.get, copyPeerRecord, known])
  persistentKeepaliveInterval := by
    have bound := peer.persistentKeepaliveInterval.toNat_lt
    exact .inr ⟨_, rfl, rfl, by omega⟩
  replaceAllowedIPs := .inl ⟨rfl, rfl⟩
  allowedIPs := by
    refine .inr ⟨_, rfl, ?_⟩
    rw [List.forall₂_map_left_iff]
    exact List.forall₂_same.mpr (fun aip listed =>
      format_cidr_denotes inet aip (readable aip listed))

/-- The copy of a shown device is a documented object for what the device has. -/
theorem copy_config_denotes (inet : Inet) (dev : Device)
    (readable : ∀ peer ∈ dev.peers, ∀ aip ∈ peer.allowedIPs, Readable inet aip) :
    Denotes inet (copyConfig (deviceToJs dev)) (copyRecord dev) where
  privateKey := .inr ⟨_, rfl, _, rfl, shown_key_denotes dev.privateKey⟩
  listenPort := by
    have bound := dev.listenPort.toNat_lt
    exact .inr ⟨_, rfl, rfl, by omega⟩
  firewallMark := by
    have bound := dev.firewallMark.toNat_lt
    exact .inr ⟨_, rfl, rfl, by omega⟩
  replacePeers := .inl ⟨rfl, rfl⟩
  peers := by
    refine .inr ⟨(dev.peers.map peerToJs).map copyPeer, rfl, ?_⟩
    simp only [copyRecord, List.map_map, List.forall₂_map_left_iff, List.forall₂_map_right_iff]
    exact List.forall₂_same.mpr (fun peer member =>
      copy_peer_denotes inet peer (readable peer member))

/-- The copy has no empty key exactly when the device has every key. -/
theorem copy_no_empty_key_iff (dev : Device) :
    NoEmptyKey (copyConfig (deviceToJs dev)) ↔ EveryKeySet dev := by
  have privateKey : (copyConfig (deviceToJs dev)).get "privateKey" =
      .string (shownKey dev.privateKey) := rfl
  have peers : asArray ((copyConfig (deviceToJs dev)).get "peers") =
      some ((dev.peers.map peerToJs).map copyPeer) := rfl
  have publicKey (peer : Peer) : (copyPeer (peerToJs peer)).get "publicKey" =
      .string (keyToBase64 peer.publicKey) := rfl
  have presharedKey (peer : Peer) : (copyPeer (peerToJs peer)).get "presharedKey" =
      .string (shownPsk peer.presharedKey) := rfl
  simp only [NoEmptyKey, EveryKeySet, privateKey, peers, Option.getD_some, List.map_map,
    List.forall_mem_map, Function.comp_apply, publicKey, presharedKey, ne_eq, JsValue.string.injEq,
    key_to_base64_nonempty, not_false_eq_true, true_and, shown_key_empty_iff,
    Option.isSome_iff_ne_none]
  simp only [← ne_eq, shown_psk_empty_iff]

/-- A device that was read and copied is accepted exactly when every key is set. -/
theorem copy_accepted_iff (inet : Inet) (dev : Device)
    (readable : ∀ peer ∈ dev.peers, ∀ aip ∈ peer.allowedIPs, Readable inet aip) :
    (∃ cfg, configFromJs inet (copyConfig (deviceToJs dev)) = .ok cfg) ↔ EveryKeySet dev := by
  rw [← copy_no_empty_key_iff]
  constructor
  · rintro ⟨cfg, read⟩
    exact no_empty_key_of_read inet _ cfg read
  · intro nonempty
    exact ⟨copyRecord dev, (config_from_js_denotes_iff inet _ _
      (copy_config_denotes inet dev readable)).mpr nonempty⟩

/-- A documented configuration is read as what it stands for exactly when no key is the
empty string, so a device that was read is accepted back exactly when every key is set.

Proof: the reader is inverted field by field. Of the fields that a documented configuration can
have, only a key that is the empty text is not decoded to what it stands for; every other one is.
A copied device has such a key exactly where one of its keys is not set. -/
theorem config_read_iff (inet : Inet) (lawful : inet.Lawful) :
    (∀ config cfg, Denotes inet config cfg →
      (configFromJs inet config = .ok cfg ↔ NoEmptyKey config)) ∧
    ∀ dev, DeviceRead inet dev →
      ((∃ cfg, configFromJs inet (copyConfig (deviceToJs dev)) = .ok cfg) ↔ EveryKeySet dev) := by
  refine ⟨fun config cfg denotes => config_from_js_denotes_iff inet config cfg denotes, ?_⟩
  intro dev read
  exact copy_accepted_iff inet dev (fun peer member aip listed =>
    from_reader_readable inet lawful aip (read peer member aip listed))

/-- The device that a daemon shows with one peer and one range, every key set. -/
def onePeerDevice : Device where
  name := ascii "wg0"
  privateKey := some zeroKey
  peers := [{
    presharedKey := some (List.Vector.replicate kKeyLen 1)
    allowedIPs := [⟨ascii "10.0.0.2", AF_INET, 32⟩] }]

/-- Both halves at inputs without an empty key: a configuration that clears the firewall
mark, and a device with one peer. -/
theorem one_peer_device_copied :
    configFromJs plainInet (.object [("firewallMark", .number (.finite 0))]) =
        .ok { firewallMark := some 0 } ∧
      ∃ cfg, configFromJs plainInet (copyConfig (deviceToJs onePeerDevice)) = .ok cfg := by
  obtain ⟨documented, copied⟩ := config_read_iff plainInet plain_inet_lawful
  refine ⟨?_, ?_⟩
  · apply (documented _ _ _).mpr
    · exact ⟨by simp [JsValue.get], by simp [JsValue.get, asArray]⟩
    · exact {
        privateKey := .inl ⟨rfl, rfl⟩
        listenPort := .inl ⟨rfl, rfl⟩
        firewallMark := .inr ⟨0, rfl, by simp [NumberDenotes, JsValue.get]⟩
        replacePeers := .inl ⟨rfl, rfl⟩
        peers := .inl ⟨rfl, rfl⟩ }
  · have address : parseCIDR plainInet (ascii "10.0.0.2/32") =
        .ok ⟨ascii "10.0.0.2", AF_INET, 32⟩ := by decide
    apply (copied onePeerDevice _).mpr
    · exact ⟨rfl, by simp [onePeerDevice]; decide⟩
    · intro peer member aip listed
      obtain rfl : peer = _ := List.mem_singleton.mp member
      obtain rfl : aip = _ := List.mem_singleton.mp listed
      exact .inr ⟨_, address⟩

/-- Clearing the private key is a documented configuration that is refused, and so is the
copy of a device without one. -/
theorem cleared_key_refused :
    (Denotes plainInet (.object [("privateKey", .string [])]) { privateKey := some zeroKey } ∧
      ∀ cfg, configFromJs plainInet (.object [("privateKey", .string [])]) ≠ .ok cfg) ∧
    ∀ cfg, configFromJs plainInet (copyConfig (deviceToJs { name := ascii "wg0" })) ≠ .ok cfg := by
  refine ⟨⟨?_, ?_⟩, ?_⟩
  · exact {
      privateKey := .inr ⟨zeroKey, rfl, [], rfl, .inl ⟨rfl, rfl⟩⟩
      listenPort := .inl ⟨rfl, rfl⟩
      firewallMark := .inl ⟨rfl, rfl⟩
      replacePeers := .inl ⟨rfl, rfl⟩
      peers := .inl ⟨rfl, rfl⟩ }
  · intro cfg read
    exact (no_empty_key_of_read plainInet _ cfg read).1 rfl
  · intro cfg read
    exact (no_empty_key_of_read plainInet _ cfg read).1 rfl

end NodeWireguard.ConfigCopy
