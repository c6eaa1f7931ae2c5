import Mathlib
import NodeWireguard.Client.ConfigCopy
import NodeWireguard.Client.DeviceToJs
import NodeWireguard.Netlink.DumpFields
import NodeWireguard.Uapi.GetSections

/-!
# The two read paths

A device is read either from a netlink dump or from the text of a userspace daemon. Both are
compared at a logical state: what the device has, with a key either set or not. Either
protocol may leave an unset key out or give the all-zero key for it.

Both parsers hand such an encoding on as it is. `PeerToJs` shows an all-zero preshared key as
unset and `DeviceToJs` does not, so the two paths show the same device, with empty strings for
unset keys, except where the private or public key is unset and encoded by zeros.
-/

namespace NodeWireguard.ReadPaths

open ByteText DecimalText Key PublicKey AddressText AddressForms AttributeStream SocketAddress
open IfName JsValues ConfigFromJs DeviceToJs DeviceSettings DeviceDump DumpReassembly DumpFields
open WireguardUapi SetRequest GetResponse GetSections ConfigCopy

/-- What a device has. A set key is not all zero, and peers have different keys. -/
structure DeviceState where
  name : Bytes
  privateKey : Option Key
  listenPort : UInt16
  firewallMark : UInt32
  peers : List KernelPeer
  named : ValidName name
  keySet : ∀ key, privateKey = some key → isZeroKey key = false
  pskSet : ∀ peer ∈ peers, ∀ key, peer.presharedKey = some key → isZeroKey key = false
  distinct : (peers.map KernelPeer.publicKey).Nodup

/-- A protocol's encoding of a key that is set or not. -/
def Encodes (logical encoded : Option Key) : Prop :=
  match logical with
  | some key => encoded = some key
  | none => encoded = none ∨ encoded = some zeroKey

/-- The text of a socket address with its address in `inet_ntop` form. -/
def writtenEndpoint (inet : Inet) : SockAddr → Bytes
  | .in4 port addr => inet.ntop4 addr ++ byte ':' :: decimal port.toNat
  | .in6 port addr => byte '[' :: inet.ntop6 addr ++ ascii "]:" ++ decimal port.toNat

/-- The dumped form of a logical peer. A preshared key that is not set may be left out or sent as
zeros. -/
def PeerDumped (peer dumped : KernelPeer) : Prop :=
  ∃ psk, Encodes peer.presharedKey psk ∧ dumped = { peer with presharedKey := psk }

/-- A kernel dump of the state: the device attributes of all its messages, and its peers cut
into entries. The public key is the one that belongs to the private key. -/
structure DumpOf (pub : Key → Key) (state : DeviceState) (messages : List Bytes) : Prop where
  name : lookup WGDEVICE_A_IFNAME (deviceAttrs messages) = some (state.name ++ [0])
  listenPort : lookup WGDEVICE_A_LISTEN_PORT (deviceAttrs messages) =
    some (littleEndian 2 state.listenPort.toNat)
  firewallMark : lookup WGDEVICE_A_FWMARK (deviceAttrs messages) =
    some (littleEndian 4 state.firewallMark.toNat)
  privateKey : ∃ encoded, Encodes state.privateKey encoded ∧
    lookup WGDEVICE_A_PRIVATE_KEY (deviceAttrs messages) = encoded.map List.Vector.toList
  publicKey : ∃ encoded, Encodes (state.privateKey.map pub) encoded ∧
    lookup WGDEVICE_A_PUBLIC_KEY (deviceAttrs messages) = encoded.map List.Vector.toList
  peers : ∃ cuts : List Cut, List.Forall₂ PeerDumped state.peers (cuts.map Cut.peer) ∧
    List.Forall₂ (fun entry attr => PeerEntry entry.1 entry.2 attr) (cuts.flatMap Cut.entries)
      (messages.flatMap peerEntries)

/-- A peer section of the state's response. Each field has its own lines, of which the last one
counts; a field without a line has the value of a new record. -/
structure SectionOf (inet : Inet) (peer : KernelPeer) (content : Key × List PeerField) : Prop where
  publicKey : content.1 = peer.publicKey
  presharedKey : Encodes peer.presharedKey (lastOf PeerField.asPresharedKey content.2)
  endpoint : lastOf PeerField.asEndpoint content.2 = peer.endpoint.map (writtenEndpoint inet)
  persistentKeepaliveInterval :
    (lastOf PeerField.asPersistentKeepaliveInterval content.2).getD 0 =
      peer.persistentKeepaliveInterval
  lastHandshakeTimeSec : (lastOf PeerField.asLastHandshakeTimeSec content.2).getD 0 =
    peer.lastHandshakeTime.1
  receiveBytes : (lastOf PeerField.asReceiveBytes content.2).getD 0 = peer.receiveBytes
  transmitBytes : (lastOf PeerField.asTransmitBytes content.2).getD 0 = peer.transmitBytes
  allowedIPs : content.2.filterMap PeerField.asAllowedIP = peer.allowedIPs.map (showRange inet)
  protocolVersion : (lastOf PeerField.asProtocolVersion content.2).getD 0 = peer.protocolVersion

/-- A get response for the state, by the fields its lines give. -/
structure ResponseOf (inet : Inet) (state : DeviceState) (response : Bytes)
    (fields : List DeviceField) (sections : List (Key × List PeerField)) : Prop where
  gives : ResponseGives inet response fields sections
  privateKey : Encodes state.privateKey (lastOf DeviceField.asPrivateKey fields)
  listenPort : (lastOf DeviceField.asListenPort fields).getD 0 = state.listenPort
  firewallMark : (lastOf DeviceField.asFirewallMark fields).getD 0 = state.firewallMark
  peers : List.Forall₂ (SectionOf inet) state.peers sections

/-- The shown device has an empty string for exactly the keys that are not set. -/
structure ShowsUnset (state : DeviceState) (shown : JsValue) : Prop where
  privateKey : shown.get "privateKey" = .string [] ↔ state.privateKey = none
  publicKey : shown.get "publicKey" = .string [] ↔ state.privateKey = none
  presharedKey : List.Forall₂ (fun (peer : KernelPeer) (shownPeer : JsValue) =>
      shownPeer.get "presharedKey" = .string [] ↔ peer.presharedKey = none)
    state.peers ((asArray (shown.get "peers")).getD [])

/-- Both paths show the same device, and each shows unset keys as such. -/
structure ShowSame (state : DeviceState) (kernel userspace : JsValue) : Prop where
  agree : ∀ field, field ≠ "type" → kernel.get field = userspace.get field
  kernelUnset : ShowsUnset state kernel
  userspaceUnset : ShowsUnset state userspace

/-- The unset private key and its public key are left out by both protocols. -/
structure LeftOut (messages : List Bytes) (fields : List DeviceField) : Prop where
  dumpedPrivate : lookup WGDEVICE_A_PRIVATE_KEY (deviceAttrs messages) = none
  dumpedPublic : lookup WGDEVICE_A_PUBLIC_KEY (deviceAttrs messages) = none
  givenPrivate : lastOf DeviceField.asPrivateKey fields = none

section Keys

/-- A preshared key is shown as set exactly when it is, however it is encoded. -/
theorem shown_psk_encoded (logical encoded : Option Key) (encodes : Encodes logical encoded)
    (set : ∀ key, logical = some key → isZeroKey key = false) :
    shownPsk encoded = (logical.map keyToBase64).getD [] := by
  cases logical with
  | some key =>
    obtain rfl : encoded = some key := encodes
    simp [shownPsk, set key rfl]
  | none =>
    have zero : isZeroKey zeroKey = true := (is_zero_key_iff zeroKey).mpr rfl
    obtain rfl | rfl : encoded = none ∨ encoded = some zeroKey := encodes
    · rfl
    · simp [shownPsk, zero]

/-- A device key is shown as set exactly when it is or is encoded by zeros. -/
theorem shown_key_encoded (logical encoded : Option Key) (encodes : Encodes logical encoded) :
    shownKey encoded = [] ↔ logical = none ∧ encoded = none := by
  rw [shown_key_empty_iff]
  cases logical with
  | some key =>
    obtain rfl : encoded = some key := encodes
    simp
  | none => simp

end Keys

section Peers

variable {inet : Inet}

/-- An endpoint is dumped as the text it is written with. -/
theorem format_endpoint_written (address : SockAddr) :
    formatEndpoint inet (sockaddrBytes address) = writtenEndpoint inet address := by
  cases address with
  | in4 port addr =>
    obtain ⟨family, isPort, isAddr⟩ := sockaddr_bytes_in4 port addr
    simp only [formatEndpoint, family, isPort, isAddr, ↓reduceIte, writtenEndpoint]
  | in6 port addr =>
    obtain ⟨family, isPort, isAddr⟩ := sockaddr_bytes_in6 port addr
    have different : ¬ AF_INET6.toNat = AF_INET.toNat := by decide
    simp only [formatEndpoint, family, isPort, isAddr, if_neg different, writtenEndpoint]

/-- A peer is shown alike from its dump and from its section. -/
theorem peer_shown (peer dumped : KernelPeer) (content : Key × List PeerField)
    (isDumped : PeerDumped peer dumped) (isSection : SectionOf inet peer content)
    (set : ∀ key, peer.presharedKey = some key → isZeroKey key = false) :
    peerToJs (showPeer inet dumped dumped.allowedIPs) = peerToJs (peerOf content.1 content.2) := by
  obtain ⟨psk, encodes, rfl⟩ := isDumped
  have dumpedPsk := shown_psk_encoded _ psk encodes set
  have givenPsk := shown_psk_encoded _ _ isSection.presharedKey set
  have written : (fun address => formatEndpoint inet (sockaddrBytes address)) =
      writtenEndpoint inet := funext format_endpoint_written
  simp only [peerToJs, showPeer, peerOf, dumpedPsk, givenPsk, written, isSection.publicKey,
    isSection.endpoint, isSection.persistentKeepaliveInterval, isSection.lastHandshakeTimeSec,
    isSection.receiveBytes, isSection.transmitBytes, isSection.allowedIPs,
    isSection.protocolVersion]

end Peers

section Devices

variable (inet : Inet) (fresh : FreshOctets) {pub : Key → Key} {state : DeviceState}

/-- Two devices are shown alike, but for the backend, when their shown fields are equal. -/
theorem device_shown (left right : Device) (name : left.name = right.name)
    (privateKey : shownKey left.privateKey = shownKey right.privateKey)
    (publicKey : shownKey left.publicKey = shownKey right.publicKey)
    (listenPort : left.listenPort = right.listenPort)
    (firewallMark : left.firewallMark = right.firewallMark)
    (peers : left.peers.map peerToJs = right.peers.map peerToJs) (field : String)
    (notType : field ≠ "type") : (deviceToJs left).get field = (deviceToJs right).get field := by
  have skipped : ("type" == field) = false := beq_eq_false_iff_ne.mpr (Ne.symm notType)
  simp only [deviceToJs, JsValue.get, List.find?_cons, skipped, name, privateKey, publicKey,
    listenPort, firewallMark, peers]

/-- An optional key attribute is parsed to what it encodes. -/
theorem parsed_key (encoded : Option Key) :
    ((encoded.map List.Vector.toList).map (fun payload => some (octetsOf kKeyLen payload))).getD
      none = encoded := by
  cases encoded with
  | none => rfl
  | some key => simp [octets_of_list]

/-- A name is parsed to itself, without the zero octet that ends it. -/
theorem parsed_ifname (name : Bytes) (valid : ValidName name) : cString (name ++ [0]) = name := by
  have plain : ∀ octet ∈ name, decide (octet ≠ 0) = true := by
    intro octet member
    simp only [ne_eq, decide_eq_true_eq]
    rintro rfl
    exact absurd (valid.plain 0 member).2 (by decide)
  exact (IntegerConversions.take_while_append name [0] plain (by simp)).1

/-- The device the kernel path reads, field by field. -/
structure Dumped (pub : Key → Key) (state : DeviceState) (messages : List Bytes)
    (dev : Device) : Prop where
  name : dev.name = state.name
  listenPort : dev.listenPort = state.listenPort
  firewallMark : dev.firewallMark = state.firewallMark
  privateKey : Encodes state.privateKey dev.privateKey
  publicKey : Encodes (state.privateKey.map pub) dev.publicKey
  privateLeftOut : dev.privateKey = none ↔
    lookup WGDEVICE_A_PRIVATE_KEY (deviceAttrs messages) = none
  publicLeftOut : dev.publicKey = none ↔
    lookup WGDEVICE_A_PUBLIC_KEY (deviceAttrs messages) = none
  peers : ∃ dumped, List.Forall₂ PeerDumped state.peers dumped ∧
    dev.peers = dumped.map (fun peer => showPeer inet peer peer.allowedIPs)

/-- A dump keeps the peers' keys. -/
theorem dumped_keys (peers dumped : List KernelPeer)
    (isDumped : List.Forall₂ PeerDumped peers dumped) :
    dumped.map KernelPeer.publicKey = peers.map KernelPeer.publicKey := by
  induction isDumped with
  | nil => rfl
  | cons first _ inductionHypothesis =>
    obtain ⟨psk, -, rfl⟩ := first
    rw [List.map_cons, List.map_cons, inductionHypothesis]

/-- Parsing a dump of the state gives such a device. The device attributes are found by their
types, whichever message they are in, and the peers are put together again from their parts. -/
theorem dump_parsed (messages : List Bytes) (dump : DumpOf pub state messages) :
    Dumped inet pub state messages
      (messages.foldl (parseDeviceMessage inet fresh) { name := state.name }) := by
  obtain ⟨privateKey, privateEncodes, privateSent⟩ := dump.privateKey
  obtain ⟨publicKey, publicEncodes, publicSent⟩ := dump.publicKey
  obtain ⟨cuts, dumped, packed⟩ := dump.peers
  have isPrivate : (messages.foldl (parseDeviceMessage inet fresh) { name := state.name }).privateKey =
      privateKey := by
    rw [parsed_private_key, privateSent]
    exact parsed_key privateKey
  have isPublic : (messages.foldl (parseDeviceMessage inet fresh) { name := state.name }).publicKey =
      publicKey := by
    rw [parsed_public_key, publicSent]
    exact parsed_key publicKey
  have distinct : (cuts.map (fun cut => cut.peer.publicKey)).Nodup := by
    have keys := dumped_keys state.peers (cuts.map Cut.peer) dumped
    rw [List.map_map] at keys
    change (cuts.map (KernelPeer.publicKey ∘ Cut.peer)).Nodup
    rw [keys]
    exact state.distinct
  constructor
  · rw [parsed_name, dump.name]
    exact parsed_ifname state.name state.named
  · have number := unsigned_at_little_endian 2 state.listenPort.toNat [] state.listenPort.toNat_lt
    rw [List.append_nil] at number
    rw [parsed_listen_port, dump.listenPort, Option.map_some, Option.getD_some, number,
      UInt16.ofNat_toNat]
  · have number := unsigned_at_little_endian 4 state.firewallMark.toNat [] state.firewallMark.toNat_lt
    rw [List.append_nil] at number
    rw [parsed_firewall_mark, dump.firewallMark, Option.map_some, Option.getD_some, number,
      UInt32.ofNat_toNat]
  · rwa [isPrivate]
  · rwa [isPublic]
  · rw [isPrivate, privateSent, Option.map_eq_none_iff]
  · rw [isPublic, publicSent, Option.map_eq_none_iff]
  · refine ⟨cuts.map Cut.peer, dumped, ?_⟩
    rw [fold_messages, fold_cuts inet fresh [] cuts _ distinct (by simp) packed, List.nil_append,
      List.map_map]
    rfl

/-- The preshared keys of the shown peers are empty exactly where none is set. -/
theorem psks_shown (peers dumped : List KernelPeer) (isDumped : List.Forall₂ PeerDumped peers dumped)
    (set : ∀ peer ∈ peers, ∀ key, peer.presharedKey = some key → isZeroKey key = false) :
    List.Forall₂ (fun (peer : KernelPeer) (shownPeer : JsValue) =>
        shownPeer.get "presharedKey" = .string [] ↔ peer.presharedKey = none) peers
      (dumped.map (fun peer => peerToJs (showPeer inet peer peer.allowedIPs))) := by
  induction isDumped with
  | nil => exact .nil
  | @cons peer _ _ _ first _ inductionHypothesis =>
    obtain ⟨psk, encodes, rfl⟩ := first
    refine .cons ?_ (inductionHypothesis (fun other member =>
      set other (List.mem_cons_of_mem _ member)))
    have shown : (peerToJs (showPeer inet { peer with presharedKey := psk } peer.allowedIPs)).get
        "presharedKey" = .string (shownPsk psk) := rfl
    rw [shown, shown_psk_encoded _ psk encodes (set peer List.mem_cons_self), JsValue.string.injEq]
    cases peer.presharedKey with
    | none => simp
    | some key => simp [key_to_base64_nonempty]

/-- Both parsers' peers are shown alike. -/
theorem peers_shown (peers dumped : List KernelPeer) (sections : List (Key × List PeerField))
    (isDumped : List.Forall₂ PeerDumped peers dumped)
    (isSection : List.Forall₂ (SectionOf inet) peers sections)
    (set : ∀ peer ∈ peers, ∀ key, peer.presharedKey = some key → isZeroKey key = false) :
    dumped.map (fun peer => peerToJs (showPeer inet peer peer.allowedIPs)) =
      sections.map (fun content => peerToJs (peerOf content.1 content.2)) := by
  induction isDumped generalizing sections with
  | nil =>
    cases isSection
    rfl
  | cons first _ inductionHypothesis =>
    obtain _ | ⟨own, others⟩ := isSection
    rw [List.map_cons, List.map_cons, peer_shown _ _ _ first own (set _ List.mem_cons_self),
      inductionHypothesis _ others (fun other member => set other (List.mem_cons_of_mem _ member))]

/-- The kernel's device shows unset keys as such when a key is set or both are left out. -/
theorem kernel_shows_unset_iff (messages : List Bytes) (dev : Device)
    (dumped : Dumped inet pub state messages dev) :
    ShowsUnset state (deviceToJs dev) ↔ state.privateKey.isSome ∨
      (dev.privateKey = none ∧ dev.publicKey = none) := by
  have privateShown : (deviceToJs dev).get "privateKey" = .string (shownKey dev.privateKey) := rfl
  have publicShown : (deviceToJs dev).get "publicKey" = .string (shownKey dev.publicKey) := rfl
  obtain ⟨peers, isDumped, listed⟩ := dumped.peers
  have psks := psks_shown inet state.peers peers isDumped state.pskSet
  have shownPeers : (asArray ((deviceToJs dev).get "peers")).getD [] =
      peers.map (fun peer => peerToJs (showPeer inet peer peer.allowedIPs)) := by
    change dev.peers.map peerToJs = _
    rw [listed, List.map_map]
    rfl
  rw [← shownPeers] at psks
  have privateEmpty := shown_key_encoded _ _ dumped.privateKey
  have publicEmpty := shown_key_encoded _ _ dumped.publicKey
  constructor
  · rintro ⟨privateKey, publicKey, -⟩
    rw [privateShown, JsValue.string.injEq, privateEmpty] at privateKey
    rw [publicShown, JsValue.string.injEq, publicEmpty] at publicKey
    cases unset : state.privateKey with
    | some key => exact .inl rfl
    | none => exact .inr ⟨(privateKey.mpr unset).2, (publicKey.mpr unset).2⟩
  · intro setOrLeftOut
    refine ⟨?_, ?_, psks⟩
    · rw [privateShown, JsValue.string.injEq, privateEmpty]
      constructor
      · exact And.left
      · intro unset
        exact ⟨unset, (setOrLeftOut.resolve_left (by simp [unset])).1⟩
    · rw [publicShown, JsValue.string.injEq, publicEmpty, Option.map_eq_none_iff]
      constructor
      · exact And.left
      · intro unset
        exact ⟨unset, (setOrLeftOut.resolve_left (by simp [unset])).2⟩

end Devices

section Responses

variable (inet : Inet) {pub : Key → Key} {state : DeviceState}

/-- The preshared keys of the daemon's peers are empty exactly where none is set. -/
theorem psks_given (peers : List KernelPeer) (sections : List (Key × List PeerField))
    (isSection : List.Forall₂ (SectionOf inet) peers sections)
    (set : ∀ peer ∈ peers, ∀ key, peer.presharedKey = some key → isZeroKey key = false) :
    List.Forall₂ (fun (peer : KernelPeer) (shownPeer : JsValue) =>
        shownPeer.get "presharedKey" = .string [] ↔ peer.presharedKey = none) peers
      (sections.map (fun content => peerToJs (peerOf content.1 content.2))) := by
  induction isSection with
  | nil => exact .nil
  | @cons peer content _ _ first _ inductionHypothesis =>
    refine .cons ?_ (inductionHypothesis (fun other member =>
      set other (List.mem_cons_of_mem _ member)))
    have shown : (peerToJs (peerOf content.1 content.2)).get "presharedKey" =
        .string (shownPsk (lastOf PeerField.asPresharedKey content.2)) := rfl
    rw [shown, shown_psk_encoded _ _ first.presharedKey (set peer List.mem_cons_self),
      JsValue.string.injEq]
    cases peer.presharedKey with
    | none => simp
    | some key => simp [key_to_base64_nonempty]

/-- The daemon's public key is derived from a set private key, and from no other. -/
theorem derived_key_encoded (encoded : Option Key) (encodes : Encodes state.privateKey encoded) :
    derivedKey pub encoded = state.privateKey.map pub := by
  cases logical : state.privateKey with
  | some key =>
    rw [logical] at encodes
    obtain rfl : encoded = some key := encodes
    simp [derivedKey, Option.filter, state.keySet key logical]
  | none =>
    rw [logical] at encodes
    have zero : isZeroKey zeroKey = true := (is_zero_key_iff zeroKey).mpr rfl
    obtain rfl | rfl : encoded = none ∨ encoded = some zeroKey := encodes
    · rfl
    · simp [derivedKey, Option.filter, zero]

/-- The daemon's device shows unset keys as such when a key is set or left out. The last line of
the key decides: a daemon that writes zeros for an unset key has the device show a key, and one
that leaves the line out does not. -/
theorem userspace_shows_unset_iff (response : Bytes) (fields : List DeviceField)
    (sections : List (Key × List PeerField))
    (isResponse : ResponseOf inet state response fields sections) :
    ShowsUnset state (deviceToJs (deviceOf pub state.name fields sections)) ↔
      state.privateKey.isSome ∨ lastOf DeviceField.asPrivateKey fields = none := by
  have privateShown : (deviceToJs (deviceOf pub state.name fields sections)).get "privateKey" =
      .string (shownKey (lastOf DeviceField.asPrivateKey fields)) := rfl
  have publicShown : (deviceToJs (deviceOf pub state.name fields sections)).get "publicKey" =
      .string (shownKey (derivedKey pub (lastOf DeviceField.asPrivateKey fields))) := rfl
  have psks := psks_given inet state.peers sections isResponse.peers state.pskSet
  have shownPeers : (asArray ((deviceToJs (deviceOf pub state.name fields sections)).get
      "peers")).getD [] = sections.map (fun content => peerToJs (peerOf content.1 content.2)) := by
    change (sections.map (fun content => peerOf content.1 content.2)).map peerToJs = _
    rw [List.map_map]
    rfl
  rw [← shownPeers] at psks
  have privateEmpty := shown_key_encoded _ _ isResponse.privateKey
  constructor
  · rintro ⟨privateKey, -, -⟩
    rw [privateShown, JsValue.string.injEq, privateEmpty] at privateKey
    cases unset : state.privateKey with
    | some key => exact .inl rfl
    | none => exact .inr (privateKey.mpr unset).2
  · intro setOrLeftOut
    refine ⟨?_, ?_, psks⟩
    · rw [privateShown, JsValue.string.injEq, privateEmpty]
      constructor
      · exact And.left
      · intro unset
        exact ⟨unset, setOrLeftOut.resolve_left (by simp [unset])⟩
    · rw [publicShown, JsValue.string.injEq, shown_key_empty_iff,
        derived_key_encoded _ isResponse.privateKey, Option.map_eq_none_iff]

/-- Both paths have the same device keys where the private key is set or left out. -/
theorem keys_shown (messages : List Bytes) (dev : Device)
    (dumped : Dumped inet pub state messages dev) (response : Bytes) (fields : List DeviceField)
    (sections : List (Key × List PeerField))
    (isResponse : ResponseOf inet state response fields sections)
    (setOrLeftOut : state.privateKey.isSome ∨ LeftOut messages fields) :
    dev.privateKey = lastOf DeviceField.asPrivateKey fields ∧
      dev.publicKey = derivedKey pub (lastOf DeviceField.asPrivateKey fields) := by
  have dumpedPrivate := dumped.privateKey
  have dumpedPublic := dumped.publicKey
  have givenPrivate := isResponse.privateKey
  rw [derived_key_encoded _ givenPrivate]
  cases logical : state.privateKey with
  | some key =>
    rw [logical] at dumpedPrivate dumpedPublic givenPrivate
    exact ⟨Eq.trans dumpedPrivate (Eq.symm givenPrivate), dumpedPublic⟩
  | none =>
    have leftOut := setOrLeftOut.resolve_left (by simp [logical])
    exact ⟨(dumped.privateLeftOut.mpr leftOut.dumpedPrivate).trans leftOut.givenPrivate.symm,
      dumped.publicLeftOut.mpr leftOut.dumpedPublic⟩

end Responses

/-- Both paths show the same device, unset keys as unset, exactly when the private key is set
or every protocol leaves it and its public key out.

Proof: both readers are turned into equations for each field of their device. Name, port, mark
and peers agree because both protocols give those of the state. The keys agree where the private
key is set. Where it is not, each path shows an unset key as unset exactly when its protocol
leaves the key out, since a key of zeros is shown as a text. -/
theorem read_paths_agree_iff (inet : Inet) (fresh : FreshOctets) (ssl : OpenSSL) (pub : Key → Key)
    (derives : ssl.Derives pub) (state : DeviceState) (messages : List Bytes)
    (dump : DumpOf pub state messages) (response : Bytes) (fields : List DeviceField)
    (sections : List (Key × List PeerField))
    (isResponse : ResponseOf inet state response fields sections) :
    ∃ given, parseGetResponse inet ssl state.name response = .ok given ∧
      (ShowSame state
          (deviceToJs (messages.foldl (parseDeviceMessage inet fresh) { name := state.name }))
          (deviceToJs given) ↔
        state.privateKey.isSome ∨ LeftOut messages fields) := by
  refine ⟨_, parse_response inet ssl pub derives state.name response fields sections
    isResponse.gives, ?_⟩
  have dumped := dump_parsed inet fresh messages dump
  have kernel := kernel_shows_unset_iff inet messages _ dumped
  have userspace := @userspace_shows_unset_iff inet pub state response fields sections isResponse
  rw [dumped.privateLeftOut, dumped.publicLeftOut] at kernel
  constructor
  · intro same
    rcases kernel.mp same.kernelUnset with set | ⟨dumpedPrivate, dumpedPublic⟩
    · exact .inl set
    · rcases userspace.mp same.userspaceUnset with set | givenPrivate
      · exact .inl set
      · exact .inr ⟨dumpedPrivate, dumpedPublic, givenPrivate⟩
  · intro setOrLeftOut
    obtain ⟨peers, isDumped, listed⟩ := dumped.peers
    have shownPeers := peers_shown inet state.peers peers sections isDumped isResponse.peers
      state.pskSet
    obtain ⟨samePrivate, samePublic⟩ := keys_shown inet messages _ dumped response fields sections
      isResponse setOrLeftOut
    refine ⟨?_, kernel.mpr ?_, userspace.mpr ?_⟩
    · refine device_shown _ (deviceOf pub state.name fields sections) dumped.name
        (congrArg shownKey samePrivate) (congrArg shownKey samePublic)
        (dumped.listenPort.trans isResponse.listenPort.symm)
        (dumped.firewallMark.trans isResponse.firewallMark.symm) ?_
      have own : (deviceOf pub state.name fields sections).peers =
          sections.map (fun content => peerOf content.1 content.2) := rfl
      rw [listed, own, List.map_map, List.map_map]
      exact shownPeers
    · exact setOrLeftOut.imp id (fun leftOut => ⟨leftOut.dumpedPrivate, leftOut.dumpedPublic⟩)
    · exact setOrLeftOut.imp id LeftOut.givenPrivate

/-- A peer without a preshared key. -/
def samplePeer : KernelPeer where
  publicKey := onesKey
  presharedKey := none
  endpoint := some (.in4 51820 (.cons 192 (.cons 0 (.cons 2 (.cons 1 .nil)))))
  persistentKeepaliveInterval := 25
  lastHandshakeTime := (0, 0)
  receiveBytes := 7
  transmitBytes := 9
  protocolVersion := 1
  allowedIPs := [⟨.v4 ⟨[192, 0, 2, 0], rfl⟩, 24⟩]

/-- A device without a private key, with that peer. -/
def sampleState : DeviceState where
  name := ascii "wg0"
  privateKey := none
  listenPort := 51820
  firewallMark := 0
  peers := [samplePeer]
  named := (validate_if_name_iff _).mp (by decide)
  keySet := by simp
  pskSet := by simp [samplePeer]
  distinct := by simp

/-- The peer as the kernel sends it, with zeros for the preshared key. -/
def sampleCut : Cut where
  peer := { samplePeer with presharedKey := some zeroKey }
  first := samplePeer.allowedIPs
  further := []
  whole := rfl

/-- A dump in two messages: device attributes, some further ones, then the peer. -/
def sampleDump (further : List Field) : List Bytes :=
  [[WG_CMD_GET_DEVICE, WG_GENL_VERSION, 0, 0] ++ (leaves ([(WGDEVICE_A_LISTEN_PORT, littleEndian 2 51820),
      (WGDEVICE_A_FWMARK, littleEndian 4 0), (WGDEVICE_A_IFNAME, ascii "wg0" ++ [0])]
        ++ further)).bytes,
    dumpMessage sampleCut.entries]

/-- The lines of the daemon's response. -/
def sampleResponse : List Bytes :=
  [ascii "listen_port=51820", keyValue "public_key" (keyToHex onesKey),
    ascii "endpoint=192.0.2.1:51820", ascii "persistent_keepalive_interval=25", ascii "rx_bytes=7",
    ascii "tx_bytes=9", ascii "allowed_ip=192.0.2.0/24", ascii "protocol_version=1",
    ascii "errno=0", []]

/-- The peer's part of a dump of the state, whatever the device attributes are. -/
theorem sample_peers_dumped (further : List Field)
    (own : (sampleDump further).flatMap peerEntries = peerEntries (dumpMessage sampleCut.entries)) :
    ∃ cuts : List Cut, List.Forall₂ PeerDumped sampleState.peers (cuts.map Cut.peer) ∧
      List.Forall₂ (fun entry attr => PeerEntry entry.1 entry.2 attr) (cuts.flatMap Cut.entries)
        ((sampleDump further).flatMap peerEntries) := by
  refine ⟨[sampleCut], .cons ⟨some zeroKey, .inr rfl, rfl⟩ .nil, ?_⟩
  rw [own, List.flatMap_singleton]
  exact dump_message_carries sampleCut.entries (by decide) (by decide +kernel)

/-- The response is one for the state, with the preshared key left out. It has the lines of the
device and a section for its one peer, and every line gives the field it is meant for. -/
theorem sample_response : ResponseOf plainInet sampleState (terminated sampleResponse)
    [.listenPort 51820]
    [(onesKey, [.endpoint (ascii "192.0.2.1:51820"), .persistentKeepaliveInterval 25,
      .receiveBytes 7, .transmitBytes 9, .allowedIP ⟨ascii "192.0.2.0", AF_INET, 24⟩,
      .protocolVersion 1, .nothing, .nothing])] := by
  have read : lines lineFeed (terminated sampleResponse) = sampleResponse := by
    refine lines_terminated lineFeed _ ?_
    have opening := RequestLines.hex_line_clean "public_key" onesKey (by decide)
    simp only [sampleResponse, List.forall_mem_cons]
    exact ⟨by decide, opening, by decide, by decide, by decide, by decide, by decide, by decide,
      by decide, by decide, by simp⟩
  constructor
  case gives =>
    refine ⟨[ascii "listen_port=51820"], [(keyToHex onesKey, sampleResponse.drop 2)], read, ?_, ?_⟩
    · exact .cons (.listenPort (ascii "51820") 51820
        (IntegerConversions.strict_digits_checked _ _ (by decide))) .nil
    · refine .cons ⟨key_from_hex_key_to_hex onesKey, ?_⟩ .nil
      exact .cons (.endpoint (ascii "192.0.2.1:51820"))
        (.cons (.persistentKeepaliveInterval (ascii "25") 25
            (IntegerConversions.strict_digits_checked _ _ (by decide)))
          (.cons (.receiveBytes (ascii "7") 7 (IntegerConversions.strict_digits_checked _ _ (by decide)))
            (.cons (.transmitBytes (ascii "9") 9 (IntegerConversions.strict_digits_checked _ _ (by decide)))
              (.cons (.allowedIP (ascii "192.0.2.0/24") _ (by decide))
                (.cons (.protocolVersion (ascii "1") 1
                    (IntegerConversions.strict_digits_checked _ _ (by decide)))
                  (.cons (.nothing _ .confirmed) (.cons (.nothing _ .blank) .nil)))))))
  case privateKey => exact .inl rfl
  case listenPort => rfl
  case firewallMark => rfl
  case peers =>
    refine .cons ?_ .nil
    constructor
    case presharedKey => exact .inl rfl
    case endpoint => decide
    case allowedIPs => decide
    all_goals rfl

/-- Keys that are left out, and a preshared key that only one protocol encodes by zeros, show
the same device. -/
theorem sample_paths_agree :
    ∃ given, parseGetResponse plainInet idleSsl (ascii "wg0") (terminated sampleResponse) =
        .ok given ∧
      ShowSame sampleState
        (deviceToJs ((sampleDump []).foldl (parseDeviceMessage plainInet zeroed)
          { name := ascii "wg0" }))
        (deviceToJs given) := by
  have dump : DumpOf id sampleState (sampleDump []) :=
    ⟨by decide +kernel, by decide +kernel, by decide +kernel, ⟨none, .inl rfl, by decide +kernel⟩,
      ⟨none, .inl rfl, by decide +kernel⟩, sample_peers_dumped [] (by decide +kernel)⟩
  obtain ⟨given, read, agree⟩ := read_paths_agree_iff plainInet zeroed idleSsl id idle_ssl_derives
    sampleState (sampleDump []) dump _ _ _ sample_response
  exact ⟨given, read, agree.mpr (.inr ⟨by decide +kernel, by decide +kernel, rfl⟩)⟩

/-- A dump that gives zeros for the unset private key shows a private key. The key of zeros is a
present one for the kernel's device, so it is shown as the text of 32 zero octets. -/
theorem zero_private_key_shown :
    DumpOf id sampleState (sampleDump [(WGDEVICE_A_PRIVATE_KEY, zeroKey.toList)]) ∧
      (deviceToJs ((sampleDump [(WGDEVICE_A_PRIVATE_KEY, zeroKey.toList)]).foldl
        (parseDeviceMessage plainInet zeroed) { name := ascii "wg0" })).get "privateKey" =
          .string (keyToBase64 zeroKey) ∧
      ∀ given, ¬ ShowSame sampleState
        (deviceToJs ((sampleDump [(WGDEVICE_A_PRIVATE_KEY, zeroKey.toList)]).foldl
          (parseDeviceMessage plainInet zeroed) { name := ascii "wg0" })) given := by
  have dump : DumpOf id sampleState (sampleDump [(WGDEVICE_A_PRIVATE_KEY, zeroKey.toList)]) :=
    ⟨by decide +kernel, by decide +kernel, by decide +kernel,
      ⟨some zeroKey, .inr rfl, by decide +kernel⟩, ⟨none, .inl rfl, by decide +kernel⟩,
      sample_peers_dumped _ (by decide +kernel)⟩
  have sent : lookup WGDEVICE_A_PRIVATE_KEY
      (deviceAttrs (sampleDump [(WGDEVICE_A_PRIVATE_KEY, zeroKey.toList)])) = some zeroKey.toList := by
    decide +kernel
  have shown : (deviceToJs ((sampleDump [(WGDEVICE_A_PRIVATE_KEY, zeroKey.toList)]).foldl
      (parseDeviceMessage plainInet zeroed) { name := ascii "wg0" })).get "privateKey" =
        .string (keyToBase64 zeroKey) := by
    change JsValue.string (shownKey _) = _
    rw [parsed_private_key, sent]
    change JsValue.string (keyToBase64 (octetsOf kKeyLen zeroKey.toList)) = _
    rw [octets_of_list]
  refine ⟨dump, shown, fun given same => ?_⟩
  have empty := same.kernelUnset.privateKey.mpr rfl
  rw [shown] at empty
  exact key_to_base64_nonempty zeroKey (JsValue.string.inj empty)

end NodeWireguard.ReadPaths
