import Mathlib
import NodeWireguard.Client.ConfigFromJs
import NodeWireguard.Netlink.DeviceSettings
import NodeWireguard.Netlink.SetMessageSize

/-!
# Reading a set request back

The attributes of a request, walked level by level, give what the configuration asks
for, as long as the lengths of the peer list fit. The device attributes always do.
-/

namespace NodeWireguard.SetMessageReading

open ByteText AddressText AttributeStream SocketAddress IfName SetDeviceMessage SetMessageSize
  DeviceSettings WireguardUapi MessageBuffer Fallible

variable (inet : Inet)

/-- The attributes of one allowed address. -/
def rangeFields (aip : AllowedIP) : Forest :=
  .single WGALLOWEDIP_A_FAMILY (littleEndian 2 aip.family.toUInt16.toNat)
    ++ .single WGALLOWEDIP_A_IPADDR (addressBytes inet aip)
    ++ .single WGALLOWEDIP_A_CIDR_MASK [aip.cidr]

/-- The octets of a single attribute, -/
theorem single_bytes_length (type : UInt16) (payload : Bytes) :
    (Forest.single type payload).bytes.length = 4 + align payload.length := by
  simp [Forest.single, Forest.bytes, attr_bytes_length]

/-- and of a nested one. -/
theorem single_nest_bytes_length (type : UInt16) (children : Forest) :
    (Forest.singleNest type children).bytes.length = 4 + children.bytes.length := by
  simp only [Forest.singleNest, Forest.bytes, List.append_nil]
  exact Forest.nest_bytes_length type children

/-- The attributes of a range take 24 octets for IPv4, and 36 for anything else. -/
theorem range_fields_length (aip : AllowedIP) :
    (rangeFields inet aip).bytes.length = if aip.family = AF_INET then 24 else 36 := by
  simp only [rangeFields, Forest.bytes_append, List.length_append, single_bytes_length,
    address_bytes_length]
  split <;> simp [align]

/-- An allowed address is read as the range it denotes. The three attributes are looked up by
type; the address is read with the size of its family, which is the one its text has. -/
theorem read_range_fields (aip : AllowedIP) (readable : Readable inet aip) :
    readRange (rangeFields inet aip).bytes = rangeOf inet aip ∧ (rangeOf inet aip).isSome := by
  have fits : (rangeFields inet aip).Fits := by
    apply Forest.fits_of_length
    rw [range_fields_length]
    split <;> decide
  have family : lookup WGALLOWEDIP_A_FAMILY (rangeFields inet aip).attrs =
      some (littleEndian 2 aip.family.toUInt16.toNat) := by
    simp +decide [rangeFields]
  have address : lookup WGALLOWEDIP_A_IPADDR (rangeFields inet aip).attrs =
      some (addressBytes inet aip) := by
    simp +decide [rangeFields]
  have mask : lookup WGALLOWEDIP_A_CIDR_MASK (rangeFields inet aip).attrs = some [aip.cidr] := by
    simp +decide [rangeFields]
  have maskValue : readNumber 1 [aip.cidr] = some aip.cidr.toNat := by
    simp [readNumber, fromLittleEndian]
  simp only [readRange, (rangeFields inet aip).walk_bytes fits, family, address, mask,
    Option.bind_some, maskValue, Option.bind_eq_bind]
  rcases readable.family with ⟨isSix, known, _⟩ | ⟨isFour, _, known, _⟩
  · obtain ⟨addr, parsed⟩ := Option.isSome_iff_exists.mp known
    have notFour : ¬ aip.family = AF_INET := by rw [isSix]; decide
    have octets : addressBytes inet aip = addr.toList := by
      simp [addressBytes, notFour, parsed]
    have six : readNumber 2 (littleEndian 2 AF_INET6.toNat) = some AF_INET6.toNat := rfl
    have different : AF_INET6.toNat ≠ AF_INET.toNat := by decide
    simp [isSix, six, different, octets, read_exact_octets, rangeOf, isSix ▸ notFour, parsed]
  · obtain ⟨addr, parsed⟩ := Option.isSome_iff_exists.mp known
    have octets : addressBytes inet aip = addr.toList := by
      simp [addressBytes, isFour, parsed]
    have four : readNumber 2 (littleEndian 2 AF_INET.toNat) = some AF_INET.toNat := rfl
    simp [four, octets, read_exact_octets, rangeOf, isFour, parsed]

/-- A numbered list of nested attributes is walked in order, and each payload is the
stream of its element. -/
theorem read_numbered {α β : Type} (items : List α) (fields : α → Forest)
    (read : Bytes → Option β) (meaning : α → Option β)
    (each : ∀ item ∈ items, read (fields item).bytes = meaning item)
    (fits : (numbered items (fun item => .singleNest (UInt16.ofNat item.2) (fields item.1))).Fits) :
    (walk (numbered items (fun item => .singleNest (UInt16.ofNat item.2) (fields item.1))).bytes).mapM
      (fun attr => read attr.payload) = items.mapM meaning := by
  rw [Forest.walk_bytes _ fits]
  have walked (start : Nat) (rest : List α) (known : ∀ item ∈ rest, read (fields item).bytes = meaning item) :
      (((rest.zipIdx start).foldr (fun item others =>
        Forest.singleNest (UInt16.ofNat item.2) (fields item.1) ++ others) .nil).attrs).mapM
          (fun attr => read attr.payload) = rest.mapM meaning := by
    induction rest generalizing start with
    | nil => rfl
    | cons item rest inductionHypothesis =>
      have tail := inductionHypothesis (start + 1) (fun other member => known other (by simp [member]))
      simp only [List.zipIdx_cons, List.foldr_cons, Forest.attrs_append, Forest.singleNest,
        Forest.attrs, List.cons_append, List.nil_append, List.mapM_cons, known item (by simp)] at tail ⊢
      rw [tail]
  exact walked 0 items each

/-- The flags are one attribute with a bit for each flag that is set. -/
theorem peer_flag_bits (peer : PeerConfig) :
    (peerFlags peer &&& WGPEER_F_REMOVE_ME ≠ 0) = (peer.remove = true) ∧
      (peerFlags peer &&& WGPEER_F_UPDATE_ONLY ≠ 0) = (peer.updateOnly = true) ∧
      (peerFlags peer &&& WGPEER_F_REPLACE_ALLOWEDIPS ≠ 0) = (peer.replaceAllowedIPs = true) := by
  simp only [peerFlags]
  cases peer.remove <;> cases peer.updateOnly <;> cases peer.replaceAllowedIPs <;> decide

/-- Absent flags are read as no flag set. -/
theorem read_flags (kind type : UInt16) (flags : UInt32) (same : type &&& 0x3FFF = kind) :
    (optionally (lookup kind (flagsForest type flags).attrs) (readNumber 4)).map
      (fun read => UInt32.ofNat (read.getD 0)) = some flags := by
  have bound := flags.toNat_lt
  rw [lookup_flags]
  by_cases none : flags = 0
  · simp [optionally, none]
  · simp [optionally, none, same, read_number_little_endian 4 flags.toNat (by omega)]

/-- The endpoint is found as the socket address its text denotes. -/
@[simp]
theorem lookup_endpoint (kind : UInt16) (text : Bytes) :
    lookup kind (endpointForest inet text).attrs =
      if WGPEER_A_ENDPOINT &&& 0x3FFF = kind then (parseEndpoint inet text).toOption.map sockaddrBytes
      else none := by
  rw [endpointForest]
  cases parseEndpoint inet text with
  | error failure => simp [Except.toOption]; rfl
  | ok ss => simp [Except.toOption, lookup_single]

/-- The ranges are found as the octets of their entries, where there are any. -/
@[simp]
theorem lookup_allowed_ips (kind : UInt16) (ips : List AllowedIP) :
    lookup kind (allowedIPsForest inet ips).attrs =
      if Forest.nestedType WGPEER_A_ALLOWEDIPS &&& 0x3FFF = kind ∧ ips ≠ [] then
        some (numbered ips (allowedIPForest inet)).bytes
      else none := by
  rw [allowedIPsForest]
  by_cases none : ips = []
  · simp [none]
    rfl
  · simp [none, lookup_single_nest]

/-- A readable configuration's peer denotes settings. -/
theorem peer_settings_some (peer : PeerConfig) (endpoint : ∀ text, peer.endpoint = some text →
    ∃ ss, parseEndpoint inet text = .ok ss) (addresses : ∀ aip ∈ peer.allowedIPs, Readable inet aip) :
    (peerSettingsOf inet peer).isSome := by
  have ranges := option_mapM_isSome (rangeOf inet) peer.allowedIPs (fun aip member =>
    (read_range_fields inet aip (addresses aip member)).2)
  obtain ⟨ranges, known⟩ := Option.isSome_iff_exists.mp ranges
  cases given : peer.endpoint with
  | none => simp [peerSettingsOf, optionally, given, known]
  | some text =>
    obtain ⟨ss, parsed⟩ := endpoint text given
    simp [peerSettingsOf, optionally, given, known, parsed, Except.toOption]

/-- Ranges are read from the nested list they are written to, and from no list where
there are none. -/
theorem read_allowed_ips (ips : List AllowedIP) (addresses : ∀ aip ∈ ips, Readable inet aip)
    (fits : (allowedIPsForest inet ips).Fits) :
    (walk ((lookup WGPEER_A_ALLOWEDIPS (allowedIPsForest inet ips).attrs).getD [])).mapM
      (fun attr => readRange attr.payload) = ips.mapM (rangeOf inet) := by
  by_cases none : ips = []
  · simp [none, walk_nil]
  · have kind : Forest.nestedType WGPEER_A_ALLOWEDIPS &&& 0x3FFF = WGPEER_A_ALLOWEDIPS := by decide
    rw [allowedIPsForest, if_neg none] at fits
    have inner : (numbered ips (allowedIPForest inet)).Fits := by
      apply Forest.fits_of_length
      have outer := fits.1
      omega
    rw [lookup_allowed_ips, if_pos ⟨kind, none⟩, Option.getD_some]
    exact read_numbered ips (rangeFields inet) readRange (rangeOf inet)
      (fun aip member => (read_range_fields inet aip (addresses aip member)).1) inner

/-- A peer whose attributes fit is read as the settings it denotes. Every attribute is looked up
by its type and read with its size, one field of the settings after the other; those that are not
written are absent. -/
theorem read_peer_fields (peer : PeerConfig) (endpoint : ∀ text, peer.endpoint = some text →
    ∃ ss, parseEndpoint inet text = .ok ss) (addresses : ∀ aip ∈ peer.allowedIPs, Readable inet aip)
    (fits : (peerFields inet peer).Fits) :
    readPeer (peerFields inet peer).bytes = peerSettingsOf inet peer := by
  have publicKey : lookup WGPEER_A_PUBLIC_KEY (peerFields inet peer).attrs =
      some peer.publicKey.toList := by
    simp +decide [peerFields, peerHeadForest, peerTailForest]
  have flags : lookup WGPEER_A_FLAGS (peerFields inet peer).attrs =
      lookup WGPEER_A_FLAGS (flagsForest WGPEER_A_FLAGS (peerFlags peer)).attrs := by
    simp +decide [peerFields, peerHeadForest, peerTailForest]
  have psk : lookup WGPEER_A_PRESHARED_KEY (peerFields inet peer).attrs =
      peer.presharedKey.map (fun key => key.toList) := by
    simp +decide [peerFields, peerHeadForest, peerTailForest, Option.map_eq_bind]
  have address : lookup WGPEER_A_ENDPOINT (peerFields inet peer).attrs =
      peer.endpoint.bind (fun text => (parseEndpoint inet text).toOption.map sockaddrBytes) := by
    simp +decide [peerFields, peerHeadForest, peerTailForest]
  have interval : lookup WGPEER_A_PERSISTENT_KEEPALIVE_INTERVAL (peerFields inet peer).attrs =
      peer.persistentKeepaliveInterval.map (fun value => littleEndian 2 value.toNat) := by
    simp +decide [peerFields, peerHeadForest, peerTailForest, Option.map_eq_bind]
  have allowedIPs : lookup WGPEER_A_ALLOWEDIPS (peerFields inet peer).attrs =
      lookup WGPEER_A_ALLOWEDIPS (allowedIPsForest inet peer.allowedIPs).attrs := by
    simp +decide [peerFields, peerHeadForest, peerTailForest]
  have listFits : (allowedIPsForest inet peer.allowedIPs).Fits :=
    ((Forest.fits_append _ _).mp ((Forest.fits_append _ _).mp fits).2).2
  obtain ⟨set, readSet, bits⟩ := Option.map_eq_some_iff.mp
    (read_flags WGPEER_A_FLAGS WGPEER_A_FLAGS (peerFlags peer) (by decide))
  have readKey := optionally_map peer.presharedKey (fun key => key.toList) (readExact kKeyLen)
    read_exact_octets
  have readAddress : optionally (peer.endpoint.bind (fun text =>
      (parseEndpoint inet text).toOption.map sockaddrBytes)) readSockaddr =
        optionally peer.endpoint (fun text => (parseEndpoint inet text).toOption) := by
    cases given : peer.endpoint with
    | none => rfl
    | some text =>
      obtain ⟨ss, parsed⟩ := endpoint text given
      simp [optionally, parsed, Except.toOption, read_sockaddr_bytes]
  have readInterval : optionally (peer.persistentKeepaliveInterval.map (fun value =>
      littleEndian 2 value.toNat)) (readNumber 2) =
        some (peer.persistentKeepaliveInterval.map UInt16.toNat) := by
    cases peer.persistentKeepaliveInterval with
    | none => rfl
    | some value =>
      simp [optionally, read_number_little_endian 2 value.toNat value.toNat_lt]
  have intervalKept : (peer.persistentKeepaliveInterval.map UInt16.toNat).map UInt16.ofNat =
      peer.persistentKeepaliveInterval := by
    cases peer.persistentKeepaliveInterval <;> simp
  simp only [readPeer, Forest.walk_bytes _ fits, publicKey, flags, psk, address, interval,
    allowedIPs, read_allowed_ips inet _ addresses listFits, Option.bind_some, read_exact_octets,
    readSet, readKey, readAddress, readInterval, Option.bind_eq_bind, bits, intervalKept,
    (peer_flag_bits peer).1, (peer_flag_bits peer).2.1, (peer_flag_bits peer).2.2,
    Bool.decide_eq_true, peerSettingsOf]

/-- An optional attribute is not longer than the attribute. -/
theorem present_bytes_length {α : Type} (value : Option α) (forest : α → Forest) (limit : Nat)
    (each : ∀ content, (forest content).bytes.length ≤ limit) :
    (presentForest value forest).bytes.length ≤ limit := by
  cases value with
  | none => exact Nat.zero_le _
  | some content => exact each content

/-- The device attributes of a valid name are short. Each has at most the size of a key and a
name is shorter, so only the peers can be too long. -/
theorem device_fields_fits (ifname : Bytes) (cfg : Config) (valid : ValidName ifname) :
    (deviceFields ifname cfg).Fits := by
  apply Forest.fits_of_length
  have short := valid.short
  have name : align (cString ifname ++ [0]).length ≤ 16 := by
    rw [c_string_valid ifname valid, List.length_append, List.length_singleton, align]
    omega
  have flags : (flagsForest WGDEVICE_A_FLAGS (deviceFlags cfg)).bytes.length ≤ 8 := by
    rw [flagsForest]
    split
    · simp [single_bytes_length, align]
    · exact Nat.zero_le _
  have key := present_bytes_length cfg.privateKey
    (fun key => .single WGDEVICE_A_PRIVATE_KEY key.toList) 36 (fun key => by
      have size : key.toList.length = 32 := key.toList_length
      simp [single_bytes_length, size, align])
  have port := present_bytes_length cfg.listenPort
    (fun port => .single WGDEVICE_A_LISTEN_PORT (littleEndian 2 port.toNat)) 8
    (fun port => by simp [single_bytes_length, align])
  have mark := present_bytes_length cfg.firewallMark
    (fun mark => .single WGDEVICE_A_FWMARK (littleEndian 4 mark.toNat)) 8
    (fun mark => by simp [single_bytes_length, align])
  simp only [deviceFields, Forest.bytes_append, List.length_append, single_bytes_length] at *
  omega

/-- The peers are found as the octets of their entries, where there are any. -/
@[simp]
theorem lookup_peers (kind : UInt16) (peers : List PeerConfig) :
    lookup kind (peersForest inet peers).attrs =
      if Forest.nestedType WGDEVICE_A_PEERS &&& 0x3FFF = kind ∧ peers ≠ [] then
        some (numbered peers (peerForest inet)).bytes
      else none := by
  rw [peersForest]
  by_cases none : peers = []
  · simp [none]
    rfl
  · simp [none]

/-- What every reader of a set request relies on: endpoints that parse and addresses a
CIDR text denotes. -/
structure Meaningful (cfg : Config) : Prop where
  endpoints : EndpointsParse inet cfg
  addresses : ∀ peer ∈ cfg.peers, ∀ aip ∈ peer.allowedIPs, Readable inet aip

/-- A meaningful configuration denotes settings. -/
theorem settings_some (cfg : Config) (meaningful : Meaningful inet cfg) :
    (settingsOf inet cfg).isSome := by
  obtain ⟨peers, known⟩ := Option.isSome_iff_exists.mp (option_mapM_isSome (peerSettingsOf inet)
    cfg.peers (fun peer member => peer_settings_some inet peer (meaningful.endpoints peer member)
      (meaningful.addresses peer member)))
  simp [settingsOf, known]

/-- Every element of a numbered list fits when the list does. -/
theorem numbered_fits {α : Type} (items : List α) (fields : α → Forest)
    (short : (numbered items (fun item => .singleNest (UInt16.ofNat item.2) (fields item.1))).bytes.length
      < 65536) : ∀ item ∈ items, (fields item).Fits := by
  have walked (start : Nat) (rest : List α)
      (short : ((rest.zipIdx start).foldr (fun item others =>
        Forest.singleNest (UInt16.ofNat item.2) (fields item.1) ++ others) .nil).bytes.length
          < 65536) : ∀ item ∈ rest, (fields item).Fits := by
    induction rest generalizing start with
    | nil => simp
    | cons item rest inductionHypothesis =>
      simp only [List.zipIdx_cons, List.foldr_cons, Forest.bytes_append, List.length_append,
        single_nest_bytes_length] at short
      intro other member
      rcases List.mem_cons.mp member with rfl | later
      · exact Forest.fits_of_length _ (by omega)
      · exact inductionHypothesis (start + 1) (by omega) other later
  exact walked 0 items short

/-- Peers are read from the nested list they are written to, and from no list where
there are none. -/
theorem read_peers (cfg : Config) (meaningful : Meaningful inet cfg)
    (fits : (peersForest inet cfg.peers).Fits) :
    (walk ((lookup WGDEVICE_A_PEERS (peersForest inet cfg.peers).attrs).getD [])).mapM
      (fun attr => readPeer attr.payload) = cfg.peers.mapM (peerSettingsOf inet) := by
  by_cases none : cfg.peers = []
  · simp [none, walk_nil]
  · have kind : Forest.nestedType WGDEVICE_A_PEERS &&& 0x3FFF = WGDEVICE_A_PEERS := by decide
    rw [peersForest, if_neg none] at fits
    have short : (numbered cfg.peers (peerForest inet)).bytes.length < 65536 := by
      have outer := fits.1
      omega
    rw [lookup_peers, if_pos ⟨kind, none⟩, Option.getD_some]
    exact read_numbered cfg.peers (peerFields inet) readPeer (peerSettingsOf inet)
      (fun peer member => read_peer_fields inet peer (meaningful.endpoints peer member)
        (meaningful.addresses peer member) (numbered_fits cfg.peers (peerFields inet) short peer member))
      (Forest.fits_of_length _ short)

/-- A request whose attributes fit is read as the settings of its configuration, for the
device it names. -/
theorem read_device_forest (ifname : Bytes) (cfg : Config) (valid : ValidName ifname)
    (meaningful : Meaningful inet cfg) (fits : (peersForest inet cfg.peers).Fits) :
    readDevice (genlHeader WG_CMD_SET_DEVICE ++ (deviceForest inet ifname cfg).bytes) =
      (settingsOf inet cfg).map (fun settings => (ifname, settings)) := by
  have whole : (deviceForest inet ifname cfg).Fits :=
    (Forest.fits_append _ _).mpr ⟨device_fields_fits ifname cfg valid, fits⟩
  have header : (genlHeader WG_CMD_SET_DEVICE).length = 4 := rfl
  have cut : (genlHeader WG_CMD_SET_DEVICE ++ (deviceForest inet ifname cfg).bytes).take 4 =
      genlHeader WG_CMD_SET_DEVICE := List.take_left' header
  have rest : (genlHeader WG_CMD_SET_DEVICE ++ (deviceForest inet ifname cfg).bytes).drop 4 =
      (deviceForest inet ifname cfg).bytes := List.drop_left' header
  have name : lookup WGDEVICE_A_IFNAME (deviceForest inet ifname cfg).attrs =
      some (ifname ++ [0]) := by
    simp +decide [deviceForest, deviceFields, c_string_valid ifname valid]
  have flags : lookup WGDEVICE_A_FLAGS (deviceForest inet ifname cfg).attrs =
      lookup WGDEVICE_A_FLAGS (flagsForest WGDEVICE_A_FLAGS (deviceFlags cfg)).attrs := by
    simp +decide [deviceForest, deviceFields]
  have key : lookup WGDEVICE_A_PRIVATE_KEY (deviceForest inet ifname cfg).attrs =
      cfg.privateKey.map (fun key => key.toList) := by
    simp +decide [deviceForest, deviceFields, Option.map_eq_bind]
  have port : lookup WGDEVICE_A_LISTEN_PORT (deviceForest inet ifname cfg).attrs =
      cfg.listenPort.map (fun port => littleEndian 2 port.toNat) := by
    simp +decide [deviceForest, deviceFields, Option.map_eq_bind]
  have mark : lookup WGDEVICE_A_FWMARK (deviceForest inet ifname cfg).attrs =
      cfg.firewallMark.map (fun mark => littleEndian 4 mark.toNat) := by
    simp +decide [deviceForest, deviceFields, Option.map_eq_bind]
  have peers : lookup WGDEVICE_A_PEERS (deviceForest inet ifname cfg).attrs =
      lookup WGDEVICE_A_PEERS (peersForest inet cfg.peers).attrs := by
    simp +decide [deviceForest, deviceFields]
  obtain ⟨set, readSet, bits⟩ := Option.map_eq_some_iff.mp
    (read_flags WGDEVICE_A_FLAGS WGDEVICE_A_FLAGS (deviceFlags cfg) (by decide))
  have readKey := optionally_map cfg.privateKey (fun key => key.toList) (readExact kKeyLen)
    read_exact_octets
  have readPort : optionally (cfg.listenPort.map (fun port => littleEndian 2 port.toNat))
      (readNumber 2) = some (cfg.listenPort.map UInt16.toNat) := by
    cases cfg.listenPort with
    | none => rfl
    | some port => simp [optionally, read_number_little_endian 2 port.toNat port.toNat_lt]
  have portKept : (cfg.listenPort.map UInt16.toNat).map UInt16.ofNat = cfg.listenPort := by
    cases cfg.listenPort <;> simp
  have readMark : optionally (cfg.firewallMark.map (fun mark => littleEndian 4 mark.toNat))
      (readNumber 4) = some (cfg.firewallMark.map UInt32.toNat) := by
    cases cfg.firewallMark with
    | none => rfl
    | some mark => simp [optionally, read_number_little_endian 4 mark.toNat mark.toNat_lt]
  have markKept : (cfg.firewallMark.map UInt32.toNat).map UInt32.ofNat = cfg.firewallMark := by
    cases cfg.firewallMark <;> simp
  have flag : (deviceFlags cfg &&& WGDEVICE_F_REPLACE_PEERS ≠ 0) = (cfg.replacePeers = true) := by
    rw [deviceFlags]
    cases cfg.replacePeers <;> decide
  have named : cString (ifname ++ [0]) = ifname := by
    have plain : ∀ octet ∈ ifname, decide (octet ≠ 0) = true := by
      intro octet member
      have above := (valid.plain octet member).2
      simp only [ne_eq, decide_eq_true_eq]
      rintro rfl
      exact absurd above (by decide)
    rw [cString, List.takeWhile_append_of_pos plain]
    simp
  simp only [readDevice, cut, rest, ne_eq, not_true_eq_false, ↓reduceIte, Forest.walk_bytes _ whole,
    name, flags, key, port, mark, peers, read_peers inet cfg meaningful fits, Option.bind_some,
    readSet, readKey, readPort, readMark, Option.bind_eq_bind, bits, portKept, markKept, named]
  simp only [ne_eq] at flag
  simp only [flag, Bool.decide_eq_true, settingsOf, Option.bind_eq_bind, Option.map_bind,
    Option.pure_def, Function.comp_def, Option.map_some]

end NodeWireguard.SetMessageReading
