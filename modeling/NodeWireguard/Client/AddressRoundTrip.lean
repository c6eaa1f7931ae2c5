import Mathlib
import NodeWireguard.Client.ConfigCopy
import NodeWireguard.Client.ConfigFromJs
import NodeWireguard.Netlink.DumpReassembly
import NodeWireguard.Netlink.EndpointGrammar

/-!
# Addresses through text and back

The endpoint and the ranges of a dumped peer become text (`FormatEndpoint`, `inet_ntop`,
`FormatCIDR`, `PeerToJs`), the text goes into a configuration object, and `PeerConfigFromJs`
and `BuildSetDeviceMessage` turn it into attributes again. The attributes that leave hold the
addresses, ports and masks that came in, in the same order.

The flow information and the scope of an IPv6 endpoint may be anything in the dump. Neither is
part of the text, so the endpoint that leaves has both zero.
-/

namespace NodeWireguard.AddressRoundTrip

open ByteText DecimalText IntegerConversions Key AddressText AddressForms AddressGrammar
open AttributeStream SocketAddress IfName JsValues ConfigFromJs DeviceToJs DeviceSettings
open DeviceDump DumpReassembly SetDeviceMessage WireguardUapi MessageBuffer ConfigCopy

/-- The record the dump parser makes of one peer entry. -/
def dumpedPeer (inet : Inet) (fresh : FreshOctets) (attr : Attr) : Peer :=
  (walk attr.payload).foldl (parsePeerAttr inet fresh) {}

/-- A configuration that repeats the addresses a shown peer has. -/
def readdress (shown : JsValue) : JsValue :=
  .object [
    ("publicKey", shown.get "publicKey"),
    ("endpoint", shown.get "endpoint"),
    ("allowedIPs", shown.get "allowedIPs")]

/-- The same for a list of shown peers: one configuration with a peer for each. -/
def readdressAll (shown : List JsValue) : JsValue :=
  .object [("peers", .array (shown.map readdress))]

/-- The record such a configuration is read to. Only the key, the endpoint text and the ranges
are present in it. -/
def readdressed (inet : Inet) (peer : KernelPeer) : PeerConfig where
  publicKey := peer.publicKey
  endpoint := peer.endpoint.map (fun address => formatEndpoint inet (sockaddrBytes address))
  allowedIPs := peer.allowedIPs.map (showRange inet)

/-- A range as a nested attribute: family, address octets, mask. -/
def sentRange (item : AllowedRange × Nat) : Forest :=
  .singleNest (UInt16.ofNat item.2)
    (.single WGALLOWEDIP_A_FAMILY (littleEndian 2 (addressFields item.1.address).1.toNat)
      ++ .single WGALLOWEDIP_A_IPADDR (addressFields item.1.address).2
      ++ .single WGALLOWEDIP_A_CIDR_MASK [item.1.mask])

/-- A peer as a nested attribute: key, socket address, ranges. -/
def sentPeer (item : KernelPeer × Nat) : Forest :=
  .singleNest (UInt16.ofNat item.2)
    (.single WGPEER_A_PUBLIC_KEY item.1.publicKey.toList
      ++ presentForest item.1.endpoint (fun address =>
        .single WGPEER_A_ENDPOINT (sockaddrBytes address))
      ++ (if item.1.allowedIPs = [] then .nil
        else .singleNest WGPEER_A_ALLOWEDIPS (numbered item.1.allowedIPs sentRange)))

/-- A request with the given peers and nothing else. -/
def sentDevice (ifname : Bytes) (peers : List KernelPeer) : Forest :=
  .single WGDEVICE_A_IFNAME (cString ifname ++ [0])
    ++ (if peers = [] then .nil else .singleNest WGDEVICE_A_PEERS (numbered peers sentPeer))

variable (inet : Inet)

/-- The text of a socket address is an endpoint of the grammar. An IPv4 address has no colon and
an IPv6 one no bracket, so the cuts of the grammar fall where the writer put its marks. -/
theorem format_endpoint_text (lawful : inet.Lawful) (address : SockAddr) :
    EndpointText inet (formatEndpoint inet (sockaddrBytes address)) address := by
  have number (port : UInt16) : StrictDigits (decimal port.toNat) port.toNat :=
    ⟨decimal_nonempty _, decimal_digits _, decimal_value _⟩
  cases address with
  | in4 port addr =>
    obtain ⟨family, isPort, isAddr⟩ := sockaddr_bytes_in4 port addr
    have text : formatEndpoint inet (sockaddrBytes (.in4 port addr)) =
        inet.ntop4 addr ++ byte ':' :: decimal port.toNat := by
      simp only [formatEndpoint, family, isPort, isAddr, ↓reduceIte]
    rw [text]
    exact .dotted _ _ port addr ⟨(lawful.ntop4_plain addr).2, lawful.pton4_ntop4 addr⟩ (number port)
  | in6 port addr =>
    obtain ⟨family, isPort, isAddr⟩ := sockaddr_bytes_in6 port addr
    have different : ¬ AF_INET6.toNat = AF_INET.toNat := by decide
    have marks : ascii "]:" = [byte ']', byte ':'] := rfl
    have text : formatEndpoint inet (sockaddrBytes (.in6 port addr)) =
        byte '[' :: (inet.ntop6 addr ++ byte ']' :: byte ':' :: decimal port.toNat) := by
      simp only [formatEndpoint, family, isPort, isAddr, if_neg different, marks,
        List.cons_append, List.append_assoc, List.nil_append]
    rw [text]
    exact .bracketed _ _ port addr ⟨(lawful.ntop6_plain addr).2, lawful.pton6_ntop6 addr⟩
      (number port)

/-- Parsing the text of a socket address gives the address back. -/
theorem parse_format_endpoint (lawful : inet.Lawful) (spelled : Inet.Spelled inet)
    (address : SockAddr) :
    parseEndpoint inet (formatEndpoint inet (sockaddrBytes address)) = .ok address := by
  obtain ⟨host, digits, cut, -⟩ := EndpointGrammar.endpoint_text_loose spelled _ address
    (format_endpoint_text inet lawful address)
  exact EndpointGrammar.parse_loose inet _ host digits address cut

/-- The octets of a shown range are the range's own. -/
theorem address_bytes_shown (lawful : inet.Lawful) (range : AllowedRange) :
    addressBytes inet (showRange inet range) = (addressFields range.address).2 := by
  obtain ⟨address, mask⟩ := range
  cases address with
  | v4 addr =>
    have whole : cString (inet.ntop4 addr) = inet.ntop4 addr :=
      c_string_whole _ (lawful.ntop4_plain addr).2
    simp [addressBytes, showRange, addressFields, Inet.inetPton4, whole, lawful.pton4_ntop4]
  | v6 addr =>
    have whole : cString (inet.ntop6 addr) = inet.ntop6 addr :=
      c_string_whole _ (lawful.ntop6_plain addr).2
    have different : ¬ AF_INET6 = AF_INET := by decide
    simp [addressBytes, showRange, addressFields, Inet.inetPton6, whole, lawful.pton6_ntop6,
      different]

/-- Numbered elements are written alike when each of them is. -/
theorem numbered_map {α β : Type} (items : List α) (image : α → β) (left : β × Nat → Forest)
    (right : α × Nat → Forest) (same : ∀ item index, left (image item, index) = right (item, index)) :
    numbered (items.map image) left = numbered items right := by
  have steps : (fun (item : α × Nat) (rest : Forest) => left (Prod.map image id item) ++ rest) =
      fun item rest => right item ++ rest := by
    funext item rest
    rw [Prod.map_apply', same]
    rfl
  rw [numbered, numbered, List.zipIdx_map, List.foldr_map, steps]

/-- What is written for a shown range is the range. -/
theorem allowed_ip_sent (lawful : inet.Lawful) (range : AllowedRange) (index : Nat) :
    allowedIPForest inet (showRange inet range, index) = sentRange (range, index) := by
  have octets := address_bytes_shown inet lawful range
  simp only [allowedIPForest, sentRange, octets]
  obtain ⟨address, mask⟩ := range
  cases address <;> rfl

/-- What is written for a readdressed peer is its key, socket address and ranges. The endpoint is
the parsed one of its own text, and each range is the one its record denotes, so the forests are
equal attribute by attribute. -/
theorem peer_sent (lawful : inet.Lawful) (spelled : Inet.Spelled inet) (peer : KernelPeer)
    (index : Nat) : peerForest inet (readdressed inet peer, index) = sentPeer (peer, index) := by
  have endpoint : presentForest (readdressed inet peer).endpoint (endpointForest inet) =
      presentForest peer.endpoint (fun address =>
        .single WGPEER_A_ENDPOINT (sockaddrBytes address)) := by
    cases given : peer.endpoint with
    | none => simp [readdressed, given, presentForest]
    | some address =>
      simp [readdressed, given, presentForest, endpointForest,
        parse_format_endpoint inet lawful spelled address]
  have ranges : allowedIPsForest inet (readdressed inet peer).allowedIPs =
      if peer.allowedIPs = [] then .nil
      else .singleNest WGPEER_A_ALLOWEDIPS (numbered peer.allowedIPs sentRange) := by
    rw [allowedIPsForest, readdressed]
    simp only [List.map_eq_nil_iff]
    rw [numbered_map _ _ _ sentRange (allowed_ip_sent inet lawful)]
  have head : peerHeadForest (readdressed inet peer) =
      .single WGPEER_A_PUBLIC_KEY peer.publicKey.toList := by
    simp [peerHeadForest, readdressed, peerFlags, flagsForest, presentForest]
  have interval : (readdressed inet peer).persistentKeepaliveInterval = none := rfl
  rw [peerForest, sentPeer, peerFields, peerTailForest, head, endpoint, ranges, interval]
  rfl

/-- The request for readdressed peers has their attributes and no others. -/
theorem device_sent (lawful : inet.Lawful) (spelled : Inet.Spelled inet) (ifname : Bytes)
    (peers : List KernelPeer) :
    deviceForest inet ifname { peers := peers.map (readdressed inet) } = sentDevice ifname peers := by
  have fields : deviceFields ifname { peers := peers.map (readdressed inet) } =
      .single WGDEVICE_A_IFNAME (cString ifname ++ [0]) := by
    simp [deviceFields, deviceFlags, flagsForest, presentForest]
  rw [deviceForest, sentDevice, fields, peersForest,
    numbered_map _ _ _ sentPeer (peer_sent inet lawful spelled)]
  simp only [List.map_eq_nil_iff]

/-- A shown range is read as its record. -/
theorem allowed_ip_readdressed (lawful : inet.Lawful) (range : AllowedRange)
    (fits : MaskFits range) :
    allowedIPFromJs inet (.string (formatCIDR (showRange inet range))) =
      .ok (showRange inet range) := by
  rw [allowedIPFromJs, asString]
  exact parse_format_cidr inet _ (show_range_readable inet lawful range fits)

/-- The configuration that repeats a shown peer's addresses is read without an exception. The key
is decoded from its own text, the endpoint is kept as it is, and each shown range is parsed back;
everything else is absent from the object. -/
theorem peer_readdressed (lawful : inet.Lawful) (peer : KernelPeer)
    (fits : ∀ range ∈ peer.allowedIPs, MaskFits range) :
    peerConfigFromJs inet (readdress (peerToJs (showPeer inet peer peer.allowedIPs))) =
      .ok (readdressed inet peer) := by
  rw [peer_config_from_js_iff]
  constructor
  case publicKey => exact ⟨_, rfl, key_from_base64_key_to_base64 peer.publicKey⟩
  case presharedKey => exact .none
  case persistentKeepaliveInterval => exact .none
  case endpoint =>
    cases given : peer.endpoint with
    | none => simp [readdressed, readdress, peerToJs, showPeer, JsValue.get, asString, given]
    | some address => simp [readdressed, readdress, peerToJs, showPeer, JsValue.get, asString, given]
  case allowedIPs =>
    change List.Forall₂ _ (((peer.allowedIPs.map (showRange inet))).map
      (fun aip => JsValue.string (formatCIDR aip))) (peer.allowedIPs.map (showRange inet))
    rw [List.map_map, List.forall₂_map_left_iff, List.forall₂_map_right_iff]
    exact List.forall₂_same.mpr (fun range listed =>
      allowed_ip_readdressed inet lawful range (fits range listed))
  all_goals rfl

/-- The configuration for all shown peers is read peer by peer. -/
theorem config_readdressed (lawful : inet.Lawful) (peers : List KernelPeer)
    (fits : ∀ peer ∈ peers, ∀ range ∈ peer.allowedIPs, MaskFits range) :
    configFromJs inet (readdressAll (peers.map (fun peer =>
        peerToJs (showPeer inet peer peer.allowedIPs)))) =
      .ok { peers := peers.map (readdressed inet) } := by
  rw [config_from_js_iff]
  constructor
  case privateKey => exact .none
  case listenPort => exact .none
  case firewallMark => exact .none
  case replacePeers => rfl
  case peers =>
    change List.Forall₂ _ (List.map readdress (peers.map _)) (peers.map _)
    rw [List.map_map, List.forall₂_map_left_iff, List.forall₂_map_right_iff]
    refine List.forall₂_same.mpr (fun peer member => ⟨rfl, ?_⟩)
    exact (peer_config_from_js_iff inet _ _).mp
      (peer_readdressed inet lawful peer (fits peer member))

/-- Every dumped endpoint and range comes back out of its text: the configuration is read, the
request is built, and its attributes hold the same addresses, ports and masks in order.

Proof: each step is taken through its lemma for one peer. The dump parser makes the shown record
of every entry; its endpoint text parses back to the address, and each CIDR text to the range it
was written for. Then the builder emits a forest, which is compared with the one that was
intended, peer by peer. -/
theorem addresses_survive (lawful : inet.Lawful) (spelled : Inet.Spelled inet)
    (fresh : FreshOctets) (peers : List KernelPeer) (attrs : List Attr)
    (dumped : List.Forall₂ (fun peer attr => PeerEntry (scalarFields peer) peer.allowedIPs attr)
      peers attrs)
    (fits : ∀ peer ∈ peers, ∀ range ∈ peer.allowedIPs, MaskFits range) (familyId : UInt16)
    (seq : UInt32) (ifname : Bytes) (valid : ValidName ifname) :
    ∃ cfg b,
      configFromJs inet (readdressAll (attrs.map (fun attr =>
        peerToJs (dumpedPeer inet fresh attr)))) = .ok cfg ∧
      buildSetDeviceMessage inet familyId seq ifname cfg = .ok b ∧
      b.body = genlHeader WG_CMD_SET_DEVICE ++ (sentDevice ifname peers).bytes := by
  have shown : attrs.map (fun attr => peerToJs (dumpedPeer inet fresh attr)) =
      peers.map (fun peer => peerToJs (showPeer inet peer peer.allowedIPs)) := by
    clear fits
    induction dumped with
    | nil => rfl
    | cons entry _ inductionHypothesis =>
      rw [List.map_cons, List.map_cons, inductionHypothesis, dumpedPeer,
        parse_first_entry inet fresh _ _ _ entry]
  have parse : EndpointsParse inet { peers := peers.map (readdressed inet) } := by
    intro config member text given
    obtain ⟨peer, -, rfl⟩ := List.mem_map.mp member
    obtain ⟨address, -, rfl⟩ := Option.map_eq_some_iff.mp given
    exact ⟨address, parse_format_endpoint inet lawful spelled address⟩
  obtain ⟨b, built⟩ := (build_set_device_message_succeeds_iff inet familyId seq ifname _).mpr
    ⟨valid, parse⟩
  obtain ⟨body, -⟩ := build_set_device_message_content inet familyId seq ifname _ b built
  rw [shown]
  refine ⟨_, b, config_readdressed inet lawful peers fits, built, ?_⟩
  rw [body, device_sent inet lawful spelled]

/-- The IPv6 form of an IPv4 address. -/
def mappedAddress : Octets 16 := ⟨[0, 0, 0, 0, 0, 0, 0, 0, 0, 0, 255, 255, 192, 0, 2, 1], rfl⟩

/-- A peer behind a mapped address with a flow label and a scope, and with the address in both
families as ranges. -/
def mappedPeer : KernelPeer where
  publicKey := List.Vector.replicate kKeyLen 1
  presharedKey := none
  endpoint := some (.in6 51820 mappedAddress)
  flowInfo := ⟨[0, 0x0A, 0xBC, 0xDE], rfl⟩
  scopeId := ⟨[3, 0, 0, 0], rfl⟩
  persistentKeepaliveInterval := 0
  lastHandshakeTime := (0, 0)
  receiveBytes := 0
  transmitBytes := 0
  protocolVersion := 1
  allowedIPs := [⟨.v6 mappedAddress, 128⟩, ⟨.v4 ⟨[192, 0, 2, 1], rfl⟩, 32⟩]

/-- The entry the kernel dumps for it. -/
def mappedEntry : Attr :=
  ⟨Forest.nestedType 0, (entryForest (scalarFields mappedPeer, mappedPeer.allowedIPs)).bytes⟩

/-- A mapped address stays an IPv6 address, beside the IPv4 one. -/
theorem mapped_address_survives :
    ∃ cfg b,
      configFromJs plainInet (readdressAll [peerToJs (dumpedPeer plainInet zeroed mappedEntry)]) =
        .ok cfg ∧
      buildSetDeviceMessage plainInet 25 1 (ascii "wg0") cfg = .ok b ∧
      b.body = genlHeader WG_CMD_SET_DEVICE ++ (sentDevice (ascii "wg0") [mappedPeer]).bytes := by
  have entry := entry_forest_entry (scalarFields mappedPeer, mappedPeer.allowedIPs) (by decide)
    (by decide +kernel)
  have fits : ∀ peer ∈ [mappedPeer], ∀ range ∈ peer.allowedIPs, MaskFits range := by
    simp [mappedPeer, MaskFits]
  exact addresses_survive plainInet plain_inet_lawful plain_inet_spelled zeroed [mappedPeer]
    [mappedEntry] (.cons entry .nil) fits 25 1 (ascii "wg0")
    ((validate_if_name_iff _).mp (by decide))

end NodeWireguard.AddressRoundTrip
