import Mathlib
import NodeWireguard.Foundations.KeyedOrder
import NodeWireguard.Foundations.RelatedLists
import NodeWireguard.Netlink.AddressForms
import NodeWireguard.Netlink.DeviceDump

/-!
# Reassembling a split dump

The kernel cuts a peer's ranges over several entries and the entries over several
messages. Folding the messages into one device gives back every peer once, in order,
with the scalar attributes of its first entry and all its ranges.

The order of the attributes inside a peer entry does not matter: each writes its own
field. The merge only looks at the last peer, so the invariant of the run is that the
last key gathered so far is not the key of any peer still to come.
-/

namespace NodeWireguard.DumpReassembly

open ByteText AddressText AddressForms AttributeStream KeyedOrder RelatedLists SocketAddress DeviceSettings
  DeviceDump WireguardUapi

variable (inet : Inet) (fresh : FreshOctets)

/-- A range entry appends its range, whatever the fresh record held. -/
theorem parse_range_entry (list : List AllowedIP) (range : AllowedRange) (attr : Attr)
    (entry : RangeEntry range attr) :
    parseAllowedIPEntry inet fresh list attr = list ++ [showRange inet range] := by
  have overFields (start : AllowedIP) : (walk attr.payload).foldl (parseAllowedIPAttr inet) start =
      ((walk attr.payload).map fieldOf).foldl (parseAllowedIPField inet) start := by
    rw [List.foldl_map]
    rfl
  have family (octet : UInt8) :
      UInt8.ofNat (unsignedAt 2 (littleEndian 2 octet.toNat)) = octet := by
    have bound := octet.toNat_lt
    have small : octet.toNat % 65536 = octet.toNat := by omega
    rw [unsignedAt, List.take_of_length_le (by simp), from_little_endian]
    simp [small]
  have different : AF_INET ≠ AF_INET6 := by decide
  rw [parseAllowedIPEntry, overFields]
  obtain ⟨address, mask⟩ := range
  simp only [RangeEntry, List.mem_cons, List.not_mem_nil, or_false] at entry
  rcases entry with order | order | order <;> rw [order] <;> cases address
  all_goals simp +decide [parseAllowedIPField, family, addressFields, octets_of_list, showRange]

/-- A slice appends its ranges in order. -/
theorem parse_slice (slice : List AllowedRange) (attrs : List Attr) (list : List AllowedIP)
    (entries : List.Forall₂ RangeEntry slice attrs) :
    attrs.foldl (parseAllowedIPEntry inet fresh) list = list ++ slice.map (showRange inet) := by
  induction entries generalizing list with
  | nil => simp
  | cons first rest inductionHypothesis =>
    rw [List.foldl_cons, parse_range_entry inet fresh list _ _ first, inductionHypothesis]
    simp

/-- A peer attribute is one of nine types, or is skipped. -/
theorem peer_field_kinds (kind : UInt16) :
    kind ∈ [WGPEER_A_PUBLIC_KEY, WGPEER_A_PRESHARED_KEY, WGPEER_A_ENDPOINT,
        WGPEER_A_PERSISTENT_KEEPALIVE_INTERVAL, WGPEER_A_LAST_HANDSHAKE_TIME, WGPEER_A_RX_BYTES,
        WGPEER_A_TX_BYTES, WGPEER_A_ALLOWEDIPS, WGPEER_A_PROTOCOL_VERSION] ∨
      ∀ peer payload, parsePeerField inet fresh peer (kind, payload) = peer := by
  simp only [List.mem_cons, List.not_mem_nil, or_false, parsePeerField]
  by_cases known : kind = WGPEER_A_PUBLIC_KEY ∨ kind = WGPEER_A_PRESHARED_KEY ∨
      kind = WGPEER_A_ENDPOINT ∨ kind = WGPEER_A_PERSISTENT_KEEPALIVE_INTERVAL ∨
      kind = WGPEER_A_LAST_HANDSHAKE_TIME ∨ kind = WGPEER_A_RX_BYTES ∨ kind = WGPEER_A_TX_BYTES ∨
      kind = WGPEER_A_ALLOWEDIPS ∨ kind = WGPEER_A_PROTOCOL_VERSION
  · exact .inl known
  · simp only [not_or] at known
    obtain ⟨first, second, third, fourth, fifth, sixth, seventh, eighth, ninth⟩ := known
    simp [first, second, third, fourth, fifth, sixth, seventh, eighth, ninth]

/-- Attributes of different types write different fields of a peer. -/
theorem parse_peer_field_comm (peer : Peer) (left right : Field) (different : left.1 ≠ right.1) :
    parsePeerField inet fresh (parsePeerField inet fresh peer left) right =
      parsePeerField inet fresh (parsePeerField inet fresh peer right) left := by
  obtain ⟨leftKind, leftPayload⟩ := left
  obtain ⟨rightKind, rightPayload⟩ := right
  rcases peer_field_kinds inet fresh leftKind with leftKnown | skipped
  · rcases peer_field_kinds inet fresh rightKind with rightKnown | skipped
    · simp only [List.mem_cons, List.not_mem_nil, or_false] at leftKnown rightKnown
      rcases leftKnown with rfl | rfl | rfl | rfl | rfl | rfl | rfl | rfl | rfl <;>
        rcases rightKnown with rfl | rfl | rfl | rfl | rfl | rfl | rfl | rfl | rfl <;>
        first | exact absurd rfl different | rfl
    · rw [skipped, skipped]
  · rw [skipped, skipped]

/-- Attributes of distinct types may come in any order. -/
theorem fold_fields_perm (peer : Peer) (attrs : List Attr) (fields : List Field)
    (order : (attrs.map fieldOf).Perm fields) (distinct : (fields.map Prod.fst).Nodup) :
    attrs.foldl (parsePeerAttr inet fresh) peer =
      fields.foldl (parsePeerField inet fresh) peer := by
  have overFields : attrs.foldl (parsePeerAttr inet fresh) peer =
      (attrs.map fieldOf).foldl (parsePeerField inet fresh) peer := by
    rw [List.foldl_map]
    rfl
  have distinctAttrs : ((attrs.map fieldOf).map Prod.fst).Nodup :=
    (order.map Prod.fst).nodup_iff.mpr distinct
  rw [overFields]
  exact fold_reordered (parsePeerField inet fresh)
    (fun peer left right => parse_peer_field_comm inet fresh peer left right) _ _
    (.inr ⟨order, distinctAttrs⟩) peer

/-- A number is read from the first octets of its payload, whatever follows. -/
theorem unsigned_at_little_endian (size value : Nat) (rest : Bytes) (fits : value < 256 ^ size) :
    unsignedAt size (littleEndian size value ++ rest) = value := by
  rw [unsignedAt, List.take_left' (little_endian_length size value), from_little_endian,
    Nat.mod_eq_of_lt fits]

/-- The scalar attributes of a first entry, read from a fresh peer. Each of them sets its own
field of the peer, and those that are absent leave the default. -/
theorem fold_scalar_fields (peer : KernelPeer) :
    (scalarFields peer).foldl (parsePeerField inet fresh) {} = showPeer inet peer [] := by
  have shape : (scalarFields peer).foldl (parsePeerField inet fresh) {} =
      { publicKey := octetsOf kKeyLen peer.publicKey.toList
        presharedKey := peer.presharedKey.map (fun key => octetsOf kKeyLen key.toList)
        endpoint := peer.endpoint.map (fun address =>
          formatEndpoint inet (dumpedSockaddr peer.flowInfo peer.scopeId address))
        persistentKeepaliveInterval :=
          UInt16.ofNat (unsignedAt 2 (littleEndian 2 peer.persistentKeepaliveInterval.toNat ++ []))
        lastHandshakeTimeSec := (UInt64.ofNat (unsignedAt 8
          (littleEndian 8 peer.lastHandshakeTime.1.toUInt64.toNat
            ++ littleEndian 8 peer.lastHandshakeTime.2.toUInt64.toNat))).toInt64
        receiveBytes := UInt64.ofNat (unsignedAt 8 (littleEndian 8 peer.receiveBytes.toNat ++ []))
        transmitBytes := UInt64.ofNat (unsignedAt 8 (littleEndian 8 peer.transmitBytes.toNat ++ []))
        protocolVersion :=
          UInt32.ofNat (unsignedAt 4 (littleEndian 4 peer.protocolVersion.toNat ++ [])) } := by
    rw [scalarFields]
    cases peer.presharedKey <;> cases peer.endpoint <;> rfl
  have interval := peer.persistentKeepaliveInterval.toNat_lt
  have seconds := peer.lastHandshakeTime.1.toUInt64.toNat_lt
  have received := peer.receiveBytes.toNat_lt
  have transmitted := peer.transmitBytes.toNat_lt
  have version := peer.protocolVersion.toNat_lt
  rw [shape, unsigned_at_little_endian 2 _ _ (by omega), unsigned_at_little_endian 8 _ _ (by omega),
    unsigned_at_little_endian 8 _ _ (by omega), unsigned_at_little_endian 8 _ _ (by omega),
    unsigned_at_little_endian 4 _ _ (by omega)]
  simp [octets_of_list, showPeer, format_dumped_sockaddr]

/-- A first entry gives its peer with its slice. -/
theorem parse_first_entry (peer : KernelPeer) (slice : List AllowedRange) (attr : Attr)
    (entry : PeerEntry (scalarFields peer) slice attr) :
    (walk attr.payload).foldl (parsePeerAttr inet fresh) {} = showPeer inet peer slice := by
  obtain ⟨nested, order, ranges⟩ := entry
  have distinct : ((scalarFields peer
      ++ nested.toList.map (fun list => (WGPEER_A_ALLOWEDIPS, list))).map Prod.fst).Nodup := by
    rw [scalarFields]
    cases peer.presharedKey <;> cases peer.endpoint <;> cases nested <;> simp +decide
  rw [fold_fields_perm inet fresh {} _ _ order distinct, List.foldl_append, fold_scalar_fields]
  cases nested with
  | none =>
    cases ranges
    rfl
  | some list =>
    change { showPeer inet peer [] with
      allowedIPs := (walk list).foldl (parseAllowedIPEntry inet fresh) [] } = _
    rw [parse_slice inet fresh slice (walk list) [] ranges]
    rfl

/-- A continuation entry gives its key and its slice. Its attributes may come in any order, since
they have different types and so commute; then the key is read and the ranges one after the
other. -/
theorem parse_continuation_entry (peer : KernelPeer) (slice : List AllowedRange) (attr : Attr)
    (entry : PeerEntry (continuationFields peer) slice attr) :
    (walk attr.payload).foldl (parsePeerAttr inet fresh) {} =
      { publicKey := peer.publicKey, allowedIPs := slice.map (showRange inet) } := by
  obtain ⟨nested, order, ranges⟩ := entry
  have distinct : ((continuationFields peer
      ++ nested.toList.map (fun list => (WGPEER_A_ALLOWEDIPS, list))).map Prod.fst).Nodup := by
    rw [continuationFields]
    cases nested <;> simp +decide
  have keyed : (continuationFields peer).foldl (parsePeerField inet fresh) {} =
      { publicKey := peer.publicKey } := by
    change ({ publicKey := octetsOf kKeyLen peer.publicKey.toList } : Peer) = _
    rw [octets_of_list]
  rw [fold_fields_perm inet fresh {} _ _ order distinct, List.foldl_append, keyed]
  cases nested with
  | none =>
    cases ranges
    rfl
  | some list =>
    change ({ publicKey := peer.publicKey
              allowedIPs := (walk list).foldl (parseAllowedIPEntry inet fresh) [] } : Peer) = _
    rw [parse_slice inet fresh slice (walk list) [] ranges]
    rfl

/-- An entry with a new key adds its peer. -/
theorem parse_peer_entry_new (peers : List Peer) (peer : Peer) (attr : Attr)
    (parsed : (walk attr.payload).foldl (parsePeerAttr inet fresh) {} = peer)
    (unlike : ∀ last ∈ peers.getLast?, last.publicKey ≠ peer.publicKey) :
    parsePeerEntry inet fresh peers attr = peers ++ [peer] := by
  rw [parsePeerEntry, parsed]
  cases last : peers.getLast? with
  | none => rfl
  | some existing => simp [unlike existing last]

/-- An entry with the last key adds its ranges to the last peer. -/
theorem parse_peer_entry_same (peers : List Peer) (last peer : Peer) (attr : Attr)
    (parsed : (walk attr.payload).foldl (parsePeerAttr inet fresh) {} = peer)
    (same : last.publicKey = peer.publicKey) :
    parsePeerEntry inet fresh (peers ++ [last]) attr =
      peers ++ [{ last with allowedIPs := last.allowedIPs ++ peer.allowedIPs }] := by
  rw [parsePeerEntry, parsed]
  simp [same]

/-- The continuation entries of a peer complete its ranges. -/
theorem fold_continuations (peers : List Peer) (peer : KernelPeer) (shown : List AllowedRange)
    (further : List (List AllowedRange)) (attrs : List Attr)
    (entries : List.Forall₂ (fun slice attr => PeerEntry (continuationFields peer) slice attr)
      further attrs) :
    attrs.foldl (parsePeerEntry inet fresh) (peers ++ [showPeer inet peer shown]) =
      peers ++ [showPeer inet peer (shown ++ further.flatten)] := by
  induction entries generalizing shown with
  | nil => simp
  | cons first rest inductionHypothesis =>
    rename_i slice attr further attrs
    have merged : parsePeerEntry inet fresh (peers ++ [showPeer inet peer shown]) attr =
        peers ++ [showPeer inet peer (shown ++ slice)] := by
      rw [parse_peer_entry_same inet fresh peers (showPeer inet peer shown) _ attr
        (parse_continuation_entry inet fresh peer slice attr first) rfl]
      simp [showPeer]
    rw [List.foldl_cons, merged, inductionHypothesis, List.flatten_cons, List.append_assoc]

/-- The entries of a cut peer add the whole peer, after any peer with another key. -/
theorem fold_cut (peers : List Peer) (cut : Cut) (attrs : List Attr)
    (unlike : ∀ last ∈ peers.getLast?, last.publicKey ≠ cut.peer.publicKey)
    (entries : List.Forall₂ (fun entry attr => PeerEntry entry.1 entry.2 attr) cut.entries attrs) :
    attrs.foldl (parsePeerEntry inet fresh) peers =
      peers ++ [showPeer inet cut.peer cut.peer.allowedIPs] := by
  obtain _ | ⟨first, rest⟩ := entries
  rename_i attr attrs
  have started := parse_peer_entry_new inet fresh peers _ attr
    (parse_first_entry inet fresh cut.peer cut.first attr first) unlike
  have slices : List.Forall₂ (fun slice attr => PeerEntry (continuationFields cut.peer) slice attr)
      cut.further attrs := by simpa [List.forall₂_map_left_iff] using rest
  rw [List.foldl_cons, started, fold_continuations inet fresh peers cut.peer cut.first _ _ slices,
    cut.whole]

/-- Peers with distinct keys are gathered in order, each once and whole. The peers in front have
other keys, so the first entry of a cut appends a peer, and the further ones go to it. -/
theorem fold_cuts (peers : List Peer) (cuts : List Cut) (attrs : List Attr)
    (distinct : (cuts.map (fun cut => cut.peer.publicKey)).Nodup)
    (unlike : ∀ last ∈ peers.getLast?, last.publicKey ∉ cuts.map (fun cut => cut.peer.publicKey))
    (entries : List.Forall₂ (fun entry attr => PeerEntry entry.1 entry.2 attr)
      (cuts.flatMap Cut.entries) attrs) :
    attrs.foldl (parsePeerEntry inet fresh) peers =
      peers ++ cuts.map (fun cut => showPeer inet cut.peer cut.peer.allowedIPs) := by
  induction cuts generalizing peers attrs with
  | nil =>
    cases entries
    simp
  | cons cut rest inductionHypothesis =>
    rw [List.flatMap_cons] at entries
    obtain ⟨own, others, ownEntries, otherEntries, rfl⟩ := related_split _ _ _ entries
    have keys := List.nodup_cons.mp distinct
    have added := fold_cut inet fresh peers cut own
      (fun last isLast same => unlike last isLast (by simp [same])) ownEntries
    rw [List.foldl_append, added, inductionHypothesis _ others keys.2 _ otherEntries]
    · simp
    · intro last isLast
      obtain rfl : showPeer inet cut.peer cut.peer.allowedIPs = last := by simpa using isLast
      exact keys.1

/-- Only the attributes that hold peers change the peers of a device. -/
theorem fold_device_attrs (attrs : List Attr) (device : Device) :
    (attrs.foldl (parseDeviceAttr inet fresh) device).peers =
      ((attrs.filter (fun attr => attrKind attr = WGDEVICE_A_PEERS)).flatMap
        (fun attr => walk attr.payload)).foldl (parsePeerEntry inet fresh) device.peers := by
  induction attrs generalizing device with
  | nil => rfl
  | cons attr rest inductionHypothesis =>
    rw [List.foldl_cons, inductionHypothesis]
    by_cases holdsPeers : attrKind attr = WGDEVICE_A_PEERS
    · have gathered : (parseDeviceAttr inet fresh device attr).peers =
          (walk attr.payload).foldl (parsePeerEntry inet fresh) device.peers := by
        simp +decide [parseDeviceAttr, parseDeviceField, fieldOf, holdsPeers]
      rw [gathered, List.filter_cons_of_pos (by simpa using holdsPeers), List.flatMap_cons,
        List.foldl_append]
    · have kept : (parseDeviceAttr inet fresh device attr).peers = device.peers := by
        simp only [parseDeviceAttr, parseDeviceField, fieldOf, holdsPeers, ↓reduceIte]
        split_ifs <;> rfl
      rw [kept, List.filter_cons_of_neg (by simpa using holdsPeers)]

/-- The peers of a device after a run of messages are those of all their entries. -/
theorem fold_messages (messages : List Bytes) (device : Device) :
    (messages.foldl (parseDeviceMessage inet fresh) device).peers =
      (messages.flatMap peerEntries).foldl (parsePeerEntry inet fresh) device.peers := by
  induction messages generalizing device with
  | nil => rfl
  | cons message rest inductionHypothesis =>
    rw [List.foldl_cons, inductionHypothesis, parseDeviceMessage, fold_device_attrs,
      List.flatMap_cons, List.foldl_append, peerEntries]

/-- Whatever way the ranges of peers with distinct keys are cut and the entries are
packed into messages, folding the messages gives the peers back.

Proof: by induction on the peers, with those that are complete already in front. The first entry
of a peer appends it, since its key is not the last one; each further entry has the key of the
last peer, so only its ranges are added. How the entries lie in messages does not matter, because
the fold over messages is one fold over all entries. -/
theorem dump_reassembled (cuts : List Cut) (messages : List Bytes) (device : Device)
    (started : device.peers = [])
    (distinct : (cuts.map (fun cut => cut.peer.publicKey)).Nodup)
    (packed : List.Forall₂ (fun entry attr => PeerEntry entry.1 entry.2 attr)
      (cuts.flatMap Cut.entries) (messages.flatMap peerEntries)) :
    (messages.foldl (parseDeviceMessage inet fresh) device).peers =
      cuts.map (fun cut => showPeer inet cut.peer cut.peer.allowedIPs) := by
  rw [fold_messages, started, fold_cuts inet fresh [] cuts _ distinct (by simp) packed,
    List.nil_append]

section Encoded

/-- Attributes without nesting. -/
def leaves (fields : List Field) : Forest :=
  fields.foldr (fun field rest => .leaf field.1 field.2 rest) .nil

/-- A list of nested attributes. -/
def nests (forests : List Forest) : Forest :=
  forests.foldr (fun children rest => .nest 0 children rest) .nil

/-- A range as the attributes of one entry, with the family in front of the address. -/
def rangeForest (range : AllowedRange) : Forest :=
  leaves [(WGALLOWEDIP_A_CIDR_MASK, [range.mask]),
    (WGALLOWEDIP_A_FAMILY, littleEndian 2 (addressFields range.address).1.toNat),
    (WGALLOWEDIP_A_IPADDR, (addressFields range.address).2)]

/-- A part of a peer as the attributes of one entry: its fields, and the nested ranges. -/
def entryForest (entry : List Field × List AllowedRange) : Forest :=
  leaves entry.1 ++ .singleNest WGPEER_A_ALLOWEDIPS (nests (entry.2.map rangeForest))

/-- A dump message with the given peer entries, as the kernel writes it. -/
def dumpMessage (entries : List (List Field × List AllowedRange)) : Bytes :=
  [WG_CMD_GET_DEVICE, WG_GENL_VERSION, 0, 0]
    ++ (Forest.singleNest WGDEVICE_A_PEERS (nests (entries.map entryForest))).bytes

/-- Plain attributes are read back as the fields they were written from. -/
theorem leaves_attrs (fields : List Field) (plain : ∀ field ∈ fields, field.1 &&& 0x3FFF = field.1) :
    (leaves fields).attrs.map fieldOf = fields := by
  induction fields with
  | nil => rfl
  | cons field rest inductionHypothesis =>
    have tail := inductionHypothesis (fun other member => plain other (by simp [member]))
    change fieldOf ⟨field.1, field.2⟩ :: (leaves rest).attrs.map fieldOf = _
    rw [tail, fieldOf, attrKind, plain field (by simp)]

/-- Nested attributes are walked in order, and each payload is short when the list is. -/
theorem nests_walked {α : Type} (items : List α) (forest : α → Forest) (holds : α → Attr → Prop)
    (each : ∀ item ∈ items, (forest item).bytes.length < 65536 →
      holds item ⟨Forest.nestedType 0, (forest item).bytes⟩)
    (short : (nests (items.map forest)).bytes.length < 65536) :
    List.Forall₂ holds items (walk (nests (items.map forest)).bytes) := by
  rw [Forest.walk_bytes _ (Forest.fits_of_length _ short)]
  induction items with
  | nil => exact .nil
  | cons item rest inductionHypothesis =>
    have size : (nests ((item :: rest).map forest)).bytes.length =
        4 + (forest item).bytes.length + (nests (rest.map forest)).bytes.length := by
      change (attrBytes _ _ ++ (nests (rest.map forest)).bytes).length = _
      rw [List.length_append, Forest.nest_bytes_length]
    exact .cons (each item (by simp) (by omega)) (inductionHypothesis
      (fun other member => each other (by simp [member])) (by omega))

/-- The attributes of a range are an entry for it. -/
theorem range_forest_entry (range : AllowedRange) (short : (rangeForest range).bytes.length < 65536) :
    RangeEntry range ⟨Forest.nestedType 0, (rangeForest range).bytes⟩ := by
  have fields := leaves_attrs [(WGALLOWEDIP_A_CIDR_MASK, [range.mask]),
    (WGALLOWEDIP_A_FAMILY, littleEndian 2 (addressFields range.address).1.toNat),
    (WGALLOWEDIP_A_IPADDR, (addressFields range.address).2)] (by simp +decide)
  have order : (walk (rangeForest range).bytes).map fieldOf =
      [(WGALLOWEDIP_A_CIDR_MASK, [range.mask]),
        (WGALLOWEDIP_A_FAMILY, littleEndian 2 (addressFields range.address).1.toNat),
        (WGALLOWEDIP_A_IPADDR, (addressFields range.address).2)] := by
    rw [Forest.walk_bytes _ (Forest.fits_of_length _ short)]
    exact fields
  simp only [RangeEntry]
  rw [order]
  exact List.mem_cons_self

/-- Those of a part of a peer are an entry for that part. -/
theorem entry_forest_entry (entry : List Field × List AllowedRange)
    (plain : ∀ field ∈ entry.1, field.1 &&& 0x3FFF = field.1)
    (short : (entryForest entry).bytes.length < 65536) :
    PeerEntry entry.1 entry.2 ⟨Forest.nestedType 0, (entryForest entry).bytes⟩ := by
  have inner : (nests (entry.2.map rangeForest)).bytes.length < 65536 := by
    have nested := Forest.nest_bytes_length WGPEER_A_ALLOWEDIPS (nests (entry.2.map rangeForest))
    rw [entryForest, Forest.bytes_append, List.length_append, Forest.singleNest, Forest.bytes,
      List.length_append, nested] at short
    omega
  refine ⟨some (nests (entry.2.map rangeForest)).bytes, ?_, ?_⟩
  · have fields := leaves_attrs entry.1 plain
    have kind : Forest.nestedType WGPEER_A_ALLOWEDIPS &&& 0x3FFF = WGPEER_A_ALLOWEDIPS := by decide
    rw [Forest.walk_bytes _ (Forest.fits_of_length _ short), entryForest, Forest.attrs_append,
      List.map_append, fields]
    simp [Forest.singleNest, Forest.attrs, fieldOf, attrKind, kind]
  · exact nests_walked entry.2 rangeForest RangeEntry (fun range _ => range_forest_entry range) inner

/-- A message as the kernel writes it carries its entries, as long as it is short enough
for their lengths. -/
theorem dump_message_carries (entries : List (List Field × List AllowedRange))
    (plain : ∀ entry ∈ entries, ∀ field ∈ entry.1, field.1 &&& 0x3FFF = field.1)
    (short : (dumpMessage entries).length < 65536) :
    List.Forall₂ (fun entry attr => PeerEntry entry.1 entry.2 attr) entries
      (peerEntries (dumpMessage entries)) := by
  have nested := Forest.nest_bytes_length WGDEVICE_A_PEERS (nests (entries.map entryForest))
  have size : (dumpMessage entries).length = 8 + (nests (entries.map entryForest)).bytes.length := by
    rw [dumpMessage, List.length_append, Forest.singleNest, Forest.bytes, List.length_append, nested]
    simp [Forest.bytes]
    omega
  have fits : (Forest.singleNest WGDEVICE_A_PEERS (nests (entries.map entryForest))).Fits :=
    ⟨by omega, trivial⟩
  have carried : peerEntries (dumpMessage entries) = walk (nests (entries.map entryForest)).bytes := by
    have kind : Forest.nestedType WGDEVICE_A_PEERS &&& 0x3FFF = WGDEVICE_A_PEERS := by decide
    have rest : (dumpMessage entries).drop 4 =
        (Forest.singleNest WGDEVICE_A_PEERS (nests (entries.map entryForest))).bytes := rfl
    rw [peerEntries, rest, Forest.walk_bytes _ fits]
    simp [Forest.singleNest, Forest.attrs, attrKind, kind]
  rw [carried]
  exact nests_walked entries entryForest (fun entry attr => PeerEntry entry.1 entry.2 attr)
    (fun entry member => entry_forest_entry entry (plain entry member)) (by omega)

/-- A peer with two ranges, cut into an empty first slice and two further ones. -/
def splitCut : Cut where
  peer := {
    publicKey := List.Vector.replicate kKeyLen 1, presharedKey := some (List.Vector.replicate kKeyLen 0)
    endpoint := some (.in4 51820 ⟨[127, 0, 0, 1], rfl⟩), persistentKeepaliveInterval := 25
    lastHandshakeTime := (0, 0), receiveBytes := 7, transmitBytes := 9, protocolVersion := 1
    allowedIPs := [⟨.v4 ⟨[10, 0, 0, 2], rfl⟩, 32⟩, ⟨.v6 (List.Vector.replicate 16 0), 0⟩] }
  first := []
  further := [[⟨.v4 ⟨[10, 0, 0, 2], rfl⟩, 32⟩], [⟨.v6 (List.Vector.replicate 16 0), 0⟩]]
  whole := rfl

/-- A peer without ranges. -/
def plainCut : Cut where
  peer := {
    publicKey := List.Vector.replicate kKeyLen 2, presharedKey := none, endpoint := none
    persistentKeepaliveInterval := 0, lastHandshakeTime := (0, 0), receiveBytes := 0
    transmitBytes := 0, protocolVersion := 1, allowedIPs := [] }
  first := []
  further := []
  whole := rfl

/-- The first peer's entries lie in two messages, the second of which also holds the
other peer. -/
theorem split_dump_reassembled :
    ([dumpMessage (splitCut.entries.take 1),
        dumpMessage (splitCut.entries.drop 1 ++ plainCut.entries)].foldl
        (parseDeviceMessage plainInet zeroed) {}).peers =
      [showPeer plainInet splitCut.peer splitCut.peer.allowedIPs,
        showPeer plainInet plainCut.peer plainCut.peer.allowedIPs] := by
  have firstCarried := dump_message_carries (splitCut.entries.take 1) (by decide) (by decide +kernel)
  have secondCarried := dump_message_carries (splitCut.entries.drop 1 ++ plainCut.entries)
    (by decide) (by decide +kernel)
  have packed := List.rel_append firstCarried (List.rel_append secondCarried .nil)
  exact dump_reassembled plainInet zeroed [splitCut, plainCut] _ {} rfl (by decide) packed

end Encoded

end NodeWireguard.DumpReassembly
