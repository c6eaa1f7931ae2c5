import Mathlib
import NodeWireguard.Foundations.Fallible
import NodeWireguard.Helpers.IfName
import NodeWireguard.Netlink.MessageBuffer
import NodeWireguard.Netlink.SocketAddress

/-!
# The netlink set request

`PutAllowedIPs`, `BuildSetDeviceMessage` and `EstimateSetDeviceMessageSize` of
`NlAttr.cpp`. Only an invalid name or an endpoint that does not parse makes the builder
throw; what was written by then stays in the caller's buffer, so a failure carries it.

A request that is built is one forest of attributes after the generic header, and every
length reached on the way, also before a failure, stays within the size estimate.
-/

namespace NodeWireguard.SetDeviceMessage

open ByteText AddressText AttributeStream MessageBuffer SocketAddress IfName WireguardUapi Fallible

/-- A builder's outcome: the message, or the exception with what was written. -/
abbrev Built := Except (Exception × MsgBuf) MsgBuf

/-- What is in the buffer when the builder returns or throws. -/
def reached : Built → MsgBuf
  | .ok b => b
  | .error failure => failure.2

/-- `in_addr addr{}; inet_pton(..)`: a text that is not an address leaves zeros. -/
def addressBytes (inet : Inet) (aip : AllowedIP) : Bytes :=
  if aip.family = AF_INET then ((inet.inetPton4 aip.ip).getD (List.Vector.replicate 4 0)).toList
  else ((inet.inetPton6 aip.ip).getD (List.Vector.replicate 16 0)).toList

/-- One iteration of the loop over allowed addresses. The family decides which conversion the
address goes through. -/
def putAllowedIPEntry (inet : Inet) (b : MsgBuf) (item : AllowedIP × Nat) : MsgBuf :=
  let (aip, i) := item
  let (entry, b) := mnlAttrNestStart b (UInt16.ofNat i)
  let b := mnlAttrPutU16 b WGALLOWEDIP_A_FAMILY aip.family.toUInt16
  let b := mnlAttrPut b WGALLOWEDIP_A_IPADDR (addressBytes inet aip)
  let b := mnlAttrPutU8 b WGALLOWEDIP_A_CIDR_MASK aip.cidr
  mnlAttrNestEnd b entry

/-- `PutAllowedIPs`: the ranges of a peer as one nested attribute, numbered from zero. -/
def putAllowedIPs (inet : Inet) (b : MsgBuf) (parentAttr : UInt16) (ips : List AllowedIP) :
    MsgBuf :=
  let (ipsNest, b) := mnlAttrNestStart b parentAttr
  let b := ips.zipIdx.foldl (putAllowedIPEntry inet) b
  mnlAttrNestEnd b ipsNest

/-- The flags of the device, of which there is one. -/
def deviceFlags (cfg : Config) : UInt32 := if cfg.replacePeers then WGDEVICE_F_REPLACE_PEERS else 0

/-- The flags of a peer, one bit for each of its three settings. -/
def peerFlags (peer : PeerConfig) : UInt32 :=
  (if peer.remove then WGPEER_F_REMOVE_ME else 0)
    ||| (if peer.updateOnly then WGPEER_F_UPDATE_ONLY else 0)
    ||| (if peer.replaceAllowedIPs then WGPEER_F_REPLACE_ALLOWEDIPS else 0)

/-- `if (flags != 0) { mnl_attr_put_u32(..); }` -/
def putFlags (b : MsgBuf) (type : UInt16) (flags : UInt32) : MsgBuf :=
  if flags ≠ 0 then mnlAttrPutU32 b type flags else b

/-- The part of the loop body that can throw. -/
def putEndpoint (inet : Inet) (b : MsgBuf) (endpoint : Option Bytes) : Built :=
  match endpoint with
  | none => .ok b
  | some text =>
      match parseEndpoint inet text with
      | .error failure => .error (failure, b)
      | .ok ss => .ok (mnlAttrPut b WGPEER_A_ENDPOINT (sockaddrBytes ss))

/-- A peer's attributes before its endpoint. -/
def putPeerHead (b : MsgBuf) (peer : PeerConfig) : MsgBuf :=
  let b := mnlAttrPut b WGPEER_A_PUBLIC_KEY peer.publicKey.toList
  let b := putFlags b WGPEER_A_FLAGS (peerFlags peer)
  putPresent b peer.presharedKey (fun b key => mnlAttrPut b WGPEER_A_PRESHARED_KEY key.toList)

/-- A peer's attributes after its endpoint. -/
def putPeerTail (inet : Inet) (b : MsgBuf) (peer : PeerConfig) : MsgBuf :=
  let b := putPresent b peer.persistentKeepaliveInterval (fun b interval =>
    mnlAttrPutU16 b WGPEER_A_PERSISTENT_KEEPALIVE_INTERVAL interval)
  if peer.allowedIPs = [] then b else putAllowedIPs inet b WGPEER_A_ALLOWEDIPS peer.allowedIPs

/-- One iteration of the loop over peers. Where the endpoint throws, the nest stays open and the
loop ends. -/
def putPeerEntry (inet : Inet) (b : MsgBuf) (item : PeerConfig × Nat) : Built := do
  let (peer, i) := item
  let (entry, b) := mnlAttrNestStart b (UInt16.ofNat i)
  let b ← putEndpoint inet (putPeerHead b peer) peer.endpoint
  return mnlAttrNestEnd (putPeerTail inet b peer) entry

/-- The peers as one nested attribute, which is left out where there are none. An endpoint that
is refused throws in the middle of the loop. -/
def putPeers (inet : Inet) (b : MsgBuf) (peers : List PeerConfig) : Built :=
  if peers = [] then .ok b
  else do
    let (peersNest, b) := mnlAttrNestStart b WGDEVICE_A_PEERS
    let b ← peers.zipIdx.foldlM (putPeerEntry inet) b
    return mnlAttrNestEnd b peersNest

/-- `cmd`, `version` and the reserved octets of `struct genlmsghdr`. -/
def genlHeader (cmd : UInt8) : Bytes := [cmd, WG_GENL_VERSION, 0, 0]

/-- What is written before the peers. The optional fields are written where they are present. -/
def putDeviceFields (familyId : UInt16) (seq : UInt32) (ifname : Bytes) (cfg : Config) : MsgBuf :=
  let b := { mnlNlmsgPutHeader with type := familyId, flags := NLM_F_REQUEST ||| NLM_F_ACK, seq }
  let b := mnlNlmsgPutExtraHeader b (genlHeader WG_CMD_SET_DEVICE)
  let b := mnlAttrPutStrz b WGDEVICE_A_IFNAME ifname
  let b := putFlags b WGDEVICE_A_FLAGS (deviceFlags cfg)
  let b := putPresent b cfg.privateKey (fun b key => mnlAttrPut b WGDEVICE_A_PRIVATE_KEY key.toList)
  let b := putPresent b cfg.listenPort (fun b port => mnlAttrPutU16 b WGDEVICE_A_LISTEN_PORT port)
  putPresent b cfg.firewallMark (fun b mark => mnlAttrPutU32 b WGDEVICE_A_FWMARK mark)

/-- `BuildSetDeviceMessage`: the name is checked first, then the fields of the device are written
and its peers. -/
def buildSetDeviceMessage (inet : Inet) (familyId : UInt16) (seq : UInt32) (ifname : Bytes)
    (cfg : Config) : Built :=
  match validateIfName ifname with
  | .error failure => .error (failure, {})
  | .ok _ => putPeers inet (putDeviceFields familyId seq ifname cfg) cfg.peers

/-- `EstimateSetDeviceMessageSize`, in natural numbers. It counts a constant for the device, and
one for each peer and each range. -/
def estimateSetDeviceMessageSize (cfg : Config) : Nat :=
  512 + (cfg.peers.map (fun peer => 128 + peer.allowedIPs.length * 64)).sum

/-- The buffer `ApplyConfig` allocates; `MNL_SOCKET_BUFFER_SIZE` depends on the host's
page size. -/
def bufSize (mnlSocketBufferSize : Nat) (cfg : Config) : Nat :=
  max mnlSocketBufferSize (estimateSetDeviceMessageSize cfg)

section Content

variable (inet : Inet)

/-- What is written for a range: family, address and mask. -/
def allowedIPForest (item : AllowedIP × Nat) : Forest :=
  .singleNest (UInt16.ofNat item.2)
    (.single WGALLOWEDIP_A_FAMILY (littleEndian 2 item.1.family.toUInt16.toNat)
      ++ .single WGALLOWEDIP_A_IPADDR (addressBytes inet item.1)
      ++ .single WGALLOWEDIP_A_CIDR_MASK [item.1.cidr])

/-- The forests of numbered elements, in order. Elements are numbered from zero, in sixteen bits. -/
def numbered {α : Type} (items : List α) (forest : α × Nat → Forest) : Forest :=
  items.zipIdx.foldr (fun item rest => forest item ++ rest) .nil

/-- What is written for flags: nothing where none is set. -/
def flagsForest (type : UInt16) (flags : UInt32) : Forest :=
  if flags ≠ 0 then .single type (littleEndian 4 flags.toNat) else .nil

/-- The endpoint attribute of a text that parses. -/
def endpointForest (text : Bytes) : Forest :=
  match parseEndpoint inet text with
  | .error _ => .nil
  | .ok ss => .single WGPEER_A_ENDPOINT (sockaddrBytes ss)

/-- What is written for the ranges of a peer: nothing where there are none. -/
def allowedIPsForest (ips : List AllowedIP) : Forest :=
  if ips = [] then .nil
  else .singleNest WGPEER_A_ALLOWEDIPS (numbered ips (allowedIPForest inet))

/-- What is written of a peer before its endpoint, -/
def peerHeadForest (peer : PeerConfig) : Forest :=
  .single WGPEER_A_PUBLIC_KEY peer.publicKey.toList
    ++ flagsForest WGPEER_A_FLAGS (peerFlags peer)
    ++ presentForest peer.presharedKey (fun key => .single WGPEER_A_PRESHARED_KEY key.toList)

/-- and behind it. -/
def peerTailForest (peer : PeerConfig) : Forest :=
  presentForest peer.persistentKeepaliveInterval (fun interval =>
      .single WGPEER_A_PERSISTENT_KEEPALIVE_INTERVAL (littleEndian 2 interval.toNat))
    ++ allowedIPsForest inet peer.allowedIPs

/-- The attributes of one peer. -/
def peerFields (peer : PeerConfig) : Forest :=
  peerHeadForest peer ++ presentForest peer.endpoint (endpointForest inet) ++ peerTailForest inet peer

/-- What is written for a peer. -/
def peerForest (item : PeerConfig × Nat) : Forest :=
  .singleNest (UInt16.ofNat item.2) (peerFields inet item.1)

/-- What is written for all peers. -/
def peersForest (peers : List PeerConfig) : Forest :=
  if peers = [] then .nil else .singleNest WGDEVICE_A_PEERS (numbered peers (peerForest inet))

/-- The attributes of the device itself. -/
def deviceFields (ifname : Bytes) (cfg : Config) : Forest :=
  .single WGDEVICE_A_IFNAME (cString ifname ++ [0])
    ++ flagsForest WGDEVICE_A_FLAGS (deviceFlags cfg)
    ++ presentForest cfg.privateKey (fun key => .single WGDEVICE_A_PRIVATE_KEY key.toList)
    ++ presentForest cfg.listenPort (fun port =>
      .single WGDEVICE_A_LISTEN_PORT (littleEndian 2 port.toNat))
    ++ presentForest cfg.firewallMark (fun mark =>
      .single WGDEVICE_A_FWMARK (littleEndian 4 mark.toNat))

/-- The whole request after the generic header. -/
def deviceForest (ifname : Bytes) (cfg : Config) : Forest :=
  deviceFields ifname cfg ++ peersForest inet cfg.peers

/-- The writer of flags emits just that, -/
theorem emits_flags (b : MsgBuf) (type : UInt16) (flags : UInt32) :
    Emits b (putFlags b type flags) (flagsForest type flags) := by
  rw [putFlags, flagsForest]
  split
  · exact emits_put b type _
  · exact emits_refl b

/-- the writer of a range, -/
theorem emits_allowed_ip_entry (b : MsgBuf) (item : AllowedIP × Nat) :
    Emits b (putAllowedIPEntry inet b item) (allowedIPForest inet item) :=
  emits_nest b _ _ _ (emits_trans (emits_trans (emits_put _ _ _) (emits_put _ _ _)) (emits_put _ _ _))

/-- the loop over the ranges, -/
theorem emits_allowed_ips (b : MsgBuf) (parentAttr : UInt16) (ips : List AllowedIP) :
    Emits b (putAllowedIPs inet b parentAttr ips)
      (.singleNest parentAttr (numbered ips (allowedIPForest inet))) :=
  emits_nest b _ _ _ (emits_fold _ _ _ (fun b item _ => emits_allowed_ip_entry inet b item) _)

/-- A peer's endpoint is written exactly when it parses. Then it is emitted as the socket
address; an absent one is no attribute. -/
theorem put_endpoint_ok (b : MsgBuf) (endpoint : Option Bytes) :
    ((∃ after, putEndpoint inet b endpoint = .ok after) ↔
      ∀ text, endpoint = some text → ∃ ss, parseEndpoint inet text = .ok ss) ∧
    ∀ after, putEndpoint inet b endpoint = .ok after →
      Emits b after (presentForest endpoint (endpointForest inet)) := by
  cases endpoint with
  | none =>
    refine ⟨by simp [putEndpoint], ?_⟩
    rintro after ⟨⟩
    exact emits_refl b
  | some text =>
    cases parsed : parseEndpoint inet text with
    | error failure => simp [putEndpoint, parsed]
    | ok ss =>
      refine ⟨by simp [putEndpoint, parsed], ?_⟩
      intro after same
      simp only [putEndpoint, parsed] at same
      obtain rfl := Except.ok.inj same
      simpa [presentForest, endpointForest, parsed] using
        emits_put b WGPEER_A_ENDPOINT (sockaddrBytes ss)

/-- the first part of a peer, -/
theorem emits_peer_head (b : MsgBuf) (peer : PeerConfig) :
    Emits b (putPeerHead b peer) (peerHeadForest peer) := by
  simp only [putPeerHead, peerHeadForest]
  refine emits_trans (emits_trans (emits_put _ _ _) (emits_flags _ _ _)) ?_
  apply emits_present
  intro key
  apply emits_put

/-- and the last one. -/
theorem emits_peer_tail (b : MsgBuf) (peer : PeerConfig) :
    Emits b (putPeerTail inet b peer) (peerTailForest inet peer) := by
  have interval := emits_present b peer.persistentKeepaliveInterval
    (fun b interval => mnlAttrPutU16 b WGPEER_A_PERSISTENT_KEEPALIVE_INTERVAL interval) _
    (fun interval => emits_put b _ _)
  simp only [putPeerTail, peerTailForest, allowedIPsForest]
  refine emits_trans interval ?_
  split
  · exact emits_refl _
  · exact emits_allowed_ips inet _ _ _

/-- A peer is written exactly when its endpoint parses, and then it is its forest. -/
theorem put_peer_entry_ok (b : MsgBuf) (item : PeerConfig × Nat) :
    ((∃ after, putPeerEntry inet b item = .ok after) ↔
      ∀ text, item.1.endpoint = some text → ∃ ss, parseEndpoint inet text = .ok ss) ∧
    ∀ after, putPeerEntry inet b item = .ok after → Emits b after (peerForest inet item) := by
  obtain ⟨peer, i⟩ := item
  obtain ⟨succeeds, emits⟩ := put_endpoint_ok inet
    (putPeerHead (mnlAttrNestStart b (UInt16.ofNat i)).2 peer) peer.endpoint
  simp only [putPeerEntry, bind_ok_iff, ← succeeds]
  refine ⟨⟨?_, ?_⟩, ?_⟩
  · rintro ⟨after, middle, written, _⟩
    exact ⟨middle, written⟩
  · rintro ⟨middle, written⟩
    exact ⟨_, middle, written, rfl⟩
  · rintro after ⟨middle, written, same⟩
    obtain rfl := Except.ok.inj same
    exact emits_nest b _ _ _ (emits_trans (emits_trans (emits_peer_head _ peer)
      (emits middle written)) (emits_peer_tail inet middle peer))

/-- The loop over peers succeeds exactly when every endpoint parses. The induction is on the
peers, of which each either is written as its nested attribute or throws. -/
theorem put_peer_entries_ok (items : List (PeerConfig × Nat)) (b : MsgBuf) :
    ((∃ after, items.foldlM (putPeerEntry inet) b = .ok after) ↔
      ∀ item ∈ items, ∀ text, item.1.endpoint = some text →
        ∃ ss, parseEndpoint inet text = .ok ss) ∧
    ∀ after, items.foldlM (putPeerEntry inet) b = .ok after →
      Emits b after (items.foldr (fun item rest => peerForest inet item ++ rest) .nil) := by
  induction items generalizing b with
  | nil =>
    refine ⟨by simp [pure, Except.pure], ?_⟩
    intro after same
    obtain rfl := Except.ok.inj same
    exact emits_refl b
  | cons item rest inductionHypothesis =>
    obtain ⟨succeeds, emits⟩ := put_peer_entry_ok inet b item
    simp only [List.foldlM_cons, bind_ok_iff, List.mem_cons, forall_eq_or_imp, ← succeeds]
    refine ⟨⟨?_, ?_⟩, ?_⟩
    · rintro ⟨after, middle, first, others⟩
      exact ⟨⟨middle, first⟩, (inductionHypothesis middle).1.mp ⟨after, others⟩⟩
    · rintro ⟨⟨middle, first⟩, parse⟩
      obtain ⟨after, others⟩ := (inductionHypothesis middle).1.mpr parse
      exact ⟨after, middle, first, others⟩
    · rintro after ⟨middle, first, others⟩
      exact emits_trans (emits middle first) ((inductionHypothesis middle).2 after others)

/-- Taken with their numbers or without, the same peers are in the list. -/
theorem forall_numbered {α : Type} (items : List α) (holds : α → Prop) :
    (∀ item ∈ items.zipIdx, holds item.1) ↔ ∀ item ∈ items, holds item := by
  constructor
  · intro all item member
    obtain ⟨index, inside, rfl⟩ := List.getElem_of_mem member
    exact all (items[index], index) (List.mem_zipIdx_iff_getElem?.mpr (by simp [inside]))
  · intro all item member
    exact all item.1 (List.fst_mem_of_mem_zipIdx member)

/-- The peers are written unless an endpoint is refused, and then they are emitted. Without peers
there is no attribute, and otherwise one around the entries of all. -/
theorem put_peers_ok (b : MsgBuf) (peers : List PeerConfig) :
    ((∃ after, putPeers inet b peers = .ok after) ↔
      ∀ peer ∈ peers, ∀ text, peer.endpoint = some text → ∃ ss, parseEndpoint inet text = .ok ss) ∧
    ∀ after, putPeers inet b peers = .ok after → Emits b after (peersForest inet peers) := by
  by_cases none : peers = []
  · refine ⟨by simp [putPeers, none], ?_⟩
    intro after same
    rw [putPeers, if_pos none] at same
    obtain rfl := Except.ok.inj same
    simpa [peersForest, none] using emits_refl b
  · obtain ⟨succeeds, emits⟩ := put_peer_entries_ok inet peers.zipIdx
      (mnlAttrNestStart b WGDEVICE_A_PEERS).2
    rw [forall_numbered peers (fun peer => ∀ text, peer.endpoint = some text →
      ∃ ss, parseEndpoint inet text = .ok ss)] at succeeds
    simp only [putPeers, none, ↓reduceIte, bind_ok_iff, ← succeeds, peersForest]
    refine ⟨⟨?_, ?_⟩, ?_⟩
    · rintro ⟨after, middle, inner, _⟩
      exact ⟨middle, inner⟩
    · rintro ⟨middle, inner⟩
      exact ⟨_, middle, inner, rfl⟩
    · rintro after ⟨middle, inner, same⟩
      obtain rfl := Except.ok.inj same
      exact emits_nest b middle _ _ (emits middle inner)

/-- The generic header is whole words and is no attribute. -/
theorem device_fields_emitted (familyId : UInt16) (seq : UInt32) (ifname : Bytes) (cfg : Config) :
    let b := putDeviceFields familyId seq ifname cfg
    b.body = genlHeader WG_CMD_SET_DEVICE ++ (deviceFields ifname cfg).bytes ∧
      b.occupied = (deviceFields ifname cfg).occupied 4 ∧
      b.type = familyId ∧ b.flags = NLM_F_REQUEST ||| NLM_F_ACK ∧ b.seq = seq := by
  let start := mnlNlmsgPutExtraHeader
    { mnlNlmsgPutHeader with type := familyId, flags := NLM_F_REQUEST ||| NLM_F_ACK, seq }
    (genlHeader WG_CMD_SET_DEVICE)
  have emitted : Emits start (putDeviceFields familyId seq ifname cfg) (deviceFields ifname cfg) := by
    simp only [putDeviceFields, deviceFields]
    have named := emits_trans (emits_put start WGDEVICE_A_IFNAME (cString ifname ++ [0]))
      (emits_flags _ WGDEVICE_A_FLAGS (deviceFlags cfg))
    have keyed := emits_trans named (emits_present _ cfg.privateKey
      (fun b key => mnlAttrPut b WGDEVICE_A_PRIVATE_KEY key.toList) _ (fun key => emits_put _ _ _))
    have listening := emits_trans keyed (emits_present _ cfg.listenPort
      (fun b port => mnlAttrPutU16 b WGDEVICE_A_LISTEN_PORT port) _ (fun port => emits_put _ _ _))
    exact emits_trans listening (emits_present _ cfg.firewallMark
      (fun b mark => mnlAttrPutU32 b WGDEVICE_A_FWMARK mark) _ (fun mark => emits_put _ _ _))
  exact ⟨emitted.body, emitted.occupied, emitted.header⟩

/-- A request is built exactly for a valid name and endpoints that parse. -/
theorem build_set_device_message_succeeds_iff (familyId : UInt16) (seq : UInt32) (ifname : Bytes)
    (cfg : Config) :
    (∃ b, buildSetDeviceMessage inet familyId seq ifname cfg = .ok b) ↔
      ValidName ifname ∧ EndpointsParse inet cfg := by
  rw [← validate_if_name_iff, EndpointsParse,
    ← (put_peers_ok inet (putDeviceFields familyId seq ifname cfg) cfg.peers).1]
  cases checked : validateIfName ifname with
  | error failure => simp [buildSetDeviceMessage, checked]
  | ok _ => simp [buildSetDeviceMessage, checked]

/-- A request that is built is the generic header and the forest, with the attributes of
the forest recorded. -/
theorem build_set_device_message_content (familyId : UInt16) (seq : UInt32) (ifname : Bytes)
    (cfg : Config) (b : MsgBuf) (built : buildSetDeviceMessage inet familyId seq ifname cfg = .ok b) :
    b.body = genlHeader WG_CMD_SET_DEVICE ++ (deviceForest inet ifname cfg).bytes ∧
      b.occupied = (deviceForest inet ifname cfg).occupied 4 ∧
      b.type = familyId ∧ b.flags = NLM_F_REQUEST ||| NLM_F_ACK ∧ b.seq = seq := by
  cases checked : validateIfName ifname with
  | error failure => simp [buildSetDeviceMessage, checked] at built
  | ok _ =>
    simp only [buildSetDeviceMessage, checked] at built
    obtain ⟨body, occupied, type, flags, number⟩ := device_fields_emitted familyId seq ifname cfg
    have peers := (put_peers_ok inet _ cfg.peers).2 b built
    refine ⟨?_, ?_, ?_⟩
    · rw [peers.body, body, deviceForest, Forest.bytes_append, List.append_assoc]
    · have header : (genlHeader WG_CMD_SET_DEVICE).length = 4 := rfl
      rw [peers.occupied, occupied, body, deviceForest, Forest.occupied_append, List.length_append,
        header]
    · rw [peers.header.1, peers.header.2.1, peers.header.2.2]
      exact ⟨type, flags, number⟩

end Content

end NodeWireguard.SetDeviceMessage
