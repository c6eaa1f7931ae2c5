import Mathlib
import NodeWireguard.Netlink.SetDeviceMessage

/-!
# The scratch buffer of a set request

`EstimateSetDeviceMessageSize` allows 512 octets for the headers and the device, 128 for
a peer and 64 for an allowed address. What is written for each of them, with headers and
padding, is at most 104, 128 and 40. A peer with every field and an IPv6 endpoint uses
its allowance exactly.

The bounds hold at every call of the builder, whether it returns or throws.
-/

namespace NodeWireguard.SetMessageSize

open ByteText AddressText AttributeStream MessageBuffer SocketAddress IfName SetDeviceMessage
  WireguardUapi

variable (inet : Inet)

/-- An attribute costs its header and its padded payload. -/
theorem grows_sized (b : MsgBuf) (type : UInt16) (data : Bytes) (budget : Nat)
    (size : 4 + align data.length = budget) : Grows b (mnlAttrPut b type data) budget :=
  size ▸ grows_put b type data

/-- Flags take eight octets. -/
theorem grows_flags (b : MsgBuf) (type : UInt16) (flags : UInt32) :
    Grows b (putFlags b type flags) 8 := by
  rw [putFlags]
  split
  · exact grows_sized b type _ 8 (by simp [align])
  · exact grows_weaken 8 (grows_refl b) (by decide)

/-- The octets of an address that is sent. -/
theorem address_bytes_length (aip : AllowedIP) :
    (addressBytes inet aip).length = if aip.family = AF_INET then 4 else 16 := by
  rw [addressBytes]
  split <;> simp

/-- An allowed address costs at most its nested header, family, IPv6 address and mask. -/
theorem grows_allowed_ip_entry (b : MsgBuf) (item : AllowedIP × Nat) :
    Grows b (putAllowedIPEntry inet b item) 40 := by
  have size : align (addressBytes inet item.1).length ≤ 16 := by
    rw [address_bytes_length]
    split <;> decide
  have family := grows_sized (mnlAttrNestStart b (UInt16.ofNat item.2)).2 WGALLOWEDIP_A_FAMILY
    (littleEndian 2 item.1.family.toUInt16.toNat) 8 (by simp [align])
  have address := grows_put (mnlAttrPutU16 (mnlAttrNestStart b (UInt16.ofNat item.2)).2
    WGALLOWEDIP_A_FAMILY item.1.family.toUInt16) WGALLOWEDIP_A_IPADDR (addressBytes inet item.1)
  have filled := grows_trans (grows_trans family address)
    (grows_sized _ WGALLOWEDIP_A_CIDR_MASK [item.1.cidr] 8 (by simp [align]))
  exact grows_weaken 40 (grows_nest b _ (UInt16.ofNat item.2) _ filled) (by omega)

/-- Ranges take forty octets each, and four around them. -/
theorem grows_allowed_ips (b : MsgBuf) (parentAttr : UInt16) (ips : List AllowedIP) :
    Grows b (putAllowedIPs inet b parentAttr ips) (4 + ips.length * 40) := by
  have filled := grows_fold ips.zipIdx (putAllowedIPEntry inet) 40 (grows_allowed_ip_entry inet)
    (mnlAttrNestStart b parentAttr).2
  rw [List.length_zipIdx] at filled
  exact grows_nest b _ parentAttr _ filled

/-- The outcome of a part that may throw is passed on with its own growth. -/
theorem grows_bind (b : MsgBuf) (part : Built) (next : MsgBuf → Built) (first second : Nat)
    (before : Grows b (reached part) first)
    (after : ∀ middle, part = .ok middle → Grows middle (reached (next middle)) second) :
    Grows b (reached (part >>= next)) (first + second) := by
  cases part with
  | error failure => exact grows_weaken _ before (Nat.le_add_right _ _)
  | ok middle => exact grows_trans before (after middle rfl)

/-- An endpoint takes at most 32, those of an IPv6 one. -/
theorem grows_endpoint (b : MsgBuf) (endpoint : Option Bytes) :
    Grows b (reached (putEndpoint inet b endpoint)) 32 := by
  cases endpoint with
  | none => exact grows_weaken 32 (grows_refl b) (by decide)
  | some text =>
    cases parsed : parseEndpoint inet text with
    | error failure =>
      simp only [putEndpoint, parsed, reached]
      exact grows_weaken 32 (grows_refl b) (by decide)
    | ok ss =>
      simp only [putEndpoint, parsed, reached]
      refine grows_weaken 32 (grows_put b _ (sockaddrBytes ss)) ?_
      rw [sockaddr_bytes_length]
      cases ss <;> simp [align]

/-- Key, flags and preshared key take eighty. -/
theorem grows_peer_head (b : MsgBuf) (peer : PeerConfig) : Grows b (putPeerHead b peer) 80 := by
  have key (b : MsgBuf) (type : UInt16) (key : Key) : Grows b (mnlAttrPut b type key.toList) 36 := by
    have size : key.toList.length = 32 := key.toList_length
    exact grows_sized b type _ 36 (by simp [size, align])
  have psk (b : MsgBuf) := grows_present b peer.presharedKey
    (fun b key => mnlAttrPut b WGPEER_A_PRESHARED_KEY key.toList) 36 (fun content => key b _ content)
  exact grows_trans (grows_trans (key b _ peer.publicKey) (grows_flags _ _ _)) (psk _)

/-- The interval takes eight, and then come the ranges. -/
theorem grows_peer_tail (b : MsgBuf) (peer : PeerConfig) :
    Grows b (putPeerTail inet b peer) (12 + peer.allowedIPs.length * 40) := by
  have interval := grows_present b peer.persistentKeepaliveInterval
    (fun b interval => mnlAttrPutU16 b WGPEER_A_PERSISTENT_KEEPALIVE_INTERVAL interval) 8
    (fun interval => grows_sized b _ (littleEndian 2 interval.toNat) 8 (by simp [align]))
  simp only [putPeerTail]
  split
  · exact grows_weaken _ interval (by omega)
  · exact grows_weaken _ (grows_trans interval (grows_allowed_ips inet _ _ _)) (by omega)

/-- A peer costs at most its allowance, also when its endpoint is refused. What was written
before the exception is within it, too; the ranges add sixty-four for each, of which forty are
used. -/
theorem grows_peer_entry (b : MsgBuf) (item : PeerConfig × Nat) :
    Grows b (reached (putPeerEntry inet b item)) (128 + item.1.allowedIPs.length * 64) := by
  obtain ⟨peer, i⟩ := item
  let opened := (mnlAttrNestStart b (UInt16.ofNat i)).2
  have head := grows_trans (grows_peer_head opened peer)
    (grows_endpoint inet (putPeerHead opened peer) peer.endpoint)
  cases written : putEndpoint inet (putPeerHead opened peer) peer.endpoint with
  | error failure =>
    rw [written] at head
    have opening : Grows b opened 4 := by apply grows_call <;> simp
    have outcome : putPeerEntry inet b (peer, i) = .error failure := by
      simp only [putPeerEntry]
      change putEndpoint inet (putPeerHead opened peer) peer.endpoint >>= _ = _
      rw [written]
      rfl
    rw [outcome]
    exact grows_weaken _ (grows_trans opening head) (by omega)
  | ok middle =>
    rw [written] at head
    have outcome : putPeerEntry inet b (peer, i) =
        .ok (mnlAttrNestEnd (putPeerTail inet middle peer) (mnlAttrNestStart b (UInt16.ofNat i)).1) := by
      simp only [putPeerEntry]
      change putEndpoint inet (putPeerHead opened peer) peer.endpoint >>= _ = _
      rw [written]
      rfl
    rw [outcome]
    exact grows_weaken _ (grows_nest b _ _ _ (grows_trans head (grows_peer_tail inet middle peer)))
      (by simp only; omega)

/-- The loop over peers costs at most the allowances of the peers it reached. -/
theorem grows_peer_entries (items : List (PeerConfig × Nat)) (b : MsgBuf) :
    Grows b (reached (items.foldlM (putPeerEntry inet) b))
      (items.map (fun item => 128 + item.1.allowedIPs.length * 64)).sum := by
  induction items generalizing b with
  | nil => exact grows_refl b
  | cons item rest inductionHypothesis =>
    rw [List.foldlM_cons, List.map_cons, List.sum_cons]
    exact grows_bind b _ _ _ _ (grows_peer_entry inet b item) (fun middle _ =>
      inductionHypothesis middle)

/-- So the peers stay within what the estimate counts for each of them. The induction is on the
peers, and a refused one ends the loop with the nest still open. -/
theorem grows_peers (b : MsgBuf) (peers : List PeerConfig) :
    Grows b (reached (putPeers inet b peers))
      (4 + (peers.map (fun peer => 128 + peer.allowedIPs.length * 64)).sum) := by
  have unnumbered : (peers.zipIdx.map (fun item => 128 + item.1.allowedIPs.length * 64)).sum =
      (peers.map (fun peer => 128 + peer.allowedIPs.length * 64)).sum := by
    conv_rhs => rw [← List.zipIdx_map_fst 0 peers, List.map_map]
    rfl
  rw [putPeers]
  split
  · exact grows_weaken _ (grows_refl b) (Nat.zero_le _)
  · have entries := grows_peer_entries inet peers.zipIdx (mnlAttrNestStart b WGDEVICE_A_PEERS).2
    rw [unnumbered] at entries
    change Grows b (reached (peers.zipIdx.foldlM (putPeerEntry inet)
      (mnlAttrNestStart b WGDEVICE_A_PEERS).2 >>= fun inner =>
        Except.ok (mnlAttrNestEnd inner (mnlAttrNestStart b WGDEVICE_A_PEERS).1))) _
    cases written : peers.zipIdx.foldlM (putPeerEntry inet) (mnlAttrNestStart b WGDEVICE_A_PEERS).2 with
    | error failure =>
      rw [written] at entries
      have opening : Grows b (mnlAttrNestStart b WGDEVICE_A_PEERS).2 4 := by
        apply grows_call <;> simp
      exact grows_trans opening entries
    | ok inner =>
      rw [written] at entries
      exact grows_nest b inner _ _ entries

/-- The headers and the device fields, for a name that is valid. A valid name has at most fifteen
octets, and the keys and numbers have fixed sizes, so all of them are within the constant of the
estimate. -/
theorem device_fields_size (familyId : UInt16) (seq : UInt32) (ifname : Bytes) (cfg : Config)
    (valid : ValidName ifname) :
    (putDeviceFields familyId seq ifname cfg).nlmsgLen ≤ 100 ∧
      Recorded (putDeviceFields familyId seq ifname cfg) := by
  let headed : MsgBuf :=
    { mnlNlmsgPutHeader with type := familyId, flags := NLM_F_REQUEST ||| NLM_F_ACK, seq }
  have start : Recorded headed := by
    intro length member
    obtain rfl : length = 16 := by simpa [headed, mnlNlmsgPutHeader, MsgBuf.call, nlmsgHdrLen] using member
    exact le_rfl
  have generic : Grows headed (mnlNlmsgPutExtraHeader headed (genlHeader WG_CMD_SET_DEVICE)) 4 := by
    apply grows_call
    · simp
    · simp [genlHeader, padding, align]
  have named (b : MsgBuf) : Grows b (mnlAttrPutStrz b WGDEVICE_A_IFNAME ifname) 20 := by
    refine grows_weaken 20 (grows_put b _ (cString ifname ++ [0])) ?_
    have short := valid.short
    rw [c_string_valid ifname valid, List.length_append, List.length_singleton, align]
    omega
  have key (b : MsgBuf) := grows_present b cfg.privateKey
    (fun b key => mnlAttrPut b WGDEVICE_A_PRIVATE_KEY key.toList) 36 (fun key => by
      have size : key.toList.length = 32 := key.toList_length
      exact grows_sized b _ _ 36 (by simp [size, align]))
  have port (b : MsgBuf) := grows_present b cfg.listenPort
    (fun b port => mnlAttrPutU16 b WGDEVICE_A_LISTEN_PORT port) 8
    (fun port => grows_sized b _ (littleEndian 2 port.toNat) 8 (by simp [align]))
  have mark (b : MsgBuf) := grows_present b cfg.firewallMark
    (fun b mark => mnlAttrPutU32 b WGDEVICE_A_FWMARK mark) 8
    (fun mark => grows_sized b _ (littleEndian 4 mark.toNat) 8 (by simp [align]))
  have whole := grows_trans (grows_trans (grows_trans (grows_trans (grows_trans generic (named _))
    (grows_flags _ WGDEVICE_A_FLAGS (deviceFlags cfg))) (key _)) (port _)) (mark _)
  refine ⟨?_, whole.recorded start⟩
  have total := whole.atMost
  have empty : headed.body.length = 0 := rfl
  change 16 + (putDeviceFields familyId seq ifname cfg).body.length ≤ 100
  change (putDeviceFields familyId seq ifname cfg).body.length ≤ _ at total
  omega

/-- Whatever the builder is given and however it ends, no length it reaches exceeds the
estimate, nor the buffer that is allocated from it.

Proof: each writing function is given a budget, and budgets add up over what is written in turn.
The induction for the ranges is inside the one for the peers, and both cover a loop that an
exception leaves in the middle. Every length that was noted on the way is within the last one,
which the budgets bound by the estimate. -/
theorem set_message_within_estimate (familyId : UInt16) (seq : UInt32) (ifname : Bytes)
    (cfg : Config) (mnlSocketBufferSize : Nat) :
    let b := reached (buildSetDeviceMessage inet familyId seq ifname cfg)
    ∀ length ∈ b.nlmsgLen :: b.written,
      length ≤ estimateSetDeviceMessageSize cfg ∧ length ≤ bufSize mnlSocketBufferSize cfg := by
  intro b length member
  have bound : length ≤ estimateSetDeviceMessageSize cfg := by
    cases checked : validateIfName ifname with
    | error failure =>
      have nothing : b = {} := by simp [b, buildSetDeviceMessage, checked, reached]
      obtain rfl : length = 16 := by simpa [nothing, MsgBuf.nlmsgLen, nlmsgHdrLen] using member
      simp only [estimateSetDeviceMessageSize]
      omega
    | ok _ =>
      have outcome : b = reached (putPeers inet (putDeviceFields familyId seq ifname cfg) cfg.peers) := by
        simp only [b, buildSetDeviceMessage, checked]
      obtain ⟨fields, recorded⟩ := device_fields_size familyId seq ifname cfg
        ((validate_if_name_iff ifname).mp checked)
      have peers := grows_peers inet (putDeviceFields familyId seq ifname cfg) cfg.peers
      rw [← outcome] at peers
      have within : length ≤ b.nlmsgLen := by
        rcases List.mem_cons.mp member with rfl | noted
        · exact le_rfl
        · exact peers.recorded recorded length noted
      have total := peers.atMost
      simp only [MsgBuf.nlmsgLen, estimateSetDeviceMessageSize] at fields within ⊢
      omega
  exact ⟨bound, le_trans bound (le_max_right _ _)⟩

end NodeWireguard.SetMessageSize
