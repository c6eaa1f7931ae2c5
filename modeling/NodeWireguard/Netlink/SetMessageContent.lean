import Mathlib
import NodeWireguard.Netlink.AddressForms
import NodeWireguard.Netlink.SetMessageReading

/-!
# When a set request is well formed

The lengths stored in a request have sixteen bits, and libmnl keeps the low ones. The
attribute that holds all peers is the first to outgrow them: while it fits, every length
in the message is the number of octets really occupied, and the attribute walk yields
what the configuration asks for. As soon as it does not, a stored length is wrong.

Nothing in the builder or its caller checks that size, and the request is never split.
-/

namespace NodeWireguard.SetMessageContent

open ByteText AddressText AddressForms AttributeStream SocketAddress IfName Key JsValues
  ConfigFromJs SetDeviceMessage SetMessageSize SetMessageReading DeviceSettings WireguardUapi
  MessageBuffer

/-- Octets of an allowed-address entry. -/
def allowedIPSize (aip : AllowedIP) : Nat := if aip.family = AF_INET then 28 else 40

/-- Octets of the endpoint attribute of a text that parses. -/
def endpointSize (text : Bytes) : Nat := if text.head? = some (byte '[') then 32 else 20

/-- Octets of a peer entry: its header and key, then what is present. -/
def peerSize (peer : PeerConfig) : Nat :=
  40 + (if peer.remove || peer.updateOnly || peer.replaceAllowedIPs then 8 else 0)
    + (if peer.presharedKey.isSome then 36 else 0)
    + (peer.endpoint.map endpointSize).getD 0
    + (if peer.persistentKeepaliveInterval.isSome then 8 else 0)
    + (if peer.allowedIPs = [] then 0 else 4 + (peer.allowedIPs.map allowedIPSize).sum)

/-- Octets of the attribute that holds all peers. -/
def peersSize (cfg : Config) : Nat :=
  if cfg.peers = [] then 0 else 4 + (cfg.peers.map peerSize).sum

section Sizes

variable (inet : Inet)

/-- A numbered list occupies its entries, each with a header. -/
theorem numbered_length {α : Type} (items : List α) (fields : α → Forest) :
    (numbered items (fun item => .singleNest (UInt16.ofNat item.2) (fields item.1))).bytes.length =
      (items.map (fun item => 4 + (fields item).bytes.length)).sum := by
  have walked (start : Nat) (rest : List α) :
      ((rest.zipIdx start).foldr (fun item others =>
        Forest.singleNest (UInt16.ofNat item.2) (fields item.1) ++ others) .nil).bytes.length =
          (rest.map (fun item => 4 + (fields item).bytes.length)).sum := by
    induction rest generalizing start with
    | nil => rfl
    | cons item rest inductionHypothesis =>
      simp only [List.zipIdx_cons, List.foldr_cons, Forest.bytes_append, List.length_append,
        single_nest_bytes_length, inductionHypothesis, List.map_cons, List.sum_cons]
  exact walked 0 items

/-- An accepted endpoint has the size its first character announces. An opening bracket announces
IPv6, whose socket address is larger; every other accepted text is IPv4. -/
theorem endpoint_size_parsed (text : Bytes) (ss : SockAddr)
    (parsed : parseEndpoint inet text = .ok ss) :
    (endpointForest inet text).bytes.length = endpointSize text := by
  have family : (sockaddrBytes ss).length = if text.head? = some (byte '[') then 28 else 16 := by
    unfold parseEndpoint at parsed
    rw [sockaddr_bytes_length]
    split at parsed
    · split at parsed
      · cases parsed
      · split at parsed
        · cases parsed
        · obtain ⟨port, _, rest⟩ := (Fallible.bind_ok_iff _ _ _).mp parsed
          split at rest
          · cases rest
          · obtain rfl := Except.ok.inj rest
            simp [*]
    · split at parsed
      · cases parsed
      · obtain ⟨port, _, rest⟩ := (Fallible.bind_ok_iff _ _ _).mp parsed
        split at rest
        · cases rest
        · obtain rfl := Except.ok.inj rest
          simp [*]
  simp only [endpointForest, parsed, single_bytes_length, family, endpointSize]
  split <;> simp [align]

/-- The octets of the ranges are those of their entries and one header. -/
theorem allowed_ips_length (ips : List AllowedIP) :
    (allowedIPsForest inet ips).bytes.length =
      if ips = [] then 0 else 4 + (ips.map allowedIPSize).sum := by
  rw [allowedIPsForest]
  split
  · rfl
  · have entries := numbered_length ips (rangeFields inet)
    change (numbered ips (allowedIPForest inet)).bytes.length = _ at entries
    have sizes : ips.map (fun aip => 4 + (rangeFields inet aip).bytes.length) =
        ips.map allowedIPSize := by
      apply List.map_congr_left
      intro aip _
      rw [range_fields_length, allowedIPSize]
      split <;> rfl
    rw [single_nest_bytes_length, entries, sizes]

/-- A peer whose endpoint parses occupies its size. The parts are added up: key, flags, preshared
key, endpoint and interval have fixed sizes where they are present, and the ranges those of their
families. -/
theorem peer_fields_length (peer : PeerConfig) (endpoint : ∀ text, peer.endpoint = some text →
    ∃ ss, parseEndpoint inet text = .ok ss) :
    4 + (peerFields inet peer).bytes.length = peerSize peer := by
  have key (key : Key) : key.toList.length = 32 := key.toList_length
  have flags : (flagsForest WGPEER_A_FLAGS (peerFlags peer)).bytes.length =
      if peer.remove || peer.updateOnly || peer.replaceAllowedIPs then 8 else 0 := by
    have size : (Forest.single WGPEER_A_FLAGS (littleEndian 4 (peerFlags peer).toNat)).bytes.length
        = 8 := by simp [single_bytes_length, align]
    have set : peerFlags peer ≠ 0 ↔ (peer.remove || peer.updateOnly || peer.replaceAllowedIPs) := by
      rw [peerFlags]
      cases peer.remove <;> cases peer.updateOnly <;> cases peer.replaceAllowedIPs <;> decide
    simp only [flagsForest, set]
    split
    · exact size
    · rfl
  have psk : (presentForest peer.presharedKey (fun key =>
      Forest.single WGPEER_A_PRESHARED_KEY key.toList)).bytes.length =
        if peer.presharedKey.isSome then 36 else 0 := by
    cases peer.presharedKey with
    | none => rfl
    | some psk => simp [presentForest, single_bytes_length, key, align]
  have address : (presentForest peer.endpoint (endpointForest inet)).bytes.length =
      (peer.endpoint.map endpointSize).getD 0 := by
    cases given : peer.endpoint with
    | none => rfl
    | some text =>
      obtain ⟨ss, parsed⟩ := endpoint text given
      exact endpoint_size_parsed inet text ss parsed
  have interval : (presentForest peer.persistentKeepaliveInterval (fun interval =>
      Forest.single WGPEER_A_PERSISTENT_KEEPALIVE_INTERVAL
        (littleEndian 2 interval.toNat))).bytes.length =
          if peer.persistentKeepaliveInterval.isSome then 8 else 0 := by
    cases peer.persistentKeepaliveInterval with
    | none => rfl
    | some interval => simp [presentForest, single_bytes_length, align]
  have publicKey : (Forest.single WGPEER_A_PUBLIC_KEY peer.publicKey.toList).bytes.length = 36 := by
    simp [single_bytes_length, key, align]
  simp only [peerFields, peerHeadForest, peerTailForest, Forest.bytes_append, List.length_append,
    publicKey, flags, psk, address, interval, allowed_ips_length, peerSize]
  omega

/-- The peer list fits exactly when its size has sixteen bits. -/
theorem peers_fit_iff (cfg : Config) (parse : EndpointsParse inet cfg) :
    (peersForest inet cfg.peers).Fits ↔ peersSize cfg ≤ 65535 := by
  rw [peersForest, peersSize]
  by_cases none : cfg.peers = []
  · simp [none, Forest.Fits]
  · have entries := numbered_length cfg.peers (peerFields inet)
    change (numbered cfg.peers (peerForest inet)).bytes.length = _ at entries
    have sizes : cfg.peers.map (fun peer => 4 + (peerFields inet peer).bytes.length) =
        cfg.peers.map peerSize :=
      List.map_congr_left (fun peer member => peer_fields_length inet peer (parse peer member))
    rw [if_neg none, if_neg none, Forest.singleNest, Forest.Fits, entries, sizes]
    simp only [Forest.Fits, and_true]
    omega

end Sizes

/-- Every attribute stores the octets it occupies, and the attribute walk yields the
device name and what the configuration asks for. -/
def WellFormed (inet : Inet) (ifname : Bytes) (cfg : Config) (b : MsgBuf) : Prop :=
  LengthsMatch b.body b.occupied ∧
    ∃ settings, settingsOf inet cfg = some settings ∧ readDevice b.body = some (ifname, settings)

/-- A built request stores the right lengths exactly when its peer list fits. -/
theorem built_lengths_match_iff (inet : Inet) (familyId : UInt16) (seq : UInt32) (ifname : Bytes)
    (cfg : Config) (b : MsgBuf)
    (built : buildSetDeviceMessage inet familyId seq ifname cfg = .ok b) :
    LengthsMatch b.body b.occupied ↔ peersSize cfg ≤ 65535 := by
  obtain ⟨valid, parse⟩ := (build_set_device_message_succeeds_iff inet familyId seq ifname cfg).mp
    ⟨b, built⟩
  obtain ⟨body, occupied, -⟩ := build_set_device_message_content inet familyId seq ifname cfg b built
  have stored := lengths_match_iff (deviceForest inet ifname cfg) (genlHeader WG_CMD_SET_DEVICE) []
  rw [List.append_nil, ← body] at stored
  rw [← peers_fit_iff inet cfg parse, occupied]
  refine stored.trans ?_
  rw [deviceForest, Forest.fits_append]
  exact and_iff_right (device_fields_fits ifname cfg valid)

/-- A built request is well formed exactly when its peer list fits. -/
theorem built_well_formed_iff (inet : Inet) (familyId : UInt16) (seq : UInt32) (ifname : Bytes)
    (cfg : Config) (addresses : ∀ peer ∈ cfg.peers, ∀ aip ∈ peer.allowedIPs, Readable inet aip)
    (b : MsgBuf) (built : buildSetDeviceMessage inet familyId seq ifname cfg = .ok b) :
    WellFormed inet ifname cfg b ↔ peersSize cfg ≤ 65535 := by
  obtain ⟨valid, parse⟩ := (build_set_device_message_succeeds_iff inet familyId seq ifname cfg).mp
    ⟨b, built⟩
  obtain ⟨body, -⟩ := build_set_device_message_content inet familyId seq ifname cfg b built
  rw [WellFormed, built_lengths_match_iff inet familyId seq ifname cfg b built,
    ← peers_fit_iff inet cfg parse]
  refine and_iff_left_of_imp ?_
  intro fits
  obtain ⟨settings, known⟩ := Option.isSome_iff_exists.mp (settings_some inet cfg ⟨parse, addresses⟩)
  refine ⟨settings, known, ?_⟩
  rw [body, read_device_forest inet ifname cfg valid ⟨parse, addresses⟩ fits, known, Option.map_some]

/-- For a valid name and a configuration read from a JavaScript object, the builder
throws or returns a well-formed request exactly when some endpoint is refused or the peer
list fits in sixteen bits.

Proof: whatever is built is a forest of attributes behind the header. It is read back as written
as long as its outermost lengths fit in sixteen bits, and the only one that can fail to is that
of the peers: the others have bounded sizes, and the nested ones are within it. Where it wraps,
the stored length is not the occupied one. -/
theorem set_message_well_formed_iff (inet : Inet) (familyId : UInt16) (seq : UInt32)
    (ifname : Bytes) (config : JsValue) (cfg : Config) (valid : validateIfName ifname = .ok ())
    (read : configFromJs inet config = .ok cfg) :
    (∀ b, buildSetDeviceMessage inet familyId seq ifname cfg = .ok b → WellFormed inet ifname cfg b) ↔
      (¬ EndpointsParse inet cfg ∨ peersSize cfg ≤ 65535) := by
  have addresses := config_addresses_readable inet config cfg read
  have succeeds := build_set_device_message_succeeds_iff inet familyId seq ifname cfg
  constructor
  · intro all
    by_cases parse : EndpointsParse inet cfg
    · obtain ⟨b, built⟩ := succeeds.mpr ⟨(validate_if_name_iff ifname).mp valid, parse⟩
      exact .inr ((built_well_formed_iff inet familyId seq ifname cfg addresses b built).mp (all b built))
    · exact .inl parse
  · intro condition b built
    apply (built_well_formed_iff inet familyId seq ifname cfg addresses b built).mpr
    rcases condition with refused | fits
    · exact absurd (succeeds.mp ⟨b, built⟩).2 refused
    · exact fits

/-- One peer with the zero key and the same address range a number of times. -/
def repeatedRange (count : Nat) : JsValue :=
  .object [("peers", .array [.object [("publicKey", .string (keyToBase64 zeroKey)),
    ("allowedIPs", .array (List.replicate count (.string (ascii "10.0.0.2/32"))))]])]

/-- The record that object is read to. -/
def repeatedRangeRecord (count : Nat) : Config :=
  { peers := [{ publicKey := zeroKey,
                allowedIPs := List.replicate count ⟨ascii "10.0.0.2", AF_INET, 32⟩ }] }

/-- The object with one range so many times is read to the record with them. -/
theorem repeated_range_read (count : Nat) :
    configFromJs plainInet (repeatedRange count) = .ok (repeatedRangeRecord count) := by
  have address : allowedIPFromJs plainInet (.string (ascii "10.0.0.2/32")) =
      .ok ⟨ascii "10.0.0.2", AF_INET, 32⟩ := by decide
  have ranges : List.Forall₂ (fun item aip => allowedIPFromJs plainInet item = .ok aip)
      (List.replicate count (.string (ascii "10.0.0.2/32")))
      (List.replicate count ⟨ascii "10.0.0.2", AF_INET, 32⟩) := by
    induction count with
    | zero => exact .nil
    | succ count inductionHypothesis => exact .cons address inductionHypothesis
  apply (config_from_js_iff _ _ _).mpr
  refine ⟨.none, .none, .none, rfl, .cons ⟨rfl, ?_⟩ .nil⟩
  exact ⟨⟨_, rfl, key_from_base64_key_to_base64 zeroKey⟩, rfl, rfl, .none, rfl, .none, rfl, ranges⟩

/-- Its request is built, whatever the number of ranges. -/
theorem repeated_range_built (count : Nat) :
    ∃ b, buildSetDeviceMessage plainInet 30 1 (ascii "wg0") (repeatedRangeRecord count) = .ok b := by
  apply (build_set_device_message_succeeds_iff _ _ _ _ _).mpr
  refine ⟨(validate_if_name_iff _).mp (by decide), ?_⟩
  simp [EndpointsParse, repeatedRangeRecord]

/-- And has 28 octets for each of them. -/
theorem repeated_range_size (count : Nat) :
    peersSize (repeatedRangeRecord (count + 1)) = 76 + 28 * count := by
  have entry : allowedIPSize ⟨ascii "10.0.0.2", AF_INET, 32⟩ = 28 := rfl
  simp [peersSize, peerSize, repeatedRangeRecord, entry, List.replicate_succ]
  omega

/-- A request for one range is well formed. -/
theorem one_range_well_formed :
    ∃ b, buildSetDeviceMessage plainInet 30 1 (ascii "wg0") (repeatedRangeRecord 1) = .ok b ∧
      WellFormed plainInet (ascii "wg0") (repeatedRangeRecord 1) b := by
  obtain ⟨b, built⟩ := repeated_range_built 1
  refine ⟨b, built, ?_⟩
  have fits : peersSize (repeatedRangeRecord 1) ≤ 65535 := by
    rw [repeated_range_size 0]
    decide
  exact (set_message_well_formed_iff plainInet 30 1 (ascii "wg0") (repeatedRange 1)
    (repeatedRangeRecord 1) (by decide) (repeated_range_read 1)).mpr (.inr fits) b built

/-- A request for 2339 ranges is built, and some length stored in it is wrong. -/
theorem many_ranges_not_well_formed :
    ∃ cfg b, configFromJs plainInet (repeatedRange 2339) = .ok cfg ∧
      buildSetDeviceMessage plainInet 30 1 (ascii "wg0") cfg = .ok b ∧
      ¬ LengthsMatch b.body b.occupied ∧ ¬ WellFormed plainInet (ascii "wg0") cfg b := by
  obtain ⟨b, built⟩ := repeated_range_built 2339
  have addresses := config_addresses_readable plainInet _ _ (repeated_range_read 2339)
  have large : ¬ peersSize (repeatedRangeRecord 2339) ≤ 65535 := by
    rw [repeated_range_size 2338]
    decide
  refine ⟨_, b, repeated_range_read 2339, built, ?_, ?_⟩
  · rw [built_lengths_match_iff plainInet 30 1 (ascii "wg0") _ b built]
    exact large
  · rw [built_well_formed_iff plainInet 30 1 (ascii "wg0") _ addresses b built]
    exact large

end NodeWireguard.SetMessageContent
