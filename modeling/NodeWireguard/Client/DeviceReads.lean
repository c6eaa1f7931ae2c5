import Mathlib
import NodeWireguard.Client.Backends
import NodeWireguard.Client.ReadPaths
import NodeWireguard.Netlink.RequestRuns

/-!
# Reading a device from end to end

`FetchDevice` on a backend that answers as its protocol asks, up to the object that is given
to JavaScript. The kernel may pack its dump into datagrams as it likes, with messages for
other requests and ports anywhere between; where the family is not known yet, its lookup comes
first and may leave messages behind. A daemon may take the request and give its response in
pieces of any size.

The object is the same in all these cases, and it is the state's: every field of the device
and of its peers, with the addresses in `inet_ntop` form and empty strings for unset keys.
-/

namespace NodeWireguard.DeviceReads

open ByteText DecimalText Key PublicKey AddressText AttributeStream WireguardUapi MessageBuffer
open SetDeviceMessage EarlyExit IfName JsValues DeviceToJs DeviceSettings DeviceDump DumpFields
open SocketExchange ExchangeOutcome RequestRuns Transact GetResponse GetSections SetRequest
open SocketDirectory Backends ReadPaths

/-! The object that a state is shown as. -/

/-- An allowed range as text. The address is written by `inet_ntop` and the mask as a decimal
number. -/
def shownRange (inet : Inet) (range : AllowedRange) : Bytes :=
  match range.address with
  | .v4 addr => inet.ntop4 addr ++ byte '/' :: decimal range.mask.toNat
  | .v6 addr => inet.ntop6 addr ++ byte '/' :: decimal range.mask.toNat

/-- A key as text, empty where it is not set. -/
def keyText (key : Option Key) : Bytes := (key.map keyToBase64).getD []

/-- The object a peer of the kernel ought to be shown as, one property for each thing that is
known of it. -/
def shownPeer (inet : Inet) (peer : KernelPeer) : JsValue :=
  .object [
    ("publicKey", .string (keyToBase64 peer.publicKey)),
    ("presharedKey", .string (keyText peer.presharedKey)),
    ("endpoint", match peer.endpoint with
      | some address => .string (writtenEndpoint inet address)
      | none => .undefined),
    ("persistentKeepaliveInterval", number peer.persistentKeepaliveInterval.toNat),
    ("lastHandshakeTime",
      if 0 < peer.lastHandshakeTime.1 then .date peer.lastHandshakeTime.1 else .null),
    ("receiveBytes", .bigint peer.receiveBytes.toNat),
    ("transmitBytes", .bigint peer.transmitBytes.toNat),
    ("allowedIPs", .array (peer.allowedIPs.map (fun range => .string (shownRange inet range)))),
    ("protocolVersion", number peer.protocolVersion.toNat)]

/-- The object a device ought to be shown as, with the type of the backend it was read from. -/
def shownState (inet : Inet) (pub : Key → Key) (type : String) (state : DeviceState) : JsValue :=
  .object [
    ("name", .string state.name),
    ("type", .string (ascii type)),
    ("privateKey", .string (keyText state.privateKey)),
    ("publicKey", .string (keyText (state.privateKey.map pub))),
    ("listenPort", number state.listenPort.toNat),
    ("firewallMark", number state.firewallMark.toNat),
    ("peers", .array (state.peers.map (shownPeer inet)))]

/-! What a backend answers. -/

/-- The messages of a dump: its parts in order, and its end. -/
def DumpMessages (payloads : List Bytes) (messages : List NlMsg) : Prop :=
  ∃ parts finished later, messages = parts ++ finished :: later ∧
    parts.map NlMsg.payload = payloads ∧ (∀ part ∈ parts, completes part = false) ∧
    finished.type = NLMSG_DONE

/-- The reply to a family lookup, which gives an identifier. -/
def FamilyReply (messages : List NlMsg) : Prop :=
  ∃ reply later, messages = reply :: later ∧ reply.type ≠ NLMSG_ERROR ∧ reply.type ≠ NLMSG_DONE ∧
    reply.flags &&& NLM_F_MULTI = 0 ∧ (familyIdHandler 0 reply).1 ≠ 0

/-- What the kernel delivers to a socket that knows the family, or to one that asks for it
first. Messages with other numbers or for other ports may stand anywhere. -/
inductive KernelAnswers (sock : NlSocket) (payloads : List Bytes) : List (List NlMsg) → Prop where
  | known (datagrams : List (List NlMsg)) (family : sock.wgFamilyId ≠ 0)
      (dump : DumpMessages payloads (datagrams.flatten.filter (own (sock.seq + 1) sock.portid))) :
      KernelAnswers sock payloads datagrams
  | asked (lookup datagrams : List (List NlMsg)) (family : sock.wgFamilyId = 0)
      (reply : FamilyReply (lookup.flatten.filter (own (sock.seq + 1) sock.portid)))
      (early : ∀ msg ∈ lookup.flatten, own (sock.seq + 1 + 1) sock.portid msg = false)
      (dump : DumpMessages payloads
        (datagrams.flatten.filter (own (sock.seq + 1 + 1) sock.portid))) :
      KernelAnswers sock payloads (lookup ++ datagrams)

/-- A backend that answers a read of the state, and the type it is shown with. An unset
private key and its public key are left out rather than given as zeros. -/
inductive Served (inet : Inet) (pub : Key → Key) (sock : NlSocket) (state : DeviceState)
    (around : Surroundings) : String → Prop where
  | kernel (payloads : List Bytes) (datagrams : List (List NlMsg))
      (absent : around.access (pathOf state.name) = false)
      (sent : around.lookupSent = none ∧ around.requestSent = none)
      (delivered : around.stream = datagrams.map .datagram)
      (answers : KernelAnswers sock payloads datagrams) (dump : DumpOf pub state payloads)
      (unset : state.privateKey = none → lookup WGDEVICE_A_PRIVATE_KEY (deviceAttrs payloads) = none ∧
        lookup WGDEVICE_A_PUBLIC_KEY (deviceAttrs payloads) = none) :
      Served inet pub sock state around "linux-kernel"
  | daemon (response : Bytes) (fields : List DeviceField) (sections : List (Key × List PeerField))
      (present : around.access (pathOf state.name) = true)
      (answers : Answers around.connection buildGetRequest response)
      (isResponse : ResponseOf inet state response fields sections)
      (unset : state.privateKey = none → lastOf DeviceField.asPrivateKey fields = none) :
      Served inet pub sock state around "userspace"

section Exchange

variable {σ : Type} (strerror : Int → Bytes) (seq portid : UInt32)
  (handler : σ → NlMsg → σ × Bool)

/-- Parts of a dump go to the handler one after the other. -/
theorem scan_parts (goesOn : ∀ state msg, (handler state msg).2 = true) (parts rest : List NlMsg)
    (own : ∀ part ∈ parts, part.seq = seq ∧ part.pid = portid)
    (multipart : ∀ part ∈ parts, completes part = false) (x : Exchange σ) :
    scan (examine strerror seq portid handler) x (parts ++ rest) =
      scan (examine strerror seq portid handler)
        ⟨parts.foldl (fun state part => (handler state part).1) x.state, x.seen ++ parts⟩ rest := by
  induction parts generalizing x with
  | nil => simp
  | cons part parts inductionHypothesis =>
    obtain ⟨mine, others⟩ := List.forall_mem_cons.mp own
    obtain ⟨incomplete, openOthers⟩ := List.forall_mem_cons.mp multipart
    obtain ⟨notError, notDone, multi⟩ : part.type ≠ NLMSG_ERROR ∧ part.type ≠ NLMSG_DONE ∧
        part.flags &&& NLM_F_MULTI ≠ 0 := by
      simpa [completes] using incomplete
    have stepped : examine strerror seq portid handler x part =
        (⟨(handler x.state part).1, x.seen ++ [part]⟩, none) := by
      simp [examine, mine, notError, notDone, multi, goesOn]
    rw [List.cons_append, scan_continues _ _ _ _ _ stepped, inductionHypothesis others openOthers]
    simp

/-- A dump is handed over whole, however it arrives. The messages of other requests are skipped,
the parts do not end the exchange, and the end of the dump does; so the handler has folded the
parts in order. -/
theorem dump_exchanged (goesOn : ∀ state msg, (handler state msg).2 = true) (state : σ)
    (payloads : List Bytes) (datagrams : List (List NlMsg))
    (dump : DumpMessages payloads (datagrams.flatten.filter (own seq portid))) :
    ∃ parts : List NlMsg, parts.map NlMsg.payload = payloads ∧
      (sendAndReceive strerror seq portid handler none state (datagrams.map .datagram)).outcome =
        some (.returned false) ∧
      (sendAndReceive strerror seq portid handler none state (datagrams.map .datagram)).exchange.state =
        parts.foldl (fun state part => (handler state part).1) state := by
  obtain ⟨parts, finished, later, messages, isPayloads, openParts, done⟩ := dump
  have mine : ∀ msg ∈ parts ++ finished :: later, msg.seq = seq ∧ msg.pid = portid := by
    intro msg member
    rw [← messages, List.mem_filter] at member
    simpa [own] using member.2
  have finishedMine := mine finished (by simp)
  have ended : ∀ x : Exchange σ, examine strerror seq portid handler x finished =
      (⟨x.state, x.seen ++ [finished]⟩, some (.returned false)) := by
    intro x
    simp [examine, finishedMine, done, done_not_error]
  refine ⟨parts, isPayloads, ?_⟩
  simp only [sendAndReceive, receive_own, messages]
  rw [scan_parts strerror seq portid handler goesOn parts _
    (fun part member => mine part (by simp [member])) openParts, scan_stops _ _ _ _ _ _ (ended _)]
  exact ⟨rfl, rfl⟩

end Exchange

section Kernel

variable (strerror : Int → Bytes) (inet : Inet) (fresh : FreshOctets) (sock : NlSocket)

/-- The dump of a socket that knows the family, on datagrams that carry the parts. The request is
built for the valid name and numbered next, and what the exchange leaves is an end of the stream. -/
theorem dump_device_read (familyId : UInt16) (name : Bytes) (valid : ValidName name)
    (payloads : List Bytes) (datagrams : List (List NlMsg))
    (dump : DumpMessages payloads (datagrams.flatten.filter (own (sock.seq + 1) sock.portid))) :
    ∃ left, left <:+ datagrams ∧
      dumpDevice strerror inet fresh sock familyId name none (datagrams.map .datagram) =
        .value (payloads.foldl (parseDeviceMessage inet fresh) { name })
          { sock with seq := sock.seq + 1 } (left.map .datagram) := by
  have built : ∃ nlh, buildGetDeviceMessage familyId (sock.seq + 1) name = .ok nlh ∧
      nlh.seq = sock.seq + 1 := by
    simp only [buildGetDeviceMessage, (validate_if_name_iff name).mpr valid]
    exact ⟨_, rfl, rfl⟩
  obtain ⟨nlh, isBuilt, number⟩ := built
  obtain ⟨parts, isPayloads, returned, state⟩ := dump_exchanged strerror (sock.seq + 1) sock.portid
    (deviceHandler inet fresh) (fun _ _ => rfl) { name } payloads datagrams dump
  have parsed : parts.foldl (fun device part => (deviceHandler inet fresh device part).1)
      ({ name } : Device) = payloads.foldl (parseDeviceMessage inet fresh) { name } := by
    rw [← isPayloads, List.foldl_map]
    rfl
  obtain ⟨left, leftSuffix, leftMap⟩ := List.suffix_map_iff.mp (rest_suffix strerror (sock.seq + 1)
    sock.portid (deviceHandler inet fresh) { name } none (datagrams.map .datagram))
  refine ⟨left, leftSuffix, ?_⟩
  simp only [dumpDevice, NlSocket.nextSeq, isBuilt, dumpExchange, number, Result.call, returned, state,
    parsed, leftMap]

/-- A lookup that is answered finds the family and leaves the rest of its datagrams. The first
message of its own is the reply, which ends the exchange; the acknowledgement behind it stays
queued, with all that came later. -/
theorem family_looked_up (lookup : List (List NlMsg)) (later : List Received)
    (unknown : sock.wgFamilyId = 0)
    (reply : FamilyReply (lookup.flatten.filter (own (sock.seq + 1) sock.portid))) :
    ∃ familyId left, left <:+ lookup ∧
      wireGuardFamilyId strerror sock none (lookup.map .datagram ++ later) =
        .value familyId { sock with seq := sock.seq + 1, wgFamilyId := familyId }
          (left.map .datagram ++ later) := by
  obtain ⟨first, others, messages, notError, notDone, alone, found⟩ := reply
  have mine : first.seq = sock.seq + 1 ∧ first.pid = sock.portid := by
    have member : first ∈ lookup.flatten.filter (own (sock.seq + 1) sock.portid) := by
      rw [messages]
      exact List.mem_cons_self
    simpa [own] using (List.mem_filter.mp member).2
  have stepped : examine strerror (sock.seq + 1) sock.portid familyIdHandler { state := 0 } first =
      (⟨(familyIdHandler 0 first).1, [first]⟩, some (.returned false)) := by
    simp [examine, mine, notError, notDone, alone, familyIdHandler]
  have ended : scan (receive strerror (sock.seq + 1) sock.portid familyIdHandler) { state := 0 }
      (lookup.map .datagram) = (⟨(familyIdHandler 0 first).1, [first]⟩, some (.returned false)) := by
    rw [receive_own, messages, scan_stops _ _ _ _ _ _ stepped]
  obtain ⟨whole, rest⟩ := scan_append_ended
    (receive strerror (sock.seq + 1) sock.portid familyIdHandler) { state := 0 }
    (lookup.map .datagram) later (.returned false) (congrArg Prod.snd ended)
  obtain ⟨left, leftSuffix, leftMap⟩ := List.suffix_map_iff.mp
    (unread_suffix (receive strerror (sock.seq + 1) sock.portid familyIdHandler) { state := 0 }
      (lookup.map .datagram))
  refine ⟨(familyIdHandler 0 first).1, left, leftSuffix, ?_⟩
  have number : (familyRequest (sock.seq + 1)).seq = sock.seq + 1 := rfl
  simp only [wireGuardFamilyId, unknown, ne_eq, not_true_eq_false, ↓reduceIte, NlSocket.nextSeq, number,
    sendAndReceive, whole, rest, ended, Result.call, found, leftMap]

/-- A dump whose datagrams come after those of earlier requests. -/
theorem dump_after (earlier datagrams : List (List NlMsg)) (seq portid : UInt32) (payloads : List Bytes)
    (foreign : ∀ msg ∈ earlier.flatten, own seq portid msg = false)
    (dump : DumpMessages payloads (datagrams.flatten.filter (own seq portid))) :
    DumpMessages payloads ((earlier ++ datagrams).flatten.filter (own seq portid)) := by
  have none : earlier.flatten.filter (own seq portid) = [] :=
    List.filter_eq_nil_iff.mpr (fun msg member mine => by simp [foreign msg member] at mine)
  rwa [List.flatten_append, List.filter_append, none, List.nil_append]

/-- The number of a read's last request. A read takes one number where the family is known, and
two where it is not. -/
def lastSeq (sock : NlSocket) : UInt32 :=
  if sock.wgFamilyId = 0 then sock.seq + 1 + 1 else sock.seq + 1

/-- The kernel path reads the parts of the dump in order, however they arrive, and leaves an
end of what was delivered. -/
theorem kernel_device_read (name : Bytes) (valid : ValidName name) (payloads : List Bytes)
    (datagrams : List (List NlMsg)) (answers : KernelAnswers sock payloads datagrams) :
    ∃ after left, after.portid = sock.portid ∧ after.seq = lastSeq sock ∧ left <:+ datagrams ∧
      fetchDeviceKernel strerror inet fresh sock name none none (datagrams.map .datagram) =
        .value (payloads.foldl (parseDeviceMessage inet fresh) { name }) after (left.map .datagram) := by
  cases answers with
  | known _ family dump =>
    obtain ⟨left, suffix, read⟩ :=
      dump_device_read strerror inet fresh sock sock.wgFamilyId name valid payloads datagrams dump
    refine ⟨{ sock with seq := sock.seq + 1 }, left, rfl, (if_neg family).symm, suffix, ?_⟩
    simpa only [fetchDeviceKernel, wireGuardFamilyId, ne_eq, family, not_false_eq_true, ↓reduceIte]
      using read
  | asked lookup datagrams family reply early dump =>
    obtain ⟨familyId, unread, suffix, found⟩ :=
      family_looked_up strerror sock lookup (datagrams.map .datagram) family reply
    have foreign : ∀ msg ∈ unread.flatten, own (sock.seq + 1 + 1) sock.portid msg = false := by
      intro msg member
      obtain ⟨datagram, listed, inside⟩ := List.mem_flatten.mp member
      exact early msg (List.mem_flatten.mpr ⟨datagram, suffix.mem listed, inside⟩)
    obtain ⟨left, leftSuffix, read⟩ := dump_device_read strerror inet fresh
      { sock with seq := sock.seq + 1, wgFamilyId := familyId } familyId name valid payloads
      (unread ++ datagrams) (dump_after unread datagrams _ _ payloads foreign dump)
    obtain ⟨consumed, whole⟩ := suffix
    refine ⟨{ sock with seq := sock.seq + 1 + 1, wgFamilyId := familyId }, left, rfl,
      (if_pos family).symm, leftSuffix.trans ⟨consumed, ?_⟩, ?_⟩
    · rw [← List.append_assoc, whole]
    · simp only [fetchDeviceKernel, List.map_append, found]
      rw [← List.map_append]
      exact read

end Kernel

section Shown

variable (inet : Inet) {pub : Key → Key} {state : DeviceState}

/-- A device key is shown as the state has it, where an unset one is left out. -/
theorem key_shown (logical encoded : Option Key) (encodes : Encodes logical encoded)
    (leftOut : logical = none → encoded = none) : shownKey encoded = keyText logical := by
  cases logical with
  | some key =>
    obtain rfl : encoded = some key := encodes
    rfl
  | none =>
    rw [leftOut rfl]
    rfl

/-- A range is shown as its address and its mask, whichever reader made the record. -/
theorem range_shown (range : AllowedRange) : formatCIDR (showRange inet range) = shownRange inet range := by
  obtain ⟨address, mask⟩ := range
  cases address with
  | v4 addr => rfl
  | v6 addr => rfl

/-- A peer is shown as the state has it, from its entries in a dump. -/
theorem dumped_peer_shown (peer dumped : KernelPeer) (isDumped : PeerDumped peer dumped)
    (set : ∀ key, peer.presharedKey = some key → isZeroKey key = false) :
    peerToJs (showPeer inet dumped dumped.allowedIPs) = shownPeer inet peer := by
  obtain ⟨psk, encodes, rfl⟩ := isDumped
  have isPsk : shownPsk psk = keyText peer.presharedKey := shown_psk_encoded _ psk encodes set
  have ranges : (peer.allowedIPs.map (showRange inet)).map (fun aip => JsValue.string (formatCIDR aip)) =
      peer.allowedIPs.map (fun range => JsValue.string (shownRange inet range)) := by
    rw [List.map_map]
    exact List.map_congr_left (fun range _ => congrArg JsValue.string (range_shown inet range))
  simp only [peerToJs, showPeer, shownPeer, isPsk, ranges]
  cases peer.endpoint with
  | none => rfl
  | some address =>
    simp only [Option.map_some, format_endpoint_written]
    rfl

/-- The peers of a dump are shown as the kernel has them. A preshared key of zeros stands in a
dump for an absent one, so no peer may have it set. -/
theorem dumped_peers_shown (peers dumped : List KernelPeer)
    (isDumped : List.Forall₂ PeerDumped peers dumped)
    (set : ∀ peer ∈ peers, ∀ key, peer.presharedKey = some key → isZeroKey key = false) :
    dumped.map (fun peer => peerToJs (showPeer inet peer peer.allowedIPs)) =
      peers.map (shownPeer inet) := by
  induction isDumped with
  | nil => rfl
  | cons first _ inductionHypothesis =>
    rw [List.map_cons, List.map_cons, dumped_peer_shown inet _ _ first (set _ List.mem_cons_self),
      inductionHypothesis (fun other member => set other (List.mem_cons_of_mem _ member))]

/-- A peer is shown as the state has it, from its section of a response: a section agrees with
the dump of the peer as it is. -/
theorem given_peers_shown (peers : List KernelPeer) (sections : List (Key × List PeerField))
    (isSection : List.Forall₂ (SectionOf inet) peers sections)
    (set : ∀ peer ∈ peers, ∀ key, peer.presharedKey = some key → isZeroKey key = false) :
    sections.map (fun content => peerToJs (peerOf content.1 content.2)) =
      peers.map (shownPeer inet) := by
  have plain : List.Forall₂ PeerDumped peers peers := by
    refine List.forall₂_same.mpr (fun peer _ => ⟨peer.presharedKey, ?_, rfl⟩)
    cases peer.presharedKey with
    | none => exact .inl rfl
    | some key => exact rfl
  rw [← peers_shown inet peers peers sections plain isSection set]
  exact dumped_peers_shown inet peers peers plain set

variable (ssl : OpenSSL) (fresh : FreshOctets) (strerror : Int → Bytes)

/-- A parsed dump is shown as the state. -/
theorem dump_shown (payloads : List Bytes) (dump : DumpOf pub state payloads)
    (unset : state.privateKey = none → lookup WGDEVICE_A_PRIVATE_KEY (deviceAttrs payloads) = none ∧
      lookup WGDEVICE_A_PUBLIC_KEY (deviceAttrs payloads) = none) :
    deviceToJs (payloads.foldl (parseDeviceMessage inet fresh) { name := state.name }) =
      shownState inet pub "linux-kernel" state := by
  have dumped := dump_parsed inet fresh payloads dump
  have kernel := parsed_userspace inet fresh payloads { name := state.name }
  obtain ⟨peers, isDumped, listed⟩ := dumped.peers
  have privateKey := key_shown _ _ dumped.privateKey
    (fun none => dumped.privateLeftOut.mpr (unset none).1)
  have publicKey := key_shown _ _ dumped.publicKey
    (fun none => dumped.publicLeftOut.mpr (unset (Option.map_eq_none_iff.mp none)).2)
  simp only [deviceToJs, shownState, dumped.name, kernel, dumped.listenPort, dumped.firewallMark,
    privateKey, publicKey, listed, List.map_map]
  rw [← dumped_peers_shown inet state.peers peers isDumped state.pskSet]
  rfl

/-- A parsed response is shown as the state. -/
theorem response_shown (response : Bytes) (fields : List DeviceField)
    (sections : List (Key × List PeerField)) (isResponse : ResponseOf inet state response fields sections)
    (unset : state.privateKey = none → lastOf DeviceField.asPrivateKey fields = none) :
    deviceToJs (deviceOf pub state.name fields sections) = shownState inet pub "userspace" state := by
  have privateKey := key_shown _ _ isResponse.privateKey unset
  have publicKey : shownKey (derivedKey pub (lastOf DeviceField.asPrivateKey fields)) =
      keyText (state.privateKey.map pub) := by
    rw [derived_key_encoded _ isResponse.privateKey]
    cases state.privateKey <;> rfl
  simp only [deviceToJs, shownState, deviceOf, privateKey, publicKey, isResponse.listenPort,
    isResponse.firewallMark, List.map_map]
  rw [← given_peers_shown inet state.peers sections isResponse.peers state.pskSet]
  rfl

/-- Whichever backend serves an interface and however its answer arrives, the device that is
read is shown as the state the backend has.

Proof: by cases on the backend. From the kernel, the exchange gives the handler the parts of the
dump in order, however they are packed, and folding them gives the fields of the state. From the
daemon, the transaction returns the response whole, however it is cut, and the parser reads each
field back. Both records are shown as the same object. -/
theorem fetch_shows_state (derives : ssl.Derives pub) (sock : NlSocket) (around : Surroundings)
    (type : String) (served : Served inet pub sock state around type) :
    ∃ device left rest, fetchDevice strerror inet ssl fresh around sock state.name =
        .value device left rest ∧
      deviceToJs device = shownState inet pub type state := by
  cases served with
  | kernel payloads datagrams absent sent delivered answers dump unset =>
    have found := (has_socket_ok_iff around.access state.name _).mpr ⟨state.named, rfl⟩
    obtain ⟨after, left, -, -, -, read⟩ := kernel_device_read strerror inet fresh sock state.name
      state.named payloads datagrams answers
    refine ⟨_, after, left.map .datagram, ?_, dump_shown inet fresh payloads dump unset⟩
    simp only [fetchDevice, found, absent, sent.1, sent.2, delivered, read]
  | daemon response fields sections present answers isResponse unset =>
    have found := (has_socket_ok_iff around.access state.name _).mpr ⟨state.named, rfl⟩
    have parsed := parse_response inet ssl pub derives state.name response fields sections
      isResponse.gives
    have read := (transacted_value_iff strerror around sock state.name buildGetRequest
      (parseGetResponse inet ssl state.name) _ sock around.stream).mpr
        ⟨⟨response, state.named, answers, parsed⟩, rfl, rfl⟩
    refine ⟨_, sock, around.stream, ?_, response_shown inet response fields sections isResponse unset⟩
    simp only [fetchDevice, found, present, read]

end Shown

/-- A part of a dump for a socket with port 7. -/
def samplePart (seq : UInt32) (payload : Bytes) : NlMsg where
  type := 30
  flags := NLM_F_MULTI
  seq
  pid := 7
  payload
  complete := fun status => absurd status (by decide)

/-- A dump in two datagrams, with the end of a dump for another port before it and an old
acknowledgement inside. -/
def packedDump : List (List NlMsg) :=
  [status0 NLMSG_DONE 1 9 :: ((sampleDump []).take 1).map (samplePart 1),
    ((sampleDump []).drop 1).map (samplePart 1) ++ [status0 NLMSG_ERROR 0 7, status0 NLMSG_DONE 1 7]]

/-- A daemon that takes the request in two pieces and sends its response in two. -/
def sampleConnection : SystemCalls where
  writes := [.ok 3, .ok 4]
  reads := [.ok ((terminated sampleResponse).take 20), .ok ((terminated sampleResponse).drop 20), .ok []]

/-- No part of the sample dump ends it. -/
theorem sample_parts_incomplete (seq : UInt32) :
    ∀ part ∈ (sampleDump []).map (samplePart seq), completes part = false := by
  intro part member
  obtain ⟨payload, -, rfl⟩ := List.mem_map.mp member
  have incomplete : ¬ ((30 : UInt16) = NLMSG_ERROR ∨ (30 : UInt16) = NLMSG_DONE ∨
      NLM_F_MULTI &&& NLM_F_MULTI = 0) := by decide
  exact decide_eq_false incomplete

/-- The sample daemon answers the request it is given. -/
theorem sample_connection_answers :
    Answers sampleConnection buildGetRequest (terminated sampleResponse) := by
  refine ⟨rfl, ⟨rfl, rfl⟩, rfl, ⟨[3, 4], [], rfl, by decide⟩, rfl, ?_⟩
  exact ⟨[(terminated sampleResponse).take 20, (terminated sampleResponse).drop 20], [], rfl,
    by decide +kernel, by simp, by decide +kernel⟩

/-- The sample dump is one of the sample state. -/
theorem sample_dumped : DumpOf id sampleState (sampleDump []) :=
  ⟨by decide +kernel, by decide +kernel, by decide +kernel, ⟨none, .inl rfl, by decide +kernel⟩,
    ⟨none, .inl rfl, by decide +kernel⟩, sample_peers_dumped [] (by decide +kernel)⟩

/-- Both backends show the sample state. -/
theorem sample_state_shown :
    (∃ device left rest, fetchDevice (fun _ => []) AddressForms.plainInet idleSsl zeroed
        { stream := packedDump.map .datagram } ⟨7, 0, 30⟩ sampleState.name = .value device left rest ∧
      deviceToJs device = shownState AddressForms.plainInet id "linux-kernel" sampleState) ∧
    ∃ device left rest, fetchDevice (fun _ => []) AddressForms.plainInet idleSsl zeroed
        { access := fun _ => true, connection := sampleConnection } ⟨7, 0, 30⟩ sampleState.name =
          .value device left rest ∧
      deviceToJs device = shownState AddressForms.plainInet id "userspace" sampleState := by
  have messages : packedDump.flatten.filter (own 1 7) =
      (sampleDump []).map (samplePart 1) ++ [status0 NLMSG_DONE 1 7] := by decide +kernel
  constructor
  · refine fetch_shows_state AddressForms.plainInet idleSsl zeroed _ idle_ssl_derives _ _ _
      (.kernel (sampleDump []) packedDump rfl ⟨rfl, rfl⟩ rfl (.known _ (by decide) ?_)
        sample_dumped (fun _ => ⟨by decide +kernel, by decide +kernel⟩))
    refine ⟨_, status0 NLMSG_DONE 1 7, [], messages, ?_, sample_parts_incomplete 1, rfl⟩
    rw [List.map_map]
    exact List.map_id _
  · exact fetch_shows_state AddressForms.plainInet idleSsl zeroed _ idle_ssl_derives _ _ _
      (.daemon (terminated sampleResponse) _ _ rfl sample_connection_answers sample_response (fun _ => rfl))

end NodeWireguard.DeviceReads
