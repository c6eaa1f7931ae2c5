import Mathlib
import NodeWireguard.Client.Backends
import NodeWireguard.Netlink.DumpReassembly
import NodeWireguard.Netlink.RequestRuns
import NodeWireguard.Netlink.SetMessageContent

/-!
# A set request the kernel refuses

The kernel answers a request it refuses with an error word and the whole request behind it,
so the answer is 20 octets longer than the request. `SendAndReceive` receives into a buffer of
fixed size, while `ApplyConfig` sizes the request's own buffer by the configuration. The
octets of a request are counted here from the name and the configuration alone.

An answer that does not fit makes the receive fail with `ENOSPC`, and this is what the caller
gets instead of the kernel's error number.
-/

namespace NodeWireguard.RefusedRequest

open ByteText AddressText AddressForms AttributeStream SocketAddress IfName MessageBuffer
open WireguardUapi EarlyExit SocketExchange ExchangeOutcome RequestRuns DumpReassembly
open SetDeviceMessage SetMessageReading SetMessageContent SocketDirectory Backends ConfigFromJs

/-- The error that libmnl reports for a datagram larger than the buffer. -/
def ENOSPC : Int := 28

/-- The octets of a message as it is sent; `nlmsg_pid` stays zero. -/
def messageOctets (nlh : MsgBuf) : Bytes :=
  littleEndian 4 nlh.nlmsgLen ++ littleEndian 2 nlh.type.toNat ++ littleEndian 2 nlh.flags.toNat
    ++ littleEndian 4 nlh.seq.toNat ++ littleEndian 4 0 ++ nlh.body

/-- The kernel's answer to a request it refuses: the negated error number and the request. -/
def refusal (e : Int) (flags : UInt16) (portid : UInt32) (nlh : MsgBuf) : NlMsg where
  type := NLMSG_ERROR
  flags
  seq := nlh.seq
  pid := portid
  payload := littleEndian 4 (BitVec.ofInt 32 (-e)).toNat ++ messageOctets nlh
  complete _ := by simp

/-- `mnl_socket_recvfrom` of a datagram with one message into a buffer of a size. -/
def receivedInto (bufSize : Nat) (msg : NlMsg) : Received :=
  if nlmsgHdrLen + msg.payload.length ≤ bufSize then .datagram [msg] else .failed ENOSPC

/-- The kernel does not take the request: sending it fails with the error number, or it is
answered with a refusal, behind whatever else the socket still holds for others. -/
inductive Refused (bufSize : Nat) (portid : UInt32) (nlh : MsgBuf) (e : Int) :
    Option Int → List Received → Prop where
  | unsent (stream : List Received) : Refused bufSize portid nlh e (some e) stream
  | answered (stale : List (List NlMsg)) (flags : UInt16) (later : List Received)
      (foreign : ∀ datagram ∈ stale, ∀ msg ∈ datagram, own nlh.seq portid msg = false) :
      Refused bufSize portid nlh e none
        (stale.map .datagram ++ receivedInto bufSize (refusal e flags portid nlh) :: later)

/-- Octets of the attributes of the device itself. -/
def deviceSize (name : Bytes) (cfg : Config) : Nat :=
  4 + align (name.length + 1)
    + (if cfg.replacePeers then 8 else 0)
    + (if cfg.privateKey.isSome then 36 else 0)
    + (if cfg.listenPort.isSome then 8 else 0)
    + (if cfg.firewallMark.isSome then 8 else 0)

/-- Octets of a set request: the two headers, the device and its peers. -/
def requestSize (name : Bytes) (cfg : Config) : Nat := 20 + deviceSize name cfg + peersSize cfg

/-- The octets of an optional attribute: those of the attribute where there is one. -/
theorem present_forest_length {α : Type} (value : Option α) (forest : α → Forest) (size : Nat)
    (each : ∀ content, (forest content).bytes.length = size) :
    (presentForest value forest).bytes.length = if value.isSome then size else 0 := by
  cases value with
  | none => rfl
  | some content => exact each content

/-- The attributes of the device have the octets counted for them. Each optional field adds its
aligned size where it is present, and the name as many octets as it has with its terminator. -/
theorem device_fields_length (name : Bytes) (cfg : Config) (valid : ValidName name) :
    (deviceFields name cfg).bytes.length = deviceSize name cfg := by
  have flags : (flagsForest WGDEVICE_A_FLAGS (deviceFlags cfg)).bytes.length =
      if cfg.replacePeers then 8 else 0 := by
    cases replaces : cfg.replacePeers with
    | false => simp [flagsForest, deviceFlags, replaces, Forest.bytes]
    | true =>
      have set : (WGDEVICE_F_REPLACE_PEERS : UInt32) ≠ 0 := by decide
      simp [flagsForest, deviceFlags, replaces, set, single_bytes_length, align]
  have key := present_forest_length cfg.privateKey
    (fun key => .single WGDEVICE_A_PRIVATE_KEY key.toList) 36 (fun key => by
      have size : key.toList.length = 32 := key.toList_length
      simp [single_bytes_length, size, align])
  have port := present_forest_length cfg.listenPort
    (fun port => .single WGDEVICE_A_LISTEN_PORT (littleEndian 2 port.toNat)) 8
    (fun port => by simp [single_bytes_length, align])
  have mark := present_forest_length cfg.firewallMark
    (fun mark => .single WGDEVICE_A_FWMARK (littleEndian 4 mark.toNat)) 8
    (fun mark => by simp [single_bytes_length, align])
  simp only [deviceFields, Forest.bytes_append, List.length_append, single_bytes_length, flags,
    key, port, mark, deviceSize, c_string_valid name valid, List.length_singleton]

/-- The peers have the octets counted for them. -/
theorem peers_forest_length (inet : Inet) (cfg : Config) (parse : EndpointsParse inet cfg) :
    (peersForest inet cfg.peers).bytes.length = peersSize cfg := by
  rw [peersForest, peersSize]
  by_cases none : cfg.peers = []
  · simp [none, Forest.bytes]
  · have entries := numbered_length cfg.peers (peerFields inet)
    change (numbered cfg.peers (peerForest inet)).bytes.length = _ at entries
    have sizes : cfg.peers.map (fun peer => 4 + (peerFields inet peer).bytes.length) =
        cfg.peers.map peerSize :=
      List.map_congr_left (fun peer member => peer_fields_length inet peer (parse peer member))
    rw [if_neg none, if_neg none, single_nest_bytes_length, entries, sizes]

/-- A request that is built has the octets counted for its name and configuration. -/
theorem built_request_size (inet : Inet) (familyId : UInt16) (seq : UInt32) (name : Bytes)
    (cfg : Config) (nlh : MsgBuf)
    (built : buildSetDeviceMessage inet familyId seq name cfg = .ok nlh) :
    nlh.nlmsgLen = requestSize name cfg := by
  obtain ⟨valid, parse⟩ :=
    (build_set_device_message_succeeds_iff inet familyId seq name cfg).mp ⟨nlh, built⟩
  obtain ⟨body, -⟩ := build_set_device_message_content inet familyId seq name cfg nlh built
  have header : (genlHeader WG_CMD_SET_DEVICE).length = 4 := rfl
  simp only [MsgBuf.nlmsgLen, nlmsgHdrLen, body, deviceForest, Forest.bytes_append,
    List.length_append, header, device_fields_length name cfg valid,
    peers_forest_length inet cfg parse, requestSize]
  omega

section Refusals

variable (strerror : Int → Bytes)

/-- A refusal carries its error number. -/
theorem refusal_status (e : Int) (positive : 0 < e) (word : e < 2 ^ 31) (flags : UInt16)
    (portid : UInt32) (nlh : MsgBuf) : (refusal e flags portid nlh).status = -e := by
  have small : (BitVec.ofInt 32 (-e)).toNat < 256 ^ 4 := (BitVec.ofInt 32 (-e)).isLt
  rw [NlMsg.status, refusal, unsigned_at_little_endian 4 _ _ small, BitVec.ofNat_toNat,
    BitVec.setWidth_eq, BitVec.toInt_ofInt]
  rw [Int.bmod_def]
  omega

/-- A refusal is 20 octets longer than the request. -/
theorem refusal_size (e : Int) (flags : UInt16) (portid : UInt32) (nlh : MsgBuf) :
    nlmsgHdrLen + (refusal e flags portid nlh).payload.length = 20 + nlh.nlmsgLen := by
  simp [refusal, messageOctets, MsgBuf.nlmsgLen, nlmsgHdrLen]
  omega

/-- Datagrams for others are read and dropped. -/
theorem skip_stale (seq portid : UInt32) (stale : List (List NlMsg))
    (foreign : ∀ datagram ∈ stale, ∀ msg ∈ datagram, own seq portid msg = false)
    (x : Exchange Unit) :
    scan (receive strerror seq portid applyHandler) x (stale.map .datagram) = (x, none) := by
  have none : stale.flatten.filter (own seq portid) = [] := by
    apply List.filter_eq_nil_iff.mpr
    intro msg member
    obtain ⟨datagram, listed, inside⟩ := List.mem_flatten.mp member
    simp [foreign datagram listed msg inside]
  rw [receive_own, none]
  rfl

/-- The answer ends the exchange: with the refusal's number where it fits the buffer, and with
`ENOSPC` where it does not. -/
theorem receive_refusal (bufSize : Nat) (portid : UInt32) (nlh : MsgBuf) (e : Int)
    (positive : 0 < e) (word : e < 2 ^ 31) (flags : UInt16) (x : Exchange Unit) :
    ∃ after what, receive strerror nlh.seq portid applyHandler x
        (receivedInto bufSize (refusal e flags portid nlh)) =
      (after, some (.threw (.systemError
        (if 20 + nlh.nlmsgLen ≤ bufSize then e else ENOSPC) what))) := by
  rw [receivedInto, refusal_size]
  by_cases fits : 20 + nlh.nlmsgLen ≤ bufSize
  · have nonzero : e ≠ 0 := by omega
    have status := refusal_status e positive word flags portid nlh
    have here : (refusal e flags portid nlh).seq = nlh.seq ∧
        (refusal e flags portid nlh).pid = portid ∧
        (refusal e flags portid nlh).type = NLMSG_ERROR := ⟨rfl, rfl, rfl⟩
    have examined : examine strerror nlh.seq portid applyHandler x (refusal e flags portid nlh) =
        (⟨x.state, x.seen ++ [refusal e flags portid nlh]⟩,
          some (.threw (socketFailure strerror "netlink error: " e))) := by
      simp [examine, here, nonzero, status]
    rw [if_pos fits, if_pos fits]
    exact ⟨_, _, scan_stops _ _ _ _ _ _ examined⟩
  · rw [if_neg fits, if_neg fits]
    exact ⟨x, _, rfl⟩

/-- What the exchange of a refused request throws. -/
theorem refused_exchange (bufSize : Nat) (portid : UInt32) (nlh : MsgBuf) (e : Int)
    (positive : 0 < e) (word : e < 2 ^ 31) (sent : Option Int) (stream : List Received)
    (refused : Refused bufSize portid nlh e sent stream) :
    ∃ what, (sendAndReceive strerror nlh.seq portid applyHandler sent () stream).outcome =
      some (.threw (.systemError
        (if sent.isSome ∨ 20 + nlh.nlmsgLen ≤ bufSize then e else ENOSPC) what)) := by
  cases refused with
  | unsent stream => exact ⟨_, rfl⟩
  | answered stale flags later foreign =>
    obtain ⟨after, what, ended⟩ :=
      receive_refusal strerror bufSize portid nlh e positive word flags { state := () }
    refine ⟨what, ?_⟩
    simp only [sendAndReceive, scan_append, skip_stale strerror nlh.seq portid stale foreign,
      scan_stops _ _ _ _ _ _ ended]
    simp

end Refusals

section Callers

variable (strerror : Int → Bytes) (inet : Inet) (bufSize : Nat) (around : Surroundings)
  (sock : NlSocket) (name : Bytes) (cfg : Config)

/-- The call throws what its exchange throws. -/
theorem refused_call (kernelPath : hasSocket around.access name = .ok false) (familyId : UInt16)
    (known : NlSocket) (queued : List Received)
    (found : wireGuardFamilyId strerror sock around.lookupSent around.stream =
      .value familyId known queued)
    (nlh : MsgBuf) (built : buildSetDeviceMessage inet familyId known.nextSeq.1 name cfg = .ok nlh)
    (e : Int) (positive : 0 < e) (word : e < 2 ^ 31)
    (refused : Refused bufSize known.portid nlh e around.requestSent queued) :
    ∃ what left rest, (applyConfig strerror inet around sock name cfg).2 =
      .threw (.systemError (if around.requestSent.isSome ∨ 20 + requestSize name cfg ≤ bufSize
        then e else ENOSPC) what) left rest := by
  obtain ⟨what, outcome⟩ := refused_exchange strerror bufSize known.portid nlh e positive word
    around.requestSent queued refused
  rw [built_request_size inet familyId _ name cfg nlh built] at outcome
  have port : known.nextSeq.2.portid = known.portid := rfl
  simp only [applyConfig, kernelPath, applyConfigKernel, found, built, Result.call, port, outcome]
  exact ⟨what, _, _, rfl⟩

/-- For every configuration that is sent to the kernel and refused, the caller gets the
kernel's error number exactly when the send itself fails, the answer fits the receive buffer,
or the kernel's number is the one a receive that is too large fails with.

Proof: the size of the request is computed from the configuration, and so is that of the answer,
which repeats the request. The exchange skips what was queued and comes to the answer. There it
throws the kernel's number where the answer was received whole, and `ENOSPC` where it was not. -/
theorem refusal_reported_iff (kernelPath : hasSocket around.access name = .ok false)
    (familyId : UInt16) (known : NlSocket) (queued : List Received)
    (found : wireGuardFamilyId strerror sock around.lookupSent around.stream =
      .value familyId known queued)
    (nlh : MsgBuf) (built : buildSetDeviceMessage inet familyId known.nextSeq.1 name cfg = .ok nlh)
    (e : Int) (positive : 0 < e) (word : e < 2 ^ 31)
    (refused : Refused bufSize known.portid nlh e around.requestSent queued) :
    (∃ what left rest, (applyConfig strerror inet around sock name cfg).2 =
        .threw (.systemError e what) left rest) ↔
      around.requestSent.isSome ∨ 20 + requestSize name cfg ≤ bufSize ∨ e = ENOSPC := by
  obtain ⟨what, left, rest, thrown⟩ := refused_call strerror inet bufSize around sock name cfg
    kernelPath familyId known queued found nlh built e positive word refused
  have same : (∃ text left' rest', Call.threw (α := Unit) (.systemError (if
      around.requestSent.isSome ∨ 20 + requestSize name cfg ≤ bufSize then e else ENOSPC) what) left
        rest = .threw (.systemError e text) left' rest') ↔
      (if around.requestSent.isSome ∨ 20 + requestSize name cfg ≤ bufSize then e else ENOSPC) = e := by
    simp
  rw [thrown, same, ← or_assoc]
  by_cases reported : around.requestSent.isSome ∨ 20 + requestSize name cfg ≤ bufSize
  · rw [if_pos reported]
    exact iff_of_true rfl (.inl reported)
  · rw [if_neg reported, or_iff_right reported]
    exact eq_comm

end Callers

/-- A socket with port 7 that knows the family. -/
def knowingSocket : NlSocket := ⟨7, 0, 30⟩

/-- The kernel refuses the request on `wg0`, which does not exist. -/
def refusing (bufSize : Nat) (nlh : MsgBuf) : Surroundings where
  stream := [receivedInto bufSize (refusal ENODEV 0 7 nlh)]

/-- Without a control socket the name belongs to the kernel. -/
theorem kernel_name : hasSocket (fun _ => false) (ascii "wg0") = .ok false := by decide

/-- Its answer is a refusal of the request, with nothing before it. -/
theorem refusing_refused (bufSize : Nat) (nlh : MsgBuf) :
    Refused bufSize 7 nlh ENODEV none (refusing bufSize nlh).stream :=
  .answered [] 0 [] (by simp)

/-- The size of a request with a given number of ranges: 28 octets for each but the first. -/
theorem repeated_range_request_size (count : Nat) :
    requestSize (ascii "wg0") (repeatedRangeRecord (count + 1)) = 104 + 28 * count := by
  have name : (ascii "wg0").length = 3 := by decide
  simp only [requestSize, repeated_range_size, deviceSize, name]
  simp [repeatedRangeRecord, align]
  omega

/-- A refused request for one range is reported as the kernel refused it. -/
theorem small_refusal_reported :
    ∃ nlh what left rest,
      buildSetDeviceMessage plainInet 30 1 (ascii "wg0") (repeatedRangeRecord 1) = .ok nlh ∧
      (applyConfig (fun _ => []) plainInet (refusing 4096 nlh) knowingSocket (ascii "wg0")
        (repeatedRangeRecord 1)).2 = .threw (.systemError ENODEV what) left rest := by
  obtain ⟨nlh, built⟩ := repeated_range_built 1
  have fits : 20 + requestSize (ascii "wg0") (repeatedRangeRecord 1) ≤ 4096 := by
    rw [repeated_range_request_size 0]
    decide
  obtain ⟨what, left, rest, thrown⟩ := (refusal_reported_iff (fun _ => []) plainInet 4096
    (refusing 4096 nlh) knowingSocket (ascii "wg0") (repeatedRangeRecord 1) kernel_name 30
    knowingSocket _ rfl nlh built ENODEV (by decide) (by decide)
    (refusing_refused 4096 nlh)).mpr (.inr (.inl fits))
  exact ⟨nlh, what, left, rest, built, thrown⟩

/-- A refused request for 300 ranges is reported as `ENOSPC`, even with the largest receive
buffer. The answer repeats the request, which is larger than the buffer, so the receive fails
with a number of its own. -/
theorem large_refusal_misreported :
    ∃ nlh, configFromJs plainInet (repeatedRange 300) = .ok (repeatedRangeRecord 300) ∧
      buildSetDeviceMessage plainInet 30 1 (ascii "wg0") (repeatedRangeRecord 300) = .ok nlh ∧
      Refused 8192 7 nlh ENODEV none (refusing 8192 nlh).stream ∧
      (∃ what left rest, (applyConfig (fun _ => []) plainInet (refusing 8192 nlh) knowingSocket
        (ascii "wg0") (repeatedRangeRecord 300)).2 = .threw (.systemError ENOSPC what) left rest) ∧
      ¬ ∃ what left rest, (applyConfig (fun _ => []) plainInet (refusing 8192 nlh) knowingSocket
        (ascii "wg0") (repeatedRangeRecord 300)).2 = .threw (.systemError ENODEV what) left rest := by
  obtain ⟨nlh, built⟩ := repeated_range_built 300
  have large : ¬ 20 + requestSize (ascii "wg0") (repeatedRangeRecord 300) ≤ 8192 := by
    rw [repeated_range_request_size 299]
    decide
  have refused := refusing_refused 8192 nlh
  have unsent : (refusing 8192 nlh).requestSent = none := rfl
  obtain ⟨what, left, rest, thrown⟩ := refused_call (fun _ => []) plainInet 8192
    (refusing 8192 nlh) knowingSocket (ascii "wg0") (repeatedRangeRecord 300) kernel_name 30
    knowingSocket _ rfl nlh built ENODEV (by decide) (by decide) refused
  rw [if_neg (by simp [unsent, large])] at thrown
  refine ⟨nlh, repeated_range_read 300, built, refused, ⟨what, left, rest, thrown⟩, ?_⟩
  rintro ⟨text, _, _, reported⟩
  rw [thrown] at reported
  have number : ENOSPC ≠ ENODEV := by decide
  simp [number] at reported

end NodeWireguard.RefusedRequest
