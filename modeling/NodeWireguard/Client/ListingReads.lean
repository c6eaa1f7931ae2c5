import Mathlib
import NodeWireguard.Client.DeviceListing
import NodeWireguard.Client.DeviceReads

/-!
# Listing a whole system

`devices()` reads one interface after the other on the same netlink socket. The first read
from the kernel asks for the family; later ones find it known. Each read leaves behind what
it did not need, the acknowledgement of the lookup for one, and the next one starts with that.

While the sequence counter does not wrap, none of this shows. With backends that answer as
their protocols ask, the listing has every interface of the kernel's and of the daemons', each
once and as the state that its backend has.
-/

namespace NodeWireguard.ListingReads

open ByteText Key PublicKey AddressText WireguardUapi MessageBuffer IfName JsValues DeviceToJs
open DeviceSettings DumpFields SocketExchange ExchangeOutcome RequestRuns Transact GetResponse
open GetSections SocketDirectory Backends ReadPaths DeviceListing DeviceReads

/-- The messages for a port carry numbers up to the counter. -/
def Issued (portid counter : UInt32) (datagrams : List (List NlMsg)) : Prop :=
  ∀ msg ∈ datagrams.flatten, msg.pid = portid → msg.seq.toNat ≤ counter.toNat

/-- The socket of the client between two reads: only messages of earlier requests, or for
other ports, are queued. -/
structure Ready (portid : UInt32) (sock : NlSocket) (queue : List Received) : Prop where
  own : sock.portid = portid
  queued : ∃ datagrams, queue = datagrams.map .datagram ∧ Issued portid sock.seq datagrams

/-- A system whose backends answer reads of the named interfaces: the kernel on any socket of
the port that asks, each daemon on its control socket. A message for the port answers a request
that was sent. -/
structure Truthful (inet : Inet) (pub : Key → Key) (portid : UInt32) (system : System)
    (names : Bytes → Prop) (stateOf : Bytes → DeviceState) : Prop where
  named : ∀ name, names name → (stateOf name).name = name
  kernel : ∀ name, names name → system.access (pathOf name) = false → ∀ sock : NlSocket,
    sock.portid = portid → sock.seq.toNat + 2 < 2 ^ 32 →
      system.lookupSent sock name = none ∧ system.requestSent sock name = none ∧
      ∃ payloads datagrams, system.arrivals sock name = datagrams.map .datagram ∧
        KernelAnswers sock payloads datagrams ∧ Issued portid (lastSeq sock) datagrams ∧
        DumpOf pub (stateOf name) payloads ∧
        ((stateOf name).privateKey = none → lookup WGDEVICE_A_PRIVATE_KEY (deviceAttrs payloads) = none ∧
          lookup WGDEVICE_A_PUBLIC_KEY (deviceAttrs payloads) = none)
  daemon : ∀ name, names name → system.access (pathOf name) = true → ∃ response fields sections,
    Answers (system.connection name) buildGetRequest response ∧
      ResponseOf inet (stateOf name) response fields sections ∧
      ((stateOf name).privateKey = none → lastOf DeviceField.asPrivateKey fields = none)

/-- The type an interface is shown with. The backend decides, and that is chosen by the control
socket alone. -/
def typeOf (system : System) (name : Bytes) : String :=
  if system.access (pathOf name) then "userspace" else "linux-kernel"

section Numbers

/-- The counter does not wrap while there is room. -/
theorem next_number (seq : UInt32) (room : seq.toNat + 1 < 2 ^ 32) : (seq + 1).toNat = seq.toNat + 1 := by
  rw [UInt32.toNat_add, UInt32.toNat_one]
  omega

/-- The counter moves on by one or two. -/
theorem last_seq_bounds (sock : NlSocket) (room : sock.seq.toNat + 2 < 2 ^ 32) :
    sock.seq.toNat < (lastSeq sock).toNat ∧ (lastSeq sock).toNat ≤ sock.seq.toNat + 2 := by
  have one := next_number sock.seq (by omega)
  have two := next_number (sock.seq + 1) (by omega)
  unfold lastSeq
  split
  · omega
  · omega

/-- Messages with numbers up to the counter are foreign to a later request. -/
theorem issued_foreign (sock : NlSocket) (seq : UInt32) (datagrams : List (List NlMsg))
    (issued : Issued sock.portid sock.seq datagrams) (later : sock.seq.toNat < seq.toNat) :
    ∀ msg ∈ datagrams.flatten, own seq sock.portid msg = false := by
  intro msg member
  by_contra mine
  obtain ⟨sameSeq, samePid⟩ : msg.seq = seq ∧ msg.pid = sock.portid := by simpa [own] using mine
  have bound := issued msg member samePid
  rw [sameSeq] at bound
  omega

/-- An answer is one also behind what earlier requests left. -/
theorem answers_after (sock : NlSocket) (payloads : List Bytes) (earlier datagrams : List (List NlMsg))
    (room : sock.seq.toNat + 2 < 2 ^ 32) (issued : Issued sock.portid sock.seq earlier)
    (answers : KernelAnswers sock payloads datagrams) :
    KernelAnswers sock payloads (earlier ++ datagrams) := by
  have one := next_number sock.seq (by omega)
  have two := next_number (sock.seq + 1) (by omega)
  have first := issued_foreign sock (sock.seq + 1) earlier issued (by omega)
  have second := issued_foreign sock (sock.seq + 1 + 1) earlier issued (by omega)
  cases answers with
  | known _ family dump => exact .known _ family (dump_after earlier datagrams _ _ payloads first dump)
  | asked lookup datagrams family reply early dump =>
    rw [← List.append_assoc]
    refine .asked (earlier ++ lookup) datagrams family ?_ ?_ dump
    · have none : earlier.flatten.filter (own (sock.seq + 1) sock.portid) = [] :=
        List.filter_eq_nil_iff.mpr (fun msg member mine => by simp [first msg member] at mine)
      rwa [List.flatten_append, List.filter_append, none, List.nil_append]
    · intro msg member
      rw [List.flatten_append, List.mem_append] at member
      exact member.elim (second msg) (early msg)

end Numbers

section Listing

variable {inet : Inet} {pub : Key → Key} {portid : UInt32} {system : System} {names : Bytes → Prop}
  {stateOf : Bytes → DeviceState} (truthful : Truthful inet pub portid system names stateOf)
  (strerror : Int → Bytes) {ssl : OpenSSL} (derives : ssl.Derives pub) (fresh : FreshOctets)

include truthful derives

/-- One read shows the state, and leaves the socket ready for the next. From the kernel, what is
queued is foreign to both requests, so the answer behind it is read as it would be alone, and
what it leaves carries numbers issued so far. The daemon does not touch the netlink socket. -/
theorem fetch_in_turn (name : Bytes) (member : names name) (sock : NlSocket) (queue : List Received)
    (ready : Ready portid sock queue) (room : sock.seq.toNat + 2 < 2 ^ 32) :
    ∃ device left rest,
      fetchDevice strerror inet ssl fresh (system.around sock queue name) sock name =
        .value device left rest ∧
      deviceToJs device = shownState inet pub (typeOf system name) (stateOf name) ∧
      Ready portid left rest ∧ left.seq.toNat ≤ sock.seq.toNat + 2 := by
  have same := truthful.named name member
  obtain ⟨mine, queued, isQueue, issued⟩ := ready
  have valid : ValidName name := same ▸ (stateOf name).named
  have found := (has_socket_ok_iff system.access name _).mpr ⟨valid, rfl⟩
  cases access : system.access (pathOf name) with
  | false =>
    rw [access] at found
    obtain ⟨lookupSent, requestSent, payloads, datagrams, arrivals, answers, arrived, dump, unset⟩ :=
      truthful.kernel name member access sock mine room
    have around : hasSocket (system.around sock queue name).access name = .ok false ∧
        (system.around sock queue name).lookupSent = none ∧
        (system.around sock queue name).requestSent = none := ⟨found, lookupSent, requestSent⟩
    have stream : (system.around sock queue name).stream = (queued ++ datagrams).map .datagram := by
      simp [System.around, access, isQueue, arrivals]
    obtain ⟨after, left, port, number, suffix, read⟩ := kernel_device_read strerror inet fresh sock name
      valid payloads (queued ++ datagrams)
      (answers_after sock payloads queued datagrams room (mine ▸ issued) answers)
    obtain ⟨grows, bounded⟩ := last_seq_bounds sock room
    refine ⟨payloads.foldl (DeviceDump.parseDeviceMessage inet fresh) { name }, after,
      left.map .datagram, ?_, ?_, ⟨port.trans mine, left, rfl, ?_⟩, by rwa [number]⟩
    · simp only [fetchDevice, around, stream, read]
    · rw [typeOf, access, if_neg Bool.false_ne_true]
      have shown := dump_shown inet fresh payloads dump unset
      rwa [same] at shown
    · intro msg within isPort
      obtain ⟨datagram, listed, inside⟩ := List.mem_flatten.mp within
      rw [number]
      rcases List.mem_append.mp (suffix.mem listed) with old | new
      · exact (issued msg (List.mem_flatten.mpr ⟨datagram, old, inside⟩) isPort).trans grows.le
      · exact arrived msg (List.mem_flatten.mpr ⟨datagram, new, inside⟩) isPort
  | true =>
    obtain ⟨response, fields, sections, answers, isResponse, unset⟩ :=
      truthful.daemon name member access
    have isFound : hasSocket (system.around sock queue name).access name = .ok true :=
      access ▸ found
    have stream : (system.around sock queue name).stream = queue := by
      simp [System.around, access]
    have parsed := parse_response inet ssl pub derives name response fields sections isResponse.gives
    have read := (transacted_value_iff strerror (system.around sock queue name) sock name
      buildGetRequest (parseGetResponse inet ssl name) _ sock (system.around sock queue name).stream).mpr
        ⟨⟨response, valid, answers, parsed⟩, rfl, rfl⟩
    refine ⟨deviceOf pub name fields sections, sock, queue, ?_, ?_,
      ⟨mine, queued, isQueue, issued⟩, by omega⟩
    · simp only [fetchDevice, isFound, read, stream]
    · rw [typeOf, access, if_pos rfl, ← response_shown inet response fields sections isResponse unset,
        same]

/-- The loop of the worker shows one state after the other. -/
theorem fetch_devices_shown (listed : List Bytes) (part : ∀ name ∈ listed, names name) (sock : NlSocket)
    (queue : List Received) (ready : Ready portid sock queue)
    (room : sock.seq.toNat + 2 * listed.length < 2 ^ 32) :
    ∃ devices left rest,
      fetchDevices strerror inet ssl fresh system sock queue listed = .value devices left rest ∧
      devices.map deviceToJs =
        listed.map (fun name => shownState inet pub (typeOf system name) (stateOf name)) := by
  induction listed generalizing sock queue with
  | nil => exact ⟨[], sock, queue, rfl, rfl⟩
  | cons name others inductionHypothesis =>
    obtain ⟨member, later⟩ := List.forall_mem_cons.mp part
    rw [List.length_cons] at room
    obtain ⟨device, left, rest, fetched, shown, nextReady, counted⟩ := fetch_in_turn truthful strerror
      derives fresh name member sock queue ready (by omega)
    obtain ⟨devices, last, remaining, collected, shownLater⟩ :=
      inductionHypothesis later left rest nextReady (by omega)
    refine ⟨device :: devices, last, remaining, ?_, ?_⟩
    · simp only [fetchDevices, fetched, collected]
    · rw [List.map_cons, List.map_cons, shown, shownLater]

end Listing

/-- There are at most as many joined names as kernel interfaces and socket files. -/
theorem joined_length (directories : Directories) (kernel names : List Bytes) (nodup : names.Nodup)
    (joined : ∀ name, name ∈ names ↔ Joined directories kernel name) :
    names.length ≤ kernel.length + (directories.socketDir.getD []).length := by
  let stem (file : Bytes) : Bytes := file.take (file.length - suffix.length)
  have part : names ⊆ kernel ++ (directories.socketDir.getD []).map stem := by
    intro name member
    rw [List.mem_append, List.mem_map]
    rcases (joined name).mp member with interface | ⟨-, file⟩
    · exact .inl interface
    · refine .inr ⟨name ++ suffix, file, ?_⟩
      simp only [stem, List.length_append, Nat.add_sub_cancel]
      exact List.take_left' rfl
  have bounded := (nodup.subperm part).length_le
  rwa [List.length_append, List.length_map] at bounded

/-- The listing of a system whose backends answer has every interface of the kernel's and of
the daemons' exactly once, each shown as the state that its backend has, whatever order the
names come in and whatever earlier requests left in the queue.

Proof: by induction on the names, with the socket ready before each read: what is queued answers
earlier requests or is for other ports, so the next read skips it. Each read is then the one of a
single device. -/
theorem listing_shows_system (strerror : Int → Bytes) (inet : Inet) (ssl : OpenSSL) (pub : Key → Key)
    (derives : ssl.Derives pub) (fresh : FreshOctets) (iteration : Iteration)
    (directories : Directories) (kernel : List Bytes)
    (listed : listWireGuardInterfaceNames strerror directories.sysClassNet directories.stat = .ok kernel)
    (system : System) (portid : UInt32) (stateOf : Bytes → DeviceState)
    (truthful : Truthful inet pub portid system (Joined directories kernel) stateOf)
    (sock : NlSocket) (queue : List Received) (ready : Ready portid sock queue)
    (room : sock.seq.toNat + 2 * (kernel.length + (directories.socketDir.getD []).length) < 2 ^ 32) :
    ∃ (names : List Bytes) (found : List Device) (left : NlSocket) (rest : List Received),
      devices strerror inet ssl fresh iteration directories system sock queue = .value found left rest ∧
      names.Nodup ∧ (∀ name, name ∈ names ↔ Joined directories kernel name) ∧
      found.map deviceToJs =
        names.map (fun name => shownState inet pub (typeOf system name) (stateOf name)) := by
  obtain ⟨names, joined, nodup, member⟩ := device_names_spec strerror iteration directories kernel listed
  have few := joined_length directories kernel names nodup member
  obtain ⟨found, left, rest, fetched, shown⟩ := fetch_devices_shown truthful strerror derives fresh names
    (fun name isName => (member name).mp isName) sock queue ready (by omega)
  refine ⟨names, found, left, rest, ?_, nodup, member, shown⟩
  simp only [devices, joined, fetched]

/-- The sample device under the name of a daemon. -/
def daemonState : DeviceState :=
  { sampleState with
    name := ascii "wg1"
    named := (validate_if_name_iff _).mp (by decide) }

/-- The reply to a lookup: the family is 30. -/
def sampleReply (seq : UInt32) : NlMsg :=
  ⟨GENL_ID_CTRL, 0, seq, 7, [1, 2, 0, 0, 6, 0, 1, 0, 30, 0, 0, 0], fun _ => by decide⟩

/-- What the kernel sends to a socket that asks: the reply and the acknowledgement of a lookup
where the family is not known, and the sample device in one datagram. -/
def mixedDatagrams (sock : NlSocket) : List (List NlMsg) :=
  (if sock.wgFamilyId = 0 then
      [[sampleReply (sock.seq + 1)], [status0 NLMSG_ERROR (sock.seq + 1) 7]]
    else []) ++
    [(sampleDump []).map (samplePart (lastSeq sock)) ++ [status0 NLMSG_DONE (lastSeq sock) 7]]

/-- The kernel dumps the sample device for every name, and a daemon serves `wg1`. -/
def mixedSystem : System where
  access path := path = pathOf (ascii "wg1")
  connection _ := sampleConnection
  lookupSent _ _ := none
  requestSent _ _ := none
  arrivals sock _ := (mixedDatagrams sock).map .datagram

/-- The state of each interface of the sample system. -/
def mixedState (name : Bytes) : DeviceState := if name = ascii "wg1" then daemonState else sampleState

/-- A dump in one datagram. -/
theorem sample_dump_messages (seq : UInt32) : DumpMessages (sampleDump [])
    ([(sampleDump []).map (samplePart seq) ++ [status0 NLMSG_DONE seq 7]].flatten.filter (own seq 7)) := by
  have mine : ∀ msg ∈ (sampleDump []).map (samplePart seq) ++ [status0 NLMSG_DONE seq 7],
      own seq 7 msg = true := by
    intro msg member
    rcases List.mem_append.mp member with part | done
    · obtain ⟨payload, -, rfl⟩ := List.mem_map.mp part
      simp [own, samplePart]
    · obtain rfl := List.mem_singleton.mp done
      simp [own, status0]
  refine ⟨_, status0 NLMSG_DONE seq 7, [], ?_, ?_, sample_parts_incomplete seq, rfl⟩
  · rw [List.flatten_singleton]
    exact List.filter_eq_self.mpr mine
  · rw [List.map_map]
    exact List.map_id _

/-- The system has one interface of the kernel and one of a daemon. -/
theorem mixed_names (name : Bytes)
    (joined : Joined (oneInterface [ascii "wg1.sock"]) [ascii "wg0"] name) :
    name = ascii "wg0" ∨ name = ascii "wg1" := by
  rcases joined with interface | ⟨-, file⟩
  · exact .inl (List.mem_singleton.mp interface)
  · have listed : name ++ suffix ∈ [ascii "wg1.sock"] := file
    have same : ascii "wg1.sock" = ascii "wg1" ++ suffix := by decide
    exact .inr (List.append_cancel_right ((List.mem_singleton.mp listed).trans same))

/-- Its kernel answers a socket of the port, whether or not the family is known there. -/
theorem mixed_kernel_answers (seq : UInt32) (familyId : UInt16) :
    KernelAnswers ⟨7, seq, familyId⟩ (sampleDump []) (mixedDatagrams ⟨7, seq, familyId⟩) := by
  unfold mixedDatagrams
  by_cases unknown : familyId = 0
  · subst unknown
    have later : seq + 1 ≠ seq + 1 + 1 := by simp
    have kind : GENL_ID_CTRL ≠ NLMSG_ERROR ∧ GENL_ID_CTRL ≠ NLMSG_DONE ∧
        0 &&& NLM_F_MULTI = 0 := by decide
    have found : (familyIdHandler 0 (sampleReply 0)).1 ≠ 0 := by decide
    refine .asked _ _ rfl ⟨sampleReply (seq + 1), [status0 NLMSG_ERROR (seq + 1) 7], ?_, kind.1,
      kind.2.1, kind.2.2, found⟩ ?_ (sample_dump_messages (seq + 1 + 1))
    · simp [own, status0, sampleReply]
    · simp [own, status0, sampleReply, later]
  · have known : lastSeq ⟨7, seq, familyId⟩ = seq + 1 := if_neg unknown
    rw [if_neg unknown, known]
    exact .known _ unknown (sample_dump_messages (seq + 1))

/-- It uses the numbers of the lookup and of the dump only. The reply and the acknowledgement
carry the first number after the counter, and the dump the last one that is taken. -/
theorem mixed_issued (seq : UInt32) (familyId : UInt16) (room : seq.toNat + 2 < 2 ^ 32) :
    Issued 7 (lastSeq ⟨7, seq, familyId⟩) (mixedDatagrams ⟨7, seq, familyId⟩) := by
  obtain ⟨grows, -⟩ := last_seq_bounds ⟨7, seq, familyId⟩ room
  have first := next_number seq (Nat.lt_of_succ_lt room)
  intro msg member _
  have numbered : msg.seq = seq + 1 ∨ msg.seq = lastSeq ⟨7, seq, familyId⟩ := by
    rw [mixedDatagrams, List.flatten_append, List.mem_append] at member
    rcases member with asked | dumped
    · left
      split at asked
      · rcases List.mem_pair.mp asked with rfl | rfl
        · rfl
        · rfl
      · cases asked
    · right
      rw [List.flatten_singleton, List.mem_append] at dumped
      rcases dumped with part | done
      · obtain ⟨payload, -, rfl⟩ := List.mem_map.mp part
        rfl
      · rw [List.mem_singleton.mp done]
        rfl
  rcases numbered with asked | dumped
  · rw [asked, first]
    exact grows
  · rw [dumped]

/-- Its daemon answers with a response that describes the sample device. -/
theorem mixed_daemon_answers : ∃ response fields sections,
    Answers (mixedSystem.connection (ascii "wg1")) buildGetRequest response ∧
      ResponseOf AddressForms.plainInet daemonState response fields sections ∧
      (daemonState.privateKey = none → lastOf DeviceField.asPrivateKey fields = none) :=
  ⟨_, _, _, sample_connection_answers, ⟨sample_response.gives, sample_response.privateKey,
    sample_response.listenPort, sample_response.firewallMark, sample_response.peers⟩, fun _ => rfl⟩

/-- Both backends of the sample system tell the state of their interface. The kernel's interface
has no control socket and the daemon's has one, which decides which of the two is asked. -/
theorem mixed_truthful : Truthful AddressForms.plainInet id 7 mixedSystem
    (Joined (oneInterface [ascii "wg1.sock"]) [ascii "wg0"]) mixedState where
  named := by
    intro name joined
    rcases mixed_names name joined with rfl | rfl
    · decide
    · decide
  kernel := by
    intro name joined absent sock port room
    have isKernel : name = ascii "wg0" := by
      rcases mixed_names name joined with rfl | rfl
      · rfl
      · exact absurd absent (by decide)
    subst isKernel
    obtain ⟨portid, seq, familyId⟩ := sock
    obtain rfl : portid = 7 := port
    exact ⟨rfl, rfl, sampleDump [], _, rfl, mixed_kernel_answers seq familyId,
      mixed_issued seq familyId room, sample_dumped, fun _ => ⟨by decide +kernel, by decide +kernel⟩⟩
  daemon := by
    intro name joined present
    have isDaemon : name = ascii "wg1" := by
      rcases mixed_names name joined with rfl | rfl
      · exact absurd present (by decide)
      · rfl
    subst isDaemon
    exact mixed_daemon_answers

/-- A new client lists the kernel's interface and the daemon's. -/
theorem mixed_system_shown :
    ∃ (names : List Bytes) (found : List Device) (left : NlSocket) (rest : List Received),
      devices (fun _ => []) AddressForms.plainInet idleSsl zeroed someOrder
        (oneInterface [ascii "wg1.sock"]) mixedSystem ⟨7, 0, 0⟩ [] = .value found left rest ∧
      names.Nodup ∧ (∀ name, name ∈ names ↔ Joined (oneInterface [ascii "wg1.sock"]) [ascii "wg0"] name) ∧
      found.map deviceToJs = names.map (fun name => shownState AddressForms.plainInet id
        (typeOf mixedSystem name) (mixedState name)) :=
  listing_shows_system (fun _ => []) AddressForms.plainInet idleSsl id idle_ssl_derives zeroed someOrder
    (oneInterface [ascii "wg1.sock"]) [ascii "wg0"] (one_interface_listed _) mixedSystem 7 mixedState
    mixed_truthful ⟨7, 0, 0⟩ [] ⟨rfl, [], rfl, by simp [Issued]⟩ (by decide)

end NodeWireguard.ListingReads
