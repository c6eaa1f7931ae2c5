import Mathlib
import NodeWireguard.Client.Backends
import NodeWireguard.Netlink.AddressForms
import NodeWireguard.Uapi.GetSections
import NodeWireguard.Uapi.LineAcceptance

/-!
# Listing all devices

`devices()` joins the kernel's interfaces and the names of the control sockets into one set and
fetches each name, through its daemon where the control socket exists and from the kernel where
it does not. The first name that cannot be fetched makes the whole call fail.

A socket file is listed for its name alone. So a file that nobody serves, or one that `access`
does not find, takes every other interface down with it.
-/

namespace NodeWireguard.DeviceListing

open ByteText AddressText AddressForms PublicKey Key IfName Fallible GetResponse LineAcceptance
open WireguardUapi AttributeStream EarlyExit MessageBuffer SocketExchange SocketDirectory Transact
open Backends GetSections DeviceDump

section Names

variable {inet : Inet}

/-- Reading a line leaves the device's name alone. The name is given to the parser and no key
sets it; the cases are the keys of the device, of a peer and of the end. -/
theorem read_line_name (reading next : Reading) (line : Bytes)
    (read : readLine inet reading line = .ok next) : next.device.name = reading.device.name := by
  have device (before after : Device) (key value : Bytes)
      (line : readDeviceLine before key value = .ok after) : after.name = before.name := by
    simp only [readDeviceLine] at line
    split_ifs at line
    · obtain ⟨_, _, same⟩ := (bind_ok_iff _ _ _).mp line
      obtain rfl := Except.ok.inj same
      rfl
    · obtain ⟨_, _, same⟩ := (bind_ok_iff _ _ _).mp line
      obtain rfl := Except.ok.inj same
      rfl
    · obtain ⟨_, _, same⟩ := (bind_ok_iff _ _ _).mp line
      obtain rfl := Except.ok.inj same
      rfl
    · exact congrArg Device.name (Except.ok.inj line).symm
  cases cut : splitFirst (byte '=') line with
  | none =>
    rw [read_unmarked_line reading line cut] at read
    rw [Except.ok.inj read]
  | some parts =>
    obtain ⟨key, value⟩ := parts
    rw [read_marked_line reading line key value cut] at read
    split_ifs at read
    · obtain ⟨_, _, same⟩ := (bind_ok_iff _ _ _).mp read
      rw [Except.ok.inj same]
    · obtain ⟨_, _, same⟩ := (bind_ok_iff _ _ _).mp read
      exact congrArg (fun next => next.device.name) (Except.ok.inj same).symm
    · split at read
      · obtain ⟨_, _, same⟩ := (bind_ok_iff _ _ _).mp read
        exact congrArg (fun next => next.device.name) (Except.ok.inj same).symm
      · obtain ⟨after, line, same⟩ := (bind_ok_iff _ _ _).mp read
        rw [← Except.ok.inj same]
        exact device _ _ _ _ line

/-- A parsed response is a device of the name that was asked for. The induction is on the lines,
and deriving the public key does not touch the name. -/
theorem parse_get_name (ssl : OpenSSL) (name response : Bytes) (device : Device)
    (parsed : parseGetResponse inet ssl name response = .ok device) : device.name = name := by
  have loop (texts : List Bytes) (reading last : Reading)
      (read : texts.foldlM (readLine inet) reading = .ok last) :
      last.device.name = reading.device.name := by
    induction texts generalizing reading with
    | nil => rw [← Except.ok.inj (show Except.ok reading = Except.ok last from read)]
    | cons line texts inductionHypothesis =>
      rw [List.foldlM_cons] at read
      obtain ⟨middle, first, others⟩ := (bind_ok_iff _ _ _).mp read
      exact (inductionHypothesis middle others).trans (read_line_name reading middle line first)
  obtain ⟨last, read, derived⟩ := (bind_ok_iff _ _ _).mp parsed
  have kept : device.name = last.device.name := by
    simp only [derivePublicKey] at derived
    split at derived
    · split at derived
      · rw [← Except.ok.inj derived]
        rfl
      · obtain ⟨_, _, same⟩ := (bind_ok_iff _ _ _).mp derived
        rw [← Except.ok.inj same]
        rfl
    · rw [← Except.ok.inj derived]
      rfl
  exact kept.trans (loop _ _ last read)

end Names

/-- A name that the loop can fetch: the daemon behind an existing control socket answers with a
response none of whose lines is refused, and without the socket it is an interface of the
kernel's. -/
def Reachable (inet : Inet) (system : System) (kernel : List Bytes) (name : Bytes) : Prop :=
  if system.access (pathOf name) then
    ∃ response, Answers (system.connection name) buildGetRequest response ∧
      ¬ GetRefused inet response
  else name ∈ kernel

/-- The call resolves, and has each of the interfaces exactly once. -/
def ListsAll (kernel : List Bytes) (call : Call (List Device)) : Prop :=
  ∃ devices left rest, call = .value devices left rest ∧
    ∀ name ∈ kernel, (devices.map Device.name).count name = 1

section Fetching

variable (strerror : Int → Bytes) (inet : Inet) (ssl : OpenSSL) (fresh : FreshOctets)
  (system : System) (kernel : List Bytes)

/-- `FetchDeviceKernel` in the surroundings the system gives it. -/
def kernelFetch (sock : NlSocket) (queue : List Received) (name : Bytes) : Call Device :=
  fetchDeviceKernel strerror inet fresh sock name (system.lookupSent sock name)
    (system.requestSent sock name) (queue ++ system.arrivals sock name)

/-- In the states of the netlink socket that are ready, the kernel dumps each of its interfaces
under its own name and leaves the socket ready, and dumps nothing else. -/
structure Serves (ready : NlSocket → List Received → Prop) : Prop where
  fetches : ∀ sock queue, ready sock queue → ∀ name ∈ kernel, ∃ device left rest,
    kernelFetch strerror inet fresh system sock queue name = .value device left rest ∧
      device.name = name ∧ ready left rest
  refuses : ∀ sock queue, ready sock queue → ∀ name, name ∉ kernel → ∀ device left rest,
    kernelFetch strerror inet fresh system sock queue name ≠ .value device left rest

/-- The kernel is asked only about valid names. -/
theorem kernel_fetch_valid (sock : NlSocket) (queue : List Received) (name : Bytes) (device : Device)
    (left : NlSocket) (rest : List Received)
    (fetched : kernelFetch strerror inet fresh system sock queue name = .value device left rest) :
    ValidName name := by
  rw [← validate_if_name_iff]
  cases checked : validateIfName name with
  | ok _ => rfl
  | error failure =>
    have refused (familyId : UInt16) (seq : UInt32) :
        buildGetDeviceMessage familyId seq name = .error failure := by
      simp only [buildGetDeviceMessage, checked]
      rfl
    simp only [kernelFetch, fetchDeviceKernel, dumpDevice, refused] at fetched
    split at fetched <;> cases fetched

variable {strerror inet ssl fresh system kernel}

/-- A ready socket fetches exactly the reachable names, under their own names, and is ready
again. The cases are the two backends: the daemon where the control socket of the name exists,
and otherwise the kernel, which serves its own interfaces and refuses all others. -/
theorem fetch_device_spec {ready : NlSocket → List Received → Prop}
    (serves : Serves strerror inet fresh system kernel ready) {pub : Key → Key}
    (derives : ssl.Derives pub) (sock : NlSocket) (queue : List Received)
    (isReady : ready sock queue) (name : Bytes) (valid : ValidName name) :
    (Reachable inet system kernel name → ∃ device left rest,
        fetchDevice strerror inet ssl fresh (system.around sock queue name) sock name =
          .value device left rest ∧ device.name = name ∧ ready left rest) ∧
      ∀ device left rest,
        fetchDevice strerror inet ssl fresh (system.around sock queue name) sock name =
          .value device left rest → Reachable inet system kernel name := by
  have accepted (response : Bytes) := @parse_get_ok_iff inet ssl pub derives name response
  cases socket : system.access (pathOf name) with
  | true =>
    have served : hasSocket (system.around sock queue name).access name = .ok true :=
      (has_socket_ok_iff _ name true).mpr ⟨valid, socket.symm⟩
    have stream : (system.around sock queue name).stream = queue := by
      simp [System.around, socket]
    simp only [fetchDevice, served, transacted_value_iff, stream, Reachable, socket, if_true]
    refine ⟨?_, ?_⟩
    · rintro ⟨response, answers, passes⟩
      obtain ⟨device, parsed⟩ := (accepted response).mpr passes
      exact ⟨device, sock, queue, ⟨⟨response, valid, answers, parsed⟩, rfl, rfl⟩,
        parse_get_name ssl name response device parsed, isReady⟩
    · rintro device left rest ⟨⟨response, -, answers, parsed⟩, -⟩
      exact ⟨response, answers, (accepted response).mp ⟨device, parsed⟩⟩
  | false =>
    have served : hasSocket (system.around sock queue name).access name = .ok false :=
      (has_socket_ok_iff _ name false).mpr ⟨valid, socket.symm⟩
    have asked : fetchDevice strerror inet ssl fresh (system.around sock queue name) sock name =
        kernelFetch strerror inet fresh system sock queue name := by
      simp only [fetchDevice, served]
      simp [System.around, socket, kernelFetch]
    simp only [asked, Reachable, socket, Bool.false_eq_true, if_false]
    refine ⟨fun member => serves.fetches sock queue isReady name member, ?_⟩
    intro device left rest fetched
    by_contra absent
    exact serves.refuses sock queue isReady name absent device left rest fetched

/-- The loop returns exactly when every name is reachable, and then one device for each name,
in order. -/
theorem fetch_devices_spec {ready : NlSocket → List Received → Prop}
    (serves : Serves strerror inet fresh system kernel ready) {pub : Key → Key}
    (derives : ssl.Derives pub) (names : List Bytes) (valid : ∀ name ∈ names, ValidName name)
    (sock : NlSocket) (queue : List Received) (isReady : ready sock queue) :
    ((∀ name ∈ names, Reachable inet system kernel name) → ∃ devices left rest,
        fetchDevices strerror inet ssl fresh system sock queue names = .value devices left rest ∧
          devices.map Device.name = names) ∧
      ∀ devices left rest,
        fetchDevices strerror inet ssl fresh system sock queue names = .value devices left rest →
          ∀ name ∈ names, Reachable inet system kernel name := by
  induction names generalizing sock queue with
  | nil => exact ⟨fun _ => ⟨[], sock, queue, rfl, rfl⟩, fun _ _ _ _ => by simp⟩
  | cons name names inductionHypothesis =>
    obtain ⟨fetches, reaches⟩ := fetch_device_spec serves derives sock queue isReady name
      (valid name List.mem_cons_self)
    have later := fun other member => valid other (List.mem_cons_of_mem name member)
    refine ⟨?_, ?_⟩
    · intro all
      obtain ⟨device, left, rest, fetched, named, nextReady⟩ := fetches (all name List.mem_cons_self)
      obtain ⟨devices, last, end_, others, namedLater⟩ :=
        (inductionHypothesis later left rest nextReady).1
          (fun other member => all other (List.mem_cons_of_mem name member))
      refine ⟨device :: devices, last, end_, ?_, by rw [List.map_cons, named, namedLater]⟩
      simp only [fetchDevices, fetched, others]
    · intro devices last end_ returned
      simp only [fetchDevices] at returned
      split at returned
      · cases returned
      · cases returned
      · rename_i device left rest fetched
        have reachable := reaches device left rest fetched
        obtain ⟨_, _, _, same, -, nextReady⟩ := fetches reachable
        rw [fetched] at same
        obtain ⟨rfl, rfl, rfl⟩ := Call.value.inj same
        split at returned
        · cases returned
        · cases returned
        · rename_i others _ _ fetchedLater
          exact List.forall_mem_cons.mpr ⟨reachable,
            (inductionHypothesis later left rest nextReady).2 _ _ _ fetchedLater⟩

end Fetching

/-- The names the call joins: the kernel's interfaces, and the valid names of socket files. -/
def Joined (directories : Directories) (kernel : List Bytes) (name : Bytes) : Prop :=
  name ∈ kernel ∨ (ValidName name ∧ name ++ suffix ∈ directories.socketDir.getD [])

/-- The set is iterated over the joined names, each once. -/
theorem device_names_spec (strerror : Int → Bytes) (iteration : Iteration)
    (directories : Directories) (kernel : List Bytes)
    (listed : listWireGuardInterfaceNames strerror directories.sysClassNet directories.stat =
      .ok kernel) :
    ∃ names, deviceNames strerror iteration directories = .ok names ∧ names.Nodup ∧
      ∀ name, name ∈ names ↔ Joined directories kernel name := by
  obtain ⟨userspace, found, member⟩ := list_interface_names_spec directories.socketDir
  refine ⟨iteration.order (kernel.toFinset ∪ userspace.toFinset), ?_, iteration.nodup _, ?_⟩
  · simp only [deviceNames, listed, found]
    rfl
  · intro name
    rw [iteration.complete, Finset.mem_union, List.mem_toFinset, List.mem_toFinset, member, Joined]

section Listing

variable {strerror : Int → Bytes} {inet : Inet} {ssl : OpenSSL} {fresh : FreshOctets}
  {system : System} {kernel : List Bytes} {ready : NlSocket → List Received → Prop}
  {pub : Key → Key}

/-- Every name that is listed is a valid interface name: the directory of sockets is filtered,
and the kernel has no other names where it serves them. -/
theorem joined_valid (serves : Serves strerror inet fresh system kernel ready)
    (sock : NlSocket) (queue : List Received) (isReady : ready sock queue)
    (directories : Directories) (name : Bytes) (joined : Joined directories kernel name) :
    ValidName name := by
  rcases joined with interface | ⟨valid, -⟩
  · obtain ⟨device, left, rest, fetched, -⟩ := serves.fetches sock queue isReady name interface
    exact kernel_fetch_valid strerror inet fresh system sock queue name device left rest fetched
  · exact valid

variable (serves : Serves strerror inet fresh system kernel ready) (derives : ssl.Derives pub)
  (iteration : Iteration) (directories : Directories)
  (listed : listWireGuardInterfaceNames strerror directories.sysClassNet directories.stat =
    .ok kernel)
  (sock : NlSocket) (queue : List Received) (isReady : ready sock queue)

include serves derives listed isReady

/-- When every joined name is reachable, the call lists every interface. -/
theorem reachable_listed (reachable : ∀ name, Joined directories kernel name →
    Reachable inet system kernel name) :
    ListsAll kernel
      (devices strerror inet ssl fresh iteration directories system sock queue) := by
  obtain ⟨names, joined, distinct, member⟩ :=
    device_names_spec strerror iteration directories kernel listed
  have valid (name : Bytes) (inside : name ∈ names) : ValidName name :=
    joined_valid serves sock queue isReady directories name ((member name).mp inside)
  obtain ⟨found, left, rest, fetched, named⟩ :=
    (fetch_devices_spec serves derives names valid sock queue isReady).1
      (fun name inside => reachable name ((member name).mp inside))
  refine ⟨found, left, rest, by simp only [devices, joined, fetched], ?_⟩
  intro name interface
  rw [named]
  exact List.count_eq_one_of_mem distinct ((member name).mpr (.inl interface))

/-- A call that resolves has reached every joined name. -/
theorem listed_reachable (found : List Device) (left : NlSocket) (rest : List Received)
    (resolved : devices strerror inet ssl fresh iteration directories system sock queue =
      .value found left rest) :
    ∀ name, Joined directories kernel name → Reachable inet system kernel name := by
  obtain ⟨names, joined, -, member⟩ :=
    device_names_spec strerror iteration directories kernel listed
  have valid (name : Bytes) (inside : name ∈ names) : ValidName name :=
    joined_valid serves sock queue isReady directories name ((member name).mp inside)
  simp only [devices, joined] at resolved
  intro name inside
  exact (fetch_devices_spec serves derives names valid sock queue isReady).2 found left rest
    resolved name ((member name).mpr inside)

/-- With interfaces that the kernel can dump, and whatever is in the socket directory, the call
resolves with every interface exactly once if and only if every joined name whose control
socket exists is answered by its daemon, and every other one is an interface of the kernel's.

Proof: the loop over the names resolves exactly where every read does, by induction on the names
with the socket ready between two reads. A read of a name resolves exactly where its backend
answers, which is the daemon where its control socket exists and the kernel otherwise. The names
are the joined ones, each once, in whatever order the set is iterated. -/
theorem devices_listed_iff :
    ListsAll kernel
        (devices strerror inet ssl fresh iteration directories system sock queue) ↔
      ∀ name, Joined directories kernel name → Reachable inet system kernel name := by
  constructor
  · rintro ⟨found, left, rest, resolved, -⟩
    exact listed_reachable serves derives iteration directories listed sock queue isReady found
      left rest resolved
  · exact reachable_listed serves derives iteration directories listed sock queue isReady

end Listing

/-- The generic header of a reply, and the name attribute of `wg0`. -/
def describedPayload : Bytes := [0, 1, 0, 0] ++ attrBytes WGDEVICE_A_IFNAME (ascii "wg0" ++ [0])

/-- The dump of `wg0`: its name, and the end. -/
def described (seq : UInt32) : NlMsg :=
  ⟨30, NLM_F_MULTI, seq, 7, describedPayload, fun _ => by decide⟩

/-- A message that ends a dump with success. -/
def finished (seq : UInt32) : NlMsg :=
  ⟨NLMSG_DONE, NLM_F_MULTI, seq, 7, [0, 0, 0, 0], fun _ => by decide⟩

/-- The answer for any other name: `ENODEV`. -/
def absent (seq : UInt32) : NlMsg :=
  ⟨NLMSG_ERROR, 0, seq, 7, [0xed, 0xff, 0xff, 0xff], fun _ => by decide⟩

/-- A kernel with the one interface `wg0`, and control sockets nobody serves. -/
def unserved (access : Bytes → Bool) : System where
  access
  connection _ := { connect := some 111 }
  lookupSent _ _ := none
  requestSent _ _ := none
  arrivals sock name :=
    if name = ascii "wg0" then [.datagram [described (sock.seq + 1), finished (sock.seq + 1)]]
    else [.datagram [absent (sock.seq + 1)]]

/-- The socket has port 7 and knows the family, and nothing is queued. -/
def Idle (sock : NlSocket) (queue : List Received) : Prop :=
  sock.portid = 7 ∧ sock.wgFamilyId = 30 ∧ queue = []

/-- An exchange whose own messages come in one datagram. -/
theorem exchange_of_datagram {σ : Type} (seq : UInt32) (handler : σ → NlMsg → σ × Bool) (state : σ)
    (messages : List NlMsg) (after : Exchange σ) (ended : Outcome)
    (walked : scan (examine (fun _ => []) seq 7 handler) { state } messages = (after, some ended)) :
    sendAndReceive (fun _ => []) seq 7 handler none state [.datagram messages] =
      ⟨after, some ended, []⟩ := by
  simp [sendAndReceive, scan, unread, receive, walked]

/-- The sample kernel serves its one interface, whichever control sockets there are. Ready are
the sockets with nothing queued; the dump of the one interface is computed, and every other name
is refused by an error of the kernel. -/
theorem unserved_serves (access : Bytes → Bool) :
    Serves (fun _ => []) plainInet zeroed (unserved access) [ascii "wg0"] Idle where
  fetches sock queue isReady name interface := by
    obtain ⟨portid, seq, familyId⟩ := sock
    obtain ⟨rfl, rfl, rfl⟩ := isReady
    obtain rfl := List.mem_singleton.mp interface
    let handler := deviceHandler plainInet zeroed
    let dumped := parseDeviceMessage plainInet zeroed { name := ascii "wg0" } describedPayload
    have kinds : (30 : UInt16) ≠ NLMSG_ERROR ∧ (30 : UInt16) ≠ NLMSG_DONE ∧ NLM_F_MULTI ≠ 0 ∧
        NLMSG_DONE ≠ NLMSG_ERROR := by decide
    have first : examine (fun _ => []) (seq + 1) 7 handler { state := { name := ascii "wg0" } }
        (described (seq + 1)) = (⟨dumped, [described (seq + 1)]⟩, none) := by
      simp [examine, described, handler, deviceHandler, kinds, dumped]
    have last : examine (fun _ => []) (seq + 1) 7 handler ⟨dumped, [described (seq + 1)]⟩
        (finished (seq + 1)) =
          (⟨dumped, [described (seq + 1), finished (seq + 1)]⟩, some (.returned false)) := by
      simp [examine, finished, kinds]
    have walked := (scan_continues _ _ _ _ [finished (seq + 1)] first).trans
      (scan_stops _ _ _ _ [] _ last)
    have fetched : kernelFetch (fun _ => []) plainInet zeroed (unserved access) ⟨7, seq, 30⟩ []
        (ascii "wg0") = .value dumped ⟨7, seq + 1, 30⟩ [] := by
      change (sendAndReceive (fun _ => []) (seq + 1) 7 handler none { name := ascii "wg0" }
        [.datagram [described (seq + 1), finished (seq + 1)]]).call ⟨7, seq + 1, 30⟩ = _
      rw [exchange_of_datagram _ _ _ _ _ _ walked]
      rfl
    have named : dumped.name = ascii "wg0" := by decide
    exact ⟨dumped, _, _, fetched, named, rfl, rfl, rfl⟩
  refuses sock queue isReady name other device left rest fetched := by
    have valid := kernel_fetch_valid _ _ _ _ sock queue name device left rest fetched
    obtain ⟨portid, seq, familyId⟩ := sock
    obtain ⟨rfl, rfl, rfl⟩ := isReady
    have unlisted : name ≠ ascii "wg0" := by simpa using other
    have refused : examine (fun _ => []) (seq + 1) 7 (deviceHandler plainInet zeroed)
        { state := { name } } (absent (seq + 1)) = (⟨{ name }, [absent (seq + 1)]⟩,
          some (.threw (socketFailure (fun _ => []) "netlink error: " 19))) := by
      have status : (absent (seq + 1)).status = -19 := rfl
      have kind : (absent (seq + 1)).type = NLMSG_ERROR ∧ (absent (seq + 1)).seq = seq + 1 ∧
          (absent (seq + 1)).pid = 7 := ⟨rfl, rfl, rfl⟩
      simp [examine, kind, status]
    have built : ∃ nlh, buildGetDeviceMessage 30 (seq + 1) name = .ok nlh ∧ nlh.seq = seq + 1 := by
      simp only [buildGetDeviceMessage, (validate_if_name_iff name).mpr valid]
      exact ⟨_, rfl, rfl⟩
    obtain ⟨nlh, message, number⟩ := built
    have known (stream : List Received) : wireGuardFamilyId (fun _ => []) ⟨7, seq, 30⟩ none stream =
        .value 30 ⟨7, seq, 30⟩ stream := rfl
    have asked : (unserved access).arrivals ⟨7, seq, 30⟩ name = [.datagram [absent (seq + 1)]] :=
      if_neg unlisted
    have unsent : (unserved access).lookupSent ⟨7, seq, 30⟩ name = none ∧
        (unserved access).requestSent ⟨7, seq, 30⟩ name = none := ⟨rfl, rfl⟩
    simp only [kernelFetch, fetchDeviceKernel, unsent, asked, known, dumpDevice, NlSocket.nextSeq,
      message, dumpExchange, number, List.nil_append,
      exchange_of_datagram _ _ _ _ _ _ (scan_stops _ _ _ _ [] _ refused), Result.call] at fetched
    cases fetched

/-- Names in the order `Finset.toList` gives them. The order of an `unordered_set` is not
specified, so nothing may depend on it. -/
noncomputable def someOrder : Iteration where
  order := Finset.toList
  nodup names := names.nodup_toList
  complete _ _ := Finset.mem_toList

/-- The interfaces `lo` and `wg0`, of which the second is a WireGuard interface, and the files
of the socket directory. -/
def oneInterface (files : List Bytes) : Directories where
  sysClassNet := .ok [ascii ".", ascii "..", ascii "lo", ascii "wg0"]
  stat path := path = ascii "/sys/class/net/wg0/wireguard"
  socketDir := some files

/-- The sample directory of network devices holds one that is a tunnel. -/
theorem one_interface_listed (files : List Bytes) :
    listWireGuardInterfaceNames (fun _ => []) (oneInterface files).sysClassNet
      (oneInterface files).stat = .ok [ascii "wg0"] := rfl

/-- Files that are no control sockets of an interface leave the listing alone. -/
theorem unrelated_file_ignored :
    ListsAll [ascii "wg0"] (devices (fun _ => []) plainInet idleSsl zeroed someOrder
      (oneInterface [ascii "notes.txt"]) (unserved (fun _ => false)) ⟨7, 0, 30⟩ []) := by
  apply (devices_listed_iff (unserved_serves (fun _ => false)) idle_ssl_derives someOrder
    (oneInterface [ascii "notes.txt"]) (one_interface_listed _) ⟨7, 0, 30⟩ [] ⟨rfl, rfl, rfl⟩).mpr
  rintro name (interface | ⟨-, file⟩)
  · exact interface
  · have same : name ++ suffix = ascii "notes.txt" := by simpa [oneInterface] using file
    have ending : suffix <:+ ascii "notes.txt" := ⟨name, same⟩
    exact absurd ending (by decide)

/-- One socket file that nobody serves makes the whole listing fail. -/
theorem stale_socket_fails_listing :
    Serves (fun _ => []) plainInet zeroed (unserved (· = pathOf (ascii "stale"))) [ascii "wg0"]
        Idle ∧
      Idle ⟨7, 0, 30⟩ [] ∧
      ¬ ListsAll [ascii "wg0"] (devices (fun _ => []) plainInet idleSsl zeroed someOrder
        (oneInterface [ascii "stale.sock"]) (unserved (· = pathOf (ascii "stale"))) ⟨7, 0, 30⟩
        []) := by
  have serves := unserved_serves (· = pathOf (ascii "stale"))
  refine ⟨serves, ⟨rfl, rfl, rfl⟩, ?_⟩
  rintro ⟨found, left, rest, resolved, -⟩
  have joined : Joined (oneInterface [ascii "stale.sock"]) [ascii "wg0"] (ascii "stale") :=
    .inr ⟨(validate_if_name_iff _).mp (by decide), by decide⟩
  have reached := listed_reachable serves idle_ssl_derives someOrder _ (one_interface_listed _)
    ⟨7, 0, 30⟩ [] ⟨rfl, rfl, rfl⟩ found left rest resolved _ joined
  have exists_ : (unserved (· = pathOf (ascii "stale"))).access (pathOf (ascii "stale")) = true := by
    simp [unserved]
  rw [Reachable, if_pos exists_] at reached
  obtain ⟨response, answers, -⟩ := reached
  exact absurd answers.connected (by simp [unserved])

end NodeWireguard.DeviceListing
