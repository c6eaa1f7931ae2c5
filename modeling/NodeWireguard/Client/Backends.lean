import Mathlib
import NodeWireguard.Netlink.SocketExchange
import NodeWireguard.Uapi.GetResponse
import NodeWireguard.Uapi.SetRequest
import NodeWireguard.Uapi.Transact

/-!
# The two backends behind a call

`ApplyConfig` and `FetchDevice` of `WireGuardClient.cpp`, `BuildGetRequest` of `UapiCodec.cpp`,
`ListWireGuardInterfaceNames` of `RtLink.cpp`, and the worker of `Devices`. An interface whose
control socket exists is served by its daemon, any other by the kernel.

What the system answers during a call is given with it. `ApplyConfig` also tells which requests
it handed to a transport, in order; whether a transport then delivers them is its own matter.
An `unordered_set` is iterated in some order of its elements.
-/

namespace NodeWireguard.Backends

open ByteText AddressText PublicKey MessageBuffer SetDeviceMessage SetRequest GetResponse
open SocketExchange SocketDirectory Transact

/-- What the system answers while a call runs: which paths exist, the system calls of a
connection, the error numbers of the two netlink sends, and what the netlink socket receives. -/
structure Surroundings where
  access : Bytes → Bool := fun _ => false
  connection : SystemCalls := {}
  lookupSent : Option Int := none
  requestSent : Option Int := none
  stream : List Received := []

/-- A request handed to `SendAndReceive` or `Transact`. The list of these is kept beside a call,
so that what left the process can be told from what the call returned. -/
inductive Handed where
  | lookup (nlh : MsgBuf)
  | setDevice (nlh : MsgBuf)
  | transact (name request : Bytes)

/-- Every request but the family lookup sets a device. -/
def Handed.isSet : Handed → Bool
  | .lookup _ => false
  | .setDevice _ | .transact _ _ => true

/-- `BuildGetRequest` -/
def buildGetRequest : Bytes := ascii "get=1\n\n"

section Calls

variable (strerror : Int → Bytes)

/-- A transaction and the parsing of its response. An exception of either ends the call, and the
netlink side is not touched. -/
def transacted {α : Type} (around : Surroundings) (sock : NlSocket) (name request : Bytes)
    (parse : Bytes → Except Exception α) : Call α :=
  match (transact strerror around.connection name request).outcome with
  | none => .waiting
  | some (.error failure) => .threw failure sock around.stream
  | some (.ok response) =>
      match parse response with
      | .ok value => .value value sock around.stream
      | .error failure => .threw failure sock around.stream

/-- What `WireGuardFamilyId` sends: nothing once the family is known. -/
def lookupRequests (sock : NlSocket) : List Handed :=
  if sock.wgFamilyId ≠ 0 then [] else [.lookup (familyRequest sock.nextSeq.1)]

variable (inet : Inet)

/-- `ApplyConfig` without a control socket. The family comes first, then the message is built
under the next number, and only then is it sent; an exception on the way leaves the rest out. -/
def applyConfigKernel (around : Surroundings) (sock : NlSocket) (name : Bytes) (cfg : Config) :
    List Handed × Call Unit :=
  match wireGuardFamilyId strerror sock around.lookupSent around.stream with
  | .value familyId known rest =>
      let (seq, known) := known.nextSeq
      match buildSetDeviceMessage inet familyId seq name cfg with
      | .error (failure, _) => (lookupRequests sock, .threw failure known rest)
      | .ok nlh =>
          (lookupRequests sock ++ [.setDevice nlh],
            (sendAndReceive strerror nlh.seq known.portid applyHandler around.requestSent ()
              rest).call known)
  | .threw failure sock' rest => (lookupRequests sock, .threw failure sock' rest)
  | .waiting => (lookupRequests sock, .waiting)

/-- `ApplyConfig`: the request is given to the daemon that has a control socket for the name, and
to the kernel where there is none. What is handed over is recorded beside the call. -/
def applyConfig (around : Surroundings) (sock : NlSocket) (name : Bytes) (cfg : Config) :
    List Handed × Call Unit :=
  match hasSocket around.access name with
  | .error failure => ([], .threw failure sock around.stream)
  | .ok true =>
      match buildSetRequest inet cfg with
      | .error failure => ([], .threw failure sock around.stream)
      | .ok request =>
          ([.transact name request], transacted strerror around sock name request parseSetResponse)
  | .ok false => applyConfigKernel strerror inet around sock name cfg

variable (ssl : OpenSSL) (fresh : FreshOctets)

/-- `FetchDevice`: the device is read from the daemon of the name, or else from the kernel. -/
def fetchDevice (around : Surroundings) (sock : NlSocket) (name : Bytes) : Call Device :=
  match hasSocket around.access name with
  | .error failure => .threw failure sock around.stream
  | .ok true => transacted strerror around sock name buildGetRequest (parseGetResponse inet ssl name)
  | .ok false =>
      fetchDeviceKernel strerror inet fresh sock name around.lookupSent around.requestSent
        around.stream

/-- What the system answers to one call after another; it may depend on the socket's state. -/
structure System where
  access : Bytes → Bool
  connection : Bytes → SystemCalls
  lookupSent : NlSocket → Bytes → Option Int
  requestSent : NlSocket → Bytes → Option Int
  arrivals : NlSocket → Bytes → List Received

/-- What a call meets, behind what earlier calls left in the queue. The kernel answers only
where it is asked. -/
def System.around (system : System) (sock : NlSocket) (queue : List Received) (name : Bytes) :
    Surroundings where
  access := system.access
  connection := system.connection name
  lookupSent := system.lookupSent sock name
  requestSent := system.requestSent sock name
  stream := queue ++ if system.access (pathOf name) then [] else system.arrivals sock name

/-- The loop of the worker of `Devices`. The first read that throws ends the loop, so that one
interface decides about all of them. -/
def fetchDevices (system : System) (sock : NlSocket) (queue : List Received) :
    List Bytes → Call (List Device)
  | [] => .value [] sock queue
  | name :: names =>
      match fetchDevice strerror inet ssl fresh (system.around sock queue name) sock name with
      | .waiting => .waiting
      | .threw failure sock rest => .threw failure sock rest
      | .value device sock rest =>
          match fetchDevices system sock rest names with
          | .waiting => .waiting
          | .threw failure sock rest => .threw failure sock rest
          | .value devices sock rest => .value (device :: devices) sock rest

end Calls

/-- `ListWireGuardInterfaceNames`: `entries` are those of `/sys/class/net`, or the error number
of opening it; `stat` is true of a path that exists. -/
def listWireGuardInterfaceNames (strerror : Int → Bytes) (entries : Except Int (List Bytes))
    (stat : Bytes → Bool) : Except Exception (List Bytes) :=
  match entries with
  | .error errno => .error (socketFailure strerror "opendir(/sys/class/net): " errno)
  | .ok entries => .ok (entries.filter (fun name =>
      name ≠ ascii "." ∧ name ≠ ascii ".." ∧
        stat (ascii "/sys/class/net/" ++ name ++ ascii "/wireguard")))

/-- The order in which sets of names are iterated. -/
structure Iteration where
  order : Finset Bytes → List Bytes
  nodup : ∀ names, (order names).Nodup
  complete : ∀ names name, name ∈ order names ↔ name ∈ names

/-- The directories a listing reads. Each is absent or an error where it cannot be read, and the
order of their entries is not fixed. -/
structure Directories where
  sysClassNet : Except Int (List Bytes)
  stat : Bytes → Bool
  socketDir : Option (List Bytes)

/-- The names the worker of `Devices` fetches, in its order. -/
def deviceNames (strerror : Int → Bytes) (iteration : Iteration) (directories : Directories) :
    Except Exception (List Bytes) := do
  let kernel ← listWireGuardInterfaceNames strerror directories.sysClassNet directories.stat
  let userspace ← listInterfaceNames directories.socketDir
  return iteration.order (kernel.toFinset ∪ userspace.toFinset)

/-- The worker of `Devices`. The names of both directories are joined in a set, and then read one
by one in the order the set is iterated. -/
def devices (strerror : Int → Bytes) (inet : Inet) (ssl : OpenSSL) (fresh : FreshOctets)
    (iteration : Iteration) (directories : Directories) (system : System) (sock : NlSocket)
    (queue : List Received) : Call (List Device) :=
  match deviceNames strerror iteration directories with
  | .error failure => .threw failure sock queue
  | .ok names => fetchDevices strerror inet ssl fresh system sock queue names

section Paths

variable (strerror : Int → Bytes) (inet : Inet) (around : Surroundings) (sock : NlSocket)
  (name : Bytes)

/-- An accepted name has one of the two backends; any other is refused at once. -/
theorem has_socket_cases (access : Bytes → Bool) :
    (∃ failure, hasSocket access name = .error failure ∧ ¬ IfName.ValidName name) ∨
      (IfName.ValidName name ∧ hasSocket access name = .ok (access (pathOf name))) := by
  cases checked : hasSocket access name with
  | error failure =>
    refine .inl ⟨failure, rfl, fun valid => ?_⟩
    rw [(has_socket_ok_iff access name _).mpr ⟨valid, rfl⟩] at checked
    cases checked
  | ok found =>
    obtain ⟨valid, rfl⟩ := (has_socket_ok_iff access name found).mp checked
    exact .inr ⟨valid, rfl⟩

/-- With a control socket, a transaction returns what its response parses to. The socket and the
queue of the netlink side are left as they were. -/
theorem transacted_value_iff {α : Type} (request : Bytes) (parse : Bytes → Except Exception α)
    (value : α) (left : NlSocket) (rest : List Received) :
    transacted strerror around sock name request parse = .value value left rest ↔
      (∃ response, IfName.ValidName name ∧ Answers around.connection request response ∧
        parse response = .ok value) ∧ left = sock ∧ rest = around.stream := by
  rw [transacted]
  constructor
  · intro returned
    split at returned
    · cases returned
    · cases returned
    · rename_i response ended
      split at returned
      · rename_i result parsed
        cases returned
        obtain ⟨valid, answers⟩ := (transact_returns_iff strerror _ _ _ _).mp ended
        exact ⟨⟨response, valid, answers, parsed⟩, rfl, rfl⟩
      · cases returned
  · rintro ⟨⟨response, valid, answers, parsed⟩, rfl, rfl⟩
    simp only [(transact_returns_iff strerror _ _ _ _).mpr ⟨valid, answers⟩, parsed]

end Paths

end NodeWireguard.Backends
