import Mathlib
import NodeWireguard.Client.DeviceListing
import NodeWireguard.Client.DeviceToJs
import NodeWireguard.Client.WorkerFailures

/-!
# What a caller learns from a worker

Every operation that the methods start, run to its end and handed to the promise. A promise
is resolved exactly when its operation returned, with what the operation returned, and it is
rejected with the text of the exception. Where the exception came from the system, from the
kernel or from the daemon, the error has the number and its symbolic name.

That a failed call of the system leaves a number other than zero is POSIX's.
-/

namespace NodeWireguard.WorkerOutcomes

open ByteText AddressText PublicKey GetResponse SocketExchange SetDeviceMessage SetRequest Transact
open SocketDirectory EarlyExit JsValues DeviceToJs LinkRequests LinkExchange NativeMethods Backends
open Failures AsyncPromise WorkerFailures

/-- What an operation meets: the interfaces and the clock, the system calls of a link request,
the directories, and what is left in the socket's queue. -/
structure Environment where
  found : Bytes → UInt32
  time : UInt32
  calls : RtCalls
  iteration : Iteration
  directories : Directories
  system : System
  sock : NlSocket
  queue : List Received

section Operations

variable (strerror : Int → Bytes) (inet : Inet) (ssl : OpenSSL) (fresh : FreshOctets)
  (environment : Environment)

/-- How a call on the socket ended. What is left of the socket does not matter to the promise. -/
def ended {α : Type} : Call α → Option (Except Exception α)
  | .value result _ _ => some (.ok result)
  | .threw failure _ _ => some (.error failure)
  | .waiting => none

/-- One of the functions of `RtLink.cpp`. -/
def linkCommand (command : Command) : Option (Except Exception Unit) :=
  match prepare inet environment.found environment.time command with
  | .error failure => some (.error failure)
  | .ok nlh => (sendRtRequestAndWaitAck strerror environment.calls nlh).2

/-- What a single call on an interface meets. -/
def Environment.around (name : Bytes) : Surroundings :=
  environment.system.around environment.sock environment.queue name

/-- An operation with the value that `resolve_` builds from what it stored. -/
def perform : Operation → Option (Except Exception JsValue)
  | .createWireGuardLink name => resolves (linkCommand strerror inet environment (.createWireGuardLink name))
  | .deleteLink name => resolves (linkCommand strerror inet environment (.deleteLink name))
  | .setLinkUp name up => resolves (linkCommand strerror inet environment (.setLinkUp name up))
  | .addAddress name cidr => resolves (linkCommand strerror inet environment (.addAddress name cidr))
  | .deleteAddress name cidr =>
      resolves (linkCommand strerror inet environment (.deleteAddress name cidr))
  | .fetchDevice name =>
      (ended (fetchDevice strerror inet ssl fresh (environment.around name) environment.sock
        name)).map (Except.map deviceToJs)
  | .fetchDevices =>
      (ended (devices strerror inet ssl fresh environment.iteration environment.directories
        environment.system environment.sock environment.queue)).map
          (Except.map (fun devices => .array (devices.map deviceToJs)))
  | .applyConfig name cfg =>
      resolves (ended (applyConfig strerror inet (environment.around name) environment.sock name cfg).2)
where
  /-- A worker without `resolve_`. -/
  resolves (outcome : Option (Except Exception Unit)) : Option (Except Exception JsValue) :=
    outcome.map (Except.map (fun _ => .undefined))

end Operations

/-- The failed calls of an environment have numbers. -/
structure ErrnosSet (environment : Environment) : Prop where
  calls : LinkErrnosSet environment.calls
  listing : environment.directories.sysClassNet ≠ .error 0
  connection : ∀ name, ConnectionErrnosSet (environment.system.connection name)
  lookupSent : ∀ sock name, environment.system.lookupSent sock name ≠ some 0
  requestSent : ∀ sock name, environment.system.requestSent sock name ≠ some 0
  arrivals : ∀ sock name, .failed 0 ∉ environment.system.arrivals sock name
  queue : .failed 0 ∉ environment.queue

/-- A call that throws nothing but telling exceptions, and leaves only numbered failures. -/
def Numbered {α : Type} : Call α → Prop
  | .value _ _ rest => .failed 0 ∉ rest
  | .threw failure _ _ => Telling failure
  | .waiting => True

section Exchanges

variable (strerror : Int → Bytes)

/-- A numbered call ends with telling exceptions only. -/
theorem numbered_ends {α : Type} (call : Call α) (numbered : Numbered call) :
    EndsOnly Telling (ended call) := by
  cases call with
  | value result sock rest => exact (ends_some_iff _).mpr (throws_ok result)
  | threw failure sock rest => exact (ends_some_iff _).mpr (throws_error numbered)
  | waiting => exact ends_running

/-- An exchange throws the number of its failed send or receive, or of the kernel's reply, and
leaves an end of its stream. -/
theorem exchange_numbered {σ : Type} (seq portid : UInt32) (handler : σ → NlMsg → σ × Bool)
    (sent : Option Int) (state : σ) (stream : List Received) (sock : NlSocket)
    (sentSet : sent ≠ some 0) (streamSet : .failed 0 ∉ stream) :
    Numbered ((sendAndReceive strerror seq portid handler sent state stream).call sock) := by
  cases sent with
  | some errno =>
    exact socket_failure_telling strerror _ errno (by decide) (by simpa using sentSet)
  | none =>
    have rest := (unread_suffix (receive strerror seq portid handler) { state } stream).subset
    cases outcome : (scan (receive strerror seq portid handler) { state } stream).2 with
    | none => simp only [sendAndReceive, Result.call, outcome, Numbered]
    | some result =>
      simp only [sendAndReceive, Result.call, outcome]
      cases result with
      | returned stopped => exact fun member => streamSet (rest member)
      | threw failure =>
        obtain ⟨before, event, member, stepped⟩ := scan_result _ _ _ _ outcome
        cases event with
        | failed errno =>
          obtain rfl : socketFailure strerror "mnl_socket_recvfrom: " errno = failure := by
            simpa [receive] using stepped
          exact socket_failure_telling strerror _ errno (by decide)
            (fun zero => streamSet (zero ▸ member))
        | nothing => simp [receive] at stepped
        | datagram messages =>
          obtain ⟨before, cur, -, examined⟩ := scan_result _ _ _ _ stepped
          unfold examine at examined
          split at examined
          · cases examined
          · simp only at examined
            split at examined
            · split at examined
              · rename_i refused
                obtain rfl : socketFailure strerror "netlink error: " (-cur.status) = failure := by
                  simpa using examined
                exact socket_failure_telling strerror _ _ (by decide) (by simpa using refused)
              · cases examined
            · split at examined
              · cases examined
              · split at examined
                · cases examined
                · split at examined <;> cases examined

/-- A lookup throws what its exchange does, or `ENODEV`. A family that is known is returned
without any call. -/
theorem family_numbered (sock : NlSocket) (sent : Option Int) (stream : List Received)
    (sentSet : sent ≠ some 0) (streamSet : .failed 0 ∉ stream) :
    Numbered (wireGuardFamilyId strerror sock sent stream) := by
  unfold wireGuardFamilyId
  split
  · exact streamSet
  · have exchanged := exchange_numbered strerror (familyRequest sock.nextSeq.1).seq sock.nextSeq.2.portid
      familyIdHandler sent 0 stream sock.nextSeq.2 sentSet streamSet
    simp only
    split
    · rename_i returned
      rw [returned] at exchanged
      split
      · have missing := system_telling ENODEV
          "wireguard genetlink family not found (is the wireguard kernel module loaded?)" []
          (by decide) (by decide)
        rwa [List.append_nil] at missing
      · exact exchanged
    · rename_i threw
      rw [threw] at exchanged
      exact exchanged
    · trivial

/-- A dump throws for the name, or what its exchange does. -/
theorem dump_numbered (inet : Inet) (fresh : FreshOctets) (sock : NlSocket) (familyId : UInt16)
    (name : Bytes) (sent : Option Int) (stream : List Received) (sentSet : sent ≠ some 0)
    (streamSet : .failed 0 ∉ stream) :
    Numbered (dumpDevice strerror inet fresh sock familyId name sent stream) := by
  simp only [dumpDevice]
  split
  · rename_i failure refused
    exact throws_bind (validate_if_name_throws name) (fun _ => throws_ok _) failure refused
  · exact exchange_numbered strerror _ _ _ sent _ stream _ sentSet streamSet

end Exchanges

section Calls

variable (strerror : Int → Bytes) (inet : Inet)

/-- The failed calls that one operation on an interface meets have numbers. -/
structure AroundErrnosSet (around : Surroundings) : Prop where
  connection : ConnectionErrnosSet around.connection
  lookupSent : around.lookupSent ≠ some 0
  requestSent : around.requestSent ≠ some 0
  stream : .failed 0 ∉ around.stream

variable {around : Surroundings} (set : AroundErrnosSet around) (sock : NlSocket) (name : Bytes)
include set

/-- A transaction throws for one of its system calls, or what the parser of the response does. -/
theorem transacted_numbered {α : Type} (request : Bytes) (parse : Bytes → Except Exception α)
    (parsing : ∀ response, ThrowsOnly Telling (parse response)) :
    Numbered (transacted strerror around sock name request parse) := by
  unfold transacted
  split
  · trivial
  · rename_i failure threw
    exact transact_ends strerror _ _ _ set.connection failure threw
  · rename_i response answered
    split
    · exact set.stream
    · rename_i failure refused
      exact parsing response failure refused

/-- A read is numbered on either backend. -/
theorem fetch_numbered (ssl : OpenSSL) (fresh : FreshOctets) :
    Numbered (fetchDevice strerror inet ssl fresh around sock name) := by
  unfold fetchDevice
  split
  · rename_i failure refused
    exact has_socket_throws _ name failure refused
  · exact transacted_numbered strerror set sock name _ _ (parse_get_response_throws inet ssl name)
  · have known := family_numbered strerror sock around.lookupSent around.stream set.lookupSent set.stream
    unfold fetchDeviceKernel
    split
    · rename_i found
      rw [found] at known
      exact dump_numbered strerror inet fresh _ _ name _ _ set.requestSent known
    · rename_i threw
      rw [threw] at known
      exact known
    · trivial

/-- A change is numbered on either backend. The builders throw only for an endpoint, and after
them come an exchange with the kernel or a transaction. -/
theorem apply_numbered (cfg : Config) :
    Numbered (applyConfig strerror inet around sock name cfg).2 := by
  unfold applyConfig
  split
  · rename_i failure refused
    exact has_socket_throws _ name failure refused
  · split
    · rename_i failure refused
      exact build_set_request_throws inet cfg failure refused
    · exact transacted_numbered strerror set sock name _ _ parse_set_response_throws
  · have known := family_numbered strerror sock around.lookupSent around.stream set.lookupSent set.stream
    unfold applyConfigKernel
    split
    · rename_i found
      rw [found] at known
      simp only
      split
      · rename_i failure _ refused
        exact build_set_device_throws inet _ _ name cfg _ refused
      · exact exchange_numbered strerror _ _ applyHandler _ () _ _ set.requestSent known
    · rename_i threw
      rw [threw] at known
      exact known
    · trivial

end Calls

section Outcomes

variable (strerror : Int → Bytes) (inet : Inet) (ssl : OpenSSL) (fresh : FreshOctets)
  (environment : Environment)

/-- What a call of a sequence meets is as numbered as the system and the queue before it. -/
theorem around_set (set : ErrnosSet environment) (sock : NlSocket) (queue : List Received)
    (queueSet : .failed 0 ∉ queue) (name : Bytes) :
    AroundErrnosSet (environment.system.around sock queue name) := by
  refine ⟨set.connection name, set.lookupSent sock name, set.requestSent sock name, ?_⟩
  simp only [System.around, List.mem_append, not_or]
  refine ⟨queueSet, ?_⟩
  split
  · simp
  · exact set.arrivals sock name

/-- The loop over the names is numbered: what one read leaves is what the next one meets. -/
theorem fetch_devices_numbered (set : ErrnosSet environment) (names : List Bytes) (sock : NlSocket)
    (queue : List Received) (queueSet : .failed 0 ∉ queue) :
    Numbered (fetchDevices strerror inet ssl fresh environment.system sock queue names) := by
  induction names generalizing sock queue with
  | nil => exact queueSet
  | cons name names inductionHypothesis =>
    have first := fetch_numbered strerror inet
      (around_set environment set sock queue queueSet name) sock name ssl fresh
    unfold fetchDevices
    split
    · trivial
    · rename_i threw
      rw [threw] at first
      exact first
    · rename_i device left rest fetched
      rw [fetched] at first
      have later := inductionHypothesis left rest first
      split
      · trivial
      · rename_i threw
        rw [threw] at later
        exact later
      · rename_i collected
        rw [collected] at later
        exact later

/-- So is the listing of all devices. -/
theorem devices_numbered (set : ErrnosSet environment) :
    Numbered (devices strerror inet ssl fresh environment.iteration environment.directories
      environment.system environment.sock environment.queue) := by
  unfold devices
  split
  · rename_i failure refused
    refine throws_bind (list_kernel_names_throws strerror _ _ set.listing) (fun _ => ?_) failure refused
    exact throws_bind (list_names_throws _) (fun _ => throws_ok _)
  · exact fetch_devices_numbered strerror inet ssl fresh environment set _ _ _ set.queue

/-- A link command ends with what its preparation or its exchange throws. -/
theorem link_command_ends (set : ErrnosSet environment) (command : Command) :
    EndsOnly Telling (linkCommand strerror inet environment command) := by
  unfold linkCommand
  split
  · rename_i failure refused
    exact (ends_some_iff _).mpr (throws_error
      (prepare_throws inet environment.found environment.time command failure refused))
  · exact link_exchange_ends strerror _ _ set.calls

/-- Building the value afterwards throws nothing. -/
theorem shown_ends {α : Type} (outcome : Option (Except Exception α)) (view : α → JsValue)
    (ends : EndsOnly Telling outcome) : EndsOnly Telling (outcome.map (Except.map view)) := by
  rcases outcome with _ | failure | value
  · exact ends_running
  · exact (ends_some_iff _).mpr (throws_error (ends failure rfl))
  · exact (ends_some_iff _).mpr (throws_ok _)

/-- Every operation throws telling exceptions only. -/
theorem perform_ends (set : ErrnosSet environment) (operation : Operation) :
    EndsOnly Telling (perform strerror inet ssl fresh environment operation) := by
  have link (command : Command) :=
    shown_ends _ (fun _ => .undefined) (link_command_ends strerror inet environment set command)
  have around (name : Bytes) := around_set environment set environment.sock environment.queue set.queue name
  cases operation with
  | createWireGuardLink name | deleteLink name | setLinkUp name up | addAddress name cidr
  | deleteAddress name cidr => exact link _
  | fetchDevices =>
    exact shown_ends _ _ (numbered_ends _ (devices_numbered strerror inet ssl fresh environment set))
  | fetchDevice name =>
    exact shown_ends _ _ (numbered_ends _
      (fetch_numbered strerror inet (around name) environment.sock name ssl fresh))
  | applyConfig name cfg =>
    exact shown_ends _ _ (numbered_ends _
      (apply_numbered strerror inet (around name) environment.sock name cfg))

end Outcomes

/-- Whatever an operation does and whatever its worker had stored, its promise is resolved
with a value exactly when the operation returned that value, and rejected with an error
exactly when it threw the exception that the error reports: its text, which is not empty, and
the number it carries, with its name, which is not zero.

Proof: every function of a worker throws only exceptions that have a text and no number zero, one
lemma for each along the calls. The promise is rejected where there is a text, and the number is
passed on where it is not zero. -/
theorem promise_tells_outcome (strerror : Int → Bytes) (inet : Inet) (ssl : OpenSSL)
    (fresh : FreshOctets) (environment : Environment) (set : ErrnosSet environment)
    (operation : Operation) (stored : JsValue) :
    let outcome := perform strerror inet ssl fresh environment operation
    (∀ value, outcome.map (settle stored) = some (.resolved value) ↔ outcome = some (.ok value)) ∧
      (∀ error, outcome.map (settle stored) = some (.rejected error) ↔
        ∃ failure, outcome = some (.error failure) ∧ error = reported failure) ∧
      ∀ failure, outcome = some (.error failure) →
        (reported failure).message ≠ [] ∧ (reported failure).errno ≠ some 0 := by
  have ends := perform_ends strerror inet ssl fresh environment set operation
  intro outcome
  change EndsOnly Telling outcome at ends
  rcases outcome with _ | failure | result
  · simp
  · have telling := ends failure rfl
    have settled := (settle_reports_iff stored failure).mpr telling
    refine ⟨by simp [settled], by simp [settled, eq_comm], ?_⟩
    intro other same
    obtain rfl : failure = other := by simpa using same
    exact ⟨telling.text, telling.number⟩
  · simp [settle_ok]

/-- An environment in which every interface exists, but the process may not change links: the
kernel refuses what it sends with `EPERM`. -/
noncomputable def unprivileged : Environment where
  found _ := 3
  time := 0
  calls := { portid := 7, sent := some 1 }
  iteration := DeviceListing.someOrder
  directories := ⟨.ok [], fun _ => false, none⟩
  system :=
    { access := fun _ => false
      connection := fun _ => {}
      lookupSent := fun _ _ => none
      requestSent := fun _ _ => none
      arrivals := fun _ _ => [] }
  sock := ⟨7, 0, 30⟩
  queue := []

/-- Its failed calls have numbers. -/
theorem unprivileged_set : ErrnosSet unprivileged := by
  have link : LinkErrnosSet { portid := 7, sent := some 1 } := by constructor <;> simp
  have connection : ConnectionErrnosSet {} := by constructor <;> simp
  refine ⟨link, ?_, fun _ => connection, ?_, ?_, ?_, ?_⟩ <;> simp [unprivileged]

/-- A refused send is told with the text, the name and the number of its error. -/
theorem refused_send_told :
    (perform (fun _ => ascii "Operation not permitted") AddressForms.plainInet GetSections.idleSsl
      zeroed unprivileged (.setLinkUp (ascii "wg0") true)).map (settle .undefined) =
        some (.rejected ⟨ascii "mnl_socket_sendto: Operation not permitted", some (ascii "EPERM"),
          some 1⟩) :=
  ((promise_tells_outcome (fun _ => ascii "Operation not permitted") AddressForms.plainInet
    GetSections.idleSsl zeroed unprivileged unprivileged_set (.setLinkUp (ascii "wg0") true)
    .undefined).2.1 _).mpr
      ⟨.systemError 1 (ascii "mnl_socket_sendto: Operation not permitted"), rfl, by decide⟩

end NodeWireguard.WorkerOutcomes
