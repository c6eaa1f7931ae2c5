import Mathlib
import NodeWireguard.Client.AsyncPromise
import NodeWireguard.Client.Backends
import NodeWireguard.Netlink.LinkExchange

/-!
# What the workers can throw

Every exception that the functions of a worker throw has a text, and those of the system have
a number: the source puts the name of the call or the reason in front of each text, and takes
the number from a failed call, from the kernel or from the daemon only where it is not zero.
-/

namespace NodeWireguard.WorkerFailures

open ByteText DecimalText IntegerConversions IfName AddressText Key PublicKey GetResponse SetRequest
open SetDeviceMessage MessageBuffer SocketDirectory SocketExchange Backends Failures AsyncPromise
open NativeMethods

section Texts

/-- Only the first octet of a literal text is looked at. -/
theorem validate_if_name_throws (name : Bytes) : ThrowsOnly Telling (validateIfName name) := by
  unfold validateIfName
  split_ifs with empty dots long plain
  · refine throws_error ?_
    simpa using argument_telling "interface name must not be empty" [] (by decide)
  · exact throws_error (argument_telling "invalid interface name: " name (by decide))
  · simp only [List.append_assoc]
    exact throws_error (argument_telling "interface name too long (max " _ (by decide))
  · exact throws_error (argument_telling "invalid character in interface name: " name (by decide))
  · exact throws_ok ()

/-- Every refusal of a port has the text of the port behind one of its own. -/
theorem parse_port_throws (text : Bytes) : ThrowsOnly Telling (parsePort text) := by
  have invalid : Telling (.invalidArgument (ascii "invalid port: " ++ text)) :=
    argument_telling "invalid port: " text (by decide)
  unfold parsePort
  split
  · exact throws_error invalid
  · split
    · exact throws_error invalid
    · split
      · exact throws_error invalid
      · exact throws_ok _

variable (inet : Inet)

/-- An endpoint is refused for its form, its address or its port; each of the three is named. -/
theorem parse_endpoint_throws (endpoint : Bytes) : ThrowsOnly Telling (parseEndpoint inet endpoint) := by
  have invalid : Telling (.invalidArgument (ascii "invalid IPv6 endpoint: " ++ endpoint)) :=
    argument_telling "invalid IPv6 endpoint: " endpoint (by decide)
  unfold parseEndpoint
  split
  · simp only
    split
    · exact throws_error invalid
    · split
      · exact throws_error invalid
      · refine throws_bind (parse_port_throws _) (fun port => ?_)
        split
        · exact throws_error (argument_telling "invalid IPv6 address: " _ (by decide))
        · exact throws_ok _
  · split
    · exact throws_error (argument_telling "invalid endpoint (expected host:port): " _ (by decide))
    · refine throws_bind (parse_port_throws _) (fun port => ?_)
      split
      · exact throws_error (argument_telling "invalid IPv4 address: " _ (by decide))
      · exact throws_ok _

/-- A range is refused for its form, its mask or its address. -/
theorem parse_cidr_throws (cidr : Bytes) : ThrowsOnly Telling (parseCIDR inet cidr) := by
  have invalid : Telling (.invalidArgument (ascii "invalid CIDR mask: " ++ cidr)) :=
    argument_telling "invalid CIDR mask: " cidr (by decide)
  unfold parseCIDR
  split
  · exact throws_error (argument_telling "invalid CIDR (missing /mask): " cidr (by decide))
  · simp only
    split
    · exact throws_error invalid
    · split_ifs
      · exact throws_error invalid
      · exact throws_error
          (argument_telling "invalid CIDR mask for IPv6 (must be 0-128): " cidr (by decide))
      · exact throws_ok _
      · exact throws_error (argument_telling "invalid CIDR address: " _ (by decide))
      · exact throws_error
          (argument_telling "invalid CIDR mask for IPv4 (must be 0-32): " cidr (by decide))
      · exact throws_ok _

/-- A key that is not in hexadecimal is refused with one text. -/
theorem key_from_hex_throws (hex : Bytes) : ThrowsOnly Telling (keyFromHex hex) := by
  have invalid : Telling (.invalidArgument (ascii "invalid hex-encoded WireGuard key: " ++ hex)) :=
    argument_telling "invalid hex-encoded WireGuard key: " hex (by decide)
  unfold keyFromHex
  simp only
  split
  · exact throws_error invalid
  · split
    · exact throws_error invalid
    · split
      · exact throws_ok _
      · exact throws_error invalid

/-- OpenSSL's failures are named by the function that failed. -/
theorem public_key_throws (ssl : OpenSSL) (privateKey : Key) :
    ThrowsOnly Telling (publicKeyFromPrivate ssl privateKey) := by
  have failed : Telling (.runtimeError (ascii "EVP_PKEY_get_raw_public_key failed")) := by
    simpa using runtime_telling "EVP_PKEY_get_raw_public_key failed" [] (by decide)
  unfold publicKeyFromPrivate
  split
  · refine throws_error ?_
    simpa using runtime_telling "EVP_PKEY_new_raw_private_key failed" [] (by decide)
  · simp only
    split
    · exact throws_error failed
    · split
      · exact throws_ok _
      · exact throws_error failed

end Texts

section Codecs

/-- A number is refused under the name of its field, which is a literal of the code. -/
theorem parse_unsigned_throws (value : Bytes) (max : Nat) (field : String)
    (begins : cString (ascii field) ≠ []) :
    ThrowsOnly Telling (parseUnsignedInRange value max field) := by
  unfold parseUnsignedInRange
  split
  · exact throws_error (argument_telling field _ begins)
  · split
    · rw [List.append_assoc]
      exact throws_error (argument_telling field _ begins)
    · split
      · rw [List.append_assoc]
        exact throws_error (argument_telling field _ begins)
      · exact throws_ok _

/-- A failed conversion is reported with the name of the function of the standard library. -/
theorem converted_throws {α : Type} (function : String) (begins : cString (ascii function) ≠ [])
    (result : Except ConversionFailure (α × Nat)) : ThrowsOnly Telling (converted function result) := by
  unfold converted
  split
  · rename_i failure
    cases failure with
    | invalidArgument => exact throws_error ⟨begins, by simp [thrown, numberOf]⟩
    | outOfRange => exact throws_error ⟨begins, by simp [thrown, numberOf]⟩
  · exact throws_ok _

/-- The number of an `errno` line is thrown only where it is not zero. -/
theorem check_errno_throws (opening : String) (begins : cString (ascii opening) ≠ []) (value : Bytes) :
    ThrowsOnly Telling (checkErrno opening value) := by
  refine throws_bind (converted_throws "stoi" (by decide) _) (fun code => ?_)
  split
  · rename_i refused
    exact throws_error (system_telling code opening value begins refused)
  · exact throws_ok ()

/-- A number of 16 bits is refused under the name of its field, -/
theorem parse_uint16_throws (value : Bytes) (field : String) (begins : cString (ascii field) ≠ []) :
    ThrowsOnly Telling (parseUint16 value field) :=
  throws_bind (parse_unsigned_throws value 65535 field begins) (fun _ => throws_ok _)

/-- and so is one of 32. -/
theorem parse_uint32_throws (value : Bytes) (field : String) (begins : cString (ascii field) ≠ []) :
    ThrowsOnly Telling (parseUint32 value field) :=
  throws_bind (parse_unsigned_throws value 4294967295 field begins) (fun _ => throws_ok _)

variable (inet : Inet)

/-- A line of a peer throws what the decoder of its value does. -/
theorem read_peer_line_throws (peer : Peer) (key value : Bytes) :
    ThrowsOnly Telling (readPeerLine inet peer key value) := by
  unfold readPeerLine
  split_ifs
  · exact throws_bind (key_from_hex_throws value) (fun _ => throws_ok _)
  · exact throws_ok _
  · exact throws_bind (converted_throws "stoll" (by decide) _) (fun _ => throws_ok _)
  · exact throws_bind (converted_throws "stoull" (by decide) _) (fun _ => throws_ok _)
  · exact throws_bind (converted_throws "stoull" (by decide) _) (fun _ => throws_ok _)
  · exact throws_bind (parse_uint16_throws value _ (by decide)) (fun _ => throws_ok _)
  · exact throws_bind (parse_cidr_throws inet value) (fun _ => throws_ok _)
  · exact throws_bind (parse_uint32_throws value _ (by decide)) (fun _ => throws_ok _)
  · exact throws_ok _

/-- So does a line of the device. -/
theorem read_device_line_throws (device : Device) (key value : Bytes) :
    ThrowsOnly Telling (readDeviceLine device key value) := by
  unfold readDeviceLine
  split_ifs
  · exact throws_bind (key_from_hex_throws value) (fun _ => throws_ok _)
  · exact throws_bind (parse_uint16_throws value _ (by decide)) (fun _ => throws_ok _)
  · exact throws_bind (parse_uint32_throws value _ (by decide)) (fun _ => throws_ok _)
  · exact throws_ok _

/-- A line of a response goes to one of the two, opens a peer, or ends the response with a
number. -/
theorem read_line_throws (reading : Reading) (line : Bytes) :
    ThrowsOnly Telling (readLine inet reading line) := by
  unfold readLine
  split
  · exact throws_ok _
  · split
    · exact throws_ok _
    · split
      · exact throws_bind (check_errno_throws _ (by decide) _) (fun _ => throws_ok _)
      · split
        · exact throws_bind (key_from_hex_throws _) (fun _ => throws_ok _)
        · split
          · exact throws_bind (read_peer_line_throws inet _ _ _) (fun _ => throws_ok _)
          · exact throws_bind (read_device_line_throws _ _ _) (fun _ => throws_ok _)

/-- A response throws at one of its lines, or where the public key is derived. -/
theorem parse_get_response_throws (ssl : OpenSSL) (name response : Bytes) :
    ThrowsOnly Telling (parseGetResponse inet ssl name response) := by
  refine throws_bind (throws_foldlM _ _ (fun reading line _ => read_line_throws inet reading line) _)
    (fun reading => ?_)
  unfold derivePublicKey
  split
  · split
    · exact throws_ok _
    · exact throws_bind (public_key_throws ssl _) (fun _ => throws_ok _)
  · exact throws_ok _

/-- Of the answer to a change only the `errno` line can throw. -/
theorem parse_set_response_throws (response : Bytes) :
    ThrowsOnly Telling (parseSetResponse response) := by
  refine throws_forM _ _ (fun line _ => ?_)
  unfold readSetLine
  split
  · exact throws_ok _
  · split
    · exact check_errno_throws _ (by decide) _
    · exact throws_ok _

/-- The text request is built unless an endpoint is refused. -/
theorem build_set_request_throws (cfg : Config) : ThrowsOnly Telling (buildSetRequest inet cfg) := by
  refine throws_bind (throws_mapM _ _ (fun peer _ => throws_bind ?_ (fun _ => throws_ok _)))
    (fun _ => throws_ok _)
  unfold endpointField
  split
  · exact throws_bind (throws_bind (parse_endpoint_throws inet _) (fun _ => throws_ok _))
      (fun _ => throws_ok _)
  · exact throws_ok _

/-- The builder of the netlink request throws what its checks throw. -/
theorem build_set_device_throws (familyId : UInt16) (seq : UInt32) (ifname : Bytes) (cfg : Config) :
    ThrowsOnly (fun failure : Exception × MsgBuf => Telling failure.1)
      (buildSetDeviceMessage inet familyId seq ifname cfg) := by
  unfold buildSetDeviceMessage
  split
  · rename_i failure refused
    exact throws_error (validate_if_name_throws ifname failure refused)
  · unfold putPeers
    split
    · exact throws_ok _
    · refine throws_bind (throws_foldlM _ _ (fun b item _ => ?_) _) (fun _ => throws_ok _)
      refine throws_bind ?_ (fun _ => throws_ok _)
      unfold putEndpoint
      split
      · exact throws_ok _
      · split
        · rename_i failure refused
          exact throws_error (parse_endpoint_throws inet _ failure refused)
        · exact throws_ok _

end Codecs

section Names

/-- A path is refused for the name alone. -/
theorem socket_path_throws (name : Bytes) : ThrowsOnly Telling (socketPath name) :=
  throws_bind (validate_if_name_throws name) (fun _ => throws_ok _)

/-- So is the question whether there is a control socket. -/
theorem has_socket_throws (access : Bytes → Bool) (name : Bytes) :
    ThrowsOnly Telling (hasSocket access name) :=
  throws_bind (socket_path_throws name) (fun _ => throws_ok _)

/-- Listing the control sockets could throw only what the check of a name does. -/
theorem list_names_throws (entries : Option (List Bytes)) :
    ThrowsOnly Telling (listInterfaceNames entries) := by
  unfold listInterfaceNames
  split
  · exact throws_ok _
  · refine throws_foldlM _ _ (fun names fname _ => ?_) _
    unfold addInterfaceName
    split
    · simp only
      split
      · exact throws_ok _
      · exact throws_ok _
      · rename_i failure _ refused
        exact throws_error (validate_if_name_throws _ failure refused)
    · exact throws_ok _

variable (strerror : Int → Bytes)

/-- A failed system call is reported with its name and its number. -/
theorem socket_failure_telling (call : String) (errno : Int) (begins : cString (ascii call) ≠ [])
    (failed : errno ≠ 0) : Telling (socketFailure strerror call errno) :=
  system_telling errno call _ begins failed

/-- The directory of network devices must be readable; its failure has a number. -/
theorem list_kernel_names_throws (entries : Except Int (List Bytes)) (stat : Bytes → Bool)
    (numbered : entries ≠ .error 0) :
    ThrowsOnly Telling (listWireGuardInterfaceNames strerror entries stat) := by
  unfold listWireGuardInterfaceNames
  split
  · rename_i errno
    exact throws_error (socket_failure_telling strerror _ errno (by decide) (by simpa using numbered))
  · exact throws_ok _

end Names

section Links

open LinkRequests LinkExchange

variable (inet : Inet) (found : Bytes → UInt32) (time : UInt32)

/-- An interface that does not exist is reported with `ENODEV`. -/
theorem existing_index_throws (name : Bytes) : ThrowsOnly Telling (existingIndex found name) := by
  unfold existingIndex
  split
  · exact throws_error (system_telling ENODEV "no such interface: " name (by decide) (by decide))
  · exact throws_ok _

/-- A link command is refused before anything is sent for its name, for the interface or for the
address. -/
theorem prepare_throws (command : Command) : ThrowsOnly Telling (prepare inet found time command) := by
  cases command with
  | createWireGuardLink name =>
    refine throws_bind (validate_if_name_throws name) (fun _ => ?_)
    split
    · exact throws_bind (throws_error
        (system_telling EEXIST "interface already exists: " name (by decide) (by decide)))
        (fun _ => throws_ok _)
    · exact throws_ok _
  | deleteLink name | setLinkUp name up =>
    exact throws_bind (validate_if_name_throws name) (fun _ =>
      throws_bind (existing_index_throws found name) (fun _ => throws_ok _))
  | addAddress name cidr | deleteAddress name cidr =>
    exact throws_bind (validate_if_name_throws name) (fun _ =>
      throws_bind (existing_index_throws found name) (fun _ =>
        throws_bind (parse_cidr_throws inet cidr) (fun _ => throws_ok _)))

/-- The numbers of the system calls of a link request are not zero. -/
structure LinkErrnosSet (calls : RtCalls) : Prop where
  opened : calls.opened ≠ some 0
  bound : calls.bound ≠ some 0
  sent : calls.sent ≠ some 0
  received : calls.received ≠ some (.error 0)
  closed : calls.closed ≠ some 0

/-- A reply is refused for a number or a port that is not its own, or for the error it carries,
which is not zero there. -/
theorem check_reply_throws (strerror : Int → Bytes) (nlh : MsgBuf) (portid : UInt32) (reply : Bytes) :
    ThrowsOnly Telling (checkReply strerror nlh portid reply) := by
  unfold checkReply
  split
  · refine throws_error ?_
    simpa using system_telling EIO "unexpected netlink reply (seq/pid mismatch)" [] (by decide) (by decide)
  · split
    · rename_i refused
      exact throws_error (socket_failure_telling strerror _ _ (by decide) (by simpa using refused.2))
    · exact throws_ok _

/-- A link request ends with one of these refusals, or with a failed system call. The calls come
in the order of the source, each failing with its own text and number, and the reply is checked
at the end. -/
theorem link_exchange_ends (strerror : Int → Bytes) (calls : RtCalls) (nlh : MsgBuf)
    (numbered : LinkErrnosSet calls) :
    EndsOnly Telling (sendRtRequestAndWaitAck strerror calls nlh).2 := by
  have failing (call : String) (errno : Int) (begins : cString (ascii call) ≠ [])
      (failed : errno ≠ 0) :
      EndsOnly Telling (some (.error (socketFailure strerror call errno) : Except Exception Unit)) :=
    (ends_some_iff _).mpr (throws_error (socket_failure_telling strerror call errno begins failed))
  unfold sendRtRequestAndWaitAck
  split
  · rename_i errno opened
    exact failing _ errno (by decide) (fun zero => numbered.opened (zero ▸ opened))
  · split
    · rename_i errno bound
      exact failing _ errno (by decide) (fun zero => numbered.bound (zero ▸ bound))
    · split
      · rename_i errno sent
        exact failing _ errno (by decide) (fun zero => numbered.sent (zero ▸ sent))
      · split
        · exact ends_running
        · rename_i errno received
          refine failing _ _ (by decide) ?_
          cases closed : calls.closed with
          | none => exact fun zero => numbered.received (zero ▸ received)
          | some left => exact fun zero => numbered.closed (zero ▸ closed)
        · exact (ends_some_iff _).mpr (check_reply_throws strerror nlh _ _)

end Links

section Transactions

open Transact

/-- The numbers of the system calls of a transaction are not zero. -/
structure ConnectionErrnosSet (calls : SystemCalls) : Prop where
  socket : calls.socket ≠ some 0
  receiveTimeout : calls.receiveTimeout ≠ some 0
  sendTimeout : calls.sendTimeout ≠ some 0
  connect : calls.connect ≠ some 0
  writes : .error 0 ∉ calls.writes
  shutdown : calls.shutdown ≠ some 0
  reads : .error 0 ∉ calls.reads

/-- A part and what follows it end with an exception of one of the two. -/
theorem next_ends {α β : Type} (first : Performed α) (later : α → Performed β)
    (here : EndsOnly Telling first.outcome) (there : ∀ value, EndsOnly Telling (later value).outcome) :
    EndsOnly Telling (first >>= later).outcome := by
  change EndsOnly Telling (first.next later).outcome
  obtain ⟨actions, outcome⟩ := first
  rcases outcome with _ | failure | value
  · exact ends_running
  · exact (ends_some_iff _).mpr (throws_error (here failure rfl))
  · exact there value

/-- An attempt ends with the exception of its failure, or goes on. -/
theorem attempt_ends (result : Option Int) (failure : Int → Exception) (done : List Action)
    (telling : ∀ errno, result = some errno → Telling (failure errno)) :
    EndsOnly Telling (attempt result failure done).outcome := by
  cases result with
  | none => exact (ends_some_iff _).mpr (throws_ok ())
  | some errno => exact (ends_some_iff _).mpr (throws_error (telling errno rfl))

variable (strerror : Int → Bytes)

/-- The loop that writes ends with the number of a failed `write`. The induction is on the
results of the calls. -/
theorem write_all_ends (request : Bytes) (written : Nat) (results : List (Except Int Nat))
    (numbered : .error 0 ∉ results) :
    EndsOnly Telling (writeAll strerror request written results).outcome := by
  induction results generalizing written with
  | nil =>
    unfold writeAll
    split
    · exact (ends_some_iff _).mpr (throws_ok ())
    · exact ends_running
  | cons result later inductionHypothesis =>
    unfold writeAll
    split
    · exact (ends_some_iff _).mpr (throws_ok ())
    · cases result with
      | error errno =>
        exact (ends_some_iff _).mpr (throws_error (socket_failure_telling strerror _ errno (by decide)
          (fun zero => numbered (zero ▸ List.mem_cons_self))))
      | ok n =>
        exact inductionHypothesis _ (fun member => numbered (List.mem_cons_of_mem _ member))

/-- The loop that reads ends with the number of a failed `read`, by the same induction. -/
theorem read_all_ends (results : List (Except Int Bytes)) (response : Bytes)
    (numbered : .error 0 ∉ results) :
    EndsOnly Telling (readAll strerror response results).outcome := by
  induction results generalizing response with
  | nil => exact ends_running
  | cons result later inductionHypothesis =>
    cases result with
    | error errno =>
      exact (ends_some_iff _).mpr (throws_error (socket_failure_telling strerror _ errno (by decide)
        (fun zero => numbered (zero ▸ List.mem_cons_self))))
    | ok chunk =>
      unfold readAll
      split
      · exact (ends_some_iff _).mpr (throws_ok _)
      · split
        · refine (ends_some_iff _).mpr (throws_error ?_)
          rw [List.append_assoc]
          exact runtime_telling "uapi response exceeded " _ (by decide)
        · exact inductionHypothesis _ (fun member => numbered (List.mem_cons_of_mem _ member))

/-- A transaction ends with the failure of one of its parts. The parts are the path, the socket,
the time limits, the connection, the two loops and the end of the writing side. -/
theorem transact_ends (calls : SystemCalls) (name request : Bytes)
    (numbered : ConnectionErrnosSet calls) :
    EndsOnly Telling (transact strerror calls name request).outcome := by
  have failing (call : String) (begins : cString (ascii call) ≠ []) (result : Option Int)
      (failed : result ≠ some 0) (errno : Int) (found : result = some errno) :
      Telling (socketFailure strerror call errno) :=
    socket_failure_telling strerror call errno begins (fun zero => failed (zero ▸ found))
  refine next_ends _ _ ((ends_some_iff _).mpr (socket_path_throws name)) (fun path => ?_)
  split
  · rename_i errno opened
    exact (ends_some_iff _).mpr (throws_error (failing _ (by decide) _ numbered.socket errno opened))
  · refine next_ends _ _ ((ends_some_iff _).mpr (throws_ok ())) (fun _ => ?_)
    refine next_ends _ _ (attempt_ends _ _ _ (failing _ (by decide) _ numbered.receiveTimeout)) (fun _ => ?_)
    refine next_ends _ _ (attempt_ends _ _ _ (failing _ (by decide) _ numbered.sendTimeout)) (fun _ => ?_)
    split
    · exact (ends_some_iff _).mpr (throws_error
        (argument_telling "uapi socket path too long: " path (by decide)))
    · refine next_ends _ _ (attempt_ends _ _ _ (fun errno found => ?_)) (fun _ => ?_)
      · simp only [List.append_assoc]
        exact system_telling errno "connect(" _ (by decide)
          (fun zero => numbered.connect (zero ▸ found))
      · refine next_ends _ _ (write_all_ends strerror request 0 _ numbered.writes) (fun _ => ?_)
        exact next_ends _ _ (attempt_ends _ _ _ (failing _ (by decide) _ numbered.shutdown))
          (fun _ => read_all_ends strerror _ _ numbered.reads)

end Transactions

end NodeWireguard.WorkerFailures
