import Mathlib
import NodeWireguard.Client.Backends
import NodeWireguard.Client.NativeMethods
import NodeWireguard.Uapi.RequestLines

/-!
# Rejected input

What `configureDevice` hands to a transport, from the JavaScript arguments to the end of the
worker. The object is read before the worker starts, the name is checked by `HasSocket`, and
the endpoints are parsed while a request is built; both backends send only a request that was
built to its end.

Input that fails one of these checks hands over no set request, not even a part of one. Input
that passes all of them hands over exactly one, with all of the configuration, unless the
family lookup that comes first on the kernel's side does not give a family.
-/

namespace NodeWireguard.RejectedInput

open ByteText AddressText AddressForms Key JsValues ConfigFromJs IfName CallQueue NativeMethods
open MessageBuffer SetDeviceMessage SetRequest RequestLines WireguardUapi
open SocketExchange SocketDirectory Backends

/-- The arguments pass every local check, and are read as this name and configuration. -/
structure LocallyValid (inet : Inet) (name config : JsValue) (applied : Bytes) (cfg : Config) :
    Prop where
  text : name = .string applied
  object : config.isObject = true
  read : configFromJs inet config = .ok cfg
  valid : ValidName applied
  endpoints : EndpointsParse inet cfg

/-- The request has all of the configuration: every attribute of the device and of its peers,
or a line for each field. -/
def Carries (inet : Inet) (applied : Bytes) (cfg : Config) : Handed → Prop
  | .lookup _ => False
  | .setDevice nlh =>
      nlh.body = genlHeader WG_CMD_SET_DEVICE ++ (deviceForest inet applied cfg).bytes
  | .transact name request => name = applied ∧ request = terminated (intendedLines cfg)

section Calls

variable {ν : Type} (error : Bytes → ν) (strerror : Int → Bytes) (inet : Inet)
  (around : Surroundings) (sock : NlSocket)

/-- The worker a method started, if it started one. -/
def worked (begun : Begun ν Operation) : List Handed × Option (Call Unit) :=
  match begun with
  | .operates (.applyConfig applied cfg) =>
      let (handed, call) := applyConfig strerror inet around sock applied cfg
      (handed, some call)
  | _ => ([], none)

/-- `configureDevice` on an open client, with its worker. -/
def configured (name config : JsValue) : List Handed × Option (Call Unit) :=
  worked strerror inet around sock (NativeMethods.configureDevice error inet name config)

/-- The set requests that were handed over. A lookup of the family is not one of them. -/
def setRequests (result : List Handed × Option (Call Unit)) : List Handed :=
  result.1.filter Handed.isSet

/-- The promise is resolved. -/
def Resolves (result : List Handed × Option (Call Unit)) : Prop :=
  ∃ left rest, result.2 = some (.value () left rest)

/-- The lookup gives a family id. It is kept from earlier, or this lookup is answered with one. -/
def FamilyKnown : Prop :=
  ∃ familyId known rest,
    wireGuardFamilyId strerror sock around.lookupSent around.stream = .value familyId known rest

/-- Nothing is handed over and nothing is resolved. -/
def Silent (result : List Handed × Option (Call Unit)) : Prop :=
  setRequests result = [] ∧ ¬ Resolves result

variable (applied : Bytes) (cfg : Config)

/-- The worker of `ApplyConfig`. -/
def applying : List Handed × Option (Call Unit) :=
  worked (ν := Bytes) strerror inet around sock (.operates (.applyConfig applied cfg))

/-- The lookup is no set request. -/
theorem lookup_requests_filtered : (lookupRequests sock).filter Handed.isSet = [] := by
  rw [lookupRequests]
  split
  · rfl
  · simp [Handed.isSet]

/-- A name that is not valid hands nothing over on either path. -/
theorem apply_invalid_name (invalid : ¬ ValidName applied) :
    Silent (applying strerror inet around sock applied cfg) := by
  rcases has_socket_cases applied around.access with ⟨failure, refused, -⟩ | ⟨valid, -⟩
  · simp only [Silent, Resolves, setRequests, applying, worked, applyConfig, refused]
    simp
  · exact absurd valid invalid

/-- With a control socket, the one transaction carries the lines of the configuration. -/
theorem apply_userspace (valid : ValidName applied) (socket : around.access (pathOf applied) = true) :
    (EndpointsParse inet cfg → setRequests (applying strerror inet around sock applied cfg) =
        [.transact applied (terminated (intendedLines cfg))]) ∧
      (¬ EndpointsParse inet cfg → Silent (applying strerror inet around sock applied cfg)) := by
  have served : hasSocket around.access applied = .ok true :=
    (has_socket_ok_iff around.access applied true).mpr ⟨valid, socket.symm⟩
  cases built : buildSetRequest inet cfg with
  | error failure =>
    refine ⟨fun parse => ?_, fun _ => ?_⟩
    · rw [(build_set_request_ok_iff inet cfg _).mpr ⟨parse, rfl⟩] at built
      cases built
    · simp only [Silent, Resolves, setRequests, applying, worked, applyConfig, served, built]
      simp
  | ok request =>
    obtain ⟨parse, rfl⟩ := (build_set_request_ok_iff inet cfg request).mp built
    refine ⟨fun _ => ?_, fun refused => absurd parse refused⟩
    simp only [setRequests, applying, worked, applyConfig, served, built]
    rfl

/-- Without one, the one set message carries the attributes of the configuration, once the
family is known. -/
theorem apply_kernel (valid : ValidName applied) (socket : around.access (pathOf applied) = false) :
    (EndpointsParse inet cfg → FamilyKnown strerror around sock →
        ∃ nlh, setRequests (applying strerror inet around sock applied cfg) = [.setDevice nlh] ∧
          Carries inet applied cfg (.setDevice nlh)) ∧
      (¬ (EndpointsParse inet cfg ∧ FamilyKnown strerror around sock) →
        Silent (applying strerror inet around sock applied cfg)) := by
  have served : hasSocket around.access applied = .ok false :=
    (has_socket_ok_iff around.access applied false).mpr ⟨valid, socket.symm⟩
  have filtered := lookup_requests_filtered sock
  cases looked : wireGuardFamilyId strerror sock around.lookupSent around.stream with
  | waiting =>
    refine ⟨fun _ ⟨_, _, _, found⟩ => ?_, fun _ => ?_⟩
    · rw [looked] at found
      cases found
    · simp only [Silent, Resolves, setRequests, applying, worked, applyConfig, served,
        applyConfigKernel, looked, filtered]
      simp
  | threw failure left rest =>
    refine ⟨fun _ ⟨_, _, _, found⟩ => ?_, fun _ => ?_⟩
    · rw [looked] at found
      cases found
    · simp only [Silent, Resolves, setRequests, applying, worked, applyConfig, served,
        applyConfigKernel, looked, filtered]
      simp
  | value familyId known rest =>
    have succeeds := build_set_device_message_succeeds_iff inet familyId known.nextSeq.1 applied cfg
    cases built : buildSetDeviceMessage inet familyId known.nextSeq.1 applied cfg with
    | error failure =>
      refine ⟨fun parse _ => ?_, fun _ => ?_⟩
      · obtain ⟨nlh, message⟩ := succeeds.mpr ⟨valid, parse⟩
        rw [message] at built
        cases built
      · simp only [Silent, Resolves, setRequests, applying, worked, applyConfig, served,
          applyConfigKernel, looked, built, filtered]
        simp
    | ok nlh =>
      refine ⟨fun _ _ => ?_, fun refused => ?_⟩
      · refine ⟨nlh, ?_, (build_set_device_message_content inet _ _ applied cfg nlh built).1⟩
        simp only [setRequests, applying, worked, applyConfig, served, applyConfigKernel, looked,
          built, List.filter_append, filtered]
        rfl
      · exact absurd ⟨(succeeds.mp ⟨nlh, built⟩).2, familyId, known, rest, looked⟩ refused

/-- A configuration that is read and a name that is a string start the worker, and nothing else
does. -/
theorem configured_cases (name config : JsValue) :
    (∃ applied cfg, name = .string applied ∧ config.isObject = true ∧
        configFromJs inet config = .ok cfg ∧
        configured error strerror inet around sock name config =
          applying strerror inet around sock applied cfg) ∨
      ((∀ applied cfg, ¬ LocallyValid inet name config applied cfg) ∧
        configured error strerror inet around sock name config = ([], none)) := by
  cases name with
  | string applied =>
    cases object : config.isObject with
    | false =>
      refine .inr ⟨fun _ _ passes => absurd passes.object (by simp [object]), ?_⟩
      simp [configured, NativeMethods.configureDevice, object, rejectPromise, worked]
    | true =>
      cases read : configFromJs inet config with
      | error failure =>
        refine .inr ⟨fun _ cfg passes => ?_, ?_⟩
        · have accepted := passes.read
          rw [read] at accepted
          cases accepted
        · simp [configured, NativeMethods.configureDevice, object, read, worked]
      | ok cfg =>
        refine .inl ⟨applied, cfg, rfl, rfl, rfl, ?_⟩
        simp [configured, NativeMethods.configureDevice, object, read, applying, worked]
  | _ =>
    exact .inr ⟨fun _ _ passes => (nomatch passes.text), rfl⟩

/-- Arguments that fail a local check hand over no set request and are never resolved.
Arguments that pass hand over exactly one, which carries the whole configuration, if the
interface has a control socket or the family lookup gives a family, and none otherwise.

Proof: a call either stops at one of the checks of its arguments, and then hands nothing over, or
applies the configuration that was read. On either path the builders throw exactly for an
endpoint that does not parse, before anything is handed over; otherwise the one request is the
content that its builder is known to write. -/
theorem set_requests_handed (name config : JsValue) :
    let result := configured error strerror inet around sock name config
    ((∀ applied cfg, ¬ LocallyValid inet name config applied cfg) → Silent result) ∧
      ∀ applied cfg, LocallyValid inet name config applied cfg →
        (around.access (pathOf applied) = true ∨ FamilyKnown strerror around sock →
          ∃ request, setRequests result = [request] ∧ Carries inet applied cfg request) ∧
        (¬ (around.access (pathOf applied) = true ∨ FamilyKnown strerror around sock) →
          Silent result) := by
  intro result
  rcases configured_cases error strerror inet around sock name config with
    ⟨applied, cfg, text, object, read, worked⟩ | ⟨rejected, stopped⟩
  · have same : result = applying strerror inet around sock applied cfg := worked
    refine ⟨fun rejected => ?_, fun other otherCfg passes => ?_⟩
    · rw [same]
      by_cases valid : ValidName applied
      · have refused : ¬ EndpointsParse inet cfg := fun parse =>
          rejected applied cfg ⟨text, object, read, valid, parse⟩
        cases socket : around.access (pathOf applied) with
        | true => exact (apply_userspace strerror inet around sock applied cfg valid socket).2 refused
        | false =>
          exact (apply_kernel strerror inet around sock applied cfg valid socket).2
            (fun both => refused both.1)
      · exact apply_invalid_name strerror inet around sock applied cfg valid
    · obtain rfl : applied = other := by simpa using text.symm.trans passes.text
      obtain rfl : cfg = otherCfg := by simpa using read.symm.trans passes.read
      rw [same]
      cases socket : around.access (pathOf applied) with
      | true =>
        have handed := (apply_userspace strerror inet around sock applied cfg passes.valid socket).1
          passes.endpoints
        exact ⟨fun _ => ⟨_, handed, rfl, rfl⟩, fun unserved => absurd (.inl rfl) unserved⟩
      | false =>
        obtain ⟨sent, silent⟩ :=
          apply_kernel strerror inet around sock applied cfg passes.valid socket
        refine ⟨fun served => ?_, fun unserved => silent (fun both => unserved (.inr both.2))⟩
        rcases served with impossible | known
        · cases impossible
        · obtain ⟨nlh, handed, carries⟩ := sent passes.endpoints known
          exact ⟨_, handed, carries⟩
  · refine ⟨fun _ => ?_, fun applied cfg passes => absurd passes (rejected applied cfg)⟩
    rw [show result = ([], none) from stopped]
    simp [Silent, Resolves, setRequests]

end Calls

/-- The kernel module is not loaded: the lookup is answered with `ENOENT`. -/
def unloaded : Surroundings where
  stream := [.datagram [⟨NLMSG_ERROR, 0, 1, 7, [0xfe, 0xff, 0xff, 0xff], fun _ => by decide⟩]]

/-- A configuration with one peer passes when its endpoint does. -/
theorem one_peer_valid (endpoint : Bytes)
    (accepted : ∃ address, parseEndpoint plainInet endpoint = .ok address) :
    LocallyValid plainInet (.string (ascii "wg0")) (onePeer endpoint) (ascii "wg0")
      (onePeerRecord endpoint) where
  text := rfl
  object := rfl
  read := one_peer_read endpoint
  valid := (validate_if_name_iff _).mp (by decide)
  endpoints := by simpa [EndpointsParse, onePeerRecord] using accepted

/-- The sample endpoint is an address and a port. -/
theorem plain_endpoint_parses :
    ∃ address, parseEndpoint plainInet (ascii "127.0.0.1:51820") = .ok address :=
  ⟨.in4 51820 ⟨[127, 0, 0, 1], rfl⟩, by decide⟩

/-- A socket with port 7 that has not looked up the family yet. -/
def freshSocket : NlSocket := ⟨7, 0, 0⟩

/-- With a control socket, the lines of one peer are handed over once. -/
theorem one_peer_handed :
    ∃ request, setRequests (configured id (fun _ => []) plainInet { access := fun _ => true }
        freshSocket (.string (ascii "wg0")) (onePeer (ascii "127.0.0.1:51820"))) = [request] ∧
      Carries plainInet (ascii "wg0") (onePeerRecord (ascii "127.0.0.1:51820")) request :=
  ((set_requests_handed id (fun _ => []) plainInet { access := fun _ => true } freshSocket
    (.string (ascii "wg0")) (onePeer (ascii "127.0.0.1:51820"))).2 (ascii "wg0") _
    (one_peer_valid _ plain_endpoint_parses)).1 (.inl rfl)

/-- Arguments that pass every local check hand over nothing while the module is not loaded. -/
theorem valid_input_not_handed :
    LocallyValid plainInet (.string (ascii "wg0")) (onePeer (ascii "127.0.0.1:51820"))
        (ascii "wg0") (onePeerRecord (ascii "127.0.0.1:51820")) ∧
      setRequests (configured id (fun _ => []) plainInet unloaded freshSocket
        (.string (ascii "wg0")) (onePeer (ascii "127.0.0.1:51820"))) = [] := by
  have passes := one_peer_valid _ plain_endpoint_parses
  have refused : wireGuardFamilyId (fun _ => []) freshSocket none unloaded.stream =
      .threw (.systemError 2 (ascii "netlink error: ")) ⟨7, 1, 0⟩ [] := by rfl
  have served : hasSocket unloaded.access (ascii "wg0") = .ok false := by decide
  refine ⟨passes, ?_⟩
  rcases configured_cases id (fun _ => []) plainInet unloaded freshSocket (.string (ascii "wg0"))
      (onePeer (ascii "127.0.0.1:51820")) with ⟨applied, cfg, text, -, -, worked⟩ | ⟨rejected, -⟩
  · obtain rfl : ascii "wg0" = applied := by simpa using text
    rw [worked]
    have looked : wireGuardFamilyId (fun _ => []) freshSocket unloaded.lookupSent unloaded.stream =
        .threw (.systemError 2 (ascii "netlink error: ")) ⟨7, 1, 0⟩ [] := refused
    simp only [setRequests, applying, RejectedInput.worked, applyConfig, served, applyConfigKernel,
      looked, lookup_requests_filtered]
  · exact absurd passes (rejected _ _)

end NodeWireguard.RejectedInput
