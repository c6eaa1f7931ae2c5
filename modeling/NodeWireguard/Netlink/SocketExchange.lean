import Mathlib
import NodeWireguard.Foundations.EarlyExit
import NodeWireguard.Netlink.DeviceDump

/-!
# Exchanges on the netlink socket

`SendAndReceive`, `WireGuardFamilyId` and `NextSeq` of `NlSocket.cpp`, and
`FetchDeviceKernel`. What the kernel delivers is a list of receives; a datagram is the
messages that `mnl_nlmsg_ok` and `mnl_nlmsg_next` walk in it. An exchange that has read
everything delivered so far is waiting.

An exchange also records the messages of its own it examined, and whether the handler
asked to stop. The code reads neither. The text of an error number is libc's.
-/

namespace NodeWireguard.SocketExchange

open ByteText AddressText AttributeStream WireguardUapi MessageBuffer SetDeviceMessage
  DeviceSettings DeviceDump IfName EarlyExit

/-- A received message. An error or completion message holds at least its status word. -/
structure NlMsg where
  type : UInt16
  flags : UInt16
  seq : UInt32
  pid : UInt32
  payload : Bytes
  complete : type = NLMSG_ERROR ∨ type = NLMSG_DONE → 4 ≤ payload.length
  deriving DecidableEq

/-- The `int` at the start of the payload: `nlmsgerr::error`, or the status of a dump. -/
def NlMsg.status (msg : NlMsg) : Int := (BitVec.ofNat 32 (unsignedAt 4 msg.payload)).toInt

/-- One return of `mnl_socket_recvfrom`: an error number, zero octets, or a datagram. -/
inductive Received where
  | failed (errno : Int)
  | nothing
  | datagram (messages : List NlMsg)
  deriving DecidableEq

/-- How an exchange ended; a return records whether the handler asked for it. -/
inductive Outcome where
  | returned (stopped : Bool)
  | threw (failure : Exception)
  deriving DecidableEq

/-- What the handler has made of the replies, and the messages examined. -/
structure Exchange (σ : Type) where
  state : σ
  seen : List NlMsg := []
  deriving DecidableEq

/-- An exchange as far as it got. Without an outcome it is waiting. -/
structure Result (σ : Type) where
  exchange : Exchange σ
  outcome : Option Outcome
  rest : List Received

section Receiving

variable {σ : Type} (strerror : Int → Bytes) (seq portid : UInt32)
  (handler : σ → NlMsg → σ × Bool)

/-- `helpers::SystemError` with the text the socket code gives it. -/
def socketFailure (what : String) (code : Int) : Exception :=
  .systemError code (ascii what ++ strerror code)

/-- The body of the loop over the messages of a datagram. -/
def examine (x : Exchange σ) (cur : NlMsg) : Exchange σ × Option Outcome :=
  if cur.seq ≠ seq ∨ cur.pid ≠ portid then (x, none)
  else
    let seen := x.seen ++ [cur]
    if cur.type = NLMSG_ERROR then
      if cur.status ≠ 0 then
        (⟨x.state, seen⟩, some (.threw (socketFailure strerror "netlink error: " (-cur.status))))
      else (⟨x.state, seen⟩, some (.returned false))
    else if cur.type = NLMSG_DONE then (⟨x.state, seen⟩, some (.returned false))
    else
      let (state, more) := handler x.state cur
      if !more then (⟨state, seen⟩, some (.returned true))
      else if cur.flags &&& NLM_F_MULTI = 0 then (⟨state, seen⟩, some (.returned false))
      else (⟨state, seen⟩, none)

/-- The body of the loop over receives. A failed call throws, an empty one ends the exchange, and
a datagram is gone through message by message. -/
def receive (x : Exchange σ) (event : Received) : Exchange σ × Option Outcome :=
  match event with
  | .failed errno =>
      (x, some (.threw (socketFailure strerror "mnl_socket_recvfrom: " errno)))
  | .nothing => (x, some (.returned false))
  | .datagram messages => scan (examine strerror seq portid handler) x messages

/-- `sent` is the error number of `mnl_socket_sendto`, where it fails. The rest of the
datagram in which the exchange ends is lost with its buffer. -/
def sendAndReceive (sent : Option Int) (state : σ) (stream : List Received) : Result σ :=
  match sent with
  | some errno =>
      ⟨{ state }, some (.threw (socketFailure strerror "mnl_socket_sendto: " errno)), stream⟩
  | none =>
      let (exchange, outcome) := scan (receive strerror seq portid handler) { state } stream
      ⟨exchange, outcome, unread (receive strerror seq portid handler) { state } stream⟩

end Receiving

/-- The socket's own fields. The family is zero until it is known. -/
structure NlSocket where
  portid : UInt32
  seq : UInt32 := 0
  wgFamilyId : UInt16 := 0
  deriving DecidableEq

/-- `NextSeq`; the counter wraps at 32 bits. -/
def NlSocket.nextSeq (sock : NlSocket) : UInt32 × NlSocket :=
  (sock.seq + 1, { sock with seq := sock.seq + 1 })

/-- A call on the socket: its value or exception with what is left of the socket and the
stream, or still waiting. -/
inductive Call (α : Type) where
  | value (result : α) (sock : NlSocket) (rest : List Received)
  | threw (failure : Exception) (sock : NlSocket) (rest : List Received)
  | waiting

/-- The call that an exchange makes, where it only has to return. -/
def Result.call {σ : Type} (result : Result σ) (sock : NlSocket) : Call σ :=
  match result.outcome with
  | some (.returned _) => .value result.exchange.state sock result.rest
  | some (.threw failure) => .threw failure sock result.rest
  | none => .waiting

/-- `FamilyIdMsgCallback`, as the handler of the lookup. The last attribute with a number counts,
and a reply without one leaves the number as it was. -/
def familyIdHandler (familyId : UInt16) (reply : NlMsg) : UInt16 × Bool :=
  ((walk (reply.payload.drop 4)).foldl
    (fun out attr =>
      if attrKind attr = CTRL_ATTR_FAMILY_ID then UInt16.ofNat (unsignedAt 2 attr.payload) else out)
    familyId, true)

/-- `ParseDeviceMessage`, as the handler of a dump. It never stops the exchange by itself. -/
def deviceHandler (inet : Inet) (fresh : FreshOctets) (device : Device) (reply : NlMsg) :
    Device × Bool :=
  (parseDeviceMessage inet fresh device reply.payload, true)

/-- The handler of a set request, which ignores its replies. -/
def applyHandler (_ : Unit) (_ : NlMsg) : Unit × Bool := ((), true)

/-- The lookup request. -/
def familyRequest (seq : UInt32) : MsgBuf :=
  let b := { mnlNlmsgPutHeader with type := GENL_ID_CTRL, flags := NLM_F_REQUEST ||| NLM_F_ACK, seq }
  let b := mnlNlmsgPutExtraHeader b [CTRL_CMD_GETFAMILY, 1, 0, 0]
  mnlAttrPutStrz b CTRL_ATTR_FAMILY_NAME (ascii "wireguard")

/-- `BuildGetDeviceMessage`: a dump of the named device is asked for. -/
def buildGetDeviceMessage (familyId : UInt16) (seq : UInt32) (ifname : Bytes) :
    Except Exception MsgBuf := do
  validateIfName ifname
  let b := { mnlNlmsgPutHeader with
    type := familyId, flags := NLM_F_REQUEST ||| NLM_F_ACK ||| NLM_F_DUMP, seq }
  let b := mnlNlmsgPutExtraHeader b (genlHeader WG_CMD_GET_DEVICE)
  return mnlAttrPutStrz b WGDEVICE_A_IFNAME ifname

/-- No such device, thrown where the kernel has no WireGuard family. -/
def ENODEV : Int := 19

section Calls

variable (strerror : Int → Bytes)

/-- `WireGuardFamilyId`: the family is asked for once, and kept when it was found. -/
def wireGuardFamilyId (sock : NlSocket) (sent : Option Int) (stream : List Received) :
    Call UInt16 :=
  if sock.wgFamilyId ≠ 0 then .value sock.wgFamilyId sock stream
  else
    let (seq, sock) := sock.nextSeq
    let nlh := familyRequest seq
    match (sendAndReceive strerror nlh.seq sock.portid familyIdHandler sent 0 stream).call sock with
    | .value familyId sock rest =>
        if familyId = 0 then
          .threw (.systemError ENODEV (ascii "wireguard genetlink family not found (is the wireguard kernel module loaded?)"))
            sock rest
        else .value familyId { sock with wgFamilyId := familyId } rest
    | .threw failure sock rest => .threw failure sock rest
    | .waiting => .waiting

variable (inet : Inet) (fresh : FreshOctets)

/-- The dump exchange of `FetchDeviceKernel`. -/
def dumpExchange (sock : NlSocket) (nlh : MsgBuf) (name : Bytes) (sent : Option Int)
    (stream : List Received) : Result Device :=
  sendAndReceive strerror nlh.seq sock.portid (deviceHandler inet fresh) sent { name } stream

/-- `FetchDeviceKernel` once the family is known. -/
def dumpDevice (sock : NlSocket) (familyId : UInt16) (name : Bytes) (sent : Option Int)
    (stream : List Received) : Call Device :=
  let (seq, sock) := sock.nextSeq
  match buildGetDeviceMessage familyId seq name with
  | .error failure => .threw failure sock stream
  | .ok nlh => (dumpExchange strerror inet fresh sock nlh name sent stream).call sock

/-- `FetchDeviceKernel`: the family, and then the dump. -/
def fetchDeviceKernel (sock : NlSocket) (name : Bytes) (lookupSent dumpSent : Option Int)
    (stream : List Received) : Call Device :=
  match wireGuardFamilyId strerror sock lookupSent stream with
  | .value familyId sock rest => dumpDevice strerror inet fresh sock familyId name dumpSent rest
  | .threw failure sock rest => .threw failure sock rest
  | .waiting => .waiting

end Calls

end NodeWireguard.SocketExchange
