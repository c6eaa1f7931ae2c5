import Mathlib
import NodeWireguard.Netlink.LinkRequests

/-!
# One request and its acknowledgement

`SendRtRequestAndWaitAck` of `RtLink.cpp`. Every request has a socket of its own, which is
closed on every path that returns or throws. The reply is read from a buffer of zeros, so
octets that did not arrive count as zero; any reply to this request that is not an error
message counts as success.

What the system calls answer is given. A failure to receive is reported with the value that
`errno` has after the socket is closed.
-/

namespace NodeWireguard.LinkExchange

open ByteText AttributeStream MessageBuffer WireguardUapi DeviceDump SocketExchange LinkRequests

/-- Input/output error, thrown for a reply that is not to the request. -/
def EIO : Int := 5

/-- The answers of the system: an error number where a call fails. `received` is absent while
no reply arrives, and `closed` is what closing leaves in `errno`, where it changes it. -/
structure RtCalls where
  opened : Option Int := none
  bound : Option Int := none
  portid : UInt32 := 0
  sent : Option Int := none
  received : Option (Except Int Bytes) := none
  closed : Option Int := none

/-- What is done with the socket, and whether opening or binding it succeeded. -/
inductive Action where
  | socketOpen (succeeded : Bool)
  | socketBind (succeeded : Bool)
  | sendTo (nlh : MsgBuf)
  | recvFrom
  | socketClose
  deriving DecidableEq

/-! The fields of the reply that are read. -/

/-- `nlmsg_type` of a received message. -/
def replyType (reply : Bytes) : UInt16 := UInt16.ofNat (unsignedAt 2 (reply.drop 4))

/-- `nlmsg_seq` of a received message. -/
def replySeq (reply : Bytes) : UInt32 := UInt32.ofNat (unsignedAt 4 (reply.drop 8))

/-- `nlmsg_pid` of a received message. -/
def replyPid (reply : Bytes) : UInt32 := UInt32.ofNat (unsignedAt 4 (reply.drop 12))

/-- `nlmsgerr::error`, which follows the header. -/
def replyError (reply : Bytes) : Int :=
  (BitVec.ofNat 32 (unsignedAt 4 (reply.drop nlmsgHdrLen))).toInt

section Exchange

variable (strerror : Int → Bytes) (calls : RtCalls) (nlh : MsgBuf)

/-- The checks of the reply. First the number and the port, then whether it is an error message
with a number that is not zero; anything else passes. -/
def checkReply (portid : UInt32) (reply : Bytes) : Except Exception Unit :=
  if replySeq reply ≠ nlh.seq ∨ replyPid reply ≠ portid then
    .error (.systemError EIO (ascii "unexpected netlink reply (seq/pid mismatch)"))
  else if replyType reply = NLMSG_ERROR ∧ replyError reply ≠ 0 then
    .error (socketFailure strerror "rtnetlink error: " (-replyError reply))
  else .ok ()

/-- The actions of a call and its outcome; without one it is waiting for the reply. -/
def sendRtRequestAndWaitAck : List Action × Option (Except Exception Unit) :=
  match calls.opened with
  | some errno =>
      ([.socketOpen false], some (.error (socketFailure strerror "mnl_socket_open: " errno)))
  | none =>
      match calls.bound with
      | some errno =>
          ([.socketOpen true, .socketBind false, .socketClose],
            some (.error (socketFailure strerror "mnl_socket_bind: " errno)))
      | none =>
          match calls.sent with
          | some errno =>
              ([.socketOpen true, .socketBind true, .sendTo nlh, .socketClose],
                some (.error (socketFailure strerror "mnl_socket_sendto: " errno)))
          | none =>
              match calls.received with
              | none => ([.socketOpen true, .socketBind true, .sendTo nlh, .recvFrom], none)
              | some (.error errno) =>
                  ([.socketOpen true, .socketBind true, .sendTo nlh, .recvFrom, .socketClose],
                    some (.error (socketFailure strerror "mnl_socket_recvfrom: "
                      (calls.closed.getD errno))))
              | some (.ok reply) =>
                  ([.socketOpen true, .socketBind true, .sendTo nlh, .recvFrom, .socketClose],
                    some (checkReply strerror nlh calls.portid reply))

end Exchange

/-- Whether the message leaves the process. -/
def RtCalls.Reaches (calls : RtCalls) : Prop :=
  calls.opened = none ∧ calls.bound = none ∧ calls.sent = none

/-- Whether a request leaves can be computed from the results of the system calls. -/
instance (calls : RtCalls) : Decidable calls.Reaches := by
  unfold RtCalls.Reaches
  infer_instance

/-- Where a socket is in its life: not open, open, or bound to a port. -/
inductive SocketState where
  | closed
  | opened
  | bound
  deriving DecidableEq

/-- What may be done with a socket in each state. -/
def use : SocketState → Action → Option SocketState
  | .closed, .socketOpen succeeded => some (if succeeded then .opened else .closed)
  | .opened, .socketBind succeeded => some (if succeeded then .bound else .opened)
  | .bound, .sendTo _ => some .bound
  | .bound, .recvFrom => some .bound
  | .opened, .socketClose => some .closed
  | .bound, .socketClose => some .closed
  | _, _ => none

/-- The messages among the actions. -/
def sentMessages (actions : List Action) : List MsgBuf :=
  actions.filterMap (fun action => match action with | .sendTo nlh => some nlh | _ => none)

/-- The acknowledgement of a request, with the error number it carries; the kernel stores it
negated and sends the request back behind it. -/
def ackBytes (flags : UInt16) (seq portid : UInt32) (code : Nat) (original : Bytes) : Bytes :=
  littleEndian 4 (nlmsgHdrLen + 4 + original.length) ++ littleEndian 2 NLMSG_ERROR.toNat
    ++ littleEndian 2 flags.toNat ++ littleEndian 4 seq.toNat ++ littleEndian 4 portid.toNat
    ++ littleEndian 4 (BitVec.ofInt 32 (-code)).toNat ++ original

section Outcomes

variable (strerror : Int → Bytes) (calls : RtCalls) (nlh : MsgBuf)

/-- A socket is used in order and is left open only while the call waits. -/
theorem exchange_uses :
    (sendRtRequestAndWaitAck strerror calls nlh).1.foldlM use .closed =
      some (if (sendRtRequestAndWaitAck strerror calls nlh).2.isSome then .closed else .bound) := by
  unfold sendRtRequestAndWaitAck
  split
  · rfl
  · split
    · rfl
    · split
      · rfl
      · split <;> rfl

/-- At most one message is sent, and it is the one given. -/
theorem exchange_sends :
    sentMessages (sendRtRequestAndWaitAck strerror calls nlh).1 = [] ∨
      sentMessages (sendRtRequestAndWaitAck strerror calls nlh).1 = [nlh] := by
  unfold sendRtRequestAndWaitAck
  split
  · exact .inl rfl
  · split
    · exact .inl rfl
    · split
      · exact .inr rfl
      · split <;> exact .inr rfl

/-- A call succeeds when its message left and the reply passes the checks. Every other way out of
the code throws; a call that does not return leaves no outcome. -/
theorem exchange_ok_iff :
    (sendRtRequestAndWaitAck strerror calls nlh).2 = some (.ok ()) ↔
      calls.Reaches ∧ ∃ reply, calls.received = some (.ok reply) ∧
        checkReply strerror nlh calls.portid reply = .ok () := by
  unfold sendRtRequestAndWaitAck RtCalls.Reaches
  split
  · rename_i opened
    simp [opened]
  · rename_i opened
    split
    · rename_i bound
      simp [bound]
    · rename_i bound
      split
      · rename_i sent
        simp [sent]
      · rename_i sent
        split
        · rename_i received
          simp [received]
        · rename_i received
          simp [received]
        · rename_i received
          simp [opened, bound, sent, received]

/-- The fields of an acknowledgement are read back, whatever it sends back. Header and error
number have fixed places in front of the message that is sent back, and numbers below 2^32 are
read from four octets as they were written. -/
theorem ack_fields (flags : UInt16) (seq portid : UInt32) (code : Nat) (original : Bytes)
    (small : code < 2 ^ 31) :
    replyType (ackBytes flags seq portid code original) = NLMSG_ERROR ∧
      replySeq (ackBytes flags seq portid code original) = seq ∧
      replyPid (ackBytes flags seq portid code original) = portid ∧
      replyError (ackBytes flags seq portid code original) = -code := by
  let length := littleEndian 4 (nlmsgHdrLen + 4 + original.length)
  let type := littleEndian 2 NLMSG_ERROR.toNat
  let noted := littleEndian 2 flags.toNat
  let number := littleEndian 4 seq.toNat
  let port := littleEndian 4 portid.toNat
  let error := littleEndian 4 (BitVec.ofInt 32 (-code)).toNat
  have layout : ackBytes flags seq portid code original =
      length ++ (type ++ (noted ++ (number ++ (port ++ (error ++ original))))) := by
    simp [ackBytes, length, type, noted, number, port, error]
  refine ⟨?_, ?_, ?_, ?_⟩
  · have place := unsigned_at_stored length (noted ++ (number ++ (port ++ (error ++ original)))) 2 _
      NLMSG_ERROR.toNat_lt
    rw [show length.length = 4 by simp [length]] at place
    rw [replyType, layout, place, UInt16.ofNat_toNat]
  · have place := unsigned_at_stored (length ++ (type ++ noted)) (port ++ (error ++ original)) 4 _
      seq.toNat_lt
    rw [show (length ++ (type ++ noted)).length = 8 by simp [length, type, noted]] at place
    simp only [List.append_assoc] at place
    rw [replySeq, layout, place, UInt32.ofNat_toNat]
  · have place := unsigned_at_stored (length ++ (type ++ (noted ++ number))) (error ++ original) 4 _
      portid.toNat_lt
    rw [show (length ++ (type ++ (noted ++ number))).length = 12 by
      simp [length, type, noted, number]] at place
    simp only [List.append_assoc] at place
    rw [replyPid, layout, place, UInt32.ofNat_toNat]
  · have place := unsigned_at_stored (length ++ (type ++ (noted ++ (number ++ port)))) original 4 _
      (BitVec.ofInt 32 (-code)).isLt
    rw [show (length ++ (type ++ (noted ++ (number ++ port)))).length = nlmsgHdrLen by
      simp [length, type, noted, number, port, nlmsgHdrLen]] at place
    simp only [List.append_assoc] at place
    rw [replyError, layout, place, BitVec.ofNat_toNat, BitVec.setWidth_eq, BitVec.toInt_ofInt]
    exact Int.bmod_eq_of_le (by omega) (by omega)

/-- An acknowledgement of the request is success exactly with the error number zero. -/
theorem check_ack (flags : UInt16) (portid : UInt32) (code : Nat) (original : Bytes)
    (small : code < 2 ^ 31) :
    checkReply strerror nlh portid (ackBytes flags nlh.seq portid code original) =
      if code = 0 then .ok () else .error (socketFailure strerror "rtnetlink error: " code) := by
  obtain ⟨type, seq, pid, error⟩ := ack_fields flags nlh.seq portid code original small
  rw [checkReply, type, seq, pid, error]
  by_cases success : code = 0
  · simp [success]
  · simp [success]

end Outcomes

end NodeWireguard.LinkExchange
