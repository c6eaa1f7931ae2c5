import Mathlib
import NodeWireguard.Netlink.ExchangeOutcome

/-!
# Runs of requests on one socket

A client sends one request after another on its socket, each with the next sequence
number. An exchange stops at the first message that ends it, so a later one may start with
replies to earlier requests still queued; the acknowledgement of the family lookup is one.

Datagrams arrive while some request is running. A message for this port answers a request
that was already sent, and any other message may be anywhere. As long as the sequence
counter has not wrapped, every request then ends as it would have on its own messages.
-/

namespace NodeWireguard.RequestRuns

open ByteText AddressText AddressForms WireguardUapi MessageBuffer EarlyExit SocketExchange
  ExchangeOutcome

/-- A request: its handler with the state it starts from, the error number of sending it
where that fails, and the datagrams that arrive while it runs. -/
structure Request where
  σ : Type
  handler : σ → NlMsg → σ × Bool
  state : σ
  sent : Option Int
  arrivals : List (List NlMsg)

/-- The request of `WireGuardFamilyId`. It starts from no family. -/
def familyLookup (sent : Option Int) (arrivals : List (List NlMsg)) : Request :=
  ⟨UInt16, familyIdHandler, 0, sent, arrivals⟩

/-- The request of `FetchDeviceKernel`. It starts from a device with the name alone. -/
def deviceDump (inet : Inet) (fresh : FreshOctets) (name : Bytes) (sent : Option Int)
    (arrivals : List (List NlMsg)) : Request :=
  ⟨Device, deviceHandler inet fresh, { name }, sent, arrivals⟩

/-- The request of `ApplyConfig`. Nothing is collected from its reply. -/
def setRequest (sent : Option Int) (arrivals : List (List NlMsg)) : Request :=
  ⟨Unit, applyHandler, (), sent, arrivals⟩

/-- A request that was performed, with the number it was sent under and every datagram
delivered to the socket until it ended. -/
structure Performed where
  request : Request
  seq : UInt32
  delivered : List (List NlMsg)
  result : Result request.σ

section Runs

variable (strerror : Int → Bytes)

/-- The requests of a run in order, until one waits forever. -/
def run (sock : NlSocket) (delivered : List (List NlMsg)) (queue : List Received) :
    List Request → List Performed
  | [] => []
  | request :: later =>
      let (seq, sock) := sock.nextSeq
      let delivered := delivered ++ request.arrivals
      let result := sendAndReceive strerror seq sock.portid request.handler request.sent
        request.state (queue ++ request.arrivals.map .datagram)
      ⟨request, seq, delivered, result⟩ ::
        (match result.outcome with
        | some _ => run sock delivered result.rest later
        | none => [])

/-- The datagrams without the messages of other requests and ports. -/
def onlyOwn (seq portid : UInt32) (datagrams : List (List NlMsg)) : List (List NlMsg) :=
  (datagrams.map (·.filter (own seq portid))).filter (fun datagram => !datagram.isEmpty)

/-- A message for this port that arrives during a request carries a number issued so far. -/
def Causal (portid : UInt32) : Nat → List Request → Prop
  | _, [] => True
  | issued, request :: later =>
      (∀ datagram ∈ request.arrivals, ∀ msg ∈ datagram, msg.pid = portid →
        msg.seq.toNat ≤ issued + 1) ∧ Causal portid (issued + 1) later

/-- What a request gets from its own messages alone. -/
def alone (portid : UInt32) (performed : Performed) : Result performed.request.σ :=
  sendAndReceive strerror performed.seq portid performed.request.handler performed.request.sent
    performed.request.state
    ((onlyOwn performed.seq portid performed.delivered).map .datagram)

/-- The request handed the same messages to its handler as it would have on its own, and
ended the same way. -/
def StaysApart (portid : UInt32) (performed : Performed) : Prop :=
  performed.result.exchange = (alone strerror portid performed).exchange ∧
    performed.result.outcome = (alone strerror portid performed).outcome

end Runs

section Filtering

variable {σ : Type} (strerror : Int → Bytes) (seq portid : UInt32)
  (handler : σ → NlMsg → σ × Bool)

/-- Messages of other requests and ports are skipped. -/
theorem examine_other (x : Exchange σ) (msg : NlMsg) (other : own seq portid msg = false) :
    examine strerror seq portid handler x msg = (x, none) := by
  have differs : msg.seq ≠ seq ∨ msg.pid ≠ portid := by
    simpa [own, or_iff_not_imp_left] using other
  simp [examine, differs]

/-- Over datagrams, the nested loops are one loop over the messages of their own. -/
theorem receive_own (x : Exchange σ) (datagrams : List (List NlMsg)) :
    scan (receive strerror seq portid handler) x (datagrams.map .datagram) =
      scan (examine strerror seq portid handler) x
        (datagrams.flatten.filter (own seq portid)) := by
  rw [scan_filter _ _ (examine_other strerror seq portid handler), scan_map,
    ← List.flatMap_id]
  exact scan_flat_map (examine strerror seq portid handler) id x datagrams

/-- Dropping other messages, and the datagrams this empties, keeps the own ones. -/
theorem only_own_flatten (datagrams : List (List NlMsg)) :
    (onlyOwn seq portid datagrams).flatten.filter (own seq portid) =
      datagrams.flatten.filter (own seq portid) := by
  rw [onlyOwn, List.flatten_filter_not_isEmpty, List.filter_flatten, List.filter_flatten,
    List.map_map]
  simp [Function.comp_def]

/-- Messages of earlier numbers are all dropped. -/
theorem issued_before (issued : Nat) (datagrams : List (List NlMsg))
    (number : seq.toNat = issued + 1)
    (earlier : ∀ datagram ∈ datagrams, ∀ msg ∈ datagram, msg.pid = portid →
      msg.seq.toNat ≤ issued) :
    datagrams.flatten.filter (own seq portid) = [] := by
  apply List.filter_eq_nil_iff.mpr
  intro msg member mine
  obtain ⟨datagram, listed, inside⟩ := List.mem_flatten.mp member
  obtain ⟨sameSeq, samePid⟩ : msg.seq = seq ∧ msg.pid = portid := by simpa [own] using mine
  have bound := earlier datagram listed msg inside samePid
  rw [sameSeq, number] at bound
  omega

/-- A request whose queue holds only messages of earlier numbers ends as it would on its
own messages among all that was delivered. -/
theorem request_stays_apart (issued : Nat) (number : seq.toNat = issued + 1) (state : σ)
    (sent : Option Int) (delivered queue arrivals : List (List NlMsg))
    (queued : queue <:+ delivered)
    (earlier : ∀ datagram ∈ delivered, ∀ msg ∈ datagram, msg.pid = portid →
      msg.seq.toNat ≤ issued) :
    let result := sendAndReceive strerror seq portid handler sent state
      (queue.map .datagram ++ arrivals.map .datagram)
    let separate := sendAndReceive strerror seq portid handler sent state
      ((onlyOwn seq portid (delivered ++ arrivals)).map .datagram)
    result.exchange = separate.exchange ∧ result.outcome = separate.outcome := by
  cases sent with
  | some errno => exact ⟨rfl, rfl⟩
  | none =>
    have left : (queue ++ arrivals).flatten.filter (own seq portid) =
        arrivals.flatten.filter (own seq portid) := by
      rw [List.flatten_append, List.filter_append, issued_before seq portid issued queue number
        (fun datagram member => earlier datagram (queued.mem member)), List.nil_append]
    have right : (delivered ++ arrivals).flatten.filter (own seq portid) =
        arrivals.flatten.filter (own seq portid) := by
      rw [List.flatten_append, List.filter_append, issued_before seq portid issued delivered number
        earlier, List.nil_append]
    have same : scan (receive strerror seq portid handler) { state }
          (queue.map .datagram ++ arrivals.map .datagram) =
        scan (receive strerror seq portid handler) { state }
          ((onlyOwn seq portid (delivered ++ arrivals)).map .datagram) := by
      rw [← List.map_append, receive_own, receive_own, only_own_flatten, left, right]
    simp only [sendAndReceive, same, and_self]

/-- What an exchange leaves in the queue is an end of it. -/
theorem rest_suffix (state : σ) (sent : Option Int) (stream : List Received) :
    (sendAndReceive strerror seq portid handler sent state stream).rest <:+ stream := by
  cases sent with
  | some errno => exact List.suffix_rfl
  | none => exact unread_suffix _ _ _

end Filtering

section Apart

variable (strerror : Int → Bytes)

/-- From any point of a run: as many numbers are issued as the counter says, everything
delivered so far carries one of them, and the queue is an end of what was delivered. -/
theorem run_stays_apart (sock : NlSocket) (delivered queue : List (List NlMsg))
    (requests : List Request) (few : sock.seq.toNat + requests.length < 2 ^ 32)
    (causal : Causal sock.portid sock.seq.toNat requests) (queued : queue <:+ delivered)
    (earlier : ∀ datagram ∈ delivered, ∀ msg ∈ datagram, msg.pid = sock.portid →
      msg.seq.toNat ≤ sock.seq.toNat) :
    ∀ performed ∈ run strerror sock delivered (queue.map .datagram) requests,
      StaysApart strerror sock.portid performed := by
  induction requests generalizing sock delivered queue with
  | nil => simp [run]
  | cons request later inductionHypothesis =>
    obtain ⟨arrived, causalLater⟩ := causal
    have number : (sock.seq + 1).toNat = sock.seq.toNat + 1 := by
      rw [List.length_cons] at few
      rw [UInt32.toNat_add, UInt32.toNat_one]
      omega
    have separate := request_stays_apart strerror (sock.seq + 1) sock.portid request.handler
      sock.seq.toNat number request.state request.sent delivered queue request.arrivals queued earlier
    intro performed member
    simp only [run, NlSocket.nextSeq] at member
    rcases List.mem_cons.mp member with rfl | after
    · exact separate
    · split at after
      · have suffix := rest_suffix strerror (sock.seq + 1) sock.portid request.handler
          request.state request.sent (queue.map .datagram ++ request.arrivals.map .datagram)
        rw [← List.map_append] at suffix after
        obtain ⟨left, leftSuffix, leftMap⟩ := List.suffix_map_iff.mp suffix
        rw [leftMap] at after
        have all : ∀ datagram ∈ delivered ++ request.arrivals, ∀ msg ∈ datagram,
            msg.pid = sock.portid → msg.seq.toNat ≤ sock.seq.toNat + 1 := by
          intro datagram listed msg inside mine
          rcases List.mem_append.mp listed with before | now
          · exact Nat.le_succ_of_le (earlier datagram before msg inside mine)
          · exact arrived datagram now msg inside mine
        refine inductionHypothesis { sock with seq := sock.seq + 1 } (delivered ++ request.arrivals)
          left ?_ ?_ ?_ ?_ performed after
        · rw [List.length_cons] at few
          rw [number]
          omega
        · rw [number]
          exact causalLater
        · obtain ⟨consumed, whole⟩ := queued
          refine leftSuffix.trans ⟨consumed, ?_⟩
          rw [← whole, List.append_assoc]
        · rw [number]
          exact all
      · cases after

/-- On a new socket, every one of fewer than 2^32 requests is handed the same messages and
ends the same way as if the messages of all others had never been delivered.

Proof: by induction on the requests, from any point of a run. What is queued was delivered
earlier, so its messages for this port carry smaller numbers and are skipped, as all others are;
the scan over the rest is the scan over its own messages. The counter does not wrap, so no number
comes twice. -/
theorem replies_stay_apart (portid : UInt32) (requests : List Request)
    (few : requests.length < 2 ^ 32) (causal : Causal portid 0 requests) :
    ∀ performed ∈ run strerror ⟨portid, 0, 0⟩ [] [] requests,
      StaysApart strerror portid performed :=
  run_stays_apart strerror ⟨portid, 0, 0⟩ [] [] requests (by simpa using few) causal
    List.suffix_rfl (by simp)

end Apart

/-- An acknowledgement or a good end of a dump. -/
def status0 (type : UInt16) (seq pid : UInt32) : NlMsg :=
  ⟨type, NLM_F_MULTI, seq, pid, [0, 0, 0, 0], fun _ => by decide⟩

/-- A lookup whose acknowledgement stays queued, a dump that begins with it and with a message
for another port in the datagram that ends the dump, and a change that is acknowledged behind
a late end of that dump. -/
def lookupDumpSet : List Request :=
  [familyLookup none [[⟨GENL_ID_CTRL, 0, 1, 7, [1, 1, 0, 0, 6, 0, 1, 0, 30, 0, 0, 0], by decide⟩],
      [status0 NLMSG_ERROR 1 7]],
    deviceDump plainInet zeroed (ascii "wg0") none
      [[status0 NLMSG_DONE 2 9, status0 NLMSG_DONE 2 7]],
    setRequest none [[status0 NLMSG_DONE 2 7, status0 NLMSG_ERROR 3 7]]]

/-- All three requests of the sample are performed, under one number each, and stay apart. -/
theorem lookup_dump_set_stay_apart :
    (run interruptedText ⟨7, 0, 0⟩ [] [] lookupDumpSet).map Performed.seq = [1, 2, 3] ∧
      ∀ performed ∈ run interruptedText ⟨7, 0, 0⟩ [] [] lookupDumpSet,
        StaysApart interruptedText 7 performed := by
  refine ⟨by decide, replies_stay_apart interruptedText 7 lookupDumpSet (by decide) ?_⟩
  simp [lookupDumpSet, Causal, familyLookup, deviceDump, setRequest, status0]

end NodeWireguard.RequestRuns
