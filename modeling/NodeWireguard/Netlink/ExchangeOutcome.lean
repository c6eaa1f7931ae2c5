import Mathlib
import NodeWireguard.Netlink.AddressForms
import NodeWireguard.Netlink.SocketExchange

/-!
# What a finished exchange says about the kernel

An exchange should return normally only after the kernel reported success, and a negative
completion should become its error number. The two nested loops are taken as one loop over
the receives and messages in order, and the first of these that ends an exchange decides.

Two endings are reported wrongly: a receive of zero octets, and an `NLMSG_DONE` whose
status is negative. Both return as if the kernel were done.
-/

namespace NodeWireguard.ExchangeOutcome

open ByteText AddressText AddressForms WireguardUapi MessageBuffer EarlyExit SocketExchange

/-- A message that reports success: an acknowledgement, the end of a dump, or a reply
that is not part of a dump. -/
def Succeeds (msg : NlMsg) : Prop :=
  (msg.type = NLMSG_ERROR ∧ msg.status = 0) ∨ (msg.type = NLMSG_DONE ∧ 0 ≤ msg.status) ∨
    (msg.type ≠ NLMSG_ERROR ∧ msg.type ≠ NLMSG_DONE ∧ msg.flags &&& NLM_F_MULTI = 0)

/-- The two types of messages that end an exchange differ. -/
theorem done_not_error : NLMSG_DONE ≠ NLMSG_ERROR := by decide

/-- A completion message that carries a negative error. The kernel refuses a request by an error
message, and gives a dump up by an end with a negative status. -/
def Fails (msg : NlMsg) : Prop :=
  (msg.type = NLMSG_ERROR ∨ msg.type = NLMSG_DONE) ∧ msg.status < 0

/-- A normal return that the handler did not ask for has seen success, and a negative
completion is thrown with its error number. -/
structure ReportsKernel {σ : Type} (result : Result σ) : Prop where
  success : result.outcome = some (.returned false) → ∃ msg ∈ result.exchange.seen, Succeeds msg
  failure : ∀ msg ∈ result.exchange.seen, Fails msg →
    ∃ what, result.outcome = some (.threw (.systemError (-msg.status) what))

/-- One item of the flattened stream. A datagram counts as its messages, and a call without one
as itself. -/
inductive Signal where
  | failed (errno : Int)
  | nothing
  | message (msg : NlMsg)

/-- The items of one receive. -/
def signalsOf : Received → List Signal
  | .failed errno => [.failed errno]
  | .nothing => [.nothing]
  | .datagram messages => messages.map .message

section Conditions

variable (seq portid : UInt32)

/-- A message that ends the exchange it belongs to. -/
def completes (msg : NlMsg) : Bool :=
  msg.type = NLMSG_ERROR ∨ msg.type = NLMSG_DONE ∨ msg.flags &&& NLM_F_MULTI = 0

/-- Is the message one of the exchange's own? -/
def own (msg : NlMsg) : Bool := msg.seq = seq ∧ msg.pid = portid

/-- Does the item end the exchange, whatever the handler answers? -/
def ends : Signal → Bool
  | .failed _ | .nothing => true
  | .message msg => own seq portid msg && completes msg

/-- The two endings that do not mean success but are returned as if they did. -/
def misreported : Signal → Bool
  | .failed _ => false
  | .nothing => true
  | .message msg => msg.type = NLMSG_DONE ∧ msg.status < 0

/-- The own message of an item. -/
def ownMessage : Signal → Option NlMsg
  | .message msg => if own seq portid msg then some msg else none
  | _ => none

end Conditions

/-- Does the handler ask to stop at one of the messages? -/
def handlerStops {σ : Type} (handler : σ → NlMsg → σ × Bool) : σ → List NlMsg → Bool
  | _, [] => false
  | state, msg :: rest =>
      let (after, more) := handler state msg
      !more || handlerStops handler after rest

/-- The handler stops the exchange before it ends, or it ends with an item that is not
reported wrongly. -/
def EndsProperly {σ : Type} (seq portid : UInt32) (handler : σ → NlMsg → σ × Bool) (state : σ)
    (signals : List Signal) : Prop :=
  handlerStops handler state
      ((signals.takeWhile (fun signal => !ends seq portid signal)).filterMap (ownMessage seq portid)) = true ∨
    ∀ ending, signals.find? (ends seq portid) = some ending → misreported ending = false

section Loops

variable {σ : Type} (strerror : Int → Bytes) (seq portid : UInt32)
  (handler : σ → NlMsg → σ × Bool)

/-- One item of the flattened stream. -/
def signalStep (x : Exchange σ) : Signal → Exchange σ × Option Outcome
  | .failed errno => receive strerror seq portid handler x (.failed errno)
  | .nothing => receive strerror seq portid handler x .nothing
  | .message msg => examine strerror seq portid handler x msg

/-- Receiving is the loop over the signals a datagram has: its messages, or the one of the call. -/
theorem receive_signals (x : Exchange σ) (event : Received) :
    receive strerror seq portid handler x event =
      scan (signalStep strerror seq portid handler) x (signalsOf event) := by
  cases event with
  | failed errno => rfl
  | nothing => rfl
  | datagram messages =>
    exact (scan_map (signalStep strerror seq portid handler) Signal.message x messages).symm

/-- The nested loops are one loop over the flattened stream. -/
theorem receive_flattened (x : Exchange σ) (stream : List Received) :
    scan (receive strerror seq portid handler) x stream =
      scan (signalStep strerror seq portid handler) x (stream.flatMap signalsOf) := by
  rw [← scan_flat_map]
  congr
  funext x event
  exact receive_signals strerror seq portid handler x event

/-- Every message examined so far leaves the exchange open. -/
def Pending (x : Exchange σ) : Prop := ∀ msg ∈ x.seen, completes msg = false

/-- A message that does not end a dump is neither a success nor a failure. -/
theorem open_message (msg : NlMsg) (incomplete : completes msg = false) :
    ¬ Succeeds msg ∧ ¬ Fails msg := by
  simp only [completes, decide_eq_false_iff_not, not_or] at incomplete
  obtain ⟨notError, notDone, multi⟩ := incomplete
  simp [Succeeds, Fails, notError, notDone, multi]

/-- An exchange stays open over a message that leaves it open. -/
theorem pending_append (x : Exchange σ) (pending : Pending x) (state : σ) (msg : NlMsg)
    (incomplete : completes msg = false) : Pending ⟨state, x.seen ++ [msg]⟩ := by
  intro earlier member
  rcases List.mem_append.mp member with before | last
  · exact pending earlier before
  · rwa [List.mem_singleton.mp last]

/-- Only the last message decides what is reported. The messages before it completed nothing, so
they are neither a success nor a failure. -/
theorem reports_last {τ : Type} (x : Exchange τ) (pending : Pending x) (state : τ) (msg : NlMsg)
    (outcome : Outcome) (rest : List Received) :
    ReportsKernel ⟨⟨state, x.seen ++ [msg]⟩, some outcome, rest⟩ ↔
      (outcome = .returned false → Succeeds msg) ∧
        (Fails msg → ∃ what, outcome = .threw (.systemError (-msg.status) what)) := by
  have quiet (earlier : NlMsg) (member : earlier ∈ x.seen) : ¬ Succeeds earlier ∧ ¬ Fails earlier :=
    open_message earlier (pending earlier member)
  constructor
  · rintro ⟨success, failure⟩
    refine ⟨?_, ?_⟩
    · intro returned
      obtain ⟨found, member, succeeds⟩ := success (congrArg some returned)
      rcases List.mem_append.mp member with earlier | last
      · exact absurd succeeds (quiet found earlier).1
      · rwa [← List.mem_singleton.mp last]
    · intro fails
      simpa using failure msg (by simp) fails
  · rintro ⟨success, failure⟩
    refine ⟨?_, ?_⟩
    · intro returned
      exact ⟨msg, by simp, success (Option.some.inj returned)⟩
    · intro found member fails
      rcases List.mem_append.mp member with earlier | last
      · exact absurd fails (quiet found earlier).2
      · obtain rfl := List.mem_singleton.mp last
        simpa using failure fails

/-- An item that ends the exchange is reported correctly unless it is one of the two. The cases
are what a call returned and the types of a message: a failed call is no report of the kernel's,
an acknowledgement and a good end are a success, an error is thrown. -/
theorem ending_reported (x : Exchange σ) (pending : Pending x) (signal : Signal)
    (ending : ends seq portid signal = true) :
    ∃ y outcome, signalStep strerror seq portid handler x signal = (y, some outcome) ∧
      ∀ rest, ReportsKernel ⟨y, some outcome, rest⟩ ↔ misreported signal = false := by
  have quiet (msg : NlMsg) (member : msg ∈ x.seen) : ¬ Succeeds msg ∧ ¬ Fails msg :=
    open_message msg (pending msg member)
  cases signal with
  | failed errno =>
    refine ⟨x, _, rfl, fun rest => iff_of_true ⟨by simp, ?_⟩ rfl⟩
    exact fun msg member fails => absurd fails (quiet msg member).2
  | nothing =>
    refine ⟨x, _, rfl, fun rest => iff_of_false ?_ (by simp [misreported])⟩
    rintro ⟨success, -⟩
    obtain ⟨msg, member, succeeds⟩ := success rfl
    exact (quiet msg member).1 succeeds
  | message msg =>
    simp only [ends, own, Bool.and_eq_true, decide_eq_true_eq] at ending
    obtain ⟨⟨sameSeq, samePid⟩, completed⟩ := ending
    by_cases isError : msg.type = NLMSG_ERROR
    · by_cases zero : msg.status = 0
      · refine ⟨⟨x.state, x.seen ++ [msg]⟩, .returned false, ?_, fun rest => ?_⟩
        · simp [signalStep, examine, sameSeq, samePid, isError, zero]
        · simp [reports_last x pending, Succeeds, Fails, misreported, isError, zero,
            done_not_error.symm]
      · refine ⟨⟨x.state, x.seen ++ [msg]⟩,
          .threw (socketFailure strerror "netlink error: " (-msg.status)), ?_, fun rest => ?_⟩
        · simp [signalStep, examine, sameSeq, samePid, isError, zero]
        · simp [reports_last x pending, misreported, isError, socketFailure, done_not_error.symm]
    · by_cases isDone : msg.type = NLMSG_DONE
      · refine ⟨⟨x.state, x.seen ++ [msg]⟩, .returned false, ?_, fun rest => ?_⟩
        · simp [signalStep, examine, sameSeq, samePid, isDone, done_not_error]
        · simp [reports_last x pending, Succeeds, Fails, misreported, isDone, done_not_error]
      · have single : msg.flags &&& NLM_F_MULTI = 0 := by
          simpa [completes, isError, isDone] using completed
        refine ⟨⟨(handler x.state msg).1, x.seen ++ [msg]⟩,
          .returned (!(handler x.state msg).2), ?_, fun rest => ?_⟩
        · cases more : (handler x.state msg).2 <;>
            simp [signalStep, examine, sameSeq, samePid, isError, isDone, single, more]
        · simp [reports_last x pending, Succeeds, Fails, misreported, isError, isDone, single]

/-- An item that leaves the exchange open unless the handler stops it: it is not one of
the exchange's own, or it is handed over. -/
theorem open_step (x : Exchange σ) (signal : Signal) (unfinished : ends seq portid signal = false) :
    (ownMessage seq portid signal = none ∧
        signalStep strerror seq portid handler x signal = (x, none)) ∨
      ∃ msg, ownMessage seq portid signal = some msg ∧ completes msg = false ∧
        signalStep strerror seq portid handler x signal =
          (⟨(handler x.state msg).1, x.seen ++ [msg]⟩,
            if (handler x.state msg).2 then none else some (.returned true)) := by
  cases signal with
  | failed errno => cases unfinished
  | nothing => cases unfinished
  | message msg =>
    cases mine : own seq portid msg with
    | false =>
      refine .inl ⟨by simp [ownMessage, mine], ?_⟩
      have other : msg.seq ≠ seq ∨ msg.pid ≠ portid := by
        simpa [own, or_iff_not_imp_left] using mine
      simp [signalStep, examine, other]
    | true =>
      have incomplete : completes msg = false := by simpa [ends, mine] using unfinished
      refine .inr ⟨msg, by simp [ownMessage, mine], incomplete, ?_⟩
      simp only [own, decide_eq_true_eq] at mine
      simp only [completes, decide_eq_false_iff_not, not_or] at incomplete
      obtain ⟨notError, notDone, multi⟩ := incomplete
      cases more : (handler x.state msg).2 <;>
        simp [signalStep, examine, mine, notError, notDone, multi, more]

/-- From any open exchange, the rest of the stream is reported correctly exactly when it
ends properly. -/
theorem signals_reported_iff (x : Exchange σ) (pending : Pending x) (signals : List Signal)
    (rest : List Received) :
    ReportsKernel ⟨(scan (signalStep strerror seq portid handler) x signals).1,
        (scan (signalStep strerror seq portid handler) x signals).2, rest⟩ ↔
      EndsProperly seq portid handler x.state signals := by
  induction signals generalizing x with
  | nil =>
    refine iff_of_true ⟨by simp [scan], ?_⟩ (.inr (by simp))
    exact fun msg member fails => absurd fails (open_message msg (pending msg member)).2
  | cons signal later inductionHypothesis =>
    cases ending : ends seq portid signal with
    | true =>
      obtain ⟨y, outcome, stepped, reported⟩ :=
        ending_reported strerror seq portid handler x pending signal ending
      rw [scan_stops _ _ _ _ _ _ stepped, reported rest]
      simp [EndsProperly, ending, handlerStops]
    | false =>
      rcases open_step strerror seq portid handler x signal ending with
        ⟨foreign, stepped⟩ | ⟨msg, mine, incomplete, stepped⟩
      · rw [scan_continues _ _ _ _ _ stepped, inductionHypothesis x pending]
        simp [EndsProperly, ending, foreign]
      · cases more : (handler x.state msg).2 with
        | true =>
          rw [more, if_pos rfl] at stepped
          rw [scan_continues _ _ _ _ _ stepped,
            inductionHypothesis _ (pending_append x pending _ msg incomplete)]
          simp [EndsProperly, ending, mine, handlerStops, more]
        | false =>
          rw [more, if_neg (by simp)] at stepped
          rw [scan_stops _ _ _ _ _ _ stepped]
          have reported := (reports_last x pending (handler x.state msg).1 msg (.returned true) rest).mpr
            ⟨by simp, fun fails => absurd fails (open_message msg incomplete).2⟩
          exact iff_of_true reported (.inl (by simp [ending, mine, handlerStops, more]))

/-- An exchange reports what the kernel did exactly when the request is not sent or the
stream ends properly. -/
theorem send_and_receive_reports_iff (sent : Option Int) (state : σ) (stream : List Received) :
    ReportsKernel (sendAndReceive strerror seq portid handler sent state stream) ↔
      sent.isSome ∨ EndsProperly seq portid handler state (stream.flatMap signalsOf) := by
  cases sent with
  | some errno =>
    refine iff_of_true ⟨by simp [sendAndReceive], by simp [sendAndReceive]⟩ (.inl rfl)
  | none =>
    have empty : Pending ({ state } : Exchange σ) := by simp [Pending]
    have reported := signals_reported_iff strerror seq portid handler { state } empty
      (stream.flatMap signalsOf) (unread (receive strerror seq portid handler) { state } stream)
    rw [← receive_flattened] at reported
    simpa [sendAndReceive] using reported

/-- One of the two wrong endings returns without a successful message. -/
theorem misreported_returns (x : Exchange σ) (pending : Pending x) (signal : Signal)
    (ending : ends seq portid signal = true) (wrong : misreported signal = true) :
    ∃ y, signalStep strerror seq portid handler x signal = (y, some (.returned false)) ∧
      ∀ msg ∈ y.seen, ¬ Succeeds msg := by
  have quiet (msg : NlMsg) (member : msg ∈ x.seen) : ¬ Succeeds msg :=
    (open_message msg (pending msg member)).1
  cases signal with
  | failed errno => cases wrong
  | nothing => exact ⟨x, rfl, quiet⟩
  | message msg =>
    simp only [ends, own, Bool.and_eq_true, decide_eq_true_eq] at ending
    simp only [misreported, decide_eq_true_eq] at wrong
    refine ⟨⟨x.state, x.seen ++ [msg]⟩, ?_, ?_⟩
    · simp [signalStep, examine, ending.1, wrong.1, done_not_error]
    · intro found member
      rcases List.mem_append.mp member with earlier | last
      · exact quiet found earlier
      · rw [List.mem_singleton.mp last]
        simp [Succeeds, wrong.1, done_not_error, wrong.2]

/-- An exchange that does not end properly returns, and saw no success. Such an exchange ends at
the first item that ends it, which is one of the two misreported ones, and the messages before it
completed nothing. -/
theorem improper_end_returns (x : Exchange σ) (pending : Pending x) (signals : List Signal)
    (improper : ¬ EndsProperly seq portid handler x.state signals) :
    (scan (signalStep strerror seq portid handler) x signals).2 = some (.returned false) ∧
      ∀ msg ∈ (scan (signalStep strerror seq portid handler) x signals).1.seen, ¬ Succeeds msg := by
  induction signals generalizing x with
  | nil => exact absurd (.inr (by simp)) improper
  | cons signal later inductionHypothesis =>
    cases ending : ends seq portid signal with
    | true =>
      have wrong : misreported signal = true := by
        simpa [EndsProperly, ending, handlerStops] using improper
      obtain ⟨y, stepped, quiet⟩ :=
        misreported_returns strerror seq portid handler x pending signal ending wrong
      rw [scan_stops _ _ _ _ _ _ stepped]
      exact ⟨rfl, quiet⟩
    | false =>
      rcases open_step strerror seq portid handler x signal ending with
        ⟨foreign, stepped⟩ | ⟨msg, mine, incomplete, stepped⟩
      · rw [scan_continues _ _ _ _ _ stepped]
        exact inductionHypothesis x pending (by simpa [EndsProperly, ending, foreign] using improper)
      · have more : (handler x.state msg).2 = true := by
          by_contra stops
          exact improper (.inl (by simp [ending, mine, handlerStops, stops]))
        rw [more, if_pos rfl] at stepped
        rw [scan_continues _ _ _ _ _ stepped]
        exact inductionHypothesis _ (pending_append x pending _ msg incomplete)
          (by simpa [EndsProperly, ending, mine, handlerStops, more] using improper)

/-- So success is all that has to be seen: an exchange that saw it ended properly. One that did
not end properly would have returned without a success. -/
theorem send_and_receive_success_iff (sent : Option Int) (state : σ) (stream : List Received) :
    ((sendAndReceive strerror seq portid handler sent state stream).outcome = some (.returned false) →
        ∃ msg ∈ (sendAndReceive strerror seq portid handler sent state stream).exchange.seen,
          Succeeds msg) ↔
      sent.isSome ∨ EndsProperly seq portid handler state (stream.flatMap signalsOf) := by
  constructor
  · intro success
    cases sent with
    | some errno => exact .inl rfl
    | none =>
      refine .inr ?_
      by_contra improper
      have empty : Pending ({ state } : Exchange σ) := by simp [Pending]
      have silent := improper_end_returns strerror seq portid handler { state } empty _ improper
      rw [← receive_flattened] at silent
      obtain ⟨msg, member, succeeds⟩ := success silent.1
      exact silent.2 msg member succeeds
  · intro proper
    exact ((send_and_receive_reports_iff strerror seq portid handler sent state stream).mpr
      proper).success

/-- A handler that never asks to stop does not end the exchange. It returns only at a message
that completes the exchange, so with the flag of a completed one. -/
theorem never_stopped (always : ∀ state msg, (handler state msg).2 = true) (sent : Option Int)
    (state : σ) (stream : List Received) :
    (sendAndReceive strerror seq portid handler sent state stream).outcome ≠ some (.returned true) := by
  cases sent with
  | some errno => simp [sendAndReceive]
  | none =>
    intro stopped
    have ended : (scan (receive strerror seq portid handler) { state } stream).2 =
        some (.returned true) := stopped
    rw [receive_flattened] at ended
    obtain ⟨x, signal, -, stepped⟩ := scan_result _ _ _ _ ended
    cases signal with
    | failed errno => simp [signalStep, receive] at stepped
    | nothing => simp [signalStep, receive] at stepped
    | message msg =>
      simp only [signalStep, examine, always] at stepped
      split at stepped
      · simp at stepped
      · split at stepped
        · split at stepped <;> simp at stepped
        · split at stepped
          · simp at stepped
          · simp only [Bool.not_true, Bool.false_eq_true, ↓reduceIte] at stepped
            split at stepped <;> simp at stepped

end Loops

section Devices

variable (strerror : Int → Bytes) (inet : Inet) (fresh : FreshOctets)

/-- An exchange that returned gives the handler's state, and leaves what it did not read. -/
theorem returned_call {σ : Type} (result : Result σ) (sock : NlSocket) (stopped : Bool)
    (returned : result.outcome = some (.returned stopped)) :
    result.call sock = .value result.exchange.state sock result.rest := by
  simp only [Result.call, returned]

/-- A device that is returned was dumped to the end: its exchange saw success. -/
def DeviceWhole (sock : NlSocket) (name : Bytes) (lookupSent dumpSent : Option Int)
    (stream : List Received) : Prop :=
  ∀ device left rest,
    fetchDeviceKernel strerror inet fresh sock name lookupSent dumpSent stream =
        .value device left rest →
      ∃ familyId known queued nlh,
        wireGuardFamilyId strerror sock lookupSent stream = .value familyId known queued ∧
        buildGetDeviceMessage familyId known.nextSeq.1 name = .ok nlh ∧
        ∃ msg ∈ (dumpExchange strerror inet fresh known.nextSeq.2 nlh name dumpSent queued).exchange.seen,
          Succeeds msg

/-- Where the dump is sent, what the lookup leaves of the stream ends properly. -/
def DumpEndsProperly (sock : NlSocket) (name : Bytes) (lookupSent dumpSent : Option Int)
    (stream : List Received) : Prop :=
  ∀ familyId known queued nlh,
    wireGuardFamilyId strerror sock lookupSent stream = .value familyId known queued →
    buildGetDeviceMessage familyId known.nextSeq.1 name = .ok nlh →
      dumpSent.isSome ∨ EndsProperly nlh.seq known.nextSeq.2.portid (deviceHandler inet fresh)
        { name } (queued.flatMap signalsOf)

/-- Devices are returned only from whole dumps exactly when the dump ends properly. The device is
what the second exchange leaves, once the family is known and the request is built; in every
other case nothing is returned and nothing is asked. -/
theorem device_whole_iff (sock : NlSocket) (name : Bytes) (lookupSent dumpSent : Option Int)
    (stream : List Received) :
    DeviceWhole strerror inet fresh sock name lookupSent dumpSent stream ↔
      DumpEndsProperly strerror inet fresh sock name lookupSent dumpSent stream := by
  constructor
  · intro whole familyId known queued nlh found built
    refine (send_and_receive_success_iff strerror nlh.seq known.nextSeq.2.portid
      (deviceHandler inet fresh) dumpSent { name } queued).mp ?_
    intro returned
    have fetched : fetchDeviceKernel strerror inet fresh sock name lookupSent dumpSent stream =
        (dumpExchange strerror inet fresh known.nextSeq.2 nlh name dumpSent queued).call
          known.nextSeq.2 := by
      simp only [fetchDeviceKernel, found, dumpDevice, built]
    have value := returned_call (dumpExchange strerror inet fresh known.nextSeq.2 nlh name dumpSent
      queued) known.nextSeq.2 false returned
    obtain ⟨familyId', known', queued', nlh', found', built', success⟩ :=
      whole _ _ _ (fetched.trans value)
    obtain ⟨rfl, rfl, rfl⟩ : familyId = familyId' ∧ known = known' ∧ queued = queued' := by
      simpa using found.symm.trans found'
    obtain rfl : nlh = nlh' := Except.ok.inj (built.symm.trans built')
    exact success
  · intro proper device left rest fetched
    cases found : wireGuardFamilyId strerror sock lookupSent stream with
    | threw failure known queued => simp [fetchDeviceKernel, found] at fetched
    | waiting => simp [fetchDeviceKernel, found] at fetched
    | value familyId known queued =>
      simp only [fetchDeviceKernel, found, dumpDevice] at fetched
      cases built : buildGetDeviceMessage familyId known.nextSeq.1 name with
      | error failure => simp [built] at fetched
      | ok nlh =>
        simp only [built] at fetched
        refine ⟨familyId, known, queued, nlh, rfl, built, ?_⟩
        have reported := (send_and_receive_success_iff strerror nlh.seq known.nextSeq.2.portid
          (deviceHandler inet fresh) dumpSent { name } queued).mpr
          (proper familyId known queued nlh found built)
        apply reported
        have notStopped := never_stopped strerror nlh.seq known.nextSeq.2.portid
          (deviceHandler inet fresh) (fun _ _ => rfl) dumpSent { name } queued
        unfold Result.call at fetched
        split at fetched
        · rename_i stopped returned
          cases stopped with
          | false => exact returned
          | true => exact absurd returned notStopped
        · cases fetched
        · cases fetched

end Devices

/-- An exchange reports what the kernel did, and devices are returned only from whole
dumps, exactly when what ends the exchange is neither a receive of zero octets nor an
`NLMSG_DONE` with a negative status.

Proof: the two nested loops are one scan over the messages and the results of the calls. A scan
ends at the first item that ends it, so the outcome is what that item makes of it, and the items
that make something else of it than the kernel meant are exactly these two. A device is the state
of the handler where the second exchange returned, so it is whole under the same condition on
that exchange. -/
theorem exchange_reports_kernel_iff (strerror : Int → Bytes) :
    (∀ (σ : Type) (seq portid : UInt32) (handler : σ → NlMsg → σ × Bool) (sent : Option Int)
        (state : σ) (stream : List Received),
      ReportsKernel (sendAndReceive strerror seq portid handler sent state stream) ↔
        sent.isSome ∨ EndsProperly seq portid handler state (stream.flatMap signalsOf)) ∧
    ∀ inet fresh sock name lookupSent dumpSent stream,
      DeviceWhole strerror inet fresh sock name lookupSent dumpSent stream ↔
        DumpEndsProperly strerror inet fresh sock name lookupSent dumpSent stream :=
  ⟨fun _ seq portid handler => send_and_receive_reports_iff strerror seq portid handler,
    device_whole_iff strerror⟩

/-- The end of a dump that failed with `EINTR`. -/
def interrupted : NlMsg :=
  ⟨NLMSG_DONE, NLM_F_MULTI, 1, 7, [0xfc, 0xff, 0xff, 0xff], fun _ => by decide⟩

/-- libc's text of `EINTR`. -/
def interruptedText (_ : Int) : Bytes := ascii "Interrupted system call"

/-- A dump the kernel gave up with an error is returned as a device. The end of the dump carries
a negative status, which the code does not look at, so the parts until then are returned as the
device. -/
theorem cut_dump_returned :
    fetchDeviceKernel interruptedText plainInet zeroed ⟨7, 0, 30⟩ (ascii "wg0") none none
        [.datagram [interrupted]] = .value { name := ascii "wg0" } ⟨7, 1, 30⟩ [] ∧
      ¬ DeviceWhole interruptedText plainInet zeroed ⟨7, 0, 30⟩ (ascii "wg0") none none
        [.datagram [interrupted]] ∧
      ¬ ReportsKernel (sendAndReceive interruptedText 1 7 (deviceHandler plainInet zeroed) none
        { name := ascii "wg0" } [.datagram [interrupted]]) := by
  have fetched : fetchDeviceKernel interruptedText plainInet zeroed ⟨7, 0, 30⟩ (ascii "wg0") none
      none [.datagram [interrupted]] = .value { name := ascii "wg0" } ⟨7, 1, 30⟩ [] := rfl
  have unsuccessful (msg : NlMsg) (member : msg ∈ [interrupted]) : ¬ Succeeds msg := by
    rw [List.mem_singleton.mp member]
    unfold Succeeds
    decide
  refine ⟨fetched, ?_, ?_⟩
  · intro whole
    obtain ⟨familyId, known, queued, nlh, found, built, msg, member, succeeds⟩ := whole _ _ _ fetched
    obtain ⟨rfl, rfl, rfl⟩ : 30 = familyId ∧ ⟨7, 0, 30⟩ = known ∧ [.datagram [interrupted]] = queued := by
      simpa [wireGuardFamilyId] using found
    have seq : nlh.seq = 1 := by
      obtain rfl := Except.ok.inj (show Except.ok _ = Except.ok nlh from built)
      rfl
    rw [dumpExchange, seq] at member
    exact unsuccessful msg member succeeds
  · intro reports
    obtain ⟨msg, member, succeeds⟩ := reports.success rfl
    exact unsuccessful msg member succeeds

end NodeWireguard.ExchangeOutcome
