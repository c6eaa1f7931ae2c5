import Mathlib
import NodeWireguard.Netlink.AddressForms
import NodeWireguard.Netlink.LinkExchange

/-!
# Link commands beside each other

The functions of `RtLink.cpp` look an interface up and only then send their request, each on
a socket of its own. Any number of them may be under way at once, in this process or in
others, and other programs change links too. A step lets one call look up and prepare its
message, or send it and await the reply, or lets another program do something; a call's reply
concerns no other call, so sending and awaiting are one step.

The kernel reads the octets of a message. Whatever fails on the way, what it was made to do is
a list of requests, at most one for each call, each the intent its call had when it looked the
interface up; and a call that resolved is in the list with success. Since a link is created
exclusively, calls that race for one name cannot both create it.

A lookup is taken to answer what the kernel holds at that moment. This is an assumption:
`if_nametoindex` opens a socket of its own, and its failure gives 0 as well, which a call
cannot tell from a name that no link has.
-/

namespace NodeWireguard.LinkRuns

open ByteText AddressText MessageBuffer LinkRequests LinkExchange Relation

/-- The links as the kernel keeps them: the index of a name, which is 0 for a name that no link
has and what `if_nametoindex` is assumed to answer, and what a request does, with its error
number. -/
structure Kernel (σ : Type) where
  indexOf : σ → Bytes → UInt32
  perform : σ → LinkRequest → σ × Nat
  small : ∀ state request, (perform state request).2 < 2 ^ 31

/-- A request that the kernel was given, by one of the calls or from elsewhere. -/
structure Entry where
  call : Option Nat
  request : LinkRequest
  code : Nat

/-- How far a call is: not begun, with its message prepared, waiting for ever, or ended. -/
inductive Phase where
  | fresh
  | prepared (nlh : MsgBuf)
  | waiting
  | ended (outcome : Except Exception Unit)
  deriving DecidableEq

/-- A refused call ends at once; any other has its message. -/
def Phase.ofPrepared : Except Exception MsgBuf → Phase
  | .ok nlh => .prepared nlh
  | .error failure => .ended (.error failure)

/-- An exchange ends its call, or leaves it waiting. -/
def Phase.ofOutcome : Option (Except Exception Unit) → Phase
  | none => .waiting
  | some outcome => .ended outcome

/-- The links and the calls. `log` and `trace` record the requests the kernel was given, and
what each call did with its socket. -/
structure World (σ : Type) where
  state : σ
  phase : Nat → Phase := fun _ => .fresh
  log : List Entry := []
  trace : Nat → List Action := fun _ => []

/-- Invalid argument, the kernel's answer to octets that it cannot read. -/
def EINVAL : Nat := 22

section Steps

variable {σ : Type} (kernel : Kernel σ)

/-- What the kernel makes of a message it received from a call. -/
def serve (state : σ) (call : Nat) (nlh : MsgBuf) : σ × Nat × List Entry :=
  match readLinkRequest nlh with
  | none => (state, EINVAL, [])
  | some request =>
      let (after, code) := kernel.perform state request
      (after, code, [⟨some call, request, code⟩])

/-- A reply to the message that reaches its port is the kernel's acknowledgement. Whatever else
arrives has another number or another port. -/
def Answered (nlh : MsgBuf) (code : Nat) (calls : RtCalls) : Prop :=
  ∀ reply, calls.received = some (.ok reply) → replySeq reply = nlh.seq →
    replyPid reply = calls.portid →
    ∃ flags original, reply = ackBytes flags nlh.seq calls.portid code original

variable (strerror : Int → Bytes) (inet : Inet) (commands : Nat → Command)

/-- A call after it looked its interface up. The message is prepared from what the kernel holds
then, and is not looked at again before it is sent. -/
def checked (w : World σ) (call : Nat) (time : UInt32) : World σ :=
  { w with
    phase := Function.update w.phase call
      (.ofPrepared (prepare inet (kernel.indexOf w.state) time (commands call))) }

/-- A call after its exchange, in which the kernel is reached or not. -/
def exchanged (w : World σ) (call : Nat) (nlh : MsgBuf) (calls : RtCalls) : World σ :=
  let served := if calls.Reaches then serve kernel w.state call nlh else (w.state, 0, [])
  let (actions, outcome) := sendRtRequestAndWaitAck strerror calls nlh
  { state := served.1
    log := w.log ++ served.2.2
    trace := Function.update w.trace call (w.trace call ++ actions)
    phase := Function.update w.phase call (.ofOutcome outcome) }

/-- One step: a call looks its interface up, a call has its exchange, or another program asks for
something. -/
inductive Step : World σ → World σ → Prop where
  | check (w : World σ) (call : Nat) (time : UInt32) (fresh : w.phase call = .fresh) :
      Step w (checked kernel inet commands w call time)
  | exchange (w : World σ) (call : Nat) (nlh : MsgBuf) (calls : RtCalls)
      (ready : w.phase call = .prepared nlh)
      (answered : calls.Reaches → Answered nlh (serve kernel w.state call nlh).2.1 calls) :
      Step w (exchanged kernel strerror w call nlh calls)
  | other (w : World σ) (request : LinkRequest) :
      Step w { w with
        state := (kernel.perform w.state request).1
        log := w.log ++ [⟨none, request, (kernel.perform w.state request).2⟩] }

/-- The worlds that calls and other programs can lead to. -/
def Reachable (start : σ) (w : World σ) : Prop :=
  ReflTransGen (Step kernel strerror inet commands) { state := start } w

/-- The links after a list of requests. -/
def replay (start : σ) (log : List Entry) : σ :=
  log.foldl (fun state entry => (kernel.perform state entry.request).1) start

/-- Every entry has the error number its request was answered with. -/
def Codes : σ → List Entry → Prop
  | _, [] => True
  | state, entry :: rest =>
      entry.code = (kernel.perform state entry.request).2 ∧
        Codes (kernel.perform state entry.request).1 rest

/-- A request is what its call asked for at some moment before `log` ended. -/
def IntendedBefore (start : σ) (call : Nat) (log : List Entry) (request : LinkRequest) : Prop :=
  ∃ earlier, earlier <+: log ∧
    intent inet (kernel.indexOf (replay kernel start earlier)) (commands call) = some request

/-- The links are what a list of requests made them, with at most one request from each call,
and each of these was the call's intent before. -/
structure Faithful (start state : σ) (log : List Entry) : Prop where
  replayed : state = replay kernel start log
  codes : Codes kernel start log
  once : (log.filterMap Entry.call).Nodup
  intended : ∀ before entry after call, log = before ++ entry :: after → entry.call = some call →
    IntendedBefore kernel inet commands start call before entry.request

/-- What holds in every world: the list is faithful; a call that has not sent is not in it; a
prepared message is an earlier intent; a resolved call is in the list with success; and each
socket was used in order, for one message at most. -/
structure Consistent (start : σ) (w : World σ) : Prop where
  faithful : Faithful kernel inet commands start w.state w.log
  unsent : ∀ call, (w.phase call = .fresh ∨ ∃ nlh, w.phase call = .prepared nlh) →
    call ∉ w.log.filterMap Entry.call ∧ w.trace call = []
  ready : ∀ call nlh, w.phase call = .prepared nlh → ∃ request,
    readLinkRequest nlh = some request ∧ IntendedBefore kernel inet commands start call w.log request
  resolved : ∀ call, w.phase call = .ended (.ok ()) →
    ∃ entry ∈ w.log, entry.call = some call ∧ entry.code = 0
  sockets : ∀ call, (w.trace call).foldlM use .closed =
    some (if w.phase call = .waiting then .bound else .closed)
  single : ∀ call, (sentMessages (w.trace call)).length ≤ 1

/-- Requests are replayed in order. -/
theorem replay_append (start : σ) (left right : List Entry) :
    replay kernel start (left ++ right) = replay kernel (replay kernel start left) right := by
  simp [replay]

/-- Error numbers belong to the links that the requests before have made. -/
theorem codes_append (start : σ) (left right : List Entry) :
    Codes kernel start (left ++ right) ↔
      Codes kernel start left ∧ Codes kernel (replay kernel start left) right := by
  induction left generalizing start with
  | nil => simp [Codes, replay]
  | cons entry left inductionHypothesis =>
    simp only [List.cons_append, Codes, inductionHypothesis, replay, List.foldl_cons, and_assoc]

/-- An intent stays one of a moment before a longer list ended. -/
theorem intended_before_append {start : σ} {call : Nat} {log : List Entry} {request : LinkRequest}
    (more : List Entry) (intended : IntendedBefore kernel inet commands start call log request) :
    IntendedBefore kernel inet commands start call (log ++ more) request := by
  obtain ⟨earlier, isPrefix, asked⟩ := intended
  exact ⟨earlier, isPrefix.trans (List.prefix_append log more), asked⟩

/-- Another request from elsewhere, or the first one of a call, keeps the list faithful.
Replaying the longer list performs the last request on the links that the others made; the calls
stay distinct because the new one was not among them. -/
theorem faithful_snoc {start state : σ} {log : List Entry}
    (faithful : Faithful kernel inet commands start state log) (last : Entry)
    (code : last.code = (kernel.perform state last.request).2)
    (first : ∀ call, last.call = some call → call ∉ log.filterMap Entry.call ∧
      IntendedBefore kernel inet commands start call log last.request) :
    Faithful kernel inet commands start (kernel.perform state last.request).1 (log ++ [last]) := by
  constructor
  · rw [replay_append, ← faithful.replayed]
    simp [replay]
  · rw [codes_append, ← faithful.replayed]
    exact ⟨faithful.codes, code, trivial⟩
  · rw [List.filterMap_append]
    cases called : last.call with
    | none => simpa [called] using faithful.once
    | some call =>
      have absent := (first call called).1
      have once := faithful.once
      simp only [List.filterMap_cons, called, List.filterMap_nil]
      exact List.Nodup.append once (List.nodup_singleton call) (by simpa using absent)
  · intro before entry after call split called
    rcases List.eq_nil_or_concat after with rfl | ⟨rest, final, rfl⟩
    · obtain ⟨rfl, same⟩ := List.append_inj' split (by simp)
      obtain rfl := List.singleton_inj.mp same
      exact (first call called).2
    · have outer : log ++ [last] = (before ++ entry :: rest) ++ [final] := by simpa using split
      obtain ⟨rfl, -⟩ := List.append_inj' outer (by simp)
      exact faithful.intended before entry rest call rfl called

/-- Before the first step nothing was sent, and nothing is prepared. -/
theorem consistent_start (start : σ) :
    Consistent kernel inet commands start { state := start } := by
  refine ⟨⟨?_, ?_, ?_, ?_⟩, ?_, ?_, ?_, ?_, ?_⟩ <;> simp [replay, Codes, sentMessages]

/-- Looking an interface up leaves everything but the call alone. The call becomes prepared with
its intent of this moment, at the end of the list, or it is refused and ends; no message is sent
and no socket opened. -/
theorem consistent_check {start : σ} {w : World σ} (call : Nat) (time : UInt32)
    (consistent : Consistent kernel inet commands start w) (fresh : w.phase call = .fresh) :
    Consistent kernel inet commands start (checked kernel inet commands w call time) := by
  have phase (other : Nat) : (checked kernel inet commands w call time).phase other =
      if other = call then .ofPrepared (prepare inet (kernel.indexOf w.state) time (commands call))
      else w.phase other := by
    simp only [checked, Function.update_apply]
  refine ⟨consistent.faithful, ?_, ?_, ?_, ?_, consistent.single⟩
  · intro other early
    rw [phase] at early
    split at early
    · rename_i same
      exact same ▸ consistent.unsent call (.inl fresh)
    · exact consistent.unsent other early
  · intro other nlh prepared
    rw [phase] at prepared
    split at prepared
    · rename_i same
      subst same
      -- The message is read as the intent of this moment, which is the end of the list.
      cases outcome : prepare inet (kernel.indexOf w.state) time (commands other) with
      | error failure =>
        rw [outcome] at prepared
        cases prepared
      | ok message =>
        rw [outcome] at prepared
        obtain rfl := Phase.prepared.inj prepared
        obtain ⟨read, some, -⟩ :=
          prepared_reads inet (kernel.indexOf w.state) time (commands other) message outcome
        obtain ⟨request, asked⟩ := Option.isSome_iff_exists.mp some
        exact ⟨request, read.trans asked, w.log, List.prefix_rfl,
          consistent.faithful.replayed ▸ asked⟩
    · exact consistent.ready other nlh prepared
  · intro other ended
    rw [phase] at ended
    split at ended
    · cases outcome : prepare inet (kernel.indexOf w.state) time (commands call) with
      | error failure =>
        rw [outcome] at ended
        cases ended
      | ok message =>
        rw [outcome] at ended
        cases ended
    · exact consistent.resolved other ended
  · intro other
    have before := consistent.sockets other
    rw [phase]
    split
    · rename_i same
      subst same
      rw [fresh, if_neg (by simp)] at before
      have going : Phase.ofPrepared
          (prepare inet (kernel.indexOf w.state) time (commands other)) ≠ .waiting := by
        cases prepare inet (kernel.indexOf w.state) time (commands other) <;> simp [Phase.ofPrepared]
      rw [if_neg going]
      exact before
    · exact before

/-- The kernel reads the message of a prepared call. -/
theorem serve_prepared {start : σ} {w : World σ} {call : Nat} {nlh : MsgBuf}
    (consistent : Consistent kernel inet commands start w) (ready : w.phase call = .prepared nlh) :
    ∃ request, IntendedBefore kernel inet commands start call w.log request ∧
      serve kernel w.state call nlh = ((kernel.perform w.state request).1,
        (kernel.perform w.state request).2,
        [⟨some call, request, (kernel.perform w.state request).2⟩]) := by
  obtain ⟨request, read, intended⟩ := consistent.ready call nlh ready
  refine ⟨request, intended, ?_⟩
  rw [serve, read]

/-- An exchange that succeeds had its request performed with success. -/
theorem exchange_confirms (w : World σ) (call : Nat) (nlh : MsgBuf) (calls : RtCalls)
    (request : LinkRequest)
    (served : (serve kernel w.state call nlh).2.1 = (kernel.perform w.state request).2)
    (answered : calls.Reaches → Answered nlh (serve kernel w.state call nlh).2.1 calls)
    (succeeded : (sendRtRequestAndWaitAck strerror calls nlh).2 = some (.ok ())) :
    calls.Reaches ∧ (kernel.perform w.state request).2 = 0 := by
  obtain ⟨reaches, reply, received, checked⟩ := (exchange_ok_iff strerror calls nlh).mp succeeded
  refine ⟨reaches, ?_⟩
  have own : replySeq reply = nlh.seq ∧ replyPid reply = calls.portid := by
    by_contra foreign
    rw [checkReply, if_pos (by tauto)] at checked
    cases checked
  obtain ⟨flags, original, rfl⟩ := answered reaches reply received own.1 own.2
  rw [served, check_ack strerror nlh flags calls.portid _ original (kernel.small _ _)] at checked
  by_contra failed
  rw [if_neg failed] at checked
  cases checked

/-- What an exchange makes of the links and the list: nothing where the message does not leave,
and one performed request where it does. -/
theorem exchanged_links {start : σ} {w : World σ} {call : Nat} {nlh : MsgBuf} (calls : RtCalls)
    (consistent : Consistent kernel inet commands start w) (ready : w.phase call = .prepared nlh) :
    let after := exchanged kernel strerror w call nlh calls
    Faithful kernel inet commands start after.state after.log ∧
      ∃ more, after.log = w.log ++ more ∧ ∀ other, other ≠ call → other ∉ more.filterMap Entry.call := by
  obtain ⟨request, intended, served⟩ := serve_prepared kernel inet commands consistent ready
  by_cases reaches : calls.Reaches
  · simp only [exchanged, if_pos reaches, served]
    refine ⟨faithful_snoc kernel inet commands consistent.faithful
      ⟨some call, request, (kernel.perform w.state request).2⟩ rfl ?_, _, rfl, ?_⟩
    · intro other called
      obtain rfl := Option.some.inj called
      exact ⟨(consistent.unsent _ (.inr ⟨nlh, ready⟩)).1, intended⟩
    · intro other different
      simpa using different
  · simp only [exchanged, if_neg reaches, List.append_nil]
    exact ⟨consistent.faithful, [], (List.append_nil _).symm, by simp⟩

section Exchanged

variable {start : σ} {w : World σ} {call : Nat} {nlh : MsgBuf} (calls : RtCalls)

/-- An exchange takes its own call to the phase of its outcome, and no other call anywhere. -/
theorem exchanged_phase (other : Nat) : (exchanged kernel strerror w call nlh calls).phase other =
    if other = call then .ofOutcome (sendRtRequestAndWaitAck strerror calls nlh).2
    else w.phase other := by
  simp only [exchanged, Function.update_apply]

/-- It uses the socket of its own call only. -/
theorem exchanged_trace (other : Nat) : (exchanged kernel strerror w call nlh calls).trace other =
    if other = call then w.trace call ++ (sendRtRequestAndWaitAck strerror calls nlh).1
    else w.trace other := by
  simp only [exchanged, Function.update_apply]

/-- A call that had its exchange is neither fresh nor prepared again. -/
theorem exchange_past (phase : Phase)
    (reached : (exchanged kernel strerror w call nlh calls).phase call = phase) :
    phase ≠ .fresh ∧ ∀ message, phase ≠ .prepared message := by
  rw [exchanged_phase, if_pos rfl] at reached
  subst reached
  cases (sendRtRequestAndWaitAck strerror calls nlh).2 <;> simp [Phase.ofOutcome]

variable (consistent : Consistent kernel inet commands start w) (ready : w.phase call = .prepared nlh)
include consistent ready

/-- A call that is still to send is another one; the list has no more of it than before. -/
theorem exchanged_unsent (other : Nat)
    (early : (exchanged kernel strerror w call nlh calls).phase other = .fresh ∨
      ∃ message, (exchanged kernel strerror w call nlh calls).phase other = .prepared message) :
    other ∉ (exchanged kernel strerror w call nlh calls).log.filterMap Entry.call ∧
      (exchanged kernel strerror w call nlh calls).trace other = [] := by
  obtain ⟨-, more, log, apart⟩ :=
    exchanged_links kernel strerror inet commands calls consistent ready
  by_cases same : other = call
  · subst same
    rcases early with fresh | ⟨message, prepared⟩
    · exact absurd rfl (exchange_past kernel strerror calls _ fresh).1
    · exact absurd rfl ((exchange_past kernel strerror calls _ prepared).2 message)
  · rw [exchanged_phase, if_neg same] at early
    rw [exchanged_trace, if_neg same, log, List.filterMap_append, List.mem_append, not_or]
    obtain ⟨absent, idle⟩ := consistent.unsent other early
    exact ⟨⟨absent, apart other same⟩, idle⟩

/-- The message of a call that is prepared was its intent before, and the list only grew. -/
theorem exchanged_ready (other : Nat) (message : MsgBuf)
    (prepared : (exchanged kernel strerror w call nlh calls).phase other = .prepared message) :
    ∃ request, readLinkRequest message = some request ∧ IntendedBefore kernel inet commands start other
      (exchanged kernel strerror w call nlh calls).log request := by
  obtain ⟨-, more, log, -⟩ := exchanged_links kernel strerror inet commands calls consistent ready
  by_cases same : other = call
  · subst same
    exact absurd rfl ((exchange_past kernel strerror calls _ prepared).2 message)
  · rw [exchanged_phase, if_neg same] at prepared
    obtain ⟨request, read, intended⟩ := consistent.ready other message prepared
    rw [log]
    exact ⟨request, read, intended_before_append kernel inet commands more intended⟩

/-- A call that resolves has its request in the list with success: its own exchange put it
there, or it was there before. -/
theorem exchanged_resolved
    (answered : calls.Reaches → Answered nlh (serve kernel w.state call nlh).2.1 calls) (other : Nat)
    (ended : (exchanged kernel strerror w call nlh calls).phase other = .ended (.ok ())) :
    ∃ entry ∈ (exchanged kernel strerror w call nlh calls).log,
      entry.call = some other ∧ entry.code = 0 := by
  by_cases same : other = call
  · subst same
    rw [exchanged_phase, if_pos rfl] at ended
    obtain ⟨request, -, served⟩ := serve_prepared kernel inet commands consistent ready
    have succeeded : (sendRtRequestAndWaitAck strerror calls nlh).2 = some (.ok ()) := by
      cases outcome : (sendRtRequestAndWaitAck strerror calls nlh).2 with
      | none =>
        rw [outcome] at ended
        cases ended
      | some result =>
        rw [outcome] at ended
        rw [Phase.ended.inj ended]
    obtain ⟨reaches, performed⟩ := exchange_confirms kernel strerror w other nlh calls request
      (by rw [served]) answered succeeded
    refine ⟨⟨some other, request, (kernel.perform w.state request).2⟩, ?_, rfl, performed⟩
    simp [exchanged, reaches, served]
  · obtain ⟨-, more, log, -⟩ := exchanged_links kernel strerror inet commands calls consistent ready
    rw [exchanged_phase, if_neg same] at ended
    obtain ⟨entry, member, called, success⟩ := consistent.resolved other ended
    rw [log]
    exact ⟨entry, List.mem_append_left more member, called, success⟩

/-- The socket of the call had not been used, so the exchange leaves it closed, or bound where
the call still waits. -/
theorem exchanged_sockets (other : Nat) :
    ((exchanged kernel strerror w call nlh calls).trace other).foldlM use .closed =
      some (if (exchanged kernel strerror w call nlh calls).phase other = .waiting then .bound
        else .closed) := by
  have unused := (consistent.unsent call (.inr ⟨nlh, ready⟩)).2
  rw [exchanged_trace, exchanged_phase]
  split
  · rw [unused, List.nil_append, exchange_uses]
    cases (sendRtRequestAndWaitAck strerror calls nlh).2 <;> simp [Phase.ofOutcome]
  · exact consistent.sockets other

/-- An exchange sends at most one message, and its call had sent none. -/
theorem exchanged_single (other : Nat) :
    (sentMessages ((exchanged kernel strerror w call nlh calls).trace other)).length ≤ 1 := by
  have unused := (consistent.unsent call (.inr ⟨nlh, ready⟩)).2
  rw [exchanged_trace]
  split
  · rw [unused, List.nil_append]
    rcases exchange_sends strerror calls nlh with none | one
    · simp [none]
    · simp [one]
  · exact consistent.single other

/-- An exchange keeps what holds in every world, one field after the other. -/
theorem consistent_exchange
    (answered : calls.Reaches → Answered nlh (serve kernel w.state call nlh).2.1 calls) :
    Consistent kernel inet commands start (exchanged kernel strerror w call nlh calls) where
  faithful := (exchanged_links kernel strerror inet commands calls consistent ready).1
  unsent := exchanged_unsent kernel strerror inet commands calls consistent ready
  ready := exchanged_ready kernel strerror inet commands calls consistent ready
  resolved := exchanged_resolved kernel strerror inet commands calls consistent ready answered
  sockets := exchanged_sockets kernel strerror inet commands calls consistent ready
  single := exchanged_single kernel strerror inet commands calls consistent ready

end Exchanged

/-- What another program does is one more request, and no call's. -/
theorem consistent_other {start : σ} {w : World σ} (request : LinkRequest)
    (consistent : Consistent kernel inet commands start w) :
    Consistent kernel inet commands start { w with
      state := (kernel.perform w.state request).1
      log := w.log ++ [⟨none, request, (kernel.perform w.state request).2⟩] } := by
  refine ⟨faithful_snoc kernel inet commands consistent.faithful
    ⟨none, request, (kernel.perform w.state request).2⟩ rfl (by simp), ?_, ?_, ?_,
    consistent.sockets, consistent.single⟩
  · intro call early
    simpa using consistent.unsent call early
  · intro call nlh prepared
    obtain ⟨asked, read, intended⟩ := consistent.ready call nlh prepared
    exact ⟨asked, read, intended_before_append kernel inet commands _ intended⟩
  · intro call ended
    obtain ⟨entry, member, called, success⟩ := consistent.resolved call ended
    exact ⟨entry, List.mem_append_left _ member, called, success⟩

/-- What holds in every world holds by induction on the steps to it. -/
theorem reachable_consistent {start : σ} {w : World σ}
    (reached : Reachable kernel strerror inet commands start w) :
    Consistent kernel inet commands start w := by
  induction reached with
  | refl => exact consistent_start kernel inet commands start
  | tail _ step inductionHypothesis =>
    cases step with
    | check call time fresh =>
      exact consistent_check kernel inet commands call time inductionHypothesis fresh
    | exchange call nlh calls ready answered =>
      exact consistent_exchange kernel strerror inet commands calls inductionHypothesis ready answered
    | other request => exact consistent_other kernel inet commands request inductionHypothesis

end Steps

section Exclusive

variable {σ : Type} (kernel : Kernel σ)

/-- What `NLM_F_EXCL` is documented to do: a link is created where there is none. -/
def CreatesExclusively : Prop :=
  ∀ state name kind flags mask,
    (kernel.perform state (.create name kind flags mask true)).2 = 0 →
    kernel.indexOf state name = 0 ∧
      kernel.indexOf (kernel.perform state (.create name kind flags mask true)).1 name ≠ 0

/-- One where the name has a link. -/
def present (name : Bytes) (state : σ) : Nat := if kernel.indexOf state name = 0 then 0 else 1

/-- Whether an entry created the link of a name. -/
def creates (name : Bytes) (entry : Entry) : Bool :=
  match entry.request with
  | .create created _ _ _ exclusive => created = name ∧ exclusive ∧ entry.code = 0
  | _ => false

/-- How often the link of a name went away. -/
def removals (name : Bytes) : σ → List Entry → Nat
  | _, [] => 0
  | state, entry :: rest =>
      let after := (kernel.perform state entry.request).1
      present kernel name state - present kernel name after + removals name after rest

/-- Between two creations of a name its link went away. The induction is on the list: a creation
with success needs the name to be absent and leaves it present, a request that makes it absent
counts as a removal, and the others change nothing for it. -/
theorem creations_balance (exclusively : CreatesExclusively kernel) (name : Bytes) (start : σ)
    (log : List Entry) (codes : Codes kernel start log) :
    log.countP (creates name) + present kernel name start ≤
      present kernel name (replay kernel start log) + removals kernel name start log := by
  induction log generalizing start with
  | nil => simp [replay, removals]
  | cons entry rest inductionHypothesis =>
    obtain ⟨code, others⟩ := codes
    have later := inductionHypothesis _ others
    rw [List.countP_cons]
    simp only [replay, List.foldl_cons, removals] at later ⊢
    by_cases created : creates name entry = true
    · have absent : present kernel name start = 0 ∧
          present kernel name (kernel.perform start entry.request).1 = 1 := by
        unfold creates at created
        split at created
        · rename_i asked kind flags mask exclusive request
          obtain ⟨rfl, rfl, success⟩ : asked = name ∧ exclusive = true ∧ entry.code = 0 := by
            simpa using created
          rw [request] at code ⊢
          obtain ⟨before, after⟩ :=
            exclusively start asked kind flags mask (code.symm.trans success)
          simp [present, before, after]
        · cases created
      rw [if_pos created]
      omega
    · rw [if_neg created]
      omega

end Exclusive

section Race

/-- A kernel that numbers its links in the order they came and keeps only their names. -/
def slotKernel : Kernel (List (Option Bytes)) where
  indexOf slots name := if some name ∈ slots then UInt32.ofNat (slots.idxOf (some name) + 1) else 0
  perform slots request :=
    match request with
    | .create name _ _ _ _ =>
        if some name ∈ slots ∨ 1000 ≤ slots.length then (slots, 17) else (slots ++ [some name], 0)
    | .delete index =>
        if ((slots[index.toNat - 1]?).join).isSome then (slots.set (index.toNat - 1) none, 0)
        else (slots, 19)
    | .change index _ _ | .addAddress index _ _ | .deleteAddress index _ =>
        (slots, if ((slots[index.toNat - 1]?).join).isSome then 0 else 19)
  small slots request := by
    cases request with
    | create name kind flags mask exclusive => dsimp only; split <;> simp
    | delete index => dsimp only; split <;> simp
    | change index flags mask => dsimp only; split <;> simp
    | addAddress index range replace => dsimp only; split <;> simp
    | deleteAddress index range => dsimp only; split <;> simp

/-- The sample kernel refuses to create what exists. -/
theorem slot_kernel_exclusive : CreatesExclusively slotKernel := by
  intro slots name kind flags mask performed
  by_cases refused : some name ∈ slots ∨ 1000 ≤ slots.length
  · simp [slotKernel, refused] at performed
  · obtain ⟨absent, room⟩ := not_or.mp refused
    have place : (slots ++ [some name]).idxOf (some name) = slots.length := by
      rw [List.idxOf_append_of_notMem absent]
      simp
    have numbered : UInt32.ofNat (slots.length + 1) ≠ 0 := by
      intro zero
      have value := congrArg UInt32.toNat zero
      rw [UInt32.toNat_ofNat_of_lt' (by simp [UInt32.size]; omega)] at value
      cases value
    refine ⟨by simp [slotKernel, absent], ?_⟩
    simp only [slotKernel, if_neg refused, place, List.mem_append, List.mem_singleton, or_true, ↓reduceIte]
    exact numbered

/-- Two calls for one name, the second of which looks it up before the first has created it. -/
def raceCommands (_ : Nat) : Command := .createWireGuardLink (ascii "wg7")

/-- The answers to a message the kernel gave an error number to. -/
def acknowledged (time portid : UInt32) (code : Nat) : RtCalls where
  portid := portid
  received := some (.ok (ackBytes 0 time portid code []))

/-- The world in which the first call won and the second was refused by the kernel. -/
def raced : World (List (Option Bytes)) :=
  let lookedUp := checked slotKernel AddressForms.plainInet raceCommands
    (checked slotKernel AddressForms.plainInet raceCommands { state := [] } 0 100) 1 100
  let first := exchanged slotKernel (fun _ => []) lookedUp 0 (newLinkMessage 100 (ascii "wg7"))
    (acknowledged 100 51 0)
  exchanged slotKernel (fun _ => []) first 1 (newLinkMessage 100 (ascii "wg7"))
    (acknowledged 100 52 17)

/-- The race is a run of four steps: both calls look the name up, and then both send. -/
theorem raced_reachable :
    Reachable slotKernel (fun _ => []) AddressForms.plainInet raceCommands [] raced := by
  refine .tail (.tail (.tail (.tail .refl (.check _ 0 100 rfl)) (.check _ 1 100 rfl))
    (.exchange _ 0 (newLinkMessage 100 (ascii "wg7")) (acknowledged 100 51 0) (by decide) ?_))
    (.exchange _ 1 (newLinkMessage 100 (ascii "wg7")) (acknowledged 100 52 17) (by decide) ?_)
  · intro _ reply received _ _
    obtain rfl := Except.ok.inj (Option.some.inj received)
    exact ⟨0, [], by decide⟩
  · intro _ reply received _ _
    obtain rfl := Except.ok.inj (Option.some.inj received)
    exact ⟨0, [], by decide⟩

end Race

section Runs

variable {σ : Type} (kernel : Kernel σ) (strerror : Int → Bytes) (inet : Inet)
  (commands : Nat → Command)

/-- Whatever fails, the links are what a list of requests made them: at most one from each
call, each what its call asked for, and with success where the call resolved.

Proof: these are two of the things that hold in every world, kept by each of the three steps. A
lookup fixes the intent of its call at that moment; an exchange that reaches the kernel appends
the one request of its call; another program appends a request of no call. -/
theorem link_commands_faithful {start : σ} {w : World σ}
    (reached : Reachable kernel strerror inet commands start w) :
    Faithful kernel inet commands start w.state w.log ∧
      ∀ call, w.phase call = .ended (.ok ()) →
        ∃ entry ∈ w.log, entry.call = some call ∧ entry.code = 0 := by
  have consistent := reachable_consistent kernel strerror inet commands reached
  exact ⟨consistent.faithful, consistent.resolved⟩

/-- In the race both requests were the calls' intents, and only the first succeeded. -/
theorem raced_faithful :
    Faithful slotKernel AddressForms.plainInet raceCommands [] raced.state raced.log ∧
      ∀ call, raced.phase call = .ended (.ok ()) →
        ∃ entry ∈ raced.log, entry.call = some call ∧ entry.code = 0 :=
  link_commands_faithful slotKernel (fun _ => []) AddressForms.plainInet raceCommands
    raced_reachable

/-- Every call uses its socket in order, sends at most one message, and leaves the socket open
only while it waits for the reply.

Proof: kept by every step as well. Only an exchange uses the socket of a call, which was unused
before, and it closes the socket on each of its ways out. -/
theorem link_sockets_closed {start : σ} {w : World σ}
    (reached : Reachable kernel strerror inet commands start w) (call : Nat) :
    (w.trace call).foldlM use .closed =
        some (if w.phase call = .waiting then .bound else .closed) ∧
      (sentMessages (w.trace call)).length ≤ 1 := by
  have consistent := reachable_consistent kernel strerror inet commands reached
  exact ⟨consistent.sockets call, consistent.single call⟩

/-- The refused call of the race closed its socket as well. -/
theorem raced_sockets_closed :
    (raced.trace 1).foldlM use .closed = some (if raced.phase 1 = .waiting then .bound else .closed) ∧
      (sentMessages (raced.trace 1)).length ≤ 1 :=
  link_sockets_closed slotKernel (fun _ => []) AddressForms.plainInet raceCommands
    raced_reachable 1

/-- Of the calls that race to create one name, no more resolve than the name became free.

Proof: a count over the list. A creation that succeeds makes the name present where it was
absent, and only a removal makes it absent again, so creations and removals are in balance. Every
call that resolved has a creation of its own in the list. -/
theorem racing_creations (exclusively : CreatesExclusively kernel) {start : σ} {w : World σ}
    (reached : Reachable kernel strerror inet commands start w) (name : Bytes)
    (winners : Finset Nat)
    (resolved : ∀ call ∈ winners, commands call = .createWireGuardLink name ∧
      w.phase call = .ended (.ok ())) :
    winners.card + present kernel name start ≤
      present kernel name w.state + removals kernel name start w.log := by
  have consistent := reachable_consistent kernel strerror inet commands reached
  have balance := creations_balance kernel exclusively name start w.log consistent.faithful.codes
  rw [← consistent.faithful.replayed] at balance
  have counted : winners.card ≤ w.log.countP (creates name) := by
    have listed : winners ⊆ ((w.log.filter (creates name)).filterMap Entry.call).toFinset := by
      intro call member
      obtain ⟨command, ended⟩ := resolved call member
      obtain ⟨entry, inLog, called, success⟩ := consistent.resolved call ended
      obtain ⟨before, after, split⟩ := List.append_of_mem inLog
      obtain ⟨earlier, -, asked⟩ := consistent.faithful.intended before entry after call split called
      have request : entry.request = .create name (ascii "wireguard") 0 0xFFFFFFFF true := by
        rw [command, intent] at asked
        split at asked
        · exact (Option.some.inj asked).symm
        · cases asked
      have creator : creates name entry = true := by simp [creates, request, success]
      simp only [List.mem_toFinset, List.mem_filterMap, List.mem_filter]
      exact ⟨entry, ⟨inLog, creator⟩, called⟩
    calc winners.card
        ≤ ((w.log.filter (creates name)).filterMap Entry.call).toFinset.card :=
          Finset.card_le_card listed
      _ ≤ ((w.log.filter (creates name)).filterMap Entry.call).length := List.toFinset_card_le _
      _ ≤ (w.log.filter (creates name)).length := List.length_filterMap_le _ _
      _ = w.log.countP (creates name) := List.countP_eq_length_filter.symm
  omega

/-- The first call of the race is the only winner. -/
theorem raced_creations :
    ({0} : Finset Nat).card + present slotKernel (ascii "wg7") [] ≤
      present slotKernel (ascii "wg7") raced.state + removals slotKernel (ascii "wg7") [] raced.log := by
  refine racing_creations slotKernel (fun _ => []) AddressForms.plainInet raceCommands
    slot_kernel_exclusive raced_reachable (ascii "wg7") {0} ?_
  intro call member
  obtain rfl := Finset.mem_singleton.mp member
  exact ⟨rfl, by decide⟩

end Runs

end NodeWireguard.LinkRuns
