import Mathlib
import NodeWireguard.Netlink.SocketExchange
import NodeWireguard.Uapi.SocketDirectory

/-!
# A transaction on a control socket

`Transact` of `UapiSocket.cpp`: connect, write the request, close the writing side, read to
the end of the stream. What the system calls return is given; a call that has not returned
yet leaves the transaction without an outcome. Every step that touches the descriptor is
recorded in order.

A response is returned exactly when the name is accepted, no call fails, the whole request is
written, and what was read by the end of the stream stays within the limit.
-/

namespace NodeWireguard.Transact

open ByteText DecimalText IfName SocketExchange SocketDirectory

/-- `kMaxResponseBytes` -/
def kMaxResponseBytes : Nat := 1024 * 1024

/-- `sizeof(addr.sun_path)` -/
def sunPathLen : Nat := 108

/-- What the system calls of one transaction return: an error number where a call fails, the
counts of the writes, and the chunks of the reads, empty at the end of the stream. -/
structure SystemCalls where
  socket : Option Int := none
  receiveTimeout : Option Int := none
  sendTimeout : Option Int := none
  connect : Option Int := none
  writes : List (Except Int Nat) := []
  shutdown : Option Int := none
  reads : List (Except Int Bytes) := []

/-- A step on the descriptor. The octets are part of it, so the steps tell what went over the
socket. -/
inductive Action where
  | opened
  | connected
  | wrote (octets : Bytes)
  | shutDown
  | received (octets : Bytes)
  | closed
  deriving DecidableEq

/-- What was done, and how it ended; without an outcome a call is still running. -/
structure Performed (α : Type) where
  actions : List Action
  outcome : Option (Except Exception α)
  deriving DecidableEq

/-- What follows a part that returned. An exception ends the sequence with the steps until then,
and so does a call that has not returned. -/
def Performed.next {α β : Type} (first : Performed α) (later : α → Performed β) : Performed β :=
  match first.outcome with
  | some (.ok value) => ⟨first.actions ++ (later value).actions, (later value).outcome⟩
  | some (.error failure) => ⟨first.actions, some (.error failure)⟩
  | none => ⟨first.actions, none⟩

/-- Parts are performed one after the other, each with what was done before. -/
instance : Monad Performed where
  pure value := ⟨[], some (.ok value)⟩
  bind := Performed.next

/-- A part that leaves the descriptor alone. -/
def apart {α : Type} (result : Except Exception α) : Performed α := ⟨[], some result⟩

/-- Throws after `close(fd)`. -/
def closing {α : Type} (failure : Exception) : Performed α := ⟨[.closed], some (.error failure)⟩

/-- A call that only has to be recorded. -/
def recorded (action : Action) : Performed Unit := ⟨[action], some (.ok ())⟩

/-- A call that closes the descriptor and throws where it fails, and is recorded where it
does not. -/
def attempt (result : Option Int) (failure : Int → Exception) (done : List Action) :
    Performed Unit :=
  match result with
  | some errno => closing (failure errno)
  | none => ⟨done, some (.ok ())⟩

section Loops

variable (strerror : Int → Bytes)

/-- The loop over writes; `written` octets of the request are written so far. -/
def writeAll (request : Bytes) (written : Nat) (results : List (Except Int Nat)) :
    Performed Unit :=
  if request.length ≤ written then ⟨[], some (.ok ())⟩
  else match results with
    | [] => ⟨[], none⟩
    | .error errno :: _ => closing (socketFailure strerror "write: " errno)
    | .ok n :: later =>
        let rest := writeAll request (written + n) later
        ⟨.wrote ((request.drop written).take n) :: rest.actions, rest.outcome⟩

/-- The loop over reads, with the response read so far. -/
def readAll (response : Bytes) (results : List (Except Int Bytes)) : Performed Bytes :=
  match results with
  | [] => ⟨[], none⟩
  | .error errno :: _ => closing (socketFailure strerror "read: " errno)
  | .ok chunk :: later =>
      if chunk = [] then ⟨[.closed], some (.ok response)⟩
      else if kMaxResponseBytes < response.length + chunk.length then
        ⟨[.received chunk, .closed], some (.error (.runtimeError
          (ascii "uapi response exceeded " ++ decimal kMaxResponseBytes ++ ascii " bytes")))⟩
      else
        let rest := readAll (response ++ chunk) later
        ⟨.received chunk :: rest.actions, rest.outcome⟩

/-- `Transact`: a path, a socket, two time limits, and a path that fits; then the conversation.
Whatever throws once the socket is open closes it. -/
def transact (calls : SystemCalls) (name request : Bytes) : Performed Bytes := do
  let path ← apart (socketPath name)
  match calls.socket with
  | some errno => apart (.error (socketFailure strerror "socket: " errno))
  | none => do
    recorded .opened
    attempt calls.receiveTimeout (socketFailure strerror "setsockopt timeout: ") []
    attempt calls.sendTimeout (socketFailure strerror "setsockopt timeout: ") []
    if sunPathLen ≤ path.length then
      closing (.invalidArgument (ascii "uapi socket path too long: " ++ path))
    else do
      attempt calls.connect
        (fun errno => .systemError errno
          (ascii "connect(" ++ path ++ ascii "): " ++ strerror errno)) [.connected]
      writeAll strerror request 0 calls.writes
      attempt calls.shutdown (socketFailure strerror "shutdown: ") [.shutDown]
      readAll strerror [] calls.reads

end Loops

/-- The writes that return first take the whole of so many octets. -/
def WritesAll (size : Nat) (results : List (Except Int Nat)) : Prop :=
  ∃ (counts : List Nat) (later : List (Except Int Nat)),
    results = counts.map .ok ++ later ∧ size ≤ counts.sum

/-- The reads give the response in chunks up to the end of the stream, within the limit. -/
def ReadsWhole (response : Bytes) (results : List (Except Int Bytes)) : Prop :=
  ∃ (chunks : List Bytes) (later : List (Except Int Bytes)),
    results = chunks.map .ok ++ .ok [] :: later ∧ [] ∉ chunks ∧
      chunks.flatten = response ∧ response.length ≤ kMaxResponseBytes

/-- A connection on which no call fails and a daemon answers. -/
structure Answers (calls : SystemCalls) (request response : Bytes) : Prop where
  opened : calls.socket = none
  timed : calls.receiveTimeout = none ∧ calls.sendTimeout = none
  connected : calls.connect = none
  written : WritesAll request.length calls.writes
  ended : calls.shutdown = none
  received : ReadsWhole response calls.reads

section Laws

variable {α β : Type}

/-- A part and what follows it return a value together exactly when each does. -/
theorem next_returns_iff (first : Performed α) (later : α → Performed β) (value : β) :
    (first >>= later).outcome = some (.ok value) ↔
      ∃ middle, first.outcome = some (.ok middle) ∧ (later middle).outcome = some (.ok value) := by
  change (first.next later).outcome = _ ↔ _
  obtain ⟨actions, outcome⟩ := first
  rcases outcome with _ | failure | middle <;> simp [Performed.next]

/-- A part that only has to return comes first. -/
theorem next_done_iff (first : Performed Unit) (later : Unit → Performed β) (value : β) :
    (first >>= later).outcome = some (.ok value) ↔
      first.outcome = some (.ok ()) ∧ (later ()).outcome = some (.ok value) := by
  rw [next_returns_iff]
  exact ⟨fun ⟨_, both⟩ => both, fun both => ⟨(), both⟩⟩

/-- What does not touch the descriptor ends as its result. -/
@[simp] theorem apart_outcome (result : Except Exception α) :
    (apart result).outcome = some result := rfl

/-- Closing ends with the exception that it is for. -/
@[simp] theorem closing_outcome (failure : Exception) :
    (closing failure : Performed α).outcome = some (.error failure) := rfl

/-- An attempt goes on exactly where its call does not fail. -/
theorem attempt_returns_iff (result : Option Int) (failure : Int → Exception)
    (done : List Action) : (attempt result failure done).outcome = some (.ok ()) ↔ result = none := by
  cases result <;> simp [attempt]

variable (strerror : Int → Bytes)

/-- The writing loop finishes exactly when the returned counts add up to what is missing. The
induction is on the results: each successful one takes its count off what is missing, a failed
one ends the loop, and nothing is called any more when nothing is missing. -/
theorem write_all_returns_iff (request : Bytes) (written : Nat) (results : List (Except Int Nat)) :
    (writeAll strerror request written results).outcome = some (.ok ()) ↔
      WritesAll (request.length - written) results := by
  have finished (written : Nat) (results : List (Except Int Nat)) (whole : request.length ≤ written) :
      (writeAll strerror request written results).outcome = some (.ok ()) ↔
        WritesAll (request.length - written) results := by
    unfold writeAll
    rw [if_pos whole]
    exact iff_of_true rfl ⟨[], results, rfl, by simp [whole]⟩
  induction results generalizing written with
  | nil =>
    by_cases whole : request.length ≤ written
    · exact finished written [] whole
    · unfold writeAll
      rw [if_neg whole]
      refine iff_of_false (by simp) ?_
      rintro ⟨counts, later, same, enough⟩
      obtain rfl : counts = [] := by simpa using (List.append_eq_nil_iff.mp same.symm).1
      rw [List.sum_nil] at enough
      omega
  | cons result later inductionHypothesis =>
    by_cases whole : request.length ≤ written
    · exact finished written _ whole
    · unfold writeAll
      rw [if_neg whole]
      cases result with
      | error errno =>
        refine iff_of_false (by simp) ?_
        rintro ⟨counts, others, same, enough⟩
        cases counts with
        | nil =>
          rw [List.sum_nil] at enough
          omega
        | cons n counts => simp at same
      | ok n =>
        refine (inductionHypothesis (written + n)).trans ?_
        constructor
        · rintro ⟨counts, others, rfl, enough⟩
          exact ⟨n :: counts, others, rfl, by rw [List.sum_cons]; omega⟩
        · rintro ⟨counts, others, same, enough⟩
          cases counts with
          | nil =>
            rw [List.sum_nil] at enough
            omega
          | cons m counts =>
            simp only [List.map_cons, List.cons_append, List.cons.injEq, Except.ok.injEq] at same
            obtain ⟨rfl, rfl⟩ := same
            exact ⟨counts, others, rfl, by rw [List.sum_cons] at enough; omega⟩

/-- From a response that is within the limit, the reading loop returns exactly what the
chunks up to the end of the stream add to it. -/
theorem read_all_returns_iff (results : List (Except Int Bytes)) (before response : Bytes)
    (within : before.length ≤ kMaxResponseBytes) :
    (readAll strerror before results).outcome = some (.ok response) ↔
      ∃ (chunks : List Bytes) (later : List (Except Int Bytes)),
        results = chunks.map .ok ++ .ok [] :: later ∧ [] ∉ chunks ∧
          before ++ chunks.flatten = response ∧ response.length ≤ kMaxResponseBytes := by
  induction results generalizing before with
  | nil => simp [readAll]
  | cons result later inductionHypothesis =>
    cases result with
    | error errno =>
      refine iff_of_false (by simp [readAll]) ?_
      rintro ⟨chunks, others, same, -⟩
      cases chunks <;> simp at same
    | ok chunk =>
      rw [readAll]
      by_cases ends : chunk = []
      · subst ends
        rw [if_pos rfl]
        constructor
        · intro returned
          obtain rfl : before = response := by simpa using returned
          exact ⟨[], later, rfl, by simp, by simp, within⟩
        · rintro ⟨chunks, others, same, nonempty, whole, -⟩
          cases chunks with
          | nil => simpa using whole
          | cons first chunks =>
            simp only [List.map_cons, List.cons_append, List.cons.injEq, Except.ok.injEq] at same
            exact absurd (same.1 ▸ List.mem_cons_self) nonempty
      · rw [if_neg ends]
        by_cases exceeds : kMaxResponseBytes < before.length + chunk.length
        · rw [if_pos exceeds]
          refine iff_of_false (by simp) ?_
          rintro ⟨chunks, others, same, -, whole, limit⟩
          cases chunks with
          | nil => simp [ends] at same
          | cons first chunks =>
            simp only [List.map_cons, List.cons_append, List.cons.injEq, Except.ok.injEq] at same
            have size := congrArg List.length whole
            rw [← same.1] at size
            simp only [List.flatten_cons, List.length_append] at size
            omega
        · rw [if_neg exceeds]
          refine (inductionHypothesis (before ++ chunk) (by simpa using exceeds)).trans ?_
          constructor
          · rintro ⟨chunks, others, rfl, nonempty, whole, limit⟩
            refine ⟨chunk :: chunks, others, rfl, ?_, by simpa using whole, limit⟩
            simpa [eq_comm] using ⟨ends, nonempty⟩
          · rintro ⟨chunks, others, same, nonempty, whole, limit⟩
            cases chunks with
            | nil => simp [ends] at same
            | cons first chunks =>
              simp only [List.map_cons, List.cons_append, List.cons.injEq, Except.ok.injEq] at same
              obtain ⟨rfl, rfl⟩ := same
              exact ⟨chunks, others, rfl, fun member => nonempty (List.mem_cons_of_mem _ member),
                by simpa using whole, limit⟩

/-- A path of an accepted name is short enough for the socket address. -/
theorem path_of_short (name : Bytes) (valid : ValidName name) : (pathOf name).length < sunPathLen := by
  have short := valid.short
  have directory : kSocketDir.length = 18 := by decide
  have slash : (ascii "/").length = 1 := by decide
  have ending : suffix.length = 5 := by decide
  simp only [pathOf, List.length_append, directory, slash, ending, sunPathLen]
  omega

/-- A response is returned exactly when the name is accepted and the connection answers. Each
part returns under a condition of its own on the results of its calls, and the response is the
chunks that were read, put together. -/
theorem transact_returns_iff (calls : SystemCalls) (name request response : Bytes) :
    (transact strerror calls name request).outcome = some (.ok response) ↔
      ValidName name ∧ Answers calls request response := by
  have received : (readAll strerror [] calls.reads).outcome = some (.ok response) ↔
      ReadsWhole response calls.reads :=
    read_all_returns_iff strerror calls.reads [] response (Nat.zero_le _)
  have written : (writeAll strerror request 0 calls.writes).outcome = some (.ok ()) ↔
      WritesAll request.length calls.writes := write_all_returns_iff strerror request 0 calls.writes
  simp only [transact, next_returns_iff, apart_outcome, Option.some.injEq, socket_path_ok_iff]
  constructor
  · rintro ⟨path, ⟨valid, rfl⟩, after⟩
    refine ⟨valid, ?_⟩
    split at after
    · simp at after
    · rename_i opened
      simp only [next_done_iff, if_neg (not_le.mpr (path_of_short name valid)),
        attempt_returns_iff, written, received] at after
      obtain ⟨-, receiveTimed, sendTimed, connected, whole, ended, answer⟩ := after
      exact ⟨opened, ⟨receiveTimed, sendTimed⟩, connected, whole, ended, answer⟩
  · rintro ⟨valid, answers⟩
    refine ⟨pathOf name, ⟨valid, rfl⟩, ?_⟩
    simp only [answers.opened, next_done_iff, if_neg (not_le.mpr (path_of_short name valid)),
      attempt_returns_iff, written, received]
    exact ⟨rfl, answers.timed.1, answers.timed.2, answers.connected, answers.written,
      answers.ended, answers.received⟩

end Laws

end NodeWireguard.Transact
