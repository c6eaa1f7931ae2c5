import Mathlib
import NodeWireguard.Uapi.Transact

/-!
# Runs of a transaction

What `Transact` does on the descriptor over every sequence of results of its system
calls: how a write or the response is cut into pieces, which call fails, and whether a
call has returned yet are all left open. The octets written are a beginning of the
request at every moment, the writing side is closed only after the whole of it, and the
descriptor is closed as the last step of every run that ends.

The counts a write returns and the sizes of the chunks a read returns are not bounded
here, so the kernel's own bounds are a special case.
-/

namespace NodeWireguard.TransactRuns

open ByteText DecimalText IfName SocketExchange SocketDirectory Transact

/-- The octets that a step writes. -/
def written : Action → Bytes
  | .wrote octets => octets
  | _ => []

/-- The octets written in a sequence of steps. -/
def sent (actions : List Action) : Bytes := actions.flatMap written

/-- The calls up to the half-close succeed, and the writes take the whole request. -/
structure Sends (calls : SystemCalls) (request : Bytes) : Prop where
  opened : calls.socket = none
  timed : calls.receiveTimeout = none ∧ calls.sendTimeout = none
  connected : calls.connect = none
  written : WritesAll request.length calls.writes
  ended : calls.shutdown = none

/-- The reads return the octets in some chunks up to the end of the stream. -/
def Streams (octets : Bytes) (results : List (Except Int Bytes)) : Prop :=
  ∃ (chunks : List Bytes) (later : List (Except Int Bytes)),
    results = chunks.map .ok ++ .ok [] :: later ∧ [] ∉ chunks ∧ chunks.flatten = octets

/-- A write has not returned: all that did took less than so many octets. -/
def WritesPending (size : Nat) (results : List (Except Int Nat)) : Prop :=
  ∃ counts : List Nat, results = counts.map .ok ∧ counts.sum < size

/-- A read has not returned, with the limit not exceeded. -/
def ReadsPending (results : List (Except Int Bytes)) : Prop :=
  ∃ chunks : List Bytes, results = chunks.map .ok ∧ [] ∉ chunks ∧
    chunks.flatten.length ≤ kMaxResponseBytes

/-- The sequence of results ends before the transaction does. -/
def Waiting (calls : SystemCalls) (request : Bytes) : Prop :=
  calls.socket = none ∧ calls.receiveTimeout = none ∧ calls.sendTimeout = none ∧
    calls.connect = none ∧ (WritesPending request.length calls.writes ∨
      (WritesAll request.length calls.writes ∧ calls.shutdown = none ∧ ReadsPending calls.reads))

/-- The steps end with the only `close`. -/
def ClosesLast (actions : List Action) : Prop :=
  ∃ before, actions = before ++ [.closed] ∧ .closed ∉ before

/-- The octets written are a beginning of the request; the writing side is closed after the
whole of it, and nothing is written afterwards. -/
structure Orderly (request : Bytes) (actions : List Action) : Prop where
  beginning : sent actions <+: request
  half : ∀ before after, actions = before ++ .shutDown :: after → sent before = request ∧ sent after = []

/-- Nothing is written and the writing side stays open. -/
def Quiet (actions : List Action) : Prop := ∀ action ∈ actions, written action = [] ∧ action ≠ .shutDown

section Parts

variable {α β : Type}

/-- A part with the descriptor open before it: it closes the descriptor exactly where it
throws. -/
def Tidy (part : Performed α) : Prop :=
  match part.outcome with
  | some (.error _) => ClosesLast part.actions
  | _ => .closed ∉ part.actions

/-- What remains of a transaction with the descriptor open before it: it closes the
descriptor where it ends. -/
def Ends (part : Performed α) : Prop :=
  match part.outcome with
  | some _ => ClosesLast part.actions
  | none => .closed ∉ part.actions

/-- The octets that were sent are those of the first part and then of the second. -/
theorem sent_append (left right : List Action) : sent (left ++ right) = sent left ++ sent right :=
  List.flatMap_append

/-- A quiet part sends nothing. -/
theorem sent_quiet (actions : List Action) (quiet : Quiet actions) : sent actions = [] :=
  List.flatMap_eq_nil_iff.mpr (fun action member => (quiet action member).1)

/-- What follows a part that does not return is not performed. -/
theorem next_stops (first : Performed α) (later : α → Performed β)
    (stops : ∀ value, first.outcome ≠ some (.ok value)) :
    (first >>= later).actions = first.actions := by
  change (first.next later).actions = _
  rw [Performed.next]
  split
  · rename_i value returned
    exact absurd returned (stops value)
  · rfl
  · rfl

/-- What follows a part that returns is performed after it. -/
theorem next_goes_on (first : Performed α) (later : α → Performed β) (value : α)
    (returned : first.outcome = some (.ok value)) :
    (first >>= later).actions = first.actions ++ (later value).actions ∧
      (first >>= later).outcome = (later value).outcome := by
  change (first.next later).actions = _ ∧ (first.next later).outcome = _
  simp only [Performed.next, returned, and_self]

/-- A part and what follows it are still running together exactly when one of them is. -/
theorem next_runs_iff (first : Performed Unit) (later : Unit → Performed β) :
    (first >>= later).outcome = none ↔ first.outcome = none ∨
      (first.outcome = some (.ok ()) ∧ (later ()).outcome = none) := by
  change (first.next later).outcome = none ↔ _
  obtain ⟨actions, outcome⟩ := first
  rcases outcome with _ | failure | value <;> simp [Performed.next]

/-- An attempt has always ended. -/
theorem attempt_not_running (result : Option Int) (failure : Int → Exception) (done : List Action) :
    (attempt result failure done).outcome ≠ none := by
  cases result with
  | none => exact Option.some_ne_none _
  | some errno => exact Option.some_ne_none _

/-- What returns without touching the descriptor leaves no trace. -/
theorem apart_next (value : α) (later : α → Performed β) :
    (apart (.ok value) >>= later) = later value := rfl

/-- A recorded step stands in front of what follows. -/
theorem recorded_next (action : Action) (later : Unit → Performed β) :
    (recorded action >>= later) = ⟨action :: (later ()).actions, (later ()).outcome⟩ := rfl

/-- An attempt that succeeds does too. -/
theorem attempt_next (failure : Int → Exception) (done : List Action) (later : Unit → Performed β) :
    (attempt none failure done >>= later) = ⟨done ++ (later ()).actions, (later ()).outcome⟩ := rfl

/-- A tidy part may come before what closes the descriptor. -/
theorem next_ends (first : Performed α) (later : α → Performed β) (tidy : Tidy first)
    (ends : ∀ value, Ends (later value)) : Ends (first >>= later) := by
  change Ends (first.next later)
  obtain ⟨actions, outcome⟩ := first
  rcases outcome with _ | failure | value
  · exact tidy
  · exact tidy
  · have open_ : Action.closed ∉ actions := tidy
    have rest := ends value
    simp only [Ends, Performed.next] at rest ⊢
    cases ended : (later value).outcome with
    | none =>
      rw [ended] at rest
      exact fun member => (List.mem_append.mp member).elim open_ rest
    | some result =>
      rw [ended] at rest
      obtain ⟨before, same, once⟩ := rest
      refine ⟨actions ++ before, by rw [same, List.append_assoc], ?_⟩
      exact fun member => (List.mem_append.mp member).elim open_ once

/-- A quiet part may come before what is orderly. It writes nothing and does not close the
writing side, so what was sent before the end of the writing side is the same. -/
theorem next_orderly (request : Bytes) (first : Performed α) (later : α → Performed β)
    (quiet : Quiet first.actions) (orderly : ∀ value, Orderly request (later value).actions) :
    Orderly request (first >>= later).actions := by
  have silent := sent_quiet first.actions quiet
  have unshut : Action.shutDown ∉ first.actions := fun member => (quiet _ member).2 rfl
  by_cases returns : ∃ value, first.outcome = some (.ok value)
  · obtain ⟨value, returned⟩ := returns
    rw [(next_goes_on first later value returned).1]
    obtain ⟨beginning, half⟩ := orderly value
    refine ⟨by rw [sent_append, silent]; exact beginning, ?_⟩
    intro before after cut
    rcases List.append_eq_append_iff.mp cut with ⟨middle, rfl, rest⟩ | ⟨middle, same, rest⟩
    · rw [sent_append, silent]
      exact half middle after rest
    · cases middle with
      | nil =>
        rw [List.append_nil] at same
        obtain ⟨before_, after_⟩ := half [] after rest.symm
        exact ⟨by rw [← same, silent]; exact before_, after_⟩
      | cons step middle =>
        obtain ⟨rfl, -⟩ := List.cons.inj rest
        exact absurd (by rw [same]; simp) unshut
  · rw [next_stops first later (fun value returned => returns ⟨value, returned⟩)]
    refine ⟨by rw [silent]; exact List.nil_prefix, ?_⟩
    intro before after cut
    exact absurd (by rw [cut]; simp) unshut

/-- A call that only has to succeed is tidy. -/
theorem attempt_tidy (result : Option Int) (failure : Int → Exception) (done : List Action)
    (open_ : .closed ∉ done) : Tidy (attempt result failure done) := by
  cases result with
  | none => exact open_
  | some errno => exact ⟨[], rfl, List.not_mem_nil⟩

/-- Nothing is sent in an attempt, even where it closes the descriptor. -/
theorem attempt_quiet (result : Option Int) (failure : Int → Exception) (done : List Action)
    (quiet : Quiet done) : Quiet (attempt result failure done).actions := by
  cases result with
  | none => exact quiet
  | some errno =>
    intro action member
    obtain rfl := List.mem_singleton.mp member
    exact ⟨rfl, by decide⟩

end Parts

section Loops

variable (strerror : Int → Bytes)

/-- What the writing loop has written at its end, and at every end of a call in it.

Induct over the results: each write takes the next octets of the request, and a failed
one takes none. -/
theorem write_all_sent (request : Bytes) (before : Nat) (results : List (Except Int Nat)) :
    sent (writeAll strerror request before results).actions <+: request.drop before ∧
      Action.shutDown ∉ (writeAll strerror request before results).actions ∧
      ((writeAll strerror request before results).outcome = some (.ok ()) →
        sent (writeAll strerror request before results).actions = request.drop before) := by
  induction results generalizing before with
  | nil =>
    unfold writeAll
    by_cases whole : request.length ≤ before
    · rw [if_pos whole]
      refine ⟨List.nil_prefix, List.not_mem_nil, fun _ => ?_⟩
      exact (List.drop_eq_nil_of_le whole).symm
    · rw [if_neg whole]
      exact ⟨List.nil_prefix, List.not_mem_nil, fun returned => absurd returned (by simp)⟩
  | cons result later inductionHypothesis =>
    unfold writeAll
    by_cases whole : request.length ≤ before
    · rw [if_pos whole]
      refine ⟨List.nil_prefix, List.not_mem_nil, fun _ => ?_⟩
      exact (List.drop_eq_nil_of_le whole).symm
    · rw [if_neg whole]
      cases result with
      | error errno =>
        refine ⟨List.nil_prefix, by simp [closing], fun returned => absurd returned (by simp)⟩
      | ok n =>
        obtain ⟨beginning, unshut, all⟩ := inductionHypothesis (before + n)
        have rest : (request.drop before).take n ++ request.drop (before + n) = request.drop before := by
          rw [← List.drop_drop, List.take_append_drop]
        refine ⟨?_, by simpa using unshut, ?_⟩
        · have extended := (List.prefix_append_right_inj ((request.drop before).take n)).mpr beginning
          rw [rest] at extended
          exact extended
        · intro returned
          have extended := congrArg ((request.drop before).take n ++ ·) (all returned)
          exact extended.trans rest

/-- The loop that writes leaves the descriptor open unless it fails. The induction is on the
results. -/
theorem write_all_tidy (request : Bytes) (before : Nat) (results : List (Except Int Nat)) :
    Tidy (writeAll strerror request before results) := by
  induction results generalizing before with
  | nil =>
    unfold writeAll
    split
    · exact List.not_mem_nil
    · exact List.not_mem_nil
  | cons result later inductionHypothesis =>
    unfold writeAll
    split
    · exact List.not_mem_nil
    · cases result with
      | error errno => exact ⟨[], rfl, List.not_mem_nil⟩
      | ok n =>
        have rest := inductionHypothesis (before + n)
        simp only [Tidy] at rest ⊢
        split at rest
        · obtain ⟨steps, same, once⟩ := rest
          exact ⟨_ :: steps, by rw [same, List.cons_append], by simpa using once⟩
        · simpa using rest

/-- The writing loop is still running exactly when all writes returned and took too little. A
failed write would have ended it, and so would counts that reach the end of the request. -/
theorem write_all_runs_iff (request : Bytes) (before : Nat) (results : List (Except Int Nat)) :
    (writeAll strerror request before results).outcome = none ↔
      WritesPending (request.length - before) results := by
  induction results generalizing before with
  | nil =>
    unfold writeAll
    by_cases whole : request.length ≤ before
    · rw [if_pos whole]
      refine iff_of_false (by simp) ?_
      rintro ⟨counts, -, few⟩
      omega
    · rw [if_neg whole]
      exact iff_of_true rfl ⟨[], rfl, by rw [List.sum_nil]; omega⟩
  | cons result later inductionHypothesis =>
    unfold writeAll
    by_cases whole : request.length ≤ before
    · rw [if_pos whole]
      refine iff_of_false (by simp) ?_
      rintro ⟨counts, -, few⟩
      omega
    · rw [if_neg whole]
      cases result with
      | error errno =>
        refine iff_of_false (by simp) ?_
        rintro ⟨counts, same, -⟩
        cases counts <;> simp at same
      | ok n =>
        refine (inductionHypothesis (before + n)).trans ?_
        constructor
        · rintro ⟨counts, rfl, few⟩
          exact ⟨n :: counts, rfl, by rw [List.sum_cons]; omega⟩
        · rintro ⟨counts, same, few⟩
          cases counts with
          | nil => simp at same
          | cons m counts =>
            simp only [List.map_cons, List.cons.injEq, Except.ok.injEq] at same
            obtain ⟨rfl, rfl⟩ := same
            rw [List.sum_cons] at few
            exact ⟨counts, rfl, by omega⟩

/-- The reading loop writes nothing. The induction is on the results; closing the descriptor is
not writing. -/
theorem read_all_quiet (before : Bytes) (results : List (Except Int Bytes)) :
    Quiet (readAll strerror before results).actions := by
  induction results generalizing before with
  | nil => exact fun action member => absurd member List.not_mem_nil
  | cons result later inductionHypothesis =>
    cases result with
    | error errno =>
      intro action member
      obtain rfl := List.mem_singleton.mp member
      exact ⟨rfl, by decide⟩
    | ok chunk =>
      rw [readAll]
      split
      · intro action member
        obtain rfl := List.mem_singleton.mp member
        exact ⟨rfl, by decide⟩
      · split
        · intro action member
          rcases List.mem_cons.mp member with rfl | last
          · exact ⟨rfl, by simp⟩
          · obtain rfl := List.mem_singleton.mp last
            exact ⟨rfl, by decide⟩
        · intro action member
          rcases List.mem_cons.mp member with rfl | inside
          · exact ⟨rfl, by simp⟩
          · exact inductionHypothesis (before ++ chunk) action inside

/-- The loop that reads closes it once, at the end of the stream or where it fails. -/
theorem read_all_ends (before : Bytes) (results : List (Except Int Bytes)) :
    Ends (readAll strerror before results) := by
  induction results generalizing before with
  | nil => exact List.not_mem_nil
  | cons result later inductionHypothesis =>
    cases result with
    | error errno => exact ⟨[], rfl, List.not_mem_nil⟩
    | ok chunk =>
      rw [readAll]
      split
      · exact ⟨[], rfl, List.not_mem_nil⟩
      · split
        · exact ⟨[.received chunk], rfl, by simp⟩
        · have rest := inductionHypothesis (before ++ chunk)
          simp only [Ends] at rest ⊢
          cases ended : (readAll strerror (before ++ chunk) later).outcome with
          | none =>
            rw [ended] at rest
            simpa using rest
          | some result =>
            rw [ended] at rest
            obtain ⟨steps, same, once⟩ := rest
            exact ⟨_ :: steps, by rw [same, List.cons_append], by simpa using once⟩

/-- The exception of a response over the limit. -/
def tooLarge : Exception :=
  .runtimeError (ascii "uapi response exceeded " ++ decimal kMaxResponseBytes ++ ascii " bytes")

/-- Where no read fails, only the octets up to the end of the stream decide the outcome. -/
theorem read_all_streamed (octets before : Bytes) (results : List (Except Int Bytes))
    (streams : Streams octets results) (within : before.length ≤ kMaxResponseBytes) :
    (readAll strerror before results).outcome =
      some (if before.length + octets.length ≤ kMaxResponseBytes then .ok (before ++ octets)
        else .error tooLarge) := by
  obtain ⟨chunks, later, rfl, nonempty, rfl⟩ := streams
  induction chunks generalizing before with
  | nil =>
    change (readAll strerror before (.ok [] :: later)).outcome = _
    rw [readAll, if_pos rfl]
    simp [within]
  | cons chunk chunks inductionHypothesis =>
    have filled : chunk ≠ [] := fun empty => nonempty (by simp [empty])
    have others : [] ∉ chunks := fun member => nonempty (List.mem_cons_of_mem _ member)
    rw [List.map_cons, List.cons_append, readAll, if_neg filled, List.flatten_cons, List.length_append]
    by_cases exceeds : kMaxResponseBytes < before.length + chunk.length
    · rw [if_pos exceeds, if_neg (by omega)]
      rfl
    · rw [if_neg exceeds]
      refine (inductionHypothesis (before ++ chunk) (by rw [List.length_append]; omega) others).trans ?_
      rw [List.length_append, List.append_assoc, Nat.add_assoc]

/-- The reading loop is still running exactly when all reads returned, none of them the
end of the stream, within the limit. -/
theorem read_all_runs_iff (before : Bytes) (results : List (Except Int Bytes))
    (within : before.length ≤ kMaxResponseBytes) :
    (readAll strerror before results).outcome = none ↔
      ∃ chunks : List Bytes, results = chunks.map .ok ∧ [] ∉ chunks ∧
        before.length + chunks.flatten.length ≤ kMaxResponseBytes := by
  induction results generalizing before with
  | nil => exact iff_of_true rfl ⟨[], rfl, List.not_mem_nil, by simpa using within⟩
  | cons result later inductionHypothesis =>
    cases result with
    | error errno =>
      refine iff_of_false (by simp [readAll]) ?_
      rintro ⟨chunks, same, -⟩
      cases chunks <;> simp at same
    | ok chunk =>
      have opened (chunks : List Bytes) (same : .ok chunk :: later = chunks.map (.ok (ε := Int))) :
          ∃ others, chunks = chunk :: others ∧ later = others.map .ok := by
        cases chunks with
        | nil => simp at same
        | cons first others =>
          simp only [List.map_cons, List.cons.injEq, Except.ok.injEq] at same
          exact ⟨others, by rw [same.1], same.2⟩
      rw [readAll]
      by_cases ends : chunk = []
      · rw [if_pos ends]
        refine iff_of_false (by simp) ?_
        rintro ⟨chunks, same, nonempty, -⟩
        obtain ⟨others, rfl, -⟩ := opened chunks same
        exact nonempty (by simp [ends])
      · rw [if_neg ends]
        by_cases exceeds : kMaxResponseBytes < before.length + chunk.length
        · rw [if_pos exceeds]
          refine iff_of_false (by simp) ?_
          rintro ⟨chunks, same, -, limit⟩
          obtain ⟨others, rfl, -⟩ := opened chunks same
          rw [List.flatten_cons, List.length_append] at limit
          omega
        · rw [if_neg exceeds]
          refine (inductionHypothesis (before ++ chunk) (by rw [List.length_append]; omega)).trans ?_
          constructor
          · rintro ⟨others, rfl, nonempty, limit⟩
            refine ⟨chunk :: others, rfl, ?_, ?_⟩
            · intro member
              rcases List.mem_cons.mp member with empty | inside
              · exact ends empty.symm
              · exact nonempty inside
            · rw [List.flatten_cons, List.length_append]
              rw [List.length_append] at limit
              omega
          · rintro ⟨chunks, same, nonempty, limit⟩
            obtain ⟨others, rfl, rest⟩ := opened chunks same
            rw [List.flatten_cons, List.length_append] at limit
            refine ⟨others, rest, fun member => nonempty (List.mem_cons_of_mem _ member), ?_⟩
            rw [List.length_append]
            omega

end Loops

section Transactions

variable (strerror : Int → Bytes) (calls : SystemCalls) (request : Bytes)

/-- The transaction from the moment the descriptor is open, for a path that fits. -/
def conversation (path : Bytes) : Performed Bytes := do
  recorded .opened
  attempt calls.receiveTimeout (socketFailure strerror "setsockopt timeout: ") []
  attempt calls.sendTimeout (socketFailure strerror "setsockopt timeout: ") []
  attempt calls.connect
    (fun errno => .systemError errno
      (ascii "connect(" ++ path ++ ascii "): " ++ strerror errno)) [.connected]
  writeAll strerror request 0 calls.writes
  attempt calls.shutdown (socketFailure strerror "shutdown: ") [.shutDown]
  readAll strerror [] calls.reads

/-- A refused name throws before any call is made. -/
theorem transact_refused (name : Bytes) (invalid : ¬ ValidName name) :
    ∃ failure, ∀ calls, transact strerror calls name request = ⟨[], some (.error failure)⟩ := by
  cases built : socketPath name with
  | ok path => exact absurd ((socket_path_ok_iff name path).mp built).1 invalid
  | error failure =>
    refine ⟨failure, fun calls => ?_⟩
    simp only [transact, built]
    rfl

/-- A transaction either throws before there is a descriptor, for a refused name or for a
socket that cannot be made, or is the conversation on the name's path. -/
theorem transact_cases (name : Bytes) :
    ((¬ ValidName name ∨ calls.socket ≠ none) ∧
      ∃ failure, transact strerror calls name request = ⟨[], some (.error failure)⟩) ∨
    (ValidName name ∧ calls.socket = none ∧
      transact strerror calls name request = conversation strerror calls request (pathOf name)) := by
  by_cases valid : ValidName name
  · have path := (socket_path_ok_iff name _).mpr ⟨valid, rfl⟩
    have fits := not_le.mpr (path_of_short name valid)
    cases opened : calls.socket with
    | some errno =>
      refine .inl ⟨.inr (by simp), socketFailure strerror "socket: " errno, ?_⟩
      simp only [transact, path, opened]
      rfl
    | none =>
      refine .inr ⟨valid, rfl, ?_⟩
      rw [transact, path, apart_next]
      simp only [opened, if_neg fits]
      rfl
  · obtain ⟨failure, same⟩ := transact_refused strerror request name valid
    exact .inl ⟨.inl valid, failure, same calls⟩

/-- A conversation that ends closes the descriptor last, and once. -/
theorem conversation_ends (path : Bytes) : Ends (conversation strerror calls request path) := by
  have plain (action : Action) (different : action ≠ .closed) : .closed ∉ [action] := by
    intro member
    exact different (List.mem_singleton.mp member).symm
  refine next_ends _ _ (plain .opened (by decide)) (fun _ => ?_)
  refine next_ends _ _ (attempt_tidy _ _ _ List.not_mem_nil) (fun _ => ?_)
  refine next_ends _ _ (attempt_tidy _ _ _ List.not_mem_nil) (fun _ => ?_)
  refine next_ends _ _ (attempt_tidy _ _ _ (plain .connected (by decide))) (fun _ => ?_)
  refine next_ends _ _ (write_all_tidy strerror request 0 calls.writes) (fun _ => ?_)
  refine next_ends _ _ (attempt_tidy _ _ _ (plain .shutDown (by decide))) (fun _ => ?_)
  exact read_all_ends strerror [] calls.reads

/-- From the writing loop on, a conversation is orderly: the half-close stands between the
steps that write and those that read. -/
theorem exchange_orderly :
    Orderly request (do
      writeAll strerror request 0 calls.writes
      attempt calls.shutdown (socketFailure strerror "shutdown: ") [.shutDown]
      readAll strerror [] calls.reads : Performed Bytes).actions := by
  obtain ⟨beginning, unshut, all⟩ := write_all_sent strerror request 0 calls.writes
  have reading := read_all_quiet strerror [] calls.reads
  rw [List.drop_zero] at beginning all
  by_cases returned : (writeAll strerror request 0 calls.writes).outcome = some (.ok ())
  · have whole := all returned
    rw [(next_goes_on _ _ () returned).1]
    cases ended : calls.shutdown with
    | some errno =>
      change Orderly request ((writeAll strerror request 0 calls.writes).actions ++ [.closed])
      refine ⟨?_, ?_⟩
      · have silent : sent [.closed] = [] := rfl
        rw [sent_append, whole, silent, List.append_nil]
      · intro before after cut
        have shut : Action.shutDown ∈ (writeAll strerror request 0 calls.writes).actions ++ [.closed] := by
          rw [cut]
          simp
        simp only [List.mem_append, unshut, List.mem_singleton, reduceCtorEq, or_self] at shut
    | none =>
      change Orderly request ((writeAll strerror request 0 calls.writes).actions ++
        .shutDown :: (readAll strerror [] calls.reads).actions)
      have silent := sent_quiet _ reading
      refine ⟨?_, ?_⟩
      · rw [sent_append, whole]
        have all := (congrArg (request ++ ·) silent).trans (List.append_nil request)
        exact ⟨[], (List.append_nil _).trans all⟩
      · intro before after cut
        have later : Action.shutDown ∉ (readAll strerror [] calls.reads).actions :=
          fun member => (reading _ member).2 rfl
        obtain ⟨rfl, -, rfl⟩ := (List.append_cons_inj_of_notMem unshut later).mp cut
        exact ⟨whole, silent⟩
  · rw [next_stops _ _ (fun _ => returned)]
    refine ⟨beginning, ?_⟩
    intro before after cut
    exact absurd (by rw [cut]; simp) unshut

/-- A conversation writes a beginning of the request, and closes the writing side only behind the
whole of it. -/
theorem conversation_orderly (path : Bytes) :
    Orderly request (conversation strerror calls request path).actions := by
  have plain (action : Action) (silent : written action = []) (different : action ≠ .shutDown) :
      Quiet [action] := by
    intro other member
    obtain rfl := List.mem_singleton.mp member
    exact ⟨silent, different⟩
  have nothing : Quiet [] := fun action member => absurd member List.not_mem_nil
  refine next_orderly request _ _ (plain .opened rfl (by decide)) (fun _ => ?_)
  refine next_orderly request _ _ (attempt_quiet _ _ _ nothing) (fun _ => ?_)
  refine next_orderly request _ _ (attempt_quiet _ _ _ nothing) (fun _ => ?_)
  refine next_orderly request _ _ (attempt_quiet _ _ _ (plain .connected rfl (by decide))) (fun _ => ?_)
  exact exchange_orderly strerror calls request

/-- Where no call before the reads fails, the writing side is closed and the reads decide
the outcome. -/
theorem conversation_reads (path : Bytes) (sends : Sends calls request) :
    .shutDown ∈ (conversation strerror calls request path).actions ∧
      (conversation strerror calls request path).outcome =
        (readAll strerror [] calls.reads).outcome := by
  have wrote := (write_all_returns_iff strerror request 0 calls.writes).mpr sends.written
  obtain ⟨steps, outcome⟩ := next_goes_on _ (fun _ => do
    attempt calls.shutdown (socketFailure strerror "shutdown: ") [.shutDown]
    readAll strerror [] calls.reads) () wrote
  simp only [sends.ended, attempt_next] at steps outcome
  simp only [conversation, sends.timed.1, sends.timed.2, sends.connected, sends.ended, recorded_next,
    attempt_next, steps, outcome, and_true]
  simp

/-- It is still running exactly where one of its calls has not returned. -/
theorem conversation_runs_iff (path : Bytes) (opened : calls.socket = none) :
    (conversation strerror calls request path).outcome = none ↔ Waiting calls request := by
  have reading := read_all_runs_iff strerror [] calls.reads (Nat.zero_le _)
  have writing := write_all_runs_iff strerror request 0 calls.writes
  have wrote := write_all_returns_iff strerror request 0 calls.writes
  simp only [conversation, next_runs_iff, attempt_not_running, attempt_returns_iff, false_or, reading,
    writing, wrote, recorded, reduceCtorEq, true_and, Waiting, opened, ReadsPending, List.length_nil,
    Nat.zero_add, Nat.sub_zero]

/-- What holds of a transaction whatever its system calls return. -/
structure RunsSoundly (name : Bytes) : Prop where
  beginning : ∀ done, done <+: (transact strerror calls name request).actions → sent done <+: request
  whole : ∀ before after, (transact strerror calls name request).actions = before ++ .shutDown :: after →
    sent before = request ∧ sent after = []
  reached : ValidName name → Sends calls request →
    .shutDown ∈ (transact strerror calls name request).actions
  returned : ∀ response, (transact strerror calls name request).outcome = some (.ok response) ↔
    ValidName name ∧ Sends calls request ∧ Streams response calls.reads ∧
      response.length ≤ kMaxResponseBytes
  running : (transact strerror calls name request).outcome = none ↔
    ValidName name ∧ Waiting calls request
  thrown : ¬ (ValidName name ∧ Waiting calls request) →
    (∀ response, ¬ (ValidName name ∧ Sends calls request ∧ Streams response calls.reads ∧
      response.length ≤ kMaxResponseBytes)) →
    ∃ failure, (transact strerror calls name request).outcome = some (.error failure)
  rechunked : ∀ other response, Sends calls request → Streams response calls.reads →
    Sends other request → Streams response other.reads →
    (transact strerror other name request).outcome = (transact strerror calls name request).outcome
  closed : ∀ result, (transact strerror calls name request).outcome = some result →
    .opened ∈ (transact strerror calls name request).actions →
    ClosesLast (transact strerror calls name request).actions

/-- So does a transaction, since nothing is sent before. -/
theorem transact_orderly (name : Bytes) :
    Orderly request (transact strerror calls name request).actions := by
  rcases transact_cases strerror calls request name with ⟨-, failure, same⟩ | ⟨-, -, same⟩
  · rw [same]
    exact ⟨List.nil_prefix, fun before after cut => absurd cut (by simp)⟩
  · rw [same]
    exact conversation_orderly strerror calls request (pathOf name)

/-- With a valid name and no failed call, the octets up to the end of the stream decide the
outcome. -/
theorem transact_streamed (name response : Bytes) (valid : ValidName name) (sends : Sends calls request)
    (streams : Streams response calls.reads) :
    (transact strerror calls name request).outcome =
      some (if response.length ≤ kMaxResponseBytes then .ok response else .error tooLarge) := by
  have outcome := (conversation_reads strerror calls request (pathOf name) sends).2
  rcases transact_cases strerror calls request name with ⟨refused, -⟩ | ⟨-, -, same⟩
  · exact absurd refused (not_or.mpr ⟨not_not_intro valid, not_not_intro sends.opened⟩)
  · rw [same, outcome, read_all_streamed strerror response [] calls.reads streams (Nat.zero_le _)]
    rw [List.length_nil, Nat.zero_add, List.nil_append]

/-- A transaction is still running exactly when its name is accepted and a call has not
returned. -/
theorem transact_runs_iff (name : Bytes) :
    (transact strerror calls name request).outcome = none ↔ ValidName name ∧ Waiting calls request := by
  rcases transact_cases strerror calls request name with ⟨refused, failure, same⟩ | ⟨valid, opened, same⟩
  · rw [same]
    refine iff_of_false (Option.some_ne_none _) ?_
    rintro ⟨valid, opened, -⟩
    exact refused.elim (fun invalid => invalid valid) (fun failed => failed opened)
  · rw [same, conversation_runs_iff strerror calls request _ opened]
    exact (and_iff_right valid).symm

/-- How the request and the response are cut into pieces does not matter, and no descriptor is
left open: what is written is a beginning of the request, the writing side is closed behind the
whole of it, and the response is what the stream had, within the limit.

Proof: each part of a transaction is tidy or orderly on its own, and sequences of such parts are.
The two loops are by induction on the results of the system calls; what they return is
characterised by the results alone, so it is the same for all cuts of one stream. -/
theorem transact_runs_soundly (name : Bytes) : RunsSoundly strerror calls request name := by
  obtain ⟨beginning, half⟩ := transact_orderly strerror calls request name
  have returned (response : Bytes) : (transact strerror calls name request).outcome = some (.ok response) ↔
      ValidName name ∧ Sends calls request ∧ Streams response calls.reads ∧
        response.length ≤ kMaxResponseBytes := by
    rw [transact_returns_iff]
    constructor
    · rintro ⟨valid, opened, timed, connected, written, ended, chunks, later, same, nonempty, whole, limit⟩
      exact ⟨valid, ⟨opened, timed, connected, written, ended⟩, ⟨chunks, later, same, nonempty, whole⟩, limit⟩
    · rintro ⟨valid, sends, ⟨chunks, later, same, nonempty, whole⟩, limit⟩
      exact ⟨valid, sends.opened, sends.timed, sends.connected, sends.written, sends.ended,
        chunks, later, same, nonempty, whole, limit⟩
  have running := transact_runs_iff strerror calls request name
  refine ⟨?_, half, ?_, returned, running, ?_, ?_, ?_⟩
  · rintro done ⟨later, whole⟩
    rw [← whole, sent_append] at beginning
    exact (List.prefix_append _ _).trans beginning
  · intro valid sends
    rcases transact_cases strerror calls request name with ⟨refused, -⟩ | ⟨-, -, same⟩
    · exact absurd refused (not_or.mpr ⟨not_not_intro valid, not_not_intro sends.opened⟩)
    · rw [same]
      exact (conversation_reads strerror calls request (pathOf name) sends).1
  · intro ended failed
    rcases outcome : (transact strerror calls name request).outcome with _ | failure | response
    · exact absurd (running.mp outcome) ended
    · exact ⟨failure, rfl⟩
    · exact absurd ((returned response).mp outcome) (failed response)
  · intro other response sends streams otherSends otherStreams
    by_cases valid : ValidName name
    · rw [transact_streamed strerror calls request name response valid sends streams,
        transact_streamed strerror other request name response valid otherSends otherStreams]
    · obtain ⟨failure, same⟩ := transact_refused strerror request name valid
      rw [same, same]
  · intro result ended opened
    rcases transact_cases strerror calls request name with ⟨-, failure, same⟩ | ⟨-, -, same⟩
    · rw [same] at opened
      exact absurd opened List.not_mem_nil
    · have ends := conversation_ends strerror calls request (pathOf name)
      rw [same] at ended ⊢
      rw [Ends, ended] at ends
      exact ends

end Transactions

end NodeWireguard.TransactRuns
