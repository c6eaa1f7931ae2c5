import Mathlib
import NodeWireguard.Client.CallOrder

/-!
# Sessions

A client with its workers and the system they work on. The operation of a call is a program
that advances in steps, each one system call or less, on a thread of its own; between any two
steps the JavaScript thread may do anything, and other programs may change the system. When
a program has ended, its outcome is delivered to the JavaScript thread, where it settles the
promise of the native method.

The calls of one client leave no trace of all this: the steps of an earlier call come before
those of a later one, so the session is a sequence of whole operations in call order with the
changes of other programs in between, and each caller gets the outcome of its own operation.
-/

namespace NodeWireguard.Sessions

open PromiseJobs CallQueue CallChain CallOrder

/-- How operations run: `π` is what is left of one. -/
structure Program (σ κ π ν : Type) where
  start : κ → π
  advance : σ → π → σ × (π ⊕ Outcome ν)

/-- What happened to the system: another program changed it, or the worker of a call took a
step. -/
inductive Occurrence (σ : Type) where
  | outside (change : σ → σ)
  | step (index : Nat)

/-- The call whose worker took the step, if one did. -/
def Occurrence.index? {σ : Type} : Occurrence σ → Option Nat
  | outside _ => none
  | step index => some index

/-- The system and the workers, by the number of their call; a worker holds its outcome once
its program has ended. -/
structure Machine (σ π ν : Type) where
  world : σ
  workers : Nat → Option (π ⊕ Outcome ν) := fun _ => none

section Workers

variable {σ κ π ν : Type} (program : Program σ κ π ν) (operations : Nat → Option κ)

/-- What is left of the operation of a call, where it has not ended. -/
def Machine.left (machine : Machine σ π ν) (index : Nat) : Option π :=
  match machine.workers index with
  | some (.inl left) => some left
  | some (.inr _) => none
  | none => (operations index).map program.start

/-- One occurrence: another program changes the system, or the worker of a call takes its next
step, if its operation is under way. -/
def Machine.after (machine : Machine σ π ν) (occurrence : Occurrence σ) : Machine σ π ν :=
  match occurrence with
  | .outside change => { machine with world := change machine.world }
  | .step index =>
      match machine.left program operations index with
      | none => machine
      | some left =>
          let (world, worker) := program.advance machine.world left
          ⟨world, Function.update machine.workers index (some worker)⟩

/-- Occurrences one after the other. The history of a session replayed gives its machine back. -/
def replay (world : σ) (history : List (Occurrence σ)) : Machine σ π ν :=
  history.foldl (Machine.after program operations) { world }

end Workers

/-- A client with its machine. `history` records what happened to the machine. -/
structure Session (σ τ ω ν κ π : Type) where
  system : System τ ω ν κ
  machine : Machine σ π ν
  history : List (Occurrence σ) := []

/-- The operation that the native method of a call started. -/
def operationOf {τ ω ν κ : Type} (client : Client τ ω ν κ) (index : Nat) : Option κ :=
  match client.started[index]? with
  | some (.operates operation, _) => some operation
  | _ => none

/-- What the JavaScript thread, the workers and other programs can do. -/
inductive Event (σ τ ω : Type) where
  | call (task : τ)
  | job
  | close
  | write (memory : ω)
  | deliver (index : Nat)
  | machine (occurrence : Occurrence σ)

section Runs

variable {σ τ ω ν κ π : Type} (object : Native τ ω ν κ) (program : Program σ κ π ν)

/-- Does the occurrence do anything? A worker that has ended or was never started does not. -/
def happens (session : Session σ τ ω ν κ π) : Occurrence σ → Bool
  | .outside _ => true
  | .step index => (session.machine.left program (operationOf session.system.1) index).isSome

/-- What an event does to a session: a call, a job of the queue, `close` and a write go to the
client; the rest happens to the workers and the system, and a finished worker settles its
promise. -/
def after (session : Session σ τ ω ν κ π) (event : Event σ τ ω) : Session σ τ ω ν κ π :=
  match event with
  | .call task => { session with system := act object session.system (.call task) }
  | .job => { session with system := act object session.system .job }
  | .close => { session with system := act object session.system .close }
  | .write memory => { session with system := act object session.system (.write memory) }
  | .deliver index =>
      match session.machine.workers index with
      | some (.inr outcome) =>
          { session with system := act object session.system (.finish index outcome) }
      | _ => session
  | .machine occurrence =>
      if happens program session occurrence then
        { session with
          machine := session.machine.after program (operationOf session.system.1) occurrence
          history := session.history ++ [occurrence] }
      else session

/-- A session from a new client on. Its events are calls, jobs, steps of workers and changes from
outside, in any order. -/
def session (memory : ω) (world : σ) (events : List (Event σ τ ω)) : Session σ τ ω ν κ π :=
  events.foldl (after object program) { system := newClient object memory, machine := { world } }

end Runs

section Promises

variable {ι η ν : Type} [DecidableEq ι]

/-- Registering a reaction settles nothing. -/
theorem react_settled_iff (p : Promises ι η ν) (source name : ι) (reaction : Reaction ι η)
    (outcome : Outcome ν) :
    (p.react source reaction).heap name = .settled outcome ↔ p.heap name = .settled outcome := by
  unfold Promises.react
  split
  · rename_i reactions pending
    by_cases same : name = source
    · subst same
      simp [pending]
    · simp [same]
  · exact Iff.rfl

/-- Settling one promise leaves the others alone. -/
theorem settle_other (p : Promises ι η ν) (target name : ι) (outcome : Outcome ν)
    (other : name ≠ target) : (p.settle target outcome).heap name = p.heap name := by
  unfold Promises.settle
  split
  · simp [other]
  · rfl

end Promises

section Started

variable {τ ω ν κ : Type} (object : Native τ ω ν κ)

/-- The record of native calls has one entry for each call. -/
theorem operation_of_iff (system : System τ ω ν κ) (past : List (Settlement ν κ))
    (phase : Phase ν κ) (shape : Shape object system past phase) (index : Nat) (operation : κ) :
    operationOf system.1 index = some operation ↔ (.operates operation, index) ∈ system.1.started := by
  rw [operationOf, shape.started, startedOf, List.mk_mem_zipIdx_iff_getElem?, List.getElem?_zipIdx]
  cases (past.map Settlement.begun ++ phase.begun.toList)[index]? with
  | none => simp
  | some begun => cases begun <;> simp

/-- What a native method started stays on record. -/
theorem operation_of_act (system : System τ ω ν κ) (action : Action τ ω ν)
    (past : List (Settlement ν κ)) (phase : Phase ν κ) (shape : Shape object system past phase)
    (index : Nat) (operation : κ) (began : operationOf system.1 index = some operation) :
    operationOf (act object system action).1 index = some operation := by
  have inside : index < system.1.started.length := by
    by_contra beyond
    rw [operationOf, List.getElem?_eq_none (not_lt.mp beyond)] at began
    cases began
  rcases act_starts object system action past phase shape with same | ⟨call, -, -, grown⟩
  · rw [operationOf, same]
    exact began
  · rw [operationOf, grown, List.getElem?_append_left inside]
    exact began

/-- A record with one entry more has the operations it had, and that of the new entry. -/
theorem operation_of_append (client next : Client τ ω ν κ) (begun : Begun ν κ) (number : Nat)
    (grown : next.started = client.started ++ [(begun, number)]) (index : Nat) (operation : κ)
    (began : operationOf next index = some operation) :
    operationOf client index = some operation ∨
      index = client.started.length ∧ begun = .operates operation := by
  rw [operationOf, grown] at began
  rcases Nat.lt_trichotomy index client.started.length with before | rfl | beyond
  · rw [List.getElem?_append_left before] at began
    exact .inl began
  · cases begun with
    | threw reason => simp at began
    | refused reason => simp at began
    | operates started => exact .inr ⟨rfl, by simpa using began⟩
  · have missing : (client.started ++ [(begun, number)])[index]? = none :=
      List.getElem?_eq_none (by simp; omega)
    simp [missing] at began

/-- Calling the native method of the current call settles no promise of an operation. What is new
in the heap is the promise of that call, and it is settled only where the method refused or
threw, which starts no operation. -/
theorem scheduled_native (system : System τ ω ν κ) (past : List (Settlement ν κ))
    (shape : Shape object system past .scheduled) (index : Nat) (operation : κ) (outcome : Outcome ν)
    (began : operationOf (act object system .job).1 index = some operation)
    (settled : (act object system .job).2.heap (.native index) = .settled outcome) :
    operationOf system.1 index = some operation ∧
      system.2.heap (.native index) = .settled outcome := by
  obtain ⟨client, promises⟩ := system
  obtain ⟨position, viaPromise, queue, started, known⟩ := shape
  simp only at position queue started known
  subst known
  have inside : past.length < client.calls.length := position
  have found : client.calls[past.length]? = some client.calls[past.length] :=
    List.getElem?_eq_getElem inside
  have length : client.started.length = past.length := by
    simp [started, startedOf, Phase.begun]
  have native := native_current object client.calls past .scheduled
  have result : PromiseName.native index ≠ .result past.length := by simp
  simp only [act, runJob, jobsOf, found, handle, callNative] at began settled ⊢
  cases begun : begins object client client.calls[past.length].1 with
  | threw reason =>
    simp only [begun, Promises.resolve, settle_other _ _ _ _ result] at began settled
    rcases operation_of_append client _ _ _ rfl index operation began with before | ⟨-, other⟩
    · exact ⟨before, settled⟩
    · cases other
  | refused reason =>
    simp only [begun, Promises.resolve] at began settled
    rcases operation_of_append client _ _ _ rfl index operation began with before | ⟨-, other⟩
    · have earlier : index ≠ past.length := by
        rintro rfl
        rw [operationOf, List.getElem?_eq_none length.le] at before
        cases before
      rw [settle_other _ _ _ _ (by simpa using earlier)] at settled
      exact ⟨before, settled⟩
    · cases other
  | operates operation' =>
    simp only [begun, Promises.resolve] at began settled
    rcases operation_of_append client _ _ _ rfl index operation began with before | ⟨rfl, -⟩
    · exact ⟨before, settled⟩
    · rw [length, native] at settled
      cases settled

/-- Only a worker settles the native promise of an operation. The jobs settle results and queue
promises; the cases are the phases that have a job. -/
theorem job_native (system : System τ ω ν κ) (past : List (Settlement ν κ)) (phase : Phase ν κ)
    (shape : Shape object system past phase) (index : Nat) (operation : κ) (outcome : Outcome ν)
    (began : operationOf (act object system .job).1 index = some operation)
    (settled : (act object system .job).2.heap (.native index) = .settled outcome) :
    operationOf system.1 index = some operation ∧
      system.2.heap (.native index) = .settled outcome := by
  have result (target : Nat) : PromiseName.native index ≠ .result target := by simp
  have queue (target : Nat) : PromiseName.native index ≠ .queue target := by simp
  have promises := shape.promises
  cases phase with
  | idle =>
    rw [job_quiet object system past .idle shape rfl] at began settled
    exact ⟨began, settled⟩
  | waiting worked =>
    rw [job_quiet object system past (.waiting worked) shape rfl] at began settled
    exact ⟨began, settled⟩
  | scheduled => exact scheduled_native object system past shape index operation outcome began settled
  | called worked =>
    simp only [act, runJob, promises, jobsOf] at began settled
    rw [react_settled_iff] at settled
    exact ⟨began, by rw [promises]; exact settled⟩
  | returned settlement =>
    simp only [act, runJob, promises, jobsOf] at began settled
    rw [react_settled_iff] at settled
    exact ⟨began, by rw [promises]; exact settled⟩
  | passing settlement =>
    simp only [act, runJob, promises, jobsOf, settle_other _ _ _ _ (result _)] at began settled
    exact ⟨began, by rw [promises]; exact settled⟩
  | swallowing settlement =>
    simp only [act, runJob, promises, jobsOf, handle, Promises.resolve,
      settle_other _ _ _ _ (queue _)] at began settled
    exact ⟨began, by rw [promises]; exact settled⟩

end Started

section Replay

variable {σ κ π ν : Type} (program : Program σ κ π ν)

/-- A replay asks only for the operations of the calls that took steps. -/
theorem replay_congr (left right : Nat → Option κ) (world : σ) (history : List (Occurrence σ))
    (same : ∀ index, .step index ∈ history → left index = right index) :
    replay program left world history = replay program right world history := by
  induction history using List.reverseRecOn with
  | nil => rfl
  | append_singleton earlier last inductionHypothesis =>
    have before := inductionHypothesis (fun index member => same index (by simp [member]))
    simp only [replay, List.foldl_append, List.foldl_cons, List.foldl_nil] at before ⊢
    rw [before]
    cases last with
    | outside change => rfl
    | step index =>
      have agree : left index = right index := same index (by simp)
      simp only [Machine.after, Machine.left, agree]

/-- A history that is longer by one occurrence replays that one last. -/
theorem replay_append (operations : Nat → Option κ) (world : σ) (history : List (Occurrence σ))
    (last : Occurrence σ) :
    replay program operations world (history ++ [last]) =
      (replay program operations world history).after program operations last := by
  simp [replay]

end Replay

section Isolation

variable {σ τ ω ν κ π : Type} (object : Native τ ω ν κ) (program : Program σ κ π ν) (world : σ)

/-- What holds in every session: the client is a chain of promises, a settled native promise has
the outcome of its worker, workers exist only for started operations, and the history is in order
and explains the machine. -/
structure Sound (session : Session σ τ ω ν κ π) : Prop where
  shape : ∃ past phase, Shape object session.system past phase
  held : ∀ index operation outcome, operationOf session.system.1 index = some operation →
    session.system.2.heap (.native index) = .settled outcome →
    session.machine.workers index = some (.inr outcome)
  working : ∀ index, session.machine.workers index ≠ none →
    (operationOf session.system.1 index).isSome
  stepped : ∀ index, .step index ∈ session.history → (operationOf session.system.1 index).isSome
  ordered : (session.history.filterMap Occurrence.index?).Pairwise (· ≤ ·)
  replayed : session.machine =
    replay program (operationOf session.system.1) world session.history

/-- A new client has no promises, no workers and no history. -/
theorem session_start (memory : ω) :
    Sound object program world
      ({ system := newClient object memory, machine := { world } } : Session σ τ ω ν κ π) := by
  refine ⟨⟨[], .idle, new_client_shape object memory⟩, ?_, ?_, ?_, ?_, ?_⟩ <;>
    simp [operationOf, newClient, replay]

/-- The JavaScript thread changes neither the machine nor what operations are under way; it
may start the operation of the next call. -/
theorem sound_act (session : Session σ τ ω ν κ π) (action : Action τ ω ν)
    (sound : Sound object program world session)
    (native : ∀ index operation outcome,
      operationOf (act object session.system action).1 index = some operation →
      (act object session.system action).2.heap (.native index) = .settled outcome →
      operationOf session.system.1 index = some operation ∧
        session.system.2.heap (.native index) = .settled outcome) :
    Sound object program world { session with system := act object session.system action } := by
  obtain ⟨past, phase, shape⟩ := sound.shape
  have kept (index : Nat) (some : (operationOf session.system.1 index).isSome) :
      operationOf (act object session.system action).1 index =
        operationOf session.system.1 index := by
    obtain ⟨operation, began⟩ := Option.isSome_iff_exists.mp some
    rw [began, operation_of_act object session.system action past phase shape index operation began]
  refine ⟨act_shape object session.system action past phase shape, ?_, ?_, ?_, sound.ordered, ?_⟩
  · intro index operation outcome began settled
    obtain ⟨before, earlier⟩ := native index operation outcome began settled
    exact sound.held index operation outcome before earlier
  · intro index busy
    have some := sound.working index busy
    rw [kept index some]
    exact some
  · intro index member
    have some := sound.stepped index member
    rw [kept index some]
    exact some
  · rw [sound.replayed]
    exact replay_congr program _ _ world session.history
      (fun index member => (kept index (sound.stepped index member)).symm)

/-- A delivered outcome is the one the worker holds. The worker has ended, so its step is in the
history, and the promise that is settled is the one of its own call. -/
theorem sound_deliver (session : Session σ τ ω ν κ π) (index : Nat) (outcome : Outcome ν)
    (sound : Sound object program world session)
    (ended : session.machine.workers index = some (.inr outcome)) :
    Sound object program world
      { session with system := act object session.system (.finish index outcome) } := by
  obtain ⟨past, phase, shape⟩ := sound.shape
  have client : (act object session.system (.finish index outcome)).1 = session.system.1 := by
    simp only [act]
    split <;> rfl
  refine ⟨act_shape object session.system (.finish index outcome) past phase shape, ?_, ?_, ?_,
    sound.ordered, ?_⟩
  · intro other operation reached began settled
    rw [client] at began
    simp only [act] at settled
    split at settled
    · by_cases same : other = index
      · subst same
        unfold Promises.settle at settled
        split at settled
        · obtain rfl : outcome = reached := by simpa using settled
          exact ended
        · exact sound.held other operation reached began settled
      · rw [settle_other _ _ _ _ (by simpa using same)] at settled
        exact sound.held other operation reached began settled
    · exact sound.held other operation reached began settled
  · rw [client]
    exact sound.working
  · rw [client]
    exact sound.stepped
  · rw [client]
    exact sound.replayed

/-- A worker takes steps only after the operations of earlier calls have ended. -/
theorem step_last (session : Session σ τ ω ν κ π) (index earlier : Nat)
    (sound : Sound object program world session)
    (going : (session.machine.left program (operationOf session.system.1) index).isSome)
    (current : (operationOf session.system.1 index).isSome)
    (stepped : .step earlier ∈ session.history) : earlier ≤ index := by
  obtain ⟨past, phase, shape⟩ := sound.shape
  obtain ⟨operation, began⟩ := Option.isSome_iff_exists.mp current
  obtain ⟨other, begun⟩ := Option.isSome_iff_exists.mp (sound.stepped earlier stepped)
  by_contra later
  have serialized := chain_serialized object session.system past phase shape
  have started : Started session.system earlier :=
    ⟨_, (operation_of_iff object session.system past phase shape earlier other).mp begun⟩
  obtain ⟨-, landed⟩ := serialized.afterEarlier earlier started index (not_le.mp later)
  have entry := (operation_of_iff object session.system past phase shape index operation).mp began
  cases native : session.system.2.heap (.native index) with
  | pending reactions => exact landed ⟨⟨operation, entry⟩, reactions, native⟩
  | settled outcome =>
    have ended := sound.held index operation outcome began native
    simp [Machine.left, ended] at going

/-- What happens to the machine keeps the steps in call order. A worker steps only while its
operation runs, so its call is the last that started; the calls before it have ended and step no
more. -/
theorem sound_machine (session : Session σ τ ω ν κ π) (occurrence : Occurrence σ)
    (sound : Sound object program world session)
    (happened : happens program session occurrence = true) :
    Sound object program world { session with
      machine := session.machine.after program (operationOf session.system.1) occurrence
      history := session.history ++ [occurrence] } := by
  have replayed : session.machine.after program (operationOf session.system.1) occurrence =
      replay program (operationOf session.system.1) world (session.history ++ [occurrence]) := by
    rw [replay_append, ← sound.replayed]
  cases occurrence with
  | outside change =>
    refine ⟨sound.shape, sound.held, sound.working, ?_, ?_, replayed⟩
    · intro index member
      exact sound.stepped index (by simpa using member)
    · simpa [List.filterMap_cons, Occurrence.index?] using sound.ordered
  | step index =>
    have going : (session.machine.left program (operationOf session.system.1) index).isSome := happened
    obtain ⟨left, remaining⟩ := Option.isSome_iff_exists.mp going
    have current : (operationOf session.system.1 index).isSome := by
      cases worker : session.machine.workers index with
      | some _ => exact sound.working index (by simp [worker])
      | none =>
        rw [Machine.left, worker] at going
        simpa using going
    have after : session.machine.after program (operationOf session.system.1) (.step index) =
        ⟨(program.advance session.machine.world left).1, Function.update session.machine.workers index
          (some (program.advance session.machine.world left).2)⟩ := by
      simp only [Machine.after, remaining]
    refine ⟨sound.shape, ?_, ?_, ?_, ?_, replayed⟩
    · intro other operation outcome began settled
      have ended := sound.held other operation outcome began settled
      have different : other ≠ index := by
        rintro rfl
        simp [Machine.left, ended] at remaining
      rw [after]
      simpa [different] using ended
    · intro other busy
      by_cases same : other = index
      · exact same ▸ current
      · refine sound.working other ?_
        rw [after] at busy
        simpa [same] using busy
    · intro other member
      rcases List.mem_append.mp member with earlier | last
      · exact sound.stepped other earlier
      · obtain rfl : other = index := by simpa using last
        exact current
    · rw [List.filterMap_append, List.pairwise_append]
      refine ⟨sound.ordered, by simp [Occurrence.index?], ?_⟩
      intro earlier member last sameLast
      obtain rfl : last = index := by simpa [List.filterMap_cons, Occurrence.index?] using sameLast
      obtain ⟨occurrence, inHistory, stepped⟩ := List.mem_filterMap.mp member
      cases occurrence with
      | outside change => cases stepped
      | step number =>
        obtain rfl := Option.some.inj stepped
        exact step_last object program world session last number sound going current inHistory

/-- Every event keeps a session sound. The cases are the events: what the client does keeps its
shape, a delivery settles one promise, and the rest is what happens to the machine. -/
theorem sound_after (session : Session σ τ ω ν κ π) (event : Event σ τ ω)
    (sound : Sound object program world session) :
    Sound object program world (after object program session event) := by
  obtain ⟨past, phase, shape⟩ := sound.shape
  cases event with
  | call task =>
    refine sound_act object program world session (.call task) sound ?_
    intro index operation outcome began settled
    simp only [act, enqueue, Promises.andThen, react_settled_iff] at settled
    exact ⟨began, settled⟩
  | job =>
    exact sound_act object program world session .job sound
      (job_native object session.system past phase shape)
  | close =>
    exact sound_act object program world session .close sound
      (fun _ _ _ began settled => ⟨began, settled⟩)
  | write memory =>
    exact sound_act object program world session (.write memory) sound
      (fun _ _ _ began settled => ⟨began, settled⟩)
  | deliver index =>
    simp only [after]
    split
    · rename_i outcome ended
      exact sound_deliver object program world session index outcome sound ended
    · exact sound
  | machine occurrence =>
    simp only [after]
    split
    · rename_i happened
      exact sound_machine object program world session occurrence sound happened
    · exact sound

/-- So every session is sound, by induction on its events. -/
theorem session_sound (memory : ω) (events : List (Event σ τ ω)) :
    Sound object program world (session object program memory world events) := by
  induction events using List.reverseRecOn with
  | nil => exact session_start object program world memory
  | append_singleton earlier event inductionHypothesis =>
    rw [session, List.foldl_append]
    exact sound_after object program world _ event inductionHypothesis

/-- The session is a sequence of operations in call order: the system is what the recorded steps
and changes make of it, all steps of a call come before those of a later one, an operation that
a later one follows has ended and its caller has the outcome, and no caller has another. -/
structure Isolated (session : Session σ τ ω ν κ π) : Prop where
  replayed : session.machine =
    replay program (operationOf session.system.1) world session.history
  inOrder : (session.history.filterMap Occurrence.index?).Pairwise (· ≤ ·)
  ended : ∀ earlier later, earlier < later → .step later ∈ session.history →
    ∀ operation, operationOf session.system.1 earlier = some operation →
    ∃ outcome, session.machine.workers earlier = some (.inr outcome) ∧
      session.system.2.heap (.result earlier) = .settled outcome
  own : ∀ index operation outcome, operationOf session.system.1 index = some operation →
    session.system.2.heap (.result index) = .settled outcome →
    session.machine.workers index = some (.inr outcome)

/-- Every session is isolated: the operations of a client take their steps one after the other in
the order of the calls, and each result is what its own operation came to, whatever other
programs do in between.

Proof: the client is a chain of promises of the shape that the call queue keeps, in which an
operation starts only when the calls before it are settled. A worker steps only for a started
operation, and settles the promise of its own call; so the history is ordered, and replaying it
gives the same machine. -/
theorem session_isolated (memory : ω) (events : List (Event σ τ ω)) :
    Isolated program world (session object program memory world events) := by
  have sound := session_sound object program world memory events
  obtain ⟨past, phase, shape⟩ := sound.shape
  have serialized := chain_serialized object _ past phase shape
  have entry := operation_of_iff object _ past phase shape
  have own (index : Nat) (operation : κ) (outcome : Outcome ν)
      (began : operationOf (session object program memory world events).system.1 index = some operation)
      (settled : (session object program memory world events).system.2.heap (.result index) =
        .settled outcome) :
      (session object program memory world events).machine.workers index = some (.inr outcome) := by
    obtain ⟨begun, member, owned⟩ := serialized.ownOutcome index outcome settled
    -- The record has one entry for the call.
    have same : begun = .operates operation := by
      have recorded := (entry index operation).mp began
      rw [shape.started, startedOf, List.mk_mem_zipIdx_iff_getElem?] at member recorded
      exact Option.some.inj (member.symm.trans recorded)
    subst same
    exact sound.held index operation outcome began owned
  refine ⟨sound.replayed, sound.ordered, ?_, own⟩
  intro earlier later before stepped operation began
  obtain ⟨other, begun⟩ := Option.isSome_iff_exists.mp (sound.stepped later stepped)
  have started : Started (session object program memory world events).system later :=
    ⟨_, (entry later other).mp begun⟩
  obtain ⟨⟨outcome, settled⟩, -⟩ := serialized.afterEarlier later started earlier before
  exact ⟨outcome, own earlier operation outcome began settled, settled⟩

end Isolation

end NodeWireguard.Sessions
