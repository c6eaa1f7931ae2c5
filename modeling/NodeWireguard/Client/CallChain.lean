import Mathlib
import NodeWireguard.Client.CallQueue

/-!
# The chain of reactions

The queue exists only as promises and the reactions registered on them. The invariant says
exactly what they look like at any time: the calls that are over, the phase of the current
one, and the calls behind it, whose reactions are all still registered. At most one job of
the client is ever queued.

Each action leads from one such state to another, so every reachable state is one.
-/

namespace NodeWireguard.CallChain

open PromiseJobs CallQueue

variable {τ ω ν κ : Type}

/-- The outcome a call has on its own account. A started operation may end either way. -/
def Owns (begun : Begun ν κ) (outcome : Outcome ν) : Prop :=
  match begun with
  | .threw reason | .refused reason => outcome = .rejected reason
  | .operates _ => True

/-- A native call that was settled, with the outcome it has on its own account. -/
structure Settlement (ν κ : Type) where
  begun : Begun ν κ
  outcome : Outcome ν
  owned : Owns begun outcome

/-- How far the current call is: no call is left, its task is the next job, its native
promise was returned to the task and is still pending or settled, its result follows the
native promise, its result is the next to be settled, or it is settled and about to be
swallowed. -/
inductive Phase (ν κ : Type) where
  | idle
  | scheduled
  | called (operation : κ)
  | returned (settlement : Settlement ν κ)
  | waiting (operation : κ)
  | passing (settlement : Settlement ν κ)
  | swallowing (settlement : Settlement ν κ)

/-- How many jobs the client can still run without a worker finishing. -/
def Phase.rank : Phase ν κ → Nat
  | .idle | .waiting _ => 0
  | .swallowing _ => 1
  | .passing _ => 2
  | .returned _ => 3
  | .called _ => 4
  | .scheduled => 5

/-- A settlement whose native method returned a promise. One that threw settles the result of its
call without a promise in between. -/
def Settlement.ViaPromise (settlement : Settlement ν κ) : Prop :=
  ∀ reason, settlement.begun ≠ .threw reason

/-- The native promise of a settled call; a method that threw made none. -/
def Settlement.native (settlement : Settlement ν κ) : PromiseState PromiseName (Handler τ) ν :=
  match settlement.begun with
  | .threw _ => .pending []
  | _ => .settled settlement.outcome

/-- A native method that returned a promise has left it settled with the outcome of its call. -/
theorem native_via_promise (settlement : Settlement ν κ) (viaPromise : settlement.ViaPromise) :
    (settlement.native : PromiseState PromiseName (Handler τ) ν) = .settled settlement.outcome := by
  unfold Settlement.native
  split
  · rename_i reason threw
    exact absurd threw (viaPromise reason)
  · rfl

/-- What the native method of the current call did, where it was called. -/
def Phase.begun : Phase ν κ → Option (Begun ν κ)
  | .idle | .scheduled => none
  | .called operation | .waiting operation => some (.operates operation)
  | .returned settlement | .passing settlement | .swallowing settlement => some settlement.begun

/-- The current call, once its result is settled. From then on only its swallowing is left. -/
def Phase.settled : Phase ν κ → Option (Settlement ν κ)
  | .swallowing settlement => some settlement
  | _ => none

/-- Only a returned promise is passed on. -/
def Phase.ViaPromise : Phase ν κ → Prop
  | .returned settlement | .passing settlement => settlement.ViaPromise
  | _ => True

/-- Every call is over, or the current one is the next. -/
def Phase.At (past calls : Nat) : Phase ν κ → Prop
  | .idle => past = calls
  | _ => past < calls

/-- Every phase but the idle one has a current call, which is registered. -/
theorem at_busy_iff (phase : Phase ν κ) (past calls : Nat) (busy : phase ≠ .idle) :
    phase.At past calls ↔ past < calls := by
  cases phase with
  | idle => exact absurd rfl busy
  | _ => exact Iff.rfl

/-- The native promise of the current call. It has the result as its follower once the task has
returned it. -/
def Phase.native (past : Nat) : Phase ν κ → PromiseState PromiseName (Handler τ) ν
  | .idle | .scheduled | .called _ => .pending []
  | .returned settlement | .passing settlement => .settled settlement.outcome
  | .waiting _ => .pending [.follow (.result past)]
  | .swallowing settlement => settlement.native

section Shape

variable (object : Native τ ω ν κ) (calls : List (τ × ω)) (past : List (Settlement ν κ))
  (phase : Phase ν κ)

/-- The promise `this.queue` as each call finds it: settled up to the current call, and
behind it waiting for the call before. -/
def queueState (index : Nat) : PromiseState PromiseName (Handler τ) ν :=
  if index ≤ past.length then .settled (.fulfilled object.undefined)
  else
    match calls[index]? with
    | some call => .pending [.handlers (.task call.1 index) (.task call.1 index) (.result index)]
    | none => .pending []

/-- A result that nothing has settled yet has the swallowing reaction. -/
def openResult (index : Nat) : PromiseState PromiseName (Handler τ) ν :=
  if index < calls.length then .pending [.handlers .swallow .swallow (.queue (index + 1))]
  else .pending []

/-- The promise returned to the caller. It is settled for the calls that are over and for the one
about to be swallowed. -/
def resultState (index : Nat) : PromiseState PromiseName (Handler τ) ν :=
  match (past ++ phase.settled.toList)[index]? with
  | some settlement => .settled settlement.outcome
  | none => openResult calls index

/-- The promise of a native method: settled for the calls that are over, as the phase says for
the current one, and not made yet for the others. -/
def nativeState (index : Nat) : PromiseState PromiseName (Handler τ) ν :=
  match past[index]? with
  | some settlement => settlement.native
  | none => if index = past.length then phase.native past.length else .pending []

/-- All promises of a client, by name. -/
def heapOf : PromiseName → PromiseState PromiseName (Handler τ) ν
  | .queue index => queueState object calls past index
  | .result index => resultState calls past phase index
  | .native index => nativeState past phase index

/-- The one job of the client, where there is one. -/
def jobsOf : List (Job PromiseName (Handler τ) ν) :=
  let current := past.length
  match phase with
  | .idle | .waiting _ => []
  | .scheduled =>
      match calls[current]? with
      | some call =>
          [.run (.task call.1 current) (.fulfilled object.undefined) (.result current)]
      | none => []
  | .called _ | .returned _ => [.adopt (.native current) (.result current)]
  | .passing settlement => [.settle (.result current) settlement.outcome]
  | .swallowing settlement => [.run .swallow settlement.outcome (.queue (current + 1))]

/-- The native methods called so far, with the numbers of their calls. -/
def startedOf : List (Begun ν κ × Nat) :=
  (past.map Settlement.begun ++ phase.begun.toList).zipIdx

/-- A client with its promises is in the given phase. -/
structure Shape (system : System τ ω ν κ) (past : List (Settlement ν κ)) (phase : Phase ν κ) :
    Prop where
  position : phase.At past.length system.1.calls.length
  viaPromise : phase.ViaPromise
  queue : system.1.queue = .queue system.1.calls.length
  started : system.1.started = startedOf past phase
  promises : system.2 = ⟨heapOf object system.1.calls past phase,
    jobsOf object system.1.calls past phase⟩

end Shape

/-- The last phase of a call has its result settled. -/
@[simp]
theorem swallowing_settled (settlement : Settlement ν κ) :
    (Phase.swallowing settlement).settled = some settlement := rfl

/-- An idle client has no current result. -/
@[simp]
theorem idle_settled : (Phase.idle : Phase ν κ).settled = none := rfl

/-- A call that is scheduled has no result yet. -/
@[simp]
theorem scheduled_settled : (Phase.scheduled : Phase ν κ).settled = none := rfl

/-- In the last phase the native promise is the one of the settlement. -/
@[simp]
theorem swallowing_native (past : Nat) (settlement : Settlement ν κ) :
    ((Phase.swallowing settlement).native past : PromiseState PromiseName (Handler τ) ν) =
      settlement.native := rfl

section Heap

variable (object : Native τ ω ν κ) (calls : List (τ × ω)) (past : List (Settlement ν κ))
  (phase : Phase ν κ)

/-- Where no call is registered yet there is nothing to settle. -/
theorem queue_end (behind : past.length < calls.length) :
    heapOf object calls past phase (.queue calls.length) = .pending [] := by
  simp [heapOf, queueState, behind]

/-- The name of the next result is not used yet. -/
theorem result_end (inside : (past ++ phase.settled.toList).length ≤ calls.length) :
    heapOf object calls past phase (.result calls.length) = .pending [] := by
  have missing : (past ++ phase.settled.toList)[calls.length]? = none :=
    List.getElem?_eq_none inside
  simp [heapOf, resultState, missing, openResult]

/-- At most one call has its result settled without being over. -/
theorem settled_bound : phase.settled.toList.length ≤ 1 := by
  cases phase <;> simp [Phase.settled]

/-- One more call registers the swallowing reaction on its result. -/
theorem result_call (call : τ × ω) (index : Nat)
    (inside : (past ++ phase.settled.toList).length ≤ calls.length) :
    resultState (calls ++ [call]) past phase index =
      if index = calls.length then
        .pending [.handlers .swallow .swallow (.queue (calls.length + 1))]
      else resultState calls past phase index := by
  by_cases same : index = calls.length
  · subst same
    have missing : (past ++ phase.settled.toList)[calls.length]? = none :=
      List.getElem?_eq_none inside
    simp [resultState, missing, openResult]
  · have order : index < calls.length + 1 ↔ index < calls.length := by omega
    simp [resultState, openResult, same, order]

/-- A call behind the current one also registers its task on the queue. Two promises change, the
queue that the call finds and its own result; every other name is looked up as before, because
the lists differ only at their end. -/
theorem heap_call_behind (call : τ × ω) (behind : past.length < calls.length) :
    heapOf object (calls ++ [call]) past phase =
      Function.update (Function.update (heapOf object calls past phase) (.queue calls.length)
        (.pending [.handlers (.task call.1 calls.length) (.task call.1 calls.length)
          (.result calls.length)]))
        (.result calls.length)
        (.pending [.handlers .swallow .swallow (.queue (calls.length + 1))]) := by
  funext name
  cases name with
  | queue index =>
    rcases Nat.lt_trichotomy index calls.length with earlier | rfl | later
    · simp [heapOf, queueState, earlier.ne, List.getElem?_append_left earlier]
    · simp [heapOf, queueState, behind]
    · have missing : calls[index]? = none := List.getElem?_eq_none later.le
      have beyond : (calls ++ [call])[index]? = none :=
        List.getElem?_eq_none (by simpa using later)
      simp [heapOf, queueState, later.ne', missing, beyond]
  | result index =>
    have bound := settled_bound phase
    have inside : (past ++ phase.settled.toList).length ≤ calls.length := by
      rw [List.length_append]
      omega
    simp [heapOf, result_call calls past phase call index inside, Function.update_apply]
  | native index => simp [heapOf]

/-- A call to an idle client is scheduled at once. -/
theorem heap_call_idle (call : τ × ω) (same : past.length = calls.length) :
    heapOf object (calls ++ [call]) past .scheduled =
      Function.update (heapOf object calls past .idle) (.result calls.length)
        (.pending [.handlers .swallow .swallow (.queue (calls.length + 1))]) := by
  funext name
  cases name with
  | queue index =>
    by_cases earlier : index ≤ past.length
    · simp [heapOf, queueState, earlier]
    · have missing : calls[index]? = none := List.getElem?_eq_none (by omega)
      have beyond : (calls ++ [call])[index]? = none := List.getElem?_eq_none (by simp; omega)
      simp [heapOf, queueState, missing, beyond]
  | result index =>
    have inside : (past ++ (Phase.scheduled : Phase ν κ).settled.toList).length ≤ calls.length := by
      simp [same]
    simp only [heapOf, result_call calls past .scheduled call index inside, Function.update_apply,
      PromiseName.result.injEq]
    simp [resultState]
  | native index => simp [heapOf, nativeState, Phase.native]

/-- Phases differ in the current native promise while the result is unsettled. -/
theorem heap_native (before after : Phase ν κ) (openBefore : before.settled = none)
    (openAfter : after.settled = none) :
    heapOf object calls past after =
      Function.update (heapOf object calls past before) (.native past.length)
        (after.native past.length) := by
  funext name
  cases name with
  | queue index => simp [heapOf]
  | result index => simp [heapOf, resultState, openBefore, openAfter]
  | native index =>
    by_cases current : index = past.length
    · simp [heapOf, nativeState, current]
    · simp [heapOf, nativeState, current]

/-- Settling the current result leads to the last phase of a call. -/
theorem heap_swallowing (before : Phase ν κ) (settlement : Settlement ν κ)
    (openBefore : before.settled = none)
    (native : (before.native past.length : PromiseState PromiseName (Handler τ) ν) = settlement.native) :
    heapOf object calls past (.swallowing settlement) =
      Function.update (heapOf object calls past before) (.result past.length)
        (.settled settlement.outcome) := by
  funext name
  cases name with
  | queue index => simp [heapOf]
  | result index =>
    rcases Nat.lt_trichotomy index past.length with earlier | rfl | later
    · simp [heapOf, resultState, openBefore, earlier.ne, List.getElem?_append_left earlier]
    · simp [heapOf, resultState]
    · have beyond : (past ++ [settlement])[index]? = none := List.getElem?_eq_none (by simpa using later)
      have missing : past[index]? = none := List.getElem?_eq_none later.le
      simp [heapOf, resultState, openBefore, later.ne', beyond, missing]
  | native index => simp [heapOf, nativeState, native]

/-- The end of a call settles the queue for the next one. The settlement joins the past, so the
promises of the call are the same ones read from the list instead of the phase. -/
theorem heap_advance (settlement : Settlement ν κ) (after : Phase ν κ)
    (openAfter : after.settled = none)
    (fresh : (after.native (past.length + 1) : PromiseState PromiseName (Handler τ) ν) = .pending []) :
    heapOf object calls (past ++ [settlement]) after =
      Function.update (heapOf object calls past (.swallowing settlement)) (.queue (past.length + 1))
        (.settled (.fulfilled object.undefined)) := by
  funext name
  cases name with
  | queue index =>
    by_cases next : index = past.length + 1
    · simp [heapOf, queueState, next]
    · have order : index ≤ past.length + 1 ↔ index ≤ past.length := by omega
      simp [heapOf, queueState, next, order]
  | result index => simp [heapOf, resultState, openAfter]
  | native index =>
    rcases Nat.lt_trichotomy index past.length with earlier | rfl | later
    · simp [heapOf, nativeState, List.getElem?_append_left earlier, earlier]
    · simp [heapOf, nativeState]
    · have beyond : (past ++ [settlement])[index]? = none := List.getElem?_eq_none (by simpa using later)
      have missing : past[index]? = none := List.getElem?_eq_none later.le
      simp [heapOf, nativeState, beyond, missing, later.ne', fresh]

/-- One more call does not touch the queued job while another call is current. -/
theorem jobs_call_behind (call : τ × ω) (behind : past.length < calls.length) :
    jobsOf object (calls ++ [call]) past phase = jobsOf object calls past phase := by
  cases phase <;> simp [jobsOf, List.getElem?_append_left behind]

/-- The result of the current call only waits to be swallowed. -/
theorem result_current (unsettled : phase.settled = none) (inside : past.length < calls.length) :
    heapOf object calls past phase (.result past.length) =
      .pending [.handlers .swallow .swallow (.queue (past.length + 1))] := by
  simp [heapOf, resultState, unsettled, openResult, inside]

/-- The native promise of the current call is the one its phase says. -/
theorem native_current :
    heapOf object calls past phase (.native past.length) = phase.native past.length := by
  simp [heapOf, nativeState]

/-- The queue behind the current call waits with the next task, where there is one. -/
theorem queue_next :
    heapOf object calls past phase (.queue (past.length + 1)) =
      match calls[past.length + 1]? with
      | some call => .pending [.handlers (.task call.1 (past.length + 1))
          (.task call.1 (past.length + 1)) (.result (past.length + 1))]
      | none => .pending [] := by
  simp [heapOf, queueState]

end Heap

section Started

variable (past : List (Settlement ν κ)) (before after : Phase ν κ)

/-- Phases in which the native method did the same have the same record of starts. -/
theorem started_same (same : after.begun = before.begun) :
    startedOf past after = startedOf past before := by
  simp [startedOf, same]

/-- Calling a native method adds the current call to the record. -/
theorem started_append (begun : Begun ν κ) (notYet : before.begun = none)
    (now : after.begun = some begun) :
    startedOf past after = startedOf past before ++ [(begun, past.length)] := by
  simp [startedOf, notYet, now, List.zipIdx_append]

/-- Going on to the next call adds nothing. -/
theorem started_advance (settlement : Settlement ν κ) (notYet : after.begun = none)
    (now : before.begun = some settlement.begun) :
    startedOf (past ++ [settlement]) after = startedOf past before := by
  simp [startedOf, notYet, now]

/-- What the record says of a call: it is over, or it is the current one. -/
theorem mem_started_iff (begun : Begun ν κ) (index : Nat) :
    (begun, index) ∈ startedOf past after ↔
      (∃ settlement, past[index]? = some settlement ∧ settlement.begun = begun) ∨
        (index = past.length ∧ after.begun = some begun) := by
  rw [startedOf, List.mk_mem_zipIdx_iff_getElem?]
  rcases Nat.lt_trichotomy index past.length with earlier | rfl | later
  · simp [List.getElem?_append_left, earlier, earlier.ne]
  · have missing : past[past.length]? = none := List.getElem?_eq_none le_rfl
    rw [List.getElem?_append_right (by simp), List.length_map, Nat.sub_self]
    cases current : after.begun <;> simp
  · have missing : past[index]? = none := List.getElem?_eq_none later.le
    have beyond : (past.map Settlement.begun ++ after.begun.toList)[index]? = none := by
      apply List.getElem?_eq_none
      have bound := Option.length_toList_le (o := after.begun)
      simp only [List.length_append, List.length_map]
      omega
    simp [missing, beyond, later.ne']

end Started

section Steps

variable (object : Native τ ω ν κ)

/-- A call made while another is current waits behind it; an idle client schedules it. The first
registers its task on the queue, which is pending; the second finds the queue settled, so its
task becomes the one job. -/
theorem call_shape (task : τ) (system : System τ ω ν κ) (past : List (Settlement ν κ))
    (phase : Phase ν κ) (shape : Shape object system past phase) :
    ∃ after, Shape object (act object system (.call task)) past after ∧ after.begun = phase.begun := by
  obtain ⟨client, promises⟩ := system
  obtain ⟨position, viaPromise, queue, started, known⟩ := shape
  simp only at position queue started known
  subst known
  by_cases idle : phase = .idle
  · subst idle
    have same : past.length = client.calls.length := position
    have queueEnd : heapOf object client.calls past .idle (.queue client.calls.length) =
        .settled (.fulfilled object.undefined) := by
      simp [heapOf, queueState, same]
    have resultEnd := result_end object client.calls past .idle (by simp [same])
    refine ⟨.scheduled, ⟨?_, trivial, ?_, ?_, ?_⟩, rfl⟩
    · simp [act, enqueue, Phase.At, same]
    · simp [act, enqueue]
    · exact started.trans (started_same past .idle .scheduled rfl).symm
    · simp only [act, enqueue, Promises.andThen, queue]
      rw [react_settled _ _ _ _ _ queueEnd, react_pending _ _ _ _ [] resultEnd,
        heap_call_idle object client.calls past (task, client.memory) same]
      simp [jobsOf, same, Reaction.job]
  · have behind := (at_busy_iff phase _ _ idle).mp position
    have bound := settled_bound phase
    have inside : (past ++ phase.settled.toList).length ≤ client.calls.length := by
      rw [List.length_append]
      omega
    have queueEnd := queue_end object client.calls past phase behind
    have resultEnd := result_end object client.calls past phase inside
    refine ⟨phase, ⟨?_, viaPromise, ?_, ?_, ?_⟩, rfl⟩
    · rw [at_busy_iff phase _ _ idle]
      simp only [act, enqueue, List.length_append, List.length_singleton]
      omega
    · simp [act, enqueue]
    · simpa [act, enqueue] using started
    · simp only [act, enqueue, Promises.andThen, queue]
      rw [react_pending _ _ _ _ [] queueEnd, react_pending _ _ _ _ [] (by simpa using resultEnd),
        heap_call_behind object client.calls past phase (task, client.memory) behind,
        jobs_call_behind object client.calls past phase (task, client.memory) behind]
      simp

/-- The task of the current call runs: its native method throws, returns a rejected
promise, or starts an operation. -/
theorem job_scheduled (system : System τ ω ν κ) (past : List (Settlement ν κ))
    (shape : Shape object system past .scheduled) :
    ∃ call after, system.1.calls[past.length]? = some call ∧
      Shape object (act object system .job) past after ∧
      after.begun = some (begins object system.1 call.1) ∧ after.rank < 5 := by
  obtain ⟨client, promises⟩ := system
  obtain ⟨position, viaPromise, queue, started, known⟩ := shape
  simp only at position queue started known
  subst known
  have inside : past.length < client.calls.length := position
  have found : client.calls[past.length]? = some client.calls[past.length] :=
    List.getElem?_eq_getElem inside
  have native := native_current object client.calls past .scheduled
  have result := result_current object client.calls past .scheduled rfl position
  refine ⟨client.calls[past.length], ?_⟩
  have acted : act object (client, ⟨heapOf object client.calls past .scheduled,
        jobsOf object client.calls past .scheduled⟩) .job =
      ((callNative object client.calls[past.length].1 past.length
          (client, ⟨heapOf object client.calls past .scheduled, []⟩)).1.1,
        (callNative object client.calls[past.length].1 past.length
          (client, ⟨heapOf object client.calls past .scheduled, []⟩)).1.2.resolve
          (.result past.length) (callNative object client.calls[past.length].1 past.length
          (client, ⟨heapOf object client.calls past .scheduled, []⟩)).2) := by
    simp only [act, runJob, jobsOf, found, handle]
  rw [acted]
  cases begun : begins object client client.calls[past.length].1 with
  | threw reason =>
    let settlement : Settlement ν κ := ⟨.threw reason, .rejected reason, rfl⟩
    refine ⟨.swallowing settlement, found, ⟨?_, trivial, ?_, ?_, ?_⟩, rfl, by simp [Phase.rank]⟩
    · simpa [callNative, begun, Phase.At] using inside
    · simpa [callNative, begun] using queue
    · simp only [callNative, begun, started]
      exact (started_append past .scheduled (.swallowing settlement) _ rfl rfl).symm
    · simp only [callNative, begun, Promises.resolve]
      rw [settle_pending _ _ _ _ _ result,
        heap_swallowing object client.calls past .scheduled settlement rfl rfl]
      rfl
  | refused reason =>
    let settlement : Settlement ν κ := ⟨.refused reason, .rejected reason, rfl⟩
    refine ⟨.returned settlement, found, ⟨?_, ?_, ?_, ?_, ?_⟩, rfl, by simp [Phase.rank]⟩
    · simpa [callNative, begun, Phase.At] using inside
    · simp [Phase.ViaPromise, Settlement.ViaPromise, settlement]
    · simpa [callNative, begun] using queue
    · simp only [callNative, begun, started]
      exact (started_append past .scheduled (.returned settlement) _ rfl rfl).symm
    · simp only [callNative, begun, Promises.resolve]
      rw [settle_pending _ _ _ _ [] native,
        heap_native object client.calls past .scheduled (.returned settlement) rfl rfl]
      rfl
  | operates operation =>
    refine ⟨.called operation, found, ⟨?_, trivial, ?_, ?_, ?_⟩, rfl, by simp [Phase.rank]⟩
    · simpa [callNative, begun, Phase.At] using inside
    · simpa [callNative, begun] using queue
    · simp only [callNative, begun, started]
      exact (started_append past .scheduled (.called operation) _ rfl rfl).symm
    · simp only [callNative, begun, Promises.resolve]
      rw [heap_native object client.calls past .scheduled (.called operation) rfl rfl]
      simp [native, Phase.native, jobsOf]

/-- The result of the current call follows the native promise, or is passed its outcome. -/
theorem job_called (system : System τ ω ν κ) (past : List (Settlement ν κ)) (operation : κ)
    (shape : Shape object system past (.called operation)) :
    Shape object (act object system .job) past (.waiting operation) := by
  obtain ⟨client, promises⟩ := system
  obtain ⟨position, viaPromise, queue, started, known⟩ := shape
  simp only at position queue started known
  subst known
  have native := native_current object client.calls past (.called operation)
  refine ⟨position, trivial, queue, started, ?_⟩
  simp only [act, runJob, jobsOf]
  rw [react_pending _ _ _ _ [] native,
    heap_native object client.calls past (.called operation) (.waiting operation) rfl rfl]
  simp [Phase.native]

/-- The job of a returned promise passes its outcome on to the result. -/
theorem job_returned (system : System τ ω ν κ) (past : List (Settlement ν κ))
    (settlement : Settlement ν κ) (shape : Shape object system past (.returned settlement)) :
    Shape object (act object system .job) past (.passing settlement) := by
  obtain ⟨client, promises⟩ := system
  obtain ⟨position, viaPromise, queue, started, known⟩ := shape
  simp only at position queue started known
  subst known
  have native := native_current object client.calls past (.returned settlement)
  refine ⟨position, viaPromise, queue, started, ?_⟩
  simp only [act, runJob, jobsOf]
  rw [react_settled _ _ _ _ _ native,
    heap_native object client.calls past (.returned settlement) (.passing settlement) rfl rfl]
  simp [Phase.native, Reaction.job, native]

/-- The result is settled, and the swallowing reaction becomes the next job. -/
theorem job_passing (system : System τ ω ν κ) (past : List (Settlement ν κ))
    (settlement : Settlement ν κ) (shape : Shape object system past (.passing settlement)) :
    Shape object (act object system .job) past (.swallowing settlement) := by
  obtain ⟨client, promises⟩ := system
  obtain ⟨position, viaPromise, queue, started, known⟩ := shape
  simp only at position queue started known
  subst known
  have result := result_current object client.calls past (.passing settlement) rfl position
  refine ⟨position, trivial, queue, started, ?_⟩
  simp only [act, runJob, jobsOf]
  rw [settle_pending _ _ _ _ _ result, heap_swallowing object client.calls past
    (.passing settlement) settlement rfl (native_via_promise settlement viaPromise).symm]
  cases settlement.outcome <;> simp [Reaction.job]

/-- The queue goes on to the next call, or the client becomes idle. The queue promise of the next
call is settled. If there is one, its task was waiting there and becomes the job; if there is
none, no job is left. -/
theorem job_swallowing (system : System τ ω ν κ) (past : List (Settlement ν κ))
    (settlement : Settlement ν κ) (shape : Shape object system past (.swallowing settlement)) :
    ∃ after, Shape object (act object system .job) (past ++ [settlement]) after ∧
      (after = .idle ∨ after = .scheduled) := by
  obtain ⟨client, promises⟩ := system
  obtain ⟨position, viaPromise, queue, started, known⟩ := shape
  simp only at position queue started known
  subst known
  have next := queue_next object client.calls past (.swallowing settlement)
  cases last : client.calls[past.length + 1]? with
  | none =>
    rw [last] at next
    have whole : past.length + 1 = client.calls.length := by
      have bound := List.getElem?_eq_none_iff.mp last
      have inside : past.length < client.calls.length := position
      omega
    have acted : act object (client, ⟨heapOf object client.calls past (.swallowing settlement),
          jobsOf object client.calls past (.swallowing settlement)⟩) .job =
        (client, ⟨heapOf object client.calls (past ++ [settlement]) .idle,
          jobsOf object client.calls (past ++ [settlement]) .idle⟩) := by
      simp only [act, runJob, jobsOf, handle, Promises.resolve]
      rw [settle_pending _ _ _ _ _ next, heap_advance object client.calls past settlement .idle rfl rfl]
      simp
    rw [acted]
    refine ⟨.idle, ⟨?_, trivial, queue, ?_, rfl⟩, .inl rfl⟩
    · simpa [Phase.At] using whole
    · exact started.trans (started_advance past (.swallowing settlement) .idle settlement rfl rfl).symm
  | some call =>
    rw [last] at next
    have more : past.length + 1 < client.calls.length := (List.getElem?_eq_some_iff.mp last).1
    have acted : act object (client, ⟨heapOf object client.calls past (.swallowing settlement),
          jobsOf object client.calls past (.swallowing settlement)⟩) .job =
        (client, ⟨heapOf object client.calls (past ++ [settlement]) .scheduled,
          jobsOf object client.calls (past ++ [settlement]) .scheduled⟩) := by
      simp only [act, runJob, jobsOf, handle, Promises.resolve]
      rw [settle_pending _ _ _ _ _ next,
        heap_advance object client.calls past settlement .scheduled rfl rfl]
      simp [Reaction.job, last]
    rw [acted]
    refine ⟨.scheduled, ⟨?_, trivial, queue, ?_, rfl⟩, .inr rfl⟩
    · simpa [Phase.At] using more
    · exact started.trans
        (started_advance past (.swallowing settlement) .scheduled settlement rfl rfl).symm

/-- A worker that finishes settles the native promise of the current call, or nothing. Where the
operation is still being returned, the outcome is kept until the promise is; where the result
already follows it, a job passes the outcome on. A worker of no current call finds its promise
settled. -/
theorem finish_shape (index : Nat) (outcome : Outcome ν) (system : System τ ω ν κ)
    (past : List (Settlement ν κ)) (phase : Phase ν κ) (shape : Shape object system past phase) :
    ∃ after, Shape object (act object system (.finish index outcome)) past after ∧
      after.begun = phase.begun := by
  cases operating : operates system.1 index with
  | false => exact ⟨phase, by simpa [act, operating] using shape, rfl⟩
  | true =>
    have unchanged (settled : ∃ earlier, system.2.heap (.native index) = .settled earlier) :
        ∃ after, Shape object (act object system (.finish index outcome)) past after ∧
          after.begun = phase.begun := by
      obtain ⟨earlier, settled⟩ := settled
      refine ⟨phase, ?_, rfl⟩
      simpa [act, operating, Promises.settle, settled] using shape
    obtain ⟨client, promises⟩ := system
    obtain ⟨position, viaPromise, queue, started, known⟩ := shape
    simp only at position queue started known
    subst known
    obtain ⟨operation, entry⟩ : ∃ operation, (.operates operation, index) ∈ startedOf past phase := by
      rw [← started]
      obtain ⟨⟨begun, number⟩, member, matched⟩ := List.any_eq_true.mp operating
      cases begun with
      | threw reason => cases matched
      | refused reason => cases matched
      | operates operation =>
        obtain rfl : number = index := by simpa using matched
        exact ⟨operation, member⟩
    rcases (mem_started_iff past phase (.operates operation) index).mp entry with
      ⟨settlement, before, begun⟩ | ⟨rfl, begun⟩
    · exact unchanged ⟨settlement.outcome, by
        simp [heapOf, nativeState, before, Settlement.native, begun]⟩
    · have native := native_current object client.calls past phase
      cases phase with
      | idle => cases begun
      | scheduled => cases begun
      | called worked =>
        have acted : act object (client, ⟨heapOf object client.calls past (.called worked),
              jobsOf object client.calls past (.called worked)⟩) (.finish past.length outcome) =
            (client, ⟨heapOf object client.calls past (.returned ⟨.operates worked, outcome, trivial⟩),
              jobsOf object client.calls past (.returned ⟨.operates worked, outcome, trivial⟩)⟩) := by
          rw [act, if_pos operating, settle_pending _ _ _ _ _ native,
            heap_native object client.calls past (.called worked) (.returned _) rfl rfl]
          simp [jobsOf, Phase.native]
        rw [acted]
        refine ⟨.returned ⟨.operates worked, outcome, trivial⟩, ⟨position, ?_, queue, ?_, rfl⟩, rfl⟩
        · simp [Phase.ViaPromise, Settlement.ViaPromise]
        · exact started.trans (started_same past (.called worked) (.returned _) rfl).symm
      | returned settlement => exact unchanged ⟨settlement.outcome, native⟩
      | waiting worked =>
        have acted : act object (client, ⟨heapOf object client.calls past (.waiting worked),
              jobsOf object client.calls past (.waiting worked)⟩) (.finish past.length outcome) =
            (client, ⟨heapOf object client.calls past (.passing ⟨.operates worked, outcome, trivial⟩),
              jobsOf object client.calls past (.passing ⟨.operates worked, outcome, trivial⟩)⟩) := by
          rw [act, if_pos operating, settle_pending _ _ _ _ _ native,
            heap_native object client.calls past (.waiting worked) (.passing _) rfl rfl]
          simp [jobsOf, Phase.native, Reaction.job]
        rw [acted]
        refine ⟨.passing ⟨.operates worked, outcome, trivial⟩, ⟨position, ?_, queue, ?_, rfl⟩, rfl⟩
        · simp [Phase.ViaPromise, Settlement.ViaPromise]
        · exact started.trans (started_same past (.waiting worked) (.passing _) rfl).symm
      | passing settlement => exact unchanged ⟨settlement.outcome, native⟩
      | swallowing settlement =>
        exact unchanged ⟨settlement.outcome, by
          refine native.trans ?_
          rw [swallowing_native, Settlement.native, Option.some.inj begun]⟩

/-- How many jobs the client can still run, counting every call that is not over. -/
def weight (calls : Nat) (past : List (Settlement ν κ)) (phase : Phase ν κ) : Nat :=
  6 * (calls - past.length) + phase.rank

/-- A job changes nothing in the client but the record of native calls. -/
theorem job_client (system : System τ ω ν κ) :
    ∃ started, (act object system .job).1 = { system.1 with started } := by
  simp only [act, runJob]
  split
  · exact ⟨system.1.started, rfl⟩
  · rename_i handler argument target rest queued
    cases handler with
    | swallow => exact ⟨system.1.started, rfl⟩
    | task task index =>
      refine ⟨system.1.started ++ [(begins object system.1 task, index)], ?_⟩
      simp only [handle, callNative]
      split <;> rfl
  · exact ⟨system.1.started, rfl⟩
  · exact ⟨system.1.started, rfl⟩

/-- Running a job registers no call. -/
theorem job_calls (system : System τ ω ν κ) : (act object system .job).1.calls = system.1.calls := by
  obtain ⟨started, same⟩ := job_client object system
  rw [same]

/-- Calls are only ever added. -/
theorem act_calls (system : System τ ω ν κ) (action : Action τ ω ν) :
    ∃ extra, (act object system action).1.calls = system.1.calls ++ extra := by
  cases action with
  | call task => exact ⟨[(task, system.1.memory)], rfl⟩
  | job => exact ⟨[], by rw [job_calls, List.append_nil]⟩
  | finish index outcome =>
    simp only [act]
    split <;> exact ⟨[], by simp⟩
  | close => exact ⟨[], by simp [act]⟩
  | write memory => exact ⟨[], by simp [act]⟩

/-- Without a job nothing happens. -/
theorem job_quiet (system : System τ ω ν κ) (past : List (Settlement ν κ)) (phase : Phase ν κ)
    (shape : Shape object system past phase)
    (none : jobsOf object system.1.calls past phase = []) : act object system .job = system := by
  rw [act, runJob, shape.promises]
  simp only [none]

/-- A job, where there is one, leads on and leaves fewer to run. The cases are the phases that
have a job, each with its own lemma; the weight of a phase is what is left of a call in jobs. -/
theorem job_shape (system : System τ ω ν κ) (past : List (Settlement ν κ)) (phase : Phase ν κ)
    (shape : Shape object system past phase) :
    (act object system .job = system ∧ (phase = .idle ∨ ∃ operation, phase = .waiting operation)) ∨
      ∃ pastAfter after, Shape object (act object system .job) pastAfter after ∧
        weight system.1.calls.length pastAfter after < weight system.1.calls.length past phase := by
  cases phase with
  | idle => exact .inl ⟨job_quiet object system past .idle shape rfl, .inl rfl⟩
  | waiting operation =>
    exact .inl ⟨job_quiet object system past (.waiting operation) shape rfl, .inr ⟨operation, rfl⟩⟩
  | scheduled =>
    obtain ⟨call, after, -, next, -, lower⟩ := job_scheduled object system past shape
    exact .inr ⟨past, after, next, by simpa [weight, Phase.rank] using lower⟩
  | called operation =>
    exact .inr ⟨past, _, job_called object system past operation shape, by simp [weight, Phase.rank]⟩
  | returned settlement =>
    exact .inr ⟨past, _, job_returned object system past settlement shape, by
      simp [weight, Phase.rank]⟩
  | passing settlement =>
    exact .inr ⟨past, _, job_passing object system past settlement shape, by
      simp [weight, Phase.rank]⟩
  | swallowing settlement =>
    obtain ⟨after, next, idle⟩ := job_swallowing object system past settlement shape
    have inside : past.length < system.1.calls.length := shape.position
    refine .inr ⟨_, after, next, ?_⟩
    rcases idle with rfl | rfl <;> simp [weight, Phase.rank] <;> omega

/-- Every action leads from one state of the chain to another. -/
theorem act_shape (system : System τ ω ν κ) (action : Action τ ω ν) (past : List (Settlement ν κ))
    (phase : Phase ν κ) (shape : Shape object system past phase) :
    ∃ pastAfter after, Shape object (act object system action) pastAfter after := by
  cases action with
  | call task =>
    obtain ⟨after, next, -⟩ := call_shape object task system past phase shape
    exact ⟨past, after, next⟩
  | job =>
    rcases job_shape object system past phase shape with ⟨same, -⟩ | ⟨pastAfter, after, next, -⟩
    · exact ⟨past, phase, by rw [same]; exact shape⟩
    · exact ⟨pastAfter, after, next⟩
  | finish index outcome =>
    obtain ⟨after, next, -⟩ := finish_shape object index outcome system past phase shape
    exact ⟨past, after, next⟩
  | close => exact ⟨past, phase, shape.position, shape.viaPromise, shape.queue, shape.started,
      shape.promises⟩
  | write memory => exact ⟨past, phase, shape.position, shape.viaPromise, shape.queue, shape.started,
      shape.promises⟩

/-- A new client is idle. -/
theorem new_client_shape (memory : ω) : Shape object (newClient object memory) [] .idle := by
  refine ⟨rfl, trivial, rfl, rfl, ?_⟩
  simp only [newClient, jobsOf, Promises.mk.injEq, and_true]
  funext name
  cases name with
  | queue index => simp [heapOf, queueState, Function.update_apply]
  | result index => simp [heapOf, resultState, openResult]
  | native index => simp [heapOf, nativeState, Phase.native]

end Steps

end NodeWireguard.CallChain
