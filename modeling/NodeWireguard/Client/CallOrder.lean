import Mathlib
import NodeWireguard.Client.CallChain

/-!
# Calls run one at a time, in order

What a caller may rely on, in terms of native methods called, operations in flight and
promises settled. Mutual exclusion, order and isolation are read off the state of the
chain; progress because every job leaves fewer to run; and a closed client starts no
operation because its methods refuse.
-/

namespace NodeWireguard.CallOrder

open PromiseJobs CallQueue CallChain

variable {τ ω ν κ : Type}

/-- The native method of the call started an operation that is not settled yet. -/
def InFlight (system : System τ ω ν κ) (index : Nat) : Prop :=
  (∃ operation, (.operates operation, index) ∈ system.1.started) ∧
    ∃ reactions, system.2.heap (.native index) = .pending reactions

/-- The promise the call returned is settled. It then stays so, with the same outcome. -/
def Settled (system : System τ ω ν κ) (index : Nat) : Prop :=
  ∃ outcome, system.2.heap (.result index) = .settled outcome

/-- The native method of the call was called. This happens in the job of the call's task, never
in the call itself. -/
def Started (system : System τ ω ν κ) (index : Nat) : Prop :=
  ∃ begun, (begun, index) ∈ system.1.started

/-- The outcome of the call's own task: what it threw or was refused with, or what its
native promise was settled with. -/
def OwnOutcome (system : System τ ω ν κ) (index : Nat) (outcome : Outcome ν) : Prop :=
  ∃ begun, (begun, index) ∈ system.1.started ∧
    match begun with
    | .threw reason | .refused reason => outcome = .rejected reason
    | .operates _ => system.2.heap (.native index) = .settled outcome

/-- What holds in every state of a client. The parts are what a caller who does not wait for each
call relies on. -/
structure Serialized (system : System τ ω ν κ) : Prop where
  oneInFlight : ∀ first second, InFlight system first → InFlight system second → first = second
  inOrder : system.1.started.map Prod.snd = List.range system.1.started.length
  afterEarlier : ∀ index, Started system index → ∀ earlier < index,
    Settled system earlier ∧ ¬ InFlight system earlier
  ownOutcome : ∀ index outcome, system.2.heap (.result index) = .settled outcome →
    OwnOutcome system index outcome

section Chain

variable (object : Native τ ω ν κ) (system : System τ ω ν κ) (past : List (Settlement ν κ))
  (phase : Phase ν κ) (shape : Shape object system past phase)

include shape

/-- The calls whose native method was called: those that are over, and the current one once its
method did something. -/
theorem started_iff (index : Nat) :
    Started system index ↔ index < past.length ∨ (index = past.length ∧ phase.begun.isSome) := by
  simp only [Started, shape.started, mem_started_iff, exists_or, Option.isSome_iff_exists]
  constructor
  · rintro (⟨begun, settlement, found, -⟩ | ⟨begun, rfl, now⟩)
    · exact .inl (List.getElem?_eq_some_iff.mp found).1
    · exact .inr ⟨rfl, begun, now⟩
  · rintro (inside | ⟨rfl, begun, now⟩)
    · exact .inl ⟨_, past[index], List.getElem?_eq_getElem inside, rfl⟩
    · exact .inr ⟨begun, rfl, now⟩

/-- The result of a call that is over is settled. -/
theorem past_settled (index : Nat) (inside : index < past.length) : Settled system index := by
  refine ⟨past[index].outcome, ?_⟩
  rw [shape.promises]
  simp [heapOf, resultState, List.getElem?_append_left inside, inside]

/-- Only the current call can be in flight, while its operation runs. Calls that are over have
settled native promises, and calls behind the current one have no record of a start. -/
theorem in_flight_current (index : Nat) (flying : InFlight system index) :
    index = past.length ∧
      ((∃ operation, phase = .called operation) ∨ ∃ operation, phase = .waiting operation) := by
  obtain ⟨⟨operation, entry⟩, reactions, pending⟩ := flying
  rw [shape.started] at entry
  rw [shape.promises] at pending
  rcases (mem_started_iff past phase (.operates operation) index).mp entry with
    ⟨settlement, found, begun⟩ | ⟨rfl, begun⟩
  · simp [heapOf, nativeState, found, Settlement.native, begun] at pending
  · replace pending := (native_current object system.1.calls past phase).symm.trans pending
    refine ⟨rfl, ?_⟩
    cases phase with
    | idle => cases begun
    | scheduled => cases begun
    | called operation => exact .inl ⟨operation, rfl⟩
    | waiting operation => exact .inr ⟨operation, rfl⟩
    | returned settlement => cases pending
    | passing settlement => cases pending
    | swallowing settlement =>
      rw [swallowing_native, Settlement.native, Option.some.inj begun] at pending
      cases pending

/-- A call with a settled result is on record, with its native promise. -/
theorem settled_entry (index : Nat) (settlement : Settlement ν κ)
    (found : (past ++ phase.settled.toList)[index]? = some settlement) :
    (settlement.begun, index) ∈ system.1.started ∧
      system.2.heap (.native index) = settlement.native := by
  rw [shape.started, mem_started_iff, shape.promises]
  by_cases inside : index < past.length
  · rw [List.getElem?_append_left inside] at found
    exact ⟨.inl ⟨settlement, found, rfl⟩, by simp [heapOf, nativeState, found]⟩
  · rw [List.getElem?_append_right (not_lt.mp inside)] at found
    cases phase with
    | swallowing current =>
      obtain ⟨position, same⟩ := List.getElem?_eq_some_iff.mp found
      simp only [swallowing_settled, Option.toList_some, List.length_singleton] at position same
      obtain rfl : index = past.length := by omega
      obtain rfl : current = settlement := by simpa using same
      exact ⟨.inr ⟨rfl, rfl⟩, native_current object system.1.calls past (.swallowing current)⟩
    | _ => simp [Phase.settled] at found

/-- Every state of the chain is as it should be. The parts are read off the shape: the record of
starts is a list of consecutive calls, of which all but the last are over. -/
theorem chain_serialized : Serialized system where
  oneInFlight first second flyingFirst flyingSecond :=
    (in_flight_current object system past phase shape first flyingFirst).1.trans
      (in_flight_current object system past phase shape second flyingSecond).1.symm
  inOrder := by
    rw [shape.started, startedOf, List.zipIdx_map_snd, List.length_zipIdx, List.range_eq_range']
  afterEarlier index started earlier before := by
    have inside : earlier < past.length := by
      rcases (started_iff object system past phase shape index).mp started with before | ⟨current, -⟩
      · omega
      · omega
    refine ⟨past_settled object system past phase shape earlier inside, ?_⟩
    intro flying
    have current := (in_flight_current object system past phase shape earlier flying).1
    omega
  ownOutcome index outcome settled := by
    obtain ⟨settlement, found, rfl⟩ : ∃ settlement,
        (past ++ phase.settled.toList)[index]? = some settlement ∧ settlement.outcome = outcome := by
      rw [shape.promises] at settled
      simp only [heapOf, resultState] at settled
      split at settled
      · rename_i settlement found
        exact ⟨settlement, found, by simpa using settled⟩
      · simp only [openResult] at settled
        split at settled <;> cases settled
    obtain ⟨entry, native⟩ := settled_entry object system past phase shape index settlement found
    refine ⟨settlement.begun, entry, ?_⟩
    have owned := settlement.owned
    unfold Settlement.native at native
    cases begun : settlement.begun with
    | threw reason => simpa [Owns, begun] using owned
    | refused reason => simpa [Owns, begun] using owned
    | operates operation => simpa [begun] using native

end Chain

section Progress

variable (object : Native τ ω ν κ)

/-- An action calls at most the native method of the next call, with the memory of that
moment. -/
theorem act_starts (system : System τ ω ν κ) (action : Action τ ω ν)
    (past : List (Settlement ν κ)) (phase : Phase ν κ) (shape : Shape object system past phase) :
    (act object system action).1.started = system.1.started ∨
      ∃ call, action = .job ∧ system.1.calls[system.1.started.length]? = some call ∧
        (act object system action).1.started =
          system.1.started ++ [(begins object system.1 call.1, system.1.started.length)] := by
  cases action with
  | call task => exact .inl rfl
  | close => exact .inl rfl
  | write memory => exact .inl rfl
  | finish index outcome =>
    simp only [act]
    split <;> exact .inl rfl
  | job =>
    cases phase with
    | scheduled =>
      obtain ⟨call, after, found, next, begun, -⟩ := job_scheduled object system past shape
      have length : system.1.started.length = past.length := by
        simp [shape.started, startedOf, Phase.begun]
      refine .inr ⟨call, rfl, by rw [length]; exact found, ?_⟩
      rw [length, next.started, shape.started]
      exact started_append past .scheduled after _ rfl begun
    | idle => exact .inl (by rw [job_quiet object system past .idle shape rfl])
    | waiting operation =>
      exact .inl (by rw [job_quiet object system past (.waiting operation) shape rfl])
    | called operation =>
      refine .inl ?_
      rw [(job_called object system past operation shape).started, shape.started]
      exact started_same past _ _ rfl
    | returned settlement =>
      refine .inl ?_
      rw [(job_returned object system past settlement shape).started, shape.started]
      exact started_same past _ _ rfl
    | passing settlement =>
      refine .inl ?_
      rw [(job_passing object system past settlement shape).started, shape.started]
      exact started_same past _ _ rfl
    | swallowing settlement =>
      obtain ⟨after, next, idle⟩ := job_swallowing object system past settlement shape
      refine .inl ?_
      rw [next.started, shape.started]
      rcases idle with rfl | rfl
      · exact started_advance past _ _ settlement rfl rfl
      · exact started_advance past _ _ settlement rfl rfl

end Progress

end NodeWireguard.CallOrder
