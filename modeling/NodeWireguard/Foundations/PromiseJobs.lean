import Mathlib

/-!
# Promises and their job queue

The part of ECMAScript's promises that `then` and settlement use. A promise is pending
with the reactions registered on it, or settled for good. Reacting is never immediate: a
reaction to a settled promise becomes a job, and jobs run one at a time, in order.

A handler that returns a promise does not settle its target; a job of its own makes the
target follow the returned promise. Handlers run in a world of the client's choosing.
-/

namespace NodeWireguard.PromiseJobs

/-- How a promise was settled. A promise settled once keeps it. -/
inductive Outcome (ν : Type) where
  | fulfilled (value : ν)
  | rejected (reason : ν)
  deriving DecidableEq

/-- How a handler ended. A value settles the result at once; a promise is followed, which takes
jobs of its own. -/
inductive Completion (ι ν : Type) where
  | threw (reason : ν)
  | value (value : ν)
  | promise (returned : ι)

/-- What is registered on a pending promise: the two handlers of a `then` with the promise
it returned, or a promise that follows this one. -/
inductive Reaction (ι η : Type) where
  | handlers (onFulfilled onRejected : η) (target : ι)
  | follow (target : ι)
  deriving DecidableEq

/-- A promise: pending with the reactions registered on it, or settled. -/
inductive PromiseState (ι η ν : Type) where
  | pending (reactions : List (Reaction ι η))
  | settled (outcome : Outcome ν)

/-- A job: run a handler, settle a promise that followed another, or make one promise
follow another. -/
inductive Job (ι η ν : Type) where
  | run (handler : η) (argument : Outcome ν) (target : ι)
  | settle (target : ι) (outcome : Outcome ν)
  | adopt (returned target : ι)

/-- The promises, by name, and the jobs in order. A promise that was not made yet is
pending without reactions. -/
structure Promises (ι η ν : Type) where
  heap : ι → PromiseState ι η ν
  jobs : List (Job ι η ν)

section Operations

variable {ι η ν : Type} [DecidableEq ι]

/-- The job a reaction becomes. -/
def Reaction.job (reaction : Reaction ι η) (outcome : Outcome ν) : Job ι η ν :=
  match reaction with
  | .handlers onFulfilled onRejected target =>
      match outcome with
      | .fulfilled _ => .run onFulfilled outcome target
      | .rejected _ => .run onRejected outcome target
  | .follow target => .settle target outcome

/-- `FulfillPromise` and `RejectPromise`; a settled promise stays as it is. -/
def Promises.settle (p : Promises ι η ν) (target : ι) (outcome : Outcome ν) : Promises ι η ν :=
  match p.heap target with
  | .pending reactions =>
      ⟨Function.update p.heap target (.settled outcome),
        p.jobs ++ reactions.map (fun reaction => reaction.job outcome)⟩
  | .settled _ => p

/-- `PerformPromiseThen` A pending promise keeps the reaction, and a settled one queues its job. -/
def Promises.react (p : Promises ι η ν) (source : ι) (reaction : Reaction ι η) :
    Promises ι η ν :=
  match p.heap source with
  | .pending reactions =>
      ⟨Function.update p.heap source (.pending (reactions ++ [reaction])), p.jobs⟩
  | .settled outcome => ⟨p.heap, p.jobs ++ [reaction.job outcome]⟩

/-- `source.then(onFulfilled, onRejected)`, whose result is the promise `target`. -/
def Promises.andThen (p : Promises ι η ν) (source : ι) (onFulfilled onRejected : η) (target : ι) :
    Promises ι η ν :=
  p.react source (.handlers onFulfilled onRejected target)

/-- The resolving functions of a promise, applied to how a handler ended. -/
def Promises.resolve (p : Promises ι η ν) (target : ι) (completion : Completion ι ν) :
    Promises ι η ν :=
  match completion with
  | .threw reason => p.settle target (.rejected reason)
  | .value value => p.settle target (.fulfilled value)
  | .promise returned => ⟨p.heap, p.jobs ++ [.adopt returned target]⟩

/-- One job, taken off the queue, in a world where handlers run. -/
def runJob {ω : Type} (handle : η → Outcome ν → ω × Promises ι η ν →
    (ω × Promises ι η ν) × Completion ι ν) (state : ω × Promises ι η ν) : ω × Promises ι η ν :=
  match state.2.jobs with
  | [] => state
  | .run handler argument target :: rest =>
      let (after, completion) := handle handler argument (state.1, ⟨state.2.heap, rest⟩)
      (after.1, after.2.resolve target completion)
  | .settle target outcome :: rest => (state.1, Promises.settle ⟨state.2.heap, rest⟩ target outcome)
  | .adopt returned target :: rest =>
      (state.1, Promises.react ⟨state.2.heap, rest⟩ returned (.follow target))

end Operations

section Laws

variable {ι η ν : Type} [DecidableEq ι]

section Updates

variable (heap : ι → PromiseState ι η ν) (jobs : List (Job ι η ν))

/-- Settling a pending promise queues its reactions in the order they were registered. -/
theorem settle_pending (target : ι) (outcome : Outcome ν) (reactions : List (Reaction ι η))
    (pending : heap target = .pending reactions) :
    Promises.settle ⟨heap, jobs⟩ target outcome =
      ⟨Function.update heap target (.settled outcome),
        jobs ++ reactions.map (fun reaction => reaction.job outcome)⟩ := by
  simp only [Promises.settle, pending]

/-- A reaction on a pending promise is registered behind the others. -/
theorem react_pending (source : ι) (reaction : Reaction ι η) (reactions : List (Reaction ι η))
    (pending : heap source = .pending reactions) :
    Promises.react ⟨heap, jobs⟩ source reaction =
      ⟨Function.update heap source (.pending (reactions ++ [reaction])), jobs⟩ := by
  simp only [Promises.react, pending]

/-- One on a settled promise is queued at once. -/
theorem react_settled (source : ι) (reaction : Reaction ι η) (outcome : Outcome ν)
    (settled : heap source = .settled outcome) :
    Promises.react ⟨heap, jobs⟩ source reaction = ⟨heap, jobs ++ [reaction.job outcome]⟩ := by
  simp only [Promises.react, settled]

end Updates

end Laws

end NodeWireguard.PromiseJobs
