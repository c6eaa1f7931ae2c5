import Mathlib
import NodeWireguard.Foundations.PromiseJobs

/-!
# The client's queue of calls

`WireGuardClient` of `index.ts`. Every method enqueues a task: the promise of the last
call gets the task as both of its reactions, and the queue moves on to a promise that
swallows the task's outcome. The task calls the native method of the same name.

What a native method does when it is called depends on the memory its arguments refer to:
it throws, returns a promise it has rejected already, or starts an operation on a worker.
On a closed client every method returns a rejected promise. The caller acts between jobs:
it calls methods, closes the client, and writes to memory; workers finish at any time.
-/

namespace NodeWireguard.CallQueue

open PromiseJobs

/-- The promises of a client by name: `this.queue` as call `index` finds it, what the call
returns, and what its native method returns. -/
inductive PromiseName where
  | queue (index : Nat)
  | result (index : Nat)
  | native (index : Nat)
  deriving DecidableEq

/-- The reactions of the queue: a task with the number of its call, or one of the two
functions that swallow an outcome. -/
inductive Handler (τ : Type) where
  | task (task : τ) (index : Nat)
  | swallow

/-- What a native method did when it was called. -/
inductive Begun (ν κ : Type) where
  | threw (reason : ν)
  | refused (reason : ν)
  | operates (operation : κ)
  deriving DecidableEq

/-- The native object, with the error its methods reject with once it is closed. -/
structure Native (τ ω ν κ : Type) where
  begin : ω → τ → Begun ν κ
  clientClosed : ν
  undefined : ν

/-- The client and the caller's memory. The calls made so far, each with the memory at its
time, and the native methods called so far are records that nothing reads. -/
structure Client (τ ω ν κ : Type) where
  memory : ω
  queue : PromiseName := .queue 0
  closed : Bool := false
  calls : List (τ × ω) := []
  started : List (Begun ν κ × Nat) := []

section Queue

variable {τ ω ν κ : Type}

/-- A client with its promises and jobs. -/
abbrev System (τ ω ν κ : Type) := Client τ ω ν κ × Promises PromiseName (Handler τ) ν

variable (object : Native τ ω ν κ)

/-- A new client: `this.queue` starts as `Promise.resolve()`, so the first call finds it settled. -/
def newClient (memory : ω) : System τ ω ν κ :=
  ({ memory },
    ⟨Function.update (fun _ => .pending []) (.queue 0) (.settled (.fulfilled object.undefined)), []⟩)

/-- What the native method of a task does; a closed client refuses. -/
def begins (client : Client τ ω ν κ) (task : τ) : Begun ν κ :=
  if client.closed then .refused object.clientClosed else object.begin client.memory task

/-- The native method of a task. Its promise is rejected before it is returned, or left
to the worker. -/
def callNative (task : τ) (index : Nat) (system : System τ ω ν κ) :
    System τ ω ν κ × Completion PromiseName ν :=
  let (client, promises) := system
  let begun := begins object client task
  let client := { client with started := client.started ++ [(begun, index)] }
  match begun with
  | .threw reason => ((client, promises), .threw reason)
  | .refused reason =>
      ((client, promises.settle (.native index) (.rejected reason)), .promise (.native index))
  | .operates _ => ((client, promises), .promise (.native index))

/-- What a reaction does; neither kind looks at its argument. -/
def handle (handler : Handler τ) (_ : Outcome ν) (system : System τ ω ν κ) :
    System τ ω ν κ × Completion PromiseName ν :=
  match handler with
  | .task task index => callNative object task index system
  | .swallow => (system, .value object.undefined)

/-- `enqueue`, with the promise it returns to the caller. -/
def enqueue (task : τ) (system : System τ ω ν κ) : PromiseName × System τ ω ν κ :=
  let (client, promises) := system
  let index := client.calls.length
  let promises := promises.andThen client.queue (.task task index) (.task task index) (.result index)
  let promises := promises.andThen (.result index) .swallow .swallow (.queue (index + 1))
  (.result index,
    { client with queue := .queue (index + 1), calls := client.calls ++ [(task, client.memory)] },
    promises)

/-- Did the native method of this call start an operation? -/
def operates (client : Client τ ω ν κ) (index : Nat) : Bool :=
  client.started.any (fun entry =>
    match entry.1 with
    | .operates _ => entry.2 == index
    | _ => false)

/-- What can happen between two jobs, and running the next job. -/
inductive Action (τ ω ν : Type) where
  | call (task : τ)
  | job
  | finish (index : Nat) (outcome : Outcome ν)
  | close
  | write (memory : ω)

/-- One action. A worker that was never started cannot finish. -/
def act (system : System τ ω ν κ) (action : Action τ ω ν) : System τ ω ν κ :=
  match action with
  | .call task => (enqueue task system).2
  | .job => runJob (handle object) system
  | .finish index outcome =>
      if operates system.1 index then (system.1, system.2.settle (.native index) outcome) else system
  | .close => ({ system.1 with closed := true }, system.2)
  | .write memory => ({ system.1 with memory }, system.2)

/-- Actions one after the other. -/
def run (system : System τ ω ν κ) (actions : List (Action τ ω ν)) : System τ ω ν κ :=
  actions.foldl (act object) system

end Queue

end NodeWireguard.CallQueue
