import Mathlib
import NodeWireguard.Client.CallOrder
import NodeWireguard.Client.NativeMethods
import NodeWireguard.Netlink.AddressForms

/-!
# The configuration a call applies

`configureDevice` queues a closure over the caller's object, and the object is read when
the queue reaches the call, which is never before the caller's code has returned. A change
in between is applied in place of what the call was given.

As long as no step changes the object of a call that has not started, every configuration
that is applied is the one its call was given.
-/

namespace NodeWireguard.CapturedConfig

open ByteText AddressText AddressForms JsValues ConfigFromJs PromiseJobs CallQueue CallChain
  CallOrder NativeMethods

variable {ν : Type} (error : Bytes → ν) (inet : Inet) (undefined : ν)

/-- Every configuration handed to a worker is what the object held when the method was
called. -/
def AppliesCallTime (system : System Method Memory ν Operation) : Prop :=
  ∀ index name cfg, (.operates (.applyConfig name cfg), index) ∈ system.1.started →
    ∃ reference atCall,
      system.1.calls[index]? = some (.configureDevice (.string name) reference, atCall) ∧
      configFromJs inet (atCall reference) = .ok cfg

/-- The step leaves the object of every waiting `configureDevice` call as it is. -/
def Calm (system : System Method Memory ν Operation) (action : Action Method Memory ν) : Prop :=
  ∀ memory, action = .write memory →
    ∀ index name reference atCall, system.1.started.length ≤ index →
      system.1.calls[index]? = some (.configureDevice name reference, atCall) →
      memory reference = system.1.memory reference

/-- Every step of a run is calm. -/
def CalmRun (system : System Method Memory ν Operation) : List (Action Method Memory ν) → Prop
  | [] => True
  | action :: later =>
      Calm system action ∧ CalmRun (act (nativeClient error inet undefined) system action) later

/-- The object of every waiting call is as it was when the method was called. -/
def Unchanged (system : System Method Memory ν Operation) : Prop :=
  ∀ index name reference atCall, system.1.started.length ≤ index →
    system.1.calls[index]? = some (.configureDevice name reference, atCall) →
    system.1.memory reference = atCall reference

/-- Calm steps leave the objects of waiting calls unchanged. Only a write changes objects, and a
calm one spares those that a waiting call refers to; a new call is given the object as it is. -/
theorem act_unchanged (system : System Method Memory ν Operation)
    (action : Action Method Memory ν) (past : List (Settlement ν Operation))
    (phase : Phase ν Operation) (shape : Shape (nativeClient error inet undefined) system past phase)
    (calm : Calm system action) (unchanged : Unchanged system) :
    Unchanged (act (nativeClient error inet undefined) system action) := by
  intro index name reference atCall waiting found
  cases action with
  | call task =>
    have bound : system.1.started.length ≤ index := waiting
    have found' : (system.1.calls ++ [(task, system.1.memory)])[index]? =
        some (.configureDevice name reference, atCall) := found
    by_cases inside : index < system.1.calls.length
    · rw [List.getElem?_append_left inside] at found'
      exact unchanged index name reference atCall bound found'
    · rw [List.getElem?_append_right (not_lt.mp inside)] at found'
      obtain ⟨position, same⟩ := List.getElem?_eq_some_iff.mp found'
      obtain ⟨-, rfl⟩ : task = .configureDevice name reference ∧ system.1.memory = atCall := by
        simpa using same
      rfl
  | job =>
    obtain ⟨started, same⟩ := job_client (nativeClient error inet undefined) system
    have longer : system.1.started.length ≤ index := by
      rcases act_starts (nativeClient error inet undefined) system .job past phase shape with
        kept | ⟨call, -, -, grown⟩
      · rwa [kept] at waiting
      · rw [grown, List.length_append] at waiting
        omega
    rw [same] at found ⊢
    exact unchanged index name reference atCall longer found
  | finish worker outcome =>
    have client : (act (nativeClient error inet undefined) system (.finish worker outcome)).1 =
        system.1 := by
      simp only [act]
      split <;> rfl
    rw [client] at waiting found ⊢
    exact unchanged index name reference atCall waiting found
  | close => exact unchanged index name reference atCall waiting found
  | write memory =>
    exact (calm memory rfl index name reference atCall waiting found).trans
      (unchanged index name reference atCall waiting found)

/-- A step applies what its call was given, as long as objects are unchanged. Only the task of
the current call hands a configuration over, and it reads the object as it is then, which is as
it was when the call was made. -/
theorem act_applies (system : System Method Memory ν Operation)
    (action : Action Method Memory ν) (past : List (Settlement ν Operation))
    (phase : Phase ν Operation) (shape : Shape (nativeClient error inet undefined) system past phase)
    (unchanged : Unchanged system) (applies : AppliesCallTime inet system) :
    AppliesCallTime inet (act (nativeClient error inet undefined) system action) := by
  have kept (index : Nat) (call : Method × Memory) (found : system.1.calls[index]? = some call) :
      (act (nativeClient error inet undefined) system action).1.calls[index]? = some call := by
    obtain ⟨extra, grown⟩ := act_calls (nativeClient error inet undefined) system action
    rw [grown, List.getElem?_append_left (List.getElem?_eq_some_iff.mp found).1, found]
  have earlier (index : Nat) (name : Bytes) (cfg : Config)
      (entry : (.operates (.applyConfig name cfg), index) ∈ system.1.started) :
      ∃ reference atCall,
        (act (nativeClient error inet undefined) system action).1.calls[index]? =
          some (.configureDevice (.string name) reference, atCall) ∧
        configFromJs inet (atCall reference) = .ok cfg := by
    obtain ⟨reference, atCall, found, read⟩ := applies index name cfg entry
    exact ⟨reference, atCall, kept index _ found, read⟩
  intro index name cfg entry
  rcases act_starts (nativeClient error inet undefined) system action past phase shape with
    same | ⟨call, -, found, grown⟩
  · rw [same] at entry
    exact earlier index name cfg entry
  · rw [grown] at entry
    rcases List.mem_append.mp entry with before | now
    · exact earlier index name cfg before
    · obtain ⟨begun, rfl⟩ : .operates (.applyConfig name cfg) =
          begins (nativeClient error inet undefined) system.1 call.1 ∧
          index = system.1.started.length := by simpa using now
      simp only [begins] at begun
      split at begun
      · cases begun
      · obtain ⟨method, atCall⟩ := call
        obtain ⟨value, reference, rfl, rfl, read⟩ :=
          applies_iff_configure error inet system.1.memory method name cfg begun.symm
        refine ⟨reference, atCall, kept _ _ found, ?_⟩
        rw [← unchanged _ _ reference atCall le_rfl found]
        exact read

/-- From a state where objects are unchanged, a calm run keeps applying what each call was
given. -/
theorem calm_run_applies (system : System Method Memory ν Operation)
    (actions : List (Action Method Memory ν)) (past : List (Settlement ν Operation))
    (phase : Phase ν Operation) (shape : Shape (nativeClient error inet undefined) system past phase)
    (unchanged : Unchanged system) (applies : AppliesCallTime inet system)
    (calm : CalmRun error inet undefined system actions) :
    AppliesCallTime inet (run (nativeClient error inet undefined) system actions) := by
  induction actions generalizing system past phase with
  | nil => exact applies
  | cons action later inductionHypothesis =>
    obtain ⟨calmNow, calmLater⟩ := calm
    obtain ⟨pastAfter, after, next⟩ :=
      act_shape (nativeClient error inet undefined) system action past phase shape
    exact inductionHypothesis _ pastAfter after next
      (act_unchanged error inet undefined system action past phase shape calmNow unchanged)
      (act_applies error inet undefined system action past phase shape unchanged applies) calmLater

/-- In a run of a new client whose steps all leave the objects of waiting calls as they
are, every configuration handed to a worker is the one its call was given.

Proof: by induction on the run, with the shape of the chain of promises. As long as no step
changes an object that a waiting call refers to, the object is what it was when the call was
made; its task reads it when it starts, so what is handed over is the configuration of that time. -/
theorem captured_config_applied (memory : Memory) (actions : List (Action Method Memory ν))
    (calm : CalmRun error inet undefined
      (newClient (nativeClient error inet undefined) memory) actions) :
    AppliesCallTime inet
      (run (nativeClient error inet undefined)
        (newClient (nativeClient error inet undefined) memory) actions) :=
  calm_run_applies error inet undefined _ actions [] .idle
    (new_client_shape (nativeClient error inet undefined) memory)
    (by simp [Unchanged, newClient]) (by simp [AppliesCallTime, newClient]) calm

/-- A configuration object that sets the listen port. -/
def portConfig (port : Nat) : JsValue := .object [("listenPort", .number (.finite port))]

/-- The caller's object, with one port or the other. -/
def portMemory (port : Nat) : Memory := fun _ => portConfig port

/-- A call on `wg0`, whose worker is started before the caller writes to the object. -/
theorem awaited_write_applied :
    AppliesCallTime plainInet
      (run (nativeClient some plainInet none)
        (newClient (nativeClient some plainInet none) (portMemory 1))
        [.call (.configureDevice (.string (ascii "wg0")) 0), .job, .write (portMemory 2)]) :=
  captured_config_applied some plainInet none (portMemory 1) _ (by
    refine ⟨by simp [Calm], by simp [Calm], ?_, trivial⟩
    intro memory _ index name reference atCall waiting found
    obtain ⟨inside, -⟩ := List.getElem?_eq_some_iff.mp found
    have notStarted : 1 ≤ index := waiting
    have onlyCall : index < 1 := inside
    omega)

/-- The same call, with the write before the next job: the later port is applied. -/
theorem early_write_applied :
    ¬ AppliesCallTime plainInet
      (run (nativeClient some plainInet none)
        (newClient (nativeClient some plainInet none) (portMemory 1))
        [.call (.configureDevice (.string (ascii "wg0")) 0), .write (portMemory 2), .job]) := by
  intro applies
  obtain ⟨reference, atCall, found, read⟩ :=
    applies 0 (ascii "wg0") { listenPort := some 2 } (List.mem_singleton.mpr rfl)
  have call : (Method.configureDevice (.string (ascii "wg0")) 0, portMemory 1) =
      (Method.configureDevice (.string (ascii "wg0")) reference, atCall) := Option.some.inj found
  obtain ⟨rfl, rfl⟩ : 0 = reference ∧ portMemory 1 = atCall := by simpa using call
  have first : configFromJs plainInet (portMemory 1 0) = .ok { listenPort := some 1 } := rfl
  rw [first] at read
  exact absurd (Except.ok.inj read) (by decide)

end NodeWireguard.CapturedConfig
