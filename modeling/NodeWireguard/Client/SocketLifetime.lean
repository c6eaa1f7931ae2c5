import Mathlib
import NodeWireguard.Client.NativeMethods
import NodeWireguard.Foundations.SharedPointers
import NodeWireguard.Netlink.SocketExchange

/-!
# The life of the netlink socket

The constructor of `WireGuardClient` makes the one `NlSocket` of the client, whose own
constructor opens and binds it. The methods that use it copy the shared pointer into their
worker; `close()` and the collector reset the pointer of the client. The workers may overlap
here as they like, since the native object does not rely on the queue in front of it.

The socket is closed by the destructor, which runs with the last pointer. So a worker that is
under way keeps it open, and it is closed exactly once, after the client has let go of it and
the last of these workers is gone.
-/

namespace NodeWireguard.SocketLifetime

open ByteText NativeMethods SharedPointers SocketExchange

/-- What the constructors and the destructor do with the descriptor. -/
inductive Descriptor where
  | opened
  | closed
  deriving DecidableEq

/-- `NlSocket::NlSocket`: `opening` and `binding` are the error numbers, where they fail. -/
def constructSocket (strerror : Int → Bytes) (opening binding : Option Int) (portid : UInt32) :
    List Descriptor × Except Exception NlSocket :=
  match opening with
  | some errno => ([], .error (socketFailure strerror "mnl_socket_open: " errno))
  | none =>
      match binding with
      | some errno =>
          ([.opened, .closed], .error (socketFailure strerror "mnl_socket_bind: " errno))
      | none => ([.opened], .ok { portid })

/-- The operations whose worker captures the socket. The others work on sockets of their own. -/
def capturesSocket : Operation → Bool
  | .fetchDevices | .fetchDevice _ | .applyConfig _ _ => true
  | .createWireGuardLink _ | .deleteLink _ | .setLinkUp _ _ | .addAddress _ _
  | .deleteAddress _ _ => false

/-- `sock_`, the workers that captured it, and its control block. `descriptor` records what
happened to the descriptor, and `misused` whether a worker ever used a socket that was gone. -/
structure NativeObject where
  sock : Bool
  workers : Finset Nat
  shared : Shared
  descriptor : List Descriptor
  misused : Bool := false

/-- A client after `std::make_shared<netlink::NlSocket>()` returned. -/
def construct (descriptor : List Descriptor) : NativeObject :=
  { sock := true, workers := ∅, shared := Shared.make, descriptor }

/-- A pointer is dropped; the destructor closes the descriptor. -/
def NativeObject.drop (object : NativeObject) : NativeObject :=
  { object with
    shared := object.shared.drop
    descriptor := object.descriptor ++ if object.shared.count = 1 then [.closed] else [] }

/-- A method starts a worker, a worker uses the socket, a worker is deleted after its promise
was settled, and `close()` is called or the object is collected. -/
inductive Event where
  | begins (worker : Nat) (operation : Operation)
  | touches (worker : Nat)
  | finishes (worker : Nat)
  | closes

/-- One event. A closed client starts no worker, and a worker number is used once. -/
def after (object : NativeObject) (event : Event) : NativeObject :=
  match event with
  | .begins worker operation =>
      if object.sock ∧ capturesSocket operation ∧ worker ∉ object.workers then
        { object with workers := insert worker object.workers, shared := object.shared.copy }
      else object
  | .touches worker =>
      if worker ∈ object.workers then
        { object with misused := object.misused || object.descriptor.getLast? != some .opened }
      else object
  | .finishes worker =>
      if worker ∈ object.workers then
        ({ object with workers := object.workers.erase worker } : NativeObject).drop
      else object
  | .closes => if object.sock then ({ object with sock := false } : NativeObject).drop else object

/-- Who has a pointer: the client itself, or a worker. -/
def holders (object : NativeObject) : Finset (Option Nat) :=
  (if object.sock then {none} else ∅) ∪ object.workers.image some

/-- The pointers are the holders', and the descriptor is closed with the last of them. -/
structure Sound (object : NativeObject) : Prop where
  held : HeldBy (holders object) object.shared
  descriptor : object.descriptor = if holders object = ∅ then [.opened, .closed] else [.opened]
  unharmed : object.misused = false

/-- A worker holds the socket while it is among the object's workers. -/
theorem worker_holds (object : NativeObject) (worker : Nat) :
    some worker ∈ holders object ↔ worker ∈ object.workers := by
  rw [holders]
  split <;> simp

/-- The client itself holds the socket until `close`. -/
theorem client_holds (object : NativeObject) : none ∈ holders object ↔ object.sock = true := by
  rw [holders]
  split
  · rename_i present
    simp [present]
  · rename_i absent
    simpa using absent

/-- Dropping the pointer of a holder closes the descriptor with the last one. -/
theorem sound_drop (object remaining : NativeObject) (holder : Option Nat) (sound : Sound object)
    (holds : holder ∈ holders object) (rest : holders remaining = (holders object).erase holder)
    (same : remaining.shared = object.shared ∧ remaining.descriptor = object.descriptor ∧
      remaining.misused = object.misused) : Sound remaining.drop := by
  have held := drop_held (holders object) object.shared holder sound.held holds
  have kept : holders remaining.drop = (holders object).erase holder := rest
  have opened : object.descriptor = [.opened] := by
    rw [sound.descriptor, if_neg (Finset.ne_empty_of_mem holds)]
  have last : (holders object).erase holder = ∅ ↔ object.shared.count = 1 := by
    rw [← Finset.card_eq_zero, Finset.card_erase_of_mem holds, ← sound.held.count]
    have positive := Finset.card_pos.mpr ⟨holder, holds⟩
    have count := sound.held.count
    omega
  refine ⟨?_, ?_, same.2.2.trans sound.unharmed⟩
  · rw [kept, NativeObject.drop, same.1]
    exact held
  · rw [kept, NativeObject.drop, same.1, same.2.1, opened]
    simp only [last]
    split <;> rfl

/-- Every event keeps the pointers and the descriptor in step. A method that captures the socket
adds a holder while the client still has it, a worker that ends and `close` take one away, and
the descriptor is closed by the last of them. -/
theorem sound_after (object : NativeObject) (event : Event) (sound : Sound object) :
    Sound (after object event) := by
  cases event with
  | begins worker operation =>
    simp only [after]
    split
    · rename_i started
      obtain ⟨present, -, fresh⟩ := started
      have client := (client_holds object).mpr present
      have more : holders { object with
          workers := insert worker object.workers, shared := object.shared.copy } =
          insert (some worker) (holders object) := by
        simp only [holders, Finset.image_insert, Finset.union_insert]
      refine ⟨?_, ?_, sound.unharmed⟩
      · rw [more]
        exact copy_held _ _ _ sound.held ⟨none, client⟩ ((worker_holds object worker).not.mpr fresh)
      · rw [more, if_neg (Finset.insert_ne_empty _ _), sound.descriptor,
          if_neg (Finset.ne_empty_of_mem client)]
    · exact sound
  | touches worker =>
    simp only [after]
    split
    · rename_i working
      have holds := (worker_holds object worker).mpr working
      have opened : object.descriptor = [.opened] := by
        rw [sound.descriptor, if_neg (Finset.ne_empty_of_mem holds)]
      exact ⟨sound.held, sound.descriptor, by simp [opened, sound.unharmed]⟩
    · exact sound
  | finishes worker =>
    simp only [after]
    split
    · rename_i working
      refine sound_drop object _ (some worker) sound ((worker_holds object worker).mpr working) ?_
        ⟨rfl, rfl, rfl⟩
      ext holder
      cases holder with
      | none => simp [client_holds]
      | some other => simp [worker_holds]
    · exact sound
  | closes =>
    simp only [after]
    split
    · rename_i present
      refine sound_drop object _ none sound ((client_holds object).mpr present) ?_ ⟨rfl, rfl, rfl⟩
      ext holder
      cases holder with
      | none => simp [client_holds]
      | some other => simp [worker_holds]
    · exact sound

/-- After the constructor one pointer is held, the client's, and the descriptor is open. -/
theorem construct_sound : Sound (construct [.opened]) := by
  have client : holders (construct [.opened]) = {none} := rfl
  refine ⟨?_, ?_, rfl⟩
  · rw [client]
    exact make_held none
  · rw [client]
    rfl

/-- So it stays over any list of events, by induction on it. -/
theorem events_sound (events : List Event) : Sound (events.foldl after (construct [.opened])) := by
  induction events using List.reverseRecOn with
  | nil => exact construct_sound
  | append_singleton earlier event inductionHypothesis =>
    rw [List.foldl_append]
    exact sound_after _ event inductionHypothesis

/-- A client whose constructor fails leaves no descriptor open. Of any other, whatever the
methods, the workers and `close()` do, no worker uses a closed socket, and the descriptor is
closed once, exactly when the client has let go of it and no worker that captured it is left.

Proof: every event keeps the count of the shared pointer equal to the number of its holders, the
client and the workers that captured it. The descriptor is closed when the last one lets go, and
nobody gets hold of it again afterwards. -/
theorem socket_closed_once (strerror : Int → Bytes) (opening binding : Option Int) (portid : UInt32) :
    match constructSocket strerror opening binding portid with
    | (descriptor, .error _) => descriptor = [] ∨ descriptor = [.opened, .closed]
    | (descriptor, .ok _) => ∀ events : List Event,
        let object := events.foldl after (construct descriptor)
        object.misused = false ∧
          object.descriptor =
            if object.sock = false ∧ object.workers = ∅ then [.opened, .closed] else [.opened] := by
  cases opening with
  | some errno => exact .inl rfl
  | none =>
    cases binding with
    | some errno => exact .inr rfl
    | none =>
      intro events object
      have sound := events_sound events
      have gone : holders object = ∅ ↔ object.sock = false ∧ object.workers = ∅ := by
        rw [holders]
        cases object.sock <;> simp
      exact ⟨sound.unharmed, sound.descriptor.trans (if_congr gone rfl rfl)⟩

end NodeWireguard.SocketLifetime
