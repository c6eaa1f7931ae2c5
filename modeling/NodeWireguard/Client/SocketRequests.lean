import Mathlib
import NodeWireguard.Client.ListingReads

/-!
# The netlink requests of a client

The workers of a client run one after another on its one socket. `ApplyConfig` tells which
requests it hands over; here those of `FetchDevice` are added, and a run of either. The worker
of `Devices` is a run of `FetchDevice` that its first failure cuts short.

Whatever the system answers, the numbers of the requests rise over the life of the socket, the
family is asked for only before any other request, and every other request goes to the one
family that was found. A call takes at most two numbers, so 32 bits last for 2^31 calls.
-/

namespace NodeWireguard.SocketRequests

open ByteText AddressText PublicKey MessageBuffer SetDeviceMessage SocketExchange
open SocketDirectory GetResponse Backends ListingReads Fallible

/-- The message of a request that goes to `SendAndReceive`. -/
def message : Handed → Option MsgBuf
  | .lookup nlh | .setDevice nlh => some nlh
  | .transact _ _ => none

/-- The message of a lookup, where one is needed. -/
def lookups (sock : NlSocket) : List MsgBuf := (lookupRequests sock).filterMap message

/-- The socket and the queue that a call leaves, if it ends. -/
def remaining {α : Type} : Call α → Option (NlSocket × List Received)
  | .value _ sock rest | .threw _ sock rest => some (sock, rest)
  | .waiting => none

/-- What a worker does with the socket. Either read a device or change one; the names and the
configuration are arbitrary. -/
inductive Task where
  | fetch (name : Bytes)
  | apply (name : Bytes) (cfg : Config)

section Running

variable (strerror : Int → Bytes) (inet : Inet) (ssl : OpenSSL) (fresh : FreshOctets)

/-- `FetchDeviceKernel` with the messages it gives to `SendAndReceive`, each recorded where it
is handed over. -/
def recordedFetchKernel (around : Surroundings) (sock : NlSocket) (name : Bytes) :
    List MsgBuf × Call Device :=
  match wireGuardFamilyId strerror sock around.lookupSent around.stream with
  | .value familyId known rest =>
      let (seq, known) := known.nextSeq
      match buildGetDeviceMessage familyId seq name with
      | .error failure => (lookups sock, .threw failure known rest)
      | .ok nlh =>
          (lookups sock ++ [nlh],
            (dumpExchange strerror inet fresh known nlh name around.requestSent rest).call known)
  | .threw failure sock' rest => (lookups sock, .threw failure sock' rest)
  | .waiting => (lookups sock, .waiting)

/-- `FetchDevice` with its netlink messages; a control socket is sent none. -/
def recordedFetch (around : Surroundings) (sock : NlSocket) (name : Bytes) :
    List MsgBuf × Call Device :=
  match hasSocket around.access name with
  | .error failure => ([], .threw failure sock around.stream)
  | .ok true =>
      ([], transacted strerror around sock name buildGetRequest (parseGetResponse inet ssl name))
  | .ok false => recordedFetchKernel strerror inet fresh around sock name

/-- The messages of a task, and what it leaves. -/
def performTask (around : Surroundings) (sock : NlSocket) :
    Task → List MsgBuf × Option (NlSocket × List Received)
  | .fetch name =>
      let (requests, call) := recordedFetch strerror inet ssl fresh around sock name
      (requests, remaining call)
  | .apply name cfg =>
      let (handed, call) := applyConfig strerror inet around sock name cfg
      (handed.filterMap message, remaining call)

/-- The messages of one task after another, until one waits for ever. The stream of a task is
what arrives while it runs, behind what is still queued. -/
def run (sock : NlSocket) (queue : List Received) :
    List (Task × Surroundings) → List MsgBuf × Option (NlSocket × List Received)
  | [] => ([], some (sock, queue))
  | (task, around) :: later =>
      let around := { around with stream := queue ++ around.stream }
      match performTask strerror inet ssl fresh around sock task with
      | (requests, none) => (requests, none)
      | (requests, some (sock, queue)) =>
          let (others, ended) := run sock queue later
          (requests ++ others, ended)

/-- Recording changes nothing: without its messages, the recorded call is the one of the
netlink backend, whatever the lookup and the building of the request come to. -/
theorem recorded_fetch_kernel (around : Surroundings) (sock : NlSocket) (name : Bytes) :
    (recordedFetchKernel strerror inet fresh around sock name).2 =
      fetchDeviceKernel strerror inet fresh sock name around.lookupSent around.requestSent
        around.stream := by
  unfold recordedFetchKernel fetchDeviceKernel
  cases wireGuardFamilyId strerror sock around.lookupSent around.stream with
  | waiting => rfl
  | threw failure next rest => rfl
  | value familyId known rest =>
    simp only [dumpDevice]
    cases buildGetDeviceMessage familyId known.nextSeq.1 name <;> rfl

/-- So is the recorded `FetchDevice` the one that `device` and `devices` run. -/
theorem recorded_fetch (around : Surroundings) (sock : NlSocket) (name : Bytes) :
    (recordedFetch strerror inet ssl fresh around sock name).2 =
      fetchDevice strerror inet ssl fresh around sock name := by
  unfold recordedFetch fetchDevice
  cases hasSocket around.access name with
  | error failure => rfl
  | ok found =>
    cases found with
    | true => rfl
    | false => exact recorded_fetch_kernel strerror inet fresh around sock name

end Running

/-- The requests on a socket between two of its states: their numbers rise, and lookups, which
only an unknown family needs, stand before those to the family. -/
structure Disciplined (sock : NlSocket) (requests : List MsgBuf) (after : NlSocket) : Prop where
  rising : (requests.map (·.seq.toNat)).Pairwise (· < ·)
  numbers : ∀ nlh ∈ requests, sock.seq.toNat < nlh.seq.toNat ∧ nlh.seq.toNat ≤ after.seq.toNat
  advanced : sock.seq.toNat ≤ after.seq.toNat
  kept : sock.wgFamilyId ≠ 0 → after.wgFamilyId = sock.wgFamilyId
  addressed : ∃ asked others, requests = asked ++ others ∧
    (∀ nlh ∈ asked, ∃ seq, nlh = familyRequest seq) ∧ (sock.wgFamilyId ≠ 0 → asked = []) ∧
    ∀ nlh ∈ others, nlh.type = after.wgFamilyId ∧ after.wgFamilyId ≠ 0

/-- A call that takes at most `count` numbers, and leaves the socket as its requests do. -/
def Spends (sock : NlSocket) (requests : List MsgBuf) (ended : Option (NlSocket × List Received))
    (count : Nat) : Prop :=
  ∃ after, Disciplined sock requests after ∧ after.seq.toNat ≤ sock.seq.toNat + count ∧
    ∀ final ∈ ended, final.1 = after

/-- No requests leave a socket as it is. -/
theorem disciplined_refl (sock : NlSocket) : Disciplined sock [] sock where
  rising := .nil
  numbers := by simp
  advanced := le_rfl
  kept _ := rfl
  addressed := ⟨[], [], rfl, by simp, fun _ => rfl, by simp⟩

/-- Requests behind others: once there was one to the family, no lookup follows. Either no
request went to a family in the first part, and its lookups come in front of those of the second,
or the family is known from then on and the second has no lookups. -/
theorem disciplined_append {first middle last : NlSocket} {before behind : List MsgBuf}
    (start : Disciplined first before middle) (later : Disciplined middle behind last) :
    Disciplined first (before ++ behind) last where
  rising := by
    rw [List.map_append]
    refine List.pairwise_append.mpr ⟨start.rising, later.rising, ?_⟩
    simp only [List.mem_map]
    rintro _ ⟨early, inBefore, rfl⟩ _ ⟨late, inBehind, rfl⟩
    exact (start.numbers early inBefore).2.trans_lt (later.numbers late inBehind).1
  numbers := by
    intro nlh member
    rcases List.mem_append.mp member with inBefore | inBehind
    · exact ⟨(start.numbers nlh inBefore).1, (start.numbers nlh inBefore).2.trans later.advanced⟩
    · exact ⟨start.advanced.trans_lt (later.numbers nlh inBehind).1, (later.numbers nlh inBehind).2⟩
  advanced := start.advanced.trans later.advanced
  kept := by
    intro known
    have same := start.kept known
    rw [later.kept (same ▸ known), same]
  addressed := by
    obtain ⟨asked, others, rfl, lookup, unasked, family⟩ := start.addressed
    obtain ⟨asked', others', rfl, lookup', unasked', family'⟩ := later.addressed
    by_cases unknown : middle.wgFamilyId = 0
    · -- Nothing went to a family yet.
      obtain rfl : others = [] :=
        List.eq_nil_iff_forall_not_mem.mpr (fun nlh member => (family nlh member).2 unknown)
      refine ⟨asked ++ asked', others', by simp, ?_, ?_, family'⟩
      · intro nlh member
        exact (List.mem_append.mp member).elim (lookup nlh) (lookup' nlh)
      · intro known
        exact absurd unknown (start.kept known ▸ known)
    · obtain rfl := unasked' unknown
      refine ⟨asked, others ++ others', by simp, lookup, unasked, ?_⟩
      intro nlh member
      rcases List.mem_append.mp member with inOthers | inOthers'
      · rw [later.kept unknown]
        exact family nlh inOthers
      · exact family' nlh inOthers'

/-- A number that is taken, whether or not its message is built. The counter moves on by one, and
the message, where there is one, carries the number and the family of the socket. -/
theorem disciplined_next (sock : NlSocket) (room : sock.seq.toNat + 1 < 2 ^ 32)
    (built : List MsgBuf) (single : ∀ nlh ∈ built, nlh.seq = sock.nextSeq.1 ∧
      nlh.type = sock.wgFamilyId ∧ sock.wgFamilyId ≠ 0) (few : built.length ≤ 1) :
    Disciplined sock built sock.nextSeq.2 := by
  have number := next_number sock.seq room
  exact {
    rising := by
      match built, few with
      | [], _ => exact .nil
      | [nlh], _ => exact List.pairwise_singleton _ _
    numbers := by
      intro nlh member
      rw [(single nlh member).1]
      simp only [NlSocket.nextSeq]
      omega
    advanced := by
      simp only [NlSocket.nextSeq]
      omega
    kept := fun _ => rfl
    addressed := ⟨[], built, rfl, by simp, fun _ => rfl, fun nlh member => (single nlh member).2⟩ }

/-- A lookup, whatever family it finds. It needs a family that is not known yet, and whatever is
found is kept in the socket. -/
theorem disciplined_lookup (sock : NlSocket) (room : sock.seq.toNat + 1 < 2 ^ 32)
    (unknown : sock.wgFamilyId = 0) (familyId : UInt16) :
    Disciplined sock [familyRequest (sock.seq + 1)]
      { sock with
        seq := sock.seq + 1
        wgFamilyId := familyId } := by
  have number := next_number sock.seq room
  have seq : (familyRequest (sock.seq + 1)).seq = sock.seq + 1 := rfl
  exact {
    rising := List.pairwise_singleton _ _
    numbers := by
      intro nlh member
      rw [List.mem_singleton.mp member, seq]
      simp only
      omega
    advanced := by
      simp only
      omega
    kept := fun known => absurd unknown known
    addressed := ⟨[familyRequest (sock.seq + 1)], [], rfl,
      fun nlh member => ⟨_, List.mem_singleton.mp member⟩, fun known => absurd unknown known, by simp⟩ }

/-- A call that ended leaves the socket that its requests lead to. -/
theorem spends_ended {sock next : NlSocket} {queue : List Received} {requests : List MsgBuf} {count : Nat}
    (spent : Spends sock requests (some (next, queue)) count) :
    Disciplined sock requests next ∧ next.seq.toNat ≤ sock.seq.toNat + count := by
  obtain ⟨after, disciplined, few, same⟩ := spent
  have here : next = after := same _ rfl
  rw [here]
  exact ⟨disciplined, few⟩

/-- One call after another spends the numbers of both. -/
theorem spends_append {first middle : NlSocket} {queue : List Received} {before behind : List MsgBuf}
    {ended : Option (NlSocket × List Received)} {count more : Nat}
    (start : Spends first before (some (middle, queue)) count)
    (later : Spends middle behind ended more) :
    Spends first (before ++ behind) ended (count + more) := by
  obtain ⟨disciplined, few⟩ := spends_ended start
  obtain ⟨last, disciplined', few', same'⟩ := later
  exact ⟨last, disciplined_append disciplined disciplined', by omega, same'⟩

/-- A call that sends nothing leaves the socket alone. -/
theorem spends_none (sock : NlSocket) (ended : Option (NlSocket × List Received))
    (same : ∀ final ∈ ended, final.1 = sock) (count : Nat) : Spends sock [] ended count :=
  ⟨sock, disciplined_refl sock, by omega, same⟩

section Calls

variable (strerror : Int → Bytes)

/-- An exchange leaves the socket it was given. -/
theorem result_remaining {σ : Type} (result : Result σ) (sock : NlSocket) :
    ∀ final ∈ remaining (result.call sock), final.1 = sock := by
  intro final isLeft
  unfold Result.call at isLeft
  split at isLeft
  · obtain rfl := Option.some.inj isLeft
    rfl
  · obtain rfl := Option.some.inj isLeft
    rfl
  · cases isLeft

/-- A transaction does not touch the netlink socket. -/
theorem transacted_remaining {α : Type} (around : Surroundings) (sock : NlSocket) (name request : Bytes)
    (parse : Bytes → Except Exception α) :
    ∀ final ∈ remaining (transacted strerror around sock name request parse), final.1 = sock := by
  intro final isLeft
  unfold transacted at isLeft
  split at isLeft
  · cases isLeft
  · obtain rfl := Option.some.inj isLeft
    rfl
  · split at isLeft
    · obtain rfl := Option.some.inj isLeft
      rfl
    · obtain rfl := Option.some.inj isLeft
      rfl

/-- `WireGuardFamilyId` asks at most once, and a family that it returns is kept and not 0. The
cases are a known family, which sends nothing, and the ways the exchange of a lookup can end. -/
theorem family_spends (sock : NlSocket) (room : sock.seq.toNat + 1 < 2 ^ 32) (sent : Option Int)
    (stream : List Received) :
    Spends sock (lookups sock) (remaining (wireGuardFamilyId strerror sock sent stream)) 1 ∧
      ∀ familyId known rest, wireGuardFamilyId strerror sock sent stream = .value familyId known rest →
        familyId = known.wgFamilyId ∧ known.wgFamilyId ≠ 0 := by
  have number := next_number sock.seq room
  by_cases known : sock.wgFamilyId = 0
  · have asked : lookups sock = [familyRequest (sock.seq + 1)] := by
      simp [lookups, lookupRequests, known, message, NlSocket.nextSeq]
    have after (familyId : UInt16) := disciplined_lookup sock room known familyId
    rw [asked, wireGuardFamilyId, if_neg (not_not_intro known)]
    simp only [NlSocket.nextSeq]
    split
    · rename_i familyId next rest replied
      obtain rfl : next = sock.nextSeq.2 :=
        result_remaining _ sock.nextSeq.2 (next, rest) (by rw [NlSocket.nextSeq, replied]; rfl)
      split
      · rename_i none
        refine ⟨⟨_, after sock.wgFamilyId, number.le, by simp [remaining, NlSocket.nextSeq]⟩, ?_⟩
        intro _ _ _ returned
        cases returned
      · rename_i found
        refine ⟨⟨_, after familyId, number.le, by simp [remaining, NlSocket.nextSeq]⟩, ?_⟩
        intro _ _ _ returned
        cases returned
        exact ⟨rfl, found⟩
    · rename_i failure next rest replied
      obtain rfl : next = sock.nextSeq.2 :=
        result_remaining _ sock.nextSeq.2 (next, rest) (by rw [NlSocket.nextSeq, replied]; rfl)
      refine ⟨⟨_, after sock.wgFamilyId, number.le, by simp [remaining, NlSocket.nextSeq]⟩, ?_⟩
      intro _ _ _ returned
      cases returned
    · refine ⟨⟨_, after sock.wgFamilyId, number.le, by simp [remaining]⟩, ?_⟩
      intro _ _ _ returned
      cases returned
  · have asked : lookups sock = [] := by simp [lookups, lookupRequests, known]
    rw [asked, wireGuardFamilyId, if_pos known]
    refine ⟨spends_none sock _ (by simp [remaining]) 1, ?_⟩
    intro _ _ _ returned
    cases returned
    exact ⟨rfl, known⟩

end Calls

/-- The message that follows a lookup takes the next number, even where it is not built. -/
theorem spends_next (sock : NlSocket) (room : sock.seq.toNat + 1 < 2 ^ 32) (built : List MsgBuf)
    (single : ∀ nlh ∈ built,
      nlh.seq = sock.nextSeq.1 ∧ nlh.type = sock.wgFamilyId ∧ sock.wgFamilyId ≠ 0)
    (few : built.length ≤ 1) (ended : Option (NlSocket × List Received))
    (same : ∀ final ∈ ended, final.1 = sock.nextSeq.2) : Spends sock built ended 1 :=
  ⟨_, disciplined_next sock room built single few, (next_number sock.seq room).le, same⟩

/-- The request of a dump has the number and the family it was built with. -/
theorem build_get_device_message_header (familyId : UInt16) (seq : UInt32) (name : Bytes) (nlh : MsgBuf)
    (built : buildGetDeviceMessage familyId seq name = .ok nlh) : nlh.seq = seq ∧ nlh.type = familyId := by
  unfold buildGetDeviceMessage at built
  obtain ⟨_, -, returned⟩ := (bind_ok_iff _ _ _).mp built
  obtain rfl := Except.ok.inj returned
  exact ⟨rfl, rfl⟩

section Tasks

variable (strerror : Int → Bytes) (inet : Inet) (ssl : OpenSSL) (fresh : FreshOctets)

/-- A lookup and what follows once the family is known. -/
theorem spends_looked_up (around : Surroundings) (sock : NlSocket) (room : sock.seq.toNat + 2 < 2 ^ 32)
    {known : NlSocket} {familyId : UInt16} {rest : List Received}
    (found : wireGuardFamilyId strerror sock around.lookupSent around.stream = .value familyId known rest)
    (built : List MsgBuf) (few : built.length ≤ 1)
    (single : ∀ nlh ∈ built, nlh.seq = known.nextSeq.1 ∧ nlh.type = familyId)
    (ended : Option (NlSocket × List Received)) (same : ∀ final ∈ ended, final.1 = known.nextSeq.2) :
    Spends sock (lookups sock ++ built) ended 2 := by
  obtain ⟨looked, kept⟩ := family_spends strerror sock (by omega) around.lookupSent around.stream
  obtain ⟨rfl, nonzero⟩ := kept _ _ _ found
  rw [found] at looked
  have bound := (spends_ended looked).2
  refine spends_append looked (spends_next known (by omega) built ?_ few ended same)
  intro nlh member
  exact ⟨(single nlh member).1, (single nlh member).2, nonzero⟩

/-- A lookup that finds no family ends the call. -/
theorem spends_not_found (sock : NlSocket) (room : sock.seq.toNat + 2 < 2 ^ 32) (sent : Option Int)
    (stream : List Received) :
    Spends sock (lookups sock) (remaining (wireGuardFamilyId strerror sock sent stream)) 2 := by
  obtain ⟨after, disciplined, few, same⟩ := (family_spends strerror sock (by omega) sent stream).1
  exact ⟨after, disciplined, by omega, same⟩

/-- A fetch from the kernel takes a number for the lookup and one for the dump. The second is
taken before the request is built, so it is gone also where the name is refused. -/
theorem fetch_kernel_spends (around : Surroundings) (sock : NlSocket) (name : Bytes)
    (room : sock.seq.toNat + 2 < 2 ^ 32) :
    Spends sock (recordedFetchKernel strerror inet fresh around sock name).1
      (remaining (recordedFetchKernel strerror inet fresh around sock name).2) 2 := by
  have ended := spends_not_found strerror sock room around.lookupSent around.stream
  unfold recordedFetchKernel
  cases looked : wireGuardFamilyId strerror sock around.lookupSent around.stream with
  | waiting => rwa [looked] at ended
  | threw failure next rest => rwa [looked] at ended
  | value familyId known rest =>
    have following := spends_looked_up strerror around sock room looked
    simp only
    cases built : buildGetDeviceMessage familyId known.nextSeq.1 name with
    | error failure =>
      have taken := following [] (by simp) (by simp) (some (known.nextSeq.2, rest)) (by simp)
      rwa [List.append_nil] at taken
    | ok nlh =>
      refine following [nlh] (by simp) ?_ _ (result_remaining _ known.nextSeq.2)
      intro other member
      rw [List.mem_singleton.mp member]
      exact build_get_device_message_header familyId _ name nlh built

/-- So does a change of the kernel's device: a number for the lookup and one for the request. -/
theorem apply_kernel_spends (around : Surroundings) (sock : NlSocket) (name : Bytes) (cfg : Config)
    (room : sock.seq.toNat + 2 < 2 ^ 32) :
    Spends sock ((applyConfigKernel strerror inet around sock name cfg).1.filterMap message)
      (remaining (applyConfigKernel strerror inet around sock name cfg).2) 2 := by
  have ended := spends_not_found strerror sock room around.lookupSent around.stream
  unfold applyConfigKernel
  cases looked : wireGuardFamilyId strerror sock around.lookupSent around.stream with
  | waiting => rwa [looked] at ended
  | threw failure next rest => rwa [looked] at ended
  | value familyId known rest =>
    have following := spends_looked_up strerror around sock room looked
    simp only
    cases built : buildSetDeviceMessage inet familyId known.nextSeq.1 name cfg with
    | error failure =>
      have taken := following [] (by simp) (by simp) (some (known.nextSeq.2, rest)) (by simp)
      rwa [List.append_nil] at taken
    | ok nlh =>
      have taken := following [nlh] (by simp) (fun other member => ?_) _
        (result_remaining (sendAndReceive strerror nlh.seq known.nextSeq.2.portid applyHandler
          around.requestSent () rest) known.nextSeq.2)
      · simpa [lookups, message] using taken
      · obtain ⟨-, -, type, -, seq⟩ :=
          build_set_device_message_content inet familyId _ name cfg nlh built
        rw [List.mem_singleton.mp member]
        exact ⟨seq, type⟩

/-- A task takes at most two numbers, on whichever backend it ends up. A control socket takes
none, and neither does a name that is refused. -/
theorem task_spends (around : Surroundings) (sock : NlSocket) (task : Task)
    (room : sock.seq.toNat + 2 < 2 ^ 32) :
    Spends sock (performTask strerror inet ssl fresh around sock task).1
      (performTask strerror inet ssl fresh around sock task).2 2 := by
  cases task with
  | fetch name =>
    simp only [performTask, recordedFetch]
    cases hasSocket around.access name with
    | error failure => exact spends_none sock _ (by simp [remaining]) 2
    | ok found =>
      cases found with
      | true => exact spends_none sock _ (transacted_remaining strerror around sock name _ _) 2
      | false => exact fetch_kernel_spends strerror inet fresh around sock name room
  | apply name cfg =>
    simp only [performTask, applyConfig]
    cases hasSocket around.access name with
    | error failure => exact spends_none sock _ (by simp [remaining]) 2
    | ok found =>
      cases found with
      | true =>
        cases SetRequest.buildSetRequest inet cfg with
        | error failure => exact spends_none sock _ (by simp [remaining]) 2
        | ok request => exact spends_none sock _ (transacted_remaining strerror around sock name _ _) 2
      | false => exact apply_kernel_spends strerror inet around sock name cfg room

/-- A run takes at most two numbers for each of its tasks. The induction is on the tasks: the
socket that one leaves is the one the others begin with. -/
theorem run_spends (tasks : List (Task × Surroundings)) (sock : NlSocket) (queue : List Received)
    (room : sock.seq.toNat + 2 * tasks.length < 2 ^ 32) :
    Spends sock (run strerror inet ssl fresh sock queue tasks).1
      (run strerror inet ssl fresh sock queue tasks).2 (2 * tasks.length) := by
  induction tasks generalizing sock queue with
  | nil => exact spends_none sock _ (by simp [run]) 0
  | cons head later inductionHypothesis =>
    obtain ⟨task, around⟩ := head
    rw [List.length_cons] at room
    have one := task_spends strerror inet ssl fresh
      { around with
        stream := queue ++ around.stream } sock task (by omega)
    simp only [run, List.length_cons]
    split
    · rename_i requests performed
      rw [performed] at one
      obtain ⟨after, disciplined, few, same⟩ := one
      exact ⟨after, disciplined, by omega, same⟩
    · rename_i requests next rest performed
      rw [performed] at one
      have bound := (spends_ended one).2
      have others := inductionHypothesis next rest (by omega)
      rw [show 2 * (later.length + 1) = 2 + 2 * later.length by omega]
      exact spends_append one others

end Tasks

/-- Over the life of a client, whatever the system answers, the numbers of its netlink requests
rise, its lookups stand before all other requests, and these all go to one family.

Proof: every call spends at most two numbers and keeps its requests disciplined, by the cases of
its code: the lookup takes one, the request that follows takes the next, even where it is not
built. Discipline is kept by appending, so by induction it holds of a whole run, and there is
room for all numbers. -/
theorem requests_in_order (strerror : Int → Bytes) (inet : Inet) (ssl : OpenSSL) (fresh : FreshOctets)
    (portid : UInt32) (tasks : List (Task × Surroundings)) (room : 2 * tasks.length < 2 ^ 32) :
    let requests := (run strerror inet ssl fresh { portid } [] tasks).1
    (requests.map (·.seq.toNat)).Pairwise (· < ·) ∧
      ∃ familyId asked others, requests = asked ++ others ∧
        (∀ nlh ∈ asked, ∃ seq, nlh = familyRequest seq) ∧
        ∀ nlh ∈ others, nlh.type = familyId ∧ familyId ≠ 0 := by
  intro requests
  obtain ⟨after, disciplined, -, -⟩ :=
    run_spends strerror inet ssl fresh tasks { portid } [] (by simpa using room)
  obtain ⟨asked, others, split, lookup, -, family⟩ := disciplined.addressed
  exact ⟨disciplined.rising, after.wgFamilyId, asked, others, split, lookup, family⟩

/-- A lookup that cannot be sent, and then one that is answered. -/
def unluckyTasks : List (Task × Surroundings) :=
  [(.fetch (ascii "wg0"), { lookupSent := some 105 }),
    (.fetch (ascii "wg0"), { stream := [.datagram [sampleReply 2]] })]

/-- Their requests are in order, although the first lookup never leaves. -/
theorem unlucky_requests_in_order :
    let requests := (run (fun _ => []) AddressForms.plainInet GetSections.idleSsl zeroed { portid := 7 } []
      unluckyTasks).1
    (requests.map (·.seq.toNat)).Pairwise (· < ·) ∧
      ∃ familyId asked others, requests = asked ++ others ∧
        (∀ nlh ∈ asked, ∃ seq, nlh = familyRequest seq) ∧
        ∀ nlh ∈ others, nlh.type = familyId ∧ familyId ≠ 0 :=
  requests_in_order (fun _ => []) AddressForms.plainInet GetSections.idleSsl zeroed 7 unluckyTasks
    (by decide)

end NodeWireguard.SocketRequests
