import Mathlib
import NodeWireguard.Uapi.Transact

/-!
# Names and socket paths

The name check, the path builder and the directory listing of `UapiSocket.cpp` fit
together. A path that is built names a direct child of the socket directory and reaches
the socket address whole; different names have different paths. The listing strips the
suffix that the path builder adds, so a name is listed exactly where its path is found,
given that `access` finds the entries of the directory and nothing else in it.

Entries that appear or vanish between the two calls are outside this statement.
-/

namespace NodeWireguard.SocketNames

open ByteText DecimalText IfName SocketDirectory Transact

/-- `access` finds the entries of the socket directory and nothing else in it. -/
def FindsEntries (access : Bytes → Bool) (entries : List Bytes) : Prop :=
  ∀ file, byte '/' ∉ file → 0 ∉ file →
    (access (kSocketDir ++ ascii "/" ++ file) = true ↔ file ∈ entries)

/-- What `strncpy(addr.sun_path, path.c_str(), sizeof(addr.sun_path) - 1)` copies. -/
def sunPath (path : Bytes) : Bytes := (cString path).take (sunPathLen - 1)

/-- A socket path of a name: a direct child of the socket directory, which the socket
address holds whole. -/
structure DirectChild (name path : Bytes) : Prop where
  built : path = kSocketDir ++ ascii "/" ++ name ++ suffix
  component : ∀ c ∈ name ++ suffix, c ≠ byte '/' ∧ c ≠ 0 ∧ isSpace c = false
  notReference : name ++ suffix ≠ ascii "." ∧ name ++ suffix ≠ ascii ".."
  short : path.length < sunPathLen
  copied : sunPath path = path

/-- The name check and the suffix keep separators, zeros and blanks out of the last
component. -/
theorem component_plain (name : Bytes) (valid : ValidName name) :
    ∀ c ∈ name ++ suffix, c ≠ byte '/' ∧ c ≠ 0 ∧ isSpace c = false := by
  have blank (c : UInt8) (above : byte ' ' < c) : c ≠ 0 ∧ isSpace c = false := by
    have number : 32 < c.toNat := above
    simp only [isSpace, Bool.or_eq_false_iff, beq_eq_false_iff_ne, Bool.and_eq_false_iff,
      decide_eq_false_iff_not, UInt8.le_iff_toNat_le, ne_eq, ← UInt8.toNat_inj]
    simp only [UInt8.reduceToNat]
    omega
  have ending : ∀ c ∈ suffix, c ≠ byte '/' ∧ c ≠ 0 ∧ isSpace c = false := by
    decide +kernel
  intro c member
  rcases List.mem_append.mp member with inside | last
  · obtain ⟨notSlash, above⟩ := valid.plain c inside
    exact ⟨notSlash, blank c above⟩
  · exact ending c last

/-- A path that is built names a direct child of the socket directory. A valid name has no slash
in it, so the only one behind the directory is the one that was put there. -/
theorem socket_path_child (name path : Bytes) (built : socketPath name = .ok path) :
    DirectChild name path := by
  obtain ⟨valid, rfl⟩ := (socket_path_ok_iff name path).mp built
  have component := component_plain name valid
  have short := path_of_short name valid
  have long : 5 ≤ (name ++ suffix).length := by
    have ending : suffix.length = 5 := by decide
    rw [List.length_append, ending]
    omega
  have directory : 0 ∉ kSocketDir ++ ascii "/" := by decide
  have whole : cString (pathOf name) = pathOf name := by
    apply c_string_whole
    rw [pathOf, List.append_assoc, List.mem_append, not_or]
    exact ⟨directory, fun zero => (component 0 zero).2.1 rfl⟩
  refine ⟨rfl, component, ⟨?_, ?_⟩, short, ?_⟩
  · intro dot
    rw [dot] at long
    exact absurd long (by decide)
  · intro dots
    rw [dots] at long
    exact absurd long (by decide)
  · rw [sunPath, whole]
    exact List.take_of_length_le (by omega)

/-- Different names have different paths. -/
theorem socket_path_injective (left right path : Bytes) (first : socketPath left = .ok path)
    (second : socketPath right = .ok path) : left = right := by
  obtain ⟨-, same⟩ := (socket_path_ok_iff left path).mp first
  obtain ⟨-, rfl⟩ := (socket_path_ok_iff right path).mp second
  exact (List.append_cancel_left (List.append_cancel_right same)).symm

/-- Distinct entries are the sockets of distinct names. -/
theorem socket_names_nodup (entries : List Bytes) (distinct : entries.Nodup) :
    (entries.filterMap socketName).Nodup := by
  apply distinct.filterMap
  intro left right name first second
  rw [(socket_name_iff left name).mp first |>.2, (socket_name_iff right name).mp second |>.2]

/-- A socket is found exactly for a valid name with a socket file. -/
theorem has_socket_iff (access : Bytes → Bool) (entries : List Bytes)
    (finds : FindsEntries access entries) (name : Bytes) :
    hasSocket access name = .ok true ↔ ValidName name ∧ name ++ suffix ∈ entries := by
  rw [has_socket_ok_iff]
  refine and_congr_right (fun valid => ?_)
  have component := component_plain name valid
  rw [eq_comm, pathOf, List.append_assoc, finds (name ++ suffix)
    (fun slash => (component _ slash).1 rfl) (fun zero => (component _ zero).2.1 rfl)]

/-- Paths stay inside the socket directory, and the listing gives each name that has a path
there once.

Proof: a valid name has no slash and is not a dot or two, so its path is a child of the
directory; a path determines its name, because directory and suffix have fixed lengths. The
listing keeps the file names that a valid name and the suffix make up, each once as the directory
has each once, and `access` finds the same ones. -/
theorem socket_names_exact (entries : List Bytes) (access : Bytes → Bool)
    (distinct : entries.Nodup) (finds : FindsEntries access entries) :
    (∀ name path, socketPath name = .ok path → DirectChild name path) ∧
    (∀ left right path, socketPath left = .ok path → socketPath right = .ok path → left = right) ∧
    ∃ names, listInterfaceNames (some entries) = .ok names ∧ names.Nodup ∧
      (∀ name, name ∈ names ↔ validateIfName name = .ok () ∧ name ++ suffix ∈ entries) ∧
      (∀ name, name ∈ names ↔ hasSocket access name = .ok true) ∧
      ∀ name ∈ names, ∀ failure, hasSocket access name ≠ .error failure := by
  have listed (name : Bytes) : name ∈ entries.filterMap socketName ↔
      ValidName name ∧ name ++ suffix ∈ entries := by
    simp only [List.mem_filterMap, socket_name_iff]
    constructor
    · rintro ⟨fname, member, valid, rfl⟩
      exact ⟨valid, member⟩
    · rintro ⟨valid, member⟩
      exact ⟨_, member, valid, rfl⟩
  have found (name : Bytes) : name ∈ entries.filterMap socketName ↔ hasSocket access name = .ok true :=
    (listed name).trans (has_socket_iff access entries finds name).symm
  refine ⟨socket_path_child, socket_path_injective, _, list_interface_names_eq (some entries),
    socket_names_nodup entries distinct, ?_, found, ?_⟩
  · intro name
    rw [validate_if_name_iff]
    exact listed name
  · intro name member failure thrown
    rw [(found name).mp member] at thrown
    cases thrown

/-- A predicate on paths that knows the entries. -/
theorem entries_found (entries : List Bytes) :
    FindsEntries (fun path => decide (path ∈ entries.map (kSocketDir ++ ascii "/" ++ ·))) entries := by
  intro file _ _
  simp only [decide_eq_true_eq, List.mem_map, List.append_cancel_left_eq, exists_eq_right]

/-- A directory with two sockets, one of them of a name that itself ends like one, the bare
suffix, and a file of no interface. -/
theorem two_sockets_listed :
    let entries := [ascii "wg0.sock", ascii ".sock", ascii "wg0.sock.sock", ascii "a b.sock"]
    ∃ names, listInterfaceNames (some entries) = .ok names ∧ names.Nodup ∧
      (∀ name, name ∈ names ↔ validateIfName name = .ok () ∧ name ++ suffix ∈ entries) ∧
      (∀ name, name ∈ names ↔ hasSocket
        (fun path => decide (path ∈ entries.map (kSocketDir ++ ascii "/" ++ ·))) name = .ok true) ∧
      ∀ name ∈ names, ∀ failure, hasSocket
        (fun path => decide (path ∈ entries.map (kSocketDir ++ ascii "/" ++ ·))) name ≠ .error failure :=
  (socket_names_exact _ _ (by decide) (entries_found _)).2.2

end NodeWireguard.SocketNames
