import Mathlib
import NodeWireguard.Foundations.Fallible
import NodeWireguard.Helpers.IfName

/-!
# The socket directory

`SocketPath`, `HasSocket` and `ListInterfaceNames` of `UapiSocket.cpp`. A daemon that serves
an interface leaves its control socket in a fixed directory, under the interface's name; the
name is checked before it becomes part of a path.

What `access` says about a path and what `readdir` lists belong to the file system: the first
is a predicate on paths, the second a list of entries, or nothing where the directory cannot
be opened. No connection between the two is assumed here.
-/

namespace NodeWireguard.SocketDirectory

open ByteText DecimalText IfName Fallible

/-- `kSocketDir` -/
def kSocketDir : Bytes := ascii "/var/run/wireguard"

/-- The ending of a control socket's file name. -/
def suffix : Bytes := ascii ".sock"

/-- `SocketPath`: the directory, the checked name and the suffix. -/
def socketPath (name : Bytes) : Except Exception Bytes := do
  validateIfName name
  return kSocketDir ++ ascii "/" ++ name ++ suffix

/-- `access` is true of a path that `access(path, F_OK)` finds. -/
def hasSocket (access : Bytes → Bool) (name : Bytes) : Except Exception Bool := do
  let path ← socketPath name
  return access path

/-- One iteration of the loop over directory entries. Only `invalid_argument` is caught. -/
def addInterfaceName (names : List Bytes) (fname : Bytes) : Except Exception (List Bytes) :=
  if suffix.length < fname.length ∧ fname.drop (fname.length - suffix.length) = suffix then
    let name := fname.take (fname.length - suffix.length)
    match validateIfName name with
    | .ok _ => .ok (names ++ [name])
    | .error (.invalidArgument _) => .ok names
    | .error failure => .error failure
  else .ok names

/-- A directory that cannot be opened lists no names. -/
def listInterfaceNames (entries : Option (List Bytes)) : Except Exception (List Bytes) :=
  match entries with
  | none => .ok []
  | some entries => entries.foldlM addInterfaceName []

/-- The path of a name that is accepted. -/
def pathOf (name : Bytes) : Bytes := kSocketDir ++ ascii "/" ++ name ++ suffix

/-- A path is returned exactly for a valid name. -/
theorem socket_path_ok_iff (name path : Bytes) :
    socketPath name = .ok path ↔ ValidName name ∧ path = pathOf name := by
  simp only [socketPath, bind_ok_iff, ← validate_if_name_iff, pathOf]
  constructor
  · rintro ⟨_, checked, same⟩
    exact ⟨checked, (Except.ok.inj same).symm⟩
  · rintro ⟨checked, rfl⟩
    exact ⟨(), checked, rfl⟩

/-- Whether there is a socket is answered exactly for a valid name, and by `access` on its path. -/
theorem has_socket_ok_iff (access : Bytes → Bool) (name : Bytes) (found : Bool) :
    hasSocket access name = .ok found ↔ ValidName name ∧ found = access (pathOf name) := by
  simp only [hasSocket, bind_ok_iff, socket_path_ok_iff]
  constructor
  · rintro ⟨path, ⟨valid, rfl⟩, same⟩
    exact ⟨valid, (Except.ok.inj same).symm⟩
  · rintro ⟨valid, rfl⟩
    exact ⟨pathOf name, ⟨valid, rfl⟩, rfl⟩

/-- Names are refused with the exception the loop catches. -/
theorem validate_if_name_refuses (name : Bytes) (failure : Exception)
    (refused : validateIfName name = .error failure) : ∃ text, failure = .invalidArgument text := by
  unfold validateIfName at refused
  split_ifs at refused <;> exact ⟨_, (Except.error.inj refused).symm⟩

/-- A file name that ends like a socket's is a name with that ending. The ending is compared at
the end of the name, and what is in front of it is kept. -/
theorem socket_file_iff (fname name : Bytes) :
    suffix.length < fname.length ∧ fname.drop (fname.length - suffix.length) = suffix ∧
        name = fname.take (fname.length - suffix.length) ↔
      name ≠ [] ∧ fname = name ++ suffix := by
  constructor
  · rintro ⟨longer, ending, rfl⟩
    refine ⟨?_, ?_⟩
    · intro empty
      have size := congrArg List.length empty
      rw [List.length_take, List.length_nil] at size
      omega
    · have whole := List.take_append_drop (fname.length - suffix.length) fname
      rw [ending] at whole
      exact whole.symm
  · rintro ⟨nonempty, rfl⟩
    have positive := List.length_pos_iff.mpr nonempty
    have front : (name ++ suffix).length - suffix.length = name.length := by simp
    refine ⟨by simpa using positive, ?_, ?_⟩
    · rw [front, List.drop_left]
    · rw [front, List.take_left]

/-- The name a file of the directory is the control socket of, where there is one. -/
def socketName (fname : Bytes) : Option Bytes :=
  let name := fname.take (fname.length - suffix.length)
  if fname = name ++ suffix then
    match validateIfName name with
    | .ok _ => some name
    | .error _ => none
  else none

/-- A file name gives the interface whose socket it is named for, if there is one. -/
theorem socket_name_iff (fname name : Bytes) :
    socketName fname = some name ↔ ValidName name ∧ fname = name ++ suffix := by
  have cut (front : Bytes) :
      (front ++ suffix).take ((front ++ suffix).length - suffix.length) = front := by
    rw [List.length_append, Nat.add_sub_cancel, List.take_left]
  constructor
  · intro found
    rw [socketName] at found
    split at found
    · rename_i same
      split at found
      · rename_i checked
        obtain rfl := Option.some.inj found
        exact ⟨(validate_if_name_iff _).mp checked, same⟩
      · cases found
    · cases found
  · rintro ⟨valid, rfl⟩
    simp only [socketName, cut, ↓reduceIte, (validate_if_name_iff name).mpr valid]

/-- One entry adds the name it is the socket of, and nothing else. A name that is refused is
skipped, because only the exception for an invalid argument is caught and the check throws no
other. -/
theorem add_interface_name_eq (names : List Bytes) (fname : Bytes) :
    addInterfaceName names fname = .ok (names ++ (socketName fname).toList) := by
  rw [addInterfaceName]
  split
  · rename_i file
    have same := ((socket_file_iff fname _).mp ⟨file.1, file.2, rfl⟩).2
    cases checked : validateIfName (fname.take (fname.length - suffix.length)) with
    | ok _ =>
      have found := (socket_name_iff fname _).mpr ⟨(validate_if_name_iff _).mp checked, same⟩
      simp only [checked, found, Option.toList_some]
    | error failure =>
      obtain ⟨text, rfl⟩ := validate_if_name_refuses _ failure checked
      have none : socketName fname = none := by
        rw [socketName, if_pos same, checked]
      simp only [checked, none, Option.toList_none, List.append_nil]
  · rename_i file
    have none : socketName fname = none := by
      apply Option.eq_none_iff_forall_ne_some.mpr
      intro name found
      obtain ⟨valid, same⟩ := (socket_name_iff fname name).mp found
      obtain ⟨longer, ending, -⟩ := (socket_file_iff fname name).mpr ⟨valid.nonempty, same⟩
      exact file ⟨longer, ending⟩
    rw [none, Option.toList_none, List.append_nil]

/-- Listing never throws; it takes the entries in order and keeps the names they are the
sockets of. -/
theorem list_interface_names_eq (entries : Option (List Bytes)) :
    listInterfaceNames entries = .ok ((entries.getD []).filterMap socketName) := by
  have loop (files before : List Bytes) :
      files.foldlM addInterfaceName before = .ok (before ++ files.filterMap socketName) := by
    induction files generalizing before with
    | nil => simp [pure, Except.pure]
    | cons fname files inductionHypothesis =>
      rw [List.foldlM_cons, add_interface_name_eq]
      refine (inductionHypothesis _).trans ?_
      cases found : socketName fname with
      | none => rw [List.filterMap_cons_none found, Option.toList_none, List.append_nil]
      | some name =>
        rw [List.filterMap_cons_some found, Option.toList_some, List.append_assoc,
          List.singleton_append]
  cases entries with
  | none => rfl
  | some files => exact loop files []

/-- The names listed are the valid ones that have a socket file in the directory. -/
theorem list_interface_names_spec (entries : Option (List Bytes)) :
    ∃ names, listInterfaceNames entries = .ok names ∧
      ∀ name, name ∈ names ↔ ValidName name ∧ name ++ suffix ∈ entries.getD [] := by
  refine ⟨_, list_interface_names_eq entries, ?_⟩
  intro name
  simp only [List.mem_filterMap, socket_name_iff]
  constructor
  · rintro ⟨fname, listed, valid, rfl⟩
    exact ⟨valid, listed⟩
  · rintro ⟨valid, listed⟩
    exact ⟨_, listed, valid, rfl⟩

end NodeWireguard.SocketDirectory
