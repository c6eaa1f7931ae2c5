import Mathlib
import NodeWireguard.Foundations.DecimalText
import NodeWireguard.WireGuardTypes

/-!
# Interface names

`ValidateIfName` of `IfName.cpp`. An accepted name is short, is not a directory
reference, and has neither a slash, nor a blank, nor a control octet. In particular it
has no zero octet, so functions that take a C string read it whole.
-/

namespace NodeWireguard.IfName

open ByteText DecimalText

/-- `IFNAMSIZ`, with the terminating zero that the kernel appends. -/
def IFNAMSIZ : Nat := 16

/-- A character the loop refuses. -/
def refusedChar (c : UInt8) : Bool := c == 0 || c == byte '/' || c ≤ byte ' '

/-- `ValidateIfName`: the checks are made in this order, each with a text of its own. -/
def validateIfName (name : Bytes) : Except Exception Unit :=
  if name = [] then .error (.invalidArgument (ascii "interface name must not be empty"))
  else if name = ascii "." ∨ name = ascii ".." then
    .error (.invalidArgument (ascii "invalid interface name: " ++ name))
  else if IFNAMSIZ - 1 < name.length then
    .error (.invalidArgument (ascii "interface name too long (max " ++ decimal (IFNAMSIZ - 1)
      ++ ascii " bytes): " ++ name))
  else if name.any refusedChar then
    .error (.invalidArgument (ascii "invalid character in interface name: " ++ name))
  else .ok ()

/-- An accepted name, as the checks leave it. In particular it has no slash and no white space,
and fits in `IFNAMSIZ` with its terminator. -/
structure ValidName (name : Bytes) : Prop where
  nonempty : name ≠ []
  notDots : name ≠ ascii "." ∧ name ≠ ascii ".."
  short : name.length ≤ 15
  plain : ∀ c ∈ name, c ≠ byte '/' ∧ byte ' ' < c

/-- The check accepts exactly the valid names. The checks are negated one after the other; what
is left is a name that is not empty, is no dot or two, has at most fifteen octets and no refused
one. -/
theorem validate_if_name_iff (name : Bytes) : validateIfName name = .ok () ↔ ValidName name := by
  have accepted (c : UInt8) : refusedChar c = false ↔ c ≠ byte '/' ∧ byte ' ' < c := by
    have blank : (byte ' ').toNat = 32 := by decide
    simp only [refusedChar, Bool.or_eq_false_iff, beq_eq_false_iff_ne, decide_eq_false_iff_not,
      UInt8.not_le]
    constructor
    · rintro ⟨⟨-, notSlash⟩, above⟩
      exact ⟨notSlash, above⟩
    · rintro ⟨notSlash, above⟩
      refine ⟨⟨?_, notSlash⟩, above⟩
      rintro rfl
      exact absurd above (by decide)
  constructor
  · intro checked
    unfold validateIfName at checked
    split at checked
    · cases checked
    · rename_i nonempty
      split at checked
      · cases checked
      · rename_i dots
        split at checked
        · cases checked
        · rename_i long
          split at checked
          · cases checked
          · rename_i refused
            refine ⟨nonempty, not_or.mp dots, ?_, ?_⟩
            · simpa [IFNAMSIZ] using long
            · intro c member
              refine (accepted c).mp ?_
              have none := List.any_eq_false.mp (by simpa using refused) c member
              simpa using none
  · intro valid
    have length : ¬ IFNAMSIZ - 1 < name.length := by
      have short := valid.short
      simp only [IFNAMSIZ]
      omega
    have none : name.any refusedChar = false :=
      List.any_eq_false.mpr (fun c member => by simp [(accepted c).mpr (valid.plain c member)])
    have dots : ¬ (name = ascii "." ∨ name = ascii "..") := not_or.mpr valid.notDots
    simp [validateIfName, valid.nonempty, dots, length, none]

/-- A valid name is read whole as a C string. -/
theorem c_string_valid (name : Bytes) (valid : ValidName name) : cString name = name := by
  apply c_string_whole
  intro zero
  exact absurd (valid.plain 0 zero).2 (by decide)

end NodeWireguard.IfName
