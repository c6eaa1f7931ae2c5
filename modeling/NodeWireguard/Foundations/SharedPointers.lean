import Mathlib

/-!
# Shared pointers

An object that is destroyed when the last of its pointers is dropped. Only the count of
pointers and the number of times the destructor ran are kept; who holds a pointer is known
to the program around it. As long as every holder has one pointer, the count is the number
of holders, and the object is destroyed once, when there are none.
-/

namespace NodeWireguard.SharedPointers

universe u
variable {ι : Type u} [DecidableEq ι]

/-- A control block: the pointers there are, and how often the destructor ran. -/
structure Shared where
  count : Nat
  destroyed : Nat
  deriving DecidableEq

/-- `std::make_shared` -/
def Shared.make : Shared := ⟨1, 0⟩

/-- Copying a pointer. -/
def Shared.copy (shared : Shared) : Shared := { shared with count := shared.count + 1 }

/-- Destroying or resetting a pointer; the last one takes the object with it. -/
def Shared.drop (shared : Shared) : Shared :=
  if shared.count = 1 then ⟨0, shared.destroyed + 1⟩
  else { shared with count := shared.count - 1 }

/-- Each of the holders has one pointer, and nobody else has one. -/
structure HeldBy (holders : Finset ι) (shared : Shared) : Prop where
  count : shared.count = holders.card
  destroyed : shared.destroyed = if holders = ∅ then 1 else 0

/-- A new object is held by the one pointer that was made with it. -/
theorem make_held (holder : ι) : HeldBy {holder} Shared.make := by
  constructor
  · simp [Shared.make]
  · simp [Shared.make]

/-- A holder gives another one a copy. -/
theorem copy_held (holders : Finset ι) (shared : Shared) (holder : ι) (held : HeldBy holders shared)
    (some : holders.Nonempty) (fresh : holder ∉ holders) :
    HeldBy (insert holder holders) shared.copy := by
  constructor
  · rw [Finset.card_insert_of_notMem fresh, Shared.copy, held.count]
  · rw [Shared.copy, held.destroyed, if_neg some.ne_empty, if_neg (Finset.insert_ne_empty _ _)]

/-- A holder drops its pointer. The count goes down by one, and the object is destroyed when no
holder is left. -/
theorem drop_held (holders : Finset ι) (shared : Shared) (holder : ι) (held : HeldBy holders shared)
    (holds : holder ∈ holders) : HeldBy (holders.erase holder) shared.drop := by
  have alive : shared.destroyed = 0 := by
    rw [held.destroyed, if_neg (Finset.ne_empty_of_mem holds)]
  have others : (holders.erase holder).card = holders.card - 1 := Finset.card_erase_of_mem holds
  have positive := Finset.card_pos.mpr ⟨holder, holds⟩
  by_cases last : shared.count = 1
  · have none : holders.erase holder = ∅ := by
      rw [← Finset.card_eq_zero, others, ← held.count, last]
    constructor
    · simp [Shared.drop, last, none]
    · simp [Shared.drop, last, none, alive]
  · have more : holders.erase holder ≠ ∅ := by
      intro none
      rw [← Finset.card_eq_zero, others, ← held.count] at none
      have count := held.count
      omega
    constructor
    · rw [Shared.drop, if_neg last, others, held.count]
    · rw [Shared.drop, if_neg last, if_neg more, alive]

end NodeWireguard.SharedPointers
