import Mathlib

/-!
# Positional numerals

A numeral is a list of digits, most significant first, read in a base. Reading one digit
more multiplies by the base and adds the digit, so a loop that shifts digits into a number
computes its value. Numerals of one length with digits below the base are equal when their
values are.

Values are unbounded; a word that holds one keeps only its remainder.
-/

namespace NodeWireguard.Numerals

/-- The value of a list of digits, most significant first. -/
def value (base : Nat) (digits : List Nat) : Nat :=
  digits.foldl (fun total digit => base * total + digit) 0

/-- No digits denote zero. -/
@[simp] theorem value_nil (base : Nat) : value base [] = 0 := rfl

/-- One digit more shifts the earlier ones up by a place. -/
@[simp] theorem value_concat (base : Nat) (digits : List Nat) (digit : Nat) :
    value base (digits ++ [digit]) = base * value base digits + digit := by
  simp only [value, List.foldl_append, List.foldl_cons, List.foldl_nil]

/-- The library's value, which takes the least significant digit first. -/
theorem value_of_digits (base : Nat) (digits : List Nat) :
    value base digits = Nat.ofDigits base digits.reverse := by
  induction digits using List.reverseRecOn with
  | nil => rfl
  | append_singleton front last inductionHypothesis =>
    rw [value_concat, List.reverse_append, List.reverse_singleton, List.singleton_append,
      Nat.ofDigits_cons, inductionHypothesis]
    exact Nat.add_comm _ _

/-- A numeral is at least as large as each of its beginnings. -/
theorem value_prefix (base : Nat) (positive : 0 < base) (front rest : List Nat) :
    value base front ≤ value base (front ++ rest) := by
  induction rest using List.reverseRecOn with
  | nil => simp
  | append_singleton middle last inductionHypothesis =>
    rw [← List.append_assoc, value_concat]
    have scaled : value base (front ++ middle) ≤ base * value base (front ++ middle) :=
      Nat.le_mul_of_pos_left _ positive
    omega

/-- Numerals of one length with the same value are the same numeral. -/
theorem value_injective (base : Nat) (large : 1 < base) (left right : List Nat)
    (width : left.length = right.length) (leftDigits : ∀ digit ∈ left, digit < base)
    (rightDigits : ∀ digit ∈ right, digit < base) (same : value base left = value base right) :
    left = right := by
  rw [value_of_digits, value_of_digits] at same
  have reversed : left.reverse = right.reverse :=
    Nat.ofDigits_inj_of_len_eq large (by simpa using width)
      (by simpa using leftDigits) (by simpa using rightDigits) same
  exact List.reverse_injective reversed

end NodeWireguard.Numerals
