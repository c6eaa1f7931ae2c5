import Mathlib
import NodeWireguard.Foundations.ByteText

/-!
# Decimal text

`std::to_string` renders a number; the `strtol` family scans one, skipping leading
white space, taking an optional sign and stopping at the first octet that is not a
digit. The scan reports how much it consumed, so a caller can tell whether the
whole text was a number. Values are unbounded here; each conversion applies the
range of its own result type.

Texts that consist of digits only are read back exactly, with any number of
leading zeros.
-/

namespace NodeWireguard.DecimalText

open ByteText

/-- `isdigit` in the C locale. -/
def isDigit (octet : UInt8) : Bool := 48 ≤ octet && octet ≤ 57

/-- `isspace` in the C locale: the blank and the five controls from tab on. -/
def isSpace (octet : UInt8) : Bool := octet == 32 || (9 ≤ octet && octet ≤ 13)

/-- Value of a run of digits, most significant first. -/
def digitsValue (digits : Bytes) : Nat :=
  digits.foldl (fun value octet => 10 * value + (octet.toNat - 48)) 0

/-- `std::to_string` of an unsigned number. -/
def decimal (value : Nat) : Bytes := (Nat.toDigits 10 value).map byte

/-- What a `strtol` scan found: the sign, the magnitude before any range check,
and the number of octets read, white space and sign included. -/
structure Scanned where
  negative : Bool
  magnitude : Nat
  consumed : Nat
  deriving DecidableEq

/-- The sign a number may start with and the rest of the text. -/
def takeSign : Bytes → Bool × Nat × Bytes
  | [] => (false, 0, [])
  | head :: rest =>
      if head = byte '-' then (true, 1, rest)
      else if head = byte '+' then (false, 1, rest)
      else (false, 0, head :: rest)

/-- `strtol(text, &end, 10)` without its range check; no digit means no conversion. -/
def scanInteger (text : Bytes) : Option Scanned :=
  let blanks := text.takeWhile isSpace
  let (negative, signLength, unsigned) := takeSign (text.dropWhile isSpace)
  let digits := unsigned.takeWhile isDigit
  if digits = [] then none
  else some ⟨negative, digitsValue digits, blanks.length + signLength + digits.length⟩

/-- The two exceptions of the `std::sto*` conversions. -/
inductive ConversionFailure where
  | invalidArgument
  | outOfRange
  deriving DecidableEq

/-- `std::stoi(text, &consumed)` with a 32-bit `int`. -/
def stoi (text : Bytes) : Except ConversionFailure (Int × Nat) :=
  match scanInteger text with
  | none => .error .invalidArgument
  | some scanned =>
      let value : Int := if scanned.negative then -scanned.magnitude else scanned.magnitude
      if -2 ^ 31 ≤ value ∧ value < 2 ^ 31 then .ok (value, scanned.consumed)
      else .error .outOfRange

/-- The characters between zero and nine are the digit octets, with the same value. -/
theorem byte_digit (c : Char) (digit : c.isDigit = true) :
    isDigit (byte c) = true ∧ (byte c).toNat = c.toNat := by
  have bounds : 48 ≤ c.toNat ∧ c.toNat ≤ 57 := by
    simpa [Char.isDigit, UInt32.le_iff_toNat_le] using digit
  have small : (byte c).toNat = c.toNat := by
    simp only [byte, UInt8.toNat_ofNat']
    omega
  refine ⟨?_, small⟩
  simp only [isDigit, Bool.and_eq_true, decide_eq_true_eq, UInt8.le_iff_toNat_le, small]
  simpa using bounds

/-- Every octet of a rendered number is a digit. -/
theorem decimal_digits (value : Nat) : ∀ octet ∈ decimal value, isDigit octet = true := by
  intro octet member
  obtain ⟨c, listed, rfl⟩ := List.mem_map.mp member
  exact (byte_digit c (Nat.isDigit_of_mem_toDigits (by omega) (by omega) listed)).1

/-- A rendered number has at least one digit. -/
theorem decimal_nonempty (value : Nat) : decimal value ≠ [] := by
  simp [decimal, Nat.toDigits_ne_nil]

/-- Reading the digits of a rendered number gives the number back. -/
theorem decimal_value (value : Nat) : digitsValue (decimal value) = value := by
  have sameFold (chars : List Char) (digits : ∀ c ∈ chars, c.isDigit = true) (start : Nat) :
      (chars.map byte).foldl (fun total octet => 10 * total + (octet.toNat - 48)) start =
        chars.foldl (fun total c => 10 * total + (c.toNat - '0'.toNat)) start := by
    induction chars generalizing start with
    | nil => rfl
    | cons c rest inductionHypothesis =>
      simp only [List.map_cons, List.foldl_cons, (byte_digit c (digits c (by simp))).2]
      exact inductionHypothesis (fun other member => digits other (by simp [member])) _
  rw [digitsValue, decimal, sameFold _ (fun c listed =>
    Nat.isDigit_of_mem_toDigits (by omega) (by omega) listed), ← Nat.ofDigitChars_eq_foldl]
  exact Nat.ofDigitChars_ten_toDigits

/-- A digit is neither white space nor a sign. -/
theorem digit_plain (octet : UInt8) (digit : isDigit octet = true) :
    isSpace octet = false ∧ octet ≠ byte '-' ∧ octet ≠ byte '+' := by
  simp only [isDigit, Bool.and_eq_true, decide_eq_true_eq, UInt8.le_iff_toNat_le] at digit
  have low : 48 ≤ octet.toNat := digit.1
  refine ⟨?_, ?_, ?_⟩
  · simp only [isSpace, Bool.or_eq_false_iff, beq_eq_false_iff_ne, Bool.and_eq_false_iff,
      decide_eq_false_iff_not, UInt8.le_iff_toNat_le]
    refine ⟨fun same => ?_, Or.inr fun bound => ?_⟩
    · simp [same] at low
    · exact absurd (Nat.le_trans low bound) (by decide)
  all_goals
    rintro rfl
    exact absurd low (by decide)

/-- A text of digits only is scanned whole, as an unsigned number. -/
theorem scan_digits (digits : Bytes) (nonempty : digits ≠ [])
    (all : ∀ octet ∈ digits, isDigit octet = true) :
    scanInteger digits = some ⟨false, digitsValue digits, digits.length⟩ := by
  cases digits with
  | nil => exact absurd rfl nonempty
  | cons head rest =>
    obtain ⟨notSpace, notMinus, notPlus⟩ := digit_plain head (all head (by simp))
    have wholeRun : (head :: rest).takeWhile isDigit = head :: rest :=
      List.takeWhile_eq_self_iff.mpr all
    simp [scanInteger, takeSign, notSpace, notMinus, notPlus, wholeRun]

/-- A text of digits whose value fits an `int` converts to that value, fully consumed. -/
theorem stoi_digits (digits : Bytes) (nonempty : digits ≠ [])
    (all : ∀ octet ∈ digits, isDigit octet = true) (fits : digitsValue digits < 2 ^ 31) :
    stoi digits = .ok (digitsValue digits, digits.length) := by
  have range : -2 ^ 31 ≤ (digitsValue digits : Int) ∧ (digitsValue digits : Int) < 2 ^ 31 := by
    omega
  simp only [stoi, scan_digits digits nonempty all, Bool.false_eq_true, ↓reduceIte, range,
    and_self]

/-- No mark other than a digit occurs in a rendered number. -/
theorem decimal_lacks (value : Nat) (mark : UInt8) (other : isDigit mark = false) :
    mark ∉ decimal value := by
  intro member
  simp [decimal_digits value mark member] at other

end NodeWireguard.DecimalText
