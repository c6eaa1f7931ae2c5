import Mathlib
import NodeWireguard.Foundations.DecimalText

/-!
# Integer conversions of whole texts

`std::stoul`, `std::stoull` and `std::stoll` beside `std::stoi`. All of them skip leading
white space and take a sign, and stop at the first other octet; the unsigned ones negate
modulo 2^64 after a minus. On this host an `unsigned long` has 64 bits.

A caller that also checks how much was consumed accepts white space, one sign and digits.
A strict text is digits only.
-/

namespace NodeWireguard.IntegerConversions

open ByteText DecimalText

/-- The sign in front of a number, and whether it is a minus. -/
inductive SignText : Bytes → Bool → Prop where
  | none : SignText [] false
  | plus : SignText [byte '+'] false
  | minus : SignText [byte '-'] true

/-- A text that a conversion reads to its end: white space, a sign, and digits. -/
structure LenientParts (text blanks sign digits : Bytes) (negative : Bool) : Prop where
  whole : text = blanks ++ (sign ++ digits)
  blank : ∀ octet ∈ blanks, isSpace octet = true
  signed : SignText sign negative
  nonempty : digits ≠ []
  digit : ∀ octet ∈ digits, isDigit octet = true

/-- A conversion reads the text to its end as this sign and magnitude. -/
def Lenient (text : Bytes) (negative : Bool) (magnitude : Nat) : Prop :=
  ∃ blanks sign digits, LenientParts text blanks sign digits negative ∧ digitsValue digits = magnitude

/-- A non-empty text of decimal digits with this value. -/
structure StrictDigits (text : Bytes) (value : Nat) : Prop where
  nonempty : text ≠ []
  digit : ∀ octet ∈ text, isDigit octet = true
  value : digitsValue text = value

/-- The conditions on a strict text can be checked. -/
theorem strict_digits_checked (text : Bytes) (value : Nat)
    (checked : (!text.isEmpty && text.all isDigit && digitsValue text == value) = true) :
    StrictDigits text value := by
  simp only [Bool.and_eq_true, Bool.not_eq_true', List.isEmpty_eq_false_iff, List.all_eq_true,
    beq_iff_eq] at checked
  obtain ⟨⟨nonempty, digit⟩, same⟩ := checked
  exact ⟨nonempty, digit, same⟩

/-- A strict text with an optional minus, and the integer it denotes. -/
inductive StrictSigned : Bytes → Int → Prop where
  | plain (digits : Bytes) (value : Nat) (strict : StrictDigits digits value) :
      StrictSigned digits value
  | minus (digits : Bytes) (value : Nat) (strict : StrictDigits digits value) :
      StrictSigned (byte '-' :: digits) (-value)

/-- `std::stoul(text, &consumed)` and `std::stoull`. Both have 64 bits here; a sign is read and
negates modulo 2^64. -/
def stoul (text : Bytes) : Except ConversionFailure (Nat × Nat) :=
  match scanInteger text with
  | none => .error .invalidArgument
  | some scanned =>
      if scanned.magnitude < 2 ^ 64 then
        .ok ((if scanned.negative then (2 ^ 64 - scanned.magnitude) % 2 ^ 64 else scanned.magnitude),
          scanned.consumed)
      else .error .outOfRange

/-- `std::stoll(text, &consumed)` A value that 64 bits with sign do not hold is out of range. -/
def stoll (text : Bytes) : Except ConversionFailure (Int × Nat) :=
  match scanInteger text with
  | none => .error .invalidArgument
  | some scanned =>
      let value : Int := if scanned.negative then -scanned.magnitude else scanned.magnitude
      if -2 ^ 63 ≤ value ∧ value < 2 ^ 63 then .ok (value, scanned.consumed)
      else .error .outOfRange

/-- A front all of which passes a test, and behind which it fails, is exactly what is taken. -/
theorem take_while_append {p : UInt8 → Bool} (front rest : Bytes)
    (inFront : ∀ octet ∈ front, p octet = true) (stops : ∀ octet ∈ rest.head?, p octet = false) :
    (front ++ rest).takeWhile p = front ∧ (front ++ rest).dropWhile p = rest := by
  have none : rest.takeWhile p = [] ∧ rest.dropWhile p = rest := by
    cases rest with
    | nil => exact ⟨rfl, rfl⟩
    | cons head tail => simp [stops head rfl]
  rw [List.takeWhile_append_of_pos inFront, List.dropWhile_append_of_pos inFront, none.1,
    none.2, List.append_nil]
  exact ⟨rfl, rfl⟩

/-- A sign or digit in front ends the white space. -/
theorem sign_not_space (sign digits : Bytes) (negative : Bool) (signed : SignText sign negative)
    (digit : ∀ octet ∈ digits, isDigit octet = true) :
    ∀ octet ∈ (sign ++ digits).head?, isSpace octet = false := by
  cases signed with
  | none =>
    intro octet first
    exact (digit_plain octet (digit octet (List.mem_of_mem_head? first))).1
  | plus => simp; decide
  | minus => simp; decide

/-- The sign that was written is the one taken. -/
theorem take_sign_append (sign digits : Bytes) (negative : Bool) (signed : SignText sign negative)
    (nonempty : digits ≠ []) (digit : ∀ octet ∈ digits, isDigit octet = true) :
    takeSign (sign ++ digits) = (negative, sign.length, digits) := by
  cases signed with
  | none =>
    cases digits with
    | nil => exact absurd rfl nonempty
    | cons head rest =>
      obtain ⟨-, notMinus, notPlus⟩ := digit_plain head (digit head List.mem_cons_self)
      simp [takeSign, notMinus, notPlus]
  | plus => simp [takeSign, byte]
  | minus => simp [takeSign]

/-- What a sign is taken from begins with that sign. -/
theorem take_sign_text (text : Bytes) :
    ∃ sign, SignText sign (takeSign text).1 ∧ text = sign ++ (takeSign text).2.2 ∧
      (takeSign text).2.1 = sign.length := by
  cases text with
  | nil => exact ⟨[], .none, rfl, rfl⟩
  | cons head rest =>
    by_cases minus : head = byte '-'
    · subst minus
      exact ⟨[byte '-'], by simpa [takeSign] using SignText.minus, by simp [takeSign], by
        simp [takeSign]⟩
    · by_cases plus : head = byte '+'
      · subst plus
        exact ⟨[byte '+'], by simpa [takeSign, minus] using SignText.plus, by
          simp [takeSign, minus], by simp [takeSign, minus]⟩
      · exact ⟨[], by simpa [takeSign, minus, plus] using SignText.none, by
          simp [takeSign, minus, plus], by simp [takeSign, minus, plus]⟩

/-- A scan reads exactly the lenient texts to their end. White space, a sign and digits are taken
in turn, each as long as it lasts, so the text is cut as the scan cuts it. -/
theorem scan_whole_iff (text : Bytes) (negative : Bool) (magnitude : Nat) :
    scanInteger text = some ⟨negative, magnitude, text.length⟩ ↔ Lenient text negative magnitude := by
  constructor
  · intro scanned
    obtain ⟨sign, signed, taken, length⟩ := take_sign_text (text.dropWhile isSpace)
    have parts := List.takeWhile_append_dropWhile (p := isSpace) (l := text)
    simp only [scanInteger] at scanned
    split at scanned
    · cases scanned
    · rename_i nonempty
      obtain ⟨rfl, value, consumed⟩ : (takeSign (text.dropWhile isSpace)).1 = negative ∧
          digitsValue ((takeSign (text.dropWhile isSpace)).2.2.takeWhile isDigit) = magnitude ∧
          (text.takeWhile isSpace).length + (takeSign (text.dropWhile isSpace)).2.1 +
            ((takeSign (text.dropWhile isSpace)).2.2.takeWhile isDigit).length = text.length := by
        simpa using scanned
      have total : text.length = (text.takeWhile isSpace).length +
          (sign.length + (takeSign (text.dropWhile isSpace)).2.2.length) := by
        rw [← List.length_append, ← taken, ← List.length_append, parts]
      have allDigits : (takeSign (text.dropWhile isSpace)).2.2.takeWhile isDigit =
          (takeSign (text.dropWhile isSpace)).2.2 :=
        (List.takeWhile_prefix isDigit).eq_of_length (by omega)
      rw [allDigits] at value nonempty
      refine ⟨text.takeWhile isSpace, sign, (takeSign (text.dropWhile isSpace)).2.2,
        ⟨?_, fun octet => List.mem_takeWhile_imp, signed, nonempty,
          List.takeWhile_eq_self_iff.mp allDigits⟩, value⟩
      rw [← taken, parts]
  · rintro ⟨blanks, sign, digits, parts, rfl⟩
    obtain ⟨spaces, unspaced⟩ := take_while_append blanks (sign ++ digits) parts.blank
      (sign_not_space sign digits negative parts.signed parts.digit)
    have wholeRun : digits.takeWhile isDigit = digits := List.takeWhile_eq_self_iff.mpr parts.digit
    have taken := take_sign_append sign digits negative parts.signed parts.nonempty parts.digit
    simp only [scanInteger, parts.whole, spaces, unspaced, taken, wholeRun, parts.nonempty,
      ↓reduceIte, List.length_append, Nat.add_assoc]

/-- The number a sign and a magnitude stand for. -/
def signedValue (negative : Bool) (magnitude : Nat) : Int :=
  if negative then -magnitude else magnitude

/-- What `std::stoi` and `std::stoll` make of a scan, with the bound of their result. -/
theorem stoi_scanned (text : Bytes) (negative : Bool) (magnitude consumed : Nat)
    (scanned : scanInteger text = some ⟨negative, magnitude, consumed⟩) :
    stoi text = if -2 ^ 31 ≤ signedValue negative magnitude ∧ signedValue negative magnitude < 2 ^ 31
      then .ok (signedValue negative magnitude, consumed) else .error .outOfRange := by
  rw [stoi, scanned]
  rfl

/-- `stoll` of a text that was scanned: its value where 64 bits with sign hold it. -/
theorem stoll_scanned (text : Bytes) (negative : Bool) (magnitude consumed : Nat)
    (scanned : scanInteger text = some ⟨negative, magnitude, consumed⟩) :
    stoll text = if -2 ^ 63 ≤ signedValue negative magnitude ∧ signedValue negative magnitude < 2 ^ 63
      then .ok (signedValue negative magnitude, consumed) else .error .outOfRange := by
  rw [stoll, scanned]
  rfl

/-- `std::stoi` reads exactly the lenient texts in range to their end. The scan decides what is
read and the range whether it is returned; a value out of range is an error although the text is
fine. -/
theorem stoi_whole_iff (text : Bytes) (value : Int) :
    stoi text = .ok (value, text.length) ↔
      ∃ negative magnitude, Lenient text negative magnitude ∧
        signedValue negative magnitude = value ∧ -2 ^ 31 ≤ value ∧ value < 2 ^ 31 := by
  constructor
  · intro converted
    cases scanned : scanInteger text with
    | none =>
      rw [stoi, scanned] at converted
      cases converted
    | some result =>
      obtain ⟨negative, magnitude, consumed⟩ := result
      rw [stoi_scanned text negative magnitude consumed scanned] at converted
      by_cases range : -2 ^ 31 ≤ signedValue negative magnitude ∧ signedValue negative magnitude < 2 ^ 31
      · rw [if_pos range] at converted
        obtain ⟨rfl, rfl⟩ := Prod.mk.inj (Except.ok.inj converted)
        exact ⟨negative, magnitude, (scan_whole_iff text negative magnitude).mp scanned, rfl, range⟩
      · rw [if_neg range] at converted
        cases converted
  · rintro ⟨negative, magnitude, lenient, rfl, range⟩
    have scanned := (scan_whole_iff text negative magnitude).mpr lenient
    rw [stoi_scanned text negative magnitude _ scanned, if_pos range]

/-- Digits alone are a spelling that the lenient conversions accept. -/
theorem strict_lenient (text : Bytes) (value : Nat) (strict : StrictDigits text value) :
    Lenient text false value :=
  ⟨[], [], text, ⟨rfl, by simp, .none, strict.nonempty, strict.digit⟩, strict.value⟩

/-- A strict text with a minus is lenient too. -/
theorem strict_signed_lenient (text : Bytes) (value : Int) (strict : StrictSigned text value) :
    ∃ negative magnitude, Lenient text negative magnitude ∧ signedValue negative magnitude = value := by
  cases strict with
  | plain _ value strict => exact ⟨false, value, strict_lenient text value strict, rfl⟩
  | minus digits value strict =>
    exact ⟨true, value, ⟨[], [byte '-'], digits,
      ⟨rfl, by simp, .minus, strict.nonempty, strict.digit⟩, strict.value⟩, rfl⟩

/-- A strict text is read as one number only. -/
theorem lenient_strict (text : Bytes) (negative : Bool) (magnitude value : Nat)
    (lenient : Lenient text negative magnitude) (strict : StrictDigits text value) :
    negative = false ∧ magnitude = value := by
  have left := (scan_whole_iff text negative magnitude).mpr lenient
  have right := (scan_whole_iff text false value).mpr (strict_lenient text value strict)
  rw [left] at right
  simpa using right

/-- `stoll` takes a strict number to its value and consumes the whole text. -/
theorem stoll_strict (text : Bytes) (value : Int) (strict : StrictSigned text value)
    (range : -2 ^ 63 ≤ value ∧ value < 2 ^ 63) : stoll text = .ok (value, text.length) := by
  obtain ⟨negative, magnitude, lenient, rfl⟩ := strict_signed_lenient text value strict
  have scanned := (scan_whole_iff text negative magnitude).mpr lenient
  rw [stoll_scanned text negative magnitude _ scanned, if_pos range]

/-- So does `stoul`, for a number without a sign. -/
theorem stoul_strict (text : Bytes) (value : Nat) (strict : StrictDigits text value)
    (fits : value < 2 ^ 64) : stoul text = .ok (value, text.length) := by
  have scanned := (scan_whole_iff text false value).mpr (strict_lenient text value strict)
  simp only [stoul, scanned, Bool.false_eq_true, ↓reduceIte, if_pos fits]

end NodeWireguard.IntegerConversions
