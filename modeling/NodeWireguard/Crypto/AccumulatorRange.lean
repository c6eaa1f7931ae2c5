import Mathlib
import NodeWireguard.Crypto.Base64Reading

/-!
# The range of the base64 accumulator

C++17 defines a left shift of a signed word only where it is not negative and the shifted
value fits the unsigned word. In `KeyFromBase64` the accumulator holds every character
read so far, so this is a condition on the text: the numeral of the characters before
each shift has to stay below 2^26. The pending bits and the number of octets written stay
in range on every text.

Where the shift is not defined the model goes on with wrapping, which is what the
compiled code is seen to do; nothing is claimed about later iterations there.
-/

namespace NodeWireguard.AccumulatorRange

open ByteText Key Numerals Base64Reading

/-- The loop over a text comes to a character in a state. -/
def Meets (b64 : Bytes) (state : Base64State) (c : UInt8) : Prop :=
  (unpadded b64).length = 43 ∧ ∃ front rest, unpadded b64 = front ++ c :: rest ∧
    front.foldlM base64Step ⟨[], 0, 0⟩ = some state

/-- `(buf << 6) | v` is defined for the signed 32-bit accumulator. -/
def ShiftDefined (state : Base64State) : Prop :=
  0 ≤ state.buf.toInt ∧ state.buf.toInt * 64 < 2 ^ 32

/-- Every iteration that reaches the shift has it defined, and leaves the counters of
pending bits and written octets in range. -/
def AccumulatorInRange (b64 : Bytes) : Prop :=
  ∀ state c v, Meets b64 state c → base64DecodeChar c = some v →
    ShiftDefined state ∧
      ∀ after, base64Step state c = some after → after.bits < 8 ∧ after.key.length ≤ kKeyLen

/-- The characters before the first one outside the alphabet. -/
def leadingSymbols (text : Bytes) : Bytes := text.takeWhile isSymbol

/-- A signed word can be shifted by six exactly when it is below 2^26. -/
theorem shift_defined_iff (state : Base64State) : ShiftDefined state ↔ state.buf.toNat < 2 ^ 26 := by
  have bound := state.buf.isLt
  rw [ShiftDefined, BitVec.toInt_eq_toNat_cond]
  split
  · omega
  · omega

/-- The loop comes to a character after characters of the alphabet, and its state is what
they decode to. -/
theorem meets_decoded (b64 : Bytes) (state : Base64State) (c : UInt8) (meets : Meets b64 state c) :
    ∃ front rest, unpadded b64 = front ++ c :: rest ∧ AllSymbols front ∧ front.length < 43 ∧
      Decoded (sextets front) state := by
  obtain ⟨length, front, rest, cut, run⟩ := meets
  have symbols := symbols_of_run front _ state run
  have shorter : front.length < 43 := by
    rw [cut, List.length_append, List.length_cons] at length
    omega
  obtain ⟨reached, again, holds⟩ := decoded_run front symbols (by omega)
  obtain rfl : reached = state := Option.some.inj (again.symm.trans run)
  exact ⟨front, rest, cut, symbols, shorter, holds⟩

/-- The counters stay in range whatever the text. -/
theorem counters_in_range (b64 : Bytes) (state after : Base64State) (c v : UInt8)
    (meets : Meets b64 state c) (decoded : base64DecodeChar c = some v)
    (stepped : base64Step state c = some after) : after.bits < 8 ∧ after.key.length ≤ kKeyLen := by
  obtain ⟨front, rest, -, symbols, shorter, holds⟩ := meets_decoded b64 state c meets
  have width := sextets_length front symbols
  obtain ⟨next, found, holdsNext⟩ :=
    decoded_step (sextets front) state c v holds decoded (by omega)
  obtain rfl : next = after := Option.some.inj (found.symm.trans stepped)
  have count := holdsNext.count
  have full : kKeyLen = 32 := rfl
  rw [List.length_append, List.length_singleton] at count
  exact ⟨holdsNext.bits, by omega⟩

/-- The loop comes to each of the leading symbols. The induction is on the symbols in front: each
of them is decoded and there is room for its octet, so the loop goes on. -/
theorem leading_met (b64 : Bytes) (length : (unpadded b64).length = 43) (front : Bytes) (c : UInt8)
    (rest : Bytes) (leading : leadingSymbols (unpadded b64) = front ++ c :: rest) :
    ∃ state v, Meets b64 state c ∧ base64DecodeChar c = some v ∧ AllSymbols front ∧
      Decoded (sextets front) state := by
  have symbols : AllSymbols (front ++ c :: rest) := by
    intro other member
    rw [← leading] at member
    exact List.mem_takeWhile_imp member
  have whole : unpadded b64 = front ++ c ::
      (rest ++ (unpadded b64).dropWhile isSymbol) := by
    have parts := (List.takeWhile_append_dropWhile (p := isSymbol) (l := unpadded b64)).symm
    rw [leadingSymbols] at leading
    rw [leading] at parts
    simpa using parts
  have earlier : AllSymbols front := fun other member => symbols other (List.mem_append_left _ member)
  have shorter : front.length ≤ 43 := by
    rw [whole, List.length_append] at length
    omega
  obtain ⟨state, run, holds⟩ := decoded_run front earlier shorter
  obtain ⟨v, decoded⟩ := Option.isSome_iff_exists.mp (symbols c (by simp))
  exact ⟨state, v, ⟨length, front, _, whole, run⟩, decoded, earlier, holds⟩

/-- While every shift is defined, the numerals before the shifts stay below 2^26.

Induct over the characters before the shift: the numeral of the earlier ones is below
2^26, so with one character more the word still holds it. -/
theorem leading_value (b64 : Bytes) (inRange : AccumulatorInRange b64)
    (length : (unpadded b64).length = 43) (front : Bytes) (c : UInt8) (rest : Bytes)
    (leading : leadingSymbols (unpadded b64) = front ++ c :: rest) :
    value 64 (sextets front) < 2 ^ 26 := by
  induction front using List.reverseRecOn generalizing c rest with
  | nil => decide
  | append_singleton earlier d inductionHypothesis =>
    have before := inductionHypothesis d (c :: rest) (by simpa using leading)
    obtain ⟨state, v, meets, decoded, symbols, holds⟩ := leading_met b64 length _ c rest leading
    have defined := (shift_defined_iff state).mp (inRange state c v meets decoded).1
    obtain ⟨w, last⟩ := Option.isSome_iff_exists.mp (symbols d (by simp))
    have small := (base64_symbol d w last).1
    have held := holds.buf
    rw [sextets_concat earlier d w last, value_concat] at held ⊢
    omega

/-- The accumulator stays in range exactly when the loop does not run, or the base-64
value of the leading symbols without the last of them is below 2^26.

Proof: before each step the accumulator is the value of all symbols decoded so far, because it is
shifted and never masked. A shift is defined while that value is below 2^26, and values only grow
with further symbols, so the last step decides for all of them. -/
theorem accumulator_in_range_iff (b64 : Bytes) :
    AccumulatorInRange b64 ↔ (unpadded b64).length ≠ 43 ∨
      value 64 (sextets (leadingSymbols (unpadded b64)).dropLast) < 2 ^ 26 := by
  constructor
  · intro inRange
    by_cases length : (unpadded b64).length = 43
    · right
      cases shape : leadingSymbols (unpadded b64) using List.reverseRecOn with
      | nil => decide
      | append_singleton front c =>
        rw [List.dropLast_concat]
        exact leading_value b64 inRange length front c [] shape
    · exact .inl length
  · intro condition state c v meets decoded
    refine ⟨?_, fun after stepped => counters_in_range b64 state after c v meets decoded stepped⟩
    obtain ⟨front, rest, cut, symbols, -, holds⟩ := meets_decoded b64 state c meets
    have small := condition.resolve_left (not_not_intro meets.1)
    have extended : leadingSymbols (unpadded b64) = front ++ c :: rest.takeWhile isSymbol := by
      have symbol : isSymbol c = true := by
        rw [isSymbol, decoded]
        exact Option.isSome_some
      rw [cut, leadingSymbols, List.takeWhile_append_of_pos symbols, List.takeWhile_cons_of_pos symbol]
    rw [extended, List.dropLast_append_cons, sextets, List.filterMap_append] at small
    have below := value_prefix 64 (by decide) (sextets front)
      (sextets (c :: rest.takeWhile isSymbol).dropLast)
    have held := holds.buf
    apply (shift_defined_iff state).mpr
    rw [sextets, sextets] at below
    rw [sextets] at held
    omega

/-- The sixth character of an ordinary key shifts the accumulator past its word. -/
theorem ordinary_key_overflows :
    ¬ AccumulatorInRange (ascii "dwdtCnMYpX08FsFyUbJmRd9ML4frwJkqsXf7pR25LCo=") := by
  intro inRange
  have reached : Meets (ascii "dwdtCnMYpX08FsFyUbJmRd9ML4frwJkqsXf7pR25LCo=")
      ⟨[0x77, 0x07, 0x6d], 499243842, 6⟩ (byte 'n') :=
    ⟨by decide, ascii "dwdtC", ascii "MYpX08FsFyUbJmRd9ML4frwJkqsXf7pR25LCo", by decide, by decide⟩
  have defined := (inRange _ _ 39 reached (by decide)).1
  exact absurd defined.2 (by decide)

end NodeWireguard.AccumulatorRange
