import Mathlib
import NodeWireguard.Crypto.Key
import NodeWireguard.Foundations.Numerals

/-!
# The base64 decoding loop

What the loop of `KeyFromBase64` holds after any number of characters. The characters
read so far are a numeral in base 64 and the octets written so far one in base 256; the
octets are the numeral without the bits still to be written, and the accumulator is the
whole numeral as far as a word can hold it. The accumulator is never masked, so the
numeral, not the pending bits, decides whether the next shift is defined.

The pads at the end are removed before the loop, and a text of any other length than 43
does not reach it.
-/

namespace NodeWireguard.Base64Reading

open ByteText Key Numerals

/-- The text without its trailing pads; the loop runs over it. -/
def unpadded (b64 : Bytes) : Bytes := b64.rdropWhile (· == byte '=')

/-- The values of the characters of a text that belong to the alphabet. -/
def sextets (text : Bytes) : List Nat :=
  text.filterMap (fun c => (base64DecodeChar c).map UInt8.toNat)

/-- The character belongs to the alphabet. -/
def isSymbol (c : UInt8) : Bool := (base64DecodeChar c).isSome

/-- Every character belongs to the alphabet. -/
def AllSymbols (text : Bytes) : Prop := ∀ c ∈ text, isSymbol c = true

/-- Whether a text has symbols only can be computed. -/
instance (text : Bytes) : Decidable (AllSymbols text) :=
  inferInstanceAs (Decidable (∀ c ∈ text, isSymbol c = true))

/-- The loop after the characters with these values. The octets that were taken, the bits that
are pending and the accumulator are all functions of the number that the characters spell. -/
structure Decoded (digits : List Nat) (state : Base64State) : Prop where
  bits : state.bits < 8
  count : 6 * digits.length = 8 * state.key.length + state.bits
  buf : state.buf.toNat = value 64 digits % 2 ^ 32
  key : value 256 (state.key.map UInt8.toNat) = value 64 digits / 2 ^ state.bits

set_option maxRecDepth 20000 in
/-- A character of the alphabet is the one at the position it decodes to. -/
theorem base64_symbol (c v : UInt8) (decoded : base64DecodeChar c = some v) :
    v.toNat < 64 ∧ kBase64Chars.getD v.toNat 0 = c := by
  have table : ∀ i : Fin 256, (base64DecodeChar (UInt8.ofNat i.val)).all (fun v =>
      decide (v.toNat < 64) && (kBase64Chars.getD v.toNat 0 == UInt8.ofNat i.val)) = true := by
    decide +kernel
  have checked := table ⟨c.toNat, c.toNat_lt⟩
  simpa only [UInt8.ofNat_toNat, decoded, Option.all_some, Bool.and_eq_true, decide_eq_true_eq,
    beq_iff_eq] using checked

/-- Shifting a sextet into the accumulator. -/
theorem accumulator_shifted (buf : BitVec 32) (v : UInt8) (small : v.toNat < 64) :
    ((buf <<< 6) ||| v.toBitVec.setWidth 32).toNat = (64 * buf.toNat + v.toNat) % 2 ^ 32 := by
  have low : v.toNat % 2 ^ 32 = v.toNat := Nat.mod_eq_of_lt (by omega)
  have high : buf.toNat <<< 6 % 2 ^ 32 = (buf.toNat % 2 ^ 26) <<< 6 := by
    rw [Nat.shiftLeft_eq, Nat.shiftLeft_eq]
    omega
  rw [BitVec.toNat_or, BitVec.toNat_shiftLeft, BitVec.toNat_setWidth, UInt8.toNat_toBitVec, low,
    high, ← Nat.shiftLeft_add_eq_or_of_lt small, Nat.shiftLeft_eq]
  omega

/-- The octet taken from the accumulator; the sign never reaches it. -/
theorem octet_taken (buf : BitVec 32) (spare : Nat) (inside : spare ≤ 24) :
    (UInt8.ofBitVec ((buf.sshiftRight spare).setWidth 8)).toNat = buf.toNat / 2 ^ spare % 256 := by
  have unsigned : (buf.sshiftRight spare).setWidth 8 = (buf >>> spare).setWidth 8 := by
    apply BitVec.eq_of_getLsbD_eq
    intro i bound
    have inWord : spare + i < 32 := by omega
    have notAbove : ¬ 32 ≤ i := by omega
    simp [BitVec.getLsbD_sshiftRight, inWord, notAbove, bound]
  rw [unsigned, UInt8.toNat_ofBitVec, BitVec.toNat_setWidth, BitVec.toNat_ushiftRight,
    Nat.shiftRight_eq_div_pow]

/-- One more symbol is one more digit. -/
theorem sextets_concat (text : Bytes) (c v : UInt8) (decoded : base64DecodeChar c = some v) :
    sextets (text ++ [c]) = sextets text ++ [v.toNat] := by
  simp [sextets, decoded]

/-- One value for each character of the alphabet. -/
theorem sextets_length (text : Bytes) (symbols : AllSymbols text) :
    (sextets text).length = text.length := by
  induction text with
  | nil => rfl
  | cons c rest inductionHypothesis =>
    obtain ⟨v, decoded⟩ := Option.isSome_iff_exists.mp (symbols c List.mem_cons_self)
    have later := inductionHypothesis (fun c member => symbols c (List.mem_cons_of_mem _ member))
    rw [sextets] at later ⊢
    simp [decoded, later]

/-- One character more. Below 43 characters there is room for the octet it completes. The
accumulator holds the digits so far modulo 2^32, of which the pending bits are the low ones, so
the octet that is taken is the next one of the number. -/
theorem decoded_step (digits : List Nat) (state : Base64State) (c v : UInt8)
    (holds : Decoded digits state) (decoded : base64DecodeChar c = some v)
    (room : digits.length < 43) :
    ∃ after, base64Step state c = some after ∧ Decoded (digits ++ [v.toNat]) after := by
  obtain ⟨bits, count, buf, key⟩ := holds
  have small := (base64_symbol c v decoded).1
  have full : kKeyLen = 32 := rfl
  have shifted := accumulator_shifted state.buf v small
  rw [buf] at shifted
  have accumulated : ((state.buf <<< 6) ||| v.toBitVec.setWidth 32).toNat =
      (64 * value 64 digits + v.toNat) % 2 ^ 32 := by omega
  by_cases complete : 8 ≤ state.bits + 6
  · have notFull : ¬ kKeyLen ≤ state.key.length := by omega
    refine ⟨⟨state.key ++ [UInt8.ofBitVec ((((state.buf <<< 6) ||| v.toBitVec.setWidth 32).sshiftRight
      (state.bits + 6 - 8)).setWidth 8)], (state.buf <<< 6) ||| v.toBitVec.setWidth 32,
      state.bits + 6 - 8⟩, ?_, ?_⟩
    · simp [base64Step, decoded, complete, notFull]
    · refine ⟨by simp only; omega, ?_, ?_, ?_⟩
      · simp only [List.length_append, List.length_singleton]
        omega
      · rw [value_concat]
        exact accumulated
      · simp only [List.map_append, List.map_singleton, value_concat]
        rw [octet_taken _ _ (by omega), accumulated, key]
        -- three counts of pending bits make two octets
        have cases : state.bits = 2 ∨ state.bits = 4 ∨ state.bits = 6 := by omega
        rcases cases with two | four | six
        · rw [two]
          omega
        · rw [four]
          omega
        · rw [six]
          omega
  · refine ⟨⟨state.key, (state.buf <<< 6) ||| v.toBitVec.setWidth 32, state.bits + 6⟩, ?_, ?_⟩
    · simp [base64Step, decoded, complete]
    · refine ⟨by simp only; omega, ?_, ?_, ?_⟩
      · simp only [List.length_append, List.length_singleton]
        omega
      · rw [value_concat]
        exact accumulated
      · have none : state.bits = 0 := by omega
        simp only [value_concat, key, none]
        omega

/-- The loop over up to 43 characters of the alphabet does not throw. -/
theorem decoded_run (text : Bytes) (symbols : AllSymbols text) (room : text.length ≤ 43) :
    ∃ state, text.foldlM base64Step ⟨[], 0, 0⟩ = some state ∧ Decoded (sextets text) state := by
  induction text using List.reverseRecOn with
  | nil => exact ⟨⟨[], 0, 0⟩, rfl, ⟨by decide, rfl, rfl, rfl⟩⟩
  | append_singleton front c inductionHypothesis =>
    have earlier : AllSymbols front := fun c member => symbols c (List.mem_append_left _ member)
    have shorter : front.length < 43 := by
      simp only [List.length_append, List.length_singleton] at room
      omega
    obtain ⟨state, run, holds⟩ := inductionHypothesis earlier (by omega)
    obtain ⟨v, decoded⟩ := Option.isSome_iff_exists.mp (symbols c (by simp))
    have width := sextets_length front earlier
    obtain ⟨after, stepped, next⟩ := decoded_step _ state c v holds decoded (by omega)
    refine ⟨after, ?_, ?_⟩
    · rw [List.foldlM_append, run]
      simpa using stepped
    · rw [sextets_concat front c v decoded]
      exact next

/-- The loop throws at a character outside the alphabet. -/
theorem symbols_of_run (text : Bytes) (before after : Base64State)
    (run : text.foldlM base64Step before = some after) : AllSymbols text := by
  induction text generalizing before with
  | nil => exact fun c member => absurd member List.not_mem_nil
  | cons c rest inductionHypothesis =>
    rw [List.foldlM_cons, Option.bind_eq_bind, Option.bind_eq_some_iff] at run
    obtain ⟨middle, stepped, later⟩ := run
    rw [base64Step, Option.bind_eq_bind, Option.bind_eq_some_iff] at stepped
    obtain ⟨v, decoded, -⟩ := stepped
    intro other member
    rcases List.mem_cons.mp member with rfl | inside
    · rw [isSymbol, decoded]
      exact Option.isSome_some
    · exact inductionHypothesis middle later other inside

end NodeWireguard.Base64Reading
