import Mathlib
import NodeWireguard.Crypto.StandardBase64

/-!
# The two encodings of a key

Keys are shown in base64 and sent to a userspace daemon in hexadecimal. Both encodings
give back the key they were made from, on the decoder that takes its accumulator with
wrapping shifts. The hexadecimal decoder reads either letter case and the encoder writes
lowercase, so what is read back from a daemon is shown in base64 as the key that was
given.

Which base64 texts are accepted besides the encodings of keys is settled apart.
-/

namespace NodeWireguard.KeyEncodings

open ByteText Key Base64Reading StandardBase64

/-- A hexadecimal digit of either letter case. -/
def isHexDigit (c : UInt8) : Bool :=
  (decide (byte '0' ≤ c) && decide (c ≤ byte '9')) || (decide (byte 'a' ≤ c) && decide (c ≤ byte 'f')) ||
    (decide (byte 'A' ≤ c) && decide (c ≤ byte 'F'))

/-- The lowercase form of an ASCII letter; any other character stays. -/
def lowercase (c : UInt8) : UInt8 := if byte 'A' ≤ c ∧ c ≤ byte 'Z' then c + 32 else c

/-- The digits of one octet. -/
def hexOctet (b : UInt8) : Bytes :=
  [kHexChars.getD (b >>> 4).toNat 0, kHexChars.getD (b &&& 0x0F).toNat 0]

/-- No key is lost or changed by either encoding, and each text has the documented form. -/
structure EncodingsAgree : Prop where
  base64 : ∀ key, keyFromBase64 (keyToBase64 key) = .ok key
  hex : ∀ key, keyFromHex (keyToHex key) = .ok key
  base64Form : ∀ key, (keyToBase64 key).length = 44 ∧
    ∃ front, keyToBase64 key = front ++ [byte '='] ∧ byte '=' ∉ front
  hexForm : ∀ key, (keyToHex key).length = 64 ∧ ∀ c ∈ keyToHex key, c ∈ kHexChars
  hexAccepted : ∀ hex, (∃ key, keyFromHex hex = .ok key) ↔
    hex.length = 64 ∧ ∀ c ∈ hex, isHexDigit c = true
  hexShown : ∀ hex key, keyFromHex hex = .ok key → keyToHex key = hex.map lowercase
  carried : ∀ b64 key, keyFromBase64 b64 = .ok key → ∃ back, keyFromHex (keyToHex key) = .ok back ∧
    keyToBase64 back = keyToBase64 key ∧ keyFromBase64 (keyToBase64 back) = .ok key

/-- What the decoder does with one character: a digit of either case goes to the position
of its lowercase form, anything else is refused. -/
def hexRow (c : UInt8) : Bool :=
  match hexDecodeChar c with
  | some v => isHexDigit c && decide (v.toNat < 16) && (kHexChars.getD v.toNat 0 == lowercase c)
  | none => !isHexDigit c

/-- The table is checked for all octets at once. -/
theorem hex_row (c : UInt8) : hexRow c = true := by
  have table : ∀ i : Fin 256, hexRow (UInt8.ofNat i.val) = true := by decide +kernel
  have row := table ⟨c.toNat, c.toNat_lt⟩
  simpa only [UInt8.ofNat_toNat] using row

/-- An octet that is decoded is a digit, and the encoder writes its value as the same digit in
lower case. -/
theorem hex_decoded (c v : UInt8) (decoded : hexDecodeChar c = some v) :
    isHexDigit c = true ∧ v.toNat < 16 ∧ kHexChars.getD v.toNat 0 = lowercase c := by
  have row := hex_row c
  simpa only [hexRow, decoded, Bool.and_eq_true, decide_eq_true_eq, beq_iff_eq, and_assoc] using row

/-- An octet that is refused is not a digit. -/
theorem hex_not_decoded (c : UInt8) (refused : hexDecodeChar c = none) : isHexDigit c = false := by
  have row := hex_row c
  simpa only [hexRow, refused, Bool.not_eq_true'] using row

/-- The halves of an octet put together from two digits. -/
theorem hex_octet_joined (high low : UInt8) (highDigit : high.toNat < 16) (lowDigit : low.toNat < 16) :
    hexOctet ((high <<< 4) ||| low) = [kHexChars.getD high.toNat 0, kHexChars.getD low.toNat 0] := by
  have table : ∀ h l : Fin 16, ((UInt8.ofNat h.val <<< 4) ||| UInt8.ofNat l.val) >>> 4 = UInt8.ofNat h.val ∧
      ((UInt8.ofNat h.val <<< 4) ||| UInt8.ofNat l.val) &&& 0x0F = UInt8.ofNat l.val := by
    decide +kernel
  have halves := table ⟨high.toNat, highDigit⟩ ⟨low.toNat, lowDigit⟩
  simp only [UInt8.ofNat_toNat] at halves
  rw [hexOctet, halves.1, halves.2]

/-- Pairs of digits are read exactly when all of them are digits, and the octets read are
written in lowercase.

Induct over the pairs; a single character left over would be ignored, which the even
length excludes. -/
theorem hex_pairs_read (text : Bytes) (even : text.length % 2 = 0) :
    match hexPairs text with
    | some octets => (∀ c ∈ text, isHexDigit c = true) ∧ 2 * octets.length = text.length ∧
        octets.flatMap hexOctet = text.map lowercase
    | none => ∃ c ∈ text, isHexDigit c = false := by
  induction text using hexPairs.induct with
  | case1 hi lo rest inductionHypothesis =>
    rw [List.length_cons, List.length_cons] at even
    have later := inductionHypothesis (by omega)
    cases high : hexDecodeChar hi with
    | none =>
      simp only [hexPairs, high, Option.bind_eq_bind, Option.bind_none]
      exact ⟨hi, List.mem_cons_self, hex_not_decoded hi high⟩
    | some h =>
      cases low : hexDecodeChar lo with
      | none =>
        simp only [hexPairs, high, low, Option.bind_eq_bind, Option.bind_some, Option.bind_none]
        exact ⟨lo, by simp, hex_not_decoded lo low⟩
      | some l =>
        obtain ⟨highDigit, highBound, highShown⟩ := hex_decoded hi h high
        obtain ⟨lowDigit, lowBound, lowShown⟩ := hex_decoded lo l low
        cases read : hexPairs rest with
        | none =>
          rw [read] at later
          obtain ⟨c, member, refused⟩ := later
          simp only [hexPairs, high, low, read, Option.bind_eq_bind, Option.bind_some, Option.bind_none]
          exact ⟨c, by simp [member], refused⟩
        | some octets =>
          rw [read] at later
          obtain ⟨digits, count, shown⟩ := later
          simp only [hexPairs, high, low, read, Option.bind_eq_bind, Option.bind_some, Option.pure_def]
          refine ⟨?_, ?_, ?_⟩
          · intro c member
            simp only [List.mem_cons] at member
            rcases member with rfl | rfl | inside
            · exact highDigit
            · exact lowDigit
            · exact digits c inside
          · simp only [List.length_cons]
            omega
          · rw [List.flatMap_cons, hex_octet_joined h l highBound lowBound, shown, highShown, lowShown]
            rfl
  | case2 text short =>
    have empty : text = [] := by
      cases text with
      | nil => rfl
      | cons first rest =>
        cases rest with
        | nil => simp at even
        | cons second others => exact absurd rfl (short first second others)
    subst empty
    exact ⟨fun c member => absurd member List.not_mem_nil, rfl, rfl⟩

/-- Exactly the texts of 64 digits are keys in hexadecimal. The length is checked first; the
pairs are then decoded one by one, and 64 digits make 32 octets. -/
theorem key_from_hex_accepts_iff (hex : Bytes) :
    (∃ key, keyFromHex hex = .ok key) ↔ hex.length = 64 ∧ ∀ c ∈ hex, isHexDigit c = true := by
  have size : kKeyLen * 2 = 64 := rfl
  by_cases length : hex.length = 64
  · have read := hex_pairs_read hex (by omega)
    simp only [keyFromHex, size, length, ne_eq, not_true_eq_false, ↓reduceIte, true_and]
    cases pairs : hexPairs hex with
    | none =>
      rw [pairs] at read
      obtain ⟨c, member, refused⟩ := read
      constructor
      · rintro ⟨key, accepted⟩
        cases accepted
      · intro digits
        rw [digits c member] at refused
        cases refused
    | some octets =>
      rw [pairs] at read
      have full : octets.length = kKeyLen := by
        have counted := read.2.1
        omega
      simp only [full, ↓reduceDIte]
      exact ⟨fun _ => read.1, fun _ => ⟨_, rfl⟩⟩
  · simp [keyFromHex, size, length]

/-- A key read from hexadecimal is written as the same text in lowercase. -/
theorem key_from_hex_shown (hex : Bytes) (key : Key) (accepted : keyFromHex hex = .ok key) :
    keyToHex key = hex.map lowercase := by
  have length := ((key_from_hex_accepts_iff hex).mp ⟨key, accepted⟩).1
  have read := hex_pairs_read hex (by omega)
  have size : kKeyLen * 2 = 64 := rfl
  simp only [keyFromHex, size, length, ne_eq, not_true_eq_false, ↓reduceIte] at accepted
  cases pairs : hexPairs hex with
  | none =>
    simp only [pairs] at accepted
    cases accepted
  | some octets =>
    rw [pairs] at read
    simp only [pairs] at accepted
    split at accepted
    · next full =>
      obtain rfl := Except.ok.inj accepted
      exact read.2.2
    · cases accepted

/-- A key in base64 is 43 characters of the alphabet and one pad. -/
theorem key_to_base64_form (key : Key) : (keyToBase64 key).length = 44 ∧
    ∃ front, keyToBase64 key = front ++ [byte '='] ∧ byte '=' ∉ front := by
  obtain ⟨length, symbols⟩ := accepted_symbols _ key (key_from_base64_key_to_base64 key)
  have pad := (key_to_base64_regular key).1
  have notSymbol : isSymbol (byte '=') = false := by decide
  refine ⟨?_, unpadded (keyToBase64 key), pad, ?_⟩
  · rw [pad, List.length_append, length, List.length_singleton]
  · intro member
    rw [symbols _ member] at notSymbol
    cases notSymbol

/-- A key in hexadecimal is 64 lowercase digits. -/
theorem key_to_hex_form (key : Key) : (keyToHex key).length = 64 ∧ ∀ c ∈ keyToHex key, c ∈ kHexChars :=
  ⟨((key_from_hex_accepts_iff _).mp ⟨key, key_from_hex_key_to_hex key⟩).1, key_to_hex_digits key⟩

/-- Both encodings are lossless and agree on every key: each decodes what it encoded, has the
form that is documented, and carries a key over to the other unchanged.

Proof: one lemma for each field. Base 64 by induction on the groups of three octets, whose bits
the accumulator gives back in turn; hexadecimal by induction on the octets, with a table of all
256 of them. -/
theorem key_encodings_agree : EncodingsAgree where
  base64 := key_from_base64_key_to_base64
  hex := key_from_hex_key_to_hex
  base64Form := key_to_base64_form
  hexForm := key_to_hex_form
  hexAccepted := key_from_hex_accepts_iff
  hexShown := key_from_hex_shown
  carried := fun _ key _ => ⟨key, key_from_hex_key_to_hex key, rfl, key_from_base64_key_to_base64 key⟩

end NodeWireguard.KeyEncodings
