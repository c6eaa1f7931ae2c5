import Mathlib
import NodeWireguard.Crypto.Base64Reading

/-!
# Standard base64 texts of keys

`KeyFromBase64` compared with the image of `KeyToBase64`. The decoder removes any number
of pads before it counts characters, and the last of the 43 characters carries two bits
that no octet takes. The encoder writes one pad and leaves those bits zero. A text
without the pad, with several pads, or with one of the spare bits set is therefore
accepted and denotes a key whose standard text is another one.

On every other text the decoder accepts exactly the standard encodings.
-/

namespace NodeWireguard.StandardBase64

open ByteText Key Numerals Base64Reading

/-- A key as one number, its first octet highest. -/
def keyValue (octets : Bytes) : Nat := value 256 (octets.map UInt8.toNat)

/-- The value of the last character, where it has one. -/
def lastSextet (text : Bytes) : Option UInt8 := text.getLast?.bind base64DecodeChar

/-- 43 characters of the alphabet, with a number of pads other than one after them or a
spare bit set in the last of them. -/
structure Irregular (b64 : Bytes) : Prop where
  length : (unpadded b64).length = 43
  symbols : AllSymbols (unpadded b64)
  deviates : b64 ≠ unpadded b64 ++ [byte '='] ∨
    ∃ v, lastSextet (unpadded b64) = some v ∧ v.toNat % 4 ≠ 0

/-- The text is read as a standard encoding: it is accepted exactly if it is one, it is
the text of the key it denotes, and no other such text denotes that key. -/
structure ReadsStandard (b64 : Bytes) : Prop where
  accepted : (∃ key, keyFromBase64 b64 = .ok key) ↔ ∃ key, b64 = keyToBase64 key
  encoded : ∀ key, keyFromBase64 b64 = .ok key → keyToBase64 key = b64
  distinct : ∀ other key, ¬ Irregular other → keyFromBase64 b64 = .ok key →
    keyFromBase64 other = .ok key → other = b64

/-- A text of 43 characters of the alphabet is accepted, and denotes the number it spells
without the two spare bits. -/
theorem symbols_accepted (b64 : Bytes) (length : (unpadded b64).length = 43)
    (symbols : AllSymbols (unpadded b64)) :
    ∃ key, keyFromBase64 b64 = .ok key ∧
      keyValue key.toList = value 64 (sextets (unpadded b64)) / 4 := by
  obtain ⟨state, run, holds⟩ := decoded_run _ symbols (by omega)
  have count := holds.count
  rw [sextets_length _ symbols, length] at count
  have bits := holds.bits
  have two : state.bits = 2 := by omega
  have size : state.key.length = kKeyLen := by
    have full : kKeyLen = 32 := rfl
    omega
  have denoted := holds.key
  rw [two] at denoted
  refine ⟨⟨state.key, size⟩, ?_, denoted⟩
  rw [keyFromBase64, ← unpadded]
  simp only [if_neg (not_not_intro length)]
  rw [run]
  exact dif_pos size

/-- Nothing else is accepted. -/
theorem accepted_symbols (b64 : Bytes) (key : Key) (accepted : keyFromBase64 b64 = .ok key) :
    (unpadded b64).length = 43 ∧ AllSymbols (unpadded b64) := by
  rw [keyFromBase64, ← unpadded] at accepted
  by_cases length : (unpadded b64).length = 43
  · simp only [if_neg (not_not_intro length)] at accepted
    split at accepted
    · cases accepted
    · next state run => exact ⟨length, symbols_of_run _ _ _ run⟩
  · simp only [if_pos length] at accepted
    cases accepted

/-- An accepted text denotes the number it spells without the two spare bits. -/
theorem accepted_value (b64 : Bytes) (key : Key) (accepted : keyFromBase64 b64 = .ok key) :
    keyValue key.toList = value 64 (sextets (unpadded b64)) / 4 := by
  obtain ⟨length, symbols⟩ := accepted_symbols b64 key accepted
  obtain ⟨other, again, denoted⟩ := symbols_accepted b64 length symbols
  obtain rfl : other = key := Except.ok.inj (again.symm.trans accepted)
  exact denoted

/-- The spare bits are the two low bits of the number a text spells. -/
theorem spare_bits (text : Bytes) (symbols : AllSymbols text) (nonempty : text ≠ []) :
    ∃ v, lastSextet text = some v ∧ value 64 (sextets text) % 4 = v.toNat % 4 := by
  cases text using List.reverseRecOn with
  | nil => exact absurd rfl nonempty
  | append_singleton front c =>
    obtain ⟨v, decoded⟩ := Option.isSome_iff_exists.mp (symbols c (by simp))
    refine ⟨v, by simp [lastSextet, decoded], ?_⟩
    rw [sextets_concat front c v decoded, value_concat]
    omega

/-- The last character before the pad carries the end of the second octet, shifted up. -/
theorem tail_sextet (a b : UInt8) : (sextet (group a b 0) 6).toNat % 4 = 0 := by
  have low : (sextet (group a b 0) 6).setWidth 2 = 0#2 := by
    apply BitVec.eq_of_getLsbD_eq
    intro i bound
    rw [BitVec.getLsbD_setWidth, sextet_bit]
    interval_cases i
    · simp [group]
    · simp [group]
  have number := congrArg BitVec.toNat low
  rw [BitVec.toNat_setWidth] at number
  exact number

/-- An encoding with a two-octet tail ends in that character and one pad. -/
theorem base64_encode_last (octets : Bytes) (tail : octets.length % 3 = 2) :
    ∃ front a b, base64Encode octets = front ++ [base64Char (group a b 0) 6, byte '='] := by
  induction octets using base64Encode.induct with
  | case1 a b c rest inductionHypothesis =>
    rw [List.length_cons, List.length_cons, List.length_cons] at tail
    obtain ⟨front, x, y, encoded⟩ := inductionHypothesis (by omega)
    exact ⟨base64Char (group a b c) 18 :: base64Char (group a b c) 12 ::
      base64Char (group a b c) 6 :: base64Char (group a b c) 0 :: front, x, y,
      by simp [base64Encode, encoded]⟩
  | case2 a => simp at tail
  | case3 a b => exact ⟨[base64Char (group a b 0) 18, base64Char (group a b 0) 12], a, b, rfl⟩
  | case4 => simp at tail

/-- Pads are removed only from the end. -/
theorem unpadded_concat (front : Bytes) (c : UInt8) (symbol : isSymbol c = true) :
    unpadded (front ++ [c, byte '=']) = front ++ [c] := by
  have pad : isSymbol (byte '=') = false := by decide
  have different : c ≠ byte '=' := by
    rintro rfl
    rw [pad] at symbol
    cases symbol
  rw [unpadded, ← List.singleton_append, ← List.append_assoc,
    List.rdropWhile_concat_pos _ _ _ (by simp),
    List.rdropWhile_concat_neg _ _ _ (by simpa using different)]

/-- The text of a key has one pad and no spare bit set. -/
theorem key_to_base64_regular (key : Key) :
    keyToBase64 key = unpadded (keyToBase64 key) ++ [byte '='] ∧
      ∃ v, lastSextet (unpadded (keyToBase64 key)) = some v ∧ v.toNat % 4 = 0 := by
  have size : key.toList.length = 32 := key.toList_length
  obtain ⟨front, a, b, encoded⟩ := base64_encode_last key.toList (by omega)
  have decoded := base64_char_decodes (group a b 0) 6
  have symbol : isSymbol (base64Char (group a b 0) 6) = true := by
    rw [isSymbol, decoded]
    exact Option.isSome_some
  have bare := unpadded_concat front _ symbol
  rw [keyToBase64, encoded, bare]
  refine ⟨by simp, _, by simpa [lastSextet] using decoded, ?_⟩
  have bound := sextet_bound (group a b 0) 6
  rw [UInt8.toNat_ofNat']
  have zero := tail_sextet a b
  omega

/-- The characters of a text of the alphabet are those at the positions of its values. -/
theorem symbols_of_sextets (text : Bytes) (symbols : AllSymbols text) :
    (sextets text).map (fun v => kBase64Chars.getD v 0) = text := by
  induction text with
  | nil => rfl
  | cons c rest inductionHypothesis =>
    obtain ⟨v, decoded⟩ := Option.isSome_iff_exists.mp (symbols c List.mem_cons_self)
    have later := inductionHypothesis (fun c member => symbols c (List.mem_cons_of_mem _ member))
    rw [sextets] at later ⊢
    simp only [List.filterMap_cons, decoded, Option.map_some, List.map_cons,
      (base64_symbol c v decoded).2, later]

/-- A digit of base 64 is below 64. -/
theorem sextets_bound (text : Bytes) : ∀ digit ∈ sextets text, digit < 64 := by
  intro digit member
  obtain ⟨c, -, decoded⟩ := List.mem_filterMap.mp member
  obtain ⟨v, found, rfl⟩ := Option.map_eq_some_iff.mp decoded
  exact (base64_symbol c v found).1

/-- Two texts of the alphabet of one length that spell the same number are the same. -/
theorem symbols_determined (left right : Bytes) (leftSymbols : AllSymbols left)
    (rightSymbols : AllSymbols right) (width : left.length = right.length)
    (same : value 64 (sextets left) = value 64 (sextets right)) : left = right := by
  have digits : sextets left = sextets right := by
    apply value_injective 64 (by decide) _ _ _ (sextets_bound left) (sextets_bound right) same
    rw [sextets_length left leftSymbols, sextets_length right rightSymbols, width]
  rw [← symbols_of_sextets left leftSymbols, digits, symbols_of_sextets right rightSymbols]

/-- An accepted text that is not irregular is the text of the key it denotes: both spell
the key's number followed by two zero bits. -/
theorem regular_encoded (b64 : Bytes) (regular : ¬ Irregular b64) (key : Key)
    (accepted : keyFromBase64 b64 = .ok key) : keyToBase64 key = b64 := by
  have own := key_from_base64_key_to_base64 key
  obtain ⟨length, symbols⟩ := accepted_symbols b64 key accepted
  obtain ⟨ownLength, ownSymbols⟩ := accepted_symbols _ key own
  have number := (accepted_value _ key own).symm.trans (accepted_value b64 key accepted)
  obtain ⟨ownPad, v, ownLast, ownZero⟩ := key_to_base64_regular key
  have pad : b64 = unpadded b64 ++ [byte '='] := by
    by_contra pads
    exact regular ⟨length, symbols, .inl pads⟩
  obtain ⟨w, last, low⟩ := spare_bits _ symbols (by rw [← List.length_pos_iff]; omega)
  have zero : w.toNat % 4 = 0 := by
    by_contra spare
    exact regular ⟨length, symbols, .inr ⟨w, last, spare⟩⟩
  obtain ⟨u, ownAgain, ownLow⟩ := spare_bits _ ownSymbols (by rw [← List.length_pos_iff]; omega)
  obtain rfl : u = v := Option.some.inj (ownAgain.symm.trans ownLast)
  have same : unpadded (keyToBase64 key) = unpadded b64 :=
    symbols_determined _ _ ownSymbols symbols (ownLength.trans length.symm) (by omega)
  rw [ownPad, same]
  exact pad.symm

/-- The text of a key is not irregular. -/
theorem key_to_base64_not_irregular (key : Key) : ¬ Irregular (keyToBase64 key) := by
  obtain ⟨pad, v, last, zero⟩ := key_to_base64_regular key
  rintro ⟨-, -, pads | ⟨w, found, spare⟩⟩
  · exact pads pad
  · obtain rfl : w = v := Option.some.inj (found.symm.trans last)
    exact spare zero

/-- A text is read as a standard encoding exactly when it is not irregular.

Proof: the decoder is first replaced by its meaning, the number that the 43 symbols denote
without its two last bits. A regular text has these bits zero and one pad, so the encoder writes
the same digits; an irregular one is accepted but is not what the encoder writes for any key. -/
theorem reads_standard_iff (b64 : Bytes) : ReadsStandard b64 ↔ ¬ Irregular b64 := by
  constructor
  · intro standard irregular
    obtain ⟨key, accepted, -⟩ := symbols_accepted b64 irregular.length irregular.symbols
    apply key_to_base64_not_irregular key
    rw [standard.encoded key accepted]
    exact irregular
  · intro regular
    refine ⟨⟨?_, ?_⟩, regular_encoded b64 regular, ?_⟩
    · rintro ⟨key, accepted⟩
      exact ⟨key, (regular_encoded b64 regular key accepted).symm⟩
    · rintro ⟨key, rfl⟩
      exact ⟨key, key_from_base64_key_to_base64 key⟩
    · intro other key otherRegular accepted otherAccepted
      rw [← regular_encoded b64 regular key accepted]
      exact (regular_encoded other otherRegular key otherAccepted).symm

set_option maxRecDepth 4000 in
/-- A key without its pad is accepted. -/
theorem bare_key_accepted :
    ¬ ((∃ key, keyFromBase64 (ascii "dwdtCnMYpX08FsFyUbJmRd9ML4frwJkqsXf7pR25LCo") = .ok key) ↔
      ∃ key, ascii "dwdtCnMYpX08FsFyUbJmRd9ML4frwJkqsXf7pR25LCo" = keyToBase64 key) := by
  intro standard
  obtain ⟨key, accepted, -⟩ := symbols_accepted
    (ascii "dwdtCnMYpX08FsFyUbJmRd9ML4frwJkqsXf7pR25LCo") (by decide) (by decide)
  obtain ⟨other, encoded⟩ := standard.mp ⟨key, accepted⟩
  have pad := (key_to_base64_regular other).1
  rw [← encoded] at pad
  exact absurd pad (by decide)

end NodeWireguard.StandardBase64
