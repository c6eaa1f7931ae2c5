import Mathlib
import NodeWireguard.WireGuardTypes

/-!
# Key text

The base64 and hexadecimal encodings of `crypto/Key.cpp`. The base64 encoder works
on three octets at a time with a two-octet tail; the decoder shifts six bits at a
time into a signed 32-bit accumulator that is never masked. The accumulator is a
32-bit vector with wrapping shifts, so only its low bits carry meaning.

The round trips say that every key survives both encodings. Which other texts the
base64 decoder accepts is not decided here.
-/

namespace NodeWireguard.Key

open ByteText

/-- The base64 alphabet, in order of the six-bit value. -/
def kBase64Chars : Bytes :=
  ascii "ABCDEFGHIJKLMNOPQRSTUVWXYZabcdefghijklmnopqrstuvwxyz0123456789+/"

/-- The six-bit value of a base64 character; `none` is the source's -1. -/
def base64DecodeChar (c : UInt8) : Option UInt8 :=
  if byte 'A' ≤ c ∧ c ≤ byte 'Z' then some (c - byte 'A')
  else if byte 'a' ≤ c ∧ c ≤ byte 'z' then some (c - byte 'a' + 26)
  else if byte '0' ≤ c ∧ c ≤ byte '9' then some (c - byte '0' + 52)
  else if c = byte '+' then some 62
  else if c = byte '/' then some 63
  else none

/-- `kHexChars`: the digits of the encoder, in lower case. -/
def kHexChars : Bytes := ascii "0123456789abcdef"

/-- The value of a hexadecimal digit of either case; `none` is the source's -1. -/
def hexDecodeChar (c : UInt8) : Option UInt8 :=
  if byte '0' ≤ c ∧ c ≤ byte '9' then some (c - byte '0')
  else if byte 'a' ≤ c ∧ c ≤ byte 'f' then some (c - byte 'a' + 10)
  else if byte 'A' ≤ c ∧ c ≤ byte 'F' then some (c - byte 'A' + 10)
  else none

/-- Three octets in one word, first octet highest; missing ones are zero. -/
def group (a b c : UInt8) : BitVec 32 :=
  (a.toBitVec.setWidth 32 <<< 16) ||| (b.toBitVec.setWidth 32 <<< 8) ||| c.toBitVec.setWidth 32

/-- `kBase64Chars[(n >> shift) & 0x3F]` -/
def base64Char (n : BitVec 32) (shift : Nat) : UInt8 :=
  kBase64Chars.getD ((n >>> shift) &&& 0x3F#32).toNat 0

/-- The encoder's loop over groups of three, then its one- or two-octet tail. -/
def base64Encode : Bytes → Bytes
  | a :: b :: c :: rest =>
      let n := group a b c
      base64Char n 18 :: base64Char n 12 :: base64Char n 6 :: base64Char n 0 :: base64Encode rest
  | [a] =>
      let n := group a 0 0
      [base64Char n 18, base64Char n 12, byte '=', byte '=']
  | [a, b] =>
      let n := group a b 0
      [base64Char n 18, base64Char n 12, base64Char n 6, byte '=']
  | [] => []

/-- `KeyToBase64` -/
def keyToBase64 (key : Key) : Bytes := base64Encode key.toList

/-- The decoder's loop variables: the octets written to `key` so far, the
accumulator and the number of its low bits not yet written. -/
structure Base64State where
  key : Bytes
  buf : BitVec 32
  bits : Nat
  deriving DecidableEq

/-- One iteration of the decoding loop; `none` where it throws. -/
def base64Step (state : Base64State) (c : UInt8) : Option Base64State := do
  let v ← base64DecodeChar c
  let buf := (state.buf <<< 6) ||| v.toBitVec.setWidth 32
  let bits := state.bits + 6
  if 8 ≤ bits then
    let bits := bits - 8
    if kKeyLen ≤ state.key.length then none
    else some ⟨state.key ++ [UInt8.ofBitVec ((buf.sshiftRight bits).setWidth 8)], buf, bits⟩
  else some ⟨state.key, buf, bits⟩

/-- What `KeyFromBase64` throws, whatever is wrong with the text. -/
def invalidBase64 (b64 : Bytes) : Exception :=
  .invalidArgument (ascii "invalid base64-encoded WireGuard key: " ++ b64)

/-- `KeyFromBase64`: every trailing `=` is stripped, and what is left must be 43 symbols that
decode to 32 octets. -/
def keyFromBase64 (b64 : Bytes) : Except Exception Key :=
  let s := b64.rdropWhile (· == byte '=')
  if s.length ≠ 43 then .error (invalidBase64 b64)
  else match s.foldlM base64Step ⟨[], 0, 0⟩ with
    | none => .error (invalidBase64 b64)
    | some state =>
        if full : state.key.length = kKeyLen then .ok ⟨state.key, full⟩
        else .error (invalidBase64 b64)

/-- `KeyToHex`: two digits for each octet, the high half first. -/
def keyToHex (key : Key) : Bytes :=
  key.toList.flatMap (fun b : UInt8 =>
    [kHexChars.getD (b >>> 4).toNat 0, kHexChars.getD (b &&& 0x0F).toNat 0])

/-- Pairs of digits, most significant first; `none` where the loop throws. -/
def hexPairs : Bytes → Option Bytes
  | hi :: lo :: rest => do
      let high ← hexDecodeChar hi
      let low ← hexDecodeChar lo
      return ((high <<< 4) ||| low) :: (← hexPairs rest)
  | _ => some []

/-- `KeyFromHex`: exactly 64 digits, of either letter case. -/
def keyFromHex (hex : Bytes) : Except Exception Key :=
  let invalid := Exception.invalidArgument (ascii "invalid hex-encoded WireGuard key: " ++ hex)
  if hex.length ≠ kKeyLen * 2 then .error invalid
  else match hexPairs hex with
    | none => .error invalid
    | some octets => if full : octets.length = kKeyLen then .ok ⟨octets, full⟩ else .error invalid

/-- All octets zero: both protocols' convention for an unset key. -/
def isZeroKey (key : Key) : Bool := key.toList.all (· == 0)

/-- The all-zero key itself. -/
def zeroKey : Key := List.Vector.replicate kKeyLen 0

/-- The six bits of a group that one character carries. -/
def sextet (n : BitVec 32) (shift : Nat) : BitVec 32 := (n >>> shift) &&& 0x3F#32

set_option maxRecDepth 4000 in
/-- Every position of the alphabet decodes to itself. -/
theorem base64_alphabet (v : Fin 64) :
    base64DecodeChar (kBase64Chars.getD v.val 0) = some (UInt8.ofNat v.val) := by
  revert v
  decide

/-- A sextet indexes the alphabet. -/
theorem sextet_bound (n : BitVec 32) (shift : Nat) : (sextet n shift).toNat < 64 := by
  simp only [sextet, BitVec.toNat_and]
  exact Nat.lt_of_le_of_lt Nat.and_le_right (by decide)

/-- An encoded character decodes to the sextet it was taken from. -/
theorem base64_char_decodes (n : BitVec 32) (shift : Nat) :
    base64DecodeChar (base64Char n shift) = some (UInt8.ofNat (sextet n shift).toNat) :=
  base64_alphabet ⟨_, sextet_bound n shift⟩

/-- The bits of a sextet are the six group bits from its shift on. -/
theorem sextet_bit (n : BitVec 32) (shift i : Nat) :
    (sextet n shift).getLsbD i = (n.getLsbD (shift + i) && decide (i < 6)) := by
  have mask : (0x3F#32).getLsbD i = decide (i < 6) := by
    have ones : (63 : Nat).testBit i = decide (i < 6) := Nat.testBit_two_pow_sub_one 6 i
    rw [BitVec.getLsbD_ofNat, ones]
    by_cases small : i < 6
    · simp [small]
      omega
    · simp [small]
  simp [sextet, mask]

/-- Two neighbouring sextets at the bottom of any accumulator hold eight bits of
the group. Whatever was shifted out above them does not matter. -/
theorem two_sextets (buf n : BitVec 32) (shift spare : Nat) (inside : spare ≤ 4) :
    ((((buf <<< 6 ||| sextet n (shift + 6)) <<< 6) ||| sextet n shift).sshiftRight spare).setWidth 8 =
      (n >>> (shift + spare)).setWidth 8 := by
  apply BitVec.eq_of_getLsbD_eq
  intro i bound
  have inWord : spare + i < 32 := by omega
  have notAbove : ¬ 32 ≤ i := by omega
  simp only [BitVec.getLsbD_setWidth, BitVec.getLsbD_sshiftRight, BitVec.getLsbD_or,
    BitVec.getLsbD_shiftLeft, BitVec.getLsbD_ushiftRight, sextet_bit, bound, inWord, notAbove,
    decide_true, decide_false, Bool.true_and, Bool.not_false, ↓reduceIte, Nat.add_assoc]
  by_cases low : spare + i < 6
  · simp [low]
  · have high : spare + i - 6 < 6 := by omega
    have sameBit : shift + (6 + (spare + i - 6)) = shift + (spare + i) := by omega
    have below : spare + i - 6 < 32 := by omega
    simp [low, high, below, sameBit]

/-- The three octets of a group are its bytes from the top. -/
theorem group_octets (a b c : UInt8) :
    (group a b c >>> 16).setWidth 8 = a.toBitVec ∧ (group a b c >>> 8).setWidth 8 = b.toBitVec ∧
      (group a b c).setWidth 8 = c.toBitVec := by
  refine ⟨?_, ?_, ?_⟩
  all_goals
    apply BitVec.eq_of_getLsbD_eq
    intro i bound
    simp only [group]
    interval_cases i <;> simp

/-- One iteration on an encoded character: shift in its sextet, write an octet when
eight bits are there. -/
theorem base64_step_char (state : Base64State) (n : BitVec 32) (shift : Nat) :
    base64Step state (base64Char n shift) =
      (let buf := (state.buf <<< 6) ||| sextet n shift
       if 8 ≤ state.bits + 6 then
         if kKeyLen ≤ state.key.length then none
         else some ⟨state.key ++
           [UInt8.ofBitVec ((buf.sshiftRight (state.bits + 6 - 8)).setWidth 8)], buf, state.bits + 6 - 8⟩
       else some ⟨state.key, buf, state.bits + 6⟩) := by
  have value : (UInt8.ofNat (sextet n shift).toNat).toBitVec.setWidth 32 = sextet n shift := by
    have bound := sextet_bound n shift
    apply BitVec.eq_of_toNat_eq
    simp only [BitVec.toNat_setWidth, UInt8.toNat_toBitVec, UInt8.toNat_ofNat']
    omega
  simp [base64Step, base64_char_decodes, value]

/-- Four characters of a full group write its three octets and leave no bits over,
whatever the accumulator held. -/
theorem base64_step_group (key : Bytes) (buf : BitVec 32) (a b c : UInt8)
    (room : key.length + 3 ≤ kKeyLen) :
    ∃ after, ∀ rest, (base64Char (group a b c) 18 :: base64Char (group a b c) 12 ::
        base64Char (group a b c) 6 :: base64Char (group a b c) 0 :: rest).foldlM base64Step
        ⟨key, buf, 0⟩ =
      rest.foldlM base64Step ⟨key ++ [a, b, c], after, 0⟩ := by
  obtain ⟨first, second, third⟩ := group_octets a b c
  have firstFits : ¬ kKeyLen ≤ key.length := by omega
  have secondFits : ¬ kKeyLen ≤ key.length + 1 := by omega
  have thirdFits : ¬ kKeyLen ≤ key.length + 2 := by omega
  have firstOctet := (two_sextets buf (group a b c) 12 4 (by omega)).trans first
  have secondOctet (y : BitVec 32) := (two_sextets y (group a b c) 6 2 (by omega)).trans second
  have thirdOctet (y : BitVec 32) := (two_sextets y (group a b c) 0 0 (by omega)).trans
    (by simpa using third)
  refine ⟨(((buf <<< 6 ||| sextet (group a b c) 18) <<< 6 ||| sextet (group a b c) 12) <<< 6 |||
    sextet (group a b c) 6) <<< 6 ||| sextet (group a b c) 0, fun rest => ?_⟩
  simp only [List.foldlM_cons, base64_step_char]
  simp only [Nat.reduceAdd, Nat.reduceLeDiff, Nat.reduceSub, ↓reduceIte, Option.bind_eq_bind,
    Option.bind_some, List.length_append, List.length_singleton, firstFits, secondFits, thirdFits,
    firstOctet, secondOctet, thirdOctet]
  simp only [List.append_assoc]
  rfl

/-- The three characters of the two-octet tail write its octets and leave two bits. -/
theorem base64_step_tail (key : Bytes) (buf : BitVec 32) (a b : UInt8)
    (room : key.length + 2 ≤ kKeyLen) :
    ∃ after, [base64Char (group a b 0) 18, base64Char (group a b 0) 12,
        base64Char (group a b 0) 6].foldlM base64Step ⟨key, buf, 0⟩ =
      some ⟨key ++ [a, b], after, 2⟩ := by
  obtain ⟨first, second, -⟩ := group_octets a b 0
  have firstFits : ¬ kKeyLen ≤ key.length := by omega
  have secondFits : ¬ kKeyLen ≤ key.length + 1 := by omega
  have firstOctet := (two_sextets buf (group a b 0) 12 4 (by omega)).trans first
  have secondOctet (y : BitVec 32) := (two_sextets y (group a b 0) 6 2 (by omega)).trans second
  simp only [List.foldlM_cons, base64_step_char]
  simp only [Nat.reduceAdd, Nat.reduceLeDiff, Nat.reduceSub, ↓reduceIte, Option.bind_eq_bind,
    Option.bind_some, List.length_append, List.length_singleton, firstFits, secondFits,
    firstOctet, secondOctet]
  exact ⟨_, by simp only [List.append_assoc]; rfl⟩

/-- An octet string with a two-octet tail encodes to characters of the alphabet and
one pad, and decoding those characters writes the octets back.

Induct over the groups: each writes its three octets and leaves the accumulator
empty, so the next group starts as the first did. -/
theorem base64_encode_decodes (octets key : Bytes) (buf : BitVec 32)
    (tail : octets.length % 3 = 2) (room : key.length + octets.length ≤ kKeyLen) :
    ∃ chars after, base64Encode octets = chars ++ [byte '='] ∧
      3 * chars.length = 4 * octets.length + 1 ∧
      (∀ c ∈ chars, ∃ n shift, c = base64Char n shift) ∧
      chars.foldlM base64Step ⟨key, buf, 0⟩ = some ⟨key ++ octets, after, 2⟩ := by
  induction octets using base64Encode.induct generalizing key buf with
  | case1 a b c rest inductionHypothesis =>
    simp only [List.length_cons] at tail room
    obtain ⟨middle, grouped⟩ := base64_step_group key buf a b c (by omega)
    obtain ⟨chars, after, encoded, count, alphabet, decoded⟩ :=
      inductionHypothesis (key ++ [a, b, c]) middle (by omega) (by simp; omega)
    refine ⟨base64Char (group a b c) 18 :: base64Char (group a b c) 12 ::
      base64Char (group a b c) 6 :: base64Char (group a b c) 0 :: chars, after, ?_, ?_, ?_, ?_⟩
    · simp [base64Encode, encoded]
    · simp only [List.length_cons]
      omega
    · intro c member
      simp only [List.mem_cons] at member
      rcases member with rfl | rfl | rfl | rfl | later
      · exact ⟨_, _, rfl⟩
      · exact ⟨_, _, rfl⟩
      · exact ⟨_, _, rfl⟩
      · exact ⟨_, _, rfl⟩
      · exact alphabet c later
    · rw [grouped, decoded]
      simp
  | case2 a => simp at tail
  | case3 a b =>
    obtain ⟨after, decoded⟩ := base64_step_tail key buf a b room
    refine ⟨_, after, rfl, by simp, ?_, decoded⟩
    intro c member
    simp only [List.mem_cons, List.not_mem_nil, or_false] at member
    rcases member with rfl | rfl | rfl
    all_goals exact ⟨_, _, rfl⟩
  | case4 => simp at tail

/-- The pad is not in the alphabet. -/
theorem base64_char_not_pad (n : BitVec 32) (shift : Nat) : base64Char n shift ≠ byte '=' := by
  intro same
  have decoded := base64_char_decodes n shift
  have rejected : base64DecodeChar (byte '=') = none := by decide
  rw [same, rejected] at decoded
  cases decoded

/-- Every key survives base64. -/
theorem key_from_base64_key_to_base64 (key : Key) : keyFromBase64 (keyToBase64 key) = .ok key := by
  have size : key.toList.length = 32 := key.toList_length
  obtain ⟨chars, after, encoded, count, alphabet, decoded⟩ :=
    base64_encode_decodes key.toList [] 0 (by omega) (by rw [size]; decide)
  have stripped : (chars ++ [byte '=']).rdropWhile (· == byte '=') = chars := by
    rw [List.rdropWhile_concat_pos _ _ _ (by simp)]
    cases chars using List.reverseRecOn with
    | nil => rfl
    | append_singleton front last =>
      obtain ⟨n, shift, rfl⟩ := alphabet last (by simp)
      exact List.rdropWhile_concat_neg _ _ _ (by simpa using base64_char_not_pad n shift)
  have length : chars.length = 43 := by omega
  simp only [keyFromBase64, keyToBase64, encoded, stripped, length, ne_eq, not_true_eq_false,
    ↓reduceIte]
  rw [decoded]
  have full : key.toList.length = kKeyLen := size
  simp only [List.nil_append, full, ↓reduceDIte]
  rfl

/-- Distinct keys have distinct base64 texts. -/
theorem key_to_base64_injective {left right : Key}
    (same : keyToBase64 left = keyToBase64 right) : left = right := by
  have decoded := key_from_base64_key_to_base64 left
  rw [same, key_from_base64_key_to_base64 right] at decoded
  exact (Except.ok.inj decoded).symm

/-- No base64 text of a key is empty. -/
theorem key_to_base64_nonempty (key : Key) : keyToBase64 key ≠ [] := by
  intro empty
  have decoded := key_from_base64_key_to_base64 key
  rw [empty] at decoded
  have rejected : keyFromBase64 [] = .error (invalidBase64 []) := rfl
  rw [rejected] at decoded
  cases decoded

/-- Both halves of an octet index the hexadecimal digits. -/
theorem hex_halves_bound (b : UInt8) : (b >>> 4).toNat < 16 ∧ (b &&& 0x0F).toNat < 16 := by
  constructor
  · have bound := b.toNat_lt
    simp only [UInt8.toNat_shiftRight, Nat.shiftRight_eq_div_pow]
    exact Nat.div_lt_of_lt_mul (by simpa using bound)
  · simp only [UInt8.toNat_and]
    exact Nat.lt_of_le_of_lt Nat.and_le_right (by decide)

/-- A hexadecimal digit decodes to its position. -/
theorem hex_digit_decodes (v : UInt8) (bound : v.toNat < 16) :
    hexDecodeChar (kHexChars.getD v.toNat 0) = some v := by
  have table : ∀ i : Fin 16, hexDecodeChar (kHexChars.getD i.val 0) = some (UInt8.ofNat i.val) := by
    decide
  rw [table ⟨v.toNat, bound⟩, UInt8.ofNat_toNat]

/-- The halves of an octet make it up again. -/
theorem hex_halves (b : UInt8) : ((b >>> 4) <<< 4) ||| (b &&& 0x0F) = b := by
  apply UInt8.eq_of_toBitVec_eq
  apply BitVec.eq_of_getLsbD_eq
  intro i bound
  interval_cases i <;> simp

/-- Decoding the hexadecimal digits of octets gives the octets back. -/
theorem hex_pairs_encoded (octets : Bytes) :
    hexPairs (octets.flatMap (fun b : UInt8 =>
      [kHexChars.getD (b >>> 4).toNat 0, kHexChars.getD (b &&& 0x0F).toNat 0])) = some octets := by
  induction octets with
  | nil => rfl
  | cons b rest inductionHypothesis =>
    have high := hex_digit_decodes _ (hex_halves_bound b).1
    have low := hex_digit_decodes _ (hex_halves_bound b).2
    simp only [List.flatMap_cons, List.cons_append, List.nil_append, hexPairs, high, low,
      inductionHypothesis, hex_halves, Option.pure_def, Option.bind_eq_bind, Option.bind_some]

/-- Every key survives hexadecimal. -/
theorem key_from_hex_key_to_hex (key : Key) : keyFromHex (keyToHex key) = .ok key := by
  have size : key.toList.length = kKeyLen := key.toList_length
  have length : (keyToHex key).length = kKeyLen * 2 := by
    simp only [keyToHex, List.length_flatMap, List.length_cons, List.length_nil]
    simp [size]
  simp only [keyFromHex, length, ne_eq, not_true_eq_false, ↓reduceIte]
  rw [keyToHex, hex_pairs_encoded]
  simp only [size, ↓reduceDIte]
  rfl

/-- Hexadecimal text of a key consists of lowercase hexadecimal digits. -/
theorem key_to_hex_digits (key : Key) : ∀ c ∈ keyToHex key, c ∈ kHexChars := by
  intro c member
  simp only [keyToHex, List.mem_flatMap, List.mem_cons, List.not_mem_nil, or_false] at member
  obtain ⟨b, -, digit⟩ := member
  have inside (v : UInt8) (bound : v.toNat < 16) : kHexChars.getD v.toNat 0 ∈ kHexChars := by
    have index : v.toNat < kHexChars.length := bound
    rw [List.getD_eq_getElem _ _ index]
    exact List.getElem_mem _
  rcases digit with rfl | rfl
  · exact inside _ (hex_halves_bound b).1
  · exact inside _ (hex_halves_bound b).2

end NodeWireguard.Key
