import Mathlib
import NodeWireguard.Crypto.Key
import NodeWireguard.Netlink.AddressText

/-!
# Written address forms

A concrete pair of conversions for each family. IPv4 is the dotted form: four decimal
octets without leading zeros. IPv6 is the form with all eight groups written out in
lowercase hexadecimal without leading zeros; the compressed and mixed forms that libc
also reads are not read here. On IPv4 texts and on IPv6 texts of that form the results
are libc's.

The conversions satisfy what POSIX says of them, so the laws that results assume about
libc can be met.
-/

namespace NodeWireguard.AddressForms

open ByteText DecimalText Key AddressText

/-- A decimal octet: its only text is the one `decimal` writes. -/
def readOctet (part : Bytes) : Option UInt8 :=
  let value := digitsValue part
  if part = decimal value ∧ value ≤ 255 then some (UInt8.ofNat value) else none

/-- Value of hexadecimal digits, least significant first. -/
def hexValue (digits : List UInt8) : Nat := Nat.ofDigits 16 (digits.map UInt8.toNat)

/-- Lowercase hexadecimal without leading zeros; zero is one digit. -/
def hexText (value : Nat) : Bytes :=
  if value = 0 then [byte '0']
  else ((Nat.digits 16 value).reverse).map (fun digit => kHexChars.getD digit 0)

/-- A group of up to four hexadecimal digits, in the form `hexText` writes. -/
def readGroup (part : Bytes) : Option (UInt8 × UInt8) := do
  let digits ← part.reverse.mapM hexDecodeChar
  let value := hexValue digits
  if part = hexText value ∧ value < 65536 then
    some (UInt8.ofNat (value / 256), UInt8.ofNat (value % 256))
  else none

/-- The octets of a dotted text, or nothing. -/
def readDotted (text : Bytes) : Option (Octets 4) := do
  let octets ← (text.splitOn (byte '.')).mapM readOctet
  if size : octets.length = 4 then some ⟨octets, size⟩ else none

/-- Four octets as decimal numbers with dots between. -/
def writeDotted (addr : Octets 4) : Bytes :=
  [byte '.'].intercalate (addr.toList.map (fun octet : UInt8 => decimal octet.toNat))

/-- The octets of eight groups, or nothing. -/
def readGroups (text : Bytes) : Option (Octets 16) := do
  let groups ← (text.splitOn (byte ':')).mapM readGroup
  let octets := groups.flatMap (fun pair => [pair.1, pair.2])
  if size : octets.length = 16 then some ⟨octets, size⟩ else none

/-- Neighbouring octets, as the two halves of a group. -/
def pairs : Bytes → List (UInt8 × UInt8)
  | high :: low :: rest => (high, low) :: pairs rest
  | _ => []

/-- Sixteen octets as eight hexadecimal groups with colons between, none of them left out. -/
def writeGroups (addr : Octets 16) : Bytes :=
  [byte ':'].intercalate ((pairs addr.toList).map (fun pair =>
    hexText (256 * pair.1.toNat + pair.2.toNat)))

/-- The conversions that read and write these forms. -/
def plainInet : Inet := ⟨readDotted, readGroups, writeDotted, writeGroups⟩

/-- Marks of a joined text come from the separator or from a part. -/
theorem mem_joined (mark separator : UInt8) (parts : List Bytes)
    (member : mark ∈ [separator].intercalate parts) :
    mark = separator ∨ ∃ part ∈ parts, mark ∈ part := by
  induction parts with
  | nil => simp at member
  | cons part rest inductionHypothesis =>
    cases rest with
    | nil => exact .inr ⟨part, by simp, by simpa using member⟩
    | cons next others =>
      rw [List.intercalate_cons_cons, List.mem_append, List.mem_append] at member
      rcases member with (inPart | inSeparator) | later
      · exact .inr ⟨part, by simp, inPart⟩
      · exact .inl (by simpa using inSeparator)
      · rcases inductionHypothesis later with same | ⟨other, listed, inOther⟩
        · exact .inl same
        · exact .inr ⟨other, by simp [listed], inOther⟩

/-- The text of an octet is read as that octet. -/
theorem read_octet_decimal (octet : UInt8) : readOctet (decimal octet.toNat) = some octet := by
  have bound := octet.toNat_lt
  simp only [readOctet, decimal_value, true_and]
  rw [if_pos (by omega), UInt8.ofNat_toNat]

/-- Reading inverts writing for the dotted form. No number has a dot in it, so the text is cut
where the dots were put, and each part is the number of its octet. -/
theorem read_write_dotted (addr : Octets 4) : readDotted (writeDotted addr) = some addr := by
  have size : addr.toList.length = 4 := addr.toList_length
  have parts : (writeDotted addr).splitOn (byte '.') =
      addr.toList.map (fun octet : UInt8 => decimal octet.toNat) := by
    apply List.splitOn_intercalate
    · intro part member
      obtain ⟨octet, -, rfl⟩ := List.mem_map.mp member
      exact decimal_lacks _ _ (by decide)
    · intro empty
      simp [List.map_eq_nil_iff.mp empty] at size
  have read : (addr.toList.map (fun octet : UInt8 => decimal octet.toNat)).mapM readOctet =
      some addr.toList := by
    have each (octets : Bytes) : (octets.map (fun octet : UInt8 => decimal octet.toNat)).mapM
        readOctet = some octets := by
      induction octets with
      | nil => rfl
      | cons octet rest inductionHypothesis =>
        simp [List.mapM_cons, read_octet_decimal, inductionHypothesis]
    exact each addr.toList
  simp only [readDotted, parts, read, Option.bind_eq_bind, Option.bind_some, size, ↓reduceDIte]
  rfl

/-- Hexadecimal digits decode to their values. -/
theorem hex_digits_decode (digits : List Nat) (small : ∀ digit ∈ digits, digit < 16) :
    (digits.map (fun digit => kHexChars.getD digit 0)).mapM hexDecodeChar =
      some (digits.map UInt8.ofNat) := by
  induction digits with
  | nil => rfl
  | cons digit rest inductionHypothesis =>
    have bound := small digit (by simp)
    have value : (UInt8.ofNat digit).toNat = digit := by
      rw [UInt8.toNat_ofNat']
      omega
    have decoded := hex_digit_decodes (UInt8.ofNat digit) (by omega)
    rw [value] at decoded
    simp only [List.map_cons, List.mapM_cons, decoded,
      inductionHypothesis (fun other member => small other (by simp [member])),
      Option.bind_eq_bind, Option.bind_some, Option.pure_def]

/-- The text of a group is read as its two octets. The digits of the number are written in order
and decoded to themselves, so their value is the number; its octets are the quotient and the
remainder by 256. -/
theorem read_group_hex (value : Nat) (small : value < 65536) :
    readGroup (hexText value) = some (UInt8.ofNat (value / 256), UInt8.ofNat (value % 256)) := by
  by_cases zero : value = 0
  · subst zero
    decide
  · have digitBound : ∀ digit ∈ Nat.digits 16 value, digit < 16 :=
      fun digit member => Nat.digits_lt_base (by omega) member
    have decoded : (hexText value).reverse.mapM hexDecodeChar =
        some ((Nat.digits 16 value).map UInt8.ofNat) := by
      rw [hexText, if_neg zero, ← List.map_reverse, List.reverse_reverse]
      exact hex_digits_decode _ digitBound
    have valued : hexValue ((Nat.digits 16 value).map UInt8.ofNat) = value := by
      have same : ((Nat.digits 16 value).map UInt8.ofNat).map UInt8.toNat = Nat.digits 16 value := by
        rw [List.map_map]
        conv_rhs => rw [← List.map_id (Nat.digits 16 value)]
        apply List.map_congr_left
        intro digit member
        have bound := digitBound digit member
        simp only [Function.comp_apply, UInt8.toNat_ofNat', id_eq]
        omega
      rw [hexValue, same, Nat.ofDigits_digits]
    simp only [readGroup, decoded, Option.bind_eq_bind, Option.bind_some, valued, small, and_self,
      ↓reduceIte]

/-- A group's text has only hexadecimal digits. -/
theorem hex_text_digits (value : Nat) : ∀ octet ∈ hexText value, octet ∈ kHexChars := by
  intro octet member
  by_cases zero : value = 0
  · simp only [hexText, zero, ↓reduceIte, List.mem_singleton] at member
    subst member
    decide
  · simp only [hexText, zero, ↓reduceIte, List.mem_map, List.mem_reverse] at member
    obtain ⟨digit, listed, rfl⟩ := member
    have index : digit < kHexChars.length := by
      change digit < 16
      exact Nat.digits_lt_base (by decide) listed
    rw [List.getD_eq_getElem _ _ index]
    exact List.getElem_mem _

/-- Pairing octets and splitting each group again gives the octets back. The induction takes two
octets at a time, which is how they are paired. -/
theorem groups_of_pairs (octets : Bytes) (even : octets.length % 2 = 0) :
    ((pairs octets).map (fun pair => hexText (256 * pair.1.toNat + pair.2.toNat))).mapM readGroup =
        some (pairs octets) ∧
      (pairs octets).flatMap (fun pair => [pair.1, pair.2]) = octets := by
  induction octets using pairs.induct with
  | case1 high low rest inductionHypothesis =>
    simp only [List.length_cons] at even
    obtain ⟨read, flat⟩ := inductionHypothesis (by omega)
    have highBound := high.toNat_lt
    have lowBound := low.toNat_lt
    have first : (256 * high.toNat + low.toNat) / 256 = high.toNat := by omega
    have second : (256 * high.toNat + low.toNat) % 256 = low.toNat := by omega
    have group := read_group_hex (256 * high.toNat + low.toNat) (by omega)
    rw [first, second, UInt8.ofNat_toNat, UInt8.ofNat_toNat] at group
    constructor
    · simp only [pairs, List.map_cons, List.mapM_cons, group, read, Option.bind_eq_bind,
        Option.bind_some, Option.pure_def]
    · simp [pairs, flat]
  | case2 octets short =>
    cases octets with
    | nil => exact ⟨rfl, rfl⟩
    | cons first rest =>
      cases rest with
      | nil => simp at even
      | cons second others => exact absurd rfl (short first second others)

/-- Reading inverts writing for the group form. -/
theorem read_write_groups (addr : Octets 16) : readGroups (writeGroups addr) = some addr := by
  have size : addr.toList.length = 16 := addr.toList_length
  obtain ⟨read, flat⟩ := groups_of_pairs addr.toList (by omega)
  have parts : (writeGroups addr).splitOn (byte ':') = (pairs addr.toList).map (fun pair =>
      hexText (256 * pair.1.toNat + pair.2.toNat)) := by
    apply List.splitOn_intercalate
    · intro part member
      obtain ⟨pair, -, rfl⟩ := List.mem_map.mp member
      intro colon
      exact absurd (hex_text_digits _ _ colon) (by decide)
    · intro empty
      have octetFree : addr.toList = [] := by
        rw [← flat, List.map_eq_nil_iff.mp empty]
        rfl
      rw [octetFree] at size
      cases size
  simp only [readGroups, parts, read, Option.bind_eq_bind, Option.bind_some, flat, size,
    ↓reduceDIte]
  rfl

/-- A text without a colon is a single group, too short for an IPv6 address. -/
theorem read_groups_single (text : Bytes) (colonFree : byte ':' ∉ text) : readGroups text = none := by
  have single : text.splitOn (byte ':') = [text] := List.splitOn_eq_singleton colonFree
  cases read : readGroup text with
  | none => simp [readGroups, single, read]
  | some pair => simp [readGroups, single, read]

/-- No dotted text is read as groups. -/
theorem read_groups_dotted (addr : Octets 4) : readGroups (writeDotted addr) = none := by
  apply read_groups_single
  intro colon
  rcases mem_joined _ _ _ colon with same | ⟨digits, listed, inDigits⟩
  · exact absurd same (by decide)
  · obtain ⟨octet, -, rfl⟩ := List.mem_map.mp listed
    exact decimal_lacks _ _ (by decide) inDigits

/-- The written forms satisfy the laws of the conversions. Reading inverts writing for either
family, a dotted text has no colon and so is not one of groups, and neither has a slash or a zero
octet. -/
theorem plain_inet_lawful : plainInet.Lawful where
  pton4_ntop4 := read_write_dotted
  pton6_ntop6 := read_write_groups
  pton6_ntop4 := read_groups_dotted
  ntop4_plain addr := by
    have marks (mark : UInt8) (notDot : mark ≠ byte '.') (notDigit : isDigit mark = false) :
        mark ∉ writeDotted addr := by
      intro member
      rcases mem_joined _ _ _ member with same | ⟨digits, listed, inDigits⟩
      · exact notDot same
      · obtain ⟨octet, -, rfl⟩ := List.mem_map.mp listed
        exact decimal_lacks _ _ notDigit inDigits
    exact ⟨marks _ (by decide) (by decide), marks _ (by decide) (by decide)⟩
  ntop6_plain addr := by
    have marks (mark : UInt8) (notColon : mark ≠ byte ':') (notDigit : mark ∉ kHexChars) :
        mark ∉ writeGroups addr := by
      intro member
      rcases mem_joined _ _ _ member with same | ⟨digits, listed, inDigits⟩
      · exact notColon same
      · obtain ⟨pair, -, rfl⟩ := List.mem_map.mp listed
        exact notDigit (hex_text_digits _ _ inDigits)
    exact ⟨marks _ (by decide) (by decide), marks _ (by decide) (by decide)⟩

end NodeWireguard.AddressForms
