import Mathlib
import NodeWireguard.Foundations.Fallible
import NodeWireguard.Foundations.IntegerConversions
import NodeWireguard.Netlink.AddressForms

/-!
# The grammar of endpoints and ranges

What an endpoint and a CIDR text should look like, apart from the parsers, and what the
parsers of `NlAttr.cpp` accept. The port and the mask go through `std::stoi` with a check
that it reached the end, which leaves white space and a sign in front; the address goes
through a C string, which ends at the first zero octet.

A parser agrees with its grammar on every text except those in which one of the two is used.
-/

namespace NodeWireguard.AddressGrammar

open ByteText DecimalText IntegerConversions Fallible Key AddressText AddressForms

/-- What a dotted IPv4 address is written with. -/
def dottedOctet (octet : UInt8) : Bool := isDigit octet || octet == byte '.'

/-- What an IPv6 address is written with, its mixed form included. -/
def groupedOctet (octet : UInt8) : Bool :=
  (hexDecodeChar octet).isSome || octet == byte ':' || octet == byte '.'

/-- What POSIX says of the texts the conversions accept: IPv4 is dotted decimal, and IPv6
is hexadecimal groups with colons, the last two possibly dotted. -/
structure Inet.Spelled (inet : Inet) : Prop where
  pton4_dotted : ∀ text addr, inet.pton4 text = some addr → ∀ octet ∈ text, dottedOctet octet = true
  pton6_grouped : ∀ text addr, inet.pton6 text = some addr →
    ∀ octet ∈ text, groupedOctet octet = true
  pton6_colon : ∀ text addr, inet.pton6 text = some addr → byte ':' ∈ text

/-- The entire text is an IPv4 address. -/
def WholeAddress4 (inet : Inet) (text : Bytes) (addr : Octets 4) : Prop :=
  0 ∉ text ∧ inet.pton4 text = some addr

/-- The entire text is an IPv6 address. -/
def WholeAddress6 (inet : Inet) (text : Bytes) (addr : Octets 16) : Prop :=
  0 ∉ text ∧ inet.pton6 text = some addr

/-- `<IPv4 address>:<port>` or `[<IPv6 address>]:<port>`, and what it denotes. -/
inductive EndpointText (inet : Inet) : Bytes → SockAddr → Prop where
  | dotted (host digits : Bytes) (port : UInt16) (addr : Octets 4)
      (isAddress : WholeAddress4 inet host addr) (isPort : StrictDigits digits port.toNat) :
      EndpointText inet (host ++ byte ':' :: digits) (.in4 port addr)
  | bracketed (host digits : Bytes) (port : UInt16) (addr : Octets 16)
      (isAddress : WholeAddress6 inet host addr) (isPort : StrictDigits digits port.toNat) :
      EndpointText inet (byte '[' :: (host ++ byte ']' :: byte ':' :: digits)) (.in6 port addr)

/-- `<address>/<mask>` with a mask in the family's range, and its record. -/
inductive CIDRText (inet : Inet) : Bytes → AllowedIP → Prop where
  | v6 (ip digits : Bytes) (mask : UInt8) (addr : Octets 16)
      (isAddress : WholeAddress6 inet ip addr) (isMask : StrictDigits digits mask.toNat)
      (bound : mask.toNat ≤ 128) : CIDRText inet (ip ++ byte '/' :: digits) ⟨ip, AF_INET6, mask⟩
  | v4 (ip digits : Bytes) (mask : UInt8) (addr : Octets 4)
      (isAddress : WholeAddress4 inet ip addr) (isMask : StrictDigits digits mask.toNat)
      (bound : mask.toNat ≤ 32) : CIDRText inet (ip ++ byte '/' :: digits) ⟨ip, AF_INET, mask⟩

/-- A number `std::stoi` reads to the end of the text: white space and a sign may lead. -/
def LooseNumber (text : Bytes) (value : Nat) : Prop :=
  ∃ negative magnitude, Lenient text negative magnitude ∧ signedValue negative magnitude = value

/-- A text cut where `ParseEndpoint` cuts it, with a host whose C string is an address of the
family the cut selects and a port that `std::stoi` reads. -/
inductive LooseEndpoint (inet : Inet) : Bytes → Bytes → Bytes → SockAddr → Prop where
  | dotted (host portText : Bytes) (port : UInt16) (addr : Octets 4)
      (unbracketed : host.head? ≠ some (byte '[')) (isAddress : inet.inetPton4 host = some addr)
      (isPort : LooseNumber portText port.toNat) :
      LooseEndpoint inet (host ++ byte ':' :: portText) host portText (.in4 port addr)
  | bracketed (host portText : Bytes) (port : UInt16) (addr : Octets 16)
      (unclosed : byte ']' ∉ host) (isAddress : inet.inetPton6 host = some addr)
      (isPort : LooseNumber portText port.toNat) :
      LooseEndpoint inet (byte '[' :: (host ++ byte ']' :: byte ':' :: portText)) host portText
        (.in6 port addr)

/-- A text cut at its first slash, with an address part whose C string is an address and a
mask that `std::stoi` reads, in the range of the family that is tried first. -/
inductive LooseCIDR (inet : Inet) : Bytes → Bytes → Bytes → AllowedIP → Prop where
  | v6 (ip maskStr : Bytes) (mask : UInt8) (slashFree : byte '/' ∉ ip)
      (isAddress : (inet.inetPton6 ip).isSome) (isMask : LooseNumber maskStr mask.toNat)
      (bound : mask.toNat ≤ 128) :
      LooseCIDR inet (ip ++ byte '/' :: maskStr) ip maskStr ⟨ip, AF_INET6, mask⟩
  | v4 (ip maskStr : Bytes) (mask : UInt8) (slashFree : byte '/' ∉ ip)
      (notSixth : inet.inetPton6 ip = none) (isAddress : (inet.inetPton4 ip).isSome)
      (isMask : LooseNumber maskStr mask.toNat) (bound : mask.toNat ≤ 32) :
      LooseCIDR inet (ip ++ byte '/' :: maskStr) ip maskStr ⟨ip, AF_INET, mask⟩

/-- The address part goes on after a zero octet, or the number is not digits only. -/
def Deviates (address number : Bytes) : Prop :=
  0 ∈ address ∨ ∃ octet ∈ number, isDigit octet = false

section Numbers

/-- The lenient spellings of a number below 2^31 are the texts `stoi` reads whole. -/
theorem loose_number_iff (text : Bytes) (value : Nat) (small : value < 2 ^ 31) :
    LooseNumber text value ↔ stoi text = .ok ((value : Int), text.length) := by
  rw [stoi_whole_iff]
  constructor
  · rintro ⟨negative, magnitude, lenient, same⟩
    exact ⟨negative, magnitude, lenient, same, by omega, by omega⟩
  · rintro ⟨negative, magnitude, lenient, same, -⟩
    exact ⟨negative, magnitude, lenient, same⟩

/-- A strict number is read as it stands. -/
theorem strict_loose (text : Bytes) (value : Nat) (strict : StrictDigits text value) :
    LooseNumber text value :=
  ⟨false, value, strict_lenient text value strict, rfl⟩

/-- A loose number of digits only is strict. -/
theorem loose_strict (text : Bytes) (value : Nat) (loose : LooseNumber text value)
    (digits : ∀ octet ∈ text, isDigit octet = true) : StrictDigits text value := by
  obtain ⟨negative, magnitude, lenient, same⟩ := loose
  have nonempty : text ≠ [] := by
    obtain ⟨blanks, sign, number, parts, -⟩ := lenient
    intro empty
    have whole := parts.whole
    rw [empty] at whole
    exact parts.nonempty (List.append_eq_nil_iff.mp (List.append_eq_nil_iff.mp whole.symm).2).2
  have strict : StrictDigits text (digitsValue text) := ⟨nonempty, digits, rfl⟩
  obtain ⟨rfl, rfl⟩ := lenient_strict text negative magnitude _ lenient strict
  have value : digitsValue text = value := Int.ofNat_inj.mp same
  exact ⟨nonempty, digits, value⟩

/-- A mark that is no space, sign or digit is not in a loose number. -/
theorem loose_lacks (text : Bytes) (value : Nat) (loose : LooseNumber text value) (mark : UInt8)
    (notSpace : isSpace mark = false) (notDigit : isDigit mark = false)
    (notSign : mark ≠ byte '+' ∧ mark ≠ byte '-') : mark ∉ text := by
  obtain ⟨negative, magnitude, ⟨blanks, sign, digits, parts, -⟩, -⟩ := loose
  rw [parts.whole]
  intro member
  rcases List.mem_append.mp member with inBlanks | later
  · simp [parts.blank mark inBlanks] at notSpace
  · rcases List.mem_append.mp later with inSign | inDigits
    · have signed := parts.signed
      cases signed with
      | none => cases inSign
      | plus => exact notSign.1 (List.mem_singleton.mp inSign)
      | minus => exact notSign.2 (List.mem_singleton.mp inSign)
    · simp [parts.digit mark inDigits] at notDigit

/-- `ParsePort` accepts exactly the loose numbers of 16 bits. The conversion must read the whole
text and the value must be in range; white space and a sign in front are read, which makes the
numbers loose. -/
theorem parse_port_iff (s : Bytes) (port : UInt16) :
    parsePort s = .ok port ↔ LooseNumber s port.toNat := by
  have bound := port.toNat_lt
  rw [loose_number_iff s port.toNat (by omega)]
  constructor
  · intro accepted
    simp only [parsePort] at accepted
    split at accepted
    · cases accepted
    · split at accepted
      · cases accepted
      · rename_i value consumed converted
        split at accepted
        · cases accepted
        · rename_i inRange
          obtain ⟨whole, low, high⟩ : consumed = s.length ∧ 0 ≤ value ∧ value ≤ 65535 := by
            simpa only [not_or, not_not, not_lt] using inRange
          obtain rfl := Except.ok.inj accepted
          have narrowed : ((UInt16.ofNat value.toNat).toNat : Int) = value := by
            rw [UInt16.toNat_ofNat']
            omega
          rw [converted, whole, narrowed]
  · intro converted
    have nonempty : s ≠ [] := by
      rintro rfl
      cases converted
    have inRange : ¬ (s.length ≠ s.length ∨ (port.toNat : Int) < 0 ∨ 65535 < (port.toNat : Int)) := by
      omega
    simp only [parsePort, if_neg nonempty, converted, if_neg inRange, Int.toNat_natCast,
      UInt16.ofNat_toNat]

end Numbers

section Spelling

variable {inet : Inet}

/-- An IPv4 text has no octet other than digits and dots. -/
theorem pton4_lacks (spelled : Inet.Spelled inet) (text : Bytes) (addr : Octets 4)
    (accepted : inet.pton4 text = some addr) (mark : UInt8) (other : dottedOctet mark = false) :
    mark ∉ text := by
  intro member
  simp [spelled.pton4_dotted text addr accepted mark member] at other

/-- An address of sixteen octets is spelled without any other octet than digits, colons and dots. -/
theorem pton6_lacks (spelled : Inet.Spelled inet) (text : Bytes) (addr : Octets 16)
    (accepted : inet.pton6 text = some addr) (mark : UInt8) (other : groupedOctet mark = false) :
    mark ∉ text := by
  intro member
  simp [spelled.pton6_grouped text addr accepted mark member] at other

/-- No text is an address of both families. -/
theorem pton6_of_pton4 (spelled : Inet.Spelled inet) (text : Bytes) (addr : Octets 4)
    (accepted : inet.pton4 text = some addr) : inet.pton6 text = none := by
  cases sixth : inet.pton6 text with
  | none => rfl
  | some other =>
    have colon := spelled.pton6_colon text other sixth
    exact absurd colon (pton4_lacks spelled text addr accepted _ (by decide))

/-- A whole address is what the conversion reads through the C string. -/
theorem whole_address4 (text : Bytes) (addr : Octets 4) (isAddress : WholeAddress4 inet text addr) :
    inet.inetPton4 text = some addr := by
  rw [Inet.inetPton4, c_string_whole text isAddress.1]
  exact isAddress.2

/-- The same for sixteen octets. -/
theorem whole_address6 (text : Bytes) (addr : Octets 16) (isAddress : WholeAddress6 inet text addr) :
    inet.inetPton6 text = some addr := by
  rw [Inet.inetPton6, c_string_whole text isAddress.1]
  exact isAddress.2

/-- The spelling of four octets has nothing behind a zero octet. -/
theorem address4_whole (text : Bytes) (addr : Octets 4) (plain : 0 ∉ text)
    (accepted : inet.inetPton4 text = some addr) : WholeAddress4 inet text addr := by
  rw [Inet.inetPton4, c_string_whole text plain] at accepted
  exact ⟨plain, accepted⟩

/-- Nor has that of sixteen. -/
theorem address6_whole (text : Bytes) (addr : Octets 16) (plain : 0 ∉ text)
    (accepted : inet.inetPton6 text = some addr) : WholeAddress6 inet text addr := by
  rw [Inet.inetPton6, c_string_whole text plain] at accepted
  exact ⟨plain, accepted⟩

/-- A number and an address part that deviate in nothing are strict and whole. -/
theorem not_deviates (address number : Bytes) :
    ¬ Deviates address number ↔ 0 ∉ address ∧ ∀ octet ∈ number, isDigit octet = true := by
  simp [Deviates]

/-- The texts of decimal octets are digits. -/
theorem read_octet_digits (part : Bytes) (octet : UInt8) (read : readOctet part = some octet) :
    ∀ mark ∈ part, isDigit mark = true := by
  simp only [readOctet] at read
  split at read
  · rename_i written
    intro mark member
    rw [written.1] at member
    exact decimal_digits _ mark member
  · cases read

/-- The texts of groups are hexadecimal digits. -/
theorem read_group_digits (part : Bytes) (pair : UInt8 × UInt8) (read : readGroup part = some pair) :
    ∀ mark ∈ part, (hexDecodeChar mark).isSome = true := by
  intro mark member
  obtain ⟨digits, decoded, -⟩ := Option.bind_eq_some_iff.mp read
  obtain ⟨digit, value⟩ := option_mapM_each _ _ _ decoded mark (List.mem_reverse.mpr member)
  simp [value]

/-- The marks of a text are its separator and those of its parts. -/
theorem split_marks (text : Bytes) (separator : UInt8) (p : UInt8 → Bool)
    (own : p separator = true)
    (parts : ∀ part ∈ text.splitOn separator, ∀ mark ∈ part, p mark = true) :
    ∀ mark ∈ text, p mark = true := by
  have joined : [separator].intercalate (text.splitOn separator) = text :=
    List.intercalate_splitOn separator
  intro mark member
  rw [← joined] at member
  rcases mem_joined _ _ _ member with rfl | ⟨part, listed, inPart⟩
  · exact own
  · exact parts part listed mark inPart

/-- The written forms are spelled as POSIX says. -/
theorem plain_inet_spelled : Inet.Spelled plainInet where
  pton4_dotted text addr accepted := by
    obtain ⟨octets, read, -⟩ := Option.bind_eq_some_iff.mp accepted
    refine split_marks text (byte '.') dottedOctet (by decide) ?_
    intro part listed mark member
    obtain ⟨octet, value⟩ := option_mapM_each _ _ _ read part listed
    simp [dottedOctet, read_octet_digits part octet value mark member]
  pton6_grouped text addr accepted := by
    obtain ⟨groups, read, -⟩ := Option.bind_eq_some_iff.mp accepted
    refine split_marks text (byte ':') groupedOctet (by decide) ?_
    intro part listed mark member
    obtain ⟨pair, value⟩ := option_mapM_each _ _ _ read part listed
    simp [groupedOctet, read_group_digits part pair value mark member]
  pton6_colon text addr accepted := by
    by_contra colonFree
    have refused : plainInet.pton6 text = none := read_groups_single text colonFree
    rw [refused] at accepted
    cases accepted

end Spelling

end NodeWireguard.AddressGrammar
