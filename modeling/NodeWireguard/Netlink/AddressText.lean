import Mathlib
import NodeWireguard.Foundations.DecimalText
import NodeWireguard.WireGuardTypes

/-!
# Endpoint and CIDR text

The text parsers of `NlAttr.cpp`. The port and mask go through `std::stoi`, which skips
leading white space and accepts a sign; the address goes through `inet_pton`, which
reads a C string and so stops at the first zero octet. Both backends keep the accepted
text and hand it on unchanged.

The libc conversions are a parameter: their results are not computed here, only that
they depend on the C string they are given. A CIDR record that a parse can produce is
one whose address text is accepted for its family and whose mask is in range; exactly
these survive formatting and parsing again.
-/

namespace NodeWireguard.AddressText

open ByteText DecimalText

/-- libc's address conversions on the C strings they read and write. -/
structure Inet where
  pton4 : Bytes → Option (Octets 4)
  pton6 : Bytes → Option (Octets 16)
  ntop4 : Octets 4 → Bytes
  ntop6 : Octets 16 → Bytes

/-- What POSIX says of the conversions: reading inverts writing for each family, no
written IPv4 text is an IPv6 text, and written texts use neither a slash nor the zero
octet that would end the C string. -/
structure Inet.Lawful (inet : Inet) : Prop where
  pton4_ntop4 : ∀ addr, inet.pton4 (inet.ntop4 addr) = some addr
  pton6_ntop6 : ∀ addr, inet.pton6 (inet.ntop6 addr) = some addr
  pton6_ntop4 : ∀ addr, inet.pton6 (inet.ntop4 addr) = none
  ntop4_plain : ∀ addr, byte '/' ∉ inet.ntop4 addr ∧ 0 ∉ inet.ntop4 addr
  ntop6_plain : ∀ addr, byte '/' ∉ inet.ntop6 addr ∧ 0 ∉ inet.ntop6 addr

/-- `inet_pton(AF_INET, text.c_str(), ..)`; `none` where it does not return 1. -/
def Inet.inetPton4 (inet : Inet) (text : Bytes) : Option (Octets 4) := inet.pton4 (cString text)

/-- `inet_pton(AF_INET6, text.c_str(), ..)` -/
def Inet.inetPton6 (inet : Inet) (text : Bytes) : Option (Octets 16) := inet.pton6 (cString text)

/-- The parts of a `sockaddr_storage` that the code sets. -/
inductive SockAddr where
  | in4 (port : UInt16) (addr : Octets 4)
  | in6 (port : UInt16) (addr : Octets 16)
  deriving DecidableEq

/-- `ParsePort`: what `stoi` reads must be the whole text and a port. -/
def parsePort (s : Bytes) : Except Exception UInt16 :=
  let invalid := Exception.invalidArgument (ascii "invalid port: " ++ s)
  if s = [] then .error invalid
  else match stoi s with
    | .error _ => .error invalid
    | .ok (value, consumed) =>
        if consumed ≠ s.length ∨ value < 0 ∨ 65535 < value then .error invalid
        else .ok (UInt16.ofNat value.toNat)

/-- `"1.2.3.4:51820"` or `"[2001:db8::1]:51820"`. A leading bracket selects IPv6 and
the first closing bracket ends the host; otherwise the last colon does. -/
def parseEndpoint (inet : Inet) (endpoint : Bytes) : Except Exception SockAddr :=
  if endpoint.head? = some (byte '[') then
    let invalid := Exception.invalidArgument (ascii "invalid IPv6 endpoint: " ++ endpoint)
    match splitFirst (byte ']') endpoint with
    | none => .error invalid
    | some (before, after) =>
        if after.head? ≠ some (byte ':') then .error invalid
        else do
          let host := before.drop 1
          let port ← parsePort (after.drop 1)
          match inet.inetPton6 host with
          | none => .error (.invalidArgument (ascii "invalid IPv6 address: " ++ host))
          | some addr => .ok (.in6 port addr)
  else
    match splitLast (byte ':') endpoint with
    | none => .error (.invalidArgument (ascii "invalid endpoint (expected host:port): " ++ endpoint))
    | some (host, portText) => do
        let port ← parsePort portText
        match inet.inetPton4 host with
        | none => .error (.invalidArgument (ascii "invalid IPv4 address: " ++ host))
        | some addr => .ok (.in4 port addr)

/-- Every peer's endpoint, where it has one, is accepted by `ParseEndpoint`. -/
def EndpointsParse (inet : Inet) (cfg : Config) : Prop :=
  ∀ peer ∈ cfg.peers, ∀ endpoint, peer.endpoint = some endpoint →
    ∃ address, parseEndpoint inet endpoint = .ok address

/-- `ValidateEndpoint` looks only at whether `ParseEndpoint` throws. The address itself is thrown
away. -/
def validateEndpoint (inet : Inet) (endpoint : Bytes) : Except Exception Unit := do
  let _ ← parseEndpoint inet endpoint
  return ()

/-- `"192.168.1.0/24"` or `"fd00::/64"`: the address is tried as IPv6 first, and its
text is kept as it was given. -/
def parseCIDR (inet : Inet) (cidr : Bytes) : Except Exception AllowedIP :=
  match splitFirst (byte '/') cidr with
  | none => .error (.invalidArgument (ascii "invalid CIDR (missing /mask): " ++ cidr))
  | some (ip, maskStr) =>
      let invalid := Exception.invalidArgument (ascii "invalid CIDR mask: " ++ cidr)
      match stoi maskStr with
      | .error _ => .error invalid
      | .ok (mask, consumed) =>
          if consumed ≠ maskStr.length then .error invalid
          else if (inet.inetPton6 ip).isSome then
            if mask < 0 ∨ 128 < mask then
              .error (.invalidArgument (ascii "invalid CIDR mask for IPv6 (must be 0-128): " ++ cidr))
            else .ok ⟨ip, AF_INET6, UInt8.ofNat mask.toNat⟩
          else if (inet.inetPton4 ip).isNone then
            .error (.invalidArgument (ascii "invalid CIDR address: " ++ ip))
          else if mask < 0 ∨ 32 < mask then
            .error (.invalidArgument (ascii "invalid CIDR mask for IPv4 (must be 0-32): " ++ cidr))
          else .ok ⟨ip, AF_INET, UInt8.ofNat mask.toNat⟩

/-- `FormatCIDR` -/
def formatCIDR (aip : AllowedIP) : Bytes := aip.ip ++ byte '/' :: decimal aip.cidr.toNat

/-- A record whose address text is accepted for its family and whose mask is in range.
IPv6 is tried first, so an IPv4 record needs the text to be refused as IPv6. -/
structure Readable (inet : Inet) (aip : AllowedIP) : Prop where
  slashFree : byte '/' ∉ aip.ip
  family : (aip.family = AF_INET6 ∧ (inet.inetPton6 aip.ip).isSome ∧ aip.cidr.toNat ≤ 128) ∨
    (aip.family = AF_INET ∧ inet.inetPton6 aip.ip = none ∧ (inet.inetPton4 aip.ip).isSome ∧
      aip.cidr.toNat ≤ 32)

/-- Narrowing a bounded mask to an octet keeps the bound. -/
theorem mask_octet (mask : Int) (limit : Nat) (high : ¬ (limit : Int) < mask) :
    (UInt8.ofNat mask.toNat).toNat ≤ limit := by
  rw [UInt8.toNat_ofNat']
  omega

/-- An accepted CIDR text is the record's address, a slash and the mask text, and the
record is readable. -/
theorem parse_cidr_readable (inet : Inet) (cidr : Bytes) (aip : AllowedIP)
    (accepted : parseCIDR inet cidr = .ok aip) :
    Readable inet aip ∧ ∃ maskStr, cidr = aip.ip ++ byte '/' :: maskStr := by
  cases cut : splitFirst (byte '/') cidr with
  | none => simp [parseCIDR, cut] at accepted
  | some parts =>
    obtain ⟨ip, maskStr⟩ := parts
    obtain ⟨split, slashFree⟩ := (split_first_iff _ _ _ _).mp cut
    cases converted : stoi maskStr with
    | error failure => simp [parseCIDR, cut, converted] at accepted
    | ok result =>
      obtain ⟨mask, consumed⟩ := result
      simp only [parseCIDR, cut, converted] at accepted
      split at accepted
      · cases accepted
      · split at accepted
        · rename_i sixth
          split at accepted
          · cases accepted
          · rename_i range
            obtain rfl := Except.ok.inj accepted
            have bound := mask_octet mask 128 (fun high => range (.inr high))
            exact ⟨⟨slashFree, .inl ⟨rfl, sixth, bound⟩⟩, maskStr, split⟩
        · rename_i notSixth
          split at accepted
          · cases accepted
          · rename_i fourth
            split at accepted
            · cases accepted
            · rename_i range
              obtain rfl := Except.ok.inj accepted
              have bound := mask_octet mask 32 (fun high => range (.inr high))
              refine ⟨⟨slashFree, .inr ⟨rfl, ?_, ?_, bound⟩⟩, maskStr, split⟩
              · simpa using notSixth
              · simpa [Option.isSome_iff_ne_none] using fourth

/-- A readable record with any digit text of its mask is parsed to that record. The address has
no slash, so the text is cut behind it; the digits are the mask's number, and the address is of
the family of the record. -/
theorem parse_cidr_digits (inet : Inet) (aip : AllowedIP) (readable : Readable inet aip)
    (digits : Bytes) (nonempty : digits ≠ []) (all : ∀ octet ∈ digits, isDigit octet = true)
    (value : digitsValue digits = aip.cidr.toNat) :
    parseCIDR inet (aip.ip ++ byte '/' :: digits) = .ok aip := by
  have small := aip.cidr.toNat_lt
  have cut : splitFirst (byte '/') (aip.ip ++ byte '/' :: digits) = some (aip.ip, digits) :=
    (split_first_iff _ _ _ _).mpr ⟨rfl, readable.slashFree⟩
  have converted := stoi_digits digits nonempty all (by omega)
  rw [value] at converted
  have notNegative : ¬ ((aip.cidr.toNat : Int) < 0) := by omega
  obtain ⟨ip, family, mask⟩ := aip
  simp only at value converted notNegative small
  simp only [parseCIDR, cut, converted, ne_eq, not_true_eq_false, ↓reduceIte, notNegative,
    Int.toNat_natCast, UInt8.ofNat_toNat, false_or]
  rcases readable.family with ⟨rfl, sixth, bound⟩ | ⟨rfl, notSixth, fourth, bound⟩
  · have range : ¬ (128 : Int) < mask.toNat := by simpa using bound
    simp only at sixth
    simp only [sixth, range, ↓reduceIte]
  · have range : ¬ (32 : Int) < mask.toNat := by simpa using bound
    have known : (inet.inetPton4 ip).isNone = false := by simpa using fourth
    simp only at notSixth
    simp only [notSixth, known, range, Option.isSome_none, Bool.false_eq_true, ↓reduceIte]

/-- Formatting a readable record and parsing the text gives the record back. -/
theorem parse_format_cidr (inet : Inet) (aip : AllowedIP) (readable : Readable inet aip) :
    parseCIDR inet (formatCIDR aip) = .ok aip :=
  parse_cidr_digits inet aip readable _ (decimal_nonempty _) (decimal_digits _) (decimal_value _)

end NodeWireguard.AddressText
