import Mathlib
import NodeWireguard.Netlink.AddressGrammar

/-!
# What `ParseCIDR` accepts

The parser of `NlAttr.cpp` against the grammar of ranges, text by text, and the way back:
`FormatCIDR` of what was accepted is accepted as the same record, also where the text itself
is not of the grammar, because the address text is kept and the mask is written anew.
-/

namespace NodeWireguard.CidrGrammar

open ByteText DecimalText IntegerConversions AddressText AddressForms AddressGrammar

variable {inet : Inet}

/-- A loose range is cut at its first slash. -/
theorem loose_cidr_cut (s ip maskStr : Bytes) (aip : AllowedIP)
    (cut : LooseCIDR inet s ip maskStr aip) : splitFirst (byte '/') s = some (ip, maskStr) := by
  cases cut with
  | v6 _ _ _ slashFree => exact (split_first_iff _ _ _ _).mpr ⟨rfl, slashFree⟩
  | v4 _ _ _ slashFree => exact (split_first_iff _ _ _ _).mpr ⟨rfl, slashFree⟩

/-- What the mask of a loose range converts to. -/
theorem loose_mask_converted (maskStr : Bytes) (mask : UInt8)
    (isMask : LooseNumber maskStr mask.toNat) :
    stoi maskStr = .ok ((mask.toNat : Int), maskStr.length) := by
  have small := mask.toNat_lt
  exact (loose_number_iff maskStr mask.toNat (by omega)).mp isMask

/-- A loose range is accepted with its record. -/
theorem parse_loose (s ip maskStr : Bytes) (aip : AllowedIP)
    (cut : LooseCIDR inet s ip maskStr aip) : parseCIDR inet s = .ok aip := by
  have split := loose_cidr_cut s ip maskStr aip cut
  cases cut with
  | v6 _ _ mask _ isAddress isMask bound =>
    have converted := loose_mask_converted maskStr mask isMask
    have range : ¬ ((mask.toNat : Int) < 0 ∨ 128 < (mask.toNat : Int)) := by omega
    simp only [parseCIDR, split, converted, ne_eq, not_true_eq_false, ↓reduceIte, isAddress,
      if_neg range, Int.toNat_natCast, UInt8.ofNat_toNat]
  | v4 _ _ mask _ notSixth isAddress isMask bound =>
    have converted := loose_mask_converted maskStr mask isMask
    have range : ¬ ((mask.toNat : Int) < 0 ∨ 32 < (mask.toNat : Int)) := by omega
    have known : (inet.inetPton4 ip).isNone = false := by simpa using isAddress
    simp only [parseCIDR, split, converted, ne_eq, not_true_eq_false, ↓reduceIte, notSixth,
      Option.isSome_none, Bool.false_eq_true, known, if_neg range, Int.toNat_natCast,
      UInt8.ofNat_toNat]

/-- A mask in range that converts to the end of its text is a loose number. -/
theorem mask_of_converted (maskStr : Bytes) (mask : Int) (limit : Nat) (small : limit < 256)
    (converted : stoi maskStr = .ok (mask, maskStr.length)) (low : 0 ≤ mask)
    (high : mask ≤ (limit : Int)) :
    LooseNumber maskStr (UInt8.ofNat mask.toNat).toNat ∧ (UInt8.ofNat mask.toNat).toNat ≤ limit := by
  have narrowed : (UInt8.ofNat mask.toNat).toNat = mask.toNat := by
    rw [UInt8.toNat_ofNat']
    omega
  have same : (mask.toNat : Int) = mask := Int.toNat_of_nonneg low
  rw [narrowed]
  refine ⟨(loose_number_iff maskStr mask.toNat (by omega)).mpr ?_, by omega⟩
  rw [same]
  exact converted

/-- The parser accepts exactly the texts with a loose cut. The text is cut at its first slash;
the rest is a mask that the conversion reads whole, in the range of the family that the address
turns out to have. -/
theorem parse_cidr_iff (s : Bytes) (aip : AllowedIP) :
    parseCIDR inet s = .ok aip ↔ ∃ ip maskStr, LooseCIDR inet s ip maskStr aip := by
  constructor
  · intro accepted
    cases split : splitFirst (byte '/') s with
    | none => simp [parseCIDR, split] at accepted
    | some parts =>
      obtain ⟨ip, maskStr⟩ := parts
      obtain ⟨rfl, slashFree⟩ := (split_first_iff _ _ _ _).mp split
      cases converted : stoi maskStr with
      | error failure => simp [parseCIDR, split, converted] at accepted
      | ok result =>
        obtain ⟨mask, consumed⟩ := result
        simp only [parseCIDR, split, converted] at accepted
        split at accepted
        · cases accepted
        · rename_i whole
          obtain rfl : consumed = maskStr.length := by simpa using whole
          split at accepted
          · rename_i sixth
            split at accepted
            · cases accepted
            · rename_i range
              obtain rfl := Except.ok.inj accepted
              obtain ⟨isMask, bound⟩ := mask_of_converted maskStr mask 128 (by decide) converted
                (by omega) (by omega)
              exact ⟨ip, maskStr, .v6 ip maskStr _ slashFree sixth isMask bound⟩
          · rename_i notSixth
            split at accepted
            · cases accepted
            · rename_i fourth
              split at accepted
              · cases accepted
              · rename_i range
                obtain rfl := Except.ok.inj accepted
                obtain ⟨isMask, bound⟩ := mask_of_converted maskStr mask 32 (by decide) converted
                  (by omega) (by omega)
                exact ⟨ip, maskStr, .v4 ip maskStr _ slashFree (by simpa using notSixth)
                  (by simpa [Option.isSome_iff_ne_none] using fourth) isMask bound⟩
  · rintro ⟨ip, maskStr, cut⟩
    exact parse_loose s ip maskStr aip cut

variable (inet)

/-- Parser and grammar agree on this text, and what is accepted is formatted back to it. -/
structure AcceptsGrammar (s : Bytes) : Prop where
  parsed : ∀ aip, parseCIDR inet s = .ok aip ↔ CIDRText inet s aip
  formatted : ∀ aip, parseCIDR inet s = .ok aip → parseCIDR inet (formatCIDR aip) = .ok aip

/-- The text has a loose cut whose address goes on after a zero octet or whose mask is more
than digits. -/
def Overlooked (s : Bytes) : Prop :=
  ∃ ip maskStr aip, LooseCIDR inet s ip maskStr aip ∧ Deviates ip maskStr

variable {inet}

/-- A text of the grammar is cut into its address and its digits. -/
theorem cidr_text_loose (spelled : Inet.Spelled inet) (s : Bytes) (aip : AllowedIP)
    (text : CIDRText inet s aip) :
    ∃ ip digits, LooseCIDR inet s ip digits aip ∧ ¬ Deviates ip digits := by
  cases text with
  | v6 ip digits mask addr isAddress isMask bound =>
    have slashFree := pton6_lacks spelled ip addr isAddress.2 (byte '/') (by decide)
    have sixth : (inet.inetPton6 ip).isSome := by simp [whole_address6 ip addr isAddress]
    exact ⟨ip, digits, .v6 ip digits mask slashFree sixth (strict_loose digits _ isMask) bound,
      (not_deviates ip digits).mpr ⟨isAddress.1, isMask.digit⟩⟩
  | v4 ip digits mask addr isAddress isMask bound =>
    have slashFree := pton4_lacks spelled ip addr isAddress.2 (byte '/') (by decide)
    have fourth : (inet.inetPton4 ip).isSome := by simp [whole_address4 ip addr isAddress]
    have notSixth : inet.inetPton6 ip = none := by
      rw [Inet.inetPton6, c_string_whole ip isAddress.1]
      exact pton6_of_pton4 spelled ip addr isAddress.2
    exact ⟨ip, digits, .v4 ip digits mask slashFree notSixth fourth (strict_loose digits _ isMask)
      bound, (not_deviates ip digits).mpr ⟨isAddress.1, isMask.digit⟩⟩

/-- A cut that does not deviate is a text of the grammar. -/
theorem loose_cidr_text (s ip maskStr : Bytes) (aip : AllowedIP)
    (cut : LooseCIDR inet s ip maskStr aip) (plain : ¬ Deviates ip maskStr) :
    CIDRText inet s aip := by
  obtain ⟨zeroFree, digits⟩ := (not_deviates ip maskStr).mp plain
  cases cut with
  | v6 _ _ mask _ isAddress isMask bound =>
    obtain ⟨addr, accepted⟩ := Option.isSome_iff_exists.mp isAddress
    exact .v6 ip maskStr mask addr (address6_whole ip addr zeroFree accepted)
      (loose_strict maskStr _ isMask digits) bound
  | v4 _ _ mask _ _ isAddress isMask bound =>
    obtain ⟨addr, accepted⟩ := Option.isSome_iff_exists.mp isAddress
    exact .v4 ip maskStr mask addr (address4_whole ip addr zeroFree accepted)
      (loose_strict maskStr _ isMask digits) bound

/-- An overlooked text is accepted although it is not in the grammar. -/
theorem overlooked_disagrees (spelled : Inet.Spelled inet) (s : Bytes)
    (overlooked : Overlooked inet s) : ¬ AcceptsGrammar inet s := by
  obtain ⟨ip, maskStr, aip, cut, deviates⟩ := overlooked
  intro agrees
  have accepted := parse_loose s ip maskStr aip cut
  obtain ⟨ip', digits, strictCut, plain⟩ :=
    cidr_text_loose spelled s aip ((agrees.parsed aip).mp accepted)
  have same := loose_cidr_cut s ip maskStr aip cut
  rw [loose_cidr_cut s ip' digits aip strictCut] at same
  obtain ⟨rfl, rfl⟩ : ip' = ip ∧ digits = maskStr := by simpa using same
  exact plain deviates

/-- Parser and grammar agree on exactly the texts that are not overlooked.

Proof: as for endpoints. The parser accepts exactly the loose texts, and these are the texts of
the grammar unless they deviate in their address or their mask. An accepted range is readable, so
its own text is parsed back to it. -/
theorem cidr_grammar_iff (spelled : Inet.Spelled inet) (s : Bytes) :
    AcceptsGrammar inet s ↔ ¬ Overlooked inet s := by
  constructor
  · exact fun agrees overlooked => overlooked_disagrees spelled s overlooked agrees
  · intro notOverlooked
    constructor
    · intro aip
      rw [parse_cidr_iff]
      constructor
      · rintro ⟨ip, maskStr, cut⟩
        exact loose_cidr_text s ip maskStr aip cut
          (fun deviates => notOverlooked ⟨ip, maskStr, aip, cut, deviates⟩)
      · intro text
        obtain ⟨ip, digits, cut, -⟩ := cidr_text_loose spelled s aip text
        exact ⟨ip, digits, cut⟩
    · intro aip accepted
      exact parse_format_cidr inet aip (parse_cidr_readable inet s aip accepted).1

/-- A plain range is not overlooked. -/
theorem plain_cidr_agrees :
    AcceptsGrammar plainInet (ascii "192.0.2.0/24") ∧
      parseCIDR plainInet (ascii "192.0.2.0/24") = .ok ⟨ascii "192.0.2.0", AF_INET, 24⟩ := by
  have notOverlooked : ¬ Overlooked plainInet (ascii "192.0.2.0/24") := by
    rintro ⟨ip, maskStr, aip, cut, deviates⟩
    have known : splitFirst (byte '/') (ascii "192.0.2.0/24") =
        some (ascii "192.0.2.0", ascii "24") := by decide
    rw [loose_cidr_cut _ ip maskStr aip cut, Option.some.injEq, Prod.mk.injEq] at known
    obtain ⟨rfl, rfl⟩ := known
    exact (not_deviates _ _).mpr ⟨by decide, List.all_eq_true.mp (by decide)⟩ deviates
  exact ⟨(cidr_grammar_iff plain_inet_spelled _).mpr notOverlooked, by decide⟩

/-- A sign in front of the mask, or an address that goes on after a zero octet, is overlooked. -/
theorem signed_mask_accepted :
    ¬ AcceptsGrammar plainInet (ascii "192.0.2.0/+24") ∧
      ¬ AcceptsGrammar plainInet (ascii "192.0.2.0" ++ 0 :: ascii "x/24") := by
  have signed : LooseCIDR plainInet (ascii "192.0.2.0" ++ byte '/' :: ascii "+24")
      (ascii "192.0.2.0") (ascii "+24") ⟨ascii "192.0.2.0", AF_INET, 24⟩ :=
    .v4 _ _ _ (by decide) (by decide) (by decide) ((loose_number_iff _ _ (by decide)).mpr (by decide))
      (by decide)
  have continued : LooseCIDR plainInet ((ascii "192.0.2.0" ++ 0 :: ascii "x") ++
      byte '/' :: ascii "24") (ascii "192.0.2.0" ++ 0 :: ascii "x") (ascii "24")
      ⟨ascii "192.0.2.0" ++ 0 :: ascii "x", AF_INET, 24⟩ :=
    .v4 _ _ _ (by decide) (by decide) (by decide) ((loose_number_iff _ _ (by decide)).mpr (by decide))
      (by decide)
  constructor
  · exact overlooked_disagrees plain_inet_spelled _
      ⟨_, _, _, signed, .inr ⟨byte '+', by decide, by decide⟩⟩
  · exact overlooked_disagrees plain_inet_spelled _ ⟨_, _, _, continued, .inl (by decide)⟩

end NodeWireguard.CidrGrammar
