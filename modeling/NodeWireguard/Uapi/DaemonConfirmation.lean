import Mathlib
import NodeWireguard.Uapi.LineAcceptance

/-!
# The daemon's confirmation

A daemon ends its response with `errno=0`; a connection that is closed before leaves a response
without it. Both parsers look for an error code and not for the confirmation, so they return
on any response none of whose lines is refused, confirmed or not.
-/

namespace NodeWireguard.DaemonConfirmation

open ByteText Key PublicKey AddressText AddressForms SetRequest GetResponse GetSections
open LineAcceptance

/-- A `key=value` line other than an `errno` line. -/
def DataLine (line : Bytes) : Prop :=
  ∃ key value, splitFirst (byte '=') line = some (key, value) ∧ key ≠ ascii "errno"

/-- The response has an `errno` line with the value 0 behind its data lines, and none with
another value. -/
structure Confirmed (response : Bytes) : Prop where
  atEnd : ∃ before after, lines lineFeed response =
      before ++ keyValue "errno" (ascii "0") :: after ∧ ∀ line ∈ after, ¬ DataLine line
  noOther : ∀ value, keyValue "errno" value ∈ lines lineFeed response → value = ascii "0"

/-- The parsers return normally on this response only if it is confirmed. -/
structure ConfirmedOnly (inet : Inet) (ssl : OpenSSL) (name response : Bytes) : Prop where
  set : parseSetResponse response = .ok () → Confirmed response
  get : ∀ device, parseGetResponse inet ssl name response = .ok device → Confirmed response

/-- Confirmed, or refused by both parsers for one of its lines. -/
def ConfirmedOrRefused (inet : Inet) (response : Bytes) : Prop :=
  Confirmed response ∨ (SetRefused response ∧ GetRefused inet response)

/-- The law holds of exactly the responses that are confirmed or refused for a line; every other
response passes as a success.

Proof: both parsers return exactly where every line is accepted, by an induction on the lines for
each. A response that returns must then be confirmed, so one that is not must have a line that is
refused, and the other way round. -/
theorem confirmation_iff (inet : Inet) (ssl : OpenSSL) (pub : Key → Key) (derives : ssl.Derives pub)
    (name response : Bytes) :
    ConfirmedOnly inet ssl name response ↔ ConfirmedOrRefused inet response := by
  have set := parse_set_ok_iff response
  have get := @parse_get_ok_iff inet ssl pub derives name response
  constructor
  · intro only
    by_cases confirmed : Confirmed response
    · exact .inl confirmed
    · refine .inr ⟨?_, ?_⟩
      · by_contra passed
        exact confirmed (only.set (set.mpr passed))
      · by_contra passed
        obtain ⟨device, accepted⟩ := get.mpr passed
        exact confirmed (only.get device accepted)
  · rintro (confirmed | ⟨setRefused, getRefused⟩)
    · exact ⟨fun _ => confirmed, fun _ _ => confirmed⟩
    · exact ⟨fun accepted => absurd setRefused (set.mp accepted),
        fun device accepted => absurd getRefused (get.mp ⟨device, accepted⟩)⟩

/-- A device with two peers is confirmed by the `errno=0` behind its sections. -/
theorem sample_confirmed :
    ConfirmedOnly plainInet idleSsl (ascii "wg0") (terminated sampleLines) := by
  have read := sample_lines_read
  have confirmed : Confirmed (terminated sampleLines) := by
    constructor
    · refine ⟨sampleLines.take 7, [[]], ?_, ?_⟩
      · rw [read]
        rfl
      · rintro line member ⟨key, value, cut, -⟩
        obtain rfl := List.mem_singleton.mp member
        cases cut
    · intro value member
      rw [read] at member
      exact value_of_key "errno" (by decide) (ascii "0") value sampleLines (by decide +kernel) member
  exact (confirmation_iff plainInet idleSsl id idle_ssl_derives _ _).mpr (.inl confirmed)

/-- A connection closed at once passes as a confirmed configuration, and one closed behind a
first peer section as the whole list of peers. -/
theorem closed_connection_accepted :
    ¬ ConfirmedOnly plainInet idleSsl (ascii "wg0") [] ∧
      parseGetResponse plainInet idleSsl (ascii "wg0")
        (terminated [keyValue "public_key" (keyToHex zeroKey)]) =
        .ok { name := ascii "wg0", userspace := true, peers := [{ publicKey := zeroKey }] } ∧
      ¬ Confirmed (terminated [keyValue "public_key" (keyToHex zeroKey)]) := by
  have opening : lines lineFeed (terminated [keyValue "public_key" (keyToHex zeroKey)]) =
      [keyValue "public_key" (keyToHex zeroKey)] := by
    refine lines_terminated lineFeed _ ?_
    simpa using RequestLines.hex_line_clean "public_key" zeroKey (by decide)
  refine ⟨?_, ?_, ?_⟩
  · intro only
    obtain ⟨before, after, read, -⟩ := (only.set rfl).atEnd
    simp [lines] at read
  · refine parse_response plainInet idleSsl id idle_ssl_derives (ascii "wg0") _ []
      [(zeroKey, [])] ⟨[], [(keyToHex zeroKey, [])], opening, .nil, ?_⟩
    exact .cons ⟨key_from_hex_key_to_hex zeroKey, .nil⟩ .nil
  · rintro ⟨⟨before, after, read, -⟩, -⟩
    have member : keyValue "errno" (ascii "0") ∈ [keyValue "public_key" (keyToHex zeroKey)] := by
      rw [← opening, read]
      simp
    have first := congrArg List.head? (List.mem_singleton.mp member)
    exact absurd first (by decide)

end NodeWireguard.DaemonConfirmation
