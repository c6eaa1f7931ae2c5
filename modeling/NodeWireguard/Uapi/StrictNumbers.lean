import Mathlib
import NodeWireguard.Uapi.LineAcceptance

/-!
# Numbers in responses

Which texts of the numeric fields are strict, and which the parsers take. The checking helper
asks how far the conversion read, but not where it started, so white space, a plus and a minus
that negates modulo 2^64 pass; the three counters and the error code do not even ask that.

A strict number is stored as the integer it denotes. The law therefore holds of a response
unless all of its lines pass and one of its numbers is not strict.
-/

namespace NodeWireguard.StrictNumbers

open ByteText DecimalText IntegerConversions Key PublicKey AddressText AddressForms SetRequest
open GetResponse GetSections LineAcceptance

/-- The numeric fields of a get response, apart from the error code. -/
inductive NumberField where
  | listenPort
  | firewallMark
  | lastHandshakeTimeSec
  | receiveBytes
  | transmitBytes
  | persistentKeepaliveInterval
  | protocolVersion

/-- The key of the lines for a field. -/
def NumberField.key : NumberField → String
  | .listenPort => "listen_port"
  | .firewallMark => "fwmark"
  | .lastHandshakeTimeSec => "last_handshake_time_sec"
  | .receiveBytes => "rx_bytes"
  | .transmitBytes => "tx_bytes"
  | .persistentKeepaliveInterval => "persistent_keepalive_interval"
  | .protocolVersion => "protocol_version"

/-- Whether the field belongs to a peer section. -/
def NumberField.inSection : NumberField → Bool
  | .listenPort | .firewallMark => false
  | _ => true

/-- The value text is strict and denotes this integer, in the range of the field. -/
def NumberField.Denotes : NumberField → Bytes → Int → Prop
  | .listenPort, value, number => ∃ port : UInt16, StrictDigits value port.toNat ∧ number = port.toNat
  | .firewallMark, value, number => ∃ mark : UInt32, StrictDigits value mark.toNat ∧ number = mark.toNat
  | .lastHandshakeTimeSec, value, number =>
      ∃ seconds : Int64, StrictSigned value seconds.toInt ∧ number = seconds.toInt
  | .receiveBytes, value, number => ∃ count : UInt64, StrictDigits value count.toNat ∧ number = count.toNat
  | .transmitBytes, value, number => ∃ count : UInt64, StrictDigits value count.toNat ∧ number = count.toNat
  | .persistentKeepaliveInterval, value, number =>
      ∃ seconds : UInt16, StrictDigits value seconds.toNat ∧ number = seconds.toNat
  | .protocolVersion, value, number =>
      ∃ version : UInt32, StrictDigits value version.toNat ∧ number = version.toNat

/-- What the field holds, in the device or in the open section. -/
def NumberField.stored (reading : Reading) : NumberField → Option Int
  | .listenPort => some reading.device.listenPort.toNat
  | .firewallMark => some reading.device.firewallMark.toNat
  | .lastHandshakeTimeSec => reading.currentPeer.map (fun peer => peer.lastHandshakeTimeSec.toInt)
  | .receiveBytes => reading.currentPeer.map (fun peer => (peer.receiveBytes.toNat : Int))
  | .transmitBytes => reading.currentPeer.map (fun peer => (peer.transmitBytes.toNat : Int))
  | .persistentKeepaliveInterval =>
      reading.currentPeer.map (fun peer => (peer.persistentKeepaliveInterval.toNat : Int))
  | .protocolVersion => reading.currentPeer.map (fun peer => (peer.protocolVersion.toNat : Int))

/-- An error code's text is strict and in the range of an `int`. -/
def ErrnoStrict (value : Bytes) : Prop :=
  ∃ number, StrictSigned value number ∧ -2 ^ 31 ≤ number ∧ number < 2 ^ 31

/-- The response has a line of the field, in a section where it counts. -/
def Occurs (response : Bytes) (field : NumberField) (value : Bytes) : Prop :=
  ∃ before after, lines lineFeed response = before ++ keyValue field.key value :: after ∧
    before.any opensSection = field.inSection

/-- The value is strict, and the iteration that reads the line stores what it denotes. -/
def StoredStrictly (inet : Inet) (field : NumberField) (value : Bytes) : Prop :=
  ∃ number, field.Denotes value number ∧ ∀ reading : Reading,
    reading.currentPeer.isSome = field.inSection →
      ∃ next, readLine inet reading (keyValue field.key value) = .ok next ∧
        field.stored next = some number

/-- Every error code of the response is strict. -/
def ErrnosStrict (response : Bytes) : Prop :=
  ∀ value, keyValue "errno" value ∈ lines lineFeed response → ErrnoStrict value

/-- Every number of the response is strict. -/
structure NumbersStrict (response : Bytes) : Prop where
  numbers : ∀ field value, Occurs response field value → ∃ number, field.Denotes value number
  errnos : ErrnosStrict response

/-- The parsers accept the response only with strict numbers, and store what these denote. -/
structure ParsedStrictly (inet : Inet) (ssl : OpenSSL) (name response : Bytes) : Prop where
  numbers : ∀ device, parseGetResponse inet ssl name response = .ok device →
    ∀ field value, Occurs response field value → StoredStrictly inet field value
  getErrnos : ∀ device, parseGetResponse inet ssl name response = .ok device → ErrnosStrict response
  setErrnos : parseSetResponse response = .ok () → ErrnosStrict response

/-- The number of a peer line is stored in the open section. -/
theorem peer_number_stored (inet : Inet) (field : NumberField) (line : Bytes) (gives : PeerField)
    (number : Int) (isLine : PeerLine inet line gives)
    (kept : ∀ device peer, field.stored ⟨device, some (applyPeerField peer gives)⟩ = some number)
    (reading : Reading) (inSection : reading.currentPeer.isSome = true) :
    ∃ next, readLine inet reading line = .ok next ∧ field.stored next = some number := by
  obtain ⟨device, currentPeer⟩ := reading
  obtain ⟨peer, rfl⟩ := Option.isSome_iff_exists.mp inSection
  exact ⟨_, read_peer_line device peer line gives isLine, kept device peer⟩

/-- The number of a device line is stored in the device. -/
theorem device_number_stored (inet : Inet) (field : NumberField) (line : Bytes)
    (gives : DeviceField) (number : Int) (isLine : DeviceLine line gives)
    (kept : ∀ device, field.stored ⟨applyDeviceField device gives, none⟩ = some number)
    (reading : Reading) (outside : reading.currentPeer.isSome = false) :
    ∃ next, readLine inet reading line = .ok next ∧ field.stored next = some number := by
  obtain ⟨device, currentPeer⟩ := reading
  obtain rfl : currentPeer = none := by simpa using outside
  exact ⟨_, read_device_line device line gives isLine, kept device⟩

/-- A strict number is stored as the integer it denotes. The cases are the fields with a number;
a strict text is in the range of its field, so no conversion fails and none wraps. -/
theorem strict_number_stored (inet : Inet) (field : NumberField) (value : Bytes) (number : Int)
    (denotes : field.Denotes value number) : StoredStrictly inet field value := by
  refine ⟨number, denotes, ?_⟩
  cases field with
  | listenPort =>
    obtain ⟨port, strict, rfl⟩ := denotes
    exact device_number_stored inet _ _ _ _ (.listenPort value port strict) (fun _ => rfl)
  | firewallMark =>
    obtain ⟨mark, strict, rfl⟩ := denotes
    exact device_number_stored inet _ _ _ _ (.firewallMark value mark strict) (fun _ => rfl)
  | lastHandshakeTimeSec =>
    obtain ⟨seconds, strict, rfl⟩ := denotes
    exact peer_number_stored inet _ _ _ _ (.lastHandshakeTimeSec value seconds strict)
      (fun _ _ => rfl)
  | receiveBytes =>
    obtain ⟨count, strict, rfl⟩ := denotes
    exact peer_number_stored inet _ _ _ _ (.receiveBytes value count strict) (fun _ _ => rfl)
  | transmitBytes =>
    obtain ⟨count, strict, rfl⟩ := denotes
    exact peer_number_stored inet _ _ _ _ (.transmitBytes value count strict) (fun _ _ => rfl)
  | persistentKeepaliveInterval =>
    obtain ⟨seconds, strict, rfl⟩ := denotes
    exact peer_number_stored inet _ _ _ _ (.persistentKeepaliveInterval value seconds strict)
      (fun _ _ => rfl)
  | protocolVersion =>
    obtain ⟨version, strict, rfl⟩ := denotes
    exact peer_number_stored inet _ _ _ _ (.protocolVersion value version strict) (fun _ _ => rfl)

/-- The law holds of exactly the responses whose numbers are strict or in which a line is
refused, for either parser.

Proof: a parser returns exactly where no line is refused. Where it returns, the law asks every
number to be strict; and a strict number is stored as what it denotes, for each of the fields
that have one. Where a line is refused, the law asks nothing of that parser. -/
theorem numbers_strict_iff (inet : Inet) (ssl : OpenSSL) (pub : Key → Key)
    (derives : ssl.Derives pub) (name response : Bytes) :
    ParsedStrictly inet ssl name response ↔
      (GetRefused inet response ∨ NumbersStrict response) ∧
        (SetRefused response ∨ ErrnosStrict response) := by
  have set := parse_set_ok_iff response
  have get := @parse_get_ok_iff inet ssl pub derives name response
  constructor
  · intro law
    constructor
    · by_cases refused : GetRefused inet response
      · exact .inl refused
      · obtain ⟨device, accepted⟩ := get.mpr refused
        refine .inr ⟨?_, law.getErrnos device accepted⟩
        intro field value occurs
        obtain ⟨number, denotes, -⟩ := law.numbers device accepted field value occurs
        exact ⟨number, denotes⟩
    · by_cases refused : SetRefused response
      · exact .inl refused
      · exact .inr (law.setErrnos (set.mpr refused))
  · rintro ⟨getCase, setCase⟩
    have strict (device : Device) (accepted : parseGetResponse inet ssl name response = .ok device) :
        NumbersStrict response :=
      getCase.resolve_left (get.mp ⟨device, accepted⟩)
    constructor
    · intro device accepted field value occurs
      obtain ⟨number, denotes⟩ := (strict device accepted).numbers field value occurs
      exact strict_number_stored inet field value number denotes
    · exact fun device accepted => (strict device accepted).errnos
    · exact fun accepted => setCase.resolve_left (set.mp accepted)

/-- No key has the mark that separates it from its value. -/
theorem field_key_plain (field : NumberField) : byte '=' ∉ ascii field.key := by
  cases field <;> decide

/-- A device and a peer with every number, each written strictly. -/
def countedLines : List Bytes :=
  [ascii "listen_port=51820", ascii "fwmark=4294967295", keyValue "public_key" (keyToHex onesKey),
    ascii "last_handshake_time_sec=-1", ascii "rx_bytes=18446744073709551615", ascii "tx_bytes=0",
    ascii "persistent_keepalive_interval=25", ascii "protocol_version=1", ascii "errno=0", []]

/-- The text that a field has there. -/
def countedText : NumberField → Bytes
  | .listenPort => ascii "51820"
  | .firewallMark => ascii "4294967295"
  | .lastHandshakeTimeSec => ascii "-1"
  | .receiveBytes => ascii "18446744073709551615"
  | .transmitBytes => ascii "0"
  | .persistentKeepaliveInterval => ascii "25"
  | .protocolVersion => ascii "1"

/-- Every text is strict, up to the ends of the ranges. -/
theorem counted_text_denotes (field : NumberField) :
    ∃ number, field.Denotes (countedText field) number := by
  cases field with
  | listenPort => exact ⟨_, 51820, strict_digits_checked _ _ (by decide), rfl⟩
  | firewallMark => exact ⟨_, 4294967295, strict_digits_checked _ _ (by decide), rfl⟩
  | lastHandshakeTimeSec =>
    exact ⟨_, -1, .minus (ascii "1") 1 (strict_digits_checked _ _ (by decide)), rfl⟩
  | receiveBytes => exact ⟨_, 18446744073709551615, strict_digits_checked _ _ (by decide), rfl⟩
  | transmitBytes => exact ⟨_, 0, strict_digits_checked _ _ (by decide), rfl⟩
  | persistentKeepaliveInterval => exact ⟨_, 25, strict_digits_checked _ _ (by decide), rfl⟩
  | protocolVersion => exact ⟨_, 1, strict_digits_checked _ _ (by decide), rfl⟩

/-- The response is read with all its numbers strict. It has a line for each of the seven fields,
with values up to the ends of their ranges, and a confirmation. -/
theorem counted_parsed_strictly :
    ParsedStrictly plainInet idleSsl (ascii "wg0") (terminated countedLines) := by
  have read : lines lineFeed (terminated countedLines) = countedLines := by
    refine lines_terminated lineFeed _ ?_
    simp only [countedLines, List.forall_mem_cons]
    exact ⟨by decide, by decide, RequestLines.hex_line_clean _ onesKey (by decide), by decide, by decide,
      by decide, by decide, by decide, by decide, by decide, by simp⟩
  have errnos : ErrnosStrict (terminated countedLines) := by
    intro value member
    rw [read] at member
    obtain rfl : value = ascii "0" :=
      value_of_key "errno" (by decide) (ascii "0") value countedLines (by decide +kernel) member
    exact ⟨0, .plain (ascii "0") 0 (strict_digits_checked _ _ (by decide)), by decide, by decide⟩
  have numbers : NumbersStrict (terminated countedLines) := by
    refine ⟨?_, errnos⟩
    rintro field value ⟨before, after, made, -⟩
    have member : keyValue field.key value ∈ countedLines := by
      rw [← read, made]
      simp
    obtain rfl : value = countedText field := by
      refine value_of_key field.key (field_key_plain field) _ value countedLines ?_ member
      cases field <;> decide +kernel
    exact counted_text_denotes field
  exact (numbers_strict_iff plainInet idleSsl id idle_ssl_derives _ _).mpr ⟨.inr numbers, .inr errnos⟩

/-- A section that counts minus one octet received. -/
def wrappedLines : List Bytes :=
  [keyValue "public_key" (keyToHex zeroKey), keyValue "rx_bytes" (ascii "-1"),
    keyValue "errno" (ascii "0")]

/-- A negative counter is accepted and stored modulo 2^64. The conversion takes the sign and
negates modulo 2^64, so the stored count is not the integer that the text denotes. -/
theorem wrapped_counter_accepted :
    parseGetResponse plainInet idleSsl (ascii "wg0") (terminated wrappedLines) =
        .ok { name := ascii "wg0", userspace := true
              peers := [{ publicKey := zeroKey, receiveBytes := 18446744073709551615 }] } ∧
      ¬ ParsedStrictly plainInet idleSsl (ascii "wg0") (terminated wrappedLines) := by
  have read : lines lineFeed (terminated wrappedLines) = wrappedLines := by
    refine lines_terminated lineFeed _ ?_
    have opening := RequestLines.hex_line_clean "public_key" zeroKey (by decide)
    simp only [wrappedLines, List.forall_mem_cons]
    exact ⟨opening, by decide, by decide, by simp⟩
  have accepted : parseGetResponse plainInet idleSsl (ascii "wg0") (terminated wrappedLines) =
      .ok { name := ascii "wg0", userspace := true
            peers := [{ publicKey := zeroKey, receiveBytes := 18446744073709551615 }] } := by
    rw [parseGetResponse, readLines, read, wrappedLines, List.foldlM_cons,
      read_opening_line _ _ zeroKey (key_from_hex_key_to_hex zeroKey)]
    rfl
  refine ⟨accepted, fun law => ?_⟩
  have occurs : Occurs (terminated wrappedLines) .receiveBytes (ascii "-1") :=
    ⟨[keyValue "public_key" (keyToHex zeroKey)], [keyValue "errno" (ascii "0")], read, by
      simp [opensSection, SetReading.split_key_value "public_key" _ (by decide),
        NumberField.inSection]⟩
  obtain ⟨number, ⟨count, strict, -⟩, -⟩ := law.numbers _ accepted _ _ occurs
  exact absurd (strict.digit (byte '-') (by decide)) (by decide)

end NodeWireguard.StrictNumbers
