import Mathlib
import NodeWireguard.Uapi.GetSections

/-!
# Which responses are accepted

The lines that `ParseGetResponse` and `ParseSetResponse` let pass, by key and by whether a
section is open. A response is accepted when each of its lines is, in the section it stands
in; one refused line anywhere makes the parser throw.
-/

namespace NodeWireguard.LineAcceptance

open ByteText DecimalText IntegerConversions Key PublicKey AddressText SetRequest GetResponse

/-- A text the checking helper takes: read to its end, and within the limit. -/
def UnsignedAccepted (max : Nat) (value : Bytes) : Prop :=
  ∃ number, stoul value = .ok (number, value.length) ∧ number ≤ max

/-- A value `errno` lets pass. -/
def ErrnoAccepted (value : Bytes) : Prop := ∃ consumed, stoi value = .ok (0, consumed)

/-- The values that a line of a peer may have. What a key of 32 octets, a number or a range is,
its decoder says. -/
def PeerValueAccepted (inet : Inet) (key value : Bytes) : Prop :=
  if key = ascii "preshared_key" then ∃ psk, keyFromHex value = .ok psk
  else if key = ascii "endpoint" then True
  else if key = ascii "last_handshake_time_sec" then ∃ result, stoll value = .ok result
  else if key = ascii "rx_bytes" then ∃ result, stoul value = .ok result
  else if key = ascii "tx_bytes" then ∃ result, stoul value = .ok result
  else if key = ascii "persistent_keepalive_interval" then UnsignedAccepted 65535 value
  else if key = ascii "allowed_ip" then ∃ aip, parseCIDR inet value = .ok aip
  else if key = ascii "protocol_version" then UnsignedAccepted 4294967295 value
  else True

/-- The values that a line of the device may have. -/
def DeviceValueAccepted (key value : Bytes) : Prop :=
  if key = ascii "private_key" then ∃ privateKey, keyFromHex value = .ok privateKey
  else if key = ascii "listen_port" then UnsignedAccepted 65535 value
  else if key = ascii "fwmark" then UnsignedAccepted 4294967295 value
  else True

/-- A line that passes where a section is open, or where none is. -/
def LineAccepted (inet : Inet) (inSection : Bool) (line : Bytes) : Prop :=
  ∀ key value, splitFirst (byte '=') line = some (key, value) →
    if key = ascii "errno" then ErrnoAccepted value
    else if key = ascii "public_key" then ∃ publicKey, keyFromHex value = .ok publicKey
    else if inSection then PeerValueAccepted inet key value
    else DeviceValueAccepted key value

/-- A line that `ParseSetResponse` lets pass. -/
def SetLineAccepted (line : Bytes) : Prop :=
  ∀ value, splitFirst (byte '=') line = some (ascii "errno", value) → ErrnoAccepted value

/-- The line opens a section. -/
def opensSection (line : Bytes) : Bool :=
  match splitFirst (byte '=') line with
  | some (key, _) => key = ascii "public_key"
  | none => false

section Values

variable {inet : Inet}

/-- A step that only wraps a parsed value succeeds when the parse does. -/
theorem wrapped_ok_iff {α β : Type} (parsed : Except Exception α) (wrap : α → β) :
    (∃ result, (do return wrap (← parsed) : Except Exception β) = .ok result) ↔
      ∃ value, parsed = .ok value := by
  cases parsed with
  | error failure => simp [bind, Except.bind]
  | ok value => simp [bind, Except.bind, pure, Except.pure]

/-- A conversion returns where the function of the standard library does. -/
theorem converted_ok_iff {α : Type} (function : String)
    (result : Except ConversionFailure (α × Nat)) :
    (∃ value, converted function result = .ok value) ↔ ∃ value, result = .ok value := by
  cases result with
  | error failure => simp [converted]
  | ok value => simp [converted]

/-- A number is read exactly where `stoul` reads the whole value and it is in range. An empty
value, a failed conversion, octets left over and a value out of range are the ways to be refused. -/
theorem parse_unsigned_ok_iff (value : Bytes) (max number : Nat) (field : String) :
    parseUnsignedInRange value max field = .ok number ↔
      stoul value = .ok (number, value.length) ∧ number ≤ max := by
  constructor
  · intro accepted
    simp only [parseUnsignedInRange] at accepted
    split at accepted
    · cases accepted
    · split at accepted
      · cases accepted
      · rename_i ul consumed read
        split at accepted
        · cases accepted
        · rename_i inRange
          obtain ⟨whole, bound⟩ : consumed = value.length ∧ ul ≤ max := by
            simpa only [not_or, not_not, not_lt] using inRange
          obtain rfl := Except.ok.inj accepted
          exact ⟨by rw [read, whole], bound⟩
  · rintro ⟨read, bound⟩
    have nonempty : value ≠ [] := by
      rintro rfl
      cases read
    have inside : ¬ (value.length ≠ value.length ∨ max < number) := by omega
    simp only [parseUnsignedInRange, if_neg nonempty, read, if_neg inside]

/-- A number of 16 bits is read exactly from the values accepted for it, -/
theorem parse_uint16_ok_iff (value : Bytes) (field : String) :
    (∃ number, parseUint16 value field = .ok number) ↔ UnsignedAccepted 65535 value := by
  rw [parseUint16, wrapped_ok_iff]
  exact exists_congr (fun number => parse_unsigned_ok_iff value 65535 number field)

/-- and one of 32 bits likewise. -/
theorem parse_uint32_ok_iff (value : Bytes) (field : String) :
    (∃ number, parseUint32 value field = .ok number) ↔ UnsignedAccepted 4294967295 value := by
  rw [parseUint32, wrapped_ok_iff]
  exact exists_congr (fun number => parse_unsigned_ok_iff value 4294967295 number field)

/-- An `errno` line passes exactly where it says zero. -/
theorem check_errno_ok_iff (what : String) (value : Bytes) :
    checkErrno what value = .ok () ↔ ErrnoAccepted value := by
  simp only [checkErrno, ErrnoAccepted]
  cases read : stoi value with
  | error failure => simp [converted, bind, Except.bind]
  | ok result =>
    obtain ⟨code, consumed⟩ := result
    by_cases zero : code = 0
    · simp [converted, bind, Except.bind, pure, Except.pure, zero]
    · simp [converted, bind, Except.bind, zero]

/-- A line of a peer is read exactly where its value is accepted. The cases are the keys, in the
order in which the code compares them. -/
theorem read_peer_value_ok_iff (peer : Peer) (key value : Bytes) :
    (∃ next, readPeerLine inet peer key value = .ok next) ↔ PeerValueAccepted inet key value := by
  simp only [readPeerLine, PeerValueAccepted]
  split_ifs
  · exact wrapped_ok_iff _ _
  · exact ⟨fun _ => trivial, fun _ => ⟨_, rfl⟩⟩
  · rw [wrapped_ok_iff, converted_ok_iff]
  · rw [wrapped_ok_iff, converted_ok_iff]
  · rw [wrapped_ok_iff, converted_ok_iff]
  · rw [wrapped_ok_iff, parse_uint16_ok_iff]
  · exact wrapped_ok_iff _ _
  · rw [wrapped_ok_iff, parse_uint32_ok_iff]
  · exact ⟨fun _ => trivial, fun _ => ⟨_, rfl⟩⟩

/-- A line of the device is read exactly where its value is accepted. -/
theorem read_device_value_ok_iff (device : Device) (key value : Bytes) :
    (∃ next, readDeviceLine device key value = .ok next) ↔ DeviceValueAccepted key value := by
  simp only [readDeviceLine, DeviceValueAccepted]
  split_ifs
  · exact wrapped_ok_iff _ _
  · rw [wrapped_ok_iff, parse_uint16_ok_iff]
  · rw [wrapped_ok_iff, parse_uint32_ok_iff]
  · exact ⟨fun _ => trivial, fun _ => ⟨_, rfl⟩⟩

end Values

section Runs

variable {inet : Inet}

/-- A line without an equals sign, blank ones among them, changes nothing. -/
theorem read_unmarked_line (reading : Reading) (line : Bytes)
    (cut : splitFirst (byte '=') line = none) : readLine inet reading line = .ok reading := by
  simp only [readLine, cut, ite_self]
  rfl

/-- What an iteration does with a line that has one, by its key. -/
theorem read_marked_line (reading : Reading) (line key value : Bytes)
    (cut : splitFirst (byte '=') line = some (key, value)) :
    readLine inet reading line =
      if key = ascii "errno" then (do
        checkErrno "uapi get error, errno=" value
        return reading)
      else if key = ascii "public_key" then (do
        return ⟨reading.close, some { publicKey := ← keyFromHex value }⟩)
      else match reading.currentPeer with
        | some peer => (do
            return { reading with currentPeer := some (← readPeerLine inet peer key value) })
        | none => (do
            return { reading with device := ← readDeviceLine reading.device key value }) := by
  have nonempty : line ≠ [] := by
    rintro rfl
    cases cut
  have marked : readLine inet reading line = _ := if_neg nonempty
  rw [cut] at marked
  exact marked

/-- An iteration succeeds exactly on an accepted line. The cases are a line without a mark, an
`errno` line, a line that opens a section, and one with a value for the open section or the
device. -/
theorem read_line_ok_iff (reading : Reading) (line : Bytes) :
    (∃ next, readLine inet reading line = .ok next) ↔
      LineAccepted inet reading.currentPeer.isSome line := by
  cases cut : splitFirst (byte '=') line with
  | none => simp [read_unmarked_line reading line cut, LineAccepted, cut]
  | some parts =>
    obtain ⟨key, value⟩ := parts
    have accepted : LineAccepted inet reading.currentPeer.isSome line ↔
        if key = ascii "errno" then ErrnoAccepted value
        else if key = ascii "public_key" then ∃ publicKey, keyFromHex value = .ok publicKey
        else if reading.currentPeer.isSome then PeerValueAccepted inet key value
        else DeviceValueAccepted key value := by
      simp [LineAccepted, cut]
    rw [accepted, read_marked_line reading line key value cut]
    by_cases errno : key = ascii "errno"
    · rw [if_pos errno, if_pos errno, wrapped_ok_iff]
      exact ⟨fun ⟨_, checked⟩ => (check_errno_ok_iff _ value).mp checked,
        fun passed => ⟨(), (check_errno_ok_iff _ value).mpr passed⟩⟩
    · rw [if_neg errno, if_neg errno]
      by_cases publicKey : key = ascii "public_key"
      · rw [if_pos publicKey, if_pos publicKey, wrapped_ok_iff]
      · rw [if_neg publicKey, if_neg publicKey]
        cases current : reading.currentPeer with
        | some peer =>
          rw [wrapped_ok_iff, read_peer_value_ok_iff]
          rfl
        | none =>
          rw [wrapped_ok_iff, read_device_value_ok_iff]
          rfl

/-- After an iteration a section is open if one was or the line opens one. Only a `public_key`
line opens one, and none is closed before the end. -/
theorem read_line_opens (reading next : Reading) (line : Bytes)
    (read : readLine inet reading line = .ok next) :
    next.currentPeer.isSome = (reading.currentPeer.isSome || opensSection line) := by
  cases cut : splitFirst (byte '=') line with
  | none =>
    rw [read_unmarked_line reading line cut] at read
    obtain rfl := Except.ok.inj read
    simp [opensSection, cut]
  | some parts =>
    obtain ⟨key, value⟩ := parts
    have opens : opensSection line = decide (key = ascii "public_key") := by
      simp [opensSection, cut]
    rw [read_marked_line reading line key value cut] at read
    rw [opens]
    split_ifs at read with errno publicKey
    · obtain ⟨_, _, same⟩ := (Fallible.bind_ok_iff _ _ _).mp read
      obtain rfl := Except.ok.inj same
      have other : key ≠ ascii "public_key" := by
        rw [errno]
        decide
      simp [other]
    · obtain ⟨_, _, same⟩ := (Fallible.bind_ok_iff _ _ _).mp read
      obtain rfl := Except.ok.inj same
      simp [publicKey]
    · cases current : reading.currentPeer with
      | some peer =>
        rw [current] at read
        obtain ⟨_, _, same⟩ := (Fallible.bind_ok_iff _ _ _).mp read
        obtain rfl := Except.ok.inj same
        simp
      | none =>
        rw [current] at read
        obtain ⟨_, _, same⟩ := (Fallible.bind_ok_iff _ _ _).mp read
        obtain rfl := Except.ok.inj same
        simp [publicKey]

/-- Every line of the text is accepted in the section it stands in. -/
def LinesAccepted (inet : Inet) (inSection : Bool) (texts : List Bytes) : Prop :=
  ∀ before line after, texts = before ++ line :: after →
    LineAccepted inet (inSection || before.any opensSection) line

/-- The first line is accepted, and the others behind it. -/
theorem lines_accepted_cons (inSection : Bool) (line : Bytes) (texts : List Bytes) :
    LinesAccepted inet inSection (line :: texts) ↔
      LineAccepted inet inSection line ∧
        LinesAccepted inet (inSection || opensSection line) texts := by
  constructor
  · intro all
    refine ⟨by simpa using all [] line texts rfl, ?_⟩
    intro before next after split
    have shifted := all (line :: before) next after (by rw [split]; rfl)
    simpa [Bool.or_assoc] using shifted
  · rintro ⟨first, others⟩ before next after split
    cases before with
    | nil =>
      obtain ⟨rfl, -⟩ := List.cons.inj split
      simpa using first
    | cons head tail =>
      obtain ⟨rfl, rest⟩ := List.cons.inj split
      simpa [Bool.or_assoc] using others tail next after rest

/-- The loop succeeds exactly when every line is accepted. -/
theorem read_lines_ok_iff (texts : List Bytes) (reading : Reading) :
    (∃ last, texts.foldlM (readLine inet) reading = .ok last) ↔
      LinesAccepted inet reading.currentPeer.isSome texts := by
  induction texts generalizing reading with
  | nil =>
    refine ⟨fun _ before line after split => ?_, fun _ => ⟨reading, rfl⟩⟩
    simp at split
  | cons line texts inductionHypothesis =>
    rw [lines_accepted_cons, ← read_line_ok_iff]
    simp only [List.foldlM_cons, Fallible.bind_ok_iff]
    constructor
    · rintro ⟨last, next, read, rest⟩
      refine ⟨⟨next, read⟩, ?_⟩
      rw [← read_line_opens reading next line read, ← inductionHypothesis]
      exact ⟨last, rest⟩
    · rintro ⟨⟨next, read⟩, others⟩
      rw [← read_line_opens reading next line read, ← inductionHypothesis] at others
      obtain ⟨last, rest⟩ := others
      exact ⟨last, next, read, rest⟩

/-- Some line of the response is refused in the section it stands in. -/
def GetRefused (inet : Inet) (response : Bytes) : Prop :=
  ∃ before line after, lines lineFeed response = before ++ line :: after ∧
    ¬ LineAccepted inet (before.any opensSection) line

/-- The responses to a change that have a line which is not accepted. -/
def SetRefused (response : Bytes) : Prop :=
  ∃ line ∈ lines lineFeed response, ¬ SetLineAccepted line

/-- A get response is accepted unless one of its lines is refused. The induction is on the lines,
with the open section carried along, since it decides how a value is read; deriving the public
key never fails for the OpenSSL that is assumed. -/
theorem parse_get_ok_iff (ssl : OpenSSL) (pub : Key → Key) (derives : ssl.Derives pub)
    (name response : Bytes) :
    (∃ device, parseGetResponse inet ssl name response = .ok device) ↔ ¬ GetRefused inet response := by
  have derived (device : Device) : ∃ result, derivePublicKey ssl device = .ok result := by
    cases given : device.privateKey with
    | none => exact ⟨device, by simp only [derivePublicKey, given]; rfl⟩
    | some key =>
      simp only [derivePublicKey, given, public_key_derived ssl pub derives key]
      split_ifs
      · exact ⟨_, rfl⟩
      · exact ⟨_, rfl⟩
  have loop := @read_lines_ok_iff inet (lines lineFeed response)
    ⟨{ name, userspace := true }, none⟩
  have all : LinesAccepted inet false (lines lineFeed response) ↔ ¬ GetRefused inet response := by
    simp only [LinesAccepted, GetRefused, Bool.false_or, not_exists, not_and, not_not]
  rw [← all]
  refine Iff.trans ?_ loop
  simp only [parseGetResponse, Fallible.bind_ok_iff, readLines]
  constructor
  · rintro ⟨_, reading, read, _⟩
    exact ⟨reading, read⟩
  · rintro ⟨reading, read⟩
    obtain ⟨device, given⟩ := derived reading.close
    exact ⟨device, reading, read, given⟩

/-- A line of such a response passes exactly where it is accepted. -/
theorem read_set_line_ok_iff (line : Bytes) :
    readSetLine line = .ok () ↔ SetLineAccepted line := by
  cases cut : splitFirst (byte '=') line with
  | none =>
    have passed : SetLineAccepted line := by simp [SetLineAccepted, cut]
    simp only [readSetLine, cut]
    exact ⟨fun _ => passed, fun _ => rfl⟩
  | some parts =>
    obtain ⟨key, value⟩ := parts
    simp only [readSetLine, cut, SetLineAccepted, Option.some.injEq, Prod.mk.injEq]
    by_cases errno : key = ascii "errno"
    · rw [if_pos errno, check_errno_ok_iff]
      exact ⟨fun passed _ same => same.2 ▸ passed, fun all => all value ⟨errno, rfl⟩⟩
    · rw [if_neg errno]
      exact ⟨fun _ _ same => absurd same.1 errno, fun _ => rfl⟩

/-- A set response is accepted unless one of its lines is refused. -/
theorem parse_set_ok_iff (response : Bytes) :
    parseSetResponse response = .ok () ↔ ¬ SetRefused response := by
  have loop (texts : List Bytes) :
      texts.forM readSetLine = .ok () ↔ ∀ line ∈ texts, SetLineAccepted line := by
    induction texts with
    | nil => exact ⟨fun _ => by simp, fun _ => rfl⟩
    | cons line texts inductionHypothesis =>
      rw [List.forM_eq_forM, List.forM_cons, Fallible.bind_ok_iff, List.forall_mem_cons,
        ← inductionHypothesis, ← read_set_line_ok_iff]
      exact ⟨fun ⟨_, first, rest⟩ => ⟨first, rest⟩, fun ⟨first, rest⟩ => ⟨(), first, rest⟩⟩
  rw [parseSetResponse, loop]
  simp only [SetRefused, not_exists, not_and, not_not]

end Runs

/-- Where every line of a key has one text, that is the value of each of its lines. -/
theorem value_of_key (key : String) (plain : byte '=' ∉ ascii key) (text value : Bytes)
    (read : List Bytes) (only : ∀ line ∈ read, ∀ cut ∈ splitFirst (byte '=') line,
      cut.1 = ascii key → cut.2 = text) (member : keyValue key value ∈ read) : value = text :=
  only _ member _ (SetReading.split_key_value key value plain) rfl

end NodeWireguard.LineAcceptance
