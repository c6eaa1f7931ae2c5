import Mathlib
import NodeWireguard.Netlink.AddressForms
import NodeWireguard.Uapi.GetResponse
import NodeWireguard.Uapi.RequestLines

/-!
# The sections of a get response

What a response says, apart from the parser: device lines, then peer sections, each line
denoting one field of its own section or nothing. A field of a section is the last one given
for it and its default where none is given; allowed addresses are collected in order.

A number is denoted by a strict text in range; a key and a range by the texts `KeyFromHex`
and `ParseCIDR` take. The parser reads every such response as what it says.
-/

namespace NodeWireguard.GetSections

open ByteText DecimalText IntegerConversions Key PublicKey AddressText AddressForms
open SetRequest GetResponse

/-- What a line of a peer section gives. -/
inductive PeerField where
  | presharedKey (key : Key)
  | endpoint (text : Bytes)
  | lastHandshakeTimeSec (seconds : Int64)
  | receiveBytes (count : UInt64)
  | transmitBytes (count : UInt64)
  | persistentKeepaliveInterval (seconds : UInt16)
  | allowedIP (aip : AllowedIP)
  | protocolVersion (version : UInt32)
  | nothing

/-- What a line before the first section gives. -/
inductive DeviceField where
  | privateKey (key : Key)
  | listenPort (port : UInt16)
  | firewallMark (mark : UInt32)
  | nothing

/-- The keys that mean something in any section. -/
def sharedKeys : List Bytes := [ascii "errno", ascii "public_key"]

/-- The keys of a peer section that are read; any other one is skipped. -/
def peerKeys : List Bytes :=
  [ascii "preshared_key", ascii "endpoint", ascii "last_handshake_time_sec", ascii "rx_bytes",
    ascii "tx_bytes", ascii "persistent_keepalive_interval", ascii "allowed_ip",
    ascii "protocol_version"]

/-- The keys of the device. -/
def deviceKeys : List Bytes := [ascii "private_key", ascii "listen_port", ascii "fwmark"]

/-- A line that gives nothing: blank, without an equals sign, the confirmation, or under a key
that means nothing in its section. -/
inductive EmptyLine (keys : List Bytes) : Bytes → Prop where
  | blank : EmptyLine keys []
  | unmarked (line : Bytes) (plain : byte '=' ∉ line) : EmptyLine keys line
  | confirmed : EmptyLine keys (keyValue "errno" (ascii "0"))
  | unknown (key value : Bytes) (plain : byte '=' ∉ key) (notShared : key ∉ sharedKeys)
      (notKnown : key ∉ keys) : EmptyLine keys (key ++ byte '=' :: value)

/-- A well-formed line of a peer section and what it gives. -/
inductive PeerLine (inet : Inet) : Bytes → PeerField → Prop where
  | presharedKey (value : Bytes) (key : Key) (hex : keyFromHex value = .ok key) :
      PeerLine inet (keyValue "preshared_key" value) (.presharedKey key)
  | endpoint (value : Bytes) : PeerLine inet (keyValue "endpoint" value) (.endpoint value)
  | lastHandshakeTimeSec (value : Bytes) (seconds : Int64)
      (number : StrictSigned value seconds.toInt) :
      PeerLine inet (keyValue "last_handshake_time_sec" value) (.lastHandshakeTimeSec seconds)
  | receiveBytes (value : Bytes) (count : UInt64) (number : StrictDigits value count.toNat) :
      PeerLine inet (keyValue "rx_bytes" value) (.receiveBytes count)
  | transmitBytes (value : Bytes) (count : UInt64) (number : StrictDigits value count.toNat) :
      PeerLine inet (keyValue "tx_bytes" value) (.transmitBytes count)
  | persistentKeepaliveInterval (value : Bytes) (seconds : UInt16)
      (number : StrictDigits value seconds.toNat) :
      PeerLine inet (keyValue "persistent_keepalive_interval" value)
        (.persistentKeepaliveInterval seconds)
  | allowedIP (value : Bytes) (aip : AllowedIP) (range : parseCIDR inet value = .ok aip) :
      PeerLine inet (keyValue "allowed_ip" value) (.allowedIP aip)
  | protocolVersion (value : Bytes) (version : UInt32)
      (number : StrictDigits value version.toNat) :
      PeerLine inet (keyValue "protocol_version" value) (.protocolVersion version)
  | nothing (line : Bytes) (empty : EmptyLine peerKeys line) : PeerLine inet line .nothing

/-- A well-formed line before the first section and what it gives. -/
inductive DeviceLine : Bytes → DeviceField → Prop where
  | privateKey (value : Bytes) (key : Key) (hex : keyFromHex value = .ok key) :
      DeviceLine (keyValue "private_key" value) (.privateKey key)
  | listenPort (value : Bytes) (port : UInt16) (number : StrictDigits value port.toNat) :
      DeviceLine (keyValue "listen_port" value) (.listenPort port)
  | firewallMark (value : Bytes) (mark : UInt32) (number : StrictDigits value mark.toNat) :
      DeviceLine (keyValue "fwmark" value) (.firewallMark mark)
  | nothing (line : Bytes) (empty : EmptyLine deviceKeys line) : DeviceLine line .nothing

section Fields

/-- Each of these gives the value of a line of one kind, here the preshared key, -/
def PeerField.asPresharedKey : PeerField → Option Key
  | .presharedKey key => some key
  | _ => none

/-- the endpoint, -/
def PeerField.asEndpoint : PeerField → Option Bytes
  | .endpoint text => some text
  | _ => none

/-- the time of the last handshake, -/
def PeerField.asLastHandshakeTimeSec : PeerField → Option Int64
  | .lastHandshakeTimeSec seconds => some seconds
  | _ => none

/-- what was received, -/
def PeerField.asReceiveBytes : PeerField → Option UInt64
  | .receiveBytes count => some count
  | _ => none

/-- what was sent, -/
def PeerField.asTransmitBytes : PeerField → Option UInt64
  | .transmitBytes count => some count
  | _ => none

/-- the interval of keepalives, -/
def PeerField.asPersistentKeepaliveInterval : PeerField → Option UInt16
  | .persistentKeepaliveInterval seconds => some seconds
  | _ => none

/-- a range, -/
def PeerField.asAllowedIP : PeerField → Option AllowedIP
  | .allowedIP aip => some aip
  | _ => none

/-- or the version of the protocol. -/
def PeerField.asProtocolVersion : PeerField → Option UInt32
  | .protocolVersion version => some version
  | _ => none

/-- The same for lines of the device: the private key, -/
def DeviceField.asPrivateKey : DeviceField → Option Key
  | .privateKey key => some key
  | _ => none

/-- the port, -/
def DeviceField.asListenPort : DeviceField → Option UInt16
  | .listenPort port => some port
  | _ => none

/-- and the mark. -/
def DeviceField.asFirewallMark : DeviceField → Option UInt32
  | .firewallMark mark => some mark
  | _ => none

/-- The last one given of a kind of field. -/
def lastOf {φ α : Type} (select : φ → Option α) (fields : List φ) : Option α :=
  (fields.filterMap select).getLast?

/-- The record of a peer section: its key and, field by field, the last value given. -/
def peerOf (publicKey : Key) (fields : List PeerField) : Peer where
  publicKey := publicKey
  presharedKey := lastOf PeerField.asPresharedKey fields
  endpoint := lastOf PeerField.asEndpoint fields
  persistentKeepaliveInterval := (lastOf PeerField.asPersistentKeepaliveInterval fields).getD 0
  lastHandshakeTimeSec := (lastOf PeerField.asLastHandshakeTimeSec fields).getD 0
  receiveBytes := (lastOf PeerField.asReceiveBytes fields).getD 0
  transmitBytes := (lastOf PeerField.asTransmitBytes fields).getD 0
  allowedIPs := fields.filterMap PeerField.asAllowedIP
  protocolVersion := (lastOf PeerField.asProtocolVersion fields).getD 0

/-- The public key shown for a private key: none for an all-zero one. -/
def derivedKey (pub : Key → Key) (privateKey : Option Key) : Option Key :=
  (privateKey.filter (fun key => isZeroKey key = false)).map pub

/-- The record of a whole response. The last line of a field counts, and a field without one has
its default. -/
def deviceOf (pub : Key → Key) (name : Bytes) (fields : List DeviceField)
    (sections : List (Key × List PeerField)) : Device where
  name := name
  userspace := true
  privateKey := lastOf DeviceField.asPrivateKey fields
  publicKey := derivedKey pub (lastOf DeviceField.asPrivateKey fields)
  listenPort := (lastOf DeviceField.asListenPort fields).getD 0
  firewallMark := (lastOf DeviceField.asFirewallMark fields).getD 0
  peers := sections.map (fun content => peerOf content.1 content.2)

end Fields

/-- The lines of a section: its opening line with the key's text, then its body. -/
def sectionLines (content : Bytes × List Bytes) : List Bytes :=
  keyValue "public_key" content.1 :: content.2

/-- A well-formed section and what it gives. Its first line names the peer, and each further line
gives a field, or nothing. -/
def SectionGives (inet : Inet) (content : Bytes × List Bytes) (given : Key × List PeerField) : Prop :=
  keyFromHex content.1 = .ok given.1 ∧ List.Forall₂ (PeerLine inet) content.2 given.2

/-- A response made of device lines and sections, well formed throughout, and what it gives. -/
structure ResponseGives (inet : Inet) (response : Bytes) (fields : List DeviceField)
    (sections : List (Key × List PeerField)) : Prop where
  made : ∃ own contents, lines lineFeed response = own ++ contents.flatMap sectionLines ∧
    List.Forall₂ DeviceLine own fields ∧ List.Forall₂ (SectionGives inet) contents sections

section Numbers

/-- A strict number in range is accepted by the checking helper. -/
theorem parse_unsigned_strict (value : Bytes) (number max : Nat) (field : String)
    (strict : StrictDigits value number) (inRange : number ≤ max) (fits : number < 2 ^ 64) :
    parseUnsignedInRange value max field = .ok number := by
  have read := stoul_strict value number strict fits
  have inside : ¬ (value.length ≠ value.length ∨ max < number) := by omega
  simp only [parseUnsignedInRange, if_neg strict.nonempty, read, if_neg inside]

/-- A strict number of 16 bits is read as it is, -/
theorem parse_uint16_strict (value : Bytes) (number : UInt16) (field : String)
    (strict : StrictDigits value number.toNat) : parseUint16 value field = .ok number := by
  have bound := number.toNat_lt
  rw [parseUint16, parse_unsigned_strict value number.toNat 65535 field strict (by omega) (by omega)]
  exact congrArg Except.ok UInt16.ofNat_toNat

/-- one of 32 bits too, -/
theorem parse_uint32_strict (value : Bytes) (number : UInt32) (field : String)
    (strict : StrictDigits value number.toNat) : parseUint32 value field = .ok number := by
  have bound := number.toNat_lt
  rw [parseUint32, parse_unsigned_strict value number.toNat 4294967295 field strict (by omega)
    (by omega)]
  exact congrArg Except.ok UInt32.ofNat_toNat

/-- A strict number in range is accepted by a conversion taken as it is. -/
theorem stoull_converted (value : Bytes) (number : UInt64)
    (strict : StrictDigits value number.toNat) :
    converted "stoull" (stoul value) = .ok number.toNat := by
  rw [stoul_strict value number.toNat strict number.toNat_lt, converted]

/-- and one of 64 bits with a sign. -/
theorem stoll_converted (value : Bytes) (number : Int64)
    (strict : StrictSigned value number.toInt) :
    converted "stoll" (stoll value) = .ok number.toInt := by
  rw [stoll_strict value number.toInt strict ⟨number.le_toInt, number.toInt_lt⟩, converted]

end Numbers

section Lines

variable {inet : Inet}

/-- What the field of a peer line does to the record. -/
def applyPeerField (peer : Peer) : PeerField → Peer
  | .presharedKey key => { peer with presharedKey := some key }
  | .endpoint text => { peer with endpoint := some text }
  | .lastHandshakeTimeSec seconds => { peer with lastHandshakeTimeSec := seconds }
  | .receiveBytes count => { peer with receiveBytes := count }
  | .transmitBytes count => { peer with transmitBytes := count }
  | .persistentKeepaliveInterval seconds => { peer with persistentKeepaliveInterval := seconds }
  | .allowedIP aip => { peer with allowedIPs := peer.allowedIPs ++ [aip] }
  | .protocolVersion version => { peer with protocolVersion := version }
  | .nothing => peer

/-- A line of the device stores its value. -/
def applyDeviceField (device : Device) : DeviceField → Device
  | .privateKey key => { device with privateKey := some key }
  | .listenPort port => { device with listenPort := port }
  | .firewallMark mark => { device with firewallMark := mark }
  | .nothing => device

/-- A line with a key of a peer section goes to the open one. -/
theorem read_line_peer (device : Device) (peer peer' : Peer) (key value : Bytes)
    (plain : byte '=' ∉ key) (notShared : key ∉ sharedKeys)
    (read : readPeerLine inet peer key value = .ok peer') :
    readLine inet ⟨device, some peer⟩ (key ++ byte '=' :: value) = .ok ⟨device, some peer'⟩ := by
  have cut : splitFirst (byte '=') (key ++ byte '=' :: value) = some (key, value) :=
    (split_first_iff _ _ _ _).mpr ⟨rfl, plain⟩
  have nonempty : key ++ byte '=' :: value ≠ [] := by simp
  obtain ⟨notErrno, notPublicKey⟩ : key ≠ ascii "errno" ∧ key ≠ ascii "public_key" := by
    simpa [sharedKeys] using notShared
  simp only [readLine, if_neg nonempty, cut, if_neg notErrno, if_neg notPublicKey, read]
  rfl

/-- A line with any other key, before the first section, goes to the device. -/
theorem read_line_device (device device' : Device) (key value : Bytes) (plain : byte '=' ∉ key)
    (notShared : key ∉ sharedKeys) (read : readDeviceLine device key value = .ok device') :
    readLine inet ⟨device, none⟩ (key ++ byte '=' :: value) = .ok ⟨device', none⟩ := by
  have cut : splitFirst (byte '=') (key ++ byte '=' :: value) = some (key, value) :=
    (split_first_iff _ _ _ _).mpr ⟨rfl, plain⟩
  have nonempty : key ++ byte '=' :: value ≠ [] := by simp
  obtain ⟨notErrno, notPublicKey⟩ : key ≠ ascii "errno" ∧ key ≠ ascii "public_key" := by
    simpa [sharedKeys] using notShared
  simp only [readLine, if_neg nonempty, cut, if_neg notErrno, if_neg notPublicKey, read]
  rfl

/-- A line that gives nothing leaves everything as it was. Such a line has no mark, or a key that
neither the open section nor the device has. -/
theorem read_line_empty (reading : Reading) (line : Bytes)
    (empty : EmptyLine (if reading.currentPeer.isSome then peerKeys else deviceKeys) line) :
    readLine inet reading line = .ok reading := by
  obtain ⟨device, currentPeer⟩ := reading
  generalize known : (if currentPeer.isSome then peerKeys else deviceKeys) = keys at empty
  cases empty with
  | blank => rfl
  | unmarked _ plain =>
    simp only [readLine, (split_first_none _ _).mpr plain, ite_self]
    rfl
  | confirmed =>
    have cut := SetReading.split_key_value "errno" (ascii "0") (by decide)
    simp only [readLine, cut]
    rfl
  | unknown key value plain notShared notKnown =>
    subst known
    cases currentPeer with
    | some peer =>
      apply read_line_peer device peer peer key value plain notShared
      simp only [Option.isSome_some, ↓reduceIte, peerKeys, List.mem_cons, List.not_mem_nil,
        or_false, not_or] at notKnown
      obtain ⟨psk, endpoint, handshake, rx, tx, keepalive, range, version⟩ := notKnown
      simp only [readPeerLine, if_neg psk, if_neg endpoint, if_neg handshake, if_neg rx,
        if_neg tx, if_neg keepalive, if_neg range, if_neg version]
      rfl
    | none =>
      apply read_line_device device device key value plain notShared
      simp only [Option.isSome_none, Bool.false_eq_true, ↓reduceIte, deviceKeys, List.mem_cons,
        List.not_mem_nil, or_false, not_or] at notKnown
      obtain ⟨privateKey, port, mark⟩ := notKnown
      simp only [readDeviceLine, if_neg privateKey, if_neg port, if_neg mark]
      rfl

/-- A peer line gives its field to the open section and touches nothing else. The cases are the
fields, each with its own key and decoder; the strict text of a number is read as the number. -/
theorem read_peer_line (device : Device) (peer : Peer) (line : Bytes) (field : PeerField)
    (gives : PeerLine inet line field) :
    readLine inet ⟨device, some peer⟩ line = .ok ⟨device, some (applyPeerField peer field)⟩ := by
  cases gives with
  | nothing _ empty => exact read_line_empty ⟨device, some peer⟩ line empty
  | presharedKey value key hex =>
    apply read_line_peer device peer _ _ value (by decide) (by decide)
    have branch : readPeerLine inet peer (ascii "preshared_key") value =
        (keyFromHex value).map (fun key => { peer with presharedKey := some key }) := rfl
    rw [branch, hex]
    rfl
  | endpoint value =>
    apply read_line_peer device peer _ _ value (by decide) (by decide)
    rfl
  | lastHandshakeTimeSec value seconds number =>
    apply read_line_peer device peer _ _ value (by decide) (by decide)
    have branch : readPeerLine inet peer (ascii "last_handshake_time_sec") value =
        (converted "stoll" (stoll value)).map (fun seconds =>
          { peer with lastHandshakeTimeSec := Int64.ofInt seconds }) := rfl
    rw [branch, stoll_converted value seconds number, Except.map, Int64.ofInt_toInt]
    rfl
  | receiveBytes value count number =>
    apply read_line_peer device peer _ _ value (by decide) (by decide)
    have branch : readPeerLine inet peer (ascii "rx_bytes") value =
        (converted "stoull" (stoul value)).map (fun count =>
          { peer with receiveBytes := UInt64.ofNat count }) := rfl
    rw [branch, stoull_converted value count number, Except.map, UInt64.ofNat_toNat]
    rfl
  | transmitBytes value count number =>
    apply read_line_peer device peer _ _ value (by decide) (by decide)
    have branch : readPeerLine inet peer (ascii "tx_bytes") value =
        (converted "stoull" (stoul value)).map (fun count =>
          { peer with transmitBytes := UInt64.ofNat count }) := rfl
    rw [branch, stoull_converted value count number, Except.map, UInt64.ofNat_toNat]
    rfl
  | persistentKeepaliveInterval value seconds number =>
    apply read_line_peer device peer _ _ value (by decide) (by decide)
    have branch : readPeerLine inet peer (ascii "persistent_keepalive_interval") value =
        (parseUint16 value "persistent_keepalive_interval").map (fun seconds =>
          { peer with persistentKeepaliveInterval := seconds }) := rfl
    rw [branch, parse_uint16_strict value seconds _ number]
    rfl
  | allowedIP value aip range =>
    apply read_line_peer device peer _ _ value (by decide) (by decide)
    have branch : readPeerLine inet peer (ascii "allowed_ip") value =
        (parseCIDR inet value).map (fun aip =>
          { peer with allowedIPs := peer.allowedIPs ++ [aip] }) := rfl
    rw [branch, range]
    rfl
  | protocolVersion value version number =>
    apply read_line_peer device peer _ _ value (by decide) (by decide)
    have branch : readPeerLine inet peer (ascii "protocol_version") value =
        (parseUint32 value "protocol_version").map (fun version =>
          { peer with protocolVersion := version }) := rfl
    rw [branch, parse_uint32_strict value version _ number]
    rfl

/-- A device line gives its field to the device. Before the first section, or for a key that no
section has, the line is one of the device. -/
theorem read_device_line (device : Device) (line : Bytes) (field : DeviceField)
    (gives : DeviceLine line field) :
    readLine inet ⟨device, none⟩ line = .ok ⟨applyDeviceField device field, none⟩ := by
  cases gives with
  | nothing _ empty => exact read_line_empty ⟨device, none⟩ line empty
  | privateKey value key hex =>
    apply read_line_device device _ _ value (by decide) (by decide)
    have branch : readDeviceLine device (ascii "private_key") value =
        (keyFromHex value).map (fun key => { device with privateKey := some key }) := rfl
    rw [branch, hex]
    rfl
  | listenPort value port number =>
    apply read_line_device device _ _ value (by decide) (by decide)
    have branch : readDeviceLine device (ascii "listen_port") value =
        (parseUint16 value "listen_port").map (fun port => { device with listenPort := port }) := rfl
    rw [branch, parse_uint16_strict value port _ number]
    rfl
  | firewallMark value mark number =>
    apply read_line_device device _ _ value (by decide) (by decide)
    have branch : readDeviceLine device (ascii "fwmark") value =
        (parseUint32 value "fwmark").map (fun mark => { device with firewallMark := mark }) := rfl
    rw [branch, parse_uint32_strict value mark _ number]
    rfl

/-- An opening line closes the section in progress and starts its own. -/
theorem read_opening_line (reading : Reading) (value : Bytes) (key : Key)
    (hex : keyFromHex value = .ok key) :
    readLine inet reading (keyValue "public_key" value) =
      .ok ⟨reading.close, some { publicKey := key }⟩ := by
  have cut := SetReading.split_key_value "public_key" value (by decide)
  have branch : readLine inet reading (keyValue "public_key" value) =
      (keyFromHex value).map (fun key => ⟨reading.close, some { publicKey := key }⟩) := by
    simp only [readLine, cut]
    rfl
  rw [branch, hex]
  rfl

end Lines

section Runs

variable {inet : Inet}

/-- The last value of a kind is the last field's, if it is of that kind. -/
theorem last_of_append {φ α : Type} (select : φ → Option α) (fields : List φ) (field : φ) :
    lastOf select (fields ++ [field]) = (select field).or (lastOf select fields) := by
  cases given : select field with
  | none => simp [lastOf, given]
  | some value => simp [lastOf, given]

/-- Applying the fields of a section one after the other gives its record. -/
theorem apply_peer_fields (publicKey : Key) (fields : List PeerField) :
    fields.foldl applyPeerField { publicKey } = peerOf publicKey fields := by
  induction fields using List.reverseRecOn with
  | nil => rfl
  | append_singleton fields field inductionHypothesis =>
    rw [List.foldl_append, inductionHypothesis]
    simp only [peerOf, last_of_append, List.filterMap_append]
    cases field <;> simp [applyPeerField, PeerField.asPresharedKey, PeerField.asEndpoint,
      PeerField.asLastHandshakeTimeSec, PeerField.asReceiveBytes, PeerField.asTransmitBytes,
      PeerField.asPersistentKeepaliveInterval, PeerField.asAllowedIP, PeerField.asProtocolVersion]

/-- The body of a section is read into its record. -/
theorem read_section_body (device : Device) (peer : Peer) (body : List Bytes)
    (fields : List PeerField) (gives : List.Forall₂ (PeerLine inet) body fields) :
    body.foldlM (readLine inet) ⟨device, some peer⟩ =
      .ok ⟨device, some (fields.foldl applyPeerField peer)⟩ := by
  induction gives generalizing peer with
  | nil => rfl
  | cons first _ inductionHypothesis =>
    rw [List.foldlM_cons, read_peer_line device peer _ _ first]
    exact inductionHypothesis (applyPeerField peer _)

/-- A whole section is added to what was read before it. -/
theorem read_section (reading : Reading) (content : Bytes × List Bytes)
    (given : Key × List PeerField) (gives : SectionGives inet content given) :
    (sectionLines content).foldlM (readLine inet) reading =
      .ok ⟨reading.close, some (peerOf given.1 given.2)⟩ := by
  rw [sectionLines, List.foldlM_cons, read_opening_line reading content.1 given.1 gives.1]
  change content.2.foldlM (readLine inet) ⟨reading.close, some { publicKey := given.1 }⟩ = _
  rw [read_section_body reading.close _ content.2 given.2 gives.2, apply_peer_fields]

/-- The sections of a response are added in order. -/
theorem read_sections (reading : Reading) (contents : List (Bytes × List Bytes))
    (sections : List (Key × List PeerField))
    (gives : List.Forall₂ (SectionGives inet) contents sections) :
    ∃ last, (contents.flatMap sectionLines).foldlM (readLine inet) reading = .ok last ∧
      last.close = { reading.close with
        peers := reading.close.peers ++ sections.map (fun content => peerOf content.1 content.2) } := by
  induction gives generalizing reading with
  | nil => exact ⟨reading, rfl, by simp⟩
  | cons first _ inductionHypothesis =>
    rw [List.flatMap_cons, List.foldlM_append, read_section reading _ _ first]
    obtain ⟨last, read, closed⟩ := inductionHypothesis ⟨reading.close, some (peerOf _ _)⟩
    refine ⟨last, read, ?_⟩
    rw [closed]
    simp [Reading.close]

/-- The device lines are read into the device's own fields. -/
theorem read_own_lines (device : Device) (own : List Bytes) (fields : List DeviceField)
    (gives : List.Forall₂ DeviceLine own fields) :
    own.foldlM (readLine inet) ⟨device, none⟩ =
      .ok ⟨fields.foldl applyDeviceField device, none⟩ := by
  induction gives generalizing device with
  | nil => rfl
  | cons first _ inductionHypothesis =>
    rw [List.foldlM_cons, read_device_line device _ _ first]
    exact inductionHypothesis (applyDeviceField device _)

/-- Applying the device fields one after the other gives the last of each. -/
theorem apply_device_fields (device : Device) (fields : List DeviceField) :
    fields.foldl applyDeviceField device = { device with
      privateKey := (lastOf DeviceField.asPrivateKey fields).or device.privateKey
      listenPort := (lastOf DeviceField.asListenPort fields).getD device.listenPort
      firewallMark := (lastOf DeviceField.asFirewallMark fields).getD device.firewallMark } := by
  induction fields using List.reverseRecOn with
  | nil => rfl
  | append_singleton fields field inductionHypothesis =>
    rw [List.foldl_append, inductionHypothesis]
    simp only [last_of_append]
    cases field <;> simp [applyDeviceField, DeviceField.asPrivateKey, DeviceField.asListenPort,
      DeviceField.asFirewallMark]

/-- The loop reads a response as what it says, up to the public key. -/
theorem read_response (name response : Bytes) (fields : List DeviceField)
    (sections : List (Key × List PeerField)) (gives : ResponseGives inet response fields sections) :
    ∃ reading, readLines inet name response = .ok reading ∧
      reading.close = { name, userspace := true
                        privateKey := lastOf DeviceField.asPrivateKey fields
                        listenPort := (lastOf DeviceField.asListenPort fields).getD 0
                        firewallMark := (lastOf DeviceField.asFirewallMark fields).getD 0
                        peers := sections.map (fun content => peerOf content.1 content.2) } := by
  obtain ⟨own, contents, made, deviceLines, peerSections⟩ := gives.made
  rw [readLines, made, List.foldlM_append,
    read_own_lines { name, userspace := true } own fields deviceLines]
  obtain ⟨last, read, closed⟩ := @read_sections inet
    ⟨fields.foldl applyDeviceField { name, userspace := true }, none⟩ contents sections peerSections
  refine ⟨last, read, ?_⟩
  rw [closed, apply_device_fields]
  simp [Reading.close]

end Runs

/-- After the loop, a nonzero private key gives the public key. -/
theorem derive_public_key_eq (ssl : OpenSSL) (pub : Key → Key) (derives : ssl.Derives pub)
    (device : Device) (fresh : device.publicKey = none) :
    derivePublicKey ssl device =
      .ok { device with publicKey := derivedKey pub device.privateKey } := by
  obtain ⟨name, userspace, privateKey, publicKey, listenPort, firewallMark, peers⟩ := device
  obtain rfl : publicKey = none := fresh
  cases privateKey with
  | none => rfl
  | some key =>
    cases zero : isZeroKey key with
    | true =>
      simp only [derivePublicKey, zero, ↓reduceIte, derivedKey, Option.filter]
      rfl
    | false =>
      simp only [derivePublicKey, zero, Bool.false_eq_true, ↓reduceIte,
        public_key_derived ssl pub derives key, derivedKey, Option.filter, decide_true]
      rfl

/-- A well-formed response is parsed to its record. -/
theorem parse_response (inet : Inet) (ssl : OpenSSL) (pub : Key → Key) (derives : ssl.Derives pub)
    (name response : Bytes) (fields : List DeviceField) (sections : List (Key × List PeerField))
    (gives : ResponseGives inet response fields sections) :
    parseGetResponse inet ssl name response = .ok (deviceOf pub name fields sections) := by
  obtain ⟨reading, read, closed⟩ := read_response name response fields sections gives
  rw [parseGetResponse, read]
  change derivePublicKey ssl reading.close = _
  rw [closed, derive_public_key_eq ssl pub derives _ rfl]
  rfl

/-- Every well-formed response is read as what it says: each field from its own section, the
last one given, defaults where none is, sections and allowed addresses in order.

Proof: by induction on the sections, each by induction on its lines. The lines of a section
change only the peer at the end of the list, and each line only its own field, so the value that
stays is the last one. The public key is derived at the end, from the private key that was read. -/
theorem response_read (inet : Inet) (ssl : OpenSSL) (pub : Key → Key) (derives : ssl.Derives pub)
    (name response : Bytes) (fields : List DeviceField) (sections : List (Key × List PeerField))
    (gives : ResponseGives inet response fields sections) :
    parseGetResponse inet ssl name response = .ok (deviceOf pub name fields sections) :=
  parse_response inet ssl pub derives name response fields sections gives

/-- Stands for OpenSSL where no key is derived. -/
def idleSsl : OpenSSL := ⟨fun _ => true, fun key => some key.toList⟩

/-- The sample OpenSSL derives every key as itself. -/
theorem idle_ssl_derives : idleSsl.Derives id := ⟨fun _ => rfl, fun _ => rfl⟩

/-- The key with every octet one. -/
def onesKey : Key := List.Vector.replicate kKeyLen 1

/-- Two peers, the first with an interval given twice and an unknown key between. -/
def sampleLines : List Bytes :=
  [ascii "listen_port=51820", keyValue "public_key" (keyToHex zeroKey),
    ascii "persistent_keepalive_interval=5", ascii "listen_port=1",
    ascii "persistent_keepalive_interval=25", keyValue "public_key" (keyToHex onesKey),
    ascii "allowed_ip=192.0.2.0/24", ascii "errno=0", []]

/-- The sample has no line feed inside a line. -/
theorem sample_lines_read : lines lineFeed (terminated sampleLines) = sampleLines := by
  refine lines_terminated lineFeed sampleLines ?_
  simp only [sampleLines, List.forall_mem_cons]
  exact ⟨by decide, RequestLines.hex_line_clean _ zeroKey (by decide), by decide, by decide, by decide,
    RequestLines.hex_line_clean _ onesKey (by decide), by decide, by decide, by decide, by simp⟩

/-- What the lines of the sample say. -/
theorem sample_gives : ResponseGives plainInet (terminated sampleLines) [.listenPort 51820]
    [(zeroKey, [.persistentKeepaliveInterval 5, .nothing, .persistentKeepaliveInterval 25]),
      (onesKey, [.allowedIP ⟨ascii "192.0.2.0", AF_INET, 24⟩, .nothing, .nothing])] := by
  refine ⟨[ascii "listen_port=51820"], [(keyToHex zeroKey, [ascii "persistent_keepalive_interval=5",
      ascii "listen_port=1", ascii "persistent_keepalive_interval=25"]),
    (keyToHex onesKey, [ascii "allowed_ip=192.0.2.0/24", ascii "errno=0", []])], ?_, ?_, ?_⟩
  · exact sample_lines_read
  · exact .cons (.listenPort (ascii "51820") 51820
      (strict_digits_checked _ _ (by decide))) .nil
  · refine .cons ⟨key_from_hex_key_to_hex zeroKey, ?_⟩ (.cons ⟨key_from_hex_key_to_hex onesKey, ?_⟩ .nil)
    · exact .cons (.persistentKeepaliveInterval (ascii "5") 5
          (strict_digits_checked _ _ (by decide)))
        (.cons (.nothing _ (.unknown (ascii "listen_port") (ascii "1") (by decide) (by decide)
            (by decide)))
          (.cons (.persistentKeepaliveInterval (ascii "25") 25
            (strict_digits_checked _ _ (by decide))) .nil))
    · exact .cons (.allowedIP (ascii "192.0.2.0/24") _ (by decide))
        (.cons (.nothing _ .confirmed) (.cons (.nothing _ .blank) .nil))

/-- The sample is read section by section. -/
theorem sample_read :
    parseGetResponse plainInet idleSsl (ascii "wg0") (terminated sampleLines) =
      .ok { name := ascii "wg0", userspace := true, listenPort := 51820
            peers := [{ publicKey := zeroKey, persistentKeepaliveInterval := 25 },
              { publicKey := onesKey, allowedIPs := [⟨ascii "192.0.2.0", AF_INET, 24⟩] }] } :=
  response_read plainInet idleSsl id idle_ssl_derives (ascii "wg0") (terminated sampleLines) _ _
    sample_gives

end NodeWireguard.GetSections
