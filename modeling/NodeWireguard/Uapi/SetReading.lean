import Mathlib
import NodeWireguard.Uapi.SetRequest

/-!
# How a daemon reads a set request

The reading side of the userspace protocol: the request is cut into lines, each line at
its first equals sign; `public_key` opens a peer section and every later line belongs
to it. Endpoint and allowed-address texts are read as `ParseEndpoint` and `ParseCIDR`
read them. Anything else is refused.

This is the protocol's meaning of a request, stated on its own and not taken from the
code. It reads the intended lines of a configuration back to that configuration, as
long as the emitted texts are accepted.
-/

namespace NodeWireguard.SetReading

open ByteText DecimalText Key AddressText SetRequest

/-- A decimal number up to a limit, digits only. -/
def readUnsigned (limit : Nat) (value : Bytes) : Option Nat :=
  if value ≠ [] ∧ (∀ octet ∈ value, isDigit octet = true) ∧ digitsValue value ≤ limit then
    some (digitsValue value)
  else none

/-- A flag has no other value than `true`. -/
def readFlag (value : Bytes) : Option Bool := if value = ascii "true" then some true else none

/-- One line of a peer section. A line that is not one of a request makes the whole unreadable. -/
def readPeerLine (inet : Inet) (peer : PeerConfig) (key value : Bytes) : Option PeerConfig :=
  if key = ascii "remove" then (readFlag value).map (fun flag => { peer with remove := flag })
  else if key = ascii "update_only" then
    (readFlag value).map (fun flag => { peer with updateOnly := flag })
  else if key = ascii "preshared_key" then
    (keyFromHex value).toOption.map (fun psk => { peer with presharedKey := some psk })
  else if key = ascii "endpoint" then
    (parseEndpoint inet value).toOption.map (fun _ => { peer with endpoint := some value })
  else if key = ascii "persistent_keepalive_interval" then
    (readUnsigned 65535 value).map (fun interval =>
      { peer with persistentKeepaliveInterval := some (UInt16.ofNat interval) })
  else if key = ascii "replace_allowed_ips" then
    (readFlag value).map (fun flag => { peer with replaceAllowedIPs := flag })
  else if key = ascii "allowed_ip" then
    (parseCIDR inet value).toOption.map (fun aip => { peer with allowedIPs := peer.allowedIPs ++ [aip] })
  else none

/-- One line before the first peer section. The same for the lines of the device. -/
def readDeviceLine (cfg : Config) (key value : Bytes) : Option Config :=
  if key = ascii "private_key" then
    (keyFromHex value).toOption.map (fun privateKey => { cfg with privateKey := some privateKey })
  else if key = ascii "listen_port" then
    (readUnsigned 65535 value).map (fun port => { cfg with listenPort := some (UInt16.ofNat port) })
  else if key = ascii "fwmark" then
    (readUnsigned 4294967295 value).map (fun mark =>
      { cfg with firewallMark := some (UInt32.ofNat mark) })
  else if key = ascii "replace_peers" then
    (readFlag value).map (fun flag => { cfg with replacePeers := flag })
  else none

/-- One line of the request; the section it belongs to is the last one opened. -/
def readLine (inet : Inet) (cfg : Config) (text : Bytes) : Option Config :=
  match splitFirst (byte '=') text with
  | none => none
  | some (key, value) =>
      if key = ascii "public_key" then
        (keyFromHex value).toOption.map (fun publicKey =>
          { cfg with peers := cfg.peers ++ [{ publicKey }] })
      else match cfg.peers.reverse with
        | [] => readDeviceLine cfg key value
        | current :: earlier =>
            (readPeerLine inet current key value).map (fun peer =>
              { cfg with peers := (peer :: earlier).reverse })

/-- A whole request: `set=1`, the body, and one empty line at the very end. -/
def readSetRequest (inet : Inet) (request : Bytes) : Option Config :=
  match lines lineFeed request with
  | [] => none
  | first :: rest =>
      let body := rest.takeWhile (· ≠ [])
      if first = keyValue "set" (ascii "1") ∧ rest = body ++ [[]] then
        body.foldlM (readLine inet) {}
      else none

/-- A rendered number within the limit is read back. -/
theorem read_unsigned_decimal (limit value : Nat) (inRange : value ≤ limit) :
    readUnsigned limit (decimal value) = some value := by
  simp only [readUnsigned, decimal_value]
  exact if_pos ⟨decimal_nonempty value, decimal_digits value, inRange⟩

/-- A rendered line is cut back into its key and value. -/
theorem split_key_value (key : String) (value : Bytes) (plain : byte '=' ∉ ascii key) :
    splitFirst (byte '=') (keyValue key value) = some (ascii key, value) :=
  (split_first_iff _ _ _ _).mpr ⟨rfl, plain⟩

/-- The line of a present field is read where every such line is; none is read where
the field is absent. -/
theorem read_optional_lines {σ α : Type} (read : σ → Bytes → Option σ) (state : σ)
    (value : Option α) (text : α → Bytes) (next : Option α → σ) (kept : next none = state)
    (taken : ∀ content, read state (text content) = some (next (some content))) :
    (value.toList.map text).foldlM read state = some (next value) := by
  cases value with
  | none => simp [kept]
  | some content => simp [taken]

section Peer

variable (inet : Inet)

/-- One line of a peer section, from its text. -/
def readPeerText (peer : PeerConfig) (text : Bytes) : Option PeerConfig :=
  (splitFirst (byte '=') text).bind (fun parts => readPeerLine inet peer parts.1 parts.2)

/-- The lines that follow a `public_key` line do not open a section. -/
def SectionLine (text : Bytes) : Prop :=
  ∃ key value, splitFirst (byte '=') text = some (key, value) ∧ key ≠ ascii "public_key"

/-- Lines of a section change its peer and nothing else. -/
theorem read_section (cfg : Config) (front : List PeerConfig) (texts : List Bytes)
    (peer : PeerConfig) (inside : ∀ text ∈ texts, SectionLine text) :
    texts.foldlM (readLine inet) { cfg with peers := front ++ [peer] } =
      (texts.foldlM (readPeerText inet) peer).map (fun read =>
        { cfg with peers := front ++ [read] }) := by
  induction texts generalizing peer with
  | nil => rfl
  | cons text rest inductionHypothesis =>
    obtain ⟨key, value, cut, other⟩ := inside text (by simp)
    have tail := fun next => inductionHypothesis next (fun later member =>
      inside later (by simp [member]))
    simp only [List.foldlM_cons, readLine, readPeerText, cut, other, ↓reduceIte,
      List.reverse_append, List.reverse_cons, List.reverse_nil, List.nil_append,
      List.singleton_append, Option.bind_some, List.reverse_reverse]
    cases readPeerLine inet peer key value with
    | none => rfl
    | some next => exact tail next

/-- The line of a flag sets it; no line leaves it. -/
theorem read_flag_lines (peer : PeerConfig) (flag : Bool) :
    (flagLine flag "remove").foldlM (readPeerText inet) peer =
        some { peer with remove := flag || peer.remove } ∧
      (flagLine flag "update_only").foldlM (readPeerText inet) peer =
        some { peer with updateOnly := flag || peer.updateOnly } ∧
      (flagLine flag "replace_allowed_ips").foldlM (readPeerText inet) peer =
        some { peer with replaceAllowedIPs := flag || peer.replaceAllowedIPs } := by
  cases flag
  · exact ⟨rfl, rfl, rfl⟩
  · refine ⟨?_, ?_, ?_⟩
    all_goals
      simp only [flagLine, ↓reduceIte, List.foldlM_cons, List.foldlM_nil, readPeerText]
      rw [split_key_value _ _ (by decide)]
      rfl

/-- A line with a known key is read by its key. -/
theorem read_peer_text (peer : PeerConfig) (key : String) (value : Bytes)
    (plain : byte '=' ∉ ascii key) :
    readPeerText inet peer (keyValue key value) = readPeerLine inet peer (ascii key) value := by
  simp only [readPeerText, split_key_value key value plain, Option.bind_some]

/-- The line of a present preshared key sets it. -/
theorem read_preshared_lines (peer : PeerConfig) (psk : Option Key) :
    (psk.toList.map (fun key => keyValue "preshared_key" (keyToHex key))).foldlM
        (readPeerText inet) peer =
      some { peer with presharedKey := psk <|> peer.presharedKey } := by
  apply read_optional_lines (readPeerText inet) peer psk _
    (fun psk => { peer with presharedKey := psk <|> peer.presharedKey }) rfl
  intro key
  rw [read_peer_text inet _ _ _ (by decide)]
  change (keyFromHex (keyToHex key)).toOption.map _ = _
  rw [key_from_hex_key_to_hex]
  rfl

/-- The line of an accepted endpoint text keeps the text. -/
theorem read_endpoint_lines (peer : PeerConfig) (endpoint : Option Bytes)
    (accepted : ∀ text, endpoint = some text → ∃ address, parseEndpoint inet text = .ok address) :
    (endpoint.toList.map (keyValue "endpoint")).foldlM (readPeerText inet) peer =
      some { peer with endpoint := endpoint <|> peer.endpoint } := by
  cases endpoint with
  | none => rfl
  | some text =>
    obtain ⟨address, parsed⟩ := accepted text rfl
    simp only [Option.toList_some, List.map_cons, List.map_nil, List.foldlM_cons, List.foldlM_nil]
    rw [read_peer_text inet _ _ _ (by decide)]
    change ((parseEndpoint inet text).toOption.map _).bind _ = _
    rw [parsed]
    rfl

/-- The line of a present interval sets it. -/
theorem read_interval_lines (peer : PeerConfig) (interval : Option UInt16) :
    (interval.toList.map (fun value =>
        keyValue "persistent_keepalive_interval" (decimal value.toNat))).foldlM
        (readPeerText inet) peer =
      some { peer with
        persistentKeepaliveInterval := interval <|> peer.persistentKeepaliveInterval } := by
  apply read_optional_lines (readPeerText inet) peer interval _
    (fun interval => { peer with
      persistentKeepaliveInterval := interval <|> peer.persistentKeepaliveInterval }) rfl
  intro value
  have bound := value.toNat_lt
  rw [read_peer_text inet _ _ _ (by decide)]
  change (readUnsigned 65535 (decimal value.toNat)).map _ = _
  rw [read_unsigned_decimal _ _ (by omega), Option.map_some, UInt16.ofNat_toNat]
  rfl

/-- The lines of readable addresses append them, in order. -/
theorem read_address_lines (peer : PeerConfig) (aips : List AllowedIP)
    (readable : ∀ aip ∈ aips, Readable inet aip) :
    (aips.map (fun aip => keyValue "allowed_ip" (formatCIDR aip))).foldlM (readPeerText inet) peer =
      some { peer with allowedIPs := peer.allowedIPs ++ aips } := by
  induction aips generalizing peer with
  | nil => simp
  | cons aip rest inductionHypothesis =>
    have read : readPeerLine inet peer (ascii "allowed_ip") (formatCIDR aip) =
        (parseCIDR inet (formatCIDR aip)).toOption.map (fun read =>
          { peer with allowedIPs := peer.allowedIPs ++ [read] }) := rfl
    have first : readPeerText inet peer (keyValue "allowed_ip" (formatCIDR aip)) =
        some { peer with allowedIPs := peer.allowedIPs ++ [aip] } := by
      rw [readPeerText, split_key_value _ _ (by decide), Option.bind_some, read,
        parse_format_cidr inet aip (readable aip (by simp))]
      rfl
    simp only [List.map_cons, List.foldlM_cons, first, Option.bind_eq_bind, Option.bind_some]
    rw [inductionHypothesis _ (fun other member => readable other (by simp [member]))]
    simp

/-- What the reader accepts of a peer: its endpoint parses and its addresses are
readable. -/
structure PeerReadable (peer : PeerConfig) : Prop where
  endpoint : ∀ text, peer.endpoint = some text → ∃ address, parseEndpoint inet text = .ok address
  allowedIPs : ∀ aip ∈ peer.allowedIPs, Readable inet aip

/-- The body of a section, read from a fresh peer, gives the peer. -/
theorem read_peer_body (peer : PeerConfig) (readable : PeerReadable inet peer) :
    (peerBodyLines peer).foldlM (readPeerText inet) { publicKey := peer.publicKey } = some peer := by
  simp only [peerBodyLines, List.foldlM_append, (read_flag_lines inet _ _).1,
    (read_flag_lines inet _ _).2.1, (read_flag_lines inet _ _).2.2, read_preshared_lines,
    read_endpoint_lines inet _ _ readable.endpoint, read_interval_lines,
    read_address_lines inet _ _ readable.allowedIPs, Option.bind_eq_bind, Option.bind_some]
  simp

/-- No body line opens a section. Their keys all differ from the one of a public key, by
computation. -/
theorem peer_body_section_lines (peer : PeerConfig) :
    ∀ text ∈ peerBodyLines peer, SectionLine text := by
  have line (key : String) (value : Bytes) (plain : byte '=' ∉ ascii key)
      (other : ascii key ≠ ascii "public_key") : SectionLine (keyValue key value) :=
    ⟨_, _, split_key_value key value plain, other⟩
  have flag (set : Bool) (key : String) (plain : byte '=' ∉ ascii key)
      (other : ascii key ≠ ascii "public_key") : ∀ text ∈ flagLine set key, SectionLine text := by
    intro text member
    cases set with
    | false => simp [flagLine] at member
    | true =>
      obtain rfl : text = keyValue key (ascii "true") := by simpa [flagLine] using member
      exact line key _ plain other
  intro text member
  simp only [peerBodyLines, List.mem_append, List.mem_map] at member
  rcases member with ((((((inRemove | inUpdate) | ⟨_, _, rfl⟩) | ⟨_, _, rfl⟩) | ⟨_, _, rfl⟩) |
    inReplace) | ⟨_, _, rfl⟩)
  · exact flag _ _ (by decide) (by decide) text inRemove
  · exact flag _ _ (by decide) (by decide) text inUpdate
  · exact line _ _ (by decide) (by decide)
  · exact line _ _ (by decide) (by decide)
  · exact line _ _ (by decide) (by decide)
  · exact flag _ _ (by decide) (by decide) text inReplace
  · exact line _ _ (by decide) (by decide)

/-- The lines of a readable peer append it. -/
theorem read_peer_lines (cfg : Config) (peer : PeerConfig) (readable : PeerReadable inet peer) :
    (peerLines peer).foldlM (readLine inet) cfg =
      some { cfg with peers := cfg.peers ++ [peer] } := by
  have opened : readLine inet cfg (keyValue "public_key" (keyToHex peer.publicKey)) =
      some { cfg with peers := cfg.peers ++ [{ publicKey := peer.publicKey }] } := by
    simp only [readLine, split_key_value "public_key" _ (by decide), ↓reduceIte,
      key_from_hex_key_to_hex]
    rfl
  simp only [peerLines, List.foldlM_cons, opened, Option.bind_eq_bind, Option.bind_some]
  rw [read_section inet cfg cfg.peers _ _ (peer_body_section_lines peer),
    read_peer_body inet peer readable, Option.map_some]

/-- The lines of all peers append them, in order. -/
theorem read_peers_lines (cfg : Config) (peers : List PeerConfig)
    (readable : ∀ peer ∈ peers, PeerReadable inet peer) :
    (peers.flatMap peerLines).foldlM (readLine inet) cfg =
      some { cfg with peers := cfg.peers ++ peers } := by
  induction peers generalizing cfg with
  | nil => simp
  | cons peer rest inductionHypothesis =>
    rw [List.flatMap_cons, List.foldlM_append, read_peer_lines inet cfg peer (readable peer (by simp)),
      Option.bind_eq_bind, Option.bind_some,
      inductionHypothesis _ (fun other member => readable other (by simp [member]))]
    simp

/-- A line before the first section sets a device field. -/
theorem read_device_text (state : Config) (key : String) (value : Bytes)
    (noPeers : state.peers = []) (plain : byte '=' ∉ ascii key)
    (other : ascii key ≠ ascii "public_key") :
    readLine inet state (keyValue key value) = readDeviceLine state (ascii key) value := by
  simp only [readLine, split_key_value key value plain, other, ↓reduceIte, noPeers,
    List.reverse_nil]

/-- The device lines, read first, give the device fields. They stop where the first section
begins; each optional field is read from its line where there is one. -/
theorem read_device_lines (cfg : Config) :
    (deviceLines cfg).foldlM (readLine inet) {} = some { cfg with peers := [] } := by
  have privateKeys := read_optional_lines (readLine inet) {} cfg.privateKey
    (fun key => keyValue "private_key" (keyToHex key)) (fun privateKey => { privateKey }) rfl (by
      intro key
      rw [read_device_text inet _ _ _ rfl (by decide) (by decide)]
      change (keyFromHex (keyToHex key)).toOption.map _ = _
      rw [key_from_hex_key_to_hex]
      rfl)
  have ports (privateKey : Option Key) := read_optional_lines (readLine inet) { privateKey }
    cfg.listenPort (fun port => keyValue "listen_port" (decimal port.toNat))
    (fun listenPort => { privateKey, listenPort }) rfl (by
      intro port
      have bound := port.toNat_lt
      rw [read_device_text inet _ _ _ rfl (by decide) (by decide)]
      change (readUnsigned 65535 (decimal port.toNat)).map _ = _
      rw [read_unsigned_decimal _ _ (by omega), Option.map_some, UInt16.ofNat_toNat])
  have marks (privateKey : Option Key) (listenPort : Option UInt16) :=
    read_optional_lines (readLine inet) { privateKey, listenPort }
    cfg.firewallMark (fun mark => keyValue "fwmark" (decimal mark.toNat))
    (fun firewallMark => { privateKey, listenPort, firewallMark }) rfl (by
      intro mark
      have bound := mark.toNat_lt
      rw [read_device_text inet _ _ _ rfl (by decide) (by decide)]
      change (readUnsigned 4294967295 (decimal mark.toNat)).map _ = _
      rw [read_unsigned_decimal _ _ (by omega), Option.map_some, UInt32.ofNat_toNat])
  have flags (state : Config) (noPeers : state.peers = []) :
      (flagLine cfg.replacePeers "replace_peers").foldlM (readLine inet) state =
        some { state with replacePeers := cfg.replacePeers || state.replacePeers } := by
    cases cfg.replacePeers with
    | false => rfl
    | true =>
      simp only [flagLine, ↓reduceIte, List.foldlM_cons, List.foldlM_nil]
      rw [read_device_text inet _ _ _ noPeers (by decide) (by decide)]
      rfl
  simp only [deviceLines, List.foldlM_append, privateKeys, ports, marks, Option.bind_eq_bind,
    Option.bind_some]
  rw [flags _ rfl, Bool.or_false]

/-- What the reader accepts of a configuration. -/
def ConfigReadable (cfg : Config) : Prop := ∀ peer ∈ cfg.peers, PeerReadable inet peer

/-- No line of a key and a value is empty. -/
theorem key_value_nonempty (key : String) (value : Bytes) : keyValue key value ≠ [] := by
  simp [keyValue]

/-- Every intended line but the last is a key and a value. The last one is empty and ends the
request. -/
theorem intended_body_nonempty (cfg : Config) :
    ∀ text ∈ deviceLines cfg ++ cfg.peers.flatMap peerLines, text ≠ [] := by
  have flag (set : Bool) (key : String) : ∀ text ∈ flagLine set key, text ≠ [] := by
    cases set <;> simp [flagLine, key_value_nonempty]
  intro text member
  simp only [deviceLines, peerLines, peerBodyLines, List.mem_append, List.mem_map,
    List.mem_flatMap, List.mem_cons] at member
  rcases member with ((((⟨_, _, rfl⟩ | ⟨_, _, rfl⟩) | ⟨_, _, rfl⟩) | inFlag) | ⟨peer, _, inPeer⟩)
  · exact key_value_nonempty _ _
  · exact key_value_nonempty _ _
  · exact key_value_nonempty _ _
  · exact flag _ _ text inFlag
  · rcases inPeer with rfl | ((((((inFlag | inFlag) | ⟨_, _, rfl⟩) | ⟨_, _, rfl⟩) | ⟨_, _, rfl⟩) |
      inFlag) | ⟨_, _, rfl⟩)
    · exact key_value_nonempty _ _
    · exact flag _ _ text inFlag
    · exact flag _ _ text inFlag
    · exact key_value_nonempty _ _
    · exact key_value_nonempty _ _
    · exact key_value_nonempty _ _
    · exact flag _ _ text inFlag
    · exact key_value_nonempty _ _

/-- A text whose lines are the intended ones is read as the configuration. -/
theorem read_set_request_intended (cfg : Config) (readable : ConfigReadable inet cfg)
    (request : Bytes) (split : lines lineFeed request = intendedLines cfg) :
    readSetRequest inet request = some cfg := by
  let body := deviceLines cfg ++ cfg.peers.flatMap peerLines
  have full : ∀ text ∈ body, (decide (text ≠ [])) = true := fun text member =>
    decide_eq_true (intended_body_nonempty cfg text member)
  have taken : (body ++ [[]]).takeWhile (· ≠ []) = body := by
    rw [List.takeWhile_append_of_pos full]
    simp
  have shape : lines lineFeed request = keyValue "set" (ascii "1") :: (body ++ [[]]) := by
    rw [split]
    simp [intendedLines, body]
  have read : body.foldlM (readLine inet) {} = some cfg := by
    simp only [body, List.foldlM_append, read_device_lines, Option.bind_eq_bind, Option.bind_some]
    rw [read_peers_lines inet _ _ readable]
    rfl
  simp only [readSetRequest, shape, taken, and_self, ↓reduceIte, read]

end Peer
end NodeWireguard.SetReading
