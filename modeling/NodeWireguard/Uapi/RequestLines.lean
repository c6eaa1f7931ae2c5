import Mathlib
import NodeWireguard.Client.ConfigFromJs
import NodeWireguard.Netlink.AddressForms
import NodeWireguard.Uapi.SetReading

/-!
# The lines of a request built from a JavaScript object

A request is split again at its line feeds. Keys, numbers and masks are rendered from
decoded values and contain none, so the lines come back as intended exactly when the
texts that are copied into the request contain none either: the endpoint texts, and the
part of each `allowedIPs` text before its first slash.

The validators do not rule a line feed out. `inet_pton` stops at a zero octet and
`std::stoi` skips white space, so an accepted endpoint can carry one past the address
or before the port.
-/

namespace NodeWireguard.RequestLines

open ByteText DecimalText Key AddressText AddressForms JsValues ConfigFromJs SetRequest SetReading

/-- The part of a CIDR text that is copied into a request. -/
def addressPart (cidr : Bytes) : Bytes := cidr.takeWhile (· ≠ byte '/')

/-- The texts of a peer object that are copied into a request. -/
def copiedTexts (peer : JsValue) : List Bytes :=
  (asString (peer.get "endpoint")).toList
    ++ (((asArray (peer.get "allowedIPs")).getD []).filterMap asString).map addressPart

/-- No copied text of any peer has a line feed. -/
def NewlineFree (config : JsValue) : Prop :=
  ∀ peer ∈ (asArray (config.get "peers")).getD [], ∀ text ∈ copiedTexts peer, lineFeed ∉ text

/-- The texts of a peer record that are copied into a request. -/
def emittedTexts (peer : PeerConfig) : List Bytes :=
  peer.endpoint.toList ++ peer.allowedIPs.map AllowedIP.ip

/-- The copied part of an accepted CIDR text is the address of its record. -/
theorem address_part_parsed (inet : Inet) (cidr : Bytes) (aip : AllowedIP)
    (accepted : parseCIDR inet cidr = .ok aip) : addressPart cidr = aip.ip := by
  obtain ⟨readable, maskStr, rfl⟩ := parse_cidr_readable inet cidr aip accepted
  have clean : ∀ octet ∈ aip.ip, decide (octet ≠ byte '/') = true := by
    intro octet member
    simp only [ne_eq, decide_eq_true_eq]
    rintro rfl
    exact readable.slashFree member
  rw [addressPart, List.takeWhile_append_of_pos clean]
  simp

/-- A record's texts are those of the object it was read from. -/
theorem emitted_texts_read (inet : Inet) (peer : JsValue) (pc : PeerConfig)
    (reads : ReadsPeer inet peer pc) : emittedTexts pc = copiedTexts peer := by
  have addresses (items : List JsValue) (aips : List AllowedIP)
      (read : List.Forall₂ (fun item aip => allowedIPFromJs inet item = .ok aip) items aips) :
      aips.map AllowedIP.ip = (items.filterMap asString).map addressPart := by
    induction read with
    | nil => rfl
    | cons first rest inductionHypothesis =>
      rename_i item aip items aips
      cases text : asString item with
      | none => simp [allowedIPFromJs, text] at first
      | some cidr =>
        have parsed : parseCIDR inet cidr = .ok aip := by simpa [allowedIPFromJs, text] using first
        rw [List.filterMap_cons_some text, List.map_cons, List.map_cons,
          address_part_parsed inet cidr aip parsed, inductionHypothesis]
  rw [emittedTexts, copiedTexts, reads.endpoint, addresses _ _ reads.allowedIPs]

/-- The object is free of line feeds exactly when the record read from it is. -/
theorem newline_free_read (inet : Inet) (config : JsValue) (cfg : Config)
    (read : configFromJs inet config = .ok cfg) :
    NewlineFree config ↔ ∀ peer ∈ cfg.peers, ∀ text ∈ emittedTexts peer, lineFeed ∉ text := by
  have peers (items : List JsValue) (records : List PeerConfig)
      (each : List.Forall₂ (fun item pc => item.isObject = true ∧ ReadsPeer inet item pc)
        items records) : items.map copiedTexts = records.map emittedTexts := by
    induction each with
    | nil => rfl
    | cons first rest inductionHypothesis =>
      rw [List.map_cons, List.map_cons, emitted_texts_read inet _ _ first.2, inductionHypothesis]
  have same := peers _ _ ((config_from_js_iff inet config cfg).mp read).peers
  have overTexts {α : Type} (items : List α) (texts : α → List Bytes) :
      (∀ item ∈ items, ∀ text ∈ texts item, lineFeed ∉ text) ↔
        ∀ list ∈ items.map texts, ∀ text ∈ list, lineFeed ∉ text := by
    simp
  rw [NewlineFree, overTexts, same, ← overTexts]

/-- A record read from an object is readable as soon as its endpoints parse. -/
theorem config_readable (inet : Inet) (config : JsValue) (cfg : Config)
    (read : configFromJs inet config = .ok cfg) (parse : EndpointsParse inet cfg) :
    ConfigReadable inet cfg :=
  fun peer member => ⟨parse peer member, config_addresses_readable inet config cfg read peer member⟩

/-- A line is clean when its value is, for a key that is. -/
theorem key_value_clean (key : String) (value : Bytes) (plain : lineFeed ∉ ascii key) :
    lineFeed ∉ keyValue key value ↔ lineFeed ∉ value := by
  have equals : lineFeed ≠ byte '=' := by decide
  simp [keyValue, plain, equals]

/-- Lines with a key rendered in hexadecimal are clean. -/
theorem hex_line_clean (name : String) (key : Key) (plain : lineFeed ∉ ascii name) :
    lineFeed ∉ keyValue name (keyToHex key) := by
  rw [key_value_clean name _ plain]
  intro member
  exact absurd (key_to_hex_digits key _ member) (by decide)

/-- So are lines with a number. -/
theorem number_line_clean (name : String) (value : Nat) (plain : lineFeed ∉ ascii name) :
    lineFeed ∉ keyValue name (decimal value) :=
  (key_value_clean name _ plain).mpr (decimal_lacks _ _ (by decide))

/-- Flags are clean. -/
theorem flag_clean (flag : Bool) (key : String) (plain : lineFeed ∉ ascii key) :
    ∀ line ∈ flagLine flag key, lineFeed ∉ line := by
  have value : lineFeed ∉ ascii "true" := by decide
  cases flag <;> simp [flagLine, key_value_clean key _ plain, value]

/-- The lines of a peer are clean exactly when its emitted texts are. Keys, flags and numbers are
written without line feeds, so only the texts that are copied can have one. -/
theorem peer_lines_clean (peer : PeerConfig) :
    (∀ line ∈ peerLines peer, lineFeed ∉ line) ↔ ∀ text ∈ emittedTexts peer, lineFeed ∉ text := by
  have address (aip : AllowedIP) :
      lineFeed ∉ keyValue "allowed_ip" (formatCIDR aip) ↔ lineFeed ∉ aip.ip := by
    have slash : lineFeed ≠ byte '/' := by decide
    have digits : lineFeed ∉ decimal aip.cidr.toNat := decimal_lacks _ _ (by decide)
    rw [key_value_clean _ _ (by decide)]
    simp [formatCIDR, slash, digits]
  constructor
  · intro clean text member
    rcases List.mem_append.mp member with isEndpoint | isAddress
    · have listed : keyValue "endpoint" text ∈ peerLines peer := by
        simp only [peerLines, peerBodyLines, List.mem_cons, List.mem_append, List.mem_map]
        exact .inr (.inl (.inl (.inl (.inr ⟨text, isEndpoint, rfl⟩))))
      exact (key_value_clean _ _ (by decide)).mp (clean _ listed)
    · obtain ⟨aip, inList, rfl⟩ := List.mem_map.mp isAddress
      have listed : keyValue "allowed_ip" (formatCIDR aip) ∈ peerLines peer := by
        simp only [peerLines, peerBodyLines, List.mem_cons, List.mem_append, List.mem_map]
        exact .inr (.inr ⟨aip, inList, rfl⟩)
      exact (address aip).mp (clean _ listed)
  · intro clean line member
    simp only [peerLines, peerBodyLines, List.mem_cons, List.mem_append, List.mem_map] at member
    rcases member with rfl | ((((((inFlag | inFlag) | ⟨psk, _, rfl⟩) | ⟨text, given, rfl⟩) |
      ⟨interval, _, rfl⟩) | inFlag) | ⟨aip, listed, rfl⟩)
    · exact hex_line_clean _ _ (by decide)
    · exact flag_clean _ _ (by decide) line inFlag
    · exact flag_clean _ _ (by decide) line inFlag
    · exact hex_line_clean _ _ (by decide)
    · exact (key_value_clean _ _ (by decide)).mpr (clean text (by simp [emittedTexts, given]))
    · exact number_line_clean _ _ (by decide)
    · exact flag_clean _ _ (by decide) line inFlag
    · exact (address aip).mpr (clean aip.ip (List.mem_append.mpr (.inr (List.mem_map.mpr
        ⟨aip, listed, rfl⟩))))

/-- The intended lines are clean exactly when the emitted texts of all peers are. The lines of
the device are clean anyway. -/
theorem intended_lines_clean (cfg : Config) :
    (∀ line ∈ intendedLines cfg, lineFeed ∉ line) ↔
      ∀ peer ∈ cfg.peers, ∀ text ∈ emittedTexts peer, lineFeed ∉ text := by
  constructor
  · intro clean peer member
    apply (peer_lines_clean peer).mp
    intro line listed
    apply clean line
    simp only [intendedLines, List.mem_append, List.mem_flatMap]
    exact .inl (.inr ⟨peer, member, listed⟩)
  · intro clean line member
    simp only [intendedLines, deviceLines, List.mem_cons, List.mem_append, List.mem_map,
      List.mem_flatMap, List.cons_append] at member
    rcases member with rfl | ((((⟨key, _, rfl⟩ | ⟨port, _, rfl⟩) | ⟨mark, _, rfl⟩) | inFlag) |
      ⟨peer, listed, inPeer⟩) | rfl | impossible
    · decide
    · exact hex_line_clean _ _ (by decide)
    · exact number_line_clean _ _ (by decide)
    · exact number_line_clean _ _ (by decide)
    · exact flag_clean _ _ (by decide) line inFlag
    · exact (peer_lines_clean peer).mpr (clean peer listed) line inPeer
    · simp
    · cases impossible

/-- A request built from a JavaScript object has exactly the intended lines, and reads
back as the configuration, if and only if no copied text has a line feed.

Proof: the request is the intended lines with terminators. Splitting at line feeds gives the
lines back exactly when none has one inside; the lines are then read one by one, each key and
each section by its own lemma. A line feed can only come from a copied text, since everything
else that is written is hexadecimal, decimal or a literal. -/
theorem set_request_lines_iff (inet : Inet) (config : JsValue) (cfg : Config) (request : Bytes)
    (read : configFromJs inet config = .ok cfg) (built : buildSetRequest inet cfg = .ok request) :
    (lines lineFeed request = intendedLines cfg ∧ readSetRequest inet request = some cfg) ↔
      NewlineFree config := by
  obtain ⟨parse, rfl⟩ := (build_set_request_ok_iff inet cfg request).mp built
  rw [newline_free_read inet config cfg read, ← intended_lines_clean]
  constructor
  · rintro ⟨split, -⟩
    rw [← split]
    exact lines_unmarked lineFeed _
  · intro clean
    have split : lines lineFeed (terminated (intendedLines cfg)) = intendedLines cfg :=
      lines_terminated lineFeed _ clean
    exact ⟨split, read_set_request_intended inet cfg (config_readable inet config cfg read parse)
      _ split⟩

/-- One peer with the zero key, an endpoint and one allowed address. -/
def onePeer (endpoint : Bytes) : JsValue :=
  .object [("peers", .array [.object [("publicKey", .string (keyToBase64 zeroKey)),
    ("endpoint", .string endpoint), ("allowedIPs", .array [.string (ascii "10.0.0.2/32")])]])]

/-- The record that object is read to. -/
def onePeerRecord (endpoint : Bytes) : Config :=
  { peers := [{ publicKey := zeroKey, endpoint := some endpoint,
                allowedIPs := [⟨ascii "10.0.0.2", AF_INET, 32⟩] }] }

/-- The object with one peer is read to the record with it. -/
theorem one_peer_read (endpoint : Bytes) :
    configFromJs plainInet (onePeer endpoint) = .ok (onePeerRecord endpoint) := by
  have address : parseCIDR plainInet (ascii "10.0.0.2/32") = .ok ⟨ascii "10.0.0.2", AF_INET, 32⟩ := by
    decide
  apply (config_from_js_iff _ _ _).mpr
  refine ⟨.none, .none, .none, rfl, .cons ⟨rfl, ?_⟩ .nil⟩
  exact ⟨⟨_, rfl, key_from_base64_key_to_base64 zeroKey⟩, rfl, rfl, .none, rfl, .none, rfl,
    .cons address .nil⟩

/-- Its request has the intended lines where the endpoint is accepted. -/
theorem one_peer_built (endpoint : Bytes)
    (accepted : ∃ address, parseEndpoint plainInet endpoint = .ok address) :
    buildSetRequest plainInet (onePeerRecord endpoint) =
      .ok (terminated (intendedLines (onePeerRecord endpoint))) := by
  apply (build_set_request_ok_iff _ _ _).mpr
  refine ⟨?_, rfl⟩
  simpa [EndpointsParse, onePeerRecord] using accepted

/-- A plain endpoint text gives the intended request. -/
theorem plain_request_lines :
    lines lineFeed (terminated (intendedLines (onePeerRecord (ascii "127.0.0.1:51820")))) =
        intendedLines (onePeerRecord (ascii "127.0.0.1:51820")) ∧
      readSetRequest plainInet
          (terminated (intendedLines (onePeerRecord (ascii "127.0.0.1:51820")))) =
        some (onePeerRecord (ascii "127.0.0.1:51820")) := by
  have parsed : parseEndpoint plainInet (ascii "127.0.0.1:51820") =
      .ok (.in4 51820 ⟨[127, 0, 0, 1], rfl⟩) := by decide
  apply (set_request_lines_iff plainInet (onePeer (ascii "127.0.0.1:51820")) _ _ (one_peer_read _)
    (one_peer_built _ ⟨_, parsed⟩)).mpr
  apply (newline_free_read plainInet _ _ (one_peer_read _)).mpr
  decide

/-- The zero octet ends the address for `inet_pton`; the text after it is copied too. -/
def injectingEndpoint : Bytes :=
  ascii "127.0.0.1" ++ 0 :: ascii "\nremove=true\nendpoint=127.0.0.1:51820"

/-- An accepted endpoint can add a line that removes the peer. -/
theorem injected_request_lines :
    ∃ cfg request, configFromJs plainInet (onePeer injectingEndpoint) = .ok cfg ∧
      buildSetRequest plainInet cfg = .ok request ∧
      ascii "remove=true" ∈ lines lineFeed request ∧ ascii "remove=true" ∉ intendedLines cfg ∧
      lines lineFeed request ≠ intendedLines cfg ∧ readSetRequest plainInet request ≠ some cfg := by
  have parsed : parseEndpoint plainInet injectingEndpoint =
      .ok (.in4 51820 ⟨[127, 0, 0, 1], rfl⟩) := by decide
  refine ⟨_, _, one_peer_read _, one_peer_built _ ⟨_, parsed⟩, ?_, ?_, ?_, ?_⟩
  all_goals decide +kernel

end NodeWireguard.RequestLines
