import Mathlib
import NodeWireguard.Netlink.SetMessageContent
import NodeWireguard.Uapi.RequestLines

/-!
# The two write paths

`ApplyConfig` sends a configuration either as a netlink set message or as a text request
to a userspace daemon. The two encoders are compared at the settings they denote: the
attributes of the message walked by type, and the lines of the request read back to a
configuration whose texts are then parsed.

Both refuse the same configurations. For the rest they agree as long as the address texts
are those `ParseCIDR` keeps, no copied text has a line feed, and the peer list fits.
-/

namespace NodeWireguard.WritePaths

open ByteText AddressText AddressForms AttributeStream Key JsValues ConfigFromJs IfName SetRequest
  MessageBuffer SetReading RequestLines SetDeviceMessage SetMessageReading SetMessageContent DeviceSettings

variable (inet : Inet)

/-- What the lines of a request ask for. They are read back to a configuration first, and its
texts are parsed then. -/
def requestSettings (request : Bytes) : Option Settings :=
  (readSetRequest inet request).bind (settingsOf inet)

/-- A text without the zero octet and without white space. -/
def PlainText (text : Bytes) : Prop := ∀ c ∈ text, c ≠ 0 ∧ DecimalText.isSpace c = false

/-- The configurations the two paths are compared on: every address is one `ParseCIDR`
returned, the copied texts are plain, and the nested attributes fit. -/
structure Comparable (cfg : Config) : Prop where
  parsed : ∀ peer ∈ cfg.peers, ∀ aip ∈ peer.allowedIPs, ∃ cidr, parseCIDR inet cidr = .ok aip
  plain : ∀ peer ∈ cfg.peers, ∀ text ∈ emittedTexts peer, PlainText text
  fits : peersSize cfg ≤ 65535

/-- Something is thrown where nothing is returned. -/
theorem throws_iff {ε α : Type} (outcome : Except ε α) :
    (∃ failure, outcome = .error failure) ↔ ¬ ∃ result, outcome = .ok result := by
  cases outcome <;> simp

/-- The request is built exactly when the endpoints parse. -/
theorem build_set_request_succeeds_iff (cfg : Config) :
    (∃ request, buildSetRequest inet cfg = .ok request) ↔ EndpointsParse inet cfg := by
  simp [build_set_request_ok_iff]

/-- A comparable configuration is readable once its endpoints parse. -/
theorem comparable_addresses (cfg : Config) (comparable : Comparable inet cfg) :
    ∀ peer ∈ cfg.peers, ∀ aip ∈ peer.allowedIPs, Readable inet aip := by
  intro peer member aip listed
  obtain ⟨cidr, parsed⟩ := comparable.parsed peer member aip listed
  exact (parse_cidr_readable inet cidr aip parsed).1

/-- The request of a comparable configuration asks for what the configuration does. -/
theorem request_settings_eq (cfg : Config) (comparable : Comparable inet cfg) (request : Bytes)
    (built : buildSetRequest inet cfg = .ok request) :
    requestSettings inet request = settingsOf inet cfg := by
  obtain ⟨parse, rfl⟩ := (build_set_request_ok_iff inet cfg request).mp built
  have clean : ∀ line ∈ intendedLines cfg, lineFeed ∉ line := by
    apply (intended_lines_clean cfg).mpr
    intro peer member text listed inText
    exact absurd (comparable.plain peer member text listed lineFeed inText).2 (by decide)
  have readable : ConfigReadable inet cfg := fun peer member =>
    ⟨parse peer member, comparable_addresses inet cfg comparable peer member⟩
  have split : lines lineFeed (terminated (intendedLines cfg)) = intendedLines cfg :=
    lines_terminated lineFeed _ clean
  rw [requestSettings, read_set_request_intended inet cfg readable _ split, Option.bind_some]

/-- For an interface name that is in order both builders refuse the same configurations: each
throws exactly when the text of some endpoint does not parse. -/
theorem refused_alike (familyId : UInt16) (seq : UInt32) (ifname : Bytes) (cfg : Config)
    (valid : validateIfName ifname = .ok ()) :
    (∃ failure, buildSetDeviceMessage inet familyId seq ifname cfg = .error failure) ↔
      ∃ failure, buildSetRequest inet cfg = .error failure := by
  have name := (validate_if_name_iff ifname).mp valid
  rw [throws_iff, throws_iff, build_set_device_message_succeeds_iff,
    build_set_request_succeeds_iff, and_iff_right name]

/-- What the two builders make of one comparable configuration asks for the same settings:
the message is well formed and denotes those of the configuration, and so do the lines. -/
theorem requests_agree (familyId : UInt16) (seq : UInt32) (ifname : Bytes) (cfg : Config)
    (comparable : Comparable inet cfg) (b : MsgBuf) (request : Bytes)
    (message : buildSetDeviceMessage inet familyId seq ifname cfg = .ok b)
    (text : buildSetRequest inet cfg = .ok request) :
    ∃ settings, readDevice b.body = some (ifname, settings) ∧
      requestSettings inet request = some settings := by
  have wellFormed := (built_well_formed_iff inet familyId seq ifname cfg
    (comparable_addresses inet cfg comparable) b message).mpr comparable.fits
  obtain ⟨-, settings, denoted, read⟩ := wellFormed
  exact ⟨settings, read, (request_settings_eq inet cfg comparable request text).trans denoted⟩

/-- Both backends refuse the same comparable configurations, and what they send for the others
asks for the same settings.

Proof: each half is a comparison with the configuration itself. Both builders throw on its
endpoints only; the attributes of the message and the lines of the request are each read back to
the settings that the configuration denotes. -/
theorem write_paths_agree (familyId : UInt16) (seq : UInt32) (ifname : Bytes) (cfg : Config)
    (valid : validateIfName ifname = .ok ()) (comparable : Comparable inet cfg) :
    ((∃ failure, buildSetDeviceMessage inet familyId seq ifname cfg = .error failure) ↔
      ∃ failure, buildSetRequest inet cfg = .error failure) ∧
    ∀ b request, buildSetDeviceMessage inet familyId seq ifname cfg = .ok b →
      buildSetRequest inet cfg = .ok request →
      ∃ settings, readDevice b.body = some (ifname, settings) ∧
        requestSettings inet request = some settings := by
  refine ⟨refused_alike inet familyId seq ifname cfg valid, ?_⟩
  intro b request message text
  exact requests_agree inet familyId seq ifname cfg comparable b request message text

/-- Every configuration that `ConfigFromJs` returned is comparable once its texts are plain
and its peer list fits: its addresses are the ones `ParseCIDR` kept. -/
theorem read_comparable (obj : JsValue) (cfg : Config) (read : configFromJs inet obj = .ok cfg)
    (plain : ∀ peer ∈ cfg.peers, ∀ text ∈ emittedTexts peer, PlainText text)
    (fits : peersSize cfg ≤ 65535) : Comparable inet cfg :=
  ⟨config_addresses_parsed inet obj cfg read, plain, fits⟩

/-- The two paths agree on every object that `ConfigFromJs` accepts with plain texts and a
peer list that fits, whatever the program was given. -/
theorem read_paths_sent_alike (familyId : UInt16) (seq : UInt32) (ifname : Bytes)
    (obj : JsValue) (cfg : Config) (valid : validateIfName ifname = .ok ())
    (read : configFromJs inet obj = .ok cfg)
    (plain : ∀ peer ∈ cfg.peers, ∀ text ∈ emittedTexts peer, PlainText text)
    (fits : peersSize cfg ≤ 65535) :
    ((∃ failure, buildSetDeviceMessage inet familyId seq ifname cfg = .error failure) ↔
      ∃ failure, buildSetRequest inet cfg = .error failure) ∧
    ∀ b request, buildSetDeviceMessage inet familyId seq ifname cfg = .ok b →
      buildSetRequest inet cfg = .ok request →
      ∃ settings, readDevice b.body = some (ifname, settings) ∧
        requestSettings inet request = some settings := by
  have comparable := read_comparable inet obj cfg read plain fits
  refine ⟨refused_alike inet familyId seq ifname cfg valid, ?_⟩
  intro b request message text
  exact requests_agree inet familyId seq ifname cfg comparable b request message text

/-- One peer with an endpoint and one address range, on both paths. Both builders accept it, and
both requests ask for the one peer with its address. -/
theorem one_peer_paths_agree :
    ((∃ failure, buildSetDeviceMessage plainInet 30 1 (ascii "wg0")
          (onePeerRecord (ascii "127.0.0.1:51820")) = .error failure) ↔
      ∃ failure, buildSetRequest plainInet (onePeerRecord (ascii "127.0.0.1:51820")) =
        .error failure) ∧
    ∃ b request settings, buildSetDeviceMessage plainInet 30 1 (ascii "wg0")
        (onePeerRecord (ascii "127.0.0.1:51820")) = .ok b ∧
      buildSetRequest plainInet (onePeerRecord (ascii "127.0.0.1:51820")) = .ok request ∧
      readDevice b.body = some (ascii "wg0", settings) ∧
      requestSettings plainInet request = some settings := by
  have endpoint : parseEndpoint plainInet (ascii "127.0.0.1:51820") =
      .ok (.in4 51820 ⟨[127, 0, 0, 1], rfl⟩) := by decide
  have comparable : Comparable plainInet (onePeerRecord (ascii "127.0.0.1:51820")) := by
    refine ⟨?_, ?_, by decide⟩
    · have address : parseCIDR plainInet (ascii "10.0.0.2/32") =
          .ok ⟨ascii "10.0.0.2", AF_INET, 32⟩ := by decide
      intro peer member aip listed
      obtain rfl : peer = _ := List.mem_singleton.mp member
      obtain rfl : aip = _ := List.mem_singleton.mp listed
      exact ⟨_, address⟩
    · have endpointPlain : PlainText (ascii "127.0.0.1:51820") := by
        unfold PlainText
        decide +kernel
      have addressPlain : PlainText (ascii "10.0.0.2") := by
        unfold PlainText
        decide +kernel
      simp only [onePeerRecord, emittedTexts, forall_eq, Option.toList_some,
        List.map_cons, List.map_nil, List.cons_append, List.nil_append, List.mem_cons,
        List.not_mem_nil, or_false]
      rintro text (rfl | rfl)
      · exact endpointPlain
      · exact addressPlain
  obtain ⟨same, agree⟩ := write_paths_agree plainInet 30 1 (ascii "wg0")
    (onePeerRecord (ascii "127.0.0.1:51820")) (by decide) comparable
  have parse : EndpointsParse plainInet (onePeerRecord (ascii "127.0.0.1:51820")) := by
    simpa [EndpointsParse, onePeerRecord] using ⟨_, endpoint⟩
  obtain ⟨b, message⟩ := (build_set_device_message_succeeds_iff plainInet 30 1 (ascii "wg0") _).mpr
    ⟨(validate_if_name_iff _).mp (by decide), parse⟩
  obtain ⟨request, text⟩ := (build_set_request_succeeds_iff plainInet _).mpr parse
  obtain ⟨settings, read, asked⟩ := agree b request message text
  exact ⟨same, b, request, settings, message, text, read, asked⟩

end NodeWireguard.WritePaths
