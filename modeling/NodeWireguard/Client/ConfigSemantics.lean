import Mathlib
import NodeWireguard.Client.ConfigFromJs
import NodeWireguard.Client.DeviceToJs
import NodeWireguard.Netlink.AddressForms
import NodeWireguard.Netlink.DeviceDump

/-!
# What a documented configuration object means

`Config.ts` and `PeerConfig.ts` document the configuration object: `undefined` leaves a
setting unchanged, a present value is applied, and the empty string stands for the
all-zero key that clears one. The relation here is that documentation, stated apart from
the reader.

The reader agrees with it on every object whose key fields are base64 keys. It refuses
the empty string, so a device that is read and written back is accepted exactly when
none of its keys is shown as unset.
-/

namespace NodeWireguard.ConfigSemantics

open ByteText DecimalText Key AddressText AddressForms JsValues ConfigFromJs DeviceToJs
  DeviceSettings DeviceDump Fallible

/-- A present key: the empty string is the all-zero key, any other text is base64. -/
def KeyText (text : Bytes) (key : Key) : Prop := (text = [] ∧ key = zeroKey) ∨ text = keyToBase64 key

/-- An optional property of some documented type. A value of another type denotes nothing, not
even an absent field. -/
def OptionalDenotes {α : Type} (present : JsValue → α → Prop) (value : JsValue) (field : Option α) : Prop :=
  (value = .undefined ∧ field = none) ∨ ∃ content, field = some content ∧ present value content

/-- A key property. -/
def KeyDenotes (value : JsValue) (key : Key) : Prop := ∃ text, value = .string text ∧ KeyText text key

/-- A number property in range. It is finite, has no fraction and is within the bounds of its
field. -/
def NumberDenotes (value : JsValue) (limit number : Nat) : Prop :=
  value = .number (.finite number) ∧ number ≤ limit

/-- A Boolean property; a missing one is `false`. -/
def FlagDenotes (value : JsValue) (flag : Bool) : Prop :=
  (value = .undefined ∧ flag = false) ∨ value = .boolean flag

/-- A valid CIDR text: an address of its family, a slash, and a mask in decimal digits. -/
def RangeDenotes (inet : Inet) (value : JsValue) (aip : AllowedIP) : Prop :=
  Readable inet aip ∧ ∃ digits, digits ≠ [] ∧ (∀ octet ∈ digits, isDigit octet = true) ∧
    digitsValue digits = aip.cidr.toNat ∧ value = .string (aip.ip ++ byte '/' :: digits)

/-- An array property; a missing one has no elements. -/
def ListDenotes {α : Type} (element : JsValue → α → Prop) (value : JsValue) (list : List α) : Prop :=
  (value = .undefined ∧ list = []) ∨ ∃ items, value = .array items ∧ List.Forall₂ element items list

/-- A peer object of the documented types, and the record it stands for. -/
structure PeerDenotes (inet : Inet) (value : JsValue) (pc : PeerConfig) : Prop where
  isObject : ∃ props, value = .object props
  publicKey : KeyDenotes (value.get "publicKey") pc.publicKey
  remove : FlagDenotes (value.get "remove") pc.remove
  updateOnly : FlagDenotes (value.get "updateOnly") pc.updateOnly
  presharedKey : OptionalDenotes KeyDenotes (value.get "presharedKey") pc.presharedKey
  endpoint : OptionalDenotes (fun value text => value = .string text) (value.get "endpoint") pc.endpoint
  persistentKeepaliveInterval : OptionalDenotes
    (fun value (interval : UInt16) => NumberDenotes value 65535 interval.toNat)
    (value.get "persistentKeepaliveInterval") pc.persistentKeepaliveInterval
  replaceAllowedIPs : FlagDenotes (value.get "replaceAllowedIPs") pc.replaceAllowedIPs
  allowedIPs : ListDenotes (RangeDenotes inet) (value.get "allowedIPs") pc.allowedIPs

/-- A configuration object of the documented types, and the record it stands for. -/
structure Denotes (inet : Inet) (value : JsValue) (cfg : Config) : Prop where
  privateKey : OptionalDenotes KeyDenotes (value.get "privateKey") cfg.privateKey
  listenPort : OptionalDenotes (fun value (port : UInt16) => NumberDenotes value 65535 port.toNat)
    (value.get "listenPort") cfg.listenPort
  firewallMark : OptionalDenotes
    (fun value (mark : UInt32) => NumberDenotes value 4294967295 mark.toNat)
    (value.get "firewallMark") cfg.firewallMark
  replacePeers : FlagDenotes (value.get "replacePeers") cfg.replacePeers
  peers : ListDenotes (PeerDenotes inet) (value.get "peers") cfg.peers

/-- No key property of a configuration object is the empty string. -/
def NoEmptyKey (config : JsValue) : Prop :=
  config.get "privateKey" ≠ .string [] ∧
    ∀ peer ∈ (asArray (config.get "peers")).getD [],
      peer.get "publicKey" ≠ .string [] ∧ peer.get "presharedKey" ≠ .string []

/-- The empty text is not decoded to any key. -/
theorem key_from_empty (key : Key) : keyFromBase64 [] ≠ .ok key := by
  simp [keyFromBase64, invalidBase64]

/-- A key that is present and not empty is decoded to the documented one. -/
theorem read_key (value : JsValue) (key : Key) (denotes : KeyDenotes value key)
    (nonempty : value ≠ .string []) : ∃ text, value = .string text ∧ keyFromBase64 text = .ok key := by
  obtain ⟨text, rfl, empty | rfl⟩ := denotes
  · exact absurd (congrArg JsValue.string empty.1) nonempty
  · exact ⟨_, rfl, key_from_base64_key_to_base64 key⟩

/-- An optional key is absent exactly where it is `undefined`. -/
theorem read_optional_key (value : JsValue) (field : Option Key)
    (denotes : OptionalDenotes KeyDenotes value field) (nonempty : value ≠ .string []) :
    Option.Rel (fun text key => keyFromBase64 text = .ok key) (asString value) field := by
  rcases denotes with ⟨rfl, rfl⟩ | ⟨key, rfl, present⟩
  · exact .none
  · obtain ⟨text, rfl, decoded⟩ := read_key value key present nonempty
    exact .some decoded

/-- A property that denotes a number within 16 bits is read as that number. -/
theorem read_optional_uint16 (value : JsValue) (field : Option UInt16) (name : String)
    (denotes : OptionalDenotes (fun value (number : UInt16) => NumberDenotes value 65535 number.toNat)
      value field) :
    Option.Rel (fun number decoded => requireUint16 number name = .ok decoded) (asNumber value)
      field := by
  rcases denotes with ⟨rfl, rfl⟩ | ⟨number, rfl, rfl, -⟩
  · exact .none
  · exact .some (require_uint16_value number name)

/-- A property that denotes a number within 32 bits is read as that number. -/
theorem read_optional_uint32 (value : JsValue) (field : Option UInt32) (name : String)
    (denotes : OptionalDenotes
      (fun value (number : UInt32) => NumberDenotes value 4294967295 number.toNat) value field) :
    Option.Rel (fun number decoded => requireUint32 number name = .ok decoded) (asNumber value)
      field := by
  rcases denotes with ⟨rfl, rfl⟩ | ⟨number, rfl, rfl, -⟩
  · exact .none
  · exact .some (require_uint32_value number name)

/-- A property that denotes a flag is read as that flag. -/
theorem read_flag (value : JsValue) (flag : Bool) (denotes : FlagDenotes value flag) :
    flag = (asBoolean value).getD false := by
  rcases denotes with ⟨rfl, rfl⟩ | rfl <;> rfl

/-- A list is read element by element as soon as each element is. -/
theorem read_list {α : Type} (element : JsValue → α → Prop) (read : JsValue → α → Prop)
    (value : JsValue) (list : List α) (denotes : ListDenotes element value list)
    (each : ∀ item ∈ (asArray value).getD [], ∀ result, element item result → read item result) :
    List.Forall₂ read ((asArray value).getD []) list := by
  rcases denotes with ⟨rfl, rfl⟩ | ⟨items, rfl, related⟩
  · exact .nil
  · induction related with
    | nil => exact .nil
    | cons first rest inductionHypothesis =>
      exact .cons (each _ List.mem_cons_self _ first)
        (inductionHypothesis (fun item member => each item (List.mem_cons_of_mem _ member)))

/-- A valid CIDR text is read as its record. -/
theorem read_range (inet : Inet) (value : JsValue) (aip : AllowedIP)
    (denotes : RangeDenotes inet value aip) : allowedIPFromJs inet value = .ok aip := by
  obtain ⟨readable, digits, nonempty, all, known, rfl⟩ := denotes
  exact parse_cidr_digits inet aip readable digits nonempty all known

/-- A documented peer object without empty keys is read as its record. Each property denotes its
field, so each part of the reader returns it; only a key that is the empty text would be refused. -/
theorem read_peer_object (inet : Inet) (value : JsValue) (pc : PeerConfig)
    (denotes : PeerDenotes inet value pc)
    (nonempty : value.get "publicKey" ≠ .string [] ∧ value.get "presharedKey" ≠ .string []) :
    value.isObject = true ∧ ReadsPeer inet value pc := by
  obtain ⟨props, rfl⟩ := denotes.isObject
  refine ⟨rfl, ?_⟩
  exact {
    publicKey := read_key _ _ denotes.publicKey nonempty.1
    remove := read_flag _ _ denotes.remove
    updateOnly := read_flag _ _ denotes.updateOnly
    presharedKey := read_optional_key _ _ denotes.presharedKey nonempty.2
    endpoint := by
      rcases denotes.endpoint with ⟨missing, absent⟩ | ⟨text, given, present⟩
      · rw [missing, absent]
        rfl
      · rw [present, given]
        rfl
    persistentKeepaliveInterval := read_optional_uint16 _ _ _ denotes.persistentKeepaliveInterval
    replaceAllowedIPs := read_flag _ _ denotes.replaceAllowedIPs
    allowedIPs := read_list _ _ _ _ denotes.allowedIPs (fun item _ aip range =>
      read_range inet item aip range) }

/-- Whatever is read has no empty key. The decoder refuses the empty text, for the keys of the
device and of every peer. -/
theorem no_empty_key_of_read (inet : Inet) (config : JsValue) (cfg : Config)
    (read : configFromJs inet config = .ok cfg) : NoEmptyKey config := by
  have reads := (config_from_js_iff inet config cfg).mp read
  have psk (value : JsValue) (field : Option Key)
      (related : Option.Rel (fun text key => keyFromBase64 text = .ok key) (asString value) field) :
      value ≠ .string [] := by
    rintro rfl
    obtain ⟨decoded⟩ := related
    exact key_from_empty _ decoded
  refine ⟨psk _ _ reads.privateKey, ?_⟩
  intro peer member
  obtain ⟨index, inside, rfl⟩ := List.getElem_of_mem member
  have readsPeer := ((List.forall₂_iff_get.mp reads.peers).2 index inside (by
    rw [← (List.forall₂_iff_get.mp reads.peers).1]; exact inside)).2
  refine ⟨?_, psk _ _ readsPeer.presharedKey⟩
  obtain ⟨text, present, decoded⟩ := readsPeer.publicKey
  rintro empty
  obtain rfl : text = [] := by
    have same := present.symm.trans empty
    simpa using same
  exact key_from_empty _ decoded

/-- A documented object is read as the record it stands for exactly when no key is the
empty string. -/
theorem config_from_js_denotes_iff (inet : Inet) (config : JsValue) (cfg : Config)
    (denotes : Denotes inet config cfg) :
    configFromJs inet config = .ok cfg ↔ NoEmptyKey config := by
  refine ⟨no_empty_key_of_read inet config cfg, ?_⟩
  intro nonempty
  apply (config_from_js_iff inet config cfg).mpr
  exact {
    privateKey := read_optional_key _ _ denotes.privateKey nonempty.1
    listenPort := read_optional_uint16 _ _ _ denotes.listenPort
    firewallMark := read_optional_uint32 _ _ _ denotes.firewallMark
    replacePeers := read_flag _ _ denotes.replacePeers
    peers := read_list _ _ _ _ denotes.peers (fun item member pc peer =>
      read_peer_object inet item pc peer (nonempty.2 item member)) }

end NodeWireguard.ConfigSemantics
