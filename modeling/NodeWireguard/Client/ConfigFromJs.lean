import Mathlib
import NodeWireguard.Client.JsValues
import NodeWireguard.Crypto.Key
import NodeWireguard.Foundations.Fallible
import NodeWireguard.Foundations.RelatedLists
import NodeWireguard.Netlink.AddressText

/-!
# Configuration objects read from JavaScript

`ConfigFromJs` and `PeerConfigFromJs` of `WireGuardClient.cpp`. Each optional field is
read only when the object has it with the expected type; any other value leaves the
field absent. Keys, numbers and CIDR texts are decoded here and may throw; an endpoint
text is kept as it is.

The inversion theorems say exactly which records a successful read can produce, field
by field, so that later results never unfold the readers.
-/

namespace NodeWireguard.ConfigFromJs

open ByteText JsValues Key AddressText Fallible RelatedLists

/-- `v.IsString()` with `v.As<Napi::String>()`; likewise the three below. -/
def asString : JsValue → Option Bytes
  | .string utf8 => some utf8
  | _ => none

/-- `v.IsNumber()` with `v.As<Napi::Number>()`. -/
def asNumber : JsValue → Option JsNumber
  | .number value => some value
  | _ => none

/-- `v.IsBoolean()` with `v.As<Napi::Boolean>()`. -/
def asBoolean : JsValue → Option Bool
  | .boolean value => some value
  | _ => none

/-- `v.IsArray()` with `v.As<Napi::Array>()`. -/
def asArray : JsValue → Option (List JsValue)
  | .array items => some items
  | _ => none

section Guards

variable {α β : Type}

/-- `obj.Has(key) && obj.Get(key).IsX()`, with the value where the guard holds. -/
def guarded (obj : JsValue) (key : String) (as : JsValue → Option α) : Option α :=
  if obj.has key then as (obj.get key) else none

/-- The `Has` test is implied: `undefined` has none of the expected types. -/
theorem guarded_eq (obj : JsValue) (key : String) (as : JsValue → Option α)
    (typed : as .undefined = none) : guarded obj key as = as (obj.get key) := by
  by_cases present : obj.has key = true
  · simp [guarded, present]
  · have missing : obj.get key = .undefined := by
      by_contra defined
      exact present (has_of_get obj key defined)
    simp [guarded, present, missing, typed]

/-- A field that is decoded where its guard holds and otherwise stays absent. -/
def optionalField (value : Option α) (decode : α → Except Exception β) :
    Except Exception (Option β) :=
  match value with
  | some raw => do return some (← decode raw)
  | none => .ok none

/-- An optional field is read as absent from an absent value, and otherwise decoded. The relation
on options says both: there is a result exactly where there is a value, and it is what the
decoder returns. -/
theorem optional_field_ok_iff (value : Option α) (decode : α → Except Exception β)
    (field : Option β) :
    optionalField value decode = .ok field ↔
      Option.Rel (fun raw decoded => decode raw = .ok decoded) value field := by
  cases value with
  | none =>
    constructor
    · intro same
      obtain rfl := Except.ok.inj same
      exact .none
    · rintro ⟨⟩
      rfl
  | some raw =>
    simp only [optionalField, bind_ok_iff]
    constructor
    · rintro ⟨decoded, read, same⟩
      obtain rfl := Except.ok.inj same
      exact .some read
    · rintro ⟨read⟩
      exact ⟨_, read, rfl⟩

end Guards

/-- A key property: guarded as a string, then `KeyFromBase64(RequireString(obj, key))`. -/
def keyField (obj : JsValue) (key : String) : Except Exception (Option Key) :=
  optionalField (guarded obj key asString) (fun _ => do keyFromBase64 (← requireString obj key))

/-- A number property with its range check. Like a key it is decoded only where its guard holds;
a number out of range throws. -/
def numberField {β : Type} (obj : JsValue) (key : String)
    (require : JsNumber → String → Except Exception β) : Except Exception (Option β) :=
  optionalField (guarded obj key asNumber) (fun value => require value key)

/-- A Boolean property; the record's default is `false`. -/
def booleanField (obj : JsValue) (key : String) : Bool := (guarded obj key asBoolean).getD false

/-- One element of `allowedIPs`. Here there is no guard: an element that is not a text throws. -/
def allowedIPFromJs (inet : Inet) (item : JsValue) : Except Exception AllowedIP :=
  match asString item with
  | some text => parseCIDR inet text
  | none => .error (.invalidArgument (ascii "allowedIPs entries must be strings"))

/-- An array property; a missing one leaves the list empty. -/
def arrayField {β : Type} (obj : JsValue) (key : String)
    (element : JsValue → Except Exception β) : Except Exception (List β) :=
  match guarded obj key asArray with
  | some items => items.mapM element
  | none => .ok []

/-- `PeerConfigFromJs`: only the public key is required. The fields are decoded in the order of
the source, so the first one that fails decides the exception. -/
def peerConfigFromJs (inet : Inet) (obj : JsValue) : Except Exception PeerConfig := do
  let publicKey ← keyFromBase64 (← requireString obj "publicKey")
  let presharedKey ← keyField obj "presharedKey"
  let persistentKeepaliveInterval ←
    numberField obj "persistentKeepaliveInterval" requireUint16
  let allowedIPs ← arrayField obj "allowedIPs" (allowedIPFromJs inet)
  return {
    publicKey, presharedKey, persistentKeepaliveInterval, allowedIPs
    remove := booleanField obj "remove"
    updateOnly := booleanField obj "updateOnly"
    endpoint := guarded obj "endpoint" asString
    replaceAllowedIPs := booleanField obj "replaceAllowedIPs" }

/-- One element of `peers`. Nor here: an element that is not an object throws. -/
def peerItemFromJs (inet : Inet) (item : JsValue) : Except Exception PeerConfig :=
  if item.isObject then peerConfigFromJs inet item
  else .error (.invalidArgument (ascii "peers entries must be objects"))

/-- `ConfigFromJs`: every field of a device is optional, and its peers are read last, each in
turn. -/
def configFromJs (inet : Inet) (obj : JsValue) : Except Exception Config := do
  let privateKey ← keyField obj "privateKey"
  let listenPort ← numberField obj "listenPort" requireUint16
  let firewallMark ← numberField obj "firewallMark" requireUint32
  let peers ← arrayField obj "peers" (peerItemFromJs inet)
  return {
    privateKey, listenPort, firewallMark, peers
    replacePeers := booleanField obj "replacePeers" }

/-- A key property is absent unless it is a string, and then it is its decoded text. -/
theorem key_field_ok_iff (obj : JsValue) (key : String) (field : Option Key) :
    keyField obj key = .ok field ↔
      Option.Rel (fun text decoded => keyFromBase64 text = .ok decoded) (asString (obj.get key))
        field := by
  rw [keyField, optional_field_ok_iff, guarded_eq obj key asString rfl]
  cases value : obj.get key with
  | string utf8 => cases field <;> simp [asString, requireString, value, bind, Except.bind]
  | _ => cases field <;> simp [asString]

/-- A number property is absent unless it is a number, and then it is in range. -/
theorem number_field_ok_iff {β : Type} (obj : JsValue) (key : String)
    (require : JsNumber → String → Except Exception β) (field : Option β) :
    numberField obj key require = .ok field ↔
      Option.Rel (fun value decoded => require value key = .ok decoded) (asNumber (obj.get key))
        field := by
  rw [numberField, optional_field_ok_iff, guarded_eq obj key asNumber rfl]

/-- An array property is read element by element; any other value gives no elements. -/
theorem array_field_ok_iff {β : Type} (obj : JsValue) (key : String)
    (element : JsValue → Except Exception β) (results : List β) :
    arrayField obj key element = .ok results ↔
      List.Forall₂ (fun item result => element item = .ok result)
        ((asArray (obj.get key)).getD []) results := by
  rw [arrayField, guarded_eq obj key asArray rfl]
  cases asArray (obj.get key) with
  | none => simp [eq_comm]
  | some items => exact mapM_ok_iff element items results

/-- What a successful peer read says, field by field. -/
structure ReadsPeer (inet : Inet) (obj : JsValue) (pc : PeerConfig) : Prop where
  publicKey : ∃ text, obj.get "publicKey" = .string text ∧ keyFromBase64 text = .ok pc.publicKey
  remove : pc.remove = (asBoolean (obj.get "remove")).getD false
  updateOnly : pc.updateOnly = (asBoolean (obj.get "updateOnly")).getD false
  presharedKey : Option.Rel (fun text key => keyFromBase64 text = .ok key)
    (asString (obj.get "presharedKey")) pc.presharedKey
  endpoint : pc.endpoint = asString (obj.get "endpoint")
  persistentKeepaliveInterval : Option.Rel
    (fun value decoded => requireUint16 value "persistentKeepaliveInterval" = .ok decoded)
    (asNumber (obj.get "persistentKeepaliveInterval")) pc.persistentKeepaliveInterval
  replaceAllowedIPs : pc.replaceAllowedIPs = (asBoolean (obj.get "replaceAllowedIPs")).getD false
  allowedIPs : List.Forall₂ (fun item aip => allowedIPFromJs inet item = .ok aip)
    ((asArray (obj.get "allowedIPs")).getD []) pc.allowedIPs

/-- What a successful device read says, field by field. -/
structure ReadsConfig (inet : Inet) (obj : JsValue) (cfg : Config) : Prop where
  privateKey : Option.Rel (fun text key => keyFromBase64 text = .ok key)
    (asString (obj.get "privateKey")) cfg.privateKey
  listenPort : Option.Rel (fun value decoded => requireUint16 value "listenPort" = .ok decoded)
    (asNumber (obj.get "listenPort")) cfg.listenPort
  firewallMark : Option.Rel (fun value decoded => requireUint32 value "firewallMark" = .ok decoded)
    (asNumber (obj.get "firewallMark")) cfg.firewallMark
  replacePeers : cfg.replacePeers = (asBoolean (obj.get "replacePeers")).getD false
  peers : List.Forall₂ (fun item pc => item.isObject = true ∧ ReadsPeer inet item pc)
    ((asArray (obj.get "peers")).getD []) cfg.peers

/-- `RequireString` returns the text of a string property and throws for any other value. -/
theorem require_string_ok_iff (obj : JsValue) (key : String) (text : Bytes) :
    requireString obj key = .ok text ↔ obj.get key = .string text := by
  unfold requireString
  cases obj.get key <;> simp

/-- A Boolean property is `false` unless it is given as a Boolean. -/
theorem boolean_field_eq (obj : JsValue) (key : String) :
    booleanField obj key = (asBoolean (obj.get key)).getD false := by
  rw [booleanField, guarded_eq obj key asBoolean rfl]

/-- A peer is read to a record exactly when every field of it is. -/
theorem peer_config_from_js_iff (inet : Inet) (obj : JsValue) (pc : PeerConfig) :
    peerConfigFromJs inet obj = .ok pc ↔ ReadsPeer inet obj pc := by
  simp only [peerConfigFromJs, bind_ok_iff, require_string_ok_iff, key_field_ok_iff,
    number_field_ok_iff, array_field_ok_iff, boolean_field_eq, guarded_eq obj _ asString rfl]
  constructor
  · rintro ⟨text, present, publicKey, decoded, presharedKey, psk, interval, number, aips,
      list, same⟩
    obtain rfl := Except.ok.inj same
    exact ⟨⟨text, present, decoded⟩, rfl, rfl, psk, rfl, number, rfl, list⟩
  · intro reads
    obtain ⟨text, present, decoded⟩ := reads.publicKey
    refine ⟨text, present, pc.publicKey, decoded, pc.presharedKey, reads.presharedKey,
      pc.persistentKeepaliveInterval, reads.persistentKeepaliveInterval, pc.allowedIPs,
      reads.allowedIPs, ?_⟩
    rw [← reads.remove, ← reads.updateOnly, ← reads.endpoint, ← reads.replaceAllowedIPs]
    rfl

/-- A configuration is read to a record exactly when every field of it is. -/
theorem config_from_js_iff (inet : Inet) (obj : JsValue) (cfg : Config) :
    configFromJs inet obj = .ok cfg ↔ ReadsConfig inet obj cfg := by
  have element (item : JsValue) (pc : PeerConfig) :
      peerItemFromJs inet item = .ok pc ↔ item.isObject = true ∧ ReadsPeer inet item pc := by
    rw [← peer_config_from_js_iff, peerItemFromJs]
    by_cases isObject : item.isObject = true <;> simp [isObject]
  simp only [configFromJs, bind_ok_iff, key_field_ok_iff, number_field_ok_iff,
    array_field_ok_iff, boolean_field_eq, element]
  constructor
  · rintro ⟨privateKey, key, port, listen, mark, firewall, peers, list, same⟩
    obtain rfl := Except.ok.inj same
    exact ⟨key, listen, firewall, rfl, list⟩
  · intro reads
    refine ⟨cfg.privateKey, reads.privateKey, cfg.listenPort, reads.listenPort, cfg.firewallMark,
      reads.firewallMark, cfg.peers, reads.peers, ?_⟩
    rw [← reads.replacePeers]
    rfl

/-- Every allowed address of a record that was read is what `ParseCIDR` made of some text:
the list element that the related one of the object is. -/
theorem config_addresses_parsed (inet : Inet) (obj : JsValue) (cfg : Config)
    (read : configFromJs inet obj = .ok cfg) :
    ∀ peer ∈ cfg.peers, ∀ aip ∈ peer.allowedIPs, ∃ text, parseCIDR inet text = .ok aip := by
  intro peer member aip listed
  have reads := ((config_from_js_iff inet obj cfg).mp read).peers
  obtain ⟨item, -, -, readsPeer⟩ := result_related reads peer member
  obtain ⟨text, -, parsed⟩ := result_related readsPeer.allowedIPs aip listed
  unfold allowedIPFromJs at parsed
  split at parsed
  · exact ⟨_, parsed⟩
  · cases parsed

/-- Every allowed address of a record that was read is readable again: it has a family that
is known, an address text of that family and a mask within its width. -/
theorem config_addresses_readable (inet : Inet) (obj : JsValue) (cfg : Config)
    (read : configFromJs inet obj = .ok cfg) :
    ∀ peer ∈ cfg.peers, ∀ aip ∈ peer.allowedIPs, Readable inet aip := by
  intro peer member aip listed
  obtain ⟨text, parsed⟩ := config_addresses_parsed inet obj cfg read peer member aip listed
  exact (parse_cidr_readable inet text aip parsed).1

end NodeWireguard.ConfigFromJs
