import Mathlib
import NodeWireguard.Client.ConfigFromJs
import NodeWireguard.Netlink.AddressForms

/-!
# Fields that are present

`Config.ts` says of every optional field that `undefined` leaves the setting alone and a
present value is applied. The readers test each optional field for its documented type
and pass over any other value, though the list elements and the public key are refused
where they have another type. A field of the wrong type is therefore ignored while the
rest of the object is applied, unless something else in the object is refused.

The condition is on the object alone: some value of a documented type that its decoder
refuses, or the documented type for every field that is present.
-/

namespace NodeWireguard.ConfigFields

open ByteText Key AddressText AddressForms JsValues ConfigFromJs RelatedLists

/-- Neither `undefined` nor `null`. -/
def Present (value : JsValue) : Prop := value ≠ .undefined ∧ value ≠ .null

section Fields

variable {α β : Type} (as : JsValue → Option α) (decode : α → Except Exception β) (value : JsValue)

/-- A present value has the documented type. -/
def Typed : Prop := Present value → (as value).isSome = true

/-- A value of the documented type that its decoder refuses. -/
def Refuses : Prop := ∃ raw, as value = some raw ∧ ∀ decoded, decode raw ≠ .ok decoded

/-- A present value stands decoded in the record. A value of another type than the documented one
stands nowhere. -/
def Applied (field : Option β) : Prop :=
  Present value → ∃ raw decoded, as value = some raw ∧ decode raw = .ok decoded ∧ field = some decoded

end Fields

/-- A present Boolean stands in the record. -/
def FlagApplied (value : JsValue) (flag : Bool) : Prop := Present value → value = .boolean flag

/-- A present array stands in the record element by element. -/
def ListApplied {β : Type} (element : JsValue → β → Prop) (value : JsValue) (list : List β) : Prop :=
  Present value → ∃ items, value = .array items ∧ List.Forall₂ element items list

/-- Every documented field of a peer object that is present stands in the record. -/
structure PeerApplied (inet : Inet) (obj : JsValue) (pc : PeerConfig) : Prop where
  publicKey : Applied asString keyFromBase64 (obj.get "publicKey") (some pc.publicKey)
  remove : FlagApplied (obj.get "remove") pc.remove
  updateOnly : FlagApplied (obj.get "updateOnly") pc.updateOnly
  presharedKey : Applied asString keyFromBase64 (obj.get "presharedKey") pc.presharedKey
  endpoint : Applied asString .ok (obj.get "endpoint") pc.endpoint
  persistentKeepaliveInterval : Applied asNumber (requireUint16 · "persistentKeepaliveInterval")
    (obj.get "persistentKeepaliveInterval") pc.persistentKeepaliveInterval
  replaceAllowedIPs : FlagApplied (obj.get "replaceAllowedIPs") pc.replaceAllowedIPs
  allowedIPs : ListApplied (fun item aip => ∃ text, item = .string text ∧ parseCIDR inet text = .ok aip)
    (obj.get "allowedIPs") pc.allowedIPs

/-- Every documented field of a configuration object and of its peers that is present
stands in the record. -/
structure ConfigApplied (inet : Inet) (obj : JsValue) (cfg : Config) : Prop where
  privateKey : Applied asString keyFromBase64 (obj.get "privateKey") cfg.privateKey
  listenPort : Applied asNumber (requireUint16 · "listenPort") (obj.get "listenPort") cfg.listenPort
  firewallMark : Applied asNumber (requireUint32 · "firewallMark") (obj.get "firewallMark") cfg.firewallMark
  replacePeers : FlagApplied (obj.get "replacePeers") cfg.replacePeers
  peers : ListApplied (PeerApplied inet) (obj.get "peers") cfg.peers

/-- Every optional field of a peer object that is present has its documented type. -/
structure PeerTyped (obj : JsValue) : Prop where
  remove : Typed asBoolean (obj.get "remove")
  updateOnly : Typed asBoolean (obj.get "updateOnly")
  presharedKey : Typed asString (obj.get "presharedKey")
  endpoint : Typed asString (obj.get "endpoint")
  persistentKeepaliveInterval : Typed asNumber (obj.get "persistentKeepaliveInterval")
  replaceAllowedIPs : Typed asBoolean (obj.get "replaceAllowedIPs")
  allowedIPs : Typed asArray (obj.get "allowedIPs")

/-- Every field of a configuration object and every optional field of its peers that is
present has its documented type. -/
structure ConfigTyped (obj : JsValue) : Prop where
  privateKey : Typed asString (obj.get "privateKey")
  listenPort : Typed asNumber (obj.get "listenPort")
  firewallMark : Typed asNumber (obj.get "firewallMark")
  replacePeers : Typed asBoolean (obj.get "replacePeers")
  peers : Typed asArray (obj.get "peers")
  each : ∀ item ∈ (asArray (obj.get "peers")).getD [], PeerTyped item

/-- Something in a peer object is refused: its public key is missing or no key, another
field has a value of its type that its decoder refuses, or an element of the list is no
CIDR text. -/
inductive PeerRefused (inet : Inet) (obj : JsValue) : Prop where
  | publicKey (noKey : ∀ text key, obj.get "publicKey" = .string text → keyFromBase64 text ≠ .ok key)
  | presharedKey (refuses : Refuses asString keyFromBase64 (obj.get "presharedKey"))
  | persistentKeepaliveInterval (refuses : Refuses asNumber
      (requireUint16 · "persistentKeepaliveInterval") (obj.get "persistentKeepaliveInterval"))
  | allowedIPs (item : JsValue) (member : item ∈ (asArray (obj.get "allowedIPs")).getD [])
      (noRange : ∀ text aip, item = .string text → parseCIDR inet text ≠ .ok aip)

/-- Something in a configuration object is refused. It is a condition on the object alone: some
key, number, range or peer of it makes the reader throw. -/
inductive ConfigRefused (inet : Inet) (obj : JsValue) : Prop where
  | privateKey (refuses : Refuses asString keyFromBase64 (obj.get "privateKey"))
  | listenPort (refuses : Refuses asNumber (requireUint16 · "listenPort") (obj.get "listenPort"))
  | firewallMark (refuses : Refuses asNumber (requireUint32 · "firewallMark") (obj.get "firewallMark"))
  | peers (item : JsValue) (member : item ∈ (asArray (obj.get "peers")).getD [])
      (refused : item.isObject = false ∨ PeerRefused inet item)

section Laws

variable {α β : Type} {as : JsValue → Option α} {decode : α → Except Exception β} {value : JsValue}

/-- A guarded field that was read is applied exactly when its value has the documented
type. -/
theorem read_applied_iff {field : Option β}
    (read : Option.Rel (fun raw decoded => decode raw = .ok decoded) (as value) field) :
    Applied as decode value field ↔ Typed as value := by
  constructor
  · intro applied present
    obtain ⟨raw, decoded, typed, -⟩ := applied present
    rw [typed]
    exact Option.isSome_some
  · intro typed present
    obtain ⟨raw, same⟩ := Option.isSome_iff_exists.mp (typed present)
    rw [same] at read
    obtain ⟨decoded⟩ := read
    exact ⟨raw, _, same, decoded, rfl⟩

/-- A guarded field can be read exactly when its value is not refused. -/
theorem readable_iff : (∃ field, Option.Rel (fun raw decoded => decode raw = .ok decoded) (as value) field) ↔
    ¬ Refuses as decode value := by
  constructor
  · rintro ⟨field, read⟩ ⟨raw, typed, refused⟩
    rw [typed] at read
    obtain ⟨decoded⟩ := read
    exact refused _ decoded
  · intro accepted
    cases typed : as value with
    | none => exact ⟨none, .none⟩
    | some raw =>
      by_contra unread
      exact accepted ⟨raw, typed, fun decoded same => unread ⟨some decoded, .some same⟩⟩

/-- A flag is applied as it was given exactly when the property is a Boolean or absent. -/
theorem flag_applied_iff {flag : Bool} (read : flag = (asBoolean value).getD false) :
    FlagApplied value flag ↔ Typed asBoolean value := by
  constructor
  · intro applied present
    rw [applied present]
    rfl
  · intro typed present
    have some := typed present
    cases value with
    | boolean given => rw [read]; rfl
    | _ => cases some

/-- A list that was read is applied exactly when a present value is an array whose elements
are applied. -/
theorem list_applied_iff {read applied : JsValue → β → Prop} {list : List β}
    (each : List.Forall₂ read ((asArray value).getD []) list) :
    ListApplied applied value list ↔ Typed asArray value ∧
      List.Forall₂ applied ((asArray value).getD []) list := by
  constructor
  · intro shown
    by_cases present : Present value
    · obtain ⟨items, rfl, related⟩ := shown present
      exact ⟨fun _ => rfl, related⟩
    · have absent : asArray value = none := by
        cases value with
        | array items => exact absurd ⟨by simp, by simp⟩ present
        | _ => rfl
      rw [absent] at each ⊢
      obtain ⟨⟩ := each
      exact ⟨fun shows => absurd shows present, .nil⟩
  · rintro ⟨typed, related⟩ present
    cases value with
    | array items => exact ⟨items, rfl, related⟩
    | _ => cases typed present

end Laws

/-- A peer that was read is applied exactly when its fields have their types. Keys, numbers and
texts are applied where their guards let them through; a flag also where it is absent, since its
default is what leaves it out. -/
theorem peer_applied_iff (inet : Inet) (obj : JsValue) (pc : PeerConfig) (reads : ReadsPeer inet obj pc) :
    PeerApplied inet obj pc ↔ PeerTyped obj := by
  have ranges : List.Forall₂ (fun item aip => ∃ text, item = .string text ∧ parseCIDR inet text = .ok aip)
      ((asArray (obj.get "allowedIPs")).getD []) pc.allowedIPs := by
    refine reads.allowedIPs.imp ?_
    intro item aip read
    cases item with
    | string text => exact ⟨text, rfl, read⟩
    | _ => cases read
  have endpoint : Option.Rel (fun raw decoded => Except.ok (ε := Exception) raw = .ok decoded)
      (asString (obj.get "endpoint")) pc.endpoint := by
    rw [reads.endpoint]
    cases asString (obj.get "endpoint") with
    | none => exact .none
    | some text => exact .some rfl
  constructor
  · intro applied
    exact {
      remove := (flag_applied_iff reads.remove).mp applied.remove
      updateOnly := (flag_applied_iff reads.updateOnly).mp applied.updateOnly
      presharedKey := (read_applied_iff reads.presharedKey).mp applied.presharedKey
      endpoint := (read_applied_iff endpoint).mp applied.endpoint
      persistentKeepaliveInterval :=
        (read_applied_iff reads.persistentKeepaliveInterval).mp applied.persistentKeepaliveInterval
      replaceAllowedIPs := (flag_applied_iff reads.replaceAllowedIPs).mp applied.replaceAllowedIPs
      allowedIPs := ((list_applied_iff ranges).mp applied.allowedIPs).1 }
  · intro typed
    obtain ⟨text, given, decoded⟩ := reads.publicKey
    exact {
      publicKey := fun _ => ⟨text, _, by rw [given]; rfl, decoded, rfl⟩
      remove := (flag_applied_iff reads.remove).mpr typed.remove
      updateOnly := (flag_applied_iff reads.updateOnly).mpr typed.updateOnly
      presharedKey := (read_applied_iff reads.presharedKey).mpr typed.presharedKey
      endpoint := (read_applied_iff endpoint).mpr typed.endpoint
      persistentKeepaliveInterval :=
        (read_applied_iff reads.persistentKeepaliveInterval).mpr typed.persistentKeepaliveInterval
      replaceAllowedIPs := (flag_applied_iff reads.replaceAllowedIPs).mpr typed.replaceAllowedIPs
      allowedIPs := (list_applied_iff ranges).mpr ⟨typed.allowedIPs, ranges⟩ }

/-- A configuration that was read is applied exactly when all its fields have their types. The
peers are related one by one to the objects that they were read from. -/
theorem config_applied_iff (inet : Inet) (obj : JsValue) (cfg : Config) (reads : ReadsConfig inet obj cfg) :
    ConfigApplied inet obj cfg ↔ ConfigTyped obj := by
  have peers : ListApplied (PeerApplied inet) (obj.get "peers") cfg.peers ↔ _ :=
    list_applied_iff reads.peers
  have each := related_conditional reads.peers
    (fun item pc read => peer_applied_iff inet item pc read.2)
  constructor
  · intro applied
    obtain ⟨isArray, related⟩ := peers.mp applied.peers
    exact {
      privateKey := (read_applied_iff reads.privateKey).mp applied.privateKey
      listenPort := (read_applied_iff reads.listenPort).mp applied.listenPort
      firewallMark := (read_applied_iff reads.firewallMark).mp applied.firewallMark
      replacePeers := (flag_applied_iff reads.replacePeers).mp applied.replacePeers
      peers := isArray
      each := each.mp related }
  · intro typed
    exact {
      privateKey := (read_applied_iff reads.privateKey).mpr typed.privateKey
      listenPort := (read_applied_iff reads.listenPort).mpr typed.listenPort
      firewallMark := (read_applied_iff reads.firewallMark).mpr typed.firewallMark
      replacePeers := (flag_applied_iff reads.replacePeers).mpr typed.replacePeers
      peers := peers.mpr ⟨typed.peers, each.mpr typed.each⟩ }

/-- A peer object in which nothing is refused can be read. What a field needs to be read is
exactly that it is not refused, so the record is put together from the parts. -/
theorem peer_readable (inet : Inet) (obj : JsValue) (accepted : ¬ PeerRefused inet obj) :
    ∃ pc, ReadsPeer inet obj pc := by
  have key : ∃ text key, obj.get "publicKey" = .string text ∧ keyFromBase64 text = .ok key := by
    by_contra missing
    exact accepted (.publicKey (fun text key given decoded => missing ⟨text, key, given, decoded⟩))
  obtain ⟨text, publicKey, given, decoded⟩ := key
  obtain ⟨presharedKey, psk⟩ := readable_iff.mpr (fun refuses => accepted (.presharedKey refuses))
  obtain ⟨interval, number⟩ :=
    readable_iff.mpr (fun refuses => accepted (.persistentKeepaliveInterval refuses))
  have ranges : ∀ item ∈ (asArray (obj.get "allowedIPs")).getD [],
      ∃ aip, allowedIPFromJs inet item = .ok aip := by
    intro item member
    by_contra unread
    refine accepted (.allowedIPs item member (fun text aip same parsed => unread ⟨aip, ?_⟩))
    rw [same]
    exact parsed
  obtain ⟨allowedIPs, list⟩ := (related_exists_iff _).mpr ranges
  exact ⟨{
    publicKey, presharedKey, allowedIPs
    remove := (asBoolean (obj.get "remove")).getD false
    updateOnly := (asBoolean (obj.get "updateOnly")).getD false
    endpoint := asString (obj.get "endpoint")
    persistentKeepaliveInterval := interval
    replaceAllowedIPs := (asBoolean (obj.get "replaceAllowedIPs")).getD false },
    ⟨⟨text, given, decoded⟩, rfl, rfl, psk, rfl, number, rfl, list⟩⟩

/-- A peer object that was read has nothing in it that is refused. -/
theorem peer_not_refused (inet : Inet) (obj : JsValue) (pc : PeerConfig) (reads : ReadsPeer inet obj pc) :
    ¬ PeerRefused inet obj := by
  intro refused
  cases refused with
  | publicKey noKey =>
    obtain ⟨text, given, decoded⟩ := reads.publicKey
    exact noKey text pc.publicKey given decoded
  | presharedKey refuses => exact readable_iff.mp ⟨_, reads.presharedKey⟩ refuses
  | persistentKeepaliveInterval refuses =>
    exact readable_iff.mp ⟨_, reads.persistentKeepaliveInterval⟩ refuses
  | allowedIPs item member noRange =>
    obtain ⟨aip, -, read⟩ := element_related reads.allowedIPs item member
    cases item with
    | string text => exact noRange text aip rfl read
    | _ => cases read

/-- A configuration object is read to some record exactly when nothing in it is refused. In the
one direction the record is built from the parts that can be read; in the other each part of a
record that was read rules one kind of refusal out. -/
theorem config_readable_iff (inet : Inet) (obj : JsValue) :
    (∃ cfg, configFromJs inet obj = .ok cfg) ↔ ¬ ConfigRefused inet obj := by
  constructor
  · rintro ⟨cfg, read⟩ refused
    have reads := (config_from_js_iff inet obj cfg).mp read
    cases refused with
    | privateKey refuses => exact readable_iff.mp ⟨_, reads.privateKey⟩ refuses
    | listenPort refuses => exact readable_iff.mp ⟨_, reads.listenPort⟩ refuses
    | firewallMark refuses => exact readable_iff.mp ⟨_, reads.firewallMark⟩ refuses
    | peers item member refused =>
      obtain ⟨pc, -, isObject, readsPeer⟩ := element_related reads.peers item member
      rcases refused with notObject | refused
      · rw [isObject] at notObject
        cases notObject
      · exact peer_not_refused inet item pc readsPeer refused
  · intro accepted
    obtain ⟨privateKey, key⟩ := readable_iff.mpr (fun refuses => accepted (.privateKey refuses))
    obtain ⟨listenPort, port⟩ := readable_iff.mpr (fun refuses => accepted (.listenPort refuses))
    obtain ⟨firewallMark, mark⟩ := readable_iff.mpr (fun refuses => accepted (.firewallMark refuses))
    have each : ∀ item ∈ (asArray (obj.get "peers")).getD [],
        ∃ pc, item.isObject = true ∧ ReadsPeer inet item pc := by
      intro item member
      obtain ⟨pc, reads⟩ := peer_readable inet item
        (fun refused => accepted (.peers item member (.inr refused)))
      refine ⟨pc, ?_, reads⟩
      by_contra notObject
      exact accepted (.peers item member (.inl (by simpa using notObject)))
    obtain ⟨peers, list⟩ := (related_exists_iff _).mpr each
    refine ⟨{
      privateKey, listenPort, firewallMark, peers
      replacePeers := (asBoolean (obj.get "replacePeers")).getD false }, ?_⟩
    exact (config_from_js_iff inet obj _).mpr ⟨key, port, mark, rfl, list⟩

/-- No present field is dropped exactly when something in the object is refused, or every
present field has its documented type.

Proof: the reader returns exactly where nothing is refused. Where it returns, a field is applied
exactly when its value has the documented type, since the guards skip every other value; so it is
for each field, each range and each peer, and the parts are put together by induction on the
lists. -/
theorem fields_applied_iff (inet : Inet) (config : JsValue) :
    (∀ cfg, configFromJs inet config = .ok cfg → ConfigApplied inet config cfg) ↔
      ConfigRefused inet config ∨ ConfigTyped config := by
  constructor
  · intro applied
    by_cases refused : ConfigRefused inet config
    · exact .inl refused
    · obtain ⟨cfg, read⟩ := (config_readable_iff inet config).mpr refused
      have reads := (config_from_js_iff inet config cfg).mp read
      exact .inr ((config_applied_iff inet config cfg reads).mp (applied cfg read))
  · rintro (refused | typed) cfg read
    · exact absurd refused ((config_readable_iff inet config).mp ⟨cfg, read⟩)
    · have reads := (config_from_js_iff inet config cfg).mp read
      exact (config_applied_iff inet config cfg reads).mpr typed

/-- A peer object that asks for the removal of the peer with a text in place of a Boolean. -/
def textRemoval : JsValue :=
  .object [("publicKey", .string (keyToBase64 zeroKey)), ("remove", .string (ascii "true"))]

/-- The removal is ignored while the peer is configured. The flag is given as a text, so its
guard skips it, and the record says that the peer is to be kept. -/
theorem text_removal_ignored :
    ¬ ∀ cfg, configFromJs plainInet (.object [("peers", .array [textRemoval])]) = .ok cfg →
      ConfigApplied plainInet (.object [("peers", .array [textRemoval])]) cfg := by
  intro applied
  have peer : ReadsPeer plainInet textRemoval { publicKey := zeroKey } := {
    publicKey := ⟨_, rfl, key_from_base64_key_to_base64 zeroKey⟩
    remove := rfl
    updateOnly := rfl
    presharedKey := .none
    endpoint := rfl
    persistentKeepaliveInterval := .none
    replaceAllowedIPs := rfl
    allowedIPs := .nil }
  have reads : ReadsConfig plainInet (.object [("peers", .array [textRemoval])])
      { peers := [{ publicKey := zeroKey }] } := {
    privateKey := .none
    listenPort := .none
    firewallMark := .none
    replacePeers := rfl
    peers := .cons ⟨rfl, peer⟩ .nil }
  have whole := applied _ ((config_from_js_iff plainInet _ _).mpr reads)
  have typed := ((config_applied_iff plainInet _ _ reads).mp whole).each textRemoval List.mem_cons_self
  have flag := typed.remove ⟨by simp [textRemoval, JsValue.get], by simp [textRemoval, JsValue.get]⟩
  exact absurd flag (by simp [textRemoval, JsValue.get, asBoolean])

end NodeWireguard.ConfigFields
