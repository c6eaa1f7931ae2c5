import Mathlib
import NodeWireguard.Crypto.Key
import NodeWireguard.Foundations.Fallible
import NodeWireguard.Netlink.AddressText

/-!
# Set requests of the userspace protocol

`BuildSetRequest` of `UapiCodec.cpp`: a request is a text of `key=value` lines ended by
an empty line. Keys, numbers and flags are rendered; endpoint and allowed-address texts
are emitted as they were given, the endpoint after a validation whose result is dropped.

The intended lines of a configuration are stated separately, one list element per line.
The request is always their concatenation, each with a line feed; whether a line reader
gets the same lines back depends on the emitted texts alone.
-/

namespace NodeWireguard.SetRequest

open ByteText DecimalText Key AddressText Fallible

/-- `oss << "key=" << value << "\n"` -/
def field (key : String) (value : Bytes) : Bytes :=
  ascii key ++ byte '=' :: (value ++ [lineFeed])

/-- `if (value) { oss << .. }` -/
def present {α : Type} (value : Option α) (text : α → Bytes) : Bytes :=
  match value with
  | some content => text content
  | none => []

/-- `if (flag) { oss << "key=true\n"; }` -/
def flagField (flag : Bool) (key : String) : Bytes := if flag then field key (ascii "true") else []

/-- The part of the loop body that can throw: validate the endpoint, then emit it. -/
def endpointField (inet : Inet) (endpoint : Option Bytes) : Except Exception Bytes :=
  match endpoint with
  | some text => do
      validateEndpoint inet text
      return field "endpoint" text
  | none => .ok []

/-- One iteration of the loop over peers. The endpoint is checked where its line is written, so
an exception discards what was written before. -/
def buildPeerSection (inet : Inet) (peer : PeerConfig) : Except Exception Bytes := do
  let endpoint ← endpointField inet peer.endpoint
  return field "public_key" (keyToHex peer.publicKey)
    ++ flagField peer.remove "remove"
    ++ flagField peer.updateOnly "update_only"
    ++ present peer.presharedKey (fun key => field "preshared_key" (keyToHex key))
    ++ endpoint
    ++ present peer.persistentKeepaliveInterval
      (fun interval => field "persistent_keepalive_interval" (decimal interval.toNat))
    ++ flagField peer.replaceAllowedIPs "replace_allowed_ips"
    ++ peer.allowedIPs.flatMap (fun aip => field "allowed_ip" (formatCIDR aip))

/-- `BuildSetRequest`: the fields of the device and then a section for each peer. A refused
endpoint throws before anything is written. -/
def buildSetRequest (inet : Inet) (cfg : Config) : Except Exception Bytes := do
  let sections ← cfg.peers.mapM (buildPeerSection inet)
  return field "set" (ascii "1")
    ++ present cfg.privateKey (fun key => field "private_key" (keyToHex key))
    ++ present cfg.listenPort (fun port => field "listen_port" (decimal port.toNat))
    ++ present cfg.firewallMark (fun mark => field "fwmark" (decimal mark.toNat))
    ++ flagField cfg.replacePeers "replace_peers"
    ++ sections.flatten
    ++ [lineFeed]

/-- A line without its end. -/
def keyValue (key : String) (value : Bytes) : Bytes := ascii key ++ byte '=' :: value

/-- The line of a set flag, and none for a clear one. -/
def flagLine (flag : Bool) (key : String) : List Bytes :=
  if flag then [keyValue key (ascii "true")] else []

/-- One line for each device field that is present. -/
def deviceLines (cfg : Config) : List Bytes :=
  cfg.privateKey.toList.map (fun key => keyValue "private_key" (keyToHex key))
    ++ cfg.listenPort.toList.map (fun port => keyValue "listen_port" (decimal port.toNat))
    ++ cfg.firewallMark.toList.map (fun mark => keyValue "fwmark" (decimal mark.toNat))
    ++ flagLine cfg.replacePeers "replace_peers"

/-- What follows a peer's `public_key` line: flags, preshared key, endpoint, keepalive,
and one line for each allowed address, in order. -/
def peerBodyLines (peer : PeerConfig) : List Bytes :=
  flagLine peer.remove "remove"
    ++ flagLine peer.updateOnly "update_only"
    ++ peer.presharedKey.toList.map (fun key => keyValue "preshared_key" (keyToHex key))
    ++ peer.endpoint.toList.map (keyValue "endpoint")
    ++ peer.persistentKeepaliveInterval.toList.map
      (fun interval => keyValue "persistent_keepalive_interval" (decimal interval.toNat))
    ++ flagLine peer.replaceAllowedIPs "replace_allowed_ips"
    ++ peer.allowedIPs.map (fun aip => keyValue "allowed_ip" (formatCIDR aip))

/-- The lines of a peer, the first of which names it. -/
def peerLines (peer : PeerConfig) : List Bytes :=
  keyValue "public_key" (keyToHex peer.publicKey) :: peerBodyLines peer

/-- The lines a request is meant to have: `set=1`, the device fields, the peers in
order, and one empty line at the end. -/
def intendedLines (cfg : Config) : List Bytes :=
  keyValue "set" (ascii "1") :: deviceLines cfg ++ cfg.peers.flatMap peerLines ++ [[]]

/-- The text of a list of lines. -/
def terminated (lines : List Bytes) : Bytes := lines.flatMap (· ++ [lineFeed])

/-- Lines are terminated one by one. -/
theorem terminated_append (left right : List Bytes) :
    terminated (left ++ right) = terminated left ++ terminated right := by
  simp [terminated]

/-- A field is one terminated line. -/
theorem field_eq (key : String) (value : Bytes) :
    field key value = terminated [keyValue key value] := by
  simp [field, terminated, keyValue]

/-- A flag is one line, or none where it is not set. -/
theorem flag_field_eq (flag : Bool) (key : String) :
    flagField flag key = terminated (flagLine flag key) := by
  cases flag
  · rfl
  · exact field_eq key (ascii "true")

/-- So is an optional field. -/
theorem present_field_eq {α : Type} (value : Option α) (key : String) (text : α → Bytes) :
    present value (fun content => field key (text content)) =
      terminated (value.toList.map (fun content => keyValue key (text content))) := by
  cases value with
  | none => rfl
  | some content => exact field_eq key (text content)

/-- A peer section is emitted exactly when its endpoint parses, and then it is the text
of the peer's lines. -/
theorem build_peer_section_ok_iff (inet : Inet) (peer : PeerConfig) (text : Bytes) :
    buildPeerSection inet peer = .ok text ↔
      (∀ endpoint, peer.endpoint = some endpoint → ∃ address, parseEndpoint inet endpoint = .ok address) ∧
        text = terminated (peerLines peer) := by
  have addresses : peer.allowedIPs.flatMap (fun aip => field "allowed_ip" (formatCIDR aip)) =
      terminated (peer.allowedIPs.map (fun aip => keyValue "allowed_ip" (formatCIDR aip))) := by
    simp [terminated, field, keyValue, List.flatMap_map]
  have emitted (endpoint : Bytes) : endpointField inet peer.endpoint = .ok endpoint ↔
      (∀ text, peer.endpoint = some text → ∃ address, parseEndpoint inet text = .ok address) ∧
        endpoint = terminated (peer.endpoint.toList.map (keyValue "endpoint")) := by
    cases given : peer.endpoint with
    | none => simp [endpointField, terminated, eq_comm]
    | some text =>
      simp only [endpointField, validateEndpoint, bind_ok_iff, Option.some.injEq, forall_eq',
        Option.toList_some, List.map_cons, List.map_nil, ← field_eq]
      constructor
      · rintro ⟨_, ⟨address, parsed, _⟩, same⟩
        exact ⟨⟨address, parsed⟩, (Except.ok.inj same).symm⟩
      · rintro ⟨⟨address, parsed⟩, rfl⟩
        exact ⟨(), ⟨address, parsed, rfl⟩, rfl⟩
  have assembled : terminated (peerLines peer) =
      field "public_key" (keyToHex peer.publicKey)
        ++ flagField peer.remove "remove"
        ++ flagField peer.updateOnly "update_only"
        ++ present peer.presharedKey (fun key => field "preshared_key" (keyToHex key))
        ++ terminated (peer.endpoint.toList.map (keyValue "endpoint"))
        ++ present peer.persistentKeepaliveInterval
          (fun interval => field "persistent_keepalive_interval" (decimal interval.toNat))
        ++ flagField peer.replaceAllowedIPs "replace_allowed_ips"
        ++ peer.allowedIPs.flatMap (fun aip => field "allowed_ip" (formatCIDR aip)) := by
    rw [peerLines, ← List.singleton_append, terminated_append]
    simp only [peerBodyLines, terminated_append, field_eq "public_key", flag_field_eq, addresses,
      present_field_eq, List.append_assoc]
  simp only [buildPeerSection, bind_ok_iff, emitted]
  constructor
  · rintro ⟨_, ⟨valid, rfl⟩, same⟩
    exact ⟨valid, (Except.ok.inj same).symm.trans assembled.symm⟩
  · rintro ⟨valid, rfl⟩
    exact ⟨_, ⟨valid, rfl⟩, congrArg Except.ok assembled.symm⟩

/-- A request is built exactly when all endpoints parse, and then it is the text of the
intended lines. -/
theorem build_set_request_ok_iff (inet : Inet) (cfg : Config) (request : Bytes) :
    buildSetRequest inet cfg = .ok request ↔
      EndpointsParse inet cfg ∧ request = terminated (intendedLines cfg) := by
  have sections (texts : List Bytes) : cfg.peers.mapM (buildPeerSection inet) = .ok texts ↔
      EndpointsParse inet cfg ∧ texts = cfg.peers.map (fun peer => terminated (peerLines peer)) := by
    rw [mapM_ok_iff]
    simp only [build_peer_section_ok_iff, EndpointsParse]
    induction cfg.peers generalizing texts with
    | nil => simp
    | cons peer rest inductionHypothesis =>
      cases texts with
      | nil => simp
      | cons text others =>
        simp only [List.forall₂_cons, inductionHypothesis, List.mem_cons, forall_eq_or_imp,
          List.map_cons, List.cons.injEq]
        tauto
  have flattened : (cfg.peers.map (fun peer => terminated (peerLines peer))).flatten =
      terminated (cfg.peers.flatMap peerLines) := by
    simp [terminated, List.flatMap_assoc, ← List.flatMap_def]
  have assembled : terminated (intendedLines cfg) =
      field "set" (ascii "1")
        ++ present cfg.privateKey (fun key => field "private_key" (keyToHex key))
        ++ present cfg.listenPort (fun port => field "listen_port" (decimal port.toNat))
        ++ present cfg.firewallMark (fun mark => field "fwmark" (decimal mark.toNat))
        ++ flagField cfg.replacePeers "replace_peers"
        ++ (cfg.peers.map (fun peer => terminated (peerLines peer))).flatten
        ++ [lineFeed] := by
    rw [flattened, intendedLines, List.cons_append, List.cons_append, ← List.singleton_append,
      terminated_append]
    simp only [deviceLines, terminated_append, field_eq "set", flag_field_eq, present_field_eq,
      List.append_assoc]
    rfl
  simp only [buildSetRequest, bind_ok_iff, sections]
  constructor
  · rintro ⟨_, ⟨valid, rfl⟩, same⟩
    exact ⟨valid, (Except.ok.inj same).symm.trans assembled.symm⟩
  · rintro ⟨valid, rfl⟩
    exact ⟨_, ⟨valid, rfl⟩, congrArg Except.ok assembled.symm⟩

end NodeWireguard.SetRequest
