import Mathlib
import NodeWireguard.Netlink.SetMessageReading
import NodeWireguard.Netlink.SocketExchange

/-!
# Requests about links and their addresses

`CreateWireGuardLink`, `DeleteLink`, `SetLinkUp`, `AddAddress` and `DeleteAddress` of
`RtLink.cpp` up to the message they send. `found` is `if_nametoindex`, with zero for a name
that no interface has, and `time` is the clock that numbers the request.

A request is read back the way rtnetlink reads it: by its message type and flags, the fixed
header of its kind, and the attributes after it. An accepted command is read as what it asks
for, and its message is far smaller than the buffer it is written to.
-/

namespace NodeWireguard.LinkRequests

open ByteText AddressText AttributeStream MessageBuffer WireguardUapi IfName DeviceSettings
open DeviceDump SetDeviceMessage SetMessageReading Fallible SocketExchange

/-! Message types, flags and attributes of `rtnetlink.h`, `if_link.h` and `if_addr.h`. -/

/-- The types of the requests, as `linux/rtnetlink.h` numbers them: a new link, -/
def RTM_NEWLINK : UInt16 := 16
/-- a link to delete, -/
def RTM_DELLINK : UInt16 := 17
/-- a new address, -/
def RTM_NEWADDR : UInt16 := 20
/-- and an address to delete. -/
def RTM_DELADDR : UInt16 := 21

/-- The flags that tell what to do about an object that exists: replace it, -/
def NLM_F_REPLACE : UInt16 := 0x100
/-- refuse it, -/
def NLM_F_EXCL : UInt16 := 0x200
/-- or create one where there is none. -/
def NLM_F_CREATE : UInt16 := 0x400

/-- The attributes of a link: its name, -/
def IFLA_IFNAME : UInt16 := 3
/-- what there is to say about its kind, -/
def IFLA_LINKINFO : UInt16 := 18
/-- and in there the kind. -/
def IFLA_INFO_KIND : UInt16 := 1
/-- The attributes of an address: the one at the other end, -/
def IFA_ADDRESS : UInt16 := 1
/-- and the one of the interface itself. -/
def IFA_LOCAL : UInt16 := 2

/-- No family, as in every request about a link. -/
def AF_UNSPEC : UInt8 := 0
/-- The flag of a link that is up. -/
def IFF_UP : UInt32 := 1

/-- File exists, thrown for an interface that is already there. -/
def EEXIST : Int := 17

/-- `struct ifinfomsg`; what a caller does not set stays zero. -/
structure IfInfoMsg where
  family : UInt8 := AF_UNSPEC
  type : UInt16 := 0
  index : UInt32 := 0
  flags : UInt32 := 0
  change : UInt32 := 0

/-- `struct ifinfomsg` in memory, with its octet of padding. -/
def IfInfoMsg.octets (ifi : IfInfoMsg) : Bytes :=
  [ifi.family, 0] ++ littleEndian 2 ifi.type.toNat ++ littleEndian 4 ifi.index.toNat
    ++ littleEndian 4 ifi.flags.toNat ++ littleEndian 4 ifi.change.toNat

/-- `struct ifaddrmsg` -/
structure IfAddrMsg where
  family : UInt8
  prefixlen : UInt8
  flags : UInt8 := 0
  scope : UInt8 := 0
  index : UInt32

/-- `struct ifaddrmsg` in memory. -/
def IfAddrMsg.octets (ifa : IfAddrMsg) : Bytes :=
  [ifa.family, ifa.prefixlen, ifa.flags, ifa.scope] ++ littleEndian 4 ifa.index.toNat

/-- A message of a type, with its flags and number, before its attributes. -/
def putRequest (type flags : UInt16) (time : UInt32) (header : Bytes) : MsgBuf :=
  mnlNlmsgPutExtraHeader { mnlNlmsgPutHeader with type, flags, seq := time } header

/-- The message of `CreateWireGuardLink`. The kind of the link is nested in the information about
it. -/
def newLinkMessage (time : UInt32) (name : Bytes) : MsgBuf :=
  let nlh := putRequest RTM_NEWLINK (NLM_F_REQUEST ||| NLM_F_ACK ||| NLM_F_CREATE ||| NLM_F_EXCL)
    time { change := 0xFFFFFFFF : IfInfoMsg }.octets
  let nlh := mnlAttrPutStrz nlh IFLA_IFNAME name
  let (linkinfo, nlh) := mnlAttrNestStart nlh IFLA_LINKINFO
  let nlh := mnlAttrPutStrz nlh IFLA_INFO_KIND (ascii "wireguard")
  mnlAttrNestEnd nlh linkinfo

/-- The message of `DeleteLink`. -/
def delLinkMessage (time ifindex : UInt32) : MsgBuf :=
  putRequest RTM_DELLINK (NLM_F_REQUEST ||| NLM_F_ACK) time { index := ifindex : IfInfoMsg }.octets

/-- The message of `SetLinkUp`. -/
def setLinkMessage (time ifindex : UInt32) (up : Bool) : MsgBuf :=
  putRequest RTM_NEWLINK (NLM_F_REQUEST ||| NLM_F_ACK) time
    { index := ifindex, change := IFF_UP, flags := if up then IFF_UP else 0 : IfInfoMsg }.octets

/-- `in_addr raw{}; inet_pton(..)`: a text that is not an address leaves zeros. -/
def rawAddress (inet : Inet) (addr : AllowedIP) : Bytes :=
  if addr.family = AF_INET6 then
    ((inet.inetPton6 addr.ip).getD (List.Vector.replicate 16 0)).toList
  else ((inet.inetPton4 addr.ip).getD (List.Vector.replicate 4 0)).toList

/-- `BuildAddrRequest`: the address is given twice, as the local one and as the one at the other
end. -/
def buildAddrRequest (inet : Inet) (msgType flags : UInt16) (time ifindex : UInt32)
    (addr : AllowedIP) : MsgBuf :=
  let nlh := putRequest msgType flags time
    { family := addr.family, prefixlen := addr.cidr, index := ifindex : IfAddrMsg }.octets
  mnlAttrPut (mnlAttrPut nlh IFA_LOCAL (rawAddress inet addr)) IFA_ADDRESS (rawAddress inet addr)

section Commands

variable (inet : Inet) (found : Bytes → UInt32) (time : UInt32)

/-- `CreateWireGuardLink` up to its message. A name that exists is refused before anything is
sent. -/
def createWireGuardLink (name : Bytes) : Except Exception MsgBuf := do
  validateIfName name
  if found name ≠ 0 then
    throw (.systemError EEXIST (ascii "interface already exists: " ++ name))
  return newLinkMessage time name

/-- `if_nametoindex` of an interface that has to be there. -/
def existingIndex (name : Bytes) : Except Exception UInt32 :=
  if found name = 0 then .error (.systemError ENODEV (ascii "no such interface: " ++ name))
  else .ok (found name)

/-- `DeleteLink` up to its message. The link is named by its index, so it must exist. -/
def deleteLink (name : Bytes) : Except Exception MsgBuf := do
  validateIfName name
  let ifindex ← existingIndex found name
  return delLinkMessage time ifindex

/-- `SetLinkUp` up to its message. -/
def setLinkUp (name : Bytes) (up : Bool) : Except Exception MsgBuf := do
  validateIfName name
  let ifindex ← existingIndex found name
  return setLinkMessage time ifindex up

/-- `AddAddress` up to its message. The request says to create the address, or to replace it
where it is there. -/
def addAddress (name cidr : Bytes) : Except Exception MsgBuf := do
  validateIfName name
  let ifindex ← existingIndex found name
  let addr ← parseCIDR inet cidr
  return buildAddrRequest inet RTM_NEWADDR
    (NLM_F_REQUEST ||| NLM_F_ACK ||| NLM_F_CREATE ||| NLM_F_REPLACE) time ifindex addr

/-- `DeleteAddress` up to its message. -/
def deleteAddress (name cidr : Bytes) : Except Exception MsgBuf := do
  validateIfName name
  let ifindex ← existingIndex found name
  let addr ← parseCIDR inet cidr
  return buildAddrRequest inet RTM_DELADDR (NLM_F_REQUEST ||| NLM_F_ACK) time ifindex addr

/-- The five functions with their arguments. They are the methods of the addon that change links
and addresses. -/
inductive Command where
  | createWireGuardLink (name : Bytes)
  | deleteLink (name : Bytes)
  | setLinkUp (name : Bytes) (up : Bool)
  | addAddress (name cidr : Bytes)
  | deleteAddress (name cidr : Bytes)
  deriving DecidableEq

/-- What a command does before it opens a socket: it is refused, or has a message to send. -/
def prepare : Command → Except Exception MsgBuf
  | .createWireGuardLink name => createWireGuardLink found time name
  | .deleteLink name => deleteLink found time name
  | .setLinkUp name up => setLinkUp found time name up
  | .addAddress name cidr => addAddress inet found time name cidr
  | .deleteAddress name cidr => deleteAddress inet found time name cidr

end Commands

/-- What a message asks rtnetlink to do. Flags are changed where the mask has a bit. -/
inductive LinkRequest where
  | create (name kind : Bytes) (flags mask : UInt32) (exclusive : Bool)
  | delete (index : UInt32)
  | change (index flags mask : UInt32)
  | addAddress (index : UInt32) (range : AllowedRange) (replace : Bool)
  | deleteAddress (index : UInt32) (range : AllowedRange)
  deriving DecidableEq

/-- An index names the link to change; without one a link is created by name and kind. -/
def readNewLink (flags : UInt16) (body : Bytes) : Option LinkRequest :=
  let index := UInt32.ofNat (unsignedAt 4 (body.drop 4))
  let set := UInt32.ofNat (unsignedAt 4 (body.drop 8))
  let mask := UInt32.ofNat (unsignedAt 4 (body.drop 12))
  if index ≠ 0 then some (.change index set mask)
  else if flags &&& NLM_F_CREATE = 0 then none
  else do
    let attrs := walk (body.drop 16)
    let name ← lookup IFLA_IFNAME attrs
    let info ← lookup IFLA_LINKINFO attrs
    let kind ← lookup IFLA_INFO_KIND (walk info)
    return .create (cString name) (cString kind) set mask (flags &&& NLM_F_EXCL ≠ 0)

/-- An address without a peer: both of its attributes are there and agree. -/
def readAddress (body : Bytes) : Option (UInt32 × AllowedRange) := do
  let attrs := walk (body.drop 8)
  let index := UInt32.ofNat (unsignedAt 4 (body.drop 4))
  let mask := UInt8.ofNat (unsignedAt 1 (body.drop 1))
  let assigned ← lookup IFA_LOCAL attrs
  let address ← lookup IFA_ADDRESS attrs
  if index = 0 ∨ assigned ≠ address ∨ unsignedAt 2 (body.drop 2) ≠ 0 then none
  else if unsignedAt 1 body = AF_INET.toNat then
    (readExact 4 assigned).map (fun addr => (index, ⟨.v4 addr, mask⟩))
  else if unsignedAt 1 body = AF_INET6.toNat then
    (readExact 16 assigned).map (fun addr => (index, ⟨.v6 addr, mask⟩))
  else none

/-- A whole message. Without both flags the sender would wait for an answer in vain. -/
def readLinkRequest (nlh : MsgBuf) : Option LinkRequest :=
  if nlh.flags &&& (NLM_F_REQUEST ||| NLM_F_ACK) ≠ NLM_F_REQUEST ||| NLM_F_ACK then none
  else if nlh.type = RTM_NEWLINK then
    if unsignedAt 1 nlh.body = AF_UNSPEC.toNat then readNewLink nlh.flags nlh.body else none
  else if nlh.type = RTM_DELLINK then
    let index := UInt32.ofNat (unsignedAt 4 (nlh.body.drop 4))
    if unsignedAt 1 nlh.body = AF_UNSPEC.toNat ∧ index ≠ 0 then some (.delete index) else none
  else if nlh.type = RTM_NEWADDR then
    (readAddress nlh.body).map (fun (index, range) =>
      .addAddress index range (nlh.flags &&& NLM_F_REPLACE ≠ 0))
  else if nlh.type = RTM_DELADDR then
    (readAddress nlh.body).map (fun (index, range) => .deleteAddress index range)
  else none

/-- Whether a name is valid can be computed by the check itself. -/
instance (name : Bytes) : Decidable (ValidName name) :=
  decidable_of_iff _ (validate_if_name_iff name)

section Meaning

variable (inet : Inet) (found : Bytes → UInt32)

/-- What is asked for an interface that has to be there. -/
def onExisting (name : Bytes) (request : UInt32 → Option LinkRequest) : Option LinkRequest :=
  if ValidName name ∧ found name ≠ 0 then request (found name) else none

/-- The range a CIDR text denotes. -/
def rangeOfText (cidr : Bytes) : Option AllowedRange :=
  (parseCIDR inet cidr).toOption.bind (rangeOf inet)

/-- What a command asks for; nothing where it is refused. A new link is left down. -/
def intent : Command → Option LinkRequest
  | .createWireGuardLink name =>
      if ValidName name ∧ found name = 0 then
        some (.create name (ascii "wireguard") 0 0xFFFFFFFF true)
      else none
  | .deleteLink name => onExisting found name (some <| .delete ·)
  | .setLinkUp name up =>
      onExisting found name (fun index => some (.change index (if up then IFF_UP else 0) IFF_UP))
  | .addAddress name cidr =>
      onExisting found name (fun index => (rangeOfText inet cidr).map (.addAddress index · true))
  | .deleteAddress name cidr =>
      onExisting found name (fun index => (rangeOfText inet cidr).map (.deleteAddress index ·))

end Meaning

/-- A number is read where it was stored. -/
theorem unsigned_at_stored (before after : Bytes) (size value : Nat) (fits : value < 256 ^ size) :
    unsignedAt size ((before ++ (littleEndian size value ++ after)).drop before.length) = value := by
  rw [List.drop_left, unsignedAt, List.take_left' (little_endian_length size value),
    from_little_endian, Nat.mod_eq_of_lt fits]

/-- The header of a link is read back, whatever follows it. Every field of it has a fixed place,
which is read with the size it was written with. -/
theorem if_info_read (ifi : IfInfoMsg) (rest : Bytes) :
    unsignedAt 1 (ifi.octets ++ rest) = ifi.family.toNat ∧
      unsignedAt 4 ((ifi.octets ++ rest).drop 4) = ifi.index.toNat ∧
      unsignedAt 4 ((ifi.octets ++ rest).drop 8) = ifi.flags.toNat ∧
      unsignedAt 4 ((ifi.octets ++ rest).drop 12) = ifi.change.toNat := by
  let start := [ifi.family, 0] ++ littleEndian 2 ifi.type.toNat
  let index := littleEndian 4 ifi.index.toNat
  let flags := littleEndian 4 ifi.flags.toNat
  let change := littleEndian 4 ifi.change.toNat
  have layout : ifi.octets ++ rest = start ++ (index ++ (flags ++ (change ++ rest))) := by
    simp [IfInfoMsg.octets, start, index, flags, change]
  have startLength : start.length = 4 := by simp [start]
  have indexLength : (start ++ index).length = 8 := by simp [start, index]
  have flagsLength : (start ++ (index ++ flags)).length = 12 := by simp [start, index, flags]
  refine ⟨?_, ?_, ?_, ?_⟩
  · simp [IfInfoMsg.octets, unsignedAt, fromLittleEndian]
  · rw [layout, ← startLength]
    exact unsigned_at_stored start _ 4 _ ifi.index.toNat_lt
  · have place := unsigned_at_stored (start ++ index) (change ++ rest) 4 _ ifi.flags.toNat_lt
    rw [indexLength, List.append_assoc] at place
    rw [layout]
    exact place
  · have place := unsigned_at_stored (start ++ (index ++ flags)) rest 4 _ ifi.change.toNat_lt
    rw [flagsLength] at place
    simp only [List.append_assoc] at place
    rw [layout]
    exact place

/-- The header of an address is read back, whatever follows it. -/
theorem if_addr_read (ifa : IfAddrMsg) (rest : Bytes) :
    unsignedAt 1 (ifa.octets ++ rest) = ifa.family.toNat ∧
      unsignedAt 1 ((ifa.octets ++ rest).drop 1) = ifa.prefixlen.toNat ∧
      unsignedAt 2 ((ifa.octets ++ rest).drop 2) = ifa.flags.toNat + 256 * ifa.scope.toNat ∧
      unsignedAt 4 ((ifa.octets ++ rest).drop 4) = ifa.index.toNat := by
  have place := unsigned_at_stored [ifa.family, ifa.prefixlen, ifa.flags, ifa.scope] rest 4 _
    ifa.index.toNat_lt
  refine ⟨?_, ?_, ?_, ?_⟩
  · simp [IfAddrMsg.octets, unsignedAt, fromLittleEndian]
  · simp [IfAddrMsg.octets, unsignedAt, fromLittleEndian]
  · simp [IfAddrMsg.octets, unsignedAt, fromLittleEndian]
  · simpa [IfAddrMsg.octets] using place

/-- A message that fits any socket buffer: no call noted a length beyond its own, and every
attribute stores the number of octets it occupies. -/
structure WellBuilt (nlh : MsgBuf) : Prop where
  short : nlh.nlmsgLen ≤ 72
  recorded : Recorded nlh
  lengths : LengthsMatch nlh.body nlh.occupied

section Messages

variable (type flags : UInt16) (time : UInt32) (header : Bytes)

/-- A request starts as its header alone, which is aligned already. -/
theorem put_request_body (words : 4 ∣ header.length) :
    (putRequest type flags time header).body = header := by
  have unpadded : padding header.length = [] := by
    rw [padding, align_of_dvd _ words, Nat.sub_self, List.replicate_zero]
  simp [putRequest, mnlNlmsgPutExtraHeader, mnlNlmsgPutHeader, MsgBuf.call, unpadded]

/-- It has recorded the size of that header. -/
theorem put_request_recorded : Recorded (putRequest type flags time header) := by
  have opened : Recorded { mnlNlmsgPutHeader with type, flags, seq := time } := by
    simp [Recorded, mnlNlmsgPutHeader, MsgBuf.call, MsgBuf.nlmsgLen]
  refine (grows_call _ _ [] (header ++ padding header.length).length ?_ ?_).recorded opened
  · simp
  · simp

/-- A request is its header and the attributes put after it. -/
theorem request_emits (nlh : MsgBuf) (forest : Forest) (words : 4 ∣ header.length)
    (emits : Emits (putRequest type flags time header) nlh forest) :
    nlh.type = type ∧ nlh.flags = flags ∧ nlh.seq = time ∧ nlh.body = header ++ forest.bytes :=
  ⟨emits.header.1, emits.header.2.1, emits.header.2.2, by
    rw [emits.body, put_request_body type flags time header words]⟩

/-- A short request is well built. -/
theorem request_well_built (nlh : MsgBuf) (forest : Forest) (budget : Nat)
    (words : 4 ∣ header.length)
    (emits : Emits (putRequest type flags time header) nlh forest)
    (grows : Grows (putRequest type flags time header) nlh budget)
    (short : header.length + forest.bytes.length ≤ 56) : WellBuilt nlh := by
  have body := (request_emits type flags time header nlh forest words emits).2.2.2
  refine ⟨?_, grows.recorded (put_request_recorded type flags time header), ?_⟩
  · rw [MsgBuf.nlmsgLen, body, List.length_append]
    simp only [nlmsgHdrLen]
    omega
  · have fits := forest.fits_of_length (by omega)
    have start := put_request_body type flags time header words
    have unfinished : (putRequest type flags time header).occupied = [] := by
      simp [putRequest, mnlNlmsgPutExtraHeader, mnlNlmsgPutHeader, MsgBuf.call]
    have lengths := (lengths_match_iff forest header []).mpr fits
    rw [List.append_nil] at lengths
    rw [body, emits.occupied, unfinished, start, List.nil_append]
    exact lengths

end Messages

/-- `struct ifinfomsg` has sixteen octets. -/
theorem if_info_length (ifi : IfInfoMsg) : ifi.octets.length = 16 := by simp [IfInfoMsg.octets]

/-- `struct ifaddrmsg` has eight. -/
theorem if_addr_length (ifa : IfAddrMsg) : ifa.octets.length = 8 := by simp [IfAddrMsg.octets]

/-- The attributes of a new link. -/
def newLinkForest (name : Bytes) : Forest :=
  .single IFLA_IFNAME (cString name ++ [0])
    ++ .singleNest IFLA_LINKINFO (.single IFLA_INFO_KIND (cString (ascii "wireguard") ++ [0]))

/-- The kind is written as the C string it is. -/
theorem kind_text : cString (ascii "wireguard") = ascii "wireguard" := by decide

/-- A C string is read back from its octets and the zero after them. -/
theorem c_string_terminated (text : Bytes) (whole : cString text = text) :
    cString (text ++ [0]) = text := by
  have plain : ∀ octet ∈ text, (octet ≠ 0 : Bool) = true := by
    simpa [cString, List.takeWhile_eq_self_iff] using whole
  rw [cString, List.takeWhile_append_of_pos plain]
  simp

/-- A name of at most fifteen octets keeps the attributes of a new link small. -/
theorem new_link_forest_length (name : Bytes) (valid : ValidName name) :
    (newLinkForest name).bytes.length ≤ 40 := by
  have short := valid.short
  have bounds := align_bounds (name.length + 1)
  have kind : (ascii "wireguard").length = 9 := by decide
  simp only [newLinkForest, Forest.bytes_append, List.length_append, single_bytes_length,
    single_nest_bytes_length, c_string_valid name valid, kind_text, kind, List.length_singleton]
  simp only [align] at bounds ⊢
  omega

/-- A request about links is read as one. -/
theorem read_link_request_new (nlh : MsgBuf) (type : nlh.type = RTM_NEWLINK)
    (flags : nlh.flags &&& (NLM_F_REQUEST ||| NLM_F_ACK) = NLM_F_REQUEST ||| NLM_F_ACK)
    (family : unsignedAt 1 nlh.body = AF_UNSPEC.toNat) :
    readLinkRequest nlh = readNewLink nlh.flags nlh.body := by
  rw [readLinkRequest, if_neg (not_not.mpr flags), if_pos type, if_pos family]

/-- A request about addresses is read as one. -/
theorem read_link_request_address (nlh : MsgBuf)
    (type : nlh.type = RTM_NEWADDR ∨ nlh.type = RTM_DELADDR)
    (flags : nlh.flags &&& (NLM_F_REQUEST ||| NLM_F_ACK) = NLM_F_REQUEST ||| NLM_F_ACK) :
    readLinkRequest nlh = (readAddress nlh.body).map (fun (index, range) =>
      if nlh.type = RTM_NEWADDR then .addAddress index range (nlh.flags &&& NLM_F_REPLACE ≠ 0)
      else .deleteAddress index range) := by
  rw [readLinkRequest, if_neg (not_not.mpr flags)]
  rcases type with added | removed
  · rw [added]
    rfl
  · rw [removed]
    rfl

/-- The attributes of a new link are found by their types. -/
theorem new_link_lookups (name : Bytes) (valid : ValidName name) :
    lookup IFLA_IFNAME (newLinkForest name).attrs = some (name ++ [0]) ∧
      lookup IFLA_LINKINFO (newLinkForest name).attrs =
        some (Forest.single IFLA_INFO_KIND (ascii "wireguard" ++ [0])).bytes ∧
      lookup IFLA_INFO_KIND (walk (Forest.single IFLA_INFO_KIND (ascii "wireguard" ++ [0])).bytes) =
        some (ascii "wireguard" ++ [0]) := by
  have nameFirst : IFLA_IFNAME &&& 0x3FFF = IFLA_IFNAME := by decide
  have infoLater : Forest.nestedType IFLA_LINKINFO &&& 0x3FFF = IFLA_LINKINFO := by decide
  have distinct : IFLA_LINKINFO ≠ IFLA_IFNAME := by decide
  have inner : (Forest.single IFLA_INFO_KIND (ascii "wireguard" ++ [0])).Fits :=
    Forest.fits_of_length _ (by decide)
  refine ⟨?_, ?_, ?_⟩
  · simp [newLinkForest, nameFirst, infoLater, distinct, c_string_valid name valid]
  · simp [newLinkForest, infoLater, kind_text]
  · rw [Forest.walk_bytes _ inner]
    decide

section Reading

variable (time : UInt32)

/-- A new link is read as the creation of a WireGuard link that is not there yet. -/
theorem read_new_link_message (name : Bytes) (valid : ValidName name) :
    readLinkRequest (newLinkMessage time name) =
        some (.create name (ascii "wireguard") 0 0xFFFFFFFF true) ∧
      (newLinkMessage time name).seq = time ∧ WellBuilt (newLinkMessage time name) := by
  let ifi : IfInfoMsg := { change := 0xFFFFFFFF }
  let request := putRequest RTM_NEWLINK
    (NLM_F_REQUEST ||| NLM_F_ACK ||| NLM_F_CREATE ||| NLM_F_EXCL) time ifi.octets
  have words : 4 ∣ ifi.octets.length := by rw [if_info_length]; decide
  have emits : Emits request (newLinkMessage time name) (newLinkForest name) :=
    emits_trans (emits_put request _ _)
      (emits_nest _ _ IFLA_LINKINFO _ (emits_put _ IFLA_INFO_KIND _))
  have grows : Grows request (newLinkMessage time name) _ :=
    grows_trans (grows_put request _ _) (grows_nest _ _ IFLA_LINKINFO _ (grows_put _ _ _))
  have size := new_link_forest_length name valid
  obtain ⟨type, flags, seq, body⟩ := request_emits _ _ _ _ _ _ words emits
  refine ⟨?_, seq, ?_⟩
  · have fits : (newLinkForest name).Fits := Forest.fits_of_length _ (by omega)
    obtain ⟨named, info, kind⟩ := new_link_lookups name valid
    obtain ⟨family, index, set, mask⟩ := if_info_read ifi (newLinkForest name).bytes
    have rest : (ifi.octets ++ (newLinkForest name).bytes).drop 16 = (newLinkForest name).bytes :=
      List.drop_left' (if_info_length ifi)
    have create : (NLM_F_REQUEST ||| NLM_F_ACK ||| NLM_F_CREATE ||| NLM_F_EXCL) &&& NLM_F_CREATE ≠ 0 :=
      by decide
    have exclusive : (NLM_F_REQUEST ||| NLM_F_ACK ||| NLM_F_CREATE ||| NLM_F_EXCL) &&& NLM_F_EXCL ≠ 0 :=
      by decide
    rw [read_link_request_new _ type (by rw [flags]; decide) (by rw [body, family]), flags, body,
      readNewLink]
    simp only [index, set, mask, rest, Forest.walk_bytes _ fits, named, info, kind, create,
      Option.bind_eq_bind, Option.bind_some]
    rw [c_string_terminated name (c_string_valid name valid), c_string_terminated _ kind_text]
    simp [exclusive, ifi]
  · exact request_well_built _ _ _ _ _ _ _ words emits grows (by rw [if_info_length]; omega)

/-- A request without attributes is well built. -/
theorem bare_request_well_built (type flags : UInt16) (ifi : IfInfoMsg) :
    WellBuilt (putRequest type flags time ifi.octets) := by
  have words : 4 ∣ ifi.octets.length := by rw [if_info_length]; decide
  exact request_well_built _ _ _ _ _ .nil 0 words (emits_refl _) (grows_refl _)
    (by rw [if_info_length]; decide)

/-- A deletion names its link by index. -/
theorem read_del_link_message (ifindex : UInt32) (present : ifindex ≠ 0) :
    readLinkRequest (delLinkMessage time ifindex) = some (.delete ifindex) := by
  have words : 4 ∣ ({ index := ifindex } : IfInfoMsg).octets.length := by
    rw [if_info_length]; decide
  obtain ⟨type, flags, -, body⟩ := request_emits RTM_DELLINK (NLM_F_REQUEST ||| NLM_F_ACK) time _
    _ .nil words (emits_refl _)
  obtain ⟨family, index, -⟩ := if_info_read { index := ifindex } Forest.nil.bytes
  have other : RTM_DELLINK ≠ RTM_NEWLINK := by decide
  rw [delLinkMessage, readLinkRequest, type, flags, body]
  simp only [family, index, UInt32.ofNat_toNat]
  rw [if_neg (not_not.mpr (by decide)), if_neg other, if_pos trivial, if_pos ⟨trivial, present⟩]

/-- Setting a link up or down changes the one flag and leaves the others. -/
theorem read_set_link_message (ifindex : UInt32) (up : Bool) (present : ifindex ≠ 0) :
    readLinkRequest (setLinkMessage time ifindex up) =
      some (.change ifindex (if up then IFF_UP else 0) IFF_UP) := by
  let ifi : IfInfoMsg := { index := ifindex, change := IFF_UP, flags := if up then IFF_UP else 0 }
  have words : 4 ∣ ifi.octets.length := by rw [if_info_length]; decide
  obtain ⟨type, flags, -, body⟩ := request_emits RTM_NEWLINK (NLM_F_REQUEST ||| NLM_F_ACK) time _
    _ .nil words (emits_refl _)
  obtain ⟨family, index, set, mask⟩ := if_info_read ifi []
  rw [setLinkMessage, read_link_request_new _ type (by rw [flags]; decide) (by rw [body]; exact family),
    flags, body, readNewLink]
  simp only [Forest.bytes, index, set, mask, UInt32.ofNat_toNat]
  rw [if_pos present]

variable (inet : Inet)

/-- The octets of an address are as many as its family has. -/
theorem raw_address_length (addr : AllowedIP) :
    (rawAddress inet addr).length = if addr.family = AF_INET6 then 16 else 4 := by
  rw [rawAddress]
  split <;> exact List.Vector.toList_length _

/-- The attributes of an address. The same octets stand for both ends. -/
def addressForest (addr : AllowedIP) : Forest :=
  .single IFA_LOCAL (rawAddress inet addr) ++ .single IFA_ADDRESS (rawAddress inet addr)

/-- Two addresses take at most forty octets. -/
theorem address_forest_length (addr : AllowedIP) : (addressForest inet addr).bytes.length ≤ 40 := by
  simp only [addressForest, Forest.bytes_append, List.length_append, single_bytes_length,
    raw_address_length]
  split <;> decide

/-- The header of an address request has what it was built with. -/
theorem address_message_header (msgType flags : UInt16) (ifindex : UInt32) (addr : AllowedIP) :
    (buildAddrRequest inet msgType flags time ifindex addr).type = msgType ∧
      (buildAddrRequest inet msgType flags time ifindex addr).flags = flags ∧
      (buildAddrRequest inet msgType flags time ifindex addr).seq = time := ⟨rfl, rfl, rfl⟩

/-- An address request is read as the range of a readable record. The family decides how many
octets the address has, and a readable record has a text of that family, so the octets are those
of its range. -/
theorem read_address_message (msgType flags : UInt16) (ifindex : UInt32) (addr : AllowedIP)
    (present : ifindex ≠ 0) (readable : Readable inet addr) :
    readAddress (buildAddrRequest inet msgType flags time ifindex addr).body =
        (rangeOf inet addr).map (fun range => (ifindex, range)) ∧ (rangeOf inet addr).isSome := by
  let ifa : IfAddrMsg := { family := addr.family, prefixlen := addr.cidr, index := ifindex }
  have words : 4 ∣ ifa.octets.length := by rw [if_addr_length]; decide
  have emits : Emits (putRequest msgType flags time ifa.octets)
      (buildAddrRequest inet msgType flags time ifindex addr) (addressForest inet addr) :=
    emits_trans (emits_put _ _ _) (emits_put _ _ _)
  have fits : (addressForest inet addr).Fits :=
    Forest.fits_of_length _ (by have := address_forest_length inet addr; omega)
  obtain ⟨-, -, -, body⟩ := request_emits _ _ _ _ _ _ words emits
  obtain ⟨family, mask, zeros, index⟩ := if_addr_read ifa (addressForest inet addr).bytes
  have rest : (ifa.octets ++ (addressForest inet addr).bytes).drop 8 = (addressForest inet addr).bytes :=
    List.drop_left' (if_addr_length ifa)
  have assigned : lookup IFA_LOCAL (addressForest inet addr).attrs = some (rawAddress inet addr) := by
    simp +decide [addressForest]
  have address : lookup IFA_ADDRESS (addressForest inet addr).attrs = some (rawAddress inet addr) := by
    simp +decide [addressForest]
  rw [body, readAddress]
  simp only [family, mask, zeros, index, rest, Forest.walk_bytes _ fits, assigned, address,
    Option.bind_eq_bind, Option.bind_some]
  rcases readable.family with ⟨isSix, known, -⟩ | ⟨isFour, -, known, -⟩
  · obtain ⟨octets, parsed⟩ := Option.isSome_iff_exists.mp known
    have raw : rawAddress inet addr = octets.toList := by simp [rawAddress, isSix, parsed]
    have notFour : AF_INET6 ≠ AF_INET := by decide
    have notFourNumber : AF_INET6.toNat ≠ AF_INET.toNat := by decide
    simp [ifa, isSix, present, raw, read_exact_octets, rangeOf, notFour, notFourNumber, parsed]
  · obtain ⟨octets, parsed⟩ := Option.isSome_iff_exists.mp known
    have notSix : AF_INET ≠ AF_INET6 := by decide
    have raw : rawAddress inet addr = octets.toList := by simp [rawAddress, isFour, notSix, parsed]
    simp [ifa, isFour, present, raw, read_exact_octets, rangeOf, parsed]

/-- An address request is well built, for any family. -/
theorem address_message_well_built (msgType flags : UInt16) (ifindex : UInt32) (addr : AllowedIP) :
    WellBuilt (buildAddrRequest inet msgType flags time ifindex addr) := by
  let ifa : IfAddrMsg := { family := addr.family, prefixlen := addr.cidr, index := ifindex }
  have words : 4 ∣ ifa.octets.length := by rw [if_addr_length]; decide
  have size := address_forest_length inet addr
  exact request_well_built msgType flags time ifa.octets _ (addressForest inet addr) _ words
    (emits_trans (emits_put _ _ _) (emits_put _ _ _))
    (grows_trans (grows_put _ _ _) (grows_put _ _ _)) (by rw [if_addr_length]; omega)

end Reading

section Intents

variable (inet : Inet) (found : Bytes → UInt32) (time : UInt32)

/-- A command gets past the check of its name. -/
theorem named_ok_iff (name : Bytes) (rest : Unit → Except Exception MsgBuf) (nlh : MsgBuf) :
    (validateIfName name >>= rest) = .ok nlh ↔ ValidName name ∧ rest () = .ok nlh := by
  rw [bind_ok_iff, ← validate_if_name_iff]
  exact ⟨fun ⟨_, valid, done⟩ => ⟨valid, done⟩, fun ⟨valid, done⟩ => ⟨(), valid, done⟩⟩

/-- A command on an interface that has to be there gets past its name and its index. -/
theorem existing_ok_iff (name : Bytes) (rest : UInt32 → Except Exception MsgBuf) (nlh : MsgBuf) :
    (do validateIfName name; let ifindex ← existingIndex found name; rest ifindex) = .ok nlh ↔
      ValidName name ∧ found name ≠ 0 ∧ rest (found name) = .ok nlh := by
  rw [named_ok_iff, bind_ok_iff]
  by_cases absent : found name = 0
  · simp [existingIndex, absent]
  · simp [existingIndex, absent]

/-- A creation is sent for a valid name that no interface has. -/
theorem create_ok_iff (name : Bytes) (nlh : MsgBuf) :
    createWireGuardLink found time name = .ok nlh ↔
      ValidName name ∧ found name = 0 ∧ newLinkMessage time name = nlh := by
  rw [createWireGuardLink, named_ok_iff]
  by_cases absent : found name = 0
  · simp [absent, pure, Except.pure]
  · simp [absent, throw, throwThe, MonadExceptOf.throw, bind, Except.bind]

/-- A request about an address is built where its text is one. -/
theorem address_ok_iff (cidr : Bytes) (message : AllowedIP → MsgBuf) (nlh : MsgBuf) :
    (do let addr ← parseCIDR inet cidr; return message addr) = .ok nlh ↔
      ∃ addr, parseCIDR inet cidr = .ok addr ∧ message addr = nlh := by
  simp [bind_ok_iff, pure, Except.pure]

/-- An intent about an existing interface is about an accepted name and its index. -/
theorem on_existing_some (name : Bytes) (request : UInt32 → Option LinkRequest) (asked : LinkRequest)
    (intended : onExisting found name request = some asked) :
    ValidName name ∧ found name ≠ 0 ∧ request (found name) = some asked := by
  rw [onExisting] at intended
  split at intended
  · rename_i accepted
    exact ⟨accepted.1, accepted.2, intended⟩
  · cases intended

/-- A range is denoted by an accepted text only. -/
theorem range_of_text_some (cidr : Bytes) (request : AllowedRange → LinkRequest)
    (asked : LinkRequest) (intended : (rangeOfText inet cidr).map request = some asked) :
    ∃ addr, parseCIDR inet cidr = .ok addr := by
  cases parsed : parseCIDR inet cidr with
  | ok addr => exact ⟨addr, rfl⟩
  | error failure =>
    rw [rangeOfText, parsed] at intended
    cases intended

/-- A prepared message is read as the intent. The cases are the commands. In each the checks are
passed in the order of the source, and the message that is built then is read field by field. -/
theorem prepared_reads (command : Command) (nlh : MsgBuf)
    (prepared : prepare inet found time command = .ok nlh) :
    readLinkRequest nlh = intent inet found command ∧ (intent inet found command).isSome ∧
      nlh.seq = time ∧ WellBuilt nlh := by
  cases command with
  | createWireGuardLink name =>
    obtain ⟨valid, absent, rfl⟩ := (create_ok_iff found time name nlh).mp prepared
    obtain ⟨read, seq, built⟩ := read_new_link_message time name valid
    have meaning : intent inet found (.createWireGuardLink name) =
        some (.create name (ascii "wireguard") 0 0xFFFFFFFF true) := by
      simp [intent, valid, absent]
    rw [meaning]
    exact ⟨read, Option.isSome_some, seq, built⟩
  | deleteLink name =>
    obtain ⟨valid, present, done⟩ := (existing_ok_iff found name _ nlh).mp prepared
    obtain rfl := Except.ok.inj done
    have meaning : intent inet found (.deleteLink name) = some (.delete (found name)) := by
      simp [intent, onExisting, valid, present]
    rw [meaning]
    exact ⟨read_del_link_message time _ present, Option.isSome_some, rfl,
      bare_request_well_built time _ _ _⟩
  | setLinkUp name up =>
    obtain ⟨valid, present, done⟩ := (existing_ok_iff found name _ nlh).mp prepared
    obtain rfl := Except.ok.inj done
    have meaning : intent inet found (.setLinkUp name up) =
        some (.change (found name) (if up then IFF_UP else 0) IFF_UP) := by
      simp [intent, onExisting, valid, present]
    rw [meaning]
    exact ⟨read_set_link_message time _ up present, Option.isSome_some, rfl,
      bare_request_well_built time _ _ _⟩
  | addAddress name cidr =>
    obtain ⟨valid, present, done⟩ := (existing_ok_iff found name _ nlh).mp prepared
    obtain ⟨addr, accepted, rfl⟩ := (address_ok_iff inet cidr _ nlh).mp done
    obtain ⟨type, flags, seq⟩ := address_message_header time inet RTM_NEWADDR
      (NLM_F_REQUEST ||| NLM_F_ACK ||| NLM_F_CREATE ||| NLM_F_REPLACE) (found name) addr
    obtain ⟨read, denoted⟩ := read_address_message time inet RTM_NEWADDR
      (NLM_F_REQUEST ||| NLM_F_ACK ||| NLM_F_CREATE ||| NLM_F_REPLACE) (found name) addr present
      (parse_cidr_readable inet cidr addr accepted).1
    have meaning : intent inet found (.addAddress name cidr) =
        (rangeOf inet addr).map (.addAddress (found name) · true) := by
      simp [intent, onExisting, rangeOfText, valid, present, accepted, Except.toOption]
    rw [meaning]
    refine ⟨?_, by simpa using denoted, seq, address_message_well_built time inet _ _ _ _⟩
    rw [read_link_request_address _ (.inl type) (by rw [flags]; decide), read, type, flags, Option.map_map]
    rfl
  | deleteAddress name cidr =>
    obtain ⟨valid, present, done⟩ := (existing_ok_iff found name _ nlh).mp prepared
    obtain ⟨addr, accepted, rfl⟩ := (address_ok_iff inet cidr _ nlh).mp done
    obtain ⟨type, flags, seq⟩ := address_message_header time inet RTM_DELADDR
      (NLM_F_REQUEST ||| NLM_F_ACK) (found name) addr
    obtain ⟨read, denoted⟩ := read_address_message time inet RTM_DELADDR
      (NLM_F_REQUEST ||| NLM_F_ACK) (found name) addr present
      (parse_cidr_readable inet cidr addr accepted).1
    have meaning : intent inet found (.deleteAddress name cidr) =
        (rangeOf inet addr).map (.deleteAddress (found name) ·) := by
      simp [intent, onExisting, rangeOfText, valid, present, accepted, Except.toOption]
    rw [meaning]
    refine ⟨?_, by simpa using denoted, seq, address_message_well_built time inet _ _ _ _⟩
    rw [read_link_request_address _ (.inr type) (by rw [flags]; decide), read, type, flags, Option.map_map]
    rfl

/-- A command with an intent has a message. The intent asks for a valid name, for an interface
that exists or not, and for an address that parses, which are the checks of the command. -/
theorem intended_prepares (command : Command) (asked : LinkRequest)
    (intended : intent inet found command = some asked) :
    ∃ nlh, prepare inet found time command = .ok nlh := by
  cases command with
  | createWireGuardLink name =>
    simp only [intent] at intended
    split at intended
    · rename_i accepted
      exact ⟨_, (create_ok_iff found time name _).mpr ⟨accepted.1, accepted.2, rfl⟩⟩
    · cases intended
  | deleteLink name =>
    simp only [intent] at intended
    obtain ⟨valid, present, -⟩ := on_existing_some found name _ asked intended
    exact ⟨_, (existing_ok_iff found name _ _).mpr ⟨valid, present, rfl⟩⟩
  | setLinkUp name up =>
    simp only [intent] at intended
    obtain ⟨valid, present, -⟩ := on_existing_some found name _ asked intended
    exact ⟨_, (existing_ok_iff found name _ _).mpr ⟨valid, present, rfl⟩⟩
  | addAddress name cidr =>
    simp only [intent] at intended
    obtain ⟨valid, present, denoted⟩ := on_existing_some found name _ asked intended
    obtain ⟨addr, accepted⟩ := range_of_text_some inet cidr _ asked denoted
    exact ⟨_, (existing_ok_iff found name _ _).mpr ⟨valid, present,
      (address_ok_iff inet cidr _ _).mpr ⟨addr, accepted, rfl⟩⟩⟩
  | deleteAddress name cidr =>
    simp only [intent] at intended
    obtain ⟨valid, present, denoted⟩ := on_existing_some found name _ asked intended
    obtain ⟨addr, accepted⟩ := range_of_text_some inet cidr _ asked denoted
    exact ⟨_, (existing_ok_iff found name _ _).mpr ⟨valid, present,
      (address_ok_iff inet cidr _ _).mpr ⟨addr, accepted, rfl⟩⟩⟩

/-- What a command prepares is read as its intent and fits any buffer, and a command that is
refused has no intent.

Proof: one case for each command. Its message is a header with a forest of attributes, which is
read back as written because every length is small; what was asked for is looked up in it field
by field. A command is refused exactly where the intent has no request, for the same checks. -/
theorem prepare_carries_intent (command : Command) :
    match prepare inet found time command with
    | .ok nlh => readLinkRequest nlh = intent inet found command ∧
        (intent inet found command).isSome ∧ nlh.seq = time ∧ WellBuilt nlh
    | .error _ => intent inet found command = none := by
  cases outcome : prepare inet found time command with
  | ok nlh => exact prepared_reads inet found time command nlh outcome
  | error failure =>
    change intent inet found command = none
    rw [Option.eq_none_iff_forall_ne_some]
    intro asked intended
    obtain ⟨nlh, prepared⟩ := intended_prepares inet found time command asked intended
    rw [outcome] at prepared
    cases prepared

end Intents

end NodeWireguard.LinkRequests
