import Mathlib
import NodeWireguard.Foundations.KeyedOrder
import NodeWireguard.Foundations.RelatedLists
import NodeWireguard.Netlink.DumpReassembly

/-!
# The order of attributes in a dump message

Attributes of a nest are a set by protocol. `ParseDeviceMessage` folds its callbacks over
them at three levels, and at two of them every callback writes a field of its own. The
callback of an allowed-ip entry reads the family that an earlier attribute has set, or
the octet that a fresh record happens to hold where none has, to choose how an address is
written. So two orders give the same device exactly when each address is read under the
same choice, and the octets that a fresh record keeps are the same where an entry has no
family or no mask.

One message and the device it is parsed into are considered. The octets of a fresh record
are those of the entry it is made for; an entry whose attributes were moved may find others.
A payload shorter than what its reader takes counts as filled up with zeros; what the reader
would find behind it in memory is not modelled.
-/

namespace NodeWireguard.AttributeOrder

open ByteText AddressText AddressForms AttributeStream KeyedOrder RelatedLists SocketAddress DeviceDump
  DumpReassembly WireguardUapi

/-- The attributes of a nest, as its callback sees them. -/
def fieldsIn (payload : Bytes) : List Field := (walk payload).map fieldOf

/-- The same attributes in some order, each related to the one in its place. -/
def LevelReordered (child : Field → Field → Prop) (left right : Bytes) : Prop :=
  ∃ order, Reordered (fieldsIn left) order ∧ List.Forall₂ child order (fieldsIn right)

/-- The same attribute, unless it is a list of this type: then its elements are related in
their order. -/
def SameBut (kind : UInt16) (element : Bytes → Bytes → Prop) (left right : Field) : Prop :=
  left = right ∨ (left.1 = kind ∧ right.1 = kind ∧
    List.Forall₂ (fun l r => element l.payload r.payload) (walk left.2) (walk right.2))

/-- An allowed-ip entry with its attributes in another order. -/
def RangeReordered (left right : Bytes) : Prop := LevelReordered Eq left right

/-- A peer entry with its attributes, and those of its allowed-ip entries, in another
order. -/
def PeerReordered (left right : Bytes) : Prop :=
  LevelReordered (SameBut WGPEER_A_ALLOWEDIPS RangeReordered) left right

/-- A message with the attributes of its three levels in another order, and the entries of
its lists in the same. -/
def MessageReordered (left right : Bytes) : Prop :=
  LevelReordered (SameBut WGDEVICE_A_PEERS PeerReordered) (left.drop 4) (right.drop 4)

/-- The entries of the lists of one type, in order. -/
def nested (kind : UInt16) (fields : List Field) : List Bytes :=
  (withKey kind fields).flatMap (fun field => (walk field.2).map Attr.payload)

/-- The allowed-ip entries of a peer entry. -/
def rangesIn (entry : Bytes) : List Bytes := nested WGPEER_A_ALLOWEDIPS (fieldsIn entry)

/-- The peer entries of a message. -/
def peersIn (message : Bytes) : List Bytes := nested WGDEVICE_A_PEERS (fieldsIn (message.drop 4))

/-- The family in force, and whether the last address so far was read as IPv6. -/
def noteField (state : UInt8 × Option Bool) (field : Field) : UInt8 × Option Bool :=
  if field.1 = WGALLOWEDIP_A_FAMILY then (UInt8.ofNat (unsignedAt 2 field.2), state.2)
  else if field.1 = WGALLOWEDIP_A_IPADDR then (state.1, some (decide (state.1 = AF_INET6)))
  else state

/-- Whether the address of an allowed-ip entry stands behind the IPv6 family, or before any
family in a record that happens to hold it. -/
def addressReadAs (family : UInt8) (entry : Bytes) : Option Bool :=
  ((fieldsIn entry).foldl noteField (family, none)).2

/-- The octet of a fresh record, where no attribute of an entry replaces it. -/
def keptOctet (kind : UInt16) (octet : UInt8) (entry : Bytes) : Option UInt8 :=
  if withKey kind (fieldsIn entry) = [] then some octet else none

/-- What an entry owes to the order of its attributes and to memory: the choice for its
address, and the family and the mask where no attribute gives them. -/
structure Reading where
  address : Option Bool
  family : Option UInt8
  mask : Option UInt8
  deriving DecidableEq

/-- The reading of an allowed-ip entry. -/
def readingOf (fresh : FreshOctets) (entry : Bytes) : Reading where
  address := addressReadAs (fresh entry).1 entry
  family := keptOctet WGALLOWEDIP_A_FAMILY (fresh entry).1 entry
  mask := keptOctet WGALLOWEDIP_A_CIDR_MASK (fresh entry).2 entry

/-- The readings of a message, entry by entry. This is all that the order of attributes can
change about it. -/
def readings (fresh : FreshOctets) (message : Bytes) : List Reading :=
  ((peersIn message).flatMap rangesIn).map (readingOf fresh)

section Levels

variable {kind : UInt16} {element : Bytes → Bytes → Prop}

/-- Every level is a reordering of itself when its fields are. -/
theorem level_reflexive (child : Field → Field → Prop) (same : ∀ field, child field field) (payload : Bytes) :
    LevelReordered child payload payload :=
  ⟨fieldsIn payload, .inl rfl, List.forall₂_same.mpr (fun field _ => same field)⟩

/-- Up to their lists, related attributes are the same. -/
theorem without_lists_same (left right : List Field)
    (related : List.Forall₂ (SameBut kind element) left right) :
    withoutKey kind left = withoutKey kind right := by
  induction related with
  | nil => rfl
  | cons first rest inductionHypothesis =>
    rw [withoutKey] at inductionHypothesis ⊢
    rw [withoutKey] at inductionHypothesis ⊢
    rcases first with rfl | ⟨leftKind, rightKind, -⟩
    · rw [List.filter_cons, List.filter_cons, inductionHypothesis]
    · rw [List.filter_cons_of_neg (by simp [leftKind]), List.filter_cons_of_neg (by simp [rightKind])]
      exact inductionHypothesis

/-- The entries of the lists are related in their order. -/
theorem nested_related (reflexive : ∀ payload, element payload payload) (left right : List Field)
    (related : List.Forall₂ (SameBut kind element) left right) :
    List.Forall₂ element (nested kind left) (nested kind right) := by
  induction related with
  | nil => exact .nil
  | cons first rest inductionHypothesis =>
    rename_i l r left right
    have split (field : Field) (fields : List Field) : nested kind (field :: fields) =
        (if field.1 = kind then (walk field.2).map Attr.payload else []) ++ nested kind fields := by
      by_cases same : field.1 = kind <;> simp [nested, withKey, same]
    rw [split, split]
    apply List.rel_append _ inductionHypothesis
    rcases first with rfl | ⟨leftKind, rightKind, elements⟩
    · exact List.forall₂_same.mpr (fun payload _ => reflexive payload)
    · rw [if_pos leftKind, if_pos rightKind]
      exact List.forall₂_map_left_iff.mpr (List.forall₂_map_right_iff.mpr elements)

/-- What a reordering leaves: the attributes besides the lists up to order, and the entries
of the lists one by one. -/
theorem level_parts (reflexive : ∀ payload, element payload payload) (left right : Bytes)
    (reordered : LevelReordered (SameBut kind element) left right) :
    Reordered (withoutKey kind (fieldsIn left)) (withoutKey kind (fieldsIn right)) ∧
      List.Forall₂ element (nested kind (fieldsIn left)) (nested kind (fieldsIn right)) := by
  obtain ⟨order, moved, related⟩ := reordered
  refine ⟨?_, ?_⟩
  · rw [← without_lists_same order _ related]
    exact without_key_reordered kind _ _ moved
  · rw [nested, with_key_reordered kind _ _ moved, ← nested]
    exact nested_related reflexive order _ related

end Levels

/-- The attributes of a range reorder to themselves, -/
theorem range_reflexive (payload : Bytes) : RangeReordered payload payload :=
  level_reflexive _ (fun _ => rfl) payload

/-- and so do those of a peer. -/
theorem peer_reflexive (payload : Bytes) : PeerReordered payload payload :=
  level_reflexive _ (fun _ => .inl rfl) payload

section Ranges

variable (inet : Inet) (fresh : FreshOctets)

/-- The record of an allowed-ip entry. -/
def readRange (entry : Bytes) : AllowedIP :=
  (fieldsIn entry).foldl (parseAllowedIPField inet) ⟨[], (fresh entry).1, (fresh entry).2⟩

/-- An allowed-ip entry appends its record. -/
theorem parse_entry_read (list : List AllowedIP) (attr : Attr) :
    parseAllowedIPEntry inet fresh list attr = list ++ [readRange inet fresh attr.payload] := by
  rw [parseAllowedIPEntry, readRange, fieldsIn, List.foldl_map]
  rfl

/-- The entries of a list append their records in order. -/
theorem parse_entries_read (attrs : List Attr) (list : List AllowedIP) :
    attrs.foldl (parseAllowedIPEntry inet fresh) list =
      list ++ (attrs.map Attr.payload).map (readRange inet fresh) := by
  induction attrs generalizing list with
  | nil => simp
  | cons attr rest inductionHypothesis =>
    rw [List.foldl_cons, parse_entry_read, inductionHypothesis]
    simp

/-- The octet of the mask attribute, where it is one. -/
def maskStep (mask : UInt8) (field : Field) : UInt8 :=
  if field.1 = WGALLOWEDIP_A_CIDR_MASK then field.2.getD 0 0 else mask

/-- The family of the family attribute, where it is one. -/
def familyStep (family : UInt8) (field : Field) : UInt8 :=
  if field.1 = WGALLOWEDIP_A_FAMILY then UInt8.ofNat (unsignedAt 2 field.2) else family

/-- Family and mask of a record only depend on the attributes of their own type. -/
theorem range_scalars (fields : List Field) (start : AllowedIP) :
    (fields.foldl (parseAllowedIPField inet) start).family = fields.foldl familyStep start.family ∧
      (fields.foldl (parseAllowedIPField inet) start).cidr = fields.foldl maskStep start.cidr := by
  constructor
  · refine (List.foldl_hom AllowedIP.family ?_).symm
    intro out field
    unfold familyStep parseAllowedIPField
    split_ifs <;> rfl
  · refine (List.foldl_hom AllowedIP.cidr ?_).symm
    intro out field
    unfold maskStep parseAllowedIPField
    split_ifs with family address mask <;> simp_all +decide

/-- The text of a record is that of the last address, in the family in force there. -/
theorem range_address (fields : List Field) (start : AllowedIP) :
    (fields.foldl (parseAllowedIPField inet) start).family =
        (fields.foldl noteField (start.family, none)).1 ∧
      ((withKey WGALLOWEDIP_A_IPADDR fields = [] ∧
          (fields.foldl noteField (start.family, none)).2 = none ∧
          (fields.foldl (parseAllowedIPField inet) start).ip = start.ip) ∨
        ∃ field six, (withKey WGALLOWEDIP_A_IPADDR fields).getLast? = some field ∧
          (fields.foldl noteField (start.family, none)).2 = some six ∧
          (fields.foldl (parseAllowedIPField inet) start).ip =
            if six then inet.ntop6 (octetsOf 16 field.2) else inet.ntop4 (octetsOf 4 field.2)) := by
  induction fields using List.reverseRecOn with
  | nil => exact ⟨rfl, .inl ⟨rfl, rfl, rfl⟩⟩
  | append_singleton fields field inductionHypothesis =>
    obtain ⟨family, address⟩ := inductionHypothesis
    simp only [List.foldl_append, List.foldl_cons, List.foldl_nil]
    generalize fields.foldl (parseAllowedIPField inet) start = out at family address ⊢
    generalize fields.foldl noteField (start.family, none) = seen at family address ⊢
    have others (different : field.1 ≠ WGALLOWEDIP_A_IPADDR) :
        withKey WGALLOWEDIP_A_IPADDR (fields ++ [field]) = withKey WGALLOWEDIP_A_IPADDR fields := by
      simp [withKey, different]
    by_cases isFamily : field.1 = WGALLOWEDIP_A_FAMILY
    · rw [others (by rw [isFamily]; decide)]
      simp only [parseAllowedIPField, noteField, isFamily, ↓reduceIte, true_and]
      exact address
    · by_cases isAddress : field.1 = WGALLOWEDIP_A_IPADDR
      · have last : (withKey WGALLOWEDIP_A_IPADDR (fields ++ [field])).getLast? = some field := by
          simp [withKey, isAddress]
        have different : WGALLOWEDIP_A_IPADDR ≠ WGALLOWEDIP_A_FAMILY := by decide
        simp only [parseAllowedIPField, noteField, isAddress, different, ↓reduceIte]
        refine ⟨?_, .inr ⟨field, decide (seen.1 = AF_INET6), last, rfl, ?_⟩⟩
        · split_ifs <;> exact family
        · rw [family]
          by_cases six : seen.1 = AF_INET6 <;> simp [six]
      · have kept : (parseAllowedIPField inet out field).family = out.family ∧
            (parseAllowedIPField inet out field).ip = out.ip := by
          rw [parseAllowedIPField, if_neg isFamily, if_neg isAddress]
          split_ifs <;> exact ⟨rfl, rfl⟩
        rw [others isAddress, kept.1, kept.2, noteField, if_neg isFamily, if_neg isAddress]
        exact ⟨family, address⟩

/-- Attributes of ranges have no inner order, so reordering them is reordering the fields. -/
theorem range_same_order (left right : Bytes) (reordered : RangeReordered left right) :
    Reordered (fieldsIn left) (fieldsIn right) := by
  obtain ⟨order, moved, related⟩ := reordered
  rw [List.forall₂_eq_eq_eq] at related
  exact related ▸ moved

/-- The octets that two orders of an entry keep are the same unless no attribute replaces them
and memory held others. -/
theorem kept_octet_iff (kind : UInt16) (left right : Bytes) (reordered : RangeReordered left right)
    (octet other : UInt8) : keptOctet kind octet left = keptOctet kind other right ↔
      (withKey kind (fieldsIn left) = [] → octet = other) := by
  have same := with_key_reordered kind _ _ (range_same_order left right reordered)
  rw [keptOctet, keptOctet, same]
  split_ifs with none <;> simp [none]

/-- Two orders of an entry give the same family exactly when they keep the same octet. -/
theorem range_family_iff (left right : Bytes) (reordered : RangeReordered left right) :
    (readRange inet fresh left).family = (readRange inet fresh right).family ↔
      (readingOf fresh left).family = (readingOf fresh right).family := by
  rw [readRange, readRange, (range_scalars inet _ _).1, (range_scalars inet _ _).1, readingOf, readingOf,
    kept_octet_iff _ left right reordered]
  exact fold_keyed_reordered_iff WGALLOWEDIP_A_FAMILY
    (fun payload => UInt8.ofNat (unsignedAt 2 payload)) familyStep (fun _ _ => rfl) _ _
    (range_same_order left right reordered) _ _

/-- Two orders of an entry give the same mask exactly when they keep the same octet. -/
theorem range_mask_iff (left right : Bytes) (reordered : RangeReordered left right) :
    (readRange inet fresh left).cidr = (readRange inet fresh right).cidr ↔
      (readingOf fresh left).mask = (readingOf fresh right).mask := by
  rw [readRange, readRange, (range_scalars inet _ _).2, (range_scalars inet _ _).2, readingOf, readingOf,
    kept_octet_iff _ left right reordered]
  exact fold_keyed_reordered_iff WGALLOWEDIP_A_CIDR_MASK (fun payload => payload.getD 0 0) maskStep
    (fun _ _ => rfl) _ _ (range_same_order left right reordered) _ _

/-- Two orders of an entry give the same text exactly when its address is read under the same
choice: what `inet_ntop` writes for one family is never what it writes for the other. -/
theorem range_text_iff (lawful : inet.Lawful) (left right : Bytes) (reordered : RangeReordered left right) :
    (readRange inet fresh left).ip = (readRange inet fresh right).ip ↔
      (readingOf fresh left).address = (readingOf fresh right).address := by
  have sameAddress := with_key_reordered WGALLOWEDIP_A_IPADDR _ _ (range_same_order left right reordered)
  have apart (six : Octets 16) (four : Octets 4) : inet.ntop6 six ≠ inet.ntop4 four := by
    intro same
    have read := lawful.pton6_ntop6 six
    rw [same, lawful.pton6_ntop4 four] at read
    cases read
  obtain ⟨-, first⟩ := range_address inet (fieldsIn left) ⟨[], (fresh left).1, (fresh left).2⟩
  obtain ⟨-, second⟩ := range_address inet (fieldsIn right) ⟨[], (fresh right).1, (fresh right).2⟩
  rw [readRange, readRange, readingOf, readingOf, addressReadAs, addressReadAs]
  rw [sameAddress] at first
  rcases first with ⟨none, unread, text⟩ | ⟨field, six, last, read, text⟩
  · rcases second with ⟨-, otherUnread, otherText⟩ | ⟨field, six, last, -⟩
    · rw [unread, otherUnread, text, otherText]
      exact iff_of_true rfl rfl
    · rw [none] at last
      cases last
  · rcases second with ⟨none, -⟩ | ⟨other, otherSix, otherLast, otherRead, otherText⟩
    · rw [none] at last
      cases last
    · obtain rfl : field = other := Option.some.inj (last.symm.trans otherLast)
      rw [read, otherRead, text, otherText]
      cases six
      · cases otherSix
        · exact iff_of_true rfl rfl
        · exact iff_of_false (Ne.symm (apart _ _)) (by simp)
      · cases otherSix
        · exact iff_of_false (apart _ _) (by simp)
        · exact iff_of_true rfl rfl

/-- Two orders of an allowed-ip entry give the same record exactly when they have the same
reading. -/
theorem range_read_iff (lawful : inet.Lawful) (left right : Bytes) (reordered : RangeReordered left right) :
    readRange inet fresh left = readRange inet fresh right ↔
      readingOf fresh left = readingOf fresh right := by
  have record (first second : AllowedIP) : first = second ↔
      first.ip = second.ip ∧ first.family = second.family ∧ first.cidr = second.cidr := by
    cases first
    cases second
    simp
  have taken (first second : Reading) : first = second ↔
      first.address = second.address ∧ first.family = second.family ∧ first.mask = second.mask := by
    cases first
    cases second
    simp
  rw [record, taken, range_text_iff inet fresh lawful left right reordered,
    range_family_iff inet fresh left right reordered, range_mask_iff inet fresh left right reordered]

end Ranges

section Peers

variable (inet : Inet) (fresh : FreshOctets)

/-- The peer of an entry, before it is gathered. -/
def readPeer (entry : Bytes) : Peer := (fieldsIn entry).foldl (parsePeerField inet fresh) {}

/-- Attributes besides the list do not see the ranges. -/
theorem parse_peer_field_ranges (peer : Peer) (ranges : List AllowedIP) (field : Field)
    (other : field.1 ≠ WGPEER_A_ALLOWEDIPS) :
    parsePeerField inet fresh { peer with allowedIPs := ranges } field =
      { parsePeerField inet fresh peer field with allowedIPs := ranges } := by
  simp only [parsePeerField, if_neg other]
  split_ifs <;> rfl

/-- A peer entry is read as its other attributes and its ranges, apart. The switch of a peer sets
the ranges for one type only and nothing else for it, so the two parts do not meet. The induction
is on the fields from the end. -/
theorem fold_peer_parts (fields : List Field) (peer : Peer) :
    fields.foldl (parsePeerField inet fresh) peer =
      { (withoutKey WGPEER_A_ALLOWEDIPS fields).foldl (parsePeerField inet fresh) peer with
        allowedIPs :=
          peer.allowedIPs ++ (nested WGPEER_A_ALLOWEDIPS fields).map (readRange inet fresh) } := by
  induction fields using List.reverseRecOn with
  | nil => simp [withoutKey, nested, withKey]
  | append_singleton fields field inductionHypothesis =>
    rw [List.foldl_append, List.foldl_cons, List.foldl_nil, inductionHypothesis]
    by_cases list : field.1 = WGPEER_A_ALLOWEDIPS
    · have kept : withoutKey WGPEER_A_ALLOWEDIPS (fields ++ [field]) =
          withoutKey WGPEER_A_ALLOWEDIPS fields := by simp [withoutKey, list]
      have more : nested WGPEER_A_ALLOWEDIPS (fields ++ [field]) =
          nested WGPEER_A_ALLOWEDIPS fields ++ (walk field.2).map Attr.payload := by
        simp [nested, withKey, list]
      rw [kept, more, List.map_append, ← List.append_assoc, ← parse_entries_read]
      simp +decide [parsePeerField, list]
    · have more : withoutKey WGPEER_A_ALLOWEDIPS (fields ++ [field]) =
          withoutKey WGPEER_A_ALLOWEDIPS fields ++ [field] := by simp [withoutKey, list]
      have kept : nested WGPEER_A_ALLOWEDIPS (fields ++ [field]) = nested WGPEER_A_ALLOWEDIPS fields := by
        simp [nested, withKey, list]
      rw [more, kept, List.foldl_append, List.foldl_cons, List.foldl_nil,
        parse_peer_field_ranges inet fresh _ _ field list]

/-- A peer without its ranges. -/
def bare (peer : Peer) : Peer := { peer with allowedIPs := [] }

/-- Peers that differ at most in their ranges, one by one. -/
def SameShape (left right : Peer) : Prop :=
  bare left = bare right ∧ left.allowedIPs.length = right.allowedIPs.length

/-- The ranges of a peer entry are read one by one, in the order of their attributes. -/
theorem read_peer_ranges (entry : Bytes) :
    (readPeer inet fresh entry).allowedIPs = (rangesIn entry).map (readRange inet fresh) := by
  rw [readPeer, fold_peer_parts, rangesIn]
  rfl

/-- Two orders of a peer entry give peers of the same shape. -/
theorem read_peer_shape (left right : Bytes) (reordered : PeerReordered left right) :
    SameShape (readPeer inet fresh left) (readPeer inet fresh right) := by
  obtain ⟨others, lists⟩ := level_parts range_reflexive left right reordered
  have same := fold_reordered (parsePeerField inet fresh)
    (fun peer left right => parse_peer_field_comm inet fresh peer left right) _ _ others {}
  have own (entry : Bytes) : bare (readPeer inet fresh entry) =
      bare ((withoutKey WGPEER_A_ALLOWEDIPS (fieldsIn entry)).foldl (parsePeerField inet fresh) {}) := by
    have parts := congrArg bare (fold_peer_parts inet fresh (fieldsIn entry) {})
    exact parts
  refine ⟨?_, ?_⟩
  · rw [own, own, same]
  · rw [read_peer_ranges, read_peer_ranges, List.length_map, List.length_map]
    exact lists.length_eq

/-- A peer joins the list, or its ranges join those of the last peer with its key. -/
def gather (peers : List Peer) (peer : Peer) : List Peer :=
  match peers.getLast? with
  | some existing =>
      if existing.publicKey = peer.publicKey then
        peers.dropLast ++ [{ existing with allowedIPs := existing.allowedIPs ++ peer.allowedIPs }]
      else peers ++ [peer]
  | none => peers ++ [peer]

/-- The peers attribute is read entry by entry, and the peers are gathered from what each was
read to. -/
theorem parse_peer_entries (attrs : List Attr) (peers : List Peer) :
    attrs.foldl (parsePeerEntry inet fresh) peers =
      ((attrs.map Attr.payload).map (readPeer inet fresh)).foldl gather peers := by
  have entry (peers : List Peer) (attr : Attr) :
      parsePeerEntry inet fresh peers attr = gather peers (readPeer inet fresh attr.payload) := by
    rw [parsePeerEntry, readPeer, fieldsIn, List.foldl_map]
    rfl
  rw [List.map_map, List.foldl_map]
  have step : parsePeerEntry inet fresh =
      fun peers attr => gather peers ((readPeer inet fresh ∘ Attr.payload) attr) := by
    funext peers attr
    exact entry peers attr
  rw [step]

/-- Where the last peer keeps its place or a new one follows, all ranges stay in order. -/
theorem gather_ranges (peers : List Peer) (peer : Peer) :
    (gather peers peer).flatMap Peer.allowedIPs = peers.flatMap Peer.allowedIPs ++ peer.allowedIPs := by
  cases peers using List.reverseRecOn with
  | nil => simp [gather]
  | append_singleton front last =>
    by_cases same : last.publicKey = peer.publicKey <;> simp [gather, same]

/-- Gathering loses no range and keeps them in order. -/
theorem fold_gather_ranges (entries peers : List Peer) :
    (entries.foldl gather peers).flatMap Peer.allowedIPs =
      peers.flatMap Peer.allowedIPs ++ entries.flatMap Peer.allowedIPs := by
  induction entries generalizing peers with
  | nil => simp
  | cons entry rest inductionHypothesis =>
    rw [List.foldl_cons, inductionHypothesis, gather_ranges, List.flatMap_cons, List.append_assoc]

/-- Peers of one shape have one key. -/
theorem shape_key (left right : Peer) (shape : SameShape left right) : left.publicKey = right.publicKey := by
  have keys := congrArg Peer.publicKey shape.1
  exact keys

/-- Gathering looks at nothing that peers of one shape differ in. It compares keys and appends
ranges; peers of one shape have the same key, and their ranges are not part of the shape. -/
theorem gather_shape (leftPeers rightPeers : List Peer) (left right : Peer)
    (shapes : List.Forall₂ SameShape leftPeers rightPeers) (shape : SameShape left right) :
    List.Forall₂ SameShape (gather leftPeers left) (gather rightPeers right) := by
  cases leftPeers using List.reverseRecOn with
  | nil =>
    cases shapes
    exact .cons shape .nil
  | append_singleton front last =>
    obtain ⟨otherFront, single, fronts, lasts, rfl⟩ := related_split front [last] rightPeers shapes
    obtain ⟨otherLast, nothing, lastShape, none, rfl⟩ := List.forall₂_cons_left_iff.mp lasts
    cases none
    have keys : last.publicKey = left.publicKey ↔ otherLast.publicKey = right.publicKey := by
      rw [shape_key left right shape, shape_key last otherLast lastShape]
    have merged : SameShape { last with allowedIPs := last.allowedIPs ++ left.allowedIPs }
        { otherLast with allowedIPs := otherLast.allowedIPs ++ right.allowedIPs } := by
      refine ⟨lastShape.1, ?_⟩
      simp only [List.length_append, lastShape.2, shape.2]
    simp only [gather, List.getLast?_concat, List.dropLast_concat]
    by_cases same : otherLast.publicKey = right.publicKey
    · rw [if_pos same, if_pos (keys.mpr same)]
      exact List.rel_append fronts (.cons merged .nil)
    · rw [if_neg same, if_neg (fun leftSame => same (keys.mp leftSame))]
      exact List.rel_append (List.rel_append fronts (.cons lastShape .nil)) (.cons shape .nil)

/-- Gathering looks at keys alone, so entries of the same shapes are gathered to the same shapes. -/
theorem fold_gather_shape (lefts rights leftPeers rightPeers : List Peer)
    (entries : List.Forall₂ SameShape lefts rights)
    (shapes : List.Forall₂ SameShape leftPeers rightPeers) :
    List.Forall₂ SameShape (lefts.foldl gather leftPeers) (rights.foldl gather rightPeers) := by
  induction entries generalizing leftPeers rightPeers with
  | nil => exact shapes
  | cons first rest inductionHypothesis =>
    exact inductionHypothesis _ _ (gather_shape _ _ _ _ shapes first)

/-- Peers of one shape are the same as soon as all their ranges are. -/
theorem shapes_same_iff (leftPeers rightPeers : List Peer)
    (shapes : List.Forall₂ SameShape leftPeers rightPeers) :
    leftPeers = rightPeers ↔ leftPeers.flatMap Peer.allowedIPs = rightPeers.flatMap Peer.allowedIPs := by
  have whole (left right : Peer) (sameBare : bare left = bare right)
      (ranges : left.allowedIPs = right.allowedIPs) : left = right := by
    have filled := congrArg (fun peer : Peer => { peer with allowedIPs := left.allowedIPs }) sameBare
    calc left = { left with allowedIPs := left.allowedIPs } := rfl
      _ = { right with allowedIPs := left.allowedIPs } := filled
      _ = right := by rw [ranges]
  constructor
  · exact congrArg _
  · intro same
    induction shapes with
    | nil => rfl
    | cons first rest inductionHypothesis =>
      rw [List.flatMap_cons, List.flatMap_cons] at same
      obtain ⟨own, others⟩ := List.append_inj same first.2
      rw [inductionHypothesis others, whole _ _ first.1 own]

end Peers

section Messages

variable (inet : Inet) (fresh : FreshOctets)

/-- A device attribute is one of six types, or is skipped. -/
theorem device_field_kinds (kind : UInt16) :
    kind ∈ [WGDEVICE_A_IFNAME, WGDEVICE_A_PRIVATE_KEY, WGDEVICE_A_PUBLIC_KEY, WGDEVICE_A_LISTEN_PORT,
        WGDEVICE_A_FWMARK, WGDEVICE_A_PEERS] ∨
      ∀ device payload, parseDeviceField inet fresh device (kind, payload) = device := by
  simp only [List.mem_cons, List.not_mem_nil, or_false, parseDeviceField]
  by_cases known : kind = WGDEVICE_A_IFNAME ∨ kind = WGDEVICE_A_PRIVATE_KEY ∨
      kind = WGDEVICE_A_PUBLIC_KEY ∨ kind = WGDEVICE_A_LISTEN_PORT ∨ kind = WGDEVICE_A_FWMARK ∨
      kind = WGDEVICE_A_PEERS
  · exact .inl known
  · simp only [not_or] at known
    obtain ⟨first, second, third, fourth, fifth, sixth⟩ := known
    simp [first, second, third, fourth, fifth, sixth]

/-- Attributes of different types write different fields of a device. -/
theorem parse_device_field_comm (device : Device) (left right : Field) (different : left.1 ≠ right.1) :
    parseDeviceField inet fresh (parseDeviceField inet fresh device left) right =
      parseDeviceField inet fresh (parseDeviceField inet fresh device right) left := by
  obtain ⟨leftKind, leftPayload⟩ := left
  obtain ⟨rightKind, rightPayload⟩ := right
  rcases device_field_kinds inet fresh leftKind with leftKnown | skipped
  · rcases device_field_kinds inet fresh rightKind with rightKnown | skipped
    · simp only [List.mem_cons, List.not_mem_nil, or_false] at leftKnown rightKnown
      rcases leftKnown with rfl | rfl | rfl | rfl | rfl | rfl <;>
        rcases rightKnown with rfl | rfl | rfl | rfl | rfl | rfl <;>
        first | exact absurd rfl different | rfl
    · rw [skipped, skipped]
  · rw [skipped, skipped]

/-- Attributes besides the list do not see the peers. -/
theorem parse_device_field_peers (device : Device) (peers : List Peer) (field : Field)
    (other : field.1 ≠ WGDEVICE_A_PEERS) :
    parseDeviceField inet fresh { device with peers := peers } field =
      { parseDeviceField inet fresh device field with peers := peers } := by
  simp only [parseDeviceField, if_neg other]
  split_ifs <;> rfl

/-- A message is read as its other attributes and its peers, apart. The same for the peers of a
message: their type sets nothing but the peers. -/
theorem fold_device_parts (fields : List Field) (device : Device) :
    fields.foldl (parseDeviceField inet fresh) device =
      { (withoutKey WGDEVICE_A_PEERS fields).foldl (parseDeviceField inet fresh) device with
        peers :=
          ((nested WGDEVICE_A_PEERS fields).map (readPeer inet fresh)).foldl gather device.peers } := by
  induction fields using List.reverseRecOn with
  | nil => simp [withoutKey, nested, withKey]
  | append_singleton fields field inductionHypothesis =>
    rw [List.foldl_append, List.foldl_cons, List.foldl_nil, inductionHypothesis]
    by_cases list : field.1 = WGDEVICE_A_PEERS
    · have kept : withoutKey WGDEVICE_A_PEERS (fields ++ [field]) = withoutKey WGDEVICE_A_PEERS fields := by
        simp [withoutKey, list]
      have more : nested WGDEVICE_A_PEERS (fields ++ [field]) =
          nested WGDEVICE_A_PEERS fields ++ (walk field.2).map Attr.payload := by
        simp [nested, withKey, list]
      rw [kept, more, List.map_append, List.foldl_append, ← parse_peer_entries]
      simp +decide [parseDeviceField, list]
    · have more : withoutKey WGDEVICE_A_PEERS (fields ++ [field]) =
          withoutKey WGDEVICE_A_PEERS fields ++ [field] := by simp [withoutKey, list]
      have kept : nested WGDEVICE_A_PEERS (fields ++ [field]) = nested WGDEVICE_A_PEERS fields := by
        simp [nested, withKey, list]
      rw [more, kept, List.foldl_append, List.foldl_cons, List.foldl_nil,
        parse_device_field_peers inet fresh _ _ field list]

/-- Related entries have related ranges, in their order. -/
theorem ranges_related (lefts rights : List Bytes) (entries : List.Forall₂ PeerReordered lefts rights) :
    List.Forall₂ RangeReordered (lefts.flatMap rangesIn) (rights.flatMap rangesIn) := by
  induction entries with
  | nil => exact .nil
  | cons first rest inductionHypothesis =>
    rw [List.flatMap_cons, List.flatMap_cons]
    exact List.rel_append (level_parts range_reflexive _ _ first).2 inductionHypothesis

/-- All ranges of two orders are the same exactly when all their readings are. -/
theorem ranges_read_iff (lawful : inet.Lawful) (lefts rights : List Bytes)
    (ranges : List.Forall₂ RangeReordered lefts rights) :
    lefts.map (readRange inet fresh) = rights.map (readRange inet fresh) ↔
      lefts.map (readingOf fresh) = rights.map (readingOf fresh) := by
  induction ranges with
  | nil => exact iff_of_true rfl rfl
  | cons first rest inductionHypothesis =>
    simp only [List.map_cons, List.cons.injEq, range_read_iff inet fresh lawful _ _ first,
      inductionHypothesis]

/-- Two orders of a message give the same device exactly when every range in it is read in the
same way: its address under the same family, and where the entry has no family or no mask of its
own, with the same octet left in the fresh record.

Proof: attributes of different types commute in the parser, and attributes of one type keep their
order, with one exception: an address is read under the family that came before it. So the peers
have the same shapes in any order, and the devices are equal when their ranges are. A range is
determined by its reading, since addresses of different families have different texts. -/
theorem message_order_iff (lawful : inet.Lawful) (device : Device) (left right : Bytes)
    (reordered : MessageReordered left right) :
    parseDeviceMessage inet fresh device left = parseDeviceMessage inet fresh device right ↔
      readings fresh left = readings fresh right := by
  obtain ⟨others, entries⟩ := level_parts peer_reflexive _ _ reordered
  rw [← peersIn, ← peersIn] at entries
  have same := fold_reordered (parseDeviceField inet fresh)
    (fun device left right => parse_device_field_comm inet fresh device left right) _ _ others device
  have parts (message : Bytes) : parseDeviceMessage inet fresh device message =
      { (withoutKey WGDEVICE_A_PEERS (fieldsIn (message.drop 4))).foldl
          (parseDeviceField inet fresh) device with
        peers := ((peersIn message).map (readPeer inet fresh)).foldl gather device.peers } := by
    rw [parseDeviceMessage, peersIn, ← fold_device_parts, fieldsIn, List.foldl_map]
    rfl
  have shapes : List.Forall₂ SameShape
      (((peersIn left).map (readPeer inet fresh)).foldl gather device.peers)
      (((peersIn right).map (readPeer inet fresh)).foldl gather device.peers) := by
    apply fold_gather_shape
    · exact List.forall₂_map_left_iff.mpr (List.forall₂_map_right_iff.mpr
        (entries.imp (fun left right => read_peer_shape inet fresh left right)))
    · exact List.forall₂_same.mpr (fun peer _ => ⟨rfl, rfl⟩)
  have gathered (message : Bytes) : ((peersIn message).map (readPeer inet fresh)).flatMap Peer.allowedIPs =
      ((peersIn message).flatMap rangesIn).map (readRange inet fresh) := by
    rw [List.flatMap_map, List.map_flatMap]
    exact List.flatMap_congr (fun entry _ => read_peer_ranges inet fresh entry)
  have peers : parseDeviceMessage inet fresh device left = parseDeviceMessage inet fresh device right ↔
      ((peersIn left).map (readPeer inet fresh)).foldl gather device.peers =
        ((peersIn right).map (readPeer inet fresh)).foldl gather device.peers := by
    rw [parts, parts, same]
    constructor
    · intro devices
      exact congrArg Device.peers devices
    · intro lists
      rw [lists]
  rw [peers, shapes_same_iff _ _ shapes, fold_gather_ranges, fold_gather_ranges,
    List.append_cancel_left_eq, gathered, gathered,
    ranges_read_iff inet fresh lawful _ _ (ranges_related _ _ entries)]
  rfl

/-- What is nested in a short payload is short. -/
theorem nested_short (fields : List Field) (kind : UInt16) (inner : Forest)
    (short : (leaves fields ++ Forest.singleNest kind (nests [inner])).bytes.length < 65536) :
    (nests [inner]).bytes.length < 65536 ∧ inner.bytes.length < 65536 := by
  have list := Forest.nest_bytes_length kind (nests [inner])
  have element := Forest.nest_bytes_length 0 inner
  have single : (nests [inner]).bytes.length = 4 + inner.bytes.length := by
    change (attrBytes (Forest.nestedType 0) inner.bytes ++ []).length = _
    rw [List.append_nil, element]
  rw [Forest.bytes_append, List.length_append, Forest.singleNest, Forest.bytes, List.length_append,
    list] at short
  omega

/-- A nest whose single element has its attributes in another order. The fields around the nest
are the same, and the octets of its element are related as its own level asks. -/
theorem nest_reordered (fields : List Field) (kind : UInt16) (element : Bytes → Bytes → Prop)
    (left right : Forest) (plain : ∀ field ∈ fields, field.1 &&& 0x3FFF = field.1)
    (kindPlain : Forest.nestedType kind &&& 0x3FFF = kind)
    (leftShort : (leaves fields ++ Forest.singleNest kind (nests [left])).bytes.length < 65536)
    (rightShort : (leaves fields ++ Forest.singleNest kind (nests [right])).bytes.length < 65536)
    (related : element left.bytes right.bytes) :
    LevelReordered (SameBut kind element) (leaves fields ++ Forest.singleNest kind (nests [left])).bytes
      (leaves fields ++ Forest.singleNest kind (nests [right])).bytes := by
  have seen (inner : Forest)
      (short : (leaves fields ++ Forest.singleNest kind (nests [inner])).bytes.length < 65536) :
      fieldsIn (leaves fields ++ Forest.singleNest kind (nests [inner])).bytes =
          fields ++ [(kind, (nests [inner]).bytes)] ∧
        walk (nests [inner]).bytes = [⟨Forest.nestedType 0, inner.bytes⟩] := by
    obtain ⟨inside, -⟩ := nested_short fields kind inner short
    refine ⟨?_, Forest.walk_bytes _ (Forest.fits_of_length _ inside)⟩
    rw [fieldsIn, Forest.walk_bytes _ (Forest.fits_of_length _ short), Forest.attrs_append,
      List.map_append, leaves_attrs fields plain]
    simp [Forest.singleNest, Forest.attrs, fieldOf, DeviceSettings.attrKind, kindPlain]
  obtain ⟨leftFields, leftInner⟩ := seen left leftShort
  obtain ⟨rightFields, rightInner⟩ := seen right rightShort
  refine ⟨_, .inl rfl, ?_⟩
  rw [leftFields, rightFields]
  apply List.rel_append
  · exact List.forall₂_same.mpr (fun field _ => .inl rfl)
  · refine .cons (.inr ⟨rfl, rfl, ?_⟩) .nil
    rw [leftInner, rightInner]
    exact .cons related .nil

/-- A peer entry with one range, whose attributes stand in this order. -/
def onePeerForest (range : List Field) : Forest :=
  leaves [(WGPEER_A_PUBLIC_KEY, List.replicate kKeyLen 24)]
    ++ .singleNest WGPEER_A_ALLOWEDIPS (nests [leaves range])

/-- A message with this peer alone. -/
def oneRangeMessage (range : List Field) : Bytes :=
  [WG_CMD_GET_DEVICE, WG_GENL_VERSION, 0, 0]
    ++ (leaves [] ++ Forest.singleNest WGDEVICE_A_PEERS (nests [onePeerForest range])).bytes

/-- Moving the attributes of the range reorders the message. The family moves from before the
address to behind it, inside the range, the peer and the message. -/
theorem one_range_reordered (left right : List Field) (moved : Reordered left right)
    (leftPlain : ∀ field ∈ left, field.1 &&& 0x3FFF = field.1)
    (rightPlain : ∀ field ∈ right, field.1 &&& 0x3FFF = field.1)
    (leftShort : (oneRangeMessage left).length < 65536)
    (rightShort : (oneRangeMessage right).length < 65536) :
    MessageReordered (oneRangeMessage left) (oneRangeMessage right) := by
  have levels (range : List Field) (short : (oneRangeMessage range).length < 65536) :
      (leaves [] ++ Forest.singleNest WGDEVICE_A_PEERS (nests [onePeerForest range])).bytes.length < 65536 ∧
        (onePeerForest range).bytes.length < 65536 ∧ (leaves range).bytes.length < 65536 := by
    have outer : (leaves [] ++
        Forest.singleNest WGDEVICE_A_PEERS (nests [onePeerForest range])).bytes.length < 65536 := by
      rw [oneRangeMessage, List.length_append] at short
      omega
    have peer := (nested_short _ _ _ outer).2
    exact ⟨outer, peer, (nested_short _ _ _ peer).2⟩
  obtain ⟨leftOuter, leftPeer, leftRange⟩ := levels left leftShort
  obtain ⟨rightOuter, rightPeer, rightRange⟩ := levels right rightShort
  apply nest_reordered [] WGDEVICE_A_PEERS PeerReordered _ _ (by simp) (by decide) leftOuter rightOuter
  apply nest_reordered _ WGPEER_A_ALLOWEDIPS RangeReordered _ _ (by decide) (by decide) leftPeer rightPeer
  refine ⟨right, ?_, ?_⟩
  · rw [fieldsIn, Forest.walk_bytes _ (Forest.fits_of_length _ leftRange), leaves_attrs left leftPlain]
    exact moved
  · rw [fieldsIn, Forest.walk_bytes _ (Forest.fits_of_length _ rightRange), leaves_attrs right rightPlain]
    exact List.forall₂_same.mpr (fun field _ => rfl)

/-- The family attribute of the range `2001:db8::/32`. -/
def familyField : Field := (WGALLOWEDIP_A_FAMILY, littleEndian 2 AF_INET6.toNat)

/-- Its address. -/
def addressField : Field := (WGALLOWEDIP_A_IPADDR, [0x20, 0x01, 0x0D, 0xB8] ++ List.replicate 12 0)

/-- And its mask. -/
def maskField : Field := (WGALLOWEDIP_A_CIDR_MASK, [32])

/-- With the family behind the address, an IPv6 address is written as the IPv4 address of
its first four octets. -/
theorem family_after_address :
    MessageReordered (oneRangeMessage [familyField, addressField, maskField])
        (oneRangeMessage [addressField, familyField, maskField]) ∧
      parseDeviceMessage plainInet zeroed {} (oneRangeMessage [familyField, addressField, maskField]) ≠
        parseDeviceMessage plainInet zeroed {} (oneRangeMessage [addressField, familyField, maskField]) := by
  have reordered := one_range_reordered [familyField, addressField, maskField]
    [addressField, familyField, maskField] (.inr ⟨List.Perm.swap _ _ _, by decide⟩) (by decide)
    (by decide) (by decide +kernel) (by decide +kernel)
  exact ⟨reordered, by decide +kernel⟩

/-- Where the mask stands does not matter. -/
theorem mask_moved :
    parseDeviceMessage plainInet zeroed {} (oneRangeMessage [maskField, familyField, addressField]) =
      parseDeviceMessage plainInet zeroed {} (oneRangeMessage [familyField, addressField, maskField]) := by
  have reordered := one_range_reordered [maskField, familyField, addressField]
    [familyField, addressField, maskField] (.inr ⟨by decide, by decide⟩) (by decide) (by decide)
    (by decide +kernel) (by decide +kernel)
  exact (message_order_iff plainInet zeroed plain_inet_lawful {} _ _ reordered).mpr (by decide +kernel)

end Messages

end NodeWireguard.AttributeOrder
