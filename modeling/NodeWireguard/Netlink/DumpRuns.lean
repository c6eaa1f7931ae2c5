import Mathlib
import NodeWireguard.Foundations.MergedRuns
import NodeWireguard.Netlink.AttributeOrder

/-!
# What any dump is read as

`ParseDeviceMessage` over the messages of a dump, whatever octets these are: with peers cut at
any place or not at all, with one key in several places, with entries that lack their key.
The peers are the maximal runs of entries with equal keys, over all messages as one list. A
run has the fields of its first entry and the ranges of all its entries, so that no range is
lost, doubled or moved past another one.

Payloads are read as in the parser: one that is shorter than the value it should hold counts
as filled up with zeros, where the code reads on behind it.
-/

namespace NodeWireguard.DumpRuns

open ByteText AddressText DeviceDump AttributeOrder MergedRuns WireguardUapi

/-- A peer with the ranges of an entry that continues it. -/
def continued (existing peer : Peer) : Peer :=
  { existing with allowedIPs := existing.allowedIPs ++ peer.allowedIPs }

/-- Gathering peers is gathering by their keys. -/
theorem gather_peers : AttributeOrder.gather = MergedRuns.gather Peer.publicKey continued := by
  funext peers peer
  cases peers using List.reverseRecOn with
  | nil => rfl
  | append_singleton front last =>
    simp only [AttributeOrder.gather, MergedRuns.gather, List.getLast?_concat, continued]

section Folding

variable (inet : Inet) (fresh : FreshOctets)

/-- The entries of a message join the peers one by one. -/
theorem message_peers (device : Device) (message : Bytes) :
    (parseDeviceMessage inet fresh device message).peers =
      ((peersIn message).map (readPeer inet fresh)).foldl (MergedRuns.gather Peer.publicKey continued)
        device.peers := by
  have parts := congrArg Device.peers (fold_device_parts inet fresh (fieldsIn (message.drop 4)) device)
  have fields : parseDeviceMessage inet fresh device message =
      (fieldsIn (message.drop 4)).foldl (parseDeviceField inet fresh) device := by
    rw [parseDeviceMessage, fieldsIn, List.foldl_map]
    rfl
  rw [← gather_peers, fields, parts, peersIn]

/-- The entries of all messages join them as one list. -/
theorem messages_peers (messages : List Bytes) (device : Device) :
    (messages.foldl (parseDeviceMessage inet fresh) device).peers =
      ((messages.flatMap peersIn).map (readPeer inet fresh)).foldl
        (MergedRuns.gather Peer.publicKey continued) device.peers := by
  induction messages generalizing device with
  | nil => rfl
  | cons message messages inductionHypothesis =>
    rw [List.foldl_cons, inductionHypothesis, message_peers, List.flatMap_cons, List.map_append,
      List.foldl_append]

/-- The ranges of entries are those their attributes list. -/
theorem entries_ranges (entries : List Bytes) :
    (entries.map (readPeer inet fresh)).flatMap Peer.allowedIPs =
      (entries.flatMap rangesIn).map (readRange inet fresh) := by
  induction entries with
  | nil => rfl
  | cons entry entries inductionHypothesis =>
    rw [List.map_cons, List.flatMap_cons, List.flatMap_cons, List.map_append, inductionHypothesis,
      read_peer_ranges]

end Folding

/-- Every list of messages is read as the runs of its entries, with no two neighbours of one
key, and with every range of every entry once and in order.

Proof: the fold over messages is one fold over all their entries, which merges an entry into the
last peer where the keys agree. Such a fold gives the maximal runs, whose neighbours have
different keys, and it keeps every range in its place. -/
theorem any_dump_gathered (inet : Inet) (fresh : FreshOctets) (name : Bytes) (messages : List Bytes) :
    let peers := (messages.foldl (parseDeviceMessage inet fresh) { name }).peers
    let entries := messages.flatMap peersIn
    peers = runs Peer.publicKey continued (entries.map (readPeer inet fresh)) ∧
      peers.IsChain (fun left right => left.publicKey ≠ right.publicKey) ∧
      peers.flatMap Peer.allowedIPs = (entries.flatMap rangesIn).map (readRange inet fresh) := by
  have kept (existing peer : Peer) : (continued existing peer).publicKey = existing.publicKey := rfl
  have read := messages_peers inet fresh messages { name }
  have gathered : (messages.foldl (parseDeviceMessage inet fresh) { name }).peers =
      runs Peer.publicKey continued ((messages.flatMap peersIn).map (readPeer inet fresh)) :=
    read.trans (fold_gather kept _)
  refine ⟨gathered, gathered ▸ runs_apart kept _, ?_⟩
  rw [← entries_ranges, read, ← gather_peers, fold_gather_ranges]
  rfl

end NodeWireguard.DumpRuns
