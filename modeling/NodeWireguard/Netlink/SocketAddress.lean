import Mathlib
import NodeWireguard.Foundations.AttributeStream
import NodeWireguard.Netlink.AddressText

/-!
# Socket addresses in memory

A `sockaddr_in` or `sockaddr_in6` as the octets that are sent to the kernel and received
from it: family in host order, port in network order, and the address. `FormatEndpoint`
of `NlAttr.cpp` reads such octets and writes the endpoint text.
-/

namespace NodeWireguard.SocketAddress

open ByteText DecimalText AddressText AttributeStream

/-- A fixed block copied from memory (`std::memcpy`). -/
def octetsOf (size : Nat) (raw : Bytes) : Octets size :=
  List.Vector.ofFn (fun index => raw.getD index 0)

/-- Copying out of a block that starts with the wanted octets gives them. -/
theorem octets_of_append {size : Nat} (octets : Octets size) (rest : Bytes) :
    octetsOf size (octets.toList ++ rest) = octets := by
  apply List.Vector.ext
  intro index
  have inside : index.val < octets.toList.length := by simp
  rw [octetsOf, List.Vector.get_ofFn, List.getD_append _ _ _ _ inside]
  simp [List.Vector.get_eq_get_toList]

/-- The octets of a block are read back as the block. -/
theorem octets_of_list {size : Nat} (octets : Octets size) : octetsOf size octets.toList = octets := by
  simpa using octets_of_append octets []

/-- `htons`, in memory. -/
def networkOrder (port : UInt16) : Bytes :=
  [UInt8.ofNat (port.toNat / 256), UInt8.ofNat port.toNat]

/-- `ntohs` of two octets in memory. -/
def fromNetworkOrder (raw : Bytes) : UInt16 :=
  UInt16.ofNat (256 * (raw.getD 0 0).toNat + (raw.getD 1 0).toNat)

/-- A port is read back from network order, whatever follows. -/
theorem from_network_order (port : UInt16) (rest : Bytes) :
    fromNetworkOrder (networkOrder port ++ rest) = port := by
  have bound := port.toNat_lt
  have value : 256 * (port.toNat / 256 % 256) + port.toNat % 256 = port.toNat := by omega
  simp [fromNetworkOrder, networkOrder, value]

/-- The first `sizeof(sockaddr_in)` or `sizeof(sockaddr_in6)` octets of the storage. -/
def sockaddrBytes : SockAddr → Bytes
  | .in4 port addr =>
      littleEndian 2 AF_INET.toNat ++ (networkOrder port ++ (addr.toList ++ List.replicate 8 0))
  | .in6 port addr =>
      littleEndian 2 AF_INET6.toNat
        ++ (networkOrder port ++ (List.replicate 4 0 ++ (addr.toList ++ List.replicate 4 0)))

/-- The same as the kernel dumps it: around an IPv6 address it has the flow info and the scope
id of the endpoint, which the code sets to zero in what it sends. -/
def dumpedSockaddr (flowInfo scopeId : Octets 4) : SockAddr → Bytes
  | .in4 port addr => sockaddrBytes (.in4 port addr)
  | .in6 port addr =>
      littleEndian 2 AF_INET6.toNat
        ++ (networkOrder port ++ (flowInfo.toList ++ (addr.toList ++ scopeId.toList)))

/-- The address a block of octets holds; the size has to be that of its family. -/
def readSockaddr (raw : Bytes) : Option SockAddr :=
  let family := fromLittleEndian (raw.take 2)
  if family = AF_INET.toNat ∧ raw.length = 16 then
    some (.in4 (fromNetworkOrder (raw.drop 2)) (octetsOf 4 (raw.drop 4)))
  else if family = AF_INET6.toNat ∧ raw.length = 28 then
    some (.in6 (fromNetworkOrder (raw.drop 2)) (octetsOf 16 (raw.drop 8)))
  else none

/-- `FormatEndpoint`: any family but IPv4 is written as IPv6. -/
def formatEndpoint (inet : Inet) (raw : Bytes) : Bytes :=
  let port := (fromNetworkOrder (raw.drop 2)).toNat
  if fromLittleEndian (raw.take 2) = AF_INET.toNat then
    inet.ntop4 (octetsOf 4 (raw.drop 4)) ++ byte ':' :: decimal port
  else
    byte '[' :: inet.ntop6 (octetsOf 16 (raw.drop 8)) ++ ascii "]:" ++ decimal port

/-- `struct sockaddr_in` has 16 octets and `struct sockaddr_in6` has 28. -/
theorem sockaddr_bytes_length (address : SockAddr) :
    (sockaddrBytes address).length = match address with
      | .in4 _ _ => 16
      | .in6 _ _ => 28 := by
  cases address <;> simp [sockaddrBytes, networkOrder]

/-- The family, port and address stand where the readers look for them. -/
theorem sockaddr_bytes_in4 (port : UInt16) (addr : Octets 4) :
    fromLittleEndian ((sockaddrBytes (.in4 port addr)).take 2) = AF_INET.toNat ∧
      fromNetworkOrder ((sockaddrBytes (.in4 port addr)).drop 2) = port ∧
      octetsOf 4 ((sockaddrBytes (.in4 port addr)).drop 4) = addr := by
  refine ⟨rfl, from_network_order port _, ?_⟩
  change octetsOf 4 (addr.toList ++ List.replicate 8 0) = addr
  exact octets_of_append addr _

/-- Family, port and address are read back from an IPv6 socket address. -/
theorem sockaddr_bytes_in6 (port : UInt16) (addr : Octets 16) :
    fromLittleEndian ((sockaddrBytes (.in6 port addr)).take 2) = AF_INET6.toNat ∧
      fromNetworkOrder ((sockaddrBytes (.in6 port addr)).drop 2) = port ∧
      octetsOf 16 ((sockaddrBytes (.in6 port addr)).drop 8) = addr := by
  refine ⟨rfl, from_network_order port _, ?_⟩
  change octetsOf 16 (addr.toList ++ List.replicate 4 0) = addr
  exact octets_of_append addr _

/-- The text of a dumped address shows neither flow info nor scope id. Family, port and address
have fixed places, and the flow information stands between the port and the address, where
nothing is read. -/
theorem format_dumped_sockaddr (inet : Inet) (flowInfo scopeId : Octets 4) (address : SockAddr) :
    formatEndpoint inet (dumpedSockaddr flowInfo scopeId address) =
      formatEndpoint inet (sockaddrBytes address) := by
  cases address with
  | in4 port addr => rfl
  | in6 port addr =>
    obtain ⟨family, isPort, isAddr⟩ := sockaddr_bytes_in6 port addr
    have dumpedFamily : fromLittleEndian
        ((dumpedSockaddr flowInfo scopeId (.in6 port addr)).take 2) = AF_INET6.toNat := rfl
    have dumpedPort : fromNetworkOrder
        ((dumpedSockaddr flowInfo scopeId (.in6 port addr)).drop 2) = port :=
      from_network_order port _
    have dumpedAddr : octetsOf 16
        ((dumpedSockaddr flowInfo scopeId (.in6 port addr)).drop 8) = addr := by
      have before : (littleEndian 2 AF_INET6.toNat ++ (networkOrder port ++ flowInfo.toList)).length = 8 := by
        simp [networkOrder]
      rw [dumpedSockaddr, ← List.append_assoc (networkOrder port), ← List.append_assoc,
        List.drop_left' before]
      exact octets_of_append addr _
    have different : ¬ AF_INET6.toNat = AF_INET.toNat := by decide
    simp only [formatEndpoint, family, isPort, isAddr, dumpedFamily, dumpedPort, dumpedAddr,
      if_neg different]

/-- Octets that were sent are read as the address they were made from. -/
theorem read_sockaddr_bytes (address : SockAddr) :
    readSockaddr (sockaddrBytes address) = some address := by
  have size := sockaddr_bytes_length address
  cases address with
  | in4 port addr =>
    obtain ⟨family, isPort, isAddr⟩ := sockaddr_bytes_in4 port addr
    simp [readSockaddr, family, isPort, isAddr, size]
  | in6 port addr =>
    obtain ⟨family, isPort, isAddr⟩ := sockaddr_bytes_in6 port addr
    have different : AF_INET6.toNat ≠ AF_INET.toNat := by decide
    simp [readSockaddr, family, isPort, isAddr, size, different]

end NodeWireguard.SocketAddress
