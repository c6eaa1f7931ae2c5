import Mathlib

/-!
# Numbers of the WireGuard netlink protocol

The commands, attributes and flags of `wireguard_uapi.h` that are sent or read. The
enumerations are part of the stable kernel interface and are kept as plain numbers.
-/

namespace NodeWireguard.WireguardUapi

/-- The version of the family, sent in every request. -/
def WG_GENL_VERSION : UInt8 := 1

/-- `enum wg_cmd`: ask for a device, -/
def WG_CMD_GET_DEVICE : UInt8 := 0
/-- or change it. -/
def WG_CMD_SET_DEVICE : UInt8 := 1

/-- `enum wgdevice_flag` -/
def WGDEVICE_F_REPLACE_PEERS : UInt32 := 1

/-! `enum wgdevice_attribute` -/

/-- The name of the interface, with its terminator. -/
def WGDEVICE_A_IFNAME : UInt16 := 2
/-- The private key, 32 octets. -/
def WGDEVICE_A_PRIVATE_KEY : UInt16 := 3
/-- The public key, which the kernel derives and only reports. -/
def WGDEVICE_A_PUBLIC_KEY : UInt16 := 4
/-- Flags of a request. -/
def WGDEVICE_A_FLAGS : UInt16 := 5
/-- The UDP port, 16 bits. -/
def WGDEVICE_A_LISTEN_PORT : UInt16 := 6
/-- The firewall mark, 32 bits. -/
def WGDEVICE_A_FWMARK : UInt16 := 7
/-- The peers, one nested entry for each. -/
def WGDEVICE_A_PEERS : UInt16 := 8

/-! `enum wgpeer_flag` -/

/-- Remove the peer. -/
def WGPEER_F_REMOVE_ME : UInt32 := 1
/-- Drop the ranges it had. -/
def WGPEER_F_REPLACE_ALLOWEDIPS : UInt32 := 2
/-- Leave a peer alone that does not exist. -/
def WGPEER_F_UPDATE_ONLY : UInt32 := 4

/-! `enum wgpeer_attribute` -/

/-- The key that names the peer. -/
def WGPEER_A_PUBLIC_KEY : UInt16 := 1
/-- The preshared key, all zero where there is none. -/
def WGPEER_A_PRESHARED_KEY : UInt16 := 2
/-- Flags of a request about the peer. -/
def WGPEER_A_FLAGS : UInt16 := 3
/-- The endpoint, a socket address. -/
def WGPEER_A_ENDPOINT : UInt16 := 4
/-- Seconds between keepalives, 16 bits. -/
def WGPEER_A_PERSISTENT_KEEPALIVE_INTERVAL : UInt16 := 5
/-- The time of the last handshake, a `timespec` with 64 bits for the seconds. -/
def WGPEER_A_LAST_HANDSHAKE_TIME : UInt16 := 6
/-- Octets received, 64 bits. -/
def WGPEER_A_RX_BYTES : UInt16 := 7
/-- Octets sent, 64 bits. -/
def WGPEER_A_TX_BYTES : UInt16 := 8
/-- The ranges, one nested entry for each. -/
def WGPEER_A_ALLOWEDIPS : UInt16 := 9
/-- The version of the protocol, 32 bits. -/
def WGPEER_A_PROTOCOL_VERSION : UInt16 := 10

/-! `enum wgallowedip_attribute` -/

/-- The address family, 16 bits. -/
def WGALLOWEDIP_A_FAMILY : UInt16 := 1
/-- The address, as many octets as its family has. -/
def WGALLOWEDIP_A_IPADDR : UInt16 := 2
/-- The length of the mask, one octet. -/
def WGALLOWEDIP_A_CIDR_MASK : UInt16 := 3

/-! Message flags and types of the netlink layer. -/

/-- A request to the kernel. -/
def NLM_F_REQUEST : UInt16 := 1
/-- One part of several. -/
def NLM_F_MULTI : UInt16 := 2
/-- An acknowledgement is asked for. -/
def NLM_F_ACK : UInt16 := 4
/-- All entries are asked for. -/
def NLM_F_DUMP : UInt16 := 0x300

/-- An error, or an acknowledgement where its number is zero. -/
def NLMSG_ERROR : UInt16 := 2
/-- The end of a dump. -/
def NLMSG_DONE : UInt16 := 3

/-! The generic netlink controller, which knows the family by name. -/

/-- The family that knows the others. -/
def GENL_ID_CTRL : UInt16 := 0x10
/-- Its command to look one up, -/
def CTRL_CMD_GETFAMILY : UInt8 := 3
/-- the attribute with the number it found, -/
def CTRL_ATTR_FAMILY_ID : UInt16 := 1
/-- and the one with the name that is asked for. -/
def CTRL_ATTR_FAMILY_NAME : UInt16 := 2

end NodeWireguard.WireguardUapi
