import Mathlib
import NodeWireguard.Crypto.PublicKey
import NodeWireguard.Foundations.Fallible
import NodeWireguard.Foundations.IntegerConversions
import NodeWireguard.Netlink.AddressText

/-!
# Responses of the userspace protocol

`ParseGetResponse` and `ParseSetResponse` of `UapiCodec.cpp`: line by line, each line cut at
its first equals sign, with blank lines and lines without one skipped. The first `public_key`
line ends the device's own lines; from there on a line belongs to the last section opened.

Some numbers go through a helper that checks the range and that the text was read to its end,
the others through the standard conversion as it is, whose exceptions reach the caller.
-/

namespace NodeWireguard.GetResponse

open ByteText DecimalText IntegerConversions Key PublicKey AddressText

/-- What the standard conversions throw; the text is the function's name. -/
def thrown (function : String) : ConversionFailure → Exception
  | .invalidArgument => .invalidArgument (ascii function)
  | .outOfRange => .outOfRange (ascii function)

/-- A conversion whose consumed length is not asked for. -/
def converted {α : Type} (function : String) (result : Except ConversionFailure (α × Nat)) :
    Except Exception α :=
  match result with
  | .error failure => .error (thrown function failure)
  | .ok (value, _) => .ok value

/-- `ParseUnsignedInRange`: `stoul` must read the whole value, and what it reads must be in
range. White space and signs are `stoul`'s to accept. -/
def parseUnsignedInRange (value : Bytes) (max : Nat) (field : String) : Except Exception Nat :=
  if value = [] then .error (.invalidArgument (ascii field ++ ascii ": empty value"))
  else match stoul value with
    | .error _ => .error (.invalidArgument (ascii field ++ ascii ": invalid value: " ++ value))
    | .ok (ul, consumed) =>
        if consumed ≠ value.length ∨ max < ul then
          .error (.invalidArgument (ascii field ++ ascii ": out of range: " ++ value))
        else .ok ul

/-- `ParseUint16`: the bound is the one of the type. -/
def parseUint16 (value : Bytes) (field : String) : Except Exception UInt16 := do
  return UInt16.ofNat (← parseUnsignedInRange value 65535 field)

/-- `ParseUint32`: likewise. -/
def parseUint32 (value : Bytes) (field : String) : Except Exception UInt32 := do
  return UInt32.ofNat (← parseUnsignedInRange value 4294967295 field)

/-- The value of an `errno` line: zero lets the loop go on, any other code is thrown. -/
def checkErrno (what : String) (value : Bytes) : Except Exception Unit := do
  let code ← converted "stoi" (stoi value)
  if code ≠ 0 then .error (.systemError code (ascii what ++ value)) else return ()

/-- A line of a peer section that is neither `errno` nor `public_key`. -/
def readPeerLine (inet : Inet) (peer : Peer) (key value : Bytes) : Except Exception Peer :=
  if key = ascii "preshared_key" then do
    return { peer with presharedKey := some (← keyFromHex value) }
  else if key = ascii "endpoint" then return { peer with endpoint := some value }
  else if key = ascii "last_handshake_time_sec" then do
    return { peer with lastHandshakeTimeSec := Int64.ofInt (← converted "stoll" (stoll value)) }
  else if key = ascii "rx_bytes" then do
    return { peer with receiveBytes := UInt64.ofNat (← converted "stoull" (stoul value)) }
  else if key = ascii "tx_bytes" then do
    return { peer with transmitBytes := UInt64.ofNat (← converted "stoull" (stoul value)) }
  else if key = ascii "persistent_keepalive_interval" then do
    return { peer with
      persistentKeepaliveInterval := ← parseUint16 value "persistent_keepalive_interval" }
  else if key = ascii "allowed_ip" then do
    return { peer with allowedIPs := peer.allowedIPs ++ [← parseCIDR inet value] }
  else if key = ascii "protocol_version" then do
    return { peer with protocolVersion := ← parseUint32 value "protocol_version" }
  else return peer

/-- A line before the first peer section. A key that is not known is skipped. -/
def readDeviceLine (device : Device) (key value : Bytes) : Except Exception Device :=
  if key = ascii "private_key" then do
    return { device with privateKey := some (← keyFromHex value) }
  else if key = ascii "listen_port" then do
    return { device with listenPort := ← parseUint16 value "listen_port" }
  else if key = ascii "fwmark" then do
    return { device with firewallMark := ← parseUint32 value "fwmark" }
  else return device

/-- The loop's variables. The record `currentPeer` points to is the last of the list there;
here it stands apart from the finished ones in `device`. -/
structure Reading where
  device : Device
  currentPeer : Option Peer

/-- The device with the peer in progress at its place. -/
def Reading.close (reading : Reading) : Device :=
  { reading.device with peers := reading.device.peers ++ reading.currentPeer.toList }

/-- One iteration of the loop over lines. A line without a mark is skipped; an `errno` line is
checked; a `public_key` line closes the open section and opens one; any other goes to the open
section, or to the device. -/
def readLine (inet : Inet) (reading : Reading) (line : Bytes) : Except Exception Reading :=
  if line = [] then return reading
  else match splitFirst (byte '=') line with
    | none => return reading
    | some (key, value) =>
        if key = ascii "errno" then do
          checkErrno "uapi get error, errno=" value
          return reading
        else if key = ascii "public_key" then do
          return ⟨reading.close, some { publicKey := ← keyFromHex value }⟩
        else match reading.currentPeer with
          | some peer => do
              return { reading with currentPeer := some (← readPeerLine inet peer key value) }
          | none => do
              return { reading with device := ← readDeviceLine reading.device key value }

/-- The loop, from the record the function starts with. -/
def readLines (inet : Inet) (name response : Bytes) : Except Exception Reading :=
  (lines lineFeed response).foldlM (readLine inet) ⟨{ name, userspace := true }, none⟩

/-- After the loop: the public key of a private key that is not all zero. -/
def derivePublicKey (ssl : OpenSSL) (device : Device) : Except Exception Device :=
  match device.privateKey with
  | some privateKey =>
      if isZeroKey privateKey then return device
      else do return { device with publicKey := some (← publicKeyFromPrivate ssl privateKey) }
  | none => return device

/-- `ParseGetResponse`: the lines are read in order, and the public key is derived at the end. -/
def parseGetResponse (inet : Inet) (ssl : OpenSSL) (name response : Bytes) :
    Except Exception Device := do
  let reading ← readLines inet name response
  derivePublicKey ssl reading.close

/-- One iteration of the loop of `ParseSetResponse`. Only an `errno` line is looked at. -/
def readSetLine (line : Bytes) : Except Exception Unit :=
  match splitFirst (byte '=') line with
  | none => return ()
  | some (key, value) =>
      if key = ascii "errno" then checkErrno "uapi set error, errno=" value else return ()

/-- `ParseSetResponse`: the lines are looked at in order for a number that is not zero. -/
def parseSetResponse (response : Bytes) : Except Exception Unit :=
  (lines lineFeed response).forM readSetLine

end NodeWireguard.GetResponse
