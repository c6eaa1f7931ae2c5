import Mathlib
import NodeWireguard.Client.DeviceToJs
import NodeWireguard.Client.NativeMethods
import NodeWireguard.Crypto.KeyEncodings
import NodeWireguard.Foundations.AttributeStream
import NodeWireguard.Netlink.AddressForms
import NodeWireguard.Uapi.LineAcceptance

/-!
# The exported key functions

`ClampScalar`, `GeneratePrivateKey` and `GeneratePresharedKey` of `Key.cpp`, and the three
functions that `node-wireguard.cpp` exports. OpenSSL's random octets are given: absent where
`RAND_bytes` does not return 1.

The exported generators do not catch anything, so a C++ exception leaves them as it is; the
derivation of a public key turns one into a JavaScript error.
-/

namespace NodeWireguard.ExportedKeys

open ByteText AttributeStream Key KeyEncodings PublicKey JsValues NativeMethods DeviceToJs GetResponse
open Fallible AddressText AddressForms LineAcceptance

/-- How an exported function ends: with a value, with a JavaScript exception of a kind and a
text, or with a C++ exception that nothing catches. -/
inductive Ended where
  | returned (value : JsValue)
  | typeError (message : Bytes)
  | error (message : Bytes)
  | escaped (failure : Exception)

/-- `ClampScalar`: the three low bits are cleared, the highest one too, and the one below it is
set. -/
def clampScalar (key : Key) : Key :=
  let key := key.set ⟨0, by decide⟩ (key.get ⟨0, by decide⟩ &&& 248)
  let key := key.set ⟨31, by decide⟩ (key.get ⟨31, by decide⟩ &&& 127)
  key.set ⟨31, by decide⟩ (key.get ⟨31, by decide⟩ ||| 64)

/-- `RAND_bytes` into a key of zeros. The array is filled completely or not used at all. -/
def randomKey (random : Option Key) : Except Exception Key :=
  match random with
  | some octets => .ok octets
  | none => .error (.runtimeError (ascii "RAND_bytes failed"))

/-- `GeneratePrivateKey` of `Key.cpp`. -/
def generatePrivateKey (random : Option Key) : Except Exception Key := do
  let key ← randomKey random
  return clampScalar key

/-- `GeneratePresharedKey` of `Key.cpp`: the random octets as they are. -/
def generatePresharedKey (random : Option Key) : Except Exception Key := randomKey random

/-- An exported generator. It catches nothing, so what `Key.cpp` throws escapes. -/
def exported (generated : Except Exception Key) : Ended :=
  match generated with
  | .ok key => .returned (.string (keyToBase64 key))
  | .error failure => .escaped failure

/-- `GeneratePrivateKey` of `node-wireguard.cpp`. -/
def exportedPrivateKey (random : Option Key) : Ended := exported (generatePrivateKey random)

/-- `GeneratePresharedKey` of `node-wireguard.cpp`. -/
def exportedPresharedKey (random : Option Key) : Ended := exported (generatePresharedKey random)

/-- `PublicKey` of `node-wireguard.cpp`, on the arguments of the call. -/
def exportedPublicKey (ssl : OpenSSL) (arguments : List JsValue) : Ended :=
  match arguments with
  | .string text :: _ =>
      match (do publicKeyFromPrivate ssl (← keyFromBase64 text)) with
      | .ok key => .returned (.string (keyToBase64 key))
      | .error failure => .error (cString (what failure))
  | _ => .typeError (ascii "publicKey(privateKey: string) expects a base64-encoded string")

/-- The number a key denotes as a scalar, least significant octet first. -/
def scalar (key : Key) : Nat := fromLittleEndian key.toList

/-- The first and the last octet of a key are the ones that clamping changes. A key of 32 octets
is split into the first one, thirty in the middle and the last one, and the two positions are set
independently. -/
theorem clamp_octets (key : Key) : ∃ first middle last, key.toList = first :: (middle ++ [last]) ∧
    middle.length = 30 ∧
    (clampScalar key).toList = (first &&& 248) :: (middle ++ [(last &&& 127) ||| 64]) := by
  have split : ∃ first middle last, key.toList = first :: (middle ++ [last]) := by
    have size : key.toList.length = 32 := key.toList_length
    rcases octets : key.toList with _ | ⟨first, rest⟩
    · rw [octets] at size
      cases size
    · rcases List.eq_nil_or_concat rest with rfl | ⟨middle, last, rfl⟩
      · rw [octets] at size
        cases size
      · exact ⟨first, middle, last, by simp⟩
  obtain ⟨first, middle, last, octets⟩ := split
  have length : middle.length = 30 := by
    have size : key.toList.length = 32 := key.toList_length
    rw [octets] at size
    simpa using size
  have head : key.get ⟨0, by decide⟩ = first := by
    simp [List.Vector.get_eq_get_toList, octets]
  have tail : key.get ⟨31, by decide⟩ = last := by
    simp [List.Vector.get_eq_get_toList, octets, length]
  have kept (octet : UInt8) : (key.set ⟨0, by decide⟩ octet).get ⟨31, by decide⟩ = last :=
    (List.Vector.get_set_of_ne (by simp) octet).trans tail
  refine ⟨first, middle, last, octets, length, ?_⟩
  rw [clampScalar]
  simp only [head, kept, List.Vector.get_set_same, List.Vector.toList_set, List.set_set, octets]
  simp [length]

/-- Low bits cleared, high bits set. -/
theorem clamp_first (octet : UInt8) : (octet &&& 248).toNat = 8 * (octet.toNat / 8) := by
  have table : ∀ i : Fin 256, (UInt8.ofNat i.val &&& 248).toNat = 8 * (i.val / 8) := by
    decide +kernel
  have row := table ⟨octet.toNat, octet.toNat_lt⟩
  simpa only [UInt8.ofNat_toNat] using row

/-- In the last octet six bits are kept below the one that is set. -/
theorem clamp_last (octet : UInt8) : ((octet &&& 127) ||| 64).toNat = 64 + octet.toNat % 64 := by
  have table : ∀ i : Fin 256, ((UInt8.ofNat i.val &&& 127) ||| 64).toNat = 64 + i.val % 64 := by
    decide +kernel
  have row := table ⟨octet.toNat, octet.toNat_lt⟩
  simpa only [UInt8.ofNat_toNat] using row

/-- Clamping keeps 251 bits of a scalar, makes it a multiple of eight and sets its bit 254. -/
theorem clamped_scalar (key : Key) : scalar (clampScalar key) = 2 ^ 254 + 8 * (scalar key / 8 % 2 ^ 251) := by
  obtain ⟨first, middle, last, octets, length, clamped⟩ := clamp_octets key
  have inner := from_little_endian_bound middle
  have low := first.toNat_lt
  have high := last.toNat_lt
  rw [length] at inner
  rw [scalar, scalar, clamped, octets]
  simp only [fromLittleEndian, from_little_endian_append, length, clamp_first, clamp_last]
  norm_num at inner ⊢
  omega

/-- A key is determined by the scalar it denotes. -/
theorem scalar_injective {left right : Key} (same : scalar left = scalar right) : left = right :=
  List.Vector.toList_injective
    (from_little_endian_injective _ _ (by simp) same)

/-- Clamping a clamped key changes nothing. -/
theorem clamp_twice (key : Key) : clampScalar (clampScalar key) = clampScalar key := by
  apply scalar_injective
  rw [clamped_scalar (clampScalar key), clamped_scalar key]
  omega

/-- Keys are clamped to the same one when they agree in the 251 bits it keeps. -/
theorem clamp_eq_iff (left right : Key) :
    clampScalar left = clampScalar right ↔
      scalar left / 8 % 2 ^ 251 = scalar right / 8 % 2 ^ 251 := by
  constructor
  · intro same
    have scalars := congrArg scalar same
    rw [clamped_scalar, clamped_scalar] at scalars
    omega
  · intro same
    apply scalar_injective
    rw [clamped_scalar, clamped_scalar, same]

/-- A generated private key is a text of 44 characters that the addon reads back; the scalar it
denotes is clamped, and keeps 251 of the random bits, which alone decide the text.

Proof: clamping is computed on the first and the last octet, and gives the scalar in closed form.
The text determines the key, and the key its scalar. -/
theorem generated_private_key (random : Key) :
    (∃ text key, exportedPrivateKey (some random) = .returned (.string text) ∧ text.length = 44 ∧
      keyFromBase64 text = .ok key ∧ scalar key = 2 ^ 254 + 8 * (scalar random / 8 % 2 ^ 251) ∧
      clampScalar key = key) ∧
    ∀ other, exportedPrivateKey (some random) = exportedPrivateKey (some other) ↔
      scalar random / 8 % 2 ^ 251 = scalar other / 8 % 2 ^ 251 := by
  constructor
  · exact ⟨keyToBase64 (clampScalar random), clampScalar random, rfl, (key_to_base64_form _).1,
      key_from_base64_key_to_base64 _, clamped_scalar random, clamp_twice random⟩
  · intro other
    rw [← clamp_eq_iff]
    constructor
    · intro same
      have texts : keyToBase64 (clampScalar random) = keyToBase64 (clampScalar other) :=
        JsValue.string.inj (Ended.returned.inj same)
      exact key_to_base64_injective texts
    · intro same
      change exported (.ok (clampScalar random)) = exported (.ok (clampScalar other))
      rw [same]

/-- A generated preshared key is the text of the random octets themselves: it has 44
characters, the addon reads the octets back from it, and other octets give another text. -/
theorem generated_preshared_key (random : Key) :
    exportedPresharedKey (some random) = .returned (.string (keyToBase64 random)) ∧
      (keyToBase64 random).length = 44 ∧ keyFromBase64 (keyToBase64 random) = .ok random ∧
      ∀ other, exportedPresharedKey (some random) = exportedPresharedKey (some other) ↔
        random = other := by
  refine ⟨rfl, (key_to_base64_form random).1, key_from_base64_key_to_base64 random, ?_⟩
  intro other
  constructor
  · intro same
    have texts : keyToBase64 random = keyToBase64 other :=
      JsValue.string.inj (Ended.returned.inj same)
    exact key_to_base64_injective texts
  · intro same
    rw [same]

section Shown

variable {inet : Inet}

/-- A device line leaves the public key alone. -/
theorem device_line_public_key (device next : Device) (key value : Bytes)
    (read : readDeviceLine device key value = .ok next) : next.publicKey = device.publicKey := by
  simp only [readDeviceLine] at read
  split_ifs at read
  · obtain ⟨_, _, same⟩ := (bind_ok_iff _ _ _).mp read
    rw [← Except.ok.inj same]
  · obtain ⟨_, _, same⟩ := (bind_ok_iff _ _ _).mp read
    rw [← Except.ok.inj same]
  · obtain ⟨_, _, same⟩ := (bind_ok_iff _ _ _).mp read
    rw [← Except.ok.inj same]
  · exact congrArg Device.publicKey (Except.ok.inj read).symm

/-- So does every other line, since a public key opens a peer. The cases are the lines without a
mark, those that open a peer, end the response, or go to a peer or to the device. -/
theorem line_public_key (reading next : Reading) (line : Bytes)
    (read : readLine inet reading line = .ok next) :
    next.device.publicKey = reading.device.publicKey := by
  cases cut : splitFirst (byte '=') line with
  | none =>
    rw [read_unmarked_line reading line cut] at read
    rw [Except.ok.inj read]
  | some parts =>
    obtain ⟨key, value⟩ := parts
    rw [read_marked_line reading line key value cut] at read
    split_ifs at read
    · obtain ⟨_, _, same⟩ := (bind_ok_iff _ _ _).mp read
      rw [Except.ok.inj same]
    · obtain ⟨_, _, same⟩ := (bind_ok_iff _ _ _).mp read
      rw [← Except.ok.inj same]
      rfl
    · split at read
      · obtain ⟨_, _, same⟩ := (bind_ok_iff _ _ _).mp read
        rw [← Except.ok.inj same]
      · obtain ⟨after, line, same⟩ := (bind_ok_iff _ _ _).mp read
        rw [← Except.ok.inj same]
        exact device_line_public_key _ _ _ _ line

/-- No response sets the public key of the device itself. -/
theorem lines_public_key (name response : Bytes) (reading : Reading)
    (read : readLines inet name response = .ok reading) : reading.close.publicKey = none := by
  have loop (texts : List Bytes) (first last : Reading)
      (read : texts.foldlM (readLine inet) first = .ok last) :
      last.device.publicKey = first.device.publicKey := by
    induction texts generalizing first with
    | nil => rw [Except.ok.inj (show Except.ok first = Except.ok last from read)]
    | cons line texts inductionHypothesis =>
      rw [List.foldlM_cons] at read
      obtain ⟨middle, one, others⟩ := (bind_ok_iff _ _ _).mp read
      exact (inductionHypothesis middle others).trans (line_public_key first middle line one)
  exact loop _ _ reading read

/-- Whatever a daemon answers, the public key that is shown is the one the exported function
derives from the private key that is shown, and neither an absent nor a zero key has one.

Proof: no line of a response sets the public key of the device, by induction on the lines, so it
is absent until it is derived. It is derived from the private key where that is set and not zero,
by the function that the exported one calls too, on the text that is read back to the same key. -/
theorem shown_public_key (ssl : OpenSSL) (name response : Bytes) (device : Device)
    (parsed : parseGetResponse inet ssl name response = .ok device) :
    match device.privateKey with
    | some privateKey =>
        if isZeroKey privateKey then (deviceToJs device).get "publicKey" = .string []
        else exportedPublicKey ssl [(deviceToJs device).get "privateKey"] =
          .returned ((deviceToJs device).get "publicKey")
    | none => (deviceToJs device).get "publicKey" = .string [] := by
  obtain ⟨reading, read, derived⟩ := (bind_ok_iff _ _ _).mp parsed
  have unset := lines_public_key name response reading read
  have shownPrivate : (deviceToJs device).get "privateKey" = .string (shownKey device.privateKey) := by
    simp [deviceToJs, JsValue.get]
  have shownPublic : (deviceToJs device).get "publicKey" = .string (shownKey device.publicKey) := by
    simp [deviceToJs, JsValue.get]
  rw [shownPrivate, shownPublic]
  unfold derivePublicKey at derived
  split at derived
  · rename_i privateKey set
    split at derived
    · rename_i zero
      obtain rfl := Except.ok.inj derived
      simp [set, zero, unset, shownKey]
    · rename_i nonzero
      obtain ⟨publicKey, computed, same⟩ := (bind_ok_iff _ _ _).mp derived
      obtain rfl := Except.ok.inj same
      have text : keyFromBase64 (keyToBase64 privateKey) = .ok privateKey :=
        key_from_base64_key_to_base64 privateKey
      simp [set, nonzero, shownKey, exportedPublicKey, text, computed, bind, Except.bind]
  · rename_i none
    obtain rfl := Except.ok.inj derived
    simp [none, unset, shownKey]

end Shown

/-- A private key and its public key. -/
def knownPrivateKey : Key :=
  ⟨[0x77, 0x07, 0x6d, 0x0a, 0x73, 0x18, 0xa5, 0x7d, 0x3c, 0x16, 0xc1, 0x72, 0x51, 0xb2, 0x66, 0x45,
    0xdf, 0x4c, 0x2f, 0x87, 0xeb, 0xc0, 0x99, 0x2a, 0xb1, 0x77, 0xfb, 0xa5, 0x1d, 0xb9, 0x2c, 0x2a],
    rfl⟩

/-- The public key that belongs to it. -/
def knownPublicKey : Key :=
  ⟨[0x85, 0x20, 0xf0, 0x09, 0x89, 0x30, 0xa7, 0x54, 0x74, 0x8b, 0x7d, 0xdc, 0xb4, 0x3e, 0xf7, 0x5a,
    0x0d, 0xbf, 0x3a, 0x0d, 0x26, 0x38, 0x1a, 0xf4, 0xeb, 0xa4, 0xa9, 0x8e, 0xaa, 0x9b, 0x4e, 0x6a],
    rfl⟩

/-- OpenSSL as far as the one pair tells. It accepts every private key and derives this one
alone. -/
def knownSsl : OpenSSL where
  newRawPrivateKey _ := true
  getRawPublicKey key := if key = knownPrivateKey then some knownPublicKey.toList else none

/-- A daemon that reports the private key is shown with its public key. -/
theorem known_public_key_shown : ∃ device,
    parseGetResponse plainInet knownSsl (ascii "utun4")
      (ascii "private_key=" ++ keyToHex knownPrivateKey ++ ascii "\nerrno=0\n\n") = .ok device ∧
    exportedPublicKey knownSsl [(deviceToJs device).get "privateKey"] =
      .returned ((deviceToJs device).get "publicKey") := by
  have parsed : parseGetResponse plainInet knownSsl (ascii "utun4")
      (ascii "private_key=" ++ keyToHex knownPrivateKey ++ ascii "\nerrno=0\n\n") =
      .ok { name := ascii "utun4", userspace := true, privateKey := some knownPrivateKey
            publicKey := some knownPublicKey } := by
    decide +kernel
  have nonzero : isZeroKey knownPrivateKey = false := by decide +kernel
  have shown := shown_public_key knownSsl (ascii "utun4") _ _ parsed
  simp only [nonzero, Bool.false_eq_true, ↓reduceIte] at shown
  exact ⟨_, parsed, shown⟩

end NodeWireguard.ExportedKeys
