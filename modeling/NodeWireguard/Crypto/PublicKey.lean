import Mathlib
import NodeWireguard.Crypto.Key

/-!
# Public keys

`PublicKeyFromPrivate` of `Key.cpp`. The curve arithmetic is OpenSSL's and a parameter: whether
it takes 32 raw octets as an X25519 private key, and the raw public key it gives for them.
-/

namespace NodeWireguard.PublicKey

open ByteText Key

/-- The calls into OpenSSL on an X25519 private key. -/
structure OpenSSL where
  newRawPrivateKey : Key → Bool
  getRawPublicKey : Key → Option Bytes

/-- `PublicKeyFromPrivate`: a failure of either call of OpenSSL, and a key of another size, are
thrown. -/
def publicKeyFromPrivate (ssl : OpenSSL) (privateKey : Key) : Except Exception Key :=
  if ssl.newRawPrivateKey privateKey = false then
    .error (.runtimeError (ascii "EVP_PKEY_new_raw_private_key failed"))
  else
    let failed := Exception.runtimeError (ascii "EVP_PKEY_get_raw_public_key failed")
    match ssl.getRawPublicKey privateKey with
    | none => .error failed
    | some pub => if size : pub.length = kKeyLen then .ok ⟨pub, size⟩ else .error failed

/-- OpenSSL documents that any 32 octets are an X25519 private key and that its raw public key
has 32 octets too; `pub` names it. -/
structure OpenSSL.Derives (ssl : OpenSSL) (pub : Key → Key) : Prop where
  accepted : ∀ key, ssl.newRawPrivateKey key = true
  given : ∀ key, ssl.getRawPublicKey key = some (pub key).toList

/-- A documented derivation gives the public key it names. -/
theorem public_key_derived (ssl : OpenSSL) (pub : Key → Key) (derives : ssl.Derives pub) (key : Key) :
    publicKeyFromPrivate ssl key = .ok (pub key) := by
  have size : (pub key).toList.length = kKeyLen := (pub key).toList_length
  simp only [publicKeyFromPrivate, derives.accepted key, Bool.true_eq_false, ↓reduceIte,
    derives.given key, size, ↓reduceDIte]
  rfl

end NodeWireguard.PublicKey
