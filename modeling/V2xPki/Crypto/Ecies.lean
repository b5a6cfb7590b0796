import V2xPki.Crypto.CryptoEc

namespace V2xPki.Crypto
variable (ssl : OpenSsl)

/-- The four big-endian octets of the block counter. -/
def counterBytes (counter : UInt32) : Bytes :=
  [(counter>>>24).toUInt8,(counter>>>16).toUInt8,(counter>>>8).toUInt8,counter.toUInt8]

/-- The loop of `kdf2_sha256`. Every round adds at least one octet, so `outLen`
rounds are enough. -/
def kdf2Rounds (sharedSecret p1 : Bytes) (outLen : Nat) :
    Nat → UInt32 → Bytes → Bytes
  | 0,_,result => result
  | fuel+1,counter,result =>
      if result.length<outLen then
        let hash := hashSha256 ssl (sharedSecret++counterBytes counter++p1)
        kdf2Rounds sharedSecret p1 outLen fuel (counter+1)
          (result++hash.take (outLen-result.length))
      else result

def kdf2Sha256 (sharedSecret p1 : Bytes) (outLen : Nat) : Bytes :=
  kdf2Rounds ssl sharedSecret p1 outLen outLen 1 []

structure AesCcmResult where
  ciphertext : Bytes
  tag : Bytes
deriving DecidableEq

def aes128CcmEncrypt (key nonce plaintext : Bytes) : Option AesCcmResult :=
  if key.length≠kAesKeyLen ∨ nonce.length≠kAesCcmNonceLen then none
  else (ssl.ccmEncrypt key nonce plaintext).map fun r => ⟨r.1,r.2⟩

def aes128CcmDecrypt (key nonce ciphertext tag : Bytes) : Option Bytes :=
  if key.length≠kAesKeyLen ∨ nonce.length≠kAesCcmNonceLen ∨ tag.length≠kAesCcmTagLen then none
  else ssl.ccmDecrypt key nonce ciphertext tag

structure EciesEncryptResult where
  ephemeralPubkey : Bytes
  encryptedKey : Bytes
  tagKdf : Bytes
  nonceCcm : Bytes
  ciphertext : Bytes
  tagCcm : Bytes
  aesKey : Bytes
deriving DecidableEq

/-- What the random source gives one encryption: the ephemeral scalar, the AES key
and the nonce, each only if its call succeeds. -/
structure EciesEntropy where
  ephemeral : Option Nat
  aesKey : Option (Vector UInt8 16)
  nonce : Option (Vector UInt8 12)
deriving DecidableEq

/-- `RAND_bytes` into a zeroed buffer, its result unchecked. -/
def randBytes {n : Nat} (drawn : Option (Vector UInt8 n)) : Bytes :=
  (drawn.getD (Vector.replicate n 0)).toList

def eciesEncrypt (recipientPublicKey plaintext p1 : Bytes) (curve : Curve)
    (entropy : EciesEntropy) : Option EciesEncryptResult := do
  let eph ← generateKeypair ssl curve entropy.ephemeral
  let ss ← ecdhDerive ssl eph.privateKey.toVector recipientPublicKey curve
  let kdfOut := kdf2Sha256 ssl ss p1 (kAesKeyLen+kP256ScalarLen)
  let k1 := kdfOut.take kAesKeyLen
  let k2 := kdfOut.drop kAesKeyLen
  let kAes := randBytes entropy.aesKey
  let cEncrypted := List.zipWith (·^^^·) k1 kAes
  let tagKdf := (ssl.hmacSha256 k2 cEncrypted).toList.take kAesKeyLen
  let nonce := randBytes entropy.nonce
  let ccm ← aes128CcmEncrypt ssl kAes nonce plaintext
  pure ⟨eph.publicKey.toVector,cEncrypted,tagKdf,nonce,ccm.ciphertext,ccm.tag,kAes⟩

def eciesDecrypt (recipientPrivateKey : Bytes) (enc : EciesEncryptResult) (p1 : Bytes)
    (curve : Curve) : Option Bytes := do
  let ss ← ecdhDerive ssl recipientPrivateKey enc.ephemeralPubkey curve
  let kdfOut := kdf2Sha256 ssl ss p1 (kAesKeyLen+kP256ScalarLen)
  let k1 := kdfOut.take kAesKeyLen
  let k2 := kdfOut.drop kAesKeyLen
  let hmacFull := (ssl.hmacSha256 k2 enc.encryptedKey).toList
  if enc.tagKdf.length≠kAesKeyLen ∨ hmacFull.take kAesKeyLen≠enc.tagKdf then none
  else if enc.encryptedKey.length≠kAesKeyLen then none
  else
    let kAes := List.zipWith (·^^^·) k1 enc.encryptedKey
    aes128CcmDecrypt ssl kAes enc.nonceCcm enc.ciphertext enc.tagCcm

end V2xPki.Crypto
