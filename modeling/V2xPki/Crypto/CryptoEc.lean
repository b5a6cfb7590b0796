import V2xPki.Asn1.Library

namespace V2xPki

/-- Sized for the largest supported curve. -/
structure KeyPair where
  publicKey : StaticBytes kP384PublicKeyLen
  privateKey : StaticBytes kP384ScalarLen
deriving DecidableEq

structure Signature where
  r : StaticBytes kP384ScalarLen
  s : StaticBytes kP384ScalarLen
deriving DecidableEq

namespace Crypto
variable (ssl : OpenSsl)

def hashSha256 (data : Bytes) : Bytes := (ssl.sha256 data).toList

def hashSha384 (data : Bytes) : Bytes := (ssl.sha384 data).toList

def hashForCurve (data : Bytes) : Curve → Bytes
  | .nistP256 => hashSha256 ssl data
  | .brainpoolP256r1 => hashSha256 ssl data
  | .nistP384 => hashSha384 ssl data
  | .brainpoolP384r1 => hashSha384 ssl data

@[simp] theorem hashSha256_length (data : Bytes) : (hashSha256 ssl data).length=32 := by
  simp [hashSha256]

@[simp] theorem hashSha384_length (data : Bytes) : (hashSha384 ssl data).length=48 := by
  simp [hashSha384]

theorem hashForCurve_length (data : Bytes) (c : Curve) :
    (hashForCurve ssl data c).length=c.hashLen := by
  cases c <;> simp [hashForCurve,Curve.hashLen,Curve.isP256Size,kSha256Len,kSha384Len]

theorem eight_le_hashForCurve (data : Bytes) (c : Curve) :
    8≤(hashForCurve ssl data c).length := by
  rw [hashForCurve_length]
  cases c <;> decide

/-- `evp_pkey_from_public`: the point of the key, uncompressed. -/
def evpPkeyFromPublic (pub : Bytes) (curve : Curve) : Option Bytes :=
  let uncompressed := pub.length=curve.pubkeyLen ∧ pub.head?=some 0x04
  let compressed := pub.length=curve.compressedLen ∧
    (pub.head?=some 0x02 ∨ pub.head?=some 0x03)
  if uncompressed then some pub |>.filter (ssl.publicOk curve)
  else if compressed then (ssl.decompress curve pub).filter (ssl.publicOk curve)
  else none

theorem evpPkeyFromPublic_ne_nil {ssl : OpenSsl} {pub point : Bytes} {curve : Curve}
    (h : evpPkeyFromPublic ssl pub curve=some point) : pub≠[] := by
  rintro rfl
  simp [evpPkeyFromPublic] at h

/-- `evp_pkey_from_private`: the scalar of the key. -/
def evpPkeyFromPrivate (priv : Bytes) (curve : Curve) : Option Nat :=
  if priv.length=curve.scalarLen ∧ (ssl.publicOf curve (natOfBytes priv)).isSome then
    some (natOfBytes priv)
  else none

/-- `generate_keypair`, given the scalar the generator draws, if it draws one. -/
def generateKeypair (curve : Curve) (drawn : Option Nat) : Option KeyPair := do
  let d ← drawn
  let pub ← ssl.publicOf curve d
  let publicKey ← StaticBytes.fromBytes pub
  let privateKey ← StaticBytes.fromBytes (binpad curve.scalarLen d)
  pure ⟨publicKey,privateKey⟩

def ecdsaSignDigest (privateKey digest : Bytes) (curve : Curve) (nonce : Nat) :
    Option Signature :=
  if digest.length≠curve.hashLen then none
  else do
    let d ← evpPkeyFromPrivate ssl privateKey curve
    let rs ← ssl.sign curve d digest nonce
    let r ← StaticBytes.fromBytes (binpad curve.scalarLen rs.1)
    let s ← StaticBytes.fromBytes (binpad curve.scalarLen rs.2)
    pure ⟨r,s⟩

def ecdsaVerifyDigest (publicKey digest : Bytes) (sig : Signature) (curve : Curve) : Bool :=
  if digest.length≠curve.hashLen then false
  else match evpPkeyFromPublic ssl publicKey curve with
    | none => false
    | some p => ssl.verify curve p digest
        (natOfBytes sig.r.toVector,natOfBytes sig.s.toVector)

theorem ecdsaVerifyDigest_length {publicKey digest : Bytes} {sig : Signature} {curve : Curve}
    (h : ecdsaVerifyDigest ssl publicKey digest sig curve=true) :
    digest.length=curve.hashLen := by
  by_contra hne
  simp [ecdsaVerifyDigest,hne] at h

/-- A signature is only checked under a key that is taken on the curve. -/
theorem evpPkeyFromPublic_of_verify {ssl : OpenSsl} {publicKey digest : Bytes} {sig : Signature}
    {curve : Curve} (h : ecdsaVerifyDigest ssl publicKey digest sig curve=true) :
    ∃ point,evpPkeyFromPublic ssl publicKey curve=some point := by
  cases hkey : evpPkeyFromPublic ssl publicKey curve with
  | none =>
    unfold ecdsaVerifyDigest at h
    rw [hkey] at h
    split at h <;> cases h
  | some point => exact ⟨point,rfl⟩

def ecdhDerive (privateKey peerPublicKey : Bytes) (curve : Curve) : Option Bytes := do
  let d ← evpPkeyFromPrivate ssl privateKey curve
  let p ← evpPkeyFromPublic ssl peerPublicKey curve
  ssl.derive curve d p

end Crypto

end V2xPki
