import V2xPki.Message.SignedMessage

namespace V2xPki

/-- `b.data()` read for `n` octets: the buffer behind the length is zero-filled. -/
def StaticBytes.data {N : Nat} (b : StaticBytes N) (n : Nat) : Bytes :=
  (b.toVector++List.replicate (N-b.size) 0).take n

namespace Sign
variable (lib : Lib)

/-- What one envelope takes from outside: the wall clock and the ECDSA nonce. -/
structure EnvelopeEntropy where
  unixMicros : Int
  nonce : Nat
deriving DecidableEq

def currentGenerationTime (unixMicros : Int) : UInt64 :=
  UInt64.ofInt (unixToTaiMicros unixMicros)

/-- `build_asn_signature`: every P-384 signature is labelled Brainpool. -/
def buildAsnSignature (sig : Signature) (curve : Curve) : Asn.Signature :=
  let ecdsa := some ⟨some (.xOnly (sig.r.data curve.scalarLen)),sig.s.data curve.scalarLen⟩
  if curve.isP256Size then
    if curve=.brainpoolP256r1 then .ecdsaBrainpoolP256r1Signature ecdsa
    else .ecdsaNistP256Signature ecdsa
  else .ecdsaBrainpoolP384r1Signature ecdsa

/-- Double hash, sign, wrap, encode. An empty `signerCertBytes` makes the signer `self`;
a failure at any step is the empty vector. -/
def finalizeSignedData (tbs : Asn.ToBeSignedData) (privateKey signerCertBytes : Bytes)
    (signerHid8 : HashedId8) (curve : Curve) (nonce : Nat) : Bytes :=
  let tbsBytes := Coer.encode lib.asn.toBeSignedData tbs
  if tbsBytes.isEmpty then []
  else
    let e := SignedMsg.signedDataHash lib tbsBytes signerCertBytes curve
    match Crypto.ecdsaSignDigest lib.ssl privateKey e curve nonce with
    | none => []
    | some sig =>
      let signer := if signerCertBytes.isEmpty then .self else .digest signerHid8.toList
      Coer.encode lib.asn.ieee1609Dot2Data ⟨kIeee1609Dot2Version,some (.signedData (some
        ⟨if curve.isP256Size then .sha256 else .sha384,some tbs,some signer,
          some (buildAsnSignature sig curve)⟩))⟩

def headerInfo (unixMicros : Int) : Asn.HeaderInfo :=
  ⟨kPsidScr.toNat,some (currentGenerationTime unixMicros),[]⟩

def makeUnsecuredTbs (payloadBytes : Bytes) (unixMicros : Int) : Asn.ToBeSignedData :=
  ⟨some ⟨some ⟨kIeee1609Dot2Version,some (.unsecuredData payloadBytes)⟩,none⟩,
    some (headerInfo unixMicros)⟩

def buildSelfSigned (payloadBytes privateKey : Bytes) (curve : Curve)
    (entropy : EnvelopeEntropy) : Bytes :=
  finalizeSignedData lib (makeUnsecuredTbs payloadBytes entropy.unixMicros) privateKey []
    .zero curve entropy.nonce

def buildSignedByCert (payloadBytes : Bytes) (signerCert : CertInfo) (privateKey : Bytes)
    (curve : Curve) (entropy : EnvelopeEntropy) : Bytes :=
  finalizeSignedData lib (makeUnsecuredTbs payloadBytes entropy.unixMicros) privateKey
    signerCert.certBytes.toVector signerCert.hashedId8 curve entropy.nonce

def buildExternalPayload (extDataHash : Bytes) (ecCert : CertInfo) (ecPrivateKey : Bytes)
    (curve : Curve) (entropy : EnvelopeEntropy) : Bytes :=
  let hashed := if curve.isP256Size then .sha256HashedData extDataHash
    else .sha384HashedData extDataHash
  let tbs : Asn.ToBeSignedData :=
    ⟨some ⟨none,some hashed⟩,some (headerInfo entropy.unixMicros)⟩
  finalizeSignedData lib tbs ecPrivateKey ecCert.certBytes.toVector ecCert.hashedId8 curve
    entropy.nonce

end Sign

end V2xPki
