import V2xPki.Request.EcRequest

namespace V2xPki

structure AtRecord where
  atPublicKey : StaticBytes kP384PublicKeyLen
  aaHashedId8 : HashedId8
  eaHashedId8 : HashedId8
  requestedPsids : List Int
  validityPeriodHours : Int := 24
  curve : Curve := .nistP256
deriving DecidableEq

/-- `validate_at_record`, with the text it writes to `err`. -/
def validateAtRecord (rec : AtRecord) : Except String Unit :=
  if !uncompressedFor rec.atPublicKey rec.curve then
    .error "at_public_key must be uncompressed (0x04 prefix, correct size for curve)"
  else if rec.requestedPsids.isEmpty then .error "requested_psids must not be empty"
  else if rec.requestedPsids.any (·<0) then .error "psid values must be non-negative"
  else if rec.validityPeriodHours≤0 ∨ 87600<rec.validityPeriodHours then
    .error "validity_period_hours must be 1-87600"
  else .ok ()

structure AtRequestDescription where
  verificationKey : StaticBytes kP384PublicKeyLen
  psids : List Int
  validityStart : UInt32
  validityDurationHours : UInt16
  aaHid8 : HashedId8
  eaHid8 : HashedId8
  hmacKey : StaticBytes 32
  curve : Curve
deriving DecidableEq

variable (lib : Lib)

/-- A key pair is generated for its random scalar; a failed generation leaves zeros. -/
def atHmacKey (drawn : Option Nat) : StaticBytes 32 :=
  match Crypto.generateKeypair lib.ssl .nistP256 drawn with
  | some kp => .orEmpty (kp.privateKey.data kP256ScalarLen)
  | none => .orEmpty (List.replicate kSha256Len 0)

def assembleAtRequest (rec : AtRecord) (nowUnix : Int) (drawn : Option Nat) :
    AtRequestDescription where
  verificationKey := rec.atPublicKey
  psids := rec.requestedPsids
  validityStart := unixToTai32 nowUnix
  validityDurationHours := UInt16.ofInt (min rec.validityPeriodHours 65535)
  aaHid8 := rec.aaHashedId8
  eaHid8 := rec.eaHashedId8
  hmacKey := atHmacKey lib drawn
  curve := rec.curve

/-- What one authorization request takes from outside. -/
structure AtEntropy where
  hmacScalar : Option Nat
  external : Sign.EnvelopeEntropy
  eciesEa : Crypto.EciesEntropy
  outer : Sign.EnvelopeEntropy
  eciesAa : Crypto.EciesEntropy
deriving DecidableEq

def sharedAtRequest (desc : AtRequestDescription) (pvkOer : Bytes) : Asn.SharedAtRequest :=
  ⟨desc.eaHid8.toList,
    (lib.ssl.hmacSha256 desc.hmacKey.toVector pvkOer).toList.take 16,kTs103097v131,
    some (requestedAttributes desc.validityStart desc.validityDurationHours desc.psids)⟩

/-- The `ecSignature`: the hash of the shared request signed with the EC key and encrypted
to the EA. -/
def encryptedEcSignature (desc : AtRequestDescription) (sharedCoer : Bytes)
    (eaCert ecCert : CertInfo) (ecPrivateKey : Bytes) (entropy : AtEntropy) :
    Except Error Asn.Ieee1609Dot2Data :=
  let extHash := Crypto.hashForCurve lib.ssl sharedCoer desc.curve
  let signedExt := Sign.buildExternalPayload lib extHash ecCert ecPrivateKey desc.curve
    entropy.external
  if signedExt.isEmpty then .error .crypto
  else match encryptTo lib eaCert signedExt entropy.eciesEa with
    | .error e => .error e
    | .ok ecies => .ok (Enc.buildEncryptedData ecies eaCert eaCert.encCurve)

/-- The shared request is decoded again from its own encoding before it is embedded. -/
def innerAtRequestBytes (desc : AtRequestDescription) (eaCert ecCert : CertInfo)
    (ecPrivateKey : Bytes) (entropy : AtEntropy) : Except Error Bytes :=
  let pvk := requestVerificationKey desc.curve desc.verificationKey.toVector
  let pvkOer := Coer.encode lib.asn.publicVerificationKey pvk
  if pvkOer.isEmpty then .error .encode
  else
    let sharedCoer := Coer.encode lib.asn.sharedAtRequest (sharedAtRequest lib desc pvkOer)
    if sharedCoer.isEmpty then .error .encode
    else match encryptedEcSignature lib desc sharedCoer eaCert ecCert ecPrivateKey entropy with
      | .error e => .error e
      | .ok encEcSig => match Coer.decode lib.asn.sharedAtRequest sharedCoer with
        | none => .error .encode
        | some shared =>
          let innerBytes := Coer.encode lib.asn.innerAtRequest
            ⟨some ⟨some pvk,none⟩,desc.hmacKey.toVector,some shared,
              some (.encryptedEcSignature (some encEcSig))⟩
          if innerBytes.isEmpty then .error .encode else .ok innerBytes

def encodeAtRequest (desc : AtRequestDescription) (aaCert eaCert ecCert : CertInfo)
    (ecPrivateKey atPrivateKey : Bytes) (entropy : AtEntropy) : Except Error RequestResult :=
  match innerAtRequestBytes lib desc eaCert ecCert ecPrivateKey entropy with
  | .error e => .error e
  | .ok innerBytes =>
    let outer := Sign.buildSelfSigned lib (0x01::0x82::innerBytes) atPrivateKey desc.curve
      entropy.outer
    if outer.isEmpty then .error .crypto
    else match encryptTo lib aaCert outer entropy.eciesAa with
      | .error e => .error e
      | .ok ecies => encodeEncrypted lib aaCert ecies

end V2xPki
