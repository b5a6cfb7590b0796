import V2xPki.Message.EncryptedData
import V2xPki.Message.SignedEnvelope

namespace V2xPki

structure EcRecord where
  canonicalPublicKey : StaticBytes kP384PublicKeyLen
  eaHashedId8 : HashedId8
  requestedPsids : List Int
  validityPeriodDays : Int := 30
  curve : Curve := .nistP256
  itsId : String := "v2xpki-its-s"
deriving DecidableEq

/-- The key is uncompressed and has the length of its curve. -/
def uncompressedFor (key : StaticBytes kP384PublicKeyLen) (curve : Curve) : Bool :=
  decide (key.size=curve.pubkeyLen ∧ key.toVector.head?=some 0x04)

/-- `validate_ec_record`, with the text it writes to `err`. -/
def validateEcRecord (rec : EcRecord) : Except String Unit :=
  if !uncompressedFor rec.canonicalPublicKey rec.curve then
    .error "canonical_public_key must be uncompressed (0x04 prefix, correct size for curve)"
  else if rec.requestedPsids≠[kPsidScr] then
    .error ("EC requested_psids must be exactly \x7bkPsidScr\x7d (TS 103 097 §7.2.2); "++
      "application PSIDs belong on the AT")
  else if rec.validityPeriodDays≤0 ∨ 3650<rec.validityPeriodDays then
    .error "validity_period_days must be 1-3650"
  else .ok ()

structure EcRequestDescription where
  itsId : String
  verificationKey : StaticBytes kP384PublicKeyLen
  psids : List Int
  validityStart : UInt32
  validityDurationHours : UInt16
  eaHid8 : HashedId8
  curve : Curve
deriving DecidableEq

def assembleEcRequest (rec : EcRecord) (nowUnix : Int) : EcRequestDescription where
  itsId := if rec.itsId.isEmpty then "v2xpki-its-s" else rec.itsId
  verificationKey := rec.canonicalPublicKey
  psids := rec.requestedPsids
  validityStart := unixToTai32 nowUnix
  validityDurationHours := UInt16.ofInt (rec.validityPeriodDays*24)
  eaHid8 := rec.eaHashedId8
  curve := rec.curve

/-- The switch over the curve; NIST P-384 falls into the default. -/
def requestVerificationKey (curve : Curve) (key : Bytes) : Asn.PublicVerificationKey :=
  match curve with
  | .brainpoolP256r1 => .ecdsaBrainpoolP256r1 (Point.fromSec1 key)
  | .brainpoolP384r1 => .ecdsaBrainpoolP384r1 (Point.fromSec1_384 key)
  | _ => .ecdsaNistP256 (Point.fromSec1 key)

def requestedAttributes (start : UInt32) (hours : UInt16) (psids : List Int) :
    Asn.CertificateSubjectAttributes :=
  ⟨some ⟨start,some (.hours hours)⟩,some (psids.map UInt64.ofInt)⟩

/-- `CertificateFormat_ts103097v131`. -/
def kTs103097v131 : Nat := 1

/-- `EcRequestResult` and `AtRequestResult`. -/
structure RequestResult where
  encoded : StaticBytes kMaxCoerMessageLen
  requestAesKey : StaticBytes kAesKeyLen
deriving DecidableEq

variable (lib : Lib)

/-- ECIES to the encryption key of a CA, falling back to its verification key. -/
def encryptTo (cert : CertInfo) (plaintext : Bytes) (entropy : Crypto.EciesEntropy) :
    Except Error Crypto.EciesEncryptResult :=
  let encKey := if cert.encryptionKey.empty then cert.publicKey.toVector
    else cert.encryptionKey.toVector
  if encKey.length<33 then .error .invalidArgument
  else
    let p1 := Crypto.hashSha256 lib.ssl cert.certBytes.toVector
    match Crypto.eciesEncrypt lib.ssl encKey plaintext p1 cert.encCurve entropy with
    | none => .error .crypto
    | some r => .ok r

/-- The outer encrypted message, as both request encoders finish. -/
def encodeEncrypted (cert : CertInfo) (ecies : Crypto.EciesEncryptResult) :
    Except Error RequestResult :=
  let finalBytes := Coer.encode lib.asn.ieee1609Dot2Data
    (Enc.buildEncryptedData ecies cert cert.encCurve)
  if finalBytes.isEmpty then .error .encode
  else match StaticBytes.fromBytes finalBytes,StaticBytes.fromBytes ecies.aesKey with
    | none,_ => .error .encode
    | _,none => .error .crypto
    | some encoded,some aesKey => .ok ⟨encoded,aesKey⟩

/-- What one enrolment request takes from outside. -/
structure EcEntropy where
  pop : Sign.EnvelopeEntropy
  outer : Sign.EnvelopeEntropy
  ecies : Crypto.EciesEntropy
deriving DecidableEq

def innerEcRequest (desc : EcRequestDescription) : Asn.InnerEcRequest :=
  ⟨bytesOfString desc.itsId,kTs103097v131,
    some ⟨some (requestVerificationKey desc.curve desc.verificationKey.toVector),none⟩,
    some (requestedAttributes desc.validityStart desc.validityDurationHours desc.psids)⟩

def encodeEcRequest (desc : EcRequestDescription) (eaCert : CertInfo)
    (canonicalPrivateKey : Bytes) (entropy : EcEntropy) : Except Error RequestResult :=
  let innerBytes := Coer.encode lib.asn.innerEcRequest (innerEcRequest desc)
  if innerBytes.isEmpty then .error .encode
  else
    let pop := Sign.buildSelfSigned lib innerBytes canonicalPrivateKey desc.curve entropy.pop
    if pop.isEmpty then .error .crypto
    else
      let outer := Sign.buildSelfSigned lib (0x01::0x80::pop) canonicalPrivateKey desc.curve
        entropy.outer
      if outer.isEmpty then .error .crypto
      else match encryptTo lib eaCert outer entropy.ecies with
        | .error e => .error e
        | .ok ecies => encodeEncrypted lib eaCert ecies

end V2xPki
