import V2xPki.Cert.CurvePoint
import V2xPki.Crypto.CryptoEc

namespace V2xPki

structure CertInfo where
  certBytes : StaticBytes kMaxCoerMessageLen
  hashedId8 : HashedId8
  publicKey : StaticBytes kP384PublicKeyLen
  encryptionKey : StaticBytes kP256PublicKeyLen
  encCurve : Curve
  issuerHashId8 : HashedId8
  isSelfSigned : Bool
  tbsBytes : StaticBytes kMaxCoerMessageLen
  signatureR : StaticBytes kP384ScalarLen
  signatureS : StaticBytes kP384ScalarLen
  curve : Curve
  issuerHash : SigHash
  validityStart : UInt32
  validityDurationSeconds : UInt64
  label : String
deriving DecidableEq

namespace CertInfo

/-- The value-initialised `CertInfo{}`. -/
def zero : CertInfo where
  certBytes := .nil
  hashedId8 := .zero
  publicKey := .nil
  encryptionKey := .nil
  encCurve := .nistP256
  issuerHashId8 := .zero
  isSelfSigned := false
  tbsBytes := .nil
  signatureR := .nil
  signatureS := .nil
  curve := .nistP256
  issuerHash := .sha256
  validityStart := 0
  validityDurationSeconds := 0
  label := ""

/-- Start inclusive, end exclusive; the sum is taken in 64-bit two's complement. -/
def validAt (ci : CertInfo) (taiSeconds : Int) : Bool :=
  if ci.validityDurationSeconds=0 then false
  else
    let start : Int := ci.validityStart.toNat
    let duration := (ci.validityDurationSeconds.toNat : Int).bmod (2^64)
    decide (start≤taiSeconds ∧ taiSeconds<(start+duration).bmod (2^64))

end CertInfo

namespace Cert

/-- The `PublicVerificationKey` of a certificate, when all pointers to it are set. -/
def verificationKey? (cert : Asn.CertificateBase) : Option Asn.PublicVerificationKey := do
  let tbs ← cert.toBeSigned
  let vki ← tbs.verifyKeyIndicator
  match vki with
  | .verificationKey key => key
  | .other _ => none

/-- An implicit certificate carries no verification key; SHA-256 is the fallback there. -/
def wholeCertHashCurve (cert : Option Asn.CertificateBase) : Curve :=
  match cert.bind verificationKey? with
  | some (.ecdsaBrainpoolP384r1 _) => .brainpoolP384r1
  | some (.ecdsaNistP384 _) => .nistP384
  | _ => .nistP256

def truncateHid8 (hash : Bytes) : HashedId8 :=
  (HashedId8.ofBytes (hash.drop (hash.length-kHashedId8Len))).getD .zero

variable (lib : Lib)

/-- `compute_hid8(cert, cert_coer)`. -/
def computeHid8Of (cert : Option Asn.CertificateBase) (certCoer : Bytes) : HashedId8 :=
  truncateHid8 (Crypto.hashForCurve lib.ssl certCoer (wholeCertHashCurve cert))

/-- `compute_hid8(cert_coer)`. -/
def computeHid8 (certCoer : Bytes) : HashedId8 :=
  computeHid8Of lib (Coer.decode lib.asn.certificateBase certCoer) certCoer

/-- Absent or unknown durations are 0, which reads as expired. -/
def durationSeconds : Option Asn.Duration → UInt64
  | none => 0
  | some (.microseconds n) => n.toUInt64/1000000
  | some (.milliseconds n) => n.toUInt64/1000
  | some (.seconds n) => n.toUInt64
  | some (.minutes n) => n.toUInt64*60
  | some (.hours n) => n.toUInt64*3600
  | some (.sixtyHours n) => n.toUInt64*UInt64.ofNat kSixtyHoursSeconds
  | some (.years n) => n.toUInt64*UInt64.ofNat kYearSeconds
  | some .other => 0

structure IssuerFields where
  isSelfSigned : Bool
  issuerHash : SigHash
  issuerHashId8 : HashedId8

/-- The issuer part of `from_struct`. `uninit` is what `issuer_hash_id_8` holds before
any assignment: the member has no initialiser and `CertInfo ci;` gives it none. -/
def parseIssuer (uninit : HashedId8) : Option Asn.IssuerIdentifier → IssuerFields
  | none => ⟨false,.sha256,uninit⟩
  | some (.self .sha384) => ⟨true,.sha384,uninit⟩
  | some (.self _) => ⟨true,.sha256,uninit⟩
  | some (.sha256AndDigest d) => ⟨false,.sha256,(HashedId8.ofBytes d).getD uninit⟩
  | some (.sha384AndDigest d) => ⟨false,.sha384,(HashedId8.ofBytes d).getD uninit⟩
  | some (.other _) => ⟨false,.sha256,uninit⟩

/-- The verification key and its curve; a null choice member leaves the defaults. -/
def parseVerificationKey (cert : Asn.CertificateBase) : Bytes × Curve :=
  match verificationKey? cert with
  | some (.ecdsaNistP256 (some p)) => (Point.toSec1 (some p),.nistP256)
  | some (.ecdsaBrainpoolP256r1 (some p)) => (Point.toSec1 (some p),.brainpoolP256r1)
  | some (.ecdsaBrainpoolP384r1 (some p)) => (Point.toSec1_384 (some p),.brainpoolP384r1)
  | some (.ecdsaNistP384 (some p)) => (Point.toSec1_384 (some p),.nistP384)
  | _ => ([],.nistP256)

def parseEncryptionKey (cert : Asn.CertificateBase) : Bytes × Curve :=
  match do (← (← cert.toBeSigned).encryptionKey).publicKey with
  | some (.eciesNistP256 (some p)) => (Point.toSec1 (some p),.nistP256)
  | some (.eciesBrainpoolP256r1 (some p)) => (Point.toSec1 (some p),.brainpoolP256r1)
  | _ => ([],.nistP256)

def parseValidity (cert : Asn.CertificateBase) : UInt32 × UInt64 :=
  match do (← cert.toBeSigned).validityPeriod with
  | some vp => (vp.start,durationSeconds vp.duration)
  | none => (0,0)

def parseTbs (cert : Asn.CertificateBase) : Bytes :=
  match cert.toBeSigned with
  | some tbs => Coer.encode lib.asn.toBeSignedCertificate tbs
  | none => []

def parseSignature (cert : Asn.CertificateBase) : Bytes × Bytes :=
  match Point.extractSig cert.signature with
  | some rs => (rs.r,rs.s)
  | none => ([],[])

/-- Empty `cert_bytes` on overflow reuses the "decode failed" signal. -/
def fromStruct (uninit : HashedId8) (cert : Asn.CertificateBase) (certCoer : Bytes) :
    CertInfo where
  certBytes := .orEmpty certCoer
  hashedId8 := computeHid8Of lib (some cert) certCoer
  publicKey := .orEmpty (parseVerificationKey cert).1
  encryptionKey := .orEmpty (parseEncryptionKey cert).1
  encCurve := (parseEncryptionKey cert).2
  issuerHashId8 := (parseIssuer uninit cert.issuer).issuerHashId8
  isSelfSigned := (parseIssuer uninit cert.issuer).isSelfSigned
  tbsBytes := .orEmpty (parseTbs lib cert)
  signatureR := .orEmpty (parseSignature cert).1
  signatureS := .orEmpty (parseSignature cert).2
  curve := (parseVerificationKey cert).2
  issuerHash := (parseIssuer uninit cert.issuer).issuerHash
  validityStart := (parseValidity cert).1
  validityDurationSeconds := (parseValidity cert).2
  label := ""

def fromCoer (uninit : HashedId8) (certCoer : Bytes) : CertInfo :=
  match Coer.decode lib.asn.certificateBase certCoer with
  | none => .zero
  | some cert => fromStruct lib uninit cert certCoer

end Cert

end V2xPki
