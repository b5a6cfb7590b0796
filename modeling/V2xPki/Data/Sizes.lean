import Mathlib.Data.Int.Notation
import V2xPki.Data.Bytes

namespace V2xPki

def kHashedId8Len : Nat := 8
def kP256ScalarLen : Nat := 32
def kP256PublicKeyLen : Nat := 65
def kP256CompressedLen : Nat := 33
def kSha256Len : Nat := 32
def kAesKeyLen : Nat := 16
def kAesCcmNonceLen : Nat := 12
def kAesCcmTagLen : Nat := 16
def kP384ScalarLen : Nat := 48
def kP384PublicKeyLen : Nat := 97
def kP384CompressedLen : Nat := 49
def kSha384Len : Nat := 48

/-- Whole-message COER cap: overflow fails, never truncates. -/
def kMaxCoerMessageLen : Nat := 2048

/-- Belongs to the issuer, not to the subject key. -/
inductive SigHash where
  | sha256
  | sha384
deriving DecidableEq

inductive Curve where
  | nistP256
  | brainpoolP256r1
  | nistP384
  | brainpoolP384r1
deriving DecidableEq

namespace Curve

def isP256Size : Curve → Bool
  | .nistP256 => true
  | .brainpoolP256r1 => true
  | .nistP384 => false
  | .brainpoolP384r1 => false

def scalarLen (c : Curve) : Nat := if c.isP256Size then kP256ScalarLen else kP384ScalarLen

def pubkeyLen (c : Curve) : Nat := if c.isP256Size then kP256PublicKeyLen else kP384PublicKeyLen

def compressedLen (c : Curve) : Nat :=
  if c.isP256Size then kP256CompressedLen else kP384CompressedLen

def hashLen (c : Curve) : Nat := if c.isP256Size then kSha256Len else kSha384Len

end Curve

def kSixtyHoursSeconds : Nat := 60*3600
def kYearSeconds : Nat := 31556952
def kTaiEpochUnix : Int := 1072915200
def kTaiMinusUtcSeconds : Int := 5
def kPsidScr : Int := 623
def kIeee1609Dot2Version : Nat := 3

def unixToTaiSeconds (unixSeconds : Int) : Int :=
  unixSeconds-kTaiEpochUnix+kTaiMinusUtcSeconds

def unixToTaiMicros (unixMicros : Int) : Int :=
  unixMicros-(kTaiEpochUnix-kTaiMinusUtcSeconds)*1000000

/-- The conversion to `Time32` that the request assemblers share. -/
def unixToTai32 (unixSeconds : Int) : UInt32 :=
  if unixToTaiSeconds unixSeconds<0 then 0
  else UInt32.ofNat (unixToTaiSeconds unixSeconds).toNat

/-- `Error` without `None`, which no failed `Result` carries. -/
inductive Error where
  | invalidArgument
  | network
  | httpStatus
  | decode
  | encode
  | crypto
  | signatureInvalid
  | notFound
  | keyStore
  | protocol
deriving DecidableEq

/-- The named values of `EnrolmentResponseCode`, and the other values an
`enum class : int` may hold. -/
inductive EnrolmentResponseCode where
  | ok
  | cantParse
  | badContentType
  | imNotTheRecipient
  | unknownEncryptionAlgorithm
  | decryptionFailed
  | unknownIts
  | invalidSignature
  | invalidEncryptionKey
  | badItsStatus
  | incompleteRequest
  | deniedPermissions
  | invalidKeys
  | deniedRequest
  | unnamed (value : Int)
deriving DecidableEq

/-- `static_cast<EnrolmentResponseCode>` of a `long`. -/
def EnrolmentResponseCode.ofLong (n : Int) : EnrolmentResponseCode :=
  match n.bmod (2^32) with
  | 0 => .ok
  | 1 => .cantParse
  | 2 => .badContentType
  | 3 => .imNotTheRecipient
  | 4 => .unknownEncryptionAlgorithm
  | 5 => .decryptionFailed
  | 6 => .unknownIts
  | 7 => .invalidSignature
  | 8 => .invalidEncryptionKey
  | 9 => .badItsStatus
  | 10 => .incompleteRequest
  | 11 => .deniedPermissions
  | 12 => .invalidKeys
  | 13 => .deniedRequest
  | v => .unnamed v

inductive AuthorizationResponseCode where
  | ok
  | itsAaCantParse
  | itsAaBadContentType
  | itsAaImNotTheRecipient
  | itsAaUnknownEncryptionAlgorithm
  | itsAaDecryptionFailed
  | itsAaKeysDontMatch
  | itsAaIncompleteRequest
  | itsAaInvalidEncryptionKey
  | itsAaOutOfSyncRequest
  | itsAaUnknownEa
  | itsAaInvalidEa
  | itsAaDeniedPermissions
  | aaEaCantReachEa
  | eaAaCantParse
  | eaAaBadContentType
  | eaAaImNotTheRecipient
  | eaAaUnknownEncryptionAlgorithm
  | eaAaDecryptionFailed
  | invalidAa
  | unnamed (value : Int)
deriving DecidableEq

def AuthorizationResponseCode.ofLong (n : Int) : AuthorizationResponseCode :=
  match n.bmod (2^32) with
  | 0 => .ok
  | 1 => .itsAaCantParse
  | 2 => .itsAaBadContentType
  | 3 => .itsAaImNotTheRecipient
  | 4 => .itsAaUnknownEncryptionAlgorithm
  | 5 => .itsAaDecryptionFailed
  | 6 => .itsAaKeysDontMatch
  | 7 => .itsAaIncompleteRequest
  | 8 => .itsAaInvalidEncryptionKey
  | 9 => .itsAaOutOfSyncRequest
  | 10 => .itsAaUnknownEa
  | 11 => .itsAaInvalidEa
  | 12 => .itsAaDeniedPermissions
  | 13 => .aaEaCantReachEa
  | 14 => .eaAaCantParse
  | 15 => .eaAaBadContentType
  | 16 => .eaAaImNotTheRecipient
  | 17 => .eaAaUnknownEncryptionAlgorithm
  | 18 => .eaAaDecryptionFailed
  | 19 => .invalidAa
  | v => .unnamed v

end V2xPki
