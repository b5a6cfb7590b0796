import V2xPki.Asn1.Types
import V2xPki.Data.Sizes

namespace V2xPki.Point

/-- `to_sec1` and `to_sec1_384` differ in the coordinate length only. -/
def toSec1Of (len : Nat) : Option Asn.CurvePoint → Bytes
  | none => []
  | some (.uncompressed x y) => if x.length≠len ∨ y.length≠len then [] else 0x04::(x++y)
  | some (.xOnly x) => x
  | some (.compressedY0 x) => if x.length≠len then [] else 0x02::x
  | some (.compressedY1 x) => if x.length≠len then [] else 0x03::x
  | some .fill => []

def toSec1 : Option Asn.CurvePoint → Bytes := toSec1Of kP256ScalarLen

def toSec1_384 : Option Asn.CurvePoint → Bytes := toSec1Of kP384ScalarLen

/-- `from_sec1` and `from_sec1_384`: compress by the parity of the last octet. -/
def fromSec1Of (len : Nat) (pubkey : Bytes) : Option Asn.CurvePoint :=
  if pubkey.length≠2*len+1 then none
  else if pubkey.getD (2*len) 0&&&1≠0 then some (.compressedY1 (pubkey.tail.take len))
  else some (.compressedY0 (pubkey.tail.take len))

def fromSec1 : Bytes → Option Asn.CurvePoint := fromSec1Of kP256ScalarLen

def fromSec1_384 : Bytes → Option Asn.CurvePoint := fromSec1Of kP384ScalarLen

def fromSec1Uncompressed (pubkey : Bytes) : Option Asn.CurvePoint :=
  if pubkey.length≠kP256PublicKeyLen ∨ pubkey.head?≠some 0x04 then none
  else some (.uncompressed (pubkey.tail.take kP256ScalarLen)
    ((pubkey.drop (1+kP256ScalarLen)).take kP256ScalarLen))

/-- `sig_r` and `sig_r_384`. -/
def sigR : Option Asn.CurvePoint → Bytes
  | none => []
  | some (.xOnly x) => x
  | some (.compressedY0 x) => x
  | some (.compressedY1 x) => x
  | some (.uncompressed x _) => x
  | some .fill => []

structure SigRS where
  r : Bytes
  s : Bytes
  curve : Curve
deriving DecidableEq

/-- The body every alternative of `extract_sig` repeats. -/
def extractEcdsa (curve : Curve) : Option Asn.EcdsaSignature → Option SigRS
  | none => none
  | some ecdsa =>
      if ecdsa.rSig.isNone ∨ ecdsa.sSig.length≠curve.scalarLen then none
      else if (sigR ecdsa.rSig).length≠curve.scalarLen then none
      else some ⟨sigR ecdsa.rSig,ecdsa.sSig,curve⟩

def extractSig : Option Asn.Signature → Option SigRS
  | none => none
  | some (.ecdsaNistP256Signature ecdsa) => extractEcdsa .nistP256 ecdsa
  | some (.ecdsaBrainpoolP256r1Signature ecdsa) => extractEcdsa .brainpoolP256r1 ecdsa
  | some (.ecdsaBrainpoolP384r1Signature ecdsa) => extractEcdsa .brainpoolP384r1 ecdsa
  | some (.ecdsaNistP384Signature ecdsa) => extractEcdsa .nistP384 ecdsa
  | some (.other _) => none

end V2xPki.Point
