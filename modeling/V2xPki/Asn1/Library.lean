import V2xPki.Framework.Codec
import V2xPki.Asn1.Types
import V2xPki.Data.Sizes

namespace V2xPki

open Framework

/-- An `asn_TYPE_descriptor_t`: canonical OER both ways, and the basic-OER decoder
that only the lenient readers fall back to. -/
structure Descriptor (α : Type) extends Codec UInt8 α where
  decodeBasic : Bytes → Option (α × Nat)

/-- The generated codec, which is not part of the repository. -/
structure Asn1c where
  certificateBase : Descriptor Asn.CertificateBase
  etsiTs103097Certificate : Descriptor Asn.CertificateBase
  toBeSignedCertificate : Descriptor Asn.ToBeSignedCertificate
  publicVerificationKey : Descriptor Asn.PublicVerificationKey
  ieee1609Dot2Data : Descriptor Asn.Ieee1609Dot2Data
  toBeSignedData : Descriptor Asn.ToBeSignedData
  etsiTs102941Data : Descriptor Asn.EtsiTs102941Data
  innerEcRequest : Descriptor Asn.InnerEcRequest
  innerEcResponse : Descriptor Asn.InnerResponse
  sharedAtRequest : Descriptor Asn.SharedAtRequest
  innerAtRequest : Descriptor Asn.InnerAtRequest
  innerAtResponse : Descriptor Asn.InnerResponse

/-- The OpenSSL primitives. A key is given by its uncompressed point or its scalar,
a signature by its two integers; `sign` also takes the nonce it draws. -/
structure OpenSsl where
  sha256 : Bytes → Vector UInt8 32
  sha384 : Bytes → Vector UInt8 48
  hmacSha256 : Bytes → Bytes → Vector UInt8 32
  decompress : Curve → Bytes → Option Bytes
  publicOk : Curve → Bytes → Bool
  publicOf : Curve → Nat → Option Bytes
  sign : Curve → Nat → Bytes → Nat → Option (Nat × Nat)
  verify : Curve → Bytes → Bytes → Nat × Nat → Bool
  derive : Curve → Nat → Bytes → Option Bytes
  ccmEncrypt : Bytes → Bytes → Bytes → Option (Bytes × Bytes)
  ccmDecrypt : Bytes → Bytes → Bytes → Bytes → Option Bytes

structure Lib where
  asn : Asn1c
  ssl : OpenSsl

namespace Coer
variable {α : Type}

/-- `coer::encode`: a failed encoding is the empty vector. -/
def encode (td : Descriptor α) (v : α) : Bytes := (td.encode v).getD []

/-- `coer::decode`: `RC_OK` is enough, the consumed count is not looked at. -/
def decode (td : Descriptor α) (buf : Bytes) : Option α := (td.decode buf).map (·.1)

def decodeWithBasicFallback (td : Descriptor α) (buf : Bytes) : Option α :=
  match td.decode buf with
  | some r => some r.1
  | none => (td.decodeBasic buf).map (·.1)

theorem decode_encode {td : Descriptor α} (h : td.RoundTrip) {v : α} {b : Bytes}
    (hb : td.encode v=some b) : decode td b=some v := by
  rw [decode,h.decode_encode hb,Option.map_some]

/-- The codec has an encoding for the value and reads it back. -/
def Carries (td : Descriptor α) (v : α) : Prop :=
  ∃ b n,b≠[] ∧ td.encode v=some b ∧ td.decode b=some (v,n)

theorem Carries.decode_encode {td : Descriptor α} {v : α} (h : Carries td v) :
    encode td v≠[] ∧ decode td (encode td v)=some v := by
  obtain ⟨b,n,hne,henc,hdec⟩ := h
  have hb : encode td v=b := by rw [encode,henc,Option.getD_some]
  rw [hb]
  exact ⟨hne,by rw [decode,hdec,Option.map_some]⟩

theorem decodeWithBasicFallback_of_decode {td : Descriptor α} {v : α} {b : Bytes}
    (h : decode td b=some v) : decodeWithBasicFallback td b=some v := by
  obtain ⟨r,hr,rfl⟩ := Option.map_eq_some_iff.mp h
  rw [decodeWithBasicFallback,hr]

theorem encode_ne_nil {td : Descriptor α} {v : α} (h : encode td v≠[]) :
    td.encode v=some (encode td v) := by
  cases hv : td.encode v with
  | none => simp [encode,hv] at h
  | some b => simp [encode,hv]

end Coer

/-- What the certificate descriptors are relied on for: encodings are read back, and
`EtsiTs103097Certificate` is a second name of `CertificateBase` on the wire. -/
structure CertificateCodec (asn : Asn1c) : Prop where
  roundTrip : asn.certificateBase.RoundTrip
  etsi_encode : ∀ v,asn.etsiTs103097Certificate.encode v=asn.certificateBase.encode v

end V2xPki
