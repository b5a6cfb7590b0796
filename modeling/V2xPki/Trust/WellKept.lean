import V2xPki.Request.Response
import V2xPki.Trust.Identity

namespace V2xPki

namespace Cert

variable (lib : Lib)

/-- The decoder allocates the member of a key alternative it has read. Only the P-384
alternatives matter here: without its member such a key leaves the curve at its default. -/
def KeysAllocated (asn : Asn1c) : Prop :=
  ∀ b c,Coer.decode asn.certificateBase b=some c →
    verificationKey? c≠some (.ecdsaBrainpoolP384r1 none) ∧
    verificationKey? c≠some (.ecdsaNistP384 none)

/-- What the store promises of the entry under a key. -/
structure WellKept (k : HashedId8) (ci : CertInfo) : Prop where
  key : k=ci.hashedId8
  bytes : ci.certBytes.toVector≠[]
  identifier : k=computeHid8 lib ci.certBytes.toVector
  lastOctets : k.toList=(Crypto.hashForCurve lib.ssl ci.certBytes.toVector ci.curve).drop
    ((Crypto.hashForCurve lib.ssl ci.certBytes.toVector ci.curve).length-kHashedId8Len)

theorem truncateHid8_toList {hash : Bytes} (h : kHashedId8Len≤hash.length) :
    (truncateHid8 hash).toList=hash.drop (hash.length-kHashedId8Len) := by
  have hlen : (hash.drop (hash.length-kHashedId8Len)).length=8 := by
    rw [List.length_drop]
    have : kHashedId8Len=8 := rfl
    omega
  unfold truncateHid8 HashedId8.ofBytes
  rw [dif_pos hlen]
  rfl

/-- The curve the identifier is hashed for and the curve of the parsed key agree on the
hash. -/
theorem hashForCurve_agrees {c : Asn.CertificateBase}
    (h₁ : verificationKey? c≠some (.ecdsaBrainpoolP384r1 none))
    (h₂ : verificationKey? c≠some (.ecdsaNistP384 none)) (data : Bytes) :
    Crypto.hashForCurve lib.ssl data (wholeCertHashCurve (some c))=
      Crypto.hashForCurve lib.ssl data (parseVerificationKey c).2 := by
  simp only [wholeCertHashCurve,Option.bind_some,parseVerificationKey]
  cases hk : verificationKey? c with
  | none => rfl
  | some key =>
    cases key with
    | ecdsaNistP256 p => cases p <;> rfl
    | ecdsaBrainpoolP256r1 p => cases p <;> rfl
    | ecdsaBrainpoolP384r1 p =>
      cases p with
      | none => exact absurd hk h₁
      | some p => rfl
    | ecdsaNistP384 p =>
      cases p with
      | none => exact absurd hk h₂
      | some p => rfl
    | _ => rfl

variable {lib}

/-- A certificate that has the octets it was read from is identified by them. -/
theorem fromStruct_identifier {c : Asn.CertificateBase} {coer : Bytes}
    (hd : Coer.decode lib.asn.certificateBase coer=some c) (u : HashedId8)
    (hbytes : (fromStruct lib u c coer).certBytes.toVector≠[]) :
    (fromStruct lib u c coer).hashedId8=
      computeHid8 lib (fromStruct lib u c coer).certBytes.toVector := by
  have hcoer : (fromStruct lib u c coer).certBytes.toVector=coer := by
    rw [fromStruct,StaticBytes.orEmpty_toVector] at hbytes ⊢
    by_cases hlen : coer.length≤kMaxCoerMessageLen
    · rw [if_pos hlen]
    · rw [if_neg hlen] at hbytes
      exact absurd rfl hbytes
  rw [hcoer,computeHid8,hd]
  rfl

theorem wellKept_fromStruct (hk : KeysAllocated lib.asn) {c : Asn.CertificateBase}
    {coer : Bytes} (hd : Coer.decode lib.asn.certificateBase coer=some c) (hne : coer≠[])
    (hlen : coer.length≤kMaxCoerMessageLen) (u : HashedId8) (label : String) :
    WellKept lib (fromStruct lib u c coer).hashedId8
      {fromStruct lib u c coer with label := label} := by
  have hbytes : (fromStruct lib u c coer).certBytes.toVector=coer := by
    rw [fromStruct,StaticBytes.orEmpty_toVector,if_pos hlen]
  refine ⟨rfl,by rw [hbytes]; exact hne,?_,?_⟩
  · exact fromStruct_identifier hd u (by rw [hbytes]; exact hne)
  · have hc := hk coer c hd
    have hhash := hashForCurve_agrees lib hc.1 hc.2 coer
    simp only [hbytes]
    exact (truncateHid8_toList (Crypto.eight_le_hashForCurve lib.ssl coer _)).trans
      (by rw [hhash]; rfl)

/-- A certificate parsed from received octets is only kept when they fit. -/
theorem fromCoer_stored {u : HashedId8} {b : Bytes}
    (h : (fromCoer lib u b).certBytes.empty=false) :
    ∃ c,Coer.decode lib.asn.certificateBase b=some c ∧ b≠[] ∧ b.length≤kMaxCoerMessageLen ∧
      fromCoer lib u b=fromStruct lib u c b := by
  unfold fromCoer at h ⊢
  cases hd : Coer.decode lib.asn.certificateBase b with
  | none => simp [hd,CertInfo.zero,StaticBytes.empty] at h
  | some c =>
    simp only [hd,fromStruct,StaticBytes.empty,StaticBytes.orEmpty_toVector] at h
    by_cases hlen : b.length≤kMaxCoerMessageLen
    · rw [if_pos hlen] at h
      exact ⟨c,rfl,by simpa using h,hlen,rfl⟩
    · simp [hlen] at h

variable (lib)

/-- Every structure the certificate can have been parsed from by way of a re-encoding has
one of at least 1 and at most `kMaxCoerMessageLen` octets. -/
def ReencodesWithin (ci : CertInfo) : Prop :=
  ∀ u c label,ci={fromStruct lib u c (Coer.encode lib.asn.certificateBase c) with
      label := label} →
    Coer.encode lib.asn.certificateBase c≠[] ∧
    (Coer.encode lib.asn.certificateBase c).length≤kMaxCoerMessageLen

variable {lib}

theorem wellKept_reencoded (hasn : CertificateCodec lib.asn) (hk : KeysAllocated lib.asn)
    {ci : CertInfo} (hfit : ReencodesWithin lib ci) {u : HashedId8} {c : Asn.CertificateBase}
    {label : String} (hci : ci={fromStruct lib u c (Coer.encode lib.asn.certificateBase c) with
      label := label}) : WellKept lib ci.hashedId8 ci := by
  obtain ⟨hne,hlen⟩ := hfit u c label hci
  have hd := Coer.decode_encode hasn.roundTrip (Coer.encode_ne_nil hne)
  rw [hci]
  exact wellKept_fromStruct hk hd hne hlen u label

/-- A certificate with its octets was parsed from something that fits. -/
theorem reencodesWithin_of_bytes {ci : CertInfo} (h : ci.certBytes.toVector≠[]) :
    ReencodesWithin lib ci := by
  intro u c label hci
  rw [hci] at h
  simp only [fromStruct,StaticBytes.orEmpty_toVector] at h
  by_cases hlen : (Coer.encode lib.asn.certificateBase c).length≤kMaxCoerMessageLen
  · rw [if_pos hlen] at h
    exact ⟨h,hlen⟩
  · rw [if_neg hlen] at h
    exact absurd rfl h

theorem wellKept_listed (hasn : CertificateCodec lib.asn) (hk : KeysAllocated lib.asn)
    {ci : CertInfo} (hfit : ReencodesWithin lib ci) {u : HashedId8}
    {cert : Option Asn.CertificateBase} {label : String}
    (hci : TrustList.certPtrToInfo lib u cert label=some ci) :
    WellKept lib ci.hashedId8 ci := by
  obtain ⟨c,-,-,hci⟩ := certPtrToInfo_some hci
  have henc : Coer.encode lib.asn.etsiTs103097Certificate c=
      Coer.encode lib.asn.certificateBase c := by rw [Coer.encode,Coer.encode,hasn.etsi_encode]
  rw [henc] at hci
  exact wellKept_reencoded hasn hk hfit hci

end Cert

namespace Sample

open Cert Framework

theorem lib_keysAllocated (t : Tables)
    (h : ∀ e∈t.certs,verificationKey? e.2≠some (.ecdsaBrainpoolP384r1 none) ∧
      verificationKey? e.2≠some (.ecdsaNistP384 none)) : KeysAllocated (lib t).asn := by
  intro b c hd
  obtain ⟨r,hr,rfl⟩ := Option.map_eq_some_iff.mp hd
  obtain ⟨e,he,heq⟩ := Codec.table_decode_mem hr
  rw [← heq]
  exact h e he

end Sample

end V2xPki
