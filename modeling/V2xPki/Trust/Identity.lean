import V2xPki.Sample.StandIn

namespace V2xPki

namespace Cert

open TrustList

/-- What "one certificate has one identity" asks of two byte strings that decode to `v`:
the same identifier from both, and the one the trust-list route gives `v`. -/
structure OneIdentity (lib : Lib) (v : Asn.CertificateBase) (b₁ b₂ : Bytes) : Prop where
  fetched : ∀ u₁ u₂,(fromCoer lib u₁ b₁).hashedId8=(fromCoer lib u₂ b₂).hashedId8
  listed : ∀ u₁ u₂ label ci,certPtrToInfo lib u₂ (some v) label=some ci →
    (fromCoer lib u₁ b₁).hashedId8=ci.hashedId8

/-- Both strings are the encoding of `v` and nothing more. -/
def ExactEncoding (lib : Lib) (v : Asn.CertificateBase) (b₁ b₂ : Bytes) : Prop :=
  b₁=b₂ ∧ (Coer.encode lib.asn.etsiTs103097Certificate v≠[] →
    b₁=Coer.encode lib.asn.etsiTs103097Certificate v)

/-- The identifier function separates the given strings. -/
def SeparatedBy (lib : Lib) (v : Asn.CertificateBase) (strings : List Bytes) : Prop :=
  ∀ x∈strings,∀ y∈strings,
    computeHid8Of lib (some v) x=computeHid8Of lib (some v) y → x=y

theorem fromCoer_hashedId8 {lib : Lib} {v : Asn.CertificateBase} {b : Bytes}
    (h : Coer.decode lib.asn.certificateBase b=some v) (u : HashedId8) :
    (fromCoer lib u b).hashedId8=computeHid8Of lib (some v) b := by
  rw [fromCoer,h]
  rfl

theorem certPtrToInfo_some {lib : Lib} {u : HashedId8} {cert : Option Asn.CertificateBase}
    {label : String} {ci : CertInfo} (h : certPtrToInfo lib u cert label=some ci) :
    ∃ c,cert=some c ∧ Coer.encode lib.asn.etsiTs103097Certificate c≠[] ∧
      ci={fromStruct lib u c (Coer.encode lib.asn.etsiTs103097Certificate c) with
        label := label} := by
  simp only [certPtrToInfo,Option.bind_eq_bind,Option.bind_eq_some_iff] at h
  obtain ⟨c,hc,h⟩ := h
  split at h
  · cases h
  · rename_i hne
    exact ⟨c,hc,by simpa using hne,(Option.some.inj h).symm⟩

theorem certPtrToInfo_of_encode {lib : Lib} {c : Asn.CertificateBase}
    (h : Coer.encode lib.asn.etsiTs103097Certificate c≠[]) (u : HashedId8) (label : String) :
    certPtrToInfo lib u (some c) label=some {fromStruct lib u c
      (Coer.encode lib.asn.etsiTs103097Certificate c) with label := label} := by
  simp [certPtrToInfo,h]

/-- The decoder ignores how much of its input it consumed while the identifier is taken
over all of it, so the routes agree exactly on strings without trailing octets. -/
theorem oneIdentity_iff_exactEncoding {lib : Lib} {v : Asn.CertificateBase} {b₁ b₂ : Bytes}
    (h₁ : Coer.decode lib.asn.certificateBase b₁=some v)
    (h₂ : Coer.decode lib.asn.certificateBase b₂=some v) :
    (ExactEncoding lib v b₁ b₂ → OneIdentity lib v b₁ b₂) ∧
    (SeparatedBy lib v [b₁,b₂,Coer.encode lib.asn.etsiTs103097Certificate v] →
      (OneIdentity lib v b₁ b₂ ↔ ExactEncoding lib v b₁ b₂)) := by
  have exact_one : ExactEncoding lib v b₁ b₂ → OneIdentity lib v b₁ b₂ := by
    intro h
    obtain ⟨rfl,he⟩ := h
    constructor
    · intro u₁ u₂
      rw [fromCoer_hashedId8 h₁,fromCoer_hashedId8 h₁]
    · intro u₁ u₂ label ci hci
      obtain ⟨c,hc,hne,rfl⟩ := certPtrToInfo_some hci
      obtain rfl : v=c := Option.some.inj hc
      rw [fromCoer_hashedId8 h₁,he hne]
      rfl
  refine ⟨exact_one,fun hsep => ⟨?_,exact_one⟩⟩
  intro hone
  have hraw := hone.fetched .zero .zero
  rw [fromCoer_hashedId8 h₁,fromCoer_hashedId8 h₂] at hraw
  refine ⟨hsep b₁ (by simp) b₂ (by simp) hraw,?_⟩
  intro hne
  have hlisted := hone.listed .zero .zero "" _ (certPtrToInfo_of_encode hne .zero "")
  rw [fromCoer_hashedId8 h₁] at hlisted
  exact hsep b₁ (by simp) _ (by simp) hlisted

end Cert

namespace Sample

open Cert TrustList

def rootCa : Coded Asn.CertificateBase := selfSigned 5 []

def subCa : Coded Asn.CertificateBase := issued 5 rootCa 9 []

def caLib : Lib := lib {certs := [rootCa,subCa],bodies := [tbs 5 [],tbs 9 []]}

theorem caLib_codec : CertificateCodec caLib.asn :=
  lib_certificateCodec _ (by decide +kernel)

theorem oneIdentity_subCa :
    OneIdentity caLib subCa.2 subCa.1 subCa.1 ∧
    SeparatedBy caLib subCa.2 [subCa.1,subCa.1++[0],
      Coer.encode caLib.asn.etsiTs103097Certificate subCa.2] ∧
    (OneIdentity caLib subCa.2 subCa.1 (subCa.1++[0]) ↔
      ExactEncoding caLib subCa.2 subCa.1 (subCa.1++[0])) := by
  have hd : Coer.decode caLib.asn.certificateBase subCa.1=some subCa.2 := by decide +kernel
  have hp : Coer.decode caLib.asn.certificateBase (subCa.1++[0])=some subCa.2 := by
    decide +kernel
  have hs : SeparatedBy caLib subCa.2 [subCa.1,subCa.1++[0],
      Coer.encode caLib.asn.etsiTs103097Certificate subCa.2] := by
    unfold SeparatedBy
    decide +kernel
  exact ⟨(oneIdentity_iff_exactEncoding hd hd).1 ⟨rfl,fun _ => by decide +kernel⟩,hs,
    (oneIdentity_iff_exactEncoding hd hp).2 hs⟩

def rootHid8 : HashedId8 := computeHid8Of caLib (some rootCa.2) rootCa.1

/-- The identifier under which the trust-list route knows the CA. -/
def subCaListed : HashedId8 := computeHid8Of caLib (some subCa.2) subCa.1

/-- The same CA, fetched with one octet after its encoding. -/
def subCaPadded : CertInfo := fromCoer caLib .zero (subCa.1++[0])

/-- One trailing octet gives the CA a second identifier: the CRL that lists the CA does
not reach it. -/
theorem padded_certificate_second_identity :
    CertificateCodec caLib.asn ∧
    Coer.decode caLib.asn.certificateBase subCa.1=some subCa.2 ∧
    Coer.decode caLib.asn.certificateBase (subCa.1++[0])=some subCa.2 ∧
    (fromCoer caLib .zero subCa.1).certBytes.toVector=subCa.1 ∧
    subCaPadded.certBytes.toVector=subCa.1++[0] ∧
    ¬OneIdentity caLib subCa.2 subCa.1 (subCa.1++[0]) ∧
    (RevocationStore.empty.apply ⟨rootHid8,0,0,[subCaListed]⟩ 0).map
      (fun store => (store.isRevoked rootHid8 subCaListed,
        store.isRevoked rootHid8 subCaPadded.hashedId8))=some (true,false) := by
  refine ⟨caLib_codec,by decide +kernel,by decide +kernel,by decide +kernel,
    by decide +kernel,?_,by decide +kernel⟩
  intro h
  have hf := h.fetched .zero .zero
  revert hf
  decide +kernel

end Sample

end V2xPki
