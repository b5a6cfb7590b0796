import Mathlib
import V2xPki.Message.SignedMessage

namespace V2xPki

structure CrlContents where
  issuerHid8 : HashedId8
  thisUpdate : UInt32
  nextUpdate : UInt32
  revoked : List HashedId8
deriving DecidableEq

/-- The revocation list of a decoded `EtsiTs102941Data`, if that is its content. -/
def revocationList? (data : Asn.EtsiTs102941Data) : Option Asn.ToBeSignedCrl := do
  match ← data.content with
  | .certificateRevocationList crl => crl
  | _ => none

/-- The signature is checked before the payload is decoded, and a CRL without a signer
digest is refused because its issuer would have no identity. -/
def decodeCrl (lib : Lib) (coer rcaPubkey rcaCertCoer : Bytes) : Except Error CrlContents :=
  match SignedMsg.unwrap lib coer with
  | none => .error .decode
  | some msg =>
    if rcaPubkey.isEmpty ∨ rcaCertCoer.isEmpty then .error .invalidArgument
    else if SignedMsg.verify lib msg rcaPubkey rcaCertCoer=false then .error .signatureInvalid
    else match Coer.decodeWithBasicFallback lib.asn.etsiTs102941Data msg.payloadCoer with
      | none => .error .decode
      | some data => match revocationList? data with
        | none => .error .decode
        | some crl =>
          if msg.hasSignerDigest=false then .error .decode
          else .ok ⟨msg.signerHid8,crl.thisUpdate,crl.nextUpdate,
            crl.entries.filterMap fun e => e.bind HashedId8.ofBytes⟩

theorem revocationList_some {data : Asn.EtsiTs102941Data} {crl : Asn.ToBeSignedCrl}
    (h : revocationList? data=some crl) :
    data.content=some (.certificateRevocationList (some crl)) := by
  simp only [revocationList?,Option.bind_eq_bind,Option.bind_eq_some_iff] at h
  obtain ⟨content,hc,h⟩ := h
  split at h
  · rw [hc,h]
  · cases h

/-- Everything a decoded CRL establishes. -/
theorem decodeCrl_ok {lib : Lib} {coer pub cert : Bytes} {crl : CrlContents}
    (h : decodeCrl lib coer pub cert=.ok crl) :
    cert≠[] ∧ ∃ msg data list,SignedMsg.unwrap lib coer=some msg ∧
      SignedMsg.verify lib msg pub cert=true ∧ msg.hasSignerDigest=true ∧
      Coer.decodeWithBasicFallback lib.asn.etsiTs102941Data msg.payloadCoer=some data ∧
      data.content=some (.certificateRevocationList (some list)) ∧
      crl=⟨msg.signerHid8,list.thisUpdate,list.nextUpdate,
        list.entries.filterMap fun e => e.bind HashedId8.ofBytes⟩ := by
  unfold decodeCrl at h
  split at h
  · cases h
  rename_i msg hmsg
  split at h
  · cases h
  rename_i hempty
  split at h
  · cases h
  rename_i hverify
  split at h
  · cases h
  rename_i data hdata
  split at h
  · cases h
  rename_i list hlist
  split at h
  · cases h
  rename_i hdigest
  cases h
  refine ⟨by simpa using fun hc => hempty (.inr (by simp [hc])),msg,data,list,hmsg,?_,?_,hdata,
    revocationList_some hlist,rfl⟩
  · simpa using hverify
  · simpa using hdigest

/-- The order of `std::array`, by which the maps are sorted. -/
instance : Std.TransOrd HashedId8 := inferInstance

/-- Revocation state, keyed by issuer: a CRL only speaks for the CA that signed it. -/
structure RevocationStore where
  revoked : Std.ExtTreeMap HashedId8 (Std.ExtTreeSet HashedId8)

namespace RevocationStore

def empty : RevocationStore := ⟨∅⟩

/-- `apply`, with `none` for the stale list that leaves the store untouched. -/
def apply (store : RevocationStore) (crl : CrlContents) (nowTai : Int) :
    Option RevocationStore :=
  if 0<crl.nextUpdate ∧ (crl.nextUpdate.toNat : Int)<nowTai then none
  else some ⟨store.revoked.insert crl.issuerHid8 (Std.ExtTreeSet.ofList crl.revoked)⟩

def isRevoked (store : RevocationStore) (issuerHid8 certHid8 : HashedId8) : Bool :=
  match store.revoked[issuerHid8]? with
  | none => false
  | some entries => entries.contains certHid8

end RevocationStore

end V2xPki
