import V2xPki.Trust.Revocation

namespace V2xPki

/-- The certificate map of a `TrustChain`. The revocation store it points to is owned
by the caller and passed to the functions that read it. -/
structure TrustChain where
  certs : Std.ExtTreeMap HashedId8 CertInfo

/-- One entry of the certificate directory, as the directory iterator shows it. -/
structure DirEntry where
  isRegularFile : Bool
  extension : String
  stem : String
  content : Option Bytes
deriving DecidableEq

namespace TrustChain

def empty : TrustChain := ⟨∅⟩

def addCert (trust : TrustChain) (ci : CertInfo) : TrustChain :=
  ⟨trust.certs.insert ci.hashedId8 ci⟩

def findByHashedId8 (trust : TrustChain) (hid8 : HashedId8) : Option CertInfo :=
  trust.certs[hid8]?

theorem find_addCert (trust : TrustChain) (ci : CertInfo) (k : HashedId8) :
    (trust.addCert ci).findByHashedId8 k=
      if k=ci.hashedId8 then some ci else trust.findByHashedId8 k := by
  unfold findByHashedId8 addCert
  rw [Std.ExtTreeMap.getElem?_insert]
  by_cases h : k=ci.hashedId8
  · simp [h]
  · have hne : compare ci.hashedId8 k≠.eq := fun hc => h (Std.LawfulEqOrd.eq_of_compare hc).symm
    simp [h,hne]

theorem ext_find {t u : TrustChain} (h : ∀ k,t.findByHashedId8 k=u.findByHashedId8 k) :
    t=u := by
  cases t
  cases u
  congr
  exact Std.ExtTreeMap.ext_getElem? h

/-- The last of the given certificates with the given identifier. -/
def latest (certs : List CertInfo) (k : HashedId8) : Option CertInfo :=
  certs.reverse.find? fun ci => ci.hashedId8==k

theorem latest_some {certs : List CertInfo} {k : HashedId8} {ci : CertInfo}
    (h : latest certs k=some ci) : ci∈certs ∧ ci.hashedId8=k := by
  have hm := List.mem_of_find?_eq_some h
  have hk := List.find?_some h
  exact ⟨List.mem_reverse.mp hm,by simpa using hk⟩

theorem find_storeAll (certs : List CertInfo) (trust : TrustChain) (k : HashedId8) :
    (certs.foldl addCert trust).findByHashedId8 k=
      (latest certs k).or (trust.findByHashedId8 k) := by
  induction certs generalizing trust with
  | nil => rfl
  | cons ci certs ih =>
    have hrev : latest (ci::certs) k=(latest certs k).or (if ci.hashedId8=k then some ci else none) := by
      by_cases h : ci.hashedId8=k <;> simp [latest,List.find?_append,h]
    rw [List.foldl_cons,ih,hrev,find_addCert,Option.or_assoc]
    by_cases h : k=ci.hashedId8
    · simp [h]
    · simp [h,Ne.symm h]

/-- What holds of every entry and of every certificate stored holds of every entry after. -/
theorem storeAll_forall {P : HashedId8 → CertInfo → Prop} {certs : List CertInfo}
    {trust : TrustChain} (ht : ∀ k ci,trust.findByHashedId8 k=some ci → P k ci)
    (hc : ∀ ci∈certs,P ci.hashedId8 ci) (k : HashedId8) (ci : CertInfo)
    (h : (certs.foldl addCert trust).findByHashedId8 k=some ci) : P k ci := by
  rw [find_storeAll] at h
  rcases Option.or_eq_some_iff.mp h with hl | ⟨-,hf⟩
  · obtain ⟨hm,rfl⟩ := latest_some hl
    exact hc ci hm
  · exact ht k ci hf

/-- Storing certificates changes nothing exactly when the last of them with each
identifier is what the store has there. -/
theorem storeAll_eq_self_iff (certs : List CertInfo) (trust : TrustChain) :
    certs.foldl addCert trust=trust ↔
      ∀ k ci,latest certs k=some ci → trust.findByHashedId8 k=some ci := by
  constructor
  · intro h k ci hk
    have hf := find_storeAll certs trust k
    rw [h,hk] at hf
    exact hf
  · intro h
    apply ext_find
    intro k
    rw [find_storeAll]
    cases hk : latest certs k with
    | none => rfl
    | some ci => exact (h k ci hk).symm

/-- The certificate one directory entry contributes, if any. -/
def loadEntry (lib : Lib) (uninit : HashedId8) (entry : DirEntry) : Option CertInfo :=
  if entry.isRegularFile=false ∨ entry.extension≠".cert" then none
  else match entry.content with
    | none => none
    | some raw =>
      if raw.isEmpty then none
      else
        let ci := Cert.fromCoer lib uninit raw
        if ci.certBytes.empty then none else some {ci with label := entry.stem}

/-- `load_from_directory`; `mem i` is what the `i`-th `CertInfo` found in its memory. -/
def loadFromDirectory (lib : Lib) (mem : Nat → HashedId8) (trust : TrustChain)
    (entries : List DirEntry) : TrustChain :=
  ((entries.zipIdx.filterMap fun e => loadEntry lib (mem e.2) e.1).foldl addCert trust)

/-- The hash an issuer identifier names. -/
def hashOf (ssl : OpenSsl) : SigHash → Bytes → Bytes
  | .sha384 => Crypto.hashSha384 ssl
  | .sha256 => Crypto.hashSha256 ssl

/-- IEEE 1609.2 §5.3.1: `e = H(H(COER(toBeSigned)) || H(signerIdentifierInput))`. -/
def certDigest (lib : Lib) (cert issuer : CertInfo) : Bytes :=
  let hash := hashOf lib.ssl cert.issuerHash
  let signerInput := if cert.isSelfSigned then [] else issuer.certBytes.toVector
  hash (hash cert.tbsBytes.toVector++hash signerInput)

def verifyCertSignature (lib : Lib) (cert issuer : CertInfo) : Bool :=
  let slen := issuer.curve.scalarLen
  if cert.tbsBytes.empty ∨ cert.signatureR.size≠slen ∨ cert.signatureS.size≠slen then false
  else if issuer.publicKey.empty then false
  else Crypto.ecdsaVerifyDigest lib.ssl issuer.publicKey.toVector (certDigest lib cert issuer)
    ⟨cert.signatureR,cert.signatureS⟩ issuer.curve

/-- The signature of a certificate is accepted exactly if there is a body, the two integers have
the length of the issuer's curve, and the ECDSA check passes there. -/
theorem verifyCertSignature_iff {lib : Lib} {cert issuer : CertInfo} :
    verifyCertSignature lib cert issuer=true ↔ cert.tbsBytes.toVector≠[] ∧
      cert.signatureR.size=issuer.curve.scalarLen ∧ cert.signatureS.size=issuer.curve.scalarLen ∧
      Crypto.ecdsaVerifyDigest lib.ssl issuer.publicKey.toVector (certDigest lib cert issuer)
        ⟨cert.signatureR,cert.signatureS⟩ issuer.curve=true := by
  unfold verifyCertSignature
  simp only
  constructor
  · intro h
    split at h
    · cases h
    rename_i hparts
    split at h
    · cases h
    simp only [StaticBytes.empty_eq_true,ne_eq,not_or,not_not] at hparts
    exact ⟨hparts.1,hparts.2.1,hparts.2.2,h⟩
  · rintro ⟨htbs,hr,hs,hverify⟩
    obtain ⟨point,hpoint⟩ := Crypto.evpPkeyFromPublic_of_verify hverify
    have hkey : issuer.publicKey.empty=false :=
      StaticBytes.empty_eq_false.mpr (Crypto.evpPkeyFromPublic_ne_nil hpoint)
    rw [if_neg (by simp [StaticBytes.empty_eq_true,htbs,hr,hs]),if_neg (by simp [hkey])]
    exact hverify

def isRevokedByIssuer (revocation : Option RevocationStore) (cert issuer : CertInfo) : Bool :=
  match revocation with
  | none => false
  | some store => store.isRevoked issuer.hashedId8 cert.hashedId8

/-- Role-agnostic: an EC → EA → RCA chain validates like an AT → AA → RCA one. -/
def validateChain (lib : Lib) (trust : TrustChain) (revocation : Option RevocationStore)
    (atCert : CertInfo) (nowTai : Int) : Bool :=
  if atCert.isSelfSigned then false
  else if !atCert.validAt nowTai then false
  else match trust.findByHashedId8 atCert.issuerHashId8 with
    | none => false
    | some aaCert =>
      if !aaCert.validAt nowTai then false
      else if !verifyCertSignature lib atCert aaCert then false
      else if isRevokedByIssuer revocation atCert aaCert then false
      else if aaCert.isSelfSigned then
        if isRevokedByIssuer revocation aaCert aaCert then false
        else verifyCertSignature lib aaCert aaCert
      else match trust.findByHashedId8 aaCert.issuerHashId8 with
        | none => false
        | some rcaCert =>
          if !rcaCert.validAt nowTai then false
          else if !verifyCertSignature lib aaCert rcaCert then false
          else if isRevokedByIssuer revocation aaCert rcaCert then false
          else if !rcaCert.isSelfSigned then false
          else if isRevokedByIssuer revocation rcaCert rcaCert then false
          else verifyCertSignature lib rcaCert rcaCert

/-- Tells "the caller's trust_dir misses an anchor" from "the signature is bad". -/
def issuerChainPresent (trust : TrustChain) (cert : CertInfo) : Bool :=
  match trust.findByHashedId8 cert.issuerHashId8 with
  | none => false
  | some issuer =>
    if issuer.isSelfSigned then true
    else (trust.findByHashedId8 issuer.issuerHashId8).isSome

/-- `get_by_prefix`: the stored certificates in the order of the map. -/
def getByPrefix (trust : TrustChain) (lead : String) : List CertInfo :=
  (trust.certs.toList.map (·.2)).filter fun ci => lead.toList.isPrefixOf ci.label.toList

def getRcas (trust : TrustChain) : List CertInfo := trust.getByPrefix "rca_"

def getAas (trust : TrustChain) : List CertInfo := trust.getByPrefix "aa_"

def getEas (trust : TrustChain) : List CertInfo := trust.getByPrefix "ea_"

def getTlms (trust : TrustChain) : List CertInfo := trust.getByPrefix "tlm_"

/-- Every certificate is filed under its own identifier, as `add_cert` does it. -/
def Keyed (trust : TrustChain) : Prop :=
  ∀ k ci,trust.findByHashedId8 k=some ci → k=ci.hashedId8

theorem keyed_storeAll {certs : List CertInfo} {trust : TrustChain} (h : trust.Keyed) :
    (certs.foldl addCert trust).Keyed :=
  storeAll_forall h (fun _ _ => rfl)

theorem mem_getByPrefix {trust : TrustChain} {lead : String} {ci : CertInfo} :
    ci∈trust.getByPrefix lead ↔
      (∃ k,trust.findByHashedId8 k=some ci) ∧ lead.toList<+:ci.label.toList := by
  unfold getByPrefix findByHashedId8
  rw [List.mem_filter,List.isPrefixOf_iff_prefix]
  refine and_congr_left fun _ => ?_
  constructor
  · intro hm
    obtain ⟨⟨k,v⟩,hkv,rfl⟩ := List.mem_map.mp hm
    exact ⟨k,Std.ExtTreeMap.mem_toList_iff_getElem?_eq_some.mp hkv⟩
  · rintro ⟨k,hk⟩
    exact List.mem_map.mpr ⟨(k,ci),Std.ExtTreeMap.mem_toList_iff_getElem?_eq_some.mpr hk,rfl⟩

end TrustChain

end V2xPki
