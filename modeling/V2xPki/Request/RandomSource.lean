import V2xPki.Request.Layers
import V2xPki.Sample.Enrolment

namespace V2xPki

namespace Crypto

/-- Both calls of `RAND_bytes` filled their buffer. -/
def EciesEntropy.Succeeded (entropy : EciesEntropy) : Prop :=
  entropy.aesKey.isSome ∧ entropy.nonce.isSome

variable (ssl : OpenSsl)

/-- The ephemeral key, the content key and the nonce of a result come from calls that
succeeded. -/
structure EciesDrawn (curve : Curve) (entropy : EciesEntropy) (r : EciesEncryptResult) :
    Prop where
  ephemeral : ∃ kp,generateKeypair ssl curve entropy.ephemeral=some kp ∧
    r.ephemeralPubkey=kp.publicKey.toVector
  aesKey : ∃ key,entropy.aesKey=some key ∧ r.aesKey=key.toList
  nonce : ∃ nonce,entropy.nonce=some nonce ∧ r.nonceCcm=nonce.toList

/-- The steps that are checked go through: the ephemeral key, the agreement and the cipher,
which runs on whatever the two buffers hold. -/
def Encryptable (recipient plaintext : Bytes) (curve : Curve) (entropy : EciesEntropy) : Prop :=
  ∃ eph ss,generateKeypair ssl curve entropy.ephemeral=some eph ∧
    ecdhDerive ssl eph.privateKey.toVector recipient curve=some ss ∧
    (aes128CcmEncrypt ssl (randBytes entropy.aesKey) (randBytes entropy.nonce) plaintext).isSome

section
variable {ssl} {recipient plaintext p1 : Bytes} {curve : Curve} {entropy : EciesEntropy}
  {r : EciesEncryptResult}

theorem eciesEncrypt_buffers (h : eciesEncrypt ssl recipient plaintext p1 curve entropy=some r) :
    (∃ kp,generateKeypair ssl curve entropy.ephemeral=some kp ∧
      r.ephemeralPubkey=kp.publicKey.toVector) ∧
    r.aesKey=randBytes entropy.aesKey ∧ r.nonceCcm=randBytes entropy.nonce := by
  simp only [eciesEncrypt,Option.bind_eq_bind,Option.bind_eq_some_iff] at h
  obtain ⟨kp,hkp,ss,-,ccm,-,hr⟩ := h
  have hr := (Option.some.inj hr).symm
  subst hr
  exact ⟨⟨kp,hkp,rfl⟩,rfl,rfl⟩

theorem eciesEncrypt_isSome :
    (eciesEncrypt ssl recipient plaintext p1 curve entropy).isSome ↔
      Encryptable ssl recipient plaintext curve entropy := by
  rw [Option.isSome_iff_exists]
  constructor
  · rintro ⟨r,h⟩
    simp only [eciesEncrypt,Option.bind_eq_bind,Option.bind_eq_some_iff] at h
    obtain ⟨eph,heph,ss,hss,ccm,hccm,-⟩ := h
    exact ⟨eph,ss,heph,hss,Option.isSome_iff_exists.mpr ⟨ccm,hccm⟩⟩
  · rintro ⟨eph,ss,heph,hss,hccm⟩
    obtain ⟨ccm,hccm⟩ := Option.isSome_iff_exists.mp hccm
    simp only [eciesEncrypt,heph,hss,hccm,Option.bind_eq_bind,Option.bind_some]
    exact ⟨_,rfl⟩

theorem eciesDrawn_iff (h : eciesEncrypt ssl recipient plaintext p1 curve entropy=some r) :
    EciesDrawn ssl curve entropy r ↔ entropy.Succeeded := by
  obtain ⟨heph,hkey,hnonce⟩ := eciesEncrypt_buffers h
  constructor
  · rintro ⟨-,⟨key,hk,-⟩,⟨nonce,hn,-⟩⟩
    exact ⟨Option.isSome_iff_exists.mpr ⟨key,hk⟩,Option.isSome_iff_exists.mpr ⟨nonce,hn⟩⟩
  · rintro ⟨hk,hn⟩
    obtain ⟨key,hk⟩ := Option.isSome_iff_exists.mp hk
    obtain ⟨nonce,hn⟩ := Option.isSome_iff_exists.mp hn
    refine ⟨heph,⟨key,hk,?_⟩,⟨nonce,hn,?_⟩⟩
    · rw [hkey,hk]
      rfl
    · rw [hnonce,hn]
      rfl

end

/-- Whatever is encrypted was encrypted with draws that succeeded. -/
def EciesNeverSilent (recipient plaintext p1 : Bytes) (curve : Curve) (entropy : EciesEntropy) :
    Prop :=
  ∀ r,eciesEncrypt ssl recipient plaintext p1 curve entropy=some r → EciesDrawn ssl curve entropy r

theorem eciesNeverSilent_iff (recipient plaintext p1 : Bytes) (curve : Curve)
    (entropy : EciesEntropy) :
    EciesNeverSilent ssl recipient plaintext p1 curve entropy ↔
      entropy.Succeeded ∨ ¬Encryptable ssl recipient plaintext curve entropy := by
  constructor
  · intro h
    by_cases hcan : Encryptable ssl recipient plaintext curve entropy
    · have hsome : (eciesEncrypt ssl recipient plaintext p1 curve entropy).isSome :=
        eciesEncrypt_isSome.mpr hcan
      obtain ⟨r,hr⟩ := Option.isSome_iff_exists.mp hsome
      exact .inl ((eciesDrawn_iff hr).mp (h r hr))
    · exact .inr hcan
  · rintro (h | h) r hr
    · exact (eciesDrawn_iff hr).mpr h
    · exact absurd (eciesEncrypt_isSome.mp (Option.isSome_iff_exists.mpr ⟨r,hr⟩)) h

end Crypto

open Crypto

section
variable (lib : Lib)

/-- Something was encrypted to this CA with draws that succeeded, and `out` was made of it. -/
def SealedFresh (cert : CertInfo) (entropy : EciesEntropy) (out : EciesEncryptResult → Prop) :
    Prop :=
  ∃ plaintext ecies,encryptTo lib cert plaintext entropy=.ok ecies ∧ out ecies ∧
    EciesDrawn lib.ssl cert.encCurve entropy ecies

/-- An enrolment request is encrypted under a fresh key and nonce. -/
def EcFresh (ea : CertInfo) (entropy : EcEntropy) (req : RequestResult) : Prop :=
  SealedFresh lib ea entropy.ecies fun ecies => encodeEncrypted lib ea ecies=.ok req

/-- The key of the tag is the scalar of a pair that could be generated. -/
def HmacDrawn (drawn : Option Nat) (hmacKey : Bytes) : Prop :=
  ∃ kp,generateKeypair lib.ssl .nistP256 drawn=some kp ∧
    hmacKey=kp.privateKey.data kP256ScalarLen

/-- So are both encryptions of an authorization request, and its tag is keyed: what the inner
request in it holds was drawn. -/
structure AtFresh (aa ea : CertInfo) (entropy : AtEntropy) (req : RequestResult)
    (inner : Asn.InnerAtRequest) : Prop where
  read : atInner? lib req=some inner
  hmac : HmacDrawn lib entropy.hmacScalar inner.hmacKey
  inner : SealedFresh lib ea entropy.eciesEa fun ecies =>
    encryptedEcSignature? inner=some (Enc.buildEncryptedData ecies ea ea.encCurve)
  outer : SealedFresh lib aa entropy.eciesAa fun ecies => encodeEncrypted lib aa ecies=.ok req

/-- The assembled description; the facade puts in its own key, so the rest is arbitrary. -/
def keyed (desc : AtRequestDescription) (drawn : Option Nat) : AtRequestDescription :=
  {desc with hmacKey := atHmacKey lib drawn}

def AtEntropy.Succeeded (entropy : AtEntropy) : Prop :=
  (generateKeypair lib.ssl .nistP256 entropy.hmacScalar).isSome ∧
    entropy.eciesEa.Succeeded ∧ entropy.eciesAa.Succeeded

end

section
variable {lib : Lib}

theorem sealedFresh_iff {cert : CertInfo} {plaintext : Bytes} {entropy : EciesEntropy}
    {ecies : EciesEncryptResult} {out : EciesEncryptResult → Prop}
    (h : encryptTo lib cert plaintext entropy=.ok ecies) (hout : out ecies) :
    SealedFresh lib cert entropy out ↔ entropy.Succeeded := by
  constructor
  · rintro ⟨plaintext',ecies',h',-,hdrawn⟩
    exact (eciesDrawn_iff (encryptTo_encCurve h')).mp hdrawn
  · intro hok
    exact ⟨plaintext,ecies,h,hout,(eciesDrawn_iff (encryptTo_encCurve h)).mpr hok⟩

theorem hmacDrawn_iff {drawn : Option Nat} :
    HmacDrawn lib drawn (atHmacKey lib drawn).toVector ↔
      (generateKeypair lib.ssl .nistP256 drawn).isSome := by
  unfold HmacDrawn atHmacKey
  cases generateKeypair lib.ssl .nistP256 drawn with
  | none => simp
  | some kp =>
    have hfits : (kp.privateKey.data kP256ScalarLen).length≤32 := List.length_take_le _ _
    simp [StaticBytes.orEmpty_toVector,hfits]

theorem ecFresh_iff {desc : EcRequestDescription} {ea : CertInfo} {key : Bytes}
    {entropy : EcEntropy} {req : RequestResult}
    (h : encodeEcRequest lib desc ea key entropy=.ok req) :
    EcFresh lib ea entropy req ↔ entropy.ecies.Succeeded := by
  obtain ⟨innerBytes,pop,outer,ecies,-,-,-,-,-,-,hsealed,hencoded⟩ := encodeEcRequest_ok h
  exact sealedFresh_iff hsealed hencoded

theorem atFresh_iff (laws : CryptoLaws lib.ssl) (hdata : lib.asn.ieee1609Dot2Data.RoundTrip)
    (hcodec : lib.asn.innerAtRequest.RoundTrip) {desc : AtRequestDescription}
    {aa ea ec : CertInfo} {ecKey atKey : Bytes} {entropy : AtEntropy} {req : RequestResult}
    (h : encodeAtRequest lib (keyed lib desc entropy.hmacScalar) aa ea ec ecKey atKey entropy=
      .ok req) :
    (∃ inner,AtFresh lib aa ea entropy req inner) ↔ entropy.Succeeded lib := by
  obtain ⟨inner,hread,hof⟩ := atInner_request laws hdata hcodec h
  obtain ⟨digest,signedExt,eciesEa,-,-,hsealedEa,hdataEa⟩ := hof.ecSignature
  obtain ⟨innerBytes,outer,ecies,-,-,-,hsealed,hencoded⟩ := encodeAtRequest_ok h
  have hhmac : HmacDrawn lib entropy.hmacScalar inner.hmacKey ↔
      (generateKeypair lib.ssl .nistP256 entropy.hmacScalar).isSome := by
    rw [hof.hmacKey]
    exact hmacDrawn_iff
  have hinnerIff : SealedFresh lib ea entropy.eciesEa (fun ecies => encryptedEcSignature? inner=
      some (Enc.buildEncryptedData ecies ea ea.encCurve)) ↔ entropy.eciesEa.Succeeded :=
    sealedFresh_iff hsealedEa hdataEa
  have houterIff : SealedFresh lib aa entropy.eciesAa
      (fun ecies => encodeEncrypted lib aa ecies=.ok req) ↔ entropy.eciesAa.Succeeded :=
    sealedFresh_iff hsealed hencoded
  constructor
  · rintro ⟨inner',hfresh⟩
    obtain rfl := Option.some.inj (hread.symm.trans hfresh.read)
    exact ⟨hhmac.mp hfresh.hmac,hinnerIff.mp hfresh.inner,houterIff.mp hfresh.outer⟩
  · rintro ⟨hmac,hea,haa⟩
    exact ⟨inner,hread,hhmac.mpr hmac,hinnerIff.mpr hea,houterIff.mpr haa⟩

/-- If what is made is good exactly under `p`, then all of it is exactly if `p` holds or nothing
can be made. -/
theorem forall_ok_iff {ε α : Type} {out : Except ε α} {good : α → Prop} {p makeable : Prop}
    (hmade : (∃ a,out=.ok a) ↔ makeable) (h : ∀ a,out=.ok a → (good a ↔ p)) :
    (∀ a,out=.ok a → good a) ↔ p ∨ ¬makeable := by
  rw [← hmade]
  cases out with
  | error e => simp
  | ok a => simpa using h a rfl

end

section
variable (lib : Lib)

def EcNeverSilent (desc : EcRequestDescription) (ea : CertInfo) (key : Bytes)
    (entropy : EcEntropy) : Prop :=
  ∀ req,encodeEcRequest lib desc ea key entropy=.ok req → EcFresh lib ea entropy req

def AtNeverSilent (desc : AtRequestDescription) (aa ea ec : CertInfo) (ecKey atKey : Bytes)
    (entropy : AtEntropy) : Prop :=
  ∀ req,encodeAtRequest lib (keyed lib desc entropy.hmacScalar) aa ea ec ecKey atKey entropy=
    .ok req → ∃ inner,AtFresh lib aa ea entropy req inner

end

namespace Sample

open Framework

/-- A source of which only the scalar of the ephemeral key can be had. -/
def exhausted : EciesEntropy := ⟨some 3,none,none⟩

def exhaustedStation : EcEntropy := {station.ecEntropy with ecies := exhausted}

/-- The ticket is asked for while no key for the tag can be generated. -/
def untaggedEntropy : AtEntropy := {ticketEntropy with hmacScalar := none}

def untaggedDesc : AtRequestDescription := keyed (enrolLib {}) ticketDesc none

/-- The layers of that request, from the inside. -/
def untaggedShared : Coded Asn.SharedAtRequest :=
  let v := sharedAtRequest (enrolLib {}) untaggedDesc ticketKey.1
  ((sharedAtRequestOctets v).getD [],v)

def untaggedExternalBody : Coded Asn.ToBeSignedData :=
  let digest := Crypto.hashForCurve ssl untaggedShared.1 .nistP256
  let time := Sign.currentGenerationTime noteEntropy.unixMicros
  ([0x20,0x80]++digest++[0x40,2,2,0x6f]++binpad 8 time.toNat,
    ⟨some ⟨none,some (.sha256HashedData digest)⟩,some (Sign.headerInfo noteEntropy.unixMicros)⟩)

def untaggedExternal : Coded Asn.Ieee1609Dot2Data :=
  signedBy 8 untaggedExternalBody enrolmentCert.1 enrolled.hashedId8

def untaggedEcSignature : Coded Asn.Ieee1609Dot2Data :=
  encryptedFor encryptingCa untaggedExternal.1 drawnEcies

def untaggedInner : Coded Asn.InnerAtRequest :=
  ([0,0]++ticketKey.1++untaggedDesc.hmacKey.toVector++untaggedShared.1++
      0x80::untaggedEcSignature.1,
    ⟨some ⟨some ticketKey.2,none⟩,untaggedDesc.hmacKey.toVector,some untaggedShared.2,
      some (.encryptedEcSignature (some untaggedEcSignature.2))⟩)

def untaggedOuterBody : Coded Asn.ToBeSignedData :=
  unsecuredBody (0x01::0x82::untaggedInner.1) noteEntropy.unixMicros

def untaggedOuter : Coded Asn.Ieee1609Dot2Data := signedBy 22 untaggedOuterBody [] .zero

def untaggedRequest : Coded Asn.Ieee1609Dot2Data :=
  encryptedFor encryptingCa untaggedOuter.1 drawnEcies

def untaggedLib : Lib :=
  let base := exchangeLib [untaggedExternal,untaggedOuter,untaggedRequest]
    [untaggedExternalBody,untaggedOuterBody]
  {base with asn := {base.asn with
    publicVerificationKey := coded [ticketKey]
    sharedAtRequest := coded [untaggedShared]
    innerAtRequest := coded [untaggedInner]}}

end Sample

end V2xPki
