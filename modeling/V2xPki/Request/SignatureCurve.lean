import V2xPki.Request.Layers

namespace V2xPki

section
variable (lib : Lib)

/-- The `ecSignature` in a request, under the content key that was drawn for the EA. -/
def ecSignature? (entropy : AtEntropy) (req : RequestResult) : Option Bytes := do
  let inner ← atInner? lib req
  contentUnder lib (Crypto.randBytes entropy.eciesEa.aesKey) (← encryptedEcSignature? inner)

/-- `signedExt` is encrypted to the EA in the inner request that the body carries. -/
def SealedEcSignature (aa ea : CertInfo) (entropy : AtEntropy) (body signedExt : Bytes) : Prop :=
  ∃ innerBytes inner ecies,CarriesInner lib aa entropy innerBytes body ∧
    lib.asn.innerAtRequest.encode inner=some innerBytes ∧
    encryptTo lib ea signedExt entropy.eciesEa=.ok ecies ∧
    encryptedEcSignature? inner=some (Enc.buildEncryptedData ecies ea ea.encCurve)

/-- The envelope holds a signature that was computed with the scalar on `curve`. -/
def ComputedOn (curve : Curve) (ec : CertInfo) (ecPriv : Bytes) (nonce : Nat)
    (signedExt : Bytes) : Prop :=
  ∃ tbs sig,Crypto.ecdsaSignDigest lib.ssl ecPriv
      (Sign.signedDigest lib tbs ec.certBytes.toVector curve) curve nonce=some sig ∧
    signedExt=Coer.encode lib.asn.ieee1609Dot2Data
      (Sign.envelope tbs ec.certBytes.toVector ec.hashedId8 curve sig)

/-- Every request that is made carries an `ecSignature` that verifies under the key of the EC
on its curve and was not computed on another one. -/
def SignsOnEcCurve (desc : AtRequestDescription) (aa ea ec : CertInfo) (ecPriv atPriv : Bytes)
    (entropy : AtEntropy) : Prop :=
  ∀ req,encodeAtRequest lib desc aa ea ec ecPriv atPriv entropy=.ok req →
    ∃ signedExt,ecSignature? lib entropy req=some signedExt ∧
      (∃ digest,SignedExternally lib ec signedExt digest) ∧
      ∀ curve,ComputedOn lib curve ec ecPriv entropy.external.nonce signedExt → curve=ec.curve

end

section
variable {lib : Lib} {desc : AtRequestDescription} {aa ea ec : CertInfo}
variable {ecPriv atPriv : Bytes} {entropy : AtEntropy} {curve : Curve}

/-- The external signature is computed on the curve of the description. -/
theorem buildExternalPayload_computedOn {digest : Bytes} {drawn : Sign.EnvelopeEntropy}
    (hne : Sign.buildExternalPayload lib digest ec ecPriv curve drawn≠[]) :
    ComputedOn lib curve ec ecPriv drawn.nonce
      (Sign.buildExternalPayload lib digest ec ecPriv curve drawn) := by
  obtain ⟨sig,hsign,hfinal⟩ := Sign.finalizeSignedData_signs hne
  exact ⟨_,sig,hsign,hfinal⟩

/-- Whatever request is made, the `ecSignature` in it was computed on the curve of the
description. -/
theorem request_computedOn (laws : CryptoLaws lib.ssl)
    (hdata : lib.asn.ieee1609Dot2Data.RoundTrip) (hinner : lib.asn.innerAtRequest.RoundTrip)
    {req : RequestResult}
    (h : encodeAtRequest lib desc aa ea ec ecPriv atPriv entropy=.ok req) :
    ∃ signedExt,ecSignature? lib entropy req=some signedExt ∧
      ComputedOn lib desc.curve ec ecPriv entropy.external.nonce signedExt := by
  obtain ⟨inner,hread,hof⟩ := atInner_request laws hdata hinner h
  obtain ⟨digest,signedExt,ecies,rfl,hne,hecies,hsealed⟩ := hof.ecSignature
  refine ⟨_,?_,buildExternalPayload_computedOn hne⟩
  have hcontent := contentUnder_build laws hecies
  rw [encryptTo_aesKey hecies] at hcontent
  simp only [ecSignature?,hread,hsealed,hcontent,Option.bind_eq_bind,Option.bind_some]

/-- The same from the outside in, without a codec that reads it back. -/
theorem request_sealedOn {req : RequestResult}
    (h : encodeAtRequest lib desc aa ea ec ecPriv atPriv entropy=.ok req) :
    ∃ signedExt,SealedEcSignature lib aa ea entropy req.encoded.toVector signedExt ∧
      ComputedOn lib desc.curve ec ecPriv entropy.external.nonce signedExt := by
  obtain ⟨innerBytes,outer,ecies,hbytes,rfl,houter,hecies,hreq⟩ := encodeAtRequest_ok h
  obtain ⟨pvk,sharedCoer,e,shared,-,-,he,-,hencode⟩ := innerAtRequestBytes_ok hbytes
  obtain ⟨signedExt,eciesEa,rfl,hsigned,heciesEa,rfl⟩ := encryptedEcSignature_ok he
  exact ⟨_,⟨innerBytes,_,eciesEa,carriesInner_request houter hecies hreq,hencode,heciesEa,rfl⟩,
    buildExternalPayload_computedOn hsigned⟩

/-- A scalar that OpenSSL does not take on the curve of the description makes no request. -/
theorem atMakeable_scalar (h : AtMakeable lib desc aa ea ec ecPriv atPriv entropy) :
    Crypto.evpPkeyFromPrivate lib.ssl ecPriv desc.curve≠none := by
  obtain ⟨innerBytes,outer,ecies,hinner,-⟩ := h
  obtain ⟨pvkOer,sharedCoer,shared,signedExt,eciesEa,-,-,hsigns,-⟩ := hinner
  obtain ⟨body,sig,-,hsign,-⟩ := hsigns
  intro hnone
  unfold Crypto.ecdsaSignDigest at hsign
  split at hsign
  · cases hsign
  · rw [hnone] at hsign
    cases hsign

/-- With a description on another curve than the EC, the encoder does what it should exactly
if codec and OpenSSL do not go along with every layer, as when OpenSSL does not take the scalar
on the curve of the description because it has the wrong length. -/
theorem other_curve_iff_refused (laws : CryptoLaws lib.ssl)
    (hdata : lib.asn.ieee1609Dot2Data.RoundTrip) (hinner : lib.asn.innerAtRequest.RoundTrip)
    (aa ea : CertInfo) (ecPriv atPriv : Bytes) (entropy : AtEntropy)
    (hne : desc.curve≠ec.curve) :
    (SignsOnEcCurve lib desc aa ea ec ecPriv atPriv entropy ↔
      ¬AtMakeable lib desc aa ea ec ecPriv atPriv entropy) ∧
    (Crypto.evpPkeyFromPrivate lib.ssl ecPriv desc.curve=none →
      ¬AtMakeable lib desc aa ea ec ecPriv atPriv entropy) ∧
    (ecPriv.length≠desc.curve.scalarLen →
      Crypto.evpPkeyFromPrivate lib.ssl ecPriv desc.curve=none) := by
  refine ⟨?_,?_,?_⟩
  · constructor
    · intro hsigns hmakeable
      obtain ⟨req,h⟩ := encodeAtRequest_iff.mpr hmakeable
      obtain ⟨signedExt,hread,hon⟩ := request_computedOn laws hdata hinner h
      obtain ⟨signedExt',hread',-,hall⟩ := hsigns req h
      obtain rfl := Option.some.inj (hread.symm.trans hread')
      exact hne (hall desc.curve hon)
    · intro hrefused req h
      exact absurd (encodeAtRequest_iff.mp ⟨req,h⟩) hrefused
  · intro hnone hmakeable
    exact atMakeable_scalar hmakeable hnone
  · intro hlen
    exact if_neg (fun h => hlen h.1)

end

namespace Sample

open Framework

/-- An enrolment credential whose key, the point of 8, is on a Brainpool curve. -/
def brainpoolEnrolment : Coded Asn.CertificateBase :=
  let nist := enrolmentCert
  (nist.1.set 29 0x81,{nist.2 with toBeSigned := nist.2.toBeSigned.map fun body =>
    {body with verifyKeyIndicator := some (.verificationKey (some (.ecdsaBrainpoolP256r1
      (some (.compressedY0 (binpad 32 8))))))}})

def brainpoolEnrolled : CertInfo :=
  Cert.fromStruct (enrolLib {bodies := [tbs 8 []]}) .zero brainpoolEnrolment.2 brainpoolEnrolment.1

/-- The layers of a request for a ticket on NIST P-256 under that credential. -/
def crossExternal : Coded Asn.Ieee1609Dot2Data :=
  signedBy 8 ticketExternalBody brainpoolEnrolment.1 brainpoolEnrolled.hashedId8

def crossEcSignature : Coded Asn.Ieee1609Dot2Data :=
  encryptedFor encryptingCa crossExternal.1 drawnEcies

def crossInner : Coded Asn.InnerAtRequest :=
  ([0,0]++ticketKey.1++ticketDesc.hmacKey.toVector++ticketShared.1++0x80::crossEcSignature.1,
    ⟨some ⟨some ticketKey.2,none⟩,ticketDesc.hmacKey.toVector,some ticketShared.2,
      some (.encryptedEcSignature (some crossEcSignature.2))⟩)

def crossOuterBody : Coded Asn.ToBeSignedData :=
  unsecuredBody (0x01::0x82::crossInner.1) noteEntropy.unixMicros

def crossOuter : Coded Asn.Ieee1609Dot2Data := signedBy 22 crossOuterBody [] .zero

def crossRequest : Coded Asn.Ieee1609Dot2Data :=
  encryptedFor encryptingCa crossOuter.1 drawnEcies

def crossLib : Lib :=
  let base := exchangeLib [crossExternal,crossOuter,crossRequest]
    [ticketExternalBody,crossOuterBody]
  {asn := {base.asn with
    publicVerificationKey := coded [ticketKey]
    sharedAtRequest := coded [ticketShared]
    innerAtRequest := coded [crossInner]}
   ssl := curvedSsl}

theorem cross_codecs : crossLib.asn.ieee1609Dot2Data.RoundTrip ∧
    crossLib.asn.innerAtRequest.RoundTrip :=
  ⟨Codec.table_roundTrip [crossExternal,crossOuter,crossRequest] (by decide +kernel),
    Codec.table_roundTrip [crossInner] (by decide +kernel)⟩

/-- A request goes out under a Brainpool credential whose scalar signed on NIST P-256. -/
theorem cross_curve_request :
    ticketDesc.curve≠brainpoolEnrolled.curve ∧
    (∃ req,encodeAtRequest crossLib ticketDesc encryptingCa encryptingCa brainpoolEnrolled
      (binpad 32 8) (binpad 32 22) ticketEntropy=.ok req ∧
      ecSignature? crossLib ticketEntropy req=some crossExternal.1) ∧
    ComputedOn crossLib .nistP256 brainpoolEnrolled (binpad 32 8) noteEntropy.nonce
      crossExternal.1 ∧
    ¬SignsOnEcCurve crossLib ticketDesc encryptingCa encryptingCa brainpoolEnrolled (binpad 32 8)
      (binpad 32 22) ticketEntropy := by
  have hne : ticketDesc.curve≠brainpoolEnrolled.curve := by decide +kernel
  have hcurve : ticketDesc.curve=.nistP256 := by decide +kernel
  have hreq : encodeAtRequest crossLib ticketDesc encryptingCa encryptingCa brainpoolEnrolled
      (binpad 32 8) (binpad 32 22) ticketEntropy=
      .ok ⟨.orEmpty crossRequest.1,.orEmpty (List.replicate 16 2)⟩ := by decide +kernel
  have hread : ecSignature? crossLib ticketEntropy ⟨.orEmpty crossRequest.1,
      .orEmpty (List.replicate 16 2)⟩=some crossExternal.1 := by decide +kernel
  obtain ⟨hdata,hinner⟩ := cross_codecs
  obtain ⟨signedExt,hext,hon⟩ := request_computedOn curvedLaws hdata hinner hreq
  obtain rfl := Option.some.inj (hread.symm.trans hext)
  rw [hcurve] at hon hne
  refine ⟨by rwa [hcurve],⟨_,hreq,hread⟩,hon,?_⟩
  intro hsigns
  obtain ⟨signedExt',hext',-,hall⟩ := hsigns _ hreq
  obtain rfl := Option.some.inj (hread.symm.trans hext')
  exact hne (hall .nistP256 hon)

/-- A P-384 credential has a scalar that is too long for NIST P-256. -/
theorem long_scalar_refused :
    SignsOnEcCurve crossLib ticketDesc encryptingCa encryptingCa
      {brainpoolEnrolled with curve := .brainpoolP384r1} (binpad 48 8) (binpad 32 22)
      ticketEntropy := by
  have hne : ticketDesc.curve≠
      ({brainpoolEnrolled with curve := .brainpoolP384r1} : CertInfo).curve := by decide +kernel
  obtain ⟨hdata,hinner⟩ := cross_codecs
  obtain ⟨hiff,hscalar,hlen⟩ := other_curve_iff_refused curvedLaws hdata hinner
    encryptingCa encryptingCa (binpad 48 8) (binpad 32 22) ticketEntropy hne
  apply hiff.mpr
  apply hscalar
  exact hlen (by decide +kernel)

end Sample

end V2xPki
