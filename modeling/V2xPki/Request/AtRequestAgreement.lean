import V2xPki.Request.AtRequest
import V2xPki.Request.EcRequestAgreement

namespace V2xPki

/-- The hash of external data, in the alternative of its curve. -/
def externalHash (curve : Curve) (digest : Bytes) : Asn.HashedData :=
  if curve.isP256Size then .sha256HashedData digest else .sha384HashedData digest

section
variable (lib : Lib)

/-- An envelope without data of its own, only the hash `digest` of external data, whose signer
is the holder of `cert`: it names the certificate and the signature verifies under its key. -/
def SignedExternally (cert : CertInfo) (coer digest : Bytes) : Prop :=
  ∃ data sd tbs header r s,
    Coer.decode lib.asn.ieee1609Dot2Data coer=some data ∧ SignedMsg.signedData? data=some sd ∧
    SignedMsg.signerDigest? sd=some cert.hashedId8 ∧ sd.tbsData=some tbs ∧
    tbs=⟨some ⟨none,some (externalHash cert.curve digest)⟩,header⟩ ∧
    Point.extractSig sd.signature=some ⟨StaticBytes.toVector r,StaticBytes.toVector s,cert.curve⟩ ∧
    Crypto.ecdsaVerifyDigest lib.ssl cert.publicKey.toVector (SignedMsg.signedDataHash lib
      (Coer.encode lib.asn.toBeSignedData tbs) cert.certBytes.toVector cert.curve) ⟨r,s⟩
      cert.curve=true

/-- The inner request carries what the description says, and a key tag over the key it
carries. -/
structure AuthorizationOf (desc : AtRequestDescription) (inner : Asn.InnerAtRequest)
    (pvk : Asn.PublicVerificationKey) (shared : Asn.SharedAtRequest) : Prop where
  key : ∃ keys,inner.publicKeys=some keys ∧ keys.verificationKey=some pvk
  sharedAtRequest : inner.sharedAtRequest=some shared
  keyTag : shared.keyTag=(lib.ssl.hmacSha256 inner.hmacKey
    (Coer.encode lib.asn.publicVerificationKey pvk)).toList.take 16
  eaId : shared.eaId=desc.eaHid8.toList
  attributes : ∃ attrs,shared.requestedSubjectAttributes=some attrs ∧
    AttributesOf desc.validityStart desc.validityDurationHours desc.psids attrs

end

/-- The encoder of the inner request fails on a null point as well. -/
def ChecksSignaturePoints (td : Descriptor Asn.InnerAtRequest) : Prop :=
  ∀ v b,td.encode v=some b → ∀ e,v.ecSignature=some (.encryptedEcSignature (some e)) →
    PointsPresent e

section
variable {lib : Lib} {laws : CryptoLaws lib.ssl} {desc : AtRequestDescription}
variable {aa ea ec : CertInfo} {ecPriv atPriv point : Bytes} {entropy : AtEntropy}

/-- What the builder of an external payload returned the holder of the certificate signed. -/
theorem buildExternalPayload_signed (hcodec : lib.asn.ieee1609Dot2Data.RoundTrip)
    (hcurve : ec.curve∈Sign.supportedCurves) (hkey : KeyPairOn laws ec.curve ecPriv point)
    (hpub : PublicForm ec.curve point ec.publicKey.toVector)
    (hbytes : ec.certBytes.toVector≠[]) {digest : Bytes} {drawn : Sign.EnvelopeEntropy}
    (hne : Sign.buildExternalPayload lib digest ec ecPriv ec.curve drawn≠[]) :
    SignedExternally lib ec (Sign.buildExternalPayload lib digest ec ecPriv ec.curve drawn)
      digest := by
  have hbody := Sign.body_of_finalize hne
  obtain ⟨sig,hsign,hsized,hfinal,hverify⟩ :=
    Sign.finalizeSignedData_spec hkey hbody ec.hashedId8 drawn.nonce
  have hread := Sign.decode_of_finalize hcodec hne hsign
  rw [← hfinal] at hread
  have hcert : ec.certBytes.toVector.isEmpty=false := by simpa using hbytes
  refine ⟨_,_,_,_,sig.r,sig.s,hread,rfl,?_,rfl,rfl,
    Sign.extractSig_buildAsnSignature (Sign.supported_ne hcurve) hsized,hverify _ hpub⟩
  rw [Sign.signerDigest_signedPart,hcert]
  rfl

theorem encryptedEcSignature_ok {sharedCoer : Bytes} {e : Asn.Ieee1609Dot2Data}
    (h : encryptedEcSignature lib desc sharedCoer ea ec ecPriv entropy=.ok e) :
    ∃ signedExt ecies,
      signedExt=Sign.buildExternalPayload lib (Crypto.hashForCurve lib.ssl sharedCoer desc.curve)
        ec ecPriv desc.curve entropy.external ∧ signedExt≠[] ∧
      encryptTo lib ea signedExt entropy.eciesEa=.ok ecies ∧
      e=Enc.buildEncryptedData ecies ea ea.encCurve := by
  unfold encryptedEcSignature at h
  dsimp only at h
  split at h
  · cases h
  rename_i hsigned
  split at h
  · cases h
  rename_i ecies hecies
  cases h
  exact ⟨_,ecies,rfl,by simpa using hsigned,hecies,rfl⟩

theorem innerAtRequestBytes_ok {innerBytes : Bytes}
    (h : innerAtRequestBytes lib desc ea ec ecPriv entropy=.ok innerBytes) :
    ∃ pvk sharedCoer e shared,
      pvk=requestVerificationKey desc.curve desc.verificationKey.toVector ∧
      lib.asn.sharedAtRequest.encode (sharedAtRequest lib desc
        (Coer.encode lib.asn.publicVerificationKey pvk))=some sharedCoer ∧
      encryptedEcSignature lib desc sharedCoer ea ec ecPriv entropy=.ok e ∧
      Coer.decode lib.asn.sharedAtRequest sharedCoer=some shared ∧
      lib.asn.innerAtRequest.encode ⟨some ⟨some pvk,none⟩,desc.hmacKey.toVector,some shared,
        some (.encryptedEcSignature (some e))⟩=some innerBytes := by
  unfold innerAtRequestBytes at h
  dsimp only at h
  split at h
  · cases h
  split at h
  · cases h
  rename_i hshared
  split at h
  · cases h
  rename_i e he
  split at h
  · cases h
  rename_i shared hdecode
  split at h
  · cases h
  rename_i hinner
  cases h
  exact ⟨_,_,e,shared,rfl,Coer.encode_ne_nil (by simpa using hshared),he,hdecode,
    Coer.encode_ne_nil (by simpa using hinner)⟩

/-- The layers of a request that was returned. -/
theorem encodeAtRequest_ok {req : RequestResult}
    (h : encodeAtRequest lib desc aa ea ec ecPriv atPriv entropy=.ok req) :
    ∃ innerBytes outer ecies,
      innerAtRequestBytes lib desc ea ec ecPriv entropy=.ok innerBytes ∧
      outer=Sign.buildSelfSigned lib (0x01::0x82::innerBytes) atPriv desc.curve entropy.outer ∧
      outer≠[] ∧ encryptTo lib aa outer entropy.eciesAa=.ok ecies ∧
      encodeEncrypted lib aa ecies=.ok req := by
  unfold encodeAtRequest at h
  split at h
  · cases h
  rename_i innerBytes hinner
  dsimp only at h
  split at h
  · cases h
  rename_i houter
  split at h
  · cases h
  rename_i ecies hecies
  exact ⟨innerBytes,_,ecies,hinner,rfl,by simpa using houter,hecies,h⟩

/-- What AA and EA find in an authorization request, layer by layer. -/
theorem atRequest_accepted (laws : CryptoLaws lib.ssl)
    (hdata : lib.asn.ieee1609Dot2Data.RoundTrip) (hnull : ChecksPoints lib.asn.ieee1609Dot2Data)
    (hsharedCodec : lib.asn.sharedAtRequest.RoundTrip)
    (hinnerCodec : lib.asn.innerAtRequest.RoundTrip)
    (hinnerNull : ChecksSignaturePoints lib.asn.innerAtRequest)
    (hsame : desc.curve=ec.curve) (hcurve : desc.curve∈Sign.supportedCurves)
    (hat : KeyPairOn laws desc.curve atPriv desc.verificationKey.toVector)
    (hec : KeyPairOn laws ec.curve ecPriv point)
    (hpub : PublicForm ec.curve point ec.publicKey.toVector)
    (hbytes : ec.certBytes.toVector≠[]) {dAa dEa : Bytes}
    (haa : EncryptionKeyOf laws aa dAa) (hea : EncryptionKeyOf laws ea dEa)
    (hdrawnAa : Crypto.DrawsScalar laws aa.encCurve entropy.eciesAa)
    (hdrawnEa : Crypto.DrawsScalar laws ea.encCurve entropy.eciesEa) {req : RequestResult}
    (h : encodeAtRequest lib desc aa ea ec ecPriv atPriv entropy=.ok req) :
    ∃ data plaintext innerBytes inner pvk pub shared ecData ecAesKey signedExt,
      Coer.decode lib.asn.ieee1609Dot2Data req.encoded.toVector=some data ∧
      OpensTo lib aa dAa data req.requestAesKey.toVector plaintext ∧
      SelfSigned lib plaintext pub (0x01::0x82::innerBytes) ∧
      Coer.decode lib.asn.innerAtRequest innerBytes=some inner ∧
      verificationSec1 pvk=some (pub,desc.curve) ∧ AuthorizationOf lib desc inner pvk shared ∧
      inner.ecSignature=some (.encryptedEcSignature (some ecData)) ∧
      OpensTo lib ea dEa ecData ecAesKey signedExt ∧
      SignedExternally lib ec signedExt (Crypto.hashForCurve lib.ssl
        (Coer.encode lib.asn.sharedAtRequest shared) desc.curve) := by
  obtain ⟨innerBytes,outer,ecies,hinner,rfl,houter,hecies,hreq⟩ := encodeAtRequest_ok h
  obtain ⟨pvk,sharedCoer,e,shared,rfl,hsharedEncode,he,hsharedDecode,hinnerEncode⟩ :=
    innerAtRequestBytes_ok hinner
  obtain ⟨signedExt,eciesEa,rfl,hsigned,heciesEa,rfl⟩ := encryptedEcSignature_ok he
  -- the copy that is embedded is the value the hash was taken of
  obtain rfl := Option.some.inj
    (hsharedDecode.symm.trans (Coer.decode_encode hsharedCodec hsharedEncode))
  have hcopy : Coer.encode lib.asn.sharedAtRequest (sharedAtRequest lib desc
      (Coer.encode lib.asn.publicVerificationKey
        (requestVerificationKey desc.curve desc.verificationKey.toVector)))=sharedCoer := by
    rw [Coer.encode,hsharedEncode,Option.getD_some]
  have hsec1 := verificationSec1_request hcurve hat
  -- what the AA sees
  obtain ⟨data,hdecode,hopens⟩ := request_opens hdata hnull haa hdrawnAa hecies hreq
  have hself := buildSelfSigned_selfSigned hdata hcurve hat (List.cons_ne_nil _ _) houter
  have hread := Coer.decode_encode hinnerCodec hinnerEncode
  have hattrs := requestedAttributes_of desc.validityStart desc.validityDurationHours desc.psids
  -- what the EA sees
  have hopensEa := encryptTo_opens hea hdrawnEa heciesEa (hinnerNull _ _ hinnerEncode _ rfl)
  rw [hsame] at hsigned hcurve
  have hexternal := buildExternalPayload_signed hdata hcurve hec hpub hbytes hsigned
  rw [← hsame,← hcopy] at hexternal
  rw [← hcopy] at hopensEa
  exact ⟨data,_,innerBytes,_,_,_,_,_,_,_,hdecode,hopens,hself,hread,hsec1,
    ⟨⟨_,rfl,rfl⟩,rfl,rfl,rfl,⟨_,rfl,hattrs⟩⟩,rfl,hopensEa,hexternal⟩

end

namespace Sample

open Framework

def enrolmentCert : Coded Asn.CertificateBase := issued 5 rootCa 8 []

def enrolled : CertInfo :=
  Cert.fromCoer (enrolLib {certs := [enrolmentCert],bodies := [tbs 8 []]}) .zero enrolmentCert.1

def ticketRecord : AtRecord where
  atPublicKey := (keyPair 22).publicKey
  aaHashedId8 := encryptingCa.hashedId8
  eaHashedId8 := encryptingCa.hashedId8
  requestedPsids := [36,37]

def ticketEntropy : AtEntropy := ⟨some 17,noteEntropy,drawnEcies,noteEntropy,drawnEcies⟩

def ticketDesc : AtRequestDescription :=
  assembleAtRequest (enrolLib {}) ticketRecord 1200000000 ticketEntropy.hmacScalar

def verificationKeyOctets : Asn.PublicVerificationKey → Option Bytes
  | .ecdsaNistP256 (some v) => do some (0x80::(← pointOctets v))
  | _ => none

def sharedAtRequestOctets : Asn.SharedAtRequest → Option Bytes
  | ⟨eaId,keyTag,format,some ⟨some ⟨start,some (.hours n)⟩,some psids⟩⟩ =>
      some (0::eaId++keyTag++UInt8.ofNat format::0x24::binpad 4 start.toNat++
        0x84::binpad 2 n.toNat++[1,UInt8.ofNat psids.length]++
        psids.flatMap fun psid => [0,1,UInt8.ofNat psid.toNat])
  | _ => none

/-- The layers of the request for a ticket, from the inside. -/
def ticketKey : Coded Asn.PublicVerificationKey :=
  let v := requestVerificationKey .nistP256 (pointOf .nistP256 22)
  ((verificationKeyOctets v).getD [],v)

def ticketShared : Coded Asn.SharedAtRequest :=
  let v := sharedAtRequest (enrolLib {}) ticketDesc ticketKey.1
  ((sharedAtRequestOctets v).getD [],v)

def ticketExternalBody : Coded Asn.ToBeSignedData :=
  let digest := Crypto.hashForCurve ssl ticketShared.1 .nistP256
  let time := Sign.currentGenerationTime noteEntropy.unixMicros
  ([0x20,0x80]++digest++[0x40,2,2,0x6f]++binpad 8 time.toNat,
    ⟨some ⟨none,some (.sha256HashedData digest)⟩,some (Sign.headerInfo noteEntropy.unixMicros)⟩)

def ticketExternal : Coded Asn.Ieee1609Dot2Data :=
  signedBy 8 ticketExternalBody enrolmentCert.1 enrolled.hashedId8

def ticketEcSignature : Coded Asn.Ieee1609Dot2Data :=
  encryptedFor encryptingCa ticketExternal.1 drawnEcies

def ticketInner : Coded Asn.InnerAtRequest :=
  ([0,0]++ticketKey.1++ticketDesc.hmacKey.toVector++ticketShared.1++0x80::ticketEcSignature.1,
    ⟨some ⟨some ticketKey.2,none⟩,ticketDesc.hmacKey.toVector,some ticketShared.2,
      some (.encryptedEcSignature (some ticketEcSignature.2))⟩)

def ticketOuterBody : Coded Asn.ToBeSignedData :=
  unsecuredBody (0x01::0x82::ticketInner.1) noteEntropy.unixMicros

def ticketOuter : Coded Asn.Ieee1609Dot2Data := signedBy 22 ticketOuterBody [] .zero

def ticketRequest : Coded Asn.Ieee1609Dot2Data :=
  encryptedFor encryptingCa ticketOuter.1 drawnEcies

def ticketLib : Lib :=
  let base := exchangeLib [ticketExternal,ticketOuter,ticketRequest]
    [ticketExternalBody,ticketOuterBody]
  {base with asn := {base.asn with
    publicVerificationKey := coded [ticketKey]
    sharedAtRequest := coded [ticketShared]
    innerAtRequest := coded [ticketInner]}}

def ticketLaws : CryptoLaws ticketLib.ssl := sslLaws

theorem ticket_checksSignaturePoints : ChecksSignaturePoints ticketLib.asn.innerAtRequest := by
  intro v b hb e he
  obtain ⟨entry,hentry,rfl⟩ := Codec.table_encode_mem hb
  obtain rfl := List.mem_singleton.mp hentry
  obtain rfl : ticketEcSignature.2=e := by
    simpa [ticketInner] using he
  decide +kernel

theorem atRequest_accepted_ticket :
    ∃ req,encodeAtRequest ticketLib ticketDesc encryptingCa encryptingCa enrolled (binpad 32 8)
        (binpad 32 22) ticketEntropy=.ok req ∧
      ∃ data plaintext innerBytes inner pvk pub shared ecData ecAesKey signedExt,
      Coer.decode ticketLib.asn.ieee1609Dot2Data req.encoded.toVector=some data ∧
      OpensTo ticketLib encryptingCa (binpad 32 7) data req.requestAesKey.toVector plaintext ∧
      SelfSigned ticketLib plaintext pub (0x01::0x82::innerBytes) ∧
      Coer.decode ticketLib.asn.innerAtRequest innerBytes=some inner ∧
      verificationSec1 pvk=some (pub,ticketDesc.curve) ∧
      AuthorizationOf ticketLib ticketDesc inner pvk shared ∧
      inner.ecSignature=some (.encryptedEcSignature (some ecData)) ∧
      OpensTo ticketLib encryptingCa (binpad 32 7) ecData ecAesKey signedExt ∧
      SignedExternally ticketLib enrolled signedExt (Crypto.hashForCurve ticketLib.ssl
        (Coer.encode ticketLib.asn.sharedAtRequest shared) ticketDesc.curve) := by
  have hreq : encodeAtRequest ticketLib ticketDesc encryptingCa encryptingCa enrolled (binpad 32 8)
      (binpad 32 22) ticketEntropy=
      .ok ⟨.orEmpty ticketRequest.1,.orEmpty (List.replicate 16 2)⟩ := by decide +kernel
  have hcurve : ticketDesc.curve=.nistP256 := by decide +kernel
  have hecCurve : enrolled.curve=.nistP256 := by decide +kernel
  have hpoint : ticketDesc.verificationKey.toVector=pointOf .nistP256 22 := by decide +kernel
  have hat : KeyPairOn ticketLaws ticketDesc.curve (binpad 32 22)
      ticketDesc.verificationKey.toVector := by
    rw [hcurve,hpoint]
    exact keyPairOn_pointOf (by decide) (by decide)
  have hec : KeyPairOn ticketLaws enrolled.curve (binpad 32 8) (pointOf .nistP256 8) := by
    rw [hecCurve]
    exact keyPairOn_pointOf (by decide) (by decide)
  have hpub : PublicForm enrolled.curve (pointOf .nistP256 8) enrolled.publicKey.toVector :=
    .inr (by decide +kernel)
  have hca : EncryptionKeyOf ticketLaws encryptingCa (binpad 32 7) := encryptingCa_key
  have hdrawn : Crypto.DrawsScalar ticketLaws encryptingCa.encCurve drawnEcies := drawnEcies_draws
  have hdata : ticketLib.asn.ieee1609Dot2Data.RoundTrip :=
    Codec.table_roundTrip [ticketExternal,ticketOuter,ticketRequest] (by decide +kernel)
  have hpoints : ChecksPoints ticketLib.asn.ieee1609Dot2Data :=
    checksPoints_coded (by decide +kernel)
  have hshared : ticketLib.asn.sharedAtRequest.RoundTrip :=
    Codec.table_roundTrip [ticketShared] (by decide +kernel)
  have hinner : ticketLib.asn.innerAtRequest.RoundTrip :=
    Codec.table_roundTrip [ticketInner] (by decide +kernel)
  exact ⟨_,hreq,atRequest_accepted ticketLaws hdata hpoints hshared hinner
    ticket_checksSignaturePoints (by decide +kernel) (by decide +kernel) hat hec hpub
    (by decide +kernel) hca hca hdrawn hdrawn hreq⟩

end Sample

end V2xPki
