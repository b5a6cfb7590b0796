import V2xPki.Request.RequestAgreement

namespace V2xPki

/-- The inner request carries what the description says. -/
structure EnrolmentOf (desc : EcRequestDescription) (inner : Asn.InnerEcRequest)
    (pvk : Asn.PublicVerificationKey) : Prop where
  itsId : inner.itsId=bytesOfString desc.itsId
  key : ∃ keys,inner.publicKeys=some keys ∧ keys.verificationKey=some pvk
  compressed : verificationSec1 pvk=
    some (compressedPoint desc.curve desc.verificationKey.toVector,desc.curve)
  attributes : ∃ attrs,inner.requestedSubjectAttributes=some attrs ∧
    AttributesOf desc.validityStart desc.validityDurationHours desc.psids attrs

section
variable {lib : Lib} {desc : EcRequestDescription} {ea : CertInfo} {priv : Bytes}
variable {entropy : EcEntropy} {req : RequestResult}

/-- The layers of a request that was returned. -/
theorem encodeEcRequest_ok (h : encodeEcRequest lib desc ea priv entropy=.ok req) :
    ∃ innerBytes pop outer ecies,
      lib.asn.innerEcRequest.encode (innerEcRequest desc)=some innerBytes ∧ innerBytes≠[] ∧
      pop=Sign.buildSelfSigned lib innerBytes priv desc.curve entropy.pop ∧ pop≠[] ∧
      outer=Sign.buildSelfSigned lib (0x01::0x80::pop) priv desc.curve entropy.outer ∧ outer≠[] ∧
      encryptTo lib ea outer entropy.ecies=.ok ecies ∧ encodeEncrypted lib ea ecies=.ok req := by
  unfold encodeEcRequest at h
  dsimp only at h
  split at h
  · cases h
  rename_i hinner
  split at h
  · cases h
  rename_i hpop
  split at h
  · cases h
  rename_i houter
  split at h
  · cases h
  rename_i ecies hecies
  have hne : Coer.encode lib.asn.innerEcRequest (innerEcRequest desc)≠[] := by simpa using hinner
  exact ⟨_,_,_,ecies,Coer.encode_ne_nil hne,hne,rfl,by simpa using hpop,rfl,by simpa using houter,
    hecies,h⟩

/-- What the EA finds in an enrolment request, layer by layer. -/
theorem ecRequest_accepted (laws : CryptoLaws lib.ssl)
    (hdata : lib.asn.ieee1609Dot2Data.RoundTrip) (hnull : ChecksPoints lib.asn.ieee1609Dot2Data)
    (hinner : lib.asn.innerEcRequest.RoundTrip) (hcurve : desc.curve∈Sign.supportedCurves)
    (hkey : KeyPairOn laws desc.curve priv desc.verificationKey.toVector) {d : Bytes}
    (hea : EncryptionKeyOf laws ea d)
    (hdrawn : Crypto.DrawsScalar laws ea.encCurve entropy.ecies)
    (h : encodeEcRequest lib desc ea priv entropy=.ok req) :
    ∃ data plaintext pop innerBytes inner pvk pub,
      Coer.decode lib.asn.ieee1609Dot2Data req.encoded.toVector=some data ∧
      OpensTo lib ea d data req.requestAesKey.toVector plaintext ∧
      SelfSigned lib plaintext pub (0x01::0x80::pop) ∧
      SelfSigned lib pop pub innerBytes ∧
      Coer.decode lib.asn.innerEcRequest innerBytes=some inner ∧
      verificationSec1 pvk=some (pub,desc.curve) ∧ EnrolmentOf desc inner pvk := by
  obtain ⟨innerBytes,pop,outer,ecies,hencode,hne,rfl,hpop,rfl,houter,hecies,hreq⟩ :=
    encodeEcRequest_ok h
  have hsec1 := verificationSec1_request hcurve hkey
  -- the layers from the outside in
  obtain ⟨data,hdecode,hopens⟩ := request_opens hdata hnull hea hdrawn hecies hreq
  have houterSigned := buildSelfSigned_selfSigned hdata hcurve hkey (List.cons_ne_nil _ _) houter
  have hpopSigned := buildSelfSigned_selfSigned hdata hcurve hkey hne hpop
  have hread := Coer.decode_encode hinner hencode
  have hattrs := requestedAttributes_of desc.validityStart desc.validityDurationHours desc.psids
  have henrolment : EnrolmentOf desc (innerEcRequest desc)
      (requestVerificationKey desc.curve desc.verificationKey.toVector) :=
    ⟨rfl,⟨_,rfl,rfl⟩,hsec1,⟨_,rfl,hattrs⟩⟩
  exact ⟨data,_,_,innerBytes,innerEcRequest desc,_,_,hdecode,hopens,houterSigned,hpopSigned,hread,
    hsec1,henrolment⟩

end

namespace Sample

open Framework

def stationRecord : EcRecord where
  canonicalPublicKey := (keyPair 21).publicKey
  eaHashedId8 := encryptingCa.hashedId8
  requestedPsids := [kPsidScr]

def stationDesc : EcRequestDescription := assembleEcRequest stationRecord 1200000000

def stationEntropy : EcEntropy := ⟨noteEntropy,noteEntropy,drawnEcies⟩

/-- The layers of the request of the station, from the inside. -/
def stationInner : Coded Asn.InnerEcRequest :=
  ((innerEcRequestOctets (innerEcRequest stationDesc)).getD [],innerEcRequest stationDesc)

def stationPopBody : Coded Asn.ToBeSignedData :=
  unsecuredBody stationInner.1 noteEntropy.unixMicros

def stationPop : Coded Asn.Ieee1609Dot2Data := signedBy 21 stationPopBody [] .zero

def stationOuterBody : Coded Asn.ToBeSignedData :=
  unsecuredBody (0x01::0x80::stationPop.1) noteEntropy.unixMicros

def stationOuter : Coded Asn.Ieee1609Dot2Data := signedBy 21 stationOuterBody [] .zero

def stationRequest : Coded Asn.Ieee1609Dot2Data :=
  encryptedFor encryptingCa stationOuter.1 drawnEcies

def stationLib : Lib :=
  let base := exchangeLib [stationPop,stationOuter,stationRequest] [stationPopBody,stationOuterBody]
  {base with asn := {base.asn with innerEcRequest := coded [stationInner]}}

def stationLaws : CryptoLaws stationLib.ssl := sslLaws

theorem ecRequest_accepted_station :
    ∃ req,encodeEcRequest stationLib stationDesc encryptingCa (binpad 32 21) stationEntropy=.ok req ∧
      ∃ data plaintext pop innerBytes inner pvk pub,
      Coer.decode stationLib.asn.ieee1609Dot2Data req.encoded.toVector=some data ∧
      OpensTo stationLib encryptingCa (binpad 32 7) data req.requestAesKey.toVector plaintext ∧
      SelfSigned stationLib plaintext pub (0x01::0x80::pop) ∧
      SelfSigned stationLib pop pub innerBytes ∧
      Coer.decode stationLib.asn.innerEcRequest innerBytes=some inner ∧
      verificationSec1 pvk=some (pub,stationDesc.curve) ∧ EnrolmentOf stationDesc inner pvk := by
  have hreq : encodeEcRequest stationLib stationDesc encryptingCa (binpad 32 21) stationEntropy=
      .ok ⟨.orEmpty stationRequest.1,.orEmpty (List.replicate 16 2)⟩ := by decide +kernel
  have hcurve : stationDesc.curve=.nistP256 := by decide +kernel
  have hpoint : stationDesc.verificationKey.toVector=pointOf .nistP256 21 := by decide +kernel
  have hkey : KeyPairOn stationLaws stationDesc.curve (binpad 32 21)
      stationDesc.verificationKey.toVector := by
    rw [hcurve,hpoint]
    exact keyPairOn_pointOf (by decide) (by decide)
  have hdrawn : Crypto.DrawsScalar stationLaws encryptingCa.encCurve stationEntropy.ecies :=
    drawnEcies_draws
  have hdata : stationLib.asn.ieee1609Dot2Data.RoundTrip :=
    Codec.table_roundTrip [stationPop,stationOuter,stationRequest] (by decide +kernel)
  have hpoints : ChecksPoints stationLib.asn.ieee1609Dot2Data :=
    checksPoints_coded (by decide +kernel)
  have hinner : stationLib.asn.innerEcRequest.RoundTrip :=
    Codec.table_roundTrip [stationInner] (by decide +kernel)
  have hea : EncryptionKeyOf stationLaws encryptingCa (binpad 32 7) := encryptingCa_key
  exact ⟨_,hreq,ecRequest_accepted stationLaws hdata hpoints hinner
    (by decide +kernel) hkey hea hdrawn hreq⟩

end Sample

end V2xPki
