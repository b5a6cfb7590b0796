import V2xPki.Client.Operations
import V2xPki.Request.CaAnswer

/- A station that enrols with one root CA and then gets a ticket from it, and what that CA
answers: the layers of both requests and of both answers. -/

namespace V2xPki.Sample

open Framework PkiClient

/-- The root CA, which is EA and AA as well; its decryption key is 7. -/
def soleRoot : Coded Asn.CertificateBase := selfSigned 6 []

def soleCa : CertInfo :=
  {Cert.fromCoer (enrolLib {certs := [soleRoot],bodies := [tbs 6 []]}) .zero soleRoot.1 with
    encryptionKey := .orEmpty (pointOf .nistP256 7)}

def atHandle : KeyHandle := ⟨"trip",by decide,by decide,by decide⟩

def sessionEntropy : AtEntropy := ⟨some 17,noteEntropy,drawnEcies,noteEntropy,drawnEcies⟩

/-- The key of 20 for enrolments, the key of 22 for tickets. -/
def sessionSetting : Setting where
  unixNow := 1200000000
  ecEntropy := ⟨noteEntropy,noteEntropy,drawnEcies⟩
  atEntropy := sessionEntropy
  loadKeypair handle := if handle=atHandle then some (keyPair 22) else some (keyPair 20)

def answerDraws : AnswerDraws := ⟨noteEntropy,List.replicate 12 1,List.replicate 8 0⟩

/-- A response under its header, signed by the CA. -/
def answerSigned (tag : UInt8) (response : Coded Asn.InnerResponse) :
    Coded Asn.ToBeSignedData × Coded Asn.Ieee1609Dot2Data :=
  let body := unsecuredBody (0x01::tag::response.1) noteEntropy.unixMicros
  (body,signedBy 6 body soleRoot.1 soleCa.hashedId8)

/-- An envelope of a station around a payload, signed with a key of its own. -/
def stationSigned (key : Nat) (payload : Bytes) :
    Coded Asn.ToBeSignedData × Coded Asn.Ieee1609Dot2Data :=
  let body := unsecuredBody payload noteEntropy.unixMicros
  (body,signedBy key body [] .zero)

section Enrolment

def newcomer : EcRecord where
  canonicalPublicKey := (keyPair 20).publicKey
  eaHashedId8 := soleCa.hashedId8
  requestedPsids := [kPsidScr]

def newcomerDesc : EcRequestDescription := assembleEcRequest newcomer 1200000000

def newcomerInner : Coded Asn.InnerEcRequest :=
  ((innerEcRequestOctets (innerEcRequest newcomerDesc)).getD [],innerEcRequest newcomerDesc)

def newcomerPop : Coded Asn.ToBeSignedData × Coded Asn.Ieee1609Dot2Data :=
  stationSigned 20 newcomerInner.1

def newcomerOuter : Coded Asn.ToBeSignedData × Coded Asn.Ieee1609Dot2Data :=
  stationSigned 20 (0x01::0x80::newcomerPop.2.1)

def newcomerRequest : Coded Asn.Ieee1609Dot2Data := encryptedFor soleCa newcomerOuter.2.1 drawnEcies

/-- The credential, for the key of the request. -/
def newcomerCert : Coded Asn.CertificateBase := issued 6 soleRoot 20 []

def newcomerResponse : Coded Asn.InnerResponse :=
  innerResponse newcomerRequest.1 0 (some newcomerCert)

def newcomerSigned : Coded Asn.ToBeSignedData × Coded Asn.Ieee1609Dot2Data :=
  answerSigned 0x81 newcomerResponse

def newcomerAnswer : Coded Asn.Ieee1609Dot2Data := pskEnvelope newcomerSigned.2.1

end Enrolment

section Ticket

def tripRecord : AtRecord where
  atPublicKey := (keyPair 22).publicKey
  aaHashedId8 := soleCa.hashedId8
  eaHashedId8 := soleCa.hashedId8
  requestedPsids := [36,37]

def tripDesc : AtRequestDescription :=
  assembleAtRequest (enrolLib {}) tripRecord 1200000000 sessionEntropy.hmacScalar

def tripShared : Coded Asn.SharedAtRequest :=
  let v := sharedAtRequest (enrolLib {}) tripDesc ticketKey.1
  ((sharedAtRequestOctets v).getD [],v)

def tripExternalBody : Coded Asn.ToBeSignedData :=
  let digest := Crypto.hashForCurve ssl tripShared.1 .nistP256
  let time := Sign.currentGenerationTime noteEntropy.unixMicros
  ([0x20,0x80]++digest++[0x40,2,2,0x6f]++binpad 8 time.toNat,
    ⟨some ⟨none,some (.sha256HashedData digest)⟩,some (Sign.headerInfo noteEntropy.unixMicros)⟩)

def newcomerHid8 : HashedId8 := Cert.truncateHid8 (Crypto.hashSha256 ssl newcomerCert.1)

def tripExternal : Coded Asn.Ieee1609Dot2Data :=
  signedBy 20 tripExternalBody newcomerCert.1 newcomerHid8

def tripEcSignature : Coded Asn.Ieee1609Dot2Data := encryptedFor soleCa tripExternal.1 drawnEcies

def tripInner : Coded Asn.InnerAtRequest :=
  ([0,0]++ticketKey.1++tripDesc.hmacKey.toVector++tripShared.1++0x80::tripEcSignature.1,
    ⟨some ⟨some ticketKey.2,none⟩,tripDesc.hmacKey.toVector,some tripShared.2,
      some (.encryptedEcSignature (some tripEcSignature.2))⟩)

def tripOuter : Coded Asn.ToBeSignedData × Coded Asn.Ieee1609Dot2Data :=
  stationSigned 22 (0x01::0x82::tripInner.1)

def tripRequest : Coded Asn.Ieee1609Dot2Data := encryptedFor soleCa tripOuter.2.1 drawnEcies

def tripCert : Coded Asn.CertificateBase := issued 6 soleRoot 22 []

def tripResponse : Coded Asn.InnerResponse := innerResponse tripRequest.1 0 (some tripCert)

def tripSigned : Coded Asn.ToBeSignedData × Coded Asn.Ieee1609Dot2Data :=
  answerSigned 0x83 tripResponse

def tripAnswer : Coded Asn.Ieee1609Dot2Data := pskEnvelope tripSigned.2.1

end Ticket

def sessionEnvelopes : List (Coded Asn.Ieee1609Dot2Data) :=
  [newcomerPop.2,newcomerOuter.2,newcomerRequest,newcomerSigned.2,newcomerAnswer,tripExternal,
    tripOuter.2,tripRequest,tripSigned.2,tripAnswer]

def sessionCerts : List (Coded Asn.CertificateBase) := [soleRoot,newcomerCert,tripCert]

def sessionLib : Lib :=
  let base := exchangeLib sessionEnvelopes [newcomerPop.1,newcomerOuter.1,newcomerSigned.1,
    tripExternalBody,tripOuter.1,tripSigned.1]
  {base with asn := {base.asn with
    certificateBase := coded sessionCerts
    etsiTs103097Certificate := coded sessionCerts
    toBeSignedCertificate := coded [tbs 6 [],tbs 20 [],tbs 22 []]
    publicVerificationKey := coded [ticketKey]
    innerEcRequest := coded [newcomerInner]
    innerEcResponse := coded [newcomerResponse]
    sharedAtRequest := coded [tripShared]
    innerAtRequest := coded [tripInner]
    innerAtResponse := coded [tripResponse]}}

def sessionLaws : CryptoLaws sessionLib.ssl := sslLaws

/-- A server that answers the enrolment and then the request for a ticket. -/
def sessionServer : World :=
  scripted sessionSetting 1 [⟨.ok ⟨200,newcomerAnswer.1⟩,1200000000,fun _ => .zero⟩,
    ⟨.error .network,1200000000,fun _ => .zero⟩,⟨.ok ⟨200,tripAnswer.1⟩,1200000000,fun _ => .zero⟩]

/-- A client that knows the CA. -/
def newcomerState : ClientState where
  config := ⟨"https://ea","https://aa","https://tlm","",""⟩
  trust := TrustChain.empty.addCert soleCa
  revocation := .empty
  topology := none
  events := []

end V2xPki.Sample
