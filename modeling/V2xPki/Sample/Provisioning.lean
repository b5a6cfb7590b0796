import V2xPki.Client.TlmPin
import V2xPki.Provisioner.Flow
import V2xPki.Request.AtRequestAgreement

/- A PKI with one root CA, one EA and one AA, as a provisioner meets it: it discovers trust,
enrols a station and asks for tickets. -/

namespace V2xPki.Sample

open Framework PkiClient Provisioning

/-- The body of a CA that has an encryption key besides its signing key. -/
def caBody (key encKey : Nat) : Coded Asn.ToBeSignedCertificate :=
  ([0x09,0x83,0,0,0,0,0,0,0,0,0,0x86,0,30,1,0,0,0x80,0x82]++binpad 32 encKey++
      [0x80,0x80,0x82]++binpad 32 key,
    {(tbs key []).2 with encryptionKey := some ⟨0,some (.eciesNistP256
      (some (.compressedY0 (binpad 32 encKey))))⟩})

/-- A certificate with the given body, issued as `issued` does it. -/
def eaEntry (c : Coded Asn.CertificateBase) (url : String) : Coded Asn.CtlEntry :=
  (0x81::0::c.1++coerLength (bytesOfString url).length++bytesOfString url,
    .ea (some ⟨some c.2,bytesOfString url,none⟩))

def aaEntry (c : Coded Asn.CertificateBase) (url : String) : Coded Asn.CtlEntry :=
  (0x82::c.1++coerLength (bytesOfString url).length++bytesOfString url,
    .aa (some ⟨some c.2,bytesOfString url⟩))

def eaBody : Coded Asn.ToBeSignedCertificate := caBody 11 12

def aaBody : Coded Asn.ToBeSignedCertificate := caBody 13 14

def eaCa : Coded Asn.CertificateBase := issuedBody 5 rootCa eaBody

def aaCa : Coded Asn.CertificateBase := issuedBody 5 rootCa aaBody

def fleetBodyOctets : Asn.ToBeSignedData → Option Bytes
  | ⟨some ⟨none,some (.sha256HashedData digest)⟩,some ⟨623,some t,[]⟩⟩ =>
      some ([0x20,0x80]++digest++[0x40,2,2,0x6f]++binpad 8 t.toNat)
  | body => signedBodyOctets body

def fleetEnvelopeOctets : Asn.Ieee1609Dot2Data → Option Bytes
  | ⟨3,some (.signedData (some ⟨.sha256,some body,some signer,some sig⟩))⟩ => do
      some ([3,0x81,0]++(← fleetBodyOctets body)++(← signerOctets signer)++
        (← signatureOctets sig))
  | data => envelopeOctets data

def innerAtRequestOctets : Asn.InnerAtRequest → Option Bytes
  | ⟨some ⟨some pvk,none⟩,hmacKey,some shared,some (.encryptedEcSignature (some e))⟩ => do
      some ([0,0]++(← verificationKeyOctets pvk)++hmacKey++(← sharedAtRequestOctets shared)++
        0x80::(← envelopeOctets e))
  | _ => none

/-- The library with encoders for both kinds of requests, on stand-ins that tell the curves
apart. The provisioner reads its own shared requests back, so these are in a table. -/
def fleetLib (t : Tables) (shared : List (Coded Asn.SharedAtRequest)) : Lib :=
  let base := enrolLib t
  {asn := {base.asn with
    ieee1609Dot2Data := {base.asn.ieee1609Dot2Data with encode := fleetEnvelopeOctets}
    toBeSignedData := {base.asn.toBeSignedData with encode := fleetBodyOctets}
    publicVerificationKey := {base.asn.publicVerificationKey with encode := verificationKeyOctets}
    sharedAtRequest := {coded shared with encode := sharedAtRequestOctets}
    innerAtRequest := {base.asn.innerAtRequest with encode := innerAtRequestOctets}}
   ssl := curvedSsl}

def fleetCas : List (Coded Asn.CertificateBase) := [rogueTlm,rootCa,eaCa,aaCa]

def fleetBodies : List (Coded Asn.ToBeSignedCertificate) := [tbs 7 [],tbs 5 [],eaBody,aaBody]

def fleetList : Coded Asn.EtsiTs102941Data :=
  rcaCtl 0 [eaEntry eaCa "https://ea",aaEntry aaCa "https://aa"]

def fleetCtl : Coded Asn.Ieee1609Dot2Data := signedEnvelope 5 rootCa fleetList.1

/-- The TLM, its ECTL and the CTL of the root CA. -/
def fleetServer : World :=
  scripted stillSetting 0 [served rogueTlm.1,served rogueEctl.1,served fleetCtl.1]

/-- What discovery needs; `t` holds what else occurs. -/
def fleetTables (t : Tables) : Tables where
  certs := fleetCas++t.certs
  bodies := fleetBodies++t.bodies
  envelopes := [rogueEctl,fleetCtl]++t.envelopes
  signedBodies := [signedBody rogueList.1,signedBody fleetList.1]++t.signedBodies
  payloads := [rogueList,fleetList]
  ecResponses := t.ecResponses
  atResponses := t.atResponses

def fleetBase : Lib := fleetLib (fleetTables {}) []

def fleetCa (c : Coded Asn.CertificateBase) (label : String) : CertInfo :=
  {Cert.fromStruct fleetBase .zero c.2 c.1 with label := label}

/-- The anchors that discovery comes to. -/
def fleetAnchors : TrustAnchors :=
  ⟨fleetCa eaCa "ea",fleetCa aaCa "aa",fleetCa rootCa "rca","https://tlm/ec-request","https://aa"⟩

/-- The octets of a request that could be made. -/
def octetsOf (r : Except Error RequestResult) : Bytes :=
  match r with
  | .ok req => req.encoded.toVector
  | .error _ => []

/-- The request of a station whose canonical key has the scalar 21. -/
def ecPosted : Bytes :=
  octetsOf (encodeEcRequest fleetBase
    (assembleEcRequest (Provisioning.ecRecord fleetAnchors 30 .nistP256 (keyPair 21)) 1200000000)
    fleetAnchors.ea (binpad 32 21) stationEntropy)

def ecAnswer (c : Coded Asn.CertificateBase) : Coded Asn.InnerResponse :=
  innerResponse ecPosted 0 (some c)

def ecAnswerSigned (c : Coded Asn.CertificateBase) : Coded Asn.Ieee1609Dot2Data :=
  signedEnvelope 11 eaCa ([0x01,0x81]++(ecAnswer c).1)

/-- An EA that answers with the given certificate. -/
def enrolment (c : Coded Asn.CertificateBase) : EnrolSetting where
  unixNow := 1200000000
  scalar := some 21
  entropy := stationEntropy
  answer _ := ⟨.ok ⟨200,(pskEnvelope (ecAnswerSigned c).1).1⟩,1200000000,fun _ => .zero⟩

/-- What the answer of the EA adds. -/
def enrolmentTables (c : Coded Asn.CertificateBase) (body : Coded Asn.ToBeSignedCertificate) :
    Tables where
  certs := [c]
  bodies := [body]
  envelopes := [ecAnswerSigned c,pskEnvelope (ecAnswerSigned c).1]
  signedBodies := [signedBody ([0x01,0x81]++(ecAnswer c).1)]
  ecResponses := [ecAnswer c]

/-- An enrolment credential for thirty days, as the EA issues it when the station enrols. -/
def ecBody : Coded Asn.ToBeSignedCertificate :=
  ([0x08,0x83,0,0,0,0,0]++binpad 4 (unixToTai32 1200000000).toNat++[0x84,2,0xd0]++
      [1,0,0x80,0x80,0x82]++binpad 32 21,
    {(tbs 21 []).2 with validityPeriod := some ⟨unixToTai32 1200000000,some (.hours 720)⟩})

def stationEc : Coded Asn.CertificateBase := issuedBody 11 eaCa ecBody

def enrolledStation : EnrolledEc :=
  let base := fleetLib (fleetTables {certs := [stationEc],bodies := [ecBody]}) []
  ⟨{Cert.fromStruct base .zero stationEc.2 stationEc.1 with label := "ec_response"},keyPair 21⟩

def ticketPsids : List Int := [36,37]

def ticketHours : Int := 1000

/-- A rotation at the given time that draws the scalar `d`. -/
def rotation (d : Nat) (now : Int) (answer : Answer) : RotateSetting where
  unixNow := now
  scalar := some d
  entropy := ⟨some 17,⟨now*1000000,1⟩,drawnEcies,⟨now*1000000,1⟩,drawnEcies⟩
  answer _ := answer

def noAnswer : Answer := ⟨.error .network,0,fun _ => .zero⟩

def atDesc (d : Nat) (now : Int) : AtRequestDescription :=
  assembleAtRequest fleetBase
    (Provisioning.atRecord fleetAnchors enrolledStation ticketPsids ticketHours (keyPair d)) now (some 17)

/-- The shared part of the request of a rotation. -/
def sharedFor (d : Nat) (now : Int) : Coded Asn.SharedAtRequest :=
  let pvk := requestVerificationKey .nistP256 (pointOf .nistP256 d)
  let v := sharedAtRequest fleetBase (atDesc d now) ((verificationKeyOctets pvk).getD [])
  ((sharedAtRequestOctets v).getD [],v)

def atPosted (d : Nat) (now : Int) : Bytes :=
  octetsOf (encodeAtRequest (fleetLib (fleetTables {}) [sharedFor d now]) (atDesc d now)
    fleetAnchors.aa fleetAnchors.ea enrolledStation.cert (binpad 32 21) (binpad 32 d)
    (rotation d now noAnswer).entropy)

/-- The ticket of the AA for the scalar `d`. -/
def ticketCert (d : Nat) : Coded Asn.CertificateBase := issuedBody 13 aaCa (tbs d [])

def atAnswer (d : Nat) (now : Int) : Coded Asn.InnerResponse :=
  innerResponse (atPosted d now) 0 (some (ticketCert d))

def atAnswerSigned (d : Nat) (now : Int) : Coded Asn.Ieee1609Dot2Data :=
  signedEnvelope 13 aaCa ([0x01,0x83]++(atAnswer d now).1)

/-- The same rotation, answered with the ticket. -/
def answeredRotation (d : Nat) (now : Int) : RotateSetting :=
  rotation d now ⟨.ok ⟨200,(pskEnvelope (atAnswerSigned d now).1).1⟩,now,fun _ => .zero⟩

/-- The library of a station that enrols and then asks for tickets with these scalars at these
times. -/
def fleetStationLib (asked : List (Nat × Int)) : Lib :=
  let enrolled := enrolmentTables stationEc ecBody
  fleetLib (fleetTables
    {certs := enrolled.certs++asked.map fun a => ticketCert a.1
     bodies := enrolled.bodies++asked.map fun a => tbs a.1 []
     envelopes := enrolled.envelopes++asked.flatMap fun a =>
      [atAnswerSigned a.1 a.2,pskEnvelope (atAnswerSigned a.1 a.2).1]
     signedBodies := enrolled.signedBodies++asked.map fun a =>
      signedBody ([0x01,0x83]++(atAnswer a.1 a.2).1)
     ecResponses := enrolled.ecResponses
     atResponses := asked.map fun a => atAnswer a.1 a.2})
    (asked.map fun a => sharedFor a.1 a.2)

end V2xPki.Sample
