import V2xPki.Client.Exchange
import V2xPki.Trust.Identity

/- A client that enrols with a self-signed EA, and a server that answers its request with
a certificate of our choice. -/

namespace V2xPki.Sample

open Framework PkiClient

def canonical : KeyHandle := ⟨"canonical",by decide,by decide,by decide⟩

/-- A second CA of the same trust directory. -/
def otherCa : Coded Asn.CertificateBase := selfSigned 9 []

def station : Setting where
  unixNow := 1200000000
  ecEntropy := ⟨⟨1200000000000000,1⟩,⟨1200000000000000,2⟩,
    ⟨some 3,some (Vector.replicate 16 2),some (Vector.replicate 12 1)⟩⟩
  atEntropy := stillSetting.atEntropy
  loadKeypair _ := some (keyPair 21)

def anchors : List (Coded Asn.CertificateBase) := [rootCa,otherCa]

def anchorBodies : List (Coded Asn.ToBeSignedCertificate) := [tbs 5 [],tbs 9 []]

/-- What the request is built with: only the anchors are read by then. -/
def requestLib : Lib := enrolLib {certs := anchors,bodies := anchorBodies}

def ecRecord : EcRecord where
  canonicalPublicKey := (keyPair 21).publicKey
  eaHashedId8 := Cert.computeHid8 requestLib rootCa.1
  requestedPsids := [kPsidScr]

def ecRequest : Bytes :=
  match encodeEcRequest requestLib (assembleEcRequest ecRecord station.unixNow)
      (Cert.fromCoer requestLib .zero rootCa.1) (keyPair 21).privateKey.toVector
      station.ecEntropy with
  | .ok req => req.encoded.toVector
  | .error _ => []

/-- The response to the request, with code ok and the given certificate, signed by the EA. -/
def ecInner (answered : Coded Asn.CertificateBase) : Coded Asn.InnerResponse :=
  innerResponse ecRequest 0 (some answered)

def ecSigned (answered : Coded Asn.CertificateBase) : Coded Asn.Ieee1609Dot2Data :=
  signedEnvelope 5 rootCa ([0x01,0x81]++(ecInner answered).1)

def ecReply (answered : Coded Asn.CertificateBase) : Coded Asn.Ieee1609Dot2Data :=
  pskEnvelope (ecSigned answered).1

/-- The library of a run in which the EA answers with `answered`; `certs` and `bodies` are
the certificates that occur besides the anchors. -/
def replyTables (answered : Coded Asn.CertificateBase)
    (certs : List (Coded Asn.CertificateBase))
    (bodies : List (Coded Asn.ToBeSignedCertificate)) : Tables where
  certs := anchors++certs
  bodies := anchorBodies++bodies
  envelopes := [ecSigned answered,ecReply answered]
  signedBodies := [signedBody ([0x01,0x81]++(ecInner answered).1)]
  ecResponses := [ecInner answered]

/-- A client with both CAs in its trust directory. -/
def enrolling (l : Lib) : ClientState :=
  .initial l (fun _ => .zero) ⟨"https://ea","https://aa","https://tlm","trust",""⟩
    [⟨true,".cert","ea",some rootCa.1⟩,⟨true,".cert","other",some otherCa.1⟩]

def enrolServer (answered : Coded Asn.CertificateBase) : World :=
  scripted station 1 [⟨.ok ⟨200,(ecReply answered).1⟩,1200000000,fun _ => .zero⟩]

end V2xPki.Sample
