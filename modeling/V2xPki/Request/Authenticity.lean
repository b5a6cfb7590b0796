import V2xPki.Request.Response
import V2xPki.Trust.Identity

namespace V2xPki

open SignedMsg

section
variable (lib : Lib)

/-- What ties an accepted response to its signer and to the request: one signed body whose
signature verifies, whose digest (if named) is the signer's, whose payload is the one that
was read, and whose request hash is that of the request. -/
def Authentic {Code : Type} (td : Descriptor Asn.InnerResponse) (tag : UInt8)
    (code : Int → Code) (label : String) (uninit : HashedId8) (plain requestBytes : Bytes)
    (signer : CertInfo) (r : Response Code) : Prop :=
  ∃ outer sd tbs rs payload inner,
    Coer.decodeWithBasicFallback lib.asn.ieee1609Dot2Data plain=some outer ∧
    signedData? outer=some sd ∧ sd.tbsData=some tbs ∧
    Point.extractSig sd.signature=some rs ∧
    (∃ sig : Signature,sig.r.toVector=rs.r ∧ sig.s.toVector=rs.s ∧
      Crypto.ecdsaVerifyDigest lib.ssl signer.publicKey.toVector
        (signedDataHash lib (Coer.encode lib.asn.toBeSignedData tbs)
          signer.certBytes.toVector rs.curve) sig rs.curve=true) ∧
    (∀ d : HashedId8,sd.signer=some (.digest d.toList) →
      d=Cert.computeHid8 lib signer.certBytes.toVector) ∧
    unsecuredPayload? tbs=some payload ∧
    (Coer.decode td payload=some inner ∨
      ∃ rest,payload=0x01::tag::rest ∧ Coer.decode td rest=some inner) ∧
    r.responseCode=code inner.responseCode ∧ r.requestHash.toVector=inner.requestHash ∧
    r.certificate=inner.certificate.map (responseCertificate lib uninit label) ∧
    r.requestHash.toVector=(lib.ssl.sha256 requestBytes).toList.take 16

theorem stripEtsiHeader_cases (tag : UInt8) (payload : Bytes) :
    Enc.stripEtsiHeader tag payload=payload ∨
      payload=0x01::tag::Enc.stripEtsiHeader tag payload := by
  unfold Enc.stripEtsiHeader
  split
  · rename_i v t b rest
    split
    · rename_i h
      exact .inr (by rw [h.1,h.2])
    · exact .inl rfl
  · exact .inl rfl

theorem message_signature {sd : Asn.SignedData} {tbs : Asn.ToBeSignedData} {payload : Bytes}
    {pub cert : Bytes} (h : verify lib (message lib sd tbs payload) pub cert=true) :
    ∃ rs,Point.extractSig sd.signature=some rs := by
  have hl := (verify_spec lib h).2.2.1
  cases hs : Point.extractSig sd.signature with
  | some rs => exact ⟨rs,rfl⟩
  | none => simp [message,hs,Curve.scalarLen,Curve.isP256Size,kP256ScalarLen] at hl

theorem decodeResponse_authentic {Code : Type} {td : Descriptor Asn.InnerResponse}
    {tag : UInt8} {code : Int → Code} {label : String} {uninit : HashedId8}
    {resp priv aes req : Bytes} {signer : CertInfo} {r : Response Code}
    (h : decodeResponse lib td tag code label uninit resp priv aes req signer=.ok r) :
    ∃ plain,Enc.plaintext? lib resp priv aes=some plain ∧
      Authentic lib td tag code label uninit plain req signer r := by
  obtain ⟨m,inner,ha,hd,hr⟩ := (decodeResponse_ok lib).mp h
  obtain ⟨plain,hp,hu,hv⟩ := Enc.authenticated_some lib ha
  obtain ⟨outer,sd,tbs,payload,ho,hs,ht,hpl,_,rfl⟩ := unwrap_some lib hu
  obtain ⟨rs,hrs⟩ := message_signature lib hv
  obtain ⟨_,_,_,hdig,sr,ss,hsr,hss,hver⟩ := verify_spec lib hv
  have hread := (readResponse_ok lib).mp hr
  refine ⟨plain,hp,outer,sd,tbs,rs,payload,inner,ho,hs,ht,hrs,⟨⟨sr,ss⟩,?_,?_,?_⟩,?_,hpl,?_,
    hread.1,hread.2.1,hread.2.2.1,hread.2.1.trans hread.2.2.2.2⟩
  · simpa [message,hrs] using hsr
  · simpa [message,hrs] using hss
  · simpa [message,hrs] using hver
  · intro d hsd
    have hd8 : signerDigest? sd=some d := by
      simp [signerDigest?,hsd,HashedId8.ofBytes_some]
    simpa [message,hd8] using (hdig (by simp [message,hd8])).symm
  · rcases stripEtsiHeader_cases tag payload with hst | hst
    · exact .inl (by simpa [message,hst] using hd)
    · exact .inr ⟨Enc.stripEtsiHeader tag payload,hst,hd⟩

/-- Two requests answered by one plaintext have the same request hash. -/
theorem decodeResponse_same_request {Code : Type} {td : Descriptor Asn.InnerResponse}
    {tag : UInt8} {code : Int → Code} {label : String} {u u' : HashedId8}
    {resp resp' priv priv' aes aes' req req' : Bytes} {signer signer' : CertInfo}
    {r r' : Response Code}
    (h : decodeResponse lib td tag code label u resp priv aes req signer=.ok r)
    (h' : decodeResponse lib td tag code label u' resp' priv' aes' req' signer'=.ok r')
    (hp : Enc.plaintext? lib resp priv aes=Enc.plaintext? lib resp' priv' aes') :
    (lib.ssl.sha256 req).toList.take 16=(lib.ssl.sha256 req').toList.take 16 := by
  obtain ⟨m,inner,ha,hd,hr⟩ := (decodeResponse_ok lib).mp h
  obtain ⟨m',inner',ha',hd',hr'⟩ := (decodeResponse_ok lib).mp h'
  obtain ⟨plain,hpl,hu,_⟩ := Enc.authenticated_some lib ha
  obtain ⟨plain',hpl',hu',_⟩ := Enc.authenticated_some lib ha'
  obtain rfl : plain=plain' := by
    rw [hpl,hpl'] at hp
    exact Option.some.inj hp
  obtain rfl : m=m' := Option.some.inj (hu.symm.trans hu')
  obtain rfl : inner=inner' := Option.some.inj (hd.symm.trans hd')
  have h1 := ((readResponse_ok lib).mp hr).2.2.2.2
  have h2 := ((readResponse_ok lib).mp hr').2.2.2.2
  exact h1.symm.trans h2

/-- Whatever the response bytes, the keys, the request and the signer: an accepted EC or
AT response is authentic, and the same response answers no request with another hash,
neither with the same keys nor with any that open it to the same plaintext. -/
theorem response_authentic_and_fresh (uninit : HashedId8) (resp priv aes req : Bytes)
    (signer : CertInfo) :
    (∀ r,decodeEcResponse lib uninit resp priv aes req signer=.ok r →
      ∃ plain,Enc.plaintext? lib resp priv aes=some plain ∧
        Authentic lib lib.asn.innerEcResponse 0x81 .ofLong "ec_response" uninit plain req
          signer r ∧
        (∀ uninit' req' signer' r',
          decodeEcResponse lib uninit' resp priv aes req' signer'=.ok r' →
          (lib.ssl.sha256 req).toList.take 16=(lib.ssl.sha256 req').toList.take 16) ∧
        ∀ uninit' priv' aes' req' signer' r',
          decodeEcResponse lib uninit' resp priv' aes' req' signer'=.ok r' →
          Enc.plaintext? lib resp priv' aes'=some plain →
          (lib.ssl.sha256 req).toList.take 16=(lib.ssl.sha256 req').toList.take 16) ∧
    (∀ r,decodeAtResponse lib uninit resp priv aes req signer=.ok r →
      ∃ plain,Enc.plaintext? lib resp priv aes=some plain ∧
        Authentic lib lib.asn.innerAtResponse 0x83 .ofLong "at_response" uninit plain req
          signer r ∧
        (∀ uninit' req' signer' r',
          decodeAtResponse lib uninit' resp priv aes req' signer'=.ok r' →
          (lib.ssl.sha256 req).toList.take 16=(lib.ssl.sha256 req').toList.take 16) ∧
        ∀ uninit' priv' aes' req' signer' r',
          decodeAtResponse lib uninit' resp priv' aes' req' signer'=.ok r' →
          Enc.plaintext? lib resp priv' aes'=some plain →
          (lib.ssl.sha256 req).toList.take 16=(lib.ssl.sha256 req').toList.take 16) := by
  constructor
  · intro r h
    obtain ⟨plain,hp,ha⟩ := decodeResponse_authentic lib h
    refine ⟨plain,hp,ha,?_,?_⟩
    · intro _ _ _ _ h'
      exact decodeResponse_same_request lib h h' rfl
    · intro _ _ _ _ _ _ h' hp'
      exact decodeResponse_same_request lib h h' (hp.trans hp'.symm)
  · intro r h
    obtain ⟨plain,hp,ha⟩ := decodeResponse_authentic lib h
    refine ⟨plain,hp,ha,?_,?_⟩
    · intro _ _ _ _ h'
      exact decodeResponse_same_request lib h h' rfl
    · intro _ _ _ _ _ _ h' hp'
      exact decodeResponse_same_request lib h h' (hp.trans hp'.symm)

end

namespace Sample

def request : Bytes := [1,2,3]

def recipientKey : Bytes := List.replicate 32 1

def requestAesKey : Bytes := List.replicate 16 2

/-- The answer to `request`: code ok and the certificate of the sub CA. -/
def answer : Coded Asn.InnerResponse := innerResponse request 0 (some subCa)

/-- `payload` signed by the root CA and encrypted for the requester. -/
def reply (payload : Bytes) : Coded Asn.Ieee1609Dot2Data :=
  pskEnvelope (signedEnvelope 5 rootCa payload).1

def replyLib (payload : Bytes) : Lib :=
  lib {certs := [rootCa,subCa]
       bodies := [tbs 5 [],tbs 9 []]
       envelopes := [signedEnvelope 5 rootCa payload,reply payload]
       signedBodies := [signedBody payload]
       ecResponses := [answer]
       atResponses := [answer]}

def replySigner (payload : Bytes) : CertInfo := Cert.fromCoer (replyLib payload) .zero rootCa.1

def answerHash : StaticBytes 16 := .orEmpty answer.2.requestHash

def answerEc (payload : Bytes) : EcResponse :=
  ⟨.ok,answerHash,some (responseCertificate (replyLib payload) .zero "ec_response" subCa.2)⟩

def answerAt (payload : Bytes) : AtResponse :=
  ⟨.ok,answerHash,some (responseCertificate (replyLib payload) .zero "at_response" subCa.2)⟩

def ecPayload : Bytes := [0x01,0x81]++answer.1

def atPayload : Bytes := [0x01,0x83]++answer.1

theorem headed_reply_authentic :
    (decodeEcResponse (replyLib ecPayload) .zero (reply ecPayload).1 recipientKey
        requestAesKey request (replySigner ecPayload)=.ok (answerEc ecPayload) ∧
      ∃ plain,Authentic (replyLib ecPayload) (replyLib ecPayload).asn.innerEcResponse 0x81
        .ofLong "ec_response" .zero plain request (replySigner ecPayload)
        (answerEc ecPayload)) ∧
    decodeAtResponse (replyLib atPayload) .zero (reply atPayload).1 recipientKey
        requestAesKey request (replySigner atPayload)=.ok (answerAt atPayload) ∧
      ∃ plain,Authentic (replyLib atPayload) (replyLib atPayload).asn.innerAtResponse 0x83
        .ofLong "at_response" .zero plain request (replySigner atPayload)
        (answerAt atPayload) := by
  have hec : decodeEcResponse (replyLib ecPayload) .zero (reply ecPayload).1 recipientKey
      requestAesKey request (replySigner ecPayload)=.ok (answerEc ecPayload) := by
    decide +kernel
  have hat : decodeAtResponse (replyLib atPayload) .zero (reply atPayload).1 recipientKey
      requestAesKey request (replySigner atPayload)=.ok (answerAt atPayload) := by
    decide +kernel
  obtain ⟨p,_,hp,_⟩ := (response_authentic_and_fresh _ _ _ _ _ _ _).1 _ hec
  obtain ⟨q,_,hq,_⟩ := (response_authentic_and_fresh _ _ _ _ _ _ _).2 _ hat
  exact ⟨⟨hec,p,hp⟩,hat,q,hq⟩

end Sample

end V2xPki
