import V2xPki.Client.EndEntity
import V2xPki.Client.ProofOfPossession
import V2xPki.Sample.Session

namespace V2xPki

namespace PkiClient

open Framework

section
variable (lib : Lib) (w : World)

/-- The credential that a certificate becomes when the answer with it is taken in. -/
def granted (a : Answer) (parsed label : String) (cert : Asn.CertificateBase) : CertInfo :=
  {responseCertificate lib (a.mem 0) parsed cert with label := label}

/-- The answer a client gets to the body it POSTs first after it entered. -/
def answerTo (s : ClientState) (url : String) (body : Bytes) : Answer :=
  w.answer (.enter::s.events) (.post url body)

/-- The POSTed request gets a 200 with what the CA, knowing only its own private keys, sends back
for it: code ok and a certificate, which validates in the client. -/
structure AnsweredBy (laws : CryptoLaws lib.ssl) (s : ClientState)
    (td : Descriptor Asn.InnerResponse) (tag : UInt8) (parsed label : String) (ca : CertInfo)
    (url : String) (request : Bytes) (cert : Asn.CertificateBase) : Prop where
  answers : ∃ decryptionKey signingKey response,AnsweringCa laws ca decryptionKey signingKey ∧
    (answerTo w s url request).response=.ok ⟨200,response⟩ ∧
    AnswersTo lib td tag ca decryptionKey signingKey request response 0 (some cert)
  validates : validates lib s (granted lib (answerTo w s url request) parsed label cert)
    (answerTo w s url request).nowTai=true

/-- What the client is after a POST that brought it a credential. -/
def obtained (s : ClientState) (url : String) (request : Bytes) (ci : CertInfo) : ClientState :=
  credited s (.http (.post url request)::.enter::s.events) ci

end

section
variable {lib : Lib} {w : World} {laws : CryptoLaws lib.ssl} {s : ClientState}

/-- The checks on a response that came across pass if its certificate validates. -/
theorem certFromResponse_granted {Code : Type} [DecidableEq Code] {ok : Code} {r : Response Code}
    {a : Answer} {parsed label : String} {cert : Asn.CertificateBase} (hcode : r.responseCode=ok)
    (hcert : r.certificate=some (responseCertificate lib (a.mem 0) parsed cert))
    (hvalid : validates lib s (granted lib a parsed label cert) a.nowTai=true) :
    certFromResponse lib ok label s.trust s.revocation a.nowTai r=
      .ok (granted lib a parsed label cert) :=
  (certFromResponse_ok lib).mpr ⟨hcode,_,hcert,rfl,
    TrustChain.issuerChainPresent_of_validateChain lib _ _ _ _ hvalid,hvalid⟩

/-- A POST and an answer that decodes make an exchange. -/
theorem ecExchange_of_posting {canonical : KeyHandle} {rec : EcRecord} {p : EcPosting}
    {body : Bytes} {r : EcResponse} (hp : ecPosting lib w canonical rec s=some p)
    (hbody : okBody (answerTo w s s.config.eaUrl p.request.encoded.toVector).response=.ok body)
    (hr : decodeEcResponse lib ((answerTo w s s.config.eaUrl p.request.encoded.toVector).mem 0)
      body p.key.privateKey.toVector p.request.requestAesKey.toVector p.request.encoded.toVector
      p.ea=.ok r) :
    ecExchange lib w canonical rec s=
      some ⟨p.key,p.ea,(answerTo w s s.config.eaUrl p.request.encoded.toVector).nowTai,r,
        .http (.post s.config.eaUrl p.request.encoded.toVector)::.enter::s.events⟩ := by
  simp only [ecPosting,Option.bind_eq_bind,Option.bind_eq_some_iff,toOption_eq_some,
    guard_eq_some] at hp
  obtain ⟨_,hvalid,kp,hkp,ea,hea,req,hreq,hp⟩ := hp
  cases hp
  simp only [ecExchange,Option.bind_eq_bind,Option.bind_eq_some_iff,toOption_eq_some,guard_eq_some]
  exact ⟨(),hvalid,kp,hkp,ea,hea,req,hreq,body,hbody,r,hr,rfl⟩

theorem atExchange_of_posting {ecHandle atHandle : KeyHandle} {ecCert : CertInfo} {rec : AtRecord}
    {p : AtPosting} {body : Bytes} {r : AtResponse}
    (hp : atPosting lib w ecHandle ecCert atHandle rec s=some p)
    (hbody : okBody (answerTo w s s.config.aaUrl p.request.encoded.toVector).response=.ok body)
    (hr : decodeAtResponse lib ((answerTo w s s.config.aaUrl p.request.encoded.toVector).mem 0)
      body p.atKey.privateKey.toVector p.request.requestAesKey.toVector
      p.request.encoded.toVector p.aa=.ok r) :
    atExchange lib w ecHandle ecCert atHandle rec s=
      some ⟨p.atKey,p.aa,(answerTo w s s.config.aaUrl p.request.encoded.toVector).nowTai,r,
        .http (.post s.config.aaUrl p.request.encoded.toVector)::.enter::s.events⟩ := by
  simp only [atPosting,Option.bind_eq_bind,Option.bind_eq_some_iff,toOption_eq_some,
    guard_eq_some] at hp
  obtain ⟨_,hvalid,kp,hkp,aa,haa,ea,hea,atKp,hat,req,hreq,hp⟩ := hp
  cases hp
  simp only [atExchange,Option.bind_eq_bind,Option.bind_eq_some_iff,toOption_eq_some,guard_eq_some]
  exact ⟨(),hvalid,kp,hkp,aa,haa,ea,hea,atKp,hat,req,hreq,body,hbody,r,hr,rfl⟩

theorem okBody_of_200 {a : Answer} {body : Bytes} (h : a.response=.ok ⟨200,body⟩) :
    okBody a.response=.ok body := by
  rw [h]
  rfl

/-- An enrolment whose request is answered by the EA returns and stores what the EA sent. -/
theorem enrolment_completes (hcodec : lib.asn.ieee1609Dot2Data.RoundTrip)
    (hnull : ChecksPoints lib.asn.ieee1609Dot2Data) (hresponse : lib.asn.innerEcResponse.RoundTrip)
    {canonical : KeyHandle} {rec : EcRecord} {p : EcPosting} {cert : Asn.CertificateBase}
    (hp : ecPosting lib w canonical rec s=some p)
    (hdrawn : Crypto.DrawsScalar laws p.ea.encCurve (w.setting s.events).ecEntropy.ecies)
    (h : AnsweredBy lib w laws s lib.asn.innerEcResponse 0x81 "ec_response" "ec" p.ea s.config.eaUrl
      p.request.encoded.toVector cert) :
    let ci := granted lib (answerTo w s s.config.eaUrl p.request.encoded.toVector) "ec_response"
      "ec" cert
    Op.exec (requestEnrolmentCredential lib w canonical rec) s=
      (.ok ci,obtained s s.config.eaUrl p.request.encoded.toVector ci) := by
  obtain ⟨-,-,-,hreq⟩ := ecPosting_some hp
  obtain ⟨_,_,_,ecies,-,-,-,-,-,-,hecies,hencode⟩ := encodeEcRequest_ok hreq
  obtain ⟨decryptionKey,signingKey,response,hca,hbody,hanswer⟩ := h.answers
  obtain ⟨r,hr,hcode,hcert⟩ := decodeResponse_answersTo hcodec hnull hresponse hca hdrawn hecies
    hencode hanswer EnrolmentResponseCode.ofLong "ec_response"
    ((answerTo w s s.config.eaUrl p.request.encoded.toVector).mem 0) p.key.privateKey.toVector
  exact (requestEnrolmentCredential_ok lib w).mpr ⟨_,
    ecExchange_of_posting hp (okBody_of_200 hbody) hr,
    certFromResponse_granted hcode hcert h.validates,rfl⟩

theorem ticket_completes (hcodec : lib.asn.ieee1609Dot2Data.RoundTrip)
    (hnull : ChecksPoints lib.asn.ieee1609Dot2Data) (hresponse : lib.asn.innerAtResponse.RoundTrip)
    {ecHandle atHandle : KeyHandle} {ecCert : CertInfo} {rec : AtRecord} {p : AtPosting}
    {cert : Asn.CertificateBase} (hp : atPosting lib w ecHandle ecCert atHandle rec s=some p)
    (hdrawn : Crypto.DrawsScalar laws p.aa.encCurve (w.setting s.events).atEntropy.eciesAa)
    (h : AnsweredBy lib w laws s lib.asn.innerAtResponse 0x83 "at_response" "at" p.aa s.config.aaUrl
      p.request.encoded.toVector cert) :
    let ci := granted lib (answerTo w s s.config.aaUrl p.request.encoded.toVector) "at_response"
      "at" cert
    Op.exec (requestAuthorizationTicket lib w ecHandle ecCert atHandle rec) s=
      (.ok ci,obtained s s.config.aaUrl p.request.encoded.toVector ci) := by
  obtain ⟨-,-,-,-,hreq⟩ := atPosting_some hp
  obtain ⟨_,_,ecies,-,-,-,hecies,hencode⟩ := encodeAtRequest_ok hreq
  obtain ⟨decryptionKey,signingKey,response,hca,hbody,hanswer⟩ := h.answers
  obtain ⟨r,hr,hcode,hcert⟩ := decodeResponse_answersTo hcodec hnull hresponse hca hdrawn hecies
    hencode hanswer AuthorizationResponseCode.ofLong "at_response"
    ((answerTo w s s.config.aaUrl p.request.encoded.toVector).mem 0) p.atKey.privateKey.toVector
  exact (requestAuthorizationTicket_ok lib w).mpr ⟨_,
    atExchange_of_posting hp (okBody_of_200 hbody) hr,
    certFromResponse_granted hcode hcert h.validates,rfl⟩

/-- Whatever was drawn and whenever it happens: a request that is POSTed and answered by a CA that
knows nothing but its own keys ends with the credential of that CA returned and stored. -/
theorem answered_requests_complete (laws : CryptoLaws lib.ssl)
    (hcodec : lib.asn.ieee1609Dot2Data.RoundTrip) (hnull : ChecksPoints lib.asn.ieee1609Dot2Data)
    (hec : lib.asn.innerEcResponse.RoundTrip) (hat : lib.asn.innerAtResponse.RoundTrip)
    (w : World) (s : ClientState) :
    (∀ canonical rec p cert,ecPosting lib w canonical rec s=some p →
      Crypto.DrawsScalar laws p.ea.encCurve (w.setting s.events).ecEntropy.ecies →
      AnsweredBy lib w laws s lib.asn.innerEcResponse 0x81 "ec_response" "ec" p.ea s.config.eaUrl
        p.request.encoded.toVector cert →
      let ci := granted lib (answerTo w s s.config.eaUrl p.request.encoded.toVector) "ec_response"
        "ec" cert
      Op.exec (requestEnrolmentCredential lib w canonical rec) s=
        (.ok ci,obtained s s.config.eaUrl p.request.encoded.toVector ci)) ∧
    (∀ ecHandle ecCert atHandle rec p cert,atPosting lib w ecHandle ecCert atHandle rec s=some p →
      Crypto.DrawsScalar laws p.aa.encCurve (w.setting s.events).atEntropy.eciesAa →
      AnsweredBy lib w laws s lib.asn.innerAtResponse 0x83 "at_response" "at" p.aa s.config.aaUrl
        p.request.encoded.toVector cert →
      let ci := granted lib (answerTo w s s.config.aaUrl p.request.encoded.toVector) "at_response"
        "at" cert
      Op.exec (requestAuthorizationTicket lib w ecHandle ecCert atHandle rec) s=
        (.ok ci,obtained s s.config.aaUrl p.request.encoded.toVector ci)) :=
  ⟨fun _ _ _ _ hp hdrawn h => enrolment_completes hcodec hnull hec hp hdrawn h,
    fun _ _ _ _ _ _ hp hdrawn h => ticket_completes hcodec hnull hat hp hdrawn h⟩

end

end PkiClient

namespace Sample

open Framework PkiClient

/-- The layers of the session can be told apart. -/
theorem session_codec : sessionLib.asn.ieee1609Dot2Data.RoundTrip ∧
    ChecksPoints sessionLib.asn.ieee1609Dot2Data ∧
    sessionLib.asn.innerEcRequest.RoundTrip ∧ sessionLib.asn.innerEcResponse.RoundTrip ∧
    sessionLib.asn.sharedAtRequest.RoundTrip ∧ sessionLib.asn.innerAtRequest.RoundTrip ∧
    sessionLib.asn.innerAtResponse.RoundTrip :=
  ⟨Codec.table_roundTrip sessionEnvelopes (by decide +kernel),checksPoints_coded (by decide +kernel),
    Codec.table_roundTrip [newcomerInner] (by decide +kernel),
    Codec.table_roundTrip [newcomerResponse] (by decide +kernel),
    Codec.table_roundTrip [tripShared] (by decide +kernel),
    Codec.table_roundTrip [tripInner] (by decide +kernel),
    Codec.table_roundTrip [tripResponse] (by decide +kernel)⟩

theorem soleCa_answering : AnsweringCa sessionLaws soleCa (binpad 32 7) (binpad 32 6) ∧
    Crypto.DrawsScalar sessionLaws soleCa.encCurve drawnEcies := by
  have hfields : soleCa.certBytes.toVector≠[] ∧
      Cert.computeHid8 sessionLib soleCa.certBytes.toVector=soleCa.hashedId8 ∧
      soleCa.curve=.nistP256 ∧ soleCa.encCurve=.nistP256 ∧
      soleCa.publicKey.toVector=compressedPoint .nistP256 (pointOf .nistP256 6) ∧
      soleCa.encryptionKey.toVector=pointOf .nistP256 7 := by decide +kernel
  obtain ⟨hbytes,hid,hcurve,hencCurve,hpublic,hencryption⟩ := hfields
  have hsigning : KeyPairOn sessionLaws .nistP256 (binpad 32 6) (pointOf .nistP256 6) :=
    keyPairOn_pointOf (by decide) (by decide)
  have hdecryption : KeyPairOn sessionLaws .nistP256 (binpad 32 7) (pointOf .nistP256 7) :=
    keyPairOn_pointOf (by decide) (by decide)
  refine ⟨⟨hbytes,hid,?_,?_,?_⟩,?_⟩
  · rw [hcurve]
    decide
  · rw [hcurve]
    exact ⟨_,hsigning,.inr hpublic⟩
  · unfold EncryptionKeyOf
    rw [hencCurve,hencryption]
    exact ⟨_,hdecryption,Crypto.evpPkeyFromPublic_of_form hdecryption (.inl rfl)⟩
  · intro e he
    obtain rfl : 3=e := Option.some.inj he
    decide +kernel

/-- The CA of the session answers whatever request it can open. -/
theorem soleCa_answersTo {td : Descriptor Asn.InnerResponse} {tag : UInt8} {plaintext : Bytes}
    {ecies : Crypto.EciesEncryptResult} {req : RequestResult} {response : Bytes}
    {cert : Asn.CertificateBase} (hecies : encryptTo sessionLib soleCa plaintext drawnEcies=.ok ecies)
    (hreq : encodeEncrypted sessionLib soleCa ecies=.ok req) (hne : response≠[])
    (hanswer : response=caAnswer sessionLib td tag soleCa (binpad 32 6) req.requestAesKey.toVector
      (caResponse sessionLib req.encoded.toVector 0 (some cert)) answerDraws) :
    AnswersTo sessionLib td tag soleCa (binpad 32 7) (binpad 32 6) req.encoded.toVector response 0
      (some cert) := by
  obtain ⟨hca,hdrawn⟩ := soleCa_answering
  obtain ⟨data,hdecode,hopens⟩ := request_opens session_codec.1 session_codec.2.1 hca.decrypts hdrawn
    hecies hreq
  exact ⟨data,_,plaintext,answerDraws,hdecode,hopens,hanswer,hne⟩

def newcomerEc : CertInfo := granted sessionLib (answerTo sessionServer newcomerState
  newcomerState.config.eaUrl newcomerRequest.1) "ec_response" "ec" newcomerCert.2

/-- The client with its credential. -/
def newcomerEnrolled : ClientState :=
  obtained newcomerState newcomerState.config.eaUrl newcomerRequest.1 newcomerEc

/-- What the newcomer has in hand for its POST, and what it gets. -/
theorem newcomer_posting :
    ∃ p,ecPosting sessionLib sessionServer canonical newcomer newcomerState=some p ∧
      p.key=keyPair 20 ∧ p.ea=soleCa ∧ p.request.encoded.toVector=newcomerRequest.1 ∧
      AnsweredBy sessionLib sessionServer sessionLaws newcomerState sessionLib.asn.innerEcResponse
        0x81 "ec_response" "ec" p.ea newcomerState.config.eaUrl p.request.encoded.toVector
        newcomerCert.2 ∧
      newcomerEc.certBytes.toVector=newcomerCert.1 := by
  have h : (ecPosting sessionLib sessionServer canonical newcomer newcomerState).map (fun p =>
      (p.key,p.ea,p.request.encoded.toVector,p.request.requestAesKey.toVector))=
        some (keyPair 20,soleCa,newcomerRequest.1,List.replicate 16 2) := by decide +kernel
  obtain ⟨p,hp,heq⟩ := Option.map_eq_some_iff.mp h
  simp only [Prod.mk.injEq] at heq
  obtain ⟨hkey,hca,hrequest,haes⟩ := heq
  refine ⟨p,hp,hkey,hca,hrequest,?_,by decide +kernel⟩
  obtain ⟨-,-,-,hreq⟩ := ecPosting_some hp
  obtain ⟨_,_,_,ecies,-,-,-,-,-,-,hecies,hencode⟩ := encodeEcRequest_ok hreq
  rw [hca] at hecies hencode ⊢
  refine ⟨⟨_,_,newcomerAnswer.1,soleCa_answering.1,rfl,
    soleCa_answersTo hecies hencode (by decide +kernel) ?_⟩,?_⟩
  · rw [hrequest,haes]
    decide +kernel
  · rw [hrequest]
    decide +kernel

theorem trip_posting :
    ∃ p,atPosting sessionLib sessionServer canonical newcomerEc atHandle tripRecord newcomerEnrolled=
        some p ∧ p.aa=soleCa ∧ p.ea=soleCa ∧ p.atKey=keyPair 22 ∧
      p.request.encoded.toVector=tripRequest.1 ∧
      AnsweredBy sessionLib sessionServer sessionLaws newcomerEnrolled
        sessionLib.asn.innerAtResponse 0x83 "at_response" "at" p.aa newcomerEnrolled.config.aaUrl
        p.request.encoded.toVector tripCert.2 ∧
      (granted sessionLib (answerTo sessionServer newcomerEnrolled newcomerEnrolled.config.aaUrl
        tripRequest.1) "at_response" "at" tripCert.2).certBytes.toVector=tripCert.1 := by
  have h : (atPosting sessionLib sessionServer canonical newcomerEc atHandle tripRecord
      newcomerEnrolled).map (fun p => (p.aa,p.ea,p.atKey,p.request.encoded.toVector,
        p.request.requestAesKey.toVector))=
        some (soleCa,soleCa,keyPair 22,tripRequest.1,List.replicate 16 2) := by decide +kernel
  obtain ⟨p,hp,heq⟩ := Option.map_eq_some_iff.mp h
  simp only [Prod.mk.injEq] at heq
  obtain ⟨haa,hea,hkey,hrequest,haes⟩ := heq
  refine ⟨p,hp,haa,hea,hkey,hrequest,?_,by decide +kernel⟩
  obtain ⟨-,-,-,-,hreq⟩ := atPosting_some hp
  obtain ⟨_,_,ecies,-,-,-,hecies,hencode⟩ := encodeAtRequest_ok hreq
  rw [haa] at hecies hencode ⊢
  refine ⟨⟨_,_,tripAnswer.1,soleCa_answering.1,rfl,
    soleCa_answersTo hecies hencode (by decide +kernel) ?_⟩,?_⟩
  · rw [hrequest,haes]
    decide +kernel
  · rw [hrequest]
    decide +kernel

/-- The newcomer enrols, and with the credential it then holds it gets its ticket. -/
theorem newcomer_gets_ticket :
    ∃ ec ticket t u,
      Op.exec (requestEnrolmentCredential sessionLib sessionServer canonical newcomer) newcomerState=
        (.ok ec,t) ∧
      Op.exec (requestAuthorizationTicket sessionLib sessionServer canonical ec atHandle tripRecord)
        t=(.ok ticket,u) ∧
      ec.certBytes.toVector=newcomerCert.1 ∧ ticket.certBytes.toVector=tripCert.1 := by
  obtain ⟨hcodec,hnull,-,hec,-,-,hat⟩ := session_codec
  have hcomplete := answered_requests_complete sessionLaws hcodec hnull hec hat sessionServer
  obtain ⟨p,hp,-,hca,hrequest,hanswered,hbytes⟩ := newcomer_posting
  obtain ⟨q,hq,haa,-,-,hrequest',hanswered',hbytes'⟩ := trip_posting
  have hdrawn := soleCa_answering.2
  have hfirst := (hcomplete newcomerState).1 canonical newcomer p newcomerCert.2 hp
    (hca ▸ hdrawn) hanswered
  have hsecond := (hcomplete newcomerEnrolled).2 canonical newcomerEc atHandle tripRecord q
    tripCert.2 hq (haa ▸ hdrawn) hanswered'
  rw [hrequest] at hfirst
  rw [hrequest'] at hsecond
  exact ⟨_,_,_,_,hfirst,hsecond,hbytes,hbytes'⟩

end Sample

end V2xPki
