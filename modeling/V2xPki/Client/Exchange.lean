import V2xPki.Client.Operations

namespace V2xPki.PkiClient

open Framework

variable (lib : Lib) (w : World)

/-- One request up to its decoded response: the key pair the credential is for, the CA
that was asked, the time the response is processed at, the response, and the log. -/
structure Exchange (Code : Type) where
  key : KeyPair
  ca : CertInfo
  nowTai : Int
  response : Response Code
  events : List Event

def ecExchange (canonical : KeyHandle) (rec : EcRecord) (s : ClientState) :
    Option (Exchange EnrolmentResponseCode) := do
  guard (validateEcRecord rec).isOk
  let setting := w.setting s.events
  let kp ← setting.loadKeypair canonical
  let ea ← s.trust.findByHashedId8 rec.eaHashedId8
  let desc := assembleEcRequest rec setting.unixNow
  let req ← (encodeEcRequest lib desc ea kp.privateKey.toVector setting.ecEntropy).toOption
  let post := .post s.config.eaUrl req.encoded.toVector
  let a := w.answer (.enter::s.events) post
  let body ← (okBody a.response).toOption
  let resp ← (decodeEcResponse lib (a.mem 0) body kp.privateKey.toVector
    req.requestAesKey.toVector req.encoded.toVector ea).toOption
  some ⟨kp,ea,a.nowTai,resp,.http post::.enter::s.events⟩

def atExchange (ecHandle : KeyHandle) (ecCert : CertInfo) (atHandle : KeyHandle)
    (rec : AtRecord) (s : ClientState) : Option (Exchange AuthorizationResponseCode) := do
  guard (validateAtRecord rec).isOk
  let setting := w.setting s.events
  let kp ← setting.loadKeypair ecHandle
  let aa ← s.trust.findByHashedId8 rec.aaHashedId8
  let ea ← s.trust.findByHashedId8 rec.eaHashedId8
  let atKp ← setting.loadKeypair atHandle
  let desc := {assembleAtRequest lib rec setting.unixNow setting.atEntropy.hmacScalar with
    verificationKey := atKp.publicKey}
  let req ← (encodeAtRequest lib desc aa ea ecCert kp.privateKey.toVector
    atKp.privateKey.toVector setting.atEntropy).toOption
  let post := .post s.config.aaUrl req.encoded.toVector
  let a := w.answer (.enter::s.events) post
  let body ← (okBody a.response).toOption
  let resp ← (decodeAtResponse lib (a.mem 0) body atKp.privateKey.toVector
    req.requestAesKey.toVector req.encoded.toVector aa).toOption
  some ⟨atKp,aa,a.nowTai,resp,.http post::.enter::s.events⟩

/-- The client after a request that stored a certificate. -/
def credited (s : ClientState) (events : List Event) (ci : CertInfo) : ClientState :=
  {s with trust := s.trust.addCert ci,events := events}

theorem toOption_eq_some {ε α : Type} {r : Except ε α} {a : α} :
    r.toOption=some a ↔ r=.ok a := by
  cases r <;> simp [Except.toOption]

theorem guard_eq_some {p : Prop} [Decidable p] {u : Unit} :
    (guard p : Option Unit)=some u ↔ p := by
  by_cases h : p <;> simp [h]

/-- What the checks on a decoded response come to. -/
theorem certFromResponse_ok {Code : Type} [DecidableEq Code] {ok : Code} {label : String}
    {trust : TrustChain} {revocation : RevocationStore} {nowTai : Int} {r : Response Code}
    {ci : CertInfo} :
    certFromResponse lib ok label trust revocation nowTai r=.ok ci ↔
      r.responseCode=ok ∧ ∃ cert,r.certificate=some cert ∧ ci={cert with label := label} ∧
        trust.issuerChainPresent ci=true ∧
        trust.validateChain lib (some revocation) ci nowTai=true := by
  unfold certFromResponse
  by_cases hok : r.responseCode=ok
  · cases hc : r.certificate with
    | none => simp [hok]
    | some cert =>
      simp only [hok,ne_eq,not_true,if_false,true_and,Option.some.injEq,exists_eq_left']
      constructor
      · intro h
        split at h
        · cases h
        rename_i hp
        split at h
        · cases h
        rename_i hv
        cases h
        exact ⟨rfl,by simpa using hp,by simpa using hv⟩
      · intro h
        obtain ⟨rfl,hp,hv⟩ := h
        simp [hp,hv]
  · simp [hok]

/-- The certificate of a response was parsed from a re-encoding of what was decoded. -/
theorem decodeResponse_certificate {Code : Type} {td : Descriptor Asn.InnerResponse}
    {tag : UInt8} {code : Int → Code} {label : String} {uninit : HashedId8}
    {resp priv aes req : Bytes} {signer : CertInfo} {r : Response Code} {cert : CertInfo}
    (h : decodeResponse lib td tag code label uninit resp priv aes req signer=.ok r)
    (hc : r.certificate=some cert) : ∃ c,cert=responseCertificate lib uninit label c := by
  obtain ⟨m,inner,-,-,hr⟩ := (decodeResponse_ok lib).mp h
  rw [((readResponse_ok lib).mp hr).2.2.1] at hc
  obtain ⟨c,-,rfl⟩ := Option.map_eq_some_iff.mp hc
  exact ⟨c,rfl⟩

/-- What an exchange establishes about its parts. -/
theorem ecExchange_some {canonical : KeyHandle} {rec : EcRecord} {s : ClientState}
    {x : Exchange EnrolmentResponseCode} (h : ecExchange lib w canonical rec s=some x) :
    (w.setting s.events).loadKeypair canonical=some x.key ∧
    s.trust.findByHashedId8 rec.eaHashedId8=some x.ca ∧
    ∀ cert,x.response.certificate=some cert →
      ∃ u c,cert=responseCertificate lib u "ec_response" c := by
  simp only [ecExchange,Option.bind_eq_bind,Option.bind_eq_some_iff,toOption_eq_some] at h
  obtain ⟨_,_,kp,hkp,ea,hea,req,_,body,_,resp,hresp,hx⟩ := h
  cases hx
  refine ⟨hkp,hea,?_⟩
  intro cert hc
  obtain ⟨c,hc⟩ := decodeResponse_certificate lib hresp hc
  exact ⟨_,c,hc⟩

theorem atExchange_some {ecHandle atHandle : KeyHandle} {ecCert : CertInfo} {rec : AtRecord}
    {s : ClientState} {x : Exchange AuthorizationResponseCode}
    (h : atExchange lib w ecHandle ecCert atHandle rec s=some x) :
    (w.setting s.events).loadKeypair atHandle=some x.key ∧
    s.trust.findByHashedId8 rec.aaHashedId8=some x.ca ∧
    ∀ cert,x.response.certificate=some cert →
      ∃ u c,cert=responseCertificate lib u "at_response" c := by
  simp only [atExchange,Option.bind_eq_bind,Option.bind_eq_some_iff,toOption_eq_some] at h
  obtain ⟨_,_,kp,_,aa,haa,ea,_,atKp,hat,req,_,body,_,resp,hresp,hx⟩ := h
  cases hx
  refine ⟨hat,haa,?_⟩
  intro cert hc
  obtain ⟨c,hc⟩ := decodeResponse_certificate lib hresp hc
  exact ⟨_,c,hc⟩

/-- A credential comes back exactly when the exchange gets a response whose certificate
passes the checks, and it is stored. -/
theorem requestEnrolmentCredential_ok {canonical : KeyHandle} {rec : EcRecord}
    {s t : ClientState} {ci : CertInfo} :
    Op.exec (requestEnrolmentCredential lib w canonical rec) s=(.ok ci,t) ↔
      ∃ x,ecExchange lib w canonical rec s=some x ∧
        certFromResponse lib .ok "ec" s.trust s.revocation x.nowTai x.response=.ok ci ∧
        t=credited s x.events ci := by
  simp only [requestEnrolmentCredential,Op.ensure_bind_ok,Op.get_bind,enter_bind,ask_bind,
    addCert_bind,Op.need_bind_ok,Op.lift_bind_ok,Op.exec_pure,ecExchange,Option.bind_eq_bind,
    Option.bind_eq_some_iff,toOption_eq_some,guard_eq_some]
  constructor
  · intro h
    obtain ⟨hv,kp,hkp,ea,hea,req,hreq,body,hbody,resp,hresp,ci',hci,hend⟩ := h
    cases hend
    exact ⟨_,⟨(),hv,kp,hkp,ea,hea,req,hreq,body,hbody,resp,hresp,rfl⟩,hci,rfl⟩
  · intro h
    obtain ⟨x,⟨_,hv,kp,hkp,ea,hea,req,hreq,body,hbody,resp,hresp,hx⟩,hci,rfl⟩ := h
    cases hx
    exact ⟨hv,kp,hkp,ea,hea,req,hreq,body,hbody,resp,hresp,ci,hci,rfl⟩

theorem requestAuthorizationTicket_ok {ecHandle atHandle : KeyHandle} {ecCert : CertInfo}
    {rec : AtRecord} {s t : ClientState} {ci : CertInfo} :
    Op.exec (requestAuthorizationTicket lib w ecHandle ecCert atHandle rec) s=(.ok ci,t) ↔
      ∃ x,atExchange lib w ecHandle ecCert atHandle rec s=some x ∧
        certFromResponse lib .ok "at" s.trust s.revocation x.nowTai x.response=.ok ci ∧
        t=credited s x.events ci := by
  simp only [requestAuthorizationTicket,Op.ensure_bind_ok,Op.get_bind,enter_bind,ask_bind,
    addCert_bind,Op.need_bind_ok,Op.lift_bind_ok,Op.exec_pure,atExchange,Option.bind_eq_bind,
    Option.bind_eq_some_iff,toOption_eq_some,guard_eq_some]
  constructor
  · intro h
    obtain ⟨hv,kp,hkp,aa,haa,ea,hea,atKp,hat,req,hreq,body,hbody,resp,hresp,ci',hci,hend⟩ := h
    cases hend
    exact ⟨_,⟨(),hv,kp,hkp,aa,haa,ea,hea,atKp,hat,req,hreq,body,hbody,resp,hresp,rfl⟩,hci,rfl⟩
  · intro h
    obtain ⟨x,⟨_,hv,kp,hkp,aa,haa,ea,hea,atKp,hat,req,hreq,body,hbody,resp,hresp,hx⟩,hci,rfl⟩ := h
    cases hx
    exact ⟨hv,kp,hkp,aa,haa,ea,hea,atKp,hat,req,hreq,body,hbody,resp,hresp,ci,hci,rfl⟩

end V2xPki.PkiClient
