import V2xPki.Client.Exchange
import V2xPki.Client.Provenance

namespace V2xPki.PkiClient

open Framework

/-- The three parse routes by which a certificate gets into the trust store. -/
inductive Parsed (lib : Lib) : CertInfo → Prop where
  | fetched {label : String} {a : Answer} {ci : CertInfo} (h : certAnswer lib label a=.ok ci) :
      Parsed lib ci
  | listed {u : HashedId8} {cert : Option Asn.CertificateBase} {label : String} {ci : CertInfo}
      (h : TrustList.certPtrToInfo lib u cert label=some ci) : Parsed lib ci
  | issued (u : HashedId8) (c : Asn.CertificateBase) (label : String) :
      Parsed lib {Cert.fromStruct lib u c (Coer.encode lib.asn.certificateBase c) with
        label := label}

/-- A call that stores the one certificate it returns, and nothing when it fails. -/
structure StoresOne (lib : Lib) (m : ClientM CertInfo) : Prop where
  clean : Op.FailsClean durable m
  stores : ∀ s ci t,Op.exec m s=(.ok ci,t) → Parsed lib ci ∧ ∃ events,t=credited s events ci

section
variable {lib : Lib} {w : World}

theorem fetchCert_ok {path label : String} {s t : ClientState} {ci : CertInfo}
    (h : Op.exec (fetchCert lib w path label) s=(.ok ci,t)) :
    (∃ a,certAnswer lib label a=.ok ci) ∧ ∃ events,t=credited s events ci := by
  simp only [fetchCert,Op.get_bind,ask_bind,Op.lift_bind_ok,addCert_bind,Op.exec_pure] at h
  obtain ⟨c,hc,hend⟩ := h
  cases hend
  exact ⟨⟨_,hc⟩,_,rfl⟩

theorem fetchCert_storesOne (path label : String) :
    StoresOne lib (fetchCert lib w path label) := by
  refine ⟨fetchCert_failsClean lib w path label,?_⟩
  intro s ci t hrun
  obtain ⟨⟨a,ha⟩,hend⟩ := fetchCert_ok hrun
  exact ⟨.fetched ha,hend⟩

/-- A certificate that passed the response checks is parsed from a re-encoding. -/
theorem certFromResponse_parsed {Code : Type} [DecidableEq Code] {ok : Code}
    {label parsed : String} {trust : TrustChain} {revocation : RevocationStore} {nowTai : Int}
    {r : Response Code} {ci : CertInfo}
    (hcert : ∀ cert,r.certificate=some cert → ∃ u c,cert=responseCertificate lib u parsed c)
    (h : certFromResponse lib ok label trust revocation nowTai r=.ok ci) : Parsed lib ci := by
  obtain ⟨-,cert,hc,hci,-⟩ := (certFromResponse_ok lib).mp h
  obtain ⟨u,c,rfl⟩ := hcert cert hc
  rw [hci]
  exact .issued u c label

variable (lib w)

theorem requestEnrolmentCredential_storesOne (canonical : KeyHandle) (rec : EcRecord) :
    StoresOne lib (requestEnrolmentCredential lib w canonical rec) := by
  refine ⟨requestEnrolmentCredential_failsClean lib w canonical rec,?_⟩
  intro s ci t hrun
  obtain ⟨x,hx,hci,rfl⟩ := (requestEnrolmentCredential_ok lib w).mp hrun
  exact ⟨certFromResponse_parsed (ecExchange_some lib w hx).2.2 hci,_,rfl⟩

theorem requestAuthorizationTicket_storesOne (ecHandle : KeyHandle) (ecCert : CertInfo)
    (atHandle : KeyHandle) (rec : AtRecord) :
    StoresOne lib (requestAuthorizationTicket lib w ecHandle ecCert atHandle rec) := by
  refine ⟨requestAuthorizationTicket_failsClean lib w ecHandle ecCert atHandle rec,?_⟩
  intro s ci t hrun
  obtain ⟨x,hx,hci,rfl⟩ := (requestAuthorizationTicket_ok lib w).mp hrun
  exact ⟨certFromResponse_parsed (atExchange_some lib w hx).2.2 hci,_,rfl⟩

/-- Every operation stores one certificate and returns it, or is one of the two that
change more than the trust store. -/
theorem perform_cases (op : ClientOp) :
    (∃ m,perform lib w op=Outcome.cert <$> m ∧ StoresOne lib m) ∨
      op=.discoverTrust ∨ ∃ r,op=.fetchCrl r := by
  cases op with
  | requestEnrolmentCredential canonical rec =>
    exact .inl ⟨_,rfl,requestEnrolmentCredential_storesOne lib w canonical rec⟩
  | requestAuthorizationTicket ecHandle ecCert atHandle rec =>
    exact .inl ⟨_,rfl,requestAuthorizationTicket_storesOne lib w ecHandle ecCert atHandle rec⟩
  | fetchTrustAnchor => exact .inl ⟨_,rfl,fetchCert_storesOne _ _⟩
  | fetchCertByName name => exact .inl ⟨_,rfl,fetchCert_storesOne _ _⟩
  | fetchCertByHashedId8 hid8 => exact .inl ⟨_,rfl,fetchCert_storesOne _ _⟩
  | discoverTrust => exact .inr (.inl rfl)
  | fetchCrl r => exact .inr (.inr ⟨r,rfl⟩)

variable {lib w}

/-- What such a call does to the client. -/
theorem StoresOne.effect {m : ClientM CertInfo} (h : StoresOne lib m) (s : ClientState) :
    ∃ added : List CertInfo,(∀ ci∈added,Parsed lib ci) ∧
      durable (Op.exec (Outcome.cert <$> m) s).2=
        (s.config,added.foldl TrustChain.addCert s.trust,s.revocation,s.topology) := by
  rw [Op.exec_map]
  rcases hrun : Op.exec m s with ⟨r,t⟩
  cases r with
  | error e => exact ⟨[],by simp,h.clean s e t hrun⟩
  | ok ci =>
    obtain ⟨hp,events,rfl⟩ := h.stores s ci t hrun
    exact ⟨[ci],by simpa using hp,rfl⟩

theorem accepted_parsed {s : ClientState} {ci : CertInfo} (h : ci∈accepted lib w s) :
    Parsed lib ci := by
  cases accepted_origin h with
  | tlm fetched => exact .fetched fetched
  | rca _ listed =>
    obtain ⟨_,_,_,_,_,_,_,hptr⟩ := listed
    exact .listed hptr
  | subCa _ _ sub =>
    obtain ⟨_,_,_,_,⟨_,_,_,hptr⟩ | ⟨_,_,_,hptr⟩⟩ := sub
    · exact .listed hptr
    · exact .listed hptr

theorem discoverTrust_revocation (s : ClientState) :
    (Op.exec (discoverTrust lib w) s).2.revocation=s.revocation := by
  rw [discoverTrust_exec]
  simp only [discovery]
  split
  · rfl
  · split
    · rfl
    · split <;> rfl

theorem fetchCrl_trust (rcaHid8 : HashedId8) (s : ClientState) :
    (Op.exec (fetchCrl lib w rcaHid8) s).2.trust=s.trust ∧
    (Op.exec (fetchCrl lib w rcaHid8) s).2.config=s.config ∧
    (Op.exec (fetchCrl lib w rcaHid8) s).2.topology=s.topology := by
  have h : Op.Keeps (fun s : ClientState => (s.trust,s.config,s.topology))
      (fetchCrl lib w rcaHid8) := by
    refine Op.keeps_bind Op.keeps_get fun s => ?_
    refine Op.keeps_bind (fun _ => rfl) fun a => ?_
    refine Op.keeps_bind (Op.keeps_lift _) fun body => ?_
    refine Op.keeps_bind (Op.keeps_need _ _) fun rca => ?_
    refine Op.keeps_bind (Op.keeps_lift _) fun crl => ?_
    refine Op.keeps_bind (Op.keeps_need _ _) fun _ => ?_
    exact Op.keeps_bind (fun _ => rfl) fun _ => Op.keeps_pure crl
  have hs := h s
  simpa using hs

/-- Whatever a call does, the certificates it stores went through one of the parse
routes. -/
theorem step_trust (op : ClientOp) (s : ClientState) :
    ∃ added : List CertInfo,(∀ ci∈added,Parsed lib ci) ∧
      (step lib w op s).trust=added.foldl TrustChain.addCert s.trust := by
  unfold step
  rcases perform_cases lib w op with ⟨m,hm,hone⟩ | rfl | ⟨r,rfl⟩
  · obtain ⟨added,hadded,heff⟩ := hone.effect s
    rw [hm]
    exact ⟨added,hadded,congrArg (·.2.1) heff⟩
  · refine ⟨accepted lib w s,fun ci hci => accepted_parsed hci,?_⟩
    rw [perform,Op.exec_map]
    exact discoverTrust_trust lib w s
  · refine ⟨[],by simp,?_⟩
    rw [perform,Op.exec_map]
    exact (fetchCrl_trust r s).1

/-- Only `fetch_crl` changes the revocation store. -/
theorem step_revocation {op : ClientOp} (h : ∀ r,op≠.fetchCrl r) (s : ClientState) :
    (step lib w op s).revocation=s.revocation := by
  unfold step
  rcases perform_cases lib w op with ⟨m,hm,hone⟩ | rfl | ⟨r,rfl⟩
  · obtain ⟨added,-,heff⟩ := hone.effect s
    rw [hm]
    exact congrArg (·.2.2.1) heff
  · rw [perform,Op.exec_map]
    exact discoverTrust_revocation s
  · exact absurd rfl (h r)

/-- Only `discover_trust` changes the topology and the configuration. -/
theorem step_topology {op : ClientOp} (h : op≠.discoverTrust) (s : ClientState) :
    (step lib w op s).topology=s.topology ∧ (step lib w op s).config=s.config := by
  unfold step
  rcases perform_cases lib w op with ⟨m,hm,hone⟩ | rfl | ⟨r,rfl⟩
  · obtain ⟨added,-,heff⟩ := hone.effect s
    rw [hm]
    exact ⟨congrArg (·.2.2.2) heff,congrArg (·.1) heff⟩
  · exact absurd rfl h
  · rw [perform,Op.exec_map]
    exact ⟨(fetchCrl_trust r s).2.2,(fetchCrl_trust r s).2.1⟩

end

end V2xPki.PkiClient
