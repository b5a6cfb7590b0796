import V2xPki.Client.Exchange
import V2xPki.Client.Provenance
import V2xPki.Client.TlmPin

namespace V2xPki

namespace PkiClient

open Framework TrustList

section
variable (lib : Lib) (w : World)

/-- The answers to the CTL requests of the loop, each with the root CA it is for. -/
def replies (baseUrl : String) : List CertInfo → Visit → List (CertInfo × Answer)
  | [],_ => []
  | rca::rcas,v => (rca,w.answer v.events (ctlRequest baseUrl v.result rca))::
      replies baseUrl rcas (visit lib w baseUrl v rca)

def ctlReplies (s : ClientState) (tlm : CertInfo) (ectl : TrustTopology) :
    List (CertInfo × Answer) :=
  replies lib w s.config.tlmUrl ectl.rcas (loopStart s tlm ectl)

/-- A CTL came with status 200 and verifies under the root CA. -/
def CtlVerified (rca : CertInfo) (a : Answer) : Prop :=
  ∃ body ctl,a.response=.ok ⟨200,body⟩ ∧ SignedList lib false rca body ctl

/-- What the CTL flag of a returned topology is read as: every root CA in it has a CTL that
was fetched for it in this call and verified. -/
def FlagMeansVerified (s : ClientState) : Prop :=
  ∀ t s' tlm ectl,Op.exec (discoverTrust lib w) s=(.ok t,s') →
    tlmAnswered lib w s=.ok tlm → ectlAnswered lib w s tlm=.ok ectl →
    t.ctlSignatureVerified=true →
    ∀ rca∈t.rcas,∃ a,(rca,a)∈ctlReplies lib w s tlm ectl ∧ CtlVerified lib rca a

/-- The condition on the server: unless the call fails anyway, it answers a CTL request of
every root CA with status 200. -/
def EveryCtlServed (s : ClientState) : Prop :=
  ∀ tlm ectl,tlmAnswered lib w s=.ok tlm → ectlAnswered lib w s tlm=.ok ectl →
    CtlsHold lib w s tlm ectl →
    ∀ rca∈ectl.rcas,∃ a body,(rca,a)∈ctlReplies lib w s tlm ectl ∧ a.response=.ok ⟨200,body⟩

/-- The list of the expected content in a response, whoever signed it. -/
def listIn (isEctl : Bool) (a : Answer) : Option Asn.CtlFormat := do
  let body ← (okBody a.response).toOption
  let msg ← SignedMsg.unwrap lib body
  let data ← Coer.decodeWithBasicFallback lib.asn.etsiTs102941Data msg.payloadCoer
  extractCtlFromEtsiData data isEctl

/-- The list in a response gives a `nextUpdate` that is in the past. -/
def StaleList (isEctl : Bool) (a : Answer) : Prop :=
  ∃ ctl∈listIn lib isEctl a,0<ctl.nextUpdate ∧ (ctl.nextUpdate.toNat : Int)<a.nowTai

instance (isEctl : Bool) (a : Answer) : Decidable (StaleList lib isEctl a) :=
  inferInstanceAs (Decidable (∃ ctl∈listIn lib isEctl a,_))

/-- The CTL of a round was merged. -/
def CtlAnswer.merged : CtlAnswer → Bool
  | .missing => false
  | .refused => false
  | .accepted _ => true

/-- A CTL was merged although it is past its `nextUpdate`. -/
def StaleMerged (s : ClientState) (tlm : CertInfo) (ectl : TrustTopology) : Prop :=
  ∃ p∈ctlReplies lib w s tlm ectl,(ctlAnswer lib p.1 p.2).merged=true ∧ StaleList lib false p.2

instance (s : ClientState) (tlm : CertInfo) (ectl : TrustTopology) :
    Decidable (StaleMerged lib w s tlm ectl) := inferInstanceAs (Decidable (∃ p∈_,_))

/-- Both expiry flags of a returned topology say what they are named after. -/
def StalenessReported (s : ClientState) : Prop :=
  ∀ t s' tlm ectl,Op.exec (discoverTrust lib w) s=(.ok t,s') →
    tlmAnswered lib w s=.ok tlm → ectlAnswered lib w s tlm=.ok ectl →
    (t.ectlExpired=true ↔ StaleList lib true
      (w.answer (.http (tlmRequest s.config)::s.events) (ectlRequest s.config tlm))) ∧
    (t.ctlExpired=true ↔ StaleMerged lib w s tlm ectl)

/-- The condition on the server: unless the call fails anyway, no CTL it serves is stale. -/
def NoStaleCtl (s : ClientState) : Prop :=
  ∀ tlm ectl,tlmAnswered lib w s=.ok tlm → ectlAnswered lib w s tlm=.ok ectl →
    CtlsHold lib w s tlm ectl → ¬StaleMerged lib w s tlm ectl

end

section
variable {lib : Lib} {w : World} {s s' : ClientState} {t ectl : TrustTopology} {tlm : CertInfo}

theorem mem_replies {baseUrl : String} {rcas : List CertInfo} {v : Visit} {p : CertInfo × Answer}
    (hnone : NoneRefused lib w baseUrl rcas v) (h : p∈replies lib w baseUrl rcas v) :
    ctlAnswer lib p.1 p.2≠.refused := by
  induction rcas generalizing v with
  | nil => cases h
  | cons rca rcas ih =>
    rcases List.mem_cons.mp h with rfl | h
    · exact hnone.1
    · exact ih hnone.2 h

/-- A CTL that came with status 200 and was not refused is merged. -/
theorem ctlAnswer_of_body {rca : CertInfo} {a : Answer} {body : Bytes}
    (hbody : a.response=.ok ⟨200,body⟩) (h : ctlAnswer lib rca a≠.refused) :
    ∃ ctl,ctlAnswer lib rca a=.accepted ctl := by
  cases hc : ctlAnswer lib rca a with
  | missing =>
    unfold ctlAnswer at hc
    rw [okBody_ok.mpr hbody] at hc
    dsimp only at hc
    split at hc
    · cases hc
    · split at hc <;> cases hc
  | refused => exact absurd hc h
  | accepted ctl => exact ⟨ctl,rfl⟩

/-- What a returned topology takes over from the ECTL unchanged. -/
theorem rounds_settled (lib : Lib) (w : World) (s : ClientState) (tlm : CertInfo)
    (ectl : TrustTopology) :
    settled (rounds lib w s tlm ectl).result=(some tlm,ectl.rcas,ectl.ectlExpired,ectl.ctlExpired) :=
  visitAll_settled lib w s.config.tlmUrl ectl.rcas (loopStart s tlm ectl)

/-- A returned topology in terms of the TLM and the ECTL it was made from. -/
theorem discoverTrust_made (hrun : Op.exec (discoverTrust lib w) s=(.ok t,s'))
    (ht : tlmAnswered lib w s=.ok tlm) (he : ectlAnswered lib w s tlm=.ok ectl) :
    CtlsHold lib w s tlm ectl ∧
      settled t=(some tlm,ectl.rcas,ectl.ectlExpired,ectl.ctlExpired) := by
  obtain ⟨tlm',ectl',ht',he',hold,rfl,-⟩ := (discoverTrust_ok lib w).mp hrun
  obtain rfl : tlm'=tlm := Except.ok.inj (ht'.symm.trans ht)
  obtain rfl : ectl'=ectl := Except.ok.inj (he'.symm.trans he)
  exact ⟨hold,rounds_settled lib w s tlm' ectl'⟩

/-- A call that gets an ECTL and meets no refused CTL returns a topology with the flag set. -/
theorem discoverTrust_returns (ht : tlmAnswered lib w s=.ok tlm)
    (he : ectlAnswered lib w s tlm=.ok ectl) (hold : CtlsHold lib w s tlm ectl) :
    ∃ t s',Op.exec (discoverTrust lib w) s=(.ok t,s') ∧ t.ctlSignatureVerified=true :=
  ⟨_,_,(discoverTrust_ok lib w).mpr ⟨tlm,ectl,ht,he,hold,rfl,rfl⟩,
    (rounds_flag lib w s tlm ectl).mpr hold⟩

theorem FlagMeansVerified.served (h : FlagMeansVerified lib w s) : EveryCtlServed lib w s := by
  intro tlm ectl ht he hold rca hrca
  obtain ⟨t,s',hrun,hflag⟩ := discoverTrust_returns ht he hold
  have hrcas : t.rcas=ectl.rcas := congrArg (·.2.1) (discoverTrust_made hrun ht he).2
  obtain ⟨a,ha,body,-,hbody,-⟩ := h t s' tlm ectl hrun ht he hflag rca (hrcas ▸ hrca)
  exact ⟨a,body,ha,hbody⟩

/-- The flag starts true and a CTL that does not come at all leaves it so: it means what it
says exactly when every CTL comes. -/
theorem flagMeansVerified_iff (lib : Lib) (w : World) (s : ClientState) :
    FlagMeansVerified lib w s ↔ EveryCtlServed lib w s := by
  refine ⟨fun h => h.served,?_⟩
  intro h t s' tlm ectl hrun ht he _ rca hrca
  obtain ⟨hold,hsettled⟩ := discoverTrust_made hrun ht he
  have hrcas : t.rcas=ectl.rcas := congrArg (·.2.1) hsettled
  obtain ⟨a,body,ha,hbody⟩ := h tlm ectl ht he hold rca (hrcas ▸ hrca)
  obtain ⟨ctl,hctl⟩ := ctlAnswer_of_body hbody (mem_replies hold ha)
  obtain ⟨body',list,hbody',hsigned,-⟩ := ctlAnswer_list hctl
  exact ⟨a,ha,body',list,okBody_ok.mp hbody',hsigned⟩

theorem listIn_of_signed {isEctl : Bool} {signer : CertInfo} {a : Answer} {body : Bytes}
    {ctl : Asn.CtlFormat} (hbody : okBody a.response=.ok body)
    (h : SignedList lib isEctl signer body ctl) : listIn lib isEctl a=some ctl := by
  obtain ⟨msg,data,hmsg,hdata,hcontent,-⟩ := h
  have hextract : extractCtlFromEtsiData data isEctl=some ctl := by
    rw [extractCtlFromEtsiData,hcontent]
    cases isEctl <;> rfl
  simp [listIn,hbody,hmsg,hdata,hextract,Except.toOption]

/-- The expiry flags an accepted ECTL comes with. -/
theorem ectlAnswer_expired {a : Answer} (h : ectlAnswer lib tlm a=.ok ectl) :
    (ectl.ectlExpired=true ↔ StaleList lib true a) ∧ ectl.ctlExpired=false := by
  obtain ⟨body,ctl,hbody,hs,rfl⟩ := ectlAnswer_list h
  have hflags := parseCtlEntries_flags lib a.mem a.nowTai ctl true
  have hectl : (parseCtlEntries lib a.mem a.nowTai ctl true).ectlExpired=
      expired ctl.nextUpdate a.nowTai := congrArg (·.2.2.1) hflags
  have hctl : (parseCtlEntries lib a.mem a.nowTai ctl true).ctlExpired=false :=
    congrArg (·.2.2.2) hflags
  refine ⟨?_,hctl⟩
  simp only [setVerified,if_true,hectl,expired,decide_eq_true_eq,StaleList,
    listIn_of_signed hbody hs,Option.mem_def,Option.some.injEq,exists_eq_left']

/-- No CTL sets the expiry flag of a returned topology. -/
theorem discoverTrust_ctlExpired (hrun : Op.exec (discoverTrust lib w) s=(.ok t,s'))
    (ht : tlmAnswered lib w s=.ok tlm) (he : ectlAnswered lib w s tlm=.ok ectl) :
    t.ctlExpired=false :=
  (congrArg (·.2.2.2) (discoverTrust_made hrun ht he).2).trans (ectlAnswer_expired he).2

theorem StalenessReported.noStale (h : StalenessReported lib w s) : NoStaleCtl lib w s := by
  intro tlm ectl ht he hold hstale
  obtain ⟨t,s',hrun,-⟩ := discoverTrust_returns ht he hold
  have hexpired := discoverTrust_ctlExpired hrun ht he
  rw [(h t s' tlm ectl hrun ht he).2.mpr hstale] at hexpired
  cases hexpired

/-- `ctl_expired` is not among the fields the loop merges: the flags are right exactly when
no merged CTL is stale. -/
theorem stalenessReported_iff (lib : Lib) (w : World) (s : ClientState) :
    StalenessReported lib w s ↔ NoStaleCtl lib w s := by
  refine ⟨fun h => h.noStale,?_⟩
  intro h t s' tlm ectl hrun ht he
  obtain ⟨hold,hsettled⟩ := discoverTrust_made hrun ht he
  have hectl : t.ectlExpired=ectl.ectlExpired := congrArg (·.2.2.1) hsettled
  refine ⟨?_,?_,fun hstale => absurd hstale (h tlm ectl ht he hold)⟩
  · rw [hectl]
    exact (ectlAnswer_expired he).1
  · intro hx
    rw [discoverTrust_ctlExpired hrun ht he] at hx
    cases hx

end

end PkiClient

namespace Sample

open Framework PkiClient

/-- The accepted TLM and ECTL of a call, and a summary of what comes of them. -/
theorem discovery_of_eval {l : Lib} {w : World} {s : ClientState} {β : Type}
    {f : CertInfo → TrustTopology → β} {b : β}
    (h : (do
      let tlm ← (tlmAnswered l w s).toOption
      let ectl ← (ectlAnswered l w s tlm).toOption
      some (f tlm ectl))=some b) :
    ∃ tlm ectl,tlmAnswered l w s=.ok tlm ∧ ectlAnswered l w s tlm=.ok ectl ∧ f tlm ectl=b := by
  simp only [Option.bind_eq_bind,Option.bind_eq_some_iff,toOption_eq_some,Option.some.injEq] at h
  obtain ⟨tlm,ht,ectl,he,hf⟩ := h
  exact ⟨tlm,ectl,ht,he,hf⟩

/-- The server drops the request for the only CTL. -/
theorem unserved_ctl_reads_verified :
    (∃ t s',Op.exec (discoverTrust rogueLib rogueServer) (pinned rogueLib)=(.ok t,s') ∧
      t.ctlSignatureVerified=true ∧ t.rcas.map (·.certBytes.toVector)=[rootCa.1]) ∧
    ¬FlagMeansVerified rogueLib rogueServer (pinned rogueLib) := by
  have hrun : (Op.exec (discoverTrust rogueLib rogueServer) (pinned rogueLib)).1.toOption.map
      (fun t => (t.ctlSignatureVerified,t.rcas.map (·.certBytes.toVector)))=
      some (true,[rootCa.1]) := by decide +kernel
  obtain ⟨t,hexec,hsum⟩ := Op.exec_of_eval hrun
  obtain ⟨hflag,hrcas⟩ := Prod.mk.inj hsum
  refine ⟨⟨t,_,hexec,hflag,hrcas⟩,?_⟩
  intro h
  obtain ⟨tlm,ectl,ht,he,hf⟩ : ∃ tlm ectl,tlmAnswered rogueLib rogueServer (pinned rogueLib)=.ok tlm ∧
      ectlAnswered rogueLib rogueServer (pinned rogueLib) tlm=.ok ectl ∧
      (ctlReplies rogueLib rogueServer (pinned rogueLib) tlm ectl).all
        (fun p => p.2.response.toOption.isNone)=true :=
    discovery_of_eval (by decide +kernel)
  obtain ⟨hold,hsettled⟩ := discoverTrust_made hexec ht he
  have hne : ectl.rcas≠[] := by
    have htr : t.rcas=ectl.rcas := congrArg (·.2.1) hsettled
    intro hnil
    rw [htr,hnil] at hrcas
    cases hrcas
  obtain ⟨rca,hrca⟩ := List.exists_mem_of_ne_nil _ hne
  obtain ⟨a,body,ha,hbody⟩ := h.served tlm ectl ht he hold rca hrca
  have hnone := List.all_eq_true.mp hf (rca,a) ha
  rw [hbody] at hnone
  cases hnone

/-- A response with status 200, processed at TAI second 1005. -/
def servedLate (body : Bytes) : Answer := ⟨.ok ⟨200,body⟩,1072916200,fun _ => .zero⟩

/-- A CTL whose successor was due at TAI second 1000. -/
def staleCtl : Coded Asn.EtsiTs102941Data := rcaCtl 1000 [dcEntry "https://dc" [rootHid8]]

def staleEnvelope : Coded Asn.Ieee1609Dot2Data := signedEnvelope 5 rootCa staleCtl.1

def staleLib : Lib := lib
  {certs := [rogueTlm,rootCa],bodies := [tbs 7 [],tbs 5 []],envelopes := [rogueEctl,staleEnvelope]
   signedBodies := [signedBody rogueList.1,signedBody staleCtl.1],payloads := [rogueList,staleCtl]}

def staleServer : World :=
  scripted stillSetting 0 [servedLate rogueTlm.1,servedLate rogueEctl.1,servedLate staleEnvelope.1]

/-- The centre of the stale list is merged and nothing tells that the list is stale. -/
theorem stale_ctl_reads_fresh :
    (∃ t s',Op.exec (discoverTrust staleLib staleServer) (pinned staleLib)=(.ok t,s') ∧
      t.ctlExpired=false ∧ t.dcs=[⟨"https://dc",[rootHid8]⟩]) ∧
    ¬StalenessReported staleLib staleServer (pinned staleLib) := by
  have hrun : (Op.exec (discoverTrust staleLib staleServer) (pinned staleLib)).1.toOption.map
      (fun t => (t.ctlExpired,t.dcs))=some (false,[⟨"https://dc",[rootHid8]⟩]) := by decide +kernel
  obtain ⟨t,hexec,hsum⟩ := Op.exec_of_eval hrun
  obtain ⟨hfresh,hdcs⟩ := Prod.mk.inj hsum
  refine ⟨⟨t,_,hexec,hfresh,hdcs⟩,?_⟩
  intro h
  obtain ⟨tlm,ectl,ht,he,hf⟩ : ∃ tlm ectl,tlmAnswered staleLib staleServer (pinned staleLib)=.ok tlm ∧
      ectlAnswered staleLib staleServer (pinned staleLib) tlm=.ok ectl ∧
      decide (StaleMerged staleLib staleServer (pinned staleLib) tlm ectl)=true :=
    discovery_of_eval (by decide +kernel)
  exact h.noStale tlm ectl ht he (discoverTrust_made hexec ht he).1 (by simpa using hf)

end Sample

end V2xPki
