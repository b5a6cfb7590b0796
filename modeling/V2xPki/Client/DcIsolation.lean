import V2xPki.Client.CrlFetch
import V2xPki.Client.ListFlags

namespace V2xPki

namespace PkiClient

open Framework

/-- The first centre that serves an identifier. -/
def dcFor (dcs : List DcInfo) (k : HashedId8) : Option DcInfo :=
  dcs.find? fun dc => dc.serves.contains k

/-- The request for the CTL of an identifier at a centre. -/
def getCtl (dcUrl : String) (k : HashedId8) : HttpRequest :=
  .get (dcUrl++"/getctl/"++hid8HexUpper k)

section
variable (lib : Lib) (w : World)

/-- The requests the loop makes for the CTL of one identifier, in order. -/
def ctlRequestsFor (baseUrl : String) (k : HashedId8) : List CertInfo → Visit → List HttpRequest
  | [],_ => []
  | rca::rcas,v => (if rca.hashedId8=k then [ctlRequest baseUrl v.result rca] else [])++
      ctlRequestsFor baseUrl k rcas (visit lib w baseUrl v rca)

/-- The requests of one call for the CTL of one identifier. -/
def askedFor (s : ClientState) (tlm : CertInfo) (ectl : TrustTopology) (k : HashedId8) :
    List HttpRequest :=
  ctlRequestsFor lib w s.config.tlmUrl k ectl.rcas (loopStart s tlm ectl)

/-- A client some time after a discovery and before the next one. -/
def LaterOn (s u : ClientState) : Prop :=
  Reachable (·=s) (step lib w) (fun op _ => op≠.discoverTrust) u

/-- What `fetch_crl` asks for. -/
def crlAsked (k : HashedId8) (u : ClientState) : Option Event :=
  (step lib w (.fetchCrl k) u).events.head?

end

/-- Two calls of `discover_trust` with one configuration, TLM and ECTL. -/
structure TwoRuns (lib : Lib) (w₁ w₂ : World) (s₁ s₂ : ClientState) (tlm : CertInfo)
    (ectl : TrustTopology) : Prop where
  config : s₁.config=s₂.config
  tlm₁ : tlmAnswered lib w₁ s₁=.ok tlm
  tlm₂ : tlmAnswered lib w₂ s₂=.ok tlm
  ectl₁ : ectlAnswered lib w₁ s₁ tlm=.ok ectl
  ectl₂ : ectlAnswered lib w₂ s₂ tlm=.ok ectl

/-- Two events that differ at most in where the CTL of a root CA outside `K` was asked for. -/
def Alike (K : HashedId8 → Prop) (e₁ e₂ : Event) : Prop :=
  e₁=e₂ ∨ ∃ k url₁ url₂,¬K k ∧ e₁=.http (getCtl url₁ k) ∧ e₂=.http (getCtl url₂ k)

/-- The server behaves the same in both runs but for the CTLs of the root CAs outside `K`: those
of one root CA `a` when `K` is everything else. -/
def SameServerOn (K : HashedId8 → Prop) (w₁ w₂ : World) (s₁ s₂ : ClientState) : Prop :=
  ∀ log₁ log₂ r,List.Forall₂ (Alike K) log₁ log₂ → (∀ url k,¬K k → r≠getCtl url k) →
    w₁.answer (log₁++s₁.events) r=w₂.answer (log₂++s₂.events) r

/-- The CTL and the CRL of `k` are asked for at the same place in both runs. -/
structure SamePlace (lib : Lib) (w₁ w₂ : World) (s₁ s₂ : ClientState) (tlm : CertInfo)
    (ectl : TrustTopology) (k : HashedId8) : Prop where
  ctl : askedFor lib w₁ s₁ tlm ectl k=askedFor lib w₂ s₂ tlm ectl k
  crl : ∀ t₁ t₂ s₁' s₂' u₁ u₂,Op.exec (discoverTrust lib w₁) s₁=(.ok t₁,s₁') →
    Op.exec (discoverTrust lib w₂) s₂=(.ok t₂,s₂') →
    LaterOn lib w₁ s₁' u₁ → LaterOn lib w₂ s₂' u₂ → crlAsked lib w₁ k u₁=crlAsked lib w₂ k u₂

/-- The centres a round adds. -/
def CtlAnswer.dcs : CtlAnswer → List DcInfo
  | .missing => []
  | .refused => []
  | .accepted ctl => ctl.dcs

/-- What the two loops accept for a root CA outside `K` names the same centre, or none, for each
root CA in `K` that has none in the ECTL. -/
def NameAlike (lib : Lib) (w₁ w₂ : World) (baseUrl : String) (K : HashedId8 → Prop)
    (ectl : TrustTopology) : List CertInfo → Visit → Visit → Prop
  | [],_,_ => True
  | rca::rcas,v₁,v₂ => (¬K rca.hashedId8 → ∀ b∈ectl.rcas,K b.hashedId8 →
      dcFor ectl.dcs b.hashedId8=none →
        dcFor (roundAnswer lib w₁ baseUrl v₁ rca).dcs b.hashedId8=
          dcFor (roundAnswer lib w₂ baseUrl v₂ rca).dcs b.hashedId8) ∧
      NameAlike lib w₁ w₂ baseUrl K ectl rcas (visit lib w₁ baseUrl v₁ rca)
        (visit lib w₂ baseUrl v₂ rca)

instance instDecidableNameAlike (lib : Lib) (w₁ w₂ : World) (baseUrl : String)
    (K : HashedId8 → Prop) [DecidablePred K] (ectl : TrustTopology) :
    (rcas : List CertInfo) → (v₁ v₂ : Visit) →
      Decidable (NameAlike lib w₁ w₂ baseUrl K ectl rcas v₁ v₂)
  | [],_,_ => inferInstanceAs (Decidable True)
  | rca::rcas,v₁,v₂ =>
    have := instDecidableNameAlike lib w₁ w₂ baseUrl K ectl rcas (visit lib w₁ baseUrl v₁ rca)
      (visit lib w₂ baseUrl v₂ rca)
    inferInstanceAs (Decidable (_ ∧ _))

/-- The CTLs that two calls accept for root CAs outside `K` do. -/
def LeavesAlone (lib : Lib) (w₁ w₂ : World) (s₁ s₂ : ClientState) (tlm : CertInfo)
    (ectl : TrustTopology) (K : HashedId8 → Prop) : Prop :=
  NameAlike lib w₁ w₂ s₁.config.tlmUrl K ectl ectl.rcas (loopStart s₁ tlm ectl)
    (loopStart s₂ tlm ectl)

instance (lib : Lib) (w₁ w₂ : World) (s₁ s₂ : ClientState) (tlm : CertInfo)
    (ectl : TrustTopology) (K : HashedId8 → Prop) [DecidablePred K] :
    Decidable (LeavesAlone lib w₁ w₂ s₁ s₂ tlm ectl K) :=
  inferInstanceAs (Decidable (NameAlike _ _ _ _ _ _ _ _ _))

section
variable {lib : Lib} {w w₁ w₂ : World} {s s₁ s₂ : ClientState} {tlm : CertInfo}
variable {ectl : TrustTopology} {k : HashedId8}

theorem findDcUrl_congr {dcs dcs' : List DcInfo} (h : dcFor dcs k=dcFor dcs' k) (url : String) :
    findDcUrl dcs k url=findDcUrl dcs' k url := by
  unfold dcFor at h
  rw [findDcUrl,findDcUrl,h]

theorem dcFor_append (dcs more : List DcInfo) (k : HashedId8) :
    dcFor (dcs++more) k=(dcFor dcs k).or (dcFor more k) := List.find?_append

/-- The path of a CTL request ends in the identifier it is for. -/
theorem getCtl_injective {url url' : String} {a b : HashedId8} (h : getCtl url a=getCtl url' b) :
    a=b := by
  have hlists := congrArg String.toList (HttpRequest.get.inj h)
  simp only [String.toList_append] at hlists
  have hlen : (hid8HexUpper a).toList.length=(hid8HexUpper b).toList.length := by
    rw [hid8HexUpper_length,hid8HexUpper_length]
  exact hid8HexUpper_injective (String.toList_inj.mp (List.append_inj' hlists hlen).2)

theorem ctlRequest_congr {result result' : TrustTopology} {rca : CertInfo}
    (h : dcFor result.dcs rca.hashedId8=dcFor result'.dcs rca.hashedId8) (baseUrl : String) :
    ctlRequest baseUrl result rca=ctlRequest baseUrl result' rca := by
  rw [ctlRequest,ctlRequest,findDcUrl_congr h]

theorem visit_dcs (lib : Lib) (w : World) (baseUrl : String) (v : Visit) (rca : CertInfo) :
    (visit lib w baseUrl v rca).result.dcs=
      v.result.dcs++(roundAnswer lib w baseUrl v rca).dcs := by
  unfold visit
  cases roundAnswer lib w baseUrl v rca <;> simp [CtlAnswer.dcs,mergeCtl]

/-- A centre the ECTL names is never displaced: CTLs only append to the list. -/
theorem visit_dcFor_named {baseUrl : String} {v : Visit} {rca : CertInfo} {dc : DcInfo}
    (h : dcFor v.result.dcs k=some dc) :
    dcFor (visit lib w baseUrl v rca).result.dcs k=some dc := by
  rw [visit_dcs,dcFor_append,h,Option.some_or]

theorem visitAll_dcFor_named {baseUrl : String} {rcas : List CertInfo} {v : Visit} {dc : DcInfo}
    (h : dcFor v.result.dcs k=some dc) :
    dcFor (visitAll lib w baseUrl rcas v).result.dcs k=some dc := by
  induction rcas generalizing v with
  | nil => exact h
  | cons rca rcas ih => exact ih (visit_dcFor_named h)

theorem ctlRequestsFor_named {baseUrl : String} {rcas : List CertInfo} {v : Visit} {dc : DcInfo}
    (h : dcFor v.result.dcs k=some dc) (result : TrustTopology)
    (hresult : dcFor result.dcs k=some dc) :
    ctlRequestsFor lib w baseUrl k rcas v=
      (rcas.filter (·.hashedId8=k)).map (ctlRequest baseUrl result) := by
  induction rcas generalizing v with
  | nil => rfl
  | cons rca rcas ih =>
    rw [ctlRequestsFor,ih (visit_dcFor_named h)]
    by_cases hk : rca.hashedId8=k
    · have hreq : ctlRequest baseUrl v.result rca=ctlRequest baseUrl result rca :=
        ctlRequest_congr (by rw [hk,h,hresult]) baseUrl
      simp [hk,hreq]
    · simp [hk]

theorem laterOn_kept {u : ClientState} (h : LaterOn lib w s u) :
    u.topology=s.topology ∧ u.config=s.config := by
  refine h.invariant (fun u => u.topology=s.topology ∧ u.config=s.config)
    (fun u hu => by rw [hu]; exact ⟨rfl,rfl⟩) ?_
  intro u op hu hop
  obtain ⟨htopo,hcfg⟩ : (step lib w op u).topology=u.topology ∧ (step lib w op u).config=u.config :=
    step_topology hop u
  exact ⟨htopo.trans hu.1,hcfg.trans hu.2⟩

theorem crlAsked_eq (k : HashedId8) (u : ClientState) :
    crlAsked lib w k u=some (.http (crlRequest u k)) := by
  have hkeeps : ∀ m : Answer → ClientM CrlContents,
      (∀ a,Op.Keeps (·.events) (m a)) → (Op.exec (ask w (crlRequest u k) >>= m) u).2.events=
        .http (crlRequest u k)::u.events := by
    intro m hm
    rw [ask_bind]
    exact hm _ _
  rw [crlAsked,step,perform,Op.exec_map,fetchCrl,Op.get_bind]
  refine congrArg List.head? (hkeeps _ fun a => ?_)
  refine Op.keeps_bind (Op.keeps_lift _) fun body => ?_
  refine Op.keeps_bind (Op.keeps_need _ _) fun rca => ?_
  refine Op.keeps_bind (Op.keeps_lift _) fun crl => ?_
  refine Op.keeps_bind (Op.keeps_need _ _) fun _ => ?_
  exact Op.keeps_bind (fun _ => rfl) fun _ => Op.keeps_pure crl

/-- After a discovery the CRL is asked for at the first centre of the merged list. -/
theorem crlAsked_laterOn {t : TrustTopology} {s' u : ClientState}
    (hrun : Op.exec (discoverTrust lib w) s=(.ok t,s')) (hu : LaterOn lib w s' u) :
    crlAsked lib w k u=some (.http (.get (findDcUrl t.dcs k s.config.tlmUrl++"/getcrl/"++
      hid8HexUpper k))) := by
  obtain ⟨tlm,ectl,-,-,-,-,rfl⟩ := (discoverTrust_ok lib w).mp hrun
  obtain ⟨htopo,hcfg⟩ := laterOn_kept hu
  rw [crlAsked_eq,crlRequest,htopo,hcfg]
  rfl

/-- The CRL is asked for at one place after two discoveries whose merged lists agree. -/
theorem crlAsked_same {t₁ t₂ : TrustTopology} {s₁' s₂' u₁ u₂ : ClientState}
    (hcfg : s₁.config=s₂.config) (hrun₁ : Op.exec (discoverTrust lib w₁) s₁=(.ok t₁,s₁'))
    (hrun₂ : Op.exec (discoverTrust lib w₂) s₂=(.ok t₂,s₂')) (hu₁ : LaterOn lib w₁ s₁' u₁)
    (hu₂ : LaterOn lib w₂ s₂' u₂) (hdc : dcFor t₁.dcs k=dcFor t₂.dcs k) :
    crlAsked lib w₁ k u₁=crlAsked lib w₂ k u₂ := by
  rw [crlAsked_laterOn hrun₁ hu₁,crlAsked_laterOn hrun₂ hu₂,hcfg,findDcUrl_congr hdc]

theorem discoverTrust_rounds {t : TrustTopology} {s' : ClientState}
    (hrun : Op.exec (discoverTrust lib w) s=(.ok t,s')) (ht : tlmAnswered lib w s=.ok tlm)
    (he : ectlAnswered lib w s tlm=.ok ectl) : t=(rounds lib w s tlm ectl).result := by
  obtain ⟨tlm',ectl',ht',he',-,rfl,-⟩ := (discoverTrust_ok lib w).mp hrun
  obtain rfl : tlm'=tlm := Except.ok.inj (ht'.symm.trans ht)
  obtain rfl : ectl'=ectl := Except.ok.inj (he'.symm.trans he)
  rfl

/-- What the ECTL has a centre for is out of reach of every CTL. -/
theorem samePlace_named (h : TwoRuns lib w₁ w₂ s₁ s₂ tlm ectl) {dc : DcInfo}
    (hdc : dcFor ectl.dcs k=some dc) : SamePlace lib w₁ w₂ s₁ s₂ tlm ectl k := by
  constructor
  · have hasked : ∀ w (s : ClientState),askedFor lib w s tlm ectl k=
        (ectl.rcas.filter (·.hashedId8=k)).map (ctlRequest s.config.tlmUrl ectl) :=
      fun w s => ctlRequestsFor_named (v := loopStart s tlm ectl) hdc ectl hdc
    rw [hasked,hasked,h.config]
  · intro t₁ t₂ s₁' s₂' u₁ u₂ hrun₁ hrun₂ hu₁ hu₂
    apply crlAsked_same h.config hrun₁ hrun₂ hu₁ hu₂
    have hround : ∀ w (s : ClientState),dcFor (rounds lib w s tlm ectl).result.dcs k=some dc :=
      fun w s => visitAll_dcFor_named (v := loopStart s tlm ectl) hdc
    rw [discoverTrust_rounds hrun₁ h.tlm₁ h.ectl₁,discoverTrust_rounds hrun₂ h.tlm₂ h.ectl₂,
      hround,hround]

variable {K : HashedId8 → Prop}

/-- Two loops that asked the same so far but for CTLs outside `K`, and will ask the same for every
root CA in `K`. -/
structure Lockstep (K : HashedId8 → Prop) (ectl : TrustTopology) (s₁ s₂ : ClientState)
    (v₁ v₂ : Visit) : Prop where
  log : ∃ log₁ log₂,v₁.events=log₁++s₁.events ∧ v₂.events=log₂++s₂.events ∧
    List.Forall₂ (Alike K) log₁ log₂
  named₁ : ∀ k dc,dcFor ectl.dcs k=some dc → dcFor v₁.result.dcs k=some dc
  named₂ : ∀ k dc,dcFor ectl.dcs k=some dc → dcFor v₂.result.dcs k=some dc
  agree : ∀ b∈ectl.rcas,K b.hashedId8 →
    dcFor v₁.result.dcs b.hashedId8=dcFor v₂.result.dcs b.hashedId8

/-- What the two rounds add for a root CA in `K` is the same, or comes after the ECTL. -/
theorem visit_agree {baseUrl : String} {v₁ v₂ : Visit} {rca b : CertInfo}
    (h : Lockstep K ectl s₁ s₂ v₁ v₂) (hb : b∈ectl.rcas) (hK : K b.hashedId8)
    (hround : dcFor ectl.dcs b.hashedId8=none →
      dcFor (roundAnswer lib w₁ baseUrl v₁ rca).dcs b.hashedId8=
        dcFor (roundAnswer lib w₂ baseUrl v₂ rca).dcs b.hashedId8) :
    dcFor (visit lib w₁ baseUrl v₁ rca).result.dcs b.hashedId8=
      dcFor (visit lib w₂ baseUrl v₂ rca).result.dcs b.hashedId8 := by
  rw [visit_dcs,visit_dcs,dcFor_append,dcFor_append]
  cases hnamed : dcFor ectl.dcs b.hashedId8 with
  | some dc => rw [h.named₁ _ dc hnamed,h.named₂ _ dc hnamed,Option.some_or,Option.some_or]
  | none => rw [h.agree b hb hK,hround hnamed]

theorem visit_lockstep (hsame : SameServerOn K w₁ w₂ s₁ s₂) {baseUrl : String} {v₁ v₂ : Visit}
    {rca : CertInfo} {rcas : List CertInfo} (h : Lockstep K ectl s₁ s₂ v₁ v₂)
    (halone : NameAlike lib w₁ w₂ baseUrl K ectl (rca::rcas) v₁ v₂) (hrca : rca∈ectl.rcas) :
    Lockstep K ectl s₁ s₂ (visit lib w₁ baseUrl v₁ rca) (visit lib w₂ baseUrl v₂ rca) := by
  obtain ⟨log₁,log₂,hlog₁,hlog₂,halike⟩ := h.log
  have hstep : Alike K (.http (ctlRequest baseUrl v₁.result rca))
      (.http (ctlRequest baseUrl v₂.result rca)) := by
    by_cases hin : K rca.hashedId8
    · exact .inl (congrArg _ (ctlRequest_congr (h.agree rca hrca hin) baseUrl))
    · exact .inr ⟨rca.hashedId8,_,_,hin,rfl,rfl⟩
  refine ⟨⟨.http (ctlRequest baseUrl v₁.result rca)::log₁,
      .http (ctlRequest baseUrl v₂.result rca)::log₂,?_,?_,.cons hstep halike⟩,
    fun k dc hdc => visit_dcFor_named (h.named₁ k dc hdc),
    fun k dc hdc => visit_dcFor_named (h.named₂ k dc hdc),?_⟩
  · rw [visit_events,hlog₁]
    rfl
  · rw [visit_events,hlog₂]
    rfl
  intro b hb hK
  apply visit_agree h hb hK
  intro hnone
  by_cases hin : K rca.hashedId8
  · -- same request, same answer
    have hreq : ctlRequest baseUrl v₁.result rca=ctlRequest baseUrl v₂.result rca :=
      ctlRequest_congr (h.agree rca hrca hin) baseUrl
    have hanswer : w₁.answer v₁.events (ctlRequest baseUrl v₁.result rca)=
        w₂.answer v₂.events (ctlRequest baseUrl v₂.result rca) := by
      rw [hlog₁,hlog₂,hreq]
      apply hsame _ _ _ halike
      intro url k hk heq
      exact hk (getCtl_injective heq ▸ hin)
    rw [roundAnswer,roundAnswer,hanswer]
  · exact halone.1 hin b hb hK hnone

/-- Loops in lockstep ask for the same CTLs in `K` and end with lists that agree there. -/
theorem visitAll_lockstep (hsame : SameServerOn K w₁ w₂ s₁ s₂) (baseUrl : String)
    {rcas : List CertInfo} {v₁ v₂ : Visit} (h : Lockstep K ectl s₁ s₂ v₁ v₂)
    (halone : NameAlike lib w₁ w₂ baseUrl K ectl rcas v₁ v₂) (hrcas : ∀ rca∈rcas,rca∈ectl.rcas)
    (hk : K k) :
    ctlRequestsFor lib w₁ baseUrl k rcas v₁=ctlRequestsFor lib w₂ baseUrl k rcas v₂ ∧
      Lockstep K ectl s₁ s₂ (visitAll lib w₁ baseUrl rcas v₁)
        (visitAll lib w₂ baseUrl rcas v₂) := by
  induction rcas generalizing v₁ v₂ with
  | nil => exact ⟨rfl,h⟩
  | cons rca rcas ih =>
    have hin := hrcas rca (by simp)
    obtain ⟨hreqs,hend⟩ := ih (visit_lockstep hsame h halone hin) halone.2
      fun r hr => hrcas r (by simp [hr])
    refine ⟨?_,hend⟩
    rw [ctlRequestsFor,ctlRequestsFor,hreqs]
    by_cases heq : rca.hashedId8=k
    · rw [ctlRequest_congr (h.agree rca hin (heq ▸ hk))]
    · rw [if_neg heq,if_neg heq]

end

end PkiClient

namespace Sample

open Framework PkiClient Cert

def otherId : HashedId8 := computeHid8 requestLib otherCa.1

/-- An ECTL of two root CAs, with the given centres. -/
def twoRcas (centres : List (Coded Asn.CtlEntry)) : Coded Asn.EtsiTs102941Data :=
  ectl ([rcaEntry rootCa,rcaEntry otherCa]++centres)

/-- The first root CA names a centre for the second one, or names none. -/
def claimingCtl : Coded Asn.EtsiTs102941Data := rcaCtl 0 [dcEntry "https://elsewhere" [otherId]]

def modestCtl : Coded Asn.EtsiTs102941Data := rcaCtl 0 []

/-- It names a centre of its own. -/
def ownCtl : Coded Asn.EtsiTs102941Data := rcaCtl 0 [dcEntry "https://own" [rootHid8]]

def twoRcaEctl (centres : List (Coded Asn.CtlEntry)) : Coded Asn.Ieee1609Dot2Data :=
  signedEnvelope 7 rogueTlm (twoRcas centres).1

def twoRcaLib (centres : List (Coded Asn.CtlEntry)) : Lib := lib
  {certs := [rogueTlm,rootCa,otherCa],bodies := [tbs 7 [],tbs 5 [],tbs 9 []]
   envelopes := [twoRcaEctl centres,signedEnvelope 5 rootCa claimingCtl.1,
     signedEnvelope 5 rootCa modestCtl.1,signedEnvelope 5 rootCa ownCtl.1]
   signedBodies := [signedBody (twoRcas centres).1,signedBody claimingCtl.1,
     signedBody modestCtl.1,signedBody ownCtl.1]
   payloads := [twoRcas centres,claimingCtl,modestCtl,ownCtl]}

/-- Serves the TLM, the ECTL and the given CTL of the first root CA, and nothing else. -/
def twoRcaServer (centres : List (Coded Asn.CtlEntry)) (ctl : Coded Asn.EtsiTs102941Data) :
    World where
  setting _ := stillSetting
  answer events r :=
    if r=getCtl "https://tlm" rootHid8 then served (signedEnvelope 5 rootCa ctl.1).1
    else (scripted stillSetting 0 [served rogueTlm.1,served (twoRcaEctl centres).1]).answer events r

theorem twoRcaServer_same (centres : List (Coded Asn.CtlEntry))
    (ctl ctl' : Coded Asn.EtsiTs102941Data) (s : ClientState) :
    SameServerOn (·≠rootHid8) (twoRcaServer centres ctl) (twoRcaServer centres ctl') s s := by
  intro log₁ log₂ r hlogs hr
  have hlen : (log₁++s.events).length=(log₂++s.events).length := by
    rw [List.length_append,List.length_append,hlogs.length_eq]
  simp only [twoRcaServer,if_neg (hr "https://tlm" rootHid8 (not_not.mpr rfl)),scripted,hlen]

/-- With a centre in the ECTL the second root CA is out of reach. -/
def otherCentre : List (Coded Asn.CtlEntry) := [dcEntry "https://dc/" [otherId]]

end Sample

end V2xPki
