import V2xPki.Client.Requests
import V2xPki.Client.StoreInvariant

namespace V2xPki.PkiClient

open Framework TrustList

section
variable (lib : Lib) (w : World)

/-- The octets of the certificate were the whole answer to a GET request; nothing was checked. -/
def Fetched (log : List Event) (ci : CertInfo) : Prop :=
  ∃ earlier url label,(Event.http (.get url)::earlier)<:+log ∧
    certAnswer lib label (w.answer earlier (.get url))=.ok ci

/-- The issuer has vouched for the certificate: in a list it signed and a server sent, as the TLM
or as a root CA, or by signing the certificate itself. -/
inductive Vouches (log : List Event) (issuer ci : CertInfo) : Prop where
  | asTlm (listed : ListedRca lib w [] log issuer ci)
  | asRootCa (listed : ListedSubCa lib w [] log issuer ci)
  | asIssuer (named : ci.issuerHashId8=issuer.hashedId8)
      (signed : TrustChain.verifyCertSignature lib ci issuer=true)

/-- A certificate the client has been given on its own: in its directory, or fetched. -/
def Given (start : TrustChain) (log : List Event) (ci : CertInfo) : Prop :=
  start.findByHashedId8 ci.hashedId8=some ci ∨ Fetched lib w log ci

/-- A chain of vouching leads to the certificate from one that was given. -/
def AccountedFor (start : TrustChain) (log : List Event) (ci : CertInfo) : Prop :=
  ∃ anchor,Given lib w start log anchor ∧ Relation.ReflTransGen (Vouches lib w log) anchor ci

/-- The certificate of an `add ea` or `add aa` entry of an ECTL that verifies under a TLM that is
accounted for. Such a one is in the topology and not in the store. -/
def ListedByTlm (start : TrustChain) (log : List Event) (ci : CertInfo) : Prop :=
  ∃ tlm body ctl,AccountedFor lib w start log tlm ∧ Received w [] log body ∧
    SignedList lib true tlm body ctl ∧ (AddsEa lib ctl ci ∨ AddsAa lib ctl ci)

/-- The certificates of a topology. -/
def topologyCerts (topo : TrustTopology) : List CertInfo :=
  topo.tlm.toList++topo.rcas++ctlCerts topo

/-- Every entry of the store is under its own identifier and accounted for. -/
def AllAccountedFor (start : TrustChain) (s : ClientState) : Prop :=
  ∀ k ci,s.trust.findByHashedId8 k=some ci → k=ci.hashedId8 ∧ AccountedFor lib w start s.events ci

end

section
variable {lib : Lib} {w : World} {start : TrustChain} {log later : List Event} {issuer ci : CertInfo}

theorem Received.from_start {before : List Event} {body : Bytes}
    (h : Received w before log body) : Received w [] log body := by
  obtain ⟨earlier,r,hlog,-,hbody⟩ := h
  exact ⟨earlier,r,hlog,List.nil_suffix,hbody⟩

theorem Vouches.mono (h : Vouches lib w log issuer ci) (hl : log<:+later) :
    Vouches lib w later issuer ci := by
  cases h with
  | asTlm listed =>
    obtain ⟨body,ctl,hbody,hlist,hadds⟩ := listed
    exact .asTlm ⟨body,ctl,hbody.mono hl,hlist,hadds⟩
  | asRootCa listed => exact .asRootCa (listed.mono hl)
  | asIssuer named signed => exact .asIssuer named signed

/-- What is accounted for stays so while the log grows. -/
theorem AccountedFor.mono (h : AccountedFor lib w start log ci) (hl : log<:+later) :
    AccountedFor lib w start later ci := by
  obtain ⟨anchor,hgiven,hchain⟩ := h
  refine ⟨anchor,?_,?_⟩
  · rcases hgiven with hdir | ⟨earlier,url,label,hlog,hfetched⟩
    · exact .inl hdir
    · exact .inr ⟨earlier,url,label,hlog.trans hl,hfetched⟩
  · exact Relation.ReflTransGen.mono (fun _ _ hvouches => Vouches.mono hvouches hl) _ _ hchain

theorem AccountedFor.fetched (h : Fetched lib w log ci) : AccountedFor lib w start log ci :=
  ⟨ci,.inr h,.refl⟩

theorem AccountedFor.vouched (h : AccountedFor lib w start log issuer)
    (hv : Vouches lib w log issuer ci) : AccountedFor lib w start log ci := by
  obtain ⟨anchor,hgiven,hchain⟩ := h
  exact ⟨anchor,hgiven,hchain.tail hv⟩

/-- A chain that validates begins with the signature of an issuer in the store. -/
theorem issuer_of_validateChain {trust : TrustChain} {revocation : Option RevocationStore}
    {nowTai : Int} (h : trust.validateChain lib revocation ci nowTai=true) :
    ∃ issuer,trust.findByHashedId8 ci.issuerHashId8=some issuer ∧
      TrustChain.verifyCertSignature lib ci issuer=true := by
  unfold TrustChain.validateChain at h
  split at h
  · cases h
  split at h
  · cases h
  split at h
  · cases h
  rename_i issuer hissuer
  split at h
  · cases h
  split at h
  · cases h
  rename_i hsigned
  exact ⟨issuer,hissuer,by simpa using hsigned⟩

theorem fetchCert_fetched {path label : String} {s t : ClientState}
    (h : Op.exec (fetchCert lib w path label) s=(.ok ci,t)) :
    t.trust=s.trust.addCert ci ∧ Fetched lib w t.events ci := by
  simp only [fetchCert,Op.get_bind,ask_bind,Op.lift_bind_ok,addCert_bind,Op.exec_pure] at h
  obtain ⟨c,hc,hend⟩ := h
  cases hend
  exact ⟨rfl,s.events,_,label,List.suffix_rfl,hc⟩

/-- An issued credential is signed by a certificate of the store. -/
theorem certFromResponse_vouched {Code : Type} [DecidableEq Code] {ok : Code} {label : String}
    {s : ClientState} {revocation : RevocationStore} {nowTai : Int} {r : Response Code}
    (hs : AllAccountedFor lib w start s)
    (h : certFromResponse lib ok label s.trust revocation nowTai r=.ok ci) :
    AccountedFor lib w start s.events ci := by
  obtain ⟨-,cert,-,hci,-,hvalid⟩ := (certFromResponse_ok lib).mp h
  obtain ⟨issuer,hissuer,hsigned⟩ := issuer_of_validateChain hvalid
  obtain ⟨hkey,haccounted⟩ := hs _ issuer hissuer
  exact haccounted.vouched (.asIssuer hkey hsigned)

/-- The first request of a discovery is the one for the TLM. -/
theorem discoverTrust_first (s : ClientState) :
    (Event.http (tlmRequest s.config)::s.events)<:+(Op.exec (discoverTrust lib w) s).2.events := by
  rw [discoverTrust_exec]
  simp only [discovery]
  cases tlmAnswered lib w s with
  | error e => exact List.suffix_rfl
  | ok tlm =>
    dsimp only
    cases ectlAnswered lib w s tlm with
    | error e => exact List.suffix_cons _ _
    | ok ectl =>
      have hrounds : (Event.http (tlmRequest s.config)::s.events)<:+
          (rounds lib w s tlm ectl).events :=
        (List.suffix_cons _ _).trans (visitAll_events _ _ (loopStart s tlm ectl))
      dsimp only
      split
      · exact hrounds
      · exact hrounds

/-- What a discovery accepts is the TLM it fetched, or vouched for from there. -/
theorem origin_accounted {s : ClientState} {after : List Event} (h : Origin lib w s after ci)
    (hfirst : (Event.http (tlmRequest s.config)::s.events)<:+after) :
    AccountedFor lib w start after ci := by
  have htlm : ∀ tlm,tlmAnswered lib w s=.ok tlm → AccountedFor lib w start after tlm :=
    fun tlm hfetched => .fetched ⟨s.events,_,"tlm",hfirst,hfetched⟩
  have hroot : ∀ tlm rca,tlmAnswered lib w s=.ok tlm → ListedRca lib w s.events after tlm rca →
      AccountedFor lib w start after rca := by
    rintro tlm rca hfetched ⟨body,ctl,hbody,hlist,hadds⟩
    exact (htlm tlm hfetched).vouched (.asTlm ⟨body,ctl,hbody.from_start,hlist,hadds⟩)
  cases h with
  | tlm fetched => exact htlm ci fetched
  | rca fetched listed => exact hroot _ ci fetched listed
  | subCa fetched listed sub =>
    obtain ⟨body,ctl,hbody,hlist,hadds⟩ := sub
    exact (hroot _ _ fetched listed).vouched (.asRootCa ⟨body,ctl,hbody.from_start,hlist,hadds⟩)

/-- Storing certificates that are accounted for keeps the invariant. -/
theorem accounted_storeAll {s t : ClientState} (added : List CertInfo)
    (hs : AllAccountedFor lib w start s) (hlog : s.events<:+t.events)
    (htrust : t.trust=added.foldl TrustChain.addCert s.trust)
    (hadded : ∀ ci∈added,AccountedFor lib w start t.events ci) : AllAccountedFor lib w start t := by
  intro k ci hf
  rw [htrust] at hf
  refine TrustChain.storeAll_forall (P := fun k ci => k=ci.hashedId8 ∧
    AccountedFor lib w start t.events ci) ?_ ?_ k ci hf
  · intro k c hc
    obtain ⟨hkey,haccounted⟩ := hs k c hc
    exact ⟨hkey,haccounted.mono hlog⟩
  · intro c hc
    exact ⟨rfl,hadded c hc⟩

/-- A call that returns a certificate stores that one, and nothing when it fails. -/
theorem accounted_returned {m : ClientM CertInfo} {s : ClientState}
    (hs : AllAccountedFor lib w start s) (hclean : Op.FailsClean durable m)
    (hlog : s.events<:+(Op.exec m s).2.events)
    (hok : ∀ ci t,Op.exec m s=(.ok ci,t) →
      t.trust=s.trust.addCert ci ∧ AccountedFor lib w start t.events ci) :
    AllAccountedFor lib w start (Op.exec m s).2 := by
  rcases hrun : Op.exec m s with ⟨r,t⟩
  rw [hrun] at hlog
  cases r with
  | error e =>
    have htrust : t.trust=s.trust := congrArg (·.2.1) (hclean s e t hrun)
    exact accounted_storeAll [] hs hlog htrust (by simp)
  | ok ci =>
    obtain ⟨htrust,haccounted⟩ := hok ci t hrun
    exact accounted_storeAll [ci] hs hlog htrust (by simpa using haccounted)

theorem step_accounted (op : ClientOp) {s : ClientState} (hs : AllAccountedFor lib w start s) :
    AllAccountedFor lib w start (step lib w op s) := by
  have hlog := step_log lib w op s
  have hfetch : ∀ path label,s.events<:+(Op.exec (fetchCert lib w path label) s).2.events →
      AllAccountedFor lib w start (Op.exec (fetchCert lib w path label) s).2 := by
    intro path label hgrows
    refine accounted_returned hs (fetchCert_failsClean lib w path label) hgrows ?_
    intro ci t hrun
    obtain ⟨htrust,hfetched⟩ := fetchCert_fetched hrun
    exact ⟨htrust,.fetched hfetched⟩
  unfold step at hlog ⊢
  cases op with
  | requestEnrolmentCredential canonical rec =>
    rw [perform,Op.exec_map] at hlog ⊢
    refine accounted_returned hs (requestEnrolmentCredential_failsClean lib w canonical rec) hlog ?_
    intro ci t hrun
    rw [hrun] at hlog
    obtain ⟨x,-,hci,rfl⟩ := (requestEnrolmentCredential_ok lib w).mp hrun
    exact ⟨rfl,(certFromResponse_vouched hs hci).mono hlog⟩
  | requestAuthorizationTicket ecHandle ecCert atHandle rec =>
    rw [perform,Op.exec_map] at hlog ⊢
    refine accounted_returned hs
      (requestAuthorizationTicket_failsClean lib w ecHandle ecCert atHandle rec) hlog ?_
    intro ci t hrun
    rw [hrun] at hlog
    obtain ⟨x,-,hci,rfl⟩ := (requestAuthorizationTicket_ok lib w).mp hrun
    exact ⟨rfl,(certFromResponse_vouched hs hci).mono hlog⟩
  | fetchTrustAnchor =>
    rw [perform,Op.exec_map] at hlog ⊢
    exact hfetch _ _ hlog
  | fetchCertByName name =>
    rw [perform,Op.exec_map] at hlog ⊢
    exact hfetch _ _ hlog
  | fetchCertByHashedId8 hid8 =>
    rw [perform,Op.exec_map] at hlog ⊢
    exact hfetch _ _ hlog
  | discoverTrust =>
    rw [perform,Op.exec_map] at hlog ⊢
    refine accounted_storeAll _ hs hlog (discoverTrust_trust lib w s) ?_
    intro ci hci
    exact origin_accounted (accepted_origin hci) (discoverTrust_first s)
  | fetchCrl rcaHid8 =>
    rw [perform,Op.exec_map] at hlog ⊢
    exact accounted_storeAll [] hs hlog (fetchCrl_trust rcaHid8 s).1 (by simp)

theorem initial_accounted (mem : Nat → HashedId8) (cfg : PkiClientConfig) (dir : List DirEntry) :
    let s := ClientState.initial lib mem cfg dir
    AllAccountedFor lib w s.trust s := by
  intro s
  have hempty : TrustChain.empty.Keyed := by
    intro k ci hf
    simp [TrustChain.empty,TrustChain.findByHashedId8] at hf
  have hkeyed : s.trust.Keyed := by
    show TrustChain.Keyed (if _ then _ else _)
    split
    · exact hempty
    · exact TrustChain.keyed_storeAll hempty
  intro k ci hf
  obtain rfl := hkeyed k ci hf
  exact ⟨rfl,ci,.inl hf,.refl⟩

/-- What a call returns as a certificate is in the store when it returns. -/
theorem returned_accounted {op : ClientOp} {s t : ClientState}
    (hs : AllAccountedFor lib w start s)
    (h : Op.exec (perform lib w op) s=(.ok (.cert ci),t)) : AccountedFor lib w start t.events ci := by
  have hstep := step_accounted op hs
  rw [step,h] at hstep
  have hfound : t.trust.findByHashedId8 ci.hashedId8=some ci := by
    rcases perform_cases lib w op with ⟨m,hm,hone⟩ | rfl | ⟨r,rfl⟩
    · rw [hm,Op.map_ok] at h
      obtain ⟨c,hrun,hc⟩ := h
      cases hc
      obtain ⟨-,events,rfl⟩ := hone.stores s ci t hrun
      exact (TrustChain.find_addCert s.trust ci _).trans (if_pos rfl)
    · obtain ⟨c,-,hc⟩ := (Op.map_ok _ _ _ _ _).mp h
      cases hc
    · obtain ⟨c,-,hc⟩ := (Op.map_ok _ _ _ _ _).mp h
      cases hc
  exact (hstep _ ci hfound).2

/-- One round puts no certificate in the result that it does not store. -/
theorem visit_members {baseUrl : String} {v : Visit} {rca : CertInfo}
    (h : ci∈ctlCerts (visit lib w baseUrl v rca).result) :
    ci∈ctlCerts v.result ∨ ci∈(visit lib w baseUrl v rca).added := by
  unfold visit at h ⊢
  cases hround : roundAnswer lib w baseUrl v rca with
  | missing =>
    rw [hround] at h
    exact .inl h
  | refused =>
    rw [hround] at h
    exact .inl h
  | accepted ctl =>
    rw [hround] at h
    simp only [ctlCerts,mergeCtl,List.map_append,List.mem_append] at h ⊢
    tauto

theorem visitAll_members {baseUrl : String} {rcas : List CertInfo} {v : Visit}
    (h : ci∈ctlCerts (visitAll lib w baseUrl rcas v).result) :
    ci∈ctlCerts v.result ∨ ci∈(visitAll lib w baseUrl rcas v).added := by
  induction rcas generalizing v with
  | nil => exact .inl h
  | cons rca rcas ih =>
    show ci∈ctlCerts v.result ∨
      ci∈(visitAll lib w baseUrl rcas (visit lib w baseUrl v rca)).added
    rcases ih h with hstart | hadded
    · rcases visit_members hstart with hstart | hadded
      · exact .inl hstart
      · exact .inr (visitAll_keeps_added lib w hadded)
    · exact .inr hadded

/-- What returns a topology is a discovery. -/
theorem returned_topology {op : ClientOp} {s t : ClientState} {topo : TrustTopology}
    (h : Op.exec (perform lib w op) s=(.ok (.topology topo),t)) :
    Op.exec (discoverTrust lib w) s=(.ok topo,t) := by
  rcases perform_cases lib w op with ⟨m,hm,-⟩ | rfl | ⟨r,rfl⟩
  · rw [hm,Op.map_ok] at h
    obtain ⟨c,-,hc⟩ := h
    cases hc
  · obtain ⟨found,hrun,hc⟩ := (Op.map_ok _ _ _ _ _).mp h
    cases hc
    exact hrun
  · obtain ⟨c,-,hc⟩ := (Op.map_ok _ _ _ _ _).mp h
    cases hc

/-- So is each certificate of a topology, but for those of EAs and AAs that the TLM lists. -/
theorem topology_accounted {s t : ClientState} {topo : TrustTopology}
    (h : Op.exec (discoverTrust lib w) s=(.ok topo,t)) (hm : ci∈topologyCerts topo) :
    AccountedFor lib w start t.events ci ∨ ListedByTlm lib w start t.events ci := by
  have hfirst := @discoverTrust_first lib w s
  have horigin := fun ci => @accepted_origin lib w s ci
  rw [h] at hfirst horigin
  obtain ⟨tlm,ectl,htlm,hectl,-,rfl,rfl⟩ := (discoverTrust_ok lib w).mp h
  have haccepted : ∀ ci∈(rounds lib w s tlm ectl).added,
      AccountedFor lib w start (rounds lib w s tlm ectl).events ci := by
    intro ci hin
    refine origin_accounted (horigin ci ?_) hfirst
    simp only [accepted,htlm,hectl]
    exact hin
  have hroots : ∀ ci∈tlm::ectl.rcas,ci∈(rounds lib w s tlm ectl).added :=
    fun ci hin => visitAll_keeps_added lib w hin
  have hsettled := visitAll_settled lib w s.config.tlmUrl ectl.rcas (loopStart s tlm ectl)
  have htlmKept : (rounds lib w s tlm ectl).result.tlm=some tlm := congrArg (·.1) hsettled
  have hrcasKept : (rounds lib w s tlm ectl).result.rcas=ectl.rcas := congrArg (·.2.1) hsettled
  rw [topologyCerts,htlmKept,hrcasKept] at hm
  rcases List.mem_append.mp hm with hroot | hsub
  · exact .inl (haccepted ci (hroots ci (by simpa using hroot)))
  rcases visitAll_members hsub with hectlCert | hadded
  · right
    obtain ⟨body,ctl,hbody,hsigned,hlist⟩ := ectlAnswer_list hectl
    have hreceived : Received w [] (rounds lib w s tlm ectl).events body :=
      ⟨_,_,visitAll_events _ _ (loopStart s tlm ectl),List.nil_suffix,hbody⟩
    refine ⟨tlm,body,ctl,haccepted tlm (hroots tlm (by simp)),hreceived,hsigned,?_⟩
    have hin : ci∈ctlCerts ectl := hectlCert
    rw [hlist] at hin
    rcases List.mem_append.mp hin with hea | haa
    · obtain ⟨ea,hmem,rfl⟩ := List.mem_map.mp hea
      exact .inl (mem_eas hmem)
    · obtain ⟨aa,hmem,rfl⟩ := List.mem_map.mp haa
      exact .inr (mem_aas hmem)
  · exact .inl (haccepted ci hadded)

end

/-- In every run of operations, whatever the servers answer: each stored certificate is under its
own identifier, and it was given to the client on its own or a chain of signatures and of signed
lists that were received leads to it from one that was; so does each that is returned. The same
holds of what is in a topology that is returned, where the TLM may list EAs and AAs as well. -/
theorem stored_certificates_accounted_for (lib : Lib) (w : World) (mem : Nat → HashedId8)
    (cfg : PkiClientConfig) (dir : List DirEntry) (ops : List ClientOp) :
    let start := ClientState.initial lib mem cfg dir
    let s := runAll lib w ops start
    AllAccountedFor lib w start.trust s ∧
    (∀ op ci t,Op.exec (perform lib w op) s=(.ok (.cert ci),t) →
      AccountedFor lib w start.trust t.events ci) ∧
    ∀ op topo t,Op.exec (perform lib w op) s=(.ok (.topology topo),t) →
      ∀ ci∈topologyCerts topo,AccountedFor lib w start.trust t.events ci ∨
        ListedByTlm lib w start.trust t.events ci := by
  intro start s
  have hs : AllAccountedFor lib w start.trust s :=
    runAll_invariant lib w (fun op _ ht => step_accounted op ht) ops (initial_accounted mem cfg dir)
  refine ⟨hs,fun op ci t hrun => returned_accounted hs hrun,?_⟩
  intro op topo t hrun ci hm
  exact topology_accounted (returned_topology hrun) hm

end V2xPki.PkiClient
