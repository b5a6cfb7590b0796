import V2xPki.Client.Discovery
import V2xPki.Trust.SignedList

namespace V2xPki.PkiClient

open Framework TrustList

variable (lib : Lib) (w : World)

/-- During a call that took the log from `before` to `after` the server returned `body`
with status 200 to one of its requests. -/
def Received (before after : List Event) (body : Bytes) : Prop :=
  ∃ events r,(.http r::events)<:+after ∧ before<:+events ∧
    okBody (w.answer events r).response=.ok body

/-- The certificate of an `add rca` entry of an ECTL that verifies under the TLM. -/
def ListedRca (before after : List Event) (tlm ci : CertInfo) : Prop :=
  ∃ body ctl,Received w before after body ∧ SignedList lib true tlm body ctl ∧
    AddsRca lib ctl ci

/-- The certificate of an `add ea` or `add aa` entry of a CTL that verifies under the
root CA. -/
def ListedSubCa (before after : List Event) (rca ci : CertInfo) : Prop :=
  ∃ body ctl,Received w before after body ∧ SignedList lib false rca body ctl ∧
    (AddsEa lib ctl ci ∨ AddsAa lib ctl ci)

/-- The three ways a certificate gets into the store while trust is discovered. -/
inductive Origin (s : ClientState) (after : List Event) : CertInfo → Prop where
  | tlm {ci : CertInfo} (fetched : tlmAnswered lib w s=.ok ci) : Origin s after ci
  | rca {tlm ci : CertInfo} (fetched : tlmAnswered lib w s=.ok tlm)
      (listed : ListedRca lib w s.events after tlm ci) : Origin s after ci
  | subCa {tlm rca ci : CertInfo} (fetched : tlmAnswered lib w s=.ok tlm)
      (listed : ListedRca lib w s.events after tlm rca)
      (sub : ListedSubCa lib w s.events after rca ci) : Origin s after ci

variable {lib w}

theorem Received.mono {before after later : List Event} {body : Bytes}
    (h : Received w before after body) (hl : after<:+later) : Received w before later body := by
  obtain ⟨events,r,ha,hb,hbody⟩ := h
  exact ⟨events,r,ha.trans hl,hb,hbody⟩

theorem ListedSubCa.mono {before after later : List Event} {rca ci : CertInfo}
    (h : ListedSubCa lib w before after rca ci) (hl : after<:+later) :
    ListedSubCa lib w before later rca ci := by
  obtain ⟨body,ctl,hr,hs,ha⟩ := h
  exact ⟨body,ctl,hr.mono hl,hs,ha⟩

/-- An accepted ECTL is the parse of a list that verified. -/
theorem ectlAnswer_list {tlm : CertInfo} {a : Answer} {ectl : TrustTopology}
    (h : ectlAnswer lib tlm a=.ok ectl) :
    ∃ body ctl,okBody a.response=.ok body ∧ SignedList lib true tlm body ctl ∧
      ectl=setVerified (parseCtlEntries lib a.mem a.nowTai ctl true) true true := by
  unfold ectlAnswer at h
  split at h
  · cases h
  rename_i body hbody
  split at h
  · cases h
  rename_i topo htopo
  split at h
  · rename_i hv
    cases h
    obtain ⟨ctl,hs,hectl⟩ := decodeCtlCommon_verified lib htopo hv
    exact ⟨body,ctl,hbody,hs,hectl⟩
  · cases h

/-- Its root CAs are the `add rca` entries of the list. -/
theorem ectlAnswer_ok {tlm : CertInfo} {a : Answer} {ectl : TrustTopology}
    (h : ectlAnswer lib tlm a=.ok ectl) :
    ∃ body ctl,okBody a.response=.ok body ∧ SignedList lib true tlm body ctl ∧
      ∀ rca∈ectl.rcas,AddsRca lib ctl rca := by
  obtain ⟨body,ctl,hbody,hs,rfl⟩ := ectlAnswer_list h
  exact ⟨body,ctl,hbody,hs,fun rca hm => mem_rcas hm⟩

/-- An accepted CTL is the parse of a list that verified. -/
theorem ctlAnswer_list {rca : CertInfo} {a : Answer} {topo : TrustTopology}
    (h : ctlAnswer lib rca a=.accepted topo) :
    ∃ body ctl,okBody a.response=.ok body ∧ SignedList lib false rca body ctl ∧
      topo=setVerified (parseCtlEntries lib a.mem a.nowTai ctl false) false true := by
  unfold ctlAnswer at h
  split at h
  · cases h
  rename_i body hbody
  split at h
  · cases h
  rename_i decoded hdecoded
  split at h
  · rename_i hv
    cases h
    obtain ⟨ctl,hs,htopo⟩ := decodeCtlCommon_verified lib hdecoded hv
    exact ⟨body,ctl,hbody,hs,htopo⟩
  · cases h

/-- What it contributes are the `add ea` and `add aa` entries of the list. -/
theorem ctlAnswer_accepted {rca : CertInfo} {a : Answer} {topo : TrustTopology}
    (h : ctlAnswer lib rca a=.accepted topo) :
    ∃ body ctl,okBody a.response=.ok body ∧ SignedList lib false rca body ctl ∧
      ∀ ci∈ctlCerts topo,AddsEa lib ctl ci ∨ AddsAa lib ctl ci := by
  obtain ⟨body,ctl,hbody,hs,rfl⟩ := ctlAnswer_list h
  refine ⟨body,ctl,hbody,hs,?_⟩
  intro ci hm
  rcases List.mem_append.mp hm with hm | hm
  · obtain ⟨ea,hea,rfl⟩ := List.mem_map.mp hm
    exact .inl (mem_eas hea)
  · obtain ⟨aa,haa,rfl⟩ := List.mem_map.mp hm
    exact .inr (mem_aas haa)

theorem visit_events (baseUrl : String) (v : Visit) (rca : CertInfo) :
    (visit lib w baseUrl v rca).events=.http (ctlRequest baseUrl v.result rca)::v.events := by
  unfold visit
  cases roundAnswer lib w baseUrl v rca <;> rfl

theorem visitAll_events (baseUrl : String) (rcas : List CertInfo) (v : Visit) :
    v.events<:+(visitAll lib w baseUrl rcas v).events := by
  induction rcas generalizing v with
  | nil => exact List.suffix_rfl
  | cons rca rcas ih =>
    have hstep : v.events<:+(visit lib w baseUrl v rca).events := by
      rw [visit_events]
      exact List.suffix_cons _ _
    exact hstep.trans (ih _)

/-- One round adds nothing but entries of a CTL that verified. -/
theorem visit_added {before : List Event} {baseUrl : String} {v : Visit} {rca ci : CertInfo}
    (hb : before<:+v.events) (h : ci∈(visit lib w baseUrl v rca).added) :
    ci∈v.added ∨ ListedSubCa lib w before (visit lib w baseUrl v rca).events rca ci := by
  have hev := @visit_events lib w baseUrl v rca
  rw [hev]
  unfold visit at h
  cases hr : roundAnswer lib w baseUrl v rca with
  | missing => rw [hr] at h; exact .inl h
  | refused => rw [hr] at h; exact .inl h
  | accepted topo =>
    rw [hr] at h
    rcases List.mem_append.mp h with h | h
    · exact .inl h
    · obtain ⟨body,ctl,hbody,hs,hcerts⟩ := ctlAnswer_accepted hr
      exact .inr ⟨body,ctl,⟨v.events,_,List.suffix_rfl,hb,hbody⟩,hs,hcerts ci h⟩

theorem visitAll_added {before : List Event} {baseUrl : String} {rcas : List CertInfo}
    {v : Visit} {ci : CertInfo} (hb : before<:+v.events)
    (h : ci∈(visitAll lib w baseUrl rcas v).added) :
    ci∈v.added ∨ ∃ rca∈rcas,
      ListedSubCa lib w before (visitAll lib w baseUrl rcas v).events rca ci := by
  induction rcas generalizing v with
  | nil => exact .inl h
  | cons rca rcas ih =>
    have hstep : v.events<:+(visit lib w baseUrl v rca).events := by
      rw [visit_events]
      exact List.suffix_cons _ _
    rcases ih (hb.trans hstep) h with hm | ⟨rca',hin,hl⟩
    · rcases visit_added hb hm with hm | hl
      · exact .inl hm
      · exact .inr ⟨rca,by simp,hl.mono (visitAll_events baseUrl rcas _)⟩
    · exact .inr ⟨rca',by simp [hin],hl⟩

theorem accepted_origin {s : ClientState} {ci : CertInfo} (hm : ci∈accepted lib w s) :
    Origin lib w s (Op.exec (discoverTrust lib w) s).2.events ci := by
  rw [discoverTrust_exec]
  unfold accepted at hm
  cases ht : tlmAnswered lib w s with
  | error e => simp [ht] at hm
  | ok tlm =>
    simp only [ht] at hm
    cases he : ectlAnswered lib w s tlm with
    | error e =>
      simp only [he,List.mem_singleton] at hm
      exact .tlm (hm ▸ ht)
    | ok ectl =>
      simp only [he] at hm
      have hev : (discovery lib w s).2.events=(rounds lib w s tlm ectl).events := by
        simp only [discovery,ht,he]
        split <;> rfl
      rw [hev]
      obtain ⟨body,ctl,hbody,hs,hrcas⟩ := ectlAnswer_ok he
      have hbefore : s.events<:+(loopStart s tlm ectl).events :=
        (List.suffix_cons _ _).trans (List.suffix_cons _ _)
      have hreceived : Received w s.events (rounds lib w s tlm ectl).events body :=
        ⟨_,_,visitAll_events _ _ (loopStart s tlm ectl),List.suffix_cons _ _,hbody⟩
      have hlisted : ∀ rca∈ectl.rcas,
          ListedRca lib w s.events (rounds lib w s tlm ectl).events tlm rca :=
        fun rca hr => ⟨body,ctl,hreceived,hs,hrcas rca hr⟩
      rcases visitAll_added hbefore hm with hm | ⟨rca,hin,hsub⟩
      · rcases List.mem_cons.mp hm with rfl | hin
        · exact .tlm ht
        · exact .rca ht (hlisted ci hin)
      · exact .subCa ht (hlisted rca hin) hsub

variable (lib w)

/-- Everything one call stores, in whatever way it ends, has one of the three origins. -/
theorem discoverTrust_provenance (s : ClientState) :
    let final := (Op.exec (discoverTrust lib w) s).2
    ∃ added : List CertInfo,final.trust=added.foldl TrustChain.addCert s.trust ∧
      ∀ ci∈added,Origin lib w s final.events ci :=
  ⟨accepted lib w s,discoverTrust_trust lib w s,fun _ hm => accepted_origin hm⟩

end V2xPki.PkiClient
