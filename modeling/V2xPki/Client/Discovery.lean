import V2xPki.Client.Operations

namespace V2xPki.PkiClient

open Framework

variable (lib : Lib) (w : World)

def tlmRequest (cfg : PkiClientConfig) : HttpRequest := .get (cfg.tlmUrl++tlmPath cfg.tlmHid8)

def ectlRequest (cfg : PkiClientConfig) (tlm : CertInfo) : HttpRequest :=
  .get (cfg.tlmUrl++"/getectl/"++tlmHex cfg.tlmHid8 tlm)

/-- Where the loop over the root CAs stands: the topology so far, the certificates stored
so far, and what was asked so far. -/
structure Visit where
  result : TrustTopology
  added : List CertInfo
  events : List Event

/-- The answer to the CTL request of the next round. -/
def roundAnswer (baseUrl : String) (v : Visit) (rca : CertInfo) : CtlAnswer :=
  ctlAnswer lib rca (w.answer v.events (ctlRequest baseUrl v.result rca))

/-- One round as a function of its answer. -/
def visit (baseUrl : String) (v : Visit) (rca : CertInfo) : Visit :=
  let events := .http (ctlRequest baseUrl v.result rca)::v.events
  match roundAnswer lib w baseUrl v rca with
  | .missing => ⟨v.result,v.added,events⟩
  | .refused => ⟨{v.result with ctlSignatureVerified := false},v.added,events⟩
  | .accepted ctl => ⟨mergeCtl v.result ctl,v.added++ctlCerts ctl,events⟩

def visitAll (baseUrl : String) (rcas : List CertInfo) (v : Visit) : Visit :=
  rcas.foldl (visit lib w baseUrl) v

/-- No round meets a CTL that does not decode or verify. -/
def NoneRefused (baseUrl : String) : List CertInfo → Visit → Prop
  | [],_ => True
  | rca::rcas,v => roundAnswer lib w baseUrl v rca≠.refused ∧
      NoneRefused baseUrl rcas (visit lib w baseUrl v rca)

/-- The loop starts with the TLM and the root CAs stored. -/
def visitStart (tlm : CertInfo) (ectl : TrustTopology) (events : List Event) : Visit :=
  ⟨{ectl with tlm := some tlm,ctlSignatureVerified := true},tlm::ectl.rcas,events⟩

/-- A client that stored `added` and asked `events` since. -/
def landed (s : ClientState) (added : List CertInfo) (events : List Event) : ClientState :=
  {s with trust := added.foldl TrustChain.addCert s.trust,events := events}

theorem landed_storeAll (s : ClientState) (added more : List CertInfo) (events : List Event) :
    (landed s added events).storeAll more=landed s (added++more) events := by
  simp [landed,ClientState.storeAll,List.foldl_append]

theorem visitRca_exec (baseUrl : String) (s : ClientState) (v : Visit) (rca : CertInfo) :
    Op.exec (visitRca lib w baseUrl v.result rca) (landed s v.added v.events)=
      (.ok (visit lib w baseUrl v rca).result,
        landed s (visit lib w baseUrl v rca).added (visit lib w baseUrl v rca).events) := by
  rw [visitRca,Op.exec_bind,exec_ask]
  have ha : w.answer (landed s v.added v.events).events (ctlRequest baseUrl v.result rca)=
      w.answer v.events (ctlRequest baseUrl v.result rca) := rfl
  simp only [ha,visit,roundAnswer]
  cases ctlAnswer lib rca (w.answer v.events (ctlRequest baseUrl v.result rca)) with
  | missing => rfl
  | refused => rfl
  | accepted ctl =>
    simp only [Op.exec_bind,Op.exec_modify,Op.exec_pure]
    exact congrArg (Prod.mk _) (landed_storeAll s v.added (ctlCerts ctl)
      (.http (ctlRequest baseUrl v.result rca)::v.events))

/-- The loop never stops early and stores exactly the certificates of accepted CTLs. -/
theorem visitAll_exec (baseUrl : String) (s : ClientState) (rcas : List CertInfo) (v : Visit) :
    Op.exec (rcas.foldlM (visitRca lib w baseUrl) v.result) (landed s v.added v.events)=
      (.ok (visitAll lib w baseUrl rcas v).result,
        landed s (visitAll lib w baseUrl rcas v).added
          (visitAll lib w baseUrl rcas v).events) := by
  induction rcas generalizing v with
  | nil => rfl
  | cons rca rcas ih =>
    rw [List.foldlM_cons,Op.exec_bind,visitRca_exec]
    exact ih (visit lib w baseUrl v rca)

theorem visit_flag (baseUrl : String) (v : Visit) (rca : CertInfo) :
    (visit lib w baseUrl v rca).result.ctlSignatureVerified=true ↔
      v.result.ctlSignatureVerified=true ∧ roundAnswer lib w baseUrl v rca≠.refused := by
  unfold visit
  cases roundAnswer lib w baseUrl v rca <;> simp [mergeCtl]

/-- The flag the loop folds is true at the end exactly when no CTL was refused. -/
theorem visitAll_flag (baseUrl : String) (rcas : List CertInfo) (v : Visit) :
    (visitAll lib w baseUrl rcas v).result.ctlSignatureVerified=true ↔
      v.result.ctlSignatureVerified=true ∧ NoneRefused lib w baseUrl rcas v := by
  induction rcas generalizing v with
  | nil => simp [visitAll,NoneRefused]
  | cons rca rcas ih =>
    have h := ih (visit lib w baseUrl v rca)
    rw [visit_flag] at h
    simp only [NoneRefused]
    rw [← and_assoc]
    exact h

/-- What the loop leaves as it finds it. -/
def settled (t : TrustTopology) : Option CertInfo × List CertInfo × Bool × Bool :=
  (t.tlm,t.rcas,t.ectlExpired,t.ctlExpired)

theorem visit_settled (baseUrl : String) (v : Visit) (rca : CertInfo) :
    settled (visit lib w baseUrl v rca).result=settled v.result := by
  unfold visit
  cases roundAnswer lib w baseUrl v rca <;> rfl

theorem visitAll_settled (baseUrl : String) (rcas : List CertInfo) (v : Visit) :
    settled (visitAll lib w baseUrl rcas v).result=settled v.result := by
  induction rcas generalizing v with
  | nil => rfl
  | cons rca rcas ih =>
    exact (ih (visit lib w baseUrl v rca)).trans (visit_settled lib w baseUrl v rca)

theorem visitAll_tlm (baseUrl : String) (rcas : List CertInfo) (v : Visit) :
    (visitAll lib w baseUrl rcas v).result.tlm=v.result.tlm :=
  congrArg (·.1) (visitAll_settled lib w baseUrl rcas v)

theorem visitAll_keeps_added {baseUrl : String} {rcas : List CertInfo} {v : Visit} {ci : CertInfo}
    (h : ci∈v.added) : ci∈(visitAll lib w baseUrl rcas v).added := by
  induction rcas generalizing v with
  | nil => exact h
  | cons rca rcas ih =>
    apply ih
    unfold visit
    cases roundAnswer lib w baseUrl v rca with
    | missing => exact h
    | refused => exact h
    | accepted ctl => exact List.mem_append_left _ h

/-- What the server makes of the two requests before the loop. -/
def tlmAnswered (s : ClientState) : Except Error CertInfo :=
  certAnswer lib "tlm" (w.answer s.events (tlmRequest s.config))

def ectlAnswered (s : ClientState) (tlm : CertInfo) : Except Error TrustTopology :=
  ectlAnswer lib tlm (w.answer (.http (tlmRequest s.config)::s.events) (ectlRequest s.config tlm))

/-- The loop as a call that got that far enters it. -/
def loopStart (s : ClientState) (tlm : CertInfo) (ectl : TrustTopology) : Visit :=
  visitStart tlm ectl (.http (ectlRequest s.config tlm)::.http (tlmRequest s.config)::s.events)

def rounds (s : ClientState) (tlm : CertInfo) (ectl : TrustTopology) : Visit :=
  visitAll lib w s.config.tlmUrl ectl.rcas (loopStart s tlm ectl)

/-- No CTL of the call is refused. -/
def CtlsHold (s : ClientState) (tlm : CertInfo) (ectl : TrustTopology) : Prop :=
  NoneRefused lib w s.config.tlmUrl ectl.rcas (loopStart s tlm ectl)

theorem rounds_flag (s : ClientState) (tlm : CertInfo) (ectl : TrustTopology) :
    (rounds lib w s tlm ectl).result.ctlSignatureVerified=true ↔ CtlsHold lib w s tlm ectl := by
  unfold rounds CtlsHold
  rw [visitAll_flag]
  simp [loopStart,visitStart]

/-- One call of `discover_trust` as a function of the answers it gets. -/
def discovery (s : ClientState) : Except Error TrustTopology × ClientState :=
  match tlmAnswered lib w s with
  | .error e => (.error e,landed s [] (.http (tlmRequest s.config)::s.events))
  | .ok tlm => match ectlAnswered lib w s tlm with
    | .error e => (.error e,landed s [tlm]
        (.http (ectlRequest s.config tlm)::.http (tlmRequest s.config)::s.events))
    | .ok ectl =>
      let v := rounds lib w s tlm ectl
      if v.result.ctlSignatureVerified then
        (.ok v.result,adopt v.result (landed s v.added v.events))
      else (.error .signatureInvalid,landed s v.added v.events)

theorem discoverTrust_exec (s : ClientState) :
    Op.exec (discoverTrust lib w) s=discovery lib w s := by
  have htlm : HttpRequest.get (s.config.tlmUrl++tlmPath s.config.tlmHid8)=
      tlmRequest s.config := rfl
  rw [discoverTrust,Op.exec_bind,Op.exec_get]
  simp only [Op.exec_bind,exec_ask,Op.exec_lift,htlm,discovery,tlmAnswered]
  cases certAnswer lib "tlm" (w.answer s.events (tlmRequest s.config)) with
  | error e => rfl
  | ok tlm =>
    have hectl : HttpRequest.get (s.config.tlmUrl++"/getectl/"++tlmHex s.config.tlmHid8 tlm)=
      ectlRequest s.config tlm := rfl
    have hev : ((s.after (.http (tlmRequest s.config))).store tlm).events=
      .http (tlmRequest s.config)::s.events := rfl
    simp only [exec_addCert,hectl,hev,ectlAnswered]
    cases ectlAnswer lib tlm (w.answer (.http (tlmRequest s.config)::s.events)
        (ectlRequest s.config tlm)) with
    | error e => rfl
    | ok ectl =>
      simp only [Op.exec_modify]
      have hland : ((((s.after (.http (tlmRequest s.config))).store tlm).after
          (.http (ectlRequest s.config tlm))).storeAll ectl.rcas)=
        landed s (loopStart s tlm ectl).added (loopStart s tlm ectl).events := rfl
      have hloop := visitAll_exec lib w s.config.tlmUrl s ectl.rcas (loopStart s tlm ectl)
      change _=(Except.ok (rounds lib w s tlm ectl).result,
        landed s (rounds lib w s tlm ectl).added (rounds lib w s tlm ectl).events) at hloop
      generalize rounds lib w s tlm ectl=v at hloop ⊢
      rw [hland]
      simp only [loopStart,visitStart] at hloop ⊢
      rw [hloop]
      simp only [Op.exec_ensure]
      by_cases hok : v.result.ctlSignatureVerified=true
      · simp only [hok,if_true,Op.exec_pure]
      · simp only [hok]
        rfl

/-- A call returns a topology exactly when the TLM and the ECTL are accepted and no CTL
is refused. -/
theorem discoverTrust_ok {s s' : ClientState} {t : TrustTopology} :
    Op.exec (discoverTrust lib w) s=(.ok t,s') ↔
      ∃ tlm ectl,tlmAnswered lib w s=.ok tlm ∧ ectlAnswered lib w s tlm=.ok ectl ∧
        CtlsHold lib w s tlm ectl ∧ t=(rounds lib w s tlm ectl).result ∧
        s'=adopt t (landed s (rounds lib w s tlm ectl).added
          (rounds lib w s tlm ectl).events) := by
  rw [discoverTrust_exec,discovery]
  cases ht : tlmAnswered lib w s with
  | error e => simp
  | ok tlm =>
    cases he : ectlAnswered lib w s tlm with
    | error e => simp [he]
    | ok ectl =>
      simp only [Except.ok.injEq,exists_and_left,exists_eq_left',he]
      rw [← rounds_flag]
      split
      · rename_i hv
        constructor
        · intro h
          cases h
          exact ⟨hv,rfl,rfl⟩
        · intro h
          obtain ⟨-,rfl,rfl⟩ := h
          rfl
      · rename_i hv
        simp [hv]

/-- The certificates one call of `discover_trust` accepts, in the order it stores them. -/
def accepted (s : ClientState) : List CertInfo :=
  match tlmAnswered lib w s with
  | .error _ => []
  | .ok tlm => match ectlAnswered lib w s tlm with
    | .error _ => [tlm]
    | .ok ectl => (rounds lib w s tlm ectl).added

/-- The trust store after the call, whatever it returned. -/
theorem discoverTrust_trust (s : ClientState) :
    (Op.exec (discoverTrust lib w) s).2.trust=
      (accepted lib w s).foldl TrustChain.addCert s.trust := by
  rw [discoverTrust_exec]
  simp only [discovery,accepted]
  split
  · rfl
  · split
    · rfl
    · split <;> rfl

end V2xPki.PkiClient
