import V2xPki.Client.TlmPin

namespace V2xPki

namespace PkiClient

open Framework

variable (lib : Lib) (w : World)

/-- A call that returns an error leaves everything but the log as it was. -/
def ErrorAtomic (op : ClientOp) (s : ClientState) : Prop :=
  ∀ e t,Op.exec (perform lib w op) s=(.error e,t) → durable t=durable s

/-- A discovery that stores a TLM goes through to its end, or stores nothing new: the
last certificate it accepts under each identifier is the one the store has there. -/
def CleanDiscovery (s : ClientState) : Prop :=
  ∀ tlm,tlmAnswered lib w s=.ok tlm →
    (∃ ectl,ectlAnswered lib w s tlm=.ok ectl ∧ CtlsHold lib w s tlm ectl) ∨
    ∀ k ci,TrustChain.latest (accepted lib w s) k=some ci → s.trust.findByHashedId8 k=some ci

/-- The condition on one call: only `discover_trust` has one. -/
def CleanCall : ClientOp → ClientState → Prop
  | .discoverTrust,s => CleanDiscovery lib w s
  | _,_ => True

variable {lib w}

theorem errorAtomic_of_failsClean {α : Type} {m : ClientM α} (h : Op.FailsClean durable m)
    (f : α → Outcome) (s : ClientState) (e : Error) (t : ClientState)
    (hrun : Op.exec (f <$> m) s=(.error e,t)) : durable t=durable s :=
  h s e t ((Op.map_error f m s t e).mp hrun)

/-- A failed discovery keeps the configuration, the CRLs and the topology, and leaves the
certificates it accepted before it failed in the store. -/
theorem discoverTrust_error {s t : ClientState} {e : Error}
    (h : Op.exec (discoverTrust lib w) s=(.error e,t)) :
    durable t=(s.config,(accepted lib w s).foldl TrustChain.addCert s.trust,s.revocation,
      s.topology) := by
  have ht := discoverTrust_trust lib w s
  rw [h] at ht
  rw [discoverTrust_exec] at h
  unfold discovery at h
  rw [durable,ht]
  split at h
  · cases h; rfl
  split at h
  · cases h; rfl
  dsimp only at h
  split at h
  · cases h
  · cases h; rfl

theorem discoverTrust_atomic_iff (s : ClientState) :
    (∀ e t,Op.exec (discoverTrust lib w) s=(.error e,t) → durable t=durable s) ↔
      CleanDiscovery lib w s := by
  constructor
  · intro h tlm htlm
    by_cases hend : ∃ ectl,ectlAnswered lib w s tlm=.ok ectl ∧ CtlsHold lib w s tlm ectl
    · exact .inl hend
    · refine .inr ((TrustChain.storeAll_eq_self_iff _ _).mp ?_)
      rcases hrun : Op.exec (discoverTrust lib w) s with ⟨r,t⟩
      cases r with
      | ok topo =>
        obtain ⟨tlm',ectl,ht',he,hc,-⟩ := (discoverTrust_ok lib w).mp hrun
        obtain rfl : tlm=tlm' := Except.ok.inj (htlm.symm.trans ht')
        exact absurd ⟨ectl,he,hc⟩ hend
      | error e =>
        have hd := (discoverTrust_error hrun).symm.trans (h e t hrun)
        exact congrArg (·.2.1) hd
  · intro h e t hrun
    have hsame : (accepted lib w s).foldl TrustChain.addCert s.trust=s.trust := by
      cases htlm : tlmAnswered lib w s with
      | error e' => simp [accepted,htlm]
      | ok tlm =>
        rcases h tlm htlm with ⟨ectl,he,hc⟩ | hheld
        · have hok := (discoverTrust_ok lib w).mpr ⟨tlm,ectl,htlm,he,hc,rfl,rfl⟩
          rw [hrun] at hok
          cases hok
        · exact (TrustChain.storeAll_eq_self_iff _ _).mpr hheld
    rw [discoverTrust_error hrun,hsame]
    rfl

/-- One call: atomic on error exactly under the condition. -/
theorem errorAtomic_iff_cleanCall (op : ClientOp) (s : ClientState) :
    ErrorAtomic lib w op s ↔ CleanCall lib w op s := by
  cases op with
  | discoverTrust =>
    simp only [ErrorAtomic,perform,Op.map_error]
    exact discoverTrust_atomic_iff s
  | requestEnrolmentCredential canonical rec =>
    exact iff_of_true (errorAtomic_of_failsClean
      (requestEnrolmentCredential_failsClean lib w canonical rec) _ s) trivial
  | requestAuthorizationTicket ecHandle ecCert atHandle rec =>
    exact iff_of_true (errorAtomic_of_failsClean
      (requestAuthorizationTicket_failsClean lib w ecHandle ecCert atHandle rec) _ s) trivial
  | fetchTrustAnchor =>
    exact iff_of_true (errorAtomic_of_failsClean (fetchCert_failsClean lib w _ _) _ s) trivial
  | fetchCertByName name =>
    exact iff_of_true (errorAtomic_of_failsClean (fetchCert_failsClean lib w _ _) _ s) trivial
  | fetchCertByHashedId8 hid8 =>
    exact iff_of_true (errorAtomic_of_failsClean (fetchCert_failsClean lib w _ _) _ s) trivial
  | fetchCrl rcaHid8 =>
    exact iff_of_true (errorAtomic_of_failsClean (fetchCrl_failsClean lib w rcaHid8) _ s) trivial

variable (lib w)

/-- Whole runs: every failed call of a run leaves the client as it was exactly when every
discovery of the run is clean. -/
theorem run_errorAtomic_iff (ops : List ClientOp) (s : ClientState) :
    Along (step lib w) (ErrorAtomic lib w) ops s ↔ Along (step lib w) (CleanCall lib w) ops s :=
  along_congr errorAtomic_iff_cleanCall ops s

end PkiClient

namespace Sample

open Framework PkiClient

/-- The same list signed with another key than that of the TLM it is served for. -/
def forgedEctl : Coded Asn.Ieee1609Dot2Data := signedEnvelope 9 rogueTlm rogueList.1

def forgedLib : Lib := lib
  {certs := [rogueTlm,rootCa],bodies := [tbs 7 [],tbs 5 []],envelopes := [forgedEctl]
   signedBodies := [signedBody rogueList.1],payloads := [rogueList]}

def forgingServer : World := scripted stillSetting 0 [served rogueTlm.1,served forgedEctl.1]

/-- The ECTL is refused for its signature, and the self-signed certificate that came
before it stays in the store. -/
theorem refused_ectl_leaves_tlm :
    Initial forgedLib (pinned forgedLib) ∧
    (∃ t,Op.exec (perform forgedLib forgingServer .discoverTrust) (pinned forgedLib)=
        (.error .signatureInvalid,t) ∧
      (pinned forgedLib).trust.findByHashedId8
        (Cert.fromCoer forgedLib .zero rogueTlm.1).hashedId8=none ∧
      (t.trust.findByHashedId8 (Cert.fromCoer forgedLib .zero rogueTlm.1).hashedId8).map
        (fun ci => (ci.certBytes.toVector,ci.isSelfSigned))=some (rogueTlm.1,true)) ∧
    ¬ErrorAtomic forgedLib forgingServer .discoverTrust (pinned forgedLib) := by
  have hrun : (Op.exec (perform forgedLib forgingServer .discoverTrust) (pinned forgedLib)).1.map
      (fun _ => ())=.error .signatureInvalid := by decide +kernel
  have hbefore : (pinned forgedLib).trust.findByHashedId8
      (Cert.fromCoer forgedLib .zero rogueTlm.1).hashedId8=none := by decide +kernel
  have hafter : ((Op.exec (perform forgedLib forgingServer .discoverTrust) (pinned forgedLib)
      ).2.trust.findByHashedId8 (Cert.fromCoer forgedLib .zero rogueTlm.1).hashedId8).map
      (fun ci => (ci.certBytes.toVector,ci.isSelfSigned))=some (rogueTlm.1,true) := by
    decide +kernel
  refine ⟨⟨fun _ => .zero,pinnedConfig,[],rfl⟩,?_⟩
  rcases hexec : Op.exec (perform forgedLib forgingServer .discoverTrust)
      (pinned forgedLib) with ⟨r,t⟩
  rw [hexec] at hrun hafter
  cases r with
  | ok o => cases hrun
  | error e =>
    obtain rfl : e=.signatureInvalid := Except.error.inj hrun
    refine ⟨⟨t,rfl,hbefore,hafter⟩,?_⟩
    intro h
    have htrust : t.trust=(pinned forgedLib).trust := congrArg (·.2.1) (h _ t hexec)
    rw [htrust,hbefore] at hafter
    cases hafter

end Sample

end V2xPki
