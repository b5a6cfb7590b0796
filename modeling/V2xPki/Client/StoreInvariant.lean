import V2xPki.Client.Effects
import V2xPki.Client.TlmPin
import V2xPki.Trust.WellKept

namespace V2xPki

namespace PkiClient

open Framework Cert

variable (lib : Lib) (w : World)

/-- Every entry of the trust store is under its own identifier and has its octets. -/
def StoreKept (s : ClientState) : Prop :=
  ∀ k ci,s.trust.findByHashedId8 k=some ci → WellKept lib k ci

/-- The condition on one call: what it takes from trust lists or from a response has a
re-encoding that fits. The certificates fetched as octets are measured by the code. -/
def StepFits : ClientOp → ClientState → Prop
  | .discoverTrust,s => ∀ ci∈accepted lib w s,ReencodesWithin lib ci
  | .requestEnrolmentCredential canonical rec,s =>
      ∀ x ci,ecExchange lib w canonical rec s=some x →
        certFromResponse lib .ok "ec" s.trust s.revocation x.nowTai x.response=.ok ci →
        ReencodesWithin lib ci
  | .requestAuthorizationTicket ecHandle ecCert atHandle rec,s =>
      ∀ x ci,atExchange lib w ecHandle ecCert atHandle rec s=some x →
        certFromResponse lib .ok "at" s.trust s.revocation x.nowTai x.response=.ok ci →
        ReencodesWithin lib ci
  | _,_ => True

variable {lib w}

theorem certAnswer_ok {label : String} {a : Answer} {ci : CertInfo} :
    certAnswer lib label a=.ok ci ↔
      ∃ body c,a.response=.ok ⟨200,body⟩ ∧ Coer.decode lib.asn.certificateBase body=some c ∧
        body≠[] ∧ body.length≤kMaxCoerMessageLen ∧
        ci={fromStruct lib (a.mem 0) c body with label := label} := by
  unfold certAnswer
  constructor
  · intro h
    split at h
    · cases h
    rename_i body hbody
    dsimp only at h
    split at h
    · cases h
    rename_i hne
    cases h
    obtain ⟨c,hd,hb,hlen,heq⟩ := fromCoer_stored (by simpa using hne)
    exact ⟨body,c,okBody_ok.mp hbody,hd,hb,hlen,by rw [heq]⟩
  · rintro ⟨body,c,hresp,hd,hb,hlen,rfl⟩
    have hparse : fromCoer lib (a.mem 0) body=fromStruct lib (a.mem 0) c body := by
      rw [fromCoer,hd]
    have hkept : (fromStruct lib (a.mem 0) c body).certBytes.toVector=body := by
      rw [fromStruct,StaticBytes.orEmpty_toVector,if_pos hlen]
    have hne : (fromStruct lib (a.mem 0) c body).certBytes.empty=false := by
      rw [StaticBytes.empty_eq_false,hkept]
      exact hb
    rw [okBody_ok.mpr hresp]
    simp [hparse,hne]

theorem certAnswer_wellKept (hk : KeysAllocated lib.asn) {label : String} {a : Answer}
    {ci : CertInfo} (h : certAnswer lib label a=.ok ci) : WellKept lib ci.hashedId8 ci := by
  obtain ⟨body,c,-,hd,hb,hlen,rfl⟩ := certAnswer_ok.mp h
  exact wellKept_fromStruct hk hd hb hlen _ label

theorem loadEntry_wellKept (hk : KeysAllocated lib.asn) {u : HashedId8} {entry : DirEntry}
    {ci : CertInfo} (h : TrustChain.loadEntry lib u entry=some ci) :
    WellKept lib ci.hashedId8 ci := by
  unfold TrustChain.loadEntry at h
  split at h
  · cases h
  split at h
  · cases h
  rename_i raw _
  dsimp only at h
  split at h
  · cases h
  split at h
  · cases h
  rename_i hne
  cases h
  obtain ⟨c,hd,hb,hlen,heq⟩ := fromCoer_stored (by simpa using hne)
  rw [heq]
  exact wellKept_fromStruct hk hd hb hlen _ entry.stem

theorem initial_kept (hk : KeysAllocated lib.asn) {s : ClientState} (h : Initial lib s) :
    StoreKept lib s := by
  obtain ⟨mem,cfg,dir,rfl⟩ := h
  have hempty : ∀ k ci,TrustChain.empty.findByHashedId8 k=some ci → WellKept lib k ci := by
    intro k ci hf
    simp [TrustChain.empty,TrustChain.findByHashedId8] at hf
  intro k ci hf
  simp only [ClientState.initial] at hf
  split at hf
  · exact hempty k ci hf
  · refine TrustChain.storeAll_forall hempty ?_ k ci hf
    intro c hc
    obtain ⟨e,-,he⟩ := List.mem_filterMap.mp hc
    exact loadEntry_wellKept hk he

/-- A call that stores the one certificate it returns, and nothing when it fails. -/
theorem kept_of_store {m : ClientM CertInfo} (hclean : Op.FailsClean durable m)
    {s : ClientState} (hs : StoreKept lib s)
    (hok : ∀ ci t,Op.exec m s=(.ok ci,t) →
      t.trust=s.trust.addCert ci ∧ WellKept lib ci.hashedId8 ci) :
    StoreKept lib (Op.exec (Outcome.cert <$> m) s).2 := by
  rw [Op.exec_map]
  rcases hrun : Op.exec m s with ⟨r,t⟩
  intro k ci hf
  cases r with
  | error e =>
    have htrust : t.trust=s.trust := congrArg (·.2.1) (hclean s e t hrun)
    rw [htrust] at hf
    exact hs k ci hf
  | ok c =>
    obtain ⟨htrust,hc⟩ := hok c t hrun
    rw [htrust] at hf
    have hone : ∀ c'∈[c],WellKept lib c'.hashedId8 c' := by simpa using hc
    exact TrustChain.storeAll_forall hs hone k ci hf

theorem fetchCert_kept (hk : KeysAllocated lib.asn) {s : ClientState} (hs : StoreKept lib s)
    (path label : String) :
    StoreKept lib (Op.exec (Outcome.cert <$> fetchCert lib w path label) s).2 := by
  apply kept_of_store (fetchCert_failsClean lib w path label) hs
  intro ci t hrun
  obtain ⟨⟨a,ha⟩,events,rfl⟩ := fetchCert_ok hrun
  exact ⟨rfl,certAnswer_wellKept hk ha⟩

/-- Whatever the parse route, a certificate with a re-encoding that fits is well kept. -/
theorem parsed_wellKept (hasn : CertificateCodec lib.asn) (hk : KeysAllocated lib.asn)
    {ci : CertInfo} (hp : Parsed lib ci) (hfit : ReencodesWithin lib ci) :
    WellKept lib ci.hashedId8 ci := by
  cases hp with
  | fetched h => exact certAnswer_wellKept hk h
  | listed h => exact wellKept_listed hasn hk hfit h
  | issued u c label => exact wellKept_reencoded hasn hk hfit rfl

/-- One call keeps the invariant when what it takes fits. -/
theorem step_kept (hasn : CertificateCodec lib.asn) (hk : KeysAllocated lib.asn)
    (s : ClientState) (op : ClientOp) (hs : StoreKept lib s) (hfit : StepFits lib w op s) :
    StoreKept lib (step lib w op s) := by
  cases op with
  | requestEnrolmentCredential canonical rec =>
    have hone := requestEnrolmentCredential_storesOne lib w canonical rec
    apply kept_of_store hone.clean hs
    intro ci t hrun
    have hp := (hone.stores s ci t hrun).1
    obtain ⟨x,hx,hci,rfl⟩ := (requestEnrolmentCredential_ok lib w).mp hrun
    exact ⟨rfl,parsed_wellKept hasn hk hp (hfit x ci hx hci)⟩
  | requestAuthorizationTicket ecHandle ecCert atHandle rec =>
    have hone := requestAuthorizationTicket_storesOne lib w ecHandle ecCert atHandle rec
    apply kept_of_store hone.clean hs
    intro ci t hrun
    have hp := (hone.stores s ci t hrun).1
    obtain ⟨x,hx,hci,rfl⟩ := (requestAuthorizationTicket_ok lib w).mp hrun
    exact ⟨rfl,parsed_wellKept hasn hk hp (hfit x ci hx hci)⟩
  | fetchTrustAnchor => exact fetchCert_kept hk hs _ _
  | fetchCertByName name => exact fetchCert_kept hk hs _ _
  | fetchCertByHashedId8 hid8 => exact fetchCert_kept hk hs _ _
  | discoverTrust =>
    intro k ci hf
    rw [step,perform,Op.exec_map,discoverTrust_trust] at hf
    exact TrustChain.storeAll_forall hs
      (fun c hc => parsed_wellKept hasn hk (accepted_parsed hc) (hfit c hc)) k ci hf
  | fetchCrl rcaHid8 =>
    have htrust : (step lib w (.fetchCrl rcaHid8) s).trust=s.trust := by
      rw [step,perform,Op.exec_map]
      exact (fetchCrl_trust rcaHid8 s).1
    intro k ci hf
    rw [htrust] at hf
    exact hs k ci hf

/-- In every run whose calls all take certificates that fit, every state reached keeps
the invariant. -/
theorem reachable_storeKept (hasn : CertificateCodec lib.asn) (hk : KeysAllocated lib.asn)
    {s : ClientState} (h : Reachable (Initial lib) (step lib w) (StepFits lib w) s) :
    StoreKept lib s :=
  h.invariant (StoreKept lib) (fun _ h₀ => initial_kept hk h₀)
    (fun t op ht hc => step_kept hasn hk t op ht hc)

end PkiClient

namespace Sample

open Framework PkiClient Cert

theorem rogueLib_codec : CertificateCodec rogueLib.asn :=
  lib_certificateCodec _ (by decide +kernel)

theorem rogueLib_keysAllocated : KeysAllocated rogueLib.asn :=
  lib_keysAllocated _ (by decide +kernel)

/-- A discovery whose certificates fit, from a fresh client. -/
theorem discovered_storeKept :
    ((step rogueLib rogueServer .discoverTrust (pinned rogueLib)).trust.findByHashedId8
      (computeHid8 rogueLib rootCa.1)).map (·.certBytes.toVector)=some rootCa.1 ∧
    StoreKept rogueLib (step rogueLib rogueServer .discoverTrust (pinned rogueLib)) := by
  have hinit : Initial rogueLib (pinned rogueLib) := ⟨fun _ => .zero,pinnedConfig,[],rfl⟩
  have hfit : StepFits rogueLib rogueServer .discoverTrust (pinned rogueLib) := by
    have hbytes : ∀ ci∈accepted rogueLib rogueServer (pinned rogueLib),
        ci.certBytes.toVector≠[] := by decide +kernel
    exact fun ci hci => reencodesWithin_of_bytes (hbytes ci hci)
  have hstart : Reachable (Initial rogueLib) (step rogueLib rogueServer)
      (StepFits rogueLib rogueServer) (pinned rogueLib) := .start hinit
  have hkept := reachable_storeKept rogueLib_codec rogueLib_keysAllocated
    (hstart.next .discoverTrust hfit)
  exact ⟨by decide +kernel,hkept⟩

/-- A root CA with seven hundred application permissions. -/
def longCa : Coded Asn.CertificateBase :=
  selfSigned 5 ([2,0x02,0xbc]++(List.replicate 700 [0,1,0x24]).flatten)

def longList : Coded Asn.EtsiTs102941Data := ectl [rcaEntry longCa]

def longEctl : Coded Asn.Ieee1609Dot2Data := signedEnvelope 7 rogueTlm longList.1

def longLib : Lib := lib
  {certs := [rogueTlm,longCa],bodies := [tbs 7 []],envelopes := [longEctl]
   signedBodies := [signedBody longList.1],payloads := [longList]}

def longServer : World := scripted stillSetting 0 [served rogueTlm.1,served longEctl.1]

def longHid8 : HashedId8 := computeHid8 longLib longCa.1

theorem long_certificate_stored_without_bytes :
    CertificateCodec longLib.asn ∧ KeysAllocated longLib.asn ∧
    Initial longLib (pinned longLib) ∧ kMaxCoerMessageLen<longCa.1.length ∧
    ((step longLib longServer .discoverTrust (pinned longLib)).trust.findByHashedId8
      longHid8).map (fun ci => (ci.certBytes.toVector,ci.hashedId8))=some ([],longHid8) ∧
    ¬StoreKept longLib (step longLib longServer .discoverTrust (pinned longLib)) := by
  have hstored : ((step longLib longServer .discoverTrust (pinned longLib)
      ).trust.findByHashedId8 longHid8).map (fun ci => (ci.certBytes.toVector,ci.hashedId8))=
      some ([],longHid8) := by decide +kernel
  refine ⟨lib_certificateCodec _ (by decide +kernel),lib_keysAllocated _ (by decide +kernel),
    ⟨fun _ => .zero,pinnedConfig,[],rfl⟩,by decide +kernel,hstored,?_⟩
  intro h
  obtain ⟨ci,hci,hbytes⟩ := Option.map_eq_some_iff.mp hstored
  exact (h longHid8 ci hci).bytes (Prod.mk.inj hbytes).1

end Sample

end V2xPki
