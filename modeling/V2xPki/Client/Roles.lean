import V2xPki.Client.Provenance
import V2xPki.Client.TlmPin

namespace V2xPki

namespace TrustChain

/-- The getters of the four roles look for these. -/
def rolePrefixes : List String := ["tlm_","rca_","ea_","aa_"]

/-- The labels that `discover_trust` and the trust-list parser write. -/
def roleLabels : List String := ["tlm","rca","ea","aa"]

theorem label_has_no_rolePrefix {label lead : String} (hl : label∈roleLabels)
    (hp : lead∈rolePrefixes) : ¬lead.toList<+:label.toList := by
  have hall : ∀ l∈roleLabels,∀ p∈rolePrefixes,¬p.toList<+:l.toList := by decide
  exact hall label hl lead hp

theorem latest_isSome {certs : List CertInfo} {ci : CertInfo} (h : ci∈certs) :
    ∃ c,latest certs ci.hashedId8=some c := by
  apply Option.isSome_iff_exists.mp
  rw [latest,List.find?_isSome]
  exact ⟨ci,List.mem_reverse.mpr h,beq_self_eq_true _⟩

/-- Once certificates are stored under these labels, no getter returns one of them. -/
theorem stored_not_returned {certs : List CertInfo} {trust : TrustChain} (hk : trust.Keyed)
    (hlabels : ∀ c∈certs,c.label∈roleLabels) {lead : String} (hp : lead∈rolePrefixes)
    {ci c : CertInfo} (hci : ci∈certs) (hc : c∈(certs.foldl addCert trust).getByPrefix lead) :
    c.hashedId8≠ci.hashedId8 := by
  intro heq
  obtain ⟨⟨k,hfind⟩,hlead⟩ := mem_getByPrefix.mp hc
  have hkey := keyed_storeAll hk k c hfind
  obtain ⟨last,hlast⟩ := latest_isSome hci
  -- what is filed under the identifier is the last of the stored ones that has it
  rw [find_storeAll,hkey,heq,hlast,Option.some_or] at hfind
  obtain rfl := Option.some.inj hfind
  exact label_has_no_rolePrefix (hlabels last (latest_some hlast).1) hp hlead

end TrustChain

namespace PkiClient

open Framework TrustChain

/-- The certificate is among the given ones, whatever label it has there. -/
def Among (ci : CertInfo) (certs : List CertInfo) : Prop :=
  ∃ c∈certs,{c with label := ci.label}=ci

/-- The store has the certificate, and the getter of its role returns it. -/
def Filed (trust : TrustChain) (getter : TrustChain → List CertInfo) (ci : CertInfo) : Prop :=
  (∃ c,trust.findByHashedId8 ci.hashedId8=some c ∧ {c with label := ci.label}=ci) ∧
    Among ci (getter trust)

/-- What one discovery that returned `t` should do for the getters. -/
structure FoundByRole (before : TrustChain) (t : TrustTopology) (after : TrustChain) : Prop where
  tlm : ∀ ci,t.tlm=some ci → Filed after getTlms ci
  rcas : ∀ ci∈t.rcas,Filed after getRcas ci
  eas : ∀ ea∈t.eas,Filed after getEas ea.cert
  aas : ∀ aa∈t.aas,Filed after getAas aa.cert
  kept : ∀ getter∈[getTlms,getRcas,getEas,getAas],∀ ci∈getter before,Among ci (getter after)

variable (lib : Lib) (w : World)

theorem certPtrToInfo_label {uninit : HashedId8} {cert : Option Asn.CertificateBase}
    {label : String} {ci : CertInfo}
    (h : TrustList.certPtrToInfo lib uninit cert label=some ci) : ci.label=label := by
  simp only [TrustList.certPtrToInfo,Option.bind_eq_bind,Option.bind_eq_some_iff] at h
  obtain ⟨c,-,h⟩ := h
  split at h
  · cases h
  · cases h
    rfl

theorem certAnswer_label {label : String} {a : Answer} {ci : CertInfo}
    (h : certAnswer lib label a=.ok ci) : ci.label=label := by
  unfold certAnswer at h
  split at h
  · cases h
  dsimp only at h
  split at h
  · cases h
  · cases h
    rfl

/-- Every certificate a call stores gets one of the four labels. -/
theorem accepted_label {s : ClientState} {ci : CertInfo} (h : ci∈accepted lib w s) :
    ci.label∈roleLabels := by
  cases accepted_origin h with
  | tlm fetched => simp [certAnswer_label lib fetched,roleLabels]
  | rca fetched listed =>
    obtain ⟨-,ctl,-,-,uninit,entry,-,hinfo⟩ := listed
    simp [certPtrToInfo_label lib hinfo,roleLabels]
  | subCa fetched listed sub =>
    obtain ⟨-,ctl,-,-,⟨uninit,entry,-,hinfo⟩ | ⟨uninit,entry,-,hinfo⟩⟩ := sub
    · simp [certPtrToInfo_label lib hinfo,roleLabels]
    · simp [certPtrToInfo_label lib hinfo,roleLabels]

/-- The TLM of a topology that is returned was stored in the call. -/
theorem discoverTrust_tlm_accepted {s s' : ClientState} {t : TrustTopology}
    (h : Op.exec (discoverTrust lib w) s=(.ok t,s')) :
    ∃ tlm,t.tlm=some tlm ∧ tlm∈accepted lib w s := by
  obtain ⟨tlm,ectl,ht,he,-,rfl,-⟩ := (discoverTrust_ok lib w).mp h
  refine ⟨tlm,visitAll_tlm lib w _ _ _,?_⟩
  simp only [accepted,ht,he]
  exact visitAll_keeps_added lib w List.mem_cons_self

/-- Whatever the store held and the server answered: the TLM certificate of a topology that is
returned is not among those that `get_tlms` then returns. -/
theorem discovered_not_found_by_role {s s' : ClientState} {t : TrustTopology}
    (hk : s.trust.Keyed) (h : Op.exec (discoverTrust lib w) s=(.ok t,s')) :
    ¬FoundByRole s.trust t s'.trust := by
  intro hfound
  obtain ⟨tlm,htlm,hmem⟩ := discoverTrust_tlm_accepted lib w h
  obtain ⟨-,c,hc,hsame⟩ := hfound.tlm tlm htlm
  have htrust : s'.trust=(accepted lib w s).foldl TrustChain.addCert s.trust := by
    have hs := discoverTrust_trust lib w s
    rw [h] at hs
    exact hs
  have hid := congrArg CertInfo.hashedId8 hsame
  rw [htrust] at hc
  exact stored_not_returned hk (fun ci hci => accepted_label lib w hci)
    (List.mem_cons_self : "tlm_"∈rolePrefixes) hmem hc hid

end PkiClient

namespace Sample

open Framework PkiClient TrustChain

theorem pinned_keyed (l : Lib) : (pinned l).trust.Keyed := by
  intro k ci h
  simp [pinned,ClientState.initial,pinnedConfig,TrustChain.empty,TrustChain.findByHashedId8] at h

theorem rogue_not_found_by_role :
    ∃ t s',Op.exec (discoverTrust rogueLib rogueServer) (pinned rogueLib)=(.ok t,s') ∧
      ¬FoundByRole (pinned rogueLib).trust t s'.trust := by
  have hrun : (Op.exec (discoverTrust rogueLib rogueServer) (pinned rogueLib)).1.toOption.map
      (fun t => t.rcas.length)=some 1 := by decide +kernel
  obtain ⟨t,hexec,-⟩ := Op.exec_of_eval hrun
  exact ⟨t,_,hexec,discovered_not_found_by_role rogueLib rogueServer (pinned_keyed rogueLib) hexec⟩

/-- A client that loaded the root CA of the ECTL from its directory, as `rca_x`. -/
def anchored : ClientState := .initial rogueLib (fun _ => .zero)
  {pinnedConfig with trustDir := "/etc/trust"} [⟨true,".cert","rca_x",some rootCa.1⟩]

/-- Listed in the ECTL, that root CA is not returned any more. -/
theorem discovery_relabels_anchor :
    (anchored.trust.getRcas.map fun c => c.certBytes.toVector)=[rootCa.1] ∧
    ∃ t s',Op.exec (discoverTrust rogueLib rogueServer) anchored=(.ok t,s') ∧
      (t.rcas.map fun c => c.certBytes.toVector)=[rootCa.1] ∧
      s'.trust.getRcas=[] ∧ ¬FoundByRole anchored.trust t s'.trust := by
  have hrun : (Op.exec (discoverTrust rogueLib rogueServer) anchored).1.toOption.map
      (fun t => t.rcas.map fun c => c.certBytes.toVector)=some [rootCa.1] := by decide +kernel
  have hafter : (Op.exec (discoverTrust rogueLib rogueServer) anchored).2.trust.getRcas=[] := by
    decide +kernel
  have hbefore : (anchored.trust.getRcas.map fun c => c.certBytes.toVector)=[rootCa.1] := by
    decide +kernel
  obtain ⟨t,hexec,hrcas⟩ := Op.exec_of_eval hrun
  refine ⟨hbefore,t,_,hexec,hrcas,hafter,?_⟩
  intro hfound
  have hne : anchored.trust.getRcas≠[] := by
    intro hnil
    rw [hnil] at hbefore
    cases hbefore
  obtain ⟨ci,hci⟩ := List.exists_mem_of_ne_nil _ hne
  obtain ⟨c,hc,-⟩ := hfound.kept getRcas (by simp) ci hci
  rw [hafter] at hc
  cases hc

end Sample

end V2xPki
