import V2xPki.Client.Endpoints
import V2xPki.Provisioner.Flow
import V2xPki.Sample.Provisioning

namespace V2xPki

namespace Provisioning

open Framework PkiClient

/-- A CA is below the root: it names the root as its issuer, or it is the root. -/
def Under (ca rca : CertInfo) : Prop :=
  ca.issuerHashId8=rca.hashedId8 ∨ ca.certBytes=rca.certBytes

instance (ca rca : CertInfo) : Decidable (Under ca rca) := inferInstanceAs (Decidable (_ ∨ _))

def OneChain (ta : TrustAnchors) : Prop := Under ta.ea ta.rca ∧ Under ta.aa ta.rca

instance (ta : TrustAnchors) : Decidable (OneChain ta) := inferInstanceAs (Decidable (_ ∧ _))

section
variable (lib : Lib) (w : World) (baseUrl tlmHid8 : String)

/-- What the server has to list for anchors to be picked: an EA, an AA and a root CA come
first, and the two CAs have encryption keys. -/
structure Offers (tlm : CertInfo) (ectl : TrustTopology) (ea : EaInfo) (aa : AaInfo)
    (rca : CertInfo) : Prop where
  tlmSent : tlmAnswered lib w (discoverer lib baseUrl tlmHid8)=.ok tlm
  ectlSent : ectlAnswered lib w (discoverer lib baseUrl tlmHid8) tlm=.ok ectl
  ctls : CtlsHold lib w (discoverer lib baseUrl tlmHid8) tlm ectl
  firstEa : (listedEas lib w (discoverer lib baseUrl tlmHid8) tlm ectl).head?=some ea
  firstAa : (listedAas lib w (discoverer lib baseUrl tlmHid8) tlm ectl).head?=some aa
  firstRca : ectl.rcas.head?=some rca
  eaKey : ea.cert.encryptionKey.empty=false
  aaKey : aa.cert.encryptionKey.empty=false

/-- The condition on the server: the EA and the AA it lists first are below the root CA it
lists first. -/
def FirstListedTogether : Prop :=
  ∀ tlm ectl ea aa rca,Offers lib w baseUrl tlmHid8 tlm ectl ea aa rca →
    Under ea.cert rca ∧ Under aa.cert rca

end

section
variable {lib : Lib} {w : World} {baseUrl tlmHid8 : String} {ta : TrustAnchors}

theorem pickAnchors_some {topo : TrustTopology} (h : pickAnchors baseUrl topo=some ta) :
    ∃ ea aa rca,topo.eas.head?=some ea ∧ topo.aas.head?=some aa ∧ topo.rcas.head?=some rca ∧
      ea.cert.encryptionKey.empty=false ∧ aa.cert.encryptionKey.empty=false ∧
      ta.ea=ea.cert ∧ ta.aa=aa.cert ∧ ta.rca=rca := by
  unfold pickAnchors at h
  split at h
  · cases h
  simp only [Option.bind_eq_bind,Option.bind_eq_some_iff] at h
  obtain ⟨ea,hea,aa,haa,rca,hrca,h⟩ := h
  split at h
  · cases h
  rename_i hkeys
  cases h
  simp only [not_or,Bool.not_eq_true] at hkeys
  exact ⟨ea,aa,rca,hea,haa,hrca,hkeys.1,hkeys.2,rfl,rfl,rfl⟩

/-- From a verified topology with all three lists, anchors are picked. -/
theorem pickAnchors_of {topo : TrustTopology} {ea : EaInfo} {aa : AaInfo} {rca : CertInfo}
    (hectl : topo.ectlSignatureVerified=true) (hctl : topo.ctlSignatureVerified=true)
    (hea : topo.eas.head?=some ea) (haa : topo.aas.head?=some aa)
    (hrca : topo.rcas.head?=some rca) (heaKey : ea.cert.encryptionKey.empty=false)
    (haaKey : aa.cert.encryptionKey.empty=false) :
    ∃ ta,pickAnchors baseUrl topo=some ta ∧ ta.ea=ea.cert ∧ ta.aa=aa.cert ∧ ta.rca=rca := by
  simp [pickAnchors,hectl,hctl,hea,haa,hrca,heaKey,haaKey]

/-- Anchors that are returned are what the server offers first. -/
theorem discover_some (h : discover lib w baseUrl tlmHid8=some ta) :
    ∃ tlm ectl ea aa rca,Offers lib w baseUrl tlmHid8 tlm ectl ea aa rca ∧
      ta.ea=ea.cert ∧ ta.aa=aa.cert ∧ ta.rca=rca := by
  unfold discover at h
  rcases hrun : Op.exec (discoverTrust lib w) (discoverer lib baseUrl tlmHid8) with ⟨r,s'⟩
  rw [hrun] at h
  cases r with
  | error e => cases h
  | ok topo =>
    obtain ⟨tlm,ectl,ht,he,hold,rfl,-⟩ := (discoverTrust_ok lib w).mp hrun
    obtain ⟨heas,haas,-⟩ := rounds_cas lib w he
    obtain ⟨ea,aa,rca,hea,haa,hrca,heaKey,haaKey,hpicked⟩ := pickAnchors_some h
    rw [heas] at hea
    rw [haas] at haa
    rw [rounds_rcas] at hrca
    exact ⟨tlm,ectl,ea,aa,rca,⟨ht,he,hold,hea,haa,hrca,heaKey,haaKey⟩,hpicked⟩

/-- What the server offers first is returned. -/
theorem discover_of_offers {tlm rca : CertInfo} {ectl : TrustTopology} {ea : EaInfo} {aa : AaInfo}
    (h : Offers lib w baseUrl tlmHid8 tlm ectl ea aa rca) :
    ∃ ta,discover lib w baseUrl tlmHid8=some ta ∧
      ta.ea=ea.cert ∧ ta.aa=aa.cert ∧ ta.rca=rca := by
  obtain ⟨heas,haas,hectl⟩ := rounds_cas lib w h.ectlSent
  have hrun := (discoverTrust_ok lib w).mpr ⟨tlm,ectl,h.tlmSent,h.ectlSent,h.ctls,rfl,rfl⟩
  have hctl := (rounds_flag lib w (discoverer lib baseUrl tlmHid8) tlm ectl).mpr h.ctls
  unfold discover
  rw [hrun]
  apply pickAnchors_of hectl hctl
  · rw [heas]
    exact h.firstEa
  · rw [haas]
    exact h.firstAa
  · rw [rounds_rcas]
    exact h.firstRca
  · exact h.eaKey
  · exact h.aaKey

end

/-- The three anchors are each the first of a list of its own, so they form one chain exactly
if the server lists them so. -/
theorem oneChain_iff_listed_together (lib : Lib) (w : World) (baseUrl tlmHid8 : String) :
    (∀ ta,discover lib w baseUrl tlmHid8=some ta → OneChain ta) ↔
      FirstListedTogether lib w baseUrl tlmHid8 := by
  constructor
  · intro h tlm ectl ea aa rca hoffers
    obtain ⟨ta,hta,hea,haa,hrca⟩ := discover_of_offers hoffers
    obtain ⟨hunder,hunder'⟩ := h ta hta
    rw [hea,hrca] at hunder
    rw [haa,hrca] at hunder'
    exact ⟨hunder,hunder'⟩
  · intro h ta hta
    obtain ⟨tlm,ectl,ea,aa,rca,hoffers,hea,haa,hrca⟩ := discover_some hta
    obtain ⟨hunder,hunder'⟩ := h tlm ectl ea aa rca hoffers
    unfold OneChain
    rw [hea,haa,hrca]
    exact ⟨hunder,hunder'⟩

end Provisioning

namespace Sample

open Framework PkiClient Provisioning

/-- A second root CA with an EA and an AA of its own. -/
def neighbourRoot : Coded Asn.CertificateBase := selfSigned 15 []

def neighbourEa : Coded Asn.CertificateBase := issuedBody 15 neighbourRoot eaBody

def neighbourAa : Coded Asn.CertificateBase := issuedBody 15 neighbourRoot aaBody

def bothRoots : Coded Asn.EtsiTs102941Data := ectl [rcaEntry rootCa,rcaEntry neighbourRoot]

def bothRootsEctl : Coded Asn.Ieee1609Dot2Data := signedEnvelope 7 rogueTlm bothRoots.1

def neighbourList : Coded Asn.EtsiTs102941Data :=
  rcaCtl 0 [eaEntry neighbourEa "https://ea",aaEntry neighbourAa "https://aa"]

def neighbourCtl : Coded Asn.Ieee1609Dot2Data := signedEnvelope 15 neighbourRoot neighbourList.1

def neighbourLib : Lib := lib
  {certs := [rogueTlm,rootCa,neighbourRoot,neighbourEa,neighbourAa]
   bodies := [tbs 7 [],tbs 5 [],tbs 15 [],eaBody,aaBody]
   envelopes := [bothRootsEctl,neighbourCtl]
   signedBodies := [signedBody bothRoots.1,signedBody neighbourList.1]
   payloads := [bothRoots,neighbourList]}

/-- The CTL of the first root CA does not come, that of the second one does. -/
def neighbourServer : World :=
  scripted stillSetting 0 [served rogueTlm.1,served bothRootsEctl.1,
    ⟨.error .network,0,fun _ => .zero⟩,served neighbourCtl.1]

/-- The root CA of the anchors has nothing to do with their EA and AA. -/
theorem neighbour_anchors_apart :
    (∃ ta,discover neighbourLib neighbourServer "https://tlm" ""=some ta ∧
      ta.rca.certBytes.toVector=rootCa.1 ∧ ta.aa.certBytes.toVector=neighbourAa.1) ∧
    ¬∀ ta,discover neighbourLib neighbourServer "https://tlm" ""=some ta → OneChain ta := by
  have hrun : (discover neighbourLib neighbourServer "https://tlm" "").map (fun ta =>
      (ta.rca.certBytes.toVector,ta.aa.certBytes.toVector,decide (OneChain ta)))=
      some (rootCa.1,neighbourAa.1,false) := by decide +kernel
  obtain ⟨ta,hta,hsum⟩ := Option.map_eq_some_iff.mp hrun
  obtain ⟨hrca,hrest⟩ := Prod.mk.inj hsum
  obtain ⟨haa,hapart⟩ := Prod.mk.inj hrest
  refine ⟨⟨ta,hta,hrca,haa⟩,?_⟩
  intro h
  exact of_decide_eq_false hapart (h ta hta)

end Sample

end V2xPki
