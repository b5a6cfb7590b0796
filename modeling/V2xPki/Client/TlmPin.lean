import V2xPki.Client.Discovery
import V2xPki.Trust.Identity

namespace V2xPki

namespace PkiClient

open Framework

variable (lib : Lib)

/-- A topology that comes back names the pinned TLM. -/
def PinHeld (w : World) (s : ClientState) : Prop :=
  ∀ t s',Op.exec (discoverTrust lib w) s=(.ok t,s') →
    ∃ tlm,t.tlm=some tlm ∧ SameHex (hid8ToHex tlm.hashedId8) s.config.tlmHid8

/-- The server can follow this TLM certificate with an ECTL that verifies under it. -/
def SignsAnEctl (tlm : CertInfo) : Prop := ∃ b ectl,ectlAnswer lib tlm b=.ok ectl

theorem roundAnswer_scripted (setting : Setting) {n : Nat} {answers : List Answer}
    {v : Visit} (h : n+answers.length≤v.events.length) (baseUrl : String) (rca : CertInfo) :
    roundAnswer lib (scripted setting n answers) baseUrl v rca=.missing := by
  have hout : answers.length≤v.events.length-n := by omega
  simp only [roundAnswer,scripted,List.getD_eq_default _ _ hout]
  rfl

/-- Once the script has run out every CTL is missing, so none is refused. -/
theorem noneRefused_scripted {setting : Setting} {n : Nat} {answers : List Answer}
    (baseUrl : String) (rcas : List CertInfo) (v : Visit)
    (h : n+answers.length≤v.events.length) :
    NoneRefused lib (scripted setting n answers) baseUrl rcas v := by
  induction rcas generalizing v with
  | nil => trivial
  | cons rca rcas ih =>
    have hmiss := roundAnswer_scripted lib setting h baseUrl rca
    refine ⟨by rw [hmiss]; exact CtlAnswer.noConfusion,ih _ ?_⟩
    have hev : (visit lib (scripted setting n answers) baseUrl v rca).events.length=
        v.events.length+1 := by simp [visit,hmiss]
    omega

/-- A server that sends a certificate, an ECTL that verifies under it and nothing else
gets a topology out of the client. -/
theorem discoverTrust_scripted (s : ClientState) (setting : Setting) {a b : Answer}
    {tlm : CertInfo} {ectl : TrustTopology} (ha : certAnswer lib "tlm" a=.ok tlm)
    (hb : ectlAnswer lib tlm b=.ok ectl) :
    ∃ t s',Op.exec (discoverTrust lib (scripted setting s.events.length [a,b])) s=(.ok t,s') ∧
      t.tlm=some tlm := by
  have h₁ : tlmAnswered lib (scripted setting s.events.length [a,b]) s=.ok tlm := by
    simpa [tlmAnswered,scripted] using ha
  have h₂ : ectlAnswered lib (scripted setting s.events.length [a,b]) s tlm=.ok ectl := by
    simpa [ectlAnswered,scripted] using hb
  refine ⟨_,_,(discoverTrust_ok lib _).mpr ⟨tlm,ectl,h₁,h₂,?_,rfl,rfl⟩,?_⟩
  · exact noneRefused_scripted lib _ _ _ (by simp [loopStart,visitStart])
  · exact visitAll_tlm lib _ _ _ _

/-- The configured identifier only chooses the URL, so it binds the result exactly when
the certificate served there already matches it or signs no ECTL at all. -/
theorem pinHeld_iff (s : ClientState) (a : Answer) :
    (∀ w : World,w.answer s.events (tlmRequest s.config)=a → PinHeld lib w s) ↔
      ∀ tlm,certAnswer lib "tlm" a=.ok tlm →
        SameHex (hid8ToHex tlm.hashedId8) s.config.tlmHid8 ∨ ¬SignsAnEctl lib tlm := by
  constructor
  · intro h tlm ha
    by_cases hs : SignsAnEctl lib tlm
    · obtain ⟨b,ectl,hb⟩ := hs
      obtain ⟨t,s',hrun,ht⟩ := discoverTrust_scripted lib s stillSetting ha hb
      obtain ⟨tlm',ht',hx⟩ := h _ (by simp [scripted]) t s' hrun
      obtain rfl : tlm=tlm' := Option.some.inj (ht.symm.trans ht')
      exact .inl hx
    · exact .inr hs
  · intro h w hw t s' hrun
    obtain ⟨tlm,ectl,ht,he,-,rfl,-⟩ := (discoverTrust_ok lib w).mp hrun
    rw [tlmAnswered,hw] at ht
    refine ⟨tlm,visitAll_tlm lib w _ _ _,?_⟩
    rcases h tlm ht with hx | hn
    · exact hx
    · exact absurd ⟨_,ectl,he⟩ hn

end PkiClient

namespace Sample

open Framework PkiClient

/-- A TLM of the server's own making, and an ECTL it signs. -/
def rogueTlm : Coded Asn.CertificateBase := selfSigned 7 []

def rogueList : Coded Asn.EtsiTs102941Data := ectl [rcaEntry rootCa]

def rogueEctl : Coded Asn.Ieee1609Dot2Data := signedEnvelope 7 rogueTlm rogueList.1

def rogueLib : Lib := lib
  {certs := [rogueTlm,rootCa],bodies := [tbs 7 [],tbs 5 []],envelopes := [rogueEctl]
   signedBodies := [signedBody rogueList.1],payloads := [rogueList]}

def pinnedConfig : PkiClientConfig where
  eaUrl := ""
  aaUrl := ""
  tlmUrl := "https://tlm"
  trustDir := ""
  tlmHid8 := "0011223344556677"

def pinned (l : Lib) : ClientState := .initial l (fun _ => .zero) pinnedConfig []

/-- A response with status 200, processed at the epoch. -/
def served (body : Bytes) : Answer := ⟨.ok ⟨200,body⟩,0,fun _ => .zero⟩

def rogueServer : World := scripted stillSetting 0 [served rogueTlm.1,served rogueEctl.1]

theorem rogue_tlm_accepted :
    (pinned rogueLib).config.tlmHid8≠"" ∧
    (∃ t s',Op.exec (discoverTrust rogueLib rogueServer) (pinned rogueLib)=(.ok t,s') ∧
      t.rcas.map (·.certBytes.toVector)=[rootCa.1]) ∧
    ¬PinHeld rogueLib rogueServer (pinned rogueLib) := by
  have hrun : (Op.exec (discoverTrust rogueLib rogueServer) (pinned rogueLib)).1.toOption.map (fun t =>
      (t.rcas.map (·.certBytes.toVector),t.tlm.map fun c =>
        decide (SameHex (hid8ToHex c.hashedId8) (pinned rogueLib).config.tlmHid8)))=
      some ([rootCa.1],some false) := by decide +kernel
  obtain ⟨t,hexec,hsum⟩ := Op.exec_of_eval hrun
  obtain ⟨hrcas,hno⟩ := Prod.mk.inj hsum
  refine ⟨by decide,⟨t,_,hexec,hrcas⟩,?_⟩
  intro h
  obtain ⟨tlm,ht,hx⟩ := h t _ hexec
  rw [ht] at hno
  simp [hx] at hno

end Sample

end V2xPki
