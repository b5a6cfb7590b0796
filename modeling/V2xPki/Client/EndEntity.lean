import V2xPki.Client.Credential

namespace V2xPki

namespace TrustChain

open Framework

/-- The ways a new entry can matter for `x`: it is the named issuer of `x`, it was not
there before, and the store knows a self-signed certificate as its own issuer. -/
structure ActsAsCa (trust : TrustChain) (c x : CertInfo) : Prop where
  named : x.issuerHashId8=c.hashedId8
  fresh : ∀ old,trust.findByHashedId8 c.hashedId8=some old → {old with label := c.label}≠c
  belowRoot : ∃ root,trust.findByHashedId8 c.issuerHashId8=some root ∧ root.isSelfSigned=true

section
variable {lib : Lib} {trust : TrustChain} {revocation : Option RevocationStore}
variable {c x : CertInfo} {nowTai : Int}

/-- An entry found after `c` was stored is `c` or was there before. -/
theorem find_of_addCert {k : HashedId8} {y : CertInfo}
    (h : (trust.addCert c).findByHashedId8 k=some y) :
    (k=c.hashedId8 ∧ y=c) ∨ trust.findByHashedId8 k=some y := by
  rw [find_addCert] at h
  split at h
  · rename_i hk
    exact .inl ⟨hk,(Option.some.inj h).symm⟩
  · exact .inr h

/-- A root found after a certificate with an issuer was stored was there before. -/
theorem find_root_of_addCert (hc : c.isSelfSigned=false) {k : HashedId8} {y : CertInfo}
    (h : (trust.addCert c).findByHashedId8 k=some y) (hy : y.isSelfSigned=true) :
    trust.findByHashedId8 k=some y := by
  rcases find_of_addCert h with ⟨-,rfl⟩ | hf
  · rw [hc] at hy
    cases hy
  · exact hf

/-- A chain through `aa` found after `c` was stored is one of the store before, when that
has the issuer of `x`, label apart, and the root. -/
theorem anchored_of_addCert {old aa root : CertInfo} {label : String}
    (hsame : {old with label := label}=aa)
    (h : AnchoredChain (authority lib (trust.addCert c) revocation nowTai) [x,aa,root])
    (hx : trust.findByHashedId8 x.issuerHashId8=some old)
    (hroot : trust.findByHashedId8 aa.issuerHashId8=some root) :
    AnchoredChain (authority lib trust revocation nowTai) [x,old,root] := by
  subst hsame
  have hp := (AnchoredChain.triple_iff _ _ _).mp h
  exact (AnchoredChain.triple_iff _ _ _).mpr ⟨hp.1,⟨hp.2.1.1,hx,hp.2.1.2.2⟩,
    ⟨hp.2.2.1.1,hroot,hp.2.2.1.2.2⟩,hp.2.2.2⟩

/-- A certificate with an issuer widens trust only where it acts as a CA. -/
theorem validateChain_addCert (hc : c.isSelfSigned=false)
    (h : (trust.addCert c).validateChain lib revocation x nowTai=true) :
    trust.validateChain lib revocation x nowTai=true ∨ trust.ActsAsCa c x := by
  have hiff := validateChain_iff lib trust revocation x nowTai
  rcases (validateChain_iff lib _ revocation x nowTai).mp h with ⟨root,h⟩ | ⟨aa,root,h⟩
  · -- the issuer of `x` is a root, so it is not `c`
    have hp := (AnchoredChain.pair_iff x root).mp h
    have hf := find_root_of_addCert hc hp.2.1.2.1 hp.2.2.1
    exact .inl (hiff.mpr (.inl ⟨root,
      (AnchoredChain.pair_iff x root).mpr ⟨hp.1,⟨hp.2.1.1,hf,hp.2.1.2.2⟩,hp.2.2⟩⟩))
  · have hp := (AnchoredChain.triple_iff x aa root).mp h
    have hroot := find_root_of_addCert hc hp.2.2.1.2.1 hp.2.2.2.1
    rcases find_of_addCert hp.2.1.2.1 with ⟨hk,rfl⟩ | hf
    · by_cases hold : ∃ old,trust.findByHashedId8 aa.hashedId8=some old ∧
          {old with label := aa.label}=aa
      · obtain ⟨old,hf,hsame⟩ := hold
        exact .inl (hiff.mpr (.inr ⟨old,root,anchored_of_addCert hsame h (hk ▸ hf) hroot⟩))
      · exact .inr ⟨hk,fun old hf hsame => hold ⟨old,hf,hsame⟩,root,hroot,hp.2.2.2.1⟩
    · exact .inl (hiff.mpr (.inr ⟨aa,root,anchored_of_addCert rfl h hf hroot⟩))

end

end TrustChain

namespace PkiClient

open Framework

variable {lib : Lib} {w : World} {s s' : ClientState} {c : CertInfo}

/-- What `validate_chain` answers in a client. -/
def validates (lib : Lib) (s : ClientState) (x : CertInfo) (nowTai : Int) : Bool :=
  s.trust.validateChain lib (some s.revocation) x nowTai

/-- A certificate that passed the checks of a response is not self-signed. -/
theorem certFromResponse_issued {Code : Type} [DecidableEq Code] {ok : Code} {label : String}
    {trust : TrustChain} {revocation : RevocationStore} {nowTai : Int} {r : Response Code}
    (h : certFromResponse lib ok label trust revocation nowTai r=.ok c) :
    c.isSelfSigned=false := by
  obtain ⟨-,_,-,-,-,hv⟩ := (certFromResponse_ok lib).mp h
  by_contra hself
  simp [TrustChain.validateChain,hself] at hv

/-- Storing the credential of a successful request widens trust at most by certificates
that name it as their issuer, and only if it was issued directly by a root. -/
theorem request_widens_only_below_root :
    (∀ canonical rec,
      Op.exec (requestEnrolmentCredential lib w canonical rec) s=(.ok c,s') →
      ∀ x nowTai,validates lib s' x nowTai=true →
        validates lib s x nowTai=true ∨ s.trust.ActsAsCa c x) ∧
    ∀ ecHandle ecCert atHandle rec,
      Op.exec (requestAuthorizationTicket lib w ecHandle ecCert atHandle rec) s=(.ok c,s') →
      ∀ x nowTai,validates lib s' x nowTai=true →
        validates lib s x nowTai=true ∨ s.trust.ActsAsCa c x := by
  constructor
  · intro canonical rec hrun x nowTai hv
    obtain ⟨y,-,hci,rfl⟩ := (requestEnrolmentCredential_ok lib w).mp hrun
    exact TrustChain.validateChain_addCert (certFromResponse_issued hci) hv
  · intro ecHandle ecCert atHandle rec hrun x nowTai hv
    obtain ⟨y,-,hci,rfl⟩ := (requestAuthorizationTicket_ok lib w).mp hrun
    exact TrustChain.validateChain_addCert (certFromResponse_issued hci) hv

end PkiClient

namespace Sample

open Framework PkiClient

/-- The EC the station asked for, issued by the self-signed EA. -/
def ownEc : Coded Asn.CertificateBase := issued 5 rootCa 21 []

/-- A certificate the station signs with its own key under its EC. -/
def selfIssued : Coded Asn.CertificateBase := issued 21 ownEc 33 []

def ownLib : Lib := enrolLib (replyTables ownEc [ownEc,selfIssued] [tbs 21 [],tbs 33 []])

theorem ownEc_returned :
    ∃ c,Op.exec (requestEnrolmentCredential ownLib (enrolServer ownEc) canonical ecRecord)
        (enrolling ownLib)=(.ok c,(Op.exec (requestEnrolmentCredential ownLib
          (enrolServer ownEc) canonical ecRecord) (enrolling ownLib)).2) ∧
      c.certBytes.toVector=ownEc.1 := by
  have hrun : (Op.exec (requestEnrolmentCredential ownLib (enrolServer ownEc) canonical
      ecRecord) (enrolling ownLib)).1.toOption.map (·.certBytes.toVector)=some ownEc.1 := by
    decide +kernel
  exact Op.exec_of_eval hrun

theorem enrolment_widens_only_below_root :
    ∃ c t,Op.exec (requestEnrolmentCredential ownLib (enrolServer ownEc) canonical ecRecord)
        (enrolling ownLib)=(.ok c,t) ∧
      ∀ x nowTai,validates ownLib t x nowTai=true →
        validates ownLib (enrolling ownLib) x nowTai=true ∨
          (enrolling ownLib).trust.ActsAsCa c x := by
  obtain ⟨c,hrun,-⟩ := ownEc_returned
  exact ⟨c,_,hrun,request_widens_only_below_root.1 canonical ecRecord hrun⟩

/-- With the EC stored, what the station signs with it validates. -/
theorem enrolled_station_acts_as_ca :
    Initial ownLib (enrolling ownLib) ∧
    ([rootCa,otherCa,ownEc,selfIssued].map fun c => Cert.computeHid8 ownLib c.1).Nodup ∧
    ∃ c t,Op.exec (requestEnrolmentCredential ownLib (enrolServer ownEc) canonical ecRecord)
        (enrolling ownLib)=(.ok c,t) ∧
      c.certBytes.toVector=ownEc.1 ∧
      ¬∀ x nowTai,validates ownLib t x nowTai=true →
        validates ownLib (enrolling ownLib) x nowTai=true := by
  refine ⟨⟨_,_,_,rfl⟩,by decide +kernel,?_⟩
  obtain ⟨c,hrun,hbytes⟩ := ownEc_returned
  have hafter : validates ownLib (Op.exec (requestEnrolmentCredential ownLib
      (enrolServer ownEc) canonical ecRecord) (enrolling ownLib)).2
      (Cert.fromCoer ownLib .zero selfIssued.1) 130000000=true := by decide +kernel
  have hbefore : validates ownLib (enrolling ownLib) (Cert.fromCoer ownLib .zero selfIssued.1)
      130000000=false := by decide +kernel
  refine ⟨c,_,hrun,hbytes,?_⟩
  intro h
  rw [h _ _ hafter] at hbefore
  cases hbefore

end Sample

end V2xPki
