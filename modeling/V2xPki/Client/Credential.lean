import V2xPki.Sample.Enrolment
import V2xPki.Trust.ChainPath

namespace V2xPki

/-- `key` is the uncompressed SEC1 point `pub` itself or its compressed form. -/
def Sec1FormOf (pub key : Bytes) : Prop :=
  key=pub ∨ ∃ x y : Bytes,x.length=y.length ∧ pub=0x04::(x++y) ∧
    key=(if (y.getLastD 0)&&&1=0 then 0x02 else 0x03)::x

namespace PkiClient

open Framework

variable (lib : Lib) (w : World)

/-- A certificate for the holder of `key`, issued by the CA with the given identifier. -/
structure IssuedFor (ca : HashedId8) (key : KeyPair) (ci : CertInfo) : Prop where
  issuer : ci.issuerHashId8=ca
  verificationKey : Sec1FormOf key.publicKey.toVector ci.publicKey.toVector

/-- What a call returns answers what it asked for, with the key pair stored under the
handle; a call that fails stores nothing. -/
def CredentialAnswers : ClientOp → ClientState → Prop
  | .requestEnrolmentCredential canonical rec,s =>
      (∀ ci t,Op.exec (requestEnrolmentCredential lib w canonical rec) s=(.ok ci,t) →
        ∃ key,(w.setting s.events).loadKeypair canonical=some key ∧
          IssuedFor rec.eaHashedId8 key ci) ∧
      ∀ e t,Op.exec (requestEnrolmentCredential lib w canonical rec) s=(.error e,t) →
        durable t=durable s
  | .requestAuthorizationTicket ecHandle ecCert atHandle rec,s =>
      (∀ ci t,Op.exec (requestAuthorizationTicket lib w ecHandle ecCert atHandle rec) s=
          (.ok ci,t) →
        ∃ key,(w.setting s.events).loadKeypair atHandle=some key ∧
          IssuedFor rec.aaHashedId8 key ci) ∧
      ∀ e t,Op.exec (requestAuthorizationTicket lib w ecHandle ecCert atHandle rec) s=
          (.error e,t) → durable t=durable s
  | _,_ => True

/-- A response with a chained certificate only brings one of the CA that was asked, for
the key that was sent. -/
def FaithfulReply {Code : Type} (ok : Code) (ca : HashedId8) (s : ClientState)
    (x : Exchange Code) : Prop :=
  ∀ cert,x.response.responseCode=ok → x.response.certificate=some cert →
    s.trust.validateChain lib (some s.revocation) cert x.nowTai=true →
    IssuedFor ca x.key cert

/-- The condition on one call: only the two requests have one. -/
def FaithfulServer : ClientOp → ClientState → Prop
  | .requestEnrolmentCredential canonical rec,s =>
      ∀ x,ecExchange lib w canonical rec s=some x → FaithfulReply lib .ok rec.eaHashedId8 s x
  | .requestAuthorizationTicket ecHandle ecCert atHandle rec,s =>
      ∀ x,atExchange lib w ecHandle ecCert atHandle rec s=some x →
        FaithfulReply lib .ok rec.aaHashedId8 s x
  | _,_ => True

variable {lib w}

/-- The checks on a response look at its code and at the chain, never at the issuer that
was asked or the key that was sent. -/
theorem faithfulReply_iff {Code : Type} [DecidableEq Code] {ok : Code} {ca : HashedId8}
    {s : ClientState} {x : Exchange Code} (label : String) :
    FaithfulReply lib ok ca s x ↔
      ∀ ci,certFromResponse lib ok label s.trust s.revocation x.nowTai x.response=.ok ci →
        IssuedFor ca x.key ci := by
  constructor
  · intro h ci hci
    obtain ⟨hok,cert,hc,rfl,-,hv⟩ := (certFromResponse_ok lib).mp hci
    have hm := h cert hok hc hv
    exact ⟨hm.issuer,hm.verificationKey⟩
  · intro h cert hok hc hv
    have hpresent := TrustChain.issuerChainPresent_of_validateChain lib _ _ _ _ hv
    have hm := h {cert with label := label}
      ((certFromResponse_ok lib).mpr ⟨hok,cert,hc,rfl,hpresent,hv⟩)
    exact ⟨hm.issuer,hm.verificationKey⟩

/-- One call: it answers what it asked for exactly when the server does. -/
theorem credentialAnswers_iff (op : ClientOp) (s : ClientState) :
    CredentialAnswers lib w op s ↔ FaithfulServer lib w op s := by
  cases op with
  | requestEnrolmentCredential canonical rec =>
    have hclean := requestEnrolmentCredential_failsClean lib w canonical rec s
    simp only [CredentialAnswers,FaithfulServer,faithfulReply_iff "ec"]
    refine ⟨?_,fun h => ⟨?_,hclean⟩⟩
    · intro h x hx ci hci
      obtain ⟨key,hkey,hm⟩ := h.1 ci _ ((requestEnrolmentCredential_ok lib w).mpr
        ⟨x,hx,hci,rfl⟩)
      obtain rfl : key=x.key := Option.some.inj (hkey.symm.trans (ecExchange_some lib w hx).1)
      exact hm
    · intro ci t hrun
      obtain ⟨x,hx,hci,-⟩ := (requestEnrolmentCredential_ok lib w).mp hrun
      exact ⟨x.key,(ecExchange_some lib w hx).1,h x hx ci hci⟩
  | requestAuthorizationTicket ecHandle ecCert atHandle rec =>
    have hclean := requestAuthorizationTicket_failsClean lib w ecHandle ecCert atHandle rec s
    simp only [CredentialAnswers,FaithfulServer,faithfulReply_iff "at"]
    refine ⟨?_,fun h => ⟨?_,hclean⟩⟩
    · intro h x hx ci hci
      obtain ⟨key,hkey,hm⟩ := h.1 ci _ ((requestAuthorizationTicket_ok lib w).mpr
        ⟨x,hx,hci,rfl⟩)
      obtain rfl : key=x.key := Option.some.inj (hkey.symm.trans (atExchange_some lib w hx).1)
      exact hm
    · intro ci t hrun
      obtain ⟨x,hx,hci,-⟩ := (requestAuthorizationTicket_ok lib w).mp hrun
      exact ⟨x.key,(atExchange_some lib w hx).1,h x hx ci hci⟩
  | _ => exact Iff.rfl

variable (lib w)

/-- Whole runs: every credential of a run answers its request exactly when every accepted
response does. -/
theorem run_credentialAnswers_iff (ops : List ClientOp) (s : ClientState) :
    Along (step lib w) (CredentialAnswers lib w) ops s ↔
      Along (step lib w) (FaithfulServer lib w) ops s :=
  along_congr credentialAnswers_iff ops s

end PkiClient

namespace Sample

open Framework PkiClient

/-- A certificate of the other CA for a key the station does not have. -/
def foreignEc : Coded Asn.CertificateBase := issued 9 otherCa 33 []

def foreignLib : Lib := enrolLib (replyTables foreignEc [foreignEc] [tbs 33 []])

theorem foreign_credential_returned :
    Initial foreignLib (enrolling foreignLib) ∧
    (∃ ci t,Op.exec (requestEnrolmentCredential foreignLib (enrolServer foreignEc) canonical
        ecRecord) (enrolling foreignLib)=(.ok ci,t) ∧
      ci.issuerHashId8=Cert.computeHid8 foreignLib otherCa.1 ∧
      ci.publicKey.toVector=0x02::binpad 32 33 ∧
      t.trust.findByHashedId8 ci.hashedId8=some ci) ∧
    ¬CredentialAnswers foreignLib (enrolServer foreignEc)
      (.requestEnrolmentCredential canonical ecRecord) (enrolling foreignLib) := by
  have hrun : (Op.exec (requestEnrolmentCredential foreignLib (enrolServer foreignEc) canonical
      ecRecord) (enrolling foreignLib)).1.toOption.map (fun ci =>
        (ci.issuerHashId8,ci.publicKey.toVector))=
      some (Cert.computeHid8 foreignLib otherCa.1,0x02::binpad 32 33) := by decide +kernel
  have hdiffer : Cert.computeHid8 foreignLib otherCa.1≠ecRecord.eaHashedId8 := by
    decide +kernel
  obtain ⟨ci,hexec,hsum⟩ := Op.exec_of_eval hrun
  obtain ⟨hissuer,hkey⟩ := Prod.mk.inj hsum
  obtain ⟨x,-,-,hstate⟩ := (requestEnrolmentCredential_ok _ _).mp hexec
  refine ⟨⟨_,_,_,rfl⟩,⟨ci,_,hexec,hissuer,hkey,?_⟩,?_⟩
  · rw [hstate]
    simp [credited,TrustChain.find_addCert]
  · intro h
    obtain ⟨_,-,hm⟩ := h.1 ci _ hexec
    exact hdiffer (hissuer.symm.trans hm.issuer)

end Sample

end V2xPki
