import V2xPki.Client.CrlFetch
import V2xPki.Trust.ChainPath

namespace V2xPki

namespace PkiClient

open Framework Cert TrustChain

section
variable (lib : Lib) (w : World)

/-- A client right after a `fetch_crl` that listed `h` under `r`, in any run that started
with every entry under the identifier of its octets. -/
def JustRevoked (r h : HashedId8) (s : ClientState) : Prop :=
  ∃ s₀ crl,Reachable (KeyedByBytes lib) (step lib w) (fun _ _ => True) s₀ ∧
    Op.exec (fetchCrl lib w r) s₀=(.ok crl,s) ∧ h∈crl.revoked

/-- A call that brings no new list of `r`. -/
def BringsNoCrl (r : HashedId8) (op : ClientOp) (s : ClientState) : Prop :=
  op=.fetchCrl r → ∃ e,(Op.exec (fetchCrl lib w r) s).1=.error e

/-- What later calls keep of a revocation. -/
structure Revoking (r h : HashedId8) (s : ClientState) : Prop where
  keyed : KeyedByBytes lib s
  revoked : s.revocation.isRevoked r h=true

end

section
variable {lib : Lib} {w : World} {r h : HashedId8} {s : ClientState}

theorem parsed_identifier (hasn : CertificateCodec lib.asn) {ci : CertInfo}
    (hp : Parsed lib ci) (hb : ci.certBytes.toVector≠[]) :
    ci.hashedId8=computeHid8 lib ci.certBytes.toVector := by
  -- a re-encoding is not empty when the octets are there, and reads back
  have hreencoded : ∀ u c label,ci={fromStruct lib u c (Coer.encode lib.asn.certificateBase c)
      with label := label} → ci.hashedId8=computeHid8 lib ci.certBytes.toVector := by
    intro u c label hci
    obtain ⟨hne,-⟩ := reencodesWithin_of_bytes hb u c label hci
    have hd := Coer.decode_encode hasn.roundTrip (Coer.encode_ne_nil hne)
    subst hci
    exact fromStruct_identifier hd u hb
  cases hp with
  | @fetched label a _ hfetched =>
    obtain ⟨body,c,-,hd,-,-,rfl⟩ := certAnswer_ok.mp hfetched
    exact fromStruct_identifier hd (a.mem 0) hb
  | listed hlisted =>
    obtain ⟨c,-,-,hci⟩ := certPtrToInfo_some hlisted
    have henc : Coer.encode lib.asn.etsiTs103097Certificate c=
        Coer.encode lib.asn.certificateBase c := by rw [Coer.encode,Coer.encode,hasn.etsi_encode]
    rw [henc] at hci
    exact hreencoded _ c _ hci
  | issued u c label => exact hreencoded u c label rfl

/-- Whatever a call stores is under the identifier of its octets. -/
theorem step_keyed (hasn : CertificateCodec lib.asn) (op : ClientOp) (hs : KeyedByBytes lib s) :
    KeyedByBytes lib (step lib w op s) := by
  obtain ⟨added,hadded,htrust⟩ : ∃ added : List CertInfo,(∀ ci∈added,Parsed lib ci) ∧
      (step lib w op s).trust=added.foldl TrustChain.addCert s.trust := step_trust op s
  intro k ci hf
  rw [htrust] at hf
  exact storeAll_forall hs (fun c hc => parsed_identifier hasn (hadded c hc)) k ci hf

/-- Only a new list of `r` changes what `r` revokes. -/
theorem step_isRevoked (hs : KeyedByBytes lib s) {op : ClientOp}
    (hop : BringsNoCrl lib w r op s) :
    (step lib w op s).revocation.isRevoked r=s.revocation.isRevoked r := by
  by_cases hcrl : ∃ i,op=.fetchCrl i
  · obtain ⟨i,rfl⟩ := hcrl
    rw [step,perform,Op.exec_map]
    rcases hrun : Op.exec (fetchCrl lib w i) s with ⟨res,t⟩
    cases res with
    | error e => exact congrArg (RevocationStore.isRevoked · r) ((fetchCrl_attribution hs).2 e t hrun)
    | ok crl =>
      have hi : r≠i := by
        intro heq
        subst heq
        obtain ⟨e,he⟩ := hop rfl
        rw [hrun] at he
        cases he
      funext c
      exact ((fetchCrl_attribution hs).1 crl t hrun).2.2.2.1 r c hi
  · rw [step_revocation (fun i hi => hcrl ⟨i,hi⟩)]

theorem justRevoked_revoking (hasn : CertificateCodec lib.asn) (hs : JustRevoked lib w r h s) :
    Revoking lib r h s := by
  obtain ⟨s₀,crl,hreach,hrun,hin⟩ := hs
  have hkeyed : KeyedByBytes lib s₀ :=
    hreach.invariant (KeyedByBytes lib) (fun _ h₀ => h₀) fun _ op ht _ => step_keyed hasn op ht
  obtain ⟨-,-,hset,-,htrust,-⟩ := (fetchCrl_attribution hkeyed).1 crl s hrun
  refine ⟨fun k ci hf => hkeyed k ci (htrust ▸ hf),(hset h).mpr hin⟩

theorem step_revoking (hasn : CertificateCodec lib.asn) {op : ClientOp}
    (hs : Revoking lib r h s) (hop : BringsNoCrl lib w r op s) :
    Revoking lib r h (step lib w op s) :=
  ⟨step_keyed hasn op hs.keyed,by rw [step_isRevoked hs.keyed hop]; exact hs.revoked⟩

/-- Once a list of `r` has revoked `h`, and for as long as no other list of `r` is applied,
no chain with `h` under `r` is accepted and no request returns a certificate with such a
chain; more revocations never accept more. -/
theorem revocation_effective (hasn : CertificateCodec lib.asn)
    (hs : Reachable (JustRevoked lib w r h) (step lib w) (BringsNoCrl lib w r) s) :
    (∀ c nowTai,validateChain lib s.trust (some s.revocation) c nowTai=true →
      ¬UsesLink s.trust c h r) ∧
    (∀ canonical rec ci t,
      Op.exec (requestEnrolmentCredential lib w canonical rec) s=(.ok ci,t) →
        ¬UsesLink s.trust ci h r) ∧
    (∀ ecHandle ecCert atHandle rec ci t,
      Op.exec (requestAuthorizationTicket lib w ecHandle ecCert atHandle rec) s=(.ok ci,t) →
        ¬UsesLink s.trust ci h r) ∧
    ∀ trust fewer more c nowTai,
      (∀ x y,isRevokedByIssuer fewer x y=true → isRevokedByIssuer more x y=true) →
      validateChain lib trust more c nowTai=true →
      validateChain lib trust fewer c nowTai=true := by
  have hrevoking : Revoking lib r h s := hs.invariant (Revoking lib r h)
    (fun _ h₀ => justRevoked_revoking hasn h₀) fun _ _ ht hop => step_revoking hasn ht hop
  have hchain : ∀ c nowTai,validateChain lib s.trust (some s.revocation) c nowTai=true →
      ¬UsesLink s.trust c h r :=
    fun c nowTai hv => not_usesLink lib s.trust c nowTai hrevoking.revoked hv
  refine ⟨hchain,?_,?_,
    fun trust fewer more c nowTai hle hv => validateChain_antitone lib trust c nowTai hle hv⟩
  · intro canonical rec ci t hrun
    obtain ⟨x,-,hci,-⟩ := (requestEnrolmentCredential_ok lib w).mp hrun
    obtain ⟨-,_,-,-,-,hv⟩ := (certFromResponse_ok lib).mp hci
    exact hchain ci x.nowTai hv
  · intro ecHandle ecCert atHandle rec ci t hrun
    obtain ⟨x,-,hci,-⟩ := (requestAuthorizationTicket_ok lib w).mp hrun
    obtain ⟨-,_,-,-,-,hv⟩ := (certFromResponse_ok lib).mp hci
    exact hchain ci x.nowTai hv

end

end PkiClient

namespace Sample

open Framework PkiClient Cert TrustChain

/-- The sub-CA that the list of the root CA revokes. -/
def revokedCa : CertInfo := fromStruct crlLib .zero subCa.2 subCa.1

def fetchedCrl : ClientState :=
  (Op.exec (fetchCrl crlLib crlServer rootId) (enrolling crlLib)).2

/-- The server drops the second request for the list. -/
theorem revocation_outlives_failed_fetch :
    let s := step crlLib crlServer (.fetchCrl rootId) fetchedCrl
    validateChain crlLib (enrolling crlLib).trust (some (enrolling crlLib).revocation)
      revokedCa 100=true ∧
    UsesLink s.trust revokedCa subCaListed rootId ∧
    validateChain crlLib s.trust (some s.revocation) revokedCa 100=false := by
  have hrun : (Op.exec (fetchCrl crlLib crlServer rootId)
      (enrolling crlLib)).1.toOption.map (·.revoked)=some [subCaListed,rootHid8] := by
    decide +kernel
  obtain ⟨crl,hexec,hrevoked⟩ := Op.exec_of_eval hrun
  have hkeyed := enrolling_keyed crlLib crlLib_keysAllocated
  have hstart : JustRevoked crlLib crlServer rootId subCaListed fetchedCrl :=
    ⟨enrolling crlLib,crl,.start hkeyed,hexec,by simp [hrevoked]⟩
  have hfails : (Op.exec (fetchCrl crlLib crlServer rootId) fetchedCrl).1.toOption.isNone=true := by
    decide +kernel
  have hspares : BringsNoCrl crlLib crlServer rootId (.fetchCrl rootId) fetchedCrl := by
    intro _
    cases hres : (Op.exec (fetchCrl crlLib crlServer rootId) fetchedCrl).1 with
    | error e => exact ⟨e,rfl⟩
    | ok crl => rw [hres] at hfails; cases hfails
  have huses : UsesLink (step crlLib crlServer (.fetchCrl rootId) fetchedCrl).trust revokedCa
      subCaListed rootId := by decide +kernel
  have hcodec : CertificateCodec crlLib.asn := lib_certificateCodec _ (by decide +kernel)
  have heffect := revocation_effective hcodec ((Reachable.start hstart).next _ hspares)
  refine ⟨by decide +kernel,huses,?_⟩
  by_contra hv
  exact heffect.1 revokedCa 100 (by simpa using hv) huses

end Sample

end V2xPki
