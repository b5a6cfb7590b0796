import V2xPki.Client.StoreInvariant
import V2xPki.Sample.Enrolment
import V2xPki.Trust.RevocationRuns

namespace V2xPki

namespace PkiClient

open Framework

/-- Every entry of the trust store that has its octets is under their identifier. -/
def KeyedByBytes (lib : Lib) (s : ClientState) : Prop :=
  ∀ k ci,s.trust.findByHashedId8 k=some ci → ci.certBytes.toVector≠[] →
    k=Cert.computeHid8 lib ci.certBytes.toVector

/-- Where the CRL of a root CA is fetched: the topology of the last discovery decides. -/
def crlRequest (s : ClientState) (rcaHid8 : HashedId8) : HttpRequest :=
  .get ((match s.topology with
    | some t => findDcUrl t.dcs rcaHid8 s.config.tlmUrl
    | none => s.config.tlmUrl)++"/getcrl/"++hid8HexUpper rcaHid8)

/-- The revocation list in a CRL envelope that verifies under the key and certificate of
`signer`. -/
def SignedCrl (lib : Lib) (signer : CertInfo) (envelope : Bytes) (list : Asn.ToBeSignedCrl) :
    Prop :=
  ∃ msg data,SignedMsg.unwrap lib envelope=some msg ∧
    SignedMsg.verify lib msg signer.publicKey.toVector signer.certBytes.toVector=true ∧
    Coer.decodeWithBasicFallback lib.asn.etsiTs102941Data msg.payloadCoer=some data ∧
    data.content=some (.certificateRevocationList (some list))

/-- The entries of eight octets, in order. -/
def entriesOf (list : Asn.ToBeSignedCrl) : List Bytes :=
  (list.entries.filterMap id).filter (·.length=8)

section
variable {lib : Lib} {w : World} {r : HashedId8} {s t : ClientState} {crl : CrlContents}

theorem StoreKept.keyed (h : StoreKept lib s) : KeyedByBytes lib s :=
  fun k ci hf _ => (h k ci hf).identifier

theorem entriesOf_eq (list : Asn.ToBeSignedCrl) :
    (list.entries.filterMap fun e => e.bind HashedId8.ofBytes).map (·.toList)=
      entriesOf list := by
  unfold entriesOf
  induction list.entries with
  | nil => rfl
  | cons e es ih =>
    cases e with
    | none => exact ih
    | some b =>
      rw [List.filterMap_cons,List.filterMap_cons,id_eq,Option.bind_some]
      by_cases hb : b.length=8
      · have hof : HashedId8.ofBytes b=some ⟨b.toArray,by simpa using hb⟩ := dif_pos hb
        rw [hof,List.filter_cons_of_pos (by simpa using hb),← ih]
        rfl
      · have hof : HashedId8.ofBytes b=none := dif_neg hb
        rw [hof,List.filter_cons_of_neg (by simpa using hb),← ih]

/-- A CRL is applied exactly when it comes with status 200, decodes under the stored
certificate and is not stale. -/
theorem fetchCrl_ok :
    Op.exec (fetchCrl lib w r) s=(.ok crl,t) ↔
      ∃ body rca,okBody (w.answer s.events (crlRequest s r)).response=.ok body ∧
        s.trust.findByHashedId8 r=some rca ∧
        decodeCrl lib body rca.publicKey.toVector rca.certBytes.toVector=.ok crl ∧
        ApplyCall.returns ⟨crl,(w.answer s.events (crlRequest s r)).nowTai⟩=true ∧
        t={s.after (.http (crlRequest s r)) with
          revocation := s.revocation.write (crl.issuerHid8,crl)} := by
  simp only [fetchCrl,Op.get_bind,ask_bind,Op.lift_bind_ok,Op.need_bind_ok]
  have happly : ∀ c now,s.revocation.apply c now=
      if ApplyCall.returns ⟨c,now⟩ then some (s.revocation.write (c.issuerHid8,c)) else none :=
    fun c now => RevocationStore.apply_eq s.revocation ⟨c,now⟩
  constructor
  · intro h
    obtain ⟨body,hbody,rca,hrca,crl',hcrl,store,hstore,hend⟩ := h
    cases hend
    rw [happly] at hstore
    by_cases hret : ApplyCall.returns ⟨crl,(w.answer s.events (crlRequest s r)).nowTai⟩=true
    · obtain rfl := Option.some.inj (hstore.symm.trans (if_pos hret))
      exact ⟨body,rca,hbody,hrca,hcrl,hret,rfl⟩
    · cases hstore.symm.trans (if_neg hret)
  · intro h
    obtain ⟨body,rca,hbody,hrca,hcrl,hret,rfl⟩ := h
    refine ⟨body,hbody,rca,hrca,crl,hcrl,_,?_,rfl⟩
    rw [happly]
    exact if_pos hret

/-- The identifier under which the entries are filed is that of the certificate whose key
verified them, so it is the one that was asked for. -/
theorem decodeCrl_issuer {body : Bytes} {rca : CertInfo} (hs : KeyedByBytes lib s)
    (hrca : s.trust.findByHashedId8 r=some rca)
    (h : decodeCrl lib body rca.publicKey.toVector rca.certBytes.toVector=.ok crl) :
    crl.issuerHid8=r ∧ ∃ list,SignedCrl lib rca body list ∧
      crl.thisUpdate=list.thisUpdate ∧ crl.nextUpdate=list.nextUpdate ∧
      crl.revoked.map (·.toList)=entriesOf list := by
  obtain ⟨hbytes,msg,data,list,hmsg,hverify,hdigest,hdata,hcontent,rfl⟩ := decodeCrl_ok h
  have hid := (SignedMsg.verify_spec lib hverify).2.2.2.1 hdigest
  refine ⟨hid.symm.trans (hs r rca hrca hbytes).symm,list,⟨msg,data,hmsg,hverify,hdata,hcontent⟩,
    rfl,rfl,entriesOf_eq list⟩

/-- What one call of `fetch_crl` does: the list it applies is signed by the certificate
stored under the identifier asked for and replaces the entries of that issuer, and nothing
else changes; a call that fails changes no entry. -/
theorem fetchCrl_attribution (hs : KeyedByBytes lib s) :
    (∀ crl t,Op.exec (fetchCrl lib w r) s=(.ok crl,t) →
      (∃ body rca list,(w.answer s.events (crlRequest s r)).response=.ok ⟨200,body⟩ ∧
        s.trust.findByHashedId8 r=some rca ∧ SignedCrl lib rca body list ∧
        crl.revoked.map (·.toList)=entriesOf list) ∧
      crl.issuerHid8=r ∧
      (∀ h,t.revocation.isRevoked r h=true ↔ h∈crl.revoked) ∧
      (∀ i h,i≠r → t.revocation.isRevoked i h=s.revocation.isRevoked i h) ∧
      t.trust=s.trust ∧ t.topology=s.topology ∧ t.config=s.config) ∧
    ∀ e t,Op.exec (fetchCrl lib w r) s=(.error e,t) → t.revocation=s.revocation := by
  constructor
  · intro crl t hrun
    obtain ⟨body,rca,hbody,hrca,hcrl,-,rfl⟩ := fetchCrl_ok.mp hrun
    obtain ⟨hissuer,list,hsigned,-,-,hentries⟩ := decodeCrl_issuer hs hrca hcrl
    refine ⟨⟨body,rca,list,okBody_ok.mp hbody,hrca,hsigned,hentries⟩,hissuer,?_,?_,rfl,rfl,rfl⟩
    · intro h
      rw [RevocationStore.isRevoked_write,if_pos hissuer,RevocationStore.listed,decide_eq_true_eq]
    · intro i h hi
      rw [RevocationStore.isRevoked_write,if_neg (fun heq => hi (heq.symm.trans hissuer))]
  · intro e t hrun
    exact congrArg (·.2.2.1) (fetchCrl_failsClean lib w r s e t hrun)

end

end PkiClient

namespace Sample

open Framework PkiClient Cert

/-- The root CA revokes its sub-CA and itself. -/
def crlList : Coded Asn.EtsiTs102941Data := crlPayload 100 0 [subCaListed,rootHid8]

def crlEnvelope : Coded Asn.Ieee1609Dot2Data := signedEnvelope 5 rootCa crlList.1

def crlLib : Lib := lib
  {certs := anchors,bodies := anchorBodies,envelopes := [crlEnvelope]
   signedBodies := [signedBody crlList.1],payloads := [crlList]}

def crlServer : World := scripted stillSetting 0 [served crlEnvelope.1]

def rootId : HashedId8 := computeHid8 crlLib rootCa.1

theorem enrolling_keyed (l : Lib) (h : KeysAllocated l.asn) : KeyedByBytes l (enrolling l) :=
  (initial_kept h ⟨_,_,_,rfl⟩).keyed

theorem crlLib_keysAllocated : KeysAllocated crlLib.asn := lib_keysAllocated _ (by decide +kernel)

theorem fetchCrl_attribution_rootCa :
    ∃ crl t,Op.exec (fetchCrl crlLib crlServer rootId) (enrolling crlLib)=(.ok crl,t) ∧
      crl.revoked=[subCaListed,rootHid8] ∧
      KeyedByBytes crlLib (enrolling crlLib) ∧ crl.issuerHid8=rootId ∧
      t.revocation.isRevoked rootId subCaListed=true ∧ t.trust=(enrolling crlLib).trust := by
  have hrun : (Op.exec (fetchCrl crlLib crlServer rootId)
      (enrolling crlLib)).1.toOption.map (·.revoked)=some [subCaListed,rootHid8] := by
    decide +kernel
  obtain ⟨crl,hexec,hrevoked⟩ := Op.exec_of_eval hrun
  have hkeyed := enrolling_keyed crlLib crlLib_keysAllocated
  obtain ⟨-,hissuer,hset,-,htrust,-⟩ := (fetchCrl_attribution hkeyed).1 crl _ hexec
  exact ⟨crl,_,hexec,hrevoked,hkeyed,hissuer,(hset subCaListed).mpr (by simp [hrevoked]),htrust⟩

end Sample

end V2xPki
