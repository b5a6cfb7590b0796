import V2xPki.Client.StoreInvariant
import V2xPki.Client.TlmPin

namespace V2xPki

namespace PkiClient

open Framework

variable (lib : Lib) (w : World)

def lookupRequest (s : ClientState) (hid8 : HashedId8) : HttpRequest :=
  .get (s.config.tlmUrl++("/lookup/"++hid8ToHex hid8))

/-- What the server sends for an identifier. -/
def lookupAnswer (s : ClientState) (hid8 : HashedId8) : Answer :=
  w.answer s.events (lookupRequest s hid8)

/-- A certificate that comes back is the one that was asked for and is stored as such, no other
entry of the store changes, and any other certificate is an error that adds nothing. -/
structure FetchesOnly (s : ClientState) (hid8 : HashedId8)
    (out : Except Error CertInfo × ClientState) : Prop where
  identified : ∀ ci,out.1=.ok ci → ci.hashedId8=hid8
  stored : ∀ ci,out.1=.ok ci → out.2.trust.findByHashedId8 hid8=some ci
  others : ∀ k,k≠hid8 → out.2.trust.findByHashedId8 k=s.trust.findByHashedId8 k
  refused : ∀ body,(lookupAnswer w s hid8).response=.ok ⟨200,body⟩ →
    Cert.computeHid8 lib body≠hid8 → (∃ e,out.1=.error e) ∧ out.2.trust=s.trust

/-- The server sends no certificate of another identifier: what it sends with status 200 hashes
to the one asked for, unless it is no certificate or too long to be kept. -/
def SendsOnly (s : ClientState) (hid8 : HashedId8) : Prop :=
  ∀ body cert,(lookupAnswer w s hid8).response=.ok ⟨200,body⟩ →
    Coer.decode lib.asn.certificateBase body=some cert → body≠[] →
    body.length≤kMaxCoerMessageLen → Cert.computeHid8 lib body=hid8

section
variable {lib} {w} {s : ClientState} {hid8 : HashedId8}

theorem fetchCertByHashedId8_exec :
    Op.exec (fetchCertByHashedId8 lib w hid8) s=
      match certAnswer lib ("lookup_"++hid8ToHex hid8) (lookupAnswer w s hid8) with
      | .error e => (.error e,s.after (.http (lookupRequest s hid8)))
      | .ok ci => (.ok ci,(s.after (.http (lookupRequest s hid8))).store ci) := by
  unfold fetchCertByHashedId8 fetchCert
  rw [Op.get_bind,ask_bind,Op.exec_bind,Op.exec_lift]
  unfold lookupAnswer lookupRequest
  split
  · rename_i a t heq
    obtain ⟨hr,rfl⟩ := Prod.mk.inj heq
    rw [hr,addCert_bind,Op.exec_pure]
  · rename_i e t heq
    obtain ⟨hr,rfl⟩ := Prod.mk.inj heq
    rw [hr]

/-- A certificate that is taken has the identifier of the body it was parsed from. -/
theorem lookup_identifier {label : String} {a : Answer} {ci : CertInfo}
    (h : certAnswer lib label a=.ok ci) :
    ∃ body cert,a.response=.ok ⟨200,body⟩ ∧ Coer.decode lib.asn.certificateBase body=some cert ∧
      body≠[] ∧ body.length≤kMaxCoerMessageLen ∧ ci.hashedId8=Cert.computeHid8 lib body := by
  obtain ⟨body,cert,hresp,hd,hne,hlen,rfl⟩ := certAnswer_ok.mp h
  refine ⟨body,cert,hresp,hd,hne,hlen,?_⟩
  show Cert.computeHid8Of lib (some cert) body=Cert.computeHid8 lib body
  rw [Cert.computeHid8,hd]

/-- A certificate with the identifier asked for is all that changes. -/
theorem fetchesOnly_of_identified
    (h : ∀ ci,certAnswer lib ("lookup_"++hid8ToHex hid8) (lookupAnswer w s hid8)=.ok ci →
      ci.hashedId8=hid8) :
    FetchesOnly lib w s hid8 (Op.exec (fetchCertByHashedId8 lib w hid8) s) := by
  rw [fetchCertByHashedId8_exec]
  cases ha : certAnswer lib ("lookup_"++hid8ToHex hid8) (lookupAnswer w s hid8) with
  | error e =>
    refine ⟨?_,?_,?_,?_⟩
    · intro ci hci
      cases hci
    · intro ci hci
      cases hci
    · intro k _
      rfl
    · intro body _ _
      exact ⟨⟨e,rfl⟩,rfl⟩
  | ok ci =>
    have hid := h ci ha
    have hfind : ∀ k,(s.trust.addCert ci).findByHashedId8 k=
        if k=hid8 then some ci else s.trust.findByHashedId8 k := by
      intro k
      rw [TrustChain.find_addCert,hid]
    refine ⟨?_,?_,?_,?_⟩
    · intro ci' hci
      cases hci
      exact hid
    · intro ci' hci
      cases hci
      exact (hfind hid8).trans (if_pos rfl)
    · intro k hk
      exact (hfind k).trans (if_neg hk)
    · intro body hbody hne
      obtain ⟨body',cert,hresp,-,-,-,hcomputed⟩ := lookup_identifier ha
      obtain rfl : body=body' := by
        rw [hresp] at hbody
        exact (HttpResponse.mk.inj (Except.ok.inj hbody)).2.symm
      exact absurd (hcomputed.symm.trans hid) hne

end

/-- The identifier is only part of the URL: for every store and server, the call keeps to it
exactly if the server does. -/
theorem lookup_keeps_to_identifier_iff (s : ClientState) (hid8 : HashedId8) :
    FetchesOnly lib w s hid8 (Op.exec (fetchCertByHashedId8 lib w hid8) s) ↔
      SendsOnly lib w s hid8 := by
  constructor
  · intro h body cert hresp hd hne hlen
    have ha : certAnswer lib ("lookup_"++hid8ToHex hid8) (lookupAnswer w s hid8)=.ok _ :=
      certAnswer_ok.mpr ⟨body,cert,hresp,hd,hne,hlen,rfl⟩
    have hid := h.identified _ (by rw [fetchCertByHashedId8_exec,ha])
    rw [Cert.computeHid8,hd]
    exact hid
  · intro h
    apply fetchesOnly_of_identified
    intro ci ha
    obtain ⟨body,cert,hresp,hd,hne,hlen,hcomputed⟩ := lookup_identifier ha
    rw [hcomputed]
    exact h body cert hresp hd hne hlen

end PkiClient

namespace Sample

open Framework PkiClient

/-- The server answers the lookup of an identifier with a root CA of its own choice. -/
def lookupServer : World := scripted stillSetting 0 [served rogueTlm.1]

/-- A self-signed certificate of the server's is taken for the one asked for. -/
theorem lookup_stores_other_root :
    Cert.computeHid8 rogueLib rogueTlm.1≠rootHid8 ∧
    (∃ ci s',Op.exec (fetchCertByHashedId8 rogueLib lookupServer rootHid8) (pinned rogueLib)=
      (.ok ci,s') ∧ ci.isSelfSigned=true ∧
      s'.trust.findByHashedId8 (Cert.computeHid8 rogueLib rogueTlm.1)=some ci) ∧
    ¬FetchesOnly rogueLib lookupServer (pinned rogueLib) rootHid8
      (Op.exec (fetchCertByHashedId8 rogueLib lookupServer rootHid8) (pinned rogueLib)) := by
  have hother : Cert.computeHid8 rogueLib rogueTlm.1≠rootHid8 := by decide +kernel
  have hrun : (Op.exec (fetchCertByHashedId8 rogueLib lookupServer rootHid8)
      (pinned rogueLib)).1.toOption.map (fun ci => (ci.isSelfSigned,ci.hashedId8))=
      some (true,Cert.computeHid8 rogueLib rogueTlm.1) := by decide +kernel
  obtain ⟨ci,hexec,hsum⟩ := Op.exec_of_eval hrun
  obtain ⟨hself,hid⟩ := Prod.mk.inj hsum
  obtain ⟨-,events,hstored⟩ := fetchCert_ok hexec
  refine ⟨hother,⟨ci,_,hexec,hself,?_⟩,?_⟩
  · rw [hstored,← hid]
    exact (TrustChain.find_addCert _ ci ci.hashedId8).trans (if_pos rfl)
  · intro honly
    rw [hexec] at honly
    exact hother (hid.symm.trans (honly.identified ci rfl))

end Sample

end V2xPki
