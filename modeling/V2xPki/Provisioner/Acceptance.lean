import V2xPki.Provisioner.Flow
import V2xPki.Sample.Provisioning
import V2xPki.Trust.ChainPath

namespace V2xPki

namespace Provisioning

open Framework PkiClient

/-- A trust store that holds the three anchors. -/
def anchorStore (ta : TrustAnchors) : TrustChain :=
  [ta.rca,ta.aa,ta.ea].foldl TrustChain.addCert .empty

/-- The anchor with the given identifier. -/
def anchorNamed (ta : TrustAnchors) (k : HashedId8) : Option CertInfo :=
  [ta.ea,ta.aa,ta.rca].find? fun ci => ci.hashedId8==k

section
variable (lib : Lib)

/-- What a client with these anchors and no CRL says to a certificate. -/
def libraryValidates (ta : TrustAnchors) (ci : CertInfo) (nowTai : Int) : Bool :=
  (anchorStore ta).validateChain lib (some .empty) ci nowTai

/-- What such a client makes of a decoded response. -/
def libraryAnswer {Code : Type} [DecidableEq Code] (ok : Code) (label : String)
    (ta : TrustAnchors) (x : Exchange Code) : Except Error CertInfo :=
  certFromResponse lib ok label (anchorStore ta) .empty x.nowTai x.response

/-- Authority among the anchors: the issuer is the anchor that is named, and a step needs a
signature that verifies. -/
def anchorAuthority (ta : TrustAnchors) (nowTai : Int) : Authority CertInfo where
  parent x := anchorNamed ta x.issuerHashId8
  root x := x.isSelfSigned=true
  node x := x.validAt nowTai=true
  link x y := TrustChain.verifyCertSignature lib x y=true

/-- A certificate is issued by an anchor: directly by a root among them, or by one that has
its issuer among them. -/
def Vouched (ta : TrustAnchors) (nowTai : Int) (ci : CertInfo) : Prop :=
  (∃ root,AnchoredChain (anchorAuthority lib ta nowTai) [ci,root]) ∨
    ∃ ca root,AnchoredChain (anchorAuthority lib ta nowTai) [ci,ca,root]

/-- The condition on the response of a CA: when it grants a certificate, the certificate is
issued by an anchor. -/
def VouchedReply {Code : Type} (ok : Code) (ta : TrustAnchors) (x : Exchange Code) : Prop :=
  ∀ cert,x.response.responseCode=ok → x.response.certificate=some cert →
    Vouched lib ta x.nowTai cert

/-- `rotate_at` replaces `AT.coer` by this certificate. -/
def WritesAt (ta : TrustAnchors) (ec : EnrolledEc) (psids : List Int) (validityHours : Int)
    (dir : String) (s : RotateSetting) (r : PairWrites) (files : Files UInt8) (cert : CertInfo) :
    Prop :=
  (∃ kp,issuedAt lib ta ec psids validityHours s=some (kp,cert)) ∧
    (atomicWrite files (dir++"/AT.coer") cert.certBytes.toVector r.cert).1=true

/-- Every EC that is returned passes the check of the library at that time, and the library
accepts the response it came in. -/
def EnrolsOnlyValid (ta : TrustAnchors) (validityDays : Int) (curve : Curve)
    (s : EnrolSetting) : Prop :=
  ∀ x ec,ecExchanged lib ta validityDays curve s=some x →
    enrolEc lib ta validityDays curve s=some ec →
    libraryValidates lib ta ec.cert x.nowTai=true ∧
      ∃ ci,libraryAnswer lib .ok "ec" ta x=.ok ci

/-- The same of every AT that is written, however the writes go. -/
def RotatesOnlyValid (ta : TrustAnchors) (ec : EnrolledEc) (psids : List Int)
    (validityHours : Int) (dir : String) (s : RotateSetting) : Prop :=
  ∀ x r files cert,atExchanged lib ta ec psids validityHours s=some x →
    WritesAt lib ta ec psids validityHours dir s r files cert →
    libraryValidates lib ta cert x.nowTai=true ∧
      ∃ ci,libraryAnswer lib .ok "at" ta x=.ok ci

end

section
variable {lib : Lib} {ta : TrustAnchors} {nowTai : Int} {ci : CertInfo}

theorem find_anchorStore (ta : TrustAnchors) (k : HashedId8) :
    (anchorStore ta).findByHashedId8 k=anchorNamed ta k := by
  have hfind := TrustChain.find_storeAll [ta.rca,ta.aa,ta.ea] .empty k
  have hempty : TrustChain.empty.findByHashedId8 k=none := rfl
  rw [hempty,Option.or_none] at hfind
  exact hfind

/-- With no CRL nothing is revoked, so the check of the library is authority among the
anchors. -/
theorem authority_anchorStore (lib : Lib) (ta : TrustAnchors) (nowTai : Int) :
    TrustChain.authority lib (anchorStore ta) (some .empty) nowTai=
      anchorAuthority lib ta nowTai := by
  have hparent : ∀ x : CertInfo,(anchorStore ta).findByHashedId8 x.issuerHashId8=
      anchorNamed ta x.issuerHashId8 := fun x => find_anchorStore ta _
  have hclean : ∀ x y,TrustChain.isRevokedByIssuer (some .empty) x y=false := fun _ _ => rfl
  simp only [TrustChain.authority,anchorAuthority,hparent,hclean,and_true]

theorem libraryValidates_iff : libraryValidates lib ta ci nowTai=true ↔
    Vouched lib ta nowTai ci := by
  unfold libraryValidates Vouched
  rw [TrustChain.validateChain_iff,authority_anchorStore]

/-- The library accepts a granted certificate exactly if it validates; the label it is given
plays no part in that. -/
theorem libraryAnswer_ok {Code : Type} [DecidableEq Code] {ok : Code} {label : String}
    {x : Exchange Code} (h : certOf ok x.response=some ci) :
    (∃ c,libraryAnswer lib ok label ta x=.ok c) ↔
      libraryValidates lib ta ci x.nowTai=true := by
  have hlabel : libraryValidates lib ta {ci with label := label} x.nowTai=
      libraryValidates lib ta ci x.nowTai := rfl
  obtain ⟨hok,hcert⟩ := certOf_some.mp h
  constructor
  · rintro ⟨c,hc⟩
    obtain ⟨-,cert,hcert',rfl,-,hvalid⟩ := (certFromResponse_ok lib).mp hc
    obtain rfl := Option.some.inj (hcert.symm.trans hcert')
    exact hvalid
  · intro hvalid
    rw [← hlabel] at hvalid
    have hpresent := TrustChain.issuerChainPresent_of_validateChain lib _ _ _ _ hvalid
    exact ⟨_,(certFromResponse_ok lib).mpr ⟨hok,ci,hcert,rfl,hpresent,hvalid⟩⟩

/-- What the condition on a response comes to: the library agrees with what is granted. -/
theorem vouchedReply_iff {Code : Type} [DecidableEq Code] {ok : Code} (label : String)
    {x : Exchange Code} :
    VouchedReply lib ok ta x ↔ ∀ cert,certOf ok x.response=some cert →
      libraryValidates lib ta cert x.nowTai=true ∧
        ∃ ci,libraryAnswer lib ok label ta x=.ok ci := by
  constructor
  · intro h cert hgranted
    obtain ⟨hok,hcert⟩ := certOf_some.mp hgranted
    have hvalid := libraryValidates_iff.mpr (h cert hok hcert)
    exact ⟨hvalid,(libraryAnswer_ok hgranted).mpr hvalid⟩
  · intro h cert hok hcert
    exact libraryValidates_iff.mp (h cert (certOf_some.mpr ⟨hok,hcert⟩)).1

theorem enrolsOnlyValid_iff {validityDays : Int} {curve : Curve} {s : EnrolSetting} :
    EnrolsOnlyValid lib ta validityDays curve s ↔
      ∀ x,ecExchanged lib ta validityDays curve s=some x → VouchedReply lib .ok ta x := by
  constructor
  · intro h x hx
    apply (vouchedReply_iff "ec").mpr
    intro cert hgranted
    have hec : enrolEc lib ta validityDays curve s=some ⟨cert,x.key⟩ :=
      enrolEc_some.mpr ⟨x,hx,hgranted,rfl⟩
    exact h x _ hx hec
  · intro h x ec hx hec
    obtain ⟨y,hy,hgranted,-⟩ := enrolEc_some.mp hec
    obtain rfl := Option.some.inj (hx.symm.trans hy)
    exact (vouchedReply_iff "ec").mp (h x hx) ec.cert hgranted

theorem rotatesOnlyValid_iff {ec : EnrolledEc} {psids : List Int} {validityHours : Int}
    {dir : String} {s : RotateSetting} :
    RotatesOnlyValid lib ta ec psids validityHours dir s ↔
      ∀ x,atExchanged lib ta ec psids validityHours s=some x → VouchedReply lib .ok ta x := by
  constructor
  · intro h x hx
    apply (vouchedReply_iff "at").mpr
    intro cert hgranted
    have hissued : issuedAt lib ta ec psids validityHours s=some (x.key,cert) :=
      issuedAt_some.mpr ⟨x,hx,hgranted,rfl⟩
    -- nothing else keeps the certificate from being written
    have hwrites : WritesAt lib ta ec psids validityHours dir s wholeWrites .empty cert :=
      ⟨⟨x.key,hissued⟩,atomicWrite_reported _ _ _ _⟩
    exact h x _ _ cert hx hwrites
  · intro h x r files cert hx hwrites
    obtain ⟨⟨kp,hissued⟩,-⟩ := hwrites
    obtain ⟨y,hy,hgranted,-⟩ := issuedAt_some.mp hissued
    obtain rfl := Option.some.inj (hx.symm.trans hy)
    exact (vouchedReply_iff "at").mp (h x hx) cert hgranted

end

/-- Neither call looks at the issuer, the signature or the validity of the certificate it is
granted: it accepts no more than the library exactly if the CA grants no certificate that is
not issued by an anchor. -/
theorem accepts_only_valid_iff (lib : Lib) (ta : TrustAnchors) :
    (∀ validityDays curve s,EnrolsOnlyValid lib ta validityDays curve s ↔
      ∀ x,ecExchanged lib ta validityDays curve s=some x → VouchedReply lib .ok ta x) ∧
    ∀ ec psids validityHours dir s,RotatesOnlyValid lib ta ec psids validityHours dir s ↔
      ∀ x,atExchanged lib ta ec psids validityHours s=some x → VouchedReply lib .ok ta x := by
  constructor
  · intro validityDays curve s
    exact enrolsOnlyValid_iff
  · intro ec psids validityHours dir s
    exact rotatesOnlyValid_iff

end Provisioning

namespace Sample

open Framework PkiClient Provisioning

/-- A certificate of a CA that is no anchor. -/
def outsiderEc : Coded Asn.CertificateBase := issuedBody 15 (selfSigned 15 []) (tbs 21 [])

def outsiderLib : Lib := fleetLib (fleetTables (enrolmentTables outsiderEc (tbs 21 []))) []

/-- The EA grants it, and the provisioner takes it where the library refuses. -/
theorem outsider_certificate_enrolled :
    ∃ ta x ec,discover outsiderLib fleetServer "https://tlm" ""=some ta ∧
      ecExchanged outsiderLib ta 30 .nistP256 (enrolment outsiderEc)=some x ∧
      enrolEc outsiderLib ta 30 .nistP256 (enrolment outsiderEc)=some ec ∧
      ec.cert.certBytes.toVector=outsiderEc.1 ∧
      libraryAnswer outsiderLib .ok "ec" ta x=.error .notFound ∧
      ¬EnrolsOnlyValid outsiderLib ta 30 .nistP256 (enrolment outsiderEc) := by
  have hta : discover outsiderLib fleetServer "https://tlm" ""=some fleetAnchors := by
    decide +kernel
  have hrun : (ecExchanged outsiderLib fleetAnchors 30 .nistP256 (enrolment outsiderEc)).map (fun x =>
      ((certOf .ok x.response).map (·.certBytes.toVector),
        libraryAnswer outsiderLib .ok "ec" fleetAnchors x))=
      some (some outsiderEc.1,.error .notFound) := by decide +kernel
  obtain ⟨x,hx,hsum⟩ := Option.map_eq_some_iff.mp hrun
  obtain ⟨hgranted,hrefused⟩ := Prod.mk.inj hsum
  obtain ⟨cert,hcert,hbytes⟩ := Option.map_eq_some_iff.mp hgranted
  have hec : enrolEc outsiderLib fleetAnchors 30 .nistP256 (enrolment outsiderEc)=
      some ⟨cert,x.key⟩ := enrolEc_some.mpr ⟨x,hx,hcert,rfl⟩
  refine ⟨fleetAnchors,x,_,hta,hx,hec,hbytes,hrefused,?_⟩
  intro h
  obtain ⟨ci,hci⟩ := (h x _ hx hec).2
  rw [hrefused] at hci
  cases hci

end Sample

end V2xPki
