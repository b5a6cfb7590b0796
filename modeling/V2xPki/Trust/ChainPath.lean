import V2xPki.Framework.AnchoredChain
import V2xPki.Trust.TrustChain

namespace V2xPki.TrustChain

open Framework

/-- Chain validation as authority over certificates: the issuer is looked up under the
issuer identifier, roots are the self-signed certificates, and a step needs a signature
that verifies and is not revoked. -/
def authority (lib : Lib) (trust : TrustChain) (revocation : Option RevocationStore)
    (nowTai : Int) : Authority CertInfo where
  parent x := trust.findByHashedId8 x.issuerHashId8
  root x := x.isSelfSigned=true
  node x := x.validAt nowTai=true
  link x y := verifyCertSignature lib x y=true ∧ isRevokedByIssuer revocation x y=false

section
variable (lib : Lib) (trust : TrustChain) (revocation : Option RevocationStore)
variable (c : CertInfo) (nowTai : Int)

theorem hashOf_length (h : SigHash) (data : Bytes) :
    (hashOf lib.ssl h data).length=if h=.sha384 then 48 else 32 := by
  cases h <;> simp [hashOf]

/-- A digest of the wrong size is refused, so the hash an accepted signature names is
the one of its issuer's curve. -/
theorem verifyCertSignature_hash {cert issuer : CertInfo}
    (h : verifyCertSignature lib cert issuer=true) :
    cert.issuerHash=.sha384 ↔
      issuer.curve=.nistP384 ∨ issuer.curve=.brainpoolP384r1 := by
  obtain ⟨-,-,-,hcheck⟩ := verifyCertSignature_iff.mp h
  have hl := Crypto.ecdsaVerifyDigest_length lib.ssl hcheck
  rw [certDigest,hashOf_length] at hl
  cases hh : cert.issuerHash <;> cases hc : issuer.curve <;>
    simp [hh,hc,Curve.hashLen,Curve.isP256Size,kSha256Len,kSha384Len] at hl ⊢

private theorem refuse_iff (b x : Bool) :
    (if b then false else x)=true ↔ b=false ∧ x=true := by
  cases b <;> simp

/-- The early returns of `validate_chain` when the issuer of `c` is itself a root. -/
theorem validateChain_root {aa : CertInfo}
    (ha : trust.findByHashedId8 c.issuerHashId8=some aa) (hr : aa.isSelfSigned=true) :
    validateChain lib trust revocation c nowTai=true ↔
      AnchoredChain (authority lib trust revocation nowTai) [c,aa] := by
  rw [AnchoredChain.pair_iff]
  simp only [validateChain,authority,ha,hr,refuse_iff,if_true,
    Bool.not_eq_true,Bool.not_eq_false']
  tauto

/-- The early returns of `validate_chain` when the issuer of `c` has an issuer. -/
theorem validateChain_intermediate {aa : CertInfo}
    (ha : trust.findByHashedId8 c.issuerHashId8=some aa) (hr : aa.isSelfSigned=false) :
    validateChain lib trust revocation c nowTai=true ↔
      ∃ rca,AnchoredChain (authority lib trust revocation nowTai) [c,aa,rca] := by
  simp only [AnchoredChain.triple_iff,validateChain,authority,ha,hr,refuse_iff,
    Bool.false_eq_true,if_false,Bool.not_eq_true,Bool.not_eq_false']
  cases hf : trust.findByHashedId8 aa.issuerHashId8 with
  | none => simp
  | some rca =>
    simp only [refuse_iff,Option.some.injEq,Bool.not_eq_false']
    constructor
    · intro h
      exact ⟨rca,by tauto⟩
    · intro h
      obtain ⟨rca',h⟩ := h
      obtain rfl : rca=rca' := h.2.2.1.2.1
      tauto

/-- The two path shapes the early returns distinguish. -/
theorem validateChain_iff : validateChain lib trust revocation c nowTai=true ↔
    (∃ aa,AnchoredChain (authority lib trust revocation nowTai) [c,aa]) ∨
      ∃ aa rca,AnchoredChain (authority lib trust revocation nowTai) [c,aa,rca] := by
  -- the stored issuer decides which shape is possible
  have hparent : ∀ aa,(authority lib trust revocation nowTai).parent c=some aa →
      trust.findByHashedId8 c.issuerHashId8=some aa := fun _ h => h
  constructor
  · intro h
    cases hf : trust.findByHashedId8 c.issuerHashId8 with
    | none => simp [validateChain,hf] at h
    | some aa =>
      cases hr : aa.isSelfSigned with
      | true => exact .inl ⟨aa,(validateChain_root lib trust revocation c nowTai hf hr).mp h⟩
      | false =>
        exact .inr ⟨aa,(validateChain_intermediate lib trust revocation c nowTai hf hr).mp h⟩
  · intro h
    rcases h with ⟨aa,h⟩ | ⟨aa,rca,h⟩
    · have hp := (AnchoredChain.pair_iff c aa).mp h
      exact (validateChain_root lib trust revocation c nowTai
        (hparent aa hp.2.1.2.1) hp.2.2.1).mpr h
    · have hp := (AnchoredChain.triple_iff c aa rca).mp h
      have hr : aa.isSelfSigned=false := Bool.eq_false_iff.mpr hp.2.2.1.1
      exact (validateChain_intermediate lib trust revocation c nowTai
        (hparent aa hp.2.1.2.1) hr).mpr ⟨rca,h⟩

theorem issuerChainPresent_of_validateChain
    (h : validateChain lib trust revocation c nowTai=true) :
    trust.issuerChainPresent c=true := by
  unfold issuerChainPresent
  rcases (validateChain_iff lib trust revocation c nowTai).mp h with ⟨aa,h⟩ | ⟨aa,rca,h⟩
  · have hp := (AnchoredChain.pair_iff c aa).mp h
    have hf : trust.findByHashedId8 c.issuerHashId8=some aa := hp.2.1.2.1
    have hr : aa.isSelfSigned=true := hp.2.2.1
    simp [hf,hr]
  · have hp := (AnchoredChain.triple_iff c aa rca).mp h
    have hf : trust.findByHashedId8 c.issuerHashId8=some aa := hp.2.1.2.1
    have hg : trust.findByHashedId8 aa.issuerHashId8=some rca := hp.2.2.1.2.1
    simp [hf,hg]

/-- `validate_chain` accepts exactly the certificates that start an anchored path of one
or two steps, and on every such path the named hash fits the issuer's curve. -/
theorem validateChain_sound_complete :
    (validateChain lib trust revocation c nowTai=true ↔
      c.isSelfSigned=false ∧ ∃ xs,xs.head?=some c ∧ (xs.length=2 ∨ xs.length=3) ∧
        AnchoredChain (authority lib trust revocation nowTai) xs) ∧
    ∀ xs,AnchoredChain (authority lib trust revocation nowTai) xs →
      xs.IsChain (fun x y => x.issuerHash=.sha384 ↔
        y.curve=.nistP384 ∨ y.curve=.brainpoolP384r1) ∧
      ∀ r,xs.getLast?=some r →
        (r.issuerHash=.sha384 ↔ r.curve=.nistP384 ∨ r.curve=.brainpoolP384r1) := by
  refine ⟨?_,?_⟩
  · rw [AnchoredChain.exists_short_iff,validateChain_iff]
    refine ⟨fun h => ⟨?_,h⟩,fun h => h.2⟩
    rcases h with ⟨aa,h⟩ | ⟨aa,rca,h⟩
    · exact Bool.eq_false_iff.mpr ((AnchoredChain.pair_iff c aa).mp h).2.1.1
    · exact Bool.eq_false_iff.mpr ((AnchoredChain.triple_iff c aa rca).mp h).2.1.1
  · intro xs h
    refine ⟨h.links.imp fun x y hl => verifyCertSignature_hash lib hl.2.2.1,?_⟩
    intro r hr
    obtain ⟨r',hr',_,hl⟩ := h.anchored
    obtain rfl : r=r' := Option.some.inj (hr.symm.trans hr')
    exact verifyCertSignature_hash lib hl.1

/-- The certificate, its stored issuer and, unless that one is self-signed, its issuer's
stored issuer. -/
def issuerPath (trust : TrustChain) (c : CertInfo) : List CertInfo :=
  match trust.findByHashedId8 c.issuerHashId8 with
  | none => [c]
  | some aa =>
    if aa.isSelfSigned then [c,aa]
    else match trust.findByHashedId8 aa.issuerHashId8 with
      | none => [c,aa]
      | some rca => [c,aa,rca]

/-- Somewhere on the path of `c`, the certificate with identifier `h` stands under the one
with identifier `r`; the last certificate of a path stands under itself. -/
def UsesLink (trust : TrustChain) (c : CertInfo) (h r : HashedId8) : Prop :=
  ∃ p∈stepsOf (issuerPath trust c),p.1.hashedId8=h ∧ p.2.hashedId8=r

instance (h r : HashedId8) : Decidable (UsesLink trust c h r) :=
  inferInstanceAs (Decidable (∃ p∈_,_))

theorem validateChain_path (h : validateChain lib trust revocation c nowTai=true) :
    AnchoredChain (authority lib trust revocation nowTai) (issuerPath trust c) := by
  unfold issuerPath
  rcases (validateChain_iff lib trust revocation c nowTai).mp h with ⟨aa,h⟩ | ⟨aa,rca,h⟩
  · have hp := (AnchoredChain.pair_iff c aa).mp h
    have hf : trust.findByHashedId8 c.issuerHashId8=some aa := hp.2.1.2.1
    have hr : aa.isSelfSigned=true := hp.2.2.1
    simpa only [hf,hr,if_true] using h
  · have hp := (AnchoredChain.triple_iff c aa rca).mp h
    have hf : trust.findByHashedId8 c.issuerHashId8=some aa := hp.2.1.2.1
    have hr : aa.isSelfSigned=false := Bool.eq_false_iff.mpr hp.2.2.1.1
    have hg : trust.findByHashedId8 aa.issuerHashId8=some rca := hp.2.2.1.2.1
    simpa only [hf,hr,hg,Bool.false_eq_true,if_false] using h

/-- A revoked step is refused at every position of a path. -/
theorem not_usesLink {store : RevocationStore} {h r : HashedId8}
    (hrevoked : store.isRevoked r h=true)
    (hv : validateChain lib trust (some store) c nowTai=true) : ¬UsesLink trust c h r := by
  intro hu
  obtain ⟨⟨x,y⟩,hm,rfl,rfl⟩ := hu
  have hlink : isRevokedByIssuer (some store) x y=false :=
    ((validateChain_path lib trust (some store) c nowTai hv).link_of_mem hm).2
  rw [isRevokedByIssuer,hrevoked] at hlink
  cases hlink

/-- Whoever is accepted under more revocations is accepted under fewer. -/
theorem validateChain_antitone {fewer more : Option RevocationStore}
    (hle : ∀ x y,isRevokedByIssuer fewer x y=true → isRevokedByIssuer more x y=true)
    (h : validateChain lib trust more c nowTai=true) :
    validateChain lib trust fewer c nowTai=true := by
  have hlink : ∀ x y,(authority lib trust more nowTai).link x y →
      (authority lib trust fewer nowTai).link x y := by
    intro x y hxy
    refine ⟨hxy.1,?_⟩
    by_contra hr
    have hmore := hle x y (by simpa using hr)
    rw [hxy.2] at hmore
    cases hmore
  rw [validateChain_iff] at h ⊢
  rcases h with ⟨aa,h⟩ | ⟨aa,rca,h⟩
  · exact .inl ⟨aa,h.mono (fun _ => rfl) (fun _ => Iff.rfl) (fun _ hn => hn) hlink⟩
  · exact .inr ⟨aa,rca,h.mono (fun _ => rfl) (fun _ => Iff.rfl) (fun _ hn => hn) hlink⟩

end

end V2xPki.TrustChain
