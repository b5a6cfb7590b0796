import V2xPki.Provisioner.Flow
import V2xPki.Sample.StandIn

namespace V2xPki

namespace Cli

structure CertSummary where
  hid8 : HashedId8
  issuerHid8 : HashedId8
  selfSigned : Bool
  psids : List Int
  sizeBytes : Nat
  valid : Bool
deriving DecidableEq

/-- The summary keeps the identifier of an issuer named by a SHA-256 digest only; here, unlike
in `from_struct`, the array is initialised. -/
def summaryIssuer : Option Asn.IssuerIdentifier → Bool × HashedId8
  | some (.self _) => (true,.zero)
  | some (.sha256AndDigest d) => (false,(HashedId8.ofBytes d).getD .zero)
  | _ => (false,.zero)

def summaryPsids (cert : Asn.CertificateBase) : List Int :=
  match do (← cert.toBeSigned).appPermissions with
  | some perms => perms.filterMap fun p => p.map fun p => (p.psid.toNat : Int).bmod (2^64)
  | none => []

variable (lib : Lib)

def computeHid8 (certCoer : Bytes) : HashedId8 := Cert.computeHid8 lib certCoer

def parseCertSummary (coer : Bytes) : CertSummary :=
  match Coer.decode lib.asn.certificateBase coer with
  | none => ⟨.zero,.zero,false,[],coer.length,false⟩
  | some cert => ⟨computeHid8 lib coer,(summaryIssuer cert.issuer).2,(summaryIssuer cert.issuer).1,
      summaryPsids cert,coer.length,true⟩

/-- The four derivations of an identifier give the same, and so do the two of an issuer. -/
structure IdentifiersAgree (uninit : HashedId8) (coer : Bytes) : Prop where
  parsed : (Cert.fromCoer lib uninit coer).hashedId8=Cert.computeHid8 lib coer
  summary : (parseCertSummary lib coer).hid8=Cert.computeHid8 lib coer
  provisioner : Provisioning.hid8Of lib coer=Cert.computeHid8 lib coer
  selfSigned : (parseCertSummary lib coer).selfSigned=(Cert.fromCoer lib uninit coer).isSelfSigned
  issuer : (Cert.fromCoer lib uninit coer).isSelfSigned=false →
    (parseCertSummary lib coer).issuerHid8=(Cert.fromCoer lib uninit coer).issuerHashId8

/-- The key is not on a curve of 384 bits, or else the ends of both hashes are the same. -/
def HashesAgree (cert : Asn.CertificateBase) (coer : Bytes) : Prop :=
  Cert.wholeCertHashCurve (some cert)=.nistP256 ∨
    Cert.truncateHid8 (Crypto.hashSha256 lib.ssl coer)=
      Cert.truncateHid8 (Crypto.hashSha384 lib.ssl coer)

/-- The issuer is one that the summary knows, or is named by zeros, or is not named at all and
the memory of the parser happens to hold zeros. -/
def IssuersAgree (uninit : HashedId8) : Option Asn.IssuerIdentifier → Prop
  | some (.self _) => True
  | some (.sha256AndDigest d) => d.length=kHashedId8Len ∨ uninit=.zero
  | some (.sha384AndDigest d) => if d.length=kHashedId8Len then d=HashedId8.zero.toList
      else uninit=.zero
  | _ => uninit=.zero

section
variable {lib} {uninit : HashedId8} {coer : Bytes} {cert : Asn.CertificateBase}

theorem wholeCertHashCurve_cases (cert : Asn.CertificateBase) :
    Cert.wholeCertHashCurve (some cert)=.nistP256 ∨
      Cert.wholeCertHashCurve (some cert)=.brainpoolP384r1 ∨
      Cert.wholeCertHashCurve (some cert)=.nistP384 := by
  unfold Cert.wholeCertHashCurve
  split
  · exact .inr (.inl rfl)
  · exact .inr (.inr rfl)
  · exact .inl rfl

theorem hid8Of_eq_iff (h : Coer.decode lib.asn.certificateBase coer=some cert) :
    Provisioning.hid8Of lib coer=Cert.computeHid8 lib coer ↔ HashesAgree lib cert coer := by
  unfold HashesAgree Provisioning.hid8Of Cert.computeHid8 Cert.computeHid8Of
  rw [h]
  rcases wholeCertHashCurve_cases cert with hc | hc | hc
  · simp [hc,Crypto.hashForCurve]
  · simp [hc,Crypto.hashForCurve]
  · simp [hc,Crypto.hashForCurve]

theorem summaryIssuer_selfSigned (issuer : Option Asn.IssuerIdentifier) :
    (summaryIssuer issuer).1=(Cert.parseIssuer uninit issuer).isSelfSigned := by
  unfold Cert.parseIssuer
  split <;> rfl

theorem ofBytes_isSome (d : Bytes) : (HashedId8.ofBytes d).isSome ↔ d.length=kHashedId8Len := by
  unfold HashedId8.ofBytes kHashedId8Len
  by_cases h : d.length=8 <;> simp [h]

/-- Where the summary has zeros, the parser has them if they are in the digest or, without a
digest of the right size, in its memory. -/
theorem zero_eq_ofBytes_iff (uninit : HashedId8) (d : Bytes) :
    HashedId8.zero=(HashedId8.ofBytes d).getD uninit ↔
      if d.length=kHashedId8Len then d=HashedId8.zero.toList else uninit=.zero := by
  have hsize := ofBytes_isSome d
  cases hd : HashedId8.ofBytes d with
  | none =>
    rw [hd] at hsize
    have hlen : d.length≠kHashedId8Len := by simpa using hsize
    rw [if_neg hlen]
    exact eq_comm
  | some h =>
    rw [hd] at hsize
    have hlen : d.length=kHashedId8Len := hsize.mp rfl
    have hlist : h.toList=d := HashedId8.ofBytes_some.mp hd
    rw [if_pos hlen,Option.getD_some,← hlist,Vector.toList_inj]
    exact eq_comm

theorem issuersAgree_iff (uninit : HashedId8) (issuer : Option Asn.IssuerIdentifier) :
    ((Cert.parseIssuer uninit issuer).isSelfSigned=false →
      (summaryIssuer issuer).2=(Cert.parseIssuer uninit issuer).issuerHashId8) ↔
      IssuersAgree uninit issuer := by
  cases issuer with
  | none => simp [summaryIssuer,Cert.parseIssuer,IssuersAgree,eq_comm]
  | some issuer =>
    cases issuer with
    | self hash => cases hash <;> simp [Cert.parseIssuer,IssuersAgree]
    | sha256AndDigest d =>
      have hsize := ofBytes_isSome d
      cases hd : HashedId8.ofBytes d with
      | none =>
        rw [hd] at hsize
        have hlen : d.length≠kHashedId8Len := by simpa using hsize
        simp [summaryIssuer,Cert.parseIssuer,IssuersAgree,hd,hlen,eq_comm]
      | some h =>
        rw [hd] at hsize
        have hlen : d.length=kHashedId8Len := hsize.mp rfl
        simp [summaryIssuer,Cert.parseIssuer,IssuersAgree,hd,hlen]
    | sha384AndDigest d =>
      have hzero := zero_eq_ofBytes_iff uninit d
      simpa [summaryIssuer,Cert.parseIssuer,IssuersAgree] using hzero
    | other octets => simp [summaryIssuer,Cert.parseIssuer,IssuersAgree,eq_comm]

/-- The provisioner hashes every certificate with SHA-256 and the summary reads no SHA-384
digest: elsewhere all derivations agree. -/
theorem identifiers_agree_iff (h : Coer.decode lib.asn.certificateBase coer=some cert) :
    IdentifiersAgree lib uninit coer ↔
      HashesAgree lib cert coer ∧ IssuersAgree uninit cert.issuer := by
  have hparsed : Cert.fromCoer lib uninit coer=Cert.fromStruct lib uninit cert coer := by
    rw [Cert.fromCoer,h]
  have hid : (Cert.fromStruct lib uninit cert coer).hashedId8=Cert.computeHid8 lib coer := by
    rw [Cert.computeHid8,h]
    rfl
  have hsummary : parseCertSummary lib coer=⟨Cert.computeHid8 lib coer,
      (summaryIssuer cert.issuer).2,(summaryIssuer cert.issuer).1,summaryPsids cert,
      coer.length,true⟩ := by
    rw [parseCertSummary,h]
    rfl
  constructor
  · intro hagree
    refine ⟨(hid8Of_eq_iff h).mp hagree.provisioner,?_⟩
    rw [← issuersAgree_iff]
    have hissuer := hagree.issuer
    rw [hparsed,hsummary] at hissuer
    exact hissuer
  · rintro ⟨hhash,hissuer⟩
    refine ⟨?_,?_,(hid8Of_eq_iff h).mpr hhash,?_,?_⟩
    · rw [hparsed,hid]
    · rw [hsummary]
    · rw [hparsed,hsummary]
      exact summaryIssuer_selfSigned cert.issuer
    · rw [hparsed,hsummary]
      exact (issuersAgree_iff uninit cert.issuer).mpr hissuer

end

end Cli

namespace Sample

open Cli

/-- A certificate with a key of 384 bits, whose issuer has one too. -/
def longKeyCert : Coded Asn.CertificateBase :=
  let key : Asn.PublicVerificationKey := .ecdsaNistP384 (some (.compressedY0 (binpad 48 6)))
  let body := {(tbs 6 []).2 with verifyKeyIndicator := some (.verificationKey (some key))}
  let digest := binpad 8 1
  ([0,3,0,0x82,8]++digest++[8,0x83,0,0,0,0,0,0,0,0,0,0x86,0,30,1,0,0x80,0x83,49,0x82]++binpad 48 6,
    ⟨3,.explicit,some (.sha384AndDigest digest),some body,none⟩)

def shortKeyCert : Coded Asn.CertificateBase := issued 5 (selfSigned 5 []) 6 []

/-- A library whose two hashes do not end alike. -/
def summaryLib : Lib :=
  {lib {certs := [longKeyCert,shortKeyCert]} with
    ssl := {ssl with sha384 := fun data => checksum 48 (0x80::data)}}

theorem short_key_identifiers_agree :
    Coer.decode summaryLib.asn.certificateBase shortKeyCert.1=some shortKeyCert.2 ∧
    IdentifiersAgree summaryLib .zero shortKeyCert.1 := by
  have hdecode : Coer.decode summaryLib.asn.certificateBase shortKeyCert.1=
      some shortKeyCert.2 := by decide +kernel
  refine ⟨hdecode,(identifiers_agree_iff hdecode).mpr ⟨.inl (by decide +kernel),?_⟩⟩
  exact .inl (by decide +kernel)

/-- The provisioner and the summary each know another identifier than the parser. -/
theorem long_key_identifiers_differ :
    (Coer.decode summaryLib.asn.certificateBase longKeyCert.1).isSome ∧
    ¬IdentifiersAgree summaryLib .zero longKeyCert.1 ∧
    Provisioning.hid8Of summaryLib longKeyCert.1≠Cert.computeHid8 summaryLib longKeyCert.1 ∧
    (parseCertSummary summaryLib longKeyCert.1).issuerHid8≠
      (Cert.fromCoer summaryLib .zero longKeyCert.1).issuerHashId8 := by
  have hid : Provisioning.hid8Of summaryLib longKeyCert.1≠
      Cert.computeHid8 summaryLib longKeyCert.1 := by decide +kernel
  refine ⟨by decide +kernel,?_,hid,by decide +kernel⟩
  intro hagree
  exact hid hagree.provisioner

end Sample

end V2xPki
