import V2xPki.Message.EnvelopeAgreement
import V2xPki.Sample.StandIn
import V2xPki.Trust.ChainPath

namespace V2xPki

namespace CertUtils

open Framework

/-- The point is taken apart without a look at its first octet. -/
def buildTbsStruct (name : String) (publicKey : Bytes) (isCa : Bool) (startTime : UInt32)
    (durationYears : UInt16) : Option Asn.ToBeSignedCertificate :=
  if publicKey.length≠kP256PublicKeyLen then none
  else
    let point := .uncompressed ((publicKey.drop 1).take kP256ScalarLen)
      ((publicKey.drop kP256CompressedLen).take kP256ScalarLen)
    some
      {id := some (.name (bytesOfString name))
       cracaId := [0,0,0]
       crlSeries := 0
       validityPeriod := some ⟨startTime,some (.years durationYears)⟩
       appPermissions := none
       certIssuePermissions := if isCa then some [] else none
       encryptionKey := none
       verifyKeyIndicator := some (.verificationKey (some (.ecdsaNistP256 (some point))))
       others := []}

variable (lib : Lib)

/-- IEEE 1609.2 §5.3.1, in SHA-256 whatever the issuer. -/
def builtDigest (tbsCoer : Bytes) (isSelfSigned : Bool) (issuerCertBytes : Bytes) : Bytes :=
  let signerInput := if isSelfSigned then [] else issuerCertBytes
  Crypto.hashSha256 lib.ssl (Crypto.hashSha256 lib.ssl tbsCoer++
    Crypto.hashSha256 lib.ssl signerInput)

/-- The `CertificateBase` around a body and its signature. -/
def builtCert (tbs : Asn.ToBeSignedCertificate) (isSelfSigned : Bool) (issuerHid8 : HashedId8)
    (sig : Signature) : Asn.CertificateBase :=
  ⟨kIeee1609Dot2Version,.explicit,
    some (if isSelfSigned then .self .sha256 else .sha256AndDigest issuerHid8.toList),some tbs,
    some (.ecdsaNistP256Signature (some
      ⟨some (.xOnly (sig.r.data kP256ScalarLen)),sig.s.data kP256ScalarLen⟩))⟩

/-- The `CertInfo` as the builder fills it, member by member. -/
def builtInfo (name : String) (isSelfSigned : Bool) (issuerHid8 : HashedId8) (sig : Signature)
    (pk : StaticBytes kP384PublicKeyLen) (cb tb : StaticBytes kMaxCoerMessageLen)
    (startTime : UInt32) (durationYears : UInt16) : CertInfo :=
  {CertInfo.zero with
    certBytes := cb
    hashedId8 := Cert.computeHid8 lib cb.toVector
    publicKey := pk
    isSelfSigned := isSelfSigned
    tbsBytes := tb
    signatureR := sig.r
    signatureS := sig.s
    validityStart := startTime
    validityDurationSeconds := durationYears.toUInt64*UInt64.ofNat kYearSeconds
    label := name
    issuerHashId8 := if isSelfSigned then .zero else issuerHid8}

/-- `nonce` is what the signature draws. -/
def buildSignedCert (name : String) (subjectPublicKey issuerPrivateKey : Bytes)
    (issuerHid8 : HashedId8) (isCa isSelfSigned : Bool) (issuerCertBytes : Bytes) (nonce : Nat) :
    Option CertInfo :=
  if subjectPublicKey.length≠kP256PublicKeyLen then none
  else do
    let startTime : UInt32 := 0
    let durationYears : UInt16 := 30
    let tbs ← buildTbsStruct name subjectPublicKey isCa startTime durationYears
    let tbsCoer := Coer.encode lib.asn.toBeSignedCertificate tbs
    if tbsCoer.isEmpty then none
    else do
      let sig ← Crypto.ecdsaSignDigest lib.ssl issuerPrivateKey
        (builtDigest lib tbsCoer isSelfSigned issuerCertBytes) .nistP256 nonce
      let certBytes := Coer.encode lib.asn.certificateBase
        (builtCert tbs isSelfSigned issuerHid8 sig)
      if certBytes.isEmpty then none
      else do
        let pk ← StaticBytes.fromBytes subjectPublicKey
        let cb ← StaticBytes.fromBytes certBytes
        let tb ← StaticBytes.fromBytes tbsCoer
        some (builtInfo lib name isSelfSigned issuerHid8 sig pk cb tb startTime durationYears)

def buildRootCert (name : String) (publicKey privateKey : Bytes) (nonce : Nat) :
    Option CertInfo :=
  buildSignedCert lib name publicKey privateKey .zero true true [] nonce

section
variable {lib} {name : String} {subject priv : Bytes} {hid8 : HashedId8} {isCa isSelfSigned : Bool}
  {issuerBytes : Bytes} {nonce : Nat} {ci : CertInfo}

/-- What a certificate was built from, if one was. -/
theorem buildSignedCert_some
    (h : buildSignedCert lib name subject priv hid8 isCa isSelfSigned issuerBytes nonce=some ci) :
    ∃ tbs sig pk cb tb,buildTbsStruct name subject isCa 0 30=some tbs ∧
      Coer.encode lib.asn.toBeSignedCertificate tbs=tb.toVector ∧ tb.toVector≠[] ∧
      Crypto.ecdsaSignDigest lib.ssl priv
        (builtDigest lib tb.toVector isSelfSigned issuerBytes) .nistP256 nonce=some sig ∧
      lib.asn.certificateBase.encode (builtCert tbs isSelfSigned hid8 sig)=some cb.toVector ∧
      pk.toVector=subject ∧ ci=builtInfo lib name isSelfSigned hid8 sig pk cb tb 0 30 := by
  unfold buildSignedCert at h
  split at h
  · cases h
  obtain ⟨tbs,htbs,h⟩ := Option.bind_eq_some_iff.mp h
  dsimp only at h
  split at h
  · cases h
  rename_i hne
  obtain ⟨sig,hsig,h⟩ := Option.bind_eq_some_iff.mp h
  split at h
  · cases h
  rename_i hcert
  simp only [Option.bind_eq_bind,Option.bind_eq_some_iff] at h
  obtain ⟨pk,hpk,cb,hcb,tb,htb,hci⟩ := h
  have hcb := StaticBytes.fromBytes_some.mp hcb
  have htb := StaticBytes.fromBytes_some.mp htb
  have hencoded := Coer.encode_ne_nil (by simpa using hcert)
  rw [← htb] at hne hsig
  rw [← hcb] at hencoded
  exact ⟨tbs,sig,pk,cb,tb,htbs,htb.symm,by simpa using hne,hsig,hencoded,
    StaticBytes.fromBytes_some.mp hpk,(Option.some.inj hci).symm⟩

/-- An uncompressed point of the right length. -/
structure Uncompressed (key : Bytes) : Prop where
  length : key.length=kP256PublicKeyLen
  mark : key.head?=some 0x04

theorem toSec1_parts (h : Uncompressed subject) :
    Point.toSec1 (some (.uncompressed ((subject.drop 1).take kP256ScalarLen)
      ((subject.drop kP256CompressedLen).take kP256ScalarLen)))=subject := by
  obtain ⟨hlen,hmark⟩ := h
  cases subject with
  | nil => cases hmark
  | cons c rest =>
    obtain rfl : c=0x04 := by simpa using hmark
    have hrest : rest.length=64 := by
      simpa [kP256PublicKeyLen] using hlen
    have hrear : (rest.drop 32).take 32=rest.drop 32 := List.take_of_length_le (by simp [hrest])
    have hparts : rest.take 32++(rest.drop 32).take 32=rest := by
      rw [hrear,List.take_append_drop]
    simp [Point.toSec1,Point.toSec1Of,kP256ScalarLen,kP256CompressedLen,hrest,hparts]

section
variable {tbs : Asn.ToBeSignedCertificate} {sig : Signature}

theorem parseVerificationKey_built (hsubject : Uncompressed subject)
    (htbs : buildTbsStruct name subject isCa 0 30=some tbs) :
    Cert.parseVerificationKey (builtCert tbs isSelfSigned hid8 sig)=(subject,.nistP256) := by
  rw [buildTbsStruct,if_neg (not_not.mpr hsubject.length)] at htbs
  have htbs := (Option.some.inj htbs).symm
  subst htbs
  exact congrArg (·,Curve.nistP256) (toSec1_parts hsubject)

theorem parseEncryptionKey_built (htbs : buildTbsStruct name subject isCa 0 30=some tbs)
    (isSelfSigned : Bool) (hid8 : HashedId8) (sig : Signature) :
    Cert.parseEncryptionKey (builtCert tbs isSelfSigned hid8 sig)=([],.nistP256) := by
  unfold buildTbsStruct at htbs
  split at htbs
  · cases htbs
  · have htbs := (Option.some.inj htbs).symm
    subst htbs
    rfl

theorem parseValidity_built (htbs : buildTbsStruct name subject isCa 0 30=some tbs)
    (isSelfSigned : Bool) (hid8 : HashedId8) (sig : Signature) :
    Cert.parseValidity (builtCert tbs isSelfSigned hid8 sig)=
      (0,30*UInt64.ofNat kYearSeconds) := by
  unfold buildTbsStruct at htbs
  split at htbs
  · cases htbs
  · have htbs := (Option.some.inj htbs).symm
    subst htbs
    rfl

theorem parseIssuer_built (tbs : Asn.ToBeSignedCertificate) (isSelfSigned : Bool)
    (hid8 : HashedId8) (sig : Signature) (uninit : HashedId8) :
    Cert.parseIssuer uninit (builtCert tbs isSelfSigned hid8 sig).issuer=
      ⟨isSelfSigned,.sha256,if isSelfSigned then uninit else hid8⟩ := by
  cases isSelfSigned with
  | true => rfl
  | false =>
    have hid : HashedId8.ofBytes hid8.toList=some hid8 := HashedId8.ofBytes_some.mpr rfl
    simp [builtCert,Cert.parseIssuer,hid]

theorem parseSignature_built (tbs : Asn.ToBeSignedCertificate) (isSelfSigned : Bool)
    (hid8 : HashedId8) (h : Crypto.Sized sig .nistP256) :
    Cert.parseSignature (builtCert tbs isSelfSigned hid8 sig)=
      (sig.r.toVector,sig.s.toVector) := by
  have hextract := Sign.extractSig_buildAsnSignature (by decide) h
  have hsig : (builtCert tbs isSelfSigned hid8 sig).signature=
      some (Sign.buildAsnSignature sig .nistP256) := rfl
  rw [Cert.parseSignature,hsig,hextract]

end

/-- The parser finds in the encoding what the builder wrote down by hand. The identifier of the
issuer is the one thing it does not find in a self-signed certificate. -/
theorem fromCoer_built (hcodec : lib.asn.certificateBase.RoundTrip) (hsubject : Uncompressed subject)
    (h : buildSignedCert lib name subject priv hid8 isCa isSelfSigned issuerBytes nonce=some ci)
    (uninit : HashedId8) :
    Cert.fromCoer lib uninit ci.certBytes.toVector=
      {ci with label := "",issuerHashId8 := if isSelfSigned then uninit else ci.issuerHashId8} := by
  obtain ⟨tbs,sig,pk,cb,tb,htbs,htbsBytes,-,hsign,hencoded,hkey,rfl⟩ := buildSignedCert_some h
  have hdecoded : Coer.decode lib.asn.certificateBase cb.toVector=
      some (builtCert tbs isSelfSigned hid8 sig) := Coer.decode_encode hcodec hencoded
  have hid : Cert.computeHid8Of lib (some (builtCert tbs isSelfSigned hid8 sig)) cb.toVector=
      Cert.computeHid8 lib cb.toVector := by
    rw [Cert.computeHid8,hdecoded]
  have hvk : Cert.parseVerificationKey (builtCert tbs isSelfSigned hid8 sig)=
      (pk.toVector,.nistP256) := by
    rw [hkey]
    exact parseVerificationKey_built hsubject htbs
  have hek := parseEncryptionKey_built htbs isSelfSigned hid8 sig
  have hvalidity := parseValidity_built htbs isSelfSigned hid8 sig
  have htbs' : Cert.parseTbs lib (builtCert tbs isSelfSigned hid8 sig)=tb.toVector := htbsBytes
  have hsig := parseSignature_built tbs isSelfSigned hid8 (Crypto.ecdsaSignDigest_sized hsign)
  have hissuer := parseIssuer_built tbs isSelfSigned hid8 sig uninit
  have hcb : (builtInfo lib name isSelfSigned hid8 sig pk cb tb 0 30).certBytes=cb := rfl
  rw [hcb,Cert.fromCoer,hdecoded]
  dsimp only [Cert.fromStruct]
  rw [hid,hvk,hek,hvalidity,htbs',hsig,hissuer]
  simp only [StaticBytes.orEmpty_toVector_self]
  cases isSelfSigned <;> rfl

/-- Builder and verifier hash the same octets, in the same order. -/
theorem certDigest_built
    (h : buildSignedCert lib name subject priv hid8 isCa isSelfSigned issuerBytes nonce=some ci)
    {issuer : CertInfo} (hbytes : isSelfSigned=false → issuerBytes=issuer.certBytes.toVector) :
    TrustChain.certDigest lib ci issuer=
      builtDigest lib ci.tbsBytes.toVector isSelfSigned issuerBytes := by
  obtain ⟨tbs,sig,pk,cb,tb,-,-,-,-,-,-,rfl⟩ := buildSignedCert_some h
  cases isSelfSigned with
  | true => rfl
  | false =>
    rw [hbytes rfl]
    rfl

variable {laws : CryptoLaws lib.ssl} {point : Bytes}

theorem verify_built
    (h : buildSignedCert lib name subject priv hid8 isCa isSelfSigned issuerBytes nonce=some ci)
    (hkey : KeyPairOn laws .nistP256 priv point) {issuer : CertInfo}
    (hcurve : issuer.curve=.nistP256) (hpub : PublicForm .nistP256 point issuer.publicKey.toVector)
    (hbytes : isSelfSigned=false → issuerBytes=issuer.certBytes.toVector) :
    TrustChain.verifyCertSignature lib ci issuer=true := by
  have hdigest := certDigest_built h hbytes
  have hlen : (builtDigest lib ci.tbsBytes.toVector isSelfSigned issuerBytes).length=
      Curve.hashLen .nistP256 := Crypto.hashSha256_length lib.ssl _
  obtain ⟨sig',hsign',hsized,hverify⟩ := Crypto.ecdsaSignDigest_verifies hkey hlen nonce
  obtain ⟨tbs,sig,pk,cb,tb,-,-,hne,hsign,-,-,hci⟩ := buildSignedCert_some h
  subst hci
  obtain rfl : sig'=sig := Option.some.inj (hsign'.symm.trans hsign)
  rw [TrustChain.verifyCertSignature_iff,hdigest,hcurve]
  exact ⟨hne,hsized.r,hsized.s,hverify _ hpub⟩

end

section
variable {lib} (laws : CryptoLaws lib.ssl)

/-- `issuer` holds the given key, and its identifier and octets went into the certificate, which
may have got another label since. -/
def Issued (ci issuer : CertInfo) : Prop :=
  ∃ name subject priv point isCa nonce built label,Uncompressed subject ∧
    KeyPairOn laws .nistP256 priv point ∧ issuer.curve=.nistP256 ∧
    PublicForm .nistP256 point issuer.publicKey.toVector ∧
    buildSignedCert lib name subject priv issuer.hashedId8 isCa false issuer.certBytes.toVector
      nonce=some built ∧
    ci={built with label := label}

/-- A self-signed certificate; nobody reads the identifier of its issuer. -/
def SelfIssued (ci : CertInfo) : Prop :=
  ∃ name subject priv hid8 isCa issuerBytes nonce built label issuerId,
    KeyPairOn laws .nistP256 priv subject ∧
    buildSignedCert lib name subject priv hid8 isCa true issuerBytes nonce=some built ∧
    ci={built with label := label,issuerHashId8 := issuerId}

/-- Built certificates, each stored and issued by the next, up to a self-signed one. -/
structure BuiltPath (trust : TrustChain) (xs : List CertInfo) : Prop where
  issued : xs.IsChain fun x y =>
    Issued laws x y ∧ trust.findByHashedId8 y.hashedId8=some y
  root : ∃ r,xs.getLast?=some r ∧ SelfIssued laws r

/-- What is parsed back is what was built, up to the label. -/
def ParsedBack (lib : Lib) (ci : CertInfo) : Prop :=
  ∀ uninit,Cert.fromCoer lib uninit ci.certBytes.toVector=
    {ci with label := "",issuerHashId8 := if ci.isSelfSigned then uninit else ci.issuerHashId8}

/-- None of them is revoked by the one that issued it. -/
def NoneRevoked (revocation : Option RevocationStore) (xs : List CertInfo) : Prop :=
  ∀ p∈stepsOf xs,TrustChain.isRevokedByIssuer revocation p.1 p.2=false

end

section
variable {lib} {laws : CryptoLaws lib.ssl} {ci issuer : CertInfo}

theorem Issued.verifies (h : Issued laws ci issuer) :
    TrustChain.verifyCertSignature lib ci issuer=true := by
  obtain ⟨name,subject,priv,point,isCa,nonce,built,label,-,hkey,hcurve,hpub,hbuilt,rfl⟩ := h
  exact verify_built hbuilt hkey hcurve hpub fun _ => rfl

theorem Issued.fields (h : Issued laws ci issuer) :
    ci.isSelfSigned=false ∧ ci.issuerHashId8=issuer.hashedId8 := by
  obtain ⟨name,subject,priv,point,isCa,nonce,built,label,-,-,-,-,hbuilt,rfl⟩ := h
  obtain ⟨tbs,sig,pk,cb,tb,-,-,-,-,-,-,rfl⟩ := buildSignedCert_some hbuilt
  exact ⟨rfl,rfl⟩

theorem SelfIssued.verifies (h : SelfIssued laws ci) :
    ci.isSelfSigned=true ∧ TrustChain.verifyCertSignature lib ci ci=true := by
  obtain ⟨name,subject,priv,hid8,isCa,issuerBytes,nonce,built,label,issuerId,hkey,hbuilt,rfl⟩ := h
  obtain ⟨tbs,sig,pk,cb,tb,-,-,-,-,-,hpk,hci⟩ := buildSignedCert_some hbuilt
  subst hci
  refine ⟨rfl,?_⟩
  exact verify_built hbuilt hkey rfl (.inl hpk) fun hself => nomatch hself

/-- A path of built certificates is one that chain validation goes along, of any length. -/
theorem BuiltPath.anchored {trust : TrustChain} {revocation : Option RevocationStore} {nowTai : Int}
    {xs : List CertInfo} (h : BuiltPath laws trust xs) (hvalid : ∀ x∈xs,x.validAt nowTai=true)
    (hrevoked : NoneRevoked revocation xs) :
    AnchoredChain (TrustChain.authority lib trust revocation nowTai) xs := by
  obtain ⟨hissued,r,hr,hroot⟩ := h
  obtain ⟨hself,hverified⟩ := hroot.verifies
  have hlast : (r,r)∈stepsOf xs := stepsOf_last hr
  refine ⟨hvalid,?_,r,hr,hself,hverified,hrevoked (r,r) hlast⟩
  refine isChain_of_steps hissued ?_
  intro x y hstep hxy
  obtain ⟨hleaf,hid⟩ := hxy.1.fields
  refine ⟨?_,?_,hxy.1.verifies,hrevoked (x,y) hstep⟩
  · intro hx
    exact Bool.false_ne_true (hleaf.symm.trans hx)
  · change trust.findByHashedId8 x.issuerHashId8=some y
    rw [hid]
    exact hxy.2

theorem parsedBack_built (hcodec : lib.asn.certificateBase.RoundTrip) {name : String}
    {subject priv : Bytes} {hid8 : HashedId8} {isCa isSelfSigned : Bool} {issuerBytes : Bytes}
    {nonce : Nat} (hsubject : Uncompressed subject)
    (h : buildSignedCert lib name subject priv hid8 isCa isSelfSigned issuerBytes nonce=some ci) :
    ParsedBack lib ci := by
  intro uninit
  have hself : ci.isSelfSigned=isSelfSigned := by
    obtain ⟨tbs,sig,pk,cb,tb,-,-,-,-,-,-,rfl⟩ := buildSignedCert_some h
    rfl
  have hparsed := fromCoer_built hcodec hsubject h uninit
  rw [← hself] at hparsed
  exact hparsed

end

/-- What the builder returns is what the parser reads and what the verifier accepts, and a path
of such certificates up to a root is accepted if it has one or two steps before the root: the
ones that `validate_chain` is made for. -/
theorem built_certs_accepted {lib : Lib} (laws : CryptoLaws lib.ssl)
    (hcodec : lib.asn.certificateBase.RoundTrip) :
    (∀ name subject priv hid8 isCa issuerBytes nonce ci,KeyPairOn laws .nistP256 priv subject →
      buildSignedCert lib name subject priv hid8 isCa true issuerBytes nonce=some ci →
      ParsedBack lib ci ∧ TrustChain.verifyCertSignature lib ci ci=true) ∧
    (∀ name subject priv nonce ci,KeyPairOn laws .nistP256 priv subject →
      buildRootCert lib name subject priv nonce=some ci →
      ParsedBack lib ci ∧ TrustChain.verifyCertSignature lib ci ci=true) ∧
    (∀ name subject priv point isCa nonce issuer ci,Uncompressed subject →
      KeyPairOn laws .nistP256 priv point → issuer.curve=.nistP256 →
      PublicForm .nistP256 point issuer.publicKey.toVector →
      buildSignedCert lib name subject priv issuer.hashedId8 isCa false
        issuer.certBytes.toVector nonce=some ci →
      ParsedBack lib ci ∧ TrustChain.verifyCertSignature lib ci issuer=true) ∧
    (∀ trust revocation nowTai leaf path,BuiltPath laws trust (leaf::path) →
      path.length=1 ∨ path.length=2 → (∀ x∈leaf::path,x.validAt nowTai=true) →
      NoneRevoked revocation (leaf::path) →
      TrustChain.validateChain lib trust revocation leaf nowTai=true) := by
  have hself : ∀ name subject priv hid8 isCa issuerBytes nonce ci,
      KeyPairOn laws .nistP256 priv subject →
      buildSignedCert lib name subject priv hid8 isCa true issuerBytes nonce=some ci →
      ParsedBack lib ci ∧ TrustChain.verifyCertSignature lib ci ci=true := by
    intro name subject priv hid8 isCa issuerBytes nonce ci hkey h
    obtain ⟨hlen,hmark,-⟩ := hkey.exported
    have hbuilt : SelfIssued laws ci := ⟨name,subject,priv,hid8,isCa,issuerBytes,nonce,ci,
      ci.label,ci.issuerHashId8,hkey,h,rfl⟩
    exact ⟨parsedBack_built hcodec ⟨hlen,hmark⟩ h,hbuilt.verifies.2⟩
  refine ⟨hself,?_,?_,?_⟩
  · intro name subject priv nonce ci hkey h
    exact hself name subject priv .zero true [] nonce ci hkey h
  · intro name subject priv point isCa nonce issuer ci hsubject hkey hcurve hpub h
    exact ⟨parsedBack_built hcodec hsubject h,verify_built h hkey hcurve hpub fun _ => rfl⟩
  · intro trust revocation nowTai leaf path hpath hlen hvalid hrevoked
    have hanchored := hpath.anchored hvalid hrevoked
    have hshort : (leaf::path).length=2 ∨ (leaf::path).length=3 := by
      rw [List.length_cons]
      omega
    rw [TrustChain.validateChain_iff]
    exact (AnchoredChain.exists_short_iff leaf).mp ⟨leaf::path,rfl,hshort,hanchored⟩

end CertUtils

namespace Sample

open Framework CertUtils

/-- The body that the builder makes for a key. -/
def namedBody (name : String) (key : Nat) (isCa : Bool) : Coded Asn.ToBeSignedCertificate :=
  let octets := bytesOfString name
  ((if isCa then [0x08] else [0])++0x81::UInt8.ofNat octets.length::octets++
      [0,0,0,0,0,0,0,0,0,0x86,0,30]++(if isCa then [1,0] else [])++
      [0x80,0x80,0x84]++(pointOf .nistP256 key).tail,
    (buildTbsStruct name (pointOf .nistP256 key) isCa 0 30).getD (tbs key []).2)

/-- A root, two CAs below it and a station below the second. -/
def towerBodies : List (Coded Asn.ToBeSignedCertificate) :=
  [namedBody "rca_root" 5 true,namedBody "upper" 6 true,namedBody "lower" 7 true,
    namedBody "station" 8 false]

def towerRoot : Coded Asn.CertificateBase :=
  cert ([0x81,0],.self .sha256) (namedBody "rca_root" 5 true)
    (signature 5 (namedBody "rca_root" 5 true).1 [])

def towerUpper : Coded Asn.CertificateBase := issuedBody 5 towerRoot (namedBody "upper" 6 true)

def towerLower : Coded Asn.CertificateBase := issuedBody 6 towerUpper (namedBody "lower" 7 true)

def towerStation : Coded Asn.CertificateBase :=
  issuedBody 7 towerLower (namedBody "station" 8 false)

def towerLib : Lib :=
  lib {certs := [towerRoot,towerUpper,towerLower,towerStation],bodies := towerBodies}

def towerLaws : CryptoLaws towerLib.ssl := sslLaws

def rootBuilt : CertInfo :=
  (buildRootCert towerLib "rca_root" (pointOf .nistP256 5) (binpad 32 5) 1).getD .zero

def builtUnder (name : String) (key : Nat) (isCa : Bool) (issuerKey : Nat) (issuer : CertInfo) :
    CertInfo :=
  (buildSignedCert towerLib name (pointOf .nistP256 key) (binpad 32 issuerKey) issuer.hashedId8
    isCa false issuer.certBytes.toVector 1).getD .zero

def upperBuilt : CertInfo := builtUnder "upper" 6 true 5 rootBuilt

def lowerBuilt : CertInfo := builtUnder "lower" 7 true 6 upperBuilt

def stationBuilt : CertInfo := builtUnder "station" 8 false 7 lowerBuilt

def towerStore : TrustChain := [rootBuilt,upperBuilt,lowerBuilt].foldl TrustChain.addCert .empty

theorem builtUnder_issued {name : String} {key : Nat} {isCa : Bool} {issuerKey : Nat}
    {issuer : CertInfo} (hkey : 0 < issuerKey ∧ issuerKey<256^32) (hcurve : issuer.curve=.nistP256)
    (hpub : issuer.publicKey.toVector=pointOf .nistP256 issuerKey)
    (hsome : (buildSignedCert towerLib name (pointOf .nistP256 key) (binpad 32 issuerKey)
      issuer.hashedId8 isCa false issuer.certBytes.toVector 1).isSome) :
    Issued towerLaws (builtUnder name key isCa issuerKey issuer) issuer := by
  obtain ⟨built,hbuilt⟩ := Option.isSome_iff_exists.mp hsome
  have heq : builtUnder name key isCa issuerKey issuer=built := by
    rw [builtUnder,hbuilt,Option.getD_some]
  have hpoint : Uncompressed (pointOf .nistP256 key) := ⟨by simp [pointOf]; rfl,rfl⟩
  exact ⟨name,_,_,_,isCa,1,built,built.label,hpoint,keyPairOn_pointOf hkey.1 hkey.2,hcurve,
    .inl hpub,hbuilt,heq⟩

theorem rootBuilt_selfIssued : SelfIssued towerLaws rootBuilt := by
  have hsome : (buildRootCert towerLib "rca_root" (pointOf .nistP256 5) (binpad 32 5) 1).isSome := by
    decide +kernel
  obtain ⟨built,hbuilt⟩ := Option.isSome_iff_exists.mp hsome
  have heq : rootBuilt=built := by rw [rootBuilt,hbuilt,Option.getD_some]
  exact ⟨_,_,_,_,_,_,_,built,built.label,built.issuerHashId8,
    keyPairOn_pointOf (by decide) (by decide),hbuilt,heq⟩

/-- The certificates of the tower, each issued by the next. -/
theorem tower_issued :
    Issued towerLaws upperBuilt rootBuilt ∧ Issued towerLaws lowerBuilt upperBuilt ∧
    Issued towerLaws stationBuilt lowerBuilt := by
  refine ⟨builtUnder_issued (by decide) ?_ ?_ ?_,builtUnder_issued (by decide) ?_ ?_ ?_,
    builtUnder_issued (by decide) ?_ ?_ ?_⟩
  all_goals decide +kernel

theorem tower_stored :
    towerStore.findByHashedId8 rootBuilt.hashedId8=some rootBuilt ∧
    towerStore.findByHashedId8 upperBuilt.hashedId8=some upperBuilt ∧
    towerStore.findByHashedId8 lowerBuilt.hashedId8=some lowerBuilt := by
  decide +kernel

/-- A certificate two steps below the root is accepted. -/
theorem lower_accepted :
    towerLib.asn.certificateBase.RoundTrip ∧
    TrustChain.validateChain towerLib towerStore none lowerBuilt 0=true := by
  have hcodec : towerLib.asn.certificateBase.RoundTrip :=
    Codec.table_roundTrip [towerRoot,towerUpper,towerLower,towerStation] (by decide +kernel)
  obtain ⟨hupper,hlower,-⟩ := tower_issued
  obtain ⟨hroot,hmiddle,-⟩ := tower_stored
  have hpath : BuiltPath towerLaws towerStore [lowerBuilt,upperBuilt,rootBuilt] := by
    refine ⟨?_,rootBuilt,rfl,rootBuilt_selfIssued⟩
    simp [hupper,hlower,hroot,hmiddle]
  refine ⟨hcodec,?_⟩
  exact (built_certs_accepted towerLaws hcodec).2.2.2 towerStore none 0 lowerBuilt
    [upperBuilt,rootBuilt] hpath (.inr rfl) (by decide +kernel) (fun _ _ => rfl)

/-- One step more is too many, though everything else is the same. -/
theorem station_under_lower_refused :
    BuiltPath towerLaws towerStore [stationBuilt,lowerBuilt,upperBuilt,rootBuilt] ∧
    (∀ x∈[stationBuilt,lowerBuilt,upperBuilt,rootBuilt],x.validAt 0=true) ∧
    NoneRevoked none [stationBuilt,lowerBuilt,upperBuilt,rootBuilt] ∧
    TrustChain.validateChain towerLib towerStore none stationBuilt 0=false := by
  obtain ⟨hupper,hlower,hstation⟩ := tower_issued
  obtain ⟨hroot,hmiddle,hlow⟩ := tower_stored
  refine ⟨⟨?_,rootBuilt,rfl,rootBuilt_selfIssued⟩,by decide +kernel,fun _ _ => rfl,
    by decide +kernel⟩
  simp [hupper,hlower,hstation,hroot,hmiddle,hlow]

end Sample

end V2xPki
