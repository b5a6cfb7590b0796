import V2xPki.Message.EncryptedData
import V2xPki.Message.EnvelopeAgreement
import V2xPki.Trust.SignedList
import V2xPki.Trust.TrustChain

namespace V2xPki

open SignedMsg

/-- The curve the alternative of a signature names. -/
def Asn.Signature.curve? : Asn.Signature → Option Curve
  | .ecdsaNistP256Signature _ => some .nistP256
  | .ecdsaBrainpoolP256r1Signature _ => some .brainpoolP256r1
  | .ecdsaBrainpoolP384r1Signature _ => some .brainpoolP384r1
  | .ecdsaNistP384Signature _ => some .nistP384
  | .other _ => none

/-- The alternative of a curve, around a signature. -/
def Asn.Signature.tagged (curve : Curve) (r s : Bytes) : Asn.Signature :=
  let ecdsa := some ⟨some (.xOnly r),s⟩
  match curve with
  | .nistP256 => .ecdsaNistP256Signature ecdsa
  | .brainpoolP256r1 => .ecdsaBrainpoolP256r1Signature ecdsa
  | .brainpoolP384r1 => .ecdsaBrainpoolP384r1Signature ecdsa
  | .nistP384 => .ecdsaNistP384Signature ecdsa

/-- The other curve of the same size. -/
def Curve.sibling : Curve → Curve
  | .nistP256 => .brainpoolP256r1
  | .brainpoolP256r1 => .nistP256
  | .nistP384 => .brainpoolP384r1
  | .brainpoolP384r1 => .nistP384

variable (lib : Lib)

/-- The curve named by the signature of an envelope. -/
def envelopeCurve? (coer : Bytes) : Option Curve := do
  let outer ← Coer.decodeWithBasicFallback lib.asn.ieee1609Dot2Data coer
  let sd ← signedData? outer
  let sig ← sd.signature
  sig.curve?

/-- Whatever is accepted under the key of `signer` names the curve of that key. -/
structure EnvelopesBound (signer : CertInfo) : Prop where
  ectl : ∀ mem nowTai coer topo,TrustList.decodeEctl lib mem nowTai coer
      signer.publicKey.toVector signer.certBytes.toVector=.ok topo →
    topo.ectlSignatureVerified=true → envelopeCurve? lib coer=some signer.curve
  rcaCtl : ∀ mem nowTai coer topo,TrustList.decodeRcaCtl lib mem nowTai coer
      signer.publicKey.toVector signer.certBytes.toVector=.ok topo →
    topo.ctlSignatureVerified=true → envelopeCurve? lib coer=some signer.curve
  crl : ∀ coer crl,decodeCrl lib coer signer.publicKey.toVector
    signer.certBytes.toVector=.ok crl → envelopeCurve? lib coer=some signer.curve
  -- the signed envelope of a response is its plaintext
  response : ∀ resp priv aes tag inner,Enc.decryptAndUnwrap lib resp priv aes tag signer=.ok inner →
    (Enc.plaintext? lib resp priv aes).bind (envelopeCurve? lib)=some signer.curve

def CertsBound (issuer : CertInfo) : Prop :=
  ∀ uninit cert coer,
    TrustChain.verifyCertSignature lib (Cert.fromStruct lib uninit cert coer) issuer=true →
    cert.signature.bind (·.curve?)=some issuer.curve

theorem extractEcdsa_curve {curve : Curve} {ecdsa : Option Asn.EcdsaSignature} {rs : Point.SigRS}
    (h : Point.extractEcdsa curve ecdsa=some rs) : rs.curve=curve := by
  cases ecdsa with
  | none => cases h
  | some ecdsa =>
    simp only [Point.extractEcdsa] at h
    split at h
    · cases h
    split at h
    · cases h
    exact (congrArg (·.curve) (Option.some.inj h)).symm

theorem extractSig_curve {sig : Option Asn.Signature} {rs : Point.SigRS}
    (h : Point.extractSig sig=some rs) : sig.bind (·.curve?)=some rs.curve := by
  cases sig with
  | none => cases h
  | some sig =>
    cases sig with
    | other octets => cases h
    | _ =>
      rw [extractEcdsa_curve h]
      rfl

theorem extractSig_tagged {curve : Curve} {r s : Bytes} (hr : r.length=curve.scalarLen)
    (hs : s.length=curve.scalarLen) :
    Point.extractSig (some (.tagged curve r s))=some ⟨r,s,curve⟩ := by
  have hbody : Point.extractEcdsa curve (some ⟨some (.xOnly r),s⟩)=some ⟨r,s,curve⟩ := by
    simp [Point.extractEcdsa,Point.sigR,hr,hs]
  cases curve <;> exact hbody

theorem curve_tagged (curve : Curve) (r s : Bytes) :
    (Asn.Signature.tagged curve r s).curve?=some curve := by
  cases curve <;> rfl

theorem Curve.sibling_ne (curve : Curve) : curve.sibling≠curve := by
  cases curve <;> decide

theorem Curve.sibling_scalarLen (curve : Curve) : curve.sibling.scalarLen=curve.scalarLen := by
  cases curve <;> rfl

namespace Crypto
variable {ssl : OpenSsl} {pub digest : Bytes} {sig : Signature} {curve : Curve}

/-- The groups are cyclic: the point of every public key that is taken has a scalar. -/
def KeysHaveScalars (laws : CryptoLaws ssl) : Prop :=
  ∀ curve pub point,evpPkeyFromPublic ssl pub curve=some point →
    ∃ d,0<d ∧ d<laws.order curve ∧ ssl.publicOf curve d=some point

/-- Where a key is taken, somebody can sign for it. -/
theorem signs_of_taken {laws : CryptoLaws ssl} (hkeys : KeysHaveScalars laws) {point : Bytes}
    (h : evpPkeyFromPublic ssl pub curve=some point) (hdigest : digest.length=curve.hashLen) :
    ∃ sig,Sized sig curve ∧ ecdsaVerifyDigest ssl pub digest sig curve=true := by
  obtain ⟨d,hpos,hlt,hpublic⟩ := hkeys curve pub point h
  have hkey := KeyPairOn.of_scalar hpos hlt hpublic
  obtain ⟨sig,-,hsized,hverify⟩ := ecdsaSignDigest_verifies hkey hdigest 0
  refine ⟨sig,hsized,?_⟩
  have hpoint := hverify point (.inl rfl)
  -- the check reads the key through its point only
  unfold ecdsaVerifyDigest at hpoint ⊢
  rw [evpPkeyFromPublic_of_form hkey (.inl rfl)] at hpoint
  rw [h]
  exact hpoint

end Crypto

section Accepted
variable {lib} {coer pub cert : Bytes} {m : SignedMessage} {signer : CertInfo}

/-- The verifier works on the curve the envelope names, and the key was taken there. -/
theorem tag_of_verify (hm : unwrap lib coer=some m) (hv : verify lib m pub cert=true) :
    envelopeCurve? lib coer=some m.sigCurve ∧
      ∃ point,Crypto.evpPkeyFromPublic lib.ssl pub m.sigCurve=some point := by
  obtain ⟨outer,sd,tbs,payload,houter,hsd,-,-,-,rfl⟩ := unwrap_some lib hm
  obtain ⟨-,-,hlen,-,r,s,-,-,hcheck⟩ := verify_spec lib hv
  have hpoint := Crypto.evpPkeyFromPublic_of_verify hcheck
  refine ⟨?_,hpoint⟩
  have htag : sd.signature.bind (·.curve?)=
      some ((Point.extractSig sd.signature).elim .nistP256 (·.curve)) := by
    cases hsig : Point.extractSig sd.signature with
    | none =>
      have hzero : 0=Curve.nistP256.scalarLen := by simpa [message,hsig] using hlen
      cases hzero
    | some rs => exact extractSig_curve hsig
  simp only [envelopeCurve?,houter,hsd,Option.bind_eq_bind,Option.bind_some]
  exact htag

section
variable (honly : ∀ curve,curve≠signer.curve →
  Crypto.evpPkeyFromPublic lib.ssl signer.publicKey.toVector curve=none)
include honly

/-- A key that is taken on no other curve leaves the envelope no other curve to name. -/
theorem tag_eq_of_verify
    (hm : unwrap lib coer=some m) (hv : verify lib m signer.publicKey.toVector cert=true) :
    envelopeCurve? lib coer=some signer.curve := by
  obtain ⟨htag,point,hpoint⟩ := tag_of_verify hm hv
  have hcurve : m.sigCurve=signer.curve := by
    by_contra hne
    rw [honly m.sigCurve hne] at hpoint
    cases hpoint
  rw [htag,hcurve]

theorem tag_eq_of_list {mem : Nat → HashedId8} {nowTai : Int} {isEctl : Bool}
    {topo : TrustTopology}
    (h : TrustList.decodeCtlCommon lib mem nowTai coer signer.publicKey.toVector
      signer.certBytes.toVector isEctl=.ok topo) (hflag : TrustList.verifiedFlag topo isEctl=true) :
    envelopeCurve? lib coer=some signer.curve := by
  obtain ⟨ctl,⟨msg,data,hmsg,-,-,hverify⟩,-⟩ := TrustList.decodeCtlCommon_verified lib h hflag
  exact tag_eq_of_verify honly hmsg hverify

theorem envelopesBound_of_only : EnvelopesBound lib signer where
  ectl := by
    intro mem nowTai coer topo h hflag
    exact tag_eq_of_list honly h hflag
  rcaCtl := by
    intro mem nowTai coer topo h hflag
    exact tag_eq_of_list honly h hflag
  crl := by
    intro coer crl h
    obtain ⟨-,msg,data,list,hmsg,hverify,-⟩ := decodeCrl_ok h
    exact tag_eq_of_verify honly hmsg hverify
  response := by
    intro resp priv aes tag inner h
    obtain ⟨msg,hauth,-⟩ := (Enc.decryptAndUnwrap_ok lib).mp h
    obtain ⟨plain,hplain,hmsg,hverify⟩ := Enc.authenticated_some lib hauth
    rw [hplain]
    exact tag_eq_of_verify honly hmsg hverify

end

/-- No certificate is accepted from an issuer whose key is not taken on its own curve. -/
theorem certsBound_of_refused {issuer : CertInfo}
    (h : Crypto.evpPkeyFromPublic lib.ssl issuer.publicKey.toVector issuer.curve=none) :
    CertsBound lib issuer := by
  intro uninit cert coer hverify
  obtain ⟨-,-,-,hcheck⟩ := TrustChain.verifyCertSignature_iff.mp hverify
  obtain ⟨point,hpoint⟩ := Crypto.evpPkeyFromPublic_of_verify hcheck
  rw [h] at hpoint
  cases hpoint

end Accepted

/-- A signed part whose signer is `self`, under the alternative of a curve. -/
def selfSignedPart (tbs : Asn.ToBeSignedData) (curve : Curve) (r s : Bytes) : Asn.SignedData :=
  ⟨if curve.isP256Size then .sha256 else .sha384,some tbs,some .self,some (.tagged curve r s)⟩

def selfSignedData (tbs : Asn.ToBeSignedData) (curve : Curve) (r s : Bytes) :
    Asn.Ieee1609Dot2Data :=
  ⟨kIeee1609Dot2Version,some (.signedData (some (selfSignedPart tbs curve r s)))⟩

/-- A response under the key of the request. -/
def pskData (nonce sealed : Bytes) : Asn.Ieee1609Dot2Data :=
  ⟨kIeee1609Dot2Version,some (.encryptedData (some
    ⟨some [some (.pskRecipInfo (List.replicate 8 0))],some (.aes128ccm (some ⟨nonce,sealed⟩))⟩))⟩

/-- What a sender needs of the library: some payload can be signed under every alternative and
sealed, and some certificate body is written. -/
structure SenderFits : Prop where
  response : ∃ payload micros,payload≠[] ∧
    Coer.encode lib.asn.toBeSignedData (Sign.makeUnsecuredTbs payload micros)≠[] ∧
    ∀ curve r s,r.length=curve.scalarLen → s.length=curve.scalarLen →
      Coer.Carries lib.asn.ieee1609Dot2Data
        (selfSignedData (Sign.makeUnsecuredTbs payload micros) curve r s) ∧
      ∃ key nonce box,Crypto.aes128CcmEncrypt lib.ssl key nonce
          (Coer.encode lib.asn.ieee1609Dot2Data
            (selfSignedData (Sign.makeUnsecuredTbs payload micros) curve r s))=some box ∧
        Coer.Carries lib.asn.ieee1609Dot2Data (pskData nonce (box.ciphertext++box.tag))
  body : ∃ tbs,Coer.encode lib.asn.toBeSignedCertificate tbs≠[] ∧
    (Coer.encode lib.asn.toBeSignedCertificate tbs).length≤kMaxCoerMessageLen

section Forged
variable {lib} {laws : CryptoLaws lib.ssl}

theorem plaintext_psk (laws : CryptoLaws lib.ssl) {resp key nonce plain : Bytes}
    {box : Crypto.AesCcmResult}
    (hread : Coer.decode lib.asn.ieee1609Dot2Data resp=
      some (pskData nonce (box.ciphertext++box.tag)))
    (hseal : Crypto.aes128CcmEncrypt lib.ssl key nonce plain=some box) :
    Enc.plaintext? lib resp [] key=some plain := by
  obtain ⟨htag,hopen⟩ := Crypto.aes128CcmEncrypt_opens laws hseal
  have hkey : key.isEmpty=false := by
    cases key with
    | nil => cases hseal
    | cons b key => rfl
  have hlen : (box.ciphertext++box.tag).length=box.ciphertext.length+kAesCcmTagLen := by
    rw [List.length_append,htag]
  have hsplit : (box.ciphertext++box.tag).length-kAesCcmTagLen=box.ciphertext.length := by omega
  have hlong : ¬(box.ciphertext++box.tag).length<kAesCcmTagLen := by omega
  simp only [Enc.plaintext?,hread,Option.bind_eq_bind,Option.bind_some]
  show (if (box.ciphertext++box.tag).length<kAesCcmTagLen then none else _)=some plain
  rw [if_neg hlong]
  show Enc.openForRecipient lib (some (.pskRecipInfo (List.replicate 8 0))) [] key nonce
    ((box.ciphertext++box.tag).take ((box.ciphertext++box.tag).length-kAesCcmTagLen))
    ((box.ciphertext++box.tag).drop ((box.ciphertext++box.tag).length-kAesCcmTagLen))=some plain
  rw [hsplit,List.take_left,List.drop_left]
  simp only [Enc.openForRecipient,hkey]
  exact hopen

/-- A response under an alternative on whose curve the signer's key is taken is accepted. -/
theorem forged_response (hkeys : Crypto.KeysHaveScalars laws) (fits : SenderFits lib)
    {signer : CertInfo} {curve : Curve} {point : Bytes}
    (h : Crypto.evpPkeyFromPublic lib.ssl signer.publicKey.toVector curve=some point) :
    ∃ resp key inner,Enc.decryptAndUnwrap lib resp [] key 0 signer=.ok inner ∧
      (Enc.plaintext? lib resp [] key).bind (envelopeCurve? lib)=some curve := by
  obtain ⟨payload,micros,hpayload,hbody,hwire⟩ := fits.response
  have hdigest : (Sign.signedDigest lib (Sign.makeUnsecuredTbs payload micros)
      signer.certBytes.toVector curve).length=curve.hashLen := Sign.signedDataHash_length _ _ curve
  obtain ⟨sig,hsized,hverify⟩ := Crypto.signs_of_taken hkeys h hdigest
  obtain ⟨hsigned,key,nonce,box,hseal,hbox⟩ := hwire curve _ _ hsized.r hsized.s
  have hplain := plaintext_psk laws hbox.decode_encode.2 hseal
  have hdecoded := Coer.decodeWithBasicFallback_of_decode hsigned.decode_encode.2
  have hmsg := unwrap_of_parts lib hdecoded rfl rfl rfl hpayload
  have hunnamed : signerDigest? (selfSignedPart (Sign.makeUnsecuredTbs payload micros) curve
      sig.r.toVector sig.s.toVector)=none := rfl
  have haccept := Sign.verify_of_parts hsized (extractSig_tagged hsized.r hsized.s)
    (fun hid8 hnamed => absurd (hunnamed.symm.trans hnamed) (by simp)) hbody
    (Crypto.evpPkeyFromPublic_ne_nil h) hverify payload
  have hauth : Enc.authenticated? lib (Coer.encode lib.asn.ieee1609Dot2Data
      (pskData nonce (box.ciphertext++box.tag))) [] key signer=some (message lib
        (selfSignedPart (Sign.makeUnsecuredTbs payload micros) curve sig.r.toVector
          sig.s.toVector) (Sign.makeUnsecuredTbs payload micros) payload) := by
    simp only [Enc.authenticated?,hplain,Option.bind_eq_bind,Option.bind_some,hmsg]
    exact if_pos haccept
  refine ⟨_,key,_,(Enc.decryptAndUnwrap_ok lib).mpr ⟨_,hauth,rfl⟩,?_⟩
  rw [hplain]
  simp only [Option.bind_some,envelopeCurve?,hdecoded,Option.bind_eq_bind]
  exact curve_tagged curve _ _

/-- The hash an issuer on the curve signs with. -/
def selfIssuer (curve : Curve) : Asn.IssuerIdentifier :=
  .self (if curve.isP256Size then .sha256 else .sha384)

theorem selfIssuer_hash (uninit : HashedId8) (curve : Curve) (data : Bytes) :
    (TrustChain.hashOf lib.ssl (Cert.parseIssuer uninit (some (selfIssuer curve))).issuerHash
      data).length=curve.hashLen := by
  cases curve <;> exact Vector.length_toList

/-- A certificate under the alternative of the other curve of that size is accepted from an
issuer whose key is taken on its own curve. -/
theorem forged_cert (hkeys : Crypto.KeysHaveScalars laws) (fits : SenderFits lib)
    {issuer : CertInfo} {point : Bytes}
    (h : Crypto.evpPkeyFromPublic lib.ssl issuer.publicKey.toVector issuer.curve=some point) :
    ∃ cert,TrustChain.verifyCertSignature lib (Cert.fromStruct lib .zero cert []) issuer=true ∧
      cert.signature.bind (·.curve?)=some issuer.curve.sibling := by
  obtain ⟨tbs,hne,hle⟩ := fits.body
  let hash := TrustChain.hashOf lib.ssl
    (Cert.parseIssuer .zero (some (selfIssuer issuer.curve))).issuerHash
  have hdigest : (hash (hash (Coer.encode lib.asn.toBeSignedCertificate tbs)++hash [])).length=
      issuer.curve.hashLen := selfIssuer_hash _ _ _
  obtain ⟨sig,hsized,hverify⟩ := Crypto.signs_of_taken hkeys h hdigest
  have hr := hsized.r.trans issuer.curve.sibling_scalarLen.symm
  have hs := hsized.s.trans issuer.curve.sibling_scalarLen.symm
  let cert : Asn.CertificateBase := ⟨3,.explicit,some (selfIssuer issuer.curve),some tbs,
    some (.tagged issuer.curve.sibling sig.r.toVector sig.s.toVector)⟩
  refine ⟨cert,?_,curve_tagged _ _ _⟩
  have htbs : (Cert.fromStruct lib .zero cert []).tbsBytes.toVector=
      Coer.encode lib.asn.toBeSignedCertificate tbs :=
    (StaticBytes.orEmpty_toVector _).trans (if_pos hle)
  have hsig : Cert.parseSignature cert=(sig.r.toVector,sig.s.toVector) := by
    unfold Cert.parseSignature
    rw [extractSig_tagged hr hs]
  have hself : (Cert.fromStruct lib .zero cert []).isSelfSigned=true := by
    show (Cert.parseIssuer .zero (some (selfIssuer issuer.curve))).isSelfSigned=true
    cases issuer.curve <;> rfl
  have hsigR : (Cert.fromStruct lib .zero cert []).signatureR=sig.r := by
    show StaticBytes.orEmpty (Cert.parseSignature cert).1=sig.r
    rw [hsig]
    exact StaticBytes.orEmpty_toVector_self _
  have hsigS : (Cert.fromStruct lib .zero cert []).signatureS=sig.s := by
    show StaticBytes.orEmpty (Cert.parseSignature cert).2=sig.s
    rw [hsig]
    exact StaticBytes.orEmpty_toVector_self _
  have hcertDigest : TrustChain.certDigest lib (Cert.fromStruct lib .zero cert []) issuer=
      hash (hash (Coer.encode lib.asn.toBeSignedCertificate tbs)++hash []) := by
    unfold TrustChain.certDigest
    simp only [htbs,hself,if_true]
    rfl
  rw [TrustChain.verifyCertSignature_iff,htbs,hsigR,hsigS,hcertDigest]
  exact ⟨hne,hsized.r,hsized.s,hverify⟩

/-- An envelope is tied to the curve of the signer's key exactly as far as the octets of that
key are taken on no other curve; a certificate is tied to nothing but an issuer it cannot have. -/
theorem signature_alternative_iff (lib : Lib) (laws : CryptoLaws lib.ssl)
    (hkeys : Crypto.KeysHaveScalars laws) (fits : SenderFits lib) :
    (∀ signer,EnvelopesBound lib signer ↔ ∀ curve,curve≠signer.curve →
      Crypto.evpPkeyFromPublic lib.ssl signer.publicKey.toVector curve=none) ∧
    ∀ issuer,CertsBound lib issuer ↔
      Crypto.evpPkeyFromPublic lib.ssl issuer.publicKey.toVector issuer.curve=none := by
  constructor
  · intro signer
    refine ⟨?_,envelopesBound_of_only⟩
    intro hbound curve hne
    cases hkey : Crypto.evpPkeyFromPublic lib.ssl signer.publicKey.toVector curve with
    | none => rfl
    | some point =>
      obtain ⟨resp,key,inner,hok,htag⟩ := forged_response hkeys fits hkey
      have hcurve := (hbound.response resp [] key 0 inner hok).symm.trans htag
      exact absurd (Option.some.inj hcurve).symm hne
  · intro issuer
    refine ⟨?_,certsBound_of_refused⟩
    intro hbound
    cases hkey : Crypto.evpPkeyFromPublic lib.ssl issuer.publicKey.toVector issuer.curve with
    | none => rfl
    | some point =>
      obtain ⟨cert,hok,htag⟩ := forged_cert hkeys fits hkey
      have hcurve := (hbound .zero cert [] hok).symm.trans htag
      exact absurd (Option.some.inj hcurve).symm issuer.curve.sibling_ne

end Forged

namespace Sample

open Framework SignedMsg

/-- Only the multiples of the base point are keys. -/
def groupSsl : OpenSsl := {curvedSsl with
  publicOk := fun curve p => decide (p=pointOn curve (xOf curve p) ∧ 0<xOf curve p ∧
    xOf curve p<orderOn curve)}

def groupLaws : CryptoLaws groupSsl :=
  {curvedLaws with
    exported := by
      intro c d p hpos hd h
      obtain rfl : pointOn c d=p := Option.some.inj h
      have hx := xOf_key hd
      obtain ⟨hlen,hhead,-⟩ := curvedLaws.exported c d _ hpos hd rfl
      refine ⟨hlen,hhead,?_⟩
      show decide _=true
      rw [hx]
      simpa using ⟨hpos,hd⟩}

theorem groupKeysHaveScalars : Crypto.KeysHaveScalars groupLaws := by
  intro curve pub point h
  have hok : groupSsl.publicOk curve point=true := by
    simp only [Crypto.evpPkeyFromPublic] at h
    split at h
    · exact (Option.filter_eq_some_iff.mp h).2
    split at h
    · exact (Option.filter_eq_some_iff.mp h).2
    · cases h
  obtain ⟨hpoint,hpos,hlt⟩ := of_decide_eq_true hok
  exact ⟨xOf curve point,hpos,hlt,congrArg some hpoint.symm⟩

def curves : List Curve := [.nistP256,.brainpoolP256r1,.brainpoolP384r1,.nistP384]

/-- What stands before the two integers of a signature: the alternative, its length where it
is an extension, and the form of the first. -/
def signatureHead : Curve → Bytes
  | .nistP256 => [0x80,0x80]
  | .brainpoolP256r1 => [0x81,0x80]
  | .brainpoolP384r1 => [0x82,97,0x80]
  | .nistP384 => [0x83,97,0x80]

def signatureCoer (curve : Curve) (r s : Bytes) : Bytes := signatureHead curve++(r++s)

def readSignature (bs : Bytes) : Option (Curve × Bytes × Bytes) := do
  let curve ← curves.find? fun c => (signatureHead c).isPrefixOf bs
  let rs := bs.drop (signatureHead curve).length
  some (curve,rs.take curve.scalarLen,(rs.drop curve.scalarLen).take curve.scalarLen)

theorem readSignature_signatureCoer {curve : Curve} {r s : Bytes} (hr : r.length=curve.scalarLen)
    (hs : s.length=curve.scalarLen) :
    readSignature (signatureCoer curve r s)=some (curve,r,s) := by
  have hfind : curves.find? (fun c => (signatureHead c).isPrefixOf (signatureCoer curve r s))=
      some curve := by
    cases curve <;> rfl
  simp only [readSignature,hfind,Option.bind_eq_bind,Option.bind_some]
  rw [signatureCoer,List.drop_left,← hr,List.take_left,List.drop_left,hr,← hs,List.take_length]

def hashOctet (curve : Curve) : UInt8 := if curve.isP256Size then 0 else 1

/-- The envelope of `noteBody` signed by `self`. -/
def noteCoer (curve : Curve) (r s : Bytes) : Bytes :=
  3::0x81::hashOctet curve::(noteBody.1++0x82::signatureCoer curve r s)

def noteSigned (curve : Curve) (r s : Bytes) : Asn.Ieee1609Dot2Data :=
  selfSignedData noteBody.2 curve r s

def readLength : Bytes → Option (Nat × Bytes)
  | [] => none
  | b::rest =>
    if b.toNat<128 then some (b.toNat,rest)
    else if b=0x81 then match rest with
      | c::rest => some (c.toNat,rest)
      | [] => none
    else match rest with
      | c::d::rest => some (c.toNat*256+d.toNat,rest)
      | _ => none

theorem readLength_coerLength {n : Nat} (h : n<65536) (rest : Bytes) :
    readLength (coerLength n++rest)=some (n,rest) := by
  have hlow : n<256 → (UInt8.ofNat n).toNat=n := by
    intro hn
    rw [UInt8.toNat_ofNat',Nat.mod_eq_of_lt hn]
  unfold coerLength
  split
  · rename_i hshort
    have hn := hlow (by omega)
    simp only [List.singleton_append,readLength,hn,if_pos hshort]
  split
  · rename_i hbyte
    have hn := hlow hbyte
    simp [readLength,hn]
  · simp [readLength]
    omega

def pskHead : Bytes := [3,0x82,1,1,0x80]++List.replicate 8 0++[0x80]

def pskCoer (nonce sealed : Bytes) : Bytes :=
  pskHead++(nonce++(coerLength sealed.length++sealed))

def readPsk (bs : Bytes) : Option (Bytes × Bytes) := do
  let rest := bs.drop pskHead.length
  let (n,sealed) ← readLength (rest.drop kAesCcmNonceLen)
  if pskHead.isPrefixOf bs then some (rest.take kAesCcmNonceLen,sealed.take n) else none

theorem readPsk_pskCoer {nonce sealed : Bytes} (hnonce : nonce.length=kAesCcmNonceLen)
    (hsealed : sealed.length<65536) : readPsk (pskCoer nonce sealed)=some (nonce,sealed) := by
  have hdrop : (pskCoer nonce sealed).drop pskHead.length=
      nonce++(coerLength sealed.length++sealed) := List.drop_left
  have hhead : pskHead.isPrefixOf (pskCoer nonce sealed)=true := by
    rw [List.isPrefixOf_iff_prefix]
    exact List.prefix_append _ _
  simp only [readPsk,hdrop,hhead,if_true]
  rw [← hnonce,List.drop_left,readLength_coerLength hsealed]
  simp

/-- Envelopes of two shapes: a signed note and a response under the key of the request. -/
def noteWire : Descriptor Asn.Ieee1609Dot2Data where
  encode v :=
    match v.content with
    | some (.signedData (some ⟨_,_,_,sig⟩)) => do
      let rs ← Point.extractSig sig
      if v=noteSigned rs.curve rs.r rs.s then some (noteCoer rs.curve rs.r rs.s) else none
    | some (.encryptedData (some ⟨_,some (.aes128ccm (some ⟨nonce,sealed⟩))⟩)) =>
      if v=pskData nonce sealed then some (pskCoer nonce sealed) else none
    | _ => none
  decode
    | 3::0x81::_::rest => do
      let (curve,r,s) ← readSignature (rest.drop (noteBody.1.length+1))
      some (noteSigned curve r s,(noteCoer curve r s).length)
    | bs => do
      let (nonce,sealed) ← readPsk bs
      some (pskData nonce sealed,(pskCoer nonce sealed).length)
  decodeBasic _ := none

theorem noteWire_encode {curve : Curve} {r s : Bytes} (hr : r.length=curve.scalarLen)
    (hs : s.length=curve.scalarLen) :
    noteWire.encode (noteSigned curve r s)=some (noteCoer curve r s) := by
  show (Point.extractSig (some (.tagged curve r s))).bind _=_
  rw [extractSig_tagged hr hs]
  exact if_pos rfl

theorem noteWire_carries_signed {curve : Curve} {r s : Bytes} (hr : r.length=curve.scalarLen)
    (hs : s.length=curve.scalarLen) : Coer.Carries noteWire (noteSigned curve r s) := by
  refine ⟨noteCoer curve r s,(noteCoer curve r s).length,List.cons_ne_nil _ _,
    noteWire_encode hr hs,?_⟩
  have hdrop : (noteBody.1++0x82::signatureCoer curve r s).drop (noteBody.1.length+1)=
      signatureCoer curve r s := by
    rw [List.drop_append]
    simp
  show (readSignature ((noteBody.1++0x82::signatureCoer curve r s).drop
    (noteBody.1.length+1))).bind _=_
  rw [hdrop,readSignature_signatureCoer hr hs]
  rfl

theorem noteWire_carries_psk {nonce sealed : Bytes} (hnonce : nonce.length=kAesCcmNonceLen)
    (hsealed : sealed.length<65536) : Coer.Carries noteWire (pskData nonce sealed) := by
  refine ⟨pskCoer nonce sealed,(pskCoer nonce sealed).length,List.cons_ne_nil _ _,if_pos rfl,?_⟩
  show (readPsk (pskCoer nonce sealed)).bind _=_
  rw [readPsk_pskCoer hnonce hsealed]
  rfl

/-- The certificate body of scalar 5 with its NIST signature under the Brainpool alternative. -/
def brainpoolTagged : Coded Asn.CertificateBase :=
  cert ([0x81,0],.self .sha256) (tbs 5 [])
    (0x81::(signature 5 (tbs 5 []).1 []).1.tail,
      .ecdsaBrainpoolP256r1Signature (some ⟨some (.xOnly (binpad 32 5)),
        (signature 5 (tbs 5 []).1 []).1.drop 34⟩))

/-- A library that writes and reads such envelopes; the keys are those of a group. -/
def noteGroupLib : Lib :=
  let base := enrolLib {certs := [selfSigned 5 [],brainpoolTagged],bodies := [tbs 5 []]}
  {asn := {base.asn with ieee1609Dot2Data := noteWire},ssl := groupSsl}

theorem noteCoer_length {curve : Curve} {r s : Bytes} (hr : r.length=curve.scalarLen)
    (hs : s.length=curve.scalarLen) : (noteCoer curve r s).length<65000 := by
  have hbody : noteBody.1.length<100 := by decide +kernel
  have hhead : (signatureHead curve).length≤3 := by
    cases curve <;> decide
  have hscalar : curve.scalarLen≤48 := curve.scalarLen_le
  simp only [noteCoer,signatureCoer,List.length_cons,List.length_append,hr,hs]
  omega

theorem noteGroup_senderFits : SenderFits noteGroupLib where
  response := by
    refine ⟨[0x20,0x01],noteEntropy.unixMicros,by decide,by decide +kernel,?_⟩
    intro curve r s hr hs
    have hsigned := noteWire_carries_signed hr hs
    have hcoer : Coer.encode noteGroupLib.asn.ieee1609Dot2Data (noteSigned curve r s)=
        noteCoer curve r s := by
      show (noteWire.encode (noteSigned curve r s)).getD []=_
      rw [noteWire_encode hr hs,Option.getD_some]
    refine ⟨hsigned,List.replicate 16 7,List.replicate 12 1,
      ⟨noteCoer curve r s,List.replicate 16 0x5a⟩,?_,?_⟩
    · show Crypto.aes128CcmEncrypt groupSsl _ _ (Coer.encode _ (noteSigned curve r s))=_
      rw [hcoer]
      rfl
    · apply noteWire_carries_psk
      · rfl
      · have hlen := noteCoer_length hr hs
        show (noteCoer curve r s++List.replicate 16 0x5a).length<65536
        rw [List.length_append,List.length_replicate]
        omega
  body := ⟨(tbs 5 []).2,by decide +kernel,by decide +kernel⟩
/-- The note under the Brainpool alternative, signed by the holder of scalar 5 there over the
certificate of `signer`. -/
def brainpoolNote (signer : CertInfo) : Bytes :=
  noteCoer .brainpoolP256r1 (binpad 32 5) (binpad 32 ((natOfBytes (Sign.signedDigest noteGroupLib
    noteBody.2 signer.certBytes.toVector .brainpoolP256r1)+2)%orderOn .brainpoolP256r1))

def brainpoolResponse (signer : CertInfo) : Bytes :=
  pskCoer (List.replicate 12 1) (brainpoolNote signer++List.replicate 16 0x5a)

/-- A certificate with a compressed NIST P-256 key. -/
def compressedSigner : CertInfo := Cert.fromCoer noteGroupLib .zero (selfSigned 5 []).1

/-- The same certificate with the key uncompressed. -/
def uncompressedSigner : CertInfo :=
  Cert.fromStruct noteGroupLib .zero {(selfSigned 5 []).2 with
    toBeSigned := some {(tbs 5 []).2 with
      verifyKeyIndicator := some (.verificationKey (some (.ecdsaNistP256
        (some (.uncompressed (binpad 32 5) (binpad 32 5))))))}} (selfSigned 5 []).1

theorem uncompressed_signer_bound :
    EnvelopesBound noteGroupLib uncompressedSigner ∧
      ¬CertsBound noteGroupLib uncompressedSigner := by
  obtain ⟨henvelopes,hcerts⟩ :=
    signature_alternative_iff noteGroupLib groupLaws groupKeysHaveScalars noteGroup_senderFits
  rw [hcerts]
  refine ⟨(henvelopes uncompressedSigner).mpr ?_,by decide +kernel⟩
  intro curve hne
  cases curve with
  | nistP256 => exact absurd (by decide +kernel) hne
  | _ => decide +kernel

theorem other_alternative_accepted :
    compressedSigner.curve=.nistP256 ∧
    Enc.decryptAndUnwrap noteGroupLib (brainpoolResponse compressedSigner) []
      (List.replicate 16 7) 0 compressedSigner=.ok [0x20,0x01] ∧
    (Enc.plaintext? noteGroupLib (brainpoolResponse compressedSigner) []
      (List.replicate 16 7)).bind (envelopeCurve? noteGroupLib)=some .brainpoolP256r1 ∧
    TrustChain.verifyCertSignature noteGroupLib
      (Cert.fromCoer noteGroupLib .zero brainpoolTagged.1) compressedSigner=true ∧
    brainpoolTagged.2.signature.bind (·.curve?)=some .brainpoolP256r1 ∧
    ¬EnvelopesBound noteGroupLib compressedSigner ∧ ¬CertsBound noteGroupLib compressedSigner := by
  have hcurve : compressedSigner.curve=.nistP256 := by decide +kernel
  have hmsg : (Enc.authenticated? noteGroupLib (brainpoolResponse compressedSigner) []
      (List.replicate 16 7) compressedSigner).map (·.payloadCoer)=some [0x20,0x01] := by
    decide +kernel
  have htag : (Enc.plaintext? noteGroupLib (brainpoolResponse compressedSigner) []
      (List.replicate 16 7)).bind (envelopeCurve? noteGroupLib)=some .brainpoolP256r1 := by
    decide +kernel
  have hread : Cert.fromCoer noteGroupLib .zero brainpoolTagged.1=
      Cert.fromStruct noteGroupLib .zero brainpoolTagged.2 brainpoolTagged.1 := by decide +kernel
  have hcert : TrustChain.verifyCertSignature noteGroupLib
      (Cert.fromCoer noteGroupLib .zero brainpoolTagged.1) compressedSigner=true := by
    decide +kernel
  obtain ⟨m,hauth,hpayload⟩ := Option.map_eq_some_iff.mp hmsg
  have hok : Enc.decryptAndUnwrap noteGroupLib (brainpoolResponse compressedSigner) []
      (List.replicate 16 7) 0 compressedSigner=.ok [0x20,0x01] := by
    refine (Enc.decryptAndUnwrap_ok noteGroupLib).mpr ⟨m,hauth,?_⟩
    rw [hpayload]
    rfl
  refine ⟨hcurve,hok,htag,hcert,rfl,?_,?_⟩
  · intro hbound
    have hnist := hbound.response _ _ _ _ _ hok
    rw [htag,hcurve] at hnist
    cases hnist
  · intro hbound
    rw [hread] at hcert
    have hnist := hbound .zero brainpoolTagged.2 brainpoolTagged.1 hcert
    rw [hcurve] at hnist
    cases hnist

end Sample

end V2xPki
