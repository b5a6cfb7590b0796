import V2xPki.Request.AtRequestAgreement

namespace V2xPki

section
variable (lib : Lib)

/-- What is encrypted in the data, for whoever has its content key. -/
def contentUnder (key : Bytes) (data : Asn.Ieee1609Dot2Data) : Option Bytes := do
  let enc ← (← Enc.encryptedData? data)
  let ccm ← Enc.aes128ccm? enc.ciphertext
  let split := ccm.ccmCiphertext.length-kAesCcmTagLen
  Crypto.aes128CcmDecrypt lib.ssl key ccm.nonce (ccm.ccmCiphertext.take split)
    (ccm.ccmCiphertext.drop split)

/-- The signed message that the body of a request carries. -/
def messageIn (req : RequestResult) : Option SignedMsg.SignedMessage := do
  let data ← Coer.decode lib.asn.ieee1609Dot2Data req.encoded.toVector
  SignedMsg.unwrap lib (← contentUnder lib req.requestAesKey.toVector data)

/-- What stands behind the two-octet header of a payload. -/
def behindHeader (tag : UInt8) : Bytes → Option Bytes
  | v::t::rest => if v=0x01 ∧ t=tag then some rest else none
  | _ => none

/-- The inner request in an enrolment request, within both its signatures. -/
def ecInner? (req : RequestResult) : Option Asn.InnerEcRequest := do
  let m ← messageIn lib req
  let pop ← SignedMsg.unwrap lib (← behindHeader 0x80 m.payloadCoer)
  Coer.decode lib.asn.innerEcRequest pop.payloadCoer

def atInner? (req : RequestResult) : Option Asn.InnerAtRequest := do
  let m ← messageIn lib req
  Coer.decode lib.asn.innerAtRequest (← behindHeader 0x82 m.payloadCoer)

/-- The message to the EA in an inner request. -/
def encryptedEcSignature? (inner : Asn.InnerAtRequest) : Option Asn.Ieee1609Dot2Data :=
  match inner.ecSignature with
  | some (.encryptedEcSignature data) => data
  | _ => none

/-- The body is `plaintext` encrypted to the holder of the certificate. -/
def SealedFor (cert : CertInfo) (entropy : Crypto.EciesEntropy) (plaintext body : Bytes) : Prop :=
  ∃ ecies,encryptTo lib cert plaintext entropy=.ok ecies ∧
    lib.asn.ieee1609Dot2Data.encode (Enc.buildEncryptedData ecies cert cert.encCurve)=some body

/-- The body is an encoding of these octets, signed with their own key and encrypted to the AA. -/
def CarriesInner (aa : CertInfo) (entropy : AtEntropy) (innerBytes body : Bytes) : Prop :=
  ∃ outer micros curve sig,SealedFor lib aa entropy.eciesAa outer body ∧
    lib.asn.ieee1609Dot2Data.encode (Sign.envelope (Sign.makeUnsecuredTbs
      (0x01::0x82::innerBytes) micros) [] .zero curve sig)=some outer

/-- The inner request that the encoder puts into an authorization request. -/
structure InnerAtOf (desc : AtRequestDescription) (ea ec : CertInfo) (ecPriv : Bytes)
    (entropy : AtEntropy) (inner : Asn.InnerAtRequest) : Prop where
  hmacKey : inner.hmacKey=desc.hmacKey.toVector
  shared : ∃ coer shared,lib.asn.sharedAtRequest.encode (sharedAtRequest lib desc
      (Coer.encode lib.asn.publicVerificationKey
        (requestVerificationKey desc.curve desc.verificationKey.toVector)))=some coer ∧
    Coer.decode lib.asn.sharedAtRequest coer=some shared ∧ inner.sharedAtRequest=some shared
  ecSignature : ∃ digest signedExt ecies,
    signedExt=Sign.buildExternalPayload lib digest ec ecPriv desc.curve entropy.external ∧
    signedExt≠[] ∧ encryptTo lib ea signedExt entropy.eciesEa=.ok ecies ∧
    encryptedEcSignature? inner=some (Enc.buildEncryptedData ecies ea ea.encCurve)

end

section
variable {lib : Lib} {curve : Curve}

/-- A builder that returned octets signed, and returned the envelope around the signature. -/
theorem Sign.finalizeSignedData_signs {tbs : Asn.ToBeSignedData} {priv cert : Bytes}
    {hid8 : HashedId8} {nonce : Nat}
    (hne : Sign.finalizeSignedData lib tbs priv cert hid8 curve nonce≠[]) :
    ∃ sig,Crypto.ecdsaSignDigest lib.ssl priv (Sign.signedDigest lib tbs cert curve) curve nonce=
        some sig ∧
      Sign.finalizeSignedData lib tbs priv cert hid8 curve nonce=
        Coer.encode lib.asn.ieee1609Dot2Data (Sign.envelope tbs cert hid8 curve sig) := by
  have hbody := Sign.body_of_finalize hne
  cases hsign : Crypto.ecdsaSignDigest lib.ssl priv (Sign.signedDigest lib tbs cert curve) curve
      nonce with
  | none =>
    exfalso
    apply hne
    unfold Sign.signedDigest at hsign
    unfold Sign.finalizeSignedData
    dsimp only
    rw [hsign]
    exact ite_self []
  | some sig => exact ⟨sig,rfl,Sign.finalizeSignedData_of_sign hbody hsign hid8⟩

/-- Whatever key it was made with, a self-signed envelope is unwrapped to its payload. -/
theorem Sign.buildSelfSigned_unwraps (hcodec : lib.asn.ieee1609Dot2Data.RoundTrip)
    {payload priv : Bytes} (hp : payload≠[]) {entropy : Sign.EnvelopeEntropy}
    (hne : Sign.buildSelfSigned lib payload priv curve entropy≠[]) :
    ∃ m,SignedMsg.unwrap lib (Sign.buildSelfSigned lib payload priv curve entropy)=some m ∧
      m.payloadCoer=payload := by
  obtain ⟨sig,hsign,hfinal⟩ := Sign.finalizeSignedData_signs hne
  have hread := Sign.decode_of_finalize hcodec hne hsign
  rw [← hfinal] at hread
  exact ⟨_,Sign.unwrap_envelope hread hp,rfl⟩

theorem Crypto.eciesEncrypt_content (laws : CryptoLaws lib.ssl) {recipient plaintext p1 : Bytes}
    {entropy : Crypto.EciesEntropy} {r : Crypto.EciesEncryptResult}
    (h : Crypto.eciesEncrypt lib.ssl recipient plaintext p1 curve entropy=some r) :
    r.tagCcm.length=kAesCcmTagLen ∧
      Crypto.aes128CcmDecrypt lib.ssl r.aesKey r.nonceCcm r.ciphertext r.tagCcm=some plaintext := by
  simp only [Crypto.eciesEncrypt,Option.bind_eq_bind,Option.bind_eq_some_iff] at h
  obtain ⟨kp,-,ss,-,ccm,hccm,hr⟩ := h
  obtain rfl := Option.some.inj hr
  exact Crypto.aes128CcmEncrypt_opens laws hccm

theorem contentUnder_build (laws : CryptoLaws lib.ssl) {cert : CertInfo} {plaintext : Bytes}
    {entropy : Crypto.EciesEntropy} {ecies : Crypto.EciesEncryptResult}
    (h : encryptTo lib cert plaintext entropy=.ok ecies) :
    contentUnder lib ecies.aesKey (Enc.buildEncryptedData ecies cert cert.encCurve)=
      some plaintext := by
  obtain ⟨htag,hopen⟩ := Crypto.eciesEncrypt_content laws (encryptTo_encCurve h)
  have hsplit : (ecies.ciphertext++ecies.tagCcm).length-kAesCcmTagLen=ecies.ciphertext.length := by
    rw [List.length_append,htag]
    omega
  simp only [contentUnder,Enc.buildEncryptedData,Enc.encryptedData?,Enc.aes128ccm?,
    Option.bind_eq_bind,Option.bind_some,hsplit,List.take_left,List.drop_left]
  exact hopen

variable {cert : CertInfo} {plaintext : Bytes} {entropy : Crypto.EciesEntropy}
variable {ecies : Crypto.EciesEncryptResult} {req : RequestResult}

theorem encryptTo_aesKey (h : encryptTo lib cert plaintext entropy=.ok ecies) :
    ecies.aesKey=Crypto.randBytes entropy.aesKey := by
  have henc := encryptTo_encCurve h
  simp only [Crypto.eciesEncrypt,Option.bind_eq_bind,Option.bind_eq_some_iff] at henc
  obtain ⟨kp,-,ss,-,ccm,-,hr⟩ := henc
  obtain rfl := Option.some.inj hr
  rfl

theorem sealedFor_request (henc : encryptTo lib cert plaintext entropy=.ok ecies)
    (h : encodeEncrypted lib cert ecies=.ok req) :
    SealedFor lib cert entropy plaintext req.encoded.toVector :=
  ⟨ecies,henc,(encodeEncrypted_ok h).1⟩

theorem carriesInner_request {atPriv innerBytes : Bytes} {drawn : AtEntropy}
    (hne : Sign.buildSelfSigned lib (0x01::0x82::innerBytes) atPriv curve drawn.outer≠[])
    (henc : encryptTo lib cert (Sign.buildSelfSigned lib (0x01::0x82::innerBytes) atPriv curve
      drawn.outer) drawn.eciesAa=.ok ecies)
    (h : encodeEncrypted lib cert ecies=.ok req) :
    CarriesInner lib cert drawn innerBytes req.encoded.toVector := by
  obtain ⟨sig,-,hfinal⟩ := Sign.finalizeSignedData_signs hne
  refine ⟨_,drawn.outer.unixMicros,curve,sig,sealedFor_request henc h,?_⟩
  have hfinal : Sign.buildSelfSigned lib (0x01::0x82::innerBytes) atPriv curve drawn.outer=_ := hfinal
  rw [hfinal] at hne ⊢
  exact Coer.encode_ne_nil hne

theorem messageIn_request (laws : CryptoLaws lib.ssl)
    (hcodec : lib.asn.ieee1609Dot2Data.RoundTrip)
    (henc : encryptTo lib cert plaintext entropy=.ok ecies)
    (h : encodeEncrypted lib cert ecies=.ok req) :
    messageIn lib req=SignedMsg.unwrap lib plaintext := by
  obtain ⟨hencode,hkey⟩ := encodeEncrypted_ok h
  have hread := Coer.decode_encode hcodec hencode
  have hcontent := contentUnder_build laws henc
  rw [← hkey] at hcontent
  simp only [messageIn,hread,hcontent,Option.bind_eq_bind,Option.bind_some]

/-- What was asked for is what the request carries. -/
theorem ecInner_request (laws : CryptoLaws lib.ssl)
    (hcodec : lib.asn.ieee1609Dot2Data.RoundTrip) (hinner : lib.asn.innerEcRequest.RoundTrip)
    {desc : EcRequestDescription} {ea : CertInfo} {priv : Bytes} {entropy : EcEntropy}
    (h : encodeEcRequest lib desc ea priv entropy=.ok req) :
    ecInner? lib req=some (innerEcRequest desc) := by
  obtain ⟨innerBytes,pop,outer,ecies,hencode,hne,rfl,hpop,rfl,houter,hecies,hreq⟩ :=
    encodeEcRequest_ok h
  obtain ⟨m,hm,hpayload⟩ := Sign.buildSelfSigned_unwraps hcodec (List.cons_ne_nil _ _) houter
  obtain ⟨m',hm',hpayload'⟩ := Sign.buildSelfSigned_unwraps hcodec hne hpop
  have hmessage := messageIn_request laws hcodec hecies hreq
  have hread := Coer.decode_encode hinner hencode
  rw [hm] at hmessage
  simp [ecInner?,hmessage,hpayload,behindHeader,hm',hpayload',hread]

theorem atInner_request (laws : CryptoLaws lib.ssl)
    (hcodec : lib.asn.ieee1609Dot2Data.RoundTrip) (hinner : lib.asn.innerAtRequest.RoundTrip)
    {desc : AtRequestDescription} {aa ea ec : CertInfo} {ecPriv atPriv : Bytes}
    {entropy : AtEntropy} (h : encodeAtRequest lib desc aa ea ec ecPriv atPriv entropy=.ok req) :
    ∃ inner,atInner? lib req=some inner ∧ InnerAtOf lib desc ea ec ecPriv entropy inner := by
  obtain ⟨innerBytes,outer,ecies,hbytes,rfl,houter,hecies,hreq⟩ := encodeAtRequest_ok h
  obtain ⟨pvk,sharedCoer,e,shared,rfl,hshared,he,hcopy,hencode⟩ := innerAtRequestBytes_ok hbytes
  obtain ⟨signedExt,eciesEa,hext,hsigned,heciesEa,rfl⟩ := encryptedEcSignature_ok he
  obtain ⟨m,hm,hpayload⟩ := Sign.buildSelfSigned_unwraps hcodec (List.cons_ne_nil _ _) houter
  have hmessage := messageIn_request laws hcodec hecies hreq
  rw [hm] at hmessage
  have hbody : atInner? lib req=Coer.decode lib.asn.innerAtRequest innerBytes := by
    simp [atInner?,hmessage,hpayload,behindHeader]
  exact ⟨_,hbody.trans (Coer.decode_encode hinner hencode),rfl,⟨sharedCoer,shared,hshared,hcopy,rfl⟩,
    ⟨_,signedExt,eciesEa,hext,hsigned,heciesEa,rfl⟩⟩

end

section
variable (lib : Lib)

/-- The codec has an encoding for the value, and not the empty one. -/
def Writes {α : Type} (td : Descriptor α) (v : α) (b : Bytes) : Prop := td.encode v=some b ∧ b≠[]

/-- OpenSSL signs the body with the scalar on `curve`, and the envelope has an encoding. -/
def SignsEnvelope (tbs : Asn.ToBeSignedData) (priv cert : Bytes) (hid8 : HashedId8)
    (curve : Curve) (nonce : Nat) (coer : Bytes) : Prop :=
  ∃ body sig,Writes lib.asn.toBeSignedData tbs body ∧
    Crypto.ecdsaSignDigest lib.ssl priv (SignedMsg.signedDataHash lib body cert curve) curve nonce=
      some sig ∧
    Writes lib.asn.ieee1609Dot2Data (Sign.envelope tbs cert hid8 curve sig) coer

/-- A self-signed envelope around `payload`. -/
def SignsSelf (payload priv : Bytes) (curve : Curve) (entropy : Sign.EnvelopeEntropy)
    (coer : Bytes) : Prop :=
  SignsEnvelope lib (Sign.makeUnsecuredTbs payload entropy.unixMicros) priv [] .zero curve
    entropy.nonce coer

/-- An envelope around a hash, in the name of the EC. -/
def SignsExternal (digest : Bytes) (ec : CertInfo) (priv : Bytes) (curve : Curve)
    (entropy : Sign.EnvelopeEntropy) (coer : Bytes) : Prop :=
  SignsEnvelope lib ⟨some ⟨none,some (externalHash curve digest)⟩,
    some (Sign.headerInfo entropy.unixMicros)⟩ priv ec.certBytes.toVector ec.hashedId8 curve
    entropy.nonce coer

/-- ECIES goes through with the key of the certificate on its `enc_curve`. -/
def Seals (cert : CertInfo) (plaintext : Bytes) (entropy : Crypto.EciesEntropy)
    (ecies : Crypto.EciesEncryptResult) : Prop :=
  33≤cert.recipientKey.length ∧ Crypto.eciesEncrypt lib.ssl cert.recipientKey plaintext
    (Crypto.hashSha256 lib.ssl cert.certBytes.toVector) cert.encCurve entropy=some ecies

/-- The encrypted message has an encoding that fits the buffer of a request. -/
def Fits (cert : CertInfo) (ecies : Crypto.EciesEncryptResult) : Prop :=
  ∃ body,Writes lib.asn.ieee1609Dot2Data (Enc.buildEncryptedData ecies cert cert.encCurve) body ∧
    body.length≤kMaxCoerMessageLen

/-- Codec and OpenSSL go along with every layer of an enrolment request. -/
def EcMakeable (desc : EcRequestDescription) (ea : CertInfo) (priv : Bytes)
    (entropy : EcEntropy) : Prop :=
  ∃ innerBytes pop outer ecies,
    Writes lib.asn.innerEcRequest (innerEcRequest desc) innerBytes ∧
    SignsSelf lib innerBytes priv desc.curve entropy.pop pop ∧
    SignsSelf lib (0x01::0x80::pop) priv desc.curve entropy.outer outer ∧
    Seals lib ea outer entropy.ecies ecies ∧ Fits lib ea ecies

/-- And with every part of the inner authorization request. The scalar of the EC signs on the
curve of the description. -/
def InnerMakeable (desc : AtRequestDescription) (ea ec : CertInfo) (ecPriv : Bytes)
    (entropy : AtEntropy) (innerBytes : Bytes) : Prop :=
  ∃ pvkOer sharedCoer shared signedExt eciesEa,
    Writes lib.asn.publicVerificationKey
      (requestVerificationKey desc.curve desc.verificationKey.toVector) pvkOer ∧
    Writes lib.asn.sharedAtRequest (sharedAtRequest lib desc pvkOer) sharedCoer ∧
    SignsExternal lib (Crypto.hashForCurve lib.ssl sharedCoer desc.curve) ec ecPriv desc.curve
      entropy.external signedExt ∧
    Seals lib ea signedExt entropy.eciesEa eciesEa ∧
    Coer.decode lib.asn.sharedAtRequest sharedCoer=some shared ∧
    Writes lib.asn.innerAtRequest ⟨some ⟨some (requestVerificationKey desc.curve
        desc.verificationKey.toVector),none⟩,desc.hmacKey.toVector,some shared,
      some (.encryptedEcSignature (some (Enc.buildEncryptedData eciesEa ea ea.encCurve)))⟩
      innerBytes

def AtMakeable (desc : AtRequestDescription) (aa ea ec : CertInfo) (ecPriv atPriv : Bytes)
    (entropy : AtEntropy) : Prop :=
  ∃ innerBytes outer ecies,InnerMakeable lib desc ea ec ecPriv entropy innerBytes ∧
    SignsSelf lib (0x01::0x82::innerBytes) atPriv desc.curve entropy.outer outer ∧
    Seals lib aa outer entropy.eciesAa ecies ∧ Fits lib aa ecies

end

section
variable {lib : Lib}

theorem writes_iff {α : Type} {td : Descriptor α} {v : α} {b : Bytes} :
    Writes td v b ↔ Coer.encode td v=b ∧ b≠[] := by
  constructor
  · rintro ⟨hencode,hne⟩
    exact ⟨by rw [Coer.encode,hencode,Option.getD_some],hne⟩
  · rintro ⟨rfl,hne⟩
    exact ⟨Coer.encode_ne_nil hne,hne⟩

theorem signsEnvelope_iff {tbs : Asn.ToBeSignedData} {priv cert : Bytes} {hid8 : HashedId8}
    {curve : Curve} {nonce : Nat} {coer : Bytes} :
    SignsEnvelope lib tbs priv cert hid8 curve nonce coer ↔
      Sign.finalizeSignedData lib tbs priv cert hid8 curve nonce=coer ∧ coer≠[] := by
  constructor
  · rintro ⟨body,sig,hbody,hsign,hcoer⟩
    obtain ⟨rfl,hbodyNe⟩ := writes_iff.mp hbody
    obtain ⟨hencode,hne⟩ := writes_iff.mp hcoer
    exact ⟨(Sign.finalizeSignedData_of_sign hbodyNe hsign hid8).trans hencode,hne⟩
  · rintro ⟨rfl,hne⟩
    obtain ⟨sig,hsign,hfinal⟩ := Sign.finalizeSignedData_signs hne
    exact ⟨_,sig,writes_iff.mpr ⟨rfl,Sign.body_of_finalize hne⟩,hsign,
      writes_iff.mpr ⟨hfinal.symm,hne⟩⟩

theorem signsSelf_iff {payload priv coer : Bytes} {curve : Curve} {entropy : Sign.EnvelopeEntropy} :
    SignsSelf lib payload priv curve entropy coer ↔
      Sign.buildSelfSigned lib payload priv curve entropy=coer ∧ coer≠[] :=
  signsEnvelope_iff

theorem signsExternal_iff {digest priv coer : Bytes} {ec : CertInfo} {curve : Curve}
    {entropy : Sign.EnvelopeEntropy} :
    SignsExternal lib digest ec priv curve entropy coer ↔
      Sign.buildExternalPayload lib digest ec priv curve entropy=coer ∧ coer≠[] :=
  signsEnvelope_iff

theorem seals_iff {cert : CertInfo} {plaintext : Bytes} {entropy : Crypto.EciesEntropy}
    {ecies : Crypto.EciesEncryptResult} :
    Seals lib cert plaintext entropy ecies ↔ encryptTo lib cert plaintext entropy=.ok ecies := by
  constructor
  · rintro ⟨hlen,hencrypt⟩
    unfold encryptTo
    unfold CertInfo.recipientKey at hlen hencrypt
    simp only [hencrypt,if_neg (Nat.not_lt.mpr hlen)]
  · intro h
    refine ⟨?_,encryptTo_encCurve h⟩
    by_contra hshort
    unfold encryptTo at h
    unfold CertInfo.recipientKey at hshort
    simp only [if_pos (Nat.lt_of_not_le hshort)] at h
    cases h

theorem Seals.aesKey_length {cert : CertInfo} {plaintext : Bytes} {entropy : Crypto.EciesEntropy}
    {ecies : Crypto.EciesEncryptResult} (h : Seals lib cert plaintext entropy ecies) :
    ecies.aesKey.length=kAesKeyLen := by
  rw [encryptTo_aesKey (seals_iff.mp h)]
  exact Crypto.randBytes_length entropy.aesKey

theorem fits_iff {cert : CertInfo} {ecies : Crypto.EciesEncryptResult}
    (hkey : ecies.aesKey.length=kAesKeyLen) :
    Fits lib cert ecies ↔ ∃ req,encodeEncrypted lib cert ecies=.ok req := by
  constructor
  · rintro ⟨body,hbody,hlen⟩
    obtain ⟨rfl,hne⟩ := writes_iff.mp hbody
    have hempty := List.isEmpty_eq_false_iff.mpr hne
    have hbytes : StaticBytes.fromBytes _=some ⟨_,hlen⟩ := StaticBytes.fromBytes_some.mpr rfl
    have haes : StaticBytes.fromBytes _=some ⟨ecies.aesKey,hkey.le⟩ :=
      StaticBytes.fromBytes_some.mpr rfl
    simp only [encodeEncrypted,hempty,hbytes,haes,Bool.false_eq_true,if_false]
    exact ⟨_,rfl⟩
  · rintro ⟨req,h⟩
    exact ⟨_,⟨(encodeEncrypted_ok h).1,encodeEncrypted_ne_nil h⟩,req.encoded.size_le⟩

/-- An enrolment request is made exactly if every layer of it can be. -/
theorem encodeEcRequest_iff {desc : EcRequestDescription} {ea : CertInfo} {priv : Bytes}
    {entropy : EcEntropy} :
    (∃ req,encodeEcRequest lib desc ea priv entropy=.ok req) ↔
      EcMakeable lib desc ea priv entropy := by
  constructor
  · rintro ⟨req,h⟩
    obtain ⟨innerBytes,pop,outer,ecies,hencode,hne,rfl,hpop,rfl,houter,hecies,hreq⟩ :=
      encodeEcRequest_ok h
    have hseals := seals_iff.mpr hecies
    exact ⟨innerBytes,_,_,ecies,⟨hencode,hne⟩,signsSelf_iff.mpr ⟨rfl,hpop⟩,
      signsSelf_iff.mpr ⟨rfl,houter⟩,hseals,(fits_iff hseals.aesKey_length).mpr ⟨req,hreq⟩⟩
  · rintro ⟨innerBytes,pop,outer,ecies,hinner,hpop,houter,hseals,hfits⟩
    obtain ⟨hbytes,hne⟩ := writes_iff.mp hinner
    obtain ⟨hpop,hpopNe⟩ := signsSelf_iff.mp hpop
    obtain ⟨houter,houterNe⟩ := signsSelf_iff.mp houter
    obtain ⟨req,hreq⟩ := (fits_iff hseals.aesKey_length).mp hfits
    refine ⟨req,?_⟩
    simp only [encodeEcRequest,hbytes,hpop,houter,seals_iff.mp hseals,
      List.isEmpty_eq_false_iff.mpr hne,List.isEmpty_eq_false_iff.mpr hpopNe,
      List.isEmpty_eq_false_iff.mpr houterNe,Bool.false_eq_true,if_false]
    exact hreq

variable {desc : AtRequestDescription} {aa ea ec : CertInfo} {ecPriv atPriv : Bytes}
variable {entropy : AtEntropy}

theorem encryptedEcSignature_iff {sharedCoer : Bytes} {e : Asn.Ieee1609Dot2Data} :
    encryptedEcSignature lib desc sharedCoer ea ec ecPriv entropy=.ok e ↔
      ∃ signedExt eciesEa,SignsExternal lib (Crypto.hashForCurve lib.ssl sharedCoer desc.curve) ec
          ecPriv desc.curve entropy.external signedExt ∧
        Seals lib ea signedExt entropy.eciesEa eciesEa ∧
        e=Enc.buildEncryptedData eciesEa ea ea.encCurve := by
  constructor
  · intro h
    obtain ⟨signedExt,ecies,hext,hne,hecies,he⟩ := encryptedEcSignature_ok h
    exact ⟨signedExt,ecies,signsExternal_iff.mpr ⟨hext.symm,hne⟩,seals_iff.mpr hecies,he⟩
  · rintro ⟨signedExt,ecies,hsigns,hseals,rfl⟩
    obtain ⟨hext,hne⟩ := signsExternal_iff.mp hsigns
    simp only [encryptedEcSignature,hext,List.isEmpty_eq_false_iff.mpr hne,Bool.false_eq_true,
      if_false,seals_iff.mp hseals]

/-- The octets of the inner request are made exactly if every part of it can be. -/
theorem innerAtRequestBytes_iff {innerBytes : Bytes} :
    innerAtRequestBytes lib desc ea ec ecPriv entropy=.ok innerBytes ↔
      InnerMakeable lib desc ea ec ecPriv entropy innerBytes := by
  constructor
  · intro h
    unfold innerAtRequestBytes at h
    dsimp only at h
    split at h
    · cases h
    rename_i hkey
    split at h
    · cases h
    rename_i hshared
    split at h
    · cases h
    rename_i e he
    split at h
    · cases h
    rename_i shared hdecode
    split at h
    · cases h
    rename_i hinner
    cases h
    obtain ⟨signedExt,eciesEa,hsigns,hseals,rfl⟩ := encryptedEcSignature_iff.mp he
    exact ⟨_,_,shared,signedExt,eciesEa,writes_iff.mpr ⟨rfl,by simpa using hkey⟩,
      writes_iff.mpr ⟨rfl,by simpa using hshared⟩,hsigns,hseals,hdecode,
      writes_iff.mpr ⟨rfl,by simpa using hinner⟩⟩
  · rintro ⟨pvkOer,sharedCoer,shared,signedExt,eciesEa,hkey,hshared,hsigns,hseals,hdecode,hinner⟩
    obtain ⟨hkey,hkeyNe⟩ := writes_iff.mp hkey
    obtain ⟨hshared,hsharedNe⟩ := writes_iff.mp hshared
    obtain ⟨hinner,hinnerNe⟩ := writes_iff.mp hinner
    have he := encryptedEcSignature_iff.mpr ⟨signedExt,eciesEa,hsigns,hseals,rfl⟩
    simp only [innerAtRequestBytes,hkey,hshared,he,hdecode,hinner,
      List.isEmpty_eq_false_iff.mpr hkeyNe,List.isEmpty_eq_false_iff.mpr hsharedNe,
      List.isEmpty_eq_false_iff.mpr hinnerNe,Bool.false_eq_true,if_false]

theorem encodeAtRequest_iff :
    (∃ req,encodeAtRequest lib desc aa ea ec ecPriv atPriv entropy=.ok req) ↔
      AtMakeable lib desc aa ea ec ecPriv atPriv entropy := by
  constructor
  · rintro ⟨req,h⟩
    obtain ⟨innerBytes,outer,ecies,hinner,rfl,houter,hecies,hreq⟩ := encodeAtRequest_ok h
    have hseals := seals_iff.mpr hecies
    exact ⟨innerBytes,_,ecies,innerAtRequestBytes_iff.mp hinner,signsSelf_iff.mpr ⟨rfl,houter⟩,
      hseals,(fits_iff hseals.aesKey_length).mpr ⟨req,hreq⟩⟩
  · rintro ⟨innerBytes,outer,ecies,hinner,houter,hseals,hfits⟩
    obtain ⟨houter,hne⟩ := signsSelf_iff.mp houter
    obtain ⟨req,hreq⟩ := (fits_iff hseals.aesKey_length).mp hfits
    refine ⟨req,?_⟩
    simp only [encodeAtRequest,innerAtRequestBytes_iff.mpr hinner,houter,seals_iff.mp hseals,
      List.isEmpty_eq_false_iff.mpr hne,Bool.false_eq_true,if_false]
    exact hreq

end

end V2xPki
