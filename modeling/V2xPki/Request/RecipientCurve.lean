import V2xPki.Request.Layers

namespace V2xPki

namespace CertInfo

/-- The curve that key is on, as the certificate says. -/
def recipientCurve (cert : CertInfo) : Curve :=
  if cert.encryptionKey.empty then cert.curve else cert.encCurve

/-- `enc_curve` is the curve of the key that is used. -/
def KeyOnEncCurve (cert : CertInfo) : Prop :=
  cert.encryptionKey.toVector≠[] ∨ cert.curve=cert.encCurve

instance (cert : CertInfo) : Decidable cert.KeyOnEncCurve :=
  inferInstanceAs (Decidable (_ ∨ _))

theorem keyOnEncCurve_iff (cert : CertInfo) :
    cert.KeyOnEncCurve ↔ cert.recipientCurve=cert.encCurve := by
  unfold KeyOnEncCurve recipientCurve
  cases hempty : cert.encryptionKey.empty with
  | true =>
    have hnil := StaticBytes.empty_eq_true.mp hempty
    simp [hnil]
  | false =>
    have hne := StaticBytes.empty_eq_false.mp hempty
    simp [hne]

end CertInfo

/-- The curves that the key alternatives of a message name. -/
def eciesCurves (data : Asn.Ieee1609Dot2Data) : List Curve :=
  match data.content with
  | some (.encryptedData (some ⟨some recipients,_⟩)) => recipients.filterMap fun r => match r with
    | some (.certRecipInfo (some info)) => (Enc.eciesKey? info.encKey).map (·.2)
    | _ => none
  | _ => []

section
variable (lib : Lib)

/-- The message holds `plaintext` encrypted to the certificate on its key's own curve, and its
key alternative names that curve. -/
def SealedOnOwnCurve (cert : CertInfo) (plaintext : Bytes) (entropy : Crypto.EciesEntropy)
    (data : Asn.Ieee1609Dot2Data) : Prop :=
  ∃ ecies,Crypto.eciesEncrypt lib.ssl cert.recipientKey plaintext
      (Crypto.hashSha256 lib.ssl cert.certBytes.toVector) cert.recipientCurve entropy=some ecies ∧
    eciesKeys data=[⟨Point.fromSec1 ecies.ephemeralPubkey,ecies.encryptedKey,ecies.tagKdf⟩] ∧
    eciesCurves data=[cert.recipientCurve]

/-- An enrolment request is encrypted on the curve of the EA's key. -/
def EcSealed (ea : CertInfo) (entropy : EcEntropy) (req : RequestResult) : Prop :=
  ∃ data plaintext,Coer.decode lib.asn.ieee1609Dot2Data req.encoded.toVector=some data ∧
    SealedOnOwnCurve lib ea plaintext entropy.ecies data

/-- An authorization request is encrypted on the curve of the AA's key, and the `ecSignature`
in it on the curve of the EA's. -/
def AtSealed (desc : AtRequestDescription) (aa ea ec : CertInfo) (ecPriv : Bytes)
    (entropy : AtEntropy) (req : RequestResult) : Prop :=
  (∃ data plaintext,Coer.decode lib.asn.ieee1609Dot2Data req.encoded.toVector=some data ∧
    SealedOnOwnCurve lib aa plaintext entropy.eciesAa data) ∧
  ∃ innerBytes inner ecData signedExt,
    innerAtRequestBytes lib desc ea ec ecPriv entropy=.ok innerBytes ∧
    CarriesInner lib aa entropy innerBytes req.encoded.toVector ∧
    Coer.decode lib.asn.innerAtRequest innerBytes=some inner ∧
    inner.ecSignature=some (.encryptedEcSignature (some ecData)) ∧
    SealedOnOwnCurve lib ea signedExt entropy.eciesEa ecData

end

section
variable {lib : Lib} {cert : CertInfo} {plaintext : Bytes} {entropy : Crypto.EciesEntropy}
variable {ecies : Crypto.EciesEncryptResult}

theorem Cert.fromStruct_encCurve (uninit : HashedId8) (c : Asn.CertificateBase) (coer : Bytes) :
    (Cert.fromStruct lib uninit c coer).encCurve=.nistP256 ∨
      (Cert.fromStruct lib uninit c coer).encCurve=.brainpoolP256r1 := by
  show (Cert.parseEncryptionKey c).2=_ ∨ (Cert.parseEncryptionKey c).2=_
  unfold Cert.parseEncryptionKey
  split
  · exact .inl rfl
  · exact .inr rfl
  · exact .inl rfl

theorem eciesCurves_build (ecies : Crypto.EciesEncryptResult) (cert : CertInfo) {curve : Curve}
    (hcurve : curve=.nistP256 ∨ curve=.brainpoolP256r1) :
    eciesCurves (Enc.buildEncryptedData ecies cert curve)=[curve] := by
  rcases hcurve with rfl | rfl <;> rfl

/-- A key that OpenSSL does not take on `enc_curve` is refused. -/
theorem encryptTo_refuses (hkey : Crypto.evpPkeyFromPublic lib.ssl cert.recipientKey cert.encCurve=
    none) : encryptTo lib cert plaintext entropy≠.ok ecies := by
  intro h
  have henc := encryptTo_encCurve h
  simp only [Crypto.eciesEncrypt,Option.bind_eq_bind,Option.bind_eq_some_iff] at henc
  obtain ⟨eph,-,ss,hss,-⟩ := henc
  simp only [Crypto.ecdhDerive,hkey,Option.bind_eq_bind,Option.bind_none,Option.bind_fun_none] at hss
  cases hss

/-- What `encryptTo` and `build_encrypted_data` make is on the key's own curve exactly if that
is `enc_curve`. -/
theorem sealed_iff (hcurve : cert.encCurve=.nistP256 ∨ cert.encCurve=.brainpoolP256r1)
    (h : encryptTo lib cert plaintext entropy=.ok ecies) :
    (∃ p,SealedOnOwnCurve lib cert p entropy (Enc.buildEncryptedData ecies cert cert.encCurve)) ↔
      cert.KeyOnEncCurve := by
  have hcurves := eciesCurves_build ecies cert hcurve
  rw [cert.keyOnEncCurve_iff]
  constructor
  · rintro ⟨p,ecies',-,-,halt⟩
    rw [hcurves] at halt
    exact (List.cons.inj halt).1.symm
  · intro hsame
    refine ⟨plaintext,ecies,?_,eciesKeys_build ecies cert cert.encCurve,?_⟩
    · rw [hsame]
      exact encryptTo_encCurve h
    · rw [hsame]
      exact hcurves

/-- An uncompressed point that is not on `enc_curve` is not taken there. -/
theorem uncompressed_refused (hempty : cert.encryptionKey.toVector=[])
    (hhead : cert.publicKey.toVector.head?=some 0x04)
    (hoff : lib.ssl.publicOk cert.encCurve cert.publicKey.toVector=false) :
    Crypto.evpPkeyFromPublic lib.ssl cert.recipientKey cert.encCurve=none := by
  have hempty' := StaticBytes.empty_eq_true.mpr hempty
  unfold Crypto.evpPkeyFromPublic CertInfo.recipientKey
  rw [if_pos hempty']
  dsimp only
  split
  · rw [Option.filter_some,hoff]
    rfl
  · rw [if_neg]
    rintro ⟨-,hmark⟩
    rw [hhead] at hmark
    rcases hmark with hmark | hmark <;> cases hmark

variable {desc : EcRequestDescription} {atDesc : AtRequestDescription} {aa ea ec : CertInfo}
variable {priv ecPriv atPriv : Bytes} {ecEntropy : EcEntropy} {atEntropy : AtEntropy}
variable {req : RequestResult}

theorem ecSealed_iff (hcodec : lib.asn.ieee1609Dot2Data.RoundTrip)
    (hcurve : ea.encCurve=.nistP256 ∨ ea.encCurve=.brainpoolP256r1)
    (h : encodeEcRequest lib desc ea priv ecEntropy=.ok req) :
    EcSealed lib ea ecEntropy req ↔ ea.KeyOnEncCurve := by
  obtain ⟨-,-,outer,ecies,-,-,-,-,-,-,hecies,hreq⟩ := encodeEcRequest_ok h
  have hdecode := Coer.decode_encode hcodec (encodeEncrypted_ok hreq).1
  rw [← sealed_iff hcurve hecies]
  constructor
  · rintro ⟨data,plaintext,hdata,hsealed⟩
    obtain rfl := Option.some.inj (hdecode.symm.trans hdata)
    exact ⟨plaintext,hsealed⟩
  · rintro ⟨plaintext,hsealed⟩
    exact ⟨_,plaintext,hdecode,hsealed⟩

theorem atSealed_iff (hcodec : lib.asn.ieee1609Dot2Data.RoundTrip)
    (hinner : lib.asn.innerAtRequest.RoundTrip)
    (haa : aa.encCurve=.nistP256 ∨ aa.encCurve=.brainpoolP256r1)
    (hea : ea.encCurve=.nistP256 ∨ ea.encCurve=.brainpoolP256r1)
    (h : encodeAtRequest lib atDesc aa ea ec ecPriv atPriv atEntropy=.ok req) :
    AtSealed lib atDesc aa ea ec ecPriv atEntropy req ↔ aa.KeyOnEncCurve ∧ ea.KeyOnEncCurve := by
  obtain ⟨innerBytes,outer,ecies,hbytes,rfl,houter,hecies,hreq⟩ := encodeAtRequest_ok h
  obtain ⟨pvk,sharedCoer,e,shared,-,-,he,-,hencode⟩ := innerAtRequestBytes_ok hbytes
  obtain ⟨signedExt,eciesEa,-,-,heciesEa,rfl⟩ := encryptedEcSignature_ok he
  have hcarries := carriesInner_request houter hecies hreq
  have hdecode := Coer.decode_encode hcodec (encodeEncrypted_ok hreq).1
  have hdecodeInner := Coer.decode_encode hinner hencode
  rw [← sealed_iff haa hecies,← sealed_iff hea heciesEa]
  constructor
  · rintro ⟨⟨data,plaintext,hdata,hsealed⟩,bytes,inner,ecData,ext,hbytes',-,hread,hsig,hsealedEa⟩
    obtain rfl := Option.some.inj (hdecode.symm.trans hdata)
    obtain rfl := Except.ok.inj (hbytes.symm.trans hbytes')
    obtain rfl := Option.some.inj (hdecodeInner.symm.trans hread)
    cases hsig
    exact ⟨⟨plaintext,hsealed⟩,ext,hsealedEa⟩
  · rintro ⟨⟨plaintext,hsealed⟩,ext,hsealedEa⟩
    exact ⟨⟨_,plaintext,hdecode,hsealed⟩,innerBytes,_,_,ext,hbytes,hcarries,hdecodeInner,rfl,
      hsealedEa⟩

/-- Every request that is made is encrypted on the curve of the recipient's key exactly if that
key is on `enc_curve`. A key that OpenSSL does not take there, such as an uncompressed point
of another curve, never gets a request. -/
theorem request_curve_iff (hcodec : lib.asn.ieee1609Dot2Data.RoundTrip)
    (hinner : lib.asn.innerAtRequest.RoundTrip) (uninitEa uninitAa : HashedId8)
    (eaCert aaCert : Asn.CertificateBase) (eaCoer aaCoer : Bytes)
    (hea : ea=Cert.fromStruct lib uninitEa eaCert eaCoer)
    (haa : aa=Cert.fromStruct lib uninitAa aaCert aaCoer) :
    (∀ desc priv entropy req,encodeEcRequest lib desc ea priv entropy=.ok req →
      (EcSealed lib ea entropy req ↔ ea.KeyOnEncCurve)) ∧
    (∀ desc ec ecPriv atPriv entropy req,
      encodeAtRequest lib desc aa ea ec ecPriv atPriv entropy=.ok req →
      (AtSealed lib desc aa ea ec ecPriv entropy req ↔ aa.KeyOnEncCurve ∧ ea.KeyOnEncCurve)) ∧
    (Crypto.evpPkeyFromPublic lib.ssl ea.recipientKey ea.encCurve=none →
      ∀ desc priv entropy req,encodeEcRequest lib desc ea priv entropy≠.ok req) ∧
    (Crypto.evpPkeyFromPublic lib.ssl aa.recipientKey aa.encCurve=none ∨
        Crypto.evpPkeyFromPublic lib.ssl ea.recipientKey ea.encCurve=none →
      ∀ desc ec ecPriv atPriv entropy req,
        encodeAtRequest lib desc aa ea ec ecPriv atPriv entropy≠.ok req) ∧
    (∀ cert : CertInfo,cert.encryptionKey.toVector=[] →
      cert.publicKey.toVector.head?=some 0x04 →
      lib.ssl.publicOk cert.encCurve cert.publicKey.toVector=false →
      Crypto.evpPkeyFromPublic lib.ssl cert.recipientKey cert.encCurve=none) := by
  have heaCurve : ea.encCurve=.nistP256 ∨ ea.encCurve=.brainpoolP256r1 := by
    rw [hea]
    exact Cert.fromStruct_encCurve uninitEa eaCert eaCoer
  have haaCurve : aa.encCurve=.nistP256 ∨ aa.encCurve=.brainpoolP256r1 := by
    rw [haa]
    exact Cert.fromStruct_encCurve uninitAa aaCert aaCoer
  refine ⟨?_,?_,?_,?_,?_⟩
  · intro desc priv entropy req h
    exact ecSealed_iff hcodec heaCurve h
  · intro desc ec ecPriv atPriv entropy req h
    exact atSealed_iff hcodec hinner haaCurve heaCurve h
  · intro hnone desc priv entropy req h
    obtain ⟨-,-,outer,ecies,-,-,-,-,-,-,hecies,-⟩ := encodeEcRequest_ok h
    exact encryptTo_refuses hnone hecies
  · intro hnone desc ec ecPriv atPriv entropy req h
    obtain ⟨innerBytes,outer,ecies,hbytes,-,-,hecies,-⟩ := encodeAtRequest_ok h
    obtain ⟨pvk,sharedCoer,e,shared,-,-,he,-,-⟩ := innerAtRequestBytes_ok hbytes
    obtain ⟨signedExt,eciesEa,-,-,heciesEa,-⟩ := encryptedEcSignature_ok he
    rcases hnone with hnone | hnone
    · exact encryptTo_refuses hnone hecies
    · exact encryptTo_refuses hnone heciesEa
  · intro cert hempty hhead hoff
    exact uncompressed_refused hempty hhead hoff

end

namespace Sample

open Framework

/-- A self-signed CA certificate without an encryption key whose verification key, the
compressed point of 9, is on a Brainpool curve. -/
def brainpoolCa : Coded Asn.CertificateBase :=
  let nist := selfSigned 9 []
  (nist.1.set 22 0x81,{nist.2 with toBeSigned := (nist.2.toBeSigned).map fun body =>
    {body with verifyKeyIndicator := some (.verificationKey (some (.ecdsaBrainpoolP256r1
      (some (.compressedY0 (binpad 32 9))))))}})

def keyOnlyCa (c : Coded Asn.CertificateBase) : CertInfo :=
  Cert.fromStruct (enrolLib {bodies := [tbs 5 []]}) .zero c.2 c.1

/-- The request of the station to a CA. -/
def requestTo (ca : CertInfo) : Coded Asn.Ieee1609Dot2Data :=
  encryptedFor ca stationOuter.1 drawnEcies

def libFor (ca : CertInfo) : Lib :=
  let base := exchangeLib [stationPop,stationOuter,requestTo ca] [stationPopBody,stationOuterBody]
  {base with asn := {base.asn with
    toBeSignedCertificate := coded [tbs 5 []]
    innerEcRequest := coded [stationInner]
    innerAtRequest := coded []}}

theorem request_curve_root :
    ∃ req,encodeEcRequest (libFor (keyOnlyCa rootCa)) stationDesc (keyOnlyCa rootCa)
        (binpad 32 21) stationEntropy=.ok req ∧
      (keyOnlyCa rootCa).encryptionKey.toVector=[] ∧
      EcSealed (libFor (keyOnlyCa rootCa)) (keyOnlyCa rootCa) stationEntropy req := by
  have hcodec : (libFor (keyOnlyCa rootCa)).asn.ieee1609Dot2Data.RoundTrip :=
    Codec.table_roundTrip [stationPop,stationOuter,requestTo (keyOnlyCa rootCa)] (by decide +kernel)
  have hinner : (libFor (keyOnlyCa rootCa)).asn.innerAtRequest.RoundTrip :=
    Codec.table_roundTrip [] (by decide)
  have hreq : encodeEcRequest (libFor (keyOnlyCa rootCa)) stationDesc (keyOnlyCa rootCa)
      (binpad 32 21) stationEntropy=
      .ok ⟨.orEmpty (requestTo (keyOnlyCa rootCa)).1,.orEmpty (List.replicate 16 2)⟩ := by
    decide +kernel
  have hca : keyOnlyCa rootCa=Cert.fromStruct (libFor (keyOnlyCa rootCa)) .zero rootCa.2
      rootCa.1 := by decide +kernel
  obtain ⟨hec,-⟩ := request_curve_iff hcodec hinner .zero .zero rootCa.2 rootCa.2 rootCa.1 rootCa.1
    hca hca
  refine ⟨_,hreq,by decide +kernel,?_⟩
  apply (hec _ _ _ _ hreq).mpr
  decide +kernel

/-- A compressed Brainpool key of a CA without an encryption key is used on NIST P-256. -/
theorem request_curve_brainpool :
    ∃ req,encodeEcRequest (libFor (keyOnlyCa brainpoolCa)) stationDesc (keyOnlyCa brainpoolCa)
        (binpad 32 21) stationEntropy=.ok req ∧
      (keyOnlyCa brainpoolCa).recipientCurve=.brainpoolP256r1 ∧
      ¬EcSealed (libFor (keyOnlyCa brainpoolCa)) (keyOnlyCa brainpoolCa) stationEntropy req := by
  have hcodec : (libFor (keyOnlyCa brainpoolCa)).asn.ieee1609Dot2Data.RoundTrip :=
    Codec.table_roundTrip [stationPop,stationOuter,requestTo (keyOnlyCa brainpoolCa)]
      (by decide +kernel)
  have hreq : encodeEcRequest (libFor (keyOnlyCa brainpoolCa)) stationDesc (keyOnlyCa brainpoolCa)
      (binpad 32 21) stationEntropy=
      .ok ⟨.orEmpty (requestTo (keyOnlyCa brainpoolCa)).1,.orEmpty (List.replicate 16 2)⟩ := by
    decide +kernel
  have hcurve : (keyOnlyCa brainpoolCa).encCurve=.nistP256 := by decide +kernel
  have hkey : ¬(keyOnlyCa brainpoolCa).KeyOnEncCurve := by decide +kernel
  refine ⟨_,hreq,by decide +kernel,?_⟩
  intro hsealed
  exact hkey ((ecSealed_iff hcodec (.inl hcurve) hreq).mp hsealed)

end Sample

end V2xPki
