import V2xPki.Message.SignedEnvelope
import V2xPki.Trust.Identity

namespace V2xPki

namespace Sign

open SignedMsg

variable (lib : Lib)

/-- The signed data a builder wraps: an empty certificate makes the signer `self`. -/
def signedPart (tbs : Asn.ToBeSignedData) (signerCertBytes : Bytes) (signerHid8 : HashedId8)
    (curve : Curve) (sig : Signature) : Asn.SignedData :=
  ⟨if curve.isP256Size then .sha256 else .sha384,some tbs,
    some (if signerCertBytes.isEmpty then .self else .digest signerHid8.toList),
    some (buildAsnSignature sig curve)⟩

def envelope (tbs : Asn.ToBeSignedData) (signerCertBytes : Bytes) (signerHid8 : HashedId8)
    (curve : Curve) (sig : Signature) : Asn.Ieee1609Dot2Data :=
  ⟨kIeee1609Dot2Version,
    some (.signedData (some (signedPart tbs signerCertBytes signerHid8 curve sig)))⟩

/-- What is signed: the signed part as the codec writes it, and the signer's certificate. -/
def signedDigest (tbs : Asn.ToBeSignedData) (signerCertBytes : Bytes) (curve : Curve) : Bytes :=
  signedDataHash lib (Coer.encode lib.asn.toBeSignedData tbs) signerCertBytes curve

/-- The codec has encodings for the signed part and for the envelope around its signature,
and reads the envelope back. -/
structure CodecFits (tbs : Asn.ToBeSignedData) (privateKey signerCertBytes : Bytes)
    (signerHid8 : HashedId8) (curve : Curve) (nonce : Nat) : Prop where
  body : Coer.encode lib.asn.toBeSignedData tbs≠[]
  outer : ∀ sig,Crypto.ecdsaSignDigest lib.ssl privateKey
      (signedDigest lib tbs signerCertBytes curve) curve nonce=some sig →
    Coer.Carries lib.asn.ieee1609Dot2Data (envelope tbs signerCertBytes signerHid8 curve sig)

/-- The curves whose signature alternative the builder and the verifier read the same way. -/
def supportedCurves : List Curve := [.nistP256,.brainpoolP256r1,.brainpoolP384r1]

section
variable {lib} {laws : CryptoLaws lib.ssl} {curve : Curve} {priv point pub : Bytes}
variable {tbs : Asn.ToBeSignedData} {cert : Bytes} {hid8 : HashedId8} {sig : Signature}

theorem data_of_sized {N : Nat} {b : StaticBytes N} {n : Nat} (h : b.toVector.length=n) :
    b.data n=b.toVector := by
  rw [StaticBytes.data,← h,List.take_left]

/-- The verifier reads the signature and the curve back from the alternative the builder
chose; NIST P-384 is the one curve it would take for another. -/
theorem extractSig_buildAsnSignature (hcurve : curve≠.nistP384) (h : Crypto.Sized sig curve) :
    Point.extractSig (some (buildAsnSignature sig curve))=
      some ⟨sig.r.toVector,sig.s.toVector,curve⟩ := by
  have hr := data_of_sized h.r
  have hs := data_of_sized h.s
  have hbody : Point.extractEcdsa curve (some ⟨some (.xOnly (sig.r.data curve.scalarLen)),
      sig.s.data curve.scalarLen⟩)=some ⟨sig.r.toVector,sig.s.toVector,curve⟩ := by
    simp [Point.extractEcdsa,Point.sigR,hr,hs,h.r,h.s]
  cases curve with
  | nistP256 => exact hbody
  | brainpoolP256r1 => exact hbody
  | nistP384 => exact absurd rfl hcurve
  | brainpoolP384r1 => exact hbody

theorem signedDataHash_length (tbsCoer signerInput : Bytes) (curve : Curve) :
    (signedDataHash lib tbsCoer signerInput curve).length=curve.hashLen :=
  Crypto.hashForCurve_length lib.ssl _ curve

theorem finalizeSignedData_of_sign {nonce : Nat}
    (hbody : Coer.encode lib.asn.toBeSignedData tbs≠[])
    (hsign : Crypto.ecdsaSignDigest lib.ssl priv (signedDigest lib tbs cert curve) curve nonce=
      some sig) (hid8 : HashedId8) :
    finalizeSignedData lib tbs priv cert hid8 curve nonce=
      Coer.encode lib.asn.ieee1609Dot2Data (envelope tbs cert hid8 curve sig) := by
  have hne : (Coer.encode lib.asn.toBeSignedData tbs).isEmpty=false := by simpa using hbody
  unfold signedDigest at hsign
  simp only [finalizeSignedData,hne,hsign]
  rfl

/-- A builder with a key pair ends in an encoding of the envelope around a signature that
verifies. -/
theorem finalizeSignedData_spec (hkey : KeyPairOn laws curve priv point)
    (hbody : Coer.encode lib.asn.toBeSignedData tbs≠[]) (hid8 : HashedId8) (nonce : Nat) :
    ∃ sig,Crypto.ecdsaSignDigest lib.ssl priv (signedDigest lib tbs cert curve) curve nonce=
        some sig ∧ Crypto.Sized sig curve ∧
      finalizeSignedData lib tbs priv cert hid8 curve nonce=
        Coer.encode lib.asn.ieee1609Dot2Data (envelope tbs cert hid8 curve sig) ∧
      ∀ pub,PublicForm curve point pub → Crypto.ecdsaVerifyDigest lib.ssl pub
        (signedDigest lib tbs cert curve) sig curve=true := by
  have hdigest : (signedDigest lib tbs cert curve).length=curve.hashLen :=
    signedDataHash_length _ _ curve
  obtain ⟨sig,hsign,hsized,hverify⟩ := Crypto.ecdsaSignDigest_verifies hkey hdigest nonce
  exact ⟨sig,hsign,hsized,finalizeSignedData_of_sign hbody hsign hid8,hverify⟩

/-- A builder that returned octets had an encoding for what it signed. -/
theorem body_of_finalize {nonce : Nat}
    (h : finalizeSignedData lib tbs priv cert hid8 curve nonce≠[]) :
    Coer.encode lib.asn.toBeSignedData tbs≠[] := by
  intro hnil
  apply h
  simp [finalizeSignedData,hnil]

theorem signerDigest_signedPart :
    signerDigest? (signedPart tbs cert hid8 curve sig)=if cert.isEmpty then none else some hid8 := by
  unfold signedPart signerDigest?
  cases cert with
  | nil => rfl
  | cons b cert =>
    have hof : HashedId8.ofBytes hid8.toList=some hid8 := HashedId8.ofBytes_some.mpr rfl
    simpa using hof

/-- An envelope around an unsecured payload is unwrapped to that payload. -/
theorem unwrap_envelope {coer payload : Bytes} {micros : Int}
    (hd : Coer.decode lib.asn.ieee1609Dot2Data coer=
      some (envelope (makeUnsecuredTbs payload micros) cert hid8 curve sig))
    (hp : payload≠[]) :
    unwrap lib coer=some (message lib
      (signedPart (makeUnsecuredTbs payload micros) cert hid8 curve sig)
      (makeUnsecuredTbs payload micros) payload) := by
  exact unwrap_of_parts lib (Coer.decodeWithBasicFallback_of_decode hd) rfl rfl rfl hp

/-- What is left of the check of a message whose signature is read and whose digest, if it
has one, is that of the certificate at hand. -/
theorem verify_of_parts {sd : Asn.SignedData} {cert : Bytes} (hsized : Crypto.Sized sig curve)
    (hsig : Point.extractSig sd.signature=some ⟨sig.r.toVector,sig.s.toVector,curve⟩)
    (hdigest : ∀ hid8,signerDigest? sd=some hid8 → Cert.computeHid8 lib cert=hid8)
    (hbody : Coer.encode lib.asn.toBeSignedData tbs≠[]) (hpub : pub≠[])
    (hverify : Crypto.ecdsaVerifyDigest lib.ssl pub (signedDigest lib tbs cert curve) sig
      curve=true) (payload : Bytes) :
    verify lib (message lib sd tbs payload) pub cert=true := by
  have hsigner : ¬((signerDigest? sd).isSome=true ∧
      Cert.computeHid8 lib cert≠(signerDigest? sd).getD .zero) := by
    rintro ⟨hsome,hne⟩
    obtain ⟨hid8,hid⟩ := Option.isSome_iff_exists.mp hsome
    rw [hid,Option.getD_some] at hne
    exact hne (hdigest hid8 hid)
  have hr : StaticBytes.fromBytes sig.r.toVector=some sig.r := StaticBytes.fromBytes_some.mpr rfl
  have hs : StaticBytes.fromBytes sig.s.toVector=some sig.s := StaticBytes.fromBytes_some.mpr rfl
  unfold verify message
  simp only [hsig,Option.elim_some]
  rw [if_neg (by simp [hpub,hbody]),if_neg (by simp [hsized.r,hsized.s]),if_neg hsigner,hr,hs]
  exact hverify

/-- What the verifier checks of an unwrapped envelope comes down to the ECDSA check over the
digest the builder signed. -/
theorem verify_message (hcurve : curve≠.nistP384) (hsized : Crypto.Sized sig curve)
    (hbody : Coer.encode lib.asn.toBeSignedData tbs≠[]) (hpub : pub≠[])
    (hid : cert≠[] → Cert.computeHid8 lib cert=hid8)
    (hverify : Crypto.ecdsaVerifyDigest lib.ssl pub (signedDigest lib tbs cert curve) sig
      curve=true) (payload : Bytes) :
    verify lib (message lib (signedPart tbs cert hid8 curve sig) tbs payload) pub cert=true := by
  have hsig : Point.extractSig (signedPart tbs cert hid8 curve sig).signature=
      some ⟨sig.r.toVector,sig.s.toVector,curve⟩ := extractSig_buildAsnSignature hcurve hsized
  refine verify_of_parts hsized hsig ?_ hbody hpub hverify payload
  intro named hnamed
  rw [signerDigest_signedPart] at hnamed
  by_cases hc : cert=[]
  · simp [hc] at hnamed
  · have hne : cert.isEmpty=false := by simpa using hc
    rw [hne] at hnamed
    rw [← Option.some.inj hnamed]
    exact hid hc

/-- The message of an envelope whose encoding reads back. -/
theorem envelope_verifies (hcurve : curve≠.nistP384) (hkey : KeyPairOn laws curve priv point)
    {payload : Bytes} (hp : payload≠[]) (entropy : EnvelopeEntropy)
    (hid : cert≠[] → Cert.computeHid8 lib cert=hid8)
    (hbody : Coer.encode lib.asn.toBeSignedData (makeUnsecuredTbs payload entropy.unixMicros)≠[])
    (hread : ∀ sig,Crypto.ecdsaSignDigest lib.ssl priv
        (signedDigest lib (makeUnsecuredTbs payload entropy.unixMicros) cert curve) curve
        entropy.nonce=some sig →
      Coer.decode lib.asn.ieee1609Dot2Data (Coer.encode lib.asn.ieee1609Dot2Data
        (envelope (makeUnsecuredTbs payload entropy.unixMicros) cert hid8 curve sig))=
        some (envelope (makeUnsecuredTbs payload entropy.unixMicros) cert hid8 curve sig)) :
    ∃ m,unwrap lib (finalizeSignedData lib (makeUnsecuredTbs payload entropy.unixMicros) priv cert
        hid8 curve entropy.nonce)=some m ∧ m.payloadCoer=payload ∧
      m.signerHid8=(if cert.isEmpty then .zero else hid8) ∧
      m.hasSignerDigest=!cert.isEmpty ∧ m.sigCurve=curve ∧
      ∀ pub,PublicForm curve point pub → verify lib m pub cert=true := by
  obtain ⟨sig,hsign,hsized,hfinal,hverify⟩ := finalizeSignedData_spec hkey hbody hid8 entropy.nonce
  have hunwrap := unwrap_envelope (hread sig hsign) hp
  rw [← hfinal] at hunwrap
  refine ⟨_,hunwrap,rfl,?_,?_,?_,?_⟩
  · simp only [message,signerDigest_signedPart]
    cases cert.isEmpty <;> rfl
  · simp only [message,signerDigest_signedPart]
    cases cert.isEmpty <;> rfl
  · have hsig := extractSig_buildAsnSignature hcurve hsized
    show (Point.extractSig (some (buildAsnSignature sig curve))).elim _ _=curve
    rw [hsig]
    rfl
  · intro pub hpub
    exact verify_message hcurve hsized hbody (Crypto.form_ne_nil hkey hpub) hid
      (hverify pub hpub) payload

/-- An encoding that was returned and is read back is that of the envelope. -/
theorem decode_of_finalize (hcodec : lib.asn.ieee1609Dot2Data.RoundTrip) {nonce : Nat}
    (hne : finalizeSignedData lib tbs priv cert hid8 curve nonce≠[])
    (hsign : Crypto.ecdsaSignDigest lib.ssl priv (signedDigest lib tbs cert curve) curve nonce=
      some sig) :
    Coer.decode lib.asn.ieee1609Dot2Data (Coer.encode lib.asn.ieee1609Dot2Data
      (envelope tbs cert hid8 curve sig))=some (envelope tbs cert hid8 curve sig) := by
  rw [finalizeSignedData_of_sign (body_of_finalize hne) hsign] at hne
  exact Coer.decode_encode hcodec (Coer.encode_ne_nil hne)

theorem supported_ne (h : curve∈supportedCurves) : curve≠.nistP384 := by
  intro heq
  rw [heq] at h
  revert h
  decide

/-- What the builders produce the verifier accepts, under the uncompressed and under the
compressed form of the key. -/
theorem builders_agree_with_verifier (lib : Lib) (laws : CryptoLaws lib.ssl) {curve : Curve}
    (hcurve : curve∈supportedCurves) {priv point : Bytes}
    (hkey : KeyPairOn laws curve priv point) {payload : Bytes} (hp : payload≠[])
    (entropy : EnvelopeEntropy) :
    (∀ cert : CertInfo,cert.certBytes.toVector≠[] →
      cert.hashedId8=Cert.computeHid8 lib cert.certBytes.toVector →
      CodecFits lib (makeUnsecuredTbs payload entropy.unixMicros) priv cert.certBytes.toVector
        cert.hashedId8 curve entropy.nonce →
      ∃ m,unwrap lib (buildSignedByCert lib payload cert priv curve entropy)=some m ∧
        m.payloadCoer=payload ∧ m.hasSignerDigest=true ∧ m.signerHid8=cert.hashedId8 ∧
        ∀ pub,PublicForm curve point pub → verify lib m pub cert.certBytes.toVector=true) ∧
    (CodecFits lib (makeUnsecuredTbs payload entropy.unixMicros) priv [] .zero curve
        entropy.nonce →
      ∃ m,unwrap lib (buildSelfSigned lib payload priv curve entropy)=some m ∧
        m.payloadCoer=payload ∧ m.hasSignerDigest=false ∧
        ∀ pub,PublicForm curve point pub → verify lib m pub []=true) := by
  constructor
  · intro cert hbytes hid hfits
    obtain ⟨m,hm,hpayload,hsigner,hdigest,-,hverify⟩ := envelope_verifies (supported_ne hcurve) hkey
      hp entropy (fun _ => hid.symm) hfits.body fun sig hsign => (hfits.outer sig hsign).decode_encode.2
    have hne : cert.certBytes.toVector.isEmpty=false := by simpa using hbytes
    simp only [hne,Bool.false_eq_true,if_false] at hsigner
    rw [hne] at hdigest
    exact ⟨m,hm,hpayload,hdigest,hsigner,hverify⟩
  · intro hfits
    obtain ⟨m,hm,hpayload,-,hdigest,-,hverify⟩ := envelope_verifies (supported_ne hcurve) hkey hp
      entropy (fun hc => absurd rfl hc) hfits.body
      fun sig hsign => (hfits.outer sig hsign).decode_encode.2
    exact ⟨m,hm,hpayload,hdigest,hverify⟩

end

end Sign

namespace Sample

open Framework Sign SignedMsg

/-- The envelope of a body under the signature of the holder of `d`, naming the certificate
if there is one. -/
def signedBy (d : Nat) (body : Coded Asn.ToBeSignedData) (cert : Bytes) (hid8 : HashedId8) :
    Coded Asn.Ieee1609Dot2Data :=
  let digest := signedDataHash (enrolLib {}) body.1 cert .nistP256
  ([3,0x81,0]++body.1++(if cert.isEmpty then [0x82] else 0x80::hid8.toList)++
      [0x80,0x80]++binpad 32 d++digest,
    envelope body.2 cert hid8 .nistP256 ⟨.orEmpty (binpad 32 d),.orEmpty digest⟩)

/-- The body around a payload. -/
def unsecuredBody (payload : Bytes) (micros : Int) : Coded Asn.ToBeSignedData :=
  ((signedBodyOctets (makeUnsecuredTbs payload micros)).getD [],makeUnsecuredTbs payload micros)

def noteEntropy : EnvelopeEntropy := ⟨1200000000000000,1⟩

def noteBody : Coded Asn.ToBeSignedData := unsecuredBody [0x20,0x01] noteEntropy.unixMicros

def noteEnvelope (cert : Bytes) (hid8 : HashedId8) : Coded Asn.Ieee1609Dot2Data :=
  signedBy 5 noteBody cert hid8

def noteLib : Lib := enrolLib
  {certs := [rootCa],bodies := [tbs 5 []]
   envelopes := [noteEnvelope rootCa.1 rootHid8,noteEnvelope [] .zero]}

def noteSigner : CertInfo := Cert.fromCoer noteLib .zero rootCa.1

theorem note_codecFits (cert : Bytes) (hid8 : HashedId8)
    (hsign : (Crypto.ecdsaSignDigest noteLib.ssl (binpad 32 5) (signedDigest noteLib noteBody.2 cert
      .nistP256) .nistP256 1).map (envelope noteBody.2 cert hid8 .nistP256)=
        some (noteEnvelope cert hid8).2)
    (hcarried : ∃ b n,b≠[] ∧ noteLib.asn.ieee1609Dot2Data.encode (noteEnvelope cert hid8).2=some b ∧
      noteLib.asn.ieee1609Dot2Data.decode b=some ((noteEnvelope cert hid8).2,n)) :
    CodecFits noteLib noteBody.2 (binpad 32 5) cert hid8 .nistP256 1 := by
  refine ⟨by decide +kernel,?_⟩
  intro sig h
  rw [h,Option.map_some] at hsign
  rw [Option.some.inj hsign]
  exact hcarried

theorem note_agrees :
    (∃ m,unwrap noteLib (buildSignedByCert noteLib [0x20,0x01] noteSigner (binpad 32 5) .nistP256
        noteEntropy)=some m ∧ m.payloadCoer=[0x20,0x01] ∧ m.signerHid8=noteSigner.hashedId8 ∧
      verify noteLib m (pointOf .nistP256 5) rootCa.1=true) ∧
    ∃ m,unwrap noteLib (buildSelfSigned noteLib [0x20,0x01] (binpad 32 5) .nistP256
        noteEntropy)=some m ∧ m.payloadCoer=[0x20,0x01] ∧
      verify noteLib m (0x03::binpad 32 5) []=true := by
  have hkey : KeyPairOn (enrolLaws _ : CryptoLaws noteLib.ssl) .nistP256 (binpad 32 5)
      (pointOf .nistP256 5) := keyPairOn_pointOf (by decide) (by decide)
  have hpayload : ([0x20,0x01] : Bytes)≠[] := by decide
  have hagree := builders_agree_with_verifier noteLib (enrolLaws _) (by decide) hkey hpayload
    noteEntropy
  have hbytes : noteSigner.certBytes.toVector=rootCa.1 := by decide +kernel
  have hid : noteSigner.hashedId8=rootHid8 := by decide +kernel
  have hcert : CodecFits noteLib noteBody.2 (binpad 32 5) noteSigner.certBytes.toVector
      noteSigner.hashedId8 .nistP256 1 := by
    rw [hbytes,hid]
    exact note_codecFits rootCa.1 rootHid8 (by decide +kernel)
      ⟨(noteEnvelope rootCa.1 rootHid8).1,(noteEnvelope rootCa.1 rootHid8).1.length,
        by decide +kernel,by decide +kernel,by decide +kernel⟩
  have hself : CodecFits noteLib noteBody.2 (binpad 32 5) [] .zero .nistP256 1 :=
    note_codecFits [] .zero (by decide +kernel)
      ⟨(noteEnvelope [] .zero).1,(noteEnvelope [] .zero).1.length,
        by decide +kernel,by decide +kernel,by decide +kernel⟩
  obtain ⟨m,hm,hp,-,hsigner,hverify⟩ :=
    hagree.1 noteSigner (by rw [hbytes]; decide +kernel) (by rw [hbytes,hid]; decide +kernel) hcert
  obtain ⟨m',hm',hp',-,hverify'⟩ := hagree.2 hself
  refine ⟨⟨m,hm,hp,hsigner,?_⟩,m',hm',hp',hverify' _ (.inr (by decide +kernel))⟩
  rw [← hbytes]
  exact hverify _ (.inl rfl)

end Sample

end V2xPki
