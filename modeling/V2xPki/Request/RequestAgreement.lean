import V2xPki.Message.EnvelopeAgreement
import V2xPki.Request.EcRequest

namespace V2xPki

section
variable (lib : Lib)

/-- An envelope with signer `self` around `payload` that verifies under `pub`. -/
def SelfSigned (coer pub payload : Bytes) : Prop :=
  ∃ m,SignedMsg.unwrap lib coer=some m ∧ m.hasSignerDigest=false ∧ m.payloadCoer=payload ∧
    SignedMsg.verify lib m pub []=true

/-- What the receiver of an ECIES key and a ciphertext puts together, the last sixteen octets
being the tag. -/
def received (key : Asn.EciesP256EncryptedKey) (ccm : Asn.One28BitCcmCiphertext) :
    Crypto.EciesEncryptResult :=
  let split := ccm.ccmCiphertext.length-kAesCcmTagLen
  ⟨Point.toSec1 key.v,key.c,key.t,ccm.nonce,ccm.ccmCiphertext.take split,
    ccm.ccmCiphertext.drop split,[]⟩

/-- The data has one recipient, the holder of `cert`, who gets `aesKey` and `plaintext` out of
it with the private key, the hash of the certificate for `P1` and the curve that the key
alternative names. -/
def OpensTo (cert : CertInfo) (priv : Bytes) (data : Asn.Ieee1609Dot2Data)
    (aesKey plaintext : Bytes) : Prop :=
  ∃ encKey key curve ccm,
    data=⟨kIeee1609Dot2Version,some (.encryptedData (some
      ⟨some [some (.certRecipInfo (some ⟨cert.hashedId8.toList,some encKey⟩))],
        some (.aes128ccm (some ccm))⟩))⟩ ∧
    Enc.eciesKey? (some encKey)=some (key,curve) ∧
    Crypto.eciesContentKey lib.ssl priv (Point.toSec1 key.v) key.c key.t
      (Crypto.hashSha256 lib.ssl cert.certBytes.toVector) curve=some aesKey ∧
    Crypto.eciesDecrypt lib.ssl priv (received key ccm)
      (Crypto.hashSha256 lib.ssl cert.certBytes.toVector) curve=some plaintext

end

/-- The SEC1 octets and the curve of a verification key. -/
def verificationSec1 : Asn.PublicVerificationKey → Option (Bytes × Curve)
  | .ecdsaNistP256 p => some (Point.toSec1 p,.nistP256)
  | .ecdsaBrainpoolP256r1 p => some (Point.toSec1 p,.brainpoolP256r1)
  | .ecdsaBrainpoolP384r1 p => some (Point.toSec1_384 p,.brainpoolP384r1)
  | .ecdsaNistP384 p => some (Point.toSec1_384 p,.nistP384)
  | .other _ => none

/-- The ECIES keys of a message. -/
def eciesKeys (data : Asn.Ieee1609Dot2Data) : List Asn.EciesP256EncryptedKey :=
  match data.content with
  | some (.encryptedData (some ⟨some recipients,_⟩)) => recipients.filterMap fun r => match r with
    | some (.certRecipInfo (some info)) => (Enc.eciesKey? info.encKey).map (·.1)
    | _ => none
  | _ => []

/-- No ECIES key lacks its point, a mandatory member. -/
def PointsPresent (data : Asn.Ieee1609Dot2Data) : Prop := ∀ key∈eciesKeys data,key.v≠none

instance (data : Asn.Ieee1609Dot2Data) : Decidable (PointsPresent data) :=
  inferInstanceAs (Decidable (∀ key∈eciesKeys data,key.v≠none))

/-- The encoder fails on a null pointer where a member is mandatory. -/
def ChecksPoints (td : Descriptor Asn.Ieee1609Dot2Data) : Prop :=
  ∀ v b,td.encode v=some b → PointsPresent v

/-- The key a message to the holder is encrypted to. -/
def CertInfo.recipientKey (cert : CertInfo) : Bytes :=
  if cert.encryptionKey.empty then cert.publicKey.toVector else cert.encryptionKey.toVector

/-- The encryption key of the certificate is the public key of `priv` on its curve. -/
def EncryptionKeyOf {ssl : OpenSsl} (laws : CryptoLaws ssl) (cert : CertInfo) (priv : Bytes) :
    Prop :=
  ∃ point,KeyPairOn laws cert.encCurve priv point ∧
    Crypto.evpPkeyFromPublic ssl cert.encryptionKey.toVector cert.encCurve=some point

/-- The subject attributes carry the validity and the psids asked for, in order. A psid goes
out as a 64-bit word, which is the psid itself when it is not negative. -/
structure AttributesOf (start : UInt32) (hours : UInt16) (psids : List Int)
    (attrs : Asn.CertificateSubjectAttributes) : Prop where
  validity : attrs.validityPeriod=some ⟨start,some (.hours hours)⟩
  words : attrs.appPermissions=some (psids.map UInt64.ofInt)
  psids : (∀ p∈psids,0≤p ∧ p<2^64) →
    attrs.appPermissions.map (·.map fun u => (u.toNat : Int))=some psids

theorem psid_word {p : Int} (h : 0≤p ∧ p<2^64) : ((UInt64.ofInt p).toNat : Int)=p := by
  obtain ⟨n,rfl⟩ := Int.eq_ofNat_of_zero_le h.1
  have hn : n<2^64 := by omega
  have hword : UInt64.ofInt (n : Int)=UInt64.ofNat n := by
    unfold UInt64.ofInt
    congr 1
    omega
  rw [hword,UInt64.toNat_ofNat_of_lt' hn]

theorem requestedAttributes_of (start : UInt32) (hours : UInt16) (psids : List Int) :
    AttributesOf start hours psids (requestedAttributes start hours psids) := by
  refine ⟨rfl,rfl,?_⟩
  intro h
  have hmap : (psids.map UInt64.ofInt).map (fun u => (u.toNat : Int))=psids := by
    rw [List.map_map]
    exact (List.map_congr_left fun p hp => psid_word (h p hp)).trans (List.map_id psids)
  exact congrArg some hmap

section
variable {lib : Lib} {laws : CryptoLaws lib.ssl} {curve : Curve} {priv point : Bytes}
variable {cert : CertInfo} {ecies : Crypto.EciesEncryptResult} {entropy : Crypto.EciesEntropy}

/-- The key of a request is carried compressed, on the curve it was made for. -/
theorem verificationSec1_request (hcurve : curve∈Sign.supportedCurves)
    (hkey : KeyPairOn laws curve priv point) :
    verificationSec1 (requestVerificationKey curve point)=
      some (compressedPoint curve point,curve) := by
  have hne := Sign.supported_ne hcurve
  have hlen := hkey.exported.1
  have hpoint := toSec1_fromSec1 hlen
  cases curve with
  | nistP256 => exact congrArg (fun b => some (b,Curve.nistP256)) hpoint
  | brainpoolP256r1 => exact congrArg (fun b => some (b,Curve.brainpoolP256r1)) hpoint
  | nistP384 => exact absurd rfl hne
  | brainpoolP384r1 => exact congrArg (fun b => some (b,Curve.brainpoolP384r1)) hpoint

/-- A self-signed envelope that came out of the builder and is read back verifies under the
key in the form a request carries it in. -/
theorem buildSelfSigned_selfSigned (hcodec : lib.asn.ieee1609Dot2Data.RoundTrip)
    (hcurve : curve∈Sign.supportedCurves) (hkey : KeyPairOn laws curve priv point)
    {payload : Bytes} (hp : payload≠[]) {entropy : Sign.EnvelopeEntropy}
    (hne : Sign.buildSelfSigned lib payload priv curve entropy≠[]) :
    SelfSigned lib (Sign.buildSelfSigned lib payload priv curve entropy)
      (compressedPoint curve point) payload := by
  obtain ⟨m,hm,hpayload,-,hdigest,-,hverify⟩ := Sign.envelope_verifies (Sign.supported_ne hcurve)
    hkey hp entropy (fun hc => absurd rfl hc) (Sign.body_of_finalize hne)
    fun sig hsign => Sign.decode_of_finalize hcodec hne hsign
  exact ⟨m,hm,hdigest,hpayload,hverify _ (.inr rfl)⟩

theorem eciesKeys_build (ecies : Crypto.EciesEncryptResult) (cert : CertInfo) (curve : Curve) :
    eciesKeys (Enc.buildEncryptedData ecies cert curve)=
      [⟨Point.fromSec1 ecies.ephemeralPubkey,ecies.encryptedKey,ecies.tagKdf⟩] := by
  unfold Enc.buildEncryptedData eciesKeys
  dsimp only
  split <;> rfl

/-- Whatever key it uses, `encryptTo` runs on `enc_curve`. -/
theorem encryptTo_encCurve {plaintext : Bytes}
    (h : encryptTo lib cert plaintext entropy=.ok ecies) :
    Crypto.eciesEncrypt lib.ssl cert.recipientKey plaintext
      (Crypto.hashSha256 lib.ssl cert.certBytes.toVector) cert.encCurve entropy=some ecies := by
  unfold encryptTo at h
  unfold CertInfo.recipientKey
  generalize (if cert.encryptionKey.empty then cert.publicKey.toVector
    else cert.encryptionKey.toVector)=key at h ⊢
  dsimp only at h
  split at h
  · cases h
  split at h
  · cases h
  rename_i r hr
  cases h
  exact hr

theorem encryptTo_ok {plaintext : Bytes} (h : encryptTo lib cert plaintext entropy=.ok ecies)
    (hkey : cert.encryptionKey.toVector≠[]) :
    Crypto.eciesEncrypt lib.ssl cert.encryptionKey.toVector plaintext
      (Crypto.hashSha256 lib.ssl cert.certBytes.toVector) cert.encCurve entropy=some ecies := by
  have hused : cert.recipientKey=cert.encryptionKey.toVector := by
    have hne := StaticBytes.empty_eq_false.mpr hkey
    simp [CertInfo.recipientKey,hne]
  rw [← hused]
  exact encryptTo_encCurve h

theorem encryptionKey_ne_nil (h : EncryptionKeyOf laws cert priv) :
    cert.encryptionKey.toVector≠[] := by
  obtain ⟨point,-,hpub⟩ := h
  exact Crypto.evpPkeyFromPublic_ne_nil hpub

/-- Only points of 256-bit curves have an ASN.1 form in an ECIES key. -/
theorem p256_of_fromSec1 {point : Bytes} (hlen : point.length=curve.pubkeyLen)
    (h : Point.fromSec1 point≠none) : curve=.nistP256 ∨ curve=.brainpoolP256r1 := by
  have h65 : point.length=65 := by
    by_contra hne
    apply h
    exact if_pos hne
  rw [hlen] at h65
  cases curve with
  | nistP256 => exact .inl rfl
  | brainpoolP256r1 => exact .inr rfl
  | nistP384 => cases h65
  | brainpoolP384r1 => cases h65

/-- The key alternative of the built message names the curve it was encrypted on. -/
theorem build_eciesKey (ecies : Crypto.EciesEncryptResult) (cert : CertInfo)
    (hcurve : curve=.nistP256 ∨ curve=.brainpoolP256r1) :
    ∃ encKey,Enc.eciesKey? (some encKey)=some (⟨Point.fromSec1 ecies.ephemeralPubkey,
        ecies.encryptedKey,ecies.tagKdf⟩,curve) ∧
      Enc.buildEncryptedData ecies cert curve=⟨kIeee1609Dot2Version,some (.encryptedData (some
        ⟨some [some (.certRecipInfo (some ⟨cert.hashedId8.toList,some encKey⟩))],
          some (.aes128ccm (some ⟨ecies.nonceCcm,ecies.ciphertext++ecies.tagCcm⟩))⟩))⟩ := by
  rcases hcurve with rfl | rfl
  · exact ⟨.eciesNistP256 _,rfl,rfl⟩
  · exact ⟨.eciesBrainpoolP256r1 _,rfl,rfl⟩

/-- What `encryptTo` produces its recipient can open, provided the codec takes it. -/
theorem encryptTo_opens {plaintext : Bytes} (hkey : EncryptionKeyOf laws cert priv)
    (hdrawn : Crypto.DrawsScalar laws cert.encCurve entropy)
    (h : encryptTo lib cert plaintext entropy=.ok ecies)
    (hpoints : PointsPresent (Enc.buildEncryptedData ecies cert cert.encCurve)) :
    OpensTo lib cert priv (Enc.buildEncryptedData ecies cert cert.encCurve) ecies.aesKey
      plaintext := by
  have henc := encryptTo_ok h (encryptionKey_ne_nil hkey)
  obtain ⟨point,hpair,hpub⟩ := hkey
  obtain ⟨hcontent,hopen,htag,-,hlen⟩ := Crypto.eciesEncrypt_opens hpair hpub hdrawn henc
  have hv : Point.fromSec1 ecies.ephemeralPubkey≠none :=
    hpoints _ (by rw [eciesKeys_build]; exact List.mem_singleton.mpr rfl)
  have hcurve := p256_of_fromSec1 hlen hv
  obtain ⟨encKey,hencKey,hdata⟩ := build_eciesKey ecies cert hcurve
  have hform := toSec1_fromSec1_p256 hcurve hlen
  have hsplit : (ecies.ciphertext++ecies.tagCcm).length-kAesCcmTagLen=ecies.ciphertext.length := by
    rw [List.length_append,htag]
    omega
  have hkey := hcontent _ (.inr hform)
  refine ⟨encKey,_,cert.encCurve,_,hdata,hencKey,hkey,?_⟩
  rw [Crypto.eciesDecrypt_eq]
  simp only [received,hsplit,List.take_left,List.drop_left,hkey,Option.bind_some]
  exact hopen

/-- A request that came out of `encodeEncrypted` is the encoding of the built message, under
the content key of the encryption. -/
theorem encodeEncrypted_ok {req : RequestResult} (h : encodeEncrypted lib cert ecies=.ok req) :
    lib.asn.ieee1609Dot2Data.encode (Enc.buildEncryptedData ecies cert cert.encCurve)=
      some req.encoded.toVector ∧ req.requestAesKey.toVector=ecies.aesKey := by
  unfold encodeEncrypted at h
  dsimp only at h
  split at h
  · cases h
  rename_i hne
  split at h
  · cases h
  · cases h
  rename_i encoded aesKey hencoded haes
  cases h
  have hbytes := StaticBytes.fromBytes_some.mp hencoded
  refine ⟨?_,StaticBytes.fromBytes_some.mp haes⟩
  rw [hbytes]
  exact Coer.encode_ne_nil (by simpa using hne)

theorem encodeEncrypted_ne_nil {req : RequestResult}
    (h : encodeEncrypted lib cert ecies=.ok req) : req.encoded.toVector≠[] := by
  have hencode : Coer.encode lib.asn.ieee1609Dot2Data
      (Enc.buildEncryptedData ecies cert cert.encCurve)=req.encoded.toVector := by
    rw [Coer.encode,(encodeEncrypted_ok h).1,Option.getD_some]
  intro hnil
  unfold encodeEncrypted at h
  simp only [hencode,hnil,List.isEmpty_nil,if_true] at h
  cases h

/-- What the recipient of a request makes of it. -/
theorem request_opens (hcodec : lib.asn.ieee1609Dot2Data.RoundTrip)
    (hnull : ChecksPoints lib.asn.ieee1609Dot2Data) {plaintext : Bytes} {req : RequestResult}
    (hkey : EncryptionKeyOf laws cert priv)
    (hdrawn : Crypto.DrawsScalar laws cert.encCurve entropy)
    (henc : encryptTo lib cert plaintext entropy=.ok ecies)
    (h : encodeEncrypted lib cert ecies=.ok req) :
    ∃ data,Coer.decode lib.asn.ieee1609Dot2Data req.encoded.toVector=some data ∧
      OpensTo lib cert priv data req.requestAesKey.toVector plaintext := by
  obtain ⟨hencoded,haes⟩ := encodeEncrypted_ok h
  refine ⟨_,Coer.decode_encode hcodec hencoded,?_⟩
  rw [haes]
  exact encryptTo_opens hkey hdrawn henc (hnull _ _ hencoded)

end

namespace Sample

open Framework

/-- A CA whose encryption key is the point of 7. -/
def encryptingCa : CertInfo := {noteSigner with encryptionKey := .orEmpty (pointOf .nistP256 7)}

def drawnEcies : Crypto.EciesEntropy :=
  ⟨some 3,some (Vector.replicate 16 2),some (Vector.replicate 12 1)⟩

/-- The message that carries a plaintext to the CA. -/
def encryptedFor (cert : CertInfo) (plaintext : Bytes) (entropy : Crypto.EciesEntropy) :
    Coded Asn.Ieee1609Dot2Data :=
  match encryptTo (enrolLib {}) cert plaintext entropy with
  | .error _ => ([],⟨0,none⟩)
  | .ok ecies => ((envelopeOctets (Enc.buildEncryptedData ecies cert cert.encCurve)).getD [],
      Enc.buildEncryptedData ecies cert cert.encCurve)

/-- The library of an exchange in which these envelopes and bodies occur. -/
def exchangeLib (envelopes : List (Coded Asn.Ieee1609Dot2Data))
    (bodies : List (Coded Asn.ToBeSignedData)) : Lib :=
  let base := enrolLib {}
  {base with asn := {base.asn with
    ieee1609Dot2Data := coded envelopes
    toBeSignedData := coded bodies}}

theorem checksPoints_coded {envelopes : List (Coded Asn.Ieee1609Dot2Data)}
    (h : ∀ e∈envelopes,PointsPresent e.2) : ChecksPoints (coded envelopes) := by
  intro v b hb
  obtain ⟨e,he,rfl⟩ := Codec.table_encode_mem hb
  exact h e he

theorem encryptingCa_key : EncryptionKeyOf sslLaws encryptingCa (binpad 32 7) := by
  have hkey : KeyPairOn sslLaws .nistP256 (binpad 32 7) (pointOf .nistP256 7) :=
    keyPairOn_pointOf (by decide) (by decide)
  have hbytes : encryptingCa.encryptionKey.toVector=pointOf .nistP256 7 := by decide +kernel
  have hcurve : encryptingCa.encCurve=.nistP256 := by decide +kernel
  unfold EncryptionKeyOf
  rw [hbytes,hcurve]
  exact ⟨pointOf .nistP256 7,hkey,Crypto.evpPkeyFromPublic_of_form hkey (.inl rfl)⟩

theorem drawnEcies_draws : Crypto.DrawsScalar sslLaws encryptingCa.encCurve drawnEcies := by
  intro e he
  obtain rfl : 3=e := Option.some.inj he
  decide +kernel

end Sample

end V2xPki
