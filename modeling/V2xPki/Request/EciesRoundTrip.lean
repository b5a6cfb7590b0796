import V2xPki.Request.RequestAgreement

namespace V2xPki

namespace Crypto

/-- The MAC key `K2` of an exchange, as the holder of the private key derives it. -/
def eciesMacKey (ssl : OpenSsl) (recipientPrivateKey ephemeralPubkey p1 : Bytes) (curve : Curve) :
    Option Bytes :=
  (ecdhDerive ssl recipientPrivateKey ephemeralPubkey curve).map fun ss =>
    (kdf2Sha256 ssl ss p1 (kAesKeyLen+kP256ScalarLen)).drop kAesKeyLen

/-- The tag of an encrypted key under a MAC key: the first half of the HMAC. -/
def keyTag (ssl : OpenSsl) (k2 encryptedKey : Bytes) : Bytes :=
  (ssl.hmacSha256 k2 encryptedKey).toList.take kAesKeyLen

section
variable {ssl : OpenSsl} {laws : CryptoLaws ssl} {curve : Curve} {priv point pub : Bytes}

/-- A content key is only handed out under the right tag. -/
theorem eciesContentKey_tag {eph encryptedKey tagKdf p1 key : Bytes}
    (h : eciesContentKey ssl priv eph encryptedKey tagKdf p1 curve=some key) :
    ∃ k2,eciesMacKey ssl priv eph p1 curve=some k2 ∧ keyTag ssl k2 encryptedKey=tagKdf := by
  simp only [eciesContentKey,Option.bind_eq_bind,Option.bind_eq_some_iff] at h
  obtain ⟨ss,hss,h⟩ := h
  split at h
  · cases h
  rename_i htag
  refine ⟨_,by rw [eciesMacKey,hss,Option.map_some],?_⟩
  by_contra hne
  exact htag (.inr hne)

/-- An encrypted key whose tag is not that of the exchange is refused. -/
theorem eciesDecrypt_refuses {enc : EciesEncryptResult} {p1 k2 : Bytes}
    (hk2 : eciesMacKey ssl priv enc.ephemeralPubkey p1 curve=some k2)
    (htag : keyTag ssl k2 enc.encryptedKey≠enc.tagKdf) :
    eciesDecrypt ssl priv enc p1 curve=none := by
  rw [eciesDecrypt_eq]
  cases hkey : eciesContentKey ssl priv enc.ephemeralPubkey enc.encryptedKey enc.tagKdf p1 curve with
  | none => rfl
  | some key =>
    obtain ⟨k2',hk2',htag'⟩ := eciesContentKey_tag hkey
    obtain rfl : k2=k2' := Option.some.inj (hk2.symm.trans hk2')
    exact absurd htag' htag

/-- The recipient decrypts an encryption, the ephemeral point being in either form. -/
theorem eciesDecrypt_eciesEncrypt {plaintext p1 eph aesKey : Bytes} {entropy : EciesEntropy}
    {enc : EciesEncryptResult} (hkey : KeyPairOn laws curve priv point)
    (hpub : PublicForm curve point pub) (hdrawn : DrawsScalar laws curve entropy)
    (henc : eciesEncrypt ssl pub plaintext p1 curve entropy=some enc)
    (heph : PublicForm curve enc.ephemeralPubkey eph) :
    eciesDecrypt ssl priv {enc with ephemeralPubkey := eph,aesKey := aesKey} p1 curve=
      some plaintext := by
  obtain ⟨hcontent,hopen,-,-,-⟩ :=
    eciesEncrypt_opens hkey (evpPkeyFromPublic_of_form hkey hpub) hdrawn henc
  rw [eciesDecrypt_eq]
  dsimp only
  rw [hcontent eph heph,Option.bind_some]
  exact hopen

end

end Crypto

namespace Enc
variable {lib : Lib} {curve : Curve}

/-- Opening the built container with an empty `P1` is decrypting what went into it, with the
ephemeral point compressed. -/
theorem decryptEncryptedContent_build {enc : Crypto.EciesEncryptResult} (cert : CertInfo)
    (hcurve : curve=.nistP256 ∨ curve=.brainpoolP256r1)
    (heph : enc.ephemeralPubkey.length=curve.pubkeyLen)
    (htag : enc.tagCcm.length=kAesCcmTagLen) (priv requestAesKey : Bytes) :
    (encryptedData? (buildEncryptedData enc cert curve)).bind
        (decryptEncryptedContent lib · priv requestAesKey)=
      Crypto.eciesDecrypt lib.ssl priv {enc with
        ephemeralPubkey := compressedPoint curve enc.ephemeralPubkey,aesKey := []} [] curve := by
  obtain ⟨encKey,hencKey,hdata⟩ := build_eciesKey enc cert hcurve
  have hform := toSec1_fromSec1_p256 hcurve heph
  have hpresent : ¬((Point.fromSec1 enc.ephemeralPubkey).isNone ∨
      (compressedPoint curve enc.ephemeralPubkey).isEmpty) := by
    rintro (hnone | hempty)
    · rw [Option.isNone_iff_eq_none.mp hnone] at hform
      cases hform
    · cases hempty
  have hlong : ¬(enc.ciphertext++enc.tagCcm).length<kAesCcmTagLen := by
    rw [List.length_append,htag]
    omega
  -- the tag is the last sixteen octets, so the ciphertext is split where it was joined
  have hsplit : (enc.ciphertext++enc.tagCcm).length-kAesCcmTagLen=enc.ciphertext.length := by
    rw [List.length_append,htag]
    omega
  rw [hdata]
  simp only [encryptedData?,Option.bind_some,decryptEncryptedContent,List.head?_cons,aes128ccm?,
    Option.bind_eq_bind,if_neg hlong,hsplit,List.take_left,List.drop_left,openForRecipient,hencKey,
    hform,if_neg hpresent]

/-- Whatever was drawn, an encryption is undone by the recipient, alone under any `P1` and
through the container and the codec under the empty one; under a tag that is not the one of
the encrypted key it is refused. -/
theorem ecies_round_trip {laws : CryptoLaws lib.ssl} {priv point pub plaintext p1 : Bytes}
    {entropy : Crypto.EciesEntropy} {enc : Crypto.EciesEncryptResult}
    (hcodec : lib.asn.ieee1609Dot2Data.RoundTrip)
    (hkey : KeyPairOn laws curve priv point) (hpub : PublicForm curve point pub)
    (hdrawn : Crypto.DrawsScalar laws curve entropy)
    (henc : Crypto.eciesEncrypt lib.ssl pub plaintext p1 curve entropy=some enc) :
    Crypto.eciesDecrypt lib.ssl priv enc p1 curve=some plaintext ∧
    (∃ k2,Crypto.eciesMacKey lib.ssl priv enc.ephemeralPubkey p1 curve=some k2 ∧
      ∀ encryptedKey tagKdf,Crypto.keyTag lib.ssl k2 encryptedKey≠tagKdf →
        Crypto.eciesDecrypt lib.ssl priv {enc with encryptedKey,tagKdf} p1 curve=none) ∧
    (p1=[] → curve=.nistP256 ∨ curve=.brainpoolP256r1 →
      ∀ cert coer,lib.asn.ieee1609Dot2Data.encode (buildEncryptedData enc cert curve)=some coer →
        ∀ requestAesKey,plaintext? lib coer priv requestAesKey=some plaintext) := by
  obtain ⟨hcontent,-,htag,-,hlen⟩ :=
    Crypto.eciesEncrypt_opens hkey (Crypto.evpPkeyFromPublic_of_form hkey hpub) hdrawn henc
  refine ⟨Crypto.eciesDecrypt_eciesEncrypt hkey hpub hdrawn henc (.inl rfl),?_,?_⟩
  · obtain ⟨k2,hk2,-⟩ := Crypto.eciesContentKey_tag (hcontent _ (.inl rfl))
    refine ⟨k2,hk2,?_⟩
    intro encryptedKey tagKdf hne
    exact Crypto.eciesDecrypt_refuses hk2 hne
  · rintro rfl hcurve cert coer hcoer requestAesKey
    have hdec := Coer.decode_encode hcodec hcoer
    have hopen : (encryptedData? (buildEncryptedData enc cert curve)).bind
        (decryptEncryptedContent lib · priv requestAesKey)=_ :=
      decryptEncryptedContent_build cert hcurve hlen htag priv requestAesKey
    rw [Crypto.eciesDecrypt_eciesEncrypt hkey hpub hdrawn henc (.inr rfl)] at hopen
    simp only [plaintext?,hdec,Option.bind_eq_bind,Option.bind_some]
    exact hopen

end Enc

namespace Sample

open Framework

/-- Two octets encrypted to the holder of 7 under the empty `P1`. -/
def noteEcies : Crypto.EciesEncryptResult :=
  (Crypto.eciesEncrypt ssl (pointOf .nistP256 7) [0x20,0x01] [] .nistP256 drawnEcies).getD
    ⟨[],[],[],[],[],[],[]⟩

def noteSealed : Coded Asn.Ieee1609Dot2Data :=
  ((envelopeOctets (Enc.buildEncryptedData noteEcies encryptingCa .nistP256)).getD [],
    Enc.buildEncryptedData noteEcies encryptingCa .nistP256)

theorem ecies_round_trip_note :
    Crypto.eciesDecrypt ssl (binpad 32 7) noteEcies [] .nistP256=some [0x20,0x01] ∧
    noteSealed.1≠[] ∧
    Enc.plaintext? (exchangeLib [noteSealed] []) noteSealed.1 (binpad 32 7) []=some [0x20,0x01] := by
  have hkey : KeyPairOn (sslLaws : CryptoLaws (exchangeLib [noteSealed] []).ssl) .nistP256
      (binpad 32 7) (pointOf .nistP256 7) := keyPairOn_pointOf (by decide) (by decide)
  have hcodec : (exchangeLib [noteSealed] []).asn.ieee1609Dot2Data.RoundTrip :=
    Codec.table_roundTrip [noteSealed] (by decide +kernel)
  have hdrawn : Crypto.DrawsScalar sslLaws .nistP256 drawnEcies := by
    intro e he
    obtain rfl : 3=e := Option.some.inj he
    decide +kernel
  have henc : Crypto.eciesEncrypt (exchangeLib [noteSealed] []).ssl (pointOf .nistP256 7)
      [0x20,0x01] [] .nistP256 drawnEcies=some noteEcies := by decide +kernel
  obtain ⟨hopen,-,hwire⟩ := Enc.ecies_round_trip hcodec hkey (.inl rfl) hdrawn henc
  exact ⟨hopen,by decide +kernel,hwire rfl (.inl rfl) encryptingCa _ (by decide +kernel) []⟩

end Sample

end V2xPki
