import V2xPki.Request.AtRequestAgreement
import V2xPki.Request.Response

namespace V2xPki

section
variable (lib : Lib)

namespace Enc

/-- The message under a key that both sides have. -/
def pskData (ccm : Crypto.AesCcmResult) (nonce pskId : Bytes) : Asn.Ieee1609Dot2Data :=
  ⟨kIeee1609Dot2Version,some (.encryptedData (some ⟨some [some (.pskRecipInfo pskId)],
    some (.aes128ccm (some ⟨nonce,ccm.ciphertext++ccm.tag⟩))⟩))⟩

/-- `psk_encrypt` of the response tests, for any nonce and identifier. -/
def pskEncrypt (plaintext aesKey nonce pskId : Bytes) : Bytes :=
  match Crypto.aes128CcmEncrypt lib.ssl aesKey nonce plaintext with
  | none => []
  | some ccm => Coer.encode lib.asn.ieee1609Dot2Data (pskData ccm nonce pskId)

end Enc

/-- What one answer draws. -/
structure AnswerDraws where
  envelope : Sign.EnvelopeEntropy
  nonce : Bytes
  pskId : Bytes
deriving DecidableEq

/-- The response to a request, with the hash that ties it to it. -/
def caResponse (request : Bytes) (code : Int) (certificate : Option Asn.CertificateBase) :
    Asn.InnerResponse :=
  ⟨(Crypto.hashSha256 lib.ssl request).take 16,code,certificate⟩

/-- The answer of a CA under the content key it found in a request: the response in the header of
its kind, signed, and encrypted back. -/
def caAnswer (td : Descriptor Asn.InnerResponse) (tag : UInt8) (ca : CertInfo)
    (signingKey aesKey : Bytes) (response : Asn.InnerResponse) (draws : AnswerDraws) : Bytes :=
  let innerBytes := Coer.encode td response
  if innerBytes.isEmpty then []
  else
    let signed := Sign.buildSignedByCert lib (0x01::tag::innerBytes) ca signingKey ca.curve
      draws.envelope
    if signed.isEmpty then [] else Enc.pskEncrypt lib signed aesKey draws.nonce draws.pskId

/-- `response` is what the CA sends back for `request`. All it has are its two private keys: the
content key is the one that the request opens to. -/
def AnswersTo (td : Descriptor Asn.InnerResponse) (tag : UInt8) (ca : CertInfo)
    (decryptionKey signingKey request response : Bytes) (code : Int)
    (certificate : Option Asn.CertificateBase) : Prop :=
  ∃ data aesKey plaintext draws,
    Coer.decode lib.asn.ieee1609Dot2Data request=some data ∧
    OpensTo lib ca decryptionKey data aesKey plaintext ∧
    response=caAnswer lib td tag ca signingKey aesKey (caResponse lib request code certificate)
      draws ∧
    response≠[]

/-- The certificate of a CA and its two private keys belong together. -/
structure AnsweringCa {lib : Lib} (laws : CryptoLaws lib.ssl) (ca : CertInfo)
    (decryptionKey signingKey : Bytes) : Prop where
  bytes : ca.certBytes.toVector≠[]
  identified : Cert.computeHid8 lib ca.certBytes.toVector=ca.hashedId8
  curve : ca.curve∈Sign.supportedCurves
  signs : ∃ point,KeyPairOn laws ca.curve signingKey point ∧
    PublicForm ca.curve point ca.publicKey.toVector
  decrypts : EncryptionKeyOf laws ca decryptionKey

end

section
variable {lib : Lib} {laws : CryptoLaws lib.ssl}

/-- A message opens to one key and one plaintext. -/
theorem OpensTo.unique {ca : CertInfo} {priv aesKey aesKey' plaintext plaintext' : Bytes}
    {data : Asn.Ieee1609Dot2Data} (h : OpensTo lib ca priv data aesKey plaintext)
    (h' : OpensTo lib ca priv data aesKey' plaintext') : aesKey=aesKey' ∧ plaintext=plaintext' := by
  obtain ⟨encKey,key,curve,ccm,rfl,hkey,haes,hplain⟩ := h
  obtain ⟨encKey',key',curve',ccm',hdata,hkey',haes',hplain'⟩ := h'
  have hsame : encKey=encKey' ∧ ccm=ccm' := by simpa using hdata
  obtain ⟨rfl,rfl⟩ := hsame
  obtain ⟨rfl,rfl⟩ := Prod.mk.inj (Option.some.inj (hkey.symm.trans hkey'))
  exact ⟨Option.some.inj (haes.symm.trans haes'),Option.some.inj (hplain.symm.trans hplain')⟩

namespace Enc

/-- What was encrypted under the key of a request is read with that key, whatever the private
key at hand. -/
theorem plaintext_pskEncrypt (laws : CryptoLaws lib.ssl)
    (hcodec : lib.asn.ieee1609Dot2Data.RoundTrip) {plaintext aesKey nonce pskId : Bytes}
    (hne : pskEncrypt lib plaintext aesKey nonce pskId≠[]) (priv : Bytes) :
    plaintext? lib (pskEncrypt lib plaintext aesKey nonce pskId) priv aesKey=some plaintext := by
  unfold pskEncrypt at hne ⊢
  cases hccm : Crypto.aes128CcmEncrypt lib.ssl aesKey nonce plaintext with
  | none => simp [hccm] at hne
  | some ccm =>
    simp only [hccm] at hne ⊢
    obtain ⟨htag,hopen⟩ := Crypto.aes128CcmEncrypt_opens laws hccm
    have hdec := Coer.decode_encode hcodec (Coer.encode_ne_nil hne)
    have hkey : aesKey.isEmpty=false := by
      cases aesKey with
      | nil => simp [Crypto.aes128CcmEncrypt,kAesKeyLen] at hccm
      | cons b rest => rfl
    have hlong : ¬(ccm.ciphertext++ccm.tag).length<kAesCcmTagLen := by
      rw [List.length_append,htag]
      omega
    -- the tag is the last sixteen octets, so the ciphertext is split where it was joined
    have hsplit : (ccm.ciphertext++ccm.tag).length-kAesCcmTagLen=ccm.ciphertext.length := by
      rw [List.length_append,htag]
      omega
    simp only [plaintext?,hdec,Option.bind_eq_bind,Option.bind_some]
    simp only [encryptedData?,pskData,Option.bind_some,decryptEncryptedContent,List.head?_cons,
      aes128ccm?,Option.bind_eq_bind,if_neg hlong,hsplit,List.take_left,List.drop_left,
      openForRecipient,hkey]
    exact hopen

end Enc

/-- An envelope under the digest of a CA that came out of the builder and is read back verifies
under the key of its certificate. -/
theorem buildSignedByCert_verifies (hcodec : lib.asn.ieee1609Dot2Data.RoundTrip) {ca : CertInfo}
    {decryptionKey signingKey payload : Bytes}
    (hca : AnsweringCa laws ca decryptionKey signingKey) (hp : payload≠[])
    {drawn : Sign.EnvelopeEntropy}
    (hne : Sign.buildSignedByCert lib payload ca signingKey ca.curve drawn≠[]) :
    ∃ m,SignedMsg.unwrap lib (Sign.buildSignedByCert lib payload ca signingKey ca.curve drawn)=
        some m ∧ m.payloadCoer=payload ∧
      SignedMsg.verify lib m ca.publicKey.toVector ca.certBytes.toVector=true := by
  obtain ⟨point,hkey,hpub⟩ := hca.signs
  obtain ⟨m,hm,hpayload,-,-,-,hverify⟩ := Sign.envelope_verifies (Sign.supported_ne hca.curve) hkey
    hp drawn (fun _ => hca.identified) (Sign.body_of_finalize hne)
    fun sig hsign => Sign.decode_of_finalize hcodec hne hsign
  exact ⟨m,hm,hpayload,hverify _ hpub⟩

theorem stripEtsiHeader_headed {tag : UInt8} {inner : Bytes} (h : inner≠[]) :
    Enc.stripEtsiHeader tag (0x01::tag::inner)=inner := by
  cases inner with
  | nil => exact absurd rfl h
  | cons b rest => simp [Enc.stripEtsiHeader]

/-- The layers of an answer that was sent. -/
theorem caAnswer_ne_nil {td : Descriptor Asn.InnerResponse} {tag : UInt8} {ca : CertInfo}
    {signingKey aesKey : Bytes} {response : Asn.InnerResponse} {draws : AnswerDraws}
    (h : caAnswer lib td tag ca signingKey aesKey response draws≠[]) :
    ∃ signed,Coer.encode td response≠[] ∧
      signed=Sign.buildSignedByCert lib (0x01::tag::Coer.encode td response) ca signingKey ca.curve
        draws.envelope ∧ signed≠[] ∧
      caAnswer lib td tag ca signingKey aesKey response draws=
        Enc.pskEncrypt lib signed aesKey draws.nonce draws.pskId := by
  unfold caAnswer at h ⊢
  dsimp only at h ⊢
  split at h
  · exact absurd rfl h
  rename_i hinner
  split at h
  · exact absurd rfl h
  rename_i hsigned
  rw [if_neg hinner,if_neg hsigned]
  exact ⟨_,by simpa using hinner,rfl,by simpa using hsigned,rfl⟩

/-- Whoever sent the request reads the answer of the CA as it was meant. -/
theorem decodeResponse_caAnswer (hcodec : lib.asn.ieee1609Dot2Data.RoundTrip) {Code : Type}
    {td : Descriptor Asn.InnerResponse} (htd : td.RoundTrip) {ca : CertInfo}
    {decryptionKey signingKey : Bytes} (hca : AnsweringCa laws ca decryptionKey signingKey)
    {tag : UInt8} {aesKey request : Bytes} {code : Int}
    {certificate : Option Asn.CertificateBase} {draws : AnswerDraws} (hrequest : request≠[])
    (hne : caAnswer lib td tag ca signingKey aesKey (caResponse lib request code certificate)
      draws≠[])
    (ofLong : Int → Code) (label : String) (uninit : HashedId8) (priv : Bytes) :
    ∃ r,decodeResponse lib td tag ofLong label uninit (caAnswer lib td tag ca signingKey aesKey
        (caResponse lib request code certificate) draws) priv aesKey request ca=.ok r ∧
      r.responseCode=ofLong code ∧
      r.certificate=certificate.map (responseCertificate lib uninit label) := by
  obtain ⟨signed,hbytes,hbuilt,hsigned,hanswer⟩ := caAnswer_ne_nil hne
  rw [hanswer] at hne ⊢
  rw [hbuilt] at hsigned
  obtain ⟨m,hm,hpayload,hverify⟩ :=
    buildSignedByCert_verifies hcodec hca (List.cons_ne_nil _ _) hsigned
  rw [← hbuilt] at hm
  have hplain := Enc.plaintext_pskEncrypt laws hcodec hne priv
  have hauth : Enc.authenticated? lib (Enc.pskEncrypt lib signed aesKey draws.nonce draws.pskId)
      priv aesKey ca=some m := by
    simp only [Enc.authenticated?,hplain,Option.bind_eq_bind,Option.bind_some,hm,hverify,if_true]
  have hread : Coer.decode td (Enc.stripEtsiHeader tag m.payloadCoer)=
      some (caResponse lib request code certificate) := by
    rw [hpayload,stripEtsiHeader_headed hbytes]
    exact Coer.decode_encode htd (Coer.encode_ne_nil hbytes)
  have hlen : ((Crypto.hashSha256 lib.ssl request).take 16).length ≤ 16 := List.length_take_le _ _
  have hresponse : readResponse lib uninit ofLong label request
      (caResponse lib request code certificate)=.ok ⟨ofLong code,
        ⟨(Crypto.hashSha256 lib.ssl request).take 16,hlen⟩,
        certificate.map (responseCertificate lib uninit label)⟩ :=
    (readResponse_ok lib).mpr ⟨rfl,rfl,rfl,hrequest,rfl⟩
  exact ⟨_,(decodeResponse_ok lib).mpr ⟨m,_,hauth,hread,hresponse⟩,rfl,rfl⟩

/-- A CA gets its answer across to whoever built the request for it. -/
theorem decodeResponse_answersTo
    (hcodec : lib.asn.ieee1609Dot2Data.RoundTrip) (hnull : ChecksPoints lib.asn.ieee1609Dot2Data)
    {Code : Type} {td : Descriptor Asn.InnerResponse} (htd : td.RoundTrip) {ca : CertInfo}
    {decryptionKey signingKey : Bytes} (hca : AnsweringCa laws ca decryptionKey signingKey)
    {plaintext : Bytes} {entropy : Crypto.EciesEntropy} {ecies : Crypto.EciesEncryptResult}
    {req : RequestResult} (hdrawn : Crypto.DrawsScalar laws ca.encCurve entropy)
    (hecies : encryptTo lib ca plaintext entropy=.ok ecies)
    (hreq : encodeEncrypted lib ca ecies=.ok req) {tag : UInt8} {response : Bytes} {code : Int}
    {certificate : Option Asn.CertificateBase}
    (hanswer : AnswersTo lib td tag ca decryptionKey signingKey req.encoded.toVector response code
      certificate) (ofLong : Int → Code) (label : String) (uninit : HashedId8) (priv : Bytes) :
    ∃ r,decodeResponse lib td tag ofLong label uninit response priv req.requestAesKey.toVector
        req.encoded.toVector ca=.ok r ∧
      r.responseCode=ofLong code ∧
      r.certificate=certificate.map (responseCertificate lib uninit label) := by
  obtain ⟨data,hdecode,hopens⟩ := request_opens hcodec hnull hca.decrypts hdrawn hecies hreq
  obtain ⟨data',aesKey,plaintext',draws,hdecode',hopens',rfl,hne⟩ := hanswer
  obtain rfl : data=data' := Option.some.inj (hdecode.symm.trans hdecode')
  obtain ⟨hkey,-⟩ := hopens.unique hopens'
  rw [hkey]
  exact decodeResponse_caAnswer hcodec htd hca (encodeEncrypted_ne_nil hreq) hne ofLong label
    uninit priv

end

end V2xPki
