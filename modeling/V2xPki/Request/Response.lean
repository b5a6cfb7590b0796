import V2xPki.Message.EncryptedData

namespace V2xPki

/-- `EcResponse` and `AtResponse`, over their code enumerations. -/
structure Response (Code : Type) where
  responseCode : Code
  requestHash : StaticBytes 16
  certificate : Option CertInfo
deriving DecidableEq

abbrev EcResponse := Response EnrolmentResponseCode

abbrev AtResponse := Response AuthorizationResponseCode

variable (lib : Lib)

/-- The leftmost 16 octets of SHA-256 over the request exactly as sent. -/
def requestHashMatches (requestBytes : Bytes) (responseHash : StaticBytes 16) : Bool :=
  if requestBytes.isEmpty ∨ responseHash.size≠16 then false
  else responseHash.toVector==(Crypto.hashSha256 lib.ssl requestBytes).take 16

theorem requestHashMatches_spec {requestBytes : Bytes} {responseHash : StaticBytes 16} :
    requestHashMatches lib requestBytes responseHash=true ↔
      requestBytes≠[] ∧ responseHash.toVector=(lib.ssl.sha256 requestBytes).toList.take 16 := by
  unfold requestHashMatches
  have hlen : ((lib.ssl.sha256 requestBytes).toList.take 16).length=16 := by simp
  split
  · rename_i h
    simp only [Bool.false_eq_true,false_iff,not_and]
    intro hne heq
    rcases h with h | h
    · exact hne (by simpa using h)
    · exact h (by rw [StaticBytes.size,heq,hlen])
  · rename_i h
    simp only [not_or,Bool.not_eq_true,not_not] at h
    have hne : requestBytes≠[] := by simpa using h.1
    simp [hne,Crypto.hashSha256]

/-- The certificate of a decoded response, parsed from a re-encoding of the structure. -/
def responseCertificate (uninit : HashedId8) (label : String) (cert : Asn.CertificateBase) :
    CertInfo :=
  {Cert.fromStruct lib uninit cert (Coer.encode lib.asn.certificateBase cert) with
    label := label}

/-- The part of the two response decoders that follows the inner decoding. -/
def readResponse {Code : Type} (uninit : HashedId8) (code : Int → Code) (label : String)
    (requestBytes : Bytes) (resp : Asn.InnerResponse) : Except Error (Response Code) :=
  match StaticBytes.fromBytes resp.requestHash with
  | none => .error .decode
  | some requestHash =>
    if requestHashMatches lib requestBytes requestHash then
      .ok ⟨code resp.responseCode,requestHash,
        resp.certificate.map (responseCertificate lib uninit label)⟩
    else .error .signatureInvalid

/-- `decode_ec_response` and `decode_at_response` differ in the tag they strip, the inner
structure they decode, the code enumeration and the label. -/
def decodeResponse {Code : Type} (td : Descriptor Asn.InnerResponse) (tag : UInt8)
    (code : Int → Code) (label : String) (uninit : HashedId8)
    (responseBytes recipientPrivateKey requestAesKey requestBytes : Bytes)
    (signerCert : CertInfo) : Except Error (Response Code) :=
  match Enc.decryptAndUnwrap lib responseBytes recipientPrivateKey requestAesKey tag
      signerCert with
  | .error e => .error e
  | .ok innerBytes => match Coer.decode td innerBytes with
    | none => .error .decode
    | some resp => readResponse lib uninit code label requestBytes resp

def decodeEcResponse (uninit : HashedId8)
    (responseBytes recipientPrivateKey requestAesKey requestBytes : Bytes)
    (signerCert : CertInfo) : Except Error EcResponse :=
  decodeResponse lib lib.asn.innerEcResponse 0x81 .ofLong "ec_response" uninit responseBytes
    recipientPrivateKey requestAesKey requestBytes signerCert

def decodeAtResponse (uninit : HashedId8)
    (responseBytes recipientPrivateKey requestAesKey requestBytes : Bytes)
    (signerCert : CertInfo) : Except Error AtResponse :=
  decodeResponse lib lib.asn.innerAtResponse 0x83 .ofLong "at_response" uninit responseBytes
    recipientPrivateKey requestAesKey requestBytes signerCert

theorem readResponse_ok {Code : Type} {uninit : HashedId8} {code : Int → Code}
    {label : String} {requestBytes : Bytes} {resp : Asn.InnerResponse} {r : Response Code} :
    readResponse lib uninit code label requestBytes resp=.ok r ↔
      r.responseCode=code resp.responseCode ∧ r.requestHash.toVector=resp.requestHash ∧
      r.certificate=resp.certificate.map (responseCertificate lib uninit label) ∧
      requestBytes≠[] ∧ resp.requestHash=(lib.ssl.sha256 requestBytes).toList.take 16 := by
  unfold readResponse
  cases hh : (StaticBytes.fromBytes resp.requestHash : Option (StaticBytes 16)) with
  | none =>
    simp only [reduceCtorEq,false_iff]
    intro h
    obtain ⟨_,hv,_⟩ := h
    rw [StaticBytes.fromBytes_some.mpr hv] at hh
    cases hh
  | some h =>
    have hv := StaticBytes.fromBytes_some.mp hh
    have hs := @requestHashMatches_spec lib requestBytes h
    dsimp only
    by_cases hm : requestHashMatches lib requestBytes h=true
    · have hreq := hs.mp hm
      rw [hv] at hreq
      rw [if_pos hm,Except.ok.injEq]
      constructor
      · intro h
        subst h
        exact ⟨rfl,hv,rfl,hreq⟩
      · intro h
        obtain ⟨h1,h2,h3,_⟩ := h
        have heq : h=r.requestHash := StaticBytes.ext (hv.trans h2.symm)
        rw [← h1,← h3,heq]
    · rw [if_neg hm]
      simp only [reduceCtorEq,false_iff]
      intro h
      obtain ⟨_,_,_,hreq⟩ := h
      rw [← hv] at hreq
      exact hm (hs.mpr hreq)

/-- Everything a decoder establishes about an accepted response. -/
theorem decodeResponse_ok {Code : Type} {td : Descriptor Asn.InnerResponse} {tag : UInt8}
    {code : Int → Code} {label : String} {uninit : HashedId8}
    {resp priv aes req : Bytes} {signer : CertInfo} {r : Response Code} :
    decodeResponse lib td tag code label uninit resp priv aes req signer=.ok r ↔
      ∃ m inner,Enc.authenticated? lib resp priv aes signer=some m ∧
        Coer.decode td (Enc.stripEtsiHeader tag m.payloadCoer)=some inner ∧
        readResponse lib uninit code label req inner=.ok r := by
  unfold decodeResponse
  constructor
  · intro h
    split at h
    · cases h
    rename_i inner hu
    obtain ⟨m,hm,rfl⟩ := (Enc.decryptAndUnwrap_ok lib).mp hu
    split at h
    · cases h
    · rename_i v hv
      exact ⟨m,v,hm,hv,h⟩
  · intro h
    obtain ⟨m,inner,hm,hd,hr⟩ := h
    rw [(Enc.decryptAndUnwrap_ok lib).mpr ⟨m,hm,rfl⟩]
    simp only [hd,hr]

end V2xPki
