import V2xPki.Request.Authenticity

namespace V2xPki

section
variable (lib : Lib)

/-- The payload is an `EtsiTs102941Data` of version 1 with the given content tag. -/
def HeadedBy (tag : UInt8) (payload : Bytes) : Prop := ∃ rest,payload=0x01::tag::rest

/-- The payload as a whole is an inner response that carries the hash of the request. -/
def AnswersBare (td : Descriptor Asn.InnerResponse) (requestBytes payload : Bytes) : Prop :=
  ∃ inner,Coer.decode td payload=some inner ∧ requestBytes≠[] ∧
    inner.requestHash=(lib.ssl.sha256 requestBytes).toList.take 16

theorem stripEtsiHeader_of_not_headed {tag : UInt8} {payload : Bytes}
    (h : ¬HeadedBy tag payload) : Enc.stripEtsiHeader tag payload=payload := by
  rcases stripEtsiHeader_cases tag payload with hs | hs
  · exact hs
  · exact absurd ⟨_,hs⟩ h

/-- A response is read without its header exactly when the bare payload answers. -/
theorem decodeResponse_of_bare {Code : Type} {td : Descriptor Asn.InnerResponse}
    {tag : UInt8} {code : Int → Code} {label : String} {uninit : HashedId8}
    {resp priv aes req : Bytes} {signer : CertInfo} {m : SignedMsg.SignedMessage}
    (ha : Enc.authenticated? lib resp priv aes signer=some m)
    (hn : ¬HeadedBy tag m.payloadCoer) :
    (∃ r,decodeResponse lib td tag code label uninit resp priv aes req signer=.ok r) ↔
      AnswersBare lib td req m.payloadCoer := by
  have hstrip := stripEtsiHeader_of_not_headed hn
  constructor
  · intro h
    obtain ⟨r,h⟩ := h
    obtain ⟨m',inner,ha',hd,hr⟩ := (decodeResponse_ok lib).mp h
    obtain rfl : m=m' := Option.some.inj (ha.symm.trans ha')
    rw [hstrip] at hd
    have hread := (readResponse_ok lib).mp hr
    exact ⟨inner,hd,hread.2.2.2.1,hread.2.2.2.2⟩
  · intro h
    obtain ⟨inner,hd,hne,hh⟩ := h
    have hlen : inner.requestHash.length≤16 := by simp [hh]
    refine ⟨⟨code inner.responseCode,⟨inner.requestHash,hlen⟩,
      inner.certificate.map (responseCertificate lib uninit label)⟩,?_⟩
    refine (decodeResponse_ok lib).mpr ⟨m,inner,ha,by rw [hstrip]; exact hd,?_⟩
    exact (readResponse_ok lib).mpr ⟨rfl,rfl,rfl,hne,hh⟩

/-- A decoder keeps to the expected message type on an input exactly when the signed
payload there is headed, or does not by itself answer the request. -/
theorem decodeResponse_headed_iff {Code : Type} (td : Descriptor Asn.InnerResponse)
    (tag : UInt8) (code : Int → Code) (label : String) (uninit : HashedId8)
    (resp priv aes req : Bytes) (signer : CertInfo) :
    (∀ r,decodeResponse lib td tag code label uninit resp priv aes req signer=.ok r →
      ∃ m,Enc.authenticated? lib resp priv aes signer=some m ∧ HeadedBy tag m.payloadCoer) ↔
    ∀ m,Enc.authenticated? lib resp priv aes signer=some m →
      AnswersBare lib td req m.payloadCoer → HeadedBy tag m.payloadCoer := by
  constructor
  · intro h m ha hb
    by_contra hn
    have hread : ∃ r,decodeResponse lib td tag code label uninit resp priv aes req signer=
        .ok r := (decodeResponse_of_bare lib ha hn).mpr hb
    obtain ⟨r,hr⟩ := hread
    obtain ⟨m',ha',hh⟩ := h r hr
    obtain rfl : m=m' := Option.some.inj (ha.symm.trans ha')
    exact hn hh
  · intro h r hr
    obtain ⟨m,_,ha,_,_⟩ := (decodeResponse_ok lib).mp hr
    refine ⟨m,ha,?_⟩
    by_contra hn
    exact hn (h m ha ((decodeResponse_of_bare lib ha hn).mp ⟨r,hr⟩))

/-- Both decoders: accepted payloads are headed exactly when no unheaded payload of an
authenticated message answers the request by itself. -/
theorem response_type_discipline_iff (uninit : HashedId8) (resp priv aes req : Bytes)
    (signer : CertInfo) :
    ((∀ r,decodeEcResponse lib uninit resp priv aes req signer=.ok r →
        ∃ m,Enc.authenticated? lib resp priv aes signer=some m ∧
          HeadedBy 0x81 m.payloadCoer) ↔
      ∀ m,Enc.authenticated? lib resp priv aes signer=some m →
        AnswersBare lib lib.asn.innerEcResponse req m.payloadCoer →
        HeadedBy 0x81 m.payloadCoer) ∧
    ((∀ r,decodeAtResponse lib uninit resp priv aes req signer=.ok r →
        ∃ m,Enc.authenticated? lib resp priv aes signer=some m ∧
          HeadedBy 0x83 m.payloadCoer) ↔
      ∀ m,Enc.authenticated? lib resp priv aes signer=some m →
        AnswersBare lib lib.asn.innerAtResponse req m.payloadCoer →
        HeadedBy 0x83 m.payloadCoer) :=
  ⟨decodeResponse_headed_iff lib _ _ _ _ _ _ _ _ _ _,
    decodeResponse_headed_iff lib _ _ _ _ _ _ _ _ _ _⟩

end

namespace Sample

/-- The inner response signed as it is, without an `EtsiTs102941Data` around it. -/
def barePayload : Bytes := answer.1

theorem bare_reply_accepted :
    (decodeEcResponse (replyLib barePayload) .zero (reply barePayload).1 recipientKey
        requestAesKey request (replySigner barePayload)=.ok (answerEc barePayload) ∧
      decodeAtResponse (replyLib barePayload) .zero (reply barePayload).1 recipientKey
        requestAesKey request (replySigner barePayload)=.ok (answerAt barePayload)) ∧
    ∀ tag m,Enc.authenticated? (replyLib barePayload) (reply barePayload).1 recipientKey
      requestAesKey (replySigner barePayload)=some m → ¬HeadedBy tag m.payloadCoer := by
  refine ⟨⟨by decide +kernel,by decide +kernel⟩,?_⟩
  intro tag m hm h
  obtain ⟨rest,hh⟩ := h
  have hp : (Enc.authenticated? (replyLib barePayload) (reply barePayload).1 recipientKey
      requestAesKey (replySigner barePayload)).map (·.payloadCoer.head?)=some (some 0x40) := by
    decide +kernel
  rw [hm,Option.map_some,hh] at hp
  simp at hp

end Sample

end V2xPki
