import V2xPki.Client.Completion

namespace V2xPki

namespace PkiClient

open Framework

section
variable (lib : Lib)

/-- What the EA reads in a request all of whose proofs verify: the key to be certified. -/
def EaReads (ea : CertInfo) (decryptionKey request : Bytes) (pvk : Asn.PublicVerificationKey) :
    Prop :=
  ∃ data aesKey plaintext pub pop innerBytes inner keys,
    Coer.decode lib.asn.ieee1609Dot2Data request=some data ∧
    OpensTo lib ea decryptionKey data aesKey plaintext ∧
    SelfSigned lib plaintext pub (0x01::0x80::pop) ∧ SelfSigned lib pop pub innerBytes ∧
    Coer.decode lib.asn.innerEcRequest innerBytes=some inner ∧ inner.publicKeys=some keys ∧
    keys.verificationKey=some pvk

/-- The EA certifies the key that it reads in the request. -/
def CertifiesRequested (laws : CryptoLaws lib.ssl) (ea : CertInfo) (request : Bytes)
    (cert : Asn.CertificateBase) : Prop :=
  ∃ decryptionKey pvk,EncryptionKeyOf laws ea decryptionKey ∧
    EaReads lib ea decryptionKey request pvk ∧ Cert.verificationKey? cert=some pvk

/-- AA and EA take a ticket request apart, each with its own decryption key: the AA finds a
request that its holder signed, and in it, for the EA alone, a signature over the shared part that
verifies under the enrolment credential. -/
def Authenticates (aa ea ec : CertInfo) (aaKey eaKey request : Bytes) : Prop :=
  ∃ data aesKey plaintext pub innerBytes inner shared ecData ecAesKey signedExt,
    Coer.decode lib.asn.ieee1609Dot2Data request=some data ∧
    OpensTo lib aa aaKey data aesKey plaintext ∧
    SelfSigned lib plaintext pub (0x01::0x82::innerBytes) ∧
    Coer.decode lib.asn.innerAtRequest innerBytes=some inner ∧
    inner.sharedAtRequest=some shared ∧
    inner.ecSignature=some (.encryptedEcSignature (some ecData)) ∧
    OpensTo lib ea eaKey ecData ecAesKey signedExt ∧
    SignedExternally lib ec signedExt (Crypto.hashForCurve lib.ssl
      (Coer.encode lib.asn.sharedAtRequest shared) ec.curve)

end

section
variable {lib : Lib} {w : World} {laws : CryptoLaws lib.ssl} {s : ClientState}

theorem selfSigned_unique {coer pub pub' payload payload' : Bytes}
    (h : SelfSigned lib coer pub payload) (h' : SelfSigned lib coer pub' payload') :
    payload=payload' := by
  obtain ⟨m,hm,-,rfl,-⟩ := h
  obtain ⟨m',hm',-,rfl,-⟩ := h'
  rw [Option.some.inj (hm.symm.trans hm')]

/-- The EA can read a request that was built for it, and reads the key of the description. -/
theorem eaReads_iff (hcodec : lib.asn.ieee1609Dot2Data.RoundTrip)
    (hnull : ChecksPoints lib.asn.ieee1609Dot2Data) (hinner : lib.asn.innerEcRequest.RoundTrip)
    {desc : EcRequestDescription} {ea : CertInfo} {priv decryptionKey : Bytes} {entropy : EcEntropy}
    {req : RequestResult} {pvk : Asn.PublicVerificationKey}
    (hcurve : desc.curve∈Sign.supportedCurves)
    (hkey : KeyPairOn laws desc.curve priv desc.verificationKey.toVector)
    (hea : EncryptionKeyOf laws ea decryptionKey)
    (hdrawn : Crypto.DrawsScalar laws ea.encCurve entropy.ecies)
    (h : encodeEcRequest lib desc ea priv entropy=.ok req) :
    EaReads lib ea decryptionKey req.encoded.toVector pvk ↔
      pvk=requestVerificationKey desc.curve desc.verificationKey.toVector := by
  obtain ⟨innerBytes,pop,outer,ecies,hencode,hne,rfl,hpop,rfl,houter,hecies,hreq⟩ :=
    encodeEcRequest_ok h
  obtain ⟨data,hdecode,hopens⟩ := request_opens hcodec hnull hea hdrawn hecies hreq
  have houterBuilt := buildSelfSigned_selfSigned hcodec hcurve hkey (List.cons_ne_nil _ _) houter
  have hpopBuilt := buildSelfSigned_selfSigned hcodec hcurve hkey hne hpop
  have hread := Coer.decode_encode hinner hencode
  constructor
  · rintro ⟨data',aesKey,plaintext,pub,pop',innerBytes',inner,keys,hdecode',hopens',houterRead,
      hpopRead,hinnerRead,hkeys,hpvk⟩
    obtain rfl : data=data' := Option.some.inj (hdecode.symm.trans hdecode')
    -- the layers from the outside in
    obtain ⟨-,rfl⟩ := hopens.unique hopens'
    have hsame := selfSigned_unique houterBuilt houterRead
    obtain rfl := (List.cons.inj (List.cons.inj hsame).2).2
    rw [← selfSigned_unique hpopBuilt hpopRead,hread] at hinnerRead
    obtain rfl := Option.some.inj hinnerRead
    obtain rfl := Option.some.inj hkeys
    exact (Option.some.inj hpvk).symm
  · rintro rfl
    exact ⟨data,_,_,_,_,innerBytes,_,_,hdecode,hopens,houterBuilt,hpopBuilt,hread,rfl,rfl⟩

/-- A certificate is parsed to the SEC1 octets and the curve of the key it certifies. -/
theorem parseVerificationKey_of_sec1 {cert : Asn.CertificateBase} {pvk : Asn.PublicVerificationKey}
    {pub : Bytes} {curve : Curve} (hcert : Cert.verificationKey? cert=some pvk)
    (hsec1 : verificationSec1 pvk=some (pub,curve)) (hne : pub≠[]) :
    Cert.parseVerificationKey cert=(pub,curve) := by
  unfold Cert.parseVerificationKey
  rw [hcert]
  unfold verificationSec1 at hsec1
  cases pvk with
  | other o => cases hsec1
  | ecdsaNistP256 p | ecdsaBrainpoolP256r1 p | ecdsaBrainpoolP384r1 p | ecdsaNistP384 p =>
    obtain ⟨rfl,rfl⟩ := Prod.mk.inj (Option.some.inj hsec1)
    cases p with
    | none => exact absurd rfl hne
    | some p => rfl

theorem granted_key {cert : Asn.CertificateBase} {curve : Curve} {priv point : Bytes}
    (hcurve : curve∈Sign.supportedCurves) (hkey : KeyPairOn laws curve priv point)
    (hcert : Cert.verificationKey? cert=some (requestVerificationKey curve point)) (a : Answer)
    (parsed label : String) :
    (granted lib a parsed label cert).publicKey.toVector=compressedPoint curve point ∧
      (granted lib a parsed label cert).curve=curve := by
  have hparsed := parseVerificationKey_of_sec1 hcert (verificationSec1_request hcurve hkey)
    (List.cons_ne_nil _ _)
  have hlen : (compressedPoint curve point).length ≤ kP384PublicKeyLen := by
    rw [compressedPoint_length hkey.exported.1]
    cases curve <;> decide
  have hpublic : (granted lib a parsed label cert).publicKey=
      .orEmpty (Cert.parseVerificationKey cert).1 := rfl
  have hon : (granted lib a parsed label cert).curve=(Cert.parseVerificationKey cert).2 := rfl
  rw [hpublic,hon,hparsed,StaticBytes.orEmpty_toVector,if_pos hlen]
  exact ⟨rfl,rfl⟩

/-- A ticket request made with the credential of a key pair is good for AA and EA. -/
theorem atRequest_authenticates (hcodec : lib.asn.ieee1609Dot2Data.RoundTrip)
    (hnull : ChecksPoints lib.asn.ieee1609Dot2Data)
    (hsharedCodec : lib.asn.sharedAtRequest.RoundTrip)
    (hinnerCodec : lib.asn.innerAtRequest.RoundTrip)
    (hinnerNull : ChecksSignaturePoints lib.asn.innerAtRequest)
    {desc : AtRequestDescription} {aa ea ec : CertInfo} {ecPriv atPriv point aaKey eaKey : Bytes}
    {entropy : AtEntropy} {req : RequestResult} (hsame : desc.curve=ec.curve)
    (hcurve : ec.curve∈Sign.supportedCurves)
    (hat : KeyPairOn laws desc.curve atPriv desc.verificationKey.toVector)
    (hec : KeyPairOn laws ec.curve ecPriv point)
    (hpub : PublicForm ec.curve point ec.publicKey.toVector) (hbytes : ec.certBytes.toVector≠[])
    (haa : EncryptionKeyOf laws aa aaKey) (hea : EncryptionKeyOf laws ea eaKey)
    (hdrawnAa : Crypto.DrawsScalar laws aa.encCurve entropy.eciesAa)
    (hdrawnEa : Crypto.DrawsScalar laws ea.encCurve entropy.eciesEa)
    (h : encodeAtRequest lib desc aa ea ec ecPriv atPriv entropy=.ok req) :
    Authenticates lib aa ea ec aaKey eaKey req.encoded.toVector := by
  obtain ⟨innerBytes,outer,ecies,hinner,rfl,houter,hecies,hreq⟩ := encodeAtRequest_ok h
  obtain ⟨pvk,sharedCoer,e,shared,-,hsharedEncode,he,hsharedDecode,hinnerEncode⟩ :=
    innerAtRequestBytes_ok hinner
  obtain ⟨signedExt,eciesEa,rfl,hsigned,heciesEa,rfl⟩ := encryptedEcSignature_ok he
  obtain rfl := Option.some.inj
    (hsharedDecode.symm.trans (Coer.decode_encode hsharedCodec hsharedEncode))
  obtain ⟨data,hdecode,hopens⟩ := request_opens hcodec hnull haa hdrawnAa hecies hreq
  have hself := buildSelfSigned_selfSigned hcodec (hsame ▸ hcurve) hat (List.cons_ne_nil _ _) houter
  have hread := Coer.decode_encode hinnerCodec hinnerEncode
  have hopensEa := encryptTo_opens hea hdrawnEa heciesEa (hinnerNull _ _ hinnerEncode _ rfl)
  -- the hash was taken of the copy that is embedded
  have hcopy : Coer.encode lib.asn.sharedAtRequest (sharedAtRequest lib desc
      (Coer.encode lib.asn.publicVerificationKey pvk))=sharedCoer := by
    rw [Coer.encode,hsharedEncode,Option.getD_some]
  rw [hsame] at hsigned hopensEa
  have hexternal := buildExternalPayload_signed hcodec hcurve hec hpub hbytes hsigned
  rw [← hcopy] at hexternal hopensEa
  exact ⟨data,_,_,_,innerBytes,_,_,_,_,_,hdecode,hopens,hself,hread,rfl,rfl,hopensEa,hexternal⟩

theorem atPosting_ecKey {ecHandle atHandle : KeyHandle} {ecCert : CertInfo} {rec : AtRecord}
    {p : AtPosting} (h : atPosting lib w ecHandle ecCert atHandle rec s=some p) :
    (w.setting s.events).loadKeypair ecHandle=some p.ecKey := by
  simp only [atPosting,Option.bind_eq_bind,Option.bind_eq_some_iff] at h
  obtain ⟨-,-,kp,hkp,aa,-,ea,-,atKp,-,req,-,hp⟩ := h
  cases hp
  exact hkp

/-- Enrolment is good for what it is made for: the credential of a station that enrolled with an
EA that certifies what it is asked to is one under which AA and EA can authenticate every ticket
request that the station makes with the enrolled key later, in whatever state it then is. -/
theorem enrolled_station_authenticated (laws : CryptoLaws lib.ssl)
    (hcodec : lib.asn.ieee1609Dot2Data.RoundTrip) (hnull : ChecksPoints lib.asn.ieee1609Dot2Data)
    (hinner : lib.asn.innerEcRequest.RoundTrip) (hresponse : lib.asn.innerEcResponse.RoundTrip)
    (hsharedCodec : lib.asn.sharedAtRequest.RoundTrip)
    (hinnerAt : lib.asn.innerAtRequest.RoundTrip)
    (hinnerNull : ChecksSignaturePoints lib.asn.innerAtRequest)
    {canonical : KeyHandle} {rec : EcRecord} {p : EcPosting} {cert : Asn.CertificateBase}
    (hp : ecPosting lib w canonical rec s=some p)
    (hmatch : MatchesRecord laws p.key rec.canonicalPublicKey rec.curve)
    (hcurve : rec.curve∈Sign.supportedCurves)
    (hdrawn : Crypto.DrawsScalar laws p.ea.encCurve (w.setting s.events).ecEntropy.ecies)
    (hanswered : AnsweredBy lib w laws s lib.asn.innerEcResponse 0x81 "ec_response" "ec" p.ea
      s.config.eaUrl p.request.encoded.toVector cert)
    (hcertifies : CertifiesRequested lib laws p.ea p.request.encoded.toVector cert)
    (hfits : Coer.encode lib.asn.certificateBase cert≠[] ∧
      (Coer.encode lib.asn.certificateBase cert).length ≤ kMaxCoerMessageLen) :
    ∃ ec t,Op.exec (requestEnrolmentCredential lib w canonical rec) s=(.ok ec,t) ∧
      t.trust.findByHashedId8 ec.hashedId8=some ec ∧
      ∀ (w' : World) (u : ClientState) (ecHandle atHandle : KeyHandle) (rec' : AtRecord)
        (q : AtPosting) (aaKey eaKey : Bytes),
        atPosting lib w' ecHandle ec atHandle rec' u=some q →
        (w'.setting u.events).loadKeypair ecHandle=some p.key → rec'.curve=rec.curve →
        KeyPairOn laws rec'.curve q.atKey.privateKey.toVector q.atKey.publicKey.toVector →
        EncryptionKeyOf laws q.aa aaKey → EncryptionKeyOf laws q.ea eaKey →
        Crypto.DrawsScalar laws q.aa.encCurve (w'.setting u.events).atEntropy.eciesAa →
        Crypto.DrawsScalar laws q.ea.encCurve (w'.setting u.events).atEntropy.eciesEa →
        Authenticates lib q.aa q.ea ec aaKey eaKey q.request.encoded.toVector := by
  obtain ⟨-,-,hdesc,hreq⟩ := ecPosting_some hp
  obtain ⟨hpublic,hpair⟩ := hmatch
  have hkey : KeyPairOn laws p.desc.curve p.key.privateKey.toVector
      p.desc.verificationKey.toVector := by
    rw [hdesc]
    rw [hpublic] at hpair
    exact hpair
  have hon : p.desc.curve=rec.curve := by
    rw [hdesc]
    rfl
  obtain ⟨decryptionKey,pvk,hea,hreads,hcert⟩ := hcertifies
  obtain rfl := (eaReads_iff hcodec hnull hinner (hon ▸ hcurve) hkey hea hdrawn hreq).mp hreads
  have hgranted := @granted_key lib laws cert _ _ _ (hon ▸ hcurve) hkey hcert
    (answerTo w s s.config.eaUrl p.request.encoded.toVector) "ec_response" "ec"
  have hrun := enrolment_completes hcodec hnull hresponse hp hdrawn hanswered
  have hbytes : (granted lib (answerTo w s s.config.eaUrl p.request.encoded.toVector) "ec_response"
      "ec" cert).certBytes.toVector=Coer.encode lib.asn.certificateBase cert := by
    exact (StaticBytes.orEmpty_toVector _).trans (if_pos hfits.2)
  generalize granted lib (answerTo w s s.config.eaUrl p.request.encoded.toVector) "ec_response" "ec"
    cert=ec at hgranted hrun hbytes
  obtain ⟨hecKey,hecCurve⟩ := hgranted
  refine ⟨ec,_,hrun,?_,?_⟩
  · have hstored := TrustChain.find_addCert s.trust ec ec.hashedId8
    rw [if_pos rfl] at hstored
    exact hstored
  · intro w' u ecHandle atHandle rec' q aaKey eaKey hq hload hsame hat haa heaKey hdrawnAa hdrawnEa
    obtain ⟨-,-,hqCurve,hqKey,hqReq⟩ := atPosting_some hq
    have hown : q.ecKey=p.key := Option.some.inj ((atPosting_ecKey hq).symm.trans hload)
    have hcurves : q.desc.curve=ec.curve := by
      rw [hqCurve,hsame,hecCurve,hon]
    rw [hown] at hqReq
    rw [← hecCurve] at hkey hecKey
    apply atRequest_authenticates hcodec hnull hsharedCodec hinnerAt hinnerNull hcurves
      _ _ hkey (.inr hecKey) _ haa heaKey hdrawnAa hdrawnEa hqReq
    · rw [hecCurve,hon]
      exact hcurve
    · rw [hqCurve,hqKey]
      exact hat
    · rw [hbytes]
      exact hfits.1

end

end PkiClient

namespace Sample

open Framework PkiClient

/-- The ticket request of the newcomer is good for the CA that enrolled it. -/
theorem newcomer_authenticated :
    ∃ ec t,Op.exec (requestEnrolmentCredential sessionLib sessionServer canonical newcomer)
        newcomerState=(.ok ec,t) ∧
      ec.certBytes.toVector=newcomerCert.1 ∧
      Authenticates sessionLib soleCa soleCa ec (binpad 32 7) (binpad 32 7) tripRequest.1 := by
  obtain ⟨hcodec,hnull,hinner,hresponse,hshared,hinnerAt,-⟩ := session_codec
  obtain ⟨hanswering,hdrawn⟩ := soleCa_answering
  obtain ⟨p,hp,hown,hca,hrequest,hanswered,hcert⟩ := newcomer_posting
  obtain ⟨q,hq,haa,hqea,hqkey,hqrequest,-⟩ := trip_posting
  obtain ⟨-,-,hdesc,hreq⟩ := ecPosting_some hp
  have hbytes : ∀ d,d∈[20,22] → (keyPair d).privateKey.toVector=binpad 32 d ∧
      (keyPair d).publicKey.toVector=pointOf .nistP256 d := by decide +kernel
  have hpair : ∀ d,d∈[20,22] → KeyPairOn sessionLaws .nistP256 (keyPair d).privateKey.toVector
      (keyPair d).publicKey.toVector := by
    intro d hd
    rw [(hbytes d hd).1,(hbytes d hd).2]
    have hrange : 0<d ∧ d<256^32 := by
      simp at hd
      omega
    exact keyPairOn_pointOf hrange.1 hrange.2
  have hpoints : ChecksSignaturePoints sessionLib.asn.innerAtRequest := by
    intro v b hb e he
    obtain ⟨entry,hentry,rfl⟩ := Codec.table_encode_mem hb
    obtain rfl := List.mem_singleton.mp hentry
    obtain rfl : tripEcSignature.2=e := by
      simpa [tripInner] using he
    decide +kernel
  have hcertifies : CertifiesRequested sessionLib sessionLaws p.ea p.request.encoded.toVector
      newcomerCert.2 := by
    rw [hca] at hreq ⊢
    rw [hdesc] at hreq
    rw [hown] at hreq
    exact ⟨_,_,hanswering.decrypts,(eaReads_iff hcodec hnull hinner
      (by decide) (hpair 20 (by decide)) hanswering.decrypts hdrawn hreq).mpr rfl,
      by decide +kernel⟩
  obtain ⟨ec,t,hrun,-,hlater⟩ := enrolled_station_authenticated sessionLaws hcodec hnull hinner
    hresponse hshared hinnerAt hpoints hp ⟨congrArg KeyPair.publicKey hown,hown ▸ hpair 20 (by decide)⟩
    (by decide) (hca ▸ hdrawn) hanswered hcertifies ⟨by decide +kernel,by decide +kernel⟩
  have hcompletes := enrolment_completes hcodec hnull hresponse hp (hca ▸ hdrawn) hanswered
  rw [hrequest] at hcompletes
  obtain ⟨hec,-⟩ := Prod.mk.inj (hrun.symm.trans hcompletes)
  obtain rfl : ec=newcomerEc := Except.ok.inj hec
  refine ⟨newcomerEc,t,hrun,hcert,?_⟩
  rw [← hqrequest]
  have hauth := hlater sessionServer newcomerEnrolled canonical atHandle tripRecord q (binpad 32 7)
    (binpad 32 7) hq (by rw [hown]; rfl) rfl (hqkey ▸ hpair 22 (by decide))
  rw [haa,hqea] at hauth
  exact hauth hanswering.decrypts hanswering.decrypts hdrawn hdrawn

end Sample

end V2xPki
