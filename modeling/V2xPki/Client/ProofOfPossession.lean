import V2xPki.Client.Posting
import V2xPki.Client.TlmPin
import V2xPki.Sample.Enrolment
import V2xPki.Request.Layers

namespace V2xPki

section
variable (lib : Lib)

/-- A self-signed envelope around `payload` that verifies under `pub` on `curve`. -/
def PopVerifies (coer pub payload : Bytes) (curve : Curve) : Prop :=
  ∃ m,SignedMsg.unwrap lib coer=some m ∧ m.hasSignerDigest=false ∧ m.payloadCoer=payload ∧
    m.sigCurve=curve ∧ SignedMsg.verify lib m pub []=true

/-- Both proofs of possession in an enrolment request verify under the key in it, on the curve
that the alternative of this key names. -/
def EcPopsVerify (ea : CertInfo) (entropy : EcEntropy) (body : Bytes) : Prop :=
  ∃ outer pop innerBytes inner keys pvk pub curve,
    SealedFor lib ea entropy.ecies outer body ∧
    PopVerifies lib outer pub (0x01::0x80::pop) curve ∧
    PopVerifies lib pop pub innerBytes curve ∧
    Coer.decode lib.asn.innerEcRequest innerBytes=some inner ∧
    inner.publicKeys=some keys ∧ keys.verificationKey=some pvk ∧
    verificationSec1 pvk=some (pub,curve)

/-- The outer proof of possession in an authorization request verifies under the key in it. -/
def AtPopVerifies (aa : CertInfo) (entropy : AtEntropy) (body : Bytes) : Prop :=
  ∃ outer innerBytes inner keys pvk pub curve,
    SealedFor lib aa entropy.eciesAa outer body ∧
    PopVerifies lib outer pub (0x01::0x82::innerBytes) curve ∧
    Coer.decode lib.asn.innerAtRequest innerBytes=some inner ∧
    inner.publicKeys=some keys ∧ keys.verificationKey=some pvk ∧
    verificationSec1 pvk=some (pub,curve)

end

/-- A record's key and curve are those of a stored key pair. -/
def MatchesRecord {ssl : OpenSsl} (laws : CryptoLaws ssl) (kp : KeyPair)
    (key : StaticBytes kP384PublicKeyLen) (curve : Curve) : Prop :=
  kp.publicKey=key ∧ KeyPairOn laws curve kp.privateKey.toVector kp.publicKey.toVector

/-- The point of a verification key, a mandatory member. -/
def KeyPresent : Asn.PublicVerificationKey → Prop
  | .ecdsaNistP256 p => p≠none
  | .ecdsaBrainpoolP256r1 p => p≠none
  | .ecdsaBrainpoolP384r1 p => p≠none
  | .ecdsaNistP384 p => p≠none
  | .other _ => True

instance : (pvk : Asn.PublicVerificationKey) → Decidable (KeyPresent pvk)
  | .ecdsaNistP256 p => inferInstanceAs (Decidable (p≠none))
  | .ecdsaBrainpoolP256r1 p => inferInstanceAs (Decidable (p≠none))
  | .ecdsaBrainpoolP384r1 p => inferInstanceAs (Decidable (p≠none))
  | .ecdsaNistP384 p => inferInstanceAs (Decidable (p≠none))
  | .other _ => inferInstanceAs (Decidable True)

/-- The encoders fail on a null pointer where the point of the key is mandatory. -/
structure ChecksKeys (asn : Asn1c) : Prop where
  innerEcRequest : ∀ v b,asn.innerEcRequest.encode v=some b →
    ∀ keys pvk,v.publicKeys=some keys → keys.verificationKey=some pvk → KeyPresent pvk
  publicVerificationKey : ∀ v b,asn.publicVerificationKey.encode v=some b → KeyPresent v

section
variable {lib : Lib} {laws : CryptoLaws lib.ssl} {curve : Curve} {priv point : Bytes}

/-- A key pair whose key has an ASN.1 form in a request is on a supported curve. -/
theorem supported_of_keyPresent (hkey : KeyPairOn laws curve priv point)
    (h : KeyPresent (requestVerificationKey curve point)) : curve∈Sign.supportedCurves := by
  cases curve with
  | nistP256 => decide
  | brainpoolP256r1 => decide
  | brainpoolP384r1 => decide
  | nistP384 =>
    exfalso
    apply h
    have hlen : point.length=97 := hkey.exported.1
    exact if_pos (by rw [hlen]; decide)

/-- A self-signed envelope that came out of the builder verifies under the key in the form a
request carries it in, on its curve. -/
theorem buildSelfSigned_popVerifies (hcodec : lib.asn.ieee1609Dot2Data.RoundTrip)
    (hcurve : curve∈Sign.supportedCurves) (hkey : KeyPairOn laws curve priv point)
    {payload : Bytes} (hp : payload≠[]) {entropy : Sign.EnvelopeEntropy}
    (hne : Sign.buildSelfSigned lib payload priv curve entropy≠[]) :
    PopVerifies lib (Sign.buildSelfSigned lib payload priv curve entropy)
      (compressedPoint curve point) payload curve := by
  obtain ⟨m,hm,hpayload,-,hdigest,hon,hverify⟩ := Sign.envelope_verifies (Sign.supported_ne hcurve)
    hkey hp entropy (fun hc => absurd rfl hc) (Sign.body_of_finalize hne)
    fun sig hsign => Sign.decode_of_finalize hcodec hne hsign
  exact ⟨m,hm,hdigest,hpayload,hon,hverify _ (.inr rfl)⟩

variable {desc : EcRequestDescription} {ea : CertInfo} {entropy : EcEntropy} {req : RequestResult}

/-- With a key pair on the curve of the description, both proofs verify. -/
theorem encodeEcRequest_pops (hdata : lib.asn.ieee1609Dot2Data.RoundTrip)
    (hinner : lib.asn.innerEcRequest.RoundTrip) (hnull : ChecksKeys lib.asn)
    (hkey : KeyPairOn laws desc.curve priv desc.verificationKey.toVector)
    (h : encodeEcRequest lib desc ea priv entropy=.ok req) :
    EcPopsVerify lib ea entropy req.encoded.toVector := by
  obtain ⟨innerBytes,pop,outer,ecies,hencode,hne,rfl,hpop,rfl,houter,hecies,hreq⟩ :=
    encodeEcRequest_ok h
  have hpresent := hnull.innerEcRequest _ _ hencode _ _ rfl rfl
  have hcurve := supported_of_keyPresent hkey hpresent
  exact ⟨_,_,innerBytes,innerEcRequest desc,_,_,_,desc.curve,sealedFor_request hecies hreq,
    buildSelfSigned_popVerifies hdata hcurve hkey (List.cons_ne_nil _ _) houter,
    buildSelfSigned_popVerifies hdata hcurve hkey hne hpop,Coer.decode_encode hinner hencode,rfl,rfl,
    verificationSec1_request hcurve hkey⟩

variable {atDesc : AtRequestDescription} {aa ec : CertInfo} {ecPriv : Bytes}
variable {atEntropy : AtEntropy}

/-- A request only comes to be when its key has an encoding. -/
theorem innerAtRequestBytes_key {innerBytes : Bytes}
    (h : innerAtRequestBytes lib atDesc ea ec ecPriv atEntropy=.ok innerBytes) :
    Coer.encode lib.asn.publicVerificationKey
      (requestVerificationKey atDesc.curve atDesc.verificationKey.toVector)≠[] := by
  intro hnil
  unfold innerAtRequestBytes at h
  simp only [hnil,List.isEmpty_nil,if_true] at h
  cases h

theorem encodeAtRequest_pop (hdata : lib.asn.ieee1609Dot2Data.RoundTrip)
    (hinner : lib.asn.innerAtRequest.RoundTrip) (hnull : ChecksKeys lib.asn)
    (hkey : KeyPairOn laws atDesc.curve priv atDesc.verificationKey.toVector)
    (h : encodeAtRequest lib atDesc aa ea ec ecPriv priv atEntropy=.ok req) :
    AtPopVerifies lib aa atEntropy req.encoded.toVector := by
  obtain ⟨innerBytes,outer,ecies,hbytes,rfl,houter,hecies,hreq⟩ := encodeAtRequest_ok h
  have hoer := Coer.encode_ne_nil (innerAtRequestBytes_key hbytes)
  have hcurve := supported_of_keyPresent hkey (hnull.publicVerificationKey _ _ hoer)
  obtain ⟨pvk,sharedCoer,e,shared,rfl,-,-,-,hencode⟩ := innerAtRequestBytes_ok hbytes
  exact ⟨_,innerBytes,_,_,_,_,atDesc.curve,sealedFor_request hecies hreq,
    buildSelfSigned_popVerifies hdata hcurve hkey (List.cons_ne_nil _ _) houter,
    Coer.decode_encode hinner hencode,rfl,rfl,verificationSec1_request hcurve hkey⟩

end

namespace PkiClient

open Framework

section
variable (lib : Lib) (laws : CryptoLaws lib.ssl) (w : World)

/-- What a call promises that finds `load` under its handle: every body it POSTs is good, and
with a key pair that is not the right one it fails and POSTs none. -/
structure PopHeld (load : Option KeyPair) (right : KeyPair → Prop) (good : Bytes → Prop)
    (log : List Event) (out : Except Error CertInfo × ClientState) : Prop where
  verified : ∀ body∈posted log out.2.events,good body
  mismatch : ∀ kp,load=some kp → ¬right kp →
    (∃ e,out.1=.error e) ∧ posted log out.2.events=[]

def EcPopHeld (canonical : KeyHandle) (rec : EcRecord) (s : ClientState) : Prop :=
  PopHeld ((w.setting s.events).loadKeypair canonical)
    (MatchesRecord laws · rec.canonicalPublicKey rec.curve)
    (fun body => ∃ ea,s.trust.findByHashedId8 rec.eaHashedId8=some ea ∧
      EcPopsVerify lib ea (w.setting s.events).ecEntropy body)
    s.events (Op.exec (requestEnrolmentCredential lib w canonical rec) s)

def AtPopHeld (ecHandle : KeyHandle) (ecCert : CertInfo) (atHandle : KeyHandle) (rec : AtRecord)
    (s : ClientState) : Prop :=
  PopHeld ((w.setting s.events).loadKeypair atHandle)
    (MatchesRecord laws · rec.atPublicKey rec.curve)
    (fun body => ∃ aa,s.trust.findByHashedId8 rec.aaHashedId8=some aa ∧
      AtPopVerifies lib aa (w.setting s.events).atEntropy body)
    s.events (Op.exec (requestAuthorizationTicket lib w ecHandle ecCert atHandle rec) s)

end

/-- A call that POSTs what it prepared, under a key it loaded, keeps its promise exactly if it
prepares nothing under a wrong key. -/
theorem popHeld_iff {π : Type} {prepared : Option π} {key : π → KeyPair} {body : π → Bytes}
    {load : Option KeyPair} {right : KeyPair → Prop} {good : Bytes → Prop} {log : List Event}
    {out : Except Error CertInfo × ClientState}
    (hposted : posted log out.2.events=(prepared.map body).toList)
    (hfails : prepared=none → ∃ e,out.1=.error e)
    (hload : ∀ p,prepared=some p → load=some (key p))
    (hgood : ∀ p,prepared=some p → right (key p) → good (body p)) :
    PopHeld load right good log out ↔ ∀ p,prepared=some p → right (key p) := by
  constructor
  · intro held p hp
    by_contra hwrong
    have hnone := (held.mismatch (key p) (hload p hp) hwrong).2
    rw [hposted,hp] at hnone
    cases hnone
  · intro hall
    constructor
    · intro b hb
      rw [hposted,Option.mem_toList,Option.map_eq_some_iff] at hb
      obtain ⟨p,hp,rfl⟩ := hb
      exact hgood p hp (hall p hp)
    · intro kp hkp hwrong
      have hnone : prepared=none := by
        cases hp : prepared with
        | none => rfl
        | some p =>
          obtain rfl := Option.some.inj (hkp.symm.trans (hload p hp))
          exact absurd (hall p hp) hwrong
      refine ⟨hfails hnone,?_⟩
      rw [hposted,hnone]
      rfl

section
variable {lib : Lib} {laws : CryptoLaws lib.ssl} {w : World} {s : ClientState}

theorem ecPosting_some {canonical : KeyHandle} {rec : EcRecord} {p : EcPosting}
    (h : ecPosting lib w canonical rec s=some p) :
    (w.setting s.events).loadKeypair canonical=some p.key ∧
    s.trust.findByHashedId8 rec.eaHashedId8=some p.ea ∧
    p.desc=assembleEcRequest rec (w.setting s.events).unixNow ∧
    encodeEcRequest lib p.desc p.ea p.key.privateKey.toVector (w.setting s.events).ecEntropy=
      .ok p.request := by
  simp only [ecPosting,Option.bind_eq_bind,Option.bind_eq_some_iff,toOption_eq_some] at h
  obtain ⟨-,-,kp,hkp,ea,hea,req,hreq,hp⟩ := h
  cases hp
  exact ⟨hkp,hea,rfl,hreq⟩

theorem atPosting_some {ecHandle atHandle : KeyHandle} {ecCert : CertInfo} {rec : AtRecord}
    {p : AtPosting} (h : atPosting lib w ecHandle ecCert atHandle rec s=some p) :
    (w.setting s.events).loadKeypair atHandle=some p.atKey ∧
    s.trust.findByHashedId8 rec.aaHashedId8=some p.aa ∧
    p.desc.curve=rec.curve ∧ p.desc.verificationKey=p.atKey.publicKey ∧
    encodeAtRequest lib p.desc p.aa p.ea ecCert p.ecKey.privateKey.toVector
      p.atKey.privateKey.toVector (w.setting s.events).atEntropy=.ok p.request := by
  simp only [atPosting,Option.bind_eq_bind,Option.bind_eq_some_iff,toOption_eq_some] at h
  obtain ⟨-,-,kp,-,aa,haa,ea,-,atKp,hat,req,hreq,hp⟩ := h
  cases hp
  exact ⟨hat,haa,rfl,rfl,hreq⟩

theorem ecPopHeld_iff (hdata : lib.asn.ieee1609Dot2Data.RoundTrip)
    (hinner : lib.asn.innerEcRequest.RoundTrip) (hnull : ChecksKeys lib.asn)
    (canonical : KeyHandle) (rec : EcRecord) :
    EcPopHeld lib laws w canonical rec s ↔
      ∀ p,ecPosting lib w canonical rec s=some p →
        MatchesRecord laws p.key rec.canonicalPublicKey rec.curve := by
  obtain ⟨hposted,hfails⟩ := requestEnrolmentCredential_posts lib w canonical rec s
  apply popHeld_iff hposted hfails
  · intro p hp
    exact (ecPosting_some hp).1
  · intro p hp hmatch
    obtain ⟨-,hea,hdesc,hreq⟩ := ecPosting_some hp
    have hkey : KeyPairOn laws p.desc.curve p.key.privateKey.toVector
        p.desc.verificationKey.toVector := by
      rw [hdesc]
      obtain ⟨hpub,hpair⟩ := hmatch
      rw [hpub] at hpair
      exact hpair
    exact ⟨p.ea,hea,encodeEcRequest_pops hdata hinner hnull hkey hreq⟩

theorem atPopHeld_iff (hdata : lib.asn.ieee1609Dot2Data.RoundTrip)
    (hinner : lib.asn.innerAtRequest.RoundTrip) (hnull : ChecksKeys lib.asn)
    (ecHandle : KeyHandle) (ecCert : CertInfo) (atHandle : KeyHandle) (rec : AtRecord) :
    AtPopHeld lib laws w ecHandle ecCert atHandle rec s ↔
      ∀ p,atPosting lib w ecHandle ecCert atHandle rec s=some p →
        MatchesRecord laws p.atKey rec.atPublicKey rec.curve := by
  obtain ⟨hposted,hfails⟩ :=
    requestAuthorizationTicket_posts lib w ecHandle ecCert atHandle rec s
  apply popHeld_iff hposted hfails
  · intro p hp
    exact (atPosting_some hp).1
  · intro p hp hmatch
    obtain ⟨-,haa,hcurve,hkeyOf,hreq⟩ := atPosting_some hp
    have hkey : KeyPairOn laws p.desc.curve p.atKey.privateKey.toVector
        p.desc.verificationKey.toVector := by
      rw [hcurve,hkeyOf]
      exact hmatch.2
    exact ⟨p.aa,haa,encodeAtRequest_pop hdata hinner hnull hkey hreq⟩

/-- For every key store, handle and record: the two calls keep their promise exactly if the
record has the key and the curve of the stored key pair whenever a request is made. -/
theorem pop_held_iff_matching (laws : CryptoLaws lib.ssl)
    (hdata : lib.asn.ieee1609Dot2Data.RoundTrip) (hec : lib.asn.innerEcRequest.RoundTrip)
    (hat : lib.asn.innerAtRequest.RoundTrip) (hnull : ChecksKeys lib.asn) (w : World)
    (s : ClientState) :
    (∀ canonical rec,EcPopHeld lib laws w canonical rec s ↔
      ∀ p,ecPosting lib w canonical rec s=some p →
        MatchesRecord laws p.key rec.canonicalPublicKey rec.curve) ∧
    (∀ ecHandle ecCert atHandle rec,AtPopHeld lib laws w ecHandle ecCert atHandle rec s ↔
      ∀ p,atPosting lib w ecHandle ecCert atHandle rec s=some p →
        MatchesRecord laws p.atKey rec.atPublicKey rec.curve) :=
  ⟨fun canonical rec => ecPopHeld_iff hdata hec hnull canonical rec,
    fun ecHandle ecCert atHandle rec => atPopHeld_iff hdata hat hnull ecHandle ecCert atHandle rec⟩

end

end PkiClient

namespace Sample

open Framework PkiClient

/-- A key store that holds the key pair of 21 under every handle. -/
def storing : Setting := {stillSetting with
  unixNow := 1200000000
  ecEntropy := stationEntropy
  loadKeypair := fun _ => some (keyPair 21)}

def silentServer : World := scripted storing 0 []

/-- A client that knows the EA of the station. -/
def enrollable (l : Lib) : ClientState := {pinned l with trust := TrustChain.empty.addCert encryptingCa}

def stationFacadeLib : Lib :=
  {stationLib with asn := {stationLib.asn with
    innerAtRequest := coded []
    publicVerificationKey := coded []}}

def stationFacadeLaws : CryptoLaws stationFacadeLib.ssl := sslLaws

theorem coded_nil_checks {α : Type} [DecidableEq α] {P : α → Prop} :
    ∀ v b,(coded ([] : List (Coded α))).encode v=some b → P v := by
  intro v b h
  obtain ⟨e,he,-⟩ := Codec.table_encode_mem h
  cases he

theorem station_pop_held :
    (posted [] (Op.exec (requestEnrolmentCredential stationFacadeLib silentServer canonical
      stationRecord) (enrollable stationFacadeLib)).2.events).length=1 ∧
    EcPopHeld stationFacadeLib stationFacadeLaws silentServer canonical stationRecord
      (enrollable stationFacadeLib) := by
  have hdata : stationFacadeLib.asn.ieee1609Dot2Data.RoundTrip :=
    Codec.table_roundTrip [stationPop,stationOuter,stationRequest] (by decide +kernel)
  have hinner : stationFacadeLib.asn.innerEcRequest.RoundTrip :=
    Codec.table_roundTrip [stationInner] (by decide +kernel)
  have hat : stationFacadeLib.asn.innerAtRequest.RoundTrip := Codec.table_roundTrip [] (by decide)
  have hnull : ChecksKeys stationFacadeLib.asn := by
    refine ⟨?_,coded_nil_checks⟩
    intro v b hv keys pvk hkeys hpvk
    obtain ⟨e,he,rfl⟩ := Codec.table_encode_mem hv
    obtain rfl := List.mem_singleton.mp he
    obtain rfl := Option.some.inj hkeys
    obtain rfl := Option.some.inj hpvk
    decide +kernel
  have hiff := (pop_held_iff_matching stationFacadeLaws hdata hinner hat hnull silentServer
    (enrollable stationFacadeLib)).1 canonical stationRecord
  refine ⟨by decide +kernel,hiff.mpr ?_⟩
  intro p hp
  have hloaded : keyPair 21=p.key := Option.some.inj (ecPosting_some hp).1
  rw [← hloaded]
  have hbytes : (keyPair 21).privateKey.toVector=binpad 32 21 ∧
      (keyPair 21).publicKey.toVector=pointOf .nistP256 21 := by decide +kernel
  refine ⟨rfl,?_⟩
  rw [hbytes.1,hbytes.2]
  exact keyPairOn_pointOf (by decide) (by decide)

/-- A record with the key of 22, while the stored key pair is that of 21. -/
def strayRecord : EcRecord := {stationRecord with canonicalPublicKey := (keyPair 22).publicKey}

def strayDesc : EcRequestDescription := assembleEcRequest strayRecord 1200000000

/-- The layers of the request that is made of it. -/
def strayInner : Coded Asn.InnerEcRequest :=
  ((innerEcRequestOctets (innerEcRequest strayDesc)).getD [],innerEcRequest strayDesc)

def strayPop : Coded Asn.Ieee1609Dot2Data :=
  signedBy 21 (unsecuredBody strayInner.1 noteEntropy.unixMicros) [] .zero

def strayOuterBody : Coded Asn.ToBeSignedData :=
  unsecuredBody (0x01::0x80::strayPop.1) noteEntropy.unixMicros

def strayOuter : Coded Asn.Ieee1609Dot2Data := signedBy 21 strayOuterBody [] .zero

def strayRequest : Coded Asn.Ieee1609Dot2Data := encryptedFor encryptingCa strayOuter.1 drawnEcies

def strayLib : Lib :=
  let base := exchangeLib [strayPop,strayOuter,strayRequest]
    [unsecuredBody strayInner.1 noteEntropy.unixMicros,strayOuterBody]
  {base with asn := {base.asn with innerEcRequest := coded [strayInner]}}

/-- The request goes out, and neither of its proofs verifies under the key in it. -/
theorem stray_record_posted :
    posted [] (Op.exec (requestEnrolmentCredential strayLib silentServer canonical
      strayRecord) (enrollable strayLib)).2.events=[strayRequest.1] ∧
    SealedFor strayLib encryptingCa drawnEcies strayOuter.1 strayRequest.1 ∧
    (∀ curve payload,¬PopVerifies strayLib strayOuter.1
      (compressedPoint .nistP256 (pointOf .nistP256 22)) payload curve) ∧
    (∀ curve payload,¬PopVerifies strayLib strayPop.1
      (compressedPoint .nistP256 (pointOf .nistP256 22)) payload curve) ∧
    ¬EcPopHeld strayLib sslLaws silentServer canonical strayRecord (enrollable strayLib) := by
  have hposted : posted [] (Op.exec (requestEnrolmentCredential strayLib silentServer
      canonical strayRecord) (enrollable strayLib)).2.events=[strayRequest.1] := by
    decide +kernel
  have hverify : ∀ env∈[strayOuter.1,strayPop.1],((SignedMsg.unwrap strayLib env).map fun m =>
      SignedMsg.verify strayLib m (compressedPoint .nistP256 (pointOf .nistP256 22)) [])=
        some false := by decide +kernel
  have hno : ∀ env∈[strayOuter.1,strayPop.1],∀ curve payload,¬PopVerifies strayLib env
      (compressedPoint .nistP256 (pointOf .nistP256 22)) payload curve := by
    rintro env henv curve payload ⟨m,hm,-,-,-,hok⟩
    have hfalse := hverify env henv
    rw [hm,Option.map_some,hok] at hfalse
    cases hfalse
  refine ⟨hposted,?_,hno _ (by simp),hno _ (by simp),?_⟩
  · have hecies : ((encryptTo strayLib encryptingCa strayOuter.1 drawnEcies).toOption.bind
        fun ecies => strayLib.asn.ieee1609Dot2Data.encode
          (Enc.buildEncryptedData ecies encryptingCa encryptingCa.encCurve))=
        some strayRequest.1 := by decide +kernel
    obtain ⟨ecies,henc,hcoer⟩ := Option.bind_eq_some_iff.mp hecies
    exact ⟨ecies,toOption_eq_some.mp henc,hcoer⟩
  · intro held
    have hmismatch : ¬MatchesRecord (sslLaws : CryptoLaws strayLib.ssl) (keyPair 21)
        strayRecord.canonicalPublicKey strayRecord.curve := by
      rintro ⟨hpub,-⟩
      revert hpub
      decide +kernel
    have hnone := (held.mismatch (keyPair 21) rfl hmismatch).2
    rw [show (enrollable strayLib).events=[] from rfl,hposted] at hnone
    cases hnone

end Sample

end V2xPki
