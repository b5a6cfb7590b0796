import V2xPki.Client.ProofOfPossession
import V2xPki.Provisioner.Flow

namespace V2xPki

/-- The duration a CA reads in the attributes it is asked for. -/
def durationIn (attrs : Option Asn.CertificateSubjectAttributes) : Option Asn.Duration := do
  (← (← attrs).validityPeriod).duration

/-- The duration in an enrolment request, within its encryption and both its signatures. -/
def ecDuration (lib : Lib) (req : RequestResult) : Option Asn.Duration := do
  durationIn (← ecInner? lib req).requestedSubjectAttributes

/-- The duration in an authorization request is part of the shared request, which both CAs get. -/
def atDuration (lib : Lib) (req : RequestResult) : Option Asn.Duration := do
  durationIn (← (← atInner? lib req).sharedAtRequest).requestedSubjectAttributes

/-- A positive number of hours is asked for, cut off at what the field holds. -/
def Undistorted (hours : Int) (asked : Option Asn.Duration) : Prop :=
  0<hours ∧ ∃ n : UInt16,asked=some (.hours n) ∧ (n.toNat : Int)=min hours 65535

/-- Who asks for more does not ask for less. -/
theorem Undistorted.mono {hours hours' : Int} {n n' : UInt16}
    (h : Undistorted hours (some (.hours n))) (h' : Undistorted hours' (some (.hours n')))
    (hle : hours≤hours') : n≤n' := by
  obtain ⟨-,m,hm,hval⟩ := h
  obtain ⟨-,m',hm',hval'⟩ := h'
  cases hm
  cases hm'
  rw [UInt16.le_iff_toNat_le]
  omega

theorem undistorted_hours {hours : Int} {n : UInt16} :
    Undistorted hours (some (.hours n)) ↔ 0<hours ∧ (n.toNat : Int)=min hours 65535 := by
  simp [Undistorted]

theorem word16_toNat (i : Int) : ((UInt16.ofInt i).toNat : Int)=i%65536 := by
  unfold UInt16.ofInt
  rw [UInt16.toNat_ofNat']
  norm_num
  omega

/-- Codecs that read back what they write, for every layer of a request that is read here. -/
structure RequestCodecs (asn : Asn1c) : Prop where
  data : asn.ieee1609Dot2Data.RoundTrip
  innerEcRequest : asn.innerEcRequest.RoundTrip
  innerAtRequest : asn.innerAtRequest.RoundTrip
  sharedAtRequest : asn.sharedAtRequest.RoundTrip

section
variable {lib : Lib} {req : RequestResult}

/-- The product is narrowed, so the field is right as long as nothing is cut off. -/
theorem ecDuration_iff (laws : CryptoLaws lib.ssl) (codecs : RequestCodecs lib.asn)
    {rec : EcRecord} {now : Int} {ea : CertInfo} {priv : Bytes} {entropy : EcEntropy}
    (h : encodeEcRequest lib (assembleEcRequest rec now) ea priv entropy=.ok req) :
    Undistorted (24*rec.validityPeriodDays) (ecDuration lib req) ↔
      0<rec.validityPeriodDays ∧ rec.validityPeriodDays≤2730 := by
  have hread := ecInner_request laws codecs.data codecs.innerEcRequest h
  have hasked : ecDuration lib req=
      some (.hours (UInt16.ofInt (rec.validityPeriodDays*24))) := by
    rw [ecDuration,hread]
    rfl
  rw [hasked,undistorted_hours,word16_toNat]
  -- a wrapped product is even, so it is never the 65535 that was wanted
  omega

/-- The hours are clamped before they are narrowed, which is right from one hour on. -/
theorem atDuration_iff (laws : CryptoLaws lib.ssl) (codecs : RequestCodecs lib.asn)
    {desc : AtRequestDescription} {hours : Int} {aa ea ec : CertInfo} {ecPriv atPriv : Bytes}
    {entropy : AtEntropy} (h : encodeAtRequest lib desc aa ea ec ecPriv atPriv entropy=.ok req)
    (hdesc : desc.validityDurationHours=UInt16.ofInt (min hours 65535)) :
    Undistorted hours (atDuration lib req) ↔ 0<hours := by
  obtain ⟨inner,hread,hof⟩ := atInner_request laws codecs.data codecs.innerAtRequest h
  obtain ⟨coer,shared,hencode,hcopy,hshared⟩ := hof.shared
  obtain rfl := Option.some.inj
    (hcopy.symm.trans (Coer.decode_encode codecs.sharedAtRequest hencode))
  have hasked : atDuration lib req=some (.hours desc.validityDurationHours) := by
    simp only [atDuration,hread,hshared,Option.bind_eq_bind,Option.bind_some]
    rfl
  rw [hasked,undistorted_hours,hdesc,word16_toNat]
  omega

end

/-- Whatever is posted asks for what was wanted. -/
def AsksFor (read : RequestResult → Option Asn.Duration) (hours : Int)
    (asked : Option RequestResult) : Prop := ∀ req∈asked,Undistorted hours (read req)

theorem asksFor_iff {read : RequestResult → Option Asn.Duration} {hours : Int}
    {asked : Option RequestResult} {p : Prop} (h : ∀ req∈asked,Undistorted hours (read req) ↔ p) :
    AsksFor read hours asked ↔ (asked.isSome → p) := by
  cases asked with
  | none => simp [AsksFor]
  | some req => simpa [AsksFor] using h req rfl

/-- What is posted is just this request, and without one the path fails. -/
def PostsOnly (asked : Option RequestResult) (bodies : List Bytes) (failed : Prop) : Prop :=
  bodies=(asked.map (·.encoded.toVector)).toList ∧ (asked=none → failed)

namespace PkiClient

open Framework

section
variable (lib : Lib) (w : World)

def ecAsked (canonical : KeyHandle) (rec : EcRecord) (s : ClientState) : Option RequestResult :=
  (ecPosting lib w canonical rec s).map (·.request)

def atAsked (ecHandle : KeyHandle) (ecCert : CertInfo) (atHandle : KeyHandle) (rec : AtRecord)
    (s : ClientState) : Option RequestResult :=
  (atPosting lib w ecHandle ecCert atHandle rec s).map (·.request)

/-- The record is valid, key and EA are at hand, and the request can be made. -/
def EcPostable (canonical : KeyHandle) (rec : EcRecord) (s : ClientState) : Prop :=
  let setting := w.setting s.events
  (validateEcRecord rec).isOk=true ∧
    ∃ kp ea,setting.loadKeypair canonical=some kp ∧
      s.trust.findByHashedId8 rec.eaHashedId8=some ea ∧
      EcMakeable lib (assembleEcRequest rec setting.unixNow) ea kp.privateKey.toVector
        setting.ecEntropy

/-- A facade call posts just this. -/
def CallPosts (asked : Option RequestResult) (log : List Event)
    (out : Except Error CertInfo × ClientState) : Prop :=
  PostsOnly asked (posted log out.2.events) (∃ e,out.1=.error e)

theorem ecAsked_posted (canonical : KeyHandle) (rec : EcRecord) (s : ClientState) :
    CallPosts (ecAsked lib w canonical rec s) s.events
      (Op.exec (requestEnrolmentCredential lib w canonical rec) s) := by
  obtain ⟨hposted,hfails⟩ := requestEnrolmentCredential_posts lib w canonical rec s
  refine ⟨?_,?_⟩
  · rw [hposted,ecAsked,Option.map_map]
    rfl
  · intro hnone
    exact hfails (Option.map_eq_none_iff.mp hnone)

theorem atAsked_posted (ecHandle : KeyHandle) (ecCert : CertInfo) (atHandle : KeyHandle)
    (rec : AtRecord) (s : ClientState) :
    CallPosts (atAsked lib w ecHandle ecCert atHandle rec s) s.events
      (Op.exec (requestAuthorizationTicket lib w ecHandle ecCert atHandle rec) s) := by
  obtain ⟨hposted,hfails⟩ := requestAuthorizationTicket_posts lib w ecHandle ecCert atHandle rec s
  refine ⟨?_,?_⟩
  · rw [hposted,atAsked,Option.map_map]
    rfl
  · intro hnone
    exact hfails (Option.map_eq_none_iff.mp hnone)

end

section
variable {lib : Lib} {w : World} {s : ClientState}

theorem validateEcRecord_days {rec : EcRecord} (h : (validateEcRecord rec).isOk=true) :
    0<rec.validityPeriodDays := by
  unfold validateEcRecord at h
  split at h
  · cases h
  split at h
  · cases h
  split at h
  · cases h
  omega

theorem validateAtRecord_hours {rec : AtRecord} (h : (validateAtRecord rec).isOk=true) :
    0<rec.validityPeriodHours := by
  unfold validateAtRecord at h
  split at h
  · cases h
  split at h
  · cases h
  split at h
  · cases h
  split at h
  · cases h
  omega

theorem ecPosting_valid {canonical : KeyHandle} {rec : EcRecord} {p : EcPosting}
    (h : ecPosting lib w canonical rec s=some p) : (validateEcRecord rec).isOk=true := by
  simp only [ecPosting,Option.bind_eq_bind,Option.bind_eq_some_iff] at h
  obtain ⟨_,hvalid,-⟩ := h
  exact guard_eq_some.mp hvalid

theorem atPosting_valid {ecHandle atHandle : KeyHandle} {ecCert : CertInfo} {rec : AtRecord}
    {p : AtPosting} (h : atPosting lib w ecHandle ecCert atHandle rec s=some p) :
    (validateAtRecord rec).isOk=true ∧
      p.desc.validityDurationHours=UInt16.ofInt (min rec.validityPeriodHours 65535) := by
  simp only [atPosting,Option.bind_eq_bind,Option.bind_eq_some_iff] at h
  obtain ⟨_,hvalid,kp,-,aa,-,ea,-,atKp,-,req,-,hp⟩ := h
  cases hp
  exact ⟨guard_eq_some.mp hvalid,rfl⟩

theorem ecAsked_isSome (canonical : KeyHandle) (rec : EcRecord) :
    (ecAsked lib w canonical rec s).isSome ↔ EcPostable lib w canonical rec s := by
  rw [ecAsked,Option.isSome_map,Option.isSome_iff_exists]
  constructor
  · rintro ⟨p,hp⟩
    obtain ⟨hkp,hea,hdesc,hmade⟩ := ecPosting_some hp
    rw [hdesc] at hmade
    exact ⟨ecPosting_valid hp,p.key,p.ea,hkp,hea,encodeEcRequest_iff.mp ⟨_,hmade⟩⟩
  · rintro ⟨hvalid,kp,ea,hkp,hea,hmakeable⟩
    obtain ⟨req,hreq⟩ := encodeEcRequest_iff.mpr hmakeable
    refine ⟨⟨kp,ea,assembleEcRequest rec (w.setting s.events).unixNow,req⟩,?_⟩
    simp only [ecPosting,hvalid,guard_true,pure,Option.bind_eq_bind,hkp,hea,hreq,
      Except.toOption,Option.bind_some]

/-- The validator admits ten years and the field holds seven and a half. -/
theorem ecAsked_iff (laws : CryptoLaws lib.ssl) (codecs : RequestCodecs lib.asn)
    (canonical : KeyHandle) (rec : EcRecord) :
    AsksFor (ecDuration lib) (24*rec.validityPeriodDays) (ecAsked lib w canonical rec s) ↔
      (EcPostable lib w canonical rec s → rec.validityPeriodDays≤2730) := by
  rw [← ecAsked_isSome]
  apply asksFor_iff
  intro req hreq
  obtain ⟨p,hp,rfl⟩ := Option.map_eq_some_iff.mp hreq
  obtain ⟨-,-,hdesc,hmade⟩ := ecPosting_some hp
  have hpos := validateEcRecord_days (ecPosting_valid hp)
  rw [hdesc] at hmade
  rw [ecDuration_iff laws codecs hmade]
  exact and_iff_right hpos

theorem atAsked_asksFor (laws : CryptoLaws lib.ssl) (codecs : RequestCodecs lib.asn)
    (ecHandle : KeyHandle) (ecCert : CertInfo) (atHandle : KeyHandle) (rec : AtRecord) :
    AsksFor (atDuration lib) rec.validityPeriodHours
      (atAsked lib w ecHandle ecCert atHandle rec s) := by
  intro req hreq
  obtain ⟨p,hp,rfl⟩ := Option.map_eq_some_iff.mp hreq
  obtain ⟨-,-,-,-,hmade⟩ := atPosting_some hp
  obtain ⟨hvalid,hdesc⟩ := atPosting_valid hp
  exact (atDuration_iff laws codecs hmade hdesc).mpr (validateAtRecord_hours hvalid)

end

end PkiClient

namespace Provisioning

open PkiClient

section
variable (lib : Lib)

/-- A key pair can be drawn and the request made. -/
def EnrolPostable (ta : TrustAnchors) (validityDays : Int) (curve : Curve)
    (s : EnrolSetting) : Prop :=
  ∃ kp,Crypto.generateKeypair lib.ssl curve s.scalar=some kp ∧
    EcMakeable lib (assembleEcRequest (ecRecord ta validityDays curve kp) s.unixNow) ta.ea
      kp.privateKey.toVector s.entropy

def RotatePostable (ta : TrustAnchors) (ec : EnrolledEc) (psids : List Int)
    (validityHours : Int) (s : RotateSetting) : Prop :=
  ∃ kp,Crypto.generateKeypair lib.ssl ec.cert.curve s.scalar=some kp ∧
    AtMakeable lib (assembleAtRequest lib (atRecord ta ec psids validityHours kp) s.unixNow
      s.entropy.hmacScalar) ta.aa ta.ea ec.cert ec.canonicalKp.privateKey.toVector
      kp.privateKey.toVector s.entropy

end

variable {lib : Lib}

/-- A run of the provisioner's exchange posts just this, whatever becomes of it. -/
def ExchangePosts {Code : Type} (asked : Option RequestResult)
    (attempt : List Event × Option (Exchange Code)) : Prop :=
  PostsOnly asked (posted [] attempt.1) (attempt.2=none)

theorem ecAttempt_posts (ta : TrustAnchors) (validityDays : Int) (curve : Curve)
    (s : EnrolSetting) :
    ExchangePosts ((ecRequest lib ta validityDays curve s).map (·.2))
      (ecAttempt lib ta validityDays curve s) := by
  unfold ecAttempt
  cases ecRequest lib ta validityDays curve s with
  | none => exact ⟨rfl,fun _ => rfl⟩
  | some made => exact ⟨rfl,by simp⟩

theorem atAttempt_posts (ta : TrustAnchors) (ec : EnrolledEc) (psids : List Int)
    (validityHours : Int) (s : RotateSetting) :
    ExchangePosts ((atRequest lib ta ec psids validityHours s).map (·.2))
      (atAttempt lib ta ec psids validityHours s) := by
  unfold atAttempt
  cases atRequest lib ta ec psids validityHours s with
  | none => exact ⟨rfl,fun _ => rfl⟩
  | some made => exact ⟨rfl,by simp⟩

theorem ecRequest_isSome (ta : TrustAnchors) (validityDays : Int) (curve : Curve)
    (s : EnrolSetting) :
    (ecRequest lib ta validityDays curve s).isSome ↔ EnrolPostable lib ta validityDays curve s := by
  rw [Option.isSome_iff_exists]
  constructor
  · rintro ⟨⟨kp,req⟩,h⟩
    obtain ⟨hgen,hmade⟩ := ecRequest_some.mp h
    exact ⟨kp,hgen,encodeEcRequest_iff.mp ⟨req,hmade⟩⟩
  · rintro ⟨kp,hgen,hmakeable⟩
    obtain ⟨req,hmade⟩ := encodeEcRequest_iff.mpr hmakeable
    exact ⟨(kp,req),ecRequest_some.mpr ⟨hgen,hmade⟩⟩

theorem atRequest_isSome (ta : TrustAnchors) (ec : EnrolledEc) (psids : List Int)
    (validityHours : Int) (s : RotateSetting) :
    (atRequest lib ta ec psids validityHours s).isSome ↔
      RotatePostable lib ta ec psids validityHours s := by
  rw [Option.isSome_iff_exists]
  constructor
  · rintro ⟨⟨kp,req⟩,h⟩
    obtain ⟨hgen,hmade⟩ := atRequest_some.mp h
    exact ⟨kp,hgen,encodeAtRequest_iff.mp ⟨req,hmade⟩⟩
  · rintro ⟨kp,hgen,hmakeable⟩
    obtain ⟨req,hmade⟩ := encodeAtRequest_iff.mpr hmakeable
    exact ⟨(kp,req),atRequest_some.mpr ⟨hgen,hmade⟩⟩

/-- Nothing is validated here, so the days may be anything. -/
theorem ecRequest_iff (laws : CryptoLaws lib.ssl) (codecs : RequestCodecs lib.asn)
    (ta : TrustAnchors) (validityDays : Int) (curve : Curve) (s : EnrolSetting) :
    AsksFor (ecDuration lib) (24*validityDays)
        ((ecRequest lib ta validityDays curve s).map (·.2)) ↔
      (EnrolPostable lib ta validityDays curve s → 0<validityDays ∧ validityDays≤2730) := by
  rw [← ecRequest_isSome,← Option.isSome_map]
  apply asksFor_iff
  intro req hreq
  obtain ⟨⟨kp,req⟩,hmade,rfl⟩ := Option.map_eq_some_iff.mp hreq
  exact ecDuration_iff laws codecs (ecRequest_some.mp hmade).2

theorem atRequest_iff (laws : CryptoLaws lib.ssl) (codecs : RequestCodecs lib.asn)
    (ta : TrustAnchors) (ec : EnrolledEc) (psids : List Int) (validityHours : Int)
    (s : RotateSetting) :
    AsksFor (atDuration lib) validityHours
        ((atRequest lib ta ec psids validityHours s).map (·.2)) ↔
      (RotatePostable lib ta ec psids validityHours s → 0<validityHours) := by
  rw [← atRequest_isSome,← Option.isSome_map]
  apply asksFor_iff
  intro req hreq
  obtain ⟨⟨kp,req⟩,hmade,rfl⟩ := Option.map_eq_some_iff.mp hreq
  exact atDuration_iff laws codecs (atRequest_some.mp hmade).2 rfl

end Provisioning

open Framework PkiClient Provisioning in
/-- On each of the four paths a request asks for the validity that was wanted, or for the most
that the field holds, exactly if the value is one that its assembler does not cut off: the
tickets of the facade always, those of the provisioner from one hour on, and an enrolment
credential, whose assembler does not clamp, up to 2730 days. -/
theorem requested_validity_iff (lib : Lib) (laws : CryptoLaws lib.ssl)
    (codecs : RequestCodecs lib.asn) :
    (∀ w canonical rec s,
      CallPosts (ecAsked lib w canonical rec s) s.events
        (Op.exec (requestEnrolmentCredential lib w canonical rec) s) ∧
      (AsksFor (ecDuration lib) (24*rec.validityPeriodDays) (ecAsked lib w canonical rec s) ↔
        (EcPostable lib w canonical rec s → rec.validityPeriodDays≤2730))) ∧
    (∀ w ecHandle ecCert atHandle rec s,
      CallPosts (atAsked lib w ecHandle ecCert atHandle rec s) s.events
        (Op.exec (requestAuthorizationTicket lib w ecHandle ecCert atHandle rec) s) ∧
      AsksFor (atDuration lib) rec.validityPeriodHours
        (atAsked lib w ecHandle ecCert atHandle rec s)) ∧
    (∀ ta validityDays curve s,
      ExchangePosts ((ecRequest lib ta validityDays curve s).map (·.2))
        (ecAttempt lib ta validityDays curve s) ∧
      (AsksFor (ecDuration lib) (24*validityDays)
          ((ecRequest lib ta validityDays curve s).map (·.2)) ↔
        (EnrolPostable lib ta validityDays curve s → 0<validityDays ∧ validityDays≤2730))) ∧
    (∀ ta ec psids validityHours s,
      ExchangePosts ((atRequest lib ta ec psids validityHours s).map (·.2))
        (atAttempt lib ta ec psids validityHours s) ∧
      (AsksFor (atDuration lib) validityHours
          ((atRequest lib ta ec psids validityHours s).map (·.2)) ↔
        (RotatePostable lib ta ec psids validityHours s → 0<validityHours))) ∧
    (∀ hours hours' n n',Undistorted hours (some (.hours n)) →
      Undistorted hours' (some (.hours n')) → hours≤hours' → n≤n') := by
  refine ⟨?_,?_,?_,?_,?_⟩
  · intro w canonical rec s
    exact ⟨ecAsked_posted lib w canonical rec s,ecAsked_iff laws codecs canonical rec⟩
  · intro w ecHandle ecCert atHandle rec s
    exact ⟨atAsked_posted lib w ecHandle ecCert atHandle rec s,
      atAsked_asksFor laws codecs ecHandle ecCert atHandle rec⟩
  · intro ta validityDays curve s
    exact ⟨ecAttempt_posts ta validityDays curve s,
      ecRequest_iff laws codecs ta validityDays curve s⟩
  · intro ta ec psids validityHours s
    exact ⟨atAttempt_posts ta ec psids validityHours s,
      atRequest_iff laws codecs ta ec psids validityHours s⟩
  · intro hours hours' n n' h h' hle
    exact h.mono h' hle

namespace Sample

open Framework PkiClient

/-- The record that asks for so many days, and the layers of the request that is made of it. -/
def recordFor (days : Int) : EcRecord := {stationRecord with validityPeriodDays := days}

def innerFor (days : Int) : Coded Asn.InnerEcRequest :=
  let v := innerEcRequest (assembleEcRequest (recordFor days) 1200000000)
  ((innerEcRequestOctets v).getD [],v)

def popBodyFor (days : Int) : Coded Asn.ToBeSignedData :=
  unsecuredBody (innerFor days).1 noteEntropy.unixMicros

def popFor (days : Int) : Coded Asn.Ieee1609Dot2Data := signedBy 21 (popBodyFor days) [] .zero

def outerBodyFor (days : Int) : Coded Asn.ToBeSignedData :=
  unsecuredBody (0x01::0x80::(popFor days).1) noteEntropy.unixMicros

def outerFor (days : Int) : Coded Asn.Ieee1609Dot2Data := signedBy 21 (outerBodyFor days) [] .zero

def postedFor (days : Int) : Coded Asn.Ieee1609Dot2Data :=
  encryptedFor encryptingCa (outerFor days).1 drawnEcies

/-- The library of a client that asks for so many days. -/
def validityLib (days : Int) : Lib :=
  let base := exchangeLib [popFor days,outerFor days,postedFor days]
    [popBodyFor days,outerBodyFor days]
  {base with asn := {base.asn with
    innerEcRequest := coded [innerFor days]
    innerAtRequest := coded []
    sharedAtRequest := coded []}}

def validityLaws (days : Int) : CryptoLaws (validityLib days).ssl := sslLaws

/-- The request that is posted for so many days. -/
def askedDays (days : Int) : Option RequestResult :=
  ecAsked (validityLib days) silentServer canonical (recordFor days) (enrollable (validityLib days))

/-- The most days that the field holds are asked for undistorted. -/
theorem longest_validity_asked :
    (askedDays 2730).bind (ecDuration (validityLib 2730))=some (.hours 65520) ∧
    AsksFor (ecDuration (validityLib 2730)) (24*2730) (askedDays 2730) := by
  have codecs : RequestCodecs (validityLib 2730).asn :=
    ⟨Codec.table_roundTrip [popFor 2730,outerFor 2730,postedFor 2730] (by decide +kernel),
      Codec.table_roundTrip [innerFor 2730] (by decide +kernel),
      Codec.table_roundTrip [] (by decide),Codec.table_roundTrip [] (by decide)⟩
  obtain ⟨hfacade,-⟩ := requested_validity_iff (validityLib 2730) (validityLaws 2730) codecs
  exact ⟨by decide +kernel,(hfacade _ _ _ _).2.mpr fun _ => Int.le_refl _⟩

/-- A valid record that asks for 2731 days posts eight hours, and one for a day less 65520. -/
theorem longer_validity_wraps :
    validateEcRecord (recordFor 2731)=.ok () ∧
    ¬AsksFor (ecDuration (validityLib 2731)) (24*2731) (askedDays 2731) ∧
    (askedDays 2730).map (ecDuration (validityLib 2730))=some (some (.hours 65520)) ∧
    (askedDays 2731).map (ecDuration (validityLib 2731))=some (some (.hours 8)) := by
  have hasked : (askedDays 2731).map (ecDuration (validityLib 2731))=some (some (.hours 8)) := by
    decide +kernel
  refine ⟨by decide +kernel,?_,by decide +kernel,hasked⟩
  intro h
  obtain ⟨req,hreq,hduration⟩ := Option.map_eq_some_iff.mp hasked
  have hdistorted := h req hreq
  rw [hduration,undistorted_hours] at hdistorted
  exact absurd hdistorted.2 (by decide)

end Sample

end V2xPki
