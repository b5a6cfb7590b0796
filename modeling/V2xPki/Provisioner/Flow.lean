import V2xPki.Client.Exchange
import V2xPki.Provisioner.KeyPem

namespace V2xPki

namespace Provisioning

open Framework PkiClient

structure TrustAnchors where
  ea : CertInfo
  aa : CertInfo
  rca : CertInfo
  ecUrl : String
  atUrl : String
deriving DecidableEq

structure EnrolledEc where
  cert : CertInfo
  canonicalKp : KeyPair
deriving DecidableEq

variable (lib : Lib)

/-- `hid8_of`: SHA-256 whatever the curve. -/
def hid8Of (certBytes : Bytes) : HashedId8 :=
  Cert.truncateHid8 (Crypto.hashSha256 lib.ssl certBytes)

/-- The client that discovers trust: it has no CA endpoints and an empty trust store. -/
def discoverer (baseUrl tlmHid8 : String) : ClientState :=
  .initial lib (fun _ => .zero) ⟨"","",baseUrl,"",tlmHid8⟩ []

/-- The anchors picked from a topology: the first CA of each list. -/
def pickAnchors (baseUrl : String) (topo : TrustTopology) : Option TrustAnchors :=
  if topo.ectlSignatureVerified=false ∨ topo.ctlSignatureVerified=false then none
  else do
    let ea ← topo.eas.head?
    let aa ← topo.aas.head?
    let rca ← topo.rcas.head?
    let ecUrl := if ea.itsAccessPoint.isEmpty then baseUrl++"/ec-request" else ea.itsAccessPoint
    let atUrl := if aa.accessPoint.isEmpty then baseUrl++"/at-request" else aa.accessPoint
    if ea.cert.encryptionKey.empty ∨ aa.cert.encryptionKey.empty then none
    else some ⟨ea.cert,aa.cert,rca,ecUrl,atUrl⟩

def discover (w : World) (baseUrl tlmHid8 : String) : Option TrustAnchors :=
  match (Op.exec (discoverTrust lib w) (discoverer lib baseUrl tlmHid8)).1 with
  | .error _ => none
  | .ok topo => pickAnchors baseUrl topo

/-- How the two writes of `write_anchors` go. -/
structure AnchorWrites where
  aa : Files.Replacing
  rca : Files.Replacing

def writeAnchors (files : Files UInt8) (ta : TrustAnchors) (dir : String) (r : AnchorWrites) :
    Bool × Files UInt8 :=
  let first := atomicWrite files (dir++"/AA.coer") ta.aa.certBytes.toVector r.aa
  if first.1=false then first
  else atomicWrite first.2 (dir++"/RCA.coer") ta.rca.certBytes.toVector r.rca

/-- Both anchors are written, or the call fails. -/
theorem writeAnchors_reported (files : Files UInt8) (ta : TrustAnchors) (dir : String)
    (r : AnchorWrites) :
    (writeAnchors files ta dir r).1=(r.aa.reported && r.rca.reported) := by
  unfold writeAnchors
  dsimp only
  split
  · rename_i hfailed
    rw [atomicWrite_reported] at hfailed ⊢
    rw [hfailed,Bool.false_and]
  · rename_i hworked
    rw [atomicWrite_reported,Bool.not_eq_false] at hworked
    rw [atomicWrite_reported,hworked,Bool.true_and]

/-- What one enrolment finds: the clock, the scalar drawn for the canonical key and the rest of
the random source, and what the server makes of a request. -/
structure EnrolSetting where
  unixNow : Int
  scalar : Option Nat
  entropy : EcEntropy
  answer : HttpRequest → Answer

/-- What one rotation finds. -/
structure RotateSetting where
  unixNow : Int
  scalar : Option Nat
  entropy : AtEntropy
  answer : HttpRequest → Answer

def ecRecord (ta : TrustAnchors) (validityDays : Int) (curve : Curve) (kp : KeyPair) :
    EcRecord where
  canonicalPublicKey := kp.publicKey
  eaHashedId8 := ta.ea.hashedId8
  requestedPsids := [kPsidScr]
  validityPeriodDays := validityDays
  curve := curve

/-- The ticket is asked for on the curve of the EC. -/
def atRecord (ta : TrustAnchors) (ec : EnrolledEc) (psids : List Int) (validityHours : Int)
    (kp : KeyPair) : AtRecord where
  atPublicKey := kp.publicKey
  aaHashedId8 := ta.aa.hashedId8
  eaHashedId8 := ta.ea.hashedId8
  requestedPsids := psids
  validityPeriodHours := validityHours
  curve := ec.cert.curve

/-- The key pair of an enrolment and the request that is posted. The record is not validated. -/
def ecRequest (ta : TrustAnchors) (validityDays : Int) (curve : Curve) (s : EnrolSetting) :
    Option (KeyPair × RequestResult) := do
  let kp ← Crypto.generateKeypair lib.ssl curve s.scalar
  let desc := assembleEcRequest (ecRecord ta validityDays curve kp) s.unixNow
  let req ← (encodeEcRequest lib desc ta.ea kp.privateKey.toVector s.entropy).toOption
  some (kp,req)

/-- `enrol_ec` up to its decoded response, with what it has sent by then. -/
def ecAttempt (ta : TrustAnchors) (validityDays : Int) (curve : Curve) (s : EnrolSetting) :
    List Event × Option (Exchange EnrolmentResponseCode) :=
  match ecRequest lib ta validityDays curve s with
  | none => ([],none)
  | some (kp,req) =>
    let post := .post ta.ecUrl req.encoded.toVector
    let a := s.answer post
    ([.http post],do
      let body ← (okBody a.response).toOption
      let resp ← (decodeEcResponse lib (a.mem 0) body kp.privateKey.toVector
        req.requestAesKey.toVector req.encoded.toVector ta.ea).toOption
      some ⟨kp,ta.ea,a.nowTai,resp,[.http post]⟩)

def ecExchanged (ta : TrustAnchors) (validityDays : Int) (curve : Curve) (s : EnrolSetting) :
    Option (Exchange EnrolmentResponseCode) := (ecAttempt lib ta validityDays curve s).2

/-- The key pair of a rotation and the request that is posted. -/
def atRequest (ta : TrustAnchors) (ec : EnrolledEc) (psids : List Int) (validityHours : Int)
    (s : RotateSetting) : Option (KeyPair × RequestResult) := do
  let kp ← Crypto.generateKeypair lib.ssl ec.cert.curve s.scalar
  let desc := assembleAtRequest lib (atRecord ta ec psids validityHours kp) s.unixNow
    s.entropy.hmacScalar
  let req ← (encodeAtRequest lib desc ta.aa ta.ea ec.cert ec.canonicalKp.privateKey.toVector
    kp.privateKey.toVector s.entropy).toOption
  some (kp,req)

/-- `rotate_at` up to its decoded response, with what it has sent by then. -/
def atAttempt (ta : TrustAnchors) (ec : EnrolledEc) (psids : List Int) (validityHours : Int)
    (s : RotateSetting) : List Event × Option (Exchange AuthorizationResponseCode) :=
  match atRequest lib ta ec psids validityHours s with
  | none => ([],none)
  | some (kp,req) =>
    let post := .post ta.atUrl req.encoded.toVector
    let a := s.answer post
    ([.http post],do
      let body ← (okBody a.response).toOption
      if body.isEmpty then none
      else do
        let resp ← (decodeAtResponse lib (a.mem 0) body kp.privateKey.toVector
          req.requestAesKey.toVector req.encoded.toVector ta.aa).toOption
        some ⟨kp,ta.aa,a.nowTai,resp,[.http post]⟩)

def atExchanged (ta : TrustAnchors) (ec : EnrolledEc) (psids : List Int) (validityHours : Int)
    (s : RotateSetting) : Option (Exchange AuthorizationResponseCode) :=
  (atAttempt lib ta ec psids validityHours s).2

/-- The code and the presence of a certificate are all that is checked of a response. -/
def certOf {Code : Type} [DecidableEq Code] (ok : Code) (r : Response Code) : Option CertInfo :=
  if r.responseCode≠ok then none else r.certificate

theorem certOf_some {Code : Type} [DecidableEq Code] {ok : Code} {r : Response Code}
    {cert : CertInfo} :
    certOf ok r=some cert ↔ r.responseCode=ok ∧ r.certificate=some cert := by
  unfold certOf
  by_cases h : r.responseCode=ok
  · simp [h]
  · simp [h]

def enrolEc (ta : TrustAnchors) (validityDays : Int) (curve : Curve) (s : EnrolSetting) :
    Option EnrolledEc := do
  let x ← ecExchanged lib ta validityDays curve s
  let cert ← certOf .ok x.response
  some ⟨cert,x.key⟩

/-- The key pair and the certificate that `rotate_at` goes on to write. -/
def issuedAt (ta : TrustAnchors) (ec : EnrolledEc) (psids : List Int) (validityHours : Int)
    (s : RotateSetting) : Option (KeyPair × CertInfo) := do
  let x ← atExchanged lib ta ec psids validityHours s
  let cert ← certOf .ok x.response
  some (x.key,cert)

/-- How the two writes of `rotate_at` go. -/
structure PairWrites where
  cert : Files.Replacing
  key : Files.Replacing

/-- Both writes go well, for anything of the size of a message. -/
def wholeWrites : PairWrites where
  cert := ⟨.filled kMaxCoerMessageLen true,true,true⟩
  key := ⟨.filled kMaxCoerMessageLen true,true,true⟩

variable (pem : KeyPem)

/-- The certificate first, then the key; nothing takes the certificate back. -/
def writePair (files : Files UInt8) (dir : String) (cert : CertInfo) (kp : KeyPair)
    (curve : Curve) (r : PairWrites) : Bool × Files UInt8 :=
  let first := atomicWrite files (dir++"/AT.coer") cert.certBytes.toVector r.cert
  if first.1=false then first
  else atomicWriteKeyPem lib.ssl pem first.2 (dir++"/AT.key") kp.privateKey.toVector curve r.key

def rotateAt (ta : TrustAnchors) (ec : EnrolledEc) (psids : List Int) (validityHours : Int)
    (dir : String) (s : RotateSetting) (r : PairWrites) (files : Files UInt8) :
    Option HashedId8 × Files UInt8 :=
  match issuedAt lib ta ec psids validityHours s with
  | none => (none,files)
  | some (kp,cert) =>
    let written := writePair lib pem files dir cert kp ec.cert.curve r
    (if written.1 then some (hid8Of lib cert.certBytes.toVector) else none,written.2)

/-- `rotate_at`, with what it sends. -/
def rotation (ta : TrustAnchors) (ec : EnrolledEc) (psids : List Int) (validityHours : Int)
    (dir : String) (s : RotateSetting) (r : PairWrites) (files : Files UInt8) :
    List Event × Option HashedId8 × Files UInt8 :=
  ((atAttempt lib ta ec psids validityHours s).1,
    rotateAt lib pem ta ec psids validityHours dir s r files)

section
variable {lib}

theorem atExchanged_some {ta : TrustAnchors} {ec : EnrolledEc} {psids : List Int}
    {validityHours : Int} {s : RotateSetting} {x : Exchange AuthorizationResponseCode}
    (h : atExchanged lib ta ec psids validityHours s=some x) :
    ∃ kp req body resp,atRequest lib ta ec psids validityHours s=some (kp,req) ∧
      okBody (s.answer (.post ta.atUrl req.encoded.toVector)).response=.ok body ∧
      decodeAtResponse lib ((s.answer (.post ta.atUrl req.encoded.toVector)).mem 0) body
        kp.privateKey.toVector req.requestAesKey.toVector req.encoded.toVector ta.aa=.ok resp ∧
      x=⟨kp,ta.aa,(s.answer (.post ta.atUrl req.encoded.toVector)).nowTai,resp,
        [.http (.post ta.atUrl req.encoded.toVector)]⟩ := by
  unfold atExchanged atAttempt at h
  split at h
  · cases h
  rename_i kp req hreq
  obtain ⟨body,hbody,h⟩ := Option.bind_eq_some_iff.mp h
  split at h
  · cases h
  obtain ⟨resp,hresp,hx⟩ := Option.bind_eq_some_iff.mp h
  exact ⟨kp,req,body,resp,hreq,toOption_eq_some.mp hbody,toOption_eq_some.mp hresp,
    (Option.some.inj hx).symm⟩

theorem ecRequest_some {ta : TrustAnchors} {validityDays : Int} {curve : Curve}
    {s : EnrolSetting} {kp : KeyPair} {req : RequestResult} :
    ecRequest lib ta validityDays curve s=some (kp,req) ↔
      Crypto.generateKeypair lib.ssl curve s.scalar=some kp ∧
      encodeEcRequest lib (assembleEcRequest (ecRecord ta validityDays curve kp) s.unixNow) ta.ea
        kp.privateKey.toVector s.entropy=.ok req := by
  simp only [ecRequest,Option.bind_eq_bind,Option.bind_eq_some_iff,toOption_eq_some]
  constructor
  · rintro ⟨kp',hgen,req',hmade,hpair⟩
    obtain ⟨rfl,rfl⟩ := Prod.mk.inj (Option.some.inj hpair)
    exact ⟨hgen,hmade⟩
  · rintro ⟨hgen,hmade⟩
    exact ⟨kp,hgen,req,hmade,rfl⟩

theorem atRequest_some {ta : TrustAnchors} {ec : EnrolledEc} {psids : List Int}
    {validityHours : Int} {s : RotateSetting} {kp : KeyPair} {req : RequestResult} :
    atRequest lib ta ec psids validityHours s=some (kp,req) ↔
      Crypto.generateKeypair lib.ssl ec.cert.curve s.scalar=some kp ∧
      encodeAtRequest lib (assembleAtRequest lib (atRecord ta ec psids validityHours kp) s.unixNow
        s.entropy.hmacScalar) ta.aa ta.ea ec.cert ec.canonicalKp.privateKey.toVector
        kp.privateKey.toVector s.entropy=.ok req := by
  simp only [atRequest,Option.bind_eq_bind,Option.bind_eq_some_iff,toOption_eq_some]
  constructor
  · rintro ⟨kp',hgen,req',hreq,hpair⟩
    obtain ⟨rfl,rfl⟩ := Prod.mk.inj (Option.some.inj hpair)
    exact ⟨hgen,hreq⟩
  · rintro ⟨hgen,hreq⟩
    exact ⟨kp,hgen,req,hreq,rfl⟩

theorem enrolEc_some {ta : TrustAnchors} {validityDays : Int} {curve : Curve} {s : EnrolSetting}
    {ec : EnrolledEc} :
    enrolEc lib ta validityDays curve s=some ec ↔
      ∃ x,ecExchanged lib ta validityDays curve s=some x ∧
        certOf .ok x.response=some ec.cert ∧ x.key=ec.canonicalKp := by
  simp only [enrolEc,Option.bind_eq_bind,Option.bind_eq_some_iff,Option.some.injEq]
  constructor
  · rintro ⟨x,hx,cert,hcert,rfl⟩
    exact ⟨x,hx,hcert,rfl⟩
  · rintro ⟨x,hx,hcert,hkey⟩
    exact ⟨x,hx,ec.cert,hcert,by rw [hkey]⟩

theorem issuedAt_some {ta : TrustAnchors} {ec : EnrolledEc} {psids : List Int}
    {validityHours : Int} {s : RotateSetting} {kp : KeyPair} {cert : CertInfo} :
    issuedAt lib ta ec psids validityHours s=some (kp,cert) ↔
      ∃ x,atExchanged lib ta ec psids validityHours s=some x ∧
        certOf .ok x.response=some cert ∧ x.key=kp := by
  simp only [issuedAt,Option.bind_eq_bind,Option.bind_eq_some_iff,Option.some.injEq,Prod.mk.injEq]
  constructor
  · rintro ⟨x,hx,cert',hcert,hkey,rfl⟩
    exact ⟨x,hx,hcert,hkey⟩
  · rintro ⟨x,hx,hcert,hkey⟩
    exact ⟨x,hx,cert,hcert,hkey,rfl⟩

end

end Provisioning

end V2xPki
