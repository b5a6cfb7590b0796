import V2xPki.Provisioner.Flow
import V2xPki.Sample.Provisioning

namespace V2xPki

namespace Provisioning

open Framework PkiClient

/-- One call of `rotate_at`: its arguments, what it finds and how its writes go. -/
structure RotateCall where
  ta : TrustAnchors
  ec : EnrolledEc
  psids : List Int
  validityHours : Int
  setting : RotateSetting
  writes : PairWrites

section
variable (lib : Lib) (pem : KeyPem) (dir : String)

def RotateCall.issued (call : RotateCall) : Option (KeyPair × CertInfo) :=
  issuedAt lib call.ta call.ec call.psids call.validityHours call.setting

def RotateCall.run (call : RotateCall) (files : Files UInt8) : Option HashedId8 × Files UInt8 :=
  rotateAt lib pem call.ta call.ec call.psids call.validityHours dir call.setting call.writes files

def rotateStep (call : RotateCall) (files : Files UInt8) : Files UInt8 :=
  (call.run lib pem dir files).2

/-- The verification key of a certificate file, with its curve. -/
def certFileKey (content : Bytes) : Option (Curve × Bytes) := do
  let cert ← Coer.decode lib.asn.certificateBase content
  let key := Cert.parseVerificationKey cert
  let point ← Crypto.evpPkeyFromPublic lib.ssl key.1 key.2
  some (key.2,point)

/-- The public key of a key file, on the curve its PEM names. -/
def keyFileKey (content : Bytes) : Option (Curve × Bytes) := do
  let pkey ← pem.read content
  let point ← lib.ssl.publicOf pkey.curve pkey.priv
  some (pkey.curve,point)

def BelongTogether (coer key : Bytes) : Prop :=
  ∃ k,certFileKey lib coer=some k ∧ keyFileKey lib pem key=some k

/-- Once both files exist, they belong together. -/
def PairMatches (files : Files UInt8) : Prop :=
  ∀ coer key,files (dir++"/AT.coer")=some coer → files (dir++"/AT.key")=some key →
    BelongTogether lib pem coer key

/-- A certificate that is not empty and carries the public key of the pair on this curve. -/
structure CarriesKey (curve : Curve) (kp : KeyPair) (cert : CertInfo) : Prop where
  encoded : cert.certBytes.empty=false
  curve_eq : cert.curve=curve
  point : Crypto.evpPkeyFromPublic lib.ssl cert.publicKey.toVector curve=
    some kp.publicKey.toVector

/-- What has to be right where `AT.coer` is replaced: all of it reaches the disk and `AT.key` is
replaced as well, in full; the certificate carries the key of the request; and the curve of the
EC is one that a key file can name. -/
structure ReplacesPair (call : RotateCall) (kp : KeyPair) (cert : CertInfo) : Prop where
  certWhole : call.writes.cert.Whole cert.certBytes.toVector.length
  keyReplaced : call.writes.key.reported=true
  keyWhole : ∀ pkey,pemKey lib.ssl pem kp.privateKey.toVector call.ec.cert.curve=some pkey →
    call.writes.key.Whole (pem.write pkey).length
  carried : CarriesKey lib call.ec.cert.curve kp cert
  named : pemGroup call.ec.cert.curve=call.ec.cert.curve

/-- The condition on one call. The scalar is one that OpenSSL draws. -/
structure GoesWell (laws : CryptoLaws lib.ssl) (call : RotateCall) (_ : Files UInt8) : Prop where
  drawn : ∀ d,call.setting.scalar=some d → 0<d ∧ d<laws.order call.ec.cert.curve
  replaces : ∀ kp cert,call.issued lib=some (kp,cert) → call.writes.cert.reported=true →
    ReplacesPair lib pem call kp cert

end

section
variable {lib : Lib} {pem : KeyPem} {dir : String} {laws : CryptoLaws lib.ssl}
variable {call : RotateCall} {files : Files UInt8} {kp : KeyPair} {cert : CertInfo}

/-- The four names that a rotation touches are different. -/
theorem pair_names (dir : String) :
    dir++"/AT.key"≠dir++"/AT.coer" ∧ dir++"/AT.key"≠dir++"/AT.coer"++".tmp" ∧
    dir++"/AT.coer"≠dir++"/AT.key"++".tmp" := by
  have hne : ∀ a b : String,a.length≠b.length → a≠b := by
    rintro a b h rfl
    exact h rfl
  refine ⟨?_,?_,?_⟩
  · apply hne
    simp only [String.length_append]
    have h : "/AT.key".length≠"/AT.coer".length := by decide
    omega
  · apply hne
    simp only [String.length_append]
    have h : "/AT.key".length≠"/AT.coer".length+".tmp".length := by decide
    omega
  · apply hne
    simp only [String.length_append]
    have h : "/AT.coer".length≠"/AT.key".length+".tmp".length := by decide
    omega

/-- The key pair of a rotation is one on the curve of the EC, and its certificate is parsed
from a re-encoding of what the AA sent. -/
theorem issued_parts (h : call.issued lib=some (kp,cert))
    (hdrawn : ∀ d,call.setting.scalar=some d → 0<d ∧ d<laws.order call.ec.cert.curve) :
    KeyPairOn laws call.ec.cert.curve kp.privateKey.toVector kp.publicKey.toVector ∧
    ∃ u c,cert=responseCertificate lib u "at_response" c := by
  obtain ⟨x,hx,hcert,hkey⟩ := issuedAt_some.mp h
  obtain ⟨kp',req,body,resp,hreq,-,hresp,rfl⟩ := atExchanged_some hx
  obtain ⟨hgen,-⟩ := atRequest_some.mp hreq
  cases hkey
  have hscalar : Crypto.DrawsScalar laws call.ec.cert.curve ⟨call.setting.scalar,none,none⟩ :=
    hdrawn
  refine ⟨Crypto.generateKeypair_keyPair hscalar hgen,?_⟩
  obtain ⟨c,hc⟩ := decodeResponse_certificate lib hresp (certOf_some.mp hcert).2
  exact ⟨_,c,hc⟩

/-- The certificate file then has the public key of the pair. -/
theorem certFileKey_of_carries (hcodec : lib.asn.certificateBase.RoundTrip) {curve : Curve}
    {u : HashedId8} {label : String} {c : Asn.CertificateBase}
    (h : CarriesKey lib curve kp (responseCertificate lib u label c)) :
    certFileKey lib (responseCertificate lib u label c).certBytes.toVector=
      some (curve,kp.publicKey.toVector) := by
  obtain ⟨hne,rfl,hpoint⟩ := h
  have hne := StaticBytes.empty_eq_false.mp hne
  have hbytes : (responseCertificate lib u label c).certBytes.toVector=
      Coer.encode lib.asn.certificateBase c := by
    apply StaticBytes.orEmpty_of_ne_nil
    exact hne
  have hkey : (responseCertificate lib u label c).publicKey.toVector=
      (Cert.parseVerificationKey c).1 := by
    apply StaticBytes.orEmpty_of_ne_nil
    exact Crypto.evpPkeyFromPublic_ne_nil hpoint
  have hencode : lib.asn.certificateBase.encode c=
      some (Coer.encode lib.asn.certificateBase c) := by
    apply Coer.encode_ne_nil
    rw [← hbytes]
    exact hne
  have hread := Coer.decode_encode hcodec hencode
  rw [hkey] at hpoint
  rw [hbytes]
  simp only [certFileKey,hread,Option.bind_eq_bind,Option.bind_some]
  have hcurve : (responseCertificate lib u label c).curve=(Cert.parseVerificationKey c).2 := rfl
  rw [hcurve] at hpoint ⊢
  rw [hpoint]
  rfl

/-- The key file of a pair has its public key. -/
theorem keyFileKey_of_keyPair (hpem : pem.ReadsBack) (hbuild : pem.Builds laws) {curve : Curve}
    {priv point : Bytes} (hkey : KeyPairOn laws curve priv point) :
    keyFileKey lib pem (pem.write ⟨curve,natOfBytes priv,point⟩)=some (curve,point) := by
  have hdata := hbuild curve _ point hkey.pos hkey.lt hkey.public_
  simp only [keyFileKey,hpem _ _ _ hdata,hkey.public_,Option.bind_eq_bind,Option.bind_some]

/-- A call that does not replace `AT.coer` changes neither file and fails. -/
theorem run_unreplaced (pem : KeyPem) (dir : String) (h : ∀ kp cert,call.issued lib=some (kp,cert) →
      call.writes.cert.reported=false) (files : Files UInt8) :
    (call.run lib pem dir files).1=none ∧
    rotateStep lib pem dir call files (dir++"/AT.coer")=files (dir++"/AT.coer") ∧
    rotateStep lib pem dir call files (dir++"/AT.key")=files (dir++"/AT.key") := by
  unfold rotateStep RotateCall.run rotateAt
  unfold RotateCall.issued at h
  cases hissued : issuedAt lib call.ta call.ec call.psids call.validityHours call.setting with
  | none => exact ⟨rfl,rfl,rfl⟩
  | some granted =>
    obtain ⟨kp,cert⟩ := granted
    have hfailed := h kp cert hissued
    have hreported := atomicWrite_reported files (dir++"/AT.coer") cert.certBytes.toVector
      call.writes.cert
    rw [hfailed] at hreported
    obtain ⟨hkey,htmp,-⟩ := pair_names dir
    simp only [writePair,hreported,if_true]
    exact ⟨rfl,atomicWrite_failed hfailed,atomicWrite_other htmp hkey⟩

/-- A call whose key file is not replaced fails, whatever became of the certificate. -/
theorem run_key_failed (h : call.writes.key.reported=false) (files : Files UInt8) :
    (call.run lib pem dir files).1=none := by
  unfold RotateCall.run rotateAt
  cases issuedAt lib call.ta call.ec call.psids call.validityHours call.setting with
  | none => rfl
  | some granted =>
    obtain ⟨kp,cert⟩ := granted
    have hpair : (writePair lib pem files dir cert kp call.ec.cert.curve call.writes).1=false := by
      unfold writePair
      dsimp only
      split
      · assumption
      · unfold atomicWriteKeyPem
        split
        · rfl
        · rw [atomicWrite_reported]
          exact h
    simp only [hpair,Bool.false_eq_true,if_false]

/-- A call that replaces `AT.coer` and goes well leaves a new pair that belongs together. -/
theorem run_replaced (dir : String) (hcodec : lib.asn.certificateBase.RoundTrip) (hpem : pem.ReadsBack)
    (hbuild : pem.Builds laws) (hwell : GoesWell lib pem laws call files)
    (hissued : call.issued lib=some (kp,cert)) (hreported : call.writes.cert.reported=true) :
    (call.run lib pem dir files).1≠none ∧
    ∃ coer key,rotateStep lib pem dir call files (dir++"/AT.coer")=some coer ∧
      rotateStep lib pem dir call files (dir++"/AT.key")=some key ∧
      BelongTogether lib pem coer key := by
  obtain ⟨hcert,hkeyReplaced,hkeyWhole,hcarried,hnamed⟩ := hwell.replaces kp cert hissued hreported
  obtain ⟨hpair,u,c,rfl⟩ := issued_parts hissued hwell.drawn
  have hpkey := pemKey_keyPair hbuild hnamed hpair
  obtain ⟨hkeyCoer,-,hother⟩ := pair_names dir
  -- the certificate is written first, and the key does not touch it
  have hfirst := atomicWrite_reported files (dir++"/AT.coer")
    (responseCertificate lib u "at_response" c).certBytes.toVector call.writes.cert
  rw [hreported] at hfirst
  have hcoer : (atomicWrite files (dir++"/AT.coer")
      (responseCertificate lib u "at_response" c).certBytes.toVector call.writes.cert).2
      (dir++"/AT.coer")=some _ := atomicWrite_worked hreported hcert
  unfold RotateCall.issued at hissued
  unfold rotateStep RotateCall.run rotateAt
  simp only [hissued,writePair,hfirst,Bool.true_eq_false,if_false,atomicWriteKeyPem,hpkey,
    atomicWrite_reported,hkeyReplaced,if_true]
  refine ⟨Option.some_ne_none _,_,_,?_,atomicWrite_worked hkeyReplaced (hkeyWhole _ hpkey),
    _,certFileKey_of_carries hcodec hcarried,keyFileKey_of_keyPair hpem hbuild hpair⟩
  exact (atomicWrite_other hother hkeyCoer.symm).trans hcoer

/-- One call that goes well keeps the pair or replaces both files of it. -/
theorem rotateStep_matches (hcodec : lib.asn.certificateBase.RoundTrip) (hpem : pem.ReadsBack)
    (hbuild : pem.Builds laws) (hfiles : PairMatches lib pem dir files)
    (hwell : GoesWell lib pem laws call files) :
    PairMatches lib pem dir (rotateStep lib pem dir call files) ∧
    ((call.run lib pem dir files).1=none →
      rotateStep lib pem dir call files (dir++"/AT.coer")=files (dir++"/AT.coer") ∧
      rotateStep lib pem dir call files (dir++"/AT.key")=files (dir++"/AT.key")) := by
  by_cases hreplaced : ∃ kp cert,call.issued lib=some (kp,cert) ∧ call.writes.cert.reported=true
  · obtain ⟨kp,cert,hissued,hreported⟩ := hreplaced
    obtain ⟨hreturned,coer,key,hcoer,hkey,htogether⟩ :=
      run_replaced dir hcodec hpem hbuild hwell hissued hreported
    refine ⟨?_,fun hnone => absurd hnone hreturned⟩
    intro coer' key' hcoer' hkey'
    obtain rfl := Option.some.inj (hcoer.symm.trans hcoer')
    obtain rfl := Option.some.inj (hkey.symm.trans hkey')
    exact htogether
  · have hkept : ∀ kp cert,call.issued lib=some (kp,cert) → call.writes.cert.reported=false := by
      intro kp cert hissued
      by_contra hreported
      exact hreplaced ⟨kp,cert,hissued,by simpa using hreported⟩
    obtain ⟨-,hcoer,hkey⟩ := run_unreplaced pem dir hkept files
    refine ⟨?_,fun _ => ⟨hcoer,hkey⟩⟩
    intro coer key hcoer' hkey'
    exact hfiles coer key (hcoer.symm.trans hcoer') (hkey.symm.trans hkey')

end

/-- In every run of rotations that go well, on a directory with no pair or a matching one, the
pair matches in every state, and a call that then fails leaves both files as they were. -/
theorem pair_matches_of_goesWell {lib : Lib} {pem : KeyPem} {dir : String}
    {laws : CryptoLaws lib.ssl} (hcodec : lib.asn.certificateBase.RoundTrip)
    (hpem : pem.ReadsBack) (hbuild : pem.Builds laws) {files : Files UInt8}
    (h : Reachable (PairMatches lib pem dir) (rotateStep lib pem dir) (GoesWell lib pem laws)
      files) :
    PairMatches lib pem dir files ∧
    ∀ call,GoesWell lib pem laws call files → (call.run lib pem dir files).1=none →
      rotateStep lib pem dir call files (dir++"/AT.coer")=files (dir++"/AT.coer") ∧
      rotateStep lib pem dir call files (dir++"/AT.key")=files (dir++"/AT.key") := by
  have hfiles : PairMatches lib pem dir files := by
    apply h.invariant (PairMatches lib pem dir)
    · intro s hs
      exact hs
    · intro s call hs hwell
      exact (rotateStep_matches hcodec hpem hbuild hs hwell).1
  refine ⟨hfiles,?_⟩
  intro call hwell
  exact (rotateStep_matches hcodec hpem hbuild hfiles hwell).2

end Provisioning

namespace Sample

open Framework PkiClient Provisioning

def pairLib : Lib := fleetStationLib [(22,1200000000),(23,1202880000)]

def pairLaws : CryptoLaws pairLib.ssl := curvedLaws

def firstRotation : RotateCall :=
  ⟨fleetAnchors,enrolledStation,ticketPsids,ticketHours,answeredRotation 22 1200000000,wholeWrites⟩

/-- The second rotation replaces the certificate, and then cannot open the key file. -/
def cutOffRotation : RotateCall :=
  ⟨fleetAnchors,enrolledStation,ticketPsids,ticketHours,answeredRotation 23 1202880000,
    {wholeWrites with key := ⟨.notOpened,false,false⟩}⟩

def firstPair : Files UInt8 := rotateStep pairLib keyPem "out" firstRotation .empty

def brokenPair : Files UInt8 := rotateStep pairLib keyPem "out" cutOffRotation firstPair

theorem out_names : "out"++"/AT.coer"="out/AT.coer" ∧ "out"++"/AT.key"="out/AT.key" := by
  decide

theorem keyPem_builds : keyPem.Builds curvedLaws := by
  intro c d p hpos hlt hp
  have hlen : d<256^c.scalarLen := hlt.trans_le (curvedLaws.order_le c)
  have hok := (curvedLaws.exported c d p hpos hlt hp).2.2
  simp only [keyPem,hok,Bool.and_true,decide_eq_true_eq]
  exact ⟨hpos,hlen⟩

theorem pairLib_codec : pairLib.asn.certificateBase.RoundTrip :=
  Codec.table_roundTrip _ (by decide +kernel)

/-- The AA grants a ticket for the key of the request. -/
theorem firstRotation_granted :
    ∃ kp cert,firstRotation.issued pairLib=some (kp,cert) ∧
      firstRotation.ec.cert.curve=.nistP256 ∧ CarriesKey pairLib .nistP256 kp cert ∧
      ∀ pkey,pemKey pairLib.ssl keyPem kp.privateKey.toVector .nistP256=some pkey →
        (keyPem.write pkey).length≤kMaxCoerMessageLen := by
  have hcheck : (firstRotation.issued pairLib).map (fun p =>
      (firstRotation.ec.cert.curve,p.2.certBytes.empty,p.2.curve,
        decide (Crypto.evpPkeyFromPublic pairLib.ssl p.2.publicKey.toVector .nistP256=
          some p.1.publicKey.toVector),
        (pemKey pairLib.ssl keyPem p.1.privateKey.toVector .nistP256).all (fun pkey =>
          decide ((keyPem.write pkey).length≤kMaxCoerMessageLen))))=
      some (.nistP256,false,.nistP256,true,true) := by decide +kernel
  obtain ⟨⟨kp,cert⟩,hissued,hsum⟩ := Option.map_eq_some_iff.mp hcheck
  simp only [Prod.mk.injEq] at hsum
  obtain ⟨hcurve,hne,hon,hpoint,hkey⟩ := hsum
  refine ⟨kp,cert,hissued,hcurve,⟨hne,hon,of_decide_eq_true hpoint⟩,?_⟩
  intro pkey hpkey
  rw [hpkey] at hkey
  exact of_decide_eq_true hkey

theorem firstRotation_goesWell (files : Files UInt8) :
    GoesWell pairLib keyPem pairLaws firstRotation files := by
  obtain ⟨kp,cert,hissued,hcurve,hcarries,hfits⟩ := firstRotation_granted
  constructor
  · intro d hd
    obtain rfl : 22=d := Option.some.inj hd
    rw [hcurve]
    decide +kernel
  · intro kp' cert' hissued' _
    obtain ⟨rfl,rfl⟩ := Prod.mk.inj (Option.some.inj (hissued.symm.trans hissued'))
    constructor
    · exact fun _ => ⟨cert.certBytes.size_le,rfl⟩
    · rfl
    · intro pkey hpkey _
      rw [hcurve] at hpkey
      exact ⟨hfits pkey hpkey,rfl⟩
    · rw [hcurve]
      exact hcarries
    · rw [hcurve]
      rfl

/-- A station gets its first pair. -/
theorem first_pair_matches :
    PairMatches pairLib keyPem "out" firstPair ∧
    ∃ coer key,firstPair "out/AT.coer"=some coer ∧ firstPair "out/AT.key"=some key := by
  have hempty : PairMatches pairLib keyPem "out" Files.empty := by
    intro coer key h
    cases h
  have hstart : Reachable (PairMatches pairLib keyPem "out") (rotateStep pairLib keyPem "out")
      (GoesWell pairLib keyPem pairLaws) Files.empty := Reachable.start hempty
  have hwell := firstRotation_goesWell Files.empty
  obtain ⟨hmatches,-⟩ := pair_matches_of_goesWell pairLib_codec keyPem_readsBack keyPem_builds
    (hstart.next firstRotation hwell)
  obtain ⟨kp,cert,hissued,-⟩ := firstRotation_granted
  obtain ⟨-,coer,key,hcoer,hkey,-⟩ := run_replaced "out" pairLib_codec keyPem_readsBack
    keyPem_builds hwell hissued rfl
  rw [out_names.1] at hcoer
  rw [out_names.2] at hkey
  exact ⟨hmatches,coer,key,hcoer,hkey⟩

/-- What the two rotations leave: the certificate has changed, and it and the key have
different public keys. -/
theorem cutOffRotation_leaves :
    ∃ coer key,brokenPair "out/AT.coer"=some coer ∧ brokenPair "out/AT.key"=some key ∧
      firstPair "out/AT.coer"≠some coer ∧ certFileKey pairLib coer≠keyFileKey pairLib keyPem key := by
  have hcheck : (brokenPair "out/AT.coer").bind (fun coer =>
      (brokenPair "out/AT.key").map fun key =>
        (decide (firstPair "out/AT.coer"=some coer),
          decide (certFileKey pairLib coer=keyFileKey pairLib keyPem key)))=
      some (false,false) := by decide +kernel
  obtain ⟨coer,hcoer,hrest⟩ := Option.bind_eq_some_iff.mp hcheck
  obtain ⟨key,hkey,hsum⟩ := Option.map_eq_some_iff.mp hrest
  obtain ⟨hchanged,hapart⟩ := Prod.mk.inj hsum
  exact ⟨coer,key,hcoer,hkey,of_decide_eq_false hchanged,of_decide_eq_false hapart⟩

/-- The failed call leaves a certificate for a key that is not on the disk. -/
theorem cut_off_rotation_breaks_pair :
    Reachable (·=Files.empty) (rotateStep pairLib keyPem "out") (fun _ _ => True) brokenPair ∧
    (cutOffRotation.run pairLib keyPem "out" firstPair).1=none ∧
    brokenPair "out/AT.coer"≠firstPair "out/AT.coer" ∧
    ¬PairMatches pairLib keyPem "out" brokenPair := by
  have hempty : Reachable (·=Files.empty) (rotateStep pairLib keyPem "out") (fun _ _ => True)
      Files.empty := Reachable.start rfl
  have hfirst : Reachable (·=Files.empty) (rotateStep pairLib keyPem "out") (fun _ _ => True)
      firstPair := hempty.next firstRotation trivial
  obtain ⟨coer,key,hcoer,hkey,hchanged,hapart⟩ := cutOffRotation_leaves
  refine ⟨hfirst.next cutOffRotation trivial,?_,?_,?_⟩
  · exact run_key_failed rfl firstPair
  · intro hsame
    exact hchanged (hsame.symm.trans hcoer)
  · intro hmatches
    rw [← out_names.1] at hcoer
    rw [← out_names.2] at hkey
    obtain ⟨k,hk,hk'⟩ := hmatches coer key hcoer hkey
    exact hapart (hk.trans hk'.symm)

end Sample

end V2xPki
