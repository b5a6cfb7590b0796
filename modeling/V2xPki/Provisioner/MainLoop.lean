import V2xPki.Client.Posting
import V2xPki.Provisioner.PairOnDisk
import V2xPki.Request.SignatureCurve

namespace V2xPki

/-- The first second at which a certificate is no longer valid, as `valid_at` computes it. -/
def CertInfo.expiry (ci : CertInfo) : Int :=
  ((ci.validityStart.toNat : Int)+(ci.validityDurationSeconds.toNat : Int).bmod (2^64)).bmod (2^64)

/-- From a time at which it is valid on, a certificate is valid until it expires. -/
theorem CertInfo.validAt_later {ci : CertInfo} {t u : Int} (h : ci.validAt t=true) (hle : t≤u) :
    ci.validAt u=true ↔ u<ci.expiry := by
  unfold CertInfo.validAt at h ⊢
  split at h
  · cases h
  rename_i hne
  have ht := of_decide_eq_true h
  rw [if_neg hne,decide_eq_true_eq]
  constructor
  · intro hu
    exact hu.2
  · intro hu
    exact ⟨ht.1.trans hle,hu⟩

namespace Provisioning

open Framework PkiClient

/-- The settings of the continuous mode. The time to sleep after a rotation is a product of
floating-point numbers, cast to seconds: any number. -/
structure Config where
  pkiBaseUrl : String
  tlmHid8 : String
  outputDir : String
  validityPeriodHours : Int
  rotationSeconds : Int
  psids : List Int
  ecValidityDays : Int
  curve : Curve

/-- A request for a ticket: when it was posted, the EC that was used for it, and its octets. -/
structure PostedAt where
  unixNow : Int
  ec : EnrolledEc
  body : Bytes

/-- The variables of the loop, the clock, the files and what was posted so far, newest first. -/
structure LoopState where
  now : Int
  ec : EnrolledEc
  files : Files UInt8
  posted : List PostedAt

/-- What one turn of the loop finds: how long it takes to get to its request and then to its
end, its surroundings, and how its writes go. -/
structure Turn where
  lag : Nat
  took : Nat
  found : RotateSetting
  writes : PairWrites

/-- `sleep_interruptible`, while the program runs. -/
def slept (seconds : Int) : Nat := seconds.toNat

section
variable (lib : Lib) (pem : KeyPem) (cfg : Config) (ta : TrustAnchors)

/-- The requests in what a rotation sent. -/
def postedAt (now : Int) (ec : EnrolledEc) (sent : List Event) : List PostedAt :=
  (posted [] sent).map fun body => ⟨now,ec,body⟩

/-- One turn of the loop: a rotation, and a sleep of a minute if it fails. -/
def turn (t : Turn) (s : LoopState) : LoopState :=
  let now := s.now+t.lag
  let r := rotation lib pem ta s.ec cfg.psids cfg.validityPeriodHours cfg.outputDir
    {t.found with unixNow := now} t.writes s.files
  let pause := match r.2.1 with
    | none => 60
    | some _ => cfg.rotationSeconds
  {s with
    now := now+t.took+slept pause
    files := r.2.2
    posted := postedAt now s.ec r.1++s.posted}

/-- What happens before the loop: trust is discovered, the anchors are written, and an EC is
enrolled. -/
structure Started (w : World) (s : LoopState) : Prop where
  discovered : discover lib w cfg.pkiBaseUrl cfg.tlmHid8=some ta
  anchored : ∃ files r,(writeAnchors files ta cfg.outputDir r).1=true ∧
    (writeAnchors files ta cfg.outputDir r).2=s.files
  enrolled : ∃ found : EnrolSetting,found.unixNow ≤ s.now ∧
    enrolEc lib ta cfg.ecValidityDays cfg.curve found=some s.ec
  unposted : s.posted=[]

/-- The request carries an `ecSignature` that was made with the key of its EC and names it. -/
def SignedWithEc (e : PostedAt) : Prop :=
  ∃ desc atPriv entropy req,
    encodeAtRequest lib desc ta.aa ta.ea e.ec.cert e.ec.canonicalKp.privateKey.toVector atPriv
      entropy=.ok req ∧ req.encoded.toVector=e.body ∧
    ∃ signedExt,SealedEcSignature lib ta.aa ta.ea entropy e.body signedExt ∧
      ComputedOn lib e.ec.cert.curve e.ec.cert e.ec.canonicalKp.privateKey.toVector
        entropy.external.nonce signedExt

/-- What holds of the requests of a loop that began in `start`. -/
structure PostedInLoop (start s : LoopState) : Prop where
  sameEc : s.ec=start.ec
  later : start.now ≤ s.now
  signed : ∀ e∈s.posted,e.ec=start.ec ∧ start.now≤e.unixNow ∧ SignedWithEc lib ta e

end

section
variable {lib : Lib} {pem : KeyPem} {cfg : Config} {ta : TrustAnchors}

/-- A rotation sends the request it made, and without one nothing. -/
theorem rotation_posted {ec : EnrolledEc} {psids : List Int} {validityHours : Int} {dir : String}
    {found : RotateSetting} {r : PairWrites} {files : Files UInt8} :
    posted [] (rotation lib pem ta ec psids validityHours dir found r files).1=
      ((atRequest lib ta ec psids validityHours found).map (·.2.encoded.toVector)).toList := by
  unfold rotation atAttempt
  cases atRequest lib ta ec psids validityHours found with
  | none => rfl
  | some made => rfl

/-- The request of a turn is signed with the EC of the loop, at a time of the turn. -/
theorem rotation_signed {t : Turn} {s : LoopState} {e : PostedAt}
    (h : e∈postedAt (s.now+t.lag) s.ec (rotation lib pem ta s.ec cfg.psids
      cfg.validityPeriodHours cfg.outputDir {t.found with unixNow := s.now+t.lag} t.writes
      s.files).1) :
    e.ec=s.ec ∧ s.now≤e.unixNow ∧ SignedWithEc lib ta e := by
  obtain ⟨body,hbody,rfl⟩ := List.mem_map.mp h
  rw [rotation_posted,Option.mem_toList] at hbody
  obtain ⟨⟨kp,req⟩,hmade,rfl⟩ := Option.map_eq_some_iff.mp hbody
  obtain ⟨-,hreq⟩ := atRequest_some.mp hmade
  refine ⟨rfl,?_,_,_,_,_,hreq,rfl,request_sealedOn hreq⟩
  show s.now ≤ s.now+(t.lag : Int)
  omega

theorem turn_posted {start s : LoopState} (h : PostedInLoop lib ta start s) (t : Turn) :
    PostedInLoop lib ta start (turn lib pem cfg ta t s) := by
  constructor
  · exact h.sameEc
  · have hle := h.later
    simp only [turn]
    omega
  · intro e he
    rcases List.mem_append.mp he with hnew | hold
    · obtain ⟨hec,hlater,hsigned⟩ := rotation_signed hnew
      exact ⟨hec.trans h.sameEc,h.later.trans hlater,hsigned⟩
    · exact h.signed e hold

end

/-- The EC of the loop is the one enrolled before it, in every run: it is never renewed. Every
request is signed with it; if it is valid when the loop begins, then it is at a request exactly
if that is posted before it expires. -/
theorem loop_keeps_first_ec {lib : Lib} {pem : KeyPem} {cfg : Config} {ta : TrustAnchors}
    {w : World} {start s : LoopState} (hstart : Started lib cfg ta w start)
    (h : Reachable (·=start) (turn lib pem cfg ta) (fun _ _ => True) s) :
    s.ec=start.ec ∧
    ∀ e∈s.posted,e.ec=start.ec ∧ SignedWithEc lib ta e ∧
      (start.ec.cert.validAt (unixToTaiSeconds start.now)=true →
        (e.ec.cert.validAt (unixToTaiSeconds e.unixNow)=true ↔
          unixToTaiSeconds e.unixNow<start.ec.cert.expiry)) := by
  have hloop : PostedInLoop lib ta start s := by
    apply h.invariant (PostedInLoop lib ta start)
    · rintro s rfl
      refine ⟨rfl,Int.le_refl _,?_⟩
      rw [hstart.unposted]
      intro e he
      cases he
    · intro s t hs _
      exact turn_posted hs t
  refine ⟨hloop.sameEc,?_⟩
  intro e he
  obtain ⟨hec,hlater,hsigned⟩ := hloop.signed e he
  refine ⟨hec,hsigned,?_⟩
  intro hvalid
  have hle : unixToTaiSeconds start.now≤unixToTaiSeconds e.unixNow := by
    unfold unixToTaiSeconds
    omega
  rw [hec]
  exact CertInfo.validAt_later hvalid hle

end Provisioning

namespace Sample

open Framework PkiClient Provisioning

/-- An EC for thirty days, and tickets for 1000 hours that are replaced after 0.8 of that
time. -/
def longConfig : Config where
  pkiBaseUrl := "https://tlm"
  tlmHid8 := ""
  outputDir := "out"
  validityPeriodHours := ticketHours
  rotationSeconds := 2880000
  psids := ticketPsids
  ecValidityDays := 30
  curve := .nistP256

def anchorWrites : AnchorWrites := ⟨wholeWrites.cert,wholeWrites.cert⟩

/-- The loop as it begins, in the second in which the EC was enrolled. -/
def loopBegin : LoopState :=
  ⟨1200000000,enrolledStation,(writeAnchors .empty fleetAnchors "out" anchorWrites).2,[]⟩

/-- A turn that gets its ticket, and one that gets no answer. -/
def ticketTurn : Turn := ⟨0,0,answeredRotation 22 1200000000,wholeWrites⟩

def lateTurn : Turn := ⟨0,0,rotation 23 1202880000 noAnswer,wholeWrites⟩

/-- The loop after its first rotation and the sleep that follows it. -/
def loopSlept : LoopState := turn pairLib keyPem longConfig fleetAnchors ticketTurn loopBegin

theorem loopBegin_started : Started pairLib longConfig fleetAnchors fleetServer loopBegin := by
  have hta : discover pairLib fleetServer "https://tlm" ""=some fleetAnchors := by decide +kernel
  have hec : enrolEc pairLib fleetAnchors 30 .nistP256 (enrolment stationEc)=
      some enrolledStation := by decide +kernel
  have hwritten := writeAnchors_reported .empty fleetAnchors "out" anchorWrites
  exact ⟨hta,⟨.empty,anchorWrites,hwritten,rfl⟩,⟨enrolment stationEc,Int.le_refl _,hec⟩,rfl⟩

theorem loop_reaches (t : Turn) {s : LoopState}
    (h : Reachable (·=loopBegin) (turn pairLib keyPem longConfig fleetAnchors) (fun _ _ => True)
      s) :
    Reachable (·=loopBegin) (turn pairLib keyPem longConfig fleetAnchors) (fun _ _ => True)
      (turn pairLib keyPem longConfig fleetAnchors t s) := h.next t trivial

/-- The first request of the station. -/
theorem first_request_under_live_ec :
    ∃ e∈loopSlept.posted,e.ec=enrolledStation ∧ SignedWithEc pairLib fleetAnchors e ∧
      e.ec.cert.validAt (unixToTaiSeconds e.unixNow)=true := by
  have hposted : loopSlept.posted.map (·.unixNow)=[1200000000] := by decide +kernel
  obtain ⟨e,hmem,hnow⟩ := List.mem_map.mp (hposted▸List.mem_singleton.mpr rfl)
  have hreach := loop_reaches ticketTurn (Reachable.start rfl)
  obtain ⟨-,hall⟩ := loop_keeps_first_ec loopBegin_started hreach
  obtain ⟨hec,hsigned,hvalid⟩ := hall e hmem
  have hlive : loopBegin.ec.cert.validAt (unixToTaiSeconds loopBegin.now)=true := by decide +kernel
  refine ⟨e,hmem,hec,hsigned,(hvalid hlive).mpr ?_⟩
  rw [hnow]
  decide +kernel

/-- The loop after its second rotation. -/
def loopLate : LoopState := turn pairLib keyPem longConfig fleetAnchors lateTurn loopSlept

/-- The second one, after more than thirty days, is signed with the EC that was enrolled at
the start. -/
theorem late_request_under_dead_ec :
    Started pairLib longConfig fleetAnchors fleetServer loopBegin ∧
    loopBegin.ec.cert.validAt (unixToTaiSeconds loopBegin.now)=true ∧
    ∃ s,Reachable (·=loopBegin) (turn pairLib keyPem longConfig fleetAnchors) (fun _ _ => True) s ∧
      ∃ e∈s.posted,SignedWithEc pairLib fleetAnchors e ∧
        e.ec.cert.validAt (unixToTaiSeconds e.unixNow)=false := by
  have hposted : (loopLate.posted.map fun e =>
      e.ec.cert.validAt (unixToTaiSeconds e.unixNow))=[false,true] := by decide +kernel
  obtain ⟨e,hmem,hdead⟩ := List.mem_map.mp (hposted▸List.mem_cons_self)
  have hslept : PostedInLoop pairLib fleetAnchors loopBegin loopSlept :=
    turn_posted ⟨rfl,Int.le_refl _,by rintro e ⟨⟩⟩ ticketTurn
  have hreach := loop_reaches lateTurn (loop_reaches ticketTurn (Reachable.start rfl))
  exact ⟨loopBegin_started,by decide +kernel,_,hreach,e,hmem,
    ((turn_posted hslept lateTurn).signed e hmem).2.2,hdead⟩

end Sample

end V2xPki
