import V2xPki.Provisioner.Main

namespace V2xPki

namespace Provisioning

open Framework PkiClient FileStep

/-- What a run of the loop is held to: the seconds a turn takes up to the end of its rotation, how
many rotations fail in a row, and the seconds for which a ticket is granted. -/
structure Bounds where
  turnSeconds : Nat
  failures : Nat
  validSeconds : Nat

namespace Bounds

/-- The time lost by rotations that fail. -/
def lost (b : Bounds) (failures : Nat) : Nat := failures*(b.turnSeconds+60)

/-- A ticket outlives the sleep, the turn before it, the turn after it and all failures between. -/
def Suffice (b : Bounds) (rotationSeconds : Int) : Prop :=
  slept rotationSeconds+2*b.turnSeconds+b.lost b.failures<b.validSeconds

theorem lost_succ (b : Bounds) (n : Nat) : b.lost (n+1)=b.lost n+(b.turnSeconds+60) :=
  Nat.succ_mul n _

theorem lost_le (b : Bounds) {n m : Nat} (h : n ≤ m) : b.lost n≤b.lost m :=
  Nat.mul_le_mul_right _ h

end Bounds

/-- The loop, and how many rotations have failed since the last one that worked. -/
structure Watched where
  loop : LoopState
  failures : Nat

section
variable (lib : Lib) (pem : KeyPem) (cfg : Config) (ta : TrustAnchors)

/-- The rotation of the turn returns an identifier. -/
def TurnWorks (t : Turn) (s : LoopState) : Prop :=
  ((rotationOf cfg ta t s).run lib pem cfg.outputDir s.files).1.isSome=true

instance (t : Turn) (s : LoopState) : Decidable (TurnWorks lib pem cfg ta t s) :=
  inferInstanceAs (Decidable (_=true))

def watch (t : Turn) (w : Watched) : Watched :=
  ⟨turn lib pem cfg ta t w.loop,if TurnWorks lib pem cfg ta t w.loop then 0 else w.failures+1⟩

/-- A file that is a certificate, valid at this time. -/
def ValidFile (content : Option Bytes) (unixNow : Int) : Prop :=
  ∃ coer,content=some coer ∧
    (Cert.fromCoer lib .zero coer).validAt (unixToTaiSeconds unixNow)=true

/-- A ticket that replaces the one on the disk does so in full, and is valid for that many seconds
from its request on. -/
def GrantedFor (validSeconds : Nat) (t : Turn) (s : LoopState) : Prop :=
  ∀ kp cert,(rotationOf cfg ta t s).issued lib=some (kp,cert) → t.writes.cert.reported=true →
    cert.certBytes.empty=false ∧ t.writes.cert.Whole cert.certBytes.toVector.length ∧
    cert.validAt (unixToTaiSeconds (s.now+t.lag))=true ∧
    unixToTaiSeconds (s.now+t.lag)+validSeconds≤cert.expiry

structure InTime (b : Bounds) (t : Turn) (w : Watched) : Prop where
  quick : t.lag+t.took≤b.turnSeconds
  granted : GrantedFor lib cfg ta b.validSeconds t w.loop
  recovers : (watch lib pem cfg ta t w).failures≤b.failures

/-- The loop after its first rotation that worked. -/
def FirstTicket (b : Bounds) (w : Watched) : Prop :=
  ∃ t s,TurnWorks lib pem cfg ta t s ∧ t.lag+t.took≤b.turnSeconds ∧
    GrantedFor lib cfg ta b.validSeconds t s ∧ w=⟨turn lib pem cfg ta t s,0⟩

/-- The ticket on the disk was asked for at `posted` and is valid from then on for long enough; the
time since then is accounted for. -/
structure CoveredFrom (b : Bounds) (posted : Int) (w : Watched) : Prop where
  earlier : posted≤w.loop.now
  recent : w.loop.now≤posted+b.turnSeconds+slept cfg.rotationSeconds+b.lost w.failures
  within : w.failures≤b.failures
  valid : ∀ u,posted ≤ u → u<posted+b.validSeconds →
    ValidFile lib (w.loop.files (cfg.outputDir++"/AT.coer")) u

end

section
variable {lib : Lib} {pem : KeyPem} {cfg : Config} {ta : TrustAnchors} {b : Bounds}
variable {t : Turn} {s : LoopState} {w : Watched}

/-- The certificate of a rotation was parsed from a re-encoding of what the AA sent. -/
theorem issued_certificate {call : RotateCall} {kp : KeyPair} {cert : CertInfo}
    (h : call.issued lib=some (kp,cert)) : ∃ u c,cert=responseCertificate lib u "at_response" c := by
  obtain ⟨x,hx,hcert,-⟩ := issuedAt_some.mp h
  obtain ⟨kp',req,body,resp,-,-,hresp,rfl⟩ := atExchanged_some hx
  obtain ⟨c,hc⟩ := decodeResponse_certificate lib hresp (certOf_some.mp hcert).2
  exact ⟨_,c,hc⟩

/-- Read back from its file it has the same validity. -/
theorem fromCoer_responseCertificate (hcodec : lib.asn.certificateBase.RoundTrip) {u : HashedId8}
    {label : String} {c : Asn.CertificateBase}
    (h : (responseCertificate lib u label c).certBytes.empty=false) (tai : Int) :
    (Cert.fromCoer lib .zero (responseCertificate lib u label c).certBytes.toVector).validAt tai=
      (responseCertificate lib u label c).validAt tai := by
  have hne := StaticBytes.empty_eq_false.mp h
  have hbytes : (responseCertificate lib u label c).certBytes.toVector=
      Coer.encode lib.asn.certificateBase c := StaticBytes.orEmpty_of_ne_nil hne
  rw [hbytes] at hne ⊢
  have hread := Coer.decode_encode hcodec (Coer.encode_ne_nil hne)
  rw [Cert.fromCoer,hread]
  rfl

/-- A turn that replaces the ticket puts one there that is valid from its request on. -/
theorem replaced_valid (hcodec : lib.asn.certificateBase.RoundTrip)
    (hgranted : GrantedFor lib cfg ta b.validSeconds t s) {kp : KeyPair} {cert : CertInfo}
    (hissued : (rotationOf cfg ta t s).issued lib=some (kp,cert))
    (hreported : t.writes.cert.reported=true) {u : Int} (hfrom : s.now+t.lag ≤ u)
    (hto : u<s.now+t.lag+b.validSeconds) :
    ValidFile lib ((turn lib pem cfg ta t s).files (cfg.outputDir++"/AT.coer")) u := by
  obtain ⟨hne,hwhole,hvalid,hexpiry⟩ := hgranted kp cert hissued hreported
  obtain ⟨uninit,c,rfl⟩ := issued_certificate hissued
  refine ⟨(responseCertificate lib uninit "at_response" c).certBytes.toVector,?_,?_⟩
  · rw [turn_files,rotateStep_cert hissued hreported]
    exact atomicWrite_worked hreported hwhole
  · rw [fromCoer_responseCertificate hcodec hne]
    unfold unixToTaiSeconds at hvalid hexpiry ⊢
    rw [CertInfo.validAt_later hvalid (by omega)]
    omega

/-- One that does not leaves the file as it was, and does not work. -/
theorem unreplaced_kept (h : ¬∃ kp cert,(rotationOf cfg ta t s).issued lib=some (kp,cert) ∧
      t.writes.cert.reported=true) :
    ¬TurnWorks lib pem cfg ta t s ∧ (turn lib pem cfg ta t s).files (cfg.outputDir++"/AT.coer")=
      s.files (cfg.outputDir++"/AT.coer") := by
  have hkept : ∀ kp cert,(rotationOf cfg ta t s).issued lib=some (kp,cert) →
      (rotationOf cfg ta t s).writes.cert.reported=false := by
    intro kp cert hissued
    rw [← Bool.not_eq_true]
    exact fun hreported => h ⟨kp,cert,hissued,hreported⟩
  obtain ⟨hnone,hsame,-⟩ := run_unreplaced pem cfg.outputDir hkept s.files
  refine ⟨?_,hsame⟩
  unfold TurnWorks
  rw [hnone]
  exact Bool.false_ne_true

/-- When the next turn begins. -/
theorem turn_now (t : Turn) (s : LoopState) : (turn lib pem cfg ta t s).now=
    s.now+t.lag+t.took+slept (if TurnWorks lib pem cfg ta t s then cfg.rotationSeconds else 60) := by
  have hrun : (rotation lib pem ta s.ec cfg.psids cfg.validityPeriodHours cfg.outputDir
      {t.found with unixNow := s.now+t.lag} t.writes s.files).2.1=
      ((rotationOf cfg ta t s).run lib pem cfg.outputDir s.files).1 := rfl
  cases hid : ((rotationOf cfg ta t s).run lib pem cfg.outputDir s.files).1 with
  | none =>
    have hfails : ¬TurnWorks lib pem cfg ta t s := by simp [TurnWorks,hid]
    rw [if_neg hfails]
    simp only [turn,hrun,hid]
  | some id =>
    have hworks : TurnWorks lib pem cfg ta t s := by simp [TurnWorks,hid]
    rw [if_pos hworks]
    simp only [turn,hrun,hid]

theorem watch_failures_le (t : Turn) (w : Watched) :
    (watch lib pem cfg ta t w).failures≤w.failures+1 := by
  unfold watch
  split
  · exact Nat.zero_le _
  · exact Nat.le_refl _

theorem slept_sixty : slept 60=60 := rfl

/-- A turn keeps the disk covered, by the ticket it was covered by or by the one it gets. -/
theorem watch_covered (hcodec : lib.asn.certificateBase.RoundTrip) {posted : Int}
    (hw : CoveredFrom lib cfg b posted w) (h : InTime lib pem cfg ta b t w) :
    ∃ next,posted≤next ∧ next≤w.loop.now+t.lag ∧
      CoveredFrom lib cfg b next (watch lib pem cfg ta t w) := by
  have hnow := @turn_now lib pem cfg ta t w.loop
  have hquick := h.quick
  have hrecent := hw.recent
  have hearlier := hw.earlier
  by_cases hreplaced : ∃ kp cert,(rotationOf cfg ta t w.loop).issued lib=some (kp,cert) ∧
      t.writes.cert.reported=true
  · obtain ⟨kp,cert,hissued,hreported⟩ := hreplaced
    refine ⟨w.loop.now+t.lag,by omega,Int.le_refl _,?_,?_,h.recovers,?_⟩
    · show _≤(turn lib pem cfg ta t w.loop).now
      omega
    · show (turn lib pem cfg ta t w.loop).now≤_
      rw [hnow]
      by_cases hworks : TurnWorks lib pem cfg ta t w.loop
      · rw [if_pos hworks]
        omega
      · have hlost := b.lost_succ w.failures
        simp only [watch,if_neg hworks,slept_sixty]
        omega
    · intro u hfrom hto
      exact replaced_valid hcodec h.granted hissued hreported hfrom hto
  · obtain ⟨hfails,hsame⟩ := @unreplaced_kept lib pem cfg ta t w.loop hreplaced
    refine ⟨posted,Int.le_refl _,by omega,?_,?_,h.recovers,?_⟩
    · show _≤(turn lib pem cfg ta t w.loop).now
      omega
    · show (turn lib pem cfg ta t w.loop).now≤_
      have hlost := b.lost_succ w.failures
      rw [hnow,if_neg hfails]
      simp only [watch,if_neg hfails,slept_sixty]
      omega
    · intro u hfrom hto
      show ValidFile lib ((turn lib pem cfg ta t w.loop).files _) u
      rw [hsame]
      exact hw.valid u hfrom hto

theorem firstTicket_covered (hcodec : lib.asn.certificateBase.RoundTrip)
    (h : FirstTicket lib pem cfg ta b w) : ∃ posted,CoveredFrom lib cfg b posted w := by
  obtain ⟨t,s,hworks,hquick,hgranted,rfl⟩ := h
  have hnow := @turn_now lib pem cfg ta t s
  rw [if_pos hworks] at hnow
  have hreplaced : ∃ kp cert,(rotationOf cfg ta t s).issued lib=some (kp,cert) ∧
      t.writes.cert.reported=true := by
    by_contra hkept
    exact (unreplaced_kept hkept).1 hworks
  obtain ⟨kp,cert,hissued,hreported⟩ := hreplaced
  refine ⟨s.now+t.lag,?_,?_,Nat.zero_le _,?_⟩
  · dsimp only
    omega
  · dsimp only
    omega
  · intro u hfrom hto
    exact replaced_valid hcodec hgranted hissued hreported hfrom hto

end

end Provisioning

namespace Sample

open Framework Provisioning

/-- Tickets of 1000 hours, and one rotation that may fail. -/
def stationBounds : Bounds := ⟨0,1,3600000⟩

/-- The station after its first ticket. -/
def firstTicket : Watched := ⟨turn pairLib keyPem longConfig fleetAnchors ticketTurn loopBegin,0⟩

theorem firstTicket_first :
    FirstTicket pairLib keyPem longConfig fleetAnchors stationBounds firstTicket := by
  have hissued : ((rotationOf longConfig fleetAnchors ticketTurn loopBegin).issued pairLib).all
      (fun p => !p.2.certBytes.empty &&
        p.2.validAt (unixToTaiSeconds (loopBegin.now+ticketTurn.lag)) &&
        decide (unixToTaiSeconds (loopBegin.now+ticketTurn.lag)+3600000≤p.2.expiry))=true := by
    decide +kernel
  refine ⟨ticketTurn,loopBegin,by decide +kernel,by decide,?_,rfl⟩
  intro kp cert h _
  rw [h] at hissued
  simp only [Option.all_some,Bool.and_eq_true,Bool.not_eq_true',decide_eq_true_eq] at hissued
  obtain ⟨⟨hne,hvalid⟩,hexpiry⟩ := hissued
  exact ⟨hne,fun _ => ⟨cert.certBytes.size_le,rfl⟩,hvalid,hexpiry⟩

/-- The second rotation gets no answer, and within the bounds. -/
theorem lateTurn_inTime :
    InTime pairLib keyPem longConfig fleetAnchors stationBounds lateTurn firstTicket := by
  constructor
  · decide
  · have hnone : (rotationOf longConfig fleetAnchors lateTurn firstTicket.loop).issued pairLib=
        none := by decide +kernel
    intro kp cert h _
    rw [hnone] at h
    cases h
  · exact (watch_failures_le lateTurn firstTicket).trans (by decide)

end Sample

end V2xPki
