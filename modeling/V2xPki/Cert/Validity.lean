import Mathlib
import V2xPki.Sample.StandIn

namespace V2xPki

/-- The duration IEEE 1609.2 gives to each alternative, in seconds. -/
def Asn.Duration.exactSeconds : Asn.Duration → ℚ
  | .microseconds n => n.toNat/1000000
  | .milliseconds n => n.toNat/1000
  | .seconds n => n.toNat
  | .minutes n => n.toNat*60
  | .hours n => n.toNat*3600
  | .sixtyHours n => n.toNat*216000
  | .years n => n.toNat*31556952
  | .other => 0

/-- The alternatives whose unit is a second or more. -/
def Asn.Duration.InSeconds : Asn.Duration → Prop
  | .microseconds _ => False
  | .milliseconds _ => False
  | .seconds _ => True
  | .minutes _ => True
  | .hours _ => True
  | .sixtyHours _ => True
  | .years _ => True
  | .other => False

namespace Cert

/-- The product with a unit up to a year stays far below 64 bits. -/
theorem toNat_mul_unit (n : UInt16) {unit : Nat} (h : unit≤kYearSeconds) :
    (n.toUInt64*UInt64.ofNat unit).toNat=n.toNat*unit := by
  have hn := n.toNat_lt
  have hprod : n.toNat*unit≤65535*31556952 := Nat.mul_le_mul (by omega) h
  have hunit : unit<2^64 := h.trans_lt (by decide)
  rw [UInt64.toNat_mul,UInt16.toNat_toUInt64,UInt64.toNat_ofNat_of_lt' hunit]
  exact Nat.mod_eq_of_lt (hprod.trans_lt (by decide))

theorem floor_mul_unit (n unit : Nat) : ⌊(n : ℚ)*(unit : ℚ)⌋₊=n*unit := by
  rw [← Nat.cast_mul,Nat.floor_natCast]

/-- The seconds the parser computes are the exact duration rounded down. -/
theorem durationSeconds_floor (d : Asn.Duration) :
    (durationSeconds (some d)).toNat=⌊d.exactSeconds⌋₊ := by
  cases d with
  | microseconds n =>
    rw [durationSeconds,UInt64.toNat_div,UInt16.toNat_toUInt64]
    exact (Nat.floor_div_eq_div n.toNat 1000000).symm
  | milliseconds n =>
    rw [durationSeconds,UInt64.toNat_div,UInt16.toNat_toUInt64]
    exact (Nat.floor_div_eq_div n.toNat 1000).symm
  | seconds n =>
    rw [durationSeconds,UInt16.toNat_toUInt64]
    exact (Nat.floor_natCast n.toNat).symm
  | minutes n => exact (toNat_mul_unit n (by decide)).trans (floor_mul_unit n.toNat 60).symm
  | hours n => exact (toNat_mul_unit n (by decide)).trans (floor_mul_unit n.toNat 3600).symm
  | sixtyHours n => exact (toNat_mul_unit n (by decide)).trans (floor_mul_unit n.toNat 216000).symm
  | years n => exact (toNat_mul_unit n (by decide)).trans (floor_mul_unit n.toNat 31556952).symm
  | other => exact Nat.floor_zero.symm

/-- With an alternative in seconds or more nothing is rounded off. -/
theorem floor_of_inSeconds {d : Asn.Duration} (h : d.InSeconds) :
    (⌊d.exactSeconds⌋₊ : ℚ)=d.exactSeconds := by
  cases d with
  | microseconds n => exact h.elim
  | milliseconds n => exact h.elim
  | seconds n => exact congrArg _ (Nat.floor_natCast n.toNat)
  | minutes n => exact (congrArg _ (floor_mul_unit n.toNat 60)).trans (Nat.cast_mul _ _)
  | hours n => exact (congrArg _ (floor_mul_unit n.toNat 3600)).trans (Nat.cast_mul _ _)
  | sixtyHours n => exact (congrArg _ (floor_mul_unit n.toNat 216000)).trans (Nat.cast_mul _ _)
  | years n => exact (congrArg _ (floor_mul_unit n.toNat 31556952)).trans (Nat.cast_mul _ _)
  | other => exact h.elim

theorem exactSeconds_nonneg (d : Asn.Duration) : 0≤d.exactSeconds := by
  cases d <;> simp only [Asn.Duration.exactSeconds] <;> positivity

/-- No duration is longer than 65535 years. -/
theorem exactSeconds_le (d : Asn.Duration) : d.exactSeconds≤65535*31556952 := by
  have hcount : ∀ n : UInt16,(n.toNat : ℚ)≤65535 := by
    intro n
    have hn := n.toNat_lt
    exact_mod_cast (by omega : n.toNat≤65535)
  cases d with
  | other => norm_num [Asn.Duration.exactSeconds]
  | _ n =>
    have hn := hcount n
    simp only [Asn.Duration.exactSeconds]
    linarith

/-- The validity period of a certificate, when all pointers to it are set. -/
def validityPeriod? (cert : Asn.CertificateBase) : Option Asn.ValidityPeriod := do
  (← cert.toBeSigned).validityPeriod

end Cert

/-- Within 63 bits the test is the half-open interval; an empty one contains no time. -/
theorem CertInfo.validAt_iff {ci : CertInfo}
    (h : ci.validityStart.toNat+ci.validityDurationSeconds.toNat<2^63) (t : Int) :
    ci.validAt t=true ↔ (ci.validityStart.toNat : Int)≤t ∧
      t<ci.validityStart.toNat+ci.validityDurationSeconds.toNat := by
  have hduration : (ci.validityDurationSeconds.toNat : Int).bmod (2^64)=
      ci.validityDurationSeconds.toNat := by
    apply Int.bmod_eq_of_le <;> omega
  have hend : (ci.validityStart.toNat+ci.validityDurationSeconds.toNat : Int).bmod (2^64)=
      ci.validityStart.toNat+ci.validityDurationSeconds.toNat := by
    apply Int.bmod_eq_of_le <;> omega
  unfold CertInfo.validAt
  split
  · rename_i hzero
    have hnone : ci.validityDurationSeconds.toNat=0 := by rw [hzero]; rfl
    simp only [Bool.false_eq_true,false_iff]
    omega
  · simp only [hduration,hend,decide_eq_true_eq]

namespace Cert

variable (lib : Lib) (uninit : HashedId8) {cert : Asn.CertificateBase} (certCoer : Bytes)

/-- What the parser keeps of a validity period. -/
theorem fromStruct_validity {vp : Asn.ValidityPeriod} (h : validityPeriod? cert=some vp) :
    (fromStruct lib uninit cert certCoer).validityStart=vp.start ∧
    (fromStruct lib uninit cert certCoer).validityDurationSeconds=durationSeconds vp.duration := by
  have hparse : parseValidity cert=(vp.start,durationSeconds vp.duration) := by
    unfold validityPeriod? at h
    unfold parseValidity
    rw [h]
  exact ⟨congrArg (·.1) hparse,congrArg (·.2) hparse⟩

/-- Without a usable duration a certificate is never valid. -/
theorem validAt_of_zero (h : (parseValidity cert).2=0) (t : Int) :
    (fromStruct lib uninit cert certCoer).validAt t=false := by
  unfold CertInfo.validAt
  exact if_pos h

/-- A window of whole seconds is the same over the rationals. -/
theorem window_cast (t : Int) (start seconds : Nat) :
    (start : Int)≤t ∧ t<start+seconds ↔
      (start : ℚ)≤t ∧ (t : ℚ)<start+(seconds : ℚ) := by
  constructor
  · rintro ⟨hle,hlt⟩
    exact ⟨by exact_mod_cast hle,by exact_mod_cast hlt⟩
  · rintro ⟨hle,hlt⟩
    exact ⟨by exact_mod_cast hle,by exact_mod_cast hlt⟩

/-- With a duration the window is that of its whole seconds, and its end fits. -/
theorem validAt_window {cert : Asn.CertificateBase} {vp : Asn.ValidityPeriod} {d : Asn.Duration}
    (hvp : validityPeriod? cert=some vp) (hd : vp.duration=some d) (t : Int) :
    vp.start.toNat+⌊d.exactSeconds⌋₊<2^63 ∧
    ((fromStruct lib uninit cert certCoer).validAt t=true ↔
      (vp.start.toNat : Int)≤t ∧ t<vp.start.toNat+⌊d.exactSeconds⌋₊) := by
  obtain ⟨hstart,hduration⟩ := fromStruct_validity lib uninit certCoer hvp
  have hfloor : (fromStruct lib uninit cert certCoer).validityDurationSeconds.toNat=
      ⌊d.exactSeconds⌋₊ := by
    rw [hduration,hd]
    exact durationSeconds_floor d
  have hshort : ⌊d.exactSeconds⌋₊≤65535*31556952 :=
    Nat.floor_le_of_le (by exact_mod_cast exactSeconds_le d)
  have hs := vp.start.toNat_lt
  have hfits : vp.start.toNat+⌊d.exactSeconds⌋₊<2^63 := by omega
  have hbound : (fromStruct lib uninit cert certCoer).validityStart.toNat+
      (fromStruct lib uninit cert certCoer).validityDurationSeconds.toNat<2^63 := by
    rw [hstart,hfloor]
    exact hfits
  have hvalid := CertInfo.validAt_iff hbound t
  rw [hstart,hfloor] at hvalid
  exact ⟨hfits,hvalid⟩

/-- For every certificate structure: with a duration, the certificate is valid exactly from its
start for the whole seconds of that duration, with no overflow on the way; a time at which it is
valid is always within the exact period, which is the same where the unit is a second or more;
without a period or with no known alternative it is never valid. -/
theorem validity_window_exact (cert : Asn.CertificateBase) (t : Int) :
    (∀ vp d,validityPeriod? cert=some vp → vp.duration=some d →
      vp.start.toNat+⌊d.exactSeconds⌋₊<2^63 ∧
      ((fromStruct lib uninit cert certCoer).validAt t=true ↔
        (vp.start.toNat : Int)≤t ∧ t<vp.start.toNat+⌊d.exactSeconds⌋₊) ∧
      ((fromStruct lib uninit cert certCoer).validAt t=true →
        (vp.start.toNat : ℚ)≤t ∧ (t : ℚ)<vp.start.toNat+d.exactSeconds) ∧
      (d.InSeconds → ((fromStruct lib uninit cert certCoer).validAt t=true ↔
        (vp.start.toNat : ℚ)≤t ∧ (t : ℚ)<vp.start.toNat+d.exactSeconds)) ∧
      (d=.other → (fromStruct lib uninit cert certCoer).validAt t=false)) ∧
    (∀ vp,validityPeriod? cert=some vp → vp.duration=none →
      (fromStruct lib uninit cert certCoer).validAt t=false) ∧
    (validityPeriod? cert=none → (fromStruct lib uninit cert certCoer).validAt t=false) := by
  refine ⟨?_,?_,?_⟩
  · intro vp d hvp hd
    obtain ⟨-,hduration⟩ := fromStruct_validity lib uninit certCoer hvp
    obtain ⟨hfits,hvalid⟩ := validAt_window lib uninit certCoer hvp hd t
    have hcast := hvalid.trans (window_cast t vp.start.toNat ⌊d.exactSeconds⌋₊)
    refine ⟨hfits,hvalid,?_,?_,?_⟩
    · intro hv
      obtain ⟨hle,hlt⟩ := hcast.mp hv
      have hround := Nat.floor_le (exactSeconds_nonneg d)
      exact ⟨hle,hlt.trans_le (by linarith)⟩
    · intro hwhole
      rw [hcast,floor_of_inSeconds hwhole]
    · rintro rfl
      have hzero : durationSeconds vp.duration=0 := by rw [hd]; rfl
      exact validAt_of_zero lib uninit certCoer (hduration.trans hzero) t
  · intro vp hvp hd
    obtain ⟨-,hduration⟩ := fromStruct_validity lib uninit certCoer hvp
    have hzero : durationSeconds vp.duration=0 := by rw [hd]; rfl
    exact validAt_of_zero lib uninit certCoer (hduration.trans hzero) t
  · intro hvp
    apply validAt_of_zero
    unfold validityPeriod? at hvp
    unfold parseValidity
    rw [hvp]

end Cert

namespace Sample

/-- A certificate that starts at 100 and runs for two and a half seconds. -/
def briefCert : Asn.CertificateBase :=
  ⟨3,.explicit,none,some {(tbs 5 []).2 with
    validityPeriod := some ⟨100,some (.milliseconds 2500)⟩},none⟩

theorem brief_window :
    (Cert.fromStruct (lib {}) .zero briefCert []).validAt 101=true ∧
    ((100 : ℚ)≤(101 : Int) ∧ ((101 : Int) : ℚ)<100+2500/1000) ∧
    (Cert.fromStruct (lib {}) .zero briefCert []).validAt 102=false := by
  have hvalid : (Cert.fromStruct (lib {}) .zero briefCert []).validAt 101=true := by decide +kernel
  have hwindow := (Cert.validity_window_exact (lib {}) .zero [] briefCert 101).1
    ⟨100,some (.milliseconds 2500)⟩ (.milliseconds 2500) rfl rfl
  have hinside := hwindow.2.2.1 hvalid
  exact ⟨hvalid,hinside,by decide +kernel⟩

end Sample

end V2xPki
