import V2xPki.Framework.FileSteps
import V2xPki.Framework.Stateful
import V2xPki.Provisioner.PairOnDisk

namespace V2xPki

namespace Provisioning

open Framework PkiClient FileStep

/-- How the data of the two writes of a rotation get to their files: in pieces of these sizes. -/
structure PairSizes where
  cert : List Nat
  key : List Nat

/-- A rotation in a process that may be killed after some of its system calls, and is then
started again. -/
structure Attempt where
  call : RotateCall
  sizes : PairSizes
  killedAfter : Option Nat

section
variable (lib : Lib) (pem : KeyPem) (dir : String)

/-- The key file that a rotation goes on to write. -/
def RotateCall.pemText (call : RotateCall) (kp : KeyPair) : Option Bytes :=
  (pemKey lib.ssl pem kp.privateKey.toVector call.ec.cert.curve).map pem.write

/-- The system calls of `rotate_at` on the directory. -/
def rotateSteps (call : RotateCall) (sizes : PairSizes) : List (FileStep UInt8) :=
  match call.issued lib with
  | none => []
  | some (kp,cert) =>
    replaceSteps (dir++"/AT.coer"++".tmp") (dir++"/AT.coer") cert.certBytes.toVector sizes.cert
        call.writes.cert++
      if call.writes.cert.reported=false then []
      else match call.pemText lib pem kp with
        | none => []
        | some text =>
          replaceSteps (dir++"/AT.key"++".tmp") (dir++"/AT.key") text sizes.key call.writes.key

def Attempt.steps (a : Attempt) : List (FileStep UInt8) :=
  match a.killedAfter with
  | none => rotateSteps lib pem dir a.call a.sizes
  | some n => (rotateSteps lib pem dir a.call a.sizes).take n

/-- The directory, and the rotations that were tried. -/
structure Disk where
  files : Files UInt8
  tried : List RotateCall

def attempt (a : Attempt) (s : Disk) : Disk :=
  ⟨run s.files (a.steps lib pem dir),a.call::s.tried⟩

/-- A file that is reported to have been written was written in full. -/
structure WritesHonestly (call : RotateCall) : Prop where
  cert : ∀ kp cert,call.issued lib=some (kp,cert) →
    call.writes.cert.Whole cert.certBytes.toVector.length
  key : ∀ kp cert text,call.issued lib=some (kp,cert) → call.pemText lib pem kp=some text →
    call.writes.key.Whole text.length

/-- Both files are whole: each is as it was at the start, or all of what one rotation issued. No
other file has changed, apart from the temporary ones. -/
structure WholeFiles (start : Files UInt8) (s : Disk) : Prop where
  cert : ∀ coer,s.files (dir++"/AT.coer")=some coer → start (dir++"/AT.coer")=some coer ∨
    ∃ call∈s.tried,∃ kp cert,call.issued lib=some (kp,cert) ∧ coer=cert.certBytes.toVector
  key : ∀ key,s.files (dir++"/AT.key")=some key → start (dir++"/AT.key")=some key ∨
    ∃ call∈s.tried,∃ kp cert,call.issued lib=some (kp,cert) ∧ call.pemText lib pem kp=some key
  others : ∀ name,name≠dir++"/AT.coer" → name≠dir++"/AT.coer"++".tmp" → name≠dir++"/AT.key" →
    name≠dir++"/AT.key"++".tmp" → s.files name=start name

/-- At this moment the new certificate is there, the key is still the old one, and the rotation
is not over. -/
structure BetweenRenames (call : RotateCall) (files f : Files UInt8) : Prop where
  replaced : ∃ kp cert,call.issued lib=some (kp,cert) ∧ call.writes.cert.reported=true ∧
    f (dir++"/AT.coer")=rotateStep lib pem dir call files (dir++"/AT.coer")
  old : f (dir++"/AT.key")=files (dir++"/AT.key")
  unfinished : f≠rotateStep lib pem dir call files

end

section
variable {lib : Lib} {pem : KeyPem} {dir : String} {laws : CryptoLaws lib.ssl}
variable {call : RotateCall} {files f : Files UInt8} {sizes : PairSizes}

/-- The directory after the first of the two writes. -/
def certReplaced (dir : String) (files : Files UInt8) (call : RotateCall) (cert : CertInfo) :
    Files UInt8 :=
  (atomicWrite files (dir++"/AT.coer") cert.certBytes.toVector call.writes.cert).2

theorem rotateStep_refused (h : call.issued lib=none) :
    rotateStep lib pem dir call files=files := by
  unfold RotateCall.issued at h
  simp only [rotateStep,RotateCall.run,rotateAt,h]

theorem rotateStep_cert_failed {kp : KeyPair} {cert : CertInfo}
    (h : call.issued lib=some (kp,cert)) (hfailed : call.writes.cert.reported=false) :
    rotateStep lib pem dir call files=certReplaced dir files call cert := by
  have hreported := atomicWrite_reported files (dir++"/AT.coer") cert.certBytes.toVector
    call.writes.cert
  rw [hfailed] at hreported
  unfold RotateCall.issued at h
  simp only [rotateStep,RotateCall.run,rotateAt,h,writePair,hreported,if_true,certReplaced]

theorem rotateStep_no_key {kp : KeyPair} {cert : CertInfo} (h : call.issued lib=some (kp,cert))
    (hworked : call.writes.cert.reported=true) (hkey : call.pemText lib pem kp=none) :
    rotateStep lib pem dir call files=certReplaced dir files call cert := by
  have hreported := atomicWrite_reported files (dir++"/AT.coer") cert.certBytes.toVector
    call.writes.cert
  rw [hworked] at hreported
  have hnone := Option.map_eq_none_iff.mp hkey
  unfold RotateCall.issued at h
  simp only [rotateStep,RotateCall.run,rotateAt,h,writePair,hreported,Bool.true_eq_false,if_false,
    atomicWriteKeyPem,hnone,certReplaced]

theorem rotateStep_both {kp : KeyPair} {cert : CertInfo} {text : Bytes}
    (h : call.issued lib=some (kp,cert)) (hworked : call.writes.cert.reported=true)
    (hkey : call.pemText lib pem kp=some text) :
    rotateStep lib pem dir call files=
      (atomicWrite (certReplaced dir files call cert) (dir++"/AT.key") text call.writes.key).2 := by
  have hreported := atomicWrite_reported files (dir++"/AT.coer") cert.certBytes.toVector
    call.writes.cert
  rw [hworked] at hreported
  obtain ⟨pkey,hpkey,rfl⟩ := Option.map_eq_some_iff.mp hkey
  unfold RotateCall.issued at h
  simp only [rotateStep,RotateCall.run,rotateAt,h,writePair,hreported,Bool.true_eq_false,if_false,
    atomicWriteKeyPem,hpkey,certReplaced]

/-- The system calls of a rotation come to what the rotation does. -/
theorem run_rotateSteps (lib : Lib) (pem : KeyPem) (dir : String) (call : RotateCall)
    (sizes : PairSizes) (files : Files UInt8) :
    run files (rotateSteps lib pem dir call sizes)=rotateStep lib pem dir call files := by
  unfold rotateSteps
  cases hissued : call.issued lib with
  | none => exact (rotateStep_refused hissued).symm
  | some granted =>
    obtain ⟨kp,cert⟩ := granted
    simp only
    rw [FileStep.run_append,run_replaceSteps]
    cases hreported : call.writes.cert.reported with
    | false =>
      rw [if_pos rfl,rotateStep_cert_failed hissued hreported]
      rfl
    | true =>
      rw [if_neg Bool.noConfusion]
      cases hkey : call.pemText lib pem kp with
      | none =>
        rw [rotateStep_no_key hissued hreported hkey]
        rfl
      | some text =>
        simp only
        rw [run_replaceSteps,rotateStep_both hissued hreported hkey]
        rfl

/-- A rotation that replaces the certificate leaves it as its first write left it. -/
theorem rotateStep_cert {kp : KeyPair} {cert : CertInfo} (h : call.issued lib=some (kp,cert))
    (hworked : call.writes.cert.reported=true) :
    rotateStep lib pem dir call files (dir++"/AT.coer")=
      certReplaced dir files call cert (dir++"/AT.coer") := by
  cases hkey : call.pemText lib pem kp with
  | none => rw [rotateStep_no_key h hworked hkey]
  | some text =>
    obtain ⟨hne,-,htmp⟩ := pair_names dir
    rw [rotateStep_both h hworked hkey]
    exact atomicWrite_other htmp hne.symm

theorem certReplaced_key (cert : CertInfo) :
    certReplaced dir files call cert (dir++"/AT.key")=files (dir++"/AT.key") := by
  obtain ⟨hne,htmp,-⟩ := pair_names dir
  exact atomicWrite_other htmp hne

/-- What can be seen while a rotation is at work: the pair as it was, the new certificate next
to the old key, or the end. -/
theorem seen_rotateSteps (h : Seen files (rotateSteps lib pem dir call sizes) f) :
    (f (dir++"/AT.coer")=files (dir++"/AT.coer") ∧ f (dir++"/AT.key")=files (dir++"/AT.key")) ∨
    BetweenRenames lib pem dir call files f ∨ f=rotateStep lib pem dir call files := by
  obtain ⟨hne,hkeyTmp,hcertTmp⟩ := pair_names dir
  by_cases hend : f=rotateStep lib pem dir call files
  · exact .inr (.inr hend)
  unfold rotateSteps at h
  cases hissued : call.issued lib with
  | none =>
    simp only [hissued] at h
    rw [seen_nil h]
    exact .inl ⟨rfl,rfl⟩
  | some granted =>
    obtain ⟨kp,cert⟩ := granted
    simp only [hissued] at h
    rcases seen_append h with hcert | hrest
    · have hold : f (dir++"/AT.key")=files (dir++"/AT.key") :=
        seen_other hcert (replaceSteps_names hne hkeyTmp)
      rcases seen_replaceSteps (path_ne_tmp _) hcert with hsame | ⟨hworked,rfl⟩
      · exact .inl ⟨hsame,hold⟩
      · exact .inr (.inl ⟨⟨kp,cert,hissued,hworked,(rotateStep_cert hissued hworked).symm⟩,hold,hend⟩)
    · rw [run_replaceSteps] at hrest
      change Seen (certReplaced dir files call cert) _ f at hrest
      split at hrest
      · rename_i hfailed
        exact absurd ((seen_nil hrest).trans (rotateStep_cert_failed hissued hfailed).symm) hend
      · rename_i hreported
        rw [Bool.not_eq_false] at hreported
        cases hkey : call.pemText lib pem kp with
        | none =>
          simp only [hkey] at hrest
          have hover := @rotateStep_no_key lib pem dir call files _ _ hissued hreported hkey
          exact absurd ((seen_nil hrest).trans hover.symm) hend
        | some text =>
          simp only [hkey] at hrest
          have hnew : f (dir++"/AT.coer")=certReplaced dir files call cert (dir++"/AT.coer") :=
            seen_other hrest (replaceSteps_names hne.symm hcertTmp)
          rcases seen_replaceSteps (path_ne_tmp _) hrest with hsame | ⟨-,hover⟩
          · right; left
            refine ⟨⟨kp,cert,hissued,hreported,?_⟩,hsame.trans (certReplaced_key cert),hend⟩
            rw [hnew,rotateStep_cert hissued hreported]
          · exact absurd (hover.trans (rotateStep_both hissued hreported hkey).symm) hend

/-- The certificate file after a rotation whose writes are honest. -/
theorem rotateStep_cert_whole (h : WritesHonestly lib pem call) :
    rotateStep lib pem dir call files (dir++"/AT.coer")=files (dir++"/AT.coer") ∨
    ∃ kp cert,call.issued lib=some (kp,cert) ∧
      rotateStep lib pem dir call files (dir++"/AT.coer")=some cert.certBytes.toVector := by
  by_cases hreplaced : ∃ kp cert,call.issued lib=some (kp,cert) ∧ call.writes.cert.reported=true
  · obtain ⟨kp,cert,hissued,hreported⟩ := hreplaced
    right
    refine ⟨kp,cert,hissued,?_⟩
    rw [rotateStep_cert hissued hreported]
    exact atomicWrite_worked hreported (h.cert kp cert hissued)
  · left
    apply (run_unreplaced pem dir _ files).2.1
    intro kp cert hissued
    rw [← Bool.not_eq_true]
    exact fun hreported => hreplaced ⟨kp,cert,hissued,hreported⟩

/-- The key file after a rotation whose writes are honest. -/
theorem rotateStep_key_whole (h : WritesHonestly lib pem call) :
    rotateStep lib pem dir call files (dir++"/AT.key")=files (dir++"/AT.key") ∨
    ∃ kp cert text,call.issued lib=some (kp,cert) ∧ call.pemText lib pem kp=some text ∧
      rotateStep lib pem dir call files (dir++"/AT.key")=some text := by
  cases hissued : call.issued lib with
  | none => exact .inl (congrFun (rotateStep_refused hissued) _)
  | some granted =>
    obtain ⟨kp,cert⟩ := granted
    cases hreported : call.writes.cert.reported with
    | false =>
      left
      rw [rotateStep_cert_failed hissued hreported,certReplaced_key]
    | true =>
      cases hkey : call.pemText lib pem kp with
      | none =>
        left
        rw [rotateStep_no_key hissued hreported hkey,certReplaced_key]
      | some text =>
        rw [rotateStep_both hissued hreported hkey]
        cases hworked : call.writes.key.reported with
        | false =>
          left
          rw [atomicWrite_failed hworked,certReplaced_key]
        | true =>
          right
          exact ⟨kp,cert,text,rfl,hkey,atomicWrite_worked hworked (h.key kp cert text hissued hkey)⟩

/-- A killed rotation leaves what could be seen of it at that moment. -/
theorem attempt_seen (lib : Lib) (pem : KeyPem) (dir : String) (a : Attempt) (s : Disk) :
    Seen s.files (rotateSteps lib pem dir a.call a.sizes) (attempt lib pem dir a s).files := by
  unfold attempt Attempt.steps
  cases a.killedAfter with
  | none => exact seen_last
  | some n => exact ⟨n,rfl⟩

theorem attempt_done {a : Attempt} (h : a.killedAfter=none) (s : Disk) :
    (attempt lib pem dir a s).files=rotateStep lib pem dir a.call s.files := by
  simp only [attempt,Attempt.steps,h]
  exact run_rotateSteps lib pem dir a.call a.sizes s.files

theorem rotateSteps_names {name : String} (hcert : name≠dir++"/AT.coer")
    (hcertTmp : name≠dir++"/AT.coer"++".tmp") (hkey : name≠dir++"/AT.key")
    (hkeyTmp : name≠dir++"/AT.key"++".tmp") :
    ∀ step∈rotateSteps lib pem dir call sizes,name∉step.names := by
  intro step hstep
  unfold rotateSteps at hstep
  split at hstep
  · cases hstep
  rcases List.mem_append.mp hstep with hfirst | hsecond
  · exact replaceSteps_names hcert hcertTmp step hfirst
  · split at hsecond
    · cases hsecond
    · split at hsecond
      · cases hsecond
      · exact replaceSteps_names hkey hkeyTmp step hsecond

theorem attempt_wholeFiles {start : Files UInt8} {s : Disk} (hs : WholeFiles lib pem dir start s)
    {a : Attempt} (h : WritesHonestly lib pem a.call) :
    WholeFiles lib pem dir start (attempt lib pem dir a s) := by
  have hseen := attempt_seen lib pem dir a s
  -- what was whole before stays so, with one rotation more in the record
  have hcertOld : (attempt lib pem dir a s).files (dir++"/AT.coer")=s.files (dir++"/AT.coer") →
      ∀ coer,(attempt lib pem dir a s).files (dir++"/AT.coer")=some coer →
        start (dir++"/AT.coer")=some coer ∨ ∃ call∈a.call::s.tried,∃ kp cert,
          call.issued lib=some (kp,cert) ∧ coer=cert.certBytes.toVector := by
    intro hsame coer hcoer
    rw [hsame] at hcoer
    rcases hs.cert coer hcoer with hstart | ⟨call,hcall,hrest⟩
    · exact .inl hstart
    · exact .inr ⟨call,List.mem_cons_of_mem _ hcall,hrest⟩
  have hkeyOld : (attempt lib pem dir a s).files (dir++"/AT.key")=s.files (dir++"/AT.key") →
      ∀ key,(attempt lib pem dir a s).files (dir++"/AT.key")=some key →
        start (dir++"/AT.key")=some key ∨ ∃ call∈a.call::s.tried,∃ kp cert,
          call.issued lib=some (kp,cert) ∧ call.pemText lib pem kp=some key := by
    intro hsame key hkey
    rw [hsame] at hkey
    rcases hs.key key hkey with hstart | ⟨call,hcall,hrest⟩
    · exact .inl hstart
    · exact .inr ⟨call,List.mem_cons_of_mem _ hcall,hrest⟩
  have hcertNew : (attempt lib pem dir a s).files (dir++"/AT.coer")=
      rotateStep lib pem dir a.call s.files (dir++"/AT.coer") →
      ∀ coer,(attempt lib pem dir a s).files (dir++"/AT.coer")=some coer →
        start (dir++"/AT.coer")=some coer ∨ ∃ call∈a.call::s.tried,∃ kp cert,
          call.issued lib=some (kp,cert) ∧ coer=cert.certBytes.toVector := by
    intro hnew
    rcases @rotateStep_cert_whole lib pem dir a.call s.files h with hsame | ⟨kp,cert,hissued,hbytes⟩
    · exact hcertOld (hnew.trans hsame)
    · intro coer hcoer
      rw [hnew,hbytes] at hcoer
      exact .inr ⟨a.call,List.mem_cons_self,kp,cert,hissued,(Option.some.inj hcoer).symm⟩
  refine ⟨?_,?_,?_⟩
  · rcases seen_rotateSteps hseen with ⟨hsame,-⟩ | ⟨⟨-,-,-,-,hnew⟩,-,-⟩ | hend
    · exact hcertOld hsame
    · exact hcertNew hnew
    · exact hcertNew (congrFun hend _)
  · rcases seen_rotateSteps hseen with ⟨-,hsame⟩ | ⟨-,hsame,-⟩ | hend
    · exact hkeyOld hsame
    · exact hkeyOld hsame
    · have hnew := congrFun hend (dir++"/AT.key")
      rcases @rotateStep_key_whole lib pem dir a.call s.files h with
        hsame | ⟨kp,cert,text,hissued,htext,hbytes⟩
      · exact hkeyOld (hnew.trans hsame)
      · intro key hkey
        rw [hnew,hbytes] at hkey
        exact .inr ⟨a.call,List.mem_cons_self,kp,cert,hissued,htext.trans hkey⟩
  · intro name hcert hcertTmp hkey hkeyTmp
    rw [← hs.others name hcert hcertTmp hkey hkeyTmp]
    exact seen_other hseen (rotateSteps_names hcert hcertTmp hkey hkeyTmp)

/-- A rotation that goes well and returns an identifier leaves a pair that belongs together,
whatever was there. -/
theorem rotateStep_heals (hcodec : lib.asn.certificateBase.RoundTrip) (hpem : pem.ReadsBack)
    (hbuild : pem.Builds laws) (hwell : GoesWell lib pem laws call files)
    (h : (call.run lib pem dir files).1≠none) :
    ∃ coer key,rotateStep lib pem dir call files (dir++"/AT.coer")=some coer ∧
      rotateStep lib pem dir call files (dir++"/AT.key")=some key ∧
      BelongTogether lib pem coer key := by
  by_cases hreplaced : ∃ kp cert,call.issued lib=some (kp,cert) ∧ call.writes.cert.reported=true
  · obtain ⟨kp,cert,hissued,hreported⟩ := hreplaced
    exact (run_replaced dir hcodec hpem hbuild hwell hissued hreported).2
  · exfalso
    apply h
    apply (run_unreplaced pem dir _ files).1
    intro kp cert hissued
    rw [← Bool.not_eq_true]
    exact fun hreported => hreplaced ⟨kp,cert,hissued,hreported⟩

/-- Outside the window between the two renames a rotation that goes well never shows a pair that
does not match. -/
theorem seen_matches (hcodec : lib.asn.certificateBase.RoundTrip) (hpem : pem.ReadsBack)
    (hbuild : pem.Builds laws) (hfiles : PairMatches lib pem dir files)
    (hwell : GoesWell lib pem laws call files)
    (h : Seen files (rotateSteps lib pem dir call sizes) f)
    (hout : ¬BetweenRenames lib pem dir call files f) : PairMatches lib pem dir f := by
  rcases seen_rotateSteps h with ⟨hcert,hkey⟩ | hbetween | rfl
  · intro coer key hcoer hkey'
    exact hfiles coer key (hcert.symm.trans hcoer) (hkey.symm.trans hkey')
  · exact absurd hbetween hout
  · exact (rotateStep_matches hcodec hpem hbuild hfiles hwell).1

end

/-- In every run of rotations that go well, none of them killed between its two renames, the pair
matches; and at every moment of the next one it matches too, but for that window. -/
theorem pair_matches_outside_window {lib : Lib} {pem : KeyPem} {dir : String}
    {laws : CryptoLaws lib.ssl} (hcodec : lib.asn.certificateBase.RoundTrip)
    (hpem : pem.ReadsBack) (hbuild : pem.Builds laws) {s : Disk}
    (h : Reachable (fun s => PairMatches lib pem dir s.files) (attempt lib pem dir)
      (fun a s => GoesWell lib pem laws a.call s.files ∧
        ¬BetweenRenames lib pem dir a.call s.files (attempt lib pem dir a s).files) s) :
    PairMatches lib pem dir s.files ∧
    ∀ call sizes f,GoesWell lib pem laws call s.files →
      Seen s.files (rotateSteps lib pem dir call sizes) f →
      ¬BetweenRenames lib pem dir call s.files f → PairMatches lib pem dir f := by
  have hfiles : PairMatches lib pem dir s.files := by
    apply h.invariant fun s => PairMatches lib pem dir s.files
    · intro s hs
      exact hs
    · rintro s a hs ⟨hwell,hout⟩
      exact seen_matches hcodec hpem hbuild hs hwell (attempt_seen lib pem dir a s) hout
  refine ⟨hfiles,?_⟩
  intro call sizes f hwell hseen hout
  exact seen_matches hcodec hpem hbuild hfiles hwell hseen hout

end Provisioning

namespace Sample

open Framework Provisioning FileStep

/-- The first rotation of the station, killed after its first octet. -/
def killedRotation : Attempt := ⟨firstRotation,⟨[1],[]⟩,some 2⟩

def wholeRotation : Attempt := ⟨firstRotation,⟨[1],[]⟩,none⟩

def emptyDisk : Disk := ⟨.empty,[]⟩

theorem firstRotation_honest : WritesHonestly pairLib keyPem firstRotation := by
  obtain ⟨granted,cert,hissued,hcurve,-,hfits⟩ := firstRotation_granted
  constructor
  · intro kp' cert' hissued'
    obtain ⟨rfl,rfl⟩ := Prod.mk.inj (Option.some.inj (hissued.symm.trans hissued'))
    exact fun _ => ⟨cert.certBytes.size_le,rfl⟩
  · intro kp' cert' text hissued' htext
    obtain ⟨rfl,rfl⟩ := Prod.mk.inj (Option.some.inj (hissued.symm.trans hissued'))
    obtain ⟨pkey,hpkey,rfl⟩ := Option.map_eq_some_iff.mp htext
    rw [hcurve] at hpkey
    exact fun _ => ⟨hfits pkey hpkey,rfl⟩

theorem firstRotation_returns (files : Files UInt8) :
    (firstRotation.run pairLib keyPem "out" files).1≠none := by
  obtain ⟨kp,cert,hissued,-⟩ := firstRotation_granted
  exact (run_replaced "out" pairLib_codec keyPem_readsBack keyPem_builds
    (firstRotation_goesWell files) hissued rfl).1

/-- A rotation that runs to its end is not in the window. -/
theorem whole_rotation_matches :
    PairMatches pairLib keyPem "out" (attempt pairLib keyPem "out" wholeRotation emptyDisk).files := by
  have hempty : PairMatches pairLib keyPem "out" Files.empty := by
    intro coer key h
    cases h
  have hend : (attempt pairLib keyPem "out" wholeRotation emptyDisk).files=
      rotateStep pairLib keyPem "out" wholeRotation.call emptyDisk.files := attempt_done rfl _
  have hstart : Reachable (fun s : Disk => PairMatches pairLib keyPem "out" s.files)
      (attempt pairLib keyPem "out") (fun a s => GoesWell pairLib keyPem pairLaws a.call s.files ∧
        ¬BetweenRenames pairLib keyPem "out" a.call s.files
          (attempt pairLib keyPem "out" a s).files) emptyDisk := Reachable.start hempty
  have hreach := hstart.next wholeRotation
    ⟨firstRotation_goesWell _,fun hbetween => hbetween.unfinished hend⟩
  exact (pair_matches_outside_window pairLib_codec keyPem_readsBack keyPem_builds hreach).1

end Sample

end V2xPki
