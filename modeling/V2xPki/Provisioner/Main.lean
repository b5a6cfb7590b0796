import V2xPki.Provisioner.CrashPoints
import V2xPki.Provisioner.MainConfig
import V2xPki.Provisioner.Shown

namespace V2xPki

namespace Provisioning

open Framework PkiClient MainConfig

/-- What a run of the program finds before its loop: `keystoreMade` tells whether the key store
in the output directory could make its directory. -/
structure Surroundings where
  kVersion : Bytes
  keystoreMade : Bool
  world : World
  anchors : AnchorWrites
  enrolment : EnrolSetting
  headers : List (Bytes × Bytes)
  loopBegins : Int

/-- How the program ends: with an exit status, or by `std::terminate` when the constructor of its
client throws. -/
inductive MainEnd where
  | exited (status : Nat)
  | terminated
deriving DecidableEq

/-- How far a run got: its end once it has ended, the output directory, how many times a rotation
was tried, and the calls the dump was given. -/
structure MainRun where
  exit : Option MainEnd
  files : Files UInt8
  rotations : Nat
  calls : List DumpCall

def MainRun.after (r : MainRun) (calls : List DumpCall) (rotations : Nat) : MainRun :=
  {r with calls := calls++r.calls,rotations := rotations+r.rotations}

section
variable (lib : Lib) (pem : KeyPem)

/-- The loop, for the turns that are listed. A signal is seen when the loop is about to begin
another turn: before the first one, or after some of them. -/
def mainLoop (cfg : Config) (ta : TrustAnchors) (oneshot : Bool) :
    Option Nat → List DumpedTurn → LoopState → MainRun
  | some 0,_,s => ⟨some (.exited 0),s.files,0,[]⟩
  | none,[],s => ⟨none,s.files,0,[]⟩
  | some (_+1),[],s => ⟨none,s.files,0,[]⟩
  | signal,t::turns,s =>
      let next := turn lib pem cfg ta t.turn s
      let calls := turnCalls lib pem cfg ta t s
      if oneshot then
        ⟨some (.exited (if Worked lib pem cfg ta t s then 0 else 1)),next.files,1,calls⟩
      else (mainLoop cfg ta oneshot (signal.map (·-1)) turns next).after calls 1

/-- `main`. The directory of the dump is another one, and its calls are returned. -/
def main (getenv : String → Option String) (argv : List String)
    (sleepSeconds : Int → String → Int) (found : Surroundings) (signal : Option Nat)
    (turns : List DumpedTurn) (files : Files UInt8) : MainRun :=
  match parseConfig getenv argv with
  | .error code => ⟨some (.exited code),files,0,[]⟩
  | .ok settings =>
    let cfg := settings.continuous sleepSeconds
    let opening := openingCalls cfg found.kVersion
    -- nothing catches what `create_directories` throws in the client of `discover`
    if found.keystoreMade=false then ⟨some .terminated,files,0,opening⟩
    else
      match discover lib found.world cfg.pkiBaseUrl cfg.tlmHid8 with
      | none => ⟨some (.exited 1),files,0,opening⟩
      | some ta =>
        let anchored := writeAnchors files ta cfg.outputDir found.anchors
        if anchored.1=false then ⟨some (.exited 1),anchored.2,0,opening⟩
        else
          let calls := preparedCalls lib cfg ta ⟨found.kVersion,found.enrolment,found.headers⟩
          match enrolEc lib ta cfg.ecValidityDays cfg.curve found.enrolment with
          | none => ⟨some (.exited 1),anchored.2,0,calls⟩
          | some ec =>
            (mainLoop lib pem cfg ta settings.oneshot signal turns
              ⟨found.loopBegins,ec,anchored.2,[]⟩).after calls 0

/-- The program gets to its loop, with these anchors and this EC. -/
structure GetsToLoop (cfg : Config) (found : Surroundings) (ta : TrustAnchors) (ec : EnrolledEc) :
    Prop where
  constructed : found.keystoreMade=true
  discovered : discover lib found.world cfg.pkiBaseUrl cfg.tlmHid8=some ta
  anchored : found.anchors.aa.reported=true ∧ found.anchors.rca.reported=true
  enrolled : enrolEc lib ta cfg.ecValidityDays cfg.curve found.enrolment=some ec

/-- The state in which the loop begins. -/
def loopStart (cfg : Config) (found : Surroundings) (files : Files UInt8) (ta : TrustAnchors)
    (ec : EnrolledEc) : LoopState :=
  ⟨found.loopBegins,ec,(writeAnchors files ta cfg.outputDir found.anchors).2,[]⟩

/-- How the loop ends, as a function of what happens. -/
def loopEnd (cfg : Config) (ta : TrustAnchors) (oneshot : Bool) (signal : Option Nat)
    (turns : List DumpedTurn) (s : LoopState) : Option MainEnd :=
  if signal=some 0 then some (.exited 0)
  else if oneshot then
    turns.head?.map fun t => .exited (if Worked lib pem cfg ta t s then 0 else 1)
  else signal.bind fun n => if n ≤ turns.length then some (.exited 0) else none

/-- What a run shows that tried this many rotations, once its anchors are written. -/
def mainShown (cfg : Config) (found : Surroundings) (files : Files UInt8)
    (turns : List DumpedTurn) (rotations : Nat) : Option ShownRun :=
  if found.keystoreMade=false then none
  else
    match discover lib found.world cfg.pkiBaseUrl cfg.tlmHid8 with
    | none => none
    | some ta =>
      if (writeAnchors files ta cfg.outputDir found.anchors).1=false then none
      else
        let enrolled := enrolEc lib ta cfg.ecValidityDays cfg.curve found.enrolment
        some ⟨ta,ecShown lib ta cfg.ecValidityDays cfg.curve found.enrolment found.headers,
          match enrolled with
          | none => []
          | some ec => loopShown lib pem cfg ta (turns.take rotations)
            (loopStart cfg found files ta ec)⟩

/-- The rotation of a turn of the loop. -/
def rotationOf (cfg : Config) (ta : TrustAnchors) (t : Turn) (s : LoopState) : RotateCall where
  ta := ta
  ec := s.ec
  psids := cfg.psids
  validityHours := cfg.validityPeriodHours
  setting := {t.found with unixNow := s.now+t.lag}
  writes := t.writes

/-- All that the four writes were given got to the disk. -/
structure WrittenInFull (found : Surroundings) (ta : TrustAnchors) (call : RotateCall) : Prop where
  aa : found.anchors.aa.Whole ta.aa.certBytes.toVector.length
  rca : found.anchors.rca.Whole ta.rca.certBytes.toVector.length
  pair : WritesHonestly lib pem call

/-- The four files a station needs: the anchors, and the certificate and key of one rotation. -/
structure Delivered (dir : String) (ta : TrustAnchors) (call : RotateCall) (files : Files UInt8) :
    Prop where
  aa : files (dir++"/AA.coer")=some ta.aa.certBytes.toVector
  rca : files (dir++"/RCA.coer")=some ta.rca.certBytes.toVector
  pair : ∃ kp cert text,call.issued lib=some (kp,cert) ∧ call.pemText lib pem kp=some text ∧
    files (dir++"/AT.coer")=some cert.certBytes.toVector ∧ files (dir++"/AT.key")=some text

end

section Names

theorem dir_ne (dir : String) {a b : String} (h : a≠b) : dir++a≠dir++b := by
  intro heq
  apply h
  have hchars := congrArg String.toList heq
  rw [String.toList_append,String.toList_append] at hchars
  exact String.toList_inj.mp (List.append_cancel_left hchars)

theorem dir_ne_tmp (dir : String) {a b : String} (h : a≠b++".tmp") : dir++a≠dir++b++".tmp" := by
  rw [String.append_assoc]
  exact dir_ne dir h

variable {files : Files UInt8} {ta : TrustAnchors} {dir name : String} {r : AnchorWrites}

/-- The anchors touch no other file. -/
theorem writeAnchors_other (haa : name≠"/AA.coer") (haaTmp : name≠"/AA.coer"++".tmp")
    (hrca : name≠"/RCA.coer") (hrcaTmp : name≠"/RCA.coer"++".tmp") :
    (writeAnchors files ta dir r).2 (dir++name)=files (dir++name) := by
  have hfirst : (atomicWrite files (dir++"/AA.coer") ta.aa.certBytes.toVector r.aa).2 (dir++name)=
      files (dir++name) := atomicWrite_other (dir_ne_tmp dir haaTmp) (dir_ne dir haa)
  unfold writeAnchors
  dsimp only
  split
  · exact hfirst
  · exact (atomicWrite_other (dir_ne_tmp dir hrcaTmp) (dir_ne dir hrca)).trans hfirst

theorem writeAnchors_delivers (haa : r.aa.reported=true) (hrca : r.rca.reported=true)
    (haaWhole : r.aa.Whole ta.aa.certBytes.toVector.length)
    (hrcaWhole : r.rca.Whole ta.rca.certBytes.toVector.length) :
    (writeAnchors files ta dir r).2 (dir++"/AA.coer")=some ta.aa.certBytes.toVector ∧
    (writeAnchors files ta dir r).2 (dir++"/RCA.coer")=some ta.rca.certBytes.toVector := by
  have hfirst := atomicWrite_reported files (dir++"/AA.coer") ta.aa.certBytes.toVector r.aa
  rw [haa] at hfirst
  unfold writeAnchors
  simp only [hfirst,Bool.true_eq_false,if_false]
  refine ⟨?_,atomicWrite_worked hrca hrcaWhole⟩
  rw [atomicWrite_other (dir_ne_tmp dir (by decide)) (dir_ne dir (by decide))]
  exact atomicWrite_worked haa haaWhole

end Names

section
variable {lib : Lib} {pem : KeyPem} {cfg : Config} {ta : TrustAnchors} {ec : EnrolledEc}
variable {call : RotateCall} {files : Files UInt8} {dir : String} {t : DumpedTurn} {s : LoopState}

theorem turn_files (t : Turn) (s : LoopState) : (turn lib pem cfg ta t s).files=
    rotateStep lib pem cfg.outputDir (rotationOf cfg ta t s) s.files := rfl

theorem worked_iff : Worked lib pem cfg ta t s ↔
    ((rotationOf cfg ta t.turn s).run lib pem cfg.outputDir s.files).1.isSome=true := Iff.rfl

/-- What it takes for a rotation to return an identifier. -/
theorem run_isSome_iff (dir : String) (files : Files UInt8) :
    (call.run lib pem dir files).1.isSome=true ↔ ∃ kp cert text,call.issued lib=some (kp,cert) ∧
      call.writes.cert.reported=true ∧ call.pemText lib pem kp=some text ∧
      call.writes.key.reported=true := by
  unfold RotateCall.run rotateAt RotateCall.pemText
  cases hissued : issuedAt lib call.ta call.ec call.psids call.validityHours call.setting with
  | none => simp [RotateCall.issued,hissued]
  | some granted =>
    obtain ⟨kp,cert⟩ := granted
    have hreported := atomicWrite_reported files (dir++"/AT.coer") cert.certBytes.toVector
      call.writes.cert
    have hissued' : call.issued lib=some (kp,cert) := hissued
    simp only [writePair,hreported,hissued',Option.some.injEq,Prod.mk.injEq]
    cases hcert : call.writes.cert.reported with
    | false => simp [hreported,hcert]
    | true =>
      unfold atomicWriteKeyPem
      cases hkey : pemKey lib.ssl pem kp.privateKey.toVector call.ec.cert.curve with
      | none => simp [hkey]
      | some pkey =>
        simp only [Bool.true_eq_false,if_false,atomicWrite_reported]
        cases call.writes.key.reported <;> simp [hkey]

/-- A rotation that fails leaves the key file as it was. -/
theorem run_failed_key (h : ¬(call.run lib pem dir files).1.isSome=true) :
    rotateStep lib pem dir call files (dir++"/AT.key")=files (dir++"/AT.key") := by
  rw [run_isSome_iff] at h
  cases hissued : call.issued lib with
  | none => rw [rotateStep_refused hissued]
  | some granted =>
    obtain ⟨kp,cert⟩ := granted
    cases hcert : call.writes.cert.reported with
    | false => rw [rotateStep_cert_failed hissued hcert,certReplaced_key]
    | true =>
      cases hkey : call.pemText lib pem kp with
      | none => rw [rotateStep_no_key hissued hcert hkey,certReplaced_key]
      | some text =>
        have hfailed : call.writes.key.reported=false := by
          rw [← Bool.not_eq_true]
          exact fun hworked => h ⟨kp,cert,text,hissued,hcert,hkey,hworked⟩
        rw [rotateStep_both hissued hcert hkey,atomicWrite_failed hfailed,certReplaced_key]

/-- One that returns an identifier has written both files, and no other but temporary ones. -/
theorem run_worked_pair (h : (call.run lib pem dir files).1.isSome=true)
    (hwhole : WritesHonestly lib pem call) :
    ∃ kp cert text,call.issued lib=some (kp,cert) ∧ call.pemText lib pem kp=some text ∧
      rotateStep lib pem dir call files (dir++"/AT.coer")=some cert.certBytes.toVector ∧
      rotateStep lib pem dir call files (dir++"/AT.key")=some text := by
  obtain ⟨kp,cert,text,hissued,hcert,hkey,hworked⟩ := (run_isSome_iff dir files).mp h
  refine ⟨kp,cert,text,hissued,hkey,?_,?_⟩
  · rw [rotateStep_cert hissued hcert]
    exact atomicWrite_worked hcert (hwhole.cert kp cert hissued)
  · rw [rotateStep_both hissued hcert hkey]
    exact atomicWrite_worked hworked (hwhole.key kp cert text hissued hkey)

theorem rotateStep_other {name : String} (hcert : name≠"/AT.coer")
    (hcertTmp : name≠"/AT.coer"++".tmp") (hkey : name≠"/AT.key") (hkeyTmp : name≠"/AT.key"++".tmp") :
    rotateStep lib pem dir call files (dir++name)=files (dir++name) := by
  rw [← run_rotateSteps lib pem dir call ⟨[],[]⟩ files]
  exact FileStep.run_other (rotateSteps_names (dir_ne dir hcert) (dir_ne_tmp dir hcertTmp)
    (dir_ne dir hkey) (dir_ne_tmp dir hkeyTmp))

/-- The loop ends as its turns and the signal decide. -/
theorem mainLoop_exit (oneshot : Bool) (signal : Option Nat) (turns : List DumpedTurn)
    (s : LoopState) :
    (mainLoop lib pem cfg ta oneshot signal turns s).exit=
      loopEnd lib pem cfg ta oneshot signal turns s := by
  induction turns generalizing signal s with
  | nil =>
    rcases signal with - | n
    · cases oneshot <;> rfl
    · cases n with
      | zero => rfl
      | succ n => cases oneshot <;> simp [mainLoop,loopEnd]
  | cons t turns ih =>
    rcases signal with - | n
    · cases oneshot with
      | true => simp [mainLoop,loopEnd]
      | false => simp [mainLoop,loopEnd,MainRun.after,ih]
    · cases n with
      | zero => rfl
      | succ n =>
        cases oneshot with
        | true => simp [mainLoop,loopEnd]
        | false =>
          simp only [mainLoop,MainRun.after,Bool.false_eq_true,if_false,ih,loopEnd,
            Option.map_some,Option.bind_some,List.length_cons,
            Nat.add_le_add_iff_right]
          by_cases hzero : n=0
          · simp [hzero]
          · simp [hzero]

/-- The loop gives the dump the calls of the turns it gets to. -/
theorem mainLoop_calls (oneshot : Bool) (signal : Option Nat) (turns : List DumpedTurn)
    (s : LoopState) :
    (mainLoop lib pem cfg ta oneshot signal turns s).calls=loopCalls lib pem cfg ta
      (turns.take (mainLoop lib pem cfg ta oneshot signal turns s).rotations) s := by
  induction turns generalizing signal s with
  | nil =>
    rcases signal with - | n
    · rfl
    · cases n <;> rfl
  | cons t turns ih =>
    have hnext : ∀ signal',
        (if oneshot then
          ⟨some (.exited (if Worked lib pem cfg ta t s then 0 else 1)),
            (turn lib pem cfg ta t.turn s).files,1,turnCalls lib pem cfg ta t s⟩
        else (mainLoop lib pem cfg ta oneshot signal' turns (turn lib pem cfg ta t.turn s)).after
          (turnCalls lib pem cfg ta t s) 1 : MainRun)=
            mainLoop lib pem cfg ta oneshot signal (t::turns) s →
        (mainLoop lib pem cfg ta oneshot signal (t::turns) s).calls=loopCalls lib pem cfg ta
          ((t::turns).take (mainLoop lib pem cfg ta oneshot signal (t::turns) s).rotations) s := by
      intro signal' hstep
      rw [← hstep]
      cases oneshot with
      | true => exact (List.append_nil _).symm
      | false =>
        simp only [Bool.false_eq_true,if_false,MainRun.after,ih,Nat.add_comm 1,
          List.take_succ_cons,loopCalls]
    rcases signal with - | n
    · exact hnext none rfl
    · cases n with
      | zero => rfl
      | succ n => exact hnext (some n) rfl

section
variable {getenv : String → Option String} {argv : List String} {settings : MainConfig}
variable {sleepSeconds : Int → String → Int} {found : Surroundings} {signal : Option Nat}
variable {turns : List DumpedTurn}

theorem GetsToLoop.anchors (h : GetsToLoop lib (settings.continuous sleepSeconds) found ta ec)
    (files : Files UInt8) (dir : String) : (writeAnchors files ta dir found.anchors).1=true := by
  rw [writeAnchors_reported,h.anchored.1,h.anchored.2]
  rfl

/-- A run that gets to its loop goes on as the loop does. -/
theorem main_of_loop (hparse : parseConfig getenv argv=.ok settings)
    (h : GetsToLoop lib (settings.continuous sleepSeconds) found ta ec) :
    ∃ calls,main lib pem getenv argv sleepSeconds found signal turns files=
      (mainLoop lib pem (settings.continuous sleepSeconds) ta settings.oneshot signal turns
        (loopStart (settings.continuous sleepSeconds) found files ta ec)).after calls 0 := by
  refine ⟨preparedCalls lib (settings.continuous sleepSeconds) ta
    ⟨found.kVersion,found.enrolment,found.headers⟩,?_⟩
  unfold main
  simp only [hparse,h.constructed,h.discovered,h.anchors,h.enrolled,Bool.true_eq_false,if_false]
  rfl

/-- In one-shot mode that is a single rotation, unless a signal comes before it. -/
theorem main_oneshot (hparse : parseConfig getenv argv=.ok settings)
    (hone : settings.oneshot=true) (hsignal : signal≠some 0)
    (h : GetsToLoop lib (settings.continuous sleepSeconds) found ta ec) (t : DumpedTurn) :
    let cfg := settings.continuous sleepSeconds
    let s := loopStart cfg found files ta ec
    let r := main lib pem getenv argv sleepSeconds found signal (t::turns) files
    r.exit=some (.exited (if Worked lib pem cfg ta t s then 0 else 1)) ∧
    r.files=rotateStep lib pem cfg.outputDir (rotationOf cfg ta t.turn s) s.files := by
  intro cfg s r
  obtain ⟨calls,hrun⟩ := @main_of_loop lib pem ta ec files getenv argv settings sleepSeconds found
    signal (t::turns) hparse h
  have hend : r=(mainLoop lib pem cfg ta true signal (t::turns) s).after calls 0 := by
    rw [← hone]
    exact hrun
  constructor
  · have hexit : r.exit=loopEnd lib pem cfg ta true signal (t::turns) s := by
      rw [hend]
      exact mainLoop_exit _ _ _ _
    simpa only [loopEnd,hsignal,if_false,if_true,List.head?_cons,Option.map_some] using hexit
  · rw [hend]
    rcases signal with - | n
    · rfl
    · cases n with
      | zero => exact absurd rfl hsignal
      | succ n => rfl

/-- The anchors are no file of a rotation. -/
theorem loopStart_pair {cfg : Config} {name : String} (hname : name∈["/AT.coer","/AT.key"]) :
    (loopStart cfg found files ta ec).files (cfg.outputDir++name)=files (cfg.outputDir++name) := by
  apply writeAnchors_other
  all_goals revert hname; revert name; decide

/-- A rotation that worked after whole writes leaves all four files. -/
theorem worked_delivers {cfg : Config} (h : GetsToLoop lib cfg found ta ec) {t : DumpedTurn}
    (hworked : Worked lib pem cfg ta t (loopStart cfg found files ta ec))
    (hwhole : WrittenInFull lib pem found ta
      (rotationOf cfg ta t.turn (loopStart cfg found files ta ec))) :
    Delivered lib pem cfg.outputDir ta (rotationOf cfg ta t.turn (loopStart cfg found files ta ec))
      (rotateStep lib pem cfg.outputDir
        (rotationOf cfg ta t.turn (loopStart cfg found files ta ec))
        (loopStart cfg found files ta ec).files) := by
  obtain ⟨haa,hrca⟩ := @writeAnchors_delivers files ta cfg.outputDir _
    h.anchored.1 h.anchored.2 hwhole.aa hwhole.rca
  refine ⟨?_,?_,run_worked_pair hworked hwhole.pair⟩
  · rw [rotateStep_other (by decide) (by decide) (by decide) (by decide)]
    exact haa
  · rw [rotateStep_other (by decide) (by decide) (by decide) (by decide)]
    exact hrca

/-- Without a client nothing is touched. -/
theorem main_terminated (hparse : parseConfig getenv argv=.ok settings)
    (hmade : found.keystoreMade=false) :
    let r := main lib pem getenv argv sleepSeconds found signal turns files
    r.exit=some .terminated ∧ r.files=files := by
  constructor
  · simp only [main,hparse,hmade,if_true]
  · simp only [main,hparse,hmade,if_true]

/-- A run that does not get there ends without a rotation and with the pair as it was, and with 1
unless the client could not be constructed. -/
theorem main_without_loop (hparse : parseConfig getenv argv=.ok settings)
    (h : ¬∃ ta ec,GetsToLoop lib (settings.continuous sleepSeconds) found ta ec) :
    let r := main lib pem getenv argv sleepSeconds found signal turns files
    r.exit=some (if found.keystoreMade then .exited 1 else .terminated) ∧ r.rotations=0 ∧
    ∀ name∈["/AT.coer","/AT.key"],r.files (settings.outputDir++name)=
      files (settings.outputDir++name) := by
  have hkept : ∀ ta,∀ name∈["/AT.coer","/AT.key"],
      (writeAnchors files ta settings.outputDir found.anchors).2 (settings.outputDir++name)=
        files (settings.outputDir++name) := by
    intro ta name hname
    apply writeAnchors_other
    all_goals revert hname; revert name; decide
  unfold main
  simp only [hparse]
  cases hmade : found.keystoreMade with
  | false => exact ⟨rfl,rfl,fun _ _ => rfl⟩
  | true =>
    simp only [Bool.true_eq_false,if_false,if_true]
    cases hta : discover lib found.world (settings.continuous sleepSeconds).pkiBaseUrl
        (settings.continuous sleepSeconds).tlmHid8 with
    | none => exact ⟨rfl,rfl,fun _ _ => rfl⟩
    | some ta =>
      dsimp only
      split
      · exact ⟨rfl,rfl,hkept ta⟩
      · rename_i hanchored
        rw [Bool.not_eq_false,writeAnchors_reported,Bool.and_eq_true] at hanchored
        split
        · exact ⟨rfl,rfl,hkept ta⟩
        · rename_i ec hec
          exact absurd ⟨ta,ec,hmade,hta,hanchored,hec⟩ h

end

end

/-- Keys left out, the dump is given what the run shows. -/
theorem main_calls {lib : Lib} {pem : KeyPem} {getenv : String → Option String}
    {argv : List String} {settings : MainConfig} (hparse : parseConfig getenv argv=.ok settings)
    (sleepSeconds : Int → String → Int) (found : Surroundings) (signal : Option Nat)
    (turns : List DumpedTurn) (files : Files UInt8) :
    let cfg := settings.continuous sleepSeconds
    let r := main lib pem getenv argv sleepSeconds found signal turns files
    r.calls.filter (fun c => !c.isKey)=publicCalls lib cfg found.kVersion
      (mainShown lib pem cfg found files turns r.rotations) := by
  intro cfg r
  have hprepared := fun ta => @preparedCalls_shown lib cfg ta
    ⟨found.kVersion,found.enrolment,found.headers⟩
  unfold r main mainShown
  simp only [hparse]
  cases found.keystoreMade with
  | false => rfl
  | true =>
    simp only [Bool.true_eq_false,if_false]
    cases discover lib found.world (settings.continuous sleepSeconds).pkiBaseUrl
        (settings.continuous sleepSeconds).tlmHid8 with
    | none => rfl
    | some ta =>
      dsimp only
      by_cases hfailed : (writeAnchors files ta cfg.outputDir found.anchors).1=false
      · simp only [cfg,hfailed,if_true]
        rfl
      · simp only [cfg,hfailed,Bool.true_eq_false,if_false]
        cases enrolEc lib ta cfg.ecValidityDays cfg.curve found.enrolment with
        | none => exact (List.append_nil _).symm.trans (hprepared ta [])
        | some ec =>
          simp only [MainRun.after,List.filter_append,Nat.zero_add]
          rw [mainLoop_calls,loopCalls_shown]
          exact hprepared ta _

/-- The end of every run. What stops the command line is the exit status; an output directory that
cannot be made terminates the program, and else 1 says that it did not get to its loop. In one-shot
mode the status then says whether the first rotation worked, unless a signal came before it; and in
continuous mode nothing but a signal ends the program, with 0. -/
theorem main_exit_status {lib : Lib} {pem : KeyPem} (getenv : String → Option String)
    (argv : List String) (sleepSeconds : Int → String → Int) (found : Surroundings)
    (signal : Option Nat) (turns : List DumpedTurn) (files : Files UInt8) :
    let exit := (main lib pem getenv argv sleepSeconds found signal turns files).exit
    (∀ code,parseConfig getenv argv=.error code → exit=some (.exited code)) ∧
    ∀ settings,parseConfig getenv argv=.ok settings →
      let cfg := settings.continuous sleepSeconds
      (found.keystoreMade=false → exit=some .terminated) ∧
      (found.keystoreMade=true → (¬∃ ta ec,GetsToLoop lib cfg found ta ec) →
        exit=some (.exited 1)) ∧
      ∀ ta ec,GetsToLoop lib cfg found ta ec → exit=loopEnd lib pem cfg ta settings.oneshot
        signal turns (loopStart cfg found files ta ec) := by
  refine ⟨?_,?_⟩
  · intro code hparse
    simp only [main,hparse]
  · intro settings hparse
    refine ⟨?_,?_,?_⟩
    · intro hmade
      exact (main_terminated hparse hmade).1
    · intro hmade h
      have hexit := (@main_without_loop lib pem files getenv argv settings sleepSeconds found signal
        turns hparse h).1
      rwa [if_pos hmade] at hexit
    · intro ta ec h
      obtain ⟨calls,hrun⟩ := @main_of_loop lib pem ta ec files getenv argv settings
        sleepSeconds found signal turns hparse h
      rw [hrun]
      exact mainLoop_exit _ _ _ _

/-- In one-shot mode: a run whose first turn is reached before any signal ends with 0 or 1, or is
terminated. With 0 there are, when the writes are whole, all four files, from the anchors that were
discovered and the certificate and key of its one rotation; with 1 the key file is as it was, and a
run that is terminated has touched no file. -/
theorem oneshot_delivers_or_keeps_key {lib : Lib} {pem : KeyPem}
    {getenv : String → Option String} {argv : List String} {settings : MainConfig}
    (hparse : parseConfig getenv argv=.ok settings) (hone : settings.oneshot=true)
    (sleepSeconds : Int → String → Int) (found : Surroundings) {signal : Option Nat}
    (hsignal : signal≠some 0) (t : DumpedTurn) (turns : List DumpedTurn) (files : Files UInt8) :
    let cfg := settings.continuous sleepSeconds
    let r := main lib pem getenv argv sleepSeconds found signal (t::turns) files
    (r.exit=some (.exited 0) ∧ ∃ ta ec call,GetsToLoop lib cfg found ta ec ∧
      call=rotationOf cfg ta t.turn (loopStart cfg found files ta ec) ∧
      (WrittenInFull lib pem found ta call →
        Delivered lib pem settings.outputDir ta call r.files)) ∨
    (r.exit=some (.exited 1) ∧
      r.files (settings.outputDir++"/AT.key")=files (settings.outputDir++"/AT.key")) ∨
    (r.exit=some .terminated ∧ found.keystoreMade=false ∧ r.files=files) := by
  intro cfg r
  by_cases hloop : ∃ ta ec,GetsToLoop lib cfg found ta ec
  · obtain ⟨ta,ec,h⟩ := hloop
    obtain ⟨hexit,hfiles⟩ := @main_oneshot lib pem ta ec files getenv argv settings sleepSeconds
      found signal turns hparse hone hsignal h t
    by_cases hworked : Worked lib pem cfg ta t (loopStart cfg found files ta ec)
    · left
      rw [if_pos hworked] at hexit
      refine ⟨hexit,ta,ec,_,h,rfl,?_⟩
      intro hwhole
      show Delivered lib pem cfg.outputDir ta _ r.files
      rw [hfiles]
      exact worked_delivers h hworked hwhole
    · right
      left
      rw [if_neg hworked] at hexit
      refine ⟨hexit,?_⟩
      show r.files (cfg.outputDir++"/AT.key")=files (cfg.outputDir++"/AT.key")
      rw [hfiles,run_failed_key (mt worked_iff.mpr hworked)]
      exact loopStart_pair (by decide)
  · right
    cases hmade : found.keystoreMade with
    | false =>
      right
      obtain ⟨hexit,hfiles⟩ := @main_terminated lib pem files getenv argv settings sleepSeconds
        found signal (t::turns) hparse hmade
      exact ⟨hexit,rfl,hfiles⟩
    | true =>
      left
      obtain ⟨hexit,-,hkept⟩ := @main_without_loop lib pem files getenv argv settings
        sleepSeconds found signal (t::turns) hparse hloop
      rw [if_pos hmade] at hexit
      exact ⟨hexit,hkept "/AT.key" (by decide)⟩

/-- Only the flag on the command line lets private keys into the dump: without it, whatever the
environment says and whatever happens in the run, the directory of the dump is the one that the
calls made of what the run shows give. So do any calls that agree with those of the run but for
keys. -/
theorem keys_dumped_by_flag_only {getenv : String → Option String} {argv : List String}
    {settings : MainConfig} (hparse : parseConfig getenv argv=.ok settings)
    (hflag : .single "--dump-private-keys-insecure"∉pieces argv) (lib : Lib) (pem : KeyPem)
    (sleepSeconds : Int → String → Int) (found : Surroundings) (signal : Option Nat)
    (turns : List DumpedTurn) (files dumped : Files UInt8) :
    let r := main lib pem getenv argv sleepSeconds found signal turns files
    let cfg := settings.continuous sleepSeconds
    let start := Dumping.start settings.dumpDir settings.dumpKeys dumped
    start.run lib.ssl r.calls=start.run lib.ssl (publicCalls lib cfg found.kVersion
      (mainShown lib pem cfg found files turns r.rotations)) ∧
    ∀ calls,calls.filter (fun c => !c.isKey)=r.calls.filter (fun c => !c.isKey) →
      start.run lib.ssl r.calls=start.run lib.ssl calls := by
  intro r cfg start
  have hkeys : start.dump.withKeys=false := by
    have hconfigured := (parseConfig_ok_iff.mp hparse).2.1
    show settings.dumpKeys=false
    rw [hconfigured.dumpKeys,if_neg hflag]
  constructor
  · rw [run_withoutKeys hkeys r.calls,main_calls hparse]
  · intro calls hsame
    rw [run_withoutKeys hkeys r.calls,run_withoutKeys hkeys calls,hsame]

end Provisioning

namespace Sample

open Framework Provisioning MainConfig

/-- A station that is asked for one rotation, in an environment that names a dump. -/
def oneshotArgs : List String :=
  ["pki-provisioner","--url","https://tlm","-o","out","--oneshot"]

def dumpingEnvironment (name : String) : Option String :=
  if name="WIRE_DUMP_DIR" then some "dump" else none

def oneshotSettings : MainConfig :=
  {fromEnvironment dumpingEnvironment with
    pkiBaseUrl := "https://tlm"
    outputDir := "out"
    oneshot := true}

def weekly (_ : Int) (_ : String) : Int := 483840

def surroundings : Surroundings :=
  ⟨[],true,fleetServer,anchorWrites,enrolment stationEc,[],1200000000⟩

/-- The AA does not answer. -/
def unansweredTurn : DumpedTurn :=
  ⟨⟨0,0,rotation 22 1200000000 noAnswer,wholeWrites⟩,[],⟨⟨0,0,0,0,0,0⟩,fun _ => .notOpened,.notOpened⟩⟩

theorem oneshotArgs_parsed : parseConfig dumpingEnvironment oneshotArgs=.ok oneshotSettings := by
  decide +kernel

def oneshotRun : MainRun :=
  main pairLib keyPem dumpingEnvironment oneshotArgs weekly surroundings none [unansweredTurn]
    firstPair

/-- The run ends with 1, and the key of the station is the one it had. -/
theorem oneshot_unanswered :
    oneshotRun.exit=some (.exited 1) ∧ oneshotRun.files (oneshotSettings.outputDir++"/AT.key")=
      firstPair (oneshotSettings.outputDir++"/AT.key") := by
  have hexit : oneshotRun.exit=some (.exited 1) := by decide +kernel
  unfold oneshotRun at hexit ⊢
  have hends := @oneshot_delivers_or_keeps_key pairLib keyPem _ _ _ oneshotArgs_parsed rfl weekly
    surroundings none (by decide) unansweredTurn [] firstPair
  rcases hends with ⟨hzero,-⟩ | hkept | ⟨-,hmade,-⟩
  · exact absurd (hexit.symm.trans hzero) (by decide)
  · exact hkept
  · exact absurd hmade (by decide)

/-- The dump it was told of by the environment gets no key. -/
theorem oneshot_dump_without_keys :
    (Dumping.start "dump" false .empty).run pairLib.ssl oneshotRun.calls=
      (Dumping.start "dump" false .empty).run pairLib.ssl
        (oneshotRun.calls.filter fun c => !c.isKey) := by
  have hidem : ∀ calls : List DumpCall,(calls.filter fun c => !c.isKey).filter (fun c => !c.isKey)=
      calls.filter fun c => !c.isKey := by
    intro calls
    rw [List.filter_filter]
    simp only [Bool.and_self]
  exact (keys_dumped_by_flag_only oneshotArgs_parsed (by decide +kernel) pairLib keyPem weekly
    surroundings none [unansweredTurn] firstPair .empty).2 _ (hidem _)

end Sample

end V2xPki
