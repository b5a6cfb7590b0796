import V2xPki.Provisioner.DumpCalls

namespace V2xPki.Provisioning

open Framework PkiClient

/-- What one exchange shows to others: the body it posts, the response it goes on with and the
headers of that, and the certificate it comes to. -/
structure Shown where
  sent : Option Bytes
  answered : Option HttpResponse
  headers : List (Bytes × Bytes)
  granted : Option CertInfo

/-- What is noted of an exchange that shows this, keys left out. -/
def Shown.calls (sentCall : Bytes → DumpCall) (step : String)
    (certCalls : CertInfo → List DumpCall) (x : Shown) : List DumpCall :=
  match x.sent with
  | none => []
  | some body => sentCall body::
    match x.answered with
    | none => []
    | some r => responseCall step r x.headers::
      match x.granted with
      | none => []
      | some cert => certCalls cert

/-- One turn of the loop, with the `flush` after a rotation that worked. -/
structure ShownTurn where
  exchange : Shown
  flush : Option FlushSetting

/-- What a run shows once its anchors are written. -/
structure ShownRun where
  ta : TrustAnchors
  enrolment : Shown
  turns : List ShownTurn

section
variable (lib : Lib)

def ShownTurn.calls (t : ShownTurn) : List DumpCall :=
  t.exchange.calls atSentCall "at_response" (atCertCalls lib)++t.flush.toList.map .flush

/-- The calls of a run as a function of what it shows. -/
def publicCalls (cfg : Config) (kVersion : Bytes) (x : Option ShownRun) : List DumpCall :=
  openingCalls cfg kVersion++
    match x with
    | none => []
    | some run => anchorCalls run.ta++run.enrolment.calls ecSentCall "ec_response" ecCertCalls++
      run.turns.flatMap (·.calls lib)

/-- An enrolment as others see it. -/
def ecShown (ta : TrustAnchors) (validityDays : Int) (curve : Curve) (s : EnrolSetting)
    (headers : List (Bytes × Bytes)) : Shown :=
  let sent := (posted [] (ecAttempt lib ta validityDays curve s).1).head?
  { sent
    answered := sent.bind fun body =>
      (s.answer (.post ta.ecUrl body)).response.toOption.filter fun r => r.statusCode=200
    headers
    granted := (enrolEc lib ta validityDays curve s).map (·.cert)}

/-- A rotation as others see it. -/
def atShown (ta : TrustAnchors) (ec : EnrolledEc) (psids : List Int) (validityHours : Int)
    (s : RotateSetting) (headers : List (Bytes × Bytes)) : Shown :=
  let sent := (posted [] (atAttempt lib ta ec psids validityHours s).1).head?
  { sent
    answered := sent.bind fun body =>
      (s.answer (.post ta.atUrl body)).response.toOption.filter fun r =>
        r.statusCode=200 ∧ r.body.isEmpty=false
    headers
    granted := (issuedAt lib ta ec psids validityHours s).map (·.2)}

variable (pem : KeyPem) (cfg : Config) (ta : TrustAnchors)

def loopShown : List DumpedTurn → LoopState → List ShownTurn
  | [],_ => []
  | t::turns,s =>
      ⟨atShown lib ta s.ec cfg.psids cfg.validityPeriodHours
          {t.turn.found with unixNow := s.now+t.turn.lag} t.headers,
        if Worked lib pem cfg ta t s then some t.flush else none⟩::
      loopShown turns (turn lib pem cfg ta t.turn s)

end

section
variable {lib : Lib} {pem : KeyPem} {cfg : Config} {ta : TrustAnchors}

/-- What an exchange notes besides its keys once there is a response to go on with. -/
theorem exchangeCalls_shown (sentCall : Bytes → DumpCall) (certCalls : CertInfo → List DumpCall)
    {step aesName aesNote name note : String} {body aesKey key : Bytes} {r : HttpResponse}
    {headers : List (Bytes × Bytes)} (granted : Option CertInfo)
    (hsent : (sentCall body).isKey=false)
    (hcert : ∀ cert,(certCalls cert).filter (fun c => !c.isKey)=certCalls cert) :
    (sentCall body::([keyCall aesName aesKey aesNote,keyCall name key note,
        responseCall step r headers]++
        match granted with
        | none => []
        | some cert => certCalls cert)).filter (fun c => !c.isKey)=
      (Shown.mk (some body) (some r) headers granted).calls sentCall step certCalls := by
  simp only [List.filter_cons,hsent,Bool.not_false,if_true,List.filter_append]
  cases granted with
  | none => rfl
  | some cert => rw [hcert]; rfl

theorem ecCertCalls_keyless (cert : CertInfo) :
    (ecCertCalls cert).filter (fun c => !c.isKey)=ecCertCalls cert := rfl

theorem atCertCalls_keyless (cert : CertInfo) :
    (atCertCalls lib cert).filter (fun c => !c.isKey)=atCertCalls lib cert := rfl

/-- The certificate of an enrolment is the one its response is decoded to. -/
theorem enrolEc_cert {validityDays : Int} {curve : Curve} {s : EnrolSetting} {kp : KeyPair}
    {req : RequestResult} {r : HttpResponse}
    (hreq : ecRequest lib ta validityDays curve s=some (kp,req))
    (hresponse : (s.answer (.post ta.ecUrl req.encoded.toVector)).response=.ok r)
    (hstatus : r.statusCode=200) :
    (enrolEc lib ta validityDays curve s).map (·.cert)=
      (decodeEcResponse lib ((s.answer (.post ta.ecUrl req.encoded.toVector)).mem 0) r.body
        kp.privateKey.toVector req.requestAesKey.toVector req.encoded.toVector ta.ea).toOption.bind
          (certOf .ok) := by
  have hbody : (okBody (.ok r)).toOption=some r.body := by simp [okBody,hstatus,Except.toOption]
  simp only [enrolEc,ecExchanged,ecAttempt,hreq,hresponse,hbody,Option.bind_eq_bind,Option.bind_some,
    Option.map_bind,Option.bind_assoc]
  congr 1
  funext resp
  show ((certOf .ok resp).bind fun cert => some (⟨cert,kp⟩ : EnrolledEc)).map (·.cert)=certOf .ok resp
  cases certOf .ok resp <;> rfl

/-- An enrolment notes what it shows. -/
theorem enrolCalls_shown (validityDays : Int) (curve : Curve) (s : EnrolSetting)
    (headers : List (Bytes × Bytes)) :
    (enrolCalls lib ta validityDays curve s headers).filter (fun c => !c.isKey)=
      (ecShown lib ta validityDays curve s headers).calls ecSentCall "ec_response" ecCertCalls := by
  unfold enrolCalls ecShown ecAttempt
  cases hreq : ecRequest lib ta validityDays curve s with
  | none => rfl
  | some made =>
    obtain ⟨kp,req⟩ := made
    have hposted : (posted [] [.http (.post ta.ecUrl req.encoded.toVector)]).head?=
        some req.encoded.toVector := rfl
    simp only [hposted,Option.bind_some]
    cases hresponse : (s.answer (.post ta.ecUrl req.encoded.toVector)).response with
    | error e => rfl
    | ok r =>
      by_cases hstatus : r.statusCode=200
      · have hshown := @exchangeCalls_shown ecSentCall ecCertCalls "ec_response"
        have hok : (Except.ok r : Except Error HttpResponse).toOption.filter
            (fun r => r.statusCode=200)=some r := by simp [Except.toOption,hstatus]
        rw [enrolEc_cert hreq hresponse hstatus,hok]
        simp only [hstatus,ne_eq,not_true_eq_false,if_false]
        cases (decodeEcResponse lib ((s.answer (.post ta.ecUrl req.encoded.toVector)).mem 0) r.body
            kp.privateKey.toVector req.requestAesKey.toVector req.encoded.toVector
            ta.ea).toOption.bind (certOf .ok) with
        | none => exact hshown none rfl ecCertCalls_keyless
        | some cert => exact hshown (some cert) rfl ecCertCalls_keyless
      · have hrefused : (Except.ok r : Except Error HttpResponse).toOption.filter
            (fun r => r.statusCode=200)=none := by simp [Except.toOption,hstatus]
        rw [hrefused]
        simp only [hstatus,ne_eq,not_false_eq_true,if_true]
        rfl

/-- The certificate of a rotation is the one its response is decoded to. -/
theorem issuedAt_cert {ec : EnrolledEc} {psids : List Int} {validityHours : Int} {s : RotateSetting}
    {kp : KeyPair} {req : RequestResult} {r : HttpResponse}
    (hreq : atRequest lib ta ec psids validityHours s=some (kp,req))
    (hresponse : (s.answer (.post ta.atUrl req.encoded.toVector)).response=.ok r)
    (hstatus : r.statusCode=200) (hbody : r.body.isEmpty=false) :
    (issuedAt lib ta ec psids validityHours s).map (·.2)=
      (decodeAtResponse lib ((s.answer (.post ta.atUrl req.encoded.toVector)).mem 0) r.body
        kp.privateKey.toVector req.requestAesKey.toVector req.encoded.toVector ta.aa).toOption.bind
          (certOf .ok) := by
  have hok : (okBody (.ok r)).toOption=some r.body := by simp [okBody,hstatus,Except.toOption]
  simp only [issuedAt,atExchanged,atAttempt,hreq,hresponse,hok,hbody,Option.bind_eq_bind,
    Option.bind_some,Option.map_bind,Option.bind_assoc,Bool.false_eq_true,if_false]
  congr 1
  funext resp
  show ((certOf .ok resp).bind fun cert => some (kp,cert)).map (·.2)=certOf .ok resp
  cases certOf .ok resp <;> rfl

/-- A rotation notes what it shows. -/
theorem rotateCalls_shown (ec : EnrolledEc) (psids : List Int) (validityHours : Int)
    (s : RotateSetting) (headers : List (Bytes × Bytes)) :
    (rotateCalls lib ta ec psids validityHours s headers).filter (fun c => !c.isKey)=
      (atShown lib ta ec psids validityHours s headers).calls atSentCall "at_response"
        (atCertCalls lib) := by
  unfold rotateCalls atShown atAttempt
  cases hreq : atRequest lib ta ec psids validityHours s with
  | none => rfl
  | some made =>
    obtain ⟨kp,req⟩ := made
    have hposted : (posted [] [.http (.post ta.atUrl req.encoded.toVector)]).head?=
        some req.encoded.toVector := rfl
    simp only [hposted,Option.bind_some]
    cases hresponse : (s.answer (.post ta.atUrl req.encoded.toVector)).response with
    | error e => rfl
    | ok r =>
      by_cases hgood : r.statusCode=200 ∧ r.body.isEmpty=false
      · obtain ⟨hstatus,hbody⟩ := hgood
        have hshown := @exchangeCalls_shown atSentCall (atCertCalls lib) "at_response"
        have hok : (Except.ok r : Except Error HttpResponse).toOption.filter
            (fun r => r.statusCode=200 ∧ r.body.isEmpty=false)=some r := by
          simp only [Except.toOption,Option.filter,hstatus,hbody,and_self,decide_true,if_true]
        rw [issuedAt_cert hreq hresponse hstatus hbody,hok]
        simp only [hstatus,hbody,ne_eq,not_true_eq_false,Bool.false_eq_true,or_self,if_false]
        cases (decodeAtResponse lib ((s.answer (.post ta.atUrl req.encoded.toVector)).mem 0) r.body
            kp.privateKey.toVector req.requestAesKey.toVector req.encoded.toVector
            ta.aa).toOption.bind (certOf .ok) with
        | none => exact hshown none rfl atCertCalls_keyless
        | some cert => exact hshown (some cert) rfl atCertCalls_keyless
      · have hrefused : (Except.ok r : Except Error HttpResponse).toOption.filter
            (fun r => r.statusCode=200 ∧ r.body.isEmpty=false)=none := by
          simp only [Except.toOption,Option.filter,hgood,decide_false,Bool.false_eq_true,if_false]
        have hskipped : r.statusCode≠200 ∨ r.body.isEmpty=true := by
          rwa [not_and_or,Bool.not_eq_false] at hgood
        rw [hrefused]
        simp only [hskipped,if_true]
        rfl

/-- So do the turns of the loop. -/
theorem loopCalls_shown (turns : List DumpedTurn) (s : LoopState) :
    (loopCalls lib pem cfg ta turns s).filter (fun c => !c.isKey)=
      (loopShown lib pem cfg ta turns s).flatMap (·.calls lib) := by
  induction turns generalizing s with
  | nil => rfl
  | cons t turns ih =>
    have hflush : (if Worked lib pem cfg ta t s then [.flush t.flush] else []).filter
        (fun c : DumpCall => !c.isKey)=
          (if Worked lib pem cfg ta t s then some t.flush else none).toList.map .flush := by
      split <;> rfl
    rw [loopCalls,turnCalls,List.filter_append,List.filter_append,ih,hflush,notedCalls,
      rotateCalls_shown]
    rfl

/-- Keys left out, a run that gets past its anchors notes what it shows. -/
theorem preparedCalls_shown (p : Preparation) (turns : List ShownTurn) :
    (preparedCalls lib cfg ta p).filter (fun c => !c.isKey)++turns.flatMap (·.calls lib)=
      publicCalls lib cfg p.kVersion (some ⟨ta,
        ecShown lib ta cfg.ecValidityDays cfg.curve p.found p.headers,turns⟩) := by
  rw [preparedCalls,List.filter_append,List.filter_append,enrolCalls_shown,publicCalls]
  simp only [List.append_assoc]
  rfl

end

end V2xPki.Provisioning
