import V2xPki.Cli.Keys
import V2xPki.Client.EndEntity
import V2xPki.Client.Requests

namespace V2xPki

namespace Cli

open Framework PkiClient PlaintextFileKeyStore

namespace Session

def asked (s : Session) (url : String) : Session := {s with events := .http (.get url)::s.events}

def wrote (s : Session) (out : Outside) (path : String) (data : Bytes) : Session :=
  {s with files := (s.files.overwrite path data (out.fill path)).2}

end Session

section
variable {lib : Lib} {pem : KeyPem} {out : Outside} {β : Type} {b : β} {s t : Session}

theorem require_bind_ok {c : Bool} {message : String} {f : Unit → CommandM β} :
    Op.exec (require c message >>= f) s=(.ok b,t) ↔ c=true ∧ Op.exec (f ()) s=(.ok b,t) :=
  Op.ensure_bind_ok _ _ _ _ _ _

theorem createDirectories_bind_ok {dir : String} {f : Unit → CommandM β} :
    Op.exec (createDirectories out dir >>= f) s=(.ok b,t) ↔
      out.directory dir=true ∧ Op.exec (f ()) s=(.ok b,t) :=
  Op.ensure_bind_ok _ _ _ _ _ _

theorem httpGet_bind (url : String) (f : Answer → CommandM β) :
    Op.exec (httpGet out url >>= f) s=
      Op.exec (f (out.answer s.events (.get url))) (s.asked url) := rfl

theorem writeFile_bind (path : String) (data : Bytes) (f : Bool → CommandM β) :
    Op.exec (writeFile out path data >>= f) s=
      Op.exec (f (s.files.overwrite path data (out.fill path)).1) (s.wrote out path data) := rfl

/-- The client that a constructor makes of the trust directory as it is. -/
def clientOf (lib : Lib) (out : Outside) (cfg : PkiClientConfig) (s : Session) : ClientState :=
  .initial lib (out.mem s.events) cfg ((out.listed s.events).map (dirEntry s.files cfg.trustDir))

theorem newClient_bind_ok {cfg : PkiClientConfig} {dir : String} {f : ClientState → CommandM β} :
    Op.exec (newClient lib out cfg dir >>= f) s=(.ok b,t) ↔
      out.directory dir=true ∧ Op.exec (f (clientOf lib out cfg s)) s=(.ok b,t) := by
  rw [newClient,bind_assoc,createDirectories_bind_ok]
  rfl

/-- A call of a client, from a session. -/
def called {α : Type} (pem : KeyPem) (out : Outside) (client : ClientState) (dir : String)
    (m : World → ClientM α) (s : Session) : Except Error α × ClientState :=
  Op.exec (m (clientWorld pem out s.files dir)) {client with events := s.events}

theorem callClient_bind {α : Type} (client : ClientState) (dir : String) (m : World → ClientM α)
    (f : Except Error α → CommandM β) :
    Op.exec (callClient pem out client dir m >>= f) s=
      Op.exec (f (called pem out client dir m s).1)
        {s with events := (called pem out client dir m s).2.events} := rfl

end

section
variable (lib : Lib) (pem : KeyPem) (out : Outside) (a : Args)

/-- The two downloads are saved. -/
def downloaded (ea rca : Bytes) (s : Session) : Session :=
  (((s.asked (a.pkiUrl++"/cert/ea")).wrote out (trustPath a++"/ea.cert") ea).asked
    (a.pkiUrl++"/trustanchor")).wrote out (trustPath a++"/rca.cert") rca

/-- What a successful enrolment has in hand: the two downloads, the handle, the key that the record
names, the exchange, and the certificate. -/
structure Enrolment where
  ea : Bytes
  rca : Bytes
  handle : KeyHandle
  named : KeyPair
  exchange : Exchange EnrolmentResponseCode
  cert : CertInfo

/-- The client of an enrolment. -/
def enrolClient (ea rca : Bytes) (s : Session) : ClientState :=
  clientOf lib out (enrolConfig a) (downloaded out a ea rca s)

/-- How an enrolment gets its key: from the key store, or new. -/
def Enrolment.keying (e : Enrolment) : CommandM KeyPair :=
  canonicalKeypair lib pem out a.keystoreDir e.handle (parseCurve a.curveStr)

/-- The session in which the exchange takes place: the key is there, the identifier is saved. -/
def Enrolment.readied (e : Enrolment) (s : Session) : Session :=
  (Op.exec (e.keying lib pem out a) (downloaded out a e.ea e.rca s)).2.wrote out
    (joinPath a.keystoreDir "canonical.id") (bytesOfString (enrolId a))

/-- What is established when an enrolment that began in `s` ends well in `t`. -/
structure Enrols (s t : Session) (e : Enrolment) : Prop where
  ea : okBody (out.answer s.events (.get (a.pkiUrl++"/cert/ea"))).response=.ok e.ea
  rca : okBody (out.answer (.http (.get (a.pkiUrl++"/cert/ea"))::s.events)
    (.get (a.pkiUrl++"/trustanchor"))).response=.ok e.rca
  handle : KeyHandle.ofString (keyId a)=some e.handle
  named : (Op.exec (e.keying lib pem out a) (downloaded out a e.ea e.rca s)).1=.ok e.named
  exchanged : ecExchange lib
    (clientWorld pem out (e.readied lib pem out a s).files a.keystoreDir) e.handle
    (enrolRecord lib a e.ea e.named) {enrolClient lib out a e.ea e.rca s with
      events := (downloaded out a e.ea e.rca s).events}=some e.exchange
  accepted : certFromResponse lib .ok "ec" (enrolClient lib out a e.ea e.rca s).trust .empty
    e.exchange.nowTai e.exchange.response=.ok e.cert
  requests : ∃ desc entropy req,
    encodeEcRequest lib desc e.exchange.ca e.exchange.key.privateKey.toVector entropy=.ok req ∧
    requests t.events=.post (enrolConfig a).eaUrl req.encoded.toVector::
      .get (a.pkiUrl++"/trustanchor")::.get (a.pkiUrl++"/cert/ea")::requests s.events
  file : t.files (ecPath a)=
    (s.files.overwrite (ecPath a) e.cert.certBytes.toVector (out.fill (ecPath a))).2 (ecPath a)
  key : loadKeypair pem (inDirectory t.files a.keystoreDir) e.handle=some e.exchange.key
  kept : ∀ kp,loadKeypair pem (inDirectory s.files a.keystoreDir) e.handle=some kp →
    e.exchange.key=kp
  whole : pem.ReadsBack → (∀ pkey,buildPkey pem e.named=some pkey →
      (out.fill (joinPath a.keystoreDir (pemName e.handle))).Whole (pem.write pkey).length) →
    e.exchange.key=e.named

end

section
variable {lib : Lib} {pem : KeyPem} {out : Outside} {a : Args} {s t : Session}

theorem fetchBody_ok {what : String} {r : Answer} {body : Bytes} :
    fetchBody what r=.ok body ↔ okBody r.response=.ok body := by
  unfold fetchBody bodyOr okBody
  cases r.response with
  | error e => simp
  | ok resp => by_cases h : resp.statusCode=200 <;> simp [h]

theorem anchorBody_ok {what : String} {r : Answer} {body : Bytes} :
    anchorBody what r=.ok body ↔ okBody r.response=.ok body := by
  unfold anchorBody bodyOr okBody
  cases r.response with
  | error e => simp
  | ok resp => by_cases h : resp.statusCode=200 <;> simp [h]

/-- The key that is used was there, or it was made because none was. -/
theorem canonicalKeypair_ok {dir : String} {handle : KeyHandle} {curve : Curve} {kp : KeyPair}
    (h : Op.exec (canonicalKeypair lib pem out dir handle curve) s=(.ok kp,t)) :
    (loadKeypair pem (inDirectory s.files dir) handle=some kp ∧ t=s) ∨
    (loadKeypair pem (inDirectory s.files dir) handle=none ∧
      Op.exec (storeKey pem out dir handle kp) s=(.ok (),t)) := by
  rw [canonicalKeypair,(loadKey_readsOnly dir handle).bind] at h
  cases hload : loadKeypair pem (inDirectory s.files dir) handle with
  | some found =>
    simp only [hload,Op.exec_pure] at h
    cases h
    exact .inl ⟨rfl,rfl⟩
  | none =>
    simp only [hload,Op.get_bind,Op.need_bind_ok] at h
    obtain ⟨made,-,h⟩ := h
    obtain ⟨_,u,hstore,h⟩ := Op.bind_ok.mp h
    cases h
    exact .inr ⟨rfl,hstore⟩

theorem storeKey_ok {dir : String} {handle : KeyHandle} {kp : KeyPair}
    (h : Op.exec (storeKey pem out dir handle kp) s=(.ok (),t)) :
    (buildPkey pem kp=none ∧ t=s) ∨ ∃ pkey,buildPkey pem kp=some pkey ∧
      t=s.wrote out (joinPath dir (pemName handle)) (pem.write pkey) := by
  unfold storeKey at h
  cases hbuild : buildPkey pem kp with
  | none =>
    simp only [hbuild] at h
    cases h
    exact .inl ⟨rfl,rfl⟩
  | some pkey =>
    simp only [hbuild] at h
    cases h
    exact .inr ⟨pkey,rfl,rfl⟩

theorem storeKey_events {dir : String} {handle : KeyHandle} {kp : KeyPair}
    (h : Op.exec (storeKey pem out dir handle kp) s=(.ok (),t)) : t.events=s.events := by
  rcases storeKey_ok h with ⟨-,rfl⟩ | ⟨pkey,-,rfl⟩ <;> rfl

/-- A key that is loaded after it was stored in full is the key that was stored, if there was none
before. -/
theorem storeKey_loads (hpem : pem.ReadsBack) {dir : String} {handle : KeyHandle} {kp k : KeyPair}
    (h : Op.exec (storeKey pem out dir handle kp) s=(.ok (),t))
    (hnone : loadKeypair pem (inDirectory s.files dir) handle=none)
    (hwhole : ∀ pkey,buildPkey pem kp=some pkey →
      (out.fill (joinPath dir (pemName handle))).Whole (pem.write pkey).length)
    (hload : loadKeypair pem (inDirectory t.files dir) handle=some k) : k=kp := by
  rcases storeKey_ok h with ⟨-,rfl⟩ | ⟨pkey,hbuild,rfl⟩
  · rw [hnone] at hload
    cases hload
  · rcases @Files.overwrite_whole _ s.files (joinPath dir (pemName handle)) _ _ (hwhole pkey hbuild)
      with ⟨-,hfile⟩ | ⟨-,hsame⟩
    · have hk := @load_of_whole pem hpem kp pkey hbuild (inDirectory (s.wrote out
        (joinPath dir (pemName handle)) (pem.write pkey)).files dir) handle hfile
      exact Option.some.inj (hload.symm.trans hk)
    · rw [Session.wrote,hsame,hnone] at hload
      cases hload

theorem ecExchange_posts {w : World} {handle : KeyHandle} {rec : EcRecord} {c : ClientState}
    {x : Exchange EnrolmentResponseCode} (h : ecExchange lib w handle rec c=some x) :
    (w.setting c.events).loadKeypair handle=some x.key ∧ ∃ desc entropy req,
      encodeEcRequest lib desc x.ca x.key.privateKey.toVector entropy=.ok req ∧
      requests x.events=.post c.config.eaUrl req.encoded.toVector::requests c.events := by
  refine ⟨(ecExchange_some lib w h).1,?_⟩
  simp only [ecExchange,Option.bind_eq_bind,Option.bind_eq_some_iff,toOption_eq_some] at h
  obtain ⟨_,_,kp,_,ea,_,req,hreq,body,_,resp,_,hx⟩ := h
  cases hx
  exact ⟨_,_,req,hreq,rfl⟩

/-- What two sessions with the same file under its name load. -/
theorem load_congr {files files' : Files UInt8} {dir : String} {handle : KeyHandle}
    (h : files (joinPath dir (pemName handle))=files' (joinPath dir (pemName handle))) :
    loadKeypair pem (inDirectory files dir) handle=loadKeypair pem (inDirectory files' dir) handle := by
  rw [loadKeypair_inDirectory,loadKeypair_inDirectory,h]

theorem wrote_other {path name : String} {data : Bytes} (h : name≠path) :
    (s.wrote out path data).files name=s.files name := Files.overwrite_other h _

theorem report_ok {text : Bytes} (h : Op.exec (report a text) s=(.ok ⟨⟩,t)) :
    t.files=s.files ∧ t.events=s.events := by
  unfold report at h
  split at h <;> cases h <;> exact ⟨rfl,rfl⟩

theorem mapError_ok {α ε ε' : Type} {f : ε → ε'} {r : Except ε α} {x : α}
    (h : r.mapError f=.ok x) : r=.ok x := by
  cases r with
  | error e => cases h
  | ok y => exact congrArg Except.ok (Except.ok.inj h)

theorem canonicalKeypair_events {dir : String} {handle : KeyHandle} {curve : Curve} {kp : KeyPair}
    (h : Op.exec (canonicalKeypair lib pem out dir handle curve) s=(.ok kp,t)) :
    t.events=s.events := by
  rcases canonicalKeypair_ok h with ⟨-,rfl⟩ | ⟨-,hstore⟩
  · rfl
  · exact storeKey_events hstore

theorem canonicalKeypair_other {dir name : String} {handle : KeyHandle} {curve : Curve} {kp : KeyPair}
    (h : Op.exec (canonicalKeypair lib pem out dir handle curve) s=(.ok kp,t))
    (hne : name≠joinPath dir (pemName handle)) : t.files name=s.files name := by
  rcases canonicalKeypair_ok h with ⟨-,rfl⟩ | ⟨-,hstore⟩
  · rfl
  · have hkeeps := @keeps_storeKey pem out name dir handle hne kp s
    rw [hstore] at hkeeps
    exact hkeeps

theorem overwrite_congr {files files' : Files UInt8} {name : String} {data : Bytes} {fill : Fill}
    (h : files name=files' name) :
    (files.overwrite name data fill).2 name=(files'.overwrite name data fill).2 name := by
  cases fill with
  | notOpened => exact h
  | filled kept reported =>
    show Function.update files name _ name=Function.update files' name _ name
    rw [Function.update_self,Function.update_self]

/-- No key file is among the other files of an enrolment. -/
theorem enrolFiles_ne_key (a : Args) (handle : KeyHandle) {name : String} (h : name∈enrolFiles a) :
    joinPath a.keystoreDir (pemName handle)≠name := by
  rintro rfl
  have hcommand : "enrol"≠"fetch-ectl" := by decide
  have hnot := @keyFile_not_written a.keystoreDir handle {a with command := "enrol"}
    fun hfetch => absurd hfetch hcommand
  exact hnot h

/-- The certificate of an enrolment is no other file of it. -/
theorem enrol_paths (a : Args) : ecPath a≠trustPath a++"/ea.cert" ∧
    ecPath a≠trustPath a++"/rca.cert" ∧ ecPath a≠joinPath a.keystoreDir "canonical.id" := by
  have hec : ending 7 (ecPath a)=['t','r','e','c','.','c','e'] := ending_append (by decide) _
  refine ⟨?_,?_,?_⟩
  · intro heq
    rw [heq,ending_append (by decide)] at hec
    exact absurd hec (by decide)
  · intro heq
    rw [heq,ending_append (by decide)] at hec
    exact absurd hec (by decide)
  · intro heq
    rw [heq,ending_joinPath (by decide)] at hec
    exact absurd hec (by decide)

/-- How an enrolment that ends well goes: in `u` its key is there. -/
structure EnrolRun (lib : Lib) (pem : KeyPem) (out : Outside) (a : Args) (s u t : Session)
    (e : Enrolment) : Prop where
  ea : fetchBody "EA cert" (out.answer s.events (.get (a.pkiUrl++"/cert/ea")))=.ok e.ea
  rca : anchorBody "trust anchor" (out.answer (.http (.get (a.pkiUrl++"/cert/ea"))::s.events)
    (.get (a.pkiUrl++"/trustanchor")))=.ok e.rca
  handle : KeyHandle.ofString (keyId a)=some e.handle
  keyed : Op.exec (e.keying lib pem out a) (downloaded out a e.ea e.rca s)=(.ok e.named,u)
  exchanged : ecExchange lib (clientWorld pem out (u.wrote out
      (joinPath a.keystoreDir "canonical.id") (bytesOfString (enrolId a))).files a.keystoreDir)
    e.handle (enrolRecord lib a e.ea e.named) {enrolClient lib out a e.ea e.rca s with
      events := u.events}=some e.exchange
  accepted : certFromResponse lib .ok "ec" (enrolClient lib out a e.ea e.rca s).trust .empty
    e.exchange.nowTai e.exchange.response=.ok e.cert
  files : t.files=((u.wrote out (joinPath a.keystoreDir "canonical.id")
    (bytesOfString (enrolId a))).wrote out (ecPath a) e.cert.certBytes.toVector).files
  events : t.events=e.exchange.events

theorem cmdEnrol_runs (h : Op.exec (cmdEnrol lib pem out a) s=(.ok ⟨⟩,t)) :
    ∃ e u,EnrolRun lib pem out a s u t e := by
  unfold cmdEnrol at h
  simp only [require_bind_ok,createDirectories_bind_ok,httpGet_bind,writeFile_bind,
    Op.lift_bind_ok] at h
  obtain ⟨-,-,-,ea,hea,rca,hrca,h⟩ := h
  change Op.exec _ (downloaded out a ea rca s)=_ at h
  simp only [newClient_bind_ok,Op.need_bind_ok] at h
  obtain ⟨-,handle,hhandle,h⟩ := h
  obtain ⟨named,u,hmade,h⟩ := Op.bind_ok.mp h
  simp only [require_bind_ok,writeFile_bind,callClient_bind,Op.lift_bind_ok] at h
  obtain ⟨-,ci,hci,h⟩ := h
  obtain ⟨hfiles,hevents⟩ := report_ok h
  obtain ⟨c,hcall⟩ : ∃ c,called pem out (clientOf lib out (enrolConfig a) (downloaded out a ea rca s))
      a.keystoreDir (fun w => requestEnrolmentCredential lib w handle (enrolRecord lib a ea named))
      (u.wrote out (joinPath a.keystoreDir "canonical.id") (bytesOfString (enrolId a)))=(.ok ci,c) :=
    ⟨_,Prod.ext (mapError_ok hci) rfl⟩
  rw [hcall] at hfiles hevents
  obtain ⟨x,hx,haccepted,rfl⟩ := (requestEnrolmentCredential_ok lib _).mp hcall
  exact ⟨⟨ea,rca,handle,named,x,ci⟩,u,hea,hrca,hhandle,hmade,hx,haccepted,hfiles,hevents⟩

namespace EnrolRun

variable {u : Session} {e : Enrolment}

/-- The certificate is written last, and nothing before it touches its file. -/
theorem file (h : EnrolRun lib pem out a s u t e) : t.files (ecPath a)=
    (s.files.overwrite (ecPath a) e.cert.certBytes.toVector (out.fill (ecPath a))).2 (ecPath a) := by
  obtain ⟨hea,hrca,hid⟩ := enrol_paths a
  have hkey : ecPath a≠joinPath a.keystoreDir (pemName e.handle) :=
    (enrolFiles_ne_key a e.handle (by simp [enrolFiles])).symm
  rw [h.files]
  refine overwrite_congr ?_
  rw [wrote_other hid,canonicalKeypair_other h.keyed hkey,downloaded,wrote_other hrca]
  exact wrote_other hea

/-- Once it is there, nothing touches the key file. -/
theorem keyFile (h : EnrolRun lib pem out a s u t e) :
    t.files (joinPath a.keystoreDir (pemName e.handle))=
      u.files (joinPath a.keystoreDir (pemName e.handle)) := by
  have hkey := @enrolFiles_ne_key a e.handle
  rw [h.files,wrote_other (hkey (by simp [enrolFiles]))]
  exact wrote_other (hkey (by simp [enrolFiles]))

theorem loaded (h : EnrolRun lib pem out a s u t e) :
    loadKeypair pem (inDirectory u.files a.keystoreDir) e.handle=some e.exchange.key := by
  have hkey := (ecExchange_posts h.exchanged).1
  rw [← hkey]
  exact load_congr (wrote_other (enrolFiles_ne_key a e.handle (by simp [enrolFiles]))).symm

/-- A key that is there before is the one of the exchange. -/
theorem kept (h : EnrolRun lib pem out a s u t e) {kp : KeyPair}
    (hkp : loadKeypair pem (inDirectory s.files a.keystoreDir) e.handle=some kp) :
    e.exchange.key=kp := by
  have hne := @enrolFiles_ne_key a e.handle
  have hstart : (downloaded out a e.ea e.rca s).files (joinPath a.keystoreDir (pemName e.handle))=
      s.files (joinPath a.keystoreDir (pemName e.handle)) := by
    rw [downloaded,wrote_other (hne (by simp [enrolFiles]))]
    exact wrote_other (hne (by simp [enrolFiles]))
  rw [← load_congr hstart] at hkp
  have hloaded := h.loaded
  rcases canonicalKeypair_ok h.keyed with ⟨-,hsame⟩ | ⟨hnone,-⟩
  · rw [hsame,hkp] at hloaded
    exact (Option.some.inj hloaded).symm
  · rw [hkp] at hnone
    cases hnone

/-- The exchange uses the key that the record names, unless storing that went wrong. -/
theorem whole (h : EnrolRun lib pem out a s u t e) (hpem : pem.ReadsBack)
    (hwhole : ∀ pkey,buildPkey pem e.named=some pkey →
      (out.fill (joinPath a.keystoreDir (pemName e.handle))).Whole (pem.write pkey).length) :
    e.exchange.key=e.named := by
  have hloaded := h.loaded
  rcases canonicalKeypair_ok h.keyed with ⟨hnamed,hsame⟩ | ⟨hnone,hstore⟩
  · rw [hsame] at hloaded
    exact Option.some.inj (hloaded.symm.trans hnamed)
  · exact storeKey_loads hpem hstore hnone hwhole hloaded

theorem log (h : EnrolRun lib pem out a s u t e) :
    u.events=(downloaded out a e.ea e.rca s).events := canonicalKeypair_events h.keyed

/-- Three requests, and the last one carries what was made with the key of the exchange. -/
theorem requests (h : EnrolRun lib pem out a s u t e) : ∃ desc entropy req,
    encodeEcRequest lib desc e.exchange.ca e.exchange.key.privateKey.toVector entropy=.ok req ∧
    PkiClient.requests t.events=.post (enrolConfig a).eaUrl req.encoded.toVector::
      .get (a.pkiUrl++"/trustanchor")::.get (a.pkiUrl++"/cert/ea")::
      PkiClient.requests s.events := by
  obtain ⟨-,desc,entropy,req,hreq,hposted⟩ := ecExchange_posts h.exchanged
  refine ⟨desc,entropy,req,hreq,?_⟩
  rw [h.events,hposted]
  show _::PkiClient.requests u.events=_
  rw [h.log]
  rfl

end EnrolRun

theorem cmdEnrol_ok (h : Op.exec (cmdEnrol lib pem out a) s=(.ok ⟨⟩,t)) :
    ∃ e,Enrols lib pem out a s t e := by
  obtain ⟨e,u,hrun⟩ := cmdEnrol_runs h
  have hexchanged := hrun.exchanged
  rw [hrun.log] at hexchanged
  have hreadied : e.readied lib pem out a s=
      u.wrote out (joinPath a.keystoreDir "canonical.id") (bytesOfString (enrolId a)) := by
    rw [Enrolment.readied,hrun.keyed]
  refine ⟨e,fetchBody_ok.mp hrun.ea,anchorBody_ok.mp hrun.rca,hrun.handle,by rw [hrun.keyed],?_,
    hrun.accepted,hrun.requests,hrun.file,?_,fun _ => hrun.kept,hrun.whole⟩
  · rw [hreadied]
    exact hexchanged
  · rw [load_congr hrun.keyFile]
    exact hrun.loaded

theorem total_report (text : Bytes) : Op.Total (report a text) := by
  unfold report
  split
  · exact Op.total_modify _
  · exact Op.total_pure _

theorem total_writeFile (path : String) (data : Bytes) : Op.Total (writeFile out path data) :=
  fun s => ⟨_,_,exec_writeFile path data s⟩

/-- An enrolment that goes wrong leaves the certificate of an earlier one as it is. -/
theorem cmdEnrol_failsClean : Op.FailsClean (fileAt (ecPath a)) (cmdEnrol lib pem out a) := by
  obtain ⟨hea,hrca,hid⟩ := enrol_paths a
  refine Op.failsClean_bind (keeps_require _ _) fun _ => ?_
  refine Op.failsClean_bind (keeps_createDirectories _) fun _ => ?_
  refine Op.failsClean_bind (keeps_createDirectories _) fun _ => ?_
  refine Op.failsClean_bind (keeps_httpGet _) fun eaResp => ?_
  refine Op.failsClean_bind (Op.keeps_lift _) fun ea => ?_
  refine Op.failsClean_bind (keeps_writeFile hea ea) fun _ => ?_
  refine Op.failsClean_bind (keeps_httpGet _) fun rcaResp => ?_
  refine Op.failsClean_bind (Op.keeps_lift _) fun rca => ?_
  refine Op.failsClean_bind (keeps_writeFile hrca rca) fun _ => ?_
  refine Op.failsClean_bind (keeps_newClient _ _) fun client => ?_
  refine Op.failsClean_bind (Op.keeps_need _ _) fun handle => ?_
  have hkey : Op.KeepsWhile (fun _ => True) (fileAt (ecPath a)) (canonicalKeypair lib pem out
      a.keystoreDir handle (parseCurve a.curveStr)) := keepsWhile_canonicalKeypair fun hpath =>
    absurd hpath (enrolFiles_ne_key a handle (by simp [enrolFiles]))
  refine Op.failsClean_bind hkey.keeps fun kp => ?_
  refine Op.failsClean_bind (keeps_require _ _) fun _ => ?_
  refine Op.failsClean_bind (keeps_writeFile hid _) fun _ => ?_
  refine Op.failsClean_bind (keeps_callClient _ _ _) fun result => ?_
  refine Op.failsClean_bind (Op.keeps_lift _) fun ci => ?_
  exact (Op.total_bind (total_writeFile _ _) fun _ => total_report _).failsClean

end

section
variable {lib : Lib} {pem : KeyPem} {version : Bytes}

theorem ending_ec (dir : String) :
    ending 7 (dir++"/ec.cert")=['t','r','e','c','.','c','e'] := ending_append (by decide) dir

theorem main_enrol {argv : List String} {out : Outside} (h : (parseArgs argv).command="enrol") :
    main lib pem out version argv=cmdEnrol lib pem out (parseArgs argv) := by
  refine @main_command lib pem out version argv ("enrol",cmdEnrol lib pem out) ?_ ?_
  · rw [h]
    decide
  · rw [h]
    simp [commands]

/-- A changed file that is no key file is one that the invocation may write. -/
theorem changed_written {i : Invocation} {s : Session} {name : String}
    (hname : ending 4 name≠['m','e','p','.'])
    (h : (i.result lib pem version s).2.files name≠s.files name) : name∈writes i.args := by
  have hkeyFile : ∀ handle,joinPath i.args.keystoreDir (pemName handle)≠name := by
    rintro handle rfl
    exact hname (ending_keyFile i.args.keystoreDir handle)
  by_contra hnot
  have hspares : Spares pem (fun _ => True) i.args name :=
    ⟨hnot,fun _ handle _ hpath => absurd hpath (hkeyFile handle),fun _ handle _ => hkeyFile handle⟩
  exact h (main_keepsWhile hspares s trivial)

/-- A changed `ec.cert` is the work of an enrolment that ended well, unless an ECTL is saved in its
place. -/
theorem ec_cert_changed {i : Invocation} {s : Session} {dir : String}
    (hout : i.args.command="fetch-ectl" → i.args.out≠dir++"/ec.cert")
    (h : (i.result lib pem version s).2.files (dir++"/ec.cert")≠s.files (dir++"/ec.cert")) :
    i.args.command="enrol" ∧ i.args.keystoreDir=dir ∧ (i.result lib pem version s).1=.ok ⟨⟩ ∧
      ∃ e,Enrols lib pem i.out i.args s (i.result lib pem version s).2 e := by
  have hec := ending_ec dir
  have hwritten : dir++"/ec.cert"∈writes i.args := by
    refine changed_written ?_ h
    rw [← @ending_take 7 4 (by decide),hec]
    decide
  rcases writes_ending hwritten with ⟨hcommand,hpath⟩ | ⟨hcommand,hpath⟩ | ⟨-,hpath⟩ | hother
  · exact absurd hpath.symm (hout hcommand)
  · have hdir : i.args.keystoreDir=dir := by
      have hchars := congrArg String.toList hpath
      rw [ecPath,String.toList_append,String.toList_append] at hchars
      exact (String.toList_inj.mp (List.append_cancel_right hchars)).symm
    subst hdir
    have hrun : i.result lib pem version s=Op.exec (cmdEnrol lib pem i.out i.args) s := by
      rw [Invocation.result,main_enrol hcommand]
      rfl
    rw [hrun] at h ⊢
    rcases hexec : Op.exec (cmdEnrol lib pem i.out i.args) s with ⟨r,t⟩
    rw [hexec] at h
    cases r with
    | error e => exact absurd (cmdEnrol_failsClean s e t hexec) h
    | ok u => exact ⟨hcommand,rfl,rfl,cmdEnrol_ok hexec⟩
  · rw [hpath,atPath,ending_append (by decide)] at hec
    exact absurd hec (by decide)
  · rw [hec] at hother
    exact absurd hother (by decide)

/-- After any run of invocations `ec.cert` is as it was, or there is an enrolment that ended well
and left it so, and the key of this enrolment is loaded as long as no later invocation takes it
away. -/
theorem ec_cert_from_enrolment (is : List Invocation) (s : Session) {dir : String}
    (hout : ∀ i∈is,i.args.command="fetch-ectl" → i.args.out≠dir++"/ec.cert") :
    (invokeAll lib pem version is s).files (dir++"/ec.cert")=s.files (dir++"/ec.cert") ∨
    ∃ before i after e,is=before++i::after ∧ i.args.command="enrol" ∧ i.args.keystoreDir=dir ∧
      (i.result lib pem version (invokeAll lib pem version before s)).1=.ok ⟨⟩ ∧
      Enrols lib pem i.out i.args (invokeAll lib pem version before s)
        (i.result lib pem version (invokeAll lib pem version before s)).2 e ∧
      (invokeAll lib pem version is s).files (dir++"/ec.cert")=
        (i.result lib pem version (invokeAll lib pem version before s)).2.files (dir++"/ec.cert") ∧
      ((∀ j∈after,LeavesKey dir e.handle j.args) →
        loadKeypair pem (inDirectory (invokeAll lib pem version is s).files dir) e.handle=
          some e.exchange.key) := by
  rcases Op.last_change (fun s i => (Invocation.result lib pem version i s).2)
      (fileAt (dir++"/ec.cert")) is s with hsame | ⟨before,i,after,rfl,hchange,hlast⟩
  · exact .inl hsame
  · obtain ⟨hcommand,hdir,hok,e,he⟩ := ec_cert_changed (hout i (by simp)) hchange
    refine .inr ⟨before,i,after,e,rfl,hcommand,hdir,hok,he,hlast,?_⟩
    intro hleaves
    have hkey := he.key
    rw [hdir] at hkey
    rw [invokeAll_split]
    exact (@keys_survive lib pem version after _ dir e.handle e.exchange.key hkey hleaves).1

end

end Cli

namespace Sample

open Framework PkiClient PlaintextFileKeyStore Cli

/-- The EA answers; what it does not answer for are tickets. -/
def eaOnline : Outside := {alone with
  unixNow := fun _ => 1200000000
  answer := fun _ r => match r with
    | .get _ => ⟨.ok ⟨200,rootCa.1⟩,1200000000,fun _ => .zero⟩
    | .post _ _ => ⟨.ok ⟨200,(ecReply ownEc).1⟩,1200000000,fun _ => .zero⟩
  listed := fun _ => ["ea.cert","rca.cert"]}

def enrolRuns : List Invocation :=
  [⟨eaOnline,["v2xpki","enrol","--pki-url","https://pki","--keystore-dir","/ks"]⟩,
    ⟨alone,["v2xpki","enrol","--keystore-dir","/ks","--pki-url","https://pki","--json"]⟩,
    ⟨alone,["v2xpki","fetch-ectl","--pki-url","https://pki","--out","/ks/ectl.coer"]⟩]

/-- The second enrolment fails and leaves what the first one got. -/
theorem station_keeps_ec_cert :
    (invokeAll ownLib keyPem [] enrolRuns keptKey).files "/ks/ec.cert"=some ownEc.1 ∧
    ∃ before i after e,enrolRuns=before++i::after ∧ i.args.command="enrol" ∧
      Enrols ownLib keyPem i.out i.args (invokeAll ownLib keyPem [] before keptKey)
        (i.result ownLib keyPem [] (invokeAll ownLib keyPem [] before keptKey)).2 e := by
  have hcert : (invokeAll ownLib keyPem [] enrolRuns keptKey).files "/ks/ec.cert"=some ownEc.1 := by
    decide +kernel
  refine ⟨hcert,?_⟩
  rcases @ec_cert_from_enrolment ownLib keyPem [] enrolRuns keptKey "/ks" (by decide +kernel) with
    hsame | ⟨before,i,after,e,hruns,hcommand,-,-,he,-,-⟩
  · have hnone : keptKey.files "/ks/ec.cert"=none := by decide +kernel
    have hpath : "/ks"++"/ec.cert"="/ks/ec.cert" := by decide
    rw [hpath,hcert,hnone] at hsame
    cases hsame
  · exact ⟨before,i,after,e,hruns,hcommand,he⟩

end Sample

end V2xPki
