import V2xPki.Cli.Enrol
import V2xPki.Sample.Provisioning

namespace V2xPki

namespace Cli

open Framework PkiClient PlaintextFileKeyStore

section
variable (lib : Lib) (pem : KeyPem) (out : Outside) (a : Args)

/-- The three downloads are saved. -/
def gathered (aa ea rca : Bytes) (s : Session) : Session :=
  ((((((s.asked (a.pkiUrl++"/cert/aa")).asked (a.pkiUrl++"/cert/ea")).wrote out
    (trustPath a++"/aa.cert") aa).asked (a.pkiUrl++"/trustanchor")).wrote out
    (trustPath a++"/rca.cert") rca).wrote out (trustPath a++"/ea.cert") ea)

/-- What a successful ticket request has in hand besides: the handle of the new key, the exchange,
and the certificate. -/
structure TicketRequest extends TicketInputs where
  atHandle : KeyHandle
  exchange : Exchange AuthorizationResponseCode
  cert : CertInfo

/-- The session in which a ticket request has its downloads. -/
def TicketInputs.downloads (e : TicketInputs) (s : Session) : Session :=
  gathered out a e.aa e.ea e.rca s

/-- What is established when a ticket request that began in `s` has made its key. -/
structure Prepares (s : Session) (e : TicketInputs) : Prop where
  aa : okBody (out.answer s.events (.get (a.pkiUrl++"/cert/aa"))).response=.ok e.aa
  ea : okBody (out.answer (.http (.get (a.pkiUrl++"/cert/aa"))::s.events)
    (.get (a.pkiUrl++"/cert/ea"))).response=.ok e.ea
  rca : okBody (out.answer (.http (.get (a.pkiUrl++"/cert/ea"))::
    .http (.get (a.pkiUrl++"/cert/aa"))::s.events) (.get (a.pkiUrl++"/trustanchor"))).response=
      .ok e.rca
  handle : KeyHandle.ofString (keyId a)=some e.handle
  ecCert : (e.downloads out a s).files (ecCertPath a)=some e.ecCert
  stored : StaticBytes.fromBytes e.ecCert=some e.stored
  ecKey : loadKeypair pem (inDirectory s.files a.keystoreDir) e.handle=some e.ecKey
  client : e.client=clientOf lib out (atConfig a) (e.downloads out a s)
  ecCi : e.ecCi=ecCertInfo lib (out.mem (e.downloads out a s).events 0) e.ecCert e.stored e.ecKey
  made : Crypto.generateKeypair lib.ssl e.ecCi.curve (out.scalar (e.downloads out a s).events)=
    some e.made

def atKeyPath (atHandle : KeyHandle) : String := joinPath a.keystoreDir (pemName atHandle)

/-- The session in which the exchange takes place: the new key is stored. -/
def TicketRequest.readied (e : TicketRequest) (s : Session) : Session :=
  (Op.exec (storeKey pem out a.keystoreDir e.atHandle e.made)
    (e.downloads out a s)).2

/-- What is established when a ticket request that began in `s` ends well in `t`. -/
structure Obtains (s t : Session) (e : TicketRequest) : Prop where
  prepared : Prepares lib pem out a s e.toTicketInputs
  atHandle : KeyHandle.ofString (keyId a++"-at")=some e.atHandle
  signsWith : loadKeypair pem (inDirectory (e.readied pem out a s).files a.keystoreDir) e.handle=
    some e.ecKey
  exchanged : atExchange lib
    (clientWorld pem out (e.readied pem out a s).files a.keystoreDir) e.handle
    e.ecCi e.atHandle (atRecord lib e.aa e.ea e.ecCi.curve e.made)
    {e.client with events := (e.downloads out a s).events}=some e.exchange
  accepted : certFromResponse lib .ok "at" e.client.trust .empty e.exchange.nowTai
    e.exchange.response=.ok e.cert
  requests : ∃ desc ea entropy req,encodeAtRequest lib desc e.exchange.ca ea e.ecCi
      e.ecKey.privateKey.toVector e.exchange.key.privateKey.toVector entropy=.ok req ∧
    requests t.events=.post (atConfig a).aaUrl req.encoded.toVector::
      .get (a.pkiUrl++"/trustanchor")::.get (a.pkiUrl++"/cert/ea")::
      .get (a.pkiUrl++"/cert/aa")::requests s.events
  file : t.files (atPath a)=
    (s.files.overwrite (atPath a) e.cert.certBytes.toVector (out.fill (atPath a))).2 (atPath a)
  key : loadKeypair pem (inDirectory t.files a.keystoreDir) e.atHandle=some e.exchange.key
  kept : loadKeypair pem (inDirectory t.files a.keystoreDir) e.handle=some e.ecKey
  whole : pem.ReadsBack → (∃ pkey kept,buildPkey pem e.made=some pkey ∧
    out.fill (atKeyPath a e.atHandle)=.filled kept true ∧ (pem.write pkey).length ≤ kept) →
      e.exchange.key=e.made

end

section
variable {lib : Lib} {pem : KeyPem} {out : Outside} {a : Args} {s t : Session}

theorem readFile_bind {β : Type} (path : String) (f : Bytes → CommandM β) :
    Op.exec (readFile path >>= f) s=Op.exec (f ((s.files path).getD [])) s :=
  (readFile_readsOnly path).bind f s

theorem loadKey_bind {β : Type} (dir : String) (handle : KeyHandle)
    (f : Option KeyPair → CommandM β) : Op.exec (loadKey pem dir handle >>= f) s=
      Op.exec (f (loadKeypair pem (inDirectory s.files dir) handle)) s :=
  (loadKey_readsOnly dir handle).bind f s

theorem saveBody_ok {path : String} {r : Answer} {body : Bytes} (hbody : okBody r.response=.ok body)
    (h : Op.exec (saveBody out path r) s=(.ok (),t)) : t=s.wrote out path body := by
  unfold saveBody at h
  simp only [hbody] at h
  cases h
  rfl

theorem readCanonicalId_ok {id : Bytes} (h : Op.exec (readCanonicalId a) s=(.ok id,t)) : t=s := by
  simp only [readCanonicalId,Op.get_bind,require_bind_ok] at h
  obtain ⟨-,h⟩ := h
  cases h
  rfl

theorem atExchange_posts {w : World} {ecHandle atHandle : KeyHandle} {ecCert : CertInfo}
    {rec : AtRecord} {c : ClientState} {x : Exchange AuthorizationResponseCode}
    (h : atExchange lib w ecHandle ecCert atHandle rec c=some x) :
    (w.setting c.events).loadKeypair atHandle=some x.key ∧ ∃ kp desc ea entropy req,
      (w.setting c.events).loadKeypair ecHandle=some kp ∧
      encodeAtRequest lib desc x.ca ea ecCert kp.privateKey.toVector x.key.privateKey.toVector
        entropy=.ok req ∧
      requests x.events=.post c.config.aaUrl req.encoded.toVector::requests c.events := by
  refine ⟨(atExchange_some lib w h).1,?_⟩
  simp only [atExchange,Option.bind_eq_bind,Option.bind_eq_some_iff,toOption_eq_some] at h
  obtain ⟨_,_,kp,hkp,aa,_,ea,_,atKp,_,req,hreq,body,_,resp,_,hx⟩ := h
  cases hx
  exact ⟨kp,_,ea,_,req,hkp,hreq,rfl⟩

/-- A key that is stored in full is the one that is loaded. -/
theorem storeKey_whole (hpem : pem.ReadsBack) {dir : String} {handle : KeyHandle} {kp k : KeyPair}
    (h : Op.exec (storeKey pem out dir handle kp) s=(.ok (),t))
    (hwhole : ∃ pkey kept,buildPkey pem kp=some pkey ∧
      out.fill (joinPath dir (pemName handle))=.filled kept true ∧ (pem.write pkey).length ≤ kept)
    (hload : loadKeypair pem (inDirectory t.files dir) handle=some k) : k=kp := by
  obtain ⟨pkey,kept,hbuild,hfill,hkept⟩ := hwhole
  rcases storeKey_ok h with ⟨hnone,-⟩ | ⟨found,hfound,rfl⟩
  · rw [hbuild] at hnone
    cases hnone
  · obtain rfl := Option.some.inj (hbuild.symm.trans hfound)
    have hfile : (inDirectory (s.wrote out (joinPath dir (pemName handle)) (pem.write pkey)).files dir)
        (pemName handle)=some (pem.write pkey) := by
      show (Files.overwrite _ _ _ _).2 _=_
      rw [hfill]
      show Function.update _ _ _ _=_
      rw [Function.update_self,List.take_of_length_le hkept]
    exact Option.some.inj (hload.symm.trans (load_of_whole hpem hbuild hfile))

theorem requestAtFiles_ne_key (a : Args) (handle : KeyHandle) {name : String}
    (h : name∈requestAtFiles a) : joinPath a.keystoreDir (pemName handle)≠name := by
  rintro rfl
  have hcommand : "request-at"≠"fetch-ectl" := by decide
  have hnot := @keyFile_not_written a.keystoreDir handle {a with command := "request-at"}
    fun hfetch => absurd hfetch hcommand
  exact hnot h

/-- The ticket is no other file of its request. -/
theorem at_paths (a : Args) : atPath a≠trustPath a++"/aa.cert" ∧ atPath a≠trustPath a++"/ea.cert" ∧
    atPath a≠trustPath a++"/rca.cert" ∧ ∀ handle,atPath a≠joinPath a.keystoreDir (pemName handle) := by
  have hat : ending 7 (atPath a)=['t','r','e','c','.','t','a'] := ending_append (by decide) _
  refine ⟨?_,?_,?_,?_⟩
  · intro heq
    rw [heq,ending_append (by decide)] at hat
    exact absurd hat (by decide)
  · intro heq
    rw [heq,ending_append (by decide)] at hat
    exact absurd hat (by decide)
  · intro heq
    rw [heq,ending_append (by decide)] at hat
    exact absurd hat (by decide)
  · intro handle heq
    exact requestAtFiles_ne_key a handle (by simp [requestAtFiles]) heq.symm

/-- The two keys of a ticket request are two files. -/
theorem handles_apart {dir : String} {handle atHandle : KeyHandle}
    (h : KeyHandle.ofString (keyId a)=some handle)
    (hat : KeyHandle.ofString (keyId a++"-at")=some atHandle) :
    joinPath dir (pemName handle)≠joinPath dir (pemName atHandle) := by
  intro heq
  have hname := joinPath_injective (pemName_no_slash handle) (pemName_no_slash atHandle) heq
  have hids := congrArg KeyHandle.id (pemName_injective hname)
  rw [ofString_some h,ofString_some hat] at hids
  have hlen := congrArg String.length hids
  rw [String.length_append] at hlen
  have hat : "-at".length=3 := rfl
  omega

theorem gathered_other {aa ea rca : Bytes} {name : String} (haa : name≠trustPath a++"/aa.cert")
    (hea : name≠trustPath a++"/ea.cert") (hrca : name≠trustPath a++"/rca.cert") :
    (gathered out a aa ea rca s).files name=s.files name := by
  rw [gathered,wrote_other hea,wrote_other hrca]
  exact wrote_other haa

theorem gathered_key {aa ea rca : Bytes} (handle : KeyHandle) :
    (gathered out a aa ea rca s).files (joinPath a.keystoreDir (pemName handle))=
      s.files (joinPath a.keystoreDir (pemName handle)) := by
  have hne := @requestAtFiles_ne_key a handle
  exact gathered_other (hne (by simp [requestAtFiles])) (hne (by simp [requestAtFiles]))
    (hne (by simp [requestAtFiles]))

theorem storeKey_other {dir name : String} {handle : KeyHandle} {kp : KeyPair} {u : Unit}
    (h : Op.exec (storeKey pem out dir handle kp) s=(.ok u,t))
    (hne : name≠joinPath dir (pemName handle)) : t.files name=s.files name := by
  have hkeeps := @keeps_storeKey pem out name dir handle hne kp s
  rw [h] at hkeeps
  exact hkeeps

theorem prepareTicket_ok {e : TicketInputs}
    (h : Op.exec (prepareTicket lib pem out a) s=(.ok e,t)) :
    t=e.downloads out a s ∧ Prepares lib pem out a s e := by
  unfold prepareTicket at h
  simp only [require_bind_ok,createDirectories_bind_ok,httpGet_bind,writeFile_bind,
    Op.lift_bind_ok] at h
  obtain ⟨-,aa,haa,-,rca,hrca,h⟩ := h
  obtain ⟨_,g,hsave,hread⟩ := Op.bind_ok.mp h
  obtain ⟨id,g',hid,hrest⟩ := Op.bind_ok.mp hread
  rw [readCanonicalId_ok hid] at hrest
  simp only [require_bind_ok,readFile_bind,newClient_bind_ok,loadKey_bind,Op.need_bind_ok,
    Op.get_bind,Op.lift_bind_ok] at hrest
  obtain ⟨hsome,-,handle,hhandle,ecKey,hecKey,stored,hstored,ea,hea,made,hmade,hend⟩ := hrest
  have hg : g=gathered out a aa ea rca s := saveBody_ok (anchorBody_ok.mp hea) hsave
  subst hg
  obtain ⟨ecCert,hecCert⟩ : ∃ ecCert,(gathered out a aa ea rca s).files (ecCertPath a)=some ecCert := by
    cases hfile : (gathered out a aa ea rca s).files (ecCertPath a) with
    | none =>
      rw [hfile] at hsome
      cases hsome
    | some ecCert => exact ⟨ecCert,rfl⟩
  rw [hecCert,Option.getD_some] at hstored hmade hend
  have hecStart : loadKeypair pem (inDirectory s.files a.keystoreDir) handle=some ecKey := by
    rw [← hecKey]
    exact (load_congr (gathered_key handle)).symm
  cases hend
  exact ⟨rfl,fetchBody_ok.mp haa,anchorBody_ok.mp hea,anchorBody_ok.mp hrca,hhandle,hecCert,hstored,
    hecStart,rfl,rfl,hmade⟩

/-- How a ticket request that ends well goes: in `u` its new key is stored. -/
structure TicketRun (lib : Lib) (pem : KeyPem) (out : Outside) (a : Args) (s u t : Session)
    (e : TicketRequest) : Prop where
  prepared : Prepares lib pem out a s e.toTicketInputs
  atHandle : KeyHandle.ofString (keyId a++"-at")=some e.atHandle
  keyed : Op.exec (storeKey pem out a.keystoreDir e.atHandle e.made) (e.downloads out a s)=(.ok (),u)
  exchanged : atExchange lib (clientWorld pem out u.files a.keystoreDir) e.handle e.ecCi e.atHandle
    (atRecord lib e.aa e.ea e.ecCi.curve e.made) {e.client with events := u.events}=some e.exchange
  accepted : certFromResponse lib .ok "at" e.client.trust e.client.revocation e.exchange.nowTai
    e.exchange.response=.ok e.cert
  files : t.files=(u.wrote out (atPath a) e.cert.certBytes.toVector).files
  events : t.events=e.exchange.events

theorem cmdRequestAt_runs (h : Op.exec (cmdRequestAt lib pem out a) s=(.ok ⟨⟩,t)) :
    ∃ e u,TicketRun lib pem out a s u t e := by
  unfold cmdRequestAt at h
  obtain ⟨e,g,hprepared,h⟩ := Op.bind_ok.mp h
  obtain ⟨rfl,hprepares⟩ := prepareTicket_ok hprepared
  rw [Op.need_bind_ok] at h
  obtain ⟨atHandle,hatHandle,h⟩ := h
  obtain ⟨_,u,hstore,h⟩ := Op.bind_ok.mp h
  simp only [callClient_bind,Op.lift_bind_ok,writeFile_bind] at h
  obtain ⟨ci,hci,h⟩ := h
  obtain ⟨hfiles,hevents⟩ := report_ok h
  obtain ⟨c,hcall⟩ : ∃ c,called pem out e.client a.keystoreDir (fun w =>
      requestAuthorizationTicket lib w e.handle e.ecCi atHandle
        (atRecord lib e.aa e.ea e.ecCi.curve e.made)) u=(.ok ci,c) := ⟨_,Prod.ext (mapError_ok hci) rfl⟩
  rw [hcall] at hfiles hevents
  obtain ⟨x,hx,haccepted,rfl⟩ := (requestAuthorizationTicket_ok lib _).mp hcall
  exact ⟨⟨e,atHandle,x,ci⟩,u,hprepares,hatHandle,hstore,hx,haccepted,hfiles,hevents⟩

namespace TicketRun

variable {u : Session} {e : TicketRequest}

/-- The certificate is written last, and nothing before it touches its file. -/
theorem file (h : TicketRun lib pem out a s u t e) : t.files (atPath a)=
    (s.files.overwrite (atPath a) e.cert.certBytes.toVector (out.fill (atPath a))).2 (atPath a) := by
  obtain ⟨haa,hea,hrca,hkey⟩ := at_paths a
  rw [h.files]
  refine overwrite_congr ?_
  rw [storeKey_other h.keyed (hkey e.atHandle)]
  exact gathered_other haa hea hrca

/-- It is no key file. -/
theorem keyFile (h : TicketRun lib pem out a s u t e) (handle : KeyHandle) :
    t.files (joinPath a.keystoreDir (pemName handle))=
      u.files (joinPath a.keystoreDir (pemName handle)) := by
  rw [h.files]
  exact wrote_other ((at_paths a).2.2.2 handle).symm

theorem loaded (h : TicketRun lib pem out a s u t e) :
    loadKeypair pem (inDirectory u.files a.keystoreDir) e.atHandle=some e.exchange.key :=
  (atExchange_posts h.exchanged).1

/-- The enrolment key is still there once the new one is stored. -/
theorem signsWith (h : TicketRun lib pem out a s u t e) :
    loadKeypair pem (inDirectory u.files a.keystoreDir) e.handle=some e.ecKey := by
  rw [← h.prepared.ecKey]
  refine load_congr ?_
  rw [storeKey_other h.keyed (handles_apart h.prepared.handle h.atHandle)]
  exact gathered_key e.handle

/-- Four requests, and the last one carries what was made with the enrolment key. -/
theorem requests (h : TicketRun lib pem out a s u t e) : ∃ desc ea entropy req,
    encodeAtRequest lib desc e.exchange.ca ea e.ecCi e.ecKey.privateKey.toVector
      e.exchange.key.privateKey.toVector entropy=.ok req ∧
    PkiClient.requests t.events=.post (atConfig a).aaUrl req.encoded.toVector::
      .get (a.pkiUrl++"/trustanchor")::.get (a.pkiUrl++"/cert/ea")::
      .get (a.pkiUrl++"/cert/aa")::PkiClient.requests s.events := by
  obtain ⟨-,kp,desc,ea,entropy,req,hkp,hreq,hposted⟩ := atExchange_posts h.exchanged
  obtain rfl : e.ecKey=kp := Option.some.inj (h.signsWith.symm.trans hkp)
  refine ⟨desc,ea,entropy,req,hreq,?_⟩
  rw [h.events,hposted,h.prepared.client]
  show _::PkiClient.requests u.events=_
  rw [storeKey_events h.keyed]
  rfl

end TicketRun

theorem cmdRequestAt_ok (h : Op.exec (cmdRequestAt lib pem out a) s=(.ok ⟨⟩,t)) :
    ∃ e,Obtains lib pem out a s t e := by
  obtain ⟨e,u,hrun⟩ := cmdRequestAt_runs h
  have hreadied : e.readied pem out a s=u := by rw [TicketRequest.readied,hrun.keyed]
  have hexchanged := hrun.exchanged
  rw [storeKey_events hrun.keyed] at hexchanged
  have haccepted := hrun.accepted
  rw [hrun.prepared.client] at haccepted
  refine ⟨e,hrun.prepared,hrun.atHandle,?_,?_,?_,hrun.requests,hrun.file,?_,?_,?_⟩
  · rw [hreadied]
    exact hrun.signsWith
  · rw [hreadied]
    exact hexchanged
  · rw [hrun.prepared.client]
    exact haccepted
  · rw [load_congr (hrun.keyFile e.atHandle)]
    exact hrun.loaded
  · rw [load_congr (hrun.keyFile e.handle)]
    exact hrun.signsWith
  · intro hpem hwhole
    exact storeKey_whole hpem hrun.keyed hwhole hrun.loaded

/-- The downloads of a ticket request are no key file and not the ticket. -/
theorem downloads_keep {name : String} (h : ∀ file∈["/aa.cert","/ea.cert","/rca.cert"],
    name≠trustPath a++file) : ∀ file∈["/aa.cert","/ea.cert","/rca.cert"],∀ data,
      Op.Keeps (fileAt name) (writeFile out (trustPath a++file) data) :=
  fun file hfile data => keeps_writeFile (h file hfile) data

/-- A ticket request that goes wrong leaves the ticket of an earlier one as it is. -/
theorem cmdRequestAt_failsClean : Op.FailsClean (fileAt (atPath a)) (cmdRequestAt lib pem out a) := by
  obtain ⟨haa,hea,hrca,hkey⟩ := at_paths a
  refine Op.failsClean_bind (keeps_prepareTicket a keeps_httpGet (downloads_keep ?_)) fun e => ?_
  · simp [haa,hea,hrca]
  refine Op.failsClean_bind (Op.keeps_need _ _) fun atHandle => ?_
  refine Op.failsClean_bind (keeps_storeKey (hkey atHandle) e.made) fun _ => ?_
  refine Op.failsClean_bind (keeps_callClient _ _ _) fun result => ?_
  refine Op.failsClean_bind (Op.keeps_lift _) fun ci => ?_
  exact (Op.total_bind (total_writeFile _ _) fun _ => total_report _).failsClean

end

section
variable {lib : Lib} {pem : KeyPem} {version : Bytes}

theorem main_request_at {argv : List String} {out : Outside}
    (h : (parseArgs argv).command="request-at") :
    main lib pem out version argv=cmdRequestAt lib pem out (parseArgs argv) := by
  refine @main_command lib pem out version argv ("request-at",cmdRequestAt lib pem out) ?_ ?_
  · rw [h]
    decide
  · rw [h]
    simp [commands]

/-- A changed `at.cert` is the work of a ticket request that ended well, unless an ECTL is saved in
its place. -/
theorem at_cert_changed {i : Invocation} {s : Session} {dir : String}
    (hout : i.args.command="fetch-ectl" → i.args.out≠dir++"/at.cert")
    (h : (i.result lib pem version s).2.files (dir++"/at.cert")≠s.files (dir++"/at.cert")) :
    i.args.command="request-at" ∧ atPath i.args=dir++"/at.cert" ∧
      (i.result lib pem version s).1=.ok ⟨⟩ ∧
      ∃ e,Obtains lib pem i.out i.args s (i.result lib pem version s).2 e := by
  have hat : ending 7 (dir++"/at.cert")=['t','r','e','c','.','t','a'] := ending_append (by decide) _
  have hwritten : dir++"/at.cert"∈writes i.args := by
    refine changed_written ?_ h
    rw [← @ending_take 7 4 (by decide),hat]
    decide
  rcases writes_ending hwritten with ⟨hcommand,hpath⟩ | ⟨-,hpath⟩ | ⟨hcommand,hpath⟩ | hother
  · exact absurd hpath.symm (hout hcommand)
  · rw [hpath,ecPath,ending_ec] at hat
    exact absurd hat (by decide)
  · have hrun : i.result lib pem version s=Op.exec (cmdRequestAt lib pem i.out i.args) s := by
      rw [Invocation.result,main_request_at hcommand]
      rfl
    rw [hpath,hrun] at h
    rw [hrun]
    rcases hexec : Op.exec (cmdRequestAt lib pem i.out i.args) s with ⟨r,t⟩
    rw [hexec] at h
    cases r with
    | error e => exact absurd (cmdRequestAt_failsClean s e t hexec) h
    | ok u => exact ⟨hcommand,hpath.symm,rfl,cmdRequestAt_ok hexec⟩
  · rw [hat] at hother
    exact absurd hother (by decide)

/-- After any run of invocations `at.cert` is as it was, or there is a ticket request that ended
well and left it so, and the key of this request is loaded as long as no later invocation takes it
away. -/
theorem at_cert_from_request (is : List Invocation) (s : Session) {dir : String}
    (hout : ∀ i∈is,i.args.command="fetch-ectl" → i.args.out≠dir++"/at.cert") :
    (invokeAll lib pem version is s).files (dir++"/at.cert")=s.files (dir++"/at.cert") ∨
    ∃ before i after e,is=before++i::after ∧ i.args.command="request-at" ∧
      atPath i.args=dir++"/at.cert" ∧
      (i.result lib pem version (invokeAll lib pem version before s)).1=.ok ⟨⟩ ∧
      Obtains lib pem i.out i.args (invokeAll lib pem version before s)
        (i.result lib pem version (invokeAll lib pem version before s)).2 e ∧
      (invokeAll lib pem version is s).files (dir++"/at.cert")=
        (i.result lib pem version (invokeAll lib pem version before s)).2.files (dir++"/at.cert") ∧
      ((∀ j∈after,LeavesKey i.args.keystoreDir e.atHandle j.args) →
        loadKeypair pem (inDirectory (invokeAll lib pem version is s).files i.args.keystoreDir)
          e.atHandle=some e.exchange.key) := by
  rcases Op.last_change (fun s i => (Invocation.result lib pem version i s).2)
      (fileAt (dir++"/at.cert")) is s with hsame | ⟨before,i,after,rfl,hchange,hlast⟩
  · exact .inl hsame
  · obtain ⟨hcommand,hpath,hok,e,he⟩ := at_cert_changed (hout i (by simp)) hchange
    refine .inr ⟨before,i,after,e,rfl,hcommand,hpath,hok,he,hlast,?_⟩
    intro hleaves
    rw [invokeAll_split]
    exact (@keys_survive lib pem version after _ _ e.atHandle e.exchange.key he.key hleaves).1

end

section
variable {lib : Lib} {pem : KeyPem} {out : Outside} {a : Args}

/-- The POSTs of a session, newest first. -/
def posts (s : Session) : List HttpRequest := (requests s.events).filter fun r => match r with
  | .post _ _ => true
  | .get _ => false

/-- What an attempt to store a key leaves in its file. -/
def storedFile (pem : KeyPem) (fill : Fill) (kp : KeyPair) (old : Option Bytes) : Option Bytes :=
  match buildPkey pem kp,fill with
  | none,_ => old
  | some _,.notOpened => old
  | some pkey,.filled kept _ => some ((pem.write pkey).take kept)

def ticketKeyPath (a : Args) : String := joinPath a.keystoreDir (keyId a++"-at"++".pem")

theorem storeKey_file {dir : String} {handle : KeyHandle} {kp : KeyPair} (s : Session) :
    ∃ t,Op.exec (storeKey pem out dir handle kp) s=(.ok (),t) ∧
      t.files (joinPath dir (pemName handle))=
        storedFile pem (out.fill (joinPath dir (pemName handle))) kp
          (s.files (joinPath dir (pemName handle))) := by
  unfold storeKey storedFile
  cases buildPkey pem kp with
  | none => exact ⟨s,rfl,rfl⟩
  | some pkey =>
    refine ⟨s.wrote out (joinPath dir (pemName handle)) (pem.write pkey),rfl,?_⟩
    show (Files.overwrite _ _ _ _).2 _=_
    cases out.fill (joinPath dir (pemName handle)) with
    | notOpened => rfl
    | filled kept reported => exact Function.update_self _ _ _

theorem ticketKeyPath_eq {atHandle : KeyHandle}
    (h : KeyHandle.ofString (keyId a++"-at")=some atHandle) :
    ticketKeyPath a=joinPath a.keystoreDir (pemName atHandle) := by
  rw [ticketKeyPath,pemName,ofString_some h]

/-- Nothing is POSTed before the new key is stored, and nothing touches its file after that. -/
theorem posted_after_key
    (h : posts (Op.exec (cmdRequestAt lib pem out a) s).2≠posts s) :
    ∃ e atHandle,Prepares lib pem out a s e ∧ KeyHandle.ofString (keyId a++"-at")=some atHandle ∧
      (Op.exec (cmdRequestAt lib pem out a) s).2.files (ticketKeyPath a)=
        storedFile pem (out.fill (ticketKeyPath a)) e.made (s.files (ticketKeyPath a)) := by
  have hget : ∀ url,Op.Keeps posts (httpGet out url) := fun _ _ => rfl
  have hwrite : ∀ file∈["/aa.cert","/ea.cert","/rca.cert"],∀ data,
      Op.Keeps posts (writeFile out (trustPath a++file) data) := fun _ _ _ _ => rfl
  have hall : cmdRequestAt lib pem out a=prepareTicket lib pem out a >>= _ := rfl
  rw [hall] at h ⊢
  obtain ⟨e,g,hprepared,h,hrun⟩ := Op.changed_bind (keeps_prepareTicket a hget hwrite) h
  obtain ⟨rfl,hprepares⟩ := prepareTicket_ok hprepared
  rw [hrun]
  obtain ⟨atHandle,g,hneed,-,hrun⟩ := Op.changed_bind (Op.keeps_need _ _) h
  rw [hrun]
  obtain ⟨hatHandle,rfl⟩ := Op.need_ok.mp hneed
  refine ⟨e,atHandle,hprepares,hatHandle,?_⟩
  obtain ⟨t,hstore,hfile⟩ := @storeKey_file pem out a.keystoreDir atHandle e.made
    (e.downloads out a s)
  rw [ticketKeyPath_eq hatHandle,Op.exec_bind_of_ok hstore]
  -- from here on the key is left alone
  have hrest : ∀ m : World → ClientM CertInfo,
      Op.Keeps (fileAt (joinPath a.keystoreDir (pemName atHandle))) (do
        let result ← callClient pem out e.client a.keystoreDir m
        let ci ← Op.lift (result.mapError fun e => .failed ("error: AT request failed: "++e.text))
        let _ ← writeFile out (atPath a) ci.certBytes.toVector
        report a (credentialText "at_cert" (atPath a) (computeHid8 lib ci.certBytes.toVector))) := by
    intro m
    refine Op.keeps_bind (keeps_callClient _ _ _) fun result => ?_
    refine Op.keeps_bind (Op.keeps_lift _) fun ci => ?_
    exact Op.keeps_bind (keeps_writeFile ((at_paths a).2.2.2 atHandle).symm _)
      fun _ => keeps_report a _
  refine (hrest _ t).trans (hfile.trans ?_)
  rw [TicketInputs.downloads,gathered_key]

/-- However a ticket request ends, once it has POSTed something the key of the ticket in hand has
made way for the one that was drawn on the curve of the enrolment credential, which is loaded from
then on if it was stored in full; but the ticket itself is only replaced by a request that ends
well. -/
theorem ticket_key_goes_first (a : Args) (s : Session) :
    (posts (Op.exec (cmdRequestAt lib pem out a) s).2≠posts s → ∃ e atHandle,
      Prepares lib pem out a s e ∧ KeyHandle.ofString (keyId a++"-at")=some atHandle ∧
      (Op.exec (cmdRequestAt lib pem out a) s).2.files (ticketKeyPath a)=
        storedFile pem (out.fill (ticketKeyPath a)) e.made (s.files (ticketKeyPath a)) ∧
      (pem.ReadsBack → ∀ pkey kept reported,buildPkey pem e.made=some pkey →
        out.fill (ticketKeyPath a)=.filled kept reported → (pem.write pkey).length ≤ kept →
        loadKeypair pem (inDirectory (Op.exec (cmdRequestAt lib pem out a) s).2.files
          a.keystoreDir) atHandle=some e.made)) ∧
    ∀ e t,Op.exec (cmdRequestAt lib pem out a) s=(.error e,t) →
      t.files (atPath a)=s.files (atPath a) := by
  constructor
  · intro hposted
    obtain ⟨e,atHandle,hprepares,hatHandle,hfile⟩ := posted_after_key hposted
    refine ⟨e,atHandle,hprepares,hatHandle,hfile,?_⟩
    intro hpem pkey kept reported hbuild hfill hkept
    have hstored : storedFile pem (out.fill (ticketKeyPath a)) e.made (s.files (ticketKeyPath a))=
        some (pem.write pkey) := by
      simp only [storedFile,hbuild,hfill,List.take_of_length_le hkept]
    rw [hstored,ticketKeyPath_eq hatHandle] at hfile
    exact load_of_whole hpem hbuild hfile
  · intro e t h
    exact cmdRequestAt_failsClean s e t h

end

end Cli

namespace Sample

open Framework PkiClient PlaintextFileKeyStore Cli

/-- A key store after an enrolment. -/
def enrolledStore : Session where
  files name :=
    if name="/ks/canonical.pem" then some (keyPem.write ⟨.nistP256,21,pointOn .nistP256 21⟩)
    else if name="/ks/ec.cert" then some stationEc.1 else none
  events := []
  printed := []

def oneDayDesc (d : Nat) : AtRequestDescription :=
  assembleAtRequest fleetBase (atRecord fleetBase aaCa.1 eaCa.1 .nistP256 (keyPair d)) 1200000000
    (some 17)

def oneDayShared (d : Nat) : Coded Asn.SharedAtRequest :=
  let pvk := requestVerificationKey .nistP256 (pointOf .nistP256 d)
  let v := sharedAtRequest fleetBase (oneDayDesc d) ((verificationKeyOctets pvk).getD [])
  ((sharedAtRequestOctets v).getD [],v)

def oneDayPosted : Bytes :=
  let base := fleetLib (fleetTables {certs := [stationEc],bodies := [ecBody]}) [oneDayShared 22]
  octetsOf (encodeAtRequest base (oneDayDesc 22) fleetAnchors.aa fleetAnchors.ea
    (ecCertInfo base .zero stationEc.1 (.orEmpty stationEc.1) (keyPair 21)) (binpad 32 21)
    (binpad 32 22) (rotation 22 1200000000 noAnswer).entropy)

def oneDayAnswer : Coded Asn.InnerResponse := innerResponse oneDayPosted 0 (some (ticketCert 22))

def oneDaySigned : Coded Asn.Ieee1609Dot2Data := signedEnvelope 13 aaCa ([0x01,0x83]++oneDayAnswer.1)

def oneDayLib : Lib :=
  fleetLib (fleetTables
    {certs := [stationEc,ticketCert 22]
     bodies := [ecBody,tbs 22 []]
     envelopes := [oneDaySigned,pskEnvelope oneDaySigned.1]
     signedBodies := [signedBody ([0x01,0x83]++oneDayAnswer.1)]
     atResponses := [oneDayAnswer]}) [oneDayShared 22,oneDayShared 23]

/-- A PKI that serves its certificates and answers a POST as given, to a station that draws the
scalar `d`. -/
def aaOnline (d : Nat) (posted : Except Error HttpResponse) : Outside := {alone with
  unixNow := fun _ => 1200000000
  scalar := fun _ => some d
  atEntropy := fun _ => (rotation d 1200000000 noAnswer).entropy
  answer := fun _ r => match r with
    | .get url => ⟨.ok ⟨200,if url="https://pki/cert/aa" then aaCa.1
        else if url="https://pki/cert/ea" then eaCa.1 else rootCa.1⟩,1200000000,fun _ => .zero⟩
    | .post _ _ => ⟨posted,1200000000,fun _ => .zero⟩
  listed := fun _ => ["ea.cert","aa.cert","rca.cert"]}

def ticketLine : List String :=
  ["v2xpki","request-at","--pki-url","https://pki","--keystore-dir","/ks"]

def answeredRequest : Invocation := ⟨aaOnline 22 (.ok ⟨200,(pskEnvelope oneDaySigned.1).1⟩),ticketLine⟩

def unansweredRequest : Invocation := ⟨aaOnline 23 (.error .network),ticketLine⟩

def ticketRuns : List Invocation := [answeredRequest,unansweredRequest]

theorem station_keeps_at_cert :
    (invokeAll oneDayLib keyPem [] ticketRuns enrolledStore).files "/ks/at.cert"=
        some (ticketCert 22).1 ∧
    ∃ before i after e,ticketRuns=before++i::after ∧ i.args.command="request-at" ∧
      Obtains oneDayLib keyPem i.out i.args (invokeAll oneDayLib keyPem [] before enrolledStore)
        (i.result oneDayLib keyPem [] (invokeAll oneDayLib keyPem [] before enrolledStore)).2 e := by
  have hcert : (invokeAll oneDayLib keyPem [] ticketRuns enrolledStore).files "/ks/at.cert"=
      some (ticketCert 22).1 := by decide +kernel
  refine ⟨hcert,?_⟩
  rcases @at_cert_from_request oneDayLib keyPem [] ticketRuns enrolledStore "/ks" (by decide +kernel)
    with hsame | ⟨before,i,after,e,hruns,hcommand,-,-,he,-,-⟩
  · have hnone : enrolledStore.files "/ks/at.cert"=none := by decide +kernel
    have hpath : "/ks"++"/at.cert"="/ks/at.cert" := by decide
    rw [hpath,hcert,hnone] at hsame
    cases hsame
  · exact ⟨before,i,after,e,hruns,hcommand,he⟩

def ticketHandle : KeyHandle := ⟨"canonical-at",by decide,by decide,by decide⟩

/-- The ticket of the first request is left with the key of the second one, which got no answer. -/
theorem unanswered_request_costs_key :
    (invokeAll oneDayLib keyPem [] ticketRuns enrolledStore).files "/ks/at.cert"=
        some (ticketCert 22).1 ∧
    loadKeypair keyPem (inDirectory (invokeAll oneDayLib keyPem [] [answeredRequest]
      enrolledStore).files "/ks") ticketHandle=some (keyPair 22) ∧
    loadKeypair keyPem (inDirectory (invokeAll oneDayLib keyPem [] ticketRuns
      enrolledStore).files "/ks") ticketHandle=some (keyPair 23) ∧
    (posts (invokeAll oneDayLib keyPem [] ticketRuns enrolledStore)).length=2 := by
  decide +kernel

end Sample

end V2xPki
