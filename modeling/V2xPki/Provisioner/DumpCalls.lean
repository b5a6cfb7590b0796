import V2xPki.Provisioner.DumpedRun
import V2xPki.Provisioner.MainLoop

namespace V2xPki

/-- `to_string` -/
def Curve.text : Curve → Bytes
  | .nistP256 => bytesOfString "nist-p256"
  | .brainpoolP256r1 => bytesOfString "brainpool-p256r1"
  | .nistP384 => bytesOfString "nist-p384"
  | .brainpoolP384r1 => bytesOfString "brainpool-p384r1"

namespace Provisioning

open Framework PkiClient

def hex8 (h : HashedId8) : Bytes := bytesOfString (hid8HexUpper h)

/-- `tolower` -/
def toLower (c : UInt8) : UInt8 := if 0x41 ≤ c ∧ c ≤ 0x5a then c+0x20 else c

/-- `header_of`: headers in the order of the map, which is that of their names. -/
def headerOf : List (Bytes × Bytes) → Bytes → Bytes
  | [],_ => []
  | (k,v)::headers,name => if k.map toLower=name then v else headerOf headers name

/-- An artefact that the provisioner sent, with the type it posts. -/
def sentCall (step : String) (bytes : Bytes) (note : String) : DumpCall :=
  .record (bytesOfString step) (bytesOfString "sent") bytes (bytesOfString note) 0
    (bytesOfString "application/x-its-request")

/-- A response, with its status and the type its server gave. -/
def responseCall (step : String) (r : HttpResponse) (headers : List (Bytes × Bytes)) : DumpCall :=
  .record (bytesOfString step) (bytesOfString "received") r.body
    (bytesOfString "outer-encrypted; the inner PDU needs the per-request AES key, not dumped")
    r.statusCode (headerOf headers (bytesOfString "content-type"))

/-- A certificate taken from a response. -/
def certCall (step : String) (cert : CertInfo) (note : String) : DumpCall :=
  .record (bytesOfString step) (bytesOfString "received") cert.certBytes.toVector
    (bytesOfString note) 0 []

/-- A trust anchor. -/
def staticCall (step : String) (cert : CertInfo) : DumpCall :=
  .record (bytesOfString step) (bytesOfString "static") cert.certBytes.toVector [] 0 []

def keyCall (name : String) (key : Bytes) (note : String) : DumpCall :=
  .recordKey (bytesOfString name) key (bytesOfString note)

def metaCall (key : String) (value : Bytes) : DumpCall := .addMeta (bytesOfString key) value

/-- What is noted of the two requests, and of the certificates that come back. -/
def ecSentCall (body : Bytes) : DumpCall :=
  sentCall "ec_request" body "exact bytes POSTed; requestHash = leftmost 16 octets of this sha256"

def atSentCall (body : Bytes) : DumpCall :=
  sentCall "at_request" body
    ("exact bytes POSTed; carries the PoP and keyTag; requestHash = leftmost 16 of this "++
      "sha256")

def ecCertCalls (cert : CertInfo) : List DumpCall :=
  [certCall "ec_cert" cert "issued EC, extracted from ec_response",
    metaCall "ec_hashed_id_8" (hex8 cert.hashedId8),metaCall "curve" cert.curve.text]

def atCertCalls (lib : Lib) (cert : CertInfo) : List DumpCall :=
  [certCall "at_cert" cert "issued AT, extracted from at_response",
    metaCall "at_hashed_id_8" (hex8 (hid8Of lib cert.certBytes.toVector))]

/-- What `main` notes first. -/
def openingCalls (cfg : Config) (kVersion : Bytes) : List DumpCall :=
  [metaCall "pki_base_url" (bytesOfString cfg.pkiBaseUrl),metaCall "client_version" kVersion]

/-- What `write_anchors` notes when both anchors are written. -/
def anchorCalls (ta : TrustAnchors) : List DumpCall :=
  [staticCall "ea_cert" ta.ea,staticCall "aa_cert" ta.aa,staticCall "rca_cert" ta.rca,
    metaCall "ea_hashed_id_8" (hex8 ta.ea.hashedId8),
    metaCall "aa_hashed_id_8" (hex8 ta.aa.hashedId8),
    metaCall "rca_hashed_id_8" (hex8 ta.rca.hashedId8)]

section
variable (lib : Lib)

/-- What `enrol_ec` notes on its way, as far as it gets. -/
def enrolCalls (ta : TrustAnchors) (validityDays : Int) (curve : Curve) (s : EnrolSetting)
    (headers : List (Bytes × Bytes)) : List DumpCall :=
  match ecRequest lib ta validityDays curve s with
  | none => []
  | some (kp,req) =>
    let a := s.answer (.post ta.ecUrl req.encoded.toVector)
    ecSentCall req.encoded.toVector::
    match a.response with
    | .error _ => []
    | .ok r =>
      if r.statusCode≠200 then []
      else
        [keyCall "ec_request_aes_key" req.requestAesKey.toVector
          "AES-128 key of the EC request; the response reuses it as PSK",
         keyCall "canonical_private_key" kp.privateKey.toVector
          "station canonical private key (SEC1 scalar)",
         responseCall "ec_response" r headers]++
        match (decodeEcResponse lib (a.mem 0) r.body kp.privateKey.toVector
            req.requestAesKey.toVector req.encoded.toVector ta.ea).toOption.bind (certOf .ok) with
        | none => []
        | some cert => ecCertCalls cert

/-- What `rotate_at` notes on its way, as far as it gets. -/
def rotateCalls (ta : TrustAnchors) (ec : EnrolledEc) (psids : List Int) (validityHours : Int)
    (s : RotateSetting) (headers : List (Bytes × Bytes)) : List DumpCall :=
  match atRequest lib ta ec psids validityHours s with
  | none => []
  | some (kp,req) =>
    let a := s.answer (.post ta.atUrl req.encoded.toVector)
    atSentCall req.encoded.toVector::
    match a.response with
    | .error _ => []
    | .ok r =>
      if r.statusCode≠200 ∨ r.body.isEmpty then []
      else
        [keyCall "at_request_aes_key" req.requestAesKey.toVector
          "AES-128 key of the AT request; the response reuses it as PSK",
         keyCall "at_private_key" kp.privateKey.toVector "AT private key (SEC1 scalar)",
         responseCall "at_response" r headers]++
        match (decodeAtResponse lib (a.mem 0) r.body kp.privateKey.toVector
            req.requestAesKey.toVector req.encoded.toVector ta.aa).toOption.bind (certOf .ok) with
        | none => []
        | some cert => atCertCalls lib cert

/-- One turn of the loop, the headers of its response, and what a `flush` would find. -/
structure DumpedTurn where
  turn : Turn
  headers : List (Bytes × Bytes)
  flush : FlushSetting

variable (pem : KeyPem) (cfg : Config) (ta : TrustAnchors)

/-- The calls of one turn before its `flush`. -/
def notedCalls (t : DumpedTurn) (s : LoopState) : List DumpCall :=
  rotateCalls lib ta s.ec cfg.psids cfg.validityPeriodHours
    {t.turn.found with unixNow := s.now+t.turn.lag} t.headers

/-- The rotation of a turn works. -/
def Worked (t : DumpedTurn) (s : LoopState) : Prop :=
  (rotateAt lib pem ta s.ec cfg.psids cfg.validityPeriodHours cfg.outputDir
    {t.turn.found with unixNow := s.now+t.turn.lag} t.turn.writes s.files).1.isSome=true

instance (t : DumpedTurn) (s : LoopState) : Decidable (Worked lib pem cfg ta t s) :=
  inferInstanceAs (Decidable (_=true))

/-- One turn of the loop: a `flush` follows a rotation that worked, its writes included. -/
def turnCalls (t : DumpedTurn) (s : LoopState) : List DumpCall :=
  notedCalls lib cfg ta t s++if Worked lib pem cfg ta t s then [.flush t.flush] else []

def loopCalls : List DumpedTurn → LoopState → List DumpCall
  | [],_ => []
  | t::turns,s => turnCalls lib pem cfg ta t s++loopCalls turns (turn lib pem cfg ta t.turn s)

/-- The state of the loop after some turns. -/
def afterTurns (turns : List DumpedTurn) (s : LoopState) : LoopState :=
  turns.foldl (fun s t => turn lib pem cfg ta t.turn s) s

/-- What a run of the provisioner knows before its loop. -/
structure Preparation where
  kVersion : Bytes
  found : EnrolSetting
  headers : List (Bytes × Bytes)

def preparedCalls (p : Preparation) : List DumpCall :=
  openingCalls cfg p.kVersion++anchorCalls ta++
    enrolCalls lib ta cfg.ecValidityDays cfg.curve p.found p.headers

/-- The calls of a run of the provisioner that gets to its loop. -/
def provisionerCalls (p : Preparation) (turns : List DumpedTurn) (s : LoopState) : List DumpCall :=
  preparedCalls lib cfg ta p++loopCalls lib pem cfg ta turns s

end

/-- The names that a call takes for itself: of an artefact, of metadata. -/
def DumpCall.artefactName : DumpCall → Option Bytes
  | .record step _ _ _ _ _ => some step
  | .recordKey name _ _ => some name
  | _ => none

def DumpCall.metaName : DumpCall → Option Bytes
  | .addMeta key _ => some key
  | _ => none

def DumpCall.isFlush : DumpCall → Bool
  | .flush _ => true
  | _ => false

section Names
variable {ssl : OpenSsl}

theorem perform_names (s : Dumping) {call : DumpCall} (hcall : call.isFlush=false) :
    ((s.perform ssl call).dump.entries.map (·.step)).Sublist
      (s.dump.entries.map (·.step)++call.artefactName.toList) ∧
    (s.perform ssl call).dump.keys.Sublist (s.dump.keys++call.metaName.toList) := by
  have hkeep := List.sublist_append_left (s.dump.entries.map (·.step)) call.artefactName.toList
  have hkeys := List.sublist_append_left s.dump.keys call.metaName.toList
  have hrecord : ∀ step direction bytes note status contentType,
      let d := s.dump.record ssl step direction bytes note status contentType
      (d.entries.map (·.step)).Sublist (s.dump.entries.map (·.step)++[step]) ∧
        d.keys=s.dump.keys := by
    intro step direction bytes note status contentType
    unfold WireDump.record
    split
    · exact ⟨by rw [List.map_append]; rfl,rfl⟩
    · exact ⟨List.sublist_append_left _ _,rfl⟩
  cases call with
  | record step direction bytes note status contentType =>
    obtain ⟨hnames,hsame⟩ := hrecord step direction bytes note status contentType
    exact ⟨hnames,hsame ▸ hkeys⟩
  | recordKey name key note =>
    obtain ⟨hnames,hsame⟩ := hrecord name (bytesOfString "key-material") key note 0 []
    simp only [Dumping.perform,WireDump.recordKey]
    split
    · exact ⟨hnames,hsame ▸ hkeys⟩
    · exact ⟨hkeep,hkeys⟩
  | addMeta key value =>
    simp only [Dumping.perform,WireDump.addMeta]
    split
    · exact ⟨hkeep,by rw [WireDump.keys,List.map_append]; rfl⟩
    · exact ⟨hkeep,hkeys⟩
  | flush found => cases hcall

theorem run_names {s : Dumping} {calls : List DumpCall} (hcalls : ∀ c∈calls,c.isFlush=false) :
    ((s.run ssl calls).dump.entries.map (·.step)).Sublist
      (s.dump.entries.map (·.step)++calls.filterMap DumpCall.artefactName) ∧
    (s.run ssl calls).dump.keys.Sublist
      (s.dump.keys++calls.filterMap DumpCall.metaName) := by
  induction calls generalizing s with
  | nil => exact ⟨by simp [Dumping.run],by simp [Dumping.run]⟩
  | cons call calls ih =>
    obtain ⟨hcall,hrest⟩ := List.forall_mem_cons.mp hcalls
    obtain ⟨hnames,hkeys⟩ := @perform_names ssl s _ hcall
    obtain ⟨hnames',hkeys'⟩ := ih (s := s.perform ssl call) hrest
    have hsplit : ∀ (f : DumpCall → Option Bytes) (l : List Bytes),
        l++(call::calls).filterMap f=(l++(f call).toList)++calls.filterMap f := by
      intro f l
      rw [List.append_assoc,List.filterMap_cons]
      cases f call <;> rfl
    rw [hsplit,hsplit]
    exact ⟨hnames'.trans (hnames.append_right _),hkeys'.trans (hkeys.append_right _)⟩

/-- When no name is taken twice, a dump is ready for a `flush` that loses nothing. -/
theorem ready_of_distinct {dir : String} {withKeys : Bool} {files : Files UInt8}
    {calls : List DumpCall} {f : FlushSetting} (hcalls : ∀ c∈calls,c.isFlush=false)
    (hnames : (calls.filterMap DumpCall.artefactName).Nodup)
    (hkeys : (calls.filterMap DumpCall.metaName++
      [bytesOfString "dumped_at_utc",bytesOfString "warning",bytesOfString "artefacts"]).Nodup)
    (hblobs : WholeWrites f.blob 0 (((Dumping.start dir withKeys files).run ssl calls).dump.entries.zip
      ((Dumping.start dir withKeys files).run ssl calls).dump.blobs))
    (hmanifest : NothingLost (((Dumping.start dir withKeys files).run ssl calls).dump.stamped
      f.time).manifest.length f.manifest) :
    Ready ((Dumping.start dir withKeys files).run ssl calls).dump f := by
  obtain ⟨hsub,hsubKeys⟩ := @run_names ssl (.start dir withKeys files) _ hcalls
  refine ⟨?_,?_,hblobs,hmanifest⟩
  · intro e he g hg hstep
    have hnodup := List.Nodup.sublist hsub hnames
    obtain rfl := List.inj_on_of_nodup_map hnodup he hg hstep
    exact ⟨rfl,rfl⟩
  · have hflush : (((Dumping.start dir withKeys files).run ssl calls).dump.flushKeys++
        [bytesOfString "artefacts"]).Sublist
        [bytesOfString "dumped_at_utc",bytesOfString "warning",bytesOfString "artefacts"] := by
      unfold WireDump.flushKeys
      split
      · exact List.Sublist.refl _
      · exact .cons_cons _ (.cons _ (.refl _))
    rw [WireDump.topLevel,stamped_keys,List.append_assoc]
    exact List.Nodup.sublist (List.Sublist.append hsubKeys hflush) hkeys

end Names

/-- The calls take these names in this order, as far as they go, and flush nothing. -/
structure TakesNames (calls : List DumpCall) (artefacts metas : List String) : Prop where
  artefacts : calls.filterMap DumpCall.artefactName<+:artefacts.map bytesOfString
  metas : calls.filterMap DumpCall.metaName<+:metas.map bytesOfString
  unflushed : calls.any DumpCall.isFlush=false

section Provisioner
variable {lib : Lib} {pem : KeyPem} {cfg : Config} {ta : TrustAnchors}

theorem openingCalls_names (kVersion : Bytes) :
    TakesNames (openingCalls cfg kVersion) [] ["pki_base_url","client_version"] :=
  ⟨⟨_,rfl⟩,⟨_,rfl⟩,rfl⟩

theorem anchorCalls_names : TakesNames (anchorCalls ta) ["ea_cert","aa_cert","rca_cert"]
    ["ea_hashed_id_8","aa_hashed_id_8","rca_hashed_id_8"] :=
  ⟨⟨_,rfl⟩,⟨_,rfl⟩,rfl⟩

theorem enrolCalls_names (validityDays : Int) (curve : Curve) (s : EnrolSetting)
    (headers : List (Bytes × Bytes)) :
    TakesNames (enrolCalls lib ta validityDays curve s headers)
      ["ec_request","ec_request_aes_key","canonical_private_key","ec_response","ec_cert"]
      ["ec_hashed_id_8","curve"] := by
  unfold enrolCalls
  split
  · exact ⟨⟨_,rfl⟩,⟨_,rfl⟩,rfl⟩
  dsimp only
  split
  · exact ⟨⟨_,rfl⟩,⟨_,rfl⟩,rfl⟩
  split
  · exact ⟨⟨_,rfl⟩,⟨_,rfl⟩,rfl⟩
  split
  · exact ⟨⟨_,rfl⟩,⟨_,rfl⟩,rfl⟩
  · exact ⟨⟨_,rfl⟩,⟨_,rfl⟩,rfl⟩

theorem rotateCalls_names (ec : EnrolledEc) (psids : List Int) (validityHours : Int)
    (s : RotateSetting) (headers : List (Bytes × Bytes)) :
    TakesNames (rotateCalls lib ta ec psids validityHours s headers)
      ["at_request","at_request_aes_key","at_private_key","at_response","at_cert"]
      ["at_hashed_id_8"] := by
  unfold rotateCalls
  split
  · exact ⟨⟨_,rfl⟩,⟨_,rfl⟩,rfl⟩
  dsimp only
  split
  · exact ⟨⟨_,rfl⟩,⟨_,rfl⟩,rfl⟩
  split
  · exact ⟨⟨_,rfl⟩,⟨_,rfl⟩,rfl⟩
  split
  · exact ⟨⟨_,rfl⟩,⟨_,rfl⟩,rfl⟩
  · exact ⟨⟨_,rfl⟩,⟨_,rfl⟩,rfl⟩

theorem loopCalls_append (turns more : List DumpedTurn) (s : LoopState) :
    loopCalls lib pem cfg ta (turns++more) s=
      loopCalls lib pem cfg ta turns s++
        loopCalls lib pem cfg ta more (afterTurns lib pem cfg ta turns s) := by
  induction turns generalizing s with
  | nil => rfl
  | cons t turns ih =>
    rw [List.cons_append,loopCalls,loopCalls,ih,List.append_assoc]
    rfl

/-- The calls of a run around the `flush` of a rotation that worked. -/
theorem provisionerCalls_split (p : Preparation) (turns : List DumpedTurn) (t : DumpedTurn)
    (rest : List DumpedTurn) {s : LoopState}
    (h : Worked lib pem cfg ta t (afterTurns lib pem cfg ta turns s)) :
    provisionerCalls lib pem cfg ta p (turns++t::rest) s=
      (preparedCalls lib cfg ta p++loopCalls lib pem cfg ta turns s++
        notedCalls lib cfg ta t (afterTurns lib pem cfg ta turns s))++
        .flush t.flush::loopCalls lib pem cfg ta rest
          (turn lib pem cfg ta t.turn (afterTurns lib pem cfg ta turns s)) := by
  have hturn : turnCalls lib pem cfg ta t (afterTurns lib pem cfg ta turns s)=
      notedCalls lib cfg ta t (afterTurns lib pem cfg ta turns s)++[.flush t.flush] := by
    rw [turnCalls,if_pos h]
  rw [provisionerCalls,loopCalls_append,loopCalls,hturn]
  simp only [List.append_assoc,List.cons_append,List.nil_append]

/-- The names of one rotation and of what comes before the loop are all different. -/
theorem prepared_names (p : Preparation) (t : DumpedTurn) (s : LoopState) :
    let calls := preparedCalls lib cfg ta p++notedCalls lib cfg ta t s
    (∀ c∈calls,c.isFlush=false) ∧ (calls.filterMap DumpCall.artefactName).Nodup ∧
    (calls.filterMap DumpCall.metaName++
      [bytesOfString "dumped_at_utc",bytesOfString "warning",bytesOfString "artefacts"]).Nodup := by
  have hopening := @openingCalls_names cfg p.kVersion
  have hanchors := @anchorCalls_names ta
  have henrol := @enrolCalls_names lib ta cfg.ecValidityDays cfg.curve p.found p.headers
  have hrotate := @rotateCalls_names lib ta s.ec cfg.psids cfg.validityPeriodHours
    {t.turn.found with unixNow := s.now+t.turn.lag} t.headers
  refine ⟨?_,?_,?_⟩
  · have hunflushed : (preparedCalls lib cfg ta p++notedCalls lib cfg ta t s).any
        DumpCall.isFlush=false := by
      simp only [preparedCalls,notedCalls,List.any_append,hopening.unflushed,hanchors.unflushed,
        henrol.unflushed,hrotate.unflushed,Bool.or_self]
    intro c hc
    simpa using List.any_eq_false.mp hunflushed c hc
  · simp only [preparedCalls,notedCalls,List.filterMap_append]
    refine List.Nodup.sublist (((hopening.artefacts.sublist.append hanchors.artefacts.sublist).append
      henrol.artefacts.sublist).append hrotate.artefacts.sublist) ?_
    decide
  · simp only [preparedCalls,notedCalls,List.filterMap_append]
    refine List.Nodup.sublist ((((hopening.metas.sublist.append hanchors.metas.sublist).append
      henrol.metas.sublist).append hrotate.metas.sublist).append_right _) ?_
    decide

/-- A run fits whose successful rotation is the first that gets to note anything, and whose
`flush` loses nothing. -/
theorem first_noted_fits (p : Preparation) {turns : List DumpedTurn} (t : DumpedTurn)
    {start : LoopState} (dir : String) (withKeys : Bool) (files : Files UInt8)
    (hfailed : loopCalls lib pem cfg ta turns start=[]) :
    let before := preparedCalls lib cfg ta p++loopCalls lib pem cfg ta turns start++
      notedCalls lib cfg ta t (afterTurns lib pem cfg ta turns start)
    let d := ((Dumping.start dir withKeys files).run lib.ssl before).dump
    d.enabled=true → WholeWrites t.flush.blob 0 (d.entries.zip d.blobs) →
    NothingLost (d.stamped t.flush.time).manifest.length t.flush.manifest →
    FitRun lib.ssl (.start dir withKeys files) (before++[.flush t.flush]) := by
  intro before d henabled hblobs hmanifest
  refine (fitRun_iff_ready (start_wellRecorded dir withKeys files) henabled).mpr ?_
  have hbefore : before=preparedCalls lib cfg ta p++
      notedCalls lib cfg ta t (afterTurns lib pem cfg ta turns start) := by
    simp only [before,hfailed,List.append_nil]
  have hnames := @prepared_names lib cfg ta p t (afterTurns lib pem cfg ta turns start)
  dsimp only at hnames
  rw [← hbefore] at hnames
  obtain ⟨hunflushed,hnodup,hkeys⟩ := hnames
  exact ready_of_distinct hunflushed hnodup hkeys hblobs hmanifest

end Provisioner

/-- After a `flush` that worked the manifest describes the files, whatever was recorded before
and is recorded later, exactly if the calls up to it met their conditions; so it is in a run of
the provisioner in which any number of rotations come before the first that works. What reads
the manifest of names that need no escaping finds the entries. Keys are not written unless that
was asked for: without them the run is the same. -/
theorem wireDump_described_iff (ssl : OpenSsl) :
    (∀ dir withKeys files before after found,
      let s := (Dumping.start dir withKeys files).run ssl before
      s.dump.enabled=true → (s.dump.flush s.files found).1=true →
      ((s.dump.stamped found.time).Described ssl dir
          ((Dumping.start dir withKeys files).run ssl (before++.flush found::after)).files ↔
        FitRun ssl (.start dir withKeys files) (before++[.flush found]))) ∧
    (∀ (lib : Lib) pem cfg ta p turns t rest start dir withKeys files,
      Worked lib pem cfg ta t (afterTurns lib pem cfg ta turns start) →
      let before := preparedCalls lib cfg ta p++loopCalls lib pem cfg ta turns start++
        notedCalls lib cfg ta t (afterTurns lib pem cfg ta turns start)
      let s := (Dumping.start dir withKeys files).run lib.ssl before
      s.dump.enabled=true → (s.dump.flush s.files t.flush).1=true →
      ((s.dump.stamped t.flush.time).Described lib.ssl dir
          ((Dumping.start dir withKeys files).run lib.ssl
            (provisionerCalls lib pem cfg ta p (turns++t::rest) start)).files ↔
        FitRun lib.ssl (.start dir withKeys files) (before++[.flush t.flush]))) ∧
    (∀ dir withKeys files calls time,(∀ c∈calls,c.PlainNames) →
      let d := ((Dumping.start dir withKeys files).run ssl calls).dump.stamped time
      ∀ v,Json.parse d.manifest=some v → v=manifestValue d.metas d.entries) ∧
    ∀ dir files calls,(Dumping.start dir false files).run ssl calls=
      (Dumping.start dir false files).run ssl (calls.filter fun c => !c.isKey) := by
  refine ⟨?_,?_,?_,?_⟩
  · intro dir withKeys files before after found s henabled hworked
    exact run_described_iff dir withKeys files before after found henabled hworked
  · intro lib pem cfg ta p turns t rest start dir withKeys files ht before s henabled hworked
    rw [provisionerCalls_split p turns t rest ht]
    exact run_described_iff dir withKeys files before _ t.flush henabled hworked
  · intro dir withKeys files calls time hplain d v hv
    have hentries : ∀ e∈((Dumping.start dir withKeys files).run ssl calls).dump.entries,
        PlainEntry e := by
      apply run_plain_entries _ hplain
      intro e he
      cases he
    have hread := parse_manifestText d.metas hentries
    have heq := hv.symm.trans hread
    split at heq
    · exact Option.some.inj heq
    · cases heq
  · intro dir files calls
    exact run_withoutKeys rfl calls

end Provisioning

namespace Sample

open Framework PkiClient Provisioning

/-- A station whose first rotation gets its ticket but cannot write it, and that tries again. -/
def retryLib : Lib := fleetStationLib [(22,1200000000),(23,1200000060)]

def keptWhole : Fill := .filled 65536 true

/-- A `flush` at noon that loses nothing. -/
def noonFlush : FlushSetting := ⟨noon,fun _ => keptWhole,keptWhole⟩

def unwritten : PairWrites where
  cert := ⟨.notOpened,false,false⟩
  key := ⟨.notOpened,false,false⟩

def fullTurn : DumpedTurn := ⟨⟨0,0,answeredRotation 22 1200000000,unwritten⟩,[],noonFlush⟩

def firstTurn : DumpedTurn := ⟨⟨0,0,answeredRotation 22 1200000000,wholeWrites⟩,[],noonFlush⟩

def secondTurn : DumpedTurn := ⟨⟨0,0,answeredRotation 23 1200000060,wholeWrites⟩,[],noonFlush⟩

def preparation : Preparation := ⟨bytesOfString "0.1.0",enrolment stationEc,[]⟩

/-- The dump before its `flush`, after these turns and then one that works. -/
def notedDump (turns : List DumpedTurn) (t : DumpedTurn) : Dumping :=
  (Dumping.start "dump" false .empty).run retryLib.ssl
    (preparedCalls retryLib longConfig fleetAnchors preparation++
      loopCalls retryLib keyPem longConfig fleetAnchors turns loopBegin++
      notedCalls retryLib longConfig fleetAnchors t
        (afterTurns retryLib keyPem longConfig fleetAnchors turns loopBegin))

theorem wholeWrites_of_length {n i : Nat} {l : List (Entry × Bytes)}
    (h : ∀ p∈l,p.2.length≤n) : WholeWrites (fun _ => .filled n true) i l := by
  induction l generalizing i with
  | nil => exact .nil
  | cons p l ih =>
    obtain ⟨hp,hl⟩ := List.forall_mem_cons.mp h
    exact .cons (.inl fun _ => hp) (ih hl)

/-- The dump after a run with these turns. -/
def dumpedRun (turns : List DumpedTurn) : Dumping :=
  (Dumping.start "dump" false .empty).run retryLib.ssl
    (provisionerCalls retryLib keyPem longConfig fleetAnchors preparation turns loopBegin)

/-- What is noted does not depend on how the `flush` goes. -/
theorem notedDump_flush (turns : List DumpedTurn) (t : DumpedTurn) (f : FlushSetting) :
    notedDump turns {t with flush := f}=notedDump turns t := rfl

/-- The first turn, whose `flush` keeps the whole manifest. -/
def wholeTurn : DumpedTurn :=
  {firstTurn with flush := ⟨noon,fun _ => keptWhole,
    .filled ((notedDump [] firstTurn).dump.stamped noon).manifest.length true⟩}

/-- Of a run that is not retried, the manifest describes the files. -/
theorem first_dump_described :
    ((notedDump [] wholeTurn).dump.stamped noon).Described retryLib.ssl "dump"
      (dumpedRun [wholeTurn]).files := by
  obtain ⟨-,hprovisioner,-⟩ := wireDump_described_iff retryLib.ssl
  have hcheck : Worked retryLib keyPem longConfig fleetAnchors wholeTurn
        (afterTurns retryLib keyPem longConfig fleetAnchors [] loopBegin) ∧
      (notedDump [] wholeTurn).dump.enabled=true ∧
      ((notedDump [] wholeTurn).dump.flush (notedDump [] wholeTurn).files wholeTurn.flush).1=true ∧
      (notedDump [] wholeTurn).dump.blobs.all (fun b => decide (b.length≤65536))=true := by
    decide +kernel
  obtain ⟨hturn,henabled,hworked,hlen⟩ := hcheck
  have hblobs : WholeWrites wholeTurn.flush.blob 0
      ((notedDump [] wholeTurn).dump.entries.zip (notedDump [] wholeTurn).dump.blobs) := by
    apply wholeWrites_of_length
    intro p hp
    exact of_decide_eq_true (List.all_eq_true.mp hlen p.2 (List.of_mem_zip hp).2)
  have hmanifest : NothingLost ((notedDump [] wholeTurn).dump.stamped noon).manifest.length
      wholeTurn.flush.manifest := by
    rw [wholeTurn,notedDump_flush]
    exact fun _ => Nat.le_refl _
  have hnone : loopCalls retryLib keyPem longConfig fleetAnchors [] loopBegin=[] := rfl
  unfold notedDump at henabled hworked hblobs hmanifest ⊢
  have hfits := first_noted_fits preparation wholeTurn "dump" false .empty hnone henabled hblobs
    hmanifest
  have hiff := hprovisioner retryLib keyPem longConfig fleetAnchors preparation [] wholeTurn []
    loopBegin "dump" false .empty hturn henabled hworked
  rw [List.nil_append] at hiff
  exact hiff.mpr hfits

/-- The request of the first rotation is listed beside that of the second, under the same name
but with another hash, and the identifier of a ticket is noted twice. -/
theorem retried_dump_misdescribed :
    ¬Worked retryLib keyPem longConfig fleetAnchors fullTurn loopBegin ∧
    Worked retryLib keyPem longConfig fleetAnchors secondTurn
      (afterTurns retryLib keyPem longConfig fleetAnchors [fullTurn] loopBegin) ∧
    let s := notedDump [fullTurn] secondTurn
    s.dump.enabled=true ∧ (s.dump.flush s.files noonFlush).1=true ∧
    ¬(s.dump.stamped noon).topLevel.Nodup ∧
    (∃ e∈s.dump.entries,∃ f∈s.dump.entries,e.file=f.file ∧ e.sha256≠f.sha256) ∧
    ¬(s.dump.stamped noon).Described retryLib.ssl "dump" (dumpedRun [fullTurn,secondTurn]).files := by
  have hcheck : ¬Worked retryLib keyPem longConfig fleetAnchors fullTurn loopBegin ∧
      Worked retryLib keyPem longConfig fleetAnchors secondTurn
        (afterTurns retryLib keyPem longConfig fleetAnchors [fullTurn] loopBegin) ∧
      let s := notedDump [fullTurn] secondTurn
      s.dump.enabled=true ∧ (s.dump.flush s.files noonFlush).1=true ∧
      ¬(s.dump.stamped noon).topLevel.Nodup ∧
      (s.dump.entries[6]?.any fun e => s.dump.entries[9]?.any fun f =>
        decide (e.file=f.file ∧ e.sha256≠f.sha256))=true := by
    decide +kernel
  obtain ⟨hfailed,hturn,henabled,hworked,hkeys,hsame⟩ := hcheck
  refine ⟨hfailed,hturn,henabled,hworked,hkeys,?_,?_⟩
  · obtain ⟨e,he,hrest⟩ := (Option.any_eq_true _ _).mp hsame
    obtain ⟨f,hf,heq⟩ := (Option.any_eq_true _ _).mp hrest
    exact ⟨e,List.mem_of_getElem? he,f,List.mem_of_getElem? hf,of_decide_eq_true heq⟩
  · intro h
    exact hkeys h.distinct

end Sample

end V2xPki
