import V2xPki.Cli.Args
import V2xPki.Cli.Output
import V2xPki.Client.Operations
import V2xPki.KeyStore.PlaintextFileKeyStore

namespace V2xPki

open Framework

/-- `to_string` -/
def Error.text : Error → String
  | .invalidArgument => "invalid argument"
  | .network => "network"
  | .httpStatus => "http status"
  | .decode => "decode"
  | .encode => "encode"
  | .crypto => "crypto"
  | .signatureInvalid => "signature invalid"
  | .notFound => "not found"
  | .keyStore => "keystore"
  | .protocol => "protocol"

namespace Cli

open PkiClient PlaintextFileKeyStore

/-- What a command finds around it: any servers, clock, random source and memory, free to depend
on what was asked before; the names in the directory of trust anchors, in the order in which the
iterator shows them; whether a directory can be made, and how each write of a file goes. -/
structure Outside where
  answer : List Event → HttpRequest → Answer
  unixNow : List Event → Int
  ecEntropy : List Event → EcEntropy
  atEntropy : List Event → AtEntropy
  scalar : List Event → Option Nat
  mem : List Event → Nat → HashedId8
  listed : List Event → List String
  directory : String → Bool
  fill : String → Fill

/-- An early return of 1 with the message that goes before it, or an exception that is not
caught. -/
inductive Ending where
  | failed (message : String)
  | uncaught
deriving DecidableEq

/-- The files, what was asked of the servers, newest first, and what was printed. Files are told
apart by the text of their paths: a run in which one file goes by two spellings (`a//b`, `a/./b`, a
link) is not one of these. -/
structure Session where
  files : Files UInt8
  events : List Event
  printed : Bytes

abbrev CommandM := Op Session Ending

/-- `std::filesystem::path::operator/` for a name without a slash. -/
def joinPath (dir name : String) : String :=
  if dir="" ∨ dir.toList.getLast?=some '/' then dir++name else dir++"/"++name

/-- `path::stem` and `path::extension` of a file name. -/
def splitName (name : String) : String × String :=
  match name.toList.reverse.dropWhile (· ≠ '.') with
  | [] => (name,"")
  | _::before =>
      if before=[] ∨ name=".." then (name,"")
      else (String.ofList before.reverse,
        String.ofList ('.'::(name.toList.reverse.takeWhile (· ≠ '.')).reverse))

/-- The files of one directory under their names in it. -/
def inDirectory (files : Files UInt8) (dir : String) : Files UInt8 :=
  fun name => files (joinPath dir name)

def dirEntry (files : Files UInt8) (dir name : String) : DirEntry where
  isRegularFile := (files (joinPath dir name)).isSome
  extension := (splitName name).2
  stem := (splitName name).1
  content := files (joinPath dir name)

section
variable (lib : Lib) (pem : KeyPem) (out : Outside)

def require (c : Bool) (message : String) : CommandM Unit := Op.ensure c (.failed message)

def createDirectories (dir : String) : CommandM Unit := Op.ensure (out.directory dir) .uncaught

def print (text : Bytes) : CommandM PUnit := modify fun s => {s with printed := s.printed++text}

def httpGet (url : String) : CommandM Answer := do
  let s ← get
  modify fun s => {s with events := .http (.get url)::s.events}
  pure (out.answer s.events (.get url))

/-- The file is opened in place; the result says whether the stream is still good. -/
def writeFile (path : String) (data : Bytes) : CommandM Bool := do
  let s ← get
  modify fun s => {s with files := (s.files.overwrite path data (out.fill path)).2}
  pure (s.files.overwrite path data (out.fill path)).1

def readFile (path : String) : CommandM Bytes := do
  let s ← get
  pure ((s.files path).getD [])

/-- The body of an answer with status 200, or else one of two messages. -/
def bodyOr (noResponse : Error → String) (badStatus : Int → String) (a : Answer) :
    Except Ending Bytes :=
  match a.response with
  | .error e => .error (.failed (noResponse e))
  | .ok resp =>
      if resp.statusCode≠200 then .error (.failed (badStatus resp.statusCode)) else .ok resp.body

def fetchBody (what : String) : Answer → Except Ending Bytes :=
  bodyOr (fun e => "error: failed to fetch "++what++": "++e.text)
    (fun code => "error: failed to fetch "++what++" (HTTP "++toString code++")")

/-- Here a missing answer counts as status 0. -/
def anchorBody (what : String) : Answer → Except Ending Bytes :=
  bodyOr (fun _ => "error: failed to fetch "++what++" (HTTP 0)")
    (fun code => "error: failed to fetch "++what++" (HTTP "++toString code++")")

/-- A body is only written if there is one. -/
def saveBody (path : String) (a : Answer) : CommandM Unit := match okBody a.response with
  | .error _ => pure ()
  | .ok body => do
    let _ ← writeFile out path body
    pure ()

/-- The constructor of `PkiClient`. -/
def newClient (cfg : PkiClientConfig) (keystoreDir : String) : CommandM ClientState := do
  createDirectories out keystoreDir
  let s ← get
  pure (.initial lib (out.mem s.events) cfg
    ((out.listed s.events).map (dirEntry s.files cfg.trustDir)))

/-- The world of a client whose key store is a directory of these files. -/
def clientWorld (files : Files UInt8) (keystoreDir : String) : World where
  setting log :=
    ⟨out.unixNow log,out.ecEntropy log,out.atEntropy log,
      loadKeypair pem (inDirectory files keystoreDir)⟩
  answer := out.answer

def callClient {α : Type} (client : ClientState) (keystoreDir : String) (m : World → ClientM α) :
    CommandM (Except Error α) := do
  let s ← get
  let r := Op.exec (m (clientWorld pem out s.files keystoreDir)) {client with events := s.events}
  modify fun s => {s with events := r.2.events}
  pure r.1

def loadKey (keystoreDir : String) (handle : KeyHandle) : CommandM (Option KeyPair) := do
  let s ← get
  pure (loadKeypair pem (inDirectory s.files keystoreDir) handle)

/-- `store_keypair`; the callers here do not look at what it returns. -/
def storeKey (keystoreDir : String) (handle : KeyHandle) (kp : KeyPair) : CommandM Unit :=
  match buildPkey pem kp with
  | none => pure ()
  | some pkey => do
    let _ ← writeFile out (joinPath keystoreDir (pemName handle)) (pem.write pkey)
    pure ()

/-- The key under the handle; one is made and stored if none can be loaded. -/
def canonicalKeypair (keystoreDir : String) (handle : KeyHandle) (curve : Curve) :
    CommandM KeyPair := do
  let existing ← loadKey pem keystoreDir handle
  match existing with
  | some kp => pure kp
  | none => do
    let s ← get
    let kp ← Op.need (Crypto.generateKeypair lib.ssl curve (out.scalar s.events))
      (.failed "error: keygen failed")
    storeKey pem out keystoreDir handle kp
    pure kp

variable (a : Args)

/-- What is printed for a program to read; the text for a person is left out. -/
def report (text : Bytes) : CommandM PUnit := if a.json then print text else pure ⟨⟩

/-- The common body of `cmd_healthz` and `cmd_version`. -/
def cmdProbe (path : String) : CommandM PUnit := do
  require (!a.pkiUrl.isEmpty) "error: --pki-url required"
  let resp ← httpGet out (a.pkiUrl++path)
  let body ← Op.lift (bodyOr (fun e => "error: request failed: "++e.text)
    (fun code => "error: HTTP "++toString code) resp)
  print (body++bytesOfString "\n")

def cmdHealthz : CommandM PUnit := cmdProbe out a "/healthz"

def cmdVersion : CommandM PUnit := cmdProbe out a "/version"

structure FetchItem where
  endpoint : String
  filename : String
  label : String
deriving DecidableEq

def fetchItems : List FetchItem :=
  [⟨"/trustanchor","rca.cert","RCA"⟩,⟨"/tlm","tlm.cert","TLM"⟩,⟨"/ma","ma.cert","MA"⟩]

/-- One turn of the loop over the items; it counts the errors. -/
def fetchItem (errors : Nat) (item : FetchItem) : CommandM Nat := do
  let resp ← httpGet out (a.pkiUrl++item.endpoint)
  match okBody resp.response with
  | .error _ => pure (errors+1)
  | .ok body => do
    let path := joinPath a.outDir item.filename
    let written ← writeFile out path body
    if !written then pure (errors+1)
    else do
      let summary := parseCertSummary lib body
      report a (trustItemText item.label path body.length summary.hid8)
      pure errors

def cmdFetchTrust : CommandM Unit := do
  require (!(a.pkiUrl.isEmpty || a.outDir.isEmpty)) "error: --pki-url and --out-dir required"
  createDirectories out a.outDir
  let errors ← fetchItems.foldlM (fetchItem lib out a) 0
  require (errors==0) ""

def cmdLookupCert : CommandM PUnit := do
  require (!(a.pkiUrl.isEmpty || a.hid8.isEmpty)) "error: --pki-url and --hid8 required"
  let resp ← httpGet out (a.pkiUrl++"/lookup/"++a.hid8)
  let body ← Op.lift (bodyOr (fun e => "error: lookup failed: "++e.text)
    (fun code => "error: lookup failed (HTTP "++toString code++")") resp)
  let summary := parseCertSummary lib body
  require summary.valid "error: failed to parse cert COER"
  report a (summaryText summary)

def cmdVerifyHid8 : CommandM PUnit := do
  require (!a.certPath.isEmpty) "error: --cert-path required"
  let data ← readFile a.certPath
  require (!data.isEmpty) ("error: cannot read "++a.certPath)
  let summary := parseCertSummary lib data
  report a (verifyText a.certPath data.length (computeHid8 lib data) summary.valid)

/-- The TLM certificate from the file that is named, if one is. -/
def readTlm : CommandM (Option CertInfo) :=
  if a.tlmCert.isEmpty then pure none
  else do
    let tlmBytes ← readFile a.tlmCert
    require (!tlmBytes.isEmpty) ("error: cannot read TLM cert from "++a.tlmCert)
    let s ← get
    let tlm := Cert.fromCoer lib (out.mem s.events 0) tlmBytes
    require (!tlm.certBytes.empty) ("error: TLM cert at "++a.tlmCert++" does not decode")
    pure (some tlm)

/-- Without a TLM certificate there is no key to verify with. -/
def decodedEctl (tlm : Option CertInfo) (resp : Answer) (body : Bytes) : Except Error TrustTopology :=
  match tlm with
  | some tlm => TrustList.decodeEctl lib resp.mem resp.nowTai body tlm.publicKey.toVector
      tlm.certBytes.toVector
  | none => TrustList.decodeEctl lib resp.mem resp.nowTai body [] []

def ectlUrl : String :=
  if a.tlmHid8.isEmpty then a.pkiUrl++"/getectl" else a.pkiUrl++"/getectl/"++a.tlmHid8

def cmdFetchEctl : CommandM PUnit := do
  require (!a.pkiUrl.isEmpty) "error: --pki-url required"
  let resp ← httpGet out (ectlUrl a)
  let body ← Op.lift (fetchBody "ECTL" resp)
  let tlm ← readTlm lib out a
  let topo ← Op.lift ((decodedEctl lib tlm resp body).mapError fun e =>
    .failed ("error: failed to decode ECTL: "++e.text))
  let verified := tlm.isSome && topo.ectlSignatureVerified
  require (!(tlm.isSome && !verified))
    ("error: ECTL signature verification failed against "++a.tlmCert)
  report a (ectlText body.length verified topo)
  if a.out.isEmpty then pure ⟨⟩
  else do
    let _ ← writeFile out a.out body
    pure ⟨⟩

def cmdDiscover : CommandM PUnit := do
  require (!a.pkiUrl.isEmpty) "error: --pki-url required"
  let ksDir := if a.keystoreDir.isEmpty then "/tmp/pki-discover" else a.keystoreDir
  createDirectories out ksDir
  let client ← newClient lib out ⟨"","",a.pkiUrl,"",a.tlmHid8⟩ ksDir
  let topo ← callClient pem out client ksDir (discoverTrust lib)
  let topo ← Op.lift (topo.mapError fun e => .failed ("error: trust discovery failed: "++e.text))
  report a (topologyText topo)

def keyId : String := if a.canonicalKey.isEmpty then "canonical" else a.canonicalKey

def trustPath : String := joinPath a.keystoreDir "trust"

def ecPath : String := a.keystoreDir++"/ec.cert"

def enrolConfig : PkiClientConfig where
  eaUrl := if a.eaUrl.isEmpty then a.pkiUrl++"/ec-request" else a.eaUrl
  aaUrl := ""
  tlmUrl := a.pkiUrl
  trustDir := trustPath a
  tlmHid8 := ""

def enrolId : String := if a.canonicalIdSet then a.canonicalId else "v2xpki-its-s"

def enrolRecord (ea : Bytes) (kp : KeyPair) : EcRecord where
  canonicalPublicKey := kp.publicKey
  eaHashedId8 := computeHid8 lib ea
  requestedPsids := [kPsidScr]
  validityPeriodDays := 30
  curve := parseCurve a.curveStr
  itsId := enrolId a

def cmdEnrol : CommandM PUnit := do
  require (!(a.pkiUrl.isEmpty || a.keystoreDir.isEmpty))
    "error: --pki-url and --keystore-dir required"
  createDirectories out a.keystoreDir
  createDirectories out (trustPath a)
  let eaResp ← httpGet out (a.pkiUrl++"/cert/ea")
  let ea ← Op.lift (fetchBody "EA cert" eaResp)
  let _ ← writeFile out (trustPath a++"/ea.cert") ea
  let rcaResp ← httpGet out (a.pkiUrl++"/trustanchor")
  let rca ← Op.lift (anchorBody "trust anchor" rcaResp)
  let _ ← writeFile out (trustPath a++"/rca.cert") rca
  let client ← newClient lib out (enrolConfig a) a.keystoreDir
  let handle ← Op.need (KeyHandle.ofString (keyId a))
    (.failed "error: --canonical-key must be 1-64 chars of [A-Za-z0-9_-]")
  let kp ← canonicalKeypair lib pem out a.keystoreDir handle (parseCurve a.curveStr)
  require (!((enrolId a).isEmpty || decide (64<(bytesOfString (enrolId a)).length)))
    "error: canonical-id must be 1-64 bytes"
  let _ ← writeFile out (joinPath a.keystoreDir "canonical.id") (bytesOfString (enrolId a))
  let result ← callClient pem out client a.keystoreDir
    fun w => requestEnrolmentCredential lib w handle (enrolRecord lib a ea kp)
  let ci ← Op.lift (result.mapError fun e => .failed ("error: enrolment request failed: "++e.text))
  let _ ← writeFile out (ecPath a) ci.certBytes.toVector
  report a (credentialText "ec_cert" (ecPath a) (computeHid8 lib ci.certBytes.toVector))

/-- The canonical identifier, from the command line or from the file that an enrolment left. -/
def readCanonicalId : CommandM Bytes := do
  let s ← get
  let canonicalId := if a.canonicalIdSet then bytesOfString a.canonicalId
    else (s.files (joinPath a.keystoreDir "canonical.id")).getD []
  let canonicalId := if canonicalId.isEmpty then bytesOfString "v2xpki-its-s" else canonicalId
  require (!decide (64<canonicalId.length)) "error: canonical-id must be 1-64 bytes"
  pure canonicalId

def atConfig : PkiClientConfig where
  eaUrl := ""
  aaUrl := if a.aaUrl.isEmpty then a.pkiUrl++"/at-request" else a.aaUrl
  tlmUrl := a.pkiUrl
  trustDir := trustPath a
  tlmHid8 := ""

def ecCertPath : String := if a.ecCert.isEmpty then ecPath a else a.ecCert

def atPath : String := (if a.outDir.isEmpty then a.keystoreDir else a.outDir)++"/at.cert"

/-- The enrolment credential as a ticket request needs it. -/
def ecCertInfo (u : HashedId8) (bytes : Bytes) (stored : StaticBytes kMaxCoerMessageLen)
    (kp : KeyPair) : CertInfo :=
  {CertInfo.zero with
    certBytes := stored
    curve := (Cert.fromCoer lib u bytes).curve
    hashedId8 := computeHid8 lib bytes
    publicKey := kp.publicKey}

def atRecord (aa ea : Bytes) (curve : Curve) (atKp : KeyPair) : AtRecord where
  atPublicKey := atKp.publicKey
  aaHashedId8 := computeHid8 lib aa
  eaHashedId8 := computeHid8 lib ea
  requestedPsids := [36]
  validityPeriodHours := 24
  curve := curve

/-- What `cmd_request_at` has in hand when it has made the key of the ticket: the three downloads,
the enrolment credential as it is stored, the enrolment key, the client, and the new key. -/
structure TicketInputs where
  aa : Bytes
  ea : Bytes
  rca : Bytes
  ecCert : Bytes
  stored : StaticBytes kMaxCoerMessageLen
  handle : KeyHandle
  ecKey : KeyPair
  client : ClientState
  ecCi : CertInfo
  made : KeyPair

/-- `cmd_request_at` as far as that. -/
def prepareTicket : CommandM TicketInputs := do
  require (!(a.pkiUrl.isEmpty || a.keystoreDir.isEmpty))
    "error: --pki-url and --keystore-dir required"
  let aaResp ← httpGet out (a.pkiUrl++"/cert/aa")
  let eaResp ← httpGet out (a.pkiUrl++"/cert/ea")
  let aa ← Op.lift (fetchBody "AA cert" aaResp)
  createDirectories out (trustPath a)
  let _ ← writeFile out (trustPath a++"/aa.cert") aa
  let rcaResp ← httpGet out (a.pkiUrl++"/trustanchor")
  let rca ← Op.lift (anchorBody "trust anchor" rcaResp)
  let _ ← writeFile out (trustPath a++"/rca.cert") rca
  saveBody out (trustPath a++"/ea.cert") eaResp
  let _ ← readCanonicalId a
  let ecCertBytes ← readFile (ecCertPath a)
  require (!ecCertBytes.isEmpty) ("error: cannot read EC cert from "++ecCertPath a)
  let client ← newClient lib out (atConfig a) a.keystoreDir
  let handle ← Op.need (KeyHandle.ofString (keyId a))
    (.failed "error: --canonical-key must be 1-64 chars of [A-Za-z0-9_-]")
  let existing ← loadKey pem a.keystoreDir handle
  let kp ← Op.need existing (.failed ("error: cannot load EC key '"++keyId a++"'"))
  let ecCertSb ← Op.need (StaticBytes.fromBytes ecCertBytes : Option (StaticBytes kMaxCoerMessageLen))
    (.failed ("error: EC cert too large ("++toString ecCertBytes.length++"B)"))
  let s ← get
  let ecCi := ecCertInfo lib (out.mem s.events 0) ecCertBytes ecCertSb kp
  let ea ← Op.lift (anchorBody "EA cert" eaResp)
  let atKp ← Op.need (Crypto.generateKeypair lib.ssl ecCi.curve (out.scalar s.events))
    (.failed "error: AT keygen failed")
  pure ⟨aa,ea,rca,ecCertBytes,ecCertSb,handle,kp,client,ecCi,atKp⟩

def cmdRequestAt : CommandM PUnit := do
  let e ← prepareTicket lib pem out a
  let atHandle ← Op.need (KeyHandle.ofString (keyId a++"-at"))
    (.failed "error: --canonical-key too long to derive an AT key handle")
  storeKey pem out a.keystoreDir atHandle e.made
  let result ← callClient pem out e.client a.keystoreDir fun w =>
    requestAuthorizationTicket lib w e.handle e.ecCi atHandle
      (atRecord lib e.aa e.ea e.ecCi.curve e.made)
  let ci ← Op.lift (result.mapError fun e => .failed ("error: AT request failed: "++e.text))
  let _ ← writeFile out (atPath a) ci.certBytes.toVector
  report a (credentialText "at_cert" (atPath a) (computeHid8 lib ci.certBytes.toVector))

/-- `kVersion` is made by the build. -/
def cmdInfo (version : Bytes) : CommandM PUnit := report a (infoText version)

end

/-- `kCommands` -/
def commands (lib : Lib) (pem : KeyPem) (out : Outside) (version : Bytes) :
    List (String × (Args → CommandM PUnit)) :=
  [("healthz",cmdHealthz out),("version",cmdVersion out),("info",fun a => cmdInfo a version),
    ("discover",cmdDiscover lib pem out),("fetch-trust",cmdFetchTrust lib out),
    ("lookup-cert",cmdLookupCert lib out),("fetch-ectl",cmdFetchEctl lib out),
    ("verify-hid8",cmdVerifyHid8 lib),("enrol",cmdEnrol lib pem out),
    ("request-at",cmdRequestAt lib pem out)]

/-- Without a command the usage is printed, and after the message about an unknown one. -/
def main (lib : Lib) (pem : KeyPem) (out : Outside) (version : Bytes) (argv : List String) :
    CommandM PUnit :=
  if argv.length<2 then Op.lift (.error (.failed ""))
  else
    let args := parseArgs argv
    match (commands lib pem out version).find? (·.1==args.command) with
    | some cmd => cmd.2 args
    | none => Op.lift (.error (.failed ("error: unknown command '"++args.command++"'")))

/-- The exit status; none when the program is terminated by an exception. -/
def exitStatus : Except Ending PUnit → Option Nat
  | .ok _ => some 0
  | .error (.failed _) => some 1
  | .error .uncaught => none

end Cli

end V2xPki
