import V2xPki.Framework.Stateful
import V2xPki.Request.AtRequest
import V2xPki.Request.Response
import V2xPki.Trust.TrustList

namespace V2xPki

open Framework

structure PkiClientConfig where
  eaUrl : String
  aaUrl : String
  tlmUrl : String
  trustDir : String
  tlmHid8 : String
deriving DecidableEq

/-- Restricted to the characters a backend may use in a path component. -/
structure KeyHandle where
  id : String
  nonempty : id≠""
  chars : id.toList.all fun c =>
    ('A' ≤ c && c ≤ 'Z') || ('a' ≤ c && c ≤ 'z') || ('0' ≤ c && c ≤ '9') ||
      c == '_' || c == '-'
  short : id.length≤64
deriving DecidableEq

inductive HttpRequest where
  | get (url : String)
  | post (url : String) (body : Bytes)
deriving DecidableEq

structure HttpResponse where
  statusCode : Int
  body : Bytes
deriving DecidableEq

/-- What the world sees of a client, newest first in the log: a call that reads the key
store and the random source, or an HTTP request. -/
inductive Event where
  | enter
  | http (request : HttpRequest)
deriving DecidableEq

/-- What a request finds on entry: the clock, the random source and the key store. -/
structure Setting where
  unixNow : Int
  ecEntropy : EcEntropy
  atEntropy : AtEntropy
  loadKeypair : KeyHandle → Option KeyPair

/-- What an HTTP request leads to: the response, the clock when it is processed, and what
the `i`-th `CertInfo` made from it finds in its memory. -/
structure Answer where
  response : Except Error HttpResponse
  unixNow : Int
  mem : Nat → HashedId8

def Answer.nowTai (a : Answer) : Int := unixToTaiSeconds a.unixNow

/-- The outside world: any server, clock, key store and memory, free to depend on
everything that happened before. -/
structure World where
  setting : List Event → Setting
  answer : List Event → HttpRequest → Answer

structure ClientState where
  config : PkiClientConfig
  trust : TrustChain
  revocation : RevocationStore
  topology : Option TrustTopology
  events : List Event

namespace ClientState

def after (s : ClientState) (e : Event) : ClientState := {s with events := e::s.events}

def store (s : ClientState) (ci : CertInfo) : ClientState :=
  {s with trust := s.trust.addCert ci}

def storeAll (s : ClientState) (cs : List CertInfo) : ClientState :=
  {s with trust := cs.foldl TrustChain.addCert s.trust}

/-- `PkiClient::Impl`: the anchors of `trust_dir`, nothing else. -/
def initial (lib : Lib) (mem : Nat → HashedId8) (cfg : PkiClientConfig)
    (dir : List DirEntry) : ClientState where
  config := cfg
  trust := if cfg.trustDir.isEmpty then .empty
    else TrustChain.loadFromDirectory lib mem .empty dir
  revocation := .empty
  topology := none
  events := []

end ClientState

namespace PkiClient

abbrev ClientM := Op ClientState Error

variable (lib : Lib) (w : World)

def enter : ClientM Setting := do
  let s ← get
  modify (·.after .enter)
  pure (w.setting s.events)

def ask (r : HttpRequest) : ClientM Answer := do
  let s ← get
  modify (·.after (.http r))
  pure (w.answer s.events r)

def addCert (ci : CertInfo) : ClientM PUnit := modify (·.store ci)

/-- A transport error, or the status check every caller makes. -/
def okBody (r : Except Error HttpResponse) : Except Error Bytes :=
  match r with
  | .error e => .error e
  | .ok resp => if resp.statusCode≠200 then .error .httpStatus else .ok resp.body

/-- A response body parsed by `cert::from_coer`; no check that it is the certificate
that was asked for. -/
def certAnswer (label : String) (a : Answer) : Except Error CertInfo :=
  match okBody a.response with
  | .error e => .error e
  | .ok body =>
    let ci := Cert.fromCoer lib (a.mem 0) body
    if ci.certBytes.empty then .error .decode else .ok {ci with label := label}

/-- The common body of the three certificate fetches. -/
def fetchCert (path label : String) : ClientM CertInfo := do
  let s ← get
  let a ← ask w (.get (s.config.tlmUrl++path))
  let ci ← Op.lift (certAnswer lib label a)
  addCert ci
  pure ci

def fetchTrustAnchor : ClientM CertInfo := fetchCert lib w "/trustanchor" "trustanchor"

def fetchCertByName (name : String) : ClientM CertInfo :=
  fetchCert lib w ("/cert/"++name) name

def fetchCertByHashedId8 (hid8 : HashedId8) : ClientM CertInfo :=
  fetchCert lib w ("/lookup/"++hid8ToHex hid8) ("lookup_"++hid8ToHex hid8)

/-- The first DC that serves the identifier, without one trailing slash. -/
def findDcUrl (dcs : List DcInfo) (hid8 : HashedId8) (fallbackUrl : String) : String :=
  match dcs.find? (fun dc => dc.serves.contains hid8) with
  | none => fallbackUrl
  | some dc => if dc.url.toList.getLast?=some '/' then String.ofList dc.url.toList.dropLast
    else dc.url

/-- The checks both requests make on a decoded response before they store its
certificate: the code, the chain, its anchors. -/
def certFromResponse {Code : Type} [DecidableEq Code] (ok : Code) (label : String)
    (trust : TrustChain) (revocation : RevocationStore) (nowTai : Int) (r : Response Code) :
    Except Error CertInfo :=
  if r.responseCode≠ok then .error .protocol
  else match r.certificate with
    | none => .error .protocol
    | some cert =>
      let ci := {cert with label := label}
      if !trust.issuerChainPresent ci then .error .notFound
      else if !trust.validateChain lib (some revocation) ci nowTai then .error .signatureInvalid
      else .ok ci

def requestEnrolmentCredential (canonical : KeyHandle) (rec : EcRecord) :
    ClientM CertInfo := do
  Op.ensure (validateEcRecord rec).isOk .invalidArgument
  let s ← get
  let setting ← enter w
  let kp ← Op.need (setting.loadKeypair canonical) .keyStore
  let ea ← Op.need (s.trust.findByHashedId8 rec.eaHashedId8) .notFound
  let desc := assembleEcRequest rec setting.unixNow
  let req ← Op.lift (encodeEcRequest lib desc ea kp.privateKey.toVector setting.ecEntropy)
  let a ← ask w (.post s.config.eaUrl req.encoded.toVector)
  let body ← Op.lift (okBody a.response)
  let resp ← Op.lift (decodeEcResponse lib (a.mem 0) body kp.privateKey.toVector
    req.requestAesKey.toVector req.encoded.toVector ea)
  let ci ← Op.lift (certFromResponse lib .ok "ec" s.trust s.revocation a.nowTai resp)
  addCert ci
  pure ci

def requestAuthorizationTicket (ecHandle : KeyHandle) (ecCert : CertInfo)
    (atHandle : KeyHandle) (rec : AtRecord) : ClientM CertInfo := do
  Op.ensure (validateAtRecord rec).isOk .invalidArgument
  let s ← get
  let setting ← enter w
  let kp ← Op.need (setting.loadKeypair ecHandle) .keyStore
  let aa ← Op.need (s.trust.findByHashedId8 rec.aaHashedId8) .notFound
  let ea ← Op.need (s.trust.findByHashedId8 rec.eaHashedId8) .notFound
  let atKp ← Op.need (setting.loadKeypair atHandle) .keyStore
  let desc := {assembleAtRequest lib rec setting.unixNow setting.atEntropy.hmacScalar with
    verificationKey := atKp.publicKey}
  let req ← Op.lift (encodeAtRequest lib desc aa ea ecCert kp.privateKey.toVector
    atKp.privateKey.toVector setting.atEntropy)
  let a ← ask w (.post s.config.aaUrl req.encoded.toVector)
  let body ← Op.lift (okBody a.response)
  let resp ← Op.lift (decodeAtResponse lib (a.mem 0) body atKp.privateKey.toVector
    req.requestAesKey.toVector req.encoded.toVector aa)
  let ci ← Op.lift (certFromResponse lib .ok "at" s.trust s.revocation a.nowTai resp)
  addCert ci
  pure ci

/-- The CRL of one root CA; the signer is looked up after the download. -/
def fetchCrl (rcaHid8 : HashedId8) : ClientM CrlContents := do
  let s ← get
  let dcUrl := match s.topology with
    | some t => findDcUrl t.dcs rcaHid8 s.config.tlmUrl
    | none => s.config.tlmUrl
  let a ← ask w (.get (dcUrl++"/getcrl/"++hid8HexUpper rcaHid8))
  let body ← Op.lift (okBody a.response)
  let rca ← Op.need (s.trust.findByHashedId8 rcaHid8) .notFound
  let crl ← Op.lift (decodeCrl lib body rca.publicKey.toVector rca.certBytes.toVector)
  let revocation ← Op.need (s.revocation.apply crl a.nowTai) .protocol
  modify fun s => {s with revocation := revocation}
  pure crl

/-- The path under which the TLM certificate is asked for: the pinned identifier, or the
testbed shortcut when there is none. -/
def tlmPath (pin : String) : String :=
  if pin.isEmpty then "/tlm" else "/gettlmcertificate/"++pin

/-- The identifier later paths are built from: the configured one whenever there is one,
whatever certificate came back for it. -/
def tlmHex (pin : String) (tlm : CertInfo) : String :=
  if pin.isEmpty then hid8HexUpper tlm.hashedId8 else pin

/-- The ECTL, refused unless its signature verifies under the TLM certificate. -/
def ectlAnswer (tlm : CertInfo) (a : Answer) : Except Error TrustTopology :=
  match okBody a.response with
  | .error e => .error e
  | .ok body =>
    match TrustList.decodeEctl lib a.mem a.nowTai body tlm.publicKey.toVector
        tlm.certBytes.toVector with
    | .error e => .error e
    | .ok topo => if topo.ectlSignatureVerified then .ok topo else .error .signatureInvalid

/-- The three ways a round for one root CA can go: no CTL (skipped), a CTL that does not
decode or verify (skipped, and the call will fail), or a CTL that is merged. -/
inductive CtlAnswer where
  | missing
  | refused
  | accepted (ctl : TrustTopology)

def ctlAnswer (rca : CertInfo) (a : Answer) : CtlAnswer :=
  match okBody a.response with
  | .error _ => .missing
  | .ok body =>
    match TrustList.decodeRcaCtl lib a.mem a.nowTai body rca.publicKey.toVector
        rca.certBytes.toVector with
    | .error _ => .refused
    | .ok ctl => if ctl.ctlSignatureVerified then .accepted ctl else .refused

/-- The certificates a merged CTL contributes to the trust store, in order. -/
def ctlCerts (ctl : TrustTopology) : List CertInfo :=
  ctl.eas.map (·.cert)++ctl.aas.map (·.cert)

def mergeCtl (result ctl : TrustTopology) : TrustTopology :=
  {result with eas := result.eas++ctl.eas,aas := result.aas++ctl.aas,
               dcs := result.dcs++ctl.dcs}

/-- Where the CTL of one root CA is fetched, given what was merged so far. -/
def ctlRequest (baseUrl : String) (result : TrustTopology) (rca : CertInfo) : HttpRequest :=
  .get (findDcUrl result.dcs rca.hashedId8 baseUrl++"/getctl/"++hid8HexUpper rca.hashedId8)

/-- One turn of the loop over the root CAs. -/
def visitRca (baseUrl : String) (result : TrustTopology) (rca : CertInfo) :
    ClientM TrustTopology := do
  let a ← ask w (ctlRequest baseUrl result rca)
  match ctlAnswer lib rca a with
  | .missing => pure result
  | .refused => pure {result with ctlSignatureVerified := false}
  | .accepted ctl => do
    modify (·.storeAll (ctlCerts ctl))
    pure (mergeCtl result ctl)

/-- The endpoints and the topology a successful discovery leaves behind. -/
def adopt (result : TrustTopology) (s : ClientState) : ClientState :=
  let eaUrl := match result.eas with
    | [] => s.config.eaUrl
    | ea::_ => if ea.itsAccessPoint.isEmpty then s.config.eaUrl else ea.itsAccessPoint
  let aaUrl := match result.aas with
    | [] => s.config.aaUrl
    | aa::_ => aa.accessPoint
  {s with config := {s.config with eaUrl := eaUrl,aaUrl := aaUrl},topology := some result}

def discoverTrust : ClientM TrustTopology := do
  let s ← get
  let a ← ask w (.get (s.config.tlmUrl++tlmPath s.config.tlmHid8))
  let tlm ← Op.lift (certAnswer lib "tlm" a)
  addCert tlm
  let b ← ask w (.get (s.config.tlmUrl++"/getectl/"++tlmHex s.config.tlmHid8 tlm))
  let ectl ← Op.lift (ectlAnswer lib tlm b)
  modify (·.storeAll ectl.rcas)
  let result ← ectl.rcas.foldlM (visitRca lib w s.config.tlmUrl)
    {ectl with tlm := some tlm,ctlSignatureVerified := true}
  Op.ensure result.ctlSignatureVerified .signatureInvalid
  modify (adopt result)
  pure result

end PkiClient

end V2xPki
