import V2xPki.Client.PkiClient

namespace V2xPki

open Framework

/-- The facade operations, with the arguments a caller gives them. -/
inductive ClientOp where
  | requestEnrolmentCredential (canonical : KeyHandle) (rec : EcRecord)
  | requestAuthorizationTicket (ecHandle : KeyHandle) (ecCert : CertInfo)
      (atHandle : KeyHandle) (rec : AtRecord)
  | fetchTrustAnchor
  | fetchCertByName (name : String)
  | fetchCertByHashedId8 (hid8 : HashedId8)
  | discoverTrust
  | fetchCrl (rcaHid8 : HashedId8)

inductive Outcome where
  | cert (ci : CertInfo)
  | topology (t : TrustTopology)
  | crl (contents : CrlContents)

namespace PkiClient
variable (lib : Lib) (w : World)

def perform : ClientOp → ClientM Outcome
  | .requestEnrolmentCredential canonical rec =>
      .cert <$> requestEnrolmentCredential lib w canonical rec
  | .requestAuthorizationTicket ecHandle ecCert atHandle rec =>
      .cert <$> requestAuthorizationTicket lib w ecHandle ecCert atHandle rec
  | .fetchTrustAnchor => .cert <$> fetchTrustAnchor lib w
  | .fetchCertByName name => .cert <$> fetchCertByName lib w name
  | .fetchCertByHashedId8 hid8 => .cert <$> fetchCertByHashedId8 lib w hid8
  | .discoverTrust => .topology <$> discoverTrust lib w
  | .fetchCrl rcaHid8 => .crl <$> fetchCrl lib w rcaHid8

/-- The state a call leaves behind, whatever it returns. -/
def step (op : ClientOp) (s : ClientState) : ClientState := (Op.exec (perform lib w op) s).2

/-- A client as its constructor leaves it, for any configuration, directory and memory. -/
def Initial (s : ClientState) : Prop := ∃ mem cfg dir,s=ClientState.initial lib mem cfg dir

/-- No time passes, nothing is drawn and no key is stored. -/
def stillSetting : Setting where
  unixNow := 0
  ecEntropy := ⟨⟨0,0⟩,⟨0,0⟩,⟨none,none,none⟩⟩
  atEntropy := ⟨none,⟨0,0⟩,⟨none,none,none⟩,⟨0,0⟩,⟨none,none,none⟩⟩
  loadKeypair _ := none

/-- A server that gives the listed answers in order, counted from a log of `n` events, and
drops every later request. -/
def scripted (setting : Setting) (n : Nat) (answers : List Answer) : World where
  setting _ := setting
  answer events _ := answers.getD (events.length-n) ⟨.error .network,0,fun _ => .zero⟩

/-- Everything of a client but the record of what it asked for. -/
def durable (s : ClientState) :
    PkiClientConfig × TrustChain × RevocationStore × Option TrustTopology :=
  (s.config,s.trust,s.revocation,s.topology)

@[simp] theorem exec_enter (s : ClientState) :
    Op.exec (enter w) s=(.ok (w.setting s.events),s.after .enter) := rfl

@[simp] theorem exec_ask (r : HttpRequest) (s : ClientState) :
    Op.exec (ask w r) s=(.ok (w.answer s.events r),s.after (.http r)) := rfl

@[simp] theorem exec_addCert (ci : CertInfo) (s : ClientState) :
    Op.exec (addCert ci) s=(.ok ⟨⟩,s.store ci) := rfl

theorem enter_bind {α : Type} (f : Setting → ClientM α) (s : ClientState) :
    Op.exec (enter w >>= f) s=Op.exec (f (w.setting s.events)) (s.after .enter) :=
  Op.exec_bind_of_ok (exec_enter w s) f

theorem ask_bind {α : Type} (r : HttpRequest) (f : Answer → ClientM α) (s : ClientState) :
    Op.exec (ask w r >>= f) s=Op.exec (f (w.answer s.events r)) (s.after (.http r)) :=
  Op.exec_bind_of_ok (exec_ask w r s) f

theorem addCert_bind {α : Type} (ci : CertInfo) (f : PUnit → ClientM α) (s : ClientState) :
    Op.exec (addCert ci >>= f) s=Op.exec (f ⟨⟩) (s.store ci) :=
  Op.exec_bind_of_ok (exec_addCert ci s) f

theorem okBody_ok {r : Except Error HttpResponse} {body : Bytes} :
    okBody r=.ok body ↔ r=.ok ⟨200,body⟩ := by
  cases r with
  | error e => simp [okBody]
  | ok resp =>
    obtain ⟨code,octets⟩ := resp
    by_cases h : code=200 <;> simp [okBody,h]

theorem keeps_enter : Op.Keeps durable (enter w) := fun _ => rfl

theorem keeps_ask (r : HttpRequest) : Op.Keeps durable (ask w r) := fun _ => rfl

/-- A call that asks, checks, stores one certificate and returns it: whatever goes wrong
goes wrong before the certificate is stored. -/
theorem fetchCert_failsClean (path label : String) :
    Op.FailsClean durable (fetchCert lib w path label) := by
  refine Op.failsClean_bind Op.keeps_get fun s => ?_
  refine Op.failsClean_bind (keeps_ask w _) fun a => ?_
  exact Op.failsClean_bind (Op.keeps_lift _) fun ci => Op.failsClean_modify _ ci

theorem requestEnrolmentCredential_failsClean (canonical : KeyHandle) (rec : EcRecord) :
    Op.FailsClean durable (requestEnrolmentCredential lib w canonical rec) := by
  refine Op.failsClean_bind (Op.keeps_ensure _ _) fun _ => ?_
  refine Op.failsClean_bind Op.keeps_get fun s => ?_
  refine Op.failsClean_bind (keeps_enter w) fun setting => ?_
  refine Op.failsClean_bind (Op.keeps_need _ _) fun kp => ?_
  refine Op.failsClean_bind (Op.keeps_need _ _) fun ea => ?_
  refine Op.failsClean_bind (Op.keeps_lift _) fun req => ?_
  refine Op.failsClean_bind (keeps_ask w _) fun a => ?_
  refine Op.failsClean_bind (Op.keeps_lift _) fun body => ?_
  refine Op.failsClean_bind (Op.keeps_lift _) fun resp => ?_
  exact Op.failsClean_bind (Op.keeps_lift _) fun ci => Op.failsClean_modify _ ci

theorem requestAuthorizationTicket_failsClean (ecHandle : KeyHandle) (ecCert : CertInfo)
    (atHandle : KeyHandle) (rec : AtRecord) :
    Op.FailsClean durable
      (requestAuthorizationTicket lib w ecHandle ecCert atHandle rec) := by
  refine Op.failsClean_bind (Op.keeps_ensure _ _) fun _ => ?_
  refine Op.failsClean_bind Op.keeps_get fun s => ?_
  refine Op.failsClean_bind (keeps_enter w) fun setting => ?_
  refine Op.failsClean_bind (Op.keeps_need _ _) fun kp => ?_
  refine Op.failsClean_bind (Op.keeps_need _ _) fun aa => ?_
  refine Op.failsClean_bind (Op.keeps_need _ _) fun ea => ?_
  refine Op.failsClean_bind (Op.keeps_need _ _) fun atKp => ?_
  refine Op.failsClean_bind (Op.keeps_lift _) fun req => ?_
  refine Op.failsClean_bind (keeps_ask w _) fun a => ?_
  refine Op.failsClean_bind (Op.keeps_lift _) fun body => ?_
  refine Op.failsClean_bind (Op.keeps_lift _) fun resp => ?_
  exact Op.failsClean_bind (Op.keeps_lift _) fun ci => Op.failsClean_modify _ ci

theorem fetchCrl_failsClean (rcaHid8 : HashedId8) :
    Op.FailsClean durable (fetchCrl lib w rcaHid8) := by
  refine Op.failsClean_bind Op.keeps_get fun s => ?_
  refine Op.failsClean_bind (keeps_ask w _) fun a => ?_
  refine Op.failsClean_bind (Op.keeps_lift _) fun body => ?_
  refine Op.failsClean_bind (Op.keeps_need _ _) fun rca => ?_
  refine Op.failsClean_bind (Op.keeps_lift _) fun crl => ?_
  exact Op.failsClean_bind (Op.keeps_need _ _) fun _ => Op.failsClean_modify _ crl

end PkiClient

end V2xPki
