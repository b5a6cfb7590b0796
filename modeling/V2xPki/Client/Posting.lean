import V2xPki.Client.Exchange

namespace V2xPki.PkiClient

open Framework

/-- The bodies POSTed while the log grew from `before` to `after`, newest first. -/
def posted (before after : List Event) : List Bytes :=
  (after.take (after.length-before.length)).filterMap fun e => match e with
    | .http (.post _ body) => some body
    | _ => none

theorem posted_append (new before : List Event) :
    posted before (new++before)=new.filterMap fun e => match e with
      | .http (.post _ body) => some body
      | _ => none := by
  have hlen : (new++before).length-before.length=new.length := by simp
  unfold posted
  rw [hlen,List.take_left]

variable (lib : Lib) (w : World)

/-- What `request_enrolment_credential` has in hand when it gets as far as its POST. -/
structure EcPosting where
  key : KeyPair
  ea : CertInfo
  desc : EcRequestDescription
  request : RequestResult

def ecPosting (canonical : KeyHandle) (rec : EcRecord) (s : ClientState) : Option EcPosting := do
  guard (validateEcRecord rec).isOk
  let setting := w.setting s.events
  let kp ← setting.loadKeypair canonical
  let ea ← s.trust.findByHashedId8 rec.eaHashedId8
  let desc := assembleEcRequest rec setting.unixNow
  let req ← (encodeEcRequest lib desc ea kp.privateKey.toVector setting.ecEntropy).toOption
  some ⟨kp,ea,desc,req⟩

/-- What `request_authorization_ticket` has in hand when it gets as far as its POST. -/
structure AtPosting where
  ecKey : KeyPair
  atKey : KeyPair
  aa : CertInfo
  ea : CertInfo
  desc : AtRequestDescription
  request : RequestResult

def atPosting (ecHandle : KeyHandle) (ecCert : CertInfo) (atHandle : KeyHandle) (rec : AtRecord)
    (s : ClientState) : Option AtPosting := do
  guard (validateAtRecord rec).isOk
  let setting := w.setting s.events
  let kp ← setting.loadKeypair ecHandle
  let aa ← s.trust.findByHashedId8 rec.aaHashedId8
  let ea ← s.trust.findByHashedId8 rec.eaHashedId8
  let atKp ← setting.loadKeypair atHandle
  let desc := {assembleAtRequest lib rec setting.unixNow setting.atEntropy.hmacScalar with
    verificationKey := atKp.publicKey}
  let req ← (encodeAtRequest lib desc aa ea ecCert kp.privateKey.toVector
    atKp.privateKey.toVector setting.atEntropy).toOption
  some ⟨kp,atKp,aa,ea,desc,req⟩

/-- A call that POSTs the body that `p` has, and without one fails without a request. -/
structure PostsAt (url : String) (log : List Event) (p : Option Bytes)
    (out : Except Error CertInfo × ClientState) : Prop where
  posts : ∀ body,p=some body → out.2.events=.http (.post url body)::log
  fails : p=none → (∃ e,out.1=.error e) ∧ out.2.events=log

section Rules
variable {w} {url : String} {log : List Event} {s : ClientState} {α β : Type} {g : β → Bytes}

theorem postsAt_need {o : Option α} {e : Error} {f : α → ClientM CertInfo} {p : α → Option β}
    (hs : s.events=log) (h : ∀ a,PostsAt url log ((p a).map g) (Op.exec (f a) s)) :
    PostsAt url log ((o.bind p).map g) (Op.exec (Op.need o e >>= f) s) := by
  rw [Op.exec_bind,Op.exec_need]
  cases o with
  | none => exact ⟨by simp,fun _ => ⟨⟨e,rfl⟩,hs⟩⟩
  | some a => exact h a

theorem postsAt_lift {r : Except Error α} {f : α → ClientM CertInfo} {p : α → Option β}
    (hs : s.events=log) (h : ∀ a,PostsAt url log ((p a).map g) (Op.exec (f a) s)) :
    PostsAt url log ((r.toOption.bind p).map g) (Op.exec (Op.lift r >>= f) s) := by
  rw [Op.exec_bind,Op.exec_lift]
  cases r with
  | error e => exact ⟨by simp [Except.toOption],fun _ => ⟨⟨e,rfl⟩,hs⟩⟩
  | ok a => exact h a

theorem postsAt_ask {b : β} {f : Answer → ClientM CertInfo} (hs : s.events=log)
    (hf : ∀ a,Op.Keeps ClientState.events (f a)) :
    PostsAt url log ((some b).map g) (Op.exec (ask w (.post url (g b)) >>= f) s) := by
  rw [ask_bind]
  refine ⟨?_,by simp⟩
  intro body hbody
  obtain rfl : g b=body := Option.some.inj hbody
  rw [hf _ _,← hs]
  rfl

/-- The end of both requests adds nothing to the log. -/
theorem keeps_events_tail {r : Except Error α} {f : α → Except Error β}
    {g : β → Except Error CertInfo} :
    Op.Keeps ClientState.events (do
      let a ← Op.lift r
      let b ← Op.lift (f a)
      let ci ← Op.lift (g b)
      addCert ci
      pure ci : ClientM CertInfo) := by
  refine Op.keeps_bind (Op.keeps_lift _) fun a => ?_
  refine Op.keeps_bind (Op.keeps_lift _) fun b => ?_
  refine Op.keeps_bind (Op.keeps_lift _) fun ci => ?_
  exact Op.keeps_bind (fun _ => rfl) fun _ => Op.keeps_pure ci

/-- A record that is not valid stops the call before anything else; a valid one lets it enter
the rest. -/
theorem posted_of_checked (url : String) {valid : Bool} {e : Error} {m : ClientState → Setting → ClientM CertInfo}
    {p : Option β} (h : PostsAt url (.enter::s.events) (p.map g)
      (Op.exec (m s (w.setting s.events)) (s.after .enter))) :
    let out := Op.exec (do
      Op.ensure valid e
      let s ← get
      let setting ← enter w
      m s setting) s
    posted s.events out.2.events=(((guard (valid=true) : Option Unit).bind fun _ => p).map g).toList ∧
      ((guard (valid=true) : Option Unit).bind (fun _ => p)=none → ∃ e,out.1=.error e) := by
  cases valid with
  | false => exact ⟨posted_append [] s.events,fun _ => ⟨e,rfl⟩⟩
  | true =>
    simp only [Op.exec_bind,Op.exec_ensure,if_true,Op.exec_get,exec_enter,guard_true,pure,
      Option.bind_some]
    cases hp : p.map g with
    | none =>
      obtain ⟨hfail,hlog⟩ := h.fails hp
      rw [hlog]
      exact ⟨posted_append [.enter] s.events,fun _ => hfail⟩
    | some body =>
      rw [h.posts body hp]
      refine ⟨posted_append [.http (.post url body),.enter] s.events,?_⟩
      rintro rfl
      cases hp

end Rules

/-- An enrolment request is POSTed exactly if there is one to POST, and else the call fails. -/
theorem requestEnrolmentCredential_posts (canonical : KeyHandle) (rec : EcRecord)
    (s : ClientState) :
    let out := Op.exec (requestEnrolmentCredential lib w canonical rec) s
    posted s.events out.2.events=
        ((ecPosting lib w canonical rec s).map fun p => p.request.encoded.toVector).toList ∧
      (ecPosting lib w canonical rec s=none → ∃ e,out.1=.error e) := by
  refine posted_of_checked s.config.eaUrl ?_
  refine postsAt_need rfl fun kp => ?_
  refine postsAt_need rfl fun ea => ?_
  refine postsAt_lift rfl fun req => ?_
  exact postsAt_ask rfl fun a => keeps_events_tail

theorem requestAuthorizationTicket_posts (ecHandle : KeyHandle) (ecCert : CertInfo)
    (atHandle : KeyHandle) (rec : AtRecord) (s : ClientState) :
    let out := Op.exec (requestAuthorizationTicket lib w ecHandle ecCert atHandle rec) s
    posted s.events out.2.events=((atPosting lib w ecHandle ecCert atHandle rec s).map
        fun p => p.request.encoded.toVector).toList ∧
      (atPosting lib w ecHandle ecCert atHandle rec s=none → ∃ e,out.1=.error e) := by
  refine posted_of_checked s.config.aaUrl ?_
  refine postsAt_need rfl fun kp => ?_
  refine postsAt_need rfl fun aa => ?_
  refine postsAt_need rfl fun ea => ?_
  refine postsAt_need rfl fun atKp => ?_
  refine postsAt_lift rfl fun req => ?_
  exact postsAt_ask rfl fun a => keeps_events_tail

end V2xPki.PkiClient
