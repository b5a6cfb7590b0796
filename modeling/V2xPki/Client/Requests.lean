import V2xPki.Client.Posting
import V2xPki.Client.Provenance

namespace V2xPki.PkiClient

open Framework

/-- The HTTP requests of a log, newest first. -/
def requests (log : List Event) : List HttpRequest :=
  log.filterMap fun e => match e with
    | .http r => some r
    | .enter => none

@[simp] theorem requests_nil : requests []=[] := rfl

@[simp] theorem requests_enter (log : List Event) : requests (.enter::log)=requests log := rfl

@[simp] theorem requests_http (r : HttpRequest) (log : List Event) :
    requests (.http r::log)=r::requests log := rfl

@[simp] theorem requests_append (new log : List Event) :
    requests (new++log)=requests new++requests log := List.filterMap_append

/-- The call only adds to the log, and at most so many requests. -/
def AsksAtMost {α : Type} (n : Nat) (m : ClientM α) : Prop :=
  ∀ s,∃ new,(Op.exec m s).2.events=new++s.events ∧ (requests new).length≤n

section Rules
variable {α β : Type} {n k : Nat} {m : ClientM α} {f : α → ClientM β}

theorem asks_of_keeps (h : Op.Keeps ClientState.events m) : AsksAtMost 0 m :=
  fun s => ⟨[],h s,Nat.le_refl _⟩

theorem asks_bind (hm : AsksAtMost n m) (hf : ∀ a,AsksAtMost k (f a)) :
    AsksAtMost (n+k) (m >>= f) := by
  intro s
  obtain ⟨new,hnew,hlen⟩ := hm s
  rw [Op.exec_bind]
  rcases hrun : Op.exec m s with ⟨r,t⟩
  rw [hrun] at hnew
  cases r with
  | error e => exact ⟨new,hnew,by omega⟩
  | ok a =>
    obtain ⟨more,hmore,hlen'⟩ := hf a t
    refine ⟨more++new,?_,?_⟩
    · show (Op.exec (f a) t).2.events=_
      rw [hmore,List.append_assoc]
      exact congrArg (more++·) hnew
    · rw [requests_append,List.length_append]
      omega

/-- What asks nothing before and after does not count. -/
theorem asks_after (hm : AsksAtMost 0 m) (hf : ∀ a,AsksAtMost n (f a)) :
    AsksAtMost n (m >>= f) := by
  have h := asks_bind hm hf
  rwa [Nat.zero_add] at h

variable (w : World)

theorem asks_enter : AsksAtMost 0 (enter w) := fun _ => ⟨[.enter],rfl,Nat.le_refl _⟩

theorem asks_once (r : HttpRequest) {g : Answer → ClientM β} (hg : ∀ a,AsksAtMost 0 (g a)) :
    AsksAtMost 1 (ask w r >>= g) := by
  have hask : AsksAtMost 1 (ask w r) := fun _ => ⟨[.http r],rfl,Nat.le_refl _⟩
  exact asks_bind hask hg

theorem asks_ensure (c : Bool) (e : Error) : AsksAtMost 0 (Op.ensure c e) :=
  asks_of_keeps (Op.keeps_ensure c e)

theorem asks_need (o : Option α) (e : Error) : AsksAtMost 0 (Op.need o e) :=
  asks_of_keeps (Op.keeps_need o e)

theorem asks_lift (r : Except Error α) : AsksAtMost 0 (Op.lift r) :=
  asks_of_keeps (Op.keeps_lift r)

theorem asks_get : AsksAtMost 0 (get : ClientM ClientState) := asks_of_keeps Op.keeps_get

/-- Storing a certificate and returning it. -/
theorem asks_store (ci : CertInfo) : AsksAtMost 0 (do addCert ci; pure ci) :=
  asks_of_keeps (Op.keeps_bind (fun _ => rfl) fun _ => Op.keeps_pure ci)

end Rules

section
variable (lib : Lib) (w : World)

theorem fetchCert_asks (path label : String) : AsksAtMost 1 (fetchCert lib w path label) := by
  refine asks_after asks_get fun s => ?_
  refine asks_once w _ fun a => ?_
  exact asks_after (asks_lift _) fun ci => asks_store ci

theorem requestEnrolmentCredential_asks (canonical : KeyHandle) (rec : EcRecord) :
    AsksAtMost 1 (requestEnrolmentCredential lib w canonical rec) := by
  refine asks_after (asks_ensure _ _) fun _ => ?_
  refine asks_after asks_get fun s => ?_
  refine asks_after (asks_enter w) fun setting => ?_
  refine asks_after (asks_need _ _) fun kp => ?_
  refine asks_after (asks_need _ _) fun ea => ?_
  refine asks_after (asks_lift _) fun req => ?_
  refine asks_once w _ fun a => ?_
  exact asks_of_keeps keeps_events_tail

theorem requestAuthorizationTicket_asks (ecHandle : KeyHandle) (ecCert : CertInfo)
    (atHandle : KeyHandle) (rec : AtRecord) :
    AsksAtMost 1 (requestAuthorizationTicket lib w ecHandle ecCert atHandle rec) := by
  refine asks_after (asks_ensure _ _) fun _ => ?_
  refine asks_after asks_get fun s => ?_
  refine asks_after (asks_enter w) fun setting => ?_
  refine asks_after (asks_need _ _) fun kp => ?_
  refine asks_after (asks_need _ _) fun aa => ?_
  refine asks_after (asks_need _ _) fun ea => ?_
  refine asks_after (asks_need _ _) fun atKp => ?_
  refine asks_after (asks_lift _) fun req => ?_
  refine asks_once w _ fun a => ?_
  exact asks_of_keeps keeps_events_tail

theorem fetchCrl_asks (rcaHid8 : HashedId8) : AsksAtMost 1 (fetchCrl lib w rcaHid8) := by
  refine asks_after asks_get fun s => ?_
  refine asks_once w _ fun a => ?_
  refine asks_after (asks_lift _) fun body => ?_
  refine asks_after (asks_need _ _) fun rca => ?_
  refine asks_after (asks_lift _) fun crl => ?_
  refine asks_after (asks_need _ _) fun revocation => ?_
  exact asks_of_keeps (Op.keeps_bind (fun _ => rfl) fun _ => Op.keeps_pure crl)

/-- Each round asks for one CTL. -/
theorem visitAll_requests (baseUrl : String) (rcas : List CertInfo) (v : Visit) :
    ∃ new,(visitAll lib w baseUrl rcas v).events=new++v.events ∧
      (requests new).length=rcas.length := by
  induction rcas generalizing v with
  | nil => exact ⟨[],rfl,rfl⟩
  | cons rca rcas ih =>
    obtain ⟨new,hnew,hlen⟩ := ih (visit lib w baseUrl v rca)
    refine ⟨new++[.http (ctlRequest baseUrl v.result rca)],?_,?_⟩
    · show (visitAll lib w baseUrl rcas (visit lib w baseUrl v rca)).events=_
      rw [hnew,visit_events,List.append_assoc]
      rfl
    · rw [requests_append,List.length_append,hlen]
      rfl

/-- How many requests an operation may make: the two of a discovery and one for each root CA that
it comes to know, and one of every other operation. -/
def requestBound : ClientOp → ClientState → Nat
  | .discoverTrust,s => match tlmAnswered lib w s with
    | .error _ => 1
    | .ok tlm => match ectlAnswered lib w s tlm with
      | .error _ => 2
      | .ok ectl => ectl.rcas.length+2
  | _,_ => 1

theorem discoverTrust_requests (s : ClientState) :
    ∃ new,(Op.exec (discoverTrust lib w) s).2.events=new++s.events ∧
      (requests new).length=requestBound lib w .discoverTrust s := by
  rw [discoverTrust_exec]
  simp only [discovery,requestBound]
  cases tlmAnswered lib w s with
  | error e => exact ⟨[.http (tlmRequest s.config)],rfl,rfl⟩
  | ok tlm =>
    dsimp only
    cases ectlAnswered lib w s tlm with
    | error e => exact ⟨[.http (ectlRequest s.config tlm),.http (tlmRequest s.config)],rfl,rfl⟩
    | ok ectl =>
      obtain ⟨new,hnew,hlen⟩ := visitAll_requests lib w s.config.tlmUrl ectl.rcas
        (loopStart s tlm ectl)
      refine ⟨new++[.http (ectlRequest s.config tlm),.http (tlmRequest s.config)],?_,?_⟩
      · have hrounds : (rounds lib w s tlm ectl).events=
            new++[.http (ectlRequest s.config tlm),.http (tlmRequest s.config)]++s.events := by
          rw [rounds,hnew,List.append_assoc]
          rfl
        dsimp only
        split
        · exact hrounds
        · exact hrounds
      · rw [requests_append,List.length_append,hlen]
        rfl

theorem asks_map {α β : Type} {n : Nat} {m : ClientM α} (h : AsksAtMost n m) (f : α → β) :
    AsksAtMost n (f <$> m) := by
  intro s
  rw [Op.exec_map]
  exact h s

/-- Every operation only adds to the log, and at most so many requests. -/
theorem step_requests (op : ClientOp) (s : ClientState) :
    ∃ new,(step lib w op s).events=new++s.events ∧
      (requests new).length≤requestBound lib w op s := by
  cases op with
  | requestEnrolmentCredential canonical rec =>
    exact asks_map (requestEnrolmentCredential_asks lib w canonical rec) _ s
  | requestAuthorizationTicket ecHandle ecCert atHandle rec =>
    exact asks_map (requestAuthorizationTicket_asks lib w ecHandle ecCert atHandle rec) _ s
  | fetchTrustAnchor => exact asks_map (fetchCert_asks lib w _ _) _ s
  | fetchCertByName name => exact asks_map (fetchCert_asks lib w _ _) _ s
  | fetchCertByHashedId8 hid8 => exact asks_map (fetchCert_asks lib w _ _) _ s
  | discoverTrust =>
    obtain ⟨new,hnew,hlen⟩ := discoverTrust_requests lib w s
    refine ⟨new,?_,hlen.le⟩
    rw [step,perform,Op.exec_map]
    exact hnew
  | fetchCrl rcaHid8 => exact asks_map (fetchCrl_asks lib w rcaHid8) _ s

theorem step_log (op : ClientOp) (s : ClientState) : s.events<:+(step lib w op s).events := by
  obtain ⟨new,hnew,-⟩ := step_requests lib w op s
  exact ⟨new,hnew.symm⟩

/-- The client after a run of operations. -/
def runAll (ops : List ClientOp) (s : ClientState) : ClientState :=
  ops.foldl (fun s op => step lib w op s) s

/-- How many requests the run may make. -/
def requestTotal : List ClientOp → ClientState → Nat
  | [],_ => 0
  | op::ops,s => requestBound lib w op s+requestTotal ops (step lib w op s)

theorem runAll_requests (ops : List ClientOp) (s : ClientState) :
    ∃ new,(runAll lib w ops s).events=new++s.events ∧
      (requests new).length≤requestTotal lib w ops s := by
  induction ops generalizing s with
  | nil => exact ⟨[],rfl,Nat.le_refl _⟩
  | cons op ops ih =>
    obtain ⟨new,hnew,hlen⟩ := step_requests lib w op s
    obtain ⟨more,hmore,hlen'⟩ := ih (step lib w op s)
    refine ⟨more++new,?_,?_⟩
    · show (runAll lib w ops (step lib w op s)).events=_
      rw [hmore,hnew,List.append_assoc]
    · rw [requests_append,List.length_append,requestTotal]
      omega

/-- What holds at the start and survives every operation holds after every run. -/
theorem runAll_invariant {P : ClientState → Prop} (hstep : ∀ op s,P s → P (step lib w op s))
    (ops : List ClientOp) {s : ClientState} (hs : P s) : P (runAll lib w ops s) := by
  induction ops generalizing s with
  | nil => exact hs
  | cons op ops ih => exact ih (hstep op s hs)

end

end V2xPki.PkiClient
