import V2xPki.Client.HttpClient
import V2xPki.Client.Requests

namespace V2xPki

open Framework PkiClient

/-- The requests of a log with what was returned for them, newest first. -/
def World.exchanges (w : World) : List Event → List (HttpRequest × Except Error HttpResponse)
  | [] => []
  | .enter::log => w.exchanges log
  | .http r::log => (r,(w.answer log r).response)::w.exchanges log

namespace HttpClient

/-- `CURLOPT_MAXREDIRS`. -/
def kMaxRedirs : Nat := 10

/-- What comes of one request on the wire: a redirect, which libcurl follows, or the end of the
transfer. -/
inductive Hop where
  | redirect (status : Int) (lines : List String) (location : String)
  | done (t : Transfer)

structure Sent where
  request : HttpRequest
  hop : Hop

/-- The request that follows on a redirect. Only some of them leave a POST what it is. -/
def redirected (r : HttpRequest) (status : Int) (location : String) : HttpRequest :=
  match r with
  | .get _ => .get location
  | .post _ body =>
    if status=301 ∨ status=302 ∨ status=303 then .get location else .post location body

/-- `CURLE_TOO_MANY_REDIRECTS`. -/
def tooManyRedirects (status : Int) (lines : List String) : Transfer :=
  ⟨.other 47,[],lines,status⟩

/-- What the HTTP client has around it. Whether `curl_easy_init` returns a handle and what comes
of a request may depend on everything that was sent before, newest first. -/
structure Network where
  handle : List Sent → Bool
  hop : List Sent → HttpRequest → Hop
  setting : List Event → Setting
  unixNow : List Event → HttpRequest → Int
  mem : List Event → HttpRequest → Nat → HashedId8

namespace Network
variable (net : Network) (maxRetries : UInt32)

/-- One `curl_easy_perform` with so many redirects left, and what was sent by then. The header
callback sees the lines of every response, the write callback the last body alone. -/
def follow : Nat → List Sent → HttpRequest → Transfer × List Sent
  | left,sent,r =>
    let sent' := ⟨r,net.hop sent r⟩::sent
    match net.hop sent r with
    | .done t => (t,sent')
    | .redirect status lines location => match left with
      | 0 => (tooManyRedirects status lines,sent')
      | left+1 =>
        let rest := follow left sent' (redirected r status location)
        ({rest.1 with lines := lines++rest.1.lines},rest.2)

/-- What was sent after so many attempts. Each begins with the request that is set on the
handle. -/
def attempts (sent : List Sent) (r : HttpRequest) : Nat → List Sent
  | 0 => sent
  | n+1 => (net.follow kMaxRedirs (attempts sent r n) r).2

def outcome (sent : List Sent) (r : HttpRequest) (n : Nat) : Transfer :=
  (net.follow kMaxRedirs (net.attempts sent r n) r).1

/-- `HttpClient::get` and `HttpClient::post`: what the caller gets, and what was sent. -/
def perform (sent : List Sent) (r : HttpRequest) : Except Error HttpResponse × List Sent :=
  if net.handle sent then
    (answered (net.outcome sent r) maxRetries,
      net.attempts sent r (performWithRetry (net.outcome sent r) maxRetries).2)
  else (.error .network,sent)

/-- What was sent for the requests of a log. -/
def wire : List Event → List Sent
  | [] => []
  | .enter::log => wire log
  | .http r::log => (net.perform maxRetries (wire log) r).2

/-- The world of a client whose requests go over this network. -/
def world : World where
  setting := net.setting
  answer log r :=
    ⟨(net.perform maxRetries (net.wire maxRetries log) r).1,net.unixNow log r,net.mem log r⟩

end Network

/-- A transfer of a request with so many redirects left: what it sent, in order, and what it
came to. Each redirect leads to the next request, and the last one is not followed. -/
inductive Followed : Nat → HttpRequest → List Sent → Transfer → Prop
  | done (left : Nat) (r : HttpRequest) (t : Transfer) : Followed left r [⟨r,.done t⟩] t
  | tooMany (r : HttpRequest) (status : Int) (lines : List String) (location : String) :
      Followed 0 r [⟨r,.redirect status lines location⟩] (tooManyRedirects status lines)
  | next {left : Nat} {r : HttpRequest} {status : Int} {lines : List String} {location : String}
      {hops : List Sent} {t : Transfer}
      (rest : Followed left (redirected r status location) hops t) :
      Followed (left+1) r (⟨r,.redirect status lines location⟩::hops)
        {t with lines := lines++t.lines}

/-- One `curl_easy_perform`, with what it sent in order. -/
structure Performed where
  hops : List Sent
  transfer : Transfer

/-- A request and its transfers, newest first. -/
structure Burst where
  request : HttpRequest
  performed : List Performed

namespace Burst

def sent (b : Burst) : List Sent := b.performed.flatMap fun p => p.hops.reverse

def transfers (b : Burst) : List Transfer := b.performed.map (·.transfer)

/-- What the newest of the transfers comes to. -/
def reply (b : Burst) : Except Error HttpResponse := match b.transfers with
  | [] => .error .network
  | t::_ => (verdict t).map fun r => ⟨r.statusCode,r.body⟩

/-- Every transfer begins with the request itself. It is only sent again after a transfer that
was not final, and it is so until the retries are used up. -/
structure RetriedWell (maxRetries : Nat) (b : Burst) : Prop where
  followed : ∀ p∈b.performed,Followed kMaxRedirs b.request p.hops p.transfer
  bounded : b.transfers.length ≤ maxRetries+1
  again : ∀ t∈b.transfers.tail,¬t.Final
  ended : ∀ t,b.transfers.head?=some t → t.Final ∨ b.transfers.length=maxRetries+1

end Burst

section
variable {net : Network} {maxRetries : UInt32}

/-- A transfer sends its request and at most as many more as redirects are left. -/
theorem Followed.length_le {left : Nat} {r : HttpRequest} {hops : List Sent} {t : Transfer}
    (h : Followed left r hops t) : hops.length≤left+1 := by
  induction h with
  | done left r t => exact Nat.succ_le_succ (Nat.zero_le left)
  | tooMany r status lines location => exact Nat.le_refl _
  | next rest ih => exact Nat.succ_le_succ ih

theorem follow_followed (left : Nat) (sent : List Sent) (r : HttpRequest) :
    ∃ hops,(net.follow left sent r).2=hops.reverse++sent ∧
      Followed left r hops (net.follow left sent r).1 := by
  induction left generalizing sent r with
  | zero =>
    unfold Network.follow
    cases hhop : net.hop sent r with
    | done t => exact ⟨_,rfl,.done 0 r t⟩
    | redirect status lines location => exact ⟨_,rfl,.tooMany r status lines location⟩
  | succ left ih =>
    unfold Network.follow
    cases hhop : net.hop sent r with
    | done t => exact ⟨_,rfl,.done _ r t⟩
    | redirect status lines location =>
      obtain ⟨hops,hsent,hrest⟩ := ih (⟨r,.redirect status lines location⟩::sent)
        (redirected r status location)
      refine ⟨⟨r,.redirect status lines location⟩::hops,?_,.next hrest⟩
      rw [List.reverse_cons,List.append_assoc]
      exact hsent

/-- What so many attempts send and come to. -/
theorem attempts_performed (sent : List Sent) (r : HttpRequest) (n : Nat) :
    ∃ performed : List Performed,
      net.attempts sent r n=(performed.flatMap fun p => p.hops.reverse)++sent ∧
      performed.map (·.transfer)=(List.range n).reverse.map (net.outcome sent r) ∧
      ∀ p∈performed,Followed kMaxRedirs r p.hops p.transfer := by
  induction n with
  | zero => exact ⟨[],rfl,rfl,by simp⟩
  | succ n ih =>
    obtain ⟨performed,hsent,htransfers,hfollowed⟩ := ih
    obtain ⟨hops,hhops,hnew⟩ := @follow_followed net kMaxRedirs (net.attempts sent r n) r
    refine ⟨⟨hops,net.outcome sent r n⟩::performed,?_,?_,List.forall_mem_cons.mpr ⟨hnew,hfollowed⟩⟩
    · rw [Network.attempts,hhops,List.flatMap_cons,List.append_assoc,← hsent]
    · rw [List.range_succ,List.reverse_concat,List.map_cons,List.map_cons,htransfers]

/-- One request goes over the wire as a burst. -/
theorem perform_burst (sent : List Sent) (r : HttpRequest) :
    ∃ b : Burst,b.request=r ∧ (net.perform maxRetries sent r).2=b.sent++sent ∧
      (net.perform maxRetries sent r).1=b.reply ∧ b.RetriedWell maxRetries.toNat := by
  by_cases hhandle : net.handle sent=true
  · obtain ⟨last,hlast,hrun⟩ := performWithRetry_spec (net.outcome sent r) maxRetries
    have hwithin := hlast.within
    obtain ⟨performed,hsent,htransfers,hfollowed⟩ :=
      @attempts_performed net sent r (last+1)
    have htransfers : (⟨r,performed⟩ : Burst).transfers=
        net.outcome sent r last::(List.range last).reverse.map (net.outcome sent r) := by
      rw [Burst.transfers,htransfers,List.range_succ,List.reverse_concat,List.map_cons]
    refine ⟨⟨r,performed⟩,rfl,?_,?_,hfollowed,?_,?_,?_⟩
    · rw [Network.perform,if_pos hhandle,hrun]
      exact hsent
    · rw [Network.perform,if_pos hhandle,answered,hrun,Burst.reply,htransfers]
    · rw [htransfers,List.length_cons,List.length_map,List.length_reverse,List.length_range]
      omega
    · intro t ht
      simp only [htransfers,List.tail_cons,List.mem_map,List.mem_reverse,List.mem_range] at ht
      obtain ⟨j,hj,rfl⟩ := ht
      exact hlast.before j (Nat.zero_le j) hj
    · intro t ht
      rw [htransfers,List.head?_cons,Option.some.injEq] at ht
      subst ht
      rcases hlast.ended with hfinal | hend
      · exact .inl hfinal
      · right
        rw [htransfers,List.length_cons,List.length_map,List.length_reverse,List.length_range]
        omega
  · refine ⟨⟨r,[]⟩,rfl,?_,?_,?_,Nat.zero_le _,?_,?_⟩
    · rw [Network.perform,if_neg hhandle]
      rfl
    · rw [Network.perform,if_neg hhandle]
      rfl
    · intro p hp
      cases hp
    · intro t ht
      cases ht
    · intro t ht
      cases ht

/-- The wire carries a log burst by burst, and the bursts collapse to what the log exchanges. -/
theorem wire_bursts (new log : List Event) :
    ∃ bursts : List Burst,
      net.wire maxRetries (new++log)=bursts.flatMap Burst.sent++net.wire maxRetries log ∧
      (net.world maxRetries).exchanges (new++log)=
        (bursts.map fun b => (b.request,b.reply))++(net.world maxRetries).exchanges log ∧
      bursts.length=(requests new).length ∧ ∀ b∈bursts,b.RetriedWell maxRetries.toNat := by
  induction new with
  | nil => exact ⟨[],rfl,rfl,rfl,by simp⟩
  | cons e new ih =>
    obtain ⟨bursts,hwire,hexchanges,hlen,hwell⟩ := ih
    cases e with
    | enter => exact ⟨bursts,hwire,hexchanges,hlen,hwell⟩
    | http r =>
      obtain ⟨b,rfl,hsent,hreply,hb⟩ :=
        @perform_burst net maxRetries (net.wire maxRetries (new++log)) r
      refine ⟨b::bursts,?_,?_,?_,?_⟩
      · show (net.perform maxRetries (net.wire maxRetries (new++log)) b.request).2=_
        rw [hsent,hwire,List.flatMap_cons,List.append_assoc]
      · show (b.request,(net.perform maxRetries (net.wire maxRetries (new++log)) b.request).1)::
          (net.world maxRetries).exchanges (new++log)=_
        rw [hreply,hexchanges]
        rfl
      · rw [List.length_cons,requests_http,List.length_cons,hlen]
      · exact List.forall_mem_cons.mpr ⟨hb,hwell⟩

/-- A concatenation is no longer than its longest part allows. -/
theorem flatMap_length_le {α β : Type} {f : α → List β} {xs : List α} {most : Nat}
    (h : ∀ x∈xs,(f x).length ≤ most) : (xs.flatMap f).length≤xs.length*most := by
  induction xs with
  | nil => exact Nat.zero_le _
  | cons x xs ih =>
    have hx := h x (List.mem_cons_self ..)
    have hrest := ih fun x' hx' => h x' (List.mem_cons_of_mem _ hx')
    rw [List.flatMap_cons,List.length_append,List.length_cons,Nat.succ_mul]
    omega

theorem Burst.RetriedWell.sent_length {most : Nat} {b : Burst} (h : b.RetriedWell most) :
    b.sent.length≤(most+1)*(kMaxRedirs+1) := by
  have hperformed : b.performed.length ≤ most+1 := by
    have hbounded := h.bounded
    rwa [Burst.transfers,List.length_map] at hbounded
  have hhops : b.sent.length≤b.performed.length*(kMaxRedirs+1) := by
    apply flatMap_length_le
    intro p hp
    rw [List.length_reverse]
    exact (h.followed p hp).length_le
  exact hhops.trans (Nat.mul_le_mul_right _ hperformed)

end

end HttpClient

end V2xPki
