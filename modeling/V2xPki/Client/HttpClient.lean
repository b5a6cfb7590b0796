import V2xPki.Client.Operations
import V2xPki.Framework.Retry

namespace V2xPki

open Framework

/-- The results of `curl_easy_perform` that the client tells apart. -/
inductive CurlCode where
  | ok
  | couldntConnect
  | couldntResolveHost
  | couldntResolveProxy
  | operationTimedout
  | gotNothing
  | sendError
  | recvError
  | partialFile
  | other (code : Nat)
deriving DecidableEq

namespace HttpClient

/-- `HttpResponse` with its headers. -/
structure FullResponse where
  statusCode : Int
  body : Bytes
  headers : Std.ExtTreeMap String String

def isTransient : CurlCode → Bool
  | .couldntConnect => true
  | .couldntResolveHost => true
  | .couldntResolveProxy => true
  | .operationTimedout => true
  | .gotNothing => true
  | .sendError => true
  | .recvError => true
  | .partialFile => true
  | .ok => false
  | .other _ => false

def writeCallback (body chunk : Bytes) : Bytes := body++chunk

/-- Leading blanks and the line end are cut off. -/
def trimValue (val : List Char) : List Char :=
  ((val.dropWhile fun c => c == ' ' || c == '\t').reverse.dropWhile fun c =>
    c == '\r' || c == '\n').reverse

/-- A line without a colon is skipped. -/
def headerCallback (headers : Std.ExtTreeMap String String) (line : String) :
    Std.ExtTreeMap String String :=
  if ':' ∈ line.toList then
    headers.insert (String.ofList (line.toList.takeWhile (· ≠ ':')))
      (String.ofList (trimValue (line.toList.dropWhile (· ≠ ':')).tail))
  else headers

/-- What one `curl_easy_perform` does: its result, what it hands to the callbacks, and the
response code it can be asked for. -/
structure Transfer where
  code : CurlCode
  chunks : List Bytes
  lines : List String
  responseCode : Int

/-- One attempt on the response object, which is cleared first. -/
def attemptOn (resp : FullResponse) (t : Transfer) : FullResponse :=
  let cleared : FullResponse := {resp with body := [],headers := ∅,statusCode := 0}
  let filled : FullResponse := {cleared with
    body := t.chunks.foldl writeCallback cleared.body
    headers := t.lines.foldl headerCallback cleared.headers}
  if t.code=.ok then {filled with statusCode := t.responseCode.bmod (2^32)} else filled

/-- What is returned at once; `none` for a failure that may go away. -/
def settled (t : Transfer) (resp : FullResponse) : Option (Except Error FullResponse) :=
  if t.code=.ok then
    if resp.statusCode<500 ∧ resp.statusCode≠429 then some (.ok resp) else none
  else if isTransient t.code then none
  else some (.error .network)

/-- The loop of `perform_with_retry` from the given attempt on, with `left` retries left. It
also returns how many attempts were made. -/
def performFrom (curl : Nat → Transfer) (left attempt : Nat) (resp : FullResponse) :
    Except Error FullResponse × Nat :=
  let resp' := attemptOn resp (curl attempt)
  match settled (curl attempt) resp' with
  | some r => (r,attempt+1)
  | none => match left with
    | 0 => (if resp'.statusCode≠0 then .ok resp' else .error .network,attempt+1)
    | left+1 => performFrom curl left (attempt+1) resp'

/-- `perform_with_retry`, given what each attempt would come to. -/
def performWithRetry (curl : Nat → Transfer) (maxRetries : UInt32) :
    Except Error FullResponse × Nat :=
  performFrom curl maxRetries.toNat 0 ⟨0,[],∅⟩

/-- What an attempt makes of the response object, whatever was in it. -/
def Transfer.response (t : Transfer) : FullResponse := attemptOn ⟨0,[],∅⟩ t

/-- An HTTP response came back. -/
def Transfer.Obtained (t : Transfer) : Prop := t.code=.ok

/-- TLS, a malformed URL and the like. -/
def Transfer.Permanent (t : Transfer) : Prop := t.code≠.ok ∧ isTransient t.code=false

def Transfer.Final (t : Transfer) : Prop :=
  t.Permanent ∨ t.Obtained ∧ t.response.statusCode<500 ∧ t.response.statusCode≠429

/-- At most `maxRetries` retries, none after a final outcome and none left out before, and a
returned response that is all of one attempt. -/
structure RetriesWell (curl : Nat → Transfer) (maxRetries : Nat)
    (out : Except Error FullResponse × Nat) : Prop where
  bounded : out.2 ≤ maxRetries+1
  stops : ∀ j,(curl j).Final → out.2≤j+1
  lasts : ∃ last,out.2=last+1 ∧ ((curl last).Final ∨ last=maxRetries)
  oneAttempt : ∀ r,out.1=.ok r → ∃ j,j<out.2 ∧ (curl j).Obtained ∧ r=(curl j).response

/-- A network error means a permanent error or that no attempt got a response; otherwise the
last response that was obtained is returned. -/
structure KeepsLast (curl : Nat → Transfer) (out : Except Error FullResponse × Nat) : Prop where
  network : ∀ e,out.1=.error e → e=.network ∧
    ((∃ j,j<out.2 ∧ (curl j).Permanent) ∨ ∀ j,j<out.2 → ¬(curl j).Obtained)
  last : (∀ j,j<out.2 → ¬(curl j).Permanent) → (∃ j,j<out.2 ∧ (curl j).Obtained) →
    ∃ j,j<out.2 ∧ (curl j).Obtained ∧ (∀ k,j<k → k<out.2 → ¬(curl k).Obtained) ∧
      out.1=.ok (curl j).response

/-- All attempts are used up, an earlier one got a response and the last one none. -/
def ResponseLost (curl : Nat → Transfer) (maxRetries : Nat) : Prop :=
  (∀ j,j ≤ maxRetries → ¬(curl j).Final) ∧ ¬(curl maxRetries).Obtained ∧
    ∃ j,j < maxRetries ∧ (curl j).Obtained

instance (t : Transfer) : Decidable t.Obtained := inferInstanceAs (Decidable (_=_))

/-- Nothing of an earlier attempt is left in the response object. -/
theorem attemptOn_eq (resp : FullResponse) (t : Transfer) : attemptOn resp t=t.response := by
  unfold Transfer.response attemptOn
  split <;> rfl

theorem response_statusCode {t : Transfer} (h : ¬t.Obtained) : t.response.statusCode=0 := by
  have hcode : ¬t.code=.ok := h
  simp only [Transfer.response,attemptOn,if_neg hcode]

/-- What the loop returns when it ends with this attempt. -/
def verdict (t : Transfer) : Except Error FullResponse :=
  if t.code=.ok then .ok t.response else .error .network

theorem verdict_obtained {t : Transfer} (h : t.Obtained) : verdict t=.ok t.response := if_pos h

theorem verdict_not_obtained {t : Transfer} (h : ¬t.Obtained) : verdict t=.error .network :=
  if_neg h

/-- A final outcome is returned at once, and only such an outcome. -/
theorem settled_iff (t : Transfer) :
    (t.Final ∧ settled t t.response=some (verdict t)) ∨
    (¬t.Final ∧ settled t t.response=none) := by
  by_cases hok : t.code=.ok
  · have hpermanent : ¬t.Permanent := fun h => h.1 hok
    by_cases hcode : t.response.statusCode<500 ∧ t.response.statusCode≠429
    · left
      refine ⟨.inr ⟨hok,hcode⟩,?_⟩
      rw [settled,if_pos hok,if_pos hcode,verdict_obtained hok]
    · right
      refine ⟨?_,?_⟩
      · rintro (h | h)
        · exact hpermanent h
        · exact hcode h.2
      · rw [settled,if_pos hok,if_neg hcode]
  · by_cases htransient : isTransient t.code=true
    · right
      refine ⟨?_,?_⟩
      · rintro (h | h)
        · rw [h.2] at htransient
          cases htransient
        · exact hok h.1
      · rw [settled,if_neg hok,if_pos htransient]
    · left
      refine ⟨.inl ⟨hok,by simpa using htransient⟩,?_⟩
      rw [settled,if_neg hok,if_neg htransient,verdict_not_obtained hok]

/-- When the retries are used up, a response without a status stands for none. -/
theorem exhausted_verdict {t : Transfer} (h : ¬t.Final) :
    (if t.response.statusCode≠0 then .ok t.response else .error .network)=verdict t := by
  by_cases hok : t.code=.ok
  · rw [verdict_obtained hok,if_pos]
    intro hzero
    exact h (.inr ⟨hok,by rw [hzero]; decide,by rw [hzero]; decide⟩)
  · rw [verdict_not_obtained hok,response_statusCode hok]
    rfl

/-- The loop ends with one attempt and returns what that attempt came to. -/
theorem performFrom_spec (curl : Nat → Transfer) (left attempt : Nat) (resp : FullResponse) :
    ∃ last,Retries (fun j => (curl j).Final) left attempt last ∧
      performFrom curl left attempt resp=(verdict (curl last),last+1) := by
  induction left generalizing attempt resp with
  | zero =>
    refine ⟨attempt,Retries.exhausted _ _,?_⟩
    unfold performFrom
    rw [attemptOn_eq]
    rcases settled_iff (curl attempt) with ⟨-,hs⟩ | ⟨hfinal,hs⟩
    · simp only [hs]
    · simp only [hs]
      rw [← exhausted_verdict hfinal]
  | succ left ih =>
    unfold performFrom
    rw [attemptOn_eq]
    rcases settled_iff (curl attempt) with ⟨hfinal,hs⟩ | ⟨hfinal,hs⟩
    · refine ⟨attempt,Retries.stop hfinal _,?_⟩
      simp only [hs]
    · obtain ⟨last,hlast,hrest⟩ := ih (attempt+1) (curl attempt).response
      refine ⟨last,Retries.again hfinal hlast,?_⟩
      simp only [hs]
      exact hrest

theorem performWithRetry_spec (curl : Nat → Transfer) (maxRetries : UInt32) :
    ∃ last,Retries (fun j => (curl j).Final) maxRetries.toNat 0 last ∧
      performWithRetry curl maxRetries=(verdict (curl last),last+1) :=
  performFrom_spec curl maxRetries.toNat 0 ⟨0,[],∅⟩

section
variable {curl : Nat → Transfer} {maxRetries last : Nat}

theorem retriesWell_of_last (h : Retries (fun j => (curl j).Final) maxRetries 0 last) :
    RetriesWell curl maxRetries (verdict (curl last),last+1) where
  bounded := by
    have hwithin := h.within
    dsimp only
    omega
  stops := by
    intro j hj
    exact Nat.succ_le_succ (h.last_le (Nat.zero_le j) hj)
  lasts := by
    refine ⟨last,rfl,?_⟩
    rcases h.ended with hfinal | hend
    · exact .inl hfinal
    · exact .inr (hend.trans (Nat.zero_add _))
  oneAttempt := by
    intro r hr
    by_cases hok : (curl last).Obtained
    · rw [verdict_obtained hok] at hr
      exact ⟨last,Nat.lt_succ_self _,hok,(Except.ok.inj hr).symm⟩
    · rw [verdict_not_obtained hok] at hr
      cases hr

/-- A response is only lost when the last attempt gets none. -/
theorem keepsLast_of_last (h : Retries (fun j => (curl j).Final) maxRetries 0 last)
    (hkept : ¬ResponseLost curl maxRetries) : KeepsLast curl (verdict (curl last),last+1) := by
  by_cases hok : (curl last).Obtained
  · rw [verdict_obtained hok]
    refine ⟨?_,?_⟩
    · intro e he
      cases he
    · intro _ _
      refine ⟨last,Nat.lt_succ_self _,hok,?_,rfl⟩
      intro k hlt hle
      dsimp only at hle
      omega
  · rw [verdict_not_obtained hok]
    by_cases hpermanent : (curl last).Permanent
    · refine ⟨?_,?_⟩
      · intro e he
        exact ⟨(Except.error.inj he).symm,.inl ⟨last,Nat.lt_succ_self _,hpermanent⟩⟩
      · intro hno _
        exact absurd hpermanent (hno last (Nat.lt_succ_self _))
    · have hfinal : ¬(curl last).Final := by
        rintro (hp | hp)
        · exact hpermanent hp
        · exact hok hp.1
      obtain ⟨hend,hnone⟩ := h.used_up hfinal
      rw [Nat.zero_add] at hend hnone
      -- the retries are used up without a response, so no earlier attempt may have got one
      have hnever : ∀ j,j<last+1 → ¬(curl j).Obtained := by
        intro j hj hobtained
        apply hkept
        refine ⟨fun k hk => hnone k (Nat.zero_le k) hk,hend ▸ hok,j,?_,hobtained⟩
        have hne : j≠last := fun heq => hok (heq ▸ hobtained)
        omega
      refine ⟨?_,?_⟩
      · intro e he
        exact ⟨(Except.error.inj he).symm,.inr hnever⟩
      · rintro - ⟨j,hj,hobtained⟩
        exact absurd hobtained (hnever j hj)

/-- A lost response is not returned, though nothing permanent went wrong. -/
theorem not_keepsLast_of_lost (h : Retries (fun j => (curl j).Final) maxRetries 0 last)
    (hlost : ResponseLost curl maxRetries) : ¬KeepsLast curl (verdict (curl last),last+1) := by
  obtain ⟨hnone,hend,j,hj,hobtained⟩ := hlost
  have hwithin := h.within
  rw [Nat.zero_add] at hwithin
  obtain ⟨hlast,-⟩ := h.used_up (hnone last hwithin)
  rw [Nat.zero_add] at hlast
  subst hlast
  intro hkeeps
  rw [verdict_not_obtained hend] at hkeeps
  rcases (hkeeps.network _ rfl).2 with ⟨k,hk,hpermanent⟩ | hnever
  · exact hnone k (Nat.lt_succ_iff.mp hk) (.inl hpermanent)
  · exact hnever j (Nat.lt_succ_of_lt hj) hobtained

end

/-- What a facade call sees of a request. -/
def answered (curl : Nat → Transfer) (maxRetries : UInt32) : Except Error HttpResponse :=
  (performWithRetry curl maxRetries).1.map fun r => ⟨r.statusCode,r.body⟩

/-- For every number of retries and every sequence of outcomes: the attempts are bounded, stop
at the first final outcome, and a response is never mixed from two of them; the last response
that was obtained is kept exactly if it does not happen that all attempts are used up, the last
one gets no response and an earlier one did. -/
theorem retry_keeps_last_iff (curl : Nat → Transfer) (maxRetries : UInt32) :
    RetriesWell curl maxRetries.toNat (performWithRetry curl maxRetries) ∧
    (KeepsLast curl (performWithRetry curl maxRetries) ↔ ¬ResponseLost curl maxRetries.toNat) := by
  obtain ⟨last,hlast,hrun⟩ := performWithRetry_spec curl maxRetries
  rw [hrun]
  refine ⟨retriesWell_of_last hlast,?_,keepsLast_of_last hlast⟩
  intro hkeeps hlost
  exact not_keepsLast_of_lost hlast hlost hkeeps

end HttpClient

namespace Sample

open HttpClient

/-- A 503 with a body, and time-outs from then on. -/
def flakyTransfers : Nat → Transfer
  | 0 => ⟨.ok,[[1,2,3]],["Retry-After: 1"],503⟩
  | _ => ⟨.operationTimedout,[],[],0⟩

/-- With two retries the 503 is forgotten. -/
theorem flaky_server_loses_response :
    (flakyTransfers 0).Obtained ∧ (performWithRetry flakyTransfers 2).2=3 ∧
    (∃ e,(performWithRetry flakyTransfers 2).1=.error e) ∧
    ¬KeepsLast flakyTransfers (performWithRetry flakyTransfers 2) := by
  have hlost : ResponseLost flakyTransfers 2 := by
    refine ⟨?_,by decide,0,by decide,by decide⟩
    intro j hj
    rcases settled_iff (flakyTransfers j) with ⟨-,hs⟩ | ⟨hfinal,-⟩
    · exfalso
      interval_cases j <;> cases hs
    · exact hfinal
  obtain ⟨last,hlast,hrun⟩ := performWithRetry_spec flakyTransfers 2
  have hend : last=2 := (hlast.used_up (hlost.1 last hlast.within)).1
  subst hend
  refine ⟨by decide,by rw [hrun],⟨.network,by rw [hrun]; rfl⟩,?_⟩
  rw [hrun]
  exact not_keepsLast_of_lost hlast hlost

end Sample

end V2xPki
