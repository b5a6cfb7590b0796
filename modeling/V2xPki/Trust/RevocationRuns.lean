import V2xPki.Framework.Journal
import V2xPki.Trust.Revocation

namespace V2xPki

/-- One call `apply(crl, now_tai)`. -/
structure ApplyCall where
  crl : CrlContents
  nowTai : Int
deriving DecidableEq

/-- What the call returns: false exactly for a list past its `next_update`. -/
def ApplyCall.returns (c : ApplyCall) : Bool :=
  !decide (0<c.crl.nextUpdate ∧ (c.crl.nextUpdate.toNat : Int)<c.nowTai)

namespace RevocationStore

open Framework

/-- The store a call leaves behind, whatever it returns. -/
def after (store : RevocationStore) (c : ApplyCall) : RevocationStore :=
  (store.apply c.crl c.nowTai).getD store

def afterAll (store : RevocationStore) (calls : List ApplyCall) : RevocationStore :=
  calls.foldl after store

/-- The calls that returned true, as writes to the set of an issuer. -/
def accepted (calls : List ApplyCall) : List (HashedId8 × CrlContents) :=
  (calls.filter (·.returns)).map fun c => (c.crl.issuerHid8,c.crl)

/-- The lists of one issuer that were accepted, oldest first. -/
def acceptedFor (i : HashedId8) (calls : List ApplyCall) : List CrlContents :=
  Journal.writesTo i (accepted calls)

/-- The answers for an issuer whose last accepted list is `crl`. -/
def listed (crl : CrlContents) (h : HashedId8) : Bool := decide (h∈crl.revoked)

def write (store : RevocationStore) (e : HashedId8 × CrlContents) : RevocationStore :=
  ⟨store.revoked.insert e.1 (Std.ExtTreeSet.ofList e.2.revoked)⟩

variable (store : RevocationStore) (c : ApplyCall)

theorem apply_eq : store.apply c.crl c.nowTai=
    if c.returns then some (store.write (c.crl.issuerHid8,c.crl)) else none := by
  unfold apply ApplyCall.returns
  by_cases h : 0<c.crl.nextUpdate ∧ (c.crl.nextUpdate.toNat : Int)<c.nowTai
  · rw [if_pos h]
    simp [h]
  · rw [if_neg h]
    simp [h,write]

theorem apply_isSome : (store.apply c.crl c.nowTai).isSome=c.returns := by
  rw [apply_eq]
  cases c.returns <;> rfl

theorem after_of_returns (h : c.returns=true) :
    store.after c=store.write (c.crl.issuerHid8,c.crl) := by
  rw [after,apply_eq,if_pos h,Option.getD_some]

theorem after_of_stale (h : c.returns=false) : store.after c=store := by
  rw [after,apply_eq,h]
  rfl

theorem isRevoked_write (e : HashedId8 × CrlContents) (i : HashedId8) :
    (store.write e).isRevoked i=if e.1=i then listed e.2 else store.isRevoked i := by
  funext h
  unfold isRevoked write
  rw [Std.ExtTreeMap.getElem?_insert]
  by_cases he : e.1=i
  · simp [he,listed]
  · have hne : compare e.1 i≠.eq := fun hc => he (Std.LawfulEqOrd.eq_of_compare hc)
    simp [he,hne]

theorem accepted_concat (calls : List ApplyCall) :
    accepted (calls++[c])=if c.returns then accepted calls++[(c.crl.issuerHid8,c.crl)]
      else accepted calls := by
  unfold accepted
  by_cases h : c.returns=true <;> simp [h]

theorem acceptedFor_concat (i : HashedId8) (calls : List ApplyCall) :
    acceptedFor i (calls++[c])=if c.returns ∧ c.crl.issuerHid8=i then acceptedFor i calls++[c.crl]
      else acceptedFor i calls := by
  unfold acceptedFor
  rw [accepted_concat]
  by_cases h : c.returns=true
  · simp only [h,if_true,true_and]
    exact Journal.writesTo_concat i (accepted calls) (c.crl.issuerHid8,c.crl)
  · simp [h]

/-- A run of calls is a journal: rejected calls write nothing. -/
theorem afterAll_eq (calls : List ApplyCall) :
    store.afterAll calls=(accepted calls).foldl write store := by
  induction calls using List.reverseRecOn with
  | nil => rfl
  | append_singleton calls c ih =>
    rw [accepted_concat,afterAll,List.foldl_append,List.foldl_cons,List.foldl_nil]
    change (store.afterAll calls).after c=_
    rw [ih]
    cases h : c.returns with
    | true => rw [after_of_returns _ _ h]; simp
    | false => rw [after_of_stale _ _ h]; simp

/-- The answers for an issuer are those of its last accepted list. -/
theorem isRevoked_afterAll (calls : List ApplyCall) (i : HashedId8) :
    (store.afterAll calls).isRevoked i=
      ((acceptedFor i calls).getLast?.map listed).getD (store.isRevoked i) := by
  rw [afterAll_eq]
  exact Journal.read_foldl (fun s e k => isRevoked_write s e k) (accepted calls) store i

theorem write_write (e : HashedId8 × CrlContents) : (store.write e).write e=store.write e := by
  refine congrArg mk (Std.ExtTreeMap.ext_getElem? ?_)
  intro k
  simp only [write,Std.ExtTreeMap.getElem?_insert]
  split <;> rfl

theorem mem_acceptedFor {i : HashedId8} {calls : List ApplyCall} {crl : CrlContents} :
    crl∈acceptedFor i calls ↔
      ∃ c∈calls,c.returns=true ∧ c.crl.issuerHid8=i ∧ c.crl=crl := by
  simp only [acceptedFor,Journal.writesTo,accepted,List.mem_map,List.mem_filter]
  constructor
  · intro h
    obtain ⟨e,⟨⟨c,⟨hc,hr⟩,rfl⟩,hi⟩,rfl⟩ := h
    exact ⟨c,hc,hr,by simpa using hi,rfl⟩
  · intro h
    obtain ⟨c,hc,hr,hi,rfl⟩ := h
    exact ⟨_,⟨⟨c,⟨hc,hr⟩,rfl⟩,by simpa using hi⟩,rfl⟩

theorem afterAll_concat (calls : List ApplyCall) :
    store.afterAll (calls++[c])=(store.afterAll calls).after c := by
  simp [afterAll]

/-- Right after an accepted call the set of its issuer is the one it lists, and no other
set has changed. -/
theorem isRevoked_after (h : c.returns=true) (i : HashedId8) :
    (store.after c).isRevoked i=
      if c.crl.issuerHid8=i then listed c.crl else store.isRevoked i := by
  rw [after_of_returns store c h,isRevoked_write]

/-- The accepted lists of an issuer decide its answers. -/
theorem apply_answers {i : HashedId8} {calls calls' : List ApplyCall}
    (h : acceptedFor i calls'=acceptedFor i calls) :
    (empty.afterAll calls').isRevoked i=(empty.afterAll calls).isRevoked i := by
  rw [isRevoked_afterAll,isRevoked_afterAll,h]

theorem isRevoked_empty (i h : HashedId8) : empty.isRevoked i h=false := by
  simp [isRevoked,empty]

/-- What a history of calls comes to: the accepted calls of an issuer decide its answers,
every answer goes back to an accepted call, a stale list changes nothing and neither does
a repeated one. -/
theorem apply_history :
    (∀ store (c : ApplyCall),(apply store c.crl c.nowTai).isSome=c.returns) ∧
    (∀ i calls calls',acceptedFor i calls=acceptedFor i calls' →
      (empty.afterAll calls).isRevoked i=(empty.afterAll calls').isRevoked i) ∧
    (∀ i h calls,(empty.afterAll calls).isRevoked i h=true →
      ∃ c∈calls,c.returns=true ∧ c.crl.issuerHid8=i ∧ h∈c.crl.revoked) ∧
    (∀ calls (c : ApplyCall),c.returns=true → ∀ h∈c.crl.revoked,
      (empty.afterAll (calls++[c])).isRevoked c.crl.issuerHid8 h=true) ∧
    (∀ store (c : ApplyCall),0<c.crl.nextUpdate → (c.crl.nextUpdate.toNat : Int)<c.nowTai →
      apply store c.crl c.nowTai=none ∧ after store c=store) ∧
    ∀ store crl now now',(apply store crl now).isSome=true →
      (after store ⟨crl,now⟩).after ⟨crl,now'⟩=after store ⟨crl,now⟩ := by
  refine ⟨apply_isSome,?_,?_,?_,?_,?_⟩
  · intro i calls calls' h
    exact apply_answers h
  · intro i h calls hr
    rw [isRevoked_afterAll] at hr
    cases hlast : (acceptedFor i calls).getLast? with
    | none => simp [hlast,isRevoked_empty] at hr
    | some crl =>
      obtain ⟨c,hc,hret,hi,rfl⟩ := mem_acceptedFor.mp (List.mem_of_getLast? hlast)
      exact ⟨c,hc,hret,hi,by simpa [hlast,listed] using hr⟩
  · intro calls c hc h hm
    rw [afterAll_concat,isRevoked_after _ c hc,if_pos rfl]
    simpa [listed] using hm
  · intro store c hnext hnow
    have hstale : c.returns=false := by simp [ApplyCall.returns,hnext,hnow]
    refine ⟨?_,after_of_stale store c hstale⟩
    rw [apply_eq,hstale]
    rfl
  · intro store crl now now' h
    have hret : ApplyCall.returns ⟨crl,now⟩=true := (apply_isSome store ⟨crl,now⟩).symm.trans h
    rw [after_of_returns store _ hret]
    cases hagain : ApplyCall.returns ⟨crl,now'⟩ with
    | true => rw [after_of_returns _ _ hagain,write_write]
    | false => rw [after_of_stale _ _ hagain]

/-- `crl` has a greater `this_update` than every other of the lists. -/
structure Newest (crls : List CrlContents) (crl : CrlContents) : Prop where
  mem : crl∈crls
  greatest : ∀ a∈crls,a≠crl → a.thisUpdate<crl.thisUpdate

/-- What "no rollback" asks of one issuer at the end of a history: of the two lists
accepted last, in whatever order, the newer one still holds, and all in all the newest. -/
structure RollbackFree (i : HashedId8) (calls : List ApplyCall) : Prop where
  pair : ∀ older newer rest,
    acceptedFor i calls=rest++[older,newer] ∨ acceptedFor i calls=rest++[newer,older] →
    older.thisUpdate<newer.thisUpdate →
    ∀ h∈newer.revoked,(empty.afterAll calls).isRevoked i h=true
  newest : ∀ crl,Newest (acceptedFor i calls) crl →
    (empty.afterAll calls).isRevoked i=listed crl

/-- Nothing is rolled back at any point of a history. -/
def NeverRollsBack (calls : List ApplyCall) : Prop :=
  ∀ done,done<+:calls → ∀ i,RollbackFree i done

/-- The condition on one call after `done`: a list older than the one accepted before it
for its issuer repeats its entries, and one that is not the newest lists what that lists. -/
structure InOrder (done : List ApplyCall) (c : ApplyCall) : Prop where
  previous : ∀ crl,(acceptedFor c.crl.issuerHid8 done).getLast?=some crl →
    c.crl.thisUpdate<crl.thisUpdate → ∀ h∈crl.revoked,h∈c.crl.revoked
  newest : ∀ crl,Newest (acceptedFor c.crl.issuerHid8 (done++[c])) crl →
    ∀ h,h∈c.crl.revoked ↔ h∈crl.revoked

/-- Every accepted call of a history meets the condition. -/
def ArrivesInOrder (calls : List ApplyCall) : Prop :=
  ∀ done c,done++[c]<+:calls → c.returns=true → InOrder done c

theorem rollbackFree_congr {i : HashedId8} {calls calls' : List ApplyCall}
    (h : acceptedFor i calls'=acceptedFor i calls) (hc : RollbackFree i calls) :
    RollbackFree i calls' := by
  have hsame := apply_answers h
  constructor
  · intro older newer rest hl hlt x hx
    rw [hsame]
    exact hc.pair older newer rest (h ▸ hl) hlt x hx
  · intro crl hn
    rw [hsame]
    exact hc.newest crl (h ▸ hn)

theorem listed_eq_iff {a b : CrlContents} :
    listed a=listed b ↔ ∀ h,h∈a.revoked ↔ h∈b.revoked := by
  simp [funext_iff,listed]

variable {done : List ApplyCall} {c : ApplyCall}

theorem acceptedFor_returns (h : c.returns=true) :
    acceptedFor c.crl.issuerHid8 (done++[c])=acceptedFor c.crl.issuerHid8 done++[c.crl] := by
  rw [acceptedFor_concat,if_pos ⟨h,rfl⟩]

theorem isRevoked_concat (h : c.returns=true) :
    (empty.afterAll (done++[c])).isRevoked c.crl.issuerHid8=listed c.crl := by
  rw [afterAll_concat,isRevoked_after _ c h,if_pos rfl]

/-- The issuer of an accepted list keeps its newest entries exactly under the condition. -/
theorem rollbackFree_concat (h : c.returns=true) :
    RollbackFree c.crl.issuerHid8 (done++[c]) ↔ InOrder done c := by
  have hacc : acceptedFor c.crl.issuerHid8 (done++[c])=_ := acceptedFor_returns h
  have hrev : (empty.afterAll (done++[c])).isRevoked c.crl.issuerHid8=_ := isRevoked_concat h
  constructor
  · intro hfree
    constructor
    · intro crl hlast hlt x hx
      obtain ⟨rest,hrest⟩ := List.getLast?_eq_some_iff.mp hlast
      have hpair : acceptedFor c.crl.issuerHid8 (done++[c])=rest++[crl,c.crl] := by
        rw [hacc,hrest,List.append_assoc]
        rfl
      have hx' := hfree.pair c.crl crl rest (.inr hpair) hlt x hx
      rw [hrev] at hx'
      simpa [listed] using hx'
    · intro crl hn
      exact listed_eq_iff.mp (hrev.symm.trans (hfree.newest crl hn))
  · intro hord
    constructor
    · intro older newer rest hl hlt x hx
      rw [hrev]
      have hmem : x∈c.crl.revoked := by
        rcases hl with hl | hl
        · -- the newer list came last, so it is the one just accepted
          have hend := congrArg List.getLast? (hacc.symm.trans hl)
          simp only [List.getLast?_append,List.getLast?_singleton,List.getLast?_cons_cons,
            Option.some_or,Option.some.injEq] at hend
          rw [hend]
          exact hx
        · have hsplit : acceptedFor c.crl.issuerHid8 done++[c.crl]=(rest++[newer])++[older] := by
            rw [← hacc,hl,List.append_assoc]
            rfl
          obtain ⟨hrest,hcrl⟩ := List.append_inj' hsplit rfl
          obtain rfl : c.crl=older := by simpa using hcrl
          exact hord.previous newer (by rw [hrest]; simp) hlt x hx
      simpa [listed] using hmem
    · intro crl hn
      rw [hrev]
      exact listed_eq_iff.mpr (hord.newest crl hn)

theorem acceptedFor_other {i : HashedId8} (h : ¬(c.returns=true ∧ c.crl.issuerHid8=i)) :
    acceptedFor i (done++[c])=acceptedFor i done := by
  rw [acceptedFor_concat,if_neg h]

/-- `apply` looks at `next_update` and the clock only, so nothing is rolled back exactly
in the histories whose accepted lists arrive in order. -/
theorem neverRollsBack_iff (calls : List ApplyCall) :
    NeverRollsBack calls ↔ ArrivesInOrder calls := by
  constructor
  · intro h done c hp hc
    exact (rollbackFree_concat hc).mp (h (done++[c]) hp c.crl.issuerHid8)
  · intro h done
    -- the condition is on every call before the end of `done`, so by induction from its end
    induction done using List.reverseRecOn with
    | nil =>
      intro _ i
      exact ⟨fun _ _ rest hl => by simp [acceptedFor,accepted,Journal.writesTo] at hl,
        fun crl hn => absurd hn.mem (by simp [acceptedFor,accepted,Journal.writesTo])⟩
    | append_singleton done c ih =>
      intro hp i
      by_cases hc : c.returns=true ∧ c.crl.issuerHid8=i
      · obtain ⟨hr,rfl⟩ := hc
        exact (rollbackFree_concat hr).mpr (h done c hp hr)
      · exact rollbackFree_congr (acceptedFor_other hc)
          (ih ((List.prefix_append done [c]).trans hp) i)

end RevocationStore

namespace Sample

open RevocationStore

def crlIssuer : HashedId8 := Vector.replicate 8 0xaa

def revokedCert : HashedId8 := Vector.replicate 8 1

/-- Two lists of one issuer that are fresh until 3000: the newer one revokes a
certificate, the older one does not know of it yet. -/
def newerCrl : CrlContents := ⟨crlIssuer,1000,3000,[revokedCert]⟩

def olderCrl : CrlContents := ⟨crlIssuer,500,3000,[]⟩

/-- The older list replayed after the newer one is accepted and reinstates the
certificate. -/
theorem replayed_crl_reinstates :
    olderCrl.thisUpdate<newerCrl.thisUpdate ∧
    (empty.apply newerCrl 2000).isSome=true ∧
    ((empty.after ⟨newerCrl,2000⟩).apply olderCrl 2000).isSome=true ∧
    (empty.afterAll [⟨newerCrl,2000⟩]).isRevoked crlIssuer revokedCert=true ∧
    (empty.afterAll [⟨newerCrl,2000⟩,⟨olderCrl,2000⟩]).isRevoked crlIssuer revokedCert=false ∧
    ¬NeverRollsBack [⟨newerCrl,2000⟩,⟨olderCrl,2000⟩] := by
  have hgone : (empty.afterAll [⟨newerCrl,2000⟩,⟨olderCrl,2000⟩]).isRevoked crlIssuer
      revokedCert=false := by decide +kernel
  refine ⟨by decide,by decide +kernel,by decide +kernel,by decide +kernel,hgone,?_⟩
  intro h
  have hlists : acceptedFor crlIssuer [⟨newerCrl,2000⟩,⟨olderCrl,2000⟩]=
      []++[newerCrl,olderCrl] := by decide +kernel
  have hkept := (h _ List.prefix_rfl crlIssuer).pair olderCrl newerCrl [] (.inr hlists)
    (by decide) revokedCert (by decide)
  rw [hkept] at hgone
  cases hgone

end Sample

end V2xPki
