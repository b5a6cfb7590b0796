import V2xPki.Cli.Enrol
import V2xPki.Trust.SignedList

namespace V2xPki

namespace Cli

open Framework PkiClient

section Items
variable (lib : Lib) (out : Outside) (a : Args)

def itemUrl (item : FetchItem) : String := a.pkiUrl++item.endpoint

def itemPath (item : FetchItem) : String := joinPath a.outDir item.filename

/-- The body that an item gets when this was asked for before. -/
def itemBody (item : FetchItem) (log : List Event) : Except Error Bytes :=
  okBody (out.answer log (.get (itemUrl a item))).response

/-- A write that is opened and ends with a good stream. -/
def goodStream : Fill → Bool
  | .notOpened => false
  | .filled _ reported => reported

/-- The item arrives, and the write of it is not seen to fail. -/
def ItemWorks (item : FetchItem) (log : List Event) : Prop :=
  (∃ body,itemBody out a item log=.ok body) ∧ goodStream (out.fill (itemPath a item))=true

instance (item : FetchItem) (log : List Event) : Decidable (ItemWorks out a item log) :=
  match h : itemBody out a item log with
  | .error _ => .isFalse (by simp [ItemWorks,h])
  | .ok _ => decidable_of_iff (goodStream (out.fill (itemPath a item))=true) (by simp [ItemWorks,h])

/-- The session after one item. -/
def afterItem (s : Session) (item : FetchItem) : Session :=
  match itemBody out a item s.events with
  | .error _ => s.asked (itemUrl a item)
  | .ok body =>
    let written := (s.asked (itemUrl a item)).wrote out (itemPath a item) body
    if goodStream (out.fill (itemPath a item)) && a.json then {written with
      printed := written.printed++
        trustItemText item.label (itemPath a item) body.length (parseCertSummary lib body).hid8}
    else written

/-- How many of the items do not work. -/
def failures : List FetchItem → List Event → Nat
  | [],_ => 0
  | item::items,log =>
    (if ItemWorks out a item log then 0 else 1)+failures items (.http (.get (itemUrl a item))::log)

/-- What was asked for before the item that comes next. -/
def logAfter (items : List FetchItem) (log : List Event) : List Event :=
  (items.map fun item => Event.http (.get (itemUrl a item))).reverse++log

variable {lib out a}

theorem overwrite_reported (files : Files UInt8) (name : String) (data : Bytes) (fill : Fill) :
    (files.overwrite name data fill).1=goodStream fill := by
  cases fill <;> rfl

theorem exec_fetchItem (errors : Nat) (item : FetchItem) (s : Session) :
    Op.exec (fetchItem lib out a errors item) s=
      (.ok (errors+if ItemWorks out a item s.events then 0 else 1),afterItem lib out a s item) := by
  unfold fetchItem
  rw [httpGet_bind]
  unfold afterItem
  have hbody : okBody (out.answer s.events (.get (a.pkiUrl++item.endpoint))).response=
      itemBody out a item s.events := rfl
  rw [hbody]
  cases h : itemBody out a item s.events with
  | error e =>
    have hnot : ¬ItemWorks out a item s.events := by simp [ItemWorks,h]
    rw [if_neg hnot]
    rfl
  | ok body =>
    dsimp only
    rw [writeFile_bind,overwrite_reported]
    cases hgood : goodStream (out.fill (joinPath a.outDir item.filename)) with
    | false =>
      have hnot : ¬ItemWorks out a item s.events := by simp [ItemWorks,itemPath,hgood]
      rw [if_neg hnot]
      simp only [itemPath,hgood]
      rfl
    | true =>
      have hworks : ItemWorks out a item s.events := ⟨⟨body,h⟩,hgood⟩
      rw [if_pos hworks]
      simp only [itemPath,hgood]
      unfold report
      cases a.json <;> rfl

theorem afterItem_events (item : FetchItem) (s : Session) :
    (afterItem lib out a s item).events=.http (.get (itemUrl a item))::s.events := by
  unfold afterItem
  split
  · rfl
  · dsimp only
    split <;> rfl

/-- What an item leaves in its file. -/
def itemFile (out : Outside) (a : Args) (item : FetchItem) (s : Session) : Option Bytes :=
  match itemBody out a item s.events with
  | .error _ => s.files (itemPath a item)
  | .ok body => (s.files.overwrite (itemPath a item) body (out.fill (itemPath a item))).2
      (itemPath a item)

theorem afterItem_files (item : FetchItem) (s : Session) :
    (afterItem lib out a s item).files (itemPath a item)=itemFile out a item s ∧
    ∀ name,name≠itemPath a item → (afterItem lib out a s item).files name=s.files name := by
  unfold afterItem itemFile
  cases itemBody out a item s.events with
  | error e => exact ⟨rfl,fun _ _ => rfl⟩
  | ok body =>
    dsimp only
    split
    · exact ⟨rfl,fun name hname => wrote_other hname⟩
    · exact ⟨rfl,fun name hname => wrote_other hname⟩

theorem exec_fetchItems (items : List FetchItem) (errors : Nat) (s : Session) :
    Op.exec (items.foldlM (fetchItem lib out a) errors) s=
      (.ok (errors+failures out a items s.events),items.foldl (afterItem lib out a) s) := by
  induction items generalizing errors s with
  | nil => rfl
  | cons item items ih =>
    rw [List.foldlM_cons,Op.exec_bind_of_ok (exec_fetchItem errors item s),ih,afterItem_events,
      failures,Nat.add_assoc,List.foldl_cons]

theorem foldl_afterItem_events (items : List FetchItem) (s : Session) :
    (items.foldl (afterItem lib out a) s).events=logAfter a items s.events := by
  induction items generalizing s with
  | nil => rfl
  | cons item items ih =>
    rw [List.foldl_cons,ih,afterItem_events]
    simp [logAfter]

theorem foldl_afterItem_other {items : List FetchItem} {name : String}
    (h : ∀ item∈items,name≠itemPath a item) (s : Session) :
    (items.foldl (afterItem lib out a) s).files name=s.files name := by
  induction items generalizing s with
  | nil => rfl
  | cons item items ih =>
    have hrest : ∀ other∈items,name≠itemPath a other := fun other hother => h other (by simp [hother])
    rw [List.foldl_cons,ih hrest]
    exact (afterItem_files item s).2 name (h item (by simp))

/-- Items with paths of their own do not get in each other's way. -/
theorem foldl_afterItem_file {before after : List FetchItem} {item : FetchItem}
    (hbefore : ∀ other∈before,itemPath a item≠itemPath a other)
    (hafter : ∀ other∈after,itemPath a item≠itemPath a other) (s : Session) :
    ((before++item::after).foldl (afterItem lib out a) s).files (itemPath a item)=
      itemFile out a item {s with events := logAfter a before s.events} := by
  rw [List.foldl_append,List.foldl_cons,foldl_afterItem_other hafter,(afterItem_files item _).1]
  unfold itemFile
  rw [foldl_afterItem_events]
  dsimp only
  cases itemBody out a item (logAfter a before s.events) with
  | error e => exact foldl_afterItem_other hbefore s
  | ok body => exact overwrite_congr (foldl_afterItem_other hbefore s)

/-- No item fails exactly if each one works when its turn comes. -/
theorem failures_eq_zero {items : List FetchItem} {log : List Event} :
    failures out a items log=0 ↔ ∀ before item after,items=before++item::after →
      ItemWorks out a item (logAfter a before log) := by
  induction items generalizing log with
  | nil => simp [failures]
  | cons first items ih =>
    rw [failures,Nat.add_eq_zero_iff,ih]
    have hfirst : (if ItemWorks out a first log then 0 else 1)=0 ↔ ItemWorks out a first log := by
      split <;> simp_all
    rw [hfirst]
    constructor
    · rintro ⟨hworks,hrest⟩ before item after hsplit
      cases before with
      | nil =>
        obtain ⟨rfl,rfl⟩ := List.cons.inj hsplit
        exact hworks
      | cons b before =>
        obtain ⟨rfl,htail⟩ := List.cons.inj hsplit
        have hitem := hrest before item after htail
        simpa [logAfter] using hitem
    · intro h
      refine ⟨h [] first items rfl,?_⟩
      rintro before item after rfl
      have hitem := h (first::before) item after rfl
      simpa [logAfter] using hitem

end Items

section
variable {lib : Lib} {out : Outside} {a : Args}

/-- The three items have three paths. -/
theorem itemPath_injective {first second : FetchItem} (hfirst : first∈fetchItems)
    (hsecond : second∈fetchItems) (h : itemPath a first=itemPath a second) : first=second := by
  have hnames : ∀ item∈fetchItems,7 ≤ item.filename.toList.length := by decide
  have hends := congrArg (ending 7) h
  rw [itemPath,itemPath,ending_joinPath (hnames _ hfirst),ending_joinPath (hnames _ hsecond)] at hends
  have happart : ∀ x∈fetchItems,∀ y∈fetchItems,ending 7 x.filename=ending 7 y.filename → x=y := by
    decide
  exact happart _ hfirst _ hsecond hends

/-- Nothing is asked for before the arguments and the directory are in order. -/
def FetchReady (out : Outside) (a : Args) : Prop :=
  a.pkiUrl.isEmpty=false ∧ a.outDir.isEmpty=false ∧ out.directory a.outDir=true

theorem exec_cmdFetchTrust (h : FetchReady out a) (s : Session) :
    Op.exec (cmdFetchTrust lib out a) s=
      (if failures out a fetchItems s.events=0 then .ok () else .error (.failed ""),
        fetchItems.foldl (afterItem lib out a) s) := by
  obtain ⟨hurl,hdir,hmade⟩ := h
  have hargs : (!(a.pkiUrl.isEmpty || a.outDir.isEmpty))=true := by
    rw [hurl,hdir]
    rfl
  rw [cmdFetchTrust,require,Op.exec_ensure_bind,if_pos hargs,createDirectories,
    Op.exec_ensure_bind,if_pos hmade,Op.exec_bind_of_ok (exec_fetchItems fetchItems 0 s),
    Nat.zero_add,require,Op.exec_ensure]
  simp only [beq_iff_eq]

/-- Once the arguments and the directory are in order, each item is asked for once and in turn,
whatever became of the ones before it; the program returns 0 exactly if all of them arrive and
are written; and what a file holds is the doing of its own item alone. -/
theorem fetch_trust_items (a : Args) (s : Session) :
    (¬FetchReady out a → (Op.exec (cmdFetchTrust lib out a) s).2=s ∧
      (Op.exec (cmdFetchTrust lib out a) s).1≠.ok ()) ∧
    (FetchReady out a →
      (Op.exec (cmdFetchTrust lib out a) s).2.events=logAfter a fetchItems s.events ∧
      ((Op.exec (cmdFetchTrust lib out a) s).1=.ok () ↔ ∀ before item after,
        fetchItems=before++item::after → ItemWorks out a item (logAfter a before s.events)) ∧
      ∀ before item after,fetchItems=before++item::after →
        (Op.exec (cmdFetchTrust lib out a) s).2.files (itemPath a item)=
          itemFile out a item {s with events := logAfter a before s.events}) := by
  constructor
  · intro hnot
    rw [cmdFetchTrust,require,Op.exec_ensure_bind]
    split
    · rename_i hargs
      rw [createDirectories,Op.exec_ensure_bind]
      split
      · rename_i hmade
        have hready : FetchReady out a := by
          simp only [Bool.not_eq_true',Bool.or_eq_false_iff] at hargs
          exact ⟨hargs.1,hargs.2,hmade⟩
        exact absurd hready hnot
      · exact ⟨rfl,by simp⟩
    · exact ⟨rfl,by simp⟩
  · intro hready
    rw [exec_cmdFetchTrust hready]
    refine ⟨foldl_afterItem_events fetchItems s,?_,?_⟩
    · rw [← failures_eq_zero]
      split <;> simp_all
    · intro before item after hsplit
      have hnodup : (before++item::after).Nodup := hsplit ▸ (by decide : fetchItems.Nodup)
      have hmem : ∀ x∈before++item::after,x∈fetchItems := fun x hx => hsplit ▸ hx
      have hapart : ∀ other∈before++after,itemPath a item≠itemPath a other := by
        intro other hother heq
        obtain rfl := itemPath_injective (hmem item (by simp)) (hmem other (by
          rcases List.mem_append.mp hother with h | h <;> simp [h])) heq
        exact (List.nodup_middle.mp hnodup).notMem hother
      rw [hsplit]
      exact foldl_afterItem_file (fun other h => hapart other (by simp [h]))
        (fun other h => hapart other (by simp [h])) s

end

section
variable (lib : Lib) (out : Outside) (a : Args)

/-- What `fetch-ectl` has found when it ends well. -/
structure EctlFetched (s t : Session) (body : Bytes) (topo : TrustTopology) : Prop where
  fetched : okBody (out.answer s.events (.get (ectlUrl a))).response=.ok body
  events : t.events=.http (.get (ectlUrl a))::s.events
  printed : t.printed=s.printed++if a.json then ectlText body.length (!a.tlmCert.isEmpty) topo else []
  saved : t.files=if a.out.isEmpty then s.files
    else (s.files.overwrite a.out body (out.fill a.out)).2
  verified : a.tlmCert.isEmpty=false → ∃ tlmBytes ctl,s.files a.tlmCert=some tlmBytes ∧
    TrustList.SignedList lib true
      (Cert.fromCoer lib (out.mem (.http (.get (ectlUrl a))::s.events) 0) tlmBytes) body ctl ∧
    topo=TrustList.setVerified (TrustList.parseCtlEntries lib
      (out.answer s.events (.get (ectlUrl a))).mem (out.answer s.events (.get (ectlUrl a))).nowTai
      ctl true) true true

variable {lib out a} {s t : Session}

theorem readTlm_ok {tlm : Option CertInfo} (h : Op.exec (readTlm lib out a) s=(.ok tlm,t)) :
    t=s ∧ tlm.isSome=!a.tlmCert.isEmpty ∧ ∀ ci,tlm=some ci → ∃ tlmBytes,s.files a.tlmCert=some tlmBytes ∧
      ci=Cert.fromCoer lib (out.mem s.events 0) tlmBytes := by
  unfold readTlm at h
  split at h
  · rename_i hempty
    cases h
    exact ⟨rfl,by rw [hempty]; rfl,by simp⟩
  · rename_i hnamed
    rw [(readFile_readsOnly _).bind] at h
    simp only [require_bind_ok,Op.get_bind] at h
    obtain ⟨hsome,-,h⟩ := h
    cases h
    refine ⟨rfl,by simp [hnamed],?_⟩
    intro ci hci
    cases hfile : s.files a.tlmCert with
    | none =>
      rw [hfile] at hsome
      cases hsome
    | some tlmBytes =>
      rw [hfile] at hci
      exact ⟨tlmBytes,rfl,(Option.some.inj hci).symm⟩

theorem exec_report (text : Bytes) (s : Session) : Op.exec (report a text) s=
    (.ok ⟨⟩,{s with printed := s.printed++if a.json then text else []}) := by
  unfold report
  cases a.json with
  | false =>
    show _=(_,{s with printed := s.printed++[]})
    rw [List.append_nil]
    rfl
  | true => rfl

theorem cmdFetchEctl_ok (h : Op.exec (cmdFetchEctl lib out a) s=(.ok ⟨⟩,t)) :
    ∃ body topo,EctlFetched lib out a s t body topo := by
  unfold cmdFetchEctl at h
  simp only [require_bind_ok,httpGet_bind,Op.lift_bind_ok] at h
  obtain ⟨-,body,hbody,h⟩ := h
  obtain ⟨tlm,u,htlm,hrest⟩ := Op.bind_ok.mp h
  obtain ⟨rfl,hsome,hcert⟩ := readTlm_ok htlm
  simp only [require_bind_ok,Op.lift_bind_ok] at hrest
  obtain ⟨topo,htopo,hverified,hend⟩ := hrest
  have hword : (tlm.isSome && topo.ectlSignatureVerified)=!a.tlmCert.isEmpty := by
    have hflags : ∀ e f : Bool,(!(!e && !(!e && f)))=true → (!e && f)=!e := by decide
    rw [hsome] at hverified ⊢
    exact hflags _ _ hverified
  rw [hword,Op.exec_bind_of_ok (exec_report _ _)] at hend
  have hleft : t={s.asked (ectlUrl a) with
      printed := s.printed++if a.json then ectlText body.length (!a.tlmCert.isEmpty) topo else []
      files := if a.out.isEmpty then s.files else (s.files.overwrite a.out body (out.fill a.out)).2} := by
    cases hout : a.out.isEmpty with
    | true =>
      rw [hout,if_pos rfl] at hend
      cases hend
      rfl
    | false =>
      rw [hout] at hend
      cases hend
      rfl
  refine ⟨body,topo,fetchBody_ok.mp hbody,by rw [hleft]; rfl,by rw [hleft],by rw [hleft],?_⟩
  intro hnamed
  rw [hnamed] at hsome hword
  obtain ⟨ci,rfl⟩ := Option.isSome_iff_exists.mp hsome
  obtain ⟨tlmBytes,hfile,rfl⟩ := hcert ci rfl
  obtain ⟨ctl,hsigned,htopology⟩ := TrustList.decodeCtlCommon_verified lib (mapError_ok htopo)
    (by simpa [TrustList.verifiedFlag] using hword)
  exact ⟨tlmBytes,ctl,hfile,hsigned,htopology⟩

/-- An ECTL that is refused is neither reported nor saved. -/
theorem cmdFetchEctl_failsClean :
    Op.FailsClean (fun s : Session => (s.files,s.printed)) (cmdFetchEctl lib out a) := by
  refine Op.failsClean_bind (keeps_require _ _) fun _ => ?_
  refine Op.failsClean_bind (fun _ => rfl) fun resp => ?_
  refine Op.failsClean_bind (Op.keeps_lift _) fun body => ?_
  refine Op.failsClean_bind (keeps_readTlm a) fun tlm => ?_
  refine Op.failsClean_bind (Op.keeps_lift _) fun topo => ?_
  refine Op.failsClean_bind (keeps_require _ _) fun _ => ?_
  refine (Op.total_bind (total_report _) fun _ => ?_).failsClean
  split
  · exact Op.total_pure _
  · exact Op.total_bind (total_writeFile _ _) fun _ => Op.total_pure _

/-- With a TLM certificate the program returns 0, calls the list verified and saves it only if the
list is signed by this certificate; without one it never calls it verified; and when it fails
nothing is printed and no file is touched. -/
theorem ectl_verified_only_if_signed (a : Args) (s : Session) :
    (∀ t,Op.exec (cmdFetchEctl lib out a) s=(.ok ⟨⟩,t) →
      ∃ body topo,EctlFetched lib out a s t body topo) ∧
    ∀ e t,Op.exec (cmdFetchEctl lib out a) s=(.error e,t) →
      t.files=s.files ∧ t.printed=s.printed := by
  constructor
  · intro t h
    exact cmdFetchEctl_ok h
  · intro e t h
    exact Prod.mk.inj (cmdFetchEctl_failsClean s e t h)

end

end Cli

end V2xPki
