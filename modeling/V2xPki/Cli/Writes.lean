import V2xPki.Cli.Commands
import V2xPki.Framework.Frame

namespace V2xPki

namespace Cli

open Framework PkiClient PlaintextFileKeyStore

/-- The key pair that a key file holds. -/
def savedKey (pem : KeyPem) (content : Option Bytes) : Option KeyPair := do
  let content ← content
  let pkey ← pem.read content
  extractKeypair pkey

def enrolFiles (a : Args) : List String :=
  [trustPath a++"/ea.cert",trustPath a++"/rca.cert",joinPath a.keystoreDir "canonical.id",ecPath a]

def requestAtFiles (a : Args) : List String :=
  [trustPath a++"/aa.cert",trustPath a++"/rca.cert",trustPath a++"/ea.cert",atPath a]

/-- What an invocation may write, but for the keys. -/
def writes (a : Args) : List String :=
  if a.command="fetch-trust" then fetchItems.map fun item => joinPath a.outDir item.filename
  else if a.command="fetch-ectl" then [a.out]
  else if a.command="enrol" then enrolFiles a
  else if a.command="request-at" then requestAtFiles a
  else []

/-- An invocation with these arguments leaves the file alone as long as it meets `J`: an
enrolment makes a key only where none can be loaded, and a ticket request makes one under its
second handle. -/
structure Spares (pem : KeyPem) (J : Option Bytes → Prop) (a : Args) (name : String) : Prop where
  others : name∉writes a
  enrolKey : a.command="enrol" → ∀ handle,KeyHandle.ofString (keyId a)=some handle →
    joinPath a.keystoreDir (pemName handle)=name → ∀ c,J c → (savedKey pem c).isSome=true
  ticketKey : a.command="request-at" → ∀ handle,KeyHandle.ofString (keyId a++"-at")=some handle →
    joinPath a.keystoreDir (pemName handle)≠name

/-- One file of a session. -/
def fileAt (name : String) (s : Session) : Option Bytes := s.files name

section
variable {lib : Lib} {pem : KeyPem} {out : Outside} {J : Option Bytes → Prop} {name : String}

theorem loadKeypair_inDirectory (files : Files UInt8) (dir : String) (handle : KeyHandle) :
    loadKeypair pem (inDirectory files dir) handle=
      savedKey pem (files (joinPath dir (pemName handle))) := rfl

theorem exec_writeFile (path : String) (data : Bytes) (s : Session) :
    Op.exec (writeFile out path data) s=
      (.ok (s.files.overwrite path data (out.fill path)).1,
        {s with files := (s.files.overwrite path data (out.fill path)).2}) := rfl

theorem loadKey_readsOnly (dir : String) (handle : KeyHandle) :
    Op.ReadsOnly (fun s : Session => loadKeypair pem (inDirectory s.files dir) handle)
      (loadKey pem dir handle) := fun _ => rfl

theorem readFile_readsOnly (path : String) :
    Op.ReadsOnly (fun s : Session => (s.files path).getD []) (readFile path) := fun _ => rfl

theorem keeps_require {τ : Type} {view : Session → τ} (c : Bool) (message : String) :
    Op.Keeps view (require c message) := Op.keeps_ensure c _

theorem keeps_createDirectories {τ : Type} {view : Session → τ} (dir : String) :
    Op.Keeps view (createDirectories out dir) := Op.keeps_ensure _ _

theorem keeps_print (text : Bytes) : Op.Keeps (fileAt name) (print text) := fun _ => rfl

theorem keeps_httpGet (url : String) : Op.Keeps (fileAt name) (httpGet out url) := fun _ => rfl

theorem keeps_writeFile {path : String} (h : name≠path) (data : Bytes) :
    Op.Keeps (fileAt name) (writeFile out path data) := by
  intro s
  rw [exec_writeFile]
  exact Files.overwrite_other h _

theorem keeps_callClient {α : Type} (client : ClientState) (dir : String) (m : World → ClientM α) :
    Op.Keeps (fileAt name) (callClient pem out client dir m) := fun _ => rfl

theorem keeps_newClient {τ : Type} {view : Session → τ} (cfg : PkiClientConfig) (dir : String) :
    Op.Keeps view (newClient lib out cfg dir) := by
  refine Op.keeps_bind (keeps_createDirectories dir) fun _ => ?_
  exact Op.keeps_bind Op.keeps_get fun s => Op.keeps_pure _

theorem keeps_storeKey {dir : String} {handle : KeyHandle} (h : name≠joinPath dir (pemName handle))
    (kp : KeyPair) : Op.Keeps (fileAt name) (storeKey pem out dir handle kp) := by
  unfold storeKey
  cases buildPkey pem kp with
  | none => exact Op.keeps_pure ()
  | some pkey => exact Op.keeps_bind (keeps_writeFile h _) fun _ => Op.keeps_pure ()

variable (a : Args)

theorem keeps_report (text : Bytes) : Op.Keeps (fileAt name) (report a text) := by
  unfold report
  split
  · exact keeps_print text
  · exact Op.keeps_pure _

theorem keeps_cmdProbe (path : String) : Op.Keeps (fileAt name) (cmdProbe out a path) := by
  refine Op.keeps_bind (keeps_require _ _) fun _ => ?_
  refine Op.keeps_bind (keeps_httpGet _) fun resp => ?_
  exact Op.keeps_bind (Op.keeps_lift _) fun body => keeps_print _

theorem keeps_cmdLookupCert : Op.Keeps (fileAt name) (cmdLookupCert lib out a) := by
  refine Op.keeps_bind (keeps_require _ _) fun _ => ?_
  refine Op.keeps_bind (keeps_httpGet _) fun resp => ?_
  refine Op.keeps_bind (Op.keeps_lift _) fun body => ?_
  exact Op.keeps_bind (keeps_require _ _) fun _ => keeps_report a _

theorem keeps_cmdVerifyHid8 : Op.Keeps (fileAt name) (cmdVerifyHid8 lib a) := by
  refine Op.keeps_bind (keeps_require _ _) fun _ => ?_
  refine Op.keeps_bind (readFile_readsOnly _).keeps fun data => ?_
  exact Op.keeps_bind (keeps_require _ _) fun _ => keeps_report a _

theorem keeps_cmdDiscover : Op.Keeps (fileAt name) (cmdDiscover lib pem out a) := by
  refine Op.keeps_bind (keeps_require _ _) fun _ => ?_
  refine Op.keeps_bind (keeps_createDirectories _) fun _ => ?_
  refine Op.keeps_bind (keeps_newClient _ _) fun client => ?_
  refine Op.keeps_bind (keeps_callClient _ _ _) fun topo => ?_
  exact Op.keeps_bind (Op.keeps_lift _) fun topo => keeps_report a _

theorem keeps_cmdInfo (version : Bytes) : Op.Keeps (fileAt name) (cmdInfo a version) :=
  keeps_report a _

theorem keeps_readTlm {τ : Type} {view : Session → τ} : Op.Keeps view (readTlm lib out a) := by
  unfold readTlm
  split
  · exact Op.keeps_pure none
  · refine Op.keeps_bind (readFile_readsOnly _).keeps fun tlmBytes => ?_
    refine Op.keeps_bind (keeps_require _ _) fun _ => ?_
    refine Op.keeps_bind Op.keeps_get fun s => ?_
    exact Op.keeps_bind (keeps_require _ _) fun _ => Op.keeps_pure _

theorem keeps_fetchItem {item : FetchItem} (h : name≠joinPath a.outDir item.filename)
    (errors : Nat) : Op.Keeps (fileAt name) (fetchItem lib out a errors item) := by
  refine Op.keeps_bind (keeps_httpGet _) fun resp => ?_
  cases okBody resp.response with
  | error e => exact Op.keeps_pure _
  | ok body =>
    refine Op.keeps_bind (keeps_writeFile h body) fun written => ?_
    cases written with
    | false => exact Op.keeps_pure _
    | true => exact Op.keeps_bind (keeps_report a _) fun _ => Op.keeps_pure errors

theorem keeps_cmdFetchTrust (h : ∀ item∈fetchItems,name≠joinPath a.outDir item.filename) :
    Op.Keeps (fileAt name) (cmdFetchTrust lib out a) := by
  refine Op.keeps_bind (keeps_require _ _) fun _ => ?_
  refine Op.keeps_bind (keeps_createDirectories _) fun _ => ?_
  have hitems : ∀ errors,∀ item∈fetchItems,
      Op.Keeps (fileAt name) (fetchItem lib out a errors item) :=
    fun errors item hitem => keeps_fetchItem a (h item hitem) errors
  exact Op.keeps_bind (Op.keeps_foldlM hitems 0) fun errors => keeps_require _ _

theorem keeps_cmdFetchEctl (h : name≠a.out) : Op.Keeps (fileAt name) (cmdFetchEctl lib out a) := by
  refine Op.keeps_bind (keeps_require _ _) fun _ => ?_
  refine Op.keeps_bind (keeps_httpGet _) fun resp => ?_
  refine Op.keeps_bind (Op.keeps_lift _) fun body => ?_
  refine Op.keeps_bind (keeps_readTlm a) fun tlm => ?_
  refine Op.keeps_bind (Op.keeps_lift _) fun topo => ?_
  refine Op.keeps_bind (keeps_require _ _) fun _ => ?_
  refine Op.keeps_bind (keeps_report a _) fun _ => ?_
  split
  · exact Op.keeps_pure _
  · exact Op.keeps_bind (keeps_writeFile h _) fun _ => Op.keeps_pure _

theorem keeps_saveBody {τ : Type} {view : Session → τ} {path : String}
    (h : ∀ data,Op.Keeps view (writeFile out path data)) (a : Answer) :
    Op.Keeps view (saveBody out path a) := by
  unfold saveBody
  cases okBody a.response with
  | error e => exact Op.keeps_pure ()
  | ok body => exact Op.keeps_bind (h body) fun _ => Op.keeps_pure ()

/-- A key file from which a key is loaded is left alone, and so is every other file. -/
theorem keepsWhile_canonicalKeypair {dir : String} {handle : KeyHandle} {curve : Curve}
    (hkey : joinPath dir (pemName handle)=name → ∀ c,J c → (savedKey pem c).isSome=true) :
    Op.KeepsWhile J (fileAt name) (canonicalKeypair lib pem out dir handle curve) := by
  refine Op.keepsWhile_read (loadKey_readsOnly dir handle) fun s hs => ?_
  rw [loadKeypair_inDirectory]
  cases hload : savedKey pem (s.files (joinPath dir (pemName handle))) with
  | some kp => rfl
  | none =>
    have hne : name≠joinPath dir (pemName handle) := by
      rintro rfl
      have hsome := hkey rfl _ hs
      rw [fileAt,hload] at hsome
      cases hsome
    have hmake : Op.Keeps (fileAt name) (do
        let s ← get
        let kp ← Op.need (Crypto.generateKeypair lib.ssl curve (out.scalar s.events))
          (.failed "error: keygen failed")
        storeKey pem out dir handle kp
        pure kp) := by
      refine Op.keeps_bind Op.keeps_get fun s => ?_
      refine Op.keeps_bind (Op.keeps_need _ _) fun kp => ?_
      exact Op.keeps_bind (keeps_storeKey hne kp) fun _ => Op.keeps_pure kp
    exact hmake s

theorem keepsWhile_cmdEnrol (h : name∉enrolFiles a)
    (hkey : ∀ handle,KeyHandle.ofString (keyId a)=some handle →
      joinPath a.keystoreDir (pemName handle)=name → ∀ c,J c → (savedKey pem c).isSome=true) :
    Op.KeepsWhile J (fileAt name) (cmdEnrol lib pem out a) := by
  have hne : ∀ path∈enrolFiles a,name≠path := fun path hpath heq => h (heq ▸ hpath)
  refine Op.keepsWhile_bind (keeps_require _ _).while fun _ => ?_
  refine Op.keepsWhile_bind (keeps_createDirectories _).while fun _ => ?_
  refine Op.keepsWhile_bind (keeps_createDirectories _).while fun _ => ?_
  refine Op.keepsWhile_bind (keeps_httpGet _).while fun eaResp => ?_
  refine Op.keepsWhile_bind (Op.keeps_lift _).while fun ea => ?_
  refine Op.keepsWhile_bind (keeps_writeFile (hne _ (by simp [enrolFiles])) ea).while fun _ => ?_
  refine Op.keepsWhile_bind (keeps_httpGet _).while fun rcaResp => ?_
  refine Op.keepsWhile_bind (Op.keeps_lift _).while fun rca => ?_
  refine Op.keepsWhile_bind (keeps_writeFile (hne _ (by simp [enrolFiles])) rca).while fun _ => ?_
  refine Op.keepsWhile_bind (keeps_newClient _ _).while fun client => ?_
  refine Op.keepsWhile_need fun handle hhandle => ?_
  refine Op.keepsWhile_bind (keepsWhile_canonicalKeypair (hkey handle hhandle)) fun kp => ?_
  refine Op.keepsWhile_bind (keeps_require _ _).while fun _ => ?_
  refine Op.keepsWhile_bind (keeps_writeFile (hne _ (by simp [enrolFiles])) _).while fun _ => ?_
  refine Op.keepsWhile_bind (keeps_callClient _ _ _).while fun result => ?_
  refine Op.keepsWhile_bind (Op.keeps_lift _).while fun ci => ?_
  refine Op.keepsWhile_bind (keeps_writeFile (hne _ (by simp [enrolFiles])) _).while fun _ => ?_
  exact (keeps_report a _).while

theorem keeps_readCanonicalId {τ : Type} {view : Session → τ} :
    Op.Keeps view (readCanonicalId a) := by
  refine Op.keeps_bind Op.keeps_get fun s => ?_
  exact Op.keeps_bind (keeps_require _ _) fun _ => Op.keeps_pure _

/-- Up to its keys a ticket request asks for three things and saves them. -/
theorem keeps_prepareTicket {τ : Type} {view : Session → τ}
    (hget : ∀ url,Op.Keeps view (httpGet out url))
    (hwrite : ∀ file∈["/aa.cert","/ea.cert","/rca.cert"],∀ data,
      Op.Keeps view (writeFile out (trustPath a++file) data)) :
    Op.Keeps view (prepareTicket lib pem out a) := by
  refine Op.keeps_bind (keeps_require _ _) fun _ => ?_
  refine Op.keeps_bind (hget _) fun aaResp => ?_
  refine Op.keeps_bind (hget _) fun eaResp => ?_
  refine Op.keeps_bind (Op.keeps_lift _) fun aa => ?_
  refine Op.keeps_bind (keeps_createDirectories _) fun _ => ?_
  refine Op.keeps_bind (hwrite _ (by simp) aa) fun _ => ?_
  refine Op.keeps_bind (hget _) fun rcaResp => ?_
  refine Op.keeps_bind (Op.keeps_lift _) fun rca => ?_
  refine Op.keeps_bind (hwrite _ (by simp) rca) fun _ => ?_
  refine Op.keeps_bind (keeps_saveBody (hwrite _ (by simp)) eaResp) fun _ => ?_
  refine Op.keeps_bind (keeps_readCanonicalId a) fun _ => ?_
  refine Op.keeps_bind (readFile_readsOnly _).keeps fun ecCertBytes => ?_
  refine Op.keeps_bind (keeps_require _ _) fun _ => ?_
  refine Op.keeps_bind (keeps_newClient _ _) fun client => ?_
  refine Op.keeps_bind (Op.keeps_need _ _) fun handle => ?_
  refine Op.keeps_bind (loadKey_readsOnly _ _).keeps fun existing => ?_
  refine Op.keeps_bind (Op.keeps_need _ _) fun kp => ?_
  refine Op.keeps_bind (Op.keeps_need _ _) fun ecCertSb => ?_
  refine Op.keeps_bind Op.keeps_get fun s => ?_
  refine Op.keeps_bind (Op.keeps_lift _) fun ea => ?_
  exact Op.keeps_bind (Op.keeps_need _ _) fun atKp => Op.keeps_pure _

theorem keeps_cmdRequestAt (h : name∉requestAtFiles a)
    (hkey : ∀ handle,KeyHandle.ofString (keyId a++"-at")=some handle →
      joinPath a.keystoreDir (pemName handle)≠name) :
    Op.Keeps (fileAt name) (cmdRequestAt lib pem out a) := by
  have hne : ∀ path∈requestAtFiles a,name≠path := fun path hpath heq => h (heq ▸ hpath)
  have hdownloads : ∀ file∈["/aa.cert","/ea.cert","/rca.cert"],∀ data,
      Op.Keeps (fileAt name) (writeFile out (trustPath a++file) data) := by
    intro file hfile data
    apply keeps_writeFile
    apply hne
    revert file
    simp [requestAtFiles]
  refine Op.keeps_bind (keeps_prepareTicket a keeps_httpGet hdownloads) fun e => ?_
  refine Op.keeps_needed fun atHandle hatHandle => ?_
  refine Op.keeps_bind (keeps_storeKey (Ne.symm (hkey atHandle hatHandle)) e.made) fun _ => ?_
  refine Op.keeps_bind (keeps_callClient _ _ _) fun result => ?_
  refine Op.keeps_bind (Op.keeps_lift _) fun ci => ?_
  refine Op.keeps_bind (keeps_writeFile (hne _ (by simp [requestAtFiles])) _) fun _ => ?_
  exact keeps_report a _

end

section
variable {lib : Lib} {pem : KeyPem} {out : Outside} {version : Bytes} {J : Option Bytes → Prop}
  {name : String}

/-- The program ends with a message before it does anything, or it runs the command that is
named. -/
theorem main_cases (argv : List String) :
    (∃ message,main lib pem out version argv=Op.lift (.error (.failed message))) ∨
    ∃ cmd∈commands lib pem out version,cmd.1=(parseArgs argv).command ∧
      main lib pem out version argv=cmd.2 (parseArgs argv) := by
  unfold main
  split
  · exact .inl ⟨_,rfl⟩
  · cases hfind : (commands lib pem out version).find? (·.1==(parseArgs argv).command) with
    | none =>
      refine .inl ⟨"error: unknown command '"++(parseArgs argv).command++"'",?_⟩
      simp only [hfind]
    | some cmd =>
      have hname := List.find?_some hfind
      exact .inr ⟨cmd,List.mem_of_find?_eq_some hfind,beq_iff_eq.mp hname,by simp only [hfind]⟩

theorem main_command {argv : List String} {cmd : String × (Args → CommandM PUnit)}
    (hnamed : (parseArgs argv).command≠"")
    (hfind : (commands lib pem out version).find? (·.1==(parseArgs argv).command)=some cmd) :
    main lib pem out version argv=cmd.2 (parseArgs argv) := by
  have hlong : ¬argv.length<2 := by
    intro hshort
    apply hnamed
    match argv with
    | [] => rfl
    | [prog] => rfl
    | _::_::_ => simp at hshort
  unfold main
  rw [if_neg hlong]
  simp only [hfind]

theorem main_keepsWhile {argv : List String} (h : Spares pem J (parseArgs argv) name) :
    Op.KeepsWhile J (fileAt name) (main lib pem out version argv) := by
  obtain ⟨hothers,henrol,hticket⟩ := h
  rcases main_cases argv with ⟨message,hmain⟩ | ⟨cmd,hmem,hname,hmain⟩
  · rw [hmain]
    exact (Op.keeps_lift _).while
  · rw [hmain]
    unfold writes at hothers
    rw [← hname] at hothers henrol hticket
    simp only [commands,List.mem_cons,List.not_mem_nil,or_false] at hmem
    rcases hmem with rfl | rfl | rfl | rfl | rfl | rfl | rfl | rfl | rfl | rfl
    · exact (keeps_cmdProbe _ _).while
    · exact (keeps_cmdProbe _ _).while
    · exact (keeps_cmdInfo _ _).while
    · exact (keeps_cmdDiscover _).while
    · have hitems : ∀ item∈fetchItems,name≠joinPath (parseArgs argv).outDir item.filename := by
        intro item hitem heq
        apply hothers
        rw [if_pos rfl]
        exact List.mem_map.mpr ⟨item,hitem,heq.symm⟩
      exact (keeps_cmdFetchTrust _ hitems).while
    · exact (keeps_cmdLookupCert _).while
    · exact (keeps_cmdFetchEctl _ (by simpa using hothers)).while
    · exact (keeps_cmdVerifyHid8 _).while
    · exact keepsWhile_cmdEnrol _ (by simpa using hothers) (henrol rfl)
    · exact (keeps_cmdRequestAt _ (by simpa using hothers) (hticket rfl)).while

end

/-- One run of the program. -/
structure Invocation where
  out : Outside
  argv : List String

def Invocation.args (i : Invocation) : Args := parseArgs i.argv

section
variable (lib : Lib) (pem : KeyPem) (version : Bytes)

def Invocation.result (i : Invocation) (s : Session) : Except Ending PUnit × Session :=
  Op.exec (main lib pem i.out version i.argv) s

/-- What is left after one run after another. -/
def invokeAll (is : List Invocation) (s : Session) : Session :=
  is.foldl (fun s i => (i.result lib pem version s).2) s

variable {lib pem version}

theorem invokeAll_split (before after : List Invocation) (i : Invocation) (s : Session) :
    invokeAll lib pem version (before++i::after) s=invokeAll lib pem version after
      (i.result lib pem version (invokeAll lib pem version before s)).2 := by
  rw [invokeAll,List.foldl_append]
  rfl

/-- A file outlives every run in which each invocation spares it. -/
theorem invokeAll_spares {J : Option Bytes → Prop} {name : String} {is : List Invocation}
    {s : Session} (hJ : J (s.files name)) (h : ∀ i∈is,Spares pem J i.args name) :
    (invokeAll lib pem version is s).files name=s.files name := by
  induction is generalizing s with
  | nil => rfl
  | cons i is ih =>
    have hstep : (i.result lib pem version s).2.files name=s.files name :=
      main_keepsWhile (h i (by simp)) s hJ
    have hrest := @ih (i.result lib pem version s).2 (hstep ▸ hJ) fun j hj => h j (by simp [hj])
    exact hrest.trans hstep

end

end Cli

end V2xPki
