import V2xPki.Trust.TrustChain

namespace V2xPki

structure EaInfo where
  cert : CertInfo
  aaAccessPoint : String
  itsAccessPoint : String
deriving DecidableEq

structure AaInfo where
  cert : CertInfo
  accessPoint : String
deriving DecidableEq

structure DcInfo where
  url : String
  serves : List HashedId8
deriving DecidableEq

structure TrustTopology where
  tlm : Option CertInfo := none
  rcas : List CertInfo := []
  eas : List EaInfo := []
  aas : List AaInfo := []
  dcs : List DcInfo := []
  ectlSignatureVerified : Bool := false
  ctlSignatureVerified : Bool := false
  ectlNextUpdate : UInt32 := 0
  ctlNextUpdate : UInt32 := 0
  ectlExpired : Bool := false
  ctlExpired : Bool := false
deriving DecidableEq

namespace TrustList
variable (lib : Lib)

/-- `cert_ptr_to_info`: the identifier is taken over a re-encoding of the structure. -/
def certPtrToInfo (uninit : HashedId8) (cert : Option Asn.CertificateBase) (label : String) :
    Option CertInfo := do
  let c ← cert
  let certCoer := Coer.encode lib.asn.etsiTs103097Certificate c
  if certCoer.isEmpty then none
  else some {Cert.fromStruct lib uninit c certCoer with label := label}

/-- The entry of an `add` command; every other command is skipped. -/
def addedEntry : Option Asn.CtlCommand → Option Asn.CtlEntry
  | some (.add entry) => entry
  | _ => none

def rcaInfo? (uninit : HashedId8) : Asn.CtlEntry → Option CertInfo
  | .rca (some rca) => certPtrToInfo lib uninit rca.selfsignedRootCa "rca"
  | _ => none

def eaInfo? (uninit : HashedId8) : Asn.CtlEntry → Option EaInfo
  | .ea (some ea) => (certPtrToInfo lib uninit ea.eaCertificate "ea").map fun ci =>
      ⟨ci,stringOfBytes ea.aaAccessPoint,(ea.itsAccessPoint.map stringOfBytes).getD ""⟩
  | _ => none

def aaInfo? (uninit : HashedId8) : Asn.CtlEntry → Option AaInfo
  | .aa (some aa) => (certPtrToInfo lib uninit aa.aaCertificate "aa").map fun ci =>
      ⟨ci,stringOfBytes aa.accessPoint⟩
  | _ => none

def dcInfo? : Asn.CtlEntry → Option DcInfo
  | .dc (some dc) => some ⟨stringOfBytes dc.url,
      dc.cert.filterMap fun h => h.bind HashedId8.ofBytes⟩
  | _ => none

def tlmInfo? (uninit : HashedId8) : Asn.CtlEntry → Option CertInfo
  | .tlm (some tlm) => certPtrToInfo lib uninit tlm.selfSignedTLMCertificate "tlm"
  | _ => none

/-- One turn of the switch in `parse_ctl_entries`. -/
def parseEntry (uninit : HashedId8) (topo : TrustTopology) (entry : Asn.CtlEntry) :
    TrustTopology := match entry with
  | .rca _ => {topo with rcas := topo.rcas++(rcaInfo? lib uninit entry).toList}
  | .ea _ => {topo with eas := topo.eas++(eaInfo? lib uninit entry).toList}
  | .aa _ => {topo with aas := topo.aas++(aaInfo? lib uninit entry).toList}
  | .dc _ => {topo with dcs := topo.dcs++(dcInfo? entry).toList}
  | .tlm _ => match tlmInfo? lib uninit entry with
    | some ci => {topo with tlm := some ci}
    | none => topo
  | .other _ => topo

def parseCommand (uninit : HashedId8) (topo : TrustTopology) (cmd : Option Asn.CtlCommand) :
    TrustTopology := match addedEntry cmd with
  | some entry => parseEntry lib uninit topo entry
  | none => topo

/-- A list is past its `nextUpdate`; 0 means that none is given. -/
def expired (nextUpdate : UInt32) (nowTai : Int) : Bool :=
  decide (0<nextUpdate ∧ (nextUpdate.toNat : Int)<nowTai)

def stampUpdate (ctl : Asn.CtlFormat) (isEctl : Bool) (nowTai : Int) : TrustTopology :=
  if isEctl then
    {ectlNextUpdate := ctl.nextUpdate,ectlExpired := expired ctl.nextUpdate nowTai}
  else {ctlNextUpdate := ctl.nextUpdate,ctlExpired := expired ctl.nextUpdate nowTai}

/-- `parse_ctl_entries` on a fresh topology; `mem i` is what the `CertInfo` of the
`i`-th command found in its memory. -/
def parseCtlEntries (mem : Nat → HashedId8) (nowTai : Int) (ctl : Asn.CtlFormat)
    (isEctl : Bool) : TrustTopology :=
  ctl.ctlCommands.zipIdx.foldl (fun topo c => parseCommand lib (mem c.2) topo c.1)
    (stampUpdate ctl isEctl nowTai)

def extractCtlFromEtsiData (data : Asn.EtsiTs102941Data) (isEctl : Bool) :
    Option Asn.CtlFormat := do
  match ← data.content,isEctl with
  | .certificateTrustListTlm ctl,true => ctl
  | .certificateTrustListRca ctl,false => ctl
  | _,_ => none

def setVerified (topo : TrustTopology) (isEctl verified : Bool) : TrustTopology :=
  if isEctl then {topo with ectlSignatureVerified := verified}
  else {topo with ctlSignatureVerified := verified}

/-- The entries are parsed before the signature is looked at, and an empty key or
certificate skips the check; either way the flag stays false. -/
def decodeCtlCommon (mem : Nat → HashedId8) (nowTai : Int)
    (coer verifierPubkey signerCertCoer : Bytes) (isEctl : Bool) :
    Except Error TrustTopology :=
  match SignedMsg.unwrap lib coer with
  | none => .error .decode
  | some msg =>
    match Coer.decodeWithBasicFallback lib.asn.etsiTs102941Data msg.payloadCoer with
    | none => .error .decode
    | some data => match extractCtlFromEtsiData data isEctl with
      | none => .error .decode
      | some ctl =>
        let topo := parseCtlEntries lib mem nowTai ctl isEctl
        if verifierPubkey.isEmpty=false ∧ signerCertCoer.isEmpty=false then
          .ok (setVerified topo isEctl (SignedMsg.verify lib msg verifierPubkey signerCertCoer))
        else .ok topo

def decodeEctl (mem : Nat → HashedId8) (nowTai : Int) (coer tlmPubkey tlmCertCoer : Bytes) :
    Except Error TrustTopology :=
  decodeCtlCommon lib mem nowTai coer tlmPubkey tlmCertCoer true

def decodeRcaCtl (mem : Nat → HashedId8) (nowTai : Int) (coer rcaPubkey rcaCertCoer : Bytes) :
    Except Error TrustTopology :=
  decodeCtlCommon lib mem nowTai coer rcaPubkey rcaCertCoer false

/-- What a run over the commands collects with one of the entry readers. -/
def collect {α : Type} (read : HashedId8 → Asn.CtlEntry → Option α) (mem : Nat → HashedId8)
    (cmds : List (Option Asn.CtlCommand × Nat)) : List α :=
  cmds.filterMap fun c => (addedEntry c.1).bind (read (mem c.2))

theorem mem_collect {α : Type} {read : HashedId8 → Asn.CtlEntry → Option α}
    {mem : Nat → HashedId8} {cmds : List (Option Asn.CtlCommand)} {a : α}
    (h : a∈collect read mem cmds.zipIdx) :
    ∃ i entry,some (.add (some entry))∈cmds ∧ read (mem i) entry=some a := by
  obtain ⟨⟨cmd,i⟩,hm,hr⟩ := List.mem_filterMap.mp h
  obtain ⟨entry,he,hr⟩ := Option.bind_eq_some_iff.mp hr
  have hc : cmd=some (.add (some entry)) := by
    rcases cmd with _ | ⟨entry' | _⟩ <;> simp_all [addedEntry]
  exact ⟨i,entry,hc ▸ (List.mem_zipIdx' hm).2 ▸ List.getElem_mem _,hr⟩

/-- One command adds to each list what the matching reader finds in it. -/
theorem parseCommand_lists (uninit : HashedId8) (topo : TrustTopology)
    (cmd : Option Asn.CtlCommand) :
    (parseCommand lib uninit topo cmd).rcas=
      topo.rcas++((addedEntry cmd).bind (rcaInfo? lib uninit)).toList ∧
    (parseCommand lib uninit topo cmd).eas=
      topo.eas++((addedEntry cmd).bind (eaInfo? lib uninit)).toList ∧
    (parseCommand lib uninit topo cmd).aas=
      topo.aas++((addedEntry cmd).bind (aaInfo? lib uninit)).toList ∧
    (parseCommand lib uninit topo cmd).dcs=
      topo.dcs++((addedEntry cmd).bind dcInfo?).toList := by
  unfold parseCommand
  cases h : addedEntry cmd with
  | none => simp
  | some entry =>
    cases entry <;> simp [parseEntry,rcaInfo?,eaInfo?,aaInfo?,dcInfo?]
    split <;> simp

theorem parse_fold_lists (mem : Nat → HashedId8) (cmds : List (Option Asn.CtlCommand × Nat))
    (topo : TrustTopology) :
    let final := cmds.foldl (fun topo c => parseCommand lib (mem c.2) topo c.1) topo
    final.rcas=topo.rcas++collect (rcaInfo? lib) mem cmds ∧
    final.eas=topo.eas++collect (eaInfo? lib) mem cmds ∧
    final.aas=topo.aas++collect (aaInfo? lib) mem cmds ∧
    final.dcs=topo.dcs++collect (fun _ => dcInfo?) mem cmds := by
  induction cmds generalizing topo with
  | nil => simp [collect]
  | cons c cmds ih =>
    have step := parseCommand_lists lib (mem c.2) topo c.1
    have rest := ih (parseCommand lib (mem c.2) topo c.1)
    simp only [List.foldl_cons]
    refine ⟨?_,?_,?_,?_⟩
    · rw [rest.1,step.1]
      cases h : (addedEntry c.1).bind (rcaInfo? lib (mem c.2)) <;> simp [collect,h]
    · rw [rest.2.1,step.2.1]
      cases h : (addedEntry c.1).bind (eaInfo? lib (mem c.2)) <;> simp [collect,h]
    · rw [rest.2.2.1,step.2.2.1]
      cases h : (addedEntry c.1).bind (aaInfo? lib (mem c.2)) <;> simp [collect,h]
    · rw [rest.2.2.2,step.2.2.2]
      cases h : (addedEntry c.1).bind dcInfo? <;> simp [collect,h]

/-- The lists of a parsed topology, entry kind by entry kind. -/
theorem parseCtlEntries_lists (mem : Nat → HashedId8) (nowTai : Int) (ctl : Asn.CtlFormat)
    (isEctl : Bool) :
    let topo := parseCtlEntries lib mem nowTai ctl isEctl
    topo.rcas=collect (rcaInfo? lib) mem ctl.ctlCommands.zipIdx ∧
    topo.eas=collect (eaInfo? lib) mem ctl.ctlCommands.zipIdx ∧
    topo.aas=collect (aaInfo? lib) mem ctl.ctlCommands.zipIdx ∧
    topo.dcs=collect (fun _ => dcInfo?) mem ctl.ctlCommands.zipIdx := by
  have h := parse_fold_lists lib mem ctl.ctlCommands.zipIdx (stampUpdate ctl isEctl nowTai)
  cases isEctl <;> simpa [parseCtlEntries,stampUpdate] using h

end TrustList

end V2xPki
