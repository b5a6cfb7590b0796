import V2xPki.Trust.TrustList

namespace V2xPki.TrustList

variable (lib : Lib)

/-- The content alternative of a trust list: TLM lists are ECTLs, RCA lists are CTLs. -/
def content (isEctl : Bool) (ctl : Asn.CtlFormat) : Asn.EtsiTs102941DataContent :=
  if isEctl then .certificateTrustListTlm (some ctl) else .certificateTrustListRca (some ctl)

/-- `ctl` is the list of the expected content in the payload of `envelope`, and the
envelope verifies under the key and certificate of `signer`. -/
def SignedList (isEctl : Bool) (signer : CertInfo) (envelope : Bytes)
    (ctl : Asn.CtlFormat) : Prop :=
  ∃ msg data,SignedMsg.unwrap lib envelope=some msg ∧
    Coer.decodeWithBasicFallback lib.asn.etsiTs102941Data msg.payloadCoer=some data ∧
    data.content=some (content isEctl ctl) ∧
    SignedMsg.verify lib msg signer.publicKey.toVector signer.certBytes.toVector=true

/-- `ci` is the certificate of an `add rca` entry. -/
def AddsRca (ctl : Asn.CtlFormat) (ci : CertInfo) : Prop :=
  ∃ uninit entry,some (.add (some (.rca (some entry))))∈ctl.ctlCommands ∧
    certPtrToInfo lib uninit entry.selfsignedRootCa "rca"=some ci

def AddsEa (ctl : Asn.CtlFormat) (ci : CertInfo) : Prop :=
  ∃ uninit entry,some (.add (some (.ea (some entry))))∈ctl.ctlCommands ∧
    certPtrToInfo lib uninit entry.eaCertificate "ea"=some ci

def AddsAa (ctl : Asn.CtlFormat) (ci : CertInfo) : Prop :=
  ∃ uninit entry,some (.add (some (.aa (some entry))))∈ctl.ctlCommands ∧
    certPtrToInfo lib uninit entry.aaCertificate "aa"=some ci

theorem extractCtl_some {data : Asn.EtsiTs102941Data} {isEctl : Bool} {ctl : Asn.CtlFormat}
    (h : extractCtlFromEtsiData data isEctl=some ctl) :
    data.content=some (content isEctl ctl) := by
  simp only [extractCtlFromEtsiData,Option.bind_eq_bind,Option.bind_eq_some_iff] at h
  obtain ⟨c,hc,h⟩ := h
  split at h
  · rw [hc,content,h,if_pos rfl]
  · rw [hc,content,h]
    rfl
  · cases h

/-- The flags of a topology: which lists verified and which are past their update. -/
def flags (topo : TrustTopology) : Bool × Bool × Bool × Bool :=
  (topo.ectlSignatureVerified,topo.ctlSignatureVerified,topo.ectlExpired,topo.ctlExpired)

/-- Reading entries changes no flag. -/
theorem parseCommand_flags (uninit : HashedId8) (topo : TrustTopology)
    (cmd : Option Asn.CtlCommand) :
    flags (parseCommand lib uninit topo cmd)=flags topo := by
  unfold parseCommand
  cases addedEntry cmd with
  | none => rfl
  | some entry =>
    cases entry with
    | tlm e =>
      simp only [parseEntry]
      cases tlmInfo? lib uninit (.tlm e) <;> rfl
    | _ => rfl

theorem parse_fold_flags (mem : Nat → HashedId8) (cmds : List (Option Asn.CtlCommand × Nat))
    (topo : TrustTopology) :
    flags (cmds.foldl (fun topo c => parseCommand lib (mem c.2) topo c.1) topo)=flags topo := by
  induction cmds generalizing topo with
  | nil => rfl
  | cons c cmds ih =>
    exact (ih (parseCommand lib (mem c.2) topo c.1)).trans
      (parseCommand_flags lib (mem c.2) topo c.1)

/-- A parsed topology is stamped with the age of its list and not verified yet. -/
theorem parseCtlEntries_flags (mem : Nat → HashedId8) (nowTai : Int) (ctl : Asn.CtlFormat)
    (isEctl : Bool) : flags (parseCtlEntries lib mem nowTai ctl isEctl)=
      (false,false,isEctl && expired ctl.nextUpdate nowTai,
        !isEctl && expired ctl.nextUpdate nowTai) := by
  rw [parseCtlEntries,parse_fold_flags]
  cases isEctl <;> simp [stampUpdate,flags]

def verifiedFlag (topo : TrustTopology) (isEctl : Bool) : Bool :=
  if isEctl then topo.ectlSignatureVerified else topo.ctlSignatureVerified

theorem parseCtlEntries_flag (mem : Nat → HashedId8) (nowTai : Int) (ctl : Asn.CtlFormat)
    (isEctl : Bool) : verifiedFlag (parseCtlEntries lib mem nowTai ctl isEctl) isEctl=false := by
  have h := parseCtlEntries_flags lib mem nowTai ctl isEctl
  cases isEctl with
  | true => exact congrArg (·.1) h
  | false => exact congrArg (·.2.1) h

/-- A decoded list with its flag set comes out of an envelope that verified. -/
theorem decodeCtlCommon_verified {mem : Nat → HashedId8} {nowTai : Int} {envelope : Bytes}
    {signer : CertInfo} {isEctl : Bool} {topo : TrustTopology}
    (h : decodeCtlCommon lib mem nowTai envelope signer.publicKey.toVector
      signer.certBytes.toVector isEctl=.ok topo) (hv : verifiedFlag topo isEctl=true) :
    ∃ ctl,SignedList lib isEctl signer envelope ctl ∧
      topo=setVerified (parseCtlEntries lib mem nowTai ctl isEctl) isEctl true := by
  unfold decodeCtlCommon at h
  split at h
  · cases h
  rename_i msg hmsg
  split at h
  · cases h
  rename_i data hdata
  split at h
  · cases h
  rename_i ctl hctl
  have hcontent := extractCtl_some hctl
  split at h
  · cases h
    have hverify : SignedMsg.verify lib msg signer.publicKey.toVector
        signer.certBytes.toVector=true := by
      cases isEctl <;> exact hv
    refine ⟨ctl,⟨msg,data,hmsg,hdata,hcontent,hverify⟩,?_⟩
    rw [hverify]
  · cases h
    rw [parseCtlEntries_flag] at hv
    cases hv

theorem setVerified_rcas (topo : TrustTopology) (isEctl verified : Bool) :
    (setVerified topo isEctl verified).rcas=topo.rcas := by
  cases isEctl <;> rfl

theorem setVerified_eas (topo : TrustTopology) (isEctl verified : Bool) :
    (setVerified topo isEctl verified).eas=topo.eas := by
  cases isEctl <;> rfl

theorem setVerified_aas (topo : TrustTopology) (isEctl verified : Bool) :
    (setVerified topo isEctl verified).aas=topo.aas := by
  cases isEctl <;> rfl

section Lists
variable {lib} {mem : Nat → HashedId8} {nowTai : Int} {ctl : Asn.CtlFormat} {isEctl : Bool}

theorem mem_rcas {ci : CertInfo}
    (h : ci∈(setVerified (parseCtlEntries lib mem nowTai ctl isEctl) isEctl true).rcas) :
    AddsRca lib ctl ci := by
  rw [setVerified_rcas,(parseCtlEntries_lists lib mem nowTai ctl isEctl).1] at h
  obtain ⟨i,entry,hin,hread⟩ := mem_collect h
  cases entry with
  | rca e =>
    cases e with
    | none => cases hread
    | some e => exact ⟨mem i,e,hin,hread⟩
  | _ => cases hread

theorem mem_eas {ea : EaInfo}
    (h : ea∈(setVerified (parseCtlEntries lib mem nowTai ctl isEctl) isEctl true).eas) :
    AddsEa lib ctl ea.cert := by
  rw [setVerified_eas,(parseCtlEntries_lists lib mem nowTai ctl isEctl).2.1] at h
  obtain ⟨i,entry,hin,hread⟩ := mem_collect h
  cases entry with
  | ea e =>
    cases e with
    | none => cases hread
    | some e =>
      obtain ⟨ci,hci,rfl⟩ := Option.map_eq_some_iff.mp hread
      exact ⟨mem i,e,hin,hci⟩
  | _ => cases hread

theorem mem_aas {aa : AaInfo}
    (h : aa∈(setVerified (parseCtlEntries lib mem nowTai ctl isEctl) isEctl true).aas) :
    AddsAa lib ctl aa.cert := by
  rw [setVerified_aas,(parseCtlEntries_lists lib mem nowTai ctl isEctl).2.2.1] at h
  obtain ⟨i,entry,hin,hread⟩ := mem_collect h
  cases entry with
  | aa e =>
    cases e with
    | none => cases hread
    | some e =>
      obtain ⟨ci,hci,rfl⟩ := Option.map_eq_some_iff.mp hread
      exact ⟨mem i,e,hin,hci⟩
  | _ => cases hread

end Lists

end V2xPki.TrustList
