import V2xPki.Data.Sizes
import V2xPki.Framework.CommandLine

namespace V2xPki

namespace Cli

open Framework CommandLine

structure Args where
  command : String := ""
  pkiUrl : String := ""
  outDir : String := ""
  hid8 : String := ""
  certPath : String := ""
  eaUrl : String := ""
  aaUrl : String := ""
  keystoreDir : String := ""
  ecCert : String := ""
  tlmCert : String := ""
  tlmHid8 : String := ""
  out : String := ""
  canonicalKey : String := ""
  canonicalId : String := ""
  canonicalIdSet : Bool := false
  curveStr : String := ""
  json : Bool := false
  discoverMode : Bool := false
deriving DecidableEq

namespace Args

/-- The options that take the next word. -/
def takesValue (arg : String) : Bool :=
  arg=="--pki-url" || arg=="--out-dir" || arg=="--hid8" || arg=="--cert-path" ||
    arg=="--ea-url" || arg=="--aa-url" || arg=="--keystore-dir" || arg=="--ec-cert" ||
    arg=="--tlm-cert" || arg=="--tlm-hid8" || arg=="--out" || arg=="--canonical-key" ||
    arg=="--canonical-id" || arg=="--curve"

def setOption (arg val : String) (a : Args) : Except Empty Args :=
  if arg="--pki-url" then .ok {a with pkiUrl := val}
  else if arg="--out-dir" then .ok {a with outDir := val}
  else if arg="--hid8" then .ok {a with hid8 := val}
  else if arg="--cert-path" then .ok {a with certPath := val}
  else if arg="--ea-url" then .ok {a with eaUrl := val}
  else if arg="--aa-url" then .ok {a with aaUrl := val}
  else if arg="--keystore-dir" then .ok {a with keystoreDir := val}
  else if arg="--ec-cert" then .ok {a with ecCert := val}
  else if arg="--tlm-cert" then .ok {a with tlmCert := val}
  else if arg="--tlm-hid8" then .ok {a with tlmHid8 := val}
  else if arg="--out" then .ok {a with out := val}
  else if arg="--canonical-key" then .ok {a with canonicalKey := val}
  else if arg="--canonical-id" then .ok {a with canonicalId := val,canonicalIdSet := true}
  else if arg="--curve" then .ok {a with curveStr := val}
  else .ok a

/-- A word that is none of these is passed over, and so is an option at the very end. -/
def setFlag (arg : String) (a : Args) : Except Empty Args :=
  if arg="--json" then .ok {a with json := true}
  else if arg="--discover" then .ok {a with discoverMode := true}
  else .ok a

def commandLine : CommandLine String Args Empty := ⟨takesValue,setOption,setFlag⟩

end Args

open Args

def parseArgs : List String → Args
  | _::command::rest => match commandLine.parse {command := command} rest with
    | .ok a => a
    | .error e => nomatch e
  | _ => {}

def parseCurve (s : String) : Curve :=
  if s="brainpool-p256r1" ∨ s="brainpoolP256r1" then .brainpoolP256r1
  else if s="brainpool-p384r1" ∨ s="brainpoolP384r1" then .brainpoolP384r1
  else .nistP256

/-- Each member of `Args` against the pieces of the command line after the command. -/
structure Reads (command : String) (ws : List (Word String)) (a : Args) : Prop where
  command : a.command=command
  pkiUrl : a.pkiUrl=(lastValue ["--pki-url"] ws).getD ""
  outDir : a.outDir=(lastValue ["--out-dir"] ws).getD ""
  hid8 : a.hid8=(lastValue ["--hid8"] ws).getD ""
  certPath : a.certPath=(lastValue ["--cert-path"] ws).getD ""
  eaUrl : a.eaUrl=(lastValue ["--ea-url"] ws).getD ""
  aaUrl : a.aaUrl=(lastValue ["--aa-url"] ws).getD ""
  keystoreDir : a.keystoreDir=(lastValue ["--keystore-dir"] ws).getD ""
  ecCert : a.ecCert=(lastValue ["--ec-cert"] ws).getD ""
  tlmCert : a.tlmCert=(lastValue ["--tlm-cert"] ws).getD ""
  tlmHid8 : a.tlmHid8=(lastValue ["--tlm-hid8"] ws).getD ""
  out : a.out=(lastValue ["--out"] ws).getD ""
  canonicalKey : a.canonicalKey=(lastValue ["--canonical-key"] ws).getD ""
  canonicalId : a.canonicalId=(lastValue ["--canonical-id"] ws).getD ""
  canonicalIdSet : a.canonicalIdSet=(lastValue ["--canonical-id"] ws).isSome
  curveStr : a.curveStr=(lastValue ["--curve"] ws).getD ""
  json : a.json=decide (.single "--json"∈ws)
  discoverMode : a.discoverMode=decide (.single "--discover"∈ws)

/-- What an option changes. -/
structure Sets (arg val : String) (s t : Args) : Prop where
  command : t.command=s.command
  pkiUrl : t.pkiUrl=if arg∈["--pki-url"] then val else s.pkiUrl
  outDir : t.outDir=if arg∈["--out-dir"] then val else s.outDir
  hid8 : t.hid8=if arg∈["--hid8"] then val else s.hid8
  certPath : t.certPath=if arg∈["--cert-path"] then val else s.certPath
  eaUrl : t.eaUrl=if arg∈["--ea-url"] then val else s.eaUrl
  aaUrl : t.aaUrl=if arg∈["--aa-url"] then val else s.aaUrl
  keystoreDir : t.keystoreDir=if arg∈["--keystore-dir"] then val else s.keystoreDir
  ecCert : t.ecCert=if arg∈["--ec-cert"] then val else s.ecCert
  tlmCert : t.tlmCert=if arg∈["--tlm-cert"] then val else s.tlmCert
  tlmHid8 : t.tlmHid8=if arg∈["--tlm-hid8"] then val else s.tlmHid8
  out : t.out=if arg∈["--out"] then val else s.out
  canonicalKey : t.canonicalKey=if arg∈["--canonical-key"] then val else s.canonicalKey
  canonicalId : t.canonicalId=if arg∈["--canonical-id"] then val else s.canonicalId
  canonicalIdSet : t.canonicalIdSet=if arg∈["--canonical-id"] then true else s.canonicalIdSet
  curveStr : t.curveStr=if arg∈["--curve"] then val else s.curveStr
  json : t.json=s.json
  discoverMode : t.discoverMode=s.discoverMode

section
variable {arg val command : String} {s t : Args} {ws : List (Word String)}

/-- The branch that a chain of comparisons ends in. -/
theorem ok_of_ite {c : Prop} [Decidable c] {a : Args} {rest : Except Empty Args}
    (h : (if c then .ok a else rest)=.ok t) : (c ∧ a=t) ∨ (¬c ∧ rest=.ok t) := by
  by_cases hc : c
  · rw [if_pos hc] at h
    exact .inl ⟨hc,Except.ok.inj h⟩
  · rw [if_neg hc] at h
    exact .inr ⟨hc,h⟩

theorem setOption_sets (h : setOption arg val s=.ok t) : Sets arg val s t := by
  unfold setOption at h
  iterate 14
    rcases ok_of_ite h with ⟨rfl,rfl⟩ | ⟨hne,h⟩
    · constructor <;> simp
  obtain rfl := Except.ok.inj h
  constructor <;> simp [*]

theorem setFlag_fields (h : setFlag arg s=.ok t) :
    t={s with
      json := if arg="--json" then true else s.json
      discoverMode := if arg="--discover" then true else s.discoverMode} := by
  unfold setFlag at h
  cases s
  grind

theorem setFlag_kept (h : setFlag arg s=.ok t) :
    t={s with json := t.json,discoverMode := t.discoverMode} := by
  rw [setFlag_fields h]

/-- A text has the last value of its option. -/
theorem text_of_actAll (h : commandLine.actAll ws {command := command}=.ok t)
    (get : Args → String) {name : String}
    (hset : ∀ {arg val s t},Sets arg val s t → get t=if arg∈[name] then val else get s)
    (hkept : ∀ s json mode,get {s with json := json,discoverMode := mode}=get s)
    (hstart : get {command := command}="") : get t=(lastValue [name] ws).getD "" := by
  have hoption : ∀ arg val s t,setOption arg val s=.ok t →
      get t=if arg∈[name] then val else get s := fun _ _ _ _ ht => hset (setOption_sets ht)
  have hflag : ∀ arg s t,setFlag arg s=.ok t → get t=get s := by
    intro arg s t ht
    rw [setFlag_kept ht]
    exact hkept s _ _
  have hget : get t=((lastValue [name] ws).map id).getD _ := actAll_field hoption hflag h
  rwa [Option.map_id,hstart] at hget

/-- A switch is on if its word is there. -/
theorem switch_of_actAll (h : commandLine.actAll ws {command := command}=.ok t)
    (get : Args → Bool) {word : String}
    (hset : ∀ {arg val s t},Sets arg val s t → get t=get s)
    (hflag : ∀ {arg s t},setFlag arg s=.ok t → get t=if arg=word then true else get s)
    (hstart : get {command := command}=false) : get t=decide (.single word∈ws) := by
  have hact : ∀ w s t,commandLine.act w s=.ok t →
      get t=if w=.single word then true else get s := by
    intro w s t ht
    cases w with
    | option name value => exact hset (setOption_sets ht)
    | single arg => simpa using hflag ht
  rw [actAll_switch hact h,hstart]
  by_cases hmem : Word.single word∈ws <;> simp [hmem]

theorem command_of_actAll (h : commandLine.actAll ws {command := command}=.ok t) :
    t.command=command := by
  apply @actAll_kept _ _ _ _ _ Args.command _ _ _ _ h
  intro w s t ht
  cases w with
  | option name value => exact (setOption_sets ht).command
  | single arg => rw [setFlag_kept ht]

theorem canonicalIdSet_of_actAll (h : commandLine.actAll ws {command := command}=.ok t) :
    t.canonicalIdSet=(lastValue ["--canonical-id"] ws).isSome := by
  have hset : t.canonicalIdSet=((lastValue ["--canonical-id"] ws).map fun _ => true).getD false :=
    actAll_field (fun _ _ _ _ ht => (setOption_sets ht).canonicalIdSet)
      (fun _ _ _ ht => by rw [setFlag_kept ht]) h
  rw [hset]
  cases lastValue ["--canonical-id"] ws <;> rfl

/-- What the loop makes of the pieces. -/
theorem reads_of_actAll (h : commandLine.actAll ws {command := command}=.ok t) :
    Reads command ws t where
  command := command_of_actAll h
  pkiUrl := text_of_actAll h Args.pkiUrl Sets.pkiUrl (fun _ _ _ => rfl) rfl
  outDir := text_of_actAll h Args.outDir Sets.outDir (fun _ _ _ => rfl) rfl
  hid8 := text_of_actAll h Args.hid8 Sets.hid8 (fun _ _ _ => rfl) rfl
  certPath := text_of_actAll h Args.certPath Sets.certPath (fun _ _ _ => rfl) rfl
  eaUrl := text_of_actAll h Args.eaUrl Sets.eaUrl (fun _ _ _ => rfl) rfl
  aaUrl := text_of_actAll h Args.aaUrl Sets.aaUrl (fun _ _ _ => rfl) rfl
  keystoreDir := text_of_actAll h Args.keystoreDir Sets.keystoreDir (fun _ _ _ => rfl) rfl
  ecCert := text_of_actAll h Args.ecCert Sets.ecCert (fun _ _ _ => rfl) rfl
  tlmCert := text_of_actAll h Args.tlmCert Sets.tlmCert (fun _ _ _ => rfl) rfl
  tlmHid8 := text_of_actAll h Args.tlmHid8 Sets.tlmHid8 (fun _ _ _ => rfl) rfl
  out := text_of_actAll h Args.out Sets.out (fun _ _ _ => rfl) rfl
  canonicalKey := text_of_actAll h Args.canonicalKey Sets.canonicalKey (fun _ _ _ => rfl) rfl
  canonicalId := text_of_actAll h Args.canonicalId Sets.canonicalId (fun _ _ _ => rfl) rfl
  canonicalIdSet := canonicalIdSet_of_actAll h
  curveStr := text_of_actAll h Args.curveStr Sets.curveStr (fun _ _ _ => rfl) rfl
  json := switch_of_actAll h Args.json Sets.json (fun ht => by rw [setFlag_fields ht]) rfl
  discoverMode := switch_of_actAll h Args.discoverMode Sets.discoverMode
    (fun ht => by rw [setFlag_fields ht]) rfl

end

/-- For every command line: each member of the result has the last value that its option was given,
wherever it stands, or is as it was; and a line put together of whole pieces is read as these. -/
theorem args_last_wins (prog command : String) (args : List String) :
    Reads command (commandLine.words args) (parseArgs (prog::command::args)) ∧
    (commandLine.words args).flatMap Word.args=args ∧
    ∀ ws,(∀ w∈ws,commandLine.Proper w) → ws.flatMap Word.args=args →
      commandLine.words args=ws := by
  refine ⟨?_,words_args args,?_⟩
  · unfold parseArgs
    dsimp only
    cases h : commandLine.parse {command := command} args with
    | error e => cases e
    | ok a =>
      rw [parse_eq] at h
      exact reads_of_actAll h
  · rintro ws hproper rfl
    exact words_flatMap hproper

end Cli

end V2xPki
