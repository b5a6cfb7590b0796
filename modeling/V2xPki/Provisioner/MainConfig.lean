import V2xPki.Framework.CommandLine
import V2xPki.Provisioner.DumpCalls
import V2xPki.Trust.Hid8Hex

namespace V2xPki

namespace Provisioning

open Framework CommandLine

/-- `Config` of the program. Of the rotation ratio the text is kept that `std::atof` reads. -/
structure MainConfig where
  pkiBaseUrl : String
  tlmHid8 : String
  outputDir : String
  validityPeriodHours : Int
  rotationRatio : String
  psids : List Int
  ecValidityDays : Int
  oneshot : Bool
  dumpDir : String
  curve : Curve
  dumpKeys : Bool
deriving DecidableEq

namespace MainConfig

def isDigit (c : UInt8) : Bool := 0x30 ≤ c && c ≤ 0x39

/-- `std::atol`: blanks and a sign may come first, and a number that does not fit becomes the
nearest one that does. -/
def atol (text : String) : Int :=
  let s := (bytesOfString text).dropWhile isSpace
  let n : Nat := ((skipSign s).takeWhile isDigit).foldl (fun n c => n*10+(c.toNat-0x30)) 0
  max (-2^63) (min (2^63-1) (if s.head?=some 0x2d then -(n : Int) else n))

/-- The defaults, and the variables of the environment over them. -/
def fromEnvironment (getenv : String → Option String) : MainConfig where
  pkiBaseUrl := (getenv "PKI_BASE_URL").getD "https://pki.skyv2x.com"
  tlmHid8 := (getenv "TLM_HID8").getD ""
  outputDir := (getenv "AT_OUTPUT_DIR").getD "./v3-certs"
  validityPeriodHours := ((getenv "AT_VALIDITY_HOURS").map atol).getD 168
  rotationRatio := (getenv "AT_ROTATION_RATIO").getD "0.8"
  psids := [36,37,137,138,139,140]
  ecValidityDays := ((getenv "EC_VALIDITY_DAYS").map atol).getD 30
  oneshot := false
  dumpDir := (getenv "WIRE_DUMP_DIR").getD ""
  curve := .nistP256
  dumpKeys := false

/-- The options that take the next word. -/
def takesValue (arg : String) : Bool :=
  arg=="--url" || arg=="-u" || arg=="--tlm-hid8" || arg=="--dump-dir" || arg=="--curve" ||
    arg=="--output" || arg=="-o" || arg=="--validity-hours" || arg=="--rotation-ratio"

/-- `exit(2)` is an error with the exit status. `nist-p256` leaves the curve as it is. -/
def setOption (arg value : String) (cfg : MainConfig) : Except Nat MainConfig :=
  if arg="--url" ∨ arg="-u" then .ok {cfg with pkiBaseUrl := value}
  else if arg="--tlm-hid8" then .ok {cfg with tlmHid8 := value}
  else if arg="--dump-dir" then .ok {cfg with dumpDir := value}
  else if arg="--curve" then
    if value="brainpool-p256r1" then .ok {cfg with curve := .brainpoolP256r1}
    else if value≠"nist-p256" then .error 2
    else .ok cfg
  else if arg="--output" ∨ arg="-o" then .ok {cfg with outputDir := value}
  else if arg="--validity-hours" then .ok {cfg with validityPeriodHours := atol value}
  else if arg="--rotation-ratio" then .ok {cfg with rotationRatio := value}
  else .ok cfg

/-- A word that is none of these is passed over. -/
def setFlag (arg : String) (cfg : MainConfig) : Except Nat MainConfig :=
  if arg="--dump-private-keys-insecure" then .ok {cfg with dumpKeys := true}
  else if arg="--oneshot" then .ok {cfg with oneshot := true}
  else if arg="--help" ∨ arg="-h" then .error 0
  else .ok cfg

def commandLine : CommandLine String MainConfig Nat := ⟨takesValue,setOption,setFlag⟩

def parseConfig (getenv : String → Option String) (argv : List String) : Except Nat MainConfig :=
  match commandLine.parse (fromEnvironment getenv) argv.tail with
  | .error code => .error code
  | .ok cfg => if cfg.dumpKeys && cfg.dumpDir.isEmpty then .error 2 else .ok cfg

/-- The pieces of the command line, without the name of the program. -/
def pieces (argv : List String) : List (Word String) := commandLine.words argv.tail

/-- The last value given under one of these names, or else what the environment says. -/
def given (names : List String) (value : Option String) (argv : List String) : Option String :=
  (lastValue names (pieces argv)).or value

/-- The pieces at which the program ends: help is asked for, or a curve it does not know. -/
def Ends : Word String → Prop
  | .option name value => name="--curve" ∧ value≠"brainpool-p256r1" ∧ value≠"nist-p256"
  | .single word => word="--help" ∨ word="-h"

/-- Where each setting comes from: the command line before the environment before the default.
Only the command line has the key dump, and one `brainpool-p256r1` is enough for the curve. -/
structure Configured (getenv : String → Option String) (argv : List String) (cfg : MainConfig) :
    Prop where
  pkiBaseUrl : cfg.pkiBaseUrl=
    (given ["--url","-u"] (getenv "PKI_BASE_URL") argv).getD "https://pki.skyv2x.com"
  tlmHid8 : cfg.tlmHid8=(given ["--tlm-hid8"] (getenv "TLM_HID8") argv).getD ""
  outputDir : cfg.outputDir=
    (given ["--output","-o"] (getenv "AT_OUTPUT_DIR") argv).getD "./v3-certs"
  validityPeriodHours : cfg.validityPeriodHours=
    ((given ["--validity-hours"] (getenv "AT_VALIDITY_HOURS") argv).map atol).getD 168
  rotationRatio : cfg.rotationRatio=
    (given ["--rotation-ratio"] (getenv "AT_ROTATION_RATIO") argv).getD "0.8"
  psids : cfg.psids=[36,37,137,138,139,140]
  ecValidityDays : cfg.ecValidityDays=((getenv "EC_VALIDITY_DAYS").map atol).getD 30
  oneshot : cfg.oneshot=if .single "--oneshot"∈pieces argv then true else false
  dumpDir : cfg.dumpDir=(given ["--dump-dir"] (getenv "WIRE_DUMP_DIR") argv).getD ""
  curve : cfg.curve=if .option "--curve" "brainpool-p256r1"∈pieces argv then .brainpoolP256r1
    else .nistP256
  dumpKeys : cfg.dumpKeys=
    if .single "--dump-private-keys-insecure"∈pieces argv then true else false

/-- What an option changes. -/
structure Sets (arg value : String) (s t : MainConfig) : Prop where
  pkiBaseUrl : t.pkiBaseUrl=if arg∈["--url","-u"] then value else s.pkiBaseUrl
  tlmHid8 : t.tlmHid8=if arg∈["--tlm-hid8"] then value else s.tlmHid8
  outputDir : t.outputDir=if arg∈["--output","-o"] then value else s.outputDir
  validityPeriodHours : t.validityPeriodHours=
    if arg∈["--validity-hours"] then atol value else s.validityPeriodHours
  rotationRatio : t.rotationRatio=if arg∈["--rotation-ratio"] then value else s.rotationRatio
  psids : t.psids=s.psids
  ecValidityDays : t.ecValidityDays=s.ecValidityDays
  oneshot : t.oneshot=s.oneshot
  dumpDir : t.dumpDir=if arg∈["--dump-dir"] then value else s.dumpDir
  curve : t.curve=if arg="--curve" ∧ value="brainpool-p256r1" then .brainpoolP256r1 else s.curve
  dumpKeys : t.dumpKeys=s.dumpKeys

section
variable {getenv : String → Option String} {argv : List String} {s t cfg : MainConfig}
variable {arg value : String}

theorem setOption_sets (h : setOption arg value s=.ok t) : Sets arg value s t := by
  unfold setOption at h
  constructor <;> grind

theorem setFlag_fields (h : setFlag arg s=.ok t) :
    t={s with
      dumpKeys := if arg="--dump-private-keys-insecure" then true else s.dumpKeys
      oneshot := if arg="--oneshot" then true else s.oneshot} := by
  unfold setFlag at h
  cases s
  grind

theorem setOption_error {code : Nat} (h : setOption arg value s=.error code) :
    arg="--curve" ∧ value≠"brainpool-p256r1" ∧ value≠"nist-p256" := by
  unfold setOption at h
  grind

theorem setFlag_error {code : Nat} (h : setFlag arg s=.error code) : arg="--help" ∨ arg="-h" := by
  unfold setFlag at h
  grind

/-- A piece is refused exactly if it ends the program. -/
theorem act_isOk (w : Word String) (s : MainConfig) :
    (∃ t,commandLine.act w s=.ok t) ↔ ¬Ends w := by
  constructor
  · rintro ⟨t,ht⟩ hends
    cases w with
    | option name value =>
      obtain ⟨rfl,hbrainpool,hnist⟩ := hends
      simp [commandLine,act,setOption,hbrainpool,hnist] at ht
    | single word =>
      rcases hends with rfl | rfl
      · simp [commandLine,act,setFlag] at ht
      · simp [commandLine,act,setFlag] at ht
  · intro hends
    cases hact : commandLine.act w s with
    | ok t => exact ⟨t,rfl⟩
    | error code =>
      exfalso
      apply hends
      cases w with
      | option name value => exact setOption_error hact
      | single word => exact setFlag_error hact

theorem setFlag_kept (h : setFlag arg s=.ok t) :
    t={s with dumpKeys := t.dumpKeys,oneshot := t.oneshot} := by
  rw [setFlag_fields h]

/-- A text that options set has the last value of these, or else what it begins with. -/
theorem text_of_actAll (h : commandLine.actAll (pieces argv) (fromEnvironment getenv)=.ok cfg)
    (get : MainConfig → String) {names : List String} {value : Option String} {d : String}
    (hset : ∀ {arg value s t},Sets arg value s t → get t=if arg∈names then value else get s)
    (hkept : ∀ s keys oneshot,get {s with dumpKeys := keys,oneshot := oneshot}=get s)
    (hstart : get (fromEnvironment getenv)=value.getD d) :
    get cfg=(given names value argv).getD d := by
  have hoption : ∀ arg value s t,setOption arg value s=.ok t →
      get t=if arg∈names then value else get s := fun _ _ _ _ ht => hset (setOption_sets ht)
  have hflag : ∀ arg s t,setFlag arg s=.ok t → get t=get s := by
    intro arg s t ht
    rw [setFlag_kept ht]
    exact hkept s _ _
  have hget : get cfg=((lastValue names (pieces argv)).map id).getD _ :=
    actAll_field hoption hflag h
  rw [Option.map_id,hstart] at hget
  rw [hget,given]
  cases lastValue names (pieces argv) <;> rfl

theorem hours_of_actAll (h : commandLine.actAll (pieces argv) (fromEnvironment getenv)=.ok cfg) :
    cfg.validityPeriodHours=
      ((given ["--validity-hours"] (getenv "AT_VALIDITY_HOURS") argv).map atol).getD 168 := by
  have hoption : ∀ arg value s t,setOption arg value s=.ok t → t.validityPeriodHours=
      if arg∈["--validity-hours"] then atol value else s.validityPeriodHours :=
    fun _ _ _ _ ht => (setOption_sets ht).validityPeriodHours
  have hflag : ∀ arg s t,setFlag arg s=.ok t → t.validityPeriodHours=s.validityPeriodHours :=
    fun _ _ _ ht => by rw [setFlag_fields ht]
  have hget := actAll_field hoption hflag h
  rw [hget,given]
  cases lastValue ["--validity-hours"] (pieces argv) <;> rfl

/-- A member that no piece sets is as it was. -/
theorem kept_of_actAll {β : Type}
    (h : commandLine.actAll (pieces argv) (fromEnvironment getenv)=.ok cfg) (get : MainConfig → β)
    (hset : ∀ {arg value s t},Sets arg value s t → get t=get s)
    (hkept : ∀ s keys oneshot,get {s with dumpKeys := keys,oneshot := oneshot}=get s) :
    get cfg=get (fromEnvironment getenv) := by
  refine actAll_kept ?_ h
  intro w s t ht
  cases w with
  | option name value => exact hset (setOption_sets ht)
  | single word =>
    rw [setFlag_kept ht]
    exact hkept s _ _

/-- A switch is on if its word is there. -/
theorem switch_of_actAll (h : commandLine.actAll (pieces argv) (fromEnvironment getenv)=.ok cfg)
    (get : MainConfig → Bool) {word : String}
    (hset : ∀ {arg value s t},Sets arg value s t → get t=get s)
    (hflag : ∀ {arg s t},setFlag arg s=.ok t → get t=if arg=word then true else get s)
    (hstart : get (fromEnvironment getenv)=false) :
    get cfg=if .single word∈pieces argv then true else false := by
  have hact : ∀ w s t,commandLine.act w s=.ok t →
      get t=if w=.single word then true else get s := by
    intro w s t ht
    cases w with
    | option name value => exact hset (setOption_sets ht)
    | single arg => simpa using hflag ht
  rw [actAll_switch hact h,hstart]

/-- Nothing takes Brainpool back. -/
theorem curve_of_actAll (h : commandLine.actAll (pieces argv) (fromEnvironment getenv)=.ok cfg) :
    cfg.curve=if .option "--curve" "brainpool-p256r1"∈pieces argv then .brainpoolP256r1
      else .nistP256 := by
  have hact : ∀ w s t,commandLine.act w s=.ok t → t.curve=
      if w=.option "--curve" "brainpool-p256r1" then .brainpoolP256r1 else s.curve := by
    intro w s t ht
    cases w with
    | option name value =>
      rw [(setOption_sets ht).curve]
      simp
    | single word =>
      rw [setFlag_fields ht]
      simp
  exact actAll_switch hact h

/-- What the loop makes of the command line. -/
theorem configured_of_actAll
    (h : commandLine.actAll (pieces argv) (fromEnvironment getenv)=.ok cfg) :
    Configured getenv argv cfg where
  pkiBaseUrl := text_of_actAll h MainConfig.pkiBaseUrl Sets.pkiBaseUrl (fun _ _ _ => rfl) rfl
  tlmHid8 := text_of_actAll h MainConfig.tlmHid8 Sets.tlmHid8 (fun _ _ _ => rfl) rfl
  outputDir := text_of_actAll h MainConfig.outputDir Sets.outputDir (fun _ _ _ => rfl) rfl
  validityPeriodHours := hours_of_actAll h
  rotationRatio := text_of_actAll h MainConfig.rotationRatio Sets.rotationRatio
    (fun _ _ _ => rfl) rfl
  psids := kept_of_actAll h MainConfig.psids Sets.psids fun _ _ _ => rfl
  ecValidityDays := kept_of_actAll h MainConfig.ecValidityDays Sets.ecValidityDays fun _ _ _ => rfl
  oneshot := switch_of_actAll h MainConfig.oneshot Sets.oneshot
    (fun ht => by rw [setFlag_fields ht]) rfl
  dumpDir := text_of_actAll h MainConfig.dumpDir Sets.dumpDir (fun _ _ _ => rfl) rfl
  curve := curve_of_actAll h
  dumpKeys := switch_of_actAll h MainConfig.dumpKeys Sets.dumpKeys
    (fun ht => by rw [setFlag_fields ht]) rfl

/-- The settings are determined by the command line and the environment. -/
theorem Configured.unique {other : MainConfig} (h : Configured getenv argv cfg)
    (hother : Configured getenv argv other) : cfg=other := by
  cases cfg
  cases other
  obtain ⟨rfl,rfl,rfl,rfl,rfl,rfl,rfl,rfl,rfl,rfl,rfl⟩ := h
  obtain ⟨rfl,rfl,rfl,rfl,rfl,rfl,rfl,rfl,rfl,rfl,rfl⟩ := hother
  rfl

end

/-- The settings of the loop. The time between two rotations is a product of floating-point
numbers, made from the hours and the text of the ratio. -/
def continuous (cfg : MainConfig) (sleepSeconds : Int → String → Int) : Config where
  pkiBaseUrl := cfg.pkiBaseUrl
  tlmHid8 := cfg.tlmHid8
  outputDir := cfg.outputDir
  validityPeriodHours := cfg.validityPeriodHours
  rotationSeconds := sleepSeconds cfg.validityPeriodHours cfg.rotationRatio
  psids := cfg.psids
  ecValidityDays := cfg.ecValidityDays
  curve := cfg.curve

/-- For every environment and command line: the program goes on exactly if no piece of the command
line ends it and a key dump has a directory, and then with the settings that were given last, the
command line before the environment before the defaults. -/
theorem parseConfig_ok_iff {getenv : String → Option String} {argv : List String}
    {cfg : MainConfig} :
    parseConfig getenv argv=.ok cfg ↔ (∀ w∈pieces argv,¬Ends w) ∧ Configured getenv argv cfg ∧
      (cfg.dumpKeys=true → cfg.dumpDir≠"") := by
  have haccept : ∀ t,parseConfig getenv argv=.ok t ↔
      commandLine.actAll (pieces argv) (fromEnvironment getenv)=.ok t ∧
        (t.dumpKeys=true → t.dumpDir≠"") := by
    intro t
    rw [parseConfig,parse_eq,← pieces]
    cases commandLine.actAll (pieces argv) (fromEnvironment getenv) with
    | error code => simp
    | ok u =>
      simp only [Bool.and_eq_true,String.isEmpty_iff]
      split
      · rename_i hrefused
        simp only [reduceCtorEq,false_iff,Except.ok.injEq]
        rintro ⟨rfl,hdir⟩
        exact hdir hrefused.1 hrefused.2
      · rename_i haccepted
        simp only [Except.ok.injEq]
        constructor
        · rintro rfl
          exact ⟨rfl,fun hkeys hdir => haccepted ⟨hkeys,hdir⟩⟩
        · rintro ⟨rfl,-⟩
          rfl
  rw [haccept]
  constructor
  · rintro ⟨hread,hdir⟩
    exact ⟨(actAll_isOk act_isOk _ _).mp ⟨cfg,hread⟩,configured_of_actAll hread,hdir⟩
  · rintro ⟨hends,hconfigured,hdir⟩
    obtain ⟨t,ht⟩ := (actAll_isOk act_isOk _ (fromEnvironment getenv)).mpr hends
    obtain rfl := hconfigured.unique (configured_of_actAll ht)
    exact ⟨ht,hdir⟩

end MainConfig

end Provisioning

end V2xPki
