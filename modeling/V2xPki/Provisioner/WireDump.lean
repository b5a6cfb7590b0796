import V2xPki.Framework.Files
import V2xPki.Provisioner.Manifest
import V2xPki.Sample.StandIn

namespace V2xPki.Provisioning

open Framework Framework.Json

/-- `hex` -/
def hexText (b : Bytes) : Bytes :=
  b.flatMap fun c => [UInt8.ofNat (hexDigits.getD (c.toNat/16) '0').toNat,
    UInt8.ofNat (hexDigits.getD (c.toNat%16) '0').toNat]

/-- A dump without a directory is disabled. -/
structure WireDump where
  dir : String
  withKeys : Bool
  entries : List Entry
  metas : List (Bytes × Bytes)
  blobs : List Bytes
deriving DecidableEq

/-- A broken-down UTC time. -/
structure Tm where
  year : Nat
  month : Nat
  day : Nat
  hour : Nat
  minute : Nat
  second : Nat

def twoDigits (n : Nat) : Bytes := if n<10 then 0x30::decimal n else decimal n

/-- `strftime` with `%Y-%m-%dT%H:%M:%SZ`. -/
def stamp (t : Tm) : Bytes :=
  decimal t.year++[0x2d]++twoDigits t.month++[0x2d]++twoDigits t.day++[0x54]++
    twoDigits t.hour++[0x3a]++twoDigits t.minute++[0x3a]++twoDigits t.second++[0x5a]

/-- What a `flush` finds: the clock, and how the writes of the artefacts and of the manifest
go. -/
structure FlushSetting where
  time : Tm
  blob : Nat → Fill
  manifest : Fill

namespace WireDump

def enabled (d : WireDump) : Bool := !d.dir.isEmpty

variable (ssl : OpenSsl)

def record (d : WireDump) (step direction bytes note : Bytes) (httpStatus : Int)
    (contentType : Bytes) : WireDump :=
  if d.enabled then
    {d with
      entries := d.entries++[⟨step,direction,step++bytesOfString ".coer",note,bytes.length,
        hexText (Crypto.hashSha256 ssl bytes),httpStatus,contentType⟩]
      blobs := d.blobs++[bytes]}
  else d

def recordKey (d : WireDump) (name key note : Bytes) : WireDump :=
  if d.enabled && d.withKeys then record ssl d name (bytesOfString "key-material") key note 0 []
  else d

/-- `meta` -/
def addMeta (d : WireDump) (key value : Bytes) : WireDump :=
  if d.enabled then {d with metas := d.metas++[(key,value)]} else d

def keyWarning : Bytes :=
  bytesOfString "CONTAINS PRIVATE KEY MATERIAL. Disposable test station against a "++
    bytesOfString "testbed; never reuse this station, never publish this directory."

/-- The metadata that every `flush` appends. -/
def flushMetas (d : WireDump) (t : Tm) : List (Bytes × Bytes) :=
  (bytesOfString "dumped_at_utc",stamp t)::
    if d.withKeys then [(bytesOfString "warning",keyWarning)] else []

def stamped (d : WireDump) (t : Tm) : WireDump := {d with metas := d.metas++d.flushMetas t}

def manifest (d : WireDump) : Bytes := manifestText d.metas d.entries

def pathOf (dir : String) (e : Entry) : String := dir++"/"++stringOfBytes e.file

/-- The loop that writes the artefacts, and stops at the first that is not written. -/
def writeBlobs (dir : String) (fill : Nat → Fill) :
    Nat → List (Entry × Bytes) → Files UInt8 → Bool × Files UInt8
  | _,[],files => (true,files)
  | i,(e,b)::rest,files =>
      let r := files.overwrite (pathOf dir e) b (fill i)
      if r.1=false then r else writeBlobs dir fill (i+1) rest r.2

def manifestPath (dir : String) : String := dir++"/manifest.json"

/-- After a success the dump is disabled; after a failure it goes on as it was, with the
metadata appended. -/
def flush (d : WireDump) (files : Files UInt8) (f : FlushSetting) : Bool × WireDump × Files UInt8 :=
  if d.enabled=false then (true,d,files)
  else
    let d := d.stamped f.time
    let r := writeBlobs d.dir f.blob 0 (d.entries.zip d.blobs) files
    if r.1=false then (false,d,r.2)
    else
      let m := r.2.overwrite (manifestPath d.dir) d.manifest f.manifest
      if m.1=false then (false,d,m.2) else (true,{d with dir := ""},m.2)

end WireDump

/-- The calls a dump gets. -/
inductive DumpCall where
  | record (step direction bytes note : Bytes) (httpStatus : Int) (contentType : Bytes)
  | recordKey (name key note : Bytes)
  | addMeta (key value : Bytes)
  | flush (found : FlushSetting)

/-- A dump and the files around it. -/
structure Dumping where
  dump : WireDump
  files : Files UInt8

namespace Dumping
variable (ssl : OpenSsl)

def start (dir : String) (withKeys : Bool) (files : Files UInt8) : Dumping :=
  ⟨⟨dir,withKeys,[],[],[]⟩,files⟩

def perform (s : Dumping) : DumpCall → Dumping
  | .record step direction bytes note httpStatus contentType =>
      {s with dump := s.dump.record ssl step direction bytes note httpStatus contentType}
  | .recordKey name key note => {s with dump := s.dump.recordKey ssl name key note}
  | .addMeta key value => {s with dump := s.dump.addMeta key value}
  | .flush found => ⟨(s.dump.flush s.files found).2.1,(s.dump.flush s.files found).2.2⟩

def run (s : Dumping) (calls : List DumpCall) : Dumping := calls.foldl (perform ssl) s

end Dumping

/-- The names a call writes unescaped need no escaping: the provisioner passes literals. -/
def DumpCall.PlainNames : DumpCall → Prop
  | .record step direction _ _ _ _ => Plain step ∧ Plain direction
  | .recordKey name _ _ => Plain name
  | _ => True

section Names

theorem hexText_printable (b : Bytes) : (hexText b).all printable=true := by
  have hdigit : ∀ i<16,printable (UInt8.ofNat (hexDigits.getD i '0').toNat)=true := by decide
  rw [List.all_eq_true]
  intro c hc
  obtain ⟨x,-,hx⟩ := List.mem_flatMap.mp hc
  have hlt := x.toNat_lt
  rcases List.mem_pair.mp hx with rfl | rfl
  · exact hdigit _ (by omega)
  · exact hdigit _ (by omega)

theorem twoDigits_printable (n : Nat) : (twoDigits n).all printable=true := by
  unfold twoDigits
  split
  · rw [List.all_cons,decimal_printable]
    rfl
  · exact decimal_printable n

theorem stamp_printable (t : Tm) : (stamp t).all printable=true := by
  simp only [stamp,List.all_append,decimal_printable,twoDigits_printable]
  rfl

theorem flushMetas_clean (d : WireDump) (t : Tm) : ∀ kv∈d.flushMetas t,CleanMeta kv := by
  have hname : Escapable (bytesOfString "dumped_at_utc") := by decide
  have hstamp : CleanMeta (bytesOfString "dumped_at_utc",stamp t) :=
    ⟨hname,escapable_of_printable (stamp_printable t)⟩
  have hwarning : CleanMeta (bytesOfString "warning",WireDump.keyWarning) :=
    ⟨by decide,by decide +kernel⟩
  intro kv hkv
  unfold WireDump.flushMetas at hkv
  rcases List.mem_cons.mp hkv with rfl | hkv
  · exact hstamp
  · split at hkv
    · obtain rfl := List.mem_singleton.mp hkv
      exact hwarning
    · cases hkv

variable {ssl : OpenSsl}

theorem record_plain {d : WireDump} {step direction bytes note contentType : Bytes} {status : Int}
    (h : ∀ e∈d.entries,PlainEntry e) (hstep : Plain step) (hdirection : Plain direction) :
    ∀ e∈(d.record ssl step direction bytes note status contentType).entries,PlainEntry e := by
  unfold WireDump.record
  split
  · intro e he
    rcases List.mem_append.mp he with he | he
    · exact h e he
    · obtain rfl := List.mem_singleton.mp he
      have hsuffix : (bytesOfString ".coer").all printable=true := by decide
      exact ⟨hstep,hdirection,hstep.append (plain_of_printable hsuffix),
        plain_of_printable (hexText_printable _)⟩
  · exact h

theorem flush_entries (d : WireDump) (files : Files UInt8) (f : FlushSetting) :
    (d.flush files f).2.1.entries=d.entries := by
  unfold WireDump.flush
  dsimp only
  split
  · rfl
  split
  · rfl
  split <;> rfl

theorem perform_plain {s : Dumping} {call : DumpCall} (h : ∀ e∈s.dump.entries,PlainEntry e)
    (hcall : call.PlainNames) : ∀ e∈(s.perform ssl call).dump.entries,PlainEntry e := by
  cases call with
  | record step direction bytes note status contentType => exact record_plain h hcall.1 hcall.2
  | recordKey name key note =>
    have hdirection : (bytesOfString "key-material").all printable=true := by decide
    simp only [Dumping.perform,WireDump.recordKey]
    split
    · exact record_plain h hcall (plain_of_printable hdirection)
    · exact h
  | addMeta key value =>
    simp only [Dumping.perform,WireDump.addMeta]
    split <;> exact h
  | flush found =>
    simp only [Dumping.perform,flush_entries]
    exact h

theorem run_plain_entries {s : Dumping} {calls : List DumpCall}
    (h : ∀ e∈s.dump.entries,PlainEntry e) (hcalls : ∀ c∈calls,c.PlainNames) :
    ∀ e∈(s.run ssl calls).dump.entries,PlainEntry e := by
  induction calls generalizing s with
  | nil => exact h
  | cons call calls ih =>
    obtain ⟨hcall,hrest⟩ := List.forall_mem_cons.mp hcalls
    exact ih (perform_plain h hcall) hrest

end Names

/-- The strings of a dump that are escaped, which are all but the names, can be. -/
structure CleanDump (d : WireDump) : Prop where
  metas : ∀ kv∈d.metas,CleanMeta kv
  entries : ∀ e∈d.entries,CleanEntry e

theorem cleanDump_stamped (d : WireDump) (t : Tm) : CleanDump (d.stamped t) ↔ CleanDump d := by
  constructor
  · intro h
    exact ⟨fun kv hkv => h.metas kv (List.mem_append_left _ hkv),h.entries⟩
  · intro h
    refine ⟨?_,h.entries⟩
    intro kv hkv
    rcases List.mem_append.mp hkv with hkv | hkv
    · exact h.metas kv hkv
    · exact flushMetas_clean d t kv hkv

/-- An ASCII string is escaped to a literal of that string exactly when it has no control
character but the newline, and the manifest of a dump is a JSON text, and says what was
recorded, exactly when this or its extension to UTF-8 holds of all that was recorded. -/
theorem jsonEscape_manifest (ssl : OpenSsl) :
    (∀ s : Bytes,(∀ c∈s,c<0x80) →
      (parse (quoted s)=some (.str s) ↔ ∀ c∈s,0x20 ≤ c ∨ c=0x0a)) ∧
    (∀ s : Bytes,parse (quoted s)=if Escapable s then some (.str s) else none) ∧
    ∀ dir withKeys files calls time,(∀ c∈calls,c.PlainNames) →
      let d := ((Dumping.start dir withKeys files).run ssl calls).dump
      ((parse (d.stamped time).manifest).isSome ↔ CleanDump d) ∧
      (parse (d.stamped time).manifest=some (manifestValue (d.stamped time).metas d.entries) ↔
        CleanDump d) := by
  refine ⟨?_,parse_quoted,?_⟩
  · intro s hascii
    rw [parse_quoted,← escapable_ascii hascii]
    split <;> simp [*]
  · intro dir withKeys files calls time hcalls d
    have hplain : ∀ e∈d.entries,PlainEntry e := by
      apply run_plain_entries _ hcalls
      intro e he
      cases he
    have hparse := parse_manifestText (d.stamped time).metas hplain
    have hclean : ((∀ kv∈(d.stamped time).metas,CleanMeta kv) ∧ ∀ e∈d.entries,CleanEntry e) ↔
        CleanDump d := by
      rw [← cleanDump_stamped d time]
      exact ⟨fun h => ⟨h.1,h.2⟩,fun h => ⟨h.metas,h.entries⟩⟩
    change parse (d.stamped time).manifest=_ at hparse
    rw [hparse]
    by_cases h : CleanDump d
    · rw [if_pos (hclean.mpr h)]
      simp [h]
    · rw [if_neg (mt hclean.mp h)]
      simp [h]

section
open Sample

def noon : Tm := ⟨2026,7,1,12,0,0⟩

/-- A response of one octet, recorded under the content type its server gave. -/
def typedResponse (contentType : String) : DumpCall :=
  .record (bytesOfString "at_response") (bytesOfString "received") [1] [] 200
    (bytesOfString contentType)

def typedDump (contentType : String) : WireDump :=
  ((Dumping.start "dump" false Files.empty).run ssl [typedResponse contentType]).dump

theorem typedResponse_plain (contentType : String) : (typedResponse contentType).PlainNames := by
  have hstep : (bytesOfString "at_response").all printable=true := by decide
  have hdirection : (bytesOfString "received").all printable=true := by decide
  exact ⟨plain_of_printable hstep,plain_of_printable hdirection⟩

/-- A quotation mark and a backslash survive, in a string and in a content type. -/
theorem jsonEscape_manifest_quotes :
    parse (quoted (bytesOfString "a\"\\b"))=some (.str (bytesOfString "a\"\\b")) ∧
    parse ((typedDump "text/\"plain\"").stamped noon).manifest=
      some (manifestValue ((typedDump "text/\"plain\"").stamped noon).metas
        (typedDump "text/\"plain\"").entries) := by
  obtain ⟨hascii,-,hdump⟩ := jsonEscape_manifest ssl
  refine ⟨(hascii (bytesOfString "a\"\\b") (by decide +kernel)).mpr (by decide +kernel),?_⟩
  have hplain : ∀ c∈[typedResponse "text/\"plain\""],c.PlainNames := by
    intro c hc
    obtain rfl := List.mem_singleton.mp hc
    exact typedResponse_plain _
  refine (hdump "dump" false Files.empty _ noon hplain).2.mpr ⟨?_,?_⟩
  · intro kv hkv
    cases hkv
  · have hentries : ∀ e∈(typedDump "text/\"plain\"").entries,CleanEntry e := by decide +kernel
    exact hentries

/-- A tab is no part of a JSON string, and `json_escape` leaves it: neither as a string on its
own nor in a content type does it make a JSON text. -/
theorem jsonEscape_tab :
    (¬∀ s : Bytes,(∀ c∈s,c<0x80) → parse (quoted s)=some (.str s)) ∧
    (parse ((typedDump "text/html;\tcharset=utf-8").stamped noon).manifest).isSome=false := by
  refine ⟨?_,by decide +kernel⟩
  intro h
  have htab := h [0x09] (by simp)
  have hnone : (parse (quoted [0x09])).isSome=false := by decide
  rw [htab] at hnone
  cases hnone

end

end V2xPki.Provisioning
