import V2xPki.Cli.CertSummary
import V2xPki.Framework.JsonWriter
import V2xPki.Trust.TrustList

namespace V2xPki

namespace Cli

open Framework Framework.Json

/-- `bytes_to_hex` -/
def bytesToHex (data : Bytes) : Bytes :=
  data.flatMap fun c => [UInt8.ofNat (hexDigitsUpper.getD (c.toNat/16) '0').toNat,
    UInt8.ofNat (hexDigitsUpper.getD (c.toNat%16) '0').toNat]

def hid8Hex (h : HashedId8) : Bytes := bytesToHex h.toList

def boolText (b : Bool) : Bytes := if b then bytesOfString "true" else bytesOfString "false"

/-- What a loop prints that puts a comma before every turn but the first. -/
def commaSeparated : List Bytes → Bytes
  | [] => []
  | [s] => s
  | s::t::rest => s++bytesOfString ","++commaSeparated (t::rest)

/-- `print_cert_summary` with `json`. -/
def summaryText (s : CertSummary) : Bytes :=
  bytesOfString "\x7b\"hid8\":\""++hid8Hex s.hid8++bytesOfString "\",\"issuer_hid8\":\""++
    hid8Hex s.issuerHid8++bytesOfString "\",\"self_signed\":"++boolText s.selfSigned++
    bytesOfString ",\"size\":"++decimal s.sizeBytes++bytesOfString ",\"psids\":["++
    commaSeparated (s.psids.map integer)++bytesOfString "]\x7d\n"

/-- What `cmd_fetch_trust` prints for a certificate it has written. -/
def trustItemText (label path : String) (size : Nat) (hid8 : HashedId8) : Bytes :=
  bytesOfString "\x7b\"cert\":\""++bytesOfString label++bytesOfString "\",\"file\":\""++
    bytesOfString path++bytesOfString "\",\"size\":"++decimal size++
    bytesOfString ",\"hid8\":\""++hid8Hex hid8++bytesOfString "\"\x7d\n"

/-- What `cmd_verify_hid8` prints. -/
def verifyText (path : String) (size : Nat) (hid8 : HashedId8) (valid : Bool) : Bytes :=
  bytesOfString "\x7b\"file\":\""++bytesOfString path++bytesOfString "\",\"size\":"++decimal size++
    bytesOfString ",\"hid8\":\""++hid8Hex hid8++bytesOfString "\",\"valid\":"++boolText valid++
    bytesOfString "\x7d\n"

/-- What `cmd_fetch_ectl` prints. -/
def ectlText (size : Nat) (verified : Bool) (topo : TrustTopology) : Bytes :=
  bytesOfString "\x7b\"size\":"++decimal size++bytesOfString ",\"verified\":"++boolText verified++
    bytesOfString ",\"rcas\":"++decimal topo.rcas.length++bytesOfString ",\"eas\":"++
    decimal topo.eas.length++bytesOfString ",\"aas\":"++decimal topo.aas.length++
    bytesOfString ",\"dcs\":"++decimal topo.dcs.length++bytesOfString ",\"next_update\":"++
    decimal topo.ectlNextUpdate.toNat++bytesOfString ",\"expired\":"++boolText topo.ectlExpired++
    bytesOfString "\x7d\n"

def hid8Quoted (h : HashedId8) : Bytes :=
  bytesOfString "\""++bytesOfString (hid8HexUpper h)++bytesOfString "\""

def eaText (ea : EaInfo) : Bytes :=
  bytesOfString "\x7b\"hid8\":\""++bytesOfString (hid8HexUpper ea.cert.hashedId8)++
    bytesOfString "\",\"its_access_point\":\""++bytesOfString ea.itsAccessPoint++
    bytesOfString "\",\"aa_access_point\":\""++bytesOfString ea.aaAccessPoint++
    bytesOfString "\"\x7d"

def aaText (aa : AaInfo) : Bytes :=
  bytesOfString "\x7b\"hid8\":\""++bytesOfString (hid8HexUpper aa.cert.hashedId8)++
    bytesOfString "\",\"access_point\":\""++bytesOfString aa.accessPoint++bytesOfString "\"\x7d"

def dcText (dc : DcInfo) : Bytes :=
  bytesOfString "\x7b\"url\":\""++bytesOfString dc.url++bytesOfString "\"\x7d"

/-- What `cmd_discover` prints. -/
def topologyText (topo : TrustTopology) : Bytes :=
  bytesOfString "\x7b\"status\":\"ok\""++
    (match topo.tlm with
      | none => []
      | some tlm => bytesOfString ",\"tlm_hid8\":\""++bytesOfString (hid8HexUpper tlm.hashedId8)++
          bytesOfString "\"")++
    bytesOfString ",\"rcas\":["++
    commaSeparated (topo.rcas.map fun rca => hid8Quoted rca.hashedId8)++
    bytesOfString "],\"eas\":["++commaSeparated (topo.eas.map eaText)++
    bytesOfString "],\"aas\":["++commaSeparated (topo.aas.map aaText)++
    bytesOfString "],\"dcs\":["++commaSeparated (topo.dcs.map dcText)++
    bytesOfString "]"++bytesOfString ",\"ectl_sig_verified\":"++boolText topo.ectlSignatureVerified++
    bytesOfString ",\"ctl_sig_verified\":"++boolText topo.ctlSignatureVerified++
    bytesOfString "\x7d\n"

/-- What `cmd_enrol` and `cmd_request_at` print when they have their certificate. -/
def credentialText (member path : String) (hid8 : HashedId8) : Bytes :=
  bytesOfString "\x7b\"status\":\"ok\",\""++bytesOfString member++bytesOfString "\":\""++
    bytesOfString path++bytesOfString "\",\"hid8\":\""++hid8Hex hid8++bytesOfString "\"\x7d\n"

/-- What `cmd_info` prints. -/
def infoText (version : Bytes) : Bytes :=
  bytesOfString "\x7b\"name\":\"v2x-pki-client\",\"version\":\""++version++
    bytesOfString ("\",\"crypto\":\"NIST P-256 / brainpoolP256r1 / brainpoolP384r1\""++
      ",\"encoding\":\"COER (TS 103 097 v1.3.1)\",\"specs\":\"TS 102 941 v2.2.1 / IEEE 1609.2\""++
      ",\"keystore\":\"plaintext (DEV)\"\x7d\n")

/-- What these texts say. -/
def text (s : String) : Value := .str (bytesOfString s)

def member (name : String) (v : Value) : Bytes × Value := (bytesOfString name,v)

def count (n : Nat) : Value := .num (integer n)

def truth (b : Bool) : Value := .word (boolText b)

def summaryValue (s : CertSummary) : Value :=
  .obj [member "hid8" (.str (hid8Hex s.hid8)),member "issuer_hid8" (.str (hid8Hex s.issuerHid8)),
    member "self_signed" (truth s.selfSigned),member "size" (count s.sizeBytes),
    member "psids" (.arr (s.psids.map fun n => .num (integer n)))]

def trustItemValue (label path : String) (size : Nat) (hid8 : HashedId8) : Value :=
  .obj [member "cert" (text label),member "file" (text path),member "size" (count size),
    member "hid8" (.str (hid8Hex hid8))]

def verifyValue (path : String) (size : Nat) (hid8 : HashedId8) (valid : Bool) : Value :=
  .obj [member "file" (text path),member "size" (count size),member "hid8" (.str (hid8Hex hid8)),
    member "valid" (truth valid)]

def ectlValue (size : Nat) (verified : Bool) (topo : TrustTopology) : Value :=
  .obj [member "size" (count size),member "verified" (truth verified),
    member "rcas" (count topo.rcas.length),member "eas" (count topo.eas.length),
    member "aas" (count topo.aas.length),member "dcs" (count topo.dcs.length),
    member "next_update" (count topo.ectlNextUpdate.toNat),member "expired" (truth topo.ectlExpired)]

def eaValue (ea : EaInfo) : Value :=
  .obj [member "hid8" (text (hid8HexUpper ea.cert.hashedId8)),
    member "its_access_point" (text ea.itsAccessPoint),
    member "aa_access_point" (text ea.aaAccessPoint)]

def aaValue (aa : AaInfo) : Value :=
  .obj [member "hid8" (text (hid8HexUpper aa.cert.hashedId8)),
    member "access_point" (text aa.accessPoint)]

def dcValue (dc : DcInfo) : Value := .obj [member "url" (text dc.url)]

def topologyValue (topo : TrustTopology) : Value :=
  .obj (member "status" (text "ok")::
    ((topo.tlm.map fun tlm => member "tlm_hid8" (text (hid8HexUpper tlm.hashedId8))).toList++
      [member "rcas" (.arr (topo.rcas.map fun rca => text (hid8HexUpper rca.hashedId8))),
        member "eas" (.arr (topo.eas.map eaValue)),member "aas" (.arr (topo.aas.map aaValue)),
        member "dcs" (.arr (topo.dcs.map dcValue)),
        member "ectl_sig_verified" (truth topo.ectlSignatureVerified),
        member "ctl_sig_verified" (truth topo.ctlSignatureVerified)]))

def credentialValue (name path : String) (hid8 : HashedId8) : Value :=
  .obj [member "status" (text "ok"),member name (text path),member "hid8" (.str (hid8Hex hid8))]

def infoValue (version : Bytes) : Value :=
  .obj [member "name" (text "v2x-pki-client"),member "version" (.str version),
    member "crypto" (text "NIST P-256 / brainpoolP256r1 / brainpoolP384r1"),
    member "encoding" (text "COER (TS 103 097 v1.3.1)"),
    member "specs" (text "TS 102 941 v2.2.1 / IEEE 1609.2"),
    member "keystore" (text "plaintext (DEV)")]

section Texts

theorem renderItems_map {α : Type} (f : α → Value) (xs : List α) :
    renderItems (xs.map f)=commaSeparated (xs.map fun x => render (f x)) := by
  induction xs with
  | nil => rfl
  | cons x xs ih =>
    cases xs with
    | nil => rfl
    | cons y ys =>
      simp only [List.map_cons,renderItems,commaSeparated] at ih ⊢
      rw [ih,List.append_assoc]
      rfl

/-- The lines that are printed on their own. -/
theorem lineTexts_eq :
    (∀ s,summaryText s=render (summaryValue s)++[0x0a]) ∧
    (∀ size verified topo,
      ectlText size verified topo=render (ectlValue size verified topo)++[0x0a]) ∧
    (∀ path size hid8 valid,
      verifyText path size hid8 valid=render (verifyValue path size hid8 valid)++[0x0a]) ∧
    (∀ label path size hid8,
      trustItemText label path size hid8=render (trustItemValue label path size hid8)++[0x0a]) ∧
    ∀ name path hid8,credentialText name path hid8=render (credentialValue name path hid8)++[0x0a] := by
  refine ⟨?_,?_,?_,?_,?_⟩
  · intro s
    simp only [summaryText,summaryValue,render,renderMembers,member,count,truth,integer_natCast,
      renderItems_map,List.append_assoc,List.cons_append]
    rfl
  · intro size verified topo
    simp only [ectlText,ectlValue,render,renderMembers,member,count,truth,integer_natCast,
      List.append_assoc,List.cons_append]
    rfl
  · intro path size hid8 valid
    simp only [verifyText,verifyValue,render,renderMembers,member,count,text,truth,integer_natCast,
      List.append_assoc,List.cons_append]
    rfl
  · intro label path size hid8
    simp only [trustItemText,trustItemValue,render,renderMembers,member,count,text,integer_natCast,
      List.append_assoc,List.cons_append]
    rfl
  · intro name path hid8
    simp only [credentialText,credentialValue,render,renderMembers,member,text,List.append_assoc,
      List.cons_append]
    rfl

set_option maxRecDepth 4000 in
theorem infoText_eq (version : Bytes) : infoText version=render (infoValue version)++[0x0a] := by
  simp only [infoText,infoValue,render,renderMembers,member,text,List.append_assoc,List.cons_append]
  rfl

/-- The entries of a topology. -/
theorem entryTexts_eq : (∀ ea,eaText ea=render (eaValue ea)) ∧
    (∀ aa,aaText aa=render (aaValue aa)) ∧ ∀ dc,dcText dc=render (dcValue dc) := by
  refine ⟨?_,?_,?_⟩
  · intro ea
    simp only [eaText,eaValue,render,renderMembers,member,text,List.append_assoc,List.cons_append]
    rfl
  · intro aa
    simp only [aaText,aaValue,render,renderMembers,member,text,List.append_assoc,List.cons_append]
    rfl
  · intro dc
    simp only [dcText,dcValue,render,renderMembers,member,text,List.append_assoc,List.cons_append]
    rfl

theorem topologyText_eq (topo : TrustTopology) :
    topologyText topo=render (topologyValue topo)++[0x0a] := by
  have heas : commaSeparated (topo.eas.map eaText)=renderItems (topo.eas.map eaValue) := by
    rw [renderItems_map,funext entryTexts_eq.1]
  have haas : commaSeparated (topo.aas.map aaText)=renderItems (topo.aas.map aaValue) := by
    rw [renderItems_map,funext entryTexts_eq.2.1]
  have hdcs : commaSeparated (topo.dcs.map dcText)=renderItems (topo.dcs.map dcValue) := by
    rw [renderItems_map,funext entryTexts_eq.2.2]
  have hrcas : commaSeparated (topo.rcas.map fun rca => hid8Quoted rca.hashedId8)=
      renderItems (topo.rcas.map fun rca => text (hid8HexUpper rca.hashedId8)) := by
    rw [renderItems_map]
    rfl
  unfold topologyText topologyValue
  rw [heas,haas,hdcs,hrcas]
  cases topo.tlm with
  | none =>
    simp only [Option.map_none,Option.toList_none,List.nil_append,render,renderMembers,member,text,
      truth,List.append_assoc,List.cons_append]
    rfl
  | some tlm =>
    simp only [Option.map_some,Option.toList_some,List.nil_append,render,renderMembers,member,text,
      truth,List.append_assoc,List.cons_append]
    rfl

end Texts

section Plain

theorem bytesToHex_plain (data : Bytes) : Plain (bytesToHex data) := by
  have hdigit : ∀ i<16,printable (UInt8.ofNat (hexDigitsUpper.getD i '0').toNat)=true := by decide
  apply plain_of_printable
  rw [List.all_eq_true]
  intro c hc
  obtain ⟨x,-,hx⟩ := List.mem_flatMap.mp hc
  have hlt := x.toNat_lt
  rcases List.mem_pair.mp hx with rfl | rfl
  · exact hdigit _ (by omega)
  · exact hdigit _ (by omega)

/-- The two printers of identifiers agree. -/
theorem hid8Hex_eq (h : HashedId8) : hid8Hex h=bytesOfString (hid8HexUpper h) := by
  simp only [hid8Hex,bytesToHex,bytesOfString,hid8HexUpper,hexString,String.toList_ofList,
    List.map_flatMap]
  rfl

theorem hid8_plain (h : HashedId8) : Plain (bytesOfString (hid8HexUpper h)) := by
  rw [← hid8Hex_eq]
  exact bytesToHex_plain _

theorem truth_renderable (b : Bool) : Renderable (truth b) := by
  cases b with
  | false => exact .word (by decide)
  | true => exact .word (by decide)

theorem count_renderable (n : Nat) : Renderable (count n) := .num n

theorem text_renderable {s : String} (h : Plain (bytesOfString s)) : Renderable (text s) := .str h

/-- The strings that come from the network or from the caller need no escape. -/
structure PlainTopology (topo : TrustTopology) : Prop where
  eas : ∀ ea∈topo.eas,Plain (bytesOfString ea.itsAccessPoint) ∧ Plain (bytesOfString ea.aaAccessPoint)
  aas : ∀ aa∈topo.aas,Plain (bytesOfString aa.accessPoint)
  dcs : ∀ dc∈topo.dcs,Plain (bytesOfString dc.url)

theorem obj_renderable {members : List (Bytes × Value)}
    (h : ∀ m∈members,Plain m.1 ∧ Renderable m.2) : Renderable (.obj members) :=
  .obj (fun m hm => (h m hm).1) (fun m hm => (h m hm).2)

theorem arr_renderable {α : Type} {f : α → Value} {xs : List α} (h : ∀ x∈xs,Renderable (f x)) :
    Renderable (.arr (xs.map f)) := by
  refine .arr fun v hv => ?_
  obtain ⟨x,hx,rfl⟩ := List.mem_map.mp hv
  exact h x hx

/-- The names of the members are ASCII without quotation marks. -/
theorem name_plain {name : String} (h : (bytesOfString name).all printable=true) {v : Value}
    (hv : Renderable v) : Plain (member name v).1 ∧ Renderable (member name v).2 :=
  ⟨plain_of_printable h,hv⟩

theorem summaryValue_renderable (s : CertSummary) : Renderable (summaryValue s) := by
  apply obj_renderable
  simp only [List.forall_mem_cons,List.not_mem_nil,false_implies,implies_true,and_true]
  exact ⟨name_plain (by decide) (.str (bytesToHex_plain _)),
    name_plain (by decide) (.str (bytesToHex_plain _)),
    name_plain (by decide) (truth_renderable _),name_plain (by decide) (count_renderable _),
    name_plain (by decide) (arr_renderable fun n _ => .num n)⟩

theorem ectlValue_renderable (size : Nat) (verified : Bool) (topo : TrustTopology) :
    Renderable (ectlValue size verified topo) := by
  apply obj_renderable
  simp only [List.forall_mem_cons,List.not_mem_nil,false_implies,implies_true,and_true]
  exact ⟨name_plain (by decide) (count_renderable _),name_plain (by decide) (truth_renderable _),
    name_plain (by decide) (count_renderable _),name_plain (by decide) (count_renderable _),
    name_plain (by decide) (count_renderable _),name_plain (by decide) (count_renderable _),
    name_plain (by decide) (count_renderable _),name_plain (by decide) (truth_renderable _)⟩

theorem verifyValue_renderable {path : String} (h : Plain (bytesOfString path)) (size : Nat)
    (hid8 : HashedId8) (valid : Bool) : Renderable (verifyValue path size hid8 valid) := by
  apply obj_renderable
  simp only [List.forall_mem_cons,List.not_mem_nil,false_implies,implies_true,and_true]
  exact ⟨name_plain (by decide) (text_renderable h),name_plain (by decide) (count_renderable _),
    name_plain (by decide) (.str (bytesToHex_plain _)),name_plain (by decide) (truth_renderable _)⟩

theorem trustItemValue_renderable {label path : String} (hlabel : Plain (bytesOfString label))
    (hpath : Plain (bytesOfString path)) (size : Nat) (hid8 : HashedId8) :
    Renderable (trustItemValue label path size hid8) := by
  apply obj_renderable
  simp only [List.forall_mem_cons,List.not_mem_nil,false_implies,implies_true,and_true]
  exact ⟨name_plain (by decide) (text_renderable hlabel),
    name_plain (by decide) (text_renderable hpath),name_plain (by decide) (count_renderable _),
    name_plain (by decide) (.str (bytesToHex_plain _))⟩

theorem credentialValue_renderable {name path : String}
    (hname : (bytesOfString name).all printable=true) (hpath : Plain (bytesOfString path))
    (hid8 : HashedId8) : Renderable (credentialValue name path hid8) := by
  apply obj_renderable
  simp only [List.forall_mem_cons,List.not_mem_nil,false_implies,implies_true,and_true]
  exact ⟨name_plain (by decide) (text_renderable (plain_of_printable (by decide))),
    name_plain hname (text_renderable hpath),name_plain (by decide) (.str (bytesToHex_plain _))⟩

theorem topologyValue_renderable {topo : TrustTopology} (h : PlainTopology topo) :
    Renderable (topologyValue topo) := by
  have hea : ∀ ea∈topo.eas,Renderable (eaValue ea) := by
    intro ea hin
    obtain ⟨hits,haa⟩ := h.eas ea hin
    apply obj_renderable
    simp only [List.forall_mem_cons,List.not_mem_nil,false_implies,implies_true,and_true]
    exact ⟨name_plain (by decide) (text_renderable (hid8_plain _)),
      name_plain (by decide) (text_renderable hits),name_plain (by decide) (text_renderable haa)⟩
  have haa : ∀ aa∈topo.aas,Renderable (aaValue aa) := by
    intro aa hin
    apply obj_renderable
    simp only [List.forall_mem_cons,List.not_mem_nil,false_implies,implies_true,and_true]
    exact ⟨name_plain (by decide) (text_renderable (hid8_plain _)),
      name_plain (by decide) (text_renderable (h.aas aa hin))⟩
  have hdc : ∀ dc∈topo.dcs,Renderable (dcValue dc) := by
    intro dc hin
    apply obj_renderable
    simp only [List.forall_mem_cons,List.not_mem_nil,false_implies,implies_true,and_true]
    exact name_plain (by decide) (text_renderable (h.dcs dc hin))
  have hrca : ∀ rca∈topo.rcas,Renderable (text (hid8HexUpper rca.hashedId8)) :=
    fun rca _ => text_renderable (hid8_plain _)
  apply obj_renderable
  rw [List.forall_mem_cons,List.forall_mem_append]
  refine ⟨name_plain (by decide) (text_renderable (plain_of_printable (by decide))),?_,?_⟩
  · intro m hm
    obtain ⟨tlm,-,rfl⟩ := Option.map_eq_some_iff.mp (Option.mem_toList.mp hm)
    exact name_plain (by decide) (text_renderable (hid8_plain _))
  · simp only [List.forall_mem_cons,List.not_mem_nil,false_implies,implies_true,and_true]
    exact ⟨name_plain (by decide) (arr_renderable hrca),name_plain (by decide) (arr_renderable hea),
      name_plain (by decide) (arr_renderable haa),name_plain (by decide) (arr_renderable hdc),
      name_plain (by decide) (truth_renderable _),name_plain (by decide) (truth_renderable _)⟩

theorem infoValue_renderable {version : Bytes} (h : Plain version) :
    Renderable (infoValue version) := by
  have htext : ∀ s∈["v2x-pki-client","NIST P-256 / brainpoolP256r1 / brainpoolP384r1",
      "COER (TS 103 097 v1.3.1)","TS 102 941 v2.2.1 / IEEE 1609.2","plaintext (DEV)"],
      (bytesOfString s).all printable=true := by decide
  have hplain := fun s hs => text_renderable (plain_of_printable (htext s hs))
  apply obj_renderable
  simp only [List.forall_mem_cons,List.not_mem_nil,false_implies,implies_true,and_true]
  exact ⟨name_plain (by decide) (hplain _ (by simp)),name_plain (by decide) (.str h),
    name_plain (by decide) (hplain _ (by simp)),name_plain (by decide) (hplain _ (by simp)),
    name_plain (by decide) (hplain _ (by simp)),name_plain (by decide) (hplain _ (by simp))⟩

end Plain

/-- Every line of JSON that the commands print is read back as what it says: the summary of a
certificate and the account of an ECTL always, the others if the version, the paths they name and
the addresses in the lists need no escape. -/
theorem json_lines_read_back (s : CertSummary) (topo : TrustTopology) (path : String) (size : Nat)
    (hid8 : HashedId8) (verified : Bool) (version : Bytes) :
    parse (summaryText s)=some (summaryValue s) ∧
    parse (ectlText size verified topo)=some (ectlValue size verified topo) ∧
    (Plain version → parse (infoText version)=some (infoValue version)) ∧
    (PlainTopology topo → parse (topologyText topo)=some (topologyValue topo)) ∧
    (Plain (bytesOfString path) →
      parse (verifyText path size hid8 verified)=some (verifyValue path size hid8 verified) ∧
      (∀ label∈["RCA","TLM","MA"],parse (trustItemText label path size hid8)=
        some (trustItemValue label path size hid8)) ∧
      ∀ name∈["ec_cert","at_cert"],parse (credentialText name path hid8)=
        some (credentialValue name path hid8)) := by
  have hlabels : ∀ label∈["RCA","TLM","MA"],(bytesOfString label).all printable=true := by decide
  have hnames : ∀ name∈["ec_cert","at_cert"],(bytesOfString name).all printable=true := by decide
  refine ⟨?_,?_,?_,?_,?_⟩
  · rw [lineTexts_eq.1]
    exact parse_render (summaryValue_renderable s)
  · rw [lineTexts_eq.2.1]
    exact parse_render (ectlValue_renderable size verified topo)
  · intro hversion
    rw [infoText_eq]
    exact parse_render (infoValue_renderable hversion)
  · intro hplain
    rw [topologyText_eq]
    exact parse_render (topologyValue_renderable hplain)
  · intro hpath
    refine ⟨?_,?_,?_⟩
    · rw [lineTexts_eq.2.2.1]
      exact parse_render (verifyValue_renderable hpath size hid8 verified)
    · intro label hlabel
      rw [lineTexts_eq.2.2.2.1]
      exact parse_render
        (trustItemValue_renderable (plain_of_printable (hlabels label hlabel)) hpath size hid8)
    · intro name hname
      rw [lineTexts_eq.2.2.2.2]
      exact parse_render (credentialValue_renderable (hnames name hname) hpath hid8)

end Cli

end V2xPki
