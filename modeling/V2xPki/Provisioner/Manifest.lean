import V2xPki.Data.Bytes
import V2xPki.Framework.Json

namespace V2xPki.Provisioning

open Framework Framework.Json

/-- `json_escape` -/
def jsonEscape : Bytes → Bytes
  | [] => []
  | c::s =>
      if c=0x22 ∨ c=0x5c then 0x5c::c::jsonEscape s
      else if c=0x0a then 0x5c::0x6e::jsonEscape s
      else c::jsonEscape s

/-- `WireDump::Entry` -/
structure Entry where
  step : Bytes
  direction : Bytes
  file : Bytes
  note : Bytes
  size : Nat
  sha256 : Bytes
  httpStatus : Int
  contentType : Bytes
deriving DecidableEq

def metaLine (kv : Bytes × Bytes) : Bytes :=
  bytesOfString "  \""++jsonEscape kv.1++bytesOfString "\": \""++jsonEscape kv.2++
    bytesOfString "\",\n"

/-- A member of an artefact that is only there when its text is not empty. -/
def optionalText (opening value : Bytes) : Bytes :=
  if value.isEmpty then [] else opening++jsonEscape value++bytesOfString "\""

def entryText (e : Entry) : Bytes :=
  bytesOfString "    \x7b\"step\": \""++e.step++bytesOfString "\", \"direction\": \""++
    e.direction++bytesOfString "\", \"file\": \""++e.file++bytesOfString "\", \"size\": "++
    decimal e.size++bytesOfString ", \"sha256\": \""++e.sha256++bytesOfString "\""++
    (if e.httpStatus≠0 then bytesOfString ", \"http_status\": "++integer e.httpStatus else [])++
    optionalText (bytesOfString ", \"content_type\": \"") e.contentType++
    optionalText (bytesOfString ", \"note\": \"") e.note++bytesOfString "\x7d"

/-- The entries, each on a line, with a comma after all but the last. -/
def entryLines : List Entry → Bytes
  | [] => []
  | [e] => entryText e++bytesOfString "\n"
  | e::es => entryText e++bytesOfString ",\n"++entryLines es

/-- What `flush` writes to `manifest.json`. -/
def manifestText (metas : List (Bytes × Bytes)) (entries : List Entry) : Bytes :=
  bytesOfString "\x7b\n"++metas.flatMap metaLine++bytesOfString "  \"artefacts\": [\n"++
    entryLines entries++bytesOfString "  ]\n\x7d\n"

/-- What the manifest says. -/
def optionalMember (name : String) (value : Bytes) : List (Bytes × Value) :=
  if value.isEmpty then [] else [(bytesOfString name,.str value)]

def entryValue (e : Entry) : Value :=
  .obj ([(bytesOfString "step",.str e.step),(bytesOfString "direction",.str e.direction),
    (bytesOfString "file",.str e.file),(bytesOfString "size",.num (decimal e.size)),
    (bytesOfString "sha256",.str e.sha256)]++
    (if e.httpStatus≠0 then [(bytesOfString "http_status",.num (integer e.httpStatus))] else [])++
    optionalMember "content_type" e.contentType++optionalMember "note" e.note)

def manifestValue (metas : List (Bytes × Bytes)) (entries : List Entry) : Value :=
  .obj (metas.map (fun kv => (kv.1,.str kv.2))++
    [(bytesOfString "artefacts",.arr (entries.map entryValue))])

/-- What `json_escape` lets through: of the control characters only the newline is escaped. -/
def escapeStep (u : Utf8) (c : UInt8) : Option Utf8 :=
  if c<0x20 ∧ c≠0x0a then none else u.step c

/-- UTF-8 without control characters other than the newline. -/
def Escapable (s : Bytes) : Prop := s.foldlM escapeStep .start=some .start

instance (s : Bytes) : Decidable (Escapable s) := inferInstanceAs (Decidable (_=_))

/-- The strings of a line of metadata can be escaped. -/
def CleanMeta (kv : Bytes × Bytes) : Prop := Escapable kv.1 ∧ Escapable kv.2

instance (kv : Bytes × Bytes) : Decidable (CleanMeta kv) := inferInstanceAs (Decidable (_ ∧ _))

/-- The strings of an entry that are escaped can be. -/
def CleanEntry (e : Entry) : Prop := Escapable e.contentType ∧ Escapable e.note

instance (e : Entry) : Decidable (CleanEntry e) := inferInstanceAs (Decidable (_ ∧ _))

section Strings
variable {stack : List Frame} {mode : Mode} {acc s : Bytes}

/-- A backslash and a letter stand for an octet that is ASCII. -/
theorem run_escape {u : Utf8} {c letter : UInt8} (rest : Bytes)
    (hnext : step ⟨.escape acc,stack,mode⟩ letter=some ⟨.text .start (acc++[c]),stack,mode⟩)
    (hstart : escapeStep .start c=some .start) (hcut : ∀ v≠.start,escapeStep v c=none) :
    run ⟨.text u acc,stack,mode⟩ (0x5c::letter::rest)=
      (escapeStep u c).bind fun v => run ⟨.text v (acc++[c]),stack,mode⟩ rest := by
  rw [run_cons]
  by_cases hu : u=.start
  · subst hu
    have hback : step ⟨.text .start acc,stack,mode⟩ 0x5c=some ⟨.escape acc,stack,mode⟩ := rfl
    rw [hback,Option.bind_some,run_cons,hnext,hstart]
    rfl
  · rw [step_special (.inr rfl) hu,hcut u hu]
    rfl

theorem run_jsonEscape {u : Utf8} :
    run ⟨.text u acc,stack,mode⟩ (jsonEscape s)=
      (s.foldlM escapeStep u).map fun v => ⟨.text v (acc++s),stack,mode⟩ := by
  induction s generalizing u acc with
  | nil => simp [jsonEscape]
  | cons c s ih =>
    have hrest : ((escapeStep u c).bind fun v => run ⟨.text v (acc++[c]),stack,mode⟩ (jsonEscape s))=
        ((c::s).foldlM escapeStep u).map fun v => ⟨.text v (acc++c::s),stack,mode⟩ := by
      rw [List.foldlM_cons]
      cases escapeStep u c with
      | none => rfl
      | some v =>
        rw [Option.bind_some,Option.bind_eq_bind,Option.bind_some,ih,List.append_assoc]
        rfl
    rw [← hrest,jsonEscape]
    by_cases hspecial : c=0x22 ∨ c=0x5c
    · rw [if_pos hspecial]
      apply run_escape
      · rcases hspecial with rfl | rfl <;> rfl
      · rcases hspecial with rfl | rfl <;> rfl
      · intro v hv
        rcases hspecial with rfl | rfl <;> cases v <;> first | exact absurd rfl hv | rfl
    · rw [if_neg hspecial]
      simp only [not_or] at hspecial
      by_cases hnewline : c=0x0a
      · subst hnewline
        rw [if_pos rfl]
        apply run_escape
        · rfl
        · rfl
        · intro v hv
          cases v <;> first | exact absurd rfl hv | rfl
      · have hchar : charStep u c=escapeStep u c := by
          simp only [charStep,escapeStep,ne_eq,hnewline,not_false_eq_true,and_true]
        rw [if_neg hnewline,run_cons,step_text hspecial.1 hspecial.2,hchar]
        cases escapeStep u c <;> rfl

/-- An escaped string up to its closing quotation mark and on. -/
theorem run_quoted (s rest : Bytes) :
    run ⟨.text .start [],stack,mode⟩ (jsonEscape s++0x22::rest)=
      if Escapable s then (push stack mode (.scalar (.str s))).bind fun t => run t rest
      else none := by
  rw [run_append,run_jsonEscape]
  by_cases h : Escapable s
  · have hfold : s.foldlM escapeStep .start=some .start := h
    rw [if_pos h,hfold]
    rfl
  · rw [if_neg h]
    cases hfold : s.foldlM escapeStep .start with
    | none => rfl
    | some v =>
      have hv : v≠.start := by
        rintro rfl
        exact h hfold
      simp only [Option.map_some,Option.bind_some,List.nil_append,run_cons]
      rw [step_special (.inl rfl) hv]
      rfl

theorem run_plain_quoted (h : Plain s) (rest : Bytes) :
    run ⟨.text .start [],stack,mode⟩ (s++0x22::rest)=
      (push stack mode (.scalar (.str s))).bind fun t => run t rest := by
  rw [run_append,run_plain h,Option.bind_some,List.nil_append,run_cons]
  rfl

end Strings

section Lines
variable {members : List (Bytes × Value)} {stack : List Frame} {items : List Value} {name : Bytes}

/-- A line of metadata adds a member, when both of its strings can be escaped. -/
theorem run_metaLine {mode : Mode} (hmode : mode=.member ∨ mode=.name) (kv : Bytes × Bytes)
    (rest : Bytes) :
    run ⟨.between,.obj members []::stack,mode⟩ (metaLine kv++rest)=
      if CleanMeta kv then
        run ⟨.between,.obj (members++[(kv.1,.str kv.2)]) []::stack,.name⟩ rest
      else none := by
  obtain ⟨k,v⟩ := kv
  have hsplit : metaLine (k,v)++rest=[0x20,0x20,0x22]++(jsonEscape k++0x22::([0x3a,0x20,0x22]++
      (jsonEscape v++0x22::([0x2c,0x0a]++rest)))) := by
    simp only [metaLine,List.append_assoc]
    rfl
  have hopen : run ⟨.between,.obj members []::stack,mode⟩ [0x20,0x20,0x22]=
      some ⟨.text .start [],.obj members []::stack,mode⟩ := rfl
  have hname : push (.obj members []::stack) mode (.scalar (.str k))=
      some ⟨.between,.obj members k::stack,.colon⟩ := by
    rcases hmode with rfl | rfl <;> rfl
  have hcolon : run ⟨.between,.obj members k::stack,.colon⟩ [0x3a,0x20,0x22]=
      some ⟨.text .start [],.obj members k::stack,.value⟩ := rfl
  have hvalue : push (.obj members k::stack) .value (.scalar (.str v))=
      some ⟨.between,.obj (members++[(k,.str v)]) []::stack,.more⟩ := rfl
  have hcomma : run ⟨.between,.obj (members++[(k,.str v)]) []::stack,.more⟩ [0x2c,0x0a]=
      some ⟨.between,.obj (members++[(k,.str v)]) []::stack,.name⟩ := rfl
  rw [hsplit,run_append,hopen,Option.bind_some,run_quoted]
  by_cases hk : Escapable k
  · rw [if_pos hk,hname,Option.bind_some,run_append,hcolon,Option.bind_some,run_quoted]
    by_cases hv : Escapable v
    · rw [if_pos hv,if_pos ⟨hk,hv⟩,hvalue,Option.bind_some,run_append,hcomma,Option.bind_some]
    · rw [if_neg hv,if_neg (fun h => hv h.2)]
  · rw [if_neg hk,if_neg (fun h => hk h.1)]

theorem run_metaLines {mode : Mode} (hmode : mode=.member ∨ mode=.name)
    (metas : List (Bytes × Bytes)) (rest : Bytes) :
    run ⟨.between,.obj members []::stack,mode⟩ (metas.flatMap metaLine++rest)=
      if ∀ kv∈metas,CleanMeta kv then
        run ⟨.between,.obj (members++metas.map fun kv => (kv.1,.str kv.2)) []::stack,
          if metas=[] then mode else .name⟩ rest
      else none := by
  induction metas generalizing members mode with
  | nil => simp
  | cons kv metas ih =>
    rw [List.flatMap_cons,List.append_assoc,run_metaLine hmode]
    by_cases hkv : CleanMeta kv
    · rw [if_pos hkv,ih (.inr rfl)]
      by_cases hmetas : ∀ kv∈metas,CleanMeta kv
      · rw [if_pos hmetas,if_pos (List.forall_mem_cons.mpr ⟨hkv,hmetas⟩)]
        simp
      · rw [if_neg hmetas,if_neg (fun h => hmetas (List.forall_mem_cons.mp h).2)]
    · rw [if_neg hkv,if_neg (fun h => hkv (List.forall_mem_cons.mp h).1)]

/-- A member whose text is written as it is. -/
theorem run_plainMember {s : Bytes} (h : Plain s) (rest : Bytes) :
    run ⟨.text .start [],.obj members name::stack,.value⟩ (s++0x22::rest)=
      run ⟨.between,.obj (members++[(name,.str s)]) []::stack,.more⟩ rest := by
  rw [run_plain_quoted h]
  rfl

/-- A member that is left out when its text is empty. -/
theorem run_optionalText {opening : Bytes} (label : String) (value rest : Bytes)
    (hopen : run ⟨.between,.obj members []::stack,.more⟩ opening=
      some ⟨.text .start [],.obj members (bytesOfString label)::stack,.value⟩) :
    run ⟨.between,.obj members []::stack,.more⟩ (optionalText opening value++rest)=
      if Escapable value then
        run ⟨.between,.obj (members++optionalMember label value) []::stack,.more⟩ rest
      else none := by
  unfold optionalText optionalMember
  cases hempty : value.isEmpty with
  | true =>
    obtain rfl : value=[] := by simpa using hempty
    have hnil : Escapable [] := rfl
    simp [hnil]
  | false =>
    have hsplit : opening++jsonEscape value++bytesOfString "\""++rest=
        opening++(jsonEscape value++0x22::rest) := by
      simp only [List.append_assoc]
      rfl
    simp only [Bool.false_eq_true,if_false]
    rw [hsplit,run_append,hopen,Option.bind_some,run_quoted]
    rfl

/-- What the provisioner writes as it is: names that need no escaping, and hexadecimal. -/
structure PlainEntry (e : Entry) : Prop where
  step : Plain e.step
  direction : Plain e.direction
  file : Plain e.file
  sha256 : Plain e.sha256

/-- The members after the first five, and the end of the entry. -/
def entryTail (e : Entry) (rest : Bytes) : Bytes :=
  optionalText (bytesOfString ", \"content_type\": \"") e.contentType++
    (optionalText (bytesOfString ", \"note\": \"") e.note++0x7d::rest)

theorem entryTail_head (e : Entry) (rest : Bytes) :
    ∃ c t,entryTail e rest=c::t ∧ (c=0x2c ∨ c=0x7d) := by
  unfold entryTail optionalText
  cases e.contentType.isEmpty with
  | false => exact ⟨0x2c,_,rfl,.inl rfl⟩
  | true =>
    cases e.note.isEmpty with
    | false => exact ⟨0x2c,_,rfl,.inl rfl⟩
    | true => exact ⟨0x7d,_,rfl,.inr rfl⟩

theorem run_entryTail (e : Entry) (rest : Bytes) :
    run ⟨.between,.obj members []::.arr items::stack,.more⟩ (entryTail e rest)=
      if CleanEntry e then
        run ⟨.between,.arr (items++[.obj (members++optionalMember "content_type" e.contentType++
          optionalMember "note" e.note)])::stack,.more⟩ rest
      else none := by
  unfold entryTail
  rw [run_optionalText "content_type" e.contentType _ rfl]
  by_cases htype : Escapable e.contentType
  · rw [if_pos htype,run_optionalText "note" e.note _ rfl]
    by_cases hnote : Escapable e.note
    · rw [if_pos hnote,if_pos (show CleanEntry e from ⟨htype,hnote⟩)]
      rfl
    · rw [if_neg hnote,if_neg (fun h : CleanEntry e => hnote h.2)]
  · rw [if_neg htype,if_neg (fun h : CleanEntry e => htype h.1)]

/-- A number in an object, before another member or the end of the entry. -/
theorem run_integerMember (n : Int) {c : UInt8} {t : Bytes} (hc : c=0x2c ∨ c=0x7d) :
    run ⟨.between,.obj members name::stack,.value⟩ (integer n++c::t)=
      run ⟨.between,.obj (members++[(name,.num (integer n))]) []::stack,.more⟩ (c::t) :=
  run_integer_then hc n t

/-- The status, unless it is zero. -/
theorem run_httpStatus (n : Int) (e : Entry) (rest : Bytes) :
    run ⟨.between,.obj members []::stack,.more⟩ ((if n≠0 then
        bytesOfString ", \"http_status\": "++integer n else [])++entryTail e rest)=
      run ⟨.between,.obj (members++(if n≠0 then
        [(bytesOfString "http_status",.num (integer n))] else [])) []::stack,.more⟩
        (entryTail e rest) := by
  by_cases hn : n=0
  · simp [hn]
  · obtain ⟨c,t,htail,hc⟩ := entryTail_head e rest
    have hopen : run ⟨.between,.obj members []::stack,.more⟩
        (bytesOfString ", \"http_status\": ")=
      some ⟨.between,.obj members (bytesOfString "http_status")::stack,.value⟩ := rfl
    rw [if_pos hn,if_pos hn,List.append_assoc,run_append,hopen,Option.bind_some,htail,
      run_integerMember n hc]

/-- An entry adds an item to the list, when its content type and note can be escaped. -/
theorem run_entryText {mode : Mode} (hmode : mode=.item ∨ mode=.value) {e : Entry}
    (h : PlainEntry e) (rest : Bytes) :
    run ⟨.between,.arr items::stack,mode⟩ (entryText e++rest)=
      if CleanEntry e then run ⟨.between,.arr (items++[entryValue e])::stack,.more⟩ rest
      else none := by
  have hsplit : entryText e++rest=bytesOfString "    \x7b\"step\": \""++(e.step++0x22::
      (bytesOfString ", \"direction\": \""++(e.direction++0x22::
      (bytesOfString ", \"file\": \""++(e.file++0x22::(bytesOfString ", \"size\": "++
      (integer e.size++0x2c::(bytesOfString " \"sha256\": \""++(e.sha256++0x22::
      ((if e.httpStatus≠0 then bytesOfString ", \"http_status\": "++integer e.httpStatus else [])++
        entryTail e rest)))))))))) := by
    rw [integer_natCast]
    simp only [entryText,entryTail,List.append_assoc]
    rfl
  have hstep : run ⟨.between,.arr items::stack,mode⟩ (bytesOfString "    \x7b\"step\": \"")=
      some ⟨.text .start [],.obj [] (bytesOfString "step")::.arr items::stack,.value⟩ := by
    rcases hmode with rfl | rfl <;> rfl
  have hdirection : ∀ ms,run ⟨.between,.obj ms []::.arr items::stack,.more⟩
      (bytesOfString ", \"direction\": \"")=
      some ⟨.text .start [],.obj ms (bytesOfString "direction")::.arr items::stack,.value⟩ :=
    fun _ => rfl
  have hfile : ∀ ms,run ⟨.between,.obj ms []::.arr items::stack,.more⟩
      (bytesOfString ", \"file\": \"")=
      some ⟨.text .start [],.obj ms (bytesOfString "file")::.arr items::stack,.value⟩ :=
    fun _ => rfl
  have hsize : ∀ ms,run ⟨.between,.obj ms []::.arr items::stack,.more⟩
      (bytesOfString ", \"size\": ")=
      some ⟨.between,.obj ms (bytesOfString "size")::.arr items::stack,.value⟩ :=
    fun _ => rfl
  have hsha : ∀ ms,run ⟨.between,.obj ms []::.arr items::stack,.more⟩
      (0x2c::bytesOfString " \"sha256\": \"")=
      some ⟨.text .start [],.obj ms (bytesOfString "sha256")::.arr items::stack,.value⟩ :=
    fun _ => rfl
  rw [hsplit,run_append,hstep,Option.bind_some,run_plainMember h.step,run_append,hdirection,
    Option.bind_some,run_plainMember h.direction,run_append,hfile,Option.bind_some,
    run_plainMember h.file,run_append,hsize,Option.bind_some,run_integerMember _ (.inl rfl),
    ← List.cons_append,run_append,hsha,Option.bind_some,run_plainMember h.sha256,run_httpStatus,
    run_entryTail]
  simp only [entryValue,integer_natCast,List.nil_append,List.cons_append]

theorem run_entryLines {mode : Mode} (hmode : mode=.item ∨ mode=.value) {entries : List Entry}
    (h : ∀ e∈entries,PlainEntry e) (hne : entries≠[]) (rest : Bytes) :
    run ⟨.between,.arr items::stack,mode⟩ (entryLines entries++rest)=
      if ∀ e∈entries,CleanEntry e then
        run ⟨.between,.arr (items++entries.map entryValue)::stack,.more⟩ rest
      else none := by
  induction entries generalizing items mode with
  | nil => exact absurd rfl hne
  | cons e es ih =>
    have he := h e (by simp)
    cases es with
    | nil =>
      have hline : run ⟨.between,.arr (items++[entryValue e])::stack,.more⟩
          (bytesOfString "\n"++rest)=
          run ⟨.between,.arr (items++[entryValue e])::stack,.more⟩ rest := rfl
      rw [entryLines,List.append_assoc,run_entryText hmode he,hline]
      simp
    | cons e' es =>
      have hline : ∀ t,run ⟨.between,.arr (items++[entryValue e])::stack,.more⟩
          (bytesOfString ",\n"++t)=
          run ⟨.between,.arr (items++[entryValue e])::stack,.value⟩ t := fun _ => rfl
      rw [entryLines,List.append_assoc,List.append_assoc,run_entryText hmode he]
      · by_cases hclean : CleanEntry e
        · rw [if_pos hclean,hline,ih (.inr rfl) (fun x hx => h x (by simp [hx])) (by simp)]
          by_cases hes : ∀ x∈e'::es,CleanEntry x
          · rw [if_pos hes,if_pos (List.forall_mem_cons.mpr ⟨hclean,hes⟩)]
            simp
          · rw [if_neg hes,if_neg (fun hall => hes (List.forall_mem_cons.mp hall).2)]
        · rw [if_neg hclean,if_neg (fun hall => hclean (List.forall_mem_cons.mp hall).1)]
      · simp

end Lines

/-- A manifest whose strings can all be escaped is read as what it says, and any other is no
JSON text. -/
theorem parse_manifestText (metas : List (Bytes × Bytes)) {entries : List Entry}
    (h : ∀ e∈entries,PlainEntry e) :
    parse (manifestText metas entries)=
      if (∀ kv∈metas,CleanMeta kv) ∧ ∀ e∈entries,CleanEntry e then
        some (manifestValue metas entries)
      else none := by
  have hsplit : manifestText metas entries=[0x7b,0x0a]++(metas.flatMap metaLine++
      (bytesOfString "  \"artefacts\": ["++(0x0a::(entryLines entries++
        bytesOfString "  ]\n\x7d\n")))) := by
    simp only [manifestText,List.append_assoc]
    rfl
  have hbrace : run start [0x7b,0x0a]=some ⟨.between,[.obj [] []],.member⟩ := rfl
  have hlist : ∀ ms (mode : Mode),mode=.member ∨ mode=.name →
      run ⟨.between,[.obj ms []],mode⟩ (bytesOfString "  \"artefacts\": [")=
        some ⟨.between,[.arr [],.obj ms (bytesOfString "artefacts")],.item⟩ := by
    rintro ms mode (rfl | rfl) <;> rfl
  have hnewline : ∀ (st : List Frame) (mode : Mode) t,run ⟨.between,st,mode⟩ (0x0a::t)=
      run ⟨.between,st,mode⟩ t := fun _ _ _ => rfl
  have hend : ∀ items ms (mode : Mode),mode=.more ∨ mode=.item ∧ items=[] →
      (run ⟨.between,[.arr items,.obj ms (bytesOfString "artefacts")],mode⟩
        (bytesOfString "  ]\n\x7d\n")).bind State.result=
        some (.obj (ms++[(bytesOfString "artefacts",.arr items)])) := by
    rintro items ms mode (rfl | ⟨rfl,rfl⟩) <;> rfl
  unfold parse
  rw [hsplit,run_append,hbrace,Option.bind_some,run_metaLines (.inl rfl)]
  by_cases hmetas : ∀ kv∈metas,CleanMeta kv
  · have hmode : (if metas=[] then Mode.member else .name)=.member ∨
        (if metas=[] then Mode.member else .name)=.name := by
      split <;> simp
    rw [if_pos hmetas,run_append,hlist _ _ hmode,Option.bind_some,hnewline]
    by_cases hne : entries=[]
    · subst hne
      rw [entryLines,List.nil_append,List.nil_append,hend _ _ _ (.inr ⟨rfl,rfl⟩)]
      rw [if_pos ⟨hmetas,by simp⟩]
      rfl
    · rw [run_entryLines (.inl rfl) h hne]
      by_cases hentries : ∀ e∈entries,CleanEntry e
      · rw [if_pos hentries,if_pos ⟨hmetas,hentries⟩,hend _ _ _ (.inl rfl)]
        rfl
      · rw [if_neg hentries,if_neg (fun hall => hentries hall.2)]
        rfl
  · rw [if_neg hmetas,if_neg (fun hall => hmetas hall.1)]
    rfl

/-- A string on its own, as the manifest writes it. -/
def quoted (s : Bytes) : Bytes := 0x22::(jsonEscape s++[0x22])

theorem parse_quoted (s : Bytes) :
    parse (quoted s)=if Escapable s then some (.str s) else none := by
  have hopen : step start 0x22=some ⟨.text .start [],[],.value⟩ := rfl
  unfold parse quoted
  rw [run_cons,hopen,Option.bind_some,run_quoted]
  split <;> rfl

section Texts
variable {s : Bytes}

/-- Among ASCII texts the control characters other than the newline make the difference. -/
theorem escapable_ascii (h : ∀ c∈s,c<0x80) : Escapable s ↔ ∀ c∈s,0x20 ≤ c ∨ c=0x0a := by
  unfold Escapable
  induction s with
  | nil => simp
  | cons c s ih =>
    have hc := h c (by simp)
    rw [List.foldlM_cons,List.forall_mem_cons]
    by_cases hcontrol : c<0x20 ∧ c≠0x0a
    · have hstep : escapeStep .start c=none := if_pos hcontrol
      have hnot : ¬(0x20 ≤ c ∨ c=0x0a) := by
        rintro (hle | heq)
        · exact absurd hcontrol.1 (UInt8.not_lt.mpr hle)
        · exact hcontrol.2 heq
      rw [hstep]
      simp [hnot]
    · have hstep : escapeStep .start c=some .start := by
        rw [escapeStep,if_neg hcontrol]
        exact if_pos hc
      have hle : 0x20 ≤ c ∨ c=0x0a := by
        rcases not_and_or.mp hcontrol with hle | heq
        · exact .inl (UInt8.not_lt.mp hle)
        · exact .inr (not_not.mp heq)
      rw [hstep,Option.bind_eq_bind,Option.bind_some,ih fun d hd => h d (by simp [hd])]
      simp [hle]

theorem escapable_of_printable (h : s.all printable=true) : Escapable s := by
  rw [List.all_eq_true] at h
  have hascii : ∀ c∈s,c<0x80 := fun c hc => (printable_iff.mp (h c hc)).2.1
  exact (escapable_ascii hascii).mpr fun c hc => .inl (printable_iff.mp (h c hc)).1

end Texts

end V2xPki.Provisioning
