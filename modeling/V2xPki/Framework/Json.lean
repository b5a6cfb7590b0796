import Mathlib.Tactic.Common
import Mathlib.Tactic.IntervalCases

namespace V2xPki.Framework.Json

/- RFC 8259: an octet-by-octet reader of JSON texts in UTF-8. Every octet is one step of an
automaton with a stack, so that a text is read as its pieces are, one after the other. -/

abbrev Octets := List UInt8

/-- How far an encoded character has got: what may follow is one continuation octet, two,
three, or a first one from the narrower range that some leading octets ask for. -/
inductive Utf8 where
  | start
  | one
  | two
  | three
  | e0
  | ed
  | f0
  | f4
deriving DecidableEq

def Utf8.step : Utf8 → UInt8 → Option Utf8
  | .start,c =>
      if c<0x80 then some .start
      else if c<0xc2 then none
      else if c<0xe0 then some .one
      else if c=0xe0 then some .e0
      else if c=0xed then some .ed
      else if c<0xf0 then some .two
      else if c=0xf0 then some .f0
      else if c<0xf4 then some .three
      else if c=0xf4 then some .f4
      else none
  | .one,c => if 0x80 ≤ c ∧ c<0xc0 then some .start else none
  | .two,c => if 0x80 ≤ c ∧ c<0xc0 then some .one else none
  | .three,c => if 0x80 ≤ c ∧ c<0xc0 then some .two else none
  | .e0,c => if 0xa0 ≤ c ∧ c<0xc0 then some .one else none
  | .ed,c => if 0x80 ≤ c ∧ c<0xa0 then some .one else none
  | .f0,c => if 0x90 ≤ c ∧ c<0xc0 then some .two else none
  | .f4,c => if 0x80 ≤ c ∧ c<0x90 then some .two else none

inductive Value where
  | word (name : Octets)
  | num (text : Octets)
  | str (s : Octets)
  | arr (items : List Value)
  | obj (members : List (Octets × Value))

inductive Token where
  | leftBrace
  | rightBrace
  | leftBracket
  | rightBracket
  | colon
  | comma
  | scalar (v : Value)

/-- A value that is not complete: an array, or an object and the name of its next member. -/
inductive Frame where
  | arr (items : List Value)
  | obj (members : List (Octets × Value)) (name : Octets)

/-- What may come next: a value, a value or the end of an array, a name or the end of an object,
a name, a colon, a comma or an end, nothing. -/
inductive Mode where
  | value
  | item
  | member
  | name
  | colon
  | more
  | done (v : Value)

inductive NumPhase where
  | minus
  | zero
  | int
  | dot
  | frac
  | e
  | sign
  | exp
deriving DecidableEq

def isDigit (c : UInt8) : Bool := 0x30 ≤ c && c ≤ 0x39

namespace NumPhase

/-- The next phase of a number, if the octet belongs to it. -/
def next : NumPhase → UInt8 → Option NumPhase
  | .minus,c => if c=0x30 then some .zero else if isDigit c then some .int else none
  | .zero,c => if c=0x2e then some .dot else if c=0x65 ∨ c=0x45 then some .e else none
  | .int,c =>
      if isDigit c then some .int else if c=0x2e then some .dot
      else if c=0x65 ∨ c=0x45 then some .e else none
  | .dot,c => if isDigit c then some .frac else none
  | .frac,c => if isDigit c then some .frac else if c=0x65 ∨ c=0x45 then some .e else none
  | .e,c =>
      if isDigit c then some .exp else if c=0x2b ∨ c=0x2d then some .sign else none
  | .sign,c => if isDigit c then some .exp else none
  | .exp,c => if isDigit c then some .exp else none

/-- A number may end here. -/
def Ended : NumPhase → Bool
  | .zero => true
  | .int => true
  | .frac => true
  | .exp => true
  | _ => false

end NumPhase

/-- Where in a token the reader is, with what it has of it. -/
inductive Lex where
  | between
  | text (u : Utf8) (acc : Octets)
  | escape (acc : Octets)
  | unicode (acc : Octets) (left value : Nat)
  | number (phase : NumPhase) (acc : Octets)
  | word (acc : Octets)

structure State where
  lex : Lex
  stack : List Frame
  mode : Mode

def start : State := ⟨.between,[],.value⟩

/-- A value is complete: it goes into the frame around it. -/
def complete (v : Value) : List Frame → State
  | [] => ⟨.between,[],.done v⟩
  | .arr items::stack => ⟨.between,.arr (items++[v])::stack,.more⟩
  | .obj members name::stack => ⟨.between,.obj (members++[(name,v)]) []::stack,.more⟩

def push (stack : List Frame) : Mode → Token → Option State
  | .value,.scalar v => some (complete v stack)
  | .value,.leftBracket => some ⟨.between,.arr []::stack,.item⟩
  | .value,.leftBrace => some ⟨.between,.obj [] []::stack,.member⟩
  | .item,.scalar v => some (complete v stack)
  | .item,.leftBracket => some ⟨.between,.arr []::stack,.item⟩
  | .item,.leftBrace => some ⟨.between,.obj [] []::stack,.member⟩
  | .item,.rightBracket => match stack with
      | .arr items::rest => some (complete (.arr items) rest)
      | _ => none
  | .member,.scalar (.str s) => match stack with
      | .obj members _::rest => some ⟨.between,.obj members s::rest,.colon⟩
      | _ => none
  | .member,.rightBrace => match stack with
      | .obj members _::rest => some (complete (.obj members) rest)
      | _ => none
  | .name,.scalar (.str s) => match stack with
      | .obj members _::rest => some ⟨.between,.obj members s::rest,.colon⟩
      | _ => none
  | .colon,.colon => some ⟨.between,stack,.value⟩
  | .more,.comma => match stack with
      | .arr _::_ => some ⟨.between,stack,.value⟩
      | .obj _ _::_ => some ⟨.between,stack,.name⟩
      | [] => none
  | .more,.rightBracket => match stack with
      | .arr items::rest => some (complete (.arr items) rest)
      | _ => none
  | .more,.rightBrace => match stack with
      | .obj members _::rest => some (complete (.obj members) rest)
      | _ => none
  | _,_ => none

def isWhite (c : UInt8) : Bool := c==0x20 || c==0x09 || c==0x0a || c==0x0d

def isLetter (c : UInt8) : Bool := 0x61 ≤ c && c ≤ 0x7a

/-- The first octet of a token, or white space. -/
def opening (stack : List Frame) (mode : Mode) (c : UInt8) : Option State :=
  if isWhite c then some ⟨.between,stack,mode⟩
  else if c=0x22 then some ⟨.text .start [],stack,mode⟩
  else if c=0x2d then some ⟨.number .minus [c],stack,mode⟩
  else if c=0x30 then some ⟨.number .zero [c],stack,mode⟩
  else if isDigit c then some ⟨.number .int [c],stack,mode⟩
  else if isLetter c then some ⟨.word [c],stack,mode⟩
  else if c=0x7b then push stack mode .leftBrace
  else if c=0x7d then push stack mode .rightBrace
  else if c=0x5b then push stack mode .leftBracket
  else if c=0x5d then push stack mode .rightBracket
  else if c=0x3a then push stack mode .colon
  else if c=0x2c then push stack mode .comma
  else none

/-- `true`, `false` and `null`. -/
def words : List Octets := [[0x74,0x72,0x75,0x65],[0x66,0x61,0x6c,0x73,0x65],[0x6e,0x75,0x6c,0x6c]]

def escaped (acc : Octets) (c : UInt8) : Option Lex :=
  if c=0x22 ∨ c=0x5c ∨ c=0x2f then some (.text .start (acc++[c]))
  else if c=0x62 then some (.text .start (acc++[0x08]))
  else if c=0x66 then some (.text .start (acc++[0x0c]))
  else if c=0x6e then some (.text .start (acc++[0x0a]))
  else if c=0x72 then some (.text .start (acc++[0x0d]))
  else if c=0x74 then some (.text .start (acc++[0x09]))
  else if c=0x75 then some (.unicode acc 4 0)
  else none

def hexDigit (c : UInt8) : Option Nat :=
  if isDigit c then some (c.toNat-0x30)
  else if 0x41 ≤ c ∧ c ≤ 0x46 then some (c.toNat-0x37)
  else if 0x61 ≤ c ∧ c ≤ 0x66 then some (c.toNat-0x57)
  else none

/-- The octets of an escaped UTF-16 unit; the two halves of a pair are kept apart. -/
def unitOctets (v : Nat) : Octets :=
  if v<0x80 then [UInt8.ofNat v]
  else if v<0x800 then [UInt8.ofNat (0xc0+v/64),UInt8.ofNat (0x80+v%64)]
  else [UInt8.ofNat (0xe0+v/4096),UInt8.ofNat (0x80+v/64%64),UInt8.ofNat (0x80+v%64)]

/-- One octet inside a string: its end, an escape, or a part of a character that needs none. -/
def inText (u : Utf8) (acc : Octets) (stack : List Frame) (mode : Mode) (c : UInt8) :
    Option State :=
  if u=.start ∧ c=0x22 then push stack mode (.scalar (.str acc))
  else if u=.start ∧ c=0x5c then some ⟨.escape acc,stack,mode⟩
  else if c<0x20 then none
  else (u.step c).map fun v => ⟨.text v (acc++[c]),stack,mode⟩

def step (s : State) (c : UInt8) : Option State :=
  match s.lex with
  | .between => opening s.stack s.mode c
  | .text u acc => inText u acc s.stack s.mode c
  | .escape acc => (escaped acc c).map fun l => ⟨l,s.stack,s.mode⟩
  | .unicode acc left value => match hexDigit c with
      | none => none
      | some d =>
        let v := value*16+d
        some ⟨if left≤1 then .text .start (acc++unitOctets v) else .unicode acc (left-1) v,
          s.stack,s.mode⟩
  | .number phase acc => match phase.next c with
      | some p => some ⟨.number p (acc++[c]),s.stack,s.mode⟩
      | none =>
        if phase.Ended then do
          let t ← push s.stack s.mode (.scalar (.num acc))
          opening t.stack t.mode c
        else none
  | .word acc =>
      if isLetter c then some ⟨.word (acc++[c]),s.stack,s.mode⟩
      else if acc∈words then do
        let t ← push s.stack s.mode (.scalar (.word acc))
        opening t.stack t.mode c
      else none

def run (s : State) (text : Octets) : Option State := text.foldlM step s

/-- The value of a text that has been read to its end. -/
def State.result (s : State) : Option Value :=
  let last := match s.lex with
    | .between => some s
    | .number phase acc => if phase.Ended then push s.stack s.mode (.scalar (.num acc)) else none
    | .word acc => if acc∈words then push s.stack s.mode (.scalar (.word acc)) else none
    | _ => none
  match last with
  | some ⟨_,_,.done v⟩ => some v
  | _ => none

/-- `JSON-text = ws value ws`. -/
def parse (text : Octets) : Option Value := (run start text).bind State.result

theorem run_append (s : State) (a b : Octets) : run s (a++b)=(run s a).bind fun t => run t b := by
  unfold run
  rw [List.foldlM_append]
  rfl

theorem run_cons (s : State) (c : UInt8) (text : Octets) :
    run s (c::text)=(step s c).bind fun t => run t text := rfl

@[simp] theorem run_nil (s : State) : run s []=some s := rfl

section Strings
variable {stack : List Frame} {mode : Mode} {acc s : Octets}

/-- One octet of a string that is not escaped. -/
def charStep (u : Utf8) (c : UInt8) : Option Utf8 := if c<0x20 then none else u.step c

/-- A text that stands for itself between quotation marks. -/
structure Plain (s : Octets) : Prop where
  chars : s.foldlM charStep .start=some .start
  quote : 0x22∉s
  backslash : 0x5c∉s

theorem step_text {u : Utf8} {c : UInt8} (hquote : c≠0x22) (hback : c≠0x5c) :
    step ⟨.text u acc,stack,mode⟩ c=
      (charStep u c).map fun v => ⟨.text v (acc++[c]),stack,mode⟩ := by
  unfold step inText charStep
  dsimp only
  rw [if_neg (by simp [hquote]),if_neg (by simp [hback])]
  split <;> rfl

/-- A quotation mark or a backslash means something between characters only. -/
theorem step_special {u : Utf8} {c : UInt8} (hc : c=0x22 ∨ c=0x5c) (hu : u≠.start) :
    step ⟨.text u acc,stack,mode⟩ c=none := by
  rcases hc with rfl | rfl <;> cases u <;> first | exact absurd rfl hu | rfl

theorem run_unescaped {u : Utf8} (hquote : 0x22∉s) (hback : 0x5c∉s) :
    run ⟨.text u acc,stack,mode⟩ s=
      (s.foldlM charStep u).map fun v => ⟨.text v (acc++s),stack,mode⟩ := by
  induction s generalizing u acc with
  | nil => simp
  | cons c s ih =>
    simp only [List.mem_cons,not_or] at hquote hback
    rw [run_cons,step_text (Ne.symm hquote.1) (Ne.symm hback.1),List.foldlM_cons]
    cases charStep u c with
    | none => rfl
    | some v =>
      simp only [Option.map_some,Option.bind_some,Option.bind_eq_bind]
      rw [ih hquote.2 hback.2,List.append_assoc]
      rfl

theorem run_plain (h : Plain s) :
    run ⟨.text .start acc,stack,mode⟩ s=some ⟨.text .start (acc++s),stack,mode⟩ := by
  rw [run_unescaped h.quote h.backslash,h.chars]
  rfl

/-- An ASCII character that stands for itself in a string. -/
def printable (c : UInt8) : Bool := 0x20 ≤ c && c<0x80 && c != 0x22 && c != 0x5c

theorem printable_iff {c : UInt8} :
    printable c=true ↔ 0x20 ≤ c ∧ c<0x80 ∧ c≠0x22 ∧ c≠0x5c := by
  simp [printable,and_assoc]

theorem plain_of_printable (h : s.all printable=true) : Plain s := by
  rw [List.all_eq_true] at h
  refine ⟨?_,fun hq => absurd (h _ hq) (by decide),fun hb => absurd (h _ hb) (by decide)⟩
  induction s with
  | nil => rfl
  | cons c s ih =>
    obtain ⟨hle,hlt,-⟩ := printable_iff.mp (h c (by simp))
    have hstep : charStep .start c=some .start := by
      rw [charStep,if_neg (UInt8.not_lt.mpr hle)]
      exact if_pos hlt
    rw [List.foldlM_cons,hstep]
    exact ih fun d hd => h d (by simp [hd])

theorem Plain.append {a b : Octets} (ha : Plain a) (hb : Plain b) : Plain (a++b) where
  chars := by
    rw [List.foldlM_append,ha.chars]
    exact hb.chars
  quote := by simp [ha.quote,hb.quote]
  backslash := by simp [ha.backslash,hb.backslash]

end Strings

section Numbers
variable {stack : List Frame} {mode : Mode}

/-- The decimal digits of a number. -/
def decimal (n : Nat) : Octets :=
  if n<10 then [UInt8.ofNat (0x30+n)] else decimal (n/10)++[UInt8.ofNat (0x30+n%10)]
termination_by n

theorem decimal_printable (n : Nat) : (decimal n).all printable=true := by
  have hdigit : ∀ d<10,printable (UInt8.ofNat (0x30+d))=true := by decide
  induction n using Nat.strong_induction_on with
  | h n ih =>
    rw [decimal]
    split
    · rename_i hsmall
      rw [List.all_cons,hdigit n hsmall]
      rfl
    · rw [List.all_append,ih (n/10) (by omega),List.all_cons,
        hdigit (n%10) (Nat.mod_lt n (by decide))]
      rfl

theorem isDigit_ofNat {d : Nat} (h : d<10) : isDigit (UInt8.ofNat (0x30+d))=true := by
  interval_cases d <;> decide

/-- The reader is about to begin the digits of a number of which it has `acc`. -/
structure NumberOpen (acc : Octets) (s : State) : Prop where
  zero : step s 0x30=some ⟨.number .zero (acc++[0x30]),s.stack,s.mode⟩
  digit : ∀ d,0<d → d<10 → step s (UInt8.ofNat (0x30+d))=
    some ⟨.number .int (acc++[UInt8.ofNat (0x30+d)]),s.stack,s.mode⟩

theorem numberOpen_between : NumberOpen [] ⟨.between,stack,mode⟩ where
  zero := rfl
  digit := by
    intro d hpos hlt
    interval_cases d <;> rfl

theorem numberOpen_minus : NumberOpen [0x2d] ⟨.number .minus [0x2d],stack,mode⟩ where
  zero := rfl
  digit := by
    intro d hpos hlt
    interval_cases d <;> rfl

/-- The digits are read as one number without leading zeros. -/
theorem run_decimal {acc : Octets} {s : State} (h : NumberOpen acc s) (n : Nat) :
    ∃ phase : NumPhase,phase.Ended=true ∧ (0<n → phase=.int) ∧
      run s (decimal n)=some ⟨.number phase (acc++decimal n),s.stack,s.mode⟩ := by
  induction n using Nat.strong_induction_on with
  | h n ih =>
    rw [decimal]
    by_cases hsmall : n<10
    · rw [if_pos hsmall,run_cons]
      rcases Nat.eq_zero_or_pos n with rfl | hpos
      · have hzero : step s (UInt8.ofNat (0x30+0))=_ := h.zero
        exact ⟨.zero,rfl,fun h => absurd h (by decide),by rw [hzero]; rfl⟩
      · exact ⟨.int,rfl,fun _ => rfl,by rw [h.digit n hpos hsmall]; rfl⟩
    · rw [if_neg hsmall]
      obtain ⟨phase,-,hint,hrun⟩ := ih (n/10) (by omega)
      obtain rfl : phase=.int := hint (by omega)
      refine ⟨.int,rfl,fun _ => rfl,?_⟩
      rw [run_append,hrun,Option.bind_some,run_cons]
      have hdigit : NumPhase.next .int (UInt8.ofNat (0x30+n%10))=some .int :=
        if_pos (isDigit_ofNat (Nat.mod_lt n (by decide)))
      simp only [step,hdigit,Option.bind_some,run_nil,List.append_assoc]

/-- An integer as it is printed. -/
def integer (n : Int) : Octets := if n<0 then 0x2d::decimal n.natAbs else decimal n.natAbs

theorem integer_natCast (n : Nat) : integer n=decimal n := by
  rw [integer,if_neg (by omega),Int.natAbs_natCast]

variable (stack mode) in
theorem run_integer (n : Int) : ∃ phase : NumPhase,phase.Ended=true ∧
    run ⟨.between,stack,mode⟩ (integer n)=some ⟨.number phase (integer n),stack,mode⟩ := by
  unfold integer
  by_cases hneg : n<0
  · have hopen : NumberOpen [0x2d] ⟨.number .minus [0x2d],stack,mode⟩ := numberOpen_minus
    obtain ⟨phase,hended,-,hrun⟩ := run_decimal hopen n.natAbs
    have hminus : step ⟨.between,stack,mode⟩ 0x2d=some ⟨.number .minus [0x2d],stack,mode⟩ := rfl
    rw [if_pos hneg]
    exact ⟨phase,hended,by rw [run_cons,hminus,Option.bind_some,hrun]; rfl⟩
  · have hopen : NumberOpen [] ⟨.between,stack,mode⟩ := numberOpen_between
    obtain ⟨phase,hended,-,hrun⟩ := run_decimal hopen n.natAbs
    rw [if_neg hneg]
    exact ⟨phase,hended,hrun⟩

/-- After a number a comma or a brace completes the value. -/
theorem run_integer_then {c : UInt8} (hc : c=0x2c ∨ c=0x7d) (n : Int) (rest : Octets) :
    run ⟨.between,stack,.value⟩ (integer n++c::rest)=
      run (complete (.num (integer n)) stack) (c::rest) := by
  obtain ⟨phase,hended,hrun⟩ := run_integer stack .value n
  have hnext : phase.next c=none := by
    rcases hc with rfl | rfl <;> cases phase <;> rfl
  have hlex : (complete (.num (integer n)) stack).lex=.between := by
    cases stack with
    | nil => rfl
    | cons f _ => cases f <;> rfl
  rw [run_append,hrun,Option.bind_some,run_cons,run_cons]
  congr 1
  simp only [step,hnext,hended,if_true,hlex,push]
  rfl

end Numbers

end V2xPki.Framework.Json
