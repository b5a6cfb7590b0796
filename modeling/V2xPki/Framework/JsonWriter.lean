import V2xPki.Framework.Json

namespace V2xPki.Framework.Json

/- A writer of JSON texts without white space, which puts every string between quotation marks as
it is. What it writes is read back if no string needs an escape. -/

mutual

def render : Value → Octets
  | .word name => name
  | .num text => text
  | .str s => 0x22::(s++[0x22])
  | .arr items => 0x5b::(renderItems items++[0x5d])
  | .obj members => 0x7b::(renderMembers members++[0x7d])

/-- Items with commas between them. -/
def renderItems : List Value → Octets
  | [] => []
  | [v] => render v
  | v::w::items => render v++0x2c::renderItems (w::items)

def renderMembers : List (Octets × Value) → Octets
  | [] => []
  | [(name,v)] => 0x22::(name++0x22::0x3a::render v)
  | (name,v)::m::members => 0x22::(name++0x22::0x3a::render v)++0x2c::renderMembers (m::members)

end

/-- The words and numbers are some, and no string needs an escape. -/
inductive Renderable : Value → Prop where
  | word {name : Octets} (h : name∈words) : Renderable (.word name)
  | num (n : Int) : Renderable (.num (integer n))
  | str {s : Octets} (h : Plain s) : Renderable (.str s)
  | arr {items : List Value} (h : ∀ v∈items,Renderable v) : Renderable (.arr items)
  | obj {members : List (Octets × Value)} (hnames : ∀ m∈members,Plain m.1)
      (h : ∀ m∈members,Renderable m.2) : Renderable (.obj members)

/-- What may follow a value: a comma, the end of what is around it, or the end of a line. -/
def Follows (c : UInt8) : Prop := c=0x2c ∨ c=0x7d ∨ c=0x5d ∨ c=0x0a

/-- The value is read back wherever one may stand. -/
def ReadBack (v : Value) : Prop :=
  ∀ stack mode c rest,mode=.value ∨ mode=.item → Follows c →
    run ⟨.between,stack,mode⟩ (render v++c::rest)=run (complete v stack) (c::rest)

section
variable {stack : List Frame} {mode : Mode}

theorem complete_lex (v : Value) (stack : List Frame) : (complete v stack).lex=.between := by
  cases stack with
  | nil => rfl
  | cons f _ => cases f <;> rfl

theorem push_scalar (hmode : mode=.value ∨ mode=.item) (v : Value) :
    push stack mode (.scalar v)=some (complete v stack) := by
  rcases hmode with rfl | rfl <;> rfl

/-- Between tokens the next octet opens one. -/
theorem run_complete (v : Value) (c : UInt8) (rest : Octets) :
    run (complete v stack) (c::rest)=
      (opening (complete v stack).stack (complete v stack).mode c).bind fun t => run t rest := by
  rw [run_cons,step,complete_lex]

theorem readBack_num (n : Int) : ReadBack (.num (integer n)) := by
  intro stack mode c rest hmode hc
  obtain ⟨phase,hended,hrun⟩ := run_integer stack mode n
  have hnext : phase.next c=none := by
    rcases hc with rfl | rfl | rfl | rfl <;> cases phase <;> rfl
  show run _ (integer n++c::rest)=_
  rw [run_append,hrun,Option.bind_some,run_cons,run_complete]
  simp only [step,hnext,hended,if_true,push_scalar hmode]
  rfl

theorem readBack_word {name : Octets} (h : name∈words) : ReadBack (.word name) := by
  intro stack mode c rest hmode hc
  have hopen : run ⟨.between,stack,mode⟩ name=some ⟨.word name,stack,mode⟩ := by
    have hname := h
    simp only [words,List.mem_cons,List.not_mem_nil,or_false] at hname
    rcases hname with rfl | rfl | rfl <;> rfl
  have hnot : isLetter c=false := by
    rcases hc with rfl | rfl | rfl | rfl <;> rfl
  show run _ (name++c::rest)=_
  rw [run_append,hopen,Option.bind_some,run_cons,run_complete]
  simp only [step,hnot,Bool.false_eq_true,if_false,if_pos h,push_scalar hmode]
  rfl

theorem readBack_str {s : Octets} (h : Plain s) : ReadBack (.str s) := by
  intro stack mode c rest hmode hc
  have hopen : step ⟨.between,stack,mode⟩ 0x22=some ⟨.text .start [],stack,mode⟩ := rfl
  have hclose : step ⟨.text .start s,stack,mode⟩ 0x22=push stack mode (.scalar (.str s)) := rfl
  show run _ (0x22::(s++[0x22])++c::rest)=_
  rw [List.cons_append,List.append_assoc,run_cons,hopen,Option.bind_some,run_append,run_plain h,
    Option.bind_some,List.nil_append,List.singleton_append,run_cons,hclose,push_scalar hmode,
    Option.bind_some]

/-- A member name and the colon after it. -/
theorem run_name {name : Octets} {members : List (Octets × Value)} (h : Plain name)
    (hmode : mode=.member ∨ mode=.name) (rest : Octets) :
    run ⟨.between,.obj members []::stack,mode⟩ (0x22::(name++0x22::0x3a::rest))=
      run ⟨.between,.obj members name::stack,.value⟩ rest := by
  have hopen : step ⟨.between,.obj members []::stack,mode⟩ 0x22=
      some ⟨.text .start [],.obj members []::stack,mode⟩ := rfl
  have hclose : step ⟨.text .start name,.obj members []::stack,mode⟩ 0x22=
      some ⟨.between,.obj members name::stack,.colon⟩ := by
    rcases hmode with rfl | rfl <;> rfl
  have hcolon : step ⟨.between,.obj members name::stack,.colon⟩ 0x3a=
      some ⟨.between,.obj members name::stack,.value⟩ := rfl
  rw [run_cons,hopen,Option.bind_some,run_append,run_plain h,Option.bind_some,List.nil_append,
    run_cons,hclose,Option.bind_some,run_cons,hcolon,Option.bind_some]

/-- The items of an array, up to its end. -/
theorem run_items {items : List Value} (h : ∀ v∈items,ReadBack v) {done : List Value}
    (hmode : mode=.item ∨ mode=.value ∧ items≠[]) (rest : Octets) :
    run ⟨.between,.arr done::stack,mode⟩ (renderItems items++0x5d::rest)=
      run (complete (.arr (done++items)) stack) rest := by
  induction items generalizing done mode with
  | nil =>
    obtain rfl : mode=.item := by
      rcases hmode with hmode | ⟨-,hne⟩
      · exact hmode
      · exact absurd rfl hne
    rw [List.append_nil]
    rfl
  | cons v items ih =>
    obtain ⟨hv,hitems⟩ := List.forall_mem_cons.mp h
    have hwhere : mode=.value ∨ mode=.item := by
      rcases hmode with hmode | ⟨hmode,-⟩
      · exact .inr hmode
      · exact .inl hmode
    cases items with
    | nil =>
      show run _ (render v++0x5d::rest)=_
      rw [hv _ _ _ _ hwhere (.inr (.inr (.inl rfl)))]
      rfl
    | cons w items =>
      have hcomma : step (complete v (.arr done::stack)) 0x2c=
          some ⟨.between,.arr (done++[v])::stack,.value⟩ := rfl
      show run _ (render v++0x2c::renderItems (w::items)++0x5d::rest)=_
      rw [List.append_assoc,List.cons_append,hv _ _ _ _ hwhere (.inl rfl),run_cons,hcomma,
        Option.bind_some,ih hitems (.inr ⟨rfl,List.cons_ne_nil _ _⟩),List.append_assoc]
      rfl

/-- The members of an object, up to its end. -/
theorem run_members {members : List (Octets × Value)} (hnames : ∀ m∈members,Plain m.1)
    (h : ∀ m∈members,ReadBack m.2) {done : List (Octets × Value)}
    (hmode : mode=.member ∨ mode=.name ∧ members≠[]) (rest : Octets) :
    run ⟨.between,.obj done []::stack,mode⟩ (renderMembers members++0x7d::rest)=
      run (complete (.obj (done++members)) stack) rest := by
  induction members generalizing done mode with
  | nil =>
    obtain rfl : mode=.member := by
      rcases hmode with hmode | ⟨-,hne⟩
      · exact hmode
      · exact absurd rfl hne
    rw [List.append_nil]
    rfl
  | cons m members ih =>
    obtain ⟨name,v⟩ := m
    obtain ⟨hname,hrestNames⟩ := List.forall_mem_cons.mp hnames
    obtain ⟨hv,hmembers⟩ := List.forall_mem_cons.mp h
    have hwhere : mode=.member ∨ mode=.name := by
      rcases hmode with hmode | ⟨hmode,-⟩
      · exact .inl hmode
      · exact .inr hmode
    cases members with
    | nil =>
      have hsplit : renderMembers [(name,v)]++0x7d::rest=
          0x22::(name++0x22::0x3a::(render v++0x7d::rest)) := by
        simp [renderMembers]
      rw [hsplit,run_name hname hwhere,hv _ _ _ _ (.inl rfl) (.inr (.inl rfl))]
      rfl
    | cons m members =>
      have hsplit : renderMembers ((name,v)::m::members)++0x7d::rest=
          0x22::(name++0x22::0x3a::(render v++0x2c::(renderMembers (m::members)++0x7d::rest))) := by
        simp [renderMembers]
      have hcomma : step (complete v (.obj done name::stack)) 0x2c=
          some ⟨.between,.obj (done++[(name,v)]) []::stack,.name⟩ := rfl
      rw [hsplit,run_name hname hwhere,hv _ _ _ _ (.inl rfl) (.inl rfl),run_cons,hcomma,
        Option.bind_some,ih hrestNames hmembers (.inr ⟨rfl,List.cons_ne_nil _ _⟩),List.append_assoc]
      rfl

theorem readBack_of_renderable {v : Value} (h : Renderable v) : ReadBack v := by
  induction h with
  | word h => exact readBack_word h
  | num n => exact readBack_num n
  | str h => exact readBack_str h
  | arr h ih =>
    intro stack mode c rest hmode hc
    rename_i items
    have hopen : step ⟨.between,stack,mode⟩ 0x5b=some ⟨.between,.arr []::stack,.item⟩ := by
      rcases hmode with rfl | rfl <;> rfl
    show run _ (0x5b::(renderItems items++[0x5d])++c::rest)=_
    rw [List.cons_append,List.append_assoc,run_cons,hopen,Option.bind_some,List.singleton_append,
      run_items ih (.inl rfl)]
    rfl
  | obj hnames h ih =>
    intro stack mode c rest hmode hc
    rename_i members
    have hopen : step ⟨.between,stack,mode⟩ 0x7b=some ⟨.between,.obj [] []::stack,.member⟩ := by
      rcases hmode with rfl | rfl <;> rfl
    show run _ (0x7b::(renderMembers members++[0x7d])++c::rest)=_
    rw [List.cons_append,List.append_assoc,run_cons,hopen,Option.bind_some,List.singleton_append,
      run_members hnames ih (.inl rfl)]
    rfl

end

/-- A line with one value is read as that value. -/
theorem parse_render {v : Value} (h : Renderable v) : parse (render v++[0x0a])=some v := by
  have hline := readBack_of_renderable h [] .value 0x0a [] (.inl rfl) (.inr (.inr (.inr rfl)))
  rw [parse,start,hline]
  rfl

end V2xPki.Framework.Json
