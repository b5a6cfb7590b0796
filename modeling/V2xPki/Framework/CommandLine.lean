import Mathlib.Data.List.Basic

namespace V2xPki.Framework

/- The loop by which a program reads its command line: some names take the word that follows
them as their value, and every other word stands on its own. A name without a word after it
stands on its own too. -/

variable {α σ ε β : Type}

/-- A piece of a command line, as the loop takes it. -/
inductive Word (α : Type) where
  | option (name value : α)
  | single (word : α)
deriving DecidableEq

def Word.args : Word α → List α
  | .option name value => [name,value]
  | .single word => [word]

structure CommandLine (α σ ε : Type) where
  takes : α → Bool
  set : α → α → σ → Except ε σ
  flag : α → σ → Except ε σ

/-- The last value given under one of the names. -/
def lastValue [DecidableEq α] (names : List α) : List (Word α) → Option α
  | [] => none
  | .option name value::ws => (lastValue names ws).or (if name∈names then some value else none)
  | .single _::ws => lastValue names ws

namespace CommandLine
variable (g : CommandLine α σ ε)

def parse : σ → List α → Except ε σ
  | s,[] => .ok s
  | s,[arg] => g.flag arg s
  | s,arg::value::rest =>
      if g.takes arg then (g.set arg value s).bind fun s => parse s rest
      else (g.flag arg s).bind fun s => parse s (value::rest)

def words : List α → List (Word α)
  | [] => []
  | [arg] => [.single arg]
  | arg::value::rest =>
      if g.takes arg then .option arg value::words rest else .single arg::words (value::rest)

def act : Word α → σ → Except ε σ
  | .option name value,s => g.set name value s
  | .single word,s => g.flag word s

def actAll : List (Word α) → σ → Except ε σ
  | [],s => .ok s
  | w::ws,s => (g.act w s).bind (actAll ws)

/-- The loop takes the piece as one, whatever follows. -/
def Proper : Word α → Prop
  | .option name _ => g.takes name=true
  | .single word => g.takes word=false

variable {g}

theorem parse_eq (s : σ) (args : List α) : g.parse s args=g.actAll (g.words args) s := by
  fun_induction words g args generalizing s with
  | case1 => rfl
  | case2 arg =>
    simp only [parse,actAll,act]
    cases g.flag arg s <;> rfl
  | case3 arg value rest htakes ih =>
    simp only [parse,htakes,if_true,actAll,act]
    congr 1
    funext t
    exact ih t
  | case4 arg value rest htakes ih =>
    simp only [parse,actAll,act]
    rw [if_neg htakes]
    congr 1
    funext t
    exact ih t

/-- Nothing of a command line is lost. -/
theorem words_args (args : List α) : (g.words args).flatMap Word.args=args := by
  fun_induction words g args with
  | case1 => rfl
  | case2 arg => rfl
  | case3 arg value rest htakes ih => simp [Word.args,ih]
  | case4 arg value rest htakes ih => simp [Word.args,ih]

/-- A command line put together of proper pieces is taken apart into them. -/
theorem words_flatMap {ws : List (Word α)} (h : ∀ w∈ws,g.Proper w) :
    g.words (ws.flatMap Word.args)=ws := by
  induction ws with
  | nil => rfl
  | cons w ws ih =>
    obtain ⟨hw,hws⟩ := List.forall_mem_cons.mp h
    have hrest := ih hws
    cases w with
    | option name value =>
      have htakes : g.takes name=true := hw
      simp only [List.flatMap_cons,Word.args,List.cons_append,List.nil_append,words,htakes,if_true,
        hrest]
    | single word =>
      have htakes : g.takes word=false := hw
      rw [List.flatMap_cons]
      cases hargs : ws.flatMap Word.args with
      | nil =>
        rw [hargs] at hrest
        rw [← hrest]
        rfl
      | cons arg args =>
        rw [hargs] at hrest
        simp only [Word.args,List.cons_append,List.nil_append,words,htakes,Bool.false_eq_true,
          if_false,hrest]

theorem actAll_cons {w : Word α} {ws : List (Word α)} {s t : σ} :
    g.actAll (w::ws) s=.ok t ↔ ∃ u,g.act w s=.ok u ∧ g.actAll ws u=.ok t := by
  rw [actAll]
  cases g.act w s with
  | error e => simp [Except.bind]
  | ok u => simp [Except.bind]

section Fields
variable {get : σ → β}

/-- A member that only the named options set has the last value they were given. -/
theorem actAll_field [DecidableEq α] {names : List α} {read : α → β}
    (hset : ∀ name value s t,g.set name value s=.ok t →
      get t=if name∈names then read value else get s)
    (hflag : ∀ word s t,g.flag word s=.ok t → get t=get s) {ws : List (Word α)} {s t : σ}
    (h : g.actAll ws s=.ok t) : get t=((lastValue names ws).map read).getD (get s) := by
  induction ws generalizing s with
  | nil =>
    obtain rfl := Except.ok.inj h
    rfl
  | cons w ws ih =>
    obtain ⟨u,hu,hrest⟩ := actAll_cons.mp h
    rw [ih hrest]
    cases w with
    | option name value =>
      rw [lastValue,hset name value s u hu]
      cases lastValue names ws with
      | some last => rfl
      | none => by_cases hname : name∈names <;> simp [hname]
    | single word => rw [lastValue,hflag word s u hu]

theorem actAll_kept (hact : ∀ w s t,g.act w s=.ok t → get t=get s) {ws : List (Word α)} {s t : σ}
    (h : g.actAll ws s=.ok t) : get t=get s := by
  induction ws generalizing s with
  | nil =>
    obtain rfl := Except.ok.inj h
    rfl
  | cons w ws ih =>
    obtain ⟨u,hu,hrest⟩ := actAll_cons.mp h
    exact (ih hrest).trans (hact w s u hu)

/-- A member that one piece sets, always to the same, is set if there is such a piece. -/
theorem actAll_switch [DecidableEq α] {piece : Word α} {b : β}
    (hact : ∀ w s t,g.act w s=.ok t → get t=if w=piece then b else get s)
    {ws : List (Word α)} {s t : σ} (h : g.actAll ws s=.ok t) :
    get t=if piece∈ws then b else get s := by
  induction ws generalizing s with
  | nil =>
    obtain rfl := Except.ok.inj h
    rfl
  | cons w ws ih =>
    obtain ⟨u,hu,hrest⟩ := actAll_cons.mp h
    rw [ih hrest,hact w s u hu]
    by_cases hmem : piece∈ws
    · rw [if_pos hmem,if_pos (List.mem_cons_of_mem _ hmem)]
    · by_cases heq : w=piece
      · rw [if_neg hmem,if_pos heq,if_pos (heq ▸ List.mem_cons_self)]
      · have hnot : piece∉w::ws := by
          rintro (_ | ⟨_,hin⟩)
          · exact heq rfl
          · exact hmem hin
        rw [if_neg hmem,if_neg heq,if_neg hnot]

/-- A command line is read to its end exactly if no piece of it is refused. -/
theorem actAll_isOk {refused : Word α → Prop}
    (hact : ∀ w s,(∃ t,g.act w s=.ok t) ↔ ¬refused w) (ws : List (Word α)) (s : σ) :
    (∃ t,g.actAll ws s=.ok t) ↔ ∀ w∈ws,¬refused w := by
  induction ws generalizing s with
  | nil => simp [actAll]
  | cons w ws ih =>
    rw [List.forall_mem_cons]
    constructor
    · rintro ⟨t,ht⟩
      obtain ⟨u,hu,hrest⟩ := actAll_cons.mp ht
      exact ⟨(hact w s).mp ⟨u,hu⟩,(ih u).mp ⟨t,hrest⟩⟩
    · rintro ⟨hw,hws⟩
      obtain ⟨u,hu⟩ := (hact w s).mpr hw
      obtain ⟨t,ht⟩ := (ih u).mpr hws
      exact ⟨t,actAll_cons.mpr ⟨u,hu,ht⟩⟩

end Fields

end CommandLine

end V2xPki.Framework
