import Mathlib.Logic.Relation

namespace V2xPki.Framework

variable {σ τ ε α β ι : Type}

/-- A fallible call on a mutable object. The object survives both exits, so
what an error leaves behind is part of the meaning of the call. -/
abbrev Op (σ ε α : Type) := ExceptT ε (StateM σ) α

namespace Op

def exec (m : Op σ ε α) (s : σ) : Except ε α × σ := m.run.run s

/-- The early return `if (!cond) return e`. -/
def ensure (c : Bool) (e : ε) : Op σ ε Unit := if c then pure () else throw e

/-- The early return `if (!opt) return e`, otherwise the value. -/
def need (o : Option α) (e : ε) : Op σ ε α := match o with
  | some a => pure a
  | none => throw e

/-- The early return of a failed `Result`, otherwise its value. -/
def lift (r : Except ε α) : Op σ ε α := match r with
  | .ok a => pure a
  | .error e => throw e

@[simp] theorem exec_pure (a : α) (s : σ) :
    exec (pure a : Op σ ε α) s=(.ok a,s) := rfl

@[simp] theorem exec_get (s : σ) : exec (get : Op σ ε σ) s=(.ok s,s) := rfl

@[simp] theorem exec_modify (f : σ → σ) (s : σ) :
    exec (modify f : Op σ ε PUnit) s=(.ok ⟨⟩,f s) := rfl

theorem exec_bind (m : Op σ ε α) (f : α → Op σ ε β) (s : σ) :
    exec (m >>= f) s=match exec m s with
      | (.ok a,t) => exec (f a) t
      | (.error e,t) => (.error e,t) := by
  show (StateT.bind m.run (ExceptT.bindCont f)) s=_
  simp only [StateT.bind,exec,StateT.run]
  rcases m.run s with ⟨r,t⟩
  cases r <;> rfl

@[simp] theorem exec_ensure (c : Bool) (e : ε) (s : σ) :
    exec (ensure c e) s=(if c then .ok () else .error e,s) := by
  cases c <;> rfl

@[simp] theorem exec_lift (r : Except ε α) (s : σ) : exec (lift r) s=(r,s) := by
  cases r <;> rfl

@[simp] theorem exec_need (o : Option α) (e : ε) (s : σ) :
    exec (need o e) s=(o.elim (.error e) .ok,s) := by
  cases o <;> rfl

theorem exec_map (f : α → β) (m : Op σ ε α) (s : σ) :
    exec (f <$> m) s=((exec m s).1.map f,(exec m s).2) := by
  rw [map_eq_pure_bind,exec_bind]
  rcases exec m s with ⟨r,t⟩
  cases r <;> rfl

theorem map_error (f : α → β) (m : Op σ ε α) (s t : σ) (e : ε) :
    exec (f <$> m) s=(.error e,t) ↔ exec m s=(.error e,t) := by
  rw [exec_map]
  rcases exec m s with ⟨r,u⟩
  cases r <;> simp [Except.map]

theorem map_ok (f : α → β) (m : Op σ ε α) (s t : σ) (b : β) :
    exec (f <$> m) s=(.ok b,t) ↔ ∃ a,exec m s=(.ok a,t) ∧ f a=b := by
  rw [exec_map]
  rcases exec m s with ⟨r,u⟩
  cases r with
  | error e => simp [Except.map]
  | ok a =>
    simp only [Except.map,Prod.mk.injEq,Except.ok.injEq]
    constructor
    · rintro ⟨hb,hu⟩
      exact ⟨a,⟨rfl,hu⟩,hb⟩
    · rintro ⟨c,⟨rfl,hu⟩,hb⟩
      exact ⟨hb,hu⟩

theorem bind_error (m : Op σ ε α) (f : α → Op σ ε β) (s t : σ) (e : ε) :
    exec (m >>= f) s=(.error e,t) ↔
      exec m s=(.error e,t) ∨
        ∃ a u,exec m s=(.ok a,u) ∧ exec (f a) u=(.error e,t) := by
  rw [exec_bind]
  rcases exec m s with ⟨r,u⟩
  cases r <;> simp [and_assoc]

theorem ensure_bind_ok (c : Bool) (e : ε) (f : Unit → Op σ ε β) (s t : σ) (b : β) :
    exec (ensure c e >>= f) s=(.ok b,t) ↔ c=true ∧ exec (f ()) s=(.ok b,t) := by
  rw [exec_bind,exec_ensure]
  cases c <;> simp

theorem need_bind_ok (o : Option α) (e : ε) (f : α → Op σ ε β) (s t : σ) (b : β) :
    exec (need o e >>= f) s=(.ok b,t) ↔ ∃ a,o=some a ∧ exec (f a) s=(.ok b,t) := by
  rw [exec_bind,exec_need]
  cases o <;> simp

theorem lift_bind_ok (r : Except ε α) (f : α → Op σ ε β) (s t : σ) (b : β) :
    exec (lift r >>= f) s=(.ok b,t) ↔ ∃ a,r=.ok a ∧ exec (f a) s=(.ok b,t) := by
  rw [exec_bind,exec_lift]
  cases r <;> simp

/-- A step that cannot fail only hands on its value and its state. -/
theorem exec_bind_of_ok {m : Op σ ε α} {s u : σ} {a : α} (h : exec m s=(.ok a,u))
    (f : α → Op σ ε β) : exec (m >>= f) s=exec (f a) u := by
  rw [exec_bind,h]

/-- A run whose value was evaluated, as an equation. -/
theorem exec_of_eval {m : Op σ ε α} {s : σ} {f : α → β} {b : β}
    (h : (exec m s).1.toOption.map f=some b) :
    ∃ a,exec m s=(.ok a,(exec m s).2) ∧ f a=b := by
  rcases hm : exec m s with ⟨r,t⟩
  rw [hm] at h
  cases r with
  | error e => cases h
  | ok a => exact ⟨a,rfl,Option.some.inj h⟩

theorem get_bind (f : σ → Op σ ε β) (s : σ) : exec (get >>= f) s=exec (f s) s :=
  exec_bind_of_ok (exec_get s) f

/-- The call changes nothing that `view` shows, whatever its outcome. -/
def Keeps (view : σ → τ) (m : Op σ ε α) : Prop :=
  ∀ s,view (exec m s).2=view s

/-- The call may change what `view` shows, but not when it returns an error. -/
def FailsClean (view : σ → τ) (m : Op σ ε α) : Prop :=
  ∀ s e t,exec m s=(.error e,t) → view t=view s

section Rules
variable {view : σ → τ} {m : Op σ ε α} {f : α → Op σ ε β}

theorem keeps_pure (a : α) : Keeps view (pure a : Op σ ε α) := fun _ => rfl

theorem keeps_get : Keeps view (get : Op σ ε σ) := fun _ => rfl

theorem keeps_ensure (c : Bool) (e : ε) : Keeps view (ensure c e) :=
  fun s => by simp

theorem keeps_need (o : Option α) (e : ε) : Keeps view (need o e) :=
  fun s => by simp

theorem keeps_lift (r : Except ε α) : Keeps view (lift r) := fun s => by simp

theorem keeps_bind (hm : Keeps view m) (hf : ∀ a,Keeps view (f a)) :
    Keeps view (m >>= f) := by
  intro s
  have h := hm s
  rw [exec_bind]
  rcases hr : exec m s with ⟨r,t⟩
  rw [hr] at h
  cases r with
  | error e => exact h
  | ok a => exact (hf a t).trans h

theorem Keeps.failsClean (h : Keeps view m) : FailsClean view m := by
  intro s e t he
  have hs := h s
  rwa [he] at hs

/-- Everything before the first change may fail; what follows it may not. -/
theorem failsClean_bind (hm : Keeps view m) (hf : ∀ a,FailsClean view (f a)) :
    FailsClean view (m >>= f) := by
  intro s e t h
  rcases (bind_error m f s t e).mp h with h | ⟨a,u,hu,h⟩
  · exact hm.failsClean s e t h
  · have hs := hm s
    rw [hu] at hs
    exact (hf a u e t h).trans hs

/-- A change followed by a plain return is the last thing a call does. -/
theorem failsClean_modify (g : σ → σ) (a : α) :
    FailsClean view ((modify g : Op σ ε PUnit) >>= fun _ => pure a) := by
  intro s e t h
  rw [exec_bind] at h
  simp at h

end Rules

end Op

/-- `P` holds of every step of a run, at the state the step is taken from. -/
def Along (step : ι → σ → σ) (P : ι → σ → Prop) : List ι → σ → Prop
  | [],_ => True
  | i::is,s => P i s ∧ Along step P is (step i s)

theorem along_congr {step : ι → σ → σ} {P Q : ι → σ → Prop} (h : ∀ i s,P i s ↔ Q i s)
    (is : List ι) (s : σ) : Along step P is s ↔ Along step Q is s := by
  induction is generalizing s with
  | nil => exact Iff.rfl
  | cons i is ih => rw [Along,Along,h i s,ih (step i s)]

/-- The states reached from `init` by runs whose every step meets `C`. -/
def Reachable (init : σ → Prop) (step : ι → σ → σ) (C : ι → σ → Prop) (s : σ) : Prop :=
  ∃ s₀,init s₀ ∧ Relation.ReflTransGen (fun t u => ∃ i,C i t ∧ u=step i t) s₀ s

namespace Reachable
variable {init : σ → Prop} {step : ι → σ → σ} {C : ι → σ → Prop} {s : σ}

theorem start (h : init s) : Reachable init step C s := ⟨s,h,.refl⟩

theorem next (h : Reachable init step C s) (i : ι) (hi : C i s) :
    Reachable init step C (step i s) := by
  obtain ⟨s₀,h₀,hr⟩ := h
  exact ⟨s₀,h₀,hr.tail ⟨i,hi,rfl⟩⟩

/-- What holds at the start and survives every step holds in every state reached. -/
theorem invariant (I : σ → Prop) (h₀ : ∀ s,init s → I s)
    (hs : ∀ s i,I s → C i s → I (step i s)) (h : Reachable init step C s) : I s := by
  obtain ⟨s₀,hi,hr⟩ := h
  induction hr with
  | refl => exact h₀ s₀ hi
  | tail _ hstep ih =>
    obtain ⟨i,hc,rfl⟩ := hstep
    exact hs _ i ih hc

end Reachable

end V2xPki.Framework
