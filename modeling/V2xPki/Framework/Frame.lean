import Mathlib.Data.List.Induction
import V2xPki.Framework.Stateful

namespace V2xPki.Framework.Op

variable {σ τ ε α β : Type}

/-- What `view` shows outlives the call, whatever its outcome, if it meets `J` before. -/
def KeepsWhile (J : τ → Prop) (view : σ → τ) (m : Op σ ε α) : Prop :=
  ∀ s,J (view s) → view (exec m s).2=view s

/-- The call changes nothing and returns what it reads. -/
def ReadsOnly (g : σ → α) (m : Op σ ε α) : Prop := ∀ s,exec m s=(.ok (g s),s)

/-- The call always returns a value. -/
def Total (m : Op σ ε α) : Prop := ∀ s,∃ a t,exec m s=(.ok a,t)

section
variable {J : τ → Prop} {view : σ → τ} {m : Op σ ε α} {f : α → Op σ ε β} {g : σ → α}

theorem Keeps.while (h : Keeps view m) : KeepsWhile J view m := fun s _ => h s

theorem KeepsWhile.keeps (h : KeepsWhile (fun _ => True) view m) : Keeps view m :=
  fun s => h s trivial

theorem keepsWhile_bind (hm : KeepsWhile J view m) (hf : ∀ a,KeepsWhile J view (f a)) :
    KeepsWhile J view (m >>= f) := by
  intro s hs
  have h := hm s hs
  rw [exec_bind]
  rcases hr : exec m s with ⟨r,t⟩
  rw [hr] at h
  cases r with
  | error e => exact h
  | ok a =>
    have ht : J (view t) := by
      rw [show view t=view s from h]
      exact hs
    exact (hf a t ht).trans h

theorem ReadsOnly.bind (h : ReadsOnly g m) (f : α → Op σ ε β) (s : σ) :
    exec (m >>= f) s=exec (f (g s)) s := exec_bind_of_ok (h s) f

theorem ReadsOnly.keeps (h : ReadsOnly g m) : Keeps view m := by
  intro s
  rw [h s]

/-- After a read it is enough that the rest keeps the view where it was read. -/
theorem keepsWhile_read (hm : ReadsOnly g m)
    (hf : ∀ s,J (view s) → view (exec (f (g s)) s).2=view s) : KeepsWhile J view (m >>= f) := by
  intro s hs
  rw [hm.bind f s]
  exact hf s hs

/-- The rest need only be looked at for the value that is there. -/
theorem keepsWhile_need {o : Option α} {e : ε} (hf : ∀ a,o=some a → KeepsWhile J view (f a)) :
    KeepsWhile J view (need o e >>= f) := by
  cases o with
  | none =>
    intro s _
    rw [exec_bind,exec_need]
    rfl
  | some a => exact hf a rfl

theorem keeps_needed {o : Option α} {e : ε} (hf : ∀ a,o=some a → Keeps view (f a)) :
    Keeps view (need o e >>= f) := (keepsWhile_need fun a ha => (hf a ha).while).keeps

theorem exec_ensure_bind (c : Bool) (e : ε) (k : Unit → Op σ ε β) (s : σ) :
    exec (ensure c e >>= k) s=if c then exec (k ()) s else (.error e,s) := by
  cases c <;> rfl

theorem bind_ok {s t : σ} {b : β} : exec (m >>= f) s=(.ok b,t) ↔
    ∃ a u,exec m s=(.ok a,u) ∧ exec (f a) u=(.ok b,t) := by
  rw [exec_bind]
  rcases exec m s with ⟨r,u⟩
  cases r <;> simp [and_assoc]

theorem need_ok {o : Option α} {e : ε} {s t : σ} {a : α} :
    exec (need o e) s=(.ok a,t) ↔ o=some a ∧ t=s := by
  rw [exec_need]
  cases o <;> simp [eq_comm]

theorem keeps_foldlM {γ : Type} {k : β → γ → Op σ ε β} {cs : List γ}
    (h : ∀ b,∀ c∈cs,Keeps view (k b c)) (b : β) : Keeps view (cs.foldlM k b) := by
  induction cs generalizing b with
  | nil => exact keeps_pure b
  | cons c cs ih =>
    have hrest : ∀ b,∀ d∈cs,Keeps view (k b d) := fun b d hd => h b d (List.mem_cons_of_mem c hd)
    exact keeps_bind (h b c (by simp)) (ih hrest)

theorem total_pure (a : α) : Total (pure a : Op σ ε α) := fun s => ⟨a,s,rfl⟩

theorem total_modify (k : σ → σ) : Total (modify k : Op σ ε PUnit) := fun s => ⟨⟨⟩,k s,rfl⟩

theorem total_bind (hm : Total m) (hf : ∀ a,Total (f a)) : Total (m >>= f) := by
  intro s
  obtain ⟨a,t,h⟩ := hm s
  rw [exec_bind_of_ok h]
  exact hf a t

/-- A call that always returns a value may change what it likes. -/
theorem Total.failsClean (h : Total m) : FailsClean view m := by
  intro s e t he
  obtain ⟨a,u,hok⟩ := h s
  cases hok.symm.trans he

end

/-- What has changed was not changed by a part that keeps it, but after that part. -/
theorem changed_bind {view : σ → τ} {m : Op σ ε α} {f : α → Op σ ε β} {s : σ} (hm : Keeps view m)
    (h : view (exec (m >>= f) s).2≠view s) :
    ∃ a t,exec m s=(.ok a,t) ∧ view (exec (f a) t).2≠view t ∧ exec (m >>= f) s=exec (f a) t := by
  have hkept := hm s
  rw [exec_bind] at h ⊢
  rcases hr : exec m s with ⟨r,t⟩
  rw [hr] at h hkept
  cases r with
  | error e => exact absurd hkept h
  | ok a =>
    refine ⟨a,t,rfl,?_,rfl⟩
    rw [show view t=view s from hkept]
    exact h

/-- After a run from `s` something is as it was, or there is a last step that changed it. -/
theorem last_change {ι : Type} (step : σ → ι → σ) (view : σ → τ) (is : List ι) (s : σ) :
    view (is.foldl step s)=view s ∨ ∃ before i after,is=before++i::after ∧
      view (step (before.foldl step s) i)≠view (before.foldl step s) ∧
      view (is.foldl step s)=view (step (before.foldl step s) i) := by
  induction is using List.reverseRecOn with
  | nil => exact .inl rfl
  | append_singleton is j ih =>
    rw [List.foldl_append]
    by_cases hlast : view (step (is.foldl step s) j)=view (is.foldl step s)
    · rcases ih with hsame | ⟨before,i,after,rfl,hchange,hview⟩
      · exact .inl (hlast.trans hsame)
      · exact .inr ⟨before,i,after++[j],by simp,hchange,hlast.trans hview⟩
    · exact .inr ⟨is,j,[],by simp,hlast,rfl⟩

end V2xPki.Framework.Op
