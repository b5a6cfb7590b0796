import Mathlib.Tactic.Common

namespace V2xPki.Framework

/- A loop that makes attempts in order until one of them is final or no retry is left. -/

/-- Which attempt such a loop ends with, when it begins with `first` and may retry `left`
times. -/
structure Retries (final : Nat → Prop) (left first last : Nat) : Prop where
  started : first≤last
  within : last≤first+left
  before : ∀ j,first≤j → j<last → ¬final j
  ended : final last ∨ last=first+left

namespace Retries
variable {final : Nat → Prop} {left first last : Nat}

theorem stop (h : final first) (left : Nat) : Retries final left first first where
  started := Nat.le_refl _
  within := Nat.le_add_right _ _
  before _ hle hlt := absurd hlt (Nat.not_lt.mpr hle)
  ended := .inl h

theorem exhausted (final : Nat → Prop) (first : Nat) : Retries final 0 first first where
  started := Nat.le_refl _
  within := Nat.le_refl _
  before _ hle hlt := absurd hlt (Nat.not_lt.mpr hle)
  ended := .inr rfl

theorem again (hfirst : ¬final first) (h : Retries final left (first+1) last) :
    Retries final (left+1) first last where
  started := by have := h.started; omega
  within := by have := h.within; omega
  before := by
    intro j hle hlt
    rcases Nat.eq_or_lt_of_le hle with rfl | hlater
    · exact hfirst
    · exact h.before j hlater hlt
  ended := by
    rcases h.ended with hfinal | hlast
    · exact .inl hfinal
    · exact .inr (by omega)

/-- Nothing is tried after a final attempt. -/
theorem last_le (h : Retries final left first last) {j : Nat} (hle : first≤j) (hj : final j) :
    last≤j := by
  by_contra hlt
  exact h.before j hle (Nat.not_le.mp hlt) hj

/-- A loop that ends with an attempt that is not final has used up its retries. -/
theorem used_up (h : Retries final left first last) (hlast : ¬final last) :
    last=first+left ∧ ∀ j,first≤j → j≤first+left → ¬final j := by
  have hend := h.ended.resolve_left hlast
  refine ⟨hend,?_⟩
  intro j hle hj
  rcases Nat.eq_or_lt_of_le hj with heq | hlt
  · rw [heq,← hend]
    exact hlast
  · exact h.before j hle (by omega)

end Retries

end V2xPki.Framework
