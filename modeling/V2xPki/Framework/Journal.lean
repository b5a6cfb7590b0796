import Mathlib.Data.List.Induction

namespace V2xPki.Framework

/- A log of writes to keys, oldest first. A store in which every write replaces what its
key had before is read off the log: the last write to a key is its value. -/

namespace Journal

variable {κ ν σ ρ : Type} [DecidableEq κ]

/-- The values written to `k`, oldest first. -/
def writesTo (k : κ) (log : List (κ × ν)) : List ν :=
  (log.filter fun e => e.1=k).map (·.2)

/-- The last value written to `k`. -/
def current (log : List (κ × ν)) (k : κ) : Option ν := (writesTo k log).getLast?

theorem writesTo_append (k : κ) (log more : List (κ × ν)) :
    writesTo k (log++more)=writesTo k log++writesTo k more := by
  simp [writesTo]

theorem writesTo_concat (k : κ) (log : List (κ × ν)) (e : κ × ν) :
    writesTo k (log++[e])=if e.1=k then writesTo k log++[e.2] else writesTo k log := by
  rw [writesTo_append]
  by_cases h : e.1=k <;> simp [writesTo,h]

theorem current_concat (log : List (κ × ν)) (e : κ × ν) (k : κ) :
    current (log++[e]) k=if e.1=k then some e.2 else current log k := by
  unfold current
  rw [writesTo_concat]
  by_cases h : e.1=k <;> simp [h]

/-- A store whose reads see one write at a time sees the last write of a log. -/
theorem read_foldl {write : σ → κ × ν → σ} {read : σ → κ → ρ} {value : ν → ρ}
    (h : ∀ s e k,read (write s e) k=if e.1=k then value e.2 else read s k)
    (log : List (κ × ν)) (s : σ) (k : κ) :
    read (log.foldl write s) k=((current log k).map value).getD (read s k) := by
  induction log using List.reverseRecOn with
  | nil => rfl
  | append_singleton log e ih =>
    rw [List.foldl_append,List.foldl_cons,List.foldl_nil,h,current_concat]
    by_cases he : e.1=k
    · simp [he]
    · simp [he,ih]

end Journal

end V2xPki.Framework
