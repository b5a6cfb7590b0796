import Mathlib.Tactic.Common

namespace V2xPki.Framework

/- A stream made of blocks of one length, and the loop that copies its beginning. -/

variable {α : Type} (block : Nat → List α)

/-- The first `n` blocks, one after the other. -/
def blockStream (n : Nat) : List α := (List.range n).flatMap block

/-- Adds block after block, the last one clipped, until there are `outLen` elements. -/
def copyBlocks (outLen : Nat) : Nat → Nat → List α → List α
  | 0,_,result => result
  | fuel+1,i,result =>
      if result.length<outLen then
        copyBlocks outLen fuel (i+1) (result++(block i).take (outLen-result.length))
      else result

theorem blockStream_succ (n : Nat) :
    blockStream block (n+1)=blockStream block n++block n := by
  rw [blockStream,blockStream,List.range_succ,List.flatMap_append,List.flatMap_singleton]

theorem blockStream_prefix {n m : Nat} (h : n ≤ m) :
    blockStream block n <+: blockStream block m := by
  obtain ⟨d,rfl⟩ := Nat.le.dest h
  induction d with
  | zero => exact List.prefix_refl _
  | succ d ih =>
    rw [← Nat.add_assoc,blockStream_succ]
    exact (ih (by omega)).trans (List.prefix_append _ _)

section
variable {block} {width : Nat} (hwidth : ∀ i,(block i).length=width)
include hwidth

theorem blockStream_length (n : Nat) : (blockStream block n).length=width*n := by
  induction n with
  | zero => rfl
  | succ n ih => rw [blockStream_succ,List.length_append,ih,hwidth,Nat.mul_succ]

/-- As many blocks as cover a length determine the stream up to it. -/
theorem take_blockStream {n m len : Nat} (hn : len≤width*n) (hm : len≤width*m) :
    (blockStream block n).take len=(blockStream block m).take len := by
  have key : ∀ {a b : Nat},len≤width*a → a≤b →
      (blockStream block a).take len=(blockStream block b).take len := by
    intro a b ha hab
    obtain ⟨rest,hrest⟩ := blockStream_prefix block hab
    rw [← hrest,List.take_append_of_le_length (by rw [blockStream_length hwidth]; exact ha)]
  rcases Nat.le_total n m with hnm | hmn
  · exact key hn hnm
  · exact (key hm hmn).symm

/-- The loop keeps a beginning of the stream, and ends with all that was asked for. -/
theorem copyBlocks_eq {outLen fuel i : Nat} {result : List α}
    (hresult : result=(blockStream block i).take outLen) (hfuel : outLen≤width*(i+fuel)) :
    copyBlocks block outLen fuel i result=(blockStream block (i+fuel)).take outLen := by
  induction fuel generalizing i result with
  | zero => exact hresult
  | succ fuel ih =>
    have hlen : result.length=min outLen (width*i) := by
      rw [hresult,List.length_take,blockStream_length hwidth]
    rw [copyBlocks]
    by_cases hlt : result.length<outLen
    · rw [if_pos hlt]
      have hwhole : result=blockStream block i := by
        rw [hresult]
        exact List.take_of_length_le (by rw [blockStream_length hwidth]; omega)
      have hstep : result++(block i).take (outLen-result.length)=
          (blockStream block (i+1)).take outLen := by
        rw [blockStream_succ,← hwhole,List.take_append,List.take_of_length_le (Nat.le_of_lt hlt)]
      have hnext := ih hstep (by rwa [Nat.add_right_comm i 1 fuel])
      rwa [Nat.add_right_comm i 1 fuel] at hnext
    · rw [if_neg hlt,hresult]
      exact take_blockStream hwidth (by omega) hfuel

end

end V2xPki.Framework
