import Mathlib.Data.List.Infix
import Mathlib.Data.List.Pairwise

namespace V2xPki.Framework

variable {α β : Type}

/-- A wire format: a partial encoder, and a decoder that reports with the value
how many symbols of its input it read. -/
structure Codec (β α : Type) where
  encode : α → Option (List β)
  decode : List β → Option (α × Nat)

namespace Codec

/-- An encoding is read back whole, whatever follows it on the wire. -/
def RoundTrip (c : Codec β α) : Prop :=
  ∀ v b rest,c.encode v=some b → c.decode (b++rest)=some (v,b.length)

theorem RoundTrip.decode_encode {c : Codec β α} (h : c.RoundTrip) {v : α} {b : List β}
    (hb : c.encode v=some b) : c.decode b=some (v,b.length) := by
  simpa using h v b [] hb

/-- The format given by a finite list of encodings. -/
def table [DecidableEq β] [DecidableEq α] (entries : List (List β × α)) : Codec β α where
  encode v := (entries.find? (fun e => e.2=v)).map (·.1)
  decode bs := (entries.find? (fun e => e.1.isPrefixOf bs)).map (fun e => (e.2,e.1.length))

/-- No encoding of the list starts another one. -/
def PrefixFree (entries : List (List β × α)) : Prop :=
  entries.Pairwise (fun e f => ¬e.1<+:f.1 ∧ ¬f.1<+:e.1)

instance [DecidableEq β] (entries : List (List β × α)) : Decidable (PrefixFree entries) :=
  inferInstanceAs (Decidable (entries.Pairwise _))

theorem PrefixFree.eq_of_prefix {entries : List (List β × α)} (h : PrefixFree entries)
    {e f : List β × α} (he : e∈entries) (hf : f∈entries) (hp : e.1<+:f.1) : e=f := by
  by_contra hne
  have : Std.Symm (fun e f : List β × α => ¬e.1<+:f.1 ∧ ¬f.1<+:e.1) := ⟨fun _ _ h => h.symm⟩
  exact (List.Pairwise.forall h he hf hne).1 hp

theorem table_roundTrip [DecidableEq β] [DecidableEq α] (entries : List (List β × α))
    (h : PrefixFree entries) : (table entries).RoundTrip := by
  intro v b rest hb
  simp only [table,Option.map_eq_some_iff] at hb ⊢
  obtain ⟨e,he,rfl⟩ := hb
  have hv : e.2=v := by simpa using List.find?_some he
  have hm := List.mem_of_find?_eq_some he
  have hp : e.1.isPrefixOf (e.1++rest)=true := by simp
  obtain ⟨f,hf⟩ := Option.isSome_iff_exists.mp
    (List.find?_isSome (p := fun e' => e'.1.isPrefixOf (e.1++rest)) |>.mpr ⟨e,hm,hp⟩)
  have hfm := List.mem_of_find?_eq_some hf
  have hfp : f.1<+:e.1++rest := by simpa using List.find?_some hf
  -- two encodings that both start the input are comparable, hence the same entry
  have hfe : f=e := by
    rcases List.prefix_or_prefix_of_prefix hfp (List.prefix_append e.1 rest) with hc | hc
    · exact h.eq_of_prefix hfm hm hc
    · exact (h.eq_of_prefix hm hfm hc).symm
  exact ⟨f,hf,by rw [hfe,hv]⟩

theorem table_encode_mem [DecidableEq β] [DecidableEq α] {entries : List (List β × α)} {v : α}
    {b : List β} (h : (table entries).encode v=some b) : ∃ e∈entries,e.2=v := by
  obtain ⟨e,he,-⟩ := Option.map_eq_some_iff.mp h
  exact ⟨e,List.mem_of_find?_eq_some he,by simpa using List.find?_some he⟩

theorem table_decode_mem [DecidableEq β] [DecidableEq α] {entries : List (List β × α)}
    {b : List β} {r : α × Nat} (h : (table entries).decode b=some r) :
    ∃ e∈entries,e.2=r.1 := by
  obtain ⟨e,he,rfl⟩ := Option.map_eq_some_iff.mp h
  exact ⟨e,List.mem_of_find?_eq_some he,rfl⟩

end Codec

end V2xPki.Framework
