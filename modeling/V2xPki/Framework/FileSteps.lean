import V2xPki.Framework.Files

namespace V2xPki.Framework

/- The same directory, one system call at a time. Between any two calls the process may be
killed, and another process may look. -/

variable {β : Type}

/-- A system call that takes effect at once. -/
inductive FileStep (β : Type) where
  | truncate (name : String)
  | append (name : String) (data : List β)
  | rename (source target : String)
  | unlink (name : String)

namespace FileStep

def apply (files : Files β) : FileStep β → Files β
  | .truncate name => Function.update files name (some [])
  | .append name data => Function.update files name ((files name).map (·++data))
  | .rename source target =>
      Function.update (Function.update files source none) target (files source)
  | .unlink name => Function.update files name none

def run (files : Files β) (steps : List (FileStep β)) : Files β := steps.foldl apply files

def names : FileStep β → List String
  | .truncate name => [name]
  | .append name _ => [name]
  | .rename source target => [source,target]
  | .unlink name => [name]

/-- A state of the directory while the steps are made, first and last included. -/
def Seen (files : Files β) (steps : List (FileStep β)) (f : Files β) : Prop :=
  ∃ n,f=run files (steps.take n)

section
variable {files f : Files β} {steps before after : List (FileStep β)} {name : String}

theorem run_append (files : Files β) (before after : List (FileStep β)) :
    run files (before++after)=run (run files before) after := List.foldl_append

theorem apply_other {step : FileStep β} (h : name∉step.names) :
    apply files step name=files name := by
  cases step with
  | truncate other =>
    have hne : name≠other := by simpa [names] using h
    exact Function.update_of_ne hne _ _
  | append other data =>
    have hne : name≠other := by simpa [names] using h
    exact Function.update_of_ne hne _ _
  | rename source target =>
    obtain ⟨hsource,htarget⟩ : name≠source ∧ name≠target := by simpa [names] using h
    simp only [apply]
    rw [Function.update_of_ne htarget,Function.update_of_ne hsource]
  | unlink other =>
    have hne : name≠other := by simpa [names] using h
    exact Function.update_of_ne hne _ _

/-- A name that no step has is never touched. -/
theorem run_other (h : ∀ step∈steps,name∉step.names) : run files steps name=files name := by
  induction steps generalizing files with
  | nil => rfl
  | cons step steps ih =>
    obtain ⟨hstep,hrest⟩ := List.forall_mem_cons.mp h
    exact (ih hrest).trans (apply_other hstep)

theorem seen_last : Seen files steps (run files steps) :=
  ⟨steps.length,by rw [List.take_length]⟩

theorem seen_other (hseen : Seen files steps f) (h : ∀ step∈steps,name∉step.names) :
    f name=files name := by
  obtain ⟨n,rfl⟩ := hseen
  exact run_other fun step hstep => h step (List.mem_of_mem_take hstep)

theorem seen_nil (h : Seen files [] f) : f=files := by
  obtain ⟨n,rfl⟩ := h
  rw [List.take_nil]
  rfl

/-- A state on the way is one of the first part, or one of the second part after the first was
done. -/
theorem seen_append (h : Seen files (before++after) f) :
    Seen files before f ∨ Seen (run files before) after f := by
  obtain ⟨n,rfl⟩ := h
  rw [List.take_append,run_append]
  by_cases hn : n ≤ before.length
  · left
    rw [Nat.sub_eq_zero_of_le hn,List.take_zero]
    exact ⟨n,rfl⟩
  · right
    rw [List.take_of_length_le (by omega)]
    exact ⟨n-before.length,rfl⟩

/-- A single step is made or not. -/
theorem seen_singleton {step : FileStep β} (h : Seen files [step] f) :
    f=files ∨ f=apply files step := by
  obtain ⟨n,rfl⟩ := h
  cases n with
  | zero => exact .inl rfl
  | succ n =>
    right
    rw [List.take_succ_cons,List.take_nil]
    rfl

end

/-- Data as it is written: pieces of some sizes, and what is left. -/
def pieces : List Nat → List β → List (List β)
  | [],data => [data]
  | n::sizes,data => data.take n::pieces sizes (data.drop n)

theorem pieces_flatten (sizes : List Nat) (data : List β) : (pieces sizes data).flatten=data := by
  induction sizes generalizing data with
  | nil => simp [pieces]
  | cons n sizes ih => rw [pieces,List.flatten_cons,ih,List.take_append_drop]

/-- The calls that fill a file, in pieces of these sizes. -/
def fillSteps (name : String) (sizes : List Nat) (data : List β) : List (FileStep β) :=
  .truncate name::(pieces sizes data).map (.append name)

/-- The calls of one attempt to replace a file. -/
def replaceSteps (tmp name : String) (data : List β) (sizes : List Nat) (r : Files.Replacing) :
    List (FileStep β) :=
  match r.fill with
  | .notOpened => []
  | .filled kept reported =>
    fillSteps tmp sizes (data.take kept)++
      if reported && r.renamed then [.rename tmp name]
      else if r.unlinked then [.unlink tmp] else []

section
variable {files f : Files β} {tmp name other : String} {data : List β} {sizes : List Nat}
variable {r : Files.Replacing}

theorem run_appends (files : Files β) {content : List β} (h : files name=some content)
    (chunks : List (List β)) :
    run files (chunks.map (.append name))=
      Function.update files name (some (content++chunks.flatten)) := by
  induction chunks generalizing files content with
  | nil =>
    rw [List.flatten_nil,List.append_nil,← h,Function.update_eq_self]
    rfl
  | cons chunk chunks ih =>
    have hnext : apply files (.append name chunk) name=some (content++chunk) := by
      rw [apply,h,Function.update_self]
      rfl
    show run (apply files (.append name chunk)) (chunks.map (.append name))=_
    rw [ih _ hnext,List.flatten_cons,← List.append_assoc]
    exact Function.update_idem _ _ _

theorem run_fillSteps (files : Files β) (name : String) (sizes : List Nat) (data : List β) :
    run files (fillSteps name sizes data)=Function.update files name (some data) := by
  show run (Function.update files name (some [])) ((pieces sizes data).map (.append name))=_
  rw [run_appends _ (Function.update_self name (some []) files),pieces_flatten]
  exact Function.update_idem _ _ _

theorem fillSteps_names {step : FileStep β} (h : step∈fillSteps name sizes data) :
    step.names=[name] := by
  rcases List.mem_cons.mp h with rfl | hmem
  · rfl
  · obtain ⟨chunk,-,rfl⟩ := List.mem_map.mp hmem
    rfl

/-- Step by step, an attempt does what it stands for as a whole. -/
theorem run_replaceSteps (files : Files β) (tmp name : String) (data : List β) (sizes : List Nat)
    (r : Files.Replacing) :
    run files (replaceSteps tmp name data sizes r)=(files.replace tmp name data r).2 := by
  obtain ⟨fill,renamed,unlinked⟩ := r
  cases fill with
  | notOpened => rfl
  | filled kept reported =>
    unfold replaceSteps Files.replace Files.unlink
    rw [run_append,run_fillSteps]
    cases reported <;> cases renamed <;> cases unlinked <;>
      simp [run,apply,Function.update_idem,Function.update_self]

theorem replaceSteps_names (hname : other≠name) (htmp : other≠tmp) :
    ∀ step∈replaceSteps tmp name data sizes r,other∉step.names := by
  intro step hstep
  unfold replaceSteps at hstep
  split at hstep
  · cases hstep
  rcases List.mem_append.mp hstep with hfill | hend
  · rw [fillSteps_names hfill]
    simpa using htmp
  · split at hend
    · obtain rfl := List.mem_singleton.mp hend
      simp [names,htmp,hname]
    · split at hend
      · obtain rfl := List.mem_singleton.mp hend
        simpa [names] using htmp
      · cases hend

/-- Whenever one looks, the file is as it was, or the attempt has worked and is over. -/
theorem seen_replaceSteps (hne : name≠tmp)
    (h : Seen files (replaceSteps tmp name data sizes r) f) :
    f name=files name ∨ r.reported=true ∧ f=(files.replace tmp name data r).2 := by
  have hend := run_replaceSteps files tmp name data sizes r
  obtain ⟨fill,renamed,unlinked⟩ := r
  cases fill with
  | notOpened =>
    left
    rw [seen_nil h]
  | filled kept reported =>
    have hfilling : ∀ g,Seen files (fillSteps tmp sizes (data.take kept)) g → g name=files name := by
      intro g hg
      apply seen_other hg
      intro step hstep
      rw [fillSteps_names hstep]
      simpa using hne
    simp only [replaceSteps] at h hend
    rcases seen_append h with hfill | hlast
    · exact .inl (hfilling f hfill)
    have hfilled := hfilling _ seen_last
    split at hlast
    · rename_i hworked
      rcases seen_singleton hlast with rfl | rfl
      · exact .inl hfilled
      · right
        refine ⟨hworked,?_⟩
        rw [← hend,if_pos hworked,run_append]
        rfl
    · left
      rw [← hfilled]
      apply seen_other hlast
      intro step hstep
      split at hstep
      · obtain rfl := List.mem_singleton.mp hstep
        simpa [names] using hne
      · cases hstep

end

end FileStep

end V2xPki.Framework
