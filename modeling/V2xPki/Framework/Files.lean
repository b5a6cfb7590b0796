import Mathlib.Data.List.Basic
import Mathlib.Logic.Function.Basic

namespace V2xPki.Framework

/- A directory of files under failing operations. What an attempt to write leaves behind is
part of its meaning: a file opened for writing is empty at first, and what is written to it
may be cut off at any point, whether or not the writer is told so. A rename is atomic. -/

variable {β : Type}

/-- The contents of the files of a directory. -/
abbrev Files (β : Type) := String → Option (List β)

/-- How one attempt to fill a file goes, from opening to closing it: it is not opened, or the
first `kept` symbols stay in it and the writer is told that all is well or not. -/
inductive Fill where
  | notOpened
  | filled (kept : Nat) (reported : Bool)
deriving DecidableEq

/-- An opened file gets all of `n` symbols, and the writer is told so. -/
def Fill.Whole (n : Nat) : Fill → Prop
  | .notOpened => True
  | .filled kept reported => n≤kept ∧ reported=true

instance (n : Nat) : (fill : Fill) → Decidable (fill.Whole n)
  | .notOpened => inferInstanceAs (Decidable True)
  | .filled kept reported => inferInstanceAs (Decidable (n≤kept ∧ reported=true))

namespace Files

def empty : Files β := fun _ => none

/-- Fill a file in place. -/
def overwrite (files : Files β) (name : String) (data : List β) : Fill → Bool × Files β
  | .notOpened => (false,files)
  | .filled kept reported => (reported,Function.update files name (some (data.take kept)))

/-- How one attempt to replace a file through a temporary one goes. -/
structure Replacing where
  fill : Fill
  renamed : Bool
  unlinked : Bool
deriving DecidableEq

/-- The writer is told that all is well: the temporary file is filled, and then renamed. -/
def Replacing.reported (r : Replacing) : Bool := match r.fill with
  | .notOpened => false
  | .filled _ reported => reported && r.renamed

/-- Of `n` symbols, all reach the file that is renamed. -/
def Replacing.Whole (n : Nat) (r : Replacing) : Prop := r.reported=true → r.fill.Whole n

instance (n : Nat) (r : Replacing) : Decidable (r.Whole n) :=
  inferInstanceAs (Decidable (r.reported=true → r.fill.Whole n))

/-- Remove a file, if that works. -/
def unlink (files : Files β) (name : String) (works : Bool) : Files β :=
  if works then Function.update files name none else files

/-- Fill `tmp` and rename it to `name`. A failure on the way removes `tmp`; whether the data
reached the file when it was closed is not looked at. -/
def replace (files : Files β) (tmp name : String) (data : List β) (r : Replacing) :
    Bool × Files β :=
  match r.fill with
  | .notOpened => (false,files)
  | .filled kept reported =>
    let opened : Files β := Function.update files tmp (some (data.take kept))
    if reported=false then (false,opened.unlink tmp r.unlinked)
    else if r.renamed=false then (false,opened.unlink tmp r.unlinked)
    else (true,Function.update (Function.update files tmp none) name (some (data.take kept)))

section
variable {files : Files β} {name tmp other : String} {data : List β}

theorem overwrite_other (h : other≠name) (fill : Fill) :
    (files.overwrite name data fill).2 other=files other := by
  cases fill with
  | notOpened => rfl
  | filled kept reported => exact Function.update_of_ne h _ _

/-- An attempt that is not cut off leaves the whole data, or it fails and leaves the file as it
was. -/
theorem overwrite_whole {fill : Fill} (h : fill.Whole data.length) :
    ((files.overwrite name data fill).1=true ∧
      (files.overwrite name data fill).2 name=some data) ∨
    ((files.overwrite name data fill).1=false ∧ (files.overwrite name data fill).2=files) := by
  cases fill with
  | notOpened => exact .inr ⟨rfl,rfl⟩
  | filled kept reported =>
    obtain ⟨hkept,hreported⟩ := h
    refine .inl ⟨hreported,?_⟩
    simp [overwrite,List.take_of_length_le hkept]

theorem unlink_other (h : other≠tmp) (works : Bool) :
    files.unlink tmp works other=files other := by
  cases works with
  | false => rfl
  | true => exact Function.update_of_ne h _ _

/-- A replacement fails and touches no file but `tmp`, or it works and leaves what reached the
temporary file. -/
theorem replace_cases (files : Files β) (tmp name : String) (data : List β) (r : Replacing) :
    (r.reported=false ∧ ∃ left,files.replace tmp name data r=(false,left) ∧
      ∀ n,n≠tmp → left n=files n) ∨
    (r.reported=true ∧ ∃ kept,r.fill=.filled kept true ∧ files.replace tmp name data r=
      (true,Function.update (Function.update files tmp none) name (some (data.take kept)))) := by
  obtain ⟨fill,renamed,unlinked⟩ := r
  cases fill with
  | notOpened => exact .inl ⟨rfl,files,rfl,fun _ _ => rfl⟩
  | filled kept reported =>
    have hleft : ∀ n,n≠tmp →
        unlink (Function.update files tmp (some (data.take kept))) tmp unlinked n=files n := by
      intro n hn
      rw [unlink_other hn]
      exact Function.update_of_ne hn _ _
    cases reported with
    | false => exact .inl ⟨rfl,_,rfl,hleft⟩
    | true =>
      cases renamed with
      | false => exact .inl ⟨rfl,_,rfl,hleft⟩
      | true => exact .inr ⟨rfl,kept,rfl,rfl⟩

theorem replace_reported (files : Files β) (tmp name : String) (data : List β) (r : Replacing) :
    (files.replace tmp name data r).1=r.reported := by
  rcases replace_cases files tmp name data r with ⟨hr,left,h,-⟩ | ⟨hr,kept,-,h⟩
  · rw [h,hr]
  · rw [h,hr]

/-- Only the two names are touched. -/
theorem replace_other (htmp : other≠tmp) (hname : other≠name) (r : Replacing) :
    (files.replace tmp name data r).2 other=files other := by
  rcases replace_cases files tmp name data r with ⟨-,left,h,hleft⟩ | ⟨-,kept,-,h⟩
  · rw [h]
    exact hleft other htmp
  · rw [h]
    show Function.update (Function.update files tmp none) name _ other=files other
    rw [Function.update_of_ne hname,Function.update_of_ne htmp]

/-- A replacement that is reported to have failed left the file as it was. -/
theorem replace_failed (hne : name≠tmp) {r : Replacing} (h : r.reported=false) :
    (files.replace tmp name data r).2 name=files name := by
  rcases replace_cases files tmp name data r with ⟨-,left,heq,hleft⟩ | ⟨hr,-⟩
  · rw [heq]
    exact hleft name hne
  · rw [hr] at h
    cases h

/-- One that is reported to have worked, and is not cut off, left the data. -/
theorem replace_worked {r : Replacing} (h : r.reported=true) (hwhole : r.Whole data.length) :
    (files.replace tmp name data r).2 name=some data := by
  rcases replace_cases files tmp name data r with ⟨hr,-⟩ | ⟨-,kept,hfill,heq⟩
  · rw [hr] at h
    cases h
  · have hkept : data.length≤kept := by
      have hw := hwhole h
      rw [hfill] at hw
      exact hw.1
    rw [heq]
    show Function.update (Function.update files tmp none) name _ name=some data
    rw [Function.update_self,List.take_of_length_le hkept]

end

end Files

end V2xPki.Framework
