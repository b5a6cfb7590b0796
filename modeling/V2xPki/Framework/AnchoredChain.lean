import Mathlib.Data.List.Chain

namespace V2xPki.Framework

variable {α : Type}

/-- What a chain of authority is made of: who vouches for a node, which nodes
vouch for themselves, which nodes and which single steps are acceptable. -/
structure Authority (α : Type) where
  parent : α → Option α
  root : α → Prop
  node : α → Prop
  link : α → α → Prop

/-- A path of acceptable nodes in which every node but the last is vouched for by
its successor, and the last vouches for itself. -/
structure AnchoredChain (A : Authority α) (xs : List α) : Prop where
  nodes : ∀ x∈xs,A.node x
  links : xs.IsChain (fun x y => ¬A.root x ∧ A.parent x=some y ∧ A.link x y)
  anchored : ∃ r,xs.getLast?=some r ∧ A.root r ∧ A.link r r

/-- Every node of a path with the node that vouches for it, the last one with itself. -/
def stepsOf (xs : List α) : List (α × α) := xs.zip (xs.tail++xs.getLast?.toList)

theorem stepsOf_cons_cons (a b : α) (xs : List α) :
    stepsOf (a::b::xs)=(a,b)::stepsOf (b::xs) := by
  simp [stepsOf,List.getLast?_cons_cons]

theorem stepsOf_last {xs : List α} {r : α} (h : xs.getLast?=some r) : (r,r)∈stepsOf xs := by
  induction xs with
  | nil => cases h
  | cons a xs ih =>
    cases xs with
    | nil =>
      obtain rfl : a=r := by simpa using h
      simp [stepsOf]
    | cons b xs =>
      have hlast : (b::xs).getLast?=some r := by simpa using h
      rw [stepsOf_cons_cons]
      exact List.mem_cons_of_mem _ (ih hlast)

/-- A chain of one kind is a chain of another if each of its own steps is. -/
theorem isChain_of_steps {R S : α → α → Prop} {xs : List α} (h : xs.IsChain R)
    (hs : ∀ x y,(x,y)∈stepsOf xs → R x y → S x y) : xs.IsChain S := by
  induction xs with
  | nil => exact .nil
  | cons a xs ih =>
    cases xs with
    | nil => exact .singleton a
    | cons b xs =>
      obtain ⟨hab,hrest⟩ := List.isChain_cons_cons.mp h
      rw [stepsOf_cons_cons] at hs
      refine List.isChain_cons_cons.mpr ⟨hs a b List.mem_cons_self hab,ih hrest ?_⟩
      intro x y hxy
      exact hs x y (List.mem_cons_of_mem _ hxy)

namespace AnchoredChain
variable {A : Authority α}

/-- Every step of an anchored path was accepted, the last one included. -/
theorem link_of_mem {xs : List α} (h : AnchoredChain A xs) {x y : α} (hm : (x,y)∈stepsOf xs) :
    A.link x y := by
  obtain ⟨-,hl,r,hr,-,hself⟩ := h
  induction xs with
  | nil => cases hr
  | cons a xs ih =>
    cases xs with
    | nil =>
      obtain rfl : a=r := by simpa using hr
      obtain ⟨rfl,rfl⟩ : x=a ∧ y=a := by simpa [stepsOf] using hm
      exact hself
    | cons b xs =>
      have hl := List.isChain_cons_cons.mp hl
      have hlast : (b::xs).getLast?=some r := by simpa using hr
      rw [stepsOf_cons_cons] at hm
      rcases List.mem_cons.mp hm with heq | hm
      · obtain ⟨rfl,rfl⟩ := Prod.mk.inj heq
        exact hl.1.2.2
      · exact ih hm hl.2 hlast

/-- A path stays anchored when more steps are accepted. -/
theorem mono {B : Authority α} {xs : List α} (h : AnchoredChain A xs)
    (hparent : ∀ x,A.parent x=B.parent x) (hroot : ∀ x,A.root x ↔ B.root x)
    (hnode : ∀ x,A.node x → B.node x) (hlink : ∀ x y,A.link x y → B.link x y) :
    AnchoredChain B xs := by
  obtain ⟨hn,hl,r,hr,hself⟩ := h
  refine ⟨fun x hx => hnode x (hn x hx),hl.imp ?_,r,hr,(hroot r).mp hself.1,hlink r r hself.2⟩
  intro x y hxy
  exact ⟨fun hx => hxy.1 ((hroot x).mpr hx),(hparent x).symm.trans hxy.2.1,hlink x y hxy.2.2⟩

theorem pair_iff (x y : α) : AnchoredChain A [x,y] ↔
    (A.node x ∧ A.node y) ∧ (¬A.root x ∧ A.parent x=some y ∧ A.link x y) ∧
      A.root y ∧ A.link y y := by
  constructor
  · intro h
    obtain ⟨hn,hl,r,hr,ha⟩ := h
    obtain rfl : y=r := by simpa using hr
    exact ⟨by simpa using hn,by simpa using hl,ha⟩
  · intro h
    obtain ⟨hn,hl,ha⟩ := h
    exact ⟨by simpa using hn,by simpa using hl,y,rfl,ha⟩

theorem triple_iff (x y z : α) : AnchoredChain A [x,y,z] ↔
    (A.node x ∧ A.node y ∧ A.node z) ∧
      (¬A.root x ∧ A.parent x=some y ∧ A.link x y) ∧
      (¬A.root y ∧ A.parent y=some z ∧ A.link y z) ∧ A.root z ∧ A.link z z := by
  constructor
  · intro h
    obtain ⟨hn,hl,r,hr,ha⟩ := h
    obtain rfl : z=r := by simpa using hr
    simp only [List.isChain_cons_cons,List.isChain_singleton,and_true] at hl
    exact ⟨by simpa using hn,hl.1,hl.2,ha⟩
  · intro h
    obtain ⟨hn,hx,hy,ha⟩ := h
    exact ⟨by simpa using hn,by simp [hx,hy],z,rfl,ha⟩

/-- The chains of two or three nodes that start at `x`: its parent is a root, or
the parent of its parent is. -/
theorem exists_short_iff (x : α) :
    (∃ xs,xs.head?=some x ∧ (xs.length=2 ∨ xs.length=3) ∧ AnchoredChain A xs) ↔
      (∃ y,AnchoredChain A [x,y]) ∨ ∃ y z,AnchoredChain A [x,y,z] := by
  constructor
  · intro h
    obtain ⟨xs,hx,hl,hc⟩ := h
    match xs,hx,hl with
    | [_,y],hx,_ =>
      obtain rfl : _=x := by simpa using hx
      exact .inl ⟨y,hc⟩
    | [_,y,z],hx,_ =>
      obtain rfl : _=x := by simpa using hx
      exact .inr ⟨y,z,hc⟩
  · intro h
    rcases h with ⟨y,h⟩ | ⟨y,z,h⟩
    · exact ⟨[x,y],rfl,.inl rfl,h⟩
    · exact ⟨[x,y,z],rfl,.inr rfl,h⟩

end AnchoredChain

end V2xPki.Framework
