import Mathlib.Data.List.Induction
import Mathlib.Tactic.Ring

namespace V2xPki

abbrev Bytes := List UInt8

/-- `StaticBytes<N>`: at most `N` octets with a runtime length. -/
@[ext]
structure StaticBytes (N : Nat) where
  toVector : Bytes
  size_le : toVector.length≤N
deriving DecidableEq

namespace StaticBytes
variable {N : Nat}

/-- `StaticBytes::from`: longer input is refused, never cut. -/
def fromBytes (v : Bytes) : Option (StaticBytes N) :=
  if h : v.length≤N then some ⟨v,h⟩ else none

/-- The default-constructed buffer. -/
def nil : StaticBytes N := ⟨[],by simp⟩

instance : Inhabited (StaticBytes N) := ⟨nil⟩

def size (b : StaticBytes N) : Nat := b.toVector.length

def empty (b : StaticBytes N) : Bool := b.toVector.isEmpty

@[simp] theorem nil_toVector : (nil : StaticBytes N).toVector=[] := rfl

theorem fromBytes_some {v : Bytes} {b : StaticBytes N} :
    fromBytes v=some b ↔ b.toVector=v := by
  unfold fromBytes
  constructor
  · intro h
    split at h
    · cases h; rfl
    · cases h
  · intro h
    subst h
    simp [b.size_le]

/-- `if (auto b = StaticBytes::from(v)) field = *b;` over an empty field. -/
def orEmpty (v : Bytes) : StaticBytes N := (fromBytes v).getD nil

theorem orEmpty_toVector (v : Bytes) :
    (orEmpty v : StaticBytes N).toVector=if v.length≤N then v else [] := by
  unfold orEmpty fromBytes
  split <;> simp

theorem empty_eq_true {b : StaticBytes N} : b.empty=true ↔ b.toVector=[] := by
  simp [empty]

theorem empty_eq_false {b : StaticBytes N} : b.empty=false ↔ b.toVector≠[] := by
  simp [empty]

theorem orEmpty_toVector_self (b : StaticBytes N) : (orEmpty b.toVector : StaticBytes N)=b := by
  have hb : fromBytes b.toVector=some b := fromBytes_some.mpr rfl
  rw [orEmpty,hb,Option.getD_some]

/-- What is not lost by an overflow is kept as it is. -/
theorem orEmpty_of_ne_nil {v : Bytes} (h : (orEmpty v : StaticBytes N).toVector≠[]) :
    (orEmpty v : StaticBytes N).toVector=v := by
  rw [orEmpty_toVector] at h ⊢
  split at h
  · rename_i hfits
    exact if_pos hfits
  · exact absurd rfl h

end StaticBytes

/-- `std::array<uint8_t, 8>`. -/
abbrev HashedId8 := Vector UInt8 8

namespace HashedId8

def zero : HashedId8 := Vector.replicate 8 0

/-- The `size == kHashedId8Len` test and the copy that follows it. -/
def ofBytes (b : Bytes) : Option HashedId8 :=
  if h : b.length=8 then some ⟨b.toArray,by simpa using h⟩ else none

theorem ofBytes_some {b : Bytes} {h : HashedId8} : ofBytes b=some h ↔ h.toList=b := by
  unfold ofBytes
  constructor
  · intro hb
    split at hb
    · cases hb; rfl
    · cases hb
  · intro h
    subst h
    simp [Vector.toList]

end HashedId8

def hexDigits : List Char :=
  ['0','1','2','3','4','5','6','7','8','9','a','b','c','d','e','f']

def hexDigitsUpper : List Char :=
  ['0','1','2','3','4','5','6','7','8','9','A','B','C','D','E','F']

/-- Two digits for each octet, as `std::setw(2)` over `std::setfill('0')` prints them. -/
def hexString (digits : List Char) (h : HashedId8) : String :=
  String.ofList (h.toList.flatMap fun b =>
    [digits.getD (b.toNat/16) '0',digits.getD (b.toNat%16) '0'])

def hid8ToHex (h : HashedId8) : String := hexString hexDigits h

def hid8HexUpper (h : HashedId8) : String := hexString hexDigitsUpper h

theorem hexDigitsUpper_injective : ∀ i<16,∀ j<16,
    hexDigitsUpper.getD i '0'=hexDigitsUpper.getD j '0' → i=j := by decide

private theorem upperDigits_injective {xs ys : Bytes}
    (h : xs.flatMap (fun b => [hexDigitsUpper.getD (b.toNat/16) '0',
        hexDigitsUpper.getD (b.toNat%16) '0'])=
      ys.flatMap (fun b => [hexDigitsUpper.getD (b.toNat/16) '0',
        hexDigitsUpper.getD (b.toNat%16) '0'])) : xs=ys := by
  induction xs generalizing ys with
  | nil =>
    cases ys with
    | nil => rfl
    | cons y ys => simp at h
  | cons x xs ih =>
    cases ys with
    | nil => simp at h
    | cons y ys =>
      simp only [List.flatMap_cons,List.cons_append,List.nil_append,List.cons.injEq] at h
      obtain ⟨hhigh,hlow,hrest⟩ := h
      have hx := x.toNat_lt
      have hy := y.toNat_lt
      have hdiv := hexDigitsUpper_injective _ (by omega) _ (by omega) hhigh
      have hmod := hexDigitsUpper_injective _ (by omega) _ (by omega) hlow
      have hxy : x=y := UInt8.toNat_inj.mp (by omega)
      rw [hxy,ih hrest]

/-- An identifier can be read back from its text. -/
theorem hid8HexUpper_injective {h k : HashedId8} (heq : hid8HexUpper h=hid8HexUpper k) : h=k := by
  have hlists := congrArg String.toList heq
  simp only [hid8HexUpper,hexString,String.toList_ofList] at hlists
  exact Vector.toList_inj.mp (upperDigits_injective hlists)

theorem hid8HexUpper_length (h : HashedId8) : (hid8HexUpper h).toList.length=16 := by
  simp [hid8HexUpper,hexString,List.length_flatMap,List.map_const']

/-- Equality of two hexadecimal texts up to letter case. -/
def SameHex (a b : String) : Prop :=
  a.toList.map Char.toLower=b.toList.map Char.toLower

instance (a b : String) : Decidable (SameHex a b) := inferInstanceAs (Decidable (_=_))

/-- A `std::string` made of raw octets. -/
def stringOfBytes (b : Bytes) : String :=
  String.ofList (b.map fun c => Char.ofNat c.toNat)

/-- The octets of a `std::string`. -/
def bytesOfString (s : String) : Bytes := s.toList.map fun c => UInt8.ofNat c.toNat

/-- `BN_bin2bn`. -/
def natOfBytes (b : Bytes) : Nat := b.foldl (fun n c => n*256+c.toNat) 0

/-- `BN_bn2binpad` into a zeroed buffer, which a number too long leaves untouched. -/
def binpad (len n : Nat) : Bytes :=
  if n<256^len then (List.range len).reverse.map fun i => UInt8.ofNat (n/256^i)
  else List.replicate len 0

theorem natOfBytes_append (b : Bytes) (c : UInt8) :
    natOfBytes (b++[c])=natOfBytes b*256+c.toNat := by
  simp [natOfBytes]

theorem natOfBytes_lt (b : Bytes) : natOfBytes b<256^b.length := by
  induction b using List.reverseRecOn with
  | nil => simp [natOfBytes]
  | append_singleton b c ih =>
    have hc := c.toNat_lt
    rw [natOfBytes_append,List.length_append,List.length_singleton,Nat.pow_succ]
    omega

private theorem foldl_digits (len n a : Nat) :
    ((List.range len).reverse.map fun i => UInt8.ofNat (n/256^i)).foldl
      (fun m c => m*256+c.toNat) a=a*256^len+n%256^len := by
  induction len generalizing a with
  | zero => simp [Nat.mod_one]
  | succ len ih =>
    rw [List.range_succ,List.reverse_append,List.reverse_singleton,List.singleton_append,
      List.map_cons,List.foldl_cons,ih,Nat.mod_pow_succ,UInt8.toNat_ofNat',Nat.pow_succ]
    ring

/-- A number that fits is read back from its padded octets, leading zeros included. -/
theorem natOfBytes_binpad {len n : Nat} (h : n<256^len) : natOfBytes (binpad len n)=n := by
  unfold natOfBytes binpad
  rw [if_pos h,foldl_digits,Nat.zero_mul,Nat.zero_add,Nat.mod_eq_of_lt h]

theorem zipWith_xor_cancel {a b : Bytes} (h : a.length=b.length) :
    List.zipWith (·^^^·) a (List.zipWith (·^^^·) a b)=b := by
  induction a generalizing b with
  | nil =>
    cases b with
    | nil => rfl
    | cons y b => simp at h
  | cons x a ih =>
    cases b with
    | nil => simp at h
    | cons y b =>
      have hx : x^^^(x^^^y)=y := by rw [← UInt8.xor_assoc,UInt8.xor_self,UInt8.zero_xor]
      have hl : a.length=b.length := by simpa using h
      rw [List.zipWith_cons_cons,List.zipWith_cons_cons,hx,ih hl]

@[simp] theorem binpad_length (len n : Nat) : (binpad len n).length=len := by
  unfold binpad
  split <;> simp

theorem natOfBytes_injective {a b : Bytes} (hl : a.length=b.length)
    (h : natOfBytes a=natOfBytes b) : a=b := by
  induction a using List.reverseRecOn generalizing b with
  | nil =>
    have hb : b=[] := List.eq_nil_of_length_eq_zero (by simpa using hl.symm)
    exact hb.symm
  | append_singleton a x ih =>
    cases b using List.reverseRecOn with
    | nil => simp at hl
    | append_singleton b y =>
      rw [natOfBytes_append,natOfBytes_append] at h
      have hx := x.toNat_lt
      have hy := y.toNat_lt
      have hhead : natOfBytes a=natOfBytes b := by omega
      have hlast : x.toNat=y.toNat := by omega
      have hlen : a.length=b.length := by simpa using hl
      rw [ih hlen hhead,UInt8.toNat_inj.mp hlast]

/-- Octets are written back with the leading zeros they had. -/
theorem binpad_natOfBytes (b : Bytes) : binpad b.length (natOfBytes b)=b := by
  apply natOfBytes_injective
  · exact binpad_length _ _
  · exact natOfBytes_binpad (natOfBytes_lt b)

end V2xPki
