import V2xPki.Crypto.Laws

namespace V2xPki.Point

/-- The coordinates a curve point structure holds. -/
def coordinates : Asn.CurvePoint → List Bytes
  | .xOnly x => [x]
  | .fill => []
  | .compressedY0 x => [x]
  | .compressedY1 x => [x]
  | .uncompressed x y => [x,y]

def Sized (len : Nat) (pt : Asn.CurvePoint) : Prop := ∀ c∈coordinates pt,c.length=len

/-- The alternatives that stand for a key: compressed and uncompressed. -/
def IsKey : Asn.CurvePoint → Prop
  | .compressedY0 _ => True
  | .compressedY1 _ => True
  | .uncompressed _ _ => True
  | _ => False

/-- How long the SEC1 string of each alternative is. -/
def sec1Length (len : Nat) : Asn.CurvePoint → Nat
  | .xOnly _ => len
  | .fill => 0
  | .compressedY0 _ => len+1
  | .compressedY1 _ => len+1
  | .uncompressed _ _ => 2*len+1

/-- The first octet of the compressed form: the parity of the last octet of `Y`. -/
def parityMark (Y : Bytes) : UInt8 := 0x02+Y.getLastD 0%2

/-- The two shapes `evp_pkey_from_public` lets through, and what it makes of the string then. -/
structure TakenAsKey (ssl : OpenSsl) (curve : Curve) (key : Bytes) : Prop where
  shape : key.length=curve.pubkeyLen ∧ key.head?=some 0x04 ∨
    key.length=curve.compressedLen ∧ (key.head?=some 0x02 ∨ key.head?=some 0x03)
  passed : Crypto.evpPkeyFromPublic ssl key curve=
    (if key.length=curve.pubkeyLen then some key else ssl.decompress curve key).filter
      (ssl.publicOk curve)

/-- What one family of conversions does for coordinates of `len` octets. -/
structure Sec1Conversion (len : Nat) (toSec1 : Option Asn.CurvePoint → Bytes)
    (fromSec1 : Bytes → Option Asn.CurvePoint) : Prop where
  compresses : ∀ X Y : Bytes,X.length=len → Y.length=len →
    toSec1 (fromSec1 (0x04::(X++Y)))=parityMark Y::X
  length : ∀ pt,Sized len pt → (toSec1 (some pt)).length=sec1Length len pt
  injective : ∀ p q,Sized len p → Sized len q → toSec1 (some p)=toSec1 (some q) → p=q
  refused : ∀ pt,IsKey pt → ¬Sized len pt → toSec1 (some pt)=[]
  taken : ∀ (ssl : OpenSsl) (curve : Curve) (pt : Asn.CurvePoint),curve.scalarLen=len →
    IsKey pt → toSec1 (some pt)≠[] → TakenAsKey ssl curve (toSec1 (some pt))

section Sized
variable {len : Nat} {x y : Bytes}

@[simp] theorem sized_xOnly : Sized len (.xOnly x) ↔ x.length=len := by
  simp [Sized,coordinates]

@[simp] theorem sized_compressedY0 : Sized len (.compressedY0 x) ↔ x.length=len := by
  simp [Sized,coordinates]

@[simp] theorem sized_compressedY1 : Sized len (.compressedY1 x) ↔ x.length=len := by
  simp [Sized,coordinates]

@[simp] theorem sized_uncompressed :
    Sized len (.uncompressed x y) ↔ x.length=len ∧ y.length=len := by
  simp [Sized,coordinates]

/-- The SEC1 string of a point with coordinates of the right length. -/
def sec1Of : Asn.CurvePoint → Bytes
  | .xOnly x => x
  | .fill => []
  | .compressedY0 x => 0x02::x
  | .compressedY1 x => 0x03::x
  | .uncompressed x y => 0x04::(x++y)

theorem toSec1Of_sized {pt : Asn.CurvePoint} (h : Sized len pt) :
    toSec1Of len (some pt)=sec1Of pt := by
  cases pt with
  | xOnly x => rfl
  | fill => rfl
  | compressedY0 x => simp [toSec1Of,sec1Of,sized_compressedY0.mp h]
  | compressedY1 x => simp [toSec1Of,sec1Of,sized_compressedY1.mp h]
  | uncompressed x y => simp [toSec1Of,sec1Of,sized_uncompressed.mp h]

theorem toSec1Of_refused {pt : Asn.CurvePoint} (hkey : IsKey pt) (h : ¬Sized len pt) :
    toSec1Of len (some pt)=[] := by
  cases pt with
  | xOnly x => exact hkey.elim
  | fill => exact hkey.elim
  | compressedY0 x => exact if_pos (mt sized_compressedY0.mpr h)
  | compressedY1 x => exact if_pos (mt sized_compressedY1.mpr h)
  | uncompressed x y =>
    rw [sized_uncompressed,not_and_or] at h
    exact if_pos h

theorem sec1Of_length {pt : Asn.CurvePoint} (h : Sized len pt) :
    (sec1Of pt).length=sec1Length len pt := by
  cases pt with
  | xOnly x => exact sized_xOnly.mp h
  | fill => rfl
  | compressedY0 x => simp [sec1Of,sec1Length,sized_compressedY0.mp h]
  | compressedY1 x => simp [sec1Of,sec1Length,sized_compressedY1.mp h]
  | uncompressed x y =>
    obtain ⟨hx,hy⟩ := sized_uncompressed.mp h
    simp only [sec1Of,sec1Length,List.length_cons,List.length_append,hx,hy]
    omega

/-- The length tells the alternatives apart up to the parity, and the first octet tells that. -/
theorem sec1Of_injective (hpos : 0<len) {p q : Asn.CurvePoint} (hp : Sized len p)
    (hq : Sized len q) (h : sec1Of p=sec1Of q) : p=q := by
  have hlen := congrArg List.length h
  rw [sec1Of_length hp,sec1Of_length hq] at hlen
  cases p <;> cases q <;> simp only [sec1Length] at hlen <;> try omega
  case xOnly.xOnly x x' => exact congrArg _ h
  case fill.fill => rfl
  case compressedY0.compressedY0 x x' => exact congrArg _ (List.cons.inj h).2
  case compressedY0.compressedY1 x x' => exact absurd (List.cons.inj h).1 (by decide)
  case compressedY1.compressedY0 x x' => exact absurd (List.cons.inj h).1 (by decide)
  case compressedY1.compressedY1 x x' => exact congrArg _ (List.cons.inj h).2
  case uncompressed.uncompressed x y x' y' =>
    obtain ⟨hx,-⟩ := sized_uncompressed.mp hp
    obtain ⟨hx',-⟩ := sized_uncompressed.mp hq
    obtain ⟨rfl,rfl⟩ := List.append_inj (List.cons.inj h).2 (hx.trans hx'.symm)
    rfl

end Sized

theorem lastOctet_parity (b : UInt8) :
    (if b&&&1≠0 then 0x03 else 0x02 : UInt8)=0x02+b%2 := by
  have hand : b&&&1=b%2 := by
    apply UInt8.toNat.inj
    simp [Nat.and_one_is_mod]
  have hmod : b%2=0 ∨ b%2=1 := by
    have hnat := Nat.mod_two_eq_zero_or_one b.toNat
    rcases hnat with hnat | hnat
    · exact .inl (UInt8.toNat.inj (by simpa using hnat))
    · exact .inr (UInt8.toNat.inj (by simpa using hnat))
  rw [hand]
  rcases hmod with hmod | hmod <;> rw [hmod] <;> rfl

section Families
variable {curve : Curve}

theorem getD_last {X Y : Bytes} {n : Nat} (hX : X.length=n) (hY : Y.length=n) (hpos : 0<n) :
    (0x04::(X++Y)).getD (2*n) 0=Y.getLastD 0 := by
  obtain ⟨m,rfl⟩ : ∃ m,n=m+1 := ⟨n-1,by omega⟩
  have hindex : 2*(m+1)=X.length+m+1 := by omega
  rw [hindex,List.getD_cons_succ,List.getD_eq_getElem?_getD,
    List.getElem?_append_right (by omega),List.getLastD_eq_getLast?,List.getLast?_eq_getElem?,hY]
  simp

theorem compresses_of_curve (curve : Curve) {X Y : Bytes} (hX : X.length=curve.scalarLen)
    (hY : Y.length=curve.scalarLen) :
    toSec1Of curve.scalarLen (fromSec1Of curve.scalarLen (0x04::(X++Y)))=parityMark Y::X := by
  have hlen : (0x04::(X++Y)).length=curve.pubkeyLen := by
    rw [Curve.pubkeyLen_eq,List.length_cons,List.length_append,hX,hY]
    omega
  rw [toSec1_fromSec1 hlen,compressedPoint,getD_last hX hY curve.scalarLen_pos,lastOctet_parity,
    List.tail_cons,List.take_append_of_le_length (by omega),List.take_of_length_le (by omega)]
  rfl

/-- A key string is never of the length of the other form. -/
theorem takenAsKey_of_sized (ssl : OpenSsl) {pt : Asn.CurvePoint} (hkey : IsKey pt)
    (h : Sized curve.scalarLen pt) : TakenAsKey ssl curve (sec1Of pt) := by
  have hlen := sec1Of_length h
  have hpos := curve.scalarLen_pos
  have hc := curve.compressedLen_eq
  have hu := curve.pubkeyLen_eq
  have hcompressed : ∀ x,(sec1Of pt).length=curve.scalarLen+1 →
      sec1Of pt=0x02::x ∨ sec1Of pt=0x03::x → TakenAsKey ssl curve (sec1Of pt) := by
    intro x hl hx
    have hshort : (sec1Of pt).length≠curve.pubkeyLen := by omega
    have hmark : (sec1Of pt).head?=some 0x02 ∨ (sec1Of pt).head?=some 0x03 := by
      rcases hx with hx | hx <;> simp [hx]
    refine ⟨.inr ⟨by omega,hmark⟩,?_⟩
    rw [Crypto.evpPkeyFromPublic,if_neg (fun hh => hshort hh.1),if_pos ⟨by omega,hmark⟩,
      if_neg hshort]
  cases pt with
  | xOnly x => exact hkey.elim
  | fill => exact hkey.elim
  | compressedY0 x => exact hcompressed x hlen (.inl rfl)
  | compressedY1 x => exact hcompressed x hlen (.inr rfl)
  | uncompressed x y =>
    have hlong : (sec1Of (.uncompressed x y)).length=curve.pubkeyLen := hlen.trans hu.symm
    refine ⟨.inl ⟨hlong,rfl⟩,?_⟩
    rw [Crypto.evpPkeyFromPublic,if_pos ⟨hlong,rfl⟩,if_pos hlong]

/-- One proof for both families: they differ in the length of a coordinate only. -/
theorem sec1Conversion_of_curve (curve : Curve) :
    Sec1Conversion curve.scalarLen (toSec1Of curve.scalarLen) (fromSec1Of curve.scalarLen) where
  compresses := fun X Y hX hY => compresses_of_curve curve hX hY
  length := by
    intro pt h
    rw [toSec1Of_sized h,sec1Of_length h]
  injective := by
    intro p q hp hq h
    rw [toSec1Of_sized hp,toSec1Of_sized hq] at h
    exact sec1Of_injective curve.scalarLen_pos hp hq h
  refused := fun pt hkey h => toSec1Of_refused hkey h
  taken := by
    intro ssl c pt hc hkey hne
    have hsized : Sized curve.scalarLen pt := by
      by_contra hns
      exact hne (toSec1Of_refused hkey hns)
    rw [toSec1Of_sized hsized]
    rw [← hc] at hsized
    exact takenAsKey_of_sized ssl hkey hsized

end Families

theorem toSec1_fromSec1Uncompressed {X Y : Bytes} (hX : X.length=kP256ScalarLen)
    (hY : Y.length=kP256ScalarLen) :
    toSec1 (fromSec1Uncompressed (0x04::(X++Y)))=0x04::(X++Y) := by
  have hlen : (0x04::(X++Y)).length=kP256PublicKeyLen := by
    rw [List.length_cons,List.length_append,hX,hY]
    rfl
  have hfirst : (X++Y).take kP256ScalarLen=X := by
    rw [← hX,List.take_left]
  have hsecond : ((0x04::(X++Y)).drop (1+kP256ScalarLen)).take kP256ScalarLen=Y := by
    rw [Nat.add_comm,List.drop_succ_cons,← hX,List.drop_left,hX,← hY,List.take_length]
  rw [fromSec1Uncompressed,if_neg (by simp [hlen]),hsecond,List.tail_cons,hfirst]
  exact toSec1Of_sized (sized_uncompressed.mpr ⟨hX,hY⟩)

/-- The conversions are SEC1 compression and its inverse for both sizes, what they give for a
key fits the check of `evp_pkey_from_public`, and a signature's `r` is the first coordinate. -/
theorem sec1_conversions :
    Sec1Conversion kP256ScalarLen toSec1 fromSec1 ∧
    Sec1Conversion kP384ScalarLen toSec1_384 fromSec1_384 ∧
    (∀ X Y : Bytes,X.length=kP256ScalarLen → Y.length=kP256ScalarLen →
      toSec1 (fromSec1Uncompressed (0x04::(X++Y)))=0x04::(X++Y)) ∧
    ∀ pt,sigR (some pt)=(coordinates pt).headD [] := by
  refine ⟨sec1Conversion_of_curve .nistP256,sec1Conversion_of_curve .nistP384,?_,?_⟩
  · intro X Y hX hY
    exact toSec1_fromSec1Uncompressed hX hY
  · intro pt
    cases pt <;> rfl

end V2xPki.Point
