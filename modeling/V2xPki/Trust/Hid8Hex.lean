import Mathlib.Tactic.Common
import V2xPki.Data.Bytes

/- Identifiers as text. `std::stoul` in base 16 is given as the C library documents it, on the
octets of a string and in the "C" locale, which the program never leaves. -/

namespace V2xPki

def isSpace (c : UInt8) : Bool := c==0x20 || (0x09 ≤ c && c ≤ 0x0d)

def isSign (c : UInt8) : Bool := c==0x2b || c==0x2d

/-- The value of a hexadecimal digit of either case. -/
def hexValue (c : UInt8) : Option Nat :=
  if 0x30 ≤ c ∧ c ≤ 0x39 then some (c.toNat-0x30)
  else if 0x41 ≤ c ∧ c ≤ 0x46 then some (c.toNat-0x37)
  else if 0x61 ≤ c ∧ c ≤ 0x66 then some (c.toNat-0x57)
  else none

def isHex (c : UInt8) : Bool := (hexValue c).isSome

def hexNumber (digits : Bytes) : Nat := digits.foldl (fun n c => n*16+(hexValue c).getD 0) 0

/-- An optional prefix `0x`; without digits after it only its zero is read. -/
def skipPrefix : Bytes → Bytes
  | 0x30::x::rest =>
      if (x==0x78 || x==0x58) && (rest.head?.any isHex) then rest else 0x30::x::rest
  | s => s

def skipSign : Bytes → Bytes
  | c::rest => if isSign c then rest else c::rest
  | [] => []

/-- The digits that are read, after blanks, a sign and a prefix and up to anything else. -/
def stoulDigits (s : Bytes) : Bytes :=
  (skipPrefix (skipSign (s.dropWhile isSpace))).takeWhile isHex

/-- `std::stoul(s, nullptr, 16)`: `none` for `invalid_argument` and for `out_of_range`. A
minus sign negates modulo 2^64. -/
def stoulHex (s : Bytes) : Option UInt64 :=
  let value := hexNumber (stoulDigits s)
  if (stoulDigits s).isEmpty ∨ 2^64 ≤ value then none
  else if (s.dropWhile isSpace).head?=some 0x2d then some (-UInt64.ofNat value)
  else some (UInt64.ofNat value)

/-- The loop over the pairs of characters. -/
def readPairs : Nat → Bytes → Option Bytes
  | 0,_ => some []
  | n+1,hex => do
      let byte ← stoulHex (hex.take 2)
      let rest ← readPairs n (hex.drop 2)
      pure (byte.toUInt8::rest)

def parseHid8Hex (hex : Bytes) : Option HashedId8 :=
  if hex.length<16 then none else (readPairs 8 hex).bind HashedId8.ofBytes

/-- `hex_to_hid8` of the command line. -/
def Cli.hexToHid8 (hex : Bytes) : HashedId8 :=
  if hex.length<16 then .zero
  else match readPairs 8 hex with
    | none => .zero
    | some out => (HashedId8.ofBytes out).getD .zero

/-- A text of hexadecimal digits and the octets it denotes. -/
inductive HexOf : Bytes → Bytes → Prop where
  | nil : HexOf [] []
  | cons {a b : UInt8} {x y : Nat} {hex out : Bytes} :
      hexValue a=some x → hexValue b=some y → HexOf hex out →
      HexOf (a::b::hex) (UInt8.ofNat (16*x+y)::out)

/-- The grammar of identifiers: 16 digits, and the identifier they denote. -/
def Denotes (hex : Bytes) (h : HashedId8) : Prop := hex.length=16 ∧ HexOf hex h.toList

/-- The pairs `std::stoul` makes something of. -/
def ReadablePair (a b : UInt8) : Prop :=
  isHex a=true ∨ (isSpace a=true ∨ isSign a=true) ∧ isHex b=true

section Pairs

/-- A fact about octets checked for each of them. -/
theorem forall_octet {P : UInt8 → Prop} (h : ∀ n<256,P (UInt8.ofNat n)) (c : UInt8) : P c := by
  have hc := h c.toNat c.toNat_lt
  rwa [UInt8.ofNat_toNat] at hc

theorem hexValue_lt (c : UInt8) : (hexValue c).getD 0<16 := by
  revert c
  apply forall_octet
  decide +kernel

theorem not_isHex_of_isSpace (c : UInt8) : isSpace c=true → isHex c=false := by
  revert c
  apply forall_octet
  decide +kernel

theorem not_isHex_of_isSign (c : UInt8) : isSign c=true → isHex c=false := by
  revert c
  apply forall_octet
  decide +kernel

theorem hexNumber_short {ds : Bytes} (h : ds.length≤2) : hexNumber ds<256 := by
  match ds,h with
  | [],_ => decide
  | [a],_ =>
    have ha := hexValue_lt a
    simp only [hexNumber,List.foldl_cons,List.foldl_nil]
    omega
  | [a,b],_ =>
    have ha := hexValue_lt a
    have hb := hexValue_lt b
    simp only [hexNumber,List.foldl_cons,List.foldl_nil]
    omega

/-- Two characters have no room for a prefix and a digit. -/
theorem skipPrefix_short {s : Bytes} (h : s.length≤2) : skipPrefix s=s := by
  match s,h with
  | [],_ => rfl
  | [a],_ => unfold skipPrefix; split <;> simp_all
  | [a,b],_ => unfold skipPrefix; split <;> simp_all

theorem stoulDigits_pair (a b : UInt8) : stoulDigits [a,b]=
    if isSpace a=true ∨ isSign a=true then [b].takeWhile isHex else [a,b].takeWhile isHex := by
  have hb := not_isHex_of_isSpace b
  have hb' := not_isHex_of_isSign b
  have hone : ∀ c,skipPrefix [c]=[c] := fun c => skipPrefix_short (by simp)
  have htwo : skipPrefix [a,b]=[a,b] := skipPrefix_short (by simp)
  unfold stoulDigits
  by_cases hspace : isSpace a=true
  · rw [if_pos (.inl hspace),List.dropWhile_cons_of_pos hspace]
    by_cases hspace' : isSpace b=true
    · simp [hspace',hb hspace',skipSign,skipPrefix]
    · rw [List.dropWhile_cons_of_neg hspace']
      by_cases hsign : isSign b=true
      · simp [skipSign,hsign,hb' hsign,skipPrefix]
      · simp [skipSign,hsign,hone]
  · rw [List.dropWhile_cons_of_neg hspace]
    by_cases hsign : isSign a=true
    · simp [skipSign,hsign,hone]
    · simp [skipSign,hspace,hsign,htwo]

theorem stoulDigits_pair_length (a b : UInt8) : (stoulDigits [a,b]).length≤2 := by
  rw [stoulDigits_pair]
  split
  · exact (List.takeWhile_prefix isHex).length_le.trans (by simp)
  · exact (List.takeWhile_prefix isHex).length_le

theorem stoulHex_pair_isSome (a b : UInt8) : (stoulHex [a,b]).isSome ↔ ReadablePair a b := by
  have hvalue := hexNumber_short (stoulDigits_pair_length a b)
  have hempty : (stoulHex [a,b]).isSome ↔ stoulDigits [a,b]≠[] := by
    rw [stoulHex]
    by_cases hnil : stoulDigits [a,b]=[]
    · simp [hnil]
    · rw [if_neg (by simp [hnil]; omega)]
      split <;> simp [hnil]
  have ha := not_isHex_of_isSpace a
  have ha' := not_isHex_of_isSign a
  rw [hempty,stoulDigits_pair,ReadablePair]
  by_cases hskip : isSpace a=true ∨ isSign a=true
  · have hnot : isHex a=false := hskip.elim ha ha'
    rw [if_pos hskip]
    cases hb : isHex b <;> simp [hb,hnot,hskip]
  · rw [if_neg hskip]
    cases hh : isHex a <;> simp [hh,hskip]

theorem stoulHex_pair_hex {a b : UInt8} {x y : Nat} (ha : hexValue a=some x)
    (hb : hexValue b=some y) :
    (stoulHex [a,b]).map (·.toUInt8)=some (UInt8.ofNat (16*x+y)) := by
  have hhexa : isHex a=true := by rw [isHex,ha]; rfl
  have hhexb : isHex b=true := by rw [isHex,hb]; rfl
  have hspace : ¬isSpace a=true := fun h => by simp [not_isHex_of_isSpace a h] at hhexa
  have hsign : ¬isSign a=true := fun h => by simp [not_isHex_of_isSign a h] at hhexa
  have hdigits : stoulDigits [a,b]=[a,b] := by
    rw [stoulDigits_pair,if_neg (by simp [hspace,hsign])]
    simp [hhexa,hhexb]
  have hminus : ¬a=0x2d := by
    rintro rfl
    exact hsign rfl
  have hvalue : hexNumber [a,b]=16*x+y := by
    simp only [hexNumber,List.foldl_cons,List.foldl_nil,ha,hb,Option.getD_some]
    omega
  have hlt : hexNumber [a,b]<256 := hexNumber_short (by simp)
  rw [stoulHex,hdigits]
  simp only [List.dropWhile_cons_of_neg hspace,hvalue]
  rw [hvalue] at hlt
  rw [if_neg (by simp; omega),if_neg (by simpa using hminus),Option.map_some]
  congr 1
  apply UInt8.toNat.inj
  simp

end Pairs

section Loop
variable {hex out : Bytes}

/-- The loop fails at the first pair that cannot be read. -/
theorem readPairs_eq_none (n : Nat) (hlen : 2*n≤hex.length) :
    readPairs n hex=none ↔
      ∃ i<n,¬ReadablePair (hex.getD (2*i) 0) (hex.getD (2*i+1) 0) := by
  induction n generalizing hex with
  | zero => simp [readPairs]
  | succ n ih =>
    match hex,hlen with
    | [],hlen => simp at hlen
    | [a],hlen => simp at hlen; omega
    | a::b::rest,hlen =>
      have hrest : 2*n≤rest.length := by
        simp only [List.length_cons] at hlen
        omega
      have hpair := stoulHex_pair_isSome a b
      have hlater : (∃ i<n+1,¬ReadablePair ((a::b::rest).getD (2*i) 0)
          ((a::b::rest).getD (2*i+1) 0)) ↔ ¬ReadablePair a b ∨
            ∃ i<n,¬ReadablePair (rest.getD (2*i) 0) (rest.getD (2*i+1) 0) := by
        constructor
        · rintro ⟨i,hi,h⟩
          cases i with
          | zero => exact .inl h
          | succ i => exact .inr ⟨i,by omega,h⟩
        · rintro (h | ⟨i,hi,h⟩)
          · exact ⟨0,by omega,h⟩
          · exact ⟨i+1,by omega,h⟩
      rw [hlater,← ih hrest,← hpair,readPairs]
      simp only [List.take_succ_cons,List.take_zero,List.drop_succ_cons,List.drop_zero]
      cases stoulHex [a,b] with
      | none => simp
      | some v => cases readPairs n rest <;> simp

theorem readPairs_length {n : Nat} (h : readPairs n hex=some out) : out.length=n := by
  induction n generalizing hex out with
  | zero =>
    obtain rfl : []=out := Option.some.inj h
    rfl
  | succ n ih =>
    simp only [readPairs,Option.bind_eq_bind,Option.bind_eq_some_iff] at h
    obtain ⟨v,-,rest,hrest,hout⟩ := h
    obtain rfl : v.toUInt8::rest=out := Option.some.inj hout
    rw [List.length_cons,ih hrest]

theorem readPairs_of_hexOf (h : HexOf hex out) : readPairs out.length hex=some out := by
  induction h with
  | nil => rfl
  | @cons a b x y rest out ha hb _ ih =>
    have hpair := stoulHex_pair_hex ha hb
    obtain ⟨v,hv,hbyte⟩ := Option.map_eq_some_iff.mp hpair
    rw [List.length_cons,readPairs]
    simp only [List.take_succ_cons,List.take_zero,List.drop_succ_cons,List.drop_zero,hv,ih,
      Option.bind_eq_bind,Option.bind_some,hbyte]
    rfl

/-- Digits in pairs denote octets. -/
theorem hexOf_of_digits {n : Nat} (hlen : hex.length=2*n) (hhex : ∀ c∈hex,isHex c=true) :
    ∃ out,HexOf hex out ∧ out.length=n := by
  induction n generalizing hex with
  | zero =>
    obtain rfl : hex=[] := List.eq_nil_of_length_eq_zero hlen
    exact ⟨[],.nil,rfl⟩
  | succ n ih =>
    match hex,hlen,hhex with
    | [],hlen,_ => simp at hlen
    | [a],hlen,_ => simp at hlen; omega
    | a::b::rest,hlen,hhex =>
      obtain ⟨x,hx⟩ := Option.isSome_iff_exists.mp (hhex a (by simp))
      obtain ⟨y,hy⟩ := Option.isSome_iff_exists.mp (hhex b (by simp))
      obtain ⟨out,hout,hn⟩ := ih (by simpa [Nat.mul_succ] using hlen)
        (fun c hc => hhex c (by simp [hc]))
      exact ⟨_,.cons hx hy hout,by rw [List.length_cons,hn]⟩

theorem HexOf.digits (h : HexOf hex out) : ∀ c∈hex,isHex c=true := by
  induction h with
  | nil => simp
  | cons ha hb _ ih =>
    intro c hc
    rcases List.mem_cons.mp hc with rfl | hc
    · rw [isHex,ha]; rfl
    rcases List.mem_cons.mp hc with rfl | hc
    · rw [isHex,hb]; rfl
    · exact ih c hc

theorem parseHid8Hex_eq_none : parseHid8Hex hex=none ↔
    hex.length<16 ∨ ∃ i<8,¬ReadablePair (hex.getD (2*i) 0) (hex.getD (2*i+1) 0) := by
  unfold parseHid8Hex
  by_cases hlen : hex.length<16
  · simp [hlen]
  · rw [if_neg hlen,← readPairs_eq_none 8 (by omega)]
    cases h : readPairs 8 hex with
    | none => simp
    | some out =>
      have hout : HashedId8.ofBytes out=some _ := dif_pos (readPairs_length h)
      simp [hout,hlen]

theorem parseHid8Hex_of_denotes {h : HashedId8} (hd : Denotes hex h) :
    parseHid8Hex hex=some h := by
  obtain ⟨hlen,hof⟩ := hd
  have hread := readPairs_of_hexOf hof
  rw [Vector.length_toList] at hread
  rw [parseHid8Hex,if_neg (by omega),hread,Option.bind_some]
  exact HashedId8.ofBytes_some.mpr rfl

end Loop

/-- The printed form of octets denotes them. -/
theorem hexOf_printed (bs : Bytes) :
    HexOf ((bs.flatMap fun b => [hexDigitsUpper.getD (b.toNat/16) '0',
      hexDigitsUpper.getD (b.toNat%16) '0']).map fun c => UInt8.ofNat c.toNat) bs := by
  have hdigit : ∀ i<16,hexValue (UInt8.ofNat (hexDigitsUpper.getD i '0').toNat)=some i := by
    decide
  induction bs with
  | nil => exact .nil
  | cons b bs ih =>
    have hb := b.toNat_lt
    have hval : UInt8.ofNat (16*(b.toNat/16)+b.toNat%16)=b := by
      rw [Nat.div_add_mod,UInt8.ofNat_toNat]
    have hcons := HexOf.cons (hdigit (b.toNat/16) (by omega)) (hdigit (b.toNat%16) (by omega)) ih
    rwa [hval] at hcons

theorem denotes_hid8HexUpper (h : HashedId8) : Denotes (bytesOfString (hid8HexUpper h)) h := by
  refine ⟨by rw [bytesOfString,List.length_map,hid8HexUpper_length],?_⟩
  have hprinted := hexOf_printed h.toList
  rw [bytesOfString,hid8HexUpper,hexString,String.toList_ofList]
  exact hprinted

/-- The parser accepts exactly the texts of the grammar. -/
def ParsedByGrammar (hex : Bytes) : Prop := ∀ h,parseHid8Hex hex=some h ↔ Denotes hex h

/-- Texts on which it does: too short, with a pair that cannot be read, or 16 digits. -/
def WithinGrammar (hex : Bytes) : Prop :=
  hex.length<16 ∨ (∃ i<8,¬ReadablePair (hex.getD (2*i) 0) (hex.getD (2*i+1) 0)) ∨
    hex.length=16 ∧ ∀ c∈hex,isHex c=true

/-- Identifiers are parsed by their grammar on these texts only, the printed ones among them,
and the command line reads whatever the library reads. -/
theorem parseHid8Hex_grammar (hex : Bytes) :
    (ParsedByGrammar hex ↔ WithinGrammar hex) ∧
    (∀ h,parseHid8Hex (bytesOfString (hid8HexUpper h))=some h) ∧
    Cli.hexToHid8 hex=(parseHid8Hex hex).getD .zero := by
  refine ⟨?_,fun h => parseHid8Hex_of_denotes (denotes_hid8HexUpper h),?_⟩
  · constructor
    · intro h
      by_contra hnot
      simp only [WithinGrammar,not_or] at hnot
      obtain ⟨hlong,hreadable,hdigits⟩ := hnot
      have hsome : parseHid8Hex hex≠none := by
        rw [ne_eq,parseHid8Hex_eq_none,not_or]
        exact ⟨hlong,hreadable⟩
      obtain ⟨out,hout⟩ := Option.ne_none_iff_exists'.mp hsome
      obtain ⟨hlen,hof⟩ := (h out).mp hout
      exact hdigits ⟨hlen,hof.digits⟩
    · intro h k
      refine ⟨?_,parseHid8Hex_of_denotes⟩
      intro hparse
      rcases h with hshort | hpair | ⟨hlen,hdigits⟩
      · rw [parseHid8Hex_eq_none.mpr (.inl hshort)] at hparse
        cases hparse
      · rw [parseHid8Hex_eq_none.mpr (.inr hpair)] at hparse
        cases hparse
      · obtain ⟨out,hof,hout⟩ := hexOf_of_digits (n := 8) hlen hdigits
        have hread := readPairs_of_hexOf hof
        rw [hout] at hread
        rw [parseHid8Hex,if_neg (by omega),hread,Option.bind_some] at hparse
        rw [← HashedId8.ofBytes_some.mp hparse] at hof
        exact ⟨hlen,hof⟩
  · unfold Cli.hexToHid8 parseHid8Hex
    by_cases hlen : hex.length<16
    · rw [if_pos hlen,if_pos hlen]
      rfl
    · rw [if_neg hlen,if_neg hlen]
      cases readPairs 8 hex <;> rfl

/-- Two digits too many, a minus sign, a prefix and a stray letter all get through. -/
theorem parseHid8Hex_lenient :
    parseHid8Hex (bytesOfString "74534B8C394779F4FF")=some #v[0x74,0x53,0x4b,0x8c,0x39,0x47,0x79,0xf4] ∧
    parseHid8Hex (bytesOfString "-1534B8C394779F4")=some #v[0xff,0x53,0x4b,0x8c,0x39,0x47,0x79,0xf4] ∧
    parseHid8Hex (bytesOfString "0x534B8C394779F4")=some #v[0,0x53,0x4b,0x8c,0x39,0x47,0x79,0xf4] ∧
    parseHid8Hex (bytesOfString "74534B8C394779FZ")=some #v[0x74,0x53,0x4b,0x8c,0x39,0x47,0x79,0x0f] ∧
    ¬ParsedByGrammar (bytesOfString "74534B8C394779F4FF") := by
  have hlong : parseHid8Hex (bytesOfString "74534B8C394779F4FF")=
      some #v[0x74,0x53,0x4b,0x8c,0x39,0x47,0x79,0xf4] := by decide +kernel
  refine ⟨hlong,by decide +kernel,by decide +kernel,by decide +kernel,?_⟩
  intro h
  have hlen := ((h _).mp hlong).1
  exact absurd hlen (by decide +kernel)

end V2xPki
