import V2xPki.Framework.BlockStream
import V2xPki.Sample.StandIn

namespace V2xPki.Crypto

open Framework

/-- `BE32`: the low 32 bits of a number in big-endian order. -/
def be32 (i : Nat) : Bytes :=
  [UInt8.ofNat (i/2^24),UInt8.ofNat (i/2^16),UInt8.ofNat (i/2^8),UInt8.ofNat i]

section Stream
variable (ssl : OpenSsl) (ss p1 : Bytes)

/-- The block of KDF2 that belongs to a counter value. -/
def kdf2Block (counter : Nat) : Bytes := hashSha256 ssl (ss++be32 counter++p1)

/-- The blocks of the counters `1` to `n`. -/
def kdf2Stream (n : Nat) : Bytes := blockStream (fun i => kdf2Block ssl ss p1 (i+1)) n

/-- The octets of the stream from `first` on and before `last`, which lie in two blocks. -/
def kdf2Slice (first last : Nat) : Bytes :=
  ((kdf2Stream ssl ss p1 2).take last).drop first

theorem natOfBytes_be32 (i : Nat) : natOfBytes (be32 i)=i%2^32 := by
  simp only [natOfBytes,be32,List.foldl_cons,List.foldl_nil,UInt8.toNat_ofNat']
  omega

/-- One octet of the counter, cut out by a shift. -/
theorem shifted_octet (i k : Nat) (hk : k<4) (shift : UInt32) (hshift : shift.toNat=8*k) :
    (UInt32.ofNat i>>>shift).toUInt8=UInt8.ofNat (i/2^(8*k)) := by
  apply UInt8.toNat.inj
  have hmod : shift.toNat%32=8*k := by omega
  simp only [UInt32.toNat_toUInt8,UInt32.toNat_shiftRight,UInt32.toNat_ofNat',hmod,
    Nat.shiftRight_eq_div_pow,UInt8.toNat_ofNat']
  interval_cases k <;> omega

theorem counterBytes_ofNat (i : Nat) : counterBytes (UInt32.ofNat i)=be32 i := by
  have hlast : (UInt32.ofNat i).toUInt8=UInt8.ofNat i := by
    apply UInt8.toNat.inj
    simp only [UInt32.toNat_toUInt8,UInt32.toNat_ofNat',UInt8.toNat_ofNat']
    omega
  rw [counterBytes,shifted_octet i 3 (by decide) 24 rfl,shifted_octet i 2 (by decide) 16 rfl,
    shifted_octet i 1 (by decide) 8 rfl,hlast]
  rfl

theorem kdf2Block_length (counter : Nat) : (kdf2Block ssl ss p1 counter).length=32 :=
  hashSha256_length ssl _

/-- The loop with its 32-bit counter is the loop over the blocks of the definition. -/
theorem kdf2Rounds_eq_copyBlocks (outLen fuel i : Nat) (result : Bytes) :
    kdf2Rounds ssl ss p1 outLen fuel (UInt32.ofNat (i+1)) result=
      copyBlocks (fun j => kdf2Block ssl ss p1 (j+1)) outLen fuel i result := by
  induction fuel generalizing i result with
  | zero => rfl
  | succ fuel ih =>
    have hnext : UInt32.ofNat (i+1)+1=UInt32.ofNat (i+1+1) := by
      rw [UInt32.ofNat_add (i+1) 1]
      rfl
    rw [kdf2Rounds,copyBlocks]
    by_cases hlt : result.length<outLen
    · rw [if_pos hlt,if_pos hlt,hnext,counterBytes_ofNat]
      exact ih (i+1) _
    · rw [if_neg hlt,if_neg hlt]

variable {ssl ss p1}

theorem kdf2Rounds_eq_stream {outLen fuel n : Nat} (hfuel : outLen≤32*fuel) (hn : outLen≤32*n) :
    kdf2Rounds ssl ss p1 outLen fuel 1 []=(kdf2Stream ssl ss p1 n).take outLen := by
  have hwidth : ∀ i,(kdf2Block ssl ss p1 (i+1)).length=32 :=
    fun i => kdf2Block_length ssl ss p1 (i+1)
  have hloop := kdf2Rounds_eq_copyBlocks ssl ss p1 outLen fuel 0 []
  have hstart : ([] : Bytes)=(blockStream (fun j => kdf2Block ssl ss p1 (j+1)) 0).take outLen := by
    simp [blockStream]
  have hcopy := copyBlocks_eq hwidth hstart (by rwa [Nat.zero_add] : outLen≤32*(0+fuel))
  rw [Nat.zero_add] at hcopy
  calc kdf2Rounds ssl ss p1 outLen fuel 1 []
      = copyBlocks (fun j => kdf2Block ssl ss p1 (j+1)) outLen fuel 0 [] := hloop
    _ = (kdf2Stream ssl ss p1 fuel).take outLen := hcopy
    _ = (kdf2Stream ssl ss p1 n).take outLen := take_blockStream hwidth hfuel hn

theorem kdf2Sha256_eq_stream {outLen n : Nat} (hn : outLen≤32*n) :
    kdf2Sha256 ssl ss p1 outLen=(kdf2Stream ssl ss p1 n).take outLen :=
  kdf2Rounds_eq_stream (by omega) hn

theorem kdf2Sha256_prefix {n m : Nat} (h : n ≤ m) :
    kdf2Sha256 ssl ss p1 n <+: kdf2Sha256 ssl ss p1 m := by
  have hn : n≤32*m := by omega
  have hm : m≤32*m := by omega
  rw [kdf2Sha256_eq_stream hn,kdf2Sha256_eq_stream hm]
  exact List.take_prefix_take_left h

variable (ssl ss p1) in
/-- The two keys are neighbouring slices of the stream. -/
theorem kdf2Sha256_keys :
    (kdf2Sha256 ssl ss p1 (kAesKeyLen+kP256ScalarLen)).take kAesKeyLen=kdf2Slice ssl ss p1 0 16 ∧
    (kdf2Sha256 ssl ss p1 (kAesKeyLen+kP256ScalarLen)).drop kAesKeyLen=
      kdf2Slice ssl ss p1 16 48 := by
  have h : kdf2Sha256 ssl ss p1 48=(kdf2Stream ssl ss p1 2).take 48 :=
    kdf2Sha256_eq_stream (by decide)
  constructor
  · change (kdf2Sha256 ssl ss p1 48).take 16=_
    rw [h,List.take_take,kdf2Slice,List.drop_zero]
    rfl
  · change (kdf2Sha256 ssl ss p1 48).drop 16=_
    rw [h,kdf2Slice]

end Stream

section Keys
variable {ssl : OpenSsl} {recipient plaintext priv p1 : Bytes} {curve : Curve}

theorem eciesEncrypt_keys {entropy : EciesEntropy} {r : EciesEncryptResult}
    (h : eciesEncrypt ssl recipient plaintext p1 curve entropy=some r) :
    ∃ eph ss,generateKeypair ssl curve entropy.ephemeral=some eph ∧
      ecdhDerive ssl eph.privateKey.toVector recipient curve=some ss ∧
      r.encryptedKey=List.zipWith (·^^^·) (kdf2Slice ssl ss p1 0 16) r.aesKey ∧
      r.tagKdf=(ssl.hmacSha256 (kdf2Slice ssl ss p1 16 48) r.encryptedKey).toList.take kAesKeyLen := by
  simp only [eciesEncrypt,Option.bind_eq_bind,Option.bind_eq_some_iff] at h
  obtain ⟨eph,heph,ss,hss,ccm,-,hr⟩ := h
  have hr := (Option.some.inj hr).symm
  subst hr
  obtain ⟨hk1,hk2⟩ := kdf2Sha256_keys ssl ss p1
  refine ⟨eph,ss,heph,hss,?_,?_⟩
  · rw [hk1]
  · rw [hk1,hk2]

theorem eciesDecrypt_keys {ss : Bytes} (enc : EciesEncryptResult)
    (h : ecdhDerive ssl priv enc.ephemeralPubkey curve=some ss) :
    eciesDecrypt ssl priv enc p1 curve=
      if enc.tagKdf.length≠kAesKeyLen ∨ (ssl.hmacSha256 (kdf2Slice ssl ss p1 16 48)
          enc.encryptedKey).toList.take kAesKeyLen≠enc.tagKdf then none
      else if enc.encryptedKey.length≠kAesKeyLen then none
      else aes128CcmDecrypt ssl (List.zipWith (·^^^·) (kdf2Slice ssl ss p1 0 16) enc.encryptedKey)
        enc.nonceCcm enc.ciphertext enc.tagCcm := by
  obtain ⟨hk1,hk2⟩ := kdf2Sha256_keys ssl ss p1
  simp only [eciesDecrypt,h,Option.bind_eq_bind,Option.bind_some,hk1,hk2]

end Keys

/-- KDF2 gives the beginning of the concatenation of `H(ss || BE32(i) || P1)`, with as many
rounds as that takes or any more, and both halves of ECIES cut their two keys out of the one
stream. -/
theorem kdf2_matches_definition (ssl : OpenSsl) (p1 : Bytes) :
    (∀ i,i<2^32 → natOfBytes (be32 i)=i) ∧
    (∀ ss outLen n rounds,outLen≤32*n → outLen≤32*rounds →
      kdf2Rounds ssl ss p1 outLen rounds 1 []=kdf2Sha256 ssl ss p1 outLen ∧
      kdf2Sha256 ssl ss p1 outLen=(kdf2Stream ssl ss p1 n).take outLen ∧
      (kdf2Sha256 ssl ss p1 outLen).length=outLen) ∧
    (∀ ss n m,n ≤ m → kdf2Sha256 ssl ss p1 n <+: kdf2Sha256 ssl ss p1 m) ∧
    (∀ recipient plaintext curve entropy r,
      eciesEncrypt ssl recipient plaintext p1 curve entropy=some r →
      ∃ eph ss,generateKeypair ssl curve entropy.ephemeral=some eph ∧
        ecdhDerive ssl eph.privateKey.toVector recipient curve=some ss ∧
        r.encryptedKey=List.zipWith (·^^^·) (kdf2Slice ssl ss p1 0 16) r.aesKey ∧
        r.tagKdf=(ssl.hmacSha256 (kdf2Slice ssl ss p1 16 48) r.encryptedKey).toList.take
          kAesKeyLen) ∧
    ∀ priv enc curve ss,ecdhDerive ssl priv enc.ephemeralPubkey curve=some ss →
      eciesDecrypt ssl priv enc p1 curve=
        if enc.tagKdf.length≠kAesKeyLen ∨ (ssl.hmacSha256 (kdf2Slice ssl ss p1 16 48)
            enc.encryptedKey).toList.take kAesKeyLen≠enc.tagKdf then none
        else if enc.encryptedKey.length≠kAesKeyLen then none
        else aes128CcmDecrypt ssl
          (List.zipWith (·^^^·) (kdf2Slice ssl ss p1 0 16) enc.encryptedKey)
          enc.nonceCcm enc.ciphertext enc.tagCcm := by
  refine ⟨?_,?_,?_,?_,?_⟩
  · intro i hi
    rw [natOfBytes_be32,Nat.mod_eq_of_lt hi]
  · intro ss outLen n rounds hn hrounds
    have hstream : kdf2Sha256 ssl ss p1 outLen=(kdf2Stream ssl ss p1 n).take outLen :=
      kdf2Sha256_eq_stream hn
    refine ⟨?_,hstream,kdf2Sha256_length ss p1 outLen⟩
    rw [hstream]
    exact kdf2Rounds_eq_stream hrounds hn
  · intro ss n m h
    exact kdf2Sha256_prefix h
  · intro recipient plaintext curve entropy r h
    exact eciesEncrypt_keys h
  · intro priv enc curve ss h
    exact eciesDecrypt_keys enc h

section
open Sample

def kdf2Entropy : EciesEntropy :=
  ⟨some 3,some (Vector.replicate 16 9),some (Vector.replicate 12 1)⟩

def kdf2Sealed : EciesEncryptResult :=
  (eciesEncrypt ssl (pointOf .nistP256 7) [0x20] [5] .nistP256 kdf2Entropy).getD
    ⟨[],[],[],[],[],[],[]⟩

def kdf2Shared : Bytes :=
  (ecdhDerive ssl (binpad 32 7) kdf2Sealed.ephemeralPubkey .nistP256).getD []

/-- 40 octets take one block and a quarter of the next. -/
theorem kdf2_matches_definition_forty :
    kdf2Sha256 ssl [1,2] [5] 40=(kdf2Stream ssl [1,2] [5] 2).take 40 ∧
    kdf2Sha256 ssl [1,2] [5] 33 <+: kdf2Sha256 ssl [1,2] [5] 40 ∧
    (∃ ss,kdf2Sealed.encryptedKey=
      List.zipWith (·^^^·) (kdf2Slice ssl ss [5] 0 16) kdf2Sealed.aesKey) ∧
    eciesDecrypt ssl (binpad 32 7) kdf2Sealed [5] .nistP256=
      aes128CcmDecrypt ssl (List.zipWith (·^^^·) (kdf2Slice ssl kdf2Shared [5] 0 16)
        kdf2Sealed.encryptedKey) kdf2Sealed.nonceCcm kdf2Sealed.ciphertext kdf2Sealed.tagCcm := by
  obtain ⟨-,hstream,htake,hencrypt,hdecrypt⟩ := kdf2_matches_definition ssl [5]
  have hsealed : eciesEncrypt ssl (pointOf .nistP256 7) [0x20] [5] .nistP256 kdf2Entropy=
      some kdf2Sealed := by decide +kernel
  have hshared : ecdhDerive ssl (binpad 32 7) kdf2Sealed.ephemeralPubkey .nistP256=
      some kdf2Shared := by decide +kernel
  obtain ⟨_,ss,_,_,hkey,_⟩ := hencrypt _ _ _ _ _ hsealed
  refine ⟨(hstream [1,2] 40 2 2 (by decide) (by decide)).2.1,htake [1,2] 33 40 (by decide),
    ⟨ss,hkey⟩,?_⟩
  rw [hdecrypt _ _ _ _ hshared,if_neg (by decide +kernel),if_neg (by decide +kernel)]

end

end V2xPki.Crypto
