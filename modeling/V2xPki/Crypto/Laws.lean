import V2xPki.Cert.CurvePoint
import V2xPki.Crypto.Ecies

namespace V2xPki

/-- The compressed SEC1 form of an uncompressed point: the parity of its last octet and its
first coordinate. -/
def compressedPoint (curve : Curve) (point : Bytes) : Bytes :=
  (if point.getD (2*curve.scalarLen) 0&&&1≠0 then 0x03 else 0x02)::
    point.tail.take curve.scalarLen

/-- The two SEC1 forms in which a public key is handed around. -/
def PublicForm (curve : Curve) (point pub : Bytes) : Prop :=
  pub=point ∨ pub=compressedPoint curve point

/-- What the primitives are documented to do. A scalar counts as a private key when it is
positive and below the order of the group. -/
structure CryptoLaws (ssl : OpenSsl) where
  order : Curve → Nat
  order_le : ∀ c,order c≤256^c.scalarLen
  exported : ∀ c d p,0<d → d<order c → ssl.publicOf c d=some p →
    p.length=c.pubkeyLen ∧ p.head?=some 0x04 ∧ ssl.publicOk c p=true
  decompressed : ∀ c d p,0<d → d<order c → ssl.publicOf c d=some p →
    ssl.decompress c (compressedPoint c p)=some p
  signed : ∀ c d p digest nonce,0<d → d<order c → ssl.publicOf c d=some p →
    digest.length=c.hashLen → ∃ rs,ssl.sign c d digest nonce=some rs ∧ rs.1<order c ∧
      rs.2<order c ∧ ssl.verify c p digest rs=true
  agreed : ∀ c d e p q,0<d → d<order c → ssl.publicOf c d=some p →
    0<e → e<order c → ssl.publicOf c e=some q → ssl.derive c d q=ssl.derive c e p
  opened : ∀ key nonce plain ciphertext tag,
    ssl.ccmEncrypt key nonce plain=some (ciphertext,tag) →
    tag.length=kAesCcmTagLen ∧ ssl.ccmDecrypt key nonce ciphertext tag=some plain

/-- A key pair: the octets of a private key of the curve and its uncompressed point. -/
structure KeyPairOn {ssl : OpenSsl} (laws : CryptoLaws ssl) (curve : Curve)
    (priv point : Bytes) : Prop where
  length : priv.length=curve.scalarLen
  pos : 0<natOfBytes priv
  lt : natOfBytes priv<laws.order curve
  public_ : ssl.publicOf curve (natOfBytes priv)=some point

namespace Curve

theorem pubkeyLen_eq (c : Curve) : c.pubkeyLen=2*c.scalarLen+1 := by
  cases c <;> rfl

theorem compressedLen_eq (c : Curve) : c.compressedLen=c.scalarLen+1 := by
  cases c <;> rfl

theorem scalarLen_le (c : Curve) : c.scalarLen≤kP384ScalarLen := by
  cases c <;> decide

theorem scalarLen_pos (c : Curve) : 0<c.scalarLen := by
  cases c <;> decide

end Curve

section Points
variable {curve : Curve} {point pub : Bytes}

theorem compressedPoint_length (h : point.length=curve.pubkeyLen) :
    (compressedPoint curve point).length=curve.compressedLen := by
  rw [Curve.pubkeyLen_eq] at h
  rw [Curve.compressedLen_eq,compressedPoint,List.length_cons,List.length_take,List.length_tail]
  omega

/-- A point taken into an ASN.1 structure and out again comes back compressed. -/
theorem toSec1_fromSec1 (h : point.length=curve.pubkeyLen) :
    Point.toSec1Of curve.scalarLen (Point.fromSec1Of curve.scalarLen point)=
      compressedPoint curve point := by
  rw [Curve.pubkeyLen_eq] at h
  have hx : (point.tail.take curve.scalarLen).length=curve.scalarLen := by
    rw [List.length_take,List.length_tail]
    omega
  unfold Point.fromSec1Of compressedPoint
  rw [if_neg (by simpa using h)]
  by_cases hodd : point.getD (2*curve.scalarLen) 0&&&1≠0
  · rw [if_pos hodd,if_pos hodd]
    simp only [Point.toSec1Of,hx,ne_eq,not_true,if_false]
  · rw [if_neg hodd,if_neg hodd]
    simp only [Point.toSec1Of,hx,ne_eq,not_true,if_false]

theorem toSec1_fromSec1_p256 (hcurve : curve=.nistP256 ∨ curve=.brainpoolP256r1)
    (h : point.length=curve.pubkeyLen) :
    Point.toSec1 (Point.fromSec1 point)=compressedPoint curve point := by
  have hscalar : curve.scalarLen=kP256ScalarLen := by
    rcases hcurve with rfl | rfl <;> rfl
  have hsec1 := toSec1_fromSec1 h
  rw [hscalar] at hsec1
  exact hsec1

end Points

theorem KeyPairOn.exported {ssl : OpenSsl} {laws : CryptoLaws ssl} {curve : Curve}
    {priv point : Bytes} (h : KeyPairOn laws curve priv point) :
    point.length=curve.pubkeyLen ∧ point.head?=some 0x04 ∧ ssl.publicOk curve point=true :=
  laws.exported curve _ point h.pos h.lt h.public_

/-- The padded octets of a scalar are a private key. -/
theorem KeyPairOn.of_scalar {ssl : OpenSsl} {laws : CryptoLaws ssl} {curve : Curve} {d : Nat}
    {point : Bytes} (hpos : 0<d) (hlt : d<laws.order curve)
    (hpublic : ssl.publicOf curve d=some point) :
    KeyPairOn laws curve (binpad curve.scalarLen d) point := by
  have hnat : natOfBytes (binpad curve.scalarLen d)=d :=
    natOfBytes_binpad (hlt.trans_le (laws.order_le curve))
  refine ⟨binpad_length _ _,?_,?_,?_⟩
  · rw [hnat]
    exact hpos
  · rw [hnat]
    exact hlt
  · rw [hnat]
    exact hpublic

namespace Crypto
variable {ssl : OpenSsl} {laws : CryptoLaws ssl} {curve : Curve} {priv point pub : Bytes}

theorem evpPkeyFromPrivate_of_keyPair (h : KeyPairOn laws curve priv point) :
    evpPkeyFromPrivate ssl priv curve=some (natOfBytes priv) := by
  unfold evpPkeyFromPrivate
  rw [if_pos ⟨h.length,by rw [h.public_]; rfl⟩]

/-- Both forms of a public key are read as its point. -/
theorem evpPkeyFromPublic_of_form (h : KeyPairOn laws curve priv point)
    (hpub : PublicForm curve point pub) : evpPkeyFromPublic ssl pub curve=some point := by
  obtain ⟨hlen,hhead,hok⟩ := h.exported
  have hdec := laws.decompressed curve _ point h.pos h.lt h.public_
  unfold evpPkeyFromPublic
  rcases hpub with rfl | rfl
  · rw [if_pos ⟨hlen,hhead⟩,Option.filter_some,if_pos hok]
  · have hclen := compressedPoint_length hlen
    have hshort : ¬((compressedPoint curve point).length=curve.pubkeyLen ∧
        (compressedPoint curve point).head?=some 0x04) := by
      intro hc
      have hpos := curve.scalarLen_pos
      rw [hclen,Curve.compressedLen_eq,Curve.pubkeyLen_eq] at hc
      omega
    have hmark : (compressedPoint curve point).head?=some 0x02 ∨
        (compressedPoint curve point).head?=some 0x03 := by
      unfold compressedPoint
      split
      · exact .inr rfl
      · exact .inl rfl
    rw [if_neg hshort,if_pos ⟨hclen,hmark⟩,hdec,Option.filter_some,if_pos hok]

theorem form_ne_nil (h : KeyPairOn laws curve priv point) (hpub : PublicForm curve point pub) :
    pub≠[] := by
  obtain ⟨-,hhead,-⟩ := h.exported
  rcases hpub with rfl | rfl
  · intro hnil
    rw [hnil] at hhead
    cases hhead
  · exact List.cons_ne_nil _ _

/-- A signature that fits its curve. -/
structure Sized (sig : Signature) (curve : Curve) : Prop where
  r : sig.r.toVector.length=curve.scalarLen
  s : sig.s.toVector.length=curve.scalarLen

theorem ecdsaSignDigest_sized {digest : Bytes} {nonce : Nat} {sig : Signature}
    (h : ecdsaSignDigest ssl priv digest curve nonce=some sig) : Sized sig curve := by
  unfold ecdsaSignDigest at h
  split at h
  · cases h
  simp only [Option.bind_eq_bind,Option.bind_eq_some_iff] at h
  obtain ⟨d,-,rs,-,r,hr,s,hs,hsig⟩ := h
  have hsig := (Option.some.inj hsig).symm
  subst hsig
  refine ⟨?_,?_⟩
  · rw [StaticBytes.fromBytes_some.mp hr,binpad_length]
  · rw [StaticBytes.fromBytes_some.mp hs,binpad_length]

/-- A key pair signs every digest of its curve, and the signature verifies. -/
theorem ecdsaSignDigest_verifies (h : KeyPairOn laws curve priv point) {digest : Bytes}
    (hdigest : digest.length=curve.hashLen) (nonce : Nat) :
    ∃ sig,ecdsaSignDigest ssl priv digest curve nonce=some sig ∧ Sized sig curve ∧
      ∀ pub,PublicForm curve point pub → ecdsaVerifyDigest ssl pub digest sig curve=true := by
  obtain ⟨rs,hsign,hr,hs,hverify⟩ :=
    laws.signed curve _ point digest nonce h.pos h.lt h.public_ hdigest
  have hfit : ∀ n,(binpad curve.scalarLen n).length≤kP384ScalarLen := by
    intro n
    rw [binpad_length]
    exact curve.scalarLen_le
  refine ⟨⟨⟨_,hfit rs.1⟩,⟨_,hfit rs.2⟩⟩,?_,⟨binpad_length _ _,binpad_length _ _⟩,?_⟩
  · unfold ecdsaSignDigest
    have hbytes : ∀ n,StaticBytes.fromBytes (binpad curve.scalarLen n)=
        some (⟨binpad curve.scalarLen n,hfit n⟩ : StaticBytes kP384ScalarLen) :=
      fun n => StaticBytes.fromBytes_some.mpr rfl
    rw [if_neg (by simpa using hdigest),evpPkeyFromPrivate_of_keyPair h]
    simp [hsign,hbytes]
  · intro pub hpub
    unfold ecdsaVerifyDigest
    have hrn : rs.1<256^curve.scalarLen := hr.trans_le (laws.order_le curve)
    have hsn : rs.2<256^curve.scalarLen := hs.trans_le (laws.order_le curve)
    rw [if_neg (by simpa using hdigest),evpPkeyFromPublic_of_form h hpub]
    simp only [natOfBytes_binpad hrn,natOfBytes_binpad hsn]
    exact hverify

/-- The part of `ecies_decrypt` that comes before the content is decrypted: it recovers the
content key. -/
def eciesContentKey (ssl : OpenSsl) (recipientPrivateKey ephemeralPubkey encryptedKey tagKdf p1 :
    Bytes) (curve : Curve) : Option Bytes := do
  let ss ← ecdhDerive ssl recipientPrivateKey ephemeralPubkey curve
  let kdfOut := kdf2Sha256 ssl ss p1 (kAesKeyLen+kP256ScalarLen)
  if tagKdf.length≠kAesKeyLen ∨
      (ssl.hmacSha256 (kdfOut.drop kAesKeyLen) encryptedKey).toList.take kAesKeyLen≠tagKdf then none
  else if encryptedKey.length≠kAesKeyLen then none
  else some (List.zipWith (·^^^·) (kdfOut.take kAesKeyLen) encryptedKey)

theorem eciesDecrypt_eq (priv : Bytes) (enc : EciesEncryptResult) (p1 : Bytes) (curve : Curve) :
    eciesDecrypt ssl priv enc p1 curve=
      (eciesContentKey ssl priv enc.ephemeralPubkey enc.encryptedKey enc.tagKdf p1 curve).bind
        fun key => aes128CcmDecrypt ssl key enc.nonceCcm enc.ciphertext enc.tagCcm := by
  simp only [eciesDecrypt,eciesContentKey,Option.bind_eq_bind]
  cases ecdhDerive ssl priv enc.ephemeralPubkey curve with
  | none => rfl
  | some ss =>
    simp only [Option.bind_some]
    split
    · rfl
    · split <;> rfl

/-- Every round of the KDF adds octets until there are enough. -/
theorem kdf2Rounds_length (ss p1 : Bytes) (outLen fuel : Nat) (counter : UInt32) (result : Bytes)
    (hle : result.length≤outLen) (hfuel : outLen≤result.length+fuel) :
    (kdf2Rounds ssl ss p1 outLen fuel counter result).length=outLen := by
  induction fuel generalizing counter result with
  | zero =>
    rw [kdf2Rounds]
    omega
  | succ fuel ih =>
    rw [kdf2Rounds]
    by_cases hlt : result.length<outLen
    · rw [if_pos hlt]
      have hadd : ((hashSha256 ssl (ss++counterBytes counter++p1)).take
          (outLen-result.length)).length=min (outLen-result.length) 32 := by
        rw [List.length_take,hashSha256_length]
      apply ih
      · rw [List.length_append,hadd]
        omega
      · rw [List.length_append,hadd]
        omega
    · rw [if_neg hlt]
      omega

theorem kdf2Sha256_length (ss p1 : Bytes) (outLen : Nat) :
    (kdf2Sha256 ssl ss p1 outLen).length=outLen :=
  kdf2Rounds_length ss p1 outLen outLen 1 [] (Nat.zero_le _) (by simp)

theorem randBytes_length {n : Nat} (drawn : Option (Vector UInt8 n)) :
    (randBytes drawn).length=n := by
  simp [randBytes]

/-- The ephemeral scalar of an encryption is a private key of the curve. -/
def DrawsScalar (laws : CryptoLaws ssl) (curve : Curve) (entropy : EciesEntropy) : Prop :=
  ∀ e,entropy.ephemeral=some e → 0<e ∧ e<laws.order curve

theorem generateKeypair_keyPair {kp : KeyPair} {entropy : EciesEntropy}
    (hdrawn : DrawsScalar laws curve entropy)
    (h : generateKeypair ssl curve entropy.ephemeral=some kp) :
    KeyPairOn laws curve kp.privateKey.toVector kp.publicKey.toVector := by
  simp only [generateKeypair,Option.bind_eq_bind,Option.bind_eq_some_iff] at h
  obtain ⟨e,he,p,hp,pk,hpk,sk,hsk,hkp⟩ := h
  obtain rfl : (⟨pk,sk⟩ : KeyPair)=kp := Option.some.inj hkp
  obtain ⟨hpos,hlt⟩ := hdrawn e he
  have hpk' : pk.toVector=p := StaticBytes.fromBytes_some.mp hpk
  have hsk' : sk.toVector=binpad curve.scalarLen e := StaticBytes.fromBytes_some.mp hsk
  rw [hpk',hsk']
  exact KeyPairOn.of_scalar hpos hlt hp

/-- Two key pairs of a curve derive one secret, whatever form the points are in. -/
theorem ecdhDerive_comm {priv' point' pub' : Bytes} (h : KeyPairOn laws curve priv point)
    (h' : KeyPairOn laws curve priv' point') (hpub : PublicForm curve point pub)
    (hpub' : evpPkeyFromPublic ssl pub' curve=some point') :
    ecdhDerive ssl priv pub' curve=ecdhDerive ssl priv' pub curve := by
  simp only [ecdhDerive,evpPkeyFromPrivate_of_keyPair h,evpPkeyFromPrivate_of_keyPair h',hpub',
    evpPkeyFromPublic_of_form h hpub,Option.bind_eq_bind,Option.bind_some]
  exact laws.agreed curve _ _ _ _ h.pos h.lt h.public_ h'.pos h'.lt h'.public_

theorem aes128CcmEncrypt_opens (laws : CryptoLaws ssl) {key nonce plaintext : Bytes}
    {r : AesCcmResult} (h : aes128CcmEncrypt ssl key nonce plaintext=some r) :
    r.tag.length=kAesCcmTagLen ∧
      aes128CcmDecrypt ssl key nonce r.ciphertext r.tag=some plaintext := by
  unfold aes128CcmEncrypt at h
  split at h
  · cases h
  rename_i hsizes
  obtain ⟨⟨ciphertext,tag⟩,henc,rfl⟩ := Option.map_eq_some_iff.mp h
  obtain ⟨htag,hopen⟩ := laws.opened key nonce plaintext ciphertext tag henc
  refine ⟨htag,?_⟩
  unfold aes128CcmDecrypt
  rw [if_neg]
  · exact hopen
  · intro hbad
    rcases hbad with hbad | hbad | hbad
    · exact hsizes (.inl hbad)
    · exact hsizes (.inr hbad)
    · exact hbad htag

/-- What the recipient makes of an encryption: the content key and the plaintext. -/
theorem eciesEncrypt_opens {recipient point plaintext p1 : Bytes} {entropy : EciesEntropy}
    {r : EciesEncryptResult} (hkey : KeyPairOn laws curve priv point)
    (hrecipient : evpPkeyFromPublic ssl recipient curve=some point)
    (hdrawn : DrawsScalar laws curve entropy)
    (h : eciesEncrypt ssl recipient plaintext p1 curve entropy=some r) :
    (∀ eph,PublicForm curve r.ephemeralPubkey eph →
      eciesContentKey ssl priv eph r.encryptedKey r.tagKdf p1 curve=some r.aesKey) ∧
    aes128CcmDecrypt ssl r.aesKey r.nonceCcm r.ciphertext r.tagCcm=some plaintext ∧
    r.tagCcm.length=kAesCcmTagLen ∧ r.aesKey.length=kAesKeyLen ∧
    r.ephemeralPubkey.length=curve.pubkeyLen := by
  simp only [eciesEncrypt,Option.bind_eq_bind,Option.bind_eq_some_iff] at h
  obtain ⟨kp,hkp,ss,hss,ccm,hccm,hr⟩ := h
  have hr := (Option.some.inj hr).symm
  subst hr
  have heph := generateKeypair_keyPair hdrawn hkp
  have hkdf : (kdf2Sha256 ssl ss p1 (kAesKeyLen+kP256ScalarLen)).length=48 :=
    kdf2Sha256_length ss p1 _
  have hkey1 : ((kdf2Sha256 ssl ss p1 (kAesKeyLen+kP256ScalarLen)).take kAesKeyLen).length=16 := by
    rw [List.length_take,hkdf]
    rfl
  have haes : (randBytes entropy.aesKey).length=16 := randBytes_length entropy.aesKey
  have hnonce : (randBytes entropy.nonce).length=12 := randBytes_length entropy.nonce
  obtain ⟨htag,hopen⟩ := aes128CcmEncrypt_opens laws hccm
  refine ⟨?_,hopen,htag,haes,heph.exported.1⟩
  intro eph hform
  have hshared : ecdhDerive ssl priv eph curve=some ss := by
    rw [← hss]
    exact (ecdhDerive_comm heph hkey hform hrecipient).symm
  have hclen : (List.zipWith (·^^^·) ((kdf2Sha256 ssl ss p1
      (kAesKeyLen+kP256ScalarLen)).take kAesKeyLen) (randBytes entropy.aesKey)).length=16 := by
    rw [List.length_zipWith,hkey1,haes]
    rfl
  simp only [eciesContentKey,hshared,Option.bind_eq_bind,Option.bind_some]
  rw [if_neg,if_neg,zipWith_xor_cancel (hkey1.trans haes.symm)]
  · rw [hclen]
    simp [kAesKeyLen]
  · simp [kAesKeyLen]

end Crypto

end V2xPki
