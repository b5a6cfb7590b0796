import V2xPki.Crypto.Laws
import V2xPki.KeyStore.PlaintextFileKeyStore

namespace V2xPki

namespace Crypto

/-- `ecdsa_sign` hashes and signs on one curve, which it is not told. -/
def ecdsaSign (ssl : OpenSsl) (privateKey message : Bytes) (nonce : Nat) : Option Signature := do
  let d ← evpPkeyFromPrivate ssl privateKey .nistP256
  let rs ← ssl.sign .nistP256 d (hashSha256 ssl message) nonce
  let r ← StaticBytes.fromBytes (binpad kP256ScalarLen rs.1)
  let s ← StaticBytes.fromBytes (binpad kP256ScalarLen rs.2)
  pure ⟨r,s⟩

theorem ecdsaSign_eq (ssl : OpenSsl) (privateKey message : Bytes) (nonce : Nat) :
    ecdsaSign ssl privateKey message nonce=
      ecdsaSignDigest ssl privateKey (hashForCurve ssl message .nistP256) .nistP256 nonce := by
  have hlen := hashForCurve_length ssl message .nistP256
  unfold ecdsaSignDigest
  rw [if_neg (not_not.mpr hlen)]
  rfl

theorem evpPkeyFromPrivate_length {ssl : OpenSsl} {priv : Bytes} {curve : Curve}
    (h : priv.length≠curve.scalarLen) : evpPkeyFromPrivate ssl priv curve=none := by
  unfold evpPkeyFromPrivate
  rw [if_neg fun hboth => h hboth.1]

end Crypto

/-- The start of a PEM is read as its key or not at all. -/
def KeyPem.ReadsNothingElse (pem : KeyPem) : Prop :=
  ∀ c d p n k,pem.fromData c d p=true → pem.read ((pem.write ⟨c,d,p⟩).take n)=some k → k=⟨c,d,p⟩

/-- Each private key of NIST P-256 has a point, and those of Brainpool P-256r1 are among them:
that group is the smaller one. -/
structure SharedScalars {ssl : OpenSsl} (laws : CryptoLaws ssl) : Prop where
  defined : ∀ d,0<d → d<laws.order .nistP256 → (ssl.publicOf .nistP256 d).isSome
  smaller : laws.order .brainpoolP256r1≤laws.order .nistP256

namespace PlaintextFileKeyStore

open Framework

section
variable (ssl : OpenSsl) (pem : KeyPem)

def sign (files : Files UInt8) (handle : KeyHandle) (message : Bytes) (nonce : Nat) :
    Option Signature := do
  let kp ← loadKeypair pem files handle
  Crypto.ecdsaSign ssl kp.privateKey.toVector message nonce

def deriveSharedSecret (files : Files UInt8) (handle : KeyHandle) (peerPublicKey : Bytes) :
    Option Bytes := do
  let kp ← loadKeypair pem files handle
  Crypto.ecdhDerive ssl kp.privateKey.toVector peerPublicKey .nistP256

end

section
variable {ssl : OpenSsl} (laws : CryptoLaws ssl) (pem : KeyPem)

/-- What the two operations owe to a key of this curve under this handle. -/
structure UsesStoredCurve (files : Files UInt8) (handle : KeyHandle) (kp : KeyPair)
    (curve : Curve) : Prop where
  signs : ∀ message nonce sig,sign ssl pem files handle message nonce=some sig →
    Crypto.ecdsaVerifyDigest ssl kp.publicKey.toVector (Crypto.hashForCurve ssl message curve) sig
      curve=true
  agrees : ∀ priv point peer secret,KeyPairOn laws curve priv point → PublicForm curve point peer →
    deriveSharedSecret ssl pem files handle peer=some secret →
    Crypto.ecdhDerive ssl priv kp.publicKey.toVector curve=some secret
  unsupported : curve≠.nistP256 → (∀ message nonce,sign ssl pem files handle message nonce=none) ∧
    ∀ peer,deriveSharedSecret ssl pem files handle peer=none

end

section
variable {ssl : OpenSsl} {laws : CryptoLaws ssl} {pem : KeyPem} {files files' : Files UInt8}
  {handle : KeyHandle} {kp : KeyPair} {curve : Curve}

/-- After a store that returned true, the file holds the start of a PEM of the pair, which is
loaded as that pair or not at all. -/
theorem load_of_stored (hpem : pem.ReadsNothingElse) {fill : Fill}
    (hstore : storeKeypair pem files handle kp fill=(true,files')) :
    loadKeypair pem files' handle=none ∨ loadKeypair pem files' handle=some kp := by
  unfold storeKeypair at hstore
  cases hbuild : buildPkey pem kp with
  | none =>
    rw [hbuild] at hstore
    cases hstore
  | some pkey =>
    rw [hbuild] at hstore
    cases fill with
    | notOpened => cases hstore
    | filled kept reported =>
      obtain ⟨-,rfl⟩ := Prod.mk.inj hstore
      have hfile : Function.update files (pemName handle) (some ((pem.write pkey).take kept))
          (pemName handle)=some ((pem.write pkey).take kept) := Function.update_self _ _ _
      simp only [loadKeypair,hfile,Option.bind_eq_bind,Option.bind_some]
      cases hread : pem.read ((pem.write pkey).take kept) with
      | none => exact .inl rfl
      | some k =>
        obtain rfl : k=pkey := hpem _ _ _ _ k (buildPkey_some hbuild).1 hread
        exact .inr (extractKeypair_buildPkey hbuild)

theorem sign_of_load (hload : loadKeypair pem files handle=some kp) (message : Bytes)
    (nonce : Nat) :
    sign ssl pem files handle message nonce=
      Crypto.ecdsaSign ssl kp.privateKey.toVector message nonce := by
  simp only [sign,hload,Option.bind_eq_bind,Option.bind_some]

theorem derive_of_load (hload : loadKeypair pem files handle=some kp) (peer : Bytes) :
    deriveSharedSecret ssl pem files handle peer=
      Crypto.ecdhDerive ssl kp.privateKey.toVector peer .nistP256 := by
  simp only [deriveSharedSecret,hload,Option.bind_eq_bind,Option.bind_some]

/-- Operations without a result owe nothing. -/
theorem usesStoredCurve_of_none
    (hsign : ∀ message nonce,sign ssl pem files handle message nonce=none)
    (hderive : ∀ peer,deriveSharedSecret ssl pem files handle peer=none) :
    UsesStoredCurve laws pem files handle kp curve where
  signs message nonce sig h := by
    rw [hsign] at h
    cases h
  agrees priv point peer secret _ _ h := by
    rw [hderive] at h
    cases h
  unsupported _ := ⟨hsign,hderive⟩

theorem usesStoredCurve_nist (hload : loadKeypair pem files handle=some kp)
    (hkey : KeyPairOn laws .nistP256 kp.privateKey.toVector kp.publicKey.toVector) :
    UsesStoredCurve laws pem files handle kp .nistP256 where
  signs message nonce sig h := by
    rw [sign_of_load hload,Crypto.ecdsaSign_eq] at h
    have hlen := Crypto.hashForCurve_length ssl message .nistP256
    obtain ⟨sig',hsig,-,hverify⟩ := Crypto.ecdsaSignDigest_verifies hkey hlen nonce
    obtain rfl : sig'=sig := Option.some.inj (hsig.symm.trans h)
    exact hverify _ (.inl rfl)
  agrees priv point peer secret hpeer hform h := by
    rw [derive_of_load hload] at h
    have hpub := Crypto.evpPkeyFromPublic_of_form hpeer hform
    rw [← h]
    exact (Crypto.ecdhDerive_comm hkey hpeer (.inl rfl) hpub).symm
  unsupported h := absurd rfl h

/-- A scalar of 48 octets is refused where one of 32 is expected. -/
theorem usesStoredCurve_of_length (hload : loadKeypair pem files handle=some kp)
    (hlen : kp.privateKey.toVector.length≠Curve.scalarLen .nistP256) :
    UsesStoredCurve laws pem files handle kp curve := by
  have hnone : Crypto.evpPkeyFromPrivate ssl kp.privateKey.toVector .nistP256=none :=
    Crypto.evpPkeyFromPrivate_length hlen
  apply usesStoredCurve_of_none
  · intro message nonce
    rw [sign_of_load hload,Crypto.ecdsaSign,hnone]
    rfl
  · intro peer
    rw [derive_of_load hload,Crypto.ecdhDerive,hnone]
    rfl

/-- A scalar of the other curve of its size is not: it signs as a key of NIST P-256. -/
theorem sign_brainpool (hshared : SharedScalars laws) (hload : loadKeypair pem files handle=some kp)
    (hkey : KeyPairOn laws .brainpoolP256r1 kp.privateKey.toVector kp.publicKey.toVector)
    (message : Bytes) (nonce : Nat) :
    ∃ sig,sign ssl pem files handle message nonce=some sig := by
  have hlt := hkey.lt.trans_le hshared.smaller
  obtain ⟨point,hpoint⟩ := Option.isSome_iff_exists.mp (hshared.defined _ hkey.pos hlt)
  have hnist : KeyPairOn laws .nistP256 kp.privateKey.toVector point :=
    ⟨hkey.length,hkey.pos,hlt,hpoint⟩
  have hlen := Crypto.hashForCurve_length ssl message .nistP256
  obtain ⟨sig,hsig,-⟩ := Crypto.ecdsaSignDigest_verifies hnist hlen nonce
  refine ⟨sig,?_⟩
  rw [sign_of_load hload,Crypto.ecdsaSign_eq]
  exact hsig

end

/-- The curve under which a key was stored is found by trial and then forgotten, and both
operations take NIST P-256 for granted. A key of the other size gives no result, so the one
curve that goes wrong is the other curve of the same size. -/
theorem uses_stored_curve_iff {ssl : OpenSsl} {laws : CryptoLaws ssl} {pem : KeyPem}
    {files files' : Files UInt8} {handle : KeyHandle} {kp : KeyPair} {curve : Curve} {fill : Fill}
    (hshared : SharedScalars laws) (hpem : pem.ReadsNothingElse)
    (hkey : KeyPairOn laws curve kp.privateKey.toVector kp.publicKey.toVector)
    (hstore : storeKeypair pem files handle kp fill=(true,files')) :
    UsesStoredCurve laws pem files' handle kp curve ↔
      curve≠.brainpoolP256r1 ∨ loadKeypair pem files' handle=none := by
  rcases load_of_stored hpem hstore with hnone | hload
  · refine ⟨fun _ => .inr hnone,fun _ => ?_⟩
    apply usesStoredCurve_of_none
    · intro message nonce
      rw [sign,hnone]
      rfl
    · intro peer
      rw [deriveSharedSecret,hnone]
      rfl
  · have hsome : loadKeypair pem files' handle≠none := by simp [hload]
    rw [or_iff_left hsome]
    cases curve with
    | nistP256 => exact iff_of_true (usesStoredCurve_nist hload hkey) (by decide)
    | brainpoolP256r1 =>
      refine iff_of_false ?_ (by decide)
      intro huses
      obtain ⟨sig,hsig⟩ := sign_brainpool hshared hload hkey [] 0
      have hno := (huses.unsupported (by decide)).1 [] 0
      rw [hsig] at hno
      cases hno
    | nistP384 =>
      have hlen : kp.privateKey.toVector.length≠Curve.scalarLen .nistP256 := by
        rw [hkey.length]
        decide
      exact iff_of_true (usesStoredCurve_of_length hload hlen) (by decide)
    | brainpoolP384r1 =>
      have hlen : kp.privateKey.toVector.length≠Curve.scalarLen .nistP256 := by
        rw [hkey.length]
        decide
      exact iff_of_true (usesStoredCurve_of_length hload hlen) (by decide)

end PlaintextFileKeyStore

namespace Sample

open Framework PlaintextFileKeyStore

theorem curvedLaws_sharedScalars : SharedScalars curvedLaws := ⟨fun _ _ _ => rfl,le_refl _⟩

/-- The stand-in for PEM with a check of the length, so that nothing can be cut off. -/
def framedPem : KeyPem := {keyPem with
  read := fun content => (keyPem.read content).filter fun k => k.pub.length=k.curve.pubkeyLen}

theorem keyPem_point_length {c : Curve} {d : Nat} {p : Bytes} (h : keyPem.fromData c d p=true) :
    p.length=c.pubkeyLen := by
  have hp : p=pointOn c (xOf c p) := by
    simp only [keyPem,curvedSsl,Bool.and_eq_true,beq_iff_eq] at h
    exact h.2
  rw [hp,pointOn_length]

theorem keyPem_read_some {content : Bytes} {k : EcPkey} (h : keyPem.read content=some k) :
    ∃ tag rest,content=0x2d::tag::rest ∧ taggedCurve tag=some k.curve ∧ k.pub=rest.drop 48 := by
  unfold keyPem at h
  dsimp only at h
  split at h
  · rename_i tag rest
    split at h
    · cases h
    · obtain ⟨c,hc,rfl⟩ := Option.map_eq_some_iff.mp h
      exact ⟨tag,rest,rfl,hc,rfl⟩
  · cases h

theorem framedPem_readsNothingElse : framedPem.ReadsNothingElse := by
  intro c d p n k hdata hread
  obtain ⟨hread,hlen⟩ := Option.filter_eq_some_iff.mp hread
  have hwhole := keyPem_readsBack c d p hdata
  have hpoint := keyPem_point_length hdata
  have hsize : (keyPem.write ⟨c,d,p⟩).length=50+p.length := by
    simp [keyPem]
    omega
  change keyPem.read ((keyPem.write ⟨c,d,p⟩).take n)=some k at hread
  by_cases hn : 50+p.length≤n
  · rw [List.take_of_length_le (by omega),hwhole] at hread
    exact (Option.some.inj hread).symm
  -- of a shorter file the point is too short
  · obtain ⟨tag,rest,hcontent,hcurve,hpub⟩ := keyPem_read_some hread
    have hshort := congrArg List.length hcontent
    rw [List.length_take,hsize,List.length_cons,List.length_cons] at hshort
    have htag : tag=UInt8.ofNat (curveTag c) := by
      have hsecond := congrArg (·[1]?) hcontent
      rw [List.getElem?_take_of_lt (by omega)] at hsecond
      exact (Option.some.inj hsecond).symm
    have hsame : k.curve=c := by
      rw [htag] at hcurve
      revert hcurve
      cases c <;> simp [curveTag,taggedCurve,eq_comm]
    have hpos : 0<p.length := by
      rw [hpoint,Curve.pubkeyLen_eq]
      omega
    rw [hpub,hsame,List.length_drop,← hpoint] at hlen
    simp only [decide_eq_true_eq] at hlen
    omega

/-- A key pair of a scalar on a curve of 256 bits. -/
def pairOn (curve : Curve) (d : Nat) : KeyPair :=
  ⟨.orEmpty (pointOn curve d),.orEmpty (binpad curve.scalarLen d)⟩

theorem nist_key_signs :
    (storeKeypair framedPem Files.empty deviceKey (pairOn .nistP256 21) (.filled 4096 true)).1=true ∧
    UsesStoredCurve curvedLaws framedPem
      (storeKeypair framedPem Files.empty deviceKey (pairOn .nistP256 21) (.filled 4096 true)).2
      deviceKey (pairOn .nistP256 21) .nistP256 := by
  have hok : (storeKeypair framedPem Files.empty deviceKey (pairOn .nistP256 21)
      (.filled 4096 true)).1=true := by decide +kernel
  have hkey : KeyPairOn curvedLaws .nistP256 (pairOn .nistP256 21).privateKey.toVector
      (pairOn .nistP256 21).publicKey.toVector := by
    refine ⟨?_,?_,?_,?_⟩ <;> decide +kernel
  refine ⟨hok,(uses_stored_curve_iff curvedLaws_sharedScalars framedPem_readsNothingElse hkey
    (Prod.ext hok rfl)).mpr (.inl (by decide))⟩

/-- The other curve of 256 bits: the signature is that of another key. -/
theorem brainpool_key_signs_on_nist :
    (storeKeypair framedPem Files.empty deviceKey (pairOn .brainpoolP256r1 21)
      (.filled 4096 true)).1=true ∧
    KeyPairOn curvedLaws .brainpoolP256r1 (pairOn .brainpoolP256r1 21).privateKey.toVector
      (pairOn .brainpoolP256r1 21).publicKey.toVector ∧
    ¬UsesStoredCurve curvedLaws framedPem
      (storeKeypair framedPem Files.empty deviceKey (pairOn .brainpoolP256r1 21)
        (.filled 4096 true)).2 deviceKey (pairOn .brainpoolP256r1 21) .brainpoolP256r1 := by
  refine ⟨by decide +kernel,?_,?_⟩
  · refine ⟨?_,?_,?_,?_⟩ <;> decide +kernel
  · intro huses
    have hsigned : (sign curvedSsl framedPem (storeKeypair framedPem Files.empty deviceKey
        (pairOn .brainpoolP256r1 21) (.filled 4096 true)).2 deviceKey [1,2,3] 1).map (fun sig =>
        Crypto.ecdsaVerifyDigest curvedSsl (pairOn .brainpoolP256r1 21).publicKey.toVector
          (Crypto.hashForCurve curvedSsl [1,2,3] .brainpoolP256r1) sig .brainpoolP256r1)=
        some false := by decide +kernel
    obtain ⟨sig,hsig,hno⟩ := Option.map_eq_some_iff.mp hsigned
    rw [huses.signs [1,2,3] 1 sig hsig] at hno
    cases hno

end Sample

end V2xPki
