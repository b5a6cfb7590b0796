import V2xPki.Client.PkiClient
import V2xPki.Framework.Files
import V2xPki.Framework.Journal
import V2xPki.Sample.StandIn

namespace V2xPki

open Framework

/-- An EC key object of OpenSSL. -/
structure EcPkey where
  curve : Curve
  priv : Nat
  pub : Bytes
deriving DecidableEq

/-- What the key files rest on: which key objects `EVP_PKEY_fromdata` builds, and their PEM
form both ways. -/
structure KeyPem where
  fromData : Curve → Nat → Bytes → Bool
  write : EcPkey → Bytes
  read : Bytes → Option EcPkey

/-- The PEM of a key that was built is read back. -/
def KeyPem.ReadsBack (pem : KeyPem) : Prop :=
  ∀ c d p,pem.fromData c d p=true → pem.read (pem.write ⟨c,d,p⟩)=some ⟨c,d,p⟩

/-- `EVP_PKEY_get_bits`. -/
def Curve.bits (c : Curve) : Nat := 8*c.scalarLen

/-- `KeyHandle::from`. -/
def KeyHandle.ofString (id : String) : Option KeyHandle :=
  if hne : id≠"" then
    if hchars : id.toList.all fun c =>
        ('A' ≤ c && c ≤ 'Z') || ('a' ≤ c && c ≤ 'z') || ('0' ≤ c && c ≤ '9') ||
          c == '_' || c == '-' then
      if hshort : id.length≤64 then some ⟨id,hne,hchars,hshort⟩ else none
    else none
  else none

namespace PlaintextFileKeyStore

variable (pem : KeyPem)

def tryBuildPkey (kp : KeyPair) (group : Curve) : Option EcPkey :=
  if pem.fromData group (natOfBytes kp.privateKey.toVector) kp.publicKey.toVector then
    some ⟨group,natOfBytes kp.privateKey.toVector,kp.publicKey.toVector⟩
  else none

/-- The curve is found by trial; 97 octets are taken for Brainpool. -/
def buildPkey (kp : KeyPair) : Option EcPkey :=
  if kp.publicKey.size=kP384PublicKeyLen ∧ kp.privateKey.size=kP384ScalarLen then
    tryBuildPkey pem kp .brainpoolP384r1
  else if kp.publicKey.size=kP256PublicKeyLen ∧ kp.privateKey.size=kP256ScalarLen then
    match tryBuildPkey pem kp .nistP256 with
    | some pkey => some pkey
    | none => tryBuildPkey pem kp .brainpoolP256r1
  else none

/-- The width of the scalar comes from the size of the key. -/
def extractKeypair (pkey : EcPkey) : Option KeyPair := do
  let slen := if 256<pkey.curve.bits then kP384ScalarLen else kP256ScalarLen
  let pub ← StaticBytes.fromBytes pkey.pub
  let priv ← StaticBytes.fromBytes (binpad slen pkey.priv)
  pure ⟨pub,priv⟩

/-- The name of the file of a handle in the directory of the store. -/
def pemName (handle : KeyHandle) : String := handle.id++".pem"

def loadKeypair (files : Files UInt8) (handle : KeyHandle) : Option KeyPair := do
  let content ← files (pemName handle)
  let pkey ← pem.read content
  extractKeypair pkey

/-- The file is opened in place, so it is empty by the time the key is written. -/
def storeKeypair (files : Files UInt8) (handle : KeyHandle) (kp : KeyPair) (fill : Fill) :
    Bool × Files UInt8 :=
  match buildPkey pem kp with
  | none => (false,files)
  | some pkey => files.overwrite (pemName handle) (pem.write pkey) fill

/-- One call of `store_keypair`, and how its write goes. -/
structure StoreCall where
  handle : KeyHandle
  kp : KeyPair
  fill : Fill

/-- The directory, and the stores that returned true so far. -/
structure State where
  files : Files UInt8
  stored : List (KeyHandle × KeyPair)

/-- An empty directory. -/
def initial : State := ⟨Files.empty,[]⟩

def State.store (s : State) (call : StoreCall) : Bool × Files UInt8 :=
  storeKeypair pem s.files call.handle call.kp call.fill

def step (call : StoreCall) (s : State) : State :=
  let r := s.store pem call
  ⟨r.2,if r.1 then s.stored++[(call.handle,call.kp)] else s.stored⟩

/-- A file that the call opens gets its PEM in full. -/
def WrittenWhole (call : StoreCall) (_ : State) : Prop :=
  ∀ pkey,buildPkey pem call.kp=some pkey → call.fill.Whole (pem.write pkey).length

/-- The store is a map: what is loaded is what was last stored. -/
def IsMap (s : State) : Prop :=
  ∀ handle,loadKeypair pem s.files handle=Journal.current s.stored handle

section
variable {pem}

theorem pemName_injective {a b : KeyHandle} (h : pemName a=pemName b) : a=b := by
  have hid : a.id=b.id := by
    have hchars := congrArg String.toList h
    simp only [pemName,String.toList_append] at hchars
    exact String.toList_inj.mp (List.append_cancel_right hchars)
  cases a
  cases b
  congr

/-- No handle leads out of the directory. -/
theorem pemName_no_slash (handle : KeyHandle) : '/'∉(pemName handle).toList := by
  intro h
  rw [pemName,String.toList_append] at h
  rcases List.mem_append.mp h with hid | hext
  · have hc := List.all_eq_true.mp handle.chars '/' hid
    revert hc
    decide
  · revert hext
    decide

theorem tryBuildPkey_some {kp : KeyPair} {group : Curve} {pkey : EcPkey}
    (h : tryBuildPkey pem kp group=some pkey) :
    pem.fromData pkey.curve pkey.priv pkey.pub=true ∧
    pkey.priv=natOfBytes kp.privateKey.toVector ∧ pkey.pub=kp.publicKey.toVector ∧
    pkey.curve=group := by
  unfold tryBuildPkey at h
  split at h
  · rename_i hdata
    cases h
    exact ⟨hdata,rfl,rfl,rfl⟩
  · cases h

/-- A key object that was built has the scalar and the point of the pair, on a curve of its
size. -/
theorem buildPkey_some {kp : KeyPair} {pkey : EcPkey} (h : buildPkey pem kp=some pkey) :
    pem.fromData pkey.curve pkey.priv pkey.pub=true ∧
    pkey.priv=natOfBytes kp.privateKey.toVector ∧ pkey.pub=kp.publicKey.toVector ∧
    kp.privateKey.size=pkey.curve.scalarLen := by
  have hsized : ∀ group,tryBuildPkey pem kp group=some pkey →
      kp.privateKey.size=group.scalarLen →
      pem.fromData pkey.curve pkey.priv pkey.pub=true ∧
      pkey.priv=natOfBytes kp.privateKey.toVector ∧ pkey.pub=kp.publicKey.toVector ∧
      kp.privateKey.size=pkey.curve.scalarLen := by
    intro group hgroup hsize
    obtain ⟨hdata,hpriv,hpub,hcurve⟩ := tryBuildPkey_some hgroup
    exact ⟨hdata,hpriv,hpub,hcurve ▸ hsize⟩
  unfold buildPkey at h
  split at h
  · rename_i hsize
    exact hsized _ h hsize.2
  · split at h
    · rename_i hsize
      split at h
      · rename_i found hfound
        cases h
        exact hsized _ hfound hsize.2
      · exact hsized _ h hsize.2
    · cases h

/-- The pair comes back out of the key object, leading zeros of the scalar included. -/
theorem extractKeypair_buildPkey {kp : KeyPair} {pkey : EcPkey}
    (h : buildPkey pem kp=some pkey) : extractKeypair pkey=some kp := by
  obtain ⟨-,hpriv,hpub,hsize⟩ := buildPkey_some h
  have hslen : (if 256<pkey.curve.bits then kP384ScalarLen else kP256ScalarLen)=
      kp.privateKey.toVector.length := by
    rw [show kp.privateKey.toVector.length=kp.privateKey.size from rfl,hsize]
    cases pkey.curve <;> rfl
  have hscalar : StaticBytes.fromBytes kp.privateKey.toVector=some kp.privateKey :=
    StaticBytes.fromBytes_some.mpr rfl
  have hpoint : StaticBytes.fromBytes kp.publicKey.toVector=some kp.publicKey :=
    StaticBytes.fromBytes_some.mpr rfl
  unfold extractKeypair
  simp only [hslen,hpriv,hpub,binpad_natOfBytes,hscalar,hpoint]
  rfl

/-- What is stored in full is loaded. -/
theorem load_of_whole (hpem : pem.ReadsBack) {kp : KeyPair} {pkey : EcPkey}
    (h : buildPkey pem kp=some pkey) {files : Files UInt8} {handle : KeyHandle}
    (hfile : files (pemName handle)=some (pem.write pkey)) :
    loadKeypair pem files handle=some kp := by
  have hread := hpem _ _ _ (buildPkey_some h).1
  simp only [loadKeypair,hfile,Option.bind_eq_bind,Option.bind_some,hread]
  exact extractKeypair_buildPkey h

/-- A store never affects another handle, however it goes. -/
theorem load_store_other (s : State) (call : StoreCall) {handle : KeyHandle}
    (h : handle≠call.handle) :
    loadKeypair pem (s.store pem call).2 handle=loadKeypair pem s.files handle := by
  have hname : pemName handle≠pemName call.handle := fun heq => h (pemName_injective heq)
  have hfile : (s.store pem call).2 (pemName handle)=s.files (pemName handle) := by
    unfold State.store storeKeypair
    split
    · rfl
    · exact Files.overwrite_other hname call.fill
  simp only [loadKeypair,hfile]

/-- A store that is not cut off returns true and the key is loaded, or false and nothing has
changed. -/
theorem store_whole (hpem : pem.ReadsBack) {s : State} {call : StoreCall}
    (h : WrittenWhole pem call s) :
    ((s.store pem call).1=true ∧
      loadKeypair pem (s.store pem call).2 call.handle=some call.kp) ∨
    ((s.store pem call).1=false ∧ (s.store pem call).2=s.files) := by
  unfold State.store storeKeypair
  cases hbuild : buildPkey pem call.kp with
  | none => exact .inr ⟨rfl,rfl⟩
  | some pkey =>
    rcases Files.overwrite_whole (h pkey hbuild) with ⟨hok,hfile⟩ | hfail
    · exact .inl ⟨hok,load_of_whole hpem hbuild hfile⟩
    · exact .inr hfail

theorem step_isMap (hpem : pem.ReadsBack) {s : State} {call : StoreCall} (hs : IsMap pem s)
    (h : WrittenWhole pem call s) : IsMap pem (step pem call s) := by
  intro handle
  rcases store_whole hpem h with ⟨hok,hload⟩ | ⟨hfail,hsame⟩
  · simp only [step,hok,if_true]
    rw [Journal.current_concat]
    by_cases heq : call.handle=handle
    · rw [if_pos heq,← heq]
      exact hload
    · rw [if_neg heq,load_store_other s call (Ne.symm heq)]
      exact hs handle
  · simp only [step,hfail,hsame]
    exact hs handle

end

/-- In every run of stores on an empty directory in which each file that is opened gets its PEM
in full, the store is a map in every state; one that then returns false changes no key that
can be loaded, and none touches another handle. -/
theorem isMap_of_writtenWhole (hpem : pem.ReadsBack) {s : State}
    (h : Reachable (·=initial) (step pem) (WrittenWhole pem) s) :
    IsMap pem s ∧
    (∀ call,WrittenWhole pem call s → (s.store pem call).1=false →
      ∀ handle,loadKeypair pem (s.store pem call).2 handle=loadKeypair pem s.files handle) ∧
    (∀ call handle,handle≠call.handle →
      loadKeypair pem (s.store pem call).2 handle=loadKeypair pem s.files handle) ∧
    (∀ a b,pemName a=pemName b → a=b) ∧ ∀ handle,'/'∉(pemName handle).toList := by
  refine ⟨?_,?_,?_,?_,?_⟩
  · apply h.invariant (IsMap pem)
    · rintro s rfl handle
      rfl
    · intro s call hs hcall
      exact step_isMap hpem hs hcall
  · intro call hcall hfalse handle
    rcases store_whole hpem hcall with ⟨hok,-⟩ | ⟨-,hsame⟩
    · rw [hok] at hfalse
      cases hfalse
    · rw [hsame]
  · intro call handle hne
    exact load_store_other s call hne
  · intro a b hab
    exact pemName_injective hab
  · intro handle
    exact pemName_no_slash handle

end PlaintextFileKeyStore

namespace Sample

open PlaintextFileKeyStore

def taggedCurve : UInt8 → Option Curve
  | 0 => some .nistP256
  | 2 => some .brainpoolP256r1
  | 4 => some .nistP384
  | 6 => some .brainpoolP384r1
  | _ => none

/-- A stand-in for PEM: a mark, the curve, the scalar and the point. -/
def keyPem : KeyPem where
  fromData c d p := decide (0<d ∧ d<256^c.scalarLen) && curvedSsl.publicOk c p
  write pkey := 0x2d::UInt8.ofNat (curveTag pkey.curve)::(binpad 48 pkey.priv++pkey.pub)
  read content := match content with
    | 0x2d::tag::rest => if rest.length<48 then none
      else (taggedCurve tag).map fun c => ⟨c,natOfBytes (rest.take 48),rest.drop 48⟩
    | _ => none

theorem keyPem_readsBack : keyPem.ReadsBack := by
  intro c d p h
  have hd : d<256^c.scalarLen := by
    simp only [keyPem,Bool.and_eq_true,decide_eq_true_eq] at h
    exact h.1.2
  have hfit : d<256^48 := hd.trans_le (Nat.pow_le_pow_right (by decide) c.scalarLen_le)
  have htag : taggedCurve (UInt8.ofNat (curveTag c))=some c := by
    cases c <;> rfl
  have hlong : ¬(binpad 48 d++p).length<48 := by simp
  have htake : (binpad 48 d++p).take 48=binpad 48 d := List.take_left' (binpad_length 48 d)
  have hdrop : (binpad 48 d++p).drop 48=p := List.drop_left' (binpad_length 48 d)
  simp only [keyPem,if_neg hlong,htag,Option.map_some,htake,hdrop,natOfBytes_binpad hfit]

def deviceKey : KeyHandle := ⟨"device-1",by decide,by decide,by decide⟩

/-- A first key is stored. -/
def firstStore : StoreCall := ⟨deviceKey,keyPair 21,.filled 4096 true⟩

/-- The PEM write of a second key fails. -/
def cutOffStore : StoreCall := ⟨deviceKey,keyPair 22,.filled 0 false⟩

/-- The disk is full, which only shows when the file is closed. -/
def fullDiskStore : StoreCall := ⟨deviceKey,keyPair 22,.filled 0 true⟩

def unopenedStore : StoreCall := ⟨deviceKey,keyPair 22,.notOpened⟩

def afterFirst : State := step keyPem firstStore initial

theorem unopened_store_keeps_key :
    ((afterFirst.store keyPem unopenedStore).1=false ∧
      loadKeypair keyPem (afterFirst.store keyPem unopenedStore).2 deviceKey=some (keyPair 21)) ∧
    IsMap keyPem afterFirst := by
  have hbuild : buildPkey keyPem (keyPair 21)=
      some ⟨.nistP256,21,pointOn .nistP256 21⟩ := by decide +kernel
  have hwhole : WrittenWhole keyPem firstStore initial := by
    intro pkey h
    obtain rfl := Option.some.inj (hbuild.symm.trans h)
    decide +kernel
  have hstart : Reachable (·=initial) (step keyPem) (WrittenWhole keyPem) initial :=
    Reachable.start rfl
  have hreach := hstart.next firstStore hwhole
  obtain ⟨hmap,hfalse,-⟩ := isMap_of_writtenWhole keyPem keyPem_readsBack hreach
  have hcut : (afterFirst.store keyPem unopenedStore).1=false := by decide +kernel
  have hload : loadKeypair keyPem afterFirst.files deviceKey=some (keyPair 21) := by decide +kernel
  have hsame := hfalse unopenedStore (fun _ _ => trivial) hcut deviceKey
  exact ⟨⟨hcut,hsame.trans hload⟩,hmap⟩

/-- The second store returns false and the first key is gone. On a full disk it is gone as well,
and the store returns true. -/
theorem cut_off_store_loses_key :
    loadKeypair keyPem afterFirst.files deviceKey=some (keyPair 21) ∧
    (afterFirst.store keyPem cutOffStore).1=false ∧
    loadKeypair keyPem (afterFirst.store keyPem cutOffStore).2 deviceKey=none ∧
    (afterFirst.store keyPem fullDiskStore).1=true ∧
    loadKeypair keyPem (afterFirst.store keyPem fullDiskStore).2 deviceKey=none ∧
    ¬IsMap keyPem (step keyPem cutOffStore afterFirst) := by
  refine ⟨by decide +kernel,by decide +kernel,by decide +kernel,by decide +kernel,
    by decide +kernel,?_⟩
  intro hmap
  have hload : loadKeypair keyPem (step keyPem cutOffStore afterFirst).files deviceKey=none := by
    decide +kernel
  have hlast : Journal.current (step keyPem cutOffStore afterFirst).stored deviceKey=
      some (keyPair 21) := by decide +kernel
  have hread := hmap deviceKey
  rw [hload,hlast] at hread
  cases hread

end Sample

end V2xPki
