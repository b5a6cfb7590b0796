import V2xPki.KeyStore.PlaintextFileKeyStore

namespace V2xPki

open Framework

/-- A key object is built from every private key and its point. -/
def KeyPem.Builds (pem : KeyPem) {ssl : OpenSsl} (laws : CryptoLaws ssl) : Prop :=
  ∀ c d p,0<d → d<laws.order c → ssl.publicOf c d=some p → pem.fromData c d p=true

namespace Provisioning

def atomicWrite (files : Files UInt8) (path : String) (data : Bytes) (r : Files.Replacing) :
    Bool × Files UInt8 :=
  files.replace (path++".tmp") path data r

/-- The group a key is written with: one curve has its own, the others get NIST P-256. -/
def pemGroup : Curve → Curve
  | .brainpoolP256r1 => .brainpoolP256r1
  | _ => .nistP256

/-- The key object of a scalar; its point is derived on the group that is written. -/
def pemKey (ssl : OpenSsl) (pem : KeyPem) (privateKey : Bytes) (curve : Curve) :
    Option EcPkey := do
  let pub ← ssl.publicOf (pemGroup curve) (natOfBytes privateKey)
  if pub.isEmpty then none
  else if pem.fromData (pemGroup curve) (natOfBytes privateKey) pub then
    some ⟨pemGroup curve,natOfBytes privateKey,pub⟩
  else none

def atomicWriteKeyPem (ssl : OpenSsl) (pem : KeyPem) (files : Files UInt8) (path : String)
    (privateKey : Bytes) (curve : Curve) (r : Files.Replacing) : Bool × Files UInt8 :=
  match pemKey ssl pem privateKey curve with
  | none => (false,files)
  | some pkey => atomicWrite files path (pem.write pkey) r

section
variable {files : Files UInt8} {path other : String} {data : Bytes} {r : Files.Replacing}

theorem path_ne_tmp (path : String) : path≠path++".tmp" := by
  intro h
  have hlen := congrArg String.length h
  rw [String.length_append,show ".tmp".length=4 from rfl] at hlen
  omega

theorem atomicWrite_reported (files : Files UInt8) (path : String) (data : Bytes)
    (r : Files.Replacing) : (atomicWrite files path data r).1=r.reported :=
  Files.replace_reported files _ path data r

theorem atomicWrite_other (htmp : other≠path++".tmp") (hpath : other≠path) :
    (atomicWrite files path data r).2 other=files other :=
  Files.replace_other htmp hpath r

theorem atomicWrite_failed (h : r.reported=false) :
    (atomicWrite files path data r).2 path=files path :=
  Files.replace_failed (path_ne_tmp path) h

theorem atomicWrite_worked (h : r.reported=true) (hwhole : r.Whole data.length) :
    (atomicWrite files path data r).2 path=some data :=
  Files.replace_worked h hwhole

/-- The key object of a generated key pair is built on its own curve, where this curve has a
group. -/
theorem pemKey_keyPair {ssl : OpenSsl} {pem : KeyPem} {laws : CryptoLaws ssl} {curve : Curve}
    {priv point : Bytes} (hbuild : pem.Builds laws) (hcurve : pemGroup curve=curve)
    (hkey : KeyPairOn laws curve priv point) :
    pemKey ssl pem priv curve=some ⟨curve,natOfBytes priv,point⟩ := by
  obtain ⟨-,hhead,-⟩ := hkey.exported
  have hne : point≠[] := by
    rintro rfl
    cases hhead
  have hdata : pem.fromData curve (natOfBytes priv) point=true :=
    hbuild curve _ point hkey.pos hkey.lt hkey.public_
  unfold pemKey
  rw [hcurve,hkey.public_]
  simp [hne,hdata]

end

end Provisioning

end V2xPki
