import V2xPki.Cert.CertParse

namespace V2xPki.SignedMsg

structure SignedMessage where
  payloadCoer : Bytes
  tbsCoer : Bytes
  signerHid8 : HashedId8
  sigR : Bytes
  sigS : Bytes
  sigCurve : Curve
  hasSignerDigest : Bool
deriving DecidableEq

variable (lib : Lib)

/-- The signed data of an envelope, if it is one. -/
def signedData? (outer : Asn.Ieee1609Dot2Data) : Option Asn.SignedData := do
  match ← outer.content with
  | .signedData sd => sd
  | _ => none

/-- The octets of an unsecured payload. -/
def unsecuredPayload? (tbs : Asn.ToBeSignedData) : Option Bytes := do
  match ← (← (← tbs.payload).data).content with
  | .unsecuredData p => some p
  | .other _ => none

/-- A digest of the wrong length is treated as no digest. -/
def signerDigest? (sd : Asn.SignedData) : Option HashedId8 := do
  match ← sd.signer with
  | .digest d => HashedId8.ofBytes d
  | _ => none

def message (sd : Asn.SignedData) (tbs : Asn.ToBeSignedData) (payload : Bytes) :
    SignedMessage where
  payloadCoer := payload
  tbsCoer := Coer.encode lib.asn.toBeSignedData tbs
  signerHid8 := (signerDigest? sd).getD .zero
  sigR := (Point.extractSig sd.signature).elim [] (·.r)
  sigS := (Point.extractSig sd.signature).elim [] (·.s)
  sigCurve := (Point.extractSig sd.signature).elim .nistP256 (·.curve)
  hasSignerDigest := (signerDigest? sd).isSome

def unwrap (coer : Bytes) : Option SignedMessage := do
  let outer ← Coer.decodeWithBasicFallback lib.asn.ieee1609Dot2Data coer
  let sd ← signedData? outer
  let tbs ← sd.tbsData
  let payload ← unsecuredPayload? tbs
  if payload.isEmpty then none else some (message lib sd tbs payload)

/-- IEEE 1609.2 §5.3.1: `H(H(COER(tbsData)) || H(signerIdentifierInput))`. -/
def signedDataHash (tbsCoer signerInput : Bytes) (curve : Curve) : Bytes :=
  Crypto.hashForCurve lib.ssl (Crypto.hashForCurve lib.ssl tbsCoer curve++
    Crypto.hashForCurve lib.ssl signerInput curve) curve

def verify (data : SignedMessage) (verifierPubkey signerCertCoer : Bytes) : Bool :=
  if verifierPubkey.isEmpty ∨ data.tbsCoer.isEmpty then false
  else if data.sigR.length≠data.sigCurve.scalarLen ∨
      data.sigS.length≠data.sigCurve.scalarLen then false
  -- only a digest binds the caller's certificate: a signer=certificate envelope is not compared
  else if data.hasSignerDigest ∧ Cert.computeHid8 lib signerCertCoer≠data.signerHid8 then false
  else match StaticBytes.fromBytes data.sigR,StaticBytes.fromBytes data.sigS with
    | some r,some s => Crypto.ecdsaVerifyDigest lib.ssl verifierPubkey
        (signedDataHash lib data.tbsCoer signerCertCoer data.sigCurve) ⟨r,s⟩ data.sigCurve
    | _,_ => false

theorem unwrap_some {coer : Bytes} {m : SignedMessage} (h : unwrap lib coer=some m) :
    ∃ outer sd tbs payload,
      Coer.decodeWithBasicFallback lib.asn.ieee1609Dot2Data coer=some outer ∧
      signedData? outer=some sd ∧ sd.tbsData=some tbs ∧
      unsecuredPayload? tbs=some payload ∧ payload≠[] ∧ m=message lib sd tbs payload := by
  simp only [unwrap,Option.bind_eq_bind,Option.bind_eq_some_iff] at h
  obtain ⟨outer,ho,sd,hs,tbs,ht,payload,hp,h⟩ := h
  split at h
  · cases h
  · rename_i hne
    refine ⟨outer,sd,tbs,payload,ho,hs,ht,hp,?_,(Option.some.inj h).symm⟩
    simpa using hne

theorem unwrap_of_parts {coer : Bytes} {outer : Asn.Ieee1609Dot2Data} {sd : Asn.SignedData}
    {tbs : Asn.ToBeSignedData} {payload : Bytes}
    (houter : Coer.decodeWithBasicFallback lib.asn.ieee1609Dot2Data coer=some outer)
    (hsd : signedData? outer=some sd) (htbs : sd.tbsData=some tbs)
    (hpayload : unsecuredPayload? tbs=some payload) (hne : payload≠[]) :
    unwrap lib coer=some (message lib sd tbs payload) := by
  simp [unwrap,houter,hsd,htbs,hpayload,hne]

/-- Everything an accepted signature establishes. -/
theorem verify_spec {data : SignedMessage} {pub cert : Bytes}
    (h : verify lib data pub cert=true) :
    pub≠[] ∧ data.tbsCoer≠[] ∧ data.sigR.length=data.sigCurve.scalarLen ∧
    (data.hasSignerDigest=true → Cert.computeHid8 lib cert=data.signerHid8) ∧
    ∃ r s,r.toVector=data.sigR ∧ s.toVector=data.sigS ∧
      Crypto.ecdsaVerifyDigest lib.ssl pub
        (signedDataHash lib data.tbsCoer cert data.sigCurve) ⟨r,s⟩ data.sigCurve=true := by
  unfold verify at h
  split at h
  · cases h
  rename_i hempty
  split at h
  · cases h
  rename_i hlen
  split at h
  · cases h
  rename_i hdigest
  split at h
  · rename_i r s hr hs
    refine ⟨by simpa using fun hp => hempty (.inl (by simp [hp])),
      by simpa using fun ht => hempty (.inr (by simp [ht])),?_,?_,
      r,s,StaticBytes.fromBytes_some.mp hr,StaticBytes.fromBytes_some.mp hs,h⟩
    · by_contra hne
      exact hlen (.inl hne)
    · intro hd
      by_contra hne
      exact hdigest ⟨hd,hne⟩
  · cases h

end V2xPki.SignedMsg
