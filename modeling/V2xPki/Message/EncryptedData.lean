import V2xPki.Crypto.Ecies
import V2xPki.Message.SignedMessage

namespace V2xPki.Enc
variable (lib : Lib)

def buildEncryptedData (ecies : Crypto.EciesEncryptResult) (recipientCert : CertInfo)
    (curve : Curve) : Asn.Ieee1609Dot2Data :=
  let eciesK := some ⟨Point.fromSec1 ecies.ephemeralPubkey,ecies.encryptedKey,ecies.tagKdf⟩
  let encKey := if curve=.brainpoolP256r1 ∨ curve=.brainpoolP384r1 then
      Asn.EncryptedDataEncryptionKey.eciesBrainpoolP256r1 eciesK
    else .eciesNistP256 eciesK
  ⟨kIeee1609Dot2Version,some (.encryptedData (some
    ⟨some [some (.certRecipInfo (some ⟨recipientCert.hashedId8.toList,some encKey⟩))],
      some (.aes128ccm (some ⟨ecies.nonceCcm,ecies.ciphertext++ecies.tagCcm⟩))⟩))⟩

/-- The ECIES key and curve of a recipient entry. -/
def eciesKey? : Option Asn.EncryptedDataEncryptionKey →
    Option (Asn.EciesP256EncryptedKey × Curve)
  | some (.eciesNistP256 key) => key.map (·,.nistP256)
  | some (.eciesBrainpoolP256r1 key) => key.map (·,.brainpoolP256r1)
  | _ => none

/-- The pre-shared key of the request if the recipient entry asks for it, else ECIES with
an empty `P1`. -/
def openForRecipient (recipient : Option Asn.RecipientInfo)
    (recipientPrivateKey requestAesKey nonce ciphertext tagCcm : Bytes) : Option Bytes :=
  match recipient with
  | some (.pskRecipInfo _) =>
    if requestAesKey.isEmpty then none
    else Crypto.aes128CcmDecrypt lib.ssl requestAesKey nonce ciphertext tagCcm
  | some (.certRecipInfo (some pkRi)) =>
    match eciesKey? pkRi.encKey with
    | none => none
    | some (key,curve) =>
      if key.v.isNone ∨ (Point.toSec1 key.v).isEmpty then none
      else Crypto.eciesDecrypt lib.ssl recipientPrivateKey
        ⟨Point.toSec1 key.v,key.c,key.t,nonce,ciphertext,tagCcm,[]⟩ [] curve
  | _ => none

def aes128ccm? : Option Asn.SymmetricCiphertext → Option Asn.One28BitCcmCiphertext
  | some (.aes128ccm ccm) => ccm
  | _ => none

/-- Only the first recipient is looked at; the last sixteen octets are the tag. -/
def decryptEncryptedContent (enc : Option Asn.EncryptedData)
    (recipientPrivateKey requestAesKey : Bytes) : Option Bytes := do
  let enc ← enc
  let ri0 ← (← enc.recipients).head?
  let ccm ← aes128ccm? enc.ciphertext
  let split := ccm.ccmCiphertext.length-kAesCcmTagLen
  if ccm.ccmCiphertext.length<kAesCcmTagLen then none
  else
    openForRecipient lib ri0 recipientPrivateKey requestAesKey ccm.nonce
      (ccm.ccmCiphertext.take split) (ccm.ccmCiphertext.drop split)

/-- The encrypted data of an envelope; a null choice member is passed on. -/
def encryptedData? (outer : Asn.Ieee1609Dot2Data) : Option (Option Asn.EncryptedData) :=
  match outer.content with
  | some (.encryptedData data) => some data
  | _ => none

/-- The two-octet `EtsiTs102941Data` prefix is removed if it is there; a payload without
it is passed on as it is. -/
def stripEtsiHeader (etsiResponseTag : UInt8) (inner : Bytes) : Bytes :=
  match inner with
  | v::t::b::rest => if v=0x01 ∧ t=etsiResponseTag then b::rest else inner
  | _ => inner

def decryptAndUnwrap (responseBytes recipientPrivateKey requestAesKey : Bytes)
    (etsiResponseTag : UInt8) (signerCert : CertInfo) : Except Error Bytes :=
  match Coer.decode lib.asn.ieee1609Dot2Data responseBytes with
  | none => .error .decode
  | some outer => match encryptedData? outer with
    | none => .error .decode
    | some enc => match decryptEncryptedContent lib enc recipientPrivateKey requestAesKey with
      | none => .error .crypto
      | some plaintext => match SignedMsg.unwrap lib plaintext with
        | none => .error .decode
        | some signedInner =>
          if SignedMsg.verify lib signedInner signerCert.publicKey.toVector
              signerCert.certBytes.toVector then
            .ok (stripEtsiHeader etsiResponseTag signedInner.payloadCoer)
          else .error .signatureInvalid

/-- The plaintext a response carries for the holder of the two keys. -/
def plaintext? (responseBytes recipientPrivateKey requestAesKey : Bytes) : Option Bytes := do
  let outer ← Coer.decode lib.asn.ieee1609Dot2Data responseBytes
  decryptEncryptedContent lib (← encryptedData? outer) recipientPrivateKey requestAesKey

/-- The message in a response that verifies under the signer's key and certificate. -/
def authenticated? (responseBytes recipientPrivateKey requestAesKey : Bytes)
    (signerCert : CertInfo) : Option SignedMsg.SignedMessage := do
  let m ← SignedMsg.unwrap lib (← plaintext? lib responseBytes recipientPrivateKey requestAesKey)
  if SignedMsg.verify lib m signerCert.publicKey.toVector signerCert.certBytes.toVector
  then some m else none

/-- `decrypt_and_unwrap` returns the payload of an authenticated message, minus a header
if it has one, and nothing else. -/
theorem decryptAndUnwrap_ok {resp priv aes : Bytes} {tag : UInt8} {signer : CertInfo}
    {inner : Bytes} :
    decryptAndUnwrap lib resp priv aes tag signer=.ok inner ↔
      ∃ m,authenticated? lib resp priv aes signer=some m ∧
        inner=stripEtsiHeader tag m.payloadCoer := by
  simp only [decryptAndUnwrap,authenticated?,plaintext?,Option.bind_eq_bind]
  cases Coer.decode lib.asn.ieee1609Dot2Data resp with
  | none => simp
  | some outer =>
    simp only [Option.bind_some]
    cases encryptedData? outer with
    | none => simp
    | some enc =>
      simp only [Option.bind_some]
      cases decryptEncryptedContent lib enc priv aes with
      | none => simp
      | some plain =>
        simp only [Option.bind_some]
        cases SignedMsg.unwrap lib plain with
        | none => simp
        | some m =>
          simp only [Option.bind_some]
          split <;> simp [eq_comm]

theorem authenticated_some {resp priv aes : Bytes} {signer : CertInfo}
    {m : SignedMsg.SignedMessage} (h : authenticated? lib resp priv aes signer=some m) :
    ∃ plain,plaintext? lib resp priv aes=some plain ∧ SignedMsg.unwrap lib plain=some m ∧
      SignedMsg.verify lib m signer.publicKey.toVector signer.certBytes.toVector=true := by
  simp only [authenticated?,Option.bind_eq_bind,Option.bind_eq_some_iff] at h
  obtain ⟨plain,hp,m',hm,h⟩ := h
  split at h
  · rename_i hv
    obtain rfl : m'=m := Option.some.inj h
    exact ⟨plain,hp,hm,hv⟩
  · cases h

end V2xPki.Enc
