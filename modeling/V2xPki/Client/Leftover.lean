import V2xPki.Client.Operations
import V2xPki.Sample.StandIn

/- What the members of `CertInfo` that nothing initialises leave behind: `from_struct` taken
assignment by assignment, from whatever the storage of its local variable held. -/

namespace V2xPki

open Framework

/-- What the two members of `CertInfo ci;` without an initialiser hold; the other members
have one, or a class type whose constructor sets them. -/
structure Leftover where
  hashedId8 : HashedId8
  issuerHashId8 : HashedId8

/-- `CertInfo ci;` -/
def CertInfo.declared (left : Leftover) : CertInfo :=
  {CertInfo.zero with hashedId8 := left.hashedId8,issuerHashId8 := left.issuerHashId8}

namespace Cert

/-- `if (auto b = StaticBytes<N>::from(v)) member = *b;` -/
def assign {N : Nat} (v : Bytes) (member : StaticBytes N) : StaticBytes N :=
  (StaticBytes.fromBytes v).getD member

def assignIssuer (ci : CertInfo) : Option Asn.IssuerIdentifier → CertInfo
  | some (.self .sha384) => {ci with isSelfSigned := true,issuerHash := .sha384}
  | some (.self _) => {ci with isSelfSigned := true}
  | some (.sha256AndDigest d) =>
      {ci with isSelfSigned := false,issuerHashId8 := (HashedId8.ofBytes d).getD ci.issuerHashId8}
  | some (.sha384AndDigest d) =>
      {ci with isSelfSigned := false,issuerHash := .sha384
               issuerHashId8 := (HashedId8.ofBytes d).getD ci.issuerHashId8}
  | _ => ci

def assignVerificationKey (ci : CertInfo) (cert : Asn.CertificateBase) : CertInfo :=
  match verificationKey? cert with
  | some (.ecdsaNistP256 (some p)) =>
      {ci with publicKey := assign (Point.toSec1 (some p)) ci.publicKey,curve := .nistP256}
  | some (.ecdsaBrainpoolP256r1 (some p)) =>
      {ci with publicKey := assign (Point.toSec1 (some p)) ci.publicKey,curve := .brainpoolP256r1}
  | some (.ecdsaBrainpoolP384r1 (some p)) =>
      {ci with publicKey := assign (Point.toSec1_384 (some p)) ci.publicKey
               curve := .brainpoolP384r1}
  | some (.ecdsaNistP384 (some p)) =>
      {ci with publicKey := assign (Point.toSec1_384 (some p)) ci.publicKey,curve := .nistP384}
  | _ => ci

def assignEncryptionKey (ci : CertInfo) (cert : Asn.CertificateBase) : CertInfo :=
  match do (← (← cert.toBeSigned).encryptionKey).publicKey with
  | some (.eciesNistP256 (some p)) =>
      {ci with encryptionKey := assign (Point.toSec1 (some p)) ci.encryptionKey
               encCurve := .nistP256}
  | some (.eciesBrainpoolP256r1 (some p)) =>
      {ci with encryptionKey := assign (Point.toSec1 (some p)) ci.encryptionKey
               encCurve := .brainpoolP256r1}
  | _ => ci

def assignValidity (ci : CertInfo) (cert : Asn.CertificateBase) : CertInfo :=
  match do (← cert.toBeSigned).validityPeriod with
  | some vp => {ci with validityStart := vp.start
                        validityDurationSeconds := durationSeconds vp.duration}
  | none => ci

variable (lib : Lib)

def assignTbs (ci : CertInfo) (cert : Asn.CertificateBase) : CertInfo :=
  match cert.toBeSigned with
  | some tbs => {ci with tbsBytes := assign (Coer.encode lib.asn.toBeSignedCertificate tbs) ci.tbsBytes}
  | none => ci

def assignSignature (ci : CertInfo) (cert : Asn.CertificateBase) : CertInfo :=
  match Point.extractSig cert.signature with
  | some rs => {ci with signatureR := assign rs.r ci.signatureR
                        signatureS := assign rs.s ci.signatureS}
  | none => ci

/-- `from_struct` as its statements run, on the variable it declares. -/
def fromStructOn (ci : CertInfo) (cert : Asn.CertificateBase) (certCoer : Bytes) : CertInfo :=
  let ci := {ci with certBytes := assign certCoer ci.certBytes}
  let ci := {ci with hashedId8 := computeHid8Of lib (some cert) certCoer}
  let ci := assignIssuer ci cert.issuer
  let ci := assignVerificationKey ci cert
  let ci := assignEncryptionKey ci cert
  let ci := assignValidity ci cert
  let ci := assignTbs lib ci cert
  assignSignature ci cert

section Assignments
variable {lib} {ci : CertInfo} {cert : Asn.CertificateBase}

theorem assignIssuer_eq (h : ci.isSelfSigned=false) (hash : ci.issuerHash=.sha256)
    (issuer : Option Asn.IssuerIdentifier) :
    assignIssuer ci issuer=
      {ci with isSelfSigned := (parseIssuer ci.issuerHashId8 issuer).isSelfSigned
               issuerHash := (parseIssuer ci.issuerHashId8 issuer).issuerHash
               issuerHashId8 := (parseIssuer ci.issuerHashId8 issuer).issuerHashId8} := by
  obtain ⟨_,_,_,_,_,_,_,_,_,_,_,_,_,_,_⟩ := ci
  cases h
  cases hash
  rcases issuer with _ | ⟨d⟩ | ⟨_ | _ | _⟩ | ⟨d⟩ | ⟨d⟩ <;> rfl

theorem assignVerificationKey_eq (h : ci.publicKey=.nil) (hcurve : ci.curve=.nistP256) :
    assignVerificationKey ci cert=
      {ci with publicKey := .orEmpty (parseVerificationKey cert).1
               curve := (parseVerificationKey cert).2} := by
  obtain ⟨_,_,_,_,_,_,_,_,_,_,_,_,_,_,_⟩ := ci
  cases h
  cases hcurve
  unfold assignVerificationKey parseVerificationKey
  rcases verificationKey? cert with _ | ⟨_ | p⟩ | ⟨_ | p⟩ | ⟨_ | p⟩ | ⟨_ | p⟩ | _ <;>
    rfl

theorem assignEncryptionKey_eq (h : ci.encryptionKey=.nil) (hcurve : ci.encCurve=.nistP256) :
    assignEncryptionKey ci cert=
      {ci with encryptionKey := .orEmpty (parseEncryptionKey cert).1
               encCurve := (parseEncryptionKey cert).2} := by
  obtain ⟨_,_,_,_,_,_,_,_,_,_,_,_,_,_,_⟩ := ci
  cases h
  cases hcurve
  obtain ⟨_,_,_,tbs,_⟩ := cert
  rcases tbs with _ | ⟨_,_,_,_,_,_,key,_,_⟩
  · rfl
  rcases key with _ | ⟨_,_ | ⟨_ | p⟩ | ⟨_ | p⟩ | _⟩ <;> rfl

theorem assignValidity_eq (h : ci.validityStart=0) (hduration : ci.validityDurationSeconds=0) :
    assignValidity ci cert=
      {ci with validityStart := (parseValidity cert).1
               validityDurationSeconds := (parseValidity cert).2} := by
  obtain ⟨_,_,_,_,_,_,_,_,_,_,_,_,_,_,_⟩ := ci
  cases h
  cases hduration
  obtain ⟨_,_,_,tbs,_⟩ := cert
  rcases tbs with _ | ⟨_,_,_,_ | vp,_,_,_,_,_⟩ <;> rfl

theorem assignTbs_eq (h : ci.tbsBytes=.nil) :
    assignTbs lib ci cert={ci with tbsBytes := .orEmpty (parseTbs lib cert)} := by
  obtain ⟨_,_,_,_,_,_,_,_,_,_,_,_,_,_,_⟩ := ci
  cases h
  unfold assignTbs parseTbs
  cases cert.toBeSigned <;> rfl

theorem assignSignature_eq (hr : ci.signatureR=.nil) (hs : ci.signatureS=.nil) :
    assignSignature ci cert=
      {ci with signatureR := .orEmpty (parseSignature cert).1
               signatureS := .orEmpty (parseSignature cert).2} := by
  obtain ⟨_,_,_,_,_,_,_,_,_,_,_,_,_,_,_⟩ := ci
  cases hr
  cases hs
  unfold assignSignature parseSignature
  cases Point.extractSig cert.signature <;> rfl

end Assignments

/-- Run on the variable it declares, the function gives what it computes member by member. -/
theorem fromStructOn_declared (left : Leftover) (cert : Asn.CertificateBase) (certCoer : Bytes) :
    fromStructOn lib (.declared left) cert certCoer=
      fromStruct lib left.issuerHashId8 cert certCoer := by
  unfold fromStructOn
  dsimp only
  rw [assignIssuer_eq rfl rfl,assignVerificationKey_eq rfl rfl,assignEncryptionKey_eq rfl rfl,
    assignValidity_eq rfl rfl,assignTbs_eq rfl,assignSignature_eq rfl rfl]
  rfl

/-- The issuer is given by an identifier of eight octets. -/
def NamesIssuer (cert : Asn.CertificateBase) : Prop :=
  ∃ d : Bytes,d.length=kHashedId8Len ∧
    (cert.issuer=some (.sha256AndDigest d) ∨ cert.issuer=some (.sha384AndDigest d))

theorem parseIssuer_of_namesIssuer {cert : Asn.CertificateBase} (h : NamesIssuer cert)
    (u v : HashedId8) : parseIssuer u cert.issuer=parseIssuer v cert.issuer := by
  obtain ⟨d,hd,hissuer⟩ := h
  obtain ⟨k,hk⟩ : ∃ k,HashedId8.ofBytes d=some k := ⟨_,dif_pos hd⟩
  rcases hissuer with hissuer | hissuer <;> simp only [hissuer,parseIssuer,hk,Option.getD_some]

/-- Without such an issuer the member is left as it was. -/
theorem parseIssuer_leaves {cert : Asn.CertificateBase} (h : ¬NamesIssuer cert) (u : HashedId8) :
    (parseIssuer u cert.issuer).issuerHashId8=u := by
  have hshort : ∀ d,(cert.issuer=some (.sha256AndDigest d) ∨
      cert.issuer=some (.sha384AndDigest d)) → HashedId8.ofBytes d=none := by
    intro d hd
    unfold HashedId8.ofBytes
    exact dif_neg fun hlen => h ⟨d,hlen,hd⟩
  rcases hissuer : cert.issuer with _ | ⟨d⟩ | ⟨_ | _ | _⟩ | ⟨d⟩ | ⟨d⟩
  · rfl
  · simp only [parseIssuer,hshort d (.inl hissuer),Option.getD_none]
  · rfl
  · rfl
  · rfl
  · simp only [parseIssuer,hshort d (.inr hissuer),Option.getD_none]
  · rfl

theorem fromStruct_of_namesIssuer {cert : Asn.CertificateBase} (h : NamesIssuer cert)
    (u v : HashedId8) (certCoer : Bytes) :
    fromStruct lib u cert certCoer=fromStruct lib v cert certCoer := by
  simp only [fromStruct,parseIssuer_of_namesIssuer h u v]

end Cert

/-- The same world, with other contents of the memory the client's variables take. -/
def World.withMemory (w : World) (mem : Nat → HashedId8) : World :=
  {w with answer := fun events r => {w.answer events r with mem := mem}}

namespace PkiClient
variable (lib : Lib) (w : World)

/-- The certificate in the response to an enrolment request, before it is parsed, when the
call gets as far as decoding one. -/
def ecAnswered (canonical : KeyHandle) (rec : EcRecord) (s : ClientState) :
    Option Asn.CertificateBase := do
  let setting := w.setting s.events
  let kp ← setting.loadKeypair canonical
  let ea ← s.trust.findByHashedId8 rec.eaHashedId8
  let desc := assembleEcRequest rec setting.unixNow
  let req ← (encodeEcRequest lib desc ea kp.privateKey.toVector setting.ecEntropy).toOption
  let a := w.answer (.enter::s.events) (.post s.config.eaUrl req.encoded.toVector)
  let body ← (okBody a.response).toOption
  let inner ← (Enc.decryptAndUnwrap lib body kp.privateKey.toVector req.requestAesKey.toVector
    0x81 ea).toOption
  let resp ← Coer.decode lib.asn.innerEcResponse inner
  resp.certificate

variable {lib w}

theorem decodeEcResponse_memory {body priv aes req : Bytes} {ea : CertInfo}
    (h : ∀ inner resp c,Enc.decryptAndUnwrap lib body priv aes 0x81 ea=.ok inner →
      Coer.decode lib.asn.innerEcResponse inner=some resp → resp.certificate=some c →
      Cert.NamesIssuer c) (u v : HashedId8) :
    decodeEcResponse lib u body priv aes req ea=decodeEcResponse lib v body priv aes req ea := by
  unfold decodeEcResponse decodeResponse
  cases hinner : Enc.decryptAndUnwrap lib body priv aes 0x81 ea with
  | error e => rfl
  | ok inner =>
    dsimp only
    cases hresp : Coer.decode lib.asn.innerEcResponse inner with
    | none => rfl
    | some resp =>
      have hcert : resp.certificate.map (responseCertificate lib u "ec_response")=
          resp.certificate.map (responseCertificate lib v "ec_response") := by
        cases hc : resp.certificate with
        | none => rfl
        | some c =>
          have hsame := Cert.fromStruct_of_namesIssuer lib (h inner resp c hinner hresp hc) u v
            (Coer.encode lib.asn.certificateBase c)
          simp only [Option.map_some,responseCertificate,hsame]
      simp only [readResponse,hcert]

/-- An enrolment whose response carries such a certificate, or none, does not depend on
what memory held. -/
theorem requestEnrolmentCredential_memory {canonical : KeyHandle} {rec : EcRecord}
    {s : ClientState} (h : ∀ c,ecAnswered lib w canonical rec s=some c → Cert.NamesIssuer c)
    (mem mem' : Nat → HashedId8) :
    Op.exec (requestEnrolmentCredential lib (w.withMemory mem) canonical rec) s=
      Op.exec (requestEnrolmentCredential lib (w.withMemory mem') canonical rec) s := by
  simp only [requestEnrolmentCredential,Op.exec_bind,Op.exec_ensure,Op.exec_get,exec_enter,
    Op.exec_need,exec_ask,Op.exec_lift,World.withMemory,Answer.nowTai]
  by_cases hvalid : (validateEcRecord rec).isOk=true
  · simp only [if_pos hvalid]
    cases hkp : (w.setting s.events).loadKeypair canonical with
    | none => rfl
    | some kp =>
      cases hea : s.trust.findByHashedId8 rec.eaHashedId8 with
      | none => rfl
      | some ea =>
        simp only [Option.elim_some]
        cases hreq : encodeEcRequest lib (assembleEcRequest rec (w.setting s.events).unixNow) ea
            kp.privateKey.toVector (w.setting s.events).ecEntropy with
        | error e => rfl
        | ok req =>
          dsimp only [ClientState.after]
          cases hbody : okBody (w.answer (.enter::s.events)
              (.post s.config.eaUrl req.encoded.toVector)).response with
          | error e => rfl
          | ok body =>
            dsimp only
            rw [decodeEcResponse_memory (fun inner resp c hinner hresp hc => h c (by
              simp only [ecAnswered,hkp,hea,hreq,hbody,hinner,hresp,hc,Except.toOption,
                Option.bind_eq_bind,Option.bind_some])) (mem 0) (mem' 0)]
  · simp only [if_neg hvalid]

end PkiClient

namespace Cert
variable (lib : Lib) (cert : Asn.CertificateBase) (certCoer : Bytes)

/-- What is parsed from a certificate, and what is decided by it, depends on it alone. -/
structure Determined : Prop where
  sameInfo : ∀ left left',fromStructOn lib (.declared left) cert certCoer=
    fromStructOn lib (.declared left') cert certCoer
  zeroOtherwise : ¬NamesIssuer cert → ∀ left,
    (fromStructOn lib (.declared left) cert certCoer).issuerHashId8=.zero
  samePresence : ∀ (trust : TrustChain) left left',
    trust.issuerChainPresent (fromStructOn lib (.declared left) cert certCoer)=
      trust.issuerChainPresent (fromStructOn lib (.declared left') cert certCoer)
  sameEnrolment : ∀ w canonical rec s,PkiClient.ecAnswered lib w canonical rec s=some cert →
    ∀ mem mem',Op.exec (PkiClient.requestEnrolmentCredential lib (w.withMemory mem) canonical
        rec) s=
      Op.exec (PkiClient.requestEnrolmentCredential lib (w.withMemory mem') canonical rec) s

/-- A parsed certificate is free of leftover memory exactly when its issuer is named by an
identifier of eight octets. -/
theorem fromStruct_determined_iff : Determined lib cert certCoer ↔ NamesIssuer cert := by
  constructor
  · intro h
    by_contra hnot
    have hsame := congrArg CertInfo.issuerHashId8
      (h.sameInfo ⟨.zero,.zero⟩ ⟨.zero,Vector.replicate 8 1⟩)
    rw [fromStructOn_declared,fromStructOn_declared] at hsame
    have hleft : HashedId8.zero=Vector.replicate 8 1 :=
      (parseIssuer_leaves hnot _).symm.trans (hsame.trans (parseIssuer_leaves hnot _))
    exact absurd hleft (by decide)
  · intro h
    have hsame : ∀ left left',fromStructOn lib (.declared left) cert certCoer=
        fromStructOn lib (.declared left') cert certCoer := by
      intro left left'
      rw [fromStructOn_declared,fromStructOn_declared]
      exact fromStruct_of_namesIssuer lib h _ _ certCoer
    refine ⟨hsame,fun hnot => absurd h hnot,?_,?_⟩
    · intro trust left left'
      rw [hsame left left']
    · intro w canonical rec s hanswer mem mem'
      apply PkiClient.requestEnrolmentCredential_memory
      intro c hc
      rw [hanswer] at hc
      obtain rfl : cert=c := Option.some.inj hc
      exact h

section
open Sample

def soleCa : Coded Asn.CertificateBase := selfSigned 5 []

def soleLib : Lib := Sample.lib {certs := [soleCa],bodies := [tbs 5 []]}

/-- The CA as it is read into storage that held `left`. -/
def soleInfo (left : Leftover) : CertInfo := fromStructOn soleLib (.declared left) soleCa.2 soleCa.1

/-- Storage that held the identifier of a trusted certificate makes a self-signed certificate
look as if its issuer were known; cleared storage does not. -/
theorem soleCa_not_determined :
    (soleInfo ⟨.zero,.zero⟩).isSelfSigned=true ∧
    (TrustChain.empty.addCert (soleInfo ⟨.zero,.zero⟩)).issuerChainPresent
      (soleInfo ⟨.zero,.zero⟩)=false ∧
    (TrustChain.empty.addCert (soleInfo ⟨.zero,.zero⟩)).issuerChainPresent
      (soleInfo ⟨.zero,(soleInfo ⟨.zero,.zero⟩).hashedId8⟩)=true ∧
    ¬Determined soleLib soleCa.2 soleCa.1 := by
  have hcleared : (TrustChain.empty.addCert (soleInfo ⟨.zero,.zero⟩)).issuerChainPresent
      (soleInfo ⟨.zero,.zero⟩)=false := by decide +kernel
  have hfound : (TrustChain.empty.addCert (soleInfo ⟨.zero,.zero⟩)).issuerChainPresent
      (soleInfo ⟨.zero,(soleInfo ⟨.zero,.zero⟩).hashedId8⟩)=true := by decide +kernel
  refine ⟨by decide +kernel,hcleared,hfound,?_⟩
  intro h
  have hsame := h.samePresence (TrustChain.empty.addCert (soleInfo ⟨.zero,.zero⟩)) ⟨.zero,.zero⟩
    ⟨.zero,(soleInfo ⟨.zero,.zero⟩).hashedId8⟩
  exact absurd (hcleared.symm.trans (hsame.trans hfound)) (by decide)

end

end Cert

end V2xPki
