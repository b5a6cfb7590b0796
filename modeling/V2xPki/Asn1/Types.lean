import V2xPki.Data.Bytes

/- The structures asn1c generates from the schemas under `asn/`, as far as the
library reads or fills them. A pointer the library tests for null is an `Option`;
an alternative or a group of components that no function looks into keeps its
octets in one field, so that two values with different encodings stay different. -/

namespace V2xPki.Asn

/-- `EccP256CurvePoint` and `EccP384CurvePoint`. -/
inductive CurvePoint where
  | xOnly (x : Bytes)
  | fill
  | compressedY0 (x : Bytes)
  | compressedY1 (x : Bytes)
  | uncompressed (x y : Bytes)
deriving DecidableEq

/-- `EcdsaP256Signature` and `EcdsaP384Signature`. -/
structure EcdsaSignature where
  rSig : Option CurvePoint
  sSig : Bytes
deriving DecidableEq

inductive Signature where
  | ecdsaNistP256Signature (sig : Option EcdsaSignature)
  | ecdsaBrainpoolP256r1Signature (sig : Option EcdsaSignature)
  | ecdsaBrainpoolP384r1Signature (sig : Option EcdsaSignature)
  | ecdsaNistP384Signature (sig : Option EcdsaSignature)
  | other (octets : Bytes)
deriving DecidableEq

inductive PublicVerificationKey where
  | ecdsaNistP256 (point : Option CurvePoint)
  | ecdsaBrainpoolP256r1 (point : Option CurvePoint)
  | ecdsaBrainpoolP384r1 (point : Option CurvePoint)
  | ecdsaNistP384 (point : Option CurvePoint)
  | other (octets : Bytes)
deriving DecidableEq

inductive VerificationKeyIndicator where
  | verificationKey (key : Option PublicVerificationKey)
  | other (octets : Bytes)
deriving DecidableEq

inductive BasePublicEncryptionKey where
  | eciesNistP256 (point : Option CurvePoint)
  | eciesBrainpoolP256r1 (point : Option CurvePoint)
  | other (octets : Bytes)
deriving DecidableEq

structure PublicEncryptionKey where
  supportedSymmAlg : Nat
  publicKey : Option BasePublicEncryptionKey
deriving DecidableEq

inductive HashAlgorithm where
  | sha256
  | sha384
  | other (value : Nat)
deriving DecidableEq

inductive IssuerIdentifier where
  | sha256AndDigest (digest : Bytes)
  | self (hash : HashAlgorithm)
  | sha384AndDigest (digest : Bytes)
  | other (octets : Bytes)
deriving DecidableEq

/-- `other` is a choice in which no known alternative is set. -/
inductive Duration where
  | microseconds (count : UInt16)
  | milliseconds (count : UInt16)
  | seconds (count : UInt16)
  | minutes (count : UInt16)
  | hours (count : UInt16)
  | sixtyHours (count : UInt16)
  | years (count : UInt16)
  | other
deriving DecidableEq

structure ValidityPeriod where
  start : UInt32
  duration : Option Duration
deriving DecidableEq

inductive CertificateId where
  | name (hostname : Bytes)
  | other (octets : Bytes)
deriving DecidableEq

structure PsidSsp where
  psid : UInt64
  ssp : Option Bytes
deriving DecidableEq

structure ToBeSignedCertificate where
  id : Option CertificateId
  cracaId : Bytes
  crlSeries : UInt16
  validityPeriod : Option ValidityPeriod
  appPermissions : Option (List (Option PsidSsp))
  certIssuePermissions : Option (List Bytes)
  encryptionKey : Option PublicEncryptionKey
  verifyKeyIndicator : Option VerificationKeyIndicator
  others : Bytes
deriving DecidableEq

inductive CertificateType where
  | explicit
  | implicit
deriving DecidableEq

structure CertificateBase where
  version : Nat
  type : CertificateType
  issuer : Option IssuerIdentifier
  toBeSigned : Option ToBeSignedCertificate
  signature : Option Signature
deriving DecidableEq

/-- The content of the `Ieee1609Dot2Data` inside a signed payload. -/
inductive PayloadContent where
  | unsecuredData (opaqueData : Bytes)
  | other (octets : Bytes)
deriving DecidableEq

structure PayloadData where
  protocolVersion : Nat
  content : Option PayloadContent
deriving DecidableEq

inductive HashedData where
  | sha256HashedData (digest : Bytes)
  | sha384HashedData (digest : Bytes)
  | other (octets : Bytes)
deriving DecidableEq

structure SignedDataPayload where
  data : Option PayloadData
  extDataHash : Option HashedData
deriving DecidableEq

structure HeaderInfo where
  psid : Nat
  generationTime : Option UInt64
  others : Bytes
deriving DecidableEq

structure ToBeSignedData where
  payload : Option SignedDataPayload
  headerInfo : Option HeaderInfo
deriving DecidableEq

inductive SignerIdentifier where
  | digest (hashedId8 : Bytes)
  | certificate (octets : Bytes)
  | self
deriving DecidableEq

structure SignedData where
  hashId : HashAlgorithm
  tbsData : Option ToBeSignedData
  signer : Option SignerIdentifier
  signature : Option Signature
deriving DecidableEq

structure EciesP256EncryptedKey where
  v : Option CurvePoint
  c : Bytes
  t : Bytes
deriving DecidableEq

inductive EncryptedDataEncryptionKey where
  | eciesNistP256 (key : Option EciesP256EncryptedKey)
  | eciesBrainpoolP256r1 (key : Option EciesP256EncryptedKey)
  | other (octets : Bytes)
deriving DecidableEq

structure PKRecipientInfo where
  recipientId : Bytes
  encKey : Option EncryptedDataEncryptionKey
deriving DecidableEq

inductive RecipientInfo where
  | pskRecipInfo (hashedId8 : Bytes)
  | certRecipInfo (info : Option PKRecipientInfo)
  | other (octets : Bytes)
deriving DecidableEq

structure One28BitCcmCiphertext where
  nonce : Bytes
  ccmCiphertext : Bytes
deriving DecidableEq

inductive SymmetricCiphertext where
  | aes128ccm (ciphertext : Option One28BitCcmCiphertext)
  | other (octets : Bytes)
deriving DecidableEq

structure EncryptedData where
  recipients : Option (List (Option RecipientInfo))
  ciphertext : Option SymmetricCiphertext
deriving DecidableEq

inductive Ieee1609Dot2Content where
  | unsecuredData (opaqueData : Bytes)
  | signedData (data : Option SignedData)
  | encryptedData (data : Option EncryptedData)
  | other (octets : Bytes)
deriving DecidableEq

structure Ieee1609Dot2Data where
  protocolVersion : Nat
  content : Option Ieee1609Dot2Content
deriving DecidableEq

structure RootCaEntry where
  selfsignedRootCa : Option CertificateBase
  successorTo : Option CertificateBase
deriving DecidableEq

structure EaEntry where
  eaCertificate : Option CertificateBase
  aaAccessPoint : Bytes
  itsAccessPoint : Option Bytes
deriving DecidableEq

structure AaEntry where
  aaCertificate : Option CertificateBase
  accessPoint : Bytes
deriving DecidableEq

structure DcEntry where
  url : Bytes
  cert : List (Option Bytes)
deriving DecidableEq

structure TlmEntry where
  selfSignedTLMCertificate : Option CertificateBase
  others : Bytes
deriving DecidableEq

inductive CtlEntry where
  | rca (entry : Option RootCaEntry)
  | ea (entry : Option EaEntry)
  | aa (entry : Option AaEntry)
  | dc (entry : Option DcEntry)
  | tlm (entry : Option TlmEntry)
  | other (octets : Bytes)
deriving DecidableEq

inductive CtlCommand where
  | add (entry : Option CtlEntry)
  | other (octets : Bytes)
deriving DecidableEq

structure CtlFormat where
  nextUpdate : UInt32
  isFullCtl : Bool
  ctlSequence : UInt8
  ctlCommands : List (Option CtlCommand)
deriving DecidableEq

structure ToBeSignedCrl where
  thisUpdate : UInt32
  nextUpdate : UInt32
  entries : List (Option Bytes)
deriving DecidableEq

inductive EtsiTs102941DataContent where
  | certificateTrustListTlm (ctl : Option CtlFormat)
  | certificateTrustListRca (ctl : Option CtlFormat)
  | certificateRevocationList (crl : Option ToBeSignedCrl)
  | other (octets : Bytes)
deriving DecidableEq

structure EtsiTs102941Data where
  version : Nat
  content : Option EtsiTs102941DataContent
deriving DecidableEq

structure PublicKeys where
  verificationKey : Option PublicVerificationKey
  encryptionKey : Option PublicEncryptionKey
deriving DecidableEq

structure CertificateSubjectAttributes where
  validityPeriod : Option ValidityPeriod
  appPermissions : Option (List UInt64)
deriving DecidableEq

structure InnerEcRequest where
  itsId : Bytes
  certificateFormat : Nat
  publicKeys : Option PublicKeys
  requestedSubjectAttributes : Option CertificateSubjectAttributes
deriving DecidableEq

/-- `InnerEcResponse` and `InnerAtResponse`. -/
structure InnerResponse where
  requestHash : Bytes
  responseCode : Int
  certificate : Option CertificateBase
deriving DecidableEq

structure SharedAtRequest where
  eaId : Bytes
  keyTag : Bytes
  certificateFormat : Nat
  requestedSubjectAttributes : Option CertificateSubjectAttributes
deriving DecidableEq

inductive EcSignature where
  | encryptedEcSignature (data : Option Ieee1609Dot2Data)
  | other (octets : Bytes)
deriving DecidableEq

structure InnerAtRequest where
  publicKeys : Option PublicKeys
  hmacKey : Bytes
  sharedAtRequest : Option SharedAtRequest
  ecSignature : Option EcSignature
deriving DecidableEq

end V2xPki.Asn
