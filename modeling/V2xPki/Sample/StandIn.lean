import V2xPki.Crypto.Laws
import V2xPki.Trust.TrustList

/- An executable library for concrete inputs. The cryptographic primitives are small
stand-ins with the interface of the real ones: a checksum for a hash, a public point that
shows its scalar. The encodings are canonical OER of the schemas under `asn/`, for the few
shapes of values that occur. -/

namespace V2xPki.Sample

open Framework

def mix (data : Bytes) : Nat :=
  data.foldl (fun h b => (h*257+b.toNat+1)%(2^255-19)) 7

def checksum (n : Nat) (data : Bytes) : Vector UInt8 n :=
  ⟨(binpad n (mix data)).toArray,by simp⟩

def pointOf (curve : Curve) (d : Nat) : Bytes :=
  0x04::(binpad curve.scalarLen d++binpad curve.scalarLen d)

def xOf (curve : Curve) (point : Bytes) : Nat := natOfBytes (point.tail.take curve.scalarLen)

def ssl : OpenSsl where
  sha256 := checksum 32
  sha384 := checksum 48
  hmacSha256 key data := checksum 32 (key++data)
  decompress curve pub := some (pointOf curve (natOfBytes pub.tail))
  publicOk _ _ := true
  publicOf curve d := some (pointOf curve d)
  sign _ d digest _ := some (d,natOfBytes digest)
  verify curve pub digest rs := rs==(xOf curve pub,natOfBytes digest)
  derive curve d pub := some (binpad curve.scalarLen (d*xOf curve pub%2^256))
  ccmEncrypt _ _ plaintext := some (plaintext,List.replicate 16 0x5a)
  ccmDecrypt _ _ ciphertext tag :=
    if tag=List.replicate 16 0x5a then some ciphertext else none

theorem xOf_pointOf {curve : Curve} {d : Nat} (h : d<256^curve.scalarLen) :
    xOf curve (pointOf curve d)=d := by
  unfold xOf pointOf
  rw [List.tail_cons,List.take_left' (binpad_length _ _),natOfBytes_binpad h]

/-- The stand-ins behave as the primitives are documented to. -/
def sslLaws : CryptoLaws ssl where
  order c := 256^c.scalarLen
  order_le _ := Nat.le_refl _
  exported := by
    intro c d p _ _ h
    obtain rfl : pointOf c d=p := Option.some.inj h
    refine ⟨?_,rfl,rfl⟩
    rw [pointOf,List.length_cons,List.length_append,binpad_length,Curve.pubkeyLen_eq]
    omega
  decompressed := by
    intro c d p _ hd h
    obtain rfl : pointOf c d=p := Option.some.inj h
    have hx : natOfBytes (compressedPoint c (pointOf c d)).tail=d := xOf_pointOf hd
    exact congrArg (fun n => some (pointOf c n)) hx
  signed := by
    intro c d p digest _ _ hd h hdigest
    obtain rfl : pointOf c d=p := Option.some.inj h
    have hlt := natOfBytes_lt digest
    have hlen : digest.length=c.scalarLen := by rw [hdigest]; cases c <;> rfl
    rw [hlen] at hlt
    refine ⟨(d,natOfBytes digest),rfl,hd,hlt,?_⟩
    simp [ssl,xOf_pointOf hd]
  agreed := by
    intro c d e p q _ hd hp _ he hq
    obtain rfl : pointOf c d=p := Option.some.inj hp
    obtain rfl : pointOf c e=q := Option.some.inj hq
    simp [ssl,xOf_pointOf hd,xOf_pointOf he,Nat.mul_comm]
  opened := by
    intro key nonce plain ciphertext tag h
    obtain ⟨rfl,rfl⟩ := Prod.mk.inj (Option.some.inj h)
    exact ⟨by simp [kAesCcmTagLen],by simp [ssl]⟩

/-- A value together with its encoding. -/
abbrev Coded (α : Type) := Bytes × α

def coded {α : Type} [DecidableEq α] (entries : List (Coded α)) : Descriptor α where
  toCodec := Codec.table entries
  decodeBasic := (Codec.table entries).decode

/-- A length determinant of canonical OER, for lengths below 2^16. -/
def coerLength (n : Nat) : Bytes :=
  if n<128 then [UInt8.ofNat n]
  else if n<256 then [0x81,UInt8.ofNat n]
  else [0x82,UInt8.ofNat (n/256),UInt8.ofNat n]

/-- The entries of an `appPermissions`, each a psid of one octet and no more. -/
def psidsIn : Bytes → List (Option Asn.PsidSsp)
  | _::_::psid::rest => some ⟨psid.toUInt64,none⟩::psidsIn rest
  | _ => []

/-- A signing-key certificate body, valid for thirty years from the epoch. `apps` holds
the octets of its `appPermissions`, a count in three of them first, or nothing when there are
none. -/
def tbs (key : Nat) (apps : Bytes) : Coded Asn.ToBeSignedCertificate :=
  ((if apps.isEmpty then [0x08] else [0x18])++[0x83,0,0,0,0,0,0,0,0,0,0x86,0,30]++apps++
      [1,0,0x80,0x80,0x82]++binpad 32 key,
    {id := some (.other [0x83])
     cracaId := [0,0,0]
     crlSeries := 0
     validityPeriod := some ⟨0,some (.years 30)⟩
     appPermissions := if apps.isEmpty then none else some (psidsIn (apps.drop 3))
     certIssuePermissions := some []
     encryptionKey := none
     verifyKeyIndicator := some (.verificationKey (some (.ecdsaNistP256
       (some (.compressedY0 (binpad 32 key))))))
     others := []})

/-- The signature of `signerKey` over a body, as an OER `Signature`. -/
def signature (signerKey : Nat) (tbsCoer signerInput : Bytes) : Coded Asn.Signature :=
  let digest := (checksum 32 ((checksum 32 tbsCoer).toList++(checksum 32 signerInput).toList)).toList
  ([0x80,0x80]++binpad 32 signerKey++digest,
    .ecdsaNistP256Signature (some ⟨some (.xOnly (binpad 32 signerKey)),digest⟩))

def cert (issuer : Coded Asn.IssuerIdentifier) (body : Coded Asn.ToBeSignedCertificate)
    (sig : Coded Asn.Signature) : Coded Asn.CertificateBase :=
  ([0x80,3,0]++issuer.1++body.1++sig.1,
    ⟨3,.explicit,some issuer.2,some body.2,some sig.2⟩)

def selfSigned (key : Nat) (apps : Bytes) : Coded Asn.CertificateBase :=
  cert ([0x81,0],.self .sha256) (tbs key apps) (signature key (tbs key apps).1 [])

/-- A certificate issued by the holder of `issuerKey` under the certificate `issuer`. -/
def issuedBody (issuerKey : Nat) (issuer : Coded Asn.CertificateBase)
    (body : Coded Asn.ToBeSignedCertificate) : Coded Asn.CertificateBase :=
  let hid8 := ((checksum 32 issuer.1).toList.drop 24)
  cert (0x80::hid8,.sha256AndDigest hid8) body (signature issuerKey body.1 issuer.1)

def issued (issuerKey : Nat) (issuer : Coded Asn.CertificateBase) (key : Nat) (apps : Bytes) :
    Coded Asn.CertificateBase :=
  let hid8 := ((checksum 32 issuer.1).toList.drop 24)
  cert (0x80::hid8,.sha256AndDigest hid8) (tbs key apps)
    (signature issuerKey (tbs key apps).1 issuer.1)

/-- The signed part of an envelope around `payload`. -/
def signedBody (payload : Bytes) : Coded Asn.ToBeSignedData :=
  ([0x40,3,0x80]++coerLength payload.length++payload++[0,2,2,0x6f],
    ⟨some ⟨some ⟨3,some (.unsecuredData payload)⟩,none⟩,some ⟨623,none,[]⟩⟩)

/-- An envelope around `payload`, signed by the holder of `key` under the certificate
`signer` and naming that certificate by digest. -/
def signedEnvelope (key : Nat) (signer : Coded Asn.CertificateBase) (payload : Bytes) :
    Coded Asn.Ieee1609Dot2Data :=
  let body := signedBody payload
  let sig := signature key body.1 signer.1
  let hid8 := (checksum 32 signer.1).toList.drop 24
  ([3,0x81,0]++body.1++0x80::hid8++sig.1,
    ⟨3,some (.signedData (some ⟨.sha256,some body.2,some (.digest hid8),some sig.2⟩))⟩)

/-- A response encrypted under the key of the request. -/
def pskEnvelope (plaintext : Bytes) : Coded Asn.Ieee1609Dot2Data :=
  let nonce := List.replicate 12 1
  let sealed := plaintext++List.replicate 16 0x5a
  ([3,0x82,1,1,0x80]++List.replicate 8 0++0x80::nonce++coerLength sealed.length++sealed,
    ⟨3,some (.encryptedData (some ⟨some [some (.pskRecipInfo (List.replicate 8 0))],
      some (.aes128ccm (some ⟨nonce,sealed⟩))⟩))⟩)

/-- An inner response to `request`. -/
def innerResponse (request : Bytes) (code : UInt8)
    (certificate : Option (Coded Asn.CertificateBase)) : Coded Asn.InnerResponse :=
  let hash := (checksum 32 request).toList.take 16
  (match certificate with
    | none => 0::hash++[code]
    | some c => 0x40::hash++code::c.1,
    ⟨hash,code.toNat,certificate.map (·.2)⟩)

def rcaEntry (c : Coded Asn.CertificateBase) : Coded Asn.CtlEntry :=
  (0x80::0::c.1,.rca (some ⟨some c.2,none⟩))

/-- A full list of `add` commands with no `nextUpdate`, as an ECTL payload. -/
def ectl (entries : List (Coded Asn.CtlEntry)) : Coded Asn.EtsiTs102941Data :=
  ([1,0x85,0,1,1,0,0,0,0,0xff,0,1,UInt8.ofNat entries.length]++
      entries.flatMap (fun e => 0x80::e.1),
    ⟨1,some (.certificateTrustListTlm (some
      ⟨0,true,0,entries.map fun e => some (.add (some e.2))⟩))⟩)

/-- A distribution centre that serves the listed identifiers. -/
def dcEntry (url : String) (serves : List HashedId8) : Coded Asn.CtlEntry :=
  (0x83::coerLength (bytesOfString url).length++bytesOfString url++
      [1,UInt8.ofNat serves.length]++serves.flatMap (·.toList),
    .dc (some ⟨bytesOfString url,serves.map fun h => some h.toList⟩))

/-- A full list of `add` commands, as the CTL payload of a root CA. -/
def rcaCtl (nextUpdate : UInt32) (entries : List (Coded Asn.CtlEntry)) :
    Coded Asn.EtsiTs102941Data :=
  ([1,0x86,0,1,1]++binpad 4 nextUpdate.toNat++[0xff,0,1,UInt8.ofNat entries.length]++
      entries.flatMap (fun e => 0x80::e.1),
    ⟨1,some (.certificateTrustListRca (some
      ⟨nextUpdate,true,0,entries.map fun e => some (.add (some e.2))⟩))⟩)

/-- A revocation list. -/
def crlPayload (thisUpdate nextUpdate : UInt32) (entries : List HashedId8) :
    Coded Asn.EtsiTs102941Data :=
  ([1,0x84,0,1,1]++binpad 4 thisUpdate.toNat++binpad 4 nextUpdate.toNat++
      [1,UInt8.ofNat entries.length]++entries.flatMap (·.toList),
    ⟨1,some (.certificateRevocationList (some
      ⟨thisUpdate,nextUpdate,entries.map fun e => some e.toList⟩))⟩)

/-- The tables a concrete library is built from. -/
structure Tables where
  certs : List (Coded Asn.CertificateBase) := []
  bodies : List (Coded Asn.ToBeSignedCertificate) := []
  envelopes : List (Coded Asn.Ieee1609Dot2Data) := []
  signedBodies : List (Coded Asn.ToBeSignedData) := []
  payloads : List (Coded Asn.EtsiTs102941Data) := []
  ecResponses : List (Coded Asn.InnerResponse) := []
  atResponses : List (Coded Asn.InnerResponse) := []

/-- Requests are built by the library and only read by its peers, so their encodings
just have to be non-empty. -/
def written (α : Type) (octets : Bytes) : Descriptor α where
  encode _ := some octets
  decode _ := none
  decodeBasic _ := none

def lib (t : Tables) : Lib where
  asn :=
    {certificateBase := coded t.certs
     etsiTs103097Certificate := coded t.certs
     toBeSignedCertificate := coded t.bodies
     publicVerificationKey := written _ [0x80,0x82]
     ieee1609Dot2Data := coded t.envelopes
     toBeSignedData := coded t.signedBodies
     etsiTs102941Data := coded t.payloads
     innerEcRequest := written _ [0x0c]
     innerEcResponse := coded t.ecResponses
     sharedAtRequest := written _ [0x40]
     innerAtRequest := written _ [0x00]
     innerAtResponse := coded t.atResponses}
  ssl := ssl

def signedBodyOctets : Asn.ToBeSignedData → Option Bytes
  | ⟨some ⟨some ⟨3,some (.unsecuredData payload)⟩,none⟩,some ⟨623,time,[]⟩⟩ =>
      some ([0x40,3,0x80]++coerLength payload.length++payload++
        (match time with
          | none => [0,2,2,0x6f]
          | some t => [0x40,2,2,0x6f]++binpad 8 t.toNat))
  | _ => none

def signerOctets : Asn.SignerIdentifier → Option Bytes
  | .digest hid8 => some (0x80::hid8)
  | .self => some [0x82]
  | .certificate _ => none

def signatureOctets : Asn.Signature → Option Bytes
  | .ecdsaNistP256Signature (some ⟨some (.xOnly r),s⟩) => some ([0x80,0x80]++r++s)
  | _ => none

def pointOctets : Asn.CurvePoint → Option Bytes
  | .compressedY0 x => some (0x82::x)
  | .compressedY1 x => some (0x83::x)
  | _ => none

/-- The envelopes a request is made of. -/
def envelopeOctets : Asn.Ieee1609Dot2Data → Option Bytes
  | ⟨3,some (.signedData (some ⟨.sha256,some body,some signer,some sig⟩))⟩ => do
      some ([3,0x81,0]++(← signedBodyOctets body)++(← signerOctets signer)++
        (← signatureOctets sig))
  | ⟨3,some (.encryptedData (some ⟨some [some (.certRecipInfo (some ⟨hid8,
        some (.eciesNistP256 (some ⟨some v,c,t⟩))⟩))],
        some (.aes128ccm (some ⟨nonce,sealed⟩))⟩))⟩ => do
      some ([3,0x82,1,1,0x82]++hid8++[0x80]++(← pointOctets v)++c++t++0x80::nonce++
        coerLength sealed.length++sealed)
  | _ => none

def innerEcRequestOctets : Asn.InnerEcRequest → Option Bytes
  | ⟨itsId,format,some ⟨some (.ecdsaNistP256 (some v)),none⟩,
      some ⟨some ⟨start,some (.hours n)⟩,some [psid]⟩⟩ => do
      some (0::coerLength itsId.length++itsId++UInt8.ofNat format::0::0x80::(← pointOctets v)++
        0x24::binpad 4 start.toNat++0x84::binpad 2 n.toNat++[1,1,0,2]++binpad 2 psid.toNat)
  | _ => none

/-- The library with encoders for whatever a request holds; what is read stays in tables. -/
def enrolLib (t : Tables) : Lib :=
  let base := lib t
  {base with asn := {base.asn with
    ieee1609Dot2Data := {base.asn.ieee1609Dot2Data with encode := envelopeOctets}
    toBeSignedData := {base.asn.toBeSignedData with encode := signedBodyOctets}
    innerEcRequest := {base.asn.innerEcRequest with encode := innerEcRequestOctets}}}

def enrolLaws (t : Tables) : CryptoLaws (enrolLib t).ssl := sslLaws

theorem keyPairOn_pointOf {d : Nat} (hpos : 0<d) (hlt : d<256^32) :
    KeyPairOn sslLaws .nistP256 (binpad 32 d) (pointOf .nistP256 d) :=
  KeyPairOn.of_scalar hpos hlt rfl

/-- The key pair of a scalar. -/
def keyPair (d : Nat) : KeyPair := ⟨.orEmpty (pointOf .nistP256 d),.orEmpty (binpad 32 d)⟩

theorem lib_certificateCodec (t : Tables) (h : Codec.PrefixFree t.certs) :
    CertificateCodec (lib t).asn where
  roundTrip := Codec.table_roundTrip t.certs h
  etsi_encode _ := rfl

/-- What tells the stand-ins of the curves apart. -/
def curveTag : Curve → Nat
  | .nistP256 => 0
  | .brainpoolP256r1 => 2
  | .nistP384 => 4
  | .brainpoolP384r1 => 6

def pointOn (curve : Curve) (d : Nat) : Bytes :=
  0x04::(binpad curve.scalarLen d++binpad curve.scalarLen (d+curveTag curve))

def orderOn (curve : Curve) : Nat := 256^curve.scalarLen-8

/-- Stand-ins under which no uncompressed point and no signature of one curve is good on
another, while a compressed point can be read on each. On NIST P-256 they are those above. -/
def curvedSsl : OpenSsl := {ssl with
  decompress := fun curve pub => some (pointOn curve (natOfBytes pub.tail))
  publicOk := fun curve p => p==pointOn curve (xOf curve p)
  publicOf := fun curve d => some (pointOn curve d)
  sign := fun curve d digest _ => some (d,(natOfBytes digest+curveTag curve)%orderOn curve)
  verify := fun curve p digest rs => p==pointOn curve rs.1 &&
    rs.2==(natOfBytes digest+curveTag curve)%orderOn curve}

theorem orderOn_pos (curve : Curve) : 0<orderOn curve := by
  cases curve <;> decide +kernel

theorem xOf_pointOn {curve : Curve} {d : Nat} (h : d<256^curve.scalarLen) :
    xOf curve (pointOn curve d)=d := by
  unfold xOf pointOn
  rw [List.tail_cons,List.take_left' (binpad_length _ _),natOfBytes_binpad h]

theorem xOf_key {curve : Curve} {d : Nat} (h : d<orderOn curve) : xOf curve (pointOn curve d)=d :=
  xOf_pointOn (h.trans_le (Nat.sub_le _ _))

theorem pointOn_length (curve : Curve) (d : Nat) : (pointOn curve d).length=curve.pubkeyLen := by
  rw [pointOn,List.length_cons,List.length_append,binpad_length,binpad_length,Curve.pubkeyLen_eq]
  omega

def curvedLaws : CryptoLaws curvedSsl where
  order := orderOn
  order_le _ := Nat.sub_le _ _
  exported := by
    intro c d p _ hd h
    obtain rfl : pointOn c d=p := Option.some.inj h
    have hx := xOf_key hd
    refine ⟨pointOn_length c d,rfl,?_⟩
    simp [curvedSsl,hx]
  decompressed := by
    intro c d p _ hd h
    obtain rfl : pointOn c d=p := Option.some.inj h
    have hx : natOfBytes (compressedPoint c (pointOn c d)).tail=d := xOf_key hd
    exact congrArg (fun n => some (pointOn c n)) hx
  signed := by
    intro c d p digest _ _ hd h _
    obtain rfl : pointOn c d=p := Option.some.inj h
    refine ⟨_,rfl,hd,Nat.mod_lt _ (orderOn_pos c),?_⟩
    simp [curvedSsl]
  agreed := by
    intro c d e p q _ hd hp _ he hq
    obtain rfl : pointOn c d=p := Option.some.inj hp
    obtain rfl : pointOn c e=q := Option.some.inj hq
    show some _=some _
    rw [xOf_key hd,xOf_key he,Nat.mul_comm]
  opened := sslLaws.opened

end V2xPki.Sample
