/-
Concrete functions for the third-party crates.

Hashing and CBOR are computed.  The certificate and CMS crates are given for
the seals of one signer: the encodings are real, every seal has the same shape
around a manifest digest and a signature, and which signatures verify is
listed.
-/

import Hoike.Library.Sha256
import Hoike.Ahu.ManifestCodec
import Hoike.Ahu.Seal

namespace Hoike
namespace Crates

open Ahu

@[reducible] def sha2 : Sha2 :=
  { sha256 := Sha256.digest }

@[reducible] def ciborium : Ciborium :=
  { intoWriter := Cbor.encode
    fromReader := fun bytes =>
      match Cbor.decode bytes with
      | some value => .ok value
      | none => .error "not a definite-length item" }

theorem fromReader_intoWriter {value : Cbor.Value} (encodable : Cbor.Encodable value) :
    @Ciborium.fromReader ciborium (@Ciborium.intoWriter ciborium value) = .ok value := by
  unfold Ciborium.fromReader ciborium
  dsimp only
  rw [Cbor.decode_encode encodable]

theorem readsBack {manifest : Manifest} (plain : manifest.extensions = none)
    (short : (@Manifest.toCbor ciborium manifest).length < 18446744073709551616) :
    @Manifest.ReadsBack ciborium manifest := by
  unfold Manifest.toCbor at short
  unfold Manifest.ReadsBack Manifest.toCbor
  apply fromReader_intoWriter
  exact Cbor.encodable_of_length _ (Manifest.inRange_toMap plain) short

/-! ### One signer -/

/-- The certificate of the signer, with subject `CN=seal` and a P-256 key. -/
def signerDer : Bytes :=
  Bytes.unpack 321
    0x3082013d3081e4a003020102020107300a06082a8648ce3d040302300f310d300b06035504030c047365616c301e170d3236313131353032343732375a170d3436303131343032343732375a300f310d300b06035504030c047365616c3059301306072a8648ce3d020106082a8648ce3d03010703420004b71e1ba0fdec174b770e68036320c47108e348becc1fe1fd66374f218947b161b7d8558351faf32b03c77cb308bf0fab4203e9714625e6cd81ae7cc2f4c684e0a331302f300e0603551d0f0101ff040403020780301d0603551d0e041604140972f10a163fed3fdb28ae00985a69e0a4e96961300a06082a8648ce3d0403020348003045022100ba8cbd693e4bac9d6b1b0ef9d4289e53b08fdf1e889418dff661d2cca7bfa49102205f36b1b756edbc1c35713a1b0fa61abdc4248dacb7c4cd4270394575f6281553 []

def signerName : Bytes := Bytes.unpack 17 0x300f310d300b06035504030c047365616c []

def signerKey : Bytes :=
  Bytes.unpack 65
    0x04b71e1ba0fdec174b770e68036320c47108e348becc1fe1fd66374f218947b161b7d8558351faf32b03c77cb308bf0fab4203e9714625e6cd81ae7cc2f4c684e0 []

def prime256v1Der : Bytes := Bytes.unpack 10 0x06082a8648ce3d030107 []

def idDataDer : Bytes := Bytes.unpack 11 0x06092a864886f70d010701 []

def signer : Certificate :=
  { der := .ok signerDer
    tbsDer := .ok ((signerDer.drop 4).take 231)
    issuer := signerName
    subject := signerName
    subjectText := "CN=seal"
    serialNumber := [7]
    notBefore := 1794710847
    notAfter := 2399510847
    extensions := some ["2.5.29.15", "2.5.29.14"]
    keyUsage := .ok (some { digitalSignature := true, keyCertSign := false })
    basicConstraintsCa := .ok none
    subjectKeyIdentifier := some ((signerDer.drop 215).take 20)
    tbsSignature := { oid := idEcdsaSha256, parameters := none }
    signatureAlgorithm := { oid := idEcdsaSha256, parameters := none }
    signature := some (signerDer.drop 250)
    keyAlgorithm :=
      { oid := idEcPublicKey
        parameters := some prime256v1Der }
    publicKey := some signerKey }

/-! ### Its seals -/

def attributesFront : Bytes :=
  Bytes.unpack 43
    0x301806092a864886f70d010903310b06092a864886f70d010701302f06092a864886f70d01090431220420 []

def attributesDer (digest : Bytes) : Bytes :=
  [0x31, 0x4b] ++ (attributesFront ++ digest)

def sealFront : Bytes :=
  Bytes.unpack 468
    0x3082024406092a864886f70d010702a082023530820231020101310d300b0609608648016503040201300b06092a864886f70d010701a08201413082013d3081e4a003020102020107300a06082a8648ce3d040302300f310d300b06035504030c047365616c301e170d3236313131353032343732375a170d3436303131343032343732375a300f310d300b06035504030c047365616c3059301306072a8648ce3d020106082a8648ce3d03010703420004b71e1ba0fdec174b770e68036320c47108e348becc1fe1fd66374f218947b161b7d8558351faf32b03c77cb308bf0fab4203e9714625e6cd81ae7cc2f4c684e0a331302f300e0603551d0f0101ff040403020780301d0603551d0e041604140972f10a163fed3fdb28ae00985a69e0a4e96961300a06082a8648ce3d0403020348003045022100ba8cbd693e4bac9d6b1b0ef9d4289e53b08fdf1e889418dff661d2cca7bfa49102205f36b1b756edbc1c35713a1b0fa61abdc4248dacb7c4cd4270394575f62815533181ca3081c70201013014300f310d300b06035504030c047365616c020107300b0609608648016503040201a04b301806092a864886f70d010903310b06092a864886f70d010701302f06092a864886f70d01090431220420 []

def sealMiddle : Bytes := Bytes.unpack 14 0x300a06082a8648ce3d0403020446 []

def sealOf (digest signature : Bytes) : Bytes :=
  sealFront ++ (digest ++ (sealMiddle ++ signature))

def sealParts (bytes : Bytes) : Option (Bytes × Bytes) :=
  let digest := (bytes.drop 468).take 32
  let signature := bytes.drop 514
  if sealOf digest signature = bytes then some (digest, signature) else none

def signedData (digest signature : Bytes) : SignedData :=
  { digestAlgorithms := [idSha256]
    contentType := idData
    hasContent := false
    certificates := some [.certificate signer]
    signerInfos := [
      { sid := .issuerAndSerialNumber signerName [7]
        digestAlg := idSha256
        signedAttrs := some [
          { oid := idContentType, values := [idDataDer] },
          { oid := idMessageDigest, values := [[0x04, 0x20] ++ digest] }]
        signedAttrsDer := .ok (attributesDer digest)
        signatureAlgorithm := idEcdsaSha256
        signature := signature }] }

/-- The crates for this signer.  `signatures` lists its signatures by the
digest of the manifest they seal. -/
@[reducible] def pki (signatures : List (Octets 32 × Bytes)) : Pki :=
  { contentInfoFromDer := fun bytes =>
      match sealParts bytes with
      | some _ => .ok { contentType := idSignedData, content := bytes.drop 19 }
      | none => .error "unexpected ASN.1 DER"
    signedDataFromDer := fun content =>
      match sealParts (sealFront.take 19 ++ content) with
      | some (digest, signature) => .ok (signedData digest signature)
      | none => .error "unexpected ASN.1 DER"
    certificateFromDer := fun bytes =>
      if bytes = signerDer then .ok signer else .error "unexpected ASN.1 DER"
    certificateFromPem := fun _ => .error "PEM error"
    oidFromDer := fun bytes =>
      if bytes = idDataDer then some idData
      else if bytes = prime256v1Der then some idPrime256v1
      else none
    octetStringFromDer := fun bytes =>
      match bytes with
      | 0x04 :: length :: content =>
          if content.length = length.toNat then .ok content else .error "unexpected ASN.1 DER"
      | _ => .error "unexpected ASN.1 DER"
    verifyingKeyFromSec1 := fun bytes =>
      if bytes = signerKey then .ok bytes else .error "signature error"
    ecdsaSignatureFromDer := fun bytes => .ok bytes
    verifyPrehash := fun key prehash signature =>
      key = signerKey ∧ signatures.any fun entry =>
        prehash = Sha256.digest (attributesDer entry.1.val) ∧ signature = entry.2
    mlDsaKey := fun _ _ => none
    mlDsaSignature := fun _ _ => none
    mlDsaVerify := fun _ _ _ _ => false }

/-! ### Bundles without entries -/

def plainScope (issuerKeyHash : UInt8) (epoch : UInt64) : CaScope :=
  { hashAlgorithm := [0x30, 0x09, 0x06, 0x05, 0x2b, 0x0e, 0x03, 0x02, 0x1a, 0x05, 0x00]
    issuerNameHash := List.replicate 20 0x11
    issuerKeyHash := List.replicate 20 issuerKeyHash
    epoch := epoch
    responderId :=
      { idType := .byKey
        value := List.replicate 20 0x22 }
    responderChain := none
    signatureAlgorithm := [0x30, 0x0a, 0x06, 0x08, 0x2a, 0x86, 0x48, 0xce, 0x3d, 0x04, 0x03, 0x02]
    completeness := .authoritativeComplete }

section Plain

variable [Sha2] [Ciborium]

omit [Ciborium] in
def plainManifest (producerId : String) (scopes : List CaScope)
    (prevManifestDigest : Option (Octets 32)) : Manifest :=
  { formatVersion := 1
    bundleId := ⟨List.replicate 16 0, List.length_replicate⟩
    producerId := producerId
    createdAt := 1800000000
    bundleType := .full
    caScopes := scopes
    window :=
      { producedAt := 1800000000
        thisUpdateMin := 1800000000
        nextUpdateMin := 1800086400
        nextUpdateMax := 1800086400 }
    integrity :=
      { indexDigest := Sha2.sha256 []
        dataDigest := Sha2.sha256 [] }
    entryCount := 0
    continuity :=
      { prevManifestDigest := prevManifestDigest
        baseManifestDigest := none
        chainLength := 0 }
    shard := none
    compression := none
    extensions := none }

def plainFile (manifest : Manifest) (sealBytes : Bytes) : Bytes :=
  let bundle : Bundle :=
    { header :=
        { formatMajor := formatMajor
          formatMinor := formatMinor
          manifestOffset := 0
          manifestLength := 0
          sealOffset := 0
          sealLength := 0
          indexOffset := 0
          indexLength := 0
          dataOffset := 0
          dataLength := 0 }
      manifest := manifest
      manifestBytes := manifest.toCbor
      sealBytes := sealBytes
      index := []
      data := [] }
  bundle.toBytes.toOption.getD []

def sealedFile (manifest : Manifest) (signature : Bytes) : Bytes :=
  plainFile manifest (sealOf (Sha2.sha256 manifest.toCbor).val signature)

end Plain

end Crates
end Hoike
