/-
Authentication of gossip broadcasts (`config.rs`, `crypto.rs`).

A signed frame carries an Ed25519 signature over its payload.  Whose signatures
count follows from the configuration: the identity of the node itself and the
peers it names, each bound to a node name.  Keys, signatures and the JSON codec
of the payload are parameters; reading key files is one too.
-/

import Mathlib.Data.List.Infix
import Hoike.Library.Cbor
import Hoike.Core.Storage
import Hoike.Sign.Source

namespace Hoike
namespace Gossip

/-- The `ed25519-dalek` crate.  Key files hold PKCS#8 or SPKI structures, as PEM
text or DER. -/
class Ed25519 where
  SigningKey : Type
  VerifyingKey : Type
  decideKey : DecidableEq VerifyingKey
  verifyingKey : SigningKey → VerifyingKey
  sign : SigningKey → Bytes → Octets 64
  /-- Key, message, signature. -/
  verify : VerifyingKey → Bytes → Octets 64 → Bool
  verifyStrict : VerifyingKey → Bytes → Octets 64 → Bool
  signingKeyFromPem : String → Except String SigningKey
  signingKeyFromDer : Bytes → Except String SigningKey
  verifyingKeyFromPem : String → Except String VerifyingKey
  verifyingKeyFromDer : Bytes → Except String VerifyingKey

open Ed25519 (SigningKey VerifyingKey)

instance [Ed25519] : DecidableEq VerifyingKey := Ed25519.decideKey

/-- Both checks pass for what a key has signed itself. -/
def HonestSignatures [Ed25519] : Prop :=
  ∀ (key : SigningKey) (payload : Bytes),
    Ed25519.verify (Ed25519.verifyingKey key) payload (Ed25519.sign key payload) = true ∧
      Ed25519.verifyStrict (Ed25519.verifyingKey key) payload (Ed25519.sign key payload) = true

/-! ### Messages -/

inductive GossipMessage where
  | generationAnnouncement (producerId : String) (issuerKeyHash : Bytes) (epoch : UInt64)
      (manifestDigest : Octets 32) (bundleUrl : Option String) (originNode : String)
  | urgentRevocation (producerId : String) (issuerKeyHash : Bytes) (epoch : UInt64)
      (originNode : String)
deriving DecidableEq

namespace GossipMessage

def scopeKey : GossipMessage → String × Bytes
  | generationAnnouncement producerId issuerKeyHash _ _ _ _ => (producerId, issuerKeyHash)
  | urgentRevocation producerId issuerKeyHash _ _ => (producerId, issuerKeyHash)

def epoch : GossipMessage → UInt64
  | generationAnnouncement _ _ epoch _ _ _ => epoch
  | urgentRevocation _ _ epoch _ => epoch

def originNode : GossipMessage → String
  | generationAnnouncement _ _ _ _ _ originNode => originNode
  | urgentRevocation _ _ _ originNode => originNode

def bundleUrl : GossipMessage → Option String
  | generationAnnouncement _ _ _ _ bundleUrl _ => bundleUrl
  | urgentRevocation _ _ _ _ => none

/-- Lengths of text are in UTF-8 octets. -/
def validBounds (message : GossipMessage) : Bool :=
  message.scopeKey.1 ≠ "" && message.scopeKey.1.utf8ByteSize ≤ 256 &&
    message.originNode.utf8ByteSize ≤ 256 &&
    (message.scopeKey.2.length = 20 || message.scopeKey.2.length = 32) &&
    message.bundleUrl.all fun url => url.utf8ByteSize ≤ 1024

end GossipMessage

/-- The `serde_json` crate, for these messages. -/
class SerdeJson where
  toVec : GossipMessage → Bytes
  fromSlice : Bytes → Except String GossipMessage

def MessagesReadBack [SerdeJson] : Prop :=
  ∀ message, SerdeJson.fromSlice (SerdeJson.toVec message) = .ok message

/-! ### Configuration -/

inductive AuthMode where
  | required
  | permissive
deriving DecidableEq, Repr

structure GossipConfig where
  nodeName : String
  authMode : AuthMode
  identityKey : Option PathBuf
  peerKeys : List PathBuf
  peerIdentities : BTreeMap String PathBuf

inductive GossipCryptoError where
  | io (text : String)
  | decode (text : String)
  | config (text : String)
deriving DecidableEq

def GossipCryptoError.display : GossipCryptoError → String
  | .io text => s!"gossip key I/O: {text}"
  | .decode text => s!"gossip key decode: {text}"
  | .config text => s!"gossip authentication config: {text}"

abbrev KeyFiles := PathBuf → Except String Bytes

def pemText (bytes : Bytes) : Option String :=
  (Cbor.ofUtf8 bytes).filter fun text => decide ("-----BEGIN".toList <:+: text.toList)

def loadKey {α : Type} (fromPem : String → Except String α) (fromDer : Bytes → Except String α)
    (structureName : String) (files : KeyFiles) (path : PathBuf) :
    Except GossipCryptoError α := do
  let bytes ← (files path).mapError .io
  match pemText bytes with
  | some text => (fromPem text).mapError fun error => .decode s!"{structureName} PEM: {error}"
  | none => (fromDer bytes).mapError fun error => .decode s!"{structureName} DER: {error}"

section Authentication

variable [Ed25519] [SerdeJson]

def loadSigningKey : KeyFiles → PathBuf → Except GossipCryptoError SigningKey :=
  loadKey Ed25519.signingKeyFromPem Ed25519.signingKeyFromDer "PKCS#8"

def loadVerifyingKey : KeyFiles → PathBuf → Except GossipCryptoError VerifyingKey :=
  loadKey Ed25519.verifyingKeyFromPem Ed25519.verifyingKeyFromDer "SPKI"

structure GossipSigner where
  key : SigningKey

def GossipSigner.verifyingKey (signer : GossipSigner) : VerifyingKey :=
  Ed25519.verifyingKey signer.key

def signedTag : UInt8 := 0x01

def sigLen : Nat := 64

def GossipSigner.frame (signer : GossipSigner) (payload : Bytes) : Bytes :=
  signedTag :: ((Ed25519.sign signer.key payload).val ++ payload)

/-! ### Checking a frame -/

structure GossipVerifier where
  trusted : List VerifyingKey
  mode : AuthMode
  identities : List (String × VerifyingKey)

def GossipVerifier.forIdentities (identities : List (String × VerifyingKey)) (mode : AuthMode) :
    GossipVerifier :=
  { trusted := identities.map Prod.snd
    mode := mode
    identities := identities }

inductive VerifyOutcome where
  | accept (payload : Bytes)
  | reject (reason : String)
deriving DecidableEq

def GossipVerifier.authorizes (verifier : GossipVerifier) (origin : String) (payload : Bytes)
    (signature : Octets 64) : Bool :=
  verifier.identities.any fun identity =>
    identity.1 = origin && Ed25519.verifyStrict identity.2 payload signature

/-- A payload with its signature: any trusted key, and then the key bound to the
origin the payload claims. -/
def GossipVerifier.checkSigned (verifier : GossipVerifier) (payload : Bytes)
    (signature : Octets 64) : VerifyOutcome :=
  if verifier.trusted.any fun key => Ed25519.verify key payload signature then
    if verifier.identities ≠ [] then
      match SerdeJson.fromSlice payload with
      | .error _ => .reject "invalid signed message"
      | .ok message =>
          if verifier.authorizes message.originNode payload signature then .accept payload
          else .reject "signing key not authorized for origin"
    else .accept payload
  else .reject "no trusted key verified signature"

def GossipVerifier.check (verifier : GossipVerifier) (data : Bytes) : VerifyOutcome :=
  if data.head? = some signedTag then
    if long : 1 + sigLen ≤ data.length then
      verifier.checkSigned (data.drop (1 + sigLen))
        ⟨(data.drop 1).take sigLen, by
          unfold sigLen at long ⊢
          rw [List.length_take, List.length_drop]
          omega⟩
    else .reject "truncated signed frame"
  else
    match verifier.mode with
    | .permissive => .accept data
    | .required => .reject "unsigned message under required-auth policy"

/-! ### Loading the policy -/

def loadSigner (config : GossipConfig) (files : KeyFiles) :
    Except GossipCryptoError (Option GossipSigner) :=
  match config.identityKey with
  | none => .ok none
  | some path => do
      let key ← (loadSigningKey files path).mapError fun error =>
        .config s!"gossip.identity_key {path.display}: {error.display}"
      return some { key := key }

/-- One named peer.  A mapping for the node's own name has to agree with its
own key. -/
def loadIdentity (config : GossipConfig) (files : KeyFiles) (signer : Option GossipSigner)
    (entry : String × PathBuf) : Except GossipCryptoError (String × VerifyingKey) := do
  Except.require (entry.1 ≠ "" ∧ entry.1.utf8ByteSize ≤ 256)
    (.config "gossip peer identity names must contain 1..=256 bytes")
  let key ← (loadVerifyingKey files entry.2).mapError fun error => .config
    s!"gossip.peer_identities '{entry.1}' ({entry.2.display}): {error.display}"
  Except.require (entry.1 = config.nodeName → signer.all fun own => own.verifyingKey = key)
    (.config (s!"gossip.peer_identities maps local node '{config.nodeName}' to a different " ++
      "key than gossip.identity_key"))
  return (entry.1, key)

def foldSigner (config : GossipConfig) (signer : Option GossipSigner)
    (identities : List (String × VerifyingKey)) : List (String × VerifyingKey) :=
  match signer with
  | none => identities
  | some own =>
      if (config.nodeName, own.verifyingKey) ∈ identities then identities
      else identities ++ [(config.nodeName, own.verifyingKey)]

def loadAuthentication (config : GossipConfig) (files : KeyFiles) :
    Except GossipCryptoError (Option GossipSigner × GossipVerifier) := do
  Except.require (config.peerKeys = [])
    (.config ("gossip.peer_keys is no longer safe: migrate to gossip.peer_identities " ++
      "(node name -> public key path)"))
  let signer ← loadSigner config files
  Except.require (config.authMode = .required → signer.isSome)
    (.config (s!"gossip auth_mode \"required\" needs gossip.identity_key for node " ++
      s!"'{config.nodeName}'"))
  let identities ← config.peerIdentities.toList.mapM (loadIdentity config files signer)
  return (signer, .forIdentities (foldSigner config signer identities) config.authMode)

end Authentication

end Gossip
end Hoike
