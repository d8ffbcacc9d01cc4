/-
The configuration of a signing node and its check (`config.rs`).

The responder's part of a section is `CaConfig`; signing reads more fields.  The
check runs before anything is bound or produced.
-/

import Hoike.Core.Config

namespace Hoike

/-- The connection of a directory source is left to the source itself. -/
inductive SourceConfig where
  | crl (path : PathBuf) (issuerCert : Option PathBuf)
  | dogtagSync
deriving DecidableEq, Repr

/-- A number of the file: its value, if that is finite, and how it is written. -/
structure ConfigNumber where
  value : Option Rat
  text : String
deriving DecidableEq, Repr

/-- A CA section with the fields that only signing reads. -/
structure SignerCa extends CaConfig where
  source : Option SourceConfig := none
  batchInterval : UInt64 := 3600
  validitySecs : UInt64 := 86400
  jitterSecs : UInt64 := 7200
  certidCompat : String := "dual"
  maxAgeFraction : ConfigNumber := { value := some (1 / 2), text := "0.5" }
  archiveCutoffSecs : UInt64 := 0
  urgentRevocation : Bool := true
  issuerNameDerB64 : Option String := none
  issuerKeyBytesB64 : Option String := none
  sigAlg : String := "ecdsa-p256"
  sealKey : Option PathBuf := none
  sealCert : Option PathBuf := none
deriving DecidableEq, Repr

structure GossipConfigSection where
  authMode : String := "required"
  peerKeys : List PathBuf := []
deriving DecidableEq, Repr

structure SignerConfig where
  server : ServerConfig
  storage : StorageConfig
  ca : List SignerCa := []
  gossip : Option GossipConfigSection := none
deriving DecidableEq, Repr

def SignerConfig.toConfig (config : SignerConfig) : Config :=
  { server := config.server
    storage := config.storage
    ca := config.ca.map SignerCa.toCaConfig }

def SignerConfig.needsSigning (config : SignerConfig) : Bool :=
  config.server.mode = "combined" ∨ config.server.mode = "signer"

def SignerCa.isMlDsa (ca : SignerCa) : Bool :=
  ca.sigAlg ∈ ["ml-dsa-44", "ml-dsa-65", "ml-dsa-87"]

/-! ### The check -/

def GossipConfigSection.validate (gossip : GossipConfigSection) : Except CoreError Unit := do
  Except.require (gossip.peerKeys = []) (.config
    "replace gossip.peer_keys with peer_identities mapping node names to public-key files")
  Except.require (gossip.authMode = "required" ∨ gossip.authMode = "permissive") (.config
    (s!"gossip.auth_mode must be \"required\" or \"permissive\" (got " ++
      s!"'{gossip.authMode}')"))

def SignerCa.forwardsSafely (ca : SignerCa) : Bool :=
  match ca.forwardTo with
  | none => true
  | some url => "https://".toList.isPrefixOf url.toList ||
      (ca.forwardInsecure && "http://".toList.isPrefixOf url.toList)

/-- Labels become file names; `seen` are those of the sections before. -/
def validateLabel (seen : List String) (ca : SignerCa) : Except CoreError (List String) := do
  Except.require (Config.isSafeLabel ca.label ∧ ca.label ∉ seen)
    (.config "CA labels must be unique nonempty file names")
  Except.require ca.forwardsSafely (.config (s!"CA '{ca.label}': forward_to requires https:// " ++
    "(or explicit forward_insecure for http://)"))
  return ca.label :: seen

def validSigAlgs : List String := ["ecdsa-p256", "ml-dsa-44", "ml-dsa-65", "ml-dsa-87"]

def validCertidCompat : List String := ["dual", "sha256", "sha1"]

def validateAlgorithms (ca : SignerCa) : Except CoreError Unit := do
  let sigAlgs := ", ".intercalate validSigAlgs
  Except.require (ca.sigAlg ∈ validSigAlgs) (.config
    s!"CA '{ca.label}' has invalid sig_alg '{ca.sigAlg}' — expected one of: {sigAlgs}")
  Except.require (¬ (ca.isMlDsa ∧ ca.noncePolicy = "live")) (.config
    (s!"CA '{ca.label}': nonce_policy=live is not yet supported with {ca.sigAlg} signing"))
  let compat := ", ".intercalate validCertidCompat
  Except.require (ca.certidCompat ∈ validCertidCompat) (.config
    (s!"CA '{ca.label}' has invalid certid_compat '{ca.certidCompat}' — expected one of: " ++
      s!"{compat}"))
  Except.require (ca.maxAgeFraction.value.any fun value => 0 < value ∧ value ≤ 1) (.config
    (s!"CA '{ca.label}' has invalid max_age_fraction {ca.maxAgeFraction.text} — must be in " ++
      "the range (0, 1]"))

/-- Production needs a persistent seal pair; demo signing may do without one, but
never with half of it. -/
def validateSeal (ca : SignerCa) : Except CoreError Unit :=
  match ca.sealKey, ca.sealCert with
  | none, none => Except.require (ca.signingKey = some .demo) (.config
      (s!"CA '{ca.label}': production signing requires a persistent seal_key and seal_cert " ++
        "pair — configure both, or use the demo signing key for testing"))
  | some _, some _ => .ok ()
  | _, _ => .error (.config
      (s!"CA '{ca.label}': seal_key and seal_cert must be configured together — a " ++
        "half-configured seal pair is always an error"))

def validateSigning (mode : String) (ca : SignerCa) : Except CoreError Unit := do
  Except.require ca.source.isSome (.config
    s!"CA '{ca.label}' has no source configured, required for {mode} mode")
  Except.require ca.signingKey.isSome (.config
    (s!"CA '{ca.label}' has no signing_key configured, required for {mode} mode. " ++
      "Use type='file' with a PKCS#8 key, type='pkcs11' for HSM, or type='demo' for testing " ++
      "only."))
  validateSeal ca

namespace SignerConfig

def validateGossip (config : SignerConfig) : Except CoreError Unit :=
  match config.gossip with
  | none => .ok ()
  | some gossip => gossip.validate

def validateSections (config : SignerConfig) : Except CoreError Unit := do
  if config.needsSigning then
    config.ca.forM (validateSigning config.server.mode)
    Except.require (config.ca ≠ []) (.config
      s!"{config.server.mode} mode requires at least one [[ca]] with a source")
  else
    return ()

def validateForMode (config : SignerConfig) : Except CoreError Unit := do
  config.validateGossip
  let _ ← config.ca.foldlM validateLabel []
  config.ca.forM validateAlgorithms
  config.validateSections

end SignerConfig

end Hoike
