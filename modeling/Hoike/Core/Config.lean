/-
Configuration and the bundle destination of a label (`config.rs`).

Only the fields read by the modelled functions are kept, with the defaults the
source gives them when they are absent.
-/

import Hoike.Core.Storage

namespace Hoike

structure ServerConfig where
  mode : String := "edge"
deriving DecidableEq, Repr

structure SealAuthorization where
  producerId : String
  issuerKeyHash : String
  signerSha256 : String
deriving DecidableEq, Repr

structure StorageConfig where
  bundleDir : PathBuf
  stateDb : PathBuf := PathBuf.ofString "/var/lib/hoike/state"
  sealTrustAnchors : Option (List PathBuf) := none
  sealAuthorizations : List SealAuthorization := []
  sealSignerPins : List PathBuf := []
  allowUnauthenticatedBundles : Bool := false
deriving DecidableEq, Repr

inductive SigningKeyConfig where
  | file (path : PathBuf)
  | pkcs11 (modulePath : String)
  | demo
deriving DecidableEq, Repr

structure CaConfig where
  label : String
  bundleFile : Option PathBuf := none
  noncePolicy : String := "ignore"
  completeness : String := "partial"
  forwardTo : Option String := none
  forwardInsecure : Bool := false
  signingKey : Option SigningKeyConfig := none
deriving DecidableEq, Repr

structure Config where
  server : ServerConfig
  storage : StorageConfig
  ca : List CaConfig := []
deriving DecidableEq, Repr

namespace Config

/-- The configured file of a CA entry: its own `bundle_file`, or the label's
file in the bundle directory. -/
def bundlePath (config : Config) (ca : CaConfig) : PathBuf :=
  ca.bundleFile.getD (config.storage.bundleDir.join (PathBuf.ofString s!"{ca.label}.ahu"))

def isSafeLabel (label : String) : Bool :=
  label ≠ "" ∧ label ≠ "." ∧ label ≠ ".." ∧ '/' ∉ label.toList ∧ '\\' ∉ label.toList

def bundleDestination (os : Os) (disk : Disk) (config : Config) (label : String) :
    Except CoreError PathBuf := do
  Except.require (config.ca ≠ []) (.config
    ("no [[ca]] entries are configured — legacy unscoped configuration has no per-CA bundle " ++
      "destination; configure a labeled CA before producing or importing bundles"))
  Except.require (isSafeLabel label)
    (.config s!"CA label '{label}' is not a safe bundle file name")
  let some selected := config.ca.find? (·.label = label)
    | let labels := ", ".intercalate (config.ca.map CaConfig.label)
      throw (.config s!"unknown CA label '{label}' — configured labels: {labels}")
  let destination := config.bundlePath selected
  let mine := os.canonicalOrSelf disk destination
  let clash := config.ca.find? fun other =>
    other.label ≠ label ∧ os.canonicalOrSelf disk (config.bundlePath other) = mine
  match clash with
  | some other =>
      throw (.config (s!"CA label '{label}' destination {destination.display} is also " ++
        s!"configured for CA '{other.label}' — give each label a distinct destination"))
  | none => return destination

end Config

end Hoike
