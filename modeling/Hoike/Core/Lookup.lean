/-
Answers from the served working set (`router.rs`).

A request is routed by the issuer hashes of its CertID to the entries that were
registered for them, and answered from the first of these whose bundle holds
the entry key.
-/

import Hoike.Ahu.Index
import Hoike.Core.Router

namespace Hoike

open Ahu

/-- A CertID of a request with its entry key (`request.rs`). -/
structure ParsedCertId where
  entryKey : Octets 32
  certidDer : Bytes
  issuerNameHash : Bytes
  issuerKeyHash : Bytes
  serialNumber : Bytes
  hashAlgOid : String
deriving DecidableEq, Repr

def ParsedCertId.scopeKey (certId : ParsedCertId) : ScopeKey :=
  (certId.issuerNameHash, certId.issuerKeyHash)

structure LookupResult where
  responseBytes : Bytes
  window : Window
  caLabel : String
  noncePolicy : String
  forwardTo : Option String
deriving DecidableEq, Repr

/-- What the scope map says about a CertID without an entry: the label, whether
the scope is configured as complete, and where to forward. -/
structure ScopeAnswer where
  caLabel : String
  authoritative : Bool
  forwardTo : Option String
deriving DecidableEq, Repr

namespace ScopeMap

def scopeForCertid (map : ScopeMap) (certId : ParsedCertId) : Option ScopeAnswer :=
  (map.entries.lookup certId.scopeKey).bind fun entries => entries.head?.map fun entry =>
    { caLabel := entry.caLabel
      authoritative := entry.completeness = "authoritative-complete"
      forwardTo := entry.forwardTo }

/-- The payload an entry gives for a CertID, with the window of its bundle.  A
loaded map has a bundle for every entry. -/
def hit (map : ScopeMap) (certId : ParsedCertId) (preferredAlgs : List UInt16)
    (entry : ScopeEntry) : Option LookupResult :=
  map.bundles[entry.bundleIdx]?.bind fun bundle =>
    let found := if preferredAlgs = [] then bundle.lookup certId.entryKey
      else bundle.lookupPreferred certId.entryKey preferredAlgs
    found.map fun responseBytes =>
      { responseBytes := responseBytes
        window := bundle.manifest.window
        caLabel := entry.caLabel
        noncePolicy := entry.noncePolicy
        forwardTo := entry.forwardTo }

/-- With several hits the first by configuration order answers. -/
def lookup (map : ScopeMap) (certId : ParsedCertId) (preferredAlgs : List UInt16) :
    Option LookupResult :=
  (map.entries.lookup certId.scopeKey).bind fun entries =>
    (entries.filterMap (map.hit certId preferredAlgs)).head?

end ScopeMap

/-- The check before a stored payload is used (`handlers.rs`). -/
def Ahu.Window.outside (window : Window) (now : UInt64) : Bool :=
  now < window.thisUpdateMin || window.nextUpdateMin ≤ now

theorem Ahu.Window.outside_eq_false {window : Window} {now : UInt64} :
    window.outside now = false ↔
      window.thisUpdateMin ≤ now ∧ now < window.nextUpdateMin := by
  unfold Window.outside
  rw [Bool.or_eq_false_iff, decide_eq_false_iff_not, decide_eq_false_iff_not, UInt64.not_lt,
    UInt64.not_le]

end Hoike
