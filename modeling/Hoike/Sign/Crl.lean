/-
Revocation lists as a source (`crl.rs`).

The list is taken as the `x509-cert` crate has decoded it, with serials of at
most 21 content octets.  Whether its signature and issuer are in order is the
result of `authenticate`.
-/

import Hoike.Sign.Source

namespace Hoike

open Ocsp

structure RevokedCert where
  serialNumber : Bytes
  revocationDate : DateTime
  crlEntryExtensions : Option (List Extension)
  decoded : serialNumber.length ≤ 21

structure CertificateList where
  revokedCertificates : Option (List RevokedCert)
  thisUpdate : DateTime
  nextUpdate : Option DateTime

structure CrlSource where
  crl : CertificateList
  authenticate : CaIdentity → Except SignError Unit

def idCeCrlReasons : ObjectIdentifier := "2.5.29.21"

section Snapshot

variable [X509Ocsp]

/-- Critical extensions other than the reason, another issuer and entries of
delta lists are refused. -/
def checkEntryExtension (extension : Extension) : Except SignError Unit := do
  Except.require (¬(extension.extnId = "2.5.29.29" ∨
      (extension.critical = true ∧ extension.extnId ≠ idCeCrlReasons)))
    (.verify "unsupported CRL entry extension")
  if extension.extnId = idCeCrlReasons then
    let reason ← (X509Ocsp.crlReasonFromDer extension.extnValue).mapError .der
    Except.require (reason ≠ .removeFromCrl)
      (.verify "removeFromCRL requires unsupported delta semantics")

def RevokedCert.reason (revoked : RevokedCert) : Option CrlReason :=
  ((revoked.crlEntryExtensions.getD []).find? (·.extnId = idCeCrlReasons)).bind fun extension =>
    (X509Ocsp.crlReasonFromDer extension.extnValue).toOption

/-- The serial is kept as the content octets of its INTEGER. -/
def RevokedCert.insertInto (entries : BTreeMap SerialBytes CertificateStatus)
    (revoked : RevokedCert) : Except SignError (BTreeMap SerialBytes CertificateStatus) := do
  (revoked.crlEntryExtensions.getD []).forM checkEntryExtension
  return entries.insert revoked.serialNumber
    (.revoked revoked.revocationDate.epoch revoked.reason)

def CrlSource.revoked (source : CrlSource) : List RevokedCert :=
  source.crl.revokedCertificates.getD []

def CrlSource.snapshot (source : CrlSource) (ca : CaIdentity) (now : UInt64) :
    Except SignError StatusSnapshot := do
  source.authenticate ca
  let entries ← source.revoked.foldlM RevokedCert.insertInto ∅
  let snapshot : StatusSnapshot :=
    { entries := entries
      thisUpdate := source.crl.thisUpdate.epoch
      nextUpdate := source.crl.nextUpdate.map DateTime.epoch
      notAfter := ∅ }
  let _ ← snapshot.validateAt now
  return snapshot

theorem CrlSource.mem_entries_of_snapshot {source : CrlSource} {ca : CaIdentity} {now : UInt64}
    {snapshot : StatusSnapshot} (taken : source.snapshot ca now = .ok snapshot)
    {revoked : RevokedCert} (listed : revoked ∈ source.revoked) :
    revoked.serialNumber ∈ snapshot.entries := by
  obtain ⟨_, _, taken⟩ := Except.bind_eq_ok.mp taken
  obtain ⟨entries, inserted, taken⟩ := Except.bind_eq_ok.mp taken
  obtain ⟨_, _, same⟩ := Except.bind_eq_ok.mp taken
  cases same
  -- The serials of the items inserted so far are in the map.
  have all := Except.foldlM_induction
    (motive := fun done entries => ∀ revoked ∈ done, revoked.serialNumber ∈ entries)
    (fun _ member => absurd member List.not_mem_nil)
    (by
      intro front entries item after held stepped revoked member
      obtain ⟨_, _, same⟩ := Except.bind_eq_ok.mp stepped
      cases same
      rw [Std.ExtTreeMap.mem_insert]
      rcases List.mem_append.mp member with earlier | last
      · exact Or.inr (held revoked earlier)
      · rw [List.mem_singleton.mp last]
        exact Or.inl Std.ReflCmp.compare_self)
    inserted
  exact all revoked listed

end Snapshot

end Hoike
