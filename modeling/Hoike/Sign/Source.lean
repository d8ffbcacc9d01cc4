/-
What a revocation source supplies (`source.rs`).

A snapshot is the whole status of one CA at one time.  Maps ordered by key are
extensional: two of them are equal when they hold the same entries.
-/

import Std.Data.ExtTreeMap.Lemmas
import Hoike.Ocsp.Messages

namespace Hoike

open Ocsp

abbrev BTreeMap (κ ν : Type) [Ord κ] := Std.ExtTreeMap κ ν compare

abbrev SerialBytes := Bytes

inductive CertificateStatus where
  | good
  | revoked (revocationTime : UInt64) (reason : Option CrlReason)
deriving DecidableEq, Repr

structure StatusSnapshot where
  entries : BTreeMap SerialBytes CertificateStatus
  thisUpdate : UInt64
  nextUpdate : Option UInt64
  notAfter : BTreeMap SerialBytes UInt64

structure CaIdentity where
  label : String
  issuerNameDer : Bytes
  issuerKeyBytes : Bytes
deriving DecidableEq, Repr

/-- The end of the source's own validity, when the clock lies inside it. -/
def StatusSnapshot.validateAt (snapshot : StatusSnapshot) (now : UInt64) :
    Except SignError UInt64 :=
  match snapshot.nextUpdate with
  | none => .error (.config "source has no nextUpdate")
  | some ending =>
      if snapshot.thisUpdate > now ∨ ending ≤ now ∨ ending ≤ snapshot.thisUpdate then
        .error (.config "source validity is expired, future-dated or inconsistent")
      else .ok ending

end Hoike
