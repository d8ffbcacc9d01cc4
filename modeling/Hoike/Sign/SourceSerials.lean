/-
Serials of the sources as serials of CertIDs.

A source reads a serial from decimal or hexadecimal text or takes it from a
revocation list.  A CertID can carry the numbers from 0 to 2^159 - 1 only, and
one serial outside of them stops the preparation of all entries.
-/

import Hoike.Ocsp.Crates
import Hoike.Sign.Crl
import Hoike.Sign.DogtagEntry
import Hoike.Sign.Generate

namespace Hoike

open Ocsp
open Bytes (toNatBE hexNumber)

/-! ### The numbers of parsed serials -/

theorem toNatBE_reverse_map {digits : List Nat} (small : ∀ digit ∈ digits, digit < 256) :
    toNatBE (digits.reverse.map UInt8.ofNat) = Nat.ofDigits 256 digits := by
  induction digits with
  | nil =>
      rfl
  | cons digit rest ih =>
      obtain ⟨first, others⟩ := List.forall_mem_cons.mp small
      rw [List.reverse_cons, List.map_append, List.map_singleton, Bytes.toNatBE_append_singleton,
        ih others, UInt8.toNat_ofNat_of_lt' first, Nat.ofDigits_cons]
      omega

theorem toNatBE_toBytesBE (value : Nat) : toNatBE (toBytesBE value) = value := by
  unfold toBytesBE
  split_ifs with zero
  · rw [zero]
    rfl
  · rw [toNatBE_reverse_map fun digit member => Nat.digits_lt_base (by decide) member,
      Nat.ofDigits_digits]

theorem toNatBE_parseDecimalSerial {text : String} {serial : SerialBytes}
    (parsed : parseDecimalSerial text = some serial) :
    toNatBE serial = Nat.ofDigitChars 10 text.toList 0 := by
  unfold parseDecimalSerial at parsed
  simp only at parsed
  split_ifs at parsed
  cases parsed
  exact toNatBE_toBytesBE _

theorem trimLeadingZeros_eq (bytes : Bytes) :
    trimLeadingZeros bytes = Der.stripLeadingZeroes bytes := by
  fun_induction trimLeadingZeros bytes with
  | case1 second rest ih =>
      rw [Der.stripLeadingZeroes, ih]
  | case2 bytes noZero =>
      rw [Der.stripLeadingZeroes]
      exact noZero

theorem hexNumber_zero_cons (digits : List Char) : hexNumber ('0' :: digits) = hexNumber digits :=
  rfl

theorem toNatBE_parseHexSerial {text : String} {serial : SerialBytes}
    (parsed : parseHexSerial text = some serial) :
    toNatBE serial = hexNumber (stripHexMark text.toList) := by
  unfold parseHexSerial at parsed
  simp only at parsed
  split_ifs at parsed
  all_goals
    obtain ⟨bytes, decoded, trimmed⟩ := Option.map_eq_some_iff.mp parsed
    have read := Bytes.toNatBE_decodeHexDigits (Except.toOption_eq_some.mp decoded)
    rw [← trimmed, trimLeadingZeros_eq, Der.toNatBE_stripLeadingZeroes, read]
  exact hexNumber_zero_cons _

/-! ### Accepted serials -/

section Accepted

variable [X509Ocsp]

/-- A source accepts these octets for a serial, and the number it means. -/
inductive AcceptedAs : SerialBytes → Int → Prop
  | decimal (text : String) (serial : SerialBytes)
      (parsed : parseDecimalSerial text = some serial) :
      AcceptedAs serial (Nat.ofDigitChars 10 text.toList 0 : Nat)
  | hexadecimal (text : String) (serial : SerialBytes)
      (parsed : parseHexSerial text = some serial) :
      AcceptedAs serial (hexNumber (stripHexMark text.toList) : Nat)
  | crl (source : CrlSource) (ca : CaIdentity) (now : UInt64) (snapshot : StatusSnapshot)
      (revoked : RevokedCert) (taken : source.snapshot ca now = .ok snapshot)
      (listed : revoked ∈ source.revoked) :
      AcceptedAs revoked.serialNumber (Der.integerValue revoked.serialNumber)

theorem AcceptedAs.value_eq_iff {serial : SerialBytes} {meaning : Int}
    (accepted : AcceptedAs serial meaning) : meaning = toNatBE serial ↔ 0 ≤ meaning := by
  cases accepted with
  | decimal text serial parsed =>
      rw [toNatBE_parseDecimalSerial parsed]
      simp
  | hexadecimal text serial parsed =>
      rw [toNatBE_parseHexSerial parsed]
      simp
  | crl source ca now snapshot revoked taken listed =>
      exact Der.integerValue_eq_toNatBE_iff _

variable [Sha2] [Sha1]

/-- The certificate with this serial is prepared beside all others: whenever
nothing else is in the way, `prepareEntries` succeeds and gives it CertIDs with
the meant number. -/
def PreparedAs (serial : SerialBytes) (meaning : Int) : Prop :=
  ∀ (snapshot : StatusSnapshot) (config : GenerationConfig) (ca : CaIdentity)
    (thisUpdate : DateTime) (nextUpdateBase next : UInt64) (nextUpdate : DateTime)
    (status : CertificateStatus) (certStatus : CertStatus),
    (serial, status) ∈ snapshot.kept config →
    (∀ other ∈ snapshot.kept config, other.1 ≠ serial →
      ∃ entry, prepareEntry snapshot config ca.hashes thisUpdate nextUpdateBase other =
        .ok entry) →
    status.toCertStatus = .ok certStatus →
    snapshot.entryNextUpdate config nextUpdateBase serial = .ok next →
    ocspTime next = .ok nextUpdate →
    ∃ prepared,
      prepareEntries snapshot config ca.hashes thisUpdate nextUpdateBase = .ok prepared ∧
      ∃ entry ∈ prepared, entry.singleResponses ≠ [] ∧
        ∀ single ∈ entry.singleResponses, Der.integerValue single.certId.serialNumber = meaning

def CertIdsEncode : Prop :=
  ∀ (compat : CertIdCompat) (ca : CaIdentity) (serialNumber : Bytes),
    serialNumber.length ≤ 20 → ∀ certId ∈ compat.certIds ca.hashes serialNumber,
      ∃ der, X509Ocsp.certIdToDer certId = .ok der

omit [Sha1] in
theorem prepareEntry_serial {snapshot : StatusSnapshot} {config : GenerationConfig}
    {issuer : IssuerHashes} {thisUpdate : DateTime} {nextUpdateBase : UInt64}
    {serial : SerialBytes} {status : CertificateStatus} {entry : PreparedEntry}
    (made : prepareEntry snapshot config issuer thisUpdate nextUpdateBase (serial, status) =
      .ok entry) :
    toNatBE serial < 2 ^ 159 ∧ entry.singleResponses ≠ [] ∧
      ∀ single ∈ entry.singleResponses,
        Der.integerValue single.certId.serialNumber = toNatBE serial := by
  obtain ⟨_, serialNumber, _, _, _, number, _, _, _, singles⟩ := prepareEntry_eq_ok.mp made
  obtain ⟨small, rfl⟩ := SerialNumber.new_eq_ok.mp number
  refine ⟨small, ?_, ?_⟩
  · rw [singles]
    intro empty
    exact config.certidCompat.certIds_ne_nil issuer _ (List.map_eq_nil_iff.mp empty)
  · intro single member
    rw [singles] at member
    obtain ⟨certId, among, same⟩ := List.mem_map.mp member
    rw [← same, CertIdCompat.serialNumber_of_mem among]
    exact SerialNumber.integerValue_content serial

theorem prepareEntry_succeeds (encode : CertIdsEncode) {snapshot : StatusSnapshot}
    {config : GenerationConfig} (ca : CaIdentity) (thisUpdate : DateTime)
    {nextUpdateBase next : UInt64} {nextUpdate : DateTime} {serial : SerialBytes}
    {status : CertificateStatus} {certStatus : CertStatus} (small : toNatBE serial < 2 ^ 159)
    (statusMade : status.toCertStatus = .ok certStatus)
    (ending : snapshot.entryNextUpdate config nextUpdateBase serial = .ok next)
    (endingMade : ocspTime next = .ok nextUpdate) :
    ∃ entry, prepareEntry snapshot config ca.hashes thisUpdate nextUpdateBase (serial, status) =
      .ok entry := by
  have number := SerialNumber.new_eq_ok.mpr ⟨small, rfl⟩
  have short := SerialNumber.length_new number
  have encoded : ∀ certId ∈ config.certidCompat.certIds ca.hashes
      (SerialNumber.content serial), ∃ key, entryKey certId = .ok key := by
    intro certId member
    obtain ⟨der, encoded⟩ := encode config.certidCompat ca _ short certId member
    exact ⟨Sha2.sha256 der, Except.bind_eq_ok.mpr
      ⟨der, Except.mapError_eq_ok.mpr encoded, rfl⟩⟩
  obtain ⟨keys, keysMade⟩ := Except.exists_mapM encoded
  let entry : PreparedEntry :=
    { entryKeys := keys
      singleResponses := (config.certidCompat.certIds ca.hashes
        (SerialNumber.content serial)).map fun certId =>
          { certId := certId
            certStatus := certStatus
            thisUpdate := thisUpdate
            nextUpdate := some nextUpdate
            singleExtensions := none } }
  exact ⟨entry, prepareEntry_eq_ok.mpr ⟨certStatus, _, next, nextUpdate, statusMade, number,
    ending, endingMade, keysMade, rfl⟩⟩

theorem AcceptedAs.preparedAs {serial : SerialBytes} {meaning : Int}
    (accepted : AcceptedAs serial meaning) (encode : CertIdsEncode)
    (range : 0 ≤ meaning ∧ meaning < 2 ^ 159) : PreparedAs serial meaning := by
  intro snapshot config ca thisUpdate nextUpdateBase next nextUpdate status certStatus kept others
    statusMade ending endingMade
  have value := accepted.value_eq_iff.mpr range.1
  have small : toNatBE serial < 2 ^ 159 := by
    have bound := range.2
    rw [value] at bound
    exact_mod_cast bound
  have each : ∀ item ∈ snapshot.kept config, ∃ entry,
      prepareEntry snapshot config ca.hashes thisUpdate nextUpdateBase item = .ok entry := by
    intro item member
    by_cases same : item.1 = serial
    · obtain ⟨_, otherStatus⟩ := item
      subst same
      have first := (StatusSnapshot.mem_kept.mp kept).1
      rw [(StatusSnapshot.mem_kept.mp member).1] at first
      cases first
      exact prepareEntry_succeeds encode ca thisUpdate small statusMade ending endingMade
    · exact others item member same
  obtain ⟨prepared, traversed⟩ := Except.exists_mapM each
  obtain ⟨entry, listed, made⟩ := Except.mem_mapM traversed kept
  obtain ⟨_, some, singles⟩ := prepareEntry_serial made
  refine ⟨prepared, traversed, entry, listed, some, ?_⟩
  intro single member
  rw [singles single member, value]

/-! ### A snapshot of one certificate -/

def soleSnapshot (serial : SerialBytes) : StatusSnapshot :=
  { entries := (∅ : BTreeMap SerialBytes CertificateStatus).insert serial .good
    thisUpdate := 0
    nextUpdate := some 0
    notAfter := ∅ }

def soleConfig : GenerationConfig :=
  { producerId := "hoike-signer"
    epoch := 1
    validitySecs := 86400
    jitterSecs := 7200
    certidCompat := .dual
    completeness := .partialScope
    archiveCutoffSecs := 0
    bucketSize := 1 }

def soleCa : CaIdentity :=
  { label := "ca"
    issuerNameDer := [0x30, 0x00]
    issuerKeyBytes := [0x01] }

omit [X509Ocsp] [Sha2] [Sha1] in
theorem mem_kept_soleSnapshot {serial : SerialBytes}
    {entry : SerialBytes × CertificateStatus} :
    entry ∈ (soleSnapshot serial).kept soleConfig ↔ entry = (serial, .good) := by
  obtain ⟨other, status⟩ := entry
  rw [StatusSnapshot.mem_kept]
  unfold soleSnapshot
  rw [Std.ExtTreeMap.getElem?_insert]
  by_cases same : compare serial other = .eq
  · have equal := Std.LawfulEqOrd.compare_eq_iff_eq.mp same
    subst equal
    rw [if_pos same]
    simp [StatusSnapshot.isPruned, soleConfig, eq_comm]
  · have different : other ≠ serial := by
      rintro rfl
      exact same Std.ReflCmp.compare_self
    rw [if_neg same]
    simp [different]

omit [X509Ocsp] [Sha1] in
theorem entryNextUpdate_soleSnapshot (serial : SerialBytes) :
    (soleSnapshot serial).entryNextUpdate soleConfig 0 serial = .ok 0 := by
  have least : ∀ value : UInt64, Ahu.minU64 value 0 = 0 := by
    intro value
    unfold Ahu.minU64
    split_ifs with below
    · exact UInt64.le_antisymm below UInt64.zero_le
    · rfl
  exact congrArg Except.ok (least _)

theorem PreparedAs.range {serial : SerialBytes} {meaning : Int}
    (prepared : PreparedAs serial meaning) : 0 ≤ meaning ∧ meaning < 2 ^ 159 := by
  obtain ⟨start, started⟩ := Except.exists_of_isOk (show (ocspTime 0).isOk = true by decide)
  obtain ⟨entries, traversed, entry, listed, some, singles⟩ :=
    prepared (soleSnapshot serial) soleConfig soleCa start 0 0 start .good .good
      (mem_kept_soleSnapshot.mpr rfl)
      (fun other member different =>
        absurd (congrArg Prod.fst (mem_kept_soleSnapshot.mp member)) different)
      rfl (entryNextUpdate_soleSnapshot serial) started
  obtain ⟨item, among, made⟩ := Except.exists_of_mem_mapM traversed listed
  rw [mem_kept_soleSnapshot.mp among] at made
  obtain ⟨small, _, numbers⟩ := prepareEntry_serial made
  obtain ⟨single, member⟩ := List.exists_mem_of_ne_nil _ some
  have value := (singles single member).symm.trans (numbers single member)
  rw [value]
  exact ⟨Int.natCast_nonneg _, by exact_mod_cast small⟩

/-- An accepted serial is prepared with the number its source means exactly
when that number is not negative and below 2^159. -/
theorem accepted_serial_prepared_iff {serial : SerialBytes} {meaning : Int}
    (accepted : AcceptedAs serial meaning) (encode : CertIdsEncode) :
    PreparedAs serial meaning ↔ 0 ≤ meaning ∧ meaning < 2 ^ 159 :=
  ⟨PreparedAs.range, accepted.preparedAs encode⟩

end Accepted

/-! ### Two serials -/

section Samples

local instance serialSha2 : Sha2 := Crates.sha2
local instance serialSha1 : Sha1 := Crates.sha1

local instance serialX509Ocsp : X509Ocsp :=
  { Crates.x509Ocsp { requests := [], certIds := [], basics := [] } with
    certIdToDer := fun certId => .ok (Crates.certIdDer certId) }

theorem small_serial_prepared : AcceptedAs [0x2a] 42 ∧ PreparedAs [0x2a] 42 := by
  have accepted : AcceptedAs [0x2a] 42 := AcceptedAs.decimal "42" [0x2a] (by decide +kernel)
  refine ⟨accepted, (accepted_serial_prepared_iff accepted ?_).mpr (by decide)⟩
  intro compat ca serialNumber _ certId _
  exact ⟨Crates.certIdDer certId, rfl⟩

def pairSnapshot (serial : SerialBytes) : StatusSnapshot :=
  { soleSnapshot [0x2a] with
    entries := (soleSnapshot [0x2a]).entries.insert serial .good }

/-- The serial 2^159 is accepted from its decimal text, and the certificate
with serial 42 is not prepared beside it. -/
theorem large_serial_stops_all :
    ∃ serial, parseDecimalSerial "730750818665451459101842416358141509827966271488" =
        some serial ∧
      (prepareEntries (soleSnapshot [0x2a]) soleConfig soleCa.hashes
        (Crates.timeAt 0) 0).isOk = true ∧
      (prepareEntries (pairSnapshot serial) soleConfig soleCa.hashes
        (Crates.timeAt 0) 0).isOk = false := by
  refine ⟨0x80 :: List.replicate 19 0, ?_, ?_, ?_⟩
  · decide +kernel
  · decide +kernel
  · decide +kernel

end Samples

end Hoike
