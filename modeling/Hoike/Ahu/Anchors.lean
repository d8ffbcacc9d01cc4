/-
Trust anchors as a set (`verify_seal_with_anchors`).

The anchors are tried in order.  One that is the signer, or whose key verifies
the signer's certificate, decides for it; one that bears the issuer's name but
whose key cannot be tried ends the search with an error.  So the verdict does
not depend on the order only if the list has no anchors of both kinds.
-/

import Hoike.Library.Scan
import Hoike.Ahu.Crates

namespace Hoike
namespace Ahu

section Anchors

variable [Sha2] [Pki]

/-! ### The verdict of one anchor -/

def issuedBy (signer anchor : Certificate) : Except AhuError Bool := do
  Except.require (signer.signatureAlgorithm = signer.tbsSignature)
    (.sealInvalid "certificate signature algorithms disagree")
  let bytes ← sealError "" signer.tbsDer
  let signature ← orSealInvalid signer.signature "invalid certificate signature bits"
  verifyBytes bytes signature signer.signatureAlgorithm.oid anchor

def Trusts (signer anchor : Certificate) : Prop :=
  signer = anchor ∨ signer.issuer = anchor.subject ∧ issuedBy signer anchor = .ok true

/-- The anchor bears the issuer's name, and the certificate cannot be checked
under its key. -/
def Aborts (signer anchor : Certificate) : Prop :=
  signer ≠ anchor ∧ signer.issuer = anchor.subject ∧ ∃ error, issuedBy signer anchor = .error error

def anchorVerdict (signer anchor : Certificate) : Option Bool :=
  if signer = anchor then some true
  else if signer.issuer ≠ anchor.subject then none
  else
    match issuedBy signer anchor with
    | .ok true => some true
    | .ok false => none
    | .error _ => some false

theorem anchorVerdict_eq_true {signer anchor : Certificate} :
    anchorVerdict signer anchor = some true ↔ Trusts signer anchor := by
  unfold anchorVerdict Trusts
  by_cases same : signer = anchor
  · simp [same]
  · by_cases named : signer.issuer = anchor.subject
    · rw [if_neg same, if_neg (not_not.mpr named)]
      cases outcome : issuedBy signer anchor with
      | error error =>
          simp [same]
      | ok issued =>
          cases issued <;> simp [same, named]
    · simp [same, named]

theorem anchorVerdict_eq_false {signer anchor : Certificate} :
    anchorVerdict signer anchor = some false ↔ Aborts signer anchor := by
  unfold anchorVerdict Aborts
  by_cases same : signer = anchor
  · simp [same]
  · by_cases named : signer.issuer = anchor.subject
    · rw [if_neg same, if_neg (not_not.mpr named)]
      cases outcome : issuedBy signer anchor with
      | error error =>
          simp [same, named]
      | ok issued =>
          cases issued <;> simp
    · simp [same, named]

theorem findAnchor_cons_named {verification : SealVerification} {signer anchor : Certificate}
    {rest : List Certificate} (other : signer ≠ anchor) (named : signer.issuer = anchor.subject) :
    findAnchor verification signer (anchor :: rest) =
      issuedBy signer anchor >>= fun issued =>
        if issued then pure verification else findAnchor verification signer rest := by
  unfold issuedBy
  rw [findAnchor, if_neg other, if_neg (not_not.mpr named)]
  simp only [bind_assoc]

/-- The search ends at the first anchor with a verdict. -/
theorem findAnchor_eq_ok {verification result : SealVerification} {signer : Certificate}
    {anchors : List Certificate} :
    findAnchor verification signer anchors = .ok result ↔
      result = verification ∧ Scan.Accepts (anchorVerdict signer) anchors := by
  unfold Scan.Accepts
  induction anchors with
  | nil =>
      constructor
      · intro impossible
        cases impossible
      · rintro ⟨_, impossible⟩
        cases impossible
  | cons anchor rest ih =>
      rw [List.findSome?_cons]
      by_cases same : signer = anchor
      · rw [findAnchor, anchorVerdict, if_pos same, if_pos same]
        simp [pure, Except.pure, eq_comm]
      · by_cases named : signer.issuer = anchor.subject
        · rw [findAnchor_cons_named same named, anchorVerdict, if_neg same,
            if_neg (not_not.mpr named)]
          cases issuedBy signer anchor with
          | error error =>
              simp [bind, Except.bind]
          | ok issued =>
              cases issued with
              | false =>
                  exact ih
              | true =>
                  simp [bind, Except.bind, pure, Except.pure, eq_comm]
        · rw [findAnchor, anchorVerdict, if_neg same, if_pos named, if_neg same, if_pos named]
          exact ih

/-! ### Lists of anchors -/

def AnchorPasses (now : UInt64) (bytes : Bytes) : Prop :=
  ∃ anchor, Pki.certificateFromDer bytes = .ok anchor ∧
    validateCertProfile anchor now true = .ok ()

/-- The seal verifies in itself, with the given signer. -/
structure SealSigner (manifest sealBytes : Bytes) (now : UInt64) (verification : SealVerification)
    (signer : Certificate) : Prop where
  verified : verifySeal manifest sealBytes = .ok verification
  extracted : ∃ parts, parseSignedData sealBytes "" "" = .ok parts ∧
    extractSignerCert parts.2 = .ok signer
  profile : validateCertProfile signer now false = .ok ()

def derVerdict (signer : Certificate) (bytes : Bytes) : Option Bool :=
  match Pki.certificateFromDer bytes with
  | .ok anchor => anchorVerdict signer anchor
  | .error _ => none

theorem derVerdict_eq_true {signer : Certificate} {bytes : Bytes} :
    derVerdict signer bytes = some true ↔
      ∃ anchor, Pki.certificateFromDer bytes = .ok anchor ∧ Trusts signer anchor := by
  unfold derVerdict
  cases Pki.certificateFromDer bytes with
  | error error =>
      simp
  | ok anchor =>
      simp [anchorVerdict_eq_true]

theorem derVerdict_eq_false {signer : Certificate} {bytes : Bytes} :
    derVerdict signer bytes = some false ↔
      ∃ anchor, Pki.certificateFromDer bytes = .ok anchor ∧ Aborts signer anchor := by
  unfold derVerdict
  cases Pki.certificateFromDer bytes with
  | error error =>
      simp
  | ok anchor =>
      simp [anchorVerdict_eq_false]

theorem findSome?_derVerdict {signer : Certificate} {encoded : List Bytes}
    {anchors : List Certificate}
    (decoded : List.Forall₂ (fun bytes anchor => Pki.certificateFromDer bytes = .ok anchor)
      encoded anchors) :
    anchors.findSome? (anchorVerdict signer) = encoded.findSome? (derVerdict signer) := by
  induction decoded with
  | nil =>
      rfl
  | cons here _ ih =>
      rw [List.findSome?_cons, List.findSome?_cons, ih, derVerdict, here]

omit [Sha2] in
theorem exists_anchors {now : UInt64} {encoded : List Bytes}
    (passing : ∀ bytes ∈ encoded, AnchorPasses now bytes) :
    ∃ anchors, List.Forall₂ (fun bytes anchor => Pki.certificateFromDer bytes = .ok anchor)
        encoded anchors ∧
      ∀ anchor ∈ anchors, validateCertProfile anchor now true = .ok () := by
  induction encoded with
  | nil =>
      exact ⟨[], .nil, fun _ member => absurd member List.not_mem_nil⟩
  | cons bytes rest ih =>
      obtain ⟨here, others⟩ := List.forall_mem_cons.mp passing
      obtain ⟨anchor, decoded, valid⟩ := here
      obtain ⟨anchors, allDecoded, allValid⟩ := ih others
      exact ⟨anchor :: anchors, .cons decoded allDecoded,
        List.forall_mem_cons.mpr ⟨valid, allValid⟩⟩

theorem verifySealWithAnchors_eq_ok {manifest sealBytes : Bytes} {encoded : List Bytes}
    {now : UInt64} {result : SealVerification}
    (passing : ∀ bytes ∈ encoded, AnchorPasses now bytes) :
    verifySealWithAnchors manifest sealBytes encoded now = .ok result ↔
      ∃ signer, SealSigner manifest sealBytes now result signer ∧
        Scan.Accepts (derVerdict signer) encoded := by
  constructor
  · intro accepted
    obtain ⟨verification, verified, accepted⟩ := Except.bind_eq_ok.mp accepted
    obtain ⟨parts, parsed, accepted⟩ := Except.bind_eq_ok.mp accepted
    obtain ⟨signer, extracted, accepted⟩ := Except.bind_eq_ok.mp accepted
    obtain ⟨_, profile, accepted⟩ := Except.bind_eq_ok.mp accepted
    obtain ⟨_, _, accepted⟩ := Except.bind_eq_ok.mp accepted
    obtain ⟨anchors, decoded, accepted⟩ := Except.bind_eq_ok.mp accepted
    obtain ⟨_, _, accepted⟩ := Except.bind_eq_ok.mp accepted
    obtain ⟨rfl, accepts⟩ := findAnchor_eq_ok.mp accepted
    refine ⟨signer, ⟨verified, ⟨parts, parsed, extracted⟩, profile⟩, ?_⟩
    unfold Scan.Accepts at accepts ⊢
    rw [← findSome?_derVerdict ?_]
    · exact accepts
    · exact (Except.mapM_eq_ok.mp decoded).imp fun _ _ => Except.mapError_eq_ok.mp
  · rintro ⟨signer, ⟨verified, ⟨parts, parsed, extracted⟩, profile⟩, accepts⟩
    obtain ⟨anchors, decoded, valid⟩ := exists_anchors passing
    have given : encoded ≠ [] := by
      rintro rfl
      cases accepts
    have found : findAnchor result signer anchors = .ok result := by
      refine findAnchor_eq_ok.mpr ⟨rfl, ?_⟩
      unfold Scan.Accepts
      rw [findSome?_derVerdict decoded]
      exact accepts
    refine Except.bind_eq_ok.mpr ⟨result, verified, ?_⟩
    refine Except.bind_eq_ok.mpr ⟨parts, parsed, ?_⟩
    refine Except.bind_eq_ok.mpr ⟨signer, extracted, ?_⟩
    refine Except.bind_eq_ok.mpr ⟨(), profile, ?_⟩
    refine Except.bind_eq_ok.mpr ⟨(), Except.require_eq_ok.mpr given, ?_⟩
    refine Except.bind_eq_ok.mpr ⟨anchors, Except.mapM_eq_ok.mpr ?_, ?_⟩
    · exact decoded.imp fun _ _ => Except.mapError_eq_ok.mpr
    · exact Except.bind_eq_ok.mpr ⟨(), Except.forM_eq_ok.mpr valid, found⟩

theorem SealSigner.unique {manifest sealBytes : Bytes} {now : UInt64}
    {left right : SealVerification} {leftSigner rightSigner : Certificate}
    (one : SealSigner manifest sealBytes now left leftSigner)
    (two : SealSigner manifest sealBytes now right rightSigner) :
    left = right ∧ leftSigner = rightSigner := by
  obtain ⟨leftParts, leftParsed, leftExtracted⟩ := one.extracted
  obtain ⟨rightParts, rightParsed, rightExtracted⟩ := two.extracted
  cases Except.ok.inj (leftParsed.symm.trans rightParsed)
  exact ⟨Except.ok.inj (one.verified.symm.trans two.verified),
    Except.ok.inj (leftExtracted.symm.trans rightExtracted)⟩

/-- Of anchors that may all act as such, neither the order matters nor do
further ones take acceptance away, exactly when no two of them trust the signer
of the seal and abort on it. -/
theorem anchors_are_set_iff (manifest sealBytes : Bytes) (anchors : List Bytes) (now : UInt64)
    (passing : ∀ bytes ∈ anchors, AnchorPasses now bytes) :
    ((∀ other : List Bytes, other.Perm anchors →
        (verifySealWithAnchors manifest sealBytes other now).toOption =
          (verifySealWithAnchors manifest sealBytes anchors now).toOption) ∧
      ∀ fewer : List Bytes, fewer.Sublist anchors → ∀ result,
        verifySealWithAnchors manifest sealBytes fewer now = .ok result →
          verifySealWithAnchors manifest sealBytes anchors now = .ok result) ↔
      ∀ verification signer, SealSigner manifest sealBytes now verification signer →
        ¬((∃ bytes ∈ anchors, ∃ anchor, Pki.certificateFromDer bytes = .ok anchor ∧
              Trusts signer anchor) ∧
          ∃ bytes ∈ anchors, ∃ anchor, Pki.certificateFromDer bytes = .ok anchor ∧
            Aborts signer anchor) := by
  have trusting : ∀ signer, (∃ bytes ∈ anchors, ∃ anchor,
      Pki.certificateFromDer bytes = .ok anchor ∧ Trusts signer anchor) ↔
      ∃ bytes ∈ anchors, derVerdict signer bytes = some true := by
    intro signer
    simp only [derVerdict_eq_true]
  have aborting : ∀ signer, (∃ bytes ∈ anchors, ∃ anchor,
      Pki.certificateFromDer bytes = .ok anchor ∧ Aborts signer anchor) ↔
      ∃ bytes ∈ anchors, derVerdict signer bytes = some false := by
    intro signer
    simp only [derVerdict_eq_false]
  simp only [trusting, aborting, ← Scan.setLike_iff]
  by_cases signed : ∃ verification signer, SealSigner manifest sealBytes now verification signer
  · obtain ⟨verification, signer, signed⟩ := signed
    have verdict : ∀ list : List Bytes, (∀ bytes ∈ list, AnchorPasses now bytes) → ∀ result,
        (verifySealWithAnchors manifest sealBytes list now = .ok result ↔
          result = verification ∧ Scan.Accepts (derVerdict signer) list) := by
      intro list passing result
      rw [verifySealWithAnchors_eq_ok passing]
      constructor
      · rintro ⟨other, otherSigned, accepts⟩
        obtain ⟨rfl, rfl⟩ := otherSigned.unique signed
        exact ⟨rfl, accepts⟩
      · rintro ⟨rfl, accepts⟩
        exact ⟨signer, signed, accepts⟩
    constructor
    · rintro ⟨perm, mono⟩ other otherSigner otherSigned
      obtain ⟨rfl, rfl⟩ := otherSigned.unique signed
      constructor
      · intro list same
        have agree := Except.toOption_eq_iff.mp (perm list same) other
        rw [verdict list fun bytes member => passing bytes (same.mem_iff.mp member),
          verdict anchors passing] at agree
        simpa using agree
      · intro fewer part accepts
        have kept := mono fewer part other
        rw [verdict fewer fun bytes member => passing bytes (part.subset member),
          verdict anchors passing] at kept
        exact (kept ⟨rfl, accepts⟩).2
    · intro setLike
      obtain ⟨perm, mono⟩ := setLike verification signer signed
      constructor
      · intro list same
        apply Except.toOption_eq_iff.mpr
        intro result
        rw [verdict list fun bytes member => passing bytes (same.mem_iff.mp member),
          verdict anchors passing, perm list same]
      · intro fewer part result
        rw [verdict fewer fun bytes member => passing bytes (part.subset member),
          verdict anchors passing]
        exact fun accepted => ⟨accepted.1, mono fewer part accepted.2⟩
  · have refused : ∀ list : List Bytes, (∀ bytes ∈ list, AnchorPasses now bytes) → ∀ result,
        verifySealWithAnchors manifest sealBytes list now ≠ .ok result := by
      intro list passing result accepted
      obtain ⟨signer, here, _⟩ := (verifySealWithAnchors_eq_ok passing).mp accepted
      exact signed ⟨result, signer, here⟩
    refine iff_of_true ⟨?_, ?_⟩ fun verification signer here =>
      absurd ⟨verification, signer, here⟩ signed
    · intro list same
      apply Except.toOption_eq_iff.mpr
      intro result
      exact iff_of_false (refused list (fun bytes member => passing bytes (same.mem_iff.mp member))
        result) (refused anchors passing result)
    · intro fewer part result accepted
      exact absurd accepted
        (refused fewer (fun bytes member => passing bytes (part.subset member)) result)

end Anchors

/-! ### A signer and two anchors of its issuer's name -/

def authorityDer : Bytes :=
  Bytes.unpack 338
    0x3082014e3081f5a003020102020108300a06082a8648ce3d040302300f310d300b06035504030c047365616c301e170d3236313131353038323530305a170d3436303131343038323530305a300f310d300b06035504030c047365616c3059301306072a8648ce3d020106082a8648ce3d03010703420004b71e1ba0fdec174b770e68036320c47108e348becc1fe1fd66374f218947b161b7d8558351faf32b03c77cb308bf0fab4203e9714625e6cd81ae7cc2f4c684e0a3423040300e0603551d0f0101ff040403020204300f0603551d130101ff040530030101ff301d0603551d0e041604140972f10a163fed3fdb28ae00985a69e0a4e96961300a06082a8648ce3d0403020348003045022100f8d7374ea3ab44e024141d7f83c4d4eace45821ec25398e5e1c1ff87280fb74e022006b7233aed8d1f4cf960cb75bff03d96a0e559db8b51e66082dd4fb98c9885b0 []

def successorDer : Bytes :=
  Bytes.unpack 274
    0x3082010e3081c1a003020102020109300506032b6570300f310d300b06035504030c047365616c301e170d3236313131353038323530305a170d3436303131343038323530305a300f310d300b06035504030c047365616c302a300506032b65700321009e4bc7e6f308d1a7a2fd29bdd46284ecb68fbc45f4ffd248effea58ff63779d7a3423040300e0603551d0f0101ff040403020204300f0603551d130101ff040530030101ff301d0603551d0e04160414a9f0a3bbcc9a4ea2f32d726fb33e997b740cc075300506032b657003410058b89c58c10319297337ff93ca135fe9b21e2d52d86be8c963d462afef032fcbf6beaa10d1d1b1bed08bc0c25d7c8de797cfb47f4b1db944bcec816ab9ddb300 []

def neighbourDer : Bytes :=
  Bytes.unpack 274
    0x3082010e3081c1a00302010202010a300506032b6570300f310d300b06035504030c04656c7365301e170d3236313131353038323530305a170d3436303131343038323530305a300f310d300b06035504030c04656c7365302a300506032b6570032100cd63ecabd62cc896278172d007874a6e8bfa634f5e73b3380cd1a23dc73b4eefa3423040300e0603551d0f0101ff040403020204300f0603551d130101ff040530030101ff301d0603551d0e04160414f1773043a8692ea8f1138747f99b9719cf453838300506032b6570034100e344946e103aa2df65d4d20105ca0db445f40ccbc52e6016dfcba7f183157342954319612b2a82db84c8882da87788f7a6a0a0c3413e4b3560bb3e1e0b6bff0b []

def anchorCert (der tbsDer : Bytes) (serialNumber : Bytes) (algorithm : ObjectIdentifier)
    (signature : Bytes) (keyAlgorithm : AlgorithmIdentifier) (publicKey : Bytes) : Certificate :=
  { der := .ok der
    tbsDer := .ok tbsDer
    issuer := Crates.signerName
    subject := Crates.signerName
    subjectText := "CN=seal"
    serialNumber := serialNumber
    notBefore := 1794731100
    notAfter := 2399531100
    extensions := some ["2.5.29.15", "2.5.29.19", "2.5.29.14"]
    keyUsage := .ok (some { digitalSignature := false, keyCertSign := true })
    basicConstraintsCa := .ok (some true)
    subjectKeyIdentifier := some ((tbsDer.drop (tbsDer.length - 20)))
    tbsSignature := { oid := algorithm, parameters := none }
    signatureAlgorithm := { oid := algorithm, parameters := none }
    signature := some signature
    keyAlgorithm := keyAlgorithm
    publicKey := some publicKey }

def authority : Certificate :=
  anchorCert authorityDer ((authorityDer.drop 4).take 248) [8] idEcdsaSha256
    (authorityDer.drop 267) { oid := idEcPublicKey, parameters := some Crates.prime256v1Der }
    Crates.signerKey

def successor : Certificate :=
  anchorCert successorDer ((successorDer.drop 4).take 196) [9] "1.3.101.112"
    (successorDer.drop 210) { oid := "1.3.101.112", parameters := none }
    ((successorDer.drop 100).take 32)

def neighbour : Certificate :=
  { anchorCert neighbourDer ((neighbourDer.drop 4).take 196) [10] "1.3.101.112"
      (neighbourDer.drop 210) { oid := "1.3.101.112", parameters := none }
      ((neighbourDer.drop 100).take 32) with
    issuer := (neighbourDer.drop 22).take 17
    subject := (neighbourDer.drop 22).take 17
    subjectText := "CN=else" }

def anchoredSignature : Bytes :=
  Bytes.unpack 70
    0x304402204c01bf264ac86d190562fdb896ab083a41c64c5f3ea40c76e1e3433a346c63b602203a92b848ca5e8799503b9d7f739fe5b6b61891aa53ad3e50ed44d6521821e8a0 []

def anchoredSeal : Bytes :=
  Crates.sealOf (Sha256.digest [0xa0]).val anchoredSignature

/-- The crates for this seal, and for the signature of the authority over the
signer's certificate. -/
@[reducible] def anchoredPki : Pki :=
  { Crates.pki [] with
    certificateFromDer := fun bytes =>
      if bytes = authorityDer then .ok authority
      else if bytes = successorDer then .ok successor
      else if bytes = neighbourDer then .ok neighbour
      else .error "unexpected ASN.1 DER"
    verifyPrehash := fun key prehash signature =>
      key = Crates.signerKey ∧
        ((prehash = Sha256.digest (Crates.attributesDer (Sha256.digest [0xa0]).val) ∧
            signature = anchoredSignature) ∨
          (prehash = Sha256.digest ((Crates.signerDer.drop 4).take 231) ∧
            signature = Crates.signerDer.drop 250)) }

section Sample

local instance anchoredSha2 : Sha2 := Crates.sha2
local instance anchoredCrates : Pki := anchoredPki

theorem anchors_decoded : Pki.certificateFromDer authorityDer = .ok authority ∧
    Pki.certificateFromDer successorDer = .ok successor ∧
      Pki.certificateFromDer neighbourDer = .ok neighbour := by
  decide +kernel

theorem anchors_pass : AnchorPasses 1800000000 authorityDer ∧
    AnchorPasses 1800000000 successorDer ∧ AnchorPasses 1800000000 neighbourDer := by
  have valid : validateCertProfile authority 1800000000 true = .ok () ∧
      validateCertProfile successor 1800000000 true = .ok () ∧
        validateCertProfile neighbour 1800000000 true = .ok () := by
    decide +kernel
  exact ⟨⟨authority, anchors_decoded.1, valid.1⟩, ⟨successor, anchors_decoded.2.1, valid.2.1⟩,
    ⟨neighbour, anchors_decoded.2.2, valid.2.2⟩⟩

theorem anchoredSeal_signer {now : UInt64} {verification : SealVerification}
    {signer : Certificate} (signed : SealSigner [0xa0] anchoredSeal now verification signer) :
    signer = Crates.signer := by
  have known : (parseSignedData anchoredSeal "" "" >>= fun parts => extractSignerCert parts.2) =
      .ok Crates.signer := by
    decide +kernel
  obtain ⟨parts, parsed, extracted⟩ := signed.extracted
  rw [parsed] at known
  exact Except.ok.inj (extracted.symm.trans known)

theorem no_anchor_aborts {anchor : Certificate} {bytes : Bytes}
    (listed : bytes ∈ [neighbourDer, authorityDer])
    (decoded : Pki.certificateFromDer bytes = .ok anchor) : ¬Aborts Crates.signer anchor := by
  have trusts : anchorVerdict Crates.signer authority = some true ∧
      anchorVerdict Crates.signer neighbour = none := by
    decide +kernel
  intro aborts
  have verdict := anchorVerdict_eq_false.mpr aborts
  rcases List.mem_cons.mp listed with isNeighbour | isAuthority
  · rw [isNeighbour, anchors_decoded.2.2] at decoded
    cases decoded
    rw [trusts.2] at verdict
    cases verdict
  · rw [List.mem_singleton.mp isAuthority, anchors_decoded.1] at decoded
    cases decoded
    rw [trusts.1] at verdict
    cases verdict

/-- A seal accepted with the authority alone is accepted with the neighbour in
front of it and behind it. -/
theorem neighbour_keeps_verdict :
    ∃ result, verifySealWithAnchors [0xa0] anchoredSeal [authorityDer] 1800000000 = .ok result ∧
      verifySealWithAnchors [0xa0] anchoredSeal [neighbourDer, authorityDer] 1800000000 =
        .ok result ∧
      verifySealWithAnchors [0xa0] anchoredSeal [authorityDer, neighbourDer] 1800000000 =
        .ok result := by
  have alone :
      (verifySealWithAnchors [0xa0] anchoredSeal [authorityDer] 1800000000).isOk = true := by
    decide +kernel
  obtain ⟨result, accepted⟩ := Except.exists_of_isOk alone
  obtain ⟨reordered, extended⟩ :=
    (anchors_are_set_iff [0xa0] anchoredSeal [neighbourDer, authorityDer] 1800000000 (by
      intro bytes member
      rcases List.mem_cons.mp member with isNeighbour | isAuthority
      · rw [isNeighbour]
        exact anchors_pass.2.2
      · rw [List.mem_singleton.mp isAuthority]
        exact anchors_pass.1)).mpr (by
      rintro _ signer signed ⟨_, bytes, listed, anchor, decoded, aborts⟩
      rw [anchoredSeal_signer signed] at aborts
      exact no_anchor_aborts listed decoded aborts)
  have front := extended [authorityDer] (List.sublist_cons_self _ _) result accepted
  have behind := reordered [authorityDer, neighbourDer] (List.Perm.swap _ _ _)
  rw [front] at behind
  exact ⟨result, accepted, front, Except.toOption_eq_some.mp behind⟩

/-- A second certificate of the issuer's name, put in front, makes a seal
unacceptable that is accepted without it and with it put behind. -/
theorem successor_first_rejected :
    (verifySealWithAnchors [0xa0] anchoredSeal [authorityDer] 1800000000).isOk = true ∧
      (verifySealWithAnchors [0xa0] anchoredSeal [authorityDer, successorDer] 1800000000).isOk =
        true ∧
      (verifySealWithAnchors [0xa0] anchoredSeal [successorDer, authorityDer] 1800000000).isOk =
        false ∧
      AnchorPasses 1800000000 authorityDer ∧ AnchorPasses 1800000000 successorDer := by
  have verdicts :
      (verifySealWithAnchors [0xa0] anchoredSeal [authorityDer] 1800000000).isOk = true ∧
        (verifySealWithAnchors [0xa0] anchoredSeal [authorityDer, successorDer] 1800000000).isOk =
          true ∧
        (verifySealWithAnchors [0xa0] anchoredSeal [successorDer, authorityDer] 1800000000).isOk =
          false := by
    decide +kernel
  exact ⟨verdicts.1, verdicts.2.1, verdicts.2.2, anchors_pass.1, anchors_pass.2.1⟩

end Sample

end Ahu
end Hoike
