/-
What a materialized bundle says about the payloads it took from its inputs.

Its manifest keeps the compression map of the base, and its window is computed
from the windows of the inputs with a retained payload.  Both are compared here
with the inputs the payloads come from.
-/

import Hoike.Ahu.DeltaFold
import Hoike.Core.Lookup

namespace Hoike

open Ahu

/-- How payloads are stored.  Without a compression map they are plain. -/
def Ahu.Manifest.encoding (manifest : Manifest) : CompressionAlgorithm × Option (Octets 32) :=
  match manifest.compression with
  | none => (.none, none)
  | some compression => (compression.algorithm, compression.dictionaryDigest)

section Output

variable [Sha2] [Ciborium]

/-- An accepted run and the bundle it writes, behind some header and under some
seal. -/
structure OutputOf (base : Bundle) (deltas : List Bundle)
    (sealFn : Bytes → Except AhuError Bytes) (result : ApplyResult) (bundle : Bundle) :
    Prop where
  accepted : applySealed base deltas sealFn = .ok result
  written : ∃ window header sealBytes,
    materializedWindow base.manifest.window (Progress.finish base deltas).windows = .ok window ∧
      bundle = (outputBuilder base deltas result.finalEpoch window).written header sealBytes

variable {base : Bundle} {deltas : List Bundle} {sealFn : Bytes → Except AhuError Bytes}
  {result : ApplyResult} {bundle : Bundle}

theorem outputOf_fromBytes (accepted : applySealed base deltas sealFn = .ok result)
    (readsBack : ∀ manifest : Manifest, manifest.extensions = base.manifest.extensions →
      manifest.toCbor.length < 2 ^ 32 → manifest.ReadsBack)
    {manifestBytes : Bytes} (output : outputManifest base deltas = .ok manifestBytes)
    (fits : SealFits sealFn manifestBytes) :
    ∃ bundle, Bundle.fromBytes result.bytes = .ok bundle ∧
      OutputOf base deltas sealFn result bundle := by
  obtain ⟨window, applied⟩ := applySealed_eq_ok.mp accepted
  cases output.symm.trans applied.outputManifest
  have reads := readsBack _ (extensions_outputBuilder base deltas result.finalEpoch window)
    fits.manifestFits
  obtain ⟨header, sealBytes, _, _, parsed⟩ :=
    BundleBuilder.fromBytes_build fits reads applied.built
  exact ⟨_, parsed,
    { accepted := accepted
      written := ⟨window, header, sealBytes, applied.windowed, rfl⟩ }⟩

/-! ### Payload encoding -/

theorem OutputOf.encoding (output : OutputOf base deltas sealFn result bundle) :
    bundle.manifest.encoding = base.manifest.encoding := by
  obtain ⟨window, header, sealBytes, _, rfl⟩ := output.written
  unfold Manifest.encoding BundleBuilder.written BundleBuilder.finalManifest
  dsimp only
  rw [manifest_outputBuilder]
  rfl

omit [Sha2] [Ciborium] in
theorem encoding_of_profile (profile : validateServingProfile bundle = .ok ()) :
    bundle.manifest.encoding = (.none, none) := by
  unfold validateServingProfile at profile
  obtain ⟨_, _, profile⟩ := Except.bind_eq_ok.mp profile
  obtain ⟨_, plain, profile⟩ := Except.bind_eq_ok.mp profile
  obtain ⟨_, noDictionary, _⟩ := Except.bind_eq_ok.mp profile
  have plain := Except.require_eq_ok.mp plain
  have noDictionary := Except.require_eq_ok.mp noDictionary
  unfold Manifest.encoding
  cases present : bundle.manifest.compression with
  | none =>
      rfl
  | some compression =>
      rw [present, Option.all_some] at plain noDictionary
      exact Prod.ext (of_decide_eq_true plain) (Option.isNone_iff_eq_none.mp noDictionary)

/-- The delta has a payload that no delta behind it mentions. -/
def Contributes (delta : Bundle) (behind : List Bundle) : Prop :=
  ∃ reference record payload, delta.record reference = some record ∧
    delta.entryBytes record = some payload ∧ ∀ later ∈ behind, later.record reference = none

omit [Sha2] [Ciborium] in
theorem retained_of_contributes {front behind : List Bundle} {delta : Bundle}
    (split : deltas = front ++ delta :: behind) (contributes : Contributes delta behind) :
    ∃ reference payload, retained (base :: deltas) reference = some (delta, payload) := by
  obtain ⟨reference, record, payload, found, content, silent⟩ := contributes
  refine ⟨reference, payload, retained_eq_some_iff.mpr ?_⟩
  exact ⟨base :: front, behind, record, by rw [split, List.cons_append], found, content, silent⟩

omit [Sha2] [Ciborium] in
theorem origin_of_retained {reference : EntryRef} {source : Bundle} {payload : Bytes}
    (present : retained (base :: deltas) reference = some (source, payload)) :
    source = base ∨
      ∃ front behind, deltas = front ++ source :: behind ∧ Contributes source behind := by
  obtain ⟨front, behind, record, split, found, content, silent⟩ :=
    retained_eq_some_iff.mp present
  cases front with
  | nil =>
      exact Or.inl (List.cons.inj split).1.symm
  | cons first front =>
      exact Or.inr ⟨front, behind, (List.cons.inj split).2,
        reference, record, payload, found, content, silent⟩

omit [Sha2] [Ciborium] in
theorem retained_of_last (front : List Bundle) {source : Bundle} {reference : EntryRef}
    {payload : Bytes} (found : source.payload reference = some payload) :
    retained (front ++ [source]) reference = some (source, payload) := by
  rw [Bundle.payload_eq_bind] at found
  obtain ⟨record, present, content⟩ := Option.bind_eq_some_iff.mp found
  exact retained_eq_some_iff.mpr ⟨front, [], record, rfl, present, content,
    fun later member => absurd member List.not_mem_nil⟩

/-- For every accepted base and deltas: each retained payload was stored under
the encoding the output declares, and an output that may be served holds no
payload of a compressed input, exactly when every delta with a payload that no
later delta mentions declares the encoding of the base. -/
theorem output_keeps_encoding_iff
    (output : OutputOf base deltas sealFn result bundle) :
    ((∀ reference source payload,
        retained (base :: deltas) reference = some (source, payload) →
          source.manifest.encoding = bundle.manifest.encoding) ∧
      (validateServingProfile bundle = .ok () → ∀ reference source payload,
        retained (base :: deltas) reference = some (source, payload) →
          source.manifest.encoding = (.none, none))) ↔
      ∀ front delta behind, deltas = front ++ delta :: behind → Contributes delta behind →
        delta.manifest.encoding = base.manifest.encoding := by
  constructor
  · intro kept front delta behind split contributes
    obtain ⟨reference, payload, present⟩ := retained_of_contributes split contributes
    rw [kept.1 reference delta payload present, output.encoding]
  · intro alike
    have kept : ∀ reference source payload,
        retained (base :: deltas) reference = some (source, payload) →
          source.manifest.encoding = bundle.manifest.encoding := by
      intro reference source payload present
      rw [output.encoding]
      rcases origin_of_retained present with fromBase | fromDelta
      · rw [fromBase]
      · obtain ⟨front, behind, split, contributes⟩ := fromDelta
        exact alike front source behind split contributes
    refine ⟨kept, ?_⟩
    intro profile reference source payload present
    rw [kept reference source payload present]
    exact encoding_of_profile profile

/-! ### Serving time -/

omit [Sha2] [Ciborium] in
theorem minOver_spec (field : Window → UInt64) (rest : List Window) :
    ∀ first : Window, (∀ window ∈ first :: rest, minOver field first rest ≤ field window) ∧
      ∃ window ∈ first :: rest, minOver field first rest = field window := by
  have general : ∀ start : UInt64,
      let least := rest.foldl (fun bound window => minU64 bound (field window)) start
      least ≤ start ∧ (∀ window ∈ rest, least ≤ field window) ∧
        (least = start ∨ ∃ window ∈ rest, least = field window) := by
    induction rest with
    | nil =>
        intro start
        exact ⟨UInt64.le_refl _, fun window member => absurd member List.not_mem_nil, Or.inl rfl⟩
    | cons head tail ih =>
        intro start
        obtain ⟨below, all, attained⟩ := ih (minU64 start (field head))
        obtain ⟨left, right, choice⟩ := minU64_spec start (field head)
        refine ⟨UInt64.le_trans below left, ?_, ?_⟩
        · intro window member
          rcases List.mem_cons.mp member with rfl | later
          · exact UInt64.le_trans below right
          · exact all window later
        · rcases attained with atStart | atLater
          · rcases choice with atFirst | atHead
            · exact Or.inl (atStart.trans atFirst)
            · exact Or.inr ⟨head, List.mem_cons_self, atStart.trans atHead⟩
          · obtain ⟨window, member, same⟩ := atLater
            exact Or.inr ⟨window, List.mem_cons_of_mem _ member, same⟩
  intro first
  obtain ⟨below, all, attained⟩ := general (field first)
  constructor
  · intro window member
    rcases List.mem_cons.mp member with rfl | later
    · exact below
    · exact all window later
  · rcases attained with atFirst | atLater
    · exact ⟨first, List.mem_cons_self, atFirst⟩
    · obtain ⟨window, member, same⟩ := atLater
      exact ⟨window, List.mem_cons_of_mem _ member, same⟩

/-- The output window starts with the earliest and ends with the first to end
of the retained windows. -/
structure Covers (window : Window) (windows : List Window) : Prop where
  starts : ∀ other ∈ windows, window.thisUpdateMin ≤ other.thisUpdateMin
  ends : ∀ other ∈ windows, window.nextUpdateMin ≤ other.nextUpdateMin
  earliest : windows ≠ [] → ∃ other ∈ windows, window.thisUpdateMin = other.thisUpdateMin

omit [Sha2] [Ciborium] in
theorem covers_materializedWindow {kept window : Window} {windows : List Window}
    (windowed : materializedWindow kept windows = .ok window) : Covers window windows := by
  cases windows with
  | nil =>
      exact
        { starts := fun other member => absurd member List.not_mem_nil
          ends := fun other member => absurd member List.not_mem_nil
          earliest := fun nonempty => absurd rfl nonempty }
  | cons first rest =>
      unfold materializedWindow at windowed
      obtain ⟨_, _, windowed⟩ := Except.bind_eq_ok.mp windowed
      obtain ⟨_, _, windowed⟩ := Except.bind_eq_ok.mp windowed
      cases windowed
      obtain ⟨starts, earliest⟩ := minOver_spec Window.thisUpdateMin rest first
      obtain ⟨ends, _⟩ := minOver_spec Window.nextUpdateMin rest first
      exact
        { starts := starts
          ends := ends
          earliest := fun _ => earliest }

theorem mem_windows_iff (accepted : applySealed base deltas sealFn = .ok result)
    {window : Window} :
    window ∈ (Progress.finish base deltas).windows ↔
      ∃ reference source payload, retained (base :: deltas) reference = some (source, payload) ∧
        source.manifest.window = window := by
  obtain ⟨_, applied⟩ := applySealed_eq_ok.mp accepted
  have holds := applied.holds
  unfold Progress.windows
  rw [List.mem_map]
  constructor
  · intro listed
    obtain ⟨⟨reference, entry⟩, member, same⟩ := listed
    have present := Std.TreeMap.mem_toList_iff_getElem?_eq_some.mp member
    obtain ⟨source, found, window_eq⟩ := holds.entry present
    exact ⟨reference, source, entry.data, found, window_eq.symm.trans same⟩
  · intro origin
    obtain ⟨reference, source, payload, found, same⟩ := origin
    obtain ⟨entry, present, _, window_eq⟩ := holds.origin found
    exact ⟨(reference, entry), Std.TreeMap.mem_toList_iff_getElem?_eq_some.mpr present,
      window_eq.trans same⟩

theorem OutputOf.covers (output : OutputOf base deltas sealFn result bundle) :
    Covers bundle.manifest.window (Progress.finish base deltas).windows := by
  obtain ⟨window, header, sealBytes, windowed, rfl⟩ := output.written
  have same : ((outputBuilder base deltas result.finalEpoch window).written header
      sealBytes).manifest.window = window := by
    unfold BundleBuilder.written BundleBuilder.finalManifest
    dsimp only
    rw [manifest_outputBuilder]
    rfl
  rw [same]
  exact covers_materializedWindow windowed

/-- For every accepted base and deltas and every instant at which the freshness
check passes for the output: the input of each retained payload has not
expired, so the check passes for it as soon as it has started, and it passes
for at least one of them. -/
theorem output_served_within_inputs
    (output : OutputOf base deltas sealFn result bundle) (now : UInt64)
    (served : bundle.manifest.window.outside now = false) :
    (∀ reference source payload,
        retained (base :: deltas) reference = some (source, payload) →
          (source.manifest.window.outside now = false ↔
            source.manifest.window.thisUpdateMin ≤ now)) ∧
      ((∃ reference, (retained (base :: deltas) reference).isSome) →
        ∃ reference source payload,
          retained (base :: deltas) reference = some (source, payload) ∧
            source.manifest.window.outside now = false) := by
  obtain ⟨started, unexpired⟩ := Window.outside_eq_false.mp served
  have covers := output.covers
  have accepted := output.accepted
  have alive : ∀ reference source payload,
      retained (base :: deltas) reference = some (source, payload) →
        now < source.manifest.window.nextUpdateMin := by
    intro reference source payload present
    have listed := (mem_windows_iff accepted).mpr ⟨reference, source, payload, present, rfl⟩
    exact UInt64.lt_of_lt_of_le unexpired (covers.ends _ listed)
  constructor
  · intro reference source payload present
    rw [Window.outside_eq_false]
    exact and_iff_left (alive reference source payload present)
  · intro some_retained
    obtain ⟨reference, found⟩ := some_retained
    obtain ⟨⟨source, payload⟩, present⟩ := Option.isSome_iff_exists.mp found
    have listed := (mem_windows_iff accepted).mpr ⟨reference, source, payload, present, rfl⟩
    obtain ⟨window, member, same⟩ := covers.earliest (List.ne_nil_of_mem listed)
    obtain ⟨early, earlySource, earlyPayload, earlyPresent, window_eq⟩ :=
      (mem_windows_iff accepted).mp member
    refine ⟨early, earlySource, earlyPayload, earlyPresent, Window.outside_eq_false.mpr ?_⟩
    rw [window_eq, ← same]
    exact ⟨started, window_eq ▸ alive early earlySource earlyPayload earlyPresent⟩

end Output

/-! ### One delta -/

section Samples

local instance provenanceSha2 : Sha2 := Crates.sha2
local instance provenanceCiborium : Ciborium := Crates.ciborium

theorem exists_output {base delta : Bundle} (plain : base.manifest.extensions = none)
    (applies : (applySealed base [delta] shortFn).isOk) :
    ∃ result bundle, Bundle.fromBytes result.bytes = .ok bundle ∧
      OutputOf base [delta] shortFn result bundle := by
  obtain ⟨result, accepted⟩ := Except.exists_of_isOk applies
  obtain ⟨window, applied⟩ := applySealed_eq_ok.mp accepted
  refine ⟨result, outputOf_fromBytes accepted ?_ applied.outputManifest
    (applied.sealsWith_shortFn.fits (by decide))⟩
  intro manifest same short
  exact Crates.readsBack (same.trans plain) (Nat.lt_trans short (by decide))

def compressedManifest (manifest : Manifest) : Manifest :=
  { manifest with
    compression := some
      { algorithm := .zstd
        dictionaryDigest := none } }

def compressedBase : Bundle :=
  sampleInput (compressedManifest (Crates.plainManifest "p" [Crates.plainScope 0xaa 5] none))
    [(1, some [0x28, 0xb5, 0x2f, 0xfd, 1]), (2, some [0x28, 0xb5, 0x2f, 0xfd, 2])]

def compressedDelta (base : Bundle) : Bundle :=
  sampleInput (compressedManifest (deltaManifest base base 6))
    [(1, some [0x28, 0xb5, 0x2f, 0xfd])]

/-- Frames from both inputs stay declared as frames. -/
theorem compressed_inputs_keep_encoding : ∃ result bundle,
    OutputOf compressedBase [compressedDelta compressedBase] shortFn result bundle ∧
      bundle.manifest.encoding = (.zstd, none) ∧
      ∀ reference source payload,
        retained [compressedBase, compressedDelta compressedBase] reference =
            some (source, payload) →
          source.manifest.encoding = bundle.manifest.encoding := by
  have applies :
      (applySealed compressedBase [compressedDelta compressedBase] shortFn).isOk = true := by
    decide +kernel
  obtain ⟨result, bundle, _, output⟩ := exists_output rfl applies
  have alike : ∀ front delta behind,
      [compressedDelta compressedBase] = front ++ delta :: behind → Contributes delta behind →
        delta.manifest.encoding = compressedBase.manifest.encoding := by
    intro front delta behind split _
    have member : delta ∈ [compressedDelta compressedBase] := by
      rw [split]
      exact List.mem_append_right _ List.mem_cons_self
    rw [List.mem_singleton.mp member]
    rfl
  exact ⟨result, bundle, output, output.encoding,
    ((output_keeps_encoding_iff output).mpr alike).1⟩

/-- The output passes for an uncompressed bundle and holds a compressed payload. -/
theorem compressedDelta_passes_as_plain : ∃ result bundle,
    OutputOf sampleBase [compressedDelta sampleBase] shortFn result bundle ∧
      Bundle.fromBytes result.bytes = .ok bundle ∧ validateServingProfile bundle = .ok () ∧
      retained [sampleBase, compressedDelta sampleBase] (sampleReference 1) =
        some (compressedDelta sampleBase, [0x28, 0xb5, 0x2f, 0xfd]) ∧
      (compressedDelta sampleBase).manifest.encoding = (.zstd, none) := by
  obtain ⟨applies, profile⟩ :
      (applySealed sampleBase [compressedDelta sampleBase] shortFn).isOk = true ∧
        (applySealed sampleBase [compressedDelta sampleBase] shortFn).toOption.all (fun result =>
          (Bundle.fromBytes result.bytes).toOption.all fun bundle =>
            (validateServingProfile bundle).isOk) = true := by
    decide +kernel
  obtain ⟨result, bundle, parses, output⟩ := exists_output rfl applies
  rw [output.accepted] at profile
  change (Bundle.fromBytes result.bytes).toOption.all _ = true at profile
  rw [parses] at profile
  obtain ⟨_, passes⟩ := Except.exists_of_isOk profile
  have kept : (compressedDelta sampleBase).payload (sampleReference 1) =
      some [0x28, 0xb5, 0x2f, 0xfd] := by
    decide
  exact ⟨result, bundle, output, parses, passes, retained_of_last [sampleBase] kept, rfl⟩

def lateDelta : Bundle :=
  sampleInput { deltaManifest sampleBase sampleBase 6 with
      window :=
        { producedAt := 1800003600
          thisUpdateMin := 1800003600
          nextUpdateMin := 1800090000
          nextUpdateMax := 1800090000 } }
    [(1, some [1])]

theorem exists_lateOutput : ∃ result bundle,
    OutputOf sampleBase [lateDelta] shortFn result bundle ∧
      bundle.manifest.window.outside 1800000000 = false := by
  obtain ⟨applies, served⟩ :
      (applySealed sampleBase [lateDelta] shortFn).isOk = true ∧
        (applySealed sampleBase [lateDelta] shortFn).toOption.all (fun result =>
          (Bundle.fromBytes result.bytes).toOption.all fun bundle =>
            !bundle.manifest.window.outside 1800000000) = true := by
    decide +kernel
  obtain ⟨result, bundle, parses, output⟩ := exists_output rfl applies
  rw [output.accepted] at served
  change (Bundle.fromBytes result.bytes).toOption.all _ = true at served
  rw [parses] at served
  rw [Except.toOption, Option.all_some, Bool.not_eq_true'] at served
  exact ⟨result, bundle, output, served⟩

/-- When the base starts, the output is served and its payload of the base with
it. -/
theorem lateDelta_served_within_inputs : ∃ result bundle,
    OutputOf sampleBase [lateDelta] shortFn result bundle ∧
      bundle.manifest.window.outside 1800000000 = false ∧
      ∃ reference source payload,
        retained [sampleBase, lateDelta] reference = some (source, payload) ∧
          source.manifest.window.outside 1800000000 = false := by
  obtain ⟨result, bundle, output, served⟩ := exists_lateOutput
  have kept : (retained [sampleBase, lateDelta] (sampleReference 1)).isSome = true := by
    decide
  exact ⟨result, bundle, output, served,
    (output_served_within_inputs output 1800000000 served).2 ⟨sampleReference 1, kept⟩⟩

/-- At the same instant the delta of another retained payload is not served. -/
theorem lateDelta_served_early : ∃ result bundle,
    OutputOf sampleBase [lateDelta] shortFn result bundle ∧
      bundle.manifest.window.outside 1800000000 = false ∧
      retained [sampleBase, lateDelta] (sampleReference 1) = some (lateDelta, [1]) ∧
      lateDelta.manifest.window.outside 1800000000 = true := by
  obtain ⟨result, bundle, output, served⟩ := exists_lateOutput
  have kept : lateDelta.payload (sampleReference 1) = some [1] := by
    decide
  exact ⟨result, bundle, output, served, retained_of_last [sampleBase] kept, rfl⟩

end Samples

end Hoike
