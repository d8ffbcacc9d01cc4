/-
Every manifest that can be written is read back.

The crate is assumed to be faithful on composition: what is built from small
integers, octets, text and values it reads back is read back.  The manifest
code adds no assumption of its own, so its encoding is injective.
-/

import Hoike.Ahu.Bundle
import Hoike.Ahu.Crates

namespace Hoike

open Cbor (Value Composed)

section Crate

variable [Ciborium]

def Ciborium.ReadsBack (value : Value) : Prop :=
  Ciborium.fromReader (Ciborium.intoWriter value) = .ok value

/-- Values composed of what is read back are read back, as far as their octets
fit one vector. -/
def Ciborium.Faithful : Prop :=
  ∀ value, Composed Ciborium.ReadsBack value →
    (Ciborium.intoWriter value).length < Ahu.maxVecLength → Ciborium.ReadsBack value

end Crate

namespace Crates

theorem inRange_of_readsBack {value : Value} (readsBack : @Ciborium.ReadsBack ciborium value) :
    Cbor.InRange value := by
  unfold Ciborium.ReadsBack Ciborium.fromReader ciborium at readsBack
  dsimp only at readsBack
  cases decoded : Cbor.decode (Cbor.encode value) with
  | none =>
      rw [decoded] at readsBack
      cases readsBack
  | some other =>
      rw [decoded] at readsBack
      cases readsBack
      exact Cbor.inRange_of_decode decoded

theorem faithful : @Ciborium.Faithful ciborium := by
  intro value composed short
  apply fromReader_intoWriter
  apply Cbor.encodable_of_length value (composed.inRange fun _ => inRange_of_readsBack)
  exact Nat.lt_trans short (by decide)

end Crates

namespace Ahu

section Manifests

variable [Ciborium]

/-- The extension values are read back and the octets fit one vector. -/
structure Manifest.Writable (manifest : Manifest) : Prop where
  extensions : ∀ extensions, manifest.extensions = some extensions →
    ∀ extension ∈ extensions, Ciborium.ReadsBack extension.2
  stored : manifest.toCbor.length < maxVecLength

theorem Manifest.Writable.readsBack {manifest : Manifest} (writable : manifest.Writable)
    (faithful : Ciborium.Faithful) : manifest.ReadsBack :=
  faithful _ (Manifest.composed_toMap writable.extensions) writable.stored

/-- A written manifest is read back field by field, so equal octets come from
equal manifests. -/
theorem manifest_round_trip (faithful : Ciborium.Faithful) :
    (∀ manifest : Manifest, manifest.Writable →
      Manifest.fromCbor manifest.toCbor = .ok manifest) ∧
      ∀ left right : Manifest, left.Writable → right.Writable →
        left.toCbor = right.toCbor → left = right := by
  constructor
  · intro manifest writable
    exact (writable.readsBack faithful).fromCbor
  · intro left right leftWritable rightWritable same
    exact (leftWritable.readsBack faithful).inj (rightWritable.readsBack faithful) same

end Manifests

/-! ### A manifest with every optional part -/

section Extended

local instance extendedSha2 : Sha2 := Crates.sha2
local instance extendedCiborium : Ciborium := Crates.ciborium

/-- Repeated extension names, a negative number, a float, a tag and a nested
map whose keys are not text. -/
def extendedManifest : Manifest :=
  { Crates.plainManifest "p" [
      { Crates.plainScope 0xaa 5 with responderChain := some [[1], [2, 3]] },
      Crates.plainScope 0xbb 18446744073709551615]
      (some ⟨List.replicate 32 7, List.length_replicate⟩) with
    shard := some
      { shardIndex := 1
        shardCount := 3
        shardFn := 0 }
    compression := some
      { algorithm := .zstd
        dictionaryDigest := some ⟨List.replicate 32 9, List.length_replicate⟩ }
    extensions := some [
      ("b", .array [.integer (-5), .float 0x3ff8000000000000, .null]),
      ("a", .map [(.integer 13, .tag 2 (.bytes [0xff])), (.bool true, .text "x")]),
      ("b", .map [])] }

theorem extendedManifest_writable : extendedManifest.Writable := by
  constructor
  · intro extensions stored extension member
    cases stored
    apply Crates.fromReader_intoWriter
    simp only [List.mem_cons, List.not_mem_nil, or_false] at member
    rcases member with rfl | rfl | rfl <;>
      exact Cbor.encodable_of_length _
        (by simp [Cbor.InRange, Cbor.InRangeItems, Cbor.InRangeEntries]) (by decide)
  · decide +kernel

theorem extendedManifest_round_trip :
    Manifest.fromCbor extendedManifest.toCbor = .ok extendedManifest :=
  (manifest_round_trip Crates.faithful).1 extendedManifest extendedManifest_writable

end Extended

end Ahu
end Hoike
