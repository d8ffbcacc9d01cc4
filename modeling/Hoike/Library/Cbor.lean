/-
The CBOR data model and its definite-length encoding.

A value keeps map entries in the order in which they were read, including
repeated keys; interpretation is left to the readers of a value.  The encoder
writes every length in its shortest form.  The decoder accepts any definite
form and returns what follows the item.
-/

import Hoike.Library.Octets

namespace Cbor

inductive Value where
  | integer (value : Int)
  | bytes (value : Bytes)
  | float (bits : UInt64)
  | text (value : String)
  | bool (value : Bool)
  | null
  | tag (number : UInt64) (content : Value)
  | array (items : List Value)
  | map (entries : List (Value × Value))

namespace Value

def asInteger : Value → Option Int
  | integer value => some value
  | _ => none

def asBytes : Value → Option Bytes
  | bytes value => some value
  | _ => none

def asText : Value → Option String
  | text value => some value
  | _ => none

def asArray : Value → Option (List Value)
  | array items => some items
  | _ => none

def asMap : Value → Option (List (Value × Value))
  | map entries => some entries
  | _ => none

end Value

/-! ### Heads -/

/-- The initial octet carries the major type and a short argument, or the
width of the argument that follows. -/
def head (major argument : Nat) : Bytes :=
  if argument < 24 then [UInt8.ofNat (32 * major + argument)]
  else if argument < 256 then UInt8.ofNat (32 * major + 24) :: Bytes.ofNatBE 1 argument
  else if argument < 65536 then UInt8.ofNat (32 * major + 25) :: Bytes.ofNatBE 2 argument
  else if argument < 4294967296 then UInt8.ofNat (32 * major + 26) :: Bytes.ofNatBE 4 argument
  else UInt8.ofNat (32 * major + 27) :: Bytes.ofNatBE 8 argument

def split (count : Nat) (bytes : Bytes) : Option (Bytes × Bytes) :=
  if count ≤ bytes.length then some (bytes.take count, bytes.drop count) else none

def readWide (width : Nat) (bytes : Bytes) : Option (Nat × Bytes) :=
  (split width bytes).map fun parts => (Bytes.toNatBE parts.1, parts.2)

def readArgument (info : Nat) (bytes : Bytes) : Option (Nat × Bytes) :=
  if info < 24 then some (info, bytes)
  else if info = 24 then readWide 1 bytes
  else if info = 25 then readWide 2 bytes
  else if info = 26 then readWide 4 bytes
  else if info = 27 then readWide 8 bytes
  else none

def readHead : Bytes → Option (Nat × Nat × Bytes)
  | [] => none
  | first :: rest =>
      (readArgument (first.toNat % 32) rest).map fun parts =>
        (first.toNat / 32, parts.1, parts.2)

theorem split_append (bytes rest : Bytes) :
    split bytes.length (bytes ++ rest) = some (bytes, rest) := by
  simp [split]

theorem readWide_ofNatBE {width value : Nat} (inRange : value < 256 ^ width) (rest : Bytes) :
    readWide width (Bytes.ofNatBE width value ++ rest) = some (value, rest) := by
  have parts := split_append (Bytes.ofNatBE width value) rest
  rw [Bytes.length_ofNatBE] at parts
  rw [readWide, parts, Option.map_some, Bytes.toNatBE_ofNatBE inRange]

theorem readHead_head {major argument : Nat} (small : major < 8)
    (inRange : argument < 18446744073709551616) (rest : Bytes) :
    readHead (head major argument ++ rest) = some (major, argument, rest) := by
  have first : ∀ info, info < 32 → (UInt8.ofNat (32 * major + info)).toNat = 32 * major + info :=
    fun info below => UInt8.toNat_ofNat_of_lt' (by change _ < 256; omega)
  have wide : ∀ info width, info < 32 → argument < 256 ^ width →
      readArgument info (Bytes.ofNatBE width argument ++ rest) =
        readWide width (Bytes.ofNatBE width argument ++ rest) →
      readHead (UInt8.ofNat (32 * major + info) :: Bytes.ofNatBE width argument ++ rest) =
        some (major, argument, rest) := by
    intro info width below fits reads
    rw [List.cons_append, readHead, first info below,
      show (32 * major + info) % 32 = info by omega, reads, readWide_ofNatBE fits]
    simp only [Option.map_some]
    rw [show (32 * major + info) / 32 = major by omega]
  unfold head
  split_ifs with tiny octet short long
  · rw [List.singleton_append, readHead, first argument (by omega),
      show (32 * major + argument) % 32 = argument by omega, readArgument, if_pos tiny]
    simp only [Option.map_some]
    rw [show (32 * major + argument) / 32 = major by omega]
  · exact wide 24 1 (by decide) (by omega) rfl
  · exact wide 25 2 (by decide) (by omega) rfl
  · exact wide 26 4 (by decide) (by omega) rfl
  · exact wide 27 8 (by decide) (by omega) rfl

theorem head_pos (major argument : Nat) : 0 < (head major argument).length := by
  unfold head
  split_ifs <;> simp

/-! ### Items -/

def utf8 (text : String) : Bytes :=
  text.toUTF8.data.toList

def ofUtf8 (bytes : Bytes) : Option String :=
  String.fromUTF8? ⟨bytes.toArray⟩

theorem ofUtf8_utf8 (text : String) : ofUtf8 (utf8 text) = some text := by
  have same : (⟨text.toUTF8.data.toList.toArray⟩ : ByteArray) = text.toByteArray := rfl
  unfold ofUtf8 utf8 String.fromUTF8?
  rw [same, dif_pos text.isValidUTF8]
  rfl

mutual

def encode : Value → Bytes
  | .integer value =>
      if 0 ≤ value then head 0 value.toNat else head 1 (-value - 1).toNat
  | .bytes value => head 2 value.length ++ value
  | .text value => head 3 (utf8 value).length ++ utf8 value
  | .array items => head 4 items.length ++ encodeItems items
  | .map entries => head 5 entries.length ++ encodeEntries entries
  | .tag number content => head 6 number.toNat ++ encode content
  | .bool value => if value then [0xf5] else [0xf4]
  | .null => [0xf6]
  | .float bits => 0xfb :: Bytes.ofNatBE 8 bits.toNat

def encodeItems : List Value → Bytes
  | [] => []
  | item :: rest => encode item ++ encodeItems rest

def encodeEntries : List (Value × Value) → Bytes
  | [] => []
  | (key, value) :: rest => encode key ++ encode value ++ encodeEntries rest

end

def readMany {α : Type} (read : Bytes → Option (α × Bytes)) :
    (count : Nat) → Bytes → Option (List α × Bytes)
  | 0, bytes => some ([], bytes)
  | count + 1, bytes =>
      match read bytes with
      | none => none
      | some (item, rest) =>
          (readMany read count rest).map fun parts => (item :: parts.1, parts.2)

def readPair (read : Bytes → Option (Value × Bytes)) (bytes : Bytes) :
    Option ((Value × Value) × Bytes) :=
  match read bytes with
  | none => none
  | some (key, rest) => (read rest).map fun parts => ((key, parts.1), parts.2)

def readSimple : Bytes → Option (Value × Bytes)
  | [] => none
  | first :: rest =>
      if first = 0xf4 then some (.bool false, rest)
      else if first = 0xf5 then some (.bool true, rest)
      else if first = 0xf6 then some (.null, rest)
      else if first = 0xfb then
        (readWide 8 rest).map fun parts => (.float (UInt64.ofNat parts.1), parts.2)
      else none

/-- One item.  Each level of nesting takes one unit of fuel. -/
def decodeItem : (fuel : Nat) → Bytes → Option (Value × Bytes)
  | 0, _ => none
  | fuel + 1, bytes =>
      match readHead bytes with
      | none => none
      | some (0, argument, rest) => some (.integer argument, rest)
      | some (1, argument, rest) => some (.integer (-argument - 1), rest)
      | some (2, argument, rest) =>
          (split argument rest).map fun parts => (.bytes parts.1, parts.2)
      | some (3, argument, rest) =>
          match split argument rest with
          | none => none
          | some (content, rest) => (ofUtf8 content).map fun text => (.text text, rest)
      | some (4, argument, rest) =>
          (readMany (decodeItem fuel) argument rest).map fun parts => (.array parts.1, parts.2)
      | some (5, argument, rest) =>
          (readMany (readPair (decodeItem fuel)) argument rest).map fun parts =>
            (.map parts.1, parts.2)
      | some (6, argument, rest) =>
          (decodeItem fuel rest).map fun parts =>
            (.tag (UInt64.ofNat argument) parts.1, parts.2)
      | some (_, _, _) => readSimple bytes

/-- The first item of the octets; what follows it is not looked at. -/
def decode (bytes : Bytes) : Option Value :=
  (decodeItem bytes.length bytes).map Prod.fst

/-! ### Round trip -/

mutual

def Encodable : Value → Prop
  | .integer value => -18446744073709551616 ≤ value ∧ value < 18446744073709551616
  | .bytes value => value.length < 18446744073709551616
  | .text value => (utf8 value).length < 18446744073709551616
  | .array items => items.length < 18446744073709551616 ∧ EncodableItems items
  | .map entries => entries.length < 18446744073709551616 ∧ EncodableEntries entries
  | .tag _ content => Encodable content
  | .bool _ => True
  | .null => True
  | .float _ => True

def EncodableItems : List Value → Prop
  | [] => True
  | item :: rest => Encodable item ∧ EncodableItems rest

def EncodableEntries : List (Value × Value) → Prop
  | [] => True
  | (key, value) :: rest => Encodable key ∧ Encodable value ∧ EncodableEntries rest

end

theorem encode_pos (value : Value) : 0 < (encode value).length := by
  cases value with
  | integer value =>
      rw [encode]
      split_ifs <;> exact head_pos _ _
  | bool value =>
      cases value <;> decide
  | null =>
      decide
  | float bits =>
      simp [encode]
  | bytes value =>
      simp only [encode, List.length_append]
      exact Nat.add_pos_left (head_pos _ _) _
  | text value =>
      simp only [encode, List.length_append]
      exact Nat.add_pos_left (head_pos _ _) _
  | tag number content =>
      simp only [encode, List.length_append]
      exact Nat.add_pos_left (head_pos _ _) _
  | array items =>
      simp only [encode, List.length_append]
      exact Nat.add_pos_left (head_pos _ _) _
  | map entries =>
      simp only [encode, List.length_append]
      exact Nat.add_pos_left (head_pos _ _) _

/-- What follows a head is shorter than the whole, so it can be read with one
unit of fuel less. -/
theorem length_le_of_head {major argument fuel : Nat} {body : Bytes}
    (enough : (head major argument ++ body).length ≤ fuel + 1) : body.length ≤ fuel := by
  have positive := head_pos major argument
  rw [List.length_append] at enough
  omega

mutual

theorem decodeItem_encode (value : Value) (fuel : Nat) (rest : Bytes)
    (encodable : Encodable value) (enough : (encode value).length ≤ fuel) :
    decodeItem fuel (encode value ++ rest) = some (value, rest) := by
  obtain ⟨fuel, rfl⟩ : ∃ less, fuel = less + 1 :=
    ⟨fuel - 1, by have := encode_pos value; omega⟩
  cases value with
  | integer value =>
      rw [Encodable] at encodable
      rw [encode, decodeItem]
      split_ifs with sign
      · rw [readHead_head (by decide) (by omega)]
        simp only [Int.toNat_of_nonneg sign]
      · rw [readHead_head (by decide) (by omega)]
        simp only [Option.some.injEq, Prod.mk.injEq, Value.integer.injEq, and_true]
        omega
  | bytes value =>
      rw [Encodable] at encodable
      rw [encode, List.append_assoc, decodeItem, readHead_head (by decide) encodable]
      simp only [split_append, Option.map_some]
  | float bits =>
      have fits : bits.toNat < 256 ^ 8 := bits.toNat_lt
      have first : readHead (encode (.float bits) ++ rest) = some (7, bits.toNat, rest) := by
        have argument : readArgument 27 (Bytes.ofNatBE 8 bits.toNat ++ rest) =
            some (bits.toNat, rest) := by
          have wide : readArgument 27 (Bytes.ofNatBE 8 bits.toNat ++ rest) =
              readWide 8 (Bytes.ofNatBE 8 bits.toNat ++ rest) := rfl
          rw [wide, readWide_ofNatBE fits rest]
        rw [encode, List.cons_append, readHead]
        change (readArgument 27 _).map _ = _
        rw [argument]
        rfl
      rw [decodeItem, first]
      simp only [encode, List.cons_append, readSimple]
      rw [readWide_ofNatBE fits rest]
      simp
  | text value =>
      rw [Encodable] at encodable
      rw [encode, List.append_assoc, decodeItem, readHead_head (by decide) encodable]
      simp only [split_append, ofUtf8_utf8, Option.map_some]
  | bool value =>
      cases value <;> rfl
  | null =>
      rfl
  | tag number content =>
      rw [Encodable] at encodable
      rw [encode] at enough
      rw [encode, List.append_assoc, decodeItem, readHead_head (by decide) number.toNat_lt]
      simp only [decodeItem_encode content fuel rest encodable (length_le_of_head enough),
        Option.map_some, UInt64.ofNat_toNat]
  | array items =>
      rw [Encodable] at encodable
      rw [encode] at enough
      rw [encode, List.append_assoc, decodeItem, readHead_head (by decide) encodable.1]
      simp only [readMany_encodeItems items fuel rest encodable.2 (length_le_of_head enough),
        Option.map_some]
  | map entries =>
      rw [Encodable] at encodable
      rw [encode] at enough
      rw [encode, List.append_assoc, decodeItem, readHead_head (by decide) encodable.1]
      simp only [readMany_encodeEntries entries fuel rest encodable.2
        (length_le_of_head enough), Option.map_some]

theorem readMany_encodeItems (items : List Value) (fuel : Nat) (rest : Bytes)
    (encodable : EncodableItems items) (enough : (encodeItems items).length ≤ fuel) :
    readMany (decodeItem fuel) items.length (encodeItems items ++ rest) = some (items, rest) := by
  cases items with
  | nil =>
      rfl
  | cons item others =>
      rw [EncodableItems] at encodable
      rw [encodeItems, List.length_append] at enough
      rw [encodeItems, List.append_assoc, List.length_cons, readMany,
        decodeItem_encode item fuel _ encodable.1 (by omega)]
      simp only [readMany_encodeItems others fuel rest encodable.2 (by omega), Option.map_some]

theorem readMany_encodeEntries (entries : List (Value × Value)) (fuel : Nat) (rest : Bytes)
    (encodable : EncodableEntries entries) (enough : (encodeEntries entries).length ≤ fuel) :
    readMany (readPair (decodeItem fuel)) entries.length (encodeEntries entries ++ rest) =
      some (entries, rest) := by
  match entries with
  | [] =>
      rfl
  | (key, value) :: others =>
      rw [EncodableEntries] at encodable
      rw [encodeEntries, List.length_append, List.length_append] at enough
      rw [encodeEntries, List.append_assoc, List.append_assoc, List.length_cons, readMany,
        readPair, decodeItem_encode key fuel _ encodable.1 (by omega)]
      simp only [decodeItem_encode value fuel _ encodable.2.1 (by omega), Option.map_some]
      rw [readMany_encodeEntries others fuel rest encodable.2.2 (by omega)]
      rfl

end

theorem decode_encode {value : Value} (encodable : Encodable value) :
    decode (encode value) = some value := by
  have whole := decodeItem_encode value (encode value).length [] encodable (Nat.le_refl _)
  rw [List.append_nil] at whole
  rw [decode, whole]
  rfl

/-! ### Short encodings -/

mutual

def InRange : Value → Prop
  | .integer value => -18446744073709551616 ≤ value ∧ value < 18446744073709551616
  | .array items => InRangeItems items
  | .map entries => InRangeEntries entries
  | .tag _ content => InRange content
  | .bytes _ | .text _ | .bool _ | .null | .float _ => True

def InRangeItems : List Value → Prop
  | [] => True
  | item :: rest => InRange item ∧ InRangeItems rest

def InRangeEntries : List (Value × Value) → Prop
  | [] => True
  | (key, value) :: rest => InRange key ∧ InRange value ∧ InRangeEntries rest

end

theorem inRangeItems_iff {items : List Value} :
    InRangeItems items ↔ ∀ item ∈ items, InRange item := by
  induction items with
  | nil =>
      simp [InRangeItems]
  | cons item rest ih =>
      rw [InRangeItems, ih, List.forall_mem_cons]

theorem inRangeEntries_iff {entries : List (Value × Value)} :
    InRangeEntries entries ↔ ∀ pair ∈ entries, InRange pair.1 ∧ InRange pair.2 := by
  induction entries with
  | nil =>
      simp [InRangeEntries]
  | cons pair rest ih =>
      obtain ⟨key, value⟩ := pair
      rw [InRangeEntries, ih, List.forall_mem_cons, and_assoc]

theorem length_le_encodeItems (items : List Value) :
    items.length ≤ (encodeItems items).length := by
  induction items with
  | nil =>
      simp
  | cons item rest ih =>
      have positive := encode_pos item
      rw [encodeItems, List.length_append, List.length_cons]
      omega

theorem length_le_encodeEntries (entries : List (Value × Value)) :
    entries.length ≤ (encodeEntries entries).length := by
  induction entries with
  | nil =>
      simp
  | cons pair rest ih =>
      obtain ⟨key, value⟩ := pair
      have positive := encode_pos key
      rw [encodeEntries, List.length_append, List.length_append, List.length_cons]
      omega

theorem length_encodeEntries (entries : List (Value × Value)) :
    (encodeEntries entries).length =
      entries.foldr (fun pair total => (encode pair.1).length + (encode pair.2).length + total)
        0 := by
  induction entries with
  | nil =>
      rfl
  | cons pair rest ih =>
      obtain ⟨key, value⟩ := pair
      rw [encodeEntries, List.length_append, List.length_append, ih, List.foldr_cons]

mutual

/-- The encoding is at least as long as any of its lengths, so a value whose
encoding is short enough has no length that overflows a head. -/
theorem encodable_of_length (value : Value) (inRange : InRange value)
    (short : (encode value).length < 18446744073709551616) : Encodable value := by
  cases value with
  | integer value =>
      rw [InRange] at inRange
      rw [Encodable]
      exact inRange
  | bytes value =>
      rw [encode, List.length_append] at short
      rw [Encodable]
      omega
  | float bits =>
      rw [Encodable]
      trivial
  | text value =>
      rw [encode, List.length_append] at short
      rw [Encodable]
      omega
  | bool value =>
      rw [Encodable]
      trivial
  | null =>
      rw [Encodable]
      trivial
  | tag number content =>
      rw [InRange] at inRange
      rw [encode, List.length_append] at short
      rw [Encodable]
      exact encodable_of_length content inRange (by omega)
  | array items =>
      have count := length_le_encodeItems items
      rw [InRange] at inRange
      rw [encode, List.length_append] at short
      rw [Encodable]
      exact ⟨by omega, encodableItems_of_length items inRange (by omega)⟩
  | map entries =>
      have count := length_le_encodeEntries entries
      rw [InRange] at inRange
      rw [encode, List.length_append] at short
      rw [Encodable]
      exact ⟨by omega, encodableEntries_of_length entries inRange (by omega)⟩

theorem encodableItems_of_length (items : List Value) (inRange : InRangeItems items)
    (short : (encodeItems items).length < 18446744073709551616) : EncodableItems items := by
  cases items with
  | nil =>
      rw [EncodableItems]
      trivial
  | cons item rest =>
      rw [InRangeItems] at inRange
      rw [encodeItems, List.length_append] at short
      rw [EncodableItems]
      exact ⟨encodable_of_length item inRange.1 (by omega),
        encodableItems_of_length rest inRange.2 (by omega)⟩

theorem encodableEntries_of_length (entries : List (Value × Value))
    (inRange : InRangeEntries entries)
    (short : (encodeEntries entries).length < 18446744073709551616) :
    EncodableEntries entries := by
  match entries with
  | [] =>
      rw [EncodableEntries]
      trivial
  | (key, value) :: rest =>
      rw [InRangeEntries] at inRange
      rw [encodeEntries, List.length_append, List.length_append] at short
      rw [EncodableEntries]
      exact ⟨encodable_of_length key inRange.1 (by omega),
        encodable_of_length value inRange.2.1 (by omega),
        encodableEntries_of_length rest inRange.2.2 (by omega)⟩

end

/-! ### Composed values -/

/-- Built from integers that fit a head, octets, text and some further leaves. -/
inductive Composed (leaf : Value → Prop) : Value → Prop where
  | leaf {value : Value} : leaf value → Composed leaf value
  | integer {value : Int} : -18446744073709551616 ≤ value → value < 18446744073709551616 →
      Composed leaf (.integer value)
  | bytes (value : Bytes) : Composed leaf (.bytes value)
  | text (value : String) : Composed leaf (.text value)
  | array {items : List Value} : (∀ item ∈ items, Composed leaf item) →
      Composed leaf (.array items)
  | map {entries : List (Value × Value)} : (∀ pair ∈ entries, Composed leaf pair.1) →
      (∀ pair ∈ entries, Composed leaf pair.2) → Composed leaf (.map entries)

theorem Composed.inRange {leaf : Value → Prop} (leaves : ∀ value, leaf value → InRange value)
    {value : Value} (composed : Composed leaf value) : InRange value := by
  induction composed with
  | leaf known =>
      exact leaves _ known
  | integer low high =>
      rw [InRange]
      exact ⟨low, high⟩
  | bytes value =>
      rw [InRange]
      trivial
  | text value =>
      rw [InRange]
      trivial
  | array _ items =>
      rw [InRange, inRangeItems_iff]
      exact items
  | map _ _ keys values =>
      rw [InRange, inRangeEntries_iff]
      exact fun pair member => ⟨keys pair member, values pair member⟩

/-! ### Decoded values -/

theorem split_eq_some {count : Nat} {bytes front back : Bytes}
    (parts : split count bytes = some (front, back)) : front.length = count := by
  unfold split at parts
  split_ifs at parts with enough
  cases parts
  exact List.length_take_of_le enough

theorem readWide_lt {width value : Nat} {bytes rest : Bytes}
    (read : readWide width bytes = some (value, rest)) : value < 256 ^ width := by
  unfold readWide at read
  obtain ⟨⟨front, back⟩, parts, same⟩ := Option.map_eq_some_iff.mp read
  cases same
  rw [← split_eq_some parts]
  exact Bytes.toNatBE_lt front

theorem readArgument_lt {info value : Nat} {bytes rest : Bytes}
    (read : readArgument info bytes = some (value, rest)) : value < 18446744073709551616 := by
  unfold readArgument at read
  split_ifs at read with tiny
  · cases read
    omega
  · exact Nat.lt_of_lt_of_le (readWide_lt read) (by decide)
  · exact Nat.lt_of_lt_of_le (readWide_lt read) (by decide)
  · exact Nat.lt_of_lt_of_le (readWide_lt read) (by decide)
  · exact Nat.lt_of_lt_of_le (readWide_lt read) (by decide)

theorem readHead_lt {major argument : Nat} {bytes rest : Bytes}
    (read : readHead bytes = some (major, argument, rest)) : argument < 18446744073709551616 := by
  cases bytes with
  | nil =>
      cases read
  | cons first others =>
      rw [readHead] at read
      obtain ⟨⟨value, back⟩, inner, same⟩ := Option.map_eq_some_iff.mp read
      cases same
      exact readArgument_lt inner

theorem forall_of_readMany {α : Type} {read : Bytes → Option (α × Bytes)} {good : α → Prop}
    (each : ∀ bytes item rest, read bytes = some (item, rest) → good item) :
    ∀ (count : Nat) (bytes : Bytes) (items : List α) (rest : Bytes),
      readMany read count bytes = some (items, rest) → ∀ item ∈ items, good item := by
  intro count
  induction count with
  | zero =>
      intro bytes items rest many item member
      cases many
      cases member
  | succ count ih =>
      intro bytes items rest many item member
      rw [readMany] at many
      cases first : read bytes with
      | none =>
          rw [first] at many
          cases many
      | some parts =>
          rw [first] at many
          obtain ⟨⟨others, back⟩, later, same⟩ := Option.map_eq_some_iff.mp many
          cases same
          rcases List.mem_cons.mp member with rfl | member
          · exact each _ _ _ first
          · exact ih _ _ _ later item member

theorem forall_of_readPair {read : Bytes → Option (Value × Bytes)} {good : Value → Prop}
    (each : ∀ bytes item rest, read bytes = some (item, rest) → good item)
    (bytes : Bytes) (pair : Value × Value) (rest : Bytes)
    (both : readPair read bytes = some (pair, rest)) : good pair.1 ∧ good pair.2 := by
  unfold readPair at both
  cases key : read bytes with
  | none =>
      rw [key] at both
      cases both
  | some parts =>
      rw [key] at both
      obtain ⟨content, later, same⟩ := Option.map_eq_some_iff.mp both
      cases same
      exact ⟨each _ _ _ key, each _ _ _ later⟩

theorem inRange_of_readSimple {bytes rest : Bytes} {value : Value}
    (read : readSimple bytes = some (value, rest)) : InRange value := by
  cases bytes with
  | nil =>
      cases read
  | cons first others =>
      rw [readSimple] at read
      split_ifs at read
      · cases read
        simp [InRange]
      · cases read
        simp [InRange]
      · cases read
        simp [InRange]
      · obtain ⟨_, _, same⟩ := Option.map_eq_some_iff.mp read
        cases same
        simp [InRange]

theorem inRange_of_decodeItem (fuel : Nat) :
    ∀ (bytes rest : Bytes) (value : Value), decodeItem fuel bytes = some (value, rest) →
      InRange value := by
  induction fuel with
  | zero =>
      intro bytes rest value decoded
      cases decoded
  | succ fuel ih =>
      intro bytes rest value decoded
      have items := forall_of_readMany (fun bytes item rest => ih bytes rest item)
      have pairs := forall_of_readMany (fun bytes pair rest =>
        forall_of_readPair (fun bytes item rest => ih bytes rest item) bytes pair rest)
      rw [decodeItem] at decoded
      split at decoded
      next => cases decoded
      next argument tail first =>
        cases decoded
        have bound := readHead_lt first
        rw [InRange]
        omega
      next argument tail first =>
        cases decoded
        have bound := readHead_lt first
        rw [InRange]
        omega
      next argument tail first =>
        obtain ⟨_, _, same⟩ := Option.map_eq_some_iff.mp decoded
        cases same
        simp [InRange]
      next argument tail first =>
        split at decoded
        next => cases decoded
        next content back _ =>
          obtain ⟨_, _, same⟩ := Option.map_eq_some_iff.mp decoded
          cases same
          simp [InRange]
      next argument tail first =>
        obtain ⟨⟨content, back⟩, read, same⟩ := Option.map_eq_some_iff.mp decoded
        cases same
        rw [InRange, inRangeItems_iff]
        exact items _ _ _ _ read
      next argument tail first =>
        obtain ⟨⟨content, back⟩, read, same⟩ := Option.map_eq_some_iff.mp decoded
        cases same
        rw [InRange, inRangeEntries_iff]
        exact pairs _ _ _ _ read
      next argument tail first =>
        obtain ⟨⟨content, back⟩, read, same⟩ := Option.map_eq_some_iff.mp decoded
        cases same
        rw [InRange]
        exact ih _ _ _ read
      next => exact inRange_of_readSimple decoded

theorem inRange_of_decode {bytes : Bytes} {value : Value} (decoded : decode bytes = some value) :
    InRange value := by
  unfold decode at decoded
  obtain ⟨⟨content, rest⟩, item, same⟩ := Option.map_eq_some_iff.mp decoded
  cases same
  exact inRange_of_decodeItem _ _ _ _ item

/-! ### Deterministic values -/

section Deterministic

variable (encoding : Value → Bytes)

mutual

/-- In every map, at every depth, the encodings of the keys ascend strictly in
bytewise order. -/
def Deterministic : Value → Prop
  | .array items => DeterministicItems items
  | .map entries =>
      (entries.map fun pair => encoding pair.1).Pairwise (· < ·) ∧ DeterministicEntries entries
  | .tag _ content => Deterministic content
  | .integer _ | .bytes _ | .text _ | .bool _ | .null | .float _ => True

def DeterministicItems : List Value → Prop
  | [] => True
  | item :: rest => Deterministic item ∧ DeterministicItems rest

def DeterministicEntries : List (Value × Value) → Prop
  | [] => True
  | (key, value) :: rest => Deterministic key ∧ Deterministic value ∧ DeterministicEntries rest

end

theorem deterministicItems_iff {items : List Value} :
    DeterministicItems encoding items ↔ ∀ item ∈ items, Deterministic encoding item := by
  induction items with
  | nil =>
      simp [DeterministicItems]
  | cons item rest ih =>
      rw [DeterministicItems, ih, List.forall_mem_cons]

theorem deterministicEntries_iff {entries : List (Value × Value)} :
    DeterministicEntries encoding entries ↔
      ∀ pair ∈ entries, Deterministic encoding pair.1 ∧ Deterministic encoding pair.2 := by
  induction entries with
  | nil =>
      simp [DeterministicEntries]
  | cons pair rest ih =>
      obtain ⟨key, value⟩ := pair
      rw [DeterministicEntries, ih, List.forall_mem_cons, and_assoc]

end Deterministic

end Cbor
