import DebugSymbols.Offset
import DebugSymbols.Text.Numeral
import DebugSymbols.Word

/-!
# Images

An image is the content of a symbol file, an opaque byte string. It has fewer than `2 ^ 63` bytes,
half of what offsets can count, so that each index into it, and its size, is an offset.

`find?` searches a key, `slice?` takes a range and `read?` a little-endian word. A range or a word
is there exactly if its exact end, position plus length, is within the image
(`slice?_eq_some_iff`, `read?_eq_some_iff`), whatever 64-bit words the two are.
-/

namespace DebugSymbols

/-- The content of a symbol file. -/
@[ext]
structure Image where
  bytes : Bytes
  length_lt : bytes.length < 0x8000000000000000
  deriving DecidableEq

namespace Image

/-- The image with these bytes, none if there are too many. -/
def ofBytes? (b : Bytes) : Option Image :=
  if h : b.length < 0x8000000000000000 then some ⟨b, h⟩ else none

def size (image : Image) : Offset := UInt64.ofNat image.bytes.length

def isEmpty (image : Image) : Bool := image.bytes.isEmpty

@[simp] theorem toNat_size (image : Image) : image.size.toNat = image.bytes.length := by
  have := image.length_lt
  rw [size, UInt64.toNat_ofNat', Nat.mod_eq_of_lt (by omega)]

/-- A sum of offsets that is within the image does not wrap. -/
theorem toNat_add (image : Image) {pos len : Offset}
    (h : pos.toNat + len.toNat ≤ image.bytes.length) :
    (pos + len).toNat = pos.toNat + len.toNat := by
  have hl := image.length_lt
  rw [UInt64.toNat_add, Nat.mod_eq_of_lt (by omega)]

theorem isEmpty_iff {image : Image} : image.isEmpty = true ↔ image.size = 0 := by
  rw [isEmpty, ← UInt64.toNat_inj, toNat_size, List.isEmpty_iff]
  simp

theorem ofBytes?_eq_some_iff {b : Bytes} {image : Image} :
    ofBytes? b = some image ↔ image.bytes = b := by
  unfold ofBytes?
  split
  · rw [Option.some.injEq, Image.ext_iff]
    exact eq_comm
  · rename_i h
    simp only [reduceCtorEq, false_iff]
    rintro rfl
    exact h image.length_lt

/-- The offset of the first occurrence of a key; the empty key has none. -/
def find? (image : Image) (key : Bytes) : Option Offset :=
  (Bytes.firstIndex? key image.bytes).map UInt64.ofNat

theorem find?_eq_some_iff {image : Image} {key : Bytes} {m : Offset} :
    image.find? key = some m ↔ Bytes.firstIndex? key image.bytes = some m.toNat := by
  rw [find?, Option.map_eq_some_iff]
  constructor
  · rintro ⟨n, hn, rfl⟩
    have := Bytes.firstIndex?_add_length_le hn
    have := image.length_lt
    rw [UInt64.toNat_ofNat', Nat.mod_eq_of_lt (by omega), hn]
  · exact fun h => ⟨_, h, UInt64.ofNat_toNat⟩

theorem find?_eq_none_iff {image : Image} {key : Bytes} :
    image.find? key = none ↔ Bytes.firstIndex? key image.bytes = none := by
  simp [find?]

/-- The `len` bytes from `pos` on, none unless all of them are there. -/
def slice? (image : Image) (pos len : Offset) : Option Bytes :=
  match Offset.add? pos len with
  | none => none
  | some stop =>
    if stop ≤ image.size then some ((image.bytes.drop pos.toNat).take len.toNat) else none

theorem slice?_eq_some_iff {image : Image} {pos len : Offset} {v : Bytes} :
    image.slice? pos len = some v ↔
      pos.toNat + len.toNat ≤ image.bytes.length ∧
        v = (image.bytes.drop pos.toNat).take len.toNat := by
  have hl := image.length_lt
  unfold slice?
  split
  · rename_i h
    have hs : UInt64.size = 2 ^ 64 := rfl
    rw [Offset.add?_eq_none_iff] at h
    simp only [reduceCtorEq, false_iff]
    omega
  · rename_i stop h
    rw [Offset.add?_eq_some_iff] at h
    split <;> rename_i hs <;> rw [UInt64.le_iff_toNat_le, toNat_size, ← h] at hs
    · simp [hs, eq_comm]
    · simp [hs]

theorem isSome_slice? {image : Image} {pos len : Offset} :
    (image.slice? pos len).isSome ↔ pos.toNat + len.toNat ≤ image.bytes.length := by
  simp [Option.isSome_iff_exists, slice?_eq_some_iff]

/-- The little-endian word at `pos`, none unless all of it is there. -/
def read? (image : Image) (α : Type) [Word α] (pos : Offset) : Option α :=
  (image.slice? pos (UInt64.ofNat (Word.size α))).bind (Word.decode? α)

theorem read?_eq_some_iff {image : Image} {α : Type} [Word α] {pos : Offset} {a : α} :
    image.read? α pos = some a ↔
      pos.toNat + Word.size α ≤ image.bytes.length ∧
        Word.encode a = (image.bytes.drop pos.toNat).take (Word.size α) := by
  have hs := Word.toNat_ofNat_size α
  simp only [read?, Option.bind_eq_some_iff, slice?_eq_some_iff, hs]
  constructor
  · rintro ⟨v, ⟨hl, rfl⟩, hd⟩
    exact ⟨hl, Word.encode_of_decode? hd⟩
  · rintro ⟨hl, he⟩
    exact ⟨_, ⟨hl, rfl⟩, he ▸ Word.decode?_encode a⟩

theorem isSome_read? {image : Image} {α : Type} [Word α] {pos : Offset} :
    (image.read? α pos).isSome ↔ pos.toNat + Word.size α ≤ image.bytes.length := by
  have hs := Word.toNat_ofNat_size α
  rw [read?, Option.isSome_bind]
  rcases h : image.slice? pos (UInt64.ofNat (Word.size α)) with _ | v
  · have hl := @isSome_slice? image pos (UInt64.ofNat (Word.size α))
    simpa [h, hs] using hl
  · rw [slice?_eq_some_iff, hs] at h
    simp only [Option.any_some, Word.isSome_decode?, h.1, iff_true]
    rw [h.2, List.length_take, List.length_drop]
    omega

def description (image : Image) : String :=
  "SymbolBuffer \x7b len: " ++ decimal image.size.toNat ++ " \x7d"

end Image

end DebugSymbols
