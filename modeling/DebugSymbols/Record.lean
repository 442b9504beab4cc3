import DebugSymbols.Image
import DebugSymbols.Symbol

/-!
# Records

A symbol's record has a fixed number of bytes and stands somewhere before the symbol's key. A
field's holds its offset in a segment and the segment's number, a method's the offset of its
header. `Record.read?` reads a record all or not at all: exactly if all its bytes are in the
image, and then they are the bytes that write it (`read?_eq_some_iff`).
-/

namespace DebugSymbols

/-- What a record says about a symbol of a kind. -/
inductive Payload : Kind → Type where
  | field (offset : UInt32) (segment : UInt16) : Payload .field
  | method (header : UInt32) : Payload .method
  deriving DecidableEq

def Payload.encode {k : Kind} : Payload k → Bytes
  | .field offset segment => Word.encode offset ++ Word.encode segment
  | .method header => Word.encode header

def Kind.recordSize : Kind → Offset
  | field => 6
  | method => 4

@[simp] theorem Payload.length_encode {k : Kind} (p : Payload k) :
    p.encode.length = k.recordSize.toNat := by
  cases p <;> simp [encode, Word.size, Kind.recordSize]

@[ext]
structure Record (k : Kind) where
  start : Offset
  payload : Payload k
  deriving DecidableEq

namespace Record

/-- The record that starts at an offset, none unless all of it is in the image. -/
def read? (image : Image) : (k : Kind) → Offset → Option (Record k)
  | .field, start => do
    let _ ← image.slice? start Kind.field.recordSize
    let offset ← image.read? UInt32 start
    let segment ← image.read? UInt16 (start + 4)
    return ⟨start, .field offset segment⟩
  | .method, start => do
    let header ← image.read? UInt32 start
    return ⟨start, .method header⟩

theorem toNat_add_four (image : Image) {start : Offset}
    (h : start.toNat + 4 ≤ image.bytes.length) : (start + 4).toNat = start.toNat + 4 :=
  image.toNat_add h

theorem read?_eq_some_iff {image : Image} {k : Kind} {start : Offset} {r : Record k} :
    read? image k start = some r ↔
      r.start = start ∧ start.toNat + k.recordSize.toNat ≤ image.bytes.length ∧
        r.payload.encode = (image.bytes.drop start.toNat).take k.recordSize.toNat := by
  obtain ⟨s, p⟩ := r
  cases p with
  | field offset segment =>
    -- with all six bytes there, the segment's place is the sum in the natural numbers
    have h4 : start.toNat + 6 ≤ image.bytes.length → (start + 4).toNat = start.toNat + 4 :=
      fun h => toNat_add_four image (by omega)
    simp only [read?, Option.bind_eq_bind, Option.pure_def, Option.bind_eq_some_iff,
      Option.some.injEq, Record.mk.injEq, Payload.field.injEq, Image.slice?_eq_some_iff,
      Image.read?_eq_some_iff, Payload.encode]
    have hs : ∀ b : Bytes, Word.encode offset ++ Word.encode segment = b.take 6 ↔
        Word.encode offset = b.take 4 ∧ Word.encode segment = (b.drop 4).take 2 := fun _ =>
      Bytes.append_eq_take_iff (Word.length_encode offset) (Word.length_encode segment)
    simp only [Kind.recordSize, UInt64.reduceToNat, Word.size]
    rw [hs, List.drop_drop]
    constructor
    · rintro ⟨_, ⟨hl, -⟩, o, ⟨-, ho⟩, g, ⟨-, hg⟩, rfl, rfl, rfl⟩
      rw [h4 hl] at hg
      exact ⟨rfl, hl, ho, hg⟩
    · rintro ⟨rfl, hl, ho, hg⟩
      exact ⟨_, ⟨hl, rfl⟩, _, ⟨by omega, ho⟩, _, ⟨by rw [h4 hl]; omega, by rw [h4 hl]; exact hg⟩,
        rfl, rfl, rfl⟩
  | method header =>
    simp only [read?, Option.bind_eq_bind, Option.pure_def, Option.bind_eq_some_iff,
      Option.some.injEq, Record.mk.injEq, Payload.method.injEq, Image.read?_eq_some_iff,
      Payload.encode]
    simp only [Kind.recordSize, UInt64.reduceToNat, Word.size]
    constructor
    · rintro ⟨_, ⟨hl, hh⟩, rfl, rfl⟩
      exact ⟨rfl, hl, hh⟩
    · rintro ⟨rfl, hl, hh⟩
      exact ⟨_, ⟨hl, hh⟩, rfl, rfl⟩

theorem isSome_read? {image : Image} {k : Kind} {start : Offset} :
    (read? image k start).isSome ↔
      start.toNat + k.recordSize.toNat ≤ image.bytes.length := by
  constructor
  · intro h
    obtain ⟨r, hr⟩ := Option.isSome_iff_exists.mp h
    exact (read?_eq_some_iff.mp hr).2.1
  · intro h
    cases k with
    | field =>
      simp only [Kind.recordSize, UInt64.reduceToNat] at h
      have h4 : (start + 4).toNat = start.toNat + 4 := toNat_add_four image (by omega)
      obtain ⟨v, hv⟩ := Option.isSome_iff_exists.mp
        ((@Image.isSome_slice? image start 6).mpr h)
      obtain ⟨o, ho⟩ := Option.isSome_iff_exists.mp
        ((@Image.isSome_read? image UInt32 _ start).mpr (by simp [Word.size]; omega))
      obtain ⟨g, hg⟩ := Option.isSome_iff_exists.mp
        ((@Image.isSome_read? image UInt16 _ (start + 4)).mpr (by simp [Word.size, h4]; omega))
      simp [read?, Kind.recordSize, hv, ho, hg]
    | method =>
      obtain ⟨o, ho⟩ := Option.isSome_iff_exists.mp
        ((@Image.isSome_read? image UInt32 _ start).mpr h)
      simp [read?, ho]

end Record

end DebugSymbols
