import DebugSymbols.Proofs.Record.Reads

/-!
# Records as a whole

A record is read exactly where all its bytes are, and what is read is written by those bytes; what
is written anywhere is read there (`read?_whole`). The second number of a field's record stands
behind a sum of offsets that is not checked. `readChecked?` is the same reading with that sum
checked, and it never meets a sum that wraps (`readChecked?_eq`): the sum is taken only where the
whole record is known to be in the image.
-/

namespace DebugSymbols

namespace Record

/-- The reading of a field's record, none as a whole if it takes a sum of offsets that wraps. -/
def readChecked? (image : Image) (start : Offset) : Option (Option (Record .field)) :=
  match image.slice? start Kind.field.recordSize with
  | none => some none
  | some _ =>
    match image.read? UInt32 start with
    | none => some none
    | some offset =>
      (Offset.add? start 4).map fun next =>
        (image.read? UInt16 next).map fun segment => ⟨start, .field offset segment⟩

variable {image : Image} {start : Offset}

theorem readChecked?_eq (image : Image) (start : Offset) :
    readChecked? image start = some (read? image .field start) := by
  simp only [readChecked?, read?, Option.bind_eq_bind, Option.pure_def]
  rcases image.slice? start Kind.field.recordSize with _ | v
  · rfl
  · rcases ho : image.read? UInt32 start with _ | offset
    · rfl
    · have hsum : Offset.add? start 4 = some (start + 4) :=
        Offset.add?_eq_some_iff.mpr (toNat_add_four image (Image.read?_eq_some_iff.mp ho).1).symm
      simp only [hsum, Option.map_some, Option.bind_some]
      rcases image.read? UInt16 (start + 4) with _ | segment <;> rfl

theorem isSome_read?_iff {k : Kind} :
    (read? image k start).isSome ↔ start.toNat + k.span ≤ image.bytes.length := by
  rw [isSome_read?, Kind.toNat_recordSize]

theorem encode_of_read? {k : Kind} {r : Record k} (h : read? image k start = some r) :
    r.start = start ∧ r.payload.encode = (image.bytes.drop start.toNat).take k.span := by
  rw [read?_eq_some_iff, Kind.toNat_recordSize] at h
  exact ⟨h.1, h.2.2⟩

theorem read?_of_encode {k : Kind} {p : Payload k} {front back : Bytes}
    (hb : image.bytes = front ++ p.encode ++ back) (hs : start.toNat = front.length) :
    read? image k start = some ⟨start, p⟩ := by
  have hl := p.length_encode
  rw [read?_eq_some_iff, hs, ← hl, hb, List.append_assoc, List.drop_left, List.take_left]
  refine ⟨rfl, ?_, rfl⟩
  simp only [List.length_append]
  omega

/-- A record is read exactly if its end, in numbers without a bound, is within the image; the sum
that its second part stands behind does not wrap when it is taken. What is read starts where it was
asked for, and its numbers are written by the bytes that are there. And a record that is written
behind any bytes, with any bytes behind it, is read as it was written. -/
theorem read?_whole (image : Image) :
    (∀ k start, (read? image k start).isSome ↔ start.toNat + k.span ≤ image.bytes.length) ∧
      (∀ start, readChecked? image start = some (read? image .field start)) ∧
      (∀ k start r, read? image k start = some r →
        r.start = start ∧ r.payload.encode = (image.bytes.drop start.toNat).take k.span) ∧
      ∀ k (p : Payload k) front back, image.bytes = front ++ p.encode ++ back →
        ∀ start : Offset, start.toNat = front.length → read? image k start = some ⟨start, p⟩ :=
  ⟨fun _ _ => isSome_read?_iff, readChecked?_eq image, fun _ _ _ => encode_of_read?,
    fun _ _ _ _ hb _ => read?_of_encode hb⟩

/-- A record behind one byte, and what would start where offsets end. -/
theorem read?_whole_behind_byte :
    let p : Payload .field := .field 0x12345678 0x9abc
    let image : Image := ⟨[0xff, 0x78, 0x56, 0x34, 0x12, 0xbc, 0x9a], by decide⟩
    image.bytes = [0xff] ++ p.encode ++ [] ∧ read? image .field 1 = some ⟨1, p⟩ ∧
      (∃ r : Record .method, read? image .method 3 = some r ∧ r.start = 3 ∧
        r.payload.encode = [0x34, 0x12, 0xbc, 0x9a]) ∧
      ¬ (read? image .field 2).isSome ∧ ¬ (read? image .method 0xfffffffffffffffd).isSome ∧
      readChecked? image 0xfffffffffffffffd = some none := by
  intro p image
  obtain ⟨hwhole, hsum, hencode, hread⟩ := read?_whole image
  have hb : image.bytes = [0xff] ++ p.encode ++ [] := by decide
  refine ⟨hb, hread _ p [0xff] [] hb 1 rfl, ?_, ?_, ?_, ?_⟩
  · obtain ⟨r, hr⟩ := Option.isSome_iff_exists.mp ((hwhole .method 3).mpr (by decide))
    exact ⟨r, hr, (hencode _ _ _ hr).1, (hencode _ _ _ hr).2⟩
  · rw [hwhole]
    decide
  · rw [hwhole]
    decide
  · have hnone : ¬ (read? image .field 0xfffffffffffffffd).isSome := by
      rw [hwhole]
      decide
    rw [hsum, Option.not_isSome_iff_eq_none.mp hnone]

end Record

end DebugSymbols
