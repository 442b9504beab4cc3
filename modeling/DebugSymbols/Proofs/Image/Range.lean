import DebugSymbols.Image

/-!
# Ranges of images

A range of an image is an image again, and its ranges are those of the whole, as much further on
(`slice?_slice?`). A word whose bytes are those of two words, one behind the other, is read exactly
where the two are read beside each other, the first of them with its lower digits
(`read?_eq_some_iff_parts`); a single byte is read as it is (`read?_byte`). With the exact bounds
of ranges and words these are together `ranges_compose`.
-/

namespace DebugSymbols

namespace Bytes

theorem take_drop_take_drop {b : Bytes} {pos len q n : Nat} (h : q + n ≤ len) :
    (((b.drop pos).take len).drop q).take n = (b.drop (pos + q)).take n := by
  rw [List.drop_take, List.take_take, List.drop_drop, Nat.min_eq_left (by omega)]

/-- Of two ranges beside each other the first has the lower digits. -/
theorem value_range_add {b : Bytes} {pos m : Nat} (h : pos + m ≤ b.length) (n : Nat) :
    value ((b.drop pos).take (m + n)) =
      value ((b.drop pos).take m) + capacity m * value ((b.drop (pos + m)).take n) := by
  have hm : m ≤ (b.drop pos).length := by
    rw [List.length_drop]
    omega
  rw [List.take_add, value_append, List.length_take_of_le hm, List.drop_drop]

end Bytes

namespace Image

variable {image : Image}

/-! ### Ranges -/

/-- A sum that passes the largest offset is past every image. -/
theorem slice?_eq_none_of_le {pos len : Offset} (h : UInt64.size ≤ pos.toNat + len.toNat) :
    image.slice? pos len = none := by
  have hs : UInt64.size = 2 ^ 64 := rfl
  have hl := image.length_lt
  rw [← Option.not_isSome_iff_eq_none, isSome_slice?]
  omega

theorem slice?_size (image : Image) : image.slice? image.size 0 = some [] := by
  rw [slice?_eq_some_iff, toNat_size]
  exact ⟨Nat.le_refl _, rfl⟩

theorem exists_ofBytes?_of_slice? {pos len : Offset} {v : Bytes}
    (h : image.slice? pos len = some v) : ∃ inner, ofBytes? v = some inner := by
  have hl := image.length_lt
  obtain ⟨-, rfl⟩ := slice?_eq_some_iff.mp h
  have hv : ((image.bytes.drop pos.toNat).take len.toNat).length < 0x8000000000000000 := by
    rw [List.length_take, List.length_drop]
    omega
  exact ⟨⟨_, hv⟩, ofBytes?_eq_some_iff.mpr rfl⟩

theorem toNat_add_of_slice? {pos len q n : Offset} {v : Bytes}
    (h : image.slice? pos len = some v) (hq : q.toNat + n.toNat ≤ len.toNat) :
    (pos + q).toNat = pos.toNat + q.toNat := by
  have hl := (slice?_eq_some_iff.mp h).1
  exact image.toNat_add (by omega)

theorem slice?_slice? {inner : Image} {pos len q n : Offset}
    (h : image.slice? pos len = some inner.bytes) (hq : q.toNat + n.toNat ≤ len.toNat) :
    inner.slice? q n = image.slice? (pos + q) n := by
  have hsum := toNat_add_of_slice? h hq
  obtain ⟨hl, hb⟩ := slice?_eq_some_iff.mp h
  have hlen : inner.bytes.length = len.toNat := by
    rw [hb, List.length_take, List.length_drop]
    omega
  have hin : inner.slice? q n = some ((inner.bytes.drop q.toNat).take n.toNat) :=
    slice?_eq_some_iff.mpr ⟨by omega, rfl⟩
  have hout : image.slice? (pos + q) n =
      some ((image.bytes.drop (pos.toNat + q.toNat)).take n.toNat) :=
    slice?_eq_some_iff.mpr ⟨by omega, by rw [hsum]⟩
  rw [hin, hout, hb, Bytes.take_drop_take_drop hq]

/-! ### Words -/

section Words

variable {α β γ : Type} [Word α] [Word β] [Word γ] {pos : Offset}

theorem read?_eq_some_iff_value {a : α} :
    image.read? α pos = some a ↔
      pos.toNat + Word.size α ≤ image.bytes.length ∧
        Word.toNat a = Bytes.value ((image.bytes.drop pos.toNat).take (Word.size α)) := by
  rw [read?_eq_some_iff]
  refine and_congr_right fun hl => Word.encode_eq_iff ?_
  rw [List.length_take, List.length_drop]
  omega

theorem exists_read?_of_le (α : Type) [Word α] (hl : pos.toNat + Word.size α ≤ image.bytes.length) :
    ∃ a : α, image.read? α pos = some a ∧
      Word.toNat a = Bytes.value ((image.bytes.drop pos.toNat).take (Word.size α)) := by
  obtain ⟨a, ha⟩ := Option.isSome_iff_exists.mp (isSome_read?.mpr hl)
  exact ⟨a, ha, (read?_eq_some_iff_value.mp ha).2⟩

/-- A word with as many bytes as two others together is read where these two are. -/
theorem read?_eq_some_iff_parts (hs : Word.size α = Word.size β + Word.size γ) {a : α} :
    image.read? α pos = some a ↔
      ∃ (lo : β) (hi : γ), image.read? β pos = some lo ∧
        image.read? γ (pos + UInt64.ofNat (Word.size β)) = some hi ∧
        (pos + UInt64.ofNat (Word.size β)).toNat = pos.toNat + Word.size β ∧
        Word.toNat a = Word.toNat lo + Bytes.capacity (Word.size β) * Word.toNat hi := by
  have hβ := Word.toNat_ofNat_size β
  rw [read?_eq_some_iff_value, hs]
  constructor
  · rintro ⟨hl, ha⟩
    -- The second word starts within the image, so its offset is the exact sum.
    have hsum : (pos + UInt64.ofNat (Word.size β)).toNat = pos.toNat + Word.size β := by
      rw [image.toNat_add (by omega), hβ]
    have hfst : pos.toNat + Word.size β ≤ image.bytes.length := by omega
    have hsnd : (pos + UInt64.ofNat (Word.size β)).toNat + Word.size γ ≤ image.bytes.length := by
      omega
    obtain ⟨lo, hlo, hvlo⟩ := exists_read?_of_le β hfst
    obtain ⟨hi, hhi, hvhi⟩ := exists_read?_of_le γ hsnd
    refine ⟨lo, hi, hlo, hhi, hsum, ?_⟩
    rw [ha, Bytes.value_range_add hfst, hvlo, hvhi, hsum]
  · rintro ⟨lo, hi, hlo, hhi, hsum, ha⟩
    obtain ⟨hl, hvlo⟩ := read?_eq_some_iff_value.mp hlo
    obtain ⟨hl', hvhi⟩ := read?_eq_some_iff_value.mp hhi
    rw [hsum] at hl' hvhi
    refine ⟨by omega, ?_⟩
    rw [ha, Bytes.value_range_add hl, hvlo, hvhi]

theorem read?_byte {b : UInt8} :
    image.read? UInt8 pos = some b ↔ image.bytes[pos.toNat]? = some b := by
  rw [read?_eq_some_iff_value, List.getElem?_eq_some_iff, ← exists_prop]
  refine exists_congr fun hl => ?_
  have hl : pos.toNat < image.bytes.length := hl
  have hone : (image.bytes.drop pos.toNat).take (Word.size UInt8) = [image.bytes[pos.toNat]] := by
    rw [List.drop_eq_getElem_cons hl]
    rfl
  have hvalue : Bytes.value [image.bytes[pos.toNat]] = image.bytes[pos.toNat].toNat := rfl
  rw [hone, hvalue, eq_comm]
  exact UInt8.toNat_inj

end Words

/-- A range is there exactly if its end, in numbers without a bound, is within the image, and then
it is the bytes from its position on. The ranges of a range are those of the image, as much further
on. A word is read from as many bytes as it has, and reading it undoes writing it and the other way
round; in an image it is read exactly if its end is within the image. A byte is read as it is, and a
word of two or four bytes as two words of half its size, the lower one first. -/
theorem ranges_compose (image : Image) :
    (∀ pos len v, image.slice? pos len = some v ↔
        pos.toNat + len.toNat ≤ image.bytes.length ∧
          v = (image.bytes.drop pos.toNat).take len.toNat) ∧
      (∀ pos len : Offset, UInt64.size ≤ pos.toNat + len.toNat → image.slice? pos len = none) ∧
      image.slice? image.size 0 = some [] ∧
      (∀ pos len v, image.slice? pos len = some v →
        ∃ inner, ofBytes? v = some inner ∧
          ∀ q n : Offset, q.toNat + n.toNat ≤ len.toNat →
            (pos + q).toNat = pos.toNat + q.toNat ∧
              inner.slice? q n = image.slice? (pos + q) n) ∧
      (Word.size UInt8 = 1 ∧ Word.size UInt16 = 2 ∧ Word.size UInt32 = 4) ∧
      (∀ (α : Type) [Word α],
        (∀ b, (Word.decode? α b).isSome ↔ b.length = Word.size α) ∧
          (∀ a : α, Word.decode? α (Word.encode a) = some a) ∧
          (∀ b (a : α), Word.decode? α b = some a → Word.encode a = b) ∧
          ∀ pos, (image.read? α pos).isSome ↔
            pos.toNat + Word.size α ≤ image.bytes.length) ∧
      (∀ pos b, image.read? UInt8 pos = some b ↔ image.bytes[pos.toNat]? = some b) ∧
      (∀ pos w, image.read? UInt16 pos = some w ↔
        ∃ lo hi, image.read? UInt8 pos = some lo ∧ image.read? UInt8 (pos + 1) = some hi ∧
          (pos + 1).toNat = pos.toNat + 1 ∧ w.toNat = lo.toNat + 256 * hi.toNat) ∧
      ∀ pos w, image.read? UInt32 pos = some w ↔
        ∃ lo hi, image.read? UInt16 pos = some lo ∧ image.read? UInt16 (pos + 2) = some hi ∧
          (pos + 2).toNat = pos.toNat + 2 ∧ w.toNat = lo.toNat + 65536 * hi.toNat := by
  refine ⟨fun _ _ _ => slice?_eq_some_iff, fun _ _ => slice?_eq_none_of_le, slice?_size image, ?_,
    ⟨rfl, rfl, rfl⟩, ?_, fun _ _ => read?_byte, ?_, ?_⟩
  · intro pos len v h
    obtain ⟨inner, hinner⟩ := exists_ofBytes?_of_slice? h
    rw [← ofBytes?_eq_some_iff.mp hinner] at h
    exact ⟨inner, hinner, fun q n hq => ⟨toNat_add_of_slice? h hq, slice?_slice? h hq⟩⟩
  · intro α _
    exact ⟨fun _ => Word.isSome_decode?, Word.decode?_encode, fun _ _ => Word.encode_of_decode?,
      fun _ => isSome_read?⟩
  · intro pos w
    exact read?_eq_some_iff_parts rfl
  · intro pos w
    exact read?_eq_some_iff_parts rfl

/-- Four bytes behind another: as a range of which the last two are a range, and as a word that is
read from its bytes. -/
theorem ranges_compose_behind_byte :
    let image : Image := ⟨[0xff, 0x78, 0x56, 0x34, 0x12], by decide⟩
    let inner : Image := ⟨[0x78, 0x56, 0x34, 0x12], by decide⟩
    image.slice? 1 4 = some inner.bytes ∧ inner.slice? 2 2 = image.slice? 3 2 ∧
      image.slice? 5 0 = some [] ∧ image.slice? 0xffffffffffffffff 2 = none ∧
      image.read? UInt32 1 = some 0x12345678 ∧ ¬ (image.read? UInt32 2).isSome ∧
      Word.decode? UInt16 [0x34, 0x12] = some 0x1234 ∧
      Word.encode (0x1234 : UInt16) = [0x34, 0x12] := by
  intro image inner
  obtain ⟨hrange, hwrap, hend, hinner, -, hword, hbyte, htwo, hfour⟩ := ranges_compose image
  have hslice : image.slice? 1 4 = some inner.bytes :=
    (hrange 1 4 inner.bytes).mpr ⟨by decide, rfl⟩
  have hsub : inner.slice? 2 2 = image.slice? 3 2 := by
    obtain ⟨inner', hinner', hsub⟩ := hinner 1 4 inner.bytes hslice
    have heq : inner' = inner := Image.ext (ofBytes?_eq_some_iff.mp hinner')
    rw [← heq]
    exact (hsub 2 2 (by decide)).2
  have hbytes : image.read? UInt8 1 = some 0x78 ∧ image.read? UInt8 2 = some 0x56 ∧
      image.read? UInt8 3 = some 0x34 ∧ image.read? UInt8 4 = some 0x12 :=
    ⟨(hbyte 1 _).mpr rfl, (hbyte 2 _).mpr rfl, (hbyte 3 _).mpr rfl, (hbyte 4 _).mpr rfl⟩
  have hlo : image.read? UInt16 1 = some 0x5678 :=
    (htwo 1 _).mpr ⟨_, _, hbytes.1, hbytes.2.1, by decide, by decide⟩
  have hhi : image.read? UInt16 3 = some 0x1234 :=
    (htwo 3 _).mpr ⟨_, _, hbytes.2.2.1, hbytes.2.2.2, by decide, by decide⟩
  obtain ⟨-, hread, hwrite, -⟩ := hword UInt16
  have hdecode : Word.decode? UInt16 [0x34, 0x12] = some 0x1234 := hread 0x1234
  refine ⟨hslice, hsub, hend, hwrap 0xffffffffffffffff 2 (by decide), ?_, ?_, hdecode,
    hwrite _ _ hdecode⟩
  · exact (hfour 1 _).mpr ⟨_, _, hlo, hhi, by decide, by decide⟩
  · rw [(hword UInt32).2.2.2]
    decide

end Image

end DebugSymbols
