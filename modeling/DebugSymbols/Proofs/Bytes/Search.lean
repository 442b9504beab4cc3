import DebugSymbols.Image
import DebugSymbols.Proofs.Bytes.Occurrence

/-!
# The search for a needle

A search answers the lowest index from which on the bytes of the text are those of the needle, and
nothing if there is no such index; the empty needle is never found (`firstIndex?_lowest`). It is
the same search for an image, whose indices are offsets.
-/

namespace DebugSymbols

namespace Bytes

variable {needle hay : Bytes}

/-- Where as many bytes as a needle has are the needle, all of them are within the text. -/
theorem occursAt_iff_range (hn : needle ≠ []) {i : Nat} :
    OccursAt needle hay i ↔ (hay.drop i).take needle.length = needle := by
  rw [occursAt_iff_take, and_iff_right_iff_imp]
  intro h
  have hpos := List.length_pos_iff.mpr hn
  have hl := congrArg List.length h
  rw [List.length_take, List.length_drop] at hl
  omega

theorem absent_iff_range (hn : needle ≠ []) :
    Absent needle hay ↔ ∀ i, (hay.drop i).take needle.length ≠ needle := by
  unfold Absent
  simp only [occursAt_iff_range hn, ne_eq]

theorem firstAt_iff_range (hn : needle ≠ []) {m : Nat} :
    FirstAt needle hay m ↔
      m + needle.length ≤ hay.length ∧ (hay.drop m).take needle.length = needle ∧
        ∀ j, j < m → (hay.drop j).take needle.length ≠ needle := by
  unfold FirstAt
  rw [occursAt_iff_take, and_assoc]
  simp only [occursAt_iff_range hn, ne_eq]

theorem firstIndex?_of_length_lt (h : hay.length < needle.length) :
    firstIndex? needle hay = none := by
  refine firstIndex?_eq_none_iff.mpr (.inr ?_)
  intro i ho
  have := ho.add_length_le
  omega

/-- A search answers the lowest index of a needle, and nothing for a needle that is empty or
nowhere in the text; in an image it answers the same index as an offset. -/
theorem firstIndex?_lowest (needle hay : Bytes) :
    (∀ m, firstIndex? needle hay = some m ↔
        needle ≠ [] ∧ m + needle.length ≤ hay.length ∧
          (hay.drop m).take needle.length = needle ∧
          ∀ j, j < m → (hay.drop j).take needle.length ≠ needle) ∧
      (firstIndex? needle hay = none ↔
        needle = [] ∨ ∀ i, (hay.drop i).take needle.length ≠ needle) ∧
      (hay.length < needle.length → firstIndex? needle hay = none) ∧
      ∀ image : Image, image.bytes = hay →
        (∀ m : Offset, image.find? needle = some m ↔ firstIndex? needle hay = some m.toNat) ∧
          (image.find? needle = none ↔ firstIndex? needle hay = none) := by
  refine ⟨?_, ?_, firstIndex?_of_length_lt, ?_⟩
  · intro m
    by_cases hn : needle = []
    · simp [firstIndex?, hn]
    · rw [firstIndex?_eq_some hn, firstAt_iff_range hn, and_iff_right hn]
  · by_cases hn : needle = []
    · simp [firstIndex?, hn]
    · rw [firstIndex?_eq_none hn, absent_iff_range hn, or_iff_right hn]
  · rintro image rfl
    exact ⟨fun _ => Image.find?_eq_some_iff, Image.find?_eq_none_iff⟩

/-- The needle starts twice before it is complete, and ends with the text. -/
theorem firstIndex?_lowest_resumed :
    let needle : Bytes := [1, 1, 2]
    let image : Image := ⟨[1, 1, 1, 1, 2], by decide⟩
    (image.bytes.drop 2).take needle.length = needle ∧ image.find? needle = some 2 ∧
      image.find? (image.bytes ++ needle) = none := by
  intro needle image
  obtain ⟨hsome, -, -, himage⟩ := firstIndex?_lowest needle image.bytes
  obtain ⟨-, -, hlong, himage'⟩ := firstIndex?_lowest (image.bytes ++ needle) image.bytes
  have hm : firstIndex? needle image.bytes = some 2 :=
    (hsome 2).mpr ⟨by decide, by decide, by decide, by decide⟩
  exact ⟨((hsome 2).mp hm).2.2.1, ((himage image rfl).1 2).mpr hm,
    (himage' image rfl).2.mpr (hlong (by decide))⟩

end Bytes

end DebugSymbols
