import Mathlib.Data.List.Infix
import DebugSymbols.Proofs.Bytes.Occurrence

/-!
# Needles without a border

A border of a byte string is a part that both starts and ends it. Two occurrences of a needle that
overlap leave it with a border, the part that they share. So a needle that has none but itself is
first found where it is planted, unless it stands in the text before that as a whole: no
occurrence reaches from that text into the planted one (`Unbordered.firstAt_iff`).

A needle has no border but itself if the byte at its start, or the one at its end, stands nowhere
else in it.
-/

namespace DebugSymbols

namespace Bytes

/-- No part of a byte string but the whole both starts and ends it. -/
def Unbordered (needle : Bytes) : Prop :=
  ∀ part, part ≠ [] → part <+: needle → part <:+ needle → part = needle

theorem unbordered_of_head {mark : UInt8} {tail : Bytes} (ht : mark ∉ tail) :
    Unbordered (mark :: tail) := by
  intro part hn hp hs
  rcases List.suffix_cons_iff.mp hs with h | h
  · exact h
  · -- a shorter part starts with the mark and is within the tail
    obtain ⟨b, rest, rfl⟩ := List.exists_cons_of_ne_nil hn
    obtain ⟨rfl, -⟩ := List.cons_prefix_cons.mp hp
    exact absurd (h.subset List.mem_cons_self) ht

theorem unbordered_of_last {mark : UInt8} {body : Bytes} (hb : mark ∉ body) :
    Unbordered (body ++ [mark]) := by
  intro part hn hp hs
  rcases List.prefix_concat_iff.mp hp with h | h
  · exact h
  · -- a shorter part ends with the mark and is within the body
    rcases List.suffix_concat_iff.mp hs with rfl | ⟨rest, rfl, -⟩
    · exact absurd rfl hn
    · exact absurd (h.subset (List.mem_append_right rest (List.mem_singleton_self mark))) hb

section
variable {needle : Bytes} (hu : Unbordered needle)
include hu

/-- Two occurrences that overlap are one. -/
theorem Unbordered.eq_of_overlap {hay : Bytes} {i j : Nat} (hi : OccursAt needle hay i)
    (hj : OccursAt needle hay j) (hij : i ≤ j) (hl : j < i + needle.length) : i = j := by
  obtain ⟨d, rfl⟩ := Nat.exists_eq_add_of_le hij
  -- both occurrences have what they share, which the second starts with and the first ends with
  have hp : needle.drop d <+: needle := by
    refine List.prefix_of_prefix_length_le ?_ hj.2 (by simp)
    rw [← List.drop_drop]
    exact hi.2.drop d
  have hn : needle.drop d ≠ [] := by
    rw [ne_eq, List.drop_eq_nil_iff]
    omega
  have he := congrArg List.length (hu _ hn hp (List.drop_suffix d needle))
  rw [List.length_drop] at he
  omega

/-- A needle is first found where it is planted, exactly if it is not in the text before. -/
theorem Unbordered.firstAt_iff (hn : needle ≠ []) {front back : Bytes} :
    FirstAt needle (front ++ (needle ++ back)) front.length ↔ Absent needle front := by
  have hpos : 0 < needle.length := List.length_pos_iff.mpr hn
  have hplant : OccursAt needle (front ++ (needle ++ back)) front.length :=
    occursAt_append_add.mpr (occursAt_zero.mpr (List.prefix_append needle back))
  constructor
  · intro h i ho
    have hl := ho.add_length_le
    exact h.2 i (by omega) (ho.append_right _)
  · intro ha
    refine ⟨hplant, ?_⟩
    intro j hj ho
    rcases Nat.lt_or_ge front.length (j + needle.length) with hl | hl
    · have := hu.eq_of_overlap ho hplant (Nat.le_of_lt hj) hl
      omega
    · exact ha j ((occursAt_append_left_iff hl).mp ho)

end

end Bytes

end DebugSymbols
