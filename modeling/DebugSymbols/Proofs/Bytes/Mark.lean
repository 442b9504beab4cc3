import DebugSymbols.Proofs.Bytes.Occurrence

/-!
# Needles with one mark

A mark is a byte that stands once in a needle, at its start (`mark :: tail`) or at its end
(`body ++ [mark]`). Such a needle is found only where the text has the mark, and an occurrence
covers no other mark of the text. Two texts that a mark ends are equal where one starts the other
(`append_mark_prefix_iff`).
-/

namespace DebugSymbols

namespace Bytes

variable {mark : UInt8}

theorem append_mark_prefix_iff {a b x y : Bytes} (ha : mark ∉ a) (hb : mark ∉ b) :
    a ++ mark :: x <+: b ++ mark :: y ↔ a = b ∧ x <+: y := by
  induction a generalizing b with
  | nil =>
    rcases b with _ | ⟨c, b⟩
    · simp
    · have hc : mark ≠ c := fun h => hb (h ▸ List.mem_cons_self)
      simp [hc]
  | cons d a ih =>
    rw [List.mem_cons, not_or] at ha
    rcases b with _ | ⟨c, b⟩
    · simp [Ne.symm ha.1]
    · rw [List.mem_cons, not_or] at hb
      simp only [List.cons_append, List.cons_prefix_cons, ih ha.2 hb.2, List.cons.injEq, and_assoc]

/-! ## The mark at the start -/

section
variable {tail hay front : Bytes} {i : Nat}

theorem OccursAt.getElem?_mark (h : OccursAt (mark :: tail) hay i) : hay[i]? = some mark :=
  h.getElem? (d := 0) (by simp)

theorem OccursAt.getElem?_ne_mark (ht : mark ∉ tail) (h : OccursAt (mark :: tail) hay i) {d : Nat}
    (hd : 0 < d) (hl : d ≤ tail.length) : hay[i + d]? ≠ some mark := by
  obtain ⟨d, rfl⟩ := Nat.exists_eq_add_of_le hd
  rw [h.getElem? (by simp; omega), Nat.add_comm, List.getElem?_cons_succ]
  intro he
  apply ht
  exact List.mem_of_getElem? he

theorem clear_of_not_mem (hf : mark ∉ front) (back : Bytes) : Clear (mark :: tail) front back := by
  intro i hi ho
  have hm := OccursAt.getElem?_mark ho
  rw [List.getElem?_append_left hi] at hm
  apply hf
  exact List.mem_of_getElem? hm

/-- No occurrence starts in a text that is shorter than it when the mark stands behind. -/
theorem clear_of_length_le (ht : mark ∉ tail) (hl : front.length ≤ tail.length) (back : Bytes) :
    Clear (mark :: tail) front (mark :: back) := by
  intro i hi ho
  have hm := OccursAt.getElem?_ne_mark ht ho (d := front.length - i) (by omega) (by omega)
  rw [Nat.add_sub_cancel' (Nat.le_of_lt hi), List.getElem?_append_right (Nat.le_refl _),
    Nat.sub_self] at hm
  exact hm rfl

theorem absent_of_not_mem (hf : mark ∉ hay) : Absent (mark :: tail) hay := fun _ ho =>
  hf (List.mem_of_getElem? (OccursAt.getElem?_mark ho))

end

/-! ## The mark at the end -/

section
variable {body hay : Bytes} {i : Nat}

/-- An occurrence ends at the first mark behind its start. -/
theorem OccursAt.add_length_le_of_mark (hb : mark ∉ body) (h : OccursAt (body ++ [mark]) hay i)
    {q : Nat} (hi : i ≤ q) (hq : hay[q]? = some mark) : i + body.length ≤ q := by
  obtain ⟨d, rfl⟩ := Nat.exists_eq_add_of_le hi
  apply Nat.le_of_not_lt
  intro hl
  have hd : d < body.length := by omega
  rw [h.getElem? (by simp; omega), List.getElem?_append_left hd] at hq
  exact hb (List.mem_of_getElem? hq)

/-- Up to the mark that ends a text, an occurrence starts where the text that is left is the
needle's. -/
theorem occursAt_append_mark_iff {text back : Bytes} (hb : mark ∉ body) (ht : mark ∉ text)
    (hi : i ≤ text.length) :
    OccursAt (body ++ [mark]) (text ++ mark :: back) i ↔ text.drop i = body := by
  unfold OccursAt
  rw [List.drop_append_of_le_length hi,
    append_mark_prefix_iff hb fun hm => ht (List.mem_of_mem_drop hm)]
  simp only [List.length_append, List.nil_prefix, and_true]
  exact ⟨fun h => h.2.symm, fun h => ⟨by omega, h.symm⟩⟩

theorem clear_of_not_suffix {text back : Bytes} (hb : mark ∉ body) (ht : mark ∉ text)
    (hs : ¬ body <:+ text) : Clear (body ++ [mark]) (text ++ [mark]) back := by
  intro i hi ho
  rw [List.append_assoc] at ho
  rw [List.length_append, List.length_singleton] at hi
  rw [List.singleton_append, occursAt_append_mark_iff hb ht (by omega)] at ho
  apply hs
  rw [← ho]
  exact List.drop_suffix i text

theorem firstAt_of_suffix {text back : Bytes} (hb : mark ∉ body) (ht : mark ∉ text)
    (hs : body <:+ text) :
    FirstAt (body ++ [mark]) (text ++ mark :: back) (text.length - body.length) := by
  obtain ⟨front, rfl⟩ := hs
  have hl : (front ++ body).length - body.length = front.length := by simp
  rw [hl]
  refine ⟨(occursAt_append_mark_iff hb ht (by simp)).mpr List.drop_left, ?_⟩
  intro j hj ho
  rw [occursAt_append_mark_iff hb ht (by simp; omega)] at ho
  have hd := congrArg List.length ho
  simp only [List.length_drop, List.length_append] at hd
  omega

end

end Bytes

end DebugSymbols
