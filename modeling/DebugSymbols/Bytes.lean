/-!
# Byte strings

`OccursAt needle hay i` places `needle` in `hay` at index `i`. `firstIndex?` is the search for
the lowest such index; the empty needle is never found. Its two characterisations say when it
answers an index (`firstIndex?_eq_some_iff`) and when it answers nothing
(`firstIndex?_eq_none_iff`).
-/

namespace DebugSymbols

abbrev Bytes := List UInt8

namespace Bytes

/-- `needle` stands in `hay` from index `i` on. -/
def OccursAt (needle hay : Bytes) (i : Nat) : Prop :=
  i ≤ hay.length ∧ needle <+: hay.drop i

instance (needle hay : Bytes) (i : Nat) : Decidable (OccursAt needle hay i) :=
  inferInstanceAs (Decidable (_ ∧ _))

theorem occursAt_iff_append {needle hay : Bytes} {i : Nat} :
    OccursAt needle hay i ↔ ∃ front back, front.length = i ∧ hay = front ++ needle ++ back := by
  constructor
  · rintro ⟨hi, back, hb⟩
    refine ⟨hay.take i, back, by simp [hi], ?_⟩
    rw [List.append_assoc, hb, List.take_append_drop]
  · rintro ⟨front, back, rfl, rfl⟩
    exact ⟨by simp, back, by simp⟩

theorem occursAt_iff_take {needle hay : Bytes} {i : Nat} :
    OccursAt needle hay i ↔
      i + needle.length ≤ hay.length ∧ (hay.drop i).take needle.length = needle := by
  unfold OccursAt
  rw [List.prefix_iff_eq_take]
  constructor
  · rintro ⟨hi, h⟩
    have hl := congrArg List.length h
    simp only [List.length_take, List.length_drop] at hl
    exact ⟨by omega, h.symm⟩
  · rintro ⟨hl, h⟩
    exact ⟨by omega, h.symm⟩

theorem occursAt_zero {needle hay : Bytes} : OccursAt needle hay 0 ↔ needle <+: hay := by
  simp [OccursAt]

theorem occursAt_cons_succ {needle hay : Bytes} {b : UInt8} {i : Nat} :
    OccursAt needle (b :: hay) (i + 1) ↔ OccursAt needle hay i := by
  simp [OccursAt]

/-- The search for a non-empty needle, where the rest of the text starts at index `i`. -/
def indexFrom? (needle : Bytes) (i : Nat) : Bytes → Option Nat
  | [] => none
  | b :: rest => if needle.isPrefixOf (b :: rest) then some i else indexFrom? needle (i + 1) rest

/-- The lowest index of a needle; none for the empty needle. -/
def firstIndex? (needle hay : Bytes) : Option Nat :=
  if needle.isEmpty then none else indexFrom? needle 0 hay

theorem indexFrom?_eq_some_iff {needle : Bytes} (hn : needle ≠ []) {hay : Bytes} {i m : Nat} :
    indexFrom? needle i hay = some m ↔
      ∃ k, m = i + k ∧ OccursAt needle hay k ∧ ∀ j, j < k → ¬ OccursAt needle hay j := by
  induction hay generalizing i with
  | nil =>
    simp only [indexFrom?, reduceCtorEq, false_iff]
    rintro ⟨k, -, h, -⟩
    exact hn (List.prefix_nil.mp (by simpa using h.2))
  | cons b rest ih =>
    unfold indexFrom?
    split
    · rename_i hp
      rw [List.isPrefixOf_iff_prefix] at hp
      constructor
      · rintro ⟨⟩
        exact ⟨0, rfl, occursAt_zero.mpr hp, fun _ hj => absurd hj (Nat.not_lt_zero _)⟩
      · rintro ⟨k, rfl, -, hk⟩
        rcases k with _ | k
        · rfl
        · exact absurd (occursAt_zero.mpr hp) (hk 0 (Nat.succ_pos k))
    · rename_i hp
      rw [List.isPrefixOf_iff_prefix] at hp
      rw [ih]
      constructor
      · rintro ⟨k, rfl, ho, hk⟩
        refine ⟨k + 1, by omega, occursAt_cons_succ.mpr ho, fun j hj => ?_⟩
        rcases j with _ | j
        · exact fun h => hp (occursAt_zero.mp h)
        · exact fun h => hk j (by omega) (occursAt_cons_succ.mp h)
      · rintro ⟨k, rfl, ho, hk⟩
        rcases k with _ | k
        · exact absurd (occursAt_zero.mp ho) hp
        · refine ⟨k, by omega, occursAt_cons_succ.mp ho, fun j hj h => ?_⟩
          exact hk (j + 1) (by omega) (occursAt_cons_succ.mpr h)

theorem firstIndex?_eq_some_iff {needle hay : Bytes} {m : Nat} :
    firstIndex? needle hay = some m ↔
      needle ≠ [] ∧ OccursAt needle hay m ∧ ∀ j, j < m → ¬ OccursAt needle hay j := by
  by_cases hn : needle = []
  · simp [firstIndex?, hn]
  · have he : needle.isEmpty = false := by simpa using hn
    simp only [firstIndex?, he, Bool.false_eq_true, ↓reduceIte, indexFrom?_eq_some_iff hn,
      Nat.zero_add, exists_eq_left', ne_eq, hn, not_false_eq_true, true_and]

theorem firstIndex?_eq_none_iff {needle hay : Bytes} :
    firstIndex? needle hay = none ↔ needle = [] ∨ ∀ i, ¬ OccursAt needle hay i := by
  by_cases hn : needle = []
  · simp [firstIndex?, hn]
  · simp only [hn, false_or]
    constructor
    · intro h i
      induction i using Nat.strongRecOn with
      | _ i ih =>
        intro ho
        rw [firstIndex?_eq_some_iff.mpr ⟨hn, ho, ih⟩] at h
        cases h
    · intro h
      rcases hm : firstIndex? needle hay with _ | m
      · rfl
      · exact absurd (firstIndex?_eq_some_iff.mp hm).2.1 (h m)

theorem firstIndex?_add_length_le {needle hay : Bytes} {m : Nat}
    (h : firstIndex? needle hay = some m) : m + needle.length ≤ hay.length :=
  (occursAt_iff_take.mp (firstIndex?_eq_some_iff.mp h).2.1).1

/-- Two parts that are a range of a byte string are the two ranges beside each other. -/
theorem append_eq_take_iff {b x y : Bytes} {m n : Nat} (hx : x.length = m) (hy : y.length = n) :
    x ++ y = b.take (m + n) ↔ x = b.take m ∧ y = (b.drop m).take n := by
  rw [List.take_add]
  constructor
  · intro h
    have hl := congrArg List.length h
    simp only [List.length_append, List.length_take, List.length_drop] at hl
    exact List.append_inj h (by simp; omega)
  · rintro ⟨rfl, rfl⟩
    rfl

end Bytes

/-- Every element of a list without `a` passes the test that `takeWhile` and `dropWhile` stop at
`a` by. -/
theorem decide_ne_of_not_mem {α : Type} [DecidableEq α] {a : α} {l : List α} (h : a ∉ l) :
    ∀ x ∈ l, decide (x ≠ a) = true := by
  intro x hx
  rw [decide_eq_true_eq]
  rintro rfl
  exact h hx

end DebugSymbols
