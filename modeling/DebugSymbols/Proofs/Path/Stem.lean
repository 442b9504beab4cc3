import DebugSymbols.Proofs.Path.Parts

/-!
# Stems

The stem of a name is what stands before its last dot, if something does, and else the whole name
(`StemOf`). Each name has one stem, and it is the one that paths are split by (`splitName_iff`).
-/

namespace DebugSymbols

namespace Path

/-- A name with its stem. -/
inductive StemOf : Bytes → Bytes → Prop where
  /-- The last dot has something before it. -/
  | cut {stem ending : Bytes} : stem ≠ [] → dot ∉ ending → StemOf (stem ++ dot :: ending) stem
  /-- There is no dot but perhaps in front. -/
  | whole {name : Bytes} : dot ∉ name.tail → StemOf name name

theorem name_cases (name : Bytes) :
    (∃ stem ending, name = stem ++ dot :: ending ∧ stem ≠ [] ∧ dot ∉ ending) ∨ dot ∉ name.tail := by
  rcases name with _ | ⟨b, rest⟩
  · exact .inr List.not_mem_nil
  · by_cases h : dot ∈ rest
    · -- the last dot of a text is the first one of its reverse
      obtain ⟨ending, front, he, hx⟩ := List.eq_append_cons_of_mem (List.mem_reverse.mpr h)
      refine .inl ⟨b :: front.reverse, ending.reverse, ?_, List.cons_ne_nil _ _, by simpa using hx⟩
      simpa using congrArg List.reverse he
    · exact .inr h

theorem exists_stemOf (name : Bytes) : ∃ stem, StemOf name stem := by
  rcases name_cases name with ⟨stem, ending, rfl, hs, hx⟩ | h
  · exact ⟨stem, .cut hs hx⟩
  · exact ⟨name, .whole h⟩

theorem splitName_of_dot {stem ending : Bytes} (hs : stem ≠ []) (hx : dot ∉ ending) :
    splitName (stem ++ dot :: ending) = (stem, some ending) := by
  have hall : ∀ b ∈ ending.reverse, decide (b ≠ dot) = true :=
    decide_ne_of_not_mem fun hm => hx (List.mem_reverse.mp hm)
  obtain ⟨front, b, rfl⟩ : ∃ front b, stem = front ++ [b] :=
    ⟨stem.dropLast, stem.getLast hs, (List.dropLast_concat_getLast hs).symm⟩
  have hr : (front ++ [b] ++ dot :: ending).reverse =
      ending.reverse ++ dot :: b :: front.reverse := by
    simp
  rw [splitName, hr, List.dropWhile_append_of_pos hall, List.takeWhile_append_of_pos hall]
  simp

theorem splitName_of_no_dot {name : Bytes} (h : dot ∉ name.tail) :
    splitName name = (name, none) := by
  rcases name with _ | ⟨b, rest⟩
  · rfl
  · have hall : ∀ b ∈ rest.reverse, decide (b ≠ dot) = true :=
      decide_ne_of_not_mem fun hm => h (List.mem_reverse.mp hm)
    rw [splitName, List.reverse_cons, List.dropWhile_append_of_pos hall]
    by_cases hb : b = dot <;> simp [hb]

theorem splitName_iff {name stem : Bytes} : StemOf name stem ↔ (splitName name).1 = stem := by
  refine ⟨?_, ?_⟩
  · intro h
    cases h with
    | cut hs hx => rw [splitName_of_dot hs hx]
    | whole h => rw [splitName_of_no_dot h]
  · rintro rfl
    rcases name_cases name with ⟨stem, ending, rfl, hs, hx⟩ | h
    · rw [splitName_of_dot hs hx]
      exact .cut hs hx
    · rw [splitName_of_no_dot h]
      exact .whole h

end Path

end DebugSymbols
