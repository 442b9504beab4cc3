import DebugSymbols.Bytes
import Mathlib.Data.Nat.Find

/-!
# Occurrences

`FirstAt needle hay m`: `needle` stands in `hay` at `m`, and at no lower index. The search for a
needle answers exactly this index, and a text has either a first occurrence or none.

A text may be read from its front: where no occurrence starts in a first part (`Clear`), the first
occurrence is the one in the rest, moved by the length of that part (`Clear.firstAt`). What rules
an occurrence out is a single byte that differs (`OccursAt.getElem?`).
-/

namespace DebugSymbols

namespace Bytes

/-- `m` is the lowest index at which `needle` stands in `hay`. -/
def FirstAt (needle hay : Bytes) (m : Nat) : Prop :=
  OccursAt needle hay m ∧ ∀ j, j < m → ¬ OccursAt needle hay j

def Absent (needle hay : Bytes) : Prop := ∀ i, ¬ OccursAt needle hay i

instance (needle hay : Bytes) (m : Nat) : Decidable (FirstAt needle hay m) :=
  inferInstanceAs (Decidable (_ ∧ _))

instance (needle hay : Bytes) : Decidable (Absent needle hay) :=
  decidable_of_iff (∀ i, i < hay.length + 1 → ¬ OccursAt needle hay i)
    ⟨fun h i ho => h i (Nat.lt_succ_of_le ho.1) ho, fun h i _ => h i⟩

theorem OccursAt.add_length_le {needle hay : Bytes} {i : Nat} (h : OccursAt needle hay i) :
    i + needle.length ≤ hay.length := (occursAt_iff_take.mp h).1

/-- An occurrence fixes the bytes it covers. -/
theorem OccursAt.getElem? {needle hay : Bytes} {i d : Nat} (h : OccursAt needle hay i)
    (hd : d < needle.length) : hay[i + d]? = needle[d]? := by
  obtain ⟨front, back, rfl, rfl⟩ := occursAt_iff_append.mp h
  rw [List.append_assoc, List.getElem?_append_right (by omega), Nat.add_sub_cancel_left,
    List.getElem?_append_left hd]

theorem occursAt_append_add {needle front back : Bytes} {i : Nat} :
    OccursAt needle (front ++ back) (front.length + i) ↔ OccursAt needle back i := by
  unfold OccursAt
  rw [← List.drop_drop, List.drop_left, List.length_append, Nat.add_le_add_iff_left]

/-- What ends within the front part is an occurrence in that part alone. -/
theorem occursAt_append_left_iff {needle front back : Bytes} {i : Nat}
    (h : i + needle.length ≤ front.length) :
    OccursAt needle (front ++ back) i ↔ OccursAt needle front i := by
  have hd : ((front ++ back).drop i).take needle.length = (front.drop i).take needle.length := by
    rw [List.drop_append_of_le_length (by omega),
      List.take_append_of_le_length (by rw [List.length_drop]; omega)]
  rw [occursAt_iff_take, occursAt_iff_take, hd, List.length_append]
  exact and_congr_left fun _ => ⟨fun _ => h, fun _ => by omega⟩

theorem OccursAt.append_right {needle hay : Bytes} {i : Nat} (h : OccursAt needle hay i)
    (back : Bytes) : OccursAt needle (hay ++ back) i :=
  (occursAt_append_left_iff h.add_length_le).mpr h

theorem FirstAt.append_right {needle hay : Bytes} {m : Nat} (h : FirstAt needle hay m)
    (back : Bytes) : FirstAt needle (hay ++ back) m := by
  have hl := h.1.add_length_le
  refine ⟨h.1.append_right back, ?_⟩
  intro j hj ho
  exact h.2 j hj ((occursAt_append_left_iff (by omega)).mp ho)

theorem FirstAt.unique {needle hay : Bytes} {m n : Nat} (hm : FirstAt needle hay m)
    (hn : FirstAt needle hay n) : m = n := by
  rcases Nat.lt_trichotomy m n with h | h | h
  · exact absurd hm.1 (hn.2 m h)
  · exact h
  · exact absurd hn.1 (hm.2 n h)

theorem Absent.not_firstAt {needle hay : Bytes} (h : Absent needle hay) {m : Nat} :
    ¬ FirstAt needle hay m := fun hm => h m hm.1

theorem Absent.of_append {needle front hay back : Bytes}
    (h : Absent needle (front ++ (hay ++ back))) : Absent needle hay := fun i ho =>
  h (front.length + i) (occursAt_append_add.mpr (ho.append_right back))

theorem absent_nil {needle : Bytes} (hn : needle ≠ []) : Absent needle [] := fun _ ho =>
  hn (List.prefix_nil.mp (List.drop_nil ▸ ho.2))

theorem absent_or_firstAt (needle hay : Bytes) :
    Absent needle hay ∨ ∃ m, FirstAt needle hay m := by
  by_cases h : ∃ i, OccursAt needle hay i
  · exact .inr ⟨Nat.find h, Nat.find_spec h, fun _ => Nat.find_min h⟩
  · exact .inl (not_exists.mp h)

theorem firstIndex?_eq_some {needle hay : Bytes} (hn : needle ≠ []) {m : Nat} :
    firstIndex? needle hay = some m ↔ FirstAt needle hay m := by
  unfold FirstAt
  rw [firstIndex?_eq_some_iff]
  simp [hn]

theorem firstIndex?_eq_none {needle hay : Bytes} (hn : needle ≠ []) :
    firstIndex? needle hay = none ↔ Absent needle hay := by
  unfold Absent
  rw [firstIndex?_eq_none_iff]
  simp [hn]

/-! ## Parts of a needle -/

theorem OccursAt.exists_firstAt {needle hay : Bytes} {i : Nat} (h : OccursAt needle hay i) :
    ∃ m, FirstAt needle hay m ∧ m ≤ i := by
  rcases absent_or_firstAt needle hay with ha | ⟨m, hm⟩
  · exact absurd h (ha i)
  · exact ⟨m, hm, Nat.le_of_not_lt fun hlt => hm.2 i hlt h⟩

theorem OccursAt.part {front part back hay : Bytes} {i : Nat}
    (h : OccursAt (front ++ part ++ back) hay i) : OccursAt part hay (i + front.length) := by
  obtain ⟨before, behind, rfl, rfl⟩ := occursAt_iff_append.mp h
  exact occursAt_iff_append.mpr ⟨before ++ front, back ++ behind, by simp, by simp⟩

/-- A part is first found where the needle is, at the latest. -/
theorem FirstAt.part {front part back hay : Bytes} {m : Nat}
    (h : FirstAt (front ++ part ++ back) hay m) :
    ∃ m', FirstAt part hay m' ∧ m' ≤ m + front.length := h.1.part.exists_firstAt

theorem absent_of_mem {b : UInt8} {needle hay : Bytes} (hb : b ∈ needle) (hh : b ∉ hay) :
    Absent needle hay := fun _ ho => hh (List.mem_of_mem_drop (ho.2.subset hb))

/-! ## Texts in parts -/

/-- No occurrence starts in the text `front` when `back` follows it. -/
def Clear (needle front back : Bytes) : Prop :=
  ∀ i, i < front.length → ¬ OccursAt needle (front ++ back) i

theorem Clear.occursAt_iff {needle front back : Bytes} (h : Clear needle front back) {i : Nat} :
    OccursAt needle (front ++ back) i ↔ ∃ k, i = front.length + k ∧ OccursAt needle back k := by
  refine ⟨?_, ?_⟩
  · intro ho
    have hi : front.length ≤ i := Nat.le_of_not_lt fun hl => h i hl ho
    obtain ⟨k, rfl⟩ := Nat.exists_eq_add_of_le hi
    exact ⟨k, rfl, occursAt_append_add.mp ho⟩
  · intro hk
    obtain ⟨k, rfl, ho⟩ := hk
    exact occursAt_append_add.mpr ho

theorem Clear.firstAt {needle front back : Bytes} (h : Clear needle front back) {m : Nat}
    (hm : FirstAt needle back m) : FirstAt needle (front ++ back) (front.length + m) := by
  refine ⟨occursAt_append_add.mpr hm.1, ?_⟩
  intro j hj ho
  obtain ⟨k, rfl, hk⟩ := h.occursAt_iff.mp ho
  exact hm.2 k (by omega) hk

theorem Clear.absent {needle front back : Bytes} (h : Clear needle front back)
    (ha : Absent needle back) : Absent needle (front ++ back) := by
  intro i ho
  obtain ⟨k, -, hk⟩ := h.occursAt_iff.mp ho
  exact ha k hk

theorem Clear.append {needle front mid back : Bytes} (h : Clear needle front (mid ++ back))
    (hm : Clear needle mid back) : Clear needle (front ++ mid) back := by
  intro i hi ho
  rw [List.append_assoc] at ho
  rw [List.length_append] at hi
  obtain ⟨k, rfl, hk⟩ := h.occursAt_iff.mp ho
  exact hm k (by omega) hk

/-! ## Tables

A table writes its entries one after the other. When no occurrence starts in the entries that do
not match, and each entry that matches has its first occurrence at an index of its own, then the
first occurrence in the table is that of the first entry that matches. -/

section
variable {α : Type} {write : α → Bytes} {needle rest : Bytes}

theorem clear_flatMap {entries : List α}
    (h : ∀ e ∈ entries, ∀ back, Clear needle (write e) back) :
    Clear needle (entries.flatMap write) rest := by
  induction entries with
  | nil => exact fun i hi => absurd hi (Nat.not_lt_zero i)
  | cons e entries ih =>
    rw [List.flatMap_cons]
    exact (h e List.mem_cons_self _).append (ih fun d hd => h d (List.mem_cons_of_mem e hd))

theorem absent_flatMap {entries : List α} (hrest : Absent needle rest)
    (h : ∀ e ∈ entries, ∀ back, Clear needle (write e) back) :
    Absent needle (entries.flatMap write ++ rest) := (clear_flatMap h).absent hrest

theorem firstAt_flatMap {front back : List α} {e : α} {m : Nat}
    (hf : ∀ d ∈ front, ∀ back, Clear needle (write d) back)
    (he : ∀ back, FirstAt needle (write e ++ back) m) :
    FirstAt needle ((front ++ e :: back).flatMap write ++ rest)
      ((front.flatMap write).length + m) := by
  rw [List.flatMap_append, List.flatMap_cons, List.append_assoc, List.append_assoc]
  exact (clear_flatMap hf).firstAt (he _)

end

theorem exists_first {α : Type} {p : α → Prop} {l : List α} (h : ∃ e ∈ l, p e) :
    ∃ front e back, l = front ++ e :: back ∧ p e ∧ ∀ d ∈ front, ¬ p d := by
  classical
  have hs : (l.find? fun e => decide (p e)).isSome := List.find?_isSome.mpr (by simpa using h)
  obtain ⟨e, he⟩ := Option.isSome_iff_exists.mp hs
  obtain ⟨hp, front, back, hl, hf⟩ := List.find?_eq_some_iff_append.mp he
  exact ⟨front, e, back, hl, by simpa using hp, by simpa using hf⟩

end Bytes

end DebugSymbols
