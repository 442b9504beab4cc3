/-!
# Offsets

An offset is a 64-bit position in a symbol file, or a distance between two. Sums and differences
are checked: `add?` and `sub?` answer the exact result, or nothing when it is no offset
(`add?_eq_some_iff`, `sub?_eq_some_iff`).
-/

namespace DebugSymbols

/-- A position or a distance, a 64-bit word. -/
abbrev Offset := UInt64

namespace Offset

/-- The sum, unless it passes the largest offset: a wrapped sum is below its first term. -/
def add? (a b : Offset) : Option Offset :=
  if a + b < a then none else some (a + b)

def sub? (a b : Offset) : Option Offset :=
  if a < b then none else some (a - b)

theorem add?_eq_some_iff {a b c : Offset} : add? a b = some c ↔ a.toNat + b.toNat = c.toNat := by
  have ha := a.toNat_lt
  have hb := b.toNat_lt
  have hc := c.toNat_lt
  unfold add?
  split <;> rename_i h <;> rw [UInt64.lt_iff_toNat_lt, UInt64.toNat_add] at h
  · simp only [reduceCtorEq, false_iff]
    omega
  · rw [Option.some.injEq, ← UInt64.toNat_inj, UInt64.toNat_add]
    omega

theorem add?_eq_none_iff {a b : Offset} : add? a b = none ↔ UInt64.size ≤ a.toNat + b.toNat := by
  have hs : UInt64.size = 2 ^ 64 := rfl
  have ha := a.toNat_lt
  have hb := b.toNat_lt
  unfold add?
  split <;> rename_i h <;> rw [UInt64.lt_iff_toNat_lt, UInt64.toNat_add] at h
  · simp only [true_iff]
    omega
  · simp only [reduceCtorEq, false_iff]
    omega

theorem sub?_eq_some_iff {a b c : Offset} : sub? a b = some c ↔ a.toNat = c.toNat + b.toNat := by
  have ha := a.toNat_lt
  have hb := b.toNat_lt
  unfold sub?
  split <;> rename_i h <;> rw [UInt64.lt_iff_toNat_lt] at h
  · simp only [reduceCtorEq, false_iff]
    omega
  · rw [Option.some.injEq, ← UInt64.toNat_inj,
      UInt64.toNat_sub_of_le _ _ (UInt64.le_iff_toNat_le.mpr (by omega))]
    omega

theorem sub?_eq_none_iff {a b : Offset} : sub? a b = none ↔ a.toNat < b.toNat := by
  unfold sub?
  split <;> rename_i h <;> rw [UInt64.lt_iff_toNat_lt] at h <;> simp [h]

end Offset

end DebugSymbols
