import DebugSymbols.Text.Utf8

/-!
# ASCII characters in UTF-8

An ASCII character is a single byte, and that byte stands nowhere else: the bytes of every other
character are different or at least `0x80`. So a byte below `0x80` is in a text's UTF-8 form
exactly if its character is in the text (`mem_utf8_iff`).
-/

namespace DebugSymbols

namespace Utf8

theorem utf8EncodeChar_of_lt {c : Char} (hc : c.toNat < 0x80) :
    String.utf8EncodeChar c = [UInt8.ofNat c.toNat] := by
  have hv : c.val.toNat ≤ 0x7f := Nat.le_of_lt_succ hc
  unfold String.utf8EncodeChar
  simp only [hv, ↓reduceIte]
  rfl

theorem le_of_mem_utf8EncodeChar {c : Char} (hc : 0x80 ≤ c.toNat) {b : UInt8}
    (hb : b ∈ String.utf8EncodeChar c) : 0x80 ≤ b.toNat := by
  have hv : ¬ c.val.toNat ≤ 0x7f := Nat.not_le_of_lt hc
  unfold String.utf8EncodeChar at hb
  simp only [hv, ↓reduceIte] at hb
  -- two, three or four bytes, each a few bits on top of a fixed mark
  split at hb
  · simp only [List.mem_cons, List.not_mem_nil, or_false] at hb
    rcases hb with rfl | rfl <;> rw [UInt8.toNat_ofNat'] <;> omega
  · split at hb
    · simp only [List.mem_cons, List.not_mem_nil, or_false] at hb
      rcases hb with rfl | rfl | rfl <;> rw [UInt8.toNat_ofNat'] <;> omega
    · simp only [List.mem_cons, List.not_mem_nil, or_false] at hb
      rcases hb with rfl | rfl | rfl | rfl <;> rw [UInt8.toNat_ofNat'] <;> omega

theorem mem_utf8EncodeChar_iff {c d : Char} (hc : c.toNat < 0x80) :
    UInt8.ofNat c.toNat ∈ String.utf8EncodeChar d ↔ d = c := by
  have hb : (UInt8.ofNat c.toNat).toNat = c.toNat := by
    rw [UInt8.toNat_ofNat']
    omega
  by_cases hd : d.toNat < 0x80
  · rw [utf8EncodeChar_of_lt hd, List.mem_singleton, ← UInt8.toNat_inj, hb, UInt8.toNat_ofNat',
      Nat.mod_eq_of_lt (by omega), eq_comm]
    exact Char.toNat_inj
  · refine ⟨?_, fun h => absurd (h ▸ hc) hd⟩
    intro h
    have := le_of_mem_utf8EncodeChar (Nat.le_of_not_lt hd) h
    omega

theorem mem_encode_iff {c : Char} (hc : c.toNat < 0x80) {cs : List Char} :
    UInt8.ofNat c.toNat ∈ encode cs ↔ c ∈ cs := by
  unfold encode
  rw [List.mem_flatMap]
  simp only [mem_utf8EncodeChar_iff hc]
  refine ⟨?_, fun h => ⟨c, h, rfl⟩⟩
  intro h
  obtain ⟨d, hd, rfl⟩ := h
  exact hd

end Utf8

/-- An ASCII byte is in a text's bytes exactly if its character is in the text. -/
theorem mem_utf8_iff {c : Char} (hc : c.toNat < 0x80) {s : String} :
    UInt8.ofNat c.toNat ∈ utf8 s ↔ c ∈ s.toList := Utf8.mem_encode_iff hc

end DebugSymbols
