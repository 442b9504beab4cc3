import DebugSymbols.Image
import DebugSymbols.Proofs.Bytes.Occurrence
import DebugSymbols.Proofs.Symbol.Needle

/-!
# Texts in texts

The first byte of a character's UTF-8 form is told from all others, so it shows where a character
starts (`Utf8.exists_split`). Hence the bytes of a text stand in those of another only where the
text stands in the other as characters (`Utf8.occursAt_encode_iff`): an occurrence neither starts
nor ends within a character.

So a search in a text's bytes is a search in the text (`firstIndex?_utf8`). It answers the number of
bytes in front of the first place where the part stands, and nothing exactly if the part stands
nowhere.
-/

namespace DebugSymbols

open Bytes

namespace Utf8

variable {cs ks us vs : List Char} {i : Nat}

theorem length_le_length_encode (cs : List Char) : cs.length ≤ (encode cs).length := by
  induction cs with
  | nil => exact Nat.le_refl 0
  | cons c cs ih =>
    have := c.utf8Size_pos
    rw [encode_cons, List.length_append, String.length_utf8EncodeChar, List.length_cons]
    omega

theorem length_encode_le_iff (hu : us <+: cs) (hv : vs <+: cs) :
    (encode us).length ≤ (encode vs).length ↔ us.length ≤ vs.length := by
  rcases List.prefix_or_prefix_of_prefix hu hv with ⟨w, rfl⟩ | ⟨w, rfl⟩
  · simp
  · have hw := length_le_length_encode w
    rw [encode_append, List.length_append, List.length_append]
    refine ⟨fun h => by omega, fun h => ?_⟩
    obtain rfl : w = [] := List.length_eq_zero_iff.mp (by omega)
    simp

/-- What stands at a first byte is the start of a character. -/
theorem exists_split {b : UInt8} (hb : (encode cs)[i]? = some b) (hf : b.IsUTF8FirstByte) :
    ∃ us vs, cs = us ++ vs ∧ (encode us).length = i := by
  induction cs generalizing i with
  | nil => simp at hb
  | cons c cs ih =>
    rw [encode_cons] at hb
    by_cases hi : i < (String.utf8EncodeChar c).length
    · -- of the bytes of one character only that at index 0 is a first byte
      rw [List.getElem?_append_left hi, List.getElem?_eq_getElem hi, Option.some.injEq] at hb
      subst hb
      obtain rfl := UInt8.isUTF8FirstByte_getElem_utf8EncodeChar.mp hf
      exact ⟨[], c :: cs, rfl, rfl⟩
    · rw [List.getElem?_append_right (by omega)] at hb
      obtain ⟨us, vs, rfl, hl⟩ := ih hb
      refine ⟨c :: us, vs, rfl, ?_⟩
      rw [encode_cons, List.length_append]
      omega

theorem encode_prefix_iff : encode ks <+: encode cs ↔ ks <+: cs := by
  constructor
  · intro h
    induction ks generalizing cs with
    | nil => exact List.nil_prefix
    | cons k ks ih =>
      obtain ⟨rest, hr⟩ := h
      rw [encode_cons, List.append_assoc] at hr
      rcases cs with _ | ⟨c, cs⟩
      · have := congrArg head? hr
        rw [head?_utf8EncodeChar_append, encode_nil, head?_nil] at this
        cases this
      · rw [encode_cons] at hr
        have hc := congrArg head? hr
        rw [head?_utf8EncodeChar_append, head?_utf8EncodeChar_append, Option.some.injEq] at hc
        subst hc
        rw [List.append_cancel_left_eq] at hr
        exact List.cons_prefix_cons.mpr ⟨rfl, ih ⟨rest, hr⟩⟩
  · rintro ⟨rest, rfl⟩
    exact ⟨encode rest, (encode_append ks rest).symm⟩

theorem occursAt_encode_iff (hk : ks ≠ []) :
    OccursAt (encode ks) (encode cs) i ↔
      ∃ us vs, cs = us ++ ks ++ vs ∧ (encode us).length = i := by
  constructor
  · intro h
    obtain ⟨k, ks, rfl⟩ := List.exists_cons_of_ne_nil hk
    have hpos : 0 < (String.utf8EncodeChar k).length := by
      rw [String.length_utf8EncodeChar]
      exact k.utf8Size_pos
    have hfirst : (encode cs)[i]? = some (String.utf8EncodeChar k)[0] := by
      have hlen : 0 < (encode (k :: ks)).length := by
        rw [encode_cons, List.length_append]
        omega
      rw [← Nat.add_zero i, h.getElem? hlen, encode_cons, List.getElem?_append_left hpos,
        List.getElem?_eq_getElem hpos]
    obtain ⟨us, vs, rfl, rfl⟩ :=
      exists_split hfirst UInt8.isUTF8FirstByte_getElem_zero_utf8EncodeChar
    rw [encode_append, ← Nat.add_zero (encode us).length, occursAt_append_add, occursAt_zero,
      encode_prefix_iff] at h
    obtain ⟨back, rfl⟩ := h
    exact ⟨us, back, by rw [List.append_assoc], rfl⟩
  · rintro ⟨us, vs, rfl, rfl⟩
    exact occursAt_iff_append.mpr ⟨encode us, encode vs, rfl, by simp⟩

end Utf8

def StandsBehind (part text front : String) : Prop := ∃ back, text = front ++ part ++ back

/-- In a text, a part stands behind `front` and behind no shorter text. -/
structure FirstBehind (part text front : String) : Prop where
  stands : StandsBehind part text front
  shortest : ∀ front', StandsBehind part text front' → front.length ≤ front'.length

section
variable {part text front : String} {i : Nat}

theorem StandsBehind.starts (h : StandsBehind part text front) : front.toList <+: text.toList := by
  obtain ⟨back, rfl⟩ := h
  exact ⟨part.toList ++ back.toList, by simp⟩

theorem occursAt_utf8_iff (hp : part ≠ "") :
    OccursAt (utf8 part) (utf8 text) i ↔
      ∃ front, StandsBehind part text front ∧ (utf8 front).length = i := by
  have hne : part.toList ≠ [] := fun h => hp (String.toList_eq_nil_iff.mp h)
  unfold utf8
  rw [Utf8.occursAt_encode_iff hne]
  constructor
  · rintro ⟨us, vs, he, rfl⟩
    refine ⟨String.ofList us, ⟨String.ofList vs, String.toList_inj.mp ?_⟩, by simp⟩
    simp [he]
  · rintro ⟨front, ⟨back, rfl⟩, rfl⟩
    exact ⟨front.toList, back.toList, by simp, rfl⟩

theorem absent_utf8_iff (hp : part ≠ "") :
    Absent (utf8 part) (utf8 text) ↔ ∀ front, ¬ StandsBehind part text front := by
  unfold Absent
  constructor
  · intro h front hf
    exact h _ ((occursAt_utf8_iff hp).mpr ⟨front, hf, rfl⟩)
  · intro h i ho
    obtain ⟨front, hf, -⟩ := (occursAt_utf8_iff hp).mp ho
    exact h front hf

theorem firstAt_utf8_iff (hp : part ≠ "") :
    FirstAt (utf8 part) (utf8 text) i ↔
      ∃ front, FirstBehind part text front ∧ (utf8 front).length = i := by
  constructor
  · rintro ⟨ho, hl⟩
    obtain ⟨front, hf, rfl⟩ := (occursAt_utf8_iff hp).mp ho
    refine ⟨front, ⟨hf, ?_⟩, rfl⟩
    intro front' hf'
    refine (Utf8.length_encode_le_iff hf.starts hf'.starts).mp (Nat.le_of_not_lt fun hlt => ?_)
    exact hl _ hlt ((occursAt_utf8_iff hp).mpr ⟨front', hf', rfl⟩)
  · rintro ⟨front, hf, rfl⟩
    refine ⟨(occursAt_utf8_iff hp).mpr ⟨front, hf.stands, rfl⟩, ?_⟩
    intro j hj ho
    obtain ⟨front', hf', rfl⟩ := (occursAt_utf8_iff hp).mp ho
    have := (Utf8.length_encode_le_iff hf.stands.starts hf'.starts).mpr (hf.shortest front' hf')
    exact Nat.not_lt_of_le this hj

end

theorem Symbol.text_key_ne_empty (s : Symbol) : s.key.text ≠ "" := by
  intro h
  have hk := s.needle_ne_nil
  rw [← s.bytes_key, Key.bytes, h] at hk
  exact hk rfl

/-- The bytes of a part are found in those of a text where the part stands in the text: an
occurrence is a place of whole characters, the search answers the number of bytes in front of the
first of these places, and nothing exactly if there is none. It is the same search in an image, and
the keys of symbols are such parts. -/
theorem firstIndex?_utf8 (text : String) {part : String} (hp : part ≠ "") :
    (∀ i, OccursAt (utf8 part) (utf8 text) i ↔
        ∃ front back, text = front ++ part ++ back ∧ (utf8 front).length = i) ∧
      (∀ i, firstIndex? (utf8 part) (utf8 text) = some i ↔
        ∃ front, FirstBehind part text front ∧ (utf8 front).length = i) ∧
      (firstIndex? (utf8 part) (utf8 text) = none ↔
        ¬ ∃ front back, text = front ++ part ++ back) ∧
      (∀ image : Image, image.bytes = utf8 text →
        (∀ m : Offset, image.find? (utf8 part) = some m ↔
          ∃ front, FirstBehind part text front ∧ (utf8 front).length = m.toNat) ∧
        (image.find? (utf8 part) = none ↔ ¬ ∃ front back, text = front ++ part ++ back)) ∧
      ∀ s : Symbol, s.key.bytes = utf8 s.key.text ∧ s.key.text ≠ "" := by
  have hne : utf8 part ≠ [] := fun h => hp (utf8_inj h)
  have hsome : ∀ i, firstIndex? (utf8 part) (utf8 text) = some i ↔
      ∃ front, FirstBehind part text front ∧ (utf8 front).length = i := by
    intro i
    rw [firstIndex?_eq_some hne, firstAt_utf8_iff hp]
  have hnone : firstIndex? (utf8 part) (utf8 text) = none ↔
      ¬ ∃ front back, text = front ++ part ++ back := by
    rw [firstIndex?_eq_none hne, absent_utf8_iff hp, not_exists]
    rfl
  refine ⟨?_, hsome, hnone, ?_, ?_⟩
  · intro i
    rw [occursAt_utf8_iff hp]
    simp only [StandsBehind, exists_and_right]
  · intro image hb
    refine ⟨?_, ?_⟩
    · intro m
      rw [Image.find?_eq_some_iff, hb, hsome]
    · rw [Image.find?_eq_none_iff, hb, hnone]
  · intro s
    exact ⟨rfl, s.text_key_ne_empty⟩

/-- A text with characters of one to four bytes, in which a key stands twice. -/
theorem firstIndex?_utf8_mixed :
    let image : Image := ⟨utf8 "ü€𝒳?ü@?ü@", by decide⟩
    "?ü@" ≠ "" ∧ image.find? (utf8 "?ü@") = some 9 ∧
      (∃ front, FirstBehind "?ü@" "ü€𝒳?ü@?ü@" front ∧ (utf8 front).length = 9) ∧
      image.find? (utf8 "ü?€") = none ∧
      ¬ ∃ front back, "ü€𝒳?ü@?ü@" = front ++ "ü?€" ++ back := by
  intro image
  have hfound : image.find? (utf8 "?ü@") = some 9 := by decide
  have hmissing : image.find? (utf8 "ü?€") = none := by decide
  obtain ⟨-, -, -, himage, -⟩ := firstIndex?_utf8 "ü€𝒳?ü@?ü@" (show "?ü@" ≠ "" by decide)
  obtain ⟨-, -, -, himage', -⟩ := firstIndex?_utf8 "ü€𝒳?ü@?ü@" (show "ü?€" ≠ "" by decide)
  exact ⟨by decide, hfound, ((himage image rfl).1 9).mp hfound, hmissing,
    (himage' image rfl).2.mp hmissing⟩

end DebugSymbols
