import DebugSymbols.Proofs.Bytes.Border
import DebugSymbols.Proofs.Lookup.Outcome

/-!
# A key between other bytes

A key of a field has a `?` at its start, a key of a method a NUL at its end. Where the symbol's
names do not have that mark, it stands nowhere else in the key, and the key has no border. So a
key that is put between any bytes is first found there, unless it already stands in the bytes in
front; and in the usual layout it is found with the record that these bytes end with, if they
have as many (`lookup_planted`).
-/

namespace DebugSymbols

open Bytes

/-- The names of a symbol do not have the mark at the one end of its key. -/
def Symbol.MarkFree : Symbol → Prop
  | field name owner => '?' ∉ name.toList ∧ '?' ∉ owner.toList
  | joined names => '?' ∉ names.toList
  | method name => '\x00' ∉ name.toList

theorem Symbol.MarkFree.unbordered {s : Symbol} (h : s.MarkFree) : Unbordered s.needle := by
  cases s with
  | field name owner =>
    apply unbordered_of_head
    simp [question_not_mem h.1, question_not_mem h.2]
  | joined names =>
    apply unbordered_of_head
    simp [question_not_mem h]
  | method name => exact unbordered_of_last (nul_not_mem h)

namespace SymbolFile

section
variable {s : Symbol} {front back : Bytes} {image : Image}
  (hb : image.bytes = front ++ (s.needle ++ back)) (hm : FirstAt s.needle image.bytes front.length)
include hb hm

theorem lookup_planted_malformed (hl : front.length < s.kind.lead) :
    ∃ m length : Offset, m.toNat = front.length ∧
      length.toNat = front.length + s.needle.length + back.length ∧
      ((create image).1.lookup s).1 =
        .error (.malformed s.key.display m (Layout.standard.back s.kind) s.kind.recordSize
          length) := by
  obtain ⟨m, -, hfront⟩ := exists_find?_needle_iff.mpr hm
  have hd : m.toNat < (create image).1.layout.distance s.kind := by
    rw [hfront]
    exact Layout.distance_standard s.kind ▸ hl
  refine ⟨m, image.size, hfront, ?_, ?_⟩
  · rw [Image.toNat_size, hb, List.length_append, List.length_append, Nat.add_assoc]
  · rw [lookup_malformed rfl (hfront ▸ hm) (.inl hd)]
    rfl

theorem lookup_planted_ok (hl : s.kind.lead ≤ front.length) :
    ∃ r : Record s.kind, ((create image).1.lookup s).1 = .ok r ∧
      r.start.toNat = front.length - s.kind.lead ∧
      r.payload.Reads (front.drop (front.length - s.kind.lead)) := by
  have hd : (create image).1.layout.distance s.kind = s.kind.lead :=
    Layout.distance_standard s.kind
  have hspan := s.kind.span_le_lead
  have hle := hm.1.add_length_le
  obtain ⟨r, hr, hstart, hp⟩ := exists_lookup_eq_ok (f := (create image).1) rfl hm
    (by omega) (by omega)
  have hs : r.start.toNat = front.length - s.kind.lead := by omega
  rw [hs, hb, List.drop_append_of_le_length (by omega),
    Payload.reads_append_iff (by rw [List.length_drop]; omega)] at hp
  exact ⟨r, hr, hs, hp⟩

end

/-- A key without its mark in the names has no border. Between other bytes it is first found where
it was put exactly if the bytes in front do not have it. Then, in the usual layout, a lookup gives
the record that these bytes end with; if they are too few for that, it reports the key's index and
the size of the whole. -/
theorem lookup_planted {s : Symbol} (hs : s.MarkFree) {front back : Bytes} {image : Image}
    (hb : image.bytes = front ++ s.key.bytes ++ back) :
    Unbordered s.key.bytes ∧
      ((∃ m : Offset, image.find? s.key.bytes = some m ∧ m.toNat = front.length) ↔
        Absent s.key.bytes front) ∧
      (Absent s.key.bytes front →
        (front.length < s.kind.lead →
          ∃ m length : Offset, m.toNat = front.length ∧
            length.toNat = front.length + s.key.bytes.length + back.length ∧
            ((create image).1.lookup s).1 =
              .error (.malformed s.key.display m (Layout.standard.back s.kind) s.kind.recordSize
                length)) ∧
        (s.kind.lead ≤ front.length →
          ∃ r : Record s.kind, ((create image).1.lookup s).1 = .ok r ∧
            r.start.toNat = front.length - s.kind.lead ∧
            r.payload.Reads (front.drop (front.length - s.kind.lead)))) := by
  rw [s.bytes_key, List.append_assoc] at hb
  have hfirst : FirstAt s.needle image.bytes front.length ↔ Absent s.needle front := by
    rw [hb]
    exact hs.unbordered.firstAt_iff s.needle_ne_nil
  rw [exists_find?_needle_iff, s.bytes_key]
  refine ⟨hs.unbordered, hfirst, ?_⟩
  intro ha
  exact ⟨lookup_planted_malformed hb (hfirst.mpr ha), lookup_planted_ok hb (hfirst.mpr ha)⟩

/-- The bytes in front end with what a key starts with, or are too few for a record. -/
theorem lookup_planted_behind_start :
    let s : Symbol := .field "gr" "a@ü"
    let front : Bytes := [0x10, 0] ++ utf8 "?gr@"
    let image : Image := ⟨front ++ s.key.bytes ++ [0], by decide⟩
    let short : Image := ⟨utf8 "?gr@" ++ s.key.bytes ++ [0], by decide⟩
    s.MarkFree ∧ Absent s.key.bytes front ∧ Absent s.key.bytes (utf8 "?gr@") ∧
      (∃ m : Offset, image.find? s.key.bytes = some m ∧ m.toNat = 6) ∧
      (∃ r : Record .field, ((create image).1.lookup s).1 = .ok r ∧ r.start.toNat = 0 ∧
        r.payload.Reads front) ∧
      ∃ m length : Offset, m.toNat = 4 ∧ length.toNat = 14 ∧
        ((create short).1.lookup s).1 = .error (.malformed s.key.display m 6 6 length) := by
  intro s front image short
  have hs : s.MarkFree := ⟨by decide, by decide⟩
  have hf : Absent s.key.bytes front := by decide
  have hg : Absent s.key.bytes (utf8 "?gr@") := by decide
  have hi : image.bytes = front ++ s.key.bytes ++ [0] := rfl
  have ht : short.bytes = utf8 "?gr@" ++ s.key.bytes ++ [0] := rfl
  refine ⟨hs, hf, hg, ?_, ?_, ?_⟩
  · exact (lookup_planted hs hi).2.1.mpr hf
  · exact ((lookup_planted hs hi).2.2 hf).2 (by decide)
  · obtain ⟨m, length, hm, hl, he⟩ := ((lookup_planted hs ht).2.2 hg).1 (by decide)
    exact ⟨m, length, hm.trans (by decide), hl.trans (by decide), he⟩

-- With a second mark in the names a key is found across the seam.
example : firstIndex? (Symbol.joined "@?").key.bytes (utf8 "?@" ++ (Symbol.joined "@?").key.bytes) =
    some 0 := by decide

end SymbolFile

end DebugSymbols
