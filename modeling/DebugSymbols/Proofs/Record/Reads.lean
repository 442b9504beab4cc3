import DebugSymbols.SymbolFile

/-!
# Records in plain numbers

The sizes of records and the distances of layouts as numbers without a bound, and what it means
that a byte string starts with the numbers of a payload (`Payload.Reads`). A record is read before
an offset exactly if the offset less the distance is not negative and the whole record is within
the image (`recordBefore?_eq_some`, `recordBefore?_eq_none`), whatever 64-bit words the two are.
-/

namespace DebugSymbols

def Kind.span : Kind → Nat
  | field => 6
  | method => 4

theorem Kind.toNat_recordSize (k : Kind) : k.recordSize.toNat = k.span := by
  cases k <;> rfl

def Layout.distance (l : Layout) : Kind → Nat
  | .field => l.fieldBack.toNat
  | .method => l.methodBack.toNat

theorem Layout.toNat_back (l : Layout) (k : Kind) : (l.back k).toNat = l.distance k := by
  cases k <;> rfl

/-- The bytes from the start of a record to its key in the usual file format. -/
def Kind.lead : Kind → Nat
  | field => 6
  | method => 7

theorem Layout.distance_standard (k : Kind) : standard.distance k = k.lead := by
  cases k <;> rfl

theorem Kind.span_le_lead (k : Kind) : k.span ≤ k.lead := by
  cases k <;> decide

namespace Payload

/-- The numbers of a payload are those that a byte string starts with, lowest byte first. -/
def Reads : {k : Kind} → Payload k → Bytes → Prop
  | _, .field offset segment, b =>
    offset.toNat = Bytes.value (b.take 4) ∧ segment.toNat = Bytes.value ((b.drop 4).take 2)
  | _, .method header, b => header.toNat = Bytes.value (b.take 4)

instance : {k : Kind} → (p : Payload k) → (b : Bytes) → Decidable (p.Reads b)
  | _, .field _ _, _ => inferInstanceAs (Decidable (_ ∧ _))
  | _, .method _, _ => inferInstanceAs (Decidable (_ = _))

theorem reads_iff {k : Kind} {p : Payload k} {b : Bytes} (h : k.span ≤ b.length) :
    p.Reads b ↔ p.encode = b.take k.span := by
  cases p with
  | field offset segment =>
    have h6 : 6 ≤ b.length := h
    have ho : (b.take 4).length = Word.size UInt32 := by
      simp only [List.length_take, Word.size]
      omega
    have hs : ((b.drop 4).take 2).length = Word.size UInt16 := by
      simp only [List.length_take, List.length_drop, Word.size]
      omega
    have hb : Word.encode offset ++ Word.encode segment = b.take (4 + 2) ↔
        Word.encode offset = b.take 4 ∧ Word.encode segment = (b.drop 4).take 2 :=
      Bytes.append_eq_take_iff (Word.length_encode offset) (Word.length_encode segment)
    refine Iff.trans ?_ hb.symm
    exact and_congr (Word.encode_eq_iff ho).symm (Word.encode_eq_iff hs).symm
  | method header =>
    have h4 : 4 ≤ b.length := h
    have hh : (b.take 4).length = Word.size UInt32 := by
      simp only [List.length_take, Word.size]
      omega
    exact (Word.encode_eq_iff hh).symm

theorem reads_append_iff {k : Kind} {p : Payload k} {b : Bytes} (h : k.span ≤ b.length)
    (rest : Bytes) : p.Reads (b ++ rest) ↔ p.Reads b := by
  rw [reads_iff h, reads_iff (by rw [List.length_append]; omega),
    List.take_append_of_le_length h]

theorem reads_encode_append {k : Kind} (p : Payload k) (rest : Bytes) :
    p.Reads (p.encode ++ rest) := by
  have hl : p.encode.length = k.span := by rw [length_encode, Kind.toNat_recordSize]
  rw [reads_iff (by rw [List.length_append]; omega), ← hl, List.take_left]

end Payload

namespace SymbolFile

variable {image : Image} {k : Kind} {m back : Offset}

theorem recordBefore?_eq_some {r : Record k} :
    recordBefore? image k m back = some r ↔
      m.toNat = r.start.toNat + back.toNat ∧ r.start.toNat + k.span ≤ image.bytes.length ∧
        r.payload.Reads (image.bytes.drop r.start.toNat) := by
  rw [recordBefore?_eq_some_iff, Kind.toNat_recordSize]
  refine and_congr_right fun _ => and_congr_right fun hl => ?_
  rw [Payload.reads_iff (by rw [List.length_drop]; omega)]

theorem recordBefore?_eq_none :
    recordBefore? image k m back = none ↔
      m.toNat < back.toNat ∨ image.bytes.length + back.toNat < m.toNat + k.span := by
  rw [recordBefore?_eq_none_iff, Kind.toNat_recordSize]
  omega

end SymbolFile

end DebugSymbols
