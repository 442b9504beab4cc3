import DebugSymbols.Proofs.Bytes.Mark
import DebugSymbols.Proofs.Lookup.Outcome

/-!
# Tables of fields

A table of fields writes, for one entry after the other, some filler, the record of a field and
its key. The names are plain: they have neither `?` nor `@`; the filler has no `?`, but the
records are arbitrary bytes.

A key starts with the only `?` that it has. So it is not found in filler, which has none, nor in a
key but at its start; and from within a record it would reach the `?` of the key behind, if it has
more bytes than a record. At the start of a key, plain names are told apart by the `@` that ends
them, so only the key of the same field matches. A lookup in a table therefore gives the record of
the first entry for the field, and misses if there is none (`lookup_fieldTable`).
-/

namespace DebugSymbols

open Bytes

/-- A name without the two marks in the keys of fields. -/
structure Plain (name : String) : Prop where
  noQuestion : '?' ∉ name.toList
  noAt : '@' ∉ name.toList

instance (name : String) : Decidable (Plain name) :=
  decidable_of_iff ('?' ∉ name.toList ∧ '@' ∉ name.toList)
    ⟨fun h => ⟨h.1, h.2⟩, fun h => ⟨h.noQuestion, h.noAt⟩⟩

theorem Plain.question_not_mem {name : String} (h : Plain name) : 0x3f ∉ utf8 name :=
  DebugSymbols.question_not_mem h.noQuestion

theorem Plain.at_not_mem {name : String} (h : Plain name) : 0x40 ∉ utf8 name := fun hm =>
  h.noAt ((mem_utf8_iff (c := '@') (by decide)).mp hm)

/-- A field in a table, with the filler in front of its record. -/
structure FieldEntry where
  filler : Bytes
  offset : UInt32
  segment : UInt16
  name : String
  owner : String

namespace FieldEntry

def symbol (e : FieldEntry) : Symbol := .field e.name e.owner

def payload (e : FieldEntry) : Payload .field := .field e.offset e.segment

def bytes (e : FieldEntry) : Bytes := e.filler ++ (e.payload.encode ++ e.symbol.needle)

/-- An entry with plain names, and with no `?` in its filler. -/
structure Clean (e : FieldEntry) : Prop where
  filler : 0x3f ∉ e.filler
  name : Plain e.name
  owner : Plain e.owner

instance (e : FieldEntry) : Decidable e.Clean :=
  decidable_of_iff (0x3f ∉ e.filler ∧ Plain e.name ∧ Plain e.owner)
    ⟨fun h => ⟨h.1, h.2.1, h.2.2⟩, fun h => ⟨h.filler, h.name, h.owner⟩⟩

end FieldEntry

/-- The bytes of a field's key behind the `?`. -/
def fieldTail (name owner : String) : Bytes := utf8 name ++ 0x40 :: (utf8 owner ++ [0x40])

theorem needle_field (name owner : String) :
    (Symbol.field name owner).needle = 0x3f :: fieldTail name owner := rfl

theorem question_not_mem_fieldTail {name owner : String} (hn : Plain name) (ho : Plain owner) :
    0x3f ∉ fieldTail name owner := by
  simp [fieldTail, hn.question_not_mem, ho.question_not_mem]

section
variable {name owner : String} (hn : Plain name) (ho : Plain owner)
include hn ho

/-- A key of plain names starts a key of plain names, with anything behind, only as the same. -/
theorem needle_prefix_iff {name' owner' : String} (hn' : Plain name') (ho' : Plain owner')
    (rest : Bytes) :
    (Symbol.field name owner).needle <+: (Symbol.field name' owner').needle ++ rest ↔
      Symbol.field name' owner' = .field name owner := by
  simp only [Symbol.needle, List.cons_append, List.append_assoc, List.cons_prefix_cons, true_and]
  rw [append_mark_prefix_iff hn.at_not_mem hn'.at_not_mem,
    append_mark_prefix_iff ho.at_not_mem ho'.at_not_mem]
  simp only [List.nil_prefix, and_true, Symbol.field.injEq]
  refine ⟨fun h => ⟨(utf8_inj h.1).symm, (utf8_inj h.2).symm⟩, fun h => ?_⟩
  rw [h.1, h.2]
  exact ⟨rfl, rfl⟩

variable (hl : 4 ≤ (utf8 name).length + (utf8 owner).length) {e : FieldEntry} (he : e.Clean)
include hl he

theorem clear_filler_record (back : Bytes) :
    Clear (Symbol.field name owner).needle (e.filler ++ e.payload.encode)
      (e.symbol.needle ++ back) := by
  have ht := question_not_mem_fieldTail hn ho
  have h6 : e.payload.encode.length ≤ (fieldTail name owner).length := by
    rw [Payload.length_encode, Kind.toNat_recordSize]
    simp only [Kind.span, fieldTail, List.length_append, List.length_cons, List.length_nil]
    omega
  exact (clear_of_not_mem he.filler _).append (clear_of_length_le ht h6 _)

theorem clear_entry (hs : e.symbol ≠ .field name owner) (back : Bytes) :
    Clear (Symbol.field name owner).needle e.bytes back := by
  have hfr := clear_filler_record hn ho hl he back
  have hkey : Clear (Symbol.field name owner).needle e.symbol.needle back := by
    intro i hi h
    rcases i with _ | i
    · apply hs
      exact (needle_prefix_iff hn ho he.name he.owner back).mp (occursAt_zero.mp h)
    · have hm := OccursAt.getElem?_mark h
      have ht := question_not_mem_fieldTail he.name he.owner
      rw [List.getElem?_append_left hi, FieldEntry.symbol, needle_field,
        List.getElem?_cons_succ] at hm
      exact ht (List.mem_of_getElem? hm)
  unfold FieldEntry.bytes
  rw [← List.append_assoc]
  exact hfr.append hkey

theorem firstAt_entry (hs : e.symbol = .field name owner) (back : Bytes) :
    FirstAt (Symbol.field name owner).needle (e.bytes ++ back) (e.filler.length + 6) := by
  have hfr := clear_filler_record hn ho hl he back
  have hz : FirstAt (Symbol.field name owner).needle (e.symbol.needle ++ back) 0 :=
    ⟨occursAt_zero.mpr (hs ▸ List.prefix_append _ _), fun j hj => absurd hj (Nat.not_lt_zero j)⟩
  have h6 : (e.filler ++ e.payload.encode).length = e.filler.length + 6 := by
    rw [List.length_append, Payload.length_encode]
    rfl
  unfold FieldEntry.bytes
  rw [← List.append_assoc, List.append_assoc, ← h6]
  exact hfr.firstAt hz

end

/-- The bytes of a table of fields, and of what is behind its last entry. -/
def fieldTable (entries : List FieldEntry) (rest : Bytes) : Bytes :=
  entries.flatMap FieldEntry.bytes ++ rest

theorem drop_fieldTable (front back : List FieldEntry) (e : FieldEntry) (rest : Bytes) :
    ∃ behind, (fieldTable (front ++ e :: back) rest).drop
      ((front.flatMap FieldEntry.bytes).length + e.filler.length) = e.payload.encode ++ behind := by
  refine ⟨e.symbol.needle ++ fieldTable back rest, ?_⟩
  unfold fieldTable
  rw [List.flatMap_append, List.flatMap_cons, FieldEntry.bytes, ← List.drop_drop]
  simp only [List.append_assoc, List.drop_left]

/-- In a table of fields with plain names, a lookup of a field of which the key is longer than a
record finds the record of the first entry for the field, wherever that stands, and finds
nothing if there is no such entry. -/
theorem lookup_fieldTable {entries : List FieldEntry} {rest : Bytes} {image : Image}
    (hb : image.bytes = fieldTable entries rest) (hc : ∀ e ∈ entries, e.Clean)
    (hr : 0x3f ∉ rest) {name owner : String} (hn : Plain name) (ho : Plain owner)
    (hl : 4 ≤ (utf8 name).length + (utf8 owner).length) :
    ((∃ e ∈ entries, e.symbol = .field name owner) →
        ∃ front e back, entries = front ++ e :: back ∧ e.symbol = .field name owner ∧
          (∀ d ∈ front, d.symbol ≠ .field name owner) ∧
          ∃ start : Offset,
            start.toNat = (front.flatMap FieldEntry.bytes).length + e.filler.length ∧
            ((SymbolFile.create image).1.lookup (.field name owner)).1 =
              .ok ⟨start, .field e.offset e.segment⟩) ∧
      ((∀ e ∈ entries, e.symbol ≠ .field name owner) →
        ((SymbolFile.create image).1.lookup (.field name owner)).1 =
          .error (.notFound .field name (some owner))) := by
  refine ⟨?_, ?_⟩
  · intro hex
    obtain ⟨front, e, back, rfl, hs, hf⟩ := exists_first hex
    refine ⟨front, e, back, rfl, hs, hf, ?_⟩
    have he : e.Clean := hc e (by simp)
    have hm : FirstAt (Symbol.field name owner).needle image.bytes
        ((front.flatMap FieldEntry.bytes).length + (e.filler.length + 6)) := by
      rw [hb]
      refine firstAt_flatMap ?_ (firstAt_entry hn ho hl he hs)
      intro d hd
      exact clear_entry hn ho hl (hc d (List.mem_append_left _ hd)) (hf d hd)
    rw [← Nat.add_assoc] at hm
    obtain ⟨behind, hd⟩ := drop_fieldTable front back e rest
    exact SymbolFile.exists_lookup_eq_payload (s := .field name owner) (p := e.payload) rfl hm
      (hb ▸ hd)
  · intro hne
    refine SymbolFile.Outcome.eq_lookup (.notFound rfl ?_ (.field name owner))
    rw [hb]
    apply absent_flatMap (absent_of_not_mem hr)
    intro e he
    exact clear_entry hn ho hl (hc e he) (hne e he)

/-- Three entries, the second of which has the marks in its record and the same field as the
third. -/
def markedFields : List FieldEntry :=
  [⟨[], 1, 2, "ab", "c"⟩, ⟨[0x2e], 0x3f3f3f3f, 0x4040, "ab", "cd"⟩, ⟨[], 5, 6, "ab", "cd"⟩]

theorem lookup_fieldTable_marked :
    (∃ front e back, markedFields = front ++ e :: back ∧ e.symbol = .field "ab" "cd" ∧
        (∀ d ∈ front, d.symbol ≠ .field "ab" "cd") ∧
        ∃ start : Offset,
          start.toNat = (front.flatMap FieldEntry.bytes).length + e.filler.length ∧
          ((SymbolFile.create ⟨fieldTable markedFields [0], by decide⟩).1.lookup
            (.field "ab" "cd")).1 = .ok ⟨start, .field e.offset e.segment⟩) ∧
      ((SymbolFile.create ⟨fieldTable markedFields [0], by decide⟩).1.lookup
        (.field "ab" "ce")).1 = .error (.notFound .field "ab" (some "ce")) := by
  have hc : ∀ e ∈ markedFields, e.Clean := by decide
  have hab : Plain "ab" := by decide
  have hcd : Plain "cd" := by decide
  have hce : Plain "ce" := by decide
  exact ⟨(lookup_fieldTable rfl hc (by decide) hab hcd (by decide)).1 (by decide),
    (lookup_fieldTable rfl hc (by decide) hab hce (by decide)).2 (by decide)⟩

end DebugSymbols
