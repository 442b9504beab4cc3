import DebugSymbols.Proofs.Lookup.Outcome

/-!
# Records that do not fit

A lookup reports a misfit when the first index of a key leaves no room for the record: the record
would start before the image, or end behind it. The key itself is within the image, so a record
that ends behind the image ends behind the key too, which takes a distance and a key that together
are shorter than the record. In every other layout, the usual one among them, a misfit is always a
key too close to the start, and reading a record that has a start never fails. When the distance
alone is as long as the record, a record that is found ends before its key (`lookup_misfit`).
-/

namespace DebugSymbols

namespace SymbolFile

variable {f : SymbolFile} {s : Symbol} {image : Image}

/-- Where distance and key are as long as the record, a record that has a start ends within the
image, with the key at the latest. -/
theorem add_span_le_of_find? {m : Offset} (hm : image.find? s.key.bytes = some m)
    (hk : s.kind.span ≤ f.layout.distance s.kind + s.key.bytes.length)
    (hb : f.layout.distance s.kind ≤ m.toNat) :
    m.toNat - f.layout.distance s.kind + s.kind.span ≤ image.bytes.length := by
  have hl := (find?_needle_eq_some.mp hm).1.add_length_le
  rw [← s.bytes_key] at hl
  omega

section
variable (hi : f.image? = some image)
include hi

theorem lookup_malformed_fields {key : String} {m back size length : Offset}
    (h : (f.lookup s).1 = .error (.malformed key m back size length)) :
    image.find? s.key.bytes = some m ∧ length.toNat = image.bytes.length ∧
      m.toNat + s.key.bytes.length ≤ length.toNat ∧ back = f.layout.back s.kind ∧
      size.toNat = s.kind.span ∧
      (m.toNat < back.toNat ∨
        back.toNat ≤ m.toNat ∧ length.toNat < m.toNat - back.toNat + size.toNat ∧
          back.toNat + s.key.bytes.length < size.toNat) := by
  obtain ⟨-, hm, hback, hsize, hlength, ho⟩ := (lookup_eq_malformed_iff hi).mp h
  have hl := hm.1.add_length_le
  rw [← s.bytes_key] at hl
  have hb : back = f.layout.back s.kind := by
    rw [← UInt64.toNat_inj, hback, Layout.toNat_back]
  refine ⟨find?_needle_eq_some.mpr hm, hlength, by omega, hb, hsize, ?_⟩
  omega

/-- Where distance and key are as long as the record, a misfit is a key too close to the start. -/
theorem exists_lookup_malformed_iff
    (hk : s.kind.span ≤ f.layout.distance s.kind + s.key.bytes.length) :
    (∃ key m back size length,
        (f.lookup s).1 = .error (.malformed key m back size length)) ↔
      ∃ m : Offset, image.find? s.key.bytes = some m ∧ m.toNat < f.layout.distance s.kind := by
  constructor
  · intro h
    obtain ⟨key, m, back, size, length, h⟩ := h
    obtain ⟨hm, -, -, rfl, hsize, ho⟩ := lookup_malformed_fields hi h
    rw [Layout.toNat_back] at ho
    exact ⟨m, hm, by omega⟩
  · intro h
    obtain ⟨m, hm, hlt⟩ := h
    rw [find?_needle_eq_some] at hm
    exact ⟨_, _, _, _, _, congrArg Prod.fst (lookup_malformed hi hm (.inl hlt))⟩

theorem lookup_ok_before (hk : s.kind.span ≤ f.layout.distance s.kind) {r : Record s.kind}
    (h : (f.lookup s).1 = .ok r) :
    ∃ m : Offset, image.find? s.key.bytes = some m ∧ r.start.toNat + s.kind.span ≤ m.toNat ∧
      m.toNat + s.key.bytes.length ≤ image.bytes.length := by
  obtain ⟨hm, -, -⟩ := (lookup_eq_ok_iff hi).mp h
  have hl := hm.1.add_length_le
  rw [← s.bytes_key] at hl
  obtain ⟨m, hfind, hstart⟩ := exists_find?_needle_iff.mpr hm
  exact ⟨m, hfind, by omega, by omega⟩

end

/-- A report of a misfit says where the key is, within the image, and what does not fit there: the
start of the record, or else its end, and then distance and key are shorter than the record. Where
they are not, as in the usual layout, a misfit is reported exactly if the key is nearer to the
start than the distance, and a record that has a start can be read. And where the distance alone
is as long as the record, a record that is found ends before its key. -/
theorem lookup_misfit {f : SymbolFile} {image : Image} (hi : f.image? = some image) (s : Symbol) :
    (∀ key m back size length,
        (f.lookup s).1 = .error (.malformed key m back size length) →
          image.find? s.key.bytes = some m ∧ length.toNat = image.bytes.length ∧
            m.toNat + s.key.bytes.length ≤ length.toNat ∧ back = f.layout.back s.kind ∧
            size.toNat = s.kind.span ∧
            (m.toNat < back.toNat ∨
              back.toNat ≤ m.toNat ∧ length.toNat < m.toNat - back.toNat + size.toNat ∧
                back.toNat + s.key.bytes.length < size.toNat)) ∧
      (f.layout = .standard → s.kind.span ≤ f.layout.distance s.kind) ∧
      (s.kind.span ≤ f.layout.distance s.kind + s.key.bytes.length →
        ((∃ key m back size length,
            (f.lookup s).1 = .error (.malformed key m back size length)) ↔
          ∃ m : Offset, image.find? s.key.bytes = some m ∧
            m.toNat < f.layout.distance s.kind) ∧
        ∀ m start, image.find? s.key.bytes = some m →
          Offset.sub? m (f.layout.back s.kind) = some start →
            (Record.read? image s.kind start).isSome) ∧
      (s.kind.span ≤ f.layout.distance s.kind →
        ∀ r, (f.lookup s).1 = .ok r →
          ∃ m : Offset, image.find? s.key.bytes = some m ∧
            r.start.toNat + s.kind.span ≤ m.toNat ∧
            m.toNat + s.key.bytes.length ≤ image.bytes.length) := by
  refine ⟨?_, ?_, ?_, ?_⟩
  · intro key m back size length h
    exact lookup_malformed_fields hi h
  · intro hf
    rw [hf, Layout.distance_standard]
    exact s.kind.span_le_lead
  · intro hk
    refine ⟨exists_lookup_malformed_iff hi hk, ?_⟩
    intro m start hm hs
    rw [Offset.sub?_eq_some_iff, Layout.toNat_back] at hs
    have hl := add_span_le_of_find? hm hk (by omega)
    rw [Record.isSome_read?, Kind.toNat_recordSize]
    omega
  · intro hk r h
    exact lookup_ok_before hi hk h

/-- A key alone is a misfit in the usual layout, and also where records start with their key; with
seven bytes in front its record is found. -/
theorem lookup_misfit_alone :
    let s : Symbol := .method "f"
    let image : Image := ⟨utf8 "f" ++ [0], by decide⟩
    let usual := (create image).1
    let flush := usual.withLayout ⟨0, 0⟩
    let room : Image := ⟨[1, 0, 0, 0, 9, 9, 9] ++ image.bytes, by decide⟩
    (flush.lookup s).1 = .error (.malformed "f\\0" 0 0 4 2) ∧
      image.find? s.key.bytes = some 0 ∧
      (∃ key m back size length,
        (usual.lookup s).1 = .error (.malformed key m back size length)) ∧
      ((create room).1.lookup s).1 = .ok ⟨0, .method 1⟩ ∧
      ∃ m : Offset, room.find? s.key.bytes = some m ∧ 0 + 4 ≤ m.toNat ∧
        m.toNat + s.key.bytes.length ≤ room.bytes.length := by
  intro s image usual flush room
  have hmis : (flush.lookup s).1 = .error (.malformed "f\\0" 0 0 4 2) :=
    (lookup_eq_malformed_iff (f := flush) rfl).mpr (by decide)
  have hok : ((create room).1.lookup s).1 = .ok ⟨0, .method 1⟩ :=
    (lookup_eq_ok_iff (f := (create room).1) rfl).mpr (by decide)
  obtain ⟨hm, -, -, -, -, -⟩ := (lookup_misfit rfl s).1 _ _ _ _ _ hmis
  obtain ⟨-, hstandard, hclose, -⟩ := lookup_misfit (f := usual) rfl s
  have hd : s.kind.span ≤ usual.layout.distance s.kind := hstandard rfl
  refine ⟨hmis, hm, ?_, hok, ?_⟩
  · exact (hclose (Nat.le_add_right_of_le hd)).1.mpr ⟨0, hm, by decide⟩
  · exact (lookup_misfit (f := (create room).1) rfl s).2.2.2 hd _ hok

end SymbolFile

end DebugSymbols
