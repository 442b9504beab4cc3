import DebugSymbols.Proofs.Lookup.Outcome

/-!
# Lookups in different layouts

A lookup takes from the layout the distance for the symbol's kind and nothing else
(`lookup_withLayout_congr`). Where the key is does not depend on it, so a symbol is missing in
every layout or in none, and two records that are found in different layouts start at the same
index less their distances. For a key at an index, the distances at which the record fits into the
image form an interval of integers (`Fits`); at every other distance a misfit is reported
(`lookup_withLayout`).
-/

namespace DebugSymbols

/-- A record that starts a distance before the index `m` is within `length` bytes. -/
def Kind.Fits (k : Kind) (length m distance : Nat) : Prop :=
  (m : Int) + k.span - length ≤ distance ∧ distance ≤ m

instance (k : Kind) (length m distance : Nat) : Decidable (k.Fits length m distance) :=
  inferInstanceAs (Decidable (_ ∧ _))

theorem Kind.not_fits_iff {k : Kind} {length m distance : Nat} :
    ¬ k.Fits length m distance ↔ m < distance ∨ length + distance < m + k.span := by
  unfold Fits
  omega

namespace SymbolFile

variable {f : SymbolFile} {s : Symbol} {image : Image} {l l' : Layout}

theorem lookup_withLayout_congr (h : l.back s.kind = l'.back s.kind) :
    (f.withLayout l).lookup s = (f.withLayout l').lookup s := by
  unfold lookup withLayout
  simp only [h]

section
variable (hi : f.image? = some image)
include hi

theorem firstAt_of_lookup_withLayout {r : Record s.kind}
    (h : ((f.withLayout l).lookup s).1 = .ok r) :
    Bytes.FirstAt s.needle image.bytes (r.start.toNat + (l.back s.kind).toNat) := by
  rw [Layout.toNat_back]
  exact ((lookup_eq_ok_iff (f := f.withLayout l) hi).mp h).1

theorem exists_lookup_withLayout_eq_ok {m : Offset}
    (hm : Bytes.FirstAt s.needle image.bytes m.toNat)
    (h : s.kind.Fits image.bytes.length m.toNat (l.back s.kind).toNat) :
    ∃ r, ((f.withLayout l).lookup s).1 = .ok r := by
  unfold Kind.Fits at h
  rw [Layout.toNat_back] at h
  have hd : (f.withLayout l).layout.distance s.kind = l.distance s.kind := rfl
  obtain ⟨r, hr, -⟩ := exists_lookup_eq_ok (f := f.withLayout l) hi hm (by omega) (by omega)
  exact ⟨r, hr⟩

theorem lookup_withLayout_malformed {m : Offset}
    (hm : Bytes.FirstAt s.needle image.bytes m.toNat)
    (h : ¬ s.kind.Fits image.bytes.length m.toNat (l.back s.kind).toNat) :
    ((f.withLayout l).lookup s).1 =
      .error (.malformed s.key.display m (l.back s.kind) s.kind.recordSize image.size) := by
  rw [Kind.not_fits_iff, Layout.toNat_back] at h
  exact congrArg Prod.fst (lookup_malformed (f := f.withLayout l) hi hm h)

end

/-- A symbol is reported missing in every layout or in none, and in the same words. Layouts with
the same distance for the symbol's kind give the same result and the same events. Two records that
are found start their distances before one index, the first of the key. And for a key that is first
at `m`, a record is found exactly at the distances that fit; at the others, to the largest offset,
the report has the distance and otherwise always says the same. -/
theorem lookup_withLayout {f : SymbolFile} {image : Image} (hi : f.image? = some image)
    (s : Symbol) :
    (∀ l l' k name owner?,
        ((f.withLayout l).lookup s).1 = .error (.notFound k name owner?) ↔
          ((f.withLayout l').lookup s).1 = .error (.notFound k name owner?)) ∧
      (∀ l l', l.back s.kind = l'.back s.kind →
        (f.withLayout l).lookup s = (f.withLayout l').lookup s) ∧
      (∀ l l' r r', ((f.withLayout l).lookup s).1 = .ok r →
        ((f.withLayout l').lookup s).1 = .ok r' →
          r.start.toNat + (l.back s.kind).toNat = r'.start.toNat + (l'.back s.kind).toNat ∧
            Bytes.FirstAt s.key.bytes image.bytes (r.start.toNat + (l.back s.kind).toNat)) ∧
      ∀ m : Offset, Bytes.FirstAt s.key.bytes image.bytes m.toNat → ∀ (l : Layout) (b : Offset),
        ((∃ r, ((f.withLayout (l.withBack s.kind b)).lookup s).1 = .ok r) ↔
            s.kind.Fits image.bytes.length m.toNat b.toNat) ∧
          (¬ s.kind.Fits image.bytes.length m.toNat b.toNat →
            ((f.withLayout (l.withBack s.kind b)).lookup s).1 =
              .error (.malformed s.key.display m b s.kind.recordSize image.size)) := by
  rw [s.bytes_key]
  refine ⟨?_, fun _ _ => lookup_withLayout_congr, ?_, ?_⟩
  · intro l l' k name owner?
    rw [lookup_eq_notFound_iff (f := f.withLayout l) hi,
      lookup_eq_notFound_iff (f := f.withLayout l') hi]
  · intro l l' r r' h h'
    have hm := firstAt_of_lookup_withLayout hi h
    exact ⟨hm.unique (firstAt_of_lookup_withLayout hi h'), hm⟩
  · intro m hm l b
    have hb : (l.withBack s.kind b).back s.kind = b := by rw [Layout.back_withBack, if_pos rfl]
    have hmis := lookup_withLayout_malformed (l := l.withBack s.kind b) hi hm
    have hfit := exists_lookup_withLayout_eq_ok (l := l.withBack s.kind b) hi hm
    rw [hb] at hmis hfit
    refine ⟨⟨?_, hfit⟩, hmis⟩
    intro h
    obtain ⟨r, hr⟩ := h
    refine Decidable.byContradiction fun hn => ?_
    rw [hmis hn] at hr
    cases hr

/-- A key behind four bytes and with none behind it: the record fits at the distances 2, 3 and
4. -/
theorem lookup_withLayout_narrow :
    let s : Symbol := .method "f"
    let image : Image := ⟨[1, 2, 3, 4] ++ s.key.bytes, by decide⟩
    let f (b : Offset) := (create image).1.withLayout (Layout.standard.withBack .method b)
    image.bytes.length = 6 ∧ Bytes.FirstAt s.key.bytes image.bytes 4 ∧
      (∀ b : Offset, (∃ r, ((f b).lookup s).1 = .ok r) ↔ 2 ≤ b.toNat ∧ b.toNat ≤ 4) ∧
      ((f 0xffffffffffffffff).lookup s).1 =
        .error (.malformed "f\\0" 4 0xffffffffffffffff 4 6) ∧
      (∃ r r', ((f 2).lookup s).1 = .ok r ∧ ((f 4).lookup s).1 = .ok r' ∧
        r.start.toNat + 2 = r'.start.toNat + 4) ∧
      ((create image).1.withLayout ⟨9, 3⟩).lookup s = (f 3).lookup s := by
  intro s image f
  obtain ⟨-, hsame, hstart, hfit⟩ := lookup_withLayout (f := (create image).1) rfl s
  have hl : image.bytes.length = 6 := by decide
  have hm : Bytes.FirstAt s.key.bytes image.bytes 4 := by decide
  have hok := fun b => (hfit 4 hm .standard b).1
  have hspan : ∀ b : Offset, s.kind.Fits image.bytes.length 4 b.toNat ↔
      2 ≤ b.toNat ∧ b.toNat ≤ 4 := by
    intro b
    have hk : s.kind.span = 4 := rfl
    unfold Kind.Fits
    omega
  refine ⟨hl, hm, fun b => (hok b).trans (hspan b), ?_, ?_, hsame _ _ rfl⟩
  · have hfar := (hfit 4 hm .standard 0xffffffffffffffff).2 (by decide)
    rw [show s.key.display = "f\\0" by decide, show image.size = 6 by decide] at hfar
    exact hfar
  · obtain ⟨r, hr⟩ := (hok 2).mpr (by decide)
    obtain ⟨r', hr'⟩ := (hok 4).mpr (by decide)
    exact ⟨r, r', hr, hr', (hstart _ _ r r' hr hr').1⟩

end SymbolFile

end DebugSymbols
