import DebugSymbols.Proofs.Lookup.Outcome

/-!
# Joined names and two names

A field is asked for by its own name and its owner's, in two texts or joined by `@` in one. Both
ways search the same key, so they find the same record or the same misfit and raise the same
events. They can only differ in the report of a missing key, which gives two texts as they are
and joined names as their first `@` parts them; and they do not differ there unless the field's
own name has an `@` (`lookup_joined`). Joined names without an `@` are no field's two names.
-/

namespace DebugSymbols

/-- The first `@` of joined names stands between `name` and `owner`. -/
structure Parted (names name owner : String) : Prop where
  joined : names = name ++ "@" ++ owner
  first : '@' ∉ name.toList

theorem exists_parted {names : String} (h : '@' ∈ names.toList) :
    ∃ name owner, Parted names name owner := by
  obtain ⟨name, owner, hj, hf⟩ := exists_cut h
  exact ⟨name, owner, hj, hf⟩

theorem Parted.names {names name owner : String} (h : Parted names name owner) :
    (Symbol.joined names).Names name (some owner) := by
  rw [h.joined]
  exact .cut h.first owner

theorem Parted.append {name first rest : String} (h : Parted name first rest) (owner : String) :
    Parted (name ++ "@" ++ owner) first (rest ++ "@" ++ owner) where
  joined := by simp [h.joined, String.append_assoc]
  first := h.first

namespace Key

theorem joined_inj {names names' : String} : joined names = joined names' ↔ names = names' := by
  simp [joined, Key.ext_iff]

theorem joined_ne_field {names : String} (h : '@' ∉ names.toList) (name owner : String) :
    joined names ≠ field name owner := by
  rw [← joined_eq_field, ne_eq, joined_inj]
  rintro rfl
  simp at h

end Key

/-- A failure, where a missing symbol is reported under other names. -/
def Failure.under (name : String) (owner? : Option String) : Failure → Failure
  | notFound kind _ _ => notFound kind name owner?
  | e => e

namespace SymbolFile

/-- The lookup of joined names is that of the two names, but for the names in a report. -/
theorem lookup_joined_eq (f : SymbolFile) (name owner : String) {n : String} {o : Option String}
    (h : (Symbol.joined (name ++ "@" ++ owner)).Names n o) :
    f.lookup (.joined (name ++ "@" ++ owner)) =
      ((f.lookup (.field name owner)).1.mapError (.under n o),
        (f.lookup (.field name owner)).2) := by
  have hk : (Symbol.joined (name ++ "@" ++ owner)).key = (Symbol.field name owner).key :=
    Key.joined_eq_field name owner
  have hn : (Symbol.field name owner).needle = (Symbol.joined (name ++ "@" ++ owner)).needle := by
    rw [← Symbol.bytes_key, ← Symbol.bytes_key, hk]
  -- with one key, both lookups are in the same of the four cases
  rcases lookup_cases f (.field name owner) with
    hr | ⟨image, hi, ⟨ha, -⟩ | ⟨m, hm, hl | ⟨r, hb, hl, hp⟩⟩⟩
  · rw [lookup_released hr, lookup_released hr]
    rfl
  · rw [lookup_notFound hi ha (.field name owner), lookup_notFound hi (hn ▸ ha) h, hk]
    rfl
  · have hj := lookup_malformed (s := .joined (name ++ "@" ++ owner)) hi (hn ▸ hm) hl
    rw [lookup_malformed hi hm hl, hj, hk]
    rfl
  · have hj := lookup_found (s := .joined (name ++ "@" ++ owner)) hi (hn ▸ hm) hb hl hp
    rw [lookup_found hi hm hb hl hp, hj, hk]
    rfl

theorem mapError_under_lookup (f : SymbolFile) {s : Symbol} {n : String} {o : Option String}
    (h : s.Names n o) : (f.lookup s).1.mapError (.under n o) = (f.lookup s).1 := by
  have ho := outcome_lookup f s
  generalize (f.lookup s).1 = outcome at ho ⊢
  cases ho with
  | released | malformed | found => rfl
  | notFound _ _ hs =>
    obtain ⟨rfl, rfl⟩ := Prod.mk.inj ((Symbol.names_iff.mp h).symm.trans (Symbol.names_iff.mp hs))
    rfl

/-- Joined names find what the two names find that their first `@` parts, with the same report
and the same events; without an `@` they are the names of no field in two texts, and a report
gives them whole. Where any other `@` joins them, only the report of a missing key differs: it
still parts them at the first. -/
theorem lookup_joined (f : SymbolFile) (names : String) :
    ('@' ∈ names.toList → ∃ name owner, Parted names name owner) ∧
      (∀ name owner, Parted names name owner →
        f.lookup (.joined names) = f.lookup (.field name owner)) ∧
      ('@' ∉ names.toList →
        (∀ name owner, Key.joined names ≠ Key.field name owner) ∧
          ∀ kind name owner?,
            (f.lookup (.joined names)).1 = .error (.notFound kind name owner?) →
              kind = .field ∧ name = names ∧ owner? = none) ∧
      ∀ name owner, names = name ++ "@" ++ owner → '@' ∈ name.toList →
        ∃ first rest, Parted name first rest ∧
          f.lookup (.joined names) =
            ((f.lookup (.field name owner)).1.mapError
                (.under first (some (rest ++ "@" ++ owner))),
              (f.lookup (.field name owner)).2) := by
  refine ⟨exists_parted, ?_, ?_, ?_⟩
  · intro name owner h
    obtain rfl := h.joined
    rw [lookup_joined_eq f name owner h.names, mapError_under_lookup f (.field name owner)]
  · intro h
    refine ⟨Key.joined_ne_field h, ?_⟩
    intro kind name owner? he
    cases he ▸ outcome_lookup f (.joined names) with
    | notFound _ _ hs =>
      cases hs with
      | cut => simp at h
      | whole => exact ⟨rfl, rfl, rfl⟩
  · intro name owner hj h
    subst hj
    obtain ⟨first, rest, hp⟩ := exists_parted h
    exact ⟨first, rest, hp, lookup_joined_eq f name owner (hp.append owner).names⟩

/-- A file without bytes, asked for a field of which the name has an `@`. -/
theorem lookup_joined_marked :
    let f := (create ⟨[], by decide⟩).1
    (∃ name owner, Parted "a@b@c" name owner) ∧
      Parted "a@b@c" "a" "b@c" ∧ f.lookup (.joined "a@b@c") = f.lookup (.field "a" "b@c") ∧
      '@' ∉ "ab".toList ∧ Key.joined "ab" ≠ Key.field "a" "b" ∧
      (f.lookup (.joined "ab")).1 = .error (.notFound .field "ab" none) ∧
      (f.lookup (.field "a@b" "c")).1 = .error (.notFound .field "a@b" (some "c")) ∧
      ∃ first rest, Parted "a@b" first rest ∧
        (f.lookup (.joined "a@b@c")).1 =
          .error (.notFound .field first (some (rest ++ "@" ++ "c"))) := by
  intro f
  have hp : Parted "a@b@c" "a" "b@c" := ⟨rfl, by decide⟩
  have hn : '@' ∉ "ab".toList := by decide
  have hw : (f.lookup (.joined "ab")).1 = .error (.notFound .field "ab" none) := rfl
  have he : (f.lookup (.field "a@b" "c")).1 = .error (.notFound .field "a@b" (some "c")) := rfl
  obtain ⟨hex, hparted, -, hsecond⟩ := lookup_joined f "a@b@c"
  obtain ⟨-, -, hwhole, -⟩ := lookup_joined f "ab"
  refine ⟨hex (by decide), hp, hparted _ _ hp, hn, (hwhole hn).1 "a" "b", hw, he, ?_⟩
  obtain ⟨first, rest, hq, hj⟩ := hsecond "a@b" "c" rfl (by decide)
  refine ⟨first, rest, hq, ?_⟩
  rw [hj, he]
  rfl

end SymbolFile

end DebugSymbols
