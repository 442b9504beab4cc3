import DebugSymbols.Proofs.Lookup.Outcome

/-!
# Keys within keys

A key may be a part of another: that of a method is the end of the key of every method whose name
ends with its own, that of a field the start of the key of the same name with an owner that goes on
behind an `@`, and that of joined names the start of the key of a field with this name. Where the
longer key stands, the shorter one stands too, so a lookup of the shorter one finds it, at the
latest there (`lookup_partial`). The index at which a lookup meets a key is seen from its result, be
it a record or a misfit (`MeetsAt`).
-/

namespace DebugSymbols

namespace SymbolFile

/-- A lookup meets the key of a symbol at an index: it finds the record that belongs there, or
reports that none fits there. -/
def MeetsAt (f : SymbolFile) (s : Symbol) (m : Nat) : Prop :=
  (∃ r, (f.lookup s).1 = .ok r ∧ r.start.toNat + f.layout.distance s.kind = m) ∨
    ∃ key i back size length,
      (f.lookup s).1 = .error (.malformed key i back size length) ∧ i.toNat = m

variable {f : SymbolFile} {s s' : Symbol} {image : Image} {m : Nat}

theorem MeetsAt.ne_notFound (h : f.MeetsAt s m) (kind : Kind) (name : String)
    (owner? : Option String) : (f.lookup s).1 ≠ .error (.notFound kind name owner?) := by
  rcases h with ⟨r, h, -⟩ | ⟨_, _, _, _, _, h, -⟩ <;> rw [h] <;> simp

section
variable (hi : f.image? = some image)
include hi

theorem meetsAt_iff_firstAt : f.MeetsAt s m ↔ Bytes.FirstAt s.needle image.bytes m := by
  constructor
  · rintro (⟨r, h, rfl⟩ | ⟨_, _, _, _, _, h, rfl⟩)
    · exact ((lookup_eq_ok_iff hi).mp h).1
    · exact ((lookup_eq_malformed_iff hi).mp h).2.1
  · intro h
    rcases lookup_cases f s with hr | ⟨image', hi', ⟨ha, -⟩ | ⟨i, hm, hl | ⟨r, hb, hl, hp⟩⟩⟩
    · rw [hr] at hi
      cases hi
    all_goals
      rw [hi'] at hi
      cases hi
    · exact absurd h ha.not_firstAt
    · exact .inr ⟨_, _, _, _, _, congrArg Prod.fst (lookup_malformed hi' hm hl), hm.unique h⟩
    · exact .inl ⟨r, congrArg Prod.fst (lookup_found hi' hm hb hl hp), hb ▸ hm.unique h⟩

theorem meetsAt_iff_find? :
    f.MeetsAt s m ↔ ∃ o : Offset, image.find? s.key.bytes = some o ∧ o.toNat = m := by
  rw [meetsAt_iff_firstAt hi, exists_find?_needle_iff]

theorem MeetsAt.of_part (h : f.MeetsAt s m) (front back : Bytes)
    (hs : s.needle = front ++ s'.needle ++ back) :
    ∃ m', f.MeetsAt s' m' ∧ m' ≤ m + front.length := by
  rw [meetsAt_iff_firstAt hi, hs] at h
  obtain ⟨m', hm', hle⟩ := h.part
  exact ⟨m', (meetsAt_iff_firstAt hi).mpr hm', hle⟩

end

/-- A part of a needle is found in an image no later than the needle shows it. -/
theorem find?_part {front part back : Bytes} (hp : part ≠ []) {m : Offset}
    (h : image.find? (front ++ part ++ back) = some m) :
    ∃ m' : Offset, image.find? part = some m' ∧ m'.toNat ≤ m.toNat + front.length := by
  rw [Image.find?_eq_some_iff, Bytes.firstIndex?_eq_some (by simp [hp])] at h
  obtain ⟨n, hn, hle⟩ := h.part
  obtain ⟨m', rfl⟩ := exists_offset (Nat.le_of_add_right_le hn.1.add_length_le)
  exact ⟨m', Image.find?_eq_some_iff.mpr ((Bytes.firstIndex?_eq_some hp).mpr hn), hle⟩

/-- In an image, a part of a needle is found no later than the needle shows it. So in a file that
has an image, a method is met at the latest where the end of a longer name has its key, a field
where the same name has an owner that goes on behind an `@`, and joined names where they are a
field's name with any owner; none of these is missing then. A symbol is missing if its key has
a byte that the image has not. -/
theorem lookup_partial (hi : f.image? = some image) :
    (∀ front part back, part ≠ [] → ∀ m : Offset,
        image.find? (front ++ part ++ back) = some m →
          ∃ m' : Offset, image.find? part = some m' ∧ m'.toNat ≤ m.toNat + front.length) ∧
      (∀ s m, f.MeetsAt s m ↔ ∃ o : Offset, image.find? s.key.bytes = some o ∧ o.toNat = m) ∧
      (∀ s m, f.MeetsAt s m →
        ∀ kind name owner?, (f.lookup s).1 ≠ .error (.notFound kind name owner?)) ∧
      (∀ front name m, f.MeetsAt (.method (front ++ name)) m →
        ∃ m', f.MeetsAt (.method name) m' ∧ m' ≤ m + (utf8 front).length) ∧
      (∀ name owner rest m, f.MeetsAt (.field name (owner ++ "@" ++ rest)) m →
        ∃ m', f.MeetsAt (.field name owner) m' ∧ m' ≤ m) ∧
      (∀ name owner m, f.MeetsAt (.field name owner) m →
        ∃ m', f.MeetsAt (.joined name) m' ∧ m' ≤ m) ∧
      ∀ s b, b ∈ s.key.bytes → b ∉ image.bytes →
        (f.lookup s).1 = .error (.notFound s.kind s.reported.1 s.reported.2) := by
  have ha : utf8 "@" = [0x40] := by decide
  refine ⟨fun _ _ _ => find?_part, fun _ _ => meetsAt_iff_find? hi, fun _ _ => MeetsAt.ne_notFound,
    ?_, ?_, ?_, ?_⟩
  · intro front name m h
    exact h.of_part hi (utf8 front) [] (by simp [Symbol.needle])
  · intro name owner rest m h
    exact h.of_part hi [] (utf8 rest ++ [0x40]) (by simp [Symbol.needle, ha])
  · intro name owner m h
    exact h.of_part hi [] (utf8 owner ++ [0x40]) (by simp [Symbol.needle])
  · intro s b hb hh
    rw [s.bytes_key] at hb
    exact congrArg Prod.fst
      (lookup_notFound hi (Bytes.absent_of_mem hb hh) (Symbol.names_iff.mpr rfl))

/-- The key of a method whose name ends with another, and that of a field whose owner has an `@`. -/
def longKeys : Image :=
  ⟨[1, 0, 0, 0, 9, 9, 9] ++ utf8 "LateUpdate" ++ [0] ++ utf8 "?f@a@b@", by decide⟩

theorem lookup_partial_longKeys :
    let f := (create longKeys).1
    longKeys.find? (utf8 "Late" ++ utf8 "Upd" ++ utf8 "ate") = some 7 ∧
      (∃ m' : Offset, longKeys.find? (utf8 "Upd") = some m' ∧ m'.toNat ≤ 7 + 4) ∧
      f.MeetsAt (.method ("Late" ++ "Update")) 7 ∧
      (∃ m', f.MeetsAt (.method "Update") m' ∧ m' ≤ 7 + (utf8 "Late").length) ∧
      f.MeetsAt (.field "f" ("a" ++ "@" ++ "b")) 18 ∧
      (∃ m', f.MeetsAt (.field "f" "a") m' ∧ m' ≤ 18) ∧
      (f.lookup (.method "Start")).1 = .error (.notFound .method "Start" none) := by
  intro f
  obtain ⟨hpart, hmeets, -, hmethod, hfield, -, hbyte⟩ :=
    lookup_partial (f := f) (show f.image? = some longKeys from rfl)
  have hfind : longKeys.find? (utf8 "Late" ++ utf8 "Upd" ++ utf8 "ate") = some 7 := by decide
  have hname : f.MeetsAt (.method ("Late" ++ "Update")) 7 :=
    (hmeets _ _).mpr ⟨7, by decide, rfl⟩
  have howner : f.MeetsAt (.field "f" ("a" ++ "@" ++ "b")) 18 :=
    (hmeets _ _).mpr ⟨18, by decide, rfl⟩
  refine ⟨hfind, hpart _ _ _ (by decide) _ hfind, hname, hmethod _ _ _ hname, howner,
    hfield _ _ _ _ howner, ?_⟩
  exact hbyte (.method "Start") 0x53 (by decide) (by decide)

end SymbolFile

end DebugSymbols
