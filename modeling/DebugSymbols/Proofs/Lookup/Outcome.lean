import DebugSymbols.Proofs.Bytes.Occurrence
import DebugSymbols.Proofs.Record.Reads
import DebugSymbols.Proofs.Symbol.Needle

/-!
# The outcome of a lookup

`Outcome f s o` is the rule for lookups, in numbers without a bound and without the search or the
checked offsets: a released file answers nothing else; a symbol whose key is nowhere in the image
is not found, under the names it was asked for by; else the first index of the key less the
distance is where the record starts, and the record is found there or does not fit.

A lookup gives exactly the outcome of the rule (`lookup_eq_iff_outcome`). The lemmas before it give
result and events of each of the four cases; `lookup_cases` says that there is no other. The lemmas
behind it say, for a file that has an image, what a result of each kind tells of that image.
-/

namespace DebugSymbols

namespace SymbolFile

/-- What the rule for lookups allows as the outcome for a symbol. -/
inductive Outcome (f : SymbolFile) (s : Symbol) : Except Failure (Record s.kind) → Prop where
  | released : f.image? = none → Outcome f s (.error .released)
  | notFound {image : Image} {name : String} {owner? : Option String} :
      f.image? = some image → Bytes.Absent s.needle image.bytes → s.Names name owner? →
      Outcome f s (.error (.notFound s.kind name owner?))
  /-- The record would start before the image or end behind it. -/
  | malformed {image : Image} {m back size length : Offset} :
      f.image? = some image → Bytes.FirstAt s.needle image.bytes m.toNat →
      back.toNat = f.layout.distance s.kind → size.toNat = s.kind.span →
      length.toNat = image.bytes.length →
      m.toNat < back.toNat ∨ length.toNat + back.toNat < m.toNat + size.toNat →
      Outcome f s (.error (.malformed s.key.display m back size length))
  | found {image : Image} {r : Record s.kind} :
      f.image? = some image →
      Bytes.FirstAt s.needle image.bytes (r.start.toNat + f.layout.distance s.kind) →
      r.start.toNat + s.kind.span ≤ image.bytes.length →
      r.payload.Reads (image.bytes.drop r.start.toNat) → Outcome f s (.ok r)

variable {f : SymbolFile} {s : Symbol} {image : Image}

theorem find?_needle_eq_none :
    image.find? s.key.bytes = none ↔ Bytes.Absent s.needle image.bytes := by
  rw [Image.find?_eq_none_iff, s.bytes_key, Bytes.firstIndex?_eq_none s.needle_ne_nil]

theorem find?_needle_eq_some {m : Offset} :
    image.find? s.key.bytes = some m ↔ Bytes.FirstAt s.needle image.bytes m.toNat := by
  rw [Image.find?_eq_some_iff, s.bytes_key, Bytes.firstIndex?_eq_some s.needle_ne_nil]

theorem exists_offset {n : Nat} (h : n ≤ image.bytes.length) : ∃ o : Offset, o.toNat = n := by
  have := image.length_lt
  exact ⟨UInt64.ofNat n, UInt64.toNat_ofNat_of_lt' (by simp only [UInt64.size]; omega)⟩

theorem exists_find?_needle_iff {n : Nat} :
    (∃ m : Offset, image.find? s.key.bytes = some m ∧ m.toNat = n) ↔
      Bytes.FirstAt s.needle image.bytes n := by
  constructor
  · intro h
    obtain ⟨m, hm, rfl⟩ := h
    exact find?_needle_eq_some.mp hm
  · intro h
    obtain ⟨m, rfl⟩ := exists_offset (Nat.le_of_add_right_le h.1.add_length_le)
    exact ⟨m, find?_needle_eq_some.mpr h, rfl⟩

/-! ## The four cases -/

theorem lookup_released (h : f.image? = none) : f.lookup s = (.error .released, []) := by
  unfold lookup
  rw [h]

theorem lookup_notFound (hi : f.image? = some image) (h : Bytes.Absent s.needle image.bytes)
    {name : String} {owner? : Option String} (hs : s.Names name owner?) :
    f.lookup s = (.error (.notFound s.kind name owner?),
      [.searching s.kind s.key, .missed s.kind s.key]) := by
  unfold lookup
  rw [hi]
  simp only [find?_needle_eq_none.mpr h, Symbol.names_iff.mp hs]

theorem lookup_malformed (hi : f.image? = some image) {m : Offset}
    (hm : Bytes.FirstAt s.needle image.bytes m.toNat)
    (h : m.toNat < f.layout.distance s.kind ∨
      image.bytes.length + f.layout.distance s.kind < m.toNat + s.kind.span) :
    f.lookup s =
      (.error (.malformed s.key.display m (f.layout.back s.kind) s.kind.recordSize image.size),
        [.searching s.kind s.key]) := by
  have hr : recordBefore? image s.kind m (f.layout.back s.kind) = none := by
    rw [recordBefore?_eq_none, Layout.toNat_back]
    exact h
  unfold lookup
  rw [hi]
  simp only [find?_needle_eq_some.mpr hm, hr]

theorem lookup_found (hi : f.image? = some image) {r : Record s.kind} {m : Offset}
    (hm : Bytes.FirstAt s.needle image.bytes m.toNat)
    (hb : m.toNat = r.start.toNat + f.layout.distance s.kind)
    (hl : r.start.toNat + s.kind.span ≤ image.bytes.length)
    (hp : r.payload.Reads (image.bytes.drop r.start.toNat)) :
    f.lookup s = (.ok r, [.searching s.kind s.key, .resolved s.kind s.key m r.start]) := by
  have hr : recordBefore? image s.kind m (f.layout.back s.kind) = some r := by
    rw [recordBefore?_eq_some, Layout.toNat_back]
    exact ⟨hb, hl, hp⟩
  unfold lookup
  rw [hi]
  simp only [find?_needle_eq_some.mpr hm, hr]

variable (f s) in
theorem lookup_cases :
    f.image? = none ∨ ∃ image, f.image? = some image ∧
      ((Bytes.Absent s.needle image.bytes ∧ ∃ name owner?, s.Names name owner?) ∨
        ∃ m : Offset, Bytes.FirstAt s.needle image.bytes m.toNat ∧
          ((m.toNat < f.layout.distance s.kind ∨
              image.bytes.length + f.layout.distance s.kind < m.toNat + s.kind.span) ∨
            ∃ r : Record s.kind, m.toNat = r.start.toNat + f.layout.distance s.kind ∧
              r.start.toNat + s.kind.span ≤ image.bytes.length ∧
              r.payload.Reads (image.bytes.drop r.start.toNat))) := by
  rcases hi : f.image? with _ | image
  · exact .inl rfl
  · refine .inr ⟨image, rfl, ?_⟩
    rcases Bytes.absent_or_firstAt s.needle image.bytes with ha | ⟨n, hn⟩
    · exact .inl ⟨ha, _, _, Symbol.names_iff.mpr rfl⟩
    · obtain ⟨m, -, rfl⟩ := exists_find?_needle_iff.mpr hn
      refine .inr ⟨m, hn, ?_⟩
      rw [← Layout.toNat_back, ← recordBefore?_eq_none]
      simp only [← recordBefore?_eq_some]
      rcases recordBefore? image s.kind m (f.layout.back s.kind) with _ | r
      · exact .inl rfl
      · exact .inr ⟨r, rfl⟩

/-! ## The rule -/

variable (f s) in
theorem outcome_lookup : Outcome f s (f.lookup s).1 := by
  rcases lookup_cases f s with h | ⟨image, hi, ⟨ha, n, o, hn⟩ | ⟨m, hm, h | ⟨r, hb, hl, hp⟩⟩⟩
  · rw [lookup_released h]
    exact .released h
  · rw [lookup_notFound hi ha hn]
    exact .notFound hi ha hn
  · rw [lookup_malformed hi hm h]
    refine .malformed hi hm (Layout.toNat_back _ _) (Kind.toNat_recordSize _) image.toNat_size ?_
    rw [Layout.toNat_back, Kind.toNat_recordSize, image.toNat_size]
    exact h
  · rw [lookup_found hi hm hb hl hp]
    exact .found hi (hb ▸ hm) hl hp

theorem Outcome.eq_lookup {o : Except Failure (Record s.kind)} (h : Outcome f s o) :
    (f.lookup s).1 = o := by
  cases h with
  | released h => rw [lookup_released h]
  | notFound hi ha hn => rw [lookup_notFound hi ha hn]
  | malformed hi hm hb hs hl h =>
    rw [← Layout.toNat_back, UInt64.toNat_inj] at hb
    rw [← Kind.toNat_recordSize, UInt64.toNat_inj] at hs
    rw [← Image.toNat_size, UInt64.toNat_inj] at hl
    subst hb hs hl
    rw [Layout.toNat_back, Kind.toNat_recordSize, Image.toNat_size] at h
    rw [lookup_malformed hi hm h]
  | found hi hm hl hp =>
    obtain ⟨m, -, hb⟩ := exists_find?_needle_iff.mpr hm
    rw [lookup_found hi (hb ▸ hm) hb hl hp]

/-- A lookup gives the outcome that the rule allows, and no other. -/
theorem lookup_eq_iff_outcome (f : SymbolFile) (s : Symbol)
    (o : Except Failure (Record s.kind)) : (f.lookup s).1 = o ↔ Outcome f s o :=
  ⟨fun h => h ▸ outcome_lookup f s, Outcome.eq_lookup⟩

/-! ## What a result says of the image -/

section
variable (hi : f.image? = some image)
include hi

theorem lookup_eq_ok_iff {r : Record s.kind} :
    (f.lookup s).1 = .ok r ↔
      Bytes.FirstAt s.needle image.bytes (r.start.toNat + f.layout.distance s.kind) ∧
        r.start.toNat + s.kind.span ≤ image.bytes.length ∧
        r.payload.Reads (image.bytes.drop r.start.toNat) := by
  constructor
  · intro h
    cases h ▸ outcome_lookup f s with
    | found hi' hm hl hp =>
      cases hi.symm.trans hi'
      exact ⟨hm, hl, hp⟩
  · intro h
    obtain ⟨hm, hl, hp⟩ := h
    exact Outcome.eq_lookup (.found hi hm hl hp)

theorem lookup_eq_notFound_iff {k : Kind} {name : String} {owner? : Option String} :
    (f.lookup s).1 = .error (.notFound k name owner?) ↔
      k = s.kind ∧ Bytes.Absent s.needle image.bytes ∧ s.Names name owner? := by
  constructor
  · intro h
    cases h ▸ outcome_lookup f s with
    | notFound hi' ha hs =>
      cases hi.symm.trans hi'
      exact ⟨rfl, ha, hs⟩
  · intro h
    obtain ⟨rfl, ha, hs⟩ := h
    exact Outcome.eq_lookup (.notFound hi ha hs)

theorem lookup_eq_malformed_iff {key : String} {m back size length : Offset} :
    (f.lookup s).1 = .error (.malformed key m back size length) ↔
      key = s.key.display ∧ Bytes.FirstAt s.needle image.bytes m.toNat ∧
        back.toNat = f.layout.distance s.kind ∧ size.toNat = s.kind.span ∧
        length.toNat = image.bytes.length ∧
        (m.toNat < back.toNat ∨ length.toNat + back.toNat < m.toNat + size.toNat) := by
  constructor
  · intro h
    cases h ▸ outcome_lookup f s with
    | malformed hi' hm hb hs hl ho =>
      cases hi.symm.trans hi'
      exact ⟨rfl, hm, hb, hs, hl, ho⟩
  · intro h
    obtain ⟨rfl, hm, hb, hs, hl, ho⟩ := h
    exact Outcome.eq_lookup (.malformed hi hm hb hs hl ho)

end

theorem key_of_lookup_malformed {key : String} {m back size length : Offset}
    (h : (f.lookup s).1 = .error (.malformed key m back size length)) : key = s.key.display := by
  cases h ▸ outcome_lookup f s with
  | malformed => rfl

/-- A record is found where the first index leaves room for it before and behind. -/
theorem exists_lookup_eq_ok (hi : f.image? = some image) {m : Nat}
    (hm : Bytes.FirstAt s.needle image.bytes m) (hb : f.layout.distance s.kind ≤ m)
    (hl : m + s.kind.span ≤ image.bytes.length + f.layout.distance s.kind) :
    ∃ r : Record s.kind, (f.lookup s).1 = .ok r ∧
      r.start.toNat + f.layout.distance s.kind = m ∧
      r.payload.Reads (image.bytes.drop r.start.toNat) := by
  rcases lookup_cases f s with h | ⟨image', hi', ⟨ha, -⟩ | ⟨n, hn, h | ⟨r, hr, hle, hp⟩⟩⟩
  · rw [h] at hi
    cases hi
  all_goals
    rw [hi'] at hi
    cases hi
  · exact absurd hm ha.not_firstAt
  · have := hn.unique hm
    omega
  · exact ⟨r, by rw [lookup_found hi' hn hr hle hp], hr ▸ hn.unique hm, hp⟩

theorem exists_lookup_eq_payload (hi : f.image? = some image) {n : Nat} {p : Payload s.kind}
    {behind : Bytes} (hm : Bytes.FirstAt s.needle image.bytes (n + f.layout.distance s.kind))
    (hd : image.bytes.drop n = p.encode ++ behind) :
    ∃ start : Offset, start.toNat = n ∧ (f.lookup s).1 = .ok ⟨start, p⟩ := by
  have hle := hm.1.add_length_le
  have hl := congrArg List.length hd
  rw [List.length_drop, List.length_append, Payload.length_encode, Kind.toNat_recordSize] at hl
  obtain ⟨start, rfl⟩ := exists_offset (show n ≤ image.bytes.length by omega)
  refine ⟨start, rfl, Outcome.eq_lookup (.found hi hm ?_ ?_)⟩
  · show start.toNat + s.kind.span ≤ image.bytes.length
    omega
  · rw [hd]
    exact p.reads_encode_append behind

end SymbolFile

end DebugSymbols
