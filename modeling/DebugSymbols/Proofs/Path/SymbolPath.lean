import DebugSymbols.Proofs.Path.Stem

/-!
# The path of a symbol file

The path of a program's symbol file is the program's path up to its file name, the stem of that
name and the extension `pdb` (`Parts.symbolFile`). The extension is taken off the end of the
text, so what is left of a trail or of the extension itself is read once more as a part of the
path; it gives the same stem, but for a stem that is a dot and has no trail behind it. That leaves
`..`, which is no file name and gets no extension (`Parts.symbolFile_of_dot`). So the path
of a symbol file is a symbol file's own path, but for the programs that end so and have a trail
(`Unsettled`).
-/

namespace DebugSymbols

namespace Path

variable {p : Path} {dir name stem ending trail : Bytes}

theorem shortened_of_cut?_eq_none (h : p.cut? = none) : p.shortened = p := by
  rw [shortened, h]

theorem symbolFile_of_cut?_eq_none (h : p.cut? = none) : p.symbolFile = p := by
  rw [symbolFile, shortened_of_cut?_eq_none h, h]

theorem Parts.shortened_of_no_dot (h : p.Parts dir name trail) (hd : dot ∉ name.tail) :
    p.shortened = p := by
  rw [shortened, h.cut?]
  simp only [Cut.extension?, splitName_of_no_dot hd]
  exact Path.ext (List.take_length)

/-- What is taken off the end leaves the start of the extension and of the trail. -/
theorem Parts.shortened_of_dot (h : p.Parts dir (stem ++ dot :: ending) trail) (hs : stem ≠ [])
    (hx : dot ∉ ending) :
    p.shortened.bytes = dir ++ (stem ++ dot :: ending.take trail.length) ++
      trail.take (trail.length - ending.length) := by
  have hsplit : p.bytes = (dir ++ (stem ++ [dot])) ++ (ending ++ trail) := by
    rw [h.bytes_eq]
    simp
  have hlength :
      p.bytes.length - ending.length = (dir ++ (stem ++ [dot])).length + trail.length := by
    rw [hsplit]
    simp only [List.length_append]
    omega
  rw [shortened, h.cut?]
  simp only [Cut.extension?, splitName_of_dot hs hx, Option.getD_some]
  rw [hlength, hsplit, List.take_length_add_append, List.take_append]
  simp

/-- A name that keeps its stem and its last dot is a file name, unless these two are `..` and
nothing is behind them. -/
theorem isFileName_take (h : IsFileName (stem ++ dot :: ending)) (hs : stem ≠ []) {n : Nat}
    (hn : ¬ (stem = [dot] ∧ n = 0)) : IsFileName (stem ++ dot :: ending.take n) := by
  obtain ⟨-, -, hup, hslash⟩ := h
  rw [List.mem_append, List.mem_cons] at hslash
  refine ⟨by simp, by simp [List.append_eq_singleton_iff, hs], ?_, ?_⟩
  · -- the name is `..` only if nothing of the extension is left behind a stem that is a dot
    intro he
    obtain ⟨b, rest, rfl⟩ := List.exists_cons_of_ne_nil hs
    have hl := congrArg List.length he
    simp only [List.length_append, List.length_cons, List.length_nil] at hl
    obtain rfl : rest = [] := List.length_eq_zero_iff.mp (by omega)
    rw [List.singleton_append, List.cons.injEq, List.cons.injEq, List.take_eq_nil_iff] at he
    obtain ⟨rfl, -, rfl | rfl⟩ := he
    · exact hn ⟨rfl, rfl⟩
    · exact hup rfl
  · rw [List.mem_append, List.mem_cons]
    exact fun hm => hslash (hm.imp_right (Or.imp_right List.mem_of_mem_take))

theorem Parts.shortened (h : p.Parts dir name trail) (hs : StemOf name stem)
    (hne : ¬ (stem = [dot] ∧ trail = [])) :
    ∃ name' trail', p.shortened.Parts dir name' trail' ∧ StemOf name' stem := by
  cases hs with
  | whole hd => exact ⟨name, trail, by rwa [h.shortened_of_no_dot hd], .whole hd⟩
  | @cut _ ending hs hx =>
    have hname := isFileName_take h.isFileName hs (n := trail.length) (by simpa using hne)
    refine ⟨_, _, ⟨h.shortened_of_dot hs hx, h.isFront, hname, h.isTrail.take _⟩, .cut hs ?_⟩
    exact fun hm => hx (List.mem_of_mem_take hm)

theorem Parts.symbolFile (h : p.Parts dir name trail) (hs : StemOf name stem)
    (hne : ¬ (stem = [dot] ∧ trail = [])) : p.symbolFile = ⟨dir ++ stem ++ utf8 ".pdb"⟩ := by
  obtain ⟨name', trail', h', hs'⟩ := h.shortened hs hne
  rw [Path.symbolFile, h'.cut?]
  simp only [Cut.stem, splitName_iff.mp hs']

/-! ## A stem that is a dot -/

theorem lastStep?_up (hd : IsFront dir) : lastStep? ⟨dir ++ [dot, dot]⟩ = some .up := by
  have h := @lastStep?_of_name dir [dot, dot] [] hd (by decide) .nil (by decide)
  rwa [List.append_nil] at h

theorem cut?_up (hd : IsFront dir) : cut? ⟨dir ++ [dot, dot]⟩ = none := by
  rcases hc : cut? ⟨dir ++ [dot, dot]⟩ with _ | c
  · rfl
  · have h := (cut?_eq_some.mp hc).lastStep?
    rw [lastStep?_up hd] at h
    cases h

/-- A stem that is a dot belongs to `..` and an extension. -/
theorem StemOf.exists_ending (h : StemOf name [dot]) (hn : IsFileName name) :
    ∃ ending, name = dot :: dot :: ending ∧ ending ≠ [] ∧ dot ∉ ending := by
  obtain ⟨-, hdot, hup, -⟩ := hn
  cases h with
  | whole => exact absurd rfl hdot
  | @cut _ ending _ hx =>
    refine ⟨ending, rfl, ?_, hx⟩
    rintro rfl
    exact hup rfl

/-- What is left of a stem that is a dot, without a trail, is no file name. -/
theorem Parts.symbolFile_of_dot (h : p.Parts dir name []) (hs : StemOf name [dot]) :
    p.symbolFile = ⟨dir ++ [dot, dot]⟩ := by
  obtain ⟨ending, rfl, -, hx⟩ := hs.exists_ending h.isFileName
  have hleft : p.shortened = ⟨dir ++ [dot, dot]⟩ := by
    refine Path.ext ?_
    rw [@Parts.shortened_of_dot p dir [dot] ending [] h (by decide) hx]
    simp
  rw [Path.symbolFile, hleft, cut?_up h.isFront]

/-- The symbol file of a program, in one form: the extension of the program's file name is replaced
by `pdb`, and the trail behind the name is gone. A path without a file name stays as it is, and so
does the text `..` that is left of a name with the stem `.` and no trail. -/
theorem symbolFile_closed_form (p : Path) :
    (∀ name, p.lastStep? = some (.into name) ↔
        ∃ dir trail stem, p.Parts dir name trail ∧ StemOf name stem) ∧
      ((∀ name, p.lastStep? ≠ some (.into name)) → p.symbolFile = p) ∧
      ∀ dir name trail stem, p.Parts dir name trail → StemOf name stem →
        (¬ (stem = [dot] ∧ trail = []) → p.symbolFile = ⟨dir ++ stem ++ utf8 ".pdb"⟩) ∧
        (stem = [dot] → trail = [] → p.symbolFile = ⟨dir ++ [dot, dot]⟩ ∧
          p.symbolFile.lastStep? = some .up ∧
          ∃ ending, name = dot :: dot :: ending ∧ ending ≠ [] ∧ dot ∉ ending) := by
  refine ⟨?_, ?_, ?_⟩
  · intro name
    rw [lastStep?_eq_into_iff]
    refine ⟨?_, ?_⟩
    · rintro ⟨dir, trail, h⟩
      obtain ⟨stem, hs⟩ := exists_stemOf name
      exact ⟨dir, trail, stem, h, hs⟩
    · rintro ⟨dir, trail, -, h, -⟩
      exact ⟨dir, trail, h⟩
  · intro h
    rcases hc : p.cut? with _ | c
    · exact symbolFile_of_cut?_eq_none hc
    · exact absurd (cut?_eq_some.mp hc).lastStep? (h c.name)
  · intro dir name trail stem h hs
    refine ⟨h.symbolFile hs, ?_⟩
    rintro rfl rfl
    have hup := h.symbolFile_of_dot hs
    exact ⟨hup, hup ▸ lastStep?_up h.isFront, hs.exists_ending h.isFileName⟩

/-- A path that goes up at last, a file name with a trail, and one whose stem is a dot. -/
theorem symbolFile_closed_form_trail :
    let up : Path := ⟨utf8 "a/../."⟩
    let program : Path := ⟨utf8 "d/b.v2.exe/."⟩
    let corner : Path := ⟨utf8 "..a"⟩
    (∀ name, up.lastStep? ≠ some (.into name)) ∧ up.symbolFile = up ∧
      program.Parts (utf8 "d/") (utf8 "b.v2.exe") (utf8 "/.") ∧
      StemOf (utf8 "b.v2.exe") (utf8 "b.v2") ∧ program.symbolFile = ⟨utf8 "d/b.v2.pdb"⟩ ∧
      corner.Parts [] (utf8 "..a") [] ∧ StemOf (utf8 "..a") [dot] ∧
      corner.symbolFile = ⟨utf8 ".."⟩ := by
  intro up program corner
  have hup : ∀ name, up.lastStep? ≠ some (.into name) := by
    have hlast : up.lastStep? = some .up := by decide
    simp [hlast]
  have hprogram : program.Parts (utf8 "d/") (utf8 "b.v2.exe") (utf8 "/.") :=
    ⟨by decide, .inr ⟨utf8 "d", by decide⟩, by decide, .slashDot .nil⟩
  have hstem : StemOf (utf8 "b.v2.exe") (utf8 "b.v2") :=
    @StemOf.cut (utf8 "b.v2") (utf8 "exe") (by decide) (by decide)
  have hcorner : corner.Parts [] (utf8 "..a") [] := ⟨by decide, .inl rfl, by decide, .nil⟩
  have hdot : StemOf (utf8 "..a") [dot] :=
    @StemOf.cut [dot] (utf8 "a") (by decide) (by decide)
  refine ⟨hup, (symbolFile_closed_form up).2.1 hup, hprogram, hstem, ?_, hcorner, hdot, ?_⟩
  · exact ((symbolFile_closed_form program).2.2 _ _ _ _ hprogram hstem).1 (by decide)
  · exact (((symbolFile_closed_form corner).2.2 _ _ _ _ hcorner hdot).2 rfl rfl).1

/-! ## The symbol file of a symbol file -/

theorem StemOf.ne_nil (h : StemOf name stem) (hn : IsFileName name) : stem ≠ [] := by
  cases h with
  | cut hs => exact hs
  | whole => exact hn.1

theorem StemOf.slash_not_mem (h : StemOf name stem) (hn : IsFileName name) : slash ∉ stem := by
  cases h with
  | cut => exact fun hm => hn.2.2.2 (List.mem_append_left _ hm)
  | whole => exact hn.2.2.2

theorem utf8_pdb : utf8 ".pdb" = dot :: [0x70, 0x64, 0x62] := by decide

theorem stemOf_pdb (h0 : stem ≠ []) : StemOf (stem ++ utf8 ".pdb") stem :=
  utf8_pdb ▸ .cut h0 (by decide)

theorem parts_pdb (hd : IsFront dir) (hs : slash ∉ stem) :
    Parts ⟨dir ++ stem ++ utf8 ".pdb"⟩ dir (stem ++ utf8 ".pdb") [] := by
  have hlong : ∀ short : Bytes, short.length < 4 → stem ++ utf8 ".pdb" ≠ short := by
    rintro _ h rfl
    rw [List.length_append, utf8_pdb, List.length_cons] at h
    simp only [List.length_cons, List.length_nil] at h
    omega
  have hslash : slash ∉ stem ++ utf8 ".pdb" := by
    rw [List.mem_append, utf8_pdb]
    exact not_or.mpr ⟨hs, by decide⟩
  exact ⟨by simp, hd, ⟨hlong _ (by decide), hlong _ (by decide), hlong _ (by decide), hslash⟩, .nil⟩

theorem symbolFile_up (hd : IsFront dir) :
    symbolFile ⟨dir ++ [dot, dot]⟩ = ⟨dir ++ [dot, dot]⟩ :=
  symbolFile_of_cut?_eq_none (cut?_up hd)

theorem symbolFile_pdb (hd : IsFront dir) (h0 : stem ≠ []) (hs : slash ∉ stem)
    (hdot : stem ≠ [dot]) :
    symbolFile ⟨dir ++ stem ++ utf8 ".pdb"⟩ = ⟨dir ++ stem ++ utf8 ".pdb"⟩ :=
  (parts_pdb hd hs).symbolFile (stemOf_pdb h0) (fun h => hdot h.1)

theorem symbolFile_dot_pdb (hd : IsFront dir) :
    symbolFile ⟨dir ++ [dot] ++ utf8 ".pdb"⟩ = ⟨dir ++ [dot, dot]⟩ :=
  (parts_pdb hd (by decide)).symbolFile_of_dot (stemOf_pdb (by decide))

/-- A program whose symbol file has a symbol file of its own: the stem of its file name is a dot,
and a trail is behind the name. -/
def Unsettled (p : Path) : Prop :=
  ∃ dir name trail, p.Parts dir name trail ∧ StemOf name [dot] ∧ trail ≠ []

theorem Parts.symbolFile_of_dot_trail (h : p.Parts dir name trail) (hs : StemOf name [dot])
    (ht : trail ≠ []) :
    p.symbolFile = ⟨dir ++ [dot] ++ utf8 ".pdb"⟩ ∧
      p.symbolFile.symbolFile = ⟨dir ++ [dot, dot]⟩ := by
  have h1 := h.symbolFile hs (fun hc => ht hc.2)
  exact ⟨h1, by rw [h1, symbolFile_dot_pdb h.isFront]⟩

theorem symbolFile_symbolFile_of_settled (h : ¬ p.Unsettled) :
    p.symbolFile.symbolFile = p.symbolFile := by
  rcases hc : p.cut? with _ | c
  · rw [symbolFile_of_cut?_eq_none hc, symbolFile_of_cut?_eq_none hc]
  · have hp := cut?_eq_some.mp hc
    obtain ⟨stem, hs⟩ := exists_stemOf c.name
    by_cases hcorner : stem = [dot] ∧ c.trail = []
    · obtain ⟨rfl, ht⟩ := hcorner
      rw [ht] at hp
      rw [hp.symbolFile_of_dot hs, symbolFile_up hp.isFront]
    · have hdot : stem ≠ [dot] := by
        rintro rfl
        exact h ⟨_, _, _, hp, hs, fun ht => hcorner ⟨rfl, ht⟩⟩
      rw [hp.symbolFile hs hcorner]
      exact symbolFile_pdb hp.isFront (hs.ne_nil hp.isFileName) (hs.slash_not_mem hp.isFileName)
        hdot

/-- The path of a symbol file is settled after two steps, and after one unless the program's file
name has a dot as its stem and a trail behind it. Then the first step writes the stem and the
extension, `..pdb`, and the second takes the extension off again. -/
theorem symbolFile_repeated (p : Path) :
    p.symbolFile.symbolFile.symbolFile = p.symbolFile.symbolFile ∧
      (p.symbolFile.symbolFile ≠ p.symbolFile ↔ p.Unsettled) ∧
      ∀ dir name trail, p.Parts dir name trail → StemOf name [dot] → trail ≠ [] →
        p.symbolFile = ⟨dir ++ utf8 "..pdb"⟩ ∧ p.symbolFile.symbolFile = ⟨dir ++ utf8 ".."⟩ := by
  refine ⟨?_, ?_, ?_⟩
  · by_cases h : p.Unsettled
    · obtain ⟨dir, name, trail, hp, hs, ht⟩ := h
      rw [(hp.symbolFile_of_dot_trail hs ht).2, symbolFile_up hp.isFront]
    · rw [symbolFile_symbolFile_of_settled h, symbolFile_symbolFile_of_settled h]
  · refine ⟨?_, ?_⟩
    · intro hne
      by_cases h : p.Unsettled
      · exact h
      · exact absurd (symbolFile_symbolFile_of_settled h) hne
    · rintro ⟨dir, name, trail, hp, hs, ht⟩ heq
      obtain ⟨h1, h2⟩ := hp.symbolFile_of_dot_trail hs ht
      rw [h2, h1, utf8_pdb] at heq
      simpa using congrArg (·.bytes.length) heq
  · intro dir name trail hp hs ht
    obtain ⟨h1, h2⟩ := hp.symbolFile_of_dot_trail hs ht
    have hname : [dot] ++ utf8 ".pdb" = utf8 "..pdb" := by decide
    rw [h2, h1, List.append_assoc, hname]
    exact ⟨rfl, rfl⟩

theorem symbolFile_repeated_slash :
    let p : Path := ⟨utf8 "d/..a/"⟩
    p.Parts (utf8 "d/") (utf8 "..a") [slash] ∧ StemOf (utf8 "..a") [dot] ∧
      p.symbolFile = ⟨utf8 "d/..pdb"⟩ ∧ p.symbolFile.symbolFile = ⟨utf8 "d/.."⟩ ∧
      p.symbolFile.symbolFile.symbolFile = p.symbolFile.symbolFile := by
  intro p
  have hparts : p.Parts (utf8 "d/") (utf8 "..a") [slash] :=
    ⟨by decide, .inr ⟨utf8 "d", by decide⟩, by decide, .slash .nil⟩
  have hstem : StemOf (utf8 "..a") [dot] :=
    @StemOf.cut [dot] (utf8 "a") (by decide) (by decide)
  obtain ⟨hthree, -, htwo⟩ := symbolFile_repeated p
  obtain ⟨h1, h2⟩ := htwo _ _ _ hparts hstem (by decide)
  exact ⟨hparts, hstem, h1, h2, hthree⟩

end Path

end DebugSymbols
