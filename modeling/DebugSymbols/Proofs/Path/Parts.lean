import DebugSymbols.Path

/-!
# The file name of a path

A path with a file name falls into three parts, the text up to and with the last slash before the
name, the name, and the trail behind it (`Path.Parts`). The same name is found on the way that the
path describes: it is what the last step that does not stay enters (`lastStep?_eq_into_iff`). A
path without a file name stays all the way, or its last step goes up.
-/

namespace DebugSymbols

namespace Path

/-- A text before a name is empty or ends in a slash. -/
def IsFront (dir : Bytes) : Prop := dir = [] ∨ ∃ outer, dir = outer ++ [slash]

/-- The text of a path is a front, a file name and a trail. -/
structure Parts (p : Path) (dir name trail : Bytes) : Prop where
  bytes_eq : p.bytes = dir ++ name ++ trail
  isFront : IsFront dir
  isFileName : IsFileName name
  isTrail : Trail trail

/-- The last step along a path that does not stay, if there is one. -/
def lastStep? (p : Path) : Option Step := (p.steps.filter (· ≠ .stay)).getLast?

theorem isFront_iff {dir : Bytes} : IsFront dir ↔ dir = [] ∨ dir.getLast? = some slash := by
  unfold IsFront
  simp only [List.getLast?_eq_some_iff]

theorem cut?_eq_some {p : Path} {c : Cut} : p.cut? = some c ↔ p.Parts c.dir c.name c.trail := by
  rw [cut?_eq_some_iff, ← isFront_iff]
  exact ⟨fun ⟨hb, hn, ht, hf⟩ => ⟨hb, hf, hn, ht⟩, fun ⟨hb, hf, hn, ht⟩ => ⟨hb, hn, ht, hf⟩⟩

theorem Parts.cut? {p : Path} {dir name trail : Bytes} (h : p.Parts dir name trail) :
    p.cut? = some ⟨dir, name, trail⟩ := cut?_eq_some.mpr h

theorem Trail.take {t : Bytes} (h : Trail t) (n : Nat) : Trail (t.take n) := by
  induction h generalizing n with
  | nil =>
    rw [List.take_nil]
    exact .nil
  | slash _ ih =>
    rcases n with _ | n
    · exact .nil
    · exact .slash (ih n)
  | slashDot _ ih =>
    rcases n with _ | _ | n
    · exact .nil
    · exact .slash .nil
    · exact .slashDot (ih n)

/-! ## Segments -/

theorem segments_ne_nil (b : Bytes) : segments b ≠ [] := by
  rcases b with _ | ⟨x, rest⟩
  · exact List.cons_ne_nil _ _
  · unfold segments
    split
    · exact List.cons_ne_nil _ _
    · split <;> exact List.cons_ne_nil _ _

theorem segments_append_slash (x y : Bytes) :
    segments (x ++ slash :: y) = segments x ++ segments y := by
  induction x with
  | nil => simp [segments]
  | cons b x ih =>
    rw [List.cons_append, segments, segments, ih]
    split
    · rfl
    · rcases hs : segments x with _ | ⟨s, ss⟩
      · exact absurd hs (segments_ne_nil x)
      · rfl

theorem segments_of_not_mem {s : Bytes} (h : slash ∉ s) : segments s = [s] := by
  induction s with
  | nil => rfl
  | cons b s ih =>
    rw [List.mem_cons, not_or] at h
    rw [segments, if_neg (Ne.symm h.1), ih h.2]

/-- Behind a text, a trail adds only segments that stay. -/
theorem Trail.segments_append {t : Bytes} (h : Trail t) (x : Bytes) :
    ∃ ss, segments (x ++ t) = segments x ++ ss ∧ ∀ s ∈ ss, Step.ofSegment s = .stay := by
  induction h generalizing x with
  | nil => exact ⟨[], by simp, by simp⟩
  | slash _ ih =>
    obtain ⟨ss, hs, hstay⟩ := ih []
    rw [List.nil_append] at hs
    refine ⟨[] :: ss, by rw [segments_append_slash, hs]; rfl, ?_⟩
    exact List.forall_mem_cons.mpr ⟨rfl, hstay⟩
  | slashDot _ ih =>
    obtain ⟨ss, hs, hstay⟩ := ih [dot]
    rw [List.singleton_append] at hs
    refine ⟨[dot] :: ss, by rw [segments_append_slash, hs]; rfl, ?_⟩
    exact List.forall_mem_cons.mpr ⟨rfl, hstay⟩

theorem exists_segments {dir name trail : Bytes} (hd : IsFront dir) (hn : slash ∉ name)
    (ht : Trail trail) :
    ∃ before behind, segments (dir ++ name ++ trail) = before ++ name :: behind ∧
      ∀ s ∈ behind, Step.ofSegment s = .stay := by
  rcases hd with rfl | ⟨outer, rfl⟩
  · obtain ⟨ss, hs, hstay⟩ := ht.segments_append name
    refine ⟨[], ss, ?_, hstay⟩
    rw [List.nil_append, hs, segments_of_not_mem hn]
    rfl
  · obtain ⟨ss, hs, hstay⟩ := ht.segments_append name
    refine ⟨segments outer, ss, ?_, hstay⟩
    rw [List.append_assoc, List.append_assoc, List.singleton_append, segments_append_slash, hs,
      segments_of_not_mem hn]
    rfl

/-! ## Steps -/

theorem filter_stay {ss : List Bytes} (h : ∀ s ∈ ss, Step.ofSegment s = .stay) :
    (ss.map Step.ofSegment).filter (· ≠ .stay) = [] := by
  rw [List.filter_eq_nil_iff]
  intro step hs
  obtain ⟨s, hm, rfl⟩ := List.mem_map.mp hs
  simp [h s hm]

theorem ofSegment_eq_stay {s : Bytes} : Step.ofSegment s = .stay ↔ s = [] ∨ s = [dot] := by
  unfold Step.ofSegment
  split
  · rename_i h
    simp [h]
  · rename_i h
    split <;> simp [h]

theorem segment_cases {s : Bytes} (hs : slash ∉ s) :
    Step.ofSegment s = .stay ∨ Step.ofSegment s = .up ∨ IsFileName s := by
  unfold Step.ofSegment
  split
  · exact .inl rfl
  · rename_i h
    rw [not_or] at h
    split
    · exact .inr (.inl rfl)
    · rename_i h2
      exact .inr (.inr ⟨h.1, h.2, h2, hs⟩)

/-- The last step is to a name that has only a trail behind it, unless that stays. -/
theorem lastStep?_of_name {dir name trail : Bytes} (hd : IsFront dir) (hn : slash ∉ name)
    (ht : Trail trail) (hstep : Step.ofSegment name ≠ .stay) :
    lastStep? ⟨dir ++ name ++ trail⟩ = some (Step.ofSegment name) := by
  obtain ⟨before, behind, hs, hstay⟩ := exists_segments hd hn ht
  unfold lastStep? steps
  rw [hs, List.map_append, List.map_cons, List.filter_append,
    List.filter_cons_of_pos (by simpa using hstep), filter_stay hstay]
  exact List.getLast?_concat

theorem lastStep?_of_trail {s t : Bytes} (hs : slash ∉ s) (hstep : Step.ofSegment s = .stay)
    (ht : Trail t) : lastStep? ⟨s ++ t⟩ = none := by
  obtain ⟨ss, he, hstay⟩ := ht.segments_append s
  unfold lastStep? steps
  rw [he, segments_of_not_mem hs, List.singleton_append,
    filter_stay (List.forall_mem_cons.mpr ⟨hstep, hstay⟩)]
  rfl

theorem ofSegment_of_isFileName {name : Bytes} (h : IsFileName name) :
    Step.ofSegment name = .into name := by
  obtain ⟨h0, h1, h2, -⟩ := h
  unfold Step.ofSegment
  rw [if_neg (not_or.mpr ⟨h0, h1⟩), if_neg h2]

theorem Parts.lastStep? {p : Path} {dir name trail : Bytes} (h : p.Parts dir name trail) :
    p.lastStep? = some (.into name) := by
  have hstep := ofSegment_of_isFileName h.isFileName
  rw [← hstep, ← lastStep?_of_name h.isFront h.isFileName.2.2.2 h.isTrail (by simp [hstep]),
    ← h.bytes_eq]

theorem dropTrail_ne (r rest : Bytes) :
    dropTrail r ≠ slash :: rest ∧ dropTrail r ≠ dot :: slash :: rest := by
  fun_induction dropTrail r with
  | case1 | case2 => simp
  | case3 b hb => simp [hb]
  | case4 c rest' ih => exact ih
  | case5 b c rest' _ _ ih => exact ih
  | case6 b c rest' hb hbc =>
    refine ⟨by simp [hb], ?_⟩
    intro h
    simp only [List.cons.injEq] at h
    exact hbc ⟨h.1, h.2.1⟩

/-- Every text is a front and what stands behind the last slash. -/
theorem exists_front (b : Bytes) : ∃ dir name, b = dir ++ name ∧ IsFront dir ∧ slash ∉ name := by
  refine ⟨(b.reverse.dropWhile (· ≠ slash)).reverse, (b.reverse.takeWhile (· ≠ slash)).reverse,
    ?_, ?_, ?_⟩
  · rw [← List.reverse_append, List.takeWhile_append_dropWhile, List.reverse_reverse]
  · rcases hw : b.reverse.dropWhile (· ≠ slash) with _ | ⟨x, rest⟩
    · exact .inl rfl
    · exact .inr ⟨rest.reverse, by rw [List.reverse_cons, eq_slash_of_dropWhile hw]⟩
  · intro hm
    have hx := List.all_eq_true.mp List.all_takeWhile slash (List.mem_reverse.mp hm)
    simp at hx

theorem lastStep?_of_cut?_eq_none {p : Path} (h : p.cut? = none) :
    p.lastStep? = none ∨ p.lastStep? = some .up := by
  obtain ⟨t, ht, he⟩ := exists_trail_dropTrail p.bytes.reverse
  obtain ⟨dir, name, hb, hd, hn⟩ := exists_front (dropTrail p.bytes.reverse).reverse
  have hp : p.bytes = dir ++ name ++ t := by
    rw [← hb]
    simpa using congrArg List.reverse he
  rcases segment_cases hn with hstay | hup | hf
  · -- the text without its trail has no other, so no slash stands before the name
    have hempty : dir = [] := by
      rcases hd with rfl | ⟨outer, rfl⟩
      · rfl
      · have hr : dropTrail p.bytes.reverse = name.reverse ++ slash :: outer.reverse := by
          simpa using congrArg List.reverse hb
        obtain ⟨h0, h1⟩ := dropTrail_ne p.bytes.reverse outer.reverse
        rcases ofSegment_eq_stay.mp hstay with rfl | rfl
        · exact absurd hr h0
        · exact absurd hr h1
    have hlast := lastStep?_of_trail hn hstay ht
    rw [← List.nil_append name, ← hempty, ← hp] at hlast
    exact .inl hlast
  · have hlast := lastStep?_of_name hd hn ht (by simp [hup])
    rw [← hp, hup] at hlast
    exact .inr hlast
  · rw [(Parts.mk hp hd hf ht).cut?] at h
    cases h

/-- The file name of a path is what its last step enters. -/
theorem lastStep?_eq_into_iff {p : Path} {name : Bytes} :
    p.lastStep? = some (.into name) ↔ ∃ dir trail, p.Parts dir name trail := by
  refine ⟨?_, ?_⟩
  · intro h
    rcases hc : p.cut? with _ | c
    · rcases lastStep?_of_cut?_eq_none hc with hl | hl <;> rw [hl] at h <;> cases h
    · have hparts := cut?_eq_some.mp hc
      rw [hparts.lastStep?] at h
      cases h
      exact ⟨c.dir, c.trail, hparts⟩
  · rintro ⟨dir, trail, h⟩
    exact h.lastStep?

end Path

end DebugSymbols
