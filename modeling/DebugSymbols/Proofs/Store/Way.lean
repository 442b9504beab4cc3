import DebugSymbols.Proofs.Path.Parts
import DebugSymbols.Store

/-!
# Where a path leads

`Moves s here step there` is one step in a store: it starts in a directory, and a name that it
enters is known there. `Way s here steps there` is any number of them. `FileAt s p content` says
that the system follows the path, and that its steps lead to a file with this content. Those are
the paths that can be read and that count as a file's (`read_eq_ok_iff`, `isFile_iff`).

Every name in a store stands in a directory (`Rooted`); this holds of the empty store, and changes
keep it. So a step up leads to a directory again, and a path that leads to a file ends in the name
of that file, with no trail behind it (`FileAt.exists_parts`).
-/

namespace DebugSymbols

namespace Store

variable {s t : Store} {here there : Place} {step : Path.Step} {steps : List Path.Step}
  {p : Path} {content : Image} {name : Bytes} {names : List Bytes} {node : Node}

inductive Moves (s : Store) : Place → Path.Step → Place → Prop where
  | stay {here : Place} : s.nodeAt? here = some .directory → Moves s here .stay here
  | up {here : Place} : s.nodeAt? here = some .directory → Moves s here .up here.parent
  | into {name : Bytes} {names : List Bytes} : s.node? names = some .directory →
      name.length ≤ maxNameLength → (s.node? (name :: names)).isSome →
      Moves s (.within names) (.into name) (.within (name :: names))

inductive Way (s : Store) : Place → List Path.Step → Place → Prop where
  | here (place : Place) : Way s place [] place
  | step {here next there : Place} {step : Path.Step} {steps : List Path.Step} :
      Moves s here step next → Way s next steps there → Way s here (step :: steps) there

/-- A path that can be followed leads to a file with this content. -/
structure FileAt (s : Store) (p : Path) (content : Image) : Prop where
  nul_not_mem : 0 ∉ p.bytes
  ne_nil : p.bytes ≠ []
  length_lt : p.bytes.length < pathLengthLimit
  way : ∃ names, Way s p.start p.steps (.within names) ∧ s.node? names = some (.file content)

theorem enter_eq_ok_iff : s.enter here step = .ok there ↔ Moves s here step there := by
  constructor
  · intro h
    unfold enter at h
    split at h
    · cases h
    · rename_i hd
      rw [ne_eq, Decidable.not_not] at hd
      cases step with
      | stay => cases h; exact .stay hd
      | up => cases h; exact .up hd
      | into name =>
        simp only at h
        split at h
        · cases h
        · rename_i hl
          cases here with
          | outside => cases h
          | within names =>
            simp only at h
            split at h
            · rename_i hn
              cases h
              exact .into hd (Nat.le_of_not_lt hl) hn
            · cases h
  · intro h
    cases h with
    | stay hd => simp [enter, hd]
    | up hd => simp [enter, hd]
    | into hd hl hn => simp [enter, nodeAt?, hd, Nat.not_lt_of_le hl, hn]

theorem walk_eq_ok_iff : s.walk here steps = .ok there ↔ Way s here steps there := by
  induction steps generalizing here with
  | nil =>
    unfold walk
    constructor
    · rintro ⟨⟩
      exact .here _
    · rintro ⟨⟩
      rfl
  | cons step steps ih =>
    unfold walk
    constructor
    · intro h
      split at h
      · rename_i next hn
        exact .step (enter_eq_ok_iff.mp hn) (ih.mp h)
      · cases h
    · rintro ⟨⟩
      rename_i next hm hw
      rw [enter_eq_ok_iff.mpr hm]
      exact ih.mpr hw

theorem fault?_eq_none_iff :
    p.fault? = none ↔ 0 ∉ p.bytes ∧ p.bytes ≠ [] ∧ p.bytes.length < pathLengthLimit := by
  unfold Path.fault?
  split
  · simp_all
  · split
    · simp_all
    · split <;> simp_all

theorem locate_eq_file_iff : s.locate p = .ok (.file content) ↔ s.FileAt p content := by
  constructor
  · intro h
    unfold locate at h
    split at h
    · cases h
    · rename_i hf
      obtain ⟨h0, hne, hl⟩ := fault?_eq_none_iff.mp hf
      split at h
      · cases h
      · rename_i place hw
        split at h
        · rename_i node hn
          cases h
          -- only a place below the root is a file
          cases place with
          | outside => cases hn
          | within names => exact ⟨h0, hne, hl, names, walk_eq_ok_iff.mp hw, hn⟩
        · cases h
  · rintro ⟨h0, hne, hl, names, hw, hn⟩
    simp only [locate, fault?_eq_none_iff.mpr ⟨h0, hne, hl⟩, walk_eq_ok_iff.mpr hw, nodeAt?, hn]

theorem read_eq_ok_iff : s.read p = .ok content ↔ s.FileAt p content := by
  rw [← locate_eq_file_iff, read]
  split <;> simp_all

theorem isFile_iff : s.isFile p = true ↔ ∃ content, s.FileAt p content := by
  simp only [← locate_eq_file_iff, isFile]
  split <;> simp_all

/-! ## Names stand in directories -/

/-- Every name that is known stands in a directory. -/
def Rooted (s : Store) : Prop :=
  ∀ name names node, s.node? (name :: names) = some node → s.node? names = some .directory

theorem rooted_empty : Rooted {} := by
  intro name names node h
  cases h

theorem node?_erase_self (s : Store) (name : Bytes) (names : List Bytes) :
    (s.erase (name :: names)).node? (name :: names) = none := by
  rw [erase, node?, List.lookup_eq_none_iff]
  intro e he
  have hne : e.1 ≠ name :: names := by simpa using (List.mem_filter.mp he).2
  exact bne_iff_ne.mpr hne.symm

theorem node?_erase_of_ne (s : Store) {names names' : List Bytes} (h : names' ≠ names) :
    (s.erase names).node? names' = s.node? names' := by
  rcases names' with _ | ⟨name, rest⟩
  · rfl
  · exact lookup_filter_ne h s.entries

/-- A name in a directory may get any node, but a directory remains one. -/
theorem Rooted.insert (h : s.Rooted) (hd : s.node? names = some .directory)
    (hn : s.node? (name :: names) = some .directory → node = .directory) :
    (s.insert (name :: names) node).Rooted := by
  intro name' names' node' hk
  by_cases he : name' :: names' = name :: names
  · obtain ⟨rfl, rfl⟩ := List.cons.inj he
    rw [node?_insert_of_ne s node List.ne_cons_self, hd]
  · rw [node?_insert_of_ne s node he] at hk
    have hd' := h _ _ _ hk
    by_cases he' : names' = name :: names
    · subst he'
      rw [node?_insert_self, hn hd']
    · rw [node?_insert_of_ne s node he', hd']

/-- Nothing stands in a file, so a file can be taken away. -/
theorem Rooted.erase (h : s.Rooted) (hf : s.node? names = some (.file content)) :
    (s.erase names).Rooted := by
  intro name' names' node' hk
  have hne : name' :: names' ≠ names := by
    rintro rfl
    rw [node?_erase_self] at hk
    cases hk
  rw [node?_erase_of_ne s hne] at hk
  have hd := h _ _ _ hk
  rw [node?_erase_of_ne s, hd]
  rintro rfl
  rw [hf] at hd
  cases hd

theorem exists_of_bind_eq_ok {α β : Type} {first : Except Fault α} {next : α → Except Fault β}
    {b : β} (h : first >>= next = .ok b) : ∃ a, first = .ok a ∧ next a = .ok b := by
  rcases first with fault | a
  · cases h
  · exact ⟨a, rfl, h⟩

theorem Rooted.withDirectory (h : s.Rooted) (hw : s.withDirectory names = .ok t) :
    t.Rooted ∧ t.node? names = some .directory := by
  induction names generalizing t with
  | nil =>
    cases hw
    exact ⟨h, rfl⟩
  | cons name names ih =>
    obtain ⟨u, hu, hw⟩ := exists_of_bind_eq_ok hw
    obtain ⟨hr, hd⟩ := ih hu
    split at hw
    · rename_i hn
      cases hw
      exact ⟨hr, hn⟩
    · cases hw
    · cases hw
      exact ⟨hr.insert hd fun _ => rfl, node?_insert_self u name names .directory⟩

theorem Rooted.makeDirectory (h : s.Rooted) (hm : s.makeDirectory p = .ok t) : t.Rooted := by
  obtain ⟨names, -, hm⟩ := exists_of_bind_eq_ok hm
  exact (h.withDirectory hm).1

theorem Rooted.write (h : s.Rooted) (hw : s.write p content = .ok t) : t.Rooted := by
  obtain ⟨names, -, hw⟩ := exists_of_bind_eq_ok hw
  split at hw
  · cases hw
  · obtain ⟨u, hu, hw⟩ := exists_of_bind_eq_ok hw
    obtain ⟨hr, hd⟩ := h.withDirectory hu
    split at hw
    · cases hw
    · rename_i hn
      cases hw
      exact hr.insert hd fun he => absurd he hn

theorem Rooted.remove (h : s.Rooted) (hr : s.remove p = .ok t) : t.Rooted := by
  obtain ⟨names, -, hr⟩ := exists_of_bind_eq_ok hr
  split at hr
  · rename_i hf
    cases hr
    exact h.erase hf
  · cases hr
  · cases hr

/-! ## The end of a way -/

theorem Way.of_concat (h : Way s here (steps ++ [step]) there) :
    ∃ next, Way s here steps next ∧ Moves s next step there := by
  induction steps generalizing here with
  | nil =>
    cases h with
    | step hm hw =>
      cases hw
      exact ⟨here, .here here, hm⟩
  | cons first steps ih =>
    cases h with
    | step hm hw =>
      obtain ⟨next, hw, hlast⟩ := ih hw
      exact ⟨next, .step hm hw, hlast⟩

theorem Rooted.parent (h : s.Rooted) (hd : s.nodeAt? here = some .directory) :
    s.nodeAt? here.parent = some .directory := by
  cases here with
  | outside => rfl
  | within names =>
    rcases names with _ | ⟨name, names⟩
    · rfl
    · exact h _ _ _ hd

theorem Moves.exists_into (h : s.Rooted) (hm : Moves s here step (.within names))
    (hf : s.node? names = some (.file content)) : ∃ name, step = .into name := by
  generalize hp : Place.within names = place at hm
  cases hm with
  | stay hd =>
    subst hp
    rw [nodeAt?, hf] at hd
    cases hd
  | up hd =>
    have := h.parent hd
    rw [← hp, nodeAt?, hf] at this
    cases this
  | into => exact ⟨_, rfl⟩

/-- The last step of a path is that of the text behind its last slash. -/
theorem exists_steps_eq (p : Path) : ∃ dir name before, p.bytes = dir ++ name ∧
    Path.IsFront dir ∧ Path.slash ∉ name ∧ p.steps = before ++ [Path.Step.ofSegment name] := by
  obtain ⟨dir, name, hb, hd, hn⟩ := Path.exists_front p.bytes
  have hs : ∃ before, Path.segments p.bytes = before ++ [name] := by
    rcases hd with rfl | ⟨outer, rfl⟩
    · exact ⟨[], by rw [hb, List.nil_append, Path.segments_of_not_mem hn]; rfl⟩
    · refine ⟨Path.segments outer, ?_⟩
      rw [hb, List.append_assoc, List.singleton_append, Path.segments_append_slash,
        Path.segments_of_not_mem hn]
  obtain ⟨before, hs⟩ := hs
  refine ⟨dir, name, before.map Path.Step.ofSegment, hb, hd, hn, ?_⟩
  rw [Path.steps, hs, List.map_append]
  rfl

theorem FileAt.exists_parts (hr : s.Rooted) (h : s.FileAt p content) :
    ∃ dir name, p.Parts dir name [] := by
  obtain ⟨names, hw, hf⟩ := h.way
  obtain ⟨dir, name, before, hb, hd, hn, hs⟩ := exists_steps_eq p
  rw [hs] at hw
  obtain ⟨next, -, hm⟩ := hw.of_concat
  obtain ⟨name', hinto⟩ := hm.exists_into hr hf
  refine ⟨dir, name, by rw [hb, List.append_nil], hd, ?_, .nil⟩
  rcases Path.segment_cases hn with hstay | hup | hname
  · rw [hinto] at hstay
    cases hstay
  · rw [hinto] at hup
    cases hup
  · exact hname

end Store

end DebugSymbols
