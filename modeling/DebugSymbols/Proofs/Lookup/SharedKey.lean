import DebugSymbols.Proofs.Lookup.Joined

/-!
# Symbols with one key

A key is told by its bytes, and it tells the kind of its symbol and what the symbol's names spell
(`Symbol.key_eq_iff`). Joined names and a method's name are just that. A field's two names spell
what they are joined to, so two fields have one key if their names are the same, and else exactly if
some middle part, between two `@`, moves from the owner of the one to the name of the other
(`Key.field_eq_field_iff`). As the `@` move with it, this cannot be when the two names, or the two
owners, have equally many.
-/

namespace DebugSymbols

/-- What two lists joined by a mark have in common with two others: the same lists, or a part
between two marks that one has in front of its mark and the other behind it. -/
theorem append_cons_eq_iff {α : Type} {mark : α} {a b x y : List α} :
    a ++ mark :: x = b ++ mark :: y ↔
      (a = b ∧ x = y) ∨ (∃ mid, b = a ++ mark :: mid ∧ x = mid ++ mark :: y) ∨
        ∃ mid, a = b ++ mark :: mid ∧ y = mid ++ mark :: x := by
  constructor
  · intro h
    rcases List.append_eq_append_iff.mp h with ⟨mid, rfl, hx⟩ | ⟨mid, rfl, hy⟩
    · rcases mid with _ | ⟨c, mid⟩
      · exact .inl ⟨by simp, (List.cons.inj hx).2⟩
      · obtain ⟨rfl, rfl⟩ := List.cons.inj hx
        exact .inr (.inl ⟨mid, rfl, rfl⟩)
    · rcases mid with _ | ⟨c, mid⟩
      · exact .inl ⟨by simp, (List.cons.inj hy).2.symm⟩
      · obtain ⟨rfl, rfl⟩ := List.cons.inj hy
        exact .inr (.inr ⟨mid, rfl, rfl⟩)
  · rintro (⟨rfl, rfl⟩ | ⟨mid, rfl, rfl⟩ | ⟨mid, rfl, rfl⟩) <;> simp

/-- What a symbol's names spell in its key. -/
def Symbol.spelled : Symbol → String
  | field name owner => name ++ "@" ++ owner
  | joined names => names
  | method name => name

theorem Symbol.toList_text_key (s : Symbol) :
    s.key.text.toList =
      match s.kind with
      | .field => '?' :: (s.spelled.toList ++ ['@'])
      | .method => s.spelled.toList ++ ['\x00'] := by
  cases s <;> simp [key, kind, spelled, Key.field, Key.joined, Key.method]

theorem Symbol.key_eq_iff {s s' : Symbol} :
    s.key = s'.key ↔ s.kind = s'.kind ∧ s.spelled = s'.spelled := by
  rw [Key.ext_iff, ← String.toList_inj, s.toList_text_key, s'.toList_text_key, ← String.toList_inj]
  -- the key of a field ends in an `@`, that of a method in a NUL
  have hlast : ∀ x y : List Char, '?' :: (x ++ ['@']) ≠ y ++ ['\x00'] := by
    intro x y h
    have hc := congrArg List.getLast? h
    rw [← List.cons_append, List.getLast?_concat, List.getLast?_concat] at hc
    exact absurd hc (by decide)
  rcases s.kind <;> rcases s'.kind <;> simp only [reduceCtorEq, false_and, true_and, iff_false]
  · rw [List.cons_inj_right, List.append_cancel_right_eq]
  · exact hlast _ _
  · exact (hlast _ _).symm
  · rw [List.append_cancel_right_eq]

/-- A middle part moves from an owner to a name. -/
def Shifts (name owner name' owner' : String) : Prop :=
  ∃ mid, name' = name ++ "@" ++ mid ∧ owner = mid ++ "@" ++ owner'

def marks (text : String) : Nat := text.toList.count '@'

theorem shifts_iff {name owner name' owner' : String} :
    Shifts name owner name' owner' ↔
      ∃ mid, name'.toList = name.toList ++ '@' :: mid ∧
        owner.toList = mid ++ '@' :: owner'.toList := by
  constructor
  · rintro ⟨mid, rfl, rfl⟩
    exact ⟨mid.toList, by simp, by simp⟩
  · rintro ⟨mid, hn, ho⟩
    exact ⟨String.ofList mid, String.toList_inj.mp (by simp [hn]),
      String.toList_inj.mp (by simp [ho])⟩

/-- The `@` in front of a middle part and those in it move with it. -/
theorem Shifts.marks_lt {name owner name' owner' : String} (h : Shifts name owner name' owner') :
    marks name < marks name' ∧ marks owner' < marks owner := by
  obtain ⟨mid, hn, ho⟩ := shifts_iff.mp h
  unfold marks
  rw [hn, ho, List.count_append, List.count_append, List.count_cons_self, List.count_cons_self]
  omega

namespace Key

variable {name owner name' owner' names : String}

theorem field_eq_joined_iff : field name owner = joined names ↔ names = name ++ "@" ++ owner :=
  (@Symbol.key_eq_iff (.field name owner) (.joined names)).trans
    ⟨fun h => h.2.symm, fun h => ⟨rfl, h.symm⟩⟩

theorem field_eq_field_iff_join :
    field name owner = field name' owner' ↔ name ++ "@" ++ owner = name' ++ "@" ++ owner' :=
  (@Symbol.key_eq_iff (.field name owner) (.field name' owner')).trans (and_iff_right rfl)

theorem field_eq_field_iff :
    field name owner = field name' owner' ↔
      (name = name' ∧ owner = owner') ∨ Shifts name owner name' owner' ∨
        Shifts name' owner' name owner := by
  rw [field_eq_field_iff_join, shifts_iff, shifts_iff, ← String.toList_inj, ← String.toList_inj,
    ← String.toList_inj, ← append_cons_eq_iff]
  simp

theorem field_inj_of_marks (h : marks name = marks name' ∨ marks owner = marks owner') :
    field name owner = field name' owner' ↔ name = name' ∧ owner = owner' := by
  rw [field_eq_field_iff]
  refine ⟨?_, .inl⟩
  rintro (he | hs | hs)
  · exact he
  all_goals
    have := hs.marks_lt
    omega

theorem method_eq_method_iff : method name = method name' ↔ name = name' :=
  (@Symbol.key_eq_iff (.method name) (.method name')).trans (and_iff_right rfl)

theorem method_ne_of_kind {s : Symbol} (h : s.kind = .field) : method name ≠ s.key := by
  intro he
  have hk := (@Symbol.key_eq_iff (.method name) s).mp he
  cases hk.1.trans h

end Key

theorem Symbol.size_key (s : Symbol) : s.key.size = s.needle.length :=
  congrArg List.length s.bytes_key

theorem Symbol.isEmpty_key (s : Symbol) : s.key.isEmpty = false := by
  rw [Key.isEmpty, s.bytes_key, List.isEmpty_eq_false_iff]
  exact s.needle_ne_nil

namespace Key

/-- Keys are equal if their bytes are, and symbols have the same key if they are of one kind and
their names spell the same. So a field's two names have the key of the names they are joined to, and
of two other names if a middle part moves between them, which does happen, but not when as many `@`
are in both names or in both owners. Joined names, and names of methods, each have a key of their
own, and no method has a field's. A key is written as its names between the marks of its kind, so
none is empty, and a search for it answers nothing only if it is missing. -/
theorem shared_keys :
    (∀ k l : Key, k = l ↔ k.bytes = l.bytes) ∧
      (∀ s s' : Symbol, s.key = s'.key ↔ s.kind = s'.kind ∧ s.spelled = s'.spelled) ∧
      (∀ name owner names, field name owner = joined names ↔ names = name ++ "@" ++ owner) ∧
      (∀ name owner name' owner',
        (field name owner = field name' owner' ↔
          name ++ "@" ++ owner = name' ++ "@" ++ owner') ∧
        (field name owner = field name' owner' ↔
          (name = name' ∧ owner = owner') ∨ Shifts name owner name' owner' ∨
            Shifts name' owner' name owner) ∧
        (marks name = marks name' ∨ marks owner = marks owner' →
          (field name owner = field name' owner' ↔ name = name' ∧ owner = owner'))) ∧
      (∃ name owner name' owner',
        (name, owner) ≠ (name', owner') ∧ field name owner = field name' owner') ∧
      (∀ names names', joined names = joined names' ↔ names = names') ∧
      (∀ name name', method name = method name' ↔ name = name') ∧
      (∀ name names, method name ≠ joined names) ∧
      (∀ name name' owner, method name ≠ field name' owner) ∧
      (∀ name owner,
        (field name owner).bytes = 0x3f :: (utf8 name ++ 0x40 :: (utf8 owner ++ [0x40])) ∧
        (field name owner).size = (utf8 name).length + (utf8 owner).length + 3) ∧
      (∀ names, (joined names).bytes = 0x3f :: (utf8 names ++ [0x40]) ∧
        (joined names).size = (utf8 names).length + 2) ∧
      (∀ name, (method name).bytes = utf8 name ++ [0] ∧
        (method name).size = (utf8 name).length + 1) ∧
      ∀ s : Symbol, s.key.isEmpty = false ∧
        ∀ image : Image, image.find? s.key.bytes = none → Bytes.Absent s.key.bytes image.bytes := by
  refine ⟨fun _ _ => bytes_inj.symm, fun _ _ => Symbol.key_eq_iff,
    fun _ _ _ => field_eq_joined_iff,
    fun _ _ _ _ => ⟨field_eq_field_iff_join, field_eq_field_iff, field_inj_of_marks⟩,
    ⟨"a@b", "c", "a", "b@c", by decide, by decide⟩, fun _ _ => joined_inj,
    fun _ _ => method_eq_method_iff, fun _ names => @method_ne_of_kind _ (.joined names) rfl,
    fun _ name owner => @method_ne_of_kind _ (.field name owner) rfl, ?_, ?_, ?_, ?_⟩
  · intro name owner
    refine ⟨(Symbol.field name owner).bytes_key, (Symbol.field name owner).size_key.trans ?_⟩
    simp only [Symbol.needle, List.length_cons, List.length_append, List.length_nil]
    omega
  · intro names
    refine ⟨(Symbol.joined names).bytes_key, (Symbol.joined names).size_key.trans ?_⟩
    simp only [Symbol.needle, List.length_cons, List.length_append, List.length_nil]
  · intro name
    refine ⟨(Symbol.method name).bytes_key, (Symbol.method name).size_key.trans ?_⟩
    simp only [Symbol.needle, List.length_cons, List.length_append, List.length_nil]
  · intro s
    refine ⟨s.isEmpty_key, ?_⟩
    intro image h
    rw [s.bytes_key]
    exact SymbolFile.find?_needle_eq_none.mp h

/-- A middle part that moves, and names with as many `@` that are not the same. -/
theorem shared_keys_moved :
    field "a@b" "c" = field "a" "b@c" ∧ Shifts "a" "b@c" "a@b" "c" ∧
      marks "a@b" = marks "d@b" ∧ field "a@b" "c" ≠ field "d@b" "c" ∧
      Image.find? ⟨[0x3f, 0x61], by decide⟩ (Symbol.joined "a").key.bytes = none ∧
      Bytes.Absent (Symbol.joined "a").key.bytes [0x3f, 0x61] := by
  obtain ⟨-, -, -, hfield, -, -, -, -, -, -, -, -, hfind⟩ := shared_keys
  have hmoved : Shifts "a" "b@c" "a@b" "c" := ⟨"b", rfl, rfl⟩
  have hmarks : marks "a@b" = marks "d@b" := by decide
  have hnone : Image.find? ⟨[0x3f, 0x61], by decide⟩ (Symbol.joined "a").key.bytes = none := by
    decide
  refine ⟨(hfield _ _ _ _).2.1.mpr (.inr (.inr hmoved)), hmoved, hmarks, ?_, hnone,
    (hfind (.joined "a")).2 _ hnone⟩
  intro h
  have he := ((hfield _ _ _ _).2.2 (.inl hmarks)).mp h
  exact absurd he.1 (by decide)

end Key

end DebugSymbols
