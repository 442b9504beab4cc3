import DebugSymbols.Proofs.Lookup.SharedKey

/-!
# What a shown key tells

A key is shown with each NUL as the two characters `\0`, so it is shown without a NUL and longer
than it is by one character for each. Reading these two characters as a NUL (`ofDisplay`) gives the
key back exactly if the key does not have them itself (`ofDisplay_display_iff`), as nothing tells
those that show a NUL from those that were there. So the report of a misfit tells the key that was
searched, if that key is known not to have them; a method's name with a NUL is always shown like
another name that has them instead (`display_tells`).
-/

namespace DebugSymbols

namespace Key

/-- A backslash stands right before a zero, as a NUL is shown. -/
def SpellsNul (cs : List Char) : Prop := ['\\', '0'] <:+: cs

instance (cs : List Char) : Decidable (SpellsNul cs) := inferInstanceAs (Decidable (_ <:+: _))

theorem spellsNul_cons {c : Char} {cs : List Char} :
    SpellsNul (c :: cs) ↔ (c = '\\' ∧ cs.head? = some '0') ∨ SpellsNul cs := by
  unfold SpellsNul
  rw [List.infix_cons_iff, List.cons_prefix_cons, List.singleton_prefix_iff_head?_eq_some, eq_comm]

/-! ## Showing -/

theorem showNul_nul (cs : List Char) : showNul ('\x00' :: cs) = '\\' :: '0' :: showNul cs := rfl

theorem showNul_cons {c : Char} (h : c ≠ '\x00') (cs : List Char) :
    showNul (c :: cs) = c :: showNul cs := by
  unfold showNul
  rw [List.flatMap_cons, if_neg h]
  rfl

theorem showNul_append (cs ds : List Char) : showNul (cs ++ ds) = showNul cs ++ showNul ds :=
  List.flatMap_append

theorem nul_not_mem_showNul (cs : List Char) : '\x00' ∉ showNul cs := by
  induction cs with
  | nil => simp [showNul]
  | cons c cs ih =>
    by_cases h : c = '\x00'
    · rw [h, showNul_nul]
      simp [ih]
    · rw [showNul_cons h, List.mem_cons]
      rintro (hc | hm)
      · exact h hc.symm
      · exact ih hm

theorem showNul_of_not_mem {cs : List Char} (h : '\x00' ∉ cs) : showNul cs = cs := by
  induction cs with
  | nil => rfl
  | cons c cs ih =>
    rw [List.mem_cons, not_or] at h
    rw [showNul_cons (Ne.symm h.1), ih h.2]

theorem length_encode_showNul (cs : List Char) :
    (Utf8.encode (showNul cs)).length = (Utf8.encode cs).length + cs.count '\x00' := by
  have hnul : (String.utf8EncodeChar '\x00').length = 1 := by decide
  have hshown : (Utf8.encode ['\\', '0']).length = 2 := by decide
  induction cs with
  | nil => rfl
  | cons c cs ih =>
    by_cases h : c = '\x00'
    · rw [h, showNul_nul, List.count_cons_self,
        show '\\' :: '0' :: showNul cs = ['\\', '0'] ++ showNul cs from rfl, Utf8.encode_append,
        List.length_append, hshown, ih, Utf8.encode_cons, List.length_append, hnul]
      omega
    · rw [showNul_cons h, List.count_cons_of_ne h, Utf8.encode_cons, Utf8.encode_cons,
        List.length_append, List.length_append, ih]
      omega

theorem head?_showNul {cs : List Char} (h : (showNul cs).head? = some '0') :
    cs.head? = some '0' := by
  rcases cs with _ | ⟨c, cs⟩
  · cases h
  · by_cases hc : c = '\x00'
    · rw [hc, showNul_nul] at h
      cases h
    · rwa [showNul_cons hc] at h

theorem spellsNul_showNul {cs : List Char} (h : '\x00' ∈ cs) : SpellsNul (showNul cs) := by
  obtain ⟨front, back, rfl⟩ := List.append_of_mem h
  rw [showNul_append, showNul_nul]
  exact ⟨showNul front, showNul back, by simp⟩

/-! ## Reading -/

/-- A text with each backslash and zero as a NUL, from left to right. -/
def readNul : List Char → List Char
  | [] => []
  | [c] => [c]
  | c :: d :: rest =>
    if c = '\\' ∧ d = '0' then '\x00' :: readNul rest else c :: readNul (d :: rest)

def ofDisplay (s : String) : Key := ⟨String.ofList (readNul s.toList)⟩

theorem readNul_nul (cs : List Char) : readNul ('\\' :: '0' :: cs) = '\x00' :: readNul cs := by
  simp [readNul]

theorem readNul_cons {c : Char} {cs : List Char} (h : ¬ (c = '\\' ∧ cs.head? = some '0')) :
    readNul (c :: cs) = c :: readNul cs := by
  rcases cs with _ | ⟨d, cs⟩
  · simp [readNul]
  · have hd : ¬ (c = '\\' ∧ d = '0') := by simpa using h
    rw [readNul, if_neg hd]

theorem head?_readNul {cs : List Char} (h : (readNul cs).head? = some '0') :
    cs.head? = some '0' := by
  rcases cs with _ | ⟨c, _ | ⟨d, rest⟩⟩
  · cases h
  · exact h
  · rw [readNul] at h
    split at h
    · cases h
    · exact h

/-- Reading leaves no two characters that would be read again. -/
theorem not_spellsNul_readNul (cs : List Char) : ¬ SpellsNul (readNul cs) := by
  fun_induction readNul cs with
  | case1 => decide
  | case2 c => simp [SpellsNul, List.infix_cons_iff]
  | case3 c d rest h ih =>
    rw [spellsNul_cons]
    simpa using ih
  | case4 c d rest h ih =>
    rw [spellsNul_cons]
    rintro (⟨hc, h0⟩ | hs)
    · exact h ⟨hc, Option.some.inj (head?_readNul h0)⟩
    · exact ih hs

theorem readNul_showNul {cs : List Char} (h : ¬ SpellsNul cs) : readNul (showNul cs) = cs := by
  induction cs with
  | nil => rfl
  | cons c cs ih =>
    rw [spellsNul_cons, not_or] at h
    by_cases hc : c = '\x00'
    · rw [hc, showNul_nul, readNul_nul, ih h.2]
    · have hn : ¬ (c = '\\' ∧ (showNul cs).head? = some '0') := fun hs =>
        h.1 ⟨hs.1, head?_showNul hs.2⟩
      rw [showNul_cons hc, readNul_cons hn, ih h.2]

theorem ofDisplay_display_iff {k : Key} :
    ofDisplay k.display = k ↔ ¬ SpellsNul k.text.toList := by
  rw [Key.ext_iff, ← String.toList_inj, ofDisplay, display, String.toList_ofList,
    String.toList_ofList]
  refine ⟨?_, readNul_showNul⟩
  intro h
  rw [← h]
  exact not_spellsNul_readNul _

/-! ## Keys in reports -/

theorem display_method (name : String) :
    (method name).display = String.ofList (showNul name.toList) ++ "\\0" := by
  rw [← String.toList_inj, display, method, String.toList_append, showNul_append]
  simp [showNul]

theorem exists_shown_alike {name : String} (h : '\x00' ∈ name.toList) :
    ∃ name', SpellsNul name'.toList ∧ method name' ≠ method name ∧
      (method name').display = (method name).display := by
  refine ⟨String.ofList (showNul name.toList), ?_, ?_, ?_⟩
  · rw [String.toList_ofList]
    exact spellsNul_showNul h
  · rw [ne_eq, method_eq_method_iff]
    intro he
    rw [← he, String.toList_ofList] at h
    exact nul_not_mem_showNul _ h
  · rw [display_method, display_method, String.toList_ofList,
      showNul_of_not_mem (nul_not_mem_showNul _)]

/-- A shown key has no NUL and is longer than the key by one byte for each NUL. Reading gives a key
back exactly if the key does not spell a NUL itself, so keys that do not are shown differently, and
the report of a misfit tells such a key. For a method's name with a NUL there is always another
method that is shown alike, and its name does spell one. -/
theorem display_tells :
    (∀ k : Key, '\x00' ∉ k.display.toList ∧
        (utf8 k.display).length = k.size + k.text.toList.count '\x00') ∧
      (∀ k : Key, ofDisplay k.display = k ↔ ¬ SpellsNul k.text.toList) ∧
      (∀ k l : Key, ¬ SpellsNul k.text.toList → ¬ SpellsNul l.text.toList →
        k.display = l.display → k = l) ∧
      (∀ (f : SymbolFile) (s : Symbol) key m back size length,
        (f.lookup s).1 = .error (.malformed key m back size length) →
          ¬ SpellsNul s.key.text.toList → s.key = ofDisplay key) ∧
      ∀ name : String, '\x00' ∈ name.toList →
        ∃ name', SpellsNul name'.toList ∧ method name' ≠ method name ∧
          (method name').display = (method name).display := by
  refine ⟨?_, fun _ => ofDisplay_display_iff, ?_, ?_, fun _ => exists_shown_alike⟩
  · intro k
    have hd : k.display.toList = showNul k.text.toList := String.toList_ofList
    refine ⟨hd ▸ nul_not_mem_showNul _, ?_⟩
    rw [utf8, hd]
    exact length_encode_showNul _
  · intro k l hk hl h
    rw [← ofDisplay_display_iff.mpr hk, h, ofDisplay_display_iff.mpr hl]
  · intro f s key m back size length h hs
    rw [SymbolFile.key_of_lookup_malformed h, ofDisplay_display_iff.mpr hs]

/-- A backslash before a NUL and a zero behind it are told apart; a backslash before a zero is not.
-/
theorem display_tells_backslashes :
    let s : Symbol := .method "\\\x000"
    let f := (SymbolFile.create ⟨s.key.bytes, by decide⟩).1
    s.key.display = "\\\\00\\0" ∧ ofDisplay s.key.display = s.key ∧
      (f.lookup s).1 = .error (.malformed "\\\\00\\0" 0 7 4 4) ∧
      s.key = ofDisplay "\\\\00\\0" ∧ s.key ≠ method "\x000" ∧
      s.key.display ≠ (method "\x000").display ∧
      ∃ name', SpellsNul name'.toList ∧ method name' ≠ method "\x00" ∧
        (method name').display = (method "\x00").display := by
  intro s f
  obtain ⟨-, hread, hinj, hreport, halike⟩ := display_tells
  have hs : ¬ SpellsNul s.key.text.toList := by decide
  have hl : (f.lookup s).1 = .error (.malformed "\\\\00\\0" 0 7 4 4) :=
    (SymbolFile.lookup_eq_malformed_iff (f := f) rfl).mpr
      ⟨by decide, by decide, rfl, rfl, by decide, .inl (by decide)⟩
  have hne : s.key ≠ method "\x000" := by decide
  exact ⟨by decide, (hread s.key).mpr hs, hl, hreport _ _ _ _ _ _ _ hl hs, hne,
    fun h => hne (hinj _ _ hs (by decide) h), halike "\x00" (by decide)⟩

end Key

end DebugSymbols
