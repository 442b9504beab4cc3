import DebugSymbols.Proofs.Bytes.Mark
import DebugSymbols.Proofs.Lookup.Outcome

/-!
# Tables of methods

A table of methods writes one entry after the other: the record of a method, three NULs, its name
and a NUL. The names have no NUL, but the records are arbitrary bytes.

A key is a name and its only NUL, so it ends at a NUL of the table and covers no other. A name of
five bytes and more does not fit before the NULs of an entry's head, of which each stands at most
four bytes behind another or behind the start. So an occurrence ends where a name ends, and starts
within that name: a lookup gives the first entry whose name *ends* with the name that is asked for
(`lookup_methodTable`). When that entry has a longer name, the record is read from within it.
-/

namespace DebugSymbols

open Bytes

structure MethodEntry where
  header : UInt32
  name : String

namespace MethodEntry

def payload (e : MethodEntry) : Payload .method := .method e.header

/-- The bytes of an entry in front of its name. -/
def head (e : MethodEntry) : Bytes := e.payload.encode ++ [0, 0, 0]

def bytes (e : MethodEntry) : Bytes := e.head ++ (utf8 e.name ++ [0])

theorem length_head (e : MethodEntry) : e.head.length = 7 := by
  unfold head
  rw [List.length_append, Payload.length_encode]
  rfl

theorem length_bytes (e : MethodEntry) : e.bytes.length = 8 + (utf8 e.name).length := by
  unfold bytes
  rw [List.length_append, length_head, List.length_append, List.length_singleton]
  omega

theorem getElem?_head (e : MethodEntry) {q : Nat} (h : 4 ≤ q) (h' : q < 7) (back : Bytes) :
    (e.head ++ back)[q]? = some 0 := by
  obtain ⟨d, rfl⟩ := Nat.exists_eq_add_of_le h
  have he : e.payload.encode.length = 4 := e.payload.length_encode
  unfold head
  rw [List.append_assoc, List.getElem?_append_right (by omega), he, Nat.add_sub_cancel_left]
  have hd : d = 0 ∨ d = 1 ∨ d = 2 := by omega
  rcases hd with rfl | rfl | rfl <;> rfl

end MethodEntry

def ProperSuffix (a b : Bytes) : Prop := a <:+ b ∧ a ≠ b

section
variable {name : String} (hn : '\x00' ∉ name.toList) (hl : 5 ≤ (utf8 name).length)
  {e : MethodEntry}
include hn hl

theorem clear_head (back : Bytes) : Clear (Symbol.method name).needle e.head back := by
  intro i hi ho
  rw [e.length_head] at hi
  -- the key ends at the first of the three NULs that is not in front of `i`
  have := OccursAt.add_length_le_of_mark (nul_not_mem hn) ho (Nat.le_max_left i 4)
    (e.getElem?_head (Nat.le_max_right i 4) (by omega) back)
  omega

variable (he : '\x00' ∉ e.name.toList)
include he

theorem clear_method (hs : ¬ utf8 name <:+ utf8 e.name) (back : Bytes) :
    Clear (Symbol.method name).needle e.bytes back :=
  (clear_head hn hl _).append (clear_of_not_suffix (nul_not_mem hn) (nul_not_mem he) hs)

theorem firstAt_method (hs : utf8 name <:+ utf8 e.name) (back : Bytes) :
    FirstAt (Symbol.method name).needle (e.bytes ++ back)
      (7 + ((utf8 e.name).length - (utf8 name).length)) := by
  unfold MethodEntry.bytes
  rw [List.append_assoc, List.append_assoc, ← e.length_head]
  exact (clear_head hn hl _).firstAt (firstAt_of_suffix (nul_not_mem hn) (nul_not_mem he) hs)

end

def methodTable (entries : List MethodEntry) : Bytes := entries.flatMap MethodEntry.bytes

theorem methodTable_append (front back : List MethodEntry) :
    methodTable (front ++ back) = methodTable front ++ methodTable back := List.flatMap_append

theorem methodTable_cons (e : MethodEntry) (back : List MethodEntry) :
    methodTable (e :: back) = e.bytes ++ methodTable back := List.flatMap_cons

theorem drop_methodTable (front back : List MethodEntry) (e : MethodEntry) :
    ∃ behind, (methodTable (front ++ e :: back)).drop (methodTable front).length =
      e.payload.encode ++ behind := by
  refine ⟨[0, 0, 0] ++ (utf8 e.name ++ [0]) ++ methodTable back, ?_⟩
  rw [methodTable_append, List.drop_left, methodTable_cons, MethodEntry.bytes, MethodEntry.head]
  simp only [List.append_assoc]

/-- No entry starts within another. -/
theorem length_methodTable_ne {front back front' back' : List MethodEntry} {e e' : MethodEntry}
    (h : front ++ e :: back = front' ++ e' :: back') {k : Nat} (hk : 0 < k)
    (hl : k < e.bytes.length) :
    (methodTable front).length + k ≠ (methodTable front').length := by
  rcases List.append_eq_append_iff.mp h with ⟨mid, rfl, hm⟩ | ⟨mid, rfl, hm⟩
  · -- the second front holds the first, and the entry `e` if there is more
    rcases mid with _ | ⟨x, mid⟩
    · rw [List.append_nil]
      omega
    · obtain ⟨rfl, -⟩ := List.cons.inj hm
      simp only [methodTable_append, methodTable_cons, List.length_append]
      omega
  · simp only [methodTable_append, List.length_append]
    omega

/-! ## Lookups -/

theorem ProperSuffix.length_lt {a b : Bytes} (h : ProperSuffix a b) : a.length < b.length :=
  Nat.lt_of_le_of_ne h.1.length_le fun he => h.2 (h.1.eq_of_length he)

section
variable {front back : List MethodEntry} {e : MethodEntry} {image : Image} {name : String}
  (hb : image.bytes = methodTable (front ++ e :: back))
  (hc : ∀ d ∈ front ++ e :: back, '\x00' ∉ d.name.toList)
  (hn : '\x00' ∉ name.toList) (hl : 5 ≤ (utf8 name).length)
  (hf : ∀ d ∈ front, ¬ utf8 name <:+ utf8 d.name)
include hb hc hn hl hf

theorem firstAt_methodTable (hs : utf8 name <:+ utf8 e.name) :
    FirstAt (Symbol.method name).needle image.bytes
      ((methodTable front).length + (7 + ((utf8 e.name).length - (utf8 name).length))) := by
  rw [hb, ← List.append_nil (methodTable _)]
  exact firstAt_flatMap
    (fun d hd => clear_method hn hl (hc d (List.mem_append_left _ hd)) (hf d hd))
    (firstAt_method hn hl (hc e (by simp)) hs)

theorem lookup_first_suffix (hs : utf8 name <:+ utf8 e.name) :
    ∃ r : Record .method, ((SymbolFile.create image).1.lookup (.method name)).1 = .ok r ∧
      r.start.toNat = (methodTable front).length + (utf8 e.name).length - (utf8 name).length := by
  have hm := firstAt_methodTable hb hc hn hl hf hs
  have hle := hm.1.add_length_le
  have hk : (Symbol.method name).needle.length = (utf8 name).length + 1 := by simp [Symbol.needle]
  have hd : (SymbolFile.create image).1.layout.distance .method = 7 := rfl
  have hsp : Kind.method.span = 4 := rfl
  have hlen := hs.length_le
  obtain ⟨r, hr, hstart, -⟩ := SymbolFile.exists_lookup_eq_ok (f := (SymbolFile.create image).1)
    (s := .method name) rfl hm
    (by simp only [Symbol.kind]; omega) (by simp only [Symbol.kind]; omega)
  simp only [Symbol.kind] at hstart
  exact ⟨r, hr, by omega⟩

theorem lookup_first_same (hs : e.name = name) :
    ∃ start : Offset, start.toNat = (methodTable front).length ∧
      ((SymbolFile.create image).1.lookup (.method name)).1 = .ok ⟨start, .method e.header⟩ := by
  have hm := firstAt_methodTable hb hc hn hl hf (hs ▸ List.suffix_refl _)
  rw [hs, Nat.sub_self, Nat.add_zero] at hm
  obtain ⟨behind, hd⟩ := drop_methodTable front back e
  exact SymbolFile.exists_lookup_eq_payload (s := .method name) (p := e.payload) rfl hm (hb ▸ hd)

end

/-- In a table of methods, a lookup of a name of five bytes and more finds nothing if no name in
the table ends with it; else it finds a record, counted from the start of the first entry whose
name ends with it by the bytes that this name has in front. So a method in the table is found
at the start of its first entry, unless an entry before that has a longer name with this end:
then the lookup succeeds too, but at the start of no entry. -/
theorem lookup_methodTable {entries : List MethodEntry} {image : Image}
    (hb : image.bytes = methodTable entries) (hc : ∀ e ∈ entries, '\x00' ∉ e.name.toList)
    {name : String} (hn : '\x00' ∉ name.toList) (hl : 5 ≤ (utf8 name).length) :
    ((∀ e ∈ entries, ¬ utf8 name <:+ utf8 e.name) →
        ((SymbolFile.create image).1.lookup (.method name)).1 =
          .error (.notFound .method name none)) ∧
      ((∃ e ∈ entries, utf8 name <:+ utf8 e.name) →
        ∃ front e back, entries = front ++ e :: back ∧ utf8 name <:+ utf8 e.name ∧
          (∀ d ∈ front, ¬ utf8 name <:+ utf8 d.name) ∧
          ∃ r : Record .method,
            ((SymbolFile.create image).1.lookup (.method name)).1 = .ok r ∧
            r.start.toNat =
              (methodTable front).length + (utf8 e.name).length - (utf8 name).length) ∧
      ∀ front e back, entries = front ++ e :: back → e.name = name →
        (∀ d ∈ front, d.name ≠ name) →
        ((∀ d ∈ front, ¬ ProperSuffix (utf8 name) (utf8 d.name)) →
          ∃ start : Offset, start.toNat = (methodTable front).length ∧
            ((SymbolFile.create image).1.lookup (.method name)).1 =
              .ok ⟨start, .method e.header⟩) ∧
        ((∃ d ∈ front, ProperSuffix (utf8 name) (utf8 d.name)) →
          ∃ r : Record .method,
            ((SymbolFile.create image).1.lookup (.method name)).1 = .ok r ∧
            ∀ front' d back', entries = front' ++ d :: back' →
              r.start.toNat ≠ (methodTable front').length) := by
  refine ⟨?_, ?_, fun front e back he hs hf => ⟨?_, ?_⟩⟩
  · intro hne
    refine SymbolFile.Outcome.eq_lookup (.notFound rfl ?_ (.method name))
    rw [hb, ← List.append_nil (methodTable entries)]
    apply absent_flatMap (absent_nil (Symbol.method name).needle_ne_nil)
    intro e he
    exact clear_method hn hl (hc e he) (hne e he)
  · intro hex
    obtain ⟨front, e, back, rfl, hs, hf⟩ := exists_first hex
    exact ⟨front, e, back, rfl, hs, hf, lookup_first_suffix hb hc hn hl hf hs⟩
  · intro hp
    subst he
    refine lookup_first_same hb hc hn hl (fun d hd hsuf => hp d hd ⟨hsuf, ?_⟩) hs
    intro heq
    exact hf d hd (utf8_inj heq).symm
  · intro hp
    -- the first of the entries before that have the right end is found within its name
    obtain ⟨d, hd, hsuf⟩ := hp
    obtain ⟨front', d', back', rfl, hs', hf'⟩ :=
      exists_first (p := fun d : MethodEntry => utf8 name <:+ utf8 d.name) ⟨d, hd, hsuf.1⟩
    have hlt : (utf8 name).length < (utf8 d'.name).length :=
      ProperSuffix.length_lt ⟨hs', fun heq => hf d' (by simp) (utf8_inj heq).symm⟩
    rw [List.append_assoc, List.cons_append] at he
    subst he
    obtain ⟨r, hr, hstart⟩ := lookup_first_suffix hb hc hn hl hf' hs'
    refine ⟨r, hr, ?_⟩
    intro front'' d'' back'' h
    have := length_methodTable_ne h (k := (utf8 d'.name).length - (utf8 name).length) (by omega)
      (by rw [d'.length_bytes]; omega)
    omega

/-- Two methods, the first of which ends with the name of the second. -/
def updates : List MethodEntry := [⟨1, "LateUpdate"⟩, ⟨2, "Update"⟩]

theorem lookup_methodTable_updates :
    ((SymbolFile.create ⟨methodTable updates, by decide⟩).1.lookup (.method "Awake")).1 =
        .error (.notFound .method "Awake" none) ∧
      (∃ start : Offset, start.toNat = 0 ∧
        ((SymbolFile.create ⟨methodTable updates, by decide⟩).1.lookup
          (.method "LateUpdate")).1 = .ok ⟨start, .method 1⟩) ∧
      ∃ r : Record .method,
        ((SymbolFile.create ⟨methodTable updates, by decide⟩).1.lookup (.method "Update")).1 =
          .ok r ∧
        ∀ front e back, updates = front ++ e :: back →
          r.start.toNat ≠ (methodTable front).length := by
  have hc : ∀ e ∈ updates, '\x00' ∉ e.name.toList := by decide
  refine ⟨?_, ?_, ?_⟩
  · exact (lookup_methodTable rfl hc (by decide) (by decide)).1 (by decide)
  · exact ((lookup_methodTable rfl hc (by decide) (by decide)).2.2 [] ⟨1, "LateUpdate"⟩
      [⟨2, "Update"⟩] rfl rfl (by simp)).1 (by simp)
  · refine ((lookup_methodTable rfl hc (by decide) (by decide)).2.2 [⟨1, "LateUpdate"⟩]
      ⟨2, "Update"⟩ [] rfl rfl (by decide)).2 ⟨⟨1, "LateUpdate"⟩, List.mem_singleton_self _, ?_⟩
    exact ⟨⟨utf8 "Late", by decide⟩, by decide⟩

end DebugSymbols
