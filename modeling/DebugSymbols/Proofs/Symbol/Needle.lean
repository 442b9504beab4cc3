import DebugSymbols.Proofs.Text.Ascii
import DebugSymbols.Symbol

/-!
# What a symbol is found by

`Symbol.needle` writes a symbol's key byte by byte: `?`, the name, `@`, the owner and `@` for a
field, the name and a NUL for a method. `Symbol.Names s name owner?` says under which names a
symbol is reported; joined names are cut at their first `@`, and names without one are a name
without an owner.
-/

namespace DebugSymbols

namespace Symbol

/-- The bytes that a symbol is found by. -/
def needle : Symbol → Bytes
  | field name owner => 0x3f :: (utf8 name ++ 0x40 :: (utf8 owner ++ [0x40]))
  | joined names => 0x3f :: (utf8 names ++ [0x40])
  | method name => utf8 name ++ [0]

theorem bytes_key (s : Symbol) : s.key.bytes = s.needle := by
  have hq : utf8 "?" = [0x3f] := by decide
  have ha : utf8 "@" = [0x40] := by decide
  have hz : utf8 "\x00" = [0] := by decide
  cases s <;>
    simp only [key, Key.field, Key.joined, Key.method, Key.bytes, needle, utf8_append, hq, ha, hz,
      List.append_assoc, List.cons_append, List.nil_append]

theorem needle_ne_nil (s : Symbol) : s.needle ≠ [] := by
  cases s <;> simp [needle]

/-- The own name and the owner, if there is one, that a symbol is asked for by. -/
inductive Names : Symbol → String → Option String → Prop where
  | field (name owner : String) : Names (.field name owner) name (some owner)
  | cut {name : String} (h : '@' ∉ name.toList) (owner : String) :
      Names (.joined (name ++ "@" ++ owner)) name (some owner)
  | whole {names : String} (h : '@' ∉ names.toList) : Names (.joined names) names none
  | method (name : String) : Names (.method name) name none

end Symbol

theorem exists_cut {names : String} (h : '@' ∈ names.toList) :
    ∃ name owner, names = name ++ "@" ++ owner ∧ '@' ∉ name.toList := by
  obtain ⟨front, back, he, hf⟩ := List.eq_append_cons_of_mem h
  refine ⟨String.ofList front, String.ofList back, String.toList_inj.mp ?_, by simpa using hf⟩
  simp [he]

theorem question_not_mem {text : String} (h : '?' ∉ text.toList) : 0x3f ∉ utf8 text := fun hm =>
  h ((mem_utf8_iff (c := '?') (by decide)).mp hm)

theorem nul_not_mem {text : String} (h : '\x00' ∉ text.toList) : 0 ∉ utf8 text := fun hm =>
  h ((mem_utf8_iff (c := '\x00') (by decide)).mp hm)

theorem Symbol.names_iff {s : Symbol} {name : String} {owner? : Option String} :
    s.Names name owner? ↔ s.reported = (name, owner?) := by
  refine ⟨?_, ?_⟩
  · intro h
    cases h with
    | field | method => rfl
    | cut h owner => exact splitOwner_append h owner
    | whole h => exact splitOwner_of_not_mem h
  · intro h
    cases s with
    | field name' owner' => cases h; exact .field _ _
    | method name' => cases h; exact .method _
    | joined names =>
      by_cases ha : '@' ∈ names.toList
      · obtain ⟨n, o, rfl, hn⟩ := exists_cut ha
        rw [reported, splitOwner_append hn] at h
        cases h
        exact .cut hn _
      · rw [reported, splitOwner_of_not_mem ha] at h
        cases h
        exact .whole ha

end DebugSymbols
