import DebugSymbols.Proofs.Text.Digits
import DebugSymbols.Text.Quoted
import Mathlib

/-!
# Reading quoted texts

`unquote?` reads a quoted text back, up to the first quotation mark that is not escaped, and
gives the text behind it (`unquote?_quoted_append`). So a quoted text shows where it ends, and
different texts have different quoted forms.

An escape is a backslash, the character that it escapes, and characters that are neither a
backslash nor a quotation mark (`escape_cases`).
-/

namespace DebugSymbols

/-- A digit counts the same in either case. -/
theorem digitValue?_toUpper (c : Char) : digitValue? c.toUpper = digitValue? c := by
  by_cases h : c.isLower
  · have hc : 97 ≤ c.toNat ∧ c.toNat ≤ 122 := by
      simpa [Char.isLower, UInt32.le_iff_toNat_le] using h
    have hu : c.toUpper.toNat = c.toNat - 32 := by
      rw [Char.toUpper_eq_of_isLower h, Char.toNat_ofNat, if_pos (.inl (by omega))]
    unfold digitValue?
    simp only [Char.le_def, UInt32.le_iff_toNat_le, Char.toNat_val, hu, Char.reduceToNat]
    grind
  · rw [Char.toUpper_eq_of_not_isLower h]

namespace Quoted

open Utf8 (Piece)

/-! ## The shape of an escape -/

theorem ne_of_letter?_eq_none {c : Char} (h : letter? c = none) : c ≠ '\x22' ∧ c ≠ '\\' := by
  constructor <;> rintro rfl <;> revert h <;> decide

theorem digitValue?_byteDigit {n : Nat} (h : n < 16) : digitValue? (byteDigit n) = some n := by
  rw [byteDigit, digitValue?_toUpper, digitValue?_digitChar h]

def Plain (cs : List Char) : Prop := ∀ c ∈ cs, c ≠ '\x22' ∧ c ≠ '\\'

theorem plain_cons {c : Char} {cs : List Char} :
    Plain (c :: cs) ↔ (c ≠ '\x22' ∧ c ≠ '\\') ∧ Plain cs := List.forall_mem_cons

theorem plain_of_isDigits {cs : List Char} (h : IsDigits cs) : Plain cs := by
  intro c hc
  refine ⟨?_, ?_⟩
  · rintro rfl
    exact h.not_mem (by decide) hc
  · rintro rfl
    exact h.not_mem (by decide) hc

theorem Plain.concat {cs : List Char} (h : Plain cs) {c : Char} (hc : c ≠ '\x22' ∧ c ≠ '\\') :
    Plain (cs ++ [c]) := by
  intro d hd
  rw [List.mem_append, List.mem_singleton] at hd
  rcases hd with hd | rfl
  · exact h d hd
  · exact hc

theorem isDigits_byteDigits {m n : Nat} (hm : m < 16) (hn : n < 16) :
    IsDigits [byteDigit m, byteDigit n] := by
  intro c hc
  rw [List.mem_cons, List.mem_singleton] at hc
  rcases hc with rfl | rfl
  · rw [digitValue?_byteDigit hm]
    rfl
  · rw [digitValue?_byteDigit hn]
    rfl

/-- A piece is written as one plain character, or as a backslash, the character that it escapes
and plain ones. -/
theorem escape_cases (p : Piece) :
    (∃ c, p = .char c ∧ escape p = [c] ∧ c ≠ '\x22' ∧ c ≠ '\\') ∨
      ∃ e cs, escape p = '\\' :: e :: cs ∧ Plain cs := by
  unfold escape
  split
  · rename_i b
    have hb := b.toNat_lt
    exact .inr ⟨_, _, rfl, plain_of_isDigits (isDigits_byteDigits (by omega) (by omega))⟩
  · rename_i c
    split
    · exact .inr ⟨_, _, rfl, by simp [Plain]⟩
    · rename_i hn
      split
      · exact .inl ⟨c, rfl, rfl, ne_of_letter?_eq_none hn⟩
      · have hd := plain_of_isDigits (isDigits_toDigits (by decide : 1 < 16) (by decide) c.toNat)
        exact .inr ⟨_, _, rfl, plain_cons.mpr ⟨by decide, hd.concat (by decide)⟩⟩

/-! ## The reader -/

/-- The character that a letter stands for behind a backslash. -/
def ofLetter? (e : Char) : Option Char :=
  if e = '0' then some '\x00'
  else if e = 't' then some '\t'
  else if e = 'n' then some '\n'
  else if e = 'r' then some '\r'
  else if e = '\x22' then some '\x22'
  else if e = '\\' then some '\\'
  else none

/-- Reads the escape that follows a backslash: its piece and the rest. -/
def readEscape? : List Char → Option (Piece × List Char)
  | [] => none
  | e :: rest =>
    if e = 'x' then
      match rest with
      | h :: l :: rest => some (.byte (UInt8.ofNat (numeralValue 16 [h, l])), rest)
      | _ => none
    else if e = 'u' then
      let digits := rest.tail.takeWhile (· ≠ '\x7d')
      some (.char (Char.ofNat (numeralValue 16 digits)), rest.tail.drop (digits.length + 1))
    else (ofLetter? e).map fun c => (.char c, rest)

theorem length_readEscape? {cs rest : List Char} {p : Piece} (h : readEscape? cs = some (p, rest)) :
    rest.length ≤ cs.length := by
  unfold readEscape? at h
  split at h
  · cases h
  · rename_i e r
    split at h
    · split at h
      · cases h
        simp only [List.length_cons]
        omega
      · cases h
    · split at h
      · cases h
        simp only [List.length_drop, List.length_tail, List.length_cons]
        omega
      · rcases hc : ofLetter? e with _ | c <;> rw [hc] at h <;> cases h
        simp

/-- The pieces up to the closing quotation mark, and the text behind it. -/
def readPieces? : List Char → Option (List Piece × List Char)
  | [] => none
  | c :: rest =>
    if c = '\x22' then some ([], rest)
    else if c = '\\' then
      match _he : readEscape? rest with
      | some (p, rest') => (readPieces? rest').map fun r => (p :: r.1, r.2)
      | none => none
    else (readPieces? rest).map fun r => (.char c :: r.1, r.2)
termination_by cs => cs.length
decreasing_by
  · have := length_readEscape? _he
    simp only [List.length_cons]
    omega
  · simp

def unquote? : List Char → Option (List Piece × List Char)
  | [] => none
  | c :: rest => if c = '\x22' then readPieces? rest else none

/-! ## What is written is read -/

theorem ofLetter?_of_letter? {c e : Char} (h : letter? c = some e) :
    ofLetter? e = some c ∧ e ≠ 'x' ∧ e ≠ 'u' := by
  unfold letter? at h
  repeat' split at h
  all_goals cases h
  all_goals rename_i hc; subst hc; decide

theorem takeWhile_toDigits_append {n : Nat} (rest : List Char) :
    (Nat.toDigits 16 n ++ '\x7d' :: rest).takeWhile (· ≠ '\x7d') = Nat.toDigits 16 n := by
  have hmark : '\x7d' ∉ Nat.toDigits 16 n :=
    (isDigits_toDigits (by decide) (by decide) n).not_mem (by decide)
  rw [List.takeWhile_append_of_pos (decide_ne_of_not_mem hmark)]
  simp

theorem readEscape?_escape {p : Piece} {cs : List Char} (h : escape p = '\\' :: cs)
    (rest : List Char) : readEscape? (cs ++ rest) = some (p, rest) := by
  unfold escape at h
  split at h
  · rename_i b
    cases h
    have hb := b.toNat_lt
    simp only [List.cons_append, List.nil_append, readEscape?, ↓reduceIte, numeralValue,
      List.foldl_cons, List.foldl_nil, digitValue?_byteDigit (show b.toNat / 16 < 16 by omega),
      digitValue?_byteDigit (show b.toNat % 16 < 16 by omega), Option.getD_some]
    rw [show 16 * (16 * 0 + b.toNat / 16) + b.toNat % 16 = b.toNat by omega, UInt8.ofNat_toNat]
  · rename_i c
    split at h
    · rename_i e he
      cases h
      obtain ⟨ho, hx, hu⟩ := ofLetter?_of_letter? he
      simp [readEscape?, hx, hu, ho]
    · rename_i hn
      split at h
      · cases h
        exact absurd rfl (ne_of_letter?_eq_none hn).2
      · cases h
        simp only [List.cons_append, List.append_assoc, List.nil_append, readEscape?,
          Char.reduceEq, ↓reduceIte, List.tail_cons, takeWhile_toDigits_append,
          @numeralValue_toDigits 16 (by decide) (by decide), Char.ofNat_toNat]
        rw [← List.drop_drop, List.drop_left]
        rfl

theorem readPieces?_escape_append (p : Piece) (rest : List Char) :
    readPieces? (escape p ++ rest) = (readPieces? rest).map fun r => (p :: r.1, r.2) := by
  rcases escape_cases p with ⟨c, rfl, he, hq, hb⟩ | ⟨e, cs, he, -⟩
  · rw [he, List.cons_append, List.nil_append, readPieces?, if_neg hq, if_neg hb]
  · rw [he, List.cons_append, readPieces?]
    simp only [Char.reduceEq, ↓reduceIte]
    split
    · rename_i h'
      rw [readEscape?_escape he rest] at h'
      cases h'
      rfl
    · rename_i h'
      rw [readEscape?_escape he rest] at h'
      cases h'

theorem readPieces?_flatMap_escape_append (ps : List Piece) (rest : List Char) :
    readPieces? (ps.flatMap escape ++ '\x22' :: rest) = some (ps, rest) := by
  induction ps with
  | nil => simp [readPieces?]
  | cons p ps ih =>
    rw [List.flatMap_cons, List.append_assoc, readPieces?_escape_append, ih]
    rfl

/-- A quoted text is read back, whatever follows it. -/
theorem unquote?_quoted_append (ps : List Piece) (rest : List Char) :
    unquote? (quoted ps ++ rest) = some (ps, rest) := by
  simp only [quoted, List.cons_append, List.append_assoc, List.nil_append, unquote?, ↓reduceIte]
  exact readPieces?_flatMap_escape_append ps rest

end Quoted

end DebugSymbols
