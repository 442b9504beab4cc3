import DebugSymbols.Text.Numeral

/-!
# Texts of digits

`numeralValue` reads the digits of a base; it undoes the writing in every base up to sixteen
(`numeralValue_toDigits`), so two numbers with one numeral are equal. The numerals of these bases
are texts of hexadecimal digits (`isDigits_toDigits`). Such a text ends where a character follows
that is no digit, so digits in front of that character are told from what stands behind them
(`IsDigits.append_inj`), and a decimal number from the text behind it (`decimal_append_inj`).
-/

namespace DebugSymbols

/-! ## Reading -/

/-- The number that digits of a base write, highest first; a character that is no digit counts
nothing. -/
def numeralValue (base : Nat) (digits : List Char) : Nat :=
  digits.foldl (fun n c => base * n + (digitValue? c).getD 0) 0

theorem digitValue?_digitChar {n : Nat} (h : n < 16) : digitValue? n.digitChar = some n := by
  match n with
  | 0 | 1 | 2 | 3 | 4 | 5 | 6 | 7 | 8 | 9 | 10 | 11 | 12 | 13 | 14 | 15 => rfl
  | _ + 16 => omega

theorem numeralValue_concat (base : Nat) (digits : List Char) (c : Char) :
    numeralValue base (digits ++ [c]) =
      base * numeralValue base digits + (digitValue? c).getD 0 := by
  simp [numeralValue]

theorem numeralValue_toDigits {base : Nat} (h1 : 1 < base) (h16 : base ≤ 16) (n : Nat) :
    numeralValue base (Nat.toDigits base n) = n := by
  induction n using Nat.strongRecOn with
  | _ n ih =>
    rw [Nat.toDigits_eq_if h1]
    split
    · rename_i hn
      simp [numeralValue, digitValue?_digitChar (Nat.lt_of_lt_of_le hn h16)]
    · rename_i hn
      have hr := Nat.mod_lt n (Nat.lt_trans Nat.zero_lt_one h1)
      rw [numeralValue_concat, ih (n / base) (Nat.div_lt_self (by omega) h1),
        digitValue?_digitChar (Nat.lt_of_lt_of_le hr h16)]
      exact Nat.div_add_mod n base

theorem toDigits_inj {base : Nat} (h1 : 1 < base) (h16 : base ≤ 16) {m n : Nat}
    (h : Nat.toDigits base m = Nat.toDigits base n) : m = n := by
  rw [← numeralValue_toDigits h1 h16 m, h, numeralValue_toDigits h1 h16 n]

/-! ## Where digits end -/

def IsDigits (cs : List Char) : Prop := ∀ c ∈ cs, (digitValue? c).isSome = true

instance (cs : List Char) : Decidable (IsDigits cs) := inferInstanceAs (Decidable (∀ c ∈ cs, _))

theorem isDigits_toDigits {base : Nat} (h1 : 1 < base) (h16 : base ≤ 16) (n : Nat) :
    IsDigits (Nat.toDigits base n) := by
  induction n using Nat.strongRecOn with
  | _ n ih =>
    rw [Nat.toDigits_eq_if h1]
    intro c hc
    split at hc
    · rename_i hn
      rw [List.mem_singleton] at hc
      rw [hc, digitValue?_digitChar (Nat.lt_of_lt_of_le hn h16)]
      rfl
    · rename_i hn
      have hr := Nat.mod_lt n (Nat.lt_trans Nat.zero_lt_one h1)
      rw [List.mem_append, List.mem_singleton] at hc
      rcases hc with hc | hc
      · exact ih (n / base) (Nat.div_lt_self (by omega) h1) c hc
      · rw [hc, digitValue?_digitChar (Nat.lt_of_lt_of_le hr h16)]
        rfl

theorem IsDigits.not_mem {cs : List Char} (h : IsDigits cs) {c : Char}
    (hc : digitValue? c = none) : c ∉ cs := by
  intro hm
  have := h c hm
  rw [hc] at this
  cases this

/-- Digits end at the first character that is none. -/
theorem IsDigits.append_inj {a b x y : List Char} {c d : Char} (ha : IsDigits a)
    (hb : IsDigits b) (hc : digitValue? c = none) (hd : digitValue? d = none)
    (h : a ++ c :: x = b ++ d :: y) : a = b ∧ c :: x = d :: y := by
  induction a generalizing b with
  | nil =>
    rcases b with _ | ⟨e, b⟩
    · exact ⟨rfl, h⟩
    · obtain ⟨rfl, -⟩ := List.cons_eq_cons.mp h
      exact absurd List.mem_cons_self (hb.not_mem hc)
  | cons e a ih =>
    rcases b with _ | ⟨e', b⟩
    · obtain ⟨rfl, -⟩ := List.cons_eq_cons.mp h
      exact absurd List.mem_cons_self (ha.not_mem hd)
    · obtain ⟨rfl, hrest⟩ := List.cons_eq_cons.mp h
      obtain ⟨rfl, hxy⟩ := ih (fun g hg => ha g (List.mem_cons_of_mem e hg))
        (fun g hg => hb g (List.mem_cons_of_mem e hg)) hrest
      exact ⟨rfl, hxy⟩

def hexValue (t : String) : Nat := numeralValue 16 t.toList

theorem hexValue_hex (n : Nat) : hexValue (hex n) = n := by
  rw [hexValue, hex, String.toList_ofList]
  exact numeralValue_toDigits (by decide) (by decide) n

theorem isDigits_hex (n : Nat) : IsDigits (hex n).toList := by
  rw [hex, String.toList_ofList]
  exact isDigits_toDigits (by decide) (by decide) n

theorem isDigits_decimal (n : Nat) : IsDigits (decimal n).toList := by
  rw [decimal, String.toList_ofList]
  exact isDigits_toDigits (by decide) (by decide) n

theorem decimal_inj {m n : Nat} : decimal m = decimal n ↔ m = n := by
  refine ⟨?_, fun h => h ▸ rfl⟩
  intro h
  rw [decimal, decimal, String.ofList_inj] at h
  exact toDigits_inj (by decide) (by decide) h

/-- A decimal number in front of a text that does not start with a digit. -/
theorem decimal_append_inj {m n : Nat} {mark x y : String} {c : Char}
    (hm : mark.toList.head? = some c) (hc : digitValue? c = none) :
    decimal m ++ (mark ++ x) = decimal n ++ (mark ++ y) ↔ m = n ∧ x = y := by
  obtain ⟨rest, hr⟩ := List.head?_eq_some_iff.mp hm
  constructor
  · intro h
    have ht := congrArg String.toList h
    simp only [String.toList_append, hr, List.cons_append] at ht
    obtain ⟨hn, hxy⟩ := (isDigits_decimal m).append_inj (isDigits_decimal n) hc hc ht
    rw [List.cons_inj_right, List.append_cancel_left_eq, String.toList_inj] at hxy
    exact ⟨decimal_inj.mp (String.toList_inj.mp hn), hxy⟩
  · rintro ⟨rfl, rfl⟩
    rfl

end DebugSymbols
