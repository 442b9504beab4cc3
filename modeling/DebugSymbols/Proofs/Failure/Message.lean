import DebugSymbols.Failure
import DebugSymbols.Proofs.Text.Quotation

/-!
# What a message tells

The message of a failure tells which failure it is, by its first two letters (`take_message`). A
message that quotes a key or a path tells what it quotes and everything behind it: the quoted text
ends where it closes itself, and each number ends where its digits do. So the message of a misfit
tells all its fields, and that of an unreadable file its path, as bytes, and the text of the fault
(`message_tells`).
-/

namespace DebugSymbols

namespace Failure

/-- The first two letters of the message. -/
def opening : Failure → List Char
  | notFound .field .. => ['f', 'i']
  | notFound .method .. => ['m', 'e']
  | malformed .. => ['m', 'a']
  | released => ['r', 'e']
  | unreadable .. => ['f', 'a']

theorem take_message (e : Failure) : e.message.toList.take 2 = e.opening := by
  unfold message opening
  cases e with
  | notFound kind => cases kind <;> simp [Kind.word]
  | malformed | released | unreadable => simp

theorem ctorIdx_eq (e : Failure) :
    e.ctorIdx =
      if e.opening = ['m', 'a'] then 1
      else if e.opening = ['r', 'e'] then 2
      else if e.opening = ['f', 'a'] then 3
      else 0 := by
  cases e with
  | notFound kind => cases kind <;> rfl
  | malformed | released | unreadable => rfl

theorem message_ne_of_ctorIdx {e e' : Failure} (h : e.ctorIdx ≠ e'.ctorIdx) :
    e.message ≠ e'.message := by
  intro hm
  have ho : e.opening = e'.opening := by rw [← take_message, hm, take_message]
  apply h
  rw [ctorIdx_eq, ho, ← ctorIdx_eq]

theorem message_malformed_inj {key key' : String}
    {m m' back back' size size' length length' : Offset} :
    (malformed key m back size length).message = (malformed key' m' back' size' length').message ↔
      key = key' ∧ m = m' ∧ back = back' ∧ size = size' ∧ length = length' := by
  unfold message
  simp only [String.append_assoc, String.append_right_inj]
  rw [quotedText_append_inj, String.append_right_inj,
    decimal_append_inj (c := ' ') (by decide) (by decide),
    decimal_append_inj (c := '-') (by decide) (by decide),
    decimal_append_inj (c := ' ') (by decide) (by decide), String.append_left_inj, decimal_inj]
  simp only [UInt64.toNat_inj]
  -- the message has the size before the distance
  exact and_congr_right fun _ => and_congr_right fun _ => and_left_comm

theorem message_unreadable_inj {path path' : Path} {fault fault' : Fault} :
    (unreadable path fault).message = (unreadable path' fault').message ↔
      path.bytes = path'.bytes ∧ fault.message = fault'.message := by
  unfold message
  simp only [String.append_assoc, String.append_right_inj]
  rw [quotedBytes_append_inj, String.append_right_inj]

/-- Failures with different constructors have different messages. The message of a misfit tells its
five fields, whatever the key is, and that of an unreadable file the bytes of its path and the text
of the fault. For a quoted text is told from any text behind it and tells what it quotes, as a text
or as bytes, and it ends at the first quotation mark that is not escaped. -/
theorem message_tells :
    (∀ e e' : Failure, e.ctorIdx ≠ e'.ctorIdx → e.message ≠ e'.message) ∧
      (∀ key key' m m' back back' size size' length length',
        (malformed key m back size length).message =
            (malformed key' m' back' size' length').message ↔
          key = key' ∧ m = m' ∧ back = back' ∧ size = size' ∧ length = length') ∧
      (∀ path path' fault fault',
        (unreadable path fault).message = (unreadable path' fault').message ↔
          path.bytes = path'.bytes ∧ fault.message = fault'.message) ∧
      (∀ s s' rest rest' : String,
        quotedText s ++ rest = quotedText s' ++ rest' ↔ s = s' ∧ rest = rest') ∧
      (∀ (b b' : Bytes) (rest rest' : String),
        quotedBytes b ++ rest = quotedBytes b' ++ rest' ↔ b = b' ∧ rest = rest') ∧
      (∀ s, Quoted.Closed (quotedText s)) ∧ ∀ b, Quoted.Closed (quotedBytes b) :=
  ⟨fun _ _ => message_ne_of_ctorIdx, fun _ _ _ _ _ _ _ _ _ _ => message_malformed_inj,
    fun _ _ _ _ => message_unreadable_inj, fun _ _ _ _ => quotedText_append_inj,
    fun _ _ _ _ => quotedBytes_append_inj, closed_quotedText, closed_quotedBytes⟩

/-- A name and a path that are alike, a NUL and a key that spells it, a stray byte and a path that
spells it. -/
theorem message_tells_alike :
    let e : Failure := .notFound .field "a" none
    let e' : Failure := .unreadable ⟨utf8 "a"⟩ (.other "a")
    e.ctorIdx ≠ e'.ctorIdx ∧ e.message ≠ e'.message ∧
      (malformed "\x00" 1 2 3 4).message ≠ (malformed "\\0" 1 2 3 4).message ∧
      (unreadable ⟨[0xff]⟩ .missing).message ≠ (unreadable ⟨utf8 "\\xFF"⟩ .missing).message := by
  intro e e'
  obtain ⟨hne, hkey, hpath, -⟩ := message_tells
  have hc : e.ctorIdx ≠ e'.ctorIdx := by decide
  refine ⟨hc, hne e e' hc, ?_, ?_⟩
  · intro h
    exact absurd ((hkey _ _ _ _ _ _ _ _ _ _).mp h).1 (by decide)
  · intro h
    exact absurd ((hpath _ _ _ _).mp h).1 (by decide)

end Failure

end DebugSymbols
