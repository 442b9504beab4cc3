import DebugSymbols.Proofs.Text.Unquote

/-!
# Where a quoted text ends

A quoted text closes itself: behind its first quotation mark, the first one that no backslash
escapes is its last, whatever text follows (`Closed`). A quoted text and the text behind it can be
told from one another, and the quoted text from what it quotes, be it a text or bytes
(`quotedText_append_inj`, `quotedBytes_append_inj`).
-/

namespace DebugSymbols

namespace Quoted

open Utf8 (Piece pieces)

/-- The text before the first quotation mark that is not escaped, and the text behind it. A
backslash escapes the character behind it, unless it is escaped itself; `escaped` says so of the
first character. -/
def splitAtMark? (escaped : Bool) : List Char → Option (List Char × List Char)
  | [] => none
  | c :: rest =>
    if c = '\x22' ∧ escaped = false then some ([], rest)
    else
      (splitAtMark? (c = '\\' && !escaped) rest).map fun r => (c :: r.1, r.2)

theorem splitAtMark?_cons {c : Char} (h : c ≠ '\x22' ∧ c ≠ '\\') (rest : List Char) :
    splitAtMark? false (c :: rest) = (splitAtMark? false rest).map fun r => (c :: r.1, r.2) := by
  simp [splitAtMark?, h.1, h.2]

theorem splitAtMark?_backslash (e : Char) (rest : List Char) :
    splitAtMark? false ('\\' :: e :: rest) =
      (splitAtMark? false rest).map fun r => ('\\' :: e :: r.1, r.2) := by
  simp [splitAtMark?, Function.comp_def]

theorem splitAtMark?_plain_append {cs : List Char} (h : Plain cs) (rest : List Char) :
    splitAtMark? false (cs ++ rest) =
      (splitAtMark? false rest).map fun r => (cs ++ r.1, r.2) := by
  induction cs with
  | nil => simp
  | cons c cs ih =>
    obtain ⟨hc, hcs⟩ := plain_cons.mp h
    rw [List.cons_append, splitAtMark?_cons hc, ih hcs, Option.map_map]
    rfl

theorem splitAtMark?_escape_append (p : Piece) (rest : List Char) :
    splitAtMark? false (escape p ++ rest) =
      (splitAtMark? false rest).map fun r => (escape p ++ r.1, r.2) := by
  rcases escape_cases p with ⟨c, -, he, hc⟩ | ⟨e, cs, he, hcs⟩
  · rw [he]
    exact splitAtMark?_cons hc rest
  · rw [he, List.cons_append, List.cons_append, splitAtMark?_backslash,
      splitAtMark?_plain_append hcs, Option.map_map]
    rfl

/-- No piece is written with a quotation mark that is not escaped. -/
theorem splitAtMark?_flatMap_escape_append (ps : List Piece) (rest : List Char) :
    splitAtMark? false (ps.flatMap escape ++ '\x22' :: rest) =
      some (ps.flatMap escape, rest) := by
  induction ps with
  | nil => simp [splitAtMark?]
  | cons p ps ih =>
    rw [List.flatMap_cons, List.append_assoc, splitAtMark?_escape_append, ih]
    rfl

theorem quoted_append_inj {ps qs : List Piece} {rest rest' : List Char} :
    quoted ps ++ rest = quoted qs ++ rest' ↔ ps = qs ∧ rest = rest' := by
  constructor
  · intro h
    have hr := congrArg unquote? h
    rw [unquote?_quoted_append, unquote?_quoted_append] at hr
    cases hr
    exact ⟨rfl, rfl⟩
  · rintro ⟨rfl, rfl⟩
    rfl

theorem pieces_inj {b b' : Bytes} : pieces b = pieces b' ↔ b = b' := by
  refine ⟨?_, fun h => h ▸ rfl⟩
  intro h
  rw [← Utf8.flatMap_bytes_pieces b, h, Utf8.flatMap_bytes_pieces]

theorem map_char_inj {cs ds : List Char} : cs.map Piece.char = ds.map Piece.char ↔ cs = ds :=
  List.map_inj_right fun _ _ h => Piece.char.inj h

/-- A quoted text whose last quotation mark is the first unescaped one behind the one it starts
with, and stays so whatever follows. -/
def Closed (q : String) : Prop :=
  ∃ body, q.toList = '\x22' :: (body ++ ['\x22']) ∧
    ∀ rest, splitAtMark? false (body ++ '\x22' :: rest) = some (body, rest)

theorem closed_quoted (ps : List Piece) : Closed (String.ofList (quoted ps)) :=
  ⟨ps.flatMap escape, String.toList_ofList, splitAtMark?_flatMap_escape_append ps⟩

end Quoted

open Quoted

theorem closed_quotedText (s : String) : Closed (quotedText s) := closed_quoted _

theorem closed_quotedBytes (b : Bytes) : Closed (quotedBytes b) := closed_quoted _

/-- A quoted text is told from the text behind it, and tells what it quotes. -/
theorem quotedText_append_inj {s s' rest rest' : String} :
    quotedText s ++ rest = quotedText s' ++ rest' ↔ s = s' ∧ rest = rest' := by
  rw [← String.toList_inj, String.toList_append, String.toList_append, quotedText, quotedText,
    String.toList_ofList, String.toList_ofList, quoted_append_inj, map_char_inj, String.toList_inj,
    String.toList_inj]

theorem quotedBytes_append_inj {b b' : Bytes} {rest rest' : String} :
    quotedBytes b ++ rest = quotedBytes b' ++ rest' ↔ b = b' ∧ rest = rest' := by
  rw [← String.toList_inj, String.toList_append, String.toList_append, quotedBytes, quotedBytes,
    String.toList_ofList, String.toList_ofList, quoted_append_inj, pieces_inj, String.toList_inj]

end DebugSymbols
