import DebugSymbols.Bytes

/-!
# UTF-8

`utf8 s` is a text as bytes. In the other direction any byte string falls into pieces: the
characters whose UTF-8 forms it holds, and single stray bytes where none starts. `pieces` cuts it
so, and `Piece.bytes` puts it together again (`flatMap_bytes_pieces`); the pieces of a text's
bytes are its characters (`pieces_encode`). `decode?` reads a byte string that has no stray
bytes.
-/

namespace DebugSymbols

namespace Utf8

def encode (cs : List Char) : Bytes := cs.flatMap String.utf8EncodeChar

@[simp] theorem encode_nil : encode [] = [] := rfl

@[simp] theorem encode_cons (c : Char) (cs : List Char) :
    encode (c :: cs) = String.utf8EncodeChar c ++ encode cs := rfl

@[simp] theorem encode_append (cs ds : List Char) : encode (cs ++ ds) = encode cs ++ encode ds := by
  simp [encode]

/-- The character whose UTF-8 form starts a byte string. -/
def head? (b : Bytes) : Option Char := (b.take 4).toByteArray.utf8DecodeChar? 0

theorem head?_nil : head? [] = none := by
  rcases h : head? [] with _ | c
  · rfl
  · have := ByteArray.le_size_of_utf8DecodeChar?_eq_some h
    have hp := c.utf8Size_pos
    simp at this
    omega

@[simp] theorem head?_utf8EncodeChar_append (c : Char) (rest : Bytes) :
    head? (String.utf8EncodeChar c ++ rest) = some c := by
  have hl : (String.utf8EncodeChar c).length ≤ 4 := by
    rw [String.length_utf8EncodeChar]; exact c.utf8Size_le_four
  rw [head?, List.take_append, List.take_of_length_le hl, List.toByteArray_append]
  exact ByteArray.utf8DecodeChar?_utf8EncodeChar_append

theorem eq_append_of_head? {b : Bytes} {c : Char} (h : head? b = some c) :
    b = String.utf8EncodeChar c ++ b.drop c.utf8Size := by
  have hsz := ByteArray.le_size_of_utf8DecodeChar?_eq_some h
  have he := congrArg (fun a => a.data.toList)
    (String.toByteArray_utf8EncodeChar_of_utf8DecodeChar?_eq_some h)
  simp only [List.size_toByteArray, List.length_take, Nat.zero_add] at hsz
  simp only [List.data_toByteArray, ByteArray.data_extract, Array.toList_extract,
    List.extract_eq_take_drop, Nat.sub_zero, List.drop_zero, List.take_take] at he
  rw [he, Nat.min_eq_left (by omega), List.take_append_drop]

/-- A part of a byte string: a character in UTF-8, or a byte where no character starts. -/
inductive Piece where
  | char (c : Char)
  | byte (b : UInt8)
  deriving DecidableEq, Repr

def Piece.bytes : Piece → Bytes
  | .char c => String.utf8EncodeChar c
  | .byte b => [b]

/-- The pieces of a byte string, each a character where one starts. -/
def pieces : Bytes → List Piece
  | [] => []
  | b :: rest =>
    match head? (b :: rest) with
    | some c => .char c :: pieces (rest.drop (c.utf8Size - 1))
    | none => .byte b :: pieces rest
termination_by b => b.length
decreasing_by all_goals simp only [List.length_drop, List.length_cons]; omega

/-- The text of a byte string, none where it has a stray byte. -/
def decode? (b : Bytes) : Option (List Char) :=
  (pieces b).mapM fun
    | .char c => some c
    | .byte _ => none

@[simp] theorem pieces_nil : pieces [] = [] := by rw [pieces]

theorem pieces_of_head? {b : Bytes} {c : Char} (h : head? b = some c) :
    pieces b = .char c :: pieces (b.drop c.utf8Size) := by
  rcases b with _ | ⟨x, rest⟩
  · rw [head?_nil] at h; cases h
  · have hp := c.utf8Size_pos
    rw [pieces, h]
    simp only [List.cons.injEq, true_and]
    rw [← List.drop_succ_cons (a := x), Nat.sub_add_cancel hp]

@[simp] theorem pieces_utf8EncodeChar_append (c : Char) (rest : Bytes) :
    pieces (String.utf8EncodeChar c ++ rest) = .char c :: pieces rest := by
  rw [pieces_of_head? (head?_utf8EncodeChar_append c rest), ← String.length_utf8EncodeChar,
    List.drop_left]

theorem pieces_cons_of_head?_eq_none {b : UInt8} {rest : Bytes} (h : head? (b :: rest) = none) :
    pieces (b :: rest) = .byte b :: pieces rest := by
  rw [pieces, h]

theorem flatMap_bytes_pieces (b : Bytes) : (pieces b).flatMap Piece.bytes = b := by
  induction hl : b.length using Nat.strongRecOn generalizing b with
  | _ n ih =>
    rcases b with _ | ⟨x, rest⟩
    · simp
    · rcases h : head? (x :: rest) with _ | c
      · rw [pieces_cons_of_head?_eq_none h, List.flatMap_cons,
          ih rest.length (by simp only [List.length_cons] at hl; omega) rest rfl]
        rfl
      · have hp := c.utf8Size_pos
        rw [pieces_of_head? h, List.flatMap_cons,
          ih _ (by rw [List.length_drop, ← hl]; simp only [List.length_cons]; omega) _ rfl]
        exact (eq_append_of_head? h).symm

theorem pieces_encode (cs : List Char) : pieces (encode cs) = cs.map .char := by
  induction cs with
  | nil => simp
  | cons c cs ih => simp [ih]

theorem decode?_encode (cs : List Char) : decode? (encode cs) = some cs := by
  rw [decode?, pieces_encode, List.mapM_map]
  induction cs with
  | nil => rfl
  | cons c cs ih => simp_all [List.mapM_cons]

theorem encode_inj {cs ds : List Char} (h : encode cs = encode ds) : cs = ds := by
  simpa [decode?_encode] using congrArg decode? h

end Utf8

def utf8 (s : String) : Bytes := Utf8.encode s.toList

@[simp] theorem utf8_append (s t : String) : utf8 (s ++ t) = utf8 s ++ utf8 t := by
  simp [utf8]

theorem utf8_inj {s t : String} (h : utf8 s = utf8 t) : s = t :=
  String.toList_inj.mp (Utf8.encode_inj h)

def text? (b : Bytes) : Option String := (Utf8.decode? b).map String.ofList

theorem text?_utf8 (s : String) : text? (utf8 s) = some s := by
  simp [text?, utf8, Utf8.decode?_encode]

end DebugSymbols
