import DebugSymbols.Text.Printable
import DebugSymbols.Text.Utf8

/-!
# Quoted texts

A quoted text stands between quotation marks. NUL, tab, line feed, carriage return, the quotation
mark and the backslash are written with a backslash and one letter; other characters that do not
show as themselves by their code point, as `\u{301}`; the rest as it is. A byte string is
quoted piece by piece, a stray byte as `\xFF`.
-/

namespace DebugSymbols

open Utf8 (Piece)

namespace Quoted

/-- The letter that stands for a character behind a backslash. -/
def letter? (c : Char) : Option Char :=
  if c = '\x00' then some '0'
  else if c = '\t' then some 't'
  else if c = '\n' then some 'n'
  else if c = '\r' then some 'r'
  else if c = '\x22' then some '\x22'
  else if c = '\\' then some '\\'
  else none

def byteDigit (n : Nat) : Char := n.digitChar.toUpper

/-- A piece as it stands in a quoted text. -/
def escape : Piece → List Char
  | .byte b => ['\\', 'x', byteDigit (b.toNat / 16), byteDigit (b.toNat % 16)]
  | .char c =>
    match letter? c with
    | some e => ['\\', e]
    | none =>
      if isPrintable c && !isExtender c then [c]
      else '\\' :: 'u' :: '\x7b' :: (Nat.toDigits 16 c.toNat ++ ['\x7d'])

def quoted (ps : List Piece) : List Char := '\x22' :: (ps.flatMap escape ++ ['\x22'])

end Quoted

def quotedText (s : String) : String := String.ofList (Quoted.quoted (s.toList.map .char))

/-- A byte string between quotation marks, read as UTF-8 where it is. -/
def quotedBytes (b : Bytes) : String := String.ofList (Quoted.quoted (Utf8.pieces b))

end DebugSymbols
