import DebugSymbols.Fault
import DebugSymbols.Offset
import DebugSymbols.Path
import DebugSymbols.Symbol
import DebugSymbols.Text.Numeral
import DebugSymbols.Text.Quoted

/-!
# Failures

Why a symbol could not be resolved or a symbol file not be read, and the message that says so.
-/

namespace DebugSymbols

/-- A reason why there is no record or no image. -/
inductive Failure where
  /-- The key of the symbol is not in the image. The report names the symbol as it was asked
  for. -/
  | notFound (kind : Kind) (name : String) (owner? : Option String)
  /-- The key, as shown, is at `matchIndex`, but no record of `recordSize` bytes starts `back`
  bytes before it in an image of `imageSize` bytes. -/
  | malformed (key : String) (matchIndex back recordSize imageSize : Offset)
  | released
  | unreadable (path : Path) (fault : Fault)
  deriving DecidableEq

namespace Failure

/-- A name behind its owner, if it has one. -/
def qualified (name : String) : Option String → String
  | some owner => owner ++ "::" ++ name
  | none => name

def message : Failure → String
  | notFound kind name owner? => kind.word ++ " symbol not found: " ++ qualified name owner?
  | malformed key matchIndex back recordSize imageSize =>
    "malformed buffer: match of " ++ quotedText key ++ " at " ++ decimal matchIndex.toNat ++
      " leaves no room for a " ++ decimal recordSize.toNat ++ "-byte record " ++
      decimal back.toNat ++ " bytes before it (buffer length " ++ decimal imageSize.toNat ++ ")"
  | released => "resolver used after its buffer was disposed"
  | unreadable path fault =>
    "failed to read symbol file " ++ quotedBytes path.bytes ++ ": " ++ fault.message

def cause? : Failure → Option Fault
  | unreadable _ fault => some fault
  | notFound .. | malformed .. | released => none

end Failure

end DebugSymbols
