/-!
# File faults

Why a file cannot be read or changed. Each fault that the system reports has a message and an
error number; a path with a NUL never reaches the system, and a fault may also be known by its
message alone.
-/

namespace DebugSymbols

/-- A reason why a file cannot be used. -/
inductive Fault where
  | missing
  /-- A file stands where the path needs a directory. -/
  | notDirectory
  /-- A directory stands where the path needs a file. -/
  | isDirectory
  | tooLong
  | nulInName
  | other (message : String)
  deriving DecidableEq, Repr

namespace Fault

/-- The system's error number. -/
def code? : Fault → Option Nat
  | missing => some 2
  | notDirectory => some 20
  | isDirectory => some 21
  | tooLong => some 36
  | nulInName | other _ => none

def message : Fault → String
  | missing => "No such file or directory (os error 2)"
  | notDirectory => "Not a directory (os error 20)"
  | isDirectory => "Is a directory (os error 21)"
  | tooLong => "File name too long (os error 36)"
  | nulInName => "file name contained an unexpected NUL byte"
  | other m => m

end Fault

end DebugSymbols
