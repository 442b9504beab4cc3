import DebugSymbols.Offset
import DebugSymbols.Symbol
import DebugSymbols.Text.Numeral

/-!
# Layouts

A layout says how far before its key the record of a symbol starts, for each kind of symbol.
Other versions of the file format have other distances.
-/

namespace DebugSymbols

/-- The distances from the start of a record to the key behind it. -/
@[ext]
structure Layout where
  fieldBack : Offset := 6
  methodBack : Offset := 7
  deriving DecidableEq

namespace Layout

def standard : Layout := {}

def back (l : Layout) : Kind → Offset
  | .field => l.fieldBack
  | .method => l.methodBack

def withBack (l : Layout) (k : Kind) (n : Offset) : Layout :=
  match k with
  | .field => { l with fieldBack := n }
  | .method => { l with methodBack := n }

theorem back_withBack (l : Layout) (k k' : Kind) (n : Offset) :
    (l.withBack k n).back k' = if k' = k then n else l.back k' := by
  cases k <;> cases k' <;> rfl

def description (l : Layout) : String :=
  "ResolverConfig \x7b field_back_offset: " ++ decimal l.fieldBack.toNat ++
    ", method_back_offset: " ++ decimal l.methodBack.toNat ++ " \x7d"

end Layout

end DebugSymbols
