import DebugSymbols.Offset
import DebugSymbols.Path
import DebugSymbols.Symbol
import DebugSymbols.Text.Numeral
import DebugSymbols.Text.Quoted

/-!
# Events

What a symbol file reports of its own life and of its lookups. An event has a level; a log that
shows traces shows every event, one that shows debug events leaves the traces out.
-/

namespace DebugSymbols

/-- How much detail an event is. -/
inductive Level where
  | trace
  | debug
  deriving DecidableEq, Repr

def Level.word : Level → String
  | trace => "TRACE"
  | debug => "DEBUG"

/-- Whether a log of the first level shows events of the second. -/
def Level.shows : Level → Level → Bool
  | trace, _ => true
  | debug, l => l == debug

inductive Event where
  | created (size : Offset)
  | loaded (path : Path) (size : Offset)
  | searching (kind : Kind) (key : Key)
  | missed (kind : Kind) (key : Key)
  /-- The key is at `matchIndex` and its record starts at `start`. -/
  | resolved (kind : Kind) (key : Key) (matchIndex start : Offset)
  | released (size : Offset)
  deriving DecidableEq

namespace Event

/-- Only the start of a search is a trace. -/
def level : Event → Level
  | searching .. => .trace
  | created .. | loaded .. | missed .. | resolved .. | released .. => .debug

def subject (kind : Kind) (key : Key) : String := kind.word ++ " key '" ++ key.display ++ "'"

def message : Event → String
  | created size => "PdbResolver created from " ++ decimal size.toNat ++ " bytes"
  | loaded path size =>
    "PdbResolver loaded " ++ quotedBytes path.bytes ++ " (" ++ decimal size.toNat ++ " bytes)"
  | searching kind key => "Searching " ++ subject kind key
  | missed kind key => subject kind key ++ " not found"
  | resolved kind key matchIndex start =>
    "Resolved " ++ subject kind key ++ ": match=0x" ++ hex matchIndex.toNat ++
      ", record_start=0x" ++ hex start.toNat
  | released size => "PdbResolver disposed (" ++ decimal size.toNat ++ " bytes released)"

/-- The events that a log of a level shows. -/
def shown (l : Level) (events : List Event) : List Event := events.filter (l.shows ·.level)

theorem shown_trace (events : List Event) : shown .trace events = events := by
  simp [shown, Level.shows]

end Event

end DebugSymbols
