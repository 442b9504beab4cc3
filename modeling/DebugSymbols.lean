import DebugSymbols.Bytes
import DebugSymbols.Event
import DebugSymbols.Failure
import DebugSymbols.Fault
import DebugSymbols.Image
import DebugSymbols.Layout
import DebugSymbols.Offset
import DebugSymbols.Path
import DebugSymbols.Proofs.Bytes.Border
import DebugSymbols.Proofs.Bytes.Mark
import DebugSymbols.Proofs.Bytes.Occurrence
import DebugSymbols.Proofs.Bytes.Search
import DebugSymbols.Proofs.Image.Range
import DebugSymbols.Proofs.Lookup.FieldTable
import DebugSymbols.Proofs.Lookup.Joined
import DebugSymbols.Proofs.Lookup.MethodTable
import DebugSymbols.Proofs.Lookup.Misfit
import DebugSymbols.Proofs.Lookup.Outcome
import DebugSymbols.Proofs.Lookup.PartialKey
import DebugSymbols.Proofs.Lookup.Planted
import DebugSymbols.Proofs.Lookup.SharedKey
import DebugSymbols.Proofs.Lookup.Surroundings
import DebugSymbols.Proofs.Path.Parts
import DebugSymbols.Proofs.Path.Stem
import DebugSymbols.Proofs.Path.SymbolPath
import DebugSymbols.Proofs.Record.Reads
import DebugSymbols.Proofs.Session.Log
import DebugSymbols.Proofs.Session.Origin
import DebugSymbols.Proofs.Session.Reading
import DebugSymbols.Proofs.Store.Way
import DebugSymbols.Proofs.Symbol.Needle
import DebugSymbols.Proofs.Text.Ascii
import DebugSymbols.Proofs.Text.Digits
import DebugSymbols.Proofs.Text.Substring
import DebugSymbols.Proofs.Text.Unquote
import DebugSymbols.Record
import DebugSymbols.Session
import DebugSymbols.Store
import DebugSymbols.Symbol
import DebugSymbols.SymbolFile
import DebugSymbols.Text.Numeral
import DebugSymbols.Text.Printable
import DebugSymbols.Text.Quoted
import DebugSymbols.Text.Utf8
import DebugSymbols.Word
import DebugSymbols.Proofs.Failure.Message
import DebugSymbols.Proofs.Lookup.Distance
import DebugSymbols.Proofs.Lookup.ShownKey
import DebugSymbols.Proofs.Record.Whole
