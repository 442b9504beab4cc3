import DebugSymbols.Event
import DebugSymbols.Failure
import DebugSymbols.Layout
import DebugSymbols.Record
import DebugSymbols.Store

/-!
# Symbol files

A symbol file holds an image until it is released, and a layout. Each operation gives its result
and the events that it raises.

`lookup` resolves a symbol: it searches the symbol's key, goes back from its first occurrence by
the distance that the layout has for the symbol's kind, and reads the record there. The record is
found, the key is missing, the record does not fit into the image, or the image has been
released.
-/

namespace DebugSymbols

/-- An image, unless it has been released, and the layout in force. -/
structure SymbolFile where
  image? : Option Image
  layout : Layout := .standard
  deriving DecidableEq

namespace SymbolFile

def create (image : Image) : SymbolFile × List Event :=
  (⟨some image, .standard⟩, [.created image.size])

/-- Reads a file of a store, by the path that reports give. -/
def readImage (store : Store) (path : Path) : Except Failure Image :=
  match store.read path with
  | .ok image => .ok image
  | .error fault => .error (.unreadable path fault)

def load (store : Store) (path : Path) : Except Failure SymbolFile × List Event :=
  match readImage store path with
  | .ok image => (.ok ⟨some image, .standard⟩, [.loaded path image.size])
  | .error e => (.error e, [])

def isBeside (store : Store) (program : Path) : Bool := store.isFile program.symbolFile

def withLayout (f : SymbolFile) (layout : Layout) : SymbolFile := { f with layout }

def size (f : SymbolFile) : Offset :=
  match f.image? with
  | some image => image.size
  | none => 0

def isEmpty (f : SymbolFile) : Bool := f.size == 0

def isReleased (f : SymbolFile) : Bool := f.image?.isNone

/-- Gives the image up; only the first time tells. -/
def release (f : SymbolFile) : SymbolFile × List Event :=
  match f.image? with
  | some image => ({ f with image? := none }, [.released image.size])
  | none => (f, [])

/-- The record that stands a distance before an offset. -/
def recordBefore? (image : Image) (k : Kind) (m back : Offset) : Option (Record k) :=
  (Offset.sub? m back).bind (Record.read? image k)

def lookup (f : SymbolFile) (s : Symbol) : Except Failure (Record s.kind) × List Event :=
  match f.image? with
  | none => (.error .released, [])
  | some image =>
    match image.find? s.key.bytes with
    | none =>
      (.error (.notFound s.kind s.reported.1 s.reported.2),
        [.searching s.kind s.key, .missed s.kind s.key])
    | some m =>
      match recordBefore? image s.kind m (f.layout.back s.kind) with
      | none =>
        (.error (.malformed s.key.display m (f.layout.back s.kind) s.kind.recordSize image.size),
          [.searching s.kind s.key])
      | some r => (.ok r, [.searching s.kind s.key, .resolved s.kind s.key m r.start])

def description (f : SymbolFile) : String :=
  "PdbResolver \x7b buffer: " ++
    (match f.image? with
      | some image => "Some(" ++ image.description ++ ")"
      | none => "None") ++
    ", config: " ++ f.layout.description ++ " \x7d"

theorem recordBefore?_eq_some_iff {image : Image} {k : Kind} {m back : Offset} {r : Record k} :
    recordBefore? image k m back = some r ↔
      m.toNat = r.start.toNat + back.toNat ∧
        r.start.toNat + k.recordSize.toNat ≤ image.bytes.length ∧
        r.payload.encode = (image.bytes.drop r.start.toNat).take k.recordSize.toNat := by
  simp only [recordBefore?, Option.bind_eq_some_iff, Offset.sub?_eq_some_iff,
    Record.read?_eq_some_iff]
  constructor
  · rintro ⟨_, hm, rfl, hl, he⟩
    exact ⟨hm, hl, he⟩
  · rintro ⟨hm, hl, he⟩
    exact ⟨_, hm, rfl, hl, he⟩

theorem recordBefore?_eq_none_iff {image : Image} {k : Kind} {m back : Offset} :
    recordBefore? image k m back = none ↔
      m.toNat < back.toNat ∨
        image.bytes.length < m.toNat - back.toNat + k.recordSize.toNat := by
  rw [recordBefore?]
  rcases h : Offset.sub? m back with _ | start
  · rw [Offset.sub?_eq_none_iff] at h
    simp [h]
  · rw [Offset.sub?_eq_some_iff] at h
    rw [Option.bind_some, ← Option.not_isSome_iff_eq_none, Record.isSome_read?]
    omega

end SymbolFile

end DebugSymbols
