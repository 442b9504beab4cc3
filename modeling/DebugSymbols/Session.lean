import DebugSymbols.SymbolFile

/-!
# Sessions

A session has a store and numbered slots that hold symbol files. Every command is answered by one
reply and raises events. A command for a symbol file acts on the file in its slot alone; a new
file or a loaded one takes the slot, one that cannot be loaded leaves it as it was.
-/

namespace DebugSymbols

/-- What a session is told to do. -/
inductive Command where
  | create (slot : Nat) (content : Image)
  | load (slot : Nat) (path : Path)
  /-- Gives a slot's file the standard layout, changed by the distances that are given. -/
  | configure (slot : Nat) (fieldBack? methodBack? : Option Offset)
  | lookup (slot : Nat) (symbol : Symbol)
  | release (slot : Nat)
  | status (slot : Nat)
  | describe (slot : Nat)
  | fetch (path : Path)
  | hasSymbols (program : Path)
  | symbolPath (program : Path)
  | write (path : Path) (content : Image)
  | makeDirectory (path : Path)
  | remove (path : Path)
  deriving DecidableEq

inductive Reply where
  | done
  | failed (reason : Failure)
  | layout (layout : Layout)
  | resolved (kind : Kind) (outcome : Except Failure (Record kind))
  | status (size : Offset) (isEmpty isReleased : Bool) (layout : Layout)
  | text (text : String)
  | content (image : Image)
  | answer (yes : Bool)
  | path (path : Path)
  /-- The slot holds no symbol file. -/
  | vacant
  | refused (fault : Fault)

/-- A store and the symbol files in use. -/
structure Session where
  store : Store := {}
  files : Nat → Option SymbolFile := fun _ => none

namespace Session

def put (s : Session) (slot : Nat) (f : SymbolFile) : Session :=
  { s with files := fun i => if i = slot then some f else s.files i }

/-- The session with a changed store, if the change is granted. -/
def change (s : Session) : Except Fault Store → Session × Reply × List Event
  | .ok store => ({ s with store }, .done, [])
  | .error fault => (s, .refused fault, [])

/-- The standard layout with the distances that are given. -/
def layoutOf (fieldBack? methodBack? : Option Offset) : Layout where
  fieldBack := fieldBack?.getD Layout.standard.fieldBack
  methodBack := methodBack?.getD Layout.standard.methodBack

def onFile (s : Session) (slot : Nat) (act : SymbolFile → Session × Reply × List Event) :
    Session × Reply × List Event :=
  match s.files slot with
  | some f => act f
  | none => (s, .vacant, [])

def step (s : Session) : Command → Session × Reply × List Event
  | .create slot content =>
    let (f, events) := SymbolFile.create content
    (s.put slot f, .done, events)
  | .load slot path =>
    match SymbolFile.load s.store path with
    | (.ok f, events) => (s.put slot f, .done, events)
    | (.error e, events) => (s, .failed e, events)
  | .configure slot fieldBack? methodBack? =>
    let layout := layoutOf fieldBack? methodBack?
    s.onFile slot fun f => (s.put slot (f.withLayout layout), .layout layout, [])
  | .lookup slot symbol =>
    s.onFile slot fun f =>
      let (outcome, events) := f.lookup symbol
      (s, .resolved symbol.kind outcome, events)
  | .release slot =>
    s.onFile slot fun f =>
      let (f, events) := f.release
      (s.put slot f, .done, events)
  | .status slot =>
    s.onFile slot fun f => (s, .status f.size f.isEmpty f.isReleased f.layout, [])
  | .describe slot => s.onFile slot fun f => (s, .text f.description, [])
  | .fetch path =>
    match SymbolFile.readImage s.store path with
    | .ok image => (s, .content image, [])
    | .error e => (s, .failed e, [])
  | .hasSymbols program => (s, .answer (SymbolFile.isBeside s.store program), [])
  | .symbolPath program => (s, .path program.symbolFile, [])
  | .write path content => s.change (s.store.write path content)
  | .makeDirectory path => s.change (s.store.makeDirectory path)
  | .remove path => s.change (s.store.remove path)

/-- The replies to commands, one after the other, each with its events. -/
def run (s : Session) : List Command → List (Reply × List Event)
  | [] => []
  | c :: rest => (s.step c).2 :: (s.step c).1.run rest

def after (s : Session) (commands : List Command) : Session :=
  commands.foldl (fun s c => (s.step c).1) s

/-- What a run shows: the replies, and the events that a log of the given level shows, if there
is a log. -/
def transcript (log? : Option Level) (commands : List Command) :
    List (Reply × Option (List Event)) :=
  (run {} commands).map fun (reply, events) => (reply, log?.map (Event.shown · events))

end Session

end DebugSymbols
