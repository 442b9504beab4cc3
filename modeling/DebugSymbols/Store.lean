import DebugSymbols.Fault
import DebugSymbols.Image
import DebugSymbols.Path

/-!
# File stores

A store is a tree of directories and files, kept as a list of names with what they name. Paths are
followed from its root, one step at a time: every step starts in a directory, a name must be
known there, `.` and an empty name stay, `..` goes up. Above the root, and at the root of an
absolute path, lies the outside, of which nothing is known but that it is a directory.

`read` gives the content of a file and `isFile` says whether a path leads to one. `write`,
`makeDirectory` and `remove` change the store; directories that a new name needs are made.
-/

namespace DebugSymbols

inductive Node where
  | file (content : Image)
  | directory
  deriving DecidableEq

/-- Where a path has led: to names below the root, innermost first, or outside. -/
inductive Place where
  | within (names : List Bytes)
  | outside
  deriving DecidableEq

def Place.parent : Place → Place
  | within (_ :: names) => within names
  | within [] | outside => outside

def Path.start (p : Path) : Place := if p.isAbsolute then .outside else .within []

def maxNameLength : Nat := 255

/-- The length from which on a path is too long. -/
def pathLengthLimit : Nat := 4096

/-- The fault of a path that is not followed at all. -/
def Path.fault? (p : Path) : Option Fault :=
  if 0 ∈ p.bytes then some .nulInName
  else if p.bytes = [] then some .missing
  else if pathLengthLimit ≤ p.bytes.length then some .tooLong
  else none

/-- Directories and files below a root, each under its names, innermost first. -/
structure Store where
  entries : List (List Bytes × Node) := []

namespace Store

/-- What stands under some names; the root is a directory. -/
def node? (s : Store) : List Bytes → Option Node
  | [] => some .directory
  | name :: names => s.entries.lookup (name :: names)

def nodeAt? (s : Store) : Place → Option Node
  | .within names => s.node? names
  | .outside => some .directory

/-- One step from a place that must be a directory. -/
def enter (s : Store) (here : Place) (step : Path.Step) : Except Fault Place :=
  if s.nodeAt? here ≠ some .directory then .error .notDirectory
  else match step with
    | .stay => .ok here
    | .up => .ok here.parent
    | .into name =>
      if maxNameLength < name.length then .error .tooLong
      else match here with
        | .outside => .error .missing
        | .within names =>
          if (s.node? (name :: names)).isSome then .ok (.within (name :: names))
          else .error .missing

def walk (s : Store) : Place → List Path.Step → Except Fault Place
  | here, [] => .ok here
  | here, step :: steps =>
    match s.enter here step with
    | .ok next => s.walk next steps
    | .error e => .error e

def locate (s : Store) (p : Path) : Except Fault Node :=
  match p.fault? with
  | some e => .error e
  | none =>
    match s.walk p.start p.steps with
    | .error e => .error e
    | .ok place =>
      match s.nodeAt? place with
      | some node => .ok node
      | none => .error .missing

def read (s : Store) (p : Path) : Except Fault Image :=
  match s.locate p with
  | .ok (.file content) => .ok content
  | .ok .directory => .error .isDirectory
  | .error e => .error e

def isFile (s : Store) (p : Path) : Bool :=
  match s.locate p with
  | .ok (.file _) => true
  | _ => false

def insert (s : Store) (names : List Bytes) (node : Node) : Store :=
  ⟨(names, node) :: s.entries.filter (·.1 != names)⟩

def erase (s : Store) (names : List Bytes) : Store :=
  ⟨s.entries.filter (·.1 != names)⟩

/-- The names that steps spell from some names on, whether they are known or not. -/
def spell : List Bytes → List Path.Step → Except Fault (List Bytes)
  | names, [] => .ok names
  | names, .stay :: steps => spell names steps
  | _ :: names, .up :: steps => spell names steps
  | [], .up :: _ => .error .missing
  | names, .into name :: steps =>
    if maxNameLength < name.length then .error .tooLong else spell (name :: names) steps

def target (p : Path) : Except Fault (List Bytes) :=
  match p.fault? with
  | some e => .error e
  | none => if p.isAbsolute then .error .missing else spell [] p.steps

/-- The store with a directory under some names, and with all directories around it. -/
def withDirectory (s : Store) : List Bytes → Except Fault Store
  | [] => .ok s
  | name :: names => do
    let s ← s.withDirectory names
    match s.node? (name :: names) with
    | some .directory => .ok s
    | some (.file _) => .error .notDirectory
    | none => .ok (s.insert (name :: names) .directory)

def makeDirectory (s : Store) (p : Path) : Except Fault Store := do
  s.withDirectory (← target p)

def write (s : Store) (p : Path) (content : Image) : Except Fault Store := do
  match ← target p with
  | [] => .error .isDirectory
  | name :: names =>
    let s ← s.withDirectory names
    if s.node? (name :: names) = some .directory then .error .isDirectory
    else .ok (s.insert (name :: names) (.file content))

def remove (s : Store) (p : Path) : Except Fault Store := do
  let names ← target p
  match s.node? names with
  | some (.file _) => .ok (s.erase names)
  | some .directory => .error .isDirectory
  | none => .error .missing

theorem node?_insert_self (s : Store) (name : Bytes) (names : List Bytes) (node : Node) :
    (s.insert (name :: names) node).node? (name :: names) = some node := by
  simp [insert, node?]

theorem lookup_filter_ne {α β : Type} [BEq α] [LawfulBEq α] {k k' : α} (h : k' ≠ k)
    (l : List (α × β)) : (l.filter (·.1 != k)).lookup k' = l.lookup k' := by
  induction l with
  | nil => rfl
  | cons e l ih =>
    obtain ⟨a, b⟩ := e
    by_cases ha : a = k
    · subst ha
      have hk : (k' == a) = false := by simpa using h
      simp [ih, List.lookup_cons, hk]
    · by_cases hk : k' = a
      · subst hk
        simp [h]
      · have hk' : (k' == a) = false := by simpa using hk
        simp [ha, ih, List.lookup_cons, hk']

theorem node?_insert_of_ne (s : Store) {names names' : List Bytes} (node : Node)
    (h : names' ≠ names) : (s.insert names node).node? names' = s.node? names' := by
  rcases names' with _ | ⟨name, rest⟩
  · rfl
  · have hb : ((name :: rest) == names) = false := by simpa using h
    rw [insert, node?, node?, List.lookup_cons, hb]
    exact lookup_filter_ne h s.entries

end Store

end DebugSymbols
