import DebugSymbols.Text.Utf8

/-!
# Symbols and their keys

A symbol is asked for by its names: a field by its own name and that of its owner, in two texts or
joined by `@` in one, a method by its name alone. A symbol file holds each under a key, and the
key's UTF-8 bytes are what is searched: `?name@owner@` for a field, the name and a NUL for a
method.

A report names a symbol by `reported`, where a joined name is cut at its first `@`
(`splitOwner_append`). A key is shown with each NUL written `\0`.
-/

namespace DebugSymbols

inductive Kind where
  | field
  | method
  deriving DecidableEq, Repr

def Kind.word : Kind → String
  | field => "field"
  | method => "method"

/-- A text that is searched for in a symbol file. -/
@[ext]
structure Key where
  text : String
  deriving DecidableEq

namespace Key

def field (name owner : String) : Key := ⟨"?" ++ name ++ "@" ++ owner ++ "@"⟩

/-- The key of a field, from the two names joined. -/
def joined (names : String) : Key := ⟨"?" ++ names ++ "@"⟩

def method (name : String) : Key := ⟨name ++ "\x00"⟩

def bytes (k : Key) : Bytes := utf8 k.text

def size (k : Key) : Nat := k.bytes.length

def isEmpty (k : Key) : Bool := k.bytes.isEmpty

/-- A text with each NUL as a backslash and a zero. -/
def showNul (cs : List Char) : List Char :=
  cs.flatMap fun c => if c = '\x00' then ['\\', '0'] else [c]

def display (k : Key) : String := String.ofList (showNul k.text.toList)

theorem bytes_inj {k l : Key} : k.bytes = l.bytes ↔ k = l :=
  ⟨fun h => Key.ext (utf8_inj h), fun h => h ▸ rfl⟩

theorem joined_eq_field (name owner : String) :
    joined (name ++ "@" ++ owner) = field name owner := by
  simp [joined, field, String.append_assoc]

end Key

/-- A symbol, by the names that a caller gives. -/
inductive Symbol where
  | field (name owner : String)
  | joined (names : String)
  | method (name : String)
  deriving DecidableEq

/-- The parts of a joined name before and after its first `@`. -/
def splitOwner (names : String) : String × Option String :=
  match names.toList.dropWhile (· ≠ '@') with
  | [] => (names, none)
  | _ :: owner => (String.ofList (names.toList.takeWhile (· ≠ '@')), some (String.ofList owner))

namespace Symbol

def kind : Symbol → Kind
  | field _ _ | joined _ => .field
  | method _ => .method

def key : Symbol → Key
  | field name owner => .field name owner
  | joined names => .joined names
  | method name => .method name

/-- The name and the owner that a report gives. -/
def reported : Symbol → String × Option String
  | field name owner => (name, some owner)
  | joined names => splitOwner names
  | method name => (name, none)

end Symbol

theorem splitOwner_append {name : String} (h : '@' ∉ name.toList) (owner : String) :
    splitOwner (name ++ "@" ++ owner) = (name, some owner) := by
  have ht : (name ++ "@" ++ owner).toList = name.toList ++ '@' :: owner.toList := by simp
  rw [splitOwner, ht, List.dropWhile_append_of_pos (decide_ne_of_not_mem h),
    List.takeWhile_append_of_pos (decide_ne_of_not_mem h)]
  simp

theorem splitOwner_of_not_mem {names : String} (h : '@' ∉ names.toList) :
    splitOwner names = (names, none) := by
  have hd : (names.toList ++ []).dropWhile (· ≠ '@') = [] :=
    List.dropWhile_append_of_pos (decide_ne_of_not_mem h)
  rw [List.append_nil] at hd
  rw [splitOwner, hd]

end DebugSymbols
