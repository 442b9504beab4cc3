import DebugSymbols.Text.Utf8

/-!
# Paths

A path is a byte string whose names stand between slashes. Its file name is its last name, where
empty names, and dots behind a slash, do not count; a path has no file name when no name is left,
or when that name is `.` or `..`. `cut?` cuts a path around its file name: into the text before
it, the name, and the trail of slashes and dots behind it (`cut?_eq_some_iff`). The stem of a file
name is what stands before its last dot, unless that dot is its first character.

`symbolFile` is the path of the symbol file that belongs to a program: the program's path with
the extension `pdb`.
-/

namespace DebugSymbols

/-- A path, as the bytes of its text. -/
@[ext]
structure Path where
  bytes : Bytes
  deriving DecidableEq

namespace Path

def slash : UInt8 := 0x2f

def dot : UInt8 := 0x2e

/-- A path around its file name. -/
structure Cut where
  dir : Bytes
  name : Bytes
  trail : Bytes
  deriving DecidableEq

/-- A run of slashes and of dots behind a slash. -/
inductive Trail : Bytes → Prop where
  | nil : Trail []
  | slash {t : Bytes} : Trail t → Trail (slash :: t)
  | slashDot {t : Bytes} : Trail t → Trail (Path.slash :: dot :: t)

/-- A name that names a file: not empty, neither `.` nor `..`, and without a slash. -/
def IsFileName (name : Bytes) : Prop :=
  name ≠ [] ∧ name ≠ [dot] ∧ name ≠ [dot, dot] ∧ slash ∉ name

instance (name : Bytes) : Decidable (IsFileName name) :=
  inferInstanceAs (Decidable (_ ∧ _))

/-- A text read from its end, without the trail that ends it. -/
def dropTrail : Bytes → Bytes
  | [] => []
  | [b] => if b = slash then [] else [b]
  | b :: c :: rest =>
    if b = slash then dropTrail (c :: rest)
    else if b = dot ∧ c = slash then dropTrail rest
    else b :: c :: rest

/-- A path cut around its file name, none when it has no file name. -/
def cut? (p : Path) : Option Cut :=
  let back := dropTrail p.bytes.reverse
  let name := (back.takeWhile (· ≠ slash)).reverse
  if IsFileName name then
    some ⟨(back.dropWhile (· ≠ slash)).reverse, name, p.bytes.drop back.length⟩
  else none

theorem Trail.append {s t : Bytes} (hs : Trail s) (ht : Trail t) : Trail (s ++ t) := by
  induction hs with
  | nil => exact ht
  | slash _ ih => exact .slash ih
  | slashDot _ ih => exact .slashDot ih

theorem dropTrail_cons_slash (rest : Bytes) : dropTrail (slash :: rest) = dropTrail rest := by
  cases rest <;> simp [dropTrail]

theorem dropTrail_cons_dot_slash (rest : Bytes) :
    dropTrail (dot :: slash :: rest) = dropTrail rest := by
  rw [dropTrail, if_neg (by decide), if_pos ⟨rfl, rfl⟩]

theorem dropTrail_reverse_append {t : Bytes} (h : Trail t) (rest : Bytes) :
    dropTrail (t.reverse ++ rest) = dropTrail rest := by
  induction h generalizing rest with
  | nil => rfl
  | slash _ ih => simp [ih, dropTrail_cons_slash]
  | slashDot _ ih => simp [ih, dropTrail_cons_dot_slash]

theorem exists_trail_dropTrail (r : Bytes) : ∃ t, Trail t ∧ r = t.reverse ++ dropTrail r := by
  fun_induction dropTrail r with
  | case1 => exact ⟨[], .nil, rfl⟩
  | case2 => exact ⟨[slash], .slash .nil, rfl⟩
  | case3 b _ => exact ⟨[], .nil, rfl⟩
  | case4 c rest ih =>
    obtain ⟨t, ht, he⟩ := ih
    refine ⟨t ++ [slash], ht.append (.slash .nil), ?_⟩
    rw [List.reverse_append, List.append_assoc, ← he]
    rfl
  | case5 b c rest _ hbc ih =>
    obtain ⟨rfl, rfl⟩ := hbc
    obtain ⟨t, ht, he⟩ := ih
    refine ⟨t ++ [slash, dot], ht.append (.slashDot .nil), ?_⟩
    rw [List.reverse_append, List.append_assoc, ← he]
    rfl
  | case6 b c rest _ _ => exact ⟨[], .nil, rfl⟩

theorem eq_slash_of_dropWhile {r rest : Bytes} {b : UInt8}
    (h : r.dropWhile (· ≠ slash) = b :: rest) : b = slash := by
  induction r with
  | nil => cases h
  | cons x r ih =>
    rw [List.dropWhile_cons] at h
    split at h
    · exact ih h
    · rename_i hx
      cases h
      simpa using hx

theorem dropTrail_reverse_name {name : Bytes} (h : IsFileName name) (rest : Bytes) :
    dropTrail (name.reverse ++ rest) = name.reverse ++ rest := by
  obtain ⟨h0, h1, -, hs⟩ := h
  rw [← List.mem_reverse] at hs
  rcases hr : name.reverse with _ | ⟨b, _ | ⟨c, back⟩⟩
  · simp only [List.reverse_eq_nil_iff] at hr
    exact absurd hr h0
  · rw [hr] at hs
    have hb : b ≠ slash := by rintro rfl; simp at hs
    have hd : b ≠ dot := by
      rintro rfl
      exact h1 (by simpa using congrArg List.reverse hr)
    rcases rest with _ | ⟨c, rest⟩ <;> simp [dropTrail, hb, hd]
  · rw [hr] at hs
    have hb : b ≠ slash := by rintro rfl; simp at hs
    have hc : c ≠ slash := by rintro rfl; simp at hs
    simp [dropTrail, hb, hc]

/-- The cut of a path is the one way to write it as a directory text, a file name and a trail. -/
theorem cut?_eq_some_iff {p : Path} {c : Cut} :
    p.cut? = some c ↔
      p.bytes = c.dir ++ c.name ++ c.trail ∧ IsFileName c.name ∧ Trail c.trail ∧
        (c.dir = [] ∨ c.dir.getLast? = some slash) := by
  obtain ⟨t, ht, he⟩ := exists_trail_dropTrail p.bytes.reverse
  have hp : p.bytes = (dropTrail p.bytes.reverse).reverse ++ t := by
    simpa using congrArg List.reverse he
  constructor
  · intro h
    simp only [cut?] at h
    split at h
    · rename_i hn
      cases h
      have hd : p.bytes.drop (dropTrail p.bytes.reverse).length = t := by
        exact (congrArg (List.drop _) hp).trans (List.drop_left' List.length_reverse)
      refine ⟨?_, hn, hd ▸ ht, ?_⟩
      · simp only
        rw [hd, ← List.reverse_append, List.takeWhile_append_dropWhile, ← hp]
      · simp only [List.reverse_eq_nil_iff, List.getLast?_reverse]
        rcases hw : (dropTrail p.bytes.reverse).dropWhile (· ≠ slash) with _ | ⟨b, rest⟩
        · exact .inl rfl
        · exact .inr (by rw [List.head?_cons, eq_slash_of_dropWhile hw])
    · cases h
  · rintro ⟨hb, hn, htr, hdir⟩
    -- from its end the path is the trail, the name backwards and the directory backwards, which
    -- is empty or starts with a slash: there `takeWhile` stops
    have hback : dropTrail p.bytes.reverse = c.name.reverse ++ c.dir.reverse := by
      rw [hb, List.reverse_append, dropTrail_reverse_append htr, List.reverse_append,
        dropTrail_reverse_name hn]
    have hname : ∀ b ∈ c.name.reverse, decide (b ≠ slash) = true :=
      decide_ne_of_not_mem fun hm => hn.2.2.2 (List.mem_reverse.mp hm)
    have htake : c.dir.reverse.takeWhile (· ≠ slash) = [] ∧
        c.dir.reverse.dropWhile (· ≠ slash) = c.dir.reverse := by
      rcases hdir with hd | hd
      · simp [hd]
      · rw [← List.head?_reverse] at hd
        rcases hr : c.dir.reverse with _ | ⟨b, rest⟩
        · simp
        · rw [hr, List.head?_cons, Option.some.injEq] at hd
          simp [hd]
    simp only [cut?, hback, List.takeWhile_append_of_pos hname,
      List.dropWhile_append_of_pos hname, htake.1, htake.2, List.append_nil, List.reverse_reverse,
      if_pos hn]
    congr 2
    rw [hb, List.length_append, List.length_reverse, List.length_reverse, Nat.add_comm,
      ← List.length_append, List.drop_left]

/-- The parts of a file name before and after its last dot; no second part when there is no dot
or only one in front. -/
def splitName (name : Bytes) : Bytes × Option Bytes :=
  match name.reverse.dropWhile (· ≠ dot) with
  | _ :: b :: rest =>
    ((b :: rest).reverse, some (name.reverse.takeWhile (· ≠ dot)).reverse)
  | _ => (name, none)

def Cut.stem (c : Cut) : Bytes := (splitName c.name).1

/-- The extension of a file name; empty when the name ends in a dot. -/
def Cut.extension? (c : Cut) : Option Bytes := (splitName c.name).2

/-- The path with as many bytes off its end as its extension has. -/
def shortened (p : Path) : Path :=
  match p.cut? with
  | some c => ⟨p.bytes.take (p.bytes.length - (c.extension?.getD []).length)⟩
  | none => p

/-- The path of a program's symbol file. The length of the extension is taken off the text, trail
included, and the file name of what is left gets the new extension; a text that has lost its
file name so stays as it is. -/
def symbolFile (p : Path) : Path :=
  match p.shortened.cut? with
  | some c => ⟨c.dir ++ c.stem ++ utf8 ".pdb"⟩
  | none => p.shortened

inductive Step where
  | stay
  | up
  | into (name : Bytes)
  deriving DecidableEq

/-- The texts between the slashes. -/
def segments : Bytes → List Bytes
  | [] => [[]]
  | b :: rest =>
    if b = slash then [] :: segments rest
    else match segments rest with
      | [] => [[b]]
      | s :: ss => (b :: s) :: ss

def Step.ofSegment (s : Bytes) : Step :=
  if s = [] ∨ s = [dot] then .stay else if s = [dot, dot] then .up else .into s

def steps (p : Path) : List Step := (segments p.bytes).map Step.ofSegment

def isAbsolute (p : Path) : Bool := p.bytes.head? == some slash

end Path

end DebugSymbols
