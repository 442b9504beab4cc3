import DebugSymbols.Session

/-!
# Where a slot's file comes from

A command fills a slot when it puts a new image there: `create`, or a `load` whose file can be
read at that moment. `FilledWith s slot commands image since`: in a session from `s`, the last
command that filled the slot filled it with `image`, and `since` are the commands behind it.

What a slot holds then is `held image layout released`, where `layout` is the last one given to
the slot and `released` says whether it was released, both among `since` alone. So an answer
from a slot (`Query.answer`) is a function of these three and of what is asked: the store, the
other slots, failed loads and earlier questions have no part in it.
-/

namespace DebugSymbols

namespace Session

/-- A command, carried out in a session, puts an image into a slot. -/
inductive Fills (s : Session) (slot : Nat) : Command → Image → Prop where
  | create (image : Image) : Fills s slot (.create slot image) image
  | load {path : Path} {image : Image} : s.store.read path = .ok image →
      Fills s slot (.load slot path) image

/-- None of the commands, carried out one after the other, fills a slot. -/
def Spares (slot : Nat) : Session → List Command → Prop
  | _, [] => True
  | s, c :: rest => (∀ image, ¬ Fills s slot c image) ∧ Spares slot (s.step c).1 rest

/-- The last command that filled a slot did so with `image`; `since` are the commands behind
it. -/
def FilledWith (s : Session) (slot : Nat) (commands : List Command) (image : Image)
    (since : List Command) : Prop :=
  ∃ before c, commands = before ++ c :: since ∧ Fills (s.after before) slot c image ∧
    Spares slot ((s.after before).step c).1 since

def givenLayout? (slot : Nat) : Command → Option Layout
  | .configure i fieldBack? methodBack? =>
    if i = slot then some (layoutOf fieldBack? methodBack?) else none
  | _ => none

/-- The last layout that commands give to the file in a slot, the standard one if none. -/
def lastLayout (slot : Nat) (commands : List Command) : Layout :=
  (commands.filterMap (givenLayout? slot)).getLast?.getD .standard

def releasedIn (slot : Nat) (commands : List Command) : Bool := decide (.release slot ∈ commands)

/-- The symbol file with an image, unless that has been released. -/
def held (image : Image) (layout : Layout) (released : Bool) : SymbolFile where
  image? := if released then none else some image
  layout := layout

inductive Query where
  | lookup (symbol : Symbol)
  | status
  | describe

namespace Query

def command (slot : Nat) : Query → Command
  | lookup symbol => .lookup slot symbol
  | status => .status slot
  | describe => .describe slot

def answer (f : SymbolFile) : Query → Reply × List Event
  | lookup symbol => (.resolved symbol.kind (f.lookup symbol).1, (f.lookup symbol).2)
  | status => (.status f.size f.isEmpty f.isReleased f.layout, [])
  | describe => (.text f.description, [])

end Query

theorem step_query {s : Session} {slot : Nat} {f : SymbolFile} (h : s.files slot = some f)
    (q : Query) : s.step (q.command slot) = (s, q.answer f) := by
  cases q <;> simp only [Query.command, Query.answer, step, onFile, h]

/-! ## One command -/

theorem put_files (s : Session) (slot i : Nat) (f : SymbolFile) :
    (s.put slot f).files i = if i = slot then some f else s.files i := rfl

theorem Fills.files_step {s : Session} {slot : Nat} {c : Command} {image : Image}
    (h : Fills s slot c image) : (s.step c).1.files slot = some ⟨some image, .standard⟩ := by
  cases h with
  | create => simp [step, SymbolFile.create, put_files]
  | load h => simp [step, SymbolFile.load, SymbolFile.readImage, h, put_files]

/-- What a command that does not fill a slot makes of the file in it. -/
def settle (slot : Nat) (f : SymbolFile) (c : Command) : SymbolFile where
  image? := if c = .release slot then none else f.image?
  layout := (givenLayout? slot c).getD f.layout

theorem release_eq (f : SymbolFile) : f.release.1 = { f with image? := none } := by
  unfold SymbolFile.release
  rcases f with ⟨_ | image, layout⟩ <;> rfl

/-- A command about a file changes the slot that it names, and no other. -/
theorem files_onFile_put (s : Session) (i slot : Nat) (g : SymbolFile → SymbolFile)
    (r : SymbolFile → Reply × List Event) :
    (s.onFile i fun f => (s.put i (g f), r f)).1.files slot =
      (s.files slot).map fun f => if i = slot then g f else f := by
  unfold onFile
  by_cases hi : i = slot
  · subst hi
    rcases hf : s.files i with _ | f <;> simp [hf, put_files]
  · have hs : slot ≠ i := fun h => hi h.symm
    rcases s.files i with _ | f <;> simp [put_files, hi, hs]

theorem files_onFile_keep (s : Session) (i slot : Nat) (r : SymbolFile → Reply × List Event) :
    (s.onFile i fun f => (s, r f)).1.files slot = s.files slot := by
  unfold onFile
  rcases s.files i with _ | f <;> rfl

theorem files_change (s : Session) (r : Except Fault Store) (slot : Nat) :
    (s.change r).1.files slot = s.files slot := by
  rcases r with _ | _ <;> rfl

theorem map_settle_of_idle {slot : Nat} {c : Command} (hc : c ≠ .release slot)
    (hl : givenLayout? slot c = none) (o : Option SymbolFile) : o.map (settle slot · c) = o := by
  rcases o with _ | f
  · rfl
  · simp [settle, hc, hl]

/-- A command that does not fill a slot settles the file in it. -/
theorem files_step {s : Session} {slot : Nat} {c : Command} (h : ∀ image, ¬ Fills s slot c image) :
    (s.step c).1.files slot = (s.files slot).map (settle slot · c) := by
  cases c with
  | create i image =>
    have hi : i ≠ slot := fun hi => h image (hi ▸ .create image)
    rw [map_settle_of_idle (by simp) rfl]
    simp [step, SymbolFile.create, put_files, Ne.symm hi]
  | load i path =>
    rw [map_settle_of_idle (by simp) rfl]
    -- a load that the store refuses keeps the slot, and `h` excludes the other for this slot
    rcases hr : s.store.read path with fault | image
    · simp [step, SymbolFile.load, SymbolFile.readImage, hr]
    · have hi : i ≠ slot := fun hi => h image (hi ▸ .load hr)
      simp [step, SymbolFile.load, SymbolFile.readImage, hr, put_files, Ne.symm hi]
  | configure i fieldBack? methodBack? =>
    refine (files_onFile_put s i slot (·.withLayout (layoutOf fieldBack? methodBack?))
      fun _ => (.layout (layoutOf fieldBack? methodBack?), [])).trans ?_
    congr 1
    funext f
    by_cases hi : i = slot <;> simp [settle, givenLayout?, SymbolFile.withLayout, hi]
  | release i =>
    refine (files_onFile_put s i slot (fun f => f.release.1) fun f => (.done, f.release.2)).trans ?_
    congr 1
    funext f
    by_cases hi : i = slot <;> simp [settle, givenLayout?, release_eq, hi]
  | lookup i symbol =>
    rw [map_settle_of_idle (by simp) rfl]
    exact files_onFile_keep s i slot fun f =>
      (.resolved symbol.kind (f.lookup symbol).1, (f.lookup symbol).2)
  | status i =>
    rw [map_settle_of_idle (by simp) rfl]
    exact files_onFile_keep s i slot fun f => (.status f.size f.isEmpty f.isReleased f.layout, [])
  | describe i =>
    rw [map_settle_of_idle (by simp) rfl]
    exact files_onFile_keep s i slot fun f => (.text f.description, [])
  | fetch path =>
    rw [map_settle_of_idle (by simp) rfl]
    rcases hr : SymbolFile.readImage s.store path with _ | _ <;> simp [step, hr]
  | hasSymbols | symbolPath => rw [map_settle_of_idle (by simp) rfl]; rfl
  | write | makeDirectory | remove =>
    rw [map_settle_of_idle (by simp) rfl]
    exact files_change s _ slot

/-! ## Runs of commands -/

theorem after_cons (s : Session) (c : Command) (commands : List Command) :
    s.after (c :: commands) = (s.step c).1.after commands := rfl

theorem after_append (s : Session) (before commands : List Command) :
    s.after (before ++ commands) = (s.after before).after commands := List.foldl_append

theorem Spares.files_after {slot : Nat} {commands : List Command} {s : Session}
    (h : Spares slot s commands) :
    (s.after commands).files slot = (s.files slot).map (commands.foldl (settle slot) ·) := by
  induction commands generalizing s with
  | nil => simp [after]
  | cons c rest ih =>
    rw [after_cons, ih h.2, files_step h.1, Option.map_map]
    rfl

/-- Settling a file command by command leaves what the commands together say. -/
theorem foldl_settle (slot : Nat) (commands : List Command) (f : SymbolFile) :
    commands.foldl (settle slot) f =
      { image? := if releasedIn slot commands then none else f.image?
        layout := (commands.filterMap (givenLayout? slot)).getLast?.getD f.layout } := by
  induction commands generalizing f with
  | nil => rfl
  | cons c rest ih =>
    rw [List.foldl_cons, ih]
    have himage : (if releasedIn slot rest then none else (settle slot f c).image?) =
        if releasedIn slot (c :: rest) then none else f.image? := by
      by_cases hc : c = .release slot
      · simp [settle, releasedIn, hc]
      · simp [settle, releasedIn, hc, Ne.symm hc]
    have hlayout : (rest.filterMap (givenLayout? slot)).getLast?.getD (settle slot f c).layout =
        ((c :: rest).filterMap (givenLayout? slot)).getLast?.getD f.layout := by
      rcases hl : givenLayout? slot c with _ | l
      · rw [List.filterMap_cons_none hl]
        simp [settle, hl]
      · rw [List.filterMap_cons_some hl, List.getLast?_cons]
        simp [settle, hl]
    rw [himage, hlayout]

/-- A slot holds the image that it was last filled with, as the commands since then leave it. -/
theorem FilledWith.files_after {s : Session} {slot : Nat} {commands since : List Command}
    {image : Image} (h : FilledWith s slot commands image since) :
    (s.after commands).files slot =
      some (held image (lastLayout slot since) (releasedIn slot since)) := by
  obtain ⟨before, c, rfl, hf, hs⟩ := h
  rw [after_append, after_cons, hs.files_after, hf.files_step, Option.map_some, foldl_settle]
  rfl

theorem filledWith_or_spares (s : Session) (slot : Nat) (commands : List Command) :
    (∃ image since, FilledWith s slot commands image since) ∨ Spares slot s commands := by
  induction commands generalizing s with
  | nil => exact .inr trivial
  | cons d rest ih =>
    rcases ih (s.step d).1 with ⟨image, since, before, c, rfl, hf, hs⟩ | hs
    · exact .inl ⟨image, since, d :: before, c, rfl, hf, hs⟩
    · by_cases hd : ∃ image, Fills s slot d image
      · obtain ⟨image, hd⟩ := hd
        exact .inl ⟨image, rest, [], d, rfl, hd, hs⟩
      · exact .inr ⟨fun image hi => hd ⟨image, hi⟩, hs⟩

/-! ## Transcripts -/

theorem run_append (s : Session) (before commands : List Command) :
    s.run (before ++ commands) = s.run before ++ (s.after before).run commands := by
  induction before generalizing s with
  | nil => rfl
  | cons c rest ih =>
    rw [List.cons_append, run, run, ih]
    rfl

theorem length_run (s : Session) (commands : List Command) :
    (s.run commands).length = commands.length := by
  induction commands generalizing s with
  | nil => rfl
  | cons c rest ih => rw [run, List.length_cons, ih, List.length_cons]

theorem getElem?_transcript (log? : Option Level) (before rest : List Command) (c : Command) :
    (transcript log? (before ++ c :: rest))[before.length]? =
      some (((after {} before).step c).2.1,
        log?.map (Event.shown · ((after {} before).step c).2.2)) := by
  unfold transcript
  rw [List.getElem?_map, run_append,
    List.getElem?_append_right (Nat.le_of_eq (length_run {} before)), length_run, Nat.sub_self]
  rfl

/-! ## Answers -/

theorem answer_held_released (image : Image) (layout : Layout) :
    (∀ symbol, (Query.lookup symbol).answer (held image layout true) =
        (.resolved symbol.kind (.error .released), [])) ∧
      Query.status.answer (held image layout true) = (.status 0 true true layout, []) :=
  ⟨fun _ => rfl, rfl⟩

/-- In every session, a slot that holds a file has been filled, and each answer from it is that of
the image it was last filled with, under the last layout given to it since then, and released or
not since then. Once released, the file has no bytes and every lookup says so without an event,
until the slot is filled again. -/
theorem transcript_query (log? : Option Level) (before rest : List Command) (slot : Nat)
    (q : Query) :
    (((after {} before).files slot).isSome →
        ∃ image since, FilledWith {} slot before image since) ∧
      ∀ image since, FilledWith {} slot before image since →
        (transcript log? (before ++ q.command slot :: rest))[before.length]? =
            some ((q.answer (held image (lastLayout slot since) (releasedIn slot since))).1,
              log?.map (Event.shown ·
                (q.answer (held image (lastLayout slot since) (releasedIn slot since))).2)) ∧
          (.release slot ∈ since →
            (∀ symbol, (Query.lookup symbol).answer
                (held image (lastLayout slot since) (releasedIn slot since)) =
                  (.resolved symbol.kind (.error .released), [])) ∧
              Query.status.answer (held image (lastLayout slot since) (releasedIn slot since)) =
                (.status 0 true true (lastLayout slot since), [])) := by
  refine ⟨?_, fun image since h => ⟨?_, ?_⟩⟩
  · intro ho
    rcases filledWith_or_spares {} slot before with hf | hs
    · exact hf
    · -- nothing filled the slot, which was empty at the start
      rw [hs.files_after] at ho
      cases ho
  · rw [getElem?_transcript, step_query h.files_after]
  · intro hr
    have : releasedIn slot since = true := decide_eq_true hr
    rw [this]
    exact answer_held_released image _

/-- A file is loaded and rewritten, another load fails, and the slot is released. -/
def rewriting : List Command :=
  [.write ⟨[0x61]⟩ ⟨[7, 0], by decide⟩, .load 0 ⟨[0x61]⟩, .write ⟨[0x61]⟩ ⟨[9], by decide⟩,
    .load 0 ⟨[0x62]⟩, .release 0]

theorem transcript_query_rewriting :
    ((after {} rewriting).files 0).isSome ∧
      FilledWith {} 0 rewriting ⟨[7, 0], by decide⟩ (rewriting.drop 2) ∧
      (transcript (some .trace) (rewriting ++ [.status 0]))[5]? =
        some (.status 0 true true .standard, some []) ∧
      .release 0 ∈ rewriting.drop 2 ∧
      (Query.lookup (.method "f")).answer
          (held ⟨[7, 0], by decide⟩ (lastLayout 0 (rewriting.drop 2))
            (releasedIn 0 (rewriting.drop 2))) = (.resolved .method (.error .released), []) := by
  have h : FilledWith {} 0 rewriting ⟨[7, 0], by decide⟩ (rewriting.drop 2) := by
    refine ⟨rewriting.take 1, .load 0 ⟨[0x61]⟩, rfl, .load rfl, ?_, ?_, ?_, trivial⟩
    · rintro _ ⟨⟩
    · intro _ hf
      cases hf with
      | load hr => exact nomatch hr
    · rintro _ ⟨⟩
  have hr : .release 0 ∈ rewriting.drop 2 := by decide
  obtain ⟨hs, ha⟩ := (transcript_query (some .trace) rewriting [] 0 .status).2 _ _ h
  exact ⟨rfl, h, hs, hr, (ha hr).1 (.method "f")⟩

end Session

end DebugSymbols
