import DebugSymbols.Proofs.Lookup.Outcome
import DebugSymbols.Proofs.Session.Origin
import DebugSymbols.Proofs.Text.Digits

/-!
# What a log tells

A log changes no reply, and a log of debug events is the log of all events without its traces. The
lines of a lookup tell its result (`Tells`): none for a released file, one for a record that does
not fit, and two otherwise, the second of which says that the key is missing or else, in
hexadecimal, where the key and its record are. The numbers are read back from that line as digits
up to the first character that is none.
-/

namespace DebugSymbols

def Event.line (e : Event) : String × String := (e.level.word, e.message)

namespace Symbol

def searchLine (s : Symbol) : String × String :=
  ("TRACE", "Searching " ++ s.kind.word ++ " key '" ++ s.key.display ++ "'")

def missLine (s : Symbol) : String × String :=
  ("DEBUG", s.kind.word ++ " key '" ++ s.key.display ++ "' not found")

/-- The line that says where a symbol's key and its record are, with two hexadecimal numbers. -/
def findLine (s : Symbol) (m start : String) : String × String :=
  ("DEBUG", "Resolved " ++ s.kind.word ++ " key '" ++ s.key.display ++ "': match=0x" ++ m ++
    ", record_start=0x" ++ start)

theorem line_searching (s : Symbol) : (Event.searching s.kind s.key).line = s.searchLine := by
  unfold Event.line Event.message Event.subject searchLine
  simp only [String.append_assoc]
  rfl

theorem line_missed (s : Symbol) : (Event.missed s.kind s.key).line = s.missLine := by
  unfold Event.line Event.message Event.subject missLine
  simp only [String.append_assoc]
  rfl

theorem line_resolved (s : Symbol) (m start : Offset) :
    (Event.resolved s.kind s.key m start).line =
      s.findLine (hex m.toNat) (hex start.toNat) := by
  unfold Event.line Event.message Event.subject findLine
  simp only [String.append_assoc]
  rfl

theorem missLine_ne_findLine (s : Symbol) (m start : String) : s.missLine ≠ s.findLine m start := by
  intro h
  -- the texts differ in their first letter
  have hc := congrArg (fun l => l.2.toList.head?) h
  cases s <;> simp [missLine, findLine, kind, Kind.word] at hc

theorem findLine_inj (s : Symbol) {m start m' start' : String} (hm : IsDigits m.toList)
    (hm' : IsDigits m'.toList) (h : s.findLine m start = s.findLine m' start') :
    m = m' ∧ start = start' := by
  have ht := congrArg String.toList (congrArg Prod.snd h)
  simp only [findLine, String.toList_append, List.append_assoc, List.append_cancel_left_eq] at ht
  obtain ⟨hl, hr⟩ := hm.append_inj hm' (by decide) (by decide) ht
  exact ⟨String.toList_inj.mp hl, String.toList_inj.mp (by simpa using hr)⟩

end Symbol

namespace SymbolFile

/-- The lines of a lookup tell its result, and where a record is found they give the first index of
the key and the start of the record. -/
structure Tells (f : SymbolFile) (s : Symbol) (result : Except Failure (Record s.kind))
    (lines : List (String × String)) : Prop where
  released : lines = [] ↔ result = .error .released
  notFound : lines = [s.searchLine, s.missLine] ↔
    ∃ name owner?, result = .error (.notFound s.kind name owner?)
  malformed : lines = [s.searchLine] ↔
    ∃ key m back size length, result = .error (.malformed key m back size length)
  found : (∃ m start, IsDigits m.toList ∧ IsDigits start.toList ∧
      lines = [s.searchLine, s.findLine m start]) ↔ ∃ r, result = .ok r
  numbers : ∀ m start r, IsDigits m.toList → lines = [s.searchLine, s.findLine m start] →
    result = .ok r → ∃ image, f.image? = some image ∧
      Bytes.FirstAt s.key.bytes image.bytes (hexValue m) ∧ hexValue start = r.start.toNat ∧
      hexValue m = hexValue start + (f.layout.back s.kind).toNat

theorem lookup_tells (f : SymbolFile) (s : Symbol) :
    Tells f s (f.lookup s).1 ((f.lookup s).2.map Event.line) := by
  have hne := s.missLine_ne_findLine
  rcases lookup_cases f s with h | ⟨image, hi, ⟨ha, n, o, hn⟩ | ⟨m, hm, h | ⟨r, hb, hl, hp⟩⟩⟩
  · rw [lookup_released h]
    refine ⟨?_, ?_, ?_, ?_, ?_⟩ <;> simp
  · rw [lookup_notFound hi ha hn]
    refine ⟨?_, ?_, ?_, ?_, ?_⟩ <;> simp [s.line_searching, s.line_missed, hne]
  · rw [lookup_malformed hi hm h]
    refine ⟨?_, ?_, ?_, ?_, ?_⟩ <;> simp [s.line_searching]
  · rw [lookup_found hi hm hb hl hp]
    have hlines : [Event.searching s.kind s.key, .resolved s.kind s.key m r.start].map Event.line =
        [s.searchLine, s.findLine (hex m.toNat) (hex r.start.toNat)] := by
      rw [List.map_cons, List.map_cons, s.line_searching, s.line_resolved, List.map_nil]
    refine ⟨by simp, ?_, by simp, ?_, ?_⟩
    · simp [s.line_resolved, Ne.symm (hne _ _)]
    · exact ⟨fun _ => ⟨r, rfl⟩,
        fun _ => ⟨_, _, isDigits_hex m.toNat, isDigits_hex r.start.toNat, hlines⟩⟩
    · -- any digits that give this line are those it was written with
      intro m' start' r' hm' heq hr
      cases hr
      rw [hlines, List.cons.injEq, List.cons.injEq] at heq
      obtain ⟨rfl, rfl⟩ := s.findLine_inj hm' (isDigits_hex m.toNat) heq.2.1.symm
      rw [hexValue_hex, hexValue_hex, s.bytes_key, Layout.toNat_back]
      exact ⟨image, hi, hm, rfl, hb⟩

example :
    let image : Image := ⟨[1, 0, 0, 0, 9, 9, 9] ++ utf8 "f\x00", by decide⟩
    ((SymbolFile.create image).1.lookup (.method "f")).2.map Event.line =
      [("TRACE", "Searching method key 'f\\0'"),
        ("DEBUG", "Resolved method key 'f\\0': match=0x7, record_start=0x0")] := by decide

end SymbolFile

namespace Session

/-- What a run shows, with its events as the lines of a log. -/
def printed (log? : Option Level) (commands : List Command) :
    List (Reply × Option (List (String × String))) :=
  (transcript log? commands).map fun (reply, events?) => (reply, events?.map (·.map Event.line))

theorem getElem?_printed (log? : Option Level) (before rest : List Command) (c : Command) :
    (printed log? (before ++ c :: rest))[before.length]? =
      some (((after {} before).step c).2.1,
        log?.map fun l => (Event.shown l ((after {} before).step c).2.2).map Event.line) := by
  unfold printed
  rw [List.getElem?_map, getElem?_transcript]
  rcases log? with _ | l <;> rfl

theorem map_line_shown_debug (events : List Event) :
    (Event.shown .debug events).map Event.line =
      (events.map Event.line).filter (·.1 ≠ "TRACE") := by
  unfold Event.shown
  rw [List.filter_map]
  congr 2
  funext e
  show Level.shows .debug e.level = decide (e.level.word ≠ "TRACE")
  rcases e.level <;> rfl

theorem printed_none (commands : List Command) :
    printed none commands =
      (printed (some .trace) commands).map fun (reply, _) => (reply, none) := by
  unfold printed transcript
  simp only [List.map_map]
  rfl

theorem printed_debug (commands : List Command) :
    printed (some .debug) commands =
      (printed (some .trace) commands).map fun (reply, lines?) =>
        (reply, lines?.map (·.filter (·.1 ≠ "TRACE"))) := by
  unfold printed transcript
  rw [List.map_map, List.map_map, List.map_map]
  congr 1
  funext entry
  show (entry.1, some _) = (entry.1, some (((Event.shown .trace entry.2).map Event.line).filter _))
  rw [Event.shown_trace, ← map_line_shown_debug]

theorem events_of_load_failed {s : Session} {slot : Nat} {path : Path} {reason : Failure}
    (h : (s.step (.load slot path)).2.1 = .failed reason) :
    (s.step (.load slot path)).2.2 = [] := by
  rcases hr : s.store.read path with fault | image
  · simp only [step, SymbolFile.load, SymbolFile.readImage, hr]
  · simp only [step, SymbolFile.load, SymbolFile.readImage, hr, reduceCtorEq] at h

/-- A log changes no reply, and the lines of debug events are those of all events without the
traces. In a log of all events, the lines of a lookup in a slot that holds a file, released or not,
tell its result; a load that fails has no line. -/
theorem printed_tells (commands before rest : List Command) (slot : Nat) :
    (printed none commands =
        (printed (some .trace) commands).map fun (reply, _) => (reply, none)) ∧
      (printed (some .debug) commands =
        (printed (some .trace) commands).map fun (reply, lines?) =>
          (reply, lines?.map (·.filter (·.1 ≠ "TRACE")))) ∧
      (∀ s f, (after {} before).files slot = some f →
        ∃ result lines,
          (printed (some .trace) (before ++ .lookup slot s :: rest))[before.length]? =
            some (.resolved s.kind result, some lines) ∧ f.Tells s result lines) ∧
      ∀ path reason lines,
        (printed (some .trace) (before ++ .load slot path :: rest))[before.length]? =
          some (.failed reason, some lines) → lines = [] := by
  refine ⟨printed_none commands, printed_debug commands, ?_, ?_⟩
  · intro s f hf
    refine ⟨(f.lookup s).1, (f.lookup s).2.map Event.line, ?_, f.lookup_tells s⟩
    rw [getElem?_printed, Option.map_some, Event.shown_trace]
    have hstep : (after {} before).step (.lookup slot s) =
        (after {} before, .resolved s.kind (f.lookup s).1, (f.lookup s).2) :=
      step_query hf (.lookup s)
    rw [hstep]
  · intro path reason lines h
    rw [getElem?_printed, Option.map_some, Event.shown_trace, Option.some.injEq, Prod.mk.injEq,
      Option.some.injEq] at h
    rw [← h.2, events_of_load_failed h.1, List.map_nil]

def keyed : Image := ⟨[1, 0, 0, 0, 9, 9, 9] ++ (Symbol.method "f").key.bytes, by decide⟩

/-- A lookup in a file that has just been put into a slot, and a load from an empty store. -/
theorem printed_tells_keyed :
    (after {} [.create 0 keyed]).files 0 = some (SymbolFile.create keyed).1 ∧
      (∃ result lines,
        (printed (some .trace) [.create 0 keyed, .lookup 0 (.method "f")])[1]? =
          some (.resolved .method result, some lines) ∧
        (SymbolFile.create keyed).1.Tells (.method "f") result lines) ∧
      ∃ lines, (printed (some .trace) [.create 0 keyed, .load 0 ⟨[0x62]⟩])[1]? =
        some (.failed (.unreadable ⟨[0x62]⟩ .missing), some lines) ∧ lines = [] := by
  obtain ⟨-, -, hlookup, hload⟩ := printed_tells [] [.create 0 keyed] [] 0
  have hfile : (after {} [.create 0 keyed]).files 0 = some (SymbolFile.create keyed).1 := rfl
  have hmissing : (printed (some .trace) [.create 0 keyed, .load 0 ⟨[0x62]⟩])[1]? =
      some (.failed (.unreadable ⟨[0x62]⟩ .missing), some []) := rfl
  exact ⟨hfile, hlookup _ _ hfile, [], hmissing, hload _ _ _ hmissing⟩

end Session

end DebugSymbols
