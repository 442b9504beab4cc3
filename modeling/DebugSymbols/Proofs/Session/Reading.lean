import DebugSymbols.Proofs.Session.Origin
import DebugSymbols.Proofs.Store.Way

/-!
# Reading the store

In a session, a path is asked for in three ways: whether a program has a symbol file beside it, what
a file holds, and to load it into a slot. All three follow the path to a file of the store
(`Store.FileAt`) and agree on every path and after every history of the store (`reading_agrees`).
Whoever finds a file finds the same content, and a file that is loaded is the one that is created
from that content; whoever finds none reports the same fault, under the path as it was asked for.
-/

namespace DebugSymbols

namespace Session

variable {s : Session} {slot : Nat} {p : Path} {content : Image}

/-! ## Histories of the store -/

theorem rooted_change (h : s.store.Rooted) {r : Except Fault Store}
    (hr : ∀ t, r = .ok t → t.Rooted) : (s.change r).1.store.Rooted := by
  rcases r with fault | t
  · exact h
  · exact hr t rfl

theorem rooted_onFile (h : s.store.Rooted) {act : SymbolFile → Session × Reply × List Event}
    (ha : ∀ f, (act f).1.store = s.store) : (s.onFile slot act).1.store.Rooted := by
  unfold onFile
  rcases s.files slot with _ | f
  · exact h
  · exact (ha f).symm ▸ h

theorem rooted_step (h : s.store.Rooted) (c : Command) : (s.step c).1.store.Rooted := by
  cases c with
  | create => exact h
  | load slot path =>
    rcases hr : s.store.read path with _ | _ <;>
      simp only [step, SymbolFile.load, SymbolFile.readImage, hr] <;> exact h
  | configure | lookup | release | status | describe => exact rooted_onFile h fun _ => rfl
  | fetch path =>
    rcases hr : SymbolFile.readImage s.store path with _ | _ <;> simp only [step, hr] <;> exact h
  | hasSymbols | symbolPath => exact h
  | write => exact rooted_change h fun _ ht => h.write ht
  | makeDirectory => exact rooted_change h fun _ ht => h.makeDirectory ht
  | remove => exact rooted_change h fun _ ht => h.remove ht

theorem rooted_after (h : s.store.Rooted) (commands : List Command) :
    (s.after commands).store.Rooted := by
  induction commands generalizing s with
  | nil => exact h
  | cons c rest ih => exact ih (rooted_step h c)

/-! ## The three ways -/

theorem step_fetch_of_fileAt (h : s.store.FileAt p content) :
    s.step (.fetch p) = (s, .content content, []) := by
  simp only [step, SymbolFile.readImage, Store.read_eq_ok_iff.mpr h]

theorem step_load_of_fileAt (h : s.store.FileAt p content) (slot : Nat) :
    s.step (.load slot p) =
      (s.put slot (SymbolFile.create content).1, .done, [.loaded p content.size]) := by
  simp only [step, SymbolFile.load, SymbolFile.readImage, Store.read_eq_ok_iff.mpr h,
    SymbolFile.create]

theorem exists_step_of_not_fileAt (h : ∀ content, ¬ s.store.FileAt p content) (slot : Nat) :
    ∃ fault, s.step (.fetch p) = (s, .failed (.unreadable p fault), []) ∧
      s.step (.load slot p) = (s, .failed (.unreadable p fault), []) := by
  rcases hr : s.store.read p with fault | content
  · refine ⟨fault, ?_, ?_⟩
    · simp only [step, SymbolFile.readImage, hr]
    · simp only [step, SymbolFile.load, SymbolFile.readImage, hr]
  · exact absurd (Store.read_eq_ok_iff.mp hr) (h content)

theorem exists_fetch_iff :
    (∃ content, (s.step (.fetch p)).2.1 = .content content) ↔
      ∃ content, s.store.FileAt p content := by
  by_cases h : ∃ content, s.store.FileAt p content
  · obtain ⟨content, hc⟩ := h
    rw [step_fetch_of_fileAt hc]
    exact ⟨fun _ => ⟨content, hc⟩, fun _ => ⟨content, rfl⟩⟩
  · obtain ⟨fault, hf, -⟩ := exists_step_of_not_fileAt (not_exists.mp h) 0
    rw [hf]
    simp [h]

theorem load_done_iff :
    (s.step (.load slot p)).2.1 = .done ↔ ∃ content, s.store.FileAt p content := by
  by_cases h : ∃ content, s.store.FileAt p content
  · obtain ⟨content, hc⟩ := h
    rw [step_load_of_fileAt hc]
    exact ⟨fun _ => ⟨content, hc⟩, fun _ => rfl⟩
  · obtain ⟨fault, -, hf⟩ := exists_step_of_not_fileAt (not_exists.mp h) slot
    rw [hf]
    simp [h]

/-- After every history of a session, a program has a symbol file beside it exactly if the path of
that file can be read, and exactly if it can be loaded. Every path can be read and loaded, or
neither. If it can, it leads to a file and ends in the name of that file; what is loaded has the
size of what is read, and its lookups are those of the file created from it. If not, it leads to
no file, and both report the same fault under the path as it is. -/
theorem reading_agrees (before : List Command) (slot : Nat) :
    let s := after {} before
    (∀ p : Path, ∃ yes, (s.step (.hasSymbols p)).2.1 = .answer yes ∧
        (yes = true ↔ ∃ content, (s.step (.fetch p.symbolFile)).2.1 = .content content) ∧
        (yes = true ↔ (s.step (.load slot p.symbolFile)).2.1 = .done)) ∧
      ∀ q : Path,
        (∃ content, s.store.FileAt q content ∧ (∃ dir name, q.Parts dir name []) ∧
            (s.step (.fetch q)).2.1 = .content content ∧
            (s.step (.load slot q)).2.1 = .done ∧
            ∃ f, (s.step (.load slot q)).1.files slot = some f ∧
              f.size.toNat = content.bytes.length ∧
              ∀ symbol, f.lookup symbol = (SymbolFile.create content).1.lookup symbol) ∨
          (∀ content, ¬ s.store.FileAt q content) ∧
            ∃ fault, (s.step (.fetch q)).2.1 = .failed (.unreadable q fault) ∧
              (s.step (.load slot q)).2.1 = .failed (.unreadable q fault) := by
  intro s
  refine ⟨?_, ?_⟩
  · intro p
    refine ⟨s.store.isFile p.symbolFile, rfl, ?_, ?_⟩
    · rw [Store.isFile_iff, exists_fetch_iff]
    · rw [Store.isFile_iff, load_done_iff]
  · intro q
    by_cases hq : ∃ content, s.store.FileAt q content
    · obtain ⟨content, h⟩ := hq
      have hrooted : s.store.Rooted := rooted_after Store.rooted_empty before
      refine .inl ⟨content, h, h.exists_parts hrooted, ?_, ?_, (SymbolFile.create content).1,
        ?_, content.toNat_size, fun _ => rfl⟩
      · rw [step_fetch_of_fileAt h]
      · rw [step_load_of_fileAt h]
      · rw [step_load_of_fileAt h, put_files, if_pos rfl]
    · have h := not_exists.mp hq
      obtain ⟨fault, hf, hl⟩ := exists_step_of_not_fileAt h slot
      exact .inr ⟨h, fault, by rw [hf], by rw [hl]⟩

/-- A program with a symbol file beside it, and one with a directory there. -/
def complete : Path := ⟨utf8 "d//a.exe/."⟩
def bare : Path := ⟨utf8 "b"⟩

def beside : List Command :=
  [.write ⟨utf8 "d/a.pdb"⟩ ⟨[3, 1], by decide⟩, .makeDirectory ⟨utf8 "b.pdb"⟩]

theorem reading_agrees_beside :
    (∃ content, (after {} beside).store.FileAt complete.symbolFile content) ∧
      ((after {} beside).step (.hasSymbols complete)).2.1 = .answer true ∧
      (∃ content, ((after {} beside).step (.fetch complete.symbolFile)).2.1 = .content content) ∧
      ((after {} beside).step (.load 0 complete.symbolFile)).2.1 = .done ∧
      (∃ dir name, complete.symbolFile.Parts dir name []) ∧
      (∀ content, ¬ (after {} beside).store.FileAt bare.symbolFile content) ∧
      ∃ fault,
        ((after {} beside).step (.fetch bare.symbolFile)).2.1 =
            .failed (.unreadable bare.symbolFile fault) ∧
          ((after {} beside).step (.load 0 bare.symbolFile)).2.1 =
            .failed (.unreadable bare.symbolFile fault) := by
  have hfile : ∃ content, (after {} beside).store.FileAt complete.symbolFile content :=
    Store.isFile_iff.mp (by decide +kernel)
  have hnone : ¬ ∃ content, (after {} beside).store.FileAt bare.symbolFile content := by
    rw [← Store.isFile_iff]
    decide +kernel
  obtain ⟨hhas, hread⟩ := reading_agrees beside 0
  obtain ⟨yes, hyes, hfetch, hload⟩ := hhas complete
  rcases hread complete.symbolFile with ⟨_, -, hparts, -, hdone, -⟩ | ⟨h, -⟩
  · obtain rfl : yes = true := hload.mpr hdone
    rcases hread bare.symbolFile with ⟨content, h, -⟩ | ⟨hbare, hfault⟩
    · exact absurd ⟨content, h⟩ hnone
    · exact ⟨hfile, hyes, hfetch.mp rfl, hdone, hparts, hbare, hfault⟩
  · exact absurd hfile (not_exists.mpr h)

end Session

end DebugSymbols
