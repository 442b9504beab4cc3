import DebugSymbols.Proofs.Lookup.Outcome

/-!
# Lookups in a larger image

An image may be a part of a larger one, with bytes in front of it and behind it. What a lookup
finds in the part it finds in the whole as well, at the place to which the bytes in front move it,
if the key does not occur earlier there; bytes behind never bring an earlier occurrence. A key
that is missing in the whole is missing in the part (`lookup_surrounded`).
-/

namespace DebugSymbols

namespace SymbolFile

section
variable {front back : Bytes} {inner outer : Image}
  (hb : outer.bytes = front ++ (inner.bytes ++ back)) {layout : Layout} {s : Symbol}
include hb

theorem exists_lookup_outer {r : Record s.kind}
    (hc : Bytes.Clear s.needle front (inner.bytes ++ back))
    (h : (lookup ⟨some inner, layout⟩ s).1 = .ok r) :
    ∃ start : Offset, start.toNat = r.start.toNat + front.length ∧
      (lookup ⟨some outer, layout⟩ s).1 = .ok ⟨start, r.payload⟩ := by
  obtain ⟨hm, hl, hp⟩ := (lookup_eq_ok_iff rfl).mp h
  have hlen : outer.bytes.length = front.length + (inner.bytes.length + back.length) := by
    rw [hb, List.length_append, List.length_append]
  have hle : r.start.toNat + front.length ≤ outer.bytes.length := by omega
  obtain ⟨start, hstart⟩ := exists_offset hle
  have hmove : start.toNat + layout.distance s.kind =
      front.length + (r.start.toNat + layout.distance s.kind) := by omega
  have hdrop : outer.bytes.drop start.toNat = inner.bytes.drop r.start.toNat ++ back := by
    rw [hb, hstart, Nat.add_comm, ← List.drop_drop, List.drop_left,
      List.drop_append_of_le_length (by omega)]
  refine ⟨start, hstart, (lookup_eq_ok_iff rfl).mpr ⟨?_, ?_, ?_⟩⟩
  · show Bytes.FirstAt s.needle outer.bytes (start.toNat + layout.distance s.kind)
    rw [hmove, hb]
    exact hc.firstAt (hm.append_right back)
  · show start.toNat + s.kind.span ≤ outer.bytes.length
    omega
  · rw [hdrop]
    exact (Payload.reads_append_iff (by rw [List.length_drop]; omega) back).mpr hp

theorem lookup_inner_notFound {k : Kind} {name : String} {owner? : Option String}
    (h : (lookup ⟨some outer, layout⟩ s).1 = .error (.notFound k name owner?)) :
    (lookup ⟨some inner, layout⟩ s).1 = .error (.notFound k name owner?) := by
  obtain ⟨hk, ha, hs⟩ := (lookup_eq_notFound_iff rfl).mp h
  rw [hb] at ha
  exact (lookup_eq_notFound_iff rfl).mpr ⟨hk, ha.of_append, hs⟩

end

/-- A record that is found in an image is found in every larger one in which the key does not
occur in front of that image, moved by as much; with nothing in front it is found as it is,
whatever stands behind. A symbol that is not found in the larger image is not found in it. -/
theorem lookup_surrounded {front back : Bytes} {inner outer : Image}
    (hb : outer.bytes = front ++ inner.bytes ++ back) (layout : Layout) (s : Symbol) :
    (∀ r, (lookup ⟨some inner, layout⟩ s).1 = .ok r →
        (∀ i, i < front.length → ¬ Bytes.OccursAt s.key.bytes outer.bytes i) →
        ∃ start : Offset, start.toNat = r.start.toNat + front.length ∧
          (lookup ⟨some outer, layout⟩ s).1 = .ok ⟨start, r.payload⟩) ∧
      (front = [] → ∀ r, (lookup ⟨some inner, layout⟩ s).1 = .ok r →
        (lookup ⟨some outer, layout⟩ s).1 = .ok r) ∧
      ∀ kind name owner?,
        (lookup ⟨some outer, layout⟩ s).1 = .error (.notFound kind name owner?) →
        (lookup ⟨some inner, layout⟩ s).1 = .error (.notFound kind name owner?) := by
  rw [List.append_assoc] at hb
  refine ⟨?_, ?_, ?_⟩
  · intro r h hc
    rw [hb, s.bytes_key] at hc
    exact exists_lookup_outer hb hc h
  · intro hf r h
    subst hf
    obtain ⟨start, hstart, ho⟩ :=
      exists_lookup_outer hb (fun i hi => absurd hi (Nat.not_lt_zero i)) h
    obtain rfl : start = r.start := UInt64.toNat_inj.mp hstart
    exact ho
  · intro kind name owner? h
    exact lookup_inner_notFound hb h

def fieldCopy (offset : UInt32) : Bytes :=
  (Payload.field offset 2).encode ++ (Symbol.field "a" "b").key.bytes

theorem lookup_surrounded_copies :
    let inner : Image := ⟨fieldCopy 1, by decide⟩
    let longer : Image := ⟨fieldCopy 1 ++ fieldCopy 9, by decide⟩
    let outer : Image := ⟨[0x3f] ++ fieldCopy 1 ++ fieldCopy 9, by decide⟩
    (lookup ⟨some inner, .standard⟩ (.field "a" "b")).1 = .ok ⟨0, .field 1 2⟩ ∧
      (lookup ⟨some longer, .standard⟩ (.field "a" "b")).1 = .ok ⟨0, .field 1 2⟩ ∧
      (∃ start : Offset, start.toNat = 1 ∧
        (lookup ⟨some outer, .standard⟩ (.field "a" "b")).1 = .ok ⟨start, .field 1 2⟩) ∧
      (lookup ⟨some outer, .standard⟩ (.method "a")).1 = .error (.notFound .method "a" none) ∧
      (lookup ⟨some inner, .standard⟩ (.method "a")).1 = .error (.notFound .method "a" none) := by
  intro inner longer outer
  have hi : (lookup ⟨some inner, .standard⟩ (.field "a" "b")).1 = .ok ⟨0, .field 1 2⟩ :=
    (lookup_eq_ok_iff rfl).mpr (by decide)
  have ho : (lookup ⟨some outer, .standard⟩ (.method "a")).1 =
      .error (.notFound .method "a" none) := rfl
  have hl : longer.bytes = [] ++ inner.bytes ++ fieldCopy 9 := rfl
  have hb : outer.bytes = [0x3f] ++ inner.bytes ++ fieldCopy 9 := rfl
  refine ⟨hi, ?_, ?_, ho, ?_⟩
  · exact (lookup_surrounded hl .standard (.field "a" "b")).2.1 rfl _ hi
  · exact (lookup_surrounded hb .standard (.field "a" "b")).1 _ hi (by decide)
  · exact (lookup_surrounded hb .standard (.method "a")).2.2 _ _ _ ho

end SymbolFile

end DebugSymbols
