import DebugSymbols.Bytes

/-!
# Little-endian words

`Bytes.value` is the number a byte string denotes, lowest byte first, and `Bytes.ofValue` writes a
number that way in a given count of bytes. A `Word` is a type of numbers of a fixed byte size;
`Word.decode?` reads one from exactly that many bytes and `Word.encode` writes it. Reading and
writing are inverse to each other (`decode?_encode`, `encode_of_decode?`).
-/

namespace DebugSymbols

namespace Bytes

/-- The number with these little-endian digits of base 256. -/
def value : Bytes → Nat
  | [] => 0
  | b :: rest => b.toNat + 256 * value rest

/-- How many numbers have at most `size` base-256 digits. -/
def capacity : Nat → Nat
  | 0 => 1
  | size + 1 => 256 * capacity size

/-- The lowest `size` base-256 digits of a number, lowest first. -/
def ofValue : Nat → Nat → Bytes
  | 0, _ => []
  | size + 1, n => UInt8.ofNat n :: ofValue size (n / 256)

@[simp] theorem length_ofValue (size n : Nat) : (ofValue size n).length = size := by
  induction size generalizing n with
  | zero => rfl
  | succ size ih => simp [ofValue, ih]

theorem value_lt (b : Bytes) : value b < capacity b.length := by
  induction b with
  | nil => exact Nat.zero_lt_one
  | cons x rest ih =>
    have := x.toNat_lt
    simp only [value, List.length_cons, capacity]
    omega

theorem value_ofValue {size n : Nat} (h : n < capacity size) : value (ofValue size n) = n := by
  induction size generalizing n with
  | zero => exact (Nat.lt_one_iff.mp h).symm
  | succ size ih =>
    simp only [capacity] at h
    have := @ih (n / 256) (by omega)
    simp only [ofValue, value, this, UInt8.toNat_ofNat']
    omega

theorem ofValue_value (b : Bytes) : ofValue b.length (value b) = b := by
  induction b with
  | nil => rfl
  | cons x rest ih =>
    have hx := x.toNat_lt
    have hd : (x.toNat + 256 * value rest) / 256 = value rest := by omega
    have hh : UInt8.ofNat (x.toNat + 256 * value rest) = x := by
      rw [← UInt8.toNat_inj, UInt8.toNat_ofNat']
      omega
    simp only [List.length_cons, value, ofValue, hd, hh, ih]

theorem value_append (a b : Bytes) : value (a ++ b) = value a + capacity a.length * value b := by
  induction a with
  | nil => simp [value, capacity]
  | cons x rest ih =>
    simp only [List.cons_append, value, ih, List.length_cons, capacity]
    rw [Nat.mul_add, Nat.mul_assoc, Nat.add_assoc]

end Bytes

/-- Numbers of a fixed size in bytes. -/
class Word (α : Type) where
  size : Nat
  size_le : size ≤ 8
  /-- The word with a value, of the values below its capacity. -/
  ofNat : Nat → α
  toNat : α → Nat
  toNat_lt (a : α) : toNat a < Bytes.capacity size
  ofNat_toNat (a : α) : ofNat (toNat a) = a
  toNat_ofNat {n : Nat} : n < Bytes.capacity size → toNat (ofNat n) = n

namespace Word

variable {α : Type} [Word α]

theorem toNat_ofNat_size (α : Type) [Word α] : (UInt64.ofNat (size α)).toNat = size α := by
  rw [UInt64.toNat_ofNat', Nat.mod_eq_of_lt]
  exact Nat.lt_of_le_of_lt size_le (by decide)

/-- The word that these bytes write, none unless there are as many as the word has. -/
def decode? (α : Type) [Word α] (b : Bytes) : Option α :=
  if b.length = size α then some (ofNat b.value) else none

def encode (a : α) : Bytes := Bytes.ofValue (size α) (toNat a)

@[simp] theorem length_encode (a : α) : (encode a).length = size α := Bytes.length_ofValue _ _

theorem isSome_decode? {b : Bytes} : (decode? α b).isSome ↔ b.length = size α := by
  unfold decode?
  split <;> simp_all

@[simp] theorem decode?_encode (a : α) : decode? α (encode a) = some a := by
  rw [decode?, if_pos (length_encode a), encode, Bytes.value_ofValue (toNat_lt a), ofNat_toNat]

theorem encode_of_decode? {b : Bytes} {a : α} (h : decode? α b = some a) : encode a = b := by
  unfold decode? at h
  split at h
  · rename_i hl
    cases h
    rw [encode, toNat_ofNat (hl ▸ Bytes.value_lt b), ← hl, Bytes.ofValue_value]
  · cases h

theorem encode_eq_iff {a : α} {b : Bytes} (h : b.length = size α) :
    encode a = b ↔ toNat a = b.value := by
  unfold encode
  refine ⟨?_, ?_⟩
  · intro ha
    rw [← ha, Bytes.value_ofValue (toNat_lt a)]
  · intro ha
    rw [ha, ← h, Bytes.ofValue_value]

end Word

instance : Word UInt8 where
  size := 1
  size_le := by decide
  ofNat := UInt8.ofNat
  toNat := UInt8.toNat
  toNat_lt := UInt8.toNat_lt
  ofNat_toNat _ := UInt8.ofNat_toNat
  toNat_ofNat h := UInt8.toNat_ofNat_of_lt' h

instance : Word UInt16 where
  size := 2
  size_le := by decide
  ofNat := UInt16.ofNat
  toNat := UInt16.toNat
  toNat_lt := UInt16.toNat_lt
  ofNat_toNat _ := UInt16.ofNat_toNat
  toNat_ofNat h := UInt16.toNat_ofNat_of_lt' h

instance : Word UInt32 where
  size := 4
  size_le := by decide
  ofNat := UInt32.ofNat
  toNat := UInt32.toNat
  toNat_lt := UInt32.toNat_lt
  ofNat_toNat _ := UInt32.ofNat_toNat
  toNat_ofNat h := UInt32.toNat_ofNat_of_lt' h

end DebugSymbols
