namespace ChipEight

/-! Packed data as a stream of bits, the lowest bit of each byte first. -/

inductive Halt where
  | incomplete
  | corrupt
  | full
  deriving DecidableEq, Repr

structure BitReader where
  pending : List Bool
  bytes : List UInt8

abbrev Reading (Result : Type) := Except Halt (Result × BitReader)

namespace BitReader

def ofBytes (bytes : List UInt8) : BitReader :=
  ⟨[], bytes⟩

def remaining (reader : BitReader) : Nat :=
  reader.pending.length + 8 * reader.bytes.length

def next : BitReader → Reading Bool
  | ⟨bit :: pending, bytes⟩ => .ok (bit, ⟨pending, bytes⟩)
  | ⟨[], byte :: bytes⟩ =>
      .ok (byte.toNat.testBit 0, ⟨[1, 2, 3, 4, 5, 6, 7].map byte.toNat.testBit, bytes⟩)
  | ⟨[], []⟩ => .error .incomplete

/-- A number of the given count of bits, the lowest first. -/
def take (reader : BitReader) : Nat → Reading Nat
  | 0 => .ok (0, reader)
  | count + 1 =>
      match reader.next with
      | .error halt => .error halt
      | .ok (bit, rest) =>
          match rest.take count with
          | .error halt => .error halt
          | .ok (high, rest) => .ok (bit.toNat + 2 * high, rest)

def takeEach (reader : BitReader) (width : Nat) : Nat → Reading (List Nat)
  | 0 => .ok ([], reader)
  | count + 1 =>
      match reader.take width with
      | .error halt => .error halt
      | .ok (value, rest) =>
          match rest.takeEach width count with
          | .error halt => .error halt
          | .ok (values, rest) => .ok (value :: values, rest)

/-- Drops what is left of a byte that has been begun. -/
def align (reader : BitReader) : BitReader :=
  ⟨[], reader.bytes⟩

theorem remaining_next {reader rest : BitReader} {bit : Bool}
    (next_eq : reader.next = .ok (bit, rest)) :
    rest.remaining + 1 = reader.remaining := by
  match reader, next_eq with
  | ⟨_ :: _, _⟩, rfl => simp [remaining]; omega
  | ⟨[], _ :: _⟩, rfl => simp [remaining]; omega

theorem remaining_take {reader rest : BitReader} {count value : Nat}
    (take_eq : reader.take count = .ok (value, rest)) :
    rest.remaining + count = reader.remaining := by
  induction count generalizing reader value rest with
  | zero => cases take_eq; rfl
  | succ count ih =>
      simp only [take] at take_eq
      split at take_eq
      · cases take_eq
      · rename_i next_eq
        split at take_eq
        · cases take_eq
        · rename_i tail_eq
          cases take_eq
          have tail_remaining := ih tail_eq
          have next_remaining := remaining_next next_eq
          omega

theorem remaining_takeEach {reader rest : BitReader} {width count : Nat}
    {values : List Nat} (take_eq : reader.takeEach width count = .ok (values, rest)) :
    rest.remaining + width * count = reader.remaining := by
  induction count generalizing reader values rest with
  | zero => cases take_eq; rfl
  | succ count ih =>
      simp only [takeEach] at take_eq
      split at take_eq
      · cases take_eq
      · rename_i value_eq
        split at take_eq
        · cases take_eq
        · rename_i tail_eq
          cases take_eq
          have tail_remaining := ih tail_eq
          have value_remaining := remaining_take value_eq
          rw [Nat.mul_succ]
          omega

theorem remaining_align_le (reader : BitReader) :
    reader.align.remaining ≤ reader.remaining := by
  simp [align, remaining]

end BitReader

end ChipEight
