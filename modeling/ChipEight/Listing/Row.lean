import ChipEight.Memory

namespace ChipEight

/-! Rows of a listing as data. A row is a stretch of consecutive positions; in
the listing of a memory, neighbouring rows that hold only zeros become one. -/

/-- Start and length of each row when `length` entries are put `width` to a row. -/
def Listing.stretches (width length : Nat) : List (Nat × Nat) :=
  (List.range ((length + width - 1) / width)).map fun row =>
    (row * width, min width (length - row * width))

inductive MemoryRow where
  | words (first last : Nat) (values : List UInt16)
  | zeros (first last : Nat)
  deriving DecidableEq, Repr

namespace MemoryRow

/-- Bytes in big-endian pairs; an odd byte at the end is a high half. -/
def pairs : List UInt8 → List UInt16
  | high :: low :: rest => Memory.bigEndian high low :: pairs rest
  | [high] => [Memory.bigEndian high 0]
  | [] => []

def ofBytes (first : Nat) (bytes : List UInt8) : MemoryRow :=
  let last := first + bytes.length - 1
  if bytes.all (· = 0) then
    .zeros first last
  else
    .words first last (pairs bytes)

/-- Puts a row in front of others, as one with the next if both are zeros. -/
def join : MemoryRow → List MemoryRow → List MemoryRow
  | .zeros first _, .zeros _ last :: rows => .zeros first last :: rows
  | row, rows => row :: rows

end MemoryRow

def Memory.bytesPerRow : Nat :=
  16

def Memory.rows (memory : Memory) : List MemoryRow :=
  ((Listing.stretches bytesPerRow memory.size).map fun (start, length) =>
    MemoryRow.ofBytes start (memory.slice start length)).foldr MemoryRow.join []

end ChipEight
