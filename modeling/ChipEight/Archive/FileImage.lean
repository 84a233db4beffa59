import ChipEight.Cartridge

namespace ChipEight

/-! The bytes of a file, and the little-endian numbers in them. -/

abbrev FileImage := Array UInt8

def littleEndian : List UInt8 → Nat
  | [] => 0
  | byte :: rest => byte.toNat + 0x100 * littleEndian rest

namespace FileImage

def span (image : FileImage) (start length : Nat) : List UInt8 :=
  (image.extract start (start + length)).toList

def bytesAt (image : FileImage) (start length : Nat) : Except ArchiveFault (List UInt8) :=
  if start + length ≤ image.size then
    .ok (image.span start length)
  else
    .error .truncated

def numberAt (image : FileImage) (start width : Nat) : Except ArchiveFault Nat :=
  (image.bytesAt start width).map littleEndian

end FileImage

end ChipEight
