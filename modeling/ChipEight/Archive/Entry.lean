import ChipEight.Archive.FileImage

namespace ChipEight.Archive

/-! What a directory says of an entry, partly in extra fields. Each of them has
a kind and a length in front of its body. Two kinds matter: one gives numbers
that are too wide for their places, the other says how the data are ciphered. -/

structure Entry where
  name : String
  isEncrypted : Bool
  method : Nat
  checksum : Nat
  packedSize : Nat
  unpackedSize : Nat
  header : Nat
  isCiphered : Bool := false
  deriving DecidableEq, Repr

namespace Entry

/-- A number with all bits set stands, eight bytes wide, in front of the rest. -/
def widen (number : Nat) (bytes : List UInt8) : Option (Nat × List UInt8) :=
  if number ≠ 0xFFFFFFFF then
    some (number, bytes)
  else if bytes.length < 8 then
    none
  else
    some (littleEndian (bytes.take 8), bytes.drop 8)

def widenAll (entry : Entry) (bytes : List UInt8) : Entry × Option (List UInt8) :=
  match widen entry.unpackedSize bytes with
  | none => (entry, none)
  | some (unpackedSize, bytes) =>
      let entry := { entry with unpackedSize }
      match widen entry.packedSize bytes with
      | none => (entry, none)
      | some (packedSize, bytes) =>
          let entry := { entry with packedSize }
          match widen entry.header bytes with
          | none => (entry, none)
          | some (header, bytes) => ({ entry with header }, some bytes)

def cipherLength : Nat :=
  7

/-- Version, vendor and strength of the cipher, and the true method of the entry. -/
def readCipher (entry : Entry) (bytes : List UInt8) : Except ArchiveFault Entry :=
  if littleEndian ((bytes.drop 2).take 2) ≠ 0x4541 then
    .error .unknownCipherVendor
  else if littleEndian (bytes.take 2) ∉ [1, 2] then
    .error .unknownCipherVersion
  else if littleEndian ((bytes.drop 4).take 1) ∉ [1, 2, 3] then
    .error .unknownCipherStrength
  else
    .ok { entry with method := littleEndian ((bytes.drop 5).take 2), isCiphered := true }

/-- What a field makes of the entry, and how many of the bytes behind its length
it takes up, if the next field is to be found. A field of wide numbers takes up
more than its length if they do; one on ciphering takes up twice its length. -/
def applyField (entry : Entry) (kind length : Nat) (body : List UInt8) :
    Except ArchiveFault (Entry × Option Nat) :=
  match kind with
  | 0x0001 =>
      let (entry, rest) := entry.widenAll body
      .ok (entry, rest.map fun rest => max length (body.length - rest.length))
  | 0x9901 =>
      if length ≠ cipherLength then
        .error .oddCipherField
      else if body.length < cipherLength then
        .ok (entry, none)
      else
        (entry.readCipher body).map fun entry => (entry, some (2 * cipherLength))
  | _ => .ok (entry, some length)

/-- Fields are taken in turn as long as they are whole. -/
def applyFields (entry : Entry) : List UInt8 → Except ArchiveFault Entry
  | kind :: kindHigh :: length :: lengthHigh :: body =>
      match entry.applyField (littleEndian [kind, kindHigh])
        (littleEndian [length, lengthHigh]) body with
      | .error fault => .error fault
      | .ok (entry, none) => .ok entry
      | .ok (entry, some taken) => entry.applyFields (body.drop taken)
  | _ => .ok entry
termination_by bytes => bytes.length
decreasing_by
  simp only [List.length_cons, List.length_drop]
  omega

end Entry

end ChipEight.Archive
