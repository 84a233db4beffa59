import ChipEight.Archive.Entry
import ChipEight.Archive.Extent
import ChipEight.Text.CodePage
import ChipEight.Text.Utf8

namespace ChipEight.Archive

/-! The directory of an archive, one record after the other. -/

namespace Entry

def size : Nat :=
  46

def signature : List UInt8 :=
  [0x50, 0x4B, 0x01, 0x02]

def cipheredMethod : Nat :=
  99

/-- An entry of an archive that begins at `start`. -/
def displace (entry : Entry) (start : Nat) : Except ArchiveFault Entry :=
  if entry.method = cipheredMethod ∧ !entry.isCiphered then
    .error .missingCipherField
  else if positionLimit ≤ start + entry.header then
    .error .headerTooFar
  else
    .ok { entry with header := start + entry.header }

/-- The entry at a position, and the position behind it. -/
def read (image : FileImage) (start position : Nat) : Except ArchiveFault (Entry × Nat) := do
  let found ← image.bytesAt position 4
  if found != signature then
    .error .notDirectoryHeader
  else
    let flags ← image.numberAt (position + 8) 2
    let method ← image.numberAt (position + 10) 2
    let checksum ← image.numberAt (position + 16) 4
    let packedSize ← image.numberAt (position + 20) 4
    let unpackedSize ← image.numberAt (position + 24) 4
    let nameLength ← image.numberAt (position + 28) 2
    let extraLength ← image.numberAt (position + 30) 2
    let commentLength ← image.numberAt (position + 32) 2
    let header ← image.numberAt (position + 42) 4
    let name ← image.bytesAt (position + size) nameLength
    let extra ← image.bytesAt (position + size + nameLength) extraLength
    let _ ← image.bytesAt (position + size + nameLength + extraLength) commentLength
    let stated : Entry :=
      { name := if flags.testBit 11 then Utf8.decode name else CodePage.decode name
        isEncrypted := flags.testBit 0
        method
        checksum
        packedSize
        unpackedSize
        header }
    let entry ← stated.applyFields extra
    let entry ← entry.displace start
    .ok (entry, position + size + nameLength + extraLength + commentLength)

end Entry

def readEntries (image : FileImage) (start : Nat) :
    Nat → Nat → Except ArchiveFault (List Entry)
  | 0, _ => .ok []
  | count + 1, position => do
      let (entry, behind) ← Entry.read image start position
      let entries ← readEntries image start count behind
      .ok (entry :: entries)

def readDirectory (image : FileImage) : Except ArchiveFault (List Entry) := do
  let extent ← Extent.read image
  readEntries image extent.start extent.count extent.directory

end ChipEight.Archive
