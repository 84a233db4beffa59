import ChipEight.Archive.ByteReader
import ChipEight.Archive.Checksum
import ChipEight.Archive.Directory
import ChipEight.Archive.Inflate
import ChipEight.Layout
import ChipEight.Trace

namespace ChipEight

/-! Archives of programs. An entry is read no further than one byte past the
largest program; its checksum counts if its data end before that. -/

/-- Why an entry cannot be opened. -/
inductive EntryFault where
  | missing
  | unsound (cause : ArchiveFault)
  | ciphered
  deriving DecidableEq, Repr

def EntryFault.under (name : String) : EntryFault → CartridgeFault
  | .missing => .noSuchEntry name
  | .unsound cause => .badArchive cause
  | .ciphered => .ciphered name

/-- As many bytes are asked for as show that a program is too large. -/
def Cartridge.readLimit : Nat :=
  Layout.programCapacity + 1

def Cartridge.ofEntry {State : Type} (name : String)
    (opened : Except EntryFault (ByteReader State)) : Except CartridgeFault Cartridge := do
  let reader ← opened.mapError (EntryFault.under name)
  let data ← (reader.take readLimit).mapError .unreadable
  .ok { name, data }

def Cartridge.extractRecords (cartridge : Cartridge) : List Record :=
  [.extracted cartridge.name cartridge.data.length]

structure Archive where
  image : FileImage
  entries : List Archive.Entry

namespace Archive

def ofBytes (image : FileImage) : Except ArchiveFault Archive := do
  let entries ← readDirectory image
  .ok { image, entries }

def names (archive : Archive) : List String :=
  (archive.entries.map (·.name)).eraseDups.mergeSort

/-- Of several entries with one name the last counts. -/
def find? (archive : Archive) (name : String) : Option Entry :=
  archive.entries.reverse.find? (·.name == name)

def localSignature : List UInt8 :=
  [0x50, 0x4B, 0x03, 0x04]

def localSize : Nat :=
  30

inductive Method where
  | stored
  | deflated
  deriving DecidableEq, Repr

/-- The packed bytes of an entry, as far as the file has them, and how to unpack them. -/
def locate (archive : Archive) (entry : Entry) :
    Except ArchiveFault (Method × List UInt8) := do
  if entry.isEncrypted then
    .error .encrypted
  else
    let signature ← archive.image.bytesAt entry.header 4
    if signature != localSignature then
      .error .notLocalHeader
    else
      let nameLength ← archive.image.numberAt (entry.header + 26) 2
      let extraLength ← archive.image.numberAt (entry.header + 28) 2
      let start := entry.header + localSize + nameLength + extraLength
      let packed := archive.image.span start entry.packedSize
      match entry.method with
      | 0 => .ok (.stored, packed)
      | 8 => .ok (.deflated, packed)
      | _ => .error .unknownMethod

/-- As much is unpacked ahead as a repetition can reach back over. -/
def windowSize : Nat :=
  32768

def pieceSize : Nat :=
  32768

/-- The end of the window in which a position lies. -/
def windowEnd (position : Nat) : Nat :=
  (position / windowSize + 1) * windowSize

/-- Takes in piece after piece until more comes out than has been handed out. -/
def unpackPieces (packed : List UInt8) (handed available : Nat) : Inflated :=
  let inflated := Inflated.ofPacked (windowEnd handed) (packed.take available)
  if available < packed.length ∧ inflated.halt = some .incomplete ∧
      inflated.output.length ≤ handed then
    unpackPieces packed handed (available + pieceSize)
  else
    inflated
termination_by packed.length - available
decreasing_by
  unfold pieceSize
  omega

def Method.unpack (packed : List UInt8) (handed : Nat) : Method → Inflated
  | .stored => ⟨packed, none⟩
  | .deflated => unpackPieces packed handed pieceSize

/-- Data are refused where corrupt ones lie ahead, and otherwise handed out as far
as they are unpacked. The checksum is looked at behind the last byte. -/
def deliver (expected handed count : Nat) (inflated : Inflated) :
    Except ReadFault (List UInt8 × Nat) :=
  if inflated.halt = some .corrupt then
    .error .corruptDeflate
  else if handed < inflated.output.length then
    let chunk := (inflated.output.drop handed).take count
    .ok (chunk, handed + chunk.length)
  else if inflated.halt.isSome then
    .error .incompleteDeflate
  else if (checksum inflated.output).toNat = expected then
    .ok ([], handed)
  else
    .error .invalidChecksum

/-- Its state is the number of bytes handed out. -/
def readerOf (expected : Nat) (method : Method) (packed : List UInt8) : ByteReader Nat where
  start := 0
  read handed count := deliver expected handed count (method.unpack packed handed)

def openEntry (archive : Archive) (name : String) : Except EntryFault (ByteReader Nat) := do
  match archive.find? name with
  | none => .error .missing
  | some entry =>
      let (method, packed) ← (archive.locate entry).mapError .unsound
      if entry.isCiphered then
        .error .ciphered
      else
        .ok (readerOf entry.checksum method packed)

def extract (archive : Archive) (name : String) : Except CartridgeFault Cartridge :=
  Cartridge.ofEntry name (archive.openEntry name)

end Archive

end ChipEight
