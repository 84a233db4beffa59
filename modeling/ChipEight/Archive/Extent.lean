import ChipEight.Archive.FileImage

namespace ChipEight.Archive

/-! Where an archive lies in its file. A record close to the end of the file
closes the directory; other data may precede the archive and follow it. A wide
archive has another such record, with more room for each number, and behind it
a locator that points to it. Positions count from where the archive begins. -/

structure DirectoryEnd where
  position : Nat
  disk : Nat
  directoryDisk : Nat
  count : Nat
  total : Nat
  directorySize : Nat
  directory : Nat
  commentLength : Nat
  deriving DecidableEq, Repr

namespace DirectoryEnd

def size : Nat :=
  22

def signature : List UInt8 :=
  [0x50, 0x4B, 0x05, 0x06]

/-- The record closest to the end of the file, a comment at most behind it. -/
def find (image : FileImage) : Except ArchiveFault Nat :=
  if image.size < size then
    .error .tooShort
  else
    let last := image.size - size
    match (List.range (min last 0xFFFF + 1)).find? fun back =>
      image.span (last - back) 4 == signature with
    | none => .error .noDirectoryEnd
    | some back => .ok (last - back)

def read (image : FileImage) : Except ArchiveFault DirectoryEnd := do
  let position ← find image
  let disk ← image.numberAt (position + 4) 2
  let directoryDisk ← image.numberAt (position + 6) 2
  let count ← image.numberAt (position + 8) 2
  let total ← image.numberAt (position + 10) 2
  let directorySize ← image.numberAt (position + 12) 4
  let directory ← image.numberAt (position + 16) 4
  let commentLength ← image.numberAt (position + 20) 2
  let _ ← image.bytesAt (position + size) commentLength
  .ok { position, disk, directoryDisk, count, total, directorySize, directory, commentLength }

/-- A number without room in the record has all its bits set. -/
def isOverflowing (directoryEnd : DirectoryEnd) : Bool :=
  [directoryEnd.disk, directoryEnd.directoryDisk,
    directoryEnd.count, directoryEnd.total].contains 0xFFFF ||
  [directoryEnd.directorySize, directoryEnd.directory].contains 0xFFFFFFFF

/-- Disks count only where their numbers have room. -/
def isSplit (directoryEnd : DirectoryEnd) (directoryDisk : Nat) : Bool :=
  !directoryEnd.isOverflowing && directoryEnd.disk != directoryDisk

end DirectoryEnd

/-- Where the wide record should be if nothing preceded the archive. -/
structure Locator where
  disk : Nat
  position : Nat
  deriving DecidableEq, Repr

namespace Locator

def size : Nat :=
  20

def signature : List UInt8 :=
  [0x50, 0x4B, 0x06, 0x07]

/-- The locator lies in front of the room that the directory end and its
comment take up at the end of the file. -/
def find? (image : FileImage) (directoryEnd : DirectoryEnd) : Option Locator :=
  let room := size + DirectoryEnd.size + directoryEnd.commentLength
  let start := image.size - room
  if room ≤ image.size ∧ image.span start 4 = signature then
    some
      { disk := littleEndian (image.span (start + 4) 4)
        position := littleEndian (image.span (start + 8) 8) }
  else
    none

end Locator

structure WideDirectoryEnd where
  disk : Nat
  directoryDisk : Nat
  total : Nat
  directory : Nat
  deriving DecidableEq, Repr

namespace WideDirectoryEnd

def size : Nat :=
  56

def signature : List UInt8 :=
  [0x50, 0x4B, 0x06, 0x06]

/-- The record closest behind its stated position, with room for the signature
of a locator between it and the directory end. -/
def find (image : FileImage) (stated : Nat) (directoryEnd : DirectoryEnd) :
    Except ArchiveFault Nat :=
  let room := size + Locator.signature.length
  if directoryEnd.position < room then
    .error .noRoomForWideDirectoryEnd
  else
    match (List.range' stated (directoryEnd.position - room + 1 - stated)).find? fun position =>
      image.span position 4 == signature with
    | none => .error .noWideDirectoryEnd
    | some position => .ok position

def read (image : FileImage) (position : Nat) : Except ArchiveFault WideDirectoryEnd := do
  let disk ← image.numberAt (position + 16) 4
  let directoryDisk ← image.numberAt (position + 20) 4
  let total ← image.numberAt (position + 32) 8
  let directory ← image.numberAt (position + 48) 8
  .ok { disk, directoryDisk, total, directory }

end WideDirectoryEnd

structure Extent where
  start : Nat
  directory : Nat
  count : Nat
  deriving DecidableEq, Repr

def positionLimit : Nat :=
  0x10000000000000000

namespace Extent

/-- The directory ends where the record that closes it begins. -/
def ofDirectoryEnd (directoryEnd : DirectoryEnd) : Except ArchiveFault Extent :=
  let behind := directoryEnd.directorySize + directoryEnd.directory
  if directoryEnd.position < behind then
    .error .misplacedDirectory
  else
    let start := directoryEnd.position - behind
    .ok
      { start
        directory := start + directoryEnd.directory
        count := directoryEnd.count }

/-- The archive is displaced by as much as its wide record is. -/
def ofLocator (image : FileImage) (directoryEnd : DirectoryEnd) (locator : Locator) :
    Except ArchiveFault Extent := do
  if directoryEnd.isSplit locator.disk then
    .error .manyDisks
  else
    let position ← WideDirectoryEnd.find image locator.position directoryEnd
    let wide ← WideDirectoryEnd.read image position
    let start := position - locator.position
    if wide.disk != wide.directoryDisk then
      .error .manyDisks
    else if positionLimit ≤ start + wide.directory then
      .error .misplacedDirectory
    else
      .ok { start, directory := start + wide.directory, count := wide.total }

def read (image : FileImage) : Except ArchiveFault Extent := do
  let directoryEnd ← DirectoryEnd.read image
  if directoryEnd.isSplit directoryEnd.directoryDisk then
    .error .manyDisks
  else
    match Locator.find? image directoryEnd with
    | none => ofDirectoryEnd directoryEnd
    | some locator => ofLocator image directoryEnd locator

end Extent

end ChipEight.Archive
