import ChipEight.Text.Path

namespace ChipEight

/-! Programs under a name, and why one cannot be had. -/

structure Cartridge where
  name : String
  data : List UInt8
  deriving DecidableEq, Repr

inductive ReadFault where
  | noSuchFile
  | isDirectory
  | nameTooLong
  | unnameable
  | invalidChecksum
  | corruptDeflate
  | incompleteDeflate
  deriving DecidableEq, Repr

inductive ArchiveFault where
  | tooShort
  | noDirectoryEnd
  | noWideDirectoryEnd
  | noRoomForWideDirectoryEnd
  | misplacedDirectory
  | notDirectoryHeader
  | notLocalHeader
  | headerTooFar
  | missingCipherField
  | oddCipherField
  | unknownCipherVendor
  | unknownCipherVersion
  | unknownCipherStrength
  | manyDisks
  | encrypted
  | unknownMethod
  | truncated
  deriving DecidableEq, Repr

inductive CartridgeFault where
  | unreadable (cause : ReadFault)
  | badArchive (cause : ArchiveFault)
  | noSuchEntry (name : String)
  /-- The entry is said to be ciphered, but not to need a password. -/
  | ciphered (name : String)
  deriving DecidableEq, Repr

def ReadFault.message : ReadFault → String
  | .noSuchFile => "No such file or directory (os error 2)"
  | .isDirectory => "Is a directory (os error 21)"
  | .nameTooLong => "File name too long (os error 36)"
  | .unnameable => "file name contained an unexpected NUL byte"
  | .invalidChecksum => "Invalid checksum"
  | .corruptDeflate => "corrupt deflate stream"
  | .incompleteDeflate => "incomplete deflate stream"

def ArchiveFault.message : ArchiveFault → String
  | .tooShort => "invalid Zip archive: Invalid zip header"
  | .noDirectoryEnd => "invalid Zip archive: Could not find central directory end"
  | .noWideDirectoryEnd =>
      "invalid Zip archive: Could not find ZIP64 central directory end"
  | .noRoomForWideDirectoryEnd =>
      "invalid Zip archive: File cannot contain ZIP64 central directory end"
  | .misplacedDirectory => "invalid Zip archive: Invalid central directory size or offset"
  | .notDirectoryHeader => "invalid Zip archive: Invalid Central Directory header"
  | .notLocalHeader => "invalid Zip archive: Invalid local file header"
  | .headerTooFar => "invalid Zip archive: Archive header is too large"
  | .missingCipherField =>
      "invalid Zip archive: AES encryption without AES extra data field"
  | .oddCipherField =>
      "unsupported Zip archive: AES extra data field has an unsupported length"
  | .unknownCipherVendor => "invalid Zip archive: Invalid AES vendor"
  | .unknownCipherVersion => "invalid Zip archive: Invalid AES vendor version"
  | .unknownCipherStrength => "invalid Zip archive: Invalid AES encryption strength"
  | .manyDisks => "unsupported Zip archive: Support for multi-disk files is not implemented"
  | .encrypted => "unsupported Zip archive: Password required to decrypt file"
  | .unknownMethod => "unsupported Zip archive: Compression method not supported"
  | .truncated => "failed to fill whole buffer"

def CartridgeFault.message : CartridgeFault → String
  | .unreadable cause => "Unable to read the rom '" ++ cause.message ++ "'."
  | .badArchive cause => "Unable to read the rom archive '" ++ cause.message ++ "'."
  | .noSuchEntry name => "There is no rom named '" ++ name ++ "' in the archive."
  | .ciphered name => "The rom named '" ++ name ++ "' is ciphered."

def ReadFault.ofPath (directory path : String) : ReadFault :=
  if path.contains '\x00' then
    .unnameable
  else if Path.lengthLimit < (Path.join directory path).utf8ByteSize then
    .nameTooLong
  else
    match Path.firstName? path with
    | none => .isDirectory
    | some name => if Path.nameLimit < name.utf8ByteSize then .nameTooLong else .noSuchFile

/-- The cartridge takes the name of the file. -/
def Cartridge.ofFile (path : String) (contents : Except ReadFault (List UInt8)) :
    Except CartridgeFault Cartridge :=
  (contents.mapError .unreadable).map fun data => ⟨(Path.fileName? path).getD "", data⟩

end ChipEight
