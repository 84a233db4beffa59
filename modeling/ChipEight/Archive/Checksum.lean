namespace ChipEight

/-! The checksum of archive entries: the cyclic redundancy check of 32 bits with
the reflected polynomial `0xEDB88320`, inverted on entry and exit. -/

def Checksum.shift (state : UInt32) : UInt32 :=
  if state &&& 1 = 1 then state >>> 1 ^^^ 0xEDB88320 else state >>> 1

def Checksum.absorb (state : UInt32) (byte : UInt8) : UInt32 :=
  Nat.repeat shift 8 (state ^^^ byte.toUInt32)

def checksum (bytes : List UInt8) : UInt32 :=
  ~~~(bytes.foldl Checksum.absorb 0xFFFFFFFF)

end ChipEight
