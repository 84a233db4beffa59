namespace ChipEight

/-! The instruction set. Operands are bounded by their types: a register is
one of sixteen, an address has twelve bits, a sprite has at most fifteen rows. -/

abbrev Register := Fin 16

abbrev Address := Fin 4096

/-- What `8XYN` does with a pair of registers. -/
inductive Operator where
  | copy
  | or
  | and
  | xor
  | add
  | subtract
  | shiftRight
  | subtractFrom
  | shiftLeft
  deriving DecidableEq, Repr

inductive Instruction where
  | clearScreen
  | leave
  | jump (target : Address)
  | call (target : Address)
  | skipIfEqual (x : Register) (value : UInt8)
  | skipUnlessEqual (x : Register) (value : UInt8)
  | skipIfSame (x y : Register)
  | assign (x : Register) (value : UInt8)
  | increase (x : Register) (value : UInt8)
  | combine (operator : Operator) (x y : Register)
  | skipUnlessSame (x y : Register)
  | point (target : Address)
  | jumpOffset (target : Address)
  | randomize (x : Register) (mask : UInt8)
  | draw (x y : Register) (height : Fin 16)
  | skipIfPressed (x : Register)
  | skipUnlessPressed (x : Register)
  | readDelay (x : Register)
  | awaitKey (x : Register)
  | setDelay (x : Register)
  | setSound (x : Register)
  | advanceIndex (x : Register)
  | pointAtGlyph (x : Register)
  | storeDecimal (x : Register)
  | storeRegisters (x : Register)
  | loadRegisters (x : Register)
  deriving DecidableEq, Repr

end ChipEight
