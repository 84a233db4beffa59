namespace ChipEight.Layout

/-! The fixed dimensions of the machine: where the glyphs, the program and
the screen lie in memory, and how large everything is. -/

def memorySize : Nat := 0x1000

def opcodeSize : Nat := 2

def programStart : Nat := 0x200

def programCapacity : Nat := memorySize - programStart

def cyclesPerFrame : Nat := 9

def registerCount : Nat := 16

def flagRegister : Nat := registerCount - 1

def stackCapacity : Nat := 20

/-- The clock counts this many ticks down before a tick reaches the timers. -/
def dividerReload : UInt8 := 9

def screenWidth : Nat := 64

def screenHeight : Nat := 32

def screenPixels : Nat := screenWidth * screenHeight

def screenRowBytes : Nat := screenWidth / 8

def screenBytes : Nat := screenRowBytes * screenHeight

def screenStart : Nat := memorySize - screenBytes

def glyphStart : Nat := 0

def glyphBytes : Nat := 5

def keyCount : Nat := 16

/-- One glyph of five rows for each hexadecimal digit. -/
def glyphs : List UInt8 :=
  [0xF0, 0x90, 0x90, 0x90, 0xF0,
   0x20, 0x60, 0x20, 0x20, 0x70,
   0xF0, 0x10, 0xF0, 0x80, 0xF0,
   0xF0, 0x10, 0xF0, 0x10, 0xF0,
   0x90, 0x90, 0xF0, 0x10, 0x10,
   0xF0, 0x80, 0xF0, 0x10, 0xF0,
   0xF0, 0x80, 0xF0, 0x90, 0xF0,
   0xF0, 0x10, 0x20, 0x40, 0x40,
   0xF0, 0x90, 0xF0, 0x90, 0xF0,
   0xF0, 0x90, 0xF0, 0x10, 0xF0,
   0xF0, 0x90, 0xF0, 0x90, 0x90,
   0xE0, 0x90, 0xE0, 0x90, 0xE0,
   0xF0, 0x80, 0x80, 0x80, 0xF0,
   0xE0, 0x90, 0x90, 0x90, 0xE0,
   0xF0, 0x80, 0xF0, 0x80, 0xF0,
   0xF0, 0x80, 0xF0, 0x80, 0x80]

@[simp] theorem length_glyphs : glyphs.length = keyCount * glyphBytes := rfl

end ChipEight.Layout
