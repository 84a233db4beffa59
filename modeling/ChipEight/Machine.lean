import ChipEight.CallStack
import ChipEight.Clock
import ChipEight.Instruction
import ChipEight.Keypad
import ChipEight.Memory
import ChipEight.Screen.Bitmap

namespace ChipEight

/-! The whole state of a machine, how it begins and how it is reset. -/

abbrev Registers := Vector UInt8 16

structure Machine where
  memory : Memory
  registers : Registers
  index : UInt16
  counter : UInt16
  stack : CallStack
  clock : Clock
  keypad : Keypad
  /-- Shifts take their operand from the register they write. -/
  shiftsInPlace : Bool
  deriving DecidableEq

def Registers.zero : Registers :=
  Vector.replicate 16 0

def Registers.first : Register :=
  ⟨0, by decide⟩

def Registers.flag : Register :=
  ⟨15, by decide⟩

def Registers.replaceFirst (registers : Registers) (values : List UInt8) : Registers :=
  Vector.ofFn fun position => values[position]?.getD (registers.get position)

def Memory.bitmap (memory : Memory) : Bitmap :=
  Vector.ofFn fun position => memory.byte (Layout.screenStart + position)

def Memory.withBitmap (memory : Memory) (bitmap : Bitmap) : Memory :=
  memory.storeAll Layout.screenStart bitmap.toList

theorem Memory.bitmap_eq_iff {first second : Memory} :
    first.bitmap = second.bitmap ↔
      ∀ position < Layout.screenBytes,
        first.byte (Layout.screenStart + position) =
          second.byte (Layout.screenStart + position) := by
  constructor
  · intro same position inside
    have small : position < 256 := inside
    have entries := congrArg (fun picture : Bitmap => picture[position]) same
    simpa only [Memory.bitmap, Vector.getElem_ofFn] using entries
  · intro same
    apply Vector.ext
    intro position inside
    simp only [Memory.bitmap, Vector.getElem_ofFn]
    exact same position inside

@[simp] theorem Memory.size_withBitmap (memory : Memory) (bitmap : Bitmap) :
    (memory.withBitmap bitmap).size = memory.size :=
  size_storeAll memory Layout.screenStart bitmap.toList

theorem Memory.byte_withBitmap {memory : Memory} {bitmap : Bitmap} {address : Nat}
    (below : address < Layout.screenStart) :
    (memory.withBitmap bitmap).byte address = memory.byte address :=
  byte_storeAll_outside (.inl below)

namespace Machine

def loadGlyphs (machine : Machine) (glyphs : List UInt8) : Machine :=
  { machine with memory := machine.memory.storeAll Layout.glyphStart glyphs }

/-- The state before any program: glyphs in an otherwise empty memory. -/
def initial : Machine :=
  loadGlyphs
    { memory := Memory.zeros Layout.memorySize
      registers := Registers.zero
      index := 0
      counter := UInt16.ofNat Layout.programStart
      stack := CallStack.empty
      clock := Clock.initial
      keypad := Keypad.released
      shiftsInPlace := false }
    Layout.glyphs

theorem size_initial : initial.memory.size = Layout.memorySize := by
  simp only [initial, loadGlyphs, Memory.size_storeAll, Memory.size_zeros]

def register (machine : Machine) (x : Register) : UInt8 :=
  machine.registers.get x

def setRegister (machine : Machine) (x : Register) (value : UInt8) : Machine :=
  { machine with registers := machine.registers.set x value }

@[simp] theorem register_setRegister (machine : Machine) (x : Register) (value : UInt8) :
    (machine.setRegister x value).register x = value := by
  exact Vector.getElem_set_self x.isLt

theorem register_setRegister_of_ne {x other : Register} (machine : Machine) (value : UInt8)
    (apart : other ≠ x) : (machine.setRegister x value).register other = machine.register other :=
  Vector.getElem_set_ne x.isLt other.isLt fun same => apart (Fin.ext same.symm)

/-- Back to the initial state; what the host holds, keys and shift mode, stays. -/
def reset (machine : Machine) : Machine :=
  loadGlyphs
    { initial with
      memory := Memory.zeros machine.memory.size
      keypad := machine.keypad
      shiftsInPlace := machine.shiftsInPlace }
    Layout.glyphs

end Machine

end ChipEight
