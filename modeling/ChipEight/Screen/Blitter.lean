import ChipEight.Screen.Stamp
import ChipEight.Work

namespace ChipEight

/-! The two things that happen to a screen. A blitter is the part of the machine that
carries them out, so that a host can put its own in place. -/

inductive ScreenCall where
  | draw (address : UInt16) (x y height : UInt8)
  | clear
  deriving DecidableEq, Repr

structure Blitter where
  carryOut : ScreenCall → Work AccessFault Unit

def Machine.bitmap (machine : Machine) : Bitmap :=
  machine.memory.bitmap

namespace Blitter

variable {Cause : Type}

/-- What a caller from outside gets: the machine, unless the call is refused. -/
def attempt (blitter : Blitter) (call : ScreenCall) (machine : Machine) :
    Except AccessFault Machine :=
  match (blitter.carryOut call).run { machine } with
  | .ok _ bench => .ok bench.machine
  | .error fault _ => .error fault

instance : CoeFun Blitter fun _ => ScreenCall → Machine → Except AccessFault Machine :=
  ⟨attempt⟩

/-- A row that starts at this column or behind it has no byte to its right. -/
def splitLimit : Nat :=
  Layout.screenWidth - 8

def flipRight (address : Nat) (row : UInt8) (shift : Nat) : Work Cause Bool := do
  Work.demand (shift < 8)
  Work.flip address (row >>> UInt8.ofNat shift)

def flipLeft (address : Nat) (row : UInt8) (shift : Nat) : Work Cause Bool := do
  Work.demand (shift < 8)
  Work.flip address (row <<< UInt8.ofNat shift)

/-- A row that does not start with a byte reaches over into the next one. -/
def flipRow (x address : Nat) (row : UInt8) : Work Cause Bool := do
  let shift := x % 8
  let erased ← flipRight address row shift
  if shift ≠ 0 ∧ x < splitLimit then
    let erasedBeside ← flipLeft (address + 1) row (8 - shift)
    return erased || erasedBeside
  else
    return erased

def flipRows (x : Nat) : Nat → List UInt8 → Work Cause Bool
  | _, [] => return false
  | address, row :: rows => do
      let erased ← flipRow x address row
      let erasedBelow ← flipRows x (address + Layout.screenRowBytes) rows
      return erased || erasedBelow

/-- All rows are read before the first is drawn: a sprite may lie on the screen. -/
def readStamp (address : UInt16) (x y height : UInt8) : Work AccessFault Stamp := do
  let top := Stamp.wrapY y
  Work.demand (top ≤ Layout.screenHeight)
  let visible := Stamp.visibleRows y height
  Work.demand (visible ≤ Layout.screenHeight)
  let rows ← Work.readRange address.toNat visible
  Work.demand (rows.length = visible)
  return ⟨Stamp.wrapX x, top, rows⟩

def draw (address : UInt16) (x y height : UInt8) : Work AccessFault Unit := do
  let stamp ← readStamp address x y height
  let start := Layout.screenStart + stamp.x / 8 + stamp.y * Layout.screenRowBytes
  let erased ← flipRows stamp.x start stamp.rows
  Work.change (·.setRegister Registers.flag (if erased then 1 else 0))

def clear : Work Cause Unit := do
  let machine ← Work.machine
  Work.demand (Layout.screenStart + Layout.screenBytes ≤ machine.memory.size)
  Work.change fun machine =>
    { machine with memory := machine.memory.withBitmap Bitmap.blank }

def xor : Blitter where
  carryOut
    | .draw address x y height => draw address x y height
    | .clear => clear

def idle : Blitter where
  carryOut _ := pure ()

end Blitter

end ChipEight
