import ChipEight.Cartridge
import ChipEight.Loading
import ChipEight.Processor
import ChipEight.Screen.Picture

namespace ChipEight

/-! A machine with a cartridge, driven frame by frame: the host hands in its
keys, some ticks run, and the host gets a picture and is told when the beeper
starts and stops. A frame in which a tick fails shows and sounds nothing. -/

structure Console where
  processor : Processor
  cartridge : Cartridge
  cyclesPerFrame : Nat := Layout.cyclesPerFrame
  beeping : Bool := false

inductive BeeperCall where
  | start
  | stop
  deriving DecidableEq, Repr

structure FrameReport where
  console : Console
  outcome : Except Fault Operation
  records : List Record
  picture : Option (Picture Bool) := none
  beeps : List BeeperCall := []

def Machine.picture (machine : Machine) : Picture Bool :=
  Picture.ofBitmap machine.bitmap false true

namespace Console

def insert (cartridge : Cartridge) (random : RandomSource) : Except Oversized Console :=
  (Machine.initial.loadProgram cartridge.data).map fun machine =>
    { processor := Processor.ofMachine machine random, cartridge }

def insertRecords (cartridge : Cartridge) : List Record :=
  Machine.loadRecords cartridge.data ++ [.inserted cartridge.name]

def withMachine (console : Console) (machine : Machine) : Console :=
  { console with processor := { console.processor with machine } }

def reset (console : Console) : Except Oversized Console :=
  (console.processor.machine.reset.loadProgram console.cartridge.data).map
    console.withMachine

def resetRecords (console : Console) : List Record :=
  Machine.loadRecords console.cartridge.data

/-- The beeper is only called when it has to change. -/
def beeps (wasBeeping isBeeping : Bool) : List BeeperCall :=
  match wasBeeping, isBeeping with
  | false, true => [.start]
  | true, false => [.stop]
  | _, _ => []

def frame (console : Console) (keypad : Keypad) : FrameReport :=
  let started := console.processor.mapMachine fun machine => { machine with keypad }
  let run := started.run Blitter.xor console.cyclesPerFrame
  match run.stopped with
  | some fault =>
      { console := { console with processor := run.processor }
        outcome := .error fault
        records := run.records }
  | none =>
      let isBeeping := run.processor.machine.clock.isSounding
      { console := { console with processor := run.processor, beeping := isBeeping }
        outcome := .ok ((run.ticks.getLast?.map (·.operation)).getD .advanced)
        records := run.records
        picture := some run.processor.machine.picture
        beeps := beeps console.beeping isBeeping }

end Console

end ChipEight
