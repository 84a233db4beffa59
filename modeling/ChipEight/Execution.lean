import ChipEight.Screen.Blitter
import ChipEight.Step

namespace ChipEight

/-! What each instruction does. `Instruction.carryOut` works on the machine in place,
with the counter still where it was, and yields the step to take. -/

structure RandomSource where
  byte : Nat → UInt8
  drawn : Nat

def RandomSource.next (random : RandomSource) : UInt8 × RandomSource :=
  (random.byte random.drawn, { random with drawn := random.drawn + 1 })

/-- A machine while an instruction is performed, and what its host gets to see of it. -/
structure Turn extends Bench where
  random : RandomSource
  records : List Record := []
  calls : List ScreenCall := []

abbrev Move := EStateM Fault Turn

namespace Move

def work {Result : Type} (work : Work AccessFault Result) : Move Result := fun turn =>
  match work.run turn.toBench with
  | .ok result bench => .ok result { turn with toBench := bench }
  | .error fault bench => .error (.access fault) { turn with toBench := bench }

def machine : Move Machine :=
  work Work.machine

def change (update : Machine → Machine) : Move Unit :=
  work (Work.change update)

def demand (condition : Prop) [Decidable condition] : Move Unit :=
  work (Work.demand condition)

def nextRandom : Move UInt8 :=
  modifyGet fun turn =>
    let (value, random) := turn.random.next
    (value, { turn with random })

def record (record : Record) : Move Unit :=
  modify fun turn => { turn with records := turn.records ++ [record] }

def push (origin : UInt16) : Move Unit := do
  let stack ← MonadExcept.ofExcept (((← machine).stack.push origin).mapError .stack)
  change fun machine => { machine with stack }

def pop : Move UInt16 := do
  let (origin, stack) ← MonadExcept.ofExcept ((← machine).stack.pop.mapError .stack)
  change fun machine => { machine with stack }
  return origin

def callScreen (blitter : Blitter) (call : ScreenCall) : Move Unit := do
  modify fun turn => { turn with calls := turn.calls ++ [call] }
  work (blitter.carryOut call)

theorem run_work {Result : Type} (inner : Work AccessFault Result) (turn : Turn) :
    (work inner).run turn =
      match inner.run turn.toBench with
      | .ok result bench => .ok result { turn with toBench := bench }
      | .error fault bench => .error (.access fault) { turn with toBench := bench } := rfl

@[simp] theorem run_machine (turn : Turn) :
    machine.run turn = .ok turn.machine turn := rfl

@[simp] theorem run_change (update : Machine → Machine) (turn : Turn) :
    (change update).run turn = .ok () { turn with machine := update turn.machine } := rfl

@[simp] theorem run_demand (condition : Prop) [Decidable condition] (turn : Turn) :
    (demand condition).run turn =
      .ok () { turn with defined := turn.defined && decide condition } := rfl

@[simp] theorem run_nextRandom (turn : Turn) :
    nextRandom.run turn =
      .ok turn.random.next.1 { turn with random := turn.random.next.2 } := rfl

@[simp] theorem run_record (added : Record) (turn : Turn) :
    (record added).run turn = .ok () { turn with records := turn.records ++ [added] } :=
  rfl

theorem run_push (origin : UInt16) (turn : Turn) :
    (push origin).run turn =
      match turn.machine.stack.push origin with
      | .ok stack => .ok () { turn with machine := { turn.machine with stack } }
      | .error cause => .error (.stack cause) turn := by
  simp only [push, EStateM.run_bind, run_machine]
  cases turn.machine.stack.push origin <;> rfl

theorem run_pop (turn : Turn) :
    pop.run turn =
      match turn.machine.stack.pop with
      | .ok (origin, stack) =>
          .ok origin { turn with machine := { turn.machine with stack } }
      | .error cause => .error (.stack cause) turn := by
  simp only [pop, EStateM.run_bind, run_machine]
  cases turn.machine.stack.pop <;> rfl

end Move

/-- The result of a register pair and what the flag becomes, if it is written. -/
def Operator.apply (vx vy shifted : UInt8) : Operator → UInt8 × Option UInt8
  | .copy => (vy, none)
  | .or => (vx ||| vy, none)
  | .and => (vx &&& vy, none)
  | .xor => (vx ^^^ vy, none)
  | .add => (vx + vy, some (if vx.toNat + vy.toNat > 255 then 1 else 0))
  | .subtract => (vx - vy, some (if vy ≤ vx then 1 else 0))
  | .shiftRight => (shifted >>> 1, some (shifted &&& 1))
  | .subtractFrom => (vy - vx, some (if vx ≤ vy then 1 else 0))
  | .shiftLeft => (shifted <<< 1, some (shifted >>> 7))

namespace Machine

/-- The flag is written after the result, so it wins where both share a register. -/
def combine (machine : Machine) (operator : Operator) (x y : Register) : Machine :=
  let vx := machine.register x
  let vy := machine.register y
  let (result, flag) := operator.apply vx vy (if machine.shiftsInPlace then vx else vy)
  match flag with
  | none => machine.setRegister x result
  | some flag => (machine.setRegister x result).setRegister Registers.flag flag

def decimalDigits (value : UInt8) : List UInt8 :=
  [value / 100, value / 10 % 10, value % 10]

def indexBehind (machine : Machine) (x : Register) : UInt16 :=
  machine.index + UInt16.ofNat (x + 1)

def drawCall (machine : Machine) (x y : Register) (height : Fin 16) : ScreenCall :=
  .draw machine.index (machine.register x &&& 0x3F) (machine.register y &&& 0x1F)
    (UInt8.ofNat height)

end Machine

namespace Instruction

def advance (update : Machine → Machine) : Move (Step × Operation) := do
  Move.change update
  return (.next, .advanced)

def branch (step : Machine → Step) : Move (Step × Operation) :=
  return (step (← Move.machine), .advanced)

def paint (blitter : Blitter) (call : ScreenCall) : Move (Step × Operation) := do
  Move.callScreen blitter call
  return (.next, .drew)

def carryOut (blitter : Blitter) : Instruction → Move (Step × Operation)
  | .clearScreen => paint blitter .clear
  | .leave => do
      let origin ← Move.pop
      Move.record (.returned origin)
      return (.jump (origin + 2), .advanced)
  | .jump target => branch fun _ => .jump (UInt16.ofNat target)
  | .call target => do
      let origin := (← Move.machine).counter
      Move.push origin
      Move.record (.called (UInt16.ofNat target) origin)
      return (.jump (UInt16.ofNat target), .advanced)
  | .skipIfEqual x value =>
      branch fun machine => .skipWhen (machine.register x == value)
  | .skipUnlessEqual x value =>
      branch fun machine => .skipWhen (machine.register x != value)
  | .skipIfSame x y =>
      branch fun machine => .skipWhen (machine.register x == machine.register y)
  | .assign x value => advance (·.setRegister x value)
  | .increase x value =>
      advance fun machine => machine.setRegister x (machine.register x + value)
  | .combine operator x y => advance (·.combine operator x y)
  | .skipUnlessSame x y =>
      branch fun machine => .skipWhen (machine.register x != machine.register y)
  | .point target => advance ({ · with index := UInt16.ofNat target })
  | .jumpOffset target => do
      let offset := (← Move.machine).register Registers.first
      Move.demand (target + offset.toNat < 0x10000)
      return (.jump (UInt16.ofNat target + offset.toUInt16), .advanced)
  | .randomize x mask => do
      let value ← Move.nextRandom
      advance (·.setRegister x (mask &&& value))
  | .draw x y height => do
      paint blitter ((← Move.machine).drawCall x y height)
  | .skipIfPressed x =>
      branch fun machine =>
        .skipWhen (machine.keypad.isDown (machine.register x).toNat)
  | .skipUnlessPressed x =>
      branch fun machine =>
        .skipWhen (!machine.keypad.isDown (machine.register x).toNat)
  | .readDelay x => advance fun machine => machine.setRegister x machine.clock.delay
  | .awaitKey x => do
      match (← Move.machine).keypad.lowestDown? with
      | some key => advance (·.setRegister x (UInt8.ofNat key))
      | none => return (.stay, .waiting)
  | .setDelay x =>
      advance fun machine =>
        { machine with clock := { machine.clock with delay := machine.register x } }
  | .setSound x =>
      advance fun machine =>
        { machine with clock := { machine.clock with sound := machine.register x } }
  | .advanceIndex x =>
      advance fun machine =>
        { machine with index := machine.index + (machine.register x).toUInt16 }
  | .pointAtGlyph x =>
      advance fun machine =>
        { machine with
          index := UInt16.ofNat
            (Layout.glyphStart + Layout.glyphBytes * (machine.register x).toNat) }
  | .storeDecimal x => do
      let machine ← Move.machine
      Move.work (Work.writeRange machine.index.toNat 3
        (Machine.decimalDigits (machine.register x)))
      return (.next, .advanced)
  | .storeRegisters x => do
      let machine ← Move.machine
      let values := machine.registers.toList.take (x + 1)
      Move.work (Work.writeRange machine.index.toNat (x + 1) values)
      advance ({ · with index := machine.indexBehind x })
  | .loadRegisters x => do
      let machine ← Move.machine
      let values ← Move.work (Work.readRange machine.index.toNat (x + 1))
      Move.demand (values.length = x + 1 ∧ x < Layout.registerCount)
      Move.change fun machine =>
        { machine with registers := machine.registers.replaceFirst values }
      advance ({ · with index := machine.indexBehind x })

end Instruction

end ChipEight
