import ChipEight.Processor

namespace ChipEight

/-! What an instruction amounts to as a whole: it is either refused, and then there is
no new machine, or it yields a machine, with the counter still in place, together with
the step to take. `Processor.dispatch_spec` says that carrying an instruction out in
place comes to the same, so that nothing is written ahead of a check. -/

structure Effect where
  machine : Machine
  random : RandomSource
  step : Step := .next
  operation : Operation := .advanced
  records : List Record := []

@[simp] theorem Machine.length_decimalDigits (value : UInt8) :
    (decimalDigits value).length = 3 := rfl

theorem Registers.length_take (registers : Registers) (x : Register) :
    (registers.toList.take (x + 1)).length = x + 1 := by
  rw [List.length_take, Vector.length_toList]
  omega

namespace Instruction

def changed (random : RandomSource) (machine : Machine) : Except Fault Effect :=
  .ok { machine, random }

def branched (machine : Machine) (random : RandomSource) (step : Step) :
    Except Fault Effect :=
  .ok { machine, random, step }

def accessed (random : RandomSource) (result : Except AccessFault Machine) :
    Except Fault Effect :=
  (result.mapError .access).map fun machine => { machine, random }

def painted (blitter : Blitter) (machine : Machine) (random : RandomSource)
    (call : ScreenCall) : Except Fault Effect :=
  ((blitter call machine).mapError .access).map fun machine =>
    { machine, random, operation := .drew }

def perform (blitter : Blitter) (machine : Machine) (random : RandomSource) :
    Instruction → Except Fault Effect
  | .clearScreen => painted blitter machine random .clear
  | .leave =>
      (machine.stack.pop.mapError .stack).map fun (origin, stack) =>
        { machine := { machine with stack }
          random
          step := .jump (origin + 2)
          records := [.returned origin] }
  | .jump target => branched machine random (.jump (UInt16.ofNat target))
  | .call target =>
      ((machine.stack.push machine.counter).mapError .stack).map fun stack =>
        { machine := { machine with stack }
          random
          step := .jump (UInt16.ofNat target)
          records := [.called (UInt16.ofNat target) machine.counter] }
  | .skipIfEqual x value =>
      branched machine random (.skipWhen (machine.register x == value))
  | .skipUnlessEqual x value =>
      branched machine random (.skipWhen (machine.register x != value))
  | .skipIfSame x y =>
      branched machine random (.skipWhen (machine.register x == machine.register y))
  | .assign x value => changed random (machine.setRegister x value)
  | .increase x value =>
      changed random (machine.setRegister x (machine.register x + value))
  | .combine operator x y => changed random (machine.combine operator x y)
  | .skipUnlessSame x y =>
      branched machine random (.skipWhen (machine.register x != machine.register y))
  | .point target => changed random { machine with index := UInt16.ofNat target }
  | .jumpOffset target =>
      branched machine random
        (.jump (UInt16.ofNat target + (machine.register Registers.first).toUInt16))
  | .randomize x mask =>
      changed random.next.2 (machine.setRegister x (mask &&& random.next.1))
  | .draw x y height =>
      painted blitter machine random (machine.drawCall x y height)
  | .skipIfPressed x =>
      branched machine random
        (.skipWhen (machine.keypad.isDown (machine.register x).toNat))
  | .skipUnlessPressed x =>
      branched machine random
        (.skipWhen (!machine.keypad.isDown (machine.register x).toNat))
  | .readDelay x => changed random (machine.setRegister x machine.clock.delay)
  | .awaitKey x =>
      match machine.keypad.lowestDown? with
      | some key => changed random (machine.setRegister x (UInt8.ofNat key))
      | none => .ok { machine, random, step := .stay, operation := .waiting }
  | .setDelay x =>
      changed random
        { machine with clock := { machine.clock with delay := machine.register x } }
  | .setSound x =>
      changed random
        { machine with clock := { machine.clock with sound := machine.register x } }
  | .advanceIndex x =>
      changed random
        { machine with index := machine.index + (machine.register x).toUInt16 }
  | .pointAtGlyph x =>
      changed random
        { machine with
          index := UInt16.ofNat
            (Layout.glyphStart + Layout.glyphBytes * (machine.register x).toNat) }
  | .storeDecimal x =>
      accessed random <|
        (machine.memory.write machine.index.toNat
          (Machine.decimalDigits (machine.register x))).map fun memory =>
            { machine with memory }
  | .storeRegisters x =>
      accessed random <|
        (machine.memory.write machine.index.toNat
          (machine.registers.toList.take (x + 1))).map fun memory =>
            { machine with memory, index := machine.indexBehind x }
  | .loadRegisters x =>
      accessed random <|
        (machine.memory.read machine.index.toNat (x + 1)).map fun values =>
          { machine with
            registers := machine.registers.replaceFirst values
            index := machine.indexBehind x }

def screenCall? (machine : Machine) : Instruction → Option ScreenCall
  | .clearScreen => some .clear
  | .draw x y height => some (machine.drawCall x y height)
  | _ => none

variable {blitter : Blitter} {machine : Machine} {random : RandomSource}
  {instruction : Instruction} {call : ScreenCall}

theorem perform_eq_painted (calls : instruction.screenCall? machine = some call) :
    instruction.perform blitter machine random = painted blitter machine random call := by
  cases instruction with
  | clearScreen =>
      cases calls
      rfl
  | draw x y height =>
      cases calls
      rfl
  | _ => contradiction

theorem run_carryOut_eq_paint (calls : instruction.screenCall? machine = some call) :
    (instruction.carryOut blitter).run { machine, random } =
      (paint blitter call).run { machine, random } := by
  cases instruction with
  | clearScreen =>
      cases calls
      rfl
  | draw x y height =>
      cases calls
      rfl
  | _ => contradiction

/-- The turn behind an effect that took place, or was refused, without the blitter. -/
def ended (machine : Machine) (random : RandomSource) : Except Fault Effect →
    EStateM.Result Fault Turn (Step × Operation)
  | .error fault => .error fault { machine, random }
  | .ok effect =>
      .ok (effect.step, effect.operation)
        { machine := effect.machine, random := effect.random, records := effect.records }

theorem run_carryOut_eq_ended (silent : instruction.screenCall? machine = none) :
    (instruction.carryOut blitter).run { machine, random } =
      ended machine random (instruction.perform blitter machine random) := by
  cases instruction with
  | clearScreen | draw => contradiction
  | leave =>
      simp only [carryOut, perform, EStateM.run_bind, Move.run_pop]
      cases machine.stack.pop with
      | error cause => rfl
      | ok popped => rfl
  | call target =>
      simp only [carryOut, perform, EStateM.run_bind, Move.run_machine, Move.run_push]
      cases machine.stack.push machine.counter with
      | error cause => rfl
      | ok pushed => rfl
  | jumpOffset target =>
      have small : target.val + (machine.register Registers.first).toNat < 0x10000 := by
        have := (machine.register Registers.first).toNat_lt
        omega
      simp only [carryOut, perform, EStateM.run_bind, Move.run_machine, Move.run_demand,
        small, decide_true, Bool.and_true]
      rfl
  | awaitKey x =>
      simp only [carryOut, perform, EStateM.run_bind, Move.run_machine]
      cases machine.keypad.lowestDown? with
      | none => rfl
      | some key => rfl
  | storeDecimal x =>
      simp only [carryOut, perform, EStateM.run_bind, Move.run_machine, Move.run_work,
        Work.run_writeRange (Machine.length_decimalDigits _)]
      cases machine.memory.write machine.index.toNat
          (Machine.decimalDigits (machine.register x)) with
      | error fault => rfl
      | ok memory => rfl
  | storeRegisters x =>
      simp only [carryOut, perform, EStateM.run_bind, Move.run_machine, Move.run_work,
        Work.run_writeRange (Registers.length_take _ x)]
      cases machine.memory.write machine.index.toNat
          (machine.registers.toList.take (x + 1)) with
      | error fault => rfl
      | ok memory => rfl
  | loadRegisters x =>
      simp only [carryOut, perform, EStateM.run_bind, Move.run_machine, Move.run_work,
        Work.run_readRange]
      cases read : machine.memory.read machine.index.toNat (x + 1) with
      | error fault => rfl
      | ok values =>
          have fits : values.length = x + 1 ∧ x.val < Layout.registerCount := by
            rw [(Memory.read_eq_ok read).2, Memory.length_slice]
            exact ⟨rfl, x.isLt⟩
          simp only [Move.run_demand, fits]
          rfl
  | jump | skipIfEqual | skipUnlessEqual | skipIfSame | skipUnlessSame
  | skipIfPressed | skipUnlessPressed => rfl
  | assign | increase | combine | point | randomize | readDelay | setDelay | setSound
  | advanceIndex | pointAtGlyph => rfl

end Instruction

def Blitter.Atomic (blitter : Blitter) : Prop :=
  ∀ call machine fault bench,
    (blitter.carryOut call).run { machine } = .error fault bench →
      bench.machine = machine

/-- What a report says, apart from what passed between the machine and its screen. -/
structure Report.Shows {Result : Type} (report : Report Result)
    (outcome : Except Fault Result) (processor : Processor) (records : List Record) :
    Prop where
  outcome_eq : report.outcome = outcome
  processor_eq : report.processor = processor
  records_eq : report.records = records

def Report.Follows (report : Report (Step × Operation)) (processor : Processor) :
    Except Fault Effect → Prop
  | .error fault => report.Shows (.error fault) processor []
  | .ok effect =>
      report.Shows (.ok (effect.step, effect.operation))
        { processor with machine := effect.machine, random := effect.random }
        effect.records

namespace Processor

variable {blitter : Blitter}

theorem dispatch_silent (blitter : Blitter) (processor : Processor)
    {instruction : Instruction}
    (silent : instruction.screenCall? processor.machine = none) :
    (processor.dispatch blitter instruction).Follows processor
      (instruction.perform blitter processor.machine processor.random) := by
  simp only [dispatch, Instruction.run_carryOut_eq_ended silent]
  cases instruction.perform blitter processor.machine processor.random with
  | error fault => exact ⟨rfl, rfl, rfl⟩
  | ok effect => exact ⟨rfl, rfl, rfl⟩

/-- Carrying an instruction out in place comes to its effect as a whole. -/
theorem dispatch_spec (atomic : blitter.Atomic) (processor : Processor)
    (instruction : Instruction) :
    (processor.dispatch blitter instruction).Follows processor
      (instruction.perform blitter processor.machine processor.random) := by
  cases calls : instruction.screenCall? processor.machine with
  | none => exact dispatch_silent blitter processor calls
  | some call =>
      have refusal := atomic call processor.machine
      simp only [dispatch, Instruction.run_carryOut_eq_paint calls,
        Instruction.perform_eq_painted calls, Instruction.paint, Move.callScreen,
        Instruction.painted, Blitter.attempt, EStateM.run_bind, EStateM.run_modify,
        Move.run_work]
      cases painted : (blitter.carryOut call).run { machine := processor.machine } with
      | ok result bench => exact ⟨rfl, rfl, rfl⟩
      | error fault bench =>
          have kept := refusal fault bench painted
          refine ⟨rfl, ?_, rfl⟩
          simp only [kept]

end Processor

end ChipEight
