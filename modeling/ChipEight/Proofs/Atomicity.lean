import ChipEight.Proofs.Tick

namespace ChipEight.Processor

/-! A tick that fails leaves the machine and the random source alone. -/

def opcodeAfterFetch (processor : Processor) : Opcode :=
  match processor.machine.fetch with
  | .ok opcode => opcode
  | .error _ => processor.opcode

theorem failed_tick_keeps_all_but_opcode (processor : Processor) :
    (∀ fault, (processor.tick Blitter.xor).outcome = .error fault →
      (processor.tick Blitter.xor).processor =
        { processor with opcode := processor.opcodeAfterFetch }) ∧
    (∀ instruction fault,
      (processor.execute Blitter.xor instruction).outcome = .error fault →
        (processor.execute Blitter.xor instruction).processor = processor) := by
  constructor
  · intro fault failed
    unfold opcodeAfterFetch
    cases fetched : processor.machine.fetch with
    | error cause => exact (tick_unfetched Blitter.xor fetched).processor_eq
    | ok opcode =>
        cases performed : opcode.perform processor.machine processor.random with
        | error cause => exact (tick_refused fetched performed).processor_eq
        | ok effect =>
            rw [(tick_performed fetched performed).outcome_eq] at failed
            contradiction
  · intro instruction fault failed
    cases performed :
        instruction.perform Blitter.xor processor.machine processor.random with
    | error cause => exact (execute_refused processor Blitter.xor_atomic performed).processor_eq
    | ok effect =>
        rw [(execute_performed processor Blitter.xor_atomic performed).outcome_eq] at failed
        contradiction

/-- Four registers at an index where two bytes are left. -/
private def storingPastEnd : Processor :=
  let memory := Machine.initial.memory.storeAll Layout.programStart [0xF3, 0x55]
  ofMachine { Machine.initial with memory, index := 0xFFE } ⟨fun _ => 0, 0⟩

set_option maxRecDepth 100000 in
theorem storingPastEnd_keeps_all_but_opcode :
    (storingPastEnd.tick Blitter.xor).outcome = .error (.access ⟨0x1001, 0x1000⟩) ∧
    (storingPastEnd.tick Blitter.xor).processor = { storingPastEnd with opcode := 0xF355 } ∧
    (storingPastEnd.execute Blitter.xor (.storeRegisters 3)).processor = storingPastEnd := by
  have ticked : (storingPastEnd.tick Blitter.xor).outcome =
      .error (.access ⟨0x1001, 0x1000⟩) := rfl
  have executed : (storingPastEnd.execute Blitter.xor (.storeRegisters 3)).outcome =
      .error (.access ⟨0x1001, 0x1000⟩) := rfl
  obtain ⟨afterTick, afterExecute⟩ := failed_tick_keeps_all_but_opcode storingPastEnd
  exact ⟨ticked, afterTick _ ticked, afterExecute _ _ executed⟩

end ChipEight.Processor
