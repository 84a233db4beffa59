import ChipEight.Proofs.Control

namespace ChipEight

/-! What a tick that succeeds tells its host. The instruction says it, and for waiting the
keys do; whoever draws on the screen has no say in it. -/

namespace Instruction

def operation (machine : Machine) : Instruction → Operation
  | .clearScreen | .draw _ _ _ => .drew
  | .awaitKey _ => if machine.keypad.lowestDown? = none then .waiting else .advanced
  | _ => .advanced

variable {blitter : Blitter} {machine : Machine} {random : RandomSource}
  {instruction : Instruction} {effect : Effect}

theorem operation_of_perform
    (performed : instruction.perform blitter machine random = .ok effect) :
    effect.operation = instruction.operation machine := by
  cases instruction with
  | clearScreen | draw =>
      obtain ⟨drawn, _, rfl⟩ := mapped_eq_ok performed
      rfl
  | leave =>
      obtain ⟨⟨origin, stack⟩, _, rfl⟩ := mapped_eq_ok performed
      rfl
  | call target =>
      obtain ⟨stack, _, rfl⟩ := mapped_eq_ok performed
      rfl
  | awaitKey x =>
      rcases awaited_eq_ok performed with ⟨up, rfl⟩ | ⟨key, down, rfl⟩
      · simp [operation, up]
      · simp [operation, down]
  | storeDecimal | storeRegisters | loadRegisters =>
      obtain ⟨after, _, rfl⟩ := accessed_eq_ok performed
      rfl
  | jump | jumpOffset | skipIfEqual | skipUnlessEqual | skipIfSame | skipUnlessSame
  | skipIfPressed | skipUnlessPressed =>
      cases performed
      rfl
  | assign | increase | combine | point | randomize | readDelay | setDelay | setSound
  | advanceIndex | pointAtGlyph =>
      cases performed
      rfl

theorem operation_eq_drew_iff :
    instruction.operation machine = .drew ↔
      ∃ call, instruction.screenCall? machine = some call := by
  cases instruction with
  | awaitKey x => simp [operation, screenCall?, ite_eq_iff]
  | _ => simp [operation, screenCall?]

end Instruction

/-- An opcode outside the instruction set is passed over. -/
def Opcode.operation (opcode : Opcode) (machine : Machine) : Operation :=
  match Instruction.decode? opcode with
  | none => .advanced
  | some instruction => instruction.operation machine

namespace Processor

variable {blitter : Blitter} {processor : Processor} {opcode : Opcode}
  {operation : Operation}

theorem dispatch_outcome (blitter : Blitter) (processor : Processor)
    (instruction : Instruction) :
    (processor.dispatch blitter instruction).outcome =
      (instruction.perform blitter processor.machine processor.random).map
        fun effect => (effect.step, effect.operation) := by
  cases calls : instruction.screenCall? processor.machine with
  | none =>
      have follows := dispatch_silent blitter processor calls
      cases performed :
          instruction.perform blitter processor.machine processor.random with
      | error fault =>
          rw [performed] at follows
          exact follows.outcome_eq
      | ok effect =>
          rw [performed] at follows
          exact follows.outcome_eq
  | some call =>
      simp only [dispatch, Instruction.run_carryOut_eq_paint calls,
        Instruction.perform_eq_painted calls, Instruction.paint, Move.callScreen,
        Instruction.painted, Blitter.attempt, EStateM.run_bind, EStateM.run_modify,
        Move.run_work]
      cases (blitter.carryOut call).run { machine := processor.machine } with
      | ok result bench => rfl
      | error fault bench => rfl

theorem execute_outcome (blitter : Blitter) (processor : Processor)
    (instruction : Instruction) :
    (processor.execute blitter instruction).outcome =
      (instruction.perform blitter processor.machine processor.random).map
        (·.operation) := by
  have outcome := dispatch_outcome blitter processor instruction
  cases performed : instruction.perform blitter processor.machine processor.random with
  | error fault =>
      rw [performed] at outcome
      simp only [execute, outcome]
      rfl
  | ok effect =>
      rw [performed] at outcome
      simp only [execute, outcome]
      rfl

theorem finish_outcome (report : Report Operation) :
    (finish report).outcome = report.outcome := by
  unfold finish
  split
  · rfl
  · rfl
  · rfl

theorem operation_of_tick (fetched : processor.machine.fetch = .ok opcode)
    (succeeded : (processor.tick blitter).outcome = .ok operation) :
    operation = opcode.operation processor.machine := by
  unfold Machine.fetch at fetched
  simp only [tick, fetched, finish_outcome] at succeeded
  unfold Opcode.operation
  cases decoded : Instruction.decode? opcode with
  | none =>
      rw [decoded] at succeeded
      exact (Except.ok.inj succeeded).symm
  | some instruction =>
      simp only [decoded, execute_outcome] at succeeded
      cases performed :
          instruction.perform blitter processor.machine processor.random with
      | error fault =>
          rw [performed] at succeeded
          cases succeeded
      | ok effect =>
          rw [performed] at succeeded
          cases succeeded
          exact Instruction.operation_of_perform performed

end Processor

end ChipEight
