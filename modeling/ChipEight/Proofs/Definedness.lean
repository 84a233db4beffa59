import ChipEight.Proofs.Drawing
import ChipEight.Proofs.Effect

namespace ChipEight

/-! With the whole screen in memory no tick leaves the domain of an operation: every
byte that is written is there, no range is filled with more or fewer bytes than it has,
no byte is shifted by more than its width and no jump leaves the sixteen bits. -/

/-- Work that keeps to the domain of its operations, refused or not. -/
def Work.KeepsDefined {Cause Result : Type} (work : Work Cause Result) (bench : Bench) :
    Prop :=
  match work.run bench with
  | .ok _ after | .error _ after => after.defined = bench.defined

theorem Blitter.xor_keepsDefined (call : ScreenCall) (bench : Bench)
    (holds : bench.machine.memory.HoldsScreen) :
    (Blitter.xor.carryOut call).KeepsDefined bench := by
  unfold Work.KeepsDefined
  cases call with
  | clear =>
      unfold Memory.HoldsScreen at holds
      simp only [xor, clear, EStateM.run_bind, Work.run_machine, Work.run_demand,
        Work.run_change, holds, decide_true, Bool.and_true]
  | draw address x y height =>
      cases read : bench.machine.memory.read address.toNat (Stamp.visibleRows y height) with
      | error fault =>
          simp only [xor, run_draw_refused x bench read]
      | ok rows =>
          obtain ⟨_, _, _, run, _, flips⟩ := run_draw x bench read
          simp only [xor, run]
          exact (flips holds).1

namespace Processor

variable {processor : Processor}

theorem dispatch_defined (processor : Processor)
    (holds : processor.machine.memory.HoldsScreen) (instruction : Instruction) :
    (processor.dispatch Blitter.xor instruction).defined = true := by
  cases calls : instruction.screenCall? processor.machine with
  | none =>
      simp only [dispatch, Instruction.run_carryOut_eq_ended calls]
      cases instruction.perform Blitter.xor processor.machine processor.random with
      | error fault => rfl
      | ok effect => rfl
  | some call =>
      have kept := Blitter.xor_keepsDefined call { machine := processor.machine } holds
      unfold Work.KeepsDefined at kept
      simp only [dispatch, Instruction.run_carryOut_eq_paint calls, Instruction.paint,
        Move.callScreen, EStateM.run_bind, EStateM.run_modify, Move.run_work]
      cases painted : (Blitter.xor.carryOut call).run { machine := processor.machine } with
      | ok result bench =>
          rw [painted] at kept
          exact kept
      | error fault bench =>
          rw [painted] at kept
          exact kept

theorem defined_execute (blitter : Blitter) (processor : Processor)
    (instruction : Instruction) :
    (processor.execute blitter instruction).defined =
      (processor.dispatch blitter instruction).defined := by
  cases dispatched : (processor.dispatch blitter instruction).outcome with
  | error fault => simp only [execute, dispatched]
  | ok taken => simp only [execute, dispatched]

theorem defined_finish (report : Report Operation) :
    (finish report).defined = report.defined := by
  unfold finish
  split
  · rfl
  · rfl
  · rfl

theorem tick_defined (holds : processor.machine.memory.HoldsScreen) :
    (processor.tick Blitter.xor).defined = true := by
  cases fetched : processor.machine.memory.wordAt processor.machine.counter.toNat with
  | error fault => simp only [tick, fetched]
  | ok opcode =>
      simp only [tick, fetched, defined_finish]
      cases Instruction.decode? opcode with
      | none => rfl
      | some instruction =>
          simp only [defined_execute]
          exact dispatch_defined { processor with opcode } holds instruction

end Processor

end ChipEight
