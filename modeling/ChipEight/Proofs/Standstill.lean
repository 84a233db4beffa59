import ChipEight.Proofs.Footprint
import ChipEight.Proofs.Refusal
import ChipEight.Proofs.Restart

namespace ChipEight

/-! A fault is for good. No cause of a fault lies in the keys, and a tick that fails leaves
the machine as it finds it, so that from the first fault on nothing happens any more: every
further frame fails for the same cause, and all it does is to hand in its keys. -/

theorem Instruction.refusal?_press (machine : Machine) (keypad : Keypad)
    (instruction : Instruction) :
    instruction.refusal? { machine with keypad } = instruction.refusal? machine := by
  cases instruction <;> rfl

namespace Processor

/-- Why every tick fails from here on. The opcode that is refused has been fetched. -/
inductive Stuck (processor : Processor) : Fault → Prop
  | unfetched {cause : AccessFault} (missing : processor.machine.fetch = .error cause) :
      Stuck processor (.access cause)
  | refused {instruction : Instruction} {fault : Fault}
      (fetched : processor.machine.fetch = .ok processor.opcode)
      (decoded : Instruction.decode? processor.opcode = some instruction)
      (refusal : instruction.refusal? processor.machine = some fault) :
      Stuck processor fault

variable {processor : Processor} {fault : Fault} {count : Nat}

theorem perform_of_refusal? {opcode : Opcode} {instruction : Instruction}
    (decoded : Instruction.decode? opcode = some instruction)
    (refusal : instruction.refusal? processor.machine = some fault) :
    opcode.perform processor.machine processor.random = .error fault := by
  rw [Opcode.perform, decoded]
  exact Instruction.perform_eq_error_iff.mpr refusal

theorem stuck_of_failed (failed : (processor.tick Blitter.xor).outcome = .error fault) :
    (processor.tick Blitter.xor).processor.Stuck fault := by
  rcases tick_eq_error_iff.mp failed with
    ⟨cause, missing, rfl⟩ | ⟨opcode, instruction, fetched, decoded, refusal⟩
  · rw [(tick_unfetched Blitter.xor missing).processor_eq]
    exact .unfetched missing
  · rw [(tick_refused fetched (perform_of_refusal? decoded refusal)).processor_eq]
    exact .refused fetched decoded refusal

namespace Stuck

theorem press (stuck : processor.Stuck fault) (keypad : Keypad) :
    (processor.press keypad).Stuck fault := by
  cases stuck with
  | unfetched missing => exact .unfetched missing
  | refused fetched decoded refusal =>
      exact .refused fetched decoded ((Instruction.refusal?_press _ keypad _).trans refusal)

theorem tick (stuck : processor.Stuck fault) :
    (processor.tick Blitter.xor).outcome = .error fault ∧
      (processor.tick Blitter.xor).processor = processor := by
  cases stuck with
  | unfetched missing =>
      have shows := tick_unfetched Blitter.xor missing
      exact ⟨shows.outcome_eq, shows.processor_eq⟩
  | refused fetched decoded refusal =>
      have shows := tick_refused fetched (perform_of_refusal? decoded refusal)
      exact ⟨shows.outcome_eq, shows.processor_eq⟩

theorem run (stuck : processor.Stuck fault) (count : Nat) :
    (processor.run Blitter.xor count).processor = processor := by
  cases count with
  | zero => rfl
  | succ count =>
      simp only [Processor.run, stuck.tick.1]
      exact stuck.tick.2

theorem run_stopped (stuck : processor.Stuck fault) (ticked : 0 < count) :
    (processor.run Blitter.xor count).stopped = some fault := by
  cases count with
  | zero => contradiction
  | succ count => simp only [Processor.run, stuck.tick.1]

end Stuck

/-- The tick that stops a run. All before it succeed. -/
theorem exists_failed_tick (stopped : (processor.run Blitter.xor count).stopped = some fault) :
    ∃ done < count, (processor.run Blitter.xor done).stopped = none ∧
      ((processor.run Blitter.xor done).processor.tick Blitter.xor).outcome = .error fault ∧
      (processor.run Blitter.xor count).processor =
        ((processor.run Blitter.xor done).processor.tick Blitter.xor).processor := by
  induction count generalizing processor with
  | zero => cases stopped
  | succ count ih =>
      cases outcome : (processor.tick Blitter.xor).outcome with
      | error cause =>
          simp only [run, outcome] at stopped ⊢
          cases stopped
          exact ⟨0, Nat.succ_pos count, rfl, outcome, rfl⟩
      | ok operation =>
          simp only [run, outcome] at stopped ⊢
          obtain ⟨done, early, unstopped, failed, last⟩ := ih stopped
          refine ⟨done + 1, Nat.succ_lt_succ early, ?_, ?_, ?_⟩
          · simpa only [run, outcome] using unstopped
          · simpa only [run, outcome] using failed
          · simpa only [run, outcome] using last

end Processor

namespace Console

variable {console : Console} {keypad : Keypad} {fault : Fault}

def press (console : Console) (keypad : Keypad) : Console :=
  { console with processor := console.processor.press keypad }

structure Stuck (console : Console) (fault : Fault) : Prop where
  processor : console.processor.Stuck fault
  ticked : 0 < console.cyclesPerFrame

/-- A frame that fails and does nothing but hand in its keys. -/
structure FailsQuietly (console : Console) (keypad : Keypad) (fault : Fault) : Prop where
  outcome_eq : (console.frame keypad).outcome = .error fault
  picture_eq : (console.frame keypad).picture = none
  beeps_eq : (console.frame keypad).beeps = []
  console_eq : (console.frame keypad).console = console.press keypad

/-- A frame that fails breaks off at the tick that does. -/
theorem exists_failed_tick (failed : (console.frame keypad).outcome = .error fault) :
    ∃ done < console.cyclesPerFrame,
      ((console.processor.press keypad).run Blitter.xor done).stopped = none ∧
      ((console.within keypad done).tick Blitter.xor).outcome = .error fault ∧
      (console.frame keypad).console.processor =
        ((console.within keypad done).tick Blitter.xor).processor := by
  rw [frame_processor]
  exact Processor.exists_failed_tick (frame_eq_error_iff.mp failed)

theorem stuck_of_failed (failed : (console.frame keypad).outcome = .error fault) :
    (console.frame keypad).console.Stuck fault := by
  obtain ⟨done, early, _, failing, last⟩ := exists_failed_tick failed
  constructor
  · rw [last]
    exact Processor.stuck_of_failed failing
  · rw [frame_cyclesPerFrame]
    exact Nat.zero_lt_of_lt early

namespace Stuck

theorem press (stuck : console.Stuck fault) (keypad : Keypad) :
    (console.press keypad).Stuck fault :=
  ⟨stuck.processor.press keypad, stuck.ticked⟩

theorem failsQuietly (stuck : console.Stuck fault) (keypad : Keypad) :
    console.FailsQuietly keypad fault := by
  have pressed := stuck.processor.press keypad
  have failed : (console.frame keypad).outcome = .error fault :=
    frame_eq_error_iff.mpr (pressed.run_stopped stuck.ticked)
  obtain ⟨picture, beeps, beeping⟩ := frame_failed failed
  refine ⟨failed, picture, beeps, ?_⟩
  have processor : (console.frame keypad).console.processor = console.processor.press keypad := by
    rw [frame_processor]
    exact pressed.run console.cyclesPerFrame
  obtain ⟨_, after⟩ := console.frame_console keypad
  rw [after] at beeping processor ⊢
  simp only at beeping processor
  rw [beeping, processor, Console.press]

/-- But for the keys nothing is changed by any number of frames. -/
theorem history (stuck : console.Stuck fault) (keypads : Nat → Keypad) (moment : Nat) :
    (console.history keypads moment).Stuck fault ∧
      ∀ keypad, (console.history keypads moment).press keypad = console.press keypad := by
  induction moment with
  | zero => exact ⟨stuck, fun _ => rfl⟩
  | succ moment ih =>
      obtain ⟨stuckThen, same⟩ := ih
      rw [Console.history, (stuckThen.failsQuietly (keypads moment)).console_eq]
      exact ⟨stuckThen.press (keypads moment), same⟩

end Stuck

/-- A frame that fails shows and sounds nothing, and leaves the machine as it was before the
tick that failed. Every frame after it fails for the same cause, whatever its keys are, and
apart from them it leaves everything as the first one did. -/
theorem fault_persists (failed : (console.frame keypad).outcome = .error fault) :
    (console.frame keypad).picture = none ∧ (console.frame keypad).beeps = [] ∧
    (∃ done < console.cyclesPerFrame,
      ((console.processor.press keypad).run Blitter.xor done).stopped = none ∧
      ((console.within keypad done).tick Blitter.xor).outcome = .error fault ∧
      (console.frame keypad).console.processor.machine =
        (console.within keypad done).machine) ∧
    ∀ keypads moment,
      FailsQuietly ((console.frame keypad).console.history keypads moment) (keypads moment)
        fault ∧
      (console.frame keypad).console.history keypads (moment + 1) =
        (console.frame keypad).console.press (keypads moment) := by
  obtain ⟨picture, beeps, _⟩ := frame_failed failed
  obtain ⟨done, early, unstopped, failing, last⟩ := exists_failed_tick failed
  refine ⟨picture, beeps, ⟨done, early, unstopped, failing, ?_⟩, fun keypads moment => ?_⟩
  · rw [last]
    exact Processor.failed_tick_machine failing
  · obtain ⟨stuckThen, same⟩ := (stuck_of_failed failed).history keypads moment
    have quiet := stuckThen.failsQuietly (keypads moment)
    exact ⟨quiet, quiet.console_eq.trans (same (keypads moment))⟩

/-- Draws a random byte, and then stores three digits where only two have room. -/
def overflowing : Console where
  processor := .ofMachine
    { Machine.initial with
      memory := Machine.initial.memory.storeAll Layout.programStart [0xC1, 0xFF, 0xF1, 0x33]
      index := 0xFFE }
    ⟨fun _ => 200, 0⟩
  cartridge := ⟨"OVERFLOWING", [0xC1, 0xFF, 0xF1, 0x33]⟩

set_option maxRecDepth 100000 in
theorem overflowing_persists :
    let broken := (overflowing.frame Keypad.released).console
    (overflowing.frame Keypad.released).outcome = .error (.access ⟨0x1000, 0x1000⟩) ∧
    broken.processor.machine.register 1 = 200 ∧ broken.processor.random.drawn = 1 ∧
    ∀ keypads moment,
      FailsQuietly (broken.history keypads moment) (keypads moment)
        (.access ⟨0x1000, 0x1000⟩) ∧
      (broken.history keypads (moment + 1)).processor.random.drawn = 1 := by
  intro broken
  have failed : (overflowing.frame Keypad.released).outcome =
      .error (.access ⟨0x1000, 0x1000⟩) :=
    frame_eq_error_iff.mpr (by decide +kernel)
  have left : broken.processor.machine.register 1 = 200 ∧ broken.processor.random.drawn = 1 := by
    decide +kernel
  refine ⟨failed, left.1, left.2, fun keypads moment => ?_⟩
  obtain ⟨quiet, after⟩ := (fault_persists failed).2.2.2 keypads moment
  refine ⟨quiet, ?_⟩
  rw [after]
  exact left.2

end Console

end ChipEight
