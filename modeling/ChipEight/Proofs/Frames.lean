import ChipEight.Proofs.History
import ChipEight.Proofs.Reachability

namespace ChipEight.Console

/-! A frame is a run of its processor, begun with the keys the host hands in. What it
reports is read off that run. -/

/-- The processor so many ticks into a frame, or where the frame was broken off. -/
def within (console : Console) (keypad : Keypad) (count : Nat) : Processor :=
  ((console.processor.press keypad).run Blitter.xor count).processor

/-- The ticks of a frame, before anything is shown or sounded. -/
def ticks (console : Console) (keypad : Keypad) : Processor.Run :=
  (console.processor.press keypad).run Blitter.xor console.cyclesPerFrame

theorem frame_processor (console : Console) (keypad : Keypad) :
    (console.frame keypad).console.processor =
      console.within keypad console.cyclesPerFrame := by
  obtain ⟨beeping, after⟩ := console.frame_console keypad
  rw [after]
  rfl

theorem frame_cyclesPerFrame (console : Console) (keypad : Keypad) :
    (console.frame keypad).console.cyclesPerFrame = console.cyclesPerFrame := by
  obtain ⟨beeping, after⟩ := console.frame_console keypad
  rw [after]

theorem frame_outcome (console : Console) (keypad : Keypad) :
    (console.frame keypad).outcome =
      match (console.ticks keypad).stopped with
      | some fault => .error fault
      | none =>
          .ok (((console.ticks keypad).ticks.getLast?.map (·.operation)).getD .advanced) := by
  simp only [frame, ticks, Processor.press]
  generalize Processor.run Blitter.xor _ _ = run
  cases run.stopped <;> rfl

theorem frame_picture (console : Console) (keypad : Keypad) :
    (console.frame keypad).picture =
      match (console.ticks keypad).stopped with
      | some _ => none
      | none => some (console.ticks keypad).processor.machine.picture := by
  simp only [frame, ticks, Processor.press]
  generalize Processor.run Blitter.xor _ _ = run
  cases run.stopped <;> rfl

theorem frame_records (console : Console) (keypad : Keypad) :
    (console.frame keypad).records = (console.ticks keypad).records := by
  simp only [frame, ticks, Processor.press]
  generalize Processor.run Blitter.xor _ _ = run
  cases run.stopped <;> rfl

theorem frame_eq_error_iff {console : Console} {keypad : Keypad} {fault : Fault} :
    (console.frame keypad).outcome = .error fault ↔
      (console.ticks keypad).stopped = some fault := by
  rw [frame_outcome]
  cases (console.ticks keypad).stopped with
  | none => simp
  | some cause => simp

theorem frame_beeping (console : Console) (keypad : Keypad) :
    (console.frame keypad).console.beeping =
      match (console.ticks keypad).stopped with
      | some _ => console.beeping
      | none => (console.ticks keypad).processor.machine.clock.isSounding := by
  simp only [frame, ticks, Processor.press]
  generalize Processor.run Blitter.xor _ _ = run
  cases run.stopped <;> rfl

@[simp] theorem beeps_self (beeping : Bool) : beeps beeping beeping = [] := by
  cases beeping <;> rfl

/-- The beeper is told of nothing but what a frame changes about it. -/
theorem frame_beeps (console : Console) (keypad : Keypad) :
    (console.frame keypad).beeps =
      beeps console.beeping (console.frame keypad).console.beeping := by
  simp only [frame]
  generalize Processor.run Blitter.xor _ _ = run
  cases run.stopped with
  | none => rfl
  | some fault => exact (beeps_self console.beeping).symm

/-- A frame that fails shows and sounds nothing. -/
theorem frame_failed {console : Console} {keypad : Keypad} {fault : Fault}
    (failed : (console.frame keypad).outcome = .error fault) :
    (console.frame keypad).picture = none ∧ (console.frame keypad).beeps = [] ∧
      (console.frame keypad).console.beeping = console.beeping := by
  have stopped := frame_eq_error_iff.mp failed
  have kept : (console.frame keypad).console.beeping = console.beeping := by
    rw [frame_beeping, stopped]
  exact ⟨by rw [frame_picture, stopped], by rw [frame_beeps, kept, beeps_self], kept⟩

theorem frame_succeeded {console : Console} {keypad : Keypad} {operation : Operation}
    (succeeded : (console.frame keypad).outcome = .ok operation) :
    (console.frame keypad).picture =
      some (console.frame keypad).console.processor.machine.picture := by
  rw [frame_picture, frame_processor]
  cases stopped : (console.ticks keypad).stopped with
  | some fault => cases (frame_eq_error_iff.mpr stopped).symm.trans succeeded
  | none => rfl

end ChipEight.Console
