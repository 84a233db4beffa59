import Mathlib.Algebra.GroupWithZero.Nat
import ChipEight.Proofs.Standstill

namespace ChipEight

/-! Where one frame ends and the next begins makes no difference. A frame does nothing to
the machine but hand in its keys, and those it has already; a tick that fails is repeated by
the frames after it to no effect. So frames with the same keys come to one frame with all
their cycles. -/

/-- The screen of a memory: its pixels lie row after row, eight to a byte, the leftmost one
in the highest bit. -/
structure Picture.Depicts (picture : Picture Bool) (memory : Memory) : Prop where
  size_eq : picture.pixels.size = 2048
  pixel_eq : ∀ x < 64, ∀ y < 32, picture.pixel? x y =
    some ((memory.byte (0xF00 + (8 * y + x / 8))).toNat.testBit (7 - x % 8))

theorem Machine.picture_depicts (machine : Machine) : machine.picture.Depicts machine.memory where
  size_eq := Picture.size_pixels_ofBitmap _ _ _
  pixel_eq x xInside y yInside := by
    have corner : Layout.screenStart = 0xF00 := rfl
    rw [picture, Picture.pixel?_ofBitmap xInside yInside, bitmap,
      Memory.pixel_bitmap machine.memory xInside yInside, corner]
    simp

namespace Processor

variable {processor : Processor} {count last : Nat}

theorem run_keeps (holds : processor.machine.memory.HoldsScreen) (count : Nat) :
    (processor.run Blitter.xor count).processor.machine.memory.size =
        processor.machine.memory.size ∧
      (processor.run Blitter.xor count).processor.machine.keypad =
        processor.machine.keypad := by
  induction count generalizing processor with
  | zero => exact ⟨rfl, rfl⟩
  | succ count ih =>
      have size := (tick_memory holds).1
      have keypad := tick_keypad holds
      cases outcome : (processor.tick Blitter.xor).outcome with
      | error fault =>
          simp only [run, outcome]
          exact ⟨size, keypad⟩
      | ok operation =>
          simp only [run, outcome]
          obtain ⟨sizeThen, keypadThen⟩ := ih (holds.of_size_eq size)
          exact ⟨sizeThen.trans size, keypadThen.trans keypad⟩

theorem length_ticks (unstopped : (processor.run Blitter.xor count).stopped = none) :
    (processor.run Blitter.xor count).ticks.length = count := by
  induction count generalizing processor with
  | zero => rfl
  | succ count ih =>
      cases outcome : (processor.tick Blitter.xor).outcome with
      | error fault =>
          simp only [run, outcome] at unstopped
          contradiction
      | ok operation =>
          simp only [run, outcome, List.length_cons] at unstopped ⊢
          rw [ih unstopped]

theorem press_held {keypad : Keypad} (held : processor.machine.keypad = keypad) :
    processor.press keypad = processor := by
  subst held
  rfl

/-- The two runs cannot be told apart by how they end. -/
structure Run.EndsAs (first second : Run) : Prop where
  processor_eq : first.processor = second.processor
  stopped_eq : first.stopped = second.stopped
  last_eq : first.stopped = none → first.ticks.getLast? = second.ticks.getLast?

theorem run_add_endsAs (processor : Processor) (count : Nat) (ticked : 0 < last) :
    (processor.run Blitter.xor (count + last)).EndsAs
      ((processor.run Blitter.xor count).processor.run Blitter.xor last) := by
  induction count generalizing processor with
  | zero =>
      rw [Nat.zero_add]
      exact ⟨rfl, rfl, fun _ => rfl⟩
  | succ count ih =>
      rw [Nat.succ_add]
      cases outcome : (processor.tick Blitter.xor).outcome with
      | error fault =>
          -- What fails now fails in all ticks to come, the last ones included.
          have stuck := stuck_of_failed outcome
          simp only [run, outcome]
          exact ⟨(stuck.run last).symm, (stuck.run_stopped ticked).symm,
            fun unstopped => absurd unstopped (Option.some_ne_none fault)⟩
      | ok operation =>
          simp only [run, outcome]
          obtain ⟨processor_eq, stopped_eq, last_eq⟩ := ih (processor.tick Blitter.xor).processor
          refine ⟨processor_eq, stopped_eq, fun unstopped => ?_⟩
          have length := length_ticks unstopped
          obtain ⟨tick, ticks, ticks_eq⟩ := List.exists_cons_of_length_pos
            (length ▸ Nat.add_pos_right count ticked)
          rw [← last_eq unstopped, ticks_eq, List.getLast?_cons_cons]

theorem run_add (processor : Processor) (count last : Nat) :
    (processor.run Blitter.xor (count + last)).processor =
      ((processor.run Blitter.xor count).processor.run Blitter.xor last).processor := by
  cases last with
  | zero => rfl
  | succ last => exact (run_add_endsAs processor count (Nat.succ_pos last)).processor_eq

end Processor

namespace Console

variable {console first second : Console} {keypad : Keypad} {last : Nat}

def paced (console : Console) (cyclesPerFrame : Nat) : Console :=
  { console with cyclesPerFrame }

/-- The console after frames with the same keys, each with its own number of cycles. -/
def playAll (keypad : Keypad) : Console → List Nat → Console
  | console, [] => console
  | console, cycles :: rest => playAll keypad ((console.paced cycles).frame keypad).console rest

theorem processor_playAll (holds : console.processor.machine.memory.HoldsScreen)
    (cycles : List Nat) :
    (console.playAll keypad cycles).processor.press keypad =
      ((console.processor.press keypad).run Blitter.xor cycles.sum).processor := by
  induction cycles generalizing console with
  | nil => rfl
  | cons count rest ih =>
      have pressed : (console.processor.press keypad).machine.memory.HoldsScreen := holds
      obtain ⟨size, held⟩ := Processor.run_keeps pressed count
      have after : ((console.paced count).frame keypad).console.processor =
          ((console.processor.press keypad).run Blitter.xor count).processor :=
        frame_processor _ _
      have again : ((console.paced count).frame keypad).console.processor.press keypad =
          ((console.processor.press keypad).run Blitter.xor count).processor := by
        rw [after]
        exact Processor.press_held held
      rw [playAll, ih (after ▸ pressed.of_size_eq size), again, List.sum_cons,
        Processor.run_add]

theorem frames_of_endsAs (alike : (first.ticks keypad).EndsAs (second.ticks keypad)) :
    (first.frame keypad).console.processor = (second.frame keypad).console.processor ∧
      (first.frame keypad).outcome = (second.frame keypad).outcome ∧
      (first.frame keypad).picture = (second.frame keypad).picture := by
  refine ⟨?_, ?_, ?_⟩
  · rw [frame_processor, frame_processor]
    exact alike.processor_eq
  · rw [frame_outcome, frame_outcome, ← alike.stopped_eq]
    cases stopped : (first.ticks keypad).stopped with
    | some fault => rfl
    | none => simp only [alike.last_eq stopped]
  · rw [frame_picture, frame_picture, ← alike.stopped_eq, alike.processor_eq]

/-- However many cycles are split into frames with the same keys, the machine, the opcode
fetched last and the random source end up as they do behind a single frame, and the last
frame comes to the same result and shows the same picture: none if it fails, and else that
of the memory it ends with. -/
theorem frames_join (console : Console) (keypad : Keypad) (cycles : List Nat) (last : Nat)
    (size : console.processor.machine.memory.size = Layout.memorySize) (ticked : 0 < last) :
    let parts := ((console.playAll keypad cycles).paced last).frame keypad
    let whole := (console.paced (cycles.sum + last)).frame keypad
    parts.console.processor = whole.console.processor ∧
    parts.outcome = whole.outcome ∧ parts.picture = whole.picture ∧
    (∀ fault, whole.outcome = .error fault → whole.picture = none) ∧
    (∀ operation, whole.outcome = .ok operation →
      ∃ picture, whole.picture = some picture ∧
        picture.Depicts whole.console.processor.machine.memory) := by
  intro parts whole
  have joined := Processor.run_add_endsAs (console.processor.press keypad) cycles.sum ticked
  rw [← processor_playAll (Memory.holdsScreen size)] at joined
  obtain ⟨processor, outcome, picture⟩ : whole.console.processor = parts.console.processor ∧
      whole.outcome = parts.outcome ∧ whole.picture = parts.picture :=
    frames_of_endsAs joined
  exact ⟨processor.symm, outcome.symm, picture.symm, fun _ failed => (frame_failed failed).1,
    fun _ succeeded => ⟨_, frame_succeeded succeeded, Machine.picture_depicts _⟩⟩

/-- Draws the top of a digit, and then only goes in a circle. -/
def marking : Console where
  processor := .ofMachine
    { Machine.initial with
      memory := Machine.initial.memory.storeAll Layout.programStart [0xD0, 0x01, 0x12, 0x02] }
    ⟨fun _ => 0, 0⟩
  cartridge := ⟨"MARKING", [0xD0, 0x01, 0x12, 0x02]⟩

set_option maxRecDepth 100000 in
theorem marking_joined :
    let marked := ((marking.playAll Keypad.released [1]).paced 2).frame Keypad.released
    let broken := ((overflowing.playAll Keypad.released [1, 2]).paced 1).frame Keypad.released
    marked.outcome = .ok .advanced ∧
    (∃ picture, marked.picture = some picture ∧ picture.pixel? 0 0 = some true) ∧
    broken.outcome = .error (.access ⟨0x1000, 0x1000⟩) ∧ broken.picture = none ∧
    broken.console.processor.random.drawn = 1 := by
  intro marked broken
  obtain ⟨_, outcome, shown, _, depicts⟩ := frames_join marking Keypad.released [1] 2
    ((Memory.size_storeAll _ _ _).trans Machine.size_initial) (by decide)
  obtain ⟨processor, failing, unshown, fails, _⟩ :=
    frames_join overflowing Keypad.released [1, 2] 1
      ((Memory.size_storeAll _ _ _).trans Machine.size_initial) (by decide)
  have ticked : ((marking.paced ([1].sum + 2)).ticks Keypad.released).stopped = none ∧
      ((marking.paced ([1].sum + 2)).ticks Keypad.released).ticks.getLast? =
        some ⟨0x1202, 0x202, .advanced⟩ := by decide +kernel
  have succeeded : ((marking.paced ([1].sum + 2)).frame Keypad.released).outcome =
      .ok .advanced := by
    rw [frame_outcome, ticked.1, ticked.2]
    rfl
  have lit : (((marking.paced ([1].sum + 2)).frame
      Keypad.released).console.processor.machine.memory.byte 0xF00).toNat.testBit 7 = true := by
    decide +kernel
  have failed : ((overflowing.paced ([1, 2].sum + 1)).frame Keypad.released).outcome =
      .error (.access ⟨0x1000, 0x1000⟩) := frame_eq_error_iff.mpr (by decide +kernel)
  have drew : ((overflowing.paced ([1, 2].sum + 1)).frame
      Keypad.released).console.processor.random.drawn = 1 := by decide +kernel
  obtain ⟨picture, picture_eq, depicted⟩ := depicts _ succeeded
  refine ⟨outcome.trans succeeded, ⟨picture, shown.trans picture_eq, ?_⟩,
    failing.trans failed, unshown.trans (fails _ failed), ?_⟩
  · rw [depicted.pixel_eq 0 (by decide) 0 (by decide)]
    exact congrArg some lit
  · rw [processor]
    exact drew

end Console

end ChipEight
