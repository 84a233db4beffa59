import ChipEight.Proofs.Agreement
import ChipEight.Proofs.Frames
import ChipEight.Proofs.Loading

namespace ChipEight

/-! A reset makes a console as good as a new one with the same cartridge. Nothing of what
happened before is left in the machine but the keys and the shift mode; the last opcode
and the state of the beeper do stay, and make no difference to the frames that follow. -/

namespace Console

/-- The shift mode and the pace of another console. -/
def setUpLike (console model : Console) : Console :=
  { console with
    processor := console.processor.mapMachine
      ({ · with shiftsInPlace := model.processor.machine.shiftsInPlace })
    cyclesPerFrame := model.cyclesPerFrame }

/-- The console after so many frames, each with its own keys. -/
def history (start : Console) (keypads : Nat → Keypad) : Nat → Console
  | 0 => start
  | moment + 1 => ((start.history keypads moment).frame (keypads moment)).console

/-- The two frames give their hosts the same to see, and the machines go through the same
states. Only the calls of the beeper may differ. -/
structure FramesAlike (first second : Console) (keypad : Keypad) : Prop where
  outcome_eq : (first.frame keypad).outcome = (second.frame keypad).outcome
  picture_eq : (first.frame keypad).picture = (second.frame keypad).picture
  records_eq : (first.frame keypad).records = (second.frame keypad).records
  within_eq : ∀ count,
    (first.within keypad count).machine = (second.within keypad count).machine
  machine_eq :
    (first.frame keypad).console.processor.machine =
      (second.frame keypad).console.processor.machine

/-- No keypad tells the consoles apart. What keys are down now does not matter, since a
frame begins with those it is given. -/
structure Alike (first second : Console) : Prop where
  cycles_eq : first.cyclesPerFrame = second.cyclesPerFrame
  agrees : ∀ keypad,
    (first.processor.press keypad).Agrees (second.processor.press keypad)

variable {console first second : Console}

namespace Alike

theorem within_agrees (alike : first.Alike second) (keypad : Keypad) (count : Nat) :
    (first.within keypad count).Agrees (second.within keypad count) :=
  ((alike.agrees keypad).runsAlike count).agrees

theorem frame_agrees (alike : first.Alike second) (keypad : Keypad) :
    (first.frame keypad).console.processor.Agrees
      (second.frame keypad).console.processor := by
  rw [frame_processor, frame_processor, ← alike.cycles_eq]
  exact alike.within_agrees keypad first.cyclesPerFrame

theorem frame (alike : first.Alike second) (keypad : Keypad) :
    (first.frame keypad).console.Alike (second.frame keypad).console where
  cycles_eq := by
    rw [frame_cyclesPerFrame, frame_cyclesPerFrame, alike.cycles_eq]
  agrees other := (alike.frame_agrees keypad).press other

theorem framesAlike (alike : first.Alike second) (keypad : Keypad) :
    first.FramesAlike second keypad := by
  have runs := (alike.agrees keypad).runsAlike second.cyclesPerFrame
  have cycles_eq := alike.cycles_eq
  exact {
    outcome_eq := by
      simp only [frame_outcome, ticks, cycles_eq, runs.stopped_eq, runs.ticks_eq]
    picture_eq := by
      simp only [frame_picture, ticks, cycles_eq, runs.stopped_eq, runs.agrees.machine_eq]
    records_eq := by simp only [frame_records, ticks, cycles_eq, runs.records_eq]
    within_eq := fun count => (alike.within_agrees keypad count).machine_eq
    machine_eq := (alike.frame_agrees keypad).machine_eq }

theorem history (alike : first.Alike second) (keypads : Nat → Keypad) (moment : Nat) :
    (first.history keypads moment).Alike (second.history keypads moment) := by
  induction moment with
  | zero => exact alike
  | succ moment ih => exact ih.frame (keypads moment)

end Alike

/-- With a cartridge that fits, a new console and a reset one only differ in what the
reset leaves alone. -/
theorem reset_eq_insert (size_eq : console.processor.machine.memory.size = Layout.memorySize)
    (fits : console.cartridge.data.length ≤ Layout.programCapacity)
    (random : RandomSource) :
    ∃ machine,
      insert console.cartridge random =
        .ok { processor := .ofMachine machine random, cartridge := console.cartridge } ∧
      console.reset = .ok (console.withMachine
        { machine with
          keypad := console.processor.machine.keypad
          shiftsInPlace := console.processor.machine.shiftsInPlace }) := by
  obtain ⟨machine, loaded⟩ :
      ∃ machine, Machine.initial.loadProgram console.cartridge.data = .ok machine :=
    ⟨_, Machine.loadProgram_of_le fits _⟩
  refine ⟨machine, ?_, ?_⟩
  · rw [insert, loaded]
    rfl
  · rw [reset, Machine.reset_eq_initial size_eq, Machine.loadProgram_held _ _ loaded]
    rfl

/-- A cartridge is refused for its length alone. From any state a host can bring about, an
accepted one is loaded again by a reset, which leaves the machine as a new console has it,
with the keys and the shift mode of before. Played from there with any keys, the console
is like a new one that is set up alike and draws the same random bytes. -/
theorem reset_renews :
    (∀ cartridge random, (∃ fault, insert cartridge random = .error fault) ↔
      3584 < cartridge.data.length) ∧
    ∀ console : Console, console.Reachable → ∀ random, ∃ fresh restarted,
      insert console.cartridge random = .ok fresh ∧
      console.reset = .ok restarted ∧
      restarted = console.withMachine
        { fresh.processor.machine with
          keypad := console.processor.machine.keypad
          shiftsInPlace := console.processor.machine.shiftsInPlace } ∧
      (console.processor.random.SameBytes random →
        ∀ keypads moment, FramesAlike (restarted.history keypads moment)
          ((fresh.setUpLike console).history keypads moment) (keypads moment)) := by
  refine ⟨insert_eq_error_iff, fun console reached random => ?_⟩
  obtain ⟨machine, inserted, reset⟩ := reset_eq_insert reached.processor.wellFormed.size_eq
    reached.cartridge_fits random
  refine ⟨_, _, inserted, reset, rfl, fun same keypads moment => ?_⟩
  have alike : Alike (console.withMachine
      { machine with
        keypad := console.processor.machine.keypad
        shiftsInPlace := console.processor.machine.shiftsInPlace })
      (setUpLike { processor := .ofMachine machine random, cartridge := console.cartridge }
        console) :=
    { cycles_eq := rfl
      agrees := fun keypad => { machine_eq := rfl, sameBytes := same } }
  exact (alike.history keypads moment).framesAlike (keypads moment)

/-- Random bytes go over the glyphs, ever deeper in calls, while the beeper sounds. -/
def wearing : Console where
  processor := .ofMachine
    { Machine.initial with
      memory := Machine.initial.memory.storeAll Layout.programStart
        [0xC0, 0xFF, 0xF0, 0x18, 0xF1, 0x55, 0x22, 0x00] }
    ⟨fun position => UInt8.ofNat (7 * position + 1), 0⟩
  cartridge := ⟨"WEARING", [0xC0, 0xFF, 0xF0, 0x18, 0xF1, 0x55, 0x22, 0x00]⟩

theorem insert_wearing :
    insert wearing.cartridge wearing.processor.random = .ok wearing := by
  rw [insert, Machine.loadProgram_initial (by decide)]
  rfl

set_option maxRecDepth 100000 in
theorem wornConsole_renewed :
    let worn := (wearing.frame Keypad.released).console
    worn.processor.random.drawn = 3 ∧ worn.processor.opcode = 0xC0FF ∧
    worn.processor.machine.stack.entries = [0x206, 0x206] ∧
    worn.processor.machine.memory.byte 0 ≠ wearing.processor.machine.memory.byte 0 ∧
    worn.beeping = true ∧
    ∃ fresh restarted,
      insert wearing.cartridge worn.processor.random = .ok fresh ∧
      worn.reset = .ok restarted ∧
      restarted = worn.withMachine
        { fresh.processor.machine with
          keypad := worn.processor.machine.keypad
          shiftsInPlace := worn.processor.machine.shiftsInPlace } ∧
      ∀ keypads moment, FramesAlike (restarted.history keypads moment)
        ((fresh.setUpLike worn).history keypads moment) (keypads moment) := by
  intro worn
  have wear : worn.processor.random.drawn = 3 ∧ worn.processor.opcode = 0xC0FF ∧
      worn.processor.machine.stack.entries = [0x206, 0x206] ∧
      worn.processor.machine.memory.byte 0 ≠ wearing.processor.machine.memory.byte 0 ∧
      worn.beeping = true := by decide +kernel
  have reached : worn.Reachable := .frame Keypad.released
    (.insert insert_wearing wearing.cyclesPerFrame)
  obtain ⟨fresh, restarted, inserted, reset, machine, frames⟩ :=
    reset_renews.2 worn reached worn.processor.random
  exact ⟨wear.1, wear.2.1, wear.2.2.1, wear.2.2.2.1, wear.2.2.2.2, fresh, restarted, inserted,
    reset, machine, frames (.refl _)⟩

end Console

end ChipEight
