import ChipEight.Proofs.Footprint
import ChipEight.Proofs.Operation

namespace ChipEight

/-! A host that paints only when it is told that something was drawn. The screen is memory
like any other, so a program may also store into it, and of that a tick says nothing: the
picture of such a host is the one in memory exactly as long as no store puts another byte
onto the screen. -/

theorem Memory.bitmap_storeAll_eq_iff {memory : Memory} {start : Nat} {values : List UInt8}
    (size : memory.size = Layout.memorySize)
    (fits : ∀ offset < values.length, start + offset < memory.size) :
    (memory.storeAll start values).bitmap = memory.bitmap ↔
      ∀ offset < values.length, Layout.screenStart ≤ start + offset →
        values.getD offset 0 = memory.byte (start + offset) := by
  have whole : Layout.screenStart + Layout.screenBytes = Layout.memorySize := rfl
  rw [bitmap_eq_iff]
  constructor
  · intro same offset inside shown
    have stop := fits offset inside
    have stored := same (start + offset - Layout.screenStart) (by omega)
    rw [Nat.add_sub_cancel' shown, byte_storeAll, if_pos ⟨by omega, by omega, stop⟩,
      Nat.add_sub_cancel_left] at stored
    exact stored
  · intro same position inside
    rw [byte_storeAll]
    split
    next covered =>
      have stored := same (Layout.screenStart + position - start) (by omega) (by omega)
      rwa [Nat.add_sub_cancel' covered.1] at stored
    next => rfl

namespace Instruction

/-- The bytes that go to where the index register points. -/
def stored (machine : Machine) : Instruction → List UInt8
  | .storeDecimal x => Machine.decimalDigits (machine.register x)
  | .storeRegisters x => machine.registers.toList.take (x + 1)
  | _ => []

variable {blitter : Blitter} {machine : Machine} {random : RandomSource}
  {instruction : Instruction} {effect : Effect}

theorem memory_of_write {memory : Memory} {values : List UInt8}
    (written : machine.memory.write machine.index.toNat values = .ok memory) :
    memory = machine.memory.storeAll machine.index.toNat values ∧
      ∀ offset < values.length, machine.index.toNat + offset < machine.memory.size := by
  obtain ⟨inside, same⟩ := Memory.write_eq_ok written
  exact ⟨same, fun offset early => by omega⟩

theorem memory_of_perform (silent : instruction.screenCall? machine = none)
    (performed : instruction.perform blitter machine random = .ok effect) :
    effect.machine.memory =
        machine.memory.storeAll machine.index.toNat (instruction.stored machine) ∧
      ∀ offset < (instruction.stored machine).length,
        machine.index.toNat + offset < machine.memory.size := by
  have nothing : ∀ offset < ([] : List UInt8).length,
      machine.index.toNat + offset < machine.memory.size := fun offset early =>
    absurd early (Nat.not_lt_zero offset)
  cases instruction with
  | clearScreen | draw => contradiction
  | leave =>
      obtain ⟨⟨origin, stack⟩, _, rfl⟩ := mapped_eq_ok performed
      exact ⟨rfl, nothing⟩
  | call target =>
      obtain ⟨stack, _, rfl⟩ := mapped_eq_ok performed
      exact ⟨rfl, nothing⟩
  | combine operator x y =>
      obtain ⟨registers, rfl⟩ := combined_eq_ok performed
      exact ⟨rfl, nothing⟩
  | awaitKey x =>
      rcases awaited_eq_ok performed with ⟨_, rfl⟩ | ⟨key, _, rfl⟩
      · exact ⟨rfl, nothing⟩
      · exact ⟨rfl, nothing⟩
  | storeDecimal x =>
      obtain ⟨memory, written, rfl⟩ := stored_eq_ok performed
      exact memory_of_write written
  | storeRegisters x =>
      obtain ⟨memory, written, rfl⟩ := stored_eq_ok performed
      exact memory_of_write written
  | loadRegisters x =>
      obtain ⟨values, _, rfl⟩ := loaded_eq_ok performed
      exact ⟨rfl, nothing⟩
  | jump | jumpOffset | skipIfEqual | skipUnlessEqual | skipIfSame | skipUnlessSame
  | skipIfPressed | skipUnlessPressed =>
      cases performed
      exact ⟨rfl, nothing⟩
  | assign | increase | point | randomize | readDelay | setDelay | setSound
  | advanceIndex | pointAtGlyph =>
      cases performed
      exact ⟨rfl, nothing⟩

theorem stored_eq_nil_of_drew (drew : instruction.operation machine = .drew) :
    instruction.stored machine = [] := by
  obtain ⟨call, calls⟩ := operation_eq_drew_iff.mp drew
  cases instruction with
  | clearScreen | draw => rfl
  | _ => contradiction

theorem silent_of_operation (unreported : instruction.operation machine ≠ .drew) :
    instruction.screenCall? machine = none := by
  cases calls : instruction.screenCall? machine with
  | none => rfl
  | some call => exact absurd (operation_eq_drew_iff.mpr ⟨call, calls⟩) unreported

end Instruction

namespace Opcode

variable {opcode : Opcode} {machine : Machine} {random : RandomSource} {effect : Effect}

def stored (opcode : Opcode) (machine : Machine) : List UInt8 :=
  match Instruction.decode? opcode with
  | none => []
  | some instruction => instruction.stored machine

theorem memory_of_perform (unreported : opcode.operation machine ≠ .drew)
    (performed : opcode.perform machine random = .ok effect) :
    effect.machine.memory =
        machine.memory.storeAll machine.index.toNat (opcode.stored machine) ∧
      ∀ offset < (opcode.stored machine).length,
        machine.index.toNat + offset < machine.memory.size := by
  rcases perform_eq_ok performed with ⟨decoded, rfl⟩ | ⟨instruction, decoded, performed⟩
  · rw [stored, decoded]
    exact ⟨rfl, fun offset early => absurd early (Nat.not_lt_zero offset)⟩
  · rw [operation, decoded] at unreported
    rw [stored, decoded]
    exact Instruction.memory_of_perform (Instruction.silent_of_operation unreported) performed

theorem stored_eq_nil_of_drew (drew : opcode.operation machine = .drew) :
    opcode.stored machine = [] := by
  unfold operation at drew
  unfold stored
  cases decoded : Instruction.decode? opcode with
  | none => rfl
  | some instruction =>
      rw [decoded] at drew
      exact Instruction.stored_eq_nil_of_drew drew

end Opcode

/-- The opcode stores a byte onto the screen that is not there yet. -/
def Machine.Scribbles (machine : Machine) (opcode : Opcode) : Prop :=
  ∃ offset < (opcode.stored machine).length,
    Layout.screenStart ≤ machine.index.toNat + offset ∧
      (opcode.stored machine).getD offset 0 ≠
        machine.memory.byte (machine.index.toNat + offset)

instance (machine : Machine) : DecidablePred machine.Scribbles := fun opcode =>
  inferInstanceAs (Decidable (∃ offset < (opcode.stored machine).length, _ ∧ _))

namespace Processor

variable {processor start : Processor} {keypads : Nat → Keypad} {moment stop : Nat}

def Scribbles (processor : Processor) : Prop :=
  processor.Performs processor.machine.Scribbles

instance (processor : Processor) : Decidable processor.Scribbles :=
  inferInstanceAs (Decidable (processor.Performs _))

theorem outcome_ne_drew_of_scribbles (scribbles : processor.Scribbles) :
    (processor.tick Blitter.xor).outcome ≠ .ok .drew := by
  obtain ⟨opcode, operation, fetched, ⟨offset, early, _⟩, succeeded⟩ := scribbles
  intro reported
  have drew := (operation_of_tick fetched reported).symm
  rw [Opcode.stored_eq_nil_of_drew drew] at early
  exact Nat.not_lt_zero offset early

theorem tick_bitmap_eq_iff (size : processor.machine.memory.size = Layout.memorySize)
    (unreported : (processor.tick Blitter.xor).outcome ≠ .ok .drew) :
    (processor.tick Blitter.xor).processor.machine.bitmap = processor.machine.bitmap ↔
      ¬processor.Scribbles := by
  rcases processor.tick_cases with
    ⟨fault, failed, kept, _⟩ | ⟨opcode, effect, fetched, performed, succeeded, done⟩
  · rw [kept]
    exact iff_of_true rfl (not_performs_of_failed failed)
  · -- Without a drawing the effect on memory is what the opcode stores, if it stores at all.
    have quiet : opcode.operation processor.machine ≠ .drew := fun drew =>
      unreported (succeeded.trans (congrArg _ ((operation_of_tick fetched succeeded).trans drew)))
    obtain ⟨memory, fits⟩ := Opcode.memory_of_perform quiet performed
    have written : (processor.tick Blitter.xor).processor.machine.bitmap =
        (processor.machine.memory.storeAll processor.machine.index.toNat
          (opcode.stored processor.machine)).bitmap := by
      rw [done, Machine.bitmap, Effect.memory_settled, memory]
    rw [written, Machine.bitmap, Memory.bitmap_storeAll_eq_iff size fits, Scribbles,
      performs_iff fetched succeeded]
    simp only [Machine.Scribbles, not_exists, not_and, not_not]

/-- What is to be seen at a host that paints only behind a tick that drew. -/
def shown (start : Processor) (keypads : Nat → Keypad) : Nat → Bitmap
  | 0 => start.machine.bitmap
  | moment + 1 =>
      match ((start.history keypads moment).tick Blitter.xor).outcome with
      | .ok .drew => (start.history keypads (moment + 1)).machine.bitmap
      | _ => start.shown keypads moment

theorem shown_succ_of_drew
    (drew : ((start.history keypads moment).tick Blitter.xor).outcome = .ok .drew) :
    start.shown keypads (moment + 1) =
      (start.history keypads (moment + 1)).machine.bitmap := by
  rw [shown, drew]

theorem shown_succ_of_ne
    (unreported : ((start.history keypads moment).tick Blitter.xor).outcome ≠ .ok .drew) :
    start.shown keypads (moment + 1) = start.shown keypads moment := by
  rw [shown]
  split
  next drew => exact absurd drew unreported
  next => rfl

theorem shown_succ_eq_iff (size : start.machine.memory.size = Layout.memorySize)
    (fresh : start.shown keypads moment = (start.history keypads moment).machine.bitmap) :
    start.shown keypads (moment + 1) =
        (start.history keypads (moment + 1)).machine.bitmap ↔
      ¬(start.history keypads moment).Scribbles := by
  have sizeThen : (start.history keypads moment).machine.memory.size = Layout.memorySize :=
    (history_memory (Memory.holdsScreen size) moment).1.trans size
  by_cases drew : ((start.history keypads moment).tick Blitter.xor).outcome = .ok .drew
  · exact iff_of_true (shown_succ_of_drew drew) fun scribbles =>
      outcome_ne_drew_of_scribbles scribbles drew
  · -- The host shows what was in memory before the tick.
    rw [shown_succ_of_ne drew, fresh, eq_comm]
    exact tick_bitmap_eq_iff sizeThen drew

theorem shown_eq_of_unscribbled (size : start.machine.memory.size = Layout.memorySize)
    (unscribbled : ∀ moment < stop, ¬(start.history keypads moment).Scribbles) :
    start.shown keypads stop = (start.history keypads stop).machine.bitmap := by
  induction stop with
  | zero => rfl
  | succ stop ih =>
      have fresh := ih fun moment before => unscribbled moment (Nat.lt_succ_of_lt before)
      exact (shown_succ_eq_iff size fresh).mpr (unscribbled stop (Nat.lt_succ_self stop))

/-- A tick that does not report a drawing leaves the picture as it is unless it scribbles.
So whoever paints only what is reported shows the picture in memory at all times exactly if
the program never scribbles. -/
theorem shown_eq_bitmap_iff (start : Processor) (keypads : Nat → Keypad) (stop : Nat)
    (size : start.machine.memory.size = Layout.memorySize) :
    ((start.tick Blitter.xor).outcome ≠ .ok .drew →
      ((start.tick Blitter.xor).processor.machine.bitmap = start.machine.bitmap ↔
        ¬start.Scribbles)) ∧
    ((∀ moment ≤ stop,
        start.shown keypads moment = (start.history keypads moment).machine.bitmap) ↔
      ∀ moment < stop, ¬(start.history keypads moment).Scribbles) := by
  refine ⟨tick_bitmap_eq_iff size, ?_⟩
  constructor
  · intro fresh moment before
    exact (shown_succ_eq_iff size (fresh moment (Nat.le_of_lt before))).mp
      (fresh (moment + 1) before)
  · intro unscribbled moment upTo
    exact shown_eq_of_unscribbled size fun earlier before =>
      unscribbled earlier (Nat.lt_of_lt_of_le before upTo)

/-- A register is stored onto the screen. -/
def scribbling : Processor :=
  let memory := Machine.initial.memory.storeAll Layout.programStart [0xF0, 0x55]
  let machine := { Machine.initial with memory, index := 0xF00 }
  ofMachine (machine.setRegister Registers.first 0x80) ⟨fun _ => 0, 0⟩

set_option maxRecDepth 100000 in
theorem scribbling_unreported :
    scribbling.machine.memory.size = Layout.memorySize ∧
    (scribbling.tick Blitter.xor).outcome = .ok .advanced ∧
    (scribbling.tick Blitter.xor).processor.machine.bitmap ≠ scribbling.machine.bitmap := by
  refine ⟨(Memory.size_storeAll _ _ _).trans Machine.size_initial, rfl, fun same => ?_⟩
  have corner := Memory.bitmap_eq_iff.mp same 0 (by decide)
  revert corner
  decide +kernel

set_option maxRecDepth 100000 in
theorem scribbling_shown_stale :
    scribbling.Scribbles ∧
    (scribbling.tick Blitter.xor).processor.machine.bitmap ≠ scribbling.machine.bitmap ∧
    ¬∀ moment ≤ 1, scribbling.shown unpressed moment =
      (scribbling.history unpressed moment).machine.bitmap := by
  have size : scribbling.machine.memory.size = Layout.memorySize :=
    (Memory.size_storeAll _ _ _).trans Machine.size_initial
  have scribbles : scribbling.Scribbles := by
    decide +kernel
  obtain ⟨ticks, histories⟩ := shown_eq_bitmap_iff scribbling unpressed 1 size
  have changed := ticks (outcome_ne_drew_of_scribbles scribbles)
  exact ⟨scribbles, fun same => changed.mp same scribbles, fun fresh =>
    histories.mp fresh 0 Nat.one_pos scribbles⟩

end Processor

end ChipEight
