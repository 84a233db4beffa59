import ChipEight.Proofs.Control
import ChipEight.Proofs.History

namespace ChipEight

/-! What a tick leaves alone. The footprint of an opcode is all of a machine that it may
change apart from the counter and the clock: for bytes it depends on the index register,
for the rest on the opcode alone. What no tick of a history has in its footprint is, at
the end, as it was at the start. -/

theorem Memory.holdsScreen {memory : Memory} (size : memory.size = Layout.memorySize) :
    memory.HoldsScreen :=
  Nat.le_of_eq size.symm

theorem Layout.lt_screenStart {address : Nat} (below : ¬0xF00 ≤ address) :
    address < screenStart := by
  have start : screenStart = 0xF00 := rfl
  omega

namespace Opcode

/-- Where `FX33` and `FX55` put their bytes. -/
def Stores (opcode : Opcode) (index address : Nat) : Prop :=
  opcode.group.val = 0xF ∧ index ≤ address ∧
    (opcode.nn = 0x33 ∧ address ≤ index + 2 ∨
      opcode.nn = 0x55 ∧ address ≤ index + opcode.x)

instance (opcode : Opcode) (index address : Nat) :
    Decidable (opcode.Stores index address) :=
  inferInstanceAs (Decidable (_ ∧ _))

/-- The two that work on the screen, `00E0` and `DXYN`. -/
def Paints (opcode : Opcode) : Prop :=
  opcode = 0x00E0 ∨ opcode.group.val = 0xD

instance (opcode : Opcode) : Decidable opcode.Paints :=
  inferInstanceAs (Decidable (_ ∨ _))

def Writes (opcode : Opcode) (index address : Nat) : Prop :=
  opcode.Paints ∧ 0xF00 ≤ address ∨ opcode.Stores index address

inductive Sets (opcode : Opcode) (register : Register) : Prop
  | target
      (group : opcode.group = 0x6 ∨ opcode.group = 0x7 ∨ opcode.group = 0x8 ∨
        opcode.group = 0xC)
      (same : register = opcode.x)
  | input (group : opcode.group = 0xF) (selector : opcode.nn = 0x07 ∨ opcode.nn = 0x0A)
      (same : register = opcode.x)
  | carry (group : opcode.group = 0x8)
      (digit : opcode.n = 0x4 ∨ opcode.n = 0x5 ∨ opcode.n = 0x6 ∨ opcode.n = 0x7 ∨
        opcode.n = 0xE)
      (same : register = Registers.flag)
  | collision (group : opcode.group = 0xD) (same : register = Registers.flag)
  | load (group : opcode.group = 0xF) (selector : opcode.nn = 0x65)
      (upTo : register ≤ opcode.x)

inductive SetsIndex (opcode : Opcode) : Prop
  | point (group : opcode.group = 0xA)
  | move (group : opcode.group = 0xF)
      (selector : opcode.nn = 0x1E ∨ opcode.nn = 0x29 ∨ opcode.nn = 0x55 ∨
        opcode.nn = 0x65)

inductive SetsStack (opcode : Opcode) : Prop
  | call (group : opcode.group = 0x2)
  | leave (same : opcode = 0x00EE)

structure Footprint (opcode : Opcode) (before after : Machine) : Prop where
  size_eq : after.memory.size = before.memory.size
  writes : ∀ address, after.memory.byte address ≠ before.memory.byte address →
    opcode.Writes before.index.toNat address
  sets : ∀ register, after.register register ≠ before.register register →
    opcode.Sets register
  setsIndex : after.index ≠ before.index → opcode.SetsIndex
  setsStack : after.stack ≠ before.stack → opcode.SetsStack
  keypad_eq : after.keypad = before.keypad
  shiftsInPlace_eq : after.shiftsInPlace = before.shiftsInPlace

end Opcode

theorem Machine.eq_of_register_setRegister_ne {machine : Machine} {x register : Register}
    {value : UInt8}
    (differ : (machine.setRegister x value).register register ≠ machine.register register) :
    register = x := by
  by_contra apart
  exact differ (machine.register_setRegister_of_ne value apart)

theorem Registers.get_replaceFirst {registers : Registers} {values : List UInt8}
    {register : Register} (beyond : values.length ≤ register.val) :
    (registers.replaceFirst values).get register = registers.get register := by
  have absent : values[register.val]? = none := List.getElem?_eq_none beyond
  have entry : (registers.replaceFirst values).get register =
      values[register.val]?.getD (registers.get register) := Vector.getElem_ofFn register.isLt
  rw [entry, absent]
  rfl

theorem Memory.mem_range_of_write {memory after : Memory} {start address : Nat}
    {values : List UInt8} (written : memory.write start values = .ok after)
    (differ : after.byte address ≠ memory.byte address) :
    start ≤ address ∧ address < start + values.length := by
  obtain ⟨_, rfl⟩ := write_eq_ok written
  by_contra outside
  exact differ (byte_storeAll_outside (by omega))

namespace Opcode.Footprint

variable {opcode : Opcode} {machine before middle after : Machine} {x : Register}

theorem refl (opcode : Opcode) (machine : Machine) : opcode.Footprint machine machine where
  size_eq := rfl
  writes _ differ := absurd rfl differ
  sets _ differ := absurd rfl differ
  setsIndex differ := absurd rfl differ
  setsStack differ := absurd rfl differ
  keypad_eq := rfl
  shiftsInPlace_eq := rfl

/-- The index register may only be moved last: it says which bytes may be written. -/
theorem trans (first : opcode.Footprint before middle) (kept : middle.index = before.index)
    (second : opcode.Footprint middle after) : opcode.Footprint before after where
  size_eq := second.size_eq.trans first.size_eq
  writes address differ := by
    by_cases same : middle.memory.byte address = before.memory.byte address
    · rw [← same] at differ
      exact kept ▸ second.writes address differ
    · exact first.writes address same
  sets register differ := by
    by_cases same : middle.register register = before.register register
    · rw [← same] at differ
      exact second.sets register differ
    · exact first.sets register same
  setsIndex differ := second.setsIndex (kept ▸ differ)
  setsStack differ := by
    by_cases same : middle.stack = before.stack
    · rw [← same] at differ
      exact second.setsStack differ
    · exact first.setsStack same
  keypad_eq := second.keypad_eq.trans first.keypad_eq
  shiftsInPlace_eq := second.shiftsInPlace_eq.trans first.shiftsInPlace_eq

theorem setMemory {memory : Memory} (size : memory.size = machine.memory.size)
    (writes : ∀ address, memory.byte address ≠ machine.memory.byte address →
      opcode.Writes machine.index.toNat address) :
    opcode.Footprint machine { machine with memory } :=
  { refl opcode machine with size_eq := size, writes }

theorem setRegisters {registers : Registers}
    (sets : ∀ register, registers.get register ≠ machine.register register →
      opcode.Sets register) :
    opcode.Footprint machine { machine with registers } :=
  { refl opcode machine with sets }

theorem setRegister (machine : Machine) (value : UInt8) (sets : opcode.Sets x) :
    opcode.Footprint machine (machine.setRegister x value) :=
  setRegisters fun _ differ => Machine.eq_of_register_setRegister_ne differ ▸ sets

theorem setIndex (machine : Machine) (index : UInt16) (sets : opcode.SetsIndex) :
    opcode.Footprint machine { machine with index } :=
  { refl opcode machine with setsIndex := fun _ => sets }

theorem setStack (machine : Machine) (stack : CallStack) (sets : opcode.SetsStack) :
    opcode.Footprint machine { machine with stack } :=
  { refl opcode machine with setsStack := fun _ => sets }

theorem setClock (opcode : Opcode) (machine : Machine) (clock : Clock) :
    opcode.Footprint machine { machine with clock } :=
  { refl opcode machine with }

end Opcode.Footprint

namespace Instruction

variable {machine : Machine} {random : RandomSource} {effect : Effect}

theorem combine_footprint (machine : Machine) (operator : Operator) (x y : Register) :
    (combine operator x y).encode.Footprint machine (machine.combine operator x y) := by
  have group := Opcode.group_ofNibbles 0x8 x y operator.digit
  have digit := Opcode.n_ofNibbles 0x8 x y operator.digit
  have target : (combine operator x y).encode.Sets x :=
    .target (.inr (.inr (.inl group))) (Opcode.x_ofNibbles _ _ _ _).symm
  cases operator with
  | copy | or | and | xor => exact .setRegister machine _ target
  | add =>
      exact (Opcode.Footprint.setRegister machine _ target).trans rfl
        (.setRegister _ _ (.carry group (.inl digit) rfl))
  | subtract =>
      exact (Opcode.Footprint.setRegister machine _ target).trans rfl
        (.setRegister _ _ (.carry group (.inr (.inl digit)) rfl))
  | shiftRight =>
      exact (Opcode.Footprint.setRegister machine _ target).trans rfl
        (.setRegister _ _ (.carry group (.inr (.inr (.inl digit))) rfl))
  | subtractFrom =>
      exact (Opcode.Footprint.setRegister machine _ target).trans rfl
        (.setRegister _ _ (.carry group (.inr (.inr (.inr (.inl digit)))) rfl))
  | shiftLeft =>
      exact (Opcode.Footprint.setRegister machine _ target).trans rfl
        (.setRegister _ _ (.carry group (.inr (.inr (.inr (.inr digit)))) rfl))

theorem clear_footprint (machine : Machine) :
    clearScreen.encode.Footprint machine
      { machine with memory := machine.memory.withBitmap Bitmap.blank } := by
  refine .setMemory (Memory.size_withBitmap _ _) fun address differ => .inl ⟨.inl rfl, ?_⟩
  by_contra below
  exact differ (Memory.byte_withBitmap (Layout.lt_screenStart below))

theorem perform_footprint {instruction : Instruction} (holds : machine.memory.HoldsScreen)
    (performed : instruction.perform Blitter.xor machine random = .ok effect) :
    instruction.encode.Footprint machine effect.machine := by
  cases instruction with
  | clearScreen =>
      obtain ⟨drawn, cleared, rfl⟩ := drawn_of_painted performed
      rw [Blitter.attempt_clear] at cleared
      obtain rfl := Except.ok.inj cleared
      exact clear_footprint machine
  | draw x y height =>
      obtain ⟨drawn, painted, rfl⟩ := drawn_of_painted performed
      obtain ⟨memory, value, rfl, size, below⟩ := Blitter.xor_draw_eq_ok painted
      have group := Opcode.group_ofNibbles 0xD x y height
      -- The bits of the screen are flipped first, the flag is set behind it.
      refine (Opcode.Footprint.setMemory size fun address differ => ?_).trans rfl
        (.setRegister _ value (.collision group rfl))
      refine .inl ⟨.inr (congrArg Fin.val group), ?_⟩
      by_contra outside
      exact differ (below holds address (Layout.lt_screenStart outside))
  | leave =>
      obtain ⟨⟨origin, stack⟩, _, rfl⟩ := mapped_eq_ok performed
      exact .setStack machine stack (.leave rfl)
  | call target =>
      obtain ⟨stack, _, rfl⟩ := mapped_eq_ok performed
      exact .setStack machine stack (.call (Opcode.group_ofAddress _ _))
  | assign x value =>
      cases performed
      exact .setRegister machine _
        (.target (.inl (Opcode.group_ofByte _ _ _)) (Opcode.x_ofByte _ _ _).symm)
  | increase x value =>
      cases performed
      exact .setRegister machine _
        (.target (.inr (.inl (Opcode.group_ofByte _ _ _))) (Opcode.x_ofByte _ _ _).symm)
  | randomize x mask =>
      cases performed
      exact .setRegister machine _
        (.target (.inr (.inr (.inr (Opcode.group_ofByte _ _ _)))) (Opcode.x_ofByte _ _ _).symm)
  | combine operator x y =>
      cases performed
      exact combine_footprint machine operator x y
  | readDelay x =>
      cases performed
      exact .setRegister machine _
        (.input (Opcode.group_ofByte _ _ _) (.inl (Opcode.nn_ofByte _ _ _))
          (Opcode.x_ofByte _ _ _).symm)
  | awaitKey x =>
      rcases awaited_eq_ok performed with ⟨_, rfl⟩ | ⟨key, _, rfl⟩
      · exact .refl _ machine
      · exact .setRegister machine _
          (.input (Opcode.group_ofByte _ _ _) (.inr (Opcode.nn_ofByte _ _ _))
            (Opcode.x_ofByte _ _ _).symm)
  | setDelay | setSound =>
      cases performed
      exact .setClock _ machine _
  | point target =>
      cases performed
      exact .setIndex machine _ (.point (Opcode.group_ofAddress _ _))
  | advanceIndex x =>
      cases performed
      exact .setIndex machine _
        (.move (Opcode.group_ofByte _ _ _) (.inl (Opcode.nn_ofByte _ _ _)))
  | pointAtGlyph x =>
      cases performed
      exact .setIndex machine _
        (.move (Opcode.group_ofByte _ _ _) (.inr (.inl (Opcode.nn_ofByte _ _ _))))
  | storeDecimal x =>
      obtain ⟨memory, written, rfl⟩ := stored_eq_ok performed
      refine .setMemory (Memory.size_write written) fun address differ => ?_
      obtain ⟨behind, inside⟩ := Memory.mem_range_of_write written differ
      rw [Machine.length_decimalDigits] at inside
      exact .inr ⟨congrArg Fin.val (Opcode.group_ofByte _ _ _), behind,
        .inl ⟨Opcode.nn_ofByte _ _ _, Nat.le_of_lt_succ inside⟩⟩
  | storeRegisters x =>
      obtain ⟨memory, written, rfl⟩ := stored_eq_ok performed
      have group := Opcode.group_ofByte 0xF x 0x55
      have selector := Opcode.nn_ofByte 0xF x 0x55
      have stored : (storeRegisters x).encode.Footprint machine { machine with memory } := by
        refine .setMemory (Memory.size_write written) fun address differ => ?_
        obtain ⟨behind, inside⟩ := Memory.mem_range_of_write written differ
        rw [Registers.length_take] at inside
        refine .inr ⟨congrArg Fin.val group, behind, .inr ⟨selector, ?_⟩⟩
        rw [encode, Opcode.x_ofByte]
        exact Nat.le_of_lt_succ inside
      exact stored.trans rfl (.setIndex _ _ (.move group (.inr (.inr (.inl selector)))))
  | loadRegisters x =>
      obtain ⟨values, length, rfl⟩ := loaded_eq_ok performed
      have group := Opcode.group_ofByte 0xF x 0x65
      have selector := Opcode.nn_ofByte 0xF x 0x65
      have loaded : (loadRegisters x).encode.Footprint machine
          { machine with registers := machine.registers.replaceFirst values } := by
        refine .setRegisters fun register differ => .load group selector ?_
        rw [encode, Opcode.x_ofByte]
        by_contra beyond
        have outside : values.length ≤ register.val :=
          length ▸ Nat.succ_le_of_lt (Fin.not_le.mp beyond)
        exact differ (Registers.get_replaceFirst outside)
      exact loaded.trans rfl (.setIndex _ _ (.move group (.inr (.inr (.inr selector)))))
  | jump | jumpOffset | skipIfEqual | skipUnlessEqual | skipIfSame | skipUnlessSame
  | skipIfPressed | skipUnlessPressed =>
      cases performed
      exact .refl _ machine

end Instruction

namespace Opcode

variable {opcode : Opcode} {machine : Machine} {random : RandomSource} {effect : Effect}

theorem perform_footprint (holds : machine.memory.HoldsScreen)
    (performed : opcode.perform machine random = .ok effect) :
    opcode.Footprint machine effect.machine := by
  rcases perform_eq_ok performed with ⟨_, rfl⟩ | ⟨instruction, decoded, effected⟩
  · exact .refl opcode machine
  · obtain rfl := Instruction.encode_of_decode? decoded
    exact Instruction.perform_footprint holds effected

theorem Footprint.settled (footprint : opcode.Footprint machine effect.machine) :
    opcode.Footprint machine effect.settled := by
  unfold Effect.settled
  split
  · exact { footprint with }
  · exact { footprint with }

end Opcode

namespace Processor

variable {processor start : Processor} {keypads : Nat → Keypad} {address : Nat}

/-- A tick that succeeds writes a byte, for all that its opcode says. -/
def Writes (processor : Processor) (address : Nat) : Prop :=
  processor.Performs (·.Writes processor.machine.index.toNat address)

def Stores (processor : Processor) (address : Nat) : Prop :=
  processor.Performs (·.Stores processor.machine.index.toNat address)

instance (processor : Processor) (address : Nat) : Decidable (processor.Stores address) :=
  inferInstanceAs (Decidable (processor.Performs _))

theorem tick_footprint {operation : Operation} (holds : processor.machine.memory.HoldsScreen)
    (succeeded : (processor.tick Blitter.xor).outcome = .ok operation) :
    ∃ opcode, processor.machine.fetch = .ok opcode ∧
      opcode.Footprint processor.machine (processor.tick Blitter.xor).processor.machine := by
  rcases processor.tick_cases with
    ⟨fault, failed, _, _⟩ | ⟨opcode, effect, fetched, performed, _, done⟩
  · cases failed.symm.trans succeeded
  · rw [done]
    exact ⟨opcode, fetched, (Opcode.perform_footprint holds performed).settled⟩

theorem failed_tick_machine {fault : Fault}
    (failed : (processor.tick Blitter.xor).outcome = .error fault) :
    (processor.tick Blitter.xor).processor.machine = processor.machine := by
  rcases processor.tick_cases with ⟨_, _, kept, _⟩ | ⟨_, _, _, _, succeeded, _⟩
  · exact kept
  · cases failed.symm.trans succeeded

theorem tick_memory (holds : processor.machine.memory.HoldsScreen) :
    (processor.tick Blitter.xor).processor.machine.memory.size =
        processor.machine.memory.size ∧
      ∀ address, ¬processor.Writes address →
        (processor.tick Blitter.xor).processor.machine.memory.byte address =
          processor.machine.memory.byte address := by
  cases outcome : (processor.tick Blitter.xor).outcome with
  | error fault =>
      have kept := failed_tick_machine outcome
      rw [kept]
      exact ⟨rfl, fun _ _ => rfl⟩
  | ok operation =>
      obtain ⟨opcode, fetched, footprint⟩ := tick_footprint holds outcome
      refine ⟨footprint.size_eq, fun address unwritten => ?_⟩
      by_contra differ
      exact unwritten ⟨opcode, operation, fetched, footprint.writes address differ, outcome⟩

theorem tick_keypad (holds : processor.machine.memory.HoldsScreen) :
    (processor.tick Blitter.xor).processor.machine.keypad = processor.machine.keypad := by
  cases outcome : (processor.tick Blitter.xor).outcome with
  | error fault => rw [failed_tick_machine outcome]
  | ok operation =>
      obtain ⟨_, _, footprint⟩ := tick_footprint holds outcome
      exact footprint.keypad_eq

theorem history_memory (holds : start.machine.memory.HoldsScreen) (stop : Nat) :
    (start.history keypads stop).machine.memory.size = start.machine.memory.size ∧
      ∀ address, (∀ moment < stop, ¬(start.history keypads moment).Writes address) →
        (start.history keypads stop).machine.memory.byte address =
          start.machine.memory.byte address := by
  induction stop with
  | zero => exact ⟨rfl, fun _ _ => rfl⟩
  | succ stop ih =>
      obtain ⟨size, bytes⟩ := ih
      obtain ⟨sizeNext, bytesNext⟩ := tick_memory (holds.of_size_eq size)
      refine ⟨sizeNext.trans size, fun address unwritten => ?_⟩
      exact (bytesNext address (unwritten stop (Nat.lt_succ_self stop))).trans
        (bytes address fun moment before => unwritten moment (Nat.lt_succ_of_lt before))

theorem stores_of_writes (below : address < 0xF00) (writes : processor.Writes address) :
    processor.Stores address := by
  obtain ⟨opcode, operation, fetched, ⟨_, painted⟩ | stored, succeeded⟩ := writes
  · omega
  · exact ⟨opcode, operation, fetched, stored, succeeded⟩

theorem index_le_of_stores (stores : processor.Stores address) :
    processor.machine.index.toNat ≤ address := by
  obtain ⟨_, _, _, stored, _⟩ := stores
  exact stored.2.1

theorem tick_passed {opcode : Opcode} (fetched : processor.machine.fetch = .ok opcode)
    (outside : ∀ instruction : Instruction, instruction.encode ≠ opcode) :
    (processor.tick Blitter.xor).processor =
      { processor with
        opcode
        machine := { processor.machine with
          counter := processor.machine.counter + 2
          clock := processor.machine.clock.advance } } := by
  have passed : opcode.perform processor.machine processor.random =
      .ok { machine := processor.machine
            random := processor.random
            records := [.ignored opcode] } := by
    unfold Opcode.perform
    cases decoded : Instruction.decode? opcode with
    | none => rfl
    | some instruction =>
        exact absurd (Instruction.encode_of_decode? decoded) (outside instruction)
  exact (tick_performed fetched passed).processor_eq

/-- A tick changes nothing outside of the footprint of its opcode, and at an opcode outside
of the instruction set only the counter and the clock. So a byte below the screen stays what
it is for as long as nothing is stored over it, and so do all glyphs. -/
theorem tick_keeps_to_footprint :
    (∀ (processor : Processor) (operation : Operation),
      processor.machine.memory.size = Layout.memorySize →
      (processor.tick Blitter.xor).outcome = .ok operation →
        ∃ opcode, processor.machine.fetch = .ok opcode ∧
          opcode.Footprint processor.machine (processor.tick Blitter.xor).processor.machine ∧
          ((∀ instruction : Instruction, instruction.encode ≠ opcode) →
            (processor.tick Blitter.xor).processor =
              { processor with
                opcode
                machine := { processor.machine with
                  counter := processor.machine.counter + 2
                  clock := processor.machine.clock.advance } })) ∧
    ∀ (start : Processor) (keypads : Nat → Keypad) (stop : Nat),
      start.machine.memory.size = Layout.memorySize →
        ((∀ moment < stop, ∀ address < 0x050,
            ¬(start.history keypads moment).Stores address) →
          ∀ address < 0x050,
            (start.history keypads stop).machine.memory.byte address =
              start.machine.memory.byte address) ∧
        ∀ address < 0xF00,
          (∀ moment < stop, ¬(start.history keypads moment).Stores address) →
            (start.history keypads stop).machine.memory.byte address =
              start.machine.memory.byte address := by
  constructor
  · intro processor operation size succeeded
    obtain ⟨opcode, fetched, footprint⟩ := tick_footprint (Memory.holdsScreen size) succeeded
    exact ⟨opcode, fetched, footprint, tick_passed fetched⟩
  · intro start keypads stop size
    have bytes : ∀ address < 0xF00,
        (∀ moment < stop, ¬(start.history keypads moment).Stores address) →
          (start.history keypads stop).machine.memory.byte address =
            start.machine.memory.byte address := fun address below unstored =>
      (history_memory (Memory.holdsScreen size) stop).2 address fun moment before writes =>
        unstored moment before (stores_of_writes below writes)
    exact ⟨fun unstored address below => bytes address (by omega) fun moment before =>
      unstored moment before address below, bytes⟩

/-- Three registers are stored, and then comes an opcode outside of the instruction set. -/
def dumping : Processor :=
  let memory := Machine.initial.memory.storeAll Layout.programStart [0xF2, 0x55, 0x51, 0x21]
  let machine := { Machine.initial with memory, index := 0x300 }
  ofMachine (machine.setRegister Registers.first 7) ⟨fun _ => 0, 0⟩

set_option maxRecDepth 100000 in
theorem dumping_keeps_to_footprint :
    (dumping.history unpressed 2).machine.memory.byte 0x300 ≠
      dumping.machine.memory.byte 0x300 ∧
    (dumping.history unpressed 2).machine.memory.byte 0x303 =
      dumping.machine.memory.byte 0x303 ∧
    (∀ address < 0x050,
      (dumping.history unpressed 2).machine.memory.byte address =
        dumping.machine.memory.byte address) ∧
    ((dumping.history unpressed 1).tick Blitter.xor).outcome = .ok .advanced ∧
    ((dumping.history unpressed 1).tick Blitter.xor).processor.machine =
      { (dumping.history unpressed 1).machine with
        counter := 0x204
        clock := (dumping.history unpressed 1).machine.clock.advance } := by
  have size : dumping.machine.memory.size = Layout.memorySize :=
    (Memory.size_storeAll _ _ _).trans Machine.size_initial
  have stored : (dumping.history unpressed 2).machine.memory.byte 0x300 ≠
      dumping.machine.memory.byte 0x300 := by
    decide +kernel
  have indices : ∀ moment < 2,
      0x300 ≤ (dumping.history unpressed moment).machine.index.toNat := by
    decide +kernel
  have unstored : ∀ moment < 2, ¬(dumping.history unpressed moment).Stores 0x303 := by
    decide +kernel
  obtain ⟨ticks, histories⟩ := tick_keeps_to_footprint
  obtain ⟨glyphs, bytes⟩ := histories dumping unpressed 2 size
  have sizeBehind : (dumping.history unpressed 1).machine.memory.size = Layout.memorySize :=
    (history_memory (Memory.holdsScreen size) 1).1.trans size
  have fetched : (dumping.history unpressed 1).machine.fetch = .ok 0x5121 := rfl
  have advanced :
      ((dumping.history unpressed 1).tick Blitter.xor).outcome = .ok .advanced := rfl
  obtain ⟨opcode, otherFetched, _, passed⟩ := ticks _ .advanced sizeBehind advanced
  cases fetched.symm.trans otherFetched
  have outside : ∀ instruction : Instruction, instruction.encode ≠ 0x5121 := by
    intro instruction encoded
    have decoded := Instruction.decode?_encode instruction
    rw [encoded] at decoded
    cases decoded
  have counter : (dumping.history unpressed 1).machine.counter = 0x202 := by
    decide +kernel
  have font := glyphs fun moment early address font stores => by
    have reached := Nat.le_trans (indices moment early) (index_le_of_stores stores)
    omega
  have kept := bytes 0x303 (by decide) unstored
  refine ⟨stored, kept, font, advanced, ?_⟩
  rw [passed outside]
  simp only [counter]
  rfl

end Processor

end ChipEight
