import ChipEight.Proofs.Footprint
import ChipEight.Proofs.Parity

namespace ChipEight

/-! One draw, to the pixel. What it covers is read from the memory as it was before the
draw, also where the sprite lies on the screen itself; the covered pixels are inverted and
nothing but them and the flag is touched. -/

/-- The pixels of the screen, straight from memory. -/
def Memory.pixel (memory : Memory) (x y : Nat) : Bool :=
  (memory.byte (0xF00 + 8 * y + x / 8)).toNat.testBit (7 - x % 8)

theorem Memory.pixel_eq_bitmap (memory : Memory) {x y : Nat}
    (xInside : x < Layout.screenWidth) (yInside : y < Layout.screenHeight) :
    memory.pixel x y = memory.bitmap.pixel x y := by
  rw [pixel_bitmap memory xInside yInside, pixel, Nat.add_assoc]
  rfl

namespace Draw

def Collides (draw : Draw) (memory : Memory) : Prop :=
  ∃ x < 64, ∃ y < 32, draw.covers memory x y = true ∧ memory.pixel x y = true

structure Inverts (draw : Draw) (before after : Machine) : Prop where
  pixel_eq : ∀ x < 64, ∀ y < 32,
    after.memory.pixel x y = (before.memory.pixel x y ^^ draw.covers before.memory x y)
  flag_eq_one_iff : after.register Registers.flag = 1 ↔ draw.Collides before.memory
  flag_eq_zero_iff : after.register Registers.flag = 0 ↔ ¬draw.Collides before.memory
  size_eq : after.memory.size = before.memory.size
  byte_eq : ∀ address < 0xF00, after.memory.byte address = before.memory.byte address
  register_eq : ∀ register ≠ Registers.flag, after.register register = before.register register
  frame_eq :
    after = { before with memory := after.memory, registers := after.registers }

variable {draw : Draw} {before after : Machine}

theorem fits_of_performed (performed : Blitter.xor draw.call before = .ok after) :
    draw.Fits before.memory := by
  by_contra beyond
  cases (attempt_refused beyond).symm.trans performed

theorem inverts_of_performed (holds : before.memory.HoldsScreen)
    (performed : Blitter.xor draw.call before = .ok after) : draw.Inverts before after := by
  obtain ⟨drawn, erased, drawnPerformed, size, flag, flipped⟩ :=
    attempt_performed (fits_of_performed performed) holds
  obtain rfl := Except.ok.inj (drawnPerformed.symm.trans performed)
  obtain ⟨memory, value, frame, _, below⟩ := Blitter.xor_draw_eq_ok performed
  have collides : erased = true ↔ draw.Collides before.memory := by
    rw [flipped.erased_iff]
    constructor
    · rintro ⟨x, xInside, y, yInside, covered, lit⟩
      exact ⟨x, xInside, y, yInside, covered,
        (before.memory.pixel_eq_bitmap xInside yInside).trans lit⟩
    · rintro ⟨x, xInside, y, yInside, covered, lit⟩
      exact ⟨x, xInside, y, yInside, covered,
        (before.memory.pixel_eq_bitmap xInside yInside).symm.trans lit⟩
  refine {
    pixel_eq := ?_
    flag_eq_one_iff := ?_
    flag_eq_zero_iff := ?_
    size_eq := size
    byte_eq := ?_
    register_eq := ?_
    frame_eq := ?_ }
  · intro x xInside y yInside
    rw [Memory.pixel_eq_bitmap _ xInside yInside, Memory.pixel_eq_bitmap _ xInside yInside]
    exact flipped.pixel_eq x xInside y yInside
  · rw [flag, ← collides]
    cases erased <;> decide
  · rw [flag, ← collides]
    cases erased <;> decide
  · exact fun address inside => flipped.byte_eq address (.inl inside)
  · intro register apart
    rw [frame]
    exact Machine.register_setRegister_of_ne _ _ apart
  · rw [frame]
    rfl

theorem Inverts.congr {other : Draw} (inverts : draw.Inverts before after)
    (same : ∀ x y, draw.covers before.memory x y = other.covers before.memory x y) :
    other.Inverts before after where
  pixel_eq x xInside y yInside := by
    rw [inverts.pixel_eq x xInside y yInside, same]
  flag_eq_one_iff := by
    rw [inverts.flag_eq_one_iff]
    simp only [Collides, same]
  flag_eq_zero_iff := by
    rw [inverts.flag_eq_zero_iff]
    simp only [Collides, same]
  size_eq := inverts.size_eq
  byte_eq := inverts.byte_eq
  register_eq := inverts.register_eq
  frame_eq := inverts.frame_eq

/-- What an opcode draws, by the registers as they are before it. -/
def ofOpcode (machine : Machine) (opcode : Opcode) : Draw :=
  ⟨machine.index, machine.register opcode.x, machine.register opcode.y,
    UInt8.ofNat opcode.n⟩

/-- The same draw with its coordinates cut down to the screen. -/
def masked (draw : Draw) : Draw :=
  { draw with x := draw.x &&& 0x3F, y := draw.y &&& 0x1F }

theorem call_masked_ofOpcode (machine : Machine) (opcode : Opcode) :
    (ofOpcode machine opcode).masked.call =
      machine.drawCall opcode.x opcode.y opcode.n := rfl

theorem left_masked (draw : Draw) : draw.masked.left = draw.left := by
  have cut : (draw.x &&& 0x3F).toNat = draw.x.toNat % 64 := by
    rw [UInt8.toNat_and]
    exact Nat.and_two_pow_sub_one_eq_mod _ 6
  rw [Draw.left, masked, cut]
  exact Nat.mod_mod _ _

theorem top_masked (draw : Draw) : draw.masked.top = draw.top := by
  have cut : (draw.y &&& 0x1F).toNat = draw.y.toNat % 32 := by
    rw [UInt8.toNat_and]
    exact Nat.and_two_pow_sub_one_eq_mod _ 5
  rw [Draw.top, masked, cut]
  exact Nat.mod_mod _ _

theorem covers_masked (draw : Draw) (memory : Memory) (x y : Nat) :
    draw.masked.covers memory x y = draw.covers memory x y := by
  have rows : draw.masked.rowCount = draw.rowCount := by
    rw [rowCount, top_masked]
    rfl
  have address : draw.masked.address = draw.address := rfl
  rw [Bool.eq_iff_iff]
  simp only [covers, Bool.and_eq_true, decide_eq_true_eq]
  rw [left_masked, top_masked, rows, address]

end Draw

namespace Processor

variable {processor : Processor} {opcode : Opcode} {operation : Operation}

theorem tick_inverts (holds : processor.machine.memory.HoldsScreen)
    (fetched : processor.machine.fetch = .ok opcode) (group : opcode.group.val = 0xD)
    (succeeded : (processor.tick Blitter.xor).outcome = .ok operation) :
    ∃ drawn, (Draw.ofOpcode processor.machine opcode).Inverts processor.machine drawn ∧
      operation = .drew ∧
      (processor.tick Blitter.xor).processor =
        { processor with
          opcode
          machine := { drawn with
            counter := processor.machine.counter + 2
            clock := processor.machine.clock.advance } } := by
  rcases processor.tick_cases with
    ⟨fault, failed, _, _⟩ | ⟨other, effect, otherFetched, performed, outcome, done⟩
  · cases failed.symm.trans succeeded
  · obtain rfl := Except.ok.inj (otherFetched.symm.trans fetched)
    have decoded : Instruction.decode? other = some (.draw other.x other.y other.n) := by
      have same : other.group = 0xD := Fin.ext group
      simp only [Instruction.decode?, same]
    rw [Opcode.perform, decoded] at performed
    obtain ⟨drawn, painted, rfl⟩ := Instruction.drawn_of_painted performed
    rw [← Draw.call_masked_ofOpcode] at painted
    have inverts := (Draw.inverts_of_performed holds painted).congr
      (Draw.covers_masked _ processor.machine.memory)
    refine ⟨drawn, inverts, (Except.ok.inj (outcome.symm.trans succeeded)).symm, ?_⟩
    rw [done, Effect.settled, Effect.moved, inverts.frame_eq]
    rfl

end Processor

/-- A draw that succeeds inverts the pixels it covers and no others, and its flag says
whether one of them was lit. As an instruction it goes by the registers it finds, be it the
flag register. -/
theorem draw_inverts_covered_pixels :
    (∀ (draw : Draw) (before after : Machine), before.memory.size = Layout.memorySize →
      Blitter.xor draw.call before = .ok after → draw.Inverts before after) ∧
    ∀ (processor : Processor) (opcode : Opcode) (operation : Operation),
      processor.machine.memory.size = Layout.memorySize →
      processor.machine.fetch = .ok opcode → opcode.group.val = 0xD →
      (processor.tick Blitter.xor).outcome = .ok operation →
        ∃ drawn, (Draw.ofOpcode processor.machine opcode).Inverts processor.machine drawn ∧
          operation = .drew ∧
          (processor.tick Blitter.xor).processor =
            { processor with
              opcode
              machine := { drawn with
                counter := processor.machine.counter + 2
                clock := processor.machine.clock.advance } } :=
  ⟨fun _ _ _ size performed => Draw.inverts_of_performed (Memory.holdsScreen size) performed,
    fun _ _ _ size fetched group succeeded =>
      Processor.tick_inverts (Memory.holdsScreen size) fetched group succeeded⟩

/-- Two rows of the screen drawn three pixels further on, at coordinates from the flag register. -/
def selfDrawing : Processor :=
  let program := Machine.initial.memory.storeAll Layout.programStart [0xDF, 0xF2]
  let memory := (program.store 0xF00 0xFF).store 0xF01 0x81
  let machine := { Machine.initial with memory, index := 0xF00 }
  Processor.ofMachine (machine.setRegister Registers.flag 3) ⟨fun _ => 0, 0⟩

set_option maxRecDepth 100000 in
theorem selfDrawing_inverts :
    selfDrawing.machine.memory.size = Layout.memorySize ∧
    selfDrawing.machine.fetch = .ok 0xDFF2 ∧
    (selfDrawing.tick Blitter.xor).outcome = .ok .drew ∧
    (∃ after, Blitter.xor (Draw.mk 0xF00 3 3 2).call selfDrawing.machine = .ok after ∧
      (Draw.mk 0xF00 3 3 2).Inverts selfDrawing.machine after) ∧
    ∃ drawn, (Draw.mk 0xF00 3 3 2).Inverts selfDrawing.machine drawn ∧
      (selfDrawing.tick Blitter.xor).processor.machine.memory = drawn.memory := by
  have size : selfDrawing.machine.memory.size = Layout.memorySize := by
    simp only [selfDrawing, Processor.ofMachine, Machine.setRegister, Memory.size_store,
      Memory.size_storeAll, Machine.size_initial]
  have fetched : selfDrawing.machine.fetch = .ok 0xDFF2 := rfl
  have drew : (selfDrawing.tick Blitter.xor).outcome = .ok .drew := rfl
  have fits : (Draw.mk 0xF00 3 3 2).Fits selfDrawing.machine.memory := by
    rw [Draw.Fits, size]
    decide
  obtain ⟨after, _, performed, _⟩ := Draw.attempt_performed fits (Memory.holdsScreen size)
  obtain ⟨calls, ticks⟩ := draw_inverts_covered_pixels
  obtain ⟨drawn, inverts, _, done⟩ := ticks selfDrawing 0xDFF2 .drew size fetched rfl drew
  exact ⟨size, fetched, drew, ⟨after, performed, calls _ _ _ size performed⟩, drawn, inverts,
    by rw [done]⟩

end ChipEight
