import ChipEight.Proofs.Blitting
import ChipEight.Proofs.Refusal

namespace ChipEight

/-! Which draws are refused. A draw with rows is refused if it reads a byte that is not in
memory, and the report names such a byte. A draw without rows reads nothing, yet it too is
refused if its address lies beyond the end of memory. -/

/-- The flag register is zero; all else, the memory included, is as before. -/
structure Machine.Unmarked (before after : Machine) : Prop where
  flag_eq : after.registers.get Registers.flag = 0
  others_eq : ∀ other, other ≠ Registers.flag →
    after.registers.get other = before.registers.get other
  rest_eq : after = { before with registers := after.registers }

theorem Machine.unmarked (machine : Machine) :
    machine.Unmarked (machine.setRegister Registers.flag 0) where
  flag_eq := machine.register_setRegister Registers.flag 0
  others_eq _ apart := machine.register_setRegister_of_ne 0 apart
  rest_eq := rfl

namespace Draw

/-- One byte for each row that lies above the bottom edge. -/
def Reads (draw : Draw) (address : Nat) : Prop :=
  draw.address.toNat ≤ address ∧ address < draw.address.toNat + draw.rowCount

/-- There are no rows, and the place to read them from is not even the end of memory. -/
def Strays (draw : Draw) : Prop :=
  draw.height = 0 ∧ 0x1000 < draw.address.toNat

/-- How a draw ends if what it reads is all that it can be refused for. -/
structure RefusedForReads (draw : Draw) (before : Machine)
    (result : Except AccessFault Machine) : Prop where
  refused_iff : (∃ fault, result = .error fault) ↔
    ∃ address, draw.Reads address ∧ 0xFFF < address
  named : ∀ fault, result = .error fault →
    draw.Reads fault.address ∧ 0xFFF < fault.address ∧ fault.size = 0x1000
  unmarked : draw.height = 0 → ∃ after, result = .ok after ∧ before.Unmarked after

variable {draw : Draw} {machine : Machine} {fault : AccessFault}

theorem rowCount_eq_zero_iff : draw.rowCount = 0 ↔ draw.height = 0 := by
  have inside : draw.top < Layout.screenHeight := Nat.mod_lt _ (by decide)
  have zero : draw.height.toNat = 0 ↔ draw.height = 0 :=
    ⟨fun none => UInt8.toNat.inj none, fun none => congrArg UInt8.toNat none⟩
  rw [← zero, rowCount]
  omega

theorem attempt_eq_error_iff (size : machine.memory.size = Layout.memorySize) :
    Blitter.xor draw.call machine = .error fault ↔
      0x1000 < draw.address.toNat + draw.rowCount ∧
        fault = ⟨draw.address.toNat + draw.rowCount - 1, 0x1000⟩ := by
  have rows : Stamp.visibleRows draw.y draw.height = draw.rowCount := rfl
  rw [call, Blitter.xor_draw_eq_error_iff, rows, Memory.rangeEnd_eq_error_iff, size,
    Layout.memorySize]

theorem attempt_unmarked (none : draw.height = 0)
    (inside : draw.address.toNat ≤ machine.memory.size) :
    Blitter.xor draw.call machine = .ok (machine.setRegister Registers.flag 0) := by
  have rows : Stamp.visibleRows draw.y draw.height = 0 := rowCount_eq_zero_iff.mpr none
  have read : machine.memory.read draw.address.toNat 0 = .ok [] := Memory.read_of_le inside
  simp only [Blitter.attempt, Blitter.xor, call, Blitter.draw, EStateM.run_bind,
    Blitter.run_readStamp, rows, read, Blitter.flipRows, EStateM.run_pure, Work.run_change]
  rfl

/-- The last byte read lies furthest on. -/
theorem reads_beyond_iff :
    (∃ address, draw.Reads address ∧ 0xFFF < address) ↔
      draw.rowCount ≠ 0 ∧ 0x1000 < draw.address.toNat + draw.rowCount := by
  unfold Reads
  constructor
  · rintro ⟨address, ⟨behind, before⟩, beyond⟩
    omega
  · rintro ⟨some, beyond⟩
    exact ⟨draw.address.toNat + draw.rowCount - 1, by omega, by omega⟩

theorem strays_iff :
    draw.Strays ↔ draw.rowCount = 0 ∧ 0x1000 < draw.address.toNat + draw.rowCount := by
  rw [Strays, ← rowCount_eq_zero_iff]
  omega

theorem attempt_masked (draw : Draw) (machine : Machine) :
    Blitter.xor draw.masked.call machine = Blitter.xor draw.call machine := by
  have left : Stamp.wrapX draw.masked.x = Stamp.wrapX draw.x := draw.left_masked
  have top : Stamp.wrapY draw.masked.y = Stamp.wrapY draw.y := draw.top_masked
  have rows : Stamp.visibleRows draw.masked.y draw.masked.height =
      Stamp.visibleRows draw.y draw.height := by
    rw [Stamp.visibleRows, top]
    rfl
  have stamp : ∀ bench,
      (Blitter.readStamp draw.masked.address draw.masked.x draw.masked.y
        draw.masked.height).run bench =
      (Blitter.readStamp draw.address draw.x draw.y draw.height).run bench := by
    intro bench
    simp only [Blitter.run_readStamp, left, top, rows]
    rfl
  simp only [Blitter.attempt, Blitter.xor, call, Blitter.draw, EStateM.run_bind, stamp]

theorem refusedForReads (size : machine.memory.size = Layout.memorySize)
    (stays : ¬draw.Strays) :
    draw.RefusedForReads machine (Blitter.xor draw.call machine) where
  refused_iff := by
    simp only [attempt_eq_error_iff size, exists_and_left, exists_eq, and_true,
      reads_beyond_iff]
    exact ⟨fun beyond => ⟨fun none => stays (strays_iff.mpr ⟨none, beyond⟩), beyond⟩, And.right⟩
  named fault refused := by
    obtain ⟨beyond, rfl⟩ := (attempt_eq_error_iff size).mp refused
    have some : draw.rowCount ≠ 0 := fun none => stays (strays_iff.mpr ⟨none, beyond⟩)
    refine ⟨⟨?_, ?_⟩, ?_, rfl⟩
    all_goals dsimp only
    all_goals omega
  unmarked none := by
    have end_eq : machine.memory.size = 0x1000 := size
    have inside : ¬0x1000 < draw.address.toNat := fun beyond => stays ⟨none, beyond⟩
    exact ⟨_, attempt_unmarked none (by omega), machine.unmarked⟩

theorem attempt_of_strays (size : machine.memory.size = Layout.memorySize)
    (strays : draw.Strays) :
    Blitter.xor draw.call machine = .error ⟨draw.address.toNat - 1, 0x1000⟩ := by
  obtain ⟨none, beyond⟩ := strays_iff.mp strays
  exact (attempt_eq_error_iff size).mpr ⟨beyond, by rw [none, Nat.add_zero]⟩

end Draw

/-- A tick of an opcode that draws ends as the draw does. -/
def Report.Relays (report : Report Operation) (before : Processor) (opcode : Opcode) :
    Except AccessFault Machine → Prop
  | .error fault =>
      report.outcome = .error (.access fault) ∧ report.processor = { before with opcode }
  | .ok drawn =>
      report.outcome = .ok .drew ∧
        report.processor =
          { before with
            opcode
            machine := { drawn with
              counter := before.machine.counter + 2
              clock := before.machine.clock.advance } }

namespace Processor

variable {processor : Processor} {opcode : Opcode}

theorem tick_relays (fetched : processor.machine.fetch = .ok opcode)
    (group : opcode.group.val = 0xD) :
    (processor.tick Blitter.xor).Relays processor opcode
      (Blitter.xor (Draw.ofOpcode processor.machine opcode).call processor.machine) := by
  have decoded : Instruction.decode? opcode = some (.draw opcode.x opcode.y opcode.n) := by
    have same : opcode.group = 0xD := Fin.ext group
    simp only [Instruction.decode?, same]
  rw [← Draw.attempt_masked, Draw.call_masked_ofOpcode]
  cases drawn : Blitter.xor (processor.machine.drawCall opcode.x opcode.y opcode.n)
      processor.machine with
  | error fault =>
      have refused : opcode.perform processor.machine processor.random =
          .error (.access fault) := by
        simp only [Opcode.perform, decoded, Instruction.perform, Instruction.painted, drawn]
        rfl
      have shows := tick_refused fetched refused
      exact ⟨shows.outcome_eq, shows.processor_eq⟩
  | ok after =>
      have performed : opcode.perform processor.machine processor.random =
          .ok { machine := after, random := processor.random, operation := .drew } := by
        simp only [Opcode.perform, decoded, Instruction.perform, Instruction.painted, drawn]
        rfl
      have shows := tick_performed fetched performed
      obtain ⟨memory, registers, rfl, _⟩ := Blitter.xor_frame drawn
      exact ⟨shows.outcome_eq, shows.processor_eq⟩

end Processor

/-- A draw is refused for a byte that it reads and that is not in memory, and succeeds without
leaving a mark if it has no rows, unless it strays: then it is refused for the byte in front of
its address. As an instruction it comes to the same. -/
theorem draw_refusedForReads_iff (processor : Processor)
    (size : processor.machine.memory.size = Layout.memorySize) :
    (∀ draw : Draw,
      draw.RefusedForReads processor.machine (Blitter.xor draw.call processor.machine) ↔
        ¬draw.Strays) ∧
    (∀ draw : Draw, draw.Strays →
      Blitter.xor draw.call processor.machine = .error ⟨draw.address.toNat - 1, 0x1000⟩) ∧
    ∀ opcode : Opcode, processor.machine.fetch = .ok opcode → opcode.group.val = 0xD →
      (processor.tick Blitter.xor).Relays processor opcode
        (Blitter.xor (Draw.ofOpcode processor.machine opcode).call processor.machine) := by
  refine ⟨fun draw => ⟨fun forReads strays => ?_, Draw.refusedForReads size⟩,
    fun draw strays => Draw.attempt_of_strays size strays,
    fun opcode fetched group => Processor.tick_relays fetched group⟩
  obtain ⟨after, unmarked, _⟩ := forReads.unmarked strays.1
  have refused := Draw.attempt_of_strays size strays
  rw [unmarked] at refused
  contradiction

/-- Nothing is to be drawn, from one byte behind the end of memory. -/
def straying : Processor :=
  let memory := Machine.initial.memory.storeAll Layout.programStart [0xD0, 0x10]
  let machine := { Machine.initial with memory, index := 0x1001 }
  Processor.ofMachine (machine.setRegister Registers.flag 1) ⟨fun _ => 0, 0⟩

set_option maxRecDepth 100000 in
theorem straying_refused :
    let draw := Draw.ofOpcode straying.machine 0xD010
    straying.machine.memory.size = Layout.memorySize ∧
    straying.machine.fetch = .ok 0xD010 ∧
    (∀ address, ¬draw.Reads address) ∧
    Blitter.xor draw.call straying.machine = .error ⟨0x1000, 0x1000⟩ ∧
    (straying.tick Blitter.xor).outcome = .error (.access ⟨0x1000, 0x1000⟩) ∧
    (straying.tick Blitter.xor).processor.machine.register Registers.flag = 1 ∧
    ¬draw.RefusedForReads straying.machine (Blitter.xor draw.call straying.machine) := by
  have size : straying.machine.memory.size = Layout.memorySize :=
    (Memory.size_storeAll _ _ _).trans Machine.size_initial
  have fetched : straying.machine.fetch = .ok 0xD010 := rfl
  have strays : (Draw.ofOpcode straying.machine 0xD010).Strays := ⟨rfl, by decide⟩
  have none : (Draw.ofOpcode straying.machine 0xD010).rowCount = 0 :=
    Draw.rowCount_eq_zero_iff.mpr strays.1
  have refused : Blitter.xor (Draw.ofOpcode straying.machine 0xD010).call straying.machine =
      .error ⟨0x1000, 0x1000⟩ := Draw.attempt_of_strays size strays
  have relays := Processor.tick_relays fetched rfl
  rw [refused] at relays
  refine ⟨size, fetched, fun address reads => ?_, refused, relays.1, ?_, fun forReads => ?_⟩
  · unfold Draw.Reads at reads
    omega
  · rw [relays.2]
    rfl
  · obtain ⟨after, unmarked, _⟩ := forReads.unmarked rfl
    rw [unmarked] at refused
    contradiction

set_option maxRecDepth 100000 in
theorem straying_relayed :
    straying.machine.memory.size = Layout.memorySize ∧
    straying.machine.fetch = .ok 0xD010 ∧
    (Draw.ofOpcode straying.machine 0xD010).Strays ∧
    (straying.tick Blitter.xor).outcome = .error (.access ⟨0x1000, 0x1000⟩) ∧
    (Draw.mk 0xFFF 0 31 15).RefusedForReads straying.machine
      (Blitter.xor (Draw.mk 0xFFF 0 31 15).call straying.machine) ∧
    ∃ drawn, Blitter.xor (Draw.mk 0xFFF 0 31 15).call straying.machine = .ok drawn := by
  have size : straying.machine.memory.size = Layout.memorySize :=
    (Memory.size_storeAll _ _ _).trans Machine.size_initial
  have fetched : straying.machine.fetch = .ok 0xD010 := rfl
  obtain ⟨forReads, strayed, ticks⟩ := draw_refusedForReads_iff straying size
  have strays : (Draw.ofOpcode straying.machine 0xD010).Strays := ⟨rfl, by decide⟩
  have relays := ticks 0xD010 fetched rfl
  rw [strayed _ strays] at relays
  have clipped := (forReads (Draw.mk 0xFFF 0 31 15)).mpr fun other => absurd other.1 (by decide)
  refine ⟨size, fetched, strays, relays.1, clipped, ?_⟩
  cases drawn : Blitter.xor (Draw.mk 0xFFF 0 31 15).call straying.machine with
  | ok after => exact ⟨after, rfl⟩
  | error fault =>
      obtain ⟨address, ⟨_, before⟩, beyond⟩ := clipped.refused_iff.mp ⟨fault, drawn⟩
      have rows : (Draw.mk 0xFFF 0 31 15).rowCount = 1 := rfl
      have start : (Draw.mk 0xFFF 0 31 15).address.toNat = 0xFFF := rfl
      omega

end ChipEight
