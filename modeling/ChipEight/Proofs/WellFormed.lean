import ChipEight.Proofs.Control

namespace ChipEight

/-! The invariant of a machine. A counter that was fetched from lies in memory, and so do
the calls made from it; only a jump with an offset leads further, and never further than
its offset. -/

structure Machine.WellFormed (machine : Machine) : Prop where
  size_eq : machine.memory.size = Layout.memorySize
  depth_le : machine.stack.depth ≤ Layout.stackCapacity
  origin_le : ∀ origin ∈ machine.stack.entries, origin.toNat ≤ 0xFFE
  counter_le : machine.counter.toNat ≤ 0x10FE
  divider_le : machine.clock.divider ≤ Layout.dividerReload

/-- Where control may lead: no further than a jump with an offset, and back to calls from
inside of the memory. -/
structure InReach (counter : UInt16) (control : Step × List UInt16) : Prop where
  counter_le : (control.1.apply counter).toNat ≤ 0x10FE
  origin_le : ∀ origin ∈ control.2, origin.toNat ≤ 0xFFE

private theorem toNat_add_of_lt {first second : UInt16}
    (small : first.toNat + second.toNat < 0x10000) :
    (first + second).toNat = first.toNat + second.toNat := by
  rw [UInt16.toNat_add]
  exact Nat.mod_eq_of_lt small

namespace Step

variable {counter : UInt16}

theorem toNat_apply_next (inside : counter.toNat ≤ 0x10FE) :
    (Step.next.apply counter).toNat = counter.toNat + 2 := by
  have two : (2 : UInt16).toNat = 2 := rfl
  rw [apply, toNat_add_of_lt (by omega), two]

theorem toNat_apply_skip (inside : counter.toNat ≤ 0x10FE) :
    (Step.skip.apply counter).toNat = counter.toNat + 4 := by
  have four : (4 : UInt16).toNat = 4 := rfl
  rw [apply, toNat_add_of_lt (by omega), four]

theorem toNat_apply_skipWhen_le (inside : counter.toNat ≤ 0xFFE) (condition : Bool) :
    ((skipWhen condition).apply counter).toNat ≤ 0x10FE := by
  cases condition with
  | false =>
      have moved : (Step.next.apply counter).toNat = counter.toNat + 2 :=
        toNat_apply_next (by omega)
      simp only [skipWhen, Bool.false_eq_true, if_false]
      omega
  | true =>
      have moved : (Step.skip.apply counter).toNat = counter.toNat + 4 :=
        toNat_apply_skip (by omega)
      simp only [skipWhen, if_true]
      omega

end Step

theorem Instruction.toNat_target (target : Address) :
    (UInt16.ofNat target).toNat = target := by
  rw [UInt16.toNat_ofNat']
  omega

namespace Machine.WellFormed

variable {machine : Machine}

theorem inReach_of_step (wellFormed : machine.WellFormed) {step : Step}
    (bounded : (step.apply machine.counter).toNat ≤ 0x10FE) :
    InReach machine.counter (step, machine.stack.entries) :=
  ⟨bounded, wellFormed.origin_le⟩

theorem inReach_next (wellFormed : machine.WellFormed)
    (inside : machine.counter.toNat ≤ 0xFFE) :
    InReach machine.counter (.next, machine.stack.entries) := by
  have moved : (Step.next.apply machine.counter).toNat = machine.counter.toNat + 2 :=
    Step.toNat_apply_next (by omega)
  exact wellFormed.inReach_of_step (by omega)

theorem inReach_skipWhen (wellFormed : machine.WellFormed)
    (inside : machine.counter.toNat ≤ 0xFFE) (condition : Bool) :
    InReach machine.counter (.skipWhen condition, machine.stack.entries) :=
  wellFormed.inReach_of_step (Step.toNat_apply_skipWhen_le inside condition)

theorem inReach_control (wellFormed : machine.WellFormed)
    (inside : machine.counter.toNat ≤ 0xFFE) (instruction : Instruction) :
    InReach machine.counter (instruction.control machine) := by
  cases instruction with
  | leave =>
      have origin_le := wellFormed.origin_le
      simp only [Instruction.control]
      cases entries : machine.stack.entries with
      | nil =>
          refine ⟨(wellFormed.inReach_next inside).counter_le, ?_⟩
          simp
      | cons origin rest =>
          rw [entries] at origin_le
          obtain ⟨first, others⟩ := List.forall_mem_cons.mp origin_le
          have two : (2 : UInt16).toNat = 2 := rfl
          refine ⟨?_, others⟩
          simp only [Step.apply]
          rw [toNat_add_of_lt (by omega)]
          omega
  | jump target =>
      refine wellFormed.inReach_of_step ?_
      simp only [Step.apply, Instruction.toNat_target]
      omega
  | call target =>
      refine ⟨?_, List.forall_mem_cons.mpr ⟨inside, wellFormed.origin_le⟩⟩
      simp only [Instruction.control, Step.apply, Instruction.toNat_target]
      omega
  | jumpOffset target =>
      refine wellFormed.inReach_of_step ?_
      have offset := (machine.register Registers.first).toNat_lt
      have same := Instruction.toNat_target target
      have wide : (machine.register Registers.first).toUInt16.toNat =
          (machine.register Registers.first).toNat := UInt8.toNat_toUInt16 _
      simp only [Step.apply]
      rw [toNat_add_of_lt (by omega)]
      omega
  | skipIfEqual | skipUnlessEqual | skipIfSame | skipUnlessSame | skipIfPressed
  | skipUnlessPressed => exact wellFormed.inReach_skipWhen inside _
  | awaitKey x =>
      simp only [Instruction.control]
      split
      · exact wellFormed.inReach_of_step wellFormed.counter_le
      · exact wellFormed.inReach_next inside
  | clearScreen | assign | increase | combine | point | randomize | draw | readDelay
  | setDelay | setSound | advanceIndex | pointAtGlyph | storeDecimal | storeRegisters
  | loadRegisters => exact wellFormed.inReach_next inside

theorem inReach_opcode (wellFormed : machine.WellFormed)
    (inside : machine.counter.toNat ≤ 0xFFE) (opcode : Opcode) :
    InReach machine.counter (opcode.control machine) := by
  unfold Opcode.control
  cases Instruction.decode? opcode with
  | none => exact wellFormed.inReach_next inside
  | some instruction => exact wellFormed.inReach_control inside instruction

end Machine.WellFormed

theorem Machine.counter_le_of_fetch {machine : Machine} {opcode : Opcode}
    (size : machine.memory.size = Layout.memorySize) (fetched : machine.fetch = .ok opcode) :
    machine.counter.toNat ≤ 0xFFE := by
  obtain ⟨inside, _⟩ := Memory.wordAt_eq_ok_iff.mp fetched
  rw [size, Layout.memorySize] at inside
  omega

theorem Clock.divider_advance_le {clock : Clock}
    (bounded : clock.divider ≤ Layout.dividerReload) :
    clock.advance.divider ≤ Layout.dividerReload := by
  unfold advance
  split
  · exact UInt8.le_refl _
  · rename_i nonzero
    have positive : 1 ≤ clock.divider := by
      rw [UInt8.le_iff_toNat_le]
      exact Nat.one_le_iff_ne_zero.mpr fun zero => nonzero (UInt8.toNat.inj zero)
    rw [UInt8.le_iff_toNat_le] at bounded ⊢
    rw [UInt8.toNat_sub_of_le _ _ positive]
    omega

namespace Effect

variable {effect : Effect} {machine : Machine} {opcode : Opcode}

theorem settled_wellFormed (controls : effect.Controls machine (opcode.control machine))
    (wellFormed : machine.WellFormed) (fetched : machine.fetch = .ok opcode) :
    effect.settled.WellFormed := by
  have inside := Machine.counter_le_of_fetch wellFormed.size_eq fetched
  have reach := wellFormed.inReach_opcode inside opcode
  rw [← controls.control_eq] at reach
  have moved : effect.moved.WellFormed := {
    size_eq := controls.size_eq.trans wellFormed.size_eq
    depth_le := effect.machine.stack.bounded
    origin_le := reach.origin_le
    counter_le := by
      unfold Effect.moved
      rw [controls.counter_eq]
      exact reach.counter_le
    divider_le := by
      unfold Effect.moved
      rw [controls.divider_eq]
      exact wellFormed.divider_le }
  unfold settled
  split
  · exact moved
  · exact { moved with divider_le := Clock.divider_advance_le moved.divider_le }

end Effect

namespace Processor

variable {processor : Processor}

theorem tick_wellFormed (wellFormed : processor.machine.WellFormed) :
    (processor.tick Blitter.xor).processor.machine.WellFormed := by
  cases fetched : processor.machine.fetch with
  | error cause =>
      rw [(tick_unfetched Blitter.xor fetched).processor_eq]
      exact wellFormed
  | ok opcode =>
      cases performed : opcode.perform processor.machine processor.random with
      | error cause =>
          rw [(tick_refused fetched performed).processor_eq]
          exact wellFormed
      | ok effect =>
          rw [(tick_performed fetched performed).processor_eq]
          exact Effect.settled_wellFormed (Opcode.perform_controls performed) wellFormed
            fetched

end Processor

end ChipEight
