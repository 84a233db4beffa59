import ChipEight.Proofs.History

namespace ChipEight

/-! Two processors with the same machine and the same random bytes ahead of them cannot be
told apart by running them. Neither the opcode that was fetched last nor how many random
bytes have been drawn so far has a say in anything. -/

namespace RandomSource

variable {first second : RandomSource}

/-- The sources hand out the same bytes from here on. -/
def SameBytes (first second : RandomSource) : Prop :=
  ∀ offset, first.byte (first.drawn + offset) = second.byte (second.drawn + offset)

theorem SameBytes.refl (random : RandomSource) : random.SameBytes random :=
  fun _ => rfl

theorem SameBytes.next_byte (same : first.SameBytes second) :
    first.next.1 = second.next.1 :=
  same 0

theorem SameBytes.next (same : first.SameBytes second) :
    first.next.2.SameBytes second.next.2 := by
  intro offset
  simpa only [RandomSource.next, Nat.add_assoc, Nat.add_comm 1] using same (offset + 1)

end RandomSource

namespace Instruction

variable {blitter : Blitter} {machine : Machine} {first second : RandomSource}

/-- What is left of the random source behind an instruction that is not refused. -/
def spend (random : RandomSource) : Instruction → RandomSource
  | .randomize _ _ => random.next.2
  | _ => random

theorem spend_sameBytes (same : first.SameBytes second) (instruction : Instruction) :
    (instruction.spend first).SameBytes (instruction.spend second) := by
  cases instruction with
  | randomize x mask => exact same.next
  | _ => exact same

theorem accessed_resupplied (first second : RandomSource)
    (result : Except AccessFault Machine) :
    accessed second result =
      (accessed first result).map ({ · with random := second }) := by
  cases result <;> rfl

theorem painted_resupplied (blitter : Blitter) (machine : Machine)
    (first second : RandomSource) (call : ScreenCall) :
    painted blitter machine second call =
      (painted blitter machine first call).map ({ · with random := second }) := by
  unfold painted
  cases blitter call machine <;> rfl

/-- Another source of the same bytes makes no difference but for what is left of it. -/
theorem perform_resupplied (blitter : Blitter) (machine : Machine)
    (same : first.SameBytes second) (instruction : Instruction) :
    instruction.perform blitter machine second =
      (instruction.perform blitter machine first).map
        ({ · with random := instruction.spend second }) := by
  cases instruction with
  | clearScreen => exact painted_resupplied blitter machine first second .clear
  | draw x y height =>
      exact painted_resupplied blitter machine first second (machine.drawCall x y height)
  | leave =>
      unfold perform
      cases machine.stack.pop <;> rfl
  | call target =>
      unfold perform
      cases machine.stack.push machine.counter <;> rfl
  | randomize x mask =>
      simp only [perform, same.next_byte]
      rfl
  | awaitKey x =>
      unfold perform
      cases machine.keypad.lowestDown? <;> rfl
  | storeDecimal | storeRegisters | loadRegisters =>
      exact accessed_resupplied first second _
  | jump | jumpOffset | skipIfEqual | skipUnlessEqual | skipIfSame | skipUnlessSame
  | skipIfPressed | skipUnlessPressed => rfl
  | assign | increase | combine | point | readDelay | setDelay | setSound
  | advanceIndex | pointAtGlyph => rfl

theorem random_of_perform {instruction : Instruction} {effect : Effect}
    (performed : instruction.perform blitter machine first = .ok effect) :
    effect.random = instruction.spend first := by
  have resupplied := perform_resupplied blitter machine (.refl first) instruction
  rw [performed] at resupplied
  exact congrArg Effect.random (Except.ok.inj resupplied)

end Instruction

/-- Two attempts at the same opcode come to the same but for what is left of the random
sources, and there the bytes ahead are the same. -/
structure Effect.Agrees (first second : Effect) : Prop where
  machine_eq : first.machine = second.machine
  step_eq : first.step = second.step
  operation_eq : first.operation = second.operation
  records_eq : first.records = second.records
  sameBytes : first.random.SameBytes second.random

namespace Effect.Agrees

variable {first second : Effect}

theorem settled_eq (agree : first.Agrees second) : first.settled = second.settled := by
  simp only [settled, moved, agree.machine_eq, agree.step_eq, agree.operation_eq]

theorem clockRecords_eq (agree : first.Agrees second) :
    first.clockRecords = second.clockRecords := by
  simp only [clockRecords, agree.machine_eq, agree.operation_eq]

end Effect.Agrees

theorem Opcode.perform_agrees (opcode : Opcode) (machine : Machine)
    {first second : RandomSource} (same : first.SameBytes second) :
    (∃ fault, opcode.perform machine first = .error fault ∧
      opcode.perform machine second = .error fault) ∨
    ∃ effect other, opcode.perform machine first = .ok effect ∧
      opcode.perform machine second = .ok other ∧ effect.Agrees other := by
  unfold perform
  cases decoded : Instruction.decode? opcode with
  | none => exact .inr ⟨_, _, rfl, rfl, rfl, rfl, rfl, rfl, same⟩
  | some instruction =>
      simp only [Instruction.perform_resupplied _ machine same instruction]
      cases performed : instruction.perform Blitter.xor machine first with
      | error fault => exact .inl ⟨fault, rfl, rfl⟩
      | ok effect =>
          refine .inr ⟨effect, _, rfl, rfl, rfl, rfl, rfl, rfl, ?_⟩
          rw [Instruction.random_of_perform performed]
          exact Instruction.spend_sameBytes same instruction

namespace Processor

variable {first second : Processor}

structure Agrees (first second : Processor) : Prop where
  machine_eq : first.machine = second.machine
  sameBytes : first.random.SameBytes second.random

theorem Agrees.press (agree : first.Agrees second) (keypad : Keypad) :
    (first.press keypad).Agrees (second.press keypad) where
  machine_eq := by simp only [Processor.press, mapMachine, agree.machine_eq]
  sameBytes := agree.sameBytes

/-- A tick that fails may leave the opcodes apart, any other brings them together. -/
structure TicksAlike (first second : Processor) : Prop where
  outcome_eq :
    (first.tick Blitter.xor).outcome = (second.tick Blitter.xor).outcome
  records_eq :
    (first.tick Blitter.xor).records = (second.tick Blitter.xor).records
  agrees : (first.tick Blitter.xor).processor.Agrees (second.tick Blitter.xor).processor
  opcode_eq : ∀ operation, (first.tick Blitter.xor).outcome = .ok operation →
    (first.tick Blitter.xor).processor.opcode = (second.tick Blitter.xor).processor.opcode

theorem ticksAlike_of_shows {outcome : Except Fault Operation} {left right : Processor}
    {records : List Record}
    (shows : (first.tick Blitter.xor).Shows outcome left records)
    (alike : (second.tick Blitter.xor).Shows outcome right records)
    (agree : left.Agrees right)
    (opcode_eq : ∀ operation, outcome = .ok operation → left.opcode = right.opcode) :
    first.TicksAlike second where
  outcome_eq := shows.outcome_eq.trans alike.outcome_eq.symm
  records_eq := shows.records_eq.trans alike.records_eq.symm
  agrees := by rwa [shows.processor_eq, alike.processor_eq]
  opcode_eq operation succeeded := by
    rw [shows.processor_eq, alike.processor_eq]
    exact opcode_eq operation (shows.outcome_eq.symm.trans succeeded)

theorem Agrees.ticksAlike (agree : first.Agrees second) : first.TicksAlike second := by
  obtain ⟨last, machine, random⟩ := first
  obtain ⟨otherLast, _, supply⟩ := second
  obtain ⟨rfl, same⟩ := agree
  cases fetched : machine.fetch with
  | error cause =>
      exact ticksAlike_of_shows (tick_unfetched Blitter.xor fetched)
        (tick_unfetched Blitter.xor fetched) ⟨rfl, same⟩ nofun
  | ok opcode =>
      rcases opcode.perform_agrees machine same with
        ⟨fault, refused, alsoRefused⟩ | ⟨effect, other, performed, alsoPerformed, agree⟩
      · exact ticksAlike_of_shows (tick_refused fetched refused)
          (tick_refused fetched alsoRefused) ⟨rfl, same⟩ nofun
      · have alike : (Processor.tick Blitter.xor ⟨otherLast, machine, supply⟩).Shows _ _ _ :=
          tick_performed fetched alsoPerformed
        rw [← agree.operation_eq, ← agree.records_eq, ← agree.clockRecords_eq] at alike
        exact ticksAlike_of_shows (tick_performed fetched performed) alike
          ⟨agree.settled_eq, agree.sameBytes⟩ fun _ _ => rfl

/-- What two runs have in common, however many ticks they are given. -/
structure RunsAlike (first second : Processor) (count : Nat) : Prop where
  stopped_eq :
    (first.run Blitter.xor count).stopped = (second.run Blitter.xor count).stopped
  ticks_eq : (first.run Blitter.xor count).ticks = (second.run Blitter.xor count).ticks
  records_eq :
    (first.run Blitter.xor count).records = (second.run Blitter.xor count).records
  agrees :
    (first.run Blitter.xor count).processor.Agrees (second.run Blitter.xor count).processor

theorem Agrees.runsAlike (agree : first.Agrees second) (count : Nat) :
    first.RunsAlike second count := by
  induction count generalizing first second with
  | zero => exact ⟨rfl, rfl, rfl, agree⟩
  | succ count ih =>
      have alike := agree.ticksAlike
      cases outcome : (first.tick Blitter.xor).outcome with
      | error fault =>
          have alsoFailed := alike.outcome_eq.symm.trans outcome
          constructor <;> simp only [run, outcome, alsoFailed]
          · exact alike.records_eq
          · exact alike.agrees
      | ok operation =>
          have alsoDone := alike.outcome_eq.symm.trans outcome
          have rest := ih alike.agrees
          constructor <;> simp only [run, outcome, alsoDone]
          · exact rest.stopped_eq
          · rw [rest.ticks_eq, alike.opcode_eq operation outcome, alike.agrees.machine_eq]
          · rw [alike.records_eq, rest.records_eq]
          · exact rest.agrees

end Processor

end ChipEight
