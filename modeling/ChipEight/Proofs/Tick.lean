import ChipEight.Proofs.Drawing
import ChipEight.Proofs.Effect

namespace ChipEight

/-! What a tick can do, told through the effect of its opcode: the opcode is not there,
or it is refused, or its effect takes place. -/

theorem Blitter.xor_atomic : Blitter.xor.Atomic := by
  intro call machine fault bench refused
  cases call with
  | clear => cases refused
  | draw address x y height =>
      cases read : machine.memory.read address.toNat (Stamp.visibleRows y height) with
      | error cause =>
          have unchanged := run_draw_refused x { machine } read
          cases unchanged.symm.trans refused
          rfl
      | ok rows =>
          obtain ⟨_, _, _, done, _⟩ := run_draw x { machine } read
          cases done.symm.trans refused

def Machine.fetch (machine : Machine) : Except AccessFault Opcode :=
  machine.memory.wordAt machine.counter.toNat

def Opcode.perform (opcode : Opcode) (machine : Machine) (random : RandomSource) :
    Except Fault Effect :=
  match Instruction.decode? opcode with
  | none => .ok { machine, random, records := [.ignored opcode] }
  | some instruction => instruction.perform Blitter.xor machine random

theorem Opcode.perform_eq_ok {opcode : Opcode} {machine : Machine} {random : RandomSource}
    {effect : Effect} (performed : opcode.perform machine random = .ok effect) :
    (Instruction.decode? opcode = none ∧
      effect = { machine, random, records := [.ignored opcode] }) ∨
    ∃ instruction, Instruction.decode? opcode = some instruction ∧
      instruction.perform Blitter.xor machine random = .ok effect := by
  unfold perform at performed
  cases decoded : Instruction.decode? opcode with
  | none =>
      rw [decoded] at performed
      exact .inl ⟨rfl, (Except.ok.inj performed).symm⟩
  | some instruction =>
      rw [decoded] at performed
      exact .inr ⟨instruction, rfl, performed⟩

namespace Effect

def moved (effect : Effect) : Machine :=
  { effect.machine with counter := effect.step.apply effect.machine.counter }

/-- The machine behind the tick: the clock runs unless the machine waits. -/
def settled (effect : Effect) : Machine :=
  if effect.operation = .waiting then
    effect.moved
  else
    { effect.moved with clock := effect.machine.clock.advance }

/-- Nothing but the clock asks whether the machine waits. -/
theorem settled_eq_moved (effect : Effect) :
    effect.settled = { effect.moved with clock := effect.settled.clock } := by
  unfold settled
  split
  · rfl
  · rfl

theorem memory_settled (effect : Effect) : effect.settled.memory = effect.machine.memory := by
  rw [settled_eq_moved]
  rfl

theorem stack_settled (effect : Effect) : effect.settled.stack = effect.machine.stack := by
  rw [settled_eq_moved]
  rfl

theorem counter_settled (effect : Effect) :
    effect.settled.counter = effect.step.apply effect.machine.counter := by
  rw [settled_eq_moved]
  rfl

def clockRecords (effect : Effect) : List Record :=
  if effect.operation = .waiting then [] else effect.machine.clock.advanceRecords

end Effect

namespace Processor

variable {blitter : Blitter} {processor : Processor} {instruction : Instruction}
  {opcode : Opcode} {fault : Fault} {effect : Effect}

theorem execute_refused (processor : Processor) (atomic : blitter.Atomic)
    (refused : instruction.perform blitter processor.machine processor.random =
      .error fault) :
    (processor.execute blitter instruction).Shows (.error fault) processor [] := by
  have follows := dispatch_spec atomic processor instruction
  rw [refused] at follows
  obtain ⟨outcome, kept, records⟩ := follows
  simp only [execute, outcome]
  exact ⟨rfl, kept, records⟩

theorem execute_of_follows
    (follows : (processor.dispatch blitter instruction).Follows processor (.ok effect)) :
    (processor.execute blitter instruction).Shows (.ok effect.operation)
      { processor with machine := effect.moved, random := effect.random }
      effect.records := by
  obtain ⟨outcome, done, records⟩ := follows
  simp only [execute, outcome, done]
  exact ⟨rfl, rfl, records⟩

theorem execute_silent (blitter : Blitter) (processor : Processor)
    (silent : instruction.screenCall? processor.machine = none)
    (performed : instruction.perform blitter processor.machine processor.random =
      .ok effect) :
    (processor.execute blitter instruction).Shows (.ok effect.operation)
      { processor with machine := effect.moved, random := effect.random }
      effect.records := by
  have follows := dispatch_silent blitter processor silent
  rw [performed] at follows
  exact execute_of_follows follows

theorem execute_performed (processor : Processor) (atomic : blitter.Atomic)
    (performed : instruction.perform blitter processor.machine processor.random =
      .ok effect) :
    (processor.execute blitter instruction).Shows (.ok effect.operation)
      { processor with machine := effect.moved, random := effect.random }
      effect.records := by
  have follows := dispatch_spec atomic processor instruction
  rw [performed] at follows
  exact execute_of_follows follows

theorem finish_refused {report : Report Operation} {records : List Record}
    (shows : report.Shows (.error fault) processor records) : finish report = report := by
  simp only [finish, shows.outcome_eq]

theorem finish_performed {report : Report Operation} {records : List Record}
    (shows : report.Shows (.ok effect.operation)
      { processor with machine := effect.moved, random := effect.random } records) :
    (finish report).Shows (.ok effect.operation)
      { processor with machine := effect.settled, random := effect.random }
      (records ++ effect.clockRecords) := by
  obtain ⟨outcome, done, recorded⟩ := shows
  simp only [finish, outcome, done, recorded, Effect.settled, Effect.clockRecords]
  cases operation : effect.operation with
  | waiting => exact ⟨outcome.trans (by rw [operation]), done, by simp [recorded]⟩
  | advanced => exact ⟨rfl, rfl, rfl⟩
  | drew => exact ⟨rfl, rfl, rfl⟩

theorem tick_unfetched {cause : AccessFault} (blitter : Blitter)
    (missing : processor.machine.fetch = .error cause) :
    (processor.tick blitter).Shows (.error (.access cause)) processor [] := by
  unfold Machine.fetch at missing
  simp only [tick, missing]
  exact ⟨rfl, rfl, rfl⟩

theorem tick_refused (fetched : processor.machine.fetch = .ok opcode)
    (refused : opcode.perform processor.machine processor.random = .error fault) :
    (processor.tick Blitter.xor).Shows (.error fault) { processor with opcode }
      [.fetched processor.machine.counter opcode] := by
  unfold Machine.fetch at fetched
  unfold Opcode.perform at refused
  cases decoded : Instruction.decode? opcode with
  | none => simp [decoded] at refused
  | some instruction =>
      simp only [decoded] at refused
      have shows := execute_refused { processor with opcode } Blitter.xor_atomic
        refused
      simp only [tick, fetched, decoded, finish_refused shows]
      exact ⟨shows.outcome_eq, shows.processor_eq, by rw [shows.records_eq]⟩

theorem tick_performed (fetched : processor.machine.fetch = .ok opcode)
    (performed : opcode.perform processor.machine processor.random = .ok effect) :
    (processor.tick Blitter.xor).Shows (.ok effect.operation)
      { opcode, machine := effect.settled, random := effect.random }
      (.fetched processor.machine.counter opcode ::
        (effect.records ++ effect.clockRecords)) := by
  unfold Machine.fetch at fetched
  unfold Opcode.perform at performed
  cases decoded : Instruction.decode? opcode with
  | none =>
      simp only [decoded] at performed
      cases performed
      simp only [tick, fetched, decoded]
      exact ⟨rfl, rfl, rfl⟩
  | some instruction =>
      simp only [decoded] at performed
      have shows := finish_performed <|
        execute_performed { processor with opcode } Blitter.xor_atomic performed
      simp only [tick, fetched, decoded]
      exact ⟨shows.outcome_eq, shows.processor_eq, by rw [shows.records_eq]⟩

theorem outcome_of_fetch (fetched : processor.machine.fetch = .ok opcode) :
    (processor.tick Blitter.xor).outcome =
      (opcode.perform processor.machine processor.random).map (·.operation) := by
  cases performed : opcode.perform processor.machine processor.random with
  | error cause => exact (tick_refused fetched performed).outcome_eq
  | ok effect => exact (tick_performed fetched performed).outcome_eq

/-- A tick fails and changes neither the machine nor the random source, or the effect of
the opcode takes place. -/
theorem tick_cases (processor : Processor) :
    (∃ fault, (processor.tick Blitter.xor).outcome = .error fault ∧
      (processor.tick Blitter.xor).processor.machine = processor.machine ∧
      (processor.tick Blitter.xor).processor.random = processor.random) ∨
    ∃ opcode effect, processor.machine.fetch = .ok opcode ∧
      opcode.perform processor.machine processor.random = .ok effect ∧
      (processor.tick Blitter.xor).outcome = .ok effect.operation ∧
      (processor.tick Blitter.xor).processor =
        { opcode, machine := effect.settled, random := effect.random } := by
  cases fetched : processor.machine.fetch with
  | error cause =>
      have shows := tick_unfetched Blitter.xor fetched
      exact .inl ⟨_, shows.outcome_eq, by rw [shows.processor_eq], by rw [shows.processor_eq]⟩
  | ok opcode =>
      cases performed : opcode.perform processor.machine processor.random with
      | error cause =>
          have shows := tick_refused fetched performed
          exact .inl
            ⟨_, shows.outcome_eq, by rw [shows.processor_eq], by rw [shows.processor_eq]⟩
      | ok effect =>
          have shows := tick_performed fetched performed
          exact .inr ⟨opcode, effect, rfl, performed, shows.outcome_eq, shows.processor_eq⟩

end Processor

end ChipEight
