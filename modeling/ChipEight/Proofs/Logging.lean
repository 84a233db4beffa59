import ChipEight.Proofs.Cadence
import ChipEight.Proofs.Nesting

namespace ChipEight

/-! The log as a trace. A reader who sees nothing but the log can keep the call stack of the
machine: calls tell what is pushed and returns what is popped. -/

/-- The stack of a reader behind a record, unless the record does not fit that stack. -/
def Record.follow (origins : List UInt16) : Record → Option (List UInt16)
  | .called _ origin => some (origin :: origins)
  | .returned origin =>
      match origins with
      | [] => none
      | top :: rest => if top = origin then some rest else none
  | _ => some origins

/-- What a reader makes of a log, who reads no more than its debug records. -/
def Record.followAll (origins : List UInt16) (records : List Record) :
    Option (List UInt16) :=
  (records.filter (·.level = .debug)).foldlM follow origins

namespace Record

@[simp] theorem followAll_nil (origins : List UInt16) : followAll origins [] = some origins :=
  rfl

@[simp] theorem followAll_fetched (origins : List UInt16) (counter : UInt16) (opcode : Opcode)
    (records : List Record) :
    followAll origins (.fetched counter opcode :: records) = followAll origins records :=
  rfl

theorem followAll_append (origins : List UInt16) (first second : List Record) :
    followAll origins (first ++ second) =
      (followAll origins first).bind fun middle => followAll middle second := by
  simp only [followAll, List.filter_append, List.foldlM_append]
  rfl

theorem followAll_clockRecords (origins : List UInt16) (effect : Effect) :
    followAll origins effect.clockRecords = some origins := by
  unfold Effect.clockRecords Clock.advanceRecords
  split
  · rfl
  · split
    · rfl
    · rfl

end Record

/-- What the records of an effect have to do with what it does. -/
inductive Effect.Reports (effect : Effect) (machine : Machine) : Prop
  | called (target : UInt16) (records : effect.records = [.called target machine.counter])
      (pushed : effect.machine.stack.entries = machine.counter :: machine.stack.entries)
      (step : effect.step = .jump target)
  | returned (origin : UInt16) (records : effect.records = [.returned origin])
      (popped : machine.stack.entries = origin :: effect.machine.stack.entries)
      (step : effect.step = .jump (origin + 2))
  | silent (records : effect.records = [])
      (kept : effect.machine.stack.entries = machine.stack.entries)

namespace Instruction

variable {machine : Machine} {random : RandomSource} {effect : Effect}

theorem perform_reports {instruction : Instruction}
    (performed : instruction.perform Blitter.xor machine random = .ok effect) :
    effect.Reports machine := by
  cases instruction with
  | call target =>
      simp only [perform, CallStack.push] at performed
      split at performed
      · cases performed
        exact .called _ rfl rfl rfl
      · cases performed
  | leave =>
      obtain ⟨⟨origin, rest⟩, popped, rfl⟩ := mapped_eq_ok performed
      exact .returned origin rfl (CallStack.entries_pop popped) rfl
  | clearScreen =>
      obtain ⟨memory, registers, rfl, _⟩ := painted_eq_ok performed
      exact .silent rfl rfl
  | draw x y height =>
      obtain ⟨memory, registers, rfl, _⟩ := painted_eq_ok performed
      exact .silent rfl rfl
  | combine operator x y =>
      obtain ⟨registers, rfl⟩ := combined_eq_ok performed
      exact .silent rfl rfl
  | awaitKey x =>
      rcases awaited_eq_ok performed with ⟨_, rfl⟩ | ⟨key, _, rfl⟩
      · exact .silent rfl rfl
      · exact .silent rfl rfl
  | storeDecimal x =>
      obtain ⟨memory, _, rfl⟩ := stored_eq_ok performed
      exact .silent rfl rfl
  | storeRegisters x =>
      obtain ⟨memory, _, rfl⟩ := stored_eq_ok performed
      exact .silent rfl rfl
  | loadRegisters x =>
      obtain ⟨values, _, rfl⟩ := loaded_eq_ok performed
      exact .silent rfl rfl
  | jump | jumpOffset | skipIfEqual | skipUnlessEqual | skipIfSame | skipUnlessSame
  | skipIfPressed | skipUnlessPressed =>
      cases performed
      exact .silent rfl rfl
  | assign | increase | point | randomize | readDelay | setDelay | setSound
  | advanceIndex | pointAtGlyph =>
      cases performed
      exact .silent rfl rfl

end Instruction

namespace Opcode

variable {opcode : Opcode} {machine : Machine} {random : RandomSource} {effect : Effect}

theorem perform_reports (performed : opcode.perform machine random = .ok effect) :
    (Instruction.decode? opcode = none ∧
      effect = { machine, random, records := [.ignored opcode] }) ∨
    (∃ instruction, Instruction.decode? opcode = some instruction) ∧
      effect.Reports machine := by
  rcases perform_eq_ok performed with outside | ⟨instruction, decoded, performed⟩
  · exact .inl outside
  · exact .inr ⟨⟨instruction, decoded⟩, Instruction.perform_reports performed⟩

theorem followAll_of_perform (performed : opcode.perform machine random = .ok effect) :
    Record.followAll machine.stack.entries effect.records =
      some effect.machine.stack.entries := by
  rcases perform_reports performed with ⟨_, rfl⟩ | ⟨_, reports⟩
  · rfl
  · cases reports with
    | called target records pushed _ =>
        rw [records, pushed]
        rfl
    | returned origin records popped _ =>
        rw [records, popped]
        simp [Record.followAll, Record.follow, Record.level]
    | silent records kept =>
        rw [records, kept]
        rfl

end Opcode

/-- The records of an effect and of the clock behind it, with what each of them says. -/
inductive Effect.Logs (effect : Effect) (opcode : Opcode) (machine : Machine) : Record → Prop
  | ignored (outside : Instruction.decode? opcode = none) :
      Logs effect opcode machine (.ignored opcode)
  | called (target : UInt16) (step : effect.step = .jump target) :
      Logs effect opcode machine (.called target machine.counter)
  | returned (origin : UInt16) (step : effect.step = .jump (origin + 2)) :
      Logs effect opcode machine (.returned origin)
  | reloaded (moves : effect.operation ≠ .waiting)
      (zero : effect.machine.clock.divider = 0) :
      Logs effect opcode machine
        (.reloaded effect.machine.clock.delay effect.machine.clock.sound)

theorem Effect.mem_clockRecords {effect : Effect} {record : Record} :
    record ∈ effect.clockRecords ↔
      effect.operation ≠ .waiting ∧ effect.machine.clock.divider = 0 ∧
        record = .reloaded effect.machine.clock.delay effect.machine.clock.sound := by
  unfold clockRecords Clock.advanceRecords
  split
  · rename_i waits
    simp [waits]
  · rename_i moves
    split
    · rename_i zero
      simp [moves, zero]
    · rename_i nonzero
      simp [nonzero]

theorem Opcode.logs_of_mem {opcode : Opcode} {machine : Machine} {random : RandomSource}
    {effect : Effect} {record : Record}
    (performed : opcode.perform machine random = .ok effect)
    (logged : record ∈ effect.records ++ effect.clockRecords) :
    effect.Logs opcode machine record := by
  rcases List.mem_append.mp logged with logged | logged
  · rcases perform_reports performed with ⟨outside, rfl⟩ | ⟨_, reports⟩
    · obtain rfl := List.mem_singleton.mp logged
      exact .ignored outside
    · cases reports with
      | called target records _ step =>
          obtain rfl := List.mem_singleton.mp (records ▸ logged)
          exact .called target step
      | returned origin records _ step =>
          obtain rfl := List.mem_singleton.mp (records ▸ logged)
          exact .returned origin step
      | silent records _ => cases records ▸ logged
  · obtain ⟨moves, zero, rfl⟩ := Effect.mem_clockRecords.mp logged
    exact .reloaded moves zero

namespace Processor

variable {processor : Processor} {record : Record}

theorem followAll_tick (processor : Processor) :
    Record.followAll processor.origins (processor.tick Blitter.xor).records =
      some (processor.tick Blitter.xor).processor.origins := by
  cases fetched : processor.machine.fetch with
  | error cause =>
      have shows := tick_unfetched Blitter.xor fetched
      rw [shows.records_eq, shows.processor_eq]
      rfl
  | ok opcode =>
      cases performed : opcode.perform processor.machine processor.random with
      | error fault =>
          have shows := tick_refused fetched performed
          rw [shows.records_eq, shows.processor_eq]
          rfl
      | ok effect =>
          have shows := tick_performed fetched performed
          have followed := Opcode.followAll_of_perform performed
          rw [shows.records_eq, shows.processor_eq, Record.followAll_fetched,
            Record.followAll_append, origins, followed, Option.bind_some,
            Record.followAll_clockRecords, origins, effect.stack_settled]

/-- All that is logged up to a moment. -/
def log (start : Processor) (keypads : Nat → Keypad) : Nat → List Record
  | 0 => []
  | moment + 1 =>
      start.log keypads moment ++ ((start.history keypads moment).tick Blitter.xor).records

theorem followAll_log (start : Processor) (keypads : Nat → Keypad) (stop : Nat) :
    Record.followAll start.origins (start.log keypads stop) =
      some (start.history keypads stop).origins := by
  induction stop with
  | zero => rfl
  | succ stop ih =>
      rw [log, Record.followAll_append, ih, Option.bind_some, followAll_tick]
      rfl

/-- How the records of a tick go with what it finds and what it leaves behind. -/
structure LogLaws (processor : Processor) : Prop where
  unfetched : ∀ cause, processor.machine.fetch = .error cause →
    (processor.tick Blitter.xor).records = []
  fetched : ∀ opcode, processor.machine.fetch = .ok opcode →
    ∃ rest, (processor.tick Blitter.xor).records =
        .fetched processor.machine.counter opcode :: rest ∧
      ∀ counter other, .fetched counter other ∉ rest
  warned_iff :
    (∃ record ∈ (processor.tick Blitter.xor).records, record.level = .warn) ↔
      ∃ opcode, processor.machine.fetch = .ok opcode ∧
        ∀ instruction : Instruction, instruction.encode ≠ opcode
  traced_iff :
    (∃ record ∈ (processor.tick Blitter.xor).records, record.level = .trace) ↔
      (∃ operation, (processor.tick Blitter.xor).outcome = .ok operation ∧
        operation ≠ .waiting) ∧ processor.machine.clock.divider = 0
  /-- The timers stand in the record with what the tick has written to them, and then go
  down by one. -/
  reloaded : ∀ delay sound,
    .reloaded delay sound ∈ (processor.tick Blitter.xor).records →
      delay = (processor.written? .delay).getD processor.machine.clock.delay ∧
      sound = (processor.written? .sound).getD processor.machine.clock.sound ∧
      (processor.tick Blitter.xor).processor.machine.clock =
        ⟨Clock.countDown delay, Clock.countDown sound, 9⟩
  called : ∀ target origin,
    .called target origin ∈ (processor.tick Blitter.xor).records →
      (processor.tick Blitter.xor).processor.machine.counter = target
  returned : ∀ origin,
    .returned origin ∈ (processor.tick Blitter.xor).records →
      (processor.tick Blitter.xor).processor.machine.counter = origin + 2

theorem records_of_fetch {opcode : Opcode} (fetched : processor.machine.fetch = .ok opcode) :
    ∃ rest, (processor.tick Blitter.xor).records =
        .fetched processor.machine.counter opcode :: rest ∧
      ∀ record ∈ rest, ∃ effect,
        opcode.perform processor.machine processor.random = .ok effect ∧
        effect.Logs opcode processor.machine record := by
  cases performed : opcode.perform processor.machine processor.random with
  | error fault => exact ⟨[], (tick_refused fetched performed).records_eq, by simp⟩
  | ok effect =>
      exact ⟨_, (tick_performed fetched performed).records_eq, fun record logged =>
        ⟨effect, rfl, Opcode.logs_of_mem performed logged⟩⟩

theorem logs_of_mem_records (logged : record ∈ (processor.tick Blitter.xor).records) :
    ∃ opcode, processor.machine.fetch = .ok opcode ∧
      (record = .fetched processor.machine.counter opcode ∨
        ∃ effect, opcode.perform processor.machine processor.random = .ok effect ∧
          effect.Logs opcode processor.machine record) := by
  cases fetched : processor.machine.fetch with
  | error cause =>
      rw [(tick_unfetched Blitter.xor fetched).records_eq] at logged
      cases logged
  | ok opcode =>
      obtain ⟨rest, records, logs⟩ := records_of_fetch fetched
      rw [records] at logged
      exact ⟨opcode, rfl, (List.mem_cons.mp logged).imp_right (logs record)⟩

theorem warned_iff (processor : Processor) :
    (∃ record ∈ (processor.tick Blitter.xor).records, record.level = .warn) ↔
      ∃ opcode, processor.machine.fetch = .ok opcode ∧
        ∀ instruction : Instruction, instruction.encode ≠ opcode := by
  simp only [← Instruction.decode?_eq_none_iff]
  constructor
  · rintro ⟨record, logged, warns⟩
    obtain ⟨opcode, fetched, rfl | ⟨effect, performed, logs⟩⟩ := logs_of_mem_records logged
    · contradiction
    · cases logs with
      | ignored outside => exact ⟨opcode, fetched, outside⟩
      | called | returned | reloaded => contradiction
  · rintro ⟨opcode, fetched, outside⟩
    have performed : opcode.perform processor.machine processor.random =
        .ok { machine := processor.machine
              random := processor.random
              records := [.ignored opcode] } := by
      rw [Opcode.perform, outside]
    refine ⟨.ignored opcode, ?_, rfl⟩
    rw [(tick_performed fetched performed).records_eq]
    exact List.mem_cons_of_mem _ (List.mem_append_left _ (List.mem_singleton_self _))

theorem traced_iff (processor : Processor) :
    (∃ record ∈ (processor.tick Blitter.xor).records, record.level = .trace) ↔
      (∃ operation, (processor.tick Blitter.xor).outcome = .ok operation ∧
        operation ≠ .waiting) ∧ processor.machine.clock.divider = 0 := by
  constructor
  · rintro ⟨record, logged, traces⟩
    obtain ⟨opcode, fetched, rfl | ⟨effect, performed, logs⟩⟩ := logs_of_mem_records logged
    · contradiction
    · cases logs with
      | reloaded moves zero =>
          refine ⟨⟨_, (tick_performed fetched performed).outcome_eq, moves⟩, ?_⟩
          rw [← zero, (Opcode.perform_controls performed).divider_eq]
      | ignored | called | returned => contradiction
  · rintro ⟨⟨operation, succeeded, moves⟩, zero⟩
    rcases processor.tick_cases with
      ⟨fault, failed, _⟩ | ⟨opcode, effect, fetched, performed, outcome, _⟩
    · cases failed.symm.trans succeeded
    · obtain rfl := Except.ok.inj (outcome.symm.trans succeeded)
      have reloads : effect.machine.clock.divider = 0 := by
        rw [(Opcode.perform_controls performed).divider_eq, zero]
      refine ⟨.reloaded effect.machine.clock.delay effect.machine.clock.sound, ?_, rfl⟩
      rw [(tick_performed fetched performed).records_eq]
      exact List.mem_cons_of_mem _
        (List.mem_append_right _ (Effect.mem_clockRecords.mpr ⟨moves, reloads, rfl⟩))

theorem reloaded_of_mem {delay sound : UInt8}
    (logged : .reloaded delay sound ∈ (processor.tick Blitter.xor).records) :
    delay = (processor.written? .delay).getD processor.machine.clock.delay ∧
      sound = (processor.written? .sound).getD processor.machine.clock.sound ∧
      (processor.tick Blitter.xor).processor.machine.clock =
        ⟨Clock.countDown delay, Clock.countDown sound, 9⟩ := by
  obtain ⟨opcode, fetched, fetching | ⟨effect, performed, logs⟩⟩ := logs_of_mem_records logged
  · cases fetching
  · cases logs with
    | reloaded moves zero =>
        have written : ∀ timer : Timer, timer.value effect.machine.clock =
            (processor.written? timer).getD (timer.value processor.machine.clock) := by
          intro timer
          rw [Opcode.perform_clock performed, Opcode.value_clock, written?, fetched]
        refine ⟨written .delay, written .sound, ?_⟩
        rw [(tick_performed fetched performed).processor_eq]
        simp only [Effect.settled, moves, if_false, Clock.advance, zero, if_true]
        rfl

theorem counter_of_jump {opcode : Opcode} {effect : Effect} {target : UInt16}
    (fetched : processor.machine.fetch = .ok opcode)
    (performed : opcode.perform processor.machine processor.random = .ok effect)
    (step : effect.step = .jump target) :
    (processor.tick Blitter.xor).processor.machine.counter = target := by
  rw [(tick_performed fetched performed).processor_eq, effect.counter_settled, step]
  rfl

theorem logLaws (processor : Processor) : processor.LogLaws where
  unfetched cause missing := (tick_unfetched Blitter.xor missing).records_eq
  fetched opcode fetched := by
    obtain ⟨rest, records, logs⟩ := records_of_fetch fetched
    refine ⟨rest, records, fun counter other logged => ?_⟩
    obtain ⟨effect, performed, logs⟩ := logs _ logged
    cases logs
  warned_iff := processor.warned_iff
  traced_iff := processor.traced_iff
  reloaded _ _ := reloaded_of_mem
  called target origin logged := by
    obtain ⟨opcode, fetched, fetching | ⟨effect, performed, logs⟩⟩ :=
      logs_of_mem_records logged
    · cases fetching
    · cases logs with
      | called _ step => exact counter_of_jump fetched performed step
  returned origin logged := by
    obtain ⟨opcode, fetched, fetching | ⟨effect, performed, logs⟩⟩ :=
      logs_of_mem_records logged
    · cases fetching
    · cases logs with
      | returned _ step => exact counter_of_jump fetched performed step

/-- A reader of the log has, at every moment of a run, the call stack of the machine: each
return finds its origin on top, and none finds the stack empty. And each tick logs what it
comes upon, and nothing else. -/
theorem log_traces_run :
    (∀ (start : Processor) (keypads : Nat → Keypad) (stop : Nat),
      Record.followAll start.origins (start.log keypads stop) =
        some (start.history keypads stop).origins) ∧
    ∀ processor : Processor, processor.LogLaws :=
  ⟨followAll_log, logLaws⟩

set_option maxRecDepth 100000 in
example : nestedCalls.log unpressed 4 =
    [.fetched 0x200 0x2206, .called 0x206 0x200, .fetched 0x206 0x220A, .called 0x20A 0x206,
      .fetched 0x20A 0x00EE, .returned 0x206, .fetched 0x208 0x00EE, .returned 0x200] := by
  rfl

end Processor

end ChipEight
