import Mathlib.Data.Nat.Count
import ChipEight.Proofs.Agreement
import ChipEight.Proofs.Operation

namespace ChipEight

/-! What a host has in its hands: the keys, the way shifts read their operand and the random
source. A run depends on them only through the instructions that ask for them. All others
perform alike under any host, and so does the work on the screen. -/

structure HostInputs where
  keypad : Keypad
  shiftsInPlace : Bool

def Machine.inputs (machine : Machine) : HostInputs :=
  ⟨machine.keypad, machine.shiftsInPlace⟩

def Machine.under (machine : Machine) (inputs : HostInputs) : Machine :=
  { machine with keypad := inputs.keypad, shiftsInPlace := inputs.shiftsInPlace }

def Bench.under (bench : Bench) (inputs : HostInputs) : Bench :=
  { bench with machine := bench.machine.under inputs }

namespace Work

variable {Cause Result Next : Type}

def resultUnder (inputs : HostInputs) : EStateM.Result Cause Bench Result →
    EStateM.Result Cause Bench Result
  | .ok result bench => .ok result (bench.under inputs)
  | .error cause bench => .error cause (bench.under inputs)

/-- Work that comes to the same whatever the inputs are. -/
def Ignores (work : Work Cause Result) (inputs : HostInputs) : Prop :=
  ∀ bench, work.run (bench.under inputs) = resultUnder inputs (work.run bench)

namespace Ignores

variable {inputs : HostInputs}

theorem pure (result : Result) : Ignores (Pure.pure result : Work Cause Result) inputs :=
  fun _ => rfl

theorem bind {first : Work Cause Result} {second : Result → Work Cause Next}
    (ignores : first.Ignores inputs) (next : ∀ result, (second result).Ignores inputs) :
    Ignores (first >>= second) inputs := by
  intro bench
  rw [EStateM.run_bind, EStateM.run_bind, ignores bench]
  cases first.run bench with
  | ok result after => exact next result after
  | error cause after => rfl

theorem demand (condition : Prop) [Decidable condition] :
    Ignores (Work.demand condition : Work Cause Unit) inputs :=
  fun _ => rfl

theorem change {update : Machine → Machine}
    (commutes : ∀ machine, update (machine.under inputs) = (update machine).under inputs) :
    Ignores (Work.change update : Work Cause Unit) inputs := by
  intro bench
  simp only [run_change, Bench.under, commutes]
  rfl

theorem flip (address : Nat) (bits : UInt8) :
    Ignores (Work.flip address bits : Work Cause Bool) inputs :=
  fun _ => rfl

theorem readRange (start length : Nat) : Ignores (Work.readRange start length) inputs := by
  intro bench
  rw [run_readRange, run_readRange]
  simp only [Bench.under, Machine.under]
  cases bench.machine.memory.read start length with
  | error fault => rfl
  | ok values => rfl

end Ignores

end Work

namespace Blitter

variable {Cause : Type} {inputs : HostInputs}

theorem flipRight_ignores (address : Nat) (row : UInt8) (shift : Nat) :
    (flipRight address row shift : Work Cause Bool).Ignores inputs :=
  (Work.Ignores.demand _).bind fun _ => .flip _ _

theorem flipLeft_ignores (address : Nat) (row : UInt8) (shift : Nat) :
    (flipLeft address row shift : Work Cause Bool).Ignores inputs :=
  (Work.Ignores.demand _).bind fun _ => .flip _ _

theorem flipRow_ignores (x address : Nat) (row : UInt8) :
    (flipRow x address row : Work Cause Bool).Ignores inputs := by
  refine (flipRight_ignores address row (x % 8)).bind fun erased => ?_
  by_cases split : x % 8 ≠ 0 ∧ x < splitLimit
  · simp only [if_pos split]
    exact (flipLeft_ignores _ _ _).bind fun _ => .pure _
  · simp only [if_neg split]
    exact .pure erased

theorem flipRows_ignores (x : Nat) (rows : List UInt8) :
    ∀ address, (flipRows x address rows : Work Cause Bool).Ignores inputs := by
  induction rows with
  | nil => exact fun _ => .pure false
  | cons row rows ih =>
      exact fun address => (flipRow_ignores x address row).bind fun _ =>
        (ih _).bind fun _ => .pure _

theorem readStamp_ignores (address : UInt16) (x y height : UInt8) :
    (readStamp address x y height).Ignores inputs :=
  (Work.Ignores.demand _).bind fun _ => (Work.Ignores.demand _).bind fun _ =>
    (Work.Ignores.readRange _ _).bind fun _ => (Work.Ignores.demand _).bind fun _ => .pure _

theorem draw_ignores (address : UInt16) (x y height : UInt8) :
    (draw address x y height).Ignores inputs :=
  (readStamp_ignores address x y height).bind fun _ => (flipRows_ignores _ _ _).bind fun _ =>
    .change fun _ => rfl

theorem xor_under (call : ScreenCall) (machine : Machine) :
    Blitter.xor call (machine.under inputs) =
      (Blitter.xor call machine).map (·.under inputs) := by
  cases call with
  | clear =>
      simp only [attempt_clear, Except.map, Machine.under]
  | draw address x y height =>
      have run : (draw address x y height).run { machine := machine.under inputs } = _ :=
        draw_ignores address x y height { machine }
      simp only [attempt, xor, run]
      cases (draw address x y height).run { machine } with
      | ok result bench => rfl
      | error fault bench => rfl

end Blitter

/-- `EX9E`, `EXA1`, `FX0A` and `CXNN`, and the two shifts where the registers they name
differ. -/
def Machine.AsksHost (machine : Machine) (opcode : Opcode) : Prop :=
  opcode.group.val = 0xE ∧ (opcode.nn = 0x9E ∨ opcode.nn = 0xA1) ∨
  opcode.group.val = 0xF ∧ opcode.nn = 0x0A ∨
  opcode.group.val = 0xC ∨
  opcode.group.val = 0x8 ∧ (opcode.n.val = 0x6 ∨ opcode.n.val = 0xE) ∧
    machine.register opcode.x ≠ machine.register opcode.y

instance (machine : Machine) : DecidablePred machine.AsksHost := fun _ =>
  inferInstanceAs (Decidable (_ ∨ _))

def Effect.under (effect : Effect) (inputs : HostInputs) (random : RandomSource) : Effect :=
  { effect with machine := effect.machine.under inputs, random }

theorem Effect.settled_under (effect : Effect) (inputs : HostInputs) (random : RandomSource) :
    (effect.under inputs random).settled = effect.settled.under inputs := by
  unfold settled
  split
  next waits => rw [if_pos (show effect.operation = .waiting from waits)]; rfl
  next runs => rw [if_neg (show ¬effect.operation = .waiting from runs)]; rfl

namespace Instruction

variable {machine : Machine} {random : RandomSource} {inputs : HostInputs}
  {instruction : Instruction}

def Asks (machine : Machine) : Instruction → Prop
  | .skipIfPressed _ | .skipUnlessPressed _ | .awaitKey _ | .randomize _ _ => True
  | .combine .shiftRight x y | .combine .shiftLeft x y =>
      machine.register x ≠ machine.register y
  | _ => False

theorem asksHost_encode_iff (machine : Machine) (instruction : Instruction) :
    machine.AsksHost instruction.encode ↔ instruction.Asks machine := by
  cases instruction with
  | combine operator x y =>
      cases operator <;> simp [Machine.AsksHost, encode, Asks, Operator.digit]
  | clearScreen | leave => simp [Machine.AsksHost, encode, Asks, Opcode.group]
  | _ => simp [Machine.AsksHost, encode, Asks]

/-- No instruction that asks is ever refused, so a tick that fails asks for nothing. -/
theorem performed_of_asks (asks : instruction.Asks machine) :
    ∃ effect, instruction.perform Blitter.xor machine random = .ok effect := by
  cases instruction with
  | skipIfPressed | skipUnlessPressed | randomize | combine => exact ⟨_, rfl⟩
  | awaitKey x =>
      simp only [perform]
      split
      · exact ⟨_, rfl⟩
      · exact ⟨_, rfl⟩
  | _ => exact absurd asks id

theorem combine_under {operator : Operator} {x y : Register}
    (unasked : ¬(combine operator x y).Asks machine) :
    (machine.under inputs).combine operator x y =
      (machine.combine operator x y).under inputs := by
  cases operator with
  | shiftRight | shiftLeft =>
      have same : machine.register x = machine.register y := Decidable.not_not.mp unasked
      have sameUnder : (machine.under inputs).register x = (machine.under inputs).register y :=
        same
      simp only [Machine.combine, same, sameUnder, ite_self]
      rfl
  | _ => rfl

variable {supply : RandomSource}

theorem accessed_under {Value : Type} {update updateUnder : Value → Machine}
    (commutes : ∀ value, updateUnder value = (update value).under inputs)
    (result : Except AccessFault Value) :
    accessed supply (result.map updateUnder) =
      (accessed random (result.map update)).map (·.under inputs supply) := by
  cases result with
  | error fault => rfl
  | ok value => exact congrArg (changed supply) (commutes value)

theorem painted_under (call : ScreenCall) :
    painted Blitter.xor (machine.under inputs) supply call =
      (painted Blitter.xor machine random call).map (·.under inputs supply) := by
  unfold painted
  rw [Blitter.xor_under]
  cases Blitter.xor call machine with
  | error fault => rfl
  | ok drawn => rfl

theorem perform_under (unasked : ¬instruction.Asks machine) :
    instruction.perform Blitter.xor (machine.under inputs) supply =
      (instruction.perform Blitter.xor machine random).map (·.under inputs supply) := by
  cases instruction with
  | clearScreen => exact painted_under .clear
  | draw x y height => exact painted_under (machine.drawCall x y height)
  | leave =>
      simp only [perform, Machine.under]
      cases machine.stack.pop with
      | error cause => rfl
      | ok popped => rfl
  | call target =>
      simp only [perform, Machine.under]
      cases machine.stack.push machine.counter with
      | error cause => rfl
      | ok stack => rfl
  | combine operator x y => exact congrArg (changed supply) (combine_under unasked)
  | skipIfPressed | skipUnlessPressed | awaitKey | randomize => exact absurd trivial unasked
  | storeDecimal | storeRegisters | loadRegisters =>
      simp only [perform]
      refine accessed_under (fun _ => ?_) _
      rfl
  | jump | jumpOffset | skipIfEqual | skipUnlessEqual | skipIfSame | skipUnlessSame => rfl
  | assign | increase | point | readDelay | setDelay | setSound
  | advanceIndex | pointAtGlyph => rfl

end Instruction

namespace Opcode

variable {opcode : Opcode} {machine : Machine} {random supply : RandomSource}
  {inputs : HostInputs}

theorem performed_of_asksHost (asks : machine.AsksHost opcode) :
    ∃ effect, opcode.perform machine random = .ok effect := by
  unfold perform
  cases decoded : Instruction.decode? opcode with
  | none => exact ⟨_, rfl⟩
  | some instruction =>
      obtain rfl := Instruction.encode_of_decode? decoded
      exact Instruction.performed_of_asks ((Instruction.asksHost_encode_iff _ _).mp asks)

theorem perform_under (unasked : ¬machine.AsksHost opcode) :
    opcode.perform (machine.under inputs) supply =
      (opcode.perform machine random).map (·.under inputs supply) := by
  unfold perform
  cases decoded : Instruction.decode? opcode with
  | none => rfl
  | some instruction =>
      obtain rfl := Instruction.encode_of_decode? decoded
      exact Instruction.perform_under (mt (Instruction.asksHost_encode_iff _ _).mpr unasked)

theorem random_of_perform {effect : Effect}
    (performed : opcode.perform machine random = .ok effect) :
    effect.random = if opcode.group.val = 0xC then random.next.2 else random := by
  rcases perform_eq_ok performed with ⟨decoded, rfl⟩ | ⟨instruction, decoded, effected⟩
  · refine (if_neg fun group => ?_).symm
    have draws : opcode.group = 0xC := Fin.ext group
    simp [Instruction.decode?, draws] at decoded
  · obtain rfl := Instruction.encode_of_decode? decoded
    rw [Instruction.random_of_perform effected]
    cases instruction with
    | clearScreen | leave => rfl
    | _ => simp [Instruction.spend, Instruction.encode]

end Opcode

namespace Processor

variable {processor first second start : Processor} {keypads otherKeypads : Nat → Keypad}
  {inputs : HostInputs} {supply : RandomSource}

def under (processor : Processor) (inputs : HostInputs) (random : RandomSource) :
    Processor :=
  { processor with machine := processor.machine.under inputs, random }

/-- The tick succeeds at an instruction that asks its host for something. -/
def AsksHost (processor : Processor) : Prop :=
  processor.Performs processor.machine.AsksHost

instance (processor : Processor) : Decidable processor.AsksHost :=
  inferInstanceAs (Decidable (processor.Performs _))

theorem not_asksHost_of_fetch {opcode : Opcode} (unasked : ¬processor.AsksHost)
    (fetched : processor.machine.fetch = .ok opcode) : ¬processor.machine.AsksHost opcode := by
  intro asks
  obtain ⟨effect, performed⟩ := Opcode.performed_of_asksHost asks
  exact unasked ⟨opcode, effect.operation, fetched, asks,
    (tick_performed fetched performed).outcome_eq⟩

/-- A tick that asks for nothing comes to the same under other inputs. -/
theorem tick_under (inputs : HostInputs) (supply : RandomSource)
    (unasked : ¬processor.AsksHost) :
    ((processor.under inputs supply).tick Blitter.xor).outcome =
        (processor.tick Blitter.xor).outcome ∧
      ((processor.under inputs supply).tick Blitter.xor).processor =
        (processor.tick Blitter.xor).processor.under inputs supply := by
  -- What is fetched lies in memory, so that both ticks have the same opcode before them.
  have sameFetch : (processor.under inputs supply).machine.fetch = processor.machine.fetch := rfl
  cases fetched : processor.machine.fetch with
  | error cause =>
      have shows := tick_unfetched Blitter.xor fetched
      have alike := tick_unfetched Blitter.xor (sameFetch.trans fetched)
      rw [shows.outcome_eq, alike.outcome_eq, shows.processor_eq, alike.processor_eq]
      exact ⟨rfl, rfl⟩
  | ok opcode =>
      have performsUnder :
          opcode.perform (processor.under inputs supply).machine supply =
            (opcode.perform processor.machine processor.random).map (·.under inputs supply) :=
        Opcode.perform_under (not_asksHost_of_fetch unasked fetched)
      cases performed : opcode.perform processor.machine processor.random with
      | error fault =>
          rw [performed] at performsUnder
          have shows := tick_refused fetched performed
          have alike := tick_refused (sameFetch.trans fetched) performsUnder
          rw [shows.outcome_eq, alike.outcome_eq, shows.processor_eq, alike.processor_eq]
          exact ⟨rfl, rfl⟩
      | ok effect =>
          rw [performed] at performsUnder
          have shows := tick_performed fetched performed
          have alike := tick_performed (sameFetch.trans fetched) performsUnder
          rw [shows.outcome_eq, alike.outcome_eq, shows.processor_eq, alike.processor_eq,
            Effect.settled_under]
          exact ⟨rfl, rfl⟩

/-- The two differ at most in the keys that are down, the shift mode and the random
source. -/
structure Matches (first second : Processor) : Prop where
  opcode_eq : first.opcode = second.opcode
  memory_eq : first.machine.memory = second.machine.memory
  registers_eq : first.machine.registers = second.machine.registers
  index_eq : first.machine.index = second.machine.index
  counter_eq : first.machine.counter = second.machine.counter
  stack_eq : first.machine.stack = second.machine.stack
  clock_eq : first.machine.clock = second.machine.clock

theorem matches_iff :
    first.Matches second ↔ second = first.under second.machine.inputs second.random := by
  constructor
  · obtain ⟨opcode, ⟨memory, registers, index, counter, stack, clock, _, _⟩, _⟩ := first
    obtain ⟨_, ⟨_, _, _, _, _, _, _, _⟩, _⟩ := second
    rintro ⟨rfl, rfl, rfl, rfl, rfl, rfl, rfl⟩
    rfl
  · intro same
    rw [same]
    exact ⟨rfl, rfl, rfl, rfl, rfl, rfl, rfl⟩

theorem Matches.press (alike : first.Matches second) (keypad other : Keypad) :
    (first.press keypad).Matches (second.press other) :=
  { alike with }

theorem Matches.tick (alike : first.Matches second) (unasked : ¬first.AsksHost) :
    (second.tick Blitter.xor).outcome = (first.tick Blitter.xor).outcome ∧
      (first.tick Blitter.xor).processor.Matches (second.tick Blitter.xor).processor := by
  rw [matches_iff.mp alike]
  obtain ⟨outcome, done⟩ := tick_under second.machine.inputs second.random unasked
  rw [done]
  exact ⟨outcome, rfl, rfl, rfl, rfl, rfl, rfl, rfl⟩

theorem Matches.history (alike : first.Matches second) (stop : Nat)
    (unasked : ∀ moment < stop, ¬(first.history keypads moment).AsksHost) :
    (first.history keypads stop).Matches (second.history otherKeypads stop) := by
  induction stop with
  | zero => exact alike
  | succ stop ih =>
      have before := ih fun moment early => unasked moment (Nat.lt_succ_of_lt early)
      exact (before.tick (unasked stop (Nat.lt_succ_self stop))).2.press _ _

/-- The tick performs a `CXNN`. -/
def Draws (processor : Processor) : Prop :=
  processor.Performs (·.group.val = 0xC)

instance : DecidablePred Draws := fun processor =>
  inferInstanceAs (Decidable (processor.Performs _))

theorem random_of_tick (processor : Processor) :
    (processor.tick Blitter.xor).processor.random =
      if processor.Draws then processor.random.next.2 else processor.random := by
  rcases processor.tick_cases with
    ⟨fault, failed, _, kept⟩ | ⟨opcode, effect, fetched, performed, succeeded, done⟩
  · have silent : ¬processor.Draws := not_performs_of_failed failed
    rw [kept, if_neg silent]
  · have draws : processor.Draws ↔ opcode.group.val = 0xC := performs_iff fetched succeeded
    rw [done, Opcode.random_of_perform performed]
    exact if_congr draws.symm rfl rfl

theorem outcome_of_draws (draws : processor.Draws) :
    (processor.tick Blitter.xor).outcome = .ok .advanced := by
  obtain ⟨opcode, operation, fetched, group, succeeded⟩ := draws
  have same : opcode.group = 0xC := Fin.ext group
  rw [succeeded, operation_of_tick fetched succeeded]
  simp only [Opcode.operation, Instruction.decode?, same, Instruction.operation]

theorem random_of_ne_advanced (stops : (processor.tick Blitter.xor).outcome ≠ .ok .advanced) :
    (processor.tick Blitter.xor).processor.random = processor.random := by
  rw [random_of_tick, if_neg (mt outcome_of_draws stops)]

theorem random_of_history (start : Processor) (keypads : Nat → Keypad) (stop : Nat) :
    (start.history keypads stop).random =
      { start.random with
        drawn := start.random.drawn +
          Nat.count (fun moment => (start.history keypads moment).Draws) stop } := by
  induction stop with
  | zero => rfl
  | succ stop ih =>
      have ticked := random_of_tick (start.history keypads stop)
      have pressed : (start.history keypads (stop + 1)).random =
        ((start.history keypads stop).tick Blitter.xor).processor.random := rfl
      rw [pressed, ticked, Nat.count_succ, ih]
      split
      next draws => rfl
      next silent => rfl

/-- Keys, shift mode and random bytes make no difference to a run that does not ask for
them. What is drawn from the random source is one byte for each `CXNN`, and a tick that
fails or waits draws nothing. -/
theorem inputs_act_when_asked :
    (∀ (first second : Processor) (keypads otherKeypads : Nat → Keypad) (stop : Nat),
      first.Matches second →
      (∀ moment < stop, ¬(first.history keypads moment).AsksHost) →
        (∀ moment < stop,
          ((second.history otherKeypads moment).tick Blitter.xor).outcome =
            ((first.history keypads moment).tick Blitter.xor).outcome) ∧
        (first.history keypads stop).Matches (second.history otherKeypads stop)) ∧
    ∀ (start : Processor) (keypads : Nat → Keypad) (stop : Nat),
      (start.history keypads stop).random =
        { start.random with
          drawn := start.random.drawn +
            Nat.count (fun moment => (start.history keypads moment).Draws) stop } ∧
      (((start.history keypads stop).tick Blitter.xor).outcome ≠ .ok .advanced →
        ((start.history keypads stop).tick Blitter.xor).processor.random =
          (start.history keypads stop).random) := by
  constructor
  · intro first second keypads otherKeypads stop alike unasked
    refine ⟨fun moment early => ?_, alike.history stop unasked⟩
    have before :
        (first.history keypads moment).Matches (second.history otherKeypads moment) :=
      alike.history moment fun earlier before => unasked earlier (Nat.lt_trans before early)
    exact (before.tick (unasked moment early)).1
  · exact fun start keypads stop =>
      ⟨random_of_history start keypads stop, random_of_ne_advanced⟩

/-- Shifts a register that equals the one beside it, draws a byte and waits for a key. -/
def shifting : Processor :=
  let memory := Machine.initial.memory.storeAll Layout.programStart
    [0x61, 0x05, 0x62, 0x05, 0x81, 0x26, 0xC1, 0xFF, 0xF3, 0x0A]
  ofMachine { Machine.initial with memory } ⟨fun _ => 0, 0⟩

def shiftingInPlace : Processor :=
  shifting.under ⟨⟨Vector.replicate 16 true⟩, true⟩ ⟨fun _ => 9, 4⟩

set_option maxRecDepth 100000 in
theorem shifting_matches :
    (shifting.history unpressed 3).Matches (shiftingInPlace.history unpressed 3) ∧
    (shiftingInPlace.history unpressed 3).machine.register 1 = 2 ∧
    (shifting.history unpressed 3).random.drawn = 0 ∧
    (shifting.history unpressed 4).random.drawn = 1 ∧
    ((shifting.history unpressed 4).tick Blitter.xor).outcome = .ok .waiting ∧
    ((shifting.history unpressed 4).tick Blitter.xor).processor.random =
      (shifting.history unpressed 4).random := by
  have unasked : ∀ moment < 3, ¬(shifting.history unpressed moment).AsksHost := by
    decide +kernel
  have none : Nat.count (fun moment => (shifting.history unpressed moment).Draws) 3 = 0 := by
    decide +kernel
  have one : Nat.count (fun moment => (shifting.history unpressed moment).Draws) 4 = 1 := by
    decide +kernel
  obtain ⟨runs, draws⟩ := inputs_act_when_asked
  have alike : shifting.Matches shiftingInPlace := ⟨rfl, rfl, rfl, rfl, rfl, rfl, rfl⟩
  have alikeThen := (runs shifting shiftingInPlace unpressed unpressed 3 alike unasked).2
  have shifted : (shifting.history unpressed 3).machine.register 1 = 2 := by
    decide +kernel
  have waits : ((shifting.history unpressed 4).tick Blitter.xor).outcome = .ok .waiting := rfl
  have kept := (draws shifting unpressed 4).2 (by rw [waits]; simp)
  refine ⟨alikeThen, ?_, ?_, ?_, waits, kept⟩
  · exact (congrArg (·.get 1) alikeThen.registers_eq).symm.trans shifted
  · rw [(draws shifting unpressed 3).1, none]
    rfl
  · rw [(draws shifting unpressed 4).1, one]
    rfl

end Processor

end ChipEight
