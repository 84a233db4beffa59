import ChipEight.Proofs.Control
import ChipEight.Proofs.History
import Mathlib.Data.Nat.Count

namespace ChipEight

/-! The clock over time, in closed form. Only ticks that succeed and do not wait count;
after so many of them the divider and the times it was reloaded are known, and each timer
is what was written to it last, less the reloads since. -/

inductive Timer where
  | delay
  | sound
  deriving DecidableEq, Repr

namespace Timer

def value (clock : Clock) : Timer → UInt8
  | delay => clock.delay
  | sound => clock.sound

/-- The last byte of the opcodes that write a timer. -/
def selector : Timer → UInt8
  | delay => 0x15
  | sound => 0x18

def setter (x : Register) : Timer → Instruction
  | delay => .setDelay x
  | sound => .setSound x

theorem encode_setter (timer : Timer) (x : Register) :
    (timer.setter x).encode = Opcode.ofByte 0xF x timer.selector := by
  cases timer <;> rfl

end Timer

theorem Clock.ext_timers {first second : Clock} (divider : first.divider = second.divider)
    (timers : ∀ timer : Timer, timer.value first = timer.value second) : first = second := by
  cases first
  cases second
  cases divider
  cases timers .delay
  cases timers .sound
  rfl

namespace Clock

/-- The divider a number of steps after it had the value given. -/
def dividerAfter (divider steps : Nat) : Nat :=
  if steps ≤ divider then divider - steps else 9 - (steps - divider - 1) % 10

/-- How many of these steps reload the divider. -/
def reloads (divider steps : Nat) : Nat :=
  if steps ≤ divider then 0 else 1 + (steps - divider - 1) / 10

theorem dividerAfter_succ (divider steps : Nat) :
    dividerAfter divider (steps + 1) =
      if dividerAfter divider steps = 0 then 9 else dividerAfter divider steps - 1 := by
  unfold dividerAfter
  grind

theorem reloads_succ (divider steps : Nat) :
    reloads divider (steps + 1) =
      reloads divider steps + if dividerAfter divider steps = 0 then 1 else 0 := by
  unfold dividerAfter reloads
  grind

private theorem toNat_sub_one {value : UInt8} (nonzero : value ≠ 0) :
    (value - 1).toNat = value.toNat - 1 := by
  have positive : 1 ≤ value := by
    rw [UInt8.le_iff_toNat_le]
    exact Nat.one_le_iff_ne_zero.mpr fun zero => nonzero (UInt8.toNat.inj zero)
  exact UInt8.toNat_sub_of_le _ _ positive

theorem toNat_countDown (value : UInt8) : (countDown value).toNat = value.toNat - 1 := by
  unfold countDown
  split
  · rename_i zero
    rw [zero]
    rfl
  · rename_i nonzero
    exact toNat_sub_one nonzero

theorem toNat_divider_advance (clock : Clock) :
    clock.advance.divider.toNat =
      if clock.divider.toNat = 0 then 9 else clock.divider.toNat - 1 := by
  unfold advance
  by_cases zero : clock.divider = 0
  · simp [zero, Layout.dividerReload]
  · have nonzero : clock.divider.toNat ≠ 0 := fun same => zero (UInt8.toNat.inj same)
    rw [if_neg zero, if_neg nonzero]
    exact toNat_sub_one zero

theorem toNat_value_advance (clock : Clock) (timer : Timer) :
    (timer.value clock.advance).toNat =
      (timer.value clock).toNat - if clock.divider.toNat = 0 then 1 else 0 := by
  unfold advance
  by_cases zero : clock.divider = 0
  · rw [if_pos zero]
    cases timer with
    | delay => simp [Timer.value, toNat_countDown, zero]
    | sound => simp [Timer.value, toNat_countDown, zero]
  · have nonzero : clock.divider.toNat ≠ 0 := fun same => zero (UInt8.toNat.inj same)
    rw [if_neg zero, if_neg nonzero]
    cases timer with
    | delay => rfl
    | sound => rfl

end Clock

namespace Instruction

variable {machine : Machine} {random : RandomSource} {effect : Effect}

/-- The clock an instruction leaves to the tick. -/
def clock (machine : Machine) : Instruction → Clock
  | .setDelay x => { machine.clock with delay := machine.register x }
  | .setSound x => { machine.clock with sound := machine.register x }
  | _ => machine.clock

theorem perform_clock {instruction : Instruction}
    (performed : instruction.perform Blitter.xor machine random = .ok effect) :
    effect.machine.clock = instruction.clock machine := by
  cases instruction with
  | clearScreen =>
      obtain ⟨memory, registers, rfl, _⟩ := painted_eq_ok performed
      rfl
  | draw x y height =>
      obtain ⟨memory, registers, rfl, _⟩ := painted_eq_ok performed
      rfl
  | leave =>
      obtain ⟨⟨origin, stack⟩, _, rfl⟩ := mapped_eq_ok performed
      rfl
  | call target =>
      obtain ⟨stack, _, rfl⟩ := mapped_eq_ok performed
      rfl
  | combine operator x y =>
      obtain ⟨registers, rfl⟩ := combined_eq_ok performed
      rfl
  | awaitKey x =>
      rcases awaited_eq_ok performed with ⟨_, rfl⟩ | ⟨key, _, rfl⟩
      · rfl
      · rfl
  | storeDecimal x =>
      obtain ⟨memory, _, rfl⟩ := stored_eq_ok performed
      rfl
  | storeRegisters x =>
      obtain ⟨memory, _, rfl⟩ := stored_eq_ok performed
      rfl
  | loadRegisters x =>
      obtain ⟨values, _, rfl⟩ := loaded_eq_ok performed
      rfl
  | jump | jumpOffset | skipIfEqual | skipUnlessEqual | skipIfSame | skipUnlessSame
  | skipIfPressed | skipUnlessPressed =>
      cases performed
      rfl
  | assign | increase | point | randomize | readDelay | setDelay | setSound
  | advanceIndex | pointAtGlyph =>
      cases performed
      rfl

end Instruction

namespace Opcode

def clock (opcode : Opcode) (machine : Machine) : Clock :=
  match Instruction.decode? opcode with
  | none => machine.clock
  | some instruction => instruction.clock machine

/-- What an opcode writes to a timer, if it writes to it. -/
def written? (opcode : Opcode) (machine : Machine) (timer : Timer) : Option UInt8 :=
  if opcode.group.val = 0xF ∧ opcode.nn = timer.selector then
    some (machine.register opcode.x)
  else
    none

variable {opcode : Opcode} {machine : Machine} {random : RandomSource} {effect : Effect}

theorem perform_clock (performed : opcode.perform machine random = .ok effect) :
    effect.machine.clock = opcode.clock machine := by
  rcases perform_eq_ok performed with ⟨decoded, rfl⟩ | ⟨instruction, decoded, performed⟩
  · rw [clock, decoded]
  · rw [clock, decoded]
    exact Instruction.perform_clock performed

theorem divider_clock (opcode : Opcode) (machine : Machine) :
    (opcode.clock machine).divider = machine.clock.divider := by
  unfold clock
  cases Instruction.decode? opcode with
  | none => rfl
  | some instruction => cases instruction <;> rfl

theorem decode?_of_writes {timer : Timer}
    (writes : opcode.group.val = 0xF ∧ opcode.nn = timer.selector) :
    Instruction.decode? opcode = some (timer.setter opcode.x) := by
  rw [Instruction.decode?_eq_some_iff, Timer.encode_setter, ← writes.2]
  exact ofByte_of_group (Fin.ext writes.1)

theorem value_clock (opcode : Opcode) (machine : Machine) (timer : Timer) :
    timer.value (opcode.clock machine) =
      (opcode.written? machine timer).getD (timer.value machine.clock) := by
  unfold written?
  split
  · rename_i writes
    rw [clock, decode?_of_writes writes]
    cases timer with
    | delay => rfl
    | sound => rfl
  · rename_i silent
    unfold clock
    cases decoded : Instruction.decode? opcode with
    | none => rfl
    | some instruction =>
        obtain rfl := Instruction.encode_of_decode? decoded
        cases instruction with
        | setDelay x =>
            cases timer with
            | delay => exact absurd ⟨congrArg Fin.val (group_ofByte _ _ _), nn_ofByte _ _ _⟩ silent
            | sound => rfl
        | setSound x =>
            cases timer with
            | delay => rfl
            | sound => exact absurd ⟨congrArg Fin.val (group_ofByte _ _ _), nn_ofByte _ _ _⟩ silent
        | _ => rfl

theorem perform_of_written {timer : Timer} {value : UInt8}
    (written : opcode.written? machine timer = some value) (random : RandomSource) :
    ∃ effect, opcode.perform machine random = .ok effect ∧ effect.operation = .advanced := by
  unfold written? at written
  split at written
  · rename_i writes
    rw [perform, decode?_of_writes writes]
    cases timer with
    | delay => exact ⟨_, rfl, rfl⟩
    | sound => exact ⟨_, rfl, rfl⟩
  · contradiction

end Opcode

namespace Processor

/-- The tick counts for the clock: it succeeds, and not by waiting. -/
def counts (processor : Processor) : Bool :=
  match (processor.tick Blitter.xor).outcome with
  | .ok operation => operation ≠ .waiting
  | .error _ => false

def written? (processor : Processor) (timer : Timer) : Option UInt8 :=
  match processor.machine.fetch with
  | .ok opcode => opcode.written? processor.machine timer
  | .error _ => none

variable {processor : Processor} {timer : Timer}

theorem counts_of_written {value : UInt8} (written : processor.written? timer = some value) :
    processor.counts = true := by
  unfold written? at written
  cases fetched : processor.machine.fetch with
  | error cause =>
      rw [fetched] at written
      contradiction
  | ok opcode =>
      rw [fetched] at written
      obtain ⟨effect, performed, advanced⟩ :=
        Opcode.perform_of_written written processor.random
      simp only [counts, outcome_of_fetch fetched, performed, Except.map, advanced]
      decide

theorem written?_of_uncounted (uncounted : processor.counts = false) (timer : Timer) :
    processor.written? timer = none := by
  cases written : processor.written? timer with
  | none => rfl
  | some value =>
      rw [counts_of_written written] at uncounted
      contradiction

/-- What a tick, with the keys behind it, does to the clock. -/
inductive ClockStep (before after : Processor) : Prop
  | uncounted (uncounted : before.counts = false)
      (kept : after.machine.clock = before.machine.clock)
  | counted (counted : before.counts = true) (written : Clock)
      (divider_eq : written.divider = before.machine.clock.divider)
      (value_eq : ∀ timer : Timer, timer.value written =
        (before.written? timer).getD (timer.value before.machine.clock))
      (advanced : after.machine.clock = written.advance)

theorem tick_clockStep (processor : Processor) (keypad : Keypad) :
    processor.ClockStep ((processor.tick Blitter.xor).processor.press keypad) := by
  rcases processor.tick_cases with
    ⟨fault, failed, machine, _⟩ | ⟨opcode, effect, fetched, performed, succeeded, done⟩
  · refine .uncounted (by simp only [counts, failed]) ?_
    simp only [press, mapMachine, machine]
  · have written : ∀ timer, processor.written? timer =
        opcode.written? processor.machine timer := by
      intro timer
      simp only [written?, fetched]
    have clock := Opcode.perform_clock performed
    have divider := opcode.divider_clock processor.machine
    have values := opcode.value_clock processor.machine
    by_cases waits : effect.operation = .waiting
    · have uncounted : processor.counts = false := by simp [counts, succeeded, waits]
      refine .uncounted uncounted ?_
      have settled : effect.settled.clock = effect.machine.clock := by
        simp only [Effect.settled, waits, if_true, Effect.moved]
      simp only [press, mapMachine, done, settled, clock]
      refine Clock.ext_timers divider fun timer => ?_
      rw [values timer, ← written timer, written?_of_uncounted uncounted]
      rfl
    · have settled : effect.settled.clock = effect.machine.clock.advance := by
        simp only [Effect.settled, waits, if_false]
      refine .counted (by simp [counts, succeeded, waits]) _ divider ?_ ?_
      · intro timer
        rw [values timer, written timer]
      · simp only [press, mapMachine, done, settled, clock]

variable {start : Processor} {keypads : Nat → Keypad}

/-- How many of the ticks before a moment counted. -/
def counted (start : Processor) (keypads : Nat → Keypad) (moment : Nat) : Nat :=
  Nat.count (fun earlier => (start.history keypads earlier).counts = true) moment

theorem counted_succ (start : Processor) (keypads : Nat → Keypad) (moment : Nat) :
    start.counted keypads (moment + 1) =
      start.counted keypads moment +
        if (start.history keypads moment).counts = true then 1 else 0 :=
  Nat.count_succ _ _

theorem counted_succ_of_counts {moment : Nat}
    (counts : (start.history keypads moment).counts = true) :
    start.counted keypads (moment + 1) = start.counted keypads moment + 1 := by
  rw [counted_succ, if_pos counts]

theorem counted_succ_of_uncounted {moment : Nat}
    (uncounted : (start.history keypads moment).counts = false) :
    start.counted keypads (moment + 1) = start.counted keypads moment := by
  rw [counted_succ, uncounted]
  rfl

theorem history_clockStep (start : Processor) (keypads : Nat → Keypad) (moment : Nat) :
    (start.history keypads moment).ClockStep (start.history keypads (moment + 1)) :=
  tick_clockStep _ _

theorem divider_history (start : Processor) (keypads : Nat → Keypad) (moment : Nat) :
    (start.history keypads moment).machine.clock.divider.toNat =
      Clock.dividerAfter start.machine.clock.divider.toNat (start.counted keypads moment) := by
  induction moment with
  | zero => rfl
  | succ moment ih =>
      cases start.history_clockStep keypads moment with
      | uncounted uncounted kept => rw [kept, counted_succ_of_uncounted uncounted, ih]
      | counted counts written divider_eq value_eq advanced =>
          rw [advanced, Clock.toNat_divider_advance, divider_eq, ih,
            counted_succ_of_counts counts, Clock.dividerAfter_succ]

/-- A timer that held a value when the reloads stood at `origin` and was not written since. -/
structure Runs (start : Processor) (keypads : Nat → Keypad) (timer : Timer)
    (value origin moment : Nat) : Prop where
  origin_le :
    origin ≤ Clock.reloads start.machine.clock.divider.toNat (start.counted keypads moment)
  value_eq : (timer.value (start.history keypads moment).machine.clock).toNat =
    value -
      (Clock.reloads start.machine.clock.divider.toNat (start.counted keypads moment) - origin)

theorem Runs.tick {value origin moment : Nat}
    (runs : start.Runs keypads timer value origin moment)
    (silent : (start.history keypads moment).written? timer = none) :
    start.Runs keypads timer value origin (moment + 1) := by
  obtain ⟨origin_le, value_eq⟩ := runs
  cases start.history_clockStep keypads moment with
  | uncounted uncounted kept =>
      have same := counted_succ_of_uncounted uncounted
      exact ⟨same ▸ origin_le, by rw [same, kept]; exact value_eq⟩
  | counted counts written divider_eq written_eq advanced =>
      have value := written_eq timer
      rw [silent, Option.getD_none] at value
      have next := counted_succ_of_counts counts
      refine ⟨?_, ?_⟩
      · rw [next, Clock.reloads_succ]
        omega
      · rw [advanced, Clock.toNat_value_advance, value, value_eq, divider_eq,
          divider_history, next, Clock.reloads_succ]
        omega

theorem Runs.of_written {value : UInt8} {moment : Nat}
    (written : (start.history keypads moment).written? timer = some value) :
    start.Runs keypads timer value.toNat
      (Clock.reloads start.machine.clock.divider.toNat (start.counted keypads moment))
      (moment + 1) := by
  cases start.history_clockStep keypads moment with
  | uncounted uncounted kept =>
      rw [written?_of_uncounted uncounted] at written
      contradiction
  | counted counts clock divider_eq written_eq advanced =>
      have same := written_eq timer
      rw [written, Option.getD_some] at same
      have next := counted_succ_of_counts counts
      refine ⟨?_, ?_⟩
      · rw [next, Clock.reloads_succ]
        omega
      · rw [advanced, Clock.toNat_value_advance, same, divider_eq, divider_history, next,
          Clock.reloads_succ]
        omega

theorem Runs.until {value origin first : Nat}
    (runs : start.Runs keypads timer value origin first) {stop : Nat} (behind : first ≤ stop)
    (silent : ∀ moment, first ≤ moment → moment < stop →
      (start.history keypads moment).written? timer = none) :
    start.Runs keypads timer value origin stop := by
  induction stop with
  | zero => exact Nat.le_zero.mp behind ▸ runs
  | succ stop ih =>
      rcases Nat.lt_or_eq_of_le behind with inside | same
      · have runs := ih (Nat.le_of_lt_succ inside) fun moment after before =>
          silent moment after (Nat.lt_succ_of_lt before)
        exact runs.tick (silent stop (Nat.le_of_lt_succ inside) (Nat.lt_succ_self stop))
      · exact same ▸ runs

theorem clock_of_unwritten {moment : Nat}
    (counted : (start.history keypads moment).counts = true)
    (silent : ∀ timer, (start.history keypads moment).written? timer = none) :
    (start.history keypads (moment + 1)).machine.clock =
      (start.history keypads moment).machine.clock.advance := by
  cases start.history_clockStep keypads moment with
  | uncounted uncounted => exact nomatch uncounted.symm.trans counted
  | counted _ written divider_eq written_eq advanced =>
      rw [advanced]
      refine congrArg Clock.advance (Clock.ext_timers divider_eq fun timer => ?_)
      rw [written_eq timer, silent timer]
      rfl

/-- The clock after any history. A tick that writes a timer counts, as the
`counted (last + 1)`-th, and the timer is lowered from the value it wrote by each reload
since, its own included. Apart from these writes a tick that counts advances the clock by
one, and a tick that fails or waits leaves it alone. -/
theorem history_cadence (start : Processor) (keypads : Nat → Keypad) (stop : Nat) :
    let clock := fun moment => (start.history keypads moment).machine.clock
    let written? := fun moment => (start.history keypads moment).written?
    let counted := start.counted keypads
    let reloads := Clock.reloads (clock 0).divider.toNat
    (clock stop).divider.toNat = Clock.dividerAfter (clock 0).divider.toNat (counted stop) ∧
    (∀ timer : Timer, (∀ moment < stop, written? moment timer = none) →
      (timer.value (clock stop)).toNat =
        (timer.value (clock 0)).toNat - reloads (counted stop)) ∧
    (∀ (timer : Timer) (value : UInt8), ∀ last < stop, written? last timer = some value →
      (∀ moment, last < moment → moment < stop → written? moment timer = none) →
        (start.history keypads last).counts = true ∧
        (timer.value (clock stop)).toNat =
          value.toNat - (reloads (counted stop) - reloads (counted (last + 1) - 1))) ∧
    (∀ moment, (start.history keypads moment).counts = true →
      (∀ timer, written? moment timer = none) → clock (moment + 1) = (clock moment).advance) ∧
    (∀ moment, (start.history keypads moment).counts = false →
      clock (moment + 1) = clock moment) := by
  intro clock written? counted reloads
  refine ⟨divider_history start keypads stop, ?_, ?_, ?_, ?_⟩
  · intro timer silent
    have runs : start.Runs keypads timer (timer.value (clock 0)).toNat 0 0 := ⟨Nat.zero_le _, rfl⟩
    exact (runs.until (Nat.zero_le stop) fun moment _ => silent moment).value_eq
  · intro timer value last inside written silent
    have counts : (start.history keypads last).counts = true := counts_of_written written
    have before : counted (last + 1) - 1 = counted last := by
      simp only [counted, counted_succ_of_counts counts, Nat.add_sub_cancel]
    rw [before]
    exact ⟨counts, ((Runs.of_written written).until inside silent).value_eq⟩
  · exact fun moment => clock_of_unwritten
  · intro moment uncounted
    cases start.history_clockStep keypads moment with
    | uncounted _ kept => exact kept
    | counted counted => exact nomatch uncounted.symm.trans counted

/-- A timer is written in a tick that finds the divider at zero. -/
def writingAtReload : Processor :=
  let memory := Machine.initial.memory.storeAll Layout.programStart [0xF0, 0x15, 0x12, 0x02]
  let machine := { Machine.initial with memory, clock := ⟨200, 3, 0⟩ }
  ofMachine (machine.setRegister Registers.first 5) ⟨fun _ => 0, 0⟩

set_option maxRecDepth 100000 in
theorem writingAtReload_cadence :
    let moments := writingAtReload.history fun _ => Keypad.released
    (moments 0).written? .delay = some 5 ∧ (moments 1).written? .delay = none ∧
    (moments 0).written? .sound = none ∧ (moments 1).written? .sound = none ∧
    writingAtReload.counted (fun _ => Keypad.released) 2 = 2 ∧
    (moments 2).machine.clock.divider.toNat = 8 ∧
    (moments 2).machine.clock.delay.toNat = 4 ∧ (moments 2).machine.clock.sound.toNat = 2 := by
  intro moments
  have written : (moments 0).written? .delay = some 5 := by decide +kernel
  have delaySilent : (moments 1).written? .delay = none := by decide +kernel
  have soundSilent : (moments 0).written? .sound = none ∧ (moments 1).written? .sound = none := by
    decide +kernel
  have counted : writingAtReload.counted (fun _ => Keypad.released) 2 = 2 ∧
      writingAtReload.counted (fun _ => Keypad.released) 1 = 1 := by decide +kernel
  obtain ⟨divider, unwritten, lastWritten, _⟩ :=
    history_cadence writingAtReload (fun _ => Keypad.released) 2
  have sound := unwritten .sound fun
    | 0, _ => soundSilent.1
    | 1, _ => soundSilent.2
  have delay := (lastWritten .delay 5 0 Nat.two_pos written fun
    | 1, _, _ => delaySilent).2
  rw [counted.1] at divider sound delay
  rw [counted.2] at delay
  exact ⟨written, delaySilent, soundSilent.1, soundSilent.2, counted.1, divider, delay, sound⟩

end Processor

end ChipEight
