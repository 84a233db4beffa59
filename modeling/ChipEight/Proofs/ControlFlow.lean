import ChipEight.Proofs.Control

namespace ChipEight

/-! Control as the instruction set is documented: an opcode is dispatched with the
counter still on it, and unless the machine waits the counter then moves on by two.
Where an opcode sets the counter, it sets it two short of its target. -/

/-- The counter and the calls to return from, the newest first. -/
structure Flow where
  counter : UInt16
  stack : List UInt16

namespace Flow

def jump (flow : Flow) (counter : UInt16) : Flow :=
  { flow with counter }

def call (flow : Flow) (counter : UInt16) : Flow :=
  ⟨counter, flow.counter :: flow.stack⟩

def leave (flow : Flow) : Flow :=
  match flow.stack with
  | [] => flow
  | origin :: rest => ⟨origin, rest⟩

def next (flow : Flow) : Flow :=
  flow.jump (flow.counter + 2)

def skipWhen (flow : Flow) (condition : Bool) : Flow :=
  if condition then flow.next else flow

end Flow

namespace Machine

def flow (machine : Machine) : Flow :=
  ⟨machine.counter, machine.stack.entries⟩

/-- A key number above fifteen counts as not pressed. -/
def presses (machine : Machine) (key : UInt8) : Bool :=
  if inside : key.toNat < 16 then machine.keypad.down[key.toNat] else false

theorem lastDigit_lt (number : Nat) : number % 0x10 < 0x10 :=
  Nat.mod_lt number (Nat.succ_pos 15)

/-- The register that the last hexadecimal digit of a number names. -/
def registerAt (machine : Machine) (number : Nat) : UInt8 :=
  machine.registers.get ⟨number % 0x10, lastDigit_lt number⟩

def awaitsKey (machine : Machine) (opcode : Opcode) : Bool :=
  opcode.toNat / 0x1000 = 0xF && opcode.toNat % 0x100 = 0x0A &&
    !machine.keypad.down.contains true

/-- The fields of the opcode are digits of its number, as the documentation has them. -/
def dispatchFlow (machine : Machine) (opcode : Opcode) : Flow :=
  let flow := machine.flow
  let vx := machine.registerAt (opcode.toNat / 0x100)
  let vy := machine.registerAt (opcode.toNat / 0x10)
  let digit := opcode.toNat % 0x10
  let value := UInt8.ofNat (opcode.toNat % 0x100)
  let target := UInt16.ofNat (opcode.toNat % 0x1000)
  match opcode.toNat / 0x1000 with
  | 0x0 => if opcode = 0x00EE then flow.leave else flow
  | 0x1 => flow.jump (target - 2)
  | 0x2 => flow.call (target - 2)
  | 0x3 => flow.skipWhen (vx = value)
  | 0x4 => flow.skipWhen (vx ≠ value)
  | 0x5 => flow.skipWhen (digit = 0 ∧ vx = vy)
  | 0x9 => flow.skipWhen (digit = 0 ∧ vx ≠ vy)
  | 0xB => flow.jump (target + (machine.registerAt 0).toUInt16 - 2)
  | 0xE =>
      flow.skipWhen
        ((value = 0x9E ∧ machine.presses vx) ∨ (value = 0xA1 ∧ ¬machine.presses vx))
  | _ => flow

def tickFlow (machine : Machine) (opcode : Opcode) : Flow :=
  if machine.awaitsKey opcode then
    machine.dispatchFlow opcode
  else
    (machine.dispatchFlow opcode).next

theorem isDown_eq_presses (machine : Machine) (key : UInt8) :
    machine.keypad.isDown key.toNat = machine.presses key := by
  unfold Keypad.isDown presses
  by_cases inside : key.toNat < 16
  · simp [inside]
  · simp [inside]

theorem lowestDown?_eq_none_iff_contains (machine : Machine) :
    machine.keypad.lowestDown? = none ↔ machine.keypad.down.contains true = false := by
  rw [Keypad.lowestDown?_eq_none_iff, ← Bool.not_eq_true, Vector.contains_iff_mem]
  constructor
  · intro released down
    obtain ⟨key, inside, pressed⟩ := Vector.mem_iff_getElem.mp down
    exact absurd pressed (Bool.eq_false_iff.mp (released ⟨key, inside⟩))
  · intro released key
    rw [Bool.eq_false_iff]
    exact fun pressed => released (Vector.mem_iff_getElem.mpr ⟨key, key.isLt, pressed⟩)

variable {machine : Machine} {opcode : Opcode}

theorem tickFlow_eq_next (moves : opcode.group ≠ 0xF ∨ opcode.nn ≠ 0x0A) :
    machine.tickFlow opcode = (machine.dispatchFlow opcode).next := by
  have awaits : machine.awaitsKey opcode = false := by
    rcases moves with group | selector
    · have other : opcode.toNat / 0x1000 ≠ 0xF := fun same => group (Opcode.group_eq_iff.mpr same)
      simp [awaitsKey, other]
    · have other : opcode.toNat % 0x100 ≠ 0x0A :=
        fun same => selector (Opcode.nn_eq_iff.mpr same)
      simp [awaitsKey, other]
  simp only [tickFlow, awaits]
  rfl

end Machine

namespace Flow

variable (flow : Flow)

/-- Two short of a target and then two on is the target. -/
theorem next_jump (target : UInt16) : (flow.jump (target - 2)).next = flow.jump target := by
  simp [jump, next]

theorem next_call (target : UInt16) : (flow.call (target - 2)).next = flow.call target := by
  simp [call, next, jump]

theorem jump_skipWhen {taken condition : Bool} (same : taken = true ↔ condition = true) :
    flow.jump ((Step.skipWhen taken).apply flow.counter) = (flow.skipWhen condition).next := by
  obtain rfl : taken = condition := Bool.eq_iff_iff.mpr same
  cases taken with
  | false => rfl
  | true =>
      simp only [skipWhen, next, jump, Step.skipWhen, Step.apply, if_true]
      rw [UInt16.add_assoc]
      rfl

end Flow

namespace Machine

/-- Where the machine goes on behind an instruction, or an opcode that is none. -/
def flowBehind (machine : Machine) (reading : Option Instruction) : Flow :=
  let control := Instruction.control? machine reading
  ⟨control.1.apply machine.counter, control.2⟩

theorem flow_of_system (machine : Machine) (opcode : Opcode) :
    machine.flowBehind
        (if opcode = 0x00E0 then some .clearScreen
        else if opcode = 0x00EE then some .leave
        else none) =
      (if opcode = 0x00EE then machine.flow.leave else machine.flow).next := by
  by_cases clear : opcode = 0x00E0
  · subst clear
    rfl
  · by_cases leave : opcode = 0x00EE
    · rw [if_neg clear, if_pos leave, if_pos leave]
      unfold flowBehind Flow.leave Instruction.control? Instruction.control flow
      cases machine.stack.entries with
      | nil => rfl
      | cons origin rest => rfl
    · rw [if_neg clear, if_neg leave, if_neg leave]
      rfl

theorem flow_of_zeroDigit (machine : Machine) (digit : Fin 16) {instruction : Instruction}
    {taken : Bool} {condition : Prop} [Decidable condition]
    (skips : instruction.control machine = (.skipWhen taken, machine.stack.entries))
    (same : taken = true ↔ condition) :
    machine.flowBehind (if digit = 0 then some instruction else none) =
      (machine.flow.skipWhen (digit.val = 0 ∧ condition)).next := by
  by_cases zero : digit = 0
  · rw [if_pos zero]
    simp only [flowBehind, Instruction.control?, skips]
    exact machine.flow.jump_skipWhen (by simp [zero, same])
  · have other : digit.val ≠ 0 := fun same => zero (Fin.ext same)
    rw [if_neg zero]
    simp only [other, false_and]
    rfl

theorem flow_of_keySelector (machine : Machine) (x : Register) (selector : UInt8) :
    machine.flowBehind (Instruction.ofKeySelector? x selector) =
      (machine.flow.skipWhen
        ((selector = 0x9E ∧ machine.presses (machine.register x)) ∨
          (selector = 0xA1 ∧ ¬machine.presses (machine.register x)))).next := by
  unfold Instruction.ofKeySelector?
  split
  · exact machine.flow.jump_skipWhen (by simp [isDown_eq_presses])
  · exact machine.flow.jump_skipWhen (by simp [isDown_eq_presses])
  · rename_i pressed unpressed
    have passed : ¬selector = 0x9E ∧ ¬selector = 0xA1 := ⟨pressed, unpressed⟩
    simp only [passed, false_and, or_self]
    rfl

theorem flow_of_deviceSelector (machine : Machine) (x : Register) {selector : UInt8}
    (other : selector ≠ 0x0A) :
    machine.flowBehind (Instruction.ofDeviceSelector? x selector) = machine.flow.next := by
  unfold Instruction.ofDeviceSelector?
  split
  · rfl
  · contradiction
  all_goals rfl

end Machine

namespace Opcode

variable {opcode : Opcode} {machine : Machine}

theorem flow_of_await (group : opcode.group = 0xF) (selector : opcode.nn = 0x0A) :
    machine.flowBehind (Instruction.decode? opcode) = machine.tickFlow opcode := by
  have decoded : Instruction.decode? opcode = some (.awaitKey opcode.x) := by
    simp only [Instruction.decode?, group, selector]
    rfl
  have first := group_eq_iff.mp group
  have last := nn_eq_iff.mp selector
  have dispatched : machine.dispatchFlow opcode = machine.flow := by
    simp only [Machine.dispatchFlow, first]
  simp only [decoded, Machine.flowBehind, Instruction.control?, Instruction.control,
    Machine.tickFlow, Machine.awaitsKey, dispatched, first, last,
    Machine.lowestDown?_eq_none_iff_contains]
  cases machine.keypad.down.contains true with
  | true => rfl
  | false => rfl

theorem flow_of_move (moves : opcode.group ≠ 0xF ∨ opcode.nn ≠ 0x0A) :
    machine.flowBehind (Instruction.decode? opcode) = (machine.dispatchFlow opcode).next := by
  unfold Instruction.decode?
  -- One case for each group, in their order.
  split
  next group =>
    simp only [Machine.dispatchFlow, group_eq_iff.mp group]
    exact machine.flow_of_system opcode
  next group =>
    simp only [Machine.dispatchFlow, group_eq_iff.mp group]
    exact (machine.flow.next_jump _).symm
  next group =>
    simp only [Machine.dispatchFlow, group_eq_iff.mp group]
    exact (machine.flow.next_call _).symm
  next group =>
    simp only [Machine.dispatchFlow, group_eq_iff.mp group]
    exact machine.flow.jump_skipWhen (beq_iff_eq.trans decide_eq_true_iff.symm)
  next group =>
    simp only [Machine.dispatchFlow, group_eq_iff.mp group]
    exact machine.flow.jump_skipWhen (bne_iff_ne.trans decide_eq_true_iff.symm)
  next group =>
    simp only [Machine.dispatchFlow, group_eq_iff.mp group]
    exact machine.flow_of_zeroDigit opcode.n rfl beq_iff_eq
  next group =>
    simp only [Machine.dispatchFlow, group_eq_iff.mp group]
    rfl
  next group =>
    simp only [Machine.dispatchFlow, group_eq_iff.mp group]
    rfl
  next group =>
    simp only [Machine.dispatchFlow, group_eq_iff.mp group]
    cases Operator.ofDigit? opcode.n with
    | none => rfl
    | some operator => rfl
  next group =>
    simp only [Machine.dispatchFlow, group_eq_iff.mp group]
    exact machine.flow_of_zeroDigit opcode.n rfl bne_iff_ne
  next group =>
    simp only [Machine.dispatchFlow, group_eq_iff.mp group]
    rfl
  next group =>
    simp only [Machine.dispatchFlow, group_eq_iff.mp group]
    exact (machine.flow.next_jump _).symm
  next group =>
    simp only [Machine.dispatchFlow, group_eq_iff.mp group]
    rfl
  next group =>
    simp only [Machine.dispatchFlow, group_eq_iff.mp group]
    rfl
  next group =>
    simp only [Machine.dispatchFlow, group_eq_iff.mp group]
    exact machine.flow_of_keySelector opcode.x opcode.nn
  next =>
    have group : opcode.group = 0xF := by
      grind
    have other : opcode.nn ≠ 0x0A := moves.resolve_left fun differ => differ group
    simp only [Machine.dispatchFlow, group_eq_iff.mp group]
    exact machine.flow_of_deviceSelector opcode.x other

theorem flow_eq_tickFlow (opcode : Opcode) (machine : Machine) :
    machine.flowBehind (Instruction.decode? opcode) = machine.tickFlow opcode := by
  by_cases awaits : opcode.group = 0xF ∧ opcode.nn = 0x0A
  · exact flow_of_await awaits.1 awaits.2
  · have moves : opcode.group ≠ 0xF ∨ opcode.nn ≠ 0x0A := Decidable.not_and_iff_or_not.mp awaits
    rw [flow_of_move moves, Machine.tickFlow_eq_next moves]

end Opcode

theorem Effect.flow_settled {effect : Effect} {machine : Machine} {opcode : Opcode}
    (controls : effect.Controls machine (opcode.control machine)) :
    effect.settled.flow = machine.flowBehind (Instruction.decode? opcode) := by
  have control : _ = Instruction.control? machine (Instruction.decode? opcode) :=
    controls.control_eq
  have settled : effect.settled.flow = effect.moved.flow := by
    rw [effect.settled_eq_moved]
    rfl
  rw [settled, Machine.flowBehind, ← control, ← controls.counter_eq]
  rfl

namespace Processor

/-- A tick that succeeds leaves the counter and the calls where the documented dispatch
and the move behind it leave them. -/
theorem tick_flow {processor : Processor} {operation : Operation}
    (succeeded : (processor.tick Blitter.xor).outcome = .ok operation) :
    ∃ opcode, processor.machine.fetch = .ok opcode ∧
      (processor.tick Blitter.xor).processor.machine.flow =
        processor.machine.tickFlow opcode := by
  cases fetched : processor.machine.fetch with
  | error cause =>
      rw [(tick_unfetched Blitter.xor fetched).outcome_eq] at succeeded
      contradiction
  | ok opcode =>
      refine ⟨opcode, rfl, ?_⟩
      cases performed : opcode.perform processor.machine processor.random with
      | error cause =>
          rw [(tick_refused fetched performed).outcome_eq] at succeeded
          contradiction
      | ok effect =>
          rw [(tick_performed fetched performed).processor_eq, ← opcode.flow_eq_tickFlow]
          exact Effect.flow_settled (Opcode.perform_controls performed)

def callingZero : Processor :=
  let memory := Machine.initial.memory.storeAll Layout.programStart [0x20, 0x00]
  ofMachine { Machine.initial with memory } ⟨fun _ => 0, 0⟩

set_option maxRecDepth 100000 in
theorem callingZero_flow :
    (callingZero.tick Blitter.xor).outcome = .ok .advanced ∧
    (callingZero.tick Blitter.xor).processor.machine.flow = ⟨0, [0x200]⟩ := by
  have ticked : (callingZero.tick Blitter.xor).outcome = .ok .advanced := rfl
  obtain ⟨opcode, fetched, flow⟩ := tick_flow ticked
  obtain rfl : opcode = 0x2000 := (Except.ok.inj fetched).symm
  exact ⟨ticked, flow⟩

end Processor

end ChipEight
