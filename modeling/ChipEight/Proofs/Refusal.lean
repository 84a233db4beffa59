import ChipEight.Proofs.Tick

namespace ChipEight

/-! Which ticks fail, and with what. Six instructions can be refused, each for a single
reason, and `Instruction.refusal?` names it; all others always take effect. -/

theorem Memory.rangeEnd_eq_error_iff {memory : Memory} {start length : Nat}
    {fault : AccessFault} :
    memory.rangeEnd start length = .error fault ↔
      memory.size < start + length ∧ fault = ⟨start + length - 1, memory.size⟩ := by
  unfold rangeEnd
  split
  · rename_i inside
    simp [Nat.not_lt_of_le inside]
  · rename_i beyond
    simp [Nat.lt_of_not_le beyond, eq_comm]

theorem Blitter.xor_draw_eq_error_iff {machine : Machine} {address : UInt16}
    {x y height : UInt8} {fault : AccessFault} :
    Blitter.xor (.draw address x y height) machine = .error fault ↔
      machine.memory.rangeEnd address.toNat (Stamp.visibleRows y height) = .error fault := by
  cases inside : machine.memory.rangeEnd address.toNat (Stamp.visibleRows y height) with
  | error cause =>
      have read : machine.memory.read address.toNat (Stamp.visibleRows y height) =
          .error cause := by
        rw [Memory.read, inside]
        rfl
      simp only [attempt, xor, run_draw_refused x { machine } read, Except.error.injEq]
  | ok stop =>
      have read : machine.memory.read address.toNat (Stamp.visibleRows y height) =
          .ok (machine.memory.slice address.toNat (Stamp.visibleRows y height)) := by
        rw [Memory.read, inside]
        rfl
      obtain ⟨_, _, _, run, _⟩ := run_draw x { machine } read
      simp only [attempt, xor, run, reduceCtorEq]

namespace Machine

/-- A range of bytes behind the index register that is not all in memory. -/
def overrun? (machine : Machine) (length : Nat) : Option Fault :=
  if machine.memory.size < machine.index.toNat + length then
    some (.access ⟨machine.index.toNat + length - 1, machine.memory.size⟩)
  else
    none

theorem overrun?_eq_some_iff {machine : Machine} {length : Nat} {fault : Fault} :
    machine.overrun? length = some fault ↔
      ∃ cause, machine.memory.rangeEnd machine.index.toNat length = .error cause ∧
        fault = .access cause := by
  simp only [overrun?, Memory.rangeEnd_eq_error_iff]
  split
  · rename_i beyond
    simp [beyond, eq_comm]
  · rename_i inside
    simp [inside]

/-- The rows of a sprite that lie above the bottom edge. -/
def drawnRows (machine : Machine) (y : Register) (height : Fin 16) : Nat :=
  min height.val (32 - (machine.register y).toNat % 32)

theorem visibleRows_eq_drawnRows (machine : Machine) (y : Register) (height : Fin 16) :
    Stamp.visibleRows (machine.register y &&& 0x1F) (UInt8.ofNat height) =
      machine.drawnRows y height := by
  have masked : (machine.register y &&& 0x1F).toNat = (machine.register y).toNat % 32 := by
    rw [UInt8.toNat_and]
    exact Nat.and_two_pow_sub_one_eq_mod _ 5
  simp only [drawnRows, Stamp.visibleRows, Stamp.wrapY, masked, UInt8.toNat_ofNat',
    Layout.screenHeight]
  omega

end Machine

namespace Instruction

variable {machine : Machine} {random : RandomSource} {instruction : Instruction}
  {fault : Fault}

def refusal? (machine : Machine) : Instruction → Option Fault
  | .leave => if machine.stack.depth = 0 then some (.stack .empty) else none
  | .call _ =>
      if machine.stack.depth = Layout.stackCapacity then some (.stack .full) else none
  | .draw _ y height => machine.overrun? (machine.drawnRows y height)
  | .storeDecimal _ => machine.overrun? 3
  | .storeRegisters x | .loadRegisters x => machine.overrun? (x + 1)
  | _ => none

theorem accessed_range_eq_error_iff {Result : Type} {length : Nat} {access : Nat → Result}
    {update : Result → Machine} :
    accessed random
        (((machine.memory.rangeEnd machine.index.toNat length).map access).map update) =
        .error fault ↔
      machine.overrun? length = some fault := by
  rw [Machine.overrun?_eq_some_iff]
  cases machine.memory.rangeEnd machine.index.toNat length with
  | error cause => simp [accessed, Except.map, Except.mapError, eq_comm]
  | ok stop => simp [accessed, Except.map, Except.mapError]

theorem painted_eq_error_iff {blitter : Blitter} {call : ScreenCall} :
    painted blitter machine random call = .error fault ↔
      ∃ cause, blitter call machine = .error cause ∧ fault = .access cause := by
  unfold painted
  cases blitter call machine with
  | error cause => simp [Except.map, Except.mapError, eq_comm]
  | ok drawn => simp [Except.map, Except.mapError]

theorem perform_eq_error_iff :
    instruction.perform Blitter.xor machine random = .error fault ↔
      instruction.refusal? machine = some fault := by
  cases instruction with
  | leave =>
      unfold perform refusal? CallStack.depth
      cases machine.stack with
      | mk entries bounded =>
          cases entries with
          | nil => simp [CallStack.pop, Except.map, Except.mapError]
          | cons origin rest => simp [CallStack.pop, Except.map, Except.mapError]
  | call target =>
      have bounded := machine.stack.bounded
      simp only [perform, refusal?, CallStack.push, CallStack.depth]
      split
      · rename_i room
        simp [Nat.ne_of_lt room, Except.map, Except.mapError]
      · rename_i full
        simp [Nat.le_antisymm bounded (Nat.le_of_not_lt full), Except.map, Except.mapError]
  | draw x y height =>
      rw [perform, painted_eq_error_iff, refusal?, Machine.overrun?_eq_some_iff]
      simp only [Machine.drawCall, Blitter.xor_draw_eq_error_iff,
        Machine.visibleRows_eq_drawnRows]
  | clearScreen =>
      rw [perform, painted_eq_error_iff, Blitter.attempt_clear]
      simp [refusal?]
  | storeDecimal x => exact accessed_range_eq_error_iff
  | storeRegisters x =>
      have length := Registers.length_take machine.registers x
      rw [perform, Memory.write, length]
      exact accessed_range_eq_error_iff
  | loadRegisters x => exact accessed_range_eq_error_iff
  | awaitKey x =>
      unfold perform
      cases machine.keypad.lowestDown? with
      | none => simp [refusal?]
      | some key => simp [changed, refusal?]
  | jump | jumpOffset | skipIfEqual | skipUnlessEqual | skipIfSame | skipUnlessSame
  | skipIfPressed | skipUnlessPressed => simp [perform, branched, refusal?]
  | assign | increase | combine | point | randomize | readDelay | setDelay | setSound
  | advanceIndex | pointAtGlyph => simp [perform, changed, refusal?]

end Instruction

/-- Why a tick of a machine with 4096 bytes of memory fails. An access is refused for the
last byte it needs, and a fetch for the first that is missing. -/
inductive Machine.Refuses (machine : Machine) : Fault → Prop
  | fetch (beyond : 0xFFF ≤ machine.counter.toNat) :
      Refuses machine (.access ⟨max machine.counter.toNat 0x1000, 0x1000⟩)
  | call {opcode : Opcode} (fetched : machine.fetch = .ok opcode)
      (first : opcode.toNat / 0x1000 = 0x2) (full : machine.stack.depth = 20) :
      Refuses machine (.stack .full)
  | leave (fetched : machine.fetch = .ok 0x00EE) (empty : machine.stack.depth = 0) :
      Refuses machine (.stack .empty)
  | storeDecimal {opcode : Opcode} (fetched : machine.fetch = .ok opcode)
      (first : opcode.toNat / 0x1000 = 0xF) (last : opcode.toNat % 0x100 = 0x33)
      (beyond : 0xFFF < machine.index.toNat + 2) :
      Refuses machine (.access ⟨machine.index.toNat + 2, 0x1000⟩)
  | copyRegisters {opcode : Opcode} (x : Nat) (fetched : machine.fetch = .ok opcode)
      (first : opcode.toNat / 0x1000 = 0xF) (second : x = opcode.toNat / 0x100 % 0x10)
      (last : opcode.toNat % 0x100 = 0x55 ∨ opcode.toNat % 0x100 = 0x65)
      (beyond : 0xFFF < machine.index.toNat + x) :
      Refuses machine (.access ⟨machine.index.toNat + x, 0x1000⟩)
  | draw {opcode : Opcode} (y : Register) (rows : Nat) (fetched : machine.fetch = .ok opcode)
      (first : opcode.toNat / 0x1000 = 0xD) (third : y.val = opcode.toNat / 0x10 % 0x10)
      (drawn : 1 ≤ opcode.toNat % 0x10)
      (clipped : rows = min (opcode.toNat % 0x10) (32 - (machine.registers.get y).toNat % 32))
      (beyond : 0xFFF < machine.index.toNat + rows - 1) :
      Refuses machine (.access ⟨machine.index.toNat + rows - 1, 0x1000⟩)

namespace Machine

variable {machine : Machine} {opcode : Opcode} {fault : Fault}

theorem fetch_eq_error_iff (size : machine.memory.size = Layout.memorySize)
    {cause : AccessFault} :
    machine.fetch = .error cause ↔
      0xFFF ≤ machine.counter.toNat ∧ cause = ⟨max machine.counter.toNat 0x1000, 0x1000⟩ := by
  have last : 0x1000 ≤ machine.counter.toNat + 1 ↔ 0xFFF ≤ machine.counter.toNat :=
    Nat.succ_le_succ_iff
  rw [fetch, Memory.wordAt_eq_error_iff, size, Layout.memorySize, last]

theorem overrun?_succ_eq_some_iff (size : machine.memory.size = Layout.memorySize)
    {length : Nat} :
    machine.overrun? (length + 1) = some fault ↔
      0xFFF < machine.index.toNat + length ∧
        fault = .access ⟨machine.index.toNat + length, 0x1000⟩ := by
  rw [overrun?, size, Layout.memorySize]
  split
  · rename_i beyond
    simp [show 0xFFF < machine.index.toNat + length by omega, ← Nat.add_assoc, eq_comm]
  · rename_i inside
    simp [show ¬0xFFF < machine.index.toNat + length by omega]

theorem drawnRows_pos (machine : Machine) (y : Register) {height : Fin 16}
    (drawn : 1 ≤ height.val) : 1 ≤ machine.drawnRows y height := by
  unfold drawnRows
  omega

namespace Refuses

theorem of_overrun? (size : machine.memory.size = Layout.memorySize)
    (fetched : machine.fetch = .ok opcode) (group : opcode.group = 0xF)
    (selector : opcode.nn = 0x55 ∨ opcode.nn = 0x65)
    (overrun : machine.overrun? (opcode.x + 1) = some fault) : machine.Refuses fault := by
  obtain ⟨beyond, rfl⟩ := (overrun?_succ_eq_some_iff size).mp overrun
  exact .copyRegisters _ fetched (Opcode.group_eq_iff.mp group) rfl
    (selector.imp Opcode.nn_eq_iff.mp Opcode.nn_eq_iff.mp) beyond

theorem of_drawnRows (fetched : machine.fetch = .ok opcode) (group : opcode.group = 0xD)
    (drawn : 1 ≤ opcode.n.val)
    (beyond : 0xFFF < machine.index.toNat + machine.drawnRows opcode.y opcode.n - 1) :
    machine.Refuses
      (.access ⟨machine.index.toNat + machine.drawnRows opcode.y opcode.n - 1, 0x1000⟩) :=
  .draw opcode.y _ fetched (Opcode.group_eq_iff.mp group) rfl drawn rfl beyond

theorem of_refusal? (size : machine.memory.size = Layout.memorySize)
    (fetched : machine.fetch = .ok opcode)
    (drawsRows : opcode.group = 0xD → opcode.n ≠ 0) {instruction : Instruction}
    (decoded : Instruction.decode? opcode = some instruction)
    (refused : instruction.refusal? machine = some fault) : machine.Refuses fault := by
  obtain rfl := Instruction.encode_of_decode? decoded
  cases instruction with
  | call target =>
      simp only [Instruction.refusal?] at refused
      split at refused
      · rename_i full
        cases refused
        exact .call fetched (Opcode.group_eq_iff.mp (Opcode.group_ofAddress _ _)) full
      · contradiction
  | leave =>
      simp only [Instruction.refusal?] at refused
      split at refused
      · rename_i empty
        cases refused
        exact .leave fetched empty
      · contradiction
  | storeDecimal x =>
      obtain ⟨beyond, rfl⟩ := (overrun?_succ_eq_some_iff size).mp refused
      exact .storeDecimal fetched (Opcode.group_eq_iff.mp (Opcode.group_ofByte _ _ _))
        (Opcode.nn_eq_iff.mp (Opcode.nn_ofByte _ _ _)) beyond
  | storeRegisters x =>
      refine of_overrun? size fetched (Opcode.group_ofByte _ _ _)
        (.inl (Opcode.nn_ofByte _ _ _)) ?_
      rw [Instruction.encode, Opcode.x_ofByte]
      exact refused
  | loadRegisters x =>
      refine of_overrun? size fetched (Opcode.group_ofByte _ _ _)
        (.inr (Opcode.nn_ofByte _ _ _)) ?_
      rw [Instruction.encode, Opcode.x_ofByte]
      exact refused
  | draw x y height =>
      simp only [Instruction.encode, Opcode.group_ofNibbles, Opcode.n_ofNibbles,
        forall_const] at drawsRows
      have drawn : 1 ≤ height.val := Nat.one_le_iff_ne_zero.mpr (Fin.val_ne_of_ne drawsRows)
      obtain ⟨rows, rows_eq⟩ := Nat.exists_eq_add_of_le' (machine.drawnRows_pos y drawn)
      rw [Instruction.refusal?, rows_eq] at refused
      obtain ⟨beyond, rfl⟩ := (overrun?_succ_eq_some_iff size).mp refused
      have refuses := of_drawnRows fetched (Opcode.group_ofNibbles _ _ _ _)
      simp only [Instruction.encode, Opcode.y_ofNibbles, Opcode.n_ofNibbles, rows_eq]
        at refuses
      exact refuses drawn beyond
  | _ => contradiction

theorem exists_refusal? (size : machine.memory.size = Layout.memorySize)
    (refuses : machine.Refuses fault) :
    (∃ cause, machine.fetch = .error cause ∧ fault = .access cause) ∨
      ∃ opcode instruction, machine.fetch = .ok opcode ∧
        Instruction.decode? opcode = some instruction ∧
        instruction.refusal? machine = some fault := by
  cases refuses with
  | fetch beyond => exact .inl ⟨_, (fetch_eq_error_iff size).mpr ⟨beyond, rfl⟩, rfl⟩
  | @call opcode fetched first full =>
      have group : opcode.group = 0x2 := Opcode.group_eq_iff.mpr first
      refine .inr ⟨opcode, .call opcode.nnn, fetched, ?_, if_pos full⟩
      simp only [Instruction.decode?, group]
  | leave fetched empty => exact .inr ⟨_, .leave, fetched, rfl, if_pos empty⟩
  | @storeDecimal opcode fetched first last beyond =>
      have group : opcode.group = 0xF := Opcode.group_eq_iff.mpr first
      have selector : opcode.nn = 0x33 := Opcode.nn_eq_iff.mpr last
      refine .inr ⟨opcode, .storeDecimal opcode.x, fetched, ?_,
        (overrun?_succ_eq_some_iff size).mpr ⟨beyond, rfl⟩⟩
      simp only [Instruction.decode?, group, selector, Instruction.ofDeviceSelector?]
  | @copyRegisters opcode x fetched first second last beyond =>
      subst second
      have group : opcode.group = 0xF := Opcode.group_eq_iff.mpr first
      have overrun := (overrun?_succ_eq_some_iff size).mpr ⟨beyond, rfl⟩
      rcases last with last | last
      · have selector : opcode.nn = 0x55 := Opcode.nn_eq_iff.mpr last
        refine .inr ⟨opcode, .storeRegisters opcode.x, fetched, ?_, overrun⟩
        simp only [Instruction.decode?, group, selector, Instruction.ofDeviceSelector?]
      · have selector : opcode.nn = 0x65 := Opcode.nn_eq_iff.mpr last
        refine .inr ⟨opcode, .loadRegisters opcode.x, fetched, ?_, overrun⟩
        simp only [Instruction.decode?, group, selector, Instruction.ofDeviceSelector?]
  | @draw opcode y rows fetched first third drawn clipped beyond =>
      obtain rfl : y = opcode.y := Fin.ext third
      have group : opcode.group = 0xD := Opcode.group_eq_iff.mpr first
      have height : 1 ≤ opcode.n.val := drawn
      obtain rfl : rows = machine.drawnRows opcode.y opcode.n := clipped
      obtain ⟨rows, rows_eq⟩ :=
        Nat.exists_eq_add_of_le' (machine.drawnRows_pos opcode.y height)
      refine .inr ⟨opcode, .draw opcode.x opcode.y opcode.n, fetched, ?_, ?_⟩
      · simp only [Instruction.decode?, group]
      · rw [rows_eq] at beyond ⊢
        rw [Instruction.refusal?, rows_eq]
        exact (overrun?_succ_eq_some_iff size).mpr ⟨beyond, rfl⟩

end Refuses

end Machine

namespace Processor

variable {processor : Processor} {fault : Fault}

theorem tick_eq_error_iff :
    (processor.tick Blitter.xor).outcome = .error fault ↔
      (∃ cause, processor.machine.fetch = .error cause ∧ fault = .access cause) ∨
      ∃ opcode instruction, processor.machine.fetch = .ok opcode ∧
        Instruction.decode? opcode = some instruction ∧
        instruction.refusal? processor.machine = some fault := by
  cases fetched : processor.machine.fetch with
  | error cause =>
      rw [(tick_unfetched Blitter.xor fetched).outcome_eq]
      simp [eq_comm]
  | ok opcode =>
      have refused_iff : (processor.tick Blitter.xor).outcome = .error fault ↔
          opcode.perform processor.machine processor.random = .error fault := by
        rw [outcome_of_fetch fetched]
        cases opcode.perform processor.machine processor.random with
        | error cause => simp [Except.map]
        | ok effect => simp [Except.map]
      rw [refused_iff, Opcode.perform]
      cases decoded : Instruction.decode? opcode with
      | none => simp [decoded]
      | some instruction => simp [decoded, Instruction.perform_eq_error_iff]

/-- A tick fails exactly for the causes listed, each with its own report; in every other
case, opcodes outside the instruction set included, it succeeds. -/
theorem tick_fails_iff (processor : Processor)
    (size : processor.machine.memory.size = Layout.memorySize)
    (drawsRows : ∀ opcode : Opcode, processor.machine.fetch = .ok opcode →
      opcode.toNat / 0x1000 = 0xD → opcode.toNat % 0x10 ≠ 0) :
    (∀ fault, (processor.tick Blitter.xor).outcome = .error fault ↔
      processor.machine.Refuses fault) ∧
    ((∃ operation, (processor.tick Blitter.xor).outcome = .ok operation) ↔
      ∀ fault, ¬processor.machine.Refuses fault) := by
  have fails : ∀ fault, (processor.tick Blitter.xor).outcome = .error fault ↔
      processor.machine.Refuses fault := by
    intro fault
    rw [tick_eq_error_iff]
    constructor
    · rintro (⟨cause, missing, rfl⟩ | ⟨opcode, instruction, fetched, decoded, refused⟩)
      · obtain ⟨beyond, rfl⟩ := (Machine.fetch_eq_error_iff size).mp missing
        exact .fetch beyond
      · have rows : opcode.group = 0xD → opcode.n ≠ 0 := fun group none =>
          drawsRows opcode fetched (Opcode.group_eq_iff.mp group) (Opcode.n_eq_iff.mp none)
        exact .of_refusal? size fetched rows decoded refused
    · exact Machine.Refuses.exists_refusal? size
  refine ⟨fails, ?_⟩
  simp only [← fails]
  cases (processor.tick Blitter.xor).outcome with
  | error fault => simp
  | ok operation => simp

/-- Fifteen rows two rows above the bottom edge, read from the last byte of memory. -/
def clippedDraw : Processor :=
  let memory := Machine.initial.memory.storeAll Layout.programStart [0xD1, 0x0F]
  let machine := { Machine.initial with memory, index := 0xFFF }
  ofMachine (machine.setRegister Registers.first 30) ⟨fun _ => 0, 0⟩

set_option maxRecDepth 100000 in
theorem clippedDraw_fails :
    clippedDraw.machine.memory.size = Layout.memorySize ∧
    clippedDraw.machine.fetch = .ok 0xD10F ∧
    (clippedDraw.tick Blitter.xor).outcome = .error (.access ⟨0x1000, 0x1000⟩) := by
  have size : clippedDraw.machine.memory.size = Layout.memorySize :=
    (Memory.size_storeAll _ _ _).trans Machine.size_initial
  have fetched : clippedDraw.machine.fetch = .ok 0xD10F := rfl
  have drawsRows : ∀ opcode : Opcode, clippedDraw.machine.fetch = .ok opcode →
      opcode.toNat / 0x1000 = 0xD → opcode.toNat % 0x10 ≠ 0 := by
    intro opcode other _
    obtain rfl := Except.ok.inj (fetched.symm.trans other)
    decide
  refine ⟨size, fetched, ((tick_fails_iff clippedDraw size drawsRows).1 _).mpr ?_⟩
  exact .draw Registers.first 2 fetched rfl rfl (by decide) rfl (by decide)

end Processor

end ChipEight
