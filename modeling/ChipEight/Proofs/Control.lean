import ChipEight.Proofs.Tick

namespace ChipEight

/-! What an instruction that is not refused means for control: the step it takes and the
calls that are left to return from. Nothing else about it matters for where the machine
goes on. -/

namespace Instruction

def control (machine : Machine) : Instruction → Step × List UInt16
  | .leave =>
      match machine.stack.entries with
      | [] => (.next, [])
      | origin :: rest => (.jump (origin + 2), rest)
  | .jump target => (.jump (UInt16.ofNat target), machine.stack.entries)
  | .call target =>
      (.jump (UInt16.ofNat target), machine.counter :: machine.stack.entries)
  | .jumpOffset target =>
      (.jump (UInt16.ofNat target + (machine.register Registers.first).toUInt16),
        machine.stack.entries)
  | .skipIfEqual x value =>
      (.skipWhen (machine.register x == value), machine.stack.entries)
  | .skipUnlessEqual x value =>
      (.skipWhen (machine.register x != value), machine.stack.entries)
  | .skipIfSame x y =>
      (.skipWhen (machine.register x == machine.register y), machine.stack.entries)
  | .skipUnlessSame x y =>
      (.skipWhen (machine.register x != machine.register y), machine.stack.entries)
  | .skipIfPressed x =>
      (.skipWhen (machine.keypad.isDown (machine.register x).toNat), machine.stack.entries)
  | .skipUnlessPressed x =>
      (.skipWhen (!machine.keypad.isDown (machine.register x).toNat),
        machine.stack.entries)
  | .awaitKey _ =>
      (if machine.keypad.lowestDown? = none then .stay else .next, machine.stack.entries)
  | _ => (.next, machine.stack.entries)

/-- An opcode outside the instruction set is passed over. -/
def control? (machine : Machine) : Option Instruction → Step × List UInt16
  | none => (.next, machine.stack.entries)
  | some instruction => instruction.control machine

end Instruction

def Opcode.control (opcode : Opcode) (machine : Machine) : Step × List UInt16 :=
  Instruction.control? machine (Instruction.decode? opcode)

structure Effect.Controls (effect : Effect) (machine : Machine)
    (control : Step × List UInt16) : Prop where
  counter_eq : effect.machine.counter = machine.counter
  divider_eq : effect.machine.clock.divider = machine.clock.divider
  size_eq : effect.machine.memory.size = machine.memory.size
  control_eq : (effect.step, effect.machine.stack.entries) = control

theorem Machine.combine_frame (machine : Machine) (operator : Operator) (x y : Register) :
    ∃ registers, machine.combine operator x y = { machine with registers } := by
  cases operator <;> exact ⟨_, rfl⟩

/-- A draw that succeeds flips bits of the screen and sets the flag. -/
theorem Blitter.xor_draw_eq_ok {address : UInt16} {x y height : UInt8}
    {machine drawn : Machine}
    (performed : Blitter.xor (.draw address x y height) machine = .ok drawn) :
    ∃ memory value,
      drawn = { machine with memory }.setRegister Registers.flag value ∧
      memory.size = machine.memory.size ∧
      (machine.memory.HoldsScreen → ∀ position < Layout.screenStart,
        memory.byte position = machine.memory.byte position) := by
  cases read : machine.memory.read address.toNat (Stamp.visibleRows y height) with
  | error fault =>
      have refused := run_draw_refused x { machine } read
      simp only [attempt, xor, refused] at performed
      contradiction
  | ok rows =>
      obtain ⟨memory, erased, _, run, size, flips⟩ := run_draw x { machine } read
      simp only [attempt, xor, run] at performed
      cases performed
      exact ⟨memory, _, rfl, size, fun holds position below =>
        (flips holds).2.byte_eq position (.inl below)⟩

theorem Blitter.xor_frame {call : ScreenCall} {machine drawn : Machine}
    (performed : Blitter.xor call machine = .ok drawn) :
    ∃ memory registers, drawn = { machine with memory, registers } ∧
      memory.size = machine.memory.size := by
  cases call with
  | clear =>
      rw [attempt_clear] at performed
      rw [← Except.ok.inj performed]
      exact ⟨machine.memory.withBitmap Bitmap.blank, machine.registers, rfl,
        machine.memory.size_withBitmap Bitmap.blank⟩
  | draw address x y height =>
      obtain ⟨memory, value, rfl, size, _⟩ := xor_draw_eq_ok performed
      exact ⟨memory, _, rfl, size⟩

namespace Instruction

variable {machine : Machine} {random : RandomSource} {effect : Effect}

theorem mapped_eq_ok {Cause Result : Type} {result : Except Cause Result}
    {fault : Cause → Fault} {update : Result → Effect}
    (performed : (result.mapError fault).map update = .ok effect) :
    ∃ value, result = .ok value ∧ effect = update value := by
  cases result with
  | error cause => cases performed
  | ok value =>
      cases performed
      exact ⟨value, rfl, rfl⟩

theorem accessed_eq_ok {result : Except AccessFault Machine}
    (performed : accessed random result = .ok effect) :
    ∃ after, result = .ok after ∧ effect = { machine := after, random } := by
  cases result with
  | error fault => cases performed
  | ok after =>
      cases performed
      exact ⟨after, rfl, rfl⟩

theorem stored_eq_ok {start : Nat} {values : List UInt8} {index : UInt16}
    (performed : accessed random
        ((machine.memory.write start values).map fun memory =>
          { machine with memory, index }) = .ok effect) :
    ∃ memory, machine.memory.write start values = .ok memory ∧
      effect = { machine := { machine with memory, index }, random } := by
  obtain ⟨after, written, rfl⟩ := accessed_eq_ok performed
  cases stored : machine.memory.write start values with
  | error fault =>
      rw [stored] at written
      cases written
  | ok memory =>
      rw [stored] at written
      cases written
      exact ⟨memory, rfl, rfl⟩

theorem loaded_eq_ok {start length : Nat} {index : UInt16}
    (performed : accessed random
        ((machine.memory.read start length).map fun values =>
          { machine with registers := machine.registers.replaceFirst values, index }) =
        .ok effect) :
    ∃ values, values.length = length ∧
      effect =
        { machine := { machine with registers := machine.registers.replaceFirst values, index }
          random } := by
  obtain ⟨after, loaded, rfl⟩ := accessed_eq_ok performed
  cases read : machine.memory.read start length with
  | error fault =>
      rw [read] at loaded
      cases loaded
  | ok values =>
      rw [read] at loaded
      cases loaded
      exact ⟨values, by rw [(Memory.read_eq_ok read).2, Memory.length_slice], rfl⟩

theorem combined_eq_ok {operator : Operator} {x y : Register}
    (performed : changed random (machine.combine operator x y) = .ok effect) :
    ∃ registers, effect = { machine := { machine with registers }, random } := by
  obtain ⟨registers, combined⟩ := machine.combine_frame operator x y
  rw [combined] at performed
  exact ⟨registers, (Except.ok.inj performed).symm⟩

theorem awaited_eq_ok {blitter : Blitter} {x : Register}
    (performed : (awaitKey x).perform blitter machine random = .ok effect) :
    (machine.keypad.lowestDown? = none ∧
      effect = { machine, random, step := .stay, operation := .waiting }) ∨
    ∃ key, machine.keypad.lowestDown? = some key ∧
      effect = { machine := machine.setRegister x (UInt8.ofNat key), random } := by
  simp only [perform] at performed
  cases down : machine.keypad.lowestDown? with
  | none =>
      rw [down] at performed
      exact .inl ⟨rfl, (Except.ok.inj performed).symm⟩
  | some key =>
      rw [down] at performed
      exact .inr ⟨key, rfl, (Except.ok.inj performed).symm⟩

theorem drawn_of_painted {blitter : Blitter} {call : ScreenCall}
    (performed : painted blitter machine random call = .ok effect) :
    ∃ drawn, blitter call machine = .ok drawn ∧
      effect = { machine := drawn, random, operation := .drew } :=
  mapped_eq_ok performed

theorem painted_eq_ok {call : ScreenCall}
    (performed : painted Blitter.xor machine random call = .ok effect) :
    ∃ memory registers,
      effect =
        { machine := { machine with memory, registers }, random, operation := .drew } ∧
      memory.size = machine.memory.size := by
  obtain ⟨drawn, painted, rfl⟩ := drawn_of_painted performed
  obtain ⟨memory, registers, rfl, size⟩ := Blitter.xor_frame painted
  exact ⟨memory, registers, rfl, size⟩

theorem perform_controls {instruction : Instruction}
    (performed : instruction.perform Blitter.xor machine random = .ok effect) :
    effect.Controls machine (instruction.control machine) := by
  cases instruction with
  | clearScreen =>
      obtain ⟨memory, registers, rfl, size⟩ := painted_eq_ok performed
      exact ⟨rfl, rfl, size, rfl⟩
  | draw x y height =>
      obtain ⟨memory, registers, rfl, size⟩ := painted_eq_ok performed
      exact ⟨rfl, rfl, size, rfl⟩
  | leave =>
      cases popped : machine.stack.pop with
      | error cause =>
          simp only [perform, popped] at performed
          contradiction
      | ok result =>
          obtain ⟨origin, rest⟩ := result
          simp only [perform, popped] at performed
          cases performed
          exact ⟨rfl, rfl, rfl, by simp only [control, CallStack.entries_pop popped]⟩
  | call target =>
      simp only [perform, CallStack.push] at performed
      split at performed
      · cases performed
        exact ⟨rfl, rfl, rfl, rfl⟩
      · cases performed
  | combine operator x y =>
      obtain ⟨registers, rfl⟩ := combined_eq_ok performed
      exact ⟨rfl, rfl, rfl, rfl⟩
  | awaitKey x =>
      rcases awaited_eq_ok performed with ⟨up, rfl⟩ | ⟨key, down, rfl⟩
      · exact ⟨rfl, rfl, rfl, by simp [control, up]⟩
      · exact ⟨rfl, rfl, rfl, by simp [control, down, Machine.setRegister]⟩
  | storeDecimal x =>
      obtain ⟨memory, written, rfl⟩ := stored_eq_ok performed
      exact ⟨rfl, rfl, Memory.size_write written, rfl⟩
  | storeRegisters x =>
      obtain ⟨memory, written, rfl⟩ := stored_eq_ok performed
      exact ⟨rfl, rfl, Memory.size_write written, rfl⟩
  | loadRegisters x =>
      obtain ⟨values, _, rfl⟩ := loaded_eq_ok performed
      exact ⟨rfl, rfl, rfl, rfl⟩
  | jump | jumpOffset | skipIfEqual | skipUnlessEqual | skipIfSame | skipUnlessSame
  | skipIfPressed | skipUnlessPressed =>
      cases performed
      exact ⟨rfl, rfl, rfl, rfl⟩
  | assign | increase | point | randomize | readDelay | setDelay | setSound
  | advanceIndex | pointAtGlyph =>
      cases performed
      exact ⟨rfl, rfl, rfl, rfl⟩

end Instruction

theorem Opcode.perform_controls {opcode : Opcode} {machine : Machine}
    {random : RandomSource} {effect : Effect}
    (performed : opcode.perform machine random = .ok effect) :
    effect.Controls machine (opcode.control machine) := by
  rcases Opcode.perform_eq_ok performed with ⟨decoded, rfl⟩ | ⟨instruction, decoded, performed⟩
  · rw [Opcode.control, decoded]
    exact ⟨rfl, rfl, rfl, rfl⟩
  · rw [Opcode.control, decoded]
    exact Instruction.perform_controls performed

end ChipEight
