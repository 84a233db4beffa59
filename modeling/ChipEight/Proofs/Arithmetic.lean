import ChipEight.Proofs.Control

namespace ChipEight

/-! Register arithmetic in exact numbers. A calculation is carried out over the integers;
the register keeps its remainder by 256, and the flag says what the remainder does not.
Where both go to the same register the flag stays. -/

structure Calculation where
  result : Int
  flag? : Option Nat := none

/-- What `8XYN` calculates from the values of its two registers, by its last digit. The two
shifts have an operand of their own. -/
def Calculation.ofDigit? (a b shifted : Nat) : Nat → Option Calculation
  | 0x0 => some { result := b }
  | 0x1 => some { result := (a ||| b : Nat) }
  | 0x2 => some { result := (a &&& b : Nat) }
  | 0x3 => some { result := (a ^^^ b : Nat) }
  | 0x4 => some { result := a + b, flag? := some (if a + b > 255 then 1 else 0) }
  | 0x5 => some { result := a - b, flag? := some (if a ≥ b then 1 else 0) }
  | 0x6 => some { result := (shifted / 2 : Nat), flag? := some (shifted % 2) }
  | 0x7 => some { result := b - a, flag? := some (if b ≥ a then 1 else 0) }
  | 0xE => some { result := 2 * shifted, flag? := some (shifted / 128) }
  | _ => none

theorem Calculation.exists_operator {a b shifted : Nat} {digit : Fin 16}
    {calculation : Calculation} (defined : ofDigit? a b shifted digit = some calculation) :
    ∃ operator : Operator, operator.digit = digit := by
  unfold ofDigit? at defined
  split at defined
  case h_1 same => exact ⟨.copy, Fin.ext same.symm⟩
  case h_2 same => exact ⟨.or, Fin.ext same.symm⟩
  case h_3 same => exact ⟨.and, Fin.ext same.symm⟩
  case h_4 same => exact ⟨.xor, Fin.ext same.symm⟩
  case h_5 same => exact ⟨.add, Fin.ext same.symm⟩
  case h_6 same => exact ⟨.subtract, Fin.ext same.symm⟩
  case h_7 same => exact ⟨.shiftRight, Fin.ext same.symm⟩
  case h_8 same => exact ⟨.subtractFrom, Fin.ext same.symm⟩
  case h_9 same => exact ⟨.shiftLeft, Fin.ext same.symm⟩
  case h_10 => contradiction

/-- Operators agree with calculations up to the multiples of 256 that a byte cannot hold. -/
theorem Operator.apply_calculates (operator : Operator) (vx vy shifted : UInt8) :
    ∃ calculation : Calculation,
      Calculation.ofDigit? vx.toNat vy.toNat shifted.toNat operator.digit =
        some calculation ∧
      ((operator.apply vx vy shifted).1.toNat : Int) = calculation.result % 256 ∧
      (operator.apply vx vy shifted).2.map UInt8.toNat = calculation.flag? := by
  have vxSmall := vx.toNat_lt
  have vySmall := vy.toNat_lt
  have shiftedSmall := shifted.toNat_lt
  cases operator with
  | copy =>
      refine ⟨_, rfl, ?_, rfl⟩
      simp only [apply]
      omega
  | or =>
      refine ⟨_, rfl, ?_, rfl⟩
      have small := (vx ||| vy).toNat_lt
      simp only [apply, ← UInt8.toNat_or]
      omega
  | and =>
      refine ⟨_, rfl, ?_, rfl⟩
      have small := (vx &&& vy).toNat_lt
      simp only [apply, ← UInt8.toNat_and]
      omega
  | xor =>
      refine ⟨_, rfl, ?_, rfl⟩
      have small := (vx ^^^ vy).toNat_lt
      simp only [apply, ← UInt8.toNat_xor]
      omega
  | add =>
      refine ⟨_, rfl, ?_, ?_⟩
      · simp only [apply, UInt8.toNat_add]
        omega
      · simp only [apply, Option.map_some]
        split
        · rfl
        · rfl
  | subtract =>
      refine ⟨_, rfl, ?_, ?_⟩
      · simp only [apply, UInt8.toNat_sub]
        omega
      · simp only [apply, Option.map_some, UInt8.le_iff_toNat_le, ge_iff_le]
        split
        · rfl
        · rfl
  | shiftRight =>
      refine ⟨_, rfl, ?_, ?_⟩
      · have half : (shifted >>> 1).toNat = shifted.toNat / 2 := UInt8.toNat_shiftRight _ _
        simp only [apply, half]
        omega
      · have lowest : (shifted &&& 1).toNat = shifted.toNat % 2 := by
          rw [UInt8.toNat_and]
          exact Nat.and_one_is_mod _
        simp only [apply, Option.map_some, lowest]
  | subtractFrom =>
      refine ⟨_, rfl, ?_, ?_⟩
      · simp only [apply, UInt8.toNat_sub]
        omega
      · simp only [apply, Option.map_some, UInt8.le_iff_toNat_le, ge_iff_le]
        split
        · rfl
        · rfl
  | shiftLeft =>
      refine ⟨_, rfl, ?_, ?_⟩
      · have double : (shifted <<< 1).toNat = shifted.toNat * 2 % 256 :=
          (UInt8.toNat_shiftLeft shifted 1).trans
            (congrArg (· % 256) (Nat.shiftLeft_eq _ 1))
        simp only [apply, double]
        omega
      · have highest : (shifted >>> 7).toNat = shifted.toNat / 128 :=
          (UInt8.toNat_shiftRight shifted 7).trans (Nat.shiftRight_eq_div_pow _ 7)
        simp only [apply, Option.map_some, highest]

/-- One register holds the remainder of a result, the flag register the flag if there is one,
and all other registers hold what they held. -/
structure Machine.Holds (after before : Machine) (x : Register)
    (calculation : Calculation) : Prop where
  flag_eq : ∀ flag, calculation.flag? = some flag →
    (after.register Registers.flag).toNat = flag
  result_eq : x ≠ Registers.flag ∨ calculation.flag? = none →
    ((after.register x).toNat : Int) = calculation.result % 256
  kept : ∀ other, other ≠ x → other ≠ Registers.flag ∨ calculation.flag? = none →
    after.register other = before.register other

namespace Machine.Holds

variable {machine : Machine} {x : Register} {value flag : UInt8} {calculation : Calculation}

theorem setRegister (result : (value.toNat : Int) = calculation.result % 256)
    (unflagged : calculation.flag? = none) :
    (machine.setRegister x value).Holds machine x calculation where
  flag_eq flag flagged := by
    rw [unflagged] at flagged
    contradiction
  result_eq _ := by rw [register_setRegister, result]
  kept other apart _ := machine.register_setRegister_of_ne value apart

theorem setFlag (result : (value.toNat : Int) = calculation.result % 256)
    (flagged : calculation.flag? = some flag.toNat) :
    ((machine.setRegister x value).setRegister Registers.flag flag).Holds machine x
      calculation where
  flag_eq other otherFlagged := by
    rw [register_setRegister]
    exact Option.some.inj (flagged.symm.trans otherFlagged)
  result_eq apart := by
    have elsewhere := apart.resolve_right (by simp [flagged])
    rw [register_setRegister_of_ne _ _ elsewhere, register_setRegister, result]
  kept other apart unflagged := by
    have elsewhere := unflagged.resolve_right (by simp [flagged])
    rw [register_setRegister_of_ne _ _ elsewhere, register_setRegister_of_ne _ _ apart]

end Machine.Holds

namespace Machine

/-- What a shift takes its bits from. -/
def shifted (machine : Machine) (x y : Register) : UInt8 :=
  if machine.shiftsInPlace then machine.register x else machine.register y

theorem combine_holds (machine : Machine) (operator : Operator) (x y : Register) :
    ∃ calculation : Calculation,
      Calculation.ofDigit? (machine.register x).toNat (machine.register y).toNat
        (machine.shifted x y).toNat operator.digit = some calculation ∧
      (machine.combine operator x y).Holds machine x calculation := by
  obtain ⟨calculation, defined, result, flag⟩ :=
    operator.apply_calculates (machine.register x) (machine.register y) (machine.shifted x y)
  refine ⟨calculation, defined, ?_⟩
  cases operator with
  | copy | or | and | xor => exact .setRegister result flag.symm
  | add | subtract | shiftRight | subtractFrom | shiftLeft =>
      exact .setFlag result flag.symm

end Machine

/-- An instruction has put the outcome of a calculation into a register, and all else about
the processor is as before, save that the counter has moved on. -/
structure Report.Calculates (report : Report Operation) (before : Processor) (x : Register)
    (calculation : Calculation) : Prop where
  outcome_eq : report.outcome = .ok .advanced
  processor_eq : report.processor =
    { before with
      machine := { before.machine with
        registers := report.processor.machine.registers
        counter := before.machine.counter + 2 } }
  holds : report.processor.machine.Holds before.machine x calculation

namespace Processor

theorem execute_changed (blitter : Blitter) (processor : Processor)
    {instruction : Instruction} {registers : Registers}
    (silent : instruction.screenCall? processor.machine = none)
    (performed : instruction.perform blitter processor.machine processor.random =
      Instruction.changed processor.random { processor.machine with registers })
    {x : Register} {calculation : Calculation}
    (holds : { processor.machine with registers }.Holds processor.machine x calculation) :
    (processor.execute blitter instruction).Calculates processor x calculation := by
  obtain ⟨outcome, done, _⟩ := execute_silent blitter processor silent performed
  refine ⟨outcome, ?_, ?_⟩
  · rw [done]
    rfl
  · rw [done]
    exact ⟨holds.flag_eq, holds.result_eq, holds.kept⟩

/-- The arithmetic of the instruction set is that of the integers, whichever registers it is
given. -/
theorem arithmetic_exact (blitter : Blitter) (processor : Processor) (x : Register) :
    (∀ (y : Register) (digit : Fin 16) (calculation : Calculation),
      Calculation.ofDigit? (processor.machine.register x).toNat
          (processor.machine.register y).toNat (processor.machine.shifted x y).toNat digit =
        some calculation →
      ∃ instruction,
        Instruction.decode? (Opcode.ofNibbles 0x8 x y digit) = some instruction ∧
        (processor.execute blitter instruction).Calculates processor x calculation) ∧
    ∀ value : UInt8, ∃ instruction,
      Instruction.decode? (Opcode.ofByte 0x7 x value) = some instruction ∧
      (processor.execute blitter instruction).Calculates processor x
        { result := (processor.machine.register x).toNat + value.toNat } := by
  constructor
  · intro y digit calculation defined
    obtain ⟨operator, rfl⟩ := Calculation.exists_operator defined
    obtain ⟨other, otherDefined, holds⟩ := processor.machine.combine_holds operator x y
    obtain rfl := Option.some.inj (defined.symm.trans otherDefined)
    obtain ⟨registers, combined⟩ := processor.machine.combine_frame operator x y
    refine ⟨.combine operator x y, Instruction.decode?_encode (.combine operator x y), ?_⟩
    have performed :
        (Instruction.combine operator x y).perform blitter processor.machine processor.random =
          Instruction.changed processor.random { processor.machine with registers } :=
      congrArg (Instruction.changed processor.random) combined
    exact execute_changed blitter processor rfl performed (combined ▸ holds)
  · intro value
    refine ⟨.increase x value, Instruction.decode?_encode (.increase x value), ?_⟩
    refine execute_changed blitter processor rfl rfl (Machine.Holds.setRegister ?_ rfl)
    rw [UInt8.toNat_add]
    dsimp only
    omega

/-- A carry out of a sum that is kept in the flag register itself. -/
def addingToFlag : Processor :=
  let machine := (Machine.initial.setRegister Registers.flag 200).setRegister ⟨1, by decide⟩ 100
  ofMachine machine ⟨fun _ => 0, 0⟩

theorem addingToFlag_exact :
    Calculation.ofDigit? (addingToFlag.machine.register Registers.flag).toNat
        (addingToFlag.machine.register 1).toNat
        (addingToFlag.machine.shifted Registers.flag 1).toNat 0x4 =
      some { result := 300, flag? := some 1 } ∧
    ∃ instruction, Instruction.decode? 0x8F14 = some instruction ∧
      ((addingToFlag.execute Blitter.xor instruction).processor.machine.register
        Registers.flag).toNat = 1 := by
  have defined : Calculation.ofDigit? (addingToFlag.machine.register Registers.flag).toNat
      (addingToFlag.machine.register 1).toNat
      (addingToFlag.machine.shifted Registers.flag 1).toNat 0x4 =
      some { result := 300, flag? := some 1 } := rfl
  obtain ⟨instruction, decoded, calculates⟩ :=
    (arithmetic_exact Blitter.xor addingToFlag Registers.flag).1 1 4 _ defined
  exact ⟨defined, instruction, decoded, calculates.holds.flag_eq 1 rfl⟩

end Processor

end ChipEight
