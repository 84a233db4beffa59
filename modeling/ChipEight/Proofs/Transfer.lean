import ChipEight.Proofs.Footprint

namespace ChipEight

/-! Bytes between the registers and memory. What is stored can be loaded again for as long as
nobody writes to where it lies, whatever else happens in between, and the other way round;
and the three digits of a register add up to what it held. -/

/-- The second memory has the whole range, with the same bytes as the first. -/
structure Memory.KeepsRange (first second : Memory) (start last : Nat) : Prop where
  inside : last < second.size
  byte_eq : ∀ address, start ≤ address → address ≤ last →
    second.byte address = first.byte address

theorem Memory.KeepsRange.of_eq {first second : Memory} {start last : Nat}
    (same : second = first) (inside : last < first.size) :
    first.KeepsRange second start last where
  inside := same ▸ inside
  byte_eq _ _ _ := same ▸ rfl

/-- A byte in decimal. -/
structure Digits (value hundreds tens ones : UInt8) : Prop where
  hundreds_le : hundreds ≤ 9
  tens_le : tens ≤ 9
  ones_le : ones ≤ 9
  value_eq : 100 * hundreds.toNat + 10 * tens.toNat + ones.toNat = value.toNat

namespace Report

/-- What `FX55` does: nothing but the bytes for the registers, the index and the counter
changes. -/
structure StoresRegisters (report : Report Operation) (before : Processor) (x : Register) :
    Prop where
  outcome_eq : report.outcome = .ok .advanced
  size_eq : report.processor.machine.memory.size = before.machine.memory.size
  stored : ∀ register ≤ x,
    report.processor.machine.memory.byte (before.machine.index.toNat + register) =
      before.machine.register register
  kept : ∀ address,
    address < before.machine.index.toNat ∨ before.machine.index.toNat + x < address →
      report.processor.machine.memory.byte address = before.machine.memory.byte address
  index_eq : report.processor.machine.index.toNat =
    (before.machine.index.toNat + x + 1) % 0x10000
  frame_eq : report.processor =
    { before with
      machine := { before.machine with
        memory := report.processor.machine.memory
        index := report.processor.machine.index
        counter := before.machine.counter + 2 } }

/-- What `FX65` does: nothing but the registers up to its own, the index and the counter
changes. -/
structure LoadsRegisters (report : Report Operation) (before : Processor) (x : Register) :
    Prop where
  outcome_eq : report.outcome = .ok .advanced
  loaded : ∀ register ≤ x,
    report.processor.machine.register register =
      before.machine.memory.byte (before.machine.index.toNat + register)
  kept : ∀ register > x,
    report.processor.machine.register register = before.machine.register register
  index_eq : report.processor.machine.index.toNat =
    (before.machine.index.toNat + x + 1) % 0x10000
  frame_eq : report.processor =
    { before with
      machine := { before.machine with
        registers := report.processor.machine.registers
        index := report.processor.machine.index
        counter := before.machine.counter + 2 } }

/-- What `FX33` does: nothing but three bytes and the counter changes. -/
structure StoresDecimal (report : Report Operation) (before : Processor) (x : Register) :
    Prop where
  outcome_eq : report.outcome = .ok .advanced
  size_eq : report.processor.machine.memory.size = before.machine.memory.size
  stored : Digits (before.machine.register x)
    (report.processor.machine.memory.byte before.machine.index.toNat)
    (report.processor.machine.memory.byte (before.machine.index.toNat + 1))
    (report.processor.machine.memory.byte (before.machine.index.toNat + 2))
  kept : ∀ address,
    address < before.machine.index.toNat ∨ before.machine.index.toNat + 2 < address →
      report.processor.machine.memory.byte address = before.machine.memory.byte address
  frame_eq : report.processor =
    { before with
      machine := { before.machine with
        memory := report.processor.machine.memory
        counter := before.machine.counter + 2 } }

end Report

theorem Registers.getD_take (registers : Registers) {x register : Register}
    (upTo : register ≤ x) :
    (registers.toList.take (x + 1)).getD register 0 = registers.get register := by
  have inside : register.val < x.val + 1 := Nat.lt_succ_of_le upTo
  simp [List.getD_eq_getElem?_getD, List.getElem?_take_of_lt inside, Vector.get]

theorem Registers.get_replaceFirst_slice (registers : Registers) (memory : Memory)
    (start : Nat) {x register : Register} (upTo : register ≤ x) :
    (registers.replaceFirst (memory.slice start (x + 1))).get register =
      memory.byte (start + register) := by
  have inside : register.val < x.val + 1 := Nat.lt_succ_of_le upTo
  have entry : (registers.replaceFirst (memory.slice start (x + 1))).get register =
      (memory.slice start (x + 1))[register.val]?.getD (registers.get register) :=
    Vector.getElem_ofFn register.isLt
  rw [entry, Memory.slice, List.getElem?_map, List.getElem?_range inside]
  rfl

theorem Machine.toNat_indexBehind (machine : Machine) (x : Register) :
    (machine.indexBehind x).toNat = (machine.index.toNat + x + 1) % 0x10000 := by
  simp only [Machine.indexBehind, UInt16.toNat_add, UInt16.toNat_ofNat']
  omega

theorem digits_decimalDigits (value : UInt8) :
    Digits value (value / 100) (value / 10 % 10) (value % 10) := by
  have small := value.toNat_lt
  have hundreds : (value / 100).toNat = value.toNat / 100 := UInt8.toNat_div value 100
  have tens : (value / 10 % 10).toNat = value.toNat / 10 % 10 :=
    (UInt8.toNat_mod (value / 10) 10).trans
      (congrArg (· % 10) (UInt8.toNat_div value 10))
  have ones : (value % 10).toNat = value.toNat % 10 := UInt8.toNat_mod value 10
  have nine : (9 : UInt8).toNat = 9 := rfl
  constructor
  all_goals simp only [UInt8.le_iff_toNat_le, hundreds, tens, ones, nine]
  all_goals omega

namespace Processor

variable {x : Register}

theorem execute_storeRegisters (blitter : Blitter) (processor : Processor)
    (inside : processor.machine.index.toNat + x < processor.machine.memory.size) :
    (processor.execute blitter (.storeRegisters x)).StoresRegisters processor x := by
  have length := Registers.length_take processor.machine.registers x
  have performed : (Instruction.storeRegisters x).perform blitter processor.machine
      processor.random =
      .ok
        { machine := { processor.machine with
            memory := processor.machine.memory.storeAll processor.machine.index.toNat
              (processor.machine.registers.toList.take (x + 1))
            index := processor.machine.indexBehind x }
          random := processor.random } := by
    rw [Instruction.perform, Memory.write_of_le (by omega)]
    rfl
  obtain ⟨outcome, done, _⟩ := execute_silent blitter processor rfl performed
  refine {
    outcome_eq := outcome
    size_eq := ?_
    stored := ?_
    kept := ?_
    index_eq := ?_
    frame_eq := ?_ }
  · rw [done]
    exact Memory.size_storeAll _ _ _
  · intro register upTo
    have covered : register.val < x.val + 1 := Nat.lt_succ_of_le upTo
    rw [done]
    exact (Memory.byte_storeAll_inside (by omega) (by omega)).trans
      (Registers.getD_take _ upTo)
  · intro address outside
    rw [done]
    exact Memory.byte_storeAll_outside (by omega)
  · rw [done]
    exact processor.machine.toNat_indexBehind x
  · rw [done]
    rfl

theorem execute_loadRegisters (blitter : Blitter) (processor : Processor)
    (inside : processor.machine.index.toNat + x < processor.machine.memory.size) :
    (processor.execute blitter (.loadRegisters x)).LoadsRegisters processor x := by
  have performed : (Instruction.loadRegisters x).perform blitter processor.machine
      processor.random =
      .ok
        { machine := { processor.machine with
            registers := processor.machine.registers.replaceFirst
              (processor.machine.memory.slice processor.machine.index.toNat (x + 1))
            index := processor.machine.indexBehind x }
          random := processor.random } := by
    rw [Instruction.perform, Memory.read_of_le (by omega)]
    rfl
  obtain ⟨outcome, done, _⟩ := execute_silent blitter processor rfl performed
  refine {
    outcome_eq := outcome
    loaded := ?_
    kept := ?_
    index_eq := ?_
    frame_eq := ?_ }
  · intro register upTo
    rw [done]
    exact Registers.get_replaceFirst_slice _ _ _ upTo
  · intro register above
    have beyond : x.val + 1 ≤ register.val := above
    rw [done]
    exact Registers.get_replaceFirst (by rw [Memory.length_slice]; exact beyond)
  · rw [done]
    exact processor.machine.toNat_indexBehind x
  · rw [done]
    rfl

theorem execute_storeDecimal (blitter : Blitter) (processor : Processor)
    (inside : processor.machine.index.toNat + 2 < processor.machine.memory.size) :
    (processor.execute blitter (.storeDecimal x)).StoresDecimal processor x := by
  have length := Machine.length_decimalDigits (processor.machine.register x)
  have performed : (Instruction.storeDecimal x).perform blitter processor.machine
      processor.random =
      .ok
        { machine := { processor.machine with
            memory := processor.machine.memory.storeAll processor.machine.index.toNat
              (Machine.decimalDigits (processor.machine.register x)) }
          random := processor.random } := by
    rw [Instruction.perform, Memory.write_of_le (by omega)]
    rfl
  obtain ⟨outcome, done, _⟩ := execute_silent blitter processor rfl performed
  have digit : ∀ position < 3,
      (processor.execute blitter (.storeDecimal x)).processor.machine.memory.byte
          (processor.machine.index.toNat + position) =
        (Machine.decimalDigits (processor.machine.register x)).getD position 0 := by
    intro position small
    rw [done]
    exact Memory.byte_storeAll_inside (by omega) (by omega)
  refine {
    outcome_eq := outcome
    size_eq := ?_
    stored := ?_
    kept := ?_
    frame_eq := ?_ }
  · rw [done]
    exact Memory.size_storeAll _ _ _
  · have hundreds := digit 0 (by decide)
    rw [Nat.add_zero] at hundreds
    rw [hundreds, digit 1 (by decide), digit 2 (by decide)]
    exact digits_decimalDigits _
  · intro address outside
    rw [done]
    exact Memory.byte_storeAll_outside (by omega)
  · rw [done]
    rfl

theorem register_of_keepsRange {later : Processor} {report : Report Operation}
    {memory : Memory} {first : Nat} (loads : report.LoadsRegisters later x)
    (index : later.machine.index.toNat = first)
    (keeps : memory.KeepsRange later.machine.memory first (first + x)) {register : Register}
    (upTo : register ≤ x) :
    report.processor.machine.register register = memory.byte (first + register) := by
  have place : register.val ≤ x.val := upTo
  rw [loads.loaded register upTo, index]
  exact keeps.byte_eq _ (Nat.le_add_right _ _) (Nat.add_le_add_left place _)

theorem memory_of_dumpBack {processor later : Processor} {loaded dumped : Report Operation}
    (loads : loaded.LoadsRegisters processor x) (dumps : dumped.StoresRegisters later x)
    (index : later.machine.index = processor.machine.index)
    (memory : later.machine.memory = processor.machine.memory)
    (registers : ∀ register ≤ x,
      later.machine.register register = loaded.processor.machine.register register) :
    dumped.processor.machine.memory = processor.machine.memory := by
  apply Memory.ext_byte (dumps.size_eq.trans (congrArg Memory.size memory))
  intro address
  by_cases covered : processor.machine.index.toNat ≤ address ∧
      address ≤ processor.machine.index.toNat + x
  · obtain ⟨offset, rfl⟩ := Nat.exists_eq_add_of_le covered.1
    have upTo : offset ≤ x.val := Nat.le_of_add_le_add_left covered.2
    have register := dumps.stored ⟨offset, Nat.lt_of_le_of_lt upTo x.isLt⟩ upTo
    rw [registers _ upTo, loads.loaded _ upTo, index] at register
    exact register
  · rw [dumps.kept address (by rw [index]; omega), memory]

/-- A dump of the registers outlasts whatever leaves its bytes alone, and so does what was
loaded, if it goes back to where it came from. The digits of a register are loaded as they
were stored. -/
theorem transfers_return (blitter : Blitter) (processor : Processor) (x : Register) :
    let first := processor.machine.index.toNat
    (first + x < processor.machine.memory.size →
      let dumped := processor.execute blitter (.storeRegisters x)
      dumped.StoresRegisters processor x ∧
      ∀ later : Processor, later.machine.index = processor.machine.index →
        dumped.processor.machine.memory.KeepsRange later.machine.memory first (first + x) →
          let loaded := later.execute blitter (.loadRegisters x)
          loaded.LoadsRegisters later x ∧
          ∀ register ≤ x,
            loaded.processor.machine.register register =
              processor.machine.register register) ∧
    (first + x < processor.machine.memory.size →
      let loaded := processor.execute blitter (.loadRegisters x)
      loaded.LoadsRegisters processor x ∧
      ∀ later : Processor, later.machine.index = processor.machine.index →
        later.machine.memory = loaded.processor.machine.memory →
        (∀ register ≤ x,
          later.machine.register register = loaded.processor.machine.register register) →
          let dumped := later.execute blitter (.storeRegisters x)
          dumped.StoresRegisters later x ∧
          dumped.processor.machine.memory = processor.machine.memory) ∧
    (first + 2 < processor.machine.memory.size →
      let converted := processor.execute blitter (.storeDecimal x)
      converted.StoresDecimal processor x ∧
      ∀ later : Processor, later.machine.index = processor.machine.index →
        converted.processor.machine.memory.KeepsRange later.machine.memory first (first + 2) →
          let loaded := later.execute blitter (.loadRegisters 2)
          loaded.LoadsRegisters later 2 ∧
          Digits (processor.machine.register x) (loaded.processor.machine.register 0)
            (loaded.processor.machine.register 1) (loaded.processor.machine.register 2)) := by
  intro first
  refine ⟨fun inside => ?_, fun inside => ?_, fun inside => ?_⟩
  · have dumps := execute_storeRegisters blitter processor inside
    refine ⟨dumps, fun later index keeps => ?_⟩
    have place : later.machine.index.toNat = first := congrArg UInt16.toNat index
    have loads := execute_loadRegisters blitter later (place.symm ▸ keeps.inside)
    refine ⟨loads, fun register upTo => ?_⟩
    rw [register_of_keepsRange loads place keeps upTo]
    exact dumps.stored register upTo
  · have loads := execute_loadRegisters blitter processor inside
    refine ⟨loads, fun later index memory registers => ?_⟩
    rw [loads.frame_eq] at memory
    have place : later.machine.index.toNat = first := congrArg UInt16.toNat index
    have dumps := execute_storeRegisters (x := x) blitter later
      (by rw [place, memory]; exact inside)
    exact ⟨dumps, memory_of_dumpBack loads dumps index memory registers⟩
  · have converts := execute_storeDecimal (x := x) blitter processor inside
    refine ⟨converts, fun later index keeps => ?_⟩
    have place : later.machine.index.toNat = first := congrArg UInt16.toNat index
    have loads := execute_loadRegisters (x := 2) blitter later (place.symm ▸ keeps.inside)
    refine ⟨loads, ?_⟩
    rw [register_of_keepsRange loads place keeps (by decide),
      register_of_keepsRange loads place keeps (by decide),
      register_of_keepsRange loads place keeps (by decide)]
    exact converts.stored

/-- The index three bytes in front of the end of memory. -/
def brimming : Processor :=
  let machine := (Machine.initial.setRegister Registers.first 7).setRegister ⟨2, by decide⟩ 254
  ofMachine { machine with index := 0xFFD } ⟨fun _ => 0, 0⟩

theorem brimming_returns :
    brimming.machine.index.toNat + 2 < brimming.machine.memory.size ∧
    let dumped := (brimming.execute Blitter.xor (.storeRegisters 2)).processor
    let cleared := dumped.mapMachine ({ · with registers := Registers.zero, index := 0xFFD })
    let loaded := (brimming.execute Blitter.xor (.loadRegisters 2)).processor
    let returned := loaded.mapMachine ({ · with index := 0xFFD })
    let converted := (brimming.execute Blitter.xor (.storeDecimal 2)).processor
    let shown := (converted.execute Blitter.xor (.loadRegisters 2)).processor.machine
    (cleared.execute Blitter.xor (.loadRegisters 2)).processor.machine.register 2 = 254 ∧
    (returned.execute Blitter.xor (.storeRegisters 2)).processor.machine.memory =
      brimming.machine.memory ∧
    Digits 254 (shown.register 0) (shown.register 1) (shown.register 2) := by
  have inside : brimming.machine.index.toNat + 2 < brimming.machine.memory.size := by
    rw [show brimming.machine.memory.size = 0x1000 from Machine.size_initial]
    decide
  refine ⟨inside, ?_⟩
  -- Nothing about the machine matters but what is asked for here.
  have general : ∀ processor : Processor,
      processor.machine.index.toNat + 2 < processor.machine.memory.size →
      processor.machine.index = 0xFFD → processor.machine.register 2 = 254 →
      let dumped := (processor.execute Blitter.xor (.storeRegisters 2)).processor
      let cleared := dumped.mapMachine ({ · with registers := Registers.zero, index := 0xFFD })
      let loaded := (processor.execute Blitter.xor (.loadRegisters 2)).processor
      let returned := loaded.mapMachine ({ · with index := 0xFFD })
      let converted := (processor.execute Blitter.xor (.storeDecimal 2)).processor
      let shown := (converted.execute Blitter.xor (.loadRegisters 2)).processor.machine
      (cleared.execute Blitter.xor (.loadRegisters 2)).processor.machine.register 2 = 254 ∧
      (returned.execute Blitter.xor (.storeRegisters 2)).processor.machine.memory =
        processor.machine.memory ∧
      Digits 254 (shown.register 0) (shown.register 1) (shown.register 2) := by
    intro processor inside index value dumped cleared loaded returned converted shown
    obtain ⟨dumping, loading, converting⟩ := transfers_return Blitter.xor processor 2
    obtain ⟨dumps, reloads⟩ := dumping inside
    obtain ⟨loads, redumps⟩ := loading inside
    obtain ⟨converts, shows⟩ := converting inside
    have reloaded := (reloads cleared index.symm
      (.of_eq rfl (Nat.lt_of_lt_of_eq inside dumps.size_eq.symm))).2 2 (by decide)
    have redumped := (redumps returned index.symm rfl fun _ _ => rfl).2
    have digits := (shows converted (congrArg (·.machine.index) converts.frame_eq)
      (.of_eq rfl (Nat.lt_of_lt_of_eq inside converts.size_eq.symm))).2
    rw [value] at reloaded digits
    exact ⟨reloaded, redumped, digits⟩
  exact general brimming inside rfl rfl

end Processor

end ChipEight
