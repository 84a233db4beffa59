import ChipEight.Proofs.Reachability

namespace ChipEight

/-! When a program is refused, and what memory holds behind one that is accepted. Neither
loading nor resetting depends on what the host holds, the keys and the shift mode. -/

theorem getD_zeroPadded (values : List UInt8) (padding position : Nat) :
    (values ++ List.replicate padding 0).getD position 0 = values.getD position 0 := by
  simp only [List.getD_eq_getElem?_getD]
  rcases Nat.lt_or_ge position values.length with inside | beyond
  · rw [List.getElem?_append_left inside]
  · rw [List.getElem?_append_right beyond, List.getElem?_replicate,
      List.getElem?_eq_none beyond]
    split <;> rfl

namespace Machine

variable {machine loaded : Machine} {program : List UInt8}

theorem loadProgram_eq_error_iff (machine : Machine) (program : List UInt8) :
    (∃ fault, machine.loadProgram program = .error fault) ↔
      Layout.programCapacity < program.length := by
  rcases Nat.lt_or_ge Layout.programCapacity program.length with beyond | fits
  · rw [loadProgram_of_lt beyond]
    exact ⟨fun _ => beyond, fun _ => ⟨_, rfl⟩⟩
  · rw [loadProgram_of_le fits]
    exact ⟨nofun, fun beyond => absurd fits (Nat.not_le_of_lt beyond)⟩

/-- The program is followed by zeros up to the end of memory. -/
theorem byte_loadProgram (accepted : machine.loadProgram program = .ok loaded)
    (address : Nat) :
    loaded.memory.byte address =
      if Layout.programStart ≤ address ∧ address < machine.memory.size then
        program.getD (address - Layout.programStart) 0
      else
        machine.memory.byte address := by
  have fits := (loadProgram_eq_ok accepted).1
  rw [loadProgram_of_le fits] at accepted
  cases accepted
  simp only [Memory.byte_storeAll, List.length_append, List.length_replicate,
    getD_zeroPadded]
  by_cases inside : Layout.programStart ≤ address ∧ address < machine.memory.size
  · rw [if_pos inside, if_pos ⟨inside.1, by omega, inside.2⟩]
  · rw [if_neg inside, if_neg fun all => inside ⟨all.1, all.2.2⟩]

theorem slice_loadProgram (size : machine.memory.size = Layout.memorySize)
    (accepted : machine.loadProgram program = .ok loaded) :
    loaded.memory.slice Layout.programStart Layout.programCapacity =
      program ++ List.replicate (Layout.programCapacity - program.length) 0 := by
  have fits := (loadProgram_eq_ok accepted).1
  apply List.ext_getElem
  · rw [Memory.length_slice, List.length_append, List.length_replicate]
    omega
  · intro position inside insidePadded
    rw [Memory.length_slice] at inside
    have ends : Layout.programStart + Layout.programCapacity = Layout.memorySize := rfl
    simp only [Memory.slice, List.getElem_map, List.getElem_range]
    rw [byte_loadProgram accepted, if_pos (by omega), Nat.add_sub_cancel_left,
      ← getD_zeroPadded program (Layout.programCapacity - program.length) position,
      ← List.getElem_eq_getD]

theorem byte_initial {address : Nat} (behind : Layout.programStart ≤ address) :
    initial.memory.byte address = 0 := by
  simp only [initial, loadGlyphs, Memory.byte_storeAll, Layout.length_glyphs,
    Memory.byte_zeros]
  have glyphsEnd : Layout.glyphStart + Layout.keyCount * Layout.glyphBytes ≤
    Layout.programStart := by decide
  rw [if_neg (by omega)]

/-- There is nothing to be cleared behind the first program. -/
theorem loadProgram_initial (fits : program.length ≤ Layout.programCapacity) :
    initial.loadProgram program =
      .ok { initial with
        memory := initial.memory.storeAll Layout.programStart program } := by
  obtain ⟨loaded, accepted⟩ : ∃ loaded, initial.loadProgram program = .ok loaded :=
    ⟨_, loadProgram_of_le fits _⟩
  obtain ⟨_, memory, rfl, size⟩ := loadProgram_eq_ok accepted
  have bytes := byte_loadProgram accepted
  have same : memory = initial.memory.storeAll Layout.programStart program := by
    apply Memory.ext_byte
    · rw [size, Memory.size_storeAll]
    · intro address
      rw [bytes, Memory.byte_storeAll]
      by_cases covered : address < Layout.programStart + program.length
      · simp only [covered, true_and]
      · rw [if_neg (c := _ ∧ _ ∧ _) (by omega)]
        split
        · rename_i inside
          rw [byte_initial inside.1, List.getD_eq_getElem?_getD,
            List.getElem?_eq_none (by omega)]
          rfl
        · rfl
  rw [accepted, same]

theorem loadProgram_held (keypad : Keypad) (shiftsInPlace : Bool)
    (accepted : machine.loadProgram program = .ok loaded) :
    loadProgram { machine with keypad, shiftsInPlace } program =
      .ok { loaded with keypad, shiftsInPlace } := by
  have fits := (loadProgram_eq_ok accepted).1
  rw [loadProgram_of_le fits] at accepted ⊢
  cases accepted
  rfl

theorem reset_eq_initial (size_eq : machine.memory.size = Layout.memorySize) :
    machine.reset =
      { initial with keypad := machine.keypad, shiftsInPlace := machine.shiftsInPlace } := by
  simp only [reset, size_eq]
  rfl

end Machine

namespace Console

theorem insert_of_oversized (cartridge : Cartridge) (random : RandomSource)
    (beyond : Layout.programCapacity < cartridge.data.length) :
    insert cartridge random = .error ⟨cartridge.data.length, Layout.programCapacity⟩ := by
  rw [insert, Machine.loadProgram_of_lt beyond]
  rfl

/-- A cartridge is inserted whole, and there is nothing behind it. -/
theorem memory_insert {cartridge : Cartridge} {random : RandomSource} {console : Console}
    (accepted : insert cartridge random = .ok console) :
    cartridge.data.length ≤ Layout.programCapacity ∧
      console.processor.machine.memory.size = Layout.memorySize ∧
      console.processor.machine.memory.slice Layout.programStart Layout.programCapacity =
        cartridge.data ++
          List.replicate (Layout.programCapacity - cartridge.data.length) 0 := by
  obtain ⟨machine, loaded, rfl⟩ := insert_eq_ok accepted
  obtain ⟨fits, memory, rfl, size⟩ := Machine.loadProgram_eq_ok loaded
  exact ⟨fits, size.trans Machine.size_initial,
    Machine.slice_loadProgram Machine.size_initial loaded⟩

end Console

theorem Console.insert_eq_error_iff (cartridge : Cartridge) (random : RandomSource) :
    (∃ fault, insert cartridge random = .error fault) ↔
      Layout.programCapacity < cartridge.data.length := by
  rw [← Machine.loadProgram_eq_error_iff Machine.initial]
  unfold insert
  cases Machine.initial.loadProgram cartridge.data with
  | error fault => exact ⟨fun _ => ⟨fault, rfl⟩, fun _ => ⟨fault, rfl⟩⟩
  | ok machine => exact ⟨nofun, nofun⟩

end ChipEight
