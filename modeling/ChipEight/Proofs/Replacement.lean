import ChipEight.Proofs.Loading

namespace ChipEight

/-! Loading replaces the program area as a whole. What lies before it is kept, and a program
with zeros behind it takes the place of all the rest, so that of several programs only the
last one accepted can be seen. A refused program leaves the machine as it was. -/

namespace Memory

variable {memory : Memory} {program : List UInt8}

/-- What lies before the program area, a program, and zeros to the end. -/
def withProgram (memory : Memory) (program : List UInt8) : Memory :=
  ⟨(memory.bytes.toList.take 0x200 ++ program ++
    List.replicate (0xE00 - program.length) 0).toArray⟩

theorem length_take_bytes (size : memory.size = Layout.memorySize) :
    (memory.bytes.toList.take 0x200).length = 0x200 := by
  rw [List.length_take, length_bytes, size]
  rfl

theorem size_withProgram (size : memory.size = Layout.memorySize)
    (fits : program.length ≤ Layout.programCapacity) :
    (memory.withProgram program).size = Layout.memorySize := by
  have capacity : Layout.programCapacity = 0xE00 := rfl
  simp only [withProgram, Memory.size, List.size_toArray, List.length_append,
    length_take_bytes size, List.length_replicate, Layout.memorySize]
  omega

/-- Nothing is left of an earlier program. -/
theorem withProgram_withProgram (size : memory.size = Layout.memorySize)
    (earlier program : List UInt8) :
    (memory.withProgram earlier).withProgram program = memory.withProgram program := by
  simp only [withProgram, List.append_assoc, List.take_left' (length_take_bytes size)]

theorem storeAll_eq_withProgram (size : memory.size = Layout.memorySize)
    (fits : program.length ≤ Layout.programCapacity) :
    memory.storeAll Layout.programStart (program ++ List.replicate
        (memory.size - (Layout.programStart + program.length)) 0) =
      memory.withProgram program := by
  have rest : memory.size - (Layout.programStart + program.length) =
      0xE00 - program.length := by
    rw [size, Nat.sub_add_eq]
    rfl
  have filled : Layout.programStart +
      (program ++ List.replicate (0xE00 - program.length) (0 : UInt8)).length =
        memory.size := by
    rw [List.length_append, List.length_replicate]
    exact (congrArg _ (Nat.add_sub_of_le fits)).trans size.symm
  apply ext_toList
  rw [rest, toList_storeAll (Nat.le_of_eq filled), filled, ← length_bytes, List.drop_length,
    List.append_nil, ← List.append_assoc]
  rfl

end Memory

namespace Machine

variable {machine : Machine}

def withProgram (machine : Machine) (program : List UInt8) : Machine :=
  { machine with memory := machine.memory.withProgram program }

/-- The machine that is left when a program has been handed to it, accepted or not. -/
def handed (machine : Machine) (program : List UInt8) : Machine :=
  match (Work.loadProgram program).run { machine } with
  | .ok _ bench | .error _ bench => bench.machine

theorem run_loadProgram (size : machine.memory.size = Layout.memorySize)
    (program : List UInt8) :
    (Work.loadProgram program).run { machine } =
      if program.length ≤ Layout.programCapacity then
        .ok () { machine := machine.withProgram program }
      else
        .error ⟨program.length, Layout.programCapacity⟩ { machine } := by
  split
  case isTrue fits =>
    have room : Layout.programStart + program.length ≤ machine.memory.size :=
      size ▸ Nat.add_le_add_left fits Layout.programStart
    simp only [Work.run_loadProgram_of_le fits, Memory.storeAll_eq_withProgram size fits, room,
      decide_true, Bool.and_true]
    rfl
  case isFalse beyond => exact Work.run_loadProgram_of_lt (Nat.lt_of_not_le beyond) _

theorem handed_eq (size : machine.memory.size = Layout.memorySize) (program : List UInt8) :
    machine.handed program =
      if program.length ≤ Layout.programCapacity then machine.withProgram program
      else machine := by
  rw [handed, run_loadProgram size]
  by_cases fits : program.length ≤ Layout.programCapacity
  · simp only [if_pos fits]
  · simp only [if_neg fits]

/-- Of the programs handed to a machine one after another it holds the last one accepted, as if
it had been the only one. -/
theorem foldl_handed (size : machine.memory.size = Layout.memorySize)
    (programs : List (List UInt8)) :
    programs.foldl handed machine =
      ((programs.filter (·.length ≤ Layout.programCapacity)).getLast?.map
        machine.withProgram).getD machine := by
  induction programs generalizing machine with
  | nil => rfl
  | cons program programs ih =>
      rw [List.foldl_cons, handed_eq size]
      by_cases fits : program.length ≤ Layout.programCapacity
      · have again (later : List UInt8) :
            (machine.withProgram program).withProgram later = machine.withProgram later := by
          simp only [withProgram, Memory.withProgram_withProgram size]
        rw [if_pos fits, ih (Memory.size_withProgram size fits),
          List.filter_cons_of_pos (by simpa using fits), List.getLast?_cons]
        cases (programs.filter (·.length ≤ Layout.programCapacity)).getLast? with
        | none => rfl
        | some later => exact again later
      · rw [if_neg fits, ih size, List.filter_cons_of_neg (by simpa using fits)]

/-- What the host holds makes no difference to a load and is not touched by it. -/
theorem handed_held (size : machine.memory.size = Layout.memorySize) (keypad : Keypad)
    (shiftsInPlace : Bool) (program : List UInt8) :
    handed { machine with keypad, shiftsInPlace } program =
      { machine.handed program with keypad, shiftsInPlace } := by
  have held : ({ machine with keypad, shiftsInPlace } : Machine).memory.size =
      Layout.memorySize := size
  rw [handed_eq size, handed_eq held]
  split <;> rfl

/-- A program that fits takes the place of everything behind what lies before the program
area; another one is refused for its length, before anything is written. Of many programs only
the last one that fits is left, and behind a reset a program is loaded as into a new machine. -/
theorem loading_replaces {machine : Machine} (size : machine.memory.size = 4096) :
    (∀ program : List UInt8, (Work.loadProgram program).run { machine } =
      if program.length ≤ 3584 then
        .ok () { machine := { machine with memory := machine.memory.withProgram program } }
      else
        .error ⟨program.length, 3584⟩ { machine }) ∧
    (∀ programs : List (List UInt8), programs.foldl handed machine =
      ((programs.filter (·.length ≤ 3584)).getLast?.map fun program =>
        { machine with memory := machine.memory.withProgram program }).getD machine) ∧
    ∀ program : List UInt8, machine.reset.handed program =
      { initial.handed program with
        keypad := machine.keypad
        shiftsInPlace := machine.shiftsInPlace } := by
  refine ⟨run_loadProgram size, foldl_handed size, fun program => ?_⟩
  rw [reset_eq_initial size, handed_held size_initial]

/-- Bytes on both sides of the border of the program area, and a lit screen. -/
def scribbled : Machine :=
  { initial with
    memory := (initial.memory.storeAll 0x1FE [0x11, 0x22, 0x33, 0x44]).store 0xF00 0xFF
    shiftsInPlace := true }

theorem scribbled_replaced :
    scribbled.memory.size = 4096 ∧
    [[0x12, 0x00, 0xA2], [0xF0], List.replicate 3585 0x77].foldl handed scribbled =
      { scribbled with memory := scribbled.memory.withProgram [0xF0] } ∧
    (Work.loadProgram (List.replicate 3585 0x77)).run { machine := scribbled } =
      .error ⟨3585, 3584⟩ { machine := scribbled } ∧
    (scribbled.memory.withProgram [0xF0]).slice 0x1FE 4 = [0x11, 0x22, 0xF0, 0x00] ∧
    (scribbled.memory.withProgram [0xF0]).byte 0xF00 = 0 ∧
    scribbled.reset.handed [0xF0] = { initial.handed [0xF0] with shiftsInPlace := true } := by
  have size : scribbled.memory.size = 4096 := by
    simp only [scribbled, Memory.size_store, Memory.size_storeAll, size_initial]
    rfl
  obtain ⟨loads, lasts, resets⟩ := loading_replaces size
  have last : ([[0x12, 0x00, 0xA2], [0xF0], List.replicate 3585 0x77].filter
      fun program : List UInt8 => program.length ≤ 3584).getLast? = some [0xF0] := by
    decide +kernel
  refine ⟨size, ?_, ?_, ?_, ?_, ?_⟩
  · rw [lasts, last]
    rfl
  · rw [loads, List.length_replicate]
    rfl
  · decide +kernel
  · decide +kernel
  · exact resets [0xF0]

end Machine

end ChipEight
