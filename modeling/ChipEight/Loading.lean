import ChipEight.Work

namespace ChipEight

/-! How a program gets into a machine: in place, over whatever is there. -/

namespace Work

variable {Cause : Type}

/-- Puts all of some bytes from an address on, which takes room for them. -/
def overwrite (start : Nat) (values : List UInt8) : Work Cause Unit := do
  demand (start + values.length ≤ (← machine).memory.size)
  change fun machine => { machine with memory := machine.memory.storeAll start values }

def zeroFrom (start : Nat) : Work Cause Unit := do
  overwrite start (List.replicate ((← machine).memory.size - start) 0)

/-- The program replaces everything from its start to the end of memory. -/
def loadProgram (program : List UInt8) : Work Oversized Unit := do
  if program.length ≤ Layout.programCapacity then
    overwrite Layout.programStart program
    zeroFrom (Layout.programStart + program.length)
  else
    throw ⟨program.length, Layout.programCapacity⟩

@[simp] theorem run_overwrite (start : Nat) (values : List UInt8) (bench : Bench) :
    (overwrite start values : Work Cause Unit).run bench =
      .ok ()
        { machine :=
            { bench.machine with memory := bench.machine.memory.storeAll start values }
          defined := bench.defined &&
            decide (start + values.length ≤ bench.machine.memory.size) } := rfl

theorem run_loadProgram_of_le {program : List UInt8}
    (fits : program.length ≤ Layout.programCapacity) (bench : Bench) :
    (loadProgram program).run bench =
      let memory := bench.machine.memory
      let stop := Layout.programStart + program.length
      .ok ()
        { machine := { bench.machine with
            memory := memory.storeAll Layout.programStart
              (program ++ List.replicate (memory.size - stop) 0) }
          defined := bench.defined && decide (stop ≤ memory.size) } := by
  have filling (size stop : Nat) : stop + (size - stop) ≤ size ↔ stop ≤ size := by omega
  rw [loadProgram, if_pos fits]
  simp only [zeroFrom, EStateM.run_bind, run_overwrite, run_machine, List.length_replicate,
    Memory.size_storeAll, Memory.storeAll_append, filling, Bool.and_assoc, Bool.and_self]

theorem run_loadProgram_of_lt {program : List UInt8}
    (beyond : Layout.programCapacity < program.length) (bench : Bench) :
    (loadProgram program).run bench =
      .error ⟨program.length, Layout.programCapacity⟩ bench := by
  rw [loadProgram, if_neg (Nat.not_le_of_lt beyond)]
  rfl

end Work

namespace Machine

/-- A host whose program is refused keeps the machine it has. -/
def loadProgram (machine : Machine) (program : List UInt8) : Except Oversized Machine :=
  match (Work.loadProgram program).run { machine } with
  | .ok _ bench => .ok bench.machine
  | .error fault _ => .error fault

def loadRecords (program : List UInt8) : List Record :=
  [.loaded program.length]

variable {program : List UInt8}

theorem loadProgram_of_le (fits : program.length ≤ Layout.programCapacity)
    (machine : Machine) :
    machine.loadProgram program =
      .ok { machine with
        memory := machine.memory.storeAll Layout.programStart
          (program ++ List.replicate
            (machine.memory.size - (Layout.programStart + program.length)) 0) } := by
  rw [loadProgram, Work.run_loadProgram_of_le fits]

theorem loadProgram_of_lt (beyond : Layout.programCapacity < program.length)
    (machine : Machine) :
    machine.loadProgram program = .error ⟨program.length, Layout.programCapacity⟩ := by
  rw [loadProgram, Work.run_loadProgram_of_lt beyond]

end Machine

end ChipEight
