import ChipEight.Machine

namespace ChipEight

/-! Work on a machine is done in place: a refusal takes nothing back of what was done
before it. An operation that is not defined for all operands first demands what it
needs. Where a demand is not met the work goes on with a made-up result, and the
bench remembers that it did. -/

structure Bench where
  machine : Machine
  defined : Bool := true

abbrev Work (Cause : Type) := EStateM Cause Bench

namespace Work

variable {Cause : Type}

def machine : Work Cause Machine :=
  return (← get).machine

def change (update : Machine → Machine) : Work Cause Unit :=
  modify fun bench => { bench with machine := update bench.machine }

def demand (condition : Prop) [Decidable condition] : Work Cause Unit :=
  modify fun bench => { bench with defined := bench.defined && decide condition }

def readRange (start length : Nat) : Work AccessFault (List UInt8) := do
  MonadExcept.ofExcept ((← machine).memory.read start length)

/-- Copies as many bytes into a range as it is long. -/
def writeRange (start length : Nat) (values : List UInt8) : Work AccessFault Unit := do
  let memory := (← machine).memory
  let _ ← MonadExcept.ofExcept (memory.rangeEnd start length)
  demand (values.length = length)
  change fun machine => { machine with memory := memory.storeAll start values }

/-- Flips bits of a byte and tells whether one of them was set. -/
def flip (address : Nat) (bits : UInt8) : Work Cause Bool := do
  let memory := (← machine).memory
  demand (address < memory.size)
  let flipped := memory.byte address ^^^ bits
  change fun machine => { machine with memory := memory.store address flipped }
  return flipped &&& bits != bits

@[simp] theorem run_machine (bench : Bench) :
    (machine : Work Cause Machine).run bench = .ok bench.machine bench := rfl

@[simp] theorem run_change (update : Machine → Machine) (bench : Bench) :
    (change update : Work Cause Unit).run bench =
      .ok () { bench with machine := update bench.machine } := rfl

@[simp] theorem run_demand (condition : Prop) [Decidable condition] (bench : Bench) :
    (demand condition : Work Cause Unit).run bench =
      .ok () { bench with defined := bench.defined && decide condition } := rfl

theorem run_flip (address : Nat) (bits : UInt8) (bench : Bench) :
    (flip address bits : Work Cause Bool).run bench =
      let memory := bench.machine.memory
      let flipped := memory.byte address ^^^ bits
      .ok (flipped &&& bits != bits)
        { machine := { bench.machine with memory := memory.store address flipped }
          defined := bench.defined && decide (address < memory.size) } := rfl

theorem run_readRange (start length : Nat) (bench : Bench) :
    (readRange start length).run bench =
      match bench.machine.memory.read start length with
      | .ok values => .ok values bench
      | .error fault => .error fault bench := by
  simp only [readRange, EStateM.run_bind, run_machine]
  cases bench.machine.memory.read start length <;> rfl

theorem run_writeRange {start length : Nat} {values : List UInt8}
    (fitting : values.length = length) (bench : Bench) :
    (writeRange start length values).run bench =
      match bench.machine.memory.write start values with
      | .ok memory =>
          .ok () { bench with machine := { bench.machine with memory } }
      | .error fault => .error fault bench := by
  subst fitting
  simp only [writeRange, Memory.write, EStateM.run_bind, run_machine]
  cases bench.machine.memory.rangeEnd start values.length with
  | error fault => rfl
  | ok stop =>
      simp only [decide_true, Bool.and_true, MonadExcept.ofExcept, EStateM.run_pure,
        run_demand, run_change]
      rfl

end Work

end ChipEight
