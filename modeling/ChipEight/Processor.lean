import ChipEight.Execution

namespace ChipEight

/-! A machine with its random source and the opcode it fetched last. A tick
fetches, decodes and executes one opcode. -/

structure Processor where
  opcode : Opcode
  machine : Machine
  random : RandomSource

structure Report (Result : Type) where
  processor : Processor
  outcome : Except Fault Result
  records : List Record := []
  calls : List ScreenCall := []
  /-- Every operation on the way had a result. -/
  defined : Bool := true

namespace Processor

def ofMachine (machine : Machine) (random : RandomSource) : Processor :=
  ⟨0, machine, random⟩

def mapMachine (processor : Processor) (change : Machine → Machine) : Processor :=
  { processor with machine := change processor.machine }

def dispatch (blitter : Blitter) (processor : Processor) (instruction : Instruction) :
    Report (Step × Operation) :=
  let report (outcome : Except Fault (Step × Operation)) (turn : Turn) :=
    { processor := { processor with machine := turn.machine, random := turn.random }
      outcome
      records := turn.records
      calls := turn.calls
      defined := turn.defined }
  let turn := { machine := processor.machine, random := processor.random }
  match (instruction.carryOut blitter).run turn with
  | .ok taken turn => report (.ok taken) turn
  | .error fault turn => report (.error fault) turn

def step (processor : Processor) (step : Step) : Processor :=
  processor.mapMachine fun machine =>
    { machine with counter := step.apply machine.counter }

def execute (blitter : Blitter) (processor : Processor) (instruction : Instruction) :
    Report Operation :=
  let report := processor.dispatch blitter instruction
  match report.outcome with
  | .error fault => { report with outcome := .error fault }
  | .ok (step, operation) =>
      { report with
        processor := report.processor.step step
        outcome := .ok operation }

def advanceClock (processor : Processor) : Processor :=
  processor.mapMachine fun machine => { machine with clock := machine.clock.advance }

/-- The clock runs in every tick that neither fails nor waits. -/
def finish (report : Report Operation) : Report Operation :=
  match report.outcome with
  | .error _ | .ok .waiting => report
  | .ok _ =>
      { report with
        processor := report.processor.advanceClock
        records := report.records ++ report.processor.machine.clock.advanceRecords }

/-- An opcode outside the instruction set is passed over. -/
def pass (processor : Processor) (opcode : Opcode) : Report Operation :=
  { processor := processor.step .next
    outcome := .ok .advanced
    records := [.ignored opcode] }

def tick (blitter : Blitter) (processor : Processor) : Report Operation :=
  let machine := processor.machine
  match machine.memory.wordAt machine.counter.toNat with
  | .error fault => { processor, outcome := .error (.access fault) }
  | .ok opcode =>
      let fetched := { processor with opcode }
      let report := finish <|
        match Instruction.decode? opcode with
        | none => pass fetched opcode
        | some instruction => fetched.execute blitter instruction
      { report with records := .fetched machine.counter opcode :: report.records }

structure Ticked where
  opcode : Opcode
  counter : UInt16
  operation : Operation
  deriving DecidableEq, Repr

structure Run where
  processor : Processor
  ticks : List Ticked := []
  stopped : Option Fault := none
  records : List Record := []
  calls : List ScreenCall := []

/-- At most the given number of ticks, up to the first that fails. -/
def run (blitter : Blitter) : Nat → Processor → Run
  | 0, processor => { processor }
  | count + 1, processor =>
      let report := processor.tick blitter
      match report.outcome with
      | .error fault =>
          { processor := report.processor
            stopped := some fault
            records := report.records
            calls := report.calls }
      | .ok operation =>
          let rest := report.processor.run blitter count
          { rest with
            ticks :=
              ⟨report.processor.opcode, report.processor.machine.counter, operation⟩ ::
                rest.ticks
            records := report.records ++ rest.records
            calls := report.calls ++ rest.calls }

end Processor

end ChipEight
