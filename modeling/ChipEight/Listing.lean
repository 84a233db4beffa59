import ChipEight.Listing.Row
import ChipEight.Processor

namespace ChipEight

/-! The state of a processor as text, section by section. A section without
rows still takes up a line. -/

namespace Listing

structure Section where
  title : String
  rows : List String

def entriesPerRow : Nat :=
  8

def span (first last : Nat) : String :=
  Hex.literal first ++ " - " ++ Hex.literal last ++ " :"

def words (values : List Nat) : String :=
  String.join (values.map fun value => " " ++ Hex.literal value)

def flagName (flag : Bool) : String :=
  if flag then "true" else "false"

/-- Flags stand in columns as wide as a number, without blanks at the end. -/
def flags : List Bool → String
  | [] => ""
  | [flag] => " " ++ flagName flag
  | true :: rest => " true  " ++ flags rest
  | false :: rest => " false " ++ flags rest

def rowsOf {Entry : Type} (entries : List Entry) (text : List Entry → String) :
    List String :=
  (stretches entriesPerRow entries.length).map fun (start, length) =>
    span start (start + length - 1) ++ text ((entries.drop start).take length)

def memoryRow : MemoryRow → String
  | .words first last values => span first last ++ words (values.map UInt16.toNat)
  | .zeros first last =>
      span first last ++ " " ++ Hex.literal 0 ++ " ... " ++ Hex.literal 0

def Section.text (part : Section) : String :=
  "\t" ++ part.title ++ " :\n" ++
    "\n".intercalate (part.rows.map fun row => "\t\t" ++ row) ++ "\n"

def stackSlots (stack : CallStack) : List UInt16 :=
  stack.toList ++ List.replicate (Layout.stackCapacity - stack.depth) 0

def sections (processor : Processor) : List Section :=
  let machine := processor.machine
  let clock := machine.clock
  [⟨"Opcode", [Hex.literal processor.opcode.toNat]⟩,
   ⟨"Program Counter", [Hex.literal machine.counter.toNat]⟩,
   ⟨"Index Register", [Hex.literal machine.index.toNat]⟩,
   ⟨"Stack Pointer", [Hex.literal machine.stack.depth]⟩,
   ⟨"Timers (Delay Sound Divider)",
    rowsOf [clock.delay.toNat, clock.sound.toNat, clock.divider.toNat] words⟩,
   ⟨"Memory", machine.memory.rows.map memoryRow⟩,
   ⟨"Keyboard", rowsOf machine.keypad.down.toList flags⟩,
   ⟨"Stack", rowsOf ((stackSlots machine.stack).map UInt16.toNat) words⟩,
   ⟨"Register", rowsOf (machine.registers.toList.map UInt8.toNat) words⟩]

end Listing

def Processor.listing (processor : Processor) : String :=
  "Cpu \x7b\n" ++ String.join ((Listing.sections processor).map (·.text)) ++ "\x7d"

end ChipEight
