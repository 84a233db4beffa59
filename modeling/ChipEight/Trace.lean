import ChipEight.Fault

namespace ChipEight

/-! What the machine tells a logger, as data; `Record.line` is its text. -/

inductive Record where
  | fetched (counter : UInt16) (opcode : Opcode)
  | ignored (opcode : Opcode)
  | called (target origin : UInt16)
  | returned (origin : UInt16)
  | reloaded (delay sound : UInt8)
  | loaded (length : Nat)
  | inserted (name : String)
  | extracted (name : String) (length : Nat)
  deriving DecidableEq, Repr

inductive Level where
  | debug
  | trace
  | warn
  deriving DecidableEq, Repr

def Level.name : Level → String
  | .debug => "DEBUG"
  | .trace => "TRACE"
  | .warn => "WARN"

def Record.level : Record → Level
  | .ignored _ => .warn
  | .reloaded _ _ => .trace
  | _ => .debug

def Record.text : Record → String
  | .fetched counter opcode =>
      "pc " ++ Hex.literal counter.toNat ++ " opcode " ++ Hex.literal opcode.toNat
  | .ignored opcode => (UnknownOpcode.mk opcode).message ++ " Ignoring it."
  | .called target origin =>
      "call " ++ Hex.literal target.toNat ++ " from " ++ Hex.literal origin.toNat
  | .returned origin => "return to " ++ Hex.literal origin.toNat
  | .reloaded delay sound =>
      "timer reload delay " ++ toString delay.toNat ++ " sound " ++ toString sound.toNat
  | .loaded length => "loaded program of " ++ toString length ++ " bytes"
  | .inserted name => "loaded rom " ++ name
  | .extracted name length =>
      "extracted rom " ++ name ++ " with " ++ toString length ++ " bytes"

def Record.line (record : Record) : String :=
  record.level.name ++ " " ++ record.text

end ChipEight
