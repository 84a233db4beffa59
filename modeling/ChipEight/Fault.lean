import ChipEight.Instruction.Encoding
import ChipEight.Text.Hex

namespace ChipEight

/-! Why a machine cannot go on, and the one wording of each cause. -/

/-- An access that needs the byte at `address` of a memory of `size` bytes. -/
structure AccessFault where
  address : Nat
  size : Nat
  deriving DecidableEq, Repr

inductive StackFault where
  | full
  | empty
  deriving DecidableEq, Repr

inductive Fault where
  | stack (cause : StackFault)
  | access (cause : AccessFault)
  deriving DecidableEq, Repr

structure Oversized where
  length : Nat
  limit : Nat
  deriving DecidableEq, Repr

structure UnknownOpcode where
  opcode : Opcode
  deriving DecidableEq, Repr

def AccessFault.message (fault : AccessFault) : String :=
  "Address " ++ Hex.literal fault.address ++
    " is out of bounds for a memory of len " ++ Hex.literal fault.size

def StackFault.message : StackFault → String
  | .full => "Stack is full!"
  | .empty => "Stack is empty!"

def Fault.message : Fault → String
  | .stack cause => "Invalid stack state '" ++ cause.message ++ "'."
  | .access cause => "Invalid memory access '" ++ cause.message ++ "'."

def Oversized.message (fault : Oversized) : String :=
  "The program is " ++ toString fault.length ++ " bytes long, but only " ++
    toString fault.limit ++ " bytes can be loaded."

def UnknownOpcode.message (fault : UnknownOpcode) : String :=
  "An unsupported opcode was used " ++ Hex.literal fault.opcode.toNat ++ "."

end ChipEight
