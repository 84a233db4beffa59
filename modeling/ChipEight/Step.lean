import ChipEight.Layout

namespace ChipEight

/-! How the program counter moves on, and what a tick tells its host. -/

inductive Step where
  | stay
  | next
  | skip
  | jump (target : UInt16)
  deriving DecidableEq, Repr

def Step.skipWhen (condition : Bool) : Step :=
  if condition then .skip else .next

/-- The counter wraps around at the end of its sixteen bits. -/
def Step.apply (counter : UInt16) : Step → UInt16
  | .stay => counter
  | .next => counter + 2
  | .skip => counter + 4
  | .jump target => target

inductive Operation where
  | advanced
  | drew
  | waiting
  deriving DecidableEq, Repr

end ChipEight
