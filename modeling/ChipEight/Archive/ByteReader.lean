import ChipEight.Cartridge

namespace ChipEight

/-! Bytes that something with a state of its own hands out piece by piece. -/

structure ByteReader (State : Type) where
  start : State
  /-- At most as many bytes as are asked for, and none behind the last one. -/
  read : State → (count : Nat) → Except ReadFault (List UInt8 × State)

namespace ByteReader

variable {State : Type}

/-- Asks for what is still wanted, until that is nothing or the end is met. Where
nothing is wanted any more the end is not looked for. -/
def takeFrom (reader : ByteReader State) (state : State) (wanted : Nat) :
    Except ReadFault (List UInt8) :=
  if wanted = 0 then
    .ok []
  else
    match reader.read state wanted with
    | .error fault => .error fault
    | .ok ([], _) => .ok []
    | .ok (byte :: chunk, next) =>
        (reader.takeFrom next (wanted - (chunk.length + 1))).map (byte :: chunk ++ ·)
termination_by wanted
decreasing_by omega

def take (reader : ByteReader State) (wanted : Nat) : Except ReadFault (List UInt8) :=
  reader.takeFrom reader.start wanted

end ByteReader

end ChipEight
