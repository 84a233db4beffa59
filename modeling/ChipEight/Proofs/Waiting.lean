import ChipEight.Proofs.Cadence
import ChipEight.Proofs.Frames
import ChipEight.Proofs.Operation

namespace ChipEight

/-! Waiting for a key. A tick waits at one instruction, without a key, and nowhere else. It
then leaves the machine as it is, and so do all further ticks for as long as there is no
key; the first tick with a key takes the lowest one and goes on. -/

namespace Keypad

variable {keypad : Keypad} {key : Fin 16}

end Keypad

namespace Opcode

/-- `FX0A`, which puts a key into a register. -/
def awaitKey (x : Register) : Opcode :=
  UInt16.ofNat (0xF00A + x * 0x100)

end Opcode

namespace Machine

end Machine

namespace Processor

variable {blitter : Blitter} {processor : Processor} {x : Register}

end Processor

namespace Console

variable {console : Console} {keypad : Keypad} {x : Register}

end Console

end ChipEight
