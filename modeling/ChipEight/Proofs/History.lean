import ChipEight.Proofs.Tick

namespace ChipEight.Processor

/-! A processor over time. Nothing but ticks and keys happens to it: one tick at each
moment, refused or not, and behind it the host sets the keypad. -/

def press (processor : Processor) (keypad : Keypad) : Processor :=
  processor.mapMachine ({ · with keypad })

def history (start : Processor) (keypads : Nat → Keypad) : Nat → Processor
  | 0 => start
  | moment + 1 =>
      ((start.history keypads moment).tick Blitter.xor).processor.press (keypads moment)

def unpressed (_ : Nat) : Keypad :=
  Keypad.released

/-- The tick succeeds, at an opcode of the given kind. -/
def Performs (processor : Processor) (kind : Opcode → Prop) : Prop :=
  ∃ opcode operation, processor.machine.fetch = .ok opcode ∧ kind opcode ∧
    (processor.tick Blitter.xor).outcome = .ok operation

variable {processor : Processor} {kind : Opcode → Prop}

theorem performs_iff {opcode : Opcode} {operation : Operation}
    (fetched : processor.machine.fetch = .ok opcode)
    (succeeded : (processor.tick Blitter.xor).outcome = .ok operation) :
    processor.Performs kind ↔ kind opcode := by
  constructor
  · rintro ⟨other, _, otherFetched, kindly, _⟩
    cases fetched.symm.trans otherFetched
    exact kindly
  · exact fun kindly => ⟨opcode, operation, fetched, kindly, succeeded⟩

theorem not_performs_of_failed {fault : Fault}
    (failed : (processor.tick Blitter.xor).outcome = .error fault) :
    ¬processor.Performs kind := by
  rintro ⟨_, _, _, _, succeeded⟩
  cases failed.symm.trans succeeded

theorem not_performs_of_unfetched {cause : AccessFault}
    (missing : processor.machine.fetch = .error cause) : ¬processor.Performs kind :=
  not_performs_of_failed (tick_unfetched Blitter.xor missing).outcome_eq

instance [DecidablePred kind] : Decidable (processor.Performs kind) :=
  match fetched : processor.machine.fetch,
      ticked : (processor.tick Blitter.xor).outcome with
  | .ok _, .ok _ => decidable_of_iff _ (performs_iff fetched ticked).symm
  | _, .error _ => isFalse (not_performs_of_failed ticked)
  | .error _, .ok _ => isFalse (not_performs_of_unfetched fetched)

end ChipEight.Processor
