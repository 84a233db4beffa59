import Mathlib.Data.List.Chain
import ChipEight.Proofs.Frames
import ChipEight.Proofs.Loading

namespace ChipEight

/-! The calls a beeper gets. A frame tells it of changes alone, and a frame that fails of
none, so that whether it sounds can be read off its last call. What happens to the machine
between two frames, a reset included, is none of its business: the next frame that succeeds
sets it right. -/

/-- Starts and stops in turn, a start first, as the beeper gets them that by now sounds or
does not. -/
structure BeeperCall.Accounts (calls : List BeeperCall) (sounding : Bool) : Prop where
  alternates : calls.IsChain (· ≠ ·)
  starts : ∀ first ∈ calls.head?, first = .start
  sounding_iff : sounding = true ↔ calls.getLast? = some .start

namespace BeeperCall.Accounts

variable {calls : List BeeperCall}

theorem nil : Accounts [] false where
  alternates := .nil
  starts _ member := by contradiction
  sounding_iff := by simp

theorem start (accounts : Accounts calls false) : Accounts (calls ++ [.start]) true where
  alternates := by
    refine accounts.alternates.append (.singleton _) fun last isLast first isFirst same => ?_
    cases isFirst
    subst same
    exact absurd (accounts.sounding_iff.mpr isLast) Bool.false_ne_true
  starts first member := by
    cases calls with
    | nil => exact (Option.some.inj member).symm
    | cons call rest => exact accounts.starts first member
  sounding_iff := by simp

theorem stop (accounts : Accounts calls true) : Accounts (calls ++ [.stop]) false where
  alternates := by
    refine accounts.alternates.append (.singleton _) fun last isLast first isFirst same => ?_
    cases isFirst
    subst same
    cases isLast.symm.trans (accounts.sounding_iff.mp rfl)
  starts first member := by
    cases calls with
    | nil => cases accounts.sounding_iff.mp rfl
    | cons call rest => exact accounts.starts first member
  sounding_iff := by simp

theorem beeps {was : Bool} (accounts : Accounts calls was) (sounding : Bool) :
    Accounts (calls ++ Console.beeps was sounding) sounding := by
  cases was with
  | false =>
      cases sounding with
      | false => rwa [Console.beeps_self, List.append_nil]
      | true => exact accounts.start
  | true =>
      cases sounding with
      | false => exact accounts.stop
      | true => rwa [Console.beeps_self, List.append_nil]

end BeeperCall.Accounts

namespace Console

/-- A console that was put to use, and the calls its beeper got since. Between frames the
host may set another pace, reset the console, or leave any other machine in it that has a
whole memory. -/
inductive Used : Console → List BeeperCall → Prop
  | insert {cartridge : Cartridge} {random : RandomSource} {console : Console}
      (accepted : insert cartridge random = .ok console) : Used console []
  | pace {console : Console} {calls : List BeeperCall} (cyclesPerFrame : Nat)
      (used : Used console calls) : Used { console with cyclesPerFrame } calls
  | frame {console : Console} {calls : List BeeperCall} (keypad : Keypad)
      (used : Used console calls) :
      Used (console.frame keypad).console (calls ++ (console.frame keypad).beeps)
  | reset {console restarted : Console} {calls : List BeeperCall}
      (used : Used console calls) (accepted : console.reset = .ok restarted) :
      Used restarted calls
  | change {console : Console} {calls : List BeeperCall} (processor : Processor)
      (used : Used console calls)
      (size : processor.machine.memory.size = Layout.memorySize) :
      Used { console with processor } calls

variable {console restarted : Console} {calls : List BeeperCall}

theorem beeping_of_reset (accepted : console.reset = .ok restarted) :
    restarted.beeping = console.beeping := by
  obtain ⟨machine, _, rfl⟩ := reset_eq_ok accepted
  rfl

namespace Used

theorem accounts (used : console.Used calls) : BeeperCall.Accounts calls console.beeping := by
  induction used with
  | insert accepted =>
      obtain ⟨machine, _, rfl⟩ := insert_eq_ok accepted
      exact .nil
  | pace cyclesPerFrame used accounts => exact accounts
  | frame keypad used accounts =>
      rw [frame_beeps]
      exact accounts.beeps _
  | reset used accepted accounts =>
      rwa [beeping_of_reset accepted]
  | change processor used size accounts => exact accounts

theorem cartridge_fits (used : console.Used calls) :
    console.cartridge.data.length ≤ Layout.programCapacity := by
  induction used with
  | insert accepted =>
      obtain ⟨machine, loaded, rfl⟩ := insert_eq_ok accepted
      exact (Machine.loadProgram_eq_ok loaded).1
  | pace cyclesPerFrame used fits => exact fits
  | frame keypad used fits =>
      rename_i console _
      obtain ⟨beeping, after⟩ := console.frame_console keypad
      rw [after]
      exact fits
  | reset used accepted fits =>
      obtain ⟨machine, loaded, rfl⟩ := reset_eq_ok accepted
      exact fits
  | change processor used size fits => exact fits

end Used

theorem beeping_of_succeeded {keypad : Keypad} {operation : Operation}
    (succeeded : (console.frame keypad).outcome = .ok operation) :
    (console.frame keypad).console.beeping = true ↔
      0 < (console.frame keypad).console.processor.machine.clock.sound := by
  rw [frame_beeping, frame_processor]
  cases stopped : (console.ticks keypad).stopped with
  | some fault => cases (frame_eq_error_iff.mpr stopped).symm.trans succeeded
  | none => exact decide_eq_true_iff.trans UInt8.pos_iff_ne_zero.symm

/-- Whatever a host does, the beeper gets starts and stops in turn, a start first, and the
console knows which of the two came last. A frame that fails leaves it alone; after a frame
that succeeds it sounds exactly if there is time left on the sound timer. A reset, which is
never refused, does not touch it. -/
theorem beeper_alternates (used : console.Used calls) :
    calls.IsChain (· ≠ ·) ∧ (∀ first ∈ calls.head?, first = .start) ∧
    (console.beeping = true ↔ calls.getLast? = some .start) ∧
    (∃ restarted, console.reset = .ok restarted ∧ restarted.beeping = console.beeping) ∧
    ∀ keypad,
      (∀ fault, (console.frame keypad).outcome = .error fault →
        (console.frame keypad).beeps = [] ∧
        (console.frame keypad).console.beeping = console.beeping) ∧
      (∀ operation, (console.frame keypad).outcome = .ok operation →
        ((console.frame keypad).console.beeping = true ↔
          0 < (console.frame keypad).console.processor.machine.clock.sound)) := by
  have accounts := used.accounts
  obtain ⟨restarted, accepted⟩ := exists_reset used.cartridge_fits
  exact ⟨accounts.alternates, accounts.starts, accounts.sounding_iff,
    ⟨restarted, accepted, beeping_of_reset accepted⟩, fun keypad =>
      ⟨fun _ failed => (frame_failed failed).2, fun _ => beeping_of_succeeded⟩⟩

/-- Sounds for one count of the timer. -/
def ringing : Console where
  processor := .ofMachine
    { Machine.initial with
      memory := Machine.initial.memory.storeAll Layout.programStart [0x60, 0x01, 0xF0, 0x18] }
    ⟨fun _ => 0, 0⟩
  cartridge := ⟨"RINGING", [0x60, 0x01, 0xF0, 0x18]⟩

theorem insert_ringing :
    insert ringing.cartridge ringing.processor.random = .ok ringing := by
  rw [insert, Machine.loadProgram_initial (by decide)]
  rfl

/-- A return without a call, and no time on the timers. -/
def returning : Processor :=
  .ofMachine
    { Machine.initial with
      memory := Machine.initial.memory.storeAll Layout.programStart [0x00, 0xEE] }
    ⟨fun _ => 0, 0⟩

set_option maxRecDepth 100000 in
theorem ringing_alternates :
    let sounding := (Console.frame { ringing with cyclesPerFrame := 2 } Keypad.released).console
    let stuck := { sounding with processor := returning }
    sounding.Used [.start] ∧ sounding.beeping = true ∧
    (stuck.frame Keypad.released).outcome = .error (.stack .empty) ∧
    (stuck.frame Keypad.released).beeps = [] ∧
    (stuck.frame Keypad.released).console.beeping = true := by
  intro sounding stuck
  have used : Used { ringing with cyclesPerFrame := 2 } [] :=
    (Used.insert insert_ringing).pace 2
  have started : (Console.frame { ringing with cyclesPerFrame := 2 } Keypad.released).beeps =
      [.start] := by decide +kernel
  have sounds : sounding.Used [.start] := by
    have framed := used.frame Keypad.released
    rwa [started] at framed
  have changed : stuck.Used [.start] := sounds.change returning
    ((Memory.size_storeAll _ _ _).trans Machine.size_initial)
  have failed : (stuck.frame Keypad.released).outcome = .error (.stack .empty) :=
    frame_eq_error_iff.mpr (by decide +kernel)
  have silent := ((beeper_alternates changed).2.2.2.2 Keypad.released).1 _ failed
  have flag : sounding.beeping = true := (beeper_alternates sounds).2.2.1.mpr rfl
  exact ⟨sounds, flag, failed, silent.1, silent.2.trans flag⟩

end Console

end ChipEight
