import ChipEight.Console
import ChipEight.Proofs.Definedness
import ChipEight.Proofs.WellFormed

namespace ChipEight

/-! Every state a host can bring about is well formed, and a tick from there stays in the
domain of all its operations. -/

inductive Machine.HostStep (machine : Machine) : Machine → Prop
  | setKey {key : Nat} {isDown : Bool} {keypad : Keypad}
      (accepted : machine.keypad.set? key isDown = some keypad) :
      HostStep machine { machine with keypad }
  | toggleKey {key : Nat} {keypad : Keypad}
      (accepted : machine.keypad.toggle? key = some keypad) :
      HostStep machine { machine with keypad }
  | setKeypad (keypad : Keypad) : HostStep machine { machine with keypad }
  | setShiftMode (shiftsInPlace : Bool) : HostStep machine { machine with shiftsInPlace }
  | loadProgram {program : List UInt8} {loaded : Machine}
      (accepted : machine.loadProgram program = .ok loaded) : HostStep machine loaded
  | refuseProgram {program : List UInt8} {fault : Oversized}
      (refused : machine.loadProgram program = .error fault) : HostStep machine machine
  | loadGlyphs (glyphs : List UInt8) (length : glyphs.length = Layout.glyphs.length) :
      HostStep machine (machine.loadGlyphs glyphs)
  | reset : HostStep machine machine.reset

/-- Ticks, refused or not, and host steps in any order. -/
inductive Processor.Reachable : Processor → Prop
  | start (random : RandomSource) : Reachable (ofMachine Machine.initial random)
  | tick {processor : Processor} (reached : Reachable processor) :
      Reachable (processor.tick Blitter.xor).processor
  | host {processor : Processor} {machine : Machine} (reached : Reachable processor)
      (step : processor.machine.HostStep machine) : Reachable { processor with machine }

inductive Console.Reachable : Console → Prop
  | insert {cartridge : Cartridge} {random : RandomSource} {console : Console}
      (accepted : insert cartridge random = .ok console) (cyclesPerFrame : Nat) :
      Reachable { console with cyclesPerFrame }
  | tick {console : Console} (reached : Reachable console) :
      Reachable
        { console with processor := (console.processor.tick Blitter.xor).processor }
  | host {console : Console} {machine : Machine} (reached : Reachable console)
      (step : console.processor.machine.HostStep machine) :
      Reachable (console.withMachine machine)
  | frame {console : Console} (keypad : Keypad) (reached : Reachable console) :
      Reachable (console.frame keypad).console
  | reset {console restarted : Console} (reached : Reachable console)
      (accepted : console.reset = .ok restarted) : Reachable restarted

namespace Machine

variable {machine after : Machine}

theorem loadProgram_eq_ok {program : List UInt8} {loaded : Machine}
    (accepted : machine.loadProgram program = .ok loaded) :
    program.length ≤ Layout.programCapacity ∧
      ∃ memory, loaded = { machine with memory } ∧ memory.size = machine.memory.size := by
  rcases Nat.lt_or_ge Layout.programCapacity program.length with beyond | fits
  · rw [loadProgram_of_lt beyond] at accepted
    contradiction
  · rw [loadProgram_of_le fits] at accepted
    cases accepted
    exact ⟨fits, _, rfl, Memory.size_storeAll _ _ _⟩

theorem initial_wellFormed : initial.WellFormed where
  size_eq := size_initial
  depth_le := Nat.zero_le _
  origin_le := by simp [initial, loadGlyphs, CallStack.empty]
  counter_le := by decide
  divider_le := by decide

theorem HostStep.wellFormed (step : machine.HostStep after)
    (wellFormed : machine.WellFormed) : after.WellFormed := by
  cases step with
  | setKey accepted => exact { wellFormed with }
  | toggleKey accepted => exact { wellFormed with }
  | setKeypad keypad => exact { wellFormed with }
  | setShiftMode shiftsInPlace => exact { wellFormed with }
  | loadProgram accepted =>
      obtain ⟨_, memory, rfl, size⟩ := loadProgram_eq_ok accepted
      exact { wellFormed with size_eq := size.trans wellFormed.size_eq }
  | refuseProgram refused => exact wellFormed
  | loadGlyphs glyphs length =>
      exact { wellFormed with
        size_eq := (Memory.size_storeAll _ _ _).trans wellFormed.size_eq }
  | reset =>
      have size : machine.reset.memory.size = machine.memory.size := by
        simp only [Machine.reset, Machine.loadGlyphs, Memory.size_storeAll,
          Memory.size_zeros]
      exact { initial_wellFormed with size_eq := size.trans wellFormed.size_eq }

end Machine

namespace Processor.Reachable

variable {processor : Processor}

theorem wellFormed (reached : processor.Reachable) : processor.machine.WellFormed := by
  induction reached with
  | start random => exact Machine.initial_wellFormed
  | tick reached wellFormed => exact tick_wellFormed wellFormed
  | host reached step wellFormed => exact step.wellFormed wellFormed

theorem run (reached : processor.Reachable) (count : Nat) :
    (processor.run Blitter.xor count).processor.Reachable := by
  induction count generalizing processor with
  | zero => exact reached
  | succ count ih =>
      cases outcome : (processor.tick Blitter.xor).outcome with
      | error fault =>
          simp only [Processor.run, outcome]
          exact reached.tick
      | ok operation =>
          simp only [Processor.run, outcome]
          exact ih reached.tick

end Processor.Reachable

namespace Console

variable {console restarted : Console}

theorem insert_eq_ok {cartridge : Cartridge} {random : RandomSource}
    (accepted : insert cartridge random = .ok console) :
    ∃ machine, Machine.initial.loadProgram cartridge.data = .ok machine ∧
      console = { processor := .ofMachine machine random, cartridge } := by
  unfold insert at accepted
  cases loaded : Machine.initial.loadProgram cartridge.data with
  | error fault =>
      rw [loaded] at accepted
      contradiction
  | ok machine =>
      rw [loaded] at accepted
      cases accepted
      exact ⟨machine, rfl, rfl⟩

theorem reset_eq_ok (accepted : console.reset = .ok restarted) :
    ∃ machine,
      console.processor.machine.reset.loadProgram console.cartridge.data = .ok machine ∧
        restarted = console.withMachine machine := by
  unfold reset at accepted
  cases loaded : console.processor.machine.reset.loadProgram console.cartridge.data with
  | error fault =>
      rw [loaded] at accepted
      contradiction
  | ok machine =>
      rw [loaded] at accepted
      cases accepted
      exact ⟨machine, rfl, rfl⟩

theorem exists_reset (fits : console.cartridge.data.length ≤ Layout.programCapacity) :
    ∃ restarted, console.reset = .ok restarted := by
  rw [reset, Machine.loadProgram_of_le fits]
  exact ⟨_, rfl⟩

theorem frame_console (console : Console) (keypad : Keypad) :
    ∃ beeping, (console.frame keypad).console =
      { console with
        processor := (Processor.run Blitter.xor console.cyclesPerFrame
          (console.processor.mapMachine ({ · with keypad }))).processor
        beeping } := by
  unfold frame
  cases stopped : (Processor.run Blitter.xor console.cyclesPerFrame
      (console.processor.mapMachine ({ · with keypad }))).stopped with
  | some fault =>
      simp only [stopped]
      exact ⟨console.beeping, rfl⟩
  | none =>
      simp only [stopped]
      exact ⟨_, rfl⟩

namespace Reachable

/-- Whatever a console can do its processor can do on its own. -/
theorem processor (reached : console.Reachable) : console.processor.Reachable := by
  induction reached with
  | insert accepted cyclesPerFrame =>
      obtain ⟨machine, loaded, rfl⟩ := insert_eq_ok accepted
      exact (Processor.Reachable.start _).host (.loadProgram loaded)
  | tick reached processor => exact processor.tick
  | host reached step processor => exact processor.host step
  | frame keypad reached processor =>
      rename_i console
      obtain ⟨beeping, after⟩ := console.frame_console keypad
      rw [after]
      exact (processor.host (.setKeypad keypad)).run console.cyclesPerFrame
  | reset reached accepted processor =>
      obtain ⟨machine, loaded, rfl⟩ := reset_eq_ok accepted
      exact (processor.host .reset).host (.loadProgram loaded)

theorem cartridge_fits (reached : console.Reachable) :
    console.cartridge.data.length ≤ Layout.programCapacity := by
  induction reached with
  | insert accepted cyclesPerFrame =>
      obtain ⟨machine, loaded, rfl⟩ := insert_eq_ok accepted
      exact (Machine.loadProgram_eq_ok loaded).1
  | tick reached fits => exact fits
  | host reached step fits => exact fits
  | frame keypad reached fits =>
      rename_i console
      obtain ⟨beeping, after⟩ := console.frame_console keypad
      rw [after]
      exact fits
  | reset reached accepted fits =>
      obtain ⟨machine, loaded, rfl⟩ := reset_eq_ok accepted
      exact fits

/-- A cartridge that was accepted once is accepted at every reset. -/
theorem reset_accepted (reached : console.Reachable) :
    ∃ restarted, console.reset = .ok restarted :=
  exists_reset reached.cartridge_fits

end Reachable

end Console

/-- A tick has a result for everything it does, and nothing that is added to the counter,
nor the way back from a call, leaves the sixteen bits. -/
structure Processor.TicksSafely (processor : Processor) : Prop where
  defined : (processor.tick Blitter.xor).defined = true
  next_eq : (Step.next.apply processor.machine.counter).toNat =
    processor.machine.counter.toNat + 2
  skip_eq : (Step.skip.apply processor.machine.counter).toNat =
    processor.machine.counter.toNat + 4
  leave_eq : ∀ origin ∈ processor.machine.stack.entries,
    (Step.next.apply origin).toNat = origin.toNat + 2

theorem Processor.ticksSafely_of_wellFormed {processor : Processor}
    (wellFormed : processor.machine.WellFormed) : processor.TicksSafely where
  defined := by
    apply tick_defined
    unfold Memory.HoldsScreen
    rw [wellFormed.size_eq]
    decide
  next_eq := Step.toNat_apply_next wellFormed.counter_le
  skip_eq := Step.toNat_apply_skip wellFormed.counter_le
  leave_eq origin member := by
    have inside := wellFormed.origin_le origin member
    exact Step.toNat_apply_next (by omega)

theorem reachable_wellFormed {processor : Processor}
    (reached : processor.Reachable ∨
      ∃ console : Console, console.Reachable ∧ console.processor = processor) :
    processor.machine.WellFormed ∧ processor.TicksSafely := by
  have alone : processor.Reachable := by
    rcases reached with alone | ⟨console, reached, rfl⟩
    · exact alone
    · exact reached.processor
  exact ⟨alone.wellFormed, Processor.ticksSafely_of_wellFormed alone.wellFormed⟩

theorem farJump_wellFormed :
    ∃ console : Console,
      Console.insert ⟨"FAR", [0x60, 0xFF, 0xBF, 0xFF]⟩ ⟨fun _ => 0, 0⟩ = .ok console ∧
      (console.frame Keypad.released).console.processor.machine.WellFormed ∧
      (console.frame Keypad.released).console.processor.TicksSafely := by
  obtain ⟨console, accepted⟩ : ∃ console,
      Console.insert ⟨"FAR", [0x60, 0xFF, 0xBF, 0xFF]⟩ ⟨fun _ => 0, 0⟩ = .ok console :=
    ⟨_, rfl⟩
  have inserted : console.Reachable := .insert accepted console.cyclesPerFrame
  exact ⟨console, accepted,
    reachable_wellFormed (.inr ⟨_, inserted.frame Keypad.released, rfl⟩)⟩

end ChipEight
