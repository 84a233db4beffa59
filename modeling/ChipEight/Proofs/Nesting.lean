import ChipEight.Proofs.Control
import ChipEight.Proofs.History
import ChipEight.Proofs.Refusal

namespace ChipEight

/-! Calls and returns nest. A call puts its own address on the stack, and as long as the
stack stays deeper than it was before the call, that address and all below it stay too. -/

theorem Opcode.stack_of_perform {opcode : Opcode} {machine : Machine}
    {random : RandomSource} {effect : Effect}
    (performed : opcode.perform machine random = .ok effect) :
    (opcode.group = 0x2 ∧ opcode ≠ 0x00EE ∧
      effect.machine.stack.entries = machine.counter :: machine.stack.entries) ∨
    (opcode.group ≠ 0x2 ∧ opcode = 0x00EE ∧
      ∃ origin, machine.stack.entries = origin :: effect.machine.stack.entries ∧
        effect.step = .jump (origin + 2)) ∨
    (opcode.group ≠ 0x2 ∧ opcode ≠ 0x00EE ∧
      effect.machine.stack.entries = machine.stack.entries) := by
  have control := (Opcode.perform_controls performed).control_eq
  have call : opcode.group = 0x2 → Instruction.decode? opcode = some (.call opcode.nnn) :=
    fun group => by simp only [Instruction.decode?, group]
  have leave : opcode = 0x00EE → Instruction.decode? opcode = some .leave :=
    fun same => by subst same; rfl
  rw [Opcode.control] at control
  rw [Opcode.perform] at performed
  cases decoded : Instruction.decode? opcode with
  | none =>
      rw [decoded] at control call leave
      simp only [reduceCtorEq, imp_false] at call leave
      exact .inr (.inr ⟨call, leave, congrArg Prod.snd control⟩)
  | some instruction =>
      rw [decoded] at control call leave performed
      cases instruction with
      | call target =>
          obtain rfl := Instruction.encode_of_decode? decoded
          simp only [Option.some.injEq, reduceCtorEq, imp_false] at leave
          exact .inl ⟨Opcode.group_ofAddress _ _, leave, congrArg Prod.snd control⟩
      | leave =>
          obtain rfl := Instruction.encode_of_decode? decoded
          simp only [Option.some.injEq, reduceCtorEq, imp_false] at call
          refine .inr (.inl ⟨call, rfl, ?_⟩)
          cases popped : machine.stack.pop with
          | error cause =>
              simp only [Instruction.perform, popped] at performed
              contradiction
          | ok result =>
              obtain ⟨origin, rest⟩ := result
              simp only [Instruction.perform, popped] at performed
              cases performed
              exact ⟨origin, CallStack.entries_pop popped, rfl⟩
      | _ =>
          simp only [Option.some.injEq, reduceCtorEq, imp_false] at call leave
          exact .inr (.inr ⟨call, leave, congrArg Prod.snd control⟩)

namespace Processor

variable {processor : Processor}

/-- A call succeeds. -/
def Calls (processor : Processor) : Prop :=
  processor.Performs (·.group.val = 0x2)

/-- A return succeeds. -/
def Leaves (processor : Processor) : Prop :=
  processor.Performs (· = 0x00EE)

def origins (processor : Processor) : List UInt16 :=
  processor.machine.stack.entries

def depth (processor : Processor) : Nat :=
  processor.machine.stack.depth

theorem length_origins (processor : Processor) : processor.origins.length = processor.depth :=
  rfl

/-- What a tick, with the keys behind it, does to the stack. -/
inductive StackStep (before after : Processor) : Prop
  | call (calls : before.Calls) (notLeaves : ¬before.Leaves)
      (pushed : after.origins = before.machine.counter :: before.origins)
  | leave (origin : UInt16) (notCalls : ¬before.Calls) (leaves : before.Leaves)
      (popped : before.origins = origin :: after.origins)
      (returned : after.machine.counter = origin + 2)
  | other (notCalls : ¬before.Calls) (notLeaves : ¬before.Leaves)
      (kept : after.origins = before.origins)

theorem tick_stackStep (processor : Processor) (keypad : Keypad) :
    processor.StackStep ((processor.tick Blitter.xor).processor.press keypad) := by
  rcases processor.tick_cases with
    ⟨fault, failed, machine, _⟩ | ⟨opcode, effect, fetched, performed, succeeded, done⟩
  · refine .other (not_performs_of_failed failed) (not_performs_of_failed failed) ?_
    simp only [origins, press, mapMachine, machine]
  · have calls_iff : processor.Calls ↔ opcode.group = 0x2 :=
      (performs_iff fetched succeeded).trans (Fin.ext_iff (b := 0x2)).symm
    have leaves_iff : processor.Leaves ↔ opcode = 0x00EE := performs_iff fetched succeeded
    rw [done]
    rcases Opcode.stack_of_perform performed with
      ⟨group, other, pushed⟩ | ⟨group, same, origin, popped, step⟩ | ⟨group, other, kept⟩
    · refine .call (calls_iff.mpr group) (other ∘ leaves_iff.mp) ?_
      simp only [origins, press, mapMachine, effect.stack_settled, pushed]
    · refine .leave origin (group ∘ calls_iff.mp) (leaves_iff.mpr same) ?_ ?_
      · simp only [origins, press, mapMachine, effect.stack_settled, popped]
      · simp only [press, mapMachine, effect.counter_settled, step]
        rfl
    · refine .other (group ∘ calls_iff.mp) (other ∘ leaves_iff.mp) ?_
      simp only [origins, press, mapMachine, effect.stack_settled, kept]

theorem outcome_of_full {opcode : Opcode} (fetched : processor.machine.fetch = .ok opcode)
    (group : opcode.group = 0x2) (full : processor.depth = 20) :
    (processor.tick Blitter.xor).outcome = .error (.stack .full) := by
  refine tick_eq_error_iff.mpr (.inr ⟨opcode, .call opcode.nnn, fetched, ?_, if_pos full⟩)
  simp only [Instruction.decode?, group]

theorem outcome_of_empty (fetched : processor.machine.fetch = .ok 0x00EE)
    (empty : processor.depth = 0) :
    (processor.tick Blitter.xor).outcome = .error (.stack .empty) :=
  tick_eq_error_iff.mpr (.inr ⟨0x00EE, .leave, fetched, rfl, if_pos empty⟩)

/-- How the depth goes from one moment to the next. -/
structure DepthLaws (before after : Processor) : Prop where
  depth_le : before.depth ≤ 20
  depth_call : before.Calls → after.depth = before.depth + 1
  depth_leave : before.Leaves → before.depth = after.depth + 1
  depth_other : ¬before.Calls → ¬before.Leaves → after.depth = before.depth
  full : ∀ opcode, before.machine.fetch = .ok opcode → opcode.group = 0x2 →
    before.depth = 20 → (before.tick Blitter.xor).outcome = .error (.stack .full)
  empty : before.machine.fetch = .ok 0x00EE → before.depth = 0 →
    (before.tick Blitter.xor).outcome = .error (.stack .empty)

theorem StackStep.depthLaws {before after : Processor} (step : before.StackStep after) :
    DepthLaws before after := by
  have bounded : before.depth ≤ 20 := before.machine.stack.bounded
  have full := fun opcode => @outcome_of_full before opcode
  have empty := @outcome_of_empty before
  cases step with
  | call calls notLeaves pushed =>
      have rises : after.depth = before.depth + 1 := congrArg List.length pushed
      exact ⟨bounded, fun _ => rises, fun leaves => absurd leaves notLeaves,
        fun notCalls => absurd calls notCalls, full, empty⟩
  | leave origin notCalls leaves popped returned =>
      have falls : before.depth = after.depth + 1 := congrArg List.length popped
      exact ⟨bounded, fun calls => absurd calls notCalls, fun _ => falls,
        fun _ notLeaves => absurd leaves notLeaves, full, empty⟩
  | other notCalls notLeaves kept =>
      have stays : after.depth = before.depth := congrArg List.length kept
      exact ⟨bounded, fun calls => absurd calls notCalls,
        fun leaves => absurd leaves notLeaves, fun _ _ => stays, full, empty⟩

variable {start : Processor} {keypads : Nat → Keypad}

theorem history_stackStep (start : Processor) (keypads : Nat → Keypad) (moment : Nat) :
    (start.history keypads moment).StackStep (start.history keypads (moment + 1)) :=
  tick_stackStep _ _

/-- An address stays where it is on the stack, with all below it, while the stack is at
least that deep. -/
theorem frame_kept {before after : Processor} {frame : List UInt16}
    (step : before.StackStep after) (frame_le : frame.length ≤ after.depth)
    (framed : frame <:+ before.origins) : frame <:+ after.origins := by
  cases step with
  | call calls notLeaves pushed =>
      rw [pushed]
      exact framed.trans (List.suffix_cons _ _)
  | leave origin notCalls leaves popped returned =>
      rw [popped] at framed
      rcases List.suffix_cons_iff.mp framed with whole | rest
      · have length := congrArg List.length whole
        rw [List.length_cons, length_origins] at length
        omega
      · exact rest
  | other notCalls notLeaves kept => rwa [kept]

theorem history_frame (calls : start.Calls) {last : Nat}
    (deeper : ∀ moment, 0 < moment → moment ≤ last →
      start.depth < (start.history keypads moment).depth) (moment : Nat) :
    moment + 1 ≤ last →
      start.machine.counter :: start.origins <:+
        (start.history keypads (moment + 1)).origins := by
  induction moment with
  | zero =>
      intro _
      cases history_stackStep start keypads 0 with
      | call _ _ pushed => exact pushed ▸ List.suffix_refl _
      | leave _ notCalls | other notCalls => exact absurd calls notCalls
  | succ moment ih =>
      intro inside
      exact frame_kept (history_stackStep start keypads (moment + 1))
        (deeper (moment + 2) (Nat.succ_pos _) inside) (ih (Nat.le_of_succ_le inside))

/-- The tick that brings the stack back to where it was before a call returns from that
call, and leaves the stack as the call found it. Between the two may lie anything: calls
with their returns, jumps, waits, ticks that fail, and any keys. And at every moment of
any history the depth goes by the laws. -/
theorem history_nests (start : Processor) (keypads : Nat → Keypad) :
    (∀ last, start.Calls →
      (∀ moment, 0 < moment → moment ≤ last →
        start.depth < (start.history keypads moment).depth) →
      (start.history keypads (last + 1)).depth = start.depth →
        (start.history keypads last).Leaves ∧
        (start.history keypads (last + 1)).machine.stack = start.machine.stack ∧
        (start.history keypads (last + 1)).machine.counter = start.machine.counter + 2) ∧
    ∀ moment,
      DepthLaws (start.history keypads moment) (start.history keypads (moment + 1)) := by
  refine ⟨?_, fun moment => (history_stackStep start keypads moment).depthLaws⟩
  intro last calls deeper back
  obtain ⟨moment, rfl⟩ : ∃ moment, last = moment + 1 := by
    refine Nat.exists_eq_add_one_of_ne_zero fun first => ?_
    subst first
    have rises := (history_stackStep start keypads 0).depthLaws.depth_call calls
    exact absurd (back.symm.trans rises) (Nat.ne_of_lt (Nat.lt_succ_self _))
  have framed := history_frame calls deeper moment (Nat.le_refl _)
  have lower := deeper (moment + 1) (Nat.succ_pos _) (Nat.le_refl _)
  cases history_stackStep start keypads (moment + 1) with
  | call calls notLeaves pushed =>
      have length := congrArg List.length pushed
      rw [List.length_cons, length_origins, length_origins] at length
      omega
  | leave origin notCalls leaves popped returned =>
      rw [popped] at framed
      rcases List.suffix_cons_iff.mp framed with whole | rest
      · obtain ⟨same, entries⟩ := List.cons.inj whole
        exact ⟨leaves, (CallStack.ext_entries entries).symm, same ▸ returned⟩
      · have length := rest.length_le
        rw [List.length_cons, length_origins, length_origins] at length
        omega
  | other notCalls notLeaves kept =>
      have length := congrArg List.length kept
      rw [length_origins, length_origins] at length
      omega

/-- A subroutine that calls another one. -/
def nestedCalls : Processor :=
  let program := [0x22, 0x06, 0x12, 0x02, 0x00, 0x00, 0x22, 0x0A, 0x00, 0xEE, 0x00, 0xEE]
  let memory := Machine.initial.memory.storeAll Layout.programStart program
  ofMachine { Machine.initial with memory } ⟨fun _ => 0, 0⟩

set_option maxRecDepth 100000 in
theorem nestedCalls_nest :
    let moments := nestedCalls.history fun _ => Keypad.released
    nestedCalls.Calls ∧
    (∀ moment, 0 < moment → moment ≤ 3 → nestedCalls.depth < (moments moment).depth) ∧
    (moments 4).depth = nestedCalls.depth ∧ (moments 3).Leaves ∧
    (moments 4).machine.stack = CallStack.empty ∧ (moments 4).machine.counter = 0x202 := by
  intro moments
  have depths : (moments 1).depth = 1 ∧ (moments 2).depth = 2 ∧ (moments 3).depth = 1 ∧
      (moments 4).depth = 0 := ⟨rfl, rfl, rfl, rfl⟩
  have calls : nestedCalls.Calls := ⟨0x2206, .advanced, rfl, rfl, rfl⟩
  have deeper : ∀ moment, 0 < moment → moment ≤ 3 →
      nestedCalls.depth < (moments moment).depth
    | 1, _, _ => depths.1.symm ▸ Nat.one_pos
    | 2, _, _ => depths.2.1.symm ▸ Nat.two_pos
    | 3, _, _ => depths.2.2.1.symm ▸ Nat.one_pos
  have back : (moments 4).depth = nestedCalls.depth := depths.2.2.2
  have nests := (history_nests nestedCalls fun _ => Keypad.released).1 3 calls deeper back
  exact ⟨calls, deeper, back, nests⟩

end Processor

end ChipEight
