import ChipEight.Fault
import ChipEight.Layout

namespace ChipEight

/-! The stack of call origins, the newest first. Its bound is part of the type. -/

structure CallStack where
  entries : List UInt16
  bounded : entries.length ≤ Layout.stackCapacity
  deriving DecidableEq

namespace CallStack

def empty : CallStack :=
  ⟨[], Nat.zero_le _⟩

def depth (stack : CallStack) : Nat :=
  stack.entries.length

def push (stack : CallStack) (origin : UInt16) : Except StackFault CallStack :=
  if room : stack.entries.length < Layout.stackCapacity then
    .ok ⟨origin :: stack.entries, room⟩
  else
    .error .full

def pop : CallStack → Except StackFault (UInt16 × CallStack)
  | ⟨[], _⟩ => .error .empty
  | ⟨origin :: rest, bounded⟩ =>
      .ok (origin, ⟨rest, Nat.le_of_succ_le bounded⟩)

/-- The oldest entries that fit, given oldest first. -/
def ofList (origins : List UInt16) : CallStack :=
  ⟨(origins.take Layout.stackCapacity).reverse, by
    rw [List.length_reverse, List.length_take]
    exact Nat.min_le_left _ _⟩

def toList (stack : CallStack) : List UInt16 :=
  stack.entries.reverse

theorem ext_entries {first second : CallStack} (same : first.entries = second.entries) :
    first = second := by
  cases first
  cases second
  cases same
  rfl

@[simp] theorem toList_empty : empty.toList = [] :=
  rfl

theorem length_toList (stack : CallStack) : stack.toList.length = stack.depth :=
  List.length_reverse

theorem toList_push {stack pushed : CallStack} {origin : UInt16}
    (pushed_eq : stack.push origin = .ok pushed) :
    pushed.toList = stack.toList ++ [origin] := by
  unfold push at pushed_eq
  split at pushed_eq
  · cases pushed_eq
    simp [toList]
  · cases pushed_eq

theorem entries_pop {stack rest : CallStack} {origin : UInt16}
    (pop_eq : stack.pop = .ok (origin, rest)) :
    stack.entries = origin :: rest.entries := by
  match stack, pop_eq with
  | ⟨_ :: _, _⟩, rfl => rfl

theorem toList_pop {stack rest : CallStack} {origin : UInt16}
    (pop_eq : stack.pop = .ok (origin, rest)) :
    stack.toList = rest.toList ++ [origin] := by
  simp [toList, entries_pop pop_eq]

end CallStack

end ChipEight
