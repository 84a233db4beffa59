namespace ChipEight

/-! Sixteen keys, each up or down. -/

structure Keypad where
  down : Vector Bool 16
  deriving DecidableEq

namespace Keypad

def released : Keypad :=
  ⟨Vector.replicate 16 false⟩

def set (keypad : Keypad) (key : Fin 16) (isDown : Bool) : Keypad :=
  ⟨keypad.down.set key isDown⟩

/-- There is no key beyond the sixteenth to set. -/
def set? (keypad : Keypad) (key : Nat) (isDown : Bool) : Option Keypad :=
  if inside : key < 16 then
    some (keypad.set ⟨key, inside⟩ isDown)
  else
    none

def toggle? (keypad : Keypad) (key : Nat) : Option Keypad :=
  if inside : key < 16 then
    some (keypad.set ⟨key, inside⟩ !keypad.down[key])
  else
    none

/-- A key beyond the sixteenth is never down. -/
def isDown (keypad : Keypad) (key : Nat) : Bool :=
  keypad.down[key]?.getD false

def lowestDown? (keypad : Keypad) : Option (Fin 16) :=
  (List.finRange 16).find? fun key => keypad.down[key]

theorem lowestDown?_eq_none_iff {keypad : Keypad} :
    keypad.lowestDown? = none ↔ ∀ key : Fin 16, keypad.down[key] = false := by
  simp [lowestDown?, List.find?_eq_none]

theorem isDown_set (keypad : Keypad) (key : Fin 16) (down : Bool) (other : Nat) :
    (keypad.set key down).isDown other =
      if other = key then down else keypad.isDown other := by
  unfold isDown set
  by_cases same : other = key
  · subst same
    simp
  · simp [same, Ne.symm same]

end Keypad

end ChipEight
