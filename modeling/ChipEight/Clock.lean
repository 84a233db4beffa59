import ChipEight.Layout
import ChipEight.Trace

namespace ChipEight

/-! Two timers behind a divider. The divider counts down; the tick that finds
it at zero reloads it and takes one from each timer that is not yet zero. -/

structure Clock where
  delay : UInt8
  sound : UInt8
  divider : UInt8
  deriving DecidableEq, Repr

namespace Clock

def initial : Clock :=
  ⟨0, 0, Layout.dividerReload⟩

def countDown (value : UInt8) : UInt8 :=
  if value = 0 then 0 else value - 1

def advance (clock : Clock) : Clock :=
  if clock.divider = 0 then
    ⟨countDown clock.delay, countDown clock.sound, Layout.dividerReload⟩
  else
    { clock with divider := clock.divider - 1 }

/-- A reload reports the timers as they were before it. -/
def advanceRecords (clock : Clock) : List Record :=
  if clock.divider = 0 then [.reloaded clock.delay clock.sound] else []

def advanceBy : Nat → Clock → Clock × List Record
  | 0, clock => (clock, [])
  | count + 1, clock =>
      let (final, records) := clock.advance.advanceBy count
      (final, clock.advanceRecords ++ records)

def isSounding (clock : Clock) : Bool :=
  clock.sound ≠ 0

end Clock

end ChipEight
