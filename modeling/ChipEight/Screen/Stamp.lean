import ChipEight.Screen.Bitmap

namespace ChipEight

/-! A sprite placed on the screen. Its corner is wrapped around onto the screen; the
rows below the bottom edge are not read, and what lies beyond the right edge is
dropped. -/

structure Stamp where
  x : Nat
  y : Nat
  rows : List UInt8

namespace Stamp

def wrapX (x : UInt8) : Nat :=
  x.toNat % Layout.screenWidth

def wrapY (y : UInt8) : Nat :=
  y.toNat % Layout.screenHeight

def visibleRows (y height : UInt8) : Nat :=
  min height.toNat (Layout.screenHeight - wrapY y)

theorem wrapX_lt (x : UInt8) : wrapX x < Layout.screenWidth :=
  Nat.mod_lt _ (by decide)

theorem wrapY_lt (y : UInt8) : wrapY y < Layout.screenHeight :=
  Nat.mod_lt _ (by decide)

theorem wrapY_add_visibleRows_le (y height : UInt8) :
    wrapY y + visibleRows y height ≤ Layout.screenHeight := by
  have := wrapY_lt y
  unfold visibleRows
  omega

def covers (stamp : Stamp) (x y : Nat) : Bool :=
  stamp.x ≤ x && x < stamp.x + 8 && stamp.y ≤ y &&
    (stamp.rows.getD (y - stamp.y) 0).toNat.testBit (7 - (x - stamp.x))

end Stamp

end ChipEight
