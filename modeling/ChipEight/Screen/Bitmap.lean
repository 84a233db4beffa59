import ChipEight.Layout

namespace ChipEight

/-! The packed picture: 32 rows of eight bytes, the leftmost pixel of a byte in
its highest bit. -/

abbrev Bitmap := Vector UInt8 256

namespace Bitmap

def blank : Bitmap :=
  Vector.replicate 256 0

def pixel (bitmap : Bitmap) (x y : Nat) : Bool :=
  (bitmap[8 * y + x / 8]?.getD 0).toNat.testBit (7 - x % 8)

end Bitmap

end ChipEight
