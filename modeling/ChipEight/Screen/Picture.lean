import ChipEight.Screen.Bitmap

namespace ChipEight

/-! The unpacked picture: one colour for each pixel, row after row. -/

structure Picture (Colour : Type) where
  pixels : Array Colour
  deriving DecidableEq

namespace Picture

variable {Colour : Type}

def ofBitmap (bitmap : Bitmap) (off on : Colour) : Picture Colour :=
  ⟨Array.ofFn (n := Layout.screenPixels) fun position =>
    if bitmap.pixel (position % Layout.screenWidth) (position / Layout.screenWidth) then
      on
    else
      off⟩

/-- There are no pixels outside of the screen. -/
def pixel? (picture : Picture Colour) (x y : Nat) : Option Colour :=
  if x < Layout.screenWidth ∧ y < Layout.screenHeight then
    picture.pixels[y * Layout.screenWidth + x]?
  else
    none

def rows (picture : Picture Colour) : List (List Colour) :=
  (List.range Layout.screenHeight).map fun y =>
    (picture.pixels.extract (y * Layout.screenWidth) ((y + 1) * Layout.screenWidth)).toList

@[simp] theorem size_pixels_ofBitmap (bitmap : Bitmap) (off on : Colour) :
    (ofBitmap bitmap off on).pixels.size = Layout.screenPixels := by
  simp [ofBitmap]

theorem pixel?_ofBitmap {Colour : Type} {bitmap : Bitmap} {off on : Colour} {x y : Nat}
    (xInside : x < Layout.screenWidth) (yInside : y < Layout.screenHeight) :
    (ofBitmap bitmap off on).pixel? x y = some (if bitmap.pixel x y then on else off) := by
  have width : 0 < Layout.screenWidth := by decide
  have place : y * Layout.screenWidth + x < Layout.screenPixels :=
    calc y * Layout.screenWidth + x
      _ < y * Layout.screenWidth + Layout.screenWidth := Nat.add_lt_add_left xInside _
      _ = (y + 1) * Layout.screenWidth := (Nat.succ_mul _ _).symm
      _ ≤ Layout.screenHeight * Layout.screenWidth := Nat.mul_le_mul_right _ yInside
      _ = Layout.screenPixels := Nat.mul_comm _ _
  have column : (y * Layout.screenWidth + x) % Layout.screenWidth = x := by
    rw [Nat.mul_comm, Nat.mul_add_mod, Nat.mod_eq_of_lt xInside]
  have row : (y * Layout.screenWidth + x) / Layout.screenWidth = y := by
    rw [Nat.mul_comm, Nat.mul_add_div width, Nat.div_eq_of_lt xInside, Nat.add_zero]
  rw [pixel?, if_pos ⟨xInside, yInside⟩, ofBitmap, Array.getElem?_ofFn, dif_pos place]
  simp only [column, row]

end Picture

end ChipEight
