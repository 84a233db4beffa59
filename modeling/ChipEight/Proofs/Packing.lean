import ChipEight.Proofs.Bits
import ChipEight.Screen.Picture
import Mathlib.Data.Nat.Init
import Mathlib.Logic.ExistsUnique

namespace ChipEight

/-! The picture and the bytes it is unpacked from. Pixel number `place` is bit
`7 - place % 8` of byte `place / 8`, and every statement about columns, rows or bytes is read
off that. With two different colours nothing is lost: the pixels pack into the bytes again,
and every grid of the two colours is some bitmap unpacked. -/

namespace Bits

/-- The byte with these bits, the lowest one first. -/
def toByte (bits : Fin 8 → Bool) : UInt8 :=
  UInt8.ofNat (Nat.ofBits bits)

theorem testBit_toByte (bits : Fin 8 → Bool) {i : Nat} (inside : i < 8) :
    (toByte bits).toNat.testBit i = bits ⟨i, inside⟩ := by
  have small : Nat.ofBits bits < 2 ^ 8 := Nat.ofBits_lt_two_pow bits
  rw [toByte, UInt8.toNat_ofNat', Nat.mod_eq_of_lt small, Nat.testBit_ofBits_lt _ _ inside]

end Bits

namespace Picture

variable {Colour : Type}

/-- Eight pixels to a byte, the leftmost in the highest bit. -/
def pack [DecidableEq Colour] (picture : Picture Colour) (on : Colour) : Bitmap :=
  Vector.ofFn fun position => Bits.toByte fun bit =>
    decide (picture.pixels[8 * position.val + (7 - bit.val)]? = some on)

/-- The pixels of a grid, row after row. -/
def ofGrid (grid : Fin 32 → Fin 64 → Colour) : Picture Colour :=
  ⟨Array.ofFn fun place : Fin 2048 =>
    grid ⟨place / 64, by omega⟩ ⟨place % 64, Nat.mod_lt _ (by decide)⟩⟩

/-- A whole screen in two colours. -/
structure TwoColoured (picture : Picture Colour) (off on : Colour) : Prop where
  size_eq : picture.pixels.size = 2048
  colour_eq : ∀ colour ∈ picture.pixels, colour = off ∨ colour = on

/-- What a picture shows of a bitmap, through each of the ways to look at it. -/
structure Unpacks (picture : Picture Colour) (bitmap : Bitmap) (off on : Colour) : Prop where
  size_eq : picture.pixels.size = 2048
  pixel_eq : ∀ (x : Fin 64) (y : Fin 32), picture.pixel? x y =
    some (if (bitmap.get ⟨8 * y + x / 8, by omega⟩).toNat.testBit (7 - x % 8) then on else off)
  lit_iff : off ≠ on → ∀ (x : Fin 64) (y : Fin 32), picture.pixel? x y = some on ↔
    (bitmap.get ⟨8 * y + x / 8, by omega⟩).toNat.testBit (7 - x % 8) = true
  pixel_none_iff : ∀ x y, picture.pixel? x y = none ↔ 64 ≤ x ∨ 32 ≤ y
  place_eq : ∀ (x : Fin 64) (y : Fin 32),
    picture.pixels[64 * y.val + x.val]? = picture.pixel? x y
  rows_length : picture.rows.length = 32
  row_eq : ∀ y : Fin 32, ∃ row, picture.rows[y.val]? = some row ∧ row.length = 64 ∧
    ∀ x : Fin 64, row[x.val]? = picture.pixel? x y

section Reading

variable {picture : Picture Colour} {x y : Nat}

theorem pixel?_of_lt (xInside : x < 64) (yInside : y < 32) :
    picture.pixel? x y = picture.pixels[64 * y + x]? := by
  rw [pixel?, if_pos ⟨xInside, yInside⟩, Layout.screenWidth, Nat.mul_comm]

theorem pixel?_eq_none_iff (size : picture.pixels.size = 2048) :
    picture.pixel? x y = none ↔ 64 ≤ x ∨ 32 ≤ y := by
  by_cases inside : x < 64 ∧ y < 32
  · rw [pixel?_of_lt inside.1 inside.2, Array.getElem?_eq_none_iff, size]
    omega
  · have outside : ¬(x < Layout.screenWidth ∧ y < Layout.screenHeight) := inside
    rw [pixel?, if_neg outside]
    simp only [true_iff]
    omega

@[simp] theorem length_rows : picture.rows.length = 32 := by
  simp [rows, Layout.screenHeight]

theorem getElem?_rows (yInside : y < 32) :
    picture.rows[y]? = some (picture.pixels.extract (64 * y) (64 * y + 64)).toList := by
  have inside : y < Layout.screenHeight := yInside
  have start : y * Layout.screenWidth = 64 * y := Nat.mul_comm _ _
  have stop : (y + 1) * Layout.screenWidth = 64 * y + 64 := by
    rw [Nat.succ_mul, start]
    rfl
  rw [rows, List.getElem?_map, List.getElem?_range inside, Option.map_some, start, stop]

theorem length_row (size : picture.pixels.size = 2048) (yInside : y < 32) :
    (picture.pixels.extract (64 * y) (64 * y + 64)).toList.length = 64 := by
  rw [Array.length_toList, Array.size_extract, size]
  omega

theorem getElem?_row (size : picture.pixels.size = 2048) (xInside : x < 64)
    (yInside : y < 32) :
    (picture.pixels.extract (64 * y) (64 * y + 64)).toList[x]? = picture.pixel? x y := by
  rw [Array.getElem?_toList, Array.getElem?_extract, if_pos (by omega),
    pixel?_of_lt xInside yInside]

/-- Two whole screens are the same if they have the same pixels. -/
theorem ext_pixel? {other : Picture Colour} (size : picture.pixels.size = 2048)
    (otherSize : other.pixels.size = 2048)
    (same : ∀ x < 64, ∀ y < 32, picture.pixel? x y = other.pixel? x y) : picture = other := by
  have pixels : picture.pixels = other.pixels := by
    apply Array.ext_getElem?
    intro place
    by_cases inside : place < 2048
    · have column : place % 64 < 64 := Nat.mod_lt _ (by decide)
      have row : place / 64 < 32 := by omega
      have pixel := same _ column _ row
      rw [pixel?_of_lt column row, pixel?_of_lt column row, Nat.div_add_mod] at pixel
      exact pixel
    · rw [Array.getElem?_eq_none (by omega), Array.getElem?_eq_none (by omega)]
  cases picture
  cases other
  exact congrArg _ pixels

end Reading

section Unpacking

variable {bitmap : Bitmap} {off on : Colour} {place : Nat}

theorem getElem?_ofBitmap (inside : place < 2048) :
    (ofBitmap bitmap off on).pixels[place]? =
      some (if (bitmap.get ⟨place / 8, by omega⟩).toNat.testBit (7 - place % 8) then on
        else off) := by
  have pixels : place < Layout.screenPixels := inside
  have position : 8 * (place / 64) + place % 64 / 8 = place / 8 := by omega
  have bit : 7 - place % 64 % 8 = 7 - place % 8 := by omega
  have byte : (bitmap[place / 8]?).getD 0 = bitmap.get ⟨place / 8, by omega⟩ := by
    rw [Vector.getElem?_eq_getElem (by omega), Option.getD_some]
    rfl
  rw [ofBitmap, Array.getElem?_ofFn, dif_pos pixels]
  simp only [Bitmap.pixel, Layout.screenWidth, position, bit, byte]

theorem pixel?_ofBitmap_get (bitmap : Bitmap) (off on : Colour) (x : Fin 64) (y : Fin 32) :
    (ofBitmap bitmap off on).pixel? x y =
      some (if (bitmap.get ⟨8 * y + x / 8, by omega⟩).toNat.testBit (7 - x % 8) then on
        else off) := by
  have position : (64 * y.val + x.val) / 8 = 8 * y.val + x.val / 8 := by omega
  have bit : 7 - (64 * y.val + x.val) % 8 = 7 - x.val % 8 := by omega
  rw [pixel?_of_lt x.isLt y.isLt, getElem?_ofBitmap (by omega)]
  simp only [position, bit]

theorem unpacks_ofBitmap (bitmap : Bitmap) (off on : Colour) :
    (ofBitmap bitmap off on).Unpacks bitmap off on := by
  have size : (ofBitmap bitmap off on).pixels.size = 2048 := size_pixels_ofBitmap _ _ _
  constructor
  case size_eq => exact size
  case pixel_eq => exact pixel?_ofBitmap_get bitmap off on
  case lit_iff =>
    intro different x y
    rw [pixel?_ofBitmap_get, Option.some.injEq]
    simp [different]
  case pixel_none_iff =>
    intro x y
    exact pixel?_eq_none_iff size
  case place_eq =>
    intro x y
    exact (pixel?_of_lt x.isLt y.isLt).symm
  case rows_length => exact length_rows
  case row_eq =>
    intro y
    exact ⟨_, getElem?_rows y.isLt, length_row size y.isLt, fun x =>
      getElem?_row size x.isLt y.isLt⟩

end Unpacking

section Packing

variable [DecidableEq Colour] {off on : Colour}

theorem testBit_pack (picture : Picture Colour) (on : Colour) {position bit : Nat}
    (inside : position < 256) (small : bit < 8) :
    ((picture.pack on).get ⟨position, inside⟩).toNat.testBit bit =
      decide (picture.pixels[8 * position + (7 - bit)]? = some on) := by
  have byte : (picture.pack on).get ⟨position, inside⟩ = Bits.toByte fun bit =>
      decide (picture.pixels[8 * position + (7 - bit.val)]? = some on) :=
    Vector.getElem_ofFn _
  rw [byte, Bits.testBit_toByte _ small]

theorem pack_ofBitmap (different : off ≠ on) (bitmap : Bitmap) :
    (ofBitmap bitmap off on).pack on = bitmap := by
  apply Vector.ext
  intro position inside
  apply Bits.eq_of_testBit
  intro bit small
  have byte : (8 * position + (7 - bit)) / 8 = position := by omega
  have back : 7 - (8 * position + (7 - bit)) % 8 = bit := by omega
  have packed := testBit_pack (ofBitmap bitmap off on) on inside small
  rw [getElem?_ofBitmap (by omega)] at packed
  simp only [byte, back] at packed
  refine packed.trans ?_
  change _ = (bitmap.get ⟨position, inside⟩).toNat.testBit bit
  cases (bitmap.get ⟨position, inside⟩).toNat.testBit bit with
  | false => simp [different]
  | true => simp

theorem ofBitmap_pack {picture : Picture Colour} (coloured : picture.TwoColoured off on) :
    ofBitmap (picture.pack on) off on = picture := by
  have size : (ofBitmap (picture.pack on) off on).pixels.size = 2048 :=
    size_pixels_ofBitmap _ _ _
  apply ext_pixel? size coloured.size_eq
  intro x xInside y yInside
  rw [pixel?_of_lt xInside yInside, pixel?_of_lt xInside yInside,
    getElem?_ofBitmap (by omega), testBit_pack _ _ _ (by omega)]
  have place : 8 * ((64 * y + x) / 8) + (7 - (7 - (64 * y + x) % 8)) = 64 * y + x := by omega
  have inside : 64 * y + x < picture.pixels.size := by
    rw [coloured.size_eq]
    omega
  rw [place, Array.getElem?_eq_getElem inside]
  rcases coloured.colour_eq _ (Array.getElem_mem inside) with unlit | lit
  · rw [unlit]
    simp only [Option.some.injEq, decide_eq_true_eq, ite_eq_right_iff]
    exact Eq.symm
  · simp [lit]

theorem existsUnique_ofBitmap (different : off ≠ on) {picture : Picture Colour}
    (coloured : picture.TwoColoured off on) :
    ∃! bitmap, ofBitmap bitmap off on = picture := by
  refine ⟨picture.pack on, ofBitmap_pack coloured, ?_⟩
  intro bitmap same
  rw [← same, pack_ofBitmap different]

end Packing

section Grids

variable {grid : Fin 32 → Fin 64 → Colour} {off on : Colour}

@[simp] theorem size_pixels_ofGrid (grid : Fin 32 → Fin 64 → Colour) :
    (ofGrid grid).pixels.size = 2048 := by
  simp [ofGrid]

theorem getElem?_ofGrid (grid : Fin 32 → Fin 64 → Colour) {place : Nat}
    (inside : place < 2048) :
    (ofGrid grid).pixels[place]? =
      some (grid ⟨place / 64, by omega⟩ ⟨place % 64, Nat.mod_lt _ (by decide)⟩) := by
  rw [ofGrid, Array.getElem?_ofFn, dif_pos inside]

theorem pixel?_ofGrid (grid : Fin 32 → Fin 64 → Colour) (x : Fin 64) (y : Fin 32) :
    (ofGrid grid).pixel? x y = some (grid y x) := by
  have row : (64 * y.val + x.val) / 64 = y.val := by omega
  have column : (64 * y.val + x.val) % 64 = x.val := by omega
  rw [pixel?_of_lt x.isLt y.isLt, getElem?_ofGrid grid (by omega)]
  simp only [row, column]

theorem twoColoured_ofGrid (colours : ∀ y x, grid y x = off ∨ grid y x = on) :
    (ofGrid grid).TwoColoured off on where
  size_eq := size_pixels_ofGrid grid
  colour_eq := by
    intro colour among
    obtain ⟨place, found⟩ := Array.getElem?_of_mem among
    obtain ⟨inside, _⟩ := Array.getElem?_eq_some_iff.mp found
    rw [size_pixels_ofGrid] at inside
    rw [getElem?_ofGrid grid inside, Option.some.injEq] at found
    exact found ▸ colours _ _

theorem eq_ofGrid_iff {picture : Picture Colour} (size : picture.pixels.size = 2048) :
    picture = ofGrid grid ↔
      ∀ (y : Fin 32) (x : Fin 64), picture.pixel? x y = some (grid y x) := by
  constructor
  · rintro rfl y x
    exact pixel?_ofGrid grid x y
  · intro pixels
    apply ext_pixel? size (size_pixels_ofGrid grid)
    intro x xInside y yInside
    exact (pixels ⟨y, yInside⟩ ⟨x, xInside⟩).trans
      (pixel?_ofGrid grid ⟨x, xInside⟩ ⟨y, yInside⟩).symm

end Grids

/-- A picture shows its bitmap, whatever the two colours are; if they differ, the bitmaps
and the grids of the two colours correspond to each other one to one. -/
theorem bitmaps_match_grids {Colour : Type} [DecidableEq Colour] (off on : Colour) :
    (∀ bitmap, (ofBitmap bitmap off on).Unpacks bitmap off on) ∧
      (off ≠ on →
        (∀ bitmap, (ofBitmap bitmap off on).pack on = bitmap) ∧
        ∀ grid : Fin 32 → Fin 64 → Colour, (∀ y x, grid y x = off ∨ grid y x = on) →
          ∃! bitmap, ∀ (y : Fin 32) (x : Fin 64),
            (ofBitmap bitmap off on).pixel? x y = some (grid y x)) := by
  refine ⟨fun bitmap => unpacks_ofBitmap bitmap off on, fun different =>
    ⟨pack_ofBitmap different, ?_⟩⟩
  intro grid colours
  obtain ⟨bitmap, same, only⟩ := existsUnique_ofBitmap different (twoColoured_ofGrid colours)
  have shown_iff (bitmap : Bitmap) : ofBitmap bitmap off on = ofGrid grid ↔
      ∀ (y : Fin 32) (x : Fin 64),
        (ofBitmap bitmap off on).pixel? x y = some (grid y x) :=
    eq_ofGrid_iff (size_pixels_ofBitmap _ _ _)
  exact ⟨bitmap, (shown_iff bitmap).mp same, fun other shown =>
    only other ((shown_iff other).mpr shown)⟩

/-- Only the fourth pixel of the sixth row is lit. -/
def lonePixel (y : Fin 32) (x : Fin 64) : Char :=
  if y.val = 5 ∧ x.val = 3 then '#' else '.'

theorem lonePixel_unpacked :
    '.' ≠ '#' ∧ (∀ y x, lonePixel y x = '.' ∨ lonePixel y x = '#') ∧
      (ofBitmap (Bitmap.blank.set 40 0x10) '.' '#').pixel? 3 5 = some '#' ∧
      (ofBitmap (Bitmap.blank.set 40 0x10) '.' '#').pack '#' = Bitmap.blank.set 40 0x10 ∧
      ∃! bitmap, ∀ (y : Fin 32) (x : Fin 64),
        (ofBitmap bitmap '.' '#').pixel? x y = some (lonePixel y x) := by
  have different : '.' ≠ '#' := by decide
  have colours : ∀ y x, lonePixel y x = '.' ∨ lonePixel y x = '#' := by
    intro y x
    rw [lonePixel]
    split
    · exact .inr rfl
    · exact .inl rfl
  obtain ⟨unpacks, oneToOne⟩ := bitmaps_match_grids '.' '#'
  obtain ⟨packs, only⟩ := oneToOne different
  exact ⟨different, colours,
    ((unpacks (Bitmap.blank.set 40 0x10)).lit_iff different ⟨3, by decide⟩ ⟨5, by decide⟩).mpr
      (by decide),
    packs _, only lonePixel colours⟩

end Picture

end ChipEight
