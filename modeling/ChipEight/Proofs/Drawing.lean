import ChipEight.Proofs.Bits
import ChipEight.Screen.Blitter

namespace ChipEight

/-! Drawing, pixel by pixel. The bytes of the screen are flipped one at a time;
`Work.Flips` says what that does to the pixels, and it is preserved from byte to row
to stamp because no two of them share a pixel. -/

def Memory.HoldsScreen (memory : Memory) : Prop :=
  Layout.screenStart + Layout.screenBytes ≤ memory.size

theorem Memory.HoldsScreen.of_size_eq {first second : Memory} (holds : first.HoldsScreen)
    (size : second.size = first.size) : second.HoldsScreen := by
  unfold HoldsScreen
  rw [size]
  exact holds

theorem Bitmap.position_lt {x y : Nat} (xInside : x < Layout.screenWidth)
    (yInside : y < Layout.screenHeight) : 8 * y + x / 8 < Layout.screenBytes := by
  simp only [Layout.screenBytes, Layout.screenRowBytes, Layout.screenWidth,
    Layout.screenHeight] at *
  omega

theorem Bitmap.exists_pixel {position i : Nat} (inside : position < Layout.screenBytes)
    (small : i < 8) :
    ∃ x < Layout.screenWidth, ∃ y < Layout.screenHeight,
      8 * y + x / 8 = position ∧ 7 - x % 8 = i := by
  simp only [Layout.screenBytes, Layout.screenRowBytes, Layout.screenWidth,
    Layout.screenHeight] at *
  refine ⟨8 * (position % 8) + (7 - i), ?_, position / 8, ?_, ?_, ?_⟩
  · omega
  · omega
  · omega
  · omega

theorem Memory.pixel_bitmap (memory : Memory) {x y : Nat} (xInside : x < Layout.screenWidth)
    (yInside : y < Layout.screenHeight) :
    memory.bitmap.pixel x y =
      (memory.byte (Layout.screenStart + (8 * y + x / 8))).toNat.testBit (7 - x % 8) := by
  have inside : 8 * y + x / 8 < 256 := Bitmap.position_lt xInside yInside
  simp [Bitmap.pixel, Memory.bitmap, inside]

/-- One memory comes out of another by flipping the covered pixels. -/
structure Flipped (before after : Memory) (covered : Nat → Nat → Bool)
    (erased : Bool) : Prop where
  byte_eq : ∀ address,
    address < Layout.screenStart ∨ Layout.screenStart + Layout.screenBytes ≤ address →
      after.byte address = before.byte address
  pixel_eq : ∀ x < Layout.screenWidth, ∀ y < Layout.screenHeight,
    after.bitmap.pixel x y = (before.bitmap.pixel x y ^^ covered x y)
  erased_iff : erased = true ↔
    ∃ x < Layout.screenWidth, ∃ y < Layout.screenHeight,
      covered x y = true ∧ before.bitmap.pixel x y = true

namespace Flipped

theorem refl (memory : Memory) : Flipped memory memory (fun _ _ => false) false where
  byte_eq _ _ := rfl
  pixel_eq x _ y _ := by simp
  erased_iff := by simp

theorem trans {start middle final : Memory} {first second : Nat → Nat → Bool}
    {erasedFirst erasedSecond : Bool} (before : Flipped start middle first erasedFirst)
    (after : Flipped middle final second erasedSecond)
    (apart : ∀ x y, first x y = true → second x y = false) :
    Flipped start final (fun x y => first x y || second x y) (erasedFirst || erasedSecond)
    where
  byte_eq address outside :=
    (after.byte_eq address outside).trans (before.byte_eq address outside)
  pixel_eq x xInside y yInside := by
    rw [after.pixel_eq x xInside y yInside, before.pixel_eq x xInside y yInside]
    cases covered : first x y with
    | false => simp
    | true => simp [apart x y covered]
  erased_iff := by
    rw [Bool.or_eq_true, before.erased_iff, after.erased_iff]
    constructor
    · rintro (⟨x, xInside, y, yInside, covered, lit⟩ | ⟨x, xInside, y, yInside, covered, lit⟩)
      · exact ⟨x, xInside, y, yInside, by simp [covered], lit⟩
      · refine ⟨x, xInside, y, yInside, by simp [covered], ?_⟩
        have clear : first x y = false := by
          cases both : first x y with
          | false => rfl
          | true => rw [apart x y both] at covered; contradiction
        simpa [before.pixel_eq x xInside y yInside, clear] using lit
    · rintro ⟨x, xInside, y, yInside, covered, lit⟩
      cases h : first x y with
      | true => exact .inl ⟨x, xInside, y, yInside, h, lit⟩
      | false =>
          refine .inr ⟨x, xInside, y, yInside, by simpa [h] using covered, ?_⟩
          rw [before.pixel_eq x xInside y yInside, lit, h]
          rfl

theorem congr {before after : Memory} {first second : Nat → Nat → Bool} {erased : Bool}
    (flipped : Flipped before after first erased)
    (same : ∀ x < Layout.screenWidth, ∀ y < Layout.screenHeight, first x y = second x y) :
    Flipped before after second erased where
  byte_eq := flipped.byte_eq
  pixel_eq x xInside y yInside := by
    rw [flipped.pixel_eq x xInside y yInside, same x xInside y yInside]
  erased_iff := by
    rw [flipped.erased_iff]
    constructor
    · rintro ⟨x, xInside, y, yInside, covered, lit⟩
      exact ⟨x, xInside, y, yInside, same x xInside y yInside ▸ covered, lit⟩
    · rintro ⟨x, xInside, y, yInside, covered, lit⟩
      exact ⟨x, xInside, y, yInside, (same x xInside y yInside).symm ▸ covered, lit⟩

end Flipped

/-- Work that writes to memory alone. With the whole screen in memory it stays inside of
its domain, flips the covered pixels and tells whether one of them was lit. -/
def Work.Flips {Cause : Type} (work : Work Cause Bool) (covered : Nat → Nat → Bool) :
    Prop :=
  ∀ bench, ∃ memory erased defined,
    work.run bench = .ok erased ⟨{ bench.machine with memory }, defined⟩ ∧
      memory.size = bench.machine.memory.size ∧
      (bench.machine.memory.HoldsScreen →
        defined = bench.defined ∧ Flipped bench.machine.memory memory covered erased)

namespace Work.Flips

variable {Cause : Type} {first second : Work Cause Bool}
  {coveredFirst coveredSecond : Nat → Nat → Bool}

theorem both (flipsFirst : first.Flips coveredFirst)
    (flipsSecond : second.Flips coveredSecond)
    (apart : ∀ x y, coveredFirst x y = true → coveredSecond x y = false) :
    Work.Flips (do
        let erased ← first
        let erasedBeside ← second
        return erased || erasedBeside)
      (fun x y => coveredFirst x y || coveredSecond x y) := by
  intro bench
  obtain ⟨middle, erased, defined, firstRun, middleSize, firstHolds⟩ := flipsFirst bench
  obtain ⟨memory, erasedBeside, definedBeside, secondRun, size, secondHolds⟩ :=
    flipsSecond ⟨{ bench.machine with memory := middle }, defined⟩
  refine ⟨memory, erased || erasedBeside, definedBeside, ?_, size.trans middleSize, ?_⟩
  · simp only [EStateM.run_bind, EStateM.run_pure, firstRun, secondRun]
  · intro holds
    obtain ⟨definedEq, flipped⟩ := firstHolds holds
    obtain ⟨definedBesideEq, flippedBeside⟩ := secondHolds (holds.of_size_eq middleSize)
    exact ⟨definedBesideEq.trans definedEq, flipped.trans flippedBeside apart⟩

theorem congr (flips : first.Flips coveredFirst)
    (same : ∀ x < Layout.screenWidth, ∀ y < Layout.screenHeight,
      coveredFirst x y = coveredSecond x y) :
    first.Flips coveredSecond := by
  intro bench
  obtain ⟨memory, erased, defined, run, size, holds⟩ := flips bench
  exact ⟨memory, erased, defined, run, size, fun screen =>
    ⟨(holds screen).1, (holds screen).2.congr same⟩⟩

theorem nothing : Work.Flips (pure false : Work Cause Bool) fun _ _ => false := by
  intro bench
  exact ⟨bench.machine.memory, false, bench.defined, rfl, rfl, fun _ =>
    ⟨rfl, .refl bench.machine.memory⟩⟩

theorem demanding {condition : Prop} [Decidable condition] (met : condition)
    (flips : first.Flips coveredFirst) :
    Work.Flips (do demand condition; first) coveredFirst := by
  intro bench
  have start : ({ bench with defined := bench.defined && decide condition } : Bench) =
      bench := by
    simp [met]
  simp only [EStateM.run_bind, run_demand, start]
  exact flips bench

end Work.Flips

def Bitmap.byteCovers (position : Nat) (bits : UInt8) (x y : Nat) : Bool :=
  8 * y + x / 8 = position && bits.toNat.testBit (7 - x % 8)

theorem Work.flips_flip {Cause : Type} {position : Nat} (inside : position < Layout.screenBytes)
    (bits : UInt8) :
    Work.Flips (flip (Layout.screenStart + position) bits : Work Cause Bool)
      (Bitmap.byteCovers position bits) := by
  intro bench
  refine ⟨_, _, _, run_flip _ _ _, Memory.size_store _ _ _, fun holds => ?_⟩
  have stored : Layout.screenStart + position < bench.machine.memory.size :=
    Nat.lt_of_lt_of_le (Nat.add_lt_add_left inside _) holds
  refine ⟨by simp [stored], ?_, ?_, ?_⟩
  · intro address outside
    rw [Memory.byte_store, if_neg]
    omega
  · intro x xInside y yInside
    rw [Memory.pixel_bitmap _ xInside yInside, Memory.pixel_bitmap _ xInside yInside,
      Memory.byte_store]
    by_cases same : 8 * y + x / 8 = position
    · rw [if_pos ⟨by rw [same], stored⟩]
      simp [Bitmap.byteCovers, same]
    · rw [if_neg (by omega)]
      simp [Bitmap.byteCovers, same]
  · rw [Bits.flip_erases_iff]
    constructor
    · rintro ⟨i, small, set, lit⟩
      obtain ⟨x, xInside, y, yInside, place, bit⟩ := Bitmap.exists_pixel inside small
      refine ⟨x, xInside, y, yInside, ?_, ?_⟩
      · simp only [Bitmap.byteCovers, place, bit, set, decide_true, Bool.and_self]
      · rw [Memory.pixel_bitmap _ xInside yInside, place, bit]
        exact lit
    · rintro ⟨x, xInside, y, yInside, covered, lit⟩
      rw [Memory.pixel_bitmap _ xInside yInside] at lit
      simp only [Bitmap.byteCovers, Bool.and_eq_true, decide_eq_true_eq] at covered
      obtain ⟨place, set⟩ := covered
      rw [place] at lit
      exact ⟨7 - x % 8, by omega, set, lit⟩

namespace Stamp

theorem covers_nil (x top : Nat) (column y : Nat) :
    covers ⟨x, top, []⟩ column y = false := by
  simp [covers]

theorem covers_row {x top : Nat} {row : UInt8} {column y : Nat} :
    covers ⟨x, top, [row]⟩ column y = true ↔
      y = top ∧ x ≤ column ∧ column < x + 8 ∧
        row.toNat.testBit (7 - (column - x)) = true := by
  by_cases same : y = top
  · subst same
    simp [covers, and_assoc]
  · by_cases above : top ≤ y
    · have beyond : ([row] : List UInt8)[y - top]? = none := by
        rw [List.getElem?_eq_none_iff, List.length_singleton]
        omega
      simp [covers, same, List.getD_eq_getElem?_getD, beyond]
    · simp [covers, same, above]

theorem covers_cons (x top : Nat) (row : UInt8) (rows : List UInt8) (column y : Nat) :
    covers ⟨x, top, row :: rows⟩ column y =
      (covers ⟨x, top, [row]⟩ column y || covers ⟨x, top + 1, rows⟩ column y) := by
  rcases Nat.lt_trichotomy y top with above | same | below
  · simp [covers, Nat.not_le_of_lt above, show ¬top + 1 ≤ y by omega]
  · subst same
    have ahead : ¬y + 1 ≤ y := by omega
    simp [covers, ahead]
  · obtain ⟨depth, rfl⟩ : ∃ depth, y = top + 1 + depth := ⟨y - (top + 1), by omega⟩
    have first : top + 1 + depth - top = depth + 1 := by omega
    have rest : top + 1 + depth - (top + 1) = depth := by omega
    simp [covers, first, rest, show top ≤ top + 1 + depth by omega]

theorem covers_below {x top : Nat} {rows : List UInt8} {column y : Nat}
    (covered : covers ⟨x, top, rows⟩ column y = true) : top ≤ y := by
  simp only [covers, Bool.and_eq_true, decide_eq_true_eq] at covered
  exact covered.1.2

/-- A row of a stamp lies in the byte it starts in and, if it does not start with that
byte, in the one beside, unless that belongs to the next row of the screen. -/
theorem covers_row_eq {x top column : Nat} (row : UInt8) (y : Nat)
    (xInside : x < Layout.screenWidth) (columnInside : column < Layout.screenWidth) :
    covers ⟨x, top, [row]⟩ column y =
      (Bitmap.byteCovers (8 * top + x / 8) (row >>> UInt8.ofNat (x % 8)) column y ||
        (decide (x % 8 ≠ 0 ∧ x < Blitter.splitLimit) &&
          Bitmap.byteCovers (8 * top + x / 8 + 1) (row <<< UInt8.ofNat (8 - x % 8))
            column y)) := by
  simp only [Layout.screenWidth] at xInside columnInside
  rw [Bool.eq_iff_iff, covers_row]
  simp only [Bitmap.byteCovers, Bool.or_eq_true, Bool.and_eq_true, decide_eq_true_eq,
    Bits.testBit_shiftRight row (Nat.mod_lt x (by decide))]
  have limit : Blitter.splitLimit = 56 := rfl
  rw [limit]
  constructor
  · rintro ⟨rfl, behind, near, set⟩
    by_cases same : column / 8 = x / 8
    · left
      have bit : x % 8 + (7 - column % 8) = 7 - (column - x) := by omega
      exact ⟨by omega, bit ▸ set⟩
    · right
      have shift : 8 - x % 8 < 8 := by omega
      have bit : 7 - column % 8 - (8 - x % 8) = 7 - (column - x) := by omega
      rw [Bits.testBit_shiftLeft row shift, bit, set]
      refine ⟨⟨by omega, by omega⟩, by omega, ?_⟩
      simp only [Bool.and_true, Bool.and_eq_true, decide_eq_true_eq]
      omega
  · rintro (⟨place, set⟩ | ⟨⟨split, left⟩, place, set⟩)
    · have small : x % 8 + (7 - column % 8) < 8 := by
        by_contra beyond
        rw [Bits.testBit_eq_false (Nat.le_of_not_lt beyond)] at set
        contradiction
      have bit : x % 8 + (7 - column % 8) = 7 - (column - x) := by omega
      exact ⟨by omega, by omega, by omega, bit ▸ set⟩
    · have shift : 8 - x % 8 < 8 := by omega
      rw [Bits.testBit_shiftLeft row shift] at set
      simp only [Bool.and_eq_true, decide_eq_true_eq] at set
      obtain ⟨_, reached, set⟩ := set
      have bit : 7 - column % 8 - (8 - x % 8) = 7 - (column - x) := by omega
      exact ⟨by omega, by omega, by omega, bit ▸ set⟩

end Stamp

namespace Blitter

variable {Cause : Type}

theorem flips_flipRight {position shift : Nat} (inside : position < Layout.screenBytes)
    (small : shift < 8) (row : UInt8) :
    Work.Flips (flipRight (Layout.screenStart + position) row shift : Work Cause Bool)
      (Bitmap.byteCovers position (row >>> UInt8.ofNat shift)) :=
  Work.Flips.demanding small (Work.flips_flip inside _)

theorem flips_flipLeft {position shift : Nat} (inside : position < Layout.screenBytes)
    (small : shift < 8) (row : UInt8) :
    Work.Flips (flipLeft (Layout.screenStart + position) row shift : Work Cause Bool)
      (Bitmap.byteCovers position (row <<< UInt8.ofNat shift)) :=
  Work.Flips.demanding small (Work.flips_flip inside _)

theorem flips_flipRow {x top : Nat} (row : UInt8) (xInside : x < Layout.screenWidth)
    (topInside : top < Layout.screenHeight) :
    Work.Flips
      (flipRow x (Layout.screenStart + (8 * top + x / 8)) row : Work Cause Bool)
      (Stamp.covers ⟨x, top, [row]⟩) := by
  simp only [Layout.screenWidth, Layout.screenHeight] at xInside topInside
  have first : Work.Flips
      (flipRight (Layout.screenStart + (8 * top + x / 8)) row (x % 8) : Work Cause Bool) _ :=
    flips_flipRight (Bitmap.position_lt xInside topInside) (Nat.mod_lt x (by decide)) row
  by_cases split : x % 8 ≠ 0 ∧ x < splitLimit
  · have left : x < 56 := split.2
    have second : Work.Flips
        (flipLeft (Layout.screenStart + (8 * top + x / 8 + 1)) row (8 - x % 8) :
          Work Cause Bool) _ :=
      flips_flipLeft (show 8 * top + x / 8 + 1 < 256 by omega) (by omega) row
    simp only [flipRow, if_pos split]
    refine (first.both second ?_).congr ?_
    · intro column y covered
      simp only [Bitmap.byteCovers, Bool.and_eq_true, decide_eq_true_eq] at covered
      simp [Bitmap.byteCovers, covered.1]
    · intro column columnInside y _
      rw [Stamp.covers_row_eq row y xInside columnInside, decide_eq_true split, Bool.true_and]
  · simp only [flipRow, if_neg split, bind_pure]
    refine first.congr ?_
    intro column columnInside y _
    rw [Stamp.covers_row_eq row y xInside columnInside, decide_eq_false split,
      Bool.false_and, Bool.or_false]

theorem flips_flipRows {x : Nat} (xInside : x < Layout.screenWidth) (rows : List UInt8) :
    ∀ top, top + rows.length ≤ Layout.screenHeight →
      Work.Flips
        (flipRows x (Layout.screenStart + (8 * top + x / 8)) rows : Work Cause Bool)
        (Stamp.covers ⟨x, top, rows⟩) := by
  induction rows with
  | nil =>
      intro top fits
      refine Work.Flips.nothing.congr ?_
      intro column _ y _
      exact (Stamp.covers_nil x top column y).symm
  | cons row rows ih =>
      intro top fits
      simp only [List.length_cons] at fits
      have below := ih (top + 1) (by omega)
      have start : Layout.screenStart + (8 * top + x / 8) + Layout.screenRowBytes =
          Layout.screenStart + (8 * (top + 1) + x / 8) := by
        simp only [Layout.screenRowBytes, Layout.screenWidth]
        omega
      simp only [flipRows, start]
      refine ((flips_flipRow row xInside (by omega)).both below ?_).congr ?_
      · intro column y covered
        cases clear : Stamp.covers ⟨x, top + 1, rows⟩ column y with
        | false => rfl
        | true =>
            have lower := Stamp.covers_below clear
            have same := (Stamp.covers_row.mp covered).1
            omega
      · intro column _ y _
        exact (Stamp.covers_cons x top row rows column y).symm

theorem attempt_clear (machine : Machine) :
    attempt xor .clear machine =
      .ok { machine with memory := machine.memory.withBitmap Bitmap.blank } := rfl

theorem run_readStamp (address : UInt16) (x y height : UInt8) (bench : Bench) :
    (readStamp address x y height).run bench =
      match bench.machine.memory.read address.toNat (Stamp.visibleRows y height) with
      | .ok rows => .ok ⟨Stamp.wrapX x, Stamp.wrapY y, rows⟩ bench
      | .error fault => .error fault bench := by
  have fits := Stamp.wrapY_add_visibleRows_le y height
  have topInside : Stamp.wrapY y ≤ Layout.screenHeight := by omega
  have rowsInside : Stamp.visibleRows y height ≤ Layout.screenHeight := by omega
  simp only [readStamp, EStateM.run_bind, Work.run_demand, Work.run_readRange, topInside,
    rowsInside, decide_true, Bool.and_true]
  rcases Nat.lt_or_ge bench.machine.memory.size
      (address.toNat + Stamp.visibleRows y height) with beyond | inside
  · simp only [Memory.read_of_lt beyond]
  · simp only [Memory.read_of_le inside, Memory.length_slice, decide_true, Bool.and_true]
    rfl

theorem run_draw_refused {address : UInt16} {y height : UInt8} {fault : AccessFault}
    (x : UInt8) (bench : Bench)
    (refused : bench.machine.memory.read address.toNat (Stamp.visibleRows y height) =
      .error fault) :
    (draw address x y height).run bench = .error fault bench := by
  simp only [draw, EStateM.run_bind, run_readStamp, refused]

theorem run_draw {address : UInt16} {y height : UInt8} {rows : List UInt8} (x : UInt8)
    (bench : Bench)
    (read : bench.machine.memory.read address.toNat (Stamp.visibleRows y height) =
      .ok rows) :
    ∃ memory erased defined,
      (draw address x y height).run bench =
        .ok ()
          ⟨{ bench.machine with memory }.setRegister Registers.flag
            (if erased then 1 else 0), defined⟩ ∧
      memory.size = bench.machine.memory.size ∧
      (bench.machine.memory.HoldsScreen →
        defined = bench.defined ∧
          Flipped bench.machine.memory memory
            (Stamp.covers ⟨Stamp.wrapX x, Stamp.wrapY y, rows⟩) erased) := by
  have length : rows.length = Stamp.visibleRows y height := by
    rw [(Memory.read_eq_ok read).2, Memory.length_slice]
  have fits := Stamp.wrapY_add_visibleRows_le y height
  have flips : Work.Flips (flipRows (Stamp.wrapX x) _ rows : Work AccessFault Bool) _ :=
    flips_flipRows (Stamp.wrapX_lt x) rows (Stamp.wrapY y) (by omega)
  obtain ⟨memory, erased, defined, run, size, holds⟩ := flips bench
  refine ⟨memory, erased, defined, ?_, size, holds⟩
  have start :
      Layout.screenStart + Stamp.wrapX x / 8 + Stamp.wrapY y * Layout.screenRowBytes =
      Layout.screenStart + (8 * Stamp.wrapY y + Stamp.wrapX x / 8) := by
    simp only [Layout.screenRowBytes, Layout.screenWidth]
    omega
  simp only [draw, EStateM.run_bind, run_readStamp, read, start, run, Work.run_change]

end Blitter

end ChipEight
