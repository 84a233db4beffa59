import ChipEight.Proofs.Drawing
import Mathlib.Data.List.Perm.Basic

namespace ChipEight

/-! Draws one after the other. Each of them flips the pixels under the set bits of its
sprite, and as long as no sprite is read from the screen itself those do not depend on
what was drawn before, so all that is left of a list of draws is how often each pixel
was covered. -/

structure Draw where
  address : UInt16
  x : UInt8
  y : UInt8
  height : UInt8

namespace Draw

def call (draw : Draw) : ScreenCall :=
  .draw draw.address draw.x draw.y draw.height

def left (draw : Draw) : Nat :=
  draw.x.toNat % Layout.screenWidth

def top (draw : Draw) : Nat :=
  draw.y.toNat % Layout.screenHeight

def rowCount (draw : Draw) : Nat :=
  min draw.height.toNat (Layout.screenHeight - draw.top)

def covers (memory : Memory) (draw : Draw) (x y : Nat) : Bool :=
  decide (draw.left ≤ x ∧ x < draw.left + 8) &&
    decide (draw.top ≤ y ∧ y < draw.top + draw.rowCount) &&
      (memory.byte (draw.address.toNat + (y - draw.top))).toNat.testBit
        (7 - (x - draw.left))

def Fits (draw : Draw) (memory : Memory) : Prop :=
  draw.address.toNat + draw.rowCount ≤ memory.size

theorem Fits.of_size_eq {draw : Draw} {first second : Memory} (fits : draw.Fits first)
    (size : second.size = first.size) : draw.Fits second := by
  unfold Fits
  rw [size]
  exact fits

def ReadsBelowScreen (draw : Draw) : Prop :=
  ∀ row < draw.rowCount, draw.address.toNat + row < Layout.screenStart

def SameSprite (draw : Draw) (first second : Memory) : Prop :=
  ∀ row < draw.rowCount,
    first.byte (draw.address.toNat + row) = second.byte (draw.address.toNat + row)

theorem covers_congr {draw : Draw} {first second : Memory}
    (same : draw.SameSprite first second) (x y : Nat) :
    draw.covers first x y = draw.covers second x y := by
  by_cases inside : draw.top ≤ y ∧ y < draw.top + draw.rowCount
  · rw [covers, covers, same (y - draw.top) (by omega)]
  · simp [covers, inside]

theorem covers_slice (draw : Draw) (memory : Memory) (x y : Nat) :
    Stamp.covers ⟨draw.left, draw.top, memory.slice draw.address.toNat draw.rowCount⟩ x y =
      draw.covers memory x y := by
  by_cases below : draw.top ≤ y
  · by_cases inside : y < draw.top + draw.rowCount
    · have row : y - draw.top < draw.rowCount := by omega
      simp [Stamp.covers, covers, below, inside, row, Memory.slice,
        List.getD_eq_getElem?_getD]
    · have beyond : draw.rowCount ≤ y - draw.top := by omega
      simp [Stamp.covers, covers, below, inside, beyond, Memory.slice,
        List.getD_eq_getElem?_getD]
  · simp [Stamp.covers, covers, below]

theorem attempt_refused {draw : Draw} {machine : Machine}
    (beyond : ¬draw.Fits machine.memory) :
    Blitter.xor draw.call machine =
      .error ⟨draw.address.toNat + draw.rowCount - 1, machine.memory.size⟩ := by
  have refused := Blitter.run_draw_refused draw.x { machine }
    (Memory.read_of_lt (Nat.lt_of_not_le beyond))
  simp only [Blitter.attempt, Blitter.xor, call, refused]
  rfl

theorem attempt_performed {draw : Draw} {machine : Machine}
    (fits : draw.Fits machine.memory) (holds : machine.memory.HoldsScreen) :
    ∃ drawn erased, Blitter.xor draw.call machine = .ok drawn ∧
      drawn.memory.size = machine.memory.size ∧
      drawn.register Registers.flag = (if erased then 1 else 0) ∧
      Flipped machine.memory drawn.memory (draw.covers machine.memory) erased := by
  obtain ⟨memory, erased, defined, run, size, flips⟩ :=
    Blitter.run_draw draw.x { machine } (Memory.read_of_le fits)
  refine ⟨{ machine with memory }.setRegister Registers.flag (if erased then 1 else 0),
    erased, ?_, size, ?_, ?_⟩
  · simp only [Blitter.attempt, Blitter.xor, call, run]
  · exact Machine.register_setRegister _ _ _
  · refine (flips holds).2.congr ?_
    intro x _ y _
    exact draw.covers_slice machine.memory x y

end Draw

def oddlyCovered (memory : Memory) (draws : List Draw) (x y : Nat) : Bool :=
  draws.countP (·.covers memory x y) % 2 = 1

@[simp] theorem oddlyCovered_nil (memory : Memory) (x y : Nat) :
    oddlyCovered memory [] x y = false := rfl

theorem oddlyCovered_cons (memory : Memory) (draw : Draw) (draws : List Draw) (x y : Nat) :
    oddlyCovered memory (draw :: draws) x y =
      (draw.covers memory x y ^^ oddlyCovered memory draws x y) := by
  unfold oddlyCovered
  rw [List.countP_cons]
  cases draw.covers memory x y with
  | false => simp
  | true =>
      rcases Nat.mod_two_eq_zero_or_one (draws.countP (·.covers memory x y)) with
        even | odd
      · simp [even, Nat.add_mod]
      · simp [odd, Nat.add_mod]

def Draw.Erases (draw : Draw) (start : Machine) (before : List Draw) : Prop :=
  ∃ x < Layout.screenWidth, ∃ y < Layout.screenHeight,
    draw.covers start.memory x y = true ∧
      (start.bitmap.pixel x y ^^ oddlyCovered start.memory before x y) = true

theorem oddlyCovered_perm {first second : List Draw} (perm : first.Perm second)
    (memory : Memory) (x y : Nat) :
    oddlyCovered memory first x y = oddlyCovered memory second x y := by
  unfold oddlyCovered
  rw [perm.countP_eq]

theorem oddlyCovered_pair (memory : Memory) (draw : Draw) (before between after : List Draw)
    (x y : Nat) :
    oddlyCovered memory (before ++ draw :: between ++ draw :: after) x y =
      oddlyCovered memory (before ++ between ++ after) x y := by
  have perm : (before ++ draw :: between ++ draw :: after).Perm
      (draw :: draw :: (before ++ between ++ after)) := by
    simp only [List.append_assoc, List.cons_append]
    refine List.perm_middle.trans (.cons draw ?_)
    rw [← List.append_assoc, ← List.append_assoc]
    exact List.perm_middle
  rw [oddlyCovered_perm perm, oddlyCovered_cons, oddlyCovered_cons]
  simp

theorem oddlyCovered_congr {first second : Memory} {draws : List Draw}
    (same : ∀ draw ∈ draws, draw.SameSprite first second) (x y : Nat) :
    oddlyCovered first draws x y = oddlyCovered second draws x y := by
  unfold oddlyCovered
  rw [List.countP_congr]
  intro draw member
  rw [Draw.covers_congr (same draw member)]

theorem Memory.byte_eq_of_pixel_eq {first second : Memory} {position : Nat}
    (inside : position < Layout.screenBytes)
    (pixel_eq : ∀ x < Layout.screenWidth, ∀ y < Layout.screenHeight,
      first.bitmap.pixel x y = second.bitmap.pixel x y) :
    first.byte (Layout.screenStart + position) =
      second.byte (Layout.screenStart + position) := by
  apply Bits.eq_of_testBit
  intro i small
  obtain ⟨x, xInside, y, yInside, place, bit⟩ := Bitmap.exists_pixel inside small
  have same := pixel_eq x xInside y yInside
  rw [pixel_bitmap _ xInside yInside, pixel_bitmap _ xInside yInside, place, bit] at same
  exact same

theorem Memory.bitmap_eq_of_pixel_eq {first second : Memory}
    (pixel_eq : ∀ x < Layout.screenWidth, ∀ y < Layout.screenHeight,
      first.bitmap.pixel x y = second.bitmap.pixel x y) :
    first.bitmap = second.bitmap :=
  bitmap_eq_iff.mpr fun _ inside => byte_eq_of_pixel_eq inside pixel_eq

theorem Memory.pixel_withBitmap_blank {memory : Memory} {x y : Nat}
    (holds : memory.HoldsScreen) (xInside : x < Layout.screenWidth)
    (yInside : y < Layout.screenHeight) :
    (memory.withBitmap Bitmap.blank).bitmap.pixel x y = false := by
  have inside := Bitmap.position_lt xInside yInside
  have stored : Layout.screenStart + (8 * y + x / 8) < memory.size :=
    Nat.lt_of_lt_of_le (Nat.add_lt_add_left inside _) holds
  have length : Bitmap.blank.toList.length = Layout.screenBytes := Vector.length_toList
  have dark : Bitmap.blank.toList.getD (8 * y + x / 8) 0 = 0 := by
    rw [List.getD_eq_getElem?_getD, Vector.getElem?_toList, Bitmap.blank,
      Vector.getElem?_replicate, if_pos (show 8 * y + x / 8 < 256 from inside)]
    rfl
  rw [pixel_bitmap _ xInside yInside, withBitmap, byte_storeAll, if_pos (by omega),
    Nat.add_sub_cancel_left, dark]
  exact Nat.zero_testBit _

/-- What a list of draws comes to: every pixel is flipped as often as it is covered. -/
structure Drawn (before : Memory) (draws : List Draw) (after : Memory) : Prop where
  size_eq : after.size = before.size
  byte_eq : ∀ address,
    address < Layout.screenStart ∨ Layout.screenStart + Layout.screenBytes ≤ address →
      after.byte address = before.byte address
  pixel_eq : ∀ x < Layout.screenWidth, ∀ y < Layout.screenHeight,
    after.bitmap.pixel x y =
      (before.bitmap.pixel x y ^^ oddlyCovered before draws x y)

namespace Drawn

variable {before after other : Memory} {draws : List Draw}

theorem refl (memory : Memory) : Drawn memory [] memory where
  size_eq := rfl
  byte_eq _ _ := rfl
  pixel_eq x _ y _ := by simp

theorem sameSprite (drawn : Drawn before draws after) {draw : Draw}
    (below : draw.ReadsBelowScreen) : draw.SameSprite after before :=
  fun row inside => drawn.byte_eq _ (.inl (below row inside))

theorem unique (first : Drawn before draws after) (second : Drawn before draws other) :
    other = after := by
  apply Memory.ext_byte (second.size_eq.trans first.size_eq.symm)
  intro address
  by_cases outside :
      address < Layout.screenStart ∨ Layout.screenStart + Layout.screenBytes ≤ address
  · rw [second.byte_eq address outside, first.byte_eq address outside]
  · obtain ⟨position, rfl⟩ : ∃ position, address = Layout.screenStart + position :=
      ⟨address - Layout.screenStart, by omega⟩
    apply Memory.byte_eq_of_pixel_eq (by omega)
    intro x xInside y yInside
    rw [second.pixel_eq x xInside y yInside, first.pixel_eq x xInside y yInside]

theorem congr {others : List Draw} (drawn : Drawn before draws after)
    (same : ∀ x y, oddlyCovered before draws x y = oddlyCovered before others x y) :
    Drawn before others after where
  size_eq := drawn.size_eq
  byte_eq := drawn.byte_eq
  pixel_eq x xInside y yInside := by
    rw [drawn.pixel_eq x xInside y yInside, same]

theorem cons {middle : Memory} {draw : Draw} {erased : Bool}
    (size : middle.size = before.size)
    (flipped : Flipped before middle (draw.covers before) erased)
    (below : ∀ draw ∈ draws, draw.ReadsBelowScreen) (rest : Drawn middle draws after) :
    Drawn before (draw :: draws) after where
  size_eq := rest.size_eq.trans size
  byte_eq address outside :=
    (rest.byte_eq address outside).trans (flipped.byte_eq address outside)
  pixel_eq x xInside y yInside := by
    have sprites : ∀ draw ∈ draws, draw.SameSprite middle before :=
      fun draw member row inside =>
        flipped.byte_eq _ (.inl (below draw member row inside))
    rw [rest.pixel_eq x xInside y yInside, flipped.pixel_eq x xInside y yInside,
      oddlyCovered_congr sprites, oddlyCovered_cons, Bool.xor_assoc]

end Drawn

namespace Machine

def drawAll (machine : Machine) : List Draw → Except AccessFault Machine
  | [] => .ok machine
  | draw :: draws =>
      match Blitter.xor draw.call machine with
      | .ok drawn => drawn.drawAll draws
      | .error fault => .error fault

variable {start final : Machine} {draws : List Draw}

theorem drawAll_append (before after : List Draw) :
    start.drawAll (before ++ after) =
      match start.drawAll before with
      | .ok middle => middle.drawAll after
      | .error fault => .error fault := by
  induction before generalizing start with
  | nil => rfl
  | cons draw before ih =>
      simp only [List.cons_append, drawAll]
      cases Blitter.xor draw.call start with
      | error fault => rfl
      | ok drawn => exact ih

theorem drawAll_of_fits (holds : start.memory.HoldsScreen)
    (fits : ∀ draw ∈ draws, draw.Fits start.memory)
    (below : ∀ draw ∈ draws, draw.ReadsBelowScreen) :
    ∃ final, start.drawAll draws = .ok final ∧
      Drawn start.memory draws final.memory := by
  induction draws generalizing start with
  | nil => exact ⟨start, rfl, .refl start.memory⟩
  | cons draw draws ih =>
      obtain ⟨drawFits, restFits⟩ := List.forall_mem_cons.mp fits
      obtain ⟨_, restBelow⟩ := List.forall_mem_cons.mp below
      obtain ⟨middle, erased, performed, size, _, flipped⟩ :=
        Draw.attempt_performed drawFits holds
      obtain ⟨final, drawn, rest⟩ := ih (holds.of_size_eq size)
        (fun draw member => (restFits draw member).of_size_eq size) restBelow
      refine ⟨final, ?_, .cons size flipped restBelow rest⟩
      simp only [drawAll, performed, drawn]

theorem fits_of_drawAll (holds : start.memory.HoldsScreen)
    (drawn : start.drawAll draws = .ok final) :
    ∀ draw ∈ draws, draw.Fits start.memory := by
  induction draws generalizing start with
  | nil => simp
  | cons draw draws ih =>
      have fits : draw.Fits start.memory := by
        by_contra beyond
        simp only [drawAll, Draw.attempt_refused beyond] at drawn
        contradiction
      obtain ⟨middle, erased, performed, size, _⟩ := Draw.attempt_performed fits holds
      simp only [drawAll, performed] at drawn
      intro other member
      cases List.mem_cons.mp member with
      | inl same => rwa [same]
      | inr member => exact (ih (holds.of_size_eq size) drawn other member).of_size_eq size.symm

theorem drawn_of_drawAll (holds : start.memory.HoldsScreen)
    (drawn : start.drawAll draws = .ok final)
    (below : ∀ draw ∈ draws, draw.ReadsBelowScreen) :
    Drawn start.memory draws final.memory := by
  obtain ⟨other, otherDrawn, parity⟩ :=
    drawAll_of_fits holds (fits_of_drawAll holds drawn) below
  rw [drawn] at otherDrawn
  cases otherDrawn
  exact parity

theorem drawAll_same_memory {others : List Draw} (holds : start.memory.HoldsScreen)
    (drawn : start.drawAll draws = .ok final)
    (below : ∀ draw ∈ draws, draw.ReadsBelowScreen) (subset : others ⊆ draws)
    (same : ∀ x y,
      oddlyCovered start.memory others x y = oddlyCovered start.memory draws x y) :
    ∃ other, start.drawAll others = .ok other ∧ other.memory = final.memory := by
  have fits := fits_of_drawAll holds drawn
  obtain ⟨other, otherDrawn, parity⟩ := drawAll_of_fits holds
    (fun draw member => fits draw (subset member))
    (fun draw member => below draw (subset member))
  exact ⟨other, otherDrawn, (drawn_of_drawAll holds drawn below).unique (parity.congr same)⟩

theorem clear_of_holds (holds : start.memory.HoldsScreen) :
    ∃ blank, Blitter.xor .clear start = .ok blank ∧
      blank.memory.size = start.memory.size ∧
      (∀ address < Layout.screenStart,
        blank.memory.byte address = start.memory.byte address) ∧
      ∀ x < Layout.screenWidth, ∀ y < Layout.screenHeight,
        blank.bitmap.pixel x y = false := by
  refine ⟨_, Blitter.attempt_clear start, ?_, ?_, ?_⟩
  · simp only [Memory.size_withBitmap]
  · intro address below
    simp only [Memory.byte_withBitmap below]
  · intro x xInside y yInside
    simp only [bitmap, Memory.pixel_withBitmap_blank holds xInside yInside]

def drawAllOnBlank (machine : Machine) (draws : List Draw) : Except AccessFault Machine :=
  match Blitter.xor .clear machine with
  | .ok blank => blank.drawAll draws
  | .error fault => .error fault

theorem drawAllOnBlank_of_fits (holds : start.memory.HoldsScreen)
    (fits : ∀ draw ∈ draws, draw.Fits start.memory)
    (below : ∀ draw ∈ draws, draw.ReadsBelowScreen) :
    ∃ final, start.drawAllOnBlank draws = .ok final ∧
      ∀ x < Layout.screenWidth, ∀ y < Layout.screenHeight,
        final.bitmap.pixel x y = oddlyCovered start.memory draws x y := by
  obtain ⟨blank, cleared, size, byte_eq, pixel_eq⟩ := clear_of_holds holds
  obtain ⟨final, drawn, parity⟩ := drawAll_of_fits (holds.of_size_eq size)
    (fun draw member => (fits draw member).of_size_eq size) below
  have sprites : ∀ draw ∈ draws, draw.SameSprite blank.memory start.memory :=
    fun draw member row inside => byte_eq _ (below draw member row inside)
  refine ⟨final, ?_, fun x xInside y yInside => ?_⟩
  · simp only [drawAllOnBlank, cleared, drawn]
  · have dark : blank.memory.bitmap.pixel x y = false := pixel_eq x xInside y yInside
    rw [bitmap, parity.pixel_eq x xInside y yInside, dark, Bool.false_xor,
      oddlyCovered_congr sprites]

theorem flag_of_drawAll {before after : List Draw} {draw : Draw}
    (holds : start.memory.HoldsScreen)
    (drawn : start.drawAll (before ++ draw :: after) = .ok final)
    (below : ∀ other ∈ before ++ draw :: after, other.ReadsBelowScreen) :
    ∃ middle next, start.drawAll before = .ok middle ∧
      Blitter.xor draw.call middle = .ok next ∧ next.drawAll after = .ok final ∧
      (next.register Registers.flag = 1 ↔ draw.Erases start before) ∧
      (next.register Registers.flag = 0 ↔ ¬draw.Erases start before) := by
  have fits := fits_of_drawAll holds drawn
  obtain ⟨beforeFits, drawFits, _⟩ := List.forall_mem_append.mp fits |>.imp_right
    List.forall_mem_cons.mp
  obtain ⟨beforeBelow, drawBelow, _⟩ := List.forall_mem_append.mp below |>.imp_right
    List.forall_mem_cons.mp
  obtain ⟨middle, beforeDrawn, parity⟩ := drawAll_of_fits holds beforeFits beforeBelow
  obtain ⟨next, erased, performed, _, flag, flipped⟩ := Draw.attempt_performed
    (drawFits.of_size_eq parity.size_eq) (holds.of_size_eq parity.size_eq)
  simp only [drawAll_append, beforeDrawn, drawAll, performed] at drawn
  have covers (x y : Nat) : draw.covers middle.memory x y = draw.covers start.memory x y :=
    Draw.covers_congr (parity.sameSprite drawBelow) x y
  have erases : erased = true ↔ draw.Erases start before := by
    rw [flipped.erased_iff]
    constructor
    · rintro ⟨x, xInside, y, yInside, covered, lit⟩
      exact ⟨x, xInside, y, yInside, covers x y ▸ covered,
        parity.pixel_eq x xInside y yInside ▸ lit⟩
    · rintro ⟨x, xInside, y, yInside, covered, lit⟩
      exact ⟨x, xInside, y, yInside, (covers x y).trans covered,
        (parity.pixel_eq x xInside y yInside).trans lit⟩
  refine ⟨middle, next, beforeDrawn, performed, drawn, ?_⟩
  rw [flag, ← erases]
  cases erased <;> decide

end Machine

/-- The laws of a list of draws that ends in a machine. -/
structure ParityLaws (start : Machine) (draws : List Draw) (final : Machine) : Prop where
  pixel_eq : ∀ x < Layout.screenWidth, ∀ y < Layout.screenHeight,
    final.bitmap.pixel x y =
      (start.bitmap.pixel x y ^^ oddlyCovered start.memory draws x y)
  permuted : ∀ others : List Draw, others.Perm draws →
    ∃ other, start.drawAll others = .ok other ∧ other.memory = final.memory
  pair_removed : ∀ draw before between after,
    draws = before ++ draw :: between ++ draw :: after →
      ∃ other, start.drawAll (before ++ between ++ after) = .ok other ∧
        other.memory = final.memory
  /-- On a cleared screen only the draws and the sprites they read matter. -/
  cleared_eq : ∀ otherStart : Machine,
    otherStart.memory.size = Layout.memorySize →
    (∀ draw ∈ draws, draw.SameSprite start.memory otherStart.memory) →
      ∃ first second, start.drawAllOnBlank draws = .ok first ∧
        otherStart.drawAllOnBlank draws = .ok second ∧ first.bitmap = second.bitmap
  flag_eq : ∀ before draw after, draws = before ++ draw :: after →
    ∃ middle next, start.drawAll before = .ok middle ∧
      Blitter.xor draw.call middle = .ok next ∧ next.drawAll after = .ok final ∧
      (next.register Registers.flag = 1 ↔ draw.Erases start before) ∧
      (next.register Registers.flag = 0 ↔ ¬draw.Erases start before)

theorem Machine.drawAll_parityLaws {start final : Machine} {draws : List Draw}
    (size : start.memory.size = Layout.memorySize)
    (drawn : start.drawAll draws = .ok final)
    (below : ∀ draw ∈ draws, draw.ReadsBelowScreen) : ParityLaws start draws final := by
  have holds (machine : Machine) (size : machine.memory.size = Layout.memorySize) :
      machine.memory.HoldsScreen := by
    unfold Memory.HoldsScreen
    rw [size]
    decide
  have fits := fits_of_drawAll (holds start size) drawn
  exact {
    pixel_eq := (drawn_of_drawAll (holds start size) drawn below).pixel_eq
    permuted := by
      intro others perm
      exact drawAll_same_memory (holds start size) drawn below perm.subset
        (oddlyCovered_perm perm start.memory)
    pair_removed := by
      intro draw before between after split
      subst split
      refine drawAll_same_memory (holds start size) drawn below ?_ fun x y =>
        (oddlyCovered_pair start.memory draw before between after x y).symm
      intro other member
      simp only [List.mem_append, List.mem_cons] at member ⊢
      tauto
    cleared_eq := by
      intro otherStart otherSize sprites
      obtain ⟨first, firstDrawn, firstPixel⟩ :=
        drawAllOnBlank_of_fits (holds start size) fits below
      obtain ⟨second, secondDrawn, secondPixel⟩ :=
        drawAllOnBlank_of_fits (holds otherStart otherSize)
          (fun draw member => (fits draw member).of_size_eq (otherSize.trans size.symm))
          below
      refine ⟨first, second, firstDrawn, secondDrawn, Memory.bitmap_eq_of_pixel_eq ?_⟩
      intro x xInside y yInside
      calc first.bitmap.pixel x y
          = oddlyCovered start.memory draws x y := firstPixel x xInside y yInside
        _ = oddlyCovered otherStart.memory draws x y := oddlyCovered_congr sprites x y
        _ = second.bitmap.pixel x y := (secondPixel x xInside y yInside).symm
    flag_eq := by
      intro before draw after split
      subst split
      exact flag_of_drawAll (holds start size) drawn below }

/-- The glyph of zero twice, and the glyph of one over the right edge in between. -/
def glyphDraws : List Draw :=
  [⟨0, 0, 0, 5⟩, ⟨5, 62, 33, 5⟩, ⟨0, 0, 0, 5⟩]

theorem glyphDraws_parityLaws :
    ∃ final, Machine.initial.drawAll glyphDraws = .ok final ∧
      ParityLaws Machine.initial glyphDraws final := by
  have size := Machine.size_initial
  have below : ∀ draw ∈ glyphDraws, draw.ReadsBelowScreen := by
    unfold Draw.ReadsBelowScreen
    decide
  have fits : ∀ draw ∈ glyphDraws, draw.Fits Machine.initial.memory := by
    unfold Draw.Fits
    rw [size]
    decide
  have holds : Machine.initial.memory.HoldsScreen := by
    unfold Memory.HoldsScreen
    rw [size]
    decide
  obtain ⟨final, drawn, _⟩ := Machine.drawAll_of_fits holds fits below
  exact ⟨final, drawn, Machine.drawAll_parityLaws size drawn below⟩

end ChipEight
