import Mathlib.Data.List.Chain
import ChipEight.Proofs.Rows

namespace ChipEight

/-! Which rows a memory is listed in. They follow each other without a gap. A row holds either
one stretch that is not all zeros, or zeros only and as many whole stretches of them as stand
together. No other rows are like that. -/

namespace MemoryRow

def IsZeros : MemoryRow → Prop
  | .words .. => False
  | .zeros .. => True

/-- Two rows that would not be joined. -/
def Apart (row next : MemoryRow) : Prop :=
  ¬ (row.IsZeros ∧ next.IsZeros)

variable {start stop : Nat} {row : MemoryRow} {rows before behind : List MemoryRow}

theorem Cover.le (cover : Cover start rows stop) : start ≤ stop := by
  induction rows generalizing start with
  | nil => exact Nat.le_of_eq cover
  | cons row rows ih =>
      obtain ⟨begins, ordered, rest⟩ := cover
      exact Nat.le_trans ordered (Nat.le_of_succ_le (ih rest))

theorem Cover.eq_nil_iff (cover : Cover start rows stop) : rows = [] ↔ start = stop := by
  cases rows with
  | nil => exact iff_of_true rfl cover
  | cons row rows =>
      obtain ⟨begins, ordered, rest⟩ := cover
      have bounded := rest.le
      exact iff_of_false (List.cons_ne_nil row rows) (by omega)

theorem cover_append :
    Cover start (before ++ behind) stop ↔
      ∃ middle, Cover start before middle ∧ Cover middle behind stop := by
  induction before generalizing start with
  | nil => simp only [List.nil_append, Cover, exists_eq_left']
  | cons row before ih =>
      simp only [List.cons_append, Cover, ih, and_assoc, exists_and_left]

theorem Cover.exists_row {address : Nat} (cover : Cover start rows stop)
    (reached : start ≤ address) (inside : address < stop) :
    ∃ before row behind, rows = before ++ row :: behind ∧
      row.first ≤ address ∧ address ≤ row.last := by
  induction rows generalizing start with
  | nil =>
      simp only [Cover] at cover
      omega
  | cons row rows ih =>
      obtain ⟨begins, ordered, rest⟩ := cover
      by_cases here : address ≤ row.last
      · exact ⟨[], row, rows, rfl, begins ▸ reached, here⟩
      · obtain ⟨before, found, behind, rfl, holds⟩ := ih rest (Nat.lt_of_not_le here)
        exact ⟨row :: before, found, behind, rfl, holds⟩

theorem isChain_join (apart : rows.IsChain Apart) : (row.join rows).IsChain Apart := by
  fun_cases join row rows with
  | case1 first last next final rest =>
      obtain ⟨nearest, others⟩ := List.isChain_cons.mp apart
      exact List.isChain_cons.mpr ⟨nearest, others⟩
  | case2 row rows different =>
      refine List.isChain_cons.mpr ⟨fun next member both => ?_, apart⟩
      obtain ⟨rest, rfl⟩ := List.head?_eq_some_iff.mp member
      cases row with
      | words => exact both.1
      | zeros first last =>
          cases next with
          | words => exact both.2
          | zeros next final => exact different first last next final rest rfl rfl

end MemoryRow

namespace Memory

/-- One stretch of the memory in which something is not zero, its bytes shown in pairs with the
high one first and a zero behind an odd one at the end. -/
structure ShowsWords (memory : Memory) (first last : Nat) (values : List UInt16) : Prop where
  aligned : 16 ∣ first
  ends : last + 1 = min (first + 16) memory.size
  nonzero : ∃ address, first ≤ address ∧ address ≤ last ∧ memory.byte address ≠ 0
  halves_eq : values.flatMap MemoryRow.halves =
    memory.slice first (last + 1 - first) ++ List.replicate ((last + 1 - first) % 2) 0

structure ShowsZeros (memory : Memory) (first last : Nat) : Prop where
  aligned : 16 ∣ first
  ends : 16 ∣ last + 1 ∨ last + 1 = memory.size
  zero : ∀ address, first ≤ address → address ≤ last → memory.byte address = 0

def Shows (memory : Memory) : MemoryRow → Prop
  | .words first last values => memory.ShowsWords first last values
  | .zeros first last => memory.ShowsZeros first last

/-- What the rows of a memory have to be. -/
structure ListedBy (memory : Memory) (rows : List MemoryRow) : Prop where
  cover : MemoryRow.Cover 0 rows memory.size
  shows : ∀ row ∈ rows, memory.Shows row
  apart : rows.IsChain MemoryRow.Apart

/-- The stretch that a row of its own would have, if it is there and all zeros. -/
def ZeroStretch (memory : Memory) (stretch : Nat) : Prop :=
  16 * stretch < memory.size ∧ ∀ offset < 16, memory.byte (16 * stretch + offset) = 0

instance (memory : Memory) (stretch : Nat) : Decidable (memory.ZeroStretch stretch) :=
  inferInstanceAs (Decidable (_ ∧ _))

/-- A longest run of stretches of zeros, by its first and its last one. -/
structure ZeroRun (memory : Memory) (first last : Nat) : Prop where
  ordered : first ≤ last
  zero : ∀ stretch, first ≤ stretch → stretch ≤ last → memory.ZeroStretch stretch
  begins : ∀ stretch, stretch + 1 = first → ¬ memory.ZeroStretch stretch
  ends : ¬ memory.ZeroStretch (last + 1)

variable {memory : Memory} {start stop : Nat} {row : MemoryRow} {rows : List MemoryRow}

theorem shows_ofBytes {first count : Nat} (aligned : 16 ∣ first) (some : 0 < count)
    (ends : first + count = min (first + 16) memory.size) :
    memory.Shows (MemoryRow.ofBytes first (memory.slice first count)) := by
  have last : first + count - 1 + 1 = first + count := by omega
  rw [MemoryRow.ofBytes, length_slice]
  split
  case isTrue zeros =>
    simp only [List.all_eq_true, decide_eq_true_eq] at zeros
    refine ⟨aligned, by omega, fun address reached inside => ?_⟩
    exact zeros _ (mem_slice.mpr ⟨address, reached, by omega, rfl⟩)
  case isFalse nonzero =>
    simp only [List.all_eq_true, decide_eq_true_eq, not_forall, exists_prop] at nonzero
    obtain ⟨value, member, nonzero⟩ := nonzero
    obtain ⟨address, reached, inside, rfl⟩ := mem_slice.mp member
    refine ⟨aligned, last.trans ends, ⟨address, reached, by omega, nonzero⟩, ?_⟩
    rw [MemoryRow.flatMap_halves_pairs, length_slice, last, Nat.add_sub_cancel_left]

theorem shows_join (cover : MemoryRow.Cover start (row :: rows) stop)
    (shows : ∀ each ∈ row :: rows, memory.Shows each) :
    ∀ each ∈ row.join rows, memory.Shows each := by
  fun_cases MemoryRow.join row rows with
  | case1 first last next final rest =>
      obtain ⟨ahead, behind⟩ := List.forall_mem_cons.mp shows
      obtain ⟨second, others⟩ := List.forall_mem_cons.mp behind
      obtain ⟨_, _, follows, _, _⟩ := cover
      simp only [MemoryRow.first, MemoryRow.last] at follows
      refine List.forall_mem_cons.mpr ⟨⟨ahead.aligned, second.ends, ?_⟩, others⟩
      intro address reached inside
      rcases Nat.lt_or_ge last address with later | earlier
      · exact second.zero address (by omega) inside
      · exact ahead.zero address reached earlier
  | case2 => exact shows

theorem shows_cut :
    ∀ row ∈ Listing.cut bytesPerRow memory.bytes.toList MemoryRow.ofBytes,
      memory.Shows row := by
  intro row member
  obtain ⟨⟨first, count⟩, stretch, rfl⟩ := List.mem_map.mp member
  obtain ⟨some, inside⟩ := Listing.inside_of_mem_stretches (by decide) stretch
  simp only [Listing.stretches, List.mem_map, Prod.mk.injEq, length_bytes] at stretch inside
  obtain ⟨position, _, rfl, rfl⟩ := stretch
  simp only
  rw [← slice_eq_take_drop inside]
  apply shows_ofBytes (Nat.dvd_mul_left 16 position) some
  simp only [bytesPerRow] at some inside ⊢
  omega

/-- Joining rows of zeros leaves rows that show the memory and are not to be joined further. -/
theorem shows_foldr_join (cover : MemoryRow.Cover start rows stop)
    (shows : ∀ row ∈ rows, memory.Shows row) :
    (∀ row ∈ rows.foldr MemoryRow.join [], memory.Shows row) ∧
      (rows.foldr MemoryRow.join []).IsChain MemoryRow.Apart := by
  induction rows generalizing start with
  | nil => exact ⟨shows, List.isChain_nil⟩
  | cons row rows ih =>
      obtain ⟨begins, ordered, rest⟩ := cover
      obtain ⟨first, others⟩ := List.forall_mem_cons.mp shows
      obtain ⟨joined, apart⟩ := ih rest others
      exact ⟨shows_join ⟨begins, ordered, (MemoryRow.cover_foldr_join rest).1⟩
        (List.forall_mem_cons.mpr ⟨first, joined⟩), MemoryRow.isChain_join apart⟩

theorem listedBy_rows (memory : Memory) : memory.ListedBy memory.rows := by
  have wide : 0 < bytesPerRow := by decide
  have cover := MemoryRow.cover_cut wide memory.bytes.toList 0
  simp only [Nat.zero_add] at cover
  obtain ⟨shows, apart⟩ := shows_foldr_join cover shows_cut
  rw [← rows_eq_join_cut] at shows apart
  exact ⟨cover_rows memory, shows, apart⟩

example : Memory.rows ⟨#[0x12, 0x34, 0x56]⟩ = [.words 0 2 [0x1234, 0x5600]] := by decide +kernel

theorem Shows.aligned (shown : memory.Shows row) : 16 ∣ row.first := by
  cases row with
  | words => exact ShowsWords.aligned shown
  | zeros => exact ShowsZeros.aligned shown

theorem ShowsWords.unique {first last otherLast : Nat} {values others : List UInt16}
    (shown : memory.ShowsWords first last values)
    (also : memory.ShowsWords first otherLast others) : last = otherLast ∧ values = others := by
  obtain rfl : last = otherLast := Nat.succ_inj.mp (shown.ends.trans also.ends.symm)
  refine ⟨rfl, ?_⟩
  rw [← MemoryRow.pairs_flatMap_halves values, shown.halves_eq, ← also.halves_eq,
    MemoryRow.pairs_flatMap_halves]

theorem ShowsWords.not_zeroStretch {first last stretch : Nat} {values : List UInt16}
    (shown : memory.ShowsWords first last values) (same : first = 16 * stretch) :
    ¬ memory.ZeroStretch stretch := by
  rintro ⟨_, zero⟩
  obtain ⟨address, reached, inside, nonzero⟩ := shown.nonzero
  have ends := shown.ends
  have within := zero (address - first) (by omega)
  rw [← same, Nat.add_sub_of_le reached] at within
  exact nonzero within

theorem ShowsZeros.zeroStretch {first last stretch : Nat} (shown : memory.ShowsZeros first last)
    (inside : last < memory.size) (reached : first ≤ 16 * stretch)
    (before : 16 * stretch ≤ last) : memory.ZeroStretch stretch := by
  refine ⟨by omega, fun offset within => ?_⟩
  by_cases covered : 16 * stretch + offset ≤ last
  · exact shown.zero _ (by omega) covered
  · have ends := shown.ends
    exact byte_of_le (by omega)

/-- A row of zeros ends with its last stretch, which may be cut short by the end of memory. -/
theorem ShowsZeros.last_eq {first last : Nat} (shown : memory.ShowsZeros first last)
    (inside : last < memory.size) : last + 1 = min (16 * (last / 16) + 16) memory.size := by
  have ends := shown.ends
  omega

namespace ZeroRun

variable {first last otherFirst otherLast : Nat}

theorem first_le (run : memory.ZeroRun first last) (other : memory.ZeroRun otherFirst otherLast)
    (overlap : first ≤ otherLast) : first ≤ otherFirst := by
  by_contra later
  exact run.begins (first - 1) (by omega) (other.zero _ (by omega) (by omega))

theorem le_last (run : memory.ZeroRun first last) (other : memory.ZeroRun otherFirst otherLast)
    (overlap : otherFirst ≤ last) : otherLast ≤ last := by
  by_contra longer
  exact run.ends (other.zero _ (by omega) (by omega))

/-- Longest runs that overlap are the same. -/
theorem unique (run : memory.ZeroRun first last) (other : memory.ZeroRun otherFirst otherLast)
    (behind : first ≤ otherLast) (before : otherFirst ≤ last) :
    first = otherFirst ∧ last = otherLast :=
  ⟨Nat.le_antisymm (run.first_le other behind) (other.first_le run before),
    Nat.le_antisymm (other.le_last run behind) (run.le_last other before)⟩

end ZeroRun

namespace ListedBy

variable {before behind : List MemoryRow}

theorem of_split (listed : memory.ListedBy (before ++ row :: behind)) :
    MemoryRow.Cover 0 before row.first ∧ row.first ≤ row.last ∧ row.last < memory.size ∧
      MemoryRow.Cover (row.last + 1) behind memory.size := by
  obtain ⟨middle, ahead, begins, ordered, rest⟩ := MemoryRow.cover_append.mp listed.cover
  exact ⟨begins ▸ ahead, begins ▸ ordered, rest.le, rest⟩

theorem shown (listed : memory.ListedBy (before ++ row :: behind)) : memory.Shows row :=
  listed.shows row List.mem_append_cons_self

theorem div_le_div (listed : memory.ListedBy (before ++ row :: behind)) :
    row.first / 16 ≤ row.last / 16 :=
  Nat.div_le_div_right listed.of_split.2.1

/-- The stretches of a row are zeros if it is a row of zeros, and none of them is if not. -/
theorem isZeros_iff {stretch : Nat} (listed : memory.ListedBy (before ++ row :: behind))
    (reached : row.first / 16 ≤ stretch) (within : stretch ≤ row.last / 16) :
    row.IsZeros ↔ memory.ZeroStretch stretch := by
  obtain ⟨_, ordered, inside, _⟩ := listed.of_split
  cases row with
  | words first last values =>
      have shown : memory.ShowsWords first last values := listed.shown
      have aligned := shown.aligned
      have ends := shown.ends
      simp only [MemoryRow.first, MemoryRow.last] at reached within ordered
      exact iff_of_false id (shown.not_zeroStretch (by omega))
  | zeros first last =>
      have shown : memory.ShowsZeros first last := listed.shown
      have aligned := shown.aligned
      simp only [MemoryRow.first, MemoryRow.last] at reached within inside
      exact iff_of_true trivial (shown.zeroStretch inside (by omega) (by omega))

variable {next : MemoryRow}

theorem adjacent (listed : memory.ListedBy (before ++ row :: next :: behind)) :
    row.last / 16 + 1 = next.first / 16 := by
  obtain ⟨_, _, _, follows, _⟩ := listed.of_split
  rw [List.append_cons] at listed
  have aligned := listed.shown.aligned
  omega

theorem apart_adjacent (listed : memory.ListedBy (before ++ row :: next :: behind)) :
    row.Apart next :=
  (List.isChain_append_cons_cons.mp listed.apart).2.1

/-- Rows on both sides of a row of zeros are none, and so end and begin with something else. -/
theorem zeroRun_of_split {first last : Nat}
    (listed : memory.ListedBy (before ++ .zeros first last :: behind)) :
    memory.ZeroRun (first / 16) (last / 16) := by
  obtain ⟨ahead, ordered, inside, rest⟩ := listed.of_split
  refine ⟨listed.div_le_div, fun stretch reached within => ?_, fun stretch follows zero => ?_,
    fun zero => ?_⟩
  · exact (listed.isZeros_iff reached within).mp trivial
  · rcases List.eq_nil_or_concat' before with rfl | ⟨earlier, previous, rfl⟩
    · simp only [MemoryRow.Cover, MemoryRow.first] at ahead
      omega
    · rw [List.append_assoc, List.singleton_append] at listed
      have same : previous.last / 16 = stretch :=
        Nat.succ_inj.mp (listed.adjacent.trans follows.symm)
      have zeros := (listed.isZeros_iff listed.div_le_div (Nat.le_refl _)).mpr (same ▸ zero)
      exact listed.apart_adjacent ⟨zeros, trivial⟩
  · cases behind with
    | nil =>
        have there := zero.1
        simp only [MemoryRow.Cover, MemoryRow.last] at rest
        omega
    | cons next behind =>
        have same := listed.adjacent
        have apart := listed.apart_adjacent
        rw [List.append_cons] at listed
        have zeros := (listed.isZeros_iff (Nat.le_refl _) listed.div_le_div).mpr (same ▸ zero)
        exact apart ⟨trivial, zeros⟩

/-- Rows that begin at the same address are the same, in whatever lists they stand. -/
theorem row_eq {other : MemoryRow} {otherBefore otherBehind : List MemoryRow}
    (listed : memory.ListedBy (before ++ row :: behind))
    (also : memory.ListedBy (otherBefore ++ other :: otherBehind))
    (same : row.first = other.first) : row = other := by
  have zeros_iff : row.IsZeros ↔ other.IsZeros :=
    (listed.isZeros_iff (Nat.le_refl _) listed.div_le_div).trans
      (same ▸ (also.isZeros_iff (Nat.le_refl _) also.div_le_div).symm)
  cases row with
  | words first last values =>
      cases other with
      | zeros => exact absurd trivial zeros_iff.mpr
      | words otherFirst otherLast others =>
          obtain rfl : first = otherFirst := same
          obtain ⟨rfl, rfl⟩ := ShowsWords.unique listed.shown also.shown
          rfl
  | zeros first last =>
      cases other with
      | words => exact absurd trivial zeros_iff.mp
      | zeros otherFirst otherLast =>
          obtain rfl : first = otherFirst := same
          have run := listed.zeroRun_of_split.unique also.zeroRun_of_split also.div_le_div
            listed.div_le_div
          have ends := ShowsZeros.last_eq listed.shown listed.of_split.2.2.1
          have otherEnds := ShowsZeros.last_eq also.shown also.of_split.2.2.1
          rw [run.2, ← otherEnds] at ends
          rw [Nat.succ_inj.mp ends]

/-- Induction is on the rows not compared yet; both lists go on at the same address. -/
theorem eq_of_cover {other : List MemoryRow} (listed : memory.ListedBy (before ++ behind))
    (also : memory.ListedBy (before ++ other)) (cover : MemoryRow.Cover start behind memory.size)
    (otherCover : MemoryRow.Cover start other memory.size) : behind = other := by
  induction behind generalizing start before other with
  | nil => exact (otherCover.eq_nil_iff.mpr cover).symm
  | cons row behind ih =>
      cases other with
      | nil => exact cover.eq_nil_iff.mpr otherCover
      | cons next other =>
          obtain rfl := listed.row_eq also (cover.1.trans otherCover.1.symm)
          rw [List.append_cons] at listed also
          rw [ih listed also cover.2.2 otherCover.2.2]

theorem split_of_zeroRun {first last : Nat} (listed : memory.ListedBy rows)
    (run : memory.ZeroRun first last) :
    ∃ before behind,
      rows = before ++ .zeros (16 * first) (min (16 * last + 16) memory.size - 1) :: behind ∧
        MemoryRow.Cover 0 before (16 * first) ∧
        MemoryRow.Cover (min (16 * last + 16) memory.size) behind memory.size := by
  have zero := run.zero first (Nat.le_refl _) run.ordered
  obtain ⟨before, row, behind, rfl, reached, within⟩ :=
    listed.cover.exists_row (Nat.zero_le _) zero.1
  have reached := Nat.div_le_of_le_mul reached
  have within := (Nat.le_div_iff_mul_le (by decide)).mpr (Nat.mul_comm 16 first ▸ within)
  have zeros := (listed.isZeros_iff reached within).mpr zero
  cases row with
  | words => exact zeros.elim
  | zeros start final =>
      obtain ⟨rfl, rfl⟩ :=
        listed.zeroRun_of_split.unique run (Nat.le_trans reached run.ordered) within
      obtain ⟨ahead, ordered, inside, rest⟩ := listed.of_split
      have aligned : 16 ∣ start := listed.shown.aligned
      rw [Nat.mul_div_cancel' aligned, ← ShowsZeros.last_eq listed.shown inside]
      exact ⟨before, behind, rfl, ahead, rest⟩

end ListedBy

/-- There is one way to list a memory. -/
theorem listedBy_iff : memory.ListedBy rows ↔ rows = memory.rows := by
  constructor
  · intro listed
    have alone : memory.ListedBy ([] ++ rows) := listed
    exact alone.eq_of_cover memory.listedBy_rows listed.cover memory.cover_rows
  · rintro rfl
    exact memory.listedBy_rows

/-- The rows of the listing of a memory are the only ones that cover it, show it and leave
nothing to be joined; and each longest run of stretches of zeros is one of them, with other
rows for what lies before it and behind it. -/
theorem rows_tile (memory : Memory) :
    (∀ processor : Processor,
      (⟨"Memory", memory.rows.map Listing.memoryRow⟩ : Listing.Section) ∈
        Listing.sections (processor.mapMachine ({ · with memory }))) ∧
    (∀ rows, memory.ListedBy rows ↔ rows = memory.rows) ∧
    (memory.rows = [] ↔ memory.size = 0) ∧
    ∀ first last, memory.ZeroRun first last → ∃ before behind,
      memory.rows =
        before ++ .zeros (16 * first) (min (16 * last + 16) memory.size - 1) :: behind ∧
      MemoryRow.Cover 0 before (16 * first) ∧
      MemoryRow.Cover (min (16 * last + 16) memory.size) behind memory.size := by
  have listed := memory.listedBy_rows
  refine ⟨fun processor => ?_, fun rows => listedBy_iff, ?_, fun first last run => ?_⟩
  · exact .tail _ (.tail _ (.tail _ (.tail _ (.tail _ (.head _)))))
  · exact listed.cover.eq_nil_iff.trans eq_comm
  · exact listed.split_of_zeroRun run

/-- Something in the third and in the fifth of seven stretches, the last of which is short. -/
def interrupted : Memory :=
  ⟨Array.replicate 32 0 ++ #[0xF0] ++ Array.replicate 46 0 ++ #[1] ++ Array.replicate 21 0⟩

theorem interrupted_tiled :
    interrupted.ZeroRun 5 6 ∧
    (∃ before behind,
      interrupted.rows = before ++ .zeros 80 100 :: behind ∧
      MemoryRow.Cover 0 before 80 ∧ MemoryRow.Cover 101 behind 101) ∧
    interrupted.ListedBy
      [.zeros 0 31, .words 32 47 [0xF000, 0, 0, 0, 0, 0, 0, 0], .zeros 48 63,
        .words 64 79 [0, 0, 0, 0, 0, 0, 0, 1], .zeros 80 100] := by
  have run : interrupted.ZeroRun 5 6 := {
    ordered := by decide
    zero := fun stretch reached within => by
      have either : stretch = 5 ∨ stretch = 6 := by omega
      rcases either with rfl | rfl <;> decide +kernel
    begins := fun stretch next => by
      obtain rfl : stretch = 4 := Nat.succ_inj.mp next
      decide +kernel
    ends := by decide +kernel }
  obtain ⟨_, listed_iff, _, runs⟩ := rows_tile interrupted
  exact ⟨run, runs 5 6 run, (listed_iff _).mpr (by decide +kernel)⟩

end Memory

end ChipEight
