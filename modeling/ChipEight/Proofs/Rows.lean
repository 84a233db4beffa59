import ChipEight.Listing

namespace ChipEight

/-! What the rows of a listing stand for. Entries put to rows come back when the rows are put
together, and so do the bytes of a memory, though its rows of zeros say no more than where
they begin and end: for neighbouring rows leave no gap. -/

namespace Listing

theorem stretches_zero {width : Nat} (wide : 0 < width) : stretches width 0 = [] := by
  have none : (0 + width - 1) / width = 0 := Nat.div_eq_of_lt (by omega)
  rw [stretches, none]
  rfl

/-- The first row, and behind it the rows of what is left. -/
theorem stretches_of_pos {width length : Nat} (wide : 0 < width) (some : 0 < length) :
    stretches width length =
      (0, min width length) ::
        (stretches width (length - width)).map fun (start, count) =>
          (start + width, count) := by
  have count : (length + width - 1) / width = (length - width + width - 1) / width + 1 := by
    rcases Nat.lt_or_ge length width with short | long
    · rw [Nat.div_eq_of_lt (a := length - width + width - 1) (by omega)]
      exact Nat.div_eq_of_lt_le (by omega) (by omega)
    · rw [← Nat.add_div_right _ wide]
      congr 1
      omega
  simp only [stretches, count, List.range_succ_eq_map, List.map_cons, List.map_map,
    Nat.zero_mul, Nat.sub_zero, List.cons.injEq, true_and]
  apply List.map_congr_left
  intro row _
  simp only [Function.comp_apply, Nat.succ_mul, Nat.sub_sub, Nat.add_comm width]

theorem inside_of_mem_stretches {width length start count : Nat} (wide : 0 < width)
    (member : (start, count) ∈ stretches width length) :
    0 < count ∧ start + count ≤ length := by
  simp only [stretches, List.mem_map, List.mem_range, Prod.mk.injEq] at member
  obtain ⟨row, inside, rfl, rfl⟩ := member
  have behind : (row + 1) * width ≤ length + width - 1 :=
    (Nat.le_div_iff_mul_le wide).mp inside
  rw [Nat.succ_mul] at behind
  omega

variable {Entry Row : Type}

/-- Entries cut to rows, each with the position of its first entry. -/
def cut (width : Nat) (entries : List Entry) (row : Nat → List Entry → Row) : List Row :=
  (stretches width entries.length).map fun (start, count) =>
    row start ((entries.drop start).take count)

@[simp] theorem cut_nil {width : Nat} (wide : 0 < width) (row : Nat → List Entry → Row) :
    cut width [] row = [] := by
  rw [cut, List.length_nil, stretches_zero wide, List.map_nil]

theorem cut_of_ne_nil {width : Nat} {entries : List Entry} (wide : 0 < width)
    (some : entries ≠ []) (row : Nat → List Entry → Row) :
    cut width entries row =
      row 0 (entries.take width) ::
        cut width (entries.drop width) fun start => row (start + width) := by
  simp only [cut, stretches_of_pos wide (List.length_pos_iff.mpr some), List.map_cons,
    List.map_map, List.drop_zero, List.length_drop, List.cons.injEq]
  constructor
  · rw [← List.take_eq_take_min]
  · apply List.map_congr_left
    rintro ⟨start, count⟩ _
    simp only [Function.comp_apply, List.drop_drop, Nat.add_comm width]

/-- What holds of no entries, and of entries if it holds of all but the first row of them. -/
@[elab_as_elim]
theorem rowInduction {width : Nat} {motive : List Entry → Prop} (wide : 0 < width)
    (nil : motive [])
    (row : ∀ entries, entries ≠ [] → motive (entries.drop width) → motive entries)
    (entries : List Entry) : motive entries := by
  induction size : entries.length using Nat.strongRecOn generalizing entries with
  | ind length ih =>
      by_cases none : entries = []
      · exact none ▸ nil
      · have some := List.length_pos_iff.mpr none
        have shorter : (entries.drop width).length < length := by
          rw [List.length_drop]
          omega
        exact row entries none (ih _ shorter _ rfl)

theorem flatten_cut {width : Nat} (wide : 0 < width) (entries : List Entry) :
    (cut width entries fun _ piece => piece).flatten = entries := by
  induction entries using rowInduction wide with
  | nil => rw [cut_nil wide]; rfl
  | row entries some ih =>
      rw [cut_of_ne_nil wide some, List.flatten_cons, ih, List.take_append_drop]

/-- A text that tells apart what it shows also does so row by row. -/
theorem rowsOf_injective {text : List Entry → String} {first second : List Entry}
    (tells : ∀ {first second}, first.length = second.length → text first = text second →
      first = second)
    (length_eq : first.length = second.length)
    (same : rowsOf first text = rowsOf second text) : first = second := by
  have wide : 0 < entriesPerRow := by decide
  have pieces : (cut entriesPerRow first fun _ piece => piece) =
      cut entriesPerRow second fun _ piece => piece := by
    simp only [rowsOf, cut, length_eq] at same ⊢
    apply List.map_congr_left
    rintro ⟨start, count⟩ member
    have row := List.map_inj_left.mp same _ member
    simp only [String.append_right_inj] at row
    apply tells _ row
    simp only [List.length_take, List.length_drop, length_eq]
  rw [← flatten_cut wide first, pieces, flatten_cut wide]

end Listing

namespace MemoryRow

def first : MemoryRow → Nat
  | .words first _ _ | .zeros first _ => first

def last : MemoryRow → Nat
  | .words _ last _ | .zeros _ last => last

def halves (word : UInt16) : List UInt8 :=
  [UInt8.ofNat (word.toNat / 0x100), UInt8.ofNat word.toNat]

/-- The bytes a row stands for. Its last word may be more than it has room for. -/
def bytes : MemoryRow → List UInt8
  | .words first last values => (values.flatMap halves).take (last + 1 - first)
  | .zeros first last => List.replicate (last + 1 - first) 0

theorem halves_bigEndian (high low : UInt8) :
    halves (Memory.bigEndian high low) = [high, low] := by
  have highest := high.toNat_lt
  have lowest := low.toNat_lt
  have total : (Memory.bigEndian high low).toNat = high.toNat * 0x100 + low.toNat := by
    rw [Memory.bigEndian, UInt16.toNat_ofNat']
    omega
  simp only [halves, total, List.cons.injEq, and_true]
  constructor <;> apply UInt8.toNat_inj.mp <;> rw [UInt8.toNat_ofNat'] <;> omega

theorem bigEndian_halves (word : UInt16) :
    Memory.bigEndian (UInt8.ofNat (word.toNat / 0x100)) (UInt8.ofNat word.toNat) = word := by
  have small := word.toNat_lt
  apply UInt16.toNat.inj
  rw [Memory.bigEndian, UInt16.toNat_ofNat', UInt8.toNat_ofNat', UInt8.toNat_ofNat']
  omega

/-- Pairs hold their bytes in order, and a zero behind an odd one. -/
theorem flatMap_halves_pairs (bytes : List UInt8) :
    (pairs bytes).flatMap halves = bytes ++ List.replicate (bytes.length % 2) 0 := by
  induction bytes using pairs.induct with
  | case1 high low rest ih =>
      simp only [pairs, List.flatMap_cons, halves_bigEndian, ih, List.length_cons,
        List.cons_append, List.nil_append, Nat.add_assoc, Nat.add_mod_right]
  | case2 high => simp only [pairs, List.flatMap_cons, halves_bigEndian]; rfl
  | case3 => rfl

theorem pairs_flatMap_halves (words : List UInt16) : pairs (words.flatMap halves) = words := by
  induction words with
  | nil => rfl
  | cons word words ih =>
      rw [List.flatMap_cons, halves, List.cons_append, List.cons_append, List.nil_append,
        pairs, bigEndian_halves, ih]

theorem take_halves_pairs (bytes : List UInt8) :
    ((pairs bytes).flatMap halves).take bytes.length = bytes := by
  rw [flatMap_halves_pairs, List.take_left]

theorem bytes_ofBytes (start : Nat) {bytes : List UInt8} (some : bytes ≠ []) :
    (ofBytes start bytes).bytes = bytes := by
  have length : start + bytes.length - 1 + 1 - start = bytes.length := by
    have := List.length_pos_iff.mpr some
    omega
  rw [ofBytes]
  split
  case isTrue zeros =>
    simp only [List.all_eq_true, decide_eq_true_eq] at zeros
    rw [MemoryRow.bytes, length]
    exact (List.eq_replicate_of_mem zeros).symm
  case isFalse => rw [MemoryRow.bytes, length, take_halves_pairs]

theorem first_ofBytes (start : Nat) (bytes : List UInt8) :
    (ofBytes start bytes).first = start := by
  rw [ofBytes]
  split <;> rfl

theorem last_ofBytes (start : Nat) (bytes : List UInt8) :
    (ofBytes start bytes).last = start + bytes.length - 1 := by
  rw [ofBytes]
  split <;> rfl

/-- Rows cover the positions from one up to another: each begins where the one before ends. -/
def Cover : Nat → List MemoryRow → Nat → Prop
  | start, [], stop => start = stop
  | start, row :: rows, stop =>
      row.first = start ∧ start ≤ row.last ∧ Cover (row.last + 1) rows stop

theorem cover_cut {width : Nat} (wide : 0 < width) (bytes : List UInt8) (start : Nat) :
    Cover start (Listing.cut width bytes fun offset => ofBytes (start + offset))
      (start + bytes.length) := by
  induction bytes using Listing.rowInduction wide generalizing start with
  | nil =>
      rw [Listing.cut_nil wide]
      rfl
  | row bytes some ih =>
      have length := List.length_pos_iff.mpr some
      have behind := last_ofBytes start (bytes.take width)
      rw [List.length_take] at behind
      rw [Listing.cut_of_ne_nil wide some]
      refine ⟨first_ofBytes _ _, ?_, ?_⟩
      · rw [Nat.add_zero, behind]
        omega
      · rcases Nat.lt_or_ge bytes.length width with short | long
        · rw [List.drop_eq_nil_of_le (Nat.le_of_lt short), Listing.cut_nil wide]
          simp only [Nat.add_zero, behind, Cover]
          omega
        · have onward : start + min width bytes.length - 1 + 1 = start + width := by omega
          have stop : start + width + (bytes.length - width) = start + bytes.length := by omega
          have rest := ih (start + width)
          rw [List.length_drop, stop] at rest
          rw [Nat.add_zero start, behind, onward]
          simpa only [Nat.add_assoc, Nat.add_comm width] using rest

theorem cover_join {start stop : Nat} {row : MemoryRow} {rows : List MemoryRow}
    (cover : Cover start (row :: rows) stop) : Cover start (row.join rows) stop := by
  fun_cases join row rows with
  | case1 first last next final rest =>
      obtain ⟨begins, ordered, follows, longer, covered⟩ := cover
      simp only [MemoryRow.first, MemoryRow.last] at begins ordered follows longer covered
      exact ⟨begins, by simp only [MemoryRow.last]; omega, covered⟩
  | case2 => exact cover

theorem flatMap_bytes_join {start stop : Nat} {row : MemoryRow} {rows : List MemoryRow}
    (cover : Cover start (row :: rows) stop) :
    (row.join rows).flatMap bytes = row.bytes ++ rows.flatMap bytes := by
  fun_cases join row rows with
  | case1 first last next final rest =>
      obtain ⟨begins, ordered, follows, longer, covered⟩ := cover
      simp only [MemoryRow.first, MemoryRow.last] at begins ordered follows longer
      have together : final + 1 - first = (last + 1 - first) + (final + 1 - next) := by omega
      simp only [List.flatMap_cons, MemoryRow.bytes, together, ← List.append_assoc,
        List.replicate_append_replicate]
  | case2 => rfl

/-- Joining rows of zeros changes neither what the rows cover nor what they stand for. -/
theorem cover_foldr_join {start stop : Nat} {rows : List MemoryRow}
    (cover : Cover start rows stop) :
    Cover start (rows.foldr join []) stop ∧
      (rows.foldr join []).flatMap bytes = rows.flatMap bytes := by
  induction rows generalizing start with
  | nil => exact ⟨cover, rfl⟩
  | cons row rows ih =>
      obtain ⟨begins, ordered, rest⟩ := cover
      obtain ⟨joined, bytes_eq⟩ := ih rest
      have both : Cover start (row :: rows.foldr join []) stop := ⟨begins, ordered, joined⟩
      refine ⟨cover_join both, ?_⟩
      rw [List.foldr_cons, flatMap_bytes_join both, bytes_eq, List.flatMap_cons]

end MemoryRow

namespace Memory

theorem slice_eq_take_drop {memory : Memory} {start count : Nat}
    (inside : start + count ≤ memory.size) :
    memory.slice start count = (memory.bytes.toList.drop start).take count := by
  apply List.ext_getElem
  · simp only [length_slice, List.length_take, List.length_drop, Array.length_toList]
    exact (Nat.min_eq_left (Nat.le_sub_of_add_le' inside)).symm
  · intro offset inSlice _
    rw [length_slice] at inSlice
    have inMemory : start + offset < memory.bytes.size :=
      Nat.lt_of_lt_of_le (Nat.add_lt_add_left inSlice start) inside
    simp only [slice, byte, List.getElem_map, List.getElem_range, List.getElem_take,
      List.getElem_drop, Array.getElem_toList, Array.getD_eq_getD_getElem?,
      Array.getElem?_eq_getElem inMemory, Option.getD_some]

theorem rows_eq_join_cut (memory : Memory) :
    memory.rows =
      (Listing.cut bytesPerRow memory.bytes.toList MemoryRow.ofBytes).foldr
        MemoryRow.join [] := by
  simp only [rows, Listing.cut, Array.length_toList, size]
  congr 1
  apply List.map_congr_left
  rintro ⟨start, count⟩ member
  simp only
  rw [slice_eq_take_drop (Listing.inside_of_mem_stretches (by decide) member).2]

/-- The rows of a memory leave nothing out and show nothing twice. -/
theorem cover_rows (memory : Memory) : MemoryRow.Cover 0 memory.rows memory.size := by
  have wide : 0 < bytesPerRow := by decide
  have cover := MemoryRow.cover_cut wide memory.bytes.toList 0
  simp only [Nat.zero_add, Array.length_toList] at cover
  rw [rows_eq_join_cut]
  exact (MemoryRow.cover_foldr_join cover).1

/-- The rows of a memory tell every byte of it. -/
theorem flatMap_bytes_rows (memory : Memory) :
    memory.rows.flatMap MemoryRow.bytes = memory.bytes.toList := by
  have wide : 0 < bytesPerRow := by decide
  have cover := MemoryRow.cover_cut wide memory.bytes.toList 0
  simp only [Nat.zero_add] at cover
  rw [rows_eq_join_cut, (MemoryRow.cover_foldr_join cover).2, Listing.cut, List.flatMap_map]
  refine Eq.trans ?_ (Listing.flatten_cut wide memory.bytes.toList)
  rw [Listing.cut, List.flatMap_def]
  congr 1
  apply List.map_congr_left
  rintro ⟨start, count⟩ member
  obtain ⟨some, inside⟩ := Listing.inside_of_mem_stretches wide member
  apply MemoryRow.bytes_ofBytes
  apply List.ne_nil_of_length_pos
  rw [List.length_take, List.length_drop]
  omega

theorem rows_injective {first second : Memory} (same : first.rows = second.rows) :
    first = second := by
  apply ext_toList
  rw [← flatMap_bytes_rows first, same, flatMap_bytes_rows second]

end Memory

end ChipEight
