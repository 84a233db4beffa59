import ChipEight.Fault

namespace ChipEight

/-! Byte-addressed memory of any size. `Memory.byte` is the view through which
every operation is described; `read`, `write` and `wordAt` are the checked
accesses, and each refusal names the last byte the access would have needed. -/

structure Memory where
  bytes : Array UInt8
  deriving DecidableEq

namespace Memory

def size (memory : Memory) : Nat :=
  memory.bytes.size

/-- The byte at an address, zero beyond the end. -/
def byte (memory : Memory) (address : Nat) : UInt8 :=
  memory.bytes.getD address 0

def zeros (size : Nat) : Memory :=
  ⟨Array.replicate size 0⟩

def store (memory : Memory) (address : Nat) (value : UInt8) : Memory :=
  ⟨memory.bytes.setIfInBounds address value⟩

/-- Stores consecutive bytes; those beyond the end are dropped. -/
def storeAll (memory : Memory) (start : Nat) : List UInt8 → Memory
  | [] => memory
  | value :: values => (memory.store start value).storeAll (start + 1) values

def slice (memory : Memory) (start length : Nat) : List UInt8 :=
  (List.range length).map fun offset => memory.byte (start + offset)

/-- The address just past a range of bytes, if the whole range is in memory. -/
def rangeEnd (memory : Memory) (start length : Nat) : Except AccessFault Nat :=
  if start + length ≤ memory.size then
    .ok (start + length)
  else
    .error ⟨start + length - 1, memory.size⟩

def read (memory : Memory) (start length : Nat) : Except AccessFault (List UInt8) :=
  (memory.rangeEnd start length).map fun _ => memory.slice start length

def write (memory : Memory) (start : Nat) (values : List UInt8) :
    Except AccessFault Memory :=
  (memory.rangeEnd start values.length).map fun _ => memory.storeAll start values

def bigEndian (high low : UInt8) : UInt16 :=
  UInt16.ofNat (high.toNat * 0x100 + low.toNat)

/-- The big-endian word at an address. The first byte missing is reported. -/
def wordAt (memory : Memory) (address : Nat) : Except AccessFault UInt16 :=
  if memory.size ≤ address then
    .error ⟨address, memory.size⟩
  else if memory.size ≤ address + 1 then
    .error ⟨address + 1, memory.size⟩
  else
    .ok (bigEndian (memory.byte address) (memory.byte (address + 1)))

theorem read_of_le {memory : Memory} {start length : Nat}
    (inside : start + length ≤ memory.size) :
    memory.read start length = .ok (memory.slice start length) := by
  rw [read, rangeEnd, if_pos inside]
  rfl

theorem read_of_lt {memory : Memory} {start length : Nat}
    (beyond : memory.size < start + length) :
    memory.read start length = .error ⟨start + length - 1, memory.size⟩ := by
  rw [read, rangeEnd, if_neg (Nat.not_le_of_lt beyond)]
  rfl

theorem read_eq_ok {memory : Memory} {start length : Nat} {values : List UInt8}
    (read_eq : memory.read start length = .ok values) :
    start + length ≤ memory.size ∧ values = memory.slice start length := by
  rcases Nat.lt_or_ge memory.size (start + length) with beyond | inside
  · rw [read_of_lt beyond] at read_eq
    contradiction
  · rw [read_of_le inside] at read_eq
    exact ⟨inside, (Except.ok.inj read_eq).symm⟩

theorem write_of_le {memory : Memory} {start : Nat} {values : List UInt8}
    (inside : start + values.length ≤ memory.size) :
    memory.write start values = .ok (memory.storeAll start values) := by
  rw [write, rangeEnd, if_pos inside]
  rfl

theorem write_of_lt {memory : Memory} {start : Nat} {values : List UInt8}
    (beyond : memory.size < start + values.length) :
    memory.write start values = .error ⟨start + values.length - 1, memory.size⟩ := by
  rw [write, rangeEnd, if_neg (Nat.not_le_of_lt beyond)]
  rfl

theorem write_eq_ok {memory after : Memory} {start : Nat} {values : List UInt8}
    (write_eq : memory.write start values = .ok after) :
    start + values.length ≤ memory.size ∧ after = memory.storeAll start values := by
  rcases Nat.lt_or_ge memory.size (start + values.length) with beyond | inside
  · rw [write_of_lt beyond] at write_eq
    contradiction
  · rw [write_of_le inside] at write_eq
    exact ⟨inside, (Except.ok.inj write_eq).symm⟩

theorem wordAt_of_lt {memory : Memory} {address : Nat} (inside : address + 1 < memory.size) :
    memory.wordAt address =
      .ok (bigEndian (memory.byte address) (memory.byte (address + 1))) := by
  rw [wordAt, if_neg (by omega), if_neg (by omega)]

/-- The first address from there on that is not in memory is reported. -/
theorem wordAt_of_le {memory : Memory} {address : Nat} (beyond : memory.size ≤ address + 1) :
    memory.wordAt address = .error ⟨max address memory.size, memory.size⟩ := by
  rcases Nat.lt_or_ge address memory.size with inside | behind
  · have last : memory.size = address + 1 := Nat.le_antisymm beyond inside
    rw [wordAt, if_neg (Nat.not_le_of_lt inside), if_pos beyond,
      Nat.max_eq_right (Nat.le_of_lt inside), last]
  · rw [wordAt, if_pos behind, Nat.max_eq_left behind]

theorem wordAt_eq_ok_iff {memory : Memory} {address : Nat} {word : UInt16} :
    memory.wordAt address = .ok word ↔
      address + 1 < memory.size ∧
        word = bigEndian (memory.byte address) (memory.byte (address + 1)) := by
  rcases Nat.lt_or_ge (address + 1) memory.size with inside | beyond
  · simp [wordAt_of_lt inside, inside, eq_comm]
  · simp [wordAt_of_le beyond, Nat.not_lt_of_le beyond]

theorem wordAt_eq_error_iff {memory : Memory} {address : Nat} {fault : AccessFault} :
    memory.wordAt address = .error fault ↔
      memory.size ≤ address + 1 ∧ fault = ⟨max address memory.size, memory.size⟩ := by
  rcases Nat.lt_or_ge (address + 1) memory.size with inside | beyond
  · simp [wordAt_of_lt inside, Nat.not_le_of_lt inside]
  · simp [wordAt_of_le beyond, beyond, eq_comm]

theorem byte_of_le {memory : Memory} {address : Nat} (beyond : memory.size ≤ address) :
    memory.byte address = 0 := by
  rw [byte, Array.getD_eq_getD_getElem?, Array.getElem?_eq_none beyond]
  rfl

@[simp] theorem size_store (memory : Memory) (address : Nat) (value : UInt8) :
    (memory.store address value).size = memory.size := by
  simp [store, size]

theorem byte_store (memory : Memory) (address : Nat) (value : UInt8) (other : Nat) :
    (memory.store address value).byte other =
      if other = address ∧ address < memory.size then value else memory.byte other := by
  by_cases same : other = address
  · subst same
    by_cases inside : other < memory.bytes.size <;>
      simp [store, byte, size, inside, Array.getD_eq_getD_getElem?]
  · simp [store, byte, same, Array.getD_eq_getD_getElem?,
      Array.getElem?_setIfInBounds_ne (Ne.symm same)]

@[simp] theorem size_storeAll (memory : Memory) (start : Nat) (values : List UInt8) :
    (memory.storeAll start values).size = memory.size := by
  induction values generalizing memory start with
  | nil => rfl
  | cons value values ih => simp [storeAll, ih]

@[simp] theorem size_zeros (size : Nat) : (zeros size).size = size := by
  simp [zeros, Memory.size]

@[simp] theorem byte_zeros (size address : Nat) : (zeros size).byte address = 0 := by
  simp only [zeros, byte, Array.getD_eq_getD_getElem?, Array.getElem?_replicate]
  split <;> rfl

theorem length_bytes (memory : Memory) : memory.bytes.toList.length = memory.size :=
  Array.length_toList

theorem ext_byte {first second : Memory} (size_eq : first.size = second.size)
    (byte_eq : ∀ address, first.byte address = second.byte address) : first = second := by
  cases first with
  | mk firstBytes =>
      cases second with
      | mk secondBytes =>
          congr 1
          apply Array.ext size_eq
          intro address insideFirst insideSecond
          have same := byte_eq address
          simpa [byte, Array.getD_eq_getD_getElem?, insideFirst, insideSecond] using same

theorem ext_toList {first second : Memory}
    (same : first.bytes.toList = second.bytes.toList) : first = second := by
  cases first
  cases second
  exact congrArg mk (Array.toList_inj.mp same)

theorem size_write {memory after : Memory} {start : Nat} {values : List UInt8}
    (write_eq : memory.write start values = .ok after) : after.size = memory.size := by
  obtain ⟨_, rfl⟩ := write_eq_ok write_eq
  exact size_storeAll memory start values

theorem byte_storeAll (memory : Memory) (start : Nat) (values : List UInt8)
    (address : Nat) :
    (memory.storeAll start values).byte address =
      if start ≤ address ∧ address < start + values.length ∧ address < memory.size then
        values.getD (address - start) 0
      else
        memory.byte address := by
  induction values generalizing memory start with
  | nil =>
      rw [if_neg (by simp only [List.length_nil]; omega)]
      rfl
  | cons value values ih =>
      rw [storeAll, ih, size_store, byte_store]
      simp only [List.length_cons]
      by_cases first : address = start
      · subst first
        rw [if_neg (by omega)]
        by_cases inside : address < memory.size
        · rw [if_pos ⟨rfl, inside⟩, if_pos ⟨Nat.le_refl _, by omega, inside⟩, Nat.sub_self]
          rfl
        · rw [if_neg (fun both => inside both.2), if_neg (fun all => inside all.2.2)]
      · rw [if_neg (c := address = start ∧ start < memory.size) (fun both => first both.1)]
        by_cases covered : start + 1 ≤ address ∧ address < start + 1 + values.length ∧
            address < memory.size
        · rw [if_pos covered, if_pos (by omega),
            show address - start = address - (start + 1) + 1 by omega]
          rfl
        · rw [if_neg covered, if_neg (by omega)]

theorem byte_storeAll_inside {memory : Memory} {start position : Nat}
    {values : List UInt8} (inside : start + values.length ≤ memory.size)
    (covered : position < values.length) :
    (memory.storeAll start values).byte (start + position) = values.getD position 0 := by
  rw [byte_storeAll, if_pos (by omega), Nat.add_sub_cancel_left]

theorem byte_storeAll_outside {memory : Memory} {start address : Nat}
    {values : List UInt8} (outside : address < start ∨ start + values.length ≤ address) :
    (memory.storeAll start values).byte address = memory.byte address := by
  rw [byte_storeAll, if_neg (by omega)]

theorem storeAll_append (memory : Memory) (start : Nat) (first second : List UInt8) :
    memory.storeAll start (first ++ second) =
      (memory.storeAll start first).storeAll (start + first.length) second := by
  induction first generalizing memory start with
  | nil => rfl
  | cons value first ih =>
      rw [List.cons_append, storeAll, ih, storeAll, List.length_cons, Nat.succ_add_eq_add_succ]

theorem toList_storeAll {memory : Memory} {start : Nat} {values : List UInt8}
    (inside : start + values.length ≤ memory.size) :
    (memory.storeAll start values).bytes.toList =
      memory.bytes.toList.take start ++ values ++
        memory.bytes.toList.drop (start + values.length) := by
  induction values generalizing memory start with
  | nil =>
      rw [List.append_nil, List.length_nil, Nat.add_zero, List.take_append_drop]
      rfl
  | cons value values ih =>
      rw [List.length_cons] at inside ⊢
      have here : start < (memory.bytes.toList.set start value).length := by
        rw [List.length_set, length_bytes]
        omega
      have written : (memory.bytes.toList.set start value).take (start + 1) =
          memory.bytes.toList.take start ++ [value] := by
        rw [← List.take_append_getElem here, List.take_set_of_le (Nat.le_refl start),
          List.getElem_set_self]
      have behind : start + 1 + values.length = start + (values.length + 1) := by omega
      rw [storeAll, ih (by rw [size_store]; omega), store, Array.toList_setIfInBounds, written,
        behind, List.drop_set_of_lt (by omega)]
      simp only [List.append_assoc, List.cons_append, List.nil_append]

@[simp] theorem length_slice (memory : Memory) (start length : Nat) :
    (memory.slice start length).length = length := by
  simp [slice]

theorem mem_slice {memory : Memory} {start length : Nat} {value : UInt8} :
    value ∈ memory.slice start length ↔
      ∃ address, start ≤ address ∧ address < start + length ∧
        memory.byte address = value := by
  simp only [slice, List.mem_map, List.mem_range]
  constructor
  · rintro ⟨offset, inside, rfl⟩
    exact ⟨start + offset, Nat.le_add_right _ _, Nat.add_lt_add_left inside start, rfl⟩
  · rintro ⟨address, reached, inside, rfl⟩
    exact ⟨address - start, by omega, by rw [Nat.add_sub_of_le reached]⟩

end Memory

end ChipEight
