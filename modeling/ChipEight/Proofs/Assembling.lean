import ChipEight.Instruction.Encoding
import ChipEight.Proofs.Rows

namespace ChipEight

/-! Programs as bytes. An assembled program is read back instruction by instruction, wherever
it lies; and whatever is read as an instruction is what that instruction assembles to, so
that no two of them share an opcode and no other opcode has a reading. -/

def Memory.ofBytes (bytes : List UInt8) : Memory :=
  ⟨bytes.toArray⟩

/-- The opcodes of the instructions one after the other, the high byte of each first. -/
def Instruction.assemble (program : List Instruction) : List UInt8 :=
  program.flatMap fun instruction => MemoryRow.halves instruction.encode

namespace Memory

@[simp] theorem size_ofBytes (bytes : List UInt8) : (ofBytes bytes).size = bytes.length := rfl

theorem byte_ofBytes (bytes : List UInt8) (address : Nat) :
    (ofBytes bytes).byte address = bytes.getD address 0 := by
  simp [ofBytes, byte, Array.getD_eq_getD_getElem?, List.getD_eq_getElem?_getD]

theorem wordAt_append_halves (before after : List UInt8) (word : UInt16) :
    (ofBytes (before ++ MemoryRow.halves word ++ after)).wordAt before.length = .ok word := by
  have inside : before.length + 1 <
      (ofBytes (before ++ MemoryRow.halves word ++ after)).size := by
    simp [MemoryRow.halves]
  have high : (ofBytes (before ++ MemoryRow.halves word ++ after)).byte before.length =
      UInt8.ofNat (word.toNat / 0x100) := by
    simp [byte_ofBytes, MemoryRow.halves]
  have low : (ofBytes (before ++ MemoryRow.halves word ++ after)).byte (before.length + 1) =
      UInt8.ofNat word.toNat := by
    simp [byte_ofBytes, MemoryRow.halves]
  rw [wordAt_of_lt inside, high, low, MemoryRow.bigEndian_halves]

theorem slice_of_wordAt {memory : Memory} {address : Nat} {word : UInt16}
    (read : memory.wordAt address = .ok word) :
    memory.slice address 2 = MemoryRow.halves word := by
  rw [(wordAt_eq_ok_iff.mp read).2, MemoryRow.halves_bigEndian]
  rfl

end Memory

namespace Instruction

@[simp] theorem assemble_append (first second : List Instruction) :
    assemble (first ++ second) = assemble first ++ assemble second :=
  List.flatMap_append

@[simp] theorem length_assemble (program : List Instruction) :
    (assemble program).length = 2 * program.length := by
  induction program with
  | nil => rfl
  | cons instruction program ih =>
      rw [assemble, List.flatMap_cons, List.length_append, ← assemble, ih]
      simp only [MemoryRow.halves, List.length_cons, List.length_nil]
      omega

theorem wordAt_assemble {program : List Instruction} {position : Nat}
    {instruction : Instruction} (before after : List UInt8)
    (place : program[position]? = some instruction) :
    (Memory.ofBytes (before ++ assemble program ++ after)).wordAt
      (before.length + 2 * position) = .ok instruction.encode := by
  obtain ⟨inside, rfl⟩ := List.getElem?_eq_some_iff.mp place
  have front : before.length + 2 * position =
      (before ++ assemble (program.take position)).length := by
    rw [List.length_append, length_assemble, List.length_take, Nat.min_eq_left (by omega)]
  have parts : assemble program =
      assemble (program.take position) ++ MemoryRow.halves program[position].encode ++
        assemble (program.drop (position + 1)) :=
    calc assemble program
      _ = assemble
          (program.take position ++ program[position] :: program.drop (position + 1)) := by
        rw [← List.drop_eq_getElem_cons inside, List.take_append_drop]
      _ = _ := by
        rw [assemble_append, List.append_assoc]
        rfl
  rw [front, parts, ← List.append_assoc, ← List.append_assoc, List.append_assoc _ _ after]
  exact Memory.wordAt_append_halves _ _ _

end Instruction

/-- Wherever an assembled program lies, each of its instructions is read back. The other way
round, a word is read where two bytes are left, else the first byte missing is reported, and
an opcode has a reading just if it is what an instruction assembles to, which then is its only
one. -/
theorem decoding_undoes_assembling :
    (∀ (before after : List UInt8) (program : List Instruction) (position : Nat)
        (instruction : Instruction), program[position]? = some instruction →
      ∃ opcode,
        (Memory.ofBytes (before ++ Instruction.assemble program ++ after)).wordAt
          (before.length + 2 * position) = .ok opcode ∧
        Instruction.decode? opcode = some instruction) ∧
    (∀ (memory : Memory) (address : Nat),
      ((∃ opcode, memory.wordAt address = .ok opcode) ↔ address + 1 < memory.size) ∧
      (∀ fault, memory.wordAt address = .error fault ↔
        memory.size ≤ address + 1 ∧ fault = ⟨max address memory.size, memory.size⟩) ∧
      ∀ opcode instruction, memory.wordAt address = .ok opcode →
        Instruction.decode? opcode = some instruction →
          instruction.encode = opcode ∧
          memory.slice address 2 = Instruction.assemble [instruction]) ∧
    ∀ opcode, Instruction.decode? opcode = none ↔
      ∀ instruction : Instruction, instruction.encode ≠ opcode := by
  refine ⟨fun before after program position instruction place => ?_,
    fun memory address => ⟨?_, fun fault => Memory.wordAt_eq_error_iff, ?_⟩,
    fun opcode => Instruction.decode?_eq_none_iff⟩
  · exact ⟨instruction.encode, Instruction.wordAt_assemble before after place,
      Instruction.decode?_encode instruction⟩
  · simp only [Memory.wordAt_eq_ok_iff, exists_and_left, exists_eq, and_true]
  · intro opcode instruction read decoded
    obtain rfl := Instruction.encode_of_decode? decoded
    exact ⟨rfl, Memory.slice_of_wordAt read⟩

/-- A shift and a load, with one byte in front of them and one behind. -/
theorem shiftAndLoad_readBack :
    let memory := Memory.ofBytes [0x77, 0x81, 0x2E, 0xFF, 0x65, 0x55]
    Instruction.assemble [.combine .shiftLeft 1 2, .loadRegisters 0xF] =
      [0x81, 0x2E, 0xFF, 0x65] ∧
    memory.wordAt 3 = .ok 0xFF65 ∧
    Instruction.decode? 0xFF65 = some (.loadRegisters 0xF) ∧
    memory.slice 3 2 = Instruction.assemble [.loadRegisters 0xF] ∧
    memory.wordAt 5 = .error ⟨6, 6⟩ := by
  intro memory
  obtain ⟨programs, memories, _⟩ := decoding_undoes_assembling
  obtain ⟨opcode, read, decoded⟩ :=
    programs [0x77] [0x55] [.combine .shiftLeft 1 2, .loadRegisters 0xF] 1 _ rfl
  obtain rfl := Instruction.encode_of_decode? decoded
  exact ⟨rfl, read, decoded, ((memories memory 3).2.2 _ _ read decoded).2,
    ((memories memory 5).2.1 _).mpr ⟨by decide, rfl⟩⟩

end ChipEight
