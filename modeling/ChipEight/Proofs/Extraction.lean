import ChipEight.Proofs.Delivery
import ChipEight.Proofs.Loading

namespace ChipEight

/-! A program out of an archive is run whole and verified, or not at all. One byte more
than fits is asked for: whatever fits has been read to its end, where the checksum is
looked at, and whatever does not fit is refused when it is inserted. -/

variable {State : Type} {name : String} {cartridge : Cartridge} {content : List UInt8}

namespace Cartridge

theorem ofEntry_eq_ok {opened : Except EntryFault (ByteReader State)}
    (delivered : ofEntry name opened = .ok cartridge) :
    ∃ reader, opened = .ok reader ∧ reader.take readLimit = .ok cartridge.data := by
  cases opened with
  | error fault => contradiction
  | ok reader =>
      cases taken : reader.take readLimit with
      | error fault =>
          simp [ofEntry, Except.mapError, Bind.bind, Except.bind, taken] at delivered
      | ok data =>
          simp only [ofEntry, Except.mapError, Bind.bind, Except.bind, taken] at delivered
          cases delivered
          exact ⟨reader, rfl, taken⟩

theorem ofEntry_of_take {reader : ByteReader State}
    (taken : reader.take readLimit = .ok content) :
    ofEntry name (.ok reader) = .ok ⟨name, content⟩ := by
  simp only [ofEntry, Except.mapError, Bind.bind, Except.bind, taken]

end Cartridge

namespace Archive

/-- An entry that is not packed. -/
def storedEntry (name : String) (data : List UInt8) : Entry where
  name
  isEncrypted := false
  method := 0
  checksum := (checksum data).toNat
  packedSize := data.length
  unpackedSize := data.length
  header := 0

def ofStored (name : String) (data : List UInt8) : Archive where
  image := (localSignature ++ List.replicate 26 0 ++ data).toArray
  entries := [storedEntry name data]

theorem find?_ofStored (name : String) (data : List UInt8) :
    (ofStored name data).find? name = some (storedEntry name data) := by
  simp [ofStored, storedEntry, find?]

theorem locate_ofStored (name : String) (data : List UInt8) :
    (ofStored name data).locate (storedEntry name data) = .ok (.stored, data) := by
  simp [ofStored, storedEntry, locate, FileImage.bytesAt, FileImage.span, FileImage.numberAt,
    localSignature, localSize, littleEndian, Except.map, Bind.bind, Except.bind]

theorem openEntry_ofStored (name : String) (data : List UInt8) :
    (ofStored name data).openEntry name =
      .ok (readerOf (checksum data).toNat .stored data) := by
  simp only [openEntry, find?_ofStored, locate_ofStored]
  rfl

theorem unpacks_ofStored (name : String) (data : List UInt8) :
    (ofStored name data).Unpacks name data :=
  ⟨_, _, _, find?_ofStored name data, locate_ofStored name data, rfl⟩

end Archive

namespace Console

variable {Unpacks : List UInt8 → Prop} {recorded : Nat}
  {opened : Except EntryFault (ByteReader State)}

/-- Whatever is short enough to be inserted was read to its end. -/
theorem inserted_verified
    (verifies : ∀ reader, opened = .ok reader → reader.Verifies Unpacks recorded)
    (delivered : Cartridge.ofEntry name opened = .ok cartridge)
    (fits : cartridge.data.length ≤ Layout.programCapacity) :
    Unpacks cartridge.data ∧ (checksum cartridge.data).toNat = recorded := by
  obtain ⟨reader, opened, taken⟩ := Cartridge.ofEntry_eq_ok delivered
  exact (verifies reader opened).whole taken (Nat.lt_succ_of_le fits)

/-- Of an entry that is too large just enough is delivered for the refusal, whatever its
checksum is. -/
theorem oversized_refused {reader : ByteReader State}
    (verifies : reader.Verifies Unpacks recorded) (unpacks : Unpacks content)
    (beyond : Layout.programCapacity < content.length) (name : String) (random : RandomSource) :
    Cartridge.ofEntry name (.ok reader) = .ok ⟨name, content.take Cartridge.readLimit⟩ ∧
      insert ⟨name, content.take Cartridge.readLimit⟩ random =
        .error ⟨Cartridge.readLimit, Layout.programCapacity⟩ := by
  have reaches : Cartridge.readLimit ≤ content.length := beyond
  have length_eq : (content.take Cartridge.readLimit).length = Cartridge.readLimit :=
    List.length_take_of_le reaches
  have refused := insert_of_oversized ⟨name, content.take Cartridge.readLimit⟩ random
    (by rw [length_eq]; exact Nat.lt_succ_self _)
  rw [length_eq] at refused
  exact ⟨Cartridge.ofEntry_of_take (verifies.take_of_unpacks unpacks (.inl reaches)), refused⟩

end Console

namespace Archive

variable {archive : Archive}

/-- Nothing that was truncated or changed gets into memory. -/
theorem inserted_of_extract {random : RandomSource} {console : Console}
    (delivered : archive.extract name = .ok cartridge)
    (accepted : Console.insert cartridge random = .ok console) :
    archive.Unpacks name cartridge.data ∧
      (checksum cartridge.data).toNat = archive.recorded name ∧
      console.processor.machine.memory.slice Layout.programStart Layout.programCapacity =
        cartridge.data ++
          List.replicate (Layout.programCapacity - cartridge.data.length) 0 := by
  obtain ⟨fits, -, placed⟩ := Console.memory_insert accepted
  obtain ⟨whole, verified⟩ :=
    Console.inserted_verified (fun _ => openEntry_verifies) delivered fits
  exact ⟨whole, verified, placed⟩

theorem extract_of_unpacks {reader : ByteReader Nat}
    (opened : archive.openEntry name = .ok reader) (unpacks : archive.Unpacks name content)
    (sound : Cartridge.readLimit ≤ content.length ∨
      (checksum content).toNat = archive.recorded name) :
    archive.extract name = .ok ⟨name, content.take Cartridge.readLimit⟩ := by
  rw [extract, opened]
  exact Cartridge.ofEntry_of_take ((openEntry_verifies opened).take_of_unpacks unpacks sound)

end Archive

namespace Console

/-- Nothing needs to be known of the archive but that its readers verify what they hand
out. Then a program in memory is all of its entry, and an entry that does not fit is refused. -/
theorem entry_inserted_whole {State : Type}
    (openEntry : String → Except EntryFault (ByteReader State))
    (Unpacks : String → List UInt8 → Prop) (recorded : String → Nat)
    (verifies : ∀ name reader, openEntry name = .ok reader →
      reader.Verifies (Unpacks name) (recorded name))
    (name : String) (random : RandomSource) :
    (∀ cartridge console, Cartridge.ofEntry name (openEntry name) = .ok cartridge →
      insert cartridge random = .ok console →
        Unpacks name cartridge.data ∧ (checksum cartridge.data).toNat = recorded name ∧
          cartridge.data.length ≤ 3584 ∧
          console.processor.machine.memory.size = 0x1000 ∧
          console.processor.machine.memory.slice 0x200 0xE00 =
            cartridge.data ++ List.replicate (0xE00 - cartridge.data.length) 0) ∧
      ∀ reader content, openEntry name = .ok reader → Unpacks name content →
        3584 < content.length →
          Cartridge.ofEntry name (openEntry name) = .ok ⟨name, content.take 3585⟩ ∧
            insert ⟨name, content.take 3585⟩ random = .error ⟨3585, 3584⟩ := by
  constructor
  · intro cartridge console delivered accepted
    obtain ⟨fits, size, placed⟩ := memory_insert accepted
    obtain ⟨whole, verified⟩ := inserted_verified (verifies name) delivered fits
    exact ⟨whole, verified, fits, size, placed⟩
  · intro reader content opened unpacks beyond
    rw [opened]
    exact oversized_refused (verifies name reader opened) unpacks beyond name random

/-- A jump to itself. -/
def loop : List UInt8 :=
  [0x12, 0x00]

def huge : List UInt8 :=
  List.replicate 0x4000 0xAB

theorem loop_inserted_whole :
    (∃ console,
      Cartridge.ofEntry "LOOP" ((Archive.ofStored "LOOP" loop).openEntry "LOOP") =
          .ok ⟨"LOOP", loop⟩ ∧
        insert ⟨"LOOP", loop⟩ ⟨fun _ => 0, 0⟩ = .ok console ∧
        (Archive.ofStored "LOOP" loop).Unpacks "LOOP" loop ∧
        (checksum loop).toNat = (Archive.ofStored "LOOP" loop).recorded "LOOP" ∧
        console.processor.machine.memory.slice 0x200 0xE00 = loop ++ List.replicate 3582 0) ∧
      Cartridge.ofEntry "HUGE" ((Archive.ofStored "HUGE" huge).openEntry "HUGE") =
          .ok ⟨"HUGE", huge.take 3585⟩ ∧
        insert ⟨"HUGE", huge.take 3585⟩ ⟨fun _ => 0, 0⟩ = .error ⟨3585, 3584⟩ := by
  have whole (archive : Archive) (name : String) :=
    entry_inserted_whole archive.openEntry archive.Unpacks archive.recorded
      (fun _ _ => Archive.openEntry_verifies) name ⟨fun _ => 0, 0⟩
  have delivered : Cartridge.ofEntry "LOOP" ((Archive.ofStored "LOOP" loop).openEntry "LOOP") =
      .ok ⟨"LOOP", loop⟩ := by
    rw [Archive.openEntry_ofStored]
    exact Cartridge.ofEntry_of_take
      ((Archive.readerOf_verifies _ .stored loop).take_of_unpacks rfl (.inr rfl))
  obtain ⟨console, accepted⟩ : ∃ console,
      insert ⟨"LOOP", loop⟩ ⟨fun _ => 0, 0⟩ = .ok console := by
    rw [insert, Machine.loadProgram_initial (by decide)]
    exact ⟨_, rfl⟩
  obtain ⟨unpacks, verified, -, -, placed⟩ :=
    (whole (.ofStored "LOOP" loop) "LOOP").1 _ _ delivered accepted
  refine ⟨⟨console, delivered, accepted, unpacks, verified, placed⟩, ?_⟩
  exact (whole (.ofStored "HUGE" huge) "HUGE").2 _ huge (Archive.openEntry_ofStored "HUGE" huge)
    (Archive.unpacks_ofStored "HUGE" huge) (by rw [huge, List.length_replicate]; decide)

end Console

end ChipEight
