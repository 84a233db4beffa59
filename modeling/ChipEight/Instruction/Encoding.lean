import ChipEight.Instruction

namespace ChipEight

/-! Sixteen-bit opcodes. An opcode is read through its fields: the group is the
leading nibble, `x`, `y` and `n` are the nibbles behind it, `nn` is the last byte
and `nnn` the last twelve bits. `Instruction.decode?` reads an opcode and
`Instruction.encode` writes one. -/

abbrev Opcode := UInt16

def Opcode.group (opcode : Opcode) : Fin 16 :=
  ⟨opcode.toNat / 0x1000, by have := opcode.toNat_lt; omega⟩

def Opcode.x (opcode : Opcode) : Register :=
  ⟨opcode.toNat / 0x100 % 0x10, by omega⟩

def Opcode.y (opcode : Opcode) : Register :=
  ⟨opcode.toNat / 0x10 % 0x10, by omega⟩

def Opcode.n (opcode : Opcode) : Fin 16 :=
  ⟨opcode.toNat % 0x10, by omega⟩

def Opcode.nn (opcode : Opcode) : UInt8 :=
  UInt8.ofNat (opcode.toNat % 0x100)

def Opcode.nnn (opcode : Opcode) : Address :=
  ⟨opcode.toNat % 0x1000, by omega⟩

def Opcode.ofNibbles (group x y n : Fin 16) : Opcode :=
  UInt16.ofNat (group * 0x1000 + x * 0x100 + y * 0x10 + n)

def Opcode.ofByte (group x : Fin 16) (value : UInt8) : Opcode :=
  UInt16.ofNat (group * 0x1000 + x * 0x100 + value.toNat)

def Opcode.ofAddress (group : Fin 16) (target : Address) : Opcode :=
  UInt16.ofNat (group * 0x1000 + target)

def Operator.ofDigit? : Fin 16 → Option Operator
  | 0x0 => some .copy
  | 0x1 => some .or
  | 0x2 => some .and
  | 0x3 => some .xor
  | 0x4 => some .add
  | 0x5 => some .subtract
  | 0x6 => some .shiftRight
  | 0x7 => some .subtractFrom
  | 0xE => some .shiftLeft
  | _ => none

def Operator.digit : Operator → Fin 16
  | .copy => 0x0
  | .or => 0x1
  | .and => 0x2
  | .xor => 0x3
  | .add => 0x4
  | .subtract => 0x5
  | .shiftRight => 0x6
  | .subtractFrom => 0x7
  | .shiftLeft => 0xE

def Instruction.ofKeySelector? (x : Register) : UInt8 → Option Instruction
  | 0x9E => some (.skipIfPressed x)
  | 0xA1 => some (.skipUnlessPressed x)
  | _ => none

def Instruction.ofDeviceSelector? (x : Register) : UInt8 → Option Instruction
  | 0x07 => some (.readDelay x)
  | 0x0A => some (.awaitKey x)
  | 0x15 => some (.setDelay x)
  | 0x18 => some (.setSound x)
  | 0x1E => some (.advanceIndex x)
  | 0x29 => some (.pointAtGlyph x)
  | 0x33 => some (.storeDecimal x)
  | 0x55 => some (.storeRegisters x)
  | 0x65 => some (.loadRegisters x)
  | _ => none

/-- Opcodes outside the instruction set have no reading. -/
def Instruction.decode? (opcode : Opcode) : Option Instruction :=
  match opcode.group with
  | 0x0 =>
      if opcode = 0x00E0 then some .clearScreen
      else if opcode = 0x00EE then some .leave
      else none
  | 0x1 => some (.jump opcode.nnn)
  | 0x2 => some (.call opcode.nnn)
  | 0x3 => some (.skipIfEqual opcode.x opcode.nn)
  | 0x4 => some (.skipUnlessEqual opcode.x opcode.nn)
  | 0x5 => if opcode.n = 0 then some (.skipIfSame opcode.x opcode.y) else none
  | 0x6 => some (.assign opcode.x opcode.nn)
  | 0x7 => some (.increase opcode.x opcode.nn)
  | 0x8 => (Operator.ofDigit? opcode.n).map (.combine · opcode.x opcode.y)
  | 0x9 => if opcode.n = 0 then some (.skipUnlessSame opcode.x opcode.y) else none
  | 0xA => some (.point opcode.nnn)
  | 0xB => some (.jumpOffset opcode.nnn)
  | 0xC => some (.randomize opcode.x opcode.nn)
  | 0xD => some (.draw opcode.x opcode.y opcode.n)
  | 0xE => ofKeySelector? opcode.x opcode.nn
  | _ => ofDeviceSelector? opcode.x opcode.nn

def Instruction.encode : Instruction → Opcode
  | .clearScreen => 0x00E0
  | .leave => 0x00EE
  | .jump target => .ofAddress 0x1 target
  | .call target => .ofAddress 0x2 target
  | .skipIfEqual x value => .ofByte 0x3 x value
  | .skipUnlessEqual x value => .ofByte 0x4 x value
  | .skipIfSame x y => .ofNibbles 0x5 x y 0
  | .assign x value => .ofByte 0x6 x value
  | .increase x value => .ofByte 0x7 x value
  | .combine operator x y => .ofNibbles 0x8 x y operator.digit
  | .skipUnlessSame x y => .ofNibbles 0x9 x y 0
  | .point target => .ofAddress 0xA target
  | .jumpOffset target => .ofAddress 0xB target
  | .randomize x mask => .ofByte 0xC x mask
  | .draw x y height => .ofNibbles 0xD x y height
  | .skipIfPressed x => .ofByte 0xE x 0x9E
  | .skipUnlessPressed x => .ofByte 0xE x 0xA1
  | .readDelay x => .ofByte 0xF x 0x07
  | .awaitKey x => .ofByte 0xF x 0x0A
  | .setDelay x => .ofByte 0xF x 0x15
  | .setSound x => .ofByte 0xF x 0x18
  | .advanceIndex x => .ofByte 0xF x 0x1E
  | .pointAtGlyph x => .ofByte 0xF x 0x29
  | .storeDecimal x => .ofByte 0xF x 0x33
  | .storeRegisters x => .ofByte 0xF x 0x55
  | .loadRegisters x => .ofByte 0xF x 0x65

@[simp] theorem Operator.ofDigit?_digit (operator : Operator) :
    ofDigit? operator.digit = some operator := by
  cases operator <;> rfl

namespace Opcode

@[simp] theorem group_ofByte (group x : Fin 16) (value : UInt8) :
    (ofByte group x value).group = group := by
  apply Fin.ext
  have := value.toNat_lt
  simp only [Opcode.group, ofByte, UInt16.toNat_ofNat']
  omega

@[simp] theorem x_ofByte (group x : Fin 16) (value : UInt8) :
    (ofByte group x value).x = x := by
  apply Fin.ext
  have := value.toNat_lt
  simp only [Opcode.x, ofByte, UInt16.toNat_ofNat']
  omega

@[simp] theorem nn_ofByte (group x : Fin 16) (value : UInt8) :
    (ofByte group x value).nn = value := by
  apply UInt8.toNat.inj
  have := value.toNat_lt
  simp only [nn, ofByte, UInt16.toNat_ofNat', UInt8.toNat_ofNat']
  omega

@[simp] theorem group_ofAddress (group : Fin 16) (target : Address) :
    (ofAddress group target).group = group := by
  apply Fin.ext
  simp only [Opcode.group, ofAddress, UInt16.toNat_ofNat']
  omega

@[simp] theorem nnn_ofAddress (group : Fin 16) (target : Address) :
    (ofAddress group target).nnn = target := by
  apply Fin.ext
  simp only [nnn, ofAddress, UInt16.toNat_ofNat']
  omega

@[simp] theorem group_ofNibbles (group x y n : Fin 16) :
    (ofNibbles group x y n).group = group := by
  apply Fin.ext
  simp only [Opcode.group, ofNibbles, UInt16.toNat_ofNat']
  omega

@[simp] theorem x_ofNibbles (group x y n : Fin 16) : (ofNibbles group x y n).x = x := by
  apply Fin.ext
  simp only [Opcode.x, ofNibbles, UInt16.toNat_ofNat']
  omega

@[simp] theorem y_ofNibbles (group x y n : Fin 16) : (ofNibbles group x y n).y = y := by
  apply Fin.ext
  simp only [Opcode.y, ofNibbles, UInt16.toNat_ofNat']
  omega

@[simp] theorem n_ofNibbles (group x y n : Fin 16) : (ofNibbles group x y n).n = n := by
  apply Fin.ext
  simp only [Opcode.n, ofNibbles, UInt16.toNat_ofNat']
  omega

end Opcode

theorem Instruction.decode?_encode (instruction : Instruction) :
    decode? instruction.encode = some instruction := by
  cases instruction <;>
    simp [decode?, encode, ofKeySelector?, ofDeviceSelector?] <;> rfl

namespace Opcode

variable {opcode : Opcode} {group digit : Fin 16} {value : UInt8}

theorem group_eq_iff : opcode.group = digit ↔ opcode.toNat / 0x1000 = digit :=
  Fin.ext_iff

theorem n_eq_iff : opcode.n = digit ↔ opcode.toNat % 0x10 = digit :=
  Fin.ext_iff

theorem nn_eq_iff : opcode.nn = value ↔ opcode.toNat % 0x100 = value.toNat := by
  rw [← UInt8.toNat_inj, nn, UInt8.toNat_ofNat']
  omega

theorem ofByte_of_group (same : opcode.group = group) :
    ofByte group opcode.x opcode.nn = opcode := by
  subst same
  apply UInt16.toNat.inj
  have := opcode.toNat_lt
  simp only [ofByte, Opcode.group, x, nn, UInt16.toNat_ofNat', UInt8.toNat_ofNat']
  omega

theorem ofAddress_of_group (same : opcode.group = group) :
    ofAddress group opcode.nnn = opcode := by
  subst same
  apply UInt16.toNat.inj
  have := opcode.toNat_lt
  simp only [ofAddress, Opcode.group, nnn, UInt16.toNat_ofNat']
  omega

theorem ofNibbles_of_group (same : opcode.group = group) :
    ofNibbles group opcode.x opcode.y opcode.n = opcode := by
  subst same
  apply UInt16.toNat.inj
  have := opcode.toNat_lt
  simp only [ofNibbles, Opcode.group, x, y, n, UInt16.toNat_ofNat']
  omega

end Opcode

theorem Operator.digit_of_ofDigit? {digit : Fin 16} {operator : Operator}
    (read : ofDigit? digit = some operator) : operator.digit = digit := by
  unfold ofDigit? at read
  split at read
  all_goals cases read
  all_goals rfl

namespace Instruction

variable {opcode : Opcode} {instruction : Instruction}

theorem encode_of_ofKeySelector? (group : opcode.group = 0xE)
    (read : ofKeySelector? opcode.x opcode.nn = some instruction) :
    instruction.encode = opcode := by
  have fields := Opcode.ofByte_of_group group
  unfold ofKeySelector? at read
  split at read
  all_goals cases read
  all_goals simp_all only [encode]

theorem encode_of_ofDeviceSelector? (group : opcode.group = 0xF)
    (read : ofDeviceSelector? opcode.x opcode.nn = some instruction) :
    instruction.encode = opcode := by
  have fields := Opcode.ofByte_of_group group
  unfold ofDeviceSelector? at read
  split at read
  all_goals cases read
  all_goals simp_all only [encode]

theorem encode_of_decode? (read : decode? opcode = some instruction) :
    instruction.encode = opcode := by
  unfold decode? at read
  -- The group says which of the three forms an opcode has.
  split at read
  case h_1 => grind [encode]
  case h_2 group | h_3 group | h_11 group | h_12 group =>
    cases read
    exact Opcode.ofAddress_of_group group
  case h_4 group | h_5 group | h_7 group | h_8 group | h_13 group =>
    cases read
    exact Opcode.ofByte_of_group group
  case h_6 group | h_10 group =>
    split at read
    next zero =>
      cases read
      rw [encode, ← zero]
      exact Opcode.ofNibbles_of_group group
    next => cases read
  case h_9 group =>
    obtain ⟨operator, operation, rfl⟩ := Option.map_eq_some_iff.mp read
    rw [encode, Operator.digit_of_ofDigit? operation]
    exact Opcode.ofNibbles_of_group group
  case h_14 group =>
    cases read
    exact Opcode.ofNibbles_of_group group
  case h_15 group => exact encode_of_ofKeySelector? group read
  case h_16 => exact encode_of_ofDeviceSelector? (by grind) read

theorem decode?_eq_some_iff : decode? opcode = some instruction ↔ instruction.encode = opcode :=
  ⟨encode_of_decode?, fun written => written ▸ decode?_encode instruction⟩

theorem decode?_eq_none_iff :
    decode? opcode = none ↔ ∀ instruction : Instruction, instruction.encode ≠ opcode := by
  simp only [Option.eq_none_iff_forall_ne_some, ne_eq, decode?_eq_some_iff]

end Instruction

end ChipEight
