import ChipEight.Archive.CodeTree

namespace ChipEight

/-! Unpacking deflated data: blocks of stored bytes, or of symbols in a fixed or
a transmitted code, each symbol a byte, a repetition of earlier output, or the
end of its block. -/

namespace Inflate

structure Progress where
  output : Array UInt8
  rest : Except Halt BitReader

def endOfBlock : Nat :=
  256

def firstLength : Nat :=
  endOfBlock + 1

/-- Length symbols from `firstLength` on: least length and count of extra bits. -/
def lengthSymbols : List (Nat × Nat) :=
  [(3, 0), (4, 0), (5, 0), (6, 0), (7, 0), (8, 0), (9, 0), (10, 0),
   (11, 1), (13, 1), (15, 1), (17, 1), (19, 2), (23, 2), (27, 2), (31, 2),
   (35, 3), (43, 3), (51, 3), (59, 3), (67, 4), (83, 4), (99, 4), (115, 4),
   (131, 5), (163, 5), (195, 5), (227, 5), (258, 0)]

/-- Distance symbols: least distance and count of extra bits. -/
def distanceSymbols : List (Nat × Nat) :=
  [(1, 0), (2, 0), (3, 0), (4, 0), (5, 1), (7, 1), (9, 2), (13, 2),
   (17, 3), (25, 3), (33, 4), (49, 4), (65, 5), (97, 5), (129, 6), (193, 6),
   (257, 7), (385, 7), (513, 8), (769, 8), (1025, 9), (1537, 9), (2049, 10), (3073, 10),
   (4097, 11), (6145, 11), (8193, 12), (12289, 12), (16385, 13), (24577, 13)]

def readExtended (symbols : List (Nat × Nat)) (first symbol : Nat) (reader : BitReader) :
    Reading Nat :=
  match (symbols.zipIdx first).find? fun (_, number) => number = symbol with
  | none => .error .corrupt
  | some ((least, extraBits), _) =>
      match reader.take extraBits with
      | .error halt => .error halt
      | .ok (extra, rest) => .ok (least + extra, rest)

def readRepetition (distances : CodeTree) (symbol : Nat) (reader : BitReader) :
    Reading (Nat × Nat) :=
  match readExtended lengthSymbols firstLength symbol reader with
  | .error halt => .error halt
  | .ok (length, rest) =>
      match distances.decode rest with
      | .error halt => .error halt
      | .ok (symbol, rest) =>
          match readExtended distanceSymbols 0 symbol rest with
          | .error halt => .error halt
          | .ok (distance, rest) => .ok ((length, distance), rest)

/-- In front of the output lie zeros. -/
def back (output : Array UInt8) (distance : Nat) : UInt8 :=
  if distance ≤ output.size then output.getD (output.size - distance) 0 else 0

/-- Byte by byte, so that a repetition may overlap itself. -/
def repeatBack (distance : Nat) : Nat → Array UInt8 → Array UInt8
  | 0, output => output
  | length + 1, output => repeatBack distance length (output.push (back output distance))

theorem remaining_readExtended_le {symbols : List (Nat × Nat)} {first symbol value : Nat}
    {reader rest : BitReader}
    (read_eq : readExtended symbols first symbol reader = .ok (value, rest)) :
    rest.remaining ≤ reader.remaining := by
  unfold readExtended at read_eq
  split at read_eq
  · cases read_eq
  · split at read_eq
    · cases read_eq
    · rename_i take_eq
      cases read_eq
      exact Nat.le.intro (BitReader.remaining_take take_eq)

theorem remaining_readRepetition_le {distances : CodeTree} {symbol : Nat}
    {reader rest : BitReader} {repetition : Nat × Nat}
    (read_eq : readRepetition distances symbol reader = .ok (repetition, rest)) :
    rest.remaining ≤ reader.remaining := by
  unfold readRepetition at read_eq
  split at read_eq
  · cases read_eq
  · rename_i length_eq
    split at read_eq
    · cases read_eq
    · rename_i decode_eq
      split at read_eq
      · cases read_eq
      · rename_i distance_eq
        cases read_eq
        have := remaining_readExtended_le length_eq
        have := CodeTree.remaining_decode_lt decode_eq
        have := remaining_readExtended_le distance_eq
        omega

def symbols (limit : Nat) (literals distances : CodeTree) (output : Array UInt8)
    (reader : BitReader) : Progress :=
  if limit < output.size then
    ⟨output, .error .full⟩
  else
    match _decode_eq : literals.decode reader with
    | .error halt => ⟨output, .error halt⟩
    | .ok (symbol, rest) =>
        if symbol < endOfBlock then
          symbols limit literals distances (output.push (UInt8.ofNat symbol)) rest
        else if symbol = endOfBlock then
          ⟨output, .ok rest⟩
        else
          match _repetition_eq : readRepetition distances symbol rest with
          | .error halt => ⟨output, .error halt⟩
          | .ok ((length, distance), rest) =>
              symbols limit literals distances (repeatBack distance length output) rest
termination_by reader.remaining
decreasing_by
  · exact CodeTree.remaining_decode_lt _decode_eq
  · exact Nat.lt_of_le_of_lt (remaining_readRepetition_le _repetition_eq)
      (CodeTree.remaining_decode_lt _decode_eq)

theorem remaining_symbols_le {limit : Nat} {literals distances : CodeTree} {output : Array UInt8}
    {reader rest : BitReader}
    (rest_eq : (symbols limit literals distances output reader).rest = .ok rest) :
    rest.remaining ≤ reader.remaining := by
  fun_induction symbols limit literals distances output reader with
  | case1 => cases rest_eq
  | case2 => cases rest_eq
  | case3 _ _ _ _ _ decode_eq _ ih =>
      exact Nat.le_of_lt (Nat.lt_of_le_of_lt (ih rest_eq)
        (CodeTree.remaining_decode_lt decode_eq))
  | case4 _ _ _ _ decode_eq _ =>
      cases rest_eq
      exact Nat.le_of_lt (CodeTree.remaining_decode_lt decode_eq)
  | case5 => cases rest_eq
  | case6 _ _ _ _ _ decode_eq _ _ _ _ _ repetition_eq ih =>
      exact Nat.le_of_lt (Nat.lt_of_le_of_lt
        (Nat.le_trans (ih rest_eq) (remaining_readRepetition_le repetition_eq))
        (CodeTree.remaining_decode_lt decode_eq))

/-- The lengths of the code that itself gives lengths come in this order. -/
def lengthOrder : List Nat :=
  [16, 17, 18, 0, 8, 7, 9, 6, 10, 5, 11, 4, 12, 3, 13, 2, 14, 1, 15]

def orderedLengths (lengths : List Nat) : List Nat :=
  (List.range lengthOrder.length).map fun symbol =>
    ((lengthOrder.zip lengths).lookup symbol).getD 0

def readLengthRun (previous : Option Nat) (symbol : Nat) (reader : BitReader) :
    Reading (List Nat) :=
  let extended (value least extraBits : Nat) : Reading (List Nat) :=
    match reader.take extraBits with
    | .error halt => .error halt
    | .ok (extra, rest) => .ok (List.replicate (least + extra) value, rest)
  if symbol < 16 then
    .ok ([symbol], reader)
  else if symbol = 16 then
    match previous with
    | none => .error .corrupt
    | some value => extended value 3 2
  else if symbol = 17 then
    extended 0 3 3
  else
    extended 0 11 7

theorem remaining_readLengthRun_le {previous : Option Nat} {symbol : Nat}
    {reader rest : BitReader} {lengths : List Nat}
    (read_eq : readLengthRun previous symbol reader = .ok (lengths, rest)) :
    rest.remaining ≤ reader.remaining := by
  unfold readLengthRun at read_eq
  grind [BitReader.remaining_take]

/-- Reads lengths until there are as many as wanted; more than that is an error. -/
def readLengths (code : CodeTree) (wanted : Nat) (lengths : Array Nat) (reader : BitReader) :
    Reading (List Nat) :=
  if wanted ≤ lengths.size then
    if lengths.size = wanted then .ok (lengths.toList, reader) else .error .corrupt
  else
    match _decode_eq : code.decode reader with
    | .error halt => .error halt
    | .ok (symbol, rest) =>
        match _run_eq : readLengthRun lengths.back? symbol rest with
        | .error halt => .error halt
        | .ok (run, rest) => readLengths code wanted (lengths ++ run) rest
termination_by reader.remaining
decreasing_by
  exact Nat.lt_of_le_of_lt (remaining_readLengthRun_le _run_eq)
    (CodeTree.remaining_decode_lt _decode_eq)

theorem remaining_readLengths_le {code : CodeTree} {wanted : Nat} {lengths : Array Nat}
    {reader rest : BitReader} {result : List Nat}
    (read_eq : readLengths code wanted lengths reader = .ok (result, rest)) :
    rest.remaining ≤ reader.remaining := by
  fun_induction readLengths code wanted lengths reader with
  | case1 => cases read_eq; exact Nat.le_refl _
  | case2 => cases read_eq
  | case3 => cases read_eq
  | case4 => cases read_eq
  | case5 _ _ _ _ _ decode_eq _ _ run_eq ih =>
      exact Nat.le_of_lt (Nat.lt_of_le_of_lt
        (Nat.le_trans (ih read_eq) (remaining_readLengthRun_le run_eq))
        (CodeTree.remaining_decode_lt decode_eq))

structure Codes where
  literals : CodeTree
  distances : CodeTree

def fixedCodes : Codes :=
  ⟨CodeTree.ofLengths (List.replicate 144 8 ++ List.replicate 112 9 ++
      List.replicate 24 7 ++ List.replicate 8 8),
   CodeTree.ofLengths (List.replicate 32 5)⟩

/-- A code of at most one symbol need not be complete. -/
def codesOfLengths (literals distances : List Nat) : Except Halt Codes :=
  let usable (lengths : List Nat) : Bool :=
    CodeTree.isComplete lengths || CodeTree.isSparse lengths
  if usable literals && usable distances then
    .ok ⟨CodeTree.ofLengths literals, CodeTree.ofLengths distances⟩
  else
    .error .corrupt

def readCounts (reader : BitReader) : Reading (Nat × Nat × Nat) :=
  match reader.take 14 with
  | .error halt => .error halt
  | .ok (counts, rest) =>
      let literals := counts % 32 + 257
      let distances := counts / 32 % 32 + 1
      if literals ≤ 286 && distances ≤ 30 then
        .ok ((literals, distances, counts / 1024 + 4), rest)
      else
        .error .corrupt

def readLengthCode (count : Nat) (reader : BitReader) : Reading CodeTree :=
  match reader.takeEach 3 count with
  | .error halt => .error halt
  | .ok (lengths, rest) =>
      if CodeTree.isComplete lengths then
        .ok (CodeTree.ofLengths (orderedLengths lengths), rest)
      else
        .error .corrupt

theorem remaining_readCounts_le {reader rest : BitReader} {counts : Nat × Nat × Nat}
    (read_eq : readCounts reader = .ok (counts, rest)) :
    rest.remaining ≤ reader.remaining := by
  unfold readCounts at read_eq
  grind [BitReader.remaining_take]

theorem remaining_readLengthCode_le {count : Nat} {reader rest : BitReader}
    {code : CodeTree} (read_eq : readLengthCode count reader = .ok (code, rest)) :
    rest.remaining ≤ reader.remaining := by
  unfold readLengthCode at read_eq
  grind [BitReader.remaining_takeEach]

def readCodes (reader : BitReader) : Reading Codes :=
  match readCounts reader with
  | .error halt => .error halt
  | .ok ((literals, distances, lengths), rest) =>
      match readLengthCode lengths rest with
      | .error halt => .error halt
      | .ok (lengthCode, rest) =>
          match readLengths lengthCode (literals + distances) #[] rest with
          | .error halt => .error halt
          | .ok (lengths, rest) =>
              match codesOfLengths (lengths.take literals) (lengths.drop literals) with
              | .error halt => .error halt
              | .ok codes => .ok (codes, rest)

theorem remaining_readCodes_le {reader rest : BitReader} {codes : Codes}
    (read_eq : readCodes reader = .ok (codes, rest)) :
    rest.remaining ≤ reader.remaining := by
  unfold readCodes at read_eq
  split at read_eq
  · cases read_eq
  · rename_i counts_eq
    split at read_eq
    · cases read_eq
    · rename_i lengthCode_eq
      split at read_eq
      · cases read_eq
      · rename_i lengths_eq
        split at read_eq
        · cases read_eq
        · cases read_eq
          exact Nat.le_trans (remaining_readLengths_le lengths_eq)
            (Nat.le_trans (remaining_readLengthCode_le lengthCode_eq)
              (remaining_readCounts_le counts_eq))

/-- A block of stored bytes: a length, its complement, then the bytes. -/
def stored (output : Array UInt8) (reader : BitReader) : Progress :=
  match reader.align.take 32 with
  | .error halt => ⟨output, .error halt⟩
  | .ok (header, rest) =>
      let length := header % 0x10000
      if length + header / 0x10000 = 0xFFFF then
        let output := output ++ rest.bytes.take length
        if rest.bytes.length < length then
          ⟨output, .error .incomplete⟩
        else
          ⟨output, .ok ⟨[], rest.bytes.drop length⟩⟩
      else
        ⟨output, .error .corrupt⟩

theorem remaining_stored_le {output : Array UInt8} {reader rest : BitReader}
    (rest_eq : (stored output reader).rest = .ok rest) :
    rest.remaining ≤ reader.remaining := by
  unfold stored at rest_eq
  split at rest_eq
  · cases rest_eq
  · rename_i take_eq
    have taken := BitReader.remaining_take take_eq
    have aligned := BitReader.remaining_align_le reader
    simp only at rest_eq
    split at rest_eq
    · split at rest_eq
      · cases rest_eq
      · cases rest_eq
        simp only [BitReader.remaining, List.length_nil, List.length_drop] at taken aligned ⊢
        omega
    · cases rest_eq

def block (limit kind : Nat) (output : Array UInt8) (reader : BitReader) : Progress :=
  match kind with
  | 0 => stored output reader
  | 1 => symbols limit fixedCodes.literals fixedCodes.distances output reader
  | 2 =>
      match readCodes reader with
      | .error halt => ⟨output, .error halt⟩
      | .ok (codes, rest) => symbols limit codes.literals codes.distances output rest
  | _ => ⟨output, .error .corrupt⟩

theorem remaining_block_le {limit kind : Nat} {output : Array UInt8}
    {reader rest : BitReader} (rest_eq : (block limit kind output reader).rest = .ok rest) :
    rest.remaining ≤ reader.remaining := by
  unfold block at rest_eq
  split at rest_eq
  · exact remaining_stored_le rest_eq
  · exact remaining_symbols_le rest_eq
  · split at rest_eq
    · cases rest_eq
    · rename_i codes_eq
      exact Nat.le_trans (remaining_symbols_le rest_eq) (remaining_readCodes_le codes_eq)
  · cases rest_eq

/-- All blocks: a bit that marks the last one, two bits of kind, then the block. -/
def blocks (limit : Nat) (output : Array UInt8) (reader : BitReader) : Progress :=
  if limit < output.size then
    ⟨output, .error .full⟩
  else
    match _header_eq : reader.take 3 with
    | .error halt => ⟨output, .error halt⟩
    | .ok (header, rest) =>
        let progress := block limit (header / 2) output rest
        match _block_eq : progress.rest with
        | .error _ => progress
        | .ok rest =>
            if header % 2 = 1 then progress else blocks limit progress.output rest
termination_by reader.remaining
decreasing_by
  have block_le := remaining_block_le _block_eq
  have header_lt := BitReader.remaining_take _header_eq
  omega

end Inflate

/-- Unpacked data: what came out, and why no more did if the end was not reached. -/
structure Inflated where
  output : List UInt8
  halt : Option Halt
  deriving DecidableEq, Repr

/-- Unpacks until the end of the last block, or until more than `limit` bytes are out. -/
def Inflated.ofPacked (limit : Nat) (packed : List UInt8) : Inflated :=
  let progress := Inflate.blocks limit #[] (BitReader.ofBytes packed)
  { output := progress.output.toList
    halt := match progress.rest with
      | .ok _ => none
      | .error halt => some halt }

end ChipEight
