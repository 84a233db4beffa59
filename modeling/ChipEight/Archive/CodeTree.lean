import ChipEight.Archive.BitReader

namespace ChipEight

/-! Canonical codes of variable length. A code is given by the length of each
symbol's codeword; codewords of one length are consecutive, shorter ones first. -/

inductive CodeTree where
  | empty
  | leaf (symbol : Nat)
  | node (zero one : CodeTree)

namespace CodeTree

def maxLength : Nat :=
  15

def insert (symbol : Nat) : List Bool → CodeTree → CodeTree
  | [], _ => .leaf symbol
  | bit :: code, .node zero one =>
      if bit then .node zero (one.insert symbol code) else .node (zero.insert symbol code) one
  | bit :: code, _ =>
      if bit then .node .empty (empty.insert symbol code)
      else .node (empty.insert symbol code) .empty

def symbolsOfLength (lengths : List Nat) (length : Nat) : List Nat :=
  (lengths.zipIdx.filter fun (candidate, _) => candidate = length).map (·.2)

def codeword (length code : Nat) : List Bool :=
  (List.range length).reverse.map code.testBit

/-- Codewords for the given lengths in turn, `first` being free at the first of them. -/
def codewords (lengths : List Nat) (first : Nat) : List Nat → List (List Bool × Nat)
  | [] => []
  | length :: longer =>
      let symbols := symbolsOfLength lengths length
      symbols.zipIdx.map (fun (symbol, rank) => (codeword length (first + rank), symbol)) ++
        codewords lengths (2 * (first + symbols.length)) longer

/-- Each codeword takes up its share of all continuations; a complete code takes up all. -/
def isComplete (lengths : List Nat) : Bool :=
  let shares := (lengths.filter (· ≠ 0)).map fun length => Nat.pow 2 (maxLength - length)
  shares.foldl Nat.add 0 = Nat.pow 2 maxLength

/-- No symbol at all, or a single one whose codeword is a single bit. -/
def isSparse (lengths : List Nat) : Bool :=
  match lengths.filter (· ≠ 0) with
  | [] => true
  | [length] => length = 1
  | _ => false

def ofLengths (lengths : List Nat) : CodeTree :=
  (codewords lengths 0 (List.range' 1 maxLength)).foldl
    (fun tree (code, symbol) => tree.insert symbol code) .empty

def walk : CodeTree → BitReader → Reading Nat
  | .empty, _ => .error .corrupt
  | .leaf symbol, reader => .ok (symbol, reader)
  | .node zero one, reader =>
      match reader.next with
      | .error halt => .error halt
      | .ok (true, rest) => one.walk rest
      | .ok (false, rest) => zero.walk rest

/-- The next symbol. No codeword is empty, so at least one bit is read; where
there are no codewords, that bit belongs to none. -/
def decode (tree : CodeTree) (reader : BitReader) : Reading Nat :=
  match tree with
  | .node _ _ => tree.walk reader
  | _ =>
      match reader.next with
      | .error halt => .error halt
      | .ok _ => .error .corrupt

theorem remaining_walk_le {tree : CodeTree} {symbol : Nat} {reader rest : BitReader}
    (walk_eq : tree.walk reader = .ok (symbol, rest)) :
    rest.remaining ≤ reader.remaining := by
  induction tree generalizing reader with
  | empty => cases walk_eq
  | leaf _ => cases walk_eq; exact Nat.le_refl _
  | node zero one zeroIh oneIh =>
      simp only [walk] at walk_eq
      split at walk_eq
      · cases walk_eq
      · rename_i next_eq
        have := oneIh walk_eq
        have := BitReader.remaining_next next_eq
        omega
      · rename_i next_eq
        have := zeroIh walk_eq
        have := BitReader.remaining_next next_eq
        omega

theorem remaining_decode_lt {tree : CodeTree} {symbol : Nat} {reader rest : BitReader}
    (decode_eq : tree.decode reader = .ok (symbol, rest)) :
    rest.remaining < reader.remaining := by
  unfold decode at decode_eq
  split at decode_eq
  · simp only [walk] at decode_eq
    split at decode_eq
    · cases decode_eq
    all_goals
      rename_i next_eq
      have := remaining_walk_le decode_eq
      have := BitReader.remaining_next next_eq
      omega
  · split at decode_eq <;> cases decode_eq

end CodeTree

end ChipEight
