namespace ChipEight

/-! Numbers in messages, records and listings: `0x`, then upper-case
hexadecimal digits, padded with zeros to at least four. -/

def Hex.digit (value : Nat) : Char :=
  if value < 10 then Char.ofNat (48 + value) else Char.ofNat (55 + value)

def Hex.digits (value : Nat) : List Char :=
  if value < 16 then
    [digit value]
  else
    digits (value / 16) ++ [digit (value % 16)]
termination_by value
decreasing_by omega

def Hex.padded (width : Nat) (digits : List Char) : List Char :=
  List.replicate (width - digits.length) '0' ++ digits

def Hex.literal (value : Nat) : String :=
  "0x" ++ String.ofList (padded 4 (digits value))

namespace Hex

/-- The number a digit stands for. -/
def digitValue (char : Char) : Nat :=
  if char.toNat < 65 then char.toNat - 48 else char.toNat - 55

/-- The number that digits stand for, the highest first. -/
def value (digits : List Char) : Nat :=
  digits.foldl (fun total char => 16 * total + digitValue char) 0

theorem digitValue_digit {number : Nat} (small : number < 16) :
    digitValue (digit number) = number := by
  revert number
  decide

theorem value_digits (number : Nat) : value (digits number) = number := by
  induction number using digits.induct with
  | case1 number small =>
      rw [digits, if_pos small, value, List.foldl_cons, List.foldl_nil,
        digitValue_digit small]
      omega
  | case2 number large ih =>
      unfold value at ih
      rw [digits, if_neg large, value, List.foldl_append, ih, List.foldl_cons, List.foldl_nil,
        digitValue_digit (Nat.mod_lt _ (by decide))]
      omega

theorem value_padded (width : Nat) (digits : List Char) :
    value (padded width digits) = value digits := by
  unfold value padded
  rw [List.foldl_append]
  congr 1
  induction width - digits.length with
  | zero => rfl
  | succ count ih => rw [List.replicate_succ, List.foldl_cons]; exact ih

theorem literal_injective {first second : Nat} (same : literal first = literal second) :
    first = second := by
  have texts := congrArg String.toList same
  simp only [literal, String.toList_append, String.toList_ofList,
    List.append_cancel_left_eq] at texts
  rw [← value_digits first, ← value_padded 4, texts, value_padded, value_digits]

theorem le_toNat_of_mem_digits {number : Nat} {char : Char} (member : char ∈ digits number) :
    48 ≤ char.toNat := by
  have digit_le : ∀ value < 16, 48 ≤ (digit value).toNat := by decide
  induction number using digits.induct with
  | case1 number small =>
      rw [digits, if_pos small] at member
      rw [List.mem_singleton.mp member]
      exact digit_le number small
  | case2 number large ih =>
      rw [digits, if_neg large] at member
      rcases List.mem_append.mp member with higher | last
      · exact ih higher
      · rw [List.mem_singleton.mp last]
        exact digit_le _ (Nat.mod_lt _ (by decide))

/-- Nothing in a number can be taken for what stands between numbers. -/
theorem le_toNat_of_mem_literal {number : Nat} {char : Char}
    (member : char ∈ (literal number).toList) : 48 ≤ char.toNat := by
  simp only [literal, padded, String.toList_append, String.toList_ofList, List.mem_append,
    List.mem_replicate] at member
  rcases member with mark | ⟨_, rfl⟩ | digit
  · have high : "0x".toList.all fun char => 48 ≤ char.toNat := by decide
    exact of_decide_eq_true (List.all_eq_true.mp high char mark)
  · decide
  · exact le_toNat_of_mem_digits digit

theorem notMem_literal {char : Char} (low : char.toNat < 48) (number : Nat) :
    char ∉ (literal number).toList :=
  fun member => Nat.not_lt_of_le (le_toNat_of_mem_literal member) low

end Hex

end ChipEight
