import Mathlib.Tactic.ByContra

namespace ChipEight.Bits

/-! Bytes through their bits. -/

theorem testBit_eq_false {byte : UInt8} {i : Nat} (beyond : 8 ≤ i) :
    byte.toNat.testBit i = false :=
  Nat.testBit_lt_two_pow
    (Nat.lt_of_lt_of_le byte.toNat_lt (Nat.pow_le_pow_right (by decide) beyond))

theorem eq_of_testBit {first second : UInt8}
    (same : ∀ i < 8, first.toNat.testBit i = second.toNat.testBit i) :
    first = second := by
  apply UInt8.toNat.inj
  apply Nat.eq_of_testBit_eq
  intro i
  by_cases inside : i < 8
  · exact same i inside
  · have beyond := Nat.le_of_not_lt inside
    rw [testBit_eq_false beyond, testBit_eq_false beyond]

theorem testBit_shiftRight (byte : UInt8) {shift : Nat} (small : shift < 8) (i : Nat) :
    (byte >>> UInt8.ofNat shift).toNat.testBit i = byte.toNat.testBit (shift + i) := by
  have amount : (UInt8.ofNat shift).toNat % 8 = shift := by
    rw [UInt8.toNat_ofNat']
    omega
  rw [UInt8.toNat_shiftRight, amount, Nat.testBit_shiftRight]

theorem testBit_shiftLeft (byte : UInt8) {shift : Nat} (small : shift < 8) (i : Nat) :
    (byte <<< UInt8.ofNat shift).toNat.testBit i =
      (decide (i < 8) && (decide (shift ≤ i) && byte.toNat.testBit (i - shift))) := by
  have amount : (UInt8.ofNat shift).toNat % 8 = shift := by
    rw [UInt8.toNat_ofNat']
    omega
  rw [UInt8.toNat_shiftLeft, amount, Nat.testBit_mod_two_pow, Nat.testBit_shiftLeft]

theorem flip_erases_iff (byte bits : UInt8) :
    ((byte ^^^ bits) &&& bits != bits) = true ↔
      ∃ i < 8, bits.toNat.testBit i = true ∧ byte.toNat.testBit i = true := by
  rw [bne_iff_ne]
  constructor
  · intro differ
    by_contra none
    apply differ
    apply eq_of_testBit
    intro i inside
    rw [UInt8.toNat_and, UInt8.toNat_xor, Nat.testBit_and, Nat.testBit_xor]
    cases set : bits.toNat.testBit i with
    | false => simp
    | true =>
        have clear : byte.toNat.testBit i ≠ true :=
          fun lit => none ⟨i, inside, set, lit⟩
        simp [clear]
  · rintro ⟨i, inside, set, lit⟩ same
    have bit := congrArg (fun value => value.toNat.testBit i) same
    simp [UInt8.toNat_and, UInt8.toNat_xor, set, lit] at bit

end ChipEight.Bits
