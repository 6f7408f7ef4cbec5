import Schedule.Numeral
import Schedule.Proofs.TokenKinds

/-! # Numerals and the numbers they denote

Zeros at the beginning do not count, and a numeral of `n` further digits denotes a number below
`10 ^ n`. The shortest numeral of a number denotes it again.
-/

namespace Schedule.Numeral

/-- A digit adds less than ten. -/
theorem digit_lt {c : Char} (digit : isDigit c = true) : c.toNat - '0'.toNat < 10 := by
  obtain ⟨_, greatest⟩ := (isDigit_iff c).mp digit
  have zero : '0'.toNat = 48 := rfl
  have same : c.toNat = c.val.toNat := rfl
  omega

theorem value_lt {digits : List Char} (valid : ∀ c ∈ digits, isDigit c = true) :
    value digits < Nat.pow 10 digits.length := by
  induction digits with
  | nil => decide
  | cons c cs ih =>
    rw [List.forall_mem_cons] at valid
    have first := digit_lt valid.1
    have rest : Nat.ofDigitChars 10 cs 0 < Nat.pow 10 cs.length := ih valid.2
    have scaled : Nat.pow 10 cs.length * (10 * 0 + (c.toNat - '0'.toNat)) ≤
        Nat.pow 10 cs.length * 9 := Nat.mul_le_mul_left _ (by omega)
    rw [value, Nat.ofDigitChars_cons, Nat.ofDigitChars_eq_ofDigitChars_zero]
    change Nat.pow 10 cs.length * (10 * 0 + (c.toNat - '0'.toNat)) + Nat.ofDigitChars 10 cs 0 <
      Nat.pow 10 cs.length * 10
    omega

/-- Zeros at the beginning do not count. -/
theorem value_dropWhile (digits : List Char) :
    value (digits.dropWhile (· == '0')) = value digits := by
  induction digits with
  | nil => rfl
  | cons c cs ih =>
    rw [List.dropWhile_cons]
    split
    · next zero =>
      rw [beq_iff_eq] at zero
      subst zero
      rw [ih, value, value, Nat.ofDigitChars_cons]
      rfl
    · rfl

/-- A number of at most nine digits after its leading zeros is below a thousand million. -/
theorem value_le {digits : List Char} (valid : ∀ c ∈ digits, isDigit c = true)
    (short : (digits.dropWhile (· == '0')).length ≤ 9) : value digits ≤ 999999999 := by
  have kept : ∀ c ∈ digits.dropWhile (· == '0'), isDigit c = true := fun c member =>
    valid c (List.dropWhile_sublist _ |>.subset member)
  have bound := value_lt kept
  rw [value_dropWhile] at bound
  have power : Nat.pow 10 (digits.dropWhile (· == '0')).length ≤ Nat.pow 10 9 :=
    Nat.pow_le_pow_right (by decide) short
  exact Nat.le_of_lt_succ (Nat.lt_of_lt_of_le bound power)

theorem isDigit_of_mem_repr {n : Nat} {c : Char} (member : c ∈ n.repr.toList) :
    isDigit c = true := by
  rw [Nat.toList_repr] at member
  have digit : c.isDigit = true := Nat.isDigit_of_mem_toDigits (by decide) (by decide) member
  rw [isDigit_iff]
  simp only [Char.isDigit, Bool.and_eq_true, decide_eq_true_eq, ge_iff_le,
    UInt32.le_iff_toNat_le] at digit
  exact digit

theorem value_repr (n : Nat) : value n.repr.toList = n := by
  rw [value, Nat.toList_repr, Nat.ofDigitChars_ten_toDigits]

theorem length_repr {n : Nat} (small : n ≤ 999999999) : n.repr.toList.length ≤ 9 := by
  rw [Nat.toList_repr, Nat.length_toDigits_le_iff (by decide) (by decide)]
  omega

end Schedule.Numeral
