import Mathlib.Tactic.Common
import Schedule.Token

/-! # Kinds of tokens

Marks, numbers, weekdays and names are different tokens: none is of two of these kinds. The readers
and the grammar ask for the kinds in different orders, which therefore does not matter.
-/

namespace Schedule

/-- A digit is one of the characters from 48 to 57. -/
theorem isDigit_iff (c : Char) : isDigit c = true ↔ 48 ≤ c.val.toNat ∧ c.val.toNat ≤ 57 := by
  simp only [isDigit, Bool.and_eq_true, decide_eq_true_eq, Char.le_def, UInt32.le_iff_toNat_le]
  rfl

theorem isLetter_of_isDigit {c : Char} (digit : isDigit c = true) : isLetter c = false := by
  obtain ⟨least, greatest⟩ := (isDigit_iff c).mp digit
  simp only [isLetter, Bool.or_eq_false_iff, Bool.and_eq_false_iff, decide_eq_false_iff_not,
    Char.le_def, UInt32.le_iff_toNat_le]
  have lower : ('a' : Char).val.toNat = 97 := rfl
  have upper : ('A' : Char).val.toNat = 65 := rfl
  omega

/-- Digits have no letter case to fold. -/
theorem foldChar_of_isDigit {c : Char} (digit : isDigit c = true) : Text.foldChar c = c := by
  obtain ⟨_, greatest⟩ := (isDigit_iff c).mp digit
  have notKelvin : c ≠ '\u212a' := by
    rintro rfl
    exact absurd greatest (by decide)
  have notUpper : ¬ (c.val ≥ 'A'.val ∧ c.val ≤ 'Z'.val) := by
    rintro ⟨upper, _⟩
    have least : ('A' : Char).val.toNat = 65 := rfl
    have := UInt32.le_iff_toNat_le.mp upper
    omega
  rw [Text.foldChar, if_neg notKelvin]
  exact dif_neg notUpper

namespace Token

variable {t : Token}

theorem isMark_iff (t : Token) :
    t.isMark = true ↔ t.value ∈ ["(", ")", "-", ",", "!", "/", "%"] := by
  constructor
  · intro mark
    unfold isMark at mark
    split at mark
    · next c single =>
      have spelt : t.value = String.ofList [c] := by rw [← single, String.ofList_toList]
      rw [spelt]
      simp only [Schedule.isMark, Bool.or_eq_true, beq_iff_eq] at mark
      rcases mark with ((((((rfl | rfl) | rfl) | rfl) | rfl) | rfl) | rfl) <;> decide
    · contradiction
  · intro listed
    simp only [List.mem_cons, List.not_mem_nil, or_false] at listed
    rcases listed with h | h | h | h | h | h | h <;> rw [isMark, h] <;> decide

/-- What a token is does not depend on where it stands. -/
theorem kinds_congr {s t : Token} (same : s.value = t.value) :
    s.isMark = t.isMark ∧ s.isNumber = t.isNumber ∧ s.weekday? = t.weekday? ∧
      s.isName = t.isName := by
  simp only [isMark, isNumber, isName, isIdentifier, isWeekday, weekday?, same, and_self]

/-- A mark is neither a number nor a weekday nor a name. -/
theorem kinds_of_isMark (mark : t.isMark = true) :
    t.isNumber = false ∧ t.weekday? = none ∧ t.isName = false := by
  have table : ∀ value ∈ ["(", ")", "-", ",", "!", "/", "%"],
      (Token.mk 0 value).isNumber = false ∧ (Token.mk 0 value).weekday? = none ∧
        (Token.mk 0 value).isName = false := by decide
  have same : (Token.mk 0 t.value).value = t.value := rfl
  rw [← (kinds_congr same).2.1, ← (kinds_congr same).2.2.1, ← (kinds_congr same).2.2.2]
  exact table t.value ((isMark_iff t).mp mark)

/-- A number spells no weekday, all of whose keywords have letters. -/
theorem weekday?_of_isNumber (number : t.isNumber = true) : t.weekday? = none := by
  simp only [isNumber, Bool.and_eq_true] at number
  have folded : (Text.fold t.value).toList = t.value.toList := by
    rw [Text.fold, String.toList_ofList]
    have each : ∀ c ∈ t.value.toList, Text.foldChar c = c := fun c member =>
      foldChar_of_isDigit (List.all_eq_true.mp number.2 c member)
    exact (List.map_congr_left each).trans (List.map_id _)
  have keywords : ∀ day ∈ Weekday.all, ∀ word ∈ day.keywords, word.toList.all isDigit = false := by
    decide
  rw [weekday?, Weekday.ofWord?, List.find?_eq_none]
  intro day listed spelt
  have lettered := keywords day listed _ (List.contains_iff_mem.mp spelt)
  rw [folded, number.2] at lettered
  contradiction

/-- A number begins with no letter. -/
theorem isName_of_isNumber (number : t.isNumber = true) : t.isName = false := by
  simp only [isNumber, Bool.and_eq_true] at number
  cases chars : t.value.toList with
  | nil => simp [isName, isIdentifier, chars]
  | cons c cs =>
    have digit : isDigit c = true := List.all_eq_true.mp number.2 c (by simp [chars])
    simp [isName, isIdentifier, chars, isLetter_of_isDigit digit]

theorem isName_of_weekday? {day : Weekday} (spelt : t.weekday? = some day) :
    t.isName = false := by
  simp [isName, isWeekday, spelt]

theorem isMark_of_isNumber (number : t.isNumber = true) : t.isMark = false := by
  cases mark : t.isMark with
  | false => rfl
  | true => exact absurd number (by simp [(kinds_of_isMark mark).1])

end Token

end Schedule
