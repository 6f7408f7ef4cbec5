import Mathlib.Data.List.Forall2
import Schedule.Proofs.TokenKinds

/-! # Letter case and place of tokens

Two tokens are alike if they differ at most in where they stand and in the case of their ASCII
letters. Alike tokens are of the same kind, spell the same mark, weekday or number and name the same
field.
-/

namespace Schedule

/-- The ASCII letters that have another lower-case form. -/
def capitals : List Char :=
  (List.range' 65 26).map Char.ofNat

theorem toLower_eq_or (c : Char) : c.toLower = c ∨ c ∈ capitals := by
  by_cases upper : c.val ≥ 'A'.val ∧ c.val ≤ 'Z'.val
  · right
    have least := UInt32.le_iff_toNat_le.mp upper.1
    have greatest := UInt32.le_iff_toNat_le.mp upper.2
    have a : ('A' : Char).val.toNat = 65 := rfl
    have z : ('Z' : Char).val.toNat = 90 := rfl
    have same : c.val.toNat = c.toNat := rfl
    exact List.mem_map.mpr ⟨c.toNat, by rw [List.mem_range'_1]; omega, Char.ofNat_toNat c⟩
  · exact .inl (dif_neg upper)

/-- Whatever does not tell capitals from small letters depends on the lower-case form alone. -/
theorem toLower_congr {α : Type} (p : Char → α)
    (capital : (capitals.map fun c => p c.toLower) = capitals.map p) (c : Char) :
    p c.toLower = p c := by
  rcases toLower_eq_or c with same | listed
  · rw [same]
  · exact List.map_inj_left.mp capital c listed

theorem isDigit_toLower (c : Char) : isDigit c.toLower = isDigit c :=
  toLower_congr isDigit (by decide) c

theorem isMark_toLower (c : Char) : isMark c.toLower = isMark c :=
  toLower_congr isMark (by decide) c

theorem isLetter_toLower (c : Char) : isLetter c.toLower = isLetter c :=
  toLower_congr isLetter (by decide) c

theorem isNameChar_toLower (c : Char) : isNameChar c.toLower = isNameChar c :=
  toLower_congr isNameChar (by decide) c

theorem foldChar_toLower (c : Char) : Text.foldChar c.toLower = Text.foldChar c :=
  toLower_congr Text.foldChar (by decide) c

/-- The character is no ASCII letter of either case. -/
def isCaseless (d : Char) : Bool :=
  capitals.all fun c => c != d && c.toLower != d

/-- A character without case is the lower-case form of itself only. -/
theorem toLower_eq_iff {c d : Char} (caseless : isCaseless d = true) : c.toLower = d ↔ c = d := by
  rcases toLower_eq_or c with same | listed
  · rw [same]
  · have other := List.all_eq_true.mp caseless c listed
    simp only [Bool.and_eq_true, bne_iff_ne] at other
    exact iff_of_false other.2 other.1

/-- A text with its capital letters made small. -/
def lower (text : String) : List Char :=
  text.toList.map Char.toLower

namespace Token

/-- The tokens differ in their places and the case of their letters at most. -/
def Alike (s t : Token) : Prop :=
  lower s.value = lower t.value

variable {s t : Token}

theorem alike_of_eq (same : s.value = t.value) : s.Alike t :=
  congrArg lower same

/-- What depends on the lower-case forms of the characters alone is the same for alike tokens. -/
theorem Alike.map_eq {α : Type} (alike : s.Alike t) (p : Char → α)
    (caseless : ∀ c, p c.toLower = p c) :
    s.value.toList.map p = t.value.toList.map p := by
  have through (u : Token) : u.value.toList.map p = (lower u.value).map p := by
    rw [lower, List.map_map]
    exact List.map_congr_left fun c _ => (caseless c).symm
  rw [through s, through t, alike]

theorem Alike.all_eq (alike : s.Alike t) (p : Char → Bool) (caseless : ∀ c, p c.toLower = p c) :
    s.value.toList.all p = t.value.toList.all p := by
  have through (u : Token) : u.value.toList.all p = (u.value.toList.map p).all id := by
    rw [List.all_map]
    rfl
  rw [through s, through t, alike.map_eq p caseless]

theorem Alike.length_eq (alike : s.Alike t) : s.value.toList.length = t.value.toList.length := by
  simpa [lower] using congrArg List.length (show lower s.value = lower t.value from alike)

theorem Alike.fold_eq (alike : s.Alike t) : Text.fold s.value = Text.fold t.value := by
  rw [Text.fold, Text.fold, alike.map_eq Text.foldChar foldChar_toLower]

theorem Alike.weekday?_eq (alike : s.Alike t) : s.weekday? = t.weekday? := by
  simp only [weekday?, Weekday.ofWord?, alike.fold_eq]

theorem Alike.isNumber_eq (alike : s.Alike t) : s.isNumber = t.isNumber := by
  have empty : s.value.toList.isEmpty = t.value.toList.isEmpty := by
    rw [Bool.eq_iff_iff, List.isEmpty_iff_length_eq_zero, List.isEmpty_iff_length_eq_zero,
      alike.length_eq]
  rw [isNumber, isNumber, alike.all_eq isDigit isDigit_toLower, empty]

theorem Alike.isMark_eq (alike : s.Alike t) : s.isMark = t.isMark := by
  have marks := alike.map_eq Schedule.isMark isMark_toLower
  have single (u : Token) : u.isMark = ((u.value.toList.map Schedule.isMark) == [true]) := by
    unfold isMark
    split
    · next c same => simp [same]
    · next other =>
      symm
      rw [beq_eq_false_iff_ne]
      intro same
      obtain ⟨c, one, _⟩ := List.map_eq_singleton_iff.mp same
      exact other c one
  rw [single s, single t, marks]

theorem Alike.isIdentifier_eq (alike : s.Alike t) : s.isIdentifier = t.isIdentifier := by
  have letters := alike.map_eq isLetter isLetter_toLower
  have names := alike.map_eq isNameChar isNameChar_toLower
  unfold isIdentifier
  cases first : s.value.toList with
  | nil =>
    rw [first] at letters
    rw [List.map_eq_nil_iff.mp letters.symm]
  | cons c cs =>
    cases second : t.value.toList with
    | nil => simp [first, second] at letters
    | cons d ds =>
      rw [first, second] at letters names
      have all (u : List Char) : u.all isNameChar = (u.map isNameChar).all id := by
        rw [List.all_map]
        rfl
      dsimp only
      rw [(List.cons.inj letters).1, all cs, all ds, (List.cons.inj names).2]

theorem Alike.isName_eq (alike : s.Alike t) : s.isName = t.isName := by
  rw [isName, isName, isWeekday, isWeekday, alike.isIdentifier_eq, alike.weekday?_eq]

/-- Alike tokens spell the same mark. -/
theorem Alike.value_eq_iff (alike : s.Alike t) {mark : String}
    (listed : mark ∈ ["(", ")", "-", ",", "!", "/", "%"]) : s.value = mark ↔ t.value = mark := by
  have table : ∀ mark ∈ ["(", ")", "-", ",", "!", "/", "%"],
      mark.toList.all isCaseless = true ∧ lower mark = mark.toList := by decide
  obtain ⟨caseless, small⟩ := table mark listed
  rw [List.all_eq_true] at caseless
  have spelt (u : Token) : u.value = mark ↔ lower u.value = mark.toList := by
    constructor
    · rintro rfl
      exact small
    · intro same
      rw [← String.toList_inj]
      have each : List.Forall₂ (fun d c => Char.toLower c = d) mark.toList u.value.toList := by
        rw [← same, lower, List.forall₂_map_left_iff]
        exact List.forall₂_same.mpr fun _ _ => rfl
      have equal : List.Forall₂ (· = ·) mark.toList u.value.toList := by
        refine List.Forall₂.imp ?_ ((List.forall₂_and_left _ _).mpr ⟨caseless, each⟩)
        rintro d c ⟨upright, down⟩
        exact ((toLower_eq_iff upright).mp down).symm
      rw [List.forall₂_eq_eq_eq] at equal
      exact equal.symm
  rw [spelt s, spelt t, alike]

/-- Alike numbers have the same digits. -/
theorem Alike.value_eq (alike : s.Alike t) (number : t.isNumber = true) : s.value = t.value := by
  have self (u : Token) (number : u.isNumber = true) : lower u.value = u.value.toList := by
    simp only [isNumber, Bool.and_eq_true, List.all_eq_true] at number
    rw [lower]
    conv_rhs => rw [← List.map_id u.value.toList]
    refine List.map_congr_left fun c member => ?_
    rcases toLower_eq_or c with same | listed
    · exact same
    · have letters : (capitals.all fun c => !isDigit c) = true := by decide
      have letter := List.all_eq_true.mp letters c listed
      rw [number.2 c member] at letter
      contradiction
  rw [← String.toList_inj, ← self t number, ← self s (alike.isNumber_eq ▸ number)]
  exact alike

end Token

end Schedule
