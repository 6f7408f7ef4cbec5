import Schedule.Proofs.Numeral
import Schedule.RuleGroup.Table

/-! # The text of a range tells what it is

A sign and the dash between two bounds are the same character, and of two equal bounds one is
written. Nothing is lost all the same: from where a bound begins it reaches as far as it can be
read, so that a text splits into bounds and suffixes in one way only. As no text of a range holds a
comma, the ranges of a cell can be told apart too.
-/

namespace Schedule

/-- The characters do not go on with one of a kind. -/
def Stops (kind : Char → Bool) (rest : List Char) : Prop :=
  ∀ c ∈ rest.head?, kind c = false

@[simp] theorem stops_nil (kind : Char → Bool) : Stops kind [] := by
  simp [Stops]

@[simp] theorem stops_cons {kind : Char → Bool} {c : Char} {rest : List Char} :
    Stops kind (c :: rest) ↔ kind c = false := by
  simp [Stops]

variable {rest rest' : List Char}

/-- A run of characters of a kind ends where the kind does. -/
theorem append_inj_of_stops {kind : Char → Bool} {run run' : List Char}
    (ofKind : ∀ c ∈ run, kind c = true) (ofKind' : ∀ c ∈ run', kind c = true)
    (stops : Stops kind rest) (stops' : Stops kind rest') (same : run ++ rest = run' ++ rest') :
    run = run' ∧ rest = rest' := by
  have taken {run rest : List Char} (ofKind : ∀ c ∈ run, kind c = true)
      (stops : Stops kind rest) : (run ++ rest).takeWhile kind = run := by
    rw [List.takeWhile_append_of_pos ofKind]
    cases rest with
    | nil => rw [List.takeWhile_nil, List.append_nil]
    | cons c rest => simp [stops_cons.mp stops]
  have runs : run = run' := by rw [← taken ofKind stops, same, taken ofKind' stops']
  rw [runs] at same
  exact ⟨runs, List.append_cancel_left same⟩

/-! ### Numbers -/

theorem exists_head_repr (n : Nat) : ∃ c cs, n.repr.toList = c :: cs ∧ isDigit c = true := by
  cases chars : n.repr.toList with
  | nil => simp at chars
  | cons c cs =>
    exact ⟨c, cs, rfl, Numeral.isDigit_of_mem_repr (by rw [chars]; exact List.mem_cons_self)⟩

theorem toList_negSucc (n : Nat) :
    (toString (Int.negSucc n)).toList = '-' :: (n + 1).repr.toList := by
  change ("-" ++ (n + 1).repr).toList = _
  rw [String.toList_append]
  rfl

/-- A number begins with a digit or with its sign. -/
theorem exists_head_toString (i : Int) :
    ∃ c cs, (toString i).toList = c :: cs ∧ (isDigit c = true ∨ c = '-') := by
  cases i with
  | ofNat n =>
    obtain ⟨c, cs, chars, digit⟩ := exists_head_repr n
    exact ⟨c, cs, chars, .inl digit⟩
  | negSucc n => exact ⟨'-', _, toList_negSucc n, .inr rfl⟩

theorem mem_toString {i : Int} {c : Char} (member : c ∈ (toString i).toList) :
    isDigit c = true ∨ c = '-' := by
  cases i with
  | ofNat n => exact .inl (Numeral.isDigit_of_mem_repr member)
  | negSucc n =>
    rw [toList_negSucc, List.mem_cons] at member
    exact member.symm.imp_left Numeral.isDigit_of_mem_repr

/-- A natural number never goes on like a negative one. -/
theorem repr_append_ne_minus (n : Nat) (rest rest' : List Char) :
    n.repr.toList ++ rest ≠ '-' :: rest' := by
  obtain ⟨c, cs, chars, digit⟩ := exists_head_repr n
  rw [chars, List.cons_append]
  intro same
  rw [(List.cons_eq_cons.mp same).1] at digit
  exact absurd digit (by decide)

theorem repr_append_inj {m n : Nat} (stops : Stops isDigit rest) (stops' : Stops isDigit rest')
    (same : m.repr.toList ++ rest = n.repr.toList ++ rest') : m = n ∧ rest = rest' := by
  obtain ⟨digits, rests⟩ := append_inj_of_stops (fun _ => Numeral.isDigit_of_mem_repr)
    (fun _ => Numeral.isDigit_of_mem_repr) stops stops' same
  exact ⟨by rw [← Numeral.value_repr m, digits, Numeral.value_repr], rests⟩

/-- A number is read to its last digit. -/
theorem toString_append_inj {i j : Int} (stops : Stops isDigit rest)
    (stops' : Stops isDigit rest')
    (same : (toString i).toList ++ rest = (toString j).toList ++ rest') : i = j ∧ rest = rest' := by
  cases i with
  | ofNat m =>
    cases j with
    | ofNat n =>
      obtain ⟨rfl, rests⟩ := repr_append_inj stops stops' same
      exact ⟨rfl, rests⟩
    | negSucc n =>
      rw [toList_negSucc] at same
      exact absurd same (repr_append_ne_minus m _ _)
  | negSucc m =>
    rw [toList_negSucc] at same
    cases j with
    | ofNat n => exact absurd same.symm (repr_append_ne_minus n _ _)
    | negSucc n =>
      rw [toList_negSucc] at same
      obtain ⟨numbers, rests⟩ := repr_append_inj stops stops' (List.cons_eq_cons.mp same).2
      exact ⟨by rw [Nat.succ.inj numbers], rests⟩

/-! ### Bounds -/

/-- The characters with which a bound can go on: a slash makes a number the month of a date. -/
def isBoundChar (c : Char) : Bool :=
  isDigit c || c == '/'

theorem Stops.digits (stops : Stops isBoundChar rest) : Stops isDigit rest := fun c member =>
  (Bool.or_eq_false_iff.mp (stops c member)).1

theorem toList_date (date : MonthDay) : (Bound.date date).text.toList =
    (toString date.month).toList ++ '/' :: (toString date.day).toList := by
  simp [Bound.text, MonthDay.text, String.toList_append]

/-- A number is no date, whatever follows. -/
theorem number_append_ne_date {i : Int} {date : MonthDay} (stops : Stops isBoundChar rest) :
    (toString i).toList ++ rest ≠ (Bound.date date).text.toList ++ rest' := by
  rw [toList_date, List.append_assoc, List.cons_append]
  intro same
  obtain ⟨_, rfl⟩ := toString_append_inj stops.digits (stops_cons.mpr (by decide)) same
  exact absurd (stops_cons.mp stops) (by decide)

/-- A bound is read as far as it can be. -/
theorem bound_append_inj {b b' : Bound} (stops : Stops isBoundChar rest)
    (stops' : Stops isBoundChar rest') (same : b.text.toList ++ rest = b'.text.toList ++ rest') :
    b = b' ∧ rest = rest' := by
  cases b with
  | number i =>
    cases b' with
    | number j =>
      obtain ⟨rfl, rests⟩ := toString_append_inj stops.digits stops'.digits same
      exact ⟨rfl, rests⟩
    | date d => exact absurd same (number_append_ne_date stops)
  | date d =>
    cases b' with
    | number j => exact absurd same.symm (number_append_ne_date stops')
    | date d' =>
      have slash : ∀ rest, Stops isDigit ('/' :: rest) := fun _ => stops_cons.mpr (by decide)
      rw [toList_date, toList_date, List.append_assoc, List.append_assoc, List.cons_append,
        List.cons_append] at same
      obtain ⟨months, days⟩ := toString_append_inj (slash _) (slash _) same
      obtain ⟨days, rests⟩ := toString_append_inj stops.digits stops'.digits
        (List.cons_eq_cons.mp days).2
      exact ⟨by rw [Bound.date.injEq, MonthDay.mk.injEq]; exact ⟨months, days⟩, rests⟩

/-! ### Ranges -/

/-- A modulus as it stands behind a range. -/
def modulusSuffix : Option Int → List Char
  | some modulus => ' ' :: '%' :: (toString modulus).toList
  | none => []

theorem modulusSuffix_inj {modulus modulus' : Option Int}
    (same : modulusSuffix modulus = modulusSuffix modulus') : modulus = modulus' := by
  cases modulus with
  | none =>
    cases modulus' with
    | none => rfl
    | some n => contradiction
  | some m =>
    cases modulus' with
    | none => contradiction
    | some n =>
      have digits : (toString m).toList ++ [] = (toString n).toList ++ [] := by
        rw [List.append_nil, List.append_nil]
        exact (List.cons_eq_cons.mp (List.cons_eq_cons.mp same).2).2
      rw [(toString_append_inj (stops_nil _) (stops_nil _) digits).1]

namespace Range

variable {range range' : Range}

/-- What stands after the bounds of a range: whether it is split, and its modulus. -/
def suffix (range : Range) : List Char :=
  (if range.split then [' ', '(', 's', 'p', 'l', 'i', 't', ')'] else []) ++
    modulusSuffix range.modulus

/-- What stands after the low bound of a range. -/
def afterLow (range : Range) : List Char :=
  (if range.low = range.high then [] else '-' :: range.high.text.toList) ++ range.suffix

theorem toList_text (range : Range) :
    range.text.toList = range.low.text.toList ++ range.afterLow := by
  have splitText : " (split)".toList = [' ', '(', 's', 'p', 'l', 'i', 't', ')'] := rfl
  unfold text afterLow suffix modulusSuffix
  cases range.split <;> cases range.modulus <;> split <;>
    simp [String.toList_append, splitText]

theorem stops_modulusSuffix (modulus : Option Int) :
    Stops isBoundChar (modulusSuffix modulus) := by
  cases modulus with
  | none => exact stops_nil _
  | some modulus => exact stops_cons.mpr (by decide)

theorem stops_suffix (range : Range) : Stops isBoundChar range.suffix := by
  unfold suffix
  split
  · exact stops_cons.mpr (by decide)
  · exact stops_modulusSuffix range.modulus

theorem stops_afterLow (range : Range) : Stops isBoundChar range.afterLow := by
  unfold afterLow
  split
  · exact range.stops_suffix
  · exact stops_cons.mpr (by decide)

/-- The dash between two bounds does not begin a suffix. -/
theorem suffix_ne_dash (range : Range) (rest : List Char) : range.suffix ≠ '-' :: rest := by
  unfold suffix modulusSuffix
  cases range.split <;> cases range.modulus <;> simp

/-- The mark of a split range is no modulus. -/
theorem modulusSuffix_ne_split (modulus : Option Int) (rest : List Char) :
    modulusSuffix modulus ≠ ' ' :: '(' :: rest := by
  cases modulus <;> simp [modulusSuffix]

theorem suffix_inj (same : range.suffix = range'.suffix) :
    range.split = range'.split ∧ range.modulus = range'.modulus := by
  unfold suffix at same
  cases split : range.split <;> cases split' : range'.split <;> rw [split, split'] at same
  case false.false => exact ⟨rfl, modulusSuffix_inj same⟩
  case false.true => exact absurd same (modulusSuffix_ne_split range.modulus _)
  case true.false => exact absurd same.symm (modulusSuffix_ne_split range'.modulus _)
  case true.true => exact ⟨rfl, modulusSuffix_inj (List.append_cancel_left same)⟩

theorem afterLow_inj (low : range.low = range'.low) (same : range.afterLow = range'.afterLow) :
    range.high = range'.high ∧ range.suffix = range'.suffix := by
  unfold afterLow at same
  by_cases alone : range.low = range.high
  · rw [if_pos alone, List.nil_append] at same
    by_cases alone' : range'.low = range'.high
    · rw [if_pos alone', List.nil_append] at same
      exact ⟨by rw [← alone, low, alone'], same⟩
    · rw [if_neg alone'] at same
      exact absurd same (range.suffix_ne_dash _)
  · rw [if_neg alone] at same
    by_cases alone' : range'.low = range'.high
    · rw [if_pos alone', List.nil_append] at same
      exact absurd same.symm (range'.suffix_ne_dash _)
    · rw [if_neg alone'] at same
      exact bound_append_inj range.stops_suffix range'.stops_suffix (List.cons_eq_cons.mp same).2

/-- Ranges with the same text are the same. -/
theorem text_inj (same : range.text = range'.text) : range = range' := by
  have chars := congrArg String.toList same
  rw [toList_text, toList_text] at chars
  obtain ⟨low, after⟩ := bound_append_inj range.stops_afterLow range'.stops_afterLow chars
  obtain ⟨high, suffixes⟩ := afterLow_inj low after
  obtain ⟨split, modulus⟩ := suffix_inj suffixes
  cases range
  cases range'
  simp only at low high split modulus
  rw [low, high, split, modulus]

example : (⟨.number (-5), .number (-3), true, some 2⟩ : Range).text = "-5--3 (split) %2" := by
  decide +kernel

end Range

end Schedule
