import Schedule.Proofs.Printing

/-! # Derivations of printed trees

Every well-formed tree has a derivation whose tokens are those of its text. Its places are left
open; what it means is the tree without its tokens.
-/

namespace Schedule

/-- Induction over some nodes, into their arguments and on to those that follow. -/
theorem Node.list_induction {motive : List Node → Prop} (nil : motive [])
    (literal : ∀ l rest, motive rest → motive (.literal l :: rest))
    (expression : ∀ name first arguments rest, motive arguments → motive rest →
      motive (.expression name first arguments :: rest)) : ∀ nodes, motive nodes
  | [] => nil
  | .literal l :: rest => literal l rest (list_induction nil literal expression rest)
  | .expression name first arguments :: rest =>
    expression name first arguments rest (list_induction nil literal expression arguments)
      (list_induction nil literal expression rest)

theorem Weekday.exists_ofOrdinal? {value : Int} (isDay : IsDay value) :
    ∃ day, ofOrdinal? value = some day := by
  obtain ⟨first, last⟩ := isDay
  have each : ∀ value ∈ [1, 2, 3, 4, 5, 6, 7], (ofOrdinal? value).isSome = true := by decide
  apply Option.isSome_iff_exists.mp
  apply each
  simp only [List.mem_cons, List.not_mem_nil, or_false]
  omega

theorem MonthDay.Exists.short {date : MonthDay} (valid : date.Exists) :
    Short date.month ∧ Short date.day := by
  obtain ⟨days, found, first, last⟩ := valid
  have inYear := (daysInMonth_isOk_iff date.month).mp ⟨days, found⟩
  have inMonth : days ≤ 31 := by
    unfold daysInMonth at found
    split_ifs at found <;> cases found <;> decide
  unfold Short
  omega

namespace Grammar

namespace End

/-- A number as an end. -/
def ofInt (value : Int) : End := number (.ofInt value)

/-- A date as an end. -/
def ofDate (date : MonthDay) : End := .date (.ofInt date.month) (bare "/") (.ofInt date.day)

/-- A number of a weekday as an end: the day itself if it is one. -/
def ofDay (value : Int) : End :=
  match Weekday.ofOrdinal? value with
  | some day => weekday (bare day.fullName) day
  | none => ofInt value

theorem valid_ofInt {value : Int} (short : Short value) : (ofInt value).Valid :=
  Signed.valid_ofInt short

theorem prints_ofInt {value : Int} (short : Short value) :
    Prints (ofInt value).tokens (toString value) :=
  Signed.prints_ofInt short

theorem value_ofInt (value : Int) : (ofInt value).value = .number value := by
  rw [ofInt, End.value, Signed.value_ofInt]

theorem value_ofDate (date : MonthDay) : (ofDate date).value = .date date := by
  rw [ofDate, End.value, Signed.value_ofInt, Signed.value_ofInt]

theorem valid_ofDate {date : MonthDay} (valid : date.Exists) : (ofDate date).Valid := by
  obtain ⟨month, day⟩ := valid.short
  refine ⟨Signed.valid_ofInt month, rfl, Signed.valid_ofInt day, ?_⟩
  rw [Signed.value_ofInt, Signed.value_ofInt]
  exact valid

theorem prints_ofDate {date : MonthDay} (valid : date.Exists) :
    Prints (ofDate date).tokens date.text := by
  obtain ⟨month, day⟩ := valid.short
  exact (Signed.prints_ofInt month).append (by decide) (Signed.prints_ofInt day)

theorem valid_ofDay {value : Int} (short : Short value) : (ofDay value).Valid := by
  unfold ofDay
  split
  · next day found => exact Weekday.ofWord?_fullName day
  · exact valid_ofInt short

theorem prints_ofDay {value : Int} (short : Short value) :
    Prints (ofDay value).tokens (dayText value) := by
  unfold ofDay dayText
  cases Weekday.ofOrdinal? value with
  | some day => exact prints_weekday day
  | none => exact prints_ofInt short

theorem isDate_ofDay (value : Int) : (ofDay value).value.isDate = false := by
  unfold ofDay
  split <;> rfl

/-- Two numbers of weekdays of which one is a day are a range of weekdays. -/
theorem through_ofDay {low high : Int} (days : IsDay low ∨ IsDay high) :
    (ofDay low).value.through (ofDay high).value = .days low high := by
  unfold ofDay
  split
  · next day found =>
    have same := Weekday.ordinal_of_ofOrdinal? found
    split
    · next other found' =>
      have same' := Weekday.ordinal_of_ofOrdinal? found'
      simp [End.value, Reading.Endpoint.through, Reading.Endpoint.ordinal, same, same']
    · rw [value_ofInt]
      simp [End.value, Reading.Endpoint.through, Reading.Endpoint.ordinal, same]
  · next missing =>
    split
    · next day found =>
      have same := Weekday.ordinal_of_ofOrdinal? found
      rw [value_ofInt]
      simp [End.value, Reading.Endpoint.through, Reading.Endpoint.ordinal, same]
    · next missing' =>
      rcases days with isDay | isDay
      · obtain ⟨day, found⟩ := Weekday.exists_ofOrdinal? isDay
        rw [missing] at found
        contradiction
      · obtain ⟨day, found⟩ := Weekday.exists_ofOrdinal? isDay
        rw [missing'] at found
        contradiction

end End

namespace Form

/-- The modulus of ends as it is written. -/
def modulusPart (modulus : Option Int) : Option (Token × Signed) :=
  modulus.map fun modulus => (bare "%", .ofInt modulus)

/-- A literal of one end. -/
def lone (low : End) (modulus : Option Int) : Form := .ends low none (modulusPart modulus)

/-- A literal of two ends. -/
def pair (low high : End) (modulus : Option Int) : Form :=
  .ends low (some (bare "-", high)) (modulusPart modulus)

/-- A literal as it is written. -/
def ofLiteral (l : Literal) : Form :=
  match l.operand with
  | .number value => lone (.ofInt value) l.modulus
  | .range low high => pair (.ofInt low) (.ofInt high) l.modulus
  | .days low high => pair (.ofDay low) (.ofDay high) l.modulus
  | .dates low high => pair (.ofDate low) (.ofDate high) l.modulus
  | .wildcard =>
    .wildcard (bare "%") (l.modulus.map fun modulus => (some (bare "%"), .ofInt modulus))

section Parts

variable {low high : End} {modulus : Option Int} (short : ∀ value ∈ modulus, Short value)
variable {ts : List Token} {text before after : String}

theorem modulus_modulusPart (modulus : Option Int) :
    (modulusPart modulus).map (fun part => part.2.value) = modulus := by
  cases modulus with
  | none => rfl
  | some modulus => exact congrArg some (Signed.value_ofInt modulus)

include short

theorem valid_modulusPart : ∀ part ∈ modulusPart modulus, part.1.value = "%" ∧ part.2.Valid := by
  intro part member
  obtain ⟨value, present, rfl⟩ := Option.map_eq_some_iff.mp member
  exact ⟨rfl, Signed.valid_ofInt (short value present)⟩

theorem prints_modulusPart (prints : Prints ts text) :
    Prints (ts ++ marked Signed.tokens (modulusPart modulus)) (text ++ modulusText modulus) := by
  cases modulus with
  | none => simpa [modulusPart, marked, modulusText] using prints
  | some value =>
    have whole := prints.append (by decide : "%" ∈ _) (Signed.prints_ofInt (short value rfl))
    simpa [modulusPart, marked, modulusText, String.append_assoc] using whole

theorem valid_lone (valid : low.Valid) : (lone low modulus).Valid :=
  ⟨valid, by simp, valid_modulusPart short⟩

theorem valid_pair (lowValid : low.Valid) (highValid : high.Valid)
    (kind : low.value.isDate = high.value.isDate) : (pair low high modulus).Valid := by
  refine ⟨lowValid, ?_, valid_modulusPart short⟩
  rintro _ ⟨⟩
  exact ⟨rfl, highValid, kind⟩

theorem prints_lone (prints : Prints low.tokens text) :
    Prints (lone low modulus).tokens (text ++ modulusText modulus) :=
  prints_modulusPart short prints

theorem prints_pair (first : Prints low.tokens before) (second : Prints high.tokens after) :
    Prints (pair low high modulus).tokens (before ++ "-" ++ after ++ modulusText modulus) := by
  have whole := prints_modulusPart short (first.append (by decide : "-" ∈ _) second)
  simpa [pair, Form.tokens, marked] using whole

end Parts

variable {l : Literal}

theorem valid_ofLiteral (valid : l.WellFormed) : (ofLiteral l).Valid := by
  obtain ⟨operand, modulus⟩ := valid
  unfold ofLiteral
  cases kind : l.operand <;> rw [kind] at operand <;> dsimp only
  case number value => exact valid_lone modulus (End.valid_ofInt operand)
  case range low high =>
    exact valid_pair modulus (End.valid_ofInt operand.1) (End.valid_ofInt operand.2) rfl
  case days low high =>
    exact valid_pair modulus (End.valid_ofDay operand.1) (End.valid_ofDay operand.2.1)
      ((End.isDate_ofDay low).trans (End.isDate_ofDay high).symm)
  case dates low high =>
    exact valid_pair modulus (End.valid_ofDate operand.1) (End.valid_ofDate operand.2) rfl
  case wildcard =>
    refine ⟨rfl, fun part member => ?_⟩
    obtain ⟨value, present, rfl⟩ := Option.map_eq_some_iff.mp member
    exact ⟨by simp [bare], Signed.valid_ofInt (modulus value present)⟩

theorem operand_ofLiteral (valid : l.WellFormed) : (ofLiteral l).operand = l.operand := by
  have operand := valid.operand
  unfold ofLiteral
  cases kind : l.operand <;> rw [kind] at operand <;> dsimp only
  case number value => rw [lone, Form.operand, End.value_ofInt, Reading.Endpoint.alone]
  case range low high =>
    rw [pair, Form.operand, End.value_ofInt, End.value_ofInt, Reading.Endpoint.through]
  case days low high => exact End.through_ofDay operand.2.2
  case dates low high =>
    rw [pair, Form.operand, End.value_ofDate, End.value_ofDate, Reading.Endpoint.through]
  case wildcard => rfl

theorem modulus_ofLiteral (l : Literal) : (ofLiteral l).modulus = l.modulus := by
  unfold ofLiteral
  cases l.operand <;> dsimp only
  case wildcard =>
    cases l.modulus with
    | none => rfl
    | some modulus => exact congrArg some (Signed.value_ofInt modulus)
  all_goals exact modulus_modulusPart l.modulus

theorem prints_ofLiteral (valid : l.WellFormed) :
    Prints (ofLiteral l).tokens (l.operand.text ++ modulusText l.modulus) := by
  obtain ⟨operand, modulus⟩ := valid
  unfold ofLiteral
  cases kind : l.operand <;> rw [kind] at operand <;> dsimp only
  case number value => exact prints_lone modulus (End.prints_ofInt operand)
  case range low high =>
    exact prints_pair modulus (End.prints_ofInt operand.1) (End.prints_ofInt operand.2)
  case days low high =>
    exact prints_pair modulus (End.prints_ofDay operand.1) (End.prints_ofDay operand.2.1)
  case dates low high =>
    exact prints_pair modulus (End.prints_ofDate operand.1) (End.prints_ofDate operand.2)
  case wildcard =>
    cases same : l.modulus with
    | none => exact Prints.mark (by decide)
    | some value =>
      exact ((Signed.prints_ofInt (modulus value same)).cons (by decide)).cons (by decide)

/-- Before a comma or a closing parenthesis, a literal has taken all it can. -/
theorem greedy_of_ahead (f : Form) {after : List Token}
    (ahead : Ahead (fun t => t.value = "," ∨ t.value = ")") after) : f.Greedy after := by
  have next : Ahead (fun t => t.isNumber = false ∧ t.value ≠ "-" ∧ t.value ≠ "%") after := by
    intro t first
    have isMark : t.isMark = true := by
      rcases ahead t first with comma | closing
      · exact isMark_of_value comma (by decide)
      · exact isMark_of_value closing (by decide)
    refine ⟨(Token.kinds_of_isMark isMark).1, ?_, ?_⟩ <;>
      rcases ahead t first with same | same <;> rw [same] <;> decide
  rcases f with ⟨_, _ | _⟩ | ⟨_, _ | _, _ | _⟩
  · exact next
  · trivial
  · exact fun t first => (next t first).2
  · trivial
  · exact fun t first => (next t first).2.2
  · trivial

end Form

end Grammar

end Schedule
