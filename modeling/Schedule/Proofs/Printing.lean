import Schedule.Proofs.Erasure
import Schedule.Proofs.Tokenize
import Schedule.Proofs.WellFormed

/-! # Writing trees out as text

A tree is written as its reader would write it, with a comma between any two arguments and no
blanks. The text spells the tokens of one derivation, which is that of the tree itself: every
literal in it is greedy, since a comma or a parenthesis follows.
-/

namespace Schedule

namespace Weekday

/-- The day with the given ordinal. -/
def ofOrdinal? (value : Int) : Option Weekday :=
  all.find? fun day => day.ordinal == value

/-- The longest of the spellings of a day. -/
def fullName (day : Weekday) : String :=
  day.keywords.getLastD ""

theorem ordinal_of_ofOrdinal? {value : Int} {day : Weekday} (found : ofOrdinal? value = some day) :
    day.ordinal = value := by
  simpa using List.find?_some found

theorem ofWord?_fullName (day : Weekday) : ofWord? day.fullName = some day := by
  cases day <;> decide

end Weekday

/-- A number of a weekday as text: the name of the day if it is one. -/
def dayText (value : Int) : String :=
  match Weekday.ofOrdinal? value with
  | some day => day.fullName
  | none => toString value

/-- The text of an operand. -/
def Operand.text : Operand → String
  | number value => toString value
  | range low high => toString low ++ "-" ++ toString high
  | days low high => dayText low ++ "-" ++ dayText high
  | dates low high => low.text ++ "-" ++ high.text
  | wildcard => "%"

/-- The text of a modulus, if there is one. -/
def modulusText : Option Int → String
  | some modulus => "%" ++ toString modulus
  | none => ""

/-- The text of a literal. -/
def Literal.text (l : Literal) : String :=
  (if l.exclude then "!" else "") ++ (l.operand.text ++ modulusText l.modulus)

namespace Node

mutual

/-- The text of a node. -/
def text : Node → String
  | literal l => l.text
  | expression name _ arguments => name ++ "(" ++ (textAll arguments ++ ")")

/-- The text of some nodes, with commas between them. -/
def textAll : List Node → String
  | [] => ""
  | node :: nodes => text node ++ if nodes.isEmpty then "" else "," ++ textAll nodes

end

end Node

namespace Grammar

/-- A token without a place. -/
def bare (value : String) : Token := ⟨0, value⟩

/-- The text spells the tokens, which have no place and can all be read. -/
structure Prints (ts : List Token) (text : String) : Prop where
  joinable : Joinable ts
  readable : Readable ts
  placeless : ∀ t ∈ ts, t.index = 0
  spelt : spelling ts = text.toList

namespace Prints

variable {left right : List Token} {before after : String}

theorem nil : Prints [] "" :=
  ⟨joinable_nil, readable_nil, by simp, rfl⟩

/-- A mark between them joins the texts of any two lists. -/
theorem append {mark : String} (listed : mark ∈ ["(", ")", "-", ",", "!", "/", "%"])
    (first : Prints left before) (second : Prints right after) :
    Prints (left ++ bare mark :: right) (before ++ mark ++ after) := by
  have isMark : (bare mark).isMark = true := (Token.isMark_iff _).mpr listed
  refine ⟨joinable_append isMark first.joinable second.joinable, ?_, ?_, ?_⟩
  · rw [readable_append, readable_cons]
    refine ⟨first.readable, fun number => ?_, second.readable⟩
    rw [(Token.kinds_of_isMark isMark).1] at number
    contradiction
  · rw [List.forall_mem_append, List.forall_mem_cons]
    exact ⟨first.placeless, rfl, second.placeless⟩
  · have firstSpelt := first.spelt
    have secondSpelt := second.spelt
    simp only [spelling, List.flatMap_append, List.flatMap_cons, String.toList_append] at *
    rw [firstSpelt, secondSpelt, List.append_assoc]
    rfl

/-- A mark before a text. -/
theorem cons {mark : String} (listed : mark ∈ ["(", ")", "-", ",", "!", "/", "%"])
    (prints : Prints right after) : Prints (bare mark :: right) (mark ++ after) := by
  simpa using nil.append listed prints

/-- A mark by itself. -/
theorem mark {mark : String} (listed : mark ∈ ["(", ")", "-", ",", "!", "/", "%"]) :
    Prints [bare mark] mark := by
  simpa using nil.cons listed

/-- A word by itself, if it is no number that is too long. -/
theorem word {value : String} (isWord : (bare value).IsWord)
    (short : (bare value).isNumber = true → value.length ≤ Numeral.longest) :
    Prints [bare value] value :=
  ⟨joinable_singleton (.inr isWord), (readable_cons _ _).mpr ⟨short, readable_nil⟩, by simp [bare],
    by simp [spelling, bare]⟩

end Prints

/-! ### Numbers and names -/

theorem isNameChar_of_separator {c : Char} (separator : isBlank c = true ∨ isMark c = true) :
    isNameChar c = false := by
  rcases separator with blank | mark
  · simp only [isBlank, Bool.or_eq_true, beq_iff_eq] at blank
    rcases blank with ((rfl | rfl) | rfl) | rfl <;> decide
  · simp only [isMark, Bool.or_eq_true, beq_iff_eq] at mark
    rcases mark with (((((rfl | rfl) | rfl) | rfl) | rfl) | rfl) | rfl <;> decide

/-- No character of a name separates words. -/
theorem not_separator_of_isNameChar {c : Char} (name : isNameChar c = true) :
    isBlank c = false ∧ isMark c = false := by
  constructor <;> rw [← Bool.not_eq_true] <;> intro separates
  · rw [isNameChar_of_separator (.inl separates)] at name
    contradiction
  · rw [isNameChar_of_separator (.inr separates)] at name
    contradiction

theorem isWord_of_nameChars {value : String} (filled : value.toList ≠ [])
    (names : ∀ c ∈ value.toList, isNameChar c = true) : (bare value).IsWord :=
  ⟨filled, fun c member => not_separator_of_isNameChar (names c member)⟩

theorem isWord_of_isIdentifier {value : String} (identifier : (bare value).isIdentifier = true) :
    (bare value).IsWord := by
  unfold Token.isIdentifier at identifier
  split at identifier
  · contradiction
  · next c cs same =>
    simp only [bare, Bool.and_eq_true, List.all_eq_true] at same identifier
    have first : isNameChar c = true := by simp [isNameChar, identifier.1]
    apply isWord_of_nameChars (by simp [same])
    rw [same, List.forall_mem_cons]
    exact ⟨first, identifier.2⟩

theorem prints_name {name : String} (named : (bare name).isName = true) :
    Prints [bare name] name := by
  have notNumber : (bare name).isNumber = false := by
    rw [← Bool.not_eq_true]
    intro number
    rw [Token.isName_of_isNumber number] at named
    contradiction
  simp only [Token.isName, Bool.and_eq_true] at named
  exact Prints.word (isWord_of_isIdentifier named.1) (by simp [notNumber])

theorem prints_weekday (day : Weekday) : Prints [bare day.fullName] day.fullName := by
  have identifier : (bare day.fullName).isIdentifier = true := by cases day <;> decide
  have notNumber : (bare day.fullName).isNumber = false := by cases day <;> decide
  exact Prints.word (isWord_of_isIdentifier identifier) (by simp [notNumber])

/-- A number of at most nine digits as a token. -/
theorem isDigits_repr {n : Nat} (small : n ≤ 999999999) : IsDigits (bare n.repr) := by
  constructor
  · simp only [Token.isNumber, bare, Bool.and_eq_true, List.all_eq_true]
    exact ⟨by simp, fun c member => Numeral.isDigit_of_mem_repr member⟩
  · exact (List.dropWhile_sublist _).length_le.trans (Numeral.length_repr small)

theorem prints_repr {n : Nat} (small : n ≤ 999999999) : Prints [bare n.repr] n.repr := by
  refine Prints.word (isWord_of_nameChars (by simp) fun c member => ?_) fun _ => ?_
  · simp [isNameChar, Numeral.isDigit_of_mem_repr member]
  · rw [← String.length_toList]
    exact (Numeral.length_repr small).trans (by decide)

namespace Signed

/-- A number as it is written. -/
def ofInt : Int → Signed
  | .ofNat n => plain (bare n.repr)
  | .negSucc n => minus (bare "-") (bare (n + 1).repr)

theorem valid_ofInt {value : Int} (short : Short value) : (ofInt value).Valid := by
  cases value with
  | ofNat n => exact isDigits_repr short
  | negSucc n => exact ⟨rfl, isDigits_repr short⟩

theorem value_ofInt (value : Int) : (ofInt value).value = value := by
  cases value with
  | ofNat n => exact congrArg Int.ofNat (Numeral.value_repr n)
  | negSucc n =>
    simp only [ofInt, Signed.value, bare, Numeral.value_repr]
    rfl

theorem prints_ofInt {value : Int} (short : Short value) :
    Prints (ofInt value).tokens (toString value) := by
  cases value with
  | ofNat n => exact prints_repr short
  | negSucc n => exact (prints_repr short).cons (by decide)

end Signed

end Grammar

end Schedule
