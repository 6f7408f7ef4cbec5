import Schedule.Proofs.Compilation
import Schedule.Proofs.Reading.Document
import Schedule.Proofs.RuleGroup.Blame
import Schedule.Proofs.Reading.Blame
import Schedule.Proofs.Tokenize
import Schedule.Proofs.TokenPlace

/-! # How a compilation can fail

A text compiles or has a mistake in it; otherwise a numeral stops the reading that has too many
digits, though at most nine of them after the zeros it begins with. Whatever it is, it is found at
one of the tokens of the text, but for the lack of any.
-/

namespace Schedule

variable {config : Config} {text : String} {failure : Failure}

theorem compile_eq_error_iff :
    compile config text = .error failure ↔
      Reading.document config.maxDepth (tokenize text) = .error failure ∨
        ∃ document, Reading.document config.maxDepth (tokenize text) = .ok document ∧
          ∃ m, compileNodes (document.map Expression.toNode) = .error m ∧ .mistake m = failure := by
  simp only [compile, bind_eq_error_iff, compileDocument, mapError_eq_error_iff]

/-- Only from no tokens at all a document without expressions is read. -/
theorem tokens_eq_nil_of_document {maxDepth : Int} {ts : List Token}
    (success : Reading.document maxDepth ts = .ok []) : ts = [] := by
  obtain ⟨_, d, derives, _, tree⟩ := (Grammar.Document.read_iff ..).mp success
  cases d with
  | empty => exact derives.tokens.symm
  | starting p items => simp [Grammar.Document.tree, Grammar.Document.phrases,
      Grammar.Document.items, Grammar.Item.phrase?] at tree

/-- What stops the compilation of a text is one of its tokens, unless the text has none. -/
theorem isAt_of_compile (failed : compile config text = .error failure) :
    (tokenize text ≠ [] → failure.IsAt (tokenize text)) ∧
      (tokenize text = [] → failure = .mistake ⟨.noRules, ⟨0, ""⟩⟩) := by
  rcases compile_eq_error_iff.mp failed with unread | ⟨document, read, m, wrong, rfl⟩
  · refine ⟨fun _ => Reading.isAt_of_document unread, fun empty => ?_⟩
    rw [empty, Reading.document, Reading.expressions] at unread
    contradiction
  · obtain ⟨blamed, none⟩ := mem_kept_of_compileNodes wrong
    obtain ⟨_, d, derives, _, rfl⟩ := (Grammar.Document.read_iff ..).mp read
    constructor
    · intro filled
      have expressions : d.tree.map Expression.toNode ≠ [] := by
        intro bare
        rw [List.map_eq_nil_iff] at bare
        rw [bare] at read
        exact filled (tokens_eq_nil_of_document read)
      have among := d.kept_tree (blamed expressions)
      rwa [derives.tokens] at among
    · intro empty
      rw [empty, Reading.document, Reading.expressions] at read
      have bare : d.tree.map Expression.toNode = [] := by simp [← Except.ok.inj read]
      rw [none bare]

/-- A mistake is found at a token of the text, unless there is none. -/
theorem token_of_mistake {m : Mistake} (failed : compile config text = .error (.mistake m)) :
    (tokenize text ≠ [] → m.token ∈ tokenize text) ∧
      (tokenize text = [] → m = ⟨.noRules, ⟨0, ""⟩⟩) := by
  obtain ⟨found, none⟩ := isAt_of_compile failed
  exact ⟨found, fun empty => Failure.mistake.inj (none empty)⟩

/-- A numeral that stops the compilation of a text is that of one of its tokens. -/
theorem token_of_overlong {numeral : Numeral.Overlong}
    (failed : compile config text = .error (.overlong numeral)) :
    ∃ t ∈ tokenize text, t.IsOverlong ∧ numeral = ⟨t.value.length⟩ := by
  obtain ⟨found, none⟩ := isAt_of_compile failed
  apply found
  intro empty
  cases none empty

/-- A text compiles, or it has a mistake, which is then its only complaint; or reading it, and with
that the check of it, is stopped by one of its numerals, which has too many digits to be read. -/
theorem compile_ok_or_mistake_or_overlong (config : Config) (text : String) :
    (∃ groups, compile config text = .ok groups ∧ isValid config text = .ok true ∧
        complaints config text = .ok []) ∨
      (∃ m : Mistake, compile config text = .error (.mistake m) ∧ isValid config text = .ok false ∧
        complaints config text = .ok [(m.report text config.window).text]) ∨
      ∃ t ∈ tokenize text, t.IsOverlong ∧
        compile config text = .error (.overlong ⟨t.value.length⟩) ∧
        isValid config text = .error ⟨t.value.length⟩ ∧
        complaints config text = .error ⟨t.value.length⟩ := by
  cases outcome : compile config text with
  | ok groups => exact .inl ⟨groups, rfl, by simp [isValid, outcome], by simp [complaints, outcome]⟩
  | error failure =>
    cases failure with
    | mistake m =>
      exact .inr (.inl ⟨m, rfl, by simp [isValid, outcome], by simp [complaints, outcome]⟩)
    | overlong numeral =>
      obtain ⟨t, member, overlong, rfl⟩ := token_of_overlong outcome
      exact .inr (.inr ⟨t, member, overlong, rfl, by simp [isValid, outcome],
        by simp [complaints, outcome]⟩)

/-! ### A numeral that stops the reading -/

namespace Token

variable {t : Token}

theorem IsOverlong.numeral_eq (overlong : t.IsOverlong) :
    Reading.numeral t = .error (.overlong ⟨t.value.length⟩) := by
  obtain ⟨⟨number, short⟩, long⟩ := overlong
  rw [← String.length_toList] at long ⊢
  simp [Reading.numeral, number, Reading.longestNumber, Nat.not_lt.mpr short, Numeral.read, long]

/-- A literal that begins with such a numeral is not read, whatever follows. -/
theorem IsOverlong.literal_eq (overlong : t.IsOverlong) (last first : Token) (exclude : Bool)
    (ts : List Token) :
    Reading.literal last first exclude (t :: ts) = .error (.overlong ⟨t.value.length⟩) := by
  have number := overlong.digits.1
  have notPercent : t.value ≠ "%" := Grammar.OpensEnd.value_ne (.inr (.inl number)) (by decide)
  have notMark := isMark_of_isNumber number
  have notWeekday := weekday?_of_isNumber number
  simp [Reading.literal, notPercent, Reading.operand, Reading.endpoint, notWeekday, Reading.bound,
    Reading.signed, notMark, overlong.numeral_eq, bind, Except.bind, Except.map]

/-- Nor is a document whose first argument begins with such a numeral. -/
theorem IsOverlong.document_eq (overlong : t.IsOverlong) {maxDepth : Int} (deep : 1 ≤ maxDepth)
    {name opening : Token} (named : name.isName = true) (opens : opening.value = "(")
    (ts : List Token) :
    Reading.document maxDepth (name :: opening :: t :: ts) =
      .error (.overlong ⟨t.value.length⟩) := by
  obtain ⟨budget, same⟩ : ∃ budget, Reading.budget maxDepth 1 = budget + 1 :=
    ⟨(maxDepth - 1).toNat, by unfold Reading.budget; omega⟩
  have literal : Grammar.OpensLiteral t := .inr (.inr (.inl overlong.digits.1))
  have notClosing : t.value ≠ ")" := literal.value_ne (by decide)
  rw [Reading.document, same, Reading.expressions, if_pos named, Reading.expression]
  dsimp only
  rw [if_pos opens, Reading.arguments, if_neg notClosing]
  unfold Reading.argument
  dsimp only
  rw [if_neg (literal.value_ne (by decide)), if_neg notClosing,
    if_neg (literal.value_ne (by decide)), literal.isName, overlong.literal_eq]
  rfl

/-- A text whose first argument begins with such a numeral is not compiled. -/
theorem IsOverlong.compile_eq (overlong : t.IsOverlong) (deep : 1 ≤ config.maxDepth)
    {name opening : Token} {ts : List Token} (cut : tokenize text = name :: opening :: t :: ts)
    (named : name.isName = true) (opens : opening.value = "(") :
    compile config text = .error (.overlong ⟨t.value.length⟩) := by
  rw [compile, cut, overlong.document_eq deep named opens]
  rfl

end Token

/-- Zero, written with `n` digits. -/
def zeros (n : Nat) : String := String.ofList (List.replicate n '0')

variable {n : Nat}

theorem length_zeros (n : Nat) : (zeros n).length = n := by
  rw [zeros, ← String.length_toList, String.toList_ofList, List.length_replicate]

theorem isOverlong_zeros (long : Numeral.longest < n) (index : Int) :
    (Token.mk index (zeros n)).IsOverlong := by
  refine ⟨Grammar.isDigits_replicate (Nat.ne_zero_of_lt long) index, ?_⟩
  rwa [length_zeros]

/-- The tokens of an expression of one letter whose argument is zero. -/
theorem scan_zeros (filled : n ≠ 0) (offset : Nat) {c : Char}
    (letter : isBlank c = false ∧ isMark c = false) :
    scan offset [] (c :: '(' :: (List.replicate n '0' ++ [')'])) =
      [⟨offset, String.singleton c⟩, ⟨(offset + 1 : Nat), "("⟩, ⟨(offset + 2 : Nat), zeros n⟩,
        ⟨(offset + 2 + n : Nat), ")"⟩] := by
  have digits : ∀ c ∈ List.replicate n '0', isBlank c = false ∧ isMark c = false :=
    fun c member => by
      rw [List.eq_of_mem_replicate member]
      decide
  have marks : isBlank '(' = false ∧ isMark '(' = true ∧ isBlank ')' = false ∧
      isMark ')' = true := by decide
  have inner := scan_word (offset + 2) [] _ [')'] digits
  rw [List.append_nil, List.length_replicate, List.reverse_replicate] at inner
  have word : List.replicate n '0' ≠ [] := by simpa using filled
  simp [scan, letter, marks, inner, closeWord, zeros]

/-- The tokens of an hour that is zero. -/
theorem tokenize_hour_zeros (filled : n ≠ 0) :
    tokenize ("h(" ++ zeros n ++ ")") =
      [⟨0, "h"⟩, ⟨1, "("⟩, ⟨2, zeros n⟩, ⟨(0 + 2 + n : Nat), ")"⟩] := by
  have chars : ("h(" ++ zeros n ++ ")").toList = 'h' :: '(' :: (List.replicate n '0' ++ [')']) := by
    simp [zeros, String.toList_append]
  rw [tokenize, chars, scan_zeros filled 0 (by decide)]
  rfl

/-- The hour that is zero stops the reading if the zero is too long. -/
theorem compile_hour_zeros (long : Numeral.longest < n) :
    compile {} ("h(" ++ zeros n ++ ")") = .error (.overlong ⟨n⟩) := by
  have cut := tokenize_hour_zeros (Nat.ne_zero_of_lt long)
  have stopped : compile {} ("h(" ++ zeros n ++ ")") = .error (.overlong ⟨(zeros n).length⟩) :=
    (isOverlong_zeros long 2).compile_eq (by decide) cut (by decide) rfl
  rwa [length_zeros] at stopped

/-- Such an hour neither compiles nor has a mistake in it, and it cannot be checked. -/
theorem hour_zeros_fails (long : Numeral.longest < n) :
    (∀ groups, compile {} ("h(" ++ zeros n ++ ")") ≠ .ok groups) ∧
      (∀ m, compile {} ("h(" ++ zeros n ++ ")") ≠ .error (.mistake m)) ∧
      (∀ valid, isValid {} ("h(" ++ zeros n ++ ")") ≠ .ok valid) ∧
      ∀ messages, complaints {} ("h(" ++ zeros n ++ ")") ≠ .ok messages := by
  simp [compile_hour_zeros long, isValid, complaints]

/-- The hour that is zero, written with 4301 digits, is neither valid nor mistaken. -/
theorem long_zero_neither_compiles_nor_is_mistaken :
    (∀ groups, compile {} ("h(" ++ zeros 4301 ++ ")") ≠ .ok groups) ∧
      (∀ m, compile {} ("h(" ++ zeros 4301 ++ ")") ≠ .error (.mistake m)) ∧
      (∀ valid, isValid {} ("h(" ++ zeros 4301 ++ ")") ≠ .ok valid) ∧
      ∀ messages, complaints {} ("h(" ++ zeros 4301 ++ ")") ≠ .ok messages :=
  hour_zeros_fails (by simp [Numeral.longest])

end Schedule
