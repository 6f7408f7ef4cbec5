import Schedule.Proofs.Reading.Lookahead

/-! # Failures that more tokens do not mend

A reader that fails has seen the token at which it fails, so that it fails alike whatever stands
behind its tokens. There are two exceptions. The tokens may have run out: then more of them go on
with what was begun. And a range from a date to a number may be broken off behind the number: a
slash and a day would make that a date too.
-/

namespace Schedule

namespace Failure

/-- The tokens ran out before what was begun had ended. -/
def RanOut : Failure → Prop
  | mistake m => m.fault ∈ [.endOfText, .missingOpening, .missingClosing]
  | overlong _ => False

/-- What stops the reading of a literal. -/
def InLiteral : Failure → Prop
  | mistake m => m.fault ∈ [.endOfText, .unexpectedToken, .mixedRange, .expectedNumber,
      .numberTooLarge, .invalidMonth, .invalidDate]
  | overlong _ => True

end Failure

namespace Reading

open Grammar

variable {α β : Type} {last first name t : Token} {ts rest after : List Token} {failure : Failure}

/-- Unless the tokens ran out or a range is broken off, the reader fails alike whatever follows. -/
def Lasts (broken : Prop) (read : Token → List Token → Except Failure α) (ts : List Token)
    (failure : Failure) : Prop :=
  ¬ failure.RanOut → ¬ broken → ∀ last more, read last (ts ++ more) = .error failure

/-- A reader of literals fails for one of their faults, and alike whatever follows. -/
structure Stops (broken : Prop) (read : Token → List Token → Except Failure α) (ts : List Token)
    (failure : Failure) : Prop where
  literal : failure.InLiteral
  lasts : Lasts broken read ts failure

/-- The tokens are a range from a date to a number, perhaps an excluded one. -/
def DateToNumber (bang : Option Token) (ts : List Token) : Prop :=
  ∃ (low : End) (dash : Token) (number : Signed), (∀ mark ∈ bang, mark.value = "!") ∧ low.Valid ∧
    low.value.isDate = true ∧ dash.value = "-" ∧ number.Valid ∧
    ts = bang.toList ++ (low.tokens ++ dash :: number.tokens)

/-- The tokens are a range from a date to a number, and it is blamed for being one. -/
def BlamesRange (failure : Failure) (range : List Token) : Prop :=
  (∃ bang, DateToNumber bang range) ∧
    ∃ first ∈ range.head?, failure = .mistake ⟨.mixedRange, first⟩

variable {broken broken' : Prop} {read : Token → List Token → Except Failure α}
  {read' : Token → List Token → Except Failure β} {ts' : List Token}

namespace Lasts

theorem ranOut (early : failure.RanOut) : Lasts broken read ts failure :=
  fun other => absurd early other

/-- A reader fails where one that it calls fails. -/
theorem carry (lasts : Lasts broken read ts failure) (weaker : broken → broken')
    (fails : ∀ last more, read last (ts ++ more) = .error failure →
      read' last (ts' ++ more) = .error failure) : Lasts broken' read' ts' failure :=
  fun other whole last more => fails last more (lasts other (mt weaker whole) last more)

end Lasts

namespace Stops

theorem ranOut (token : Token) : Stops broken read ts (.mistake ⟨.endOfText, token⟩) :=
  ⟨by simp [Failure.InLiteral], .ranOut (by simp [Failure.RanOut])⟩

/-- A failure at a token that has been seen. -/
theorem seen (literal : failure.InLiteral)
    (fails : ∀ last more, read last (ts ++ more) = .error failure) : Stops broken read ts failure :=
  ⟨literal, fun _ _ => fails⟩

theorem carry (stops : Stops broken read ts failure) (weaker : broken → broken')
    (fails : ∀ last more, read last (ts ++ more) = .error failure →
      read' last (ts' ++ more) = .error failure) : Stops broken' read' ts' failure :=
  ⟨stops.literal, stops.lasts.carry weaker fails⟩

end Stops

/-! ### Literals -/

theorem inLiteral_of_numeral (failed : numeral t = .error failure) : failure.InLiteral := by
  unfold numeral at failed
  split at failed
  · cases failed
    simp [Failure.InLiteral]
  · split at failed
    · cases failed
      simp [Failure.InLiteral]
    · split at failed
      · contradiction
      · cases failed
        trivial

theorem numeral_of_signed {g : Int → Int} (failed : ((numeral t >>= fun n => pure (n : Int)).map
    fun value => (g value, rest)) = .error failure) : numeral t = .error failure := by
  rcases bind_eq_error_iff.mp (map_eq_error_iff.mp failed) with found | ⟨_, _, none⟩
  · exact found
  · contradiction

theorem signed_stops (failed : signed last ts = .error failure) :
    Stops False signed ts failure := by
  cases ts with
  | nil =>
    cases failed
    exact .ranOut last
  | cons t ts =>
    unfold signed at failed
    dsimp only at failed
    split at failed
    · next mark =>
      split at failed
      · next dash =>
        cases ts with
        | nil =>
          cases failed
          exact .ranOut last
        | cons digits rest =>
          have found : numeral digits = .error failure := numeral_of_signed failed
          refine .seen (inLiteral_of_numeral found) fun last' more => ?_
          unfold signed
          dsimp only [List.cons_append]
          rw [if_pos mark, if_pos dash, found]
          rfl
      · next notDash =>
        cases failed
        refine .seen (by simp [Failure.InLiteral]) fun last' more => ?_
        unfold signed
        dsimp only [List.cons_append]
        rw [if_pos mark, if_neg notDash]
        rfl
    · next notMark =>
      have found : numeral t = .error failure := numeral_of_signed (g := id) failed
      refine .seen (inLiteral_of_numeral found) fun last' more => ?_
      unfold signed
      dsimp only [List.cons_append]
      rw [if_neg notMark, found]
      rfl

/-- Behind a number and a slash there is a day, if the number is a month. -/
theorem bound_slash {s : Signed} (valid : s.Valid) (readable : Readable s.tokens) {slash : Token}
    (slashed : slash.value = "/") (last first : Token) (more : List Token) :
    bound last first (s.tokens ++ slash :: more) =
      match daysInMonth s.value with
      | .error _ => blame .invalidMonth first
      | .ok days => signed last more >>= fun (day, rest) =>
        if day < 1 ∨ days < day then blame .invalidDate first
        else .ok (.date ⟨s.value, day⟩, rest) := by
  rw [bound, Signed.read last valid readable]
  exact if_pos slashed

/-- A month or a day of a date that does not exist has been read to its end. -/
theorem bound_stops (failed : bound last first ts = .error failure) :
    Stops False (fun last => bound last first) ts failure := by
  unfold bound at failed
  rcases bind_eq_error_iff.mp failed with found | ⟨⟨_, more⟩, found, date⟩
  · refine (signed_stops found).carry id fun last' beyond fails => ?_
    rw [bound, fails]
    rfl
  · obtain ⟨s, valid, readable, rfl, rfl, _⟩ := signed_again found
    dsimp only at date
    split at date
    · contradiction
    · next slash more =>
      split at date
      · next slashed =>
        have onward := bound_slash valid readable slashed
        split at date
        · next outside =>
          cases date
          refine .seen (by simp [Failure.InLiteral]) fun last' beyond => ?_
          rw [List.append_assoc, List.cons_append, onward, outside]
          rfl
        · next days inYear =>
          rcases bind_eq_error_iff.mp date with found | ⟨⟨day, rest⟩, found, outside⟩
          · refine (signed_stops found).carry id fun last' beyond fails => ?_
            rw [List.append_assoc, List.cons_append, onward, inYear, fails]
            rfl
          · obtain ⟨s', valid', readable', rfl, rfl, _⟩ := signed_again found
            dsimp only at outside
            split at outside
            · next noDay =>
              cases outside
              refine .seen (by simp [Failure.InLiteral]) fun last' beyond => ?_
              rw [List.append_assoc, List.cons_append, onward, inYear, List.append_assoc,
                Signed.read last' valid' readable']
              exact if_pos noDay
            · contradiction
      · contradiction

theorem endpoint_stops {weekdays : Bool}
    (failed : endpoint last first weekdays ts = .error failure) :
    Stops False (fun last => endpoint last first weekdays) ts failure := by
  cases ts with
  | nil =>
    cases failed
    exact .ranOut last
  | cons t ts =>
    rw [endpoint] at failed
    split at failed
    · contradiction
    · next other =>
      refine (bound_stops (map_eq_error_iff.mp failed)).carry id fun last' more fails => ?_
      rw [List.cons_append] at fails ⊢
      rw [endpoint, other, fails]
      rfl

theorem modulus_stops (failed : modulus last ts = .error failure) :
    Stops False modulus ts failure := by
  unfold modulus at failed
  split at failed
  · contradiction
  · split at failed
    · next marks =>
      refine (signed_stops (map_eq_error_iff.mp failed)).carry id fun last' more fails => ?_
      rw [List.cons_append, modulus, if_pos marks, fails]
      rfl
    · contradiction

theorem wildcardModulus_stops (failed : wildcardModulus last ts = .error failure) :
    Stops False wildcardModulus ts failure := by
  unfold wildcardModulus at failed
  split at failed
  · contradiction
  · split at failed
    · next marks =>
      refine (signed_stops (map_eq_error_iff.mp failed)).carry id fun last' more fails => ?_
      rw [List.cons_append, wildcardModulus, if_pos marks, fails]
      rfl
    · next notPercent =>
      split at failed
      · next opens =>
        refine (signed_stops (map_eq_error_iff.mp failed)).carry id fun last' more fails => ?_
        rw [List.cons_append] at fails ⊢
        rw [wildcardModulus, if_neg notPercent, if_pos opens, fails]
        rfl
      · contradiction

/-- Two ends that make no literal are a date and another end. -/
theorem isDate_ne_of_upTo? {low high : Endpoint} (apart : low.upTo? high = none) :
    low.isDate ≠ high.isDate := by
  intro same
  rw [(Endpoint.upTo?_eq_some_iff low high _).mpr ⟨same, rfl⟩] at apart
  contradiction

/-- Ends of two kinds have been read to their ends, but for a number behind a date. -/
theorem operand_stops (failed : operand last first ts = .error failure) :
    Stops (failure = .mistake ⟨.mixedRange, first⟩ ∧ DateToNumber none ts)
      (fun last => operand last first) ts failure := by
  unfold operand at failed
  rcases bind_eq_error_iff.mp failed with found | ⟨⟨low, more⟩, found, tail⟩
  · refine (endpoint_stops found).carry False.elim fun last' beyond fails => ?_
    rw [operand, fails]
    rfl
  · obtain ⟨e, valid, _, rfl, rfl, again⟩ := endpoint_again found
    dsimp only at tail
    split at tail
    · contradiction
    · next dash more =>
      split at tail
      · next dashed =>
        have low (last' : Token) (beyond : List Token) :=
          again last' (dash :: (more ++ beyond)) fun _ => .cons dash _ _
        rcases bind_eq_error_iff.mp tail with found' | ⟨⟨high, rest⟩, found', joined⟩
        · refine (endpoint_stops found').carry False.elim fun last' beyond fails => ?_
          rw [List.append_assoc, List.cons_append, operand_dash dashed (low last' beyond), fails]
          rfl
        · obtain ⟨e', valid', _, rfl, rfl, again'⟩ := endpoint_again found'
          dsimp only at joined
          split at joined
          · contradiction
          · next apart =>
            cases joined
            refine ⟨by simp [Failure.InLiteral], fun _ whole last' beyond => ?_⟩
            have next : (∃ n, e'.value = .number n) → SameNext rest (rest ++ beyond) := by
              rintro ⟨n, number⟩
              refine .append ?_ beyond
              rintro rfl
              cases e' with
              | weekday => contradiction
              | date => contradiction
              | number s =>
                have date : e.value.isDate = true := by
                  simpa [End.value, Endpoint.isDate] using isDate_ne_of_upTo? apart
                exact whole ⟨rfl, e, dash, s, by simp, valid, date, dashed, valid',
                  by simp [End.tokens]⟩
            have high := again' last' (rest ++ beyond) next
            rw [← List.append_assoc] at high
            rw [List.append_assoc, List.cons_append, operand_upTo? dashed (low last' beyond) high,
              apart]
            rfl
      · contradiction

theorem literal_stops {exclude : Bool} (failed : literal last first exclude ts = .error failure) :
    Stops (failure = .mistake ⟨.mixedRange, first⟩ ∧ DateToNumber none ts)
      (fun last => literal last first exclude) ts failure := by
  cases ts with
  | nil =>
    cases failed
    exact .ranOut last
  | cons t ts =>
    rw [literal] at failed
    split at failed
    · next percent =>
      have stops := wildcardModulus_stops (map_eq_error_iff.mp failed)
      refine stops.carry False.elim fun last' more fails => ?_
      rw [List.cons_append, literal, if_pos percent, fails]
      rfl
    · next notPercent =>
      rcases bind_eq_error_iff.mp failed with found | ⟨⟨value, middle⟩, found, tail⟩
      · refine (operand_stops found).carry id fun last' more fails => ?_
        rw [List.cons_append] at fails ⊢
        rw [literal, if_neg notPercent, fails]
        rfl
      · rcases bind_eq_error_iff.mp tail with found' | ⟨_, _, none⟩
        · obtain ⟨s, taken, whole, again⟩ := operand_again found
          obtain ⟨rfl, rfl⟩ := List.cons.inj whole
          have filled : middle ≠ [] := by
            rintro rfl
            contradiction
          refine (modulus_stops found').carry False.elim fun last' more fails => ?_
          rw [List.cons_append, literal, if_neg notPercent, List.append_assoc,
            again last' (middle ++ more) (.append filled more)]
          change (modulus last' (middle ++ more) >>= _) = _
          rw [fails]
          rfl
        · contradiction

/-! ### Arguments and expressions -/

/-- The tokens break off in the range that is blamed: up to it they lack nothing but a closing
parenthesis, and nothing follows it. -/
def BreaksOff (read : Token → List Token → Except Failure α) (failure : Failure)
    (ts : List Token) : Prop :=
  ∃ before range name, ts = before ++ range ∧ BlamesRange failure range ∧
    ∀ last, read last before = blame .missingClosing name

/-- Every failure of a reader of expressions lasts, unless the tokens break off in a range. -/
def AlwaysLasts (read : Token → List Token → Except Failure α) : Prop :=
  ∀ ⦃last ts failure⦄, read last ts = .error failure →
    Lasts (BreaksOff read failure ts) read ts failure

variable {budget : Nat}

/-- What stands in the place of an argument. The tokens may run out, a parenthesis may close the
expression, or the argument is refused at once; otherwise an expression or a literal begins. -/
inductive ArgumentBegins : List Token → Prop
  | ranOut {ts : List Token}
      (early : ∀ last nested, argument last nested ts = blame .endOfText last) : ArgumentBegins ts
  | closing {closing : Token} {rest : List Token} (closes : closing.value = ")") :
      ArgumentBegins (closing :: rest)
  | refused {ts : List Token} (fault : Fault) (token : Token)
      (listed : fault ∈ [.emptyArgument, .unexpectedToken])
      (fails : ∀ last nested more, argument last nested (ts ++ more) = blame fault token) :
      ArgumentBegins ts
  | nested {name : Token} {rest : List Token} (named : name.isName = true) :
      ArgumentBegins (name :: rest)
  | literal {bang : Option Token} {first : Token} {tail : List Token}
      (bangs : ∀ mark ∈ bang, mark.value = "!") (begins : first ∈ (bang.toList ++ tail).head?)
      (reads : ∀ last nested more, argument last nested (bang.toList ++ tail ++ more) =
        (literal last first bang.isSome (tail ++ more)).map fun (l, after) =>
          (some (.literal l), after)) :
      ArgumentBegins (bang.toList ++ tail)

/-- The first two tokens decide what stands in the place of an argument. -/
theorem argumentBegins (ts : List Token) : ArgumentBegins ts := by
  rcases ts with _ | ⟨first, rest⟩
  · exact .ranOut fun _ _ => rfl
  · by_cases bang : first.value = "!"
    · rcases rest with _ | ⟨t, rest⟩
      · exact .ranOut fun last nested => by simp [argument, bang]
      · by_cases closing : t.value = ")"
        · refine .refused .emptyArgument first (by simp) fun last nested more => ?_
          simp [argument, bang, closing]
        · by_cases comma : t.value = ","
          · refine .refused .emptyArgument t (by simp) fun last nested more => ?_
            simp [argument, bang, comma]
          · by_cases isName : t.isName = true
            · refine .refused .unexpectedToken first (by simp) fun last nested more => ?_
              simp [argument, bang, closing, comma, isName]
            · refine @ArgumentBegins.literal (some first) first (t :: rest) (by simpa using bang)
                rfl fun last nested more => ?_
              simp [argument, bang, closing, comma, isName]
    · by_cases closing : first.value = ")"
      · exact .closing closing
      · by_cases comma : first.value = ","
        · refine .refused .emptyArgument first (by simp) fun last nested more => ?_
          simp [argument, comma]
        · by_cases isName : first.isName = true
          · exact .nested isName
          · refine @ArgumentBegins.literal none first (first :: rest) (by simp) rfl
              fun last nested more => ?_
            simp [argument, bang, closing, comma, isName]

/-- An argument breaks off by itself or in an expression. -/
theorem argument_lasts (nests : ∀ name, name.isName = true →
      AlwaysLasts fun last => expression last budget name)
    (failed : argument last (expression last budget) ts = .error failure) :
    Lasts (BlamesRange failure ts ∨
        BreaksOff (fun last => argument last (expression last budget)) failure ts)
      (fun last => argument last (expression last budget)) ts failure := by
  cases argumentBegins ts with
  | ranOut early =>
    rw [early] at failed
    cases failed
    exact .ranOut (by simp [Failure.RanOut])
  | closing closes => simp [argument, closes] at failed
  | refused fault blamed listed fails =>
    have stays := fails last (expression last budget) []
    rw [List.append_nil, failed] at stays
    cases stays
    exact fun _ _ last' more => fails last' _ more
  | @nested name rest named =>
    rw [argument_nested _ _ named] at failed
    refine (nests name named (map_eq_error_iff.mp failed)).carry ?_ fun last' more fails => ?_
    · rintro ⟨before, range, blamed, rfl, mixed, blames⟩
      refine .inr ⟨name :: before, range, blamed, rfl, mixed, fun last' => ?_⟩
      have inside : expression last' budget name before = _ := blames last'
      dsimp only
      rw [argument_nested _ _ named, inside]
      rfl
    · rw [List.cons_append, argument_nested _ _ named, fails]
      rfl
  | @literal bang first tail bangs begins reads =>
    have stays := reads last (expression last budget) []
    rw [List.append_nil, List.append_nil, failed] at stays
    have stops := literal_stops (map_eq_error_iff.mp stays.symm)
    refine stops.lasts.carry ?_ fun last' more fails => ?_
    · rintro ⟨mixed, low, dash, number, _, valid, date, dashed, valid', split⟩
      exact .inl ⟨⟨bang, low, dash, number, bangs, valid, date, dashed, valid', by simp [split]⟩,
        first, begins, mixed⟩
    · rw [reads, fails]
      rfl

/-- If what is left behind a comma is cut short, so are the tokens from that comma on. -/
theorem exists_of_skipComma {before range : List Token} (left : skipComma after = before ++ range) :
    ∃ rest', after = rest' ++ range ∧ skipComma rest' = before := by
  cases after with
  | nil =>
    obtain ⟨rfl, rfl⟩ := List.append_eq_nil_iff.mp left.symm
    exact ⟨[], rfl, rfl⟩
  | cons t more =>
    rw [skipComma] at left
    split at left
    · next comma =>
      exact ⟨t :: before, by rw [left]; rfl, by rw [skipComma, if_pos comma]⟩
    · next notComma =>
      refine ⟨before, left, ?_⟩
      cases before with
      | nil => rfl
      | cons s before =>
        rw [List.cons_append, List.cons.injEq] at left
        rw [skipComma, if_neg (left.1 ▸ notComma)]

theorem skipComma_append (filled : after ≠ []) (more : List Token) :
    skipComma (after ++ more) = skipComma after ++ more := by
  cases after with
  | nil => contradiction
  | cons t rest =>
    rw [List.cons_append, skipComma, skipComma]
    split <;> rfl

/-- The induction is on the tokens, which get fewer with each argument. Where the arguments break
off, those before are read again without what follows them. -/
theorem arguments_lasts (nests : ∀ name, name.isName = true →
      AlwaysLasts fun last => expression last budget name) (name : Token) :
    AlwaysLasts fun last => arguments last name (expression last budget) := by
  intro last ts failure failed
  dsimp only at failed
  induction ts using arguments.induct last (expression last budget) with
  | case1 =>
    rw [arguments] at failed
    cases failed
    exact .ranOut (by simp [Failure.RanOut])
  | case2 t rest closes =>
    rw [arguments, if_pos closes] at failed
    contradiction
  | case3 t rest notClosing cause found =>
    rw [arguments, if_neg notClosing, found] at failed
    cases failed
    refine (argument_lasts nests found).carry ?_ fun last' more fails => ?_
    · rintro (mixed | ⟨before, range, blamed, split, mixed, blames⟩)
      · refine ⟨[], t :: rest, name, rfl, mixed, fun last' => ?_⟩
        dsimp only
        rw [arguments]
      · refine ⟨before, range, blamed, split, mixed, fun last' => ?_⟩
        have inside : argument last' (expression last' budget) before = _ := blames last'
        cases before with
        | nil => cases inside
        | cons s before =>
          rw [List.cons_append, List.cons.injEq] at split
          dsimp only
          rw [arguments, if_neg (split.1 ▸ notClosing), inside]
          rfl
    · rw [List.cons_append] at fails ⊢
      rw [arguments, if_neg notClosing, fails]
  | case4 t rest notClosing node after found shorter ih =>
    rw [arguments_next notClosing found shorter] at failed
    have others := map_eq_error_iff.mp failed
    obtain ⟨taken, rfl, again⟩ := argument_again notClosing found
    have fewer (rest' : List Token) :
        (skipComma rest').length < (t :: (taken ++ rest')).length := by
      have most := length_skipComma_le rest'
      simp only [List.length_cons, List.length_append]
      omega
    by_cases filled : after = []
    · subst filled
      rw [skipComma, arguments] at others
      cases others
      exact .ranOut (by simp [Failure.RanOut])
    refine (ih others).carry ?_ fun last' more fails => ?_
    · rintro ⟨before, range, blamed, split, mixed, blames⟩
      obtain ⟨rest', rfl, skipped⟩ := exists_of_skipComma split
      refine ⟨t :: (taken ++ rest'), range, blamed, by simp, mixed, fun last' => ?_⟩
      have inside : arguments last' name (expression last' budget) before = _ := blames last'
      have first := again last' rest' (.take rest' range)
      dsimp only
      rw [arguments_next notClosing first (fewer rest'), skipped, inside]
      rfl
    · have first := again last' (after ++ more) (.append filled more)
      rw [List.cons_append, List.append_assoc, arguments_next notClosing first (fewer _),
        skipComma_append filled, fails]
      rfl
  | case5 t rest notClosing node after found longer =>
    rw [arguments, if_neg notClosing, found] at failed
    dsimp only at failed
    rw [if_neg longer] at failed
    cases failed
    exact .ranOut (by simp [Failure.RanOut])

/-- The induction is on the budget. -/
theorem expression_lasts (budget : Nat) (name : Token) :
    AlwaysLasts fun last => expression last budget name := by
  induction budget generalizing name with
  | zero =>
    intro last ts failure failed
    cases failed
    exact fun _ _ _ _ => rfl
  | succ budget ih =>
    intro last ts failure failed
    cases ts with
    | nil =>
      cases failed
      exact .ranOut (by simp [Failure.RanOut])
    | cons mark body =>
      dsimp only [expression] at failed
      split at failed
      · next opens =>
        have lasts := arguments_lasts (fun name _ => ih name) name (map_eq_error_iff.mp failed)
        refine lasts.carry ?_ fun last' more fails => ?_
        · rintro ⟨before, range, blamed, rfl, mixed, blames⟩
          refine ⟨mark :: before, range, blamed, rfl, mixed, fun last' => ?_⟩
          have inside : arguments last' name (expression last' budget) before = _ := blames last'
          dsimp only
          rw [expression_opening opens, inside]
          rfl
        · rw [List.cons_append, expression_opening opens, fails]
          rfl
      · next other =>
        cases failed
        exact fun _ _ last' more => if_neg other

/-! ### Documents -/

theorem expressions_lasts (budget : Nat) (begun : Bool) :
    AlwaysLasts fun last => expressions last budget begun := by
  intro last ts failure failed
  dsimp only at failed
  induction begun, ts using expressions.induct last budget with
  | case1 begun =>
    rw [expressions] at failed
    contradiction
  | case2 begun t rest named cause found =>
    rw [expressions, if_pos named, found] at failed
    cases failed
    refine (expression_lasts budget t found).carry ?_ fun last' more fails => ?_
    · rintro ⟨before, range, blamed, rfl, mixed, blames⟩
      refine ⟨t :: before, range, blamed, rfl, mixed, fun last' => ?_⟩
      have inside : expression last' budget t before = _ := blames last'
      dsimp only
      rw [expressions, if_pos named, inside]
      rfl
    · rw [List.cons_append, expressions, if_pos named, fails]
  | case3 begun t rest named e after found shorter ih =>
    rw [expressions_next named found shorter] at failed
    obtain ⟨taken, rfl, again⟩ := expression_again named found
    have onward (last' : Token) (rest' : List Token) :
        expressions last' budget begun (t :: (taken ++ rest')) =
          (expressions last' budget true rest').map (e :: ·) := by
      have fewer : rest'.length < (t :: (taken ++ rest')).length := by
        simp only [List.length_cons, List.length_append]
        omega
      exact expressions_next named (again last' rest') fewer
    refine (ih (map_eq_error_iff.mp failed)).carry ?_ fun last' more fails => ?_
    · rintro ⟨before, range, blamed, rfl, mixed, blames⟩
      refine ⟨t :: (taken ++ before), range, blamed, by simp, mixed, fun last' => ?_⟩
      have inside : expressions last' budget true before = _ := blames last'
      dsimp only
      rw [onward, inside]
      rfl
    · rw [List.cons_append, List.append_assoc, onward, fails]
      rfl
  | case4 begun t rest named e after found longer =>
    rw [expressions, if_pos named, found] at failed
    dsimp only at failed
    rw [if_neg longer] at failed
    cases failed
    exact .ranOut (by simp [Failure.RanOut])
  | case5 begun t rest notName comma ih =>
    have onward (last' : Token) (rest' : List Token) :
        expressions last' budget begun (t :: rest') = expressions last' budget true rest' := by
      rw [expressions, if_neg notName, if_pos comma]
    rw [onward] at failed
    refine (ih failed).carry ?_ fun last' more fails => ?_
    · rintro ⟨before, range, blamed, rfl, mixed, blames⟩
      refine ⟨t :: before, range, blamed, rfl, mixed, fun last' => ?_⟩
      exact (onward last' before).trans (blames last')
    · rw [List.cons_append, onward, fails]
  | case6 begun t rest notName notComma =>
    rw [expressions, if_neg notName, if_neg notComma] at failed
    cases failed
    intro _ _ last' more
    dsimp only [List.cons_append]
    rw [expressions, if_neg notName, if_neg notComma]
    rfl

/-- The document breaks off in the range that is blamed: it ends in a date, a dash and a number, an
argument that begins behind tokens which lack only a closing parenthesis. -/
def BreaksOffInRange (maxDepth : Int) (failure : Failure) (ts : List Token) : Prop :=
  ∃ before range name, ts = before ++ range ∧ BlamesRange failure range ∧
    document maxDepth before = blame .missingClosing name

/-- What breaks off in a range ends in the digits of a number. -/
theorem BreaksOffInRange.getLast? {maxDepth : Int} (broken : BreaksOffInRange maxDepth failure ts) :
    ∃ digits ∈ ts.getLast?, IsDigits digits := by
  obtain ⟨before, _, _, rfl, ⟨⟨bang, low, dash, number, _, _, _, _, valid, rfl⟩, _⟩, _⟩ := broken
  cases number with
  | plain digits => exact ⟨digits, by simp [Signed.tokens], valid⟩
  | minus sign digits => exact ⟨digits, by simp [Signed.tokens], valid.2⟩

/-- A document that fails does so whatever follows it, at the same token and for the same fault,
unless its tokens ran out or it breaks off in a range from a date to a number. -/
theorem document_append_of_error (maxDepth : Int) (ts more : List Token) (failure : Failure)
    (failed : document maxDepth ts = .error failure)
    (complete : ∀ m, failure = .mistake m →
      m.fault ∉ [.endOfText, .missingOpening, .missingClosing])
    (whole : ¬ BreaksOffInRange maxDepth failure ts) :
    document maxDepth (ts ++ more) = .error failure := by
  have lasts := expressions_lasts (budget maxDepth 1) false failed
  refine lasts ?_ ?_ (endToken (ts ++ more)) more
  · intro early
    cases failure with
    | mistake m => exact complete m rfl early
    | overlong => exact early
  · rintro ⟨before, range, name, split, mixed, blames⟩
    exact whole ⟨before, range, name, split, mixed, blames (endToken before)⟩

/-- The comma shows that the range ends in the number 5, whatever follows it. -/
theorem document_append_of_error_mixed :
    let range := tokenize "date(1/1-5,"
    let failure : Failure := .mistake ⟨.mixedRange, ⟨5, "1"⟩⟩
    document 16 range = .error failure ∧
      document 16 (range ++ tokenize "2/1)") = .error failure := by
  intro range failure
  have mixed : (document 16 range).map (fun _ => ()) = .error failure := by decide +kernel
  have failed := map_eq_error_iff.mp mixed
  have complete : ∀ m, failure = .mistake m →
      m.fault ∉ [.endOfText, .missingOpening, .missingClosing] := by
    intro m same
    rw [← Failure.mistake.inj same]
    decide
  have whole : ¬ BreaksOffInRange 16 failure range := by
    intro broken
    obtain ⟨digits, last, number, _⟩ := broken.getLast?
    have comma : range.getLast? = some ⟨10, ","⟩ := by decide +kernel
    rw [comma, Option.mem_some_iff] at last
    rw [← last] at number
    exact absurd number (by decide)
  exact ⟨failed,
    document_append_of_error 16 range (tokenize "2/1)") failure failed complete whole⟩

-- Without the comma a slash and a day make a date of that number.
example : (document 16 (tokenize "date(1/1-5")).map (fun _ => ()) =
      .error (.mistake ⟨.mixedRange, ⟨5, "1"⟩⟩) ∧
    (document 16 (tokenize "date(1/1-5" ++ tokenize "/2)")).map List.length = .ok 1 := by
  decide +kernel

end Reading

end Schedule
