import Schedule.Proofs.Reading.Document

/-! # How far ahead reading looks

Whether a literal takes one more token is decided by that token alone, and an expression ends with
its own parenthesis. So what is read stays the same if other tokens stand behind the next one, or if
the tokens end there. The lemmas say so of each reader, in the order in which they call each other:
the tokens it was given are those that it took and those that are left, and it takes the same ones
again.
-/

namespace Schedule.Reading

open Grammar

variable {last first name t : Token} {ts rest rest' after : List Token}

/-- Nothing follows, or the token that comes next is the same. -/
def SameNext (rest rest' : List Token) : Prop :=
  ∀ t ∈ rest'.head?, t ∈ rest.head?

namespace SameNext

theorem nil (rest : List Token) : SameNext rest [] := by
  simp [SameNext]

theorem cons (t : Token) (rest rest' : List Token) : SameNext (t :: rest) (t :: rest') := by
  simp [SameNext]

theorem of_cons {rest' : List Token} (same : SameNext (t :: rest) rest') :
    rest' = [] ∨ ∃ more, rest' = t :: more := by
  cases rest' with
  | nil => exact .inl rfl
  | cons s more =>
    have equal : t = s := by simpa [SameNext] using same
    exact .inr ⟨more, by rw [equal]⟩

theorem eq_nil (same : SameNext [] rest) : rest = [] := by
  cases rest with
  | nil => rfl
  | cons t more => simp [SameNext] at same

/-- More tokens behind some that are left do not change which comes next. -/
theorem append (filled : rest ≠ []) (more : List Token) : SameNext rest (rest ++ more) := by
  cases rest with
  | nil => contradiction
  | cons t rest => exact cons t rest _

/-- The same token comes next if what follows later is left out. -/
theorem take (rest more : List Token) : SameNext (rest ++ more) rest := by
  cases rest with
  | nil => exact nil more
  | cons t rest => exact cons t _ rest

/-- In front of the same tokens it does not matter what follows them. -/
theorem append_left (taken : List Token) (same : SameNext rest rest') :
    SameNext (taken ++ rest) (taken ++ rest') := by
  cases taken with
  | nil => exact same
  | cons t taken => exact cons t _ _

theorem ahead {p : Token → Prop} (same : SameNext rest rest') (ahead : Ahead p rest) :
    Ahead p rest' :=
  fun t next => ahead t (same t next)

end SameNext

/-! ### Literals -/

/-- A number is read without looking ahead. -/
theorem signed_again {n : Int} (success : signed last ts = .ok (n, rest)) :
    ∃ s : Signed, s.Valid ∧ Readable s.tokens ∧ s.value = n ∧ ts = s.tokens ++ rest ∧
      ∀ last' rest', signed last' (s.tokens ++ rest') = .ok (n, rest') := by
  obtain ⟨s, valid, readable, rfl, whole⟩ := Signed.of_read success
  exact ⟨s, valid, readable, rfl, whole, fun last' => Signed.read last' valid readable⟩

/-- A number that was not read as a month has no slash behind it. -/
theorem noSlash_of_bound {s : Signed} (valid : s.Valid) (readable : Readable s.tokens) {n : Int}
    (success : bound last first (s.tokens ++ rest) = .ok (.number n, rest)) : NoSlash rest := by
  rw [bound, Signed.read last valid readable] at success
  cases rest with
  | nil => simp
  | cons slash more =>
    refine (ahead_cons ..).mpr fun slashed => ?_
    change (if slash.value = "/" then _ else _) = _ at success
    rw [if_pos slashed] at success
    split at success
    · contradiction
    · obtain ⟨⟨day, _⟩, _, date⟩ := bind_eq_ok_iff.mp success
      dsimp only at date
      split at date
      · contradiction
      · cases date

/-- A date is read without looking ahead, a number looks for a slash. -/
theorem bound_again {b : Bound} (success : bound last first ts = .ok (b, rest)) :
    ∃ e : End, e.Valid ∧ Readable e.tokens ∧ e.value = .ofBound b ∧ ts = e.tokens ++ rest ∧
      ∀ last' rest', ((∃ n, b = .number n) → SameNext rest rest') →
        bound last' first (e.tokens ++ rest') = .ok (b, rest') := by
  obtain ⟨e, valid, readable, value, rfl⟩ := End.of_bound success
  refine ⟨e, valid, readable, value, rfl, fun last' rest' next => ?_⟩
  cases e with
  | weekday word day => cases b <;> contradiction
  | number s =>
    cases b with
    | date => contradiction
    | number n =>
      cases value
      have slashless := noSlash_of_bound valid readable success
      exact End.bound_number valid readable ((next ⟨_, rfl⟩).ahead slashless)
  | date month slash day =>
    cases b with
    | number => contradiction
    | date => 
      cases value
      exact End.bound_date last' first valid readable rest'

/-- A weekday or a date is read without looking ahead, a number looks for a slash. -/
theorem endpoint_again {weekdays : Bool} {value : Endpoint}
    (success : endpoint last first weekdays ts = .ok (value, rest)) :
    ∃ e : End, e.Valid ∧ Readable e.tokens ∧ e.value = value ∧ ts = e.tokens ++ rest ∧
      ∀ last' rest', ((∃ n, value = .number n) → SameNext rest rest') →
        endpoint last' first weekdays (e.tokens ++ rest') = .ok (value, rest') := by
  cases ts with
  | nil => contradiction
  | cons t ts =>
    rw [endpoint] at success
    split at success
    · next day spelt =>
      cases success
      have word : t.weekday? = some day := by
        cases weekdays with
        | false => contradiction
        | true => exact spelt
      have notNumber : t.isNumber = true → t.value.length ≤ Numeral.longest := by
        intro number
        rw [Token.weekday?_of_isNumber number] at word
        contradiction
      refine ⟨.weekday t day, word, by simpa [End.tokens] using notNumber, rfl, rfl, ?_⟩
      intro last' rest' _
      rw [End.tokens, List.singleton_append, endpoint, spelt]
    · next other =>
      obtain ⟨⟨b, _⟩, found, same⟩ := map_eq_ok_iff.mp success
      cases same
      obtain ⟨e, valid, readable, value, whole, again⟩ := bound_again found
      refine ⟨e, valid, readable, value, whole, fun last' rest' next => ?_⟩
      have onward : (∃ n, b = .number n) → SameNext rest rest' := by
        rintro ⟨n, rfl⟩
        exact next ⟨n, rfl⟩
      obtain ⟨more, starts⟩ := e.tokens_eq
      rw [starts, List.cons_append] at whole
      obtain ⟨rfl, rfl⟩ := List.cons.inj whole
      have found := again last' rest' onward
      rw [starts, List.cons_append] at found ⊢
      rw [endpoint, other, found]
      rfl

/-- Behind an end and a dash another end is read. -/
theorem operand_dash {low : Endpoint} {dash : Token} {more : List Token} (dashed : dash.value = "-")
    (found : endpoint last first true ts = .ok (low, dash :: more)) :
    operand last first ts =
      endpoint last first (!low.isDate) more >>= fun (high, rest) =>
        match low.upTo? high with
        | some value => .ok (value, rest)
        | none => blame .mixedRange first := by
  rw [operand, found]
  exact if_pos dashed

/-- Two ends are a literal if they go together. -/
theorem operand_upTo? {low high : Endpoint} {dash : Token} {more : List Token}
    (dashed : dash.value = "-") (found : endpoint last first true ts = .ok (low, dash :: more))
    (found' : endpoint last first (!low.isDate) more = .ok (high, rest)) :
    operand last first ts =
      match low.upTo? high with
      | some value => .ok (value, rest)
      | none => blame .mixedRange first := by
  rw [operand_dash dashed found, found']
  rfl

/-- An operand looks for a dash behind its first end, and for a slash behind a number. -/
theorem operand_again {value : Operand} (success : operand last first ts = .ok (value, rest)) :
    ∃ t taken, ts = t :: (taken ++ rest) ∧ ∀ last' rest', SameNext rest rest' →
      operand last' first (t :: (taken ++ rest')) = .ok (value, rest') := by
  unfold operand at success
  obtain ⟨⟨low, more⟩, found, tail⟩ := bind_eq_ok_iff.mp success
  obtain ⟨e, _, _, _, rfl, again⟩ := endpoint_again found
  obtain ⟨taken, starts⟩ := e.tokens_eq
  dsimp only at tail
  split at tail
  · cases tail
    refine ⟨e.first, taken, by rw [starts]; rfl, fun last' rest' next => ?_⟩
    have read := again last' rest' fun _ => next
    obtain rfl := next.eq_nil
    rw [← List.cons_append, ← starts, operand, read]
    rfl
  · next dash more =>
    split at tail
    · next dashed =>
      obtain ⟨⟨high, _⟩, found', joined⟩ := bind_eq_ok_iff.mp tail
      obtain ⟨e', _, _, _, rfl, again'⟩ := endpoint_again found'
      dsimp only at joined
      split at joined
      · next value fits =>
        cases joined
        refine ⟨e.first, taken ++ dash :: e'.tokens, by simp [starts], fun last' rest' next => ?_⟩
        have read := again last' (dash :: (e'.tokens ++ rest')) fun _ => .cons dash _ _
        have read' := again' last' rest' fun _ => next
        rw [List.append_assoc, List.cons_append, ← List.cons_append, ← starts,
          operand_upTo? dashed read read', fits]
      · contradiction
    · next notDash =>
      cases tail
      refine ⟨e.first, taken, by rw [starts]; rfl, fun last' rest' next => ?_⟩
      have read := again last' rest' fun _ => next
      rw [← List.cons_append, ← starts, operand, read]
      rcases next.of_cons with rfl | ⟨more', rfl⟩
      · rfl
      · change (if dash.value = "-" then _ else _) = _
        rw [if_neg notDash]

theorem modulus_again {value : Option Int} (success : modulus last ts = .ok (value, rest)) :
    ∃ taken, ts = taken ++ rest ∧ ∀ last' rest', SameNext rest rest' →
      modulus last' (taken ++ rest') = .ok (value, rest') := by
  unfold modulus at success
  split at success
  · cases success
    refine ⟨[], rfl, fun last' rest' next => ?_⟩
    rw [next.eq_nil]
    rfl
  · next percent more =>
    split at success
    · next marks =>
      obtain ⟨⟨n, _⟩, found, same⟩ := map_eq_ok_iff.mp success
      cases same
      obtain ⟨s, _, _, _, rfl, again⟩ := signed_again found
      refine ⟨percent :: s.tokens, rfl, fun last' rest' _ => ?_⟩
      rw [List.cons_append, modulus, if_pos marks, again]
      rfl
    · next other =>
      cases success
      refine ⟨[], rfl, fun last' rest' next => ?_⟩
      rcases next.of_cons with rfl | ⟨more', rfl⟩
      · rfl
      · rw [List.nil_append, modulus, if_neg other]

theorem wildcardModulus_again {value : Option Int}
    (success : wildcardModulus last ts = .ok (value, rest)) :
    ∃ taken, ts = taken ++ rest ∧ ∀ last' rest', SameNext rest rest' →
      wildcardModulus last' (taken ++ rest') = .ok (value, rest') := by
  unfold wildcardModulus at success
  split at success
  · cases success
    refine ⟨[], rfl, fun last' rest' next => ?_⟩
    rw [next.eq_nil]
    rfl
  · next mark more =>
    split at success
    · next marks =>
      obtain ⟨⟨n, _⟩, found, same⟩ := map_eq_ok_iff.mp success
      cases same
      obtain ⟨s, _, _, _, rfl, again⟩ := signed_again found
      refine ⟨mark :: s.tokens, rfl, fun last' rest' _ => ?_⟩
      rw [List.cons_append, wildcardModulus, if_pos marks, again]
      rfl
    · next notPercent =>
      split at success
      · next opens =>
        obtain ⟨⟨n, _⟩, found, same⟩ := map_eq_ok_iff.mp success
        cases same
        obtain ⟨s, _, _, _, whole, again⟩ := signed_again found
        obtain ⟨taken, starts⟩ := s.tokens_eq
        refine ⟨s.tokens, whole, fun last' rest' _ => ?_⟩
        have read := again last' rest'
        rw [starts, List.cons_append] at whole read ⊢
        rw [← (List.cons.inj whole).1] at read ⊢
        rw [wildcardModulus, if_neg notPercent, if_pos opens, read]
        rfl
      · next other =>
        cases success
        refine ⟨[], rfl, fun last' rest' next => ?_⟩
        rcases next.of_cons with rfl | ⟨more', rfl⟩
        · rfl
        · rw [List.nil_append, wildcardModulus, if_neg notPercent, if_neg other]

theorem literal_again {exclude : Bool} {l : Literal}
    (success : literal last first exclude ts = .ok (l, rest)) :
    ∃ t taken, ts = t :: (taken ++ rest) ∧ ∀ last' rest', SameNext rest rest' →
      literal last' first exclude (t :: (taken ++ rest')) = .ok (l, rest') := by
  unfold literal at success
  split at success
  · contradiction
  · next t more =>
    split at success
    · next percent =>
      obtain ⟨⟨every, _⟩, found, same⟩ := map_eq_ok_iff.mp success
      cases same
      obtain ⟨taken, rfl, again⟩ := wildcardModulus_again found
      refine ⟨t, taken, rfl, fun last' rest' next => ?_⟩
      rw [literal, if_pos percent, again last' rest' next]
      rfl
    · next notPercent =>
      obtain ⟨⟨value, middle⟩, found, tail⟩ := bind_eq_ok_iff.mp success
      obtain ⟨⟨every, _⟩, found', same⟩ := bind_eq_ok_iff.mp tail
      cases same
      obtain ⟨s, taken, whole, again⟩ := operand_again found
      obtain ⟨taken', rfl, again'⟩ := modulus_again found'
      obtain ⟨rfl, rfl⟩ := List.cons.inj whole
      refine ⟨t, taken ++ taken', by simp, fun last' rest' next => ?_⟩
      rw [literal, if_neg notPercent, List.append_assoc,
        again last' (taken' ++ rest') (next.append_left taken')]
      change (modulus last' (taken' ++ rest') >>= _) = _
      rw [again' last' rest' next]
      rfl

/-! ### Arguments and expressions -/

/-- An expression is read without looking ahead. -/
theorem expression_again {budget : Nat} {e : Expression} (named : name.isName = true)
    (success : expression last budget name ts = .ok (e, rest)) :
    ∃ taken, ts = taken ++ rest ∧ ∀ last' rest',
      expression last' budget name (taken ++ rest') = .ok (e, rest') := by
  obtain ⟨p, valid, readable, greedy, deep, rfl, whole⟩ := Phrase.of_read budget named success
  rw [Phrase.tokens, List.cons_append] at whole
  obtain ⟨rfl, rfl⟩ := List.cons.inj whole
  refine ⟨p.opening :: (p.inner.tokens ++ [p.closing]), rfl, fun last' rest' => ?_⟩
  have read := Phrase.read last' valid readable greedy deep rest'
  simpa using read

/-- What takes the place of an argument is a literal or an expression, as there is no closing
parenthesis. -/
theorem argument_again {budget : Nat} {node : Option Node} (notClosing : t.value ≠ ")")
    (success : argument last (expression last budget) (t :: ts) = .ok (node, after)) :
    ∃ taken, ts = taken ++ after ∧ ∀ last' rest', SameNext after rest' →
      argument last' (expression last' budget) (t :: (taken ++ rest')) = .ok (node, rest') := by
  unfold argument at success
  dsimp only at success
  split at success
  · next bang =>
    cases ts with
    | nil => contradiction
    | cons s more =>
      dsimp only at success
      split_ifs at success with closing comma isName
      · contradiction
      · contradiction
      · contradiction
      · obtain ⟨⟨l, _⟩, found, same⟩ := map_eq_ok_iff.mp success
        cases same
        obtain ⟨s, taken, whole, again⟩ := literal_again found
        obtain ⟨rfl, rfl⟩ := List.cons.inj whole
        refine ⟨_ :: taken, rfl, fun last' rest' next => ?_⟩
        unfold argument
        dsimp only [List.cons_append]
        rw [if_pos bang, if_neg closing, if_neg comma, if_neg isName, again last' rest' next]
        rfl
  · next notBang =>
    split_ifs at success with comma isName
    · contradiction
    · obtain ⟨⟨e, _⟩, found, same⟩ := map_eq_ok_iff.mp success
      cases same
      obtain ⟨taken, rfl, again⟩ := expression_again isName found
      refine ⟨taken, rfl, fun last' rest' _ => ?_⟩
      unfold argument
      dsimp only
      rw [if_neg notBang, if_neg notClosing, if_neg comma, if_pos isName, again]
      rfl
    · obtain ⟨⟨l, _⟩, found, same⟩ := map_eq_ok_iff.mp success
      cases same
      obtain ⟨s, taken, whole, again⟩ := literal_again found
      obtain ⟨rfl, rfl⟩ := List.cons.inj whole
      refine ⟨taken, rfl, fun last' rest' next => ?_⟩
      unfold argument
      dsimp only
      rw [if_neg notBang, if_neg notClosing, if_neg comma, if_neg isName, again last' rest' next]
      rfl

end Schedule.Reading
