import Schedule.Proofs.Grammar.Start

/-! # Greedy derivations are unique

Two valid derivations that begin the same token list are equal, part by part from the front: an
end is decided by its first token and by whether a slash follows, a literal by the marks after its
ends, where the greedy condition rules out the shorter of two readings.
-/

namespace Schedule.Grammar

variable {r r' : List Token}

/-- Whether some tokens begin with a slash. -/
abbrev NoSlash (after : List Token) : Prop := Ahead (fun t => t.value ≠ "/") after

theorem Signed.unique {s s' : Signed} (valid : s.Valid) (valid' : s'.Valid)
    (same : s.tokens ++ r = s'.tokens ++ r') : s = s' ∧ r = r' := by
  have clash {digits sign : Token} (digit : IsDigits digits) (dash : sign.value = "-") :
      digits ≠ sign := by
    rintro rfl
    have mark := isMark_of_value dash (by decide)
    rw [Token.isMark_of_isNumber digit.1] at mark
    contradiction
  cases s <;> cases s' <;>
    simp only [tokens, List.cons_append, List.nil_append, List.cons.injEq] at same
  · exact ⟨by rw [same.1], same.2⟩
  · exact absurd same.1 (clash valid valid'.1)
  · exact absurd same.1.symm (clash valid' valid.1)
  · exact ⟨by rw [same.1, same.2.1], same.2.2⟩

namespace End

/-- A weekday is no number. -/
theorem weekday_ne {word : Token} {day : Weekday} (spelt : word.weekday? = some day) {s : Signed}
    (valid : s.Valid) : word :: r ≠ s.tokens ++ r' := by
  obtain ⟨more, same⟩ := s.tokens_eq
  rw [same, List.cons_append]
  intro equal
  rw [(List.cons.inj equal).1] at spelt
  rcases Signed.opens valid with sign | number
  · rw [(Token.kinds_of_isMark (isMark_of_value sign (by decide))).2.1] at spelt
    contradiction
  · rw [Token.weekday?_of_isNumber number] at spelt
    contradiction

/-- A number that no slash follows is no date. -/
theorem number_ne {s month : Signed} {slash : Token} {day : List Token} (valid : s.Valid)
    (valid' : month.Valid) (slashed : slash.value = "/") (after : NoSlash r) :
    s.tokens ++ r ≠ month.tokens ++ slash :: day := by
  intro same
  obtain ⟨_, rfl⟩ := Signed.unique valid valid' same
  exact (ahead_cons ..).mp after slashed

theorem unique {e e' : End} (valid : e.Valid) (valid' : e'.Valid) (after : NoSlash r)
    (after' : NoSlash r') (same : e.tokens ++ r = e'.tokens ++ r') : e = e' ∧ r = r' := by
  cases e with
  | weekday word day =>
    cases e' with
    | weekday word' day' =>
      obtain ⟨rfl, rfl⟩ := List.cons.inj same
      have days : some day = some day' := valid.symm.trans valid'
      exact ⟨by rw [Option.some.inj days], rfl⟩
    | number value => exact absurd same (weekday_ne valid valid')
    | date month slash day' =>
      rw [tokens, tokens, List.append_assoc] at same
      exact absurd same (weekday_ne valid valid'.1)
  | number value =>
    cases e' with
    | weekday word day => exact absurd same.symm (weekday_ne valid' valid)
    | number value' =>
      obtain ⟨rfl, rfl⟩ := Signed.unique valid valid' same
      exact ⟨rfl, rfl⟩
    | date month slash day =>
      rw [tokens, tokens, List.append_assoc] at same
      exact absurd same (number_ne valid valid'.1 valid'.2.1 after)
  | date month slash day =>
    rw [tokens, List.append_assoc] at same
    cases e' with
    | weekday word day' => exact absurd same.symm (weekday_ne valid' valid.1)
    | number value => exact absurd same.symm (number_ne valid' valid.1 valid.2.1 after')
    | date month' slash' day' =>
      rw [tokens, List.append_assoc] at same
      obtain ⟨rfl, more⟩ := Signed.unique valid.1 valid'.1 same
      simp only [List.cons_append, List.cons.injEq] at more
      obtain ⟨rfl, more⟩ := more
      obtain ⟨rfl, rfl⟩ := Signed.unique valid.2.2.1 valid'.2.2.1 more
      exact ⟨rfl, rfl⟩

end End

namespace Form

/-- What the modulus of some ends must be. -/
abbrev Modulus (modulus : Option (Token × Signed)) : Prop :=
  ∀ part ∈ modulus, part.1.value = "%" ∧ part.2.Valid

theorem noSlash_modulus {modulus : Option (Token × Signed)} (valid : Modulus modulus)
    (after : NoSlash r) : NoSlash (marked Signed.tokens modulus ++ r) := by
  cases modulus with
  | none => exact after
  | some part => simp [marked, (valid part rfl).1]

/-- A modulus is taken if there is one. -/
theorem modulus_unique {modulus modulus' : Option (Token × Signed)} (valid : Modulus modulus)
    (valid' : Modulus modulus') (greedy : modulus = none → Ahead (fun t => t.value ≠ "%") r)
    (greedy' : modulus' = none → Ahead (fun t => t.value ≠ "%") r')
    (same : marked Signed.tokens modulus ++ r = marked Signed.tokens modulus' ++ r') :
    modulus = modulus' ∧ r = r' := by
  cases modulus with
  | none =>
    cases modulus' with
    | none => exact ⟨rfl, same⟩
    | some part' =>
      obtain rfl : r = _ := same
      exact absurd (valid' part' rfl).1 ((ahead_cons ..).mp (greedy rfl))
  | some part =>
    cases modulus' with
    | none =>
      obtain rfl : _ = r' := same
      exact absurd (valid part rfl).1 ((ahead_cons ..).mp (greedy' rfl))
    | some part' =>
      simp only [marked, List.cons_append, List.cons.injEq] at same
      obtain ⟨values, rfl⟩ := Signed.unique (valid part rfl).2 (valid' part' rfl).2 same.2
      exact ⟨congrArg some (Prod.ext same.1 values), rfl⟩

theorem not_percent_of_greedy {low : End} {high : Option (Token × End)}
    (greedy : (ends low high none).Greedy r) : Ahead (fun t => t.value ≠ "%") r := by
  cases high with
  | none => exact fun t first => (greedy t first).2
  | some part => exact greedy

/-- A second end is taken if there is one. -/
theorem lone_ne {low high : End} {dash : Token} {modulus modulus' : Option (Token × Signed)}
    (dashed : dash.value = "-") (valid : Modulus modulus)
    (greedy : (ends low none modulus).Greedy r) :
    marked Signed.tokens modulus ++ r ≠
      dash :: (high.tokens ++ (marked Signed.tokens modulus' ++ r')) := by
  intro same
  cases modulus with
  | none =>
    obtain rfl : r = _ := same
    exact ((ahead_cons ..).mp greedy).1 dashed
  | some part =>
    have percent := (valid part rfl).1
    rw [(List.cons.inj same).1, dashed] at percent
    revert percent
    decide

theorem ends_unique {low low' : End} {high high' : Option (Token × End)}
    {modulus modulus' : Option (Token × Signed)} (valid : (ends low high modulus).Valid)
    (valid' : (ends low' high' modulus').Valid) (greedy : (ends low high modulus).Greedy r)
    (greedy' : (ends low' high' modulus').Greedy r') (after : NoSlash r) (after' : NoSlash r')
    (same : (ends low high modulus).tokens ++ r = (ends low' high' modulus').tokens ++ r') :
    ends low high modulus = ends low' high' modulus' ∧ r = r' := by
  have beyond {high : Option (Token × End)} {modulus : Option (Token × Signed)} {r : List Token}
      (dashed : ∀ part ∈ high, part.1.value = "-") (valid : Modulus modulus)
      (after : NoSlash r) :
      NoSlash (marked End.tokens high ++ (marked Signed.tokens modulus ++ r)) := by
    cases high with
    | none => exact noSlash_modulus valid after
    | some part => simp [marked, dashed part rfl]
  simp only [tokens, List.append_assoc] at same
  obtain ⟨rfl, more⟩ := End.unique valid.1 valid'.1
    (beyond (fun part member => (valid.2.1 part member).1) valid.2.2 after)
    (beyond (fun part member => (valid'.2.1 part member).1) valid'.2.2 after') same
  have bare : modulus = none → Ahead (fun t => t.value ≠ "%") r := by
    rintro rfl
    exact not_percent_of_greedy greedy
  have bare' : modulus' = none → Ahead (fun t => t.value ≠ "%") r' := by
    rintro rfl
    exact not_percent_of_greedy greedy'
  cases high with
  | none =>
    cases high' with
    | none =>
      obtain ⟨rfl, rfl⟩ := modulus_unique valid.2.2 valid'.2.2 bare bare' more
      exact ⟨rfl, rfl⟩
    | some part' => exact absurd more (lone_ne (valid'.2.1 part' rfl).1 valid.2.2 greedy)
  | some part =>
    cases high' with
    | none => exact absurd more.symm (lone_ne (valid.2.1 part rfl).1 valid'.2.2 greedy')
    | some part' =>
      simp only [marked, List.cons_append, List.cons.injEq] at more
      obtain ⟨highs, rest⟩ := End.unique (valid.2.1 part rfl).2.1 (valid'.2.1 part' rfl).2.1
        (noSlash_modulus valid.2.2 after) (noSlash_modulus valid'.2.2 after') more.2
      obtain ⟨rfl, rfl⟩ := modulus_unique valid.2.2 valid'.2.2 bare bare' rest
      exact ⟨by rw [Prod.ext more.1 highs], rfl⟩

/-- A modulus of a wildcard is taken if there is one. -/
theorem bare_wildcard_ne {percent percent' : Token} {part : Option Token × Signed}
    (valid : (wildcard percent' (some part)).Valid) (greedy : (wildcard percent none).Greedy r) :
    r ≠ modulusTokens (some part) ++ r' := by
  rintro rfl
  obtain ⟨marks, value⟩ := valid.2 part rfl
  rcases part with ⟨_ | mark, modulus⟩
  · obtain ⟨more, same⟩ := modulus.tokens_eq
    simp only [modulusTokens, Option.toList_none, List.nil_append, same, List.cons_append, Greedy,
      ahead_cons] at greedy
    rcases Signed.opens value with sign | number
    · exact greedy.2.1 sign
    · rw [greedy.1] at number
      contradiction
  · exact ((ahead_cons ..).mp greedy).2.2 (marks mark rfl)

/-- A number is no `%`, so one does not pass for the other after a wildcard. -/
theorem percent_ne {mark : Token} {s : Signed} {ts : List Token} (marked : mark.value = "%")
    (valid : s.Valid) : s.tokens ++ r ≠ mark :: ts := by
  obtain ⟨more, same⟩ := s.tokens_eq
  rw [same, List.cons_append]
  intro equal
  have opens : OpensEnd s.first := (Signed.opens valid).imp_right .inl
  exact opens.value_ne (by decide) ((congrArg Token.value (List.cons.inj equal).1).trans marked)

theorem wildcard_unique {percent percent' : Token}
    {modulus modulus' : Option (Option Token × Signed)}
    (valid : (wildcard percent modulus).Valid) (valid' : (wildcard percent' modulus').Valid)
    (greedy : (wildcard percent modulus).Greedy r)
    (greedy' : (wildcard percent' modulus').Greedy r')
    (same : (wildcard percent modulus).tokens ++ r = (wildcard percent' modulus').tokens ++ r') :
    wildcard percent modulus = wildcard percent' modulus' ∧ r = r' := by
  simp only [tokens, List.cons_append, List.cons.injEq] at same
  obtain ⟨rfl, same⟩ := same
  rcases modulus with _ | ⟨mark, number⟩
  · cases modulus' with
    | none => exact ⟨rfl, same⟩
    | some part' => exact absurd same (bare_wildcard_ne valid' greedy)
  · rcases modulus' with _ | ⟨mark', number'⟩
    · exact absurd same.symm (bare_wildcard_ne valid greedy')
    · obtain ⟨marks, number⟩ := valid.2 _ rfl
      obtain ⟨marks', number'⟩ := valid'.2 _ rfl
      cases mark <;> cases mark' <;>
        simp only [modulusTokens, Option.toList_none, Option.toList_some, List.nil_append,
          List.cons_append, List.cons.injEq] at same
      · obtain ⟨rfl, rfl⟩ := Signed.unique number number' same
        exact ⟨rfl, rfl⟩
      · exact absurd same (percent_ne (marks' _ rfl) number)
      · exact absurd same.symm (percent_ne (marks _ rfl) number')
      · obtain ⟨rfl, same⟩ := same
        obtain ⟨rfl, rfl⟩ := Signed.unique number number' same
        exact ⟨rfl, rfl⟩

/-- No end is a wildcard. -/
theorem wildcard_ne {percent : Token} {low : End} {ts : List Token} (marked : percent.value = "%")
    (valid : low.Valid) : percent :: ts ≠ low.tokens ++ r := by
  obtain ⟨more, same⟩ := low.tokens_eq
  rw [same, List.cons_append]
  intro equal
  exact (End.opens valid).value_ne (by decide)
    ((congrArg Token.value (List.cons.inj equal).1).symm.trans marked)

theorem unique {f f' : Form} (valid : f.Valid) (valid' : f'.Valid) (greedy : f.Greedy r)
    (greedy' : f'.Greedy r') (after : NoSlash r) (after' : NoSlash r')
    (same : f.tokens ++ r = f'.tokens ++ r') : f = f' ∧ r = r' := by
  cases f with
  | wildcard percent modulus =>
    cases f' with
    | wildcard percent' modulus' => exact wildcard_unique valid valid' greedy greedy' same
    | ends low high modulus' =>
      simp only [tokens, List.cons_append, List.append_assoc] at same
      exact absurd same (wildcard_ne valid.1 valid'.1)
  | ends low high modulus =>
    cases f' with
    | wildcard percent modulus' =>
      simp only [tokens, List.cons_append, List.append_assoc] at same
      exact absurd same.symm (wildcard_ne valid'.1 valid.1)
    | ends low' high' modulus' => exact ends_unique valid valid' greedy greedy' after after' same

end Form

/-- A comma is taken if there is one. -/
theorem comma_unique {comma comma' : Option Token} (commas : ∀ mark ∈ comma, mark.value = ",")
    (commas' : ∀ mark ∈ comma', mark.value = ",") (after : Ahead (fun t => t.value ≠ ",") r)
    (after' : Ahead (fun t => t.value ≠ ",") r')
    (same : comma.toList ++ r = comma'.toList ++ r') : comma = comma' ∧ r = r' := by
  cases comma with
  | none =>
    cases comma' with
    | none => exact ⟨rfl, same⟩
    | some mark' =>
      obtain rfl : r = _ := same
      exact absurd (commas' mark' rfl) ((ahead_cons ..).mp after)
  | some mark =>
    cases comma' with
    | none =>
      obtain rfl : _ = r' := same
      exact absurd (commas mark rfl) ((ahead_cons ..).mp after')
    | some mark' =>
      obtain ⟨rfl, rfl⟩ := List.cons.inj same
      exact ⟨rfl, rfl⟩

namespace Arguments

/-- The token with which an argument begins: a name, a `!`, or what a literal can begin with. -/
theorem literal_tokens {bang : Option Token} {form : Form} (bangs : ∀ mark ∈ bang, mark.value = "!")
    (valid : form.Valid) (ts : List Token) :
    ∃ t more, bang.toList ++ (form.tokens ++ ts) = t :: more ∧ t.isName = false ∧
      t.value ≠ ")" := by
  cases bang with
  | some mark =>
    have exclude := bangs mark rfl
    refine ⟨mark, form.tokens ++ ts, rfl,
      (Token.kinds_of_isMark (isMark_of_value exclude (by decide))).2.2, ?_⟩
    rw [exclude]
    decide
  | none =>
    obtain ⟨more, same⟩ := form.tokens_eq
    have opens := Form.opens valid
    exact ⟨form.first, more ++ ts, by simp [same], opens.isName, opens.value_ne (by decide)⟩

/-- Exclusion is taken if there is one. -/
theorem bang_unique {bang bang' : Option Token} {form form' : Form}
    (bangs : ∀ mark ∈ bang, mark.value = "!") (bangs' : ∀ mark ∈ bang', mark.value = "!")
    (valid : form.Valid) (valid' : form'.Valid)
    (same : bang.toList ++ (form.tokens ++ r) = bang'.toList ++ (form'.tokens ++ r')) :
    bang = bang' ∧ form.tokens ++ r = form'.tokens ++ r' := by
  have clash {mark : Token} {f : Form} {ts ts' : List Token} (valid : f.Valid)
      (exclude : mark.value = "!") : f.tokens ++ ts ≠ mark :: ts' := by
    obtain ⟨more, same⟩ := f.tokens_eq
    rw [same, List.cons_append]
    intro equal
    exact (Form.opens valid).value_ne (by decide)
      ((congrArg Token.value (List.cons.inj equal).1).trans exclude)
  cases bang with
  | none =>
    cases bang' with
    | none => exact ⟨rfl, same⟩
    | some mark' => exact absurd same (clash valid (bangs' mark' rfl))
  | some mark =>
    cases bang' with
    | none => exact absurd same.symm (clash valid' (bangs mark rfl))
    | some mark' =>
      obtain ⟨rfl, more⟩ := List.cons.inj same
      exact ⟨rfl, more⟩

/-- The arguments before a closing parenthesis are unique, and so is that parenthesis. -/
theorem unique {a a' : Arguments} {closing closing' : Token} (valid : a.Valid) (valid' : a'.Valid)
    (greedy : a.Greedy [closing]) (greedy' : a'.Greedy [closing']) (closes : closing.value = ")")
    (closes' : closing'.value = ")")
    (same : a.tokens ++ closing :: r = a'.tokens ++ closing' :: r') :
    a = a' ∧ closing = closing' ∧ r = r' := by
  induction a generalizing a' closing closing' r r' with
  | nil =>
    cases a' with
    | nil => exact ⟨rfl, (List.cons.inj same).1, (List.cons.inj same).2⟩
    | literal bang form comma rest =>
      obtain ⟨t, more, starts, _, notClosing⟩ :=
        literal_tokens valid'.1 valid'.2.1 (comma.toList ++ rest.tokens ++ closing' :: r')
      simp only [tokens, List.nil_append, List.append_assoc] at same starts
      rw [starts] at same
      exact absurd closes ((List.cons.inj same).1 ▸ notClosing)
    | nested name opening inner ending comma rest =>
      have first := (List.cons.inj same).1
      exact absurd closes (first ▸ value_ne_of_isName valid'.1 (by decide))
  | literal bang form comma rest ih =>
    obtain ⟨bangs, formed, commas, rested⟩ := valid
    obtain ⟨t, more, starts, notName, notClosing⟩ :=
      literal_tokens bangs formed (comma.toList ++ (rest.tokens ++ closing :: r))
    cases a' with
    | nil =>
      simp only [tokens, List.nil_append, List.append_assoc, starts] at same
      exact absurd closes' ((List.cons.inj same).1 ▸ notClosing)
    | literal bang' form' comma' rest' =>
      obtain ⟨bangs', formed', commas', rested'⟩ := valid'
      simp only [tokens, List.append_assoc] at same
      obtain ⟨rfl, more⟩ := bang_unique bangs bangs' formed formed' same
      have taken : form.Greedy (comma.toList ++ (rest.tokens ++ closing :: r)) := by
        rw [← List.append_assoc, Form.greedy_closing, List.append_assoc]
        exact greedy.1
      have taken' : form'.Greedy (comma'.toList ++ (rest'.tokens ++ closing' :: r')) := by
        rw [← List.append_assoc, Form.greedy_closing, List.append_assoc]
        exact greedy'.1
      obtain ⟨rfl, beyond⟩ := Form.unique formed formed' taken taken'
        (ahead_comma rested commas closes r) (ahead_comma rested' commas' closes' r') more
      obtain ⟨rfl, others⟩ := comma_unique commas commas'
        (fun t first => (ahead rested closes r t first).2)
        (fun t first => (ahead rested' closes' r' t first).2) beyond
      obtain ⟨rfl, ends⟩ := ih rested rested' greedy.2 greedy'.2 closes closes' others
      exact ⟨rfl, ends⟩
    | nested name opening inner ending comma' rest' =>
      simp only [tokens, List.append_assoc, starts] at same
      exact absurd valid'.1 (by rw [← (List.cons.inj same).1, notName]; decide)
  | nested name opening inner ending comma rest ihInner ihRest =>
    obtain ⟨named, _, inners, ends, commas, rested⟩ := valid
    cases a' with
    | nil =>
      have first := (List.cons.inj same).1
      exact absurd closes' (first ▸ value_ne_of_isName named (by decide))
    | literal bang form comma' rest' =>
      obtain ⟨t, more, starts, notName, _⟩ :=
        literal_tokens valid'.1 valid'.2.1 (comma'.toList ++ (rest'.tokens ++ closing' :: r'))
      simp only [tokens, List.append_assoc, starts] at same
      exact absurd named (by rw [(List.cons.inj same).1, notName]; decide)
    | nested name' opening' inner' ending' comma' rest' =>
      obtain ⟨_, _, inners', ends', commas', rested'⟩ := valid'
      simp only [tokens, List.cons_append, List.append_assoc, List.cons.injEq] at same
      obtain ⟨rfl, rfl, more⟩ := same
      obtain ⟨rfl, rfl, beyond⟩ := ihInner inners inners' greedy.1 greedy'.1 ends ends' more
      obtain ⟨rfl, others⟩ := comma_unique commas commas'
        (fun t first => (ahead rested closes r t first).2)
        (fun t first => (ahead rested' closes' r' t first).2) beyond
      obtain ⟨rfl, ends⟩ := ihRest rested rested' greedy.2 greedy'.2 closes closes' others
      exact ⟨rfl, ends⟩

end Arguments

theorem Phrase.unique {p p' : Phrase} (valid : p.Valid) (valid' : p'.Valid) (greedy : p.Greedy)
    (greedy' : p'.Greedy) (same : p.tokens ++ r = p'.tokens ++ r') : p = p' ∧ r = r' := by
  obtain ⟨name, opening, inner, closing⟩ := p
  obtain ⟨name', opening', inner', closing'⟩ := p'
  simp only [tokens, List.cons_append, List.append_assoc, List.nil_append, List.cons.injEq] at same
  obtain ⟨rfl, rfl, more⟩ := same
  obtain ⟨rfl, rfl, rfl⟩ := Arguments.unique valid.inner valid'.inner greedy greedy' valid.closing
    valid'.closing more
  exact ⟨rfl, rfl⟩

/-- The commas and expressions of a document are unique. -/
theorem Item.unique {items items' : List Item} (valid : ∀ item ∈ items, item.Valid)
    (valid' : ∀ item ∈ items', item.Valid)
    (greedy : ∀ p ∈ items.filterMap Item.phrase?, p.Greedy)
    (greedy' : ∀ p ∈ items'.filterMap Item.phrase?, p.Greedy)
    (same : items.flatMap Item.tokens = items'.flatMap Item.tokens) : items = items' := by
  have clash {mark : Token} {p : Phrase} {ts ts' : List Token} (comma : mark.value = ",")
      (valid : p.Valid) : mark :: ts ≠ p.tokens ++ ts' := by
    intro equal
    exact value_ne_of_isName valid.name (by decide)
      ((congrArg Token.value (List.cons.inj equal).1).symm.trans comma)
  induction items generalizing items' with
  | nil =>
    cases items' with
    | nil => rfl
    | cons item' rest' => cases item' <;> simp [tokens, Phrase.tokens] at same
  | cons item rest ih =>
    cases items' with
    | nil => cases item <;> simp [tokens, Phrase.tokens] at same
    | cons item' rest' =>
      rw [List.forall_mem_cons] at valid valid'
      rw [List.flatMap_cons, List.flatMap_cons] at same
      cases item with
      | comma mark =>
        cases item' with
        | comma mark' =>
          obtain ⟨rfl, more⟩ := List.cons.inj same
          rw [ih valid.2 valid'.2 greedy greedy' more]
        | phrase p' => exact absurd same (clash valid.1 valid'.1)
      | phrase p =>
        cases item' with
        | comma mark' => exact absurd same.symm (clash valid'.1 valid.1)
        | phrase p' =>
          simp only [List.filterMap_cons, phrase?, List.forall_mem_cons] at greedy greedy'
          obtain ⟨rfl, more⟩ := Phrase.unique valid.1 valid'.1 greedy.1 greedy'.1 same
          rw [ih valid.2 valid'.2 greedy.2 greedy'.2 more]

/-- No token list has two derivations. -/
theorem Document.Derives.unique {d d' : Document} {ts : List Token} (derives : d.Derives ts)
    (derives' : d'.Derives ts) : d = d' := by
  have same := Item.unique derives.valid derives'.valid derives.greedy derives'.greedy
    (derives.tokens.trans derives'.tokens.symm)
  cases d <;> cases d' <;> simp_all [items]

end Schedule.Grammar
