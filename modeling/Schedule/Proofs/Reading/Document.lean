import Schedule.Proofs.Reading.Literal

/-! # Documents are read as the grammar derives them

Reading accepts a token list exactly if it has a greedy derivation, nested no deeper than allowed,
and no overlong numeral, and gives what the derivation means. The statements on arguments come in
pairs as those on literals do; `of_argument` says all that reading one argument can amount to.
-/

namespace Schedule.Grammar

open Reading (Read argument skipComma endToken)

variable {last name t : Token} {ts rest after : List Token}
variable {nested : Token → List Token → Except Failure (Read Expression)}

/-! ### One argument -/

theorem skipComma_comma {comma : Option Token} (commas : ∀ mark ∈ comma, mark.value = ",")
    (ahead : Ahead (fun t => t.value ≠ ",") ts) : skipComma (comma.toList ++ ts) = ts := by
  cases comma with
  | some mark => simp [skipComma, commas mark rfl]
  | none =>
    cases ts with
    | nil => rfl
    | cons t ts => simp [skipComma, (ahead_cons ..).mp ahead]

theorem exists_comma (ts : List Token) :
    ∃ comma : Option Token, (∀ mark ∈ comma, mark.value = ",") ∧
      ts = comma.toList ++ skipComma ts := by
  cases ts with
  | nil => exact ⟨none, by simp, rfl⟩
  | cons t ts =>
    by_cases comma : t.value = ","
    · exact ⟨some t, by simp [comma], by simp [skipComma, comma]⟩
    · exact ⟨none, by simp, by simp [skipComma, comma]⟩

theorem argument_literal (last : Token)
    (nested : Token → List Token → Except Failure (Read Expression)) {bang : Option Token}
    {form : Form} (bangs : ∀ mark ∈ bang, mark.value = "!") (valid : form.Valid)
    (readable : Readable form.tokens) (greedy : form.Greedy after) (slashless : NoSlash after) :
    argument last nested (bang.toList ++ (form.tokens ++ after)) =
      .ok (some (.literal (form.literal bang)), after) := by
  have opens := Form.opens valid
  have notBang : form.first.value ≠ "!" := opens.value_ne (by decide)
  have notClosing : form.first.value ≠ ")" := opens.value_ne (by decide)
  have notComma : form.first.value ≠ "," := opens.value_ne (by decide)
  obtain ⟨more, same⟩ := form.tokens_eq
  cases bang with
  | none =>
    have found := Form.read last form.first false valid readable greedy slashless
    rw [same, List.cons_append] at found
    rw [Option.toList_none, List.nil_append, same, List.cons_append]
    unfold argument
    dsimp only
    rw [if_neg notBang, if_neg notClosing, if_neg notComma, opens.isName, found]
    rfl
  | some mark =>
    have found := Form.read last mark true valid readable greedy slashless
    rw [same, List.cons_append] at found
    rw [Option.toList_some, List.cons_append, List.nil_append, same, List.cons_append]
    unfold argument
    dsimp only
    rw [if_pos (bangs mark rfl), if_neg notClosing, if_neg notComma, opens.isName, found]
    rfl

theorem argument_nested (last : Token)
    (nested : Token → List Token → Except Failure (Read Expression))
    (isName : name.isName = true) (ts : List Token) :
    argument last nested (name :: ts) =
      (nested name ts).map fun (e, after) => (some e.toNode, after) := by
  unfold argument
  dsimp only
  rw [if_neg (value_ne_of_isName isName (by decide)),
    if_neg (value_ne_of_isName isName (by decide)),
    if_neg (value_ne_of_isName isName (by decide)), if_pos isName]

/-- What stands in the place of an argument is nothing before a closing parenthesis, a literal, or
an expression. -/
theorem of_argument {node : Option Node} (success : argument last nested ts = .ok (node, after)) :
    (∃ (closing : Token) (more : List Token),
      ts = closing :: more ∧ closing.value = ")" ∧ node = none ∧ after = ts) ∨
    (∃ (bang : Option Token) (form : Form),
      (∀ mark ∈ bang, mark.value = "!") ∧ form.Valid ∧ Readable form.tokens ∧
      form.Greedy after ∧ node = some (.literal (form.literal bang)) ∧
      ts = bang.toList ++ (form.tokens ++ after)) ∨
    ∃ (name : Token) (more : List Token) (e : Expression),
      name.isName = true ∧ ts = name :: more ∧ nested name more = .ok (e, after) ∧
      node = some e.toNode := by
  unfold argument at success
  split at success
  · exact absurd success blame_ne_ok
  · next first more =>
    split at success
    · next bang =>
      split at success
      · exact absurd success blame_ne_ok
      · next t more =>
        split_ifs at success
        · exact absurd success blame_ne_ok
        · exact absurd success blame_ne_ok
        · exact absurd success blame_ne_ok
        · obtain ⟨⟨l, _⟩, found, same⟩ := map_eq_ok_iff.mp success
          obtain ⟨form, valid, readable, greedy, rfl, whole⟩ := Form.of_read found
          cases same
          exact .inr (.inl ⟨some first, form, by simpa using bang, valid, readable, greedy, rfl,
            by simp [whole]⟩)
    · split_ifs at success with closing comma isName
      · cases success
        exact .inl ⟨first, more, rfl, closing, rfl, rfl⟩
      · exact absurd success blame_ne_ok
      · obtain ⟨⟨e, _⟩, found, same⟩ := map_eq_ok_iff.mp success
        cases same
        exact .inr (.inr ⟨first, more, e, isName, rfl, found, rfl⟩)
      · obtain ⟨⟨l, _⟩, found, same⟩ := map_eq_ok_iff.mp success
        obtain ⟨form, valid, readable, greedy, rfl, whole⟩ := Form.of_read found
        cases same
        obtain ⟨_, starts⟩ := form.tokens_eq
        rw [starts, List.cons_append] at whole
        obtain ⟨rfl, rfl⟩ := List.cons.inj whole
        exact .inr (.inl ⟨none, form, by simp, valid, readable, greedy, rfl, by simp [starts]⟩)

/-! ### Arguments and expressions -/

/-- Behind one argument and its comma the others are read. -/
theorem arguments_next {node : Option Node} (notClosing : t.value ≠ ")")
    (found : argument last nested (t :: ts) = .ok (node, after))
    (shorter : (skipComma after).length < (t :: ts).length) :
    Reading.arguments last name nested (t :: ts) =
      (Reading.arguments last name nested (skipComma after)).map fun (nodes, rest) =>
        (node.toList ++ nodes, rest) := by
  rw [Reading.arguments, if_neg notClosing, found]
  exact if_pos shorter

/-- Reading one argument and then the others. -/
theorem arguments_step {node : Option Node} {nodes : List Node} (notClosing : t.value ≠ ")")
    (found : argument last nested (t :: ts) = .ok (node, after))
    (shorter : (skipComma after).length < (t :: ts).length)
    (others : Reading.arguments last name nested (skipComma after) = .ok (nodes, rest)) :
    Reading.arguments last name nested (t :: ts) = .ok (node.toList ++ nodes, rest) := by
  rw [arguments_next notClosing found shorter, others]
  rfl

/-- Behind an opening parenthesis the arguments are read. -/
theorem expression_opening {budget : Nat} {opening : Token} (opens : opening.value = "(")
    (last name : Token) (ts : List Token) :
    Reading.expression last (budget + 1) name (opening :: ts) =
      (Reading.arguments last name (Reading.expression last budget) ts).map fun (nodes, rest) =>
        (⟨name.value, name, nodes⟩, rest) :=
  if_pos opens

theorem expression_succ {budget : Nat} {opening : Token} {nodes : List Node}
    (opens : opening.value = "(")
    (found : Reading.arguments last name (Reading.expression last budget) ts = .ok (nodes, rest)) :
    Reading.expression last (budget + 1) name (opening :: ts) =
      .ok (⟨name.value, name, nodes⟩, rest) := by
  rw [expression_opening opens, found]
  rfl

namespace Arguments

/-- The arguments of a derivation are read up to their closing parenthesis. The induction is on the
derivation; the budget falls where it goes into an expression. -/
theorem read (last name : Token) {a : Arguments} {closing : Token} {budget : Nat} (valid : a.Valid)
    (readable : Readable a.tokens) (greedy : a.Greedy [closing]) (closes : closing.value = ")")
    (deep : a.depth ≤ budget) (rest : List Token) :
    Reading.arguments last name (Reading.expression last budget) (a.tokens ++ closing :: rest) =
      .ok (a.tree, rest) := by
  induction a generalizing name closing budget rest with
  | nil =>
    rw [tokens, List.nil_append, Reading.arguments, if_pos closes]
    rfl
  | literal bang form comma others ih =>
    obtain ⟨bangs, formed, commas, valid⟩ := valid
    simp only [tokens, readable_append] at readable
    have taken : form.Greedy (comma.toList ++ (others.tokens ++ closing :: rest)) := by
      rw [← List.append_assoc, Form.greedy_closing, List.append_assoc]
      exact greedy.1
    have found := argument_literal last (Reading.expression last budget) bangs formed
      readable.2.1 taken (ahead_comma valid commas closes rest)
    have skipped := skipComma_comma commas fun t first => (ahead valid closes rest t first).2
    have more := ih name valid readable.2.2.2 greedy.2 closes deep rest
    obtain ⟨t, ts, starts, _, notClosing⟩ := literal_tokens bangs formed
      (comma.toList ++ (others.tokens ++ closing :: rest))
    have shorter : (skipComma (comma.toList ++ (others.tokens ++ closing :: rest))).length <
        (t :: ts).length := by
      obtain ⟨_, same⟩ := form.tokens_eq
      rw [skipped, ← starts, same]
      simp only [List.length_append, List.length_cons]
      omega
    simp only [tokens, List.append_assoc, starts] at found ⊢
    rw [← skipped] at more
    exact arguments_step notClosing found shorter more
  | nested word opening inner ending comma others ihInner ihOthers =>
    obtain ⟨named, opens, inners, ends, commas, valid⟩ := valid
    simp only [tokens, readable_cons, readable_append] at readable
    obtain ⟨budget, rfl⟩ : ∃ less, budget = less + 1 :=
      ⟨budget - 1, by simp only [depth] at deep; omega⟩
    simp only [depth] at deep
    have innerDeep : inner.depth ≤ budget := by omega
    have body := ihInner word inners readable.2.2.1 greedy.1 ends innerDeep
      (comma.toList ++ (others.tokens ++ closing :: rest))
    have found := argument_nested last (Reading.expression last (budget + 1)) named
      (opening :: (inner.tokens ++ ending ::
        (comma.toList ++ (others.tokens ++ closing :: rest))))
    rw [expression_succ opens body] at found
    have skipped := skipComma_comma commas fun t first => (ahead valid closes rest t first).2
    have othersDeep : others.depth ≤ budget + 1 := by omega
    have more := ihOthers name valid readable.2.2.2.2.2 greedy.2 closes othersDeep rest
    have shorter : (skipComma (comma.toList ++ (others.tokens ++ closing :: rest))).length <
        (word :: opening :: (inner.tokens ++ ending ::
          (comma.toList ++ (others.tokens ++ closing :: rest)))).length := by
      rw [skipped]
      simp only [List.length_append, List.length_cons]
      omega
    simp only [tokens, List.cons_append, List.append_assoc]
    rw [← skipped] at more
    exact arguments_step (value_ne_of_isName named (by decide)) found shorter more

end Arguments

/-- Whatever is read as an expression has a derivation of bounded depth. -/
def ReadsPhrases (nested : Token → List Token → Except Failure (Read Expression)) (budget : Nat) :
    Prop :=
  ∀ ⦃name ts e rest⦄, name.isName = true → nested name ts = .ok (e, rest) →
    ∃ p : Phrase, p.Valid ∧ Readable p.tokens ∧ p.Greedy ∧ p.depth ≤ budget ∧ p.tree = e ∧
      name :: ts = p.tokens ++ rest

/-- Whatever is read as arguments has a derivation, if what is read as an expression among them
has one. The induction is on the tokens, which get fewer with each argument. -/
theorem Arguments.of_read {budget : Nat} (phrases : ReadsPhrases nested budget)
    {nodes : List Node} (success : Reading.arguments last name nested ts = .ok (nodes, rest)) :
    ∃ (a : Arguments) (closing : Token), a.Valid ∧ Readable a.tokens ∧ a.Greedy [closing] ∧
      closing.value = ")" ∧ a.depth ≤ budget ∧ a.tree = nodes ∧
      ts = a.tokens ++ closing :: rest := by
  induction ts using Reading.arguments.induct last nested generalizing nodes with
  | case1 =>
    rw [Reading.arguments] at success
    exact absurd success blame_ne_ok
  | case2 t ts closes =>
    rw [Reading.arguments, if_pos closes] at success
    cases success
    exact ⟨.nil, t, trivial, by simp [tokens], trivial, closes, Nat.zero_le _, rfl, rfl⟩
  | case3 t ts notClosing failure found =>
    rw [Reading.arguments, if_neg notClosing, found] at success
    contradiction
  | case4 t ts notClosing node after found shorter ih =>
    rw [arguments_next notClosing found shorter] at success
    obtain ⟨⟨others, _⟩, read, same⟩ := map_eq_ok_iff.mp success
    cases same
    obtain ⟨a, closing, valid, readable, greedy, closes, deep, rfl, whole⟩ := ih read
    obtain ⟨comma, commas, skipped⟩ := exists_comma after
    have commaReadable : Readable comma.toList := readable_of_marks
      (fun mark member => commas mark (Option.mem_toList.mp member)) (by decide)
    rw [whole] at skipped
    rcases of_argument found with ⟨first, _, same, ends, _⟩ |
      ⟨bang, form, bangs, formed, readable', taken, rfl, split⟩ |
      ⟨word, more, e, named, split, inside, rfl⟩
    · exact absurd ends ((List.cons.inj same).1 ▸ notClosing)
    · have bangReadable : Readable bang.toList := readable_of_marks
        (fun mark member => bangs mark (Option.mem_toList.mp member)) (by decide)
      rw [skipped] at taken split
      rw [← List.append_assoc, Form.greedy_closing, List.append_assoc] at taken
      refine ⟨.literal bang form comma a, closing, ⟨bangs, formed, commas, valid⟩, ?_,
        ⟨taken, greedy⟩, closes, deep, rfl, ?_⟩
      · simp only [tokens, readable_append]
        exact ⟨bangReadable, readable', commaReadable, readable⟩
      · simpa only [tokens, List.append_assoc] using split
    · obtain ⟨rfl, rfl⟩ := List.cons.inj split
      obtain ⟨p, valid', readable', greedy', deep', rfl, same⟩ := phrases named inside
      obtain ⟨word, opening, inner, ending⟩ := p
      simp only [Phrase.tokens, List.cons_append, List.append_assoc, List.nil_append,
        List.cons.injEq] at same
      obtain ⟨rfl, rfl⟩ := same
      simp only [Phrase.tokens, readable_cons, readable_append] at readable'
      refine ⟨.nested t opening inner ending comma a, closing,
        ⟨named, valid'.opening, valid'.inner, valid'.closing, commas, valid⟩, ?_,
        ⟨greedy', greedy⟩, closes, Nat.max_le.mpr ⟨deep', deep⟩, rfl, ?_⟩
      · simp only [tokens, readable_cons, readable_append]
        exact ⟨readable'.1, readable'.2.1, readable'.2.2.1, readable'.2.2.2.1, commaReadable,
          readable⟩
      · simp only [tokens, List.cons_append, List.append_assoc, skipped]
  | case5 t ts notClosing node after found longer =>
    rw [Reading.arguments, if_neg notClosing, found] at success
    dsimp only at success
    rw [if_neg longer] at success
    exact absurd success blame_ne_ok

namespace Phrase

theorem read (last : Token) {p : Phrase} {budget : Nat} (valid : p.Valid)
    (readable : Readable p.tokens) (greedy : p.Greedy) (deep : p.depth ≤ budget)
    (rest : List Token) :
    Reading.expression last budget p.name (p.opening :: (p.inner.tokens ++ p.closing :: rest)) =
      .ok (p.tree, rest) := by
  obtain ⟨less, rfl⟩ : ∃ less, budget = less + 1 :=
    ⟨budget - 1, by simp only [depth] at deep; omega⟩
  simp only [tokens, readable_cons, readable_append] at readable
  have innerDeep : p.inner.depth ≤ less := by simp only [depth] at deep; omega
  have body := Arguments.read last p.name valid.inner readable.2.2.1 greedy valid.closing innerDeep
    rest
  exact expression_succ valid.opening body

/-- Whatever is read as an expression has a derivation. The induction is on the budget. -/
theorem of_read (budget : Nat) : ReadsPhrases (Reading.expression last budget) budget := by
  induction budget with
  | zero => exact fun _ _ _ _ _ success => absurd success blame_ne_ok
  | succ budget ih =>
    intro name ts e rest named success
    unfold Reading.expression at success
    split at success
    · exact absurd success blame_ne_ok
    · next opening body =>
      split at success
      · next opens =>
        obtain ⟨⟨nodes, _⟩, found, same⟩ := map_eq_ok_iff.mp success
        cases same
        obtain ⟨a, closing, valid, readable, greedy, closes, deep, rfl, rfl⟩ :=
          Arguments.of_read ih found
        have nameReadable : name.isNumber = true → name.value.length ≤ Numeral.longest := by
          intro number
          rw [Token.isName_of_isNumber number] at named
          contradiction
        have openingReadable : Readable [opening] :=
          readable_of_marks (by simpa using opens) (by decide)
        have closingReadable : Readable [closing] :=
          readable_of_marks (by simpa using closes) (by decide)
        refine ⟨⟨name, opening, a, closing⟩, ⟨named, opens, valid, closes⟩, ?_, greedy,
          Nat.succ_le_succ deep, rfl, by simp [tokens]⟩
        rw [readable_cons] at openingReadable
        simp only [tokens, readable_cons, readable_append]
        exact ⟨nameReadable, openingReadable.1, readable, by simpa using closingReadable⟩
      · exact absurd success blame_ne_ok

end Phrase

/-! ### Documents -/

/-- Behind one expression the others are read. -/
theorem expressions_next {budget : Nat} {begun : Bool} {e : Expression} (named : t.isName = true)
    (found : Reading.expression last budget t ts = .ok (e, after))
    (shorter : after.length < (t :: ts).length) :
    Reading.expressions last budget begun (t :: ts) =
      (Reading.expressions last budget true after).map (e :: ·) := by
  rw [Reading.expressions, if_pos named, found]
  exact if_pos shorter

/-- The commas and expressions of a derivation are read, the first of them being an expression
unless something has been read before. -/
theorem Item.read (last : Token) {budget : Nat} {items : List Item} {begun : Bool}
    (valid : ∀ item ∈ items, item.Valid) (readable : Readable (items.flatMap Item.tokens))
    (greedy : ∀ p ∈ items.filterMap Item.phrase?, p.Greedy)
    (deep : ∀ p ∈ items.filterMap Item.phrase?, p.depth ≤ budget)
    (starts : begun = false → ∀ mark, items.head? ≠ some (.comma mark)) :
    Reading.expressions last budget begun (items.flatMap Item.tokens) =
      .ok ((items.filterMap Item.phrase?).map Phrase.tree) := by
  induction items generalizing begun with
  | nil => simp [Reading.expressions]
  | cons item items ih =>
    rw [List.forall_mem_cons] at valid
    rw [List.flatMap_cons, readable_append] at readable
    rw [List.flatMap_cons]
    cases item with
    | comma mark =>
      have begun : begun = true := by
        cases begun with
        | true => rfl
        | false => exact absurd rfl (starts rfl mark)
      have comma : mark.value = "," := valid.1
      have notName : mark.isName = false :=
        (Token.kinds_of_isMark (isMark_of_value comma (by decide))).2.2
      subst begun
      rw [tokens, List.singleton_append, Reading.expressions, notName, comma]
      exact ih valid.2 readable.2 greedy deep (by simp)
    | phrase p =>
      simp only [List.filterMap_cons, phrase?, List.forall_mem_cons] at greedy deep
      have found := Phrase.read last valid.1 readable.1 greedy.1 deep.1
        (items.flatMap Item.tokens)
      have others : Reading.expressions last budget true (items.flatMap Item.tokens) = _ :=
        ih valid.2 readable.2 greedy.2 deep.2 (by simp)
      have named : p.name.isName = true := valid.1.name
      simp only [tokens, Phrase.tokens, List.cons_append, List.append_assoc, List.nil_append]
      rw [expressions_next named found (by simp only [List.length_cons, List.length_append]; omega),
        others]
      rfl

/-- Whatever is read as the expressions of a document has a derivation. -/
theorem Item.of_read {budget : Nat} {begun : Bool} {es : List Expression}
    (success : Reading.expressions last budget begun ts = .ok es) :
    ∃ items : List Item, (∀ item ∈ items, item.Valid) ∧ Readable ts ∧
      (∀ p ∈ items.filterMap Item.phrase?, p.Greedy) ∧
      (∀ p ∈ items.filterMap Item.phrase?, p.depth ≤ budget) ∧
      (items.filterMap Item.phrase?).map Phrase.tree = es ∧ ts = items.flatMap Item.tokens ∧
      (begun = false → ∀ mark, items.head? ≠ some (.comma mark)) := by
  induction begun, ts using Reading.expressions.induct last budget generalizing es with
  | case1 begun =>
    rw [Reading.expressions] at success
    cases success
    exact ⟨[], by simp⟩
  | case2 begun t ts named failure found =>
    rw [Reading.expressions, if_pos named, found] at success
    contradiction
  | case3 begun t ts named e after found shorter ih =>
    rw [expressions_next named found shorter] at success
    obtain ⟨others, read, rfl⟩ := map_eq_ok_iff.mp success
    obtain ⟨items, valid, readable, greedy, deep, rfl, rfl, _⟩ := ih read
    obtain ⟨p, valid', readable', greedy', deep', rfl, whole⟩ := Phrase.of_read budget named found
    refine ⟨.phrase p :: items, List.forall_mem_cons.mpr ⟨valid', valid⟩, ?_, ?_, ?_, rfl,
      by rw [whole]; rfl, by simp⟩
    · rw [whole, readable_append]
      exact ⟨readable', readable⟩
    · simpa [phrase?] using And.intro greedy' greedy
    · simpa [phrase?] using And.intro deep' deep
  | case4 begun t ts named e after found longer =>
    rw [Reading.expressions, if_pos named, found] at success
    dsimp only at success
    rw [if_neg longer] at success
    exact absurd success blame_ne_ok
  | case5 begun t ts notName comma ih =>
    rw [Reading.expressions, if_neg notName, if_pos comma] at success
    obtain ⟨items, valid, readable, greedy, deep, rfl, rfl, _⟩ := ih success
    simp only [Bool.and_eq_true, beq_iff_eq] at comma
    refine ⟨.comma t :: items, List.forall_mem_cons.mpr ⟨comma.2, valid⟩, ?_, greedy, deep, rfl,
      rfl, by simp [comma.1]⟩
    rw [← List.singleton_append, readable_append]
    exact ⟨readable_of_marks (by simpa using comma.2) (by decide), readable⟩
  | case6 begun t ts notName notComma =>
    rw [Reading.expressions, if_neg notName, if_neg notComma] at success
    exact absurd success blame_ne_ok

namespace Document

/-- A document is made of its commas and expressions, unless a comma comes first. -/
theorem exists_items {items : List Item} (starts : ∀ mark, items.head? ≠ some (.comma mark)) :
    ∃ d : Document, d.items = items := by
  rcases items with _ | ⟨mark | p, items⟩
  · exact ⟨.empty, rfl⟩
  · exact absurd rfl (starts mark)
  · exact ⟨.starting p items, rfl⟩

theorem head?_items (d : Document) (mark : Token) : d.items.head? ≠ some (.comma mark) := by
  cases d <;> simp [items]

/-- The nesting that reading allows for is the greatest depth, of which no expression has less than
one. -/
theorem within_iff (d : Document) (maxDepth : Int) :
    d.Within maxDepth ↔ ∀ p ∈ d.phrases, p.depth ≤ Reading.budget maxDepth 1 := by
  have each (p : Phrase) : (p.depth : Int) ≤ maxDepth ↔ p.depth ≤ Reading.budget maxDepth 1 := by
    have positive : 1 ≤ p.depth := Nat.succ_le_succ (Nat.zero_le _)
    unfold Reading.budget
    omega
  exact forall₂_congr fun p _ => each p

/-- A document is read exactly if it is derived, no deeper than allowed and without overlong
numerals. -/
theorem read_iff (maxDepth : Int) (ts : List Token) (es : List Expression) :
    Reading.document maxDepth ts = .ok es ↔
      Readable ts ∧ ∃ d : Document, d.Derives ts ∧ d.Within maxDepth ∧ d.tree = es := by
  constructor
  · intro success
    obtain ⟨items, valid, readable, greedy, deep, rfl, whole, starts⟩ := Item.of_read success
    obtain ⟨d, rfl⟩ := exists_items (starts rfl)
    exact ⟨readable, d, ⟨whole.symm, valid, greedy⟩, (within_iff d maxDepth).mpr deep, rfl⟩
  · rintro ⟨readable, d, ⟨rfl, valid, greedy⟩, within, rfl⟩
    exact Item.read _ valid readable greedy ((within_iff d maxDepth).mp within)
      fun _ => d.head?_items

end Document

/-- Reading gives a tree exactly if it is the tree of the only derivation of the tokens, nested no
deeper than allowed, and if no numeral is overlong. -/
theorem document_eq_ok_iff_derivation (maxDepth : Int) (ts : List Token) (es : List Expression) :
    Reading.document maxDepth ts = .ok es ↔
      Readable ts ∧ ∃ d : Document, d.Derives ts ∧ (∀ d' : Document, d'.Derives ts → d' = d) ∧
        d.Within maxDepth ∧ d.tree = es := by
  rw [Document.read_iff]
  constructor
  · rintro ⟨readable, d, derives, within, rfl⟩
    exact ⟨readable, d, derives, fun _ derives' => derives'.unique derives, within, rfl⟩
  · rintro ⟨readable, d, derives, _, within, rfl⟩
    exact ⟨readable, d, derives, within, rfl⟩

/-- A zero of any length is a number of the grammar, having no digit after its leading zeros. -/
theorem isDigits_replicate {n : Nat} (filled : n ≠ 0) (index : Int) :
    IsDigits ⟨index, String.ofList (List.replicate n '0')⟩ := by
  have digits : ∀ c ∈ List.replicate n '0', isDigit c = true := fun c member => by
    rw [List.eq_of_mem_replicate member]
    decide
  constructor
  · simp only [Token.isNumber, String.toList_ofList, Bool.and_eq_true, List.all_eq_true]
    exact ⟨by simpa using filled, digits⟩
  · rw [String.toList_ofList, List.dropWhile_replicate]
    exact Nat.zero_le _

theorem isDigits_zeros (index : Int) :
    IsDigits ⟨index, String.ofList (List.replicate 4301 '0')⟩ :=
  isDigits_replicate (by decide) index

/-- The hour of that zero has a derivation but is not read. -/
theorem overlong_zero_not_read :
    let zeros := String.ofList (List.replicate 4301 '0')
    let ts : List Token := [⟨0, "h"⟩, ⟨1, "("⟩, ⟨2, zeros⟩, ⟨4303, ")"⟩]
    (∃ d : Document, d.Derives ts ∧ d.Within 16) ∧ ∀ es, Reading.document 16 ts ≠ .ok es := by
  intro zeros ts
  constructor
  · let form : Form := .ends (.number (.plain ⟨2, zeros⟩)) none none
    let p : Phrase := ⟨⟨0, "h"⟩, ⟨1, "("⟩, .literal none form none .nil, ⟨4303, ")"⟩⟩
    have formed : form.Valid := ⟨isDigits_zeros 2, by simp, by simp⟩
    have valid : p.Valid :=
      ⟨by decide, rfl, ⟨by simp, formed, by simp, trivial⟩, rfl⟩
    have greedy : p.Greedy := ⟨(ahead_cons ..).mpr ⟨by decide, by decide⟩, trivial⟩
    refine ⟨.starting p [], ⟨rfl, ?_, ?_⟩, ?_⟩
    · rintro _ (_ | ⟨_, ⟨⟩⟩)
      exact valid
    · simpa [Document.phrases, Document.items, Item.phrase?] using greedy
    · simp [Document.Within, Document.phrases, Document.items, Item.phrase?, Phrase.depth,
        Arguments.depth, p]
  · intro es success
    have readable := ((Document.read_iff ..).mp success).1
    have short := readable ⟨2, zeros⟩ (by simp [ts]) (isDigits_zeros 2).1
    rw [← String.length_toList, String.toList_ofList, List.length_replicate] at short
    exact absurd short (by decide)

end Schedule.Grammar
