import Schedule.Proofs.Compilation
import Schedule.Proofs.Reading.Document
import Schedule.Proofs.RuleGroup.Document
import Schedule.Proofs.TokenSeam

/-! # Schedules one after the other

If two texts compile, so does the one followed by the other. A document ends with a parenthesis or a
comma, so no token reaches from one text into the next and nothing that was begun is left open. The
groups stay as they are, those of the first text before those of the second; only the expressions
that stand in no group come together in one, which both texts add to.
-/

namespace Schedule

namespace Grammar

/-- An expression ends with a parenthesis, and a comma is a mark too. -/
theorem Item.exists_last {item : Item} (valid : item.Valid) :
    ∃ ts mark, item.tokens = ts ++ [mark] ∧ mark.isMark = true := by
  cases item with
  | comma mark => exact ⟨[], mark, rfl, isMark_of_value valid (by decide)⟩
  | phrase p =>
    exact ⟨p.name :: p.opening :: p.inner.tokens, p.closing, rfl,
      isMark_of_value valid.closing (by decide)⟩

/-- The last token of a document is a mark. -/
theorem Document.Derives.exists_last {d : Document} {ts : List Token} (derives : d.Derives ts)
    (filled : ts ≠ []) : ∃ us mark, ts = us ++ [mark] ∧ mark.isMark = true := by
  obtain ⟨rfl, valid, _⟩ := derives
  rcases List.eq_nil_or_concat d.items with none | ⟨items, item, same⟩
  · rw [Document.tokens, none] at filled
    contradiction
  · rw [List.concat_eq_append] at same
    have listed : item ∈ d.items := by simp [same]
    obtain ⟨us, mark, last, isMark⟩ := Item.exists_last (valid item listed)
    refine ⟨items.flatMap Item.tokens ++ us, mark, ?_, isMark⟩
    rw [Document.tokens, same, List.flatMap_append, List.flatMap_singleton, last, List.append_assoc]

/-- Documents one after the other are one document. -/
theorem document_append {maxDepth : Int} {ts us : List Token} {es es' : List Expression}
    (success : Reading.document maxDepth ts = .ok es)
    (success' : Reading.document maxDepth us = .ok es') :
    Reading.document maxDepth (ts ++ us) = .ok (es ++ es') := by
  obtain ⟨readable, d, ⟨rfl, valid, greedy⟩, within, rfl⟩ := (Document.read_iff ..).mp success
  obtain ⟨readable', d', ⟨rfl, valid', greedy'⟩, within', rfl⟩ := (Document.read_iff ..).mp success'
  have starts (mark : Token) : (d.items ++ d'.items).head? ≠ some (.comma mark) := by
    cases d with
    | empty => exact d'.head?_items mark
    | starting p items => simp [Document.items]
  obtain ⟨whole, same⟩ := Document.exists_items starts
  have phrases : whole.phrases = d.phrases ++ d'.phrases := by
    rw [Document.phrases, same, List.filterMap_append, Document.phrases, Document.phrases]
  refine (Document.read_iff ..).mpr
    ⟨(readable_append ..).mpr ⟨readable, readable'⟩, whole, ⟨?_, ?_, ?_⟩, ?_, ?_⟩
  · rw [Document.tokens, same, List.flatMap_append, Document.tokens, Document.tokens]
  · rw [same, List.forall_mem_append]
    exact ⟨valid, valid'⟩
  · rw [phrases, List.forall_mem_append]
    exact ⟨greedy, greedy'⟩
  · rw [Document.Within, phrases, List.forall_mem_append]
    exact ⟨within, within'⟩
  · rw [Document.tree, phrases, List.map_append, Document.tree, Document.tree]

end Grammar

/-- Tokens that stand further on in a text. -/
def Relabelling.shift (offset : Nat) : Relabelling :=
  ⟨Token.shift offset, fun _ => Token.alike_of_eq rfl⟩

variable {config : Config} {a b : String} {groups groups' : List RuleGroup}

/-- A text that compiles ends with a blank, a parenthesis or a comma. -/
theorem ends_of_compile (success : compile config a = .ok groups) :
    ∃ before c, a.toList = before ++ [c] ∧ Separates c := by
  obtain ⟨document, read, compiled⟩ := compile_eq_ok_iff.mp success
  obtain ⟨_, d, derives, _, rfl⟩ := (Grammar.Document.read_iff ..).mp read
  have filled : tokenize a ≠ [] := by
    intro none
    rw [none, Reading.document, Reading.expressions] at read
    rw [← Except.ok.inj read] at compiled
    contradiction
  obtain ⟨ts, mark, same, isMark⟩ := derives.exists_last filled
  exact ends_of_last_mark same isMark

/-- After a text that compiles, the expressions of another follow those of the first. -/
theorem document_append_text {document document' : List Expression}
    (success : compile config a = .ok groups)
    (read : Reading.document config.maxDepth (tokenize a) = .ok document)
    (read' : Reading.document config.maxDepth (tokenize b) = .ok document') :
    Reading.document config.maxDepth (tokenize (a ++ b)) =
      .ok (document ++ document'.map (Expression.relabel (.shift a.length))) := by
  rw [tokenize_append (ends_of_compile success)]
  apply Grammar.document_append read
  have moved := Reading.document_relabel (.shift a.length) config.maxDepth (tokenize b)
  rw [read'] at moved
  exact moved

/-- If two texts compile, the second can follow the first: the groups of the first are followed by
those of the second, and after them comes the one that all other expressions make together, if there
are any. If there are none, the groups of the texts simply follow each other. -/
theorem compile_append (success : compile config a = .ok groups)
    (success' : compile config b = .ok groups') :
    ∃ document document' explicit explicit' implicit,
      Reading.document config.maxDepth (tokenize a) = .ok document ∧
      Reading.document config.maxDepth (tokenize b) = .ok document' ∧
      MakeGroups (document.filter Expression.isGroup) explicit ∧
      MakeGroups (document'.filter Expression.isGroup) explicit' ∧
      MakeGroup (ungrouped document ++ ungrouped document') implicit ∧
      compile config (a ++ b) = .ok (explicit ++ explicit' ++ implicit) ∧
      ((∀ e ∈ document ++ document', e.isGroup = true) →
        compile config (a ++ b) = .ok (groups ++ groups')) := by
  obtain ⟨document, read, compiled⟩ := compile_eq_ok_iff.mp success
  obtain ⟨document', read', compiled'⟩ := compile_eq_ok_iff.mp success'
  obtain ⟨explicit, explicit', implicit, made, made', joined, appended⟩ :=
    compileNodes_append (.shift a.length) compiled compiled'
  have whole : compile config (a ++ b) = .ok (explicit ++ explicit' ++ implicit) :=
    compile_eq_ok_iff.mpr ⟨_, document_append_text success read read', appended⟩
  refine ⟨document, document', explicit, explicit', implicit, read, read', made, made', joined,
    whole, fun grouped => ?_⟩
  have none : ungrouped (document ++ document') = [] :=
    List.filter_eq_nil_iff.mpr (by simpa using grouped)
  rw [List.forall_mem_append] at grouped
  have same := made.unique (makeGroups_of_compileNodes compiled grouped.1)
  have same' := made'.unique (makeGroups_of_compileNodes compiled' grouped.2)
  rw [whole, same, same', joined.eq_nil_iff.mpr (ungrouped_append .. ▸ none), List.append_nil]

/-- The groups of both texts come first. Then ten o'clock and the thirtieth minute, which make a
group each in their own texts, come together in one. -/
theorem compile_append_half_past_ten :
    let hour (hour : Int) : RuleGroup :=
      { includes := { seconds := some [.single 0], minutes := some [.single 0],
                      hours := some [.single hour], daysOfWeek := none, daysOfMonth := none,
                      dates := none } }
    let minute (minute : Int) : RuleGroup :=
      { includes := { seconds := some [.single 0], minutes := some [.single minute], hours := none,
                      daysOfWeek := none, daysOfMonth := none, dates := none } }
    let halfPastTen : RuleGroup :=
      { includes := { seconds := some [.single 0], minutes := some [.single 30],
                      hours := some [.single 10], daysOfWeek := none, daysOfMonth := none,
                      dates := none } }
    compile {} "group(hour(9))hour(10)" = .ok [hour 9, hour 10] ∧
    compile {} "min(30),group(min(5))" = .ok [minute 5, minute 30] ∧
    ∃ explicit explicit' implicit,
      compile {} ("group(hour(9))hour(10)" ++ "min(30),group(min(5))") =
        .ok (explicit ++ explicit' ++ implicit) ∧
      explicit ++ explicit' ++ implicit = [hour 9, minute 5, halfPastTen] := by
  intro hour minute halfPastTen
  have first : compile {} "group(hour(9))hour(10)" = .ok [hour 9, hour 10] := by decide +kernel
  have second : compile {} "min(30),group(min(5))" = .ok [minute 5, minute 30] := by decide +kernel
  obtain ⟨_, _, explicit, explicit', implicit, _, _, _, _, _, whole, _⟩ :=
    compile_append first second
  have evaluated : compile {} ("group(hour(9))hour(10)" ++ "min(30),group(min(5))") =
    .ok [hour 9, minute 5, halfPastTen] := by decide +kernel
  exact ⟨first, second, explicit, explicit', implicit, whole,
    Except.ok.inj (whole.symm.trans evaluated)⟩

end Schedule
