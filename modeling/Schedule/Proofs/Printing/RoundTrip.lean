import Schedule.Proofs.Printing.Document
import Schedule.Proofs.Reading.Depth

/-! # Reading undoes printing

The trees that reading gives are the well-formed ones that are nested no deeper than allowed. Each
of them is read from the text that it prints as: the expressions come back as they were, each node
with the token at which its own text begins.
-/

namespace Schedule

/-- The first token of a text, without its place. -/
def leading (text : String) : Token :=
  Relabelling.strip.apply ((tokenize text).headD ⟨0, ""⟩)

theorem Grammar.Prints.leading_eq {t : Token} {ts : List Token} {text : String}
    (prints : Prints (t :: ts) text) : leading text = t := by
  have cut := prints.strip_tokenize
  unfold leading
  cases same : tokenize text with
  | nil =>
    rw [same] at cut
    contradiction
  | cons first rest =>
    rw [same, List.map_cons] at cut
    exact (List.cons.inj cut).1

/-- The literal with the token at which its text begins. -/
def Literal.rooted (l : Literal) : Literal :=
  { l with first := leading l.text }

namespace Node

mutual

/-- The node in which every node has the token at which its text begins. -/
def rooted : Node → Node
  | literal l => literal l.rooted
  | expression name first arguments =>
    expression name (leading (text (expression name first arguments))) (rootedAll arguments)

/-- Some nodes, in each of which every node has the token at which its text begins. -/
def rootedAll : List Node → List Node
  | [] => []
  | node :: nodes => rooted node :: rootedAll nodes

end

end Node

/-- The expression in which every node has the token at which its text begins. -/
def Expression.rooted (e : Expression) : Expression :=
  ⟨e.name, leading e.toNode.text, Node.rootedAll e.arguments⟩

namespace Grammar

theorem leading_expression {name : String} {first : Token} {arguments : List Node}
    (valid : (Node.expression name first arguments).WellFormed) :
    leading (Node.expression name first arguments).text = bare name :=
  (Phrase.prints_ofExpression (e := ⟨name, first, arguments⟩) valid).leading_eq

/-- The tree of the derivation of a literal keeps the token at which the text begins. -/
theorem literal_ofLiteral {l : Literal} (valid : l.WellFormed) :
    (Form.ofLiteral l).literal (if l.exclude then some (bare "!") else none) = l.rooted := by
  have prints := Arguments.prints_written valid
  obtain ⟨more, same⟩ := (Form.ofLiteral l).tokens_eq
  have begins : (if l.exclude then some (bare "!") else none).getD (Form.ofLiteral l).first =
      leading l.text := by
    rw [same] at prints
    cases exclude : l.exclude with
    | false =>
      simp only [exclude, Bool.false_eq_true, if_false, Option.toList_none,
        List.nil_append] at prints
      exact prints.leading_eq.symm
    | true =>
      simp only [exclude, if_true, Option.toList_some, List.singleton_append] at prints
      exact prints.leading_eq.symm
  rw [Form.literal, begins, Form.operand_ofLiteral valid, Form.modulus_ofLiteral, Literal.rooted]
  cases l with | mk operand first exclude modulus => cases exclude <;> rfl

theorem Arguments.tree_ofNodes_eq {nodes : List Node} (valid : Node.WellFormedAll nodes) :
    (ofNodes nodes).tree = Node.rootedAll nodes := by
  induction nodes using Node.list_induction with
  | nil => rfl
  | literal l rest ih =>
    rw [ofNodes, cons, tree, literal_ofLiteral valid.1, ih valid.2]
    rfl
  | expression name first arguments rest ihArguments ih =>
    rw [ofNodes, cons, tree, ihArguments valid.1.2, ih valid.2, Node.rootedAll, Node.rooted,
      leading_expression valid.1]
    rfl

theorem Document.tree_ofExpressions_eq {es : List Expression}
    (valid : Node.WellFormedAll (es.map Expression.toNode)) :
    (ofExpressions es).tree = es.map Expression.rooted := by
  rw [Node.wellFormedAll_iff, List.forall_mem_map] at valid
  rw [tree, phrases_ofExpressions, List.map_map]
  refine List.map_congr_left fun e member => ?_
  have formed := valid e member
  change Phrase.tree ⟨bare e.name, bare "(", .ofNodes e.arguments, bare ")"⟩ = _
  rw [Phrase.tree, Arguments.tree_ofNodes_eq formed.2, Expression.rooted, Expression.toNode,
    leading_expression formed]
  rfl

end Grammar

/-- The trees that are read are the well-formed ones nested no deeper than allowed: any of these are
read from their text, up to the tokens that point into it, and those are the ones at which the
text of each node begins; and all that is read from any text is such. -/
theorem reading_undoes_printing (maxDepth : Int) :
    (∀ es : List Expression, Node.WellFormedAll (es.map Expression.toNode) →
      (∀ e ∈ es, (e.toNode.depth : Int) ≤ maxDepth) →
      ∃ read, Reading.document maxDepth (tokenize (Node.textAll (es.map Expression.toNode))) =
          .ok read ∧
        read.map (fun e => e.toNode.erase) = es.map (fun e => e.toNode.erase) ∧
        read.map (Expression.relabel .strip) = es.map Expression.rooted) ∧
      ∀ text read, Reading.document maxDepth (tokenize text) = .ok read →
        Node.WellFormedAll (read.map Expression.toNode) ∧
          ∀ e ∈ read, (e.toNode.depth : Int) ≤ maxDepth := by
  constructor
  · intro es valid deep
    obtain ⟨read, success⟩ := (document_text_eq_ok_iff valid maxDepth).mpr deep
    refine ⟨read, success, erase_of_document_text valid success, ?_⟩
    rw [strip_of_document_text valid success, Grammar.Document.tree_ofExpressions_eq valid]
  · intro text read success
    exact ⟨Grammar.wellFormed_of_document success, Grammar.depth_le_of_document success⟩

/-- Signs, moduli and weekdays beside numbers are read back from the text of nested expressions. -/
theorem nested_signs_read_back :
    let es : List Expression := [
      ⟨"group", default, [
        .expression "Hour" default [
          .literal ⟨.range (-9) (-17), default, true, some (-2)⟩,
          .literal ⟨.wildcard, default, false, some (-5)⟩],
        .expression "day" default [.literal ⟨.days 3 (-100), default, false, none⟩]]⟩,
      ⟨"date", default, [.literal ⟨.dates ⟨2, 29⟩ ⟨1, 1⟩, default, false, none⟩]⟩]
    let text := "group(Hour(!-9--17%-2,%%-5),day(wednesday--100)),date(2/29-1/1)"
    Node.textAll (es.map Expression.toNode) = text ∧
      ∃ read, Reading.document 2 (tokenize text) = .ok read ∧
        read.map (fun e => e.toNode.erase) = es.map (fun e => e.toNode.erase) ∧
        read.map (Expression.relabel .strip) = es.map Expression.rooted ∧
        Node.WellFormedAll (read.map Expression.toNode) ∧
        ∀ e ∈ read, (e.toNode.depth : Int) ≤ 2 := by
  intro es text
  have spelt : Node.textAll (es.map Expression.toNode) = text := by decide +kernel
  have hours : Literal.WellFormed ⟨.range (-9) (-17), default, true, some (-2)⟩ :=
    ⟨by simp [Operand.WellFormed, Short], by simp [Short]⟩
  have every : Literal.WellFormed ⟨.wildcard, default, false, some (-5)⟩ :=
    ⟨trivial, by simp [Short]⟩
  have days : Literal.WellFormed ⟨.days 3 (-100), default, false, none⟩ :=
    ⟨by simp [Operand.WellFormed, Short, IsDay], by simp⟩
  have dates : Literal.WellFormed ⟨.dates ⟨2, 29⟩ ⟨1, 1⟩, default, false, none⟩ :=
    ⟨⟨⟨29, rfl, by decide, by decide⟩, ⟨31, rfl, by decide, by decide⟩⟩, by simp⟩
  have valid : Node.WellFormedAll (es.map Expression.toNode) :=
    ⟨⟨by decide, ⟨by decide, hours, every, trivial⟩, ⟨by decide, days, trivial⟩, trivial⟩,
      ⟨by decide, dates, trivial⟩, trivial⟩
  have deep : ∀ e ∈ es, (e.toNode.depth : Int) ≤ 2 := by decide
  obtain ⟨back, forth⟩ := reading_undoes_printing 2
  obtain ⟨read, success, same, rooted⟩ := back es valid deep
  rw [spelt] at success
  exact ⟨spelt, read, success, same, rooted, forth text read success⟩

end Schedule
