import Schedule.Proofs.Printing.Derivation

/-! # Printed documents are read back

The text of well-formed expressions is cut into the tokens of their derivation and read as such, if
the expressions are nested no deeper than allowed. As its tokens stand where they do in the text,
the tree that is read is that of the expressions up to its tokens.
-/

namespace Schedule

namespace Grammar

variable {nodes : List Node}

namespace Arguments

mutual

/-- An argument as it is written, with what follows it. -/
def cons : Node → Option Token → Arguments → Arguments
  | .literal l, comma, rest =>
    literal (if l.exclude then some (bare "!") else none) (.ofLiteral l) comma rest
  | .expression name _ arguments, comma, rest =>
    nested (bare name) (bare "(") (ofNodes arguments) (bare ")") comma rest

/-- Some arguments as they are written. -/
def ofNodes : List Node → Arguments
  | [] => nil
  | node :: nodes =>
    cons node (if nodes.isEmpty then none else some (bare ",")) (ofNodes nodes)

end

theorem tokens_ofNodes_nil : (ofNodes []).tokens = [] := rfl

/-- The commas between arguments are commas. -/
theorem comma_value (last : Bool) :
    ∀ mark ∈ (if last then none else some (bare ",")), mark.value = "," := by
  cases last <;> simp [bare]

theorem bang_value (exclude : Bool) :
    ∀ mark ∈ (if exclude then some (bare "!") else none), mark.value = "!" := by
  cases exclude <;> simp [bare]

theorem valid_ofNodes (valid : Node.WellFormedAll nodes) : (ofNodes nodes).Valid := by
  induction nodes using Node.list_induction with
  | nil => trivial
  | literal l rest ih =>
    exact ⟨bang_value l.exclude, Form.valid_ofLiteral valid.1, comma_value rest.isEmpty, ih valid.2⟩
  | expression name first arguments rest ihArguments ih =>
    exact ⟨valid.1.1, rfl, ihArguments valid.1.2, rfl, comma_value rest.isEmpty, ih valid.2⟩

/-- Every literal that is written is greedy: a comma follows it, or the closing parenthesis. -/
theorem greedy_ofNodes (nodes : List Node) {closing : Token} (closes : closing.value = ")") :
    (ofNodes nodes).Greedy [closing] := by
  induction nodes using Node.list_induction generalizing closing with
  | nil => trivial
  | literal l rest ih =>
    refine ⟨Form.greedy_of_ahead _ ?_, ih closes⟩
    cases rest with
    | nil => simp [ofNodes, tokens, closes]
    | cons next rest => simp [bare]
  | expression name first arguments rest ihArguments ih => exact ⟨ihArguments rfl, ih closes⟩

theorem depth_ofNodes (nodes : List Node) : (ofNodes nodes).depth = Node.depthAll nodes := by
  induction nodes using Node.list_induction with
  | nil => rfl
  | literal l rest ih => rw [ofNodes, cons, depth, ih, Node.depthAll, Node.depth, Nat.zero_max]
  | expression name first arguments rest ihArguments ih =>
    rw [ofNodes, cons, depth, ihArguments, ih, Node.depthAll, Node.depth]

theorem tree_ofNodes (valid : Node.WellFormedAll nodes) :
    Node.eraseAll (ofNodes nodes).tree = Node.eraseAll nodes := by
  induction nodes using Node.list_induction with
  | nil => rfl
  | literal l rest ih =>
    have same : ((Form.ofLiteral l).literal (if l.exclude then some (bare "!") else none)).erase =
        l.erase := by
      rw [Form.literal, Form.operand_ofLiteral valid.1, Form.modulus_ofLiteral]
      cases l with | mk operand first exclude modulus => cases exclude <;> rfl
    rw [ofNodes, cons, tree, Node.eraseAll, Node.eraseAll, Node.erase, Node.erase, same, ih valid.2]
  | expression name first arguments rest ihArguments ih =>
    rw [ofNodes, cons, tree, Node.eraseAll, Node.eraseAll, Node.erase, Node.erase,
      ihArguments valid.1.2, ih valid.2]
    rfl

/-- What is printed of an argument and what follows it, with the comma that this takes. -/
theorem prints_rest {ts : List Token} {text : String} (prints : Prints ts text)
    (others : Prints (ofNodes nodes).tokens (Node.textAll nodes)) :
    Prints (ts ++ ((if nodes.isEmpty then none else some (bare ",")).toList ++
        (ofNodes nodes).tokens))
      (text ++ if nodes.isEmpty then "" else "," ++ Node.textAll nodes) := by
  cases nodes with
  | nil => simpa [tokens_ofNodes_nil] using prints
  | cons node nodes =>
    have whole := prints.append (by decide : "," ∈ _) others
    simpa [String.append_assoc] using whole

/-- A literal is printed with its `!`, if it has one. -/
theorem prints_written {l : Literal} (valid : l.WellFormed) :
    Prints ((if l.exclude then some (bare "!") else none).toList ++ (Form.ofLiteral l).tokens)
      l.text := by
  have form := Form.prints_ofLiteral valid
  unfold Literal.text
  cases l.exclude with
  | false => simpa using form
  | true => exact form.cons (by decide)

theorem prints_ofNodes (valid : Node.WellFormedAll nodes) :
    Prints (ofNodes nodes).tokens (Node.textAll nodes) := by
  induction nodes using Node.list_induction with
  | nil => exact Prints.nil
  | literal l rest ih =>
    have whole := prints_rest (prints_written valid.1) (ih valid.2)
    rw [List.append_assoc] at whole
    exact whole
  | expression name first arguments rest ihArguments ih =>
    have closed := (ihArguments valid.1.2).append (by decide : ")" ∈ _) Prints.nil
    have opened := (prints_name valid.1.1).append (by decide : "(" ∈ _) closed
    have whole := prints_rest opened (ih valid.2)
    simpa [ofNodes, cons, tokens, Node.textAll, Node.text] using whole

end Arguments

namespace Phrase

/-- An expression as it is written. -/
def ofExpression (e : Expression) : Phrase :=
  ⟨bare e.name, bare "(", .ofNodes e.arguments, bare ")"⟩

variable {e : Expression}

theorem valid_ofExpression (valid : e.toNode.WellFormed) : (ofExpression e).Valid :=
  ⟨valid.1, rfl, Arguments.valid_ofNodes valid.2, rfl⟩

theorem greedy_ofExpression (e : Expression) : (ofExpression e).Greedy :=
  Arguments.greedy_ofNodes e.arguments rfl

theorem depth_ofExpression (e : Expression) : (ofExpression e).depth = e.toNode.depth := by
  rw [depth, ofExpression, Arguments.depth_ofNodes, Expression.toNode, Node.depth]

theorem tree_ofExpression (valid : e.toNode.WellFormed) :
    (ofExpression e).tree.toNode.erase = e.toNode.erase := by
  rw [tree, Expression.toNode, Expression.toNode, Node.erase, Node.erase, ofExpression,
    Arguments.tree_ofNodes valid.2]
  rfl

theorem prints_ofExpression (valid : e.toNode.WellFormed) :
    Prints (ofExpression e).tokens e.toNode.text := by
  have closed := (Arguments.prints_ofNodes valid.2).append (by decide : ")" ∈ _) Prints.nil
  have opened := (prints_name valid.1).append (by decide : "(" ∈ _) closed
  simpa [ofExpression, tokens, Expression.toNode, Node.text] using opened

end Phrase

namespace Document

/-- What is written of the expressions after the first. -/
def following (es : List Expression) : List Item :=
  es.flatMap fun e => [.comma (bare ","), .phrase (.ofExpression e)]

/-- A document as it is written. -/
def ofExpressions : List Expression → Document
  | [] => empty
  | e :: es => starting (.ofExpression e) (following es)

theorem phrases_following (es : List Expression) :
    (following es).filterMap Item.phrase? = es.map Phrase.ofExpression := by
  induction es with
  | nil => rfl
  | cons e es ih =>
    rw [following, List.flatMap_cons, ← following, List.filterMap_append, ih]
    rfl

theorem phrases_ofExpressions (es : List Expression) :
    (ofExpressions es).phrases = es.map Phrase.ofExpression := by
  cases es with
  | nil => rfl
  | cons e es =>
    rw [phrases, ofExpressions, items, List.filterMap_cons, phrases_following]
    rfl

theorem valid_ofExpressions {es : List Expression}
    (valid : Node.WellFormedAll (es.map Expression.toNode)) :
    ∀ item ∈ (ofExpressions es).items, item.Valid := by
  rw [Node.wellFormedAll_iff, List.forall_mem_map] at valid
  cases es with
  | nil => simp [ofExpressions, items]
  | cons e es =>
    rw [List.forall_mem_cons] at valid
    rw [ofExpressions, items, List.forall_mem_cons]
    refine ⟨Phrase.valid_ofExpression valid.1, fun item member => ?_⟩
    obtain ⟨other, listed, among⟩ := List.mem_flatMap.mp member
    simp only [List.mem_cons, List.not_mem_nil, or_false] at among
    rcases among with rfl | rfl
    · rfl
    · exact Phrase.valid_ofExpression (valid.2 other listed)

theorem prints_ofExpressions {es : List Expression}
    (valid : Node.WellFormedAll (es.map Expression.toNode)) :
    Prints (ofExpressions es).tokens (Node.textAll (es.map Expression.toNode)) := by
  induction es with
  | nil => exact Prints.nil
  | cons e es ih =>
    have first := Phrase.prints_ofExpression valid.1
    cases es with
    | nil => simpa [ofExpressions, tokens, items, following, Item.tokens, Node.textAll] using first
    | cons next es =>
      have whole := first.append (by decide : "," ∈ _) (ih valid.2)
      simpa [ofExpressions, tokens, items, following, Item.tokens, Node.textAll,
        String.append_assoc] using whole

theorem derives_ofExpressions {es : List Expression}
    (valid : Node.WellFormedAll (es.map Expression.toNode)) :
    (ofExpressions es).Derives (ofExpressions es).tokens := by
  refine ⟨rfl, valid_ofExpressions valid, fun p member => ?_⟩
  rw [phrases_ofExpressions] at member
  obtain ⟨e, _, rfl⟩ := List.mem_map.mp member
  exact Phrase.greedy_ofExpression e

/-- The expressions are nested no deeper than allowed. -/
theorem within_ofExpressions (es : List Expression) (maxDepth : Int) :
    (ofExpressions es).Within maxDepth ↔ ∀ e ∈ es, (e.toNode.depth : Int) ≤ maxDepth := by
  rw [Within, phrases_ofExpressions, List.forall_mem_map]
  simp only [Phrase.depth_ofExpression]

theorem tree_ofExpressions {es : List Expression}
    (valid : Node.WellFormedAll (es.map Expression.toNode)) :
    (ofExpressions es).tree.map (fun e => e.toNode.erase) = es.map fun e => e.toNode.erase := by
  rw [Node.wellFormedAll_iff, List.forall_mem_map] at valid
  rw [tree, phrases_ofExpressions, List.map_map, List.map_map]
  exact List.map_congr_left fun e member => Phrase.tree_ofExpression (valid e member)

end Document

end Grammar

/-- Tokens without their places. -/
def Relabelling.strip : Relabelling :=
  ⟨fun t => ⟨0, t.value⟩, fun _ => Token.alike_of_eq rfl⟩

/-- The tokens of a printed text are those that it spells, but for their places. -/
theorem Grammar.Prints.strip_tokenize {ts : List Token} {text : String} (prints : Prints ts text) :
    (tokenize text).map Relabelling.strip.apply = ts := by
  have values : (tokenize text).map Token.value = ts.map Token.value := by
    rw [← tokenize_spelling prints.joinable, prints.spelt, String.ofList_toList]
  have through (us : List Token) :
      us.map Relabelling.strip.apply = (us.map Token.value).map Grammar.bare := by
    rw [List.map_map]
    rfl
  have placed : ts.map Relabelling.strip.apply = ts := by
    conv_rhs => rw [← List.map_id ts]
    refine List.map_congr_left fun t member => ?_
    have place := prints.placeless t member
    cases t
    cases place
    rfl
  rw [through, values, ← through, placed]

/-- The text of well-formed expressions is read exactly if they are nested no deeper than
allowed. -/
theorem document_text_eq_ok_iff {es : List Expression}
    (valid : Node.WellFormedAll (es.map Expression.toNode)) (maxDepth : Int) :
    (∃ read, Reading.document maxDepth (tokenize (Node.textAll (es.map Expression.toNode))) =
        .ok read) ↔ ∀ e ∈ es, (e.toNode.depth : Int) ≤ maxDepth := by
  have prints := Grammar.Document.prints_ofExpressions valid
  have derives := Grammar.Document.derives_ofExpressions valid
  have moved := Reading.document_relabel .strip maxDepth
    (tokenize (Node.textAll (es.map Expression.toNode)))
  rw [prints.strip_tokenize] at moved
  rw [← Grammar.Document.within_ofExpressions]
  constructor
  · rintro ⟨read, success⟩
    rw [success] at moved
    obtain ⟨_, d, derives', within, _⟩ := (Grammar.Document.read_iff ..).mp moved
    rwa [derives'.unique derives] at within
  · intro within
    rw [(Grammar.Document.read_iff ..).mpr ⟨prints.readable, _, derives, within, rfl⟩] at moved
    have back := mapError_eq_ok_iff.mp moved.symm
    obtain ⟨read, success, _⟩ := map_eq_ok_iff.mp back
    exact ⟨read, success⟩

/-- What is read from the text of well-formed expressions is what their derivation means, but for
the places of its tokens. -/
theorem strip_of_document_text {es read : List Expression} {maxDepth : Int}
    (valid : Node.WellFormedAll (es.map Expression.toNode))
    (success : Reading.document maxDepth (tokenize (Node.textAll (es.map Expression.toNode))) =
      .ok read) :
    read.map (Expression.relabel .strip) = (Grammar.Document.ofExpressions es).tree := by
  have prints := Grammar.Document.prints_ofExpressions valid
  have derives := Grammar.Document.derives_ofExpressions valid
  have moved := Reading.document_relabel .strip maxDepth
    (tokenize (Node.textAll (es.map Expression.toNode)))
  rw [prints.strip_tokenize, success] at moved
  obtain ⟨_, d, derives', _, tree⟩ := (Grammar.Document.read_iff ..).mp moved
  rw [derives'.unique derives] at tree
  exact tree.symm

/-- What is read from the text of well-formed expressions are these expressions up to their
tokens. -/
theorem erase_of_document_text {es read : List Expression} {maxDepth : Int}
    (valid : Node.WellFormedAll (es.map Expression.toNode))
    (success : Reading.document maxDepth (tokenize (Node.textAll (es.map Expression.toNode))) =
      .ok read) :
    read.map (fun e => e.toNode.erase) = es.map fun e => e.toNode.erase := by
  rw [← Grammar.Document.tree_ofExpressions valid, ← strip_of_document_text valid success,
    List.map_map]
  refine List.map_congr_left fun e _ => ?_
  exact (Node.erase_relabel (fun _ => rfl) e.toNode).symm

end Schedule
