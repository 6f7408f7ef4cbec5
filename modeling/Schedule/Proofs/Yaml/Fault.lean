import Schedule.Proofs.Outcome
import Schedule.Proofs.Utf8
import Schedule.Yaml

/-! # Where the faults of a file come from

Reading a file finds faults of its form and of its values, and of these none is a fault of its
bytes. So a file is only reported not to be a text if its bytes encode none.
-/

namespace Schedule

namespace Yaml

/-- A fault of the form of a file or of a value in it. -/
def Fault.IsInner (fault : Fault) : Prop :=
  ∀ cause, fault ≠ .undecodable cause

/-- Reading stops for a fault of the text itself, if not at its end. -/
def Stop.IsInner : Stop → Prop
  | ended => True
  | fault f => f.IsInner

theorem Fault.isInner_malformed : Fault.malformed.IsInner := by
  rintro _ ⟨⟩

theorem Fault.isInner_value (fault : ValueFault) : (Fault.value fault).IsInner := by
  rintro _ ⟨⟩

theorem Stop.isInner_malformed : Stop.malformed.IsInner :=
  Fault.isInner_malformed

variable {fuel : Nat}

/-! ### Lexemes -/

theorem hexCode_inner (length : Nat) (cs : List Char) : Fails Stop.IsInner (hexCode length cs) := by
  unfold hexCode
  dsimp only
  split
  · exact .error Stop.isInner_malformed
  · split_ifs
    · exact .error trivial
    · exact .ok _
    · exact .error (Fault.isInner_value _)

theorem quotedBreaks_inner (here : Cursor) (fresh : Bool) (breaks : List Char) :
    Fails Stop.IsInner (quotedBreaks fuel here fresh breaks) := by
  induction fuel generalizing here fresh breaks with
  | zero => exact .error Stop.isInner_malformed
  | succ fuel ih =>
    unfold quotedBreaks
    split_ifs
    · exact .error Stop.isInner_malformed
    · split
      · split_ifs
        · exact ih _ _ _
        · exact ih _ _ _
        · exact .ok _
      · exact .error trivial

theorem quotedScalar_inner (double : Bool) (here : Cursor) (codes : List Nat) :
    Fails Stop.IsInner (quotedScalar fuel double here codes) := by
  induction fuel generalizing here codes with
  | zero =>
    unfold quotedScalar
    split
    · exact .error trivial
    · exact .error Stop.isInner_malformed
    · contradiction
  | succ fuel ih =>
    unfold quotedScalar
    split
    · exact .error trivial
    · contradiction
    · next equal _ =>
      cases equal
      dsimp only
      split_ifs
      · -- blanks and line breaks
        split
        · exact .error trivial
        · split_ifs
          · split
            · next failed => exact .error (quotedBreaks_inner _ _ _ _ failed)
            · exact ih _ _
          · exact ih _ _
      · exact .ok _
      · -- an escape between double quotes
        split
        · exact .error trivial
        · split
          · exact ih _ _
          · split
            · next failed => exact .error (hexCode_inner _ _ _ failed)
            · exact ih _ _
          · split_ifs
            · split
              · next failed => exact .error (quotedBreaks_inner _ _ _ _ failed)
              · exact ih _ _
            · exact .error Stop.isInner_malformed
      all_goals first | exact ih _ _ | exact .ok _

namespace Layout

variable (s : Layout)

theorem dropStale_inner : Fails Stop.IsInner s.dropStale := by
  unfold dropStale
  split_ifs
  · exact .error Stop.isInner_malformed
  · exact .ok _

theorem forgetKey_inner : Fails Stop.IsInner s.forgetKey := by
  unfold forgetKey
  split
  · split_ifs
    · exact .error Stop.isInner_malformed
    · exact .ok _
  · exact .ok _

theorem noteKey_inner : Fails Stop.IsInner s.noteKey := by
  unfold noteKey
  split_ifs
  · exact .bind (forgetKey_inner s) fun _ => .ok _
  · exact .ok _

theorem closeFlow_inner (lexeme : Lexeme) : Fails Stop.IsInner (s.closeFlow lexeme) := by
  refine .bind (forgetKey_inner s) fun _ => ?_
  split_ifs
  · exact .error Stop.isInner_malformed
  · exact .ok _

theorem indicator_inner (collection lexeme : Lexeme) (keyAfter : Bool) :
    Fails Stop.IsInner (s.indicator collection lexeme keyAfter) := by
  unfold indicator
  split_ifs
  · exact .error Stop.isInner_malformed
  · exact .bind (forgetKey_inner _) fun _ => .ok _

theorem colon_inner : Fails Stop.IsInner s.colon := by
  unfold colon
  split
  · exact .ok _
  · exact indicator_inner s _ _ _

theorem quoted_inner (double : Bool) : Fails Stop.IsInner (s.quoted double) :=
  .bind (noteKey_inner s) fun _ => .bind (quotedScalar_inner _ _ _) fun _ => .ok _

theorem step_inner : Fails Stop.IsInner s.step := by
  unfold step
  split
  · exact .ok _
  · split
    · exact .bind (forgetKey_inner _) fun _ => .ok _
    · split
      · exact .bind (noteKey_inner s) fun _ => .ok _
      · exact .bind (noteKey_inner s) fun _ => .ok _
      · exact closeFlow_inner s _
      · exact closeFlow_inner s _
      · exact .bind (forgetKey_inner s) fun _ => .ok _
      · exact quoted_inner s _
      · exact quoted_inner s _
      · split_ifs
        · exact indicator_inner s _ _ _
        · exact indicator_inner s _ _ _
        · exact colon_inner s
        · exact .bind (noteKey_inner s) fun _ => .ok _
        · exact .error Stop.isInner_malformed

theorem settle_inner (beyond : Option Fault) : Fails Stop.IsInner (s.settle beyond) := by
  refine .bind (dropStale_inner s) fun _ => ?_
  dsimp only
  split_ifs
  · exact .error trivial
  · exact .bind (dropStale_inner _) fun _ => .ok _

theorem advance_inner (beyond : Option Fault) : Fails Stop.IsInner (s.advance beyond) := by
  refine .bind (settle_inner s beyond) fun _ => ?_
  split_ifs
  · exact .bind (forgetKey_inner _) fun _ => .ok _
  · refine .bind (step_inner _) fun _ => ?_
    split_ifs
    · exact .error trivial
    · exact .ok _

end Layout

/-- Where reading stops, it stops for a fault of the text itself or for what lies beyond it. -/
theorem Stop.isInner_toFault {beyond : Option Fault} {stop : Stop} (inner : stop.IsInner)
    (own : ∀ fault, beyond = some fault → fault.IsInner) : (stop.toFault beyond).IsInner := by
  cases stop with
  | fault f => exact inner
  | ended =>
    cases beyond with
    | none => exact Fault.isInner_malformed
    | some fault => exact own fault rfl

variable {beyond : Option Fault} {source : Source}

theorem Layout.run_inner (own : ∀ fault, beyond = some fault → fault.IsInner) (s : Layout)
    {fault : Fault} (failed : (s.run beyond fuel).fault = some fault) : fault.IsInner := by
  induction fuel generalizing s with
  | zero =>
    cases failed
    exact Fault.isInner_malformed
  | succ fuel ih =>
    unfold run at failed
    split at failed
    · next stopped =>
      cases failed
      exact Stop.isInner_toFault (advance_inner s beyond _ stopped) own
    · exact ih _ failed
    · contradiction

theorem lex_inner (own : ∀ fault, source.beyond = some fault → fault.IsInner) {fault : Fault}
    (failed : (lex source).fault = some fault) : fault.IsInner :=
  Layout.run_inner own _ failed

/-! ### Nodes -/

namespace Node

theorem stopBefore_inner (ls : List Lexeme) : (stopBefore ls).IsInner := by
  unfold stopBefore
  split
  · trivial
  · exact Stop.isInner_malformed

theorem afterComma_inner (isFirst : Bool) (ls : List Lexeme) :
    Fails Stop.IsInner (afterComma isFirst ls) := by
  unfold afterComma
  split_ifs
  · exact .ok _
  · split
    · exact .ok _
    · exact .error (stopBefore_inner _)

/-- With some fuel, every reader of nodes stops for a fault of the text itself. -/
structure ReadersInner (fuel : Nat) : Prop where
  read (block unindented : Bool) (ls : List Lexeme) :
    Fails Stop.IsInner (read fuel block unindented ls)
  readOr (block unindented : Bool) (ends ls : List Lexeme) :
    Fails Stop.IsInner (readOr fuel block unindented ends ls)
  blockItems (ls : List Lexeme) : Fails Stop.IsInner (blockItems fuel ls)
  unindentedItems (ls : List Lexeme) : Fails Stop.IsInner (unindentedItems fuel ls)
  blockEntries (ls : List Lexeme) : Fails Stop.IsInner (blockEntries fuel ls)
  valueOr (block : Bool) (ends ls : List Lexeme) :
    Fails Stop.IsInner (valueOr fuel block ends ls)
  flowItems (isFirst : Bool) (ls : List Lexeme) : Fails Stop.IsInner (flowItems fuel isFirst ls)
  flowEntries (isFirst : Bool) (ls : List Lexeme) :
    Fails Stop.IsInner (flowEntries fuel isFirst ls)

/-- The induction is on the fuel, which every call of a reader by a reader uses up. -/
theorem readersInner (fuel : Nat) : ReadersInner fuel := by
  have malformed {α : Type} : Fails Stop.IsInner (.error .malformed : Except Stop α) :=
    .error Stop.isInner_malformed
  induction fuel with
  | zero => constructor <;> intros <;> exact malformed
  | succ fuel ih =>
    constructor
    case read =>
      intro block unindented ls
      unfold Node.read
      split
      · exact .ok _
      · exact .ok _
      · exact .map _ (ih.flowItems _ _)
      · exact .map _ (ih.flowEntries _ _)
      · split_ifs
        · exact .map _ (ih.blockItems _)
        · exact malformed
      · split_ifs
        · exact .map _ (ih.blockEntries _)
        · exact malformed
      · split_ifs
        · exact .map _ (ih.unindentedItems _)
        · exact malformed
      · exact .error (stopBefore_inner _)
    case readOr =>
      intro block unindented ends ls
      unfold Node.readOr
      split_ifs
      · exact .ok _
      · exact ih.read _ _ _
    case blockItems =>
      intro ls
      unfold Node.blockItems
      split
      · exact .ok _
      · exact .bind (ih.readOr _ _ _ _) fun _ => .bind (ih.blockItems _) fun _ => .ok _
      · exact .error (stopBefore_inner _)
    case unindentedItems =>
      intro ls
      unfold Node.unindentedItems
      split
      · exact .bind (ih.readOr _ _ _ _) fun _ => .bind (ih.unindentedItems _) fun _ => .ok _
      · exact .ok _
    case blockEntries =>
      intro ls
      unfold Node.blockEntries
      split
      · exact .ok _
      · exact .bind (ih.readOr _ _ _ _) fun _ => .bind (ih.valueOr _ _ _) fun _ =>
          .bind (ih.blockEntries _) fun _ => .ok _
      · exact .error (stopBefore_inner _)
    case valueOr =>
      intro block ends ls
      unfold Node.valueOr
      split
      · exact ih.readOr _ _ _ _
      · exact .ok _
    case flowItems =>
      intro isFirst ls
      unfold Node.flowItems
      split
      · exact .ok _
      · refine .bind (afterComma_inner _ _) fun _ => ?_
        split
        · exact .ok _
        · exact .bind (ih.readOr _ _ _ _) fun _ => .bind (ih.valueOr _ _ _) fun _ =>
            .bind (ih.flowItems _ _) fun _ => .ok _
        · exact .bind (ih.read _ _ _) fun _ => .bind (ih.flowItems _ _) fun _ => .ok _
    case flowEntries =>
      intro isFirst ls
      unfold Node.flowEntries
      split
      · exact .ok _
      · refine .bind (afterComma_inner _ _) fun _ => ?_
        split
        · exact .ok _
        · exact .bind (ih.readOr _ _ _ _) fun _ => .bind (ih.valueOr _ _ _) fun _ =>
            .bind (ih.flowEntries _ _) fun _ => .ok _
        · exact .bind (ih.read _ _ _) fun _ => .bind (ih.flowEntries _ _) fun _ => .ok _

theorem root_inner (ls : List Lexeme) : Fails Stop.IsInner (root ls) := by
  unfold root
  dsimp only
  split
  · exact .ok _
  · exact .ok _
  · exact (readersInner _).readOr _ _ _ _
  · exact (readersInner _).read _ _ _

theorem document_inner {source : Lexed} (own : ∀ fault, source.fault = some fault → fault.IsInner) :
    Fails Fault.IsInner (document source) := by
  unfold document
  split
  · next stopped => exact .error (Stop.isInner_toFault (root_inner _ _ stopped) own)
  · split_ifs
    · split
      · exact .ok _
      · next fault beyond => exact .error (own _ beyond)
    · exact .error Fault.isInner_malformed

/-! ### Values -/

theorem plainValue_inner (cs : List Char) : Fails Fault.IsInner (plainValue cs) := by
  unfold plainValue
  dsimp only
  split_ifs
  · exact .ok _
  · exact .ok _
  · exact .ok _
  · exact .error Fault.isInner_malformed
  · split
    · exact .mapError Fault.isInner_value
    · exact .mapError fun _ => Fault.isInner_value _
    · exact .ok _

theorem scalar?_inner (node : Node) : Fails Fault.IsInner node.scalar? := by
  unfold scalar?
  split
  · exact .map _ (plainValue_inner _)
  · exact .ok _
  · exact .ok _
  · exact .ok _

theorem merged_inner (fuel : Nat) (entries : List (Node × Node)) :
    Fails Fault.IsInner (merged fuel entries) := by
  induction fuel generalizing entries with
  | zero => exact .error Fault.isInner_malformed
  | succ fuel ih =>
    unfold merged
    dsimp only
    refine .bind (.mapM fun entry _ => ?_) fun _ => .ok _
    split
    · refine .bind (.mapM fun item _ => ?_) fun _ => .ok _
      split
      · exact ih _
      · exact .error Fault.isInner_malformed
    · split
      · exact ih _
      · exact .error Fault.isInner_malformed

theorem met_inner (node : Node) : Fails Fault.IsInner node.met := by
  refine .bind (scalar?_inner node) fun _ => ?_
  split <;> exact .ok _

theorem within_inner (fuel : Nat) (node : Node) : Fails Fault.IsInner (node.within fuel) := by
  unfold within
  split
  · exact .ok _
  · exact .ok _
  · exact .bind (.mapM fun _ _ => met_inner _) fun _ => .ok _
  · refine .bind (merged_inner _ _) fun _ => .bind (.mapM fun entry _ => ?_) fun _ => .ok _
    refine .bind (scalar?_inner _) fun _ => ?_
    split
    · exact met_inner _
    · exact .error Fault.isInner_malformed

theorem inspect_inner (fuel : Nat) (nodes : List Node) :
    Fails Fault.IsInner (inspect fuel nodes) := by
  induction fuel generalizing nodes with
  | zero => exact .ok _
  | succ fuel ih => exact .bind (.mapM fun _ _ => within_inner _ _) fun _ => ih _

theorem build_inner (fuel : Nat) (node : Node) : Fails Fault.IsInner (build fuel node) := by
  induction fuel generalizing node with
  | zero => exact .error Fault.isInner_malformed
  | succ fuel ih =>
    cases node with
    | plain text => exact plainValue_inner text
    | quoted codes => exact .ok _
    | sequence items => exact .map _ (.mapM fun _ _ => ih _)
    | mapping entries =>
      refine .bind (merged_inner _ _) fun _ => .bind (.mapM fun entry _ => ?_) fun _ => .ok _
      exact .bind (ih _) fun _ => .bind (ih _) fun _ => .ok _

theorem value_inner (node : Node) : Fails Fault.IsInner node.value :=
  .bind (met_inner node) fun _ => .bind (inspect_inner _ _) fun _ => build_inner _ _

end Node

/-! ### Files -/

/-- Beyond a text that has been decoded without a fault there is at most a character that a file may
not hold. -/
theorem beyond_ofBytes {content : ByteArray} (sound : (Text.decode content).2 = none)
    {fault : Fault} (beyond : (Source.ofBytes content).beyond = some fault) : fault.IsInner := by
  unfold Source.ofBytes at beyond
  split at beyond
  · unfold Source.checked at beyond
    dsimp only at beyond
    split at beyond
    · contradiction
    · cases beyond
      exact Fault.isInner_malformed
  · next found =>
    rw [found] at sound
    contradiction

/-- The reader only reports that a file is no text if its bytes encode none. -/
theorem reader_readsText : reader.ReadsText := by
  intro content reason valid failed
  have own : ∀ fault, (Source.ofBytes content).beyond = some fault → fault.IsInner :=
    fun _ => beyond_ofBytes (Text.decode_of_isValidUTF8 valid)
  have inner : Fails Fault.IsInner (read content) :=
    .bind (Node.document_inner fun _ => lex_inner own) fun _ => Node.value_inner _
  obtain ⟨fault, found, same⟩ := mapError_eq_error_iff.mp failed
  cases fault with
  | undecodable cause => exact inner _ found cause rfl
  | malformed => cases same
  | value fault => cases same

end Yaml

end Schedule
