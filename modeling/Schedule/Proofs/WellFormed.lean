import Schedule.Proofs.Numeral
import Schedule.Proofs.Reading.Document

/-! # Well-formed trees

What reading guarantees of the trees it gives: names are names, numbers have at most nine digits,
dates exist, and one end of a range of weekdays is a weekday.
-/

namespace Schedule

/-- The number has at most nine digits. -/
def Short (value : Int) : Prop :=
  value.natAbs ≤ 999999999

/-- The number is that of a weekday, counting from Monday = 1. -/
def IsDay (value : Int) : Prop :=
  1 ≤ value ∧ value ≤ 7

def Operand.WellFormed : Operand → Prop
  | number value => Short value
  | range low high => Short low ∧ Short high
  | days low high => Short low ∧ Short high ∧ (IsDay low ∨ IsDay high)
  | dates low high => low.Exists ∧ high.Exists
  | wildcard => True

structure Literal.WellFormed (l : Literal) : Prop where
  operand : l.operand.WellFormed
  modulus : ∀ modulus ∈ l.modulus, Short modulus

namespace Node

mutual

/-- Every literal in the node is well formed and every name is one. -/
def WellFormed : Node → Prop
  | literal l => l.WellFormed
  | expression name _ arguments => (Token.mk 0 name).isName = true ∧ WellFormedAll arguments

/-- All of some nodes are well formed. -/
def WellFormedAll : List Node → Prop
  | [] => True
  | node :: nodes => WellFormed node ∧ WellFormedAll nodes

end

theorem wellFormedAll_iff (nodes : List Node) :
    WellFormedAll nodes ↔ ∀ node ∈ nodes, node.WellFormed := by
  induction nodes with
  | nil => simp [WellFormedAll]
  | cons node nodes ih => rw [WellFormedAll, ih, List.forall_mem_cons]

end Node

namespace Reading.Endpoint

/-- What an end of a literal can be. -/
def WellFormed : Endpoint → Prop
  | number value => Short value
  | date value => value.Exists
  | weekday _ => True

theorem short_ordinal (day : Weekday) : Short day.ordinal ∧ IsDay day.ordinal := by
  have := day.ordinal_bounds
  unfold Short IsDay
  omega

theorem wellFormed_alone {e : Endpoint} (valid : e.WellFormed) : e.alone.WellFormed := by
  cases e with
  | number value => exact valid
  | date value => exact ⟨valid, valid⟩
  | weekday day =>
    obtain ⟨short, isDay⟩ := short_ordinal day
    exact ⟨short, short, .inl isDay⟩

theorem wellFormed_through {low high : Endpoint} (lowValid : low.WellFormed)
    (highValid : high.WellFormed) (kind : low.isDate = high.isDate) :
    (low.through high).WellFormed := by
  cases low with
  | number low =>
    cases high with
    | number high => exact ⟨lowValid, highValid⟩
    | date high => contradiction
    | weekday day => exact ⟨lowValid, (short_ordinal day).1, .inr (short_ordinal day).2⟩
  | date low =>
    cases high with
    | number high => contradiction
    | date high => exact ⟨lowValid, highValid⟩
    | weekday day => contradiction
  | weekday day =>
    cases high with
    | number high => exact ⟨(short_ordinal day).1, highValid, .inl (short_ordinal day).2⟩
    | date high => contradiction
    | weekday other =>
      exact ⟨(short_ordinal day).1, (short_ordinal other).1, .inl (short_ordinal day).2⟩

end Reading.Endpoint

namespace Grammar

open Reading (Endpoint)

theorem IsDigits.value_le {t : Token} (digits : IsDigits t) :
    Numeral.value t.value.toList ≤ 999999999 := by
  obtain ⟨number, short⟩ := digits
  simp only [Token.isNumber, Bool.and_eq_true, List.all_eq_true] at number
  exact Numeral.value_le number.2 short

theorem Signed.short {s : Signed} (valid : s.Valid) : Short s.value := by
  cases s with
  | plain digits =>
    have bound := IsDigits.value_le valid
    simp only [Short, value]
    omega
  | minus sign digits =>
    have bound := IsDigits.value_le valid.2
    simp only [Short, value]
    omega

theorem End.wellFormed {e : End} (valid : e.Valid) : e.value.WellFormed := by
  cases e with
  | weekday word day => trivial
  | number value => exact Signed.short valid
  | date month slash day => exact valid.2.2.2

theorem Form.wellFormed {f : Form} (valid : f.Valid) (bang : Option Token) :
    (f.literal bang).WellFormed := by
  cases f with
  | wildcard percent modulus =>
    refine ⟨trivial, fun value member => ?_⟩
    obtain ⟨part, present, rfl⟩ := Option.map_eq_some_iff.mp member
    exact Signed.short (valid.2 part present).2
  | ends low high modulus =>
    obtain ⟨lowValid, highValid, modulusValid⟩ := valid
    refine ⟨?_, fun value member => ?_⟩
    · cases high with
      | none => exact Endpoint.wellFormed_alone (End.wellFormed lowValid)
      | some part =>
        obtain ⟨_, valid, kind⟩ := highValid part rfl
        exact Endpoint.wellFormed_through (End.wellFormed lowValid) (End.wellFormed valid) kind
    · obtain ⟨part, present, rfl⟩ := Option.map_eq_some_iff.mp member
      exact Signed.short (modulusValid part present).2

theorem isName_of_value {name : Token} (named : name.isName = true) :
    (Token.mk 0 name.value).isName = true := by
  rw [← named]
  exact (Token.kinds_congr rfl).2.2.2

/-- The tree of a derivation is well formed. -/
theorem Arguments.wellFormed {a : Arguments} (valid : a.Valid) : Node.WellFormedAll a.tree := by
  induction a with
  | nil => trivial
  | literal bang form comma rest ih => exact ⟨Form.wellFormed valid.2.1 bang, ih valid.2.2.2⟩
  | nested name opening inner closing comma rest ihInner ihRest =>
    obtain ⟨named, _, inner, _, _, rest⟩ := valid
    exact ⟨⟨isName_of_value named, ihInner inner⟩, ihRest rest⟩

/-- Every expression that is read is well formed. -/
theorem wellFormed_of_document {maxDepth : Int} {ts : List Token} {es : List Expression}
    (success : Reading.document maxDepth ts = .ok es) :
    Node.WellFormedAll (es.map Expression.toNode) := by
  obtain ⟨_, d, derives, _, rfl⟩ := (Document.read_iff ..).mp success
  rw [Node.wellFormedAll_iff, Document.tree, List.map_map]
  intro node member
  obtain ⟨p, listed, rfl⟩ := List.mem_map.mp member
  obtain ⟨item, present, same⟩ := List.mem_filterMap.mp listed
  cases item with
  | comma mark => contradiction
  | phrase q =>
    cases same
    have valid : p.Valid := derives.valid _ present
    exact ⟨isName_of_value valid.name, Arguments.wellFormed valid.inner⟩

end Grammar

end Schedule
