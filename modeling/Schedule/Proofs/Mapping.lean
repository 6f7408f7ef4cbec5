import Mathlib.Tactic.Common
import Schedule.Config

/-! # Mappings as what they give

A setting looks up its key, which is a text. What is said under other keys, and what is there but
says nothing, cannot be told from a mapping without it. Laying one mapping over another gives what
the upper one gives and, where it gives nothing, what the lower one does.
-/

namespace Schedule

namespace Value

/-- The value says nothing. -/
def isNull : Value → Bool
  | null => true
  | _ => false

/-- The key of a setting is no other key. -/
theorem sameKey_text_iff {a : Value} {t : String} : a.sameKey (.text t) = true ↔ a = .text t := by
  cases a <;> simp [sameKey, whole?]

theorem text_sameKey_iff {a : Value} {t : String} :
    (Value.text t).sameKey a = true ↔ a = .text t := by
  cases a with
  | text s =>
    rw [sameKey, beq_iff_eq, text.injEq]
    exact eq_comm
  | _ => simp [sameKey, whole?]

end Value

namespace Mapping

variable {entries below above : Mapping} {entry : Value × Value} {t : String} {setting : Setting}

/-- No key is there twice. -/
def Distinct (entries : Mapping) : Prop :=
  entries.Pairwise fun entry later => entry.1.sameKey later.1 = false

instance (entries : Mapping) : Decidable entries.Distinct :=
  inferInstanceAs (Decidable (List.Pairwise _ _))

/-- The key is that of a setting. -/
def isKnown (key : Value) : Bool :=
  Setting.all.any fun setting => key.sameKey (.text setting.key)

/-- The entry gives a setting something. -/
def counts (entry : Value × Value) : Bool :=
  isKnown entry.1 && !entry.2.isNull

/-- The mapping with the entries of another that are not null put over its own. -/
def overlay (below above : Mapping) : Mapping :=
  (above.filter fun entry => !entry.2.isNull).foldl
    (fun entries entry => entries.put entry.1 entry.2) below

/-! ### Looking up -/

theorem find?_cons_same (entries : Mapping) (value : Value) :
    find? ((.text t, value) :: entries) (.text t) = some value := by
  simp [find?, Value.sameKey_text_iff]

theorem find?_cons_other (other : entry.1 ≠ .text t) :
    find? (entry :: entries) (.text t) = find? entries (.text t) := by
  have skips : entry.1.sameKey (.text t) = false := by
    rw [← Bool.not_eq_true, Value.sameKey_text_iff]
    exact other
  simp [find?, skips]

theorem find?_eq_none (missing : ∀ entry ∈ entries, entry.1 ≠ .text t) :
    find? entries (.text t) = none := by
  induction entries with
  | nil => rfl
  | cons entry entries ih =>
    rw [List.forall_mem_cons] at missing
    rw [find?_cons_other missing.1, ih missing.2]

theorem find?_put_same (entries : Mapping) (value : Value) :
    (entries.put (.text t) value).find? (.text t) = some value := by
  induction entries with
  | nil => exact find?_cons_same [] value
  | cons entry entries ih =>
    rw [put]
    split
    · next same =>
      rw [Value.sameKey_text_iff] at same
      rw [same, find?_cons_same]
    · next other =>
      rw [Value.sameKey_text_iff] at other
      rw [find?_cons_other other, ih]

theorem find?_put_other {key : Value} (other : key ≠ .text t) (entries : Mapping)
    (value : Value) : (entries.put key value).find? (.text t) = entries.find? (.text t) := by
  induction entries with
  | nil => exact find?_cons_other other
  | cons entry entries ih =>
    rw [put]
    split
    · next same =>
      -- an entry that keeps its own key has not the key looked for either
      have different : entry.1 ≠ .text t := by
        intro key
        rw [key, Value.text_sameKey_iff] at same
        exact other same
      rw [find?_cons_other different]
      exact find?_cons_other different
    · by_cases key : entry.1 = .text t
      · obtain ⟨_, content⟩ := entry
        dsimp only at key
        rw [key, find?_cons_same, find?_cons_same]
      · rw [find?_cons_other key, find?_cons_other key, ih]

/-- Behind an entry of a mapping its key does not come again. -/
theorem Distinct.missing (distinct : Distinct (entry :: entries)) (key : entry.1 = .text t) :
    ∀ later ∈ entries, later.1 ≠ .text t := by
  intro later member same
  have differ := (List.pairwise_cons.mp distinct).1 later member
  rw [← Bool.not_eq_true, key, Value.text_sameKey_iff] at differ
  exact differ same

/-! ### What is given -/

theorem given?_of_find? (found : entries.find? (.text setting.key) = none) :
    entries.given? setting = none := by
  rw [given?, found]

theorem given?_cons_same {value : Value} (entries : Mapping) (speaks : value.isNull = false) :
    given? ((.text setting.key, value) :: entries) setting = some value := by
  rw [given?, find?_cons_same]
  cases value <;> first | rfl | contradiction

theorem given?_cons_null (entries : Mapping) :
    given? ((.text setting.key, .null) :: entries) setting = none := by
  rw [given?, find?_cons_same]

theorem given?_cons_other (other : entry.1 ≠ .text setting.key) :
    given? (entry :: entries) setting = given? entries setting := by
  rw [given?, given?, find?_cons_other other]

theorem eq_null_of_isNull {value : Value} (void : value.isNull = true) : value = .null := by
  cases value <;> first | rfl | contradiction

theorem isKnown_key (setting : Setting) : isKnown (.text setting.key) = true := by
  cases setting <;> decide

/-- Entries that give no setting anything do not count. -/
theorem given?_filter_counts (distinct : entries.Distinct) (setting : Setting) :
    given? (entries.filter counts) setting = given? entries setting := by
  induction entries with
  | nil => rfl
  | cons entry entries ih =>
    have rest := ih (List.pairwise_cons.mp distinct).2
    by_cases key : entry.1 = .text setting.key
    · obtain ⟨_, content⟩ := entry
      dsimp only at key
      subst key
      by_cases void : content.isNull = true
      · have later : ∀ later ∈ entries.filter counts, later.1 ≠ .text setting.key :=
          fun later member => distinct.missing rfl later (List.mem_filter.mp member).1
        rw [List.filter_cons_of_neg (by simp [counts, void]), eq_null_of_isNull void,
          given?_cons_null, given?_of_find? (find?_eq_none later)]
      · rw [Bool.not_eq_true] at void
        rw [List.filter_cons_of_pos (by simp [counts, void, isKnown_key]), given?_cons_same _ void,
          given?_cons_same _ void]
    · rw [given?_cons_other key, ← rest, List.filter_cons]
      split
      · rw [given?_cons_other key]
      · rfl

theorem given?_put_same {value : Value} (entries : Mapping) (speaks : value.isNull = false) :
    given? (entries.put (.text setting.key) value) setting = some value := by
  rw [given?, find?_put_same]
  cases value <;> first | rfl | contradiction

theorem given?_put_other {key : Value} (other : key ≠ .text setting.key) (entries : Mapping)
    (value : Value) : given? (entries.put key value) setting = given? entries setting := by
  rw [given?, given?, find?_put_other other]

theorem overlay_cons (below above : Mapping) (entry : Value × Value) :
    overlay below (entry :: above) =
      overlay (if entry.2.isNull then below else below.put entry.1 entry.2) above := by
  unfold overlay
  rw [List.filter_cons]
  cases entry.2.isNull <;> rfl

/-- A mapping that does not have the key of a setting leaves it what it was. -/
theorem given?_overlay_of_missing (missing : ∀ entry ∈ above, entry.1 ≠ .text setting.key) :
    given? (overlay below above) setting = given? below setting := by
  induction above generalizing below with
  | nil => rfl
  | cons entry above ih =>
    rw [List.forall_mem_cons] at missing
    rw [overlay_cons, ih missing.2]
    split
    · rfl
    · exact given?_put_other missing.1 below entry.2

/-- What the upper mapping gives comes before what the lower one gives. -/
theorem given?_overlay (distinct : above.Distinct) (below : Mapping) (setting : Setting) :
    given? (overlay below above) setting = (given? above setting).or (given? below setting) := by
  induction above generalizing below with
  | nil => rfl
  | cons entry above ih =>
    rw [overlay_cons]
    by_cases key : entry.1 = .text setting.key
    · rw [given?_overlay_of_missing (distinct.missing key)]
      obtain ⟨_, content⟩ := entry
      dsimp only at key ⊢
      subst key
      split
      · next void => rw [eq_null_of_isNull void, given?_cons_null, Option.none_or]
      · next speaks =>
        rw [Bool.not_eq_true] at speaks
        rw [given?_put_same below speaks, given?_cons_same above speaks, Option.some_or]
    · rw [ih (List.pairwise_cons.mp distinct).2, given?_cons_other key]
      split
      · rfl
      · rw [given?_put_other key]

end Mapping

end Schedule
