import Mathlib.Data.List.TakeWhile
import Schedule.Proofs.Config.Problems
import Schedule.Proofs.Numeral

/-! # Integers that are given as texts

A text gives an integer setting a whole number if it is one, written with at most 18 digits and
padded with any blank space. Whatever else the text is, it is reported. Between the two stand the
texts that are padded with an information separator: blank space to the one who looks whether there
is a number, but not to the one who reads it.
-/

namespace Schedule

/-! ### Blank space at both ends -/

namespace Text

variable {text core : List Char}

/-- A text is some core with blank space before and behind. -/
def Padded (text core : List Char) : Prop :=
  ∃ before after, text = before ++ core ++ after ∧
    (∀ c ∈ before, isSpace c = true) ∧ ∀ c ∈ after, isSpace c = true

theorem padded_strip (text : List Char) : Padded text (strip text) := by
  refine ⟨text.takeWhile isSpace, ((text.dropWhile isSpace).reverse.takeWhile isSpace).reverse,
    ?_, fun c => List.mem_takeWhile_imp, fun c member => ?_⟩
  · rw [strip, List.append_assoc, ← List.reverse_append, List.takeWhile_append_dropWhile,
      List.reverse_reverse, List.takeWhile_append_dropWhile]
  · exact List.mem_takeWhile_imp (List.mem_reverse.mp member)

/-- Nothing but the blank space around it is taken from a core that neither begins nor ends with
some. -/
theorem strip_eq_of_padded (padded : Padded text core)
    (first : ∀ c ∈ core.head?, isSpace c = false) (last : ∀ c ∈ core.getLast?, isSpace c = false) :
    strip text = core := by
  obtain ⟨before, after, rfl, blank, blank'⟩ := padded
  have stops {cs : List Char} (first : ∀ c ∈ cs.head?, isSpace c = false) :
      cs.dropWhile isSpace = cs := by
    cases cs with
    | nil => rfl
    | cons c cs => rw [List.dropWhile_cons_of_neg (by simp [first c rfl])]
  cases core with
  | nil =>
    have all : (before ++ [] ++ after).dropWhile isSpace = [] := by
      rw [List.dropWhile_eq_nil_iff, List.append_nil]
      exact fun c member => (List.mem_append.mp member).elim (blank c) (blank' c)
    rw [strip, all]
    rfl
  | cons c cs =>
    have front : (c :: cs ++ after).dropWhile isSpace = c :: cs ++ after := stops first
    have back : (c :: cs).reverse.dropWhile isSpace = (c :: cs).reverse :=
      stops (by rwa [List.head?_reverse])
    rw [strip, List.append_assoc, List.dropWhile_append_of_pos blank, front, List.reverse_append,
      List.dropWhile_append_of_pos fun c member => blank' c (List.mem_reverse.mp member), back,
      List.reverse_reverse]

end Text

/-! ### Signs and digits -/

/-- The characters are a sign, if any, and 1 to 18 digits. -/
structure Signed (sign digits cs : List Char) : Prop where
  spelled : cs = sign ++ digits
  sign : sign ∈ [[], ['+'], ['-']]
  filled : digits ≠ []
  decimal : ∀ c ∈ digits, isDigit c = true
  short : digits.length ≤ 18

/-- The text is a whole number, with or without a sign, of 1 to 18 digits, and with blank space
before and behind. -/
def Writes (text : String) (number : Int) : Prop :=
  ∃ sign digits core, Text.Padded text.toList core ∧ Signed sign digits core ∧
    number = if sign = ['-'] then -(Numeral.value digits : Int) else Numeral.value digits

/-- The text has an information separator in it. -/
def HasSeparator (text : String) : Prop :=
  text.toList.any Text.isSeparator = true

variable {text : String} {number : Int} {sign digits core : List Char}

theorem isSpace_of_isDigit {c : Char} (digit : isDigit c = true) : Text.isSpace c = false := by
  obtain ⟨least, greatest⟩ := (isDigit_iff c).mp digit
  have same : c.toNat = c.val.toNat := rfl
  simp only [Text.isSpace, Bool.or_eq_false_iff, Bool.and_eq_false_iff, decide_eq_false_iff_not,
    beq_eq_false_iff_ne]
  omega

theorem Signed.strip_eq (signed : Signed sign digits core) (padded : Text.Padded text.toList core) :
    Text.strip text.toList = core := by
  obtain ⟨rfl, listed, filled, decimal, _⟩ := signed
  refine Text.strip_eq_of_padded padded (fun c member => ?_) fun c member => ?_
  · obtain ⟨digit, digits, rfl⟩ := List.exists_cons_of_ne_nil filled
    rw [List.forall_mem_cons] at decimal
    simp only [List.mem_cons, List.not_mem_nil, or_false] at listed
    rcases listed with rfl | rfl | rfl
    · cases member
      exact isSpace_of_isDigit decimal.1
    · cases member
      decide
    · cases member
      decide
  · rw [List.getLast?_append_of_ne_nil _ filled] at member
    exact isSpace_of_isDigit (decimal c (List.mem_of_getLast? member))

/-- The sign and the digits are taken apart. -/
theorem integerDigits?_eq_some_iff {negative : Bool} :
    integerDigits? text = some (negative, digits) ↔
      ∃ sign, Signed sign digits (Text.strip text.toList) ∧
        negative = decide (sign = ['-']) := by
  have some_iff (negative' : Bool) (digits' : List Char) :
      (if !digits'.isEmpty ∧ digits'.all isDigit ∧ digits'.length ≤ 18 then
        some (negative', digits') else none) = some (negative, digits) ↔
      (negative' = negative ∧ digits' = digits) ∧
        digits ≠ [] ∧ (∀ c ∈ digits, isDigit c = true) ∧ digits.length ≤ 18 := by
    rw [Option.ite_none_right_eq_some, Option.some.injEq, Prod.mk.injEq, and_comm]
    refine and_congr_right fun ⟨_, same⟩ => ?_
    rw [same]
    simp
  unfold integerDigits?
  generalize Text.strip text.toList = core
  constructor
  · intro read
    dsimp only at read
    split at read
    all_goals
      obtain ⟨⟨rfl, rfl⟩, filled, decimal, short⟩ := (some_iff _ _).mp read
    · exact ⟨['+'], ⟨rfl, by simp, filled, decimal, short⟩, by simp⟩
    · exact ⟨['-'], ⟨rfl, by simp, filled, decimal, short⟩, by simp⟩
    · exact ⟨[], ⟨rfl, by simp, filled, decimal, short⟩, by simp⟩
  · rintro ⟨sign, ⟨rfl, listed, filled, decimal, short⟩, rfl⟩
    simp only [List.mem_cons, List.not_mem_nil, or_false] at listed
    rcases listed with rfl | rfl | rfl
    · -- a digit is no sign
      obtain ⟨digit, digits, rfl⟩ := List.exists_cons_of_ne_nil filled
      have isDigit := decimal digit List.mem_cons_self
      rw [List.nil_append]
      dsimp only
      split
      · next same =>
        rw [(List.cons.inj same).1] at isDigit
        contradiction
      · next same =>
        rw [(List.cons.inj same).1] at isDigit
        contradiction
      · exact (some_iff _ _).mpr ⟨⟨rfl, rfl⟩, filled, decimal, short⟩
    · exact (some_iff _ _).mpr ⟨⟨rfl, rfl⟩, filled, decimal, short⟩
    · exact (some_iff _ _).mpr ⟨⟨rfl, rfl⟩, filled, decimal, short⟩

/-- The number between the blank space is told by its sign and its digits. -/
theorem writes_iff : Writes text number ↔
    ∃ negative digits, integerDigits? text = some (negative, digits) ∧
      number = if negative then -(Numeral.value digits : Int) else Numeral.value digits := by
  simp only [integerDigits?_eq_some_iff]
  constructor
  · rintro ⟨sign, digits, core, padded, signed, rfl⟩
    rw [← signed.strip_eq padded] at signed
    exact ⟨_, digits, ⟨sign, signed, rfl⟩, by simp⟩
  · rintro ⟨_, digits, ⟨sign, signed, rfl⟩, rfl⟩
    exact ⟨sign, digits, _, Text.padded_strip _, signed, by simp⟩

/-- A number of at most 18 digits can be written. -/
theorem Writes.isWritable (writes : Writes text number) : Numeral.isWritable number = true := by
  obtain ⟨sign, digits, core, _, signed, rfl⟩ := writes
  have bound := Numeral.value_lt signed.decimal
  have short : digits.length ≤ Numeral.longest := Nat.le_trans signed.short (by decide)
  have magnitude : (if sign = ['-'] then -(Numeral.value digits : Int)
      else Numeral.value digits).natAbs = Numeral.value digits := by
    split
    · rw [Int.natAbs_neg, Int.natAbs_natCast]
    · rw [Int.natAbs_natCast]
  unfold Numeral.isWritable
  rw [magnitude]
  -- the power is far too large to be looked at
  generalize Numeral.longest = most at short
  exact decide_eq_true (Nat.lt_of_lt_of_le bound (Nat.pow_le_pow_right (by decide) short))

namespace Value

theorem asInteger_of_writes (writes : Writes text number) (intact : ¬ HasSeparator text) :
    asInteger (.text text) = .ok (some number) := by
  obtain ⟨negative, digits, read, rfl⟩ := writes_iff.mp writes
  simp only [asInteger, read]
  exact if_neg intact

/-- What a text gives for an integer setting. -/
inductive IntegerOutcome (text : String) : Prop where
  | none (not : ∀ number, ¬ Writes text number) (outcome : asInteger (.text text) = .ok none)
  | number {number : Int} (writes : Writes text number) (intact : ¬ HasSeparator text)
      (outcome : asInteger (.text text) = .ok (some number))
  | separated {number : Int} (writes : Writes text number) (separated : HasSeparator text)
      (outcome : asInteger (.text text) = .error (.badNumeral 10 text))

theorem integerOutcome (text : String) : IntegerOutcome text := by
  cases read : integerDigits? text with
  | none =>
    refine .none (fun number writes => ?_) (by simp only [asInteger, read])
    obtain ⟨_, _, found, _⟩ := writes_iff.mp writes
    rw [read] at found
    contradiction
  | some signed =>
    obtain ⟨negative, digits⟩ := signed
    have writes : Writes text _ := writes_iff.mpr ⟨negative, digits, read, rfl⟩
    by_cases separated : HasSeparator text
    · exact .separated writes separated (by simp only [asInteger, read]; exact if_pos separated)
    · exact .number writes separated (asInteger_of_writes writes separated)

/-- An integer that is given by a value that can be written can be written. -/
theorem isWritable_of_asInteger {given : Value} (writable : given.isWritable = true)
    (success : given.asInteger = .ok (some number)) : Numeral.isWritable number = true := by
  cases given with
  | integer value =>
    cases success
    exact writable
  | text text =>
    cases integerOutcome text with
    | none not outcome =>
      rw [outcome] at success
      cases success
    | number writes intact outcome =>
      rw [outcome] at success
      cases success
      exact writes.isWritable
    | separated writes separated outcome =>
      rw [outcome] at success
      cases success
  | _ => cases success

/-- The value is a text, broken or not. -/
inductive IsText : Value → Prop where
  | text (value : String) : IsText (.text value)
  | broken (codes : List Nat) : IsText (.brokenText codes)

/-- The value is a text that writes the number, which no broken text does. -/
inductive Spells : Value → Int → Prop where
  | text {value : String} {n : Int} (writes : Writes value n) : Spells (.text value) n

/-- A text that writes no number is no integer. -/
theorem IsText.asInteger_of_not_spells {given : Value} (isText : given.IsText)
    (not : ∀ n, ¬ given.Spells n) : given.asInteger = .ok none := by
  cases isText with
  | broken codes => rfl
  | text value =>
    cases integerOutcome value with
    | none _ outcome => exact outcome
    | number writes => exact absurd (.text writes) (not _)
    | separated writes => exact absurd (.text writes) (not _)

end Value

/-! ### Merging -/

namespace Mapping

/-- Every number in the values that are given for settings is short enough to be written. -/
def Writable (entries : Mapping) : Prop :=
  ∀ setting given, entries.given? setting = some given → given.isWritable = true

/-- An integer setting is given as a number with an information separator among its blank space. -/
def Separated (entries : Mapping) : Prop :=
  ∃ setting text number, setting ≠ .logLevel ∧ entries.given? setting = some (.text text) ∧
    Writes text number ∧ HasSeparator text

/-- A single entry can only give its value. -/
theorem eq_of_given?_singleton {key value given : Value} {setting : Setting}
    (gives : given? [(key, value)] setting = some given) : given = value := by
  unfold given? find? at gives
  rw [List.find?_singleton] at gives
  split at gives
  · contradiction
  · split at gives
    · exact (Option.some.inj gives).symm
    · contradiction

end Mapping

namespace Setting

variable {setting : Setting} {given value : Value} {problem : Problem}

/-- A value that can be written can be reported, unless it is a number padded with separators. -/
theorem fault?_ne_none_iff (writable : given.isWritable = true) :
    setting.fault? given ≠ none ↔ setting ≠ .logLevel ∧
      ∃ text number, given = .text text ∧ Writes text number ∧ HasSeparator text := by
  by_cases level : setting = .logLevel
  · subst level
    simp [fault?, writable]
  · rw [fault?_number level]
    cases given with
    | text text =>
      simp only [ne_eq, level, not_false_eq_true, true_and, Value.text.injEq]
      cases Value.integerOutcome text with
      | none not outcome => simp [outcome, writable, not]
      | number writes intact outcome => simp [outcome, intact]
      | separated writes separated outcome =>
        simp only [outcome, reduceCtorEq, not_false_eq_true, true_iff]
        exact ⟨text, _, rfl, writes, separated⟩
    | _ => simp [Value.asInteger, writable]

theorem isWritable_of_outOfBounds? (writable : value.isWritable = true)
    (wrong : setting.outOfBounds? value = some problem) : problem.isWritable = true := by
  unfold outOfBounds? at wrong
  split at wrong
  · split_ifs at wrong <;> cases wrong <;> exact writable
  · split_ifs at wrong
    cases wrong
    rfl
  · contradiction
  · split_ifs at wrong
    cases wrong
    exact writable
  · contradiction

theorem isWritable_of_mismatch? (writable : given.isWritable = true)
    (wrong : setting.mismatch? given = some problem) : problem.isWritable = true := by
  unfold mismatch? at wrong
  split at wrong
  · cases wrong
    rfl
  · contradiction
  · split at wrong
    · contradiction
    · cases wrong
      exact writable

theorem isWritable_of_convert? (writable : given.isWritable = true)
    (converts : setting.convert? given = some value) : value.isWritable = true := by
  unfold convert? at converts
  split at converts
  · contradiction
  · split at converts
    · cases converts
      rfl
    · contradiction
  · split at converts
    · next number outcome =>
      cases converts
      exact Value.isWritable_of_asInteger writable outcome
    · contradiction

/-- Every complaint about a value that can be written can be written. -/
theorem isWritable_of_complaint? (writable : given.isWritable = true)
    (wrong : setting.complaint? given = some problem) : problem.isWritable = true := by
  rw [complaint?, Option.or_eq_some_iff] at wrong
  rcases wrong with mismatch | ⟨_, wrong⟩
  · exact isWritable_of_mismatch? writable mismatch
  · obtain ⟨value, converts, wrong⟩ := Option.bind_eq_some_iff.mp wrong
    exact isWritable_of_outOfBounds? (isWritable_of_convert? writable converts) wrong

end Setting

namespace Config

variable {config : Config} {entries : Mapping} {setting : Setting} {error : ConfigError}

theorem ofProblems_complaints (writable : entries.Writable) :
    ConfigError.ofProblems entries.complaints = .invalid entries.complaints := by
  rw [ConfigError.ofProblems, if_pos]
  rw [List.all_eq_true]
  intro problem listed
  obtain ⟨setting, _, wrong⟩ := List.mem_filterMap.mp listed
  obtain ⟨given, gives, wrong⟩ := Option.bind_eq_some_iff.mp wrong
  exact Setting.isWritable_of_complaint? (writable setting given gives) wrong

theorem reportable_of_not_separated (writable : entries.Writable) (intact : ¬ entries.Separated) :
    entries.Reportable := by
  intro setting given gives
  by_contra fault
  obtain ⟨number, text, value, rfl, writes, separated⟩ :=
    (Setting.fault?_ne_none_iff (writable setting given gives)).mp fault
  exact intact ⟨setting, text, value, number, gives, writes, separated⟩

theorem not_reportable_of_separated (separated : entries.Separated) : ¬ entries.Reportable := by
  obtain ⟨setting, text, value, number, gives, writes, separated⟩ := separated
  intro reportable
  exact (Setting.fault?_ne_none_iff rfl).mpr ⟨number, text, value, rfl, writes, separated⟩
    (reportable setting _ gives)

/-- A number that is padded with separators is no problem of the settings. -/
theorem exists_unusable (valid : config.Valid) (separated : entries.Separated) :
    ∃ fault, config.merge entries = .error (.unusable fault) := by
  have not := not_reportable_of_separated separated
  cases mergeOutcome valid entries with
  | faulty gives cause fails => exact ⟨_, fails⟩
  | kinds reportable => exact absurd reportable not
  | complaints reportable => exact absurd reportable not
  | merged reportable => exact absurd reportable not

/-- If merging fails, then because of the settings, unless a number is padded with separators. -/
theorem exists_invalid (valid : config.Valid) (writable : entries.Writable)
    (intact : ¬ entries.Separated) (failed : config.merge entries = .error error) :
    ∃ problems, error = .invalid problems := by
  have reportable := reportable_of_not_separated writable intact
  cases mergeOutcome valid entries with
  | faulty gives cause fails =>
    rw [reportable _ _ gives] at cause
    contradiction
  | kinds _ _ fails =>
    rw [fails] at failed
    cases failed
    exact ⟨_, rfl⟩
  | complaints _ _ _ fails =>
    rw [fails, ofProblems_complaints writable] at failed
    cases failed
    exact ⟨_, rfl⟩
  | merged _ _ success =>
    rw [success] at failed
    cases failed

/-- A value that is no integer is reported with the setting that it is given for. -/
theorem mem_problems_of_asInteger (valid : config.Valid) (writable : entries.Writable)
    (intact : ¬ entries.Separated) (number : setting ≠ .logLevel) {given : Value}
    (gives : entries.given? setting = some given) (outcome : given.asInteger = .ok none) :
    ∃ problems, config.merge entries = .error (.invalid problems) ∧
      .notInteger setting given ∈ problems := by
  have complains : setting.complaint? given = some (.notInteger setting given) := by
    rw [Setting.complaint?, Setting.mismatch?_number number, outcome]
    rfl
  have listed : .notInteger setting given ∈ entries.complaints :=
    List.mem_filterMap.mpr ⟨setting, setting.mem_all, by rw [gives]; exact complains⟩
  have kind : .notInteger setting given ∈ entries.complaints.filter Problem.isKind :=
    List.mem_filter.mpr ⟨listed, rfl⟩
  have reportable := reportable_of_not_separated writable intact
  cases mergeOutcome valid entries with
  | faulty gives cause fails =>
    rw [reportable _ _ gives] at cause
    contradiction
  | kinds _ _ fails => exact ⟨_, fails, kind⟩
  | complaints _ noKind =>
    rw [noKind] at kind
    contradiction
  | merged _ none =>
    rw [none] at listed
    contradiction

/-- A number that is given as a text is the same as the number itself. -/
theorem merge_eq_merge_put {n : Int} (number : setting ≠ .logLevel)
    (gives : entries.given? setting = some (.text text)) (writes : Writes text n)
    (intact : ¬ HasSeparator text) (config : Config) :
    config.merge entries = config.merge (entries.put (.text setting.key) (.integer n)) := by
  have absorbs : absorb entries = absorb (entries.put (.text setting.key) (.integer n)) := by
    funext state other
    by_cases same : other = setting
    · subst same
      rw [absorb_number number gives, absorb_number number (Mapping.given?_put_same entries rfl),
        Value.asInteger_of_writes writes intact]
      rfl
    · have differ : Value.text setting.key ≠ .text other.key := fun key =>
        same (Setting.key_injective (Value.text.inj key)).symm
      unfold absorb
      rw [Mapping.given?_put_other differ]
  rw [merge, merge, absorbs]

/-- Alone, a number that is given as a text only has to be within the bounds of its setting. -/
theorem merge_singleton {n : Int} (number : setting ≠ .logLevel) (writes : Writes text n)
    (intact : ¬ HasSeparator text) (config : Config) :
    config.merge [(.text setting.key, .text text)] = (config.withInteger setting n).check := by
  have gives : Mapping.given? [(.text setting.key, .text text)] setting = some (.text text) :=
    Mapping.given?_cons_same [] rfl
  have folded : Setting.all.foldlM (absorb [(.text setting.key, .text text)]) (config, []) =
      .ok (config.withInteger setting n, []) := by
    refine (foldlM_absorb_iff (by decide)).mpr ⟨rfl, fun other _ => ?_, fun other absent => ?_⟩
    · by_cases same : other = setting
      · subst same
        rw [resolve?_of_given gives, Setting.convert?_number number,
          Value.asInteger_of_writes writes intact, get_withInteger_same number]
      · have missing : Mapping.given? [(.text setting.key, .text text)] other = none :=
          Mapping.given?_cons_other fun key =>
            same (Setting.key_injective (Value.text.inj key)).symm
        rw [resolve?_of_none missing, get_withInteger_other same]
    · exact absurd other.mem_all absent
  rw [merge, folded]
  rfl

/-- What is given by the environment can be written. -/
theorem writable_environmentMapping (environment : List (String × String)) :
    (environmentMapping environment).Writable := by
  intro setting given gives
  rw [given?_environmentMapping, Option.map_eq_some_iff] at gives
  obtain ⟨text, _, rfl⟩ := gives
  rfl

/-- An integer setting that is given as a text is the integer that the text is, which then only has
to be within the bounds of the setting, or else it is reported by a message that names the setting.
Nothing else goes wrong unless a number is padded with separators: then nothing is reported. -/
theorem merge_text {setting : Setting} {given : Value} (valid : config.Valid)
    (writable : entries.Writable) (number : setting ≠ .logLevel) (isText : given.IsText)
    (gives : entries.given? setting = some given) :
    (¬ entries.Separated →
      (∀ n, given.Spells n →
        config.merge entries = config.merge (entries.put (.text setting.key) (.integer n)) ∧
        config.merge [(.text setting.key, given)] = (config.withInteger setting n).check) ∧
      ((∀ n, ¬ given.Spells n) → ∃ problems, config.merge entries = .error (.invalid problems) ∧
        ∃ problem ∈ problems, problem = .notInteger setting given ∧
          ∃ rest, problem.message = setting.key ++ rest) ∧
      ∀ error, config.merge entries = .error error → ∃ problems, error = .invalid problems) ∧
    (entries.Separated → ∃ fault, config.merge entries = .error (.unusable fault)) ∧
    ∀ environment, ¬ (environmentMapping environment).Separated → ∀ error,
      ofEnvironment environment = .error error → ∃ problems, error = .invalid problems := by
  refine ⟨fun intact => ⟨?_, fun not => ?_, fun _ => exists_invalid valid writable intact⟩,
    exists_unusable valid, fun environment intact _ => exists_invalid valid_default
      (writable_environmentMapping environment) intact⟩
  · rintro n ⟨writes⟩
    have intact : ¬ HasSeparator _ := fun separator =>
      intact ⟨setting, _, n, number, gives, writes, separator⟩
    exact ⟨merge_eq_merge_put number gives writes intact config,
      merge_singleton number writes intact config⟩
  · obtain ⟨problems, fails, listed⟩ := mem_problems_of_asInteger valid writable intact number gives
      (isText.asInteger_of_not_spells not)
    exact ⟨problems, fails, _, listed, rfl, Problem.message_eq _⟩

/-- A depth with a sign, between a tab and a line break. -/
theorem merge_text_signed :
    let text := "\t+12\n"
    let entries : Mapping := [(.text "max_depth", .text text)]
    Valid {} ∧ entries.Writable ∧ entries.given? .maxDepth = some (.text text) ∧
      ¬ entries.Separated ∧ Writes text 12 ∧ merge {} entries = .ok { maxDepth := 12 } := by
  intro text entries
  have gives : entries.given? .maxDepth = some (.text text) := rfl
  have writable : entries.Writable := by
    intro setting given found
    rw [Mapping.eq_of_given?_singleton found]
    rfl
  have intact : ¬ entries.Separated := by
    rintro ⟨setting, other, _, _, found, _, separator⟩
    rw [Value.text.inj (Mapping.eq_of_given?_singleton found)] at separator
    revert separator
    unfold HasSeparator
    decide +kernel
  have writes : Writes text 12 := ⟨['+'], ['1', '2'], ['+', '1', '2'],
    ⟨['\t'], ['\n'], by decide +kernel, List.all_eq_true.mp rfl, List.all_eq_true.mp rfl⟩,
    ⟨rfl, by decide, by decide, List.all_eq_true.mp rfl, by decide⟩, by decide +kernel⟩
  have merges :=
    ((merge_text valid_default writable (by decide) (.text text) gives).1 intact).1 12
      (.text writes)
  exact ⟨valid_default, writable, gives, intact, writes, merges.2⟩

/-- A depth after a separator is a number with blank space before it, but is not read as one. -/
theorem merge_separator :
    let text := "\x1c5"
    let entries : Mapping := [(.text "max_depth", .text text)]
    Writes text 5 ∧ merge {} entries = .error (.unusable (.badNumeral 10 text)) := by
  intro text entries
  have writes : Writes text 5 := ⟨[], ['5'], ['5'],
    ⟨['\x1c'], [], by decide +kernel, List.all_eq_true.mp rfl, List.all_eq_true.mp rfl⟩,
    ⟨rfl, by decide, by decide, List.all_eq_true.mp rfl, by decide⟩, by decide +kernel⟩
  refine ⟨writes, ?_⟩
  have digits : integerDigits? text = some (false, ['5']) := by decide +kernel
  have outcome : (Value.text text).asInteger = .error (.badNumeral 10 text) := by
    simp only [Value.asInteger, digits]
    exact if_pos (by decide +kernel)
  have gives : entries.given? .maxDepth = some (.text text) := rfl
  rw [merge, Setting.all, List.foldlM_cons, absorb_number (by decide) gives, outcome]
  rfl

end Config

end Schedule
