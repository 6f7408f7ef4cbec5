import Schedule.Proofs.Mapping
import Schedule.Proofs.Outcome

/-! # Merging mappings into a configuration

Merging gives every setting the value that the mapping gives for it, converted, and leaves it as it
is if the mapping gives none. It fails as a whole if a value cannot be converted or the settings
are not valid together, and then the configuration stays what it was. So after any number of
mappings a setting has the last value that was given for it by a mapping that was not rejected.
-/

namespace Schedule

namespace Setting

variable {setting : Setting} {given : Value}

theorem mem_all (setting : Setting) : setting ∈ all := by
  cases setting <;> decide

/-- What a setting makes of a value that is given for it, if it can: a whole number, or a text for
the level of the log. -/
def convert? (setting : Setting) (given : Value) : Option Value :=
  match given, setting with
  | .brokenText _, .logLevel => none
  | given, .logLevel => if given.isWritable then some (.text given.asText) else none
  | given, _ =>
    match given.asInteger with
    | .ok (some number) => some (.integer number)
    | _ => none

theorem convert?_level (intact : ∀ codes, given ≠ .brokenText codes) :
    convert? .logLevel given =
      if given.isWritable then some (.text given.asText) else none := by
  unfold convert?
  cases given <;> first | rfl | exact absurd rfl (intact _)

theorem convert?_number (number : setting ≠ .logLevel) :
    setting.convert? given =
      match given.asInteger with
      | .ok (some number) => some (.integer number)
      | _ => none := by
  unfold convert?
  cases setting <;> first | contradiction | cases given <;> rfl

/-- What is wrong with a value that is given for a setting, if the setting cannot be such a value at
all. -/
def mismatch? (setting : Setting) (given : Value) : Option Problem :=
  match given, setting with
  | .brokenText codes, .logLevel => some (.brokenLevel codes)
  | _, .logLevel => none
  | given, setting =>
    match given.asInteger with
    | .ok (some _) => none
    | _ => some (.notInteger setting given)

/-- Why a value that is given for a setting cannot even be reported to be wrong, if so. -/
def fault? (setting : Setting) (given : Value) : Option ValueFault :=
  match setting with
  | .logLevel => if given.isWritable then none else some .unwritable
  | _ =>
    match given.asInteger with
    | .error fault => some fault
    | .ok none => if given.isWritable then none else some .unwritable
    | .ok (some _) => none

theorem mismatch?_number (number : setting ≠ .logLevel) :
    setting.mismatch? given =
      match given.asInteger with
      | .ok (some _) => none
      | _ => some (.notInteger setting given) := by
  unfold mismatch?
  cases setting <;> first | contradiction | cases given <;> rfl

theorem mismatch?_level (intact : ∀ codes, given ≠ .brokenText codes) :
    mismatch? .logLevel given = none := by
  unfold mismatch?
  cases given <;> first | rfl | exact absurd rfl (intact _)

theorem fault?_number (number : setting ≠ .logLevel) :
    setting.fault? given =
      match given.asInteger with
      | .error fault => some fault
      | .ok none => if given.isWritable then none else some .unwritable
      | .ok (some _) => none := by
  cases setting <;> first | contradiction | rfl

/-- A value that is given for a setting cannot be reported, or the setting cannot be such a value,
or the value is converted. -/
inductive Taken (setting : Setting) (given : Value) : Prop where
  | faulty {fault : ValueFault} (cause : setting.fault? given = some fault)
      (none : setting.convert? given = none)
  | mismatched {problem : Problem} (reportable : setting.fault? given = none)
      (mismatch : setting.mismatch? given = some problem) (none : setting.convert? given = none)
  | converted {value : Value} (reportable : setting.fault? given = none)
      (fits : setting.mismatch? given = none) (converts : setting.convert? given = some value)

theorem taken (setting : Setting) (given : Value) : Taken setting given := by
  by_cases level : setting = .logLevel
  · subst level
    by_cases broken : ∃ codes, given = .brokenText codes
    · obtain ⟨codes, rfl⟩ := broken
      exact .mismatched rfl rfl rfl
    · rw [not_exists] at broken
      have converts := convert?_level broken
      split at converts
      · next writable => exact .converted (if_pos writable) (mismatch?_level broken) converts
      · next unwritable => exact .faulty (if_neg unwritable) converts
  · have faults := @fault?_number _ given level
    have mismatch := @mismatch?_number _ given level
    have converts := @convert?_number _ given level
    rcases outcome : given.asInteger with fault | (_ | number)
    · rw [outcome] at faults converts
      exact .faulty faults converts
    · rw [outcome] at faults mismatch converts
      dsimp only at faults
      split at faults
      · exact .mismatched faults mismatch converts
      · exact .faulty faults converts
    · rw [outcome] at faults mismatch converts
      exact .converted faults mismatch converts

/-- What is converted can be reported and is such a value as the setting has. -/
theorem of_convert? {value : Value} (converts : setting.convert? given = some value) :
    setting.fault? given = none ∧ setting.mismatch? given = none := by
  cases setting.taken given with
  | faulty _ none =>
    rw [none] at converts
    contradiction
  | mismatched _ _ none =>
    rw [none] at converts
    contradiction
  | converted reportable fits => exact ⟨reportable, fits⟩

theorem exists_mismatch? (reportable : setting.fault? given = none)
    (none : setting.convert? given = none) : ∃ problem, setting.mismatch? given = some problem := by
  cases setting.taken given with
  | faulty cause =>
    rw [reportable] at cause
    contradiction
  | mismatched _ mismatch => exact ⟨_, mismatch⟩
  | converted _ _ converts =>
    rw [none] at converts
    contradiction

theorem exists_convert? (reportable : setting.fault? given = none)
    (fits : setting.mismatch? given = none) : ∃ value, setting.convert? given = some value := by
  rw [← Option.ne_none_iff_exists']
  intro none
  obtain ⟨problem, mismatch⟩ := exists_mismatch? reportable none
  rw [fits] at mismatch
  contradiction

end Setting

namespace Config

variable {config merged : Config} {entries : Mapping} {setting : Setting} {found : List Problem}

/-- The value of a setting. -/
def get (config : Config) : Setting → Value
  | .maxDepth => .integer config.maxDepth
  | .contextBefore => .integer config.contextBefore
  | .contextAfter => .integer config.contextAfter
  | .logLevel => .text config.logLevel

/-- Configurations that agree on every setting are equal. -/
theorem ext_get {a b : Config} (same : ∀ setting, a.get setting = b.get setting) : a = b := by
  cases a
  cases b
  rw [Config.mk.injEq]
  exact ⟨Value.integer.inj (same .maxDepth), Value.integer.inj (same .contextBefore),
    Value.integer.inj (same .contextAfter), Value.text.inj (same .logLevel)⟩

/-- The settings are within their bounds. -/
structure Valid (config : Config) : Prop where
  shallowest : 1 ≤ config.maxDepth
  deepest : config.maxDepth ≤ 256
  before : 0 ≤ config.contextBefore
  after : 0 ≤ config.contextAfter
  level : Text.upper config.logLevel ∈ ["DEBUG", "INFO", "WARNING", "ERROR", "CRITICAL"]

theorem problems_eq_nil_iff : config.problems = [] ↔ config.Valid := by
  have depth : (if config.maxDepth < 1 then [Problem.tooShallow config.maxDepth]
      else if greatestDepth < config.maxDepth then [.tooDeep config.maxDepth] else []) = [] ↔
      1 ≤ config.maxDepth ∧ config.maxDepth ≤ 256 := by
    unfold greatestDepth
    split
    · simp only [reduceCtorEq, false_iff]
      omega
    · split
      · simp only [reduceCtorEq, false_iff]
        omega
      · simp only [true_iff]
        omega
  simp only [problems, List.append_eq_nil_iff, depth, ite_eq_left_iff, ite_eq_right_iff,
    reduceCtorEq, imp_false, Int.not_lt, Decidable.not_not, List.contains_iff_mem]
  constructor
  · rintro ⟨⟨⟨⟨shallowest, deepest⟩, before⟩, after⟩, level⟩
    exact ⟨shallowest, deepest, before, after, level⟩
  · rintro ⟨shallowest, deepest, before, after, level⟩
    exact ⟨⟨⟨⟨shallowest, deepest⟩, before⟩, after⟩, level⟩

/-- The value that a setting has after a mapping was merged, if it can be converted. -/
def resolve? (config : Config) (entries : Mapping) (setting : Setting) : Option Value :=
  match entries.given? setting with
  | some given => setting.convert? given
  | none => some (config.get setting)

theorem resolve?_of_none (missing : entries.given? setting = none) :
    config.resolve? entries setting = some (config.get setting) := by
  rw [resolve?, missing]

theorem resolve?_of_given {value : Value} (given : entries.given? setting = some value) :
    config.resolve? entries setting = setting.convert? value := by
  rw [resolve?, given]

theorem resolve?_congr {other : Config} (same : other.get setting = config.get setting) :
    other.resolve? entries setting = config.resolve? entries setting := by
  rw [resolve?, resolve?, same]

/-! ### One setting -/

theorem get_withInteger_same (number : setting ≠ .logLevel) (config : Config) (value : Int) :
    (config.withInteger setting value).get setting = .integer value := by
  cases setting <;> first | rfl | contradiction

theorem get_withInteger_other {other : Setting} (differ : other ≠ setting) (config : Config)
    (value : Int) : (config.withInteger setting value).get other = config.get other := by
  cases setting <;> cases other <;> first | rfl | contradiction

theorem get_level_other {other : Setting} (differ : other ≠ .logLevel) (config : Config)
    (level : String) : get { config with logLevel := level } other = config.get other := by
  cases other <;> first | rfl | contradiction

theorem absorb_of_none (missing : entries.given? setting = none)
    (state : Config × List Problem) : absorb entries state setting = .ok state := by
  unfold absorb
  rw [missing]

theorem absorb_level_broken {codes : List Nat}
    (given : entries.given? .logLevel = some (.brokenText codes))
    (state : Config × List Problem) :
    absorb entries state .logLevel = .ok (state.1, state.2 ++ [.brokenLevel codes]) := by
  unfold absorb
  rw [given]

theorem absorb_level {value : Value} (given : entries.given? .logLevel = some value)
    (intact : ∀ codes, value ≠ .brokenText codes) (state : Config × List Problem) :
    absorb entries state .logLevel =
      if value.isWritable then .ok ({ state.1 with logLevel := value.asText }, state.2)
      else .error (.unusable .unwritable) := by
  unfold absorb
  rw [given]
  cases value <;> first | rfl | exact absurd rfl (intact _)

theorem absorb_number {value : Value} (number : setting ≠ .logLevel)
    (given : entries.given? setting = some value) (state : Config × List Problem) :
    absorb entries state setting =
      match value.asInteger with
      | .error fault => .error (.unusable fault)
      | .ok none =>
        if value.isWritable then .ok (state.1, state.2 ++ [.notInteger setting value])
        else .error (.unusable .unwritable)
      | .ok (some number) => .ok (state.1.withInteger setting number, state.2) := by
  unfold absorb
  rw [given]
  cases setting <;> first | contradiction | cases value <;> rfl

/-- Looking at one setting fails if its value cannot be reported. Otherwise it is noted if the
setting cannot be such a value, and the setting is replaced by what it resolves to. -/
theorem absorb_outcome (config : Config) (found : List Problem) (entries : Mapping)
    (setting : Setting) :
    (∃ given fault, entries.given? setting = some given ∧ setting.fault? given = some fault ∧
      absorb entries (config, found) setting = .error (.unusable fault)) ∨
    ((∀ given, entries.given? setting = some given → setting.fault? given = none) ∧
      ∃ next, absorb entries (config, found) setting =
          .ok (next, found ++ ((entries.given? setting).bind setting.mismatch?).toList) ∧
        next.get setting = (config.resolve? entries setting).getD (config.get setting) ∧
        ∀ other ≠ setting, next.get other = config.get other) := by
  cases given : entries.given? setting with
  | none =>
    refine .inr ⟨by simp, config, ?_, ?_, fun _ _ => rfl⟩
    · rw [absorb_of_none given, Option.bind_none, Option.toList_none, List.append_nil]
    · rw [resolve?_of_none given, Option.getD_some]
  | some value =>
    rw [resolve?_of_given given, Option.bind_some]
    by_cases level : setting = .logLevel
    · subst level
      by_cases broken : ∃ codes, value = .brokenText codes
      · obtain ⟨codes, rfl⟩ := broken
        exact .inr ⟨by rintro _ ⟨⟩; rfl, config, absorb_level_broken given _, rfl, fun _ _ => rfl⟩
      · rw [not_exists] at broken
        rw [absorb_level given broken, Setting.convert?_level broken,
          Setting.mismatch?_level broken, Option.toList_none, List.append_nil]
        split
        · next writable =>
          exact .inr ⟨by rintro _ ⟨⟩; exact if_pos writable, _, rfl, rfl,
            fun _ differ => get_level_other differ config _⟩
        · next unwritable => exact .inl ⟨value, .unwritable, rfl, if_neg unwritable, rfl⟩
    · rw [absorb_number level given, Setting.convert?_number level,
        Setting.mismatch?_number level]
      have faults : setting.fault? value = _ := Setting.fault?_number level
      generalize value.asInteger = outcome at faults ⊢
      rcases outcome with fault | (_ | number)
      · exact .inl ⟨value, fault, rfl, faults, rfl⟩
      · dsimp only at faults ⊢
        split at faults
        · next writable =>
          rw [if_pos writable]
          exact .inr ⟨by rintro _ ⟨⟩; exact faults, config, rfl, rfl, fun _ _ => rfl⟩
        · next unwritable =>
          rw [if_neg unwritable]
          exact .inl ⟨value, .unwritable, rfl, faults, rfl⟩
      · refine .inr ⟨by rintro _ ⟨⟩; exact faults, config.withInteger setting number, by simp,
          ?_, fun _ differ => ?_⟩
        · exact get_withInteger_same level config number
        · exact get_withInteger_other differ config number

/-- If nothing is wrong after a setting was looked at, then nothing was before, and the setting
alone is replaced by what it resolves to. -/
theorem of_absorb (success : absorb entries (config, found) setting = .ok (merged, [])) :
    found = [] ∧ config.resolve? entries setting = some (merged.get setting) ∧
      ∀ other ≠ setting, merged.get other = config.get other := by
  rcases absorb_outcome config found entries setting with
    ⟨_, _, _, _, fails⟩ | ⟨reportable, next, absorbed, same, others⟩
  · rw [fails] at success
    cases success
  · rw [absorbed, Except.ok.injEq, Prod.mk.injEq, List.append_eq_nil_iff,
      Option.toList_eq_nil_iff] at success
    obtain ⟨rfl, rfl, fits⟩ := success
    refine ⟨rfl, ?_, others⟩
    cases gives : entries.given? setting with
    | none =>
      rw [resolve?_of_none gives] at same ⊢
      rw [same, Option.getD_some]
    | some given =>
      rw [gives, Option.bind_some] at fits
      rw [resolve?_of_given gives] at same ⊢
      obtain ⟨value, converts⟩ := Setting.exists_convert? (reportable given gives) fits
      rw [same, converts, Option.getD_some]

theorem absorb_of_resolve? {value : Value}
    (resolved : config.resolve? entries setting = some value) :
    ∃ merged, absorb entries (config, []) setting = .ok (merged, []) ∧
      merged.get setting = value ∧ ∀ other ≠ setting, merged.get other = config.get other := by
  rcases absorb_outcome config [] entries setting with
    ⟨given, fault, gives, cause, _⟩ | ⟨_, next, absorbed, same, others⟩
  · rw [resolve?_of_given gives] at resolved
    rw [(Setting.of_convert? resolved).1] at cause
    contradiction
  · have fits : (entries.given? setting).bind setting.mismatch? = none := by
      cases gives : entries.given? setting with
      | none => rfl
      | some given =>
        rw [resolve?_of_given gives] at resolved
        exact (Setting.of_convert? resolved).2
    rw [fits] at absorbed
    exact ⟨next, absorbed, by rw [same, resolved, Option.getD_some], others⟩

/-! ### All settings -/

/-- Nothing is found wrong with some settings exactly if all of them resolve. -/
theorem foldlM_absorb_iff {settings : List Setting} (distinct : settings.Nodup) :
    settings.foldlM (absorb entries) (config, found) = .ok (merged, []) ↔
      found = [] ∧
        (∀ setting ∈ settings,
          config.resolve? entries setting = some (merged.get setting)) ∧
        ∀ setting ∉ settings, merged.get setting = config.get setting := by
  induction settings generalizing config found with
  | nil =>
    simp only [List.foldlM_nil, pure, Except.pure, Except.ok.injEq, Prod.mk.injEq,
      List.not_mem_nil, false_imp_iff, implies_true, not_false_eq_true, true_imp_iff, true_and]
    constructor
    · rintro ⟨rfl, rfl⟩
      exact ⟨rfl, fun _ => rfl⟩
    · rintro ⟨rfl, same⟩
      exact ⟨ext_get fun setting => (same setting).symm, rfl⟩
  | cons setting settings ih =>
    obtain ⟨fresh, distinct⟩ := List.nodup_cons.mp distinct
    rw [List.foldlM_cons, bind_eq_ok_iff, List.forall_mem_cons]
    constructor
    · rintro ⟨⟨next, found'⟩, first, rest⟩
      obtain ⟨rfl, resolved, same⟩ := (ih distinct).mp rest
      obtain ⟨rfl, resolved', same'⟩ := of_absorb first
      refine ⟨rfl, ⟨by rw [resolved', same setting fresh], fun other member => ?_⟩,
        fun other absent => ?_⟩
      · have differ : other ≠ setting := fun equal => fresh (equal ▸ member)
        rw [← resolved other member, resolve?_congr (same' other differ)]
      · rw [List.mem_cons, not_or] at absent
        rw [same other absent.2, same' other absent.1]
    · rintro ⟨rfl, ⟨resolved, resolves⟩, same⟩
      obtain ⟨next, first, value, same'⟩ := absorb_of_resolve? resolved
      refine ⟨(next, []), first, (ih distinct).mpr ⟨rfl, fun other member => ?_,
        fun other absent => ?_⟩⟩
      · have differ : other ≠ setting := fun equal => fresh (equal ▸ member)
        rw [resolve?_congr (same' other differ), resolves other member]
      · by_cases equal : other = setting
        · rw [equal, value]
        · rw [same' other equal, same other (by simp [equal, absent])]

theorem settle_eq_ok_iff :
    config.settle found = .ok merged ↔ config = merged ∧ merged.Valid ∧ found = [] := by
  rw [← problems_eq_nil_iff, settle]
  split
  · next nothing =>
    rw [List.append_eq_nil_iff] at nothing
    rw [Except.ok.injEq]
    constructor
    · rintro rfl
      exact ⟨rfl, nothing⟩
    · exact fun same => same.1
  · next something =>
    simp only [reduceCtorEq, false_iff]
    rintro ⟨rfl, nothing, nothing'⟩
    exact something (List.append_eq_nil_iff.mpr ⟨nothing, nothing'⟩)

/-- Merging succeeds exactly if every setting resolves and the result is valid. -/
theorem merge_eq_ok_iff :
    config.merge entries = .ok merged ↔
      merged.Valid ∧ ∀ setting, config.resolve? entries setting = some (merged.get setting) := by
  have resolves : Setting.all.foldlM (absorb entries) (config, []) = .ok (merged, []) ↔
      ∀ setting, config.resolve? entries setting = some (merged.get setting) := by
    rw [foldlM_absorb_iff (by decide)]
    constructor
    · exact fun resolves setting => resolves.2.1 setting setting.mem_all
    · exact fun resolves => ⟨rfl, fun setting _ => resolves setting,
        fun setting absent => absurd setting.mem_all absent⟩
  rw [merge, bind_eq_ok_iff, ← resolves]
  constructor
  · rintro ⟨⟨config', found⟩, folded, settled⟩
    dsimp only at settled
    split at settled
    · obtain ⟨rfl, valid, rfl⟩ := settle_eq_ok_iff.mp settled
      exact ⟨valid, folded⟩
    · contradiction
  · rintro ⟨valid, folded⟩
    exact ⟨_, folded, settle_eq_ok_iff.mpr ⟨rfl, valid, rfl⟩⟩

/-- Merging depends on a mapping only through what it gives for the settings. -/
theorem merge_congr {other : Mapping}
    (same : ∀ setting, other.given? setting = entries.given? setting)
    (config : Config) : config.merge other = config.merge entries := by
  have absorbs : absorb other = absorb entries := by
    funext state setting
    unfold absorb
    rw [same]
  rw [merge, merge, absorbs]

theorem valid_of_merge (success : config.merge entries = .ok merged) : merged.Valid :=
  (merge_eq_ok_iff.mp success).1

/-- After merging, a setting has what was given for it, converted. -/
theorem get_of_merge {given : Value} (success : config.merge entries = .ok merged)
    (gives : entries.given? setting = some given) :
    setting.convert? given = some (merged.get setting) := by
  rw [← resolve?_of_given gives, (merge_eq_ok_iff.mp success).2]

/-- A setting for which nothing is given stays as it is. -/
theorem get_of_merge_none (success : config.merge entries = .ok merged)
    (missing : entries.given? setting = none) : merged.get setting = config.get setting := by
  have resolves := (merge_eq_ok_iff.mp success).2 setting
  rw [resolve?_of_none missing] at resolves
  exact (Option.some.inj resolves).symm

/-- Two mappings merged one after the other are one mapping merged, the later over the earlier. -/
theorem merge_overlay {first second : Mapping} {both : Config} (distinct : second.Distinct)
    (success : config.merge first = .ok merged) (success' : merged.merge second = .ok both) :
    config.merge (first.overlay second) = .ok both := by
  rw [merge_eq_ok_iff]
  refine ⟨valid_of_merge success', fun setting => ?_⟩
  have laid := Mapping.given?_overlay distinct first setting
  cases gives : second.given? setting with
  | some given =>
    rw [gives, Option.some_or] at laid
    rw [resolve?_of_given laid, get_of_merge success' gives]
  | none =>
    rw [gives, Option.none_or] at laid
    rw [get_of_merge_none success' gives]
    cases gives' : first.given? setting with
    | some given => rw [resolve?_of_given (laid.trans gives'), get_of_merge success gives']
    | none => rw [resolve?_of_none (laid.trans gives'), get_of_merge_none success gives']

/-! ### Many mappings -/

/-- The configuration after a mapping is merged, or as it was if the mapping is rejected. -/
def mergeOrKeep (config : Config) (entries : Mapping) : Config :=
  match config.merge entries with
  | .ok merged => merged
  | .error _ => config

/-- The configuration after some mappings are merged one after another. -/
def mergeAll (config : Config) (steps : List Mapping) : Config :=
  steps.foldl mergeOrKeep config

/-- The mappings that are not rejected when all are merged one after another. -/
def accepted (config : Config) : List Mapping → List Mapping
  | [] => []
  | entries :: steps =>
    match config.merge entries with
    | .ok merged => entries :: merged.accepted steps
    | .error _ => config.accepted steps

/-- What is given last for a setting when some mappings are merged, by one that is not rejected. -/
def lastGiven? (config : Config) (steps : List Mapping) (setting : Setting) : Option Value :=
  ((config.accepted steps).filterMap fun entries => entries.given? setting).getLast?

variable {steps : List Mapping}

theorem mergeAll_cons_ok (success : config.merge entries = .ok merged) (steps : List Mapping) :
    config.mergeAll (entries :: steps) = merged.mergeAll steps := by
  rw [mergeAll, List.foldl_cons, mergeOrKeep, success, mergeAll]

theorem mergeAll_cons_error {error : ConfigError} (rejected : config.merge entries = .error error)
    (steps : List Mapping) : config.mergeAll (entries :: steps) = config.mergeAll steps := by
  rw [mergeAll, List.foldl_cons, mergeOrKeep, rejected, mergeAll]

theorem lastGiven?_cons_error {error : ConfigError}
    (rejected : config.merge entries = .error error) (steps : List Mapping) (setting : Setting) :
    config.lastGiven? (entries :: steps) setting = config.lastGiven? steps setting := by
  rw [lastGiven?, accepted, rejected, lastGiven?]

/-- What a mapping gives counts if no later one gives anything. -/
theorem lastGiven?_cons_ok (success : config.merge entries = .ok merged) (steps : List Mapping)
    (setting : Setting) : config.lastGiven? (entries :: steps) setting =
      (merged.lastGiven? steps setting).or (entries.given? setting) := by
  rw [lastGiven?, accepted, success, lastGiven?]
  dsimp only
  rw [List.filterMap_cons]
  cases entries.given? setting with
  | none => rw [Option.or_none]
  | some given =>
    rw [List.getLast?_cons]
    cases ((merged.accepted steps).filterMap fun entries => entries.given? setting).getLast? <;> rfl

theorem valid_mergeAll (valid : config.Valid) (steps : List Mapping) :
    (config.mergeAll steps).Valid := by
  induction steps generalizing config with
  | nil => exact valid
  | cons entries steps ih =>
    cases outcome : config.merge entries with
    | ok merged =>
      rw [mergeAll_cons_ok outcome]
      exact ih (valid_of_merge outcome)
    | error error =>
      rw [mergeAll_cons_error outcome]
      exact ih valid

/-- A setting has what was given for it last, converted, or what it had before. -/
theorem get_mergeAll (config : Config) (steps : List Mapping) (setting : Setting) :
    (match config.lastGiven? steps setting with
      | some given => setting.convert? given
      | none => some (config.get setting)) = some ((config.mergeAll steps).get setting) := by
  induction steps generalizing config with
  | nil => rfl
  | cons entries steps ih =>
    cases outcome : config.merge entries with
    | error error => rw [mergeAll_cons_error outcome, lastGiven?_cons_error outcome, ih]
    | ok merged =>
      rw [mergeAll_cons_ok outcome, lastGiven?_cons_ok outcome, ← ih merged]
      cases merged.lastGiven? steps setting with
      | some given => rfl
      | none =>
        rw [Option.none_or]
        exact (merge_eq_ok_iff.mp outcome).2 setting

theorem valid_default : Valid {} :=
  ⟨by decide, by decide, by decide, by decide, by decide +kernel⟩

/-- Whatever is merged into the built-in configuration, and however much of it is rejected, the
configuration stays valid and every setting has what was given for it last. Of a mapping only that
counts which gives a setting something, and merging twice is merging once what is given last. -/
theorem last_given_counts :
    (∀ steps : List Mapping, (mergeAll {} steps).Valid ∧ ∀ setting,
      (match lastGiven? {} steps setting with
        | some given => setting.convert? given
        | none => some (get {} setting)) = some ((mergeAll {} steps).get setting)) ∧
    (∀ (config : Config) (entries : Mapping), entries.Distinct →
      config.merge (entries.filter Mapping.counts) = config.merge entries) ∧
    ∀ (config merged both : Config) (first second : Mapping), second.Distinct →
      config.merge first = .ok merged → merged.merge second = .ok both →
      config.merge (first.overlay second) = .ok both :=
  ⟨fun steps => ⟨valid_mergeAll valid_default steps, get_mergeAll {} steps⟩,
    fun config _ distinct => merge_congr (Mapping.given?_filter_counts distinct) config,
    fun _ _ _ _ _ distinct success success' => merge_overlay distinct success success'⟩

/-- A depth given twice, beside what gives no setting anything. -/
theorem last_given_counts_depth :
    let first : Mapping := [(.text "max_depth", .integer 4), (.text "context_after", .integer 2)]
    let second : Mapping := [(.text "colour", .text "red"), (.text "context_after", .null),
      (.text "max_depth", .text " +5 ")]
    second.Distinct ∧ merge {} first = .ok { maxDepth := 4, contextAfter := 2 } ∧
      merge { maxDepth := 4, contextAfter := 2 } second =
        .ok { maxDepth := 5, contextAfter := 2 } ∧
      merge {} (second.filter Mapping.counts) = merge {} second ∧
      merge {} (first.overlay second) = .ok { maxDepth := 5, contextAfter := 2 } := by
  intro first second
  have distinct : second.Distinct := by decide
  have success : merge {} first = .ok { maxDepth := 4, contextAfter := 2 } := rfl
  have success' : merge { maxDepth := 4, contextAfter := 2 } second =
      .ok { maxDepth := 5, contextAfter := 2 } := rfl
  exact ⟨distinct, success, success', last_given_counts.2.1 {} second distinct,
    last_given_counts.2.2 _ _ _ first second distinct success success'⟩

/-- A mapping that is too deep is rejected as a whole. -/
example :
    mergeAll {} [[(.text "max_depth", .integer 4)],
      [(.text "context_after", .integer 2), (.text "max_depth", .integer 257)],
      [(.text "log_level", .text "debug")]] = { maxDepth := 4, logLevel := "debug" } := by
  decide +kernel

end Config

end Schedule
