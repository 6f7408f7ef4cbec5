import Schedule.Proofs.Config.Load

/-! # What is wrong with the values that a mapping gives

A value that is given for a setting can be wrong in two ways: the setting cannot be such a value at
all, or it is out of the setting's bounds. What is wrong is reported setting by setting. But if
there are values that are no integers where integers are wanted, then these alone are reported, and
the bounds of the other values are not looked at.
-/

namespace Schedule

namespace Problem

/-- The setting that a problem is about. -/
def setting : Problem → Setting
  | tooShallow _ | tooDeep _ => .maxDepth
  | negative setting _ | notInteger setting _ => setting
  | unknownLevel _ | brokenLevel _ => .logLevel

theorem levelMessage_eq (quoted : String) :
    ∃ rest, levelMessage quoted = Setting.logLevel.key ++ rest := by
  have begins : "log_level must be one of " = Setting.logLevel.key ++ " must be one of " := by
    decide +kernel
  unfold levelMessage
  generalize "log_level must be one of " = words at begins ⊢
  subst begins
  exact ⟨_, by rw [String.append_assoc, String.append_assoc, String.append_assoc]⟩

/-- The text shown for a problem begins with the key of the setting that it is about. -/
theorem message_eq (problem : Problem) :
    ∃ rest, problem.message = problem.setting.key ++ rest := by
  cases problem with
  | negative setting value => exact ⟨_, String.append_assoc⟩
  | notInteger setting value => exact ⟨_, String.append_assoc⟩
  | tooShallow depth => exact ⟨" must be at least 1, got " ++ toString depth, rfl⟩
  | tooDeep depth => exact ⟨" cannot exceed 256, got " ++ toString depth, rfl⟩
  | unknownLevel level => exact levelMessage_eq _
  | brokenLevel codes => exact levelMessage_eq _

end Problem

/-! ### One value -/

namespace Setting

variable {setting : Setting} {given value : Value} {problem : Problem}

/-- What is wrong with a setting that has a value, if the value is out of its bounds. -/
def outOfBounds? (setting : Setting) (value : Value) : Option Problem :=
  match setting, value with
  | .maxDepth, .integer depth =>
    if depth < 1 then some (.tooShallow depth)
    else if greatestDepth < depth then some (.tooDeep depth) else none
  | .logLevel, .text level =>
    if levelNames.contains (Text.upper level) then none else some (.unknownLevel level)
  | .logLevel, _ => none
  | setting, .integer number => if number < 0 then some (.negative setting number) else none
  | _, _ => none

/-- What is wrong with a value that is given for a setting, if anything is. -/
def complaint? (setting : Setting) (given : Value) : Option Problem :=
  (setting.mismatch? given).or ((setting.convert? given).bind setting.outOfBounds?)

theorem setting_of_outOfBounds? (wrong : setting.outOfBounds? value = some problem) :
    problem.setting = setting ∧ problem.isKind = false := by
  unfold outOfBounds? at wrong
  split at wrong
  · split_ifs at wrong <;> cases wrong <;> exact ⟨rfl, rfl⟩
  · split_ifs at wrong
    cases wrong
    exact ⟨rfl, rfl⟩
  · contradiction
  · split_ifs at wrong
    cases wrong
    exact ⟨rfl, rfl⟩
  · contradiction

theorem setting_of_mismatch? (wrong : setting.mismatch? given = some problem) :
    problem.setting = setting := by
  unfold mismatch? at wrong
  split at wrong
  · cases wrong
    rfl
  · contradiction
  · split at wrong
    · contradiction
    · cases wrong
      rfl

theorem setting_of_complaint? (wrong : setting.complaint? given = some problem) :
    problem.setting = setting := by
  rw [complaint?, Option.or_eq_some_iff] at wrong
  rcases wrong with mismatch | ⟨_, bounds⟩
  · exact setting_of_mismatch? mismatch
  · obtain ⟨value, _, bounds⟩ := Option.bind_eq_some_iff.mp bounds
    exact (setting_of_outOfBounds? bounds).1

/-- A number setting has a mismatch only of the kind. -/
theorem isKind_of_mismatch? (number : setting ≠ .logLevel)
    (wrong : setting.mismatch? given = some problem) : problem.isKind = true := by
  rw [mismatch?_number number] at wrong
  split at wrong
  · contradiction
  · cases wrong
    rfl

end Setting

/-! ### All values -/

namespace Mapping

variable {entries : Mapping}

/-- No value that is given for a setting is such that it could not be reported to be wrong. -/
def Reportable (entries : Mapping) : Prop :=
  ∀ setting given, entries.given? setting = some given → setting.fault? given = none

/-- What is wrong with the values that the settings cannot be at all. -/
def mismatches (entries : Mapping) : List Problem :=
  Setting.all.filterMap fun setting => (entries.given? setting).bind setting.mismatch?

/-- What is wrong with all the values. -/
def complaints (entries : Mapping) : List Problem :=
  Setting.all.filterMap fun setting => (entries.given? setting).bind setting.complaint?

/-- The mapping gives a value for the setting that the setting may not have. -/
def Wrong (entries : Mapping) (setting : Setting) : Prop :=
  ∃ given, entries.given? setting = some given ∧
    ∀ value, setting.convert? given = some value → ¬ Config.Admits setting value

/-- The complaints come in the order of the settings, with at most one for each. -/
theorem sublist_complaints (entries : Mapping) :
    (entries.complaints.map Problem.setting).Sublist Setting.all := by
  have sublist (settings : List Setting) :
      ((settings.filterMap fun setting => (entries.given? setting).bind setting.complaint?).map
        Problem.setting).Sublist settings := by
    induction settings with
    | nil => exact .slnil
    | cons setting settings ih =>
      rw [List.filterMap_cons]
      split
      · exact ih.cons _
      · next problem wrong =>
        obtain ⟨given, _, wrong⟩ := Option.bind_eq_some_iff.mp wrong
        rw [List.map_cons, Setting.setting_of_complaint? wrong]
        exact ih.cons_cons _
  exact sublist _

theorem filter_mismatches (entries : Mapping) :
    entries.mismatches.filter Problem.isKind = entries.complaints.filter Problem.isKind := by
  rw [mismatches, complaints, List.filter_filterMap, List.filter_filterMap]
  congr 1
  funext setting
  cases entries.given? setting with
  | none => rfl
  | some given =>
    rw [Option.bind_some, Option.bind_some, Setting.complaint?]
    cases setting.mismatch? given with
    | some problem => rfl
    | none =>
      rw [Option.none_or, Option.filter_none, eq_comm, Option.filter_eq_none_iff]
      intro problem bounds
      obtain ⟨value, _, bounds⟩ := Option.bind_eq_some_iff.mp bounds
      rw [(Setting.setting_of_outOfBounds? bounds).2]
      exact Bool.false_ne_true

end Mapping

namespace Config

variable {config merged : Config} {entries : Mapping} {setting : Setting} {given value : Value}
variable {found problems : List Problem}

/-- Each setting is checked against its own bounds. -/
theorem problems_eq (config : Config) :
    config.problems = Setting.all.filterMap fun setting =>
      setting.outOfBounds? (config.get setting) := by
  have option {p : Prop} [Decidable p] (problem : Problem) :
      (if p then [problem] else []) = (if p then some problem else none).toList := by
    split <;> rfl
  have option' {p : Prop} [Decidable p] (problem : Problem) :
      (if p then [] else [problem]) = (if p then none else some problem).toList := by
    split <;> rfl
  have depth : (if config.maxDepth < 1 then [Problem.tooShallow config.maxDepth]
      else if greatestDepth < config.maxDepth then [.tooDeep config.maxDepth] else []) =
      (Setting.outOfBounds? .maxDepth (config.get .maxDepth)).toList := by
    dsimp only [Setting.outOfBounds?, get]
    split
    · rfl
    · split <;> rfl
  rw [problems, List.filterMap_eq_flatMap_toList, depth, option, option, option']
  simp only [Setting.all, List.flatMap_cons, List.flatMap_nil, List.append_nil, List.append_assoc]
  rfl

theorem valid_iff_outOfBounds? :
    config.Valid ↔ ∀ setting : Setting, setting.outOfBounds? (config.get setting) = none := by
  rw [← problems_eq_nil_iff, problems_eq, List.filterMap_eq_nil_iff]
  exact ⟨fun none setting => none setting setting.mem_all, fun none setting _ => none setting⟩

/-- A setting may have what is given for it, converted, if it is not out of bounds. -/
theorem admits_iff (gives : entries.given? setting = some given)
    (converts : setting.convert? given = some value) :
    Admits setting value ↔ setting.outOfBounds? value = none := by
  constructor
  · rintro ⟨config, valid, rfl⟩
    exact valid_iff_outOfBounds?.mp valid setting
  · intro within
    obtain ⟨merged, _, same, others⟩ := @absorb_of_resolve? {} entries setting value
      (by rw [resolve?_of_given gives, converts])
    refine ⟨merged, valid_iff_outOfBounds?.mpr fun other => ?_, same⟩
    by_cases equal : other = setting
    · rw [equal, same, within]
    · rw [others other equal]
      exact valid_iff_outOfBounds?.mp valid_default other

/-- What is given for a setting is wrong if there is a complaint about it. -/
theorem wrong_iff (reportable : entries.Reportable) :
    entries.Wrong setting ↔ setting ∈ entries.complaints.map Problem.setting := by
  have blamed : setting ∈ entries.complaints.map Problem.setting ↔
      ∃ given, entries.given? setting = some given ∧ setting.complaint? given ≠ none := by
    simp only [List.mem_map, Mapping.complaints, List.mem_filterMap, Option.bind_eq_some_iff]
    constructor
    · rintro ⟨problem, ⟨other, _, given, gives, wrong⟩, rfl⟩
      rw [Setting.setting_of_complaint? wrong]
      exact ⟨given, gives, by simp [wrong]⟩
    · rintro ⟨given, gives, wrong⟩
      obtain ⟨problem, wrong⟩ := Option.ne_none_iff_exists'.mp wrong
      exact ⟨problem, ⟨setting, setting.mem_all, given, gives, wrong⟩,
        Setting.setting_of_complaint? wrong⟩
  rw [blamed]
  refine exists_congr fun given => and_congr_right fun gives => ?_
  rw [Setting.complaint?]
  cases converts : setting.convert? given with
  | none =>
    obtain ⟨problem, mismatch⟩ := Setting.exists_mismatch? (reportable _ _ gives) converts
    simp [mismatch]
  | some value =>
    rw [(Setting.of_convert? converts).2, Option.none_or, Option.bind_some, Ne,
      ← admits_iff gives converts]
    simp

/-- Looking at some settings one after another. The induction is on the settings. -/
theorem foldlM_absorb_outcome {settings : List Setting} (distinct : settings.Nodup)
    (config : Config) (found : List Problem) (entries : Mapping) :
    (∃ setting given fault, entries.given? setting = some given ∧
      setting.fault? given = some fault ∧
      settings.foldlM (absorb entries) (config, found) = .error (.unusable fault)) ∨
    ((∀ setting ∈ settings, ∀ given, entries.given? setting = some given →
        setting.fault? given = none) ∧
      ∃ merged, settings.foldlM (absorb entries) (config, found) = .ok (merged, found ++
          settings.filterMap fun setting => (entries.given? setting).bind setting.mismatch?) ∧
        (∀ setting ∈ settings,
          merged.get setting = (config.resolve? entries setting).getD (config.get setting)) ∧
        ∀ setting ∉ settings, merged.get setting = config.get setting) := by
  induction settings generalizing config found with
  | nil =>
    refine .inr ⟨by simp, config, ?_, by simp, fun _ _ => rfl⟩
    rw [List.filterMap_nil, List.append_nil]
    rfl
  | cons setting settings ih =>
    obtain ⟨fresh, distinct⟩ := List.nodup_cons.mp distinct
    rw [List.foldlM_cons]
    rcases absorb_outcome config found entries setting with
      ⟨given, fault, gives, cause, fails⟩ | ⟨reportable, next, absorbed, same, others⟩
    · exact .inl ⟨setting, given, fault, gives, cause, by rw [fails]; rfl⟩
    · rw [absorbed]
      rcases ih distinct next (found ++ _) with
        later | ⟨reportable', merged, folded, same', others'⟩
      · exact .inl later
      · refine .inr ⟨List.forall_mem_cons.mpr ⟨reportable, reportable'⟩, merged, ?_,
          List.forall_mem_cons.mpr ⟨?_, fun other member => ?_⟩, fun other absent => ?_⟩
        · rw [List.filterMap_cons]
          change settings.foldlM (absorb entries) (next, _) = _
          rw [folded, List.append_assoc]
          cases (entries.given? setting).bind setting.mismatch? <;> rfl
        · rw [others' setting fresh, same]
        · have differ : other ≠ setting := fun equal => fresh (equal ▸ member)
          rw [same' other member, resolve?_congr (others other differ), others other differ]
        · rw [List.mem_cons, not_or] at absent
          rw [others' other absent.2, others other absent.1]

/-- How the merging of a mapping ends. -/
inductive MergeOutcome (config : Config) (entries : Mapping) : Prop where
  | faulty {setting : Setting} {given : Value} {fault : ValueFault}
      (gives : entries.given? setting = some given) (cause : setting.fault? given = some fault)
      (fails : config.merge entries = .error (.unusable fault))
  | kinds (reportable : entries.Reportable)
      (some : entries.complaints.filter Problem.isKind ≠ [])
      (fails : config.merge entries =
        .error (.invalid (entries.complaints.filter Problem.isKind)))
  | complaints (reportable : entries.Reportable)
      (noKind : entries.complaints.filter Problem.isKind = []) (some : entries.complaints ≠ [])
      (fails : config.merge entries = .error (.ofProblems entries.complaints))
  | merged {merged : Config} (reportable : entries.Reportable) (none : entries.complaints = [])
      (success : config.merge entries = .ok merged)

/-- Once nothing is noted about a setting, its bounds are all that there is to complain about. Once
something is, the setting keeps the value that it had in a valid configuration. -/
theorem complaint_eq_or (valid : config.Valid)
    (same : merged.get setting = (config.resolve? entries setting).getD (config.get setting)) :
    (entries.given? setting).bind setting.complaint? =
        ((entries.given? setting).bind setting.mismatch?).or
          (setting.outOfBounds? (merged.get setting)) ∧
      ((entries.given? setting).bind setting.mismatch? ≠ none →
        setting.outOfBounds? (merged.get setting) = none) := by
  have within := valid_iff_outOfBounds?.mp valid setting
  cases gives : entries.given? setting with
  | none =>
    rw [resolve?_of_none gives, Option.getD_some] at same
    rw [same, within]
    exact ⟨rfl, fun _ => rfl⟩
  | some given =>
    rw [resolve?_of_given gives] at same
    simp only [Option.bind_some, Setting.complaint?]
    cases converts : setting.convert? given with
    | none =>
      rw [converts, Option.getD_none] at same
      rw [same, within]
      exact ⟨rfl, fun _ => rfl⟩
    | some value =>
      rw [converts, Option.getD_some] at same
      rw [same]
      exact ⟨rfl, absurd (Setting.of_convert? converts).2⟩

/-- If no value is of the wrong kind, then the problems of the merged settings and those that have
been found before are all the complaints: only a level can have been found wrong before, and the
level comes last. -/
theorem problems_append_mismatches (valid : config.Valid)
    (noKind : entries.mismatches.filter Problem.isKind = [])
    (same : ∀ setting,
      merged.get setting = (config.resolve? entries setting).getD (config.get setting)) :
    merged.problems ++ entries.mismatches = entries.complaints := by
  have fits (setting : Setting) (number : setting ≠ .logLevel) :
      (entries.given? setting).bind setting.mismatch? = none := by
    rw [Option.eq_none_iff_forall_ne_some]
    intro problem mismatch
    have kind : problem.isKind = true := by
      obtain ⟨_, _, wrong⟩ := Option.bind_eq_some_iff.mp mismatch
      exact Setting.isKind_of_mismatch? number wrong
    have listed : problem ∈ entries.mismatches.filter Problem.isKind :=
      List.mem_filter.mpr ⟨List.mem_filterMap.mpr ⟨setting, setting.mem_all, mismatch⟩, kind⟩
    rw [noKind] at listed
    contradiction
  have whole (setting : Setting) := complaint_eq_or valid (same setting)
  have bounds (setting : Setting) (number : setting ≠ .logLevel) :
      (entries.given? setting).bind setting.complaint? =
        setting.outOfBounds? (merged.get setting) := by
    rw [(whole setting).1, fits setting number, Option.none_or]
  have level : ((entries.given? .logLevel).bind (Setting.complaint? .logLevel)).toList =
      (Setting.outOfBounds? .logLevel (merged.get .logLevel)).toList ++
        ((entries.given? .logLevel).bind (Setting.mismatch? .logLevel)).toList := by
    obtain ⟨either, notBoth⟩ := whole .logLevel
    rw [either]
    cases mismatch : (entries.given? .logLevel).bind (Setting.mismatch? .logLevel) with
    | none => simp
    | some problem =>
      rw [notBoth (by rw [mismatch]; exact Option.some_ne_none _)]
      rfl
  rw [problems_eq, Mapping.mismatches, Mapping.complaints]
  simp only [List.filterMap_eq_flatMap_toList, Setting.all, List.flatMap_cons, List.flatMap_nil,
    List.append_nil, level, bounds .maxDepth (by decide), bounds .contextBefore (by decide),
    bounds .contextAfter (by decide), fits .maxDepth (by decide), fits .contextBefore (by decide),
    fits .contextAfter (by decide), Option.toList_none, List.nil_append, List.append_assoc]

theorem mergeOutcome (valid : config.Valid) (entries : Mapping) : MergeOutcome config entries := by
  rcases foldlM_absorb_outcome (by decide : Setting.all.Nodup) config [] entries with
    ⟨setting, given, fault, gives, cause, fails⟩ | ⟨reportable, next, folded, same, _⟩
  · refine .faulty gives cause ?_
    rw [merge, fails]
    rfl
  · have reportable : entries.Reportable := fun setting => reportable setting setting.mem_all
    rw [List.nil_append, ← Mapping.mismatches] at folded
    cases noKind : entries.complaints.filter Problem.isKind with
    | cons problem rest =>
      have some : entries.complaints.filter Problem.isKind ≠ [] := by
        rw [noKind]
        exact List.cons_ne_nil _ _
      refine .kinds reportable some ?_
      rw [merge, folded, noKind]
      simp only [bind, Except.bind, Mapping.filter_mismatches, noKind]
    | nil =>
      have all := problems_append_mismatches valid (noKind ▸ entries.filter_mismatches)
        fun setting => same setting setting.mem_all
      have merges : config.merge entries = next.settle entries.mismatches := by
        rw [merge, folded]
        simp only [bind, Except.bind, Mapping.filter_mismatches, noKind]
      rw [settle, all] at merges
      cases some : entries.complaints with
      | nil =>
        rw [some] at merges
        exact .merged reportable some merges
      | cons problem rest =>
        refine .complaints reportable noKind (by rw [some]; exact List.cons_ne_nil _ _) ?_
        rw [some] at merges ⊢
        exact merges

/-- An error that reports problems reports all of one sort: those of the wrong kind if there are
any, or else all that there are. -/
theorem problems_of_merge (valid : config.Valid)
    (failed : config.merge entries = .error (.invalid problems)) :
    entries.Reportable ∧ problems ≠ [] ∧
      problems = if entries.complaints.any Problem.isKind then
        entries.complaints.filter Problem.isKind else entries.complaints := by
  have any : entries.complaints.any Problem.isKind = true ↔
      entries.complaints.filter Problem.isKind ≠ [] := by
    rw [List.any_eq_true, Ne, List.filter_eq_nil_iff]
    push Not
    rfl
  cases mergeOutcome valid entries with
  | faulty gives cause fails =>
    rw [fails] at failed
    cases failed
  | kinds reportable some fails =>
    rw [fails] at failed
    cases failed
    exact ⟨reportable, some, (if_pos (any.mpr some)).symm⟩
  | complaints reportable noKind some fails =>
    rw [fails, ConfigError.ofProblems] at failed
    split at failed
    · cases failed
      exact ⟨reportable, some, (if_neg fun kind => any.mp kind noKind).symm⟩
    · cases failed
  | merged reportable none success =>
    rw [success] at failed
    contradiction

/-- The settings that have complaints are those whose values are wrong, and there is one complaint
for each of them, in the order of the settings. An error reports all the complaints if they are of
one sort: either all are that a value is of the wrong kind, or none is. -/
theorem merge_reports (valid : config.Valid)
    (failed : config.merge entries = .error (.invalid problems)) :
    (∀ setting, setting ∈ entries.complaints.map Problem.setting ↔ entries.Wrong setting) ∧
      (entries.complaints.map Problem.setting).Sublist Setting.all ∧
      (problems = if entries.complaints.any Problem.isKind then
        entries.complaints.filter Problem.isKind else entries.complaints) ∧
      (problems = entries.complaints ↔
        ∀ a ∈ entries.complaints, ∀ b ∈ entries.complaints, a.isKind = b.isKind) := by
  obtain ⟨reportable, some, reported⟩ := problems_of_merge valid failed
  refine ⟨fun setting => (wrong_iff reportable).symm, entries.sublist_complaints, reported, ?_⟩
  cases any : entries.complaints.any Problem.isKind with
  | false =>
    rw [any, if_neg Bool.false_ne_true] at reported
    rw [List.any_eq_false] at any
    have none (a : Problem) (member : a ∈ entries.complaints) : a.isKind = false :=
      Bool.eq_false_iff.mpr (any a member)
    exact ⟨fun _ a member b member' => by rw [none a member, none b member'], fun _ => reported⟩
  | true =>
    rw [any, if_pos rfl] at reported
    obtain ⟨kind, listed, isKind⟩ := List.any_eq_true.mp any
    rw [reported, List.filter_eq_self]
    constructor
    · exact fun all a member b member' => by rw [all a member, all b member']
    · exact fun same a member => by rw [same a member kind listed, isKind]

/-- Three settings that are out of their bounds. -/
theorem merge_reports_bounds :
    let entries : Mapping := [(.text "log_level", .text "LOUD"), (.text "max_depth", .integer 0),
      (.text "context_before", .text "-1")]
    let problems : List Problem :=
      [.tooShallow 0, .negative .contextBefore (-1), .unknownLevel "LOUD"]
    Valid {} ∧ merge {} entries = .error (.invalid problems) ∧ problems = entries.complaints := by
  intro entries problems
  have failed : merge {} entries = .error (.invalid problems) := by
    have fails : merge {} entries = .error (.ofProblems problems) := rfl
    have writable : problems.all Problem.isWritable = true := by decide +kernel
    rw [fails, ConfigError.ofProblems, if_pos writable]
  have reports := merge_reports valid_default failed
  exact ⟨valid_default, failed, reports.2.2.2.mpr (by decide +kernel)⟩

/-- A depth that is no integer keeps the window, which is out of its bounds, from being reported. -/
theorem merge_not_reported :
    let entries : Mapping := [(.text "max_depth", .text "abc"),
      (.text "context_before", .integer (-1))]
    let problem : Problem := .notInteger .maxDepth (.text "abc")
    Valid {} ∧ merge {} entries = .error (.invalid [problem]) ∧
      entries.Wrong .contextBefore ∧ problem.setting ≠ .contextBefore := by
  intro entries problem
  refine ⟨valid_default, rfl, ⟨_, rfl, ?_⟩, by decide⟩
  rintro _ ⟨⟩ ⟨config, valid, window⟩
  have negative : config.contextBefore = -1 := Value.integer.inj window
  have := valid.before
  omega

end Config

end Schedule
