import Schedule.Proofs.Layout
import Schedule.Proofs.Message
import Schedule.Proofs.Report

/-! # The lines of a report

A report is the line of its message, the stretch of the source that the window cuts out, and the
line of the caret. If the stretch holds no line break, then these are three lines, and the caret
stands under the first character of the token to blame. A schedule may be spread over several lines,
though: then the report has a line more for each line break in the stretch, and one that stands
before the token takes the token out of the line above which the caret is aligned.
-/

namespace Schedule

/-- The lines of a text. -/
def lines (text : String) : List (List Char) :=
  text.toList.splitOn '\n'

/-- The characters of a line that has been moved to the right. -/
def indented (line : List Char) : List Char :=
  [' ', ' ', ' ', ' '] ++ line

/-- The text of the report is its message, one line of the source, and a line with a caret, which
stands in the column of the token's first character. -/
def Report.PointsAt (report : Report) (t : Token) : Prop :=
  ∃ source before after c,
    lines report.text = [report.message.toList, source, (caretLine before after).toList] ∧
      t.value.toList.head? = some c ∧ source[before]? = some c

/-! ### Splitting at line breaks -/

/-- The first line ends before the first line break, and each line break begins one more line. -/
theorem splitOn_newline (cs : List Char) :
    ∃ more, cs.splitOn '\n' = cs.takeWhile (· != '\n') :: more ∧ more.length = cs.count '\n' := by
  induction cs with
  | nil => exact ⟨[], rfl, rfl⟩
  | cons c cs ih =>
    obtain ⟨more, split, length⟩ := ih
    rw [List.splitOn_cons_eq_if_modifyHead]
    by_cases newline : c = '\n'
    · subst newline
      exact ⟨cs.splitOn '\n', by simp, by simp [split, length]⟩
    · exact ⟨more, by simp [newline, split], by simp [newline, length]⟩

theorem getElem?_indented (cs : List Char) (n : Nat) : (indented cs)[4 + n]? = cs[n]? := by
  rw [Nat.add_comm]
  rfl

theorem takeWhile_indented (cs : List Char) :
    (indented cs).takeWhile (· != '\n') = indented (cs.takeWhile (· != '\n')) := by
  simp [indented]

theorem indented_caretLine (before after : Nat) :
    indented (caretLine before after).toList = (caretLine (4 + before) after).toList := by
  simp only [indented, caretLine, String.toList_ofList, List.replicate_add]
  rfl

theorem newline_not_mem_caretLine (before after : Nat) :
    '\n' ∉ (caretLine before after).toList := by
  simp [caretLine]

/-- A character is seen in its column of the first line unless a line break stands before it. -/
theorem getElem?_firstLine {c : Char} (visible : c ≠ '\n') (before after : List Char) :
    ((before ++ c :: after).takeWhile (· != '\n'))[before.length]? = some c ↔ '\n' ∉ before := by
  constructor
  · intro seen member
    obtain ⟨first, rest, rfl, none⟩ := List.eq_append_cons_of_mem member
    have ends : ((first ++ '\n' :: rest) ++ c :: after).takeWhile (· != '\n') = first := by
      rw [List.append_assoc, List.takeWhile_append_of_pos fun d inside => ?_]
      · simp
      · rw [bne_iff_ne]
        rintro rfl
        exact none inside
    rw [ends, List.getElem?_eq_none (by simp)] at seen
    contradiction
  · intro none
    rw [List.takeWhile_append_of_pos fun d inside => ?_, List.takeWhile_cons_of_pos ?_]
    · simp
    · rwa [bne_iff_ne]
    · rw [bne_iff_ne]
      rintro rfl
      exact none inside

/-! ### What the window cuts out -/

variable {config : Config} {text : String} {m : Mistake} {t : Token}

/-- What stands between a place in the text and a token behind it. -/
theorem length_stretch (stands : t.StandsIn text.toList) {start : Int} (nonneg : 0 ≤ start)
    (first : start ≤ t.index) :
    (stretch text start t.index).toList.length = (t.index - start).toNat := by
  obtain ⟨before, behind, spelled, place⟩ := stands
  simp only [stretch, String.toList_ofList, spelled, place, Int.toNat_natCast, List.take_left,
    List.length_drop]
  omega

/-- A stretch that begins before a token and reaches behind it is what stands before the token,
then the token's first character, and then the rest. -/
theorem exists_stretch (cut : t.CutFrom text.toList) {start stop : Int} (nonneg : 0 ≤ start)
    (first : start ≤ t.index) (last : t.stop ≤ stop) :
    ∃ c after, t.value.toList.head? = some c ∧
      (stretch text start stop).toList = (stretch text start t.index).toList ++ c :: after := by
  obtain ⟨⟨before, behind, spelled, place⟩, filled⟩ := cut
  obtain ⟨c, cs, value⟩ := List.exists_cons_of_ne_nil filled
  rw [Token.stop, ← String.length_toList, value, List.length_cons] at last
  obtain ⟨n, rfl⟩ : ∃ n : Nat, start = n := ⟨start.toNat, by omega⟩
  obtain ⟨k, rfl⟩ : ∃ k : Nat, stop = (before.length + (k + 1) : Nat) :=
    ⟨(stop - before.length - 1).toNat, by omega⟩
  have inside : n ≤ before.length := by omega
  rw [value, List.cons_append] at spelled
  refine ⟨c, (cs ++ behind).take k, by rw [value, List.head?_cons], ?_⟩
  simp only [stretch, String.toList_ofList, spelled, place, Int.toNat_natCast]
  rw [List.take_length_add_append, List.take_succ_cons, List.drop_append_of_le_length inside,
    List.take_left]

/-- The first character of a token is no line break. -/
theorem ne_newline_of_head? (listed : t ∈ tokenize text) {c : Char}
    (first : t.value.toList.head? = some c) : c ≠ '\n' := by
  rintro rfl
  have piece := (laidOut_iff_tokenize_eq.mpr rfl).pieces t listed
  have visible := piece.isBlank_eq_false (List.mem_of_head? first)
  contradiction

/-- The lines of a report on a place inside the text. -/
theorem lines_render {window : Window} {message : String} {index length : Int}
    (single : '\n' ∉ message.toList) (back : 0 ≤ window.before) (ahead : 0 ≤ window.after)
    (inside : 0 ≤ index) (within : index ≤ text.length) (nonneg : 0 ≤ length) :
    let shown := (stretch text (window.start index) (window.stop index length text.length)).toList
    ∃ more after, more.length = shown.count '\n' ∧
      lines (Diagnostic.render window message text index length) =
        message.toList :: indented (shown.takeWhile (· != '\n')) :: (more ++
          [(caretLine (4 + (index - window.start index).toNat) after).toList]) := by
  intro shown
  obtain ⟨more, split, count⟩ := splitOn_newline (indented shown)
  rw [takeWhile_indented] at split
  refine ⟨more, (window.stop index length text.length - index - 1).toNat, ?_, ?_⟩
  · rw [count, indented, List.count_append]
    simp
  · have spelled (cs : List Char) : "\n    ".toList ++ cs = '\n' :: indented cs := rfl
    rw [lines, Diagnostic.render_eq message back ahead inside within nonneg,
      ← Window.index_sub_start]
    simp only [String.toList_append, List.append_assoc, spelled, indented_caretLine]
    rw [List.cons_append, List.splitOn_append_cons_self_of_not_mem single,
      List.splitOn_append_cons_self, List.splitOn_eq_singleton (newline_not_mem_caretLine _ _)]
    exact congrArg (message.toList :: ·) (congrArg (· ++ _) split)

/-! ### Reports of mistakes -/

/-- What the window cuts out of the text around a token. -/
def Config.excerpt (config : Config) (text : String) (t : Token) : String :=
  stretch text (max (t.index - config.contextBefore) 0)
    (min (t.index + t.value.length + config.contextAfter) text.length)

/-- The part of it that stands before the token. -/
def Config.lead (config : Config) (text : String) (t : Token) : String :=
  stretch text (max (t.index - config.contextBefore) 0) t.index

/-- How the lines of a report show the token that it blames. -/
structure Report.Shown (report : Report) (config : Config) (text : String) (t : Token) :
    Prop where
  /-- There are three lines, with the caret under the token, just if no line break is cut out of
  the text. -/
  pointsAt : report.PointsAt t ↔ '\n' ∉ (config.excerpt text t).toList
  /-- Each line break that is cut out makes one more line. -/
  length : (lines report.text).length = 3 + (config.excerpt text t).toList.count '\n'
  message : (lines report.text).head? = some report.message.toList
  /-- The last line is that of the caret. It stands under the token's first character in the second
  line just if none of the line breaks comes before the token. -/
  caret : ∃ before after, (lines report.text).getLast? = some (caretLine before after).toList ∧
    (((lines report.text)[1]?.bind fun source => source[before]?) = t.value.toList.head? ↔
      '\n' ∉ (config.lead text t).toList)

theorem length_lead (valid : config.problems = []) (cut : t.CutFrom text.toList) :
    (config.lead text t).toList.length = (t.index - config.window.start t.index).toNat :=
  have back : 0 ≤ config.window.before := (Config.window_nonneg valid).1
  length_stretch cut.stands (Window.start_nonneg config.window _)
    (Window.start_le back cut.stands.index_nonneg)

/-- The window shows the token's first character after what stands before the token. -/
theorem exists_excerpt (valid : config.problems = []) (cut : t.CutFrom text.toList) :
    ∃ c rest, t.value.toList.head? = some c ∧
      (config.excerpt text t).toList = (config.lead text t).toList ++ c :: rest := by
  obtain ⟨back, ahead⟩ := Config.window_nonneg valid
  have within := cut.stands.index_add_length_le
  rw [String.length_toList] at within
  have start : config.window.start t.index ≤ t.index :=
    Window.start_le back cut.stands.index_nonneg
  refine exists_stretch cut (Window.start_nonneg config.window _) start ?_
  rw [Token.stop]
  omega

/-- The lines of a report of a mistake at a token. -/
theorem lines_report (valid : config.problems = [])
    (failed : compile config text = .error (.mistake m)) (cut : m.token.CutFrom text.toList) :
    ∃ more after, more.length = (config.excerpt text m.token).toList.count '\n' ∧
      lines (m.report text config.window).text =
        m.fault.message.toList ::
          indented ((config.excerpt text m.token).toList.takeWhile (· != '\n')) :: (more ++
            [(caretLine (4 + (config.lead text m.token).toList.length) after).toList]) := by
  obtain ⟨back, ahead⟩ := Config.window_nonneg valid
  have inside := cut.stands.index_nonneg
  have within : m.token.index ≤ text.length := by
    have stop := cut.stands.index_add_length_le
    rw [String.length_toList] at stop
    omega
  have single := Fault.newline_not_mem_message (quotesName_of_mistake failed)
  obtain ⟨more, after, count, split⟩ := @lines_render text config.window _ _ _ single back ahead
    inside within (Int.natCast_nonneg m.token.value.length)
  rw [← length_lead valid cut] at split
  exact ⟨more, after, count, split⟩

/-- Every mistake at a token of a text is shown in three lines with the caret under the token,
unless the window cuts a line break out of the text. -/
theorem report_shown (valid : config.problems = [])
    (failed : compile config text = .error (.mistake m)) (listed : m.token ∈ tokenize text) :
    (m.report text config.window).Shown config text m.token := by
  obtain ⟨back, ahead⟩ := Config.window_nonneg valid
  have cut := cutFrom_of_mem_tokenize listed
  obtain ⟨more, after, count, split⟩ := lines_report valid failed cut
  obtain ⟨c, rest, first, shown⟩ := exists_excerpt valid cut
  have visible := ne_newline_of_head? listed first
  have seen := getElem?_firstLine visible (config.lead text m.token).toList rest
  rw [← shown] at seen
  have length : (lines (m.report text config.window).text).length =
      3 + (config.excerpt text m.token).toList.count '\n' := by
    rw [split]
    simp only [List.length_cons, List.length_append, List.length_nil]
    omega
  have message : (lines (m.report text config.window).text).head? =
      some (m.report text config.window).message.toList := by
    rw [split]
    rfl
  refine ⟨⟨fun points => ?_, fun none => ?_⟩, length, message, ?_⟩
  · obtain ⟨source, before, after, c, three, _⟩ := points
    rw [three] at length
    rw [← List.count_eq_zero]
    simpa using length.symm
  · have single : more = [] := by
      rw [← List.length_eq_zero_iff, count, List.count_eq_zero]
      exact none
    have before : '\n' ∉ (config.lead text m.token).toList := by
      rw [shown, List.mem_append, not_or] at none
      exact none.1
    rw [single] at split
    refine ⟨_, _, after, c, split, first, ?_⟩
    rw [getElem?_indented]
    exact seen.mpr before
  · refine ⟨4 + (config.lead text m.token).toList.length, after, ?_, ?_⟩
    · rw [split, ← List.cons_append, ← List.cons_append, List.getLast?_append]
      rfl
    · rw [split, first]
      change (indented _)[_]? = some c ↔ _
      rw [getElem?_indented]
      exact seen

/-- A mistake in a second line, under a window that shows this line only. -/
theorem report_shown_second_line :
    let config : Config := { contextBefore := 3, contextAfter := 0 }
    let m : Mistake := ⟨.unknownExpression "foo", ⟨11, "foo"⟩⟩
    let text := "hour(1)\n   foo(1)"
    config.problems = [] ∧ compile config text = .error (.mistake m) ∧ m.token ∈ tokenize text ∧
      (m.report text config.window).Shown config text m.token ∧
      (m.report text config.window).PointsAt m.token := by
  intro config m text
  have valid : config.problems = [] := by decide +kernel
  have failed : compile config text = .error (.mistake m) := by decide +kernel
  have listed : m.token ∈ tokenize text := by decide +kernel
  have shown := report_shown valid failed listed
  exact ⟨valid, failed, listed, shown, shown.pointsAt.mpr (by decide +kernel)⟩

/-- The line break between two expressions stands in the report of a mistake in the second one: then
the line with the caret is the fourth. -/
theorem not_pointsAt_second_line :
    let m : Mistake := ⟨.unknownExpression "foo", ⟨8, "foo"⟩⟩
    let text := "hour(1)\nfoo(1)"
    Config.problems {} = [] ∧ compile {} text = .error (.mistake m) ∧ m.token ∈ tokenize text ∧
      (m.report text (Config.window {})).text =
        "Unknown expression foo\n    hour(1)\nfoo(1)\n            ^     " ∧
      ¬ (m.report text (Config.window {})).PointsAt m.token := by
  intro m text
  refine ⟨by decide +kernel, by decide +kernel, by decide +kernel, by decide +kernel, ?_⟩
  rintro ⟨source, before, after, c, three, _⟩
  have four : (lines (m.report text (Config.window {})).text).length = 4 := by decide +kernel
  rw [three] at four
  cases four

end Schedule
