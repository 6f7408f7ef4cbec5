import Schedule.Proofs.Diagnostic

/-! # Where the caret points

Whatever the window, the two lines below a message fit together. The upper one is the text from the
start of the window to its end; the lower one has its only caret in the column of the place. If the
window reaches past the place, then the caret stands under the character there, and stays under it
when the window grows. If the window ends at the place, as it does at the end of the text, then the
caret stands behind the last character that is shown.
-/

namespace Schedule.Diagnostic

variable {start stop index length : Int} {text : List Char} {window : Window}

/-- Two lines show the place `index` of a text: the upper one is the text from `start` to `stop`,
the lower one has its only caret in the column of the place. -/
structure Shows (text : List Char) (start stop index : Int) (snippet pointer : List Char) :
    Prop where
  first : start ≤ index
  last : index ≤ stop
  length_snippet : (snippet.length : Int) = stop - start
  cut : ∃ before after, text = before ++ snippet ++ after ∧ (before.length : Int) = start
  caret : pointer[(index - start).toNat]? = some '^'
  count_caret : pointer.count '^' = 1
  spaces : ∀ c ∈ pointer, c ≠ '^' → c = ' '
  length_pointer :
    (pointer.length : Int) = if index < stop then stop - start else stop - start + 1
  /-- The caret stands under the character at the place, if the window shows it. -/
  under : index < text.length → index < stop →
    ∃ c, text[index.toNat]? = some c ∧ snippet[(index - start).toNat]? = some c

theorem length_snippet (first : start ≤ stop) (nonneg : 0 ≤ start) (within : stop ≤ text.length) :
    ((snippet text start stop).length : Int) = stop - start := by
  rw [snippet_eq _ _ (Int.le_trans nonneg first), List.length_drop, List.length_take]
  omega

/-- A text is what stands before a window, what the window cuts out, and what stands behind it. -/
theorem exists_cut (first : start ≤ stop) (nonneg : 0 ≤ start) (within : stop ≤ text.length) :
    ∃ before after, text = before ++ snippet text start stop ++ after ∧
      (before.length : Int) = start := by
  refine ⟨text.take start.toNat, text.drop stop.toNat, ?_, ?_⟩
  · have early : text.take start.toNat = (text.take stop.toNat).take start.toNat := by
      rw [List.take_take, Nat.min_eq_left (by omega)]
    rw [snippet_eq _ _ (Int.le_trans nonneg first), early, List.take_append_drop,
      List.take_append_drop]
  · rw [List.length_take]
    omega

/-- In the column of a place that a window shows stands the character at the place. -/
theorem getElem?_snippet (nonneg : 0 ≤ start) (first : start ≤ index) (reached : index < stop) :
    (snippet text start stop)[(index - start).toNat]? = text[index.toNat]? := by
  have column : start.toNat + (index - start).toNat = index.toNat := by omega
  rw [snippet_eq _ _ (by omega), List.getElem?_drop, column, List.getElem?_take_of_lt (by omega)]

theorem count_pointer (first : start ≤ index) (last : index ≤ stop) :
    (pointer start stop index).count '^' = 1 := by
  have spaces (n : Nat) : (List.replicate n ' ').count '^' = 0 := by simp [List.count_replicate]
  rw [pointer_eq first last, List.count_append, spaces, List.count_cons_self, spaces]

theorem getElem?_pointer (first : start ≤ index) (last : index ≤ stop) :
    (pointer start stop index)[(index - start).toNat]? = some '^' := by
  simp [pointer_eq first last]

theorem length_pointer (first : start ≤ index) (last : index ≤ stop) :
    ((pointer start stop index).length : Int) =
      if index < stop then stop - start else stop - start + 1 := by
  rw [pointer_eq first last, List.length_append, List.length_cons, List.length_replicate,
    List.length_replicate]
  split <;> omega

theorem shows_snippet (nonneg : 0 ≤ start) (first : start ≤ index) (last : index ≤ stop)
    (within : stop ≤ text.length) :
    Shows text start stop index (snippet text start stop) (pointer start stop index) where
  first := first
  last := last
  length_snippet := length_snippet (Int.le_trans first last) nonneg within
  cut := exists_cut (Int.le_trans first last) nonneg within
  caret := getElem?_pointer first last
  count_caret := count_pointer first last
  spaces := by
    rw [pointer_eq first last]
    simp +contextual [List.mem_replicate, or_imp]
  length_pointer := length_pointer first last
  under := by
    intro inside reached
    obtain ⟨c, found⟩ : ∃ c, text[index.toNat]? = some c :=
      ⟨_, List.getElem?_eq_getElem (by omega)⟩
    exact ⟨c, found, (getElem?_snippet nonneg first reached).trans found⟩

/-- The diagnostic about `length` characters from `index` on is its message and, indented, two lines
that show the place under the window. -/
def Draws (window : Window) (message text : String) (index length : Int)
    (snippet pointer : List Char) : Prop :=
  render window message text index length =
      message ++ "\n    " ++ String.ofList snippet ++ "\n    " ++ String.ofList pointer ∧
    Shows text.toList (max (index - window.before) 0)
      (min (index + length + window.after) text.length) index snippet pointer

theorem draws_snippet (message : String) {text : String} (back : 0 ≤ window.before)
    (ahead : 0 ≤ window.after) (inside : 0 ≤ index) (within : index ≤ text.length)
    (nonneg : 0 ≤ length) :
    Draws window message text index length
      (snippet text.toList (window.start index) (window.stop index length text.length))
      (pointer (window.start index) (window.stop index length text.length) index) := by
  have first : window.start index ≤ index := Window.start_le back inside
  have last : index ≤ window.stop index length text.length := Window.le_stop ahead nonneg within
  have bounded := Window.stop_le_size window index length text.length
  rw [← String.length_toList] at last bounded ⊢
  exact ⟨rfl, shows_snippet (Window.start_nonneg window index) first last bounded⟩

/-- A diagnostic about a place inside a text shows what its window cuts out of the text, with the
caret at the place. If the window shows the character there, then the caret stands under it, and
still does so under every wider window. -/
theorem render_draws (message : String) {text : String} (back : 0 ≤ window.before)
    (ahead : 0 ≤ window.after) (inside : 0 ≤ index) (within : index ≤ text.length)
    (nonneg : 0 ≤ length) :
    (∃ snippet pointer, Draws window message text index length snippet pointer) ∧
      ∀ wider : Window, window.before ≤ wider.before → window.after ≤ wider.after →
        index < min (index + length + window.after) text.length →
          ∃ snippet pointer c, Draws wider message text index length snippet pointer ∧
            text.toList[index.toNat]? = some c ∧
            snippet[(index - max (index - wider.before) 0).toNat]? = some c ∧
            pointer[(index - max (index - wider.before) 0).toNat]? = some '^' := by
  refine ⟨⟨_, _, draws_snippet message back ahead inside within nonneg⟩, ?_⟩
  intro wider behind beyond reached
  have grown := draws_snippet message (Int.le_trans back behind) (Int.le_trans ahead beyond) inside
    within nonneg
  have seen : index < text.toList.length := by
    rw [String.length_toList]
    omega
  have reaches : index < min (index + length + wider.after) text.length := by omega
  obtain ⟨c, found, under⟩ := grown.2.under seen reaches
  exact ⟨_, _, c, grown, found, under, grown.2.caret⟩

/-- The last word of a text, first under a window that ends with it, then under one that is cut off
by the text at both ends. -/
theorem render_draws_last_word :
    let text := "hour(9) x"
    let window : Window := ⟨2, 0⟩
    let wider : Window := ⟨20, 5⟩
    (0 ≤ window.before ∧ 0 ≤ window.after ∧ (0 : Int) ≤ 8 ∧ (8 : Int) ≤ text.length ∧
        (0 : Int) ≤ 1) ∧
      window.before ≤ wider.before ∧ window.after ≤ wider.after ∧
      (8 : Int) < min (8 + 1 + window.after) text.length ∧
      render window "Unknown" text 8 1 = "Unknown\n    ) x\n      ^" ∧
      (∃ snippet pointer, Draws window "Unknown" text 8 1 snippet pointer) ∧
      render wider "Unknown" text 8 1 = "Unknown\n    hour(9) x\n            ^" ∧
      ∃ snippet pointer c, Draws wider "Unknown" text 8 1 snippet pointer ∧
        text.toList[8]? = some c ∧ snippet[8]? = some c ∧ pointer[8]? = some '^' := by
  intro text window wider
  have within : (8 : Int) ≤ text.length := by decide
  have reached : (8 : Int) < min (8 + 1 + window.after) text.length := by decide
  obtain ⟨drawn, grows⟩ := @render_draws 8 1 window "Unknown" text (by decide) (by decide)
    (by decide) within (by decide)
  exact ⟨⟨by decide, by decide, by decide, within, by decide⟩, by decide, by decide, reached,
    by decide +kernel, drawn, by decide +kernel, grows wider (by decide) (by decide) reached⟩

end Schedule.Diagnostic
