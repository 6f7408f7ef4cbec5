import Schedule.Proofs.Tokenize
import Schedule.Proofs.TokenPlace
import Schedule.Proofs.TokenSeam

/-! # How a text is laid out

A text is written as blanks, marks and words, and its tokens are the marks and the words at the
offsets where they are written. A word goes on up to the next blank or mark, so that no other list
of tokens is laid out as the same text.
-/

namespace Schedule

/-- The text, which begins at the offset, is laid out as the tokens. -/
inductive LaidOut : Nat → List Char → List Token → Prop
  | done (offset : Nat) : LaidOut offset [] []
  | blank {offset : Nat} {c : Char} {cs : List Char} {ts : List Token} (blank : isBlank c = true)
      (rest : LaidOut (offset + 1) cs ts) : LaidOut offset (c :: cs) ts
  | mark {offset : Nat} {c : Char} {cs : List Char} {ts : List Token} (mark : isMark c = true)
      (rest : LaidOut (offset + 1) cs ts) :
      LaidOut offset (c :: cs) (⟨offset, String.singleton c⟩ :: ts)
  | word {offset : Nat} {word cs : List Char} {ts : List Token} (filled : word ≠ [])
      (inside : ∀ c ∈ word, ¬ Separates c) (ends : ∀ c ∈ cs.head?, Separates c)
      (rest : LaidOut (offset + word.length) cs ts) :
      LaidOut offset (word ++ cs) (⟨offset, String.ofList word⟩ :: ts)

variable {offset start : Nat} {word cs : List Char} {ts : List Token} {c : Char}

theorem not_separates_iff : ¬ Separates c ↔ isBlank c = false ∧ isMark c = false := by
  rw [Separates, not_or, Bool.not_eq_true, Bool.not_eq_true]

theorem scan_eq_of_laidOut (laidOut : LaidOut offset cs ts) : scan offset [] cs = ts := by
  induction laidOut with
  | done offset => rfl
  | blank blank _ ih =>
    rw [scan, if_pos blank, ih]
    rfl
  | mark mark _ ih =>
    rw [scan, isBlank_of_isMark mark, if_neg Bool.false_ne_true, if_pos mark, ih]
    rfl
  | @word offset word cs ts filled inside ends _ ih =>
    have apart : ∀ c ∈ word, isBlank c = false ∧ isMark c = false := fun c member =>
      not_separates_iff.mp (inside c member)
    rw [scan_word offset [] word cs apart, List.append_nil, scan_of_ends _ _ ends, ih]
    rw [closeWord, List.length_reverse, Nat.add_sub_cancel, List.reverse_reverse]
    simpa using filled

/-- The unfinished word is laid out once it has ended. -/
theorem laidOut_closeWord (inside : ∀ c ∈ word, ¬ Separates c) (ends : ∀ c ∈ cs.head?, Separates c)
    (rest : LaidOut (start + word.length) cs ts) :
    LaidOut start (word.reverse ++ cs) (closeWord (start + word.length) word ts) := by
  cases word with
  | nil => exact rest
  | cons c word =>
    rw [closeWord, Nat.add_sub_cancel]
    · refine .word (by simp) (fun d member => inside d (List.mem_reverse.mp member)) ends ?_
      rwa [List.length_reverse]
    · simp

/-- The induction is on the characters ahead; the word that has not ended is laid out with them. -/
theorem laidOut_scan (start : Nat) (inside : ∀ c ∈ word, ¬ Separates c) (cs : List Char) :
    LaidOut start (word.reverse ++ cs) (scan (start + word.length) word cs) := by
  induction cs generalizing start word with
  | nil => exact laidOut_closeWord inside (by simp) (.done _)
  | cons c cs ih =>
    have onward : LaidOut (start + word.length + 1) cs (scan (start + word.length + 1) [] cs) :=
      @ih [] (start + word.length + 1) (by simp)
    rw [scan]
    split
    · next blank =>
      exact laidOut_closeWord inside (by simp [Separates, blank]) (.blank blank onward)
    · next notBlank =>
      split
      · next mark =>
        exact laidOut_closeWord inside (by simp [Separates, mark]) (.mark mark onward)
      · next notMark =>
        have longer := @ih (c :: word) start
          (List.forall_mem_cons.mpr ⟨not_or.mpr ⟨notBlank, notMark⟩, inside⟩)
        simpa [Nat.add_assoc] using longer

/-- A text is laid out as its tokens and as no other ones. -/
theorem laidOut_iff_tokenize_eq {text : String} :
    LaidOut 0 text.toList ts ↔ tokenize text = ts := by
  constructor
  · exact scan_eq_of_laidOut
  · rintro rfl
    exact @laidOut_scan [] 0 (by simp) text.toList

namespace LaidOut

/-- The tokens stand where the text stands, from the offset on. -/
theorem offset_le_index (laidOut : LaidOut offset cs ts) {t : Token} (member : t ∈ ts) :
    (offset : Int) ≤ t.index := by
  rw [← scan_eq_of_laidOut laidOut] at member
  exact @le_index_of_mem_scan offset [] cs t member

/-- Each token is a mark or a word. -/
theorem pieces (laidOut : LaidOut offset cs ts) : ∀ t ∈ ts, t.IsPiece := by
  induction laidOut with
  | done => simp
  | blank _ _ ih => exact ih
  | mark mark _ ih =>
    refine List.forall_mem_cons.mpr ⟨.inl ?_, ih⟩
    simpa [Token.isMark] using mark
  | word filled inside _ _ ih =>
    refine List.forall_mem_cons.mpr ⟨.inr ⟨?_, ?_⟩, ih⟩
    · simpa using filled
    · simpa [← not_separates_iff] using inside

end LaidOut

end Schedule
