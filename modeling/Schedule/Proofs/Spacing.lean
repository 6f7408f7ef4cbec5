import Schedule.Proofs.Layout

/-! # Where a text can be spaced and parted

The tokens of a text can be written with any blanks before, between and behind them, as long as one
stands between two words. Cutting the text gives them back at the offsets where they were written.
Texts can be put together wherever no word goes on from one into the other: then each has its own
tokens.
-/

namespace Schedule

/-- What a text can be cut into: a character that is a token by itself, or a word. -/
inductive Piece where
  | mark (c : Char) (marks : isMark c = true)
  | word (value : String) (filled : value ≠ "") (inside : ∀ c ∈ value.toList, ¬ Separates c)

namespace Piece

def value : Piece → String
  | mark c _ => String.singleton c
  | word value _ _ => value

def IsWord : Piece → Prop
  | mark .. => False
  | word .. => True

end Piece

/-- A piece as it is written, with some blanks behind it. -/
structure Spaced where
  piece : Piece
  gap : List Char
  blank : ∀ c ∈ gap, isBlank c = true

/-- The characters of the piece and of the blanks. -/
def Spaced.text (s : Spaced) : List Char :=
  s.piece.value.toList ++ s.gap

/-- Blanks, and pieces with blanks behind them; two words that follow each other are kept apart. -/
structure Layout where
  lead : List Char
  pieces : List Spaced
  blank : ∀ c ∈ lead, isBlank c = true
  apart : pieces.IsChain fun s t => s.piece.IsWord → t.piece.IsWord → s.gap ≠ []

namespace Layout

/-- The text that is laid out so. -/
def text (layout : Layout) : String :=
  String.ofList (layout.lead ++ layout.pieces.flatMap Spaced.text)

/-- The values of the pieces, each at the offset where it is written if the first of them stands at
the given one. -/
def placed (offset : Nat) : List Spaced → List Token
  | [] => []
  | s :: rest => ⟨offset, s.piece.value⟩ :: placed (offset + s.text.length) rest

/-- The pieces where they are written in the text. -/
def tokens (layout : Layout) : List Token :=
  placed layout.lead.length layout.pieces

end Layout

variable {offset : Nat} {gap cs : List Char} {ts : List Token}

/-! ### Texts with blanks -/

theorem LaidOut.blanks (blank : ∀ c ∈ gap, isBlank c = true)
    (rest : LaidOut (offset + gap.length) cs ts) : LaidOut offset (gap ++ cs) ts := by
  induction gap generalizing offset with
  | nil => exact rest
  | cons c gap ih =>
    rw [List.forall_mem_cons] at blank
    refine .blank blank.1 (ih blank.2 ?_)
    rwa [Nat.add_assoc, Nat.add_comm 1, ← List.length_cons]

/-- A piece is laid out in front of other text; a word only if that does not go on with it. -/
theorem Piece.laidOut (p : Piece) (ends : p.IsWord → ∀ c ∈ cs.head?, Separates c)
    (rest : LaidOut (offset + p.value.toList.length) cs ts) :
    LaidOut offset (p.value.toList ++ cs) (⟨offset, p.value⟩ :: ts) := by
  cases p with
  | mark c marks =>
    rw [Piece.value, String.toList_singleton] at rest ⊢
    exact .mark marks rest
  | word value filled inside =>
    have laidOut := LaidOut.word (by simpa using filled) inside (ends trivial) rest
    rwa [String.ofList_toList] at laidOut

/-- Behind a word comes a blank, a mark or the end. -/
theorem ends_of_isWord {s : Spaced} {rest : List Spaced} (word : s.piece.IsWord)
    (apart : (s :: rest).IsChain fun s t => s.piece.IsWord → t.piece.IsWord → s.gap ≠ []) :
    ∀ c ∈ (s.gap ++ rest.flatMap Spaced.text).head?, Separates c := by
  obtain ⟨piece, gap, blank⟩ := s
  cases gap with
  | cons d gap => simpa [Separates] using .inl (blank d (by simp))
  | nil =>
    cases rest with
    | nil => simp
    | cons t rest =>
      have parted := (List.isChain_cons_cons.mp apart).1 word
      obtain ⟨piece', gap', blank'⟩ := t
      cases piece' with
      | word => exact absurd rfl (parted trivial)
      | mark c marks => simpa [Spaced.text, Piece.value, Separates] using .inr marks

/-- The pieces are laid out where they are written. The induction is on the pieces. -/
theorem laidOut_placed {pieces : List Spaced}
    (apart : pieces.IsChain fun s t => s.piece.IsWord → t.piece.IsWord → s.gap ≠ [])
    (offset : Nat) :
    LaidOut offset (pieces.flatMap Spaced.text) (Layout.placed offset pieces) := by
  induction pieces generalizing offset with
  | nil => exact .done offset
  | cons s rest ih =>
    have onward := ih apart.tail (offset + s.text.length)
    rw [List.flatMap_cons, Layout.placed, Spaced.text, List.append_assoc]
    refine s.piece.laidOut (fun word => ends_of_isWord word apart) (.blanks s.blank ?_)
    rwa [Nat.add_assoc, ← List.length_append, ← Spaced.text]

theorem Layout.laidOut (layout : Layout) : LaidOut 0 layout.text.toList layout.tokens := by
  rw [Layout.text, String.toList_ofList]
  refine .blanks layout.blank ?_
  rw [Nat.zero_add]
  exact laidOut_placed layout.apart layout.lead.length

/-! ### Texts put together -/

/-- No word goes on from the one text into the other: one of them is empty, or the first ends or the
second begins with a character that separates words. -/
def Seam (a b : String) : Prop :=
  a = "" ∨ b = "" ∨ (∃ c ∈ a.toList.getLast?, Separates c) ∨ ∃ c ∈ b.toList.head?, Separates c

theorem tokenize_append_of_seam {a b : String} (seam : Seam a b) :
    tokenize (a ++ b) = tokenize a ++ (tokenize b).map (Token.shift a.length) := by
  rcases seam with rfl | rfl | ⟨c, last, separates⟩ | ⟨c, first, separates⟩
  · rw [← scan_eq_map_tokenize, String.empty_append]
    rfl
  · exact tokenize_append_of_begins a (by simp)
  · obtain ⟨before, same⟩ := List.getLast?_eq_some_iff.mp last
    exact tokenize_append ⟨before, c, same, separates⟩ b
  · refine tokenize_append_of_begins a fun d first' => ?_
    rwa [← Option.some.inj (first.symm.trans first')]

/-- However pieces are laid out, the text is cut into them where they are written; and at a seam two
texts are cut each by itself. -/
theorem tokenize_layout_and_seam :
    (∀ layout : Layout, tokenize layout.text = layout.tokens) ∧
    ∀ a b : String, Seam a b →
      tokenize (a ++ b) = tokenize a ++ (tokenize b).map (Token.shift a.length) :=
  ⟨fun layout => laidOut_iff_tokenize_eq.mp layout.laidOut, fun _ _ => tokenize_append_of_seam⟩

/-- Blanks before and between the pieces of an hour move them, and a list of hours is cut alike in
one text or in two. -/
theorem tokenize_layout_and_seam_hours :
    (∃ layout : Layout, layout.text = " h( 9\t10)" ∧ tokenize layout.text = layout.tokens ∧
      layout.tokens = [⟨1, "h"⟩, ⟨2, "("⟩, ⟨4, "9"⟩, ⟨6, "10"⟩, ⟨8, ")"⟩]) ∧
    tokenize ("h(9" ++ ",10)") = tokenize "h(9" ++ (tokenize ",10)").map (Token.shift 3) := by
  let layout : Layout :=
    { lead := [' ']
      pieces :=
        [⟨.word "h" (by decide) (by simp [Separates, isBlank, isMark]), [], by simp⟩,
          ⟨.mark '(' rfl, [' '], by simp [isBlank]⟩,
          ⟨.word "9" (by decide) (by simp [Separates, isBlank, isMark]), ['\t'], by simp [isBlank]⟩,
          ⟨.word "10" (by decide) (by simp [Separates, isBlank, isMark]), [], by simp⟩,
          ⟨.mark ')' rfl, [], by simp⟩]
      blank := by simp [isBlank]
      apart := by simp [Piece.IsWord] }
  have seam : Seam "h(9" ",10)" := .inr (.inr (.inr ⟨',', by decide, .inr (by decide)⟩))
  exact ⟨⟨layout, by decide, tokenize_layout_and_seam.1 layout, by decide⟩,
    tokenize_layout_and_seam.2 "h(9" ",10)" seam⟩

end Schedule
