import Mathlib.Tactic.Common
import Schedule.Token

/-! # Texts that are put together

A blank or a mark ends the word before it, so a text that ends with one of them can be continued
without changing its tokens: those of the other text follow, moved to where that text begins. The
same holds if the other text begins with one of them. A text ends so if its last token is a mark.
-/

namespace Schedule

/-- The character belongs to no word: the word before it ends there. -/
def Separates (c : Char) : Prop :=
  isBlank c = true ∨ isMark c = true

/-- The token, further on in the text by some characters. -/
def Token.shift (offset : Nat) (t : Token) : Token :=
  ⟨t.index + offset, t.value⟩

variable {a b : String} {c : Char} {start offset : Nat} {word cs : List Char}

theorem closeWord_append (offset : Nat) (word : List Char) (ts us : List Token) :
    closeWord offset word (ts ++ us) = closeWord offset word ts ++ us := by
  cases word <;> rfl

/-- A word ends where the next character separates words or where there is none. -/
theorem scan_of_ends (offset : Nat) (word : List Char) (ends : ∀ c ∈ cs.head?, Separates c) :
    scan offset word cs = closeWord offset word (scan offset [] cs) := by
  cases cs with
  | nil => rfl
  | cons c cs =>
    have separates : Separates c := ends c rfl
    rw [scan, scan]
    split
    · rfl
    · next notBlank =>
      rw [if_pos (separates.resolve_left notBlank), if_pos (separates.resolve_left notBlank)]
      rfl

/-- Where no word can go on, the scan begins anew. The induction is on what comes before. -/
theorem scan_append_of_ends (ends : ∀ c ∈ cs.head?, Separates c) (offset : Nat)
    (word before : List Char) :
    scan offset word (before ++ cs) =
      scan offset word before ++ scan (offset + before.length) [] cs := by
  induction before generalizing offset word with
  | nil =>
    rw [List.nil_append, scan_of_ends offset word ends, scan, ← closeWord_append]
    rfl
  | cons d before ih =>
    have place : offset + (d :: before).length = offset + 1 + before.length := by
      rw [List.length_cons]
      omega
    simp only [List.cons_append, scan, place, ih]
    split
    · rw [closeWord_append]
    · split
      · rw [← List.cons_append, closeWord_append]
      · rfl

/-- After a character that separates words the scan begins anew too. -/
theorem scan_append (separates : Separates c) (offset : Nat) (word before after : List Char) :
    scan offset word (before ++ c :: after) =
      scan offset word (before ++ [c]) ++ scan (offset + before.length + 1) [] after := by
  have single (place : Nat) : scan place [] (c :: after) =
      scan place [] [c] ++ scan (place + 1) [] after := by
    rw [scan, scan]
    split
    · rfl
    · next notBlank =>
      rw [if_pos (separates.resolve_left notBlank), if_pos (separates.resolve_left notBlank)]
      rfl
  rw [scan_append_of_ends (by simpa using separates), single, ← List.append_assoc,
    ← scan_append_of_ends (by simpa using separates)]

theorem closeWord_shift (offset start : Nat) (word : List Char) (ts : List Token) :
    closeWord (offset + (start + word.length)) word (ts.map (Token.shift offset)) =
      (closeWord (start + word.length) word ts).map (Token.shift offset) := by
  cases word with
  | nil => rfl
  | cons c word =>
    have place : ((offset + (start + (c :: word).length) - (c :: word).length : Nat) : Int) =
        (start + (c :: word).length - (c :: word).length : Nat) + offset := by omega
    simp only [closeWord, List.map_cons, Token.shift, place]

/-- A text that begins further on has its tokens further on. -/
theorem scan_shift (offset start : Nat) (word cs : List Char) :
    scan (offset + (start + word.length)) word cs =
      (scan (start + word.length) word cs).map (Token.shift offset) := by
  induction cs generalizing start word with
  | nil => exact closeWord_shift offset start word []
  | cons c cs ih =>
    have rest := ih (start + word.length + 1) []
    rw [List.length_nil, Nat.add_zero, ← Nat.add_assoc offset] at rest
    rw [scan, scan, rest]
    split
    · exact closeWord_shift ..
    · split
      · rw [← closeWord_shift, List.map_cons]
        congr 2
        rw [Token.shift, Int.natCast_add, Int.add_comm]
      · exact ih start (c :: word)

theorem scan_eq_map_tokenize (offset : Nat) (text : String) :
    scan offset [] text.toList = (tokenize text).map (Token.shift offset) :=
  scan_shift offset 0 [] text.toList

/-- If a text ends with a character that separates words, what follows has its own tokens. -/
theorem tokenize_append (ends : ∃ before c, a.toList = before ++ [c] ∧ Separates c) (b : String) :
    tokenize (a ++ b) = tokenize a ++ (tokenize b).map (Token.shift a.length) := by
  obtain ⟨before, c, same, separates⟩ := ends
  have place : a.length = before.length + 1 := by
    rw [← String.length_toList, same, List.length_append, List.length_singleton]
  rw [← scan_eq_map_tokenize, tokenize, tokenize, String.toList_append, same, List.append_assoc,
    List.singleton_append, scan_append separates, place, Nat.zero_add]

/-- If a text begins with a character that separates words or is empty, it has its own tokens behind
any other. -/
theorem tokenize_append_of_begins (a : String) (begins : ∀ c ∈ b.toList.head?, Separates c) :
    tokenize (a ++ b) = tokenize a ++ (tokenize b).map (Token.shift a.length) := by
  rw [← scan_eq_map_tokenize, tokenize, tokenize, String.toList_append, scan_append_of_ends begins,
    String.length_toList, Nat.zero_add]

/-- The last token holds the last character of the text if that belongs to a word. -/
theorem exists_last_of_scan (inWord : ¬ Separates c) (offset : Nat) (word before : List Char) :
    ∃ ts t, scan offset word (before ++ [c]) = ts ++ [t] ∧ c ∈ t.value.toList := by
  induction before generalizing offset word with
  | nil =>
    rw [Separates, not_or] at inWord
    rw [List.nil_append, scan, if_neg inWord.1, if_neg inWord.2]
    exact ⟨[], _, rfl, by simp⟩
  | cons d before ih =>
    rw [List.cons_append, scan]
    split
    · obtain ⟨ts, t, same, inside⟩ := ih (offset + 1) []
      exact ⟨closeWord offset word ts, t, by rw [same, closeWord_append], inside⟩
    · split
      · obtain ⟨ts, t, same, inside⟩ := ih (offset + 1) []
        exact ⟨closeWord offset word (⟨offset, String.singleton d⟩ :: ts), t,
          by rw [same, ← List.cons_append, closeWord_append], inside⟩
      · exact ih (offset + 1) (d :: word)

/-- A text whose last token is a mark ends with a character that separates words. -/
theorem ends_of_last_mark {ts : List Token} {mark : Token} (cut : tokenize a = ts ++ [mark])
    (isMark : mark.isMark = true) : ∃ before c, a.toList = before ++ [c] ∧ Separates c := by
  rcases List.eq_nil_or_concat a.toList with empty | ⟨before, c, same⟩
  · rw [tokenize, empty] at cut
    simp [scan, closeWord] at cut
  · rw [List.concat_eq_append] at same
    refine ⟨before, c, same, ?_⟩
    by_contra inWord
    obtain ⟨us, t, last, inside⟩ := exists_last_of_scan inWord 0 [] before
    rw [tokenize, same, last] at cut
    have lastMark : t = mark := List.singleton_inj.mp (List.append_inj' cut rfl).2
    subst lastMark
    unfold Token.isMark at isMark
    split at isMark
    · next m single =>
      rw [single, List.mem_singleton] at inside
      exact inWord (.inr (inside ▸ isMark))
    · contradiction

end Schedule
