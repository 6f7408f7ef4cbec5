import Mathlib.Data.List.Chain
import Schedule.Proofs.TokenKinds

/-! # Cutting a text that was put together from tokens

If no two words stand next to each other, the tokens of a text need no blanks between them: a text
put together from the values of some tokens is cut into these values again.
-/

namespace Schedule

namespace Token

/-- The token is a word: it has characters, and none of them separates words. -/
def IsWord (t : Token) : Prop :=
  t.value.toList ≠ [] ∧ ∀ c ∈ t.value.toList, isBlank c = false ∧ Schedule.isMark c = false

/-- The token is one that a text can be cut into. -/
def IsPiece (t : Token) : Prop :=
  t.isMark = true ∨ t.IsWord

end Token

/-- The characters of some tokens, one after the other. -/
def spelling (ts : List Token) : List Char :=
  ts.flatMap fun t => t.value.toList

/-- The tokens can stand next to each other: each is one that a text can be cut into, and of any two
neighbours one is a mark. -/
structure Joinable (ts : List Token) : Prop where
  pieces : ∀ t ∈ ts, t.IsPiece
  apart : ts.IsChain fun s t => s.isMark = true ∨ t.isMark = true

theorem joinable_nil : Joinable [] :=
  ⟨by simp, .nil⟩

theorem joinable_singleton {t : Token} (piece : t.IsPiece) : Joinable [t] :=
  ⟨by simpa using piece, .singleton t⟩

theorem joinable_cons {mark : Token} {ts : List Token} (isMark : mark.isMark = true)
    (joinable : Joinable ts) : Joinable (mark :: ts) :=
  ⟨List.forall_mem_cons.mpr ⟨.inl isMark, joinable.pieces⟩,
    joinable.apart.cons fun _ _ => .inl isMark⟩

/-- A mark between them joins any two lists. -/
theorem joinable_append {mark : Token} {left right : List Token} (isMark : mark.isMark = true)
    (before : Joinable left) (after : Joinable right) : Joinable (left ++ mark :: right) := by
  have rest := joinable_cons isMark after
  refine ⟨List.forall_mem_append.mpr ⟨before.pieces, rest.pieces⟩, ?_⟩
  refine before.apart.append rest.apart fun s _ t first => .inr ?_
  cases first
  exact isMark

theorem isBlank_of_isMark {c : Char} (mark : isMark c = true) : isBlank c = false := by
  simp only [isMark, Bool.or_eq_true, beq_iff_eq] at mark
  rcases mark with (((((rfl | rfl) | rfl) | rfl) | rfl) | rfl) | rfl <;> decide

/-- The values of the tokens cut from a text. -/
def cut (offset : Nat) (word cs : List Char) : List String :=
  (scan offset word cs).map Token.value

/-- The word of which the given characters have been read, newest first, unless there is none. -/
def wordOf (word : List Char) : List String :=
  if word = [] then [] else [String.ofList word.reverse]

theorem map_value_closeWord (offset : Nat) (word : List Char) (rest : List Token) :
    (closeWord offset word rest).map Token.value = wordOf word ++ rest.map Token.value := by
  cases word <;> rfl

/-- The characters of a word are taken together, whatever follows. -/
theorem scan_word (offset : Nat) (read cs rest : List Char)
    (word : ∀ c ∈ cs, isBlank c = false ∧ isMark c = false) :
    scan offset read (cs ++ rest) = scan (offset + cs.length) (cs.reverse ++ read) rest := by
  induction cs generalizing offset read with
  | nil => rfl
  | cons c cs ih =>
    rw [List.forall_mem_cons] at word
    rw [List.cons_append, scan, word.1.1, word.1.2]
    simp only [Bool.false_eq_true, if_false]
    rw [ih (offset + 1) (c :: read) word.2, List.length_cons, List.reverse_cons, List.append_assoc,
      Nat.add_assoc, Nat.add_comm 1, List.singleton_append]

/-- A mark ends the word before it and is a token by itself. -/
theorem cut_mark (offset : Nat) (word : List Char) {c : Char} (mark : isMark c = true)
    (cs : List Char) :
    cut offset word (c :: cs) = wordOf word ++ String.singleton c :: cut (offset + 1) [] cs := by
  rw [cut, scan, isBlank_of_isMark mark, mark]
  simp only [Bool.false_eq_true, if_false, if_true]
  rw [map_value_closeWord]
  rfl

theorem cut_nil (offset : Nat) (word : List Char) : cut offset word [] = wordOf word := by
  rw [cut, scan, map_value_closeWord, List.map_nil, List.append_nil]

theorem toList_of_isMark {t : Token} (mark : t.isMark = true) :
    ∃ c, isMark c = true ∧ t.value.toList = [c] ∧ t.value = String.singleton c := by
  unfold Token.isMark at mark
  split at mark
  · next c single =>
    refine ⟨c, mark, single, ?_⟩
    rw [← String.ofList_toList (s := t.value), single, String.singleton_eq_ofList]
  · contradiction

namespace Token.IsPiece

variable {t : Token} {c : Char}

theorem isBlank_eq_false (piece : t.IsPiece) (member : c ∈ t.value.toList) : isBlank c = false := by
  rcases piece with mark | word
  · obtain ⟨m, mark, single, _⟩ := toList_of_isMark mark
    rw [single, List.mem_singleton] at member
    exact member ▸ isBlank_of_isMark mark
  · exact (word.2 c member).1

theorem value_eq_singleton (piece : t.IsPiece) (member : c ∈ t.value.toList)
    (mark : Schedule.isMark c = true) : t.value = String.singleton c := by
  rcases piece with alone | word
  · obtain ⟨m, _, single, same⟩ := toList_of_isMark alone
    rw [single, List.mem_singleton] at member
    rw [member, same]
  · rw [(word.2 c member).2] at mark
    contradiction

end Token.IsPiece

/-- Tokens that can stand next to each other are cut apart again. The induction is on the tokens; a
word among them is followed by a mark or nothing, which is where it ends. -/
theorem cut_spelling {ts : List Token} (joinable : Joinable ts) (offset : Nat) :
    cut offset [] (spelling ts) = ts.map Token.value := by
  induction ts generalizing offset with
  | nil => exact cut_nil offset []
  | cons t ts ih =>
    obtain ⟨pieces, apart⟩ := joinable
    rw [List.forall_mem_cons] at pieces
    have rest := fun offset => ih ⟨pieces.2, apart.tail⟩ offset
    rw [spelling, List.flatMap_cons, ← spelling]
    rcases pieces.1 with mark | ⟨filled, word⟩
    · obtain ⟨c, mark, single, same⟩ := toList_of_isMark mark
      rw [single, List.singleton_append, cut_mark offset [] mark, rest, List.map_cons, same]
      rfl
    · have closed : wordOf (t.value.toList.reverse ++ []) = [t.value] := by
        rw [wordOf, List.append_nil, if_neg (by simpa using filled), List.reverse_reverse,
          String.ofList_toList]
      rw [cut, scan_word offset [] _ _ word, ← cut]
      cases ts with
      | nil => rw [spelling, List.flatMap_nil, cut_nil, closed]; rfl
      | cons next more =>
        have notMark : t.isMark = false := by
          cases mark : t.isMark with
          | false => rfl
          | true =>
            obtain ⟨c, mark, single, _⟩ := toList_of_isMark mark
            rw [(word c (by simp [single])).2] at mark
            contradiction
        have nextMark : next.isMark = true := by
          have neighbours := (List.isChain_cons_cons.mp apart).1
          simpa [notMark] using neighbours
        obtain ⟨c, mark, single, same⟩ := toList_of_isMark nextMark
        have others := rest (offset + t.value.toList.length)
        rw [spelling, List.flatMap_cons, single, List.singleton_append,
          cut_mark _ _ mark] at others ⊢
        rw [closed, List.singleton_append, List.map_cons]
        exact congrArg _ others

/-- A text put together from tokens that can stand next to each other is cut into them again. -/
theorem tokenize_spelling {ts : List Token} (joinable : Joinable ts) :
    (tokenize (String.ofList (spelling ts))).map Token.value = ts.map Token.value := by
  rw [tokenize, String.toList_ofList]
  exact cut_spelling joinable 0

end Schedule
