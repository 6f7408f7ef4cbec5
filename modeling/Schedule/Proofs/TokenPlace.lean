import Mathlib.Data.List.Chain
import Mathlib.Data.List.Nodup
import Mathlib.Data.List.Pairwise
import Schedule.Token

/-! # Where tokens stand

A token is the stretch of its text that begins at the token's offset, and the tokens of a text come
one after the other. So a token of a text tells where it stands, and no token occurs twice.
-/

namespace Schedule

namespace Token

/-- The text has the token's characters at the token's offset. -/
def StandsIn (t : Token) (text : List Char) : Prop :=
  ∃ before after, text = before ++ (t.value.toList ++ after) ∧ t.index = before.length

/-- The token is a stretch of the text and not an empty one. -/
structure CutFrom (t : Token) (text : List Char) : Prop where
  stands : t.StandsIn text
  filled : t.value.toList ≠ []

/-- The token ends before the other begins. -/
def Before (s t : Token) : Prop :=
  s.index + s.value.length ≤ t.index

/-- The offset behind the token's last character. -/
def stop (t : Token) : Int :=
  t.index + t.value.length

/-- The character at the offset is one of the token's characters. -/
def Covers (t : Token) (p : Nat) : Prop :=
  t.index ≤ p ∧ p < t.stop

variable {s t : Token} {text : List Char} {offset p : Nat} {c : Char}

theorem before_iff : s.Before t ↔ s.stop ≤ t.index :=
  Iff.rfl

theorem covers_mk_iff {value : String} :
    (Token.mk offset value).Covers p ↔ offset ≤ p ∧ p < offset + value.length := by
  simp only [Covers, stop]
  omega

/-- At the start of any text there are no characters. -/
theorem standsIn_empty (text : List Char) : (Token.mk 0 "").StandsIn text :=
  ⟨[], text, by simp, rfl⟩

namespace StandsIn

theorem index_nonneg (stands : t.StandsIn text) : 0 ≤ t.index := by
  obtain ⟨before, _, _, place⟩ := stands
  omega

theorem index_add_length_le (stands : t.StandsIn text) :
    t.index + t.value.length ≤ text.length := by
  obtain ⟨before, after, rfl, place⟩ := stands
  rw [place, ← String.length_toList]
  simp only [List.length_append]
  omega

/-- What stands between the token's first and last character is the token. -/
theorem drop_take (stands : t.StandsIn text) :
    (text.take (t.index + t.value.length).toNat).drop t.index.toNat = t.value.toList := by
  obtain ⟨before, after, rfl, place⟩ := stands
  have stop : (t.index + t.value.length).toNat = before.length + t.value.toList.length := by
    rw [place, ← String.length_toList]
    omega
  rw [stop, place, Int.toNat_natCast, ← List.append_assoc, ← List.length_append, List.take_left,
    List.drop_left]

/-- The token's characters stand in the text one after the other. -/
theorem getElem?_add (stands : t.StandsIn text) {k : Nat} (inside : k < t.value.toList.length) :
    text[t.index.toNat + k]? = some t.value.toList[k] := by
  obtain ⟨before, after, rfl, place⟩ := stands
  rw [place, Int.toNat_natCast, List.getElem?_append_right (by omega), Nat.add_sub_cancel_left,
    List.getElem?_append_left inside, List.getElem?_eq_getElem inside]

/-- The character at an offset that a token covers is one of the token's. -/
theorem exists_of_covers (stands : t.StandsIn text) (covers : t.Covers p) :
    ∃ c, text[p]? = some c ∧ c ∈ t.value.toList := by
  have start := stands.index_nonneg
  rw [Covers, stop, ← String.length_toList] at covers
  obtain ⟨k, rfl⟩ : ∃ k, p = t.index.toNat + k := ⟨p - t.index.toNat, by omega⟩
  have inside : k < t.value.toList.length := by omega
  exact ⟨t.value.toList[k], stands.getElem?_add inside, List.getElem_mem inside⟩

theorem mem_of_covers (stands : t.StandsIn text) (covers : t.Covers p)
    (found : text[p]? = some c) : c ∈ t.value.toList := by
  obtain ⟨d, same, member⟩ := stands.exists_of_covers covers
  obtain rfl : d = c := Option.some.inj (same.symm.trans found)
  exact member

/-- Each of a token's characters stands at an offset that the token covers. -/
theorem exists_covers (stands : t.StandsIn text) (member : c ∈ t.value.toList) :
    ∃ p, t.Covers p ∧ text[p]? = some c := by
  have start := stands.index_nonneg
  obtain ⟨k, inside, rfl⟩ := List.getElem_of_mem member
  refine ⟨t.index.toNat + k, ?_, stands.getElem?_add inside⟩
  rw [Covers, stop, ← String.length_toList]
  omega

/-- Two tokens of one text that begin and end together are the same. -/
theorem ext (left : s.StandsIn text) (right : t.StandsIn text) (start : s.index = t.index)
    (stop : s.stop = t.stop) : s = t := by
  have same : s.value.toList = t.value.toList := by
    rw [← left.drop_take, ← right.drop_take, ← Token.stop, ← Token.stop, start, stop]
  cases s
  cases t
  exact congrArg₂ Token.mk start (String.toList_injective same)

end StandsIn

theorem CutFrom.length_pos (cut : t.CutFrom text) : 0 < t.value.length := by
  rw [← String.length_toList]
  exact List.length_pos_iff.mpr cut.filled

theorem CutFrom.index_lt_stop (cut : t.CutFrom text) : t.index < t.stop := by
  have positive := cut.length_pos
  rw [stop]
  omega

/-- A token covers the offset of its first character. -/
theorem CutFrom.covers_index (cut : t.CutFrom text) : t.Covers t.index.toNat := by
  have start := cut.stands.index_nonneg
  have filled := cut.index_lt_stop
  rw [Covers, Int.toNat_of_nonneg start]
  exact ⟨Int.le_refl _, filled⟩

end Token

variable {offset start p : Nat} {read word cs : List Char} {ts rest : List Token} {s t : Token}

/-- Of two tokens one comes before the other. -/
theorem before_or_before (ordered : ts.Pairwise Token.Before) (left : s ∈ ts) (right : t ∈ ts)
    (distinct : s ≠ t) : s.Before t ∨ t.Before s := by
  have either : ts.Pairwise fun s t => s.Before t ∨ t.Before s := ordered.imp .inl
  have : Std.Symm fun s t : Token => s.Before t ∨ t.Before s := ⟨fun _ _ => Or.symm⟩
  exact either.forall left right distinct

/-- At most one token covers an offset. -/
theorem eq_of_covers (ordered : ts.Pairwise Token.Before) (left : s ∈ ts) (right : t ∈ ts)
    (leftCovers : s.Covers p) (rightCovers : t.Covers p) : s = t := by
  by_contra distinct
  rw [Token.Covers] at leftCovers rightCovers
  rcases before_or_before ordered left right distinct with before | before <;>
    rw [Token.before_iff] at before <;> omega

/-- A token that begins where another one ends is its neighbour. -/
theorem rel_of_touch {R : Token → Token → Prop} (cut : ∀ t ∈ ts, t.CutFrom text)
    (ordered : ts.Pairwise Token.Before) (chain : ts.IsChain R) (left : s ∈ ts) (right : t ∈ ts)
    (touch : s.stop = t.index) : R s t := by
  have leftFilled := (cut s left).index_lt_stop
  have rightFilled := (cut t right).index_lt_stop
  obtain ⟨before, rest, rfl⟩ := List.append_of_mem left
  obtain ⟨_, later, earlier⟩ := List.pairwise_append.mp ordered
  rcases List.mem_append.mp right with inFront | behind
  · have order := Token.before_iff.mp (earlier t inFront s List.mem_cons_self)
    omega
  · rcases List.mem_cons.mp behind with rfl | behind
    · omega
    · obtain ⟨next, more, rfl⟩ := List.exists_cons_of_ne_nil (List.ne_nil_of_mem behind)
      rcases List.mem_cons.mp behind with rfl | beyond
      · exact (List.isChain_append_cons_cons.mp chain).2.1
      · obtain ⟨first, second⟩ := List.pairwise_cons.mp later
        have order := Token.before_iff.mp (first next List.mem_cons_self)
        have distant := Token.before_iff.mp ((List.pairwise_cons.mp second).1 t beyond)
        have filled := (cut next (by simp)).index_lt_stop
        omega

theorem mem_closeWord :
    t ∈ closeWord offset word rest ↔
      (word ≠ [] ∧ t = ⟨(offset - word.length : Nat), String.ofList word.reverse⟩) ∨ t ∈ rest := by
  cases word <;> simp [closeWord]

theorem cutFrom_word (filled : word ≠ []) (cs : List Char) :
    (Token.mk (read.length + word.length - word.length : Nat)
      (String.ofList word.reverse)).CutFrom (read ++ (word.reverse ++ cs)) := by
  refine ⟨⟨read, cs, ?_, ?_⟩, by simpa using filled⟩
  · rw [String.toList_ofList]
  · rw [Nat.add_sub_cancel]

/-- Every token is cut from the text. The induction is on the characters ahead; what has
been read of the text is given up to the word that has not ended. -/
theorem cutFrom_of_mem_scan (member : t ∈ scan (read.length + word.length) word cs) :
    t.CutFrom (read ++ (word.reverse ++ cs)) := by
  induction cs generalizing read word with
  | nil =>
    rcases mem_closeWord.mp member with ⟨filled, rfl⟩ | none
    · exact cutFrom_word filled []
    · contradiction
  | cons c cs ih =>
    have onward (later : t ∈ scan (read.length + word.length + 1) [] cs) :
        t.CutFrom (read ++ (word.reverse ++ c :: cs)) := by
      have cut := @ih (read ++ (word.reverse ++ [c])) [] (by simpa [Nat.add_assoc] using later)
      simpa using cut
    rw [scan] at member
    split at member
    · rcases mem_closeWord.mp member with ⟨filled, rfl⟩ | later
      · exact cutFrom_word filled (c :: cs)
      · exact onward later
    · split at member
      · rcases mem_closeWord.mp member with ⟨filled, rfl⟩ | later
        · exact cutFrom_word filled (c :: cs)
        · rcases List.mem_cons.mp later with rfl | later
          · exact ⟨⟨read ++ word.reverse, cs, by simp, by simp⟩, by simp⟩
          · exact onward later
      · have cut := @ih read (c :: word) (by simpa [Nat.add_assoc] using member)
        simpa using cut

theorem le_index_of_mem_scan (member : t ∈ scan (start + word.length) word cs) :
    (start : Int) ≤ t.index := by
  induction cs generalizing start word with
  | nil =>
    rcases mem_closeWord.mp member with ⟨_, rfl⟩ | none
    · simp
    · contradiction
  | cons c cs ih =>
    have onward (later : t ∈ scan (start + word.length + 1) [] cs) : (start : Int) ≤ t.index := by
      have beyond := @ih (start + word.length + 1) [] later
      omega
    rw [scan] at member
    split at member
    · rcases mem_closeWord.mp member with ⟨_, rfl⟩ | later
      · simp
      · exact onward later
    · split at member
      · rcases mem_closeWord.mp member with ⟨_, rfl⟩ | later
        · simp
        · rcases List.mem_cons.mp later with rfl | later
          · exact Int.ofNat_le.mpr (Nat.le_add_right ..)
          · exact onward later
      · exact @ih start (c :: word) (by simpa [Nat.add_assoc] using member)

/-- A word comes before tokens that stand behind its end. -/
theorem pairwise_closeWord (apart : rest.Pairwise Token.Before)
    (behind : ∀ t ∈ rest, ((start + word.length : Nat) : Int) ≤ t.index) :
    (closeWord (start + word.length) word rest).Pairwise Token.Before := by
  cases word with
  | nil => exact apart
  | cons c word =>
    refine List.pairwise_cons.mpr ⟨fun t member => ?_, apart⟩
    rw [Token.Before, Nat.add_sub_cancel, ← String.length_toList, String.toList_ofList,
      List.length_reverse]
    exact behind t member

theorem pairwise_scan (start : Nat) (word cs : List Char) :
    (scan (start + word.length) word cs).Pairwise Token.Before := by
  induction cs generalizing start word with
  | nil => exact pairwise_closeWord .nil (by simp)
  | cons c cs ih =>
    have apart := ih (start + word.length + 1) []
    have behind : ∀ t ∈ scan (start + word.length + 1) [] cs,
        ((start + word.length + 1 : Nat) : Int) ≤ t.index := fun t member =>
      @le_index_of_mem_scan (start + word.length + 1) [] cs t member
    rw [scan]
    split
    · refine pairwise_closeWord apart fun t member => ?_
      have next := behind t member
      omega
    · split
      · refine pairwise_closeWord (List.pairwise_cons.mpr ⟨fun t member => ?_, apart⟩) ?_
        · have next := behind t member
          rw [Token.Before, ← String.length_toList]
          simpa using next
        · rw [List.forall_mem_cons]
          refine ⟨Int.le_refl _, fun t member => ?_⟩
          have next := behind t member
          omega
      · exact ih start (c :: word)

/-- Every token of a text is cut from it. -/
theorem cutFrom_of_mem_tokenize {text : String} (member : t ∈ tokenize text) :
    t.CutFrom text.toList :=
  @cutFrom_of_mem_scan [] [] text.toList t member

/-- The tokens of a text come one after the other. -/
theorem pairwise_tokenize (text : String) : (tokenize text).Pairwise Token.Before :=
  pairwise_scan 0 [] text.toList

/-- No token occurs twice in a text. -/
theorem nodup_tokenize (text : String) : (tokenize text).Nodup := by
  refine (pairwise_tokenize text).imp_of_mem fun {s t} member _ before => ?_
  rintro rfl
  have positive := (cutFrom_of_mem_tokenize member).length_pos
  rw [Token.Before] at before
  omega

/-- The empty token that stands for no text at all is none of its tokens. -/
theorem empty_not_mem_tokenize (text : String) (index : Int) :
    Token.mk index "" ∉ tokenize text := fun member =>
  (cutFrom_of_mem_tokenize member).filled rfl

end Schedule
