import Mathlib.Data.List.Sort
import Schedule.Proofs.Layout

/-! # The segmentation of a text

What a cut of a text into tokens must be is said of the text and its offsets alone: which characters
the tokens hold, and where two of them may stand next to each other. These conditions leave no
choice. A word takes in every character up to the next blank or mark, since otherwise the token that
holds the next character would follow without a blank, and two lists of tokens that both take whole
words are the same list.
-/

namespace Schedule

/-- The characters that stand between words and in no token. -/
def blanks : List Char :=
  [' ', '\t', '\n', '\r']

/-- The characters that are tokens by themselves. -/
def marks : List Char :=
  ['(', ')', '-', ',', '!', '/', '%']

theorem mem_blanks_iff {c : Char} : c ∈ blanks ↔ isBlank c = true := by
  simp [blanks, isBlank, or_assoc]

theorem mem_marks_iff {c : Char} : c ∈ marks ↔ isMark c = true := by
  simp [marks, isMark, or_assoc]

namespace Token

/-- The token is one of the characters that are tokens by themselves. -/
def Special (t : Token) : Prop :=
  ∃ c ∈ marks, t.value = String.singleton c

/-- A blank stands in the text behind the one token and in front of the other. -/
def Parted (text : List Char) (s t : Token) : Prop :=
  ∃ (p : Nat) (c : Char), s.stop ≤ p ∧ p < t.index ∧ text[p]? = some c ∧ c ∈ blanks

end Token

/-- The tokens cut the text up: blanks are left out, each mark is a token, and words that follow
each other have a blank between them. -/
structure Segmentation (text : List Char) (ts : List Token) : Prop where
  cut : ∀ t ∈ ts, t.CutFrom text
  ordered : ts.Pairwise Token.Before
  covered : ∀ (p : Nat) c, text[p]? = some c → c ∉ blanks → ∃! t, t ∈ ts ∧ t.Covers p
  blank : ∀ (p : Nat) c, text[p]? = some c → c ∈ blanks → ∀ t ∈ ts, ¬ t.Covers p
  mark : ∀ (p : Nat) c, text[p]? = some c → c ∈ marks → ⟨p, String.singleton c⟩ ∈ ts
  single : ∀ t ∈ ts, ∀ c ∈ t.value.toList, c ∈ marks → t.value.length = 1
  parted : ts.IsChain fun s t => s.Special ∨ t.Special ∨ Token.Parted text s t

variable {text cs : List Char} {ts us : List Token} {s t u : Token} {offset p : Nat} {c d : Char}

/-! ### No two segmentations -/

theorem mem_marks_of_special (special : t.Special) (member : c ∈ t.value.toList) : c ∈ marks := by
  obtain ⟨m, listed, same⟩ := special
  rw [same, String.toList_singleton, List.mem_singleton] at member
  exact member ▸ listed

namespace Segmentation

/-- Two neighbouring characters that are neither blanks nor marks lie in the same token. -/
theorem covers_iff_covers_succ (seg : Segmentation text ts) (first : text[p]? = some c)
    (second : text[p + 1]? = some d) (firstInside : c ∉ blanks ++ marks)
    (secondInside : d ∉ blanks ++ marks) (member : t ∈ ts) : t.Covers p ↔ t.Covers (p + 1) := by
  rw [List.mem_append, not_or] at firstInside secondInside
  obtain ⟨s, ⟨left, leftCovers⟩, _⟩ := seg.covered p c first firstInside.1
  obtain ⟨u, ⟨right, rightCovers⟩, _⟩ := seg.covered (p + 1) d second secondInside.1
  have inLeft : c ∈ s.value.toList := (seg.cut s left).stands.mem_of_covers leftCovers first
  have inRight : d ∈ u.value.toList := (seg.cut u right).stands.mem_of_covers rightCovers second
  have same : s = u := by
    by_contra distinct
    have touch : s.stop = u.index := by
      rw [Token.Covers] at leftCovers rightCovers
      rcases before_or_before seg.ordered left right distinct with before | before <;>
        rw [Token.before_iff] at before <;> omega
    rcases rel_of_touch seg.cut seg.ordered seg.parted left right touch with
      special | special | ⟨q, _, behind, inFront, _⟩
    · exact firstInside.2 (mem_marks_of_special special inLeft)
    · exact secondInside.2 (mem_marks_of_special special inRight)
    · omega
  subst same
  constructor
  · intro covers
    rwa [eq_of_covers seg.ordered member left covers leftCovers]
  · intro covers
    rwa [eq_of_covers seg.ordered member right covers rightCovers]

/-- A token that meets a stretch of the text without blanks and marks includes all of it. -/
theorem includes (seg : Segmentation text us) (cut : t.CutFrom text)
    (word : ∀ c ∈ t.value.toList, c ∉ blanks ++ marks) (member : u ∈ us) (inside : t.Covers p)
    (covers : u.Covers p) : u.index ≤ t.index ∧ t.stop ≤ u.stop := by
  have start := cut.stands.index_nonneg
  -- within `t`, what `u` covers ends nowhere
  have spreads (q : Nat) (here : t.Covers q) (next : t.Covers (q + 1)) :
      u.Covers q ↔ u.Covers (q + 1) := by
    obtain ⟨c, first, listed⟩ := cut.stands.exists_of_covers here
    obtain ⟨d, second, alsoListed⟩ := cut.stands.exists_of_covers next
    exact seg.covers_iff_covers_succ first second (word c listed) (word d alsoListed) member
  simp only [Token.Covers] at spreads inside covers
  constructor
  · by_contra later
    have edge := (spreads (u.index - 1).toNat (by omega) (by omega)).mpr (by omega)
    omega
  · by_contra earlier
    have edge := (spreads (u.stop - 1).toNat (by omega) (by omega)).mp (by omega)
    omega

/-- A token without a mark has no blank either. -/
theorem word_of_unmarked (seg : Segmentation text ts) (member : t ∈ ts)
    (unmarked : ∀ c ∈ t.value.toList, c ∉ marks) : ∀ c ∈ t.value.toList, c ∉ blanks ++ marks := by
  intro c listed
  obtain ⟨p, covers, found⟩ := (seg.cut t member).stands.exists_covers listed
  rw [List.mem_append, not_or]
  exact ⟨fun blank => seg.blank p c found blank t member covers, unmarked c listed⟩

/-- A token that includes another character than a mark has no mark. -/
theorem word_of_covers (seg : Segmentation text ts) (member : t ∈ ts) (covers : t.Covers p)
    (found : text[p]? = some c) (notMark : c ∉ marks) :
    ∀ d ∈ t.value.toList, d ∉ blanks ++ marks := by
  have inside := (seg.cut t member).stands.mem_of_covers covers found
  refine seg.word_of_unmarked member fun d listed mark => notMark ?_
  have single := seg.single t member d listed mark
  rw [← String.length_toList, List.length_eq_one_iff] at single
  obtain ⟨e, alone⟩ := single
  rw [alone, List.mem_singleton] at inside listed
  rwa [inside, ← listed]

/-- Every token of one segmentation is in any other one. -/
theorem subset (left : Segmentation text ts) (right : Segmentation text us) : ts ⊆ us := by
  intro t member
  have cut := left.cut t member
  have inside := cut.covers_index
  obtain ⟨c, found, _⟩ := cut.stands.exists_of_covers inside
  have notBlank : c ∉ blanks := fun blank => left.blank _ c found blank t member inside
  by_cases mark : c ∈ marks
  · have marked := left.mark _ c found mark
    have covers := (left.cut _ marked).covers_index
    rw [Int.toNat_natCast] at covers
    rw [eq_of_covers left.ordered member marked inside covers]
    exact right.mark _ c found mark
  · obtain ⟨u, ⟨taken, covers⟩, _⟩ := right.covered _ c found notBlank
    have cutRight := right.cut u taken
    have outer := right.includes cut (left.word_of_covers member inside found mark) taken inside
      covers
    have inner := left.includes cutRight (right.word_of_covers taken covers found mark) member
      covers inside
    rw [cut.stands.ext cutRight.stands (Int.le_antisymm inner.1 outer.1)
      (Int.le_antisymm outer.2 inner.2)]
    exact taken

/-- Each token begins further on than the ones before it. -/
theorem increasing (seg : Segmentation text ts) : ts.Pairwise fun s t => s.index < t.index :=
  seg.ordered.imp_of_mem fun {_ _} member _ before =>
    (seg.cut _ member).index_lt_stop.trans_le (Token.before_iff.mp before)

/-- A text has at most one segmentation. -/
theorem unique (left : Segmentation text ts) (right : Segmentation text us) : ts = us := by
  have : Std.Irrefl fun s t : Token => s.index < t.index := ⟨fun _ => Int.lt_irrefl _⟩
  have : Std.Antisymm fun s t : Token => s.index < t.index :=
    ⟨fun _ _ less greater => absurd (Int.lt_trans less greater) (Int.lt_irrefl _)⟩
  exact List.Subset.antisymm_of_pairwise left.increasing right.increasing (left.subset right)
    (right.subset left)

end Segmentation

/-! ### The tokens are a segmentation -/

namespace LaidOut

/-- Every character that is not a blank is covered by a token. -/
theorem exists_covers (laidOut : LaidOut offset cs ts) (found : cs[p]? = some c)
    (notBlank : isBlank c = false) : ∃ t ∈ ts, t.Covers (offset + p) := by
  induction laidOut generalizing p with
  | done => contradiction
  | @blank offset d cs ts blank _ ih =>
    cases p with
    | zero =>
      obtain rfl : d = c := Option.some.inj found
      rw [blank] at notBlank
      contradiction
    | succ p =>
      obtain ⟨t, member, covers⟩ := ih (p := p) found
      exact ⟨t, member, by rwa [Nat.add_assoc, Nat.add_comm 1] at covers⟩
  | @mark offset d cs ts mark _ ih =>
    cases p with
    | zero => exact ⟨_, List.mem_cons_self, Token.covers_mk_iff.mpr (by simp)⟩
    | succ p =>
      obtain ⟨t, member, covers⟩ := ih (p := p) found
      exact ⟨t, List.mem_cons_of_mem _ member, by rwa [Nat.add_assoc, Nat.add_comm 1] at covers⟩
  | @word offset word cs ts filled inside ends _ ih =>
    by_cases within : p < word.length
    · refine ⟨_, List.mem_cons_self, Token.covers_mk_iff.mpr ?_⟩
      rw [String.length_ofList]
      omega
    · rw [List.getElem?_append_right (by omega)] at found
      obtain ⟨t, member, covers⟩ := ih (p := p - word.length) found
      refine ⟨t, List.mem_cons_of_mem _ member, ?_⟩
      rwa [Nat.add_assoc, Nat.add_sub_cancel' (by omega)] at covers

/-- Of two words that follow each other the first one ends at a blank. The induction is on how the
text is laid out from the offset on. -/
theorem parted (laidOut : LaidOut offset cs ts) (same : text.drop offset = cs) :
    ts.IsChain fun s t => s.Special ∨ t.Special ∨ Token.Parted text s t := by
  induction laidOut with
  | done => exact .nil
  | blank _ _ ih => exact ih (by rw [← List.drop_drop, same, List.drop_one, List.tail_cons])
  | mark mark _ ih =>
    have chain := ih (by rw [← List.drop_drop, same, List.drop_one, List.tail_cons])
    exact chain.cons fun _ _ => .inl ⟨_, mem_marks_iff.mpr mark, rfl⟩
  | @word offset word cs ts filled inside ends rest ih =>
    have remaining : text.drop (offset + word.length) = cs := by
      rw [← List.drop_drop, same, List.drop_left]
    refine (ih remaining).cons fun t first => .inr ?_
    cases rest with
    | done => contradiction
    | @blank _ c cs _ blank rest =>
      have beyond := rest.offset_le_index (List.mem_of_mem_head? first)
      refine .inr ⟨offset + word.length, c, ?_, by omega, ?_, mem_blanks_iff.mpr blank⟩
      · simp only [Token.stop, String.length_ofList]
        omega
      · rw [← List.head?_drop, remaining, List.head?_cons]
    | mark mark _ =>
      obtain rfl := Option.some.inj first
      exact .inl ⟨_, mem_marks_iff.mpr mark, rfl⟩
    | @word _ next cs _ filled inside _ _ =>
      obtain ⟨c, next, rfl⟩ := List.exists_cons_of_ne_nil filled
      exact absurd (ends c rfl) (inside c List.mem_cons_self)

end LaidOut

/-- The tokens of a text cut it up as they should. -/
theorem segmentation_tokenize (text : String) : Segmentation text.toList (tokenize text) := by
  have laidOut : LaidOut 0 text.toList (tokenize text) := laidOut_iff_tokenize_eq.mpr rfl
  have cut := fun t (member : t ∈ tokenize text) => cutFrom_of_mem_tokenize member
  have ordered := pairwise_tokenize text
  have covered {p : Nat} {c : Char} (found : text.toList[p]? = some c)
      (notBlank : isBlank c = false) : ∃ t ∈ tokenize text, t.Covers p := by
    obtain ⟨t, member, covers⟩ := laidOut.exists_covers found notBlank
    exact ⟨t, member, by rwa [Nat.zero_add] at covers⟩
  refine ⟨cut, ordered, ?covered, ?blank, ?mark, ?single, laidOut.parted rfl⟩
  case covered =>
    intro p c found notBlank
    rw [mem_blanks_iff, Bool.not_eq_true] at notBlank
    obtain ⟨t, member, covers⟩ := covered found notBlank
    exact ⟨t, ⟨member, covers⟩, fun u other => eq_of_covers ordered other.1 member other.2 covers⟩
  case blank =>
    intro p c found blank t member covers
    have inside := (cut t member).stands.mem_of_covers covers found
    rw [mem_blanks_iff, (laidOut.pieces t member).isBlank_eq_false inside] at blank
    contradiction
  case mark =>
    intro p c found mark
    rw [mem_marks_iff] at mark
    obtain ⟨t, member, covers⟩ := covered found (isBlank_of_isMark mark)
    have inside := (cut t member).stands.mem_of_covers covers found
    have value := (laidOut.pieces t member).value_eq_singleton inside mark
    have index : t.index = p := by
      rw [Token.Covers, Token.stop, value, String.length_singleton] at covers
      omega
    rwa [← value, ← index]
  case single =>
    intro t member c inside mark
    rw [mem_marks_iff] at mark
    rw [(laidOut.pieces t member).value_eq_singleton inside mark, String.length_singleton]

/-- The tokens of a text are its only segmentation, and nothing but blanks and marks ends a word:
two neighbouring characters that are neither lie in one token. -/
theorem segmentation_iff_eq_tokenize (text : String) :
    (∀ ts, Segmentation text.toList ts ↔ ts = tokenize text) ∧
      ∀ (p : Nat) (c d : Char), text.toList[p]? = some c → text.toList[p + 1]? = some d →
        c ∉ blanks ++ marks → d ∉ blanks ++ marks →
        ∃ t ∈ tokenize text, t.Covers p ∧ t.Covers (p + 1) := by
  have seg := segmentation_tokenize text
  refine ⟨fun ts => ⟨fun other => other.unique seg, ?_⟩, ?_⟩
  · rintro rfl
    exact seg
  · intro p c d first second firstInside secondInside
    obtain ⟨t, ⟨member, covers⟩, _⟩ := seg.covered p c first fun blank =>
      firstInside (List.mem_append_left _ blank)
    exact ⟨t, member, covers,
      (seg.covers_iff_covers_succ first second firstInside secondInside member).mp covers⟩

/-- A no-break space is a character of a word like any other. -/
example : tokenize "mon\u00a0(tue" = [⟨0, "mon\u00a0"⟩, ⟨4, "("⟩, ⟨5, "tue"⟩] := by
  decide +kernel

end Schedule
