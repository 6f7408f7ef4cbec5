import Schedule.Proofs.Failure
import Schedule.Proofs.RuleGroup.Relabel
import Schedule.Proofs.TokenPlace

/-! # The surface of a text does not matter

Two texts whose tokens are the same but for the case of their letters may differ in their blanks and
so in where the tokens stand. They compile to the same groups, or have the same mistake at the token
of the same number. As no token occurs twice in a text, the tokens of the one text can be changed
into those of the other by one relabelling.
-/

namespace Schedule

/-- Changes every token of one list into the token of the same number in another. -/
def counterpart (ts ts' : List Token) (t : Token) : Token :=
  ((ts.zip ts').lookup t).getD t

theorem counterpart_of_not_mem {ts : List Token} {t : Token} (other : t ∉ ts)
    (ts' : List Token) :
    counterpart ts ts' t = t := by
  have missing : (ts.zip ts').lookup t = none := by
    rw [List.lookup_eq_none_iff]
    rintro ⟨s, s'⟩ member
    have listed : s ∈ ts := (List.of_mem_zip member).1
    rw [bne_iff_ne]
    rintro rfl
    exact other listed
  rw [counterpart, missing, Option.getD_none]

variable {ts ts' : List Token}

/-- Tokens are alike one by one if their values are the same in lower case. -/
theorem forall₂_alike_iff :
    List.Forall₂ Token.Alike ts ts' ↔
      (ts.map fun t => lower t.value) = ts'.map fun t => lower t.value := by
  rw [← List.forall₂_eq_eq_eq, List.forall₂_map_left_iff, List.forall₂_map_right_iff]
  rfl

theorem counterpart_alike (alike : List.Forall₂ Token.Alike ts ts') (t : Token) :
    (counterpart ts ts' t).Alike t := by
  induction alike with
  | nil => exact Token.alike_of_eq rfl
  | @cons s s' ts ts' first _ ih =>
    unfold counterpart at ih ⊢
    rw [List.zip_cons_cons, List.lookup_cons]
    cases same : t == s with
    | true =>
      rw [eq_of_beq same]
      exact first.symm
    | false => exact ih

/-- In a list without repetitions every token has its own counterpart. -/
theorem map_counterpart (alike : List.Forall₂ Token.Alike ts ts') (distinct : ts.Nodup) :
    ts.map (counterpart ts ts') = ts' := by
  induction alike with
  | nil => rfl
  | @cons s s' ts ts' first _ ih =>
    obtain ⟨fresh, distinct⟩ := List.nodup_cons.mp distinct
    have head : counterpart (s :: ts) (s' :: ts') s = s' := by simp [counterpart]
    have tail : ts.map (counterpart (s :: ts) (s' :: ts')) = ts.map (counterpart ts ts') := by
      refine List.map_congr_left fun t member => ?_
      have other : (t == s) = false := by
        rw [beq_eq_false_iff_ne]
        rintro rfl
        exact fresh member
      rw [counterpart, List.zip_cons_cons, List.lookup_cons, other, counterpart]
    rw [List.map_cons, head, tail, ih distinct]

/-- The relabelling that changes the tokens of one list into alike ones of another. -/
def Relabelling.between (alike : List.Forall₂ Token.Alike ts ts') : Relabelling :=
  ⟨counterpart ts ts', counterpart_alike alike⟩

variable {config : Config} {text text' : String}

/-- A failure after a change of the tokens: the same mistake at the changed token, or the same
numeral that is too long. -/
inductive Failure.Follows (f : Relabelling) : Failure → Failure → Prop where
  | mistake {m m' : Mistake} (follows : m.Follows f m') : Follows f (.mistake m) (.mistake m')
  | overlong (numeral : Numeral.Overlong) : Follows f (.overlong numeral) (.overlong numeral)

theorem toNode_relabel (f : Relabelling) (document : List Expression) :
    (document.map (Expression.relabel f)).map Expression.toNode =
      (document.map Expression.toNode).map (Node.relabel f) := by
  rw [List.map_map, List.map_map]
  rfl

/-- Compiling carries a change of tokens over from one text to the other. -/
theorem compile_follows (f : Relabelling) (still : f.apply ⟨0, ""⟩ = ⟨0, ""⟩)
    (moved : (tokenize text).map f.apply = tokenize text') :
    Agree (Failure.Follows f) (compile config text) (compile config text') := by
  rw [compile, compile, ← moved, Reading.document_relabel]
  cases Reading.document config.maxDepth (tokenize text) with
  | error failure =>
    cases failure with
    | mistake m => exact .error (.mistake ⟨.inl rfl, rfl⟩)
    | overlong numeral => exact .error (.overlong numeral)
  | ok document =>
    have compiled := compileNodes_relabel f still (document.map Expression.toNode)
    rw [← toNode_relabel] at compiled
    exact compiled.mapError fun _ _ => .mistake

/-- The tokens have the same number in their lists; or there are no tokens, and the empty one stands
for that on both sides. -/
def SameNumber (ts ts' : List Token) (t t' : Token) : Prop :=
  (∃ n : Nat, ts[n]? = some t ∧ ts'[n]? = some t') ∨
    (ts = [] ∧ ts' = [] ∧ t = ⟨0, ""⟩ ∧ t' = ⟨0, ""⟩)

theorem sameNumber_of_mistake {m m' : Mistake} {f : Relabelling}
    (moved : (tokenize text).map f.apply = tokenize text')
    (failed : compile config text = .error (.mistake m))
    (failed' : compile config text' = .error (.mistake m')) (token : m'.token = f.apply m.token) :
    SameNumber (tokenize text) (tokenize text') m.token m'.token := by
  obtain ⟨listed, none⟩ := token_of_mistake failed
  by_cases empty : tokenize text = []
  · have empty' : tokenize text' = [] := by rw [← moved, empty, List.map_nil]
    rw [none empty, (token_of_mistake failed').2 empty']
    exact .inr ⟨empty, empty', rfl, rfl⟩
  · obtain ⟨n, found⟩ := List.mem_iff_getElem?.mp (listed empty)
    refine .inl ⟨n, found, ?_⟩
    rw [← moved, List.getElem?_map, found, token]
    rfl

/-- Texts whose tokens are the same but for the case of their letters compile to the same groups or
have the same mistake, at the token of the same number; or both are stopped by the same numeral,
which is too long to be read. -/
theorem compile_alike (config : Config)
    (alike : List.Forall₂ Token.Alike (tokenize text) (tokenize text')) :
    (∃ groups, compile config text = .ok groups ∧ compile config text' = .ok groups) ∨
      (∃ m m', compile config text = .error (.mistake m) ∧
        compile config text' = .error (.mistake m') ∧ m.fault.Alike m'.fault ∧
        SameNumber (tokenize text) (tokenize text') m.token m'.token) ∨
      ∃ t ∈ tokenize text, t.IsOverlong ∧
        compile config text = .error (.overlong ⟨t.value.length⟩) ∧
        compile config text' = .error (.overlong ⟨t.value.length⟩) := by
  have moved := map_counterpart alike (nodup_tokenize text)
  have still := counterpart_of_not_mem (empty_not_mem_tokenize text 0) (tokenize text')
  have agree : Agree (Failure.Follows (.between alike)) (compile config text)
      (compile config text') := compile_follows (.between alike) still moved
  generalize outcome : compile config text = x at agree
  generalize outcome' : compile config text' = x' at agree
  cases agree with
  | ok groups => exact .inl ⟨groups, rfl, rfl⟩
  | error follows =>
    cases follows with
    | mistake follows =>
      exact .inr (.inl ⟨_, _, rfl, rfl, follows.fault,
        sameNumber_of_mistake moved outcome outcome' follows.token⟩)
    | overlong numeral =>
      obtain ⟨t, member, overlong, rfl⟩ := token_of_overlong outcome
      exact .inr (.inr ⟨t, member, overlong, rfl, rfl⟩)

/-- In another layout and letter case, an unknown expression is the same mistake. -/
theorem compile_alike_unknown :
    let text := "hour(9) Foo(1)"
    let text' := "HOUR ( 9 )\n fOO(1)"
    List.Forall₂ Token.Alike (tokenize text) (tokenize text') ∧
      ∃ m m', compile {} text = .error (.mistake m) ∧ compile {} text' = .error (.mistake m') ∧
        m.fault.Alike m'.fault ∧
        SameNumber (tokenize text) (tokenize text') m.token m'.token := by
  intro text text'
  have alike : List.Forall₂ Token.Alike (tokenize text) (tokenize text') := by
    rw [forall₂_alike_iff]
    decide +kernel
  have failed : compile {} text = .error (.mistake ⟨.unknownExpression "Foo", ⟨8, "Foo"⟩⟩) := by
    decide +kernel
  refine ⟨alike, ?_⟩
  rcases compile_alike {} alike with ⟨_, done, _⟩ | same | ⟨_, _, _, stopped, _⟩
  · rw [failed] at done
    contradiction
  · exact same
  · rw [failed] at stopped
    cases stopped

/-! ### A numeral that is too long in both texts -/

variable {n : Nat}

/-- The tokens of an hour that is zero, after a blank and with a capital. -/
theorem tokenize_spaced_hour_zeros (filled : n ≠ 0) :
    tokenize (" H(" ++ zeros n ++ ")") =
      [⟨1, "H"⟩, ⟨2, "("⟩, ⟨3, zeros n⟩, ⟨(1 + 2 + n : Nat), ")"⟩] := by
  have chars : (" H(" ++ zeros n ++ ")").toList =
      ' ' :: 'H' :: '(' :: (List.replicate n '0' ++ [')']) := by
    simp [zeros, String.toList_append]
  have blank : isBlank ' ' = true := by decide
  rw [tokenize, chars, scan, if_pos blank, scan_zeros filled 1 (by decide)]
  rfl

/-- An hour that is zero and the same one in another layout and letter case share neither groups
nor a mistake if the zero is too long. -/
theorem hour_zeros_share_nothing (long : Numeral.longest < n) :
    List.Forall₂ Token.Alike (tokenize ("h(" ++ zeros n ++ ")"))
        (tokenize (" H(" ++ zeros n ++ ")")) ∧
      (∀ groups, ¬ (compile {} ("h(" ++ zeros n ++ ")") = .ok groups ∧
        compile {} (" H(" ++ zeros n ++ ")") = .ok groups)) ∧
      ∀ m m', ¬ (compile {} ("h(" ++ zeros n ++ ")") = .error (.mistake m) ∧
        compile {} (" H(" ++ zeros n ++ ")") = .error (.mistake m')) := by
  have filled : n ≠ 0 := Nat.ne_zero_of_lt long
  have name : lower "h" = lower "H" := by decide
  refine ⟨?_, ?_, ?_⟩
  · rw [forall₂_alike_iff, tokenize_hour_zeros filled, tokenize_spaced_hour_zeros filled]
    simp only [List.map_cons, List.map_nil, name]
  · simp [compile_hour_zeros long]
  · simp [compile_hour_zeros long]

/-- So it is with an hour of 4301 zeros. -/
theorem long_zero_alike_but_shares_nothing :
    List.Forall₂ Token.Alike (tokenize ("h(" ++ zeros 4301 ++ ")"))
        (tokenize (" H(" ++ zeros 4301 ++ ")")) ∧
      (∀ groups, ¬ (compile {} ("h(" ++ zeros 4301 ++ ")") = .ok groups ∧
        compile {} (" H(" ++ zeros 4301 ++ ")") = .ok groups)) ∧
      ∀ m m', ¬ (compile {} ("h(" ++ zeros 4301 ++ ")") = .error (.mistake m) ∧
        compile {} (" H(" ++ zeros 4301 ++ ")") = .error (.mistake m')) :=
  hour_zeros_share_nothing (by simp [Numeral.longest])

end Schedule
