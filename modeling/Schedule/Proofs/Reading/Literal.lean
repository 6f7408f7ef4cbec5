import Schedule.Proofs.Grammar.Unique
import Schedule.Proofs.Outcome

/-! # Literals are read as the grammar derives them

For each reader of a part of a literal there are two statements. `read` says that a valid derivation
of the part is read as what it means, if what follows cannot extend it; `of_read` that whatever is
read has such a derivation.
-/

namespace Schedule.Grammar

open Reading (numeral signed bound endpoint someModulus wildcardModulus)

variable {last begin t : Token} {ts rest : List Token}

theorem blame_ne_ok {α : Type} {fault : Fault} {value : α} : blame fault t ≠ .ok value := by
  rintro ⟨⟩

/-- Exactly the numbers of the grammar are read, unless they have too many digits. -/
theorem numeral_eq_ok_iff (t : Token) (n : Nat) :
    numeral t = .ok n ↔
      IsDigits t ∧ t.value.length ≤ Numeral.longest ∧ Numeral.value t.value.toList = n := by
  have lengths : t.value.toList.length = t.value.length := String.length_toList
  unfold numeral IsDigits Reading.longestNumber
  cases t.isNumber with
  | false => simp [blame_ne_ok]
  | true =>
    by_cases large : 9 < (t.value.toList.dropWhile (· == '0')).length
    · simp [large, Nat.not_le.mpr large, blame_ne_ok]
    · by_cases overlong : Numeral.longest < t.value.length
      · simp only [Numeral.read, lengths, large, overlong, Bool.not_true, Bool.false_eq_true,
          if_true, if_false]
        simpa using fun _ short => absurd overlong (Nat.not_lt.mpr short)
      · simp only [Numeral.read, lengths, large, overlong, Bool.not_true, Bool.false_eq_true,
          if_false]
        simpa [Nat.not_lt.mp large] using fun _ => Nat.not_lt.mp overlong

namespace Signed

theorem read (last : Token) {s : Signed} (valid : s.Valid) (readable : Readable s.tokens)
    (rest : List Token) : signed last (s.tokens ++ rest) = .ok (s.value, rest) := by
  cases s with
  | plain digits =>
    have found : numeral digits = .ok (Numeral.value digits.value.toList) :=
      (numeral_eq_ok_iff ..).mpr ⟨valid, readable digits (by simp [tokens]) valid.1, rfl⟩
    simp [tokens, signed, Token.isMark_of_isNumber valid.1, found, Except.map, value]
  | minus sign digits =>
    obtain ⟨dash, digit⟩ := valid
    have found : numeral digits = .ok (Numeral.value digits.value.toList) :=
      (numeral_eq_ok_iff ..).mpr ⟨digit, readable digits (by simp [tokens]) digit.1, rfl⟩
    have mark : sign.isMark = true := isMark_of_value dash (by decide)
    simp [tokens, signed, mark, dash, found, Except.map, value]

theorem of_read {n : Int} (success : signed last ts = .ok (n, rest)) :
    ∃ s : Signed, s.Valid ∧ Readable s.tokens ∧ s.value = n ∧ ts = s.tokens ++ rest := by
  unfold signed at success
  split at success
  · exact absurd success blame_ne_ok
  · next t ts =>
    split at success
    · split at success
      · next dash =>
        split at success
        · exact absurd success blame_ne_ok
        · next digits after =>
          obtain ⟨_, found, same⟩ := map_eq_ok_iff.mp success
          obtain ⟨n, found, cast⟩ := bind_eq_ok_iff.mp found
          obtain ⟨digit, short, rfl⟩ := (numeral_eq_ok_iff ..).mp found
          cases cast
          cases same
          have mark : t.isNumber = false :=
            (Token.kinds_of_isMark (isMark_of_value dash (by decide))).1
          exact ⟨.minus t digits, ⟨dash, digit⟩, by simp [tokens, mark, short], rfl, rfl⟩
      · exact absurd success blame_ne_ok
    · obtain ⟨_, found, same⟩ := map_eq_ok_iff.mp success
      obtain ⟨n, found, cast⟩ := bind_eq_ok_iff.mp found
      obtain ⟨digit, short, rfl⟩ := (numeral_eq_ok_iff ..).mp found
      cases cast
      cases same
      exact ⟨.plain t, digit, by simp [tokens, short], rfl, rfl⟩

end Signed

namespace End

/-- A number that no slash follows is read as a number. -/
theorem bound_number {s : Signed} (valid : s.Valid) (readable : Readable s.tokens)
    (after : NoSlash rest) : bound last begin (s.tokens ++ rest) = .ok (.number s.value, rest) := by
  rw [bound, Signed.read last valid readable]
  cases rest with
  | nil => rfl
  | cons slash more =>
    change (if slash.value = "/" then _ else _) = _
    rw [if_neg ((ahead_cons ..).mp after)]

/-- A month and a day with a slash between are read as a date. -/
theorem bound_date (last begin : Token) {month day : Signed} {slash : Token}
    (valid : (date month slash day).Valid) (readable : Readable (date month slash day).tokens)
    (rest : List Token) :
    bound last begin ((date month slash day).tokens ++ rest) =
      .ok (.date ⟨month.value, day.value⟩, rest) := by
  obtain ⟨months, slashed, days, length, found, (least : 1 ≤ day.value),
    (greatest : day.value ≤ length)⟩ := valid
  simp only [tokens, readable_append, readable_cons] at readable
  simp only [tokens, List.append_assoc, List.cons_append]
  rw [bound, Signed.read last months readable.1]
  change (if slash.value = "/" then _ else _) = _
  rw [if_pos slashed, found]
  change (signed last (day.tokens ++ rest) >>= _) = _
  rw [Signed.read last days readable.2.2]
  change (if day.value < 1 ∨ length < day.value then _ else _) = _
  rw [if_neg (by omega)]

/-- What is read as a number or a date is one. -/
theorem of_bound {b : Bound} (success : bound last begin ts = .ok (b, rest)) :
    ∃ e : End, e.Valid ∧ Readable e.tokens ∧ e.value = .ofBound b ∧ ts = e.tokens ++ rest := by
  unfold bound at success
  obtain ⟨⟨_, more⟩, found, month⟩ := bind_eq_ok_iff.mp success
  obtain ⟨s, valid, readable, rfl, rfl⟩ := Signed.of_read found
  dsimp only at month
  split at month
  · cases month
    exact ⟨.number s, valid, readable, rfl, rfl⟩
  · next slash more =>
    split at month
    · next slashed =>
      split at month
      · exact absurd month blame_ne_ok
      · next days inYear =>
        obtain ⟨⟨_, more⟩, read, date⟩ := bind_eq_ok_iff.mp month
        obtain ⟨day, valid', readable', rfl, rfl⟩ := Signed.of_read read
        dsimp only at date
        split at date
        · exact absurd date blame_ne_ok
        · next inMonth =>
          cases date
          have mark := (Token.kinds_of_isMark (isMark_of_value slashed (by decide))).1
          have least : 1 ≤ day.value := by omega
          have greatest : day.value ≤ days := by omega
          refine ⟨.date s slash day, ⟨valid, slashed, valid', days, inYear, least, greatest⟩, ?_,
            rfl, ?_⟩
          · simp [tokens, readable, readable', mark]
          · simp [tokens]
    · cases month
      exact ⟨.number s, valid, readable, rfl, rfl⟩

theorem read {e : End} (valid : e.Valid) (readable : Readable e.tokens) (after : NoSlash rest)
    {weekdays : Bool} (allowed : weekdays = false → ∀ word day, e ≠ .weekday word day) :
    endpoint last begin weekdays (e.tokens ++ rest) = .ok (e.value, rest) := by
  have notWeekday {s : Signed} (valid : s.Valid) : s.first.weekday? = none := by
    rcases Signed.opens valid with sign | number
    · exact (Token.kinds_of_isMark (isMark_of_value sign (by decide))).2.1
    · exact Token.weekday?_of_isNumber number
  have noWeekday {s : Signed} (valid : s.Valid) (ts : List Token) :
      endpoint last begin weekdays (s.tokens ++ ts) =
        (bound last begin (s.tokens ++ ts)).map fun read => (.ofBound read.1, read.2) := by
    obtain ⟨more, same⟩ := s.tokens_eq
    rw [same, List.cons_append, endpoint, notWeekday valid]
    cases weekdays <;> rfl
  cases e with
  | weekday word day =>
    cases weekdays with
    | false => exact absurd rfl (allowed rfl word day)
    | true =>
      change word.weekday? = some day at valid
      simp [tokens, endpoint, valid, value]
  | number s =>
    rw [tokens, noWeekday valid, bound_number valid readable after]
    rfl
  | date month slash day =>
    have split := noWeekday valid.1 (slash :: (day.tokens ++ rest))
    rw [tokens, List.append_assoc, List.cons_append, split]
    have found := bound_date last begin valid readable rest
    rw [tokens, List.append_assoc, List.cons_append] at found
    rw [found]
    rfl

theorem of_read {weekdays : Bool} {value : Reading.Endpoint}
    (success : endpoint last begin weekdays ts = .ok (value, rest)) :
    ∃ e : End, e.Valid ∧ Readable e.tokens ∧ e.value = value ∧ ts = e.tokens ++ rest := by
  unfold endpoint at success
  split at success
  · exact absurd success blame_ne_ok
  · next word more =>
    split at success
    · next day spelt =>
      cases success
      cases weekdays with
      | false => contradiction
      | true =>
        have notNumber : word.isNumber = true → word.value.length ≤ Numeral.longest := by
          intro number
          rw [if_pos rfl, Token.weekday?_of_isNumber number] at spelt
          contradiction
        exact ⟨.weekday word day, spelt, by simpa [tokens] using notNumber, rfl, rfl⟩
    · obtain ⟨⟨b, after⟩, found, same⟩ := map_eq_ok_iff.mp success
      cases same
      exact of_bound found

end End

namespace Form

/-- The modulus of some ends is read, or its absence noticed. -/
theorem modulus_read (last : Token) {part : Option (Token × Signed)} (valid : Modulus part)
    (readable : Readable (marked Signed.tokens part))
    (greedy : part = none → Ahead (fun t => t.value ≠ "%") rest) :
    Reading.modulus last (marked Signed.tokens part ++ rest) =
      .ok (part.map fun part => part.2.value, rest) := by
  cases part with
  | none =>
    cases rest with
    | nil => rfl
    | cons t ts => simp [marked, Reading.modulus, (ahead_cons ..).mp (greedy rfl)]
  | some part =>
    obtain ⟨percent, value⟩ := valid part rfl
    rw [marked, readable_cons] at readable
    simp [marked, Reading.modulus, percent, Signed.read last value readable.2, someModulus,
      Except.map]

theorem of_modulus {value : Option Int} (success : Reading.modulus last ts = .ok (value, rest)) :
    ∃ part, Modulus part ∧ Readable (marked Signed.tokens part) ∧
      (part = none → Ahead (fun t => t.value ≠ "%") rest) ∧
      (part.map fun part => part.2.value) = value ∧ ts = marked Signed.tokens part ++ rest := by
  unfold Reading.modulus at success
  split at success
  · cases success
    exact ⟨none, by simp, by simp [marked], by simp, rfl, rfl⟩
  · next percent more =>
    split at success
    · next marks =>
      obtain ⟨⟨n, after⟩, found, same⟩ := map_eq_ok_iff.mp success
      obtain ⟨s, valid, readable, rfl, rfl⟩ := Signed.of_read found
      cases same
      have mark := (Token.kinds_of_isMark (isMark_of_value marks (by decide))).1
      refine ⟨some (percent, s), ?_, ?_, by simp, rfl, rfl⟩
      · rintro part ⟨⟩
        exact ⟨marks, valid⟩
      · simp [marked, readable, mark]
    · next other =>
      cases success
      exact ⟨none, by simp, by simp [marked], by simpa using other, rfl, rfl⟩

/-- One end or two are read as an operand. -/
theorem operand_read (last begin : Token) {low : End} {high : Option (Token × End)}
    {part : Option (Token × Signed)} (valid : (ends low high part).Valid)
    (readable : Readable (ends low high part).tokens)
    (greedy : (ends low high part).Greedy rest) (after : NoSlash rest) :
    Reading.operand last begin ((ends low high part).tokens ++ rest) =
      .ok ((ends low high part).operand, marked Signed.tokens part ++ rest) := by
  obtain ⟨lows, highs, modulus⟩ := valid
  simp only [tokens, readable_append] at readable
  obtain ⟨readableLow, readableHigh, _⟩ := readable
  have beyond := noSlash_modulus modulus after
  simp only [tokens, List.append_assoc]
  cases high with
  | none =>
    rw [Reading.operand, marked, List.nil_append, End.read lows readableLow beyond (by simp)]
    dsimp only [bind, Except.bind]
    split
    · next empty => rw [empty]; rfl
    · next dash more same =>
      have notDash : dash.value ≠ "-" := by
        cases part with
        | none =>
          rw [marked, List.nil_append] at same
          rw [same] at greedy
          exact ((ahead_cons ..).mp greedy).1
        | some part =>
          rw [← (List.cons.inj same).1, (modulus part rfl).1]
          decide
      rw [if_neg notDash, same]
      rfl
  | some part' =>
    obtain ⟨dash, high⟩ := part'
    obtain ⟨dashed, valid, kinds⟩ := highs _ rfl
    rw [marked, readable_cons] at readableHigh
    have slashless : NoSlash (dash :: (high.tokens ++ (marked Signed.tokens part ++ rest))) :=
      (ahead_cons ..).mpr (by rw [dashed]; decide)
    have allowed : (!low.value.isDate) = false → ∀ word day, high ≠ .weekday word day := by
      rintro date word day rfl
      rw [kinds] at date
      contradiction
    rw [Reading.operand, marked, List.cons_append, End.read lows readableLow slashless (by simp)]
    dsimp only [bind, Except.bind]
    rw [if_pos dashed, End.read valid readableHigh.2 beyond allowed]
    dsimp only
    rw [(Reading.Endpoint.upTo?_eq_some_iff _ _ _).mpr ⟨kinds, rfl⟩]
    rfl

theorem of_operand {value : Operand} (success : Reading.operand last begin ts = .ok (value, rest)) :
    ∃ low high, (ends low high none).Valid ∧ Readable (ends low high none).tokens ∧
      (high = none → Ahead (fun t => t.value ≠ "-") rest) ∧ (ends low high none).operand = value ∧
      ts = (ends low high none).tokens ++ rest := by
  unfold Reading.operand at success
  obtain ⟨⟨_, more⟩, found, tail⟩ := bind_eq_ok_iff.mp success
  obtain ⟨low, valid, readable, rfl, rfl⟩ := End.of_read found
  dsimp only at tail
  split at tail
  · cases tail
    exact ⟨low, none, ⟨valid, by simp, by simp⟩, by simpa [tokens, marked] using readable, by simp,
      rfl, by simp [tokens, marked]⟩
  · next dash more =>
    split at tail
    · next dashed =>
      obtain ⟨⟨_, after⟩, found, joined⟩ := bind_eq_ok_iff.mp tail
      obtain ⟨high, valid', readable', rfl, rfl⟩ := End.of_read found
      dsimp only at joined
      split at joined
      · next value fits =>
        cases joined
        obtain ⟨kinds, rfl⟩ := (Reading.Endpoint.upTo?_eq_some_iff _ _ _).mp fits
        have mark := (Token.kinds_of_isMark (isMark_of_value dashed (by decide))).1
        refine ⟨low, some (dash, high), ⟨valid, ?_, by simp⟩, ?_, by simp, rfl, ?_⟩
        · rintro part ⟨⟩
          exact ⟨dashed, valid', kinds⟩
        · simp [tokens, marked, readable, readable', mark]
        · simp [tokens, marked]
      · exact absurd joined blame_ne_ok
    · next notDash =>
      cases tail
      exact ⟨low, none, ⟨valid, by simp, by simp⟩, by simpa [tokens, marked] using readable,
        fun _ => (ahead_cons ..).mpr notDash, rfl, by simp [tokens, marked]⟩

/-- The modulus of a wildcard is read, or its absence noticed. -/
theorem wildcardModulus_read {percent : Token} {part : Option (Option Token × Signed)}
    (valid : (wildcard percent part).Valid) (readable : Readable (modulusTokens part))
    (greedy : (wildcard percent part).Greedy rest) :
    wildcardModulus last (modulusTokens part ++ rest) =
      .ok (part.map fun part => part.2.value, rest) := by
  rcases part with _ | ⟨_ | mark, s⟩
  · cases rest with
    | nil => rfl
    | cons t ts =>
      obtain ⟨notNumber, notDash, notPercent⟩ := (ahead_cons ..).mp greedy
      simp [modulusTokens, wildcardModulus, notNumber, notDash, notPercent]
  · have value := (valid.2 _ rfl).2
    have opens := Signed.opens value
    have notPercent : s.first.value ≠ "%" :=
      OpensEnd.value_ne (opens.imp_right .inl) (by decide)
    obtain ⟨more, same⟩ := s.tokens_eq
    have found := Signed.read last value readable rest
    rw [modulusTokens, Option.toList_none, List.nil_append, same] at *
    rw [List.cons_append, wildcardModulus, if_neg notPercent, if_pos opens.symm, ← List.cons_append,
      found]
    rfl
  · obtain ⟨marks, value⟩ := valid.2 _ rfl
    rw [modulusTokens, readable_append] at readable
    have found := Signed.read last value readable.2 rest
    rw [modulusTokens, Option.toList_some, List.cons_append, List.nil_append, List.cons_append,
      wildcardModulus, if_pos (marks mark rfl), found]
    rfl

theorem of_wildcardModulus {percent : Token} {value : Option Int} (marked : percent.value = "%")
    (success : wildcardModulus last ts = .ok (value, rest)) :
    ∃ part, (wildcard percent part).Valid ∧ Readable (modulusTokens part) ∧
      (wildcard percent part).Greedy rest ∧ (wildcard percent part).modulus = value ∧
      ts = modulusTokens part ++ rest := by
  unfold wildcardModulus at success
  split at success
  · cases success
    exact ⟨none, ⟨marked, by simp⟩, by simp [modulusTokens], by simp [Greedy], rfl, rfl⟩
  · next mark more =>
    split at success
    · next marks =>
      obtain ⟨⟨_, after⟩, found, same⟩ := map_eq_ok_iff.mp success
      obtain ⟨s, valid, readable, rfl, rfl⟩ := Signed.of_read found
      cases same
      have notNumber := (Token.kinds_of_isMark (isMark_of_value marks (by decide))).1
      refine ⟨some (some mark, s), ⟨marked, ?_⟩, ?_, trivial, rfl, rfl⟩
      · rintro part ⟨⟩
        exact ⟨by rintro _ ⟨⟩; exact marks, valid⟩
      · simp [modulusTokens, readable, notNumber]
    · next notPercent =>
      split at success
      · obtain ⟨⟨_, after⟩, found, same⟩ := map_eq_ok_iff.mp success
        obtain ⟨s, valid, readable, rfl, whole⟩ := Signed.of_read found
        cases same
        refine ⟨some (none, s), ⟨marked, ?_⟩, ?_, trivial, rfl, ?_⟩
        · rintro part ⟨⟩
          exact ⟨by simp, valid⟩
        · simpa [modulusTokens] using readable
        · simpa [modulusTokens] using whole
      · next other =>
        cases success
        rw [not_or, Bool.not_eq_true] at other
        exact ⟨none, ⟨marked, by simp⟩, by simp [modulusTokens],
          (ahead_cons ..).mpr ⟨other.1, other.2, notPercent⟩, rfl, rfl⟩

theorem read (last begin : Token) (exclude : Bool) {f : Form} (valid : f.Valid)
    (readable : Readable f.tokens) (greedy : f.Greedy rest) (after : NoSlash rest) :
    Reading.literal last begin exclude (f.tokens ++ rest) =
      .ok (⟨f.operand, begin, exclude, f.modulus⟩, rest) := by
  cases f with
  | wildcard percent part =>
    rw [tokens, readable_cons] at readable
    rw [tokens, List.cons_append, Reading.literal, if_pos valid.1,
      wildcardModulus_read valid readable.2 greedy]
    rfl
  | ends low high part =>
    have notPercent : low.first.value ≠ "%" := (End.opens valid.1).value_ne (by decide)
    have first := operand_read last begin valid readable greedy after
    simp only [tokens, readable_append] at readable
    have bare : part = none → Ahead (fun t => t.value ≠ "%") rest := by
      rintro rfl
      exact not_percent_of_greedy greedy
    have second := modulus_read last valid.2.2 readable.2.2 bare
    obtain ⟨more, same⟩ := (ends low high part).tokens_eq
    rw [same, List.cons_append] at first ⊢
    rw [Reading.literal, first]
    refine (if_neg notPercent).trans ?_
    change (Reading.modulus last (marked Signed.tokens part ++ rest) >>= _) = _
    rw [second]
    rfl

theorem of_read {exclude : Bool} {l : Literal}
    (success : Reading.literal last begin exclude ts = .ok (l, rest)) :
    ∃ f : Form, f.Valid ∧ Readable f.tokens ∧ f.Greedy rest ∧
      l = ⟨f.operand, begin, exclude, f.modulus⟩ ∧ ts = f.tokens ++ rest := by
  unfold Reading.literal at success
  split at success
  · exact absurd success blame_ne_ok
  · next percent more =>
    split at success
    · next marked =>
      obtain ⟨⟨_, after⟩, found, same⟩ := map_eq_ok_iff.mp success
      obtain ⟨part, valid, readable, greedy, rfl, rfl⟩ := of_wildcardModulus marked found
      cases same
      have notNumber := (Token.kinds_of_isMark (isMark_of_value marked (by decide))).1
      exact ⟨.wildcard percent part, valid, by simp [tokens, readable, notNumber], greedy, rfl, rfl⟩
    · obtain ⟨⟨_, middle⟩, found, tail⟩ := bind_eq_ok_iff.mp success
      obtain ⟨low, high, valid, readable, lone, rfl, whole⟩ := of_operand found
      obtain ⟨⟨_, after⟩, read, same⟩ := bind_eq_ok_iff.mp tail
      obtain ⟨part, modulus, readable', bare, rfl, rfl⟩ := of_modulus read
      cases same
      refine ⟨.ends low high part, ⟨valid.1, valid.2.1, modulus⟩, ?_, ?_, ?_, ?_⟩
      · simp only [tokens, readable_append] at readable ⊢
        exact ⟨readable.1, readable.2.1, readable'⟩
      · cases part with
        | some part => cases high <;> exact trivial
        | none =>
          cases high with
          | none => exact fun t first => ⟨lone rfl t first, bare rfl t first⟩
          | some part => exact bare rfl
      · cases high <;> rfl
      · rw [whole]
        simp [tokens, Grammar.marked]

end Form

end Schedule.Grammar
